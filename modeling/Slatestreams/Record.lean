import Slatestreams.Storage.Sequence

/-! # Stream records

The value stored for one append, and the errors of the stream layer. -/

namespace Slatestreams

open Foundation

inductive StreamError where
  | streamDoesNotExist (streamName : String)
  | deserialiseError (message : String)
  | storageError (error : StorageError)
  deriving DecidableEq, Repr

def StreamError.display : StreamError → String
  | .streamDoesNotExist streamName => "Stream with name " ++ streamName ++ " does not exist"
  | .deserialiseError message => message
  | .storageError error => error.display

structure Record where
  seqNum : UInt64
  data : Bytes
  deriving DecidableEq, Repr

namespace Record

def serialise (self : Record) : Bytes := putU64 self.seqNum ++ self.data

def deserialise (buf : Bytes) : Except StreamError Record :=
  if buf.length < 8 then
    .error (.deserialiseError
      ("record should at least have 8 bytes, got " ++ toString buf.length))
  else
    let (numBytes, rest) := buf.splitAt 8
    .ok ⟨UInt64.ofNat (BigEndian.decode numBytes), rest⟩

theorem deserialise_serialise (self : Record) : deserialise self.serialise = .ok self := by
  simp [deserialise, serialise]

end Record

end Slatestreams
