import Slatestreams.Basin
import Slatestreams.Record

/-! # Streams

A stream is an append-only log in the record store. Its numbers come from a
sequence allocator whose reserved block is stored next to the records. -/

namespace Slatestreams

open Foundation

structure StreamView where
  streamName : String
  deriving DecidableEq, Repr

structure AppendResult where
  record : Record
  nextSeqNum : UInt64
  deriving DecidableEq, Repr

structure StreamMetadata where
  basinId : U128
  streamId : U128
  deriving DecidableEq, Repr

namespace StreamMetadata

def serialise (self : StreamMetadata) : Bytes := putU128 self.basinId ++ putU128 self.streamId

def size : Nat := 16 + 16

def deserialise (data : Bytes) : Except StreamError StreamMetadata :=
  if data.length < size then
    .error (.deserialiseError "data buffer smaller than StreamMetadata size")
  else
    let encodedBasinId := BitVec.ofNat 128 (BigEndian.decode (data.take 16))
    let encodedStreamId := BitVec.ofNat 128 (BigEndian.decode ((data.take 32).drop 16))
    .ok { basinId := encodedBasinId, streamId := encodedStreamId }

theorem deserialise_serialise (self : StreamMetadata) :
    deserialise self.serialise = .ok self := by
  have tail : (putU128 self.streamId).take 16 = putU128 self.streamId :=
    List.take_of_length_le (by simp)
  simp [deserialise, serialise, size, List.take_append, tail]

end StreamMetadata

/-- A loaded stream: the in-memory allocator of the stream that `metadata` names. -/
structure Stream where
  sequenceNumberAllocator : SequenceAllocator
  metadata : StreamMetadata
  deriving DecidableEq, Repr

namespace Stream

/-! ## Keys -/

def constructSequenceBlockKey (basinId streamId : U128) : Bytes :=
  BytesBuilder.new
    |>.addU8 RECORD_SEQUENCE_NUMBER_PREFIX_KEY
    |>.addU8 SEQ_STREAM_PREFIX_KEY
    |>.addU128 basinId
    |>.addU128 streamId
    |>.build

def constructStreamRecordKey (basinId streamId : U128) (sequenceNumber : UInt64) : Bytes :=
  BytesBuilder.new
    |>.addU8 RECORD_STREAM_RECORD_PREFIX_KEY
    |>.addU128 basinId
    |>.addU128 streamId
    |>.addU64 sequenceNumber
    |>.build

def constructMetadataKey (basinId : U128) (streamName : String) : Bytes :=
  BytesBuilder.new
    |>.addU8 META_STREAM_PREFIX_KEY
    |>.addU128 basinId
    |>.putStr streamName
    |>.build

def metadataPrefix (basinId : U128) : Bytes :=
  BytesBuilder.new
    |>.addU8 META_STREAM_PREFIX_KEY
    |>.addU128 basinId
    |>.build

theorem constructStreamRecordKey_eq (basinId streamId : U128) (sequenceNumber : UInt64) :
    constructStreamRecordKey basinId streamId sequenceNumber =
      RECORD_STREAM_RECORD_PREFIX_KEY ::
        ((putU128 basinId ++ putU128 streamId) ++ putU64 sequenceNumber) := rfl

theorem constructSequenceBlockKey_injective {basinId streamId basinId' streamId' : U128}
    (equal : constructSequenceBlockKey basinId streamId =
      constructSequenceBlockKey basinId' streamId') :
    basinId = basinId' ∧ streamId = streamId' := by
  have fields := List.append_inj (List.cons.inj (List.cons.inj equal).2).2 (by simp)
  exact ⟨putU128_injective fields.1, putU128_injective fields.2⟩

theorem constructStreamRecordKey_injective {basinId streamId basinId' streamId' : U128}
    {sequenceNumber sequenceNumber' : UInt64}
    (equal : constructStreamRecordKey basinId streamId sequenceNumber =
      constructStreamRecordKey basinId' streamId' sequenceNumber') :
    basinId = basinId' ∧ streamId = streamId' ∧ sequenceNumber = sequenceNumber' := by
  have fields := List.append_inj (List.cons.inj equal).2 (by simp)
  have ids := List.append_inj fields.1 (by simp)
  exact ⟨putU128_injective ids.1, putU128_injective ids.2, putU64_injective fields.2⟩

theorem constructMetadataKey_injective {basinId basinId' : U128} {streamName streamName' : String}
    (equal : constructMetadataKey basinId streamName =
      constructMetadataKey basinId' streamName') :
    basinId = basinId' ∧ streamName = streamName' := by
  have fields := List.append_inj (List.cons.inj equal).2 (by simp)
  exact ⟨putU128_injective fields.1, string_bytes_injective fields.2⟩

@[simp] theorem constructSequenceBlockKey_ne_record (basinId streamId basinId' streamId' : U128)
    (sequenceNumber : UInt64) :
    constructSequenceBlockKey basinId streamId ≠
      constructStreamRecordKey basinId' streamId' sequenceNumber :=
  fun equal => absurd (List.cons.inj equal).1 (by decide)

@[simp] theorem constructMetadataKey_ne_basin (basinId : U128) (streamName basinName : String) :
    constructMetadataKey basinId streamName ≠ Basin.constructMetadataKey basinName :=
  fun equal => absurd (List.cons.inj equal).1 (by decide)

/-! ## Operations -/

def new (basinId : U128) (streamName : String) : ExceptT StreamError (Program storage) Stream := do
  let sequenceNumberAllocator := SequenceAllocator.default
  let streamId ← newV4
  let metadata : StreamMetadata := { basinId, streamId }
  orThrow (apply .metaStorage
      [{ key := constructMetadataKey basinId streamName
         value := metadata.serialise }])
    .storageError
  orThrow (apply .recordStorage
      [{ key := constructSequenceBlockKey basinId streamId
         value := sequenceNumberAllocator.allocation.serialise }])
    .storageError
  return { sequenceNumberAllocator, metadata }

def loadMetadata (basinId : U128) (streamName : String) :
    ExceptT StreamError (Program storage) StreamMetadata := do
  match ← orThrow (get .metaStorage (constructMetadataKey basinId streamName)) .storageError with
  | some record => ofResult (StreamMetadata.deserialise record.value)
  | none => throw (.streamDoesNotExist streamName)

/-- The allocator a load continues with: past the stored block, or from zero
when no block is stored. -/
def loadAllocator (seqBlock : Option StorageRecord) :
    ExceptT StreamError (Program storage) SequenceAllocator := do
  match seqBlock with
  | some record =>
      let seqBlock ← ofResult
        ((SeqBlock.deserialize record.value).mapError fun e => .deserialiseError e.message)
      ExceptT.lift (Program.ofOption "attempt to add with overflow" (SequenceAllocator.new seqBlock))
  | none => return SequenceAllocator.default

def load (basinId : U128) (streamName : String) :
    ExceptT StreamError (Program storage) Stream := do
  let metadata ← loadMetadata basinId streamName
  let seqBlock ← orThrow
    (get .recordStorage (constructSequenceBlockKey basinId metadata.streamId)) .storageError
  return { metadata, sequenceNumberAllocator := ← loadAllocator seqBlock }

/-- The record of an append, after the new block when one has to be stored. -/
def appendBatch (metadata : StreamMetadata) (block : Option SeqBlock) (writeRecord : Record) :
    List StorageRecord :=
  (match block with
    | some block =>
        [{ key := constructSequenceBlockKey metadata.basinId metadata.streamId
           value := block.serialise }]
    | none => []) ++
  [{ key := constructStreamRecordKey metadata.basinId metadata.streamId writeRecord.seqNum
     value := writeRecord.serialise }]

/-- The stream is returned with its allocator moved on whether or not the write
succeeds, as `&mut self` leaves it. -/
def append (self : Stream) (data : Bytes) :
    Program storage (Except StreamError AppendResult × Stream) := do
  let ((seqNum, block), allocator) ←
    Program.ofOption "sequence allocation" (self.sequenceNumberAllocator.allocate 1)
  let self := { self with sequenceNumberAllocator := allocator }
  let writeRecord : Record := { seqNum, data }
  match ← apply .recordStorage (appendBatch self.metadata block writeRecord) with
  | .error error => return (.error (.storageError error), self)
  | .ok () =>
      return (.ok { record := writeRecord
                    nextSeqNum := self.sequenceNumberAllocator.nextSequenceNumber }, self)

def read (self : Stream) (seqNum : UInt64) :
    Program storage (Except StreamError (Option Record)) := ExceptT.run do
  let result ← orThrow
    (get .recordStorage
      (constructStreamRecordKey self.metadata.basinId self.metadata.streamId seqNum))
    StreamError.storageError
  match result with
  | some record =>
      let streamRecord ← ofResult
        ((Record.deserialise record.value).mapError fun e => .deserialiseError e.display)
      return some streamRecord
  | none => return none

def nextSeqNum (self : Stream) : UInt64 := self.sequenceNumberAllocator.nextSequenceNumber

/-- The `while let Some(record)` loop of `list` over the records still to come. -/
def listRecords (basinId : U128) :
    List StorageRecord → ExceptT StreamError (Program storage) (List StreamView)
  | [] => do
      let _ ← orThrow (nextRecord []) .storageError
      return []
  | record :: rest => do
      match ← orThrow (nextRecord (record :: rest)) StreamError.storageError with
      | none => return []
      | some record =>
          let _ ← ofResult (StreamMetadata.deserialise record.value)
          let streamName ← ofResult
            ((fromUtf8 (record.key.drop (metadataPrefix basinId).length)).mapError
              .deserialiseError)
          return { streamName } :: (← listRecords basinId rest)

def list (basinId : U128) : ExceptT StreamError (Program storage) (List StreamView) := do
  let iter ← orThrow (scanIter .metaStorage (prefixRange (metadataPrefix basinId))) .storageError
  let streams ← listRecords basinId iter
  return streams.mergeSort fun a b => nameLe a.streamName b.streamName

end Stream

end Slatestreams
