import Slatestreams.Grpc

/-! # The client library

A reading client takes the items of the response stream one at a time, or
collects all that are left. -/

namespace Slatestreams

/-- A record as a client has it. -/
structure ClientRecord where
  seqNum : UInt64
  data : Bytes
  deriving DecidableEq, Repr

def ClientRecord.ofStreamRecord (record : Pb.StreamRecord) : ClientRecord :=
  { seqNum := record.seqNum, data := record.data }

/-- The response stream, with the items that are still to come before it ends. -/
structure RecordStream where
  inner : List (Except Status Pb.StreamRecord)

namespace RecordStream

def next (self : RecordStream) : Option (Except Status ClientRecord) × RecordStream :=
  match self.inner with
  | [] => (none, self)
  | item :: inner => (some (item.map ClientRecord.ofStreamRecord), { inner })

/-- The `while let Some(result)` loop of `collect`; each item is taken off by `next`. -/
def collectInto (records : List ClientRecord) :
    List (Except Status Pb.StreamRecord) → Except Status (List ClientRecord)
  | [] => .ok records
  | item :: inner =>
      match item.map ClientRecord.ofStreamRecord with
      | .ok record => collectInto (records ++ [record]) inner
      | .error status => .error status

def collect (self : RecordStream) : Except Status (List ClientRecord) :=
  collectInto [] self.inner

/-- A turn of the loop takes the next item. -/
theorem collectInto_eq (records : List ClientRecord) (self : RecordStream) :
    collectInto records self.inner =
      match self.next with
      | (none, _) => .ok records
      | (some (.ok record), rest) => collectInto (records ++ [record]) rest.inner
      | (some (.error status), _) => .error status := by
  rcases self with ⟨_ | ⟨item, inner⟩⟩
  · rfl
  · cases item <;> rfl

theorem collectInto_records (collected : List ClientRecord) (records : List Pb.StreamRecord)
    (rest : List (Except Status Pb.StreamRecord)) :
    collectInto collected (records.map Except.ok ++ rest) =
      collectInto (collected ++ records.map ClientRecord.ofStreamRecord) rest := by
  induction records generalizing collected with
  | nil => simp
  | cons record records induction =>
      change collectInto (collected ++ [_]) (records.map Except.ok ++ rest) = _
      rw [induction, List.append_assoc]
      rfl

/-- What was collected is lost when an error comes. -/
theorem collect_error (records : List Pb.StreamRecord) (status : Status)
    (rest : List (Except Status Pb.StreamRecord)) :
    collect ⟨records.map Except.ok ++ .error status :: rest⟩ = .error status :=
  collectInto_records [] records _

theorem collect_ok (records : List Pb.StreamRecord) :
    collect ⟨records.map Except.ok⟩ = .ok (records.map ClientRecord.ofStreamRecord) := by
  have collected := collectInto_records [] records []
  rw [List.append_nil] at collected
  exact collected

end RecordStream

end Slatestreams
