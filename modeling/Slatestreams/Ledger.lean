import Mathlib.Data.List.Nodup
import Slatestreams.Foundation.ReservedLog
import Slatestreams.Service

/-! # A catalog of logs

What the server is for: basins with streams, each an append-only log. There are
no stores, no caches, no actors and no ids; a restart goes on after the numbers
that were reserved. -/

namespace Slatestreams

open Foundation

abbrev StreamLog : Type := ReservedLog Bytes

namespace StreamLog

theorem blockSize_pos : 0 < DEFAULT_BLOCK_SIZE.toNat := by decide

def empty : StreamLog := ReservedLog.empty DEFAULT_BLOCK_SIZE.toNat

def append (self : StreamLog) (data : Bytes) : StreamLog :=
  ReservedLog.append blockSize_pos self data

/-- An entry as a reader gets it. -/
def record (entry : Nat × Bytes) : Record := ⟨UInt64.ofNat entry.1, entry.2⟩

def records (self : StreamLog) : List Record := self.entries.map record

end StreamLog

/-- The names in use, and the log of each stream. -/
structure Ledger where
  basins : List String
  streams : List (String × String)
  logs : String × String → StreamLog
  basinsNodup : basins.Nodup
  streamsNodup : streams.Nodup
  inBasin : ∀ name ∈ streams, name.1 ∈ basins
  unused : ∀ name, name ∉ streams → logs name = .empty

namespace Ledger

def empty : Ledger where
  basins := []
  streams := []
  logs _ := .empty
  basinsNodup := .nil
  streamsNodup := .nil
  inBasin _ member := absurd member List.not_mem_nil
  unused _ _ := rfl

/-- An append makes the names that are not in use yet. -/
def append (self : Ledger) (name : String × String) (data : Bytes) : Ledger where
  basins := self.basins.insert name.1
  streams := self.streams.insert name
  logs := Function.update self.logs name ((self.logs name).append data)
  basinsNodup := self.basinsNodup.insert
  streamsNodup := self.streamsNodup.insert
  inBasin other member := by
    rcases List.mem_insert_iff.mp member with rfl | earlier
    · exact List.mem_insert_iff.mpr (.inl rfl)
    · exact List.mem_insert_iff.mpr (.inr (self.inBasin other earlier))
  unused other absent := by
    have different : other ≠ name := fun same =>
      absent (List.mem_insert_iff.mpr (.inl same))
    rw [Function.update_of_ne different]
    exact self.unused other fun member => absent (List.mem_insert_iff.mpr (.inr member))

/-- A restart goes on after the reserved numbers, in the streams that there are. -/
def recover (self : Ledger) : Ledger :=
  { self with
    logs := fun name => if name ∈ self.streams then (self.logs name).recover else self.logs name
    unused := fun name absent => by
      rw [if_neg absent]
      exact self.unused name absent }

def streamNames (self : Ledger) (basinName : String) : List String :=
  (self.streams.filter fun name => name.1 = basinName).map Prod.snd

/-- Whether there is a stream of the name. -/
def find (self : Ledger) (name : String × String) : Except ControllerError Unit :=
  match validateNames name with
  | .error error => .error error
  | .ok () =>
      if name.1 ∈ self.basins then
        if name ∈ self.streams then .ok ()
        else .error (.notFound ("stream " ++ name.1 ++ "/" ++ name.2))
      else .error (.notFound ("basin " ++ name.1))

def listBasins (self : Ledger) : List BasinView := (self.basins.mergeSort nameLe).map BasinView.mk

def listStreams (self : Ledger) (basinName : String) :
    Except ControllerError (List StreamView) :=
  match validateName "basin_name" basinName with
  | .error error => .error error
  | .ok () =>
      if basinName ∈ self.basins then
        .ok (((self.streamNames basinName).mergeSort nameLe).map StreamView.mk)
      else .error (.notFound ("basin " ++ basinName))

/-- What is read is not said here: the steps of readers have no outcome. -/
def perform : Machine Ledger Operation Outcome := fun self => fun
  | .append basinName streamName data =>
      match validateNames (basinName, streamName) with
      | .error error => (.appended (some (.error error)), self)
      | .ok () =>
          (.appended (some (.ok (UInt64.ofNat ((self.logs (basinName, streamName)).tail + 1)))),
            self.append (basinName, streamName) data)
  | .readFollow reader _ => (.following (some (self.find reader.name)), self)
  | .advance _ | .receive _ => (.silent, self)
  | .listBasins _ => (.basins (some (.ok self.listBasins)), self)
  | .listStreams _ basinName => (.streams (some (self.listStreams basinName)), self)
  | .restart => (.silent, self.recover)

theorem mem_streamNames {self : Ledger} {basinName streamName : String} :
    streamName ∈ self.streamNames basinName ↔ (basinName, streamName) ∈ self.streams := by
  simp only [streamNames, List.mem_map, List.mem_filter, decide_eq_true_eq, Prod.exists]
  constructor
  · rintro ⟨basin, stream, ⟨member, rfl⟩, rfl⟩
    exact member
  · intro member
    exact ⟨basinName, streamName, ⟨member, rfl⟩, rfl⟩

theorem nodup_streamNames (self : Ledger) (basinName : String) :
    (self.streamNames basinName).Nodup := by
  apply List.Nodup.map_on _ (self.streamsNodup.filter _)
  intro left leftMember right rightMember same
  have leftBasin := of_decide_eq_true (List.mem_filter.mp leftMember).2
  have rightBasin := of_decide_eq_true (List.mem_filter.mp rightMember).2
  exact Prod.ext (leftBasin.trans rightBasin.symm) same

end Ledger

end Slatestreams
