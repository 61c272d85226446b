import Slatestreams.Storage.Sequence

/-! # The store in memory

The store the tests run on: one ordered map behind a read-write lock. A scan
copies the records of its range out of the map. -/

namespace Slatestreams

open Foundation

/-! ## Ranges of a `BTreeMap` -/

/-- The ranges `BTreeMap::range` panics on: the start is above the end, or both
ends are excluded and equal. -/
def BytesRange.inverted (range : BytesRange) : Bool :=
  match range.start, range.finish with
  | .excluded start, .excluded finish => start = finish || finish < start
  | .included start, .included finish => finish < start
  | .included start, .excluded finish => finish < start
  | .excluded start, .included finish => finish < start
  | .unbounded, _ => false
  | _, .unbounded => false

/-- The key lies before the range that starts here. -/
def Bound.before (start : Bound) (key : Bytes) : Bool :=
  match start with
  | .included start => key < start
  | .excluded start => !decide (start < key)
  | .unbounded => false

/-- The key does not lie past the range that ends here. -/
def Bound.within (finish : Bound) (key : Bytes) : Bool :=
  match finish with
  | .included finish => !decide (finish < key)
  | .excluded finish => key < finish
  | .unbounded => true

/-- `BTreeMap::range`: the tree is searched for both ends. -/
def Contents.range (contents : Contents) (range : BytesRange) : Option (List (Bytes × Bytes)) :=
  if range.inverted then none
  else some (OrderedMap.range contents range.start.before range.finish.within)

/-! ## The store -/

structure WriteResult where
  seqnum : UInt64
  deriving DecidableEq, Repr

structure InMemoryIterator where
  records : List StorageRecord
  position : Nat
  deriving DecidableEq, Repr

def InMemoryIterator.next (self : InMemoryIterator) :
    Except StorageError (Option StorageRecord) × InMemoryIterator :=
  if h : self.records.length ≤ self.position then (.ok none, self)
  else
    let record := self.records[self.position]
    (.ok (some record), { self with position := self.position + 1 })

/-- The map with the poison flag of its lock, and the number of applies. -/
structure InMemoryStorage where
  tree : Contents
  poisoned : Bool
  seqnum : UInt64

namespace InMemoryStorage

def new : InMemoryStorage := ⟨.empty, false, 0⟩

def lock (self : InMemoryStorage) : Except StorageError Contents :=
  if self.poisoned then
    .error (.internal "lock poisoned: poisoned lock: another task failed inside")
  else .ok self.tree

/-- A panic, which has no result, unwinds with the lock held for writing. -/
def apply (self : InMemoryStorage) (batch : List StorageRecord) :
    Option (Except StorageError WriteResult) × InMemoryStorage :=
  match self.lock with
  | .error error => (some (.error error), self)
  | .ok tree =>
      let tree := tree.apply batch
      let seqnum := addU64 self.seqnum 1
      (seqnum.map fun seqnum => .ok { seqnum },
        { tree, poisoned := seqnum.isNone, seqnum := self.seqnum + 1 })

def get (self : InMemoryStorage) (key : Bytes) : Except StorageError (Option StorageRecord) := do
  let tree ← self.lock
  return (tree.get key).map fun value => { key, value }

/-- A panic unwinds with the lock held for reading, which does not poison it. -/
def scanIter (self : InMemoryStorage) (range : BytesRange) :
    Option (Except StorageError InMemoryIterator) :=
  match self.lock with
  | .error error => some (.error error)
  | .ok tree => do
      let records := (← tree.range range).map fun entry => { key := entry.1, value := entry.2 }
      return .ok { records, position := 0 }

/-! ## Ranges and their predicate -/

section Ranges

variable {left right : Bytes} (less : left < right)

include less

theorem before_closed (start : Bound) (before : start.before right = true) :
    start.before left = true := by
  cases start with
  | included start =>
      exact decide_eq_true (List.lt_trans less (of_decide_eq_true before))
  | excluded start =>
      have notLess : ¬start < right := by simpa [Bound.before] using before
      have earlier : ¬start < left := fun after => notLess (List.lt_trans after less)
      simpa [Bound.before] using earlier
  | unbounded => cases before

theorem within_closed (finish : Bound) (within : finish.within right = true) :
    finish.within left = true := by
  cases finish with
  | included finish =>
      have notLess : ¬finish < right := by simpa [Bound.within] using within
      have earlier : ¬finish < left := fun after => notLess (List.lt_trans after less)
      simpa [Bound.within] using earlier
  | excluded finish =>
      exact decide_eq_true (List.lt_trans less (of_decide_eq_true within))
  | unbounded => rfl

end Ranges

theorem contains_eq (range : BytesRange) (key : Bytes) :
    range.contains key = (!range.start.before key && range.finish.within key) := by
  rcases range with ⟨start, finish⟩
  cases start <;> cases finish <;> simp [BytesRange.contains, Bound.before, Bound.within]

/-- Where the search does not panic, it finds what the predicate selects. -/
theorem range_eq_scan (contents : Contents) {range : BytesRange}
    (ordered : range.inverted = false) :
    contents.range range = some (contents.scan range.contains) := by
  have searched := OrderedMap.range_eq_scan contents
    (fun _ _ less => before_closed less range.start)
    (fun _ _ less => within_closed less range.finish)
  have same : range.contains = fun key => !range.start.before key && range.finish.within key :=
    funext fun key => contains_eq range key
  rw [Contents.range, ordered, searched, same]
  rfl

/-! ## What has been written -/

/-- The last value that the batches write under a key. -/
def lastApplied (batches : List (List StorageRecord)) (key : Bytes) : Option Bytes :=
  (batches.flatten.reverse.find? fun record => record.key = key).map StorageRecord.value

/-- Apply batches in order, all with success. -/
def applyAll (self : InMemoryStorage) : List (List StorageRecord) → Option InMemoryStorage
  | [] => some self
  | batch :: rest =>
      match self.apply batch with
      | (some (.ok _), after) => after.applyAll rest
      | _ => none

/-- A later batch has the last word on the keys it names. -/
theorem lastApplied_snoc (batches : List (List StorageRecord)) (batch : List StorageRecord)
    (key : Bytes) :
    lastApplied (batches ++ [batch]) key =
      (lastApplied [batch] key).or (lastApplied batches key) := by
  simp only [lastApplied, List.flatten_append, List.flatten_singleton, List.reverse_append,
    List.find?_append, Option.map_or]

theorem get_contentsApply (contents : Contents) (batch : List StorageRecord) (key : Bytes) :
    (contents.apply batch).get key = (lastApplied [batch] key).or (contents.get key) := by
  induction batch generalizing contents with
  | nil => rfl
  | cons record rest induction =>
      have split : lastApplied [record :: rest] key =
          (lastApplied [rest] key).or (lastApplied [[record]] key) := by
        simp only [lastApplied, List.flatten_singleton, List.reverse_cons, List.find?_append,
          List.reverse_nil, List.nil_append, Option.map_or]
      rw [Contents.apply_cons, induction, split, Option.or_assoc, Contents.get_insert]
      congr 1
      by_cases same : record.key = key <;> simp [lastApplied, same]

theorem apply_ok {self after : InMemoryStorage} {batch : List StorageRecord}
    {result : WriteResult} (applied : self.apply batch = (some (.ok result), after)) :
    self.poisoned = false ∧ after.poisoned = false ∧ after.tree = self.tree.apply batch := by
  unfold apply lock at applied
  cases poisoned : self.poisoned with
  | true =>
      rw [poisoned] at applied
      cases applied
  | false =>
      rw [poisoned] at applied
      cases added : addU64 self.seqnum 1 with
      | none =>
          simp only [added] at applied
          cases applied
      | some seqnum =>
          simp only [added] at applied
          cases applied
          exact ⟨rfl, rfl, rfl⟩

/-- The state after some batches: the lock is sound and the map holds their last values. -/
structure Holds (storage : InMemoryStorage) (batches : List (List StorageRecord)) : Prop where
  sound : storage.poisoned = false
  last : ∀ key, OrderedMap.get storage.tree key = lastApplied batches key

theorem holds_new : new.Holds [] := ⟨rfl, fun _ => rfl⟩

theorem Holds.applyAll {self after : InMemoryStorage} {before batches : List (List StorageRecord)}
    (holds : self.Holds before) (applied : self.applyAll batches = some after) :
    after.Holds (before ++ batches) := by
  induction batches generalizing self before with
  | nil =>
      cases applied
      rwa [List.append_nil]
  | cons batch rest induction =>
      rw [InMemoryStorage.applyAll] at applied
      split at applied
      · rename_i result middle step
        rcases apply_ok step with ⟨_, sound, tree⟩
        have next : middle.Holds (before ++ [batch]) := by
          refine ⟨sound, fun key => ?_⟩
          rw [tree, get_contentsApply, holds.last, lastApplied_snoc]
        rw [List.append_cons]
        exact induction next applied
      · cases applied

/-! ## Scans and later applies -/

inductive ScanCall where
  | apply (batch : List StorageRecord)
  | next
  deriving DecidableEq, Repr

/-- What the calls of `next` return, with applies of the store in between. -/
def answers (self : InMemoryStorage) (iterator : InMemoryIterator) :
    List ScanCall → List (Except StorageError (Option StorageRecord))
  | [] => []
  | .apply batch :: rest => (self.apply batch).2.answers iterator rest
  | .next :: rest => iterator.next.1 :: self.answers iterator.next.2 rest

/-- The records one after the other, and then nothing. -/
theorem answers_eq (self : InMemoryStorage) (iterator : InMemoryIterator) (calls : List ScanCall) :
    self.answers iterator calls = (List.range (calls.count .next)).map fun i =>
      .ok iterator.records[iterator.position + i]? := by
  induction calls generalizing self iterator with
  | nil => rfl
  | cons call rest induction =>
      cases call with
      | apply batch =>
          rw [answers, induction, List.count_cons_of_ne (by simp)]
      | next =>
          rw [answers, induction, List.count_cons_self, List.range_succ_eq_map, List.map_cons,
            List.map_map]
          rcases iterator with ⟨records, position⟩
          by_cases past : records.length ≤ position
          · have none_ (i : Nat) : records[position + i]? = none :=
              List.getElem?_eq_none (by omega)
            have ended : (InMemoryIterator.mk records position).next =
                (.ok none, ⟨records, position⟩) := dif_pos past
            rw [ended]
            simp only [none_]
            rfl
          · have shift (i : Nat) : position + 1 + i = position + (i + 1) := by omega
            have within : position < records.length := Nat.lt_of_not_le past
            have found : records[position]? = some records[position] :=
              List.getElem?_eq_getElem within
            simp [InMemoryIterator.next, past, found, shift]

/-- The store after the batches agrees with the predicate of a range. -/
structure Agrees (storage : InMemoryStorage) (batches : List (List StorageRecord))
    (range : BytesRange) : Prop where
  get : ∀ key, storage.get key = .ok ((lastApplied batches key).map fun value => { key, value })
  scan : ∃ (iterator : InMemoryIterator) (records : List StorageRecord),
    storage.scanIter range = some (.ok iterator) ∧
    (∀ record : StorageRecord, record ∈ records ↔
      range.contains record.key = true ∧ lastApplied batches record.key = some record.value) ∧
    records.Pairwise (fun left right => left.key < right.key) ∧
    ∀ calls, storage.answers iterator calls =
      (List.range (calls.count .next)).map fun i => .ok records[i]?

theorem Holds.scanIter_eq {self : InMemoryStorage} {batches : List (List StorageRecord)}
    (holds : self.Holds batches) (range : BytesRange) :
    self.scanIter range =
      if range.inverted then none else some (.ok ⟨self.tree.scanIter range, 0⟩) := by
  unfold scanIter lock
  rw [holds.sound]
  cases ordered : range.inverted with
  | true => simp [Contents.range, ordered]
  | false => simp [range_eq_scan _ ordered, Contents.scanIter]

theorem mem_scanIter {contents : Contents} {range : BytesRange} {record : StorageRecord} :
    record ∈ contents.scanIter range ↔
      range.contains record.key = true ∧ contents.get record.key = some record.value := by
  rw [Contents.scanIter, List.mem_map]
  constructor
  · rintro ⟨entry, member, rfl⟩
    exact (OrderedMap.mem_scan.mp member).symm
  · rintro ⟨inside, found⟩
    exact ⟨(record.key, record.value), OrderedMap.mem_scan.mpr ⟨found, inside⟩, rfl⟩

theorem sorted_scanIter (contents : Contents) (range : BytesRange) :
    (contents.scanIter range).Pairwise fun left right => left.key < right.key :=
  List.pairwise_map.mpr (OrderedMap.sorted_scan contents _)

/-- The store agrees with the predicate exactly on the ranges that are not inverted. -/
theorem agrees_iff_ordered {batches : List (List StorageRecord)} {storage : InMemoryStorage}
    (applied : new.applyAll batches = some storage) (range : BytesRange) :
    storage.Agrees batches range ↔ range.inverted = false := by
  have holds : storage.Holds batches := holds_new.applyAll applied
  have scanned := holds.scanIter_eq range
  constructor
  · intro agrees
    rcases agrees.scan with ⟨iterator, records, opened, _⟩
    cases inverted : range.inverted with
    | false => rfl
    | true =>
        rw [scanned, inverted] at opened
        cases opened
  · intro ordered
    rw [ordered] at scanned
    refine ⟨fun key => ?_, _, storage.tree.scanIter range, scanned, fun record => ?_,
      sorted_scanIter _ _, fun calls => ?_⟩
    · unfold get lock
      rw [holds.sound, ← holds.last key]
      rfl
    · rw [mem_scanIter, holds.last]
    · rw [answers_eq]
      simp

/-- A key written twice, scanned up to and without another. -/
theorem agrees_iff_ordered_overwritten :
    ∃ storage, new.applyAll [[⟨[1], [7]⟩, ⟨[2], [8]⟩], [⟨[1], [9]⟩]] = some storage ∧
      storage.Agrees [[⟨[1], [7]⟩, ⟨[2], [8]⟩], [⟨[1], [9]⟩]] ⟨.included [1], .excluded [2]⟩ := by
  have applied : new.applyAll [[⟨[1], [7]⟩, ⟨[2], [8]⟩], [⟨[1], [9]⟩]] = some _ := rfl
  exact ⟨_, applied, (agrees_iff_ordered applied ⟨.included [1], .excluded [2]⟩).mpr (by decide)⟩

/-- No key lies in this range, and the scan panics. -/
theorem scanIter_panics_inverted :
    ∃ storage, new.applyAll [[⟨[5], [9]⟩]] = some storage ∧
      ¬storage.Agrees [[⟨[5], [9]⟩]] ⟨.included [7], .excluded [3]⟩ := by
  refine ⟨_, rfl, fun agrees => ?_⟩
  rcases agrees.scan with ⟨iterator, records, opened, _⟩
  cases opened

end InMemoryStorage

end Slatestreams
