import Slatestreams.Storage.Sequence

/-! # Allocations across reloads

A sequence allocator is used, each block it returns is stored, and at any time
it is replaced by one that resumes from the stored block. -/

namespace Slatestreams

/-- An allocator and the block that is stored for it. -/
structure Reservation where
  allocator : SequenceAllocator
  stored : SeqBlock
  deriving DecidableEq, Repr

inductive ReservationCall where
  | allocate (count : UInt64)
  | reload
  deriving DecidableEq, Repr

/-- One answer of `allocate`, with the block it drew from and the block that is
stored once the returned one is. -/
structure Allocation where
  start : UInt64
  count : UInt64
  returned : Option SeqBlock
  drawnFrom : SeqBlock
  stored : SeqBlock
  deriving DecidableEq, Repr

/-- The end of the numbers handed out, not including it. -/
def Allocation.finish (self : Allocation) : Nat := self.start.toNat + self.count.toNat

namespace Reservation

/-- The initial block counts as stored. -/
def opened (allocator : SequenceAllocator) : Reservation := ⟨allocator, allocator.allocation⟩

/-- A reload has no allocation to show, and a panic has no answer at all. -/
def step (self : Reservation) : ReservationCall → Option (Option Allocation × Reservation)
  | .allocate count => do
      let ((start, returned), allocator) ← self.allocator.allocate count
      let stored := returned.getD self.stored
      let drawnFrom := self.allocator.allocation
      return (some { start, count, returned, drawnFrom, stored }, { allocator, stored })
  | .reload => do
      let allocator ← SequenceAllocator.new self.stored
      return (none, { self with allocator })

def run (self : Reservation) : List ReservationCall → Option (List (Option Allocation) × Reservation)
  | [] => some ([], self)
  | call :: rest => do
      let (answer, next) ← self.step call
      let (answers, final) ← next.run rest
      return (answer :: answers, final)

/-- Before every call the current block is two block sizes below the top of `u64`. -/
def bounded (self : Reservation) : List ReservationCall → Bool
  | [] => true
  | call :: rest =>
      self.allocator.currentBlock.start.toNat + 2 * self.allocator.currentBlock.blockSize.toNat ≤
          2 ^ 64 - 1 &&
        match self.step call with
        | some (_, next) => next.bounded rest
        | none => true

/-! ## One call -/

/-- The current block is the stored one, and the cursor lies in it or just past it. -/
structure Current (reservation : Reservation) : Prop where
  valid : reservation.allocator.Valid
  stored : reservation.stored = reservation.allocator.currentBlock

theorem current_opened {allocator : SequenceAllocator} (valid : allocator.Valid) :
    (opened allocator).Current := ⟨valid, rfl⟩

/-- The cursor is never moved back. -/
structure Advances (before after : Reservation) : Prop where
  current : after.Current
  blockSize : after.allocator.currentBlock.blockSize = before.allocator.currentBlock.blockSize
  next_le : before.allocator.nextSequenceNumber.toNat ≤ after.allocator.nextSequenceNumber.toNat

/-- What an allocation hands out, and where it leaves the cursor. -/
structure Grants (before after : Reservation) (allocation : Allocation) : Prop where
  advances : Advances before after
  start_eq : allocation.start = before.allocator.nextSequenceNumber
  finish_eq : allocation.finish = after.allocator.nextSequenceNumber.toNat
  reserved : ∃ base, allocation.stored.nextBase = some base ∧ allocation.finish ≤ base.toNat
  returned_iff : allocation.returned.isSome = true ↔
    allocation.drawnFrom.start.toNat + allocation.drawnFrom.blockSize.toNat ≤ allocation.finish

section Step

variable {self : Reservation} (current : self.Current)
  (bound : self.allocator.currentBlock.start.toNat +
    2 * self.allocator.currentBlock.blockSize.toNat ≤ 2 ^ 64 - 1)

include current bound

theorem step_allocate {count : UInt64} (fits : count ≤ self.allocator.currentBlock.blockSize) :
    ∃ allocation after, self.step (.allocate count) = some (some allocation, after) ∧
      Grants self after allocation := by
  have fitsNat := UInt64.le_iff_toNat_le.mp fits
  have answered := SequenceAllocator.allocate_isSome current.valid fitsNat (by omega)
  rcases Option.isSome_iff_exists.mp answered with ⟨⟨⟨start, returned⟩, allocator⟩, allocated⟩
  rcases SequenceAllocator.allocate_eq_some allocated with ⟨rfl, moved⟩
  have valid := moved.valid current.valid fitsNat
  have advanced := moved.next_eq
  have top := current.valid.next_le
  let stored := returned.getD self.stored
  let allocation : Allocation :=
    ⟨self.allocator.nextSequenceNumber, count, returned, self.allocator.currentBlock, stored⟩
  have finish : allocation.finish = allocator.nextSequenceNumber.toNat := advanced.symm
  have kept : stored = allocator.currentBlock := by
    cases moved with
    | within _ _ => exact current.stored
    | crossing _ _ _ => rfl
  have room : allocator.currentBlock.start.toNat + allocator.currentBlock.blockSize.toNat <
      2 ^ 64 := by
    cases moved with
    | within _ _ => simp only; omega
    | crossing _ _ newStart => simp only; omega
  have base : stored.nextBase =
      some (allocator.currentBlock.start + allocator.currentBlock.blockSize) := by
    rw [kept]
    exact addU64_of_lt room
  have baseValue := addU64_eq_some base
  rw [kept] at baseValue
  have stepped : self.step (.allocate count) = some (some allocation, ⟨allocator, stored⟩) := by
    simp only [step, allocated, Option.bind_eq_bind, Option.bind_some]
    rfl
  refine ⟨allocation, ⟨allocator, stored⟩, stepped,
    ⟨⟨valid, kept⟩, moved.blockSize_eq, ?_⟩, rfl, finish, ⟨_, base, ?_⟩, ?_⟩
  · simp only
    omega
  · rw [finish, baseValue]
    exact valid.next_le
  · rw [finish]
    cases moved with
    | within _ inside => exact ⟨nofun, fun reached => absurd inside (Nat.not_lt.mpr reached)⟩
    | crossing _ reached _ => exact ⟨fun _ => reached, fun _ => rfl⟩

theorem step_reload :
    ∃ after, self.step .reload = some (none, after) ∧ Advances self after := by
  have base := addU64_of_lt (show self.stored.start.toNat + self.stored.blockSize.toNat < 2 ^ 64 by
    rw [current.stored]
    omega)
  have created : SequenceAllocator.new self.stored =
      some ⟨self.stored.start + self.stored.blockSize, self.stored⟩ := by
    rw [SequenceAllocator.new, SeqBlock.nextBase, base]
    rfl
  have positive : 1 ≤ self.stored.blockSize.toNat := by
    rw [current.stored]
    exact current.valid.blockSize_pos
  have next := (SequenceAllocator.new_eq_some created).2
  have top := current.valid.next_le
  rw [← current.stored] at top
  refine ⟨_, by simp only [step, created]; rfl, ⟨SequenceAllocator.valid_of_new positive created, rfl⟩,
    congrArg SeqBlock.blockSize current.stored, ?_⟩
  simp only at next ⊢
  omega

end Step

/-! ## All calls -/

/-- What the answers to a sequence of calls say about the ranges handed out: none
starts before the cursor at the beginning, they follow each other without overlap, without
a gap where no reload lies between, and each is reserved when it is answered. -/
structure HandsOut (before : Reservation) (answers : List (Option Allocation)) : Prop where
  start_le : ∀ allocation, some allocation ∈ answers →
    before.allocator.nextSequenceNumber.toNat ≤ allocation.start.toNat
  head : ∀ allocation rest, answers = some allocation :: rest →
    allocation.start = before.allocator.nextSequenceNumber
  disjoint : (answers.filterMap id).Pairwise fun left right => left.finish ≤ right.start.toNat
  contiguous : ∀ earlier left right later,
    answers = earlier ++ some left :: some right :: later → left.finish = right.start.toNat
  reserved : ∀ allocation, some allocation ∈ answers →
    ∃ base, allocation.stored.nextBase = some base ∧ allocation.finish ≤ base.toNat
  returned_iff : ∀ allocation, some allocation ∈ answers →
    (allocation.returned.isSome = true ↔
      allocation.drawnFrom.start.toNat + allocation.drawnFrom.blockSize.toNat ≤ allocation.finish)

theorem handsOut_nil (before : Reservation) : before.HandsOut [] where
  start_le _ member := nomatch member
  head _ _ equal := nomatch equal
  disjoint := .nil
  contiguous earlier _ _ _ equal := by cases earlier <;> cases equal
  reserved _ member := nomatch member
  returned_iff _ member := nomatch member

theorem HandsOut.reload {before after : Reservation} {answers : List (Option Allocation)}
    (handsOut : after.HandsOut answers) (advances : Advances before after) :
    before.HandsOut (none :: answers) where
  start_le allocation member := by
    rcases List.mem_cons.mp member with equal | later
    · cases equal
    · exact Nat.le_trans advances.next_le (handsOut.start_le allocation later)
  head _ _ equal := by cases equal
  disjoint := handsOut.disjoint
  contiguous earlier left right later equal := by
    cases earlier with
    | nil => cases equal
    | cons first earlier => exact handsOut.contiguous earlier left right later (List.cons.inj equal).2
  reserved allocation member := by
    rcases List.mem_cons.mp member with equal | later
    · cases equal
    · exact handsOut.reserved allocation later
  returned_iff allocation member := by
    rcases List.mem_cons.mp member with equal | later
    · cases equal
    · exact handsOut.returned_iff allocation later

theorem HandsOut.allocate {before after : Reservation} {answers : List (Option Allocation)}
    {allocation : Allocation} (handsOut : after.HandsOut answers)
    (grants : Grants before after allocation) :
    before.HandsOut (some allocation :: answers) where
  start_le other member := by
    rcases List.mem_cons.mp member with equal | later
    · cases equal
      exact Nat.le_of_eq (congrArg UInt64.toNat grants.start_eq.symm)
    · exact Nat.le_trans grants.advances.next_le (handsOut.start_le other later)
  head other rest equal := by
    cases equal
    exact grants.start_eq
  disjoint := by
    refine List.pairwise_cons.mpr ⟨fun other member => ?_, handsOut.disjoint⟩
    rcases List.mem_filterMap.mp member with ⟨answer, answered, rfl⟩
    rw [grants.finish_eq]
    exact handsOut.start_le other answered
  contiguous earlier left right later equal := by
    cases earlier with
    | nil =>
        rcases List.cons.inj equal with ⟨first, rest⟩
        cases first
        rw [grants.finish_eq, handsOut.head right later rest]
    | cons first earlier => exact handsOut.contiguous earlier left right later (List.cons.inj equal).2
  reserved other member := by
    rcases List.mem_cons.mp member with equal | later
    · cases equal
      exact grants.reserved
    · exact handsOut.reserved other later
  returned_iff other member := by
    rcases List.mem_cons.mp member with equal | later
    · cases equal
      exact grants.returned_iff
    · exact handsOut.returned_iff other later

theorem Current.run {before : Reservation} (current : before.Current)
    {calls : List ReservationCall}
    (fits : ∀ count, .allocate count ∈ calls →
      count ≤ before.allocator.currentBlock.blockSize)
    (bounded : before.bounded calls = true) :
    ∃ answers final, before.run calls = some (answers, final) ∧ before.HandsOut answers := by
  induction calls generalizing before with
  | nil => exact ⟨[], before, rfl, handsOut_nil before⟩
  | cons call rest induction =>
      rw [Reservation.bounded, Bool.and_eq_true, decide_eq_true_eq] at bounded
      rcases bounded with ⟨bound, boundedRest⟩
      have next {answer : Option Allocation} {after : Reservation}
          (stepped : before.step call = some (answer, after)) (advances : Advances before after) :
          ∃ answers final, before.run (call :: rest) = some (answer :: answers, final) ∧
            after.HandsOut answers := by
        have fitsRest (count : UInt64) (member : .allocate count ∈ rest) :
            count ≤ after.allocator.currentBlock.blockSize := by
          rw [advances.blockSize]
          exact fits count (List.mem_cons_of_mem _ member)
        rw [stepped] at boundedRest
        rcases induction advances.current fitsRest boundedRest with
          ⟨answers, final, ran, handsOut⟩
        refine ⟨answers, final, ?_, handsOut⟩
        simp only [Reservation.run, stepped, ran, Option.bind_eq_bind, Option.bind_some]
        rfl
      cases call with
      | allocate count =>
          rcases step_allocate current bound (fits count List.mem_cons_self) with
            ⟨allocation, after, stepped, grants⟩
          rcases next stepped grants.advances with ⟨answers, final, ran, handsOut⟩
          exact ⟨_, final, ran, handsOut.allocate grants⟩
      | reload =>
          rcases step_reload current bound with ⟨after, stepped, advances⟩
          rcases next stepped advances with ⟨answers, final, ran, handsOut⟩
          exact ⟨_, final, ran, handsOut.reload advances⟩

/-- Allocations of any counts with reloads in between do not panic, and hand out
disjoint ranges in ascending order that are covered by the stored block. -/
theorem allocations_disjoint {initial : SequenceAllocator}
    (origin : initial.Valid ∨
      ∃ block : SeqBlock, 1 ≤ block.blockSize.toNat ∧ SequenceAllocator.new block = some initial)
    (calls : List ReservationCall)
    (fits : ∀ count, .allocate count ∈ calls → count ≤ initial.currentBlock.blockSize)
    (bounded : (opened initial).bounded calls = true) :
    ∃ answers final, (opened initial).run calls = some (answers, final) ∧
      (answers.filterMap id).Pairwise (fun left right => left.finish ≤ right.start.toNat) ∧
      (∀ earlier left right later,
        answers = earlier ++ some left :: some right :: later →
          left.finish = right.start.toNat) ∧
      (∀ allocation, some allocation ∈ answers →
        ∃ base, allocation.stored.nextBase = some base ∧ allocation.finish ≤ base.toNat) ∧
      ∀ allocation, some allocation ∈ answers →
        (allocation.returned.isSome = true ↔
          allocation.drawnFrom.start.toNat + allocation.drawnFrom.blockSize.toNat ≤
            allocation.finish) := by
  have valid : initial.Valid := by
    rcases origin with valid | ⟨block, positive, created⟩
    · exact valid
    · exact SequenceAllocator.valid_of_new positive created
  rcases (current_opened valid).run fits bounded with ⟨answers, final, ran, handsOut⟩
  exact ⟨answers, final, ran, handsOut.disjoint, handsOut.contiguous, handsOut.reserved,
    handsOut.returned_iff⟩

/-- A reloaded allocator starts past its block; a second reload leaves a gap. -/
theorem allocations_disjoint_reloaded :
    ∃ answers final,
      (opened ⟨2, ⟨0, 2⟩⟩).run [.allocate 1, .allocate 2, .reload, .allocate 1] =
          some (answers, final) ∧
        (answers.filterMap id).Pairwise fun left right => left.finish ≤ right.start.toNat := by
  have origin : ∃ block : SeqBlock, 1 ≤ block.blockSize.toNat ∧
      SequenceAllocator.new block = some ⟨2, ⟨0, 2⟩⟩ := ⟨⟨0, 2⟩, by decide, by decide⟩
  have fits : ∀ count, ReservationCall.allocate count ∈
      [.allocate 1, .allocate 2, .reload, .allocate 1] → count ≤ (2 : UInt64) := by
    intro count member
    simp only [List.mem_cons, ReservationCall.allocate.injEq, reduceCtorEq, List.not_mem_nil,
      or_false, false_or] at member
    rcases member with rfl | rfl | rfl <;> decide
  rcases allocations_disjoint (.inr origin) [.allocate 1, .allocate 2, .reload, .allocate 1] fits
    (by decide) with ⟨answers, final, ran, disjoint, _⟩
  exact ⟨answers, final, ran, disjoint⟩

end Reservation

end Slatestreams
