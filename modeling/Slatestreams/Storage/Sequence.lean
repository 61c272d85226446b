import Mathlib.Data.Option.Basic
import Slatestreams.Key

/-! # Sequence number blocks

A stream reserves its sequence numbers in blocks. The stored block covers all
numbers handed out so far, and is only rewritten when one block is used up.
Arithmetic is that of the overflow-checked build: an overflow panics. -/

namespace Slatestreams

open Foundation

def DEFAULT_BLOCK_SIZE : UInt64 := 4096

/-! ## Checked `u64` arithmetic -/

def addU64 (left right : UInt64) : Option UInt64 :=
  if left.toNat + right.toNat < 2 ^ 64 then some (left + right) else none

def subU64 (left right : UInt64) : Option UInt64 :=
  if right ≤ left then some (left - right) else none

theorem addU64_eq_some {left right sum : UInt64} (added : addU64 left right = some sum) :
    sum.toNat = left.toNat + right.toNat := by
  unfold addU64 at added
  split at added
  · rename_i fits
    cases added
    rw [UInt64.toNat_add, Nat.mod_eq_of_lt fits]
  · cases added

theorem addU64_of_lt {left right : UInt64} (fits : left.toNat + right.toNat < 2 ^ 64) :
    addU64 left right = some (left + right) := if_pos fits

theorem subU64_eq_some {left right difference : UInt64}
    (subtracted : subU64 left right = some difference) :
    difference.toNat + right.toNat = left.toNat := by
  unfold subU64 at subtracted
  split at subtracted
  · rename_i fits
    cases subtracted
    have := UInt64.toNat_sub_of_le left right fits
    have := UInt64.le_iff_toNat_le.mp fits
    omega
  · cases subtracted

theorem subU64_of_le {left right : UInt64} (fits : right.toNat ≤ left.toNat) :
    subU64 left right = some (left - right) :=
  if_pos (UInt64.le_iff_toNat_le.mpr fits)

/-! ## Blocks -/

/-- The numbers from `start` to `start + block_size`, not including the latter. -/
structure SeqBlock where
  start : UInt64
  blockSize : UInt64
  deriving DecidableEq, Repr

structure DeserializeError where
  message : String
  deriving DecidableEq, Repr

namespace SeqBlock

def new (start blockSize : UInt64) : SeqBlock := ⟨start, blockSize⟩

def serialise (self : SeqBlock) : Bytes := putU64 self.start ++ putU64 self.blockSize

def blockCapacity : Nat := 16

def deserialize (data : Bytes) : Except DeserializeError SeqBlock :=
  if data.length < blockCapacity then
    .error ⟨"buffer too short for SeqBlock, needs to be 16 bytes, got " ++ toString data.length⟩
  else
    let start := UInt64.ofNat (BigEndian.decode (data.take 8))
    let blockSize := UInt64.ofNat (BigEndian.decode ((data.drop 8).take 8))
    .ok ⟨start, blockSize⟩

def nextBase (self : SeqBlock) : Option UInt64 := addU64 self.start self.blockSize

@[simp] theorem length_serialise (self : SeqBlock) : self.serialise.length = 16 := by
  simp [serialise]

theorem deserialize_serialise (self : SeqBlock) : deserialize self.serialise = .ok self := by
  have tail : (putU64 self.blockSize).take 8 = putU64 self.blockSize :=
    List.take_of_length_le (by simp)
  simp [deserialize, blockCapacity, serialise, tail]

theorem serialise_injective {left right : SeqBlock} (equal : left.serialise = right.serialise) :
    left = right := by
  have decoded := congrArg deserialize equal
  rw [deserialize_serialise, deserialize_serialise] at decoded
  exact Except.ok.inj decoded

end SeqBlock

/-! ## The allocator -/

structure SequenceAllocator where
  nextSequenceNumber : UInt64
  currentBlock : SeqBlock
  deriving DecidableEq, Repr

namespace SequenceAllocator

def new (block : SeqBlock) : Option SequenceAllocator := do
  return { nextSequenceNumber := ← block.nextBase, currentBlock := block }

def default : SequenceAllocator where
  nextSequenceNumber := 0
  currentBlock := SeqBlock.new 0 DEFAULT_BLOCK_SIZE

/-- The numbers `[start, start + count)`, with the block that has to be stored
along with them when they reach the end of the current one. -/
def allocate (self : SequenceAllocator) (count : UInt64) :
    Option ((UInt64 × Option SeqBlock) × SequenceAllocator) := do
  guard (count ≤ self.currentBlock.blockSize)
  let remaining ← subU64 (← self.currentBlock.nextBase) self.nextSequenceNumber
  if count < remaining then
    let start := self.nextSequenceNumber
    let next ← addU64 self.nextSequenceNumber count
    return ((start, none), { self with nextSequenceNumber := next })
  let start := self.nextSequenceNumber
  let nextBlockAllocation ← subU64 count remaining
  let newBlock := SeqBlock.new
    (← addU64 self.currentBlock.start self.currentBlock.blockSize) self.currentBlock.blockSize
  let next ← addU64 (← self.currentBlock.nextBase) nextBlockAllocation
  return ((start, some newBlock), { nextSequenceNumber := next, currentBlock := newBlock })

def allocation (self : SequenceAllocator) : SeqBlock := self.currentBlock

@[simp] theorem allocation_eq (self : SequenceAllocator) : self.allocation = self.currentBlock :=
  rfl

/-! ### What an allocation does -/

/-- The cursor lies in the current block or just past it. -/
structure Valid (allocator : SequenceAllocator) : Prop where
  blockSize_pos : 1 ≤ allocator.currentBlock.blockSize.toNat
  start_le : allocator.currentBlock.start.toNat ≤ allocator.nextSequenceNumber.toNat
  next_le : allocator.nextSequenceNumber.toNat ≤
    allocator.currentBlock.start.toNat + allocator.currentBlock.blockSize.toNat

theorem valid_default : default.Valid := ⟨by decide, by decide, by decide⟩

/-- A reloaded allocator has handed out its whole block. -/
theorem new_eq_some {block : SeqBlock} {allocator : SequenceAllocator}
    (created : new block = some allocator) :
    allocator.currentBlock = block ∧
      allocator.nextSequenceNumber.toNat = block.start.toNat + block.blockSize.toNat := by
  cases base : block.nextBase with
  | none => simp [new, base] at created
  | some next =>
      simp only [new, base, Option.pure_def, Option.bind_eq_bind, Option.bind_some,
        Option.some.injEq] at created
      subst created
      exact ⟨rfl, addU64_eq_some base⟩

theorem valid_of_new {block : SeqBlock} {allocator : SequenceAllocator}
    (positive : 1 ≤ block.blockSize.toNat) (created : new block = some allocator) :
    allocator.Valid := by
  rcases new_eq_some created with ⟨rfl, next⟩
  exact ⟨positive, by omega, by omega⟩

/-- The range starts at the cursor and the cursor moves past it. The current
block changes, and is returned, exactly when the range reaches its end. -/
inductive Allocated (self : SequenceAllocator) (count : UInt64) :
    Option SeqBlock → SequenceAllocator → Prop where
  | within {next : UInt64}
      (advanced : next.toNat = self.nextSequenceNumber.toNat + count.toNat)
      (inside : next.toNat <
        self.currentBlock.start.toNat + self.currentBlock.blockSize.toNat) :
      Allocated self count none { self with nextSequenceNumber := next }
  | crossing {next start : UInt64}
      (advanced : next.toNat = self.nextSequenceNumber.toNat + count.toNat)
      (reached : self.currentBlock.start.toNat + self.currentBlock.blockSize.toNat ≤ next.toNat)
      (base : start.toNat =
        self.currentBlock.start.toNat + self.currentBlock.blockSize.toNat) :
      Allocated self count (some ⟨start, self.currentBlock.blockSize⟩)
        ⟨next, ⟨start, self.currentBlock.blockSize⟩⟩

theorem allocate_eq_some {self after : SequenceAllocator} {count start : UInt64}
    {block : Option SeqBlock}
    (allocated : self.allocate count = some ((start, block), after)) :
    start = self.nextSequenceNumber ∧ Allocated self count block after := by
  simp only [allocate, Option.bind_eq_bind, Option.bind_eq_some_iff, Option.pure_def] at allocated
  rcases allocated with ⟨_, _, base, baseAdded, remaining, subtracted, rest⟩
  have baseValue := addU64_eq_some baseAdded
  have remainingValue := subU64_eq_some subtracted
  split at rest
  · rename_i less
    simp only [Option.bind_eq_some_iff, Option.some.injEq, Prod.mk.injEq] at rest
    rcases rest with ⟨next, nextAdded, ⟨rfl, rfl⟩, rfl⟩
    have nextValue := addU64_eq_some nextAdded
    have := UInt64.lt_iff_toNat_lt.mp less
    exact ⟨rfl, .within nextValue (by omega)⟩
  · rename_i notLess
    simp only [Option.bind_eq_some_iff, Option.some.injEq, Prod.mk.injEq] at rest
    rcases rest with
      ⟨overlap, overlapped, newStart, newStartAdded, _, baseAgain, next, nextAdded, ⟨rfl, rfl⟩, rfl⟩
    obtain rfl : base = _ := Option.some.inj (baseAdded.symm.trans baseAgain)
    have overlapValue := subU64_eq_some overlapped
    have newStartValue := addU64_eq_some newStartAdded
    have nextValue := addU64_eq_some nextAdded
    have := UInt64.le_iff_toNat_le.mp (UInt64.not_lt.mp notLess)
    exact ⟨rfl, .crossing (by omega) (by omega) newStartValue⟩

/-- Below the top of `u64` an allocation of at most a block does not panic. -/
theorem allocate_isSome {self : SequenceAllocator} {count : UInt64} (valid : self.Valid)
    (fits : count.toNat ≤ self.currentBlock.blockSize.toNat)
    (bound : self.currentBlock.start.toNat + 2 * self.currentBlock.blockSize.toNat < 2 ^ 64) :
    (self.allocate count).isSome := by
  have base : self.currentBlock.nextBase =
      some (self.currentBlock.start + self.currentBlock.blockSize) := addU64_of_lt (by omega)
  have baseValue := addU64_eq_some base
  have remaining := subU64_of_le (by have := valid.next_le; omega :
    self.nextSequenceNumber.toNat ≤
      (self.currentBlock.start + self.currentBlock.blockSize).toNat)
  have remainingValue := subU64_eq_some remaining
  have := valid.start_le
  have := valid.next_le
  have guarded : (guard (count ≤ self.currentBlock.blockSize) : Option Unit) = some () :=
    if_pos (UInt64.le_iff_toNat_le.mpr fits)
  simp only [allocate, guarded, base, remaining, Option.pure_def, Option.bind_eq_bind,
    Option.bind_some]
  split
  · rename_i less
    have := UInt64.lt_iff_toNat_lt.mp less
    rw [addU64_of_lt (by omega)]
    rfl
  · rename_i notLess
    have := UInt64.le_iff_toNat_le.mp (UInt64.not_lt.mp notLess)
    have overlap := subU64_of_le (by omega :
      (self.currentBlock.start + self.currentBlock.blockSize - self.nextSequenceNumber).toNat ≤
        count.toNat)
    have overlapValue := subU64_eq_some overlap
    rw [overlap, addU64_of_lt (by omega)]
    simp only [Option.bind_some]
    rw [addU64_of_lt (by omega)]
    rfl

theorem Allocated.next_eq {self after : SequenceAllocator} {count : UInt64}
    {block : Option SeqBlock} (allocated : Allocated self count block after) :
    after.nextSequenceNumber.toNat = self.nextSequenceNumber.toNat + count.toNat := by
  cases allocated <;> assumption

/-- Where the range starts, seen from its end. -/
theorem Allocated.start_eq {self after : SequenceAllocator} {count : UInt64}
    {block : Option SeqBlock} (allocated : Allocated self count block after) :
    after.nextSequenceNumber - count = self.nextSequenceNumber := by
  have next := allocated.next_eq
  have le : count ≤ after.nextSequenceNumber := UInt64.le_iff_toNat_le.mpr (by omega)
  apply UInt64.toNat_inj.mp
  rw [UInt64.toNat_sub_of_le _ _ le]
  omega

theorem Allocated.blockSize_eq {self after : SequenceAllocator} {count : UInt64}
    {block : Option SeqBlock} (allocated : Allocated self count block after) :
    after.currentBlock.blockSize = self.currentBlock.blockSize := by
  cases allocated <;> rfl

theorem Allocated.valid {self after : SequenceAllocator} {count : UInt64}
    {block : Option SeqBlock} (allocated : Allocated self count block after)
    (valid : self.Valid) (fits : count.toNat ≤ self.currentBlock.blockSize.toNat) :
    after.Valid := by
  have := valid.blockSize_pos
  have := valid.start_le
  have := valid.next_le
  cases allocated with
  | within advanced inside => exact ⟨valid.blockSize_pos, by simp only; omega, by simp only; omega⟩
  | crossing advanced reached base =>
      exact ⟨valid.blockSize_pos, by simp only; omega, by simp only; omega⟩

end SequenceAllocator

end Slatestreams
