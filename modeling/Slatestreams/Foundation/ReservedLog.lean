import Slatestreams.Foundation.NumberedLog

/-! # Logs with reserved numbers

A log numbers its entries one after the other and reserves the numbers in blocks.
A recovery does not know how many of the reserved numbers were used, and goes on
after all of them. -/

namespace Foundation

/-- `tail` is the next number and `reserved` the first that is not reserved. -/
structure ReservedLog (α : Type) where
  entries : List (Nat × α)
  tail : Nat
  reserved : Nat
  ascending : NumberedLog.Ascending Prod.fst entries
  below : ∀ entry ∈ entries, entry.1 < tail
  covered : tail ≤ reserved

namespace ReservedLog

variable {α : Type} {size : Nat}

def empty (size : Nat) : ReservedLog α where
  entries := []
  tail := 0
  reserved := size
  ascending := .nil
  below _ member := absurd member List.not_mem_nil
  covered := Nat.zero_le size

/-- The entry that uses up a block reserves the next one. -/
def append (positive : 0 < size) (self : ReservedLog α) (item : α) : ReservedLog α where
  entries := self.entries ++ [(self.tail, item)]
  tail := self.tail + 1
  reserved := if self.tail + 1 < self.reserved then self.reserved else self.reserved + size
  ascending := self.ascending.snoc self.below
  below entry member := by
    rcases List.mem_append.mp member with earlier | last
    · exact Nat.lt_succ_of_lt (self.below entry earlier)
    · rw [List.mem_singleton.mp last]
      exact Nat.lt_succ_self self.tail
  covered := by
    have := self.covered
    split <;> omega

def recover (self : ReservedLog α) : ReservedLog α :=
  { self with
    tail := self.reserved
    below := fun entry member => Nat.lt_of_lt_of_le (self.below entry member) self.covered
    covered := Nat.le_refl _ }

/-- The item with a number. -/
def item (self : ReservedLog α) (n : Nat) : Option α :=
  (NumberedLog.entry Prod.fst self.entries n).map Prod.snd

variable {log : ReservedLog α} {positive : 0 < size}

@[simp] theorem entries_append (item : α) :
    (log.append positive item).entries = log.entries ++ [(log.tail, item)] := rfl

@[simp] theorem tail_append (item : α) : (log.append positive item).tail = log.tail + 1 := rfl

@[simp] theorem entries_recover : log.recover.entries = log.entries := rfl

@[simp] theorem tail_recover : log.recover.tail = log.reserved := rfl

@[simp] theorem reserved_recover : log.recover.reserved = log.reserved := rfl

/-- Each entry reserves at most one more block. -/
def Within (size : Nat) (log : ReservedLog α) : Prop :=
  log.reserved ≤ size * (log.entries.length + 1)

theorem within_empty : Within size (empty size : ReservedLog α) := by
  simp [Within, empty]

theorem Within.append (within : Within size log) (item : α) :
    Within size (log.append positive item) := by
  unfold Within at *
  rw [entries_append, List.length_append, List.length_singleton, Nat.mul_succ]
  change (if log.tail + 1 < log.reserved then log.reserved else log.reserved + size) ≤ _
  split <;> omega

theorem Within.recover (within : Within size log) : Within size log.recover := within

theorem item_append (item : α) (n : Nat) :
    (log.append positive item).item n = if log.tail = n then some item else log.item n := by
  unfold ReservedLog.item
  rw [entries_append, NumberedLog.entry_snoc n log.below]
  by_cases same : log.tail = n
  · simp [same]
  · simp [same]

end ReservedLog

end Foundation
