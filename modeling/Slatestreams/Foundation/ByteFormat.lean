/-! # Byte formats

Encoders to byte strings with decoders that may reject their input, and the
slicing operations a decoder is written with. An absent result is a panic. -/

namespace Foundation

/-! ## Slices -/

namespace Slice

variable {α : Type}

/-- `values[start..finish]` -/
def slice (values : List α) (start finish : Nat) : Option (List α) :=
  if start ≤ finish ∧ finish ≤ values.length then some ((values.take finish).drop start) else none

/-- `values.split_at(mid)` -/
def splitAt (values : List α) (mid : Nat) : Option (List α × List α) :=
  if mid ≤ values.length then some (values.splitAt mid) else none

/-- `values.try_into().unwrap()` for an array of `width` elements -/
def intoArray (width : Nat) (values : List α) : Option (List α) :=
  if values.length = width then some values else none

/-- `[values[start], values[start + 1], ..]`, an array of `width` elements -/
def indices (values : List α) (start : Nat) : (width : Nat) → Option (List α)
  | 0 => some []
  | width + 1 => do
      let value ← values[start]?
      return value :: (← indices values (start + 1) width)

theorem slice_eq {values : List α} {start finish : Nat} (ordered : start ≤ finish)
    (within : finish ≤ values.length) :
    slice values start finish = some ((values.take finish).drop start) :=
  if_pos ⟨ordered, within⟩

theorem splitAt_eq {values : List α} {mid : Nat} (within : mid ≤ values.length) :
    splitAt values mid = some (values.take mid, values.drop mid) := by
  rw [splitAt, if_pos within, List.splitAt_eq]

theorem intoArray_eq {width : Nat} {values : List α} (fits : values.length = width) :
    intoArray width values = some values := if_pos fits

theorem indices_eq {values : List α} {start width : Nat}
    (within : start + width ≤ values.length) :
    indices values start width = some ((values.drop start).take width) := by
  induction width generalizing start with
  | zero => rfl
  | succ width induction =>
      have here : start < values.length := by omega
      have rest := induction (show start + 1 + width ≤ values.length by omega)
      rw [indices, List.getElem?_eq_getElem here, rest, List.drop_eq_getElem_cons here]
      rfl

end Slice

/-! ## Formats -/

structure ByteFormat (α ε : Type) where
  encode : α → List UInt8
  decode : List UInt8 → Option (Except ε α)

namespace ByteFormat

variable {α ε : Type}

/-- The decoder reads back what was encoded, rejects exactly the inputs shorter
than `width`, never panics, and has read the part of an input that its value
encodes to. -/
structure Exact (format : ByteFormat α ε) (width : Nat) (consumed : List UInt8 → List UInt8) :
    Prop where
  decode_encode : ∀ value, format.decode (format.encode value) = some (.ok value)
  rejects_iff : ∀ bytes,
    (∃ error, format.decode bytes = some (.error error)) ↔ bytes.length < width
  decode_isSome : ∀ bytes, (format.decode bytes).isSome
  encode_decode : ∀ bytes value,
    format.decode bytes = some (.ok value) → format.encode value = consumed bytes

/-- A decoder that computes a total function is exact when that function is. -/
theorem Exact.of_total {format : ByteFormat α ε} {width : Nat}
    {consumed : List UInt8 → List UInt8} {total : List UInt8 → Except ε α}
    (computes : ∀ bytes, format.decode bytes = some (total bytes))
    (decode_encode : ∀ value, total (format.encode value) = .ok value)
    (rejects : ∀ bytes, bytes.length < width → ∃ error, total bytes = .error error)
    (accepts : ∀ bytes, width ≤ bytes.length →
      ∃ value, total bytes = .ok value ∧ format.encode value = consumed bytes) :
    format.Exact width consumed where
  decode_encode value := by rw [computes, decode_encode]
  rejects_iff bytes := by
    rw [computes]
    constructor
    · rintro ⟨error, rejected⟩
      apply Nat.lt_of_not_le
      intro long
      rcases accepts bytes long with ⟨value, accepted, _⟩
      rw [accepted] at rejected
      cases rejected
    · intro short
      rcases rejects bytes short with ⟨error, rejected⟩
      exact ⟨error, congrArg some rejected⟩
  decode_isSome bytes := by rw [computes, Option.isSome_some]
  encode_decode bytes value decoded := by
    rw [computes] at decoded
    rcases Nat.lt_or_ge bytes.length width with short | long
    · rcases rejects bytes short with ⟨error, rejected⟩
      rw [rejected] at decoded
      cases decoded
    · rcases accepts bytes long with ⟨accepted, equal, encoded⟩
      rw [equal] at decoded
      cases decoded
      exact encoded

/-- What can be read back is told apart by its encoding. -/
theorem Exact.encode_injective {format : ByteFormat α ε} {width : Nat}
    {consumed : List UInt8 → List UInt8} (exact_ : format.Exact width consumed) {left right : α}
    (equal : format.encode left = format.encode right) : left = right := by
  have decoded := congrArg format.decode equal
  rw [exact_.decode_encode, exact_.decode_encode] at decoded
  cases decoded
  rfl

end ByteFormat

end Foundation
