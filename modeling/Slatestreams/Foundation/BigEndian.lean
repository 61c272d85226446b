import Mathlib.Algebra.Group.Nat.Defs
import Slatestreams.Foundation.Lexicographic

/-! # Big-endian integers

Fixed-width big-endian encodings of natural numbers as byte lists. They keep
the order of the numbers. -/

namespace Foundation.BigEndian

/-- The low `width` bytes of a value, most significant byte first. -/
def encode : (width value : Nat) → List UInt8
  | 0, _ => []
  | width + 1, value => UInt8.ofNat (value / 256 ^ width) :: encode width value

def decode : List UInt8 → Nat
  | [] => 0
  | byte :: rest => byte.toNat * 256 ^ rest.length + decode rest

@[simp] theorem length_encode (width value : Nat) :
    (encode width value).length = width := by
  induction width with
  | zero => rfl
  | succ width induction => simp [encode, induction]

@[simp] theorem decode_encode (width value : Nat) :
    decode (encode width value) = value % 256 ^ width := by
  induction width with
  | zero => simp [encode, decode, Nat.mod_one]
  | succ width induction =>
      have digit : (UInt8.ofNat (value / 256 ^ width)).toNat = value / 256 ^ width % 256 :=
        UInt8.toNat_ofNat
      rw [encode, decode, length_encode, induction, digit, Nat.pow_succ,
        Nat.mod_mul, Nat.mul_comm, Nat.add_comm]

/-- Values that fit the width are told apart by their encodings. -/
theorem encode_injective {width left right : Nat}
    (leftFits : left < 256 ^ width) (rightFits : right < 256 ^ width)
    (equal : encode width left = encode width right) : left = right := by
  have decoded := congrArg decode equal
  rwa [decode_encode, decode_encode, Nat.mod_eq_of_lt leftFits,
    Nat.mod_eq_of_lt rightFits] at decoded

theorem decode_lt (bytes : List UInt8) : decode bytes < 256 ^ bytes.length := by
  induction bytes with
  | nil => exact Nat.one_pos
  | cons byte rest induction =>
      have digit : byte.toNat + 1 ≤ 256 := byte.toNat_lt
      have scaled := Nat.mul_le_mul_right (256 ^ rest.length) digit
      rw [Nat.add_mul, Nat.one_mul] at scaled
      rw [decode, List.length_cons, Nat.pow_succ, Nat.mul_comm (256 ^ _)]
      omega

/-- Byte strings of one length are told apart by their values. -/
theorem decode_injective {left right : List UInt8} (same : left.length = right.length)
    (equal : decode left = decode right) : left = right := by
  induction left generalizing right with
  | nil => exact (List.length_eq_zero_iff.mp same.symm).symm
  | cons leftByte left induction =>
      cases right with
      | nil => cases same
      | cons rightByte right =>
          have lengths : left.length = right.length := Nat.succ.inj same
          have leftBound := decode_lt left
          have rightBound := decode_lt right
          simp only [decode, lengths] at equal leftBound
          have positive : 0 < 256 ^ right.length := Nat.pow_pos (by decide)
          have digits := congrArg (fun value => value / 256 ^ right.length) equal
          have rests := congrArg (fun value => value % 256 ^ right.length) equal
          simp only [Nat.mul_comm _ (256 ^ right.length),
            Nat.mul_add_div positive, Nat.div_eq_of_lt leftBound, Nat.div_eq_of_lt rightBound,
            Nat.add_zero, Nat.mul_add_mod, Nat.mod_eq_of_lt leftBound,
            Nat.mod_eq_of_lt rightBound] at digits rests
          rw [UInt8.toNat_inj.mp digits, induction lengths rests]

/-- Every byte string is the encoding of its value. -/
@[simp] theorem encode_decode (bytes : List UInt8) :
    encode bytes.length (decode bytes) = bytes := by
  apply decode_injective (length_encode _ _)
  rw [decode_encode, Nat.mod_eq_of_lt (decode_lt bytes)]

theorem encode_lt_encode_iff_mod (width left right : Nat) :
    encode width left < encode width right ↔ left % 256 ^ width < right % 256 ^ width := by
  induction width with
  | zero => simp [encode, Nat.mod_one]
  | succ width induction =>
      have digit (value : Nat) :
          (UInt8.ofNat (value / 256 ^ width)).toNat = value / 256 ^ width % 256 :=
        UInt8.toNat_ofNat
      have positive : 0 < 256 ^ width := Nat.pow_pos (by decide)
      have leftRest := Nat.mod_lt left positive
      have rightRest := Nat.mod_lt right positive
      rw [encode, encode, List.cons_lt_cons_iff, induction, UInt8.lt_iff_toNat_lt,
        ← UInt8.toNat_inj, digit, digit, Nat.pow_succ, Nat.mod_mul, Nat.mod_mul]
      generalize left / 256 ^ width % 256 = leftDigit
      generalize right / 256 ^ width % 256 = rightDigit
      constructor
      · rintro (less | ⟨rfl, less⟩)
        · have scaled := Nat.mul_le_mul_left (256 ^ width) (Nat.succ_le_of_lt less)
          rw [Nat.mul_succ] at scaled
          omega
        · omega
      · intro less
        rcases Nat.lt_trichotomy leftDigit rightDigit with before | rfl | after
        · exact .inl before
        · exact .inr ⟨rfl, by omega⟩
        · have scaled := Nat.mul_le_mul_left (256 ^ width) (Nat.succ_le_of_lt after)
          rw [Nat.mul_succ] at scaled
          omega

/-- Encodings of one width are ordered as the numbers that fit it. -/
theorem encode_lt_encode_iff {width left right : Nat} (leftFits : left < 256 ^ width)
    (rightFits : right < 256 ^ width) :
    encode width left < encode width right ↔ left < right := by
  rw [encode_lt_encode_iff_mod, Nat.mod_eq_of_lt leftFits, Nat.mod_eq_of_lt rightFits]

end Foundation.BigEndian
