import Slatestreams.Foundation.Lexicographic
import Slatestreams.Storage.InMemory

/-! # Prefix ranges

The range that `prefix_range` builds holds the extensions of its prefix, and
nothing else. -/

namespace Slatestreams

open Foundation

/-! ## The next prefix -/

theorem lt_greatest (byte : UInt8) (different : byte ≠ 0xFF) : byte < 0xFF := by
  have bound := byte.toNat_lt
  have value : byte.toNat ≠ 255 := fun equal => different (UInt8.toNat_inj.mp equal)
  exact UInt8.lt_iff_toNat_lt.mpr (show byte.toNat < 255 by omega)

theorem toNat_succ {byte : UInt8} (different : byte ≠ 0xFF) :
    (byte + 1).toNat = byte.toNat + 1 := by
  have below := UInt8.lt_iff_toNat_lt.mp (lt_greatest byte different)
  have fits : byte.toNat + 1 < 256 := Nat.succ_lt_succ below
  rw [UInt8.toNat_add]
  exact Nat.mod_eq_of_lt fits

theorem lt_succ_iff {byte : UInt8} (different : byte ≠ 0xFF) (other : UInt8) :
    other < byte + 1 ↔ other < byte ∨ other = byte := by
  rw [UInt8.lt_iff_toNat_lt, UInt8.lt_iff_toNat_lt, ← UInt8.toNat_inj, toNat_succ different]
  omega

/-- The two ways the backward loop ends. -/
inductive NextPrefix (bytes : Bytes) : Option Bytes → Prop where
  | none (all : ∀ byte ∈ bytes, byte = 0xFF) : NextPrefix bytes none
  | raised {front : Bytes} {byte : UInt8} {trailing : Bytes}
      (split : bytes = front ++ byte :: trailing) (different : byte ≠ 0xFF)
      (all : ∀ byte ∈ trailing, byte = 0xFF) : NextPrefix bytes (some (front ++ [byte + 1]))

/-- Every byte from position `idx` on has been passed over. -/
theorem nextPrefixBelow_spec (bytes : Bytes) (idx : Nat) (within : idx ≤ bytes.length)
    (passed : ∀ byte ∈ bytes.drop idx, byte = 0xFF) :
    NextPrefix bytes (nextPrefixBelow bytes idx) := by
  induction idx with
  | zero => exact .none passed
  | succ idx induction =>
      have here : bytes[idx]? = some (bytes[idx]) := List.getElem?_eq_getElem within
      have split : bytes.drop idx = bytes[idx] :: bytes.drop (idx + 1) :=
        List.drop_eq_getElem_cons within
      rw [nextPrefixBelow, here]
      simp only
      split
      · rename_i different
        have raised : (bytes.set idx (bytes[idx] + 1)).take (idx + 1) =
            bytes.take idx ++ [bytes[idx] + 1] := by
          rw [List.take_succ_eq_append_getElem (by rw [List.length_set]; exact within), List.take_set_of_le (by omega),
            List.getElem_set_self]
        rw [raised]
        refine .raised ?_ different passed
        rw [← split, List.take_append_drop]
      · rename_i last
        apply induction (Nat.le_of_succ_le within)
        intro byte member
        rw [split] at member
        rcases List.mem_cons.mp member with rfl | later
        · exact Decidable.not_not.mp last
        · exact passed byte later

theorem nextPrefix_spec (bytes : Bytes) : NextPrefix bytes (nextPrefix bytes) :=
  nextPrefixBelow_spec bytes bytes.length (Nat.le_refl _) (by simp)

/-! ## The range -/

theorem prefixRange_contains_iff (bytes key : Bytes) :
    (prefixRange bytes).contains key = true ↔ bytes <+: key := by
  have spec := nextPrefix_spec bytes
  rw [prefixRange]
  cases found : nextPrefix bytes with
  | none =>
      rw [found] at spec
      cases spec with
      | none all =>
          simp only [BytesRange.contains, Bool.and_true, Bool.not_eq_true', decide_eq_false_iff_not]
          exact ⟨Lexicographic.isPrefix_of_not_lt lt_greatest all,
            Lexicographic.not_lt_of_isPrefix⟩
  | some finish =>
      rw [found] at spec
      cases spec with
      | raised split different all =>
          subst split
          simp only [BytesRange.contains, Bool.and_eq_true, Bool.not_eq_true',
            decide_eq_false_iff_not, decide_eq_true_eq]
          exact (Lexicographic.isPrefix_iff_between lt_greatest (lt_succ_iff different) all key).symm

theorem lt_nextPrefix {bytes finish : Bytes} (found : nextPrefix bytes = some finish) :
    bytes < finish := by
  have spec := nextPrefix_spec bytes
  rw [found] at spec
  cases spec with
  | raised split different all =>
      subst split
      exact Lexicographic.lt_raised ((lt_succ_iff different _).mpr (.inr rfl)) _ _

theorem prefixRange_ordered (bytes : Bytes) : (prefixRange bytes).inverted = false := by
  rw [prefixRange]
  cases found : nextPrefix bytes with
  | none => rfl
  | some finish =>
      exact decide_eq_false fun before =>
        List.lt_irrefl bytes (List.lt_trans (lt_nextPrefix found) before)

/-- The range holds exactly the keys that extend the prefix, and searching an
ordered map for it never panics. -/
theorem prefixRange_exact (bytes : Bytes) :
    (∀ key, (prefixRange bytes).contains key = true ↔ bytes <+: key) ∧
      (∀ finish, (prefixRange bytes).finish = .excluded finish → bytes < finish) ∧
      ∀ contents : Contents,
        contents.range (prefixRange bytes) = some (contents.scan fun key => bytes.isPrefixOf key) := by
  refine ⟨prefixRange_contains_iff bytes, fun finish ends => ?_, fun contents => ?_⟩
  · apply lt_nextPrefix
    rw [prefixRange] at ends
    cases found : nextPrefix bytes with
    | none =>
        rw [found] at ends
        cases ends
    | some other =>
        rw [found] at ends
        cases ends
        rfl
  · rw [InMemoryStorage.range_eq_scan contents (prefixRange_ordered bytes)]
    have same : (prefixRange bytes).contains = fun key => bytes.isPrefixOf key := by
      funext key
      rw [Bool.eq_iff_iff, prefixRange_contains_iff, List.isPrefixOf_iff_prefix]
    rw [same]

/-- A trailing `0xFF` carries into the byte before it. -/
example : prefixRange [0x01, 0xFF] = ⟨.included [0x01, 0xFF], .excluded [0x02]⟩ := by decide

end Slatestreams
