import Slatestreams.Foundation.Lexicographic
import Slatestreams.Stream

/-! # The key schema

How the keys of the two stores relate: what they are told apart by, which are
prefixes of which, and in which order they come. -/

namespace Slatestreams

open Foundation

/-- Two different byte strings of which neither starts with the other. -/
structure Apart (left right : Bytes) : Prop where
  ne : left ≠ right
  left_not_isPrefix : ¬left <+: right
  right_not_isPrefix : ¬right <+: left

/-- Keys with different tags are apart, whatever follows. -/
theorem apart_of_tag_ne {leftTag rightTag : UInt8} (different : leftTag ≠ rightTag)
    (left right : Bytes) : Apart (leftTag :: left) (rightTag :: right) where
  ne equal := different (List.cons.inj equal).1
  left_not_isPrefix extends_ := different (List.cons_prefix_cons.mp extends_).1
  right_not_isPrefix extends_ := different (List.cons_prefix_cons.mp extends_).1.symm

/-! ## Order -/

theorem putU64_lt_putU64_iff (left right : UInt64) : putU64 left < putU64 right ↔ left < right := by
  rw [UInt64.lt_iff_toNat_lt]
  exact BigEndian.encode_lt_encode_iff left.toNat_lt right.toNat_lt

theorem putU128_lt_putU128_iff (left right : U128) :
    putU128 left < putU128 right ↔ left < right := by
  rw [BitVec.lt_def]
  exact BigEndian.encode_lt_encode_iff left.isLt right.isLt

theorem putU128_inj {left right : U128} : putU128 left = putU128 right ↔ left = right :=
  ⟨putU128_injective, congrArg putU128⟩

namespace Stream

/-- Record keys come in the order of basin id, stream id and number. -/
theorem constructStreamRecordKey_lt_iff (basinId streamId basinId' streamId' : U128)
    (sequenceNumber sequenceNumber' : UInt64) :
    constructStreamRecordKey basinId streamId sequenceNumber <
        constructStreamRecordKey basinId' streamId' sequenceNumber' ↔
      basinId < basinId' ∨ basinId = basinId' ∧
        (streamId < streamId' ∨ streamId = streamId' ∧ sequenceNumber < sequenceNumber') := by
  have ids : (putU128 basinId ++ putU128 streamId).length =
      (putU128 basinId' ++ putU128 streamId').length := by
    simp
  have basins : (putU128 basinId).length = (putU128 basinId').length := by simp
  rw [constructStreamRecordKey_eq, constructStreamRecordKey_eq, List.cons_lt_cons_self,
    Lexicographic.append_lt_append_iff ids, Lexicographic.append_lt_append_iff basins,
    putU128_lt_putU128_iff, putU128_lt_putU128_iff, putU64_lt_putU64_iff, putU128_inj]
  constructor
  · rintro ((less | ⟨rfl, less⟩) | ⟨same, less⟩)
    · exact .inl less
    · exact .inr ⟨rfl, .inl less⟩
    · have equal := List.append_inj same basins
      exact .inr ⟨putU128_inj.mp equal.1, .inr ⟨putU128_inj.mp equal.2, less⟩⟩
  · rintro (less | ⟨rfl, less | ⟨rfl, less⟩⟩)
    · exact .inl (.inl less)
    · exact .inl (.inr ⟨rfl, less⟩)
    · exact .inr ⟨rfl, less⟩

/-! ## Prefixes -/

theorem metadataPrefix_eq (basinId : U128) :
    metadataPrefix basinId = META_STREAM_PREFIX_KEY :: putU128 basinId := rfl

theorem constructMetadataKey_eq_append (basinId : U128) (streamName : String) :
    constructMetadataKey basinId streamName =
      metadataPrefix basinId ++ streamName.toByteArray.data.toList := rfl

@[simp] theorem length_metadataPrefix (basinId : U128) : (metadataPrefix basinId).length = 17 := by
  simp [metadataPrefix_eq]

theorem metadataPrefix_isPrefix_iff (basinId basinId' : U128) (streamName : String) :
    metadataPrefix basinId <+: constructMetadataKey basinId' streamName ↔ basinId = basinId' := by
  constructor
  · rintro ⟨rest, equal⟩
    rw [constructMetadataKey_eq_append] at equal
    have same := (List.append_inj equal (by simp)).1
    rw [metadataPrefix_eq, metadataPrefix_eq] at same
    exact putU128_inj.mp (List.cons.inj same).2
  · rintro rfl
    exact List.prefix_append _ _

theorem blockKey_apart_recordKey (basinId streamId basinId' streamId' : U128)
    (sequenceNumber : UInt64) :
    Apart (constructSequenceBlockKey basinId streamId)
      (constructStreamRecordKey basinId' streamId' sequenceNumber) :=
  apart_of_tag_ne (by decide) _ _

theorem metadataKey_apart_basinKey (basinId : U128) (streamName basinName : String) :
    Apart (constructMetadataKey basinId streamName) (Basin.constructMetadataKey basinName) :=
  apart_of_tag_ne (by decide) _ _

/-- The keys of each family are told apart by their arguments, those of the two
families of a store never meet, a basin's prefix selects the basin's streams,
and record keys keep the order of their arguments. -/
theorem keySchema :
    (∀ basinId streamId basinId' streamId',
      constructSequenceBlockKey basinId streamId = constructSequenceBlockKey basinId' streamId' →
        basinId = basinId' ∧ streamId = streamId') ∧
    (∀ basinId streamId n basinId' streamId' n',
      constructStreamRecordKey basinId streamId n =
          constructStreamRecordKey basinId' streamId' n' →
        basinId = basinId' ∧ streamId = streamId' ∧ n = n') ∧
    (∀ basinId streamId basinId' streamId' n,
      Apart (constructSequenceBlockKey basinId streamId)
        (constructStreamRecordKey basinId' streamId' n)) ∧
    (∀ basinId name basinId' name',
      constructMetadataKey basinId name = constructMetadataKey basinId' name' →
        basinId = basinId' ∧ name = name') ∧
    (∀ name name', Basin.constructMetadataKey name = Basin.constructMetadataKey name' →
      name = name') ∧
    (∀ basinId name basinName,
      Apart (constructMetadataKey basinId name) (Basin.constructMetadataKey basinName)) ∧
    (∀ basinId basinId' name,
      metadataPrefix basinId <+: constructMetadataKey basinId' name ↔ basinId = basinId') ∧
    (∀ basinId streamId n basinId' streamId' n',
      constructStreamRecordKey basinId streamId n <
          constructStreamRecordKey basinId' streamId' n' ↔
        basinId.toNat < basinId'.toNat ∨ basinId.toNat = basinId'.toNat ∧
          (streamId.toNat < streamId'.toNat ∨ streamId.toNat = streamId'.toNat ∧
            n.toNat < n'.toNat)) := by
  refine ⟨fun _ _ _ _ => constructSequenceBlockKey_injective,
    fun _ _ _ _ _ _ => constructStreamRecordKey_injective, blockKey_apart_recordKey,
    fun _ _ _ _ => constructMetadataKey_injective,
    fun _ _ => Basin.constructMetadataKey_injective, metadataKey_apart_basinKey,
    metadataPrefix_isPrefix_iff, fun basinId streamId n basinId' streamId' n' => ?_⟩
  rw [constructStreamRecordKey_lt_iff, BitVec.lt_def, BitVec.lt_def, UInt64.lt_iff_toNat_lt,
    BitVec.toNat_inj, BitVec.toNat_inj]

end Stream

end Slatestreams
