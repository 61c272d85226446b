import Slatestreams.Foundation.ByteFormat
import Slatestreams.Stream

/-! # Value formats

The formats of the stored values. Here the decoders are written with the bounds
checks of their slices, which never fail: the guard on the length comes first. -/

namespace Slatestreams

open Foundation

/-- Eight bytes are the encoding of the number they decode to. -/
theorem putU64_decode {bytes : Bytes} (eight : bytes.length = 8) :
    putU64 (UInt64.ofNat (BigEndian.decode bytes)) = bytes := by
  have fits : BigEndian.decode bytes < 2 ^ 64 := by
    have bound := BigEndian.decode_lt bytes
    rwa [eight] at bound
  have number : (UInt64.ofNat (BigEndian.decode bytes)).toNat = BigEndian.decode bytes :=
    UInt64.toNat_ofNat_of_lt fits
  rw [putU64, number, ← eight, BigEndian.encode_decode]

theorem putU128_decode {bytes : Bytes} (sixteen : bytes.length = 16) :
    putU128 (BitVec.ofNat 128 (BigEndian.decode bytes)) = bytes := by
  have fits : BigEndian.decode bytes < 2 ^ 128 := by
    have bound := BigEndian.decode_lt bytes
    rwa [sixteen] at bound
  have number : (BitVec.ofNat 128 (BigEndian.decode bytes)).toNat = BigEndian.decode bytes := by
    rw [BitVec.toNat_ofNat, Nat.mod_eq_of_lt fits]
  rw [putU128, number, ← sixteen, BigEndian.encode_decode]

/-! ## Records -/

namespace Record

def deserialiseSlices (buf : Bytes) : Option (Except StreamError Record) := do
  if buf.length < 8 then
    return .error (.deserialiseError
      ("record should at least have 8 bytes, got " ++ toString buf.length))
  let (numBytes, rest) ← Slice.splitAt buf 8
  let seqNum := UInt64.ofNat (BigEndian.decode (← Slice.intoArray 8 numBytes))
  return .ok { seqNum, data := rest }

theorem deserialiseSlices_eq (buf : Bytes) : deserialiseSlices buf = some (deserialise buf) := by
  rw [deserialiseSlices, deserialise]
  by_cases short : buf.length < 8
  · simp only [short, if_true]
    rfl
  · have array : (buf.take 8).length = 8 := by
      rw [List.length_take]
      omega
    simp only [short, if_false, Slice.splitAt_eq (Nat.le_of_not_lt short), List.splitAt_eq]
    simp only [Option.bind_eq_bind, Option.bind_some, Slice.intoArray_eq array]
    rfl

def format : ByteFormat Record StreamError := ⟨serialise, deserialiseSlices⟩

theorem format_exact : format.Exact 8 id := by
  apply ByteFormat.Exact.of_total deserialiseSlices_eq deserialise_serialise
  · intro bytes short
    exact ⟨_, if_pos short⟩
  · intro bytes long
    have eight : (bytes.take 8).length = 8 := by
      rw [List.length_take]
      omega
    have accepted : deserialise bytes =
        .ok ⟨UInt64.ofNat (BigEndian.decode (bytes.take 8)), bytes.drop 8⟩ := by
      rw [deserialise, if_neg (Nat.not_lt.mpr long), List.splitAt_eq]
    refine ⟨_, accepted, ?_⟩
    calc serialise ⟨UInt64.ofNat (BigEndian.decode (bytes.take 8)), bytes.drop 8⟩
      _ = bytes.take 8 ++ bytes.drop 8 := by rw [serialise, putU64_decode eight]
      _ = bytes := List.take_append_drop 8 bytes

end Record

/-! ## Sequence number blocks -/

namespace SeqBlock

def deserializeIndices (data : Bytes) : Option (Except DeserializeError SeqBlock) := do
  if data.length < blockCapacity then
    return .error
      ⟨"buffer too short for SeqBlock, needs to be 16 bytes, got " ++ toString data.length⟩
  let start := UInt64.ofNat (BigEndian.decode (← Slice.indices data 0 8))
  let blockSize := UInt64.ofNat (BigEndian.decode (← Slice.indices data 8 8))
  return .ok ⟨start, blockSize⟩

theorem deserializeIndices_eq (data : Bytes) :
    deserializeIndices data = some (deserialize data) := by
  rw [deserializeIndices, deserialize]
  by_cases short : data.length < blockCapacity
  · simp only [short, if_true]
    rfl
  · have long : 16 ≤ data.length := Nat.le_of_not_lt short
    have first := Slice.indices_eq (show 0 + 8 ≤ data.length by omega)
    have second := Slice.indices_eq (show 8 + 8 ≤ data.length by omega)
    simp only [short, if_false, first, second]
    rfl

def format : ByteFormat SeqBlock DeserializeError := ⟨serialise, deserializeIndices⟩

theorem format_exact : format.Exact 16 (List.take 16) := by
  apply ByteFormat.Exact.of_total deserializeIndices_eq deserialize_serialise
  · intro bytes short
    exact ⟨_, if_pos short⟩
  · intro bytes long
    have first : (bytes.take 8).length = 8 := by
      rw [List.length_take]
      omega
    have second : ((bytes.drop 8).take 8).length = 8 := by
      rw [List.length_take, List.length_drop]
      omega
    refine ⟨_, if_neg (Nat.not_lt.mpr long), ?_⟩
    calc serialise _
      _ = bytes.take 8 ++ (bytes.drop 8).take 8 := by
        rw [serialise, putU64_decode first, putU64_decode second]
      _ = bytes.take 16 := List.take_add.symm

end SeqBlock

/-! ## Stream metadata -/

namespace StreamMetadata

def deserialiseSlices (data : Bytes) : Option (Except StreamError StreamMetadata) := do
  if data.length < size then
    return .error (.deserialiseError "data buffer smaller than StreamMetadata size")
  let encodedBasinId := BitVec.ofNat 128
    (BigEndian.decode (← Slice.intoArray 16 (← Slice.slice data 0 16)))
  let encodedStreamId := BitVec.ofNat 128
    (BigEndian.decode (← Slice.intoArray 16 (← Slice.slice data 16 32)))
  return .ok { basinId := encodedBasinId, streamId := encodedStreamId }

theorem deserialiseSlices_eq (data : Bytes) :
    deserialiseSlices data = some (deserialise data) := by
  rw [deserialiseSlices, deserialise]
  by_cases short : data.length < size
  · simp only [short, if_true]
    rfl
  · have long : 32 ≤ data.length := Nat.le_of_not_lt short
    have first := Slice.slice_eq (Nat.zero_le 16) (show 16 ≤ data.length by omega)
    have second := Slice.slice_eq (show 16 ≤ 32 by decide) long
    have firstArray : ((data.take 16).drop 0).length = 16 := by
      rw [List.length_drop, List.length_take]
      omega
    have secondArray : ((data.take 32).drop 16).length = 16 := by
      rw [List.length_drop, List.length_take]
      omega
    simp only [short, if_false, first, second, Option.bind_eq_bind, Option.bind_some,
      Slice.intoArray_eq firstArray, Slice.intoArray_eq secondArray]
    rfl

def format : ByteFormat StreamMetadata StreamError := ⟨serialise, deserialiseSlices⟩

theorem format_exact : format.Exact 32 (List.take 32) := by
  apply ByteFormat.Exact.of_total deserialiseSlices_eq deserialise_serialise
  · intro bytes short
    exact ⟨_, if_pos short⟩
  · intro bytes long
    have first : (bytes.take 16).length = 16 := by
      rw [List.length_take]
      omega
    have second : ((bytes.take 32).drop 16).length = 16 := by
      rw [List.length_drop, List.length_take]
      omega
    have front : bytes.take 16 = (bytes.take 32).take 16 := by
      rw [List.take_take]
      rfl
    refine ⟨_, if_neg (Nat.not_lt.mpr long), ?_⟩
    calc serialise _
      _ = bytes.take 16 ++ (bytes.take 32).drop 16 := by
        rw [serialise, putU128_decode first, putU128_decode second]
      _ = bytes.take 32 := by rw [front, List.take_append_drop]

end StreamMetadata

/-! ## Basin ids -/

namespace Basin

def deserialiseBasinIdSlice (data : Bytes) : Option (Except BasinError U128) := do
  if data.length < 16 then
    return .error (.deserialiseError
      ("basin metadata should be at least 16 bytes, got " ++ toString data.length))
  return .ok (BitVec.ofNat 128
    (BigEndian.decode (← Slice.intoArray 16 (← Slice.slice data 0 16))))

theorem deserialiseBasinIdSlice_eq (data : Bytes) :
    deserialiseBasinIdSlice data = some (deserialiseBasinId data) := by
  rw [deserialiseBasinIdSlice, deserialiseBasinId]
  by_cases short : data.length < 16
  · simp only [short, if_true]
    rfl
  · have first := Slice.slice_eq (Nat.zero_le 16) (Nat.le_of_not_lt short)
    have array : ((data.take 16).drop 0).length = 16 := by
      rw [List.length_drop, List.length_take]
      omega
    simp only [short, if_false, first, Option.bind_eq_bind, Option.bind_some,
      Slice.intoArray_eq array]
    rfl

/-- The value `Basin::new` stores. -/
def idFormat : ByteFormat U128 BasinError :=
  ⟨fun basinId => BytesBuilder.new.addU128 basinId |>.build, deserialiseBasinIdSlice⟩

theorem idFormat_exact : idFormat.Exact 16 (List.take 16) := by
  apply ByteFormat.Exact.of_total deserialiseBasinIdSlice_eq deserialiseBasinId_putU128
  · intro bytes short
    exact ⟨_, if_pos short⟩
  · intro bytes long
    have first : (bytes.take 16).length = 16 := by
      rw [List.length_take]
      omega
    exact ⟨_, if_neg (Nat.not_lt.mpr long), putU128_decode first⟩

end Basin

/-- Every stored value decodes to what was encoded, every decoder rejects just
the inputs that are too short, and distinct values have distinct encodings. -/
theorem valueFormats_exact :
    (Record.format.Exact 8 id ∧ SeqBlock.format.Exact 16 (List.take 16) ∧
      StreamMetadata.format.Exact 32 (List.take 32) ∧
      Basin.idFormat.Exact 16 (List.take 16)) ∧
    (∀ left right : Record, left.serialise = right.serialise → left = right) ∧
    (∀ left right : SeqBlock, left.serialise = right.serialise → left = right) ∧
    (∀ left right : StreamMetadata, left.serialise = right.serialise → left = right) ∧
    ∀ left right : U128,
      (BytesBuilder.new.addU128 left).build = (BytesBuilder.new.addU128 right).build →
        left = right :=
  ⟨⟨Record.format_exact, SeqBlock.format_exact, StreamMetadata.format_exact,
      Basin.idFormat_exact⟩,
    fun _ _ => Record.format_exact.encode_injective,
    fun _ _ => SeqBlock.format_exact.encode_injective,
    fun _ _ => StreamMetadata.format_exact.encode_injective,
    fun _ _ => Basin.idFormat_exact.encode_injective⟩

end Slatestreams
