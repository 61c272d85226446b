import Slatestreams.Foundation.BigEndian
import Slatestreams.Storage.Storage

/-! # Keys

Type tags, the byte builder, and the range of all keys that extend a given
byte string. -/

namespace Slatestreams

open Foundation

/-! ## Record store tags -/

def RECORD_SEQUENCE_NUMBER_PREFIX_KEY : UInt8 := 0x01

def RECORD_STREAM_RECORD_PREFIX_KEY : UInt8 := 0x03

/-! ## Metadata store tags -/

def META_STREAM_PREFIX_KEY : UInt8 := 0x01

def META_BASIN_PREFIX_KEY : UInt8 := 0x02

/-! ## Sequence allocator tags -/

def SEQ_STREAM_PREFIX_KEY : UInt8 := 0x02

/-! ## Building byte strings -/

def putU64 (value : UInt64) : Bytes := BigEndian.encode 8 value.toNat

def putU128 (value : U128) : Bytes := BigEndian.encode 16 value.toNat

@[simp] theorem length_putU64 (value : UInt64) : (putU64 value).length = 8 :=
  BigEndian.length_encode _ _

@[simp] theorem length_putU128 (value : U128) : (putU128 value).length = 16 :=
  BigEndian.length_encode _ _

theorem putU64_injective {left right : UInt64} (equal : putU64 left = putU64 right) :
    left = right :=
  UInt64.toNat_inj.mp
    (BigEndian.encode_injective left.toNat_lt right.toNat_lt equal)

theorem putU128_injective {left right : U128} (equal : putU128 left = putU128 right) :
    left = right :=
  BitVec.eq_of_toNat_eq (BigEndian.encode_injective left.isLt right.isLt equal)

@[simp] theorem decode_putU64 (value : UInt64) :
    UInt64.ofNat (BigEndian.decode (putU64 value)) = value := by
  have fits : value.toNat < 256 ^ 8 := value.toNat_lt
  rw [putU64, BigEndian.decode_encode, Nat.mod_eq_of_lt fits]
  exact UInt64.ofNat_toNat

@[simp] theorem decode_putU128 (value : U128) :
    BitVec.ofNat 128 (BigEndian.decode (putU128 value)) = value := by
  have fits : value.toNat < 256 ^ 16 := value.isLt
  rw [putU128, BigEndian.decode_encode, Nat.mod_eq_of_lt fits]
  exact BitVec.ofNat_toNat 128 value

/-- The bytes built so far. -/
structure BytesBuilder where
  buf : Bytes

namespace BytesBuilder

def new : BytesBuilder := ⟨[]⟩

def addU8 (self : BytesBuilder) (v : UInt8) : BytesBuilder := ⟨self.buf ++ [v]⟩

def addU64 (self : BytesBuilder) (v : UInt64) : BytesBuilder := ⟨self.buf ++ putU64 v⟩

def addU128 (self : BytesBuilder) (v : U128) : BytesBuilder := ⟨self.buf ++ putU128 v⟩

def putStr (self : BytesBuilder) (s : String) : BytesBuilder :=
  ⟨self.buf ++ s.toByteArray.data.toList⟩

def build (self : BytesBuilder) : Bytes := self.buf

end BytesBuilder

/-- Names are told apart by their UTF-8 bytes. -/
theorem string_bytes_injective {left right : String}
    (equal : left.toByteArray.data.toList = right.toByteArray.data.toList) : left = right :=
  String.toByteArray_inj.mp (ByteArray.ext (Array.toList_inj.mp equal))

/-! ## Key ranges -/

/-- The backward loop of `next_prefix`, entered below position `idx`. -/
def nextPrefixBelow (bytes : Bytes) : Nat → Option Bytes
  | 0 => none
  | idx + 1 =>
      match bytes[idx]? with
      | none => nextPrefixBelow bytes idx
      | some byte =>
          if byte ≠ 0xFF then some ((bytes.set idx (byte + 1)).take (idx + 1))
          else nextPrefixBelow bytes idx

def nextPrefix (bytes : Bytes) : Option Bytes := nextPrefixBelow bytes bytes.length

def prefixRange (bytes : Bytes) : BytesRange where
  start := .included bytes
  finish :=
    match nextPrefix bytes with
    | some finish => .excluded finish
    | none => .unbounded

end Slatestreams
