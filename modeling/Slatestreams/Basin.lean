import Slatestreams.Key

/-! # Basins

A basin is a name with a random id, kept as one record of the metadata store. -/

namespace Slatestreams

open Foundation

inductive BasinError where
  | deserialiseError (message : String)
  | storageError (message : String) (error : StorageError)
  deriving DecidableEq, Repr

structure BasinView where
  basinName : String
  deriving DecidableEq, Repr

structure Basin where
  basinId : U128
  basinName : String
  deriving DecidableEq, Repr

/-! ## Decoding names -/

/-- What `core::str::from_utf8` reports about the first undecodable sequence of
`rest`: its length, or nothing when the input only ends too early. -/
def utf8ErrorLen (rest : Bytes) : Option Nat :=
  let continues (byte : UInt8) : Bool := 0x80 ≤ byte && byte ≤ 0xBF
  match rest with
  | [] => none
  | first :: tail =>
      -- The second byte of a three or four byte sequence has a narrower range
      -- after some first bytes: no overlong forms, surrogates or large values.
      let (width, low, high) : Nat × UInt8 × UInt8 :=
        if 0xC2 ≤ first && first ≤ 0xDF then (2, 0x80, 0xBF)
        else if first = 0xE0 then (3, 0xA0, 0xBF)
        else if first = 0xED then (3, 0x80, 0x9F)
        else if 0xE1 ≤ first && first ≤ 0xEF then (3, 0x80, 0xBF)
        else if first = 0xF0 then (4, 0x90, 0xBF)
        else if 0xF1 ≤ first && first ≤ 0xF3 then (4, 0x80, 0xBF)
        else if first = 0xF4 then (4, 0x80, 0x8F)
        else (1, 0, 0)
      if width = 1 then some 1 else
        match tail with
        | [] => none
        | second :: tail =>
            if second < low || high < second then some 1 else
              match tail with
              | [] => none
              | third :: tail =>
                  if !continues third then some 2 else
                    match tail with
                    | [] => none
                    | _ => some 3

/-- The longest prefix, among those of at most `length` bytes, that is UTF-8. -/
def utf8ValidUpTo (bytes : Bytes) : Nat → Nat
  | 0 => 0
  | length + 1 =>
      if (String.fromUTF8? ⟨(bytes.take (length + 1)).toArray⟩).isSome then length + 1
      else utf8ValidUpTo bytes length

def utf8ErrorText (bytes : Bytes) : String :=
  let validUpTo := utf8ValidUpTo bytes bytes.length
  match utf8ErrorLen (bytes.drop validUpTo) with
  | some errorLen =>
      "invalid utf-8 sequence of " ++ toString errorLen ++ " bytes from index " ++
        toString validUpTo
  | none => "incomplete utf-8 byte sequence from index " ++ toString validUpTo

/-- `std::str::from_utf8`, with the error as its display text. -/
def fromUtf8 (bytes : Bytes) : Except String String :=
  match String.fromUTF8? ⟨bytes.toArray⟩ with
  | some name => .ok name
  | none => .error (utf8ErrorText bytes)

/-- `left ≤ right` in the byte order that `str::cmp` uses. -/
def nameLe (left right : String) : Bool :=
  !decide (right.toByteArray.data.toList < left.toByteArray.data.toList)

namespace Basin

def id (self : Basin) : U128 := self.basinId

def constructMetadataKey (basinName : String) : Bytes :=
  BytesBuilder.new
    |>.addU8 META_BASIN_PREFIX_KEY
    |>.putStr basinName
    |>.build

def metadataPrefix : Bytes :=
  BytesBuilder.new.addU8 META_BASIN_PREFIX_KEY |>.build

def deserialiseBasinId (data : Bytes) : Except BasinError U128 :=
  if data.length < 16 then
    .error (.deserialiseError
      ("basin metadata should be at least 16 bytes, got " ++ toString data.length))
  else
    .ok (BitVec.ofNat 128 (BigEndian.decode (data.take 16)))

def new (basinName : String) : ExceptT BasinError (Program storage) Basin := do
  let basinId ← newV4
  orThrow (apply .metaStorage
      [{ key := constructMetadataKey basinName
         value := BytesBuilder.new.addU128 basinId |>.build }])
    (.storageError "error applying basin metadata")
  return { basinId, basinName }

def load (basinName : String) : ExceptT BasinError (Program storage) (Option Basin) := do
  let record ← orThrow (get .metaStorage (constructMetadataKey basinName))
    (.storageError "error loading basin metadata")
  match record with
  | none => return none
  | some record =>
      return some { basinId := ← ofResult (deserialiseBasinId record.value), basinName }

/-- The `while let Some(record)` loop of `list` over the records still to come. -/
def listRecords : List StorageRecord → ExceptT BasinError (Program storage) (List BasinView)
  | [] => do
      let _ ← orThrow (nextRecord []) (.storageError "error listing basins")
      return []
  | record :: rest => do
      match ← orThrow (nextRecord (record :: rest)) (.storageError "error listing basins") with
      | none => return []
      | some record =>
          let _ ← ofResult (deserialiseBasinId record.value)
          let basinName ← ofResult
            ((fromUtf8 (record.key.drop metadataPrefix.length)).mapError .deserialiseError)
          return { basinName } :: (← listRecords rest)

def list : ExceptT BasinError (Program storage) (List BasinView) := do
  let iter ← orThrow (scanIter .metaStorage (prefixRange metadataPrefix))
    (.storageError "error listing basins")
  let basins ← listRecords iter
  return basins.mergeSort fun a b => nameLe a.basinName b.basinName

/-! ## Keys and values -/

theorem constructMetadataKey_injective {left right : String}
    (equal : constructMetadataKey left = constructMetadataKey right) : left = right :=
  string_bytes_injective (List.cons.inj equal).2

theorem deserialiseBasinId_putU128 (basinId : U128) :
    deserialiseBasinId (BytesBuilder.new.addU128 basinId |>.build) = .ok basinId := by
  have whole : (putU128 basinId).take 16 = putU128 basinId :=
    List.take_of_length_le (by simp)
  simp [deserialiseBasinId, BytesBuilder.new, BytesBuilder.addU128, BytesBuilder.build, whole]

end Basin

end Slatestreams
