import Slatestreams.Directory
import Slatestreams.KeyRange
import Slatestreams.KeySchema

/-! # Listings

What the listings return on the metadata that creations of basins and streams
have left, whether they succeeded, failed halfway or were dropped. -/

namespace Slatestreams

open Foundation

/-! ## Metadata written by creations -/

def Basin.metadataRecord (basinName : String) (basinId : U128) : StorageRecord where
  key := constructMetadataKey basinName
  value := BytesBuilder.new.addU128 basinId |>.build

def Stream.metadataRecord (streamName : String) (metadata : StreamMetadata) : StorageRecord where
  key := constructMetadataKey metadata.basinId streamName
  value := metadata.serialise

theorem Basin.new_eq (basinName : String) :
    (Basin.new basinName).run =
      .call (S := storage) .newV4 fun basinId =>
        .call (S := storage) (.apply .metaStorage [metadataRecord basinName basinId]) fun
          | .ok () => .done (.ok { basinId, basinName })
          | .error error => .done (.error (.storageError "error applying basin metadata" error)) := by
  change Program.call _ _ = Program.call _ _
  congr 1
  funext basinId
  change Program.call _ _ = Program.call _ _
  congr 1
  funext answer
  rcases answer with error | ⟨⟩ <;> rfl

inductive Creation where
  | basin (basinName : String)
  | stream (basinId : U128) (streamName : String)
  deriving DecidableEq, Repr

/-- A creation gets as far as it gets: to its end, or cut off at any of its calls. -/
inductive CreationStep (MayFail : StorageOp → Prop) : Stores → Creation → Stores → Prop where
  | basin {stores after : Stores} {basinName : String}
      (cut : (Basin.new basinName).run.Cut (StorageOp.Answers MayFail) stores after) :
      CreationStep MayFail stores (.basin basinName) after
  | stream {stores after : Stores} {basinId : U128} {streamName : String}
      (cut : (Stream.new basinId streamName).run.Cut (StorageOp.Answers MayFail) stores after) :
      CreationStep MayFail stores (.stream basinId streamName) after

namespace Stores

/-- The metadata write of a basin has succeeded. -/
def BasinWritten (stores : Stores) (basinName : String) : Prop :=
  ∃ basinId, (.metaStorage, [Basin.metadataRecord basinName basinId]) ∈ stores.journal

/-- The metadata write of a stream has succeeded. -/
def StreamWritten (stores : Stores) (basinId : U128) (streamName : String) : Prop :=
  ∃ streamId,
    (.metaStorage, [Stream.metadataRecord streamName ⟨basinId, streamId⟩]) ∈ stores.journal

/-- The metadata store holds what was written last under every key, and all that
was written are metadata records of basins and streams. -/
structure Cataloged (stores : Stores) : Prop where
  metadata : ∀ record, (.metaStorage, [record]) ∈ stores.journal →
    (∃ basinName basinId, record = Basin.metadataRecord basinName basinId) ∨
      ∃ streamName metadata, record = Stream.metadataRecord streamName metadata
  found : ∀ record, (.metaStorage, [record]) ∈ stores.journal →
    ∃ value, stores.metaStorage.get record.key = some value
  written : ∀ key value, stores.metaStorage.get key = some value →
    (.metaStorage, [⟨key, value⟩]) ∈ stores.journal

theorem cataloged_opened : opened.Cataloged where
  metadata _ member := nomatch member
  found _ member := nomatch member
  written _ _ found := nomatch found

namespace Cataloged

variable {stores : Stores}

theorem draw (cataloged : stores.Cataloged) (id : U128) : (stores.draw id).Cataloged :=
  ⟨cataloged.metadata, cataloged.found, cataloged.written⟩

theorem recordWrite (cataloged : stores.Cataloged) (batch : List StorageRecord) :
    (stores.write batch .recordStorage).Cataloged := by
  have same (record : StorageRecord) :
      (Store.metaStorage, [record]) ∈ (stores.write batch .recordStorage).journal ↔
        (Store.metaStorage, [record]) ∈ stores.journal := by
    simp [write]
  refine ⟨fun record member => ?_, fun record member => ?_, fun key value found => ?_⟩
  · exact cataloged.metadata record ((same record).mp member)
  · exact cataloged.found record ((same record).mp member)
  · exact (same _).mpr (cataloged.written key value found)

theorem metaWrite (cataloged : stores.Cataloged) {record : StorageRecord}
    (isMetadata : (∃ basinName basinId, record = Basin.metadataRecord basinName basinId) ∨
      ∃ streamName metadata, record = Stream.metadataRecord streamName metadata) :
    (stores.write [record] .metaStorage).Cataloged := by
  have either (other : StorageRecord)
      (member : (Store.metaStorage, [other]) ∈ (stores.write [record] .metaStorage).journal) :
      (Store.metaStorage, [other]) ∈ stores.journal ∨ other = record := by
    simpa [write] using member
  have get (key : Bytes) : (stores.write [record] .metaStorage).metaStorage.get key =
      if record.key = key then some record.value else stores.metaStorage.get key :=
    Contents.get_insert stores.metaStorage record.key key record.value
  constructor
  · intro other member
    rcases either other member with earlier | rfl
    · exact cataloged.metadata other earlier
    · exact isMetadata
  · intro other member
    rw [get]
    by_cases same : record.key = other.key
    · exact ⟨record.value, if_pos same⟩
    · rw [if_neg same]
      rcases either other member with earlier | rfl
      · exact cataloged.found other earlier
      · exact absurd rfl same
  · intro key value found
    rw [get] at found
    by_cases same : record.key = key
    · rw [if_pos same] at found
      cases found
      subst same
      exact List.mem_append_right _ List.mem_cons_self
    · rw [if_neg same] at found
      exact List.mem_append_left _ (cataloged.written key value found)

/-- A creation keeps the catalog, wherever it is cut off. -/
theorem step {MayFail : StorageOp → Prop} {creation : Creation} {after : Stores}
    (cataloged : stores.Cataloged) (taken : CreationStep MayFail stores creation after) :
    after.Cataloged := by
  cases taken with
  | basin cut =>
      rw [Basin.new_eq] at cut
      rcases Program.cut_call.mp cut with rfl | ⟨basinId, middle, ⟨_, rfl⟩, rest⟩
      · exact cataloged
      · have drawn := cataloged.draw basinId
        rcases cut_apply.mp rest with rfl | stored | ⟨_, error, failed⟩
        · exact drawn
        · rw [Program.cut_done] at stored
          exact stored ▸ drawn.metaWrite (.inl ⟨_, _, rfl⟩)
        · rw [Program.cut_done] at failed
          exact failed ▸ drawn
  | stream cut =>
      rename_i basinId streamName
      rw [Stream.new_eq] at cut
      rcases Program.cut_call.mp cut with rfl | ⟨streamId, middle, ⟨_, rfl⟩, rest⟩
      · exact cataloged
      · have drawn := cataloged.draw streamId
        have named := drawn.metaWrite (.inr ⟨streamName, ⟨basinId, streamId⟩, rfl⟩)
        rcases cut_apply.mp rest with rfl | stored | ⟨_, error, failed⟩
        · exact drawn
        · rcases cut_apply.mp stored with rfl | blocked | ⟨_, error, failed⟩
          · exact named
          · rw [Stream.blockStored, Program.cut_done] at blocked
            exact blocked ▸ named.recordWrite _
          · rw [Stream.blockStored, Program.cut_done] at failed
            exact failed ▸ named
        · rw [Stream.nameStored, Program.cut_done] at failed
          exact failed ▸ drawn

end Cataloged

/-- What creations reach from empty stores is cataloged. -/
theorem cataloged_run {MayFail : StorageOp → Prop} {creations : List Creation} {stores : Stores}
    (run : Run (CreationStep MayFail) opened creations stores) : stores.Cataloged :=
  run.invariant (fun taken cataloged => cataloged.step taken) cataloged_opened

end Stores

/-! ## Reading one family back -/

/-- One name comes before another in the byte order of their UTF-8 encodings. -/
def NameBefore (left right : String) : Prop :=
  left.toByteArray.data.toList < right.toByteArray.data.toList

/-- The bytes of a name decode to the name. -/
theorem fromUtf8_bytes (name : String) : fromUtf8 name.toByteArray.data.toList = .ok name := by
  have decoded : String.fromUTF8? name.toByteArray = some name := dif_pos name.isValidUTF8
  rw [fromUtf8, Array.toArray_toList, decoded]

/-- Names in ascending order are not moved by the sort. -/
theorem mergeSort_ascending {View : Type} (view : String → View) (name : View → String)
    (name_view : ∀ value, name (view value) = value) {names : List String}
    (ascending : names.Pairwise NameBefore) :
    (names.map view).mergeSort (fun a b => nameLe (name a) (name b)) = names.map view := by
  apply List.mergeSort_of_pairwise
  rw [List.pairwise_map]
  apply ascending.imp
  intro left right before
  rw [name_view, name_view, nameLe, decide_eq_false (List.lt_asymm before)]
  rfl

/-- Keys with a common front are in the order of the names that follow it. -/
theorem ascending_of_keys {front : Bytes} {key : String → Bytes}
    (key_eq : ∀ name, key name = front ++ name.toByteArray.data.toList) {names : List String}
    {records : List StorageRecord} (keys : records.map StorageRecord.key = names.map key)
    (sorted : records.Pairwise fun left right => left.key < right.key) :
    names.Pairwise NameBefore := by
  have ordered : (names.map key).Pairwise (· < ·) := by
    rw [← keys]
    exact List.pairwise_map.mpr sorted
  apply (List.pairwise_map.mp ordered).imp
  intro left right before
  rwa [key_eq, key_eq, Lexicographic.append_lt_append_left] at before

/-- The names are those of the records when keys tell names apart. -/
theorem mem_names_iff {key : String → Bytes}
    (injective : ∀ left right, key left = key right → left = right) {names : List String}
    {records : List StorageRecord} (keys : records.map StorageRecord.key = names.map key)
    {Written : String → Prop}
    (sound : ∀ record ∈ records, ∃ name, record.key = key name ∧ Written name)
    (complete : ∀ name, Written name → ∃ record ∈ records, record.key = key name)
    (name : String) : name ∈ names ↔ Written name := by
  constructor
  · intro member
    have keyed : key name ∈ records.map StorageRecord.key := by
      rw [keys]
      exact List.mem_map_of_mem member
    rcases List.mem_map.mp keyed with ⟨record, scanned, equal⟩
    rcases sound record scanned with ⟨other, keyEqual, written⟩
    rwa [injective name other (equal.symm.trans keyEqual)]
  · intro written
    rcases complete name written with ⟨record, scanned, equal⟩
    have keyed : key name ∈ names.map key := by
      rw [← keys, ← equal]
      exact List.mem_map_of_mem scanned
    rcases List.mem_map.mp keyed with ⟨other, member, keyEqual⟩
    rwa [← injective other name keyEqual]

theorem mem_scan_prefixRange {contents : Contents} {front : Bytes} {record : StorageRecord} :
    record ∈ contents.scanIter (prefixRange front) ↔
      front <+: record.key ∧ contents.get record.key = some record.value := by
  rw [InMemoryStorage.mem_scanIter, prefixRange_contains_iff]

section Lists

variable (ids : Nat → U128) {stores : Stores}

theorem Basin.exec_listRecords {records : List StorageRecord}
    (valid : ∀ record ∈ records, ∃ basinName basinId, record = metadataRecord basinName basinId) :
    ∃ names : List String, records.map StorageRecord.key = names.map constructMetadataKey ∧
      (listRecords records).run.exec (StorageOp.handle ids) stores =
        (some (.ok (names.map BasinView.mk)), stores) := by
  induction records with
  | nil => exact ⟨[], rfl, rfl⟩
  | cons record rest induction =>
      rcases valid record List.mem_cons_self with ⟨basinName, basinId, rfl⟩
      rcases induction fun other member => valid other (List.mem_cons_of_mem _ member) with
        ⟨names, keys, returned⟩
      refine ⟨basinName :: names, by rw [List.map_cons, List.map_cons, keys]; rfl, ?_⟩
      have decoded : deserialiseBasinId (metadataRecord basinName basinId).value = .ok basinId :=
        deserialiseBasinId_putU128 basinId
      have name : fromUtf8 ((metadataRecord basinName basinId).key.drop metadataPrefix.length) =
          .ok basinName := fromUtf8_bytes basinName
      simp only [listRecords, nextRecord, Program.perform, run_bind, run_orThrow,
        Program.bind_call, Program.bind_done, Program.exec, StorageOp.handle, List.head?_cons,
        run_ofResult, decoded, name, mapError_ok]
      rw [Program.exec_bind_some _ (congrArg Prod.fst returned), returned]
      rfl

theorem Stream.exec_listRecords (basinId : U128) {records : List StorageRecord}
    (valid : ∀ record ∈ records, ∃ streamName streamId,
      record = metadataRecord streamName ⟨basinId, streamId⟩) :
    ∃ names : List String,
      records.map StorageRecord.key = names.map (constructMetadataKey basinId) ∧
      (listRecords basinId records).run.exec (StorageOp.handle ids) stores =
        (some (.ok (names.map StreamView.mk)), stores) := by
  induction records with
  | nil => exact ⟨[], rfl, rfl⟩
  | cons record rest induction =>
      rcases valid record List.mem_cons_self with ⟨streamName, streamId, rfl⟩
      rcases induction fun other member => valid other (List.mem_cons_of_mem _ member) with
        ⟨names, keys, returned⟩
      refine ⟨streamName :: names, by rw [List.map_cons, List.map_cons, keys]; rfl, ?_⟩
      have decoded : StreamMetadata.deserialise
          (metadataRecord streamName ⟨basinId, streamId⟩).value = .ok ⟨basinId, streamId⟩ :=
        StreamMetadata.deserialise_serialise _
      have split : (metadataRecord streamName ⟨basinId, streamId⟩).key =
          metadataPrefix basinId ++ streamName.toByteArray.data.toList := rfl
      have name : fromUtf8 ((metadataRecord streamName ⟨basinId, streamId⟩).key.drop
          (metadataPrefix basinId).length) = .ok streamName := by
        rw [split, List.drop_left]
        exact fromUtf8_bytes streamName
      simp only [listRecords, nextRecord, Program.perform, run_bind, run_orThrow,
        Program.bind_call, Program.bind_done, Program.exec, StorageOp.handle, List.head?_cons,
        run_ofResult, decoded, name, mapError_ok]
      rw [Program.exec_bind_some _ (congrArg Prod.fst returned), returned]
      rfl

end Lists

namespace Stores.Cataloged

variable {stores : Stores} (cataloged : stores.Cataloged)

include cataloged

/-- The records with the basin tag are those of basins. -/
theorem scanned_basin {record : StorageRecord}
    (member : record ∈ stores.metaStorage.scanIter (prefixRange Basin.metadataPrefix)) :
    ∃ basinName basinId, record = Basin.metadataRecord basinName basinId ∧
      stores.BasinWritten basinName := by
  rcases mem_scan_prefixRange.mp member with ⟨extends_, found⟩
  have written := cataloged.written record.key record.value found
  rcases cataloged.metadata record written with ⟨basinName, basinId, rfl⟩ | ⟨streamName, metadata, rfl⟩
  · exact ⟨basinName, basinId, rfl, basinId, written⟩
  · exact absurd (List.cons_prefix_cons.mp extends_).1 (by decide)

/-- The records with the stream tag and a basin's id are those of the basin's streams. -/
theorem scanned_stream {basinId : U128} {record : StorageRecord}
    (member : record ∈ stores.metaStorage.scanIter (prefixRange (Stream.metadataPrefix basinId))) :
    ∃ streamName streamId, record = Stream.metadataRecord streamName ⟨basinId, streamId⟩ ∧
      stores.StreamWritten basinId streamName := by
  rcases mem_scan_prefixRange.mp member with ⟨extends_, found⟩
  have written := cataloged.written record.key record.value found
  rcases cataloged.metadata record written with
    ⟨basinName, other, rfl⟩ | ⟨streamName, ⟨other, streamId⟩, rfl⟩
  · exact absurd (List.cons_prefix_cons.mp extends_).1 (by decide)
  · have same : basinId = other :=
      (Stream.metadataPrefix_isPrefix_iff basinId other streamName).mp extends_
    subst same
    exact ⟨streamName, streamId, rfl, streamId, written⟩

theorem basin_scanned {basinName : String} (written : stores.BasinWritten basinName) :
    ∃ record ∈ stores.metaStorage.scanIter (prefixRange Basin.metadataPrefix),
      record.key = Basin.constructMetadataKey basinName := by
  rcases written with ⟨basinId, member⟩
  rcases cataloged.found _ member with ⟨value, found⟩
  refine ⟨⟨Basin.constructMetadataKey basinName, value⟩, ?_, rfl⟩
  exact mem_scan_prefixRange.mpr ⟨List.prefix_append _ _, found⟩

theorem stream_scanned {basinId : U128} {streamName : String}
    (written : stores.StreamWritten basinId streamName) :
    ∃ record ∈ stores.metaStorage.scanIter (prefixRange (Stream.metadataPrefix basinId)),
      record.key = Stream.constructMetadataKey basinId streamName := by
  rcases written with ⟨streamId, member⟩
  rcases cataloged.found _ member with ⟨value, found⟩
  refine ⟨⟨Stream.constructMetadataKey basinId streamName, value⟩, ?_, rfl⟩
  exact mem_scan_prefixRange.mpr
    ⟨(Stream.metadataPrefix_isPrefix_iff basinId basinId streamName).mpr rfl, found⟩

theorem basin_list (ids : Nat → U128) :
    ∃ names : List String,
      Basin.list.run.exec (StorageOp.handle ids) stores =
        (some (.ok (names.map BasinView.mk)), stores) ∧
      (∀ name, name ∈ names ↔ stores.BasinWritten name) ∧ names.Pairwise NameBefore := by
  let records := (stores.contents .metaStorage).scanIter (prefixRange Basin.metadataPrefix)
  have valid (record : StorageRecord) (member : record ∈ records) :
      ∃ basinName basinId, record = Basin.metadataRecord basinName basinId := by
    rcases cataloged.scanned_basin member with ⟨basinName, basinId, equal, _⟩
    exact ⟨basinName, basinId, equal⟩
  have read : ∃ names : List String,
      records.map StorageRecord.key = names.map Basin.constructMetadataKey ∧
        (Basin.listRecords records).run.exec (StorageOp.handle ids) stores =
          (some (.ok (names.map BasinView.mk)), stores) := Basin.exec_listRecords ids valid
  rcases read with ⟨names, keys, returned⟩
  have key_eq (name : String) : Basin.constructMetadataKey name =
      Basin.metadataPrefix ++ name.toByteArray.data.toList := rfl
  have ascending : names.Pairwise NameBefore :=
    ascending_of_keys key_eq keys (InMemoryStorage.sorted_scanIter _ _)
  refine ⟨names, ?_, ?_, ascending⟩
  · simp only [Basin.list, scanIter, Program.perform, run_bind, run_orThrow, Program.bind_call,
      Program.bind_done, Program.exec, StorageOp.handle]
    rw [Program.exec_bind_some _ (congrArg Prod.fst returned), returned]
    have sorted := mergeSort_ascending BasinView.mk BasinView.basinName (fun _ => rfl) ascending
    simp only [sorted]
    rfl
  · apply mem_names_iff (fun _ _ => Basin.constructMetadataKey_injective) keys
    · intro record member
      rcases cataloged.scanned_basin member with ⟨basinName, basinId, rfl, written⟩
      exact ⟨basinName, rfl, written⟩
    · exact fun name written => cataloged.basin_scanned written

theorem stream_list (ids : Nat → U128) (basinId : U128) :
    ∃ names : List String,
      (Stream.list basinId).run.exec (StorageOp.handle ids) stores =
        (some (.ok (names.map StreamView.mk)), stores) ∧
      (∀ name, name ∈ names ↔ stores.StreamWritten basinId name) ∧ names.Pairwise NameBefore := by
  let records :=
    (stores.contents .metaStorage).scanIter (prefixRange (Stream.metadataPrefix basinId))
  have valid (record : StorageRecord) (member : record ∈ records) :
      ∃ streamName streamId, record = Stream.metadataRecord streamName ⟨basinId, streamId⟩ := by
    rcases cataloged.scanned_stream member with ⟨streamName, streamId, equal, _⟩
    exact ⟨streamName, streamId, equal⟩
  have read : ∃ names : List String,
      records.map StorageRecord.key = names.map (Stream.constructMetadataKey basinId) ∧
        (Stream.listRecords basinId records).run.exec (StorageOp.handle ids) stores =
          (some (.ok (names.map StreamView.mk)), stores) :=
    Stream.exec_listRecords ids basinId valid
  rcases read with ⟨names, keys, returned⟩
  have ascending : names.Pairwise NameBefore :=
    ascending_of_keys (Stream.constructMetadataKey_eq_append basinId) keys
      (InMemoryStorage.sorted_scanIter _ _)
  refine ⟨names, ?_, ?_, ascending⟩
  · simp only [Stream.list, scanIter, Program.perform, run_bind, run_orThrow, Program.bind_call,
      Program.bind_done, Program.exec, StorageOp.handle]
    rw [Program.exec_bind_some _ (congrArg Prod.fst returned), returned]
    have sorted := mergeSort_ascending StreamView.mk StreamView.streamName (fun _ => rfl) ascending
    simp only [sorted]
    rfl
  · apply mem_names_iff (fun _ _ equal => (Stream.constructMetadataKey_injective equal).2) keys
    · intro record member
      rcases cataloged.scanned_stream member with ⟨streamName, streamId, rfl, written⟩
      exact ⟨streamName, rfl, written⟩
    · exact fun name written => cataloged.stream_scanned written

end Stores.Cataloged

/-- After any creations the listings return exactly the names whose metadata was
written, in ascending order, and slice no key past its end. -/
theorem listings_exact {MayFail : StorageOp → Prop} {creations : List Creation} {stores : Stores}
    (run : Run (CreationStep MayFail) Stores.opened creations stores) (ids : Nat → U128) :
    (∃ names : List String,
      Basin.list.run.exec (StorageOp.handle ids) stores =
        (some (.ok (names.map BasinView.mk)), stores) ∧
      (∀ name, name ∈ names ↔ stores.BasinWritten name) ∧ names.Pairwise NameBefore) ∧
    (∀ basinId, ∃ names : List String,
      (Stream.list basinId).run.exec (StorageOp.handle ids) stores =
        (some (.ok (names.map StreamView.mk)), stores) ∧
      (∀ name, name ∈ names ↔ stores.StreamWritten basinId name) ∧
        names.Pairwise NameBefore) ∧
    ∀ front, ∀ record ∈ stores.metaStorage.scanIter (prefixRange front),
      front.length ≤ record.key.length := by
  have cataloged := Stores.cataloged_run run
  refine ⟨cataloged.basin_list ids, cataloged.stream_list ids, fun front record member => ?_⟩
  exact (mem_scan_prefixRange.mp member).1.length_le

/-- A basin, and a stream with no name in a basin whose id is all ones. -/
theorem listings_exact_unnamed :
    ∃ stores, ∃ basins streams : List String,
      Basin.list.run.exec (StorageOp.handle (BitVec.ofNat 128)) stores =
          (some (.ok (basins.map BasinView.mk)), stores) ∧ "orders" ∈ basins ∧
        (Stream.list (BitVec.allOnes 128)).run.exec (StorageOp.handle (BitVec.ofNat 128)) stores =
          (some (.ok (streams.map StreamView.mk)), stores) ∧ "" ∈ streams := by
  let named := (Stores.opened.draw 0).write [Basin.metadataRecord "orders" 0] .metaStorage
  let streamed := (named.draw 1).write
    [Stream.metadataRecord "" ⟨BitVec.allOnes 128, 1⟩] .metaStorage
  have basin : CreationStep NeverFails .opened (.basin "orders") named := by
    apply CreationStep.basin
    rw [Basin.new_eq]
    refine Program.cut_call.mpr (.inr ⟨0, _, ⟨by simp [Stores.opened], rfl⟩, ?_⟩)
    exact cut_apply.mpr (.inr (.inl (.here _ _)))
  have stream : CreationStep NeverFails named (.stream (BitVec.allOnes 128) "") streamed := by
    apply CreationStep.stream
    rw [Stream.new_eq]
    have undrawn : (1 : U128) ∉ named.drawn := by decide
    refine Program.cut_call.mpr (.inr ⟨1, _, ⟨undrawn, rfl⟩, ?_⟩)
    exact cut_apply.mpr (.inr (.inl (.here _ _)))
  have run : Run (CreationStep NeverFails) Stores.opened
      [.basin "orders", .stream (BitVec.allOnes 128) ""] streamed :=
    .snoc (.single basin) stream
  have basinWritten : streamed.BasinWritten "orders" :=
    ⟨0, List.mem_append_left _ (List.mem_append_right _ List.mem_cons_self)⟩
  have streamWritten : streamed.StreamWritten (BitVec.allOnes 128) "" :=
    ⟨1, List.mem_append_right _ List.mem_cons_self⟩
  rcases listings_exact run (BitVec.ofNat 128) with ⟨⟨basins, listed, exact_, _⟩, others, _⟩
  rcases others (BitVec.allOnes 128) with ⟨streams, streamsListed, streamsExact, _⟩
  exact ⟨streamed, basins, streams, listed, (exact_ _).mpr basinWritten, streamsListed,
    (streamsExact _).mpr streamWritten⟩

end Slatestreams
