import Mathlib.Data.List.Basic
import Slatestreams.SharedNames
import Slatestreams.StreamActorLog

/-! # The logs in the stores

What a record store holds for a stream is its log. Writes for one stream leave the
other logs as they are, and a name leads to a stream that can be gone on with. -/

namespace Slatestreams

open Foundation

/-! ## The log of a stream -/

/-- The records that the store holds for a stream. -/
@[irreducible] def Contents.log (self : Contents) (metadata : StreamMetadata) : List Record :=
  (List.range (2 ^ 64)).filterMap fun n =>
    (self.get (metadata.recordKey (UInt64.ofNat n))).bind fun value =>
      (Record.deserialise value).toOption

theorem StoresLog.log_eq {records : Contents} {metadata : StreamMetadata} {log : List Record}
    (stored : StoresLog records metadata log)
    (ascending : NumberedLog.Ascending Record.number log) : records.log metadata = log := by
  unfold Contents.log
  refine Eq.trans (List.filterMap_congr fun n member => ?_)
    (ascending.filterMap_entry fun record _ => record.seqNum.toNat_lt)
  have number : (UInt64.ofNat n).toNat = n :=
    UInt64.toNat_ofNat_of_lt' (List.mem_range.mp member)
  rw [stored, number]
  cases NumberedLog.entry Record.number log n with
  | none => rfl
  | some record => simp [Record.deserialise_serialise, Except.toOption]

/-- The keys of a stream have no values. -/
structure Blank (records : Contents) (metadata : StreamMetadata) : Prop where
  block : records.get metadata.blockKey = none
  record (n : UInt64) : records.get (metadata.recordKey n) = none

theorem Blank.stored {records : Contents} {metadata : StreamMetadata}
    (blank : Blank records metadata) : StoresLog records metadata [] :=
  fun n => blank.record n

/-- The keys of a stream have kept their values. -/
structure SameRecords (metadata : StreamMetadata) (before after : Contents) : Prop where
  block : after.get metadata.blockKey = before.get metadata.blockKey
  record (n : UInt64) : after.get (metadata.recordKey n) = before.get (metadata.recordKey n)

namespace SameRecords

variable {metadata : StreamMetadata} {before after : Contents}

theorem refl (metadata : StreamMetadata) (records : Contents) :
    SameRecords metadata records records :=
  ⟨rfl, fun _ => rfl⟩

theorem blank (same : SameRecords metadata before after) (blank : Blank before metadata) :
    Blank after metadata :=
  ⟨same.block.trans blank.block, fun n => (same.record n).trans (blank.record n)⟩

theorem read (same : SameRecords metadata before after) :
    after.read metadata.blockKey = before.read metadata.blockKey := by
  rw [Contents.read, Contents.read, same.block]

theorem appendBatch {other : StreamMetadata} (different : other ≠ metadata)
    (block : Option SeqBlock) (record : Record) :
    SameRecords metadata before (before.apply (Stream.appendBatch other block record)) where
  block := by
    rw [get_appendBatch_block]
    cases block with
    | none => rfl
    | some block => exact if_neg different
  record n := by
    rw [get_appendBatch_record]
    exact if_neg fun same => different same.1

theorem insertBlock {other : StreamMetadata} (different : other ≠ metadata) (value : Bytes) :
    SameRecords metadata before (before.insert other.blockKey value) where
  block := by
    rw [Contents.get_insert]
    exact if_neg fun same => different (StreamMetadata.blockKey_injective same)
  record n := by
    rw [Contents.get_insert]
    exact if_neg (StreamMetadata.blockKey_ne_recordKey _ _ _)

end SameRecords

section Kept

variable {metadata : StreamMetadata} {before after : Contents} {log : List Record}

theorem StoresLog.kept (stored : StoresLog before metadata log)
    (same : ∀ n, after.get (metadata.recordKey n) = before.get (metadata.recordKey n)) :
    StoresLog after metadata log :=
  fun n => (same n).trans (stored n)

theorem Contents.log_kept
    (same : ∀ n, after.get (metadata.recordKey n) = before.get (metadata.recordKey n)) :
    after.log metadata = before.log metadata := by
  unfold Contents.log
  simp only [same]

theorem Consistent.kept {stream : Stream} (consistent : Consistent before stream log)
    (same : ∀ n, after.get (stream.metadata.recordKey n) =
      before.get (stream.metadata.recordKey n)) : Consistent after stream log :=
  ⟨consistent.valid, consistent.ascending, consistent.below, consistent.stored.kept same⟩

/-- What an actor holds depends on the records of its stream only. -/
theorem ActorLog.kept {MayFail : StorageOp → Prop} {stores later : Stores} {base : List Record}
    {actor : StreamActor} {phase : ActorPhase}
    (actorLog : ActorLog (.consistent MayFail) metadata stores base log actor phase)
    (same : ∀ n, later.recordStorage.get (metadata.recordKey n) =
      stores.recordStorage.get (metadata.recordKey n)) :
    ActorLog (.consistent MayFail) metadata later base log actor phase where
  code := actorLog.code
  ascending := actorLog.ascending
  stored := StoresLog.kept actorLog.stored same
  holds := by
    have holds := actorLog.holds
    cases phase with
    | panicked => exact holds
    | _ =>
        rcases holds with ⟨rfl, agrees, rest⟩
        exact ⟨rfl, Consistent.kept agrees same, rest⟩

end Kept

/-! ## Where names lead -/

namespace Stores

/-- The log of the stream that a name leads to. -/
def log (self : Stores) (name : String × String) : List Record :=
  match self.named name.1 name.2 with
  | some metadata => self.recordStorage.log metadata
  | none => []

theorem log_of_named {self : Stores} {name : String × String} {metadata : StreamMetadata}
    (named : self.named name.1 name.2 = some metadata) :
    self.log name = self.recordStorage.log metadata := by
  rw [log, named]

/-- No two names of a basin lead to one stream, and what has not been drawn has no keys. -/
structure Separate (stores : Stores) : Prop where
  basin {basinId : U128} {streamName : String} {metadata : StreamMetadata} :
    stores.streamMetadata basinId streamName = some metadata → metadata.basinId = basinId
  basinDrawn {basinId : U128} {streamName : String} {metadata : StreamMetadata} :
    stores.streamMetadata basinId streamName = some metadata → basinId ∈ stores.drawn
  streamDrawn {basinId : U128} {streamName : String} {metadata : StreamMetadata} :
    stores.streamMetadata basinId streamName = some metadata → metadata.streamId ∈ stores.drawn
  injective {basinId : U128} {left right : String} {metadata : StreamMetadata} :
    stores.streamMetadata basinId left = some metadata →
      stores.streamMetadata basinId right = some metadata → left = right
  blank {metadata : StreamMetadata} : metadata.streamId ∉ stores.drawn →
    Blank stores.recordStorage metadata

theorem Sound.distinct {stores : Stores} (sound : stores.Sound) : stores.Distinct :=
  ⟨sound.basin_drawn, sound.basin_injective⟩

theorem Sound.separate {stores : Stores} (sound : stores.Sound) : stores.Separate where
  basin found := (sound.stream_drawn found).1
  basinDrawn found := (sound.stream_drawn found).2.1
  streamDrawn found := (sound.stream_drawn found).2.2
  injective left right := sound.stream_injective left right
  blank {metadata} undrawn := by
    constructor
    · cases found : stores.block metadata with
      | none => rw [sound.blocks, found, Option.map_none]
      | some block => exact absurd (sound.block_drawn found) undrawn
    · intro n
      cases found : stores.recordStorage.get (metadata.recordKey n) with
      | none => rfl
      | some value => exact absurd (sound.record_drawn found) undrawn

/-- A stream that is loaded under the name goes on past all the records that are stored of it. -/
def LoadsPastRecords (self : Stores) (name : String × String) : Prop :=
  ∀ metadata stream, self.named name.1 name.2 = some metadata →
    Stream.loadResult metadata (.ok (self.recordStorage.read metadata.blockKey)) =
      .done (.ok stream) →
    ∃ log, Consistent self.recordStorage stream log

variable {stores after : Stores} {name : String × String} {metadata : StreamMetadata}

theorem named_eq_some :
    stores.named name.1 name.2 = some metadata ↔
      ∃ basinId, stores.basinId name.1 = some basinId ∧
        stores.streamMetadata basinId name.2 = some metadata :=
  Option.bind_eq_some_iff

theorem Separate.named_injective (separate : stores.Separate) (distinct : stores.Distinct)
    {other : String × String} (left : stores.named name.1 name.2 = some metadata)
    (right : stores.named other.1 other.2 = some metadata) : name = other := by
  rcases named_eq_some.mp left with ⟨leftId, leftBasin, leftStream⟩
  rcases named_eq_some.mp right with ⟨rightId, rightBasin, rightStream⟩
  have same : leftId = rightId :=
    (separate.basin leftStream).symm.trans (separate.basin rightStream)
  subst same
  exact Prod.ext (distinct.injective leftBasin rightBasin)
    (separate.injective leftStream rightStream)

theorem Separate.named_drawn (separate : stores.Separate)
    (named : stores.named name.1 name.2 = some metadata) : metadata.streamId ∈ stores.drawn := by
  rcases named_eq_some.mp named with ⟨_, _, stream⟩
  exact separate.streamDrawn stream

theorem metadata_of_loadResult {stream : Stream}
    {answer : Except StorageError (Option StorageRecord)}
    (loaded : Stream.loadResult metadata answer = .done (.ok stream)) :
    stream.metadata = metadata := by
  unfold Stream.loadResult at loaded
  split at loaded
  · cases loaded
  · cases loaded
    rfl
  · split at loaded
    · cases loaded
    · split at loaded
      · cases loaded
        rfl
      · cases loaded

theorem LoadsPastRecords.kept (pastRecords : stores.LoadsPastRecords name)
    (named : after.named name.1 name.2 = stores.named name.1 name.2)
    (same : ∀ metadata, stores.named name.1 name.2 = some metadata →
      SameRecords metadata stores.recordStorage after.recordStorage) :
    after.LoadsPastRecords name := by
  intro metadata stream found loaded
  rw [named] at found
  have records := same metadata found
  rw [records.read] at loaded
  rcases pastRecords metadata stream found loaded with ⟨log, consistent⟩
  have metadata_eq : stream.metadata = metadata := metadata_of_loadResult loaded
  exact ⟨log, consistent.kept (metadata_eq ▸ records.record)⟩

/-! ### Writes -/

@[simp] theorem named_draw (id : U128) (basinName streamName : String) :
    (stores.draw id).named basinName streamName = stores.named basinName streamName := rfl

theorem streamMetadata_writeBasin (stores : Stores) (basinName : String) (basinId other : U128)
    (streamName : String) :
    (stores.write [⟨Basin.constructMetadataKey basinName, putU128 basinId⟩]
        .metaStorage).streamMetadata other streamName =
      stores.streamMetadata other streamName :=
  streamMetadata_createdBasin stores basinName basinId other streamName

theorem named_writeBasin (stores : Stores) (basinName : String) (basinId : U128)
    (name : String × String) :
    (stores.write [⟨Basin.constructMetadataKey basinName, putU128 basinId⟩] .metaStorage).named
        name.1 name.2 =
      if basinName = name.1 then stores.streamMetadata basinId name.2
      else stores.named name.1 name.2 := by
  rw [named, basinId_writeBasin]
  split
  · exact streamMetadata_writeBasin _ _ _ _ _
  · exact congrArg _ (funext fun other => streamMetadata_writeBasin _ _ _ _ _)

theorem streamMetadata_writeStream (stores : Stores) (basinId : U128) (streamName : String)
    (metadata : StreamMetadata) (other : U128) (otherName : String) :
    (stores.write [⟨Stream.constructMetadataKey basinId streamName, metadata.serialise⟩]
        .metaStorage).streamMetadata other otherName =
      if basinId = other ∧ streamName = otherName then some metadata
      else stores.streamMetadata other otherName := by
  rw [streamMetadata, get_metaStorage]
  by_cases same : basinId = other ∧ streamName = otherName
  · rcases same with ⟨rfl, rfl⟩
    simp [metadata.deserialise_serialise, Except.toOption]
  · rw [if_neg same, if_neg fun equal => same (Stream.constructMetadataKey_injective equal)]
    rfl

/-- Only the name that a stream is written for leads to it. -/
theorem named_writeStream {basinId : U128} (distinct : stores.Distinct)
    (basin : stores.basinId name.1 = some basinId) (other : String × String) :
    (stores.write [⟨Stream.constructMetadataKey basinId name.2, metadata.serialise⟩]
        .metaStorage).named other.1 other.2 =
      if name = other then some metadata else stores.named other.1 other.2 := by
  rw [named, basinId_writeStream]
  by_cases same : name = other
  · subst same
    rw [if_pos rfl, basin, Option.bind_some, streamMetadata_writeStream, if_pos ⟨rfl, rfl⟩]
  · rw [if_neg same, named]
    cases found : stores.basinId other.1 with
    | none => rfl
    | some otherId =>
        rw [Option.bind_some, Option.bind_some, streamMetadata_writeStream, if_neg]
        rintro ⟨rfl, streamName⟩
        exact same (Prod.ext (distinct.injective basin found) streamName)

namespace Separate

theorem draw (separate : stores.Separate) (id : U128) : (stores.draw id).Separate where
  basin := separate.basin
  basinDrawn found := List.mem_append_left _ (separate.basinDrawn found)
  streamDrawn found := List.mem_append_left _ (separate.streamDrawn found)
  injective := separate.injective
  blank undrawn := separate.blank fun member => undrawn (List.mem_append_left _ member)

theorem writeBasin (separate : stores.Separate) (basinName : String) (basinId : U128) :
    (stores.write [⟨Basin.constructMetadataKey basinName, putU128 basinId⟩]
      .metaStorage).Separate where
  basin found := by
    rw [streamMetadata_writeBasin] at found
    exact separate.basin found
  basinDrawn found := by
    rw [streamMetadata_writeBasin] at found
    exact separate.basinDrawn found
  streamDrawn found := by
    rw [streamMetadata_writeBasin] at found
    exact separate.streamDrawn found
  injective left right := by
    rw [streamMetadata_writeBasin] at left right
    exact separate.injective left right
  blank := separate.blank

theorem writeStream (separate : stores.Separate) {basinId streamId : U128}
    (basinDrawn : basinId ∈ stores.drawn) (streamDrawn : streamId ∈ stores.drawn)
    (unused : ∀ other, stores.streamMetadata basinId other ≠ some ⟨basinId, streamId⟩)
    (streamName : String) :
    (stores.write [⟨Stream.constructMetadataKey basinId streamName,
      (⟨basinId, streamId⟩ : StreamMetadata).serialise⟩] .metaStorage).Separate where
  basin found := by
    rw [streamMetadata_writeStream] at found
    split at found
    · rename_i same
      cases found
      exact same.1
    · exact separate.basin found
  basinDrawn found := by
    rw [streamMetadata_writeStream] at found
    split at found
    · rename_i same
      exact same.1 ▸ basinDrawn
    · exact separate.basinDrawn found
  streamDrawn found := by
    rw [streamMetadata_writeStream] at found
    split at found
    · cases found
      exact streamDrawn
    · exact separate.streamDrawn found
  injective left right := by
    rw [streamMetadata_writeStream] at left right
    split at left <;> split at right
    · rename_i first second
      exact first.2.symm.trans second.2
    · rename_i first _
      rcases first with ⟨rfl, _⟩
      cases left
      exact absurd right (unused _)
    · rename_i _ second
      rcases second with ⟨rfl, _⟩
      cases right
      exact absurd left (unused _)
    · exact separate.injective left right
  blank := separate.blank

/-- Writes to the record store are for streams that have been drawn. -/
theorem records (separate : stores.Separate) (metaStorage : after.metaStorage = stores.metaStorage)
    (drawn : after.drawn = stores.drawn)
    (same : ∀ metadata : StreamMetadata, metadata.streamId ∉ stores.drawn →
      SameRecords metadata stores.recordStorage after.recordStorage) : after.Separate := by
  have streams (basinId : U128) (streamName : String) :
      after.streamMetadata basinId streamName = stores.streamMetadata basinId streamName := by
    rw [streamMetadata, metaStorage, ← streamMetadata]
  exact
    { basin := fun found => separate.basin ((streams _ _).symm.trans found)
      basinDrawn := fun found => drawn ▸ separate.basinDrawn ((streams _ _).symm.trans found)
      streamDrawn := fun found => drawn ▸ separate.streamDrawn ((streams _ _).symm.trans found)
      injective := fun left right => separate.injective ((streams _ _).symm.trans left)
        ((streams _ _).symm.trans right)
      blank := fun undrawn => by
        rw [drawn] at undrawn
        exact (same _ undrawn).blank (separate.blank undrawn) }

end Separate

theorem loadsPastRecords_opened (name : String × String) : opened.LoadsPastRecords name := by
  intro metadata stream named
  cases named

/-- A stream that has just been made is loaded without records. -/
theorem loadsPastRecords_of_blank (named : stores.named name.1 name.2 = some metadata)
    (blank : Blank stores.recordStorage metadata) : stores.LoadsPastRecords name := by
  intro other stream found loaded
  rw [named] at found
  cases found
  rw [Contents.read, blank.block] at loaded
  cases loaded
  exact ⟨[], SequenceAllocator.valid_default, NumberedLog.ascending_nil, List.forall_mem_nil _,
    blank.stored⟩

/-- A stored block that covers the records is gone on after. -/
theorem loadsPastRecords_of_covers {block : SeqBlock} {log : List Record}
    (named : stores.named name.1 name.2 = some metadata)
    (reserved : stores.recordStorage.get metadata.blockKey = some block.serialise)
    (positive : 1 ≤ block.blockSize.toNat) (ascending : NumberedLog.Ascending Record.number log)
    (stored : StoresLog stores.recordStorage metadata log)
    (covers : ∀ record ∈ log, record.number < block.start.toNat + block.blockSize.toNat) :
    stores.LoadsPastRecords name := by
  intro other stream found loaded
  rw [named] at found
  cases found
  rw [Contents.read, reserved, Option.map_some,
    Stream.loadResult_of_deserialize metadata _ block.deserialize_serialise] at loaded
  cases created : SequenceAllocator.new block with
  | none =>
      rw [created] at loaded
      cases loaded
  | some allocator =>
      rw [created] at loaded
      cases loaded
      exact ⟨log, .of_block ascending stored positive covers created⟩

/-- The block that a creation stores does not matter for a log without records. -/
theorem loadsPastRecords_of_block (named : stores.named name.1 name.2 = some metadata)
    (block : stores.recordStorage.get metadata.blockKey =
      some SequenceAllocator.default.allocation.serialise)
    (stored : StoresLog stores.recordStorage metadata []) : stores.LoadsPastRecords name :=
  loadsPastRecords_of_covers named block (by decide) NumberedLog.ascending_nil stored
    (List.forall_mem_nil _)

end Stores

end Slatestreams
