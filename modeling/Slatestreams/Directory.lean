import Slatestreams.StreamLifecycle

/-! # Names in the stores

What the two stores say about a name: the basin it leads to, the stream, and
what is stored of the stream. Creations and appends change one entry each, and
as long as ids are not drawn twice, no two names lead to the same keys. -/

namespace Slatestreams

open Foundation

namespace Stores

/-! ## Looking names up -/

def basinId (self : Stores) (basinName : String) : Option U128 :=
  (self.metaStorage.get (Basin.constructMetadataKey basinName)).bind fun value =>
    (Basin.deserialiseBasinId value).toOption

def streamMetadata (self : Stores) (basinId : U128) (streamName : String) :
    Option StreamMetadata :=
  (self.metaStorage.get (Stream.constructMetadataKey basinId streamName)).bind fun value =>
    (StreamMetadata.deserialise value).toOption

def block (self : Stores) (metadata : StreamMetadata) : Option SeqBlock :=
  (self.recordStorage.get metadata.blockKey).bind fun value =>
    (SeqBlock.deserialize value).toOption

def record (self : Stores) (metadata : StreamMetadata) (n : UInt64) : Option Bytes :=
  self.recordStorage.get (metadata.recordKey n)

/-- The stream a pair of names leads to. -/
def named (self : Stores) (basinName streamName : String) : Option StreamMetadata :=
  (self.basinId basinName).bind fun basinId => self.streamMetadata basinId streamName

/-! ## Changes -/

/-- What the creation of a basin leaves in the stores. -/
def createdBasin (self : Stores) (basinName : String) (basinId : U128) : Stores :=
  (self.draw basinId).write [⟨Basin.constructMetadataKey basinName, putU128 basinId⟩] .metaStorage

/-- What a creation leaves in the stores that ends before its second write. -/
def nameStored (self : Stores) (streamName : String) (metadata : StreamMetadata) : Stores :=
  (self.draw metadata.streamId).write
    [⟨Stream.constructMetadataKey metadata.basinId streamName, metadata.serialise⟩] .metaStorage

/-- The second write of a creation. -/
def blockStored (self : Stores) (metadata : StreamMetadata) : Stores :=
  self.write [⟨metadata.blockKey, SequenceAllocator.default.allocation.serialise⟩] .recordStorage

/-- What an append leaves in the stores. -/
def appended (self : Stores) (metadata : StreamMetadata) (block : Option SeqBlock)
    (record : Record) : Stores :=
  self.write (Stream.appendBatch metadata block record) .recordStorage

section Changes

variable (self : Stores) (basinName : String) (streamName : String) (id : U128)
  (metadata : StreamMetadata) (block : Option SeqBlock) (record : Record)

@[simp] theorem drawn_createdBasin :
    (self.createdBasin basinName id).drawn = self.drawn ++ [id] := rfl

@[simp] theorem drawn_nameStored :
    (self.nameStored streamName metadata).drawn = self.drawn ++ [metadata.streamId] := rfl

@[simp] theorem drawn_blockStored : (self.blockStored metadata).drawn = self.drawn := rfl

@[simp] theorem drawn_created :
    (self.created streamName metadata).drawn = self.drawn ++ [metadata.streamId] := rfl

@[simp] theorem drawn_appended : (self.appended metadata block record).drawn = self.drawn := rfl

@[simp] theorem get_basinKey_createdBasin (other : String) :
    (self.createdBasin basinName id).metaStorage.get (Basin.constructMetadataKey other) =
      if basinName = other then some (putU128 id)
      else self.metaStorage.get (Basin.constructMetadataKey other) := by
  refine (Contents.get_insert _ _ _ _).trans ?_
  by_cases same : basinName = other
  · simp [same]
  · rw [if_neg fun equal => same (Basin.constructMetadataKey_injective equal), if_neg same]
    rfl

@[simp] theorem get_streamKey_createdBasin (other : U128) (otherName : String) :
    (self.createdBasin basinName id).metaStorage.get
        (Stream.constructMetadataKey other otherName) =
      self.metaStorage.get (Stream.constructMetadataKey other otherName) :=
  (Contents.get_insert _ _ _ _).trans
    (if_neg (Stream.constructMetadataKey_ne_basin _ _ _).symm)

@[simp] theorem recordStorage_createdBasin :
    (self.createdBasin basinName id).recordStorage = self.recordStorage := rfl

@[simp] theorem get_basinKey_nameStored (other : String) :
    (self.nameStored streamName metadata).metaStorage.get (Basin.constructMetadataKey other) =
      self.metaStorage.get (Basin.constructMetadataKey other) :=
  (Contents.get_insert _ _ _ _).trans (if_neg (Stream.constructMetadataKey_ne_basin _ _ _))

@[simp] theorem get_streamKey_nameStored (other : U128) (otherName : String) :
    (self.nameStored streamName metadata).metaStorage.get
        (Stream.constructMetadataKey other otherName) =
      if metadata.basinId = other ∧ streamName = otherName then some metadata.serialise
      else self.metaStorage.get (Stream.constructMetadataKey other otherName) := by
  refine (Contents.get_insert _ _ _ _).trans ?_
  by_cases same : metadata.basinId = other ∧ streamName = otherName
  · rcases same with ⟨rfl, rfl⟩
    simp
  · rw [if_neg fun equal => same (Stream.constructMetadataKey_injective equal), if_neg same]
    rfl

@[simp] theorem recordStorage_nameStored :
    (self.nameStored streamName metadata).recordStorage = self.recordStorage := rfl

@[simp] theorem metaStorage_blockStored :
    (self.blockStored metadata).metaStorage = self.metaStorage := rfl

@[simp] theorem get_blockKey_blockStored (other : StreamMetadata) :
    (self.blockStored metadata).recordStorage.get other.blockKey =
      if metadata = other then some SequenceAllocator.default.currentBlock.serialise
      else self.recordStorage.get other.blockKey := by
  refine (Contents.get_insert _ _ _ _).trans ?_
  by_cases same : metadata = other
  · simp [same]
  · rw [if_neg fun equal => same (StreamMetadata.blockKey_injective equal), if_neg same]

@[simp] theorem record_blockStored (other : StreamMetadata) (n : UInt64) :
    (self.blockStored metadata).record other n = self.record other n :=
  (Contents.get_insert _ _ _ _).trans (if_neg (StreamMetadata.blockKey_ne_recordKey _ _ _))

@[simp] theorem record_created (other : StreamMetadata) (n : UInt64) :
    (self.created streamName metadata).record other n = self.record other n :=
  record_blockStored _ _ _ _

@[simp] theorem metaStorage_appended :
    (self.appended metadata block record).metaStorage = self.metaStorage := rfl

@[simp] theorem get_blockKey_appended (other : StreamMetadata) :
    (self.appended metadata block record).recordStorage.get other.blockKey =
      match block with
      | some block =>
          if metadata = other then some block.serialise
          else self.recordStorage.get other.blockKey
      | none => self.recordStorage.get other.blockKey :=
  get_appendBatch_block _ _ _ _ _

@[simp] theorem record_appended (other : StreamMetadata) (n : UInt64) :
    (self.appended metadata block record).record other n =
      if metadata = other ∧ record.seqNum = n then some record.serialise
      else self.record other n :=
  get_appendBatch_record _ _ _ _ _ _

end Changes

/-! ## Fresh ids -/

/-- The next `count` ids are new, and no two of them are equal. -/
def Fresh (ids : Nat → U128) (drawn : List U128) (count : Nat) : Prop :=
  (drawn ++ (List.range' drawn.length count).map ids).Nodup

instance (ids : Nat → U128) (drawn : List U128) (count : Nat) :
    Decidable (Fresh ids drawn count) := inferInstanceAs (Decidable (List.Nodup _))

section Fresh

variable {ids : Nat → U128} {drawn : List U128} {count : Nat}

theorem Fresh.mono {fewer : Nat} (fresh : Fresh ids drawn count) (le : fewer ≤ count) :
    Fresh ids drawn fewer :=
  List.Nodup.sublist
    (((List.range'_sublist_right.mpr le).map ids).append_left drawn) fresh

theorem Fresh.undrawn (fresh : Fresh ids drawn (count + 1)) : ids drawn.length ∉ drawn :=
  fun member => (List.nodup_append.mp fresh).2.2 _ member _
    (List.mem_map.mpr ⟨drawn.length, by simp, rfl⟩) rfl

theorem Fresh.draw (fresh : Fresh ids drawn (count + 1)) :
    Fresh ids (drawn ++ [ids drawn.length]) count := by
  rw [Fresh, List.range'_succ, List.map_cons] at fresh
  rw [Fresh, List.append_assoc, List.length_append]
  exact fresh

end Fresh

/-! ## Sound stores -/

/-- Every value is the encoding of what its key says it is, every id in the
stores has been drawn, and no id is behind two names. -/
structure Sound (stores : Stores) : Prop where
  basin (basinName : String) :
    stores.metaStorage.get (Basin.constructMetadataKey basinName) =
      (stores.basinId basinName).map putU128
  basin_drawn {basinName : String} {basinId : U128} :
    stores.basinId basinName = some basinId → basinId ∈ stores.drawn
  basin_injective {left right : String} {basinId : U128} :
    stores.basinId left = some basinId → stores.basinId right = some basinId → left = right
  stream (basinId : U128) (streamName : String) :
    stores.metaStorage.get (Stream.constructMetadataKey basinId streamName) =
      (stores.streamMetadata basinId streamName).map StreamMetadata.serialise
  stream_drawn {basinId : U128} {streamName : String} {metadata : StreamMetadata} :
    stores.streamMetadata basinId streamName = some metadata →
      metadata.basinId = basinId ∧ basinId ∈ stores.drawn ∧ metadata.streamId ∈ stores.drawn
  stream_injective {basinId : U128} {left right : String} {metadata : StreamMetadata} :
    stores.streamMetadata basinId left = some metadata →
      stores.streamMetadata basinId right = some metadata → left = right
  blocks (metadata : StreamMetadata) :
    stores.recordStorage.get metadata.blockKey = (stores.block metadata).map SeqBlock.serialise
  block_drawn {metadata : StreamMetadata} {block : SeqBlock} :
    stores.block metadata = some block → metadata.streamId ∈ stores.drawn
  record_drawn {metadata : StreamMetadata} {n : UInt64} {value : Bytes} :
    stores.record metadata n = some value → metadata.streamId ∈ stores.drawn

theorem sound_opened : opened.Sound where
  basin _ := rfl
  basin_drawn found := nomatch found
  basin_injective found := nomatch found
  stream _ _ := rfl
  stream_drawn found := nomatch found
  stream_injective found := nomatch found
  blocks _ := rfl
  block_drawn found := nomatch found
  record_drawn found := nomatch found

section Lookups

variable (self : Stores) (basinName : String) (streamName : String) (id : U128)
  (metadata : StreamMetadata) (written : Option SeqBlock) (row : Record)

@[simp] theorem basinId_createdBasin (other : String) :
    (self.createdBasin basinName id).basinId other =
      if basinName = other then some id else self.basinId other := by
  have decoded : Basin.deserialiseBasinId (putU128 id) = .ok id :=
    Basin.deserialiseBasinId_putU128 id
  rw [basinId, get_basinKey_createdBasin]
  split
  · simp [decoded, Except.toOption]
  · rfl

@[simp] theorem streamMetadata_createdBasin (other : U128) (otherName : String) :
    (self.createdBasin basinName id).streamMetadata other otherName =
      self.streamMetadata other otherName := by
  rw [streamMetadata, get_streamKey_createdBasin]
  rfl

@[simp] theorem block_createdBasin (other : StreamMetadata) :
    (self.createdBasin basinName id).block other = self.block other := rfl

@[simp] theorem record_createdBasin (other : StreamMetadata) (n : UInt64) :
    (self.createdBasin basinName id).record other n = self.record other n := rfl

@[simp] theorem basinId_nameStored (other : String) :
    (self.nameStored streamName metadata).basinId other = self.basinId other := by
  rw [basinId, get_basinKey_nameStored]
  rfl

@[simp] theorem streamMetadata_nameStored (other : U128) (otherName : String) :
    (self.nameStored streamName metadata).streamMetadata other otherName =
      if metadata.basinId = other ∧ streamName = otherName then some metadata
      else self.streamMetadata other otherName := by
  rw [streamMetadata, get_streamKey_nameStored]
  split
  · simp [metadata.deserialise_serialise, Except.toOption]
  · rfl

@[simp] theorem block_nameStored (other : StreamMetadata) :
    (self.nameStored streamName metadata).block other = self.block other := rfl

@[simp] theorem record_nameStored (other : StreamMetadata) (n : UInt64) :
    (self.nameStored streamName metadata).record other n = self.record other n := rfl

@[simp] theorem basinId_blockStored (other : String) :
    (self.blockStored metadata).basinId other = self.basinId other := rfl

@[simp] theorem streamMetadata_blockStored (other : U128) (otherName : String) :
    (self.blockStored metadata).streamMetadata other otherName =
      self.streamMetadata other otherName := rfl

@[simp] theorem block_blockStored (other : StreamMetadata) :
    (self.blockStored metadata).block other =
      if metadata = other then some SequenceAllocator.default.currentBlock
      else self.block other := by
  rw [block, get_blockKey_blockStored]
  split
  · simp [SeqBlock.deserialize_serialise, Except.toOption]
  · rfl

@[simp] theorem basinId_created (other : String) :
    (self.created streamName metadata).basinId other = self.basinId other :=
  basinId_nameStored _ _ _ _

@[simp] theorem streamMetadata_created (other : U128) (otherName : String) :
    (self.created streamName metadata).streamMetadata other otherName =
      if metadata.basinId = other ∧ streamName = otherName then some metadata
      else self.streamMetadata other otherName :=
  streamMetadata_nameStored _ _ _ _ _

@[simp] theorem block_created (other : StreamMetadata) :
    (self.created streamName metadata).block other =
      if metadata = other then some SequenceAllocator.default.currentBlock
      else self.block other :=
  block_blockStored _ _ _

@[simp] theorem basinId_appended (other : String) :
    (self.appended metadata written row).basinId other = self.basinId other := rfl

@[simp] theorem streamMetadata_appended (other : U128) (otherName : String) :
    (self.appended metadata written row).streamMetadata other otherName =
      self.streamMetadata other otherName := rfl

@[simp] theorem block_appended (other : StreamMetadata) :
    (self.appended metadata written row).block other =
      if metadata = other then written.or (self.block other) else self.block other := by
  rw [block, get_blockKey_appended]
  cases written with
  | none => simp [block]
  | some opened =>
      simp only [Option.some_or]
      split
      · simp [SeqBlock.deserialize_serialise, Except.toOption]
      · rfl

end Lookups

namespace Sound

variable {stores : Stores}

theorem createdBasin (sound : stores.Sound) {basinName : String} {id : U128}
    (undrawn : id ∉ stores.drawn) : (stores.createdBasin basinName id).Sound where
  basin other := by
    rw [get_basinKey_createdBasin, basinId_createdBasin, sound.basin]
    split <;> rfl
  basin_drawn found := by
    rw [basinId_createdBasin] at found
    split at found
    · cases found
      simp
    · simp [sound.basin_drawn found]
  basin_injective foundLeft foundRight := by
    rw [basinId_createdBasin] at foundLeft foundRight
    split at foundLeft <;> split at foundRight
    · rename_i left right
      exact left.symm.trans right
    · cases foundLeft
      exact absurd (sound.basin_drawn foundRight) undrawn
    · cases foundRight
      exact absurd (sound.basin_drawn foundLeft) undrawn
    · exact sound.basin_injective foundLeft foundRight
  stream other otherName := by
    rw [get_streamKey_createdBasin, streamMetadata_createdBasin, sound.stream]
  stream_drawn found := by
    rw [streamMetadata_createdBasin] at found
    have := sound.stream_drawn found
    simp [this]
  stream_injective foundLeft foundRight := by
    rw [streamMetadata_createdBasin] at foundLeft foundRight
    exact sound.stream_injective foundLeft foundRight
  blocks := sound.blocks
  block_drawn found := List.mem_append_left _ (sound.block_drawn found)
  record_drawn found := List.mem_append_left _ (sound.record_drawn found)

theorem nameStored (sound : stores.Sound) {streamName : String} {metadata : StreamMetadata}
    (known : metadata.basinId ∈ stores.drawn) (undrawn : metadata.streamId ∉ stores.drawn) :
    (stores.nameStored streamName metadata).Sound where
  basin other := by
    rw [get_basinKey_nameStored, basinId_nameStored, sound.basin]
  basin_drawn found := by
    rw [basinId_nameStored] at found
    exact List.mem_append_left _ (sound.basin_drawn found)
  basin_injective foundLeft foundRight := by
    rw [basinId_nameStored] at foundLeft foundRight
    exact sound.basin_injective foundLeft foundRight
  stream other otherName := by
    rw [get_streamKey_nameStored, streamMetadata_nameStored, sound.stream]
    split <;> rfl
  stream_drawn found := by
    rw [streamMetadata_nameStored] at found
    split at found
    · rename_i same
      cases found
      exact ⟨same.1, by simp [← same.1, known], by simp⟩
    · have := sound.stream_drawn found
      exact ⟨this.1, List.mem_append_left _ this.2.1, List.mem_append_left _ this.2.2⟩
  stream_injective foundLeft foundRight := by
    rw [streamMetadata_nameStored] at foundLeft foundRight
    split at foundLeft <;> split at foundRight
    · rename_i left right
      exact left.2.symm.trans right.2
    · cases foundLeft
      exact absurd (sound.stream_drawn foundRight).2.2 undrawn
    · cases foundRight
      exact absurd (sound.stream_drawn foundLeft).2.2 undrawn
    · exact sound.stream_injective foundLeft foundRight
  blocks := sound.blocks
  block_drawn found := List.mem_append_left _ (sound.block_drawn found)
  record_drawn found := List.mem_append_left _ (sound.record_drawn found)

theorem blockStored (sound : stores.Sound) {metadata : StreamMetadata}
    (known : metadata.streamId ∈ stores.drawn) : (stores.blockStored metadata).Sound where
  basin := sound.basin
  basin_drawn := sound.basin_drawn
  basin_injective := sound.basin_injective
  stream := sound.stream
  stream_drawn := sound.stream_drawn
  stream_injective := sound.stream_injective
  blocks other := by
    rw [get_blockKey_blockStored, block_blockStored, sound.blocks]
    split <;> rfl
  block_drawn found := by
    rw [block_blockStored] at found
    split at found
    · rename_i same
      exact same ▸ known
    · exact sound.block_drawn found
  record_drawn found := by
    rw [record_blockStored] at found
    exact sound.record_drawn found

theorem created (sound : stores.Sound) {streamName : String} {metadata : StreamMetadata}
    (known : metadata.basinId ∈ stores.drawn) (undrawn : metadata.streamId ∉ stores.drawn) :
    (stores.created streamName metadata).Sound :=
  (sound.nameStored known undrawn).blockStored (by simp)

theorem drawId (sound : stores.Sound) (id : U128) : (stores.draw id).Sound where
  basin := sound.basin
  basin_drawn found := List.mem_append_left _ (sound.basin_drawn found)
  basin_injective := sound.basin_injective
  stream := sound.stream
  stream_drawn found :=
    have facts := sound.stream_drawn found
    ⟨facts.1, List.mem_append_left _ facts.2.1, List.mem_append_left _ facts.2.2⟩
  stream_injective := sound.stream_injective
  blocks := sound.blocks
  block_drawn found := List.mem_append_left _ (sound.block_drawn found)
  record_drawn found := List.mem_append_left _ (sound.record_drawn found)

theorem appended (sound : stores.Sound) {metadata : StreamMetadata} (block : Option SeqBlock)
    (record : Record) (known : metadata.streamId ∈ stores.drawn) :
    (stores.appended metadata block record).Sound where
  basin := sound.basin
  basin_drawn := sound.basin_drawn
  basin_injective := sound.basin_injective
  stream := sound.stream
  stream_drawn := sound.stream_drawn
  stream_injective := sound.stream_injective
  blocks other := by
    rw [get_blockKey_appended, block_appended, sound.blocks]
    cases block with
    | none => simp
    | some block => simp only [Option.some_or]; split <;> rfl
  block_drawn found := by
    rw [block_appended] at found
    split at found
    · rename_i same
      exact same ▸ known
    · exact sound.block_drawn found
  record_drawn found := by
    rw [record_appended] at found
    split at found
    · rename_i same
      exact same.1 ▸ known
    · exact sound.record_drawn found

/-- Soundness is about what is stored, not about how it came there. -/
theorem started (sound : stores.Sound) : Sound { stores with journal := [] } :=
  ⟨sound.basin, sound.basin_drawn, sound.basin_injective, sound.stream, sound.stream_drawn,
    sound.stream_injective, sound.blocks, sound.block_drawn, sound.record_drawn⟩

/-- A name that leads to a stream is the only one that does. -/
theorem named_injective (sound : stores.Sound)
    {left right : String × String} {metadata : StreamMetadata}
    (foundLeft : stores.named left.1 left.2 = some metadata)
    (foundRight : stores.named right.1 right.2 = some metadata) : left = right := by
  rcases Option.bind_eq_some_iff.mp foundLeft with ⟨leftId, leftBasin, leftStream⟩
  rcases Option.bind_eq_some_iff.mp foundRight with ⟨rightId, rightBasin, rightStream⟩
  rcases (sound.stream_drawn leftStream).1 with rfl
  rcases (sound.stream_drawn rightStream).1 with rfl
  exact Prod.ext (sound.basin_injective leftBasin rightBasin)
    (sound.stream_injective leftStream rightStream)

end Sound

end Stores

/-! ## The library's functions, without failures -/

section Exec

variable (ids : Nat → U128) {stores : Stores}

theorem Basin.exec_load (sound : stores.Sound) (basinName : String) :
    (Basin.load basinName).run.exec (StorageOp.handle ids) stores =
      (some (.ok ((stores.basinId basinName).map fun basinId => ⟨basinId, basinName⟩)),
        stores) := by
  have found : (stores.contents .metaStorage).read (Basin.constructMetadataKey basinName) =
      ((stores.basinId basinName).map putU128).map fun value =>
        ⟨Basin.constructMetadataKey basinName, value⟩ :=
    congrArg (Option.map _) (sound.basin basinName)
  simp only [Basin.load, get, Program.perform, run_bind, run_orThrow, Program.bind_call,
    Program.bind_done, Program.exec, StorageOp.handle, found]
  cases stores.basinId basinName with
  | none => rfl
  | some basinId =>
      have decoded : Basin.deserialiseBasinId (putU128 basinId) = .ok basinId :=
        Basin.deserialiseBasinId_putU128 basinId
      simp only [Option.map_some, decoded]
      rfl

theorem Basin.exec_new (basinName : String) :
    (Basin.new basinName).run.exec (StorageOp.handle ids) stores =
      (some (.ok ⟨ids stores.drawn.length, basinName⟩),
        stores.createdBasin basinName (ids stores.drawn.length)) := rfl

theorem Stream.exec_load (sound : stores.Sound) (basinId : U128) (streamName : String) :
    (Stream.load basinId streamName).run.exec (StorageOp.handle ids) stores =
      ((match stores.streamMetadata basinId streamName with
        | none => some (.error (.streamDoesNotExist streamName))
        | some metadata =>
            (SequenceAllocator.resume (stores.block metadata)).map fun allocator =>
              .ok ⟨allocator, metadata⟩), stores) := by
  have found : (stores.contents .metaStorage).read
        (Stream.constructMetadataKey basinId streamName) =
      ((stores.streamMetadata basinId streamName).map StreamMetadata.serialise).map fun value =>
        ⟨Stream.constructMetadataKey basinId streamName, value⟩ :=
    congrArg (Option.map _) (sound.stream basinId streamName)
  rw [Stream.load_eq]
  simp only [Program.exec, StorageOp.handle, found]
  cases named : stores.streamMetadata basinId streamName with
  | none => rfl
  | some metadata =>
      rcases (sound.stream_drawn named).1 with rfl
      have stored : (stores.contents .recordStorage).read metadata.blockKey =
          ((stores.block metadata).map SeqBlock.serialise).map fun value =>
            ⟨metadata.blockKey, value⟩ :=
        congrArg (Option.map _) (sound.blocks metadata)
      unfold StreamMetadata.blockKey at stored
      simp only [Option.map_some, Stream.loadNamed_serialise, Program.exec, StorageOp.handle,
        stored]
      cases stores.block metadata with
      | none => rfl
      | some block =>
          simp only [Option.map_some, SequenceAllocator.resume]
          rw [Stream.loadResult_of_deserialize metadata _ block.deserialize_serialise]
          cases SequenceAllocator.new block <;> rfl

theorem Stream.exec_new (basinId : U128) (streamName : String) :
    (Stream.new basinId streamName).run.exec (StorageOp.handle ids) stores =
      (some (.ok ⟨SequenceAllocator.default, ⟨basinId, ids stores.drawn.length⟩⟩),
        stores.created streamName ⟨basinId, ids stores.drawn.length⟩) := by
  rw [Stream.new_eq]
  rfl

theorem Basin.only_list : Basin.list.run.Only StorageOp.Reads := by
  have records (rest : List StorageRecord) :
      (Basin.listRecords rest).run.Only StorageOp.Reads := by
    induction rest with
    | nil => exact only_run_bind (only_orThrow (.perform (by trivial)) _) fun _ => trivial
    | cons record rest induction =>
        refine only_run_bind (only_orThrow (.perform (by trivial)) _) fun found => ?_
        cases found with
        | none => trivial
        | some record =>
            exact only_run_bind trivial fun _ => only_run_bind trivial fun _ =>
              only_run_bind induction fun _ => trivial
  exact only_run_bind (only_orThrow (.perform (by trivial)) _) fun iter =>
    only_run_bind (records iter) fun _ => trivial

theorem Stream.only_list (basinId : U128) : (Stream.list basinId).run.Only StorageOp.Reads := by
  have records (rest : List StorageRecord) :
      (Stream.listRecords basinId rest).run.Only StorageOp.Reads := by
    induction rest with
    | nil => exact only_run_bind (only_orThrow (.perform (by trivial)) _) fun _ => trivial
    | cons record rest induction =>
        refine only_run_bind (only_orThrow (.perform (by trivial)) _) fun found => ?_
        cases found with
        | none => trivial
        | some record =>
            exact only_run_bind trivial fun _ => only_run_bind trivial fun _ =>
              only_run_bind induction fun _ => trivial
  exact only_run_bind (only_orThrow (.perform (by trivial)) _) fun iter =>
    only_run_bind (records iter) fun _ => trivial

theorem Basin.exec_list :
    (Basin.list.run.exec (StorageOp.handle ids) stores).2 = stores :=
  Basin.only_list.exec_eq (StorageOp.Reads.handle_eq ids) stores

theorem Stream.exec_list (basinId : U128) :
    ((Stream.list basinId).run.exec (StorageOp.handle ids) stores).2 = stores :=
  (Stream.only_list basinId).exec_eq (StorageOp.Reads.handle_eq ids) stores

end Exec

end Slatestreams
