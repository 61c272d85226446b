import Slatestreams.Ledger
import Slatestreams.Listing
import Slatestreams.MetadataWrites
import Slatestreams.NamedStream

/-! # The server is a catalog of logs

Over a whole history, restarts included, the requests have the results that they
have on the catalog, and the records that are stored are those of the logs. -/

namespace Slatestreams

open Foundation

/-! ## One stream -/

/-- What is stored of the stream and its actor, or the one that a load starts, stand where the
log does. -/
structure NamedStream.Logs (stream : NamedStream) (stored : StoredStream) (process : Process)
    (allocator : SequenceAllocator) (log : StreamLog) : Prop where
  known : stream.stored = some stored
  records (n : UInt64) :
    stored.records n = (log.item n.toNat).map fun data => Record.serialise ⟨n, data⟩
  block : stored.block = some allocator.currentBlock
  current : stream.current stored = some process
  alive : process.allocator = some allocator
  valid : allocator.Valid
  size : allocator.currentBlock.blockSize = DEFAULT_BLOCK_SIZE
  tail : allocator.nextSequenceNumber.toNat = log.tail
  reserved : allocator.currentBlock.start.toNat + DEFAULT_BLOCK_SIZE.toNat = log.reserved
  sent : process.sent <:+ log.records

namespace NamedStream

variable {stream : NamedStream} {stored : StoredStream} {process : Process}
  {allocator : SequenceAllocator} {log : StreamLog}

/-- A creation leaves the empty log. -/
theorem logs_create (unstored : stream.stored = none) :
    stream.create.2.Logs stream.create.1 (.spawned .default) .default .empty := by
  have created : stream.create = (⟨some SequenceAllocator.default.currentBlock, fun _ => none⟩,
      { stream with
        stored := some ⟨some SequenceAllocator.default.currentBlock, fun _ => none⟩
        process := some (.spawned .default) }) := by
    simp only [create, unstored]
  rw [created]
  exact
    { known := rfl
      records := fun _ => rfl
      block := rfl
      current := rfl
      alive := rfl
      valid := SequenceAllocator.valid_default
      size := rfl
      tail := rfl
      reserved := by decide
      sent := List.nil_suffix }

namespace Logs

theorem create_eq (logs : stream.Logs stored process allocator log) :
    stream.create = (stored, stream) := by
  simp only [create, logs.known]

/-- An append adds the next entry, as long as there are numbers left. -/
theorem appendTo (logs : stream.Logs stored process allocator log)
    (fits : log.reserved + DEFAULT_BLOCK_SIZE.toNat < 2 ^ 64) (data : Bytes) :
    (stream.appendTo stored data).1 = some (.ok (UInt64.ofNat (log.tail + 1))) ∧
      ∃ kept after, (stream.appendTo stored data).2.Logs kept
        ⟨some after, process.sent ++ [StreamLog.record (log.tail, data)]⟩ after
        (log.append data) := by
  have size := congrArg UInt64.toNat logs.size
  have reserved := logs.reserved
  have granted : (allocator.allocate 1).isSome :=
    SequenceAllocator.allocate_isSome logs.valid logs.valid.blockSize_pos (by omega)
  rcases Option.isSome_iff_exists.mp granted with ⟨⟨⟨seqNum, block⟩, after⟩, allocated⟩
  rcases SequenceAllocator.allocate_eq_some allocated with ⟨rfl, grants⟩
  have next : after.nextSequenceNumber.toNat = log.tail + 1 := by
    rw [grants.next_eq, logs.tail]
    rfl
  have returned : after.nextSequenceNumber = UInt64.ofNat (log.tail + 1) := by
    rw [← next, UInt64.ofNat_toNat]
  have number : UInt64.ofNat log.tail = allocator.nextSequenceNumber := by
    rw [← logs.tail, UInt64.ofNat_toNat]
  have appended : stream.appendTo stored data =
      (some (.ok after.nextSequenceNumber),
        { stream with
          stored := some (stored.store (some (block, ⟨allocator.nextSequenceNumber, data⟩)))
          process := some ⟨some after,
            process.sent ++ [⟨allocator.nextSequenceNumber, data⟩]⟩ }) := by
    simp only [NamedStream.appendTo, logs.current, Process.append, logs.alive, allocated]
  rw [appended, StreamLog.record, number]
  refine ⟨congrArg some (congrArg Except.ok returned),
    stored.store (some (block, ⟨allocator.nextSequenceNumber, data⟩)), after, ?_⟩
  exact
    { known := rfl
      records := fun n => by
        have numbered : log.tail = n.toNat ↔ n = allocator.nextSequenceNumber := by
          rw [← logs.tail, UInt64.toNat_inj, eq_comm]
        simp only [StoredStream.store, StreamLog.append, ReservedLog.item_append, numbered]
        by_cases same : n = allocator.nextSequenceNumber
        · rw [same, Function.update_self, if_pos rfl, Option.map_some]
        · rw [Function.update_of_ne same, if_neg same]
          exact logs.records n
      block := by
        cases grants with
        | within advanced inside => exact logs.block
        | crossing advanced reached base => rfl
      current := rfl
      alive := rfl
      valid := grants.valid logs.valid logs.valid.blockSize_pos
      size := grants.blockSize_eq.trans logs.size
      tail := next
      reserved := by
        change _ = if log.tail + 1 < log.reserved then log.reserved
          else log.reserved + DEFAULT_BLOCK_SIZE.toNat
        cases grants with
        | within advanced inside =>
            simp only at next
            rw [if_pos (by omega)]
            exact reserved
        | crossing advanced reached base =>
            simp only at next
            rw [if_neg (by omega)]
            simp only
            omega
      sent := by
        rcases logs.sent with ⟨earlier, whole⟩
        refine ⟨earlier, ?_⟩
        rw [← List.append_assoc, whole]
        simp [StreamLog.append, StreamLog.records, StreamLog.record, number] }

/-- Readings are not part of the log. -/
theorem of_eq (logs : stream.Logs stored process allocator log) {other : NamedStream}
    (known : other.stored = stream.stored) (same : other.process = stream.process) :
    other.Logs stored process allocator log :=
  { logs with
    known := known.trans logs.known
    current := by
      rw [NamedStream.current, same]
      exact logs.current }

/-- A restart forgets the actor, and the next load starts after the reserved numbers. -/
theorem restart (logs : stream.Logs stored process allocator log)
    (fits : log.reserved < 2 ^ 64) (readings : Nat → Option ReadSession) :
    ∃ resumed, Logs { stream with process := none, readings } stored (.spawned resumed) resumed
      log.recover := by
  have size := congrArg UInt64.toNat logs.size
  have reserved := logs.reserved
  have base : allocator.currentBlock.nextBase =
      some (allocator.currentBlock.start + allocator.currentBlock.blockSize) :=
    addU64_of_lt (by omega)
  have resumed : SequenceAllocator.resume stored.block =
      some ⟨allocator.currentBlock.start + allocator.currentBlock.blockSize,
        allocator.currentBlock⟩ := by
    rw [logs.block]
    change SequenceAllocator.new allocator.currentBlock = _
    simp only [SequenceAllocator.new, base, Option.pure_def, Option.bind_eq_bind,
      Option.bind_some]
  have next := addU64_eq_some base
  refine ⟨⟨allocator.currentBlock.start + allocator.currentBlock.blockSize,
    allocator.currentBlock⟩, ?_⟩
  exact
    { known := logs.known
      records := logs.records
      block := logs.block
      current := by
        rw [NamedStream.current, Option.none_or, resumed]
        rfl
      alive := rfl
      valid := SequenceAllocator.valid_of_new logs.valid.blockSize_pos (by
        rw [← resumed, logs.block]
        rfl)
      size := logs.size
      tail := by
        change (allocator.currentBlock.start + allocator.currentBlock.blockSize).toNat =
          log.reserved
        omega
      reserved := reserved
      sent := List.nil_suffix }

end Logs

end NamedStream

/-! ## Names -/

theorem Stores.basinId_store (stores : Stores) (metadata : StreamMetadata)
    (written : Option (Option SeqBlock × Record)) :
    (stores.store metadata written).basinId = stores.basinId := by
  cases written <;> rfl

namespace Stores.Cataloged

variable {stores : Stores}

theorem createdBasin (cataloged : stores.Cataloged) (basinName : String) (basinId : U128) :
    (stores.createdBasin basinName basinId).Cataloged :=
  (cataloged.draw basinId).metaWrite (.inl ⟨basinName, basinId, rfl⟩)

theorem created (cataloged : stores.Cataloged) (streamName : String)
    (metadata : StreamMetadata) : (stores.created streamName metadata).Cataloged :=
  ((cataloged.draw metadata.streamId).metaWrite (.inr ⟨streamName, metadata, rfl⟩)).recordWrite _

theorem store (cataloged : stores.Cataloged) (metadata : StreamMetadata)
    (written : Option (Option SeqBlock × Record)) : (stores.store metadata written).Cataloged := by
  cases written with
  | none => exact cataloged
  | some batch => exact cataloged.recordWrite _

/-- The basins that were written are those that are found. -/
theorem basinWritten_iff (cataloged : stores.Cataloged) (sound : stores.Sound)
    (basinName : String) :
    stores.BasinWritten basinName ↔ ∃ basinId, stores.basinId basinName = some basinId := by
  constructor
  · intro written
    rcases written with ⟨basinId, member⟩
    rcases cataloged.found _ member with ⟨value, found⟩
    have decoded := (sound.basin basinName).symm.trans found
    rcases Option.map_eq_some_iff.mp decoded with ⟨other, stored, _⟩
    exact ⟨other, stored⟩
  · intro found
    rcases found with ⟨basinId, stored⟩
    have value : stores.metaStorage.get (Basin.constructMetadataKey basinName) =
        some (putU128 basinId) := by
      rw [sound.basin, stored, Option.map_some]
    exact ⟨basinId, cataloged.written _ _ value⟩

theorem streamWritten_iff (cataloged : stores.Cataloged) (sound : stores.Sound)
    (basinId : U128) (streamName : String) :
    stores.StreamWritten basinId streamName ↔
      ∃ metadata, stores.streamMetadata basinId streamName = some metadata := by
  constructor
  · intro written
    rcases written with ⟨streamId, member⟩
    rcases cataloged.found _ member with ⟨value, found⟩
    have decoded := (sound.stream basinId streamName).symm.trans found
    rcases Option.map_eq_some_iff.mp decoded with ⟨metadata, stored, _⟩
    exact ⟨metadata, stored⟩
  · intro found
    rcases found with ⟨⟨other, streamId⟩, stored⟩
    have same : other = basinId := (sound.stream_drawn stored).1
    subst same
    have value : stores.metaStorage.get (Stream.constructMetadataKey other streamName) =
        some (StreamMetadata.serialise ⟨other, streamId⟩) := by
      rw [sound.stream, stored, Option.map_some]
    exact ⟨streamId, cataloged.written _ _ value⟩

end Stores.Cataloged

/-- What is stored of a stream belongs to a name. -/
structure Stores.Rooted (stores : Stores) : Prop where
  stream {basinId : U128} {streamName : String} {metadata : StreamMetadata} :
    stores.streamMetadata basinId streamName = some metadata →
      ∃ basinName, stores.basinId basinName = some basinId
  block {metadata : StreamMetadata} {block : SeqBlock} :
    stores.block metadata = some block →
      ∃ name : String × String, stores.named name.1 name.2 = some metadata
  record {metadata : StreamMetadata} {n : UInt64} {value : Bytes} :
    stores.record metadata n = some value →
      ∃ name : String × String, stores.named name.1 name.2 = some metadata

namespace Stores.Rooted

variable {stores : Stores}

theorem opened : Stores.opened.Rooted where
  stream found := nomatch found
  block found := nomatch found
  record found := nomatch found

theorem createdBasin (rooted : stores.Rooted) (sound : stores.Sound) {basinName : String}
    (unused : stores.basinId basinName = none) (basinId : U128) :
    (stores.createdBasin basinName basinId).Rooted := by
  have missing : stores.metaStorage.get (Basin.constructMetadataKey basinName) = none := by
    rw [sound.basin, unused, Option.map_none]
  have grows : stores.Grows (stores.createdBasin basinName basinId) :=
    (Grows.draw stores basinId).trans (.write missing)
  exact
    { stream := fun found => by
        rw [streamMetadata_createdBasin] at found
        exact (rooted.stream found).imp fun _ => grows.basinId
      block := fun found => (rooted.block found).imp fun _ => grows.named
      record := fun found => (rooted.record found).imp fun _ => grows.named }

theorem created (rooted : stores.Rooted) (sound : stores.Sound) {name : String × String}
    {metadata : StreamMetadata} (basin : stores.basinId name.1 = some metadata.basinId)
    (unused : stores.streamMetadata metadata.basinId name.2 = none) :
    (stores.created name.2 metadata).Rooted := by
  have missing : stores.metaStorage.get
      (Stream.constructMetadataKey metadata.basinId name.2) = none := by
    rw [sound.stream, unused, Option.map_none]
  have grows : stores.Grows (stores.created name.2 metadata) :=
    (Grows.draw stores metadata.streamId).trans (.write missing)
  exact
    { stream := fun {basinId streamName other} found => by
        rw [streamMetadata_created] at found
        split at found
        · rename_i same
          exact ⟨name.1, grows.basinId (same.1 ▸ basin)⟩
        · exact (rooted.stream found).imp fun _ => grows.basinId
      block := fun {other block} found => by
        rw [block_created] at found
        split at found
        · rename_i same
          subst same
          refine ⟨name, ?_⟩
          rw [named, grows.basinId basin, Option.bind_some, streamMetadata_created,
            if_pos ⟨rfl, rfl⟩]
        · exact (rooted.block found).imp fun _ => grows.named
      record := fun found => by
        rw [record_created] at found
        exact (rooted.record found).imp fun _ => grows.named }

theorem store (rooted : stores.Rooted) {name : String × String} {metadata : StreamMetadata}
    (known : stores.named name.1 name.2 = some metadata)
    (written : Option (Option SeqBlock × Record)) : (stores.store metadata written).Rooted := by
  cases written with
  | none => exact rooted
  | some batch =>
      rcases batch with ⟨block, record⟩
      exact
        { stream := rooted.stream
          block := fun {other found} stored => by
            rw [Stores.store, block_appended] at stored
            split at stored
            · rename_i same
              exact ⟨name, same ▸ known⟩
            · exact rooted.block stored
          record := fun {other n value} stored => by
            rw [Stores.store, record_appended] at stored
            split at stored
            · rename_i same
              exact ⟨name, same.1 ▸ known⟩
            · exact rooted.record stored }

end Stores.Rooted

/-- Names in ascending order are what sorting the same names comes to. -/
theorem mergeSort_eq_of_mem_iff {names others : List String}
    (ascending : names.Pairwise NameBefore) (nodup : others.Nodup)
    (same : ∀ name, name ∈ others ↔ name ∈ names) : others.mergeSort nameLe = names := by
  have le_iff (left right : String) : nameLe left right = true ↔
      left.toByteArray.data.toList ≤ right.toByteArray.data.toList := by
    simp only [nameLe, Bool.not_eq_true', decide_eq_false_iff_not, List.not_lt]
  have sorted : (others.mergeSort nameLe).Pairwise fun left right => nameLe left right = true := by
    apply List.pairwise_mergeSort
    · intro first second third
      simp only [le_iff]
      exact List.le_trans
    · intro left right
      simp only [Bool.or_eq_true, le_iff]
      exact List.le_total _ _
  have ordered : names.Pairwise fun left right => nameLe left right = true := by
    apply ascending.imp
    intro left right before
    exact (le_iff left right).mpr (List.le_of_lt before)
  have distinct : names.Nodup := by
    apply ascending.imp
    intro left right before equal
    rw [equal] at before
    exact List.lt_irrefl _ before
  apply List.Perm.eq_of_pairwise _ sorted ordered
  · exact (List.mergeSort_perm others nameLe).trans
      ((List.perm_ext_iff_of_nodup nodup distinct).mpr same)
  · intro left right _ _ forth back
    apply string_bytes_injective
    exact List.le_antisymm ((le_iff left right).mp forth) ((le_iff right left).mp back)

/-! ## The service -/

namespace Service

section Append

variable (ids : Nat → U128) (service : Service) (name : String × String)

theorem basinId_createBasin (basinName other : String) :
    (∃ basinId, (service.createBasin ids basinName).2.stores.basinId other = some basinId) ↔
      other = basinName ∨ ∃ basinId, service.stores.basinId other = some basinId := by
  unfold createBasin
  split
  · rename_i known
    constructor
    · exact .inr
    · rintro (rfl | found)
      · exact ⟨_, known⟩
      · exact found
  · rw [Stores.basinId_createdBasin]
    by_cases same : basinName = other
    · simp [same]
    · simp [same, Ne.symm same]

theorem basinId_createStream (basinId : U128) (other : String) :
    (service.createStream ids name basinId).2.stores.basinId other =
      service.stores.basinId other := by
  unfold createStream
  split
  · rfl
  · exact Stores.basinId_created _ _ _ _

theorem basinId_appendTo (metadata : StreamMetadata) (data : Bytes) (other : String) :
    (service.appendTo name metadata data).2.stores.basinId other =
      service.stores.basinId other := by
  unfold appendTo
  split
  · rfl
  · exact congrFun (Stores.basinId_store _ _ _) other

theorem basinId_append {data : Bytes} (valid : validateNames name = .ok ()) (other : String) :
    (∃ basinId, (service.append ids name data).2.stores.basinId other = some basinId) ↔
      other = name.1 ∨ ∃ basinId, service.stores.basinId other = some basinId := by
  unfold append
  rw [valid]
  simp only [basinId_appendTo, basinId_createStream]
  exact basinId_createBasin ids service name.1 other

variable {ids service}

theorem cataloged_createBasin (cataloged : service.stores.Cataloged) (basinName : String) :
    (service.createBasin ids basinName).2.stores.Cataloged := by
  unfold createBasin
  split
  · exact cataloged
  · exact cataloged.createdBasin _ _

theorem cataloged_createStream (cataloged : service.stores.Cataloged) (basinId : U128) :
    (service.createStream ids name basinId).2.stores.Cataloged := by
  unfold createStream
  split
  · exact cataloged
  · exact cataloged.created _ _

theorem cataloged_appendTo (cataloged : service.stores.Cataloged) (metadata : StreamMetadata)
    (data : Bytes) : (service.appendTo name metadata data).2.stores.Cataloged := by
  unfold appendTo
  split
  · exact cataloged
  · exact cataloged.store _ _

theorem cataloged_append (cataloged : service.stores.Cataloged) (data : Bytes) :
    (service.append ids name data).2.stores.Cataloged := by
  unfold append
  split
  · exact cataloged
  · exact cataloged_appendTo _ (cataloged_createStream _ (cataloged_createBasin cataloged _) _) _ _

theorem rooted_createBasin (rooted : service.stores.Rooted) (sound : service.stores.Sound)
    (basinName : String) : (service.createBasin ids basinName).2.stores.Rooted := by
  unfold createBasin
  split
  · exact rooted
  · rename_i unused
    exact rooted.createdBasin sound unused _

theorem rooted_createStream (rooted : service.stores.Rooted) (sound : service.stores.Sound)
    {basinId : U128} (basin : service.stores.basinId name.1 = some basinId) :
    (service.createStream ids name basinId).2.stores.Rooted := by
  unfold createStream
  split
  · exact rooted
  · rename_i unused
    exact rooted.created sound basin unused

theorem rooted_appendTo (rooted : service.stores.Rooted) {metadata : StreamMetadata}
    (known : service.stores.named name.1 name.2 = some metadata) (data : Bytes) :
    (service.appendTo name metadata data).2.stores.Rooted := by
  unfold appendTo
  split
  · exact rooted
  · exact rooted.store known _

theorem rooted_append (rooted : service.stores.Rooted) (sound : service.stores.Sound)
    {count : Nat} (fresh : Stores.Fresh ids service.stores.drawn (count + 2)) (data : Bytes) :
    (service.append ids name data).2.stores.Rooted := by
  unfold append
  split
  · exact rooted
  · rcases sound_createBasin sound name.1 fresh with ⟨basinSound, basin, fewer⟩
    rcases sound_createStream basinSound basin fewer with ⟨_, known, _⟩
    have basinRooted : (service.createBasin ids name.1).2.stores.Rooted :=
      rooted_createBasin rooted sound name.1
    exact rooted_appendTo name (rooted_createStream name basinRooted basinSound basin) known data

end Append

/-- The service holds the names and the logs of the catalog, with room for `count` more
operations below the limit. -/
structure Keeps (ids : Nat → U128) (limit count : Nat) (service : Service) (ledger : Ledger) :
    Prop where
  sound : service.stores.Sound
  fresh : Stores.Fresh ids service.stores.drawn (2 * count)
  cataloged : service.stores.Cataloged
  rooted : service.stores.Rooted
  basins (basinName : String) :
    basinName ∈ ledger.basins ↔ ∃ basinId, service.stores.basinId basinName = some basinId
  absent {name : String × String} : name ∉ ledger.streams → (service.view name).stored = none
  logs {name : String × String} : name ∈ ledger.streams → ∃ stored process allocator,
    (service.view name).Logs stored process allocator (ledger.logs name)
  within (name : String × String) :
    ReservedLog.Within DEFAULT_BLOCK_SIZE.toNat (ledger.logs name)
  room (name : String × String) : (ledger.logs name).entries.length + count ≤ limit

variable {ids : Nat → U128} {limit count : Nat} {service : Service} {ledger : Ledger}

theorem keeps_start (fresh : Stores.Fresh ids [] (2 * count)) (room : count ≤ limit) :
    Keeps ids limit count (.start .opened) .empty where
  sound := Stores.sound_opened
  fresh := fresh
  cataloged := Stores.cataloged_opened
  rooted := .opened
  basins _ := ⟨fun member => absurd member List.not_mem_nil, fun ⟨_, found⟩ => by cases found⟩
  absent _ := rfl
  logs member := absurd member List.not_mem_nil
  within _ := ReservedLog.within_empty
  room _ := (Nat.zero_add count).symm ▸ room

namespace Keeps

theorem fewer (keeps : Keeps ids limit (count + 1) service ledger) :
    Keeps ids limit count service ledger :=
  { keeps with
    fresh := keeps.fresh.mono (by omega)
    room := fun name => by
      have := keeps.room name
      omega }

/-- The numbers do not run out below the limit. -/
theorem fits (keeps : Keeps ids limit count service ledger)
    (bound : DEFAULT_BLOCK_SIZE.toNat * (limit + 2) < 2 ^ 64) (name : String × String) :
    (ledger.logs name).reserved + DEFAULT_BLOCK_SIZE.toNat < 2 ^ 64 := by
  have within : (ledger.logs name).reserved ≤
      DEFAULT_BLOCK_SIZE.toNat * ((ledger.logs name).entries.length + 1) := keeps.within name
  have room := keeps.room name
  have fewer : DEFAULT_BLOCK_SIZE.toNat * ((ledger.logs name).entries.length + 1) ≤
      DEFAULT_BLOCK_SIZE.toNat * (limit + 1) := Nat.mul_le_mul_left _ (by omega)
  have split : DEFAULT_BLOCK_SIZE.toNat * (limit + 2) =
      DEFAULT_BLOCK_SIZE.toNat * (limit + 1) + DEFAULT_BLOCK_SIZE.toNat := Nat.mul_succ _ _
  omega

/-- The stream that an append goes to, once it has been made if need be. -/
theorem create_logs (keeps : Keeps ids limit count service ledger) (name : String × String) :
    ∃ process allocator, (service.view name).create.2.Logs (service.view name).create.1 process
      allocator (ledger.logs name) := by
  by_cases member : name ∈ ledger.streams
  · rcases keeps.logs member with ⟨stored, process, allocator, logs⟩
    rw [logs.create_eq]
    exact ⟨process, allocator, logs⟩
  · have created := NamedStream.logs_create (keeps.absent member)
    rw [ledger.unused name member]
    exact ⟨_, _, created⟩

theorem append (keeps : Keeps ids limit (count + 1) service ledger)
    (bound : DEFAULT_BLOCK_SIZE.toNat * (limit + 2) < 2 ^ 64) {name : String × String}
    (valid : validateNames name = .ok ()) (data : Bytes) :
    (service.append ids name data).1 =
        some (.ok (UInt64.ofNat ((ledger.logs name).tail + 1))) ∧
      Keeps ids limit count (service.append ids name data).2 (ledger.append name data) := by
  rcases view_append keeps.sound (show Stores.Fresh ids _ (2 * count + 2) from keeps.fresh) name
    data with ⟨result, after⟩
  rcases keeps.create_logs name with ⟨process, allocator, made⟩
  rcases made.appendTo (keeps.fits bound name) data with ⟨returned, kept, grown, logs⟩
  have appended : (service.view name).append name data =
      (service.view name).create.2.appendTo (service.view name).create.1 data := by
    unfold NamedStream.append
    rw [valid]
  rw [appended, returned] at result
  rw [appended] at after
  have outcome : (service.append ids name data).1 =
      some (.ok (UInt64.ofNat ((ledger.logs name).tail + 1))) := by
    rcases Option.map_eq_some_iff.mp result.symm with ⟨unplain, found, mapped⟩
    cases unplain with
    | error error => cases mapped
    | ok value => rw [found, Except.ok.inj mapped]
  rcases sound_append keeps.sound name data
    (show Stores.Fresh ids _ (2 * count + 2) from keeps.fresh) with ⟨sound, fresh⟩
  have others {other : String × String} (different : other ≠ name) :
      (service.append ids name data).2.view other = service.view other :=
    view_append_other keeps.sound (show Stores.Fresh ids _ (2 * count + 2) from keeps.fresh)
      different data
  refine ⟨outcome, ?_⟩
  exact
    { sound := sound
      fresh := fresh
      cataloged := cataloged_append name keeps.cataloged data
      rooted := rooted_append name keeps.rooted keeps.sound
        (show Stores.Fresh ids _ (2 * count + 2) from keeps.fresh) data
      basins := fun other => by
        rw [basinId_append ids service name valid, ← keeps.basins other]
        exact List.mem_insert_iff
      absent := fun {other} absent => by
        have different : other ≠ name := fun same =>
          absent (List.mem_insert_iff.mpr (.inl same))
        rw [others different]
        exact keeps.absent fun member => absent (List.mem_insert_iff.mpr (.inr member))
      logs := fun {other} member => by
        by_cases same : other = name
        · subst same
          rw [after]
          simp only [Ledger.append, Function.update_self]
          exact ⟨kept, _, grown, logs⟩
        · rw [others same]
          simp only [Ledger.append, Function.update_of_ne same]
          rcases List.mem_insert_iff.mp member with now | earlier
          · exact absurd now same
          · exact keeps.logs earlier
      within := fun other => by
        by_cases same : other = name
        · subst same
          simp only [Ledger.append, Function.update_self]
          exact (keeps.within other).append data
        · simp only [Ledger.append, Function.update_of_ne same]
          exact keeps.within other
      room := fun other => by
        have room := keeps.room other
        by_cases same : other = name
        · subst same
          simp only [Ledger.append, Function.update_self, StreamLog.append,
            ReservedLog.entries_append, List.length_append, List.length_singleton]
          omega
        · simp only [Ledger.append, Function.update_of_ne same]
          omega }

/-- Reads change neither the stores nor the actors. -/
theorem read (keeps : Keeps ids limit count service ledger) {after : Service}
    (stores : after.stores = service.stores) (processes : after.processes = service.processes) :
    Keeps ids limit count after ledger := by
  have known (name : String × String) : (after.view name).stored = (service.view name).stored := by
    simp only [view, stores]
  have same (name : String × String) :
      (after.view name).process = (service.view name).process := by
    simp only [view, processes]
  exact
    { sound := stores ▸ keeps.sound
      fresh := stores ▸ keeps.fresh
      cataloged := stores ▸ keeps.cataloged
      rooted := stores ▸ keeps.rooted
      basins := by
        rw [stores]
        exact keeps.basins
      absent := fun absent => (known _).trans (keeps.absent absent)
      logs := fun member => by
        rcases keeps.logs member with ⟨stored, process, allocator, logs⟩
        exact ⟨stored, process, allocator, logs.of_eq (known _) (same _)⟩
      within := keeps.within
      room := keeps.room }

theorem restart (keeps : Keeps ids limit count service ledger)
    (bound : DEFAULT_BLOCK_SIZE.toNat * (limit + 2) < 2 ^ 64) :
    Keeps ids limit count (.start service.stores) ledger.recover where
  sound := keeps.sound
  fresh := keeps.fresh
  cataloged := keeps.cataloged
  rooted := keeps.rooted
  basins := keeps.basins
  absent absent := keeps.absent absent
  logs {name} member := by
    rcases keeps.logs member with ⟨stored, process, allocator, logs⟩
    have fits := keeps.fits bound name
    rcases logs.restart (by omega) fun _ => none with ⟨resumed, recovered⟩
    refine ⟨stored, .spawned resumed, resumed, ?_⟩
    simp only [Ledger.recover, if_pos (show name ∈ ledger.streams from member)]
    exact recovered
  within name := by
    by_cases member : name ∈ ledger.streams
    · simp only [Ledger.recover, if_pos member]
      exact (keeps.within name).recover
    · simp only [Ledger.recover, if_neg member]
      exact keeps.within name
  room name := by
    by_cases member : name ∈ ledger.streams
    · simp only [Ledger.recover, if_pos member]
      exact keeps.room name
    · simp only [Ledger.recover, if_neg member]
      exact keeps.room name

/-- A stream of the catalog is found under its name, with its actor. -/
theorem process_eq (keeps : Keeps ids limit count service ledger) {name : String × String}
    (member : name ∈ ledger.streams) :
    ∃ basinId metadata process allocator, service.stores.basinId name.1 = some basinId ∧
      service.stores.streamMetadata basinId name.2 = some metadata ∧
      service.process name metadata = some process ∧
      (service.view name).Logs (service.stores.streamOf metadata) process allocator
        (ledger.logs name) := by
  rcases keeps.logs member with ⟨stored, process, allocator, logs⟩
  rcases Option.map_eq_some_iff.mp logs.known with ⟨metadata, named, rfl⟩
  rcases Option.bind_eq_some_iff.mp named with ⟨basinId, basin, stream⟩
  exact ⟨basinId, metadata, process, allocator, basin, stream, logs.current, logs⟩

/-- A stream that is not in the catalog is not found. -/
theorem unnamed (keeps : Keeps ids limit count service ledger) {name : String × String}
    (absent : name ∉ ledger.streams) {basinId : U128}
    (basin : service.stores.basinId name.1 = some basinId) :
    service.stores.streamMetadata basinId name.2 = none := by
  have unstored := Option.map_eq_none_iff.mp (keeps.absent absent)
  rw [Stores.named, basin, Option.bind_some] at unstored
  exact unstored

theorem readFollow (keeps : Keeps ids limit count service ledger) (reader : Reader)
    (startSeqNum : UInt64) :
    (service.readFollow reader startSeqNum).1 =
      .following (some (ledger.find reader.name)) := by
  unfold Service.readFollow subscribe Ledger.find
  cases validateNames reader.name with
  | error error => rfl
  | ok =>
      by_cases basinMember : reader.name.1 ∈ ledger.basins
      · rcases (keeps.basins _).mp basinMember with ⟨basinId, basin⟩
        by_cases member : reader.name ∈ ledger.streams
        · rcases keeps.process_eq member with
            ⟨other, metadata, process, allocator, found, stream, current, logs⟩
          rw [basin] at found
          cases found
          simp only [basin, stream, current, Option.map_some, logs.alive, if_pos basinMember,
            if_pos member]
        · simp only [basin, keeps.unnamed member basin, if_pos basinMember, if_neg member]
      · have unknown : service.stores.basinId reader.name.1 = none := by
          rw [Option.eq_none_iff_forall_ne_some]
          intro basinId found
          exact basinMember ((keeps.basins _).mpr ⟨basinId, found⟩)
        simp only [unknown, if_neg basinMember]

theorem listBasins (keeps : Keeps ids limit count service ledger) :
    service.listBasins ids = some (.ok ledger.listBasins) := by
  rcases keeps.cataloged.basin_list ids with ⟨names, listed, written, ascending⟩
  have same (name : String) : name ∈ ledger.basins ↔ name ∈ names := by
    rw [keeps.basins, written, keeps.cataloged.basinWritten_iff keeps.sound]
  rw [Service.listBasins, listed, Ledger.listBasins,
    mergeSort_eq_of_mem_iff ascending ledger.basinsNodup same]
  rfl

theorem listStreams (keeps : Keeps ids limit count service ledger) (basinName : String) :
    service.listStreams ids basinName = some (ledger.listStreams basinName) := by
  unfold Service.listStreams Ledger.listStreams
  cases validateName "basin_name" basinName with
  | error error => rfl
  | ok =>
      by_cases member : basinName ∈ ledger.basins
      · rcases (keeps.basins _).mp member with ⟨basinId, basin⟩
        rcases keeps.cataloged.stream_list ids basinId with ⟨names, listed, written, ascending⟩
        have same (name : String) : name ∈ ledger.streamNames basinName ↔ name ∈ names := by
          rw [Ledger.mem_streamNames, written,
            keeps.cataloged.streamWritten_iff keeps.sound]
          constructor
          · intro known
            rcases keeps.process_eq known with ⟨other, metadata, _, _, found, stream, _⟩
            rw [basin] at found
            cases found
            exact ⟨metadata, stream⟩
          · intro stored
            rcases stored with ⟨metadata, stream⟩
            by_contra absent
            rw [keeps.unnamed absent basin] at stream
            cases stream
        simp only [basin, if_pos member, listed,
          mergeSort_eq_of_mem_iff ascending (ledger.nodup_streamNames basinName) same]
        rfl
      · have unknown : service.stores.basinId basinName = none := by
          rw [Option.eq_none_iff_forall_ne_some]
          intro basinId found
          exact member ((keeps.basins _).mpr ⟨basinId, found⟩)
        simp only [unknown, if_neg member]

end Keeps

end Service

/-! ## Histories -/

/-- The steps of readers, whose outcomes are what they are delivered. -/
def Operation.delivers : Operation → Bool
  | .advance _ | .receive _ => true
  | _ => false

/-- Every request has the result it has on the catalog. -/
theorem Service.keeps_simulates (ids : Nat → U128) {limit : Nat}
    (bound : DEFAULT_BLOCK_SIZE.toNat * (limit + 2) < 2 ^ 64) :
    Machine.Simulates (perform ids) Ledger.perform (fun operation => !operation.delivers) id
      (Keeps ids limit) where
  kept {count service ledger operation} keeps _ := by
    cases operation with
    | append basinName streamName data =>
        simp only [perform, Ledger.perform]
        cases valid : validateNames (basinName, streamName) with
        | error error =>
            simp only [Service.append, valid]
            exact ⟨rfl, keeps.fewer⟩
        | ok =>
            rcases keeps.append bound valid data with ⟨result, after⟩
            rw [result]
            exact ⟨rfl, after⟩
    | readFollow reader startSeqNum =>
        rcases perform_read ids service
          (show (Operation.readFollow reader startSeqNum).isRead = true from rfl) with
          ⟨stores, processes⟩
        exact ⟨(keeps.readFollow reader startSeqNum).symm, keeps.fewer.read stores processes⟩
    | advance reader => contradiction
    | receive reader => contradiction
    | listBasins label =>
        simp only [perform, Ledger.perform, keeps.listBasins]
        exact ⟨rfl, keeps.fewer⟩
    | listStreams label basinName =>
        simp only [perform, Ledger.perform, keeps.listStreams]
        exact ⟨rfl, keeps.fewer⟩
    | restart => exact ⟨rfl, keeps.fewer.restart bound⟩
  dropped {count service ledger operation} keeps gone := by
    have delivers : operation.delivers = true := by simpa using gone
    have read : operation.isRead = true := by
      cases operation with
      | advance reader => rfl
      | receive reader => rfl
      | _ => cases delivers
    rcases perform_read ids service read with ⟨stores, processes⟩
    exact keeps.fewer.read stores processes

namespace World

variable {ids : Nat → U128} {history : List Operation} {later : Nat}

/-- After a history the service without caches holds the catalog. -/
theorem final_keeps {limit : Nat} (fresh : Stores.Fresh ids [] (2 * (history.length + later)))
    (room : history.length + later ≤ limit)
    (bound : DEFAULT_BLOCK_SIZE.toNat * (limit + 2) < 2 ^ 64) :
    Service.Keeps ids limit later
      (Machine.final (Service.perform ids) (.start .opened) history)
      (Machine.final Ledger.perform .empty (history.filter fun operation => !operation.delivers)) :=
  (Service.keeps_simulates ids bound).final_related later (Service.keeps_start fresh room)

/-- From the first start of the server on, every request has the result that it has on the
catalog of logs, restarts included: what appends return, what is found, what is listed. The
names and the records that are stored are those of the catalog, and nothing is stored of a
stream that no name leads to. -/
theorem refines_catalog (fresh : Stores.Fresh ids [] (2 * history.length))
    (bound : DEFAULT_BLOCK_SIZE.toNat * (history.length + 2) < 2 ^ 64) :
    let requests := history.filter fun operation => !operation.delivers
    let ledger := Machine.final Ledger.perform .empty requests
    let stores := (Machine.final (perform ids) (.start .opened) history).server.stores
    Machine.transcript Ledger.perform .empty requests =
        (Machine.transcript (perform ids) (.start .opened) history).filter
          (fun entry => !entry.1.delivers) ∧
      (∀ basinName, basinName ∈ ledger.basins ↔ stores.basinId basinName ≠ none) ∧
      (∀ name, name ∈ ledger.streams ↔ stores.named name.1 name.2 ≠ none) ∧
      (∀ name metadata, stores.named name.1 name.2 = some metadata → ∀ n : UInt64,
        stores.record metadata n =
          ((ledger.logs name).item n.toNat).map fun data => Record.serialise ⟨n, data⟩) ∧
      stores.Rooted := by
  intro requests ledger stores
  have keeps : Service.Keeps ids history.length 0
      (Machine.final (Service.perform ids) (.start .opened) history) ledger :=
    final_keeps fresh (Nat.le_refl _) bound
  have same : stores = (Machine.final (Service.perform ids) (.start .opened) history).stores :=
    (final_represents Stores.sound_opened fresh : Represents ids 0 _ _).server.stores
  refine ⟨?_, ?_, ?_, ?_, same ▸ keeps.rooted⟩
  · rw [transcript_eq Stores.sound_opened fresh,
      (Service.keeps_simulates ids bound).transcript_eq
        (Service.keeps_start fresh (Nat.le_refl _))]
    exact List.map_id' _
  · intro basinName
    rw [same, keeps.basins, ← Option.isSome_iff_exists, Option.isSome_iff_ne_none]
  · intro name
    rw [same]
    constructor
    · intro member
      rcases keeps.process_eq member with ⟨basinId, metadata, _, _, basin, stream, _⟩
      rw [Stores.named, basin, Option.bind_some, stream]
      exact Option.some_ne_none _
    · intro named
      by_contra absent
      exact named (Option.map_eq_none_iff.mp (keeps.absent absent))
  · intro name metadata named n
    rw [same] at named ⊢
    have member : name ∈ ledger.streams := by
      by_contra absent
      rw [Option.map_eq_none_iff.mp (keeps.absent absent)] at named
      cases named
    rcases keeps.process_eq member with ⟨basinId, other, _, _, basin, stream, _, logs⟩
    rw [Stores.named, basin, Option.bind_some, stream] at named
    cases named
    exact logs.records n

/-- A restart leaves out the rest of the first block, and a read that is refused makes no
stream. -/
theorem refines_catalog_restarted :
    let history : List Operation :=
      [.append "orders" "events" [97], .restart, .append "orders" "events" [98],
        .readFollow ⟨"orders", "audit", 0⟩ 0]
    let last := Machine.final (perform (BitVec.ofNat 128)) (.start .opened) history
    let stores := last.server.stores
    Machine.transcript (perform (BitVec.ofNat 128)) (.start .opened) history =
        [(.append "orders" "events" [97], .appended (some (.ok 1))), (.restart, .silent),
          (.append "orders" "events" [98], .appended (some (.ok 4097))),
          (.readFollow ⟨"orders", "audit", 0⟩ 0,
            .following (some (.error (.notFound "stream orders/audit"))))] ∧
      (∀ basinName, stores.basinId basinName ≠ none ↔ basinName = "orders") ∧
      (∀ name, stores.named name.1 name.2 ≠ none ↔ name = ("orders", "events")) ∧
      (∀ metadata, stores.named "orders" "events" = some metadata →
        stores.record metadata 1 = none ∧
          stores.record metadata 4096 = some (Record.serialise ⟨4096, [98]⟩)) ∧
      stores.Rooted := by
  intro history last stores
  rcases @refines_catalog (BitVec.ofNat 128) history (by decide) (by decide) with
    ⟨refined, basins, streams, records, rooted⟩
  simp only [history, Machine.transcript, Operation.delivers, Bool.not_false,
    List.filter_cons_of_pos, List.filter_nil] at refined
  refine ⟨refined.symm, fun basinName => ?_, fun name => ?_, fun metadata named => ?_, rooted⟩
  · exact (basins basinName).symm.trans List.mem_singleton
  · exact (streams name).symm.trans List.mem_singleton
  · have held := records ("orders", "events") metadata named
    exact ⟨(held 1).trans (by decide), (held 4096).trans (by decide)⟩

end World

end Slatestreams
