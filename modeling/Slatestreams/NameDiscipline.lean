import Slatestreams.RequestProtocol
import Slatestreams.SharedNames

/-! # One task at a time for a name

What a task knows from where it stands, and what it leaves alone for the tasks
that stand elsewhere. -/

namespace Slatestreams

open Foundation

/-! ## What a task knows -/

def BasinStage.Knows (basinName : String) (server : SharedServer) : BasinStage → Prop
  | .locked | .failed => True
  | .uncached => server.basins basinName = none
  | .missing =>
      server.basins basinName = none ∧
        server.stores.metaStorage.get (Basin.constructMetadataKey basinName) = none
  | .drawn basinId =>
      server.basins basinName = none ∧
        server.stores.metaStorage.get (Basin.constructMetadataKey basinName) = none ∧
        basinId ∈ server.stores.drawn ∧
        ∀ other, server.stores.basinId other ≠ some basinId
  | .stored basinId =>
      server.basins basinName = none ∧ server.stores.basinId basinName = some basinId
  | .handled handle =>
      server.basins basinName = none ∧
        server.stores.basinId basinName = some handle.basinId ∧
        handle.address < server.basinHandles ∧
        ∀ other basin, server.basins other = some basin → basin.address ≠ handle.address
  | .cached handle => server.basins basinName = some handle

def StreamStage.Knows (handle : BasinHandle) (name : String × String) (server : SharedServer) :
    StreamStage → Prop
  | .locked | .failed => True
  | .uncached | .named _ | .created _ | .loaded _ =>
      server.streams handle.address name.2 = none
  | .missing | .drawn _ =>
      server.streams handle.address name.2 = none ∧
        server.stores.metaStorage.get (Stream.constructMetadataKey handle.basinId name.2) = none
  | .spawned stream =>
      server.streams handle.address name.2 = none ∧ server.names[stream.tx]? = some name
  | .cached stream => server.streams handle.address name.2 = some stream

namespace Standing

def Facts (name : String × String) (server : SharedServer) : Standing → Prop
  | .free basin stream =>
      (∀ handle, basin = some handle → server.basins name.1 = some handle) ∧
        ∀ handle, stream = some handle → server.Cached name handle
  | .atBasin stage => stage.Knows name.1 server
  | .atStream handle stage =>
      server.basins name.1 = some handle ∧ stage.Knows handle name server
  | .waiting stream _ _ => server.Cached name stream
  | .acknowledged _ _ | .failed => True

/-- A task holds the lock of its standing and no other. -/
def Holds (id : Nat) (server : SharedServer) (standing : Standing) : Prop :=
  ∀ lock, server.locks lock = some id ↔ standing.lock = some lock

end Standing

/-! ## What a task leaves alone -/

/-- A task changes the entries of the caches and the metadata that its lock is for, and
takes nothing away. -/
structure SharedServer.Leaves (id : Nat) (before after : SharedServer) : Prop where
  locks {other : Nat} (lock : Lock) : other ≠ id →
    (after.locks lock = some other ↔ before.locks lock = some other)
  basins_kept : before.locks .basinInit ≠ some id → after.basins = before.basins
  basins_grow {basinName : String} {handle : BasinHandle} :
    before.basins basinName = some handle → after.basins basinName = some handle
  basinKeys : before.locks .basinInit ≠ some id → ∀ basinName,
    after.stores.metaStorage.get (Basin.constructMetadataKey basinName) =
      before.stores.metaStorage.get (Basin.constructMetadataKey basinName)
  streams_kept {address : Nat} : before.locks (.streamInit address) ≠ some id →
    after.streams address = before.streams address
  streams_grow {address : Nat} {streamName : String} {stream : StreamHandle} :
    before.streams address streamName = some stream →
      after.streams address streamName = some stream
  streamKeys {basinName : String} {handle : BasinHandle} :
    before.basins basinName = some handle →
      before.locks (.streamInit handle.address) ≠ some id → ∀ streamName,
        after.stores.metaStorage.get (Stream.constructMetadataKey handle.basinId streamName) =
          before.stores.metaStorage.get (Stream.constructMetadataKey handle.basinId streamName)
  metadata_grows {key value : Bytes} : before.stores.metaStorage.get key = some value →
    after.stores.metaStorage.get key = some value ∧
      after.stores.metadataWrites key = before.stores.metadataWrites key
  drawn {basinId : U128} : basinId ∈ before.stores.drawn → basinId ∈ after.stores.drawn
  names {tx : Nat} {name : String × String} : before.names[tx]? = some name →
    after.names[tx]? = some name
  basinHandles : before.basinHandles ≤ after.basinHandles

namespace SharedServer.Leaves

variable {id other : Nat} {before after : SharedServer} {name : String × String}

/-- Only what a task does with its locks tells it from one that does nothing. -/
theorem of_locks (locks : ∀ {other : Nat} (lock : Lock), other ≠ id →
      (after.locks lock = some other ↔ before.locks lock = some other))
    (stores : after.stores = before.stores) (basins : after.basins = before.basins)
    (streams : after.streams = before.streams) (names : after.names = before.names)
    (basinHandles : after.basinHandles = before.basinHandles) : Leaves id before after where
  locks := locks
  basins_kept _ := basins
  basins_grow found := basins ▸ found
  basinKeys _ _ := stores ▸ rfl
  streams_kept _ := streams ▸ rfl
  streams_grow found := streams ▸ found
  streamKeys _ _ _ := stores ▸ rfl
  metadata_grows found := by
    rw [stores]
    exact ⟨found, rfl⟩
  drawn member := stores ▸ member
  names named := names ▸ named
  basinHandles := Nat.le_of_eq basinHandles.symm

theorem refl (id : Nat) (server : SharedServer) : Leaves id server server :=
  of_locks (fun _ _ => Iff.rfl) rfl rfl rfl rfl rfl

theorem cached (leaves : Leaves id before after) {stream : StreamHandle}
    (cached : before.Cached name stream) : after.Cached name stream := by
  rcases cached with ⟨basin, found, stream⟩
  exact ⟨basin, leaves.basins_grow found, leaves.streams_grow stream⟩

theorem basinId_kept (leaves : Leaves id before after)
    (free : before.locks .basinInit ≠ some id) (basinName : String) :
    after.stores.basinId basinName = before.stores.basinId basinName := by
  rw [Stores.basinId, leaves.basinKeys free, ← Stores.basinId]

/-- What a task knows under `basin_init`, no other task takes from it. -/
theorem basinKnows (leaves : Leaves id before after)
    (free : before.locks .basinInit ≠ some id) {basinName : String} {stage : BasinStage}
    (knows : stage.Knows basinName before) : stage.Knows basinName after := by
  have basins := leaves.basins_kept free
  have basinId := leaves.basinId_kept free
  have keys := leaves.basinKeys free
  cases stage with
  | locked => trivial
  | failed => trivial
  | uncached => exact (congrFun basins _).trans knows
  | missing => exact ⟨(congrFun basins _).trans knows.1, (keys _).trans knows.2⟩
  | drawn drawn =>
      rcases knows with ⟨uncached, missing, member, unused⟩
      exact ⟨(congrFun basins _).trans uncached, (keys _).trans missing, leaves.drawn member,
        fun other found => unused other ((basinId other).symm.trans found)⟩
  | stored stored =>
      exact ⟨(congrFun basins _).trans knows.1, (basinId _).trans knows.2⟩
  | handled handle =>
      rcases knows with ⟨uncached, stored, placed, new⟩
      refine ⟨(congrFun basins _).trans uncached, (basinId _).trans stored,
        Nat.lt_of_lt_of_le placed leaves.basinHandles, fun other basin found => ?_⟩
      exact new other basin ((congrFun basins _).symm.trans found)
  | cached handle => exact leaves.basins_grow knows

theorem streamKnows (leaves : Leaves id before after) {handle : BasinHandle}
    (basin : before.basins name.1 = some handle)
    (free : before.locks (.streamInit handle.address) ≠ some id) {stage : StreamStage}
    (knows : stage.Knows handle name before) : stage.Knows handle name after := by
  have streams := congrFun (leaves.streams_kept free) name.2
  have keys := leaves.streamKeys basin free name.2
  cases stage with
  | locked => trivial
  | failed => trivial
  | uncached => exact streams.trans knows
  | named metadata => exact streams.trans knows
  | created metadata => exact streams.trans knows
  | loaded stream => exact streams.trans knows
  | missing => exact ⟨streams.trans knows.1, keys.trans knows.2⟩
  | drawn streamId => exact ⟨streams.trans knows.1, keys.trans knows.2⟩
  | spawned stream => exact ⟨streams.trans knows.1, leaves.names knows.2⟩
  | cached stream => exact leaves.streams_grow knows

theorem facts (leaves : Leaves id before after) (different : other ≠ id) {standing : Standing}
    (holds : standing.Holds other before) (facts : standing.Facts name before) :
    standing.Facts name after := by
  have apart {lock : Lock} (is : standing.lock = some lock) : before.locks lock ≠ some id :=
    fun same => different (Option.some.inj (((holds lock).mpr is).symm.trans same))
  cases standing with
  | free basin stream =>
      exact ⟨fun handle found => leaves.basins_grow (facts.1 handle found),
        fun handle found => leaves.cached (facts.2 handle found)⟩
  | atBasin stage => exact leaves.basinKnows (apart rfl) facts
  | atStream handle stage =>
      exact ⟨leaves.basins_grow facts.1, leaves.streamKnows facts.1 (apart rfl) facts.2⟩
  | waiting stream kind replyRx => exact leaves.cached facts
  | acknowledged replyRx ack => trivial
  | failed => trivial

theorem holds (leaves : Leaves id before after) (different : other ≠ id) {standing : Standing}
    (holds : standing.Holds other before) : standing.Holds other after :=
  fun lock => (leaves.locks lock different).trans (holds lock)

end SharedServer.Leaves

/-! ## Calls -/

namespace SharedServer.Leaves

variable {id : Nat} {server after : SharedServer}

theorem sameMetadata {stores : Stores} (same : Stores.SameMetadata server.stores stores) :
    Leaves id server { server with stores } where
  locks _ _ := Iff.rfl
  basins_kept _ := rfl
  basins_grow found := found
  basinKeys _ _ := same.metaStorage ▸ rfl
  streams_kept _ := rfl
  streams_grow found := found
  streamKeys _ _ _ := same.metaStorage ▸ rfl
  metadata_grows found := ⟨same.metaStorage.symm ▸ found, same.writes _⟩
  drawn member := same.drawn.symm ▸ member
  names named := named
  basinHandles := Nat.le_refl _

theorem lock {lock : Lock} (unlocked : server.locks lock = none) :
    Leaves id server (server.lock lock id) := by
  refine of_locks (fun {other} held different => ?_) rfl rfl rfl rfl rfl
  change Function.update server.locks lock (some id) held = some other ↔ _
  by_cases same : held = lock
  · subst same
    rw [Function.update_self, unlocked]
    exact ⟨fun equal => absurd (Option.some.inj equal).symm different, nofun⟩
  · rw [Function.update_of_ne same]

theorem unlock {lock : Lock} (locked : server.locks lock = some id) :
    Leaves id server (server.unlock lock) := by
  refine of_locks (fun {other} held different => ?_) rfl rfl rfl rfl rfl
  change Function.update server.locks lock none held = some other ↔ _
  by_cases same : held = lock
  · subst same
    rw [Function.update_self, locked]
    exact ⟨nofun, fun equal => absurd (Option.some.inj equal).symm different⟩
  · rw [Function.update_of_ne same]

theorem writeBasin {basinName : String} {basinId : U128}
    (locked : server.locks .basinInit = some id)
    (missing : server.stores.metaStorage.get (Basin.constructMetadataKey basinName) = none) :
    Leaves id server { server with
      stores := server.stores.write
        [⟨Basin.constructMetadataKey basinName, putU128 basinId⟩] .metaStorage } where
  locks _ _ := Iff.rfl
  basins_kept _ := rfl
  basins_grow found := found
  basinKeys free := absurd locked free
  streams_kept _ := rfl
  streams_grow found := found
  streamKeys _ _ _ := Stores.get_streamKey_createdBasin _ _ _ _ _
  metadata_grows found := Stores.get_grows _ _ _ missing _ found
  drawn member := member
  names named := named
  basinHandles := Nat.le_refl _

theorem writeStream {name : String × String} {handle : BasinHandle} {value : Bytes}
    (owned : server.NamesOwned) (basin : server.basins name.1 = some handle)
    (locked : server.locks (.streamInit handle.address) = some id)
    (missing : server.stores.metaStorage.get
      (Stream.constructMetadataKey handle.basinId name.2) = none) :
    Leaves id server { server with
      stores := server.stores.write
        [⟨Stream.constructMetadataKey handle.basinId name.2, value⟩] .metaStorage } where
  locks _ _ := Iff.rfl
  basins_kept _ := rfl
  basins_grow found := found
  basinKeys _ _ := (Stores.get_metaStorage _ _ _).trans
    (if_neg (Stream.constructMetadataKey_ne_basin _ _ _))
  streams_kept _ := rfl
  streams_grow found := found
  streamKeys {other found} cached free streamName := by
    refine (Stores.get_metaStorage _ _ _).trans (if_neg fun equal => ?_)
    have same := owned.handle_of_basinId basin cached
      (Stream.constructMetadataKey_injective equal).1
    exact free (same ▸ locked)
  metadata_grows found := Stores.get_grows _ _ _ missing _ found
  drawn member := member
  names named := named
  basinHandles := Nat.le_refl _

theorem placeBasin {basinName : String} (locked : server.locks .basinInit = some id)
    (uncached : server.basins basinName = none) (placed : BasinHandle) :
    Leaves id server (server.placeBasin basinName placed) where
  locks _ _ := Iff.rfl
  basins_kept free := absurd locked free
  basins_grow := NamesOwned.basins_placeBasin uncached placed
  basinKeys _ _ := rfl
  streams_kept _ := rfl
  streams_grow found := found
  streamKeys _ _ _ := rfl
  metadata_grows found := ⟨found, rfl⟩
  drawn member := member
  names named := named
  basinHandles := Nat.le_refl _

theorem placeStream {address : Nat} {streamName : String}
    (locked : server.locks (.streamInit address) = some id)
    (uncached : server.streams address streamName = none) (placed : StreamHandle) :
    Leaves id server (server.placeStream address streamName placed) where
  locks _ _ := Iff.rfl
  basins_kept _ := rfl
  basins_grow found := found
  basinKeys _ _ := rfl
  streams_kept {other} free := by
    refine Function.update_of_ne (fun same => ?_) _ _
    exact free (same ▸ locked)
  streams_grow := NamesOwned.streams_placeStream placed uncached
  streamKeys _ _ _ := rfl
  metadata_grows found := ⟨found, rfl⟩
  drawn member := member
  names named := named
  basinHandles := Nat.le_refl _

theorem freeFacts {name : String × String} {basin : Option BasinHandle}
    {stream : Option StreamHandle} (leaves : Leaves id server after)
    (facts : (Standing.free basin stream).Facts name server) :
    (Standing.free basin stream).Facts name after :=
  ⟨fun handle found => leaves.basins_grow (facts.1 handle found),
    fun handle found => leaves.cached (facts.2 handle found)⟩

end SharedServer.Leaves

namespace Standing

/-- What a call leads to, for the server and for the task. -/
structure Reached (id : Nat) (name : String × String) (before after : SharedServer)
    (standing : Standing) : Prop where
  owned : after.NamesOwned
  holds : standing.Holds id after
  facts : standing.Facts name after
  leaves : before.Leaves id after

variable {MayFail : StorageOp → Prop} {id : Nat} {call : ServerCall} {server after : SharedServer}
  {standing next : Standing}

theorem Holds.of_eq (holds : standing.Holds id server) (lock : next.lock = standing.lock)
    (locks : after.locks = server.locks) : next.Holds id after := by
  intro held
  rw [locks, lock]
  exact holds held

theorem Holds.lock (holds : standing.Holds id server) {lock : Lock} (free : standing.lock = none)
    (takes : next.lock = some lock) : next.Holds id (server.lock lock id) := by
  intro held
  change Function.update server.locks lock (some id) held = some id ↔ _
  rw [takes]
  by_cases same : held = lock
  · subst same
    simp
  · rw [Function.update_of_ne same, holds, free]
    exact ⟨nofun, fun equal => absurd (Option.some.inj equal).symm same⟩

theorem Holds.unlock (holds : standing.Holds id server) {lock : Lock}
    (held : standing.lock = some lock) (gives : next.lock = none) :
    next.Holds id (server.unlock lock) := by
  intro other
  change Function.update server.locks lock none other = some id ↔ _
  rw [gives]
  by_cases same : other = lock
  · subst same
    simp
  · rw [Function.update_of_ne same, holds, held]
    exact ⟨fun equal => absurd (Option.some.inj equal).symm same, nofun⟩

/-- A call that changes nothing, where the task learns what it can see. -/
theorem Reached.same (owned : server.NamesOwned) (holds : standing.Holds id server)
    (lock : next.lock = standing.lock) (facts : next.Facts call.name server) :
    Reached id call.name server server next :=
  ⟨owned, holds.of_eq lock rfl, facts, .refl id server⟩

theorem reached_free {basin : Option BasinHandle} {stream : Option StreamHandle} {op : ServerOp}
    {answer : op.Answer} (owned : server.NamesOwned) (holds : (free basin stream).Holds id server)
    (facts : (free basin stream).Facts call.name server) (allowed : FreeCalls call basin stream op)
    (answers : server.Answers MayFail id call.name op answer after) :
    Reached id call.name server after (freeLearn basin stream op answer) := by
  cases op with
  | storage op =>
      rcases answers with ⟨stores, answers, rfl⟩
      have same := allowed.recordsOnly.same answers
      have leaves : server.Leaves id _ := .sameMetadata same
      exact ⟨owned.sameMetadata same, holds, leaves.freeFacts facts, leaves⟩
  | readBasins basinName =>
      rcases answers with ⟨rfl, rfl⟩
      rcases allowed with rfl
      have locks : (server.returned call.name.1 (server.basins call.name.1)).locks =
          server.locks := by
        unfold SharedServer.returned
        split <;> rfl
      have leaves : server.Leaves id
          (server.returned call.name.1 (server.basins call.name.1)) := by
        unfold SharedServer.returned
        split <;> exact .of_locks (fun _ _ => Iff.rfl) rfl rfl rfl rfl rfl
      exact ⟨owned.returned _, holds.of_eq rfl locks,
        ⟨fun handle found => leaves.basins_grow found, nofun⟩, leaves⟩
  | lockBasinInit =>
      cases answer
      rcases answers with ⟨unlocked, rfl⟩
      exact ⟨owned.withLocks _, holds.lock rfl rfl, trivial, .lock unlocked⟩
  | readStreams handle streamName =>
      rcases answers with ⟨rfl, rfl⟩
      rcases allowed with ⟨rfl, rfl⟩
      exact .same owned holds rfl
        ⟨facts.1, fun stream found => ⟨handle, facts.1 handle rfl, found⟩⟩
  | lockStreamInit handle =>
      cases answer
      rcases answers with ⟨unlocked, rfl⟩
      rcases allowed with rfl
      exact ⟨owned.withLocks _, holds.lock rfl rfl, ⟨facts.1 handle rfl, trivial⟩, .lock unlocked⟩
  | send handle command =>
      rcases allowed with ⟨rfl, _⟩
      cases answer with
      | none =>
          rcases answers with ⟨_, rfl⟩
          exact .same owned holds rfl trivial
      | some replyRx =>
          rcases answers with ⟨actor, present, _, _, _, rfl⟩
          have cached := facts.2 handle rfl
          exact ⟨owned.enqueue cached present command, holds, cached,
            .of_locks (fun _ _ => Iff.rfl) rfl rfl rfl rfl rfl⟩
  | spawnFollower follower =>
      rcases answers with rfl
      rcases allowed with rfl
      exact ⟨owned.spawnFollower (facts.2 _ rfl), holds, facts,
        .of_locks (fun _ _ => Iff.rfl) rfl rfl rfl rfl rfl⟩
  | txSend tx item =>
      rcases answers with rfl
      exact .same owned holds rfl facts
  | recv receiver =>
      rcases answers with ⟨actor, _, _, rfl⟩
      exact .same owned holds rfl facts
  | _ => exact allowed.elim

/-- What a load finds under the key of a basin. -/
theorem knows_loaded {basinName : String} {answer : Except StorageError (Option StorageRecord)}
    (uncached : server.basins basinName = none)
    (found : ∀ record, answer = .ok record →
      record = server.stores.metaStorage.read (Basin.constructMetadataKey basinName)) :
    (BasinStage.loaded answer).Knows basinName server := by
  cases answer with
  | error error => trivial
  | ok record =>
      have read := found record rfl
      unfold Contents.read at read
      cases stored : server.stores.metaStorage.get (Basin.constructMetadataKey basinName) with
      | none =>
          rw [stored] at read
          subst read
          exact ⟨uncached, stored⟩
      | some value =>
          rw [stored] at read
          subst read
          cases decoded : Basin.deserialiseBasinId value with
          | error error =>
              simp only [Option.map_some, BasinStage.loaded, decoded]
              trivial
          | ok basinId =>
              simp only [Option.map_some, BasinStage.loaded, decoded]
              refine ⟨uncached, ?_⟩
              simp [Stores.basinId, stored, decoded, Except.toOption]

theorem reached_basinStorage {stage : BasinStage} {op : StorageOp} {answer : op.Answer}
    {stores : Stores} (owned : server.NamesOwned) (holds : (atBasin stage).Holds id server)
    (knows : stage.Knows call.name.1 server) (allowed : stage.Calls call.name.1 op)
    (answers : op.Answers MayFail server.stores answer stores) :
    Reached id call.name server { server with stores } (atBasin (stage.learn op answer)) := by
  cases stage with
  | uncached =>
      rcases allowed with rfl
      have same : stores = server.stores := by cases answer <;> exact answers.2
      subst same
      refine .same owned holds rfl (knows_loaded knows fun record ok => ?_)
      subst ok
      exact answers.1
  | missing =>
      rcases allowed with rfl
      rcases answers with ⟨undrawn, rfl⟩
      refine ⟨owned.draw answer, holds, ⟨knows.1, knows.2, List.mem_append_right _
        List.mem_cons_self, fun other found => undrawn (owned.distinct.drawn found)⟩, ?_⟩
      exact { SharedServer.Leaves.refl id server with
        drawn := fun member => List.mem_append_left _ member }
  | drawn basinId =>
      rcases allowed with rfl
      rcases knows with ⟨uncached, missing, drawn, unused⟩
      have locked := (holds .basinInit).mpr rfl
      cases answer with
      | error error =>
          rcases answers with ⟨_, rfl⟩
          exact .same owned holds rfl trivial
      | ok =>
          rcases answers with rfl
          refine ⟨owned.writeBasin missing drawn unused, holds, ⟨uncached, ?_⟩,
            .writeBasin locked missing⟩
          exact (Stores.basinId_writeBasin _ _ _ _).trans (if_pos rfl)
  | _ => exact allowed.elim

theorem reached_basin {stage : BasinStage} {op : ServerOp} {answer : op.Answer}
    (owned : server.NamesOwned) (holds : (atBasin stage).Holds id server)
    (knows : stage.Knows call.name.1 server) (allowed : BasinCalls call stage op)
    (answers : server.Answers MayFail id call.name op answer after) :
    Reached id call.name server after (basinLearn stage op answer) := by
  have locked := (holds .basinInit).mpr rfl
  cases op with
  | storage op =>
      rcases answers with ⟨stores, answers, rfl⟩
      exact reached_basinStorage owned holds knows allowed answers
  | readBasins basinName =>
      rcases answers with ⟨rfl, rfl⟩
      rcases allowed with ⟨rfl, rfl⟩
      cases found : server.basins call.name.1 with
      | none => exact .same owned holds rfl found
      | some handle =>
          exact ⟨found ▸ owned.returned _, holds, found,
            .of_locks (fun _ _ => Iff.rfl) rfl rfl rfl rfl rfl⟩
  | newBasinHandle basin =>
      rcases answers with ⟨rfl, rfl⟩
      rcases allowed with rfl
      refine ⟨owned.newBasinHandle, holds, ⟨knows.1, knows.2, Nat.lt_succ_self _,
        fun other found cached => Nat.ne_of_lt (owned.basinPlaced cached)⟩, ?_⟩
      exact { SharedServer.Leaves.refl id server with basinHandles := Nat.le_succ _ }
  | insertBasin basinName handle =>
      cases answer
      rcases answers with rfl
      rcases allowed with ⟨rfl, rfl⟩
      rcases knows with ⟨uncached, stored, placed, new⟩
      exact ⟨owned.placeBasin uncached stored placed new, holds, Function.update_self _ _ _,
        .placeBasin locked uncached handle⟩
  | unlockBasinInit =>
      cases answer
      rcases answers with rfl
      cases stage with
      | cached handle =>
          exact ⟨owned.withLocks _, holds.unlock rfl rfl,
            ⟨fun _ found => Option.some.inj found ▸ knows, nofun⟩, .unlock locked⟩
      | _ => exact ⟨owned.withLocks _, holds.unlock rfl rfl, trivial, .unlock locked⟩
  | _ => exact allowed.elim

theorem reached_streamStorage {handle : BasinHandle} {stage : StreamStage} {op : StorageOp}
    {answer : op.Answer} {stores : Stores} (owned : server.NamesOwned)
    (holds : (atStream handle stage).Holds id server)
    (basin : server.basins call.name.1 = some handle)
    (knows : stage.Knows handle call.name server)
    (allowed : stage.Calls handle.basinId call.name.2 op)
    (answers : op.Answers MayFail server.stores answer stores) :
    Reached id call.name server { server with stores }
      (atStream handle (stage.learn handle.basinId op answer)) := by
  cases stage with
  | uncached =>
      rcases allowed with rfl
      have same : stores = server.stores := by cases answer <;> exact answers.2
      subst same
      refine .same owned holds rfl ⟨basin, ?_⟩
      rcases answer with error | _ | record
      · trivial
      · exact ⟨knows, Option.map_eq_none_iff.mp answers.1.symm⟩
      · change (StreamStage.metadataLoaded (.ok (some record))).Knows handle call.name server
        cases decoded : StreamMetadata.deserialise record.value with
        | ok metadata =>
            simp only [StreamStage.metadataLoaded, decoded]
            exact knows
        | error error =>
            simp only [StreamStage.metadataLoaded, decoded]
            trivial
  | missing =>
      rcases allowed with rfl
      rcases answers with ⟨_, rfl⟩
      refine ⟨owned.draw answer, holds, ⟨basin, knows⟩, ?_⟩
      exact { SharedServer.Leaves.refl id server with
        drawn := fun member => List.mem_append_left _ member }
  | drawn streamId =>
      rcases allowed with rfl
      have locked := (holds (.streamInit handle.address)).mpr rfl
      cases answer with
      | error error =>
          rcases answers with ⟨_, rfl⟩
          exact .same owned holds rfl ⟨basin, trivial⟩
      | ok =>
          rcases answers with rfl
          exact ⟨owned.writeStream knows.2, holds, ⟨basin, knows.1⟩,
            .writeStream owned basin locked knows.2⟩
  | named metadata =>
      rcases allowed with rfl
      have same : stores = server.stores := by cases answer <;> exact answers.2
      subst same
      refine .same owned holds rfl ⟨basin, ?_⟩
      change (StreamStage.blockLoaded metadata answer).Knows handle call.name server
      unfold StreamStage.blockLoaded
      split
      · exact knows
      · trivial
  | created metadata =>
      rcases allowed with rfl
      have only : (StorageOp.apply .recordStorage [⟨metadata.blockKey,
          SequenceAllocator.default.allocation.serialise⟩]).RecordsOnly := rfl
      have same := only.same answers
      refine ⟨owned.sameMetadata same, holds, ⟨basin, ?_⟩, .sameMetadata same⟩
      cases answer with
      | error error => trivial
      | ok => exact knows
  | _ => exact allowed.elim

theorem reached_stream {handle : BasinHandle} {stage : StreamStage} {op : ServerOp}
    {answer : op.Answer} (owned : server.NamesOwned)
    (holds : (atStream handle stage).Holds id server)
    (basin : server.basins call.name.1 = some handle)
    (knows : stage.Knows handle call.name server) (allowed : StreamCalls call handle stage op)
    (answers : server.Answers MayFail id call.name op answer after) :
    Reached id call.name server after (streamLearn handle stage op answer) := by
  have locked := (holds (.streamInit handle.address)).mpr rfl
  cases op with
  | storage op =>
      rcases answers with ⟨stores, answers, rfl⟩
      exact reached_streamStorage owned holds basin knows allowed answers
  | readStreams other streamName =>
      rcases answers with ⟨rfl, rfl⟩
      rcases allowed with ⟨rfl, rfl, rfl⟩
      cases found : after.streams other.address call.name.2 with
      | none => exact .same owned holds rfl ⟨basin, found⟩
      | some stream => exact .same owned holds rfl ⟨basin, found⟩
  | spawn stream =>
      rcases answers with ⟨rfl, rfl⟩
      rcases allowed with rfl
      refine ⟨owned.spawn call.name stream, holds, ⟨basin, knows, ?_⟩, ?_⟩
      · change (server.names ++ [call.name])[server.actors.length]? = some call.name
        rw [← owned.named, List.getElem?_append_right (Nat.le_refl _), Nat.sub_self]
        rfl
      · exact { SharedServer.Leaves.refl id server with
          names := SharedServer.NamesOwned.names_spawn call.name stream }
  | insertStream other streamName stream =>
      cases answer
      rcases answers with rfl
      rcases allowed with ⟨rfl, rfl, rfl⟩
      refine ⟨owned.placeStream basin knows.1 knows.2, holds, ⟨basin, ?_⟩,
        .placeStream locked knows.1 stream⟩
      change (server.placeStream other.address call.name.2 stream).streams _ _ = some stream
      simp only [SharedServer.placeStream, Function.update_self]
  | unlockStreamInit other =>
      cases answer
      rcases answers with rfl
      rcases allowed with ⟨rfl, _⟩
      cases stage with
      | cached stream =>
          refine ⟨owned.withLocks _, holds.unlock rfl rfl,
            ⟨fun _ found => Option.some.inj found ▸ basin, fun _ found => ?_⟩, .unlock locked⟩
          exact ⟨other, basin, Option.some.inj found ▸ knows⟩
      | _ => exact ⟨owned.withLocks _, holds.unlock rfl rfl, trivial, .unlock locked⟩
  | _ => exact allowed.elim

/-- A task learns what its calls tell, and leaves the rest alone. -/
theorem reached {op : ServerOp} {answer : op.Answer} (owned : server.NamesOwned)
    (holds : standing.Holds id server) (facts : standing.Facts call.name server)
    (allowed : standing.Calls call op)
    (answers : server.Answers MayFail id call.name op answer after) :
    Reached id call.name server after (standing.learn op answer) := by
  cases standing with
  | free basin stream => exact reached_free owned holds facts allowed answers
  | atBasin stage => exact reached_basin owned holds facts allowed answers
  | atStream handle stage => exact reached_stream owned holds facts.1 facts.2 allowed answers
  | waiting stream kind replyRx =>
      rcases allowed with rfl
      cases answer with
      | none =>
          rcases answers with ⟨_, _, rfl⟩
          cases kind <;> exact .same owned holds rfl trivial
      | some value =>
          rcases answers with ⟨_, rfl⟩
          have reading : (free none (some stream)).Facts call.name after :=
            ⟨nofun, fun _ found => Option.some.inj found ▸ facts⟩
          cases kind with
          | append => cases value <;> exact .same owned holds rfl trivial
          | read =>
              cases value with
              | error error => exact .same owned holds rfl trivial
              | ok record => exact .same owned holds rfl reading
          | subscribe => exact .same owned holds rfl reading
  | acknowledged replyRx ack => exact allowed.elim
  | failed =>
      rcases allowed with ⟨tx, item, rfl⟩
      rcases answers with rfl
      exact .same owned holds rfl trivial

end Standing

end Slatestreams
