import Slatestreams.ControllerCalls
import Slatestreams.ReadFollow
import Slatestreams.Service

/-! # The server is the service

The caches of the server hold what the stores say, and a cached actor is where
the appends since the last restart have left it, or where a load would start
it. So every request has the result and the effect that it has on the service
without caches. -/

namespace Slatestreams

open Foundation

/-! ## Coherent caches -/

/-- The handle cached for a stream. -/
def Server.cached (self : Server) (name : String × String) : Option StreamHandle :=
  (self.basins name.1).bind fun handle => self.streams handle.address name.2

/-- The actor waits for a command, or has panicked. -/
structure StreamActor.Runs (actor : StreamActor) (tx : Nat) (metadata : StreamMetadata)
    (process : Process) : Prop where
  broadcaster : actor.broadcaster = tx
  sent : actor.sent = process.sent
  code : match process.allocator with
    | some allocator => actor.code = .done ⟨allocator, metadata⟩
    | none => ∃ message, actor.code = .panic message

namespace Server

structure Represents (server : Server) (service : Service) : Prop where
  stores : server.stores = service.stores
  basins {basinName : String} {handle : BasinHandle} :
    server.basins basinName = some handle →
      service.stores.basinId basinName = some handle.basinId ∧
        handle.address < server.basinHandles
  addresses {left right : String} {leftHandle rightHandle : BasinHandle} :
    server.basins left = some leftHandle → server.basins right = some rightHandle →
      leftHandle.address = rightHandle.address → left = right
  unplaced {address : Nat} :
    server.basinHandles ≤ address → server.streams address = fun _ => none
  cached {name : String × String} {handle : StreamHandle} :
    server.cached name = some handle →
      ∃ metadata process actor, service.stores.named name.1 name.2 = some metadata ∧
        service.process name metadata = some process ∧
        server.actors[handle.tx]? = some actor ∧ actor.Runs handle.tx metadata process
  actors {left right : String × String} {handle : StreamHandle} :
    server.cached left = some handle → server.cached right = some handle → left = right
  uncached {name : String × String} : server.cached name = none → service.processes name = none

/-- What later requests keep of a server: its cached handles and its replies. -/
structure Extends (before after : Server) : Prop where
  cached {name : String × String} {handle : StreamHandle} :
    before.cached name = some handle → after.cached name = some handle
  replies {replyRx : ReplyId} {reply : Option (Sigma ReplyKind.Value)} :
    before.replies[replyRx]? = some reply → after.replies[replyRx]? = some reply

theorem Extends.refl (server : Server) : server.Extends server := ⟨id, id⟩

theorem Extends.trans {first middle last : Server} (earlier : first.Extends middle)
    (later : middle.Extends last) : first.Extends last :=
  ⟨fun found => later.cached (earlier.cached found),
    fun found => later.replies (earlier.replies found)⟩

theorem represents_start (stores : Stores) : (start stores).Represents (.start stores) where
  stores := rfl
  basins found := nomatch found
  addresses found := nomatch found
  unplaced _ := rfl
  cached found := nomatch found
  actors found := nomatch found
  uncached _ := rfl

theorem exec_storageCalls {α : Type} (ids : Nat → U128) (program : Program storage α)
    (server : Server) :
    (storageCalls program).exec (ServerOp.handle ids) server =
      ((program.exec (StorageOp.handle ids) server.stores).1,
        { server with stores := (program.exec (StorageOp.handle ids) server.stores).2 }) := by
  induction program generalizing server with
  | done value => rfl
  | panic message => rfl
  | call op next induction => exact induction _ _

end Server

/-! ## Changes of one stream -/

/-- Nothing of the other streams has changed. -/
structure Service.SameExcept (before after : Service) (name : String × String) : Prop where
  basin {basinName : String} {basinId : U128} :
    before.stores.basinId basinName = some basinId → after.stores.basinId basinName = some basinId
  named {other : String × String} {metadata : StreamMetadata} : other ≠ name →
    before.stores.named other.1 other.2 = some metadata →
      after.stores.named other.1 other.2 = some metadata
  process {other : String × String} {metadata : StreamMetadata} : other ≠ name →
    before.stores.named other.1 other.2 = some metadata →
      after.process other metadata = before.process other metadata
  processes {other : String × String} : other ≠ name →
    after.processes other = before.processes other

namespace Service.SameExcept

variable {service : Service} {name : String × String}

theorem refl (service : Service) (name : String × String) : service.SameExcept service name :=
  ⟨id, fun _ => id, fun _ _ => rfl, fun _ => rfl⟩

theorem created (sound : service.stores.Sound) {metadata : StreamMetadata}
    (known : service.stores.basinId name.1 = some metadata.basinId)
    (undrawn : metadata.streamId ∉ service.stores.drawn) (process : Process) :
    service.SameExcept { service with
      stores := service.stores.created name.2 metadata
      processes := Function.update service.processes name (some process) } name where
  basin found := by rwa [Stores.basinId_created]
  named {other found} different named := by
    rcases Option.bind_eq_some_iff.mp named with ⟨basinId, basin, stream⟩
    have apart : ¬(metadata.basinId = basinId ∧ name.2 = other.2) := fun same =>
      different (Prod.ext (sound.basin_injective basin (same.1 ▸ known)) same.2.symm)
    simp only [Stores.named, Stores.basinId_created, basin, Option.bind_some,
      Stores.streamMetadata_created, if_neg apart, stream]
  process {other found} different named := by
    rcases Option.bind_eq_some_iff.mp named with ⟨basinId, _, stream⟩
    have apart : metadata ≠ found := fun same =>
      undrawn (same ▸ (sound.stream_drawn stream).2.2)
    simp only [Service.process, Function.update_of_ne different, Stores.block_created,
      if_neg apart]
  processes different := Function.update_of_ne different _ _

theorem stored (sound : service.stores.Sound) {metadata : StreamMetadata}
    (known : service.stores.named name.1 name.2 = some metadata)
    (written : Option (Option SeqBlock × Record)) (process : Process) :
    service.SameExcept { service with
      stores := service.stores.store metadata written
      processes := Function.update service.processes name (some process) } name where
  basin found := by cases written <;> exact found
  named _ found := by cases written <;> exact found
  process {other found} different named := by
    have apart : metadata ≠ found := fun same =>
      different (sound.named_injective (same ▸ named) known)
    cases written with
    | none => simp only [Service.process, Function.update_of_ne different, Stores.store]
    | some batch =>
        simp only [Service.process, Function.update_of_ne different, Stores.store,
          Stores.block_appended, if_neg apart]
  processes different := Function.update_of_ne different _ _

end Service.SameExcept

namespace Server.Represents

variable {server next : Server} {service after : Service}

/-- A basin that did not exist cannot have been cached. -/
theorem createdBasin (represents : server.Represents service) {basinName : String}
    (missing : service.stores.basinId basinName = none) (id : U128) :
    Represents { server with stores := service.stores.createdBasin basinName id }
      { service with stores := service.stores.createdBasin basinName id } where
  stores := rfl
  basins {other handle} found := by
    rcases represents.basins found with ⟨known, placed⟩
    refine ⟨?_, placed⟩
    rw [Stores.basinId_createdBasin, if_neg fun same => by simp [← same, missing] at known]
    exact known
  addresses := represents.addresses
  unplaced := represents.unplaced
  cached {name handle} found := by
    rcases represents.cached found with ⟨metadata, process, actor, named, current, running, runs⟩
    refine ⟨metadata, process, actor, ?_, current, running, runs⟩
    rcases Option.bind_eq_some_iff.mp named with ⟨basinId, known, rest⟩
    have different : basinName ≠ name.1 := fun same => by simp [← same, missing] at known
    simp only [Stores.named, Stores.basinId_createdBasin, if_neg different,
      Stores.streamMetadata_createdBasin]
    exact named
  actors := represents.actors
  uncached := represents.uncached

/-- A basin's new handle leads to no stream yet. -/
theorem cached_placed (represents : server.Represents service) {basinName : String}
    (uncached : server.basins basinName = none) (basinId : U128) (name : String × String) :
    Server.cached { server with
      basins := Function.update server.basins basinName (some ⟨server.basinHandles, basinId⟩)
      basinHandles := server.basinHandles + 1 } name = server.cached name := by
  by_cases same : name.1 = basinName
  · simp [Server.cached, same, uncached, represents.unplaced (Nat.le_refl _)]
  · simp [Server.cached, same]

theorem placedBasin (represents : server.Represents service) {basinName : String}
    (uncached : server.basins basinName = none) {basinId : U128}
    (known : service.stores.basinId basinName = some basinId) :
    Represents { server with
      basins := Function.update server.basins basinName (some ⟨server.basinHandles, basinId⟩)
      basinHandles := server.basinHandles + 1 } service where
  stores := represents.stores
  basins {other handle} found := by
    by_cases same : other = basinName
    · subst same
      simp only [Function.update_self, Option.some.injEq] at found
      subst found
      exact ⟨known, Nat.lt_succ_self _⟩
    · simp only [Function.update_of_ne same] at found
      have := represents.basins found
      exact ⟨this.1, Nat.lt_succ_of_lt this.2⟩
  addresses {left right leftHandle rightHandle} foundLeft foundRight equal := by
    by_cases sameLeft : left = basinName <;> by_cases sameRight : right = basinName
    · exact sameLeft.trans sameRight.symm
    · simp only [sameLeft, Function.update_self, Option.some.injEq] at foundLeft
      simp only [Function.update_of_ne sameRight] at foundRight
      have := (represents.basins foundRight).2
      subst foundLeft
      simp only at equal
      omega
    · simp only [sameRight, Function.update_self, Option.some.injEq] at foundRight
      simp only [Function.update_of_ne sameLeft] at foundLeft
      have := (represents.basins foundLeft).2
      subst foundRight
      simp only at equal
      omega
    · simp only [Function.update_of_ne sameLeft] at foundLeft
      simp only [Function.update_of_ne sameRight] at foundRight
      exact represents.addresses foundLeft foundRight equal
  unplaced outside := represents.unplaced (Nat.le_of_succ_le outside)
  cached found := by
    rw [represents.cached_placed uncached] at found
    exact represents.cached found
  actors foundLeft foundRight := by
    rw [represents.cached_placed uncached] at foundLeft foundRight
    exact represents.actors foundLeft foundRight
  uncached absent := by
    rw [represents.cached_placed uncached] at absent
    exact represents.uncached absent

/-- One stream has changed, and its handle leads to an actor that runs it. -/
theorem changed (represents : server.Represents service) {name : String × String}
    (same : service.SameExcept after name) {handle : StreamHandle}
    (stores : next.stores = after.stores) (basins : next.basins = server.basins)
    (basinHandles : next.basinHandles = server.basinHandles)
    (unplaced : ∀ {address}, server.basinHandles ≤ address →
      next.streams address = fun _ => none)
    (cached : ∀ other, next.cached other =
      if other = name then some handle else server.cached other)
    (others : ∀ other otherHandle, other ≠ name → server.cached other = some otherHandle →
      otherHandle ≠ handle ∧ next.actors[otherHandle.tx]? = server.actors[otherHandle.tx]?)
    (running : ∃ metadata process actor, after.stores.named name.1 name.2 = some metadata ∧
      after.process name metadata = some process ∧ next.actors[handle.tx]? = some actor ∧
      actor.Runs handle.tx metadata process) :
    next.Represents after where
  stores := stores
  basins found := by
    rw [basins] at found
    rw [basinHandles]
    exact ⟨same.basin (represents.basins found).1, (represents.basins found).2⟩
  addresses foundLeft foundRight := by
    rw [basins] at foundLeft foundRight
    exact represents.addresses foundLeft foundRight
  unplaced outside := unplaced (basinHandles ▸ outside)
  cached {other otherHandle} found := by
    rw [cached] at found
    split at found
    · rename_i equal
      cases found
      exact equal ▸ running
    · rename_i different
      rcases represents.cached found with ⟨metadata, process, actor, named, current, present, runs⟩
      refine ⟨metadata, process, actor, same.named different named, ?_, ?_, runs⟩
      · rw [same.process different named, current]
      · rw [(others other otherHandle different found).2, present]
  actors {left right found} foundLeft foundRight := by
    rw [cached] at foundLeft foundRight
    split at foundLeft <;> split at foundRight
    · rename_i leftSame rightSame
      exact leftSame.trans rightSame.symm
    · rename_i different
      cases foundLeft
      exact absurd rfl (others _ _ different foundRight).1
    · rename_i different _
      cases foundRight
      exact absurd rfl (others _ _ different foundLeft).1
    · exact represents.actors foundLeft foundRight
  uncached {other} absent := by
    rw [cached] at absent
    split at absent
    · cases absent
    · rename_i different
      rw [same.processes different]
      exact represents.uncached absent

end Server.Represents

/-! ## Resolving names -/

namespace Server.Represents

variable (ids : Nat → U128) {server : Server} {service : Service}

/-- What finding a basin comes to. -/
structure FoundBasin (server : Server) (service : Service) (basinName : String) (basinId : U128)
    (result : Option (Except ControllerError BasinHandle) × Server) : Prop where
  found : ∃ handle, result.1 = some (.ok handle) ∧ handle.basinId = basinId ∧
    result.2.basins basinName = some handle
  represents : result.2.Represents service
  kept : server.Extends result.2

theorem exec_placeBasin (represents : server.Represents service) {basinName : String}
    (uncached : server.basins basinName = none) {basinId : U128}
    (known : service.stores.basinId basinName = some basinId) :
    FoundBasin server service basinName basinId
      (((StreamController.placeBasin basinName ⟨basinId, basinName⟩).bind
        StreamController.releaseBasin).exec (ServerOp.handle ids) server) where
  found := ⟨_, rfl, rfl, Function.update_self _ _ _⟩
  represents := represents.placedBasin uncached known
  kept := ⟨fun found => (represents.cached_placed uncached _ _).trans found, id⟩

theorem exec_getBasin_known (represents : server.Represents service) (sound : service.stores.Sound)
    {basinName : String} {basinId : U128}
    (known : service.stores.basinId basinName = some basinId) (missing : Request Basin) :
    FoundBasin server service basinName basinId
      ((StreamController.getBasin basinName missing).run.exec (ServerOp.handle ids) server) := by
  rw [StreamController.getBasin_eq]
  simp only [Program.exec, ServerOp.handle]
  cases cached : server.basins basinName with
  | some handle =>
      have := (represents.basins cached).1.symm.trans known
      exact ⟨⟨handle, rfl, Option.some.inj this, cached⟩, represents, .refl _⟩
  | none =>
      simp only [Program.exec, ServerOp.handle, cached]
      rw [StreamController.openBasin, Program.bind_assoc, Program.exec_bind,
        exec_storageCalls, represents.stores, Basin.exec_load ids sound, known]
      simp only [← represents.stores]
      exact represents.exec_placeBasin ids cached known

theorem exec_getExistingBasin_missing (represents : server.Represents service)
    (sound : service.stores.Sound) {basinName : String}
    (unknown : service.stores.basinId basinName = none) :
    (StreamController.getExistingBasin basinName).run.exec (ServerOp.handle ids) server =
      (some (.error (.notFound ("basin " ++ basinName))), server) := by
  have uncached : server.basins basinName = none := by
    cases cached : server.basins basinName with
    | none => rfl
    | some handle => simp [(represents.basins cached).1] at unknown
  rw [StreamController.getExistingBasin, StreamController.getBasin_eq]
  simp only [Program.exec, ServerOp.handle, uncached]
  rw [StreamController.openBasin, Program.bind_assoc, Program.exec_bind,
    exec_storageCalls, represents.stores, Basin.exec_load ids sound, unknown]
  simp only [← represents.stores]
  rfl

theorem exec_getOrCreateBasin (represents : server.Represents service)
    (sound : service.stores.Sound) (basinName : String) :
    FoundBasin server (service.createBasin ids basinName).2 basinName
      (service.createBasin ids basinName).1
      ((StreamController.getOrCreateBasin basinName).run.exec (ServerOp.handle ids) server) := by
  cases known : service.stores.basinId basinName with
  | some basinId =>
      simp only [Service.createBasin, known]
      exact represents.exec_getBasin_known ids sound known _
  | none =>
      have uncached : server.basins basinName = none := by
        cases cached : server.basins basinName with
        | none => rfl
        | some handle => simp [(represents.basins cached).1] at known
      rw [StreamController.getOrCreateBasin, StreamController.getBasin_eq]
      simp only [Service.createBasin, known, Program.exec, ServerOp.handle, uncached]
      rw [StreamController.openBasin, Program.bind_assoc, Program.exec_bind,
        exec_storageCalls, represents.stores, Basin.exec_load ids sound, known]
      simp only [Option.map_none, StreamController.loadedBasin, onServer, run_orThrow,
        Program.bind_assoc]
      rw [Program.exec_bind, exec_storageCalls, Basin.exec_new]
      have created := represents.createdBasin known (ids service.stores.drawn.length)
      have placed := created.exec_placeBasin ids uncached
        (by rw [Stores.basinId_createdBasin, if_pos rfl])
      exact ⟨placed.found, placed.represents, ⟨fun found => placed.kept.cached found, placed.kept.replies⟩⟩

/-- What finding a stream comes to. -/
structure FoundStream (server : Server) (service : Service) (name : String × String)
    (result : Option (Except ControllerError StreamHandle) × Server) : Prop where
  found : ∃ handle, result.1 = some (.ok handle) ∧ result.2.cached name = some handle
  represents : result.2.Represents service
  kept : server.Extends result.2

theorem exec_placeStream (represents : server.Represents service) {name : String × String}
    {handle : BasinHandle} (placed : server.basins name.1 = some handle)
    (uncached : server.cached name = none) {after : Service}
    (same : service.SameExcept after name) {metadata : StreamMetadata}
    {allocator : SequenceAllocator}
    (named : after.stores.named name.1 name.2 = some metadata)
    (current : after.process name metadata = some (.spawned allocator)) :
    FoundStream server after name
      (((handle.placeStream name.2 ⟨allocator, metadata⟩).bind handle.releaseStream).exec
        (ServerOp.handle ids) { server with stores := after.stores }) := by
  have cached (other : String × String) :
      (((handle.placeStream name.2 ⟨allocator, metadata⟩).bind handle.releaseStream).exec
        (ServerOp.handle ids) { server with stores := after.stores }).2.cached other =
      if other = name then some ⟨server.actors.length⟩ else server.cached other := by
    change (server.basins other.1).bind (fun found => Function.update server.streams handle.address
      (Function.update (server.streams handle.address) name.2 (some ⟨server.actors.length⟩))
        found.address other.2) = _
    by_cases same : other = name
    · simp [same, placed]
    · rw [if_neg same, Server.cached]
      cases found : server.basins other.1 with
      | none => rfl
      | some otherHandle =>
          simp only [Option.bind_some]
          by_cases address : otherHandle.address = handle.address
          · have basin : other.1 = name.1 := represents.addresses found placed address
            have stream : other.2 ≠ name.2 := fun equal => same (Prod.ext basin equal)
            rw [address, Function.update_self, Function.update_of_ne stream]
          · rw [Function.update_of_ne address]
  have others (other : String × String) (otherHandle : StreamHandle)
      (found : server.cached other = some otherHandle) :
      otherHandle.tx < server.actors.length := by
    rcases represents.cached found with ⟨_, _, actor, _, _, present, _⟩
    exact (List.getElem?_eq_some_iff.mp present).1
  refine ⟨⟨_, rfl, (cached name).trans (if_pos rfl)⟩, ?_, ?_, id⟩
  · refine represents.changed same rfl rfl rfl (fun {address} outside => ?_) cached ?_ ?_
    · have := (represents.basins placed).2
      change Function.update server.streams handle.address _ address = _
      rw [Function.update_of_ne (by omega)]
      exact represents.unplaced outside
    · intro other otherHandle _ found
      have inside := others other otherHandle found
      exact ⟨fun equal => by simp [equal] at inside, List.getElem?_append_left inside⟩
    · exact ⟨metadata, _, _, named, current, List.getElem?_concat_length, rfl, rfl, rfl⟩
  · intro other otherHandle found
    rw [cached]
    split
    · rename_i equal
      simp [equal, uncached] at found
    · exact found

/-- The stores as they are, with the server that holds them. -/
theorem with_stores (represents : server.Represents service) :
    { server with stores := service.stores } = server := by
  rw [← represents.stores]

theorem exec_getStream_known (represents : server.Represents service)
    (sound : service.stores.Sound) {name : String × String} {handle : BasinHandle}
    (placed : server.basins name.1 = some handle) {metadata : StreamMetadata}
    (known : service.stores.streamMetadata handle.basinId name.2 = some metadata) (create : Bool) :
    match service.process name metadata with
    | none =>
        (handle.getStream name.2 create).run.exec (ServerOp.handle ids) server = (none, server)
    | some _ =>
        FoundStream server service name
          ((handle.getStream name.2 create).run.exec (ServerOp.handle ids) server) := by
  have named : service.stores.named name.1 name.2 = some metadata := by
    simp [Stores.named, (represents.basins placed).1, known]
  have lookup : server.streams handle.address name.2 = server.cached name := by
    simp [Server.cached, placed]
  rw [BasinHandle.getStream_eq]
  simp only [Program.exec, ServerOp.handle, lookup]
  cases cached : server.cached name with
  | some stream =>
      rcases represents.cached cached with ⟨other, process, actor, found, current, _, _⟩
      obtain rfl : metadata = other := Option.some.inj (named.symm.trans found)
      rw [current]
      exact ⟨⟨stream, rfl, cached⟩, represents, .refl _⟩
  | none =>
      have process : service.process name metadata =
          (SequenceAllocator.resume (service.stores.block metadata)).map Process.spawned := by
        rw [Service.process, represents.uncached cached, Option.none_or]
      simp only [Program.exec, ServerOp.handle, lookup, cached]
      rw [BasinHandle.openStream, Program.bind_assoc, Program.exec_bind, exec_storageCalls,
        represents.stores, Stream.exec_load ids sound, known]
      cases resumed : SequenceAllocator.resume (service.stores.block metadata) with
      | none =>
          simp only [process, resumed, Option.map_none, represents.with_stores]
      | some allocator =>
          rw [resumed] at process
          simp only [process, resumed, Option.map_some]
          exact represents.exec_placeStream ids placed cached (.refl _ _) named process

theorem uncached_of_missing (represents : server.Represents service) {name : String × String}
    {handle : BasinHandle} (placed : server.basins name.1 = some handle)
    (unknown : service.stores.streamMetadata handle.basinId name.2 = none) :
    server.cached name = none := by
  cases cached : server.cached name with
  | none => rfl
  | some stream =>
      rcases represents.cached cached with ⟨_, _, _, found, _⟩
      simp [Stores.named, (represents.basins placed).1, unknown] at found

theorem exec_getStream_missing (represents : server.Represents service)
    (sound : service.stores.Sound) {name : String × String} {handle : BasinHandle}
    (placed : server.basins name.1 = some handle)
    (unknown : service.stores.streamMetadata handle.basinId name.2 = none) :
    (handle.getStream name.2 false).run.exec (ServerOp.handle ids) server =
      (some (.error (.stream (.streamDoesNotExist name.2))), server) := by
  have uncached := represents.uncached_of_missing placed unknown
  have lookup : server.streams handle.address name.2 = none := by
    simpa [Server.cached, placed] using uncached
  rw [BasinHandle.getStream_eq]
  simp only [Program.exec, ServerOp.handle, lookup]
  rw [BasinHandle.openStream, Program.bind_assoc, Program.exec_bind, exec_storageCalls,
    represents.stores, Stream.exec_load ids sound, unknown]
  exact Prod.ext rfl represents.with_stores

theorem exec_getStream_create (represents : server.Represents service)
    (sound : service.stores.Sound) {name : String × String} {handle : BasinHandle}
    (placed : server.basins name.1 = some handle)
    (unknown : service.stores.streamMetadata handle.basinId name.2 = none)
    (undrawn : ids service.stores.drawn.length ∉ service.stores.drawn) :
    FoundStream server (service.createStream ids name handle.basinId).2 name
      ((handle.getStream name.2 true).run.exec (ServerOp.handle ids) server) := by
  have uncached := represents.uncached_of_missing placed unknown
  have lookup : server.streams handle.address name.2 = none := by
    simpa [Server.cached, placed] using uncached
  have basin := (represents.basins placed).1
  rw [BasinHandle.getStream_eq]
  simp only [Program.exec, ServerOp.handle, lookup, Service.createStream, unknown]
  rw [BasinHandle.openStream, Program.bind_assoc, Program.exec_bind, exec_storageCalls,
    represents.stores, Stream.exec_load ids sound, unknown]
  simp only [BasinHandle.loadedStream, if_true, Program.bind_assoc]
  rw [Program.exec_bind, exec_storageCalls, Stream.exec_new]
  exact represents.exec_placeStream ids placed uncached (.created sound basin undrawn _)
    (by simp [Stores.named, basin]) (by simp [Service.process])

/-! ## Talking to the actor -/

/-- What a request to a cached actor leaves. -/
theorem commanded (represents : server.Represents service) {name : String × String}
    {stream : StreamHandle} (cached : server.cached name = some stream) {after : Service}
    (same : service.SameExcept after name) {metadata : StreamMetadata} {process : Process}
    (named : after.stores.named name.1 name.2 = some metadata)
    (current : after.process name metadata = some process) {actor : StreamActor}
    (runs : actor.Runs stream.tx metadata process) {stores : Stores}
    (stored : stores = after.stores) (replies : List (Option (Sigma ReplyKind.Value)))
    (followers : List Follower) :
    Represents { server with
      stores
      actors := server.actors.set stream.tx actor
      replies
      followers } after := by
  rcases represents.cached cached with ⟨_, _, _, _, _, present, _⟩
  have inside := (List.getElem?_eq_some_iff.mp present).1
  have still (other : String × String) :
      server.cached other = if other = name then some stream else server.cached other := by
    split
    · rename_i equal
      exact equal ▸ cached
    · rfl
  refine represents.changed same stored rfl rfl represents.unplaced still ?_ ?_
  · intro other otherHandle different found
    have apart : otherHandle ≠ stream := fun equal =>
      different (represents.actors (equal ▸ found) cached)
    refine ⟨apart, List.getElem?_set_ne fun equal => apart ?_⟩
    cases stream
    cases otherHandle
    exact congrArg _ equal.symm
  · exact ⟨metadata, process, actor, named, current, List.getElem?_set_self inside, runs⟩

end Server.Represents

namespace Server

variable (ids : Nat → U128) {server : Server}

theorem send_eq {handle : StreamHandle} {command : ReplyId → StreamCommand} {actor : StreamActor}
    {stream : Stream} (present : server.actors[handle.tx]? = some actor)
    (waits : actor.code = .done stream) {result : Option Stream} {handling : Handling}
    (handled : (StreamActor.handle stream (command server.replies.length)).exec
      (ActorOp.handle ids actor.broadcaster) ⟨server.stores, actor.sent, none⟩ =
        (result, handling)) :
    server.send ids handle command = (some server.replies.length, { server with
      stores := handling.stores
      actors := server.actors.set handle.tx { actor with
        code := .ofOption "sequence allocation" result
        sent := handling.sent
        taken := actor.taken ++ [command server.replies.length] }
      replies := server.replies ++ [handling.reply] }) := by
  simp only [send, present, waits, handled]

theorem send_panicked {handle : StreamHandle} {command : ReplyId → StreamCommand}
    {actor : StreamActor} {message : String} (present : server.actors[handle.tx]? = some actor)
    (panicked : actor.code = .panic message) :
    server.send ids handle command = (none, server) := by
  simp only [send, present, panicked]

end Server

theorem StreamActor.exec_append (ids : Nat → U128) (broadcaster : Nat) {stream : Stream}
    {block : Option SeqBlock} {after : SequenceAllocator} (draws : stream.Draws block after)
    (data : Bytes) (replyTx : ReplyId) (handling : Handling) :
    (StreamActor.handle stream (.append data replyTx)).exec (ActorOp.handle ids broadcaster)
        handling =
      (some (stream.moved after),
        ⟨handling.stores.appended stream.metadata block ⟨stream.nextSeqNum, data⟩,
          handling.sent ++ [⟨stream.nextSeqNum, data⟩],
          some ⟨.append, .ok ⟨⟨stream.nextSeqNum, data⟩, after.nextSequenceNumber⟩⟩⟩) := by
  rw [ActorPhase.handle_append draws]
  rfl

theorem StreamActor.exec_append_panic (ids : Nat → U128) (broadcaster : Nat) (stream : Stream)
    (overflow : stream.sequenceNumberAllocator.allocate 1 = none)
    (data : Bytes) (replyTx : ReplyId) (handling : Handling) :
    (StreamActor.handle stream (.append data replyTx)).exec (ActorOp.handle ids broadcaster)
        handling = (none, handling) := by
  simp [StreamActor.handle, Stream.append, overflow, Program.ofOption, onStorage, Program.exec]

namespace StreamActor.Runs

variable {actor : StreamActor} {tx : Nat} {metadata : StreamMetadata} {process : Process}

theorem panicked (runs : actor.Runs tx metadata process) (message : String)
    (taken : List StreamCommand) :
    StreamActor.Runs { actor with code := .panic message, taken } tx metadata
      { process with allocator := none } :=
  ⟨runs.broadcaster, runs.sent, message, rfl⟩

theorem appended (runs : actor.Runs tx metadata process) (after : SequenceAllocator)
    (record : Record) (taken : List StreamCommand) :
    StreamActor.Runs
      { actor with code := .done ⟨after, metadata⟩, sent := actor.sent ++ [record], taken } tx
      metadata ⟨some after, process.sent ++ [record]⟩ :=
  ⟨runs.broadcaster, congrArg (· ++ [record]) runs.sent, rfl⟩

theorem asked (runs : actor.Runs tx metadata process) (taken : List StreamCommand) :
    StreamActor.Runs { actor with taken } tx metadata process :=
  ⟨runs.broadcaster, runs.sent, runs.code⟩

end StreamActor.Runs

theorem Server.Extends.replied (server : Server) (stores : Stores) (actors : List StreamActor)
    (reply : Option (Sigma ReplyKind.Value)) :
    server.Extends { server with stores, actors, replies := server.replies ++ [reply] } := by
  refine ⟨id, fun {replyRx other} found => ?_⟩
  rw [List.getElem?_append_left (List.getElem?_eq_some_iff.mp found).1, found]

namespace Server.Represents

variable (ids : Nat → U128) {server : Server} {service : Service}

/-- A panicked actor is never a loaded one. -/
theorem processes_of_panicked {name : String × String} {metadata : StreamMetadata}
    {process : Process} (current : service.process name metadata = some process)
    (panicked : process.allocator = none) : service.processes name = some process := by
  rw [Service.process] at current
  cases stored : service.processes name with
  | some other => simpa [stored] using current
  | none =>
      simp only [stored, Option.none_or, Option.map_eq_some_iff] at current
      rcases current with ⟨allocator, _, rfl⟩
      cases panicked

theorem exec_appendTo (represents : server.Represents service) (sound : service.stores.Sound)
    {name : String × String} {stream : StreamHandle} (cached : server.cached name = some stream)
    {metadata : StreamMetadata} (named : service.stores.named name.1 name.2 = some metadata)
    (data : Bytes) :
    let result := (StreamController.appendTo stream data).exec (ServerOp.handle ids) server
    result.1 = (service.appendTo name metadata data).1 ∧
      result.2.Represents (service.appendTo name metadata data).2 ∧ server.Extends result.2 := by
  rcases represents.cached cached with ⟨other, process, actor, found, current, present, runs⟩
  obtain rfl : metadata = other := Option.some.inj (named.symm.trans found)
  have code := runs.code
  simp only [StreamController.appendTo, Program.exec, ServerOp.handle, Service.appendTo, current]
  cases running : process.allocator with
  | none =>
      rw [running] at code
      rcases code with ⟨message, panicked⟩
      have unchanged : Function.update service.processes name (some process) =
          service.processes := by
        rw [← processes_of_panicked current running, Function.update_eq_self]
      simp only [Server.send_panicked ids present panicked, Process.append, running, unchanged,
        Stores.store, Program.exec]
      exact ⟨trivial, represents, .refl _⟩
  | some allocator =>
      rw [running] at code
      cases allocated : allocator.allocate 1 with
      | none =>
          have handled := StreamActor.exec_append_panic ids actor.broadcaster
            ⟨allocator, metadata⟩ allocated data
            server.replies.length ⟨server.stores, actor.sent, none⟩
          rw [Server.send_eq ids present code handled]
          simp only [Process.append, running, allocated, Program.exec, ServerOp.handle,
            Server.reply, List.getElem?_concat_length]
          exact ⟨trivial, represents.commanded cached (.stored sound named none _) named
            (Service.process_update _ _ _) (runs.panicked _ _) represents.stores _ _,
            .replied _ _ _ _⟩
      | some outcome =>
          rcases outcome with ⟨⟨seqNum, block⟩, after⟩
          rcases SequenceAllocator.allocate_eq_some allocated with ⟨rfl, _⟩
          have draws : Stream.Draws ⟨allocator, metadata⟩ block after := allocated
          have handled := StreamActor.exec_append ids actor.broadcaster
            draws data server.replies.length ⟨server.stores, actor.sent, none⟩
          rw [Server.send_eq ids present code handled]
          simp only [Process.append, running, allocated, Program.exec, ServerOp.handle,
            Server.reply, List.getElem?_concat_length, ↓reduceDIte]
          exact ⟨trivial, represents.commanded cached
            (.stored sound named (some (block, _)) _) named (Service.process_update _ _ _)
            (runs.appended after _ _) (by rw [represents.stores]; rfl) _ _, .replied _ _ _ _⟩

end Server.Represents

/-- A read finds the value under the record's key. -/
theorem StreamActor.exec_read (ids : Nat → U128) (broadcaster : Nat) (stream : Stream)
    (n : UInt64) (replyTx : ReplyId) (handling : Handling) :
    (StreamActor.handle stream (.read n replyTx)).exec (ActorOp.handle ids broadcaster) handling =
      (some stream, { handling with
        reply := some ⟨.read, readValue (handling.stores.record stream.metadata n)⟩ }) := by
  have found : Stream.readResult
        (.ok ((handling.stores.contents .recordStorage).read (stream.metadata.recordKey n))) =
      readValue (handling.stores.record stream.metadata n) := by
    change Stream.readResult (.ok (Option.map _ (handling.stores.record _ _))) = _
    cases handling.stores.record stream.metadata n <;> rfl
  rw [ActorPhase.handle_read, ← found]
  rfl

namespace Server

variable (ids : Nat → U128) {server : Server} {service : Service}

/-- What a request that appends nothing leaves of the server. -/
def inquired (server : Server) (stream : StreamHandle) (actor : StreamActor)
    (taken : List StreamCommand) (reply : Option (Sigma ReplyKind.Value)) : Server :=
  { server with
    actors := server.actors.set stream.tx { actor with taken }
    replies := server.replies ++ [reply] }

theorem Represents.inquired (represents : server.Represents service) {name : String × String}
    {stream : StreamHandle} (cached : server.cached name = some stream)
    {metadata : StreamMetadata} (named : service.stores.named name.1 name.2 = some metadata)
    {process : Process} (current : service.process name metadata = some process)
    {actor : StreamActor} (runs : actor.Runs stream.tx metadata process)
    (taken : List StreamCommand) (reply : Option (Sigma ReplyKind.Value)) :
    (server.inquired stream actor taken reply).Represents service :=
  represents.commanded cached (.refl _ _) named current (runs.asked taken) represents.stores _ _

theorem Represents.followers (represents : server.Represents service)
    (followers : List Follower) : Represents { server with followers } service :=
  ⟨represents.stores, represents.basins, represents.addresses, represents.unplaced,
    represents.cached, represents.actors, represents.uncached⟩

theorem Represents.readings (represents : server.Represents service)
    (readings : Reader → Option ReadSession) : server.Represents { service with readings } :=
  ⟨represents.stores, represents.basins, represents.addresses, represents.unplaced,
    represents.cached, represents.actors, represents.uncached⟩

theorem send_inquiry {handle : StreamHandle} (command : ReplyId → StreamCommand)
    {actor : StreamActor} {stream : Stream} {reply : Option (Sigma ReplyKind.Value)}
    (present : server.actors[handle.tx]? = some actor) (waits : actor.code = .done stream)
    (handled : (StreamActor.handle stream (command server.replies.length)).exec
      (ActorOp.handle ids actor.broadcaster) ⟨server.stores, actor.sent, none⟩ =
        (some stream, ⟨server.stores, actor.sent, reply⟩)) :
    server.send ids handle command = (some server.replies.length,
      server.inquired handle actor (actor.taken ++ [command server.replies.length]) reply) := by
  rw [send_eq ids present waits handled, Program.ofOption, ← waits]
  rfl

theorem Extends.inquired (server : Server) (stream : StreamHandle) (actor : StreamActor)
    (taken : List StreamCommand) (reply : Option (Sigma ReplyKind.Value)) :
    server.Extends (server.inquired stream actor taken reply) :=
  .replied _ _ _ _

end Server

/-! ## Readers -/

/-- The task stands at a point of its code. -/
def ReadingPhase.Stands (replies : List (Option (Sigma ReplyKind.Value))) (follower : Follower)
    (code : Program server (Option Receiver)) : ReadingPhase → Prop
  | .asking seqNum count => code = SessionPhase.askCode follower seqNum count
  | .fetching seqNum count reply => ∃ replyRx : ReplyId,
      replies[replyRx]? = some (some ⟨.read, reply⟩) ∧
        code = SessionPhase.fetchCode follower seqNum count replyRx
  | .sending seqNum count record => code = SessionPhase.sendCode follower seqNum count record
  | .turning position => code = .done (some ⟨follower.readStream.tx, position⟩)
  | .receiving position =>
      code = SessionPhase.receiveCode follower ⟨follower.readStream.tx, position⟩
  | .forwarding position record =>
      code = SessionPhase.forwardCode ⟨follower.readStream.tx, position⟩ record
  | .failing error => code = SessionPhase.failCode error
  | .ended => code = .done none

/-- The task follows the stream of that name as the reading says. -/
structure ReaderTask.Corresponds (task : ReaderTask) (server : Server) (name : String × String)
    (reading : ReadSession) : Prop where
  cached : server.cached name = some task.follower.readStream
  nextSeqNum : task.follower.subscription.nextSeqNum = reading.nextSeqNum
  receiver : task.follower.subscription.receiver =
    ⟨task.follower.readStream.tx, reading.subscribed⟩
  channel : task.channel = reading.channel
  stands : reading.phase.Stands server.replies task.follower task.code

theorem ReadingPhase.Stands.extends {before after : Server} {follower : Follower}
    {code : Program server (Option Receiver)} {phase : ReadingPhase}
    (stands : phase.Stands before.replies follower code) (extended : before.Extends after) :
    phase.Stands after.replies follower code := by
  cases phase with
  | fetching seqNum count reply =>
      rcases stands with ⟨replyRx, replied, stands⟩
      exact ⟨replyRx, extended.replies replied, stands⟩
  | _ => exact stands

theorem ReaderTask.Corresponds.extends {task : ReaderTask} {before after : Server}
    {name : String × String} {reading : ReadSession} (corresponds : task.Corresponds before name reading)
    (extended : before.Extends after) : task.Corresponds after name reading :=
  { corresponds with
    cached := extended.cached corresponds.cached
    stands := corresponds.stands.extends extended }

theorem ReadingPhase.stands_backfilling {replies : List (Option (Sigma ReplyKind.Value))}
    {follower : Follower} {reading : ReadSession} (receiver : follower.subscription.receiver =
      ⟨follower.readStream.tx, reading.subscribed⟩) (seqNum : UInt64) (count : Nat) :
    (reading.backfilling seqNum count).Stands replies follower
      (follower.backfill 0 seqNum count) := by
  cases count with
  | zero => exact congrArg (fun receiver => Program.done (some receiver)) receiver
  | succ count => exact SessionPhase.backfill_succ follower seqNum count

namespace Server.Represents

variable (ids : Nat → U128) {server : Server} {service : Service}

/-- What a subscription to a cached actor comes to. -/
theorem exec_followStream (represents : server.Represents service) {name : String × String}
    {stream : StreamHandle} (cached : server.cached name = some stream)
    {metadata : StreamMetadata} (named : service.stores.named name.1 name.2 = some metadata)
    {process : Process} (current : service.process name metadata = some process)
    (startSeqNum : UInt64) :
    let result := (StreamController.followStream stream startSeqNum).run.exec
      (ServerOp.handle ids) server
    result.2.Represents service ∧ server.Extends result.2 ∧
      match process.allocator with
      | none => result.1 = some (.error (.internal "stream actor stopped"))
      | some allocator => ∃ tx follower, result.1 = some (.ok tx) ∧
          result.2.followers[tx]? = some follower ∧
          ReaderTask.Corresponds ⟨follower, follower.start 0, []⟩ result.2 name
            (.start startSeqNum allocator.nextSequenceNumber process.sent.length) := by
  rcases represents.cached cached with ⟨other, _, actor, found, present, running, runs⟩
  obtain rfl : metadata = other := Option.some.inj (named.symm.trans found)
  obtain rfl : process = _ := Option.some.inj (current.symm.trans present)
  have code := runs.code
  rw [SessionPhase.followStream_eq, SessionPhase.subscribeCode]
  simp only [Program.exec, ServerOp.handle]
  cases alive : process.allocator with
  | none =>
      rw [alive] at code
      rcases code with ⟨message, panicked⟩
      rw [Server.send_panicked ids running panicked]
      exact ⟨represents, .refl _, rfl⟩
  | some allocator =>
      rw [alive] at code
      have sent := Server.send_inquiry ids .subscribe running code rfl
      rw [sent]
      have kept := Extends.inquired server stream actor
        (actor.taken ++ [.subscribe server.replies.length])
        (some ⟨.subscribe, ⟨actor.broadcaster, actor.sent.length⟩, allocator.nextSequenceNumber⟩)
      have still := represents.inquired cached named current runs
        (actor.taken ++ [.subscribe server.replies.length])
        (some ⟨.subscribe, ⟨actor.broadcaster, actor.sent.length⟩, allocator.nextSequenceNumber⟩)
      simp only [SessionPhase.awaitCode, SessionPhase.spawnCode, Program.exec, ServerOp.handle,
        Server.reply, Server.inquired, List.getElem?_concat_length]
      have receiver : (⟨actor.broadcaster, actor.sent.length⟩ : Receiver) =
          ⟨stream.tx, process.sent.length⟩ := by
        rw [runs.broadcaster, runs.sent]
      refine ⟨still.followers _, ⟨kept.cached, kept.replies⟩, _, _, rfl,
        List.getElem?_concat_length, ?_⟩
      exact ⟨kept.cached cached, rfl, receiver, rfl,
        ReadingPhase.stands_backfilling receiver _ _⟩

end Server.Represents
/-! ## Whole requests -/

theorem StreamController.andThen_validateNames {α : Type} (name : String × String)
    (next : Program server (Except ControllerError α)) :
    andThen (fun _ => andThen (fun _ => next) (validateName "stream_name" name.2))
        (validateName "basin_name" name.1) =
      andThen (fun _ => next) (validateNames name) := by
  unfold validateNames
  cases validateName "basin_name" name.1 <;> rfl

namespace Server.Represents

variable (ids : Nat → U128) {server : Server} {service : Service}

theorem exec_openStream (represents : server.Represents service) (sound : service.stores.Sound)
    {name : String × String} {handle : BasinHandle}
    (placed : server.basins name.1 = some handle)
    (undrawn : ids service.stores.drawn.length ∉ service.stores.drawn) :
    match (service.createStream ids name handle.basinId).2.process name
        (service.createStream ids name handle.basinId).1 with
    | none =>
        (handle.getStream name.2 true).run.exec (ServerOp.handle ids) server = (none, server) ∧
          server.Represents (service.createStream ids name handle.basinId).2
    | some _ =>
        FoundStream server (service.createStream ids name handle.basinId).2 name
          ((handle.getStream name.2 true).run.exec (ServerOp.handle ids) server) := by
  cases known : service.stores.streamMetadata handle.basinId name.2 with
  | some metadata =>
      have found := represents.exec_getStream_known ids sound placed known true
      simp only [Service.createStream, known]
      cases current : service.process name metadata with
      | none =>
          simp only [current] at found
          exact ⟨found, represents⟩
      | some process =>
          simp only [current] at found
          exact found
  | none =>
      have found := represents.exec_getStream_create ids sound placed known undrawn
      simp only [Service.createStream, known] at found ⊢
      rw [Service.process_update]
      exact found

theorem exec_append (represents : server.Represents service) (sound : service.stores.Sound)
    (name : String × String) (data : Bytes)
    (fresh : Stores.Fresh ids service.stores.drawn 2) :
    let result := (StreamController.append name.1 name.2 data).run.exec (ServerOp.handle ids) server
    result.1 = (service.append ids name data).1 ∧
      result.2.Represents (service.append ids name data).2 ∧ server.Extends result.2 := by
  rw [StreamController.append_eq, StreamController.andThen_validateNames]
  simp only [Service.append]
  cases valid : validateNames name with
  | error error => exact ⟨rfl, represents, .refl _⟩
  | ok =>
      rcases represents.exec_getOrCreateBasin ids sound name.1 with
        ⟨⟨handle, found, same, placed⟩, opened, kept⟩
      rcases Service.sound_createBasin sound name.1 fresh with ⟨soundBasin, basin, fresh⟩
      rcases Service.sound_createStream soundBasin basin fresh with ⟨soundStream, named, _⟩
      simp only [StreamController.andThen]
      rw [Program.exec_bind_some _ found]
      simp only [StreamController.andThen, ← same] at soundStream named ⊢
      have result := opened.exec_openStream ids soundBasin placed fresh.undrawn
      cases current : ((service.createBasin ids name.1).2.createStream ids name
          handle.basinId).2.process name ((service.createBasin ids name.1).2.createStream ids name
          handle.basinId).1 with
      | none =>
          simp only [current] at result
          rcases result with ⟨panicked, still⟩
          rw [Program.exec_bind_none _ (congrArg Prod.fst panicked), panicked]
          simp only [Service.appendTo, current]
          exact ⟨trivial, still, kept⟩
      | some process =>
          simp only [current] at result
          rcases result with ⟨⟨stream, returned, cached⟩, streamOpened, streamKept⟩
          rw [Program.exec_bind_some _ returned]
          rcases streamOpened.exec_appendTo ids soundStream cached named data with
            ⟨answer, after, appendKept⟩
          exact ⟨answer, after, (kept.trans streamKept).trans appendKept⟩

theorem exec_readFollow (represents : server.Represents service) (sound : service.stores.Sound)
    (name : String × String) (startSeqNum : UInt64) :
    let result := (StreamController.readFollow name.1 name.2 startSeqNum).run.exec
      (ServerOp.handle ids) server
    result.2.Represents service ∧ server.Extends result.2 ∧
      match service.subscribe name startSeqNum with
      | none => result.1 = none
      | some (.error error) => result.1 = some (.error error)
      | some (.ok reading) => ∃ tx follower, result.1 = some (.ok tx) ∧
          result.2.followers[tx]? = some follower ∧
          ReaderTask.Corresponds ⟨follower, follower.start 0, []⟩ result.2 name reading := by
  rw [StreamController.readFollow_eq, StreamController.andThen_validateNames]
  simp only [Service.subscribe]
  cases valid : validateNames name with
  | error error => exact ⟨represents, .refl _, rfl⟩
  | ok =>
      simp only [StreamController.andThen]
      cases basin : service.stores.basinId name.1 with
      | none =>
          rw [Program.exec_bind, represents.exec_getExistingBasin_missing ids sound basin]
          exact ⟨represents, .refl _, rfl⟩
      | some basinId =>
          rcases represents.exec_getBasin_known ids sound basin
              (throw (.notFound ("basin " ++ name.1))) with
            ⟨⟨handle, found, rfl, placed⟩, opened, kept⟩
          rw [StreamController.getExistingBasin, Program.exec_bind_some _ found]
          simp only [StreamController.andThen]
          cases known : service.stores.streamMetadata handle.basinId name.2 with
          | none =>
              have missing := opened.exec_getStream_missing ids sound placed known
              rw [Program.exec_bind, missing]
              exact ⟨opened, kept, rfl⟩
          | some metadata =>
              have result := opened.exec_getStream_known ids sound placed known false
              cases current : service.process name metadata with
              | none =>
                  simp only [current] at result
                  rw [Program.exec_bind_none _ (congrArg Prod.fst result), result]
                  simp only [current, Option.map_none]
                  exact ⟨opened, kept, trivial⟩
              | some process =>
                  simp only [current] at result
                  rcases result with ⟨⟨stream, returned, cached⟩, streamOpened, streamKept⟩
                  have named : service.stores.named name.1 name.2 = some metadata := by
                    simp [Stores.named, basin, known]
                  rw [Program.exec_bind_some _ returned]
                  rcases streamOpened.exec_followStream ids cached named current startSeqNum with
                    ⟨followed, followKept, outcome⟩
                  refine ⟨followed, (kept.trans streamKept).trans followKept, ?_⟩
                  simp only [current, Option.map_some, mapError_ok]
                  cases alive : process.allocator <;> simpa only [alive] using outcome

theorem exec_listBasins (represents : server.Represents service) :
    StreamController.listBasins.run.exec (ServerOp.handle ids) server =
      (service.listBasins ids, server) := by
  rw [StreamController.listBasins, onServer, run_orThrow, Program.exec_bind, exec_storageCalls,
    Basin.exec_list]
  simp only [Service.listBasins, represents.stores]
  cases (Basin.list.run.exec (StorageOp.handle ids) service.stores).1 with
  | none => rw [← represents.stores]; rfl
  | some result => rw [← represents.stores]; cases result <;> rfl

theorem exec_listStreams (represents : server.Represents service) (sound : service.stores.Sound)
    (basinName : String) :
    let result := (StreamController.listStreams basinName).run.exec (ServerOp.handle ids) server
    result.1 = service.listStreams ids basinName ∧ result.2.Represents service ∧
      server.Extends result.2 := by
  rw [StreamController.listStreams_eq]
  simp only [Service.listStreams]
  cases valid : validateName "basin_name" basinName with
  | error error => exact ⟨rfl, represents, .refl _⟩
  | ok =>
      simp only [StreamController.andThen]
      cases basin : service.stores.basinId basinName with
      | none =>
          rw [Program.exec_bind, represents.exec_getExistingBasin_missing ids sound basin]
          exact ⟨rfl, represents, .refl _⟩
      | some basinId =>
          rcases represents.exec_getBasin_known ids sound basin
              (throw (.notFound ("basin " ++ basinName))) with
            ⟨⟨handle, found, rfl, placed⟩, opened, kept⟩
          rw [StreamController.getExistingBasin, Program.exec_bind_some _ found]
          simp only [StreamController.andThen]
          generalize ((StreamController.getBasin basinName
            (throw (.notFound ("basin " ++ basinName)))).run.exec (ServerOp.handle ids) server).2 =
              middle at *
          rw [onServer, run_orThrow, Program.exec_bind, exec_storageCalls, Stream.exec_list]
          simp only [opened.stores]
          cases ((Stream.list handle.basinId).run.exec (StorageOp.handle ids) service.stores).1 with
          | none => exact ⟨rfl, opened.with_stores.symm ▸ opened, kept.cached, kept.replies⟩
          | some result =>
              cases result <;>
                exact ⟨rfl, opened.with_stores.symm ▸ opened, kept.cached, kept.replies⟩

end Server.Represents

/-! ## One call of a reader's task -/

namespace Server.Represents

variable (ids : Nat → U128) {server : Server} {service : Service} {name : String × String}
  {task : ReaderTask} {reading : ReadSession} {metadata : StreamMetadata} {process : Process}

theorem recv_eq {actor : StreamActor} {tx : Nat} (runs : actor.Runs tx metadata process) (position : Nat) :
    actor.recv ⟨tx, position⟩ =
      (process.recv position).map fun received => (received.1, ⟨tx, received.2⟩) := by
  have code := runs.code
  simp only [StreamActor.recv, Process.recv, runs.sent]
  split
  · rfl
  · cases process.sent[position]? with
    | some record => rfl
    | none =>
        cases alive : process.allocator with
        | some allocator =>
            rw [alive] at code
            simp [StreamActor.running, code]
        | none =>
            rw [alive] at code
            rcases code with ⟨message, panicked⟩
            simp [StreamActor.running, panicked]

theorem advance (represents : server.Represents service)
    (corresponds : task.Corresponds server name reading)
    (named : service.stores.named name.1 name.2 = some metadata)
    (current : service.process name metadata = some process) :
    let result := task.advance ids server
    result.2.Represents service ∧ server.Extends result.2 ∧
      result.1.Corresponds result.2 name
        (reading.advance (fun n => readValue (service.stores.record metadata n)) process) := by
  rcases represents.cached corresponds.cached with ⟨other, _, actor, found, present, running, runs⟩
  obtain rfl : metadata = other := Option.some.inj (named.symm.trans found)
  obtain rfl : process = _ := Option.some.inj (current.symm.trans present)
  rcases task with ⟨follower, code, channel⟩
  rcases reading with ⟨nextSeqNum, subscribed, phase, sent⟩
  rcases corresponds with ⟨cached, next, receiver, same, stands⟩
  simp only at cached next receiver same stands running runs
  subst next same
  -- Where the server stays as it is, only the point the task comes to is left.
  have moved {code channel phase} (stands : ReadingPhase.Stands server.replies follower code phase) :
      server.Represents service ∧ server.Extends server ∧
        ReaderTask.Corresponds ⟨follower, code, channel⟩ server name
          ⟨follower.subscription.nextSeqNum, subscribed, phase, channel⟩ :=
    ⟨represents, .refl _, cached, rfl, receiver, rfl, stands⟩
  have filled (item : Except ControllerError Record) (next : Except Unit Unit → Program _ _)
      (phase after : ReadingPhase)
      (now : phase.Stands server.replies follower (.call (S := Slatestreams.server) (.txSend 0 item) next))
      (then_ : after.Stands server.replies follower (next (.ok ()))) :
      let result := ReaderTask.advance ids
        ⟨follower, .call (S := Slatestreams.server) (.txSend 0 item) next, channel⟩ server
      result.2.Represents service ∧ server.Extends result.2 ∧
        result.1.Corresponds result.2 name
          (ReadSession.send ⟨follower.subscription.nextSeqNum, subscribed, phase, channel⟩ item after) := by
    by_cases room : channel.length < STREAM_COMMAND_BUFFER
    · simp only [ReaderTask.advance, ReadSession.send, room, if_true]
      exact moved then_
    · simp only [ReaderTask.advance, ReadSession.send, room, if_false]
      exact moved now
  cases phase with
  | asking seqNum count =>
      obtain rfl : code = _ := stands
      simp only [ReaderTask.advance, SessionPhase.askCode, ServerOp.handle, ReadSession.advance]
      have code := runs.code
      cases alive : process.allocator with
      | none =>
          rw [alive] at code
          rcases code with ⟨message, panicked⟩
          rw [Server.send_panicked ids running panicked]
          exact moved rfl
      | some allocator =>
          rw [alive] at code
          rw [Server.send_inquiry ids (.read seqNum) running code (StreamActor.exec_read _ _ _ _ _ _)]
          have kept := Extends.inquired server follower.readStream actor
            (actor.taken ++ [.read seqNum server.replies.length])
            (some ⟨.read, readValue (server.stores.record metadata seqNum)⟩)
          refine ⟨represents.inquired cached named current runs _ _, kept, kept.cached cached, rfl,
            receiver, rfl, server.replies.length, ?_, rfl⟩
          simp [Server.inquired, represents.stores]
  | fetching seqNum count reply =>
      rcases stands with ⟨replyRx, replied, rfl⟩
      simp only [ReaderTask.advance, SessionPhase.fetchCode, ServerOp.handle, Server.reply, replied,
        ReadSession.advance, ↓reduceDIte]
      rcases reply with error | _ | record
      · exact moved rfl
      · exact moved (ReadingPhase.stands_backfilling receiver _ _)
      · exact moved rfl
  | sending seqNum count record =>
      obtain rfl : code = _ := stands
      exact filled _ _ (.sending seqNum count record) _ rfl
        (ReadingPhase.stands_backfilling receiver _ _)
  | turning position =>
      obtain rfl : code = _ := stands
      exact moved (SessionPhase.live_eq _ _)
  | receiving position =>
      obtain rfl : code = _ := stands
      simp only [ReaderTask.advance, SessionPhase.receiveCode, running, Option.bind_some,
        recv_eq runs, ReadSession.advance]
      rcases process.recv position with _ | ⟨⟨⟩ | record, position⟩
      · exact moved rfl
      · rename_i error
        cases error <;> exact moved rfl
      · simp only [Option.map_some, SessionPhase.receivedCode]
        split <;> exact moved rfl
  | forwarding position record =>
      obtain rfl : code = _ := stands
      exact filled _ _ (.forwarding position record) _ rfl rfl
  | failing error =>
      obtain rfl : code = _ := stands
      exact filled _ _ (.failing error) _ rfl rfl
  | ended =>
      obtain rfl : code = _ := stands
      exact moved rfl

end Server.Represents

end Slatestreams
