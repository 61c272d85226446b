import Slatestreams.MetadataWrites
import Slatestreams.NameLocks

/-! # Names in the caches

What holds of the caches, the actors and the metadata at every moment, and what
each call changes of it. -/

namespace Slatestreams

open Foundation

/-! ## Metadata of names -/

namespace Stores

variable (self : Stores)

@[simp] theorem basinId_draw (id : U128) (basinName : String) :
    (self.draw id).basinId basinName = self.basinId basinName := rfl

theorem basinId_writeBasin (basinName other : String) (basinId : U128) :
    (self.write [⟨Basin.constructMetadataKey basinName, putU128 basinId⟩] .metaStorage).basinId
        other =
      if basinName = other then some basinId else self.basinId other :=
  basinId_createdBasin self basinName basinId other

theorem basinId_writeStream (basinId : U128) (streamName : String) (value : Bytes)
    (other : String) :
    (self.write [⟨Stream.constructMetadataKey basinId streamName, value⟩] .metaStorage).basinId
        other = self.basinId other := by
  rw [Stores.basinId, get_metaStorage, if_neg (Stream.constructMetadataKey_ne_basin _ _ _)]
  rfl

variable {self}

theorem Distinct.draw (distinct : self.Distinct) (id : U128) : (self.draw id).Distinct where
  drawn found := List.mem_append_left _ (distinct.drawn found)
  injective left right := distinct.injective left right

theorem Distinct.writeBasin (distinct : self.Distinct) {basinName : String} {basinId : U128}
    (drawn : basinId ∈ self.drawn) (unused : ∀ other, self.basinId other ≠ some basinId) :
    (self.write [⟨Basin.constructMetadataKey basinName, putU128 basinId⟩] .metaStorage).Distinct
    where
  drawn {other found} is := by
    rw [basinId_writeBasin] at is
    split at is
    · cases is
      exact drawn
    · exact distinct.drawn is
  injective {left right found} first second := by
    rw [basinId_writeBasin] at first second
    split at first <;> split at second
    · rename_i same other
      exact same.symm.trans other
    · cases first
      exact absurd second (unused right)
    · cases second
      exact absurd first (unused left)
    · exact distinct.injective first second

theorem Distinct.writeStream (distinct : self.Distinct) (basinId : U128) (streamName : String)
    (value : Bytes) :
    (self.write [⟨Stream.constructMetadataKey basinId streamName, value⟩] .metaStorage).Distinct
    where
  drawn found := by
    rw [basinId_writeStream] at found
    exact distinct.drawn found
  injective left right := by
    rw [basinId_writeStream] at left right
    exact distinct.injective left right

end Stores

/-! ## What holds at every moment -/

/-- A command has been put into the actor's queue. -/
def StreamActor.Commanded (actor : StreamActor) : Prop := actor.queue ≠ [] ∨ actor.taken ≠ []

namespace SharedServer

/-- The handle of a stream is in the cache, under the stream's name. -/
def Cached (server : SharedServer) (name : String × String) (stream : StreamHandle) : Prop :=
  ∃ basin, server.basins name.1 = some basin ∧ server.streams basin.address name.2 = some stream

structure NamesOwned (server : SharedServer) : Prop where
  distinct : server.stores.Distinct
  once : server.stores.WrittenOnce
  basinStored {basinName : String} {handle : BasinHandle} :
    server.basins basinName = some handle →
      server.stores.basinId basinName = some handle.basinId
  basinPlaced {basinName : String} {handle : BasinHandle} :
    server.basins basinName = some handle → handle.address < server.basinHandles
  addresses {left right : String} {handle other : BasinHandle} :
    server.basins left = some handle → server.basins right = some other →
      handle.address = other.address → left = right
  streamPlaced {address : Nat} {streamName : String} {stream : StreamHandle} :
    server.streams address streamName = some stream →
      ∃ basinName handle, server.basins basinName = some handle ∧ handle.address = address ∧
        server.names[stream.tx]? = some (basinName, streamName)
  named : server.names.length = server.actors.length
  commanded {tx : Nat} {actor : StreamActor} : server.actors[tx]? = some actor →
    actor.Commanded → ∃ name, server.names[tx]? = some name ∧ server.Cached name ⟨tx⟩
  recordsOnly {tx : Nat} {actor : StreamActor} : server.actors[tx]? = some actor →
    actor.code.Only ActorOp.RecordsOnly
  spawned {name : String × String} {follower : Follower} : (name, follower) ∈ server.spawned →
    server.Cached name follower.readStream
  handed {basinName : String} {handle : BasinHandle} : (basinName, handle) ∈ server.handed →
    server.basins basinName = some handle

namespace NamesOwned

variable {server : SharedServer} {name : String × String}

theorem start {stores : Stores} (distinct : stores.Distinct) (once : stores.WrittenOnce) :
    (SharedServer.start stores).NamesOwned where
  distinct := distinct
  once := once
  basinStored found := nomatch found
  basinPlaced found := nomatch found
  addresses found := nomatch found
  streamPlaced found := nomatch found
  named := rfl
  commanded found := nomatch found
  recordsOnly found := nomatch found
  spawned member := nomatch member
  handed member := nomatch member

/-- The actor of a cached handle was spawned for the handle's name. -/
theorem names_of_cached (owned : server.NamesOwned) {stream : StreamHandle}
    (cached : server.Cached name stream) : server.names[stream.tx]? = some name := by
  rcases cached with ⟨basin, placed, found⟩
  rcases owned.streamPlaced found with ⟨basinName, handle, other, address, named⟩
  rw [named, owned.addresses other placed address]

/-- Two basins with the same id have the same handle. -/
theorem handle_of_basinId (owned : server.NamesOwned) {left right : String}
    {handle other : BasinHandle} (first : server.basins left = some handle)
    (second : server.basins right = some other) (same : handle.basinId = other.basinId) :
    handle = other := by
  have names : left = right := owned.distinct.injective (owned.basinStored first)
    (same ▸ owned.basinStored second)
  rw [names, second] at first
  exact (Option.some.inj first).symm

/-! ### Storage calls -/

theorem sameMetadata (owned : server.NamesOwned) {stores : Stores}
    (same : Stores.SameMetadata server.stores stores) :
    NamesOwned { server with stores } :=
  { owned with
    distinct := same.distinct owned.distinct
    once := same.writtenOnce owned.once
    basinStored := fun found => (same.basinId _).trans (owned.basinStored found) }

theorem draw (owned : server.NamesOwned) (id : U128) :
    NamesOwned { server with stores := server.stores.draw id } :=
  { owned with
    distinct := owned.distinct.draw id
    once := ⟨owned.once.once, owned.once.absent⟩ }

theorem writeBasin (owned : server.NamesOwned) {basinName : String} {basinId : U128}
    (missing : server.stores.metaStorage.get (Basin.constructMetadataKey basinName) = none)
    (drawn : basinId ∈ server.stores.drawn)
    (unused : ∀ other, server.stores.basinId other ≠ some basinId) :
    NamesOwned { server with
      stores := server.stores.write
        [⟨Basin.constructMetadataKey basinName, putU128 basinId⟩] .metaStorage } :=
  { owned with
    distinct := owned.distinct.writeBasin drawn unused
    once := owned.once.write missing
    basinStored := fun {other handle} found => by
      have stored := owned.basinStored found
      refine (Stores.basinId_writeBasin _ _ _ _).trans ?_
      by_cases same : basinName = other
      · subst same
        simp [Stores.basinId, missing] at stored
      · rw [if_neg same]
        exact stored }

theorem writeStream (owned : server.NamesOwned) {basinId : U128} {streamName : String}
    {value : Bytes}
    (missing : server.stores.metaStorage.get (Stream.constructMetadataKey basinId streamName) =
      none) :
    NamesOwned { server with
      stores := server.stores.write
        [⟨Stream.constructMetadataKey basinId streamName, value⟩] .metaStorage } :=
  { owned with
    distinct := owned.distinct.writeStream _ _ _
    once := owned.once.write missing
    basinStored := fun found =>
      (Stores.basinId_writeStream _ _ _ _ _).trans (owned.basinStored found) }

/-! ### Locks and caches -/

theorem withLocks (owned : server.NamesOwned) (locks : Lock → Option Nat) :
    NamesOwned { server with locks } :=
  { owned with }

theorem returned (owned : server.NamesOwned) (basinName : String) :
    (server.returned basinName (server.basins basinName)).NamesOwned := by
  cases found : server.basins basinName with
  | none => exact owned
  | some handle =>
      exact { owned with
        handed := fun member => by
          rcases List.mem_append.mp member with earlier | now
          · exact owned.handed earlier
          · cases List.mem_singleton.mp now
            exact found }

theorem newBasinHandle (owned : server.NamesOwned) :
    NamesOwned { server with basinHandles := server.basinHandles + 1 } :=
  { owned with basinPlaced := fun found => Nat.lt_succ_of_lt (owned.basinPlaced found) }

theorem basins_placeBasin {basinName : String} (uncached : server.basins basinName = none)
    (placed : BasinHandle) {other : String} {handle : BasinHandle}
    (found : server.basins other = some handle) :
    (server.placeBasin basinName placed).basins other = some handle :=
  (Function.update_of_ne (fun same => by simp [same, uncached] at found) _ _).trans found

theorem cached_placeBasin {basinName : String} (uncached : server.basins basinName = none)
    (placed : BasinHandle) {stream : StreamHandle} (cached : server.Cached name stream) :
    (server.placeBasin basinName placed).Cached name stream := by
  rcases cached with ⟨basin, found, stream⟩
  exact ⟨basin, basins_placeBasin uncached placed found, stream⟩

theorem placeBasin (owned : server.NamesOwned) {basinName : String} {placed : BasinHandle}
    (uncached : server.basins basinName = none)
    (stored : server.stores.basinId basinName = some placed.basinId)
    (drawn : placed.address < server.basinHandles)
    (new : ∀ other handle, server.basins other = some handle → handle.address ≠ placed.address) :
    (server.placeBasin basinName placed).NamesOwned := by
  have either {other : String} {handle : BasinHandle}
      (found : (server.placeBasin basinName placed).basins other = some handle) :
      other = basinName ∧ handle = placed ∨ server.basins other = some handle := by
    change Function.update server.basins basinName (some placed) other = some handle at found
    by_cases same : other = basinName
    · subst same
      rw [Function.update_self] at found
      exact .inl ⟨rfl, (Option.some.inj found).symm⟩
    · rw [Function.update_of_ne same] at found
      exact .inr found
  exact { owned with
    basinStored := fun found => by
      rcases either found with ⟨rfl, rfl⟩ | earlier
      · exact stored
      · exact owned.basinStored earlier
    basinPlaced := fun found => by
      rcases either found with ⟨rfl, rfl⟩ | earlier
      · exact drawn
      · exact owned.basinPlaced earlier
    addresses := fun first second same => by
      rcases either first with ⟨left, rfl⟩ | earlier
      · rcases either second with ⟨right, _⟩ | other
        · exact left.trans right.symm
        · exact absurd same.symm (new _ _ other)
      · rcases either second with ⟨_, rfl⟩ | other
        · exact absurd same (new _ _ earlier)
        · exact owned.addresses earlier other same
    streamPlaced := fun found => by
      rcases owned.streamPlaced found with ⟨other, handle, cached, address, named⟩
      exact ⟨other, handle, basins_placeBasin uncached placed cached, address, named⟩
    commanded := fun present commanded => by
      rcases owned.commanded present commanded with ⟨name, named, cached⟩
      exact ⟨name, named, cached_placeBasin uncached placed cached⟩
    spawned := fun member => cached_placeBasin uncached placed (owned.spawned member)
    handed := fun member => by
      rcases List.mem_append.mp member with earlier | now
      · exact basins_placeBasin uncached placed (owned.handed earlier)
      · cases List.mem_singleton.mp now
        exact Function.update_self _ _ _ }

theorem streams_placeStream {address : Nat} {streamName : String} (placed : StreamHandle)
    (uncached : server.streams address streamName = none) {otherAddress : Nat} {other : String}
    {stream : StreamHandle} (found : server.streams otherAddress other = some stream) :
    (server.placeStream address streamName placed).streams otherAddress other = some stream := by
  unfold SharedServer.placeStream
  by_cases sameAddress : otherAddress = address
  · subst sameAddress
    have different : other ≠ streamName := fun same => by simp [same, uncached] at found
    simp only [Function.update_self, Function.update_of_ne different]
    exact found
  · simp only [Function.update_of_ne sameAddress]
    exact found

theorem cached_placeStream {address : Nat} {streamName : String} (placed : StreamHandle)
    (uncached : server.streams address streamName = none) {stream : StreamHandle}
    (cached : server.Cached name stream) :
    (server.placeStream address streamName placed).Cached name stream := by
  rcases cached with ⟨basin, found, stream⟩
  exact ⟨basin, found, streams_placeStream placed uncached stream⟩

theorem placeStream (owned : server.NamesOwned) {handle : BasinHandle} {placed : StreamHandle}
    (basin : server.basins name.1 = some handle)
    (uncached : server.streams handle.address name.2 = none)
    (named : server.names[placed.tx]? = some name) :
    (server.placeStream handle.address name.2 placed).NamesOwned :=
  { owned with
    streamPlaced := fun {address streamName stream} found => by
      by_cases sameAddress : address = handle.address
      · subst sameAddress
        by_cases same : streamName = name.2
        · subst same
          simp only [SharedServer.placeStream, Function.update_self] at found
          cases found
          exact ⟨name.1, handle, basin, rfl, named⟩
        · simp only [SharedServer.placeStream, Function.update_self,
            Function.update_of_ne same] at found
          exact owned.streamPlaced found
      · simp only [SharedServer.placeStream, Function.update_of_ne sameAddress] at found
        exact owned.streamPlaced found
    commanded := fun present commanded => by
      rcases owned.commanded present commanded with ⟨name, named, cached⟩
      exact ⟨name, named, cached_placeStream placed uncached cached⟩
    spawned := fun member => cached_placeStream placed uncached (owned.spawned member) }

/-! ### Actors -/

theorem names_spawn (name : String × String) (stream : Stream) {tx : Nat}
    {earlier : String × String} (named : server.names[tx]? = some earlier) :
    (server.spawn name stream).names[tx]? = some earlier :=
  (List.getElem?_append_left (List.getElem?_eq_some_iff.mp named).1).trans named

theorem spawn (owned : server.NamesOwned) (name : String × String) (stream : Stream) :
    (server.spawn name stream).NamesOwned := by
  have either {tx : Nat} {actor : StreamActor}
      (present : (server.spawn name stream).actors[tx]? = some actor) :
      server.actors[tx]? = some actor ∨ actor = .spawn server.actors.length stream := by
    by_cases earlier : tx < server.actors.length
    · rw [SharedServer.spawn, List.getElem?_append_left earlier] at present
      exact .inl present
    · have member := List.mem_of_getElem? present
      rcases List.mem_append.mp member with _ | now
      · rw [SharedServer.spawn, List.getElem?_append_right (Nat.le_of_not_lt earlier)] at present
        exact .inr (List.mem_singleton.mp (List.mem_of_getElem? present))
      · exact .inr (List.mem_singleton.mp now)
  exact { owned with
    streamPlaced := fun found => by
      rcases owned.streamPlaced found with ⟨basinName, handle, basin, address, named⟩
      exact ⟨basinName, handle, basin, address, names_spawn name stream named⟩
    named := by simp [SharedServer.spawn, owned.named]
    commanded := fun present commanded => by
      rcases either present with earlier | rfl
      · rcases owned.commanded earlier commanded with ⟨name, named, cached⟩
        exact ⟨name, names_spawn _ stream named, cached⟩
      · rcases commanded with queued | taken
        · exact absurd rfl queued
        · exact absurd rfl taken
    recordsOnly := fun present => by
      rcases either present with earlier | rfl
      · exact owned.recordsOnly earlier
      · trivial }

/-- An actor has changed that is cached, unless it has no commands. -/
theorem setActor (owned : server.NamesOwned) {tx : Nat} {next : StreamActor}
    (only : next.code.Only ActorOp.RecordsOnly)
    (commanded : next.Commanded → ∃ name, server.names[tx]? = some name ∧
      server.Cached name ⟨tx⟩) :
    NamesOwned { server with actors := server.actors.set tx next } := by
  have either {other : Nat} {actor : StreamActor}
      (present : (server.actors.set tx next)[other]? = some actor) :
      other = tx ∧ actor = next ∨ server.actors[other]? = some actor := by
    by_cases same : tx = other
    · subst same
      rw [List.getElem?_set_self'] at present
      rcases Option.map_eq_some_iff.mp present with ⟨_, _, rfl⟩
      exact .inl ⟨rfl, rfl⟩
    · rw [List.getElem?_set_ne same] at present
      exact .inr present
  exact { owned with
    named := by rw [List.length_set, owned.named]
    commanded := fun present moved => by
      rcases either present with ⟨rfl, rfl⟩ | other
      · exact commanded moved
      · exact owned.commanded other moved
    recordsOnly := fun present => by
      rcases either present with ⟨rfl, rfl⟩ | other
      · exact only
      · exact owned.recordsOnly other }

theorem enqueue (owned : server.NamesOwned) {stream : StreamHandle} {actor : StreamActor}
    (cached : server.Cached name stream) (present : server.actors[stream.tx]? = some actor)
    (command : ReplyId → StreamCommand) :
    (server.enqueue stream.tx actor command).NamesOwned := by
  have only := owned.recordsOnly present
  have queued := @setActor _ owned stream.tx
    { actor with queue := actor.queue ++ [command server.nextReply] } only
    fun _ => ⟨name, owned.names_of_cached cached, cached⟩
  exact { queued with }

theorem moves {MayFail : StorageOp → Prop} {after : SharedServer} (owned : server.NamesOwned)
    (moves : server.Moves MayFail after) : after.NamesOwned := by
  cases moves with
  | actor present taken =>
      rename_i tx actor next effect stores
      rcases taken.same (owned.recordsOnly present) with ⟨same, only⟩
      have commanded (moved : next.Commanded) : actor.Commanded := by
        cases taken with
        | recv waits queued => exact .inl (queued ▸ List.cons_ne_nil _ _)
        | storage => exact moved
        | broadcast => exact moved
        | subscribe => exact moved
        | reply => exact moved
      have cached (moved : next.Commanded) := owned.commanded present (commanded moved)
      exact { (owned.sameMetadata same).setActor only cached with }

/-! ### Followers and restarts -/

theorem spawnFollower (owned : server.NamesOwned) {follower : Follower}
    (cached : server.Cached name follower.readStream) :
    NamesOwned { server with spawned := server.spawned ++ [(name, follower)] } :=
  { owned with
    spawned := fun member => by
      rcases List.mem_append.mp member with earlier | now
      · exact owned.spawned earlier
      · cases List.mem_singleton.mp now
        exact cached }

theorem starts {call : ServerCall} {code : Program Slatestreams.server ServerResult}
    {after : SharedServer} (owned : server.NamesOwned) (starts : server.Starts call code after) : after.NamesOwned := by
  cases starts with
  | request => exact owned
  | follower waits =>
      exact { owned with
        spawned := fun member => owned.spawned (by
          rw [waits]
          rcases List.mem_append.mp member with earlier | later
          · exact List.mem_append_left _ earlier
          · exact List.mem_append_right _ (List.mem_cons_of_mem _ later)) }

theorem restart (owned : server.NamesOwned) :
    (SharedServer.start server.stores).NamesOwned :=
  start owned.distinct owned.once

end NamesOwned

end SharedServer

end Slatestreams
