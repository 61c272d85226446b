import Slatestreams.AppendOpening
import Slatestreams.ServerLogs

/-! # Logs and the calls of tasks

What each call of a task does to the logs, and what the task knows after it. -/

namespace Slatestreams

open Foundation

namespace SharedServer

variable {MayFail : StorageOp → Prop} {initial : String × String → List Record} {id : Nat}
  {server after : SharedServer} {name : String × String} {stores : Stores}

/-! ## Calls that leave the logs alone -/

theorem KeepsLogs.sameStores (same : after.stores = server.stores)
    (replies : after.replies = server.replies)
    (actors : ∀ {tx : Nat} {actor : StreamActor}, server.actors[tx]? = some actor →
      ∃ next, after.actors[tx]? = some next ∧ actor.sent <+: next.sent ∧
        ((∀ name, ¬server.Cached name ⟨tx⟩) → next = actor)) : KeepsLogs id server after where
  records _ := by
    rw [same]
    exact .refl _ _
  keys _ _ := by rw [same]
  named leads := by
    rw [same]
    exact leads
  logs name := by
    rw [same]
    exact ⟨[], (List.append_nil _).symm, fun _ _ _ _ => List.forall_mem_nil _⟩
  actors := actors
  replies replied := by
    rw [replies]
    exact replied
  ordered _ _ unanswered _ replied := by
    rw [replies, unanswered] at replied
    cases replied
  alone unanswered _ replied _ := by
    rw [replies, unanswered] at replied
    cases replied

theorem KeepsLogs.sameActors (stores : after.stores = server.stores)
    (replies : after.replies = server.replies) (actors : after.actors = server.actors) :
    KeepsLogs id server after :=
  .sameStores stores replies fun {_ actor} present =>
    ⟨actor, by rw [actors]; exact present, List.prefix_rfl, fun _ => rfl⟩

/-- What an actor serves depends on the stores, the actors and the replies only. -/
theorem Serves.same {tx : Nat} {metadata : StreamMetadata} {base log : List Record}
    {actor : StreamActor} {phase : ActorPhase}
    (serves : server.Serves MayFail name tx metadata base log actor phase)
    (present : after.actors[tx]? = some actor)
    (named : after.stores.named name.1 name.2 = some metadata)
    (records : SameRecords metadata server.stores.recordStorage after.stores.recordStorage)
    (replies : after.replies = server.replies) :
    after.Serves MayFail name tx metadata base log actor phase where
  present := present
  named := named
  actorLog := serves.actorLog.kept records.record
  heard := by
    rintro subscription ⟨same, replyRx, replied⟩
    exact serves.heard ⟨same, replyRx, replies ▸ replied⟩
  inHand := serves.inHand
  distinct := serves.distinct
  owed waits := by
    rw [replies]
    exact serves.owed waits
  acknowledged taken replied := serves.acknowledged taken (replies ▸ replied)

theorem Logged.same (logged : server.Logged MayFail initial) (stores : after.stores = server.stores)
    (actors : after.actors = server.actors) (replies : after.replies = server.replies)
    (cached : ∀ name stream, after.Cached name stream ↔ server.Cached name stream) :
    after.Logged MayFail initial where
  separate := by
    rw [stores]
    exact logged.separate
  apart := by
    unfold Given
    rw [actors]
    exact logged.apart
  idle := by
    rw [actors]
    exact logged.idle
  heard := by
    unfold Heard
    rw [actors, replies]
    exact logged.heard
  uncached {name} uncached := by
    rw [stores]
    exact logged.uncached fun stream is => uncached stream ((cached name stream).mpr is)
  serves {name stream} is := by
    rcases logged.serves ((cached name stream).mp is) with
      ⟨metadata, log, actor, phase, serves⟩
    refine ⟨metadata, log, actor, phase, serves.same ?_ ?_ ?_ replies⟩
    · rw [actors]
      exact serves.present
    · rw [stores]
      exact serves.named
    · rw [stores]
      exact .refl _ _

/-! ## Calls to the stores -/

/-- What a task may make of the stores. It writes no records, and only under the name that
it opens. -/
structure Rewrites (server : SharedServer) (id : Nat) (stores : Stores) : Prop where
  separate : stores.Separate
  named {name : String × String} {metadata : StreamMetadata} :
    server.stores.named name.1 name.2 = some metadata →
      stores.named name.1 name.2 = some metadata
  new {name : String × String} {metadata : StreamMetadata} :
    server.stores.named name.1 name.2 = none →
      stores.named name.1 name.2 = some metadata → Blank stores.recordStorage metadata
  record (metadata : StreamMetadata) (n : UInt64) :
    stores.recordStorage.get (metadata.recordKey n) =
      server.stores.recordStorage.get (metadata.recordKey n)
  block {metadata : StreamMetadata} :
    (∀ name : String × String, server.stores.named name.1 name.2 = some metadata →
      server.OpenedBy id name → ¬server.Uncached name) →
      stores.recordStorage.get metadata.blockKey =
        server.stores.recordStorage.get metadata.blockKey
  keys {basinId : U128} : (∀ other, server.stores.basinId other ≠ some basinId) →
    ∀ streamName, stores.streamMetadata basinId streamName =
      server.stores.streamMetadata basinId streamName
  pastRecords {name : String × String} : server.Uncached name → stores.LoadsPastRecords name

theorem Logged.rewrites_refl (logged : server.Logged MayFail initial) (id : Nat) :
    server.Rewrites id server.stores where
  separate := logged.separate
  named leads := leads
  new none_ leads := by
    rw [none_] at leads
    cases leads
  record _ _ := rfl
  block _ := rfl
  keys _ _ := rfl
  pastRecords := logged.pastRecords

theorem Logged.rewrites_draw (logged : server.Logged MayFail initial) (id : Nat) (drawn : U128) :
    server.Rewrites id (server.stores.draw drawn) where
  separate := logged.separate.draw drawn
  named leads := leads
  new none_ leads := by
    rw [Stores.named_draw, none_] at leads
    cases leads
  record _ _ := rfl
  block _ := rfl
  keys _ _ := rfl
  pastRecords uncached := (logged.pastRecords uncached).kept rfl fun _ _ => .refl _ _

/-- A basin is made without streams. -/
theorem Logged.rewrites_basin (logged : server.Logged MayFail initial) (id : Nat)
    {basinName : String} {basinId : U128}
    (missing : server.stores.metaStorage.get (Basin.constructMetadataKey basinName) = none)
    (empty : ∀ streamName, server.stores.streamMetadata basinId streamName = none) :
    server.Rewrites id (server.stores.write
      [⟨Basin.constructMetadataKey basinName, putU128 basinId⟩] .metaStorage) := by
  have unnamed : server.stores.basinId basinName = none := by
    rw [Stores.basinId, missing, Option.bind_none]
  have same (name : String × String) : (server.stores.write
      [⟨Basin.constructMetadataKey basinName, putU128 basinId⟩] .metaStorage).named name.1 name.2 =
        server.stores.named name.1 name.2 := by
    rw [Stores.named_writeBasin]
    split
    · rename_i same
      rw [empty, Stores.named, ← same, unnamed, Option.bind_none]
    · rfl
  exact
    { separate := logged.separate.writeBasin _ _
      named := fun leads => (same _).trans leads
      new := fun none_ leads => by
        rw [same, none_] at leads
        cases leads
      record := fun _ _ => rfl
      block := fun _ => rfl
      keys := fun _ streamName => Stores.streamMetadata_writeBasin _ _ _ _ _
      pastRecords := fun uncached =>
        (logged.pastRecords uncached).kept (same _) fun _ _ => .refl _ _ }

/-- A stream is made under the name that the task opens, and without records. -/
theorem Logged.rewrites_stream (logged : server.Logged MayFail initial) (owned : server.NamesOwned)
    (id : Nat) {handle : BasinHandle} {streamId : U128}
    (basin : server.basins name.1 = some handle)
    (missing : server.stores.metaStorage.get
      (Stream.constructMetadataKey handle.basinId name.2) = none)
    (stage : (StreamStage.drawn streamId).Logged handle name server) :
    server.Rewrites id (server.stores.write
      [⟨Stream.constructMetadataKey handle.basinId name.2,
        (⟨handle.basinId, streamId⟩ : StreamMetadata).serialise⟩] .metaStorage) := by
  rcases stage with ⟨drawn, unused, blank⟩
  have stored := owned.basinStored basin
  have basinDrawn := owned.distinct.drawn stored
  have named := @Stores.named_writeStream server.stores name ⟨handle.basinId, streamId⟩
    handle.basinId owned.distinct stored
  have unnamed : server.stores.named name.1 name.2 = none := by
    rw [Stores.named, stored, Option.bind_some, Stores.streamMetadata, missing, Option.bind_none]
  exact
    { separate := logged.separate.writeStream basinDrawn drawn unused name.2
      named := fun {other metadata} leads => by
        rw [named, if_neg]
        · exact leads
        · rintro rfl
          rw [unnamed] at leads
          cases leads
      new := fun {other metadata} none_ leads => by
        rw [named] at leads
        split at leads
        · cases leads
          exact blank
        · rw [none_] at leads
          cases leads
      record := fun _ _ => rfl
      block := fun _ => rfl
      keys := fun {basinId} none_ streamName => by
        rw [Stores.streamMetadata_writeStream, if_neg]
        rintro ⟨rfl, _⟩
        exact none_ _ stored
      pastRecords := fun {other} uncached => by
        by_cases same : name = other
        · subst same
          exact Stores.loadsPastRecords_of_blank ((named name).trans (if_pos rfl)) blank
        · refine (logged.pastRecords uncached).kept ?_ fun _ _ => .refl _ _
          rw [named, if_neg same] }

/-- The first block of a stream is stored by the task that has made the stream. -/
theorem Logged.rewrites_block (logged : server.Logged MayFail initial) (owned : server.NamesOwned)
    {handle : BasinHandle} {metadata : StreamMetadata}
    (basin : server.basins name.1 = some handle)
    (locked : server.locks (.streamInit handle.address) = some id)
    (uncached : server.streams handle.address name.2 = none)
    (stage : (StreamStage.created metadata).Logged handle name server) :
    server.Rewrites id (server.stores.write
      [⟨metadata.blockKey, SequenceAllocator.default.allocation.serialise⟩] .recordStorage) := by
  rcases stage with ⟨leads, blank⟩
  have drawn := logged.separate.named_drawn leads
  have records {other : StreamMetadata} (different : metadata ≠ other) :
      SameRecords other server.stores.recordStorage (server.stores.write
        [⟨metadata.blockKey, SequenceAllocator.default.allocation.serialise⟩]
          .recordStorage).recordStorage := .insertBlock different _
  have record (other : StreamMetadata) (n : UInt64) : (server.stores.write
      [⟨metadata.blockKey, SequenceAllocator.default.allocation.serialise⟩]
        .recordStorage).recordStorage.get (other.recordKey n) =
          server.stores.recordStorage.get (other.recordKey n) :=
    (Contents.get_insert _ _ _ _).trans (if_neg (StreamMetadata.blockKey_ne_recordKey _ _ _))
  exact
    { separate := logged.separate.records rfl rfl fun other undrawn => by
        refine records ?_
        rintro rfl
        exact undrawn drawn
      named := fun leads => leads
      new := fun {other found} none_ leads => by
        change server.stores.named other.1 other.2 = some found at leads
        rw [none_] at leads
        cases leads
      record := record
      block := fun {other} elsewhere => by
        refine (records ?_).block
        rintro rfl
        exact elsewhere name leads ⟨handle, basin, locked⟩ (uncached_of_stream basin uncached)
      keys := fun _ _ => rfl
      pastRecords := fun {other} uncached => by
        by_cases same : name = other
        · subst same
          refine Stores.loadsPastRecords_of_block leads ?_ fun n =>
            (record metadata n).trans (blank.record n)
          exact (Contents.get_insert _ _ _ _).trans (if_pos rfl)
        · refine (logged.pastRecords uncached).kept rfl fun found leadsTo => records ?_
          rintro rfl
          exact same (logged.separate.named_injective owned.distinct leads leadsTo) }

theorem Rewrites.sameRecords (rewrites : server.Rewrites id stores) {metadata : StreamMetadata}
    (elsewhere : ∀ name : String × String, server.stores.named name.1 name.2 = some metadata →
      server.OpenedBy id name → ¬server.Uncached name) :
    SameRecords metadata server.stores.recordStorage stores.recordStorage :=
  ⟨rewrites.block elsewhere, rewrites.record metadata⟩

theorem Rewrites.log_eq (rewrites : server.Rewrites id stores) (name : String × String) :
    stores.log name = server.stores.log name := by
  cases leads : server.stores.named name.1 name.2 with
  | some metadata =>
      rw [Stores.log_of_named leads, Stores.log_of_named (rewrites.named leads)]
      exact Contents.log_kept (rewrites.record metadata)
  | none =>
      have empty : server.stores.log name = [] := by rw [Stores.log, leads]
      rw [empty]
      cases later : stores.named name.1 name.2 with
      | none => rw [Stores.log, later]
      | some metadata =>
          rw [Stores.log_of_named later]
          exact (rewrites.new leads later).stored.log_eq NumberedLog.ascending_nil

theorem Logged.rewrite (logged : server.Logged MayFail initial) (owned : server.NamesOwned)
    (rewrites : server.Rewrites id stores) : Logged MayFail initial { server with stores } where
  separate := rewrites.separate
  apart := logged.apart
  idle := logged.idle
  heard := logged.heard
  uncached uncached := ⟨rewrites.pastRecords uncached,
    (rewrites.log_eq _).trans (logged.uncached uncached).2⟩
  serves {name stream} cached := by
    rcases logged.serves cached with ⟨metadata, log, actor, phase, serves⟩
    refine ⟨metadata, log, actor, phase, serves.same serves.present
      (rewrites.named serves.named) (rewrites.sameRecords fun other leads _ uncached => ?_) rfl⟩
    have same := logged.separate.named_injective owned.distinct serves.named leads
    subst same
    exact uncached stream cached

theorem Rewrites.keepsLogs (rewrites : server.Rewrites id stores) :
    KeepsLogs id server { server with stores } where
  records elsewhere := rewrites.sameRecords fun name leads opened =>
    absurd opened (elsewhere name leads).2
  keys := rewrites.keys
  named := rewrites.named
  logs name := by
    refine ⟨[], ?_, fun _ _ _ _ => List.forall_mem_nil _⟩
    rw [List.append_nil]
    exact rewrites.log_eq name
  actors present := ⟨_, present, List.prefix_rfl, fun _ => rfl⟩
  replies replied := replied
  ordered _ _ unanswered _ replied := by
    change server.replies _ = _ at replied
    rw [unanswered] at replied
    cases replied
  alone unanswered _ replied _ := by
    change (server.replies _).isSome = true at replied
    rw [unanswered] at replied
    cases replied

/-! ## Calls to the caches -/

/-- A basin that has just got its handle has no streams in the cache. -/
theorem cached_placeBasin_iff (owned : server.NamesOwned) {basinName : String}
    {placed : BasinHandle} (uncached : server.basins basinName = none)
    (new : ∀ other basin, server.basins other = some basin → basin.address ≠ placed.address)
    (name : String × String) (stream : StreamHandle) :
    (server.placeBasin basinName placed).Cached name stream ↔ server.Cached name stream := by
  refine ⟨fun cached => ?_, NamesOwned.cached_placeBasin uncached placed⟩
  rcases cached with ⟨basin, found, cached⟩
  change Function.update server.basins basinName (some placed) name.1 = some basin at found
  by_cases same : name.1 = basinName
  · rw [same, Function.update_self] at found
    cases found
    rcases owned.streamPlaced cached with ⟨other, handle, earlier, address, _⟩
    exact absurd address (new other handle earlier)
  · rw [Function.update_of_ne same] at found
    exact ⟨basin, found, cached⟩

theorem cached_placeStream_or (owned : server.NamesOwned) {handle : BasinHandle}
    {placed : StreamHandle} (basin : server.basins name.1 = some handle)
    {other : String × String} {stream : StreamHandle}
    (cached : (server.placeStream handle.address name.2 placed).Cached other stream) :
    other = name ∧ stream = placed ∨ server.Cached other stream := by
  rcases cached with ⟨found, cached, stored⟩
  change server.basins other.1 = some found at cached
  change Function.update server.streams handle.address
    (Function.update (server.streams handle.address) name.2 (some placed)) found.address other.2 =
      some stream at stored
  by_cases sameBasin : found.address = handle.address
  · rw [sameBasin, Function.update_self] at stored
    by_cases same : other.2 = name.2
    · rw [same, Function.update_self] at stored
      exact .inl ⟨Prod.ext (owned.addresses cached basin sameBasin) same,
        (Option.some.inj stored).symm⟩
    · rw [Function.update_of_ne same] at stored
      exact .inr ⟨found, cached, sameBasin ▸ stored⟩
  · rw [Function.update_of_ne sameBasin] at stored
    exact .inr ⟨found, cached, stored⟩

/-- The actor of a stream that comes into the cache serves what the stores hold for it. -/
theorem Logged.placeStream (logged : server.Logged MayFail initial) (owned : server.NamesOwned)
    {handle : BasinHandle} {placed : StreamHandle} (basin : server.basins name.1 = some handle)
    (missing : server.streams handle.address name.2 = none)
    (stage : (StreamStage.spawned placed).Logged handle name server) :
    (server.placeStream handle.address name.2 placed).Logged MayFail initial where
  separate := logged.separate
  apart := logged.apart
  idle := logged.idle
  heard := logged.heard
  uncached uncached := logged.uncached fun stream cached =>
    uncached stream (NamesOwned.cached_placeStream placed missing cached)
  serves {other stream} cached := by
    rcases cached_placeStream_or owned basin cached with ⟨rfl, rfl⟩ | earlier
    · rcases stage with ⟨loaded, present, named, log, consistent⟩
      have same : log = initial other := by
        rw [← (logged.uncached (uncached_of_stream basin missing)).2, Stores.log_of_named named]
        exact (StoresLog.log_eq consistent.stored consistent.ascending).symm
      subst same
      refine ⟨loaded.metadata, initial other, .spawn stream.tx loaded, .waiting loaded, ?_⟩
      exact
        { present := present
          named := named
          actorLog := ⟨rfl, consistent.ascending, consistent.stored, rfl, consistent,
            (List.append_nil _).symm⟩
          heard := fun heard => by
            rcases logged.heard heard with ⟨actor, found, taken⟩
            rw [present] at found
            cases found
            exact absurd rfl taken
          inHand := nofun
          distinct := List.nodup_nil
          owed := fun waits => by
            rcases waits with hand | queued
            · cases hand
            · cases queued
          acknowledged := fun taken => nomatch taken }
    · rcases logged.serves earlier with ⟨metadata, log, actor, phase, serves⟩
      exact ⟨metadata, log, actor, phase,
        serves.same serves.present serves.named (.refl _ _) rfl⟩

/-! ## Calls to the actors -/

theorem given_spawn {stream : Stream} {tx : Nat} {command : StreamCommand}
    (given : (server.spawn name stream).Given tx command) : server.Given tx command := by
  rcases given with ⟨actor, present, member⟩
  rcases Nat.lt_or_ge tx server.actors.length with earlier | now
  · exact ⟨actor, (List.getElem?_append_left earlier).symm.trans present, member⟩
  · rw [SharedServer.spawn, List.getElem?_append_right now] at present
    rw [List.mem_singleton.mp (List.mem_of_getElem? present)] at member
    cases member

theorem Logged.spawn (logged : server.Logged MayFail initial) (name : String × String)
    (stream : Stream) :
    (server.spawn name stream).Logged MayFail initial where
  separate := logged.separate
  apart first second := logged.apart (given_spawn first) (given_spawn second)
  idle {tx actor} present := by
    rcases Nat.lt_or_ge tx server.actors.length with earlier | now
    · exact logged.idle ((List.getElem?_append_left earlier).symm.trans present)
    · have least : tx - server.actors.length < 1 := by
        rw [SharedServer.spawn, List.getElem?_append_right now] at present
        exact (List.getElem?_eq_some_iff.mp present).1
      have same : tx = server.actors.length := by omega
      rw [same, AppendLine.getElem?_spawn] at present
      cases present
      exact ⟨same.symm, fun _ => ⟨stream, rfl⟩⟩
  heard heard := by
    rcases logged.heard heard with ⟨actor, present, taken⟩
    exact ⟨actor, AppendLine.getElem?_spawn_of_some name present, taken⟩
  uncached := logged.uncached
  serves cached := by
    rcases logged.serves cached with ⟨metadata, log, actor, phase, serves⟩
    exact ⟨metadata, log, actor, phase,
      serves.same (AppendLine.getElem?_spawn_of_some name serves.present) serves.named (.refl _ _)
        rfl⟩

theorem KeepsLogs.spawn (id : Nat) (server : SharedServer) (name : String × String)
    (stream : Stream) : KeepsLogs id server (server.spawn name stream) :=
  .sameStores rfl rfl fun {_ actor} present =>
    ⟨actor, AppendLine.getElem?_spawn_of_some name present, List.prefix_rfl, fun _ => rfl⟩

section Enqueue

variable {tx : Nat} {actor : StreamActor} {command : ReplyId → StreamCommand}

theorem given_enqueue (present : server.actors[tx]? = some actor) {other : Nat}
    {given : StreamCommand} (is : (server.enqueue tx actor command).Given other given) :
    server.Given other given ∨ other = tx ∧ given = command server.nextReply := by
  rcases is with ⟨later, found, member⟩
  rcases Answering.present_set found with ⟨rfl, rfl⟩ | ⟨_, earlier⟩
  · rw [← List.append_assoc] at member
    rcases List.mem_append.mp member with before | last
    · exact .inl ⟨actor, present, before⟩
    · exact .inr ⟨rfl, List.mem_singleton.mp last⟩
  · exact .inl ⟨later, earlier, member⟩

theorem Answering.unanswered (answering : server.Answering) :
    server.replies server.nextReply = none := by
  cases found : server.replies server.nextReply with
  | none => rfl
  | some value =>
      rcases answering.replied found with ⟨command, sent, same, _⟩
      exact absurd (answering.issued sent) (same ▸ Nat.lt_irrefl _)

theorem Serves.enqueue {metadata : StreamMetadata} {base log : List Record} {phase : ActorPhase}
    (serves : server.Serves MayFail name tx metadata base log actor phase)
    (answering : server.Answering) (replyTx : ∀ id, (command id).replyTx = id) :
    (server.enqueue tx actor command).Serves MayFail name tx metadata base log
      { actor with queue := actor.queue ++ [command server.nextReply] } phase where
  present := List.getElem?_set_self (List.getElem?_eq_some_iff.mp serves.present).1
  named := serves.named
  actorLog := ⟨serves.actorLog.code, serves.actorLog.ascending, serves.actorLog.stored,
    serves.actorLog.holds⟩
  heard heard := by
    rcases serves.heard heard with ⟨position_le, before, after, atLeast⟩
    exact ⟨position_le, before, after, atLeast⟩
  inHand := serves.inHand
  distinct := by
    rw [← List.append_assoc, List.map_append, List.nodup_append]
    refine ⟨serves.distinct, List.pairwise_singleton _ _, fun earlier member now latest same => ?_⟩
    rcases List.mem_map.mp member with ⟨given, found, rfl⟩
    rw [List.map_singleton, List.mem_singleton, replyTx] at latest
    have issued := answering.issued (Given.sent ⟨actor, serves.present, found⟩)
    exact Nat.ne_of_lt issued (same.trans latest)
  owed {given} waits := by
    rcases waits with hand | queued
    · exact serves.owed (.inl hand)
    · rcases List.mem_append.mp queued with earlier | now
      · exact serves.owed (.inr earlier)
      · rw [List.mem_singleton.mp now, replyTx]
        exact answering.unanswered
  acknowledged := serves.acknowledged

theorem Logged.enqueue (logged : server.Logged MayFail initial) (answering : server.Answering)
    (present : server.actors[tx]? = some actor) (replyTx : ∀ id, (command id).replyTx = id) :
    (server.enqueue tx actor command).Logged MayFail initial where
  separate := logged.separate
  apart first second same := by
    rcases given_enqueue present first with earlier | ⟨rfl, rfl⟩
    · rcases given_enqueue present second with other | ⟨rfl, rfl⟩
      · exact logged.apart earlier other same
      · have issued := answering.issued earlier.sent
        rw [same, replyTx] at issued
        exact absurd issued (Nat.lt_irrefl _)
    · rcases given_enqueue present second with other | ⟨rfl, rfl⟩
      · have issued := answering.issued other.sent
        rw [← same, replyTx] at issued
        exact absurd issued (Nat.lt_irrefl _)
      · exact ⟨rfl, rfl⟩
  idle found := by
    rcases Answering.present_set found with ⟨rfl, rfl⟩ | ⟨_, earlier⟩
    · have held := logged.idle present
      exact held
    · exact logged.idle earlier
  heard heard := by
    rcases logged.heard heard with ⟨earlier, found, taken⟩
    by_cases same : tx = earlier.broadcaster
    · have inside := (List.getElem?_eq_some_iff.mp present).1
      rw [(logged.idle found).1] at same
      subst same
      rw [present] at found
      cases found
      exact ⟨_, List.getElem?_set_self inside, taken⟩
    · rw [(logged.idle found).1] at same
      exact ⟨earlier, (List.getElem?_set_ne same).trans found, taken⟩
  uncached := logged.uncached
  serves {other stream} cached := by
    rcases logged.serves cached with ⟨metadata, log, served, phase, serves⟩
    by_cases same : tx = stream.tx
    · subst same
      have equal := Option.some.inj (serves.present.symm.trans present)
      subst equal
      exact ⟨metadata, log, _, phase, serves.enqueue answering replyTx⟩
    · refine ⟨metadata, log, served, phase, ?_⟩
      exact serves.same ((List.getElem?_set_ne same).trans serves.present) serves.named
        (.refl _ _) rfl

theorem KeepsLogs.enqueue (id : Nat) (cached : server.Cached name ⟨tx⟩)
    (present : server.actors[tx]? = some actor) :
    KeepsLogs id server (server.enqueue tx actor command) := by
  refine .sameStores rfl rfl fun {other earlier} found => ?_
  by_cases same : tx = other
  · subst same
    have inside := (List.getElem?_eq_some_iff.mp present).1
    rw [present] at found
    cases found
    exact ⟨_, List.getElem?_set_self inside, List.prefix_rfl, fun none_ => absurd cached (none_ _)⟩
  · exact ⟨earlier, (List.getElem?_set_ne same).trans found, List.prefix_rfl, fun _ => rfl⟩

end Enqueue

end SharedServer

/-! ## Each call -/

namespace Standing

/-- What a call leads to, for the logs and for the task. -/
structure LogsReached (MayFail : StorageOp → Prop) (initial : String × String → List Record)
    (id : Nat) (name : String × String) (before after : SharedServer) (standing : Standing) :
    Prop where
  logged : after.Logged MayFail initial
  keeps : before.KeepsLogs id after
  knows : standing.Logged name after

variable {MayFail : StorageOp → Prop} {initial : String × String → List Record} {id : Nat}
  {call : ServerCall} {server after : SharedServer} {next : Standing}

theorem LogsReached.same (logged : server.Logged MayFail initial)
    (knows : next.Logged call.name after)
    (stores : after.stores = server.stores) (actors : after.actors = server.actors)
    (replies : after.replies = server.replies)
    (cached : ∀ name stream, after.Cached name stream ↔ server.Cached name stream) :
    LogsReached MayFail initial id call.name server after next :=
  ⟨logged.same stores actors replies cached, .sameActors stores replies actors, knows⟩

theorem LogsReached.stored (logged : server.Logged MayFail initial) (owned : server.NamesOwned)
    {stores : Stores} (rewrites : server.Rewrites id stores)
    (knows : next.Logged call.name { server with stores }) :
    LogsReached MayFail initial id call.name server { server with stores } next :=
  ⟨logged.rewrite owned rewrites, rewrites.keepsLogs, knows⟩

theorem logs_free {basin : Option BasinHandle} {stream : Option StreamHandle} {op : ServerOp}
    {answer : op.Answer} (logged : server.Logged MayFail initial) (answering : server.Answering)
    (facts : (free basin stream).Facts call.name server) (allowed : FreeCalls call basin stream op)
    (answers : server.Answers MayFail id call.name op answer after) :
    LogsReached MayFail initial id call.name server after (freeLearn basin stream op answer) := by
  have unchanged (name : String × String) (stream : StreamHandle) :
      server.Cached name stream ↔ server.Cached name stream := Iff.rfl
  cases op with
  | storage op =>
      rcases answers with ⟨stores, answers, rfl⟩
      rcases allowed.answers_eq answers with rfl
      exact .same logged trivial rfl rfl rfl unchanged
  | readBasins basinName =>
      rcases answers with ⟨rfl, rfl⟩
      unfold SharedServer.returned
      split <;> exact .same logged trivial rfl rfl rfl unchanged
  | lockBasinInit =>
      rcases answers with ⟨_, rfl⟩
      exact .same logged trivial rfl rfl rfl unchanged
  | readStreams handle streamName =>
      rcases answers with ⟨_, rfl⟩
      exact .same logged trivial rfl rfl rfl unchanged
  | lockStreamInit handle =>
      rcases answers with ⟨_, rfl⟩
      exact .same logged trivial rfl rfl rfl unchanged
  | send handle command =>
      rcases allowed with ⟨rfl, sends⟩
      cases answer with
      | none =>
          rcases answers with ⟨_, rfl⟩
          exact .same logged trivial rfl rfl rfl unchanged
      | some replyRx =>
          rcases answers with ⟨actor, present, _, _, _, rfl⟩
          exact ⟨logged.enqueue answering present sends.replyTx,
            .enqueue id (facts.2 handle rfl) present, trivial⟩
  | spawnFollower follower =>
      rcases answers with rfl
      exact .same logged trivial rfl rfl rfl unchanged
  | txSend tx item =>
      rcases answers with rfl
      exact .same logged trivial rfl rfl rfl unchanged
  | recv receiver =>
      rcases answers with ⟨_, _, _, rfl⟩
      exact .same logged trivial rfl rfl rfl unchanged
  | _ => exact allowed.elim

theorem logs_basinStorage {stage : BasinStage} {op : StorageOp} {answer : op.Answer}
    {stores : Stores} (logged : server.Logged MayFail initial) (owned : server.NamesOwned)
    (facts : stage.Knows call.name.1 server) (knows : stage.Logged server)
    (allowed : stage.Calls call.name.1 op)
    (answers : op.Answers MayFail server.stores answer stores) :
    LogsReached MayFail initial id call.name server { server with stores }
      (atBasin (stage.learn op answer)) := by
  cases stage with
  | uncached =>
      rcases allowed with rfl
      have same : stores = server.stores := by cases answer <;> exact answers.2
      subst same
      refine .stored logged owned (logged.rewrites_refl id) ?_
      change (BasinStage.loaded answer).Logged server
      unfold BasinStage.loaded
      split
      · trivial
      · split <;> trivial
      · trivial
  | missing =>
      rcases allowed with rfl
      rcases answers with ⟨undrawn, rfl⟩
      refine .stored logged owned (logged.rewrites_draw id answer) fun streamName => ?_
      change server.stores.streamMetadata answer streamName = none
      cases found : server.stores.streamMetadata answer streamName with
      | none => rfl
      | some metadata => exact absurd (logged.separate.basinDrawn found) undrawn
  | drawn basinId =>
      rcases allowed with rfl
      cases answer with
      | error error =>
          rcases answers with ⟨_, rfl⟩
          exact .stored logged owned (logged.rewrites_refl id) trivial
      | ok =>
          rcases answers with rfl
          exact .stored logged owned (logged.rewrites_basin id facts.2.1 knows) trivial
  | _ => exact allowed.elim

theorem logs_basin {stage : BasinStage} {op : ServerOp} {answer : op.Answer}
    (logged : server.Logged MayFail initial) (owned : server.NamesOwned)
    (facts : stage.Knows call.name.1 server) (knows : stage.Logged server)
    (allowed : BasinCalls call stage op)
    (answers : server.Answers MayFail id call.name op answer after) :
    LogsReached MayFail initial id call.name server after (basinLearn stage op answer) := by
  have unchanged (name : String × String) (stream : StreamHandle) :
      server.Cached name stream ↔ server.Cached name stream := Iff.rfl
  cases op with
  | storage op =>
      rcases answers with ⟨stores, answers, rfl⟩
      exact logs_basinStorage logged owned facts knows allowed answers
  | readBasins basinName =>
      rcases answers with ⟨_, rfl⟩
      cases answer <;> exact .same logged trivial rfl rfl rfl unchanged
  | newBasinHandle basin =>
      rcases answers with ⟨_, rfl⟩
      exact .same logged trivial rfl rfl rfl unchanged
  | insertBasin basinName handle =>
      rcases answers with rfl
      rcases allowed with ⟨rfl, rfl⟩
      exact .same logged trivial rfl rfl rfl
        (SharedServer.cached_placeBasin_iff owned facts.1 facts.2.2.2)
  | unlockBasinInit =>
      rcases answers with rfl
      cases stage <;> exact .same logged trivial rfl rfl rfl unchanged
  | _ => exact allowed.elim

theorem logs_streamStorage {handle : BasinHandle} {stage : StreamStage} {op : StorageOp}
    {answer : op.Answer} {stores : Stores} (logged : server.Logged MayFail initial)
    (owned : server.NamesOwned) (locked : server.locks (.streamInit handle.address) = some id)
    (basin : server.basins call.name.1 = some handle)
    (facts : stage.Knows handle call.name server) (knows : stage.Logged handle call.name server)
    (allowed : stage.Calls handle.basinId call.name.2 op)
    (answers : op.Answers MayFail server.stores answer stores) :
    LogsReached MayFail initial id call.name server { server with stores }
      (atStream handle (stage.learn handle.basinId op answer)) := by
  have stored := owned.basinStored basin
  cases stage with
  | uncached =>
      rcases allowed with rfl
      have same : stores = server.stores := by cases answer <;> exact answers.2
      subst same
      refine .stored logged owned (logged.rewrites_refl id) ?_
      rcases answer with error | _ | record
      · trivial
      · trivial
      · change (StreamStage.metadataLoaded (.ok (some record))).Logged handle call.name server
        rcases answers with ⟨read, _⟩
        rcases Option.map_eq_some_iff.mp read.symm with ⟨value, found, rfl⟩
        cases decoded : StreamMetadata.deserialise value with
        | error error =>
            simp only [StreamStage.metadataLoaded, decoded]
            trivial
        | ok metadata =>
            simp only [StreamStage.metadataLoaded, decoded]
            refine Stores.named_eq_some.mpr ⟨handle.basinId, stored, ?_⟩
            refine Option.bind_eq_some_iff.mpr ⟨value, found, ?_⟩
            rw [decoded]
            rfl
  | missing =>
      rcases allowed with rfl
      rcases answers with ⟨undrawn, rfl⟩
      refine .stored logged owned (logged.rewrites_draw id answer)
        ⟨List.mem_append_right _ List.mem_cons_self, fun other leads => ?_, ?_⟩
      · exact undrawn (logged.separate.streamDrawn leads)
      · exact logged.separate.blank undrawn
  | drawn streamId =>
      rcases allowed with rfl
      cases answer with
      | error error =>
          rcases answers with ⟨_, rfl⟩
          exact .stored logged owned (logged.rewrites_refl id) trivial
      | ok =>
          rcases answers with rfl
          refine .stored logged owned (logged.rewrites_stream owned id basin facts.2 knows)
            ⟨?_, knows.2.2⟩
          exact (Stores.named_writeStream owned.distinct stored _).trans (if_pos rfl)
  | named metadata =>
      rcases allowed with rfl
      have same : stores = server.stores := by cases answer <;> exact answers.2
      subst same
      refine .stored logged owned (logged.rewrites_refl id) ?_
      have own : metadata.basinId = handle.basinId := by
        rcases Stores.named_eq_some.mp knows with ⟨basinId, is, leads⟩
        rw [stored] at is
        cases is
        exact logged.separate.basin leads
      change (StreamStage.blockLoaded metadata answer).Logged handle call.name server
      unfold StreamStage.blockLoaded
      split
      · rename_i stream loaded
        have metadata_eq := Stores.metadata_of_loadResult loaded
        refine ⟨metadata_eq ▸ knows, ?_⟩
        cases answer with
        | error error => cases loaded
        | ok found =>
            rcases answers with ⟨rfl, _⟩
            rw [← own] at loaded
            exact logged.pastRecords (SharedServer.uncached_of_stream basin facts) metadata stream
              knows loaded
      · trivial
  | created metadata =>
      rcases allowed with rfl
      cases answer with
      | error error =>
          rcases answers with ⟨_, rfl⟩
          exact .stored logged owned (logged.rewrites_refl id) trivial
      | ok =>
          rcases answers with rfl
          refine .stored logged owned (logged.rewrites_block owned basin locked facts knows)
            ⟨knows.1, [], ?_⟩
          exact (AppendLine.ready_created knows.2.stored _).consistent
  | _ => exact allowed.elim

theorem logs_stream {handle : BasinHandle} {stage : StreamStage} {op : ServerOp}
    {answer : op.Answer} (logged : server.Logged MayFail initial) (owned : server.NamesOwned)
    (locked : server.locks (.streamInit handle.address) = some id)
    (basin : server.basins call.name.1 = some handle)
    (facts : stage.Knows handle call.name server) (knows : stage.Logged handle call.name server)
    (allowed : StreamCalls call handle stage op)
    (answers : server.Answers MayFail id call.name op answer after) :
    LogsReached MayFail initial id call.name server after (streamLearn handle stage op answer) := by
  have unchanged (name : String × String) (stream : StreamHandle) :
      server.Cached name stream ↔ server.Cached name stream := Iff.rfl
  cases op with
  | storage op =>
      rcases answers with ⟨stores, answers, rfl⟩
      exact logs_streamStorage logged owned locked basin facts knows allowed answers
  | readStreams other streamName =>
      rcases answers with ⟨_, rfl⟩
      cases answer <;> exact .same logged trivial rfl rfl rfl unchanged
  | spawn stream =>
      rcases answers with ⟨rfl, rfl⟩
      rcases allowed with rfl
      exact ⟨logged.spawn _ _, .spawn id server _ _, stream,
        AppendLine.getElem?_spawn server call.name stream, knows.1, knows.2⟩
  | insertStream other streamName stream =>
      rcases answers with rfl
      rcases allowed with ⟨rfl, rfl, rfl⟩
      exact ⟨logged.placeStream owned basin facts.1 knows, .sameActors rfl rfl rfl, trivial⟩
  | unlockStreamInit other =>
      rcases answers with rfl
      cases stage <;> exact .same logged trivial rfl rfl rfl unchanged
  | _ => exact allowed.elim

theorem logs_called {standing : Standing} {op : ServerOp} {answer : op.Answer}
    (logged : server.Logged MayFail initial) (owned : server.NamesOwned)
    (answering : server.Answering)
    (holds : standing.Holds id server) (facts : standing.Facts call.name server)
    (knows : standing.Logged call.name server) (allowed : standing.Calls call op)
    (answers : server.Answers MayFail id call.name op answer after) :
    LogsReached MayFail initial id call.name server after (standing.learn op answer) := by
  have unchanged (name : String × String) (stream : StreamHandle) :
      server.Cached name stream ↔ server.Cached name stream := Iff.rfl
  cases standing with
  | free basin stream => exact logs_free logged answering facts allowed answers
  | atBasin stage => exact logs_basin logged owned facts knows allowed answers
  | atStream handle stage =>
      have locked := (holds (.streamInit handle.address)).mpr rfl
      exact logs_stream logged owned locked facts.1 facts.2 knows allowed answers
  | waiting stream kind replyRx =>
      rcases allowed with rfl
      have same : after = server := by
        cases answer with
        | none => exact answers.2.2
        | some value => exact answers.2
      subst same
      refine .same logged ?_ rfl rfl rfl unchanged
      cases answer with
      | none => cases kind <;> trivial
      | some value =>
          cases kind with
          | append => cases value <;> trivial
          | read => cases value <;> trivial
          | subscribe => trivial
  | acknowledged replyRx ack => exact allowed.elim
  | failed =>
      rcases allowed with ⟨tx, item, rfl⟩
      rcases answers with rfl
      exact .same logged trivial rfl rfl rfl unchanged

end Standing

end Slatestreams
