import Slatestreams.ReplyDiscipline

/-! # Handles lead to stored names

A stream is in the metadata store before its handle is in the cache, so a task
that talks to a stream talks to one that the stores know, whatever has failed.
Its actor then never replies that the stream does not exist. -/

namespace Slatestreams

open Foundation

theorem SharedServer.Leaves.grows {id : Nat} {before after : SharedServer}
    (leaves : before.Leaves id after) : before.stores.Grows after.stores :=
  fun _ _ found => (leaves.metadata_grows found).1

/-! ## Stored names -/

/-- Once the metadata has been read or written, the store has it. -/
def StreamStage.Stored (basinId : U128) (streamName : String) (stores : Stores) :
    StreamStage → Prop
  | .named _ | .created _ | .loaded _ | .spawned _ =>
      ∃ metadata, stores.streamMetadata basinId streamName = some metadata
  | _ => True

def Standing.Stored (name : String × String) (server : SharedServer) : Standing → Prop
  | .atStream handle stage => stage.Stored handle.basinId name.2 server.stores
  | _ => True

theorem Standing.Stored.grows {name : String × String} {before after : SharedServer}
    {standing : Standing} (grows : before.stores.Grows after.stores)
    (stored : standing.Stored name before) : standing.Stored name after := by
  cases standing with
  | atStream handle stage =>
      cases stage with
      | named metadata => exact stored.imp fun _ found => grows.streamMetadata found
      | created metadata => exact stored.imp fun _ found => grows.streamMetadata found
      | loaded stream => exact stored.imp fun _ found => grows.streamMetadata found
      | spawned stream => exact stored.imp fun _ found => grows.streamMetadata found
      | _ => trivial
  | _ => trivial

namespace SharedServer

def HandlesStored (self : SharedServer) : Prop :=
  ∀ (name : String × String) (stream : StreamHandle), self.Cached name stream →
    ∃ metadata, self.stores.named name.1 name.2 = some metadata

namespace HandlesStored

variable {server after : SharedServer}

theorem start (stores : Stores) : (SharedServer.start stores).HandlesStored := by
  intro name stream cached
  rcases cached with ⟨basin, found, _⟩
  cases found

theorem of_caches (handles : server.HandlesStored) (basins : after.basins = server.basins)
    (streams : after.streams = server.streams) (grows : server.stores.Grows after.stores) :
    after.HandlesStored := by
  intro name stream cached
  have earlier : server.Cached name stream := by
    rcases cached with ⟨basin, found, placed⟩
    exact ⟨basin, basins ▸ found, streams ▸ placed⟩
  exact (handles name stream earlier).imp fun _ found => grows.named found

/-- A new basin handle has no streams yet. -/
theorem placeBasin (handles : server.HandlesStored) (owned : server.NamesOwned)
    {basinName : String} {placed : BasinHandle}
    (new : ∀ other handle, server.basins other = some handle → handle.address ≠ placed.address) :
    (server.placeBasin basinName placed).HandlesStored := by
  intro name stream cached
  rcases cached with ⟨basin, found, stored⟩
  change Function.update server.basins basinName (some placed) name.1 = some basin at found
  by_cases same : name.1 = basinName
  · subst same
    rw [Function.update_self] at found
    cases found
    rcases owned.streamPlaced stored with ⟨other, handle, basin, address, _⟩
    exact absurd address (new other handle basin)
  · rw [Function.update_of_ne same] at found
    exact handles name stream ⟨basin, found, stored⟩

theorem placeStream (handles : server.HandlesStored) (owned : server.NamesOwned)
    {name : String × String} {handle : BasinHandle}
    (basin : server.basins name.1 = some handle)
    (stored : ∃ metadata, server.stores.streamMetadata handle.basinId name.2 = some metadata)
    (placed : StreamHandle) :
    (server.placeStream handle.address name.2 placed).HandlesStored := by
  intro other stream cached
  rcases cached with ⟨owner, found, inside⟩
  by_cases address : owner.address = handle.address
  · by_cases same : other.2 = name.2
    · have names : other.1 = name.1 := owned.addresses found basin address
      rcases stored with ⟨metadata, stored⟩
      refine ⟨metadata, Option.bind_eq_some_iff.mpr ⟨handle.basinId, ?_, ?_⟩⟩
      · rw [names]
        exact owned.basinStored basin
      · rw [same]
        exact stored
    · change Function.update server.streams handle.address _ owner.address other.2 = _ at inside
      rw [address, Function.update_self, Function.update_of_ne same, ← address] at inside
      exact handles other stream ⟨owner, found, inside⟩
  · change Function.update server.streams handle.address _ owner.address other.2 = _ at inside
    rw [Function.update_of_ne address] at inside
    exact handles other stream ⟨owner, found, inside⟩

end HandlesStored

end SharedServer

/-! ## Errors in replies -/

/-- The error, if there is one, is not that the stream does not exist. -/
def ReplyKind.Exists : (kind : ReplyKind) → kind.Value → Prop
  | .append, .error error | .read, .error error => ∀ missing, error ≠ .streamDoesNotExist missing
  | _, _ => True

def ActorOp.RepliesExist : ActorOp → Prop
  | .reply kind _ value => kind.Exists value
  | _ => True

theorem Stream.readResult_exists (answer : Except StorageError (Option StorageRecord)) :
    ReplyKind.read.Exists (Stream.readResult answer) := by
  rcases answer with error | _ | record
  · intro missing is
    cases is
  · trivial
  · cases decoded : Record.deserialise record.value with
    | error error =>
        simp only [Stream.readResult, decoded]
        intro missing is
        cases is
    | ok streamRecord =>
        simp only [Stream.readResult, decoded]
        trivial

theorem ActorPhase.exists_answerCode (stream : Stream) {command : StreamCommand}
    {value : command.kind.Value} (exists_ : command.kind.Exists value) :
    (answerCode stream command value).Only ActorOp.RepliesExist :=
  ⟨exists_, fun _ => trivial⟩

theorem StreamActor.exists_handle (stream : Stream) (command : StreamCommand) :
    (StreamActor.handle stream command).Only ActorOp.RepliesExist := by
  rcases ActorPhase.handle_begins stream command with ⟨phase, is, begins⟩
  rw [is]
  cases begins with
  | append draws =>
      refine ⟨trivial, fun answer => ?_⟩
      cases answer with
      | ok => exact ⟨trivial, fun _ => ActorPhase.exists_answerCode _ trivial⟩
      | error error => exact ActorPhase.exists_answerCode _ fun _ => nofun
  | overflow => trivial
  | read => exact ⟨trivial, fun _ => ActorPhase.exists_answerCode _ (Stream.readResult_exists _)⟩
  | subscribe => exact ⟨trivial, fun _ => ActorPhase.exists_answerCode _ trivial⟩

namespace SharedServer

structure RepliesExist (server : SharedServer) : Prop where
  bodies {tx : Nat} {actor : StreamActor} : server.actors[tx]? = some actor →
    actor.code.Only ActorOp.RepliesExist
  replied {replyRx : ReplyId} {value : Sigma ReplyKind.Value} :
    server.replies replyRx = some value → value.1.Exists value.2

namespace RepliesExist

variable {server after : SharedServer}

theorem start (stores : Stores) : (SharedServer.start stores).RepliesExist where
  bodies present := nomatch present
  replied found := nomatch found

theorem of_actors (exist : server.RepliesExist) (actors : after.actors = server.actors)
    (replies : after.replies = server.replies) : after.RepliesExist where
  bodies present := exist.bodies (actors ▸ present)
  replied found := exist.replied (replies ▸ found)

theorem set (exist : server.RepliesExist) {tx : Nat} {next : StreamActor}
    (only : next.code.Only ActorOp.RepliesExist) (stores : Stores) {replies : Replies}
    (replied : ∀ replyRx value, replies replyRx = some value → value.1.Exists value.2) :
    RepliesExist { server with stores, actors := server.actors.set tx next, replies } where
  bodies {other actor} present := by
    by_cases same : tx = other
    · subst same
      rw [List.getElem?_set_self'] at present
      rcases Option.map_eq_some_iff.mp present with ⟨_, _, rfl⟩
      exact only
    · rw [List.getElem?_set_ne same] at present
      exact exist.bodies present
  replied found := replied _ _ found

theorem spawn (exist : server.RepliesExist) (name : String × String) (stream : Stream) :
    (server.spawn name stream).RepliesExist where
  bodies {tx actor} present := by
    rcases List.mem_append.mp (List.mem_of_getElem? present) with earlier | new
    · rcases List.mem_iff_getElem?.mp earlier with ⟨_, present⟩
      exact exist.bodies present
    · rw [List.mem_singleton.mp new]
      trivial
  replied := exist.replied

theorem moves {MayFail : StorageOp → Prop} (exist : server.RepliesExist)
    (moves : server.Moves MayFail after) : after.RepliesExist := by
  cases moves with
  | actor present taken =>
      have bodies := exist.bodies present
      have same : ∀ replyRx value, server.replies replyRx = some value → value.1.Exists value.2 :=
        fun _ _ => exist.replied
      cases taken with
      | recv waits queued => exact exist.set (StreamActor.exists_handle _ _) _ same
      | storage calls answers =>
          rw [calls] at bodies
          exact exist.set (bodies.2 _) _ same
      | broadcast calls =>
          rw [calls] at bodies
          exact exist.set (bodies.2 _) _ same
      | subscribe calls =>
          rw [calls] at bodies
          exact exist.set (bodies.2 _) _ same
      | reply calls =>
          rw [calls] at bodies
          refine exist.set (bodies.2 _) _ fun replyRx found is => ?_
          rw [ActorEffect.deliver_replied] at is
          split at is
          · cases is
            exact bodies.1
          · exact exist.replied is

theorem answers {MayFail : StorageOp → Prop} {id : Nat} {name : String × String} {op : ServerOp}
    {answer : op.Answer} (exist : server.RepliesExist)
    (answers : server.Answers MayFail id name op answer after) : after.RepliesExist := by
  cases op with
  | storage op =>
      rcases answers with ⟨stores, _, rfl⟩
      exact exist.of_actors rfl rfl
  | readBasins basinName =>
      rcases answers with ⟨_, rfl⟩
      unfold SharedServer.returned
      split <;> exact exist.of_actors rfl rfl
  | spawn stream =>
      rcases answers with ⟨_, rfl⟩
      exact exist.spawn name stream
  | send handle command =>
      cases answer with
      | none =>
          rcases answers with ⟨_, rfl⟩
          exact exist
      | some replyRx =>
          rcases answers with ⟨actor, present, _, _, _, rfl⟩
          have only := exist.bodies present
          have queued := @RepliesExist.set server exist handle.tx
            { actor with queue := actor.queue ++ [command server.nextReply] }
            only server.stores server.replies fun _ _ => exist.replied
          exact queued.of_actors rfl rfl
  | receive kind replyRx =>
      cases answer with
      | none =>
          rcases answers with ⟨_, _, rfl⟩
          exact exist
      | some value =>
          rcases answers with ⟨_, rfl⟩
          exact exist
  | recv receiver =>
      rcases answers with ⟨_, _, _, rfl⟩
      exact exist
  | readStreams handle streamName =>
      rcases answers with ⟨_, rfl⟩
      exact exist
  | newBasinHandle basin =>
      rcases answers with ⟨_, rfl⟩
      exact exist.of_actors rfl rfl
  | lockBasinInit =>
      rcases answers with ⟨_, rfl⟩
      exact exist.of_actors rfl rfl
  | lockStreamInit handle =>
      rcases answers with ⟨_, rfl⟩
      exact exist.of_actors rfl rfl
  | _ =>
      rcases answers with rfl
      exact exist.of_actors rfl rfl

end RepliesExist

end SharedServer

/-! ## The discipline of stored names -/

namespace Standing

variable {MayFail : StorageOp → Prop} {id : Nat} {call : ServerCall} {server after : SharedServer}
  {standing : Standing} {op : ServerOp} {answer : op.Answer}

theorem stored_streamStorage {handle : BasinHandle} {stage : StreamStage} {op : StorageOp}
    {answer : op.Answer} {stores : Stores}
    (stored : stage.Stored handle.basinId call.name.2 server.stores)
    (allowed : stage.Calls handle.basinId call.name.2 op)
    (answers : op.Answers MayFail server.stores answer stores) :
    (stage.learn handle.basinId op answer).Stored handle.basinId call.name.2 stores := by
  cases stage with
  | uncached =>
      rcases allowed with rfl
      rcases answer with error | _ | record
      · trivial
      · trivial
      · rcases answers with ⟨read, rfl⟩
        change (StreamStage.metadataLoaded (.ok (some record))).Stored _ _ _
        cases decoded : StreamMetadata.deserialise record.value with
        | error error =>
            simp only [StreamStage.metadataLoaded, decoded]
            trivial
        | ok metadata =>
            simp only [StreamStage.metadataLoaded, decoded]
            rcases Option.map_eq_some_iff.mp read.symm with ⟨value, found, rfl⟩
            refine ⟨metadata, Option.bind_eq_some_iff.mpr ⟨value, found, ?_⟩⟩
            rw [decoded]
            rfl
  | missing =>
      rcases allowed with rfl
      trivial
  | drawn streamId =>
      rcases allowed with rfl
      cases answer with
      | error error => trivial
      | ok =>
          rcases answers with rfl
          let metadata : StreamMetadata := ⟨handle.basinId, streamId⟩
          refine ⟨metadata, Option.bind_eq_some_iff.mpr ⟨metadata.serialise, ?_, ?_⟩⟩
          · exact (Stores.get_metaStorage _ _ _).trans (if_pos rfl)
          · rw [StreamMetadata.deserialise_serialise]
            rfl
  | named metadata =>
      rcases allowed with rfl
      have same : stores = server.stores := by cases answer <;> exact answers.2
      subst same
      change (StreamStage.blockLoaded metadata answer).Stored _ _ _
      unfold StreamStage.blockLoaded
      split
      · exact stored
      · trivial
  | created metadata =>
      rcases allowed with rfl
      cases answer with
      | error error => trivial
      | ok =>
          rcases answers with rfl
          exact stored
  | _ => exact allowed.elim

theorem stored_learn (stored : standing.Stored call.name server)
    (allowed : standing.Calls call op)
    (answers : server.Answers MayFail id call.name op answer after) :
    (standing.learn op answer).Stored call.name after := by
  cases standing with
  | free basin stream =>
      cases op with
      | send handle command => cases answer <;> trivial
      | _ => trivial
  | atBasin stage =>
      cases op with
      | readBasins basinName => cases answer <;> trivial
      | unlockBasinInit => cases stage <;> trivial
      | _ => trivial
  | atStream handle stage =>
      cases op with
      | storage op =>
          rcases answers with ⟨stores, answers, rfl⟩
          exact stored_streamStorage stored allowed answers
      | readStreams other streamName => cases answer <;> trivial
      | spawn stream =>
          rcases answers with ⟨_, rfl⟩
          rcases allowed with rfl
          exact stored
      | unlockStreamInit other => cases stage <;> trivial
      | insertStream other streamName stream => trivial
      | _ => exact allowed.elim
  | waiting stream kind replyRx =>
      rcases allowed with rfl
      cases answer with
      | none => cases kind <;> trivial
      | some value =>
          cases kind with
          | append => cases value <;> trivial
          | read => cases value <;> trivial
          | subscribe => trivial
  | acknowledged replyRx ack => trivial
  | failed => trivial

theorem handles_learn (owned : server.NamesOwned) (handles : server.HandlesStored)
    (holds : standing.Holds id server) (facts : standing.Facts call.name server)
    (stored : standing.Stored call.name server) (allowed : standing.Calls call op)
    (answers : server.Answers MayFail id call.name op answer after) : after.HandlesStored := by
  have grows := (reached owned holds facts allowed answers).leaves.grows
  cases op with
  | storage op =>
      rcases answers with ⟨stores, _, rfl⟩
      exact handles.of_caches rfl rfl grows
  | readBasins basinName =>
      rcases answers with ⟨rfl, rfl⟩
      have same : (server.returned basinName (server.basins basinName)).basins = server.basins ∧
          (server.returned basinName (server.basins basinName)).streams = server.streams := by
        unfold SharedServer.returned
        split <;> exact ⟨rfl, rfl⟩
      exact handles.of_caches same.1 same.2 grows
  | insertBasin basinName handle =>
      rcases answers with rfl
      cases standing with
      | atBasin stage =>
          rcases allowed with ⟨rfl, rfl⟩
          exact handles.placeBasin owned facts.2.2.2
      | waiting stream kind replyRx => cases allowed
      | failed =>
          rcases allowed with ⟨_, _, is⟩
          cases is
      | _ => exact allowed.elim
  | insertStream other streamName stream =>
      rcases answers with rfl
      cases standing with
      | atStream handle stage =>
          rcases allowed with ⟨rfl, rfl, rfl⟩
          exact handles.placeStream owned facts.1 stored stream
      | waiting stream kind replyRx => cases allowed
      | failed =>
          rcases allowed with ⟨_, _, is⟩
          cases is
      | _ => exact allowed.elim
  | send handle command =>
      cases answer with
      | none =>
          rcases answers with ⟨_, rfl⟩
          exact handles
      | some replyRx =>
          rcases answers with ⟨_, _, _, _, _, rfl⟩
          exact handles.of_caches rfl rfl grows
  | receive kind replyRx =>
      cases answer with
      | none =>
          rcases answers with ⟨_, _, rfl⟩
          exact handles
      | some value =>
          rcases answers with ⟨_, rfl⟩
          exact handles
  | recv receiver =>
      rcases answers with ⟨_, _, _, rfl⟩
      exact handles
  | readStreams handle streamName =>
      rcases answers with ⟨_, rfl⟩
      exact handles
  | newBasinHandle basin =>
      rcases answers with ⟨_, rfl⟩
      exact handles.of_caches rfl rfl grows
  | spawn stream =>
      rcases answers with ⟨_, rfl⟩
      exact handles.of_caches rfl rfl grows
  | lockBasinInit =>
      rcases answers with ⟨_, rfl⟩
      exact handles.of_caches rfl rfl grows
  | lockStreamInit handle =>
      rcases answers with ⟨_, rfl⟩
      exact handles.of_caches rfl rfl grows
  | unlockBasinInit =>
      rcases answers with rfl
      exact handles.of_caches rfl rfl grows
  | unlockStreamInit handle =>
      rcases answers with rfl
      exact handles.of_caches rfl rfl grows
  | spawnFollower follower =>
      rcases answers with rfl
      exact handles.of_caches rfl rfl grows
  | txSend tx item =>
      rcases answers with rfl
      exact handles

end Standing

/-- The names of streams, as the tasks that open streams have seen them stored. -/
def storing : Discipline.Addition ServerCall SharedServer Standing where
  Holds server := server.HandlesStored ∧ server.RepliesExist
  Knows call standing server := standing.Stored call.name server
  Leaves before after := before.stores.Grows after.stores

theorem keeps_storing (MayFail : StorageOp → Prop) (MayDrop : ServerOp → Prop)
    (MayRestart : Prop) :
    nameDiscipline.KeepsMore (SharedServer.environment MayFail MayDrop MayRestart) storing where
  refl _ := .refl _
  known grows stored := stored.grows grows
  started {id origin code history after} owned held idle starts := by
    rcases starts.asks owned idle with ⟨basin, stream, locks, facts, meets⟩
    have same : after = { history.shared with spawned := after.spawned } := by
      cases starts <;> rfl
    have grows : history.shared.stores.Grows after.stores := by
      rw [same]
      exact .refl _
    have handles : after.HandlesStored := by
      rw [same]
      exact held.1.of_caches rfl rfl (.refl _)
    have exist : after.RepliesExist := by
      rw [same]
      exact held.2.of_actors rfl rfl
    exact ⟨⟨handles, exist⟩, grows, .free basin stream, ⟨locks, facts⟩, trivial, meets⟩
  called owned held knows stored allowed answers :=
    ⟨⟨Standing.handles_learn owned held.1 knows.1 knows.2 stored allowed answers,
      held.2.answers answers⟩,
      (Standing.reached owned knows.1 knows.2 allowed answers).leaves.grows,
      Standing.stored_learn stored allowed answers⟩
  released _ _ held :=
    ⟨⟨held.1.of_caches rfl rfl (.refl _), held.2.of_actors rfl rfl⟩, .refl _⟩
  moved {history after} owned held moves := by
    have grows : history.shared.stores.Grows after.stores := (moves.leaves owned 0).grows
    refine ⟨⟨?_, held.2.moves moves⟩, grows⟩
    cases moves with
    | actor present taken => exact held.1.of_caches rfl rfl grows
  reset _ _ resets := by
    rcases resets with ⟨_, rfl⟩
    exact ⟨.start _, .start _⟩

def storedDiscipline : Discipline server ServerCall ServerResult SharedServer Standing :=
  nameDiscipline.also storing

theorem storedDiscipline_keeps (MayFail : StorageOp → Prop) (MayDrop : ServerOp → Prop)
    (MayRestart : Prop) :
    storedDiscipline.Keeps (SharedServer.environment MayFail MayDrop MayRestart)
      fun _ => True :=
  (nameDiscipline_keeps MayFail MayDrop MayRestart).also (keeps_storing _ _ _)

namespace ServerPool

variable {MayFail : StorageOp → Prop} {MayDrop : ServerOp → Prop} {MayRestart : Prop}
  {stores : Stores} {first last : ServerPool} {events : List ServerEvent}

theorem stored_start (distinct : stores.Distinct) (new : stores.journal = []) :
    storedDiscipline.Orderly [] (start stores) where
  holds := ⟨.start distinct (.of_new new), .start stores, .start stores⟩
  follows found := nomatch found
  idle _ _ := nofun

/-- Metadata only grows, over failures and restarts. -/
theorem metadata_grows {past : List ServerEvent} (orderly : storedDiscipline.Orderly past first)
    (run : Run (Pool.Step (SharedServer.environment MayFail MayDrop MayRestart)) first events last) :
    first.shared.stores.Grows last.shared.stores := by
  refine orderly.kept (storedDiscipline_keeps MayFail MayDrop MayRestart) (fun _ => trivial)
    (fun shared => first.shared.stores.Grows shared.stores) ?_ ?_ run trivial (.refl _)
  · intro id history after changes grows
    exact grows.trans changes.2
  · intro shared after resets grows
    rcases resets with ⟨_, rfl⟩
    exact grows

end ServerPool

end Slatestreams
