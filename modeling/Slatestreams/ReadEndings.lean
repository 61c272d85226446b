import Slatestreams.Client
import Slatestreams.NamesStored

/-! # How readings end

A task that follows a stream sends records until it ends, and ends after an
error, when its client has gone, or when the actor of the stream has panicked. -/

namespace Slatestreams

open Foundation

/-! ## What a task has sent -/

/-- The items that a task has put into its channel, whether the client had closed the
channel, and the broadcast that the task has found closed. -/
structure Sent where
  items : List (Except ControllerError Record)
  refused : Bool
  closed : Option Nat

namespace Sent

def nothing : Sent := ⟨[], false, none⟩

def learn (self : Sent) : (op : ServerOp) → op.Answer → Sent
  | .txSend _ item, .ok () => { self with items := self.items ++ [item] }
  | .txSend _ _, .error () => { self with refused := true }
  | .recv receiver, (.error .closed, _) => { self with closed := some receiver.broadcaster }
  | _, _ => self

def after (id : Nat) (self : Sent) : ServerEvent → Sent
  | .started other _ => if other = id then nothing else self
  | .called other op answer => if other = id then self.learn op answer else self
  | _ => self

/-- What the task with the id has sent since it was last started. -/
def of (id : Nat) (events : List ServerEvent) : Sent := events.foldl (after id) nothing

theorem of_snoc (id : Nat) (events : List ServerEvent) (event : ServerEvent) :
    of id (events ++ [event]) = (of id events).after id event := by
  rw [of, List.foldl_append]
  rfl

theorem of_started (id : Nat) (events : List ServerEvent) (call : ServerCall) :
    of id (events ++ [.started id call]) = nothing := by
  rw [of_snoc]
  exact if_pos rfl

theorem of_called (id : Nat) (events : List ServerEvent) (op : ServerOp) (answer : op.Answer) :
    of id (events ++ [.called id op answer]) = (of id events).learn op answer := by
  rw [of_snoc]
  exact if_pos rfl

theorem of_other {id : Nat} {events : List ServerEvent} {event : ServerEvent}
    (apart : event.task ≠ some id) : of id (events ++ [event]) = of id events := by
  rw [of_snoc]
  have different {other : Nat} (about : event.task = some other) : other ≠ id :=
    fun same => apart (about.trans (congrArg some same))
  cases event with
  | started other call => exact if_neg (different rfl)
  | called other op answer => exact if_neg (different rfl)
  | _ => rfl

/-- Nothing but records has been sent, and there is more to come. -/
def Open (self : Sent) : Prop :=
  (∃ records : List Record, self.items = records.map Except.ok) ∧ self.refused = false ∧
    self.closed = none

/-- The errors that a reading can end with. -/
def Fails (error : ControllerError) : Prop :=
  (controllerErrorToStatus error).code = .internal ∨
    (controllerErrorToStatus error).code = .resourceExhausted

inductive Over (self : Sent) : Prop where
  | refused : self.refused = true → Over self
  | failed (records : List Record) (error : ControllerError) :
      self.items = records.map Except.ok ++ [.error error] → Fails error → Over self
  | closed (records : List Record) (broadcaster : Nat) :
      self.items = records.map Except.ok → self.closed = some broadcaster → Over self

theorem open_nothing : nothing.Open := ⟨⟨[], rfl⟩, rfl, rfl⟩

theorem Open.record {self : Sent} (isOpen : self.Open) (tx : Nat) (record : Record) :
    (self.learn (.txSend tx (.ok record)) (.ok ())).Open := by
  rcases isOpen with ⟨⟨records, items⟩, kept⟩
  refine ⟨⟨records ++ [record], ?_⟩, kept⟩
  change self.items ++ [.ok record] = _
  rw [items, List.map_append]
  rfl

theorem Open.error {self : Sent} (isOpen : self.Open) (tx : Nat) {error : ControllerError}
    (fails : Fails error) (answer : Except Unit Unit) :
    (self.learn (.txSend tx (.error error)) answer).Over := by
  rcases isOpen with ⟨⟨records, items⟩, _⟩
  cases answer with
  | error => exact .refused rfl
  | ok =>
      refine .failed records error ?_ fails
      change self.items ++ [.error error] = _
      rw [items]

end Sent

/-! ## The discipline of sending -/

namespace Follower

/-- A turn ends with the task over, or with more to send. -/
def Turned (sent : Sent) : Option Receiver → Prop
  | some _ => sent.Open
  | none => sent.Over

def Ends (sent : Sent) : ServerCall → ServerResult → Prop
  | .follow _ _ _, .turned receiver => Turned sent receiver
  | _, _ => True

/-- The actors of streams that exist do not reply that theirs does not. -/
def protocol : Program.Protocol server Sent where
  Allowed _ _ := True
  MayPanic _ := True
  Possible _ op answer :=
    match op, answer with
    | .receive .read _, some (.error error) => ∀ missing, error ≠ .streamDoesNotExist missing
    | _, _ => True
  learn := Sent.learn

theorem meets_always {α : Type} {post : Sent → α → Prop} (always : ∀ sent value, post sent value)
    (program : Program server α) (sent : Sent) : program.Meets protocol post sent := by
  induction program generalizing sent with
  | done value => exact always sent value
  | panic message => trivial
  | call op next induction => exact ⟨trivial, fun answer _ => induction answer _⟩

variable {follower : Follower} {sent : Sent}

theorem meets_backfill (isOpen : sent.Open) (tx : Nat) (seqNum : UInt64) (count : Nat) :
    (follower.backfill tx seqNum count).Meets protocol Turned sent := by
  induction count generalizing sent seqNum with
  | zero => exact isOpen
  | succ count induction =>
      refine ⟨trivial, fun sent _ => ?_⟩
      cases sent with
      | none => exact ⟨trivial, fun answer _ => isOpen.error tx (.inl rfl) answer⟩
      | some replyRx =>
          refine ⟨trivial, fun answer possible => ?_⟩
          rcases answer with _ | error | _ | record
          · exact ⟨trivial, fun answer _ => isOpen.error tx (.inl rfl) answer⟩
          · have fails : Sent.Fails (.stream error) := by
              cases error with
              | streamDoesNotExist missing => exact absurd rfl (possible missing)
              | _ => exact .inl rfl
            exact ⟨trivial, fun answer _ => isOpen.error tx fails answer⟩
          · exact induction isOpen (seqNum + 1)
          · refine ⟨trivial, fun answer _ => ?_⟩
            cases answer with
            | error error => exact .refused rfl
            | ok => exact induction (isOpen.record tx record) (seqNum + 1)

theorem meets_live (isOpen : sent.Open) (tx : Nat) (receiver : Receiver) :
    (follower.live tx receiver).Meets protocol Turned sent := by
  refine ⟨trivial, fun answer _ => ?_⟩
  rcases answer with ⟨error | record, later⟩
  · cases error with
    | lagged => exact ⟨trivial, fun answer _ => isOpen.error tx (.inr rfl) answer⟩
    | closed =>
        rcases isOpen with ⟨⟨records, items⟩, _⟩
        exact .closed records receiver.broadcaster items rfl
  · simp only [Program.bind_done]
    split
    · refine ⟨trivial, fun answer _ => ?_⟩
      cases answer with
      | error error => exact .refused rfl
      | ok => exact isOpen.record tx record
    · exact isOpen

theorem meets_turn {basinName streamName : String} {program : Program server (Option Receiver)}
    (meets : program.Meets protocol Turned sent) :
    (program.bind fun receiver => .done (.turned receiver)).Meets protocol
      (fun sent value => Ends sent (.follow basinName streamName follower) value) sent :=
  Program.Meets.bind (meets.weaken fun _ _ turned => turned)

end Follower

/-! ## Stopped actors -/

namespace SharedServer

/-- The actor behind a handle has panicked. -/
def Stopped (self : SharedServer) (tx : Nat) : Prop :=
  ∃ actor, self.actors[tx]? = some actor ∧ actor.running = false

/-- An actor that has panicked never runs again. -/
def KeepsStopped (before after : SharedServer) : Prop :=
  ∀ tx, before.Stopped tx → after.Stopped tx

theorem KeepsStopped.of_actors {before after : SharedServer}
    (actors : after.actors = before.actors) : KeepsStopped before after := by
  intro tx stopped
  unfold Stopped
  rw [actors]
  exact stopped

theorem KeepsStopped.set {before after : SharedServer} {tx : Nat} {actor next : StreamActor}
    (present : before.actors[tx]? = some actor)
    (kept : actor.running = false → next.running = false)
    (actors : after.actors = before.actors.set tx next) : KeepsStopped before after := by
  intro other stopped
  rcases stopped with ⟨panicked, found, stopped⟩
  unfold Stopped
  rw [actors]
  by_cases same : tx = other
  · subst same
    rw [present] at found
    cases found
    exact ⟨next, List.getElem?_set_self (List.getElem?_eq_some_iff.mp present).1, kept stopped⟩
  · exact ⟨panicked, (List.getElem?_set_ne same).trans found, stopped⟩

theorem Moves.keepsStopped {MayFail : StorageOp → Prop} {self after : SharedServer}
    (moves : self.Moves MayFail after) : KeepsStopped self after := by
  cases moves with
  | actor present taken =>
      refine .set present (fun stopped => ?_) rfl
      unfold StreamActor.running at stopped
      cases taken with
      | recv waits => simp [waits] at stopped
      | storage calls => simp [calls] at stopped
      | broadcast calls => simp [calls] at stopped
      | subscribe calls => simp [calls] at stopped
      | reply calls => simp [calls] at stopped

theorem Answers.keepsStopped {MayFail : StorageOp → Prop} {id : Nat} {name : String × String}
    {self after : SharedServer} {op : ServerOp} {answer : op.Answer}
    (answers : self.Answers MayFail id name op answer after) : KeepsStopped self after := by
  cases op with
  | storage op =>
      rcases answers with ⟨stores, _, rfl⟩
      exact .of_actors rfl
  | readBasins basinName =>
      rcases answers with ⟨_, rfl⟩
      unfold SharedServer.returned
      split <;> exact .of_actors rfl
  | spawn stream =>
      rcases answers with ⟨_, rfl⟩
      rintro tx ⟨actor, present, stopped⟩
      exact ⟨actor, List.getElem?_append_left (List.getElem?_eq_some_iff.mp present).1 ▸ present,
        stopped⟩
  | send handle command =>
      cases answer with
      | none =>
          rcases answers with ⟨_, rfl⟩
          exact .of_actors rfl
      | some replyRx =>
          rcases answers with ⟨actor, present, _, _, _, rfl⟩
          exact @KeepsStopped.set self _ handle.tx actor
            { actor with queue := actor.queue ++ [command self.nextReply] } present
            (fun stopped => stopped) rfl
  | receive kind replyRx =>
      cases answer with
      | none =>
          rcases answers with ⟨_, _, rfl⟩
          exact .of_actors rfl
      | some value =>
          rcases answers with ⟨_, rfl⟩
          exact .of_actors rfl
  | recv receiver =>
      rcases answers with ⟨_, _, _, rfl⟩
      exact .of_actors rfl
  | readStreams handle streamName =>
      rcases answers with ⟨_, rfl⟩
      exact .of_actors rfl
  | newBasinHandle basin =>
      rcases answers with ⟨_, rfl⟩
      exact .of_actors rfl
  | lockBasinInit =>
      rcases answers with ⟨_, rfl⟩
      exact .of_actors rfl
  | lockStreamInit handle =>
      rcases answers with ⟨_, rfl⟩
      exact .of_actors rfl
  | _ =>
      rcases answers with rfl
      exact .of_actors rfl

end SharedServer

/-! ## Runs -/

def sendDiscipline : Discipline server ServerCall ServerResult SharedServer Sent where
  protocol _ := Follower.protocol
  post call sent value := Follower.Ends sent call value
  Holds history := history.shared.RepliesExist
  Knows id _ sent history :=
    sent = .of id history.past ∧
      ∀ broadcaster, sent.closed = some broadcaster → history.shared.Stopped broadcaster
  Idle _ _ := True
  Changes id before after :=
    (∀ other, other ≠ id → Sent.of other after.past = Sent.of other before.past) ∧
      before.shared.KeepsStopped after.shared

/-- What the answer to a call adds to what a task knows. -/
theorem Sent.stopped_learn {MayFail : StorageOp → Prop} {id : Nat} {name : String × String}
    {self after : SharedServer} {op : ServerOp} {answer : op.Answer} {sent : Sent}
    (stopped : ∀ broadcaster, sent.closed = some broadcaster → self.Stopped broadcaster)
    (answers : self.Answers MayFail id name op answer after) (broadcaster : Nat)
    (closed : (sent.learn op answer).closed = some broadcaster) : after.Stopped broadcaster := by
  have keeps := answers.keepsStopped
  cases op with
  | recv receiver =>
      rcases answer with ⟨(_ | _) | record, later⟩
      · exact keeps _ (stopped _ closed)
      · rcases answers with ⟨actor, present, received, rfl⟩
        cases closed
        refine ⟨actor, present, ?_⟩
        unfold StreamActor.recv at received
        split at received
        · cases received
        · split at received
          · cases received
          · split at received
            · cases received
            · rename_i running
              exact Bool.eq_false_iff.mpr running
      · exact keeps _ (stopped _ closed)
  | txSend tx item => cases answer <;> exact keeps _ (stopped _ closed)
  | _ => exact keeps _ (stopped _ closed)

theorem sendDiscipline_keeps (MayFail : StorageOp → Prop) (MayDrop : ServerOp → Prop)
    (MayRestart : Prop) :
    sendDiscipline.Keeps (SharedServer.environment MayFail MayDrop MayRestart)
      fun _ => True where
  known different _ changes knows := by
    rcases knows with ⟨rfl, stopped⟩
    exact ⟨(changes.1 _ different).symm, fun _ closed => changes.2 _ (stopped _ closed)⟩
  idle _ _ _ := trivial
  started {id call code history after} _ exist _ starts := by
    have same : after = { history.shared with spawned := after.spawned } := by
      cases starts <;> rfl
    have kept : after.RepliesExist := by
      rw [same]
      exact exist.of_actors rfl rfl
    have keeps : history.shared.KeepsStopped after := by
      rw [same]
      exact .of_actors rfl
    refine ⟨⟨kept, fun other different => Sent.of_other fun about => ?_, keeps⟩, .nothing,
      ⟨?_, nofun⟩, ?_⟩
    · exact different (Option.some.inj about).symm
    · exact (Sent.of_started _ _ _).symm
    · cases starts with
      | request client =>
          refine Follower.meets_always (fun sent value => ?_) _ _
          cases call with
          | follow basinName streamName follower => cases client
          | _ => trivial
      | follower waits =>
          exact Follower.meets_turn (Follower.meets_backfill Sent.open_nothing _ _ _)
  called {id call sent history after op answer} _ exist knows _ answers := by
    rcases knows with ⟨rfl, stopped⟩
    refine ⟨?_, ⟨exist.answers answers, fun other different => Sent.of_other fun about => ?_,
      answers.keepsStopped⟩, ?_, fun broadcaster closed => ?_⟩
    · cases op with
      | receive kind replyRx =>
          cases kind with
          | read =>
              rcases answer with _ | error | record
              · trivial
              · exact exist.replied answers.1
              · trivial
          | _ => trivial
      | _ => trivial
    · exact different (Option.some.inj about).symm
    · exact (Sent.of_called _ _ _ _).symm
    · exact Sent.stopped_learn stopped answers broadcaster closed
  turned {id call sent history value code} _ exist knows ends resumes := by
    refine ⟨⟨exist, fun other _ => (Sent.of_snoc other history.past (.turned id)), .of_actors rfl⟩,
      ⟨knows.1.trans (Sent.of_snoc id history.past (.turned id)).symm, knows.2⟩, ?_⟩
    cases call with
    | follow basinName streamName follower =>
        cases value with
        | turned receiver =>
            cases receiver with
            | none => cases resumes
            | some receiver =>
                cases resumes
                exact Follower.meets_turn (Follower.meets_live ends _ receiver)
        | _ => cases resumes
    | _ => cases resumes
  returned {id call sent history value} _ exist _ _ _ :=
    ⟨⟨exist.of_actors rfl rfl,
      fun other _ => Sent.of_snoc other history.past (.returned id call value), .of_actors rfl⟩,
      trivial⟩
  dropped {id call sent history code} _ exist _ _ _ :=
    ⟨⟨exist.of_actors rfl rfl,
      fun other _ => Sent.of_snoc other history.past (.dropped id), .of_actors rfl⟩, trivial⟩
  moved {history after} _ exist moves id :=
    ⟨exist.moves moves, fun other _ => Sent.of_snoc other history.past .moved,
      moves.keepsStopped⟩
  reset {history after} _ _ resets := by
    rcases resets with ⟨_, rfl⟩
    exact ⟨.start _, fun _ => trivial⟩

theorem GrpcStreamService.map_readItem (records : List Record) :
    (records.map Except.ok).map readItem =
      (records.map fun record => ⟨record.seqNum, record.data⟩).map Except.ok := by
  rw [List.map_map, List.map_map]
  rfl

/-- What a client gets that collects the records of a reading that has ended. -/
inductive Sent.Collected (self : Sent) (server : SharedServer) : Prop where
  | refused : self.refused = true → Collected self server
  | failed (status : Status) :
      RecordStream.collect ⟨self.items.map GrpcStreamService.readItem⟩ = .error status →
      status.code = .internal ∨ status.code = .resourceExhausted → Collected self server
  | stopped (records : List Record) (broadcaster : Nat) :
      self.items = records.map Except.ok → server.Stopped broadcaster →
      RecordStream.collect ⟨self.items.map GrpcStreamService.readItem⟩ =
        .ok (records.map fun record => ⟨record.seqNum, record.data⟩) → Collected self server

namespace ServerPool

variable {MayFail : StorageOp → Prop} {MayDrop : ServerOp → Prop} {MayRestart : Prop}
  {stores : Stores}

theorem sending_start (stores : Stores) : sendDiscipline.Orderly [] (start stores) where
  holds := .start stores
  follows found := nomatch found
  idle _ := trivial

/-- However requests are interleaved, fail or are dropped, a client that collects the records of
a stream gets them only if an actor has panicked. A reading that ends for any other reason ends
with an error, unless the client has closed it, and never with one that something is missing. -/
theorem collect_fails {events : List ServerEvent} {pool after : ServerPool}
    (run : Run (Pool.Step (SharedServer.environment MayFail MayDrop MayRestart)) (start stores)
      events pool)
    {id : Nat} {basinName streamName : String} {follower : Follower}
    (ends : Pool.Step (SharedServer.environment MayFail MayDrop MayRestart) pool
      (.returned id (.follow basinName streamName follower) (.turned none)) after) :
    (Sent.of id events).Collected pool.shared := by
  have orderly := (sending_start stores).run (sendDiscipline_keeps MayFail MayDrop MayRestart)
    (fun _ => trivial) run trivial
  cases ends with
  | returned running finished =>
      rcases orderly.follows running with ⟨sent, ⟨is, stopped⟩, ended⟩
      rw [List.nil_append] at is
      subst is
      cases ended with
      | refused refused => exact .refused refused
      | failed records error items fails =>
          refine .failed (controllerErrorToStatus error) ?_ fails
          rw [items, List.map_append, GrpcStreamService.map_readItem]
          exact RecordStream.collect_error _ _ []
      | closed records broadcaster items closed =>
          refine .stopped records broadcaster items (stopped broadcaster closed) ?_
          rw [items, GrpcStreamService.map_readItem, RecordStream.collect_ok, List.map_map]
          rfl

/-- A record is appended to a new stream. -/
theorem reaches_appended (MayFail : StorageOp → Prop) :
    ∃ events pool,
      Run (Pool.Step (SharedServer.environment MayFail (fun _ => False) False)) (start .opened)
        events pool ∧ Sent.of 2 events = .nothing ∧ pool.tasks 1 = none ∧ pool.tasks 2 = none ∧
      pool.shared.basins "orders" = some ⟨0, 1⟩ ∧ pool.shared.streams 0 "events" = some ⟨0⟩ ∧
      pool.shared.actors = [⟨0, .done ⟨⟨1, ⟨0, 4096⟩⟩, ⟨1, 2⟩⟩, [], [⟨0, [97]⟩],
        [.append [97] 0]⟩] ∧ pool.shared.nextReply = 1 ∧ pool.shared.spawned = [] := by
  let origin : ServerCall := .append "orders" "events" [97]
  let metadata : StreamMetadata := ⟨1, 2⟩
  let stream : Stream := ⟨SequenceAllocator.default, metadata⟩
  let handle : BasinHandle := ⟨0, 1⟩
  let Reaches : ServerPool → Prop := fun pool => ∃ events,
    Run (Pool.Step (SharedServer.environment MayFail (fun _ => False) False)) (start .opened)
      events pool ∧ Sent.of 2 events = .nothing
  have step {pool after : ServerPool} {event : ServerEvent} (reaches : Reaches pool)
      (taken : Pool.Step (SharedServer.environment MayFail (fun _ => False) False) pool event
        after) (apart : event.task ≠ some 2) : Reaches after := by
    rcases reaches with ⟨events, run, nothing⟩
    exact ⟨_, run.snoc taken, (Sent.of_other apart).trans nothing⟩
  have call {pool : ServerPool} {after : SharedServer} (op : ServerOp) (answer : op.Answer)
      {next : op.Answer → Program server ServerResult} (reaches : Reaches pool)
      (running : pool.tasks 0 = some ⟨origin, .call op next⟩)
      (answers : pool.shared.Answers MayFail 0 origin.name op answer after) :
      Reaches (pool.set 0 after (some ⟨origin, next answer⟩)) :=
    step reaches (.called running answers) nofun
  have move {pool : ServerPool} {actor after : StreamActor} {effect : ActorEffect}
      {stores : Stores} (reaches : Reaches pool) (present : pool.shared.actors[0]? = some actor)
      (taken : ActorStep MayFail pool.shared.stores actor effect stores after) :
      Reaches { pool with shared := { pool.shared with
        stores
        actors := pool.shared.actors.set 0 after
        replies := effect.deliver pool.shared.replies } } :=
    step reaches (.moved (.actor present taken)) nofun
  have draws : stream.Draws none ⟨1, ⟨0, 4096⟩⟩ := by decide
  have appending := step ⟨_, .nil, rfl⟩
    (@Pool.Step.started _ _ _ _ _ _ 0 origin _ _ rfl (.request rfl)) nofun
  have read := call (.readBasins "orders") none appending rfl ⟨rfl, rfl⟩
  have locked := call .lockBasinInit () read rfl ⟨rfl, rfl⟩
  have missed := call (.readBasins "orders") none locked rfl ⟨rfl, rfl⟩
  have loaded := call (.storage (.get .metaStorage (Basin.constructMetadataKey "orders")))
    (.ok none) missed rfl ⟨_, ⟨rfl, rfl⟩, rfl⟩
  have drawn := call (.storage .newV4) (1 : U128) loaded rfl ⟨_, ⟨List.not_mem_nil, rfl⟩, rfl⟩
  have written := call (.storage (.apply .metaStorage [Basin.metadataRecord "orders" 1]))
    (.ok ()) drawn rfl ⟨_, rfl, rfl⟩
  have handled := call (.newBasinHandle ⟨1, "orders"⟩) handle written rfl ⟨rfl, rfl⟩
  have placed := call (.insertBasin "orders" handle) () handled rfl rfl
  have unlocked := call .unlockBasinInit () placed rfl rfl
  have looked := call (.readStreams handle "events") none unlocked rfl ⟨rfl, rfl⟩
  have claimed := call (.lockStreamInit handle) () looked rfl ⟨rfl, rfl⟩
  have again := call (.readStreams handle "events") none claimed rfl ⟨rfl, rfl⟩
  have sought := call (.storage (.get .metaStorage (Stream.constructMetadataKey 1 "events")))
    (.ok none) again rfl ⟨_, ⟨rfl, rfl⟩, rfl⟩
  have chosen := call (.storage .newV4) (2 : U128) sought rfl ⟨_, ⟨by decide, rfl⟩, rfl⟩
  have named := call (.storage (.apply .metaStorage
    [⟨Stream.constructMetadataKey 1 "events", metadata.serialise⟩])) (.ok ()) chosen rfl
    ⟨_, rfl, rfl⟩
  have reserved := call (.storage (.apply .recordStorage
    [⟨metadata.blockKey, SequenceAllocator.default.allocation.serialise⟩])) (.ok ()) named rfl
    ⟨_, rfl, rfl⟩
  have spawned := call (.spawn stream) ⟨0⟩ reserved rfl ⟨rfl, rfl⟩
  have cached := call (.insertStream handle "events" ⟨0⟩) () spawned rfl rfl
  have opened := call (.unlockStreamInit handle) () cached rfl rfl
  have sent := call (.send ⟨0⟩ (.append [97])) (some 0) opened rfl
    ⟨_, rfl, rfl, by decide, rfl, rfl⟩
  have took := move sent rfl (.recv rfl rfl)
  have stored := move took rfl (.writes (ActorPhase.handle_append draws [97] 0))
  have announced := move stored rfl (.broadcast rfl)
  have replied := move announced rfl (.reply rfl)
  rcases replied with ⟨events, run, nothing⟩
  exact ⟨events, _, run, nothing, rfl, rfl, rfl, rfl, rfl, rfl, rfl⟩

/-- The first read of a follower fails. -/
theorem collect_fails_lost :
    ∃ events pool,
      Run (Pool.Step (SharedServer.environment (fun op => ∃ key, op = .get .recordStorage key)
        (fun _ => False) False)) (start .opened) events pool ∧
      (Sent.of 2 events).items = [.error (.stream (.storageError (.storage "lost")))] ∧
      (Sent.of 2 events).Collected pool.shared := by
  let MayFail : StorageOp → Prop := fun op => ∃ key, op = .get .recordStorage key
  let metadata : StreamMetadata := ⟨1, 2⟩
  let handle : BasinHandle := ⟨0, 1⟩
  let follower : Follower := ⟨⟨0⟩, 0, ⟨⟨0, 1⟩, 1⟩⟩
  let lost : StorageError := .storage "lost"
  let origins : Nat → ServerCall := fun id =>
    if id = 2 then .follow "orders" "events" follower else .readFollow "orders" "events" 0
  let Reaches : ServerPool → Prop := fun pool => ∃ events,
    Run (Pool.Step (SharedServer.environment MayFail (fun _ => False) False)) (start .opened)
      events pool ∧ Sent.of 2 events = .nothing
  have step {pool after : ServerPool} {event : ServerEvent} (reaches : Reaches pool)
      (taken : Pool.Step (SharedServer.environment MayFail (fun _ => False) False) pool event
        after) (quiet : Sent.nothing.after 2 event = .nothing) : Reaches after := by
    rcases reaches with ⟨events, run, nothing⟩
    refine ⟨_, run.snoc taken, ?_⟩
    rw [Sent.of_snoc, nothing]
    exact quiet
  have begin {pool : ServerPool} {after : SharedServer} (id : Nat) (reaches : Reaches pool)
      (absent : pool.tasks id = none)
      (starts : pool.shared.Starts (origins id) (origins id).code after) :
      Reaches (pool.set id after (some ⟨origins id, (origins id).code⟩)) :=
    step reaches (.started absent starts) (ite_self _)
  have call {pool : ServerPool} {after : SharedServer} (id : Nat) (op : ServerOp)
      (answer : op.Answer) {next : op.Answer → Program server ServerResult}
      (reaches : Reaches pool) (running : pool.tasks id = some ⟨origins id, .call op next⟩)
      (answers : pool.shared.Answers MayFail id (origins id).name op answer after)
      (quiet : Sent.nothing.after 2 (.called id op answer) = .nothing) :
      Reaches (pool.set id after (some ⟨origins id, next answer⟩)) :=
    step reaches (.called running answers) quiet
  have move {pool : ServerPool} {actor after : StreamActor} {effect : ActorEffect}
      {stores : Stores} (reaches : Reaches pool) (present : pool.shared.actors[0]? = some actor)
      (taken : ActorStep MayFail pool.shared.stores actor effect stores after) :
      Reaches { pool with shared := { pool.shared with
        stores
        actors := pool.shared.actors.set 0 after
        replies := effect.deliver pool.shared.replies } } :=
    step reaches (.moved (.actor present taken)) rfl
  rcases reaches_appended MayFail with
    ⟨events, pool, run, nothing, reader, tail, basin, cached, actors, nextReply, spawned⟩
  rcases pool with ⟨⟨stores, basins, streams, basinHandles, locks, _, replies, _, _, names,
    handed⟩, tasks⟩
  cases actors
  cases nextReply
  cases spawned
  have reading := begin 1 ⟨events, run, nothing⟩ reader (.request rfl)
  have found := call 1 (.readBasins "orders") (some handle) reading rfl ⟨basin.symm, rfl⟩ rfl
  have opened := call 1 (.readStreams handle "events") (some ⟨0⟩) found rfl ⟨cached.symm, rfl⟩ rfl
  have asked := call 1 (.send ⟨0⟩ .subscribe) (some 1) opened rfl
    ⟨_, rfl, rfl, Nat.zero_lt_succ _, rfl, rfl⟩ rfl
  have took := move asked rfl (.recv rfl rfl)
  have subscribed := move took rfl (.subscribe rfl)
  have replied := move subscribed rfl (.reply rfl)
  have heard := call 1 (.receive .subscribe 1) (some ⟨⟨0, 1⟩, 1⟩) replied rfl ⟨rfl, rfl⟩ rfl
  have left := call 1 (.spawnFollower follower) 0 heard rfl rfl rfl
  have following := begin 2 left tail
    (@SharedServer.Starts.follower _ ("orders", "events") follower [] [] rfl)
  have asked := call 2 (.send ⟨0⟩ (.read 0)) (some 2) following rfl
    ⟨_, rfl, rfl, Nat.zero_lt_succ _, rfl, rfl⟩ rfl
  have took := move asked rfl (.recv rfl rfl)
  have failed := move took rfl (@ActorStep.storage MayFail _ _ _
    (.get .recordStorage (metadata.recordKey 0)) (Except.error lost) _
    (ActorPhase.handle_read _ 0 2) ⟨⟨_, rfl⟩, rfl⟩)
  have replied := move failed rfl (.reply rfl)
  have heard := call 2 (.receive .read 2) (some (.error (.storageError lost))) replied rfl
    ⟨rfl, rfl⟩ rfl
  rcases heard with ⟨events, run, nothing⟩
  have failed := run.snoc (@Pool.Step.called server _ _ _ _ _ 2 (origins 2)
    (ServerOp.txSend 0 (.error (.stream (.storageError lost)))) (Except.ok ()) _ _ rfl rfl)
  refine ⟨_, _, failed, ?_, ?_⟩
  · rw [Sent.of_called, nothing]
    rfl
  · exact collect_fails failed
      (@Pool.Step.returned server _ _ _ _ _ 2 (origins 2) (ServerResult.turned none) rfl rfl)

end ServerPool

end Slatestreams
