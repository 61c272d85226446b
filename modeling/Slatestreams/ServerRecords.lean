import Mathlib.Data.List.Perm.Subperm
import Slatestreams.ServerAppends

/-! # The records of a server

What an actor broadcasts is what it has been asked to append, and a task asks once for each
time it is started. So the records that come into a log are those of different appends. -/

namespace Slatestreams

open Foundation

/-! ## Actors -/

/-- The data that a command asks to append. -/
def StreamCommand.data : StreamCommand → Option Bytes
  | .append data _ => some data
  | _ => none

/-- The call is no broadcast. -/
def ActorOp.Silent : ActorOp → Prop
  | .broadcast _ => False
  | _ => True

/-- The program broadcasts the data of the command, and once at most. -/
def StreamCommand.Announces (self : StreamCommand) : Program streamActor Stream → Prop
  | .done _ | .panic _ => True
  | .call op next =>
      (∃ record : Record, op = .broadcast record ∧ self.data = some record.data ∧
        ∀ answer, (next answer).Only ActorOp.Silent) ∨
      op.Silent ∧ ∀ answer, self.Announces (next answer)

namespace ActorPhase

theorem silent_answerCode (stream : Stream) (command : StreamCommand)
    (value : command.kind.Value) : (answerCode stream command value).Only ActorOp.Silent :=
  ⟨trivial, fun _ => trivial⟩

theorem announces_answerCode (stream : Stream) (command : StreamCommand)
    (value : command.kind.Value) : command.Announces (answerCode stream command value) :=
  .inr ⟨trivial, fun _ => trivial⟩

theorem announces_handle (stream : Stream) (command : StreamCommand) :
    command.Announces (StreamActor.handle stream command) := by
  rcases handle_begins stream command with ⟨phase, is, begins⟩
  rw [is]
  cases begins with
  | append draws =>
      refine .inr ⟨trivial, fun answer => ?_⟩
      cases answer with
      | ok => exact .inl ⟨_, rfl, rfl, fun _ => silent_answerCode _ _ _⟩
      | error error => exact announces_answerCode _ _ _
  | overflow => trivial
  | read => exact .inr ⟨trivial, fun answer => announces_answerCode _ _ _⟩
  | subscribe => exact .inr ⟨trivial, fun receiver => announces_answerCode _ _ _⟩

end ActorPhase

/-- What the actor has broadcast has been asked for, and what it has still to broadcast is
asked for by the last command it has taken. -/
def StreamActor.Announced (actor : StreamActor) : Prop :=
  (List.Sublist (actor.sent.map Record.data) (actor.taken.filterMap StreamCommand.data) ∧
    actor.code.Only ActorOp.Silent) ∨
  ∃ earlier command, actor.taken = earlier ++ [command] ∧
    List.Sublist (actor.sent.map Record.data) (earlier.filterMap StreamCommand.data) ∧
    command.Announces actor.code

namespace StreamActor.Announced

variable {MayFail : StorageOp → Prop} {stores after : Stores} {actor next : StreamActor}
  {effect : ActorEffect}

theorem sublist (announced : actor.Announced) :
    List.Sublist (actor.sent.map Record.data) (actor.taken.filterMap StreamCommand.data) := by
  rcases announced with ⟨sublist, _⟩ | ⟨earlier, command, taken, sublist, _⟩
  · exact sublist
  · rw [taken, List.filterMap_append]
    exact sublist.trans (List.sublist_append_left _ _)

/-- A record that is about to be broadcast is the one that is asked for last. -/
theorem broadcast (announced : actor.Announced) {record : Record}
    {rest : Unit → Program streamActor Stream}
    (calls : actor.code = .call (S := streamActor) (.broadcast record) rest) :
    List.Sublist ((actor.sent ++ [record]).map Record.data)
        (actor.taken.filterMap StreamCommand.data) ∧
      (rest ()).Only ActorOp.Silent := by
  rcases announced with ⟨_, only⟩ | ⟨earlier, command, taken, sublist, announces⟩
  · rw [calls] at only
    exact only.1.elim
  · rw [calls] at announces
    rcases announces with ⟨asked, is, data, only⟩ | ⟨silent, _⟩
    · cases is
      refine ⟨?_, only ()⟩
      rw [taken, List.filterMap_append, List.map_append, List.filterMap_cons_some data]
      exact sublist.append (List.Sublist.refl _)
    · exact silent.elim

/-- A call that is no broadcast. -/
theorem worked (announced : actor.Announced) {op : ActorOp}
    {rest : op.Answer → Program streamActor Stream}
    (calls : actor.code = .call (S := streamActor) op rest) (silent : op.Silent)
    (answer : op.Answer) : { actor with code := rest answer }.Announced := by
  rcases announced with ⟨sublist, only⟩ | ⟨earlier, command, taken, sublist, announces⟩
  · rw [calls] at only
    exact .inl ⟨sublist, only.2 answer⟩
  · rw [calls] at announces
    rcases announces with ⟨asked, rfl, _⟩ | ⟨_, announces⟩
    · exact silent.elim
    · exact .inr ⟨earlier, command, taken, sublist, announces answer⟩

theorem step (announced : actor.Announced)
    (taken : ActorStep MayFail stores actor effect after next) : next.Announced := by
  cases taken with
  | recv => exact .inr ⟨actor.taken, _, rfl, announced.sublist, ActorPhase.announces_handle _ _⟩
  | storage calls => exact announced.worked calls trivial _
  | broadcast calls => exact .inl (announced.broadcast calls)
  | subscribe calls => exact announced.worked calls trivial _
  | reply calls => exact announced.worked calls trivial ()

/-- What has come into the log since the actor began is what it has been asked for. -/
theorem added (announced : actor.Announced) {view : LogView MayFail} {metadata : StreamMetadata}
    {base log : List Record} {phase : ActorPhase}
    (actorLog : ActorLog view metadata stores base log actor phase) :
    ∃ added, log = base ++ added ∧
      List.Sublist (added.map Record.data) (actor.taken.filterMap StreamCommand.data) := by
  have code := actorLog.code
  have holds := actorLog.holds
  cases phase with
  | announcing stream data replyTx ack =>
      exact ⟨actor.sent ++ [ack.record], by rw [holds.2.2.1, List.append_assoc],
        (announced.broadcast code).1⟩
  | waiting => exact ⟨actor.sent, holds.2.2, announced.sublist⟩
  | storing => exact ⟨actor.sent, holds.2.2.1, announced.sublist⟩
  | fetching => exact ⟨actor.sent, holds.2.2, announced.sublist⟩
  | subscribing => exact ⟨actor.sent, holds.2.2, announced.sublist⟩
  | answering => exact ⟨actor.sent, holds.2.2.1, announced.sublist⟩
  | panicked => exact ⟨actor.sent, holds, announced.sublist⟩

end StreamActor.Announced

/-! ## Events -/

namespace ServerEvent

/-- The command that is put into the queue of the actor. -/
def command (tx : Nat) : ServerEvent → Option StreamCommand
  | .called _ (.send stream command) (some replyRx) =>
      if stream.tx = tx then some (command replyRx) else none
  | _ => none

/-- The task that asks the actor to append, and what. -/
def sends (tx : Nat) : ServerEvent → Option (Nat × Bytes)
  | .called id (.send stream command) (some replyRx) =>
      if stream.tx = tx then (command replyRx).data.map fun data => (id, data) else none
  | _ => none

/-- The task that is started to append under the name, and what. -/
def begins (name : String × String) : ServerEvent → Option (Nat × Bytes)
  | .started id (.append basinName streamName data) =>
      if (basinName, streamName) = name then some (id, data) else none
  | _ => none

theorem map_sends (tx : Nat) (event : ServerEvent) :
    (sends tx event).map Prod.snd = (command tx event).bind StreamCommand.data := by
  unfold sends command
  split
  · split
    · rename_i stream command replyRx _
      change Option.map _ (Option.map _ _) = (command replyRx).data
      rw [Option.map_map]
      exact Option.map_id'
    · rfl
  · rfl

theorem sends_task {tx : Nat} {event : ServerEvent} {ask : Nat × Bytes}
    (found : sends tx event = some ask) : event.task = some ask.1 := by
  unfold sends at found
  split at found
  · split at found
    · rcases Option.map_eq_some_iff.mp found with ⟨data, _, rfl⟩
      rfl
    · cases found
  · cases found

end ServerEvent

/-! ## What holds at every moment -/

/-- The commands that the actor has been sent. -/
def SharedServer.commands (self : SharedServer) (tx : Nat) : List StreamCommand :=
  (self.actors[tx]?).elim [] fun actor => actor.taken ++ actor.queue

/-- The actor has been spawned for no other name. -/
def SharedServer.LeadsTo (self : SharedServer) (tx : Nat) (name : String × String) : Prop :=
  ∀ other, self.names[tx]? = some other → other = name

/-- The actors have taken what they have been sent, and for each append that a task has asked
for it has been started. -/
structure Recorded (history : ServerHistory) : Prop where
  commands (tx : Nat) :
    history.shared.commands tx = history.past.filterMap (ServerEvent.command tx)
  announced {tx : Nat} {actor : StreamActor} : history.shared.actors[tx]? = some actor →
    actor.Announced
  asked {tx : Nat} {name : String × String} (ask : Nat × Bytes) :
    history.shared.LeadsTo tx name →
      (history.past.filterMap (ServerEvent.sends tx)).count ask ≤
        (history.past.filterMap (ServerEvent.begins name)).count ask

/-- The task has been started for one append more than it has asked for. -/
def ServerCall.Due (id : Nat) (history : ServerHistory) (call : ServerCall) : Prop :=
  ∀ basinName streamName data tx, call = .append basinName streamName data →
    history.shared.LeadsTo tx (basinName, streamName) →
      (history.past.filterMap (ServerEvent.sends tx)).count (id, data) <
        (history.past.filterMap (ServerEvent.begins (basinName, streamName))).count (id, data)

def Standing.Due (id : Nat) (call : ServerCall) (history : ServerHistory) : Standing → Prop
  | .free _ _ | .atBasin _ | .atStream _ _ => call.Due id history
  | .waiting _ kind _ => ∀ basinName streamName data,
      call = .append basinName streamName data → kind = .append
  | _ => True

def recording : Discipline.Layer server ServerCall ServerResult SharedServer Standing where
  Holds := Recorded
  Knows id call standing history := standing.Due id call history
  Changes := History.Adds

/-! ## Steps -/

section Steps

variable {history : ServerHistory} {event : ServerEvent} {after : SharedServer} {id : Nat}
  {call : ServerCall} {standing : Standing}

theorem SharedServer.LeadsTo.before {server : SharedServer} {tx : Nat} {name : String × String}
    (leadsTo : after.LeadsTo tx name) (leaves : server.Leaves id after) :
    server.LeadsTo tx name :=
  fun other found => leadsTo other (leaves.names found)

theorem ServerEvent.count_snoc_of_ne {tx : Nat} {ask : Nat × Bytes}
    (quiet : ServerEvent.sends tx event ≠ some ask) :
    ((history.past ++ [event]).filterMap (ServerEvent.sends tx)).count ask =
      (history.past.filterMap (ServerEvent.sends tx)).count ask := by
  rw [List.filterMap_append, List.count_append]
  cases found : ServerEvent.sends tx event with
  | none => rw [List.filterMap_cons_none found, List.filterMap_nil, List.count_nil, Nat.add_zero]
  | some now =>
      have different : now ≠ ask := fun same => quiet (found.trans (congrArg some same))
      rw [List.filterMap_cons_some found, List.filterMap_nil, List.count_singleton, if_neg,
        Nat.add_zero]
      simpa using different

theorem ServerEvent.count_begins_le (name : String × String) (ask : Nat × Bytes) :
    (history.past.filterMap (ServerEvent.begins name)).count ask ≤
      ((history.past ++ [event]).filterMap (ServerEvent.begins name)).count ask := by
  rw [List.filterMap_append, List.count_append]
  exact Nat.le_add_right _ _

theorem Recorded.snoc (recorded : Recorded history) (leaves : history.shared.Leaves id after)
    (commands : ∀ tx, after.commands tx =
      history.shared.commands tx ++ (ServerEvent.command tx event).toList)
    (announced : ∀ {tx : Nat} {actor : StreamActor}, after.actors[tx]? = some actor →
      actor.Announced)
    (due : ∀ {tx : Nat} {name : String × String} {ask : Nat × Bytes},
      ServerEvent.sends tx event = some ask → after.LeadsTo tx name →
        (history.past.filterMap (ServerEvent.sends tx)).count ask <
          (history.past.filterMap (ServerEvent.begins name)).count ask) :
    Recorded (history.next event after) where
  commands tx := by
    rw [History.next_past, List.filterMap_append, ← recorded.commands]
    exact (commands tx).trans (congrArg (history.shared.commands tx ++ ·) rfl)
  announced := announced
  asked {tx name} ask leadsTo := by
    refine Nat.le_trans ?_ (ServerEvent.count_begins_le name ask)
    by_cases now : ServerEvent.sends tx event = some ask
    · rw [History.next_past, List.filterMap_append, List.count_append,
        List.filterMap_cons_some now, List.filterMap_nil, List.count_singleton_self]
      exact due now leadsTo
    · rw [History.next_past, ServerEvent.count_snoc_of_ne now]
      exact recorded.asked ask (leadsTo.before leaves)

theorem ServerCall.Due.kept (due : call.Due id history) {other : Nat}
    (leaves : history.shared.Leaves other after)
    (quiet : ∀ tx data, ServerEvent.sends tx event ≠ some (id, data)) :
    call.Due id (history.next event after) := by
  intro basinName streamName data tx is leadsTo
  rw [History.next_past, ServerEvent.count_snoc_of_ne (quiet tx data)]
  exact Nat.lt_of_lt_of_le (due basinName streamName data tx is (leadsTo.before leaves))
    (ServerEvent.count_begins_le _ _)

theorem Standing.Due.kept (due : standing.Due id call history) {other : Nat}
    (leaves : history.shared.Leaves other after)
    (quiet : ∀ tx data, ServerEvent.sends tx event ≠ some (id, data)) :
    standing.Due id call (history.next event after) := by
  cases standing with
  | free => exact ServerCall.Due.kept due leaves quiet
  | atBasin => exact ServerCall.Due.kept due leaves quiet
  | atStream => exact ServerCall.Due.kept due leaves quiet
  | waiting => exact due
  | _ => trivial

/-- A task that starts is due what it starts for. -/
theorem Recorded.due_started (recorded : Recorded history)
    (leaves : history.shared.Leaves id after) (call : ServerCall) :
    call.Due id (history.next (.started id call) after) := by
  intro basinName streamName data tx is leadsTo
  subst is
  have quiet : ServerEvent.sends tx (.started id (.append basinName streamName data)) ≠
    some (id, data) := fun found => by cases found
  have begins : ServerEvent.begins (basinName, streamName)
    (.started id (.append basinName streamName data)) = some (id, data) := if_pos rfl
  rw [History.next_past, ServerEvent.count_snoc_of_ne quiet, List.filterMap_append,
    List.count_append, List.filterMap_cons_some begins, List.filterMap_nil,
    List.count_singleton_self]
  exact Nat.lt_succ_of_le (recorded.asked (id, data) (leadsTo.before leaves))

/-- What a task that has not asked yet asks for, it is due. -/
theorem Standing.due_sends {op : ServerOp} {answer : op.Answer}
    (owned : history.shared.NamesOwned) (leaves : history.shared.Leaves id after)
    (facts : standing.Facts call.name history.shared) (due : standing.Due id call history)
    (allowed : standing.Calls call op) {tx : Nat} {name : String × String} {ask : Nat × Bytes}
    (sends : ServerEvent.sends tx (.called id op answer) = some ask)
    (leadsTo : after.LeadsTo tx name) :
    (history.past.filterMap (ServerEvent.sends tx)).count ask <
      (history.past.filterMap (ServerEvent.begins name)).count ask := by
  unfold ServerEvent.sends at sends
  split at sends
  · rename_i stream command replyRx is
    split at sends
    · rename_i same
      cases is
      rcases Option.map_eq_some_iff.mp sends with ⟨data, found, rfl⟩
      cases standing with
      | free basin stream =>
          rcases allowed with ⟨rfl, sends⟩
          have placed := owned.names_of_cached (facts.2 _ rfl)
          cases call with
          | append basinName streamName payload =>
              rcases sends with rfl
              cases found
              subst same
              have named := leadsTo (basinName, streamName) (leaves.names placed)
              subst named
              exact due basinName streamName data _ rfl (leadsTo.before leaves)
          | readFollow =>
              rcases sends with rfl
              cases found
          | follow =>
              rcases sends with ⟨seqNum, rfl⟩
              cases found
          | listStreams => exact sends.elim
          | listBasins => exact sends.elim
      | waiting => cases allowed
      | failed =>
          rcases allowed with ⟨_, _, is⟩
          cases is
      | _ => exact allowed.elim
    · cases sends
  · cases sends

/-- A task is due nothing once it has asked. -/
theorem Standing.due_called {op : ServerOp} {answer : op.Answer}
    (leaves : history.shared.Leaves id after) (due : standing.Due id call history)
    (allowed : standing.Calls call op) :
    (standing.learn op answer).Due id call (history.next (.called id op answer) after) := by
  cases standing with
  | free basin stream =>
      cases op with
      | send handle command =>
          cases answer with
          | none => trivial
          | some replyRx =>
              rintro basinName streamName data rfl
              have sends : command = .append data := allowed.2
              rw [sends]
      | _ => exact ServerCall.Due.kept due leaves nofun
  | atBasin stage =>
      cases op with
      | readBasins basinName => cases answer <;> exact ServerCall.Due.kept due leaves nofun
      | unlockBasinInit =>
          cases stage with
          | cached handle => exact ServerCall.Due.kept due leaves nofun
          | _ => trivial
      | send handle command => exact allowed.elim
      | _ => exact ServerCall.Due.kept due leaves nofun
  | atStream handle stage =>
      cases op with
      | readStreams other streamName => cases answer <;> exact ServerCall.Due.kept due leaves nofun
      | unlockStreamInit other =>
          cases stage with
          | cached stream => exact ServerCall.Due.kept due leaves nofun
          | _ => trivial
      | send handle command => exact allowed.elim
      | _ => exact ServerCall.Due.kept due leaves nofun
  | waiting stream kind replyRx =>
      rcases allowed with rfl
      cases kind with
      | append =>
          rcases answer with _ | error | ack <;> trivial
      | read =>
          rcases answer with _ | error | found
          · trivial
          · trivial
          · intro basinName streamName data tx is
            cases due basinName streamName data is
      | subscribe =>
          rcases answer with _ | subscription
          · trivial
          · intro basinName streamName data tx is
            cases due basinName streamName data is
  | acknowledged replyRx ack => trivial
  | failed => trivial

end Steps

namespace SharedServer

variable {MayFail : StorageOp → Prop} {id : Nat} {name : String × String}
  {server after : SharedServer}

theorem commands_of_some {tx : Nat} {actor : StreamActor}
    (present : server.actors[tx]? = some actor) :
    server.commands tx = actor.taken ++ actor.queue := by
  rw [commands, present, Option.elim_some]

theorem commands_of_none {tx : Nat} (absent : server.actors[tx]? = none) :
    server.commands tx = [] := by
  rw [commands, absent, Option.elim_none]

theorem commands_of_actors (actors : after.actors = server.actors) (tx : Nat) :
    after.commands tx = server.commands tx := by
  rw [commands, commands, actors]

theorem commands_spawn (server : SharedServer) (name : String × String) (stream : Stream)
    (tx : Nat) : (server.spawn name stream).commands tx = server.commands tx := by
  rcases Nat.lt_trichotomy tx server.actors.length with earlier | now | later
  · rw [commands, commands, SharedServer.spawn, List.getElem?_append_left earlier]
  · rw [now, commands_of_some (AppendLine.getElem?_spawn server name stream),
      commands_of_none (List.getElem?_eq_none (Nat.le_refl _))]
    rfl
  · have outside : server.actors.length + 1 ≤ tx := later
    rw [commands_of_none (List.getElem?_eq_none (Nat.le_of_lt later)), commands_of_none]
    refine List.getElem?_eq_none ?_
    rw [SharedServer.spawn, List.length_append]
    exact outside

theorem commands_enqueue {tx : Nat} {actor : StreamActor}
    (present : server.actors[tx]? = some actor) (command : ReplyId → StreamCommand) (other : Nat) :
    (server.enqueue tx actor command).commands other =
      server.commands other ++ if tx = other then [command server.nextReply] else [] := by
  have inside := (List.getElem?_eq_some_iff.mp present).1
  by_cases same : tx = other
  · subst same
    have queued : (server.enqueue tx actor command).actors[tx]? =
        some { actor with queue := actor.queue ++ [command server.nextReply] } :=
      List.getElem?_set_self inside
    rw [if_pos rfl, commands_of_some present, commands_of_some queued, List.append_assoc]
  · rw [if_neg same, List.append_nil, commands, commands]
    exact congrArg (Option.elim · _ _) (List.getElem?_set_ne same)

theorem commands_acted {tx : Nat} {actor next : StreamActor} {effect : ActorEffect}
    {stores : Stores} (present : server.actors[tx]? = some actor)
    (taken : ActorStep MayFail server.stores actor effect stores next) (other : Nat) :
    (server.acted tx next effect stores).commands other = server.commands other := by
  have inside := (List.getElem?_eq_some_iff.mp present).1
  by_cases same : tx = other
  · subst same
    have moved : (server.acted tx next effect stores).actors[tx]? = some next :=
      List.getElem?_set_self inside
    rw [commands_of_some present, commands_of_some moved, taken.commands]
  · rw [commands, commands]
    exact congrArg (Option.elim · _ _) (List.getElem?_set_ne same)

/-- A call of a task leaves what the actors are at, but for one command more in a queue. -/
theorem commands_answers {op : ServerOp} {answer : op.Answer}
    (announced : ∀ {tx : Nat} {actor : StreamActor}, server.actors[tx]? = some actor →
      actor.Announced)
    (answers : server.Answers MayFail id name op answer after) :
    (∀ tx, after.commands tx =
      server.commands tx ++ (ServerEvent.command tx (.called id op answer)).toList) ∧
    ∀ {tx : Nat} {actor : StreamActor}, after.actors[tx]? = some actor → actor.Announced := by
  have same (actors : after.actors = server.actors)
      (quiet : ∀ tx, ServerEvent.command tx (.called id op answer) = none) :
      (∀ tx, after.commands tx =
        server.commands tx ++ (ServerEvent.command tx (.called id op answer)).toList) ∧
      ∀ {tx : Nat} {actor : StreamActor}, after.actors[tx]? = some actor → actor.Announced := by
    constructor
    · intro tx
      rw [quiet, Option.toList_none, List.append_nil]
      exact commands_of_actors actors tx
    · rw [actors]
      exact announced
  cases op with
  | storage op =>
      rcases answers with ⟨stores, _, rfl⟩
      exact same rfl fun _ => rfl
  | readBasins basinName =>
      rcases answers with ⟨_, rfl⟩
      unfold SharedServer.returned at same ⊢
      split at same <;> exact same rfl fun _ => rfl
  | insertBasin basinName handle =>
      rcases answers with rfl
      exact same rfl fun _ => rfl
  | lockBasinInit =>
      rcases answers with ⟨_, rfl⟩
      exact same rfl fun _ => rfl
  | unlockBasinInit =>
      rcases answers with rfl
      exact same rfl fun _ => rfl
  | newBasinHandle basin =>
      rcases answers with ⟨_, rfl⟩
      exact same rfl fun _ => rfl
  | readStreams handle streamName =>
      rcases answers with ⟨_, rfl⟩
      exact same rfl fun _ => rfl
  | insertStream handle streamName stream =>
      rcases answers with rfl
      exact same rfl fun _ => rfl
  | lockStreamInit handle =>
      rcases answers with ⟨_, rfl⟩
      exact same rfl fun _ => rfl
  | unlockStreamInit handle =>
      rcases answers with rfl
      exact same rfl fun _ => rfl
  | spawn stream =>
      rcases answers with ⟨_, rfl⟩
      refine ⟨fun tx => ?_, fun {tx actor} present => ?_⟩
      · exact (commands_spawn server name stream tx).trans (List.append_nil _).symm
      · rcases List.mem_append.mp (List.mem_of_getElem? present) with earlier | now
        · rcases List.getElem?_of_mem earlier with ⟨index, found⟩
          exact announced found
        · rw [List.mem_singleton.mp now]
          exact .inl ⟨List.Sublist.refl _, trivial⟩
  | send handle command =>
      cases answer with
      | none =>
          rcases answers with ⟨_, rfl⟩
          exact same rfl fun _ => rfl
      | some replyRx =>
          rcases answers with ⟨actor, present, _, _, rfl, rfl⟩
          refine ⟨fun tx => ?_, fun {tx next} found => ?_⟩
          · rw [commands_enqueue present, ServerEvent.command]
            split <;> rfl
          · rcases Answering.present_set found with ⟨rfl, rfl⟩ | ⟨_, earlier⟩
            · have held := announced present
              exact held
            · exact announced earlier
  | receive kind replyRx =>
      cases answer with
      | none =>
          rcases answers with ⟨_, _, rfl⟩
          exact same rfl fun _ => rfl
      | some value =>
          rcases answers with ⟨_, rfl⟩
          exact same rfl fun _ => rfl
  | spawnFollower follower =>
      rcases answers with rfl
      exact same rfl fun _ => rfl
  | txSend tx item =>
      rcases answers with rfl
      exact same rfl fun _ => rfl
  | recv receiver =>
      rcases answers with ⟨_, _, _, rfl⟩
      exact same rfl fun _ => rfl

end SharedServer

/-! ## The layer is kept -/

section Keeps

variable {MayFail : StorageOp → Prop} {initial : String × String → List Record} {id : Nat}
  {history : ServerHistory} {after : SharedServer} {event : ServerEvent}

/-- A step that sends no command and moves no actor. -/
theorem Recorded.quiet (recorded : Recorded history) (leaves : history.shared.Leaves id after)
    (actors : after.actors = history.shared.actors)
    (quiet : ∀ tx, ServerEvent.command tx event = none)
    (silent : ∀ tx, ServerEvent.sends tx event = none) : Recorded (history.next event after) := by
  refine recorded.snoc leaves (fun tx => ?_) (fun {tx actor} present => ?_) fun {tx _ _} sends => ?_
  · rw [quiet, Option.toList_none, List.append_nil]
    exact SharedServer.commands_of_actors actors tx
  · rw [actors] at present
    exact recorded.announced present
  · rw [silent] at sends
    cases sends

theorem keeps_recording (MayFail : StorageOp → Prop) (MayDrop : ServerOp → Prop)
    (initial : String × String → List Record) :
    (logDiscipline MayFail initial).KeepsLayer (SharedServer.environment MayFail MayDrop False)
      recording where
  known {id other call standing history after} different _ changes knows := by
    rcases after with ⟨past, shared⟩
    rcases changes with ⟨⟨⟨leaves, _⟩, _⟩, event, rfl, alone⟩
    refine knows.2.kept leaves fun tx data sends => ?_
    exact different (alone other (ServerEvent.sends_task sends))
  started {id call code history after} holds idle starts undisturbed := by
    rcases starts.asks holds.1.1.1 idle with ⟨basin, stream, locks, facts, meets⟩
    have actors : after.actors = history.shared.actors := by cases starts <;> rfl
    have leaves := undisturbed.changes.1.1
    exact ⟨⟨holds.2.quiet leaves actors (fun _ => rfl) fun _ => rfl, _, rfl,
        fun _ same => (Option.some.inj same).symm⟩,
      .free basin stream, ⟨⟨⟨⟨locks, facts⟩, trivial⟩, trivial⟩, holds.2.due_started leaves call⟩,
      meets⟩
  called {id call standing history after op answer} holds knows allowed answers undisturbed _ := by
    have leaves := undisturbed.changes.1.1
    have commands := SharedServer.commands_answers holds.2.announced answers
    exact ⟨⟨holds.2.snoc leaves commands.1 commands.2
        (Standing.due_sends holds.1.1.1 leaves knows.1.1.1.2 knows.2 allowed), _, rfl,
        fun _ same => (Option.some.inj same).symm⟩,
      Standing.due_called leaves knows.2 allowed⟩
  turned holds knows _ _ undisturbed :=
    ⟨⟨holds.2.quiet undisturbed.changes.1.1 rfl (fun _ => rfl) fun _ => rfl, _, rfl,
      fun _ same => (Option.some.inj same).symm⟩, knows.2.kept undisturbed.changes.1.1 nofun⟩
  returned holds _ _ _ undisturbed :=
    ⟨holds.2.quiet undisturbed.changes.1.1 rfl (fun _ => rfl) fun _ => rfl, _, rfl,
      fun _ same => (Option.some.inj same).symm⟩
  dropped holds _ _ undisturbed :=
    ⟨holds.2.quiet undisturbed.changes.1.1 rfl (fun _ => rfl) fun _ => rfl, _, rfl,
      fun _ same => (Option.some.inj same).symm⟩
  moved {history after} holds moves undisturbed id := by
    cases moves with
    | actor present taken =>
        refine ⟨holds.2.snoc (undisturbed id).changes.1.1 (fun tx => ?_)
          (fun {tx actor} found => ?_) nofun, _, rfl, nofun⟩
        · exact (SharedServer.commands_acted present taken tx).trans (List.append_nil _).symm
        · rcases SharedServer.Answering.present_set found with ⟨rfl, rfl⟩ | ⟨_, earlier⟩
          · exact (holds.2.announced present).step taken
          · exact holds.2.announced earlier
  reset _ resets := resets.1.elim

end Keeps

/-! ## Runs -/

namespace ServerPool

variable {MayFail : StorageOp → Prop} {MayDrop : ServerOp → Prop} {stores : Stores}

theorem recording_start (MayFail : StorageOp → Prop) (sound : stores.Sound)
    (new : stores.journal = []) (pastRecords : ∀ name, stores.LoadsPastRecords name) :
    ((logDiscipline MayFail stores.log).under recording).Orderly [] (start stores) where
  holds := by
    refine ⟨(logging_start MayFail sound new pastRecords).holds, ?_⟩
    exact ⟨fun _ => rfl, nofun, fun _ _ => Nat.le_refl _⟩
  follows found := nomatch found
  idle _ _ := nofun

/-! ## A stream that is loaded -/

/-- What a server has left that has appended one record. -/
def storesLeft : Stores :=
  { ((Stores.opened.createdBasin "orders" 1).created "events" ⟨1, 2⟩).appended ⟨1, 2⟩ none
      ⟨0, [96]⟩ with journal := [] }

/-- Loaded again, the stream goes on behind the block that it has drawn from. -/
theorem storesLeft_consistent :
    Consistent storesLeft.recordStorage ⟨⟨4096, ⟨0, 4096⟩⟩, ⟨1, 2⟩⟩ [⟨0, [96]⟩] := by
  let created : Stores := (Stores.opened.createdBasin "orders" 1).created "events" ⟨1, 2⟩
  have empty : Consistent created.recordStorage ⟨SequenceAllocator.default, ⟨1, 2⟩⟩ [] :=
    ⟨SequenceAllocator.valid_default, NumberedLog.ascending_nil, List.forall_mem_nil _,
      fun n => Stores.record_created _ _ _ _ n⟩
  have draws : Stream.Draws ⟨SequenceAllocator.default, ⟨1, 2⟩⟩ none ⟨1, ⟨0, 4096⟩⟩ := by decide
  have held := empty.written draws [96]
  have resumes : SequenceAllocator.new ⟨0, 4096⟩ = some ⟨4096, ⟨0, 4096⟩⟩ := by decide
  exact .of_block held.ascending held.stored (by decide) (by decide) resumes

theorem storesLeft_sound : storesLeft.Sound := by
  have soundBasin : (Stores.opened.createdBasin "orders" 1).Sound :=
    Stores.sound_opened.createdBasin List.not_mem_nil
  have soundCreated : ((Stores.opened.createdBasin "orders" 1).created "events" ⟨1, 2⟩).Sound :=
    soundBasin.created (by decide) (by decide)
  exact (soundCreated.appended none ⟨0, [96]⟩ (by decide)).started

theorem storesLeft_named {name : String × String} {metadata : StreamMetadata}
    (named : storesLeft.named name.1 name.2 = some metadata) : metadata = ⟨1, 2⟩ := by
  rcases Stores.named_eq_some.mp named with ⟨basinId, _, found⟩
  have found : ((Stores.opened.createdBasin "orders" 1).created "events" ⟨1, 2⟩).streamMetadata
    basinId name.2 = some metadata := found
  rw [Stores.streamMetadata_created] at found
  split at found
  · exact (Option.some.inj found).symm
  · rw [Stores.streamMetadata_createdBasin] at found
    cases found

theorem storesLeft_reserved : storesLeft.recordStorage.get (StreamMetadata.blockKey ⟨1, 2⟩) =
    some (SeqBlock.serialise ⟨0, 4096⟩) := by
  decide +kernel

theorem storesLeft_loads (name : String × String) : storesLeft.LoadsPastRecords name := by
  intro metadata stream named loaded
  have same := storesLeft_named named
  subst same
  have held := storesLeft_consistent
  exact Stores.loadsPastRecords_of_covers named storesLeft_reserved (by decide) held.ascending
    held.stored (by decide) _ _ named loaded

/-- A task finds a stream that was stored before the server started. -/
theorem opened_loaded (MayFail : StorageOp → Prop) :
    ∃ events pool,
      Run (Pool.Step (SharedServer.environment MayFail (fun _ => False) False)) (start storesLeft)
        events pool ∧
      pool.shared.Opened ("orders", "events") ⟨0, 1⟩ ⟨0⟩ ⟨⟨4096, ⟨0, 4096⟩⟩, ⟨1, 2⟩⟩ ∧
      pool.tasks 1 = none ∧ pool.shared.stores = storesLeft := by
  let origin : ServerCall := .append "orders" "events" [99]
  let metadata : StreamMetadata := ⟨1, 2⟩
  let stream : Stream := ⟨⟨4096, ⟨0, 4096⟩⟩, metadata⟩
  let handle : BasinHandle := ⟨0, 1⟩
  let returns : Except ControllerError UInt64 → Program server ServerResult := fun result =>
    .done (.appended result)
  let appends : Except ControllerError StreamHandle → Program server ServerResult := fun found =>
    (StreamController.andThen (fun stream => StreamController.appendTo stream [99]) found).bind
      returns
  have readStream : storesLeft.metaStorage.read (Stream.constructMetadataKey 1 "events") =
      some ⟨Stream.constructMetadataKey 1 "events", metadata.serialise⟩ := by
    decide +kernel
  have resumes : SequenceAllocator.resume (some ⟨0, 4096⟩) = some ⟨4096, ⟨0, 4096⟩⟩ := by decide
  have code : origin.code = (StreamController.getOrCreateBasin "orders").run.bind fun basin =>
      (StreamController.andThen (fun basin => (basin.getStream "events" true).run.bind <|
        StreamController.andThen fun stream => StreamController.appendTo stream [99]) basin).bind
          returns :=
    (congrArg (Program.bind · _) (StreamController.append_eq "orders" "events" [99])).trans
      (Program.bind_assoc _ _ _)
  have began : Run (Pool.Step (SharedServer.environment MayFail (fun _ => False) False))
      (start storesLeft) [.started 0 origin]
      ((start storesLeft).set 0 (start storesLeft).shared (some ⟨origin, origin.code⟩)) :=
    .single (.started rfl (.request rfl))
  -- the code stays in the form of its calls, so that an answer leaves the next call in sight
  rw [code, StreamController.getOrCreateBasin, StreamController.getBasin_eq] at began
  have read := run_called (.readBasins "orders") none began ⟨rfl, rfl⟩
  have locked := run_called .lockBasinInit () read ⟨rfl, rfl⟩
  have missed := run_called (.readBasins "orders") none locked ⟨rfl, rfl⟩
  have known := run_called (.storage (.get .metaStorage (Basin.constructMetadataKey "orders")))
    (.ok (some ⟨Basin.constructMetadataKey "orders", putU128 1⟩)) missed ⟨_, ⟨rfl, rfl⟩, rfl⟩
  have handled := run_called (.newBasinHandle ⟨1, "orders"⟩) handle known ⟨rfl, rfl⟩
  have placed := run_called (.insertBasin "orders" handle) () handled rfl
  have resolved : Run _ _ _ (Pool.set _ _ _ (some ⟨origin,
      ((handle.getStream "events" true).run.bind <| StreamController.andThen fun stream =>
        StreamController.appendTo stream [99]).bind returns⟩)) :=
    run_called .unlockBasinInit () placed rfl
  rw [Program.bind_assoc, BasinHandle.getStream_eq] at resolved
  have looked := run_called (.readStreams handle "events") none resolved ⟨rfl, rfl⟩
  have claimed := run_called (.lockStreamInit handle) () looked ⟨rfl, rfl⟩
  have again : Run _ _ _ (Pool.set _ _ _ (some ⟨origin,
      ((handle.openStream "events" true).bind handle.releaseStream).bind appends⟩)) :=
    run_called (.readStreams handle "events") none claimed ⟨rfl, rfl⟩
  rw [BasinHandle.openStream, Stream.load_eq] at again
  have sought : Run _ _ _ (Pool.set _ _ _ (some ⟨origin, ((storageCalls
      (Stream.loadNamed 1 "events"
        (.ok (some ⟨Stream.constructMetadataKey 1 "events", metadata.serialise⟩)))).bind
          (handle.loadedStream "events" true) |>.bind handle.releaseStream).bind appends⟩)) :=
    run_called (.storage (.get .metaStorage (Stream.constructMetadataKey 1 "events"))) _ again
      ⟨_, ⟨readStream.symm, rfl⟩, rfl⟩
  rw [Stream.loadNamed_serialise] at sought
  have loaded : Run _ _ _ (Pool.set _ _ _ (some ⟨origin, ((storageCalls
      (Stream.loadResult metadata (.ok (storesLeft.recordStorage.read metadata.blockKey)))).bind
          (handle.loadedStream "events" true) |>.bind handle.releaseStream).bind appends⟩)) :=
    run_called (.storage (.get .recordStorage metadata.blockKey)) _ sought ⟨_, ⟨rfl, rfl⟩, rfl⟩
  rw [Stream.loadResult_resume storesLeft_reserved resumes] at loaded
  have spawned := run_called (.spawn stream) ⟨0⟩ loaded ⟨rfl, rfl⟩
  have cached := run_called (.insertStream handle "events" ⟨0⟩) () spawned rfl
  have released := run_called (.unlockStreamInit handle) () cached rfl
  exact ⟨_, _, released, ⟨rfl, rfl, _, _, _, rfl⟩, rfl, rfl⟩

/-! ## Logs that grow -/

/-- From stores whose streams, when they are loaded, go on past their records, a log only grows,
at its end, and the records that come into it are those of different tasks that have been
started to append under its name. -/
theorem logs_appended (sound : stores.Sound) (new : stores.journal = [])
    (pastRecords : ∀ name, stores.LoadsPastRecords name) {events : List ServerEvent}
    {last : ServerPool}
    (run : Run (Pool.Step (SharedServer.environment MayFail MayDrop False)) (start stores) events
      last)
    (name : String × String) :
    ∃ added, last.shared.stores.log name = stores.log name ++ added ∧
      NumberedLog.Ascending Record.number added ∧
      (∀ earlier ∈ stores.log name, ∀ record ∈ added, earlier.number < record.number) ∧
      List.Subperm (added.map Record.data)
        ((events.filterMap (ServerEvent.begins name)).map Prod.snd) := by
  have orderly := (recording_start MayFail sound new pastRecords).run
    ((logDiscipline_keeps MayFail MayDrop stores.log).under
      (keeps_recording MayFail MayDrop stores.log))
    (fun _ => trivial) run trivial
  rw [List.nil_append] at orderly
  rcases orderly.holds with ⟨⟨⟨owned, _⟩, logged⟩, recorded⟩
  by_cases cached : ∃ stream, last.shared.Cached name stream
  · rcases cached with ⟨stream, cached⟩
    rcases logged.serves cached with ⟨metadata, log, actor, phase, serves⟩
    rcases (recorded.announced serves.present).added serves.actorLog with ⟨added, is, sublist⟩
    have ascending := serves.actorLog.ascending
    rw [is] at ascending
    rcases List.pairwise_append.mp ascending with ⟨_, later, apart⟩
    refine ⟨added, serves.log_eq.trans is, later, apart, ?_⟩
    have leadsTo : last.shared.LeadsTo stream.tx name := fun other found =>
      Option.some.inj (found.symm.trans (owned.names_of_cached cached))
    have asked : List.Subperm (events.filterMap (ServerEvent.sends stream.tx))
        (events.filterMap (ServerEvent.begins name)) :=
      List.subperm_ext_iff.mpr fun ask _ => recorded.asked ask leadsTo
    have sent : (events.filterMap (ServerEvent.sends stream.tx)).map Prod.snd =
        (actor.taken ++ actor.queue).filterMap StreamCommand.data := by
      rw [← SharedServer.commands_of_some serves.present, recorded.commands, List.map_filterMap,
        List.filterMap_filterMap]
      exact congrFun (congrArg _ (funext fun event => ServerEvent.map_sends _ event)) _
    rcases asked with ⟨started, perm, part⟩
    refine List.Subperm.trans (List.Sublist.subperm ?_) ⟨_, perm.map Prod.snd, part.map Prod.snd⟩
    rw [sent, List.filterMap_append]
    exact sublist.trans (List.sublist_append_left _ _)
  · have same := (logged.uncached fun stream is => cached ⟨stream, is⟩).2
    exact ⟨[], same.trans (List.append_nil _).symm, .nil, nofun, List.nil_subperm⟩

/-- Two records come into a log that holds one already. -/
theorem logs_appended_twice :
    ∃ events last,
      Run (Pool.Step (SharedServer.environment (fun _ => True) (fun _ => False) False))
        (start storesLeft) events last ∧
      storesLeft.log ("orders", "events") = [⟨0, [96]⟩] ∧
      ∃ added, added = [⟨4096, [97]⟩, ⟨4097, [98]⟩] ∧
        last.shared.stores.log ("orders", "events") =
          storesLeft.log ("orders", "events") ++ added ∧
        NumberedLog.Ascending Record.number added ∧
        (∀ earlier ∈ storesLeft.log ("orders", "events"), ∀ record ∈ added,
          earlier.number < record.number) ∧
        List.Subperm (added.map Record.data)
          ((events.filterMap (ServerEvent.begins ("orders", "events"))).map Prod.snd) := by
  have draws : Stream.Draws ⟨⟨4096, ⟨0, 4096⟩⟩, ⟨1, 2⟩⟩ (some ⟨4096, 4096⟩)
      ⟨4097, ⟨4096, 4096⟩⟩ := by decide
  have goesOn : Stream.Draws ⟨⟨4097, ⟨4096, 4096⟩⟩, ⟨1, 2⟩⟩ none ⟨4098, ⟨4096, 4096⟩⟩ := by decide
  rcases opened_loaded fun _ => True with ⟨events, pool, loads, opened, absent, found⟩
  rcases appends_alone opened absent (by decide) (by decide) draws [97] with
    ⟨first, pool, appends, _, _, _, opened, tasks, wrote⟩
  rcases appends_alone opened (tasks ▸ absent) (by decide) (by decide) goesOn [98] with
    ⟨second, last, appendsNext, _, _, _, _, _, added⟩
  have run := (loads.trans appends).trans appendsNext
  rw [wrote, found] at added
  have before := storesLeft_consistent
  have after := (before.written draws [97]).written goesOn [98]
  have named : storesLeft.named "orders" "events" = some ⟨1, 2⟩ := by decide +kernel
  have held : storesLeft.log ("orders", "events") = [⟨0, [96]⟩] :=
    (Stores.log_of_named named).trans (before.stored.log_eq before.ascending)
  have holds : last.shared.stores.log ("orders", "events") =
      [⟨0, [96]⟩, ⟨4096, [97]⟩, ⟨4097, [98]⟩] := by
    rw [added]
    exact (Stores.log_of_named named).trans (after.stored.log_eq after.ascending)
  rcases logs_appended storesLeft_sound rfl storesLeft_loads run ("orders", "events") with
    ⟨new, grown, rest⟩
  refine ⟨_, last, run, held, new, ?_, grown, rest⟩
  rw [holds, held] at grown
  have same : [⟨0, [96]⟩] ++ [⟨4096, [97]⟩, ⟨4097, [98]⟩] = [(⟨0, [96]⟩ : Record)] ++ new := grown
  exact (List.append_cancel_left same).symm

end ServerPool

end Slatestreams
