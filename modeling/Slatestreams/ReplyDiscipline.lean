import Slatestreams.Foundation.PoolProgress
import Slatestreams.OneIdentity

/-! # Every command is owed a reply

An actor that has taken a command replies to it, unless it panics, and what is
sent over a one-shot channel is what its receiver waits for. -/

namespace Slatestreams

open Foundation

/-! ## The loop body -/

/-- The program replies to the command before it is done, or panics. -/
def StreamCommand.Owed (self : StreamCommand) : Program streamActor Stream → Prop
  | .done _ => False
  | .panic _ => True
  | .call op next =>
      (∃ value : self.kind.Value, op = .reply self.kind self.replyTx value) ∨
        ∀ answer, self.Owed (next answer)

/-- Replies go to commands that have been taken. -/
def ActorOp.RepliesTo (taken : List StreamCommand) : ActorOp → Prop
  | .reply kind replyTx _ => ∃ command ∈ taken, command.kind = kind ∧ command.replyTx = replyTx
  | _ => True

namespace ActorPhase

variable {stream : Stream} {command : StreamCommand} {taken : List StreamCommand}

theorem owed_answerCode (stream : Stream) (command : StreamCommand) (value : command.kind.Value) :
    command.Owed (answerCode stream command value) :=
  .inl ⟨value, rfl⟩

theorem owed_handle (stream : Stream) (command : StreamCommand) :
    command.Owed (StreamActor.handle stream command) := by
  rcases handle_begins stream command with ⟨phase, is, begins⟩
  rw [is]
  cases begins with
  | append draws =>
      refine .inr fun answer => ?_
      cases answer with
      | ok => exact .inr fun _ => owed_answerCode _ _ _
      | error error => exact owed_answerCode _ _ _
  | overflow => trivial
  | read => exact .inr fun answer => owed_answerCode _ _ _
  | subscribe => exact .inr fun receiver => owed_answerCode _ _ _

theorem repliesTo_answerCode (stream : Stream) (value : command.kind.Value)
    (member : command ∈ taken) :
    (answerCode stream command value).Only (ActorOp.RepliesTo taken) :=
  ⟨⟨command, member, rfl, rfl⟩, fun _ => trivial⟩

theorem repliesTo_handle (stream : Stream) (member : command ∈ taken) :
    (StreamActor.handle stream command).Only (ActorOp.RepliesTo taken) := by
  rcases handle_begins stream command with ⟨phase, is, begins⟩
  rw [is]
  cases begins with
  | append draws =>
      refine ⟨trivial, fun answer => ?_⟩
      cases answer with
      | ok => exact ⟨trivial, fun _ => repliesTo_answerCode _ _ member⟩
      | error error => exact repliesTo_answerCode _ _ member
  | overflow => trivial
  | read => exact ⟨trivial, fun _ => repliesTo_answerCode _ _ member⟩
  | subscribe => exact ⟨trivial, fun _ => repliesTo_answerCode _ _ member⟩

end ActorPhase

/-! ## Commands and replies -/

namespace SharedServer

/-- The command has been put into the queue of an actor. -/
def Sent (self : SharedServer) (command : StreamCommand) : Prop :=
  ∃ (tx : Nat) (actor : StreamActor), self.actors[tx]? = some actor ∧
    command ∈ actor.taken ++ actor.queue

/-- Each reply is to a command of its kind, and each command that has been taken has its
reply or is owed it. -/
structure Answering (server : SharedServer) : Prop where
  issued {command : StreamCommand} : server.Sent command → command.replyTx < server.nextReply
  kinds {left right : StreamCommand} : server.Sent left → server.Sent right →
    left.replyTx = right.replyTx → left.kind = right.kind
  replied {replyRx : ReplyId} {value : Sigma ReplyKind.Value} :
    server.replies replyRx = some value →
      ∃ command, server.Sent command ∧ command.replyTx = replyRx ∧ command.kind = value.1
  bodies {tx : Nat} {actor : StreamActor} : server.actors[tx]? = some actor →
    actor.code.Only (ActorOp.RepliesTo actor.taken)
  owed {tx : Nat} {actor : StreamActor} {command : StreamCommand} :
    server.actors[tx]? = some actor → command ∈ actor.taken →
      (∃ value, server.replies command.replyTx = some ⟨command.kind, value⟩) ∨
        command.Owed actor.code

/-- The actors keep the commands they have been sent. -/
def KeepsCommands (before after : SharedServer) : Prop :=
  ∀ (tx : Nat) (actor : StreamActor), before.actors[tx]? = some actor →
    ∃ next, after.actors[tx]? = some next ∧
      ∀ command ∈ actor.taken ++ actor.queue, command ∈ next.taken ++ next.queue

theorem KeepsCommands.of_actors {before after : SharedServer}
    (actors : after.actors = before.actors) : KeepsCommands before after := by
  intro tx actor present
  exact ⟨actor, actors ▸ present, fun _ member => member⟩

theorem KeepsCommands.sent {before after : SharedServer} (keeps : KeepsCommands before after)
    {command : StreamCommand} (sent : before.Sent command) : after.Sent command := by
  rcases sent with ⟨tx, actor, present, member⟩
  rcases keeps tx actor present with ⟨next, present, kept⟩
  exact ⟨tx, next, present, kept command member⟩

namespace Answering

variable {server after : SharedServer}

theorem start (stores : Stores) : (SharedServer.start stores).Answering where
  issued sent := by
    rcases sent with ⟨_, _, present, _⟩
    cases present
  kinds sent := by
    rcases sent with ⟨_, _, present, _⟩
    cases present
  replied found := nomatch found
  bodies present := nomatch present
  owed present := nomatch present

/-- What is not about actors and replies leaves them as they are. -/
theorem of_actors (answering : server.Answering) (actors : after.actors = server.actors)
    (replies : after.replies = server.replies) (nextReply : after.nextReply = server.nextReply) :
    after.Answering := by
  have sent {command : StreamCommand} : after.Sent command ↔ server.Sent command := by
    unfold SharedServer.Sent
    rw [actors]
  exact
    { issued := fun {command} is => by
        rw [nextReply]
        exact answering.issued (sent.mp is)
      kinds := fun left right => answering.kinds (sent.mp left) (sent.mp right)
      replied := fun {replyRx value} found => by
        rw [replies] at found
        rcases answering.replied found with ⟨command, is, same⟩
        exact ⟨command, sent.mpr is, same⟩
      bodies := fun {tx actor} present => by
        rw [actors] at present
        exact answering.bodies present
      owed := fun {tx actor command} present member => by
        rw [actors] at present
        rw [replies]
        exact answering.owed present member }

theorem keeps_spawn (server : SharedServer) (name : String × String) (stream : Stream) :
    KeepsCommands server (server.spawn name stream) := by
  intro tx actor present
  refine ⟨actor, ?_, fun _ member => member⟩
  exact (List.getElem?_append_left (List.getElem?_eq_some_iff.mp present).1).trans present

theorem spawn (answering : server.Answering) (name : String × String) (stream : Stream) :
    (server.spawn name stream).Answering := by
  have either {tx : Nat} {actor : StreamActor}
      (present : (server.spawn name stream).actors[tx]? = some actor) :
      server.actors[tx]? = some actor ∨ actor = .spawn server.actors.length stream := by
    have member := List.mem_of_getElem? present
    by_cases earlier : tx < server.actors.length
    · left
      exact (List.getElem?_append_left earlier).symm.trans present
    · right
      rw [SharedServer.spawn, List.getElem?_append_right (Nat.le_of_not_lt earlier)] at present
      exact List.mem_singleton.mp (List.mem_of_getElem? present)
  have sent {command : StreamCommand} (is : (server.spawn name stream).Sent command) :
      server.Sent command := by
    rcases is with ⟨tx, actor, present, member⟩
    rcases either present with earlier | rfl
    · exact ⟨tx, actor, earlier, member⟩
    · exact absurd member List.not_mem_nil
  exact
    { issued := fun is => answering.issued (sent is)
      kinds := fun left right => answering.kinds (sent left) (sent right)
      replied := fun found => by
        rcases answering.replied found with ⟨command, is, same⟩
        exact ⟨command, (keeps_spawn server name stream).sent is, same⟩
      bodies := fun {tx actor} present => by
        rcases either present with earlier | rfl
        · exact answering.bodies earlier
        · trivial
      owed := fun {tx actor command} present member => by
        rcases either present with earlier | rfl
        · exact answering.owed earlier member
        · exact absurd member List.not_mem_nil }

/-- One actor has moved on. -/
theorem present_set {actors : List StreamActor} {tx other : Nat} {next actor : StreamActor}
    (present : (actors.set tx next)[other]? = some actor) :
    other = tx ∧ actor = next ∨ other ≠ tx ∧ actors[other]? = some actor := by
  by_cases same : other = tx
  · subst same
    rw [List.getElem?_set_self'] at present
    rcases Option.map_eq_some_iff.mp present with ⟨_, _, rfl⟩
    exact .inl ⟨rfl, rfl⟩
  · rw [List.getElem?_set_ne fun equal => same equal.symm] at present
    exact .inr ⟨same, present⟩

theorem keeps_set {actors : List StreamActor} {tx : Nat} {actor next : StreamActor}
    (present : actors[tx]? = some actor)
    (kept : ∀ command ∈ actor.taken ++ actor.queue, command ∈ next.taken ++ next.queue)
    {other : Nat} {earlier : StreamActor} (found : actors[other]? = some earlier) :
    ∃ later, (actors.set tx next)[other]? = some later ∧
      ∀ command ∈ earlier.taken ++ earlier.queue, command ∈ later.taken ++ later.queue := by
  by_cases same : other = tx
  · subst same
    rw [found] at present
    cases present
    exact ⟨next, List.getElem?_set_self (List.getElem?_eq_some_iff.mp found).1, kept⟩
  · refine ⟨earlier, ?_, fun _ member => member⟩
    rw [List.getElem?_set_ne fun equal => same equal.symm]
    exact found

theorem keeps_enqueue {tx : Nat} {actor : StreamActor}
    (present : server.actors[tx]? = some actor) (command : ReplyId → StreamCommand) :
    KeepsCommands server (server.enqueue tx actor command) := by
  intro other earlier found
  refine keeps_set present ?_ found
  intro command member
  rw [← List.append_assoc]
  exact List.mem_append_left _ member

theorem enqueue (answering : server.Answering) {tx : Nat} {actor : StreamActor}
    (present : server.actors[tx]? = some actor) {command : ReplyId → StreamCommand}
    (replyTx : ∀ id, (command id).replyTx = id) :
    (server.enqueue tx actor command).Answering := by
  have sent {other : StreamCommand} (is : (server.enqueue tx actor command).Sent other) :
      server.Sent other ∨ other = command server.nextReply := by
    rcases is with ⟨index, later, found, member⟩
    rcases present_set found with ⟨rfl, rfl⟩ | ⟨_, earlier⟩
    · rw [← List.append_assoc] at member
      rcases List.mem_append.mp member with earlier | last
      · exact .inl ⟨index, actor, present, earlier⟩
      · exact .inr (List.mem_singleton.mp last)
    · exact .inl ⟨index, later, earlier, member⟩
  have kept := keeps_enqueue present command
  exact
    { issued := fun {other} is => by
        change other.replyTx < server.nextReply + 1
        rcases sent is with earlier | rfl
        · exact Nat.lt_succ_of_lt (answering.issued earlier)
        · rw [replyTx]
          exact Nat.lt_succ_self _
      kinds := fun {left right} first second same => by
        rcases sent first with earlier | rfl
        · rcases sent second with other | rfl
          · exact answering.kinds earlier other same
          · have less := answering.issued earlier
            rw [same, replyTx] at less
            exact absurd less (Nat.lt_irrefl _)
        · rcases sent second with other | rfl
          · have less := answering.issued other
            rw [← same, replyTx] at less
            exact absurd less (Nat.lt_irrefl _)
          · rfl
      replied := fun found => by
        rcases answering.replied found with ⟨other, is, same⟩
        exact ⟨other, kept.sent is, same⟩
      bodies := fun {index later} found => by
        rcases present_set found with ⟨rfl, rfl⟩ | ⟨_, earlier⟩
        · have only : actor.code.Only (ActorOp.RepliesTo actor.taken) := answering.bodies present
          exact only
        · exact answering.bodies earlier
      owed := fun {index later other} found member => by
        rcases present_set found with ⟨rfl, rfl⟩ | ⟨_, earlier⟩
        · have owed : (∃ value, server.replies other.replyTx = some ⟨other.kind, value⟩) ∨
              other.Owed actor.code := answering.owed present member
          exact owed
        · exact answering.owed earlier member }

/-- An actor has moved on with the commands it has been sent, and perhaps replied to one. -/
theorem moved (answering : server.Answering) {tx : Nat} {actor : StreamActor} (next : StreamActor)
    (present : server.actors[tx]? = some actor) (stores : Stores) {replies : Replies}
    (commands : ∀ command, command ∈ next.taken ++ next.queue ↔
      command ∈ actor.taken ++ actor.queue)
    (bodies : next.code.Only (ActorOp.RepliesTo next.taken))
    (replied : ∀ replyRx value, replies replyRx = some value →
      ∃ command, server.Sent command ∧ command.replyTx = replyRx ∧ command.kind = value.1)
    (kept : ∀ command, server.Sent command →
      (∃ value, server.replies command.replyTx = some ⟨command.kind, value⟩) →
        ∃ value, replies command.replyTx = some ⟨command.kind, value⟩)
    (owed : ∀ command ∈ next.taken,
      (∃ value, replies command.replyTx = some ⟨command.kind, value⟩) ∨
        command.Owed next.code) :
    let after := { server with stores, actors := server.actors.set tx next, replies }
    after.Answering ∧ KeepsCommands server after := by
  intro after
  have keeps : KeepsCommands server after := fun _ _ found =>
    keeps_set present (fun command member => (commands command).mpr member) found
  have sent {command : StreamCommand} (is : after.Sent command) : server.Sent command := by
    rcases is with ⟨index, later, found, member⟩
    rcases present_set found with ⟨rfl, rfl⟩ | ⟨_, earlier⟩
    · exact ⟨index, actor, present, (commands command).mp member⟩
    · exact ⟨index, later, earlier, member⟩
  refine ⟨?_, keeps⟩
  exact
    { issued := fun is => answering.issued (sent is)
      kinds := fun left right => answering.kinds (sent left) (sent right)
      replied := fun {replyRx value} found => by
        rcases replied replyRx value found with ⟨command, is, same⟩
        exact ⟨command, keeps.sent is, same⟩
      bodies := fun {index later} found => by
        rcases present_set found with ⟨rfl, rfl⟩ | ⟨_, earlier⟩
        · exact bodies
        · exact answering.bodies earlier
      owed := fun {index later command} found member => by
        rcases present_set found with ⟨rfl, rfl⟩ | ⟨_, earlier⟩
        · exact owed command member
        · rcases answering.owed earlier member with answered | owes
          · exact .inl (kept command ⟨index, later, earlier, List.mem_append_left _ member⟩
              answered)
          · exact .inr owes }

/-- A call of the loop body that is no reply. -/
theorem worked (answering : server.Answering) {tx : Nat} {actor : StreamActor} {op : ActorOp}
    {next : op.Answer → Program streamActor Stream} (present : server.actors[tx]? = some actor)
    (calls : actor.code = .call (S := streamActor) op next)
    (silent : ∀ kind replyTx value, op ≠ .reply kind replyTx value) (answer : op.Answer)
    (stores : Stores) (sent : List Record) :
    let moved := { actor with code := next answer, sent }
    let after := { server with stores, actors := server.actors.set tx moved }
    after.Answering ∧ KeepsCommands server after := by
  have bodies := answering.bodies present
  rw [calls] at bodies
  refine answering.moved { actor with code := next answer, sent } present stores
    (fun _ => Iff.rfl) (bodies.2 answer)
    (fun _ _ => answering.replied) (fun _ _ answered => answered) fun command member => ?_
  rcases answering.owed present member with answered | owes
  · exact .inl answered
  · rw [calls] at owes
    rcases owes with ⟨value, is⟩ | rest
    · exact absurd is (silent _ _ _)
    · exact .inr (rest answer)

theorem moves {MayFail : StorageOp → Prop} (answering : server.Answering)
    (moves : server.Moves MayFail after) : after.Answering ∧ KeepsCommands server after := by
  cases moves with
  | actor present taken =>
      rename_i tx actor next effect stores
      have bodies := answering.bodies present
      cases taken with
      | recv waits queued =>
          rename_i stream command queue
          refine answering.moved { actor with
            code := StreamActor.handle stream command
            queue := queue
            taken := actor.taken ++ [command] } present server.stores (fun other => ?_)
            (ActorPhase.repliesTo_handle stream (List.mem_append_right _ List.mem_cons_self))
            (fun _ _ => answering.replied) (fun _ _ answered => answered) fun other member => ?_
          · rw [queued]
            simp only [List.append_assoc, List.singleton_append]
          · rcases List.mem_append.mp member with earlier | last
            · rcases answering.owed present earlier with answered | owes
              · exact .inl answered
              · rw [waits] at owes
                exact owes.elim
            · rw [List.mem_singleton.mp last]
              exact .inr (ActorPhase.owed_handle stream command)
      | storage calls answers => exact answering.worked present calls nofun _ _ actor.sent
      | broadcast calls => exact answering.worked present calls nofun _ _ _
      | subscribe calls => exact answering.worked present calls nofun _ _ actor.sent
      | reply calls =>
          rename_i kind replyTx value rest
          rw [calls] at bodies
          rcases bodies with ⟨⟨owner, taken, rfl, rfl⟩, only⟩
          have ours : server.Sent owner := ⟨tx, actor, present, List.mem_append_left _ taken⟩
          have replied {command : StreamCommand} (sent : server.Sent command)
              (answered : command.replyTx = owner.replyTx ∨
                ∃ value, server.replies command.replyTx = some ⟨command.kind, value⟩) :
              ∃ other, (ActorEffect.replied owner.kind owner.replyTx value).deliver
                server.replies command.replyTx = some ⟨command.kind, other⟩ := by
            rw [ActorEffect.deliver_replied]
            by_cases same : command.replyTx = owner.replyTx
            · have kinds := answering.kinds sent ours same
              rw [if_pos same, kinds]
              exact ⟨value, rfl⟩
            · rw [if_neg same]
              exact answered.resolve_left same
          refine answering.moved { actor with code := rest () } present server.stores
            (fun _ => Iff.rfl) (only ()) (fun replyRx found is => ?_)
            (fun command sent answered => replied sent (.inr answered)) fun command member => ?_
          · rw [ActorEffect.deliver_replied] at is
            by_cases same : replyRx = owner.replyTx
            · rw [if_pos same] at is
              cases is
              exact ⟨owner, ours, same.symm, rfl⟩
            · rw [if_neg same] at is
              exact answering.replied is
          · have sent : server.Sent command := ⟨tx, actor, present, List.mem_append_left _ member⟩
            rcases answering.owed present member with answered | owes
            · exact .inl (replied sent (.inr answered))
            · rw [calls] at owes
              rcases owes with ⟨other, is⟩ | rest
              · have same : command.replyTx = owner.replyTx := by
                  injection is with _ same
                  exact same.symm
                exact .inl (replied sent (.inl same))
              · exact .inr (rest ())

end Answering

end SharedServer

/-! ## Tasks -/

theorem ServerCall.Sends.replyTx {call : ServerCall} {command : ReplyId → StreamCommand}
    (sends : call.Sends command) (id : ReplyId) : (command id).replyTx = id := by
  cases call with
  | append basinName streamName data =>
      rcases sends with rfl
      rfl
  | readFollow basinName streamName startSeqNum =>
      rcases sends with rfl
      rfl
  | follow basinName streamName follower =>
      rcases sends with ⟨seqNum, rfl⟩
      rfl
  | listStreams basinName => exact sends.elim
  | listBasins => exact sends.elim

namespace SharedServer.Answering

variable {MayFail : StorageOp → Prop} {id : Nat} {name : String × String}
  {server after : SharedServer} {op : ServerOp} {answer : op.Answer}

/-- The calls of tasks keep what has been sent and replied. -/
theorem answers (answering : server.Answering)
    (replyTx : ∀ handle command, op = .send handle command → ∀ id, (command id).replyTx = id)
    (answers : server.Answers MayFail id name op answer after) :
    after.Answering ∧ KeepsCommands server after := by
  have same (actors : after.actors = server.actors) (replies : after.replies = server.replies)
      (nextReply : after.nextReply = server.nextReply) :
      after.Answering ∧ KeepsCommands server after :=
    ⟨answering.of_actors actors replies nextReply, .of_actors actors⟩
  cases op with
  | storage op =>
      rcases answers with ⟨stores, _, rfl⟩
      exact same rfl rfl rfl
  | readBasins basinName =>
      rcases answers with ⟨_, rfl⟩
      unfold SharedServer.returned at same ⊢
      split at same <;> exact same rfl rfl rfl
  | insertBasin basinName handle =>
      rcases answers with rfl
      exact same rfl rfl rfl
  | lockBasinInit =>
      rcases answers with ⟨_, rfl⟩
      exact same rfl rfl rfl
  | unlockBasinInit =>
      rcases answers with rfl
      exact same rfl rfl rfl
  | newBasinHandle basin =>
      rcases answers with ⟨_, rfl⟩
      exact same rfl rfl rfl
  | readStreams handle streamName =>
      rcases answers with ⟨_, rfl⟩
      exact same rfl rfl rfl
  | insertStream handle streamName stream =>
      rcases answers with rfl
      exact same rfl rfl rfl
  | lockStreamInit handle =>
      rcases answers with ⟨_, rfl⟩
      exact same rfl rfl rfl
  | unlockStreamInit handle =>
      rcases answers with rfl
      exact same rfl rfl rfl
  | spawn stream =>
      rcases answers with ⟨_, rfl⟩
      exact ⟨answering.spawn name stream, keeps_spawn server name stream⟩
  | send handle command =>
      cases answer with
      | none =>
          rcases answers with ⟨_, rfl⟩
          exact same rfl rfl rfl
      | some replyRx =>
          rcases answers with ⟨actor, present, _, _, _, rfl⟩
          exact ⟨answering.enqueue present (replyTx handle command rfl),
            keeps_enqueue present command⟩
  | receive kind replyRx =>
      cases answer with
      | none =>
          rcases answers with ⟨_, _, rfl⟩
          exact same rfl rfl rfl
      | some value =>
          rcases answers with ⟨_, rfl⟩
          exact same rfl rfl rfl
  | spawnFollower follower =>
      rcases answers with rfl
      exact same rfl rfl rfl
  | txSend tx item =>
      rcases answers with rfl
      exact same rfl rfl rfl
  | recv receiver =>
      rcases answers with ⟨_, _, _, rfl⟩
      exact same rfl rfl rfl

end SharedServer.Answering

namespace Standing

/-- A task that waits for a reply has sent the command that it is for. -/
def Asked (server : SharedServer) : Standing → Prop
  | .waiting stream kind replyRx =>
      ∃ actor command, server.actors[stream.tx]? = some actor ∧
        command ∈ actor.taken ++ actor.queue ∧ command.replyTx = replyRx ∧ command.kind = kind
  | _ => True

variable {MayFail : StorageOp → Prop} {id : Nat} {call : ServerCall} {server after : SharedServer}
  {standing : Standing} {op : ServerOp} {answer : op.Answer}

theorem Asked.kept (asked : standing.Asked server)
    (keeps : SharedServer.KeepsCommands server after) : standing.Asked after := by
  cases standing with
  | waiting stream kind replyRx =>
      rcases asked with ⟨actor, command, present, member, same⟩
      rcases keeps _ actor present with ⟨next, present, kept⟩
      exact ⟨next, command, present, kept command member, same⟩
  | _ => trivial

/-- A reply is waited for once its command has been sent. -/
theorem asked_learn (allowed : standing.Calls call op)
    (answers : server.Answers MayFail id call.name op answer after) :
    (standing.learn op answer).Asked after := by
  cases standing with
  | free basin stream =>
      cases op with
      | send handle command =>
          cases answer with
          | none => trivial
          | some replyRx =>
              rcases answers with ⟨actor, present, _, _, rfl, rfl⟩
              have inside : handle.tx < server.actors.length :=
                (List.getElem?_eq_some_iff.mp present).1
              have replyTx : (command server.nextReply).replyTx = server.nextReply :=
                allowed.2.replyTx _
              refine ⟨_, command server.nextReply, List.getElem?_set_self inside, ?_, replyTx, rfl⟩
              rw [← List.append_assoc]
              exact List.mem_append_right _ List.mem_cons_self
      | _ => trivial
  | atBasin stage =>
      cases op with
      | readBasins basinName => cases answer <;> trivial
      | unlockBasinInit => cases stage <;> trivial
      | _ => trivial
  | atStream handle stage =>
      cases op with
      | readStreams other streamName => cases answer <;> trivial
      | unlockStreamInit other => cases stage <;> trivial
      | _ => trivial
  | waiting stream kind replyRx =>
      rcases allowed with rfl
      cases answer with
      | none => cases kind <;> trivial
      | some value =>
          cases kind with
          | append => cases value <;> trivial
          | read => cases value <;> trivial
          | subscribe => trivial
  | acknowledged replyRx ack => trivial
  | failed => trivial

end Standing

/-! ## The discipline of replies -/

/-- Replies and commands, as the tasks that wait for replies know them. -/
def replying : Discipline.Addition ServerCall SharedServer Standing where
  Holds := SharedServer.Answering
  Knows _ standing server := standing.Asked server
  Leaves := SharedServer.KeepsCommands

def replyDiscipline : Discipline server ServerCall ServerResult SharedServer Standing :=
  nameDiscipline.also replying

theorem SharedServer.Starts.asks {self after : SharedServer} {id : Nat} {call : ServerCall}
    {code : Program server ServerResult} (owned : self.NamesOwned)
    (idle : ∀ lock, self.locks lock ≠ some id) (starts : self.Starts call code after) :
    ∃ basin stream, (Standing.free basin stream).Holds id after ∧
      (Standing.free basin stream).Facts call.name after ∧
      code.Meets (Standing.protocol call) (Standing.Ends call) (.free basin stream) := by
  cases starts with
  | request client =>
      exact ⟨none, none, fun lock => ⟨fun held => absurd held (idle lock), nofun⟩,
        ⟨nofun, nofun⟩, Standing.meets_request call client⟩
  | follower waits =>
      rename_i name follower earlier later
      have member : (name, follower) ∈ self.spawned := by simp [waits]
      exact ⟨none, some follower.readStream,
        fun lock => ⟨fun held => absurd held (idle lock), nofun⟩,
        ⟨nofun, fun _ found => Option.some.inj found ▸ owned.spawned member⟩,
        Standing.meets_start⟩

theorem Standing.Calls.replyTx {call : ServerCall} {standing : Standing} {op : ServerOp}
    (allowed : standing.Calls call op) :
    ∀ handle command, op = .send handle command → ∀ id, (command id).replyTx = id := by
  intro handle command is
  subst is
  cases standing with
  | free basin stream => exact allowed.2.replyTx
  | waiting stream kind replyRx => cases allowed
  | failed =>
      rcases allowed with ⟨_, _, is⟩
      cases is
  | _ => exact allowed.elim

theorem keeps_replying (MayFail : StorageOp → Prop) (MayDrop : ServerOp → Prop)
    (MayRestart : Prop) :
    nameDiscipline.KeepsMore (SharedServer.environment MayFail MayDrop MayRestart) replying where
  refl _ := .of_actors rfl
  known keeps asked := asked.kept keeps
  started {id origin code history after} owned answering idle starts := by
    rcases starts.asks owned idle with ⟨basin, stream, locks, facts, meets⟩
    have same : after.actors = history.shared.actors ∧ after.replies = history.shared.replies ∧
        after.nextReply = history.shared.nextReply := by
      cases starts <;> exact ⟨rfl, rfl, rfl⟩
    exact ⟨answering.of_actors same.1 same.2.1 same.2.2, .of_actors same.1, .free basin stream,
      ⟨locks, facts⟩, trivial, meets⟩
  called _ answering _ _ allowed answers := by
    rcases answering.answers (Standing.Calls.replyTx allowed) answers with ⟨answering, kept⟩
    exact ⟨answering, kept, Standing.asked_learn allowed answers⟩
  released _ _ answering := ⟨answering.of_actors rfl rfl rfl, .of_actors rfl⟩
  moved _ answering moves := answering.moves moves
  reset _ _ resets := by
    rcases resets with ⟨_, rfl⟩
    exact .start _

theorem replyDiscipline_keeps (MayFail : StorageOp → Prop) (MayDrop : ServerOp → Prop)
    (MayRestart : Prop) :
    replyDiscipline.Keeps (SharedServer.environment MayFail MayDrop MayRestart)
      fun _ => True :=
  (nameDiscipline_keeps MayFail MayDrop MayRestart).also (keeps_replying _ _ _)

theorem ServerPool.answering_start {stores : Stores} (distinct : stores.Distinct)
    (new : stores.journal = []) : replyDiscipline.Orderly [] (start stores) where
  holds := ⟨.start distinct (.of_new new), .start stores⟩
  follows found := nomatch found
  idle _ _ := nofun

end Slatestreams
