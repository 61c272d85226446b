import Slatestreams.AppendRuns
import Slatestreams.ReadEndings
import Slatestreams.ServerLogMoves

/-! # The appends of a server

Every command that tasks have put into queues has a reply of its own, so an append that has
returned is told apart from the others by the record it has been told of. -/

namespace Slatestreams

open Foundation

/-! ## Commands in the history -/

/-- The task starts or returns. -/
def ServerEvent.Bounds (id : Nat) : ServerEvent → Prop
  | .started other _ | .returned other _ _ => other = id
  | _ => False

theorem ServerEvent.not_bounds {id : Nat} {event : ServerEvent} (apart : event.task ≠ some id) :
    ¬event.Bounds id := by
  intro bounds
  cases event with
  | started other call =>
      rcases bounds with rfl
      exact apart rfl
  | returned other call value =>
      rcases bounds with rfl
      exact apart rfl
  | _ => exact bounds

/-- The task has put a command into the queue of the stream's actor, and has neither
returned nor started again since. -/
def AskedBy (past : List ServerEvent) (id : Nat) (stream : StreamHandle) (replyRx : ReplyId) :
    Prop :=
  ∃ (before after : List ServerEvent) (command : ReplyId → StreamCommand),
    past = before ++ .called id (.send stream command) (some replyRx) :: after ∧
      ∀ event ∈ after, ¬ServerEvent.Bounds id event

theorem AskedBy.snoc {past : List ServerEvent} {id : Nat} {stream : StreamHandle}
    {replyRx : ReplyId} {event : ServerEvent} (asked : AskedBy past id stream replyRx)
    (goesOn : ¬event.Bounds id) : AskedBy (past ++ [event]) id stream replyRx := by
  rcases asked with ⟨before, after, command, rfl, quiet⟩
  refine ⟨before, after ++ [event], command, by simp, fun other member => ?_⟩
  rcases List.mem_append.mp member with earlier | now
  · exact quiet other earlier
  · exact List.mem_singleton.mp now ▸ goesOn

theorem AskedBy.now (past : List ServerEvent) (id : Nat) (stream : StreamHandle)
    (command : ReplyId → StreamCommand) (replyRx : ReplyId) :
    AskedBy (past ++ [.called id (.send stream command) (some replyRx)]) id stream replyRx :=
  ⟨past, [], command, rfl, fun _ member => nomatch member⟩

/-! ## What holds at every moment -/

/-- The actor has been asked to append the data, and has replied that it has. -/
structure SharedServer.Told (server : SharedServer) (tx : Nat) (data : Bytes) (replyRx : ReplyId)
    (ack : AppendResult) : Prop where
  given : server.Given tx (.append data replyRx)
  replied : server.replies replyRx = some ⟨.append, .ok ack⟩

/-- Each command has its own reply. An append has returned what it was told, no two have
been told the same number, and those that are sent later are told later numbers. -/
structure AppendsTold (history : ServerHistory) : Prop where
  given {id : Nat} {stream : StreamHandle} {command : ReplyId → StreamCommand}
      {replyRx : ReplyId} : .called id (.send stream command) (some replyRx) ∈ history.past →
    history.shared.Given stream.tx (command replyRx) ∧ (command replyRx).replyTx = replyRx
  once {before after earlier later : List ServerEvent} {id other : Nat}
      {stream handle : StreamHandle} {command latter : ReplyId → StreamCommand}
      {replyRx : ReplyId} :
    history.past = before ++ .called id (.send stream command) (some replyRx) :: after →
      history.past = earlier ++ .called other (.send handle latter) (some replyRx) :: later →
        before = earlier
  returned {before after : List ServerEvent} {id : Nat} {name : String × String} {data : Bytes}
      {seqNum : UInt64} :
    history.past =
        before ++ .returned id (.append name.1 name.2 data) (.appended (.ok seqNum)) :: after →
      ∃ stream replyRx ack, AskedBy before id stream replyRx ∧ history.shared.Cached name stream ∧
        history.shared.Told stream.tx data replyRx ack ∧ ack.nextSeqNum = seqNum
  distinct {tx : Nat} {data latter : Bytes} {replyRx other : ReplyId} {ack next : AppendResult} :
    history.shared.Told tx data replyRx ack → history.shared.Told tx latter other next →
      replyRx ≠ other → ack.nextSeqNum ≠ next.nextSeqNum
  ordered {before after : List ServerEvent} {id other : Nat} {name : String × String}
      {stream : StreamHandle} {command : ReplyId → StreamCommand} {replyRx : ReplyId}
      {data latter : Bytes} {seqNum : UInt64} {ack : AppendResult} :
    history.past = before ++ .called id (.send stream command) (some replyRx) :: after →
      .returned other (.append name.1 name.2 data) (.appended (.ok seqNum)) ∈ before →
        history.shared.Cached name stream → history.shared.Told stream.tx latter replyRx ack →
          seqNum < ack.nextSeqNum

/-! ## What a task knows -/

/-- A task that waits has asked, and one whose append is acknowledged has been told. -/
def Standing.Asking (id : Nat) (call : ServerCall) (history : ServerHistory) : Standing → Prop
  | .waiting stream _ replyRx =>
      AskedBy history.past id stream replyRx ∧
        ∀ basinName streamName data, call = .append basinName streamName data →
          history.shared.Given stream.tx (.append data replyRx)
  | .acknowledged replyRx ack =>
      ∃ stream, AskedBy history.past id stream replyRx ∧ history.shared.Cached call.name stream ∧
        ∀ basinName streamName data, call = .append basinName streamName data →
          history.shared.Told stream.tx data replyRx ack
  | _ => True

/-- Events are added one by one, each about one task. -/
def appending : Discipline.Layer server ServerCall ServerResult SharedServer Standing where
  Holds := AppendsTold
  Knows id call standing history := standing.Asking id call history
  Changes := History.Adds

/-! ## Stability -/

namespace SharedServer

variable {MayFail : StorageOp → Prop} {initial : String × String → List Record} {id : Nat}
  {server after : SharedServer}
  {name : String × String} {tx : Nat} {data latter : Bytes} {replyRx other : ReplyId}
  {ack next : AppendResult}

theorem KeepsCommands.given (keeps : KeepsCommands server after) {command : StreamCommand}
    (given : server.Given tx command) : after.Given tx command := by
  rcases given with ⟨actor, present, member⟩
  rcases keeps tx actor present with ⟨next, found, kept⟩
  exact ⟨next, found, kept command member⟩

theorem Told.kept (told : server.Told tx data replyRx ack) (commands : KeepsCommands server after)
    (keeps : KeepsLogs id server after) : after.Told tx data replyRx ack :=
  ⟨commands.given told.given, keeps.replies told.replied⟩

/-- What had its reply before had been sent before. -/
theorem Told.earlier (told : after.Told tx data replyRx ack) (answering : server.Answering)
    (commands : KeepsCommands server after) (keeps : KeepsLogs id server after)
    (logged : after.Logged MayFail initial) {value : Sigma ReplyKind.Value}
    (replied : server.replies replyRx = some value) : server.Told tx data replyRx ack := by
  have same := keeps.replies replied
  rw [told.replied] at same
  cases same
  rcases answering.replied replied with ⟨command, ⟨tx, given⟩, own, _⟩
  rcases logged.apart told.given (commands.given given) own.symm with ⟨rfl, rfl⟩
  exact ⟨given, replied⟩

/-- An append that has been told of its record finds it in the log of its name. -/
theorem Told.inLog (told : server.Told tx data replyRx ack) (logged : server.Logged MayFail initial)
    (cached : server.Cached name ⟨tx⟩) :
    ack.record ∈ server.stores.log name ∧ ack.record.data = data ∧
      ack.nextSeqNum.toNat = ack.record.number + 1 := by
  rcases logged.serves cached with ⟨metadata, log, actor, phase, serves⟩
  rcases told.given with ⟨found, present, member⟩
  have same := Option.some.inj (serves.present.symm.trans present)
  subst same
  rcases List.mem_append.mp member with taken | queued
  · rcases serves.acknowledged taken told.replied with ⟨inLog, payload, following, _⟩
    rw [serves.log_eq]
    exact ⟨inLog, payload, following⟩
  · have none_ := serves.owed (.inr queued)
    change server.replies replyRx = none at none_
    rw [told.replied] at none_
    cases none_

theorem Given.cached {command : StreamCommand} (given : server.Given tx command)
    (owned : server.NamesOwned) : ∃ name, server.Cached name ⟨tx⟩ := by
  rcases given with ⟨actor, present, member⟩
  have commanded : actor.Commanded := by
    rcases List.mem_append.mp member with taken | queued
    · exact .inr (List.ne_nil_of_mem taken)
    · exact .inl (List.ne_nil_of_mem queued)
  rcases owned.commanded present commanded with ⟨name, _, cached⟩
  exact ⟨name, cached⟩

/-- What is told after a step is later than what was told before it. -/
theorem Told.next_lt (told : server.Told tx data replyRx ack) (keeps : KeepsLogs id server after)
    (later : after.Told tx latter other next) (unanswered : server.replies other = none)
    (logged : after.Logged MayFail initial) (owned : after.NamesOwned) :
    ack.nextSeqNum < next.nextSeqNum := by
  have above := keeps.ordered told.given told.replied unanswered later.given later.replied
  rcases later.given.cached owned with ⟨name, cached⟩
  have following := (later.inLog logged cached).2.2
  exact UInt64.lt_iff_toNat_lt.mpr (following ▸ Nat.lt_succ_of_le above)

end SharedServer

theorem Standing.Asking.kept {id other : Nat} {call : ServerCall} {standing : Standing}
    {history : ServerHistory} {event : ServerEvent} {after : SharedServer}
    (asking : standing.Asking other call history) (goesOn : ¬event.Bounds other)
    (leaves : history.shared.Leaves id after)
    (commands : SharedServer.KeepsCommands history.shared after)
    (keeps : history.shared.KeepsLogs id after) :
    standing.Asking other call (history.next event after) := by
  cases standing with
  | waiting stream kind replyRx =>
      refine ⟨asking.1.snoc goesOn, fun basinName streamName data is => ?_⟩
      exact commands.given (asking.2 basinName streamName data is)
  | acknowledged replyRx ack =>
      rcases asking with ⟨stream, asked, cached, told⟩
      refine ⟨stream, asked.snoc goesOn, leaves.cached cached,
        fun basinName streamName data is => ?_⟩
      exact (told basinName streamName data is).kept commands keeps
  | _ => trivial

/-! ## Steps -/

/-- A step that adds one event, which may send a command or return from an append. -/
theorem AppendsTold.snoc {MayFail : StorageOp → Prop} {id : Nat} {history : ServerHistory}
    {after : SharedServer} {event : ServerEvent} (appends : AppendsTold history)
    (answering : history.shared.Answering) (logged : after.Logged MayFail initial)
    (owned : after.NamesOwned) (leaves : history.shared.Leaves id after)
    (commands : SharedServer.KeepsCommands history.shared after)
    (keeps : history.shared.KeepsLogs id after)
    (sends : ∀ other stream command replyRx,
      event = .called other (.send stream command) (some replyRx) →
        replyRx = history.shared.nextReply ∧ after.Given stream.tx (command replyRx) ∧
          (command replyRx).replyTx = replyRx ∧ after.replies replyRx = none)
    (returns : ∀ (other : Nat) (name : String × String) (data : Bytes) (seqNum : UInt64),
      event = .returned other (.append name.1 name.2 data) (.appended (.ok seqNum)) →
        ∃ stream replyRx ack, AskedBy history.past other stream replyRx ∧
          after.Cached name stream ∧ after.Told stream.tx data replyRx ack ∧
          ack.nextSeqNum = seqNum) :
    AppendsTold (history.next event after) := by
  have fresh {other : Nat} {stream : StreamHandle} {command : ReplyId → StreamCommand}
      {replyRx : ReplyId}
      (sent : .called other (.send stream command) (some replyRx) ∈ history.past) :
      replyRx < history.shared.nextReply := by
    rcases appends.given sent with ⟨given, own⟩
    have issued := answering.issued given.sent
    rwa [own] at issued
  have member {before rest : List ServerEvent} {found : ServerEvent}
      (split : history.past = before ++ found :: rest) : found ∈ history.past := by
    rw [split]
    exact List.mem_append_right _ List.mem_cons_self
  exact
    { given := fun sent => by
        rcases List.mem_append.mp sent with earlier | now
        · rcases appends.given earlier with ⟨given, own⟩
          exact ⟨commands.given given, own⟩
        · rcases sends _ _ _ _ (List.mem_singleton.mp now).symm with ⟨_, given, own, _⟩
          exact ⟨given, own⟩
      once := fun first second => by
        rcases snoc_eq_append_cons first with ⟨same, is, _⟩ | ⟨rest, _, left⟩
        · rcases snoc_eq_append_cons second with ⟨also, _, _⟩ | ⟨rest, _, right⟩
          · exact same.symm.trans also
          · have less := fresh (member right)
            rw [(sends _ _ _ _ is).1] at less
            exact absurd less (Nat.lt_irrefl _)
        · rcases snoc_eq_append_cons second with ⟨_, is, _⟩ | ⟨rest, _, right⟩
          · have less := fresh (member left)
            rw [(sends _ _ _ _ is).1] at less
            exact absurd less (Nat.lt_irrefl _)
          · exact appends.once left right
      returned := fun split => by
        rcases snoc_eq_append_cons split with ⟨same, is, _⟩ | ⟨rest, _, earlier⟩
        · rcases returns _ _ _ _ is with ⟨stream, replyRx, ack, asked, rest⟩
          exact ⟨stream, replyRx, ack, same ▸ asked, rest⟩
        · rcases appends.returned earlier with ⟨stream, replyRx, ack, asked, cached, told, is⟩
          exact ⟨stream, replyRx, ack, asked, leaves.cached cached, told.kept commands keeps, is⟩
      distinct := fun {tx data latter replyRx other ack next} first second different => by
        cases left : history.shared.replies replyRx with
        | some value =>
            have before := first.earlier answering commands keeps logged left
            cases right : history.shared.replies other with
            | some value =>
                exact appends.distinct before
                  (second.earlier answering commands keeps logged right) different
            | none =>
                have less := before.next_lt keeps second right logged owned
                exact fun same => UInt64.lt_irrefl _ (same ▸ less)
        | none =>
            cases right : history.shared.replies other with
            | some value =>
                have before := second.earlier answering commands keeps logged right
                have less := before.next_lt keeps first left logged owned
                exact fun same => UInt64.lt_irrefl _ (same ▸ less)
            | none =>
                have one := Option.isSome_iff_exists.mpr ⟨_, first.replied⟩
                have two := Option.isSome_iff_exists.mpr ⟨_, second.replied⟩
                exact absurd (keeps.alone left right one two) different
      ordered := fun {before rest sender other name stream command replyRx data latter seqNum ack}
          split returned cached told => by
        rcases snoc_eq_append_cons split with ⟨_, is, _⟩ | ⟨others, _, earlier⟩
        · have replied := told.replied
          change after.replies replyRx = _ at replied
          rw [(sends _ _ _ _ is).2.2.2] at replied
          cases replied
        · rcases List.append_of_mem returned with ⟨first, last, rfl⟩
          rw [List.append_assoc] at earlier
          rcases appends.returned earlier with ⟨handle, receiver, first', _, placed, known, is⟩
          have same := AppendLine.cached_unique cached (leaves.cached placed)
          subst same
          cases replied : history.shared.replies replyRx with
          | some value =>
              rw [← List.append_assoc] at earlier
              exact appends.ordered earlier returned placed
                (told.earlier answering commands keeps logged replied)
          | none => exact is ▸ known.next_lt keeps told replied logged owned }

/-! ## The layer is kept -/

section Keeps

variable {MayFail : StorageOp → Prop} {initial : String × String → List Record} {id : Nat}
  {history : ServerHistory} {after : SharedServer}
  {event : ServerEvent}

/-- A step of a task that has returned from no append, and has sent what is given. -/
theorem AppendsTold.undisturbed
    (holds : ((logDiscipline MayFail initial).under appending).Holds history)
    (undisturbed :
      (logDiscipline MayFail initial).Undisturbed id history (history.next event after))
    (alone : ∀ other, event.task = some other → other = id)
    (sends : ∀ other stream command replyRx,
      event = .called other (.send stream command) (some replyRx) →
        replyRx = history.shared.nextReply ∧ after.Given stream.tx (command replyRx) ∧
          (command replyRx).replyTx = replyRx ∧ after.replies replyRx = none)
    (returns : ∀ (other : Nat) (name : String × String) (data : Bytes) (seqNum : UInt64),
      event = .returned other (.append name.1 name.2 data) (.appended (.ok seqNum)) →
        ∃ stream replyRx ack, AskedBy history.past other stream replyRx ∧
          after.Cached name stream ∧ after.Told stream.tx data replyRx ack ∧
          ack.nextSeqNum = seqNum) :
    appending.Undisturbed id history (history.next event after) :=
  ⟨holds.2.snoc holds.1.1.2 undisturbed.holds.2 undisturbed.holds.1.1 undisturbed.changes.1.1
      undisturbed.changes.1.2 undisturbed.changes.2 sends returns,
    event, rfl, alone⟩

/-- A command that has been put into a queue is given, under a reply that is new. -/
theorem SharedServer.given_answers {call : ServerCall} {standing : Standing}
    {stream : StreamHandle} {command : ReplyId → StreamCommand} {replyRx : ReplyId}
    (answering : history.shared.Answering)
    (allowed : standing.Calls call (.send stream command))
    (answers : history.shared.Answers MayFail id call.name (.send stream command) (some replyRx)
      after) :
    replyRx = history.shared.nextReply ∧ after.Given stream.tx (command replyRx) ∧
      (command replyRx).replyTx = replyRx ∧ after.replies replyRx = none := by
  have replyTx := Standing.Calls.replyTx allowed stream command rfl
  rcases answers with ⟨actor, present, _, _, rfl, rfl⟩
  have inside : stream.tx < history.shared.actors.length :=
    (List.getElem?_eq_some_iff.mp present).1
  refine ⟨rfl, ⟨_, List.getElem?_set_self inside, ?_⟩, replyTx _,
    answering.unanswered⟩
  rw [← List.append_assoc]
  exact List.mem_append_right _ List.mem_cons_self

/-- A task that has sent waits for its own command, and one that is told has waited for it. -/
theorem Standing.asking_called {call : ServerCall} {standing : Standing} {op : ServerOp}
    {answer : op.Answer} (answering : history.shared.Answering)
    (facts : standing.Facts call.name history.shared)
    (asking : standing.Asking id call history) (allowed : standing.Calls call op)
    (answers : history.shared.Answers MayFail id call.name op answer after) :
    (standing.learn op answer).Asking id call (history.next (.called id op answer) after) := by
  cases standing with
  | free basin stream =>
      cases op with
      | send handle command =>
          cases answer with
          | none => trivial
          | some replyRx =>
              refine ⟨AskedBy.now history.past id handle command replyRx,
                fun basinName streamName data is => ?_⟩
              have sends : call.Sends command := allowed.2
              subst is
              rcases sends with rfl
              exact (@SharedServer.given_answers _ _ _ _ _ (.free basin stream) _ _ _ answering
                allowed answers).2.1
      | _ => trivial
  | atBasin stage =>
      cases op with
      | readBasins basinName => cases answer <;> trivial
      | unlockBasinInit => cases stage <;> trivial
      | _ => trivial
  | atStream handle stage =>
      cases op with
      | readStreams other streamName => cases answer <;> trivial
      | unlockStreamInit other => cases stage <;> trivial
      | _ => trivial
  | waiting stream kind replyRx =>
      rcases allowed with rfl
      cases answer with
      | none => cases kind <;> trivial
      | some value =>
          rcases answers with ⟨replied, rfl⟩
          cases kind with
          | append =>
              cases value with
              | error error => trivial
              | ok ack =>
                  refine ⟨stream, asking.1.snoc fun bounds => bounds, facts,
                    fun basinName streamName data is => ?_⟩
                  exact ⟨asking.2 basinName streamName data is, replied⟩
          | read => cases value <;> trivial
          | subscribe => trivial
  | acknowledged replyRx ack => exact allowed.elim
  | failed => trivial

end Keeps

theorem keeps_appending (MayFail : StorageOp → Prop) (MayDrop : ServerOp → Prop)
    (initial : String × String → List Record) :
    (logDiscipline MayFail initial).KeepsLayer (SharedServer.environment MayFail MayDrop False)
      appending where
  known {id other call standing history after} different _ changes knows := by
    rcases after with ⟨past, shared⟩
    rcases changes with ⟨⟨⟨leaves, commands⟩, keeps⟩, event, rfl, alone⟩
    have goesOn : ¬ServerEvent.Bounds other event :=
      ServerEvent.not_bounds fun about => different (alone other about)
    exact knows.2.kept goesOn leaves commands keeps
  started {id call code history after} holds idle starts undisturbed := by
    rcases starts.asks holds.1.1.1 idle with ⟨basin, stream, locks, facts, meets⟩
    refine ⟨AppendsTold.undisturbed holds undisturbed
        (fun _ same => (Option.some.inj same).symm) nofun nofun,
      .free basin stream, ⟨⟨⟨⟨locks, facts⟩, trivial⟩, trivial⟩, trivial⟩, meets⟩
  called {id call standing history after op answer} holds knows allowed answers undisturbed _ := by
    refine ⟨AppendsTold.undisturbed holds undisturbed (fun _ same => (Option.some.inj same).symm)
      (fun other stream command replyRx is => ?_) nofun, ?_⟩
    · cases is
      have sent : history.shared.Answers MayFail id call.name (.send stream command)
        (some replyRx) after := answers
      exact SharedServer.given_answers holds.1.1.2 allowed sent
    · exact Standing.asking_called holds.1.1.2 knows.1.1.1.2 knows.2 allowed answers
  turned holds knows _ _ undisturbed := by
    refine ⟨AppendsTold.undisturbed holds undisturbed
      (fun _ same => (Option.some.inj same).symm) nofun nofun, ?_⟩
    rcases undisturbed.changes with ⟨⟨leaves, commands⟩, keeps⟩
    exact knows.2.kept (fun bounds => bounds) leaves commands keeps
  returned {id call standing history value} holds knows ends _ undisturbed := by
    refine AppendsTold.undisturbed holds undisturbed
      (fun _ same => (Option.some.inj same).symm) nofun fun other name data seqNum is => ?_
    cases is
    rcases ends with ⟨replyRx, ack, rfl, is⟩
    rcases knows.2 with ⟨stream, asked, cached, told⟩
    rcases undisturbed.changes with ⟨⟨leaves, commands⟩, keeps⟩
    exact ⟨stream, replyRx, ack, asked, leaves.cached cached,
      (told _ _ _ rfl).kept commands keeps, is⟩
  dropped holds _ _ undisturbed :=
    AppendsTold.undisturbed holds undisturbed (fun _ same => (Option.some.inj same).symm) nofun
      nofun
  moved holds _ undisturbed id := AppendsTold.undisturbed holds (undisturbed id) nofun nofun nofun
  reset _ resets := resets.1.elim

/-! ## Runs -/

/-- What a task has asked, it has asked since it started. -/
theorem AskedBy.of_bounds {past earlier later : List ServerEvent} {event : ServerEvent} {id : Nat}
    {stream : StreamHandle} {replyRx : ReplyId} (asked : AskedBy past id stream replyRx)
    (split : past = earlier ++ event :: later) (bounds : event.Bounds id) :
    ∃ between after command,
      past = earlier ++ event :: between ++ .called id (.send stream command) (some replyRx) ::
        after := by
  subst split
  rcases asked with ⟨before, after, command, same, quiet⟩
  rcases List.append_eq_append_iff.mp same with ⟨rest, is, others⟩ | ⟨rest, is, others⟩
  · cases rest with
    | nil =>
        cases others
        exact bounds.elim
    | cons first between =>
        cases others
        exact ⟨between, after, command, by rw [same, is]⟩
  · cases rest with
    | nil =>
        cases others
        exact bounds.elim
    | cons first between =>
        cases others
        exact absurd bounds (quiet event (List.mem_append_right _ List.mem_cons_self))

/-- A command that a task has asked for, and then returned, is not asked for again. -/
theorem AppendsTold.not_asked {history : ServerHistory} (appends : AppendsTold history)
    {before after earlier between : List ServerEvent} {event : ServerEvent} {id other : Nat}
    {stream handle : StreamHandle} {replyRx : ReplyId} (split : history.past = before ++ after)
    (since : before = earlier ++ event :: between) (bounds : event.Bounds other)
    (first : AskedBy earlier other handle replyRx) : ¬AskedBy before id stream replyRx := by
  rintro ⟨past, rest, command, is, quiet⟩
  rcases first with ⟨start, others, latter, rfl, _⟩
  have left : history.past =
      past ++ .called id (.send stream command) (some replyRx) :: (rest ++ after) := by
    rw [split, is, List.append_assoc, List.cons_append]
  have right : history.past = start ++ .called other (.send handle latter) (some replyRx) ::
      (others ++ event :: between ++ after) := by
    rw [split, since]
    simp only [List.append_assoc, List.cons_append]
  rcases appends.once left right with rfl
  rw [since, List.append_assoc, List.cons_append] at is
  cases List.append_cancel_left is
  exact quiet event (List.mem_append_right _ List.mem_cons_self) bounds

namespace ServerPool

variable {MayFail : StorageOp → Prop} {MayDrop : ServerOp → Prop} {stores : Stores}

theorem appending_start (MayFail : StorageOp → Prop) (sound : stores.Sound)
    (new : stores.journal = []) (pastRecords : ∀ name, stores.LoadsPastRecords name) :
    ((logDiscipline MayFail stores.log).under appending).Orderly [] (start stores) where
  holds := by
    refine ⟨(logging_start MayFail sound new pastRecords).holds, ?_⟩
    exact
      { given := nofun
        once := fun first => by simp at first
        returned := fun split => by simp at split
        distinct := fun first => by
          rcases first.given with ⟨_, present, _⟩
          cases present
        ordered := fun split => by simp at split }
  follows found := nomatch found
  idle _ _ := nofun

theorem appending_keeps (MayFail : StorageOp → Prop) (MayDrop : ServerOp → Prop)
    (initial : String × String → List Record) :
    ((logDiscipline MayFail initial).under appending).Keeps
      (SharedServer.environment MayFail MayDrop False) fun _ => True :=
  (logDiscipline_keeps MayFail MayDrop initial).under (keeps_appending MayFail MayDrop initial)

/-- From stores whose streams, when they are loaded, go on past their records, an append that has
returned has its data in the log of its name, under the number before the one it has returned.
Each append returns a number of its own, and one that starts after another has returned a
greater one. -/
theorem appends_logged (sound : stores.Sound) (new : stores.journal = [])
    (pastRecords : ∀ name, stores.LoadsPastRecords name)
    {events before after : List ServerEvent} {last : ServerPool}
    (run : Run (Pool.Step (SharedServer.environment MayFail MayDrop False)) (start stores) events
      last)
    {id : Nat} {name : String × String} {data : Bytes} {seqNum : UInt64}
    (returned : events =
      before ++ .returned id (.append name.1 name.2 data) (.appended (.ok seqNum)) :: after) :
    (∃ record ∈ last.shared.stores.log name,
      record.data = data ∧ seqNum.toNat = record.number + 1) ∧
    ∀ (earlier between : List ServerEvent) (other : Nat) (latter : Bytes) (number : UInt64),
      before = earlier ++ .returned other (.append name.1 name.2 latter) (.appended (.ok number)) ::
          between →
        number ≠ seqNum ∧ ∀ call, .started id call ∈ between → number < seqNum := by
  have orderly := (appending_start MayFail sound new pastRecords).run
    (appending_keeps MayFail MayDrop stores.log) (fun _ => trivial) run trivial
  rw [List.nil_append] at orderly
  rcases orderly.holds with ⟨⟨_, logged⟩, appends⟩
  rcases appends.returned returned with ⟨stream, replyRx, ack, asked, cached, told, is⟩
  rcases told.inLog logged cached with ⟨inLog, same, following⟩
  refine ⟨⟨ack.record, inLog, same, is ▸ following⟩, ?_⟩
  intro earlier between other latter number split
  have whole : events = earlier ++
      .returned other (.append name.1 name.2 latter) (.appended (.ok number)) ::
        (between ++
          .returned id (.append name.1 name.2 data) (.appended (.ok seqNum)) :: after) := by
    rw [returned, split, List.append_assoc, List.cons_append]
  rcases appends.returned whole with ⟨handle, receiver, next, sent, placed, known, also⟩
  have unique := AppendLine.cached_unique cached placed
  subst unique
  refine ⟨?_, fun call starts => ?_⟩
  · rw [← also, ← is]
    refine appends.distinct known told ?_
    rintro rfl
    exact appends.not_asked returned split rfl sent asked
  · rcases List.append_of_mem starts with ⟨first, rest, rfl⟩
    have since : before =
        earlier ++ .returned other (.append name.1 name.2 latter) (.appended (.ok number)) ::
          first ++ .started id call :: rest := by
      rw [split, List.append_assoc, List.cons_append]
    rcases asked.of_bounds since rfl with ⟨others, later, command, sends⟩
    have member : .returned other (.append name.1 name.2 latter) (.appended (.ok number)) ∈
        earlier ++ .returned other (.append name.1 name.2 latter) (.appended (.ok number)) ::
          first ++ .started id call :: others := by
      simp only [List.append_assoc, List.cons_append]
      exact List.mem_append_right _ List.mem_cons_self
    rw [sends, List.append_assoc, List.cons_append] at returned
    exact is ▸ appends.ordered returned member cached told

/-- A task appends twice, after another append. -/
theorem appends_logged_twice :
    ∃ before between last,
      Run (Pool.Step (SharedServer.environment (fun _ => True) (fun _ => False) False))
        (start .opened) (before ++ .returned 1 (.append "orders" "events" [98])
          (.appended (.ok 2)) :: between ++ [.returned 1 (.append "orders" "events" [99])
            (.appended (.ok 3))]) last ∧
      (∃ record ∈ last.shared.stores.log ("orders", "events"),
        record.data = [99] ∧ record.number = 2) ∧
      (2 : UInt64) < 3 := by
  rcases reaches_appended fun _ => True with
    ⟨events, pool, run, _, absent, _, found, cached, actors, _⟩
  have opened : pool.shared.Opened ("orders", "events") ⟨0, 1⟩ ⟨0⟩ ⟨⟨1, ⟨0, 4096⟩⟩, ⟨1, 2⟩⟩ :=
    ⟨found, cached, _, _, _, by rw [actors]; rfl⟩
  have draws : Stream.Draws ⟨⟨1, ⟨0, 4096⟩⟩, ⟨1, 2⟩⟩ none ⟨2, ⟨0, 4096⟩⟩ := by decide
  have drawsNext : Stream.Draws ⟨⟨2, ⟨0, 4096⟩⟩, ⟨1, 2⟩⟩ none ⟨3, ⟨0, 4096⟩⟩ := by decide
  rcases appends_alone opened absent (by decide) (by decide) draws [98] with
    ⟨first, pool, appends, _, _, _, opened, tasks, _⟩
  rcases appends_alone opened (tasks ▸ absent) (by decide) (by decide) drawsNext [99] with
    ⟨second, last, appendsNext, _⟩
  have run := (run.trans appends).trans appendsNext
  rw [← List.append_assoc, ← List.append_assoc events, List.append_assoc _ [_]] at run
  have logged := @appends_logged _ _ _ Stores.sound_opened rfl Stores.loadsPastRecords_opened _ _
    [] _ run 1 ("orders", "events") [99] 3 rfl
  refine ⟨_, _, _, run, ?_, ?_⟩
  · rcases logged.1 with ⟨record, member, data, number⟩
    exact ⟨record, member, data, Nat.succ.inj number.symm⟩
  · exact (logged.2 _ _ _ _ _ rfl).2 _ List.mem_cons_self

end ServerPool

end Slatestreams
