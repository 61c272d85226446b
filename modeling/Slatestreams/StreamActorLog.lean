import Slatestreams.StreamActor

/-! # What an actor does to its stream's log

The log grows by the records the actor writes, the broadcasts follow the log,
and every answer agrees with it. -/

namespace Slatestreams

open Foundation

/-! ## Reading the stores as a log

How much is known of the stores decides how much of the log can be followed
through them. The actor only relies on the following. -/

/-- `Stored` says what the record store holds, `Agrees` that a loaded stream may
go on from there, and `Found` what a lookup can find. -/
structure LogView (MayFail : StorageOp → Prop) where
  Stored : Contents → StreamMetadata → List Record → Prop
  Agrees : Contents → Stream → List Record → Prop
  Found : List Record → UInt64 → Option Record → Prop
  stored {records : Contents} {stream : Stream} {log : List Record} :
    Agrees records stream log → Stored records stream.metadata log
  below {records : Contents} {stream : Stream} {log : List Record} :
    Agrees records stream log → ∀ record ∈ log, record.number < stream.nextSeqNum.toNat
  failed {records : Contents} {stream : Stream} {log : List Record} {block : Option SeqBlock}
      {after : SequenceAllocator} {batch : List StorageRecord} :
    Agrees records stream log → stream.Draws block after →
      MayFail (.apply .recordStorage batch) → Agrees records (stream.moved after) log
  written {records : Contents} {stream : Stream} {log : List Record} {block : Option SeqBlock}
      {after : SequenceAllocator} (data : Bytes) :
    Agrees records stream log → stream.Draws block after →
      Agrees (records.apply
          (Stream.appendBatch stream.metadata block ⟨stream.nextSeqNum, data⟩))
        (stream.moved after) (log ++ [⟨stream.nextSeqNum, data⟩])
  found {records : Contents} {metadata : StreamMetadata} {log : List Record} (n : UInt64) :
    Stored records metadata log →
      ∃ found, Stream.readResult (.ok (records.read (metadata.recordKey n))) = .ok found ∧
        Found log n found
  grows {log : List Record} {n : UInt64} {found : Option Record} {record : Record} :
    n.toNat < record.number → Found log n found → Found (log ++ [record]) n found

/-- The record store holds the log and nothing else under the stream's keys. -/
def LogView.consistent (MayFail : StorageOp → Prop) : LogView MayFail where
  Stored := StoresLog
  Agrees := Consistent
  Found log n found := found = NumberedLog.entry Record.number log n.toNat
  stored agrees := agrees.stored
  below agrees := agrees.below
  failed agrees draws _ := agrees.failed draws
  written data agrees draws := agrees.written draws data
  found n stored := ⟨_, Stream.readResult_get stored n, rfl⟩
  grows below found := found.trans (NumberedLog.entry_snoc_of_ne (Nat.ne_of_gt below)).symm

/-! ## The actor's part of the log -/

section Actor

variable {MayFail : StorageOp → Prop} (view : LogView MayFail) (metadata : StreamMetadata)

/-- An answer agrees with the log, and with the stream it is sent from. -/
def Answered (log : List Record) (stream : Stream) (receiver : Receiver) :
    (command : StreamCommand) → command.kind.Value → Prop
  | .append data _, .ok ack =>
      ack.record ∈ log ∧ ack.record.data = data ∧ ack.nextSeqNum.toNat = ack.record.number + 1
  | .append _ _, .error _ => ∃ op, MayFail op
  | .read seqNum _, .ok found => view.Found log seqNum found
  | .read _ _, .error _ => ∃ op, MayFail op
  | .subscribe _, subscription => subscription = ⟨receiver, stream.nextSeqNum⟩

def StreamActor.receiver (actor : StreamActor) : Receiver :=
  ⟨actor.broadcaster, actor.sent.length⟩

/-- What the actor holds in a phase, when `announced` are the records it or its
predecessors have stopped caring about. -/
def ActorPhase.Holds (records : Contents) (log announced : List Record) (receiver : Receiver) :
    ActorPhase → Prop
  | .waiting stream | .fetching stream _ _ | .subscribing stream _ =>
      stream.metadata = metadata ∧ view.Agrees records stream log ∧ log = announced
  | .storing stream _ _ block after =>
      stream.metadata = metadata ∧ view.Agrees records stream log ∧ log = announced ∧
        stream.Draws block after
  | .announcing stream data _ ack =>
      stream.metadata = metadata ∧ view.Agrees records stream log ∧
        log = announced ++ [ack.record] ∧ ack.record.data = data ∧
        ack.nextSeqNum.toNat = ack.record.number + 1
  | .answering stream command value =>
      stream.metadata = metadata ∧ view.Agrees records stream log ∧ log = announced ∧
        Answered view log stream receiver command value
  | .panicked _ => log = announced

/-- The numbers still to be given are `bound` or above. -/
def ActorPhase.AtLeast (bound : Nat) : ActorPhase → Prop
  | .waiting stream | .storing stream _ _ _ _ | .announcing stream _ _ _ | .fetching stream _ _
  | .subscribing stream _ | .answering stream _ _ => bound ≤ stream.nextSeqNum.toNat
  | .panicked _ => True

/-- The actor stands in `phase`, and the log is what it found in the store, in
`base`, followed by what it has broadcast and at most one record more. -/
structure ActorLog (stores : Stores) (base log : List Record) (actor : StreamActor)
    (phase : ActorPhase) : Prop where
  code : actor.code = phase.code
  ascending : NumberedLog.Ascending Record.number log
  stored : view.Stored stores.recordStorage metadata log
  holds : phase.Holds view metadata stores.recordStorage log (base ++ actor.sent) actor.receiver

/-- What one step does to the log, the broadcasts and the command in hand. -/
inductive ActorChange (log : List Record) (actor : StreamActor) (phase : ActorPhase) :
    ActorEffect → List Record → StreamActor → ActorPhase → Prop where
  | took {command : StreamCommand} {next : StreamActor} {nextPhase : ActorPhase} :
      actor.queue = command :: next.queue → next.taken = actor.taken ++ [command] →
      phase.command = none →
      nextPhase.command = some command ∨ (∃ message, nextPhase = .panicked message) →
      next.sent = actor.sent → ActorChange log actor phase .silent log next nextPhase
  | wrote {record : Record} {replyTx : ReplyId} {next : StreamActor} {nextPhase : ActorPhase} :
      phase.command = some (.append record.data replyTx) → nextPhase.command = phase.command →
      phase.AtLeast record.number → (∀ bound, phase.AtLeast bound → bound ≤ record.number) →
      next.sent = actor.sent → next.queue = actor.queue → next.taken = actor.taken →
      ActorChange log actor phase .silent (log ++ [record]) next nextPhase
  | announced {record : Record} {next : StreamActor} {nextPhase : ActorPhase} :
      next.sent = actor.sent ++ [record] → nextPhase.command = phase.command →
      next.queue = actor.queue → next.taken = actor.taken →
      ActorChange log actor phase .silent log next nextPhase
  | worked {next : StreamActor} {nextPhase : ActorPhase} :
      nextPhase.command = phase.command → next.sent = actor.sent → next.queue = actor.queue →
      next.taken = actor.taken → ActorChange log actor phase .silent log next nextPhase
  | replied {command : StreamCommand} {value : command.kind.Value} {stream : Stream}
      {next : StreamActor} :
      phase = .answering stream command value →
      Answered view log stream actor.receiver command value →
      next.sent = actor.sent → next.queue = actor.queue → next.taken = actor.taken →
      ActorChange log actor phase (.replied command.kind command.replyTx value) log next
        (.waiting stream)

variable {view metadata} {stores after : Stores} {base log : List Record}
  {actor next : StreamActor} {phase : ActorPhase} {effect : ActorEffect}

/-- The one answer a read gets leads to what the log lets it find or to an error. -/
theorem LogView.readResult_answers {n : UInt64} {log : List Record}
    {answer : Except StorageError (Option StorageRecord)}
    (stored : view.Stored stores.recordStorage metadata log)
    (answered : StorageOp.Answers MayFail stores (.get .recordStorage (metadata.recordKey n))
      answer after) :
    after = stores ∧
      ((∃ found, Stream.readResult answer = .ok found ∧ view.Found log n found) ∨
        MayFail (.get .recordStorage (metadata.recordKey n)) ∧
          ∃ error, Stream.readResult answer = .error (.storageError error)) := by
  cases answer with
  | error error =>
      rcases answered with ⟨mayFail, rfl⟩
      exact ⟨rfl, .inr ⟨mayFail, error, rfl⟩⟩
  | ok found =>
      rcases answered with ⟨rfl, rfl⟩
      exact ⟨rfl, .inl (view.found n stored)⟩

theorem ActorLog.step (taken : ActorStep MayFail stores actor effect after next)
    (actorLog : ActorLog view metadata stores base log actor phase) :
    ∃ nextLog nextPhase,
      ActorLog view metadata after base nextLog next nextPhase ∧
      ActorChange view log actor phase effect nextLog next nextPhase ∧
      ∀ bound, phase.AtLeast bound → nextPhase.AtLeast bound := by
  have code := actorLog.code
  have holds := actorLog.holds
  cases taken with
  | recv waits queued =>
      rename_i stream command queue
      rw [waits] at code
      cases phase with
      | waiting stream' =>
          cases code
          rcases holds with ⟨same, consistent, announced⟩
          rcases ActorPhase.handle_begins stream command with ⟨nextPhase, begun, begins⟩
          cases begins with
          | append draws =>
              exact ⟨log, _, ⟨begun, actorLog.ascending, actorLog.stored,
                same, consistent, announced, draws⟩, .took queued rfl rfl (.inl rfl) rfl,
                fun _ atLeast => atLeast⟩
          | overflow =>
              exact ⟨log, _, ⟨begun, actorLog.ascending, actorLog.stored, announced⟩,
                .took queued rfl rfl (.inr ⟨_, rfl⟩) rfl, fun _ _ => trivial⟩
          | read =>
              exact ⟨log, _, ⟨begun, actorLog.ascending, actorLog.stored,
                same, consistent, announced⟩, .took queued rfl rfl (.inl rfl) rfl,
                fun _ atLeast => atLeast⟩
          | subscribe =>
              exact ⟨log, _, ⟨begun, actorLog.ascending, actorLog.stored,
                same, consistent, announced⟩, .took queued rfl rfl (.inl rfl) rfl,
                fun _ atLeast => atLeast⟩
      | _ => cases code
  | storage calls answered =>
      rw [calls] at code
      cases phase with
      | storing stream data replyTx block allocator =>
        cases code
        rcases holds with ⟨rfl, consistent, announced, draws⟩
        rename_i answer
        have next_eq := draws.next_eq
        cases answer with
        | ok =>
            rcases answered with rfl
            have written := view.written data consistent draws
            have above : ∀ record ∈ log, record.number <
                Record.number ⟨stream.nextSeqNum, data⟩ := view.below consistent
            have stored := view.stored written
            exact ⟨_,
              .announcing (stream.moved allocator) data replyTx
                ⟨⟨stream.nextSeqNum, data⟩, allocator.nextSequenceNumber⟩,
              ⟨rfl, actorLog.ascending.snoc above, stored, rfl, written, by rw [announced], rfl,
                next_eq⟩,
              .wrote rfl rfl (Nat.le_refl _) (fun _ atLeast => atLeast) rfl rfl rfl,
              fun bound (atLeast : bound ≤ stream.nextSeqNum.toNat) =>
                Nat.le_trans atLeast (next_eq ▸ Nat.le_succ _)⟩
        | error error =>
            rcases answered with ⟨mayFail, rfl⟩
            exact ⟨log, .answering (stream.moved allocator) (.append data replyTx)
                (.error (.storageError error)),
              ⟨rfl, actorLog.ascending, actorLog.stored, rfl, view.failed consistent draws mayFail,
                announced,
                ⟨_, mayFail⟩⟩,
              .worked rfl rfl rfl rfl,
              fun bound (atLeast : bound ≤ stream.nextSeqNum.toNat) =>
                Nat.le_trans atLeast (next_eq ▸ Nat.le_succ _)⟩
      | fetching stream seqNum replyTx =>
        cases code
        rcases holds with ⟨rfl, consistent, announced⟩
        rename_i answer
        rcases view.readResult_answers actorLog.stored answered with ⟨rfl, result⟩
        refine ⟨log, .answering stream (.read seqNum replyTx) (Stream.readResult answer),
          ⟨rfl, actorLog.ascending, actorLog.stored, rfl, consistent, announced, ?_⟩,
          .worked rfl rfl rfl rfl, fun _ atLeast => atLeast⟩
        rcases result with ⟨found, result, inLog⟩ | ⟨mayFail, error, failed⟩
        · rw [result]
          exact inLog
        · rw [failed]
          exact ⟨_, mayFail⟩
      | _ => cases code
  | broadcast calls =>
      rw [calls] at code
      cases phase with
      | announcing stream data replyTx ack =>
        cases code
        rcases holds with ⟨rfl, consistent, announced, payload, acknowledged⟩
        exact ⟨log, .answering stream (.append data replyTx) (.ok ack),
          ⟨rfl, actorLog.ascending, actorLog.stored, rfl, consistent,
            by rw [announced, List.append_assoc], by simp [announced], payload, acknowledged⟩,
          .announced rfl rfl rfl rfl, fun _ atLeast => atLeast⟩
      | _ => cases code
  | subscribe calls =>
      rw [calls] at code
      cases phase with
      | subscribing stream replyTx =>
        cases code
        rcases holds with ⟨rfl, consistent, announced⟩
        exact ⟨log, .answering stream (.subscribe replyTx) ⟨actor.receiver, stream.nextSeqNum⟩,
          ⟨rfl, actorLog.ascending, actorLog.stored, rfl, consistent, announced, rfl⟩,
          .worked rfl rfl rfl rfl, fun _ atLeast => atLeast⟩
      | _ => cases code
  | reply calls =>
      rw [calls] at code
      cases phase with
      | answering stream command value =>
        cases code
        rcases holds with ⟨rfl, consistent, announced, answered⟩
        exact ⟨log, .waiting stream,
          ⟨rfl, actorLog.ascending, actorLog.stored, rfl, consistent, announced⟩,
          .replied rfl answered rfl rfl rfl, fun _ atLeast => atLeast⟩
      | _ => cases code

/-- An actor leaves the metadata store alone. -/
theorem ActorLog.metaStorage_eq (taken : ActorStep MayFail stores actor effect after next)
    (actorLog : ActorLog view metadata stores base log actor phase) :
    after.metaStorage = stores.metaStorage := by
  have code := actorLog.code
  cases taken with
  | storage calls answered =>
      rw [calls] at code
      cases phase with
      | storing =>
        cases code
        rename_i answer
        cases answer with
        | ok =>
            rcases answered with rfl
            rfl
        | error =>
            rcases answered with ⟨_, rfl⟩
            rfl
      | fetching =>
        cases code
        rcases view.readResult_answers (actorLog.holds.1 ▸ actorLog.stored) answered with ⟨rfl, _⟩
        rfl
      | _ => cases code
  | _ => rfl

end Actor

end Slatestreams
