import Slatestreams.ReadDelivery

/-! # Reading on after a session has ended

A client that connects again where its last record left off receives the log
from its first start on, across any number of sessions and restarts of the
server. Writes do not fail here, so the stored block is always past the log. -/

namespace Slatestreams

open Foundation

/-! ## What a restart finds -/

/-- The stored block is past the log and past `floor`. -/
structure Covers (records : Contents) (metadata : StreamMetadata) (floor : Nat)
    (log : List Record) (block : SeqBlock) : Prop where
  stored : records.get metadata.blockKey = some block.serialise
  blockSize_pos : 1 ≤ block.blockSize.toNat
  floor_le : floor ≤ block.start.toNat + block.blockSize.toNat
  covers : ∀ record ∈ log, record.number < block.start.toNat + block.blockSize.toNat

def WritesSucceed (MayFail : StorageOp → Prop) : Prop :=
  ∀ store batch, ¬MayFail (.apply store batch)

/-- The record store holds the log and a block past it, and numbers from `floor`
on are still to be given. -/
def LogView.durable {MayFail : StorageOp → Prop} (succeed : WritesSucceed MayFail) (floor : Nat) :
    LogView MayFail where
  Stored records metadata log :=
    StoresLog records metadata log ∧ (∀ record ∈ log, record.number + 1 < 2 ^ 64) ∧
      ∃ block, Covers records metadata floor log block
  Agrees records stream log :=
    Consistent records stream log ∧ Reserved records stream ∧ floor ≤ stream.nextSeqNum.toNat
  Found log n found := found = NumberedLog.entry Record.number log n.toNat
  stored {records stream log} agrees := by
    rcases agrees with ⟨consistent, reserved, above⟩
    have next_le : stream.nextSeqNum.toNat ≤ _ := consistent.valid.next_le
    refine ⟨consistent.stored, fun record member => ?_,
      stream.sequenceNumberAllocator.currentBlock, reserved, consistent.valid.blockSize_pos,
      Nat.le_trans above next_le,
      fun record member => Nat.lt_of_lt_of_le (consistent.below record member) next_le⟩
    have := consistent.below record member
    have := stream.nextSeqNum.toNat_lt
    omega
  below agrees := agrees.1.below
  failed _ _ mayFail := absurd mayFail (succeed _ _)
  written {records stream log block after} data agrees draws := by
    rcases agrees with ⟨consistent, reserved, above⟩
    have next_eq := draws.next_eq
    exact ⟨consistent.written draws data, Reserved.written data draws fun _ => reserved,
      Nat.le_trans above (next_eq ▸ Nat.le_succ _)⟩
  found n stored := ⟨_, Stream.readResult_get stored.1 n, rfl⟩
  grows := (LogView.consistent MayFail).grows

section Restart

variable {MayFail : StorageOp → Prop} {succeed : WritesSucceed MayFail} {floor : Nat}
  {metadata : StreamMetadata} {base log : List Record} {actor : StreamActor} {phase : ActorPhase}
  {stores after : Stores} {state next : FollowState} {stream : Stream} {streamName : String}

theorem LogView.durable_loaded
    (ascending : NumberedLog.Ascending Record.number log)
    (stored : (LogView.durable succeed floor).Stored stores.recordStorage metadata log)
    (named : stores.metaStorage.get (Stream.constructMetadataKey metadata.basinId streamName) =
      some metadata.serialise)
    (executes : (Stream.load metadata.basinId streamName).run.Executes
      (StorageOp.Answers MayFail) stores (.ok stream) after) :
    after = stores ∧ stream.metadata = metadata ∧
      (LogView.durable succeed floor).Agrees stores.recordStorage stream log := by
  rcases stored with ⟨holdsLog, _, block, covers⟩
  have loadable : Loadable stores streamName metadata (some block) := ⟨named, covers.stored⟩
  rcases (Stream.executes_load loadable).mp executes with ⟨rfl, rfl, created⟩
  rcases SequenceAllocator.new_eq_some created with ⟨current, next_eq⟩
  have reserved : Reserved after.recordStorage stream := by
    rw [Reserved, current]
    exact covers.stored
  exact ⟨rfl, rfl,
    Consistent.of_block ascending holdsLog covers.blockSize_pos covers.covers created, reserved,
    next_eq ▸ covers.floor_le⟩

theorem ActorLog.atLeast {view : LogView MayFail} {bound : Nat}
    (actorLog : ActorLog view metadata stores base log actor phase)
    (reached : ∀ stream : Stream, view.Agrees stores.recordStorage stream log →
      bound ≤ stream.nextSeqNum.toNat) : phase.AtLeast bound := by
  have holds := actorLog.holds
  cases phase with
  | panicked => trivial
  | _ => exact reached _ holds.2.1

/-- An actor that has reached `bound` only gives numbers from there on, also
after a restart. -/
theorem ServerInv.reach {bound : Nat}
    (server : ServerInv (.durable succeed floor) metadata base log actor phase state)
    (running : actor.running) (reached : phase.AtLeast bound) :
    ServerInv (.durable succeed bound) metadata base log actor phase state := by
  rcases server.actorLog with ⟨code, ascending, stored, holds⟩
  have agrees {stream : Stream} (same : stream.metadata = metadata)
      (agreed : (LogView.durable succeed floor).Agrees state.stores.recordStorage stream log)
      (above : bound ≤ stream.nextSeqNum.toNat) :
      (LogView.durable succeed bound).Agrees state.stores.recordStorage stream log ∧
        (LogView.durable succeed bound).Stored state.stores.recordStorage metadata log :=
    have agreed : (LogView.durable succeed bound).Agrees state.stores.recordStorage stream log :=
      ⟨agreed.1, agreed.2.1, above⟩
    ⟨agreed, same ▸ (LogView.durable succeed bound).stored agreed⟩
  refine ⟨server.running, ?_, server.requests⟩
  cases phase with
  | waiting =>
      rcases agrees holds.1 holds.2.1 reached with ⟨agreed, stored⟩
      exact ⟨code, ascending, stored, holds.1, agreed, holds.2.2⟩
  | storing =>
      rcases agrees holds.1 holds.2.1 reached with ⟨agreed, stored⟩
      exact ⟨code, ascending, stored, holds.1, agreed, holds.2.2⟩
  | announcing =>
      rcases agrees holds.1 holds.2.1 reached with ⟨agreed, stored⟩
      exact ⟨code, ascending, stored, holds.1, agreed, holds.2.2⟩
  | fetching =>
      rcases agrees holds.1 holds.2.1 reached with ⟨agreed, stored⟩
      exact ⟨code, ascending, stored, holds.1, agreed, holds.2.2⟩
  | subscribing =>
      rcases agrees holds.1 holds.2.1 reached with ⟨agreed, stored⟩
      exact ⟨code, ascending, stored, holds.1, agreed, holds.2.2⟩
  | answering stream command value =>
      rcases agrees holds.1 holds.2.1 reached with ⟨agreed, stored⟩
      refine ⟨code, ascending, stored, holds.1, agreed, holds.2.2.1, ?_⟩
      have answered := holds.2.2.2
      cases command <;> exact answered
  | panicked =>
      rw [StreamActor.running, code] at running
      cases running

end Restart

/-! ## The client -/

def recordsOf (items : List (Except ControllerError Record)) : List Record :=
  items.filterMap Except.toOption

@[simp] theorem recordsOf_append (left right : List (Except ControllerError Record)) :
    recordsOf (left ++ right) = recordsOf left ++ recordsOf right :=
  List.filterMap_append

@[simp] theorem recordsOf_map_ok (records : List Record) :
    recordsOf (records.map .ok) = records := by
  rw [recordsOf, List.filterMap_map]
  exact List.filterMap_some

theorem recordsOf_failures {failures : List (Except ControllerError Record)}
    (failed : failures = [] ∨ ∃ error, failures = [.error error]) : recordsOf failures = [] := by
  rcases failed with rfl | ⟨error, rfl⟩ <;> rfl

/-- The client goes on after its last record, or where it first started. -/
def FollowState.resumeFrom (state : FollowState) (first : UInt64) : UInt64 :=
  match (recordsOf state.received).getLast? with
  | some record => record.seqNum + 1
  | none => first

/-- The client connects again only where it left off. -/
def ReconnectStep (MayFail : StorageOp → Prop) (basinId : U128) (streamName : String)
    (first : UInt64) (state : FollowState) (event : FollowEvent) (after : FollowState) : Prop :=
  FollowStep MayFail basinId streamName state event after ∧
    ∀ start, event = .connect start → start = state.resumeFrom first

/-- Every number the actor has still to give is `bound` or above. -/
def StreamActor.AtLeast (actor : StreamActor) (bound : Nat) : Prop :=
  actor.running ∧ ∀ phase : ActorPhase, actor.code = phase.code → phase.AtLeast bound

/-! ## The log and the client, across sessions and restarts -/

section Resume

variable {MayFail : StorageOp → Prop} (succeed : WritesSucceed MayFail) (floor : Nat)
  (first : UInt64) (metadata : StreamMetadata) (log : List Record) (state : FollowState)

/-- The server is down, or running without a session, or with one that goes on
where the others have left off. -/
inductive Resuming : Prop where
  | down :
      state.actor = none → state.session = none → (∀ id, state.replies id = none) →
      NumberedLog.Ascending Record.number log →
      (LogView.durable succeed floor).Stored state.stores.recordStorage metadata log →
      recordsOf state.received <+: NumberedLog.since Record.number log first.toNat → Resuming
  | alone {base : List Record} {actor : StreamActor} {phase : ActorPhase} :
      ServerInv (.durable succeed floor) metadata base log actor phase state →
      state.session = none →
      recordsOf state.received <+: NumberedLog.since Record.number log first.toNat → Resuming
  | following {base : List Record} {phase : ActorPhase}
      {earlier : List (Except ControllerError Record)} {start : UInt64} :
      Proceeds (.exact (.durable succeed floor) id) start.toNat metadata base log phase earlier
        start state →
      recordsOf earlier <+: NumberedLog.since Record.number log first.toNat →
      start.toNat = NumberedLog.resumeAt Record.number first.toNat (recordsOf earlier) → Resuming

variable {succeed floor first metadata log state} {after : FollowState} {base : List Record}
  {actor : StreamActor} {phase : ActorPhase} {earlier : List (Except ControllerError Record)}
  {start : UInt64} {basinId : U128} {streamName : String}

theorem Resuming.ascending (resuming : Resuming succeed floor first metadata log state) :
    NumberedLog.Ascending Record.number log := by
  cases resuming with
  | down _ _ _ ascending => exact ascending
  | alone server => exact server.actorLog.ascending
  | following proceeds =>
      rcases proceeds with ⟨_, _, _, _, _, server, _⟩
      exact server.actorLog.ascending

theorem Resuming.stored (resuming : Resuming succeed floor first metadata log state) :
    (LogView.durable succeed floor).Stored state.stores.recordStorage metadata log := by
  cases resuming with
  | down _ _ _ _ stored => exact stored
  | alone server => exact server.actorLog.stored
  | following proceeds =>
      rcases proceeds with ⟨_, _, _, _, _, server, _⟩
      exact server.actorLog.stored

/-- The records of the earlier sessions, then those of the session. -/
theorem Resuming.received (resuming : Resuming succeed floor first metadata log state) :
    recordsOf state.received <+: NumberedLog.since Record.number log first.toNat := by
  have ascending := resuming.ascending
  cases resuming with
  | down _ _ _ _ _ received => exact received
  | alone _ _ received => exact received
  | following proceeds had resumed =>
      rcases proceeds.received with ⟨delivered, records, failures, inLog, shorter, received, failed⟩
      rw [received, recordsOf_append, recordsOf_append, recordsOf_map_ok,
        recordsOf_failures failed, List.append_nil, ascending.since_resumeAt had, ← resumed]
      exact (List.prefix_append_right_inj _).mpr (shorter.trans inLog)

theorem Resuming.drained (resuming : Resuming succeed floor first metadata log state)
    (drained : state.Drained) :
    recordsOf state.received = NumberedLog.since Record.number log first.toNat := by
  have ascending := resuming.ascending
  have ⟨_, _, _, _, _, _, running, _, current, _⟩ := drained
  cases resuming with
  | down stopped => cases stopped.symm.trans running
  | alone _ idle => cases idle.symm.trans current
  | following proceeds had resumed =>
      rcases proceeds.drained drained with ⟨delivered, whole, received⟩
      obtain rfl : delivered = NumberedLog.since Record.number (log.take log.length) _ := whole
      rw [received, recordsOf_append, recordsOf_map_ok, List.take_length,
        ascending.since_resumeAt had, ← resumed]

theorem FollowState.resumeFrom_toNat
    (bounded : ∀ record ∈ log, record.number + 1 < 2 ^ 64)
    (received : recordsOf state.received <+: NumberedLog.since Record.number log first.toNat) :
    (state.resumeFrom first).toNat =
      NumberedLog.resumeAt Record.number first.toNat (recordsOf state.received) := by
  unfold FollowState.resumeFrom NumberedLog.resumeAt
  cases last : (recordsOf state.received).getLast? with
  | none => rfl
  | some record =>
      have member := NumberedLog.mem_since.mp (received.subset (List.mem_of_getLast? last))
      have := bounded record member.1
      simp only [Option.map_some, Option.getD_some, Record.number, UInt64.toNat_add,
        UInt64.toNat_one] at *
      omega

/-- Where the client goes on is never past what the actor is to give next. -/
theorem FollowState.resumeAt_le {view : LogView MayFail} {stream : Stream}
    (agrees : view.Agrees state.stores.recordStorage stream log)
    (above : first.toNat ≤ stream.nextSeqNum.toNat)
    (received : recordsOf state.received <+: NumberedLog.since Record.number log first.toNat) :
    NumberedLog.resumeAt Record.number first.toNat (recordsOf state.received) ≤
      stream.nextSeqNum.toNat := by
  unfold NumberedLog.resumeAt
  cases last : (recordsOf state.received).getLast? with
  | none => exact above
  | some record =>
      have member := NumberedLog.mem_since.mp (received.subset (List.mem_of_getLast? last))
      exact view.below agrees record member.1

/-- A session of the client begins. -/
theorem ServerInv.resumes {start : UInt64}
    (server : ServerInv (.durable succeed first.toNat) metadata base log actor phase state)
    (received : recordsOf state.received <+: NumberedLog.since Record.number log first.toNat)
    (taken : FollowStep MayFail basinId streamName state (.connect start) after)
    (goesOn : start = state.resumeFrom first) :
    Resuming succeed first.toNat first metadata log after := by
  subst goesOn
  have resumed := FollowState.resumeFrom_toNat server.actorLog.stored.2.1 received
  have reached : phase.AtLeast (state.resumeFrom first).toNat :=
    server.actorLog.atLeast fun stream agrees =>
      resumed ▸ FollowState.resumeAt_le agrees agrees.2.2 received
  exact .following (server.connect taken reached) received resumed

theorem Resuming.server (running : state.actor = some actor)
    (resuming : Resuming succeed floor first metadata log state) :
    ∃ base phase, ServerInv (.durable succeed floor) metadata base log actor phase state := by
  cases resuming with
  | down stopped => cases stopped.symm.trans running
  | alone server =>
      rcases Option.some.inj (server.running.symm.trans running) with rfl
      exact ⟨_, _, server⟩
  | following proceeds =>
      rcases proceeds with ⟨_, _, _, _, _, server, _⟩
      rcases Option.some.inj (server.running.symm.trans running) with rfl
      exact ⟨_, _, server⟩

theorem Resuming.connect {start : UInt64}
    (taken : FollowStep MayFail basinId streamName state (.connect start) after)
    (goesOn : start = state.resumeFrom first)
    (resuming : Resuming succeed first.toNat first metadata log state) :
    Resuming succeed first.toNat first metadata log after := by
  have connects := taken
  cases taken with
  | connect running =>
      rcases resuming.server running with ⟨_, _, server⟩
      exact server.resumes resuming.received connects goesOn

theorem Resuming.crash (resuming : Resuming succeed floor first metadata log state) :
    Resuming succeed floor first metadata log
      { state with actor := none, session := none, replies := fun _ => none } :=
  .down rfl rfl (fun _ => rfl) resuming.ascending resuming.stored resuming.received

theorem Resuming.load
    (named : state.stores.metaStorage.get
      (Stream.constructMetadataKey metadata.basinId streamName) = some metadata.serialise)
    (taken : FollowStep MayFail metadata.basinId streamName state .load after)
    (resuming : Resuming succeed floor first metadata log state) :
    Resuming succeed floor first metadata log after := by
  cases taken with
  | load stopped executes =>
      cases resuming with
      | down _ idle unanswered ascending stored received =>
          rcases LogView.durable_loaded ascending stored named executes with ⟨rfl, rfl, agrees⟩
          exact .alone (.started rfl unanswered ascending agrees) idle received
      | alone server => cases stopped.symm.trans server.running
      | following proceeds =>
          rcases proceeds with ⟨_, _, _, _, _, server, _⟩
          cases stopped.symm.trans server.running

theorem FollowState.Answers.stores_eq {session : Session} {op : ServerOp} {answer : op.Answer}
    (answered : state.Answers actor session op answer after) : after.stores = state.stores := by
  cases op with
  | send =>
      cases answer with
      | none => exact answered.2 ▸ rfl
      | some =>
          rcases answered with ⟨_, _, _, rfl⟩
          rfl
  | receive =>
      cases answer with
      | none => exact answered.2.2 ▸ rfl
      | some => exact answered.2 ▸ rfl
  | txSend =>
      cases answer with
      | ok =>
          rcases answered with ⟨_, _, rfl⟩
          rfl
      | error => exact answered.2 ▸ rfl
  | recv => exact answered.2 ▸ rfl
  | _ => exact answered.elim

/-- The stream keeps its name. -/
theorem Resuming.metaStorage_eq {event : FollowEvent}
    (named : state.stores.metaStorage.get
      (Stream.constructMetadataKey metadata.basinId streamName) = some metadata.serialise)
    (taken : FollowStep MayFail metadata.basinId streamName state event after)
    (resuming : Resuming succeed floor first metadata log state) :
    after.stores.metaStorage = state.stores.metaStorage := by
  cases taken with
  | actor running taken =>
      rcases resuming.server running with ⟨_, _, server⟩
      exact server.actorLog.metaStorage_eq taken
  | requests _ _ _ answered => exact congrArg Stores.metaStorage answered.stores_eq
  | follows _ _ _ answered => exact congrArg Stores.metaStorage answered.stores_eq
  | load stopped executes =>
      have same := (LogView.durable_loaded resuming.ascending resuming.stored named executes).1
      exact congrArg Stores.metaStorage same
  | request => rfl
  | spawns => rfl
  | turns => rfl
  | receive => rfl
  | connect => rfl
  | disconnect => rfl
  | crash => rfl

theorem Resuming.within {event : FollowEvent}
    (taken : FollowStep MayFail basinId streamName state event after)
    (within : event.WithinSession)
    (resuming : Resuming succeed floor first metadata log state) :
    ∃ nextLog, Resuming succeed floor first metadata nextLog after := by
  cases resuming with
  | down stopped idle =>
      cases taken with
      | actor running => cases stopped.symm.trans running
      | request _ running => cases stopped.symm.trans running
      | requests running => cases stopped.symm.trans running
      | spawns current => cases idle.symm.trans current
      | follows running => cases stopped.symm.trans running
      | turns current => cases idle.symm.trans current
      | receive current => cases idle.symm.trans current
      | disconnect current => cases idle.symm.trans current
      | connect => exact within.elim
      | crash => exact within.elim
      | load => exact within.elim
  | alone server idle received =>
      rcases server.step_alone taken within idle with ⟨⟨nextLog, _, _, grown, server⟩, idle, same⟩
      exact ⟨nextLog, .alone server idle
        (same ▸ received.trans (NumberedLog.since_isPrefix grown _))⟩
  | following proceeds had resumed =>
      rcases proceeds.step taken within proceeds.inRange with ⟨nextLog, _, grown, proceeds⟩
      exact ⟨nextLog, .following proceeds (had.trans (NumberedLog.since_isPrefix grown _)) resumed⟩

variable (succeed floor first streamName metadata state) in
/-- The name leads to the stream, whose log the client receives. -/
def Resumes : Prop :=
  state.stores.metaStorage.get (Stream.constructMetadataKey metadata.basinId streamName) =
      some metadata.serialise ∧
    ∃ log, Resuming succeed floor first metadata log state

theorem Resumes.step {event : FollowEvent}
    (taken : FollowStep MayFail metadata.basinId streamName state event after)
    (goesOn : ∀ start, event = .connect start →
      floor = first.toNat ∧ start = state.resumeFrom first)
    (resumes : Resumes succeed floor first metadata state streamName) :
    Resumes succeed floor first metadata after streamName := by
  rcases resumes with ⟨named, log, resuming⟩
  refine ⟨resuming.metaStorage_eq named taken ▸ named, ?_⟩
  cases event with
  | connect start =>
      rcases goesOn start rfl with ⟨rfl, resumed⟩
      exact ⟨log, resuming.connect taken resumed⟩
  | crash =>
      cases taken with
      | crash => exact ⟨log, resuming.crash⟩
  | load => exact ⟨log, resuming.load named taken⟩
  | _ => exact resuming.within taken trivial

theorem FollowStep.keeps_alone {event : FollowEvent}
    (taken : FollowStep MayFail basinId streamName state event after)
    (unconnected : ∀ start, event ≠ .connect start) (alone : state.session = none) :
    after.session = none ∧ after.received = state.received := by
  cases taken with
  | actor => exact ⟨alone, rfl⟩
  | request => exact ⟨alone, rfl⟩
  | requests _ current => cases alone.symm.trans current
  | spawns current => cases alone.symm.trans current
  | follows _ current => cases alone.symm.trans current
  | turns current => cases alone.symm.trans current
  | receive current => cases alone.symm.trans current
  | disconnect current => cases alone.symm.trans current
  | connect => exact absurd rfl (unconnected _)
  | crash => exact ⟨rfl, rfl⟩
  | load => exact ⟨alone, rfl⟩

/-- Before the client first connects. -/
theorem Resumes.run_alone {events : List FollowEvent} {last : FollowState}
    (run : Run (fun state event after =>
      FollowStep MayFail metadata.basinId streamName state event after ∧
        ∀ start, event ≠ .connect start) state events last)
    (alone : state.session = none)
    (resumes : Resumes succeed floor first metadata state streamName) :
    Resumes succeed floor first metadata last streamName ∧ last.session = none ∧
      last.received = state.received := by
  induction run with
  | nil => exact ⟨resumes, alone, rfl⟩
  | snoc _ taken induction =>
      rcases induction with ⟨resumes, alone, same⟩
      rcases taken.1.keeps_alone taken.2 alone with ⟨still, kept⟩
      exact ⟨resumes.step taken.1 fun start equal => absurd equal (taken.2 start), still,
        kept.trans same⟩

theorem Resumes.created (succeed : WritesSucceed MayFail) (first : UInt64) {streamName : String}
    {stores : Stores} (unused : stores.Unused metadata) :
    Resumes succeed 0 first metadata
      (.spawned (stores.created streamName metadata) ⟨SequenceAllocator.default, metadata⟩)
      streamName := by
  have loadable := Loadable.created stores streamName metadata
  have consistent := (unused.created streamName).consistent
  have agrees : (LogView.durable succeed 0).Agrees
      (stores.created streamName metadata).recordStorage ⟨SequenceAllocator.default, metadata⟩ [] :=
    ⟨consistent, loadable.stored, Nat.zero_le _⟩
  exact ⟨loadable.named, [], .alone (.spawned NumberedLog.ascending_nil agrees) rfl
    List.nil_prefix⟩

end Resume

theorem SessionStep.reconnects {MayFail : StorageOp → Prop} {basinId : U128}
    {streamName : String} {first : UInt64} {state after : FollowState} {event : FollowEvent}
    (taken : SessionStep MayFail basinId streamName state event after) :
    ReconnectStep MayFail basinId streamName first state event after :=
  ⟨taken.1, fun _ equal => (equal ▸ taken.2 : (FollowEvent.connect _).WithinSession).elim⟩

/-- A client that first connects at or below the tail of a stream, and whenever
its session has ended connects again where it left off, receives the stored
records from its first start on in order, each once and without gaps, over any
number of sessions and restarts; once nothing is under way it has all of them. -/
theorem StreamController.readFollow_resumes {MayFail : StorageOp → Prop} {basinId : U128}
    {streamName : String} {before stores : Stores} {stream : Stream} {first : UInt64}
    {actor : StreamActor} {earlier events : List FollowEvent} {middle connected last : FollowState}
    (succeed : WritesSucceed MayFail)
    (created : (Stream.new basinId streamName).run.Executes (StorageOp.Answers MayFail) before
      (.ok stream) stores)
    (unused : before.Unused stream.metadata)
    (beforehand : Run (fun state event after =>
      FollowStep MayFail basinId streamName state event after ∧ ∀ start, event ≠ .connect start)
      (.spawned stores stream) earlier middle)
    (running : middle.actor = some actor) (belowTail : actor.AtLeast first.toNat)
    (connects : FollowStep MayFail basinId streamName middle (.connect first) connected)
    (run : Run (ReconnectStep MayFail basinId streamName first) connected events last) :
    ∃ log, NumberedLog.Ascending Record.number log ∧
      StoresLog last.stores.recordStorage stream.metadata log ∧
      recordsOf last.received <+: NumberedLog.since Record.number log first.toNat ∧
      (last.Drained →
        recordsOf last.received = NumberedLog.since Record.number log first.toNat) := by
  rcases Stream.executes_new.mp created with ⟨streamId, _, rfl, rfl⟩
  rcases (Resumes.created succeed first unused).run_alone beforehand rfl with
    ⟨⟨named, log, resuming⟩, _, nothing⟩
  rcases resuming.server running with ⟨base, phase, server⟩
  have reached := server.reach belowTail.1 (belowTail.2 phase server.actorLog.code)
  have start : first = middle.resumeFrom first := by
    rw [FollowState.resumeFrom, show middle.received = [] from nothing]
    rfl
  have begun : Resumes succeed first.toNat first _ connected streamName :=
    ⟨resuming.metaStorage_eq named connects ▸ named, log,
      reached.resumes resuming.received connects start⟩
  have resumes : Resumes succeed first.toNat first ⟨basinId, streamId⟩ last streamName := by
    induction run with
    | nil => exact begun
    | snoc _ taken induction =>
        exact induction.step taken.1 fun start equal => ⟨rfl, taken.2 start equal⟩
  rcases resumes with ⟨_, log, resuming⟩
  exact ⟨log, resuming.ascending, resuming.stored.1, resuming.received, resuming.drained⟩

/-- The server restarts after the first record, and the client connects again at 1. No record
has a number from 1 to 4095, and the next append gets 4096. -/
theorem StreamController.readFollow_resumes_after_load :
    ∃ connected delivered resumed last,
      FollowStep NeverFails 7 "events"
        (.spawned (Stores.opened.created "events" ⟨7, 1⟩) ⟨SequenceAllocator.default, ⟨7, 1⟩⟩)
        (.connect 0) connected ∧
      Run (ReconnectStep NeverFails 7 "events" 0) connected
        (delivered ++ [.crash] ++ [.load] ++ [.connect 1] ++ resumed) last ∧
      last.received = [.ok ⟨0, [97]⟩, .ok ⟨4096, [98]⟩] ∧ last.Drained ∧
      ∃ log, NumberedLog.Ascending Record.number log ∧
        StoresLog last.stores.recordStorage ⟨7, 1⟩ log ∧
        recordsOf last.received <+: NumberedLog.since Record.number log (0 : UInt64).toNat ∧
        (last.Drained →
          recordsOf last.received = NumberedLog.since Record.number log (0 : UInt64).toNat) := by
  have succeed : WritesSucceed NeverFails := fun _ _ fails => fails
  have first : Stream.Draws ⟨SequenceAllocator.default, ⟨7, 1⟩⟩ none ⟨1, ⟨0, 4096⟩⟩ := by decide
  have opens : Stream.Draws ⟨⟨4096, ⟨0, 4096⟩⟩, ⟨7, 1⟩⟩ (some ⟨4096, 4096⟩)
      ⟨4097, ⟨4096, 4096⟩⟩ := by decide
  have reloaded : SequenceAllocator.resume (some ⟨0, 4096⟩) = some ⟨4096, ⟨0, 4096⟩⟩ := by decide
  let stores := Stores.opened.created "events" ⟨7, 1⟩
  let stream : Stream := ⟨SequenceAllocator.default, ⟨7, 1⟩⟩
  have consistent : Consistent stores.recordStorage stream [] :=
    ((Stores.opened_unused ⟨7, 1⟩).created "events").consistent
  have belowTail : (StreamActor.spawn 0 stream).AtLeast (0 : UInt64).toNat :=
    ⟨rfl, fun phase _ => by cases phase <;> simp [ActorPhase.AtLeast]⟩
  -- The first session.
  let connected : FollowState :=
    { FollowState.spawned stores stream with
      session := some ⟨0, (SessionPhase.subscribing ⟨0⟩ 0).code, [], true⟩ }
  have connects : FollowStep NeverFails 7 "events" (.spawned stores stream) (.connect 0)
      connected := .connected ⟨0⟩ 0
  rcases FollowState.run_catchUp consistent with ⟨waiting, _, _, _, waits⟩
  have live : (Follower.mk ⟨0⟩ 0 ⟨⟨0, 0⟩, stream.nextSeqNum⟩).subscription.nextSeqNum ≤
      stream.nextSeqNum := UInt64.le_refl _
  rcases FollowState.run_follow first [97] live with ⟨following, _, follows⟩
  have delivered : Run (SessionStep NeverFails 7 "events") connected _ _ := waits.trans follows
  -- The second session, on the stream that the new process has loaded.
  let written := stores.write (Stream.appendBatch ⟨7, 1⟩ none ⟨0, [97]⟩) .recordStorage
  let reopened : Stream := ⟨⟨4096, ⟨0, 4096⟩⟩, ⟨7, 1⟩⟩
  have loadable : Loadable written "events" ⟨7, 1⟩ (some ⟨0, 4096⟩) :=
    (Loadable.created Stores.opened "events" ⟨7, 1⟩).written none ⟨0, [97]⟩
  have loads : (Stream.load 7 "events").run.Executes (StorageOp.Answers NeverFails) written
      (.ok reopened) written := (Stream.executes_load loadable).mpr ⟨rfl, rfl, reloaded⟩
  have holds := consistent.written first [97]
  have reconsistent : Consistent written.recordStorage reopened [⟨0, [97]⟩] :=
    Consistent.of_block holds.ascending holds.stored (by decide) (by decide) reloaded
  rcases FollowState.run_catchUp reconsistent with ⟨waitingAgain, _, _, _, waitsAgain⟩
  have liveAgain : (Follower.mk ⟨0⟩ 1 ⟨⟨0, 0⟩, reopened.nextSeqNum⟩).subscription.nextSeqNum ≤
      reopened.nextSeqNum := UInt64.le_refl _
  rcases FollowState.run_follow opens [98] liveAgain with ⟨followingAgain, _, followsAgain⟩
  have run : Run (ReconnectStep NeverFails 7 "events" 0) connected _ _ :=
    (Run.snoc (.snoc (.snoc (delivered.mono SessionStep.reconnects)
      ⟨.crash, fun _ equal => by cases equal⟩) ⟨.load rfl loads, fun _ equal => by cases equal⟩)
      ⟨.connected ⟨0⟩ 1, fun _ equal => by cases equal; rfl⟩).trans
      ((waitsAgain.trans followsAgain).mono SessionStep.reconnects)
  have resumes := StreamController.readFollow_resumes succeed
    (Stream.new_opened NeverFails "events" ⟨7, 1⟩) (Stores.opened_unused _) .nil rfl belowTail
    connects run
  exact ⟨connected, _, _, _, connects, run, rfl, FollowState.drained_receiving, resumes⟩

end Slatestreams
