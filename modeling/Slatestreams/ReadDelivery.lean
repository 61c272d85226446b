import Slatestreams.ReadFollowLog
import Slatestreams.StreamLifecycle

/-! # What one session delivers

A session whose start is not past the subscription delivers the log from its
start on, without gaps or repetitions, up to the first error. -/

namespace Slatestreams

open Foundation

section Runs

variable {MayFail : StorageOp → Prop} {view : LogView MayFail} {delivery : Delivery view}
  {floor : Nat} {metadata : StreamMetadata} {base log : List Record} {actor : StreamActor}
  {phase : ActorPhase} {state last : FollowState} {events : List FollowEvent} {basinId : U128}
  {streamName : String} {earlier : List (Except ControllerError Record)} {start : UInt64}

theorem Proceeds.run
    (run : Run (fun state event after =>
      SessionStep MayFail basinId streamName state event after ∧ state.InRange) state events last)
    (proceeds : Proceeds delivery floor metadata base log phase earlier start state) :
    ∃ nextLog nextPhase, log <+: nextLog ∧
      Proceeds delivery floor metadata base nextLog nextPhase earlier start last := by
  induction run with
  | nil => exact ⟨log, phase, List.prefix_rfl, proceeds⟩
  | snoc _ taken induction =>
      rcases induction with ⟨nextLog, nextPhase, grown, proceeds⟩
      rcases proceeds.step taken.1.1 taken.1.2 taken.2 with ⟨laterLog, laterPhase, grew, proceeds⟩
      exact ⟨laterLog, laterPhase, grown.trans grew, proceeds⟩

theorem ServerInv.run_alone
    (run : Run (SessionStep MayFail basinId streamName) state events last)
    (alone : state.session = none)
    (server : ServerInv view metadata base log actor phase state) :
    (∃ nextLog nextActor nextPhase, log <+: nextLog ∧
      ServerInv view metadata base nextLog nextActor nextPhase last) ∧
      last.session = none ∧ last.received = state.received := by
  induction run with
  | nil => exact ⟨⟨log, actor, phase, List.prefix_rfl, server⟩, alone, rfl⟩
  | snoc _ taken induction =>
      rcases induction with ⟨⟨nextLog, nextActor, nextPhase, grown, server⟩, alone, same⟩
      rcases server.step_alone taken.1 taken.2 alone with
        ⟨⟨laterLog, laterActor, laterPhase, grew, server⟩, alone, unchanged⟩
      exact ⟨⟨laterLog, laterActor, laterPhase, grown.trans grew, server⟩, alone,
        unchanged.trans same⟩

/-- A session that starts where the stream has arrived stays in range. -/
theorem Proceeds.run_inRange
    (run : Run (SessionStep MayFail basinId streamName) state events last)
    (proceeds : Proceeds delivery start.toNat metadata base log phase earlier start state) :
    Run (fun state event after =>
      SessionStep MayFail basinId streamName state event after ∧ state.InRange)
      state events last := by
  induction run with
  | nil => exact .nil
  | snoc _ taken induction =>
      rcases proceeds.run induction with ⟨_, _, _, proceeds⟩
      exact .snoc induction ⟨taken, proceeds.inRange⟩

/-- A first session, in a run that begins with the actor. -/
theorem Proceeds.of_session {stores : Stores} {stream : Stream} {written : List Record}
    {before : List FollowEvent} {middle connected : FollowState} (delivery : Delivery view)
    (ascending : NumberedLog.Ascending Record.number written)
    (agrees : view.Agrees stores.recordStorage stream written)
    (beforehand : Run (SessionStep MayFail basinId streamName) (.spawned stores stream) before
      middle)
    (connects : FollowStep MayFail basinId streamName middle (.connect start) connected)
    (run : Run (fun state event after =>
      SessionStep MayFail basinId streamName state event after ∧ state.InRange)
      connected events last) :
    ∃ log phase, written <+: log ∧
      Proceeds delivery 0 stream.metadata written log phase [] start last := by
  rcases (ServerInv.spawned ascending agrees).run_alone beforehand rfl with
    ⟨⟨log, actor, phase, grown, server⟩, _, nothing⟩
  have reached : phase.AtLeast 0 := by cases phase <;> simp [ActorPhase.AtLeast]
  have proceeds : Proceeds delivery 0 stream.metadata written log phase middle.received start
      connected := server.connect connects reached
  rw [show middle.received = [] from nothing] at proceeds
  rcases proceeds.run run with ⟨nextLog, nextPhase, grew, proceeds⟩
  exact ⟨nextLog, nextPhase, grown.trans grew, proceeds⟩

end Runs

/-! ## The log from the start on -/

/-- Lookups find the log's entries, so the session delivers the log. -/
def Delivery.exact {MayFail : StorageOp → Prop} (view : LogView MayFail)
    (found_eq : ∀ {log n found}, view.Found log n found →
      found = NumberedLog.entry Record.number log n.toNat) : Delivery view where
  Backfilled log start stop delivered :=
    delivered = NumberedLog.between Record.number log start stop
  Forwarded log start count delivered :=
    delivered = NumberedLog.since Record.number (log.take count) start
  Ended log start delivered := delivered <+: NumberedLog.since Record.number log start
  none log start := (NumberedLog.between_self log start).symm
  read ascending above found backfilled := by
    rw [ascending.between_succ above, ← found_eq found, backfilled]
  turned below above backfilled :=
    backfilled.trans (NumberedLog.since_take_eq_between below above).symm
  forwarded {log start count record delivered} next above forwarded := by
    have kept : NumberedLog.since Record.number [record] start = [record] :=
      NumberedLog.since_eq_self fun item member => List.mem_singleton.mp member ▸ above
    rw [List.take_add_one, next, Option.toList_some, NumberedLog.since_append, kept, forwarded]
  backfilled_grows {log start stop record delivered} above backfilled := by
    have outside : NumberedLog.between Record.number [record] start stop = [] :=
      NumberedLog.between_eq_nil fun item member => by
        rw [List.mem_singleton.mp member]
        omega
    rw [NumberedLog.between_append, outside, List.append_nil, backfilled]
  forwarded_grows record _ within forwarded := by
    rw [List.take_append_of_le_length within, forwarded]
  ended_grows record _ ended :=
    List.IsPrefix.trans ended (NumberedLog.since_isPrefix (List.prefix_append _ _) _)
  ended_none _ _ := List.nil_prefix
  ended_backfilled ascending backfilled := backfilled ▸ ascending.between_isPrefix _ _
  ended_forwarded forwarded :=
    forwarded ▸ NumberedLog.since_isPrefix (List.take_prefix _ _) _

/-- The write of the second of three appends fails, so number 1 is a hole. A session that
starts at or below the tail delivers what is stored there, and then the next append. -/
theorem FollowState.hole_followed {start : UInt64} (within : start.toNat ≤ 3) :
    ∃ before middle connected events last,
      Run (SessionStep WritesMayFail 7 "events")
        (.spawned (Stores.opened.created "events" ⟨7, 1⟩) ⟨SequenceAllocator.default, ⟨7, 1⟩⟩)
        before middle ∧
      StoresLog middle.stores.recordStorage ⟨7, 1⟩ [⟨0, [97]⟩, ⟨2, [99]⟩] ∧
      FollowStep WritesMayFail 7 "events" middle (.connect start) connected ∧
      Run (fun state event after =>
        SessionStep WritesMayFail 7 "events" state event after ∧ state.InRange)
        connected events last ∧
      StoresLog last.stores.recordStorage ⟨7, 1⟩ [⟨0, [97]⟩, ⟨2, [99]⟩, ⟨3, [100]⟩] ∧
      last.received =
        (NumberedLog.since Record.number [⟨0, [97]⟩, ⟨2, [99]⟩] start.toNat).map .ok ++
          [.ok ⟨3, [100]⟩] ∧
      last.Drained := by
  have consistent := ((Stores.opened_unused ⟨7, 1⟩).created "events").consistent
  have first : Stream.Draws ⟨SequenceAllocator.default, ⟨7, 1⟩⟩ none ⟨1, ⟨0, 4096⟩⟩ := by decide
  have second : Stream.Draws ⟨⟨1, ⟨0, 4096⟩⟩, ⟨7, 1⟩⟩ none ⟨2, ⟨0, 4096⟩⟩ := by decide
  have third : Stream.Draws ⟨⟨2, ⟨0, 4096⟩⟩, ⟨7, 1⟩⟩ none ⟨3, ⟨0, 4096⟩⟩ := by decide
  have fourth : Stream.Draws ⟨⟨3, ⟨0, 4096⟩⟩, ⟨7, 1⟩⟩ none ⟨4, ⟨0, 4096⟩⟩ := by decide
  let stores := ((Stores.opened.created "events" ⟨7, 1⟩).write
    (Stream.appendBatch ⟨7, 1⟩ none ⟨0, [97]⟩) .recordStorage).write
      (Stream.appendBatch ⟨7, 1⟩ none ⟨2, [99]⟩) .recordStorage
  let stream : Stream := ⟨⟨3, ⟨0, 4096⟩⟩, ⟨7, 1⟩⟩
  have holed : Consistent stores.recordStorage stream [⟨0, [97]⟩, ⟨2, [99]⟩] :=
    ((consistent.written first [97]).failed second).written third [99]
  obtain ⟨earlier, taken, replies, before⟩ : ∃ earlier taken replies,
      Run (SessionStep WritesMayFail 7 "events")
        (.spawned (Stores.opened.created "events" ⟨7, 1⟩) ⟨SequenceAllocator.default, ⟨7, 1⟩⟩)
        earlier
        ⟨stores, some (.idle stream [⟨0, [97]⟩, ⟨2, [99]⟩] taken), replies, 3, none, []⟩ :=
    ⟨_, _, _, ((run_append first [97]).trans
      (run_appendFails second [98] (.storage "unavailable") trivial)).trans (run_append third [99])⟩
  have connects : FollowStep WritesMayFail 7 "events"
      ⟨stores, some (.idle stream [⟨0, [97]⟩, ⟨2, [99]⟩] taken), replies, 3, none, []⟩
      (.connect start) _ := .connected ⟨0⟩ start
  rcases run_catchUp holed with ⟨catches, taken, replies, nextReply, catchUp⟩
  have live : (Follower.mk ⟨0⟩ start ⟨⟨0, 2⟩, stream.nextSeqNum⟩).subscription.nextSeqNum ≤
      stream.nextSeqNum := UInt64.le_refl _
  rcases run_follow fourth [100] live with ⟨follows, laterReplies, follow⟩
  have spawned : ServerInv (.consistent WritesMayFail) _ [] [] _ _ _ :=
    .spawned consistent.ascending consistent
  rcases spawned.run_alone before rfl with ⟨⟨_, actor, phase, _, server⟩, _⟩
  have reached : phase.AtLeast start.toNat := by
    obtain rfl := Option.some.inj server.running
    have code := server.actorLog.code
    cases phase with
    | waiting stream =>
        cases code
        exact within
    | _ => cases code
  have proceeds : Proceeds (.exact (.consistent WritesMayFail) id) _ _ _ _ _ _ _ _ :=
    server.connect connects reached
  exact ⟨_, _, _, _, _, before, holed.stored, connects,
    proceeds.run_inRange (catchUp.trans follow), (holed.written fourth [100]).stored, rfl,
    drained_receiving⟩

/-- In one process lifetime, from any sound actor on and whatever fails, a
session that does not start past its subscription delivers the stored records
from its start on in order, without gaps or repetitions; after an error nothing
follows, and once nothing is under way the client has all of them. -/
theorem StreamController.readFollow_delivers {MayFail : StorageOp → Prop} {basinId : U128}
    {streamName : String} {stores : Stores} {stream : Stream} {written : List Record}
    {start : UInt64} {before events : List FollowEvent} {middle connected last : FollowState}
    (consistent : Consistent stores.recordStorage stream written)
    (beforehand : Run (SessionStep MayFail basinId streamName) (.spawned stores stream) before
      middle)
    (connects : FollowStep MayFail basinId streamName middle (.connect start) connected)
    (run : Run (fun state event after =>
      SessionStep MayFail basinId streamName state event after ∧ state.InRange)
      connected events last) :
    ∃ log, written <+: log ∧ NumberedLog.Ascending Record.number log ∧
      StoresLog last.stores.recordStorage stream.metadata log ∧
      (∃ records failures, last.received = records.map .ok ++ failures ∧
        records <+: NumberedLog.since Record.number log start.toNat ∧
        (failures = [] ∨ ∃ error, failures = [.error error])) ∧
      (last.Drained →
        last.received = (NumberedLog.since Record.number log start.toNat).map .ok) := by
  rcases Proceeds.of_session (.exact (.consistent MayFail) fun found => found)
      consistent.ascending consistent beforehand connects run with
    ⟨log, phase, grown, proceeds⟩
  have server : ∃ actor, ServerInv (.consistent MayFail) stream.metadata written log actor phase
      last := by
    rcases proceeds with ⟨actor, _, _, _, _, server, _⟩
    exact ⟨actor, server⟩
  rcases server with ⟨actor, server⟩
  refine ⟨log, grown, server.actorLog.ascending, server.actorLog.stored, ?_, fun drained => ?_⟩
  · rcases proceeds.received with ⟨delivered, records, failures, inLog, shorter, received, failed⟩
    exact ⟨records, failures, received, shorter.trans inLog, failed⟩
  · rcases proceeds.drained drained with ⟨delivered, whole, received⟩
    obtain rfl : delivered = NumberedLog.since Record.number (log.take log.length) start.toNat :=
      whole
    rw [received, List.take_length]
    rfl

/-- A session from 0 on skips the hole and then follows. -/
theorem StreamController.readFollow_delivers_followed :
    ∃ middle connected events last,
      StoresLog middle.stores.recordStorage ⟨7, 1⟩ [⟨0, [97]⟩, ⟨2, [99]⟩] ∧
      FollowStep WritesMayFail 7 "events" middle (.connect 0) connected ∧
      Run (fun state event after =>
        SessionStep WritesMayFail 7 "events" state event after ∧ state.InRange)
        connected events last ∧
      last.received = [.ok ⟨0, [97]⟩, .ok ⟨2, [99]⟩, .ok ⟨3, [100]⟩] ∧ last.Drained ∧
      ∃ log, [] <+: log ∧ NumberedLog.Ascending Record.number log ∧
        StoresLog last.stores.recordStorage ⟨7, 1⟩ log ∧
        (∃ records failures, last.received = records.map .ok ++ failures ∧
          records <+: NumberedLog.since Record.number log (0 : UInt64).toNat ∧
          (failures = [] ∨ ∃ error, failures = [.error error])) ∧
        (last.Drained →
          last.received = (NumberedLog.since Record.number log (0 : UInt64).toNat).map .ok) := by
  rcases FollowState.hole_followed (by decide : (0 : UInt64).toNat ≤ 3) with
    ⟨before, middle, connected, events, last, beforehand, stored, connects, run, _, received,
      drained⟩
  have consistent := ((Stores.opened_unused ⟨7, 1⟩).created "events").consistent
  have delivers := StreamController.readFollow_delivers consistent beforehand connects run
  exact ⟨middle, connected, events, last, stored, connects, run, received, drained, delivers⟩

/-! ## Nothing below the start -/

/-- Every value under a record key of the stream is a record with that number. -/
def Labelled (records : Contents) (metadata : StreamMetadata) : Prop :=
  ∀ n value, records.get (metadata.recordKey n) = some value →
    ∃ record : Record, value = record.serialise ∧ record.seqNum = n

theorem Labelled.written {records : Contents} {stream : Stream}
    (labelled : Labelled records stream.metadata) (block : Option SeqBlock) (data : Bytes) :
    Labelled (records.apply
      (Stream.appendBatch stream.metadata block ⟨stream.nextSeqNum, data⟩)) stream.metadata := by
  intro n value found
  rw [get_appendBatch_record] at found
  split at found
  · rename_i same
    exact ⟨_, (Option.some.inj found).symm, same.2⟩
  · exact labelled n value found

theorem Labelled.found {records : Contents} {metadata : StreamMetadata}
    (labelled : Labelled records metadata) (n : UInt64) :
    ∃ found, Stream.readResult (.ok (records.read (metadata.recordKey n))) = .ok found ∧
      ∀ record, found = some record → record.seqNum = n := by
  cases stored : records.get (metadata.recordKey n) with
  | none => exact ⟨none, by simp [Contents.read, stored, Stream.readResult], nofun⟩
  | some value =>
      rcases labelled n value stored with ⟨record, rfl, label⟩
      refine ⟨some record, ?_, fun other equal => Option.some.inj equal ▸ label⟩
      simp [Contents.read, stored, Stream.readResult, Record.deserialise_serialise]

/-- Only the labels are known of the stores; the log is what the actor has written. -/
def LogView.labelled (MayFail : StorageOp → Prop) : LogView MayFail where
  Stored records metadata _ := Labelled records metadata
  Agrees records stream log :=
    Labelled records stream.metadata ∧ ∀ record ∈ log, record.number < stream.nextSeqNum.toNat
  Found _ n found := ∀ record, found = some record → record.seqNum = n
  stored agrees := agrees.1
  below agrees := agrees.2
  failed agrees draws _ :=
    ⟨agrees.1, fun record member => Nat.lt_trans (agrees.2 record member)
      (Nat.lt_of_lt_of_eq (Nat.lt_succ_self _) draws.next_eq.symm)⟩
  written {records stream log block after} data agrees draws := by
    have next_eq := draws.next_eq
    refine ⟨agrees.1.written block data, fun record member => ?_⟩
    rcases List.mem_append.mp member with old | new
    · exact Nat.lt_trans (agrees.2 record old) (next_eq ▸ Nat.lt_succ_self _)
    · rw [List.mem_singleton.mp new]
      exact next_eq ▸ Nat.lt_succ_self _
  found n stored := stored.found n
  grows _ found := found

/-- Whatever else the log holds, nothing below the start is delivered. -/
def Delivery.fromStart (MayFail : StorageOp → Prop) : Delivery (.labelled MayFail) where
  Backfilled _ start _ delivered := ∀ record ∈ delivered, start ≤ record.number
  Forwarded _ start _ delivered := ∀ record ∈ delivered, start ≤ record.number
  Ended _ start delivered := ∀ record ∈ delivered, start ≤ record.number
  none _ _ _ member := nomatch member
  read {log start n delivered found} _ above label backfilled record member := by
    rcases List.mem_append.mp member with old | new
    · exact backfilled record old
    · have : record.seqNum = n := label record (Option.mem_toList.mp new)
      rw [Record.number, this]
      exact above
  turned _ _ backfilled := backfilled
  forwarded _ above forwarded record member := by
    rcases List.mem_append.mp member with old | new
    · exact forwarded record old
    · exact List.mem_singleton.mp new ▸ above
  backfilled_grows _ backfilled := backfilled
  forwarded_grows _ _ _ forwarded := forwarded
  ended_grows _ _ ended := ended
  ended_none _ _ _ member := nomatch member
  ended_backfilled _ backfilled := backfilled
  ended_forwarded forwarded := forwarded

/-- Whatever the stores hold and whatever fails, a session whose start is not
past its subscription delivers no record below its start. -/
theorem StreamController.readFollow_from_start {MayFail : StorageOp → Prop} {basinId : U128}
    {streamName : String} {stores : Stores} {stream : Stream} {start : UInt64}
    {before events : List FollowEvent} {middle connected last : FollowState}
    (labelled : Labelled stores.recordStorage stream.metadata)
    (beforehand : Run (SessionStep MayFail basinId streamName) (.spawned stores stream) before
      middle)
    (connects : FollowStep MayFail basinId streamName middle (.connect start) connected)
    (run : Run (fun state event after =>
      SessionStep MayFail basinId streamName state event after ∧ state.InRange)
      connected events last) :
    ∀ record, .ok record ∈ last.received → start ≤ record.seqNum := by
  rcases Proceeds.of_session (.fromStart MayFail) NumberedLog.ascending_nil
      ⟨labelled, fun _ member => nomatch member⟩ beforehand connects run with
    ⟨log, phase, _, proceeds⟩
  rcases proceeds.received with ⟨delivered, records, failures, above, shorter, received, failed⟩
  intro record member
  rw [received, List.nil_append] at member
  rcases List.mem_append.mp member with delivered | failure
  · rcases List.mem_map.mp delivered with ⟨other, kept, equal⟩
    cases equal
    exact UInt64.le_iff_toNat_le.mpr (above record (shorter.subset kept))
  · rcases failed with rfl | ⟨error, rfl⟩
    · cases failure
    · cases List.mem_singleton.mp failure

/-- Number 0 is stored and lies below the start. -/
theorem StreamController.readFollow_from_start_above :
    ∃ middle connected events last,
      StoresLog middle.stores.recordStorage ⟨7, 1⟩ [⟨0, [97]⟩, ⟨2, [99]⟩] ∧
      FollowStep WritesMayFail 7 "events" middle (.connect 2) connected ∧
      Run (fun state event after =>
        SessionStep WritesMayFail 7 "events" state event after ∧ state.InRange)
        connected events last ∧
      last.received = [.ok ⟨2, [99]⟩, .ok ⟨3, [100]⟩] ∧
      ∀ record, .ok record ∈ last.received → 2 ≤ record.seqNum := by
  rcases FollowState.hole_followed (by decide : (2 : UInt64).toNat ≤ 3) with
    ⟨before, middle, connected, events, last, beforehand, stored, connects, run, _, received, _⟩
  have labelled : Labelled (Stores.opened.created "events" ⟨7, 1⟩).recordStorage
      (Stream.mk SequenceAllocator.default ⟨7, 1⟩).metadata :=
    fun n value found => by
      rw [((Stores.opened_unused ⟨7, 1⟩).created "events").2 n] at found
      cases found
  have honoured := StreamController.readFollow_from_start labelled beforehand connects run
  exact ⟨middle, connected, events, last, stored, connects, run, received, honoured⟩

/-- A session that starts at 10 on an empty stream delivers the record that is
appended next, which has number 0. -/
theorem StreamController.readFollow_below_start :
    ∃ connected events last,
      FollowStep NeverFails 7 "events"
        (.spawned (Stores.opened.created "events" ⟨7, 1⟩) ⟨SequenceAllocator.default, ⟨7, 1⟩⟩)
        (.connect 10) connected ∧
      Run (SessionStep NeverFails 7 "events") connected events last ∧
      .ok ⟨0, [97]⟩ ∈ last.received ∧ ¬(10 : UInt64) ≤ 0 := by
  have first : Stream.Draws ⟨SequenceAllocator.default, ⟨7, 1⟩⟩ none ⟨1, ⟨0, 4096⟩⟩ := by decide
  let stores := Stores.opened.created "events" ⟨7, 1⟩
  let stream : Stream := ⟨SequenceAllocator.default, ⟨7, 1⟩⟩
  let connected : FollowState :=
    { FollowState.spawned stores stream with
      session := some ⟨10, (SessionPhase.subscribing ⟨0⟩ 10).code, [], true⟩ }
  have connects : FollowStep NeverFails 7 "events" (.spawned stores stream) (.connect 10)
      connected := .connected ⟨0⟩ 10
  have consistent := ((Stores.opened_unused ⟨7, 1⟩).created "events").consistent
  rcases FollowState.run_catchUp consistent with ⟨waiting, taken, replies, nextReply, waits⟩
  have live : (Follower.mk ⟨0⟩ 10 ⟨⟨0, 0⟩, stream.nextSeqNum⟩).subscription.nextSeqNum ≤
      stream.nextSeqNum := UInt64.le_refl _
  rcases FollowState.run_follow first [97] live with ⟨following, later, follows⟩
  refine ⟨connected, _, _, connects, waits.trans follows, ?_, by decide⟩
  exact List.mem_singleton_self _

end Slatestreams
