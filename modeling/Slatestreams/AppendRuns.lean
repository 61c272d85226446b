import Slatestreams.AppendServing

/-! # Runs of appends

The discipline of the appends to one name is kept by every step, so it holds
over every run from a server at rest. -/

namespace Slatestreams

open Foundation

namespace SharedServer

theorem release_eq {id : Nat} {self : SharedServer} (free : ∀ lock, self.locks lock ≠ some id) :
    release id self = self := by
  have locks : (fun lock => if self.locks lock = some id then none else self.locks lock) =
      self.locks := funext fun lock => if_neg (free lock)
  rw [release, locks]

end SharedServer

/-- The calls that wait for a lock, a place in a queue or a reply. -/
def ServerOp.Waits : ServerOp → Prop
  | .lockBasinInit | .lockStreamInit _ | .send _ _ | .receive _ _ => True
  | _ => False

namespace AppendLine

variable {line : AppendLine} {id : Nat} {call : ServerCall} {history : ServerHistory}
  {standing : Standing}

/-- An event that leaves the shared state as it is. -/
theorem undisturbed_same {event : ServerEvent} (holds : line.Holds history)
    (alone : ∀ other, event.task = some other → other = id)
    (submission : ServerEvent.submission event = none)
    (reports : line.Reports (history.past ++ [event]) history.shared.replies)
    (numbered : line.Numbered id history event) :
    line.discipline.Undisturbed id history (history.next event history.shared) where
  holds := holds.sameStream (.refl _ _) submission holds.owned reports
  changes := .sameStream (.refl _ _) alone numbered (.refl _ _)

theorem Knows.free (knows : line.Knows id call standing history) (none_ : standing.lock = none)
    (lock : Lock) : history.shared.locks lock ≠ some id := by
  intro held
  rw [knows.holds lock, none_] at held
  cases held

/-! ## Ends -/

/-- A waiting append has no lock. -/
theorem Knows.lock_of_waits (knows : line.Knows id call standing history) {op : ServerOp}
    (allowed : standing.Calls call op) (waits : op.Waits) : standing.lock = none := by
  cases standing with
  | free basin stream => rfl
  | atBasin stage => cases op <;> first | exact waits.elim | exact allowed.elim
  | atStream handle stage => cases op <;> first | exact waits.elim | exact allowed.elim
  | waiting stream kind replyRx => rfl
  | acknowledged replyRx ack => rfl
  | failed => rfl

theorem Reports.returned {past : List ServerEvent} {replies : Replies} {value : ServerResult}
    (reports : line.Reports past replies)
    (distinct : (numbers (past ++ [.returned id call value])).Nodup)
    (now : line.Completed replies past id call value ∨ line.Rejected value) :
    line.Reports (past ++ [.returned id call value]) replies where
  distinct := distinct
  ended split := by
    rcases snoc_eq_append_cons split with ⟨rfl, same, _⟩ | ⟨rest, _, earlier⟩
    · cases same
      exact now
    · exact reports.ended earlier

theorem completes {k : Nat} {submission : Submission} (holds : line.Holds history)
    (sent : line.Sent history id call k submission)
    (replied : (history.shared.replies submission.replyTx).isSome) :
    line.discipline.Undisturbed id history
      (history.next (.returned id call (.appended (.ok (line.number k)))) history.shared) := by
  have snoc : numbers (history.past ++ [.returned id call (.appended (.ok (line.number k)))]) =
      numbers history.past ++ [line.number k] := numbers_append
  refine undisturbed_same holds (fun _ same => (Option.some.inj same).symm) rfl
    (holds.reports.returned ?_ (.inl ?_)) fun seqNum member => ?_
  · rw [snoc, List.nodup_append]
    refine ⟨holds.reports.distinct, List.pairwise_singleton _ _,
      fun earlier member now latest same => ?_⟩
    rw [List.mem_singleton.mp latest] at same
    exact sent.unreturned (same ▸ member)
  · exact ⟨k, submission, sent.found, sent.task, sent.append, rfl, sent.issued, replied⟩
  · rw [snoc] at member
    rcases List.mem_append.mp member with earlier | now
    · exact .inl earlier
    · exact .inr ⟨k, submission, List.mem_singleton.mp now, sent.found, sent.task⟩

theorem rejects {error : ControllerError} (holds : line.Holds history)
    (invalid : validateName "basin_name" line.name.1 = .error error ∨
      validateName "stream_name" line.name.2 = .error error) :
    line.discipline.Undisturbed id history
      (history.next (.returned id call (.appended (.error error))) history.shared) := by
  have snoc : numbers (history.past ++ [.returned id call (.appended (.error error))]) =
      numbers history.past := numbers_snoc_of_none rfl
  refine undisturbed_same holds (fun _ same => (Option.some.inj same).symm) rfl
    (holds.reports.returned ?_ (.inr ⟨error, rfl, invalid⟩)) fun seqNum member => ?_
  · rw [snoc]
    exact holds.reports.distinct
  · rw [snoc] at member
    exact .inl member

/-- An append returns the number of its submission, or its names are not valid. -/
theorem returned {value : ServerResult} (holds : line.Holds history)
    (knows : line.Knows id call standing history) (ends : Standing.Ends call standing value) :
    line.discipline.Undisturbed id history
      (history.next (.returned id call value) (SharedServer.release id history.shared)) := by
  have stands := knows.stands
  rcases knows.append with ⟨data, rfl⟩
  cases value with
  | appended result =>
      cases result with
      | ok seqNum =>
          rcases ends with ⟨replyRx, ack, rfl, rfl⟩
          rcases stands with ⟨k, submission, sent, rfl, rfl, replied⟩
          rw [SharedServer.release_eq (knows.free rfl)]
          exact completes holds sent replied
      | error error =>
          rcases ends with rfl | ⟨free, invalid⟩
          · exact stands.elim
          · rw [SharedServer.release_eq (knows.free free)]
            exact rejects holds invalid
  | _ => exact ends.elim

theorem dropped {code : Program server ServerResult} (holds : line.Holds history)
    (knows : line.Knows id call standing history)
    (meets : code.Meets (Standing.protocol call) (Standing.Ends call) standing)
    (droppable : (SharedServer.environment (fun _ => False) ServerOp.Waits False).Droppable
      code) :
    line.discipline.Undisturbed id history
      (history.next (.dropped id) (SharedServer.release id history.shared)) := by
  have free : standing.lock = none := by
    cases code with
    | done value => exact droppable.elim
    | panic message =>
        have stands := knows.stands
        cases standing with
        | free basin stream => rfl
        | atStream handle stage =>
            rcases meets with rfl
            exact stands.2.elim
        | _ => exact meets.elim
    | call op next => exact knows.lock_of_waits meets.1 droppable
  rw [SharedServer.release_eq (knows.free free)]
  exact undisturbed_same holds (fun _ same => (Option.some.inj same).symm) rfl
    (holds.reports.snoc False.elim fun _ replied => replied) (.of_not_returns False.elim)

/-! ## Starts -/

theorem started {code : Program server ServerResult} {after : SharedServer}
    (append : ∃ data, call = .append line.name.1 line.name.2 data) (holds : line.Holds history)
    (idle : ∀ lock, history.shared.locks lock ≠ some id)
    (starts : history.shared.Starts call code after) :
    line.discipline.Undisturbed id history (history.next (.started id call) after) ∧
      ∃ standing, line.Knows id call standing (history.next (.started id call) after) ∧
        code.Meets (Standing.protocol call) (Standing.Ends call) standing := by
  cases starts with
  | request client =>
      refine ⟨undisturbed_same holds (fun _ same => (Option.some.inj same).symm) rfl
        (holds.reports.snoc False.elim fun _ replied => replied) (.of_not_returns False.elim),
        .free none none, ⟨append, fun lock => ⟨fun held => absurd held (idle lock), nofun⟩,
          ⟨nofun, nofun⟩, ?_, ?_⟩, Standing.meets_request call client⟩
      · rw [History.next_past, submissions_snoc_of_none rfl]
        exact .started _ _ _
      · have fewer := holds.queued.counted id
        rw [History.next_past, submittedBy_snoc_of_none rfl, startedBy, starts_append,
          List.count_append]
        change _ ≤ _ + [id].count id
        rw [List.count_singleton_self]
        exact Nat.succ_le_succ fewer
  | follower =>
      rcases append with ⟨data, append⟩
      cases append

/-! ## The discipline is kept -/

theorem Within.earlier {past : List ServerEvent} {event : ServerEvent}
    (within : line.Within (past ++ [event])) : line.Within past := by
  rcases within with ⟨calls, bound⟩
  refine ⟨fun id call member => calls id call (List.mem_append_left _ member), ?_⟩
  rw [submissions_append, List.length_append] at bound
  omega

theorem keeps (line : AppendLine) :
    line.discipline.Keeps (SharedServer.environment (fun _ => False) ServerOp.Waits False)
      line.Within where
  known different holds changes knows := changes.knows holds different knows
  idle different changes idle lock held := idle lock ((changes.leaves.locks lock different).mp held)
  started within holds idle starts :=
    started (within.1 _ _ (List.mem_append_right _ List.mem_cons_self)) holds idle starts
  called within holds knows allowed answers := by
    have carried := carried holds knows allowed answers within.2
    have reached := knows.reached holds allowed answers
    rw [knows.name] at reached
    exact ⟨trivial, ⟨carried.holds, carried.changes⟩,
      knows.append, reached.holds, reached.facts, carried.stands⟩
  turned _ _ knows _ resumes := by
    rcases knows.append with ⟨data, rfl⟩
    cases resumes
  returned _ holds knows ends _ :=
    ⟨returned holds knows ends, SharedServer.release_ne _ _⟩
  dropped _ holds knows meets droppable :=
    ⟨dropped holds knows meets droppable, SharedServer.release_ne _ _⟩
  moved _ holds moves id := by
    cases moves with
    | actor present taken =>
        rcases holds.moved present taken with ⟨after, changes⟩
        exact ⟨after, changes id⟩
  reset _ _ resets := resets.1.elim

end AppendLine

/-! ## An append on its own -/

/-- The stream is open under the name, and its actor waits. -/
structure SharedServer.Opened (self : SharedServer) (name : String × String) (basin : BasinHandle)
    (handle : StreamHandle) (stream : Stream) : Prop where
  found : self.basins name.1 = some basin
  cached : self.streams basin.address name.2 = some handle
  waits : ∃ broadcaster sent taken,
    self.actors[handle.tx]? = some ⟨broadcaster, .done stream, [], sent, taken⟩

/-- A task appends to a stream that is open, while nothing else moves. -/
theorem ServerPool.appends_alone {MayFail : StorageOp → Prop} {MayDrop : ServerOp → Prop}
    {MayRestart : Prop} {pool : ServerPool} {name : String × String} {basin : BasinHandle}
    {handle : StreamHandle} {stream : Stream} {block : Option SeqBlock}
    {after : SequenceAllocator} {id : Nat}
    (opened : pool.shared.Opened name basin handle stream) (absent : pool.tasks id = none)
    (basinNamed : validateName "basin_name" name.1 = .ok ())
    (streamNamed : validateName "stream_name" name.2 = .ok ())
    (draws : stream.Draws block after) (data : Bytes) :
    ∃ later last,
      Run (Pool.Step (SharedServer.environment MayFail MayDrop MayRestart)) pool
        (.started id (.append name.1 name.2 data) :: later ++
          [.returned id (.append name.1 name.2 data)
            (.appended (.ok (stream.moved after).nextSeqNum))]) last ∧
      numbers later = [] ∧ (submissions later).length = 1 ∧ starts later = [] ∧
      last.shared.Opened name basin handle (stream.moved after) ∧ last.tasks = pool.tasks ∧
      last.shared.stores = pool.shared.stores.write
        (Stream.appendBatch stream.metadata block ⟨stream.nextSeqNum, data⟩) .recordStorage := by
  rcases opened with ⟨found, cached, broadcaster, sent, taken, present⟩
  have placed (actor : StreamActor) :
      (pool.shared.actors.set handle.tx actor)[handle.tx]? = some actor :=
    List.getElem?_set_self (List.getElem?_eq_some_iff.mp present).1
  let origin : ServerCall := .append name.1 name.2 data
  have code : origin.code = ((StreamController.getOrCreateBasin name.1).run.bind <|
      StreamController.andThen fun basin => (basin.getStream name.2 true).run.bind <|
        StreamController.andThen fun stream => StreamController.appendTo stream data).bind
          fun result => .done (.appended result) := by
    refine (congrArg (Program.bind · _) (StreamController.append_eq name.1 name.2 data)).trans ?_
    rw [basinNamed, streamNamed]
    rfl
  have move {events : List ServerEvent} {shared : SharedServer} {actor next : StreamActor}
      {effect : ActorEffect} {stores : Stores}
      {task : Option (Foundation.Task server ServerCall ServerResult)}
      (run : Run (Pool.Step (SharedServer.environment MayFail MayDrop MayRestart)) pool events
        (pool.set id shared task))
      (stands : shared.actors = pool.shared.actors.set handle.tx actor)
      (taken : ActorStep MayFail shared.stores actor effect stores next) :
      Run (Pool.Step (SharedServer.environment MayFail MayDrop MayRestart)) pool
        (events ++ [.moved])
        (pool.set id { shared with
          stores
          actors := pool.shared.actors.set handle.tx next
          replies := effect.deliver shared.replies } task) := by
    have present : shared.actors[handle.tx]? = some actor := stands ▸ placed actor
    have moved := run.snoc (.moved (.actor present taken))
    simp only [Pool.set_shared, stands, List.set_set] at moved
    exact moved
  have began : Run (Pool.Step (SharedServer.environment MayFail MayDrop MayRestart)) pool
      [.started id origin] (pool.set id pool.shared (some ⟨origin, origin.code⟩)) :=
    .single (.started absent (.request rfl))
  rw [code, StreamController.getOrCreateBasin, StreamController.getBasin_eq] at began
  have resolved : Run (Pool.Step (SharedServer.environment MayFail MayDrop MayRestart)) pool _
      (pool.set id _ (some ⟨origin, ((basin.getStream name.2 true).run.bind <|
        StreamController.andThen fun stream => StreamController.appendTo stream data).bind
          fun result => .done (.appended result)⟩)) :=
    run_called (.readBasins name.1) (some basin) began ⟨found.symm, rfl⟩
  rw [BasinHandle.getStream_eq] at resolved
  have opened := run_called (.readStreams basin name.2) (some handle) resolved ⟨cached.symm, rfl⟩
  have asked := run_called (.send handle (.append data)) (some pool.shared.nextReply) opened
    ⟨_, present, rfl, Nat.zero_lt_succ _, rfl, rfl⟩
  have took := move asked rfl (.recv rfl rfl)
  have stored := move took rfl (.writes (ActorPhase.handle_append draws data _))
  have announced := move stored rfl (.broadcast rfl)
  have replied := move announced rfl (.reply rfl)
  have heard := run_called (.receive .append pool.shared.nextReply)
    (some (.ok ⟨⟨stream.nextSeqNum, data⟩, (stream.moved after).nextSeqNum⟩)) replied
    ⟨(ActorEffect.deliver_replied _ _ _ _ _).trans (if_pos rfl), rfl⟩
  have returned := heard.snoc (.returned_set rfl)
  refine ⟨_, _, returned, rfl, rfl, rfl, ⟨found, cached, _, _, _, placed _⟩, ?_, rfl⟩
  exact Function.update_eq_self_iff.mpr absent.symm

end Slatestreams
