import Slatestreams.StreamActorLog

/-! # Appends in a queue

An actor that is only sent appends, over storage that does not fail, gives its
numbers in the order of the queue and answers every command. -/

namespace Slatestreams

open Foundation

/-! ## Submissions -/

/-- An append that a task has put into the queue. -/
structure Submission where
  task : Nat
  data : Bytes
  replyTx : ReplyId
  deriving DecidableEq, Repr

namespace Submission

def command (self : Submission) : StreamCommand := .append self.data self.replyTx

def record (self : Submission) (n : Nat) : Record := ⟨UInt64.ofNat n, self.data⟩

def ack (self : Submission) (n : Nat) : AppendResult := ⟨self.record n, UInt64.ofNat (n + 1)⟩

end Submission

/-- The records of the submissions, numbered in their order. -/
def numbered (tail : Nat) (submitted : List Submission) : List Record :=
  submitted.mapIdx fun k submission => submission.record (tail + k)

theorem record_mem_numbered (tail : Nat) {submitted : List Submission} {k : Nat}
    {submission : Submission} (found : submitted[k]? = some submission) :
    submission.record (tail + k) ∈ numbered tail submitted := by
  have numbered : (numbered tail submitted)[k]? = some (submission.record (tail + k)) := by
    rw [Slatestreams.numbered, List.getElem?_mapIdx, found]
    rfl
  exact List.mem_of_getElem? numbered

theorem numbered_take_succ (tail : Nat) {submitted : List Submission} {k : Nat}
    {submission : Submission} (found : submitted[k]? = some submission) :
    numbered tail (submitted.take (k + 1)) =
      numbered tail (submitted.take k) ++ [submission.record (tail + k)] := by
  rcases List.getElem?_eq_some_iff.mp found with ⟨within, rfl⟩
  simp only [numbered, List.take_succ_eq_append_getElem within, List.mapIdx_append,
    List.length_take, Nat.min_eq_left (Nat.le_of_lt within)]
  simp

/-! ## A stream that is ready for its next append -/

structure Stream.Ready (records : Contents) (stream : Stream) (tail : Nat) (log : List Record) :
    Prop where
  consistent : Consistent records stream log
  next : stream.nextSeqNum.toNat = tail
  blockSize : stream.sequenceNumberAllocator.currentBlock.blockSize = DEFAULT_BLOCK_SIZE

namespace Stream.Ready

variable {records : Contents} {stream : Stream} {tail : Nat} {log : List Record}

theorem draws (ready : stream.Ready records tail log)
    (bound : tail < 2 ^ 64 - 2 * DEFAULT_BLOCK_SIZE.toNat) :
    ∃ block after, stream.Draws block after := by
  refine Stream.exists_draws ready.consistent.valid ?_
  have start := ready.consistent.valid.start_le
  have next := ready.next
  rw [ready.blockSize]
  unfold Stream.nextSeqNum at next
  omega

theorem record_eq (ready : stream.Ready records tail log) (submission : Submission) :
    submission.record tail = ⟨stream.nextSeqNum, submission.data⟩ := by
  rw [Submission.record, ← ready.next, UInt64.ofNat_toNat]

theorem ack_eq {block : Option SeqBlock} {after : SequenceAllocator}
    (ready : stream.Ready records tail log) (draws : stream.Draws block after)
    (submission : Submission) :
    submission.ack tail =
      ⟨⟨stream.nextSeqNum, submission.data⟩, after.nextSequenceNumber⟩ := by
  rw [Submission.ack, ready.record_eq, ← ready.next, ← draws.next_eq, UInt64.ofNat_toNat]

theorem written {block : Option SeqBlock} {after : SequenceAllocator}
    (ready : stream.Ready records tail log) (draws : stream.Draws block after)
    (submission : Submission) :
    (stream.moved after).Ready
      (records.apply
        (Stream.appendBatch stream.metadata block ⟨stream.nextSeqNum, submission.data⟩))
      (tail + 1) (log ++ [submission.record tail]) := by
  rw [ready.record_eq]
  refine ⟨ready.consistent.written draws submission.data, ?_, ?_⟩
  · rw [← ready.next]
    exact draws.next_eq
  · exact draws.allocated.blockSize_eq.trans ready.blockSize

end Stream.Ready

/-! ## Serving the queue -/

/-- The steps an actor still makes for the appends it has been sent. -/
def StreamActor.pending (actor : StreamActor) : Nat :=
  4 * actor.queue.length +
    match actor.code with
    | .call (.storage _) _ => 3
    | .call (.broadcast _) _ => 2
    | .call (.reply _ _ _) _ => 1
    | _ => 0

theorem StreamActor.queue_of_pending {actor : StreamActor} (done : actor.pending = 0) :
    actor.queue = [] := by
  unfold StreamActor.pending at done
  exact List.length_eq_zero_iff.mp (by omega)

section Serving

variable (records : Contents) (metadata : StreamMetadata) (tail : Nat) (log : List Record)
  (earlier : List StreamCommand) (submitted : List Submission)

/-- Where the actor stands, with the submissions it has taken and those it has answered. -/
inductive ServingPhase : Nat → Nat → Program streamActor Stream → Prop where
  | idle {stream : Stream} {k : Nat} (is : stream.metadata = metadata)
      (ready : stream.Ready records (tail + k) (log ++ numbered tail (submitted.take k))) :
      ServingPhase k k (.done stream)
  | storing {stream : Stream} {submission : Submission} {block : Option SeqBlock}
      {after : SequenceAllocator} {k : Nat} (is : stream.metadata = metadata)
      (found : submitted[k]? = some submission)
      (ready : stream.Ready records (tail + k) (log ++ numbered tail (submitted.take k)))
      (draws : stream.Draws block after) :
      ServingPhase (k + 1) k
        (ActorPhase.storing stream submission.data submission.replyTx block after).code
  | announcing {stream : Stream} {submission : Submission} {k : Nat}
      (is : stream.metadata = metadata) (found : submitted[k]? = some submission)
      (ready : stream.Ready records (tail + (k + 1))
        (log ++ numbered tail (submitted.take (k + 1)))) :
      ServingPhase (k + 1) k
        (ActorPhase.announcing stream submission.data submission.replyTx
          (submission.ack (tail + k))).code
  | answering {stream : Stream} {submission : Submission} {k : Nat}
      (is : stream.metadata = metadata) (found : submitted[k]? = some submission)
      (ready : stream.Ready records (tail + (k + 1))
        (log ++ numbered tail (submitted.take (k + 1)))) :
      ServingPhase (k + 1) k
        (ActorPhase.answering stream submission.command (.ok (submission.ack (tail + k)))).code

/-- The actor has taken the first of the submissions, in order, and the others are in its
queue. -/
structure ServesQueue (taken answered : Nat) (actor : StreamActor) : Prop where
  within : taken ≤ submitted.length
  commands : actor.taken = earlier ++ (submitted.take taken).map Submission.command
  queue : actor.queue = (submitted.drop taken).map Submission.command
  phase : ServingPhase records metadata tail log submitted taken answered actor.code

end Serving

namespace ServesQueue

variable {metadata : StreamMetadata} {tail : Nat} {log : List Record}
  {earlier : List StreamCommand} {submitted : List Submission} {stores after : Stores}
  {actor next : StreamActor} {effect : ActorEffect} {taken answered : Nat}

theorem step (moves : ActorStep (fun _ => False) stores actor effect after next)
    (bound : tail + submitted.length ≤ 2 ^ 64 - 2 * DEFAULT_BLOCK_SIZE.toNat)
    (serves : ServesQueue stores.recordStorage metadata tail log earlier submitted taken answered
      actor) :
    ∃ nextTaken nextAnswered,
      ServesQueue after.recordStorage metadata tail log earlier submitted nextTaken nextAnswered next ∧
      next.pending + 1 = actor.pending ∧
      (effect = .silent ∧ nextAnswered = answered ∨
        ∃ submission, submitted[answered]? = some submission ∧
          effect = .replied .append submission.replyTx (.ok (submission.ack (tail + answered))) ∧
          nextAnswered = answered + 1) := by
  rcases serves with ⟨within, commands, queue, phase⟩
  cases moves with
  | recv waits queued =>
      rw [waits] at phase
      rename_i stream command rest
      cases phase with
      | idle is ready =>
          rw [queued] at queue
          rcases List.map_eq_cons_iff.mp queue.symm with ⟨submission, later, waiting, rfl, rfl⟩
          have found : submitted[taken]? = some submission := by
            rw [← List.head?_drop, waiting]
            rfl
          rcases List.getElem?_eq_some_iff.mp found with ⟨more, _⟩
          rcases ready.draws (by omega) with ⟨block, allocator, draws⟩
          refine ⟨taken + 1, taken, ⟨more, ?_, ?_, ?_⟩, ?_, .inl ⟨rfl, rfl⟩⟩
          · change actor.taken ++ [submission.command] = _
            rw [commands, List.take_add_one, found]
            simp
          · rw [← List.drop_drop, waiting]
            rfl
          · change ServingPhase _ _ _ _ _ _ _ (StreamActor.handle stream submission.command)
            rw [Submission.command, ActorPhase.handle_append draws]
            exact .storing is found ready draws
          · rw [StreamActor.pending, StreamActor.pending, waits, queued, Submission.command,
              ActorPhase.handle_append draws]
            rfl
  | storage calls answers =>
      rename_i op answer rest
      rw [calls] at phase
      cases phase with
      | storing is found ready draws =>
          rename_i stream submission block allocator
          cases answer with
          | error error => exact answers.1.elim
          | ok done =>
              cases done
              rcases answers with rfl
              have acknowledged := ready.ack_eq draws submission
              have written := ready.written draws submission
              rw [List.append_assoc, ← numbered_take_succ tail found] at written
              refine ⟨_, _, ⟨within, commands, queue, ?_⟩, ?_, .inl ⟨rfl, rfl⟩⟩
              · have moved : (stream.moved allocator).metadata = metadata := is
                have announcing := ServingPhase.announcing moved found written
                rw [acknowledged] at announcing
                exact announcing
              · rw [StreamActor.pending, StreamActor.pending, calls]
                rfl
  | broadcast calls =>
      rw [calls] at phase
      cases phase with
      | announcing is found ready =>
          refine ⟨_, _, ⟨within, commands, queue, .answering is found ready⟩, ?_, .inl ⟨rfl, rfl⟩⟩
          rw [StreamActor.pending, StreamActor.pending, calls]
          rfl
  | subscribe calls =>
      rw [calls] at phase
      cases phase
  | reply calls =>
      rw [calls] at phase
      cases phase with
      | answering is found ready =>
          refine ⟨_, _, ⟨within, commands, queue, .idle is ready⟩, ?_, .inr ⟨_, found, rfl, rfl⟩⟩
          rw [StreamActor.pending, StreamActor.pending, calls]
          rfl

/-- A spawned actor has nothing to do yet. -/
theorem spawned {records : Contents} {stream : Stream} (broadcaster : Nat)
    (ready : stream.Ready records tail log) :
    ServesQueue records stream.metadata tail log [] [] 0 0 (.spawn broadcaster stream) where
  within := Nat.le_refl 0
  commands := rfl
  queue := rfl
  phase := .idle rfl (by simpa [numbered] using ready)

theorem enqueue {records : Contents}
    (serves : ServesQueue records metadata tail log earlier submitted taken answered actor)
    (submission : Submission) :
    ServesQueue records metadata tail log earlier (submitted ++ [submission]) taken answered
      { actor with queue := actor.queue ++ [submission.command] } := by
  rcases serves with ⟨within, commands, queue, phase⟩
  have same {k : Nat} (le : k ≤ submitted.length) :
      (submitted ++ [submission]).take k = submitted.take k := List.take_append_of_le_length le
  have grown {k : Nat} {other : Submission} (found : submitted[k]? = some other) :
      (submitted ++ [submission])[k]? = some other :=
    (List.getElem?_append_left (List.getElem?_eq_some_iff.mp found).1).trans found
  refine ⟨?_, ?_, ?_, ?_⟩
  · rw [List.length_append]
    exact Nat.le_add_right_of_le within
  · rw [same within]
    exact commands
  · rw [List.drop_append_of_le_length within, List.map_append, ← queue]
    rfl
  · change ServingPhase _ _ _ _ _ _ _ actor.code
    generalize actor.code = code at phase
    cases phase with
    | idle is ready => exact .idle is (by rwa [same within])
    | storing is found ready draws =>
        exact .storing is (grown found) (by rwa [same (Nat.le_of_succ_le within)]) draws
    | announcing is found ready => exact .announcing is (grown found) (by rwa [same within])
    | answering is found ready => exact .answering is (grown found) (by rwa [same within])

section Actor

variable {records : Contents}

theorem running
    (serves : ServesQueue records metadata tail log earlier submitted taken answered actor) :
    actor.running = true := by
  have phase := serves.phase
  unfold StreamActor.running
  generalize actor.code = code at phase
  cases phase <;> rfl

theorem answered_le
    (serves : ServesQueue records metadata tail log earlier submitted taken answered actor) :
    answered ≤ taken ∧ taken ≤ answered + 1 := by
  have phase := serves.phase
  generalize actor.code = code at phase
  cases phase <;> omega

/-- The store holds the records of the submissions taken, but for the last one perhaps. -/
theorem storesLog
    (serves : ServesQueue records metadata tail log earlier submitted taken answered actor) :
    ∃ count, answered ≤ count ∧ count ≤ taken ∧
      NumberedLog.Ascending Record.number (log ++ numbered tail (submitted.take count)) ∧
      StoresLog records metadata (log ++ numbered tail (submitted.take count)) := by
  have phase := serves.phase
  generalize actor.code = code at phase
  cases phase with
  | idle is ready =>
      exact ⟨_, Nat.le_refl _, Nat.le_refl _, ready.consistent.ascending,
        is ▸ ready.consistent.stored⟩
  | storing is found ready draws =>
      exact ⟨_, Nat.le_refl _, Nat.le_succ _, ready.consistent.ascending,
        is ▸ ready.consistent.stored⟩
  | announcing is found ready =>
      exact ⟨_, Nat.le_succ _, Nat.le_refl _, ready.consistent.ascending,
        is ▸ ready.consistent.stored⟩
  | answering is found ready =>
      exact ⟨_, Nat.le_succ _, Nat.le_refl _, ready.consistent.ascending,
        is ▸ ready.consistent.stored⟩

/-- What has been answered is in the store, under its number. -/
theorem stored
    (serves : ServesQueue records metadata tail log earlier submitted taken answered actor) {k : Nat}
    {submission : Submission} (found : submitted[k]? = some submission) (done : k < answered) :
    records.get (metadata.recordKey (UInt64.ofNat (tail + k))) =
      some (submission.record (tail + k)).serialise := by
  rcases serves.storesLog with ⟨count, le, _, ascending, stored⟩
  have taken : (submitted.take count)[k]? = some submission := by
    rw [List.getElem?_take_of_lt (Nat.lt_of_lt_of_le done le), found]
  have member := List.mem_append_right log (record_mem_numbered tail taken)
  refine (stored _).trans ?_
  have entry := ascending.entry_of_mem member
  change (NumberedLog.entry Record.number _
    (Record.number (submission.record (tail + k)))).map Record.serialise = _
  rw [entry]
  rfl

/-- An actor that has not answered everything makes its next step. -/
theorem proceeds {stores : Stores}
    (serves : ServesQueue stores.recordStorage metadata tail log earlier submitted taken answered actor)
    (waiting : actor.pending ≠ 0) :
    ∃ effect after next, ActorStep (fun _ => False) stores actor effect after next := by
  have phase := serves.phase
  cases is : actor.code with
  | done stream =>
      cases queued : actor.queue with
      | nil => exact absurd (by rw [StreamActor.pending, is, queued]; rfl) waiting
      | cons command rest => exact ⟨_, _, _, .recv is queued⟩
  | panic message =>
      rw [is] at phase
      cases phase
  | call op rest =>
      rw [is] at phase
      cases phase with
      | storing same found ready draws =>
          rename_i stream submission block allocator
          let batch := Stream.appendBatch stream.metadata block ⟨stream.nextSeqNum, submission.data⟩
          have answers : StorageOp.Answers (fun _ => False) stores (.apply .recordStorage batch)
            (.ok ()) (stores.write batch .recordStorage) := rfl
          exact ⟨_, _, _, .storage is answers⟩
      | announcing => exact ⟨_, _, _, .broadcast is⟩
      | answering => exact ⟨_, _, _, .reply is⟩

theorem finished
    (serves : ServesQueue records metadata tail log earlier submitted taken answered actor)
    (done : actor.pending = 0) : answered = submitted.length := by
  rcases serves with ⟨within, commands, queue, phase⟩
  unfold StreamActor.pending at done
  generalize actor.code = code at phase done
  cases phase with
  | idle =>
      have empty : actor.queue.length = 0 := by omega
      rw [queue, List.length_map, List.length_drop] at empty
      omega
  | storing => exact absurd done (Nat.succ_ne_zero _)
  | announcing => exact absurd done (Nat.succ_ne_zero _)
  | answering => exact absurd done (Nat.succ_ne_zero _)

end Actor

end ServesQueue

end Slatestreams
