import Slatestreams.AppendFrames

/-! # Calls of appends

What each call of an append does to what the appends to one name share, and
what the append knows after it. -/

namespace Slatestreams

open Foundation

namespace AppendLine

/-- A step of a task keeps what holds for the stream, and leads the task to where it stands. -/
structure Carried (line : AppendLine) (id : Nat) (call : ServerCall) (history after : ServerHistory)
    (standing : Standing) : Prop where
  holds : line.Holds after
  changes : line.Changes id history after
  stands : line.Stands after id call standing

variable {line : AppendLine} {id : Nat} {call : ServerCall} {history : ServerHistory}
  {after : SharedServer} {next : Standing}

/-- An event of a task that puts nothing into the queue. -/
structure Elsewhere (event : ServerEvent) (id : Nat) : Prop where
  alone : ∀ other, event.task = some other → other = id
  submission : ServerEvent.submission event = none
  start : ServerEvent.start event = none
  goesOn : ¬event.Returns

theorem Carried.same {event : ServerEvent} {name : String × String}
    (reached : Standing.Reached id name history.shared after next)
    (holds : line.Holds history) (elsewhere : Elsewhere event id)
    (same : history.shared.SameStream line.name after)
    (stands : line.Stands (history.next event after) id call next) :
    line.Carried id call history (history.next event after) next where
  holds := holds.sameStream same elsewhere.submission reached.owned
    (holds.reports.snoc elsewhere.goesOn fun _ replied => same.replies ▸ replied)
  changes := .sameStream same elsewhere.alone (.of_not_returns elsewhere.goesOn) reached.leaves
  stands := stands

theorem Elsewhere.unsent {event : ServerEvent} (elsewhere : Elsewhere event id)
    (unsent : Unsent history id) : Unsent (history.next event after) id :=
  unsent.snoc elsewhere.submission elsewhere.start

theorem Elsewhere.sent {event : ServerEvent} {k : Nat} {submission : Submission}
    (elsewhere : Elsewhere event id) (sent : line.Sent history id call k submission) :
    line.Sent (history.next event after) id call k submission where
  found := by
    rw [History.next_past, submissions_snoc_of_none elsewhere.submission]
    exact sent.found
  task := sent.task
  append := sent.append
  issued := sent.issued.snoc (by rw [elsewhere.start]; exact nofun)
  unreturned := by
    have silent := ServerEvent.number_of_not_returns elsewhere.goesOn
    rw [History.next_past, numbers_snoc_of_none silent]
    exact sent.unreturned

theorem Knows.reached {standing : Standing} {op : ServerOp} {answer : op.Answer}
    (knows : line.Knows id call standing history) (holds : line.Holds history)
    (allowed : standing.Calls call op)
    (answers : history.shared.Answers (fun _ => False) id call.name op answer after) :
    Standing.Reached id call.name history.shared after (standing.learn op answer) := by
  rcases knows.append with ⟨data, append⟩
  have facts := knows.facts
  rw [show line.name = call.name by rw [append]; rfl] at facts
  exact Standing.reached holds.owned knows.holds facts allowed answers

theorem elsewhere_called {op : ServerOp} {answer : op.Answer}
    (submission : ServerEvent.submission (.called id op answer) = none) :
    Elsewhere (.called id op answer) id where
  alone _ same := (Option.some.inj same).symm
  submission := submission
  start := rfl
  goesOn := False.elim

/-! ## Calls to the actor -/

theorem cached_unique {server : SharedServer} {name : String × String} {left right : StreamHandle}
    (first : server.Cached name left) (second : server.Cached name right) : left = right := by
  rcases first with ⟨basin, placed, found⟩
  rcases second with ⟨other, placed', found'⟩
  rw [placed] at placed'
  cases placed'
  exact Option.some.inj (found.symm.trans found')

section Send

variable {stream : StreamHandle} {actor : StreamActor} {data : Bytes}

/-- The submission that a task makes next. -/
def submitting (history : ServerHistory) (id : Nat) (data : Bytes) : Submission :=
  ⟨id, data, history.shared.nextReply⟩

/-- The history after an append has been put into the queue of an actor. -/
def submitted (history : ServerHistory) (id : Nat) (stream : StreamHandle) (actor : StreamActor)
    (data : Bytes) : ServerHistory :=
  history.next (.called id (.send stream (.append data)) (some history.shared.nextReply))
    (history.shared.enqueue stream.tx actor (.append data))

theorem submissions_submitted :
    submissions (submitted history id stream actor data).past =
      submissions history.past ++ [submitting history id data] :=
  submissions_snoc rfl

theorem Serving.submitted {taken answered : Nat} {metadata : StreamMetadata}
    (holds : line.Holds history)
    (serving : line.Serving history stream.tx taken answered actor metadata) :
    line.Serving (submitted history id stream actor data) stream.tx taken answered
      { actor with queue := actor.queue ++ [(submitting history id data).command] } metadata where
  present := List.getElem?_set_self (List.getElem?_eq_some_iff.mp serving.present).1
  named := serving.named
  serves := by
    rw [submissions_submitted]
    exact serving.serves.enqueue _
  replies {k submission} found := by
    rw [submissions_submitted] at found
    rcases Nat.lt_or_ge k (submissions history.past).length with earlier | now
    · rw [List.getElem?_append_left earlier] at found
      exact serving.replies found
    · rw [List.getElem?_append_right now] at found
      have submission := List.mem_singleton.mp (List.mem_of_getElem? found)
      subst submission
      have unanswered : ¬k < answered := by
        have answered := serving.serves.answered_le.1
        have taken := serving.serves.within
        omega
      rw [reply, if_neg unanswered]
      exact holds.unanswered (Nat.le_refl _)

theorem Queued.submitted (queued : line.Queued history.past history.shared.nextReply)
    (unsent : Unsent history id)
    (bound : line.tail + ((submissions history.past).length + 1) ≤
      2 ^ 64 - 2 * DEFAULT_BLOCK_SIZE.toNat) :
    line.Queued (submitted history id stream actor data).past (history.shared.nextReply + 1) where
  bound := by
    rw [submissions_submitted, List.length_append]
    exact bound
  given member := by
    rw [submissions_submitted] at member
    rcases List.mem_append.mp member with earlier | now
    · exact Nat.lt_succ_of_lt (queued.given earlier)
    · rw [List.mem_singleton.mp now]
      exact Nat.lt_succ_self _
  apart := by
    rw [submissions_submitted, List.map_append, List.nodup_append]
    refine ⟨queued.apart, List.pairwise_singleton _ _, fun earlier member now latest same => ?_⟩
    rcases List.mem_map.mp member with ⟨submission, found, rfl⟩
    rw [List.mem_singleton.mp latest] at same
    exact Nat.ne_of_lt (queued.given found) same
  counted other := by
    by_cases same : other = id
    · subst same
      have fewer := unsent.fewer
      refine Nat.le_trans ?_ (Nat.le_trans fewer startedBy_le_snoc)
      rw [submittedBy, submissions_submitted, List.map_append, List.count_append]
      simp [submittedBy, submitting]
    · have different : PoolEvent.task (S := server) (ι := ServerCall) (α := ServerResult)
          (.called id (.send stream (.append data)) (some history.shared.nextReply)) ≠
            some other := fun equal => same (Option.some.inj equal).symm
      change submittedBy (history.past ++ _) other ≤ startedBy (history.past ++ _) other
      rw [submittedBy_snoc_of_ne different]
      exact Nat.le_trans (queued.counted other) startedBy_le_snoc

theorem Holds.submitted (holds : line.Holds history) (unsent : Unsent history id)
    (cached : history.shared.Cached line.name stream)
    (present : history.shared.actors[stream.tx]? = some actor)
    (bound : line.tail + ((submissions history.past).length + 1) ≤
      2 ^ 64 - 2 * DEFAULT_BLOCK_SIZE.toNat) :
    line.Holds (submitted history id stream actor data) where
  owned := holds.owned.enqueue cached present _
  queued := holds.queued.submitted unsent bound
  quiet {tx other} found apart := by
    have different : stream.tx ≠ tx := fun same => apart (same ▸ cached)
    exact holds.quiet ((List.getElem?_set_ne different).symm.trans found) apart
  unanswered after := holds.unanswered (Nat.le_of_succ_le after)
  decodes := holds.decodes
  keys := holds.keys
  unsubmitted uncached := absurd cached (uncached stream)
  resting uncached := absurd cached (uncached stream)
  serving {other} found := by
    cases cached_unique cached found
    rcases holds.serving cached with ⟨taken, answered, served, metadata, serving⟩
    have same := Option.some.inj (serving.present.symm.trans present)
    subst same
    exact ⟨taken, answered, _, metadata, serving.submitted holds⟩
  reports := holds.reports.snoc False.elim fun _ replied => replied

theorem Changes.submitted (cached : history.shared.Cached line.name stream) :
    line.Changes id history (submitted history id stream actor data) := by
  refine .sameStores (fun _ same => (Option.some.inj same).symm) (.of_not_returns False.elim)
    (.of_locks (fun _ _ => Iff.rfl) rfl rfl rfl rfl rfl) rfl rfl fun {tx other} found apart => ?_
  have different : stream.tx ≠ tx := fun same => apart (same ▸ cached)
  exact (List.getElem?_set_ne different).trans found

theorem Sent.submitted (holds : line.Holds history) (unsent : Unsent history id)
    (append : call = .append line.name.1 line.name.2 data)
    (bound : line.tail + ((submissions history.past).length + 1) ≤
      2 ^ 64 - 2 * DEFAULT_BLOCK_SIZE.toNat) :
    line.Sent (submitted history id stream actor data) id call (submissions history.past).length
      (submitting history id data) where
  found := by
    rw [submissions_submitted, List.getElem?_append_right (Nat.le_refl _), Nat.sub_self]
    rfl
  task := rfl
  append := append
  issued := unsent.issued.snoc nofun
  unreturned returned := by
    change line.number _ ∈ numbers (history.past ++ _) at returned
    rw [numbers_snoc_of_none rfl] at returned
    rcases holds.reports.submitted returned with ⟨k, submission, same, found⟩
    have within := (List.getElem?_eq_some_iff.mp found).1
    have equal := line.number_injective bound (Nat.lt_succ_self _) (Nat.lt_succ_of_lt within) same
    omega

/-- The actor of a stream that is appended to takes commands as long as it is there. -/
theorem Holds.running (holds : line.Holds history) {tx : Nat}
    (present : history.shared.actors[tx]? = some actor) : actor.running = true := by
  by_cases cached : history.shared.Cached line.name ⟨tx⟩
  · rcases holds.serving cached with ⟨taken, answered, served, metadata, serving⟩
    have same := Option.some.inj (serving.present.symm.trans present)
    exact same ▸ serving.serves.running
  · rcases (holds.quiet present cached).1 with ⟨stream, waits⟩
    rw [StreamActor.running, waits]

theorem carried_send {basin : Option BasinHandle} {command : ReplyId → StreamCommand}
    {answer : Option ReplyId} (holds : line.Holds history)
    (knows : line.Knows id call (.free basin (some stream)) history)
    (sends : call.Sends command)
    (answers : history.shared.Answers (fun _ => False) id call.name (.send stream command) answer
      after)
    (bound : line.tail + (submissions (history.past ++
        [.called id (.send stream command) answer])).length ≤
      2 ^ 64 - 2 * DEFAULT_BLOCK_SIZE.toNat) :
    line.Carried id call history (history.next (.called id (.send stream command) answer) after)
      (Standing.freeLearn basin (some stream) (.send stream command) answer) := by
  have cached := knows.facts.2 stream rfl
  cases answer with
  | none =>
      rcases answers with ⟨stopped, _⟩
      rcases holds.serving cached with ⟨_, _, actor, _, serving⟩
      have running := holds.running serving.present
      rw [stopped actor serving.present] at running
      cases running
  | some replyRx =>
      rcases answers with ⟨actor, present, _, _, rfl, rfl⟩
      rcases knows.append with ⟨data, append⟩
      rw [append] at sends
      rcases sends with rfl
      have bound : line.tail + ((submissions history.past).length + 1) ≤
          2 ^ 64 - 2 * DEFAULT_BLOCK_SIZE.toNat := by
        rwa [submissions_snoc rfl, List.length_append] at bound
      exact ⟨holds.submitted knows.stands cached present bound, .submitted cached,
        rfl, _, _, .submitted holds knows.stands append bound, rfl⟩

end Send

section Waiting

variable {stream : StreamHandle} {kind : ReplyKind} {replyRx : ReplyId}

theorem carried_receive {answer : Option kind.Value} (holds : line.Holds history)
    (knows : line.Knows id call (.waiting stream kind replyRx) history)
    (answers : history.shared.Answers (fun _ => False) id call.name (.receive kind replyRx) answer
      after) :
    line.Carried id call history (history.next (.called id (.receive kind replyRx) answer) after)
      (Standing.waitingLearn stream replyRx (.receive kind replyRx) answer) := by
  rcases knows.stands with ⟨rfl, k, submission, sent, rfl⟩
  rcases holds.serving knows.facts with ⟨taken, answered, actor, metadata, serving⟩
  have reached := knows.reached holds rfl answers
  have elsewhere := @elsewhere_called id (.receive .append submission.replyTx) answer rfl
  cases answer with
  | none =>
      rcases answers with ⟨_, ⟨dropped, member, stopped, _⟩, _⟩
      rcases List.mem_iff_getElem?.mp member with ⟨tx, present⟩
      rw [holds.running present] at stopped
      cases stopped
  | some value =>
      rcases answers with ⟨replied, rfl⟩
      have reply := serving.replies sent.found
      rw [replied, AppendLine.reply] at reply
      split at reply
      · cases reply
        exact .same reached holds elsewhere (.refl _ _)
          ⟨k, submission, elsewhere.sent sent, rfl, rfl, Option.isSome_iff_exists.mpr ⟨_, replied⟩⟩
      · cases reply

end Waiting

/-! ## Calls without a lock -/

/-- A basin handle leads to the stores, as far as the stream is in them. -/
theorem Holds.opens {handle : BasinHandle} (holds : line.Holds history)
    (basin : history.shared.basins line.name.1 = some handle)
    (unlocked : history.shared.locks (.streamInit handle.address) = none)
    (missing : history.shared.streams handle.address line.name.2 = none) :
    history.shared.stores.Opens handle.basinId line.name.2 line.tail line.log := by
  have rests := holds.resting (SharedServer.uncached_of_stream basin missing) fun other found =>
    Option.some.inj (basin.symm.trans found) ▸ unlocked
  rwa [Stores.Rests, holds.owned.basinStored basin] at rests

theorem carried_free {basin : Option BasinHandle} {stream : Option StreamHandle} {op : ServerOp}
    {answer : op.Answer} (holds : line.Holds history)
    (knows : line.Knows id call (.free basin stream) history)
    (allowed : Standing.FreeCalls call basin stream op)
    (answers : history.shared.Answers (fun _ => False) id call.name op answer after)
    (bound : line.tail + (submissions (history.past ++ [.called id op answer])).length ≤
      2 ^ 64 - 2 * DEFAULT_BLOCK_SIZE.toNat) :
    line.Carried id call history (history.next (.called id op answer) after)
      (Standing.freeLearn basin stream op answer) := by
  have reached := knows.reached holds allowed answers
  have unsent : Unsent history id := knows.stands
  cases op with
  | storage op =>
      have elsewhere := @elsewhere_called id (.storage op) answer rfl
      rcases answers with ⟨stores, answers, rfl⟩
      rcases allowed.answers_eq answers with rfl
      exact .same reached holds elsewhere (.refl _ _) (elsewhere.unsent unsent)
  | readBasins basinName =>
      have elsewhere := @elsewhere_called id (.readBasins basinName) answer rfl
      rcases answers with ⟨rfl, rfl⟩
      exact .same reached holds elsewhere (.returned _ _) (elsewhere.unsent unsent)
  | lockBasinInit =>
      have elsewhere := @elsewhere_called id .lockBasinInit answer rfl
      rcases answers with ⟨unlocked, rfl⟩
      exact .same reached holds elsewhere (.lock _ _) ⟨elsewhere.unsent unsent, trivial⟩
  | readStreams handle streamName =>
      have elsewhere := @elsewhere_called id (.readStreams handle streamName) answer rfl
      rcases answers with ⟨rfl, rfl⟩
      exact .same reached holds elsewhere (.refl _ _) (elsewhere.unsent unsent)
  | lockStreamInit handle =>
      have elsewhere := @elsewhere_called id (.lockStreamInit handle) answer rfl
      rcases answers with ⟨unlocked, rfl⟩
      exact .same reached holds elsewhere (.lock _ _) ⟨elsewhere.unsent unsent,
        holds.opens (knows.facts.1 handle allowed) unlocked⟩
  | send handle command =>
      rcases allowed with ⟨rfl, sends⟩
      exact carried_send holds knows sends answers bound
  | spawnFollower follower =>
      have elsewhere := @elsewhere_called id (.spawnFollower follower) answer rfl
      rcases answers with rfl
      exact .same reached holds elsewhere (.of_eq rfl rfl rfl rfl rfl rfl fun _ none_ => none_)
        (elsewhere.unsent unsent)
  | txSend tx item =>
      have elsewhere := @elsewhere_called id (.txSend tx item) answer rfl
      rcases answers with rfl
      exact .same reached holds elsewhere (.refl _ _) (elsewhere.unsent unsent)
  | recv receiver =>
      have elsewhere := @elsewhere_called id (.recv receiver) answer rfl
      rcases answers with ⟨actor, _, _, rfl⟩
      exact .same reached holds elsewhere (.refl _ _) (elsewhere.unsent unsent)
  | _ => exact allowed.elim

end AppendLine

end Slatestreams
