import Slatestreams.AppendDiscipline

/-! # What appends leave alone

Most steps change nothing for the stream that is appended to, and until the
stream has its actor the others change the stores and nothing else. -/

namespace Slatestreams

open Foundation

def AppendLine.discipline (line : AppendLine) :
    Discipline server ServerCall ServerResult SharedServer Standing where
  protocol := Standing.protocol
  post := Standing.Ends
  Holds := line.Holds
  Knows := line.Knows
  Idle id history := ∀ lock, history.shared.locks lock ≠ some id
  Changes := line.Changes

/-! ## Events that report nothing -/

def ServerEvent.Returns : ServerEvent → Prop
  | .returned _ _ _ => True
  | _ => False

theorem ServerEvent.number_of_not_returns {event : ServerEvent} (goesOn : ¬event.Returns) :
    ServerEvent.number event = none := by
  cases event with
  | returned => exact absurd trivial goesOn
  | _ => rfl

namespace AppendLine

variable {line : AppendLine}

section Reports

variable {past before : List ServerEvent} {event : ServerEvent} {replies after : Replies}
  {id : Nat} {call : ServerCall} {value : ServerResult}

theorem Completed.grows (completed : line.Completed replies before id call value)
    (grows : ∀ replyRx, (replies replyRx).isSome → (after replyRx).isSome) :
    line.Completed after before id call value := by
  rcases completed with ⟨k, submission, found, task, append, number, issued, replied⟩
  exact ⟨k, submission, found, task, append, number, issued, grows _ replied⟩

theorem Reports.snoc (reports : line.Reports past replies) (goesOn : ¬event.Returns)
    (grows : ∀ replyRx, (replies replyRx).isSome → (after replyRx).isSome) :
    line.Reports (past ++ [event]) after where
  distinct := by
    rw [numbers_snoc_of_none (ServerEvent.number_of_not_returns goesOn)]
    exact reports.distinct
  ended split := by
    rcases snoc_eq_append_cons split with ⟨_, rfl, _⟩ | ⟨rest, _, earlier⟩
    · exact absurd trivial goesOn
    · rcases reports.ended earlier with completed | rejected
      · exact .inl (completed.grows grows)
      · exact .inr rejected

/-- A number that has been returned is that of a submission. -/
theorem Reports.submitted (reports : line.Reports past replies) {seqNum : UInt64}
    (returned : seqNum ∈ numbers past) :
    ∃ k submission, seqNum = line.number k ∧ (submissions past)[k]? = some submission := by
  rcases List.mem_filterMap.mp returned with ⟨event, member, number⟩
  rcases List.append_of_mem member with ⟨before, later, rfl⟩
  unfold ServerEvent.number at number
  split at number
  · cases number
    rcases reports.ended rfl with completed | ⟨error, rejected, _⟩
    · rcases completed with ⟨k, submission, found, _, _, value, _, _⟩
      cases value
      refine ⟨k, submission, rfl, ?_⟩
      rw [submissions_append]
      exact (List.getElem?_append_left (List.getElem?_eq_some_iff.mp found).1).trans found
    · cases rejected
  · cases number

end Reports

/-! ## Calls that leave the stream alone -/

section Counted

variable {past : List ServerEvent} {event : ServerEvent} {id : Nat}

theorem submittedBy_snoc_of_none (none_ : ServerEvent.submission event = none) :
    submittedBy (past ++ [event]) id = submittedBy past id := by
  rw [submittedBy, submissions_snoc_of_none none_, ← submittedBy]

theorem startedBy_le_snoc : startedBy past id ≤ startedBy (past ++ [event]) id := by
  rw [startedBy, startedBy, starts_append, List.count_append]
  exact Nat.le_add_right _ _

theorem Unsent.snoc {shared after : SharedServer} (unsent : Unsent ⟨past, shared⟩ id)
    (submission : ServerEvent.submission event = none) (start : ServerEvent.start event = none) :
    Unsent ⟨past ++ [event], after⟩ id := by
  have issued : IssuedBy (past ++ [event]) id _ :=
    unsent.issued.snoc (by rw [start]; exact nofun)
  have fewer := unsent.fewer
  refine ⟨?_, ?_⟩
  · change IssuedBy (past ++ [event]) id (submissions (past ++ [event])).length
    rw [submissions_snoc_of_none submission]
    exact issued
  · change submittedBy (past ++ [event]) id + 1 ≤ _
    rw [submittedBy_snoc_of_none submission]
    exact Nat.le_trans fewer startedBy_le_snoc

end Counted

end AppendLine

/-- Nothing has changed for the stream of a name. -/
structure SharedServer.SameStream (name : String × String) (before after : SharedServer) :
    Prop where
  stores : after.stores = before.stores
  actors : after.actors = before.actors
  replies : after.replies = before.replies
  nextReply : after.nextReply = before.nextReply
  cached (stream : StreamHandle) : after.Cached name stream ↔ before.Cached name stream
  claims : after.Uncached name → after.Unclaimed name → before.Unclaimed name

namespace SharedServer.SameStream

variable {name : String × String} {server after : SharedServer}

theorem of_eq (stores : after.stores = server.stores) (actors : after.actors = server.actors)
    (replies : after.replies = server.replies) (nextReply : after.nextReply = server.nextReply)
    (basins : after.basins = server.basins) (streams : after.streams = server.streams)
    (locks : ∀ address, after.locks (.streamInit address) = none →
      server.locks (.streamInit address) = none) : SameStream name server after where
  stores := stores
  actors := actors
  replies := replies
  nextReply := nextReply
  cached stream := by rw [Cached, Cached, basins, streams]
  claims _ unclaimed basin found := locks _ (unclaimed basin (basins ▸ found))

theorem refl (name : String × String) (server : SharedServer) : SameStream name server server :=
  of_eq rfl rfl rfl rfl rfl rfl fun _ none_ => none_

theorem returned (basinName : String) (found : Option BasinHandle) :
    SameStream name server (server.returned basinName found) := by
  cases found with
  | none => exact refl name server
  | some handle => exact of_eq rfl rfl rfl rfl rfl rfl fun _ none_ => none_

theorem lock (lock : Lock) (id : Nat) : SameStream name server (server.lock lock id) := by
  refine of_eq rfl rfl rfl rfl rfl rfl fun address none_ => ?_
  change Function.update server.locks lock (some id) _ = none at none_
  by_cases same : .streamInit address = lock
  · subst same
    rw [Function.update_self] at none_
    cases none_
  · rwa [Function.update_of_ne same] at none_

theorem unlockBasin : SameStream name server (server.unlock .basinInit) := by
  refine of_eq rfl rfl rfl rfl rfl rfl fun address none_ => ?_
  have other : Lock.streamInit address ≠ .basinInit := nofun
  exact (Function.update_of_ne other none server.locks).symm.trans none_

/-- A stream that has its actor needs its lock no more. -/
theorem unlockStream {stream : StreamHandle} (cached : server.Cached name stream)
    (lock : Lock) : SameStream name server (server.unlock lock) where
  stores := rfl
  actors := rfl
  replies := rfl
  nextReply := rfl
  cached _ := Iff.rfl
  claims uncached _ := absurd cached (uncached stream)

theorem placeBasin (owned : server.NamesOwned) {placed : BasinHandle}
    (uncached : server.basins name.1 = none)
    (new : ∀ other basin, server.basins other = some basin → basin.address ≠ placed.address) :
    SameStream name server (server.placeBasin name.1 placed) where
  stores := rfl
  actors := rfl
  replies := rfl
  nextReply := rfl
  cached stream := by
    refine ⟨fun cached => ?_, fun cached => ?_⟩
    · rcases cached with ⟨basin, found, stream⟩
      change Function.update server.basins name.1 (some placed) name.1 = some basin at found
      rw [Function.update_self] at found
      cases found
      rcases owned.streamPlaced stream with ⟨other, handle, earlier, address, _⟩
      exact absurd address (new other handle earlier)
    · exact absurd cached (uncached_of_basin uncached stream)
  claims _ _ basin found := by
    rw [uncached] at found
    cases found

end SharedServer.SameStream

namespace AppendLine

variable {line : AppendLine} {id : Nat} {history : ServerHistory} {event : ServerEvent}
  {after : SharedServer}

theorem Queued.snoc {past : List ServerEvent} {nextReply : ReplyId}
    (queued : line.Queued past nextReply) (submission : ServerEvent.submission event = none) :
    line.Queued (past ++ [event]) nextReply where
  bound := by
    rw [submissions_snoc_of_none submission]
    exact queued.bound
  given member := by
    rw [submissions_snoc_of_none submission] at member
    exact queued.given member
  apart := by
    rw [submissions_snoc_of_none submission]
    exact queued.apart
  counted id := by
    rw [submittedBy_snoc_of_none submission]
    exact Nat.le_trans (queued.counted id) startedBy_le_snoc

section Same

variable (same : history.shared.SameStream line.name after)
  (submission : ServerEvent.submission event = none)

include same submission

theorem Serving.sameStream {tx taken answered : Nat} {actor : StreamActor}
    {metadata : StreamMetadata} (serving : line.Serving history tx taken answered actor metadata) :
    line.Serving (history.next event after) tx taken answered actor metadata where
  present := by
    rw [History.next_shared, same.actors]
    exact serving.present
  named := by
    rw [History.next_shared, same.stores]
    exact serving.named
  serves := by
    rw [History.next_past, History.next_shared, same.stores, submissions_snoc_of_none submission]
    exact serving.serves
  replies found := by
    rw [History.next_past, submissions_snoc_of_none submission] at found
    rw [History.next_shared, same.replies]
    exact serving.replies found

theorem Holds.sameStream (holds : line.Holds history) (owned : after.NamesOwned)
    (reports : line.Reports (history.past ++ [event]) after.replies) :
    line.Holds (history.next event after) := by
  have uncached (uncached : after.Uncached line.name) :
      history.shared.Uncached line.name :=
    fun stream cached => uncached stream ((same.cached stream).mpr cached)
  exact
    { owned := owned
      queued := by
        rw [History.next_shared, same.nextReply]
        exact holds.queued.snoc submission
      quiet := fun found apart => by
        rw [History.next_shared, same.actors] at found
        exact holds.quiet found fun cached => apart ((same.cached _).mpr cached)
      unanswered := fun above => by
        rw [History.next_shared, same.nextReply] at above
        rw [History.next_shared, same.replies]
        exact holds.unanswered above
      decodes := by
        rw [History.next_shared, same.stores]
        exact holds.decodes
      keys := by
        rw [History.next_shared, same.stores]
        exact holds.keys
      unsubmitted := fun none_ => by
        rw [History.next_past, submissions_snoc_of_none submission]
        exact holds.unsubmitted (uncached none_)
      resting := fun none_ unclaimed => by
        rw [History.next_shared, same.stores]
        exact holds.resting (uncached none_) (same.claims none_ unclaimed)
      serving := fun cached => by
        rcases holds.serving ((same.cached _).mp cached) with
          ⟨taken, answered, actor, metadata, serving⟩
        exact ⟨taken, answered, actor, metadata, serving.sameStream same submission⟩
      reports := reports }

end Same

/-- The numbers that have been returned after a step, when those it adds are the task's. -/
def Numbered (line : AppendLine) (id : Nat) (history : ServerHistory) (event : ServerEvent) :
    Prop :=
  ∀ seqNum ∈ numbers (history.past ++ [event]), seqNum ∈ numbers history.past ∨
    ∃ k submission, seqNum = line.number k ∧
      (submissions history.past)[k]? = some submission ∧ submission.task = id

theorem Numbered.of_not_returns (goesOn : ¬event.Returns) : line.Numbered id history event := by
  intro seqNum returned
  rw [numbers_snoc_of_none (ServerEvent.number_of_not_returns goesOn)] at returned
  exact .inl returned

theorem Changes.sameStores (alone : ∀ other, event.task = some other → other = id)
    (numbered : line.Numbered id history event) (leaves : history.shared.Leaves id after)
    (stores : after.stores = history.shared.stores)
    (replies : after.replies = history.shared.replies)
    (actors : ∀ {tx : Nat} {actor : StreamActor}, history.shared.actors[tx]? = some actor →
      ¬history.shared.Cached line.name ⟨tx⟩ → after.actors[tx]? = some actor) :
    line.Changes id history (history.next event after) where
  leaves := leaves
  past := ⟨event, rfl, alone⟩
  numbers := numbered _
  records _ _ := by rw [History.next_shared, stores]
  actors := actors
  keys _ _ _ := by rw [History.next_shared, stores]
  replies replied := replies ▸ replied

theorem Changes.sameStream (same : history.shared.SameStream line.name after)
    (alone : ∀ other, event.task = some other → other = id)
    (numbered : line.Numbered id history event) (leaves : history.shared.Leaves id after) :
    line.Changes id history (history.next event after) :=
  .sameStores alone numbered leaves same.stores same.replies
    fun present _ => same.actors ▸ present

/-! ## Calls to the stores -/

section Stored

variable {stores : Stores}

/-- While the stream has no actor, a call may change the stores. -/
theorem Holds.stored (holds : line.Holds history)
    (uncached : history.shared.Uncached line.name)
    (submission : ServerEvent.submission event = none) (goesOn : ¬event.Returns)
    (owned : SharedServer.NamesOwned { history.shared with stores })
    (decodes : stores.metaStorage.get (Basin.constructMetadataKey line.name.1) = none ∨
      ∃ basinId, stores.basinId line.name.1 = some basinId)
    (keys : stores.KeysDrawn)
    (resting : history.shared.Unclaimed line.name →
      stores.Rests line.name line.tail line.log) :
    line.Holds (history.next event { history.shared with stores }) where
  owned := owned
  queued := holds.queued.snoc submission
  quiet := holds.quiet
  unanswered := holds.unanswered
  decodes := decodes
  keys := keys
  unsubmitted none_ := by
    rw [History.next_past, submissions_snoc_of_none submission]
    exact holds.unsubmitted none_
  resting _ := resting
  serving cached := absurd cached (uncached _)
  reports := holds.reports.snoc goesOn fun _ replied => replied

theorem Changes.stored (alone : ∀ other, event.task = some other → other = id)
    (goesOn : ¬event.Returns)
    (leaves : history.shared.Leaves id { history.shared with stores })
    (records : (∀ basin, history.shared.basins line.name.1 = some basin →
        history.shared.locks (.streamInit basin.address) ≠ some id) →
      stores.recordStorage = history.shared.stores.recordStorage)
    (keys : history.shared.basins line.name.1 = none → ∀ basinId streamName,
      stores.metaStorage.get (Stream.constructMetadataKey basinId streamName) =
        history.shared.stores.metaStorage.get
          (Stream.constructMetadataKey basinId streamName)) :
    line.Changes id history (history.next event { history.shared with stores }) where
  leaves := leaves
  past := ⟨event, rfl, alone⟩
  numbers := Numbered.of_not_returns goesOn _
  records _ free := records free
  actors present _ := present
  keys := keys
  replies replied := replied

end Stored

end AppendLine

end Slatestreams
