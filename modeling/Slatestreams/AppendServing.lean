import Slatestreams.AppendOpening

/-! # The actor between the appends

A step of an actor answers the appends of one stream in their order, or it is a
step of nothing: the other actors have no commands. -/

namespace Slatestreams

open Foundation

theorem ActorEffect.isSome_deliver {effect : ActorEffect} {replies : Replies}
    (replyRx : ReplyId) (replied : (replies replyRx).isSome) :
    (effect.deliver replies replyRx).isSome := by
  cases effect with
  | silent => exact replied
  | replied kind replyTx value =>
      rw [ActorEffect.deliver_replied]
      split
      · rfl
      · exact replied

/-- An actor that has nothing to do makes no step. -/
theorem StreamActor.Quiet.stays {MayFail : StorageOp → Prop} {stores after : Stores}
    {actor next : StreamActor} {effect : ActorEffect} (quiet : actor.Quiet)
    (taken : ActorStep MayFail stores actor effect after next) : False := by
  rcases quiet with ⟨⟨stream, waits⟩, empty⟩
  cases taken with
  | recv _ queued =>
      rw [empty] at queued
      cases queued
  | storage calls => cases waits.symm.trans calls
  | broadcast calls => cases waits.symm.trans calls
  | subscribe calls => cases waits.symm.trans calls
  | reply calls => cases waits.symm.trans calls

namespace AppendLine

variable {line : AppendLine} {history : ServerHistory} {tx : Nat} {actor next : StreamActor}
  {effect : ActorEffect} {stores : Stores}

/-- The shared state after a step of an actor. -/
def moved (history : ServerHistory) (tx : Nat) (next : StreamActor) (effect : ActorEffect)
    (stores : Stores) : ServerHistory :=
  history.next .moved
    { history.shared with
      stores
      actors := history.shared.actors.set tx next
      replies := effect.deliver history.shared.replies }

theorem submissions_moved :
    submissions (moved history tx next effect stores).past = submissions history.past :=
  submissions_snoc_of_none rfl

/-- Only the submission that is answered gets a reply. -/
theorem reply_deliver {answered k : Nat} {submission : Submission}
    {found : Submission} (holds : line.Holds history)
    (replies : ∀ {k : Nat} {submission : Submission},
      (submissions history.past)[k]? = some submission →
        history.shared.replies submission.replyTx = line.reply answered k submission)
    (now : (submissions history.past)[answered]? = some found)
    (submitted : (submissions history.past)[k]? = some submission) :
    (ActorEffect.replied .append found.replyTx
        (.ok (found.ack (line.tail + answered)))).deliver history.shared.replies
        submission.replyTx = line.reply (answered + 1) k submission := by
  rw [ActorEffect.deliver_replied, AppendLine.reply]
  by_cases same : k = answered
  · subst same
    rw [now] at submitted
    cases submitted
    rw [if_pos rfl, if_pos (Nat.lt_succ_self _)]
  · have different : submission.replyTx ≠ found.replyTx := by
      have ids {l : Nat} {other : Submission}
          (found : (submissions history.past)[l]? = some other) :
          ((submissions history.past).map Submission.replyTx)[l]? = some other.replyTx := by
        rw [List.getElem?_map, found]
        rfl
      have within := (List.getElem?_eq_some_iff.mp (ids submitted)).1
      intro equal
      exact same ((List.getElem?_inj within holds.queued.apart).mp
        ((ids submitted).trans (equal ▸ (ids now).symm)))
    rw [if_neg different, replies submitted, AppendLine.reply]
    have iff : k < answered ↔ k < answered + 1 := by omega
    simp only [iff]

theorem Serving.moved {taken answered : Nat} {metadata : StreamMetadata}
    (holds : line.Holds history)
    (serving : line.Serving history tx taken answered actor metadata)
    (moves : ActorStep (fun _ => False) history.shared.stores actor effect stores next) :
    (∃ nextTaken nextAnswered,
      line.Serving (moved history tx next effect stores) tx nextTaken nextAnswered next metadata) ∧
      next.pending + 1 = actor.pending ∧ ∀ replyRx, history.shared.nextReply ≤ replyRx →
        effect.deliver history.shared.replies replyRx = none := by
  rcases serving with ⟨present, named, serves, replies⟩
  have same := (moves.same (holds.owned.recordsOnly present)).1
  have kept := (same.named line.name.1 line.name.2).trans named
  rcases serves.step moves holds.queued.bound with ⟨nextTaken, nextAnswered, stepped, less, effects⟩
  have there : (history.shared.actors.set tx next)[tx]? = some next :=
    List.getElem?_set_self (List.getElem?_eq_some_iff.mp present).1
  rcases effects with ⟨rfl, rfl⟩ | ⟨found, now, rfl, rfl⟩
  · refine ⟨⟨nextTaken, nextAnswered, there, kept, ?_, fun submitted => ?_⟩, less,
      fun replyRx after => holds.unanswered after⟩
    · rw [submissions_moved]
      exact stepped
    · rw [submissions_moved] at submitted
      exact replies submitted
  · refine ⟨⟨nextTaken, answered + 1, there, kept, ?_, fun submitted => ?_⟩, less,
      fun replyRx after => ?_⟩
    · rw [submissions_moved]
      exact stepped
    · rw [submissions_moved] at submitted
      exact reply_deliver holds replies now submitted
    · have given := holds.queued.given (List.mem_of_getElem? now)
      rw [ActorEffect.deliver_replied, if_neg (Nat.ne_of_gt (Nat.lt_of_lt_of_le given after))]
      exact holds.unanswered after

/-- A step of an actor keeps what holds for the stream. -/
theorem Holds.moved (holds : line.Holds history)
    (present : history.shared.actors[tx]? = some actor)
    (moves : ActorStep (fun _ => False) history.shared.stores actor effect stores next) :
    line.Holds (moved history tx next effect stores) ∧
      ∀ id, line.Changes id history (moved history tx next effect stores) := by
  by_cases cached : history.shared.Cached line.name ⟨tx⟩
  · rcases holds.serving cached with ⟨taken, answered, served, metadata, serving⟩
    have same := Option.some.inj (serving.present.symm.trans present)
    subst same
    have step : history.shared.Moves (fun _ => False)
        (AppendLine.moved history tx next effect stores).shared := .actor present moves
    have same := (moves.same (holds.owned.recordsOnly present)).1
    rcases serving.moved holds moves with ⟨nextServing, _, unanswered⟩
    have other {tx' : Nat} {actor' : StreamActor} (apart : ¬history.shared.Cached line.name ⟨tx'⟩) :
        (history.shared.actors.set tx next)[tx']? = some actor' ↔
          history.shared.actors[tx']? = some actor' := by
      have different : tx ≠ tx' := fun equal => apart (equal ▸ cached)
      rw [List.getElem?_set_ne different]
    refine ⟨?_, fun id => ?_⟩
    · exact
        { owned := holds.owned.moves step
          queued := holds.queued.snoc rfl
          quiet := fun found apart => holds.quiet ((other apart).mp found) apart
          unanswered := fun above => unanswered _ above
          decodes := by
            change stores.metaStorage.get _ = none ∨ ∃ basinId, stores.basinId _ = some basinId
            rw [same.metaStorage, same.basinId]
            exact holds.decodes
          keys := fun basinId streamName undrawn => by
            change stores.metaStorage.get _ = none
            rw [same.metaStorage]
            exact holds.keys basinId streamName (same.drawn ▸ undrawn)
          unsubmitted := fun uncached => absurd cached (uncached ⟨tx⟩)
          resting := fun uncached => absurd cached (uncached ⟨tx⟩)
          serving := fun found => by
            cases cached_unique cached found
            rcases nextServing with ⟨nextTaken, nextAnswered, serving⟩
            exact ⟨nextTaken, nextAnswered, next, metadata, serving⟩
          reports := holds.reports.snoc False.elim ActorEffect.isSome_deliver }
    · exact
        { leaves := step.leaves holds.owned id
          past := ⟨.moved, rfl, nofun⟩
          numbers := (@Numbered.of_not_returns line id history .moved False.elim) _
          records := fun uncached => absurd cached (uncached ⟨tx⟩)
          actors := fun found apart => (other apart).mpr found
          keys := fun _ _ _ => by
            change stores.metaStorage.get _ = _
            rw [same.metaStorage]
          replies := ActorEffect.isSome_deliver _ }
  · exact ((holds.quiet present cached).stays moves).elim

end AppendLine

end Slatestreams
