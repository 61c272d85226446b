import Slatestreams.ReadFollow

/-! # What a following reader receives

A session first reads the numbers below its subscription one by one and then
forwards the broadcasts from the subscription on. Both together are the log. -/

namespace Slatestreams

open Foundation

/-! ## Facts about commands and replies in flight -/

section InFlight

variable {MayFail : StorageOp → Prop} (view : LogView MayFail) (base log : List Record) (actor : StreamActor) (phase : ActorPhase)
  (replies : Replies) (nextReply : ReplyId)

/-- The subscription splits the log: what precedes it has smaller numbers than
what was or will be broadcast to it. -/
structure Subscribed (subscription : Subscription) : Prop where
  position_le : subscription.receiver.position ≤ actor.sent.length
  before : ∀ record ∈ log.take (base.length + subscription.receiver.position),
    record.number < subscription.nextSeqNum.toNat
  after : ∀ record ∈ log.drop (base.length + subscription.receiver.position),
    subscription.nextSeqNum.toNat ≤ record.number
  atLeast : phase.AtLeast subscription.nextSeqNum.toNat

/-- Reply channels are used once, and the subscriptions sent over them split the log. -/
structure Requests : Prop where
  queued : ∀ command ∈ actor.queue, command.replyTx < nextReply
  inHand : ∀ command, phase.command = some command → command.replyTx < nextReply
  replied : ∀ id, nextReply ≤ id → replies id = none
  subscriptions : ∀ id subscription, replies id = some ⟨.subscribe, subscription⟩ →
    Subscribed base log actor phase subscription

/-- The reply channel belongs to one read, and what is sent over it is the entry
of the log. -/
structure Reading (seqNum : UInt64) (replyRx : ReplyId) : Prop where
  issued : replyRx < nextReply
  queued : ∀ command ∈ actor.queue, command.replyTx = replyRx → command = .read seqNum replyRx
  inHand : ∀ command, phase.command = some command → command.replyTx = replyRx →
    command = .read seqNum replyRx
  replied : ∀ found, replies replyRx = some ⟨.read, .ok found⟩ →
    view.Found log seqNum found

/-- The subscription to be sent over the channel has reached `floor`. -/
structure Awaiting (floor : Nat) (replyRx : ReplyId) : Prop where
  atLeast : phase.AtLeast floor
  replied : ∀ subscription, replies replyRx = some ⟨.subscribe, subscription⟩ →
    floor ≤ subscription.nextSeqNum.toNat

end InFlight

section Change

variable {MayFail : StorageOp → Prop} {view : LogView MayFail} {metadata : StreamMetadata} {base log nextLog : List Record}
  {actor nextActor : StreamActor} {phase nextPhase : ActorPhase} {effect : ActorEffect}
  {replies : Replies} {nextReply : ReplyId} {stores : Stores}

/-- What time does to the log as its readers see it. -/
structure Grows (log : List Record) (actor : StreamActor) (phase : ActorPhase)
    (nextLog : List Record) (nextActor : StreamActor) (nextPhase : ActorPhase) : Prop where
  log : nextLog = log ∨
    ∃ record, nextLog = log ++ [record] ∧ ∀ bound, phase.AtLeast bound → bound ≤ record.number
  sent : actor.sent <+: nextActor.sent
  atLeast : ∀ bound, phase.AtLeast bound → nextPhase.AtLeast bound

theorem ActorChange.grows
    (change : ActorChange view log actor phase effect nextLog nextActor nextPhase)
    (atLeast : ∀ bound, phase.AtLeast bound → nextPhase.AtLeast bound) :
    Grows log actor phase nextLog nextActor nextPhase := by
  cases change with
  | took _ _ _ _ sent => exact ⟨.inl rfl, sent ▸ List.prefix_rfl, atLeast⟩
  | wrote _ _ _ above sent => exact ⟨.inr ⟨_, rfl, above⟩, sent ▸ List.prefix_rfl, atLeast⟩
  | announced sent => exact ⟨.inl rfl, sent ▸ List.prefix_append _ _, atLeast⟩
  | worked _ sent => exact ⟨.inl rfl, sent ▸ List.prefix_rfl, atLeast⟩
  | replied _ _ sent => exact ⟨.inl rfl, sent ▸ List.prefix_rfl, atLeast⟩

theorem Grows.found (grows : Grows log actor phase nextLog nextActor nextPhase) {bound : Nat}
    {n : UInt64} {found : Option Record} (atLeast : phase.AtLeast bound) (below : n.toNat < bound)
    (inLog : view.Found log n found) : view.Found nextLog n found := by
  rcases grows.log with rfl | ⟨record, rfl, above⟩
  · exact inLog
  · exact view.grows (Nat.lt_of_lt_of_le below (above bound atLeast)) inLog

theorem Grows.log_isPrefix (grows : Grows log actor phase nextLog nextActor nextPhase) :
    log <+: nextLog := by
  rcases grows.log with rfl | ⟨record, rfl, _⟩
  · exact List.prefix_rfl
  · exact List.prefix_append _ _

theorem ActorLog.log_isPrefix
    (actorLog : ActorLog view metadata stores base log actor phase) :
    base ++ actor.sent <+: log := by
  have holds := actorLog.holds
  cases phase with
  | announcing => exact holds.2.2.1 ▸ List.prefix_append _ _
  | panicked => exact holds ▸ List.prefix_rfl
  | storing => exact holds.2.2.1 ▸ List.prefix_rfl
  | answering => exact holds.2.2.1 ▸ List.prefix_rfl
  | _ => exact holds.2.2 ▸ List.prefix_rfl

theorem ActorLog.length_le
    (actorLog : ActorLog view metadata stores base log actor phase) :
    base.length + actor.sent.length ≤ log.length := by
  have := actorLog.log_isPrefix.length_le
  rwa [List.length_append] at this

theorem Subscribed.grows {subscription : Subscription}
    (subscribed : Subscribed base log actor phase subscription)
    (length_le : base.length + actor.sent.length ≤ log.length)
    (grows : Grows log actor phase nextLog nextActor nextPhase) :
    Subscribed base nextLog nextActor nextPhase subscription := by
  have position_le := subscribed.position_le
  refine ⟨Nat.le_trans position_le grows.sent.length_le, ?_, ?_, grows.atLeast _ subscribed.atLeast⟩
  · rcases grows.log_isPrefix with ⟨added, rfl⟩
    rw [List.take_append_of_le_length (by omega)]
    exact subscribed.before
  · rcases grows.log with rfl | ⟨record, rfl, above⟩
    · exact subscribed.after
    · rw [List.drop_append_of_le_length (by omega)]
      intro other member
      rcases List.mem_append.mp member with old | new
      · exact subscribed.after other old
      · rw [List.mem_singleton.mp new]
        exact above _ subscribed.atLeast

/-- A subscription is past all that its actor has written. -/
theorem ActorLog.subscribed {stream : Stream} {command : StreamCommand}
    {value : command.kind.Value}
    (actorLog : ActorLog view metadata stores base log actor phase)
    (answering : phase = .answering stream command value)
    (sent : nextActor.sent = actor.sent) :
    Subscribed base log nextActor (.waiting stream) ⟨actor.receiver, stream.nextSeqNum⟩ := by
  subst answering
  rcases actorLog.holds with ⟨_, consistent, announced, _⟩
  have whole : base.length + actor.sent.length = log.length := by
    rw [announced, List.length_append]
  refine ⟨sent ▸ Nat.le_refl _, ?_, ?_, Nat.le_refl _⟩
  · rw [show base.length + actor.receiver.position = log.length from whole, List.take_length]
    exact view.below consistent
  · rw [show base.length + actor.receiver.position = log.length from whole, List.drop_length]
    exact fun _ member => nomatch member

theorem Requests.change
    (requests : Requests base log actor phase replies nextReply)
    (actorLog : ActorLog view metadata stores base log actor phase)
    (change : ActorChange view log actor phase effect nextLog nextActor nextPhase)
    (atLeast : ∀ bound, phase.AtLeast bound → nextPhase.AtLeast bound) :
    Requests base nextLog nextActor nextPhase (effect.deliver replies) nextReply := by
  have grows := change.grows atLeast
  have subscriptions : ∀ id subscription, replies id = some ⟨.subscribe, subscription⟩ →
      Subscribed base nextLog nextActor nextPhase subscription := fun id subscription sent =>
    (requests.subscriptions id subscription sent).grows actorLog.length_le grows
  cases change with
  | took queue _ _ nextCommand _ =>
      refine ⟨fun command member => ?_, fun command held => ?_, requests.replied, subscriptions⟩
      · exact requests.queued command (queue ▸ List.mem_cons_of_mem _ member)
      · rcases nextCommand with taken | ⟨message, rfl⟩
        · rcases Option.some.inj (taken.symm.trans held) with rfl
          exact requests.queued _ (queue ▸ List.mem_cons_self)
        · cases held
  | wrote _ same _ _ _ queue =>
      exact ⟨queue ▸ requests.queued, same ▸ requests.inHand, requests.replied, subscriptions⟩
  | announced _ same queue =>
      exact ⟨queue ▸ requests.queued, same ▸ requests.inHand, requests.replied, subscriptions⟩
  | worked same _ queue =>
      exact ⟨queue ▸ requests.queued, same ▸ requests.inHand, requests.replied, subscriptions⟩
  | replied answering answered sent queue =>
      rename_i command value stream _
      have issued := requests.inHand command (answering ▸ rfl)
      refine ⟨queue ▸ requests.queued, fun _ held => (nomatch held), fun id fresh => ?_,
        fun id subscription delivered => ?_⟩
      · have other : id ≠ command.replyTx := Nat.ne_of_gt (Nat.lt_of_lt_of_le issued fresh)
        simp only [ActorEffect.deliver, if_neg other]
        exact requests.replied id fresh
      · simp only [ActorEffect.deliver] at delivered
        split at delivered
        · cases command with
          | subscribe replyTx =>
              cases delivered
              obtain rfl : subscription = ⟨actor.receiver, stream.nextSeqNum⟩ := answered
              exact actorLog.subscribed answering sent
          | _ => cases delivered
        · exact subscriptions id subscription delivered

theorem Reading.change {seqNum : UInt64} {replyRx : ReplyId} {bound : Nat}
    (reading : Reading view log actor phase replies nextReply seqNum replyRx)
    (change : ActorChange view log actor phase effect nextLog nextActor nextPhase)
    (atLeast : ∀ bound, phase.AtLeast bound → nextPhase.AtLeast bound)
    (reached : phase.AtLeast bound) (below : seqNum.toNat < bound) :
    Reading view nextLog nextActor nextPhase (effect.deliver replies) nextReply seqNum replyRx := by
  have replied : ∀ found, replies replyRx = some ⟨.read, .ok found⟩ →
      view.Found nextLog seqNum found := fun found sent =>
    (change.grows atLeast).found reached below (reading.replied found sent)
  cases change with
  | took queue _ _ nextCommand _ =>
      refine ⟨reading.issued, fun command member => ?_, fun command held => ?_, replied⟩
      · exact reading.queued command (queue ▸ List.mem_cons_of_mem _ member)
      · rcases nextCommand with taken | ⟨message, rfl⟩
        · rcases Option.some.inj (taken.symm.trans held) with rfl
          exact reading.queued _ (queue ▸ List.mem_cons_self)
        · cases held
  | wrote _ same _ _ _ queue =>
      exact ⟨reading.issued, queue ▸ reading.queued, same ▸ reading.inHand, replied⟩
  | announced _ same queue =>
      exact ⟨reading.issued, queue ▸ reading.queued, same ▸ reading.inHand, replied⟩
  | worked same _ queue =>
      exact ⟨reading.issued, queue ▸ reading.queued, same ▸ reading.inHand, replied⟩
  | replied answering answered sent queue =>
      rename_i command value stream _
      refine ⟨reading.issued, queue ▸ reading.queued, fun _ held => (nomatch held),
        fun found delivered => ?_⟩
      simp only [ActorEffect.deliver] at delivered
      split at delivered
      · rename_i mine
        rcases reading.inHand command (answering ▸ rfl) mine.symm with rfl
        cases delivered
        exact answered
      · exact replied found delivered

theorem Awaiting.change {floor : Nat} {replyRx : ReplyId}
    (awaiting : Awaiting phase replies floor replyRx)
    (change : ActorChange view log actor phase effect nextLog nextActor nextPhase)
    (atLeast : ∀ bound, phase.AtLeast bound → nextPhase.AtLeast bound) :
    Awaiting nextPhase (effect.deliver replies) floor replyRx := by
  refine ⟨atLeast _ awaiting.atLeast, fun subscription delivered => ?_⟩
  cases change with
  | @replied command value stream _ answering answered =>
      simp only [ActorEffect.deliver] at delivered
      split at delivered
      · cases command with
        | subscribe replyTx =>
            cases delivered
            obtain rfl : subscription = ⟨actor.receiver, stream.nextSeqNum⟩ := answered
            exact atLeast _ awaiting.atLeast
        | _ => cases delivered
      · exact awaiting.replied subscription delivered
  | _ => exact awaiting.replied subscription delivered

/-- Another command is queued, over a reply channel of its own. -/
theorem Requests.enqueue {command : StreamCommand}
    (requests : Requests base log actor phase replies nextReply)
    (own : command.replyTx = nextReply) :
    Requests base log { actor with queue := actor.queue ++ [command] } phase replies
      (nextReply + 1) := by
  refine ⟨fun other member => ?_, fun other held => ?_, fun id fresh => ?_,
    fun id subscription sent => ?_⟩
  · rcases List.mem_append.mp member with old | new
    · exact Nat.lt_succ_of_lt (requests.queued other old)
    · rw [List.mem_singleton.mp new, own]
      exact Nat.lt_succ_self _
  · exact Nat.lt_succ_of_lt (requests.inHand other held)
  · exact requests.replied id (Nat.le_of_succ_le fresh)
  · rcases requests.subscriptions id subscription sent with ⟨position_le, before, after, atLeast⟩
    exact ⟨position_le, before, after, atLeast⟩

theorem Reading.enqueue {command : StreamCommand} {seqNum : UInt64} {replyRx : ReplyId}
    (reading : Reading view log actor phase replies nextReply seqNum replyRx)
    (own : command.replyTx = nextReply) :
    Reading view log { actor with queue := actor.queue ++ [command] } phase replies
      (nextReply + 1) seqNum replyRx := by
  refine ⟨Nat.lt_succ_of_lt reading.issued, fun other member mine => ?_, reading.inHand,
    reading.replied⟩
  rcases List.mem_append.mp member with old | new
  · exact reading.queued other old mine
  · rw [List.mem_singleton.mp new, own] at mine
    exact absurd reading.issued (mine ▸ Nat.lt_irrefl _)

/-- A subscription that has just been queued. -/
theorem Requests.awaiting {floor : Nat}
    (requests : Requests base log actor phase replies nextReply) (atLeast : phase.AtLeast floor) :
    Awaiting phase replies floor nextReply where
  atLeast := atLeast
  replied subscription sent := by
    rw [requests.replied nextReply (Nat.le_refl _)] at sent
    cases sent

/-- A read that has just been queued. -/
theorem Requests.reading {seqNum : UInt64}
    (requests : Requests base log actor phase replies nextReply) :
    Reading view log { actor with queue := actor.queue ++ [.read seqNum nextReply] } phase replies
      (nextReply + 1) seqNum nextReply := by
  refine ⟨Nat.lt_succ_self _, fun other member mine => ?_, fun other held mine => ?_,
    fun found sent => ?_⟩
  · rcases List.mem_append.mp member with old | new
    · exact absurd (requests.queued other old) (mine ▸ Nat.lt_irrefl _)
    · exact List.mem_singleton.mp new
  · exact absurd (requests.inHand other held) (mine ▸ Nat.lt_irrefl _)
  · rw [requests.replied nextReply (Nat.le_refl _)] at sent
    cases sent

end Change

/-! ## What a session has delivered -/

/-- What a client is promised of the log while a session reads the numbers below
its subscription, while it forwards the `count`-th entry, and once it has ended. -/
structure Delivery {MayFail : StorageOp → Prop} (view : LogView MayFail) where
  Backfilled (log : List Record) (start stop : Nat) (delivered : List Record) : Prop
  Forwarded (log : List Record) (start count : Nat) (delivered : List Record) : Prop
  Ended (log : List Record) (start : Nat) (delivered : List Record) : Prop
  none (log : List Record) (start : Nat) : Backfilled log start start []
  read {log : List Record} {start : Nat} {n : UInt64} {delivered : List Record}
      {found : Option Record} :
    NumberedLog.Ascending Record.number log → start ≤ n.toNat → view.Found log n found →
      Backfilled log start n.toNat delivered →
      Backfilled log start (n.toNat + 1) (delivered ++ found.toList)
  turned {log : List Record} {start stop count : Nat} {delivered : List Record} :
    (∀ record ∈ log.take count, record.number < stop) →
      (∀ record ∈ log.drop count, stop ≤ record.number) → Backfilled log start stop delivered →
      Forwarded log start count delivered
  forwarded {log : List Record} {start count : Nat} {record : Record} {delivered : List Record} :
    log[count]? = some record → start ≤ record.number → Forwarded log start count delivered →
      Forwarded log start (count + 1) (delivered ++ [record])
  backfilled_grows {log : List Record} {start stop : Nat} {record : Record}
      {delivered : List Record} :
    stop ≤ record.number → Backfilled log start stop delivered →
      Backfilled (log ++ [record]) start stop delivered
  forwarded_grows {log : List Record} {start count : Nat} (record : Record)
      {delivered : List Record} :
    count ≤ log.length → Forwarded log start count delivered →
      Forwarded (log ++ [record]) start count delivered
  ended_grows {log : List Record} {start : Nat} (record : Record) {delivered : List Record} :
    Ended log start delivered → Ended (log ++ [record]) start delivered
  ended_none (log : List Record) (start : Nat) : Ended log start []
  ended_backfilled {log : List Record} {start stop : Nat} {delivered : List Record} :
    NumberedLog.Ascending Record.number log → Backfilled log start stop delivered →
      Ended log start delivered
  ended_forwarded {log : List Record} {start count : Nat} {delivered : List Record} :
    Forwarded log start count delivered → Ended log start delivered

section Session

variable {MayFail : StorageOp → Prop} {view : LogView MayFail} (delivery : Delivery view)
  (floor : Nat) (base log : List Record) (actor : StreamActor) (phase : ActorPhase) (replies : Replies)
  (nextReply : ReplyId) (start : UInt64) (delivered : List Record)

/-- The session's task follows from `start`, which its subscription has reached. -/
structure Follows (follower : Follower) : Prop where
  start_eq : follower.startSeqNum = start
  inRange : start.toNat ≤ follower.subscription.nextSeqNum.toNat
  subscribed : Subscribed base log actor phase follower.subscription

/-- The numbers below `seqNum` have been read, and `count` are left before the
subscription. -/
structure Backfills (follower : Follower) (seqNum : UInt64) (count : Nat) : Prop where
  follows : Follows base log actor phase start follower
  start_le : start.toNat ≤ seqNum.toNat
  left : seqNum.toNat + count = follower.subscription.nextSeqNum.toNat
  delivered : delivery.Backfilled log start.toNat seqNum.toNat delivered

/-- The log has been delivered up to a position of the broadcasts. -/
structure Forwards (follower : Follower) (position : Nat) : Prop where
  follows : Follows base log actor phase start follower
  subscribed_le : follower.subscription.receiver.position ≤ position
  position_le : position ≤ actor.sent.length
  delivered : delivery.Forwarded log start.toNat (base.length + position) delivered

def SessionPhase.Holds : SessionPhase → Prop
  | .subscribing _ startSeqNum => startSeqNum = start ∧ delivered = [] ∧ phase.AtLeast floor
  | .awaiting _ startSeqNum replyRx =>
      startSeqNum = start ∧ delivered = [] ∧ Awaiting phase replies floor replyRx
  | .spawning follower =>
      follower.startSeqNum = start ∧ delivered = [] ∧
        floor ≤ follower.subscription.nextSeqNum.toNat ∧
        Subscribed base log actor phase follower.subscription
  | .returned _ => delivered = []
  | .asking follower seqNum count =>
      Backfills delivery base log actor phase start delivered follower seqNum (count + 1)
  | .fetching follower seqNum count replyRx =>
      Backfills delivery base log actor phase start delivered follower seqNum (count + 1) ∧
        Reading view log actor phase replies nextReply seqNum replyRx
  | .sending follower seqNum count record =>
      Backfills delivery base log actor phase start delivered follower seqNum (count + 1) ∧
        view.Found log seqNum (some record)
  | .turning follower receiver | .receiving follower receiver =>
      Forwards delivery base log actor phase start delivered follower receiver.position
  | .forwarding follower receiver record =>
      ∃ position, receiver.position = position + 1 ∧
        actor.sent[position]? = some record ∧
        follower.subscription.nextSeqNum.toNat ≤ record.number ∧
        Forwards delivery base log actor phase start delivered follower position
  | .failing _ _ | .ended _ => delivery.Ended log start.toNat delivered

end Session

section Progress

variable {MayFail : StorageOp → Prop} {view : LogView MayFail} {delivery : Delivery view}
  {floor : Nat} {metadata : StreamMetadata} {base log nextLog : List Record}
  {actor nextActor : StreamActor} {phase nextPhase : ActorPhase} {effect : ActorEffect} {replies nextReplies : Replies}
  {nextReply laterReply : ReplyId} {stores : Stores} {start : UInt64} {delivered : List Record}
  {follower : Follower}

theorem Follows.grows (follows : Follows base log actor phase start follower)
    (length_le : base.length + actor.sent.length ≤ log.length)
    (grows : Grows log actor phase nextLog nextActor nextPhase) :
    Follows base nextLog nextActor nextPhase start follower :=
  ⟨follows.start_eq, follows.inRange, follows.subscribed.grows length_le grows⟩

theorem Backfills.grows {seqNum : UInt64} {count : Nat}
    (backfills : Backfills delivery base log actor phase start delivered follower seqNum count)
    (length_le : base.length + actor.sent.length ≤ log.length)
    (grows : Grows log actor phase nextLog nextActor nextPhase) :
    Backfills delivery base nextLog nextActor nextPhase start delivered follower seqNum count where
  follows := backfills.follows.grows length_le grows
  start_le := backfills.start_le
  left := backfills.left
  delivered := by
    rcases grows.log with rfl | ⟨record, rfl, above⟩
    · exact backfills.delivered
    · have := backfills.left
      have := above _ backfills.follows.subscribed.atLeast
      exact delivery.backfilled_grows (by omega) backfills.delivered

theorem Forwards.grows {position : Nat}
    (forwards : Forwards delivery base log actor phase start delivered follower position)
    (length_le : base.length + actor.sent.length ≤ log.length)
    (grows : Grows log actor phase nextLog nextActor nextPhase) :
    Forwards delivery base nextLog nextActor nextPhase start delivered follower position where
  follows := forwards.follows.grows length_le grows
  subscribed_le := forwards.subscribed_le
  position_le := Nat.le_trans forwards.position_le grows.sent.length_le
  delivered := by
    rcases grows.log with rfl | ⟨record, rfl, above⟩
    · exact forwards.delivered
    · have := forwards.position_le
      exact delivery.forwarded_grows record (by omega) forwards.delivered

theorem Delivery.Ended.grows
    (ended : delivery.Ended log start.toNat delivered)
    (grows : Grows log actor phase nextLog nextActor nextPhase) :
    delivery.Ended nextLog start.toNat delivered := by
  rcases grows.log with rfl | ⟨record, rfl, _⟩
  · exact ended
  · exact delivery.ended_grows record ended

/-- What a session stands at is not disturbed by the others. -/
theorem SessionPhase.Holds.grows {sessionPhase : SessionPhase}
    (holds : sessionPhase.Holds delivery floor base log actor phase replies nextReply start delivered)
    (length_le : base.length + actor.sent.length ≤ log.length)
    (grows : Grows log actor phase nextLog nextActor nextPhase)
    (reading : ∀ seqNum replyRx bound, phase.AtLeast bound → seqNum.toNat < bound →
      Reading view log actor phase replies nextReply seqNum replyRx →
        Reading view nextLog nextActor nextPhase nextReplies laterReply seqNum replyRx)
    (awaiting : ∀ replyRx, Awaiting phase replies floor replyRx →
      Awaiting nextPhase nextReplies floor replyRx) :
    sessionPhase.Holds delivery floor base nextLog nextActor nextPhase nextReplies laterReply start
      delivered := by
  cases sessionPhase with
  | subscribing => exact ⟨holds.1, holds.2.1, grows.atLeast _ holds.2.2⟩
  | awaiting => exact ⟨holds.1, holds.2.1, awaiting _ holds.2.2⟩
  | spawning => exact ⟨holds.1, holds.2.1, holds.2.2.1, holds.2.2.2.grows length_le grows⟩
  | returned => exact holds
  | asking => exact Backfills.grows holds length_le grows
  | fetching follower seqNum count replyRx =>
      have left := holds.1.left
      exact ⟨holds.1.grows length_le grows,
        reading _ _ _ holds.1.follows.subscribed.atLeast (by omega) holds.2⟩
  | sending =>
      have left := holds.1.left
      exact ⟨holds.1.grows length_le grows,
        grows.found holds.1.follows.subscribed.atLeast (by omega) holds.2⟩
  | turning => exact Forwards.grows holds length_le grows
  | receiving => exact Forwards.grows holds length_le grows
  | forwarding =>
      rcases holds with ⟨position, next, sent, atLeast, forwards⟩
      have within : position < actor.sent.length :=
        (List.getElem?_eq_some_iff.mp sent).1
      rcases grows.sent with ⟨added, later⟩
      refine ⟨position, next, ?_, atLeast, forwards.grows length_le grows⟩
      rw [← later, List.getElem?_append_left within]
      exact sent
  | failing => exact Delivery.Ended.grows holds grows
  | ended => exact Delivery.Ended.grows holds grows

/-- Wherever a session ends, what it has delivered is as promised. -/
theorem SessionPhase.Holds.ended {sessionPhase : SessionPhase}
    (holds : sessionPhase.Holds delivery floor base log actor phase replies nextReply start delivered)
    (ascending : NumberedLog.Ascending Record.number log) :
    delivery.Ended log start.toNat delivered := by
  have nothing (empty : delivered = []) : delivery.Ended log start.toNat delivered :=
    empty ▸ delivery.ended_none log _
  cases sessionPhase with
  | subscribing => exact nothing holds.2.1
  | awaiting => exact nothing holds.2.1
  | spawning => exact nothing holds.2.1
  | returned => exact nothing holds
  | asking => exact delivery.ended_backfilled ascending (Backfills.delivered holds)
  | fetching => exact delivery.ended_backfilled ascending holds.1.delivered
  | sending => exact delivery.ended_backfilled ascending holds.1.delivered
  | turning => exact delivery.ended_forwarded (Forwards.delivered holds)
  | receiving => exact delivery.ended_forwarded (Forwards.delivered holds)
  | forwarding =>
      rcases holds with ⟨_, _, _, _, forwards⟩
      exact delivery.ended_forwarded forwards.delivered
  | failing => exact holds
  | ended => exact holds

theorem Backfills.advance {seqNum : UInt64} {count : Nat} {found : Option Record}
    (backfills : Backfills delivery base log actor phase start delivered follower seqNum
      (count + 1))
    (ascending : NumberedLog.Ascending Record.number log) (inLog : view.Found log seqNum found) :
    Backfills delivery base log actor phase start (delivered ++ found.toList) follower
      (seqNum + 1) count := by
  have left := backfills.left
  have start_le := backfills.start_le
  have bound := follower.subscription.nextSeqNum.toNat_lt
  have next : (seqNum + 1).toNat = seqNum.toNat + 1 := by
    rw [UInt64.toNat_add]
    exact Nat.mod_eq_of_lt (by simp only [UInt64.reduceToNat]; omega)
  refine ⟨backfills.follows, by omega, by omega, ?_⟩
  rw [next]
  exact delivery.read ascending start_le inLog backfills.delivered

theorem Backfills.holds_backfilling {seqNum : UInt64} {count : Nat}
    (backfills : Backfills delivery base log actor phase start delivered follower seqNum count) :
    (SessionPhase.backfilling follower seqNum count).Holds delivery floor base log actor phase replies
      nextReply start delivered := by
  cases count with
  | succ count => exact backfills
  | zero =>
      have subscribed := backfills.follows.subscribed
      have left : seqNum.toNat = follower.subscription.nextSeqNum.toNat := backfills.left
      refine ⟨backfills.follows, Nat.le_refl _, subscribed.position_le, ?_⟩
      exact delivery.turned subscribed.before subscribed.after (left ▸ backfills.delivered)

theorem Forwards.log_entry {position : Nat} {record : Record}
    (actorLog : ActorLog view metadata stores base log actor phase)
    (sent : actor.sent[position]? = some record) :
    log[base.length + position]? = some record := by
  rcases actorLog.log_isPrefix with ⟨added, whole⟩
  have within : position < actor.sent.length := (List.getElem?_eq_some_iff.mp sent).1
  rw [← whole, List.append_assoc, List.getElem?_append_right (by omega),
    List.getElem?_append_left (by omega), Nat.add_sub_cancel_left]
  exact sent

/-- What is broadcast to a task has a number its subscription has not reached. -/
theorem Forwards.number_le {position : Nat} {record : Record}
    (forwards : Forwards delivery base log actor phase start delivered follower position)
    (actorLog : ActorLog view metadata stores base log actor phase)
    (sent : actor.sent[position]? = some record) :
    follower.subscription.nextSeqNum.toNat ≤ record.number := by
  have found := Forwards.log_entry actorLog sent
  have le := forwards.subscribed_le
  refine forwards.follows.subscribed.after record (List.mem_of_getElem? (i := position -
    follower.subscription.receiver.position) ?_)
  rw [List.getElem?_drop]
  rw [show base.length + follower.subscription.receiver.position +
    (position - follower.subscription.receiver.position) = base.length + position by omega]
  exact found

theorem Forwards.advance {position : Nat} {record : Record}
    (forwards : Forwards delivery base log actor phase start delivered follower position)
    (actorLog : ActorLog view metadata stores base log actor phase)
    (sent : actor.sent[position]? = some record) :
    Forwards delivery base log actor phase start (delivered ++ [record]) follower (position + 1) := by
  have within : position < actor.sent.length := (List.getElem?_eq_some_iff.mp sent).1
  have atLeast := forwards.number_le actorLog sent
  have inRange := forwards.follows.inRange
  exact ⟨forwards.follows, Nat.le_succ_of_le forwards.subscribed_le, within,
    delivery.forwarded (Forwards.log_entry actorLog sent) (Nat.le_trans inRange atLeast)
      forwards.delivered⟩

end Progress

/-! ## The whole state -/

section State

variable {MayFail : StorageOp → Prop} (view : LogView MayFail) (metadata : StreamMetadata)
  (base log : List Record) (actor : StreamActor) (phase : ActorPhase) (state : FollowState)

structure ServerInv : Prop where
  running : state.actor = some actor
  actorLog : ActorLog view metadata state.stores base log actor phase
  requests : Requests base log actor phase state.replies state.nextReply

variable {view} (delivery : Delivery view) (floor : Nat)

/-- `earlier` is what the client received in other sessions. Nothing follows an
error. -/
structure SessionInv (earlier : List (Except ControllerError Record)) (session : Session)
    (sessionPhase : SessionPhase) (delivered : List Record)
    (errors : List (Except ControllerError Record)) : Prop where
  current : state.session = some session
  code : session.code = sessionPhase.code
  holds : sessionPhase.Holds delivery floor base log actor phase state.replies state.nextReply
    session.startSeqNum delivered
  failed : errors = [] ∨
    (∃ follower, sessionPhase = .ended follower) ∧ ∃ error, errors = [.error error]
  resumed : earlier <+: state.received
  received : state.received ++ session.channel <+: earlier ++ delivered.map .ok ++ errors
  connected : session.connected →
    state.received ++ session.channel = earlier ++ delivered.map .ok ++ errors

end State

/-- The subscription a session got is not behind the number it starts from. -/
def FollowState.InRange (state : FollowState) : Prop :=
  ∀ session follower next, state.session = some session →
    session.code = .requesting (.call (S := server) (.spawnFollower follower) next) →
    follower.startSeqNum.toNat ≤ follower.subscription.nextSeqNum.toNat

section Step

variable {MayFail : StorageOp → Prop} {view : LogView MayFail} {delivery : Delivery view}
  {floor : Nat} {metadata : StreamMetadata} {base log : List Record} {actor : StreamActor}
  {phase : ActorPhase} {state after : FollowState} {basinId : U128}
  {streamName : String} {earlier errors : List (Except ControllerError Record)}
  {session : Session} {sessionPhase : SessionPhase} {delivered : List Record}

theorem ServerInv.enqueue (server : ServerInv view metadata base log actor phase state)
    {command : ReplyId → StreamCommand} (own : ∀ id, (command id).replyTx = id) :
    ServerInv view metadata base log
      { actor with queue := actor.queue ++ [command state.nextReply] } phase
      (state.enqueue actor command) where
  running := rfl
  actorLog := ⟨server.actorLog.code, server.actorLog.ascending, server.actorLog.stored,
    server.actorLog.holds⟩
  requests := server.requests.enqueue (own _)

theorem Grows.enqueue (queue : List StreamCommand) :
    Grows log actor phase log { actor with queue } phase :=
  ⟨.inl rfl, List.prefix_rfl, fun _ atLeast => atLeast⟩

/-- The state after a step of the session. -/
def Proceeds {MayFail : StorageOp → Prop} {view : LogView MayFail} (delivery : Delivery view)
    (floor : Nat) (metadata : StreamMetadata) (base log : List Record) (phase : ActorPhase) (earlier : List (Except ControllerError Record)) (start : UInt64)
    (after : FollowState) : Prop :=
  ∃ actor session sessionPhase delivered errors,
    ServerInv view metadata base log actor phase after ∧
      SessionInv base log actor phase after delivery floor earlier session sessionPhase delivered errors ∧
      session.startSeqNum = start

theorem ServerInv.withCode (server : ServerInv view metadata base log actor phase state)
    (code : SessionCode) :
    ServerInv view metadata base log actor phase (state.withCode code) :=
  ⟨server.running, server.actorLog, server.requests⟩

theorem SessionInv.unended
    (inv : SessionInv base log actor phase state delivery floor earlier session sessionPhase
      delivered errors)
    (running : ∀ follower, sessionPhase ≠ .ended follower) : errors = [] :=
  inv.failed.resolve_right fun ended => ended.1.elim fun follower equal => running follower equal

/-- The session goes on, with nothing sent to the client. -/
theorem SessionInv.proceeds {middle : FollowState} {nextActor : StreamActor}
    (inv : SessionInv base log actor phase state delivery floor earlier session sessionPhase
      delivered errors)
    (nextPhase : SessionPhase)
    (server : ServerInv view metadata base log nextActor phase middle)
    (running : ∀ follower, sessionPhase ≠ .ended follower)
    (sameSession : middle.session = state.session) (sameReceived : middle.received = state.received)
    (holds : nextPhase.Holds delivery floor base log nextActor phase middle.replies middle.nextReply
      session.startSeqNum delivered) :
    Proceeds delivery floor metadata base log phase earlier session.startSeqNum
      (middle.withCode nextPhase.code) := by
  rcases inv.unended running with rfl
  exact ⟨nextActor, { session with code := nextPhase.code }, nextPhase, delivered, [],
    server.withCode _,
    { current := by rw [FollowState.withCode, sameSession, inv.current]; rfl
      code := rfl
      holds := holds
      failed := .inl rfl
      resumed := sameReceived ▸ inv.resumed
      received := sameReceived ▸ inv.received
      connected := sameReceived ▸ inv.connected }, rfl⟩

/-- The session goes on after sending a record. -/
theorem SessionInv.sends {record : Record}
    (inv : SessionInv base log actor phase state delivery floor earlier session sessionPhase
      delivered errors)
    (nextPhase : SessionPhase)
    (server : ServerInv view metadata base log actor phase state)
    (running : ∀ follower, sessionPhase ≠ .ended follower) (connected : session.connected)
    (holds : nextPhase.Holds delivery floor base log actor phase state.replies state.nextReply
      session.startSeqNum (delivered ++ [record])) :
    Proceeds delivery floor metadata base log phase earlier session.startSeqNum
      ((state.put session (.ok record)).withCode nextPhase.code) := by
  have items : state.received ++ (session.channel ++ [.ok record]) =
      earlier ++ (delivered ++ [record]).map .ok ++ [] := by
    rw [← List.append_assoc, inv.connected connected, inv.unended running]
    simp
  exact ⟨actor,
    { session with code := nextPhase.code, channel := session.channel ++ [.ok record] },
    nextPhase, delivered ++ [record], [],
    ⟨server.running, server.actorLog, server.requests⟩,
    { current := rfl
      code := rfl
      holds := holds
      failed := .inl rfl
      resumed := inv.resumed
      received := items ▸ List.prefix_rfl
      connected := fun _ => items }, rfl⟩

/-- The session ends after sending an error. -/
theorem SessionInv.fails {error : ControllerError}
    (inv : SessionInv base log actor phase state delivery floor earlier session sessionPhase
      delivered errors)
    (follower : Follower) (server : ServerInv view metadata base log actor phase state)
    (running : ∀ follower, sessionPhase ≠ .ended follower) (connected : session.connected)
    (ended : delivery.Ended log session.startSeqNum.toNat delivered) :
    Proceeds delivery floor metadata base log phase earlier session.startSeqNum
      ((state.put session (.error error)).withCode (SessionPhase.ended follower).code) := by
  have items : state.received ++ (session.channel ++ [.error error]) =
      earlier ++ delivered.map .ok ++ [.error error] := by
    rw [← List.append_assoc, inv.connected connected, inv.unended running, List.append_nil]
  exact ⟨actor,
    { session with
      code := (SessionPhase.ended follower).code
      channel := session.channel ++ [.error error] },
    .ended follower, delivered, [.error error],
    ⟨server.running, server.actorLog, server.requests⟩,
    { current := rfl
      code := rfl
      holds := ended
      failed := .inr ⟨⟨follower, rfl⟩, error, rfl⟩
      resumed := inv.resumed
      received := items ▸ List.prefix_rfl
      connected := fun _ => items }, rfl⟩

theorem SessionInv.requests {op : ServerOp} {answer : op.Answer}
    {next : op.Answer → Program server (Except ControllerError Nat)}
    (server : ServerInv view metadata base log actor phase state)
    (inv : SessionInv base log actor phase state delivery floor earlier session sessionPhase
      delivered errors)
    (calls : session.code = .requesting (.call (S := Slatestreams.server) op next))
    (answered : state.Answers actor session op answer after) :
    Proceeds delivery floor metadata base log phase earlier session.startSeqNum
      (after.withCode (.requesting (next answer))) := by
  have code := calls.symm.trans inv.code
  have holds := inv.holds
  cases sessionPhase with
  | subscribing stream startSeqNum =>
      cases code
      cases answer with
      | none =>
          rcases answered with ⟨_, rfl⟩
          exact inv.proceeds (.returned _) server nofun rfl rfl holds.2.1
      | some replyRx =>
          rcases answered with ⟨_, _, rfl, rfl⟩
          exact inv.proceeds (.awaiting stream startSeqNum _) (server.enqueue fun _ => rfl) nofun
            rfl rfl ⟨holds.1, holds.2.1, server.requests.awaiting holds.2.2⟩
  | awaiting stream startSeqNum replyRx =>
      cases code
      cases answer with
      | none =>
          rcases answered with ⟨_, _, rfl⟩
          exact inv.proceeds (.returned _) server nofun rfl rfl holds.2.1
      | some subscription =>
          rcases answered with ⟨sent, rfl⟩
          exact inv.proceeds (.spawning ⟨stream, startSeqNum, subscription⟩) server nofun rfl rfl
            ⟨holds.1, holds.2.1, holds.2.2.replied _ sent, server.requests.subscriptions _ _ sent⟩
  | spawning => cases code; exact answered.elim
  | _ => cases code

theorem SessionInv.spawns {follower : Follower}
    {next : Nat → Program server (Except ControllerError Nat)}
    (server : ServerInv view metadata base log actor phase state)
    (inv : SessionInv base log actor phase state delivery floor earlier session sessionPhase
      delivered errors)
    (calls : session.code =
      .requesting (.call (S := Slatestreams.server) (.spawnFollower follower) next))
    (inRange : follower.startSeqNum.toNat ≤ follower.subscription.nextSeqNum.toNat) :
    Proceeds delivery floor metadata base log phase earlier session.startSeqNum
      (state.withCode (.following follower (follower.start 0))) := by
  have code := calls.symm.trans inv.code
  have holds := inv.holds
  cases sessionPhase with
  | spawning spawned =>
      cases code
      rcases holds with ⟨start_eq, rfl, _, subscribed⟩
      have backfills : Backfills delivery base log actor phase session.startSeqNum [] follower
          follower.startSeqNum
          (follower.subscription.nextSeqNum.toNat - follower.startSeqNum.toNat) :=
        ⟨⟨start_eq, start_eq ▸ inRange, subscribed⟩, start_eq ▸ Nat.le_refl _, by omega,
          start_eq ▸ delivery.none _ _⟩
      rw [Follower.start, ← SessionPhase.code_backfilling]
      exact inv.proceeds _ server nofun rfl rfl backfills.holds_backfilling
  | subscribing => cases code
  | awaiting => cases code
  | _ => cases code

theorem SessionInv.turns {follower : Follower} {receiver : Receiver}
    (server : ServerInv view metadata base log actor phase state)
    (inv : SessionInv base log actor phase state delivery floor earlier session sessionPhase
      delivered errors)
    (waits : session.code = .following follower (.done (some receiver))) :
    Proceeds delivery floor metadata base log phase earlier session.startSeqNum
      (state.withCode (.following follower (follower.live 0 receiver))) := by
  have code := waits.symm.trans inv.code
  have holds := inv.holds
  cases sessionPhase with
  | turning =>
      cases code
      rw [SessionPhase.live_eq]
      exact inv.proceeds (.receiving follower receiver) server nofun rfl rfl holds
  | _ => cases code

/-- A turn of the live loop takes the next broadcast or gives up. -/
theorem SessionInv.receives {follower : Follower} {receiver : Receiver}
    {answer : Except RecvError Record × Receiver}
    (server : ServerInv view metadata base log actor phase state)
    (inv : SessionInv base log actor phase state delivery floor earlier session
      (.receiving follower receiver) delivered errors)
    (received : actor.recv receiver = some answer) :
    Proceeds delivery floor metadata base log phase earlier session.startSeqNum
      (state.withCode (.following follower (SessionPhase.receivedCode follower answer))) := by
  have forwards : Forwards delivery base log actor phase session.startSeqNum delivered follower
      receiver.position := inv.holds
  have ended := inv.holds.ended server.actorLog.ascending
  unfold StreamActor.recv at received
  split at received
  · cases received
    exact inv.proceeds (.failing follower .readerLagged) server nofun rfl rfl ended
  · split at received
    · rename_i record sent
      cases received
      have above := forwards.number_le server.actorLog sent
      rw [SessionPhase.receivedCode, if_pos (UInt64.le_iff_toNat_le.mpr above)]
      exact inv.proceeds (.forwarding follower _ record) server nofun rfl rfl
        ⟨receiver.position, rfl, sent, above, forwards⟩
    · split at received
      · cases received
      · cases received
        exact inv.proceeds (.ended follower) server nofun rfl rfl ended

theorem SessionInv.follows {follower : Follower} {op : ServerOp} {answer : op.Answer}
    {next : op.Answer → Program server (Option Receiver)}
    (server : ServerInv view metadata base log actor phase state)
    (inv : SessionInv base log actor phase state delivery floor earlier session sessionPhase
      delivered errors)
    (calls : session.code = .following follower (.call (S := Slatestreams.server) op next))
    (answered : state.Answers actor session op answer after) :
    Proceeds delivery floor metadata base log phase earlier session.startSeqNum
      (after.withCode (.following follower (next answer))) := by
  have code := calls.symm.trans inv.code
  have holds := inv.holds
  have ascending := server.actorLog.ascending
  have ended := holds.ended ascending
  cases sessionPhase with
  | asking _ seqNum count =>
      cases code
      cases answer with
      | none =>
          rcases answered with ⟨_, rfl⟩
          exact inv.proceeds (.failing follower _) server nofun rfl rfl ended
      | some replyRx =>
          rcases answered with ⟨_, _, rfl, rfl⟩
          exact inv.proceeds (.fetching follower seqNum count _) (server.enqueue fun _ => rfl) nofun
            rfl rfl ⟨Backfills.grows holds server.actorLog.length_le (.enqueue _),
              server.requests.reading⟩
  | fetching _ seqNum count replyRx =>
      cases code
      rcases holds with ⟨backfills, reading⟩
      rcases answer with _ | error | found
      · rcases answered with ⟨_, _, rfl⟩
        exact inv.proceeds (.failing follower _) server nofun rfl rfl ended
      · rcases answered with ⟨_, rfl⟩
        exact inv.proceeds (.failing follower _) server nofun rfl rfl ended
      · rcases answered with ⟨sent, rfl⟩
        have inLog := reading.replied found sent
        cases found with
        | none =>
            have advanced := backfills.advance ascending inLog
            rw [Option.toList_none, List.append_nil] at advanced
            change Proceeds _ _ _ _ _ _ _ _
              (after.withCode (.following follower (follower.backfill 0 (seqNum + 1) count)))
            rw [← SessionPhase.code_backfilling]
            exact inv.proceeds _ server nofun rfl rfl advanced.holds_backfilling
        | some record =>
            exact inv.proceeds (.sending follower seqNum count record) server nofun rfl rfl
              ⟨backfills, inLog⟩
  | sending _ seqNum count record =>
      cases code
      rcases holds with ⟨backfills, inLog⟩
      cases answer with
      | error =>
          rcases answered with ⟨_, rfl⟩
          exact inv.proceeds (.ended follower) server nofun rfl rfl ended
      | ok =>
          rcases answered with ⟨connected, _, rfl⟩
          have advanced := backfills.advance ascending inLog
          rw [Option.toList_some] at advanced
          change Proceeds _ _ _ _ _ _ _ _ (FollowState.withCode _
            (.following follower (follower.backfill 0 (seqNum + 1) count)))
          rw [← SessionPhase.code_backfilling]
          exact inv.sends _ server nofun connected advanced.holds_backfilling
  | receiving _ receiver =>
      cases code
      rcases answered with ⟨received, rfl⟩
      exact inv.receives server received
  | forwarding _ receiver record =>
      cases code
      rcases holds with ⟨position, next, sent, _, forwards⟩
      cases answer with
      | error =>
          rcases answered with ⟨_, rfl⟩
          exact inv.proceeds (.ended follower) server nofun rfl rfl ended
      | ok =>
          rcases answered with ⟨connected, _, rfl⟩
          have advanced := forwards.advance server.actorLog sent
          rw [← next] at advanced
          exact inv.sends (.turning follower receiver) server nofun connected advanced
  | failing _ error =>
      cases code
      cases answer with
      | error =>
          rcases answered with ⟨_, rfl⟩
          exact inv.proceeds (.ended follower) server nofun rfl rfl ended
      | ok =>
          rcases answered with ⟨connected, _, rfl⟩
          exact inv.fails follower server nofun connected ended
  | _ => cases code

/-- The actor's steps and other clients' requests do not disturb a session. -/
theorem SessionInv.disturbed {nextLog : List Record} {nextActor : StreamActor}
    {nextPhase : ActorPhase}
    (inv : SessionInv base log actor phase state delivery floor earlier session sessionPhase
      delivered errors)
    (sameSession : after.session = state.session) (sameReceived : after.received = state.received)
    (holds : sessionPhase.Holds delivery floor base nextLog nextActor nextPhase after.replies
      after.nextReply session.startSeqNum delivered) :
    SessionInv base nextLog nextActor nextPhase after delivery floor earlier session sessionPhase
      delivered errors :=
  ⟨sameSession.trans inv.current, inv.code, holds, inv.failed, sameReceived ▸ inv.resumed,
    sameReceived ▸ inv.received, sameReceived ▸ inv.connected⟩

theorem ServerInv.actor_step {effect : ActorEffect} {stores : Stores} {next : StreamActor}
    (server : ServerInv view metadata base log actor phase state)
    (taken : ActorStep MayFail state.stores actor effect stores next) :
    ∃ nextLog nextPhase,
      ServerInv view metadata base nextLog next nextPhase
        { state with
          stores := stores, actor := some next, replies := effect.deliver state.replies } ∧
      ActorChange view log actor phase effect nextLog next nextPhase ∧
      ∀ bound, phase.AtLeast bound → nextPhase.AtLeast bound := by
  rcases server.actorLog.step taken with ⟨nextLog, nextPhase, actorLog, change, atLeast⟩
  exact ⟨nextLog, nextPhase,
    ⟨rfl, actorLog, server.requests.change server.actorLog change atLeast⟩, change, atLeast⟩

theorem Proceeds.step {event : FollowEvent} {start : UInt64}
    (taken : FollowStep MayFail basinId streamName state event after)
    (within : event.WithinSession) (inRange : state.InRange)
    (proceeds : Proceeds delivery floor metadata base log phase earlier start state) :
    ∃ nextLog nextPhase, log <+: nextLog ∧
      Proceeds delivery floor metadata base nextLog nextPhase earlier start after := by
  rcases proceeds with ⟨actor, session, sessionPhase, delivered, errors, server, inv, rfl⟩
  cases taken with
  | actor running taken =>
      rcases Option.some.inj (server.running.symm.trans running) with rfl
      rcases server.actor_step taken with ⟨nextLog, nextPhase, next, change, atLeast⟩
      refine ⟨nextLog, nextPhase, (change.grows atLeast).log_isPrefix, _, session, sessionPhase,
        delivered, errors, next, inv.disturbed rfl rfl ?_, rfl⟩
      exact inv.holds.grows server.actorLog.length_le (change.grows atLeast)
        (fun _ _ _ reached below reading => reading.change change atLeast reached below)
        fun _ awaiting => awaiting.change change atLeast
  | request command running _ _ own =>
      rcases Option.some.inj (server.running.symm.trans running) with rfl
      refine ⟨log, phase, List.prefix_rfl, _, session, sessionPhase, delivered, errors,
        server.enqueue own, inv.disturbed rfl rfl ?_, rfl⟩
      exact inv.holds.grows server.actorLog.length_le (.enqueue _)
        (fun _ _ _ _ _ reading => reading.enqueue (own _)) fun _ awaiting => awaiting
  | requests running current calls answered =>
      rcases Option.some.inj (server.running.symm.trans running) with rfl
      rcases Option.some.inj (inv.current.symm.trans current) with rfl
      exact ⟨log, phase, List.prefix_rfl, inv.requests server calls answered⟩
  | spawns current calls =>
      rcases Option.some.inj (inv.current.symm.trans current) with rfl
      exact ⟨log, phase, List.prefix_rfl,
        inv.spawns server calls (inRange _ _ _ current calls)⟩
  | follows running current calls answered =>
      rcases Option.some.inj (server.running.symm.trans running) with rfl
      rcases Option.some.inj (inv.current.symm.trans current) with rfl
      exact ⟨log, phase, List.prefix_rfl, inv.follows server calls answered⟩
  | turns current waits =>
      rcases Option.some.inj (inv.current.symm.trans current) with rfl
      exact ⟨log, phase, List.prefix_rfl, inv.turns server waits⟩
  | @receive session item channel current connected next =>
      rcases Option.some.inj (inv.current.symm.trans current) with rfl
      have moved : state.received ++ [item] ++ channel = state.received ++ session.channel := by
        rw [next, List.append_assoc]
        rfl
      exact ⟨log, phase, List.prefix_rfl, actor, { session with channel }, sessionPhase, delivered,
        errors, ⟨server.running, server.actorLog, server.requests⟩,
        ⟨rfl, inv.code, inv.holds, inv.failed, inv.resumed.trans (List.prefix_append _ _),
          moved ▸ inv.received, moved ▸ inv.connected⟩, rfl⟩
  | @disconnect session current =>
      rcases Option.some.inj (inv.current.symm.trans current) with rfl
      exact ⟨log, phase, List.prefix_rfl, actor,
        { session with channel := [], connected := false }, sessionPhase, delivered, errors,
        ⟨server.running, server.actorLog, server.requests⟩,
        ⟨rfl, inv.code, inv.holds, inv.failed, inv.resumed,
          (List.append_nil state.received).symm ▸
            (List.prefix_append _ _).trans inv.received,
          fun connected => (nomatch connected)⟩, rfl⟩
  | connect => exact within.elim
  | crash => exact within.elim
  | load => exact within.elim

end Step

section Run

variable {MayFail : StorageOp → Prop} {view : LogView MayFail} {delivery : Delivery view}
  {floor : Nat} {metadata : StreamMetadata} {base log : List Record} {actor : StreamActor}
  {phase : ActorPhase} {state after : FollowState} {basinId : U128}
  {streamName : String} {earlier : List (Except ControllerError Record)} {start : UInt64}

/-- An actor that has just been handed its stream. -/
theorem ServerInv.started {stream : Stream}
    (running : state.actor = some (.spawn 0 stream)) (unanswered : ∀ id, state.replies id = none)
    (ascending : NumberedLog.Ascending Record.number log)
    (agrees : view.Agrees state.stores.recordStorage stream log) :
    ServerInv view stream.metadata log log (.spawn 0 stream) (.waiting stream) state where
  running := running
  actorLog := ⟨rfl, ascending, view.stored agrees, rfl, agrees, (List.append_nil log).symm⟩
  requests := ⟨fun _ member => (nomatch member), fun _ held => (nomatch held),
    fun _ _ => unanswered _, fun _ _ sent => nomatch (unanswered _).symm.trans sent⟩

theorem ServerInv.spawned {stores : Stores} {stream : Stream}
    (ascending : NumberedLog.Ascending Record.number log)
    (agrees : view.Agrees stores.recordStorage stream log) :
    ServerInv view stream.metadata log log (.spawn 0 stream) (.waiting stream)
      (.spawned stores stream) :=
  .started rfl (fun _ => rfl) ascending agrees

/-- While there is no session only the actor and other clients take steps. -/
theorem ServerInv.step_alone {event : FollowEvent}
    (taken : FollowStep MayFail basinId streamName state event after)
    (within : event.WithinSession) (alone : state.session = none)
    (server : ServerInv view metadata base log actor phase state) :
    (∃ nextLog nextActor nextPhase, log <+: nextLog ∧
      ServerInv view metadata base nextLog nextActor nextPhase after) ∧
      after.session = none ∧ after.received = state.received := by
  cases taken with
  | actor running taken =>
      rcases Option.some.inj (server.running.symm.trans running) with rfl
      rcases server.actor_step taken with ⟨nextLog, nextPhase, next, change, atLeast⟩
      exact ⟨⟨nextLog, _, nextPhase, (change.grows atLeast).log_isPrefix, next⟩, alone, rfl⟩
  | request command running _ _ own =>
      rcases Option.some.inj (server.running.symm.trans running) with rfl
      exact ⟨⟨log, _, phase, List.prefix_rfl, server.enqueue own⟩, alone, rfl⟩
  | requests _ current => cases alone.symm.trans current
  | spawns current => cases alone.symm.trans current
  | follows _ current => cases alone.symm.trans current
  | turns current => cases alone.symm.trans current
  | receive current => cases alone.symm.trans current
  | disconnect current => cases alone.symm.trans current
  | connect => exact within.elim
  | crash => exact within.elim
  | load => exact within.elim

theorem ServerInv.connect
    (taken : FollowStep MayFail basinId streamName state (.connect start) after)
    (server : ServerInv view metadata base log actor phase state)
    (reached : phase.AtLeast floor) :
    Proceeds delivery floor metadata base log phase state.received start after := by
  cases taken with
  | @connect _ stream running idle =>
      exact ⟨actor, _, .subscribing stream start, [], [],
        ⟨server.running, server.actorLog, server.requests⟩,
        { current := rfl
          code := congrArg SessionCode.requesting (SessionPhase.followStream_eq stream start)
          holds := ⟨rfl, rfl, reached⟩
          failed := .inl rfl
          resumed := List.prefix_rfl
          received := by simp
          connected := fun _ => by simp }, rfl⟩

/-- Not to be behind the start is all a session needs to be in range. -/
theorem Proceeds.inRange
    (proceeds : Proceeds delivery start.toNat metadata base log phase earlier start state) :
    state.InRange := by
  rcases proceeds with ⟨actor, session, sessionPhase, delivered, errors, server, inv, rfl⟩
  intro session' follower next current calls
  rcases Option.some.inj (inv.current.symm.trans current) with rfl
  have code := calls.symm.trans inv.code
  have holds := inv.holds
  cases sessionPhase with
  | spawning spawned =>
      cases code
      exact holds.1 ▸ holds.2.2.1
  | subscribing => cases code
  | awaiting => cases code
  | _ => cases code

/-- The records of the log in what a client received, and the error that may end it. -/
theorem prefix_records {items : List (Except ControllerError Record)} {delivered : List Record}
    {errors : List (Except ControllerError Record)} (whole : items <+: delivered.map .ok ++ errors)
    (failed : errors = [] ∨ ∃ error, errors = [.error error]) :
    ∃ records failures, items = records.map .ok ++ failures ∧ records <+: delivered ∧
      (failures = [] ∨ ∃ error, failures = [.error error]) := by
  have before (shorter : items <+: delivered.map .ok) :
      ∃ records failures, items = records.map .ok ++ failures ∧ records <+: delivered ∧
        (failures = [] ∨ ∃ error, failures = [.error error]) := by
    rcases shorter with ⟨later, split⟩
    rcases List.append_eq_map_iff.mp split with ⟨records, rest, rfl, rfl, rfl⟩
    exact ⟨records, [], (List.append_nil _).symm, List.prefix_append _ _, .inl rfl⟩
  rcases failed with rfl | ⟨error, rfl⟩
  · exact before (by simpa using whole)
  · rcases List.prefix_concat_iff.mp whole with rfl | shorter
    · exact ⟨delivered, [.error error], rfl, List.prefix_rfl, .inr ⟨error, rfl⟩⟩
    · exact before shorter

/-- What the client has received in the session is as promised, then perhaps an error. -/
theorem Proceeds.received
    (proceeds : Proceeds delivery floor metadata base log phase earlier start state) :
    ∃ delivered records failures, delivery.Ended log start.toNat delivered ∧
      records <+: delivered ∧ state.received = earlier ++ records.map .ok ++ failures ∧
      (failures = [] ∨ ∃ error, failures = [.error error]) := by
  rcases proceeds with ⟨actor, session, sessionPhase, delivered, errors, server, inv, rfl⟩
  rcases inv.resumed with ⟨items, items_eq⟩
  have whole : items <+: delivered.map .ok ++ errors := by
    have received := (List.prefix_append _ session.channel).trans inv.received
    rw [← items_eq, List.append_assoc] at received
    exact (List.prefix_append_right_inj earlier).mp received
  rcases prefix_records whole (inv.failed.imp_right And.right) with
    ⟨records, failures, rfl, shorter, failed⟩
  exact ⟨delivered, records, failures, inv.holds.ended server.actorLog.ascending, shorter,
    by rw [← items_eq, List.append_assoc], failed⟩

/-- Once nothing is under way the client has received what was promised of the
whole log. -/
theorem Proceeds.drained
    (proceeds : Proceeds delivery floor metadata base log phase earlier start state)
    (drained : state.Drained) :
    ∃ delivered, delivery.Forwarded log start.toNat log.length delivered ∧
      state.received = earlier ++ delivered.map .ok := by
  rcases proceeds with ⟨actor, session, sessionPhase, delivered, errors, server, inv, rfl⟩
  rcases drained with
    ⟨actor', stream, session', follower, receiver, next, running, waits, current, connected,
      empty, code, nothing⟩
  rcases Option.some.inj (server.running.symm.trans running) with rfl
  rcases Option.some.inj (inv.current.symm.trans current) with rfl
  have actorCode := server.actorLog.code.symm.trans waits
  have announced : log = base ++ actor.sent := by
    have holds := server.actorLog.holds
    cases phase with
    | waiting => exact holds.2.2
    | _ => cases actorCode
  have sessionCode := inv.code.symm.trans code
  have holds := inv.holds
  have received := inv.connected connected
  cases sessionPhase with
  | receiving follower' receiver' =>
      cases sessionCode
      have forwards : Forwards delivery base log actor phase session.startSeqNum delivered follower
        receiver.position := holds
      have position_le := forwards.position_le
      have end_ : actor.sent.length ≤ receiver.position := by
        unfold StreamActor.recv at nothing
        split at nothing
        · cases nothing
        · split at nothing
          · cases nothing
          · rename_i absent
            exact List.getElem?_eq_none_iff.mp absent
      have all : log.length = base.length + receiver.position := by
        rw [announced, List.length_append]
        omega
      rw [empty, List.append_nil, inv.unended nofun, List.append_nil] at received
      exact ⟨delivered, all ▸ forwards.delivered, received⟩
  | _ => cases sessionCode

end Run

end Slatestreams
