import Mathlib.Data.List.Nodup
import Slatestreams.ServerLogCalls

/-! # Logs and the steps of actors

An actor writes for its own stream only, and replies to a command once. The logs keep
their order over every step of a server that does not restart. -/

namespace Slatestreams

open Foundation

/-! ## One actor -/

section Actor

variable {MayFail : StorageOp → Prop} {metadata : StreamMetadata} {stores after : Stores}
  {base log : List Record} {actor next : StreamActor} {phase : ActorPhase} {effect : ActorEffect}

/-- An actor writes for its own stream only. -/
theorem ActorLog.sameRecords (taken : ActorStep MayFail stores actor effect after next)
    (actorLog : ActorLog (.consistent MayFail) metadata stores base log actor phase)
    {other : StreamMetadata} (different : metadata ≠ other) :
    SameRecords other stores.recordStorage after.recordStorage := by
  have code := actorLog.code
  have holds := actorLog.holds
  cases taken with
  | storage calls answered =>
      rw [calls] at code
      cases phase with
      | storing =>
        cases code
        rename_i answer
        rcases holds with ⟨rfl, _⟩
        cases answer with
        | ok =>
            rcases answered with rfl
            exact .appendBatch different _ _
        | error =>
            rcases answered with ⟨_, rfl⟩
            exact .refl _ _
      | fetching =>
        cases code
        rcases (LogView.consistent MayFail).readResult_answers
          (holds.1 ▸ actorLog.stored) answered with ⟨rfl, _⟩
        exact .refl _ _
      | _ => cases code
  | _ => exact .refl _ _

/-- A command goes from the end of the queue to what has been taken. -/
theorem ActorStep.commands (taken : ActorStep MayFail stores actor effect after next) :
    next.taken ++ next.queue = actor.taken ++ actor.queue := by
  cases taken with
  | recv waits queued =>
      rw [queued, List.append_assoc]
      rfl
  | _ => rfl

theorem ActorStep.broadcaster_eq (taken : ActorStep MayFail stores actor effect after next) :
    next.broadcaster = actor.broadcaster := by
  cases taken <;> rfl

/-- What an actor is still to reply with stays from the bound on. -/
theorem ActorLog.repliesFrom (taken : ActorStep MayFail stores actor effect after next)
    (actorLog : ActorLog (.consistent MayFail) metadata stores base log actor phase) {bound : Nat}
    (reached : phase.AtLeast bound) (only : actor.code.Only (ActorOp.RepliesFrom bound)) :
    next.code.Only (ActorOp.RepliesFrom bound) := by
  have code := actorLog.code
  cases taken with
  | recv waits queued =>
      rw [waits] at code
      cases phase with
      | waiting stream =>
          cases code
          exact ActorPhase.repliesFrom_handle reached _
      | _ => cases code
  | storage calls =>
      rw [calls] at only
      exact only.2 _
  | broadcast calls =>
      rw [calls] at only
      exact only.2 _
  | subscribe calls =>
      rw [calls] at only
      exact only.2 _
  | reply calls =>
      rw [calls] at only
      exact only.2 _

end Actor

namespace SharedServer

/-- The server after a step of one of its actors. -/
def acted (self : SharedServer) (tx : Nat) (next : StreamActor) (effect : ActorEffect)
    (stores : Stores) : SharedServer :=
  { self with
    stores
    actors := self.actors.set tx next
    replies := effect.deliver self.replies }

variable {MayFail : StorageOp → Prop} {initial : String × String → List Record} {id : Nat}
  {server : SharedServer}
  {name : String × String} {tx : Nat} {actor next : StreamActor} {effect : ActorEffect}
  {stores : Stores} {metadata : StreamMetadata} {base log : List Record} {phase : ActorPhase}

theorem given_acted (present : server.actors[tx]? = some actor)
    (taken : ActorStep MayFail server.stores actor effect stores next) {other : Nat}
    {command : StreamCommand} :
    (server.acted tx next effect stores).Given other command ↔ server.Given other command := by
  constructor
  · rintro ⟨later, found, member⟩
    rcases Answering.present_set found with ⟨rfl, rfl⟩ | ⟨_, earlier⟩
    · exact ⟨actor, present, taken.commands ▸ member⟩
    · exact ⟨later, earlier, member⟩
  · rintro ⟨earlier, found, member⟩
    by_cases same : tx = other
    · subst same
      rw [present] at found
      cases found
      refine ⟨next, List.getElem?_set_self (List.getElem?_eq_some_iff.mp present).1, ?_⟩
      rw [taken.commands]
      exact member
    · exact ⟨earlier, (List.getElem?_set_ne same).trans found, member⟩

/-- A reply is to the command in hand, which had none. -/
structure Replying (server : SharedServer) (tx : Nat) (actor : StreamActor) (phase : ActorPhase)
    (effect : ActorEffect) : Prop where
  reply {kind : ReplyKind} {replyTx : ReplyId} {value : kind.Value} :
    effect = .replied kind replyTx value →
      ∃ (stream : Stream) (command : StreamCommand) (sent : command.kind.Value),
        phase = .answering stream command sent ∧ command.replyTx = replyTx ∧
          (⟨command.kind, sent⟩ : Sigma ReplyKind.Value) = ⟨kind, value⟩ ∧
          command ∈ actor.taken ∧ server.replies replyTx = none

theorem Serves.replying (serves : server.Serves MayFail name tx metadata base log actor phase)
    (taken : ActorStep MayFail server.stores actor effect stores next) :
    server.Replying tx actor phase effect where
  reply is := by
    subst is
    have code := serves.actorLog.code
    cases taken with
    | reply calls =>
        rw [calls] at code
        cases phase with
        | answering stream command sent =>
            cases code
            exact ⟨stream, command, sent, rfl, rfl, rfl, serves.inHand rfl, serves.owed (.inl rfl)⟩
        | _ => cases code

/-- The replies there are after a step. -/
theorem Replying.either (replying : server.Replying tx actor phase effect) {replyRx : ReplyId}
    {value : Sigma ReplyKind.Value} (replied : effect.deliver server.replies replyRx = some value) :
    server.replies replyRx = some value ∨ effect ≠ .silent ∧
      ∃ (stream : Stream) (command : StreamCommand) (sent : command.kind.Value),
        phase = .answering stream command sent ∧ command.replyTx = replyRx ∧
          (⟨command.kind, sent⟩ : Sigma ReplyKind.Value) = value ∧ command ∈ actor.taken := by
  cases effect with
  | silent => exact .inl replied
  | replied kind replyTx sent =>
      rw [ActorEffect.deliver_replied] at replied
      split at replied
      · rename_i same
        rcases replying.reply rfl with ⟨stream, command, value, is, own, equal, member, _⟩
        exact .inr ⟨nofun, stream, command, value, is, own.trans same.symm,
          equal.trans (Option.some.inj replied), member⟩
      · exact .inl replied

theorem Replying.kept (replying : server.Replying tx actor phase effect) {replyRx : ReplyId}
    {value : Sigma ReplyKind.Value} (replied : server.replies replyRx = some value) :
    effect.deliver server.replies replyRx = some value := by
  cases effect with
  | silent => exact replied
  | replied kind replyTx sent =>
      rw [ActorEffect.deliver_replied, if_neg]
      · exact replied
      · rintro rfl
        rcases replying.reply rfl with ⟨_, _, _, _, _, _, _, none_⟩
        rw [none_] at replied
        cases replied

/-- A reply that has not been sent is not sent to what waits in the queue. -/
theorem Serves.unanswered (serves : server.Serves MayFail name tx metadata base log actor phase)
    (taken : ActorStep MayFail server.stores actor effect stores next) {command : StreamCommand}
    (queued : command ∈ actor.queue) :
    effect.deliver server.replies command.replyTx = none := by
  have none_ := serves.owed (.inr queued)
  cases replied : effect.deliver server.replies command.replyTx with
  | none => rfl
  | some value =>
      rcases (serves.replying taken).either replied with
        earlier | ⟨_, _, other, _, _, same, _, member⟩
      · rw [none_] at earlier
        cases earlier
      · have distinct := serves.distinct
        rw [List.map_append, List.nodup_append] at distinct
        exact absurd same (distinct.2.2 _ (List.mem_map_of_mem member) _
          (List.mem_map_of_mem queued))

/-- Commands that have been taken are told apart by their replies. -/
theorem Serves.command_eq (serves : server.Serves MayFail name tx metadata base log actor phase)
    {left right : StreamCommand} (first : left ∈ actor.taken) (second : right ∈ actor.taken)
    (same : left.replyTx = right.replyTx) : left = right := by
  have distinct := serves.distinct
  rw [List.map_append, List.nodup_append] at distinct
  exact List.inj_on_of_nodup_map distinct.1 first second same

/-! ## The actor that steps -/

/-- What an append is told is of the log, and later numbers follow it. -/
theorem Serves.told (serves : server.Serves MayFail name tx metadata base log actor phase)
    {stream : Stream} {data : Bytes} {replyTx : ReplyId} {ack : AppendResult}
    (answering : phase = .answering stream (.append data replyTx) (.ok ack)) :
    ack.record ∈ log ∧ ack.record.data = data ∧ ack.nextSeqNum.toNat = ack.record.number + 1 ∧
      ack.nextSeqNum.toNat ≤ stream.nextSeqNum.toNat := by
  subst answering
  rcases serves.actorLog.holds with ⟨_, agrees, _, inLog, payload, following⟩
  have below := agrees.below ack.record inLog
  exact ⟨inLog, payload, following, following ▸ below⟩

section Step

variable {nextLog : List Record} {nextPhase : ActorPhase}
  (serves : server.Serves MayFail name tx metadata base log actor phase)
  (taken : ActorStep MayFail server.stores actor effect stores next)
  (change : ActorChange (.consistent MayFail) log actor phase effect nextLog next nextPhase)
  (atLeast : ∀ bound, phase.AtLeast bound → nextPhase.AtLeast bound)

include serves taken change atLeast

theorem Serves.step_heard {subscription : Subscription}
    (heard : (server.acted tx next effect stores).Heard tx subscription) :
    Subscribed base nextLog next nextPhase subscription := by
  have actorLog := serves.actorLog
  rcases heard with ⟨same, replyRx, replied⟩
  rcases (serves.replying taken).either replied with
    before | ⟨speaks, stream, command, sent, is, _, equal, _⟩
  · exact (serves.heard ⟨same, replyRx, before⟩).grows actorLog.length_le (change.grows atLeast)
  · cases command with
    | append => cases equal
    | read => cases equal
    | subscribe replyTx =>
        cases equal
        cases change with
        | replied answering answered sent =>
            rw [is] at answering
            cases answering
            obtain rfl : subscription = ⟨actor.receiver, _⟩ := answered
            exact actorLog.subscribed is sent
        | _ => exact absurd rfl speaks

omit taken atLeast in
theorem Serves.step_inHand {command : StreamCommand} (held : nextPhase.command = some command) :
    command ∈ next.taken := by
  cases change with
  | took _ later _ nextCommand =>
      rcases nextCommand with now | ⟨message, rfl⟩
      · rw [held] at now
        cases now
        rw [later]
        exact List.mem_append_right _ List.mem_cons_self
      · cases held
  | wrote _ same _ _ _ _ later => exact later ▸ serves.inHand (same ▸ held)
  | announced _ same _ later => exact later ▸ serves.inHand (same ▸ held)
  | worked same _ _ later => exact later ▸ serves.inHand (same ▸ held)
  | replied => cases held

omit atLeast in
theorem Serves.step_owed {command : StreamCommand}
    (waits : nextPhase.command = some command ∨ command ∈ next.queue) :
    effect.deliver server.replies command.replyTx = none := by
  have hand (held : phase.command = some command) (silent : effect = .silent) :
      effect.deliver server.replies command.replyTx = none := by
    rw [silent]
    exact serves.owed (.inl held)
  have queued := @Serves.unanswered _ _ _ _ _ _ _ _ _ _ _ _ serves taken command
  cases change with
  | took queue _ _ nextCommand =>
      rcases waits with held | waits
      · rcases nextCommand with now | ⟨message, rfl⟩
        · rw [held] at now
          cases now
          exact queued (queue ▸ List.mem_cons_self)
        · cases held
      · exact queued (queue ▸ List.mem_cons_of_mem _ waits)
  | wrote _ same _ _ _ queue =>
      exact waits.elim (fun held => hand (same ▸ held) rfl) fun waits => queued (queue ▸ waits)
  | announced _ same queue =>
      exact waits.elim (fun held => hand (same ▸ held) rfl) fun waits => queued (queue ▸ waits)
  | worked same _ queue =>
      exact waits.elim (fun held => hand (same ▸ held) rfl) fun waits => queued (queue ▸ waits)
  | replied _ _ _ queue =>
      rcases waits with held | waits
      · cases held
      · exact queued (queue ▸ waits)

theorem Serves.step_acknowledged {data : Bytes} {replyTx : ReplyId} {ack : AppendResult}
    (member : .append data replyTx ∈ next.taken)
    (replied : effect.deliver server.replies replyTx = some ⟨.append, .ok ack⟩) :
    ack.record ∈ nextLog ∧ ack.record.data = data ∧
      ack.nextSeqNum.toNat = ack.record.number + 1 ∧
      nextPhase.AtLeast ack.nextSeqNum.toNat ∧
      next.code.Only (ActorOp.RepliesFrom ack.nextSeqNum.toNat) := by
  have actorLog := serves.actorLog
  have grows := change.grows atLeast
  rcases (serves.replying taken).either replied with
    before | ⟨speaks, stream, command, sent, is, own, equal, taken'⟩
  · have member : .append data replyTx ∈ actor.taken := by
      rcases List.mem_append.mp (taken.commands ▸ List.mem_append_left next.queue member :
        .append data replyTx ∈ actor.taken ++ actor.queue) with taken' | queued
      · exact taken'
      · have none_ := serves.owed (.inr queued)
        change server.replies replyTx = none at none_
        rw [before] at none_
        cases none_
    rcases serves.acknowledged member before with ⟨inLog, payload, following, reached, only⟩
    exact ⟨grows.log_isPrefix.subset inLog, payload, following, atLeast _ reached,
      actorLog.repliesFrom taken reached only⟩
  · cases change with
    | replied answering answered sent queue later =>
        rw [later] at member
        have same := serves.command_eq taken' member own
        subst same
        cases equal
        rcases serves.told is with ⟨inLog, payload, following, reached⟩
        have code := actorLog.code
        rw [is] at answering code
        cases answering
        refine ⟨inLog, payload, following, reached, ?_⟩
        cases taken with
        | reply calls =>
            rw [calls] at code
            cases code
            trivial
    | _ => exact absurd rfl speaks

end Step

/-- A step of an actor goes on from what the actor serves. -/
theorem Serves.step (serves : server.Serves MayFail name tx metadata base log actor phase)
    (owned : server.NamesOwned)
    (taken : ActorStep MayFail server.stores actor effect stores next) :
    ∃ nextLog nextPhase,
      (server.acted tx next effect stores).Serves MayFail name tx metadata base nextLog next
        nextPhase ∧
      Grows log actor phase nextLog next nextPhase := by
  rcases serves.actorLog.step taken with ⟨nextLog, nextPhase, stepped, change, atLeast⟩
  have named := (taken.same (owned.recordsOnly serves.present)).1.named name.1 name.2
  refine ⟨nextLog, nextPhase, ?_, change.grows atLeast⟩
  exact
    { present := List.getElem?_set_self (List.getElem?_eq_some_iff.mp serves.present).1
      named := named.trans serves.named
      actorLog := stepped
      heard := serves.step_heard taken change atLeast
      inHand := serves.step_inHand change
      distinct := taken.commands ▸ serves.distinct
      owed := serves.step_owed taken change
      acknowledged := serves.step_acknowledged taken change atLeast }

/-! ## The other actors -/

/-- Only an actor that is in the cache has something to do. -/
theorem Logged.acting (logged : server.Logged MayFail initial) (owned : server.NamesOwned)
    (present : server.actors[tx]? = some actor)
    (taken : ActorStep MayFail server.stores actor effect stores next) :
    ∃ name metadata log phase, server.Cached name ⟨tx⟩ ∧
      server.Serves MayFail name tx metadata (initial name) log actor phase := by
  by_cases commanded : actor.Commanded
  · rcases owned.commanded present commanded with ⟨name, _, cached⟩
    rcases logged.serves cached with ⟨metadata, log, served, phase, serves⟩
    have same := Option.some.inj (serves.present.symm.trans present)
    subst same
    exact ⟨name, metadata, log, phase, cached, serves⟩
  · rcases not_or.mp commanded with ⟨queue, nothing⟩
    rcases (logged.idle present).2 (not_not.mp nothing) with ⟨stream, waits⟩
    cases taken with
    | recv _ queued =>
        rw [not_not.mp queue] at queued
        cases queued
    | storage calls => cases waits.symm.trans calls
    | broadcast calls => cases waits.symm.trans calls
    | subscribe calls => cases waits.symm.trans calls
    | reply calls => cases waits.symm.trans calls

/-- A new subscription is to the actor that steps. -/
theorem Serves.heard_or (serves : server.Serves MayFail name tx metadata base log actor phase)
    (broadcaster : actor.broadcaster = tx)
    (taken : ActorStep MayFail server.stores actor effect stores next) {other : Nat}
    {subscription : Subscription}
    (heard : (server.acted tx next effect stores).Heard other subscription) :
    server.Heard other subscription ∨ other = tx ∧ actor.taken ≠ [] := by
  rcases heard with ⟨same, replyRx, replied⟩
  rcases (serves.replying taken).either replied with
    before | ⟨_, stream, command, sent, is, _, equal, member⟩
  · exact .inl ⟨same, replyRx, before⟩
  · cases command with
    | append => cases equal
    | read => cases equal
    | subscribe replyTx =>
        cases equal
        have holds := serves.actorLog.holds
        rw [is] at holds
        obtain rfl : subscription = ⟨actor.receiver, stream.nextSeqNum⟩ := holds.2.2.2
        exact .inr ⟨same.symm.trans broadcaster, List.ne_nil_of_mem member⟩

/-- A new reply is to a command of the actor that steps. -/
theorem Serves.replied_or (serves : server.Serves MayFail name tx metadata base log actor phase)
    (logged : server.Logged MayFail initial)
    (taken : ActorStep MayFail server.stores actor effect stores next) {other : Nat}
    {command : StreamCommand} (given : server.Given other command)
    {value : Sigma ReplyKind.Value}
    (replied : effect.deliver server.replies command.replyTx = some value) :
    server.replies command.replyTx = some value ∨ other = tx := by
  rcases (serves.replying taken).either replied with before | ⟨_, _, sent, _, _, same, _, member⟩
  · exact .inl before
  · have own : server.Given tx sent := ⟨actor, serves.present, List.mem_append_left _ member⟩
    exact .inr (logged.apart given own same.symm).1

/-- What another actor serves is not touched. -/
theorem Serves.other (serves : server.Serves MayFail name tx metadata base log actor phase)
    (logged : server.Logged MayFail initial) (owned : server.NamesOwned)
    (taken : ActorStep MayFail server.stores actor effect stores next)
    {otherName : String × String} {other : Nat} {otherMetadata : StreamMetadata}
    {otherBase otherLog : List Record} {otherActor : StreamActor} {otherPhase : ActorPhase}
    (serves' : server.Serves MayFail otherName other otherMetadata otherBase otherLog otherActor
      otherPhase)
    (different : tx ≠ other) (apart : name ≠ otherName) :
    (server.acted tx next effect stores).Serves MayFail otherName other otherMetadata otherBase
      otherLog otherActor otherPhase := by
  have broadcaster := (logged.idle serves.present).1
  have streams : metadata ≠ otherMetadata := by
    rintro rfl
    exact apart (logged.separate.named_injective owned.distinct serves.named serves'.named)
  have silent {command : StreamCommand} (given : server.Given other command)
      {value : Sigma ReplyKind.Value}
      (replied : effect.deliver server.replies command.replyTx = some value) :
      server.replies command.replyTx = some value :=
    (serves.replied_or logged taken given replied).resolve_right fun same => different same.symm
  exact
    { present := (List.getElem?_set_ne different).trans serves'.present
      named := ((taken.same (owned.recordsOnly serves.present)).1.named _ _).trans serves'.named
      actorLog := serves'.actorLog.kept (serves.actorLog.sameRecords taken streams).record
      heard := fun heard => by
        rcases serves.heard_or broadcaster taken heard with before | ⟨same, _⟩
        · exact serves'.heard before
        · exact absurd same.symm different
      inHand := serves'.inHand
      distinct := serves'.distinct
      owed := fun {command} waits => by
        have given : server.Given other command := by
          rcases waits with held | queued
          · exact ⟨otherActor, serves'.present, List.mem_append_left _ (serves'.inHand held)⟩
          · exact ⟨otherActor, serves'.present, List.mem_append_right _ queued⟩
        cases replied : effect.deliver server.replies command.replyTx with
        | none => exact replied
        | some value =>
            have none_ := serves'.owed waits
            rw [silent given replied] at none_
            cases none_
      acknowledged := fun {data replyTx ack} member replied => by
        have given : server.Given other (.append data replyTx) :=
          ⟨otherActor, serves'.present, List.mem_append_left _ member⟩
        exact serves'.acknowledged member (silent given replied) }

theorem ActorStep.taken_isPrefix
    (taken : ActorStep MayFail server.stores actor effect stores next) :
    actor.taken <+: next.taken := by
  cases taken with
  | recv => exact List.prefix_append _ _
  | _ => exact List.prefix_rfl

theorem Logged.acted (logged : server.Logged MayFail initial) (owned : server.NamesOwned)
    (present : server.actors[tx]? = some actor)
    (taken : ActorStep MayFail server.stores actor effect stores next) :
    (server.acted tx next effect stores).Logged MayFail initial := by
  rcases logged.acting owned present taken with ⟨name, metadata, log, phase, cached, serves⟩
  have same := (taken.same (owned.recordsOnly present)).1
  have broadcaster := (logged.idle present).1
  have inside := (List.getElem?_eq_some_iff.mp present).1
  have drawn := logged.separate.named_drawn serves.named
  exact
    { separate := logged.separate.records same.metaStorage same.drawn fun other undrawn => by
        refine serves.actorLog.sameRecords taken ?_
        rintro rfl
        exact undrawn drawn
      apart := fun first second =>
        logged.apart ((given_acted present taken).mp first) ((given_acted present taken).mp second)
      idle := fun {other later} found => by
        rcases Answering.present_set found with ⟨rfl, rfl⟩ | ⟨_, earlier⟩
        · refine ⟨taken.broadcaster_eq.trans broadcaster, fun nothing => ?_⟩
          have idle : actor.taken = [] :=
            List.prefix_nil.mp (nothing ▸ ActorStep.taken_isPrefix taken)
          rcases (logged.idle present).2 idle with ⟨stream, waits⟩
          cases taken with
          | recv => cases List.append_eq_nil_iff.mp nothing |>.2
          | storage calls => cases waits.symm.trans calls
          | broadcast calls => cases waits.symm.trans calls
          | subscribe calls => cases waits.symm.trans calls
          | reply calls => cases waits.symm.trans calls
        · exact logged.idle earlier
      heard := fun {other subscription} heard => by
        have own (some_ : actor.taken ≠ []) : next.taken ≠ [] := by
          intro nothing
          exact some_ (List.prefix_nil.mp (nothing ▸ ActorStep.taken_isPrefix taken))
        rcases serves.heard_or broadcaster taken heard with before | ⟨rfl, some_⟩
        · rcases logged.heard before with ⟨earlier, found, some_⟩
          by_cases equal : tx = other
          · subst equal
            rw [present] at found
            cases found
            exact ⟨next, List.getElem?_set_self inside, own some_⟩
          · exact ⟨earlier, (List.getElem?_set_ne equal).trans found, some_⟩
        · exact ⟨next, List.getElem?_set_self inside, own some_⟩
      uncached := fun {other} uncached => by
        have named := same.named other.1 other.2
        have records {found : StreamMetadata}
            (leads : server.stores.named other.1 other.2 = some found) :
            SameRecords found server.stores.recordStorage stores.recordStorage := by
          refine serves.actorLog.sameRecords taken ?_
          rintro rfl
          have equal := logged.separate.named_injective owned.distinct serves.named leads
          subst equal
          exact uncached _ cached
        refine ⟨(logged.pastRecords uncached).kept named fun _ => records, ?_⟩
        refine Eq.trans ?_ (logged.uncached uncached).2
        change stores.log other = server.stores.log other
        cases leads : server.stores.named other.1 other.2 with
        | none => rw [Stores.log, Stores.log, named, leads]
        | some found =>
            rw [Stores.log_of_named leads, Stores.log_of_named (named.trans leads)]
            exact Contents.log_kept (records leads).record
      serves := fun {other stream} found => by
        by_cases equal : name = other
        · subst equal
          have handle := AppendLine.cached_unique cached found
          subst handle
          rcases serves.step owned taken with ⟨nextLog, nextPhase, stepped, _⟩
          exact ⟨metadata, nextLog, next, nextPhase, stepped⟩
        · rcases logged.serves found with
            ⟨otherMetadata, otherLog, otherActor, otherPhase, serves'⟩
          refine ⟨otherMetadata, otherLog, otherActor, otherPhase,
            serves.other logged owned taken serves' ?_ equal⟩
          intro one
          have names := owned.names_of_cached found
          rw [← one, owned.names_of_cached cached] at names
          exact equal (Option.some.inj names) }

theorem KeepsLogs.acted (logged : server.Logged MayFail initial) (owned : server.NamesOwned)
    (present : server.actors[tx]? = some actor)
    (taken : ActorStep MayFail server.stores actor effect stores next) (id : Nat) :
    KeepsLogs id server (server.acted tx next effect stores) := by
  rcases logged.acting owned present taken with ⟨name, metadata, log, phase, cached, serves⟩
  have same := (taken.same (owned.recordsOnly present)).1
  rcases serves.step owned taken with ⟨nextLog, nextPhase, stepped, grows⟩
  exact
    { records := fun elsewhere => by
        refine serves.actorLog.sameRecords taken ?_
        rintro rfl
        exact (elsewhere name serves.named).1 _ cached
      keys := fun _ streamName => by
        change stores.streamMetadata _ _ = _
        rw [Stores.streamMetadata, same.metaStorage, ← Stores.streamMetadata]
      named := fun leads => (same.named _ _).trans leads
      logs := fun other => by
        by_cases equal : name = other
        · subst equal
          rw [stepped.log_eq, serves.log_eq]
          rcases grows.log with rfl | ⟨record, rfl, above⟩
          · exact ⟨[], (List.append_nil _).symm, fun _ _ _ _ => List.forall_mem_nil _⟩
          · refine ⟨[record], rfl, fun stream subscription found heard later member => ?_⟩
            have handle := AppendLine.cached_unique cached found
            subst handle
            rw [List.mem_singleton.mp member]
            exact above _ (serves.heard heard).atLeast
        · refine ⟨[], ?_, fun _ _ _ _ => List.forall_mem_nil _⟩
          rw [List.append_nil]
          change stores.log other = server.stores.log other
          have named := same.named other.1 other.2
          cases leads : server.stores.named other.1 other.2 with
          | none => rw [Stores.log, Stores.log, named, leads]
          | some found =>
              rw [Stores.log_of_named leads, Stores.log_of_named (named.trans leads)]
              refine Contents.log_kept (serves.actorLog.sameRecords taken ?_).record
              rintro rfl
              exact equal (logged.separate.named_injective owned.distinct serves.named leads)
      actors := fun {other earlier} found => by
        by_cases equal : tx = other
        · subst equal
          rw [present] at found
          cases found
          exact ⟨next, List.getElem?_set_self (List.getElem?_eq_some_iff.mp present).1, grows.sent,
            fun none_ => absurd cached (none_ name)⟩
        · exact ⟨earlier, (List.getElem?_set_ne equal).trans found, List.prefix_rfl, fun _ => rfl⟩
      replies := (serves.replying taken).kept
      ordered := fun {other data later replyTx replyRx ack told} given replied unanswered after
          answered => by
        have given' := (given_acted present taken).mp after
        rcases serves.replied_or logged taken given' answered with before | rfl
        · change server.replies replyRx = _ at before
          rw [unanswered] at before
          cases before
        · rcases given with ⟨earlier, found, member⟩
          rw [present] at found
          cases found
          rcases List.mem_append.mp member with known | queued
          · rcases serves.acknowledged known replied with ⟨_, _, _, _, only⟩
            have speaks : effect = .replied .append replyRx (.ok told) := by
              cases effect with
              | silent =>
                  change server.replies replyRx = _ at answered
                  rw [unanswered] at answered
                  cases answered
              | replied kind replyTx value =>
                  change (ActorEffect.replied kind replyTx value).deliver _ replyRx = _ at answered
                  rw [ActorEffect.deliver_replied] at answered
                  split at answered
                  · rename_i own
                    cases answered
                    rw [own]
                  · rw [unanswered] at answered
                    cases answered
            cases taken with
            | reply calls =>
                cases speaks
                rw [calls] at only
                exact only.1
            | _ => cases speaks
          · have none_ := serves.owed (.inr queued)
            change server.replies replyTx = none at none_
            rw [replied] at none_
            cases none_
      alone := fun {left right} first second leftSent rightSent => by
        have own {replyRx : ReplyId} (none_ : server.replies replyRx = none)
            (sent : (effect.deliver server.replies replyRx).isSome) :
            ∃ kind value, effect = .replied kind replyRx value := by
          cases effect with
          | silent =>
              change (server.replies replyRx).isSome = true at sent
              rw [none_] at sent
              cases sent
          | replied kind replyTx value =>
              rw [ActorEffect.deliver_replied] at sent
              split at sent
              · rename_i same
                exact ⟨kind, value, same ▸ rfl⟩
              · rw [none_] at sent
                cases sent
        rcases own first leftSent with ⟨kind, value, is⟩
        rcases own second rightSent with ⟨_, _, also⟩
        rw [is] at also
        cases also
        rfl }

end SharedServer

/-! ## The layer is kept -/

theorem keeps_logging (MayFail : StorageOp → Prop) (MayDrop : ServerOp → Prop)
    (initial : String × String → List Record) :
    replyDiscipline.KeepsLayer (SharedServer.environment MayFail MayDrop False)
      (logging MayFail initial) where
  known different holds changes knows :=
    changes.2.standing changes.1.1 holds.1.1 holds.2.separate different knows.1.1.1 knows.1.1.2
      knows.2
  started {id call code history after} holds idle starts _ := by
    rcases starts.asks holds.1.1 idle with ⟨basin, stream, locks, facts, meets⟩
    have same : after = { history.shared with spawned := after.spawned } := by
      cases starts <;> rfl
    refine ⟨⟨?_, ?_⟩, .free basin stream, ⟨⟨⟨locks, facts⟩, trivial⟩, trivial⟩, meets⟩
    · change after.Logged MayFail initial
      rw [same]
      exact holds.2.same rfl rfl rfl fun _ _ => Iff.rfl
    · change history.shared.KeepsLogs id after
      rw [same]
      exact .sameActors rfl rfl rfl
  called holds knows allowed answers _ _ := by
    have reached := Standing.logs_called holds.2 holds.1.1 holds.1.2 knows.1.1.1 knows.1.1.2
      knows.2 allowed answers
    exact ⟨⟨reached.logged, reached.keeps⟩, reached.knows⟩
  turned holds knows _ _ _ := ⟨⟨holds.2, .sameActors rfl rfl rfl⟩, knows.2⟩
  returned holds _ _ _ _ := ⟨holds.2.same rfl rfl rfl fun _ _ => Iff.rfl, .sameActors rfl rfl rfl⟩
  dropped holds _ _ _ := ⟨holds.2.same rfl rfl rfl fun _ _ => Iff.rfl, .sameActors rfl rfl rfl⟩
  moved holds moves _ id := by
    cases moves with
    | actor present taken =>
        exact ⟨holds.2.acted holds.1.1 present taken, .acted holds.2 holds.1.1 present taken id⟩
  reset _ resets := resets.1.elim

/-- The discipline of replies with the logs of the server. -/
def logDiscipline (MayFail : StorageOp → Prop) (initial : String × String → List Record) :
    Discipline server ServerCall ServerResult SharedServer Standing :=
  replyDiscipline.under (logging MayFail initial)

theorem logDiscipline_keeps (MayFail : StorageOp → Prop) (MayDrop : ServerOp → Prop)
    (initial : String × String → List Record) :
    (logDiscipline MayFail initial).Keeps (SharedServer.environment MayFail MayDrop False)
      fun _ => True :=
  (replyDiscipline_keeps MayFail MayDrop False).under (keeps_logging MayFail MayDrop initial)

namespace SharedServer

theorem Logged.start {stores : Stores} (MayFail : StorageOp → Prop) (separate : stores.Separate)
    (pastRecords : ∀ name, stores.LoadsPastRecords name) :
    (SharedServer.start stores).Logged MayFail stores.log where
  separate := separate
  apart given := by
    rcases given with ⟨_, present, _⟩
    cases present
  idle present := nomatch present
  heard heard := by
    rcases heard with ⟨_, _, replied⟩
    cases replied
  uncached _ := ⟨pastRecords _, rfl⟩
  serves cached := by
    rcases cached with ⟨_, found, _⟩
    cases found

end SharedServer

theorem ServerPool.logging_start {stores : Stores} (MayFail : StorageOp → Prop)
    (sound : stores.Sound) (new : stores.journal = [])
    (pastRecords : ∀ name, stores.LoadsPastRecords name) :
    (logDiscipline MayFail stores.log).Orderly [] (start stores) where
  holds := ⟨(answering_start sound.distinct new).holds, .start MayFail sound.separate pastRecords⟩
  follows found := nomatch found
  idle _ _ := nofun

end Slatestreams
