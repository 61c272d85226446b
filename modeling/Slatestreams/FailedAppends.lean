import Slatestreams.Foundation.Run
import Slatestreams.StreamActor

/-! # Appends that fail

One actor serves its commands one after the other, and any of its writes may
fail. A failed append leaves no trace but the number it has drawn. -/

namespace Slatestreams

open Foundation

/-! ## Serving commands -/

/-- What the calls of an actor act on. Each broadcast is kept with the contents
of the record store it was sent over, and the replies are kept in order. -/
structure ActorWorld where
  stores : Stores
  broadcasts : List (Record × Contents)
  replies : List ((kind : ReplyKind) × ReplyId × kind.Value)

namespace ActorWorld

def opened (stores : Stores) : ActorWorld := ⟨stores, [], []⟩

def announced (self : ActorWorld) (record : Record) : ActorWorld :=
  { self with broadcasts := self.broadcasts ++ [(record, self.stores.recordStorage)] }

def replied (self : ActorWorld) (kind : ReplyKind) (replyTx : ReplyId) (value : kind.Value) :
    ActorWorld :=
  { self with replies := self.replies ++ [⟨kind, replyTx, value⟩] }

end ActorWorld

def ActorOp.Answers (MayFail : StorageOp → Prop) (broadcaster : Nat) (world : ActorWorld) :
    (op : ActorOp) → op.Answer → ActorWorld → Prop
  | .storage op, answer, after =>
      ∃ stores, op.Answers MayFail world.stores answer stores ∧ after = { world with stores }
  | .broadcast record, (), after => after = world.announced record
  | .subscribe, receiver, after =>
      receiver = ⟨broadcaster, world.broadcasts.length⟩ ∧ after = world
  | .reply kind replyTx value, (), after => after = world.replied kind replyTx value

/-- One command with what is replied to it. An append also shows the number its
allocation starts at and the record store before and after it. -/
inductive Exchange where
  | append (number : UInt64) (data : Bytes) (result : Except StreamError AppendResult)
      (before after : Contents)
  | read (seqNum : UInt64) (result : Except StreamError (Option Record))
  | subscribe (subscription : Subscription)

namespace Exchange

/-- The number an append has drawn, whether or not it succeeds. -/
def drawn : Exchange → Option UInt64
  | append number _ _ _ _ => some number
  | _ => none

/-- The record of an append that succeeds. -/
def acknowledged : Exchange → Option Record
  | append _ _ (.ok ack) _ _ => some ack.record
  | _ => none

end Exchange

structure Serving where
  stream : Stream
  world : ActorWorld

/-- The loop of the actor takes one command and handles it to its end. -/
inductive Serves (MayFail : StorageOp → Prop) (broadcaster : Nat) :
    Serving → Exchange → Serving → Prop where
  | append {stream next : Stream} {world after : ActorWorld} {data : Bytes} {replyTx : ReplyId}
      {number : UInt64} {block : Option SeqBlock} {allocator : SequenceAllocator}
      {result : Except StreamError AppendResult}
      (allocated : stream.sequenceNumberAllocator.allocate 1 = some ((number, block), allocator))
      (executes : (StreamActor.handle stream (.append data replyTx)).Executes
        (ActorOp.Answers MayFail broadcaster) world next after)
      (replied : after.replies = world.replies ++ [⟨.append, replyTx, result⟩]) :
      Serves MayFail broadcaster ⟨stream, world⟩
        (.append number data result world.stores.recordStorage after.stores.recordStorage)
        ⟨next, after⟩
  | read {stream next : Stream} {world after : ActorWorld} {seqNum : UInt64} {replyTx : ReplyId}
      {result : Except StreamError (Option Record)}
      (executes : (StreamActor.handle stream (.read seqNum replyTx)).Executes
        (ActorOp.Answers MayFail broadcaster) world next after)
      (replied : after.replies = world.replies ++ [⟨.read, replyTx, result⟩]) :
      Serves MayFail broadcaster ⟨stream, world⟩ (.read seqNum result) ⟨next, after⟩
  | subscribe {stream next : Stream} {world after : ActorWorld} {replyTx : ReplyId}
      {subscription : Subscription}
      (executes : (StreamActor.handle stream (.subscribe replyTx)).Executes
        (ActorOp.Answers MayFail broadcaster) world next after)
      (replied : after.replies = world.replies ++ [⟨.subscribe, replyTx, subscription⟩]) :
      Serves MayFail broadcaster ⟨stream, world⟩ (.subscribe subscription) ⟨next, after⟩

/-! ## What one command does -/

/-- The outcomes of a command: an append is written, broadcast and acknowledged,
or is refused by the store; nothing else changes the stores or is broadcast. -/
inductive Served (MayFail : StorageOp → Prop) (before : Serving) :
    Exchange → Serving → Prop where
  | written {data : Bytes} {block : Option SeqBlock} {allocator : SequenceAllocator}
      {after : ActorWorld} (draws : before.stream.Draws block allocator)
      (stored : after.stores = before.world.stores.write
        (Stream.appendBatch before.stream.metadata block ⟨before.stream.nextSeqNum, data⟩)
          .recordStorage)
      (broadcast : after.broadcasts = before.world.broadcasts ++
        [(⟨before.stream.nextSeqNum, data⟩, after.stores.recordStorage)]) :
      Served MayFail before
        (.append before.stream.nextSeqNum data
          (.ok ⟨⟨before.stream.nextSeqNum, data⟩, allocator.nextSequenceNumber⟩)
          before.world.stores.recordStorage after.stores.recordStorage)
        ⟨before.stream.moved allocator, after⟩
  | refused {data : Bytes} {block : Option SeqBlock} {allocator : SequenceAllocator}
      {error : StorageError} {after : ActorWorld} (draws : before.stream.Draws block allocator)
      (kept : after.stores = before.world.stores)
      (silent : after.broadcasts = before.world.broadcasts) :
      Served MayFail before
        (.append before.stream.nextSeqNum data (.error (.storageError error))
          before.world.stores.recordStorage after.stores.recordStorage)
        ⟨before.stream.moved allocator, after⟩
  | read {seqNum : UInt64} {result : Except StreamError (Option Record)} {after : ActorWorld}
      (found : result = Stream.readResult
          (.ok (before.world.stores.recordStorage.read (before.stream.metadata.recordKey seqNum))) ∨
        MayFail (.get .recordStorage (before.stream.metadata.recordKey seqNum)) ∧
          ∃ error, result = .error (.storageError error))
      (kept : after.stores = before.world.stores)
      (silent : after.broadcasts = before.world.broadcasts) :
      Served MayFail before (.read seqNum result) ⟨before.stream, after⟩
  | subscribed {subscription : Subscription} {after : ActorWorld}
      (kept : after.stores = before.world.stores)
      (silent : after.broadcasts = before.world.broadcasts) :
      Served MayFail before (.subscribe subscription) ⟨before.stream, after⟩

section Answers

variable {MayFail : StorageOp → Prop} {broadcaster : Nat} {world after : ActorWorld}
  {stream next : Stream}

/-- What is left of a command once its reply is known. -/
theorem executes_answer {command : StreamCommand} {value : command.kind.Value}
    (executes : (ActorPhase.answerCode stream command value).Executes
      (ActorOp.Answers MayFail broadcaster) world next after) :
    next = stream ∧ after = world.replied command.kind command.replyTx value := by
  rcases Program.executes_call.mp executes with ⟨⟨⟩, middle, rfl, rest⟩
  rcases Program.executes_done.mp rest with ⟨rfl, rfl⟩
  exact ⟨rfl, rfl⟩

theorem replied_inj {kind : ReplyKind} {replyTx : ReplyId} {value result : kind.Value}
    (replied : (world.replied kind replyTx value).replies =
      world.replies ++ [⟨kind, replyTx, result⟩]) : result = value := by
  have last := List.append_cancel_left replied
  simp only [List.cons.injEq, Sigma.mk.injEq, heq_eq_eq, Prod.mk.injEq, true_and, and_true] at last
  exact last.symm

theorem executes_append {data : Bytes} {replyTx : ReplyId} {block : Option SeqBlock}
    {allocator : SequenceAllocator} {result : Except StreamError AppendResult}
    (draws : stream.Draws block allocator)
    (executes : (StreamActor.handle stream (.append data replyTx)).Executes
      (ActorOp.Answers MayFail broadcaster) world next after)
    (replied : after.replies = world.replies ++ [⟨.append, replyTx, result⟩]) :
    Served MayFail ⟨stream, world⟩
      (.append stream.nextSeqNum data result world.stores.recordStorage after.stores.recordStorage)
      ⟨next, after⟩ := by
  rw [ActorPhase.handle_append draws] at executes
  rcases Program.executes_call.mp executes with ⟨answer, middle, ⟨stores, answered, rfl⟩, rest⟩
  cases answer with
  | ok =>
      cases answered
      rcases Program.executes_call.mp rest with ⟨⟨⟩, announced, rfl, ending⟩
      rcases executes_answer ending with ⟨rfl, rfl⟩
      cases replied_inj replied
      exact .written draws rfl rfl
  | error error =>
      rcases answered with ⟨_, rfl⟩
      rcases executes_answer rest with ⟨rfl, rfl⟩
      cases replied_inj replied
      exact .refused draws rfl rfl

theorem executes_read {seqNum : UInt64} {replyTx : ReplyId}
    {result : Except StreamError (Option Record)}
    (executes : (StreamActor.handle stream (.read seqNum replyTx)).Executes
      (ActorOp.Answers MayFail broadcaster) world next after)
    (replied : after.replies = world.replies ++ [⟨.read, replyTx, result⟩]) :
    Served MayFail ⟨stream, world⟩ (.read seqNum result) ⟨next, after⟩ := by
  rw [ActorPhase.handle_read] at executes
  rcases Program.executes_call.mp executes with ⟨answer, middle, ⟨stores, answered, rfl⟩, rest⟩
  cases answer with
  | ok found =>
      rcases answered with ⟨rfl, rfl⟩
      rcases executes_answer rest with ⟨rfl, rfl⟩
      cases replied_inj replied
      exact .read (.inl rfl) rfl rfl
  | error error =>
      rcases answered with ⟨mayFail, rfl⟩
      rcases executes_answer rest with ⟨rfl, rfl⟩
      cases replied_inj replied
      exact .read (.inr ⟨mayFail, error, rfl⟩) rfl rfl

theorem cut_answer {command : StreamCommand} {value : command.kind.Value}
    (cut : (ActorPhase.answerCode stream command value).Cut
      (ActorOp.Answers MayFail broadcaster) world after) :
    after.broadcasts = world.broadcasts := by
  rcases Program.cut_call.mp cut with rfl | ⟨⟨⟩, middle, rfl, rest⟩
  · rfl
  · rw [Program.cut_done] at rest
    rw [rest]
    rfl

/-- However far a command gets, a record it broadcasts is in the store by then. -/
theorem cut_handle {command : StreamCommand}
    (cut : (StreamActor.handle stream command).Cut
      (ActorOp.Answers MayFail broadcaster) world after) :
    after.broadcasts = world.broadcasts ∨ ∃ (record : Record) (contents : Contents),
      after.broadcasts = world.broadcasts ++ [(record, contents)] ∧
        contents.get (stream.metadata.recordKey record.seqNum) = some record.serialise := by
  rcases ActorPhase.handle_begins stream command with ⟨phase, code, begins⟩
  rw [code] at cut
  cases begins with
  | overflow =>
      rw [ActorPhase.code, Program.cut_panic] at cut
      exact .inl (congrArg ActorWorld.broadcasts cut)
  | append draws =>
      rename_i data replyTx block allocator
      rcases Program.cut_call.mp cut with rfl | ⟨answer, middle, ⟨stores, answered, same⟩, rest⟩
      · exact .inl rfl
      have silent : middle.broadcasts = world.broadcasts := by rw [same]
      cases answer with
      | error error => exact .inl ((cut_answer rest).trans silent)
      | ok =>
          rcases answered with rfl
          rcases Program.cut_call.mp rest with rfl | ⟨⟨⟩, announced, rfl, ending⟩
          · exact .inl silent
          · subst same
            refine .inr ⟨⟨stream.nextSeqNum, data⟩, _, cut_answer ending, ?_⟩
            refine (get_appendBatch_record _ stream.metadata _ block _ _).trans (if_pos ?_)
            exact ⟨rfl, rfl⟩
  | read =>
      rcases Program.cut_call.mp cut with rfl | ⟨answer, middle, ⟨stores, answered, same⟩, rest⟩
      · exact .inl rfl
      · have silent : middle.broadcasts = world.broadcasts := by rw [same]
        exact .inl ((cut_answer rest).trans silent)
  | subscribe =>
      rcases Program.cut_call.mp cut with rfl | ⟨receiver, middle, ⟨_, same⟩, rest⟩
      · exact .inl rfl
      · rw [same] at rest
        exact .inl (cut_answer rest)

end Answers

theorem Serves.served {MayFail : StorageOp → Prop} {broadcaster : Nat} {before after : Serving}
    {exchange : Exchange} (serves : Serves MayFail broadcaster before exchange after) :
    Served MayFail before exchange after := by
  cases serves with
  | append allocated executes replied =>
      rcases SequenceAllocator.allocate_eq_some allocated with ⟨rfl, _⟩
      exact executes_append allocated executes replied
  | read executes replied => exact executes_read executes replied
  | @subscribe stream next world after replyTx subscription executes replied =>
      rcases Program.executes_call.mp executes with ⟨receiver, middle, ⟨_, same⟩, rest⟩
      have ending : (ActorPhase.answerCode stream (.subscribe replyTx)
          ⟨receiver, stream.nextSeqNum⟩).Executes (ActorOp.Answers MayFail broadcaster)
          world next after := same ▸ rest
      rcases executes_answer ending with ⟨rfl, rfl⟩
      exact .subscribed rfl rfl

/-- An append whose write fails answers with the error and moves its allocator on. -/
theorem serves_refused {MayFail : StorageOp → Prop} {broadcaster : Nat} {world : ActorWorld}
    {stream : Stream} {block : Option SeqBlock} {allocator : SequenceAllocator}
    (draws : stream.Draws block allocator) (data : Bytes) (replyTx : ReplyId)
    (error : StorageError)
    (mayFail : MayFail (.apply .recordStorage
      (Stream.appendBatch stream.metadata block ⟨stream.nextSeqNum, data⟩))) :
    Serves MayFail broadcaster ⟨stream, world⟩
      (.append stream.nextSeqNum data (.error (.storageError error))
        world.stores.recordStorage world.stores.recordStorage)
      ⟨stream.moved allocator, world.replied .append replyTx (.error (.storageError error))⟩ := by
  have executes : (StreamActor.handle stream (.append data replyTx)).Executes
      (ActorOp.Answers MayFail broadcaster) world (stream.moved allocator)
      (world.replied .append replyTx (.error (.storageError error))) := by
    rw [ActorPhase.handle_append draws]
    apply Program.executes_call.mpr
    refine ⟨.error error, world, ⟨world.stores, ⟨mayFail, rfl⟩, rfl⟩, ?_⟩
    exact Program.executes_call.mpr ⟨(), _, rfl, Program.executes_done.mpr ⟨rfl, rfl⟩⟩
  exact Serves.append draws executes rfl

/-- An append whose write succeeds is broadcast, then acknowledged. -/
theorem serves_written {MayFail : StorageOp → Prop} {broadcaster : Nat} {world : ActorWorld}
    {stream : Stream} {block : Option SeqBlock} {allocator : SequenceAllocator}
    (draws : stream.Draws block allocator) (data : Bytes) (replyTx : ReplyId) :
    ∃ after : ActorWorld,
      Serves MayFail broadcaster ⟨stream, world⟩
        (.append stream.nextSeqNum data
          (.ok ⟨⟨stream.nextSeqNum, data⟩, allocator.nextSequenceNumber⟩)
          world.stores.recordStorage after.stores.recordStorage)
        ⟨stream.moved allocator, after⟩ := by
  let record : Record := ⟨stream.nextSeqNum, data⟩
  let written : ActorWorld :=
    { world with
      stores := world.stores.write (Stream.appendBatch stream.metadata block record)
        .recordStorage }
  have executes : (StreamActor.handle stream (.append data replyTx)).Executes
      (ActorOp.Answers MayFail broadcaster) world (stream.moved allocator)
      ((written.announced record).replied .append replyTx
        (.ok ⟨record, allocator.nextSequenceNumber⟩)) := by
    rw [ActorPhase.handle_append draws]
    apply Program.executes_call.mpr
    refine ⟨.ok (), written, ⟨_, rfl, rfl⟩, ?_⟩
    apply Program.executes_call.mpr
    refine ⟨(), written.announced record, rfl, ?_⟩
    exact Program.executes_call.mpr ⟨(), _, rfl, Program.executes_done.mpr ⟨rfl, rfl⟩⟩
  exact ⟨_, Serves.append draws executes rfl⟩

/-! ## Runs -/

/-- A read finds what the exchanges before it have acknowledged, and below the first
number what was stored there at first; or its lookup fails. -/
def ReadFinds (MayFail : StorageOp → Prop) (stream : Stream) (stores : Stores)
    (earlier : List Exchange) (seqNum : UInt64) (result : Except StreamError (Option Record)) :
    Prop :=
  result = (if seqNum.toNat < stream.nextSeqNum.toNat then
      Stream.readResult (.ok (stores.recordStorage.read (stream.metadata.recordKey seqNum)))
    else .ok (NumberedLog.entry Record.number (earlier.filterMap Exchange.acknowledged)
      seqNum.toNat)) ∨
    MayFail (.get .recordStorage (stream.metadata.recordKey seqNum)) ∧
      ∃ error, result = .error (.storageError error)

/-- What the exchanges of a run leave behind, from stores that have no record of
the stream under its next number or above. -/
structure FailuresHidden (MayFail : StorageOp → Prop) (stream : Stream) (stores : Stores)
    (exchanges : List Exchange) (last : Serving) : Prop where
  metadata : last.stream.metadata = stream.metadata
  valid : last.stream.sequenceNumberAllocator.Valid
  next_le : stream.nextSeqNum.toNat ≤ last.stream.nextSeqNum.toNat
  drawn_range : ∀ number ∈ exchanges.filterMap Exchange.drawn,
    stream.nextSeqNum.toNat ≤ number.toNat ∧ number.toNat < last.stream.nextSeqNum.toNat
  /-- No number is drawn twice, by successful or failed appends. -/
  drawn_ascending : (exchanges.filterMap Exchange.drawn).Pairwise fun left right =>
    left.toNat < right.toNat
  /-- A record is acknowledged under the number that was drawn for it. -/
  acknowledged : ∀ number data ack before after,
    .append number data (.ok ack) before after ∈ exchanges → ack.record = ⟨number, data⟩
  acknowledged_ascending :
    NumberedLog.Ascending Record.number (exchanges.filterMap Exchange.acknowledged)
  /-- A failed append changes nothing in the record store. -/
  unchanged : ∀ number data error before after,
    .append number data (.error error) before after ∈ exchanges → after = before
  /-- The record store holds the acknowledged records and what it held before. -/
  stored : ∀ n, last.world.stores.recordStorage.get (stream.metadata.recordKey n) =
    if n.toNat < stream.nextSeqNum.toNat then
      stores.recordStorage.get (stream.metadata.recordKey n)
    else (NumberedLog.entry Record.number (exchanges.filterMap Exchange.acknowledged)
      n.toNat).map Record.serialise
  broadcast : last.world.broadcasts.map Prod.fst = exchanges.filterMap Exchange.acknowledged
  /-- A broadcast record was in the record store when it was sent. -/
  broadcast_stored : ∀ record contents, (record, contents) ∈ last.world.broadcasts →
    contents.get (stream.metadata.recordKey record.seqNum) = some record.serialise
  reads : ∀ earlier seqNum result later, exchanges = earlier ++ .read seqNum result :: later →
    ReadFinds MayFail stream stores earlier seqNum result

namespace FailuresHidden

variable {MayFail : StorageOp → Prop} {stream : Stream} {stores : Stores}
  {exchanges : List Exchange} {middle : Serving}

theorem begun (valid : stream.sequenceNumberAllocator.Valid)
    (clear : ∀ n : UInt64, stream.nextSeqNum ≤ n →
      stores.recordStorage.get (stream.metadata.recordKey n) = none) :
    FailuresHidden MayFail stream stores [] ⟨stream, .opened stores⟩ where
  metadata := rfl
  valid := valid
  next_le := Nat.le_refl _
  drawn_range _ member := nomatch member
  drawn_ascending := .nil
  acknowledged _ _ _ _ _ member := nomatch member
  acknowledged_ascending := .nil
  unchanged _ _ _ _ _ member := nomatch member
  stored n := by
    by_cases below : n.toNat < stream.nextSeqNum.toNat
    · rw [if_pos below]
      rfl
    · rw [if_neg below]
      exact clear n (UInt64.le_iff_toNat_le.mpr (Nat.le_of_not_lt below))
  broadcast := rfl
  broadcast_stored _ _ member := nomatch member
  reads earlier _ _ _ equal := by cases earlier <;> cases equal

section Step

variable (hidden : FailuresHidden MayFail stream stores exchanges middle)

include hidden

theorem drawn_of_acknowledged {record : Record}
    (member : record ∈ exchanges.filterMap Exchange.acknowledged) :
    record.seqNum ∈ exchanges.filterMap Exchange.drawn := by
  rcases List.mem_filterMap.mp member with ⟨exchange, exchanged, equal⟩
  cases exchange with
  | append number data result before after =>
      cases result with
      | error error => cases equal
      | ok ack =>
          have own := hidden.acknowledged number data ack before after exchanged
          have same : ack.record = record := Option.some.inj equal
          have drew : record.seqNum = number := by rw [← same, own]
          exact List.mem_filterMap.mpr ⟨_, exchanged, congrArg some drew.symm⟩
  | read seqNum result => cases equal
  | subscribe subscription => cases equal

theorem acknowledged_below {record : Record}
    (member : record ∈ exchanges.filterMap Exchange.acknowledged) :
    record.number < middle.stream.nextSeqNum.toNat :=
  (hidden.drawn_range _ (hidden.drawn_of_acknowledged member)).2

/-- The reads of a longer run are the earlier ones, and the last exchange if it is one. -/
theorem reads_snoc {exchange : Exchange}
    (here : ∀ seqNum result, exchange = .read seqNum result →
      ReadFinds MayFail stream stores exchanges seqNum result) :
    ∀ earlier seqNum result later,
      exchanges ++ [exchange] = earlier ++ .read seqNum result :: later →
      ReadFinds MayFail stream stores earlier seqNum result := by
  intro earlier seqNum result later equal
  rcases List.eq_nil_or_concat later with rfl | ⟨rest, final, rfl⟩
  · rcases List.append_inj' equal rfl with ⟨rfl, last⟩
    exact here seqNum result (List.cons.inj last).1
  · rw [List.concat_eq_append, ← List.cons_append, ← List.append_assoc] at equal
    rcases List.append_inj' equal rfl with ⟨shorter, _⟩
    exact hidden.reads earlier seqNum result rest shorter

/-- An exchange that draws no number and leaves stores and broadcasts alone. -/
theorem quiet {exchange : Exchange} {after : ActorWorld} (drawn : exchange.drawn = none)
    (acknowledged : exchange.acknowledged = none) (kept : after.stores = middle.world.stores)
    (silent : after.broadcasts = middle.world.broadcasts)
    (here : ∀ seqNum result, exchange = .read seqNum result →
      result = Stream.readResult (.ok
          (middle.world.stores.recordStorage.read (middle.stream.metadata.recordKey seqNum))) ∨
        MayFail (.get .recordStorage (middle.stream.metadata.recordKey seqNum)) ∧
          ∃ error, result = .error (.storageError error)) :
    FailuresHidden MayFail stream stores (exchanges ++ [exchange]) ⟨middle.stream, after⟩ := by
  have sameDrawn : (exchanges ++ [exchange]).filterMap Exchange.drawn =
      exchanges.filterMap Exchange.drawn := by
    simp [List.filterMap_append, drawn]
  have sameAcknowledged : (exchanges ++ [exchange]).filterMap Exchange.acknowledged =
      exchanges.filterMap Exchange.acknowledged := by
    simp [List.filterMap_append, acknowledged]
  have noAppend {number : UInt64} {data : Bytes} {result : Except StreamError AppendResult}
      {before later : Contents}
      (member : .append number data result before later ∈ exchanges ++ [exchange]) :
      .append number data result before later ∈ exchanges := by
    rcases List.mem_append.mp member with earlier | last
    · exact earlier
    · rw [← List.mem_singleton.mp last] at drawn
      cases drawn
  refine
    { metadata := hidden.metadata
      valid := hidden.valid
      next_le := hidden.next_le
      drawn_range := sameDrawn ▸ hidden.drawn_range
      drawn_ascending := sameDrawn ▸ hidden.drawn_ascending
      acknowledged := fun _ _ _ _ _ member => hidden.acknowledged _ _ _ _ _ (noAppend member)
      acknowledged_ascending := sameAcknowledged ▸ hidden.acknowledged_ascending
      unchanged := fun _ _ _ _ _ member => hidden.unchanged _ _ _ _ _ (noAppend member)
      stored := fun n => ?_
      broadcast := ?_
      broadcast_stored := fun record contents member => ?_
      reads := hidden.reads_snoc fun seqNum result equal => ?_ }
  · simp only [kept, sameAcknowledged]
    exact hidden.stored n
  · simp only [silent, sameAcknowledged]
    exact hidden.broadcast
  · simp only [silent] at member
    exact hidden.broadcast_stored record contents member
  · rcases here seqNum result equal with found | failed
    · left
      have stored := hidden.stored seqNum
      rw [found, hidden.metadata, Contents.read, stored]
      by_cases below : seqNum.toNat < stream.nextSeqNum.toNat
      · rw [if_pos below, if_pos below, Contents.read]
      · rw [if_neg below, if_neg below]
        cases NumberedLog.entry Record.number (exchanges.filterMap Exchange.acknowledged)
            seqNum.toNat with
        | none => rfl
        | some record => simp [Stream.readResult, Record.deserialise_serialise]
    · rw [hidden.metadata] at failed
      exact .inr failed

theorem drawn_range_snoc {exchange : Exchange} {block : Option SeqBlock}
    {allocator : SequenceAllocator} (draws : middle.stream.Draws block allocator)
    (drew : exchange.drawn = some middle.stream.nextSeqNum) :
    ∀ number ∈ (exchanges ++ [exchange]).filterMap Exchange.drawn,
      stream.nextSeqNum.toNat ≤ number.toNat ∧
        number.toNat < (middle.stream.moved allocator).nextSeqNum.toNat := by
  intro number member
  have next_eq : (middle.stream.moved allocator).nextSeqNum.toNat =
      middle.stream.nextSeqNum.toNat + 1 := draws.next_eq
  have next_le := hidden.next_le
  rw [List.filterMap_append] at member
  rcases List.mem_append.mp member with earlier | last
  · have range := hidden.drawn_range number earlier
    omega
  · simp only [List.filterMap_cons, drew, List.filterMap_nil, List.mem_singleton] at last
    subst last
    omega

theorem drawn_ascending_snoc {exchange : Exchange}
    (drew : exchange.drawn = some middle.stream.nextSeqNum) :
    ((exchanges ++ [exchange]).filterMap Exchange.drawn).Pairwise fun left right =>
      left.toNat < right.toNat := by
  rw [List.filterMap_append]
  refine List.pairwise_append.mpr ⟨hidden.drawn_ascending, ?_, ?_⟩
  · simp [drew]
  · intro left leftMember right rightMember
    simp only [List.filterMap_cons, drew, List.filterMap_nil, List.mem_singleton] at rightMember
    subst rightMember
    exact (hidden.drawn_range left leftMember).2

/-- A failed append takes its number with it. -/
theorem refused {data : Bytes} {block : Option SeqBlock} {allocator : SequenceAllocator}
    {error : StorageError} {after : ActorWorld} (draws : middle.stream.Draws block allocator)
    (kept : after.stores = middle.world.stores)
    (silent : after.broadcasts = middle.world.broadcasts) :
    FailuresHidden MayFail stream stores
      (exchanges ++ [.append middle.stream.nextSeqNum data (.error (.storageError error))
        middle.world.stores.recordStorage after.stores.recordStorage])
      ⟨middle.stream.moved allocator, after⟩ := by
  have sameAcknowledged (exchange : Exchange) (none_ : exchange.acknowledged = none) :
      (exchanges ++ [exchange]).filterMap Exchange.acknowledged =
        exchanges.filterMap Exchange.acknowledged := by
    simp [List.filterMap_append, none_]
  have next_eq : (middle.stream.moved allocator).nextSeqNum.toNat =
      middle.stream.nextSeqNum.toNat + 1 := draws.next_eq
  have next_le := hidden.next_le
  refine
    { metadata := hidden.metadata
      valid := draws.allocated.valid hidden.valid hidden.valid.blockSize_pos
      next_le := by simp only; omega
      drawn_range := hidden.drawn_range_snoc draws rfl
      drawn_ascending := hidden.drawn_ascending_snoc rfl
      acknowledged := fun number data ack before later member => ?_
      acknowledged_ascending := ?_
      unchanged := fun number data error before later member => ?_
      stored := fun n => ?_
      broadcast := ?_
      broadcast_stored := fun record contents member => ?_
      reads := hidden.reads_snoc fun seqNum result equal => nomatch equal }
  · rcases List.mem_append.mp member with earlier | last
    · exact hidden.acknowledged number data ack before later earlier
    · cases List.mem_singleton.mp last
  · rw [sameAcknowledged _ rfl]
    exact hidden.acknowledged_ascending
  · rcases List.mem_append.mp member with earlier | last
    · exact hidden.unchanged number data error before later earlier
    · cases List.mem_singleton.mp last
      rw [kept]
  · simp only [kept]
    rw [sameAcknowledged _ rfl]
    exact hidden.stored n
  · simp only [silent]
    rw [sameAcknowledged _ rfl]
    exact hidden.broadcast
  · simp only [silent] at member
    exact hidden.broadcast_stored record contents member

/-- A successful append adds its record to the store, then to the broadcasts. -/
theorem written {data : Bytes} {block : Option SeqBlock} {allocator : SequenceAllocator}
    {after : ActorWorld} (draws : middle.stream.Draws block allocator)
    (stored : after.stores = middle.world.stores.write
      (Stream.appendBatch middle.stream.metadata block ⟨middle.stream.nextSeqNum, data⟩)
        .recordStorage)
    (broadcast : after.broadcasts = middle.world.broadcasts ++
      [(⟨middle.stream.nextSeqNum, data⟩, after.stores.recordStorage)]) :
    FailuresHidden MayFail stream stores
      (exchanges ++ [.append middle.stream.nextSeqNum data
        (.ok ⟨⟨middle.stream.nextSeqNum, data⟩, allocator.nextSequenceNumber⟩)
        middle.world.stores.recordStorage after.stores.recordStorage])
      ⟨middle.stream.moved allocator, after⟩ := by
  let record : Record := ⟨middle.stream.nextSeqNum, data⟩
  have next_eq : (middle.stream.moved allocator).nextSeqNum.toNat =
      middle.stream.nextSeqNum.toNat + 1 := draws.next_eq
  have next_le := hidden.next_le
  have number : record.number = middle.stream.nextSeqNum.toNat := rfl
  have above (other : Record) (member : other ∈ exchanges.filterMap Exchange.acknowledged) :
      other.number < record.number := hidden.acknowledged_below member
  have holds (n : UInt64) : after.stores.recordStorage.get (stream.metadata.recordKey n) =
      if record.seqNum = n then some record.serialise
      else middle.world.stores.recordStorage.get (stream.metadata.recordKey n) := by
    rw [stored, ← hidden.metadata]
    refine (get_appendBatch_record _ _ _ block record n).trans ?_
    simp only [true_and]
  refine
    { metadata := hidden.metadata
      valid := draws.allocated.valid hidden.valid hidden.valid.blockSize_pos
      next_le := by simp only; omega
      drawn_range := hidden.drawn_range_snoc draws rfl
      drawn_ascending := hidden.drawn_ascending_snoc rfl
      acknowledged := fun number data ack before later member => ?_
      acknowledged_ascending := ?_
      unchanged := fun number data error before later member => ?_
      stored := fun n => ?_
      broadcast := ?_
      broadcast_stored := fun other contents member => ?_
      reads := hidden.reads_snoc fun seqNum result equal => nomatch equal }
  · rcases List.mem_append.mp member with earlier | last
    · exact hidden.acknowledged number data ack before later earlier
    · cases List.mem_singleton.mp last
      rfl
  · rw [List.filterMap_append]
    exact hidden.acknowledged_ascending.snoc above
  · rcases List.mem_append.mp member with earlier | last
    · exact hidden.unchanged number data error before later earlier
    · cases List.mem_singleton.mp last
  · have split : (exchanges ++ [Exchange.append middle.stream.nextSeqNum data
          (.ok ⟨⟨middle.stream.nextSeqNum, data⟩, allocator.nextSequenceNumber⟩)
          middle.world.stores.recordStorage after.stores.recordStorage]).filterMap
          Exchange.acknowledged = exchanges.filterMap Exchange.acknowledged ++ [record] := by
      rw [List.filterMap_append]
      rfl
    have sameNumber : record.number = n.toNat ↔ record.seqNum = n := UInt64.toNat_inj
    simp only
    rw [holds, split, NumberedLog.entry_snoc _ above, hidden.stored]
    by_cases same : record.seqNum = n
    · have high : ¬n.toNat < stream.nextSeqNum.toNat := by
        have equal := sameNumber.mpr same
        omega
      rw [if_pos same, if_neg high, if_pos (sameNumber.mpr same)]
      rfl
    · rw [if_neg same, if_neg fun equal => same (sameNumber.mp equal)]
  · simp only
    rw [broadcast, List.map_append, List.filterMap_append, hidden.broadcast]
    rfl
  · simp only at member
    rw [broadcast] at member
    rcases List.mem_append.mp member with earlier | last
    · exact hidden.broadcast_stored other contents earlier
    · cases List.mem_singleton.mp last
      exact (holds _).trans (if_pos rfl)

theorem served {exchange : Exchange} {last : Serving}
    (outcome : Served MayFail middle exchange last) :
    FailuresHidden MayFail stream stores (exchanges ++ [exchange]) last := by
  cases outcome with
  | written draws stored broadcast => exact hidden.written draws stored broadcast
  | refused draws kept silent => exact hidden.refused draws kept silent
  | read found kept silent =>
      refine hidden.quiet rfl rfl kept silent fun seqNum result equal => ?_
      cases equal
      exact found
  | subscribed kept silent => exact hidden.quiet rfl rfl kept silent nofun

end Step

theorem run {broadcaster : Nat} {last : Serving}
    (valid : stream.sequenceNumberAllocator.Valid)
    (clear : ∀ n : UInt64, stream.nextSeqNum ≤ n →
      stores.recordStorage.get (stream.metadata.recordKey n) = none)
    (run : Run (Serves MayFail broadcaster) ⟨stream, .opened stores⟩ exchanges last) :
    FailuresHidden MayFail stream stores exchanges last := by
  induction run with
  | nil => exact begun valid clear
  | snoc _ serves induction => exact induction.served serves.served

section Runs

variable {last : Serving} (hidden : FailuresHidden MayFail stream stores exchanges last)

include hidden

/-- An append is known by the number it has drawn. -/
theorem eq_of_drawn_eq {left right : Exchange} {number : UInt64} (leftMember : left ∈ exchanges)
    (rightMember : right ∈ exchanges) (leftDrew : left.drawn = some number)
    (rightDrew : right.drawn = some number) : left = right := by
  have ascending := List.pairwise_filterMap.mp hidden.drawn_ascending
  clear hidden
  induction exchanges with
  | nil => cases leftMember
  | cons head rest induction =>
      rcases List.pairwise_cons.mp ascending with ⟨first, later⟩
      rcases List.mem_cons.mp leftMember with rfl | leftLater
      · rcases List.mem_cons.mp rightMember with rfl | rightLater
        · rfl
        · exact absurd (first right rightLater number leftDrew number rightDrew)
            (Nat.lt_irrefl _)
      · rcases List.mem_cons.mp rightMember with rfl | rightLater
        · exact absurd (first left leftLater number rightDrew number leftDrew)
            (Nat.lt_irrefl _)
        · exact induction leftLater rightLater later

/-- The number of a failed append is not that of an acknowledged record. -/
theorem failed_not_acknowledged {number : UInt64} {data : Bytes} {error : StreamError}
    {before after : Contents}
    (failed : .append number data (.error error) before after ∈ exchanges) :
    ∀ record ∈ exchanges.filterMap Exchange.acknowledged, record.seqNum ≠ number := by
  intro record member same
  rcases List.mem_filterMap.mp member with ⟨exchange, exchanged, equal⟩
  cases exchange with
  | append other payload result earlier later =>
      cases result with
      | error error => cases equal
      | ok ack =>
          have own := hidden.acknowledged other payload ack earlier later exchanged
          have drew : other = number := by
            rw [← same, ← Option.some.inj equal, own]
          subst drew
          cases hidden.eq_of_drawn_eq exchanged failed rfl rfl
  | read seqNum result => cases equal
  | subscribe subscription => cases equal

/-- A read of a failed append's number never finds a record. -/
theorem failed_not_read {number : UInt64} {data : Bytes} {error : StreamError}
    {before after : Contents}
    (failed : .append number data (.error error) before after ∈ exchanges)
    {result : Except StreamError (Option Record)} (read : .read number result ∈ exchanges)
    (record : Record) : result ≠ .ok (some record) := by
  rcases List.mem_iff_append.mp read with ⟨earlier, later, equal⟩
  have drew : number ∈ exchanges.filterMap Exchange.drawn :=
    List.mem_filterMap.mpr ⟨_, failed, rfl⟩
  have high : ¬number.toNat < stream.nextSeqNum.toNat :=
    Nat.not_lt.mpr (hidden.drawn_range number drew).1
  have absent : NumberedLog.entry Record.number (earlier.filterMap Exchange.acknowledged)
      number.toNat = none := by
    apply NumberedLog.entry_eq_none
    intro other member same
    refine hidden.failed_not_acknowledged failed other ?_ (UInt64.toNat_inj.mp same)
    rw [equal, List.filterMap_append]
    exact List.mem_append_left _ member
  intro found
  rcases hidden.reads earlier number result later equal with shown | ⟨_, storageError, shown⟩
  · rw [if_neg high, absent, found] at shown
    cases shown
  · rw [shown] at found
    cases found

theorem failed_not_broadcast {number : UInt64} {data : Bytes} {error : StreamError}
    {before after : Contents}
    (failed : .append number data (.error error) before after ∈ exchanges)
    {record : Record} {contents : Contents}
    (sent : (record, contents) ∈ last.world.broadcasts) : record.seqNum ≠ number := by
  have member : record ∈ exchanges.filterMap Exchange.acknowledged := by
    rw [← hidden.broadcast]
    exact List.mem_map_of_mem sent
  exact hidden.failed_not_acknowledged failed record member

theorem acknowledged_stored {record : Record}
    (member : record ∈ exchanges.filterMap Exchange.acknowledged) :
    last.world.stores.recordStorage.get (stream.metadata.recordKey record.seqNum) =
      some record.serialise := by
  have high : ¬record.seqNum.toNat < stream.nextSeqNum.toNat :=
    Nat.not_lt.mpr (hidden.drawn_range _ (hidden.drawn_of_acknowledged member)).1
  have found : NumberedLog.entry Record.number (exchanges.filterMap Exchange.acknowledged)
      record.seqNum.toNat = some record :=
    hidden.acknowledged_ascending.entry_of_mem member
  rw [hidden.stored, if_neg high, found]
  rfl

/-- Numbers drawn later are higher. -/
theorem drawn_later {earlier later : List Exchange} {exchange : Exchange} {number other : UInt64}
    (equal : exchanges = earlier ++ exchange :: later) (drew : exchange.drawn = some number)
    (member : other ∈ later.filterMap Exchange.drawn) : number.toNat < other.toNat := by
  have ascending := hidden.drawn_ascending
  rw [equal, List.filterMap_append, List.filterMap_cons_some drew] at ascending
  exact (List.pairwise_cons.mp (List.pairwise_append.mp ascending).2.1).1 other member

end Runs

end FailuresHidden

/-- Failed appends stay hidden for as long as the actor runs: they change no
record, are not broadcast or read, and their numbers are not used again. All that
is broadcast is stored by then, and all that is acknowledged stays readable. -/
theorem StreamActor.failed_appends_hidden {MayFail : StorageOp → Prop} {broadcaster : Nat}
    {stream : Stream} {stores : Stores} {exchanges : List Exchange} {last : Serving}
    (valid : stream.sequenceNumberAllocator.Valid)
    (clear : ∀ n : UInt64, stream.nextSeqNum ≤ n →
      stores.recordStorage.get (stream.metadata.recordKey n) = none)
    (run : Run (Serves MayFail broadcaster) ⟨stream, .opened stores⟩ exchanges last) :
    (∀ number data error before after,
      .append number data (.error error) before after ∈ exchanges →
        after = before ∧
        (∀ record contents, (record, contents) ∈ last.world.broadcasts →
          record.seqNum ≠ number) ∧
        ∀ result, .read number result ∈ exchanges → ∀ record, result ≠ .ok (some record)) ∧
    (∀ earlier number data result before after later,
      exchanges = earlier ++ .append number data result before after :: later →
        ∀ other ∈ later.filterMap Exchange.drawn, number.toNat < other.toNat) ∧
    (∀ command world, (handle last.stream command).Cut
        (ActorOp.Answers MayFail broadcaster) last.world world →
      ∀ record contents, (record, contents) ∈ world.broadcasts →
        contents.get (stream.metadata.recordKey record.seqNum) = some record.serialise) ∧
    (∀ number data ack before after, .append number data (.ok ack) before after ∈ exchanges →
      ack.record = ⟨number, data⟩) ∧
    NumberedLog.Ascending Record.number (exchanges.filterMap Exchange.acknowledged) ∧
    (∀ record ∈ exchanges.filterMap Exchange.acknowledged,
      last.world.stores.recordStorage.get (stream.metadata.recordKey record.seqNum) =
        some record.serialise) ∧
    ∀ earlier seqNum result later, exchanges = earlier ++ .read seqNum result :: later →
      ReadFinds MayFail stream stores earlier seqNum result := by
  have hidden := FailuresHidden.run valid clear run
  refine ⟨fun number data error before after failed => ⟨?_, ?_, ?_⟩, ?_, ?_, hidden.acknowledged,
    hidden.acknowledged_ascending, fun record member => hidden.acknowledged_stored member,
    hidden.reads⟩
  · exact hidden.unchanged number data error before after failed
  · exact fun record contents sent => hidden.failed_not_broadcast failed sent
  · exact fun result read record => hidden.failed_not_read failed read record
  · intro earlier number data result before after later equal other member
    exact hidden.drawn_later equal rfl member
  · intro command world cut record contents sent
    rcases cut_handle cut with same | ⟨latest, latestContents, grown, stored⟩
    · rw [same] at sent
      exact hidden.broadcast_stored record contents sent
    · rw [grown] at sent
      rcases List.mem_append.mp sent with earlier | newest
      · exact hidden.broadcast_stored record contents earlier
      · cases List.mem_singleton.mp newest
        rw [← hidden.metadata]
        exact stored

/-- The first append fails and the second succeeds under the next number. -/
theorem StreamActor.failed_appends_hidden_hole :
    ∃ (contents later : Contents) (last : Serving),
      Run (Serves (fun _ => True) 0)
        ⟨⟨SequenceAllocator.default, ⟨7, 1⟩⟩, .opened ⟨.empty, .empty, [], []⟩⟩
        [.append 0 [3] (.error (.storageError (.storage "unavailable"))) contents contents,
          .append 1 [4] (.ok ⟨⟨1, [4]⟩, 2⟩) contents later] last ∧
      (∀ record sent, (record, sent) ∈ last.world.broadcasts → record.seqNum ≠ 0) ∧
      last.world.stores.recordStorage.get ((⟨7, 1⟩ : StreamMetadata).recordKey 1) =
        some (Record.mk 1 [4]).serialise := by
  let stream : Stream := ⟨SequenceAllocator.default, ⟨7, 1⟩⟩
  let stores : Stores := ⟨.empty, .empty, [], []⟩
  have first : stream.Draws none ⟨1, ⟨0, 4096⟩⟩ := by decide
  have second : (stream.moved ⟨1, ⟨0, 4096⟩⟩).Draws none ⟨2, ⟨0, 4096⟩⟩ := by decide
  have refused : Serves (fun _ => True) 0 ⟨stream, .opened stores⟩ _ _ :=
    serves_refused first [3] 0 (.storage "unavailable") trivial
  rcases serves_written second [4] 1 with ⟨after, written⟩
  have run := Run.snoc (Run.single refused) written
  have valid : stream.sequenceNumberAllocator.Valid := SequenceAllocator.valid_default
  have hidden := StreamActor.failed_appends_hidden valid (fun _ _ => rfl) run
  refine ⟨_, _, _, run, ?_, ?_⟩
  · exact (hidden.1 _ _ _ _ _ (List.mem_cons_self ..)).2.1
  · exact hidden.2.2.2.2.2.1 ⟨1, [4]⟩ (List.mem_filterMap.mpr ⟨_, List.mem_cons_of_mem _
      (List.mem_cons_self ..), rfl⟩)

end Slatestreams
