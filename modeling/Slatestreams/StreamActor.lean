import Slatestreams.StreamLog

/-! # The stream actor

One task owns a loaded stream. Commands reach it through a bounded queue and
are answered over one-shot channels; the records it has appended are broadcast
to subscribers. -/

namespace Slatestreams

open Foundation

def STREAM_COMMAND_BUFFER : Nat := 1024

def STREAM_BROADCAST_BUFFER : Nat := 1024

/-! ## Commands -/

/-- The reply half of a one-shot channel. -/
abbrev ReplyId := Nat

/-- A receiver of one actor's broadcasts: how many of them it is past. -/
structure Receiver where
  broadcaster : Nat
  position : Nat
  deriving DecidableEq, Repr

structure Subscription where
  receiver : Receiver
  nextSeqNum : UInt64
  deriving DecidableEq, Repr

inductive ReplyKind where
  | append
  | read
  | subscribe
  deriving DecidableEq, Repr

/-- What is sent over a one-shot channel. -/
@[reducible] def ReplyKind.Value : ReplyKind → Type
  | .append => Except StreamError AppendResult
  | .read => Except StreamError (Option Record)
  | .subscribe => Subscription

inductive StreamCommand where
  | append (data : Bytes) (replyTx : ReplyId)
  | read (seqNum : UInt64) (replyTx : ReplyId)
  | subscribe (replyTx : ReplyId)
  deriving DecidableEq, Repr

@[reducible] def StreamCommand.kind : StreamCommand → ReplyKind
  | .append _ _ => .append
  | .read _ _ => .read
  | .subscribe _ => .subscribe

def StreamCommand.replyTx : StreamCommand → ReplyId
  | .append _ replyTx => replyTx
  | .read _ replyTx => replyTx
  | .subscribe replyTx => replyTx

/-! ## The loop body -/

inductive ActorOp where
  | storage (op : StorageOp)
  | broadcast (record : Record)
  | subscribe
  | reply (kind : ReplyKind) (replyTx : ReplyId) (value : kind.Value)

@[reducible] def ActorOp.Answer : ActorOp → Type
  | .storage op => op.Answer
  | .broadcast _ => Unit
  | .subscribe => Receiver
  | .reply _ _ _ => Unit

@[reducible] def streamActor : Signature := ⟨ActorOp, ActorOp.Answer⟩

def onStorage {α : Type} (program : Program storage α) : Program streamActor α :=
  program.translate fun op => .perform (S := streamActor) (.storage op)

namespace StreamActor

def broadcast (record : Record) : Program streamActor Unit :=
  .perform (S := streamActor) (.broadcast record)

def newReceiver : Program streamActor Receiver :=
  .perform (S := streamActor) .subscribe

def reply (kind : ReplyKind) (replyTx : ReplyId) (value : kind.Value) : Program streamActor Unit :=
  .perform (S := streamActor) (.reply kind replyTx value)

/-- What `run` does with one received command, up to its next receive. -/
def handle (stream : Stream) : StreamCommand → Program streamActor Stream
  | .append data replyTx => do
      let (result, stream) ← onStorage (stream.append data)
      if let .ok result := result then
        broadcast result.record
      reply .append replyTx result
      return stream
  | .read seqNum replyTx => do
      reply .read replyTx (← onStorage (stream.read seqNum))
      return stream
  | .subscribe replyTx => do
      let receiver ← newReceiver
      reply .subscribe replyTx { receiver, nextSeqNum := stream.nextSeqNum }
      return stream

end StreamActor

/-! ## Steps of the task -/

/-- The task between two calls. It waits for a command once `code` is done and
has ended once `code` is a panic. `sent` is the history of its broadcasts and
`taken` that of the commands it has received. -/
structure StreamActor where
  broadcaster : Nat
  code : Program streamActor Stream
  queue : List StreamCommand
  sent : List Record
  taken : List StreamCommand

def StreamActor.running (actor : StreamActor) : Bool :=
  match actor.code with
  | .panic _ => false
  | _ => true

inductive RecvError where
  | lagged
  | closed
  deriving DecidableEq, Repr

/-- The next broadcast after the receiver, or why there is none. A receiver that
has too many records unread skips to the oldest one still kept. -/
def StreamActor.recv (actor : StreamActor) (receiver : Receiver) :
    Option (Except RecvError Record × Receiver) :=
  if receiver.position + STREAM_BROADCAST_BUFFER < actor.sent.length then
    some (.error .lagged, { receiver with position := actor.sent.length - STREAM_BROADCAST_BUFFER })
  else
    match actor.sent[receiver.position]? with
    | some record => some (.ok record, { receiver with position := receiver.position + 1 })
    | none => if actor.running then none else some (.error .closed, receiver)

/-- A spawned actor waits for its first command. -/
def StreamActor.spawn (broadcaster : Nat) (stream : Stream) : StreamActor :=
  ⟨broadcaster, .done stream, [], [], []⟩

/-- What the other tasks see of a step. -/
inductive ActorEffect where
  | silent
  | replied (kind : ReplyKind) (replyTx : ReplyId) (value : kind.Value)

inductive ActorStep (MayFail : StorageOp → Prop) :
    Stores → StreamActor → ActorEffect → Stores → StreamActor → Prop
  | recv {stores : Stores} {actor : StreamActor} {stream : Stream} {command : StreamCommand}
      {queue : List StreamCommand} :
      actor.code = .done stream → actor.queue = command :: queue →
      ActorStep MayFail stores actor .silent stores
        { actor with
          code := StreamActor.handle stream command
          queue := queue
          taken := actor.taken ++ [command] }
  | storage {stores after : Stores} {actor : StreamActor} {op : StorageOp} {answer : op.Answer}
      {next : op.Answer → Program streamActor Stream} :
      actor.code = .call (S := streamActor) (.storage op) next →
      op.Answers MayFail stores answer after →
      ActorStep MayFail stores actor .silent after { actor with code := next answer }
  | broadcast {stores : Stores} {actor : StreamActor} {record : Record}
      {next : Unit → Program streamActor Stream} :
      actor.code = .call (S := streamActor) (.broadcast record) next →
      ActorStep MayFail stores actor .silent stores
        { actor with code := next (), sent := actor.sent ++ [record] }
  | subscribe {stores : Stores} {actor : StreamActor}
      {next : Receiver → Program streamActor Stream} :
      actor.code = .call (S := streamActor) .subscribe next →
      ActorStep MayFail stores actor .silent stores
        { actor with code := next ⟨actor.broadcaster, actor.sent.length⟩ }
  | reply {stores : Stores} {actor : StreamActor} {kind : ReplyKind} {replyTx : ReplyId}
      {value : kind.Value} {next : Unit → Program streamActor Stream} :
      actor.code = .call (S := streamActor) (.reply kind replyTx value) next →
      ActorStep MayFail stores actor (.replied kind replyTx value) stores
        { actor with code := next () }

/-! ## Where the loop body stands -/

/-- The points between two calls of the loop body, with what it holds there. -/
inductive ActorPhase where
  | waiting (stream : Stream)
  | storing (stream : Stream) (data : Bytes) (replyTx : ReplyId) (block : Option SeqBlock)
      (after : SequenceAllocator)
  | announcing (stream : Stream) (data : Bytes) (replyTx : ReplyId) (ack : AppendResult)
  | fetching (stream : Stream) (seqNum : UInt64) (replyTx : ReplyId)
  | subscribing (stream : Stream) (replyTx : ReplyId)
  | answering (stream : Stream) (command : StreamCommand) (value : command.kind.Value)
  | panicked (message : String)

namespace ActorPhase

def answerCode (stream : Stream) (command : StreamCommand) (value : command.kind.Value) :
    Program streamActor Stream :=
  .call (S := streamActor) (.reply command.kind command.replyTx value) fun _ => .done stream

def announceCode (stream : Stream) (data : Bytes) (replyTx : ReplyId) (ack : AppendResult) :
    Program streamActor Stream :=
  .call (S := streamActor) (.broadcast ack.record) fun _ =>
    answerCode stream (.append data replyTx) (.ok ack)

def storedCode (stream : Stream) (data : Bytes) (replyTx : ReplyId) (after : SequenceAllocator) :
    Except StorageError Unit → Program streamActor Stream
  | .ok () =>
      announceCode (stream.moved after) data replyTx
        ⟨⟨stream.nextSeqNum, data⟩, after.nextSequenceNumber⟩
  | .error error =>
      answerCode (stream.moved after) (.append data replyTx) (.error (.storageError error))

/-- What is left of the loop body. -/
def code : ActorPhase → Program streamActor Stream
  | waiting stream => .done stream
  | storing stream data replyTx block after =>
      .call (S := streamActor)
        (.storage (.apply .recordStorage
          (Stream.appendBatch stream.metadata block ⟨stream.nextSeqNum, data⟩)))
        (storedCode stream data replyTx after)
  | announcing stream data replyTx ack => announceCode stream data replyTx ack
  | fetching stream seqNum replyTx =>
      .call (S := streamActor) (.storage (.get .recordStorage (stream.metadata.recordKey seqNum)))
        fun answer => answerCode stream (.read seqNum replyTx) (Stream.readResult answer)
  | subscribing stream replyTx =>
      .call (S := streamActor) .subscribe fun receiver =>
        answerCode stream (.subscribe replyTx) ⟨receiver, stream.nextSeqNum⟩
  | answering stream command value => answerCode stream command value
  | panicked message => .panic message

/-- The command in hand. -/
def command : ActorPhase → Option StreamCommand
  | waiting _ | panicked _ => none
  | storing _ data replyTx _ _ | announcing _ data replyTx _ => some (.append data replyTx)
  | fetching _ seqNum replyTx => some (.read seqNum replyTx)
  | subscribing _ replyTx => some (.subscribe replyTx)
  | answering _ command _ => some command

/-- The phase a command starts in. -/
inductive Begins (stream : Stream) : StreamCommand → ActorPhase → Prop where
  | append {data : Bytes} {replyTx : ReplyId} {block : Option SeqBlock}
      {after : SequenceAllocator} :
      stream.Draws block after →
      Begins stream (.append data replyTx) (storing stream data replyTx block after)
  | overflow {data : Bytes} {replyTx : ReplyId} {message : String} :
      Begins stream (.append data replyTx) (panicked message)
  | read {seqNum : UInt64} {replyTx : ReplyId} :
      Begins stream (.read seqNum replyTx) (fetching stream seqNum replyTx)
  | subscribe {replyTx : ReplyId} :
      Begins stream (.subscribe replyTx) (subscribing stream replyTx)

theorem handle_append {stream : Stream} {block : Option SeqBlock} {after : SequenceAllocator}
    (draws : stream.Draws block after) (data : Bytes) (replyTx : ReplyId) :
    StreamActor.handle stream (.append data replyTx) =
      code (storing stream data replyTx block after) := by
  rw [StreamActor.handle, Stream.append_eq draws]
  change Program.call _ _ = Program.call _ _
  congr 1
  funext answer
  cases answer <;> rfl

theorem handle_read (stream : Stream) (seqNum : UInt64) (replyTx : ReplyId) :
    StreamActor.handle stream (.read seqNum replyTx) = code (fetching stream seqNum replyTx) := by
  rw [StreamActor.handle, Stream.read_eq]
  rfl

theorem handle_begins (stream : Stream) (command : StreamCommand) :
    ∃ phase, StreamActor.handle stream command = code phase ∧ Begins stream command phase := by
  cases command with
  | append data replyTx =>
      rcases stream.append_cases data with ⟨message, panics⟩ | ⟨block, after, draws⟩
      · exact ⟨panicked message, by simp [StreamActor.handle, panics, onStorage, code], .overflow⟩
      · exact ⟨storing stream data replyTx block after, handle_append draws data replyTx,
          .append draws⟩
  | read seqNum replyTx =>
      exact ⟨fetching stream seqNum replyTx, handle_read stream seqNum replyTx, .read⟩
  | subscribe replyTx => exact ⟨subscribing stream replyTx, rfl, .subscribe⟩

end ActorPhase

end Slatestreams
