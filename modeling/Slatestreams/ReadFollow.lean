import Slatestreams.Foundation.Run
import Slatestreams.StreamActorLog
import Slatestreams.StreamController

/-! # One stream, its actor and a following reader

The steps of the actor, of a `read_follow` session and of its client, in any
order and among commands that any number of other clients put into the actor's
queue. The server may crash, after which the stream is loaded again and the
client may connect again. -/

namespace Slatestreams

open Foundation

/-- What has been sent over the one-shot channels. -/
abbrev Replies := ReplyId → Option (Sigma ReplyKind.Value)

def ActorEffect.deliver (replies : Replies) : ActorEffect → Replies
  | .silent => replies
  | .replied kind replyTx value => fun id => if id = replyTx then some ⟨kind, value⟩ else replies id

theorem ActorEffect.deliver_replied (replies : Replies) (kind : ReplyKind) (replyTx : ReplyId)
    (value : kind.Value) (id : ReplyId) :
    (replied kind replyTx value).deliver replies id =
      if id = replyTx then some ⟨kind, value⟩ else replies id := rfl

/-- A session is first the request for it, then the task that request leaves behind. -/
inductive SessionCode where
  | requesting (code : Program server (Except ControllerError Nat))
  | following (follower : Follower) (code : Program server (Option Receiver))

/-- `channel` is what the task has sent and the client has not received. -/
structure Session where
  startSeqNum : UInt64
  code : SessionCode
  channel : List (Except ControllerError Record)
  connected : Bool

/-- `received` is all that the client has received, over all its sessions. There
is no actor while the server is down. -/
structure FollowState where
  stores : Stores
  actor : Option StreamActor
  replies : Replies
  nextReply : ReplyId
  session : Option Session
  received : List (Except ControllerError Record)

inductive FollowEvent where
  | actor
  | request (command : ReplyId → StreamCommand)
  | session
  | receive
  | connect (startSeqNum : UInt64)
  | disconnect
  | crash
  | load

/-! ## Steps -/

def FollowState.enqueue (state : FollowState) (actor : StreamActor)
    (command : ReplyId → StreamCommand) : FollowState :=
  { state with
    actor := some { actor with queue := actor.queue ++ [command state.nextReply] }
    nextReply := state.nextReply + 1 }

def FollowState.put (state : FollowState) (session : Session)
    (item : Except ControllerError Record) : FollowState :=
  { state with session := some { session with channel := session.channel ++ [item] } }

/-- The answers a session can get. A send waits while a queue is full, a receive
while there is nothing to receive. -/
def FollowState.Answers (state : FollowState) (actor : StreamActor) (session : Session) :
    (op : ServerOp) → op.Answer → FollowState → Prop
  | .send _ command, some replyRx, after =>
      actor.running ∧ actor.queue.length < STREAM_COMMAND_BUFFER ∧ replyRx = state.nextReply ∧
        after = state.enqueue actor command
  | .send _ _, none, after => actor.running = false ∧ after = state
  | .receive kind replyRx, some value, after =>
      state.replies replyRx = some ⟨kind, value⟩ ∧ after = state
  | .receive _ replyRx, none, after =>
      actor.running = false ∧ state.replies replyRx = none ∧ after = state
  | .txSend _ item, .ok (), after =>
      session.connected ∧ session.channel.length < STREAM_COMMAND_BUFFER ∧
        after = state.put session item
  | .txSend _ _, .error (), after => session.connected = false ∧ after = state
  | .recv receiver, answer, after => actor.recv receiver = some answer ∧ after = state
  | _, _, _ => False

def FollowState.withCode (state : FollowState) (code : SessionCode) : FollowState :=
  { state with session := state.session.map fun session => { session with code } }

inductive FollowStep (MayFail : StorageOp → Prop) (basinId : U128) (streamName : String) :
    FollowState → FollowEvent → FollowState → Prop
  | actor {state : FollowState} {actor next : StreamActor} {effect : ActorEffect}
      {after : Stores} :
      state.actor = some actor → ActorStep MayFail state.stores actor effect after next →
      FollowStep MayFail basinId streamName state .actor
        { state with
          stores := after
          actor := some next
          replies := effect.deliver state.replies }
  | request {state : FollowState} {actor : StreamActor} (command : ReplyId → StreamCommand) :
      state.actor = some actor → actor.running →
      actor.queue.length < STREAM_COMMAND_BUFFER → (∀ id, (command id).replyTx = id) →
      FollowStep MayFail basinId streamName state (.request command)
        (state.enqueue actor command)
  | requests {state after : FollowState} {actor : StreamActor} {session : Session}
      {op : ServerOp} {answer : op.Answer}
      {next : op.Answer → Program server (Except ControllerError Nat)} :
      state.actor = some actor → state.session = some session →
      session.code = .requesting (.call (S := server) op next) →
      state.Answers actor session op answer after →
      FollowStep MayFail basinId streamName state .session
        (after.withCode (.requesting (next answer)))
  | spawns {state : FollowState} {session : Session} {follower : Follower}
      {next : Nat → Program server (Except ControllerError Nat)} :
      state.session = some session →
      session.code = .requesting (.call (S := server) (.spawnFollower follower) next) →
      FollowStep MayFail basinId streamName state .session
        (state.withCode (.following follower (follower.start 0)))
  | follows {state after : FollowState} {actor : StreamActor} {session : Session}
      {follower : Follower} {op : ServerOp} {answer : op.Answer}
      {next : op.Answer → Program server (Option Receiver)} :
      state.actor = some actor → state.session = some session →
      session.code = .following follower (.call (S := server) op next) →
      state.Answers actor session op answer after →
      FollowStep MayFail basinId streamName state .session
        (after.withCode (.following follower (next answer)))
  | turns {state : FollowState} {session : Session} {follower : Follower} {receiver : Receiver} :
      state.session = some session →
      session.code = .following follower (.done (some receiver)) →
      FollowStep MayFail basinId streamName state .session
        (state.withCode (.following follower (follower.live 0 receiver)))
  | receive {state : FollowState} {session : Session} {item : Except ControllerError Record}
      {channel : List (Except ControllerError Record)} :
      state.session = some session → session.connected → session.channel = item :: channel →
      FollowStep MayFail basinId streamName state .receive
        { state with
          session := some { session with channel }
          received := state.received ++ [item] }
  | connect {state : FollowState} {actor : StreamActor} {stream : StreamHandle}
      {startSeqNum : UInt64} :
      state.actor = some actor → (∀ session, state.session = some session → ¬session.connected) →
      FollowStep MayFail basinId streamName state (.connect startSeqNum)
        { state with
          session := some
            ⟨startSeqNum,
              .requesting (StreamController.followStream stream startSeqNum).run, [], true⟩ }
  | disconnect {state : FollowState} {session : Session} :
      state.session = some session →
      FollowStep MayFail basinId streamName state .disconnect
        { state with session := some { session with channel := [], connected := false } }
  | crash {state : FollowState} :
      FollowStep MayFail basinId streamName state .crash
        { state with actor := none, session := none, replies := fun _ => none }
  | load {state : FollowState} {stream : Stream} {after : Stores} :
      state.actor = none →
      (Stream.load basinId streamName).run.Executes (StorageOp.Answers MayFail) state.stores
        (.ok stream) after →
      FollowStep MayFail basinId streamName state .load
        { state with stores := after, actor := some (.spawn 0 stream) }

/-- The events of one session in one process lifetime, after it has begun. -/
def FollowEvent.WithinSession : FollowEvent → Prop
  | .connect _ | .crash | .load => False
  | _ => True

/-- A stream just handed to its actor, without a session. -/
def FollowState.spawned (stores : Stores) (stream : Stream) : FollowState :=
  ⟨stores, some (.spawn 0 stream), fun _ => none, 0, none, []⟩

/-- Nothing is under way: the actor waits for a command, the task for a
broadcast and the client for a record. -/
def FollowState.Drained (state : FollowState) : Prop :=
  ∃ actor stream session follower receiver next,
    state.actor = some actor ∧ actor.code = .done stream ∧
    state.session = some session ∧ session.connected ∧ session.channel = [] ∧
    session.code = .following follower (.call (S := server) (.recv receiver) next) ∧
    actor.recv receiver = none

/-! ## Where a session stands -/

/-- The points between two calls of a session. In the first three it is still
the request; `asking`, `fetching` and `sending` are in the loop over the numbers
before the subscription, with `count` of them to come after `seqNum`. -/
inductive SessionPhase where
  | subscribing (stream : StreamHandle) (startSeqNum : UInt64)
  | awaiting (stream : StreamHandle) (startSeqNum : UInt64) (replyRx : ReplyId)
  | spawning (follower : Follower)
  | returned (result : Except ControllerError Nat)
  | asking (follower : Follower) (seqNum : UInt64) (count : Nat)
  | fetching (follower : Follower) (seqNum : UInt64) (count : Nat) (replyRx : ReplyId)
  | sending (follower : Follower) (seqNum : UInt64) (count : Nat) (record : Record)
  | turning (follower : Follower) (receiver : Receiver)
  | receiving (follower : Follower) (receiver : Receiver)
  | forwarding (follower : Follower) (receiver : Receiver) (record : Record)
  | failing (follower : Follower) (error : ControllerError)
  | ended (follower : Follower)

namespace SessionPhase

def spawnCode (follower : Follower) : Program server (Except ControllerError Nat) :=
  .call (S := server) (.spawnFollower follower) fun tx => .done (.ok tx)

def awaitCode (stream : StreamHandle) (startSeqNum : UInt64) (replyRx : ReplyId) :
    Program server (Except ControllerError Nat) :=
  .call (S := server) (.receive .subscribe replyRx) fun
    | none => .done (.error (.internal "stream actor dropped subscribe reply"))
    | some subscription => spawnCode ⟨stream, startSeqNum, subscription⟩

def subscribeCode (stream : StreamHandle) (startSeqNum : UInt64) :
    Program server (Except ControllerError Nat) :=
  .call (S := server) (.send stream .subscribe) fun
    | none => .done (.error (.internal "stream actor stopped"))
    | some replyRx => awaitCode stream startSeqNum replyRx

def failCode (error : ControllerError) : Program server (Option Receiver) :=
  .call (S := server) (.txSend 0 (.error error)) fun _ => .done none

def sendCode (follower : Follower) (seqNum : UInt64) (count : Nat) (record : Record) :
    Program server (Option Receiver) :=
  .call (S := server) (.txSend 0 (.ok record)) fun
    | .ok () => follower.backfill 0 (seqNum + 1) count
    | .error () => .done none

def fetchCode (follower : Follower) (seqNum : UInt64) (count : Nat) (replyRx : ReplyId) :
    Program server (Option Receiver) :=
  .call (S := server) (.receive .read replyRx) fun
    | none => failCode (.internal "stream actor dropped read reply")
    | some (.error error) => failCode (.stream error)
    | some (.ok none) => follower.backfill 0 (seqNum + 1) count
    | some (.ok (some record)) => sendCode follower seqNum count record

def askCode (follower : Follower) (seqNum : UInt64) (count : Nat) :
    Program server (Option Receiver) :=
  .call (S := server) (.send follower.readStream (.read seqNum)) fun
    | none => failCode (.internal "stream actor stopped")
    | some replyRx => fetchCode follower seqNum count replyRx

def forwardCode (receiver : Receiver) (record : Record) : Program server (Option Receiver) :=
  .call (S := server) (.txSend 0 (.ok record)) fun
    | .ok () => .done (some receiver)
    | .error () => .done none

def receivedCode (follower : Follower) :
    Except RecvError Record × Receiver → Program server (Option Receiver)
  | (.ok record, receiver) =>
      if follower.subscription.nextSeqNum ≤ record.seqNum then forwardCode receiver record
      else .done (some receiver)
  | (.error .lagged, _) => failCode .readerLagged
  | (.error .closed, _) => .done none

def receiveCode (follower : Follower) (receiver : Receiver) : Program server (Option Receiver) :=
  .call (S := server) (.recv receiver) (receivedCode follower)

/-- What is left of the request, or of the task's current turn. -/
def code : SessionPhase → SessionCode
  | subscribing stream startSeqNum => .requesting (subscribeCode stream startSeqNum)
  | awaiting stream startSeqNum replyRx => .requesting (awaitCode stream startSeqNum replyRx)
  | spawning follower => .requesting (spawnCode follower)
  | returned result => .requesting (.done result)
  | asking follower seqNum count => .following follower (askCode follower seqNum count)
  | fetching follower seqNum count replyRx =>
      .following follower (fetchCode follower seqNum count replyRx)
  | sending follower seqNum count record =>
      .following follower (sendCode follower seqNum count record)
  | turning follower receiver => .following follower (.done (some receiver))
  | receiving follower receiver => .following follower (receiveCode follower receiver)
  | forwarding follower receiver record => .following follower (forwardCode receiver record)
  | failing follower error => .following follower (failCode error)
  | ended follower => .following follower (.done none)

theorem followStream_eq (stream : StreamHandle) (startSeqNum : UInt64) :
    (StreamController.followStream stream startSeqNum).run = subscribeCode stream startSeqNum := by
  change Program.call _ _ = Program.call _ _
  congr 1
  funext answer
  cases answer with
  | none => rfl
  | some replyRx =>
      change Program.call _ _ = Program.call _ _
      congr 1
      funext answer
      cases answer <;> rfl

theorem backfill_succ (follower : Follower) (seqNum : UInt64) (count : Nat) :
    follower.backfill 0 seqNum (count + 1) = askCode follower seqNum count := by
  change Program.call _ _ = Program.call _ _
  congr 1
  funext answer
  cases answer with
  | none => rfl
  | some replyRx =>
      change Program.call _ _ = Program.call _ _
      congr 1
      funext answer
      rcases answer with _ | error | _ | record
      · rfl
      · rfl
      · rfl
      · change Program.call _ _ = Program.call _ _
        congr 1
        funext answer
        cases answer <;> rfl

theorem live_eq (follower : Follower) (receiver : Receiver) :
    follower.live 0 receiver = receiveCode follower receiver := by
  change Program.call _ _ = Program.call _ _
  congr 1
  funext answer
  rcases answer with ⟨⟨⟩ | record, receiver⟩
  · rename_i error
    cases error <;> rfl
  · change (if _ then _ else _) = if _ then _ else _
    split
    · change Program.call _ _ = Program.call _ _
      congr 1
      funext answer
      cases answer <;> rfl
    · rfl

theorem code_subscribing (stream : StreamHandle) (startSeqNum : UInt64) :
    (subscribing stream startSeqNum).code =
      .requesting (StreamController.followStream stream startSeqNum).run :=
  congrArg SessionCode.requesting (followStream_eq stream startSeqNum).symm

theorem code_receiving (follower : Follower) (receiver : Receiver) :
    (receiving follower receiver).code = .following follower (follower.live 0 receiver) :=
  congrArg (SessionCode.following follower) (live_eq follower receiver).symm

/-- The phase at the head of the loop over the numbers before the subscription. -/
def backfilling (follower : Follower) (seqNum : UInt64) : Nat → SessionPhase
  | 0 => turning follower follower.subscription.receiver
  | count + 1 => asking follower seqNum count

theorem code_backfilling (follower : Follower) (seqNum : UInt64) (count : Nat) :
    (backfilling follower seqNum count).code =
      .following follower (follower.backfill 0 seqNum count) := by
  cases count with
  | zero => rfl
  | succ count => rw [backfill_succ]; rfl

end SessionPhase

/-! ## Runs that nothing disturbs -/

section Undisturbed

/-- The steps of one session in one process lifetime. -/
def SessionStep (MayFail : StorageOp → Prop) (basinId : U128) (streamName : String)
    (state : FollowState) (event : FollowEvent) (after : FollowState) : Prop :=
  FollowStep MayFail basinId streamName state event after ∧ event.WithinSession

variable {MayFail : StorageOp → Prop} {basinId : U128} {streamName : String}

/-- An actor that waits for a command and has none queued. -/
def StreamActor.idle (stream : Stream) (sent : List Record) (taken : List StreamCommand) :
    StreamActor :=
  ⟨0, .done stream, [], sent, taken⟩

theorem StreamActor.recv_idle {stream : Stream} {sent : List Record}
    {taken : List StreamCommand} (broadcaster : Nat) :
    (StreamActor.idle stream sent taken).recv ⟨broadcaster, sent.length⟩ = none := by
  have kept : ¬sent.length + STREAM_BROADCAST_BUFFER < sent.length := by omega
  have none_left : sent[sent.length]? = none := List.getElem?_eq_none (Nat.le_refl _)
  simp only [StreamActor.recv, StreamActor.idle, if_neg kept, none_left]
  rfl

theorem FollowStep.takes {state : FollowState} {actor : StreamActor} {stream : Stream}
    {command : StreamCommand} {queue : List StreamCommand} {phase : ActorPhase}
    (running : state.actor = some actor) (waits : actor.code = .done stream)
    (queued : actor.queue = command :: queue)
    (handled : StreamActor.handle stream command = phase.code) :
    FollowStep MayFail basinId streamName state .actor
      { state with
        actor := some { actor with
          code := phase.code, queue := queue, taken := actor.taken ++ [command] } } :=
  handled ▸ .actor running (.recv waits queued)

theorem ActorStep.writes {stores : Stores} {actor : StreamActor} {stream : Stream} {data : Bytes}
    {replyTx : ReplyId} {block : Option SeqBlock} {after : SequenceAllocator}
    (stands : actor.code = (ActorPhase.storing stream data replyTx block after).code) :
    ActorStep MayFail stores actor .silent
      (stores.write (Stream.appendBatch stream.metadata block ⟨stream.nextSeqNum, data⟩)
        .recordStorage)
      { actor with code := ActorPhase.storedCode stream data replyTx after (.ok ()) } := by
  have answered : StorageOp.Answers MayFail stores
      (.apply .recordStorage
        (Stream.appendBatch stream.metadata block ⟨stream.nextSeqNum, data⟩)) (.ok ()) _ := rfl
  exact .storage stands answered

theorem ActorStep.fails {stores : Stores} {actor : StreamActor} {stream : Stream} {data : Bytes}
    {replyTx : ReplyId} {block : Option SeqBlock} {after : SequenceAllocator}
    (error : StorageError)
    (mayFail : MayFail (.apply .recordStorage
      (Stream.appendBatch stream.metadata block ⟨stream.nextSeqNum, data⟩)))
    (stands : actor.code = (ActorPhase.storing stream data replyTx block after).code) :
    ActorStep MayFail stores actor .silent stores
      { actor with code := ActorPhase.storedCode stream data replyTx after (.error error) } := by
  have answered : StorageOp.Answers MayFail stores
      (.apply .recordStorage (Stream.appendBatch stream.metadata block ⟨stream.nextSeqNum, data⟩))
      (.error error) stores := ⟨mayFail, rfl⟩
  exact .storage stands answered

theorem ActorStep.finds {stores : Stores} {actor : StreamActor} {stream : Stream}
    {seqNum : UInt64} {replyTx : ReplyId} {found : Option Record}
    (found_eq : Stream.readResult (.ok ((stores.contents .recordStorage).read
      (stream.metadata.recordKey seqNum))) = .ok found)
    (stands : actor.code = (ActorPhase.fetching stream seqNum replyTx).code) :
    ActorStep MayFail stores actor .silent stores
      { actor with code := ActorPhase.answerCode stream (.read seqNum replyTx) (.ok found) } := by
  have answered : StorageOp.Answers MayFail stores
      (.get .recordStorage (stream.metadata.recordKey seqNum)) (.ok _) stores := ⟨rfl, rfl⟩
  rw [← found_eq]
  exact .storage stands answered

/-- The next call of a session and what is left after its answer. -/
inductive SessionCode.Calls : SessionCode → (op : ServerOp) → (op.Answer → SessionCode) → Prop
  | requesting {op : ServerOp} {next : op.Answer → Program server (Except ControllerError Nat)} :
      Calls (.requesting (.call (S := server) op next)) op fun answer => .requesting (next answer)
  | following {op : ServerOp} {follower : Follower}
      {next : op.Answer → Program server (Option Receiver)} :
      Calls (.following follower (.call (S := server) op next)) op
        fun answer => .following follower (next answer)

theorem FollowStep.calls {state after : FollowState} {actor : StreamActor} {session : Session}
    {op : ServerOp} {next : op.Answer → SessionCode} (answer : op.Answer)
    (running : state.actor = some actor) (current : state.session = some session)
    (calls : session.code.Calls op next)
    (answered : state.Answers actor session op answer after) :
    FollowStep MayFail basinId streamName state .session (after.withCode (next answer)) := by
  generalize code_eq : session.code = code at calls
  cases calls with
  | requesting => exact .requests running current code_eq answered
  | following => exact .follows running current code_eq answered

theorem FollowStep.asks {state : FollowState} {actor : StreamActor} {session : Session}
    {handle : StreamHandle} {command : ReplyId → StreamCommand}
    {next : Option ReplyId → SessionCode}
    (running : state.actor = some actor) (current : state.session = some session)
    (calls : session.code.Calls (.send handle command) next)
    (alive : actor.running) (room : actor.queue.length < STREAM_COMMAND_BUFFER) :
    FollowStep MayFail basinId streamName state .session
      ((state.enqueue actor command).withCode (next (some state.nextReply))) := by
  have answered : state.Answers actor session (.send handle command) (some state.nextReply)
      (state.enqueue actor command) := ⟨alive, room, rfl, rfl⟩
  exact .calls _ running current calls answered

theorem FollowStep.hears {state : FollowState} {actor : StreamActor} {session : Session}
    {replyRx : ReplyId} {kind : ReplyKind} {value : kind.Value}
    {next : Option kind.Value → SessionCode}
    (running : state.actor = some actor) (current : state.session = some session)
    (calls : session.code.Calls (.receive kind replyRx) next)
    (sent : state.replies replyRx = some ⟨kind, value⟩) :
    FollowStep MayFail basinId streamName state .session (state.withCode (next (some value))) := by
  have answered : state.Answers actor session (.receive kind replyRx) (some value) state :=
    ⟨sent, rfl⟩
  exact .calls _ running current calls answered

theorem FollowStep.sends {state : FollowState} {actor : StreamActor} {session : Session}
    {tx : Nat} {item : Except ControllerError Record} {next : Except Unit Unit → SessionCode}
    (running : state.actor = some actor) (current : state.session = some session)
    (calls : session.code.Calls (.txSend tx item) next)
    (connected : session.connected) (room : session.channel.length < STREAM_COMMAND_BUFFER) :
    FollowStep MayFail basinId streamName state .session
      ((state.put session item).withCode (next (.ok ()))) := by
  have answered : state.Answers actor session (.txSend tx item) (.ok ())
      (state.put session item) := ⟨connected, room, rfl⟩
  exact .calls _ running current calls answered

variable {stores : Stores} {stream : Stream} {sent : List Record} {taken : List StreamCommand}
  {replies : Replies} {nextReply : ReplyId} {received : List (Except ControllerError Record)}

/-- Another client's append. -/
theorem FollowState.run_append {block : Option SeqBlock} {after : SequenceAllocator}
    {session : Option Session} (draws : stream.Draws block after) (data : Bytes) :
    Run (SessionStep MayFail basinId streamName)
      ⟨stores, some (.idle stream sent taken), replies, nextReply, session, received⟩
      [.request (.append data), .actor, .actor, .actor, .actor]
      ⟨stores.write (Stream.appendBatch stream.metadata block ⟨stream.nextSeqNum, data⟩)
          .recordStorage,
        some (.idle (stream.moved after) (sent ++ [⟨stream.nextSeqNum, data⟩])
          (taken ++ [.append data nextReply])),
        (ActorEffect.replied .append nextReply
          (.ok ⟨⟨stream.nextSeqNum, data⟩, after.nextSequenceNumber⟩)).deliver replies,
        nextReply + 1, session, received⟩ := by
  have run : Run (SessionStep MayFail basinId streamName)
      ⟨stores, some (.idle stream sent taken), replies, nextReply, session, received⟩ _ _ :=
    .snoc (.snoc (.snoc (.snoc (.snoc .nil
      ⟨.request (.append data) rfl rfl (Nat.zero_lt_succ _) (fun _ => rfl), trivial⟩)
      ⟨.takes rfl rfl rfl (ActorPhase.handle_append draws data nextReply), trivial⟩)
      ⟨.actor rfl (.writes rfl), trivial⟩)
      ⟨.actor rfl (.broadcast rfl), trivial⟩)
      ⟨.actor rfl (.reply rfl), trivial⟩
  exact run

/-- Another client's append whose write fails. -/
theorem FollowState.run_appendFails {block : Option SeqBlock} {after : SequenceAllocator}
    {session : Option Session} (draws : stream.Draws block after) (data : Bytes)
    (error : StorageError)
    (mayFail : MayFail (.apply .recordStorage
      (Stream.appendBatch stream.metadata block ⟨stream.nextSeqNum, data⟩))) :
    Run (SessionStep MayFail basinId streamName)
      ⟨stores, some (.idle stream sent taken), replies, nextReply, session, received⟩
      [.request (.append data), .actor, .actor, .actor]
      ⟨stores, some (.idle (stream.moved after) sent (taken ++ [.append data nextReply])),
        (ActorEffect.replied .append nextReply (.error (.storageError error))).deliver replies,
        nextReply + 1, session, received⟩ := by
  have run : Run (SessionStep MayFail basinId streamName)
      ⟨stores, some (.idle stream sent taken), replies, nextReply, session, received⟩ _ _ :=
    .snoc (.snoc (.snoc (.snoc .nil
      ⟨.request (.append data) rfl rfl (Nat.zero_lt_succ _) (fun _ => rfl), trivial⟩)
      ⟨.takes rfl rfl rfl (ActorPhase.handle_append draws data nextReply), trivial⟩)
      ⟨.actor rfl (.fails error mayFail rfl), trivial⟩)
      ⟨.actor rfl (.reply rfl), trivial⟩
  exact run

theorem FollowStep.connected {actor : StreamActor} (handle : StreamHandle)
    (startSeqNum : UInt64) :
    FollowStep MayFail basinId streamName ⟨stores, some actor, replies, nextReply, none, received⟩
      (.connect startSeqNum)
      ⟨stores, some actor, replies, nextReply,
        some ⟨startSeqNum, (SessionPhase.subscribing handle startSeqNum).code, [], true⟩,
        received⟩ := by
  rw [SessionPhase.code_subscribing]
  exact .connect rfl fun _ current => nomatch current

/-- The request for a session, up to its subscription. -/
theorem FollowState.run_subscribe {handle : StreamHandle} {startSeqNum : UInt64} :
    Run (SessionStep MayFail basinId streamName)
      ⟨stores, some (.idle stream sent taken), replies, nextReply,
        some ⟨startSeqNum, (SessionPhase.subscribing handle startSeqNum).code, [], true⟩, received⟩
      [.session, .actor, .actor, .actor, .session]
      ⟨stores, some (.idle stream sent (taken ++ [.subscribe nextReply])),
        (ActorEffect.replied .subscribe nextReply
          ⟨⟨0, sent.length⟩, stream.nextSeqNum⟩).deliver replies, nextReply + 1,
        some ⟨startSeqNum, (SessionPhase.spawning
          ⟨handle, startSeqNum, ⟨⟨0, sent.length⟩, stream.nextSeqNum⟩⟩).code, [], true⟩,
        received⟩ := by
  have begins : StreamActor.handle stream (.subscribe nextReply) =
      (ActorPhase.subscribing stream nextReply).code := rfl
  have run : Run (SessionStep MayFail basinId streamName)
      ⟨stores, some (.idle stream sent taken), replies, nextReply,
        some ⟨startSeqNum, (SessionPhase.subscribing handle startSeqNum).code, [], true⟩,
        received⟩ _ _ :=
    .snoc (.snoc (.snoc (.snoc (.snoc .nil
      ⟨.asks rfl rfl .requesting rfl (Nat.zero_lt_succ _), trivial⟩)
      ⟨.takes rfl rfl rfl begins, trivial⟩)
      ⟨.actor rfl (.subscribe rfl), trivial⟩)
      ⟨.actor rfl (.reply rfl), trivial⟩)
      ⟨.hears rfl rfl .requesting (if_pos rfl), trivial⟩
  exact run

/-- A number is read, and the record it has, if any, reaches the client. -/
theorem FollowState.run_read {follower : Follower} {startSeqNum seqNum : UInt64} {count : Nat}
    {found : Option Record}
    (found_eq : Stream.readResult (.ok ((stores.contents .recordStorage).read
      (stream.metadata.recordKey seqNum))) = .ok found) :
    ∃ events,
      Run (SessionStep MayFail basinId streamName)
        ⟨stores, some (.idle stream sent taken), replies, nextReply,
          some ⟨startSeqNum, (SessionPhase.asking follower seqNum count).code, [], true⟩, received⟩
        events
        ⟨stores, some (.idle stream sent (taken ++ [.read seqNum nextReply])),
          (ActorEffect.replied .read nextReply (.ok found)).deliver replies, nextReply + 1,
          some ⟨startSeqNum, (SessionPhase.backfilling follower (seqNum + 1) count).code, [],
            true⟩, received ++ found.toList.map .ok⟩ := by
  have begins := ActorPhase.handle_read stream seqNum nextReply
  have replied : (ActorEffect.replied .read nextReply (.ok found)).deliver replies nextReply =
      some ⟨.read, .ok found⟩ := if_pos rfl
  have asked : Run (SessionStep MayFail basinId streamName)
      ⟨stores, some (.idle stream sent taken), replies, nextReply,
        some ⟨startSeqNum, (SessionPhase.asking follower seqNum count).code, [], true⟩, received⟩
      _ _ :=
    .snoc (.snoc (.snoc (.snoc (.single
      ⟨.asks rfl rfl .following rfl (Nat.zero_lt_succ _), trivial⟩)
      ⟨.takes rfl rfl rfl begins, trivial⟩)
      ⟨.actor rfl (.finds found_eq rfl), trivial⟩)
      ⟨.actor rfl (.reply rfl), trivial⟩)
      ⟨.hears rfl rfl .following replied, trivial⟩
  rw [SessionPhase.code_backfilling]
  cases found with
  | none =>
      rw [Option.toList_none, List.map_nil, List.append_nil]
      exact ⟨_, asked⟩
  | some record =>
      have received : Run (SessionStep MayFail basinId streamName) _ _ _ := .snoc (.snoc asked
        ⟨.sends rfl rfl .following rfl (Nat.zero_lt_succ _), trivial⟩)
        ⟨.receive rfl rfl rfl, trivial⟩
      exact ⟨_, received⟩

theorem FollowState.run_spawn {actor : Option StreamActor} {follower : Follower}
    {startSeqNum : UInt64} {channel : List (Except ControllerError Record)} {count : Nat}
    (left : follower.subscription.nextSeqNum.toNat - follower.startSeqNum.toNat = count) :
    Run (SessionStep MayFail basinId streamName)
      ⟨stores, actor, replies, nextReply,
        some ⟨startSeqNum, (SessionPhase.spawning follower).code, channel, true⟩, received⟩
      [.session]
      ⟨stores, actor, replies, nextReply,
        some ⟨startSeqNum, (SessionPhase.backfilling follower follower.startSeqNum count).code,
          channel, true⟩, received⟩ := by
  rw [SessionPhase.code_backfilling, ← left]
  exact .single ⟨.spawns rfl rfl, trivial⟩

theorem FollowState.run_turn {actor : Option StreamActor} {follower : Follower}
    {receiver : Receiver} {startSeqNum : UInt64} {channel : List (Except ControllerError Record)} :
    Run (SessionStep MayFail basinId streamName)
      ⟨stores, actor, replies, nextReply,
        some ⟨startSeqNum, (SessionPhase.turning follower receiver).code, channel, true⟩, received⟩
      [.session]
      ⟨stores, actor, replies, nextReply,
        some ⟨startSeqNum, (SessionPhase.receiving follower receiver).code, channel, true⟩,
        received⟩ := by
  rw [SessionPhase.code_receiving]
  exact .single ⟨.turns rfl rfl, trivial⟩

/-- The loop over the numbers before the subscription delivers what is stored there. -/
theorem FollowState.run_backfill {follower : Follower} {startSeqNum seqNum : UInt64}
    {count : Nat} {log : List Record}
    (ascending : NumberedLog.Ascending Record.number log)
    (stored : StoresLog stores.recordStorage stream.metadata log)
    (below : ∀ record ∈ log, record.number < seqNum.toNat + count)
    (bounded : seqNum.toNat + count < 2 ^ 64) :
    ∃ events nextTaken nextReplies laterReply,
      Run (SessionStep MayFail basinId streamName)
        ⟨stores, some (.idle stream sent taken), replies, nextReply,
          some ⟨startSeqNum, (SessionPhase.backfilling follower seqNum count).code, [], true⟩,
          received⟩ events
        ⟨stores, some (.idle stream sent nextTaken), nextReplies, laterReply,
          some ⟨startSeqNum, (SessionPhase.turning follower
            follower.subscription.receiver).code, [], true⟩,
          received ++ (NumberedLog.since Record.number log seqNum.toNat).map .ok⟩ := by
  induction count generalizing seqNum taken replies nextReply received with
  | zero =>
      have nothing : NumberedLog.since Record.number log seqNum.toNat = [] :=
        NumberedLog.since_eq_nil below
      rw [nothing, List.map_nil, List.append_nil]
      exact ⟨_, _, _, _, .nil⟩
  | succ count induction =>
      have next : (seqNum + 1).toNat = seqNum.toNat + 1 := by
        rw [UInt64.toNat_add, UInt64.toNat_one]
        omega
      have same : (seqNum + 1).toNat + count = seqNum.toNat + (count + 1) := by omega
      rw [ascending.since_succ, List.map_append, ← List.append_assoc, ← next]
      rcases run_read (Stream.readResult_get stored seqNum) with ⟨events, reads⟩
      rcases induction (same ▸ below) (same ▸ bounded) with
        ⟨later, nextTaken, nextReplies, laterReply, rest⟩
      exact ⟨_, nextTaken, nextReplies, laterReply, reads.trans rest⟩

/-- A session that nothing disturbs delivers the log from its start on, and then waits
for broadcasts. -/
theorem FollowState.run_catchUp {handle : StreamHandle} {startSeqNum : UInt64}
    {log : List Record} (consistent : Consistent stores.recordStorage stream log) :
    ∃ events nextTaken nextReplies laterReply,
      Run (SessionStep MayFail basinId streamName)
        ⟨stores, some (.idle stream sent taken), replies, nextReply,
          some ⟨startSeqNum, (SessionPhase.subscribing handle startSeqNum).code, [], true⟩,
          received⟩ events
        ⟨stores, some (.idle stream sent nextTaken), nextReplies, laterReply,
          some ⟨startSeqNum, (SessionPhase.receiving
            ⟨handle, startSeqNum, ⟨⟨0, sent.length⟩, stream.nextSeqNum⟩⟩
            ⟨0, sent.length⟩).code, [], true⟩,
          received ++ (NumberedLog.since Record.number log startSeqNum.toNat).map .ok⟩ := by
  have arrived : stream.nextSeqNum.toNat ≤
      startSeqNum.toNat + (stream.nextSeqNum.toNat - startSeqNum.toNat) := by omega
  have bounded : startSeqNum.toNat + (stream.nextSeqNum.toNat - startSeqNum.toNat) < 2 ^ 64 := by
    have := stream.nextSeqNum.toNat_lt
    have := startSeqNum.toNat_lt
    omega
  rcases run_backfill consistent.ascending consistent.stored
      (fun record member => Nat.lt_of_lt_of_le (consistent.below record member) arrived)
      bounded with ⟨events, nextTaken, nextReplies, laterReply, backfills⟩
  exact ⟨_, nextTaken, nextReplies, laterReply,
    ((run_subscribe.trans (run_spawn rfl)).trans backfills).trans run_turn⟩

theorem FollowState.drained_receiving {follower : Follower} {startSeqNum : UInt64} :
    Drained ⟨stores, some (.idle stream sent taken), replies, nextReply,
      some ⟨startSeqNum, (SessionPhase.receiving follower ⟨0, sent.length⟩).code, [], true⟩,
      received⟩ :=
  ⟨_, stream, _, _, _, _, rfl, rfl, rfl, rfl, rfl, rfl, StreamActor.recv_idle 0⟩

/-- The next broadcast reaches the client. -/
theorem FollowState.run_receive {actor : StreamActor} {follower : Follower} {receiver : Receiver}
    {startSeqNum : UInt64} {record : Record}
    (kept : actor.sent.length ≤ receiver.position + STREAM_BROADCAST_BUFFER)
    (next : actor.sent[receiver.position]? = some record)
    (live : follower.subscription.nextSeqNum ≤ record.seqNum) :
    Run (SessionStep MayFail basinId streamName)
      ⟨stores, some actor, replies, nextReply,
        some ⟨startSeqNum, (SessionPhase.receiving follower receiver).code, [], true⟩, received⟩
      [.session, .session, .session, .receive]
      ⟨stores, some actor, replies, nextReply,
        some ⟨startSeqNum, (SessionPhase.receiving follower
          { receiver with position := receiver.position + 1 }).code, [], true⟩,
        received ++ [.ok record]⟩ := by
  have found : actor.recv receiver =
      some (.ok record, { receiver with position := receiver.position + 1 }) := by
    rw [StreamActor.recv, if_neg (Nat.not_lt.mpr kept), next]
  have forwards : (SessionPhase.forwarding follower
      { receiver with position := receiver.position + 1 } record).code =
        .following follower (SessionPhase.receivedCode follower
          (.ok record, { receiver with position := receiver.position + 1 })) :=
    congrArg (SessionCode.following follower) (if_pos live).symm
  have turns := SessionPhase.live_eq follower { receiver with position := receiver.position + 1 }
  let session : Session :=
    ⟨startSeqNum, (SessionPhase.receiving follower receiver).code, [], true⟩
  let state : FollowState :=
    ⟨stores, some actor, replies, nextReply, some session, received⟩
  have answered : state.Answers actor session (.recv receiver)
      (.ok record, { receiver with position := receiver.position + 1 }) state := ⟨found, rfl⟩
  have heard : FollowStep MayFail basinId streamName state .session
      (state.withCode (SessionPhase.forwarding follower
        { receiver with position := receiver.position + 1 } record).code) := by
    rw [forwards]
    exact .follows rfl rfl rfl answered
  have run : Run (SessionStep MayFail basinId streamName) state _ _ :=
    .snoc (.snoc (.snoc (.single ⟨heard, trivial⟩)
      ⟨.sends rfl rfl .following rfl (Nat.zero_lt_succ _), trivial⟩)
      ⟨.turns rfl rfl, trivial⟩)
      ⟨.receive rfl rfl rfl, trivial⟩
  rw [turns] at run
  exact run

/-- A session that waits for broadcasts delivers the next append. -/
theorem FollowState.run_follow {block : Option SeqBlock} {after : SequenceAllocator}
    {follower : Follower} {startSeqNum : UInt64} (draws : stream.Draws block after) (data : Bytes)
    (live : follower.subscription.nextSeqNum ≤ stream.nextSeqNum) :
    ∃ events nextReplies,
      Run (SessionStep MayFail basinId streamName)
        ⟨stores, some (.idle stream sent taken), replies, nextReply,
          some ⟨startSeqNum, (SessionPhase.receiving follower ⟨0, sent.length⟩).code, [], true⟩,
          received⟩ events
        ⟨stores.write (Stream.appendBatch stream.metadata block ⟨stream.nextSeqNum, data⟩)
            .recordStorage,
          some (.idle (stream.moved after) (sent ++ [⟨stream.nextSeqNum, data⟩])
            (taken ++ [.append data nextReply])),
          nextReplies, nextReply + 1,
          some ⟨startSeqNum, (SessionPhase.receiving follower
            ⟨0, (sent ++ [(⟨stream.nextSeqNum, data⟩ : Record)]).length⟩).code, [], true⟩,
          received ++ [.ok ⟨stream.nextSeqNum, data⟩]⟩ := by
  have one_more : (sent ++ [(⟨stream.nextSeqNum, data⟩ : Record)]).length = sent.length + 1 :=
    List.length_append
  have kept : (sent ++ [(⟨stream.nextSeqNum, data⟩ : Record)]).length ≤
      sent.length + STREAM_BROADCAST_BUFFER :=
    one_more ▸ Nat.add_le_add_left (by decide) _
  have next : (sent ++ [(⟨stream.nextSeqNum, data⟩ : Record)])[sent.length]? =
      some ⟨stream.nextSeqNum, data⟩ := List.getElem?_concat_length
  rw [one_more]
  exact ⟨_, _, (run_append draws data).trans (run_receive kept next live)⟩

end Undisturbed

end Slatestreams
