import Slatestreams.StreamActor

/-! # The stream controller

Names are resolved through two levels of caches, each filled under a lock that
is taken after a first look. Requests then talk to the stream's actor. -/

namespace Slatestreams

open Foundation

inductive ControllerError where
  | invalidArgument (message : String)
  | notFound (message : String)
  | basin (error : BasinError)
  | stream (error : StreamError)
  | internal (message : String)
  | readerLagged
  deriving DecidableEq, Repr

/-- A shared basin handle: where it lives, and the field that never changes. -/
structure BasinHandle where
  address : Nat
  basinId : U128
  deriving DecidableEq, Repr

/-- The sending half of an actor's queue. -/
structure StreamHandle where
  tx : Nat
  deriving DecidableEq, Repr

/-- The task that `read_follow` leaves behind. -/
structure Follower where
  readStream : StreamHandle
  startSeqNum : UInt64
  subscription : Subscription
  deriving DecidableEq, Repr

/-! ## Calls into the environment -/

/-- Taking a lock waits until it is free; looking into a map or putting an entry
into it holds the map's lock for the one call. -/
inductive ServerOp where
  | storage (op : StorageOp)
  | readBasins (basinName : String)
  | insertBasin (basinName : String) (handle : BasinHandle)
  | lockBasinInit
  | unlockBasinInit
  | newBasinHandle (basin : Basin)
  | readStreams (handle : BasinHandle) (streamName : String)
  | insertStream (handle : BasinHandle) (streamName : String) (stream : StreamHandle)
  | lockStreamInit (handle : BasinHandle)
  | unlockStreamInit (handle : BasinHandle)
  | spawn (stream : Stream)
  | send (handle : StreamHandle) (command : ReplyId → StreamCommand)
  | receive (kind : ReplyKind) (replyRx : ReplyId)
  | spawnFollower (follower : Follower)
  | txSend (tx : Nat) (item : Except ControllerError Record)
  | recv (receiver : Receiver)

/-- A send answers with the other half of the reply channel unless the actor
has stopped, and a receive with nothing when the reply was dropped. -/
@[reducible] def ServerOp.Answer : ServerOp → Type
  | .storage op => op.Answer
  | .readBasins _ => Option BasinHandle
  | .insertBasin _ _ => Unit
  | .lockBasinInit => Unit
  | .unlockBasinInit => Unit
  | .newBasinHandle _ => BasinHandle
  | .readStreams _ _ => Option StreamHandle
  | .insertStream _ _ _ => Unit
  | .lockStreamInit _ => Unit
  | .unlockStreamInit _ => Unit
  | .spawn _ => StreamHandle
  | .send _ _ => Option ReplyId
  | .receive kind _ => Option kind.Value
  | .spawnFollower _ => Nat
  | .txSend _ _ => Except Unit Unit
  | .recv _ => Except RecvError Record × Receiver

@[reducible] def server : Signature := ⟨ServerOp, ServerOp.Answer⟩

/-- A function that can fail with a controller error. -/
abbrev Request (α : Type) : Type := ExceptT ControllerError (Program server) α

def perform (op : ServerOp) : Program server op.Answer :=
  .perform (S := server) op

def storageCalls {α : Type} (program : Program storage α) : Program server α :=
  program.translate fun op => perform (.storage op)

def onServer {ε α : Type} (wrap : ε → ControllerError) (program : ExceptT ε (Program storage) α) :
    Request α :=
  orThrow (storageCalls program.run) wrap

/-! ## Talking to an actor -/

namespace StreamHandle

/-- Send a command and wait for its reply; `reply` names the reply in the error. -/
def ask (self : StreamHandle) (kind : ReplyKind) (reply : String)
    (command : ReplyId → StreamCommand) : Request kind.Value := do
  match ← perform (.send self command) with
  | none => throw (.internal "stream actor stopped")
  | some replyRx =>
      match ← perform (.receive kind replyRx) with
      | none => throw (.internal ("stream actor dropped " ++ reply ++ " reply"))
      | some value => return value

def append (self : StreamHandle) (data : Bytes) : Request AppendResult := do
  ofResult ((← self.ask .append "append" (.append data)).mapError .stream)

def read (self : StreamHandle) (seqNum : UInt64) : Request (Option Record) := do
  ofResult ((← self.ask .read "read" (.read seqNum)).mapError .stream)

def subscribe (self : StreamHandle) : Request Subscription :=
  self.ask .subscribe "subscribe" .subscribe

end StreamHandle

/-! ## Names -/

/-- The Unicode `White_Space` characters. -/
def isWhitespace (c : Char) : Bool :=
  (0x09 ≤ c.toNat && c.toNat ≤ 0x0D) || c.toNat == 0x20 || c.toNat == 0x85 || c.toNat == 0xA0 ||
    c.toNat == 0x1680 || (0x2000 ≤ c.toNat && c.toNat ≤ 0x200A) || c.toNat == 0x2028 ||
    c.toNat == 0x2029 || c.toNat == 0x202F || c.toNat == 0x205F || c.toNat == 0x3000

def trim (value : String) : List Char :=
  ((value.toList.dropWhile isWhitespace).reverse.dropWhile isWhitespace).reverse

def validateName (field value : String) : Except ControllerError Unit :=
  if (trim value).isEmpty then
    .error (.invalidArgument (field ++ " must not be empty"))
  else .ok ()

def mapStreamNotFound (basinName streamName : String) : ControllerError → ControllerError
  | .stream (.streamDoesNotExist _) => .notFound ("stream " ++ basinName ++ "/" ++ streamName)
  | other => other

/-! ## Resolving names -/

/-- Run the body with a lock held, whatever it returns. -/
def withLock {α : Type} (lock unlock : Program server Unit) (body : Request α) : Request α :=
  ExceptT.mk do
    lock
    let result ← body.run
    unlock
    return result

namespace BasinHandle

def getStream (self : BasinHandle) (streamName : String) (create : Bool) :
    Request StreamHandle := do
  if let some stream ← perform (.readStreams self streamName) then
    return stream
  withLock (perform (.lockStreamInit self)) (perform (.unlockStreamInit self)) do
    if let some stream ← perform (.readStreams self streamName) then
      return stream
    let loaded ← ExceptT.lift (storageCalls (Stream.load self.basinId streamName).run)
    let stream ←
      match loaded with
      | .ok stream => pure stream
      | .error (.streamDoesNotExist missing) =>
          if create then onServer .stream (Stream.new self.basinId streamName)
          else throw (.stream (.streamDoesNotExist missing))
      | .error error => throw (.stream error)
    let handle ← perform (.spawn stream)
    perform (.insertStream self streamName handle)
    return handle

end BasinHandle

namespace StreamController

def getCachedBasin (basinName : String) : Request (Option BasinHandle) :=
  ExceptT.lift (perform (.readBasins basinName))

/-- Both ways of finding a basin, which differ in what they do for a missing one. -/
def getBasin (basinName : String) (missing : Request Basin) : Request BasinHandle := do
  if let some basin ← getCachedBasin basinName then
    return basin
  withLock (perform .lockBasinInit) (perform .unlockBasinInit) do
    if let some basin ← getCachedBasin basinName then
      return basin
    let basin ←
      match ← onServer .basin (Basin.load basinName) with
      | some basin => pure basin
      | none => missing
    let handle ← perform (.newBasinHandle basin)
    perform (.insertBasin basinName handle)
    return handle

def getOrCreateBasin (basinName : String) : Request BasinHandle :=
  getBasin basinName (onServer .basin (Basin.new basinName))

def getExistingBasin (basinName : String) : Request BasinHandle :=
  getBasin basinName (throw (.notFound ("basin " ++ basinName)))

/-! ## Requests -/

def append (basinName streamName : String) (data : Bytes) : Request UInt64 := do
  ofResult (validateName "basin_name" basinName)
  ofResult (validateName "stream_name" streamName)
  let basin ← getOrCreateBasin basinName
  let stream ← basin.getStream streamName true
  return (← stream.append data).nextSeqNum

/-- What `readFollow` does once it has found the stream. -/
def followStream (stream : StreamHandle) (startSeqNum : UInt64) : Request Nat := do
  let subscription ← stream.subscribe
  perform (.spawnFollower { readStream := stream, startSeqNum, subscription })

def readFollow (basinName streamName : String) (startSeqNum : UInt64) : Request Nat := do
  ofResult (validateName "basin_name" basinName)
  ofResult (validateName "stream_name" streamName)
  let basin ← getExistingBasin basinName
  let stream ← (basin.getStream streamName false).adapt (mapStreamNotFound basinName streamName)
  followStream stream startSeqNum

def listBasins : Request (List BasinView) :=
  onServer .basin Basin.list

def listStreams (basinName : String) : Request (List StreamView) := do
  ofResult (validateName "basin_name" basinName)
  let basin ← getExistingBasin basinName
  onServer .stream (Stream.list basin.basinId)

end StreamController

/-! ## The following task -/

namespace Follower

def send (tx : Nat) (item : Except ControllerError Record) : Program server Bool := do
  return (← perform (.txSend tx item)).isOk

/-- The loop over the numbers before the subscription, with `count` of them to
come. It ends in the receiver to go on with, unless the task has returned. -/
def backfill (self : Follower) (tx : Nat) (seqNum : UInt64) :
    Nat → Program server (Option Receiver)
  | 0 => return some self.subscription.receiver
  | count + 1 => do
      match ← (self.readStream.read seqNum).run with
      | .ok (some record) =>
          if ← send tx (.ok record) then self.backfill tx (seqNum + 1) count
          else return none
      | .ok none => self.backfill tx (seqNum + 1) count
      | .error error =>
          let _ ← send tx (.error error)
          return none

/-- One turn of the live loop. -/
def live (self : Follower) (tx : Nat) (liveRecords : Receiver) :
    Program server (Option Receiver) := do
  match ← perform (.recv liveRecords) with
  | (.ok record, liveRecords) =>
      if self.subscription.nextSeqNum ≤ record.seqNum then
        if ← send tx (.ok record) then return some liveRecords
        else return none
      else return some liveRecords
  | (.error .lagged, _) =>
      let _ ← send tx (.error .readerLagged)
      return none
  | (.error .closed, _) => return none

def start (self : Follower) (tx : Nat) : Program server (Option Receiver) :=
  self.backfill tx self.startSeqNum
    (self.subscription.nextSeqNum.toNat - self.startSeqNum.toNat)

end Follower

end Slatestreams
