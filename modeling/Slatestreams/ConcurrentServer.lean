import Slatestreams.Foundation.Pool
import Slatestreams.ReadFollow

/-! # The server, with its requests in any order

Requests and the tasks that follow streams take turns, one call at a time. A call
that waits for a lock, a place in a queue or a reply is made once it can be
answered. A request can end at any call, and then gives back its locks. -/

namespace Slatestreams

open Foundation

/-! ## Shared state -/

inductive Lock where
  | basinInit
  | streamInit (address : Nat)
  deriving DecidableEq, Repr

/-- What the tasks of a server share. `locks` has the task that holds each lock, and
`spawned` the followers whose tasks have not begun. `names` and `handed` are history:
the stream each actor was spawned for, and the basin handles that were placed in the
cache or found there. -/
structure SharedServer where
  stores : Stores
  basins : String → Option BasinHandle
  streams : Nat → String → Option StreamHandle
  basinHandles : Nat
  locks : Lock → Option Nat
  actors : List StreamActor
  replies : Replies
  nextReply : ReplyId
  spawned : List ((String × String) × Follower)
  names : List (String × String)
  handed : List (String × BasinHandle)

/-- The calls of a client, and the following tasks they leave behind. -/
inductive ServerCall where
  | append (basinName streamName : String) (data : Bytes)
  | readFollow (basinName streamName : String) (startSeqNum : UInt64)
  | listStreams (basinName : String)
  | listBasins
  | follow (basinName streamName : String) (follower : Follower)

inductive ServerResult where
  | appended (result : Except ControllerError UInt64)
  | following (result : Except ControllerError Nat)
  | streams (result : Except ControllerError (List StreamView))
  | basins (result : Except ControllerError (List BasinView))
  | turned (receiver : Option Receiver)

namespace ServerCall

/-- The stream that a call is about. -/
def name : ServerCall → String × String
  | append basinName streamName _ => (basinName, streamName)
  | readFollow basinName streamName _ => (basinName, streamName)
  | listStreams basinName => (basinName, "")
  | listBasins => ("", "")
  | follow basinName streamName _ => (basinName, streamName)

def code : ServerCall → Program server ServerResult
  | append basinName streamName data =>
      (StreamController.append basinName streamName data).run.bind fun result =>
        .done (.appended result)
  | readFollow basinName streamName startSeqNum =>
      (StreamController.readFollow basinName streamName startSeqNum).run.bind fun result =>
        .done (.following result)
  | listStreams basinName =>
      (StreamController.listStreams basinName).run.bind fun result => .done (.streams result)
  | listBasins => StreamController.listBasins.run.bind fun result => .done (.basins result)
  | follow _ _ follower => (follower.start 0).bind fun receiver => .done (.turned receiver)

/-- A following task takes another turn as long as it has a receiver. -/
def resume : ServerCall → ServerResult → Option (Program server ServerResult)
  | follow _ _ follower, .turned (some receiver) =>
      some ((follower.live 0 receiver).bind fun receiver => .done (.turned receiver))
  | _, _ => none

def isFollow : ServerCall → Bool
  | follow _ _ _ => true
  | _ => false

end ServerCall

namespace SharedServer

/-- A server that has just started on its stores. -/
def start (stores : Stores) : SharedServer where
  stores := stores
  basins _ := none
  streams _ _ := none
  basinHandles := 0
  locks _ := none
  actors := []
  replies _ := none
  nextReply := 0
  spawned := []
  names := []
  handed := []

def returned (self : SharedServer) (basinName : String) : Option BasinHandle → SharedServer
  | some handle => { self with handed := self.handed ++ [(basinName, handle)] }
  | none => self

def placeBasin (self : SharedServer) (basinName : String) (handle : BasinHandle) :
    SharedServer :=
  { self with
    basins := Function.update self.basins basinName (some handle)
    handed := self.handed ++ [(basinName, handle)] }

def placeStream (self : SharedServer) (address : Nat) (streamName : String)
    (stream : StreamHandle) : SharedServer :=
  { self with
    streams := Function.update self.streams address
      (Function.update (self.streams address) streamName (some stream)) }

def lock (self : SharedServer) (lock : Lock) (id : Nat) : SharedServer :=
  { self with locks := Function.update self.locks lock (some id) }

def unlock (self : SharedServer) (lock : Lock) : SharedServer :=
  { self with locks := Function.update self.locks lock none }

def spawn (self : SharedServer) (name : String × String) (stream : Stream) : SharedServer :=
  { self with
    actors := self.actors ++ [.spawn self.actors.length stream]
    names := self.names ++ [name] }

def enqueue (self : SharedServer) (tx : Nat) (actor : StreamActor)
    (command : ReplyId → StreamCommand) : SharedServer :=
  { self with
    actors := self.actors.set tx { actor with queue := actor.queue ++ [command self.nextReply] }
    nextReply := self.nextReply + 1 }

/-- The actor that had the command of a reply has panicked. -/
def ReplyDropped (self : SharedServer) (replyRx : ReplyId) : Prop :=
  ∃ actor ∈ self.actors, actor.running = false ∧
    ∃ command ∈ actor.taken ++ actor.queue, command.replyTx = replyRx

/-- What is done about a task that ends: the guards of its locks are dropped. -/
def release (id : Nat) (self : SharedServer) : SharedServer :=
  { self with locks := fun lock => if self.locks lock = some id then none else self.locks lock }

end SharedServer

/-- The answers a task can get. What a following task sends is left to its client. -/
def SharedServer.Answers (MayFail : StorageOp → Prop) (id : Nat) (name : String × String)
    (self : SharedServer) : (op : ServerOp) → op.Answer → SharedServer → Prop
  | .storage op, answer, after =>
      ∃ stores, op.Answers MayFail self.stores answer stores ∧ after = { self with stores }
  | .readBasins basinName, found, after =>
      found = self.basins basinName ∧ after = self.returned basinName found
  | .insertBasin basinName handle, (), after => after = self.placeBasin basinName handle
  | .lockBasinInit, (), after =>
      self.locks .basinInit = none ∧ after = self.lock .basinInit id
  | .unlockBasinInit, (), after => after = self.unlock .basinInit
  | .newBasinHandle basin, handle, after =>
      handle = ⟨self.basinHandles, basin.basinId⟩ ∧
        after = { self with basinHandles := self.basinHandles + 1 }
  | .readStreams handle streamName, found, after =>
      found = self.streams handle.address streamName ∧ after = self
  | .insertStream handle streamName stream, (), after =>
      after = self.placeStream handle.address streamName stream
  | .lockStreamInit handle, (), after =>
      self.locks (.streamInit handle.address) = none ∧
        after = self.lock (.streamInit handle.address) id
  | .unlockStreamInit handle, (), after => after = self.unlock (.streamInit handle.address)
  | .spawn stream, handle, after =>
      handle = ⟨self.actors.length⟩ ∧ after = self.spawn name stream
  | .send handle command, some replyRx, after =>
      ∃ actor, self.actors[handle.tx]? = some actor ∧ actor.running ∧
        actor.queue.length < STREAM_COMMAND_BUFFER ∧ replyRx = self.nextReply ∧
        after = self.enqueue handle.tx actor command
  | .send handle _, none, after =>
      (∀ actor, self.actors[handle.tx]? = some actor → actor.running = false) ∧ after = self
  | .receive kind replyRx, some value, after =>
      self.replies replyRx = some ⟨kind, value⟩ ∧ after = self
  | .receive _ replyRx, none, after =>
      self.replies replyRx = none ∧ self.ReplyDropped replyRx ∧ after = self
  | .spawnFollower follower, _, after =>
      after = { self with spawned := self.spawned ++ [(name, follower)] }
  | .txSend _ _, _, after => after = self
  | .recv receiver, answer, after =>
      ∃ actor, self.actors[receiver.broadcaster]? = some actor ∧
        actor.recv receiver = some answer ∧ after = self

/-! ## Steps -/

namespace SharedServer

/-- A client calls, or a spawned follower begins. -/
inductive Starts (self : SharedServer) :
    ServerCall → Program server ServerResult → SharedServer → Prop where
  | request {call : ServerCall} (client : call.isFollow = false) : Starts self call call.code self
  | follower {name : String × String} {follower : Follower}
      {earlier later : List ((String × String) × Follower)}
      (waits : self.spawned = earlier ++ (name, follower) :: later) :
      Starts self (.follow name.1 name.2 follower) (ServerCall.follow name.1 name.2 follower).code
        { self with spawned := earlier ++ later }

/-- One of the actors makes a step. -/
inductive Moves (MayFail : StorageOp → Prop) (self : SharedServer) : SharedServer → Prop where
  | actor {tx : Nat} {actor next : StreamActor} {effect : ActorEffect} {stores : Stores}
      (present : self.actors[tx]? = some actor)
      (taken : ActorStep MayFail self.stores actor effect stores next) :
      Moves MayFail self
        { self with
          stores
          actors := self.actors.set tx next
          replies := effect.deliver self.replies }

/-- Calls to the storage may fail as `MayFail` says, and a task may be dropped at a call
as `MayDrop` says. -/
def environment (MayFail : StorageOp → Prop) (MayDrop : ServerOp → Prop) (MayRestart : Prop) :
    Environment server ServerCall ServerResult SharedServer where
  Answers id call self op answer after := self.Answers MayFail id call.name op answer after
  Starts := Starts
  release := release
  resume := ServerCall.resume
  Droppable
    | .done _ => False
    | .panic _ => True
    | .call op _ => MayDrop op
  Moves self after := self.Moves MayFail after
  Resets self after := MayRestart ∧ after = start self.stores

end SharedServer

abbrev ServerPool : Type := Pool server ServerCall ServerResult SharedServer

abbrev ServerEvent : Type := PoolEvent server ServerCall ServerResult

abbrev ServerHistory : Type := History server ServerCall ServerResult SharedServer

/-- A server with no requests yet. -/
def ServerPool.start (stores : Stores) : ServerPool := ⟨.start stores, fun _ => none⟩

theorem ServerPool.run_called {MayFail : StorageOp → Prop} {MayDrop : ServerOp → Prop}
    {MayRestart : Prop} {first pool : ServerPool} {id : Nat} {call : ServerCall}
    {events : List ServerEvent} {shared after : SharedServer} (op : ServerOp) (answer : op.Answer)
    {next : op.Answer → Program server ServerResult}
    (run : Run (Pool.Step (SharedServer.environment MayFail MayDrop MayRestart)) first events
      (pool.set id shared (some ⟨call, .call op next⟩)))
    (answers : shared.Answers MayFail id call.name op answer after) :
    Run (Pool.Step (SharedServer.environment MayFail MayDrop MayRestart)) first
      (events ++ [.called id op answer]) (pool.set id after (some ⟨call, next answer⟩)) :=
  run.snoc (@Pool.Step.called_set server _ _ _ _ _ _ _ _ _ op next answer answers)

end Slatestreams
