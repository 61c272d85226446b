import Mathlib.Logic.Function.Basic
import Slatestreams.Foundation.Machine
import Slatestreams.StreamController

/-! # The server, one request after the other

Storage that does not fail answers every call, and a request runs to its end
before the next begins. Between requests the tasks that follow streams make
their calls one by one, and the server may restart. -/

namespace Slatestreams

open Foundation

/-! ## Answering calls -/

/-- The caches of a server, its actors and the replies sent so far. `streams` is
the map of each basin handle, by the handle's address. -/
structure Server where
  stores : Stores
  basins : String → Option BasinHandle
  streams : Nat → String → Option StreamHandle
  basinHandles : Nat
  actors : List StreamActor
  replies : List (Option (Sigma ReplyKind.Value))
  followers : List Follower

/-- What an actor's command changes. -/
structure Handling where
  stores : Stores
  sent : List Record
  reply : Option (Sigma ReplyKind.Value)

def ActorOp.handle (ids : Nat → U128) (broadcaster : Nat) :
    (op : ActorOp) → Handling → op.Answer × Handling
  | .storage op, handling =>
      let (answer, stores) := op.handle ids handling.stores
      (answer, { handling with stores })
  | .broadcast record, handling => ((), { handling with sent := handling.sent ++ [record] })
  | .subscribe, handling => (⟨broadcaster, handling.sent.length⟩, handling)
  | .reply kind _ value, handling => ((), { handling with reply := some ⟨kind, value⟩ })

namespace Server

/-- A server that has just started on its stores. -/
def start (stores : Stores) : Server :=
  ⟨stores, fun _ => none, fun _ _ => none, 0, [], [], []⟩

/-- The actor takes the command at once and handles it to its end. -/
def send (ids : Nat → U128) (self : Server) (handle : StreamHandle)
    (command : ReplyId → StreamCommand) : Option ReplyId × Server :=
  match self.actors[handle.tx]? with
  | none => (none, self)
  | some actor =>
      match actor.code with
      | .done stream =>
          let replyTx := self.replies.length
          let (result, handling) := (StreamActor.handle stream (command replyTx)).exec
            (ActorOp.handle ids actor.broadcaster) ⟨self.stores, actor.sent, none⟩
          (some replyTx,
            { self with
              stores := handling.stores
              actors := self.actors.set handle.tx
                { actor with
                  code := .ofOption "sequence allocation" result
                  sent := handling.sent
                  taken := actor.taken ++ [command replyTx] }
              replies := self.replies ++ [handling.reply] })
      | _ => (none, self)

def reply (self : Server) (kind : ReplyKind) (replyRx : ReplyId) : Option kind.Value :=
  match self.replies[replyRx]? with
  | some (some ⟨sent, value⟩) => if same : sent = kind then some (same ▸ value) else none
  | _ => none

end Server

/-- Locks are free between requests, and the last two calls are left to the task
that makes them. -/
def ServerOp.handle (ids : Nat → U128) : (op : ServerOp) → Server → op.Answer × Server
  | .storage op, server =>
      let (answer, stores) := op.handle ids server.stores
      (answer, { server with stores })
  | .readBasins basinName, server => (server.basins basinName, server)
  | .insertBasin basinName handle, server =>
      ((), { server with basins := Function.update server.basins basinName (some handle) })
  | .lockBasinInit, server => ((), server)
  | .unlockBasinInit, server => ((), server)
  | .newBasinHandle basin, server =>
      (⟨server.basinHandles, basin.basinId⟩, { server with basinHandles := server.basinHandles + 1 })
  | .readStreams handle streamName, server => (server.streams handle.address streamName, server)
  | .insertStream handle streamName stream, server =>
      ((), { server with
        streams := Function.update server.streams handle.address
          (Function.update (server.streams handle.address) streamName (some stream)) })
  | .lockStreamInit _, server => ((), server)
  | .unlockStreamInit _, server => ((), server)
  | .spawn stream, server =>
      (⟨server.actors.length⟩,
        { server with actors := server.actors ++ [.spawn server.actors.length stream] })
  | .send handle command, server => server.send ids handle command
  | .receive kind replyRx, server => (server.reply kind replyRx, server)
  | .spawnFollower follower, server =>
      (server.followers.length, { server with followers := server.followers ++ [follower] })
  | .txSend _ _, server => (.error (), server)
  | .recv receiver, server => ((.error .closed, receiver), server)

/-! ## Readers -/

/-- One call of `read_follow`, as a client names it. -/
structure Reader where
  basinName : String
  streamName : String
  index : Nat
  deriving DecidableEq, Repr

/-- The task that follows a stream for a reader. -/
structure ReaderTask where
  follower : Follower
  code : Program server (Option Receiver)
  channel : List (Except ControllerError Record)

/-- The task's next call, if it can be answered now. -/
def ReaderTask.advance (ids : Nat → U128) (self : ReaderTask) (server : Server) :
    ReaderTask × Server :=
  match self.code with
  | .done (some receiver) => ({ self with code := self.follower.live 0 receiver }, server)
  | .done none => (self, server)
  | .panic _ => (self, server)
  | .call (.txSend _ item) next =>
      if self.channel.length < STREAM_COMMAND_BUFFER then
        ({ self with code := next (.ok ()), channel := self.channel ++ [item] }, server)
      else (self, server)
  | .call (.recv receiver) next =>
      match (server.actors[receiver.broadcaster]?).bind fun actor => actor.recv receiver with
      | some answer => ({ self with code := next answer }, server)
      | none => (self, server)
  | .call op next =>
      let (answer, server) := op.handle ids server
      ({ self with code := next answer }, server)

/-! ## Histories -/

structure World where
  server : Server
  tasks : Reader → Option ReaderTask

inductive Operation where
  | append (basinName streamName : String) (data : Bytes)
  | readFollow (reader : Reader) (startSeqNum : UInt64)
  | advance (reader : Reader)
  | receive (reader : Reader)
  | listBasins (label : Nat)
  | listStreams (label : Nat) (basinName : String)
  | restart
  deriving DecidableEq, Repr

def Operation.isRead : Operation → Bool
  | .append _ _ _ | .restart => false
  | .readFollow _ _ | .advance _ | .receive _ | .listBasins _ | .listStreams _ _ => true

/-- What the client sees of an operation. A request that panics has no result. -/
inductive Outcome where
  | appended (result : Option (Except ControllerError UInt64))
  | following (result : Option (Except ControllerError Unit))
  | received (item : Option (Except ControllerError Record))
  | basins (result : Option (Except ControllerError (List BasinView)))
  | streams (result : Option (Except ControllerError (List StreamView)))
  | silent

namespace World

def start (stores : Stores) : World := ⟨.start stores, fun _ => none⟩

def request {α : Type} (ids : Nat → U128) (self : World) (request : Request α) :
    Option (Except ControllerError α) × World :=
  let (result, server) := request.run.exec (ServerOp.handle ids) self.server
  (result, { self with server })

def readFollow (ids : Nat → U128) (self : World) (reader : Reader) (startSeqNum : UInt64) :
    Outcome × World :=
  match self.request ids
      (StreamController.readFollow reader.basinName reader.streamName startSeqNum) with
  | (some (.ok tx), after) =>
      let task := (after.server.followers[tx]?).map fun follower =>
        ⟨follower, follower.start 0, []⟩
      (.following (some (.ok ())), { after with tasks := Function.update after.tasks reader task })
  | (some (.error error), after) => (.following (some (.error error)), after)
  | (none, after) => (.following none, after)

def advance (ids : Nat → U128) (self : World) (reader : Reader) : Outcome × World :=
  match self.tasks reader with
  | none => (.silent, self)
  | some task =>
      let (task, server) := task.advance ids self.server
      (.silent, ⟨server, Function.update self.tasks reader (some task)⟩)

def receive (self : World) (reader : Reader) : Outcome × World :=
  match self.tasks reader with
  | some ⟨follower, code, item :: channel⟩ =>
      (.received (some item),
        { self with tasks := Function.update self.tasks reader (some ⟨follower, code, channel⟩) })
  | _ => (.received none, self)

def perform (ids : Nat → U128) : Machine World Operation Outcome := fun self => fun
  | .append basinName streamName data =>
      let (result, after) := self.request ids (StreamController.append basinName streamName data)
      (.appended result, after)
  | .readFollow reader startSeqNum => self.readFollow ids reader startSeqNum
  | .advance reader => self.advance ids reader
  | .receive reader => self.receive reader
  | .listBasins _ =>
      let (result, after) := self.request ids StreamController.listBasins
      (.basins result, after)
  | .listStreams _ basinName =>
      let (result, after) := self.request ids (StreamController.listStreams basinName)
      (.streams result, after)
  | .restart => (.silent, .start self.server.stores)

end World

end Slatestreams
