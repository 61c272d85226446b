import Slatestreams.ConcurrentServer

/-! # The gRPC service

The controller as the clients of the service see it: messages in place of
arguments and results, and statuses in place of errors. -/

namespace Slatestreams

open Foundation

/-! ## Statuses -/

def BasinError.display : BasinError → String
  | .deserialiseError message => message
  | .storageError message error => message ++ ": " ++ error.display

def ControllerError.display : ControllerError → String
  | .invalidArgument message => "invalid argument: " ++ message
  | .notFound message => "not found: " ++ message
  | .basin error => error.display
  | .stream error => error.display
  | .internal message => "internal error: " ++ message
  | .readerLagged => "reader lagged behind live stream"

/-- The status codes that the service answers with. -/
inductive Code where
  | invalidArgument
  | notFound
  | resourceExhausted
  | internal
  deriving DecidableEq, Repr

structure Status where
  code : Code
  message : String
  deriving DecidableEq, Repr

def controllerErrorToStatus : ControllerError → Status
  | .invalidArgument message => ⟨.invalidArgument, message⟩
  | .notFound message => ⟨.notFound, message⟩
  | .readerLagged => ⟨.resourceExhausted, ControllerError.readerLagged.display⟩
  | .stream (.streamDoesNotExist streamName) => ⟨.notFound, "stream " ++ streamName⟩
  | other => ⟨.internal, other.display⟩

/-! ## Messages -/

namespace Pb

structure AppendRequest where
  basinName : String
  streamName : String
  data : Bytes
  deriving DecidableEq, Repr

structure AppendResponse where
  nextSeqNum : UInt64
  deriving DecidableEq, Repr

structure ReadRequest where
  basinName : String
  streamName : String
  startSeqNum : UInt64
  deriving DecidableEq, Repr

structure StreamRecord where
  seqNum : UInt64
  data : Bytes
  deriving DecidableEq, Repr

structure BasinView where
  basinName : String
  deriving DecidableEq, Repr

structure ListBasinsResponse where
  basins : List BasinView
  deriving DecidableEq, Repr

structure ListStreamsRequest where
  basinName : String
  deriving DecidableEq, Repr

structure StreamView where
  streamName : String
  deriving DecidableEq, Repr

structure ListStreamsResponse where
  streams : List StreamView
  deriving DecidableEq, Repr

end Pb

/-! ## The service -/

/-- A function that can fail with a status. -/
abbrev Rpc (α : Type) : Type := ExceptT Status (Program server) α

namespace GrpcStreamService

def append (request : Pb.AppendRequest) : Rpc Pb.AppendResponse := do
  let nextSeqNum ← (StreamController.append request.basinName request.streamName
    request.data).adapt controllerErrorToStatus
  return { nextSeqNum }

/-- What becomes of an item on its way into the response stream. -/
def readItem : Except ControllerError Record → Except Status Pb.StreamRecord
  | .ok record => .ok { seqNum := record.seqNum, data := record.data }
  | .error error => .error (controllerErrorToStatus error)

/-- The response stream is the receiving half of the channel, each item through `readItem`. -/
def read (request : Pb.ReadRequest) : Rpc Nat :=
  (StreamController.readFollow request.basinName request.streamName
    request.startSeqNum).adapt controllerErrorToStatus

def listBasins : Rpc Pb.ListBasinsResponse := do
  let basins ← StreamController.listBasins.adapt controllerErrorToStatus
  return { basins := basins.map fun basin => { basinName := basin.basinName } }

def listStreams (request : Pb.ListStreamsRequest) : Rpc Pb.ListStreamsResponse := do
  let streams ← (StreamController.listStreams request.basinName).adapt controllerErrorToStatus
  return { streams := streams.map fun stream => { streamName := stream.streamName } }

end GrpcStreamService

/-! ## Requests and responses -/

inductive GrpcRequest where
  | append (request : Pb.AppendRequest)
  | read (request : Pb.ReadRequest)
  | listBasins
  | listStreams (request : Pb.ListStreamsRequest)
  deriving DecidableEq, Repr

inductive GrpcResponse where
  | append (response : Pb.AppendResponse)
  | read (rx : Nat)
  | listBasins (response : Pb.ListBasinsResponse)
  | listStreams (response : Pb.ListStreamsResponse)
  deriving DecidableEq, Repr

namespace GrpcRequest

def serve : GrpcRequest → Rpc GrpcResponse
  | append request => do return .append (← GrpcStreamService.append request)
  | read request => do return .read (← GrpcStreamService.read request)
  | listBasins => do return .listBasins (← GrpcStreamService.listBasins)
  | listStreams request => do return .listStreams (← GrpcStreamService.listStreams request)

/-- The call of the controller that a request comes to. -/
def call : GrpcRequest → ServerCall
  | append request => .append request.basinName request.streamName request.data
  | read request => .readFollow request.basinName request.streamName request.startSeqNum
  | listBasins => .listBasins
  | listStreams request => .listStreams request.basinName

end GrpcRequest

/-- The response to a call of the controller; the task that follows a stream has none. -/
def ServerResult.respond : ServerResult → Option (Except Status GrpcResponse)
  | .appended (.ok nextSeqNum) => some (.ok (.append { nextSeqNum }))
  | .following (.ok rx) => some (.ok (.read rx))
  | .basins (.ok views) =>
      some (.ok (.listBasins { basins := views.map fun basin => ⟨basin.basinName⟩ }))
  | .streams (.ok views) =>
      some (.ok (.listStreams { streams := views.map fun stream => ⟨stream.streamName⟩ }))
  | .appended (.error error) | .following (.error error) | .basins (.error error)
  | .streams (.error error) => some (.error (controllerErrorToStatus error))
  | .turned _ => none

theorem GrpcRequest.serve_eq (request : GrpcRequest) :
    (request.serve.run.bind fun response => .done (some response)) =
      request.call.code.bind fun result => .done result.respond := by
  cases request with
  | append request =>
      simp only [serve, call, ServerCall.code, GrpcStreamService.append, run_bind, run_adapt,
        Program.bind_assoc, Program.bind_done]
      congr 1
      funext result
      cases result <;> rfl
  | read request =>
      simp only [serve, call, ServerCall.code, GrpcStreamService.read, run_bind, run_adapt,
        Program.bind_assoc, Program.bind_done]
      congr 1
      funext result
      cases result <;> rfl
  | listBasins =>
      simp only [serve, call, ServerCall.code, GrpcStreamService.listBasins, run_bind, run_adapt,
        Program.bind_assoc, Program.bind_done]
      congr 1
      funext result
      cases result <;> rfl
  | listStreams request =>
      simp only [serve, call, ServerCall.code, GrpcStreamService.listStreams, run_bind, run_adapt,
        Program.bind_assoc, Program.bind_done]
      congr 1
      funext result
      cases result <;> rfl

end Slatestreams
