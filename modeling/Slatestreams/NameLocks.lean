import Slatestreams.ConcurrentServer

/-! # How requests take the locks

The protocol of a task that resolves the names of its call and talks to the
stream: what it may do with and without a lock, and what it learns from the
answers. -/

namespace Slatestreams

open Foundation

/-! ## Standings -/

/-- Where a task that holds `basin_init` stands, up to the basin's place in the cache. -/
inductive BasinStage where
  | locked
  | uncached
  | missing
  | drawn (basinId : U128)
  | stored (basinId : U128)
  | handled (handle : BasinHandle)
  | cached (handle : BasinHandle)
  | failed
  deriving DecidableEq, Repr

/-- Where a task that holds a `stream_init` stands, up to the stream's place in the cache. -/
inductive StreamStage where
  | locked
  | uncached
  | missing
  | drawn (streamId : U128)
  | named (metadata : StreamMetadata)
  | created (metadata : StreamMetadata)
  | loaded (stream : Stream)
  | spawned (stream : StreamHandle)
  | cached (stream : StreamHandle)
  | failed
  deriving DecidableEq, Repr

/-- A task has found the handles it has, or holds one lock, or waits for a reply. -/
inductive Standing where
  | free (basin : Option BasinHandle) (stream : Option StreamHandle)
  | atBasin (stage : BasinStage)
  | atStream (handle : BasinHandle) (stage : StreamStage)
  | waiting (stream : StreamHandle) (kind : ReplyKind) (replyRx : ReplyId)
  | acknowledged (replyRx : ReplyId) (ack : AppendResult)
  | failed
  deriving DecidableEq, Repr

namespace BasinStage

/-- The one storage call of a stage. -/
def Calls (basinName : String) : BasinStage → StorageOp → Prop
  | .uncached, op => op = .get .metaStorage (Basin.constructMetadataKey basinName)
  | .missing, op => op = .newV4
  | .drawn basinId, op =>
      op = .apply .metaStorage [⟨Basin.constructMetadataKey basinName, putU128 basinId⟩]
  | _, _ => False

def loaded : Except StorageError (Option StorageRecord) → BasinStage
  | .ok none => .missing
  | .ok (some record) =>
      match Basin.deserialiseBasinId record.value with
      | .ok basinId => .stored basinId
      | .error _ => .failed
  | .error _ => .failed

def learn : BasinStage → (op : StorageOp) → op.Answer → BasinStage
  | .uncached, .get _ _, answer => loaded answer
  | .missing, .newV4, basinId => .drawn basinId
  | .drawn basinId, .apply _ _, .ok () => .stored basinId
  | _, _, _ => .failed

end BasinStage

namespace StreamStage

def Calls (basinId : U128) (streamName : String) : StreamStage → StorageOp → Prop
  | .uncached, op => op = .get .metaStorage (Stream.constructMetadataKey basinId streamName)
  | .missing, op => op = .newV4
  | .drawn streamId, op =>
      op = .apply .metaStorage [⟨Stream.constructMetadataKey basinId streamName,
        (⟨basinId, streamId⟩ : StreamMetadata).serialise⟩]
  | .named metadata, op =>
      op = .get .recordStorage (Stream.constructSequenceBlockKey basinId metadata.streamId)
  | .created metadata, op =>
      op = .apply .recordStorage
        [⟨metadata.blockKey, SequenceAllocator.default.allocation.serialise⟩]
  | _, _ => False

def metadataLoaded : Except StorageError (Option StorageRecord) → StreamStage
  | .ok none => .missing
  | .ok (some record) =>
      match StreamMetadata.deserialise record.value with
      | .ok metadata => .named metadata
      | .error _ => .failed
  | .error _ => .failed

/-- The stream that a load has put together. -/
def blockLoaded (metadata : StreamMetadata)
    (answer : Except StorageError (Option StorageRecord)) : StreamStage :=
  match Stream.loadResult metadata answer with
  | .done (.ok stream) => .loaded stream
  | _ => .failed

def learn (basinId : U128) : StreamStage → (op : StorageOp) → op.Answer → StreamStage
  | .uncached, .get _ _, answer => metadataLoaded answer
  | .missing, .newV4, streamId => .drawn streamId
  | .drawn streamId, .apply _ _, .ok () => .created ⟨basinId, streamId⟩
  | .named metadata, .get _ _, answer => blockLoaded metadata answer
  | .created metadata, .apply _ _, .ok () => .loaded ⟨SequenceAllocator.default, metadata⟩
  | _, _, _ => .failed

end StreamStage

/-- Only an append makes the names that it does not find. -/
def ServerCall.creates : ServerCall → Bool
  | .append _ _ _ => true
  | _ => false

def BasinStage.GaveUp (call : ServerCall) : BasinStage → Prop
  | .failed => True
  | .missing => call.creates = false
  | _ => False

def StreamStage.GaveUp (call : ServerCall) : StreamStage → Prop
  | .failed => True
  | .missing => call.creates = false
  | _ => False

/-- The commands that a call puts into the queue of its stream. -/
def ServerCall.Sends (command : ReplyId → StreamCommand) : ServerCall → Prop
  | .append _ _ data => command = .append data
  | .readFollow _ _ _ => command = .subscribe
  | .follow _ _ _ => ∃ seqNum, command = .read seqNum
  | .listStreams _ | .listBasins => False

namespace Standing

/-- What a task may do without a lock: talk to the stream it has found, and look at the
caches and the stores. -/
def FreeCalls (call : ServerCall) (basin : Option BasinHandle) (stream : Option StreamHandle) :
    ServerOp → Prop
  | .storage op => op.Reads
  | .readBasins basinName => basinName = call.name.1
  | .lockBasinInit => True
  | .readStreams handle streamName => basin = some handle ∧ streamName = call.name.2
  | .lockStreamInit handle => basin = some handle
  | .send handle command => stream = some handle ∧ call.Sends command
  | .txSend _ _ | .recv _ => True
  | .spawnFollower follower => stream = some follower.readStream
  | _ => False

def BasinCalls (call : ServerCall) (stage : BasinStage) : ServerOp → Prop
  | .storage op => stage.Calls call.name.1 op
  | .readBasins basinName => basinName = call.name.1 ∧ stage = .locked
  | .newBasinHandle basin => stage = .stored basin.basinId
  | .insertBasin basinName handle => basinName = call.name.1 ∧ stage = .handled handle
  | .unlockBasinInit => (∃ handle, stage = .cached handle) ∨ stage.GaveUp call
  | _ => False

def StreamCalls (call : ServerCall) (handle : BasinHandle) (stage : StreamStage) :
    ServerOp → Prop
  | .storage op => stage.Calls handle.basinId call.name.2 op
  | .readStreams other streamName => other = handle ∧ streamName = call.name.2 ∧ stage = .locked
  | .spawn stream => stage = .loaded stream
  | .insertStream other streamName stream =>
      other = handle ∧ streamName = call.name.2 ∧ stage = .spawned stream
  | .unlockStreamInit other =>
      other = handle ∧ ((∃ stream, stage = .cached stream) ∨ stage.GaveUp call)
  | _ => False

def Calls (call : ServerCall) : Standing → ServerOp → Prop
  | .free basin stream, op => FreeCalls call basin stream op
  | .atBasin stage, op => BasinCalls call stage op
  | .atStream handle stage, op => StreamCalls call handle stage op
  | .waiting _ kind replyRx, op => op = .receive kind replyRx
  | .acknowledged _ _, _ => False
  | .failed, op => ∃ tx item, op = .txSend tx item

def freeLearn (basin : Option BasinHandle) (stream : Option StreamHandle) :
    (op : ServerOp) → op.Answer → Standing
  | .readBasins _, found => .free found none
  | .lockBasinInit, _ => .atBasin .locked
  | .readStreams _ _, found => .free basin found
  | .lockStreamInit handle, _ => .atStream handle .locked
  | .send handle command, some replyRx => .waiting handle (command replyRx).kind replyRx
  | .send _ _, none => .failed
  | _, _ => .free basin stream

def basinLearn (stage : BasinStage) : (op : ServerOp) → op.Answer → Standing
  | .storage op, answer => .atBasin (stage.learn op answer)
  | .readBasins _, none => .atBasin .uncached
  | .readBasins _, some handle => .atBasin (.cached handle)
  | .newBasinHandle _, handle => .atBasin (.handled handle)
  | .insertBasin _ handle, _ => .atBasin (.cached handle)
  | .unlockBasinInit, _ =>
      match stage with
      | .cached handle => .free (some handle) none
      | _ => .failed
  | _, _ => .atBasin stage

def streamLearn (handle : BasinHandle) (stage : StreamStage) :
    (op : ServerOp) → op.Answer → Standing
  | .storage op, answer => .atStream handle (stage.learn handle.basinId op answer)
  | .readStreams _ _, none => .atStream handle .uncached
  | .readStreams _ _, some stream => .atStream handle (.cached stream)
  | .spawn _, stream => .atStream handle (.spawned stream)
  | .insertStream _ _ stream, _ => .atStream handle (.cached stream)
  | .unlockStreamInit _, _ =>
      match stage with
      | .cached stream => .free (some handle) (some stream)
      | _ => .failed
  | _, _ => .atStream handle stage

def waitingLearn (stream : StreamHandle) (replyRx : ReplyId) :
    (op : ServerOp) → op.Answer → Standing
  | .receive .append _, some (.ok ack) => .acknowledged replyRx ack
  | .receive .append _, _ => .failed
  | .receive .read _, some (.ok _) => .free none (some stream)
  | .receive .subscribe _, some _ => .free none (some stream)
  | _, _ => .failed

def learn : Standing → (op : ServerOp) → op.Answer → Standing
  | .free basin stream, op, answer => freeLearn basin stream op answer
  | .atBasin stage, op, answer => basinLearn stage op answer
  | .atStream handle stage, op, answer => streamLearn handle stage op answer
  | .waiting stream _ replyRx, op, answer => waitingLearn stream replyRx op answer
  | .acknowledged replyRx ack, _, _ => .acknowledged replyRx ack
  | .failed, _, _ => .failed

/-- A load panics on a block that ends past the last number. -/
def MayPanic : Standing → Prop
  | .free _ _ => True
  | .atStream _ stage => stage = .failed
  | _ => False

def protocol (call : ServerCall) : Program.Protocol server Standing where
  Allowed := Calls call
  MayPanic := MayPanic
  Possible _ _ _ := True
  learn := learn

/-- The lock a task holds. -/
def lock : Standing → Option Lock
  | .atBasin _ => some .basinInit
  | .atStream handle _ => some (.streamInit handle.address)
  | _ => none

/-- Where a call can end, and a following task take another turn. -/
def Ends : ServerCall → Standing → ServerResult → Prop
  | .append _ _ _, standing, .appended (.ok seqNum) =>
      ∃ replyRx ack, standing = .acknowledged replyRx ack ∧ ack.nextSeqNum = seqNum
  | .append basinName streamName _, standing, .appended (.error error) =>
      standing = .failed ∨ standing.lock = none ∧
        (validateName "basin_name" basinName = .error error ∨
          validateName "stream_name" streamName = .error error)
  | .append _ _ _, _, _ => False
  | .follow _ _ follower, standing, .turned (some _) =>
      ∃ basin, standing = .free basin (some follower.readStream)
  | _, _, _ => True

end Standing

end Slatestreams
