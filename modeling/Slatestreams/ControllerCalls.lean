import Slatestreams.StreamController

/-! # The controller's requests, call by call

Each request as the tree of the calls it makes, so that it can be followed from
one call to the next. -/

namespace Slatestreams

open Foundation

/-! ## Resolving a name to a stream -/

namespace BasinHandle

/-- A loaded stream gets its actor, and its handle a place in the cache. -/
def placeStream (self : BasinHandle) (streamName : String) (stream : Stream) :
    Program server (Except ControllerError StreamHandle) :=
  .call (S := server) (.spawn stream) fun handle =>
    .call (S := server) (.insertStream self streamName handle) fun _ => .done (.ok handle)

/-- What a created stream leads to. -/
def createdStream (self : BasinHandle) (streamName : String) :
    Except StreamError Stream → Program server (Except ControllerError StreamHandle)
  | .ok stream => self.placeStream streamName stream
  | .error error => .done (.error (.stream error))

/-- What the load of a stream leads to. -/
def loadedStream (self : BasinHandle) (streamName : String) (create : Bool) :
    Except StreamError Stream → Program server (Except ControllerError StreamHandle)
  | .ok stream => self.placeStream streamName stream
  | .error (.streamDoesNotExist missing) =>
      if create then
        (storageCalls (Stream.new self.basinId streamName).run).bind (self.createdStream streamName)
      else .done (.error (.stream (.streamDoesNotExist missing)))
  | .error error => .done (.error (.stream error))

/-- What is done with the lock held, and no cached handle. -/
def openStream (self : BasinHandle) (streamName : String) (create : Bool) :
    Program server (Except ControllerError StreamHandle) :=
  (storageCalls (Stream.load self.basinId streamName).run).bind
    (self.loadedStream streamName create)

def releaseStream (self : BasinHandle) (result : Except ControllerError StreamHandle) :
    Program server (Except ControllerError StreamHandle) :=
  .call (S := server) (.unlockStreamInit self) fun _ => .done result

theorem getStream_eq (self : BasinHandle) (streamName : String) (create : Bool) :
    (self.getStream streamName create).run =
      .call (S := server) (.readStreams self streamName) fun
        | some stream => .done (.ok stream)
        | none =>
            .call (S := server) (.lockStreamInit self) fun _ =>
              .call (S := server) (.readStreams self streamName) fun
                | some stream => self.releaseStream (.ok stream)
                | none => (self.openStream streamName create).bind self.releaseStream := by
  change Program.call _ _ = Program.call _ _
  congr 1
  funext answer
  cases answer with
  | some stream => rfl
  | none =>
      change Program.call _ _ = Program.call _ _
      congr 1
      funext _
      change Program.call _ _ = Program.call _ _
      congr 1
      funext answer
      cases answer with
      | some stream => rfl
      | none =>
          change Program.bind (ExceptT.run (ExceptT.lift (storageCalls _) >>= _)) _ =
            Program.bind _ _
          rw [run_bind, ExceptT.run_lift, openStream]
          simp only [Program.map_eq, Program.bind_assoc, Program.bind_done]
          congr 1
          funext loaded
          rcases loaded with error | stream
          · cases error <;> try rfl
            cases create with
            | false => rfl
            | true =>
                simp only [loadedStream, if_true]
                rw [run_bind]
                simp only [onServer, run_orThrow, Program.bind_assoc]
                congr 1
                funext created
                cases created <;> rfl
          · rfl

end BasinHandle

/-! ## Resolving a name to a basin -/

namespace StreamController

/-- A basin gets its handle, and the handle a place in the cache. -/
def placeBasin (basinName : String) (basin : Basin) :
    Program server (Except ControllerError BasinHandle) :=
  .call (S := server) (.newBasinHandle basin) fun handle =>
    .call (S := server) (.insertBasin basinName handle) fun _ => .done (.ok handle)

/-- What the handling of a missing basin leads to. -/
def foundBasin (basinName : String) :
    Except ControllerError Basin → Program server (Except ControllerError BasinHandle)
  | .ok basin => placeBasin basinName basin
  | .error error => .done (.error error)

/-- What the load of a basin leads to. -/
def loadedBasin (basinName : String) (missing : Request Basin) :
    Except BasinError (Option Basin) → Program server (Except ControllerError BasinHandle)
  | .ok (some basin) => placeBasin basinName basin
  | .ok none => missing.run.bind (foundBasin basinName)
  | .error error => .done (.error (.basin error))

/-- What is done with the lock held, and no cached handle. -/
def openBasin (basinName : String) (missing : Request Basin) :
    Program server (Except ControllerError BasinHandle) :=
  (storageCalls (Basin.load basinName).run).bind (loadedBasin basinName missing)

def releaseBasin (result : Except ControllerError BasinHandle) :
    Program server (Except ControllerError BasinHandle) :=
  .call (S := server) .unlockBasinInit fun _ => .done result

theorem getBasin_eq (basinName : String) (missing : Request Basin) :
    (getBasin basinName missing).run =
      .call (S := server) (.readBasins basinName) fun
        | some basin => .done (.ok basin)
        | none =>
            .call (S := server) .lockBasinInit fun _ =>
              .call (S := server) (.readBasins basinName) fun
                | some basin => releaseBasin (.ok basin)
                | none => (openBasin basinName missing).bind releaseBasin := by
  change Program.call _ _ = Program.call _ _
  congr 1
  funext answer
  cases answer with
  | some basin => rfl
  | none =>
      change Program.call _ _ = Program.call _ _
      congr 1
      funext _
      change Program.call _ _ = Program.call _ _
      congr 1
      funext answer
      cases answer with
      | some basin => rfl
      | none =>
          change Program.bind (ExceptT.run (onServer _ _ >>= _)) _ = Program.bind _ _
          rw [run_bind, onServer, run_orThrow, openBasin]
          simp only [Program.bind_assoc]
          congr 1
          funext loaded
          rcases loaded with error | _ | basin
          · rfl
          · simp only [Program.bind_done, loadedBasin]
            change Program.bind (ExceptT.run (missing >>= _)) _ = _
            rw [run_bind]
            simp only [Program.bind_assoc]
            congr 1
            funext found
            cases found <;> rfl
          · rfl

/-! ## Requests -/

/-- `result?` in a request, call by call. -/
def andThen {α β : Type} (next : α → Program server (Except ControllerError β)) :
    Except ControllerError α → Program server (Except ControllerError β)
  | .ok value => next value
  | .error error => .done (.error error)

theorem run_bind_andThen {α β : Type} (request : Request α) (next : α → Request β) :
    (request >>= next).run = request.run.bind (andThen fun value => (next value).run) := by
  rw [run_bind]
  congr 1
  funext result
  cases result <;> rfl

/-- What an append does with the stream's handle. -/
def appendTo (stream : StreamHandle) (data : Bytes) :
    Program server (Except ControllerError UInt64) :=
  .call (S := server) (.send stream (.append data)) fun
    | none => .done (.error (.internal "stream actor stopped"))
    | some replyRx =>
        .call (S := server) (.receive .append replyRx) fun
          | none => .done (.error (.internal "stream actor dropped append reply"))
          | some (.ok ack) => .done (.ok ack.nextSeqNum)
          | some (.error error) => .done (.error (.stream error))

theorem run_appendTo (stream : StreamHandle) (data : Bytes) :
    ExceptT.run (do return (← stream.append data).nextSeqNum) = appendTo stream data := by
  change Program.call _ _ = Program.call _ _
  congr 1
  funext answer
  cases answer with
  | none => rfl
  | some replyRx =>
      change Program.call _ _ = Program.call _ _
      congr 1
      funext answer
      rcases answer with _ | _ | ack <;> rfl

theorem append_eq (basinName streamName : String) (data : Bytes) :
    (append basinName streamName data).run =
      andThen (fun _ =>
        andThen (fun _ =>
          (getOrCreateBasin basinName).run.bind <| andThen fun basin =>
            (basin.getStream streamName true).run.bind <| andThen fun stream =>
              appendTo stream data)
          (validateName "stream_name" streamName))
        (validateName "basin_name" basinName) := by
  simp only [append, ← run_appendTo, run_bind_andThen, run_ofResult, Program.bind_done]

theorem readFollow_eq (basinName streamName : String) (startSeqNum : UInt64) :
    (readFollow basinName streamName startSeqNum).run =
      andThen (fun _ =>
        andThen (fun _ =>
          (getExistingBasin basinName).run.bind <| andThen fun basin =>
            (basin.getStream streamName false).run.bind fun result =>
              andThen (fun stream => (followStream stream startSeqNum).run)
                (result.mapError (mapStreamNotFound basinName streamName)))
          (validateName "stream_name" streamName))
        (validateName "basin_name" basinName) := by
  simp only [readFollow, run_bind_andThen, run_ofResult, run_adapt, Program.bind_done,
    Program.bind_assoc]

theorem listStreams_eq (basinName : String) :
    (listStreams basinName).run =
      andThen (fun _ =>
        (getExistingBasin basinName).run.bind <| andThen fun basin =>
          (onServer .stream (Stream.list basin.basinId)).run)
        (validateName "basin_name" basinName) := by
  simp only [listStreams, run_bind_andThen, run_ofResult, Program.bind_done]

end StreamController

end Slatestreams
