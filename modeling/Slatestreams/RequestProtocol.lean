import Slatestreams.ControllerCalls
import Slatestreams.Listing
import Slatestreams.NameLocks

/-! # Requests follow the protocol

Every request of a client and every turn of a following task makes the calls
that its standing allows, whatever the answers are. -/

namespace Slatestreams

open Foundation

/-! ## Loads of basins, call by call -/

/-- What a load makes of the answer to its one lookup. -/
def Basin.loadResult (basinName : String) :
    Except StorageError (Option StorageRecord) → Except BasinError (Option Basin)
  | .error error => .error (.storageError "error loading basin metadata" error)
  | .ok none => .ok none
  | .ok (some record) =>
      match deserialiseBasinId record.value with
      | .ok basinId => .ok (some ⟨basinId, basinName⟩)
      | .error error => .error error

theorem Basin.load_eq (basinName : String) :
    (Basin.load basinName).run =
      .call (S := storage) (.get .metaStorage (constructMetadataKey basinName)) fun answer =>
        .done (loadResult basinName answer) := by
  simp only [Basin.load, get, Program.perform, run_bind, run_orThrow, Program.bind_call,
    Program.bind_done]
  congr 1
  funext answer
  rcases answer with error | _ | record
  · rfl
  · rfl
  · cases decoded : deserialiseBasinId record.value <;>
      simp only [Program.bind_done, loadResult, decoded] <;> rfl

theorem StreamMetadata.deserialise_error {data : Bytes} {error : StreamError}
    (failed : StreamMetadata.deserialise data = .error error) (missing : String) :
    error ≠ .streamDoesNotExist missing := by
  unfold StreamMetadata.deserialise at failed
  split at failed
  · cases failed
    exact nofun
  · cases failed

/-! ## Resolving names -/

namespace Standing

variable {call : ServerCall}

/-- What a task stands at with its lock still held, once its body is done. -/
def BasinHeld (call : ServerCall) (standing : Standing) : Except ControllerError BasinHandle → Prop
  | .ok handle => standing = .atBasin (.cached handle)
  | .error _ => ∃ stage : BasinStage, standing = .atBasin stage ∧ stage.GaveUp call

def BasinFound (standing : Standing) : Except ControllerError BasinHandle → Prop
  | .ok handle => standing = .free (some handle) none
  | .error _ => standing = .failed

def StreamHeld (call : ServerCall) (handle : BasinHandle) (standing : Standing) :
    Except ControllerError StreamHandle → Prop
  | .ok stream => standing = .atStream handle (.cached stream)
  | .error _ => ∃ stage : StreamStage, standing = .atStream handle stage ∧ stage.GaveUp call

def StreamFound (handle : BasinHandle) (standing : Standing) :
    Except ControllerError StreamHandle → Prop
  | .ok stream => standing = .free (some handle) (some stream)
  | .error _ => standing = .failed

theorem meets_releaseBasin {standing : Standing} {result : Except ControllerError BasinHandle}
    (held : BasinHeld call standing result) :
    (StreamController.releaseBasin result).Meets (protocol call) BasinFound standing := by
  cases result with
  | ok handle =>
      rcases held with rfl
      exact ⟨.inl ⟨handle, rfl⟩, fun _ _ => rfl⟩
  | error error =>
      rcases held with ⟨stage, rfl, gaveUp⟩
      refine ⟨.inr gaveUp, fun _ _ => ?_⟩
      cases stage with
      | cached handle => exact gaveUp.elim
      | _ => rfl

theorem meets_releaseStream {handle : BasinHandle} {standing : Standing}
    {result : Except ControllerError StreamHandle} (held : StreamHeld call handle standing result) :
    (handle.releaseStream result).Meets (protocol call) (StreamFound handle) standing := by
  cases result with
  | ok stream =>
      rcases held with rfl
      exact ⟨⟨rfl, .inl ⟨stream, rfl⟩⟩, fun _ _ => rfl⟩
  | error error =>
      rcases held with ⟨stage, rfl, gaveUp⟩
      refine ⟨⟨rfl, .inr gaveUp⟩, fun _ _ => ?_⟩
      cases stage with
      | cached stream => exact gaveUp.elim
      | _ => rfl

theorem meets_placeBasin (basin : Basin) :
    (StreamController.placeBasin call.name.1 basin).Meets (protocol call) (BasinHeld call)
      (.atBasin (.stored basin.basinId)) :=
  ⟨rfl, fun _ _ => ⟨⟨rfl, rfl⟩, fun _ _ => rfl⟩⟩

/-- What finds or makes a basin for a name that has none. -/
def MakesBasin (call : ServerCall) (missing : Request Basin) : Prop :=
  missing.run.Meets (protocol call)
    (fun standing result =>
      match result with
      | .ok basin => standing = .atBasin (.stored basin.basinId)
      | .error _ => ∃ stage : BasinStage, standing = .atBasin stage ∧ stage.GaveUp call)
    (.atBasin .missing)

theorem makesBasin_new : MakesBasin call (onServer .basin (Basin.new call.name.1)) := by
  rw [MakesBasin, onServer, run_orThrow, Basin.new_eq]
  refine ⟨rfl, fun basinId _ => ⟨rfl, fun answer _ => ?_⟩⟩
  cases answer with
  | ok => exact rfl
  | error error => exact ⟨.failed, rfl, trivial⟩

theorem makesBasin_throw (finds : call.creates = false) (error : ControllerError) :
    MakesBasin call (throw error) :=
  ⟨.missing, rfl, finds⟩

theorem meets_openBasin {missing : Request Basin} (makes : MakesBasin call missing) :
    (StreamController.openBasin call.name.1 missing).Meets (protocol call) (BasinHeld call)
      (.atBasin .uncached) := by
  rw [StreamController.openBasin, Basin.load_eq]
  refine ⟨rfl, fun answer _ => ?_⟩
  rcases answer with error | _ | record
  · exact ⟨.failed, rfl, trivial⟩
  · change Program.Meets _ _ (Standing.atBasin .missing)
      (missing.run.bind (StreamController.foundBasin call.name.1))
    refine Program.Meets.bind (makes.weaken fun standing result found => ?_)
    cases result with
    | ok basin =>
        rcases found with rfl
        exact meets_placeBasin basin
    | error error => exact found
  · change Program.Meets _ _ (Standing.atBasin (.loaded (.ok (some record))))
      (StreamController.loadedBasin _ _ (Basin.loadResult _ (.ok (some record))))
    cases decoded : Basin.deserialiseBasinId record.value with
    | ok basinId =>
        simp only [BasinStage.loaded, Basin.loadResult, decoded]
        exact meets_placeBasin ⟨basinId, call.name.1⟩
    | error error =>
        simp only [BasinStage.loaded, Basin.loadResult, decoded]
        exact ⟨.failed, rfl, trivial⟩

theorem meets_getBasin {missing : Request Basin} (makes : MakesBasin call missing) :
    (StreamController.getBasin call.name.1 missing).run.Meets (protocol call) BasinFound
      (.free none none) := by
  rw [StreamController.getBasin_eq]
  refine ⟨rfl, fun found _ => ?_⟩
  cases found with
  | some handle => exact rfl
  | none =>
      refine ⟨trivial, fun _ _ => ⟨⟨rfl, rfl⟩, fun found _ => ?_⟩⟩
      cases found with
      | some handle =>
          have held : BasinHeld call (atBasin (.cached handle)) (.ok handle) := rfl
          exact meets_releaseBasin held
      | none =>
          exact Program.Meets.bind
            ((meets_openBasin makes).weaken fun _ _ held => meets_releaseBasin held)

theorem meets_placeStream (handle : BasinHandle) (stream : Stream) :
    (handle.placeStream call.name.2 stream).Meets (protocol call) (StreamHeld call handle)
      (.atStream handle (.loaded stream)) :=
  ⟨rfl, fun _ _ => ⟨⟨rfl, rfl, rfl⟩, fun _ _ => rfl⟩⟩

theorem meets_newStream (handle : BasinHandle) :
    ((storageCalls (Stream.new handle.basinId call.name.2).run).bind
        (handle.createdStream call.name.2)).Meets (protocol call) (StreamHeld call handle)
      (.atStream handle .missing) := by
  rw [Stream.new_eq]
  refine ⟨rfl, fun streamId _ => ⟨rfl, fun answer _ => ?_⟩⟩
  rcases answer with error | ⟨⟩
  · exact ⟨.failed, rfl, trivial⟩
  · refine ⟨rfl, fun answer _ => ?_⟩
    rcases answer with error | ⟨⟩
    · exact ⟨.failed, rfl, trivial⟩
    · exact meets_placeStream handle _

theorem meets_openStream (handle : BasinHandle) {create : Bool} (creates : call.creates = create) :
    (handle.openStream call.name.2 create).Meets (protocol call) (StreamHeld call handle)
      (.atStream handle .uncached) := by
  rw [BasinHandle.openStream, Stream.load_eq]
  refine ⟨rfl, fun answer _ => ?_⟩
  rcases answer with error | _ | record
  · exact ⟨.failed, rfl, trivial⟩
  · cases create with
    | true => exact meets_newStream handle
    | false => exact ⟨.missing, rfl, creates⟩
  · change Program.Meets _ _
      (Standing.atStream handle (.metadataLoaded (.ok (some record))))
      ((storageCalls (Stream.loadNamed _ _ (.ok (some record)))).bind _)
    cases decoded : StreamMetadata.deserialise record.value with
    | error error =>
        simp only [StreamStage.metadataLoaded, Stream.loadNamed, decoded]
        have exists_ := StreamMetadata.deserialise_error decoded
        refine (?_ : Program.Meets _ _ _ (BasinHandle.loadedStream _ _ _ (.error error)))
        cases error with
        | streamDoesNotExist missing => exact absurd rfl (exists_ missing)
        | _ => exact ⟨.failed, rfl, trivial⟩
    | ok metadata =>
        simp only [StreamStage.metadataLoaded, Stream.loadNamed, decoded]
        refine ⟨rfl, fun answer _ => ?_⟩
        change Program.Meets _ _ (Standing.atStream handle (.blockLoaded metadata answer))
          ((storageCalls (Stream.loadResult metadata answer)).bind _)
        rcases answer with error | _ | record
        · exact ⟨.failed, rfl, trivial⟩
        · exact meets_placeStream handle _
        · cases parsed : SeqBlock.deserialize record.value with
          | error error =>
              simp only [StreamStage.blockLoaded, Stream.loadResult, parsed]
              exact ⟨.failed, rfl, trivial⟩
          | ok seqBlock =>
              cases resumed : SequenceAllocator.new seqBlock with
              | none =>
                  simp only [StreamStage.blockLoaded, Stream.loadResult, parsed, resumed]
                  trivial
              | some allocator =>
                  simp only [StreamStage.blockLoaded, Stream.loadResult, parsed, resumed]
                  exact meets_placeStream handle ⟨allocator, metadata⟩

theorem meets_getStream (handle : BasinHandle) {create : Bool} (creates : call.creates = create) :
    (handle.getStream call.name.2 create).run.Meets (protocol call) (StreamFound handle)
      (.free (some handle) none) := by
  rw [BasinHandle.getStream_eq]
  refine ⟨⟨rfl, rfl⟩, fun found _ => ?_⟩
  cases found with
  | some stream => exact rfl
  | none =>
      refine ⟨rfl, fun _ _ => ⟨⟨rfl, rfl, rfl⟩, fun found _ => ?_⟩⟩
      cases found with
      | some stream =>
          have held : StreamHeld call handle (atStream handle (.cached stream)) (.ok stream) :=
            rfl
          exact meets_releaseStream held
      | none =>
          exact Program.Meets.bind
            ((meets_openStream handle creates).weaken fun _ _ held => meets_releaseStream held)

/-! ## Requests -/

theorem meets_ofResult {α β : Type} {post : Standing → Except ControllerError β → Prop}
    {standing : Standing} {result : Except ControllerError α}
    {next : α → Program server (Except ControllerError β)}
    (failed : ∀ error, result = .error error → post standing (.error error))
    (meets : ∀ value, result = .ok value → (next value).Meets (protocol call) post standing) :
    (StreamController.andThen next result).Meets (protocol call) post standing := by
  cases result with
  | ok value => exact meets value rfl
  | error error => exact failed error rfl

theorem meets_appendTo {basinName streamName : String} {data : Bytes} (handle : BasinHandle)
    (stream : StreamHandle) :
    (StreamController.appendTo stream data).Meets (protocol (.append basinName streamName data))
      (fun standing result => Ends (.append basinName streamName data) standing (.appended result))
      (.free (some handle) (some stream)) := by
  refine ⟨⟨rfl, rfl⟩, fun sent _ => ?_⟩
  cases sent with
  | none => exact .inl rfl
  | some replyRx =>
      refine ⟨rfl, fun answer _ => ?_⟩
      rcases answer with _ | error | ack
      · exact .inl rfl
      · exact .inl rfl
      · exact ⟨replyRx, ack, rfl, rfl⟩

theorem meets_append (basinName streamName : String) (data : Bytes) :
    (ServerCall.append basinName streamName data).code.Meets
      (protocol (.append basinName streamName data)) (Ends (.append basinName streamName data))
      (.free none none) := by
  refine Program.Meets.bind ?_
  rw [StreamController.append_eq]
  refine meets_ofResult (fun error failed => .inr ⟨rfl, .inl failed⟩) fun _ _ =>
    meets_ofResult (fun error failed => .inr ⟨rfl, .inr failed⟩) fun _ _ => ?_
  refine Program.Meets.bind ((meets_getBasin makesBasin_new).weaken fun standing found at_ => ?_)
  refine meets_ofResult (fun error failed => ?_) fun handle ok => ?_
  · subst failed
    exact .inl at_
  · subst ok
    rcases at_ with rfl
    refine Program.Meets.bind ((meets_getStream handle rfl).weaken fun standing found at_ => ?_)
    refine meets_ofResult (fun error failed => ?_) fun stream ok => ?_
    · subst failed
      exact .inl at_
    · subst ok
      rcases at_ with rfl
      exact meets_appendTo handle stream

theorem meets_followStream {basinName streamName : String} {startSeqNum : UInt64}
    (handle : BasinHandle) (stream : StreamHandle) :
    (StreamController.followStream stream startSeqNum).run.Meets
      (protocol (.readFollow basinName streamName startSeqNum)) (fun _ _ => True)
      (.free (some handle) (some stream)) := by
  refine ⟨⟨rfl, rfl⟩, fun sent _ => ?_⟩
  cases sent with
  | none => trivial
  | some replyRx =>
      refine ⟨rfl, fun answer _ => ?_⟩
      cases answer with
      | none => trivial
      | some subscription => exact ⟨rfl, fun _ _ => trivial⟩

theorem meets_readFollow (basinName streamName : String) (startSeqNum : UInt64) :
    (ServerCall.readFollow basinName streamName startSeqNum).code.Meets
      (protocol (.readFollow basinName streamName startSeqNum))
      (Ends (.readFollow basinName streamName startSeqNum)) (.free none none) := by
  refine Program.Meets.bind ?_
  rw [StreamController.readFollow_eq]
  refine meets_ofResult (fun _ _ => trivial) fun _ _ => meets_ofResult (fun _ _ => trivial)
    fun _ _ => Program.Meets.bind ((meets_getBasin (makesBasin_throw rfl _)).weaken
      fun standing found at_ => meets_ofResult (fun _ _ => trivial) fun handle ok => ?_)
  subst ok
  rcases at_ with rfl
  refine Program.Meets.bind ((meets_getStream handle rfl).weaken fun standing found at_ => ?_)
  cases found with
  | error error => trivial
  | ok stream =>
      rcases at_ with rfl
      exact (meets_followStream handle stream).weaken fun _ _ _ => trivial

/-- Listings only look at the stores. -/
theorem meets_reads {α : Type} {basin : Option BasinHandle} {stream : Option StreamHandle}
    {program : Program storage α} (reads : program.Only StorageOp.Reads) :
    (storageCalls program).Meets (protocol call) (fun _ _ => True) (.free basin stream) := by
  induction program with
  | done value => trivial
  | panic message => trivial
  | call op next induction =>
      exact ⟨reads.1, fun answer _ => induction answer (reads.2 answer)⟩

theorem meets_onServer {ε α : Type} {wrap : ε → ControllerError} {basin : Option BasinHandle}
    {stream : Option StreamHandle} {program : ExceptT ε (Program storage) α}
    (reads : program.run.Only StorageOp.Reads) :
    (onServer wrap program).run.Meets (protocol call) (fun _ _ => True) (.free basin stream) := by
  rw [onServer, run_orThrow]
  refine Program.Meets.bind ((meets_reads reads).weaken fun _ result _ => ?_)
  cases result <;> trivial

theorem meets_listBasins :
    ServerCall.listBasins.code.Meets (protocol .listBasins) (Ends .listBasins)
      (.free none none) :=
  Program.Meets.bind ((meets_onServer Basin.only_list).weaken fun _ _ _ => trivial)

theorem meets_listStreams (basinName : String) :
    (ServerCall.listStreams basinName).code.Meets (protocol (.listStreams basinName))
      (Ends (.listStreams basinName)) (.free none none) := by
  refine Program.Meets.bind ?_
  rw [StreamController.listStreams_eq]
  refine meets_ofResult (fun _ _ => trivial) fun _ _ =>
    Program.Meets.bind ((meets_getBasin (makesBasin_throw rfl _)).weaken
      fun standing found at_ => meets_ofResult (fun _ _ => trivial) fun handle ok => ?_)
  subst ok
  rcases at_ with rfl
  exact (meets_onServer (Stream.only_list _)).weaken fun _ _ _ => trivial

theorem meets_request (call : ServerCall) (client : call.isFollow = false) :
    call.code.Meets (protocol call) (Ends call) (.free none none) := by
  cases call with
  | append basinName streamName data => exact meets_append basinName streamName data
  | readFollow basinName streamName startSeqNum =>
      exact meets_readFollow basinName streamName startSeqNum
  | listStreams basinName => exact meets_listStreams basinName
  | listBasins => exact meets_listBasins
  | follow basinName streamName follower => cases client

/-! ## Following tasks -/

section Follow

variable {basinName streamName : String} {follower : Follower}

/-- Where a turn of a following task ends. -/
def Turned (follower : Follower) (standing : Standing) : Option Receiver → Prop
  | some _ => ∃ basin, standing = .free basin (some follower.readStream)
  | none => True

theorem Turned.ends {standing : Standing} {receiver : Option Receiver}
    (turned : Turned follower standing receiver) :
    Ends (.follow basinName streamName follower) standing (.turned receiver) := by
  cases receiver with
  | none => trivial
  | some receiver => exact turned

theorem meets_backfill (basin : Option BasinHandle) (seqNum : UInt64) (count : Nat) :
    (follower.backfill 0 seqNum count).Meets (protocol (.follow basinName streamName follower))
      (Turned follower) (.free basin (some follower.readStream)) := by
  induction count generalizing basin seqNum with
  | zero => exact ⟨basin, rfl⟩
  | succ count induction =>
      refine ⟨⟨rfl, seqNum, rfl⟩, fun sent _ => ?_⟩
      cases sent with
      | none => exact ⟨⟨_, _, rfl⟩, fun _ _ => trivial⟩
      | some replyRx =>
          refine ⟨rfl, fun answer _ => ?_⟩
          rcases answer with _ | error | _ | record
          · exact ⟨⟨_, _, rfl⟩, fun _ _ => trivial⟩
          · exact ⟨⟨_, _, rfl⟩, fun _ _ => trivial⟩
          · exact induction none (seqNum + 1)
          · refine ⟨trivial, fun answer _ => ?_⟩
            cases answer with
            | error error => trivial
            | ok => exact induction none (seqNum + 1)

theorem meets_start :
    (ServerCall.follow basinName streamName follower).code.Meets
      (protocol (.follow basinName streamName follower))
      (Ends (.follow basinName streamName follower)) (.free none (some follower.readStream)) :=
  Program.Meets.bind ((meets_backfill none _ _).weaken fun _ _ turned => turned.ends)

theorem meets_live (basin : Option BasinHandle) (receiver : Receiver) :
    (follower.live 0 receiver).Meets (protocol (.follow basinName streamName follower))
      (Turned follower) (.free basin (some follower.readStream)) := by
  refine ⟨trivial, fun answer _ => ?_⟩
  rcases answer with ⟨error | record, later⟩
  · cases error with
    | lagged => exact ⟨trivial, fun _ _ => trivial⟩
    | closed => trivial
  · simp only [Program.bind_done]
    split
    · refine ⟨trivial, fun answer _ => ?_⟩
      cases answer with
      | error error => trivial
      | ok => exact ⟨basin, rfl⟩
    · exact ⟨basin, rfl⟩

theorem meets_resume {call : ServerCall} {standing : Standing} {value : ServerResult}
    {code : Program server ServerResult} (ends : Ends call standing value)
    (resumes : call.resume value = some code) :
    code.Meets (protocol call) (Ends call) standing := by
  cases call with
  | follow basinName streamName follower =>
      cases value with
      | turned receiver =>
          cases receiver with
          | none => cases resumes
          | some receiver =>
              cases resumes
              rcases ends with ⟨basin, rfl⟩
              exact Program.Meets.bind
                ((meets_live basin receiver).weaken fun _ _ turned => turned.ends)
      | _ => cases resumes
  | _ => cases resumes

end Follow

end Standing

end Slatestreams
