import Slatestreams.RequestProtocol

/-! # Every scan is of an ordered range

The server scans for prefixes only, so the ends of a range it asks for are in order. -/

namespace Slatestreams

open Foundation

def StorageOp.Ordered : StorageOp → Prop
  | .scanIter _ range => range.inverted = false
  | .apply _ _ | .get _ _ | .next _ | .newV4 => True

def ActorOp.Ordered : ActorOp → Prop
  | .storage op => op.Ordered
  | .broadcast _ | .subscribe | .reply _ _ _ => True

def ServerOp.Ordered : ServerOp → Prop
  | .storage op => op.Ordered
  | _ => True

/-! ## The storage layer -/

section Storage

variable {α : Type}

theorem ordered_ofResult {ε : Type} (result : Except ε α) :
    (ofResult result : ExceptT ε (Program storage) α).run.Only StorageOp.Ordered := trivial

theorem Basin.ordered_new (basinName : String) :
    (Basin.new basinName).run.Only StorageOp.Ordered := by
  rw [Basin.new_eq]
  refine ⟨trivial, fun basinId => ⟨trivial, fun answer => ?_⟩⟩
  cases answer <;> trivial

theorem Basin.ordered_load (basinName : String) :
    (Basin.load basinName).run.Only StorageOp.Ordered := by
  rw [Basin.load_eq]
  exact ⟨trivial, fun answer => trivial⟩

theorem Basin.ordered_list : Basin.list.run.Only StorageOp.Ordered := by
  have records (rest : List StorageRecord) :
      (Basin.listRecords rest).run.Only StorageOp.Ordered := by
    induction rest with
    | nil => exact only_run_bind (only_orThrow (.perform (by trivial)) _) fun _ => trivial
    | cons record rest induction =>
        refine only_run_bind (only_orThrow (.perform (by trivial)) _) fun found => ?_
        cases found with
        | none => trivial
        | some record =>
            refine only_run_bind (ordered_ofResult _) fun _ => ?_
            refine only_run_bind (ordered_ofResult _) fun basinName => ?_
            exact only_run_bind induction fun _ => trivial
  have range := prefixRange_ordered metadataPrefix
  refine only_run_bind (only_orThrow (.perform (by exact range)) _) fun iter => ?_
  exact only_run_bind (records iter) fun _ => trivial

theorem Stream.ordered_new (basinId : U128) (streamName : String) :
    (Stream.new basinId streamName).run.Only StorageOp.Ordered := by
  rw [Stream.new_eq]
  refine ⟨trivial, fun streamId => ⟨trivial, fun answer => ?_⟩⟩
  rcases answer with error | ⟨⟩
  · trivial
  · refine ⟨trivial, fun answer => ?_⟩
    cases answer <;> trivial

theorem Stream.ordered_load (basinId : U128) (streamName : String) :
    (Stream.load basinId streamName).run.Only StorageOp.Ordered := by
  rw [Stream.load_eq]
  refine ⟨trivial, fun answer => ?_⟩
  unfold Stream.loadNamed
  split
  · trivial
  · trivial
  · split
    · trivial
    · refine ⟨trivial, fun answer => ?_⟩
      unfold Stream.loadResult
      split
      · trivial
      · trivial
      · split
        · trivial
        · split <;> trivial

theorem Stream.ordered_list (basinId : U128) :
    (Stream.list basinId).run.Only StorageOp.Ordered := by
  have records (rest : List StorageRecord) :
      (Stream.listRecords basinId rest).run.Only StorageOp.Ordered := by
    induction rest with
    | nil => exact only_run_bind (only_orThrow (.perform (by trivial)) _) fun _ => trivial
    | cons record rest induction =>
        refine only_run_bind (only_orThrow (.perform (by trivial)) _) fun found => ?_
        cases found with
        | none => trivial
        | some record =>
            refine only_run_bind (ordered_ofResult _) fun _ => ?_
            refine only_run_bind (ordered_ofResult _) fun streamName => ?_
            exact only_run_bind induction fun _ => trivial
  have range := prefixRange_ordered (metadataPrefix basinId)
  refine only_run_bind (only_orThrow (.perform (by exact range)) _) fun iter => ?_
  exact only_run_bind (records iter) fun _ => trivial

end Storage

/-! ## The requests -/

section Requests

variable {α β : Type}

theorem ordered_storageCalls {program : Program storage α} (only : program.Only StorageOp.Ordered) :
    (storageCalls program).Only ServerOp.Ordered := by
  induction program with
  | done value => trivial
  | panic message => trivial
  | call op next induction => exact ⟨only.1, fun answer => induction answer (only.2 answer)⟩

theorem ordered_onServer {ε : Type} {wrap : ε → ControllerError}
    {program : ExceptT ε (Program storage) α} (only : program.run.Only StorageOp.Ordered) :
    (onServer wrap program).run.Only ServerOp.Ordered :=
  only_orThrow (ordered_storageCalls only) wrap

theorem ordered_andThen {next : α → Program server (Except ControllerError β)}
    (only : ∀ value, (next value).Only ServerOp.Ordered) (result : Except ControllerError α) :
    (StreamController.andThen next result).Only ServerOp.Ordered := by
  cases result with
  | ok value => exact only value
  | error error => trivial

theorem StreamController.ordered_getBasin (basinName : String) {missing : Request Basin}
    (only : missing.run.Only ServerOp.Ordered) :
    (getBasin basinName missing).run.Only ServerOp.Ordered := by
  have place (basin : Basin) : (placeBasin basinName basin).Only ServerOp.Ordered :=
    ⟨trivial, fun _ => ⟨trivial, fun _ => trivial⟩⟩
  rw [getBasin_eq]
  refine ⟨trivial, fun found => ?_⟩
  cases found with
  | some basin => trivial
  | none =>
      refine ⟨trivial, fun _ => ⟨trivial, fun found => ?_⟩⟩
      cases found with
      | some basin => exact ⟨trivial, fun _ => trivial⟩
      | none =>
          refine Program.Only.bind ?_ fun result => ⟨trivial, fun _ => trivial⟩
          refine (ordered_storageCalls (Basin.ordered_load basinName)).bind fun loaded => ?_
          rcases loaded with error | _ | basin
          · trivial
          · refine only.bind fun found => ?_
            cases found with
            | ok basin => exact place basin
            | error error => trivial
          · exact place basin

theorem BasinHandle.ordered_getStream (handle : BasinHandle) (streamName : String)
    (create : Bool) : (handle.getStream streamName create).run.Only ServerOp.Ordered := by
  have place (stream : Stream) : (handle.placeStream streamName stream).Only ServerOp.Ordered :=
    ⟨trivial, fun _ => ⟨trivial, fun _ => trivial⟩⟩
  rw [getStream_eq]
  refine ⟨trivial, fun found => ?_⟩
  cases found with
  | some stream => trivial
  | none =>
      refine ⟨trivial, fun _ => ⟨trivial, fun found => ?_⟩⟩
      cases found with
      | some stream => exact ⟨trivial, fun _ => trivial⟩
      | none =>
          refine Program.Only.bind ?_ fun result => ⟨trivial, fun _ => trivial⟩
          refine (ordered_storageCalls (Stream.ordered_load _ streamName)).bind fun loaded => ?_
          unfold loadedStream
          split
          · exact place _
          · split
            · refine (ordered_storageCalls (Stream.ordered_new _ streamName)).bind fun created => ?_
              cases created with
              | ok stream => exact place stream
              | error error => trivial
            · trivial
          · trivial

theorem StreamHandle.ordered_ask (stream : StreamHandle) (kind : ReplyKind) (reply : String)
    (command : ReplyId → StreamCommand) :
    (stream.ask kind reply command).run.Only ServerOp.Ordered := by
  refine ⟨trivial, fun sent => ?_⟩
  cases sent with
  | none => trivial
  | some replyRx =>
      refine ⟨trivial, fun answer => ?_⟩
      cases answer <;> trivial

theorem Follower.ordered_send (tx : Nat) (item : Except ControllerError Record) :
    (Follower.send tx item).Only ServerOp.Ordered := ⟨trivial, fun _ => trivial⟩

theorem Follower.ordered_backfill (follower : Follower) (tx : Nat) (count : Nat)
    (seqNum : UInt64) : (follower.backfill tx seqNum count).Only ServerOp.Ordered := by
  induction count generalizing seqNum with
  | zero => trivial
  | succ count induction =>
      have read : (follower.readStream.read seqNum).run.Only ServerOp.Ordered :=
        only_run_bind (follower.readStream.ordered_ask _ _ _) fun _ => trivial
      refine read.bind fun answer => ?_
      rcases answer with error | _ | record
      · exact (ordered_send tx _).bind fun _ => trivial
      · exact induction _
      · refine (ordered_send tx _).bind fun sent => ?_
        cases sent with
        | true => exact induction _
        | false => trivial

theorem Follower.ordered_live (follower : Follower) (tx : Nat) (receiver : Receiver) :
    (follower.live tx receiver).Only ServerOp.Ordered := by
  refine ⟨trivial, fun answer => ?_⟩
  rcases answer with ⟨(_ | _) | record, receiver⟩
  · exact (ordered_send tx _).bind fun _ => trivial
  · trivial
  · change Program.Only _ (ite _ _ _)
    split
    · refine (ordered_send tx _).bind fun sent => ?_
      cases sent <;> trivial
    · trivial

/-- The code of a call scans ordered ranges only. -/
theorem ServerCall.ordered_code (call : ServerCall) : call.code.Only ServerOp.Ordered := by
  have missing {basinName : String} (error : ControllerError) :
      (StreamController.getBasin basinName (throw error)).run.Only ServerOp.Ordered :=
    StreamController.ordered_getBasin basinName trivial
  cases call with
  | append basinName streamName data =>
      refine Program.Only.bind ?_ fun _ => trivial
      rw [StreamController.append_eq]
      refine ordered_andThen (fun _ => ordered_andThen (fun _ => ?_) _) _
      have new : (onServer .basin (Basin.new basinName)).run.Only ServerOp.Ordered :=
        ordered_onServer (Basin.ordered_new basinName)
      have basin := StreamController.ordered_getBasin basinName new
      refine basin.bind (ordered_andThen fun basin => ?_)
      refine (basin.ordered_getStream streamName true).bind (ordered_andThen fun stream => ?_)
      rw [← StreamController.run_appendTo]
      refine only_run_bind (only_run_bind (stream.ordered_ask _ _ _) fun _ => trivial) fun _ => ?_
      trivial
  | readFollow basinName streamName startSeqNum =>
      refine Program.Only.bind ?_ fun _ => trivial
      rw [StreamController.readFollow_eq]
      refine ordered_andThen (fun _ => ordered_andThen (fun _ => ?_) _) _
      refine (missing _).bind (ordered_andThen fun basin => ?_)
      refine (basin.ordered_getStream streamName false).bind fun result => ?_
      refine ordered_andThen (fun stream => ?_) _
      exact only_run_bind (stream.ordered_ask _ _ _) fun _ => ⟨trivial, fun _ => trivial⟩
  | listStreams basinName =>
      refine Program.Only.bind ?_ fun _ => trivial
      rw [StreamController.listStreams_eq]
      refine ordered_andThen (fun _ => ?_) _
      refine (missing _).bind (ordered_andThen fun basin => ?_)
      exact ordered_onServer (Stream.ordered_list _)
  | listBasins =>
      exact Program.Only.bind (ordered_onServer Basin.ordered_list) fun _ => trivial
  | follow basinName streamName follower =>
      exact (follower.ordered_backfill 0 _ _).bind fun _ => trivial

theorem ServerCall.ordered_resume {call : ServerCall} {result : ServerResult}
    {code : Program server ServerResult} (resumes : call.resume result = some code) :
    code.Only ServerOp.Ordered := by
  unfold resume at resumes
  split at resumes
  · cases resumes
    exact (Follower.ordered_live _ 0 _).bind fun _ => trivial
  · cases resumes

end Requests

/-! ## The actors -/

theorem StreamActor.ordered_handle (stream : Stream) (command : StreamCommand) :
    (StreamActor.handle stream command).Only ActorOp.Ordered := by
  rcases ActorPhase.handle_begins stream command with ⟨phase, code, begins⟩
  rw [code]
  cases begins with
  | append draws =>
      refine ⟨trivial, fun answer => ?_⟩
      cases answer with
      | ok => exact ⟨trivial, fun _ => ⟨trivial, fun _ => trivial⟩⟩
      | error error => exact ⟨trivial, fun _ => trivial⟩
  | overflow => trivial
  | read => exact ⟨trivial, fun _ => ⟨trivial, fun _ => trivial⟩⟩
  | subscribe => exact ⟨trivial, fun _ => ⟨trivial, fun _ => trivial⟩⟩

theorem ActorStep.ordered {MayFail : StorageOp → Prop} {stores after : Stores}
    {actor next : StreamActor} {effect : ActorEffect}
    (taken : ActorStep MayFail stores actor effect after next)
    (only : actor.code.Only ActorOp.Ordered) : next.code.Only ActorOp.Ordered := by
  cases taken with
  | recv => exact StreamActor.ordered_handle _ _
  | storage calls =>
      rw [calls] at only
      exact only.2 _
  | broadcast calls =>
      rw [calls] at only
      exact only.2 _
  | subscribe calls =>
      rw [calls] at only
      exact only.2 _
  | reply calls =>
      rw [calls] at only
      exact only.2 _

end Slatestreams
