import Slatestreams.Grpc
import Slatestreams.RequestSights
import Slatestreams.Service

/-! # What the statuses say

The response to a request of the gRPC service, in terms of the names there were
when the request was made and those there are when it is answered. -/

namespace Slatestreams

open Foundation

/-! ## Explained responses -/

/-- The names of a listing, between those there were and those there are. -/
structure Listed (names : List String) (Before After : String → Prop) : Prop where
  ascending : names.Pairwise NameBefore
  complete {name : String} : Before name → name ∈ names
  sound {name : String} : name ∈ names → After name

namespace GrpcRequest

/-- The checks that a request has to pass first. -/
def validate : GrpcRequest → Except ControllerError Unit
  | append request => validateNames (request.basinName, request.streamName)
  | read request => validateNames (request.basinName, request.streamName)
  | listBasins => .ok ()
  | listStreams request => validateName "basin_name" request.basinName

inductive Explained (before after : Stores) : GrpcRequest → Except Status GrpcResponse → Prop where
  | invalid {request : GrpcRequest} {error : ControllerError} :
      request.validate = .error error →
      Explained before after request (.error (controllerErrorToStatus error))
  | internal {request : GrpcRequest} {status : Status} :
      request.validate = .ok () → status.code = .internal →
      Explained before after request (.error status)
  | append {request : Pb.AppendRequest} {response : Pb.AppendResponse} :
      (append request).validate = .ok () →
      after.HasStream request.basinName request.streamName →
      Explained before after (.append request) (.ok (.append response))
  | read {request : Pb.ReadRequest} {rx : Nat} :
      (read request).validate = .ok () →
      after.HasStream request.basinName request.streamName →
      Explained before after (.read request) (.ok (.read rx))
  | readNoBasin {request : Pb.ReadRequest} :
      (read request).validate = .ok () → ¬before.HasBasin request.basinName →
      Explained before after (.read request)
        (.error ⟨.notFound, "basin " ++ request.basinName⟩)
  | readNoStream {request : Pb.ReadRequest} :
      (read request).validate = .ok () → after.HasBasin request.basinName →
      ¬before.HasStream request.basinName request.streamName →
      Explained before after (.read request)
        (.error ⟨.notFound, "stream " ++ request.basinName ++ "/" ++ request.streamName⟩)
  | listBasins {response : Pb.ListBasinsResponse} :
      Listed (response.basins.map Pb.BasinView.basinName) before.HasBasin after.HasBasin →
      Explained before after .listBasins (.ok (.listBasins response))
  | listStreams {request : Pb.ListStreamsRequest} {response : Pb.ListStreamsResponse} :
      (listStreams request).validate = .ok () → after.HasBasin request.basinName →
      Listed (response.streams.map Pb.StreamView.streamName)
        (before.HasStream request.basinName) (after.HasStream request.basinName) →
      Explained before after (.listStreams request) (.ok (.listStreams response))
  | listNoBasin {request : Pb.ListStreamsRequest} :
      (listStreams request).validate = .ok () → ¬before.HasBasin request.basinName →
      Explained before after (.listStreams request)
        (.error ⟨.notFound, "basin " ++ request.basinName⟩)

end GrpcRequest

/-- An error that clients see as an internal one. -/
def ControllerError.Internal (error : ControllerError) : Prop :=
  (controllerErrorToStatus error).code = .internal

theorem ControllerError.internal_stream {error : StreamError}
    (exists_ : ∀ missing, error ≠ .streamDoesNotExist missing) :
    (ControllerError.stream error).Internal := by
  cases error with
  | streamDoesNotExist missing => exact absurd rfl (exists_ missing)
  | _ => rfl

/-! ## Resolving names -/

section Yields

variable {before after : Stores} {call : ServerCall}

theorem yields_storageCalls {α : Type} {post : α → Prop} {program : Program storage α}
    (yields : program.Yields (before.Shows after) post) :
    (storageCalls program).Yields (call.Sees before after) post := by
  induction program with
  | done value => exact yields
  | panic message => trivial
  | call op next induction => exact fun answer seen => induction answer (yields answer seen)

/-- What comes of resolving the name of a basin. -/
def BasinResolved (after : Stores) (basinName : String) (Refused : ControllerError → Prop) :
    Except ControllerError BasinHandle → Prop
  | .ok handle => after.basinId basinName = some handle.basinId
  | .error error => Refused error

/-- What comes of finding or making a basin. -/
def BasinMade (after : Stores) (basinName : String) (Refused : ControllerError → Prop) :
    Except ControllerError Basin → Prop
  | .ok basin => after.basinId basinName = some basin.basinId
  | .error error => Refused error

variable {basinName streamName : String} {Refused : ControllerError → Prop}

theorem yields_placeBasin {basin : Basin} (stored : after.basinId basinName = some basin.basinId) :
    (StreamController.placeBasin basinName basin).Yields (call.Sees before after)
      (BasinResolved after basinName Refused) := by
  intro handle same _ _
  change after.basinId basinName = some handle.basinId
  rw [show handle.basinId = basin.basinId from same]
  exact stored

theorem yields_openBasin {missing : Request Basin} (refused : ∀ error, Refused (.basin error))
    (makes : before.metaStorage.get (Basin.constructMetadataKey basinName) = none →
      missing.run.Yields (call.Sees before after) (BasinMade after basinName Refused)) :
    (StreamController.openBasin basinName missing).Yields (call.Sees before after)
      (BasinResolved after basinName Refused) := by
  rw [StreamController.openBasin, Basin.load_eq]
  intro answer seen
  rcases answer with error | _ | record
  · exact refused _
  · change Program.Yields _ _ (missing.run.bind (StreamController.foundBasin basinName))
    refine Program.Yields.bind (makes seen) fun result made => ?_
    cases result with
    | error error => exact made
    | ok basin => exact yields_placeBasin made
  · change Program.Yields _ _
      (StreamController.loadedBasin _ _ (Basin.loadResult basinName (.ok (some record))))
    cases decoded : Basin.deserialiseBasinId record.value with
    | error error =>
        simp only [Basin.loadResult, decoded]
        exact refused _
    | ok basinId =>
        simp only [Basin.loadResult, decoded]
        refine yields_placeBasin (Option.bind_eq_some_iff.mpr ⟨record.value, seen, ?_⟩)
        rw [decoded]
        rfl

theorem yields_getBasin {missing : Request Basin} (refused : ∀ error, Refused (.basin error))
    (makes : before.metaStorage.get (Basin.constructMetadataKey basinName) = none →
      missing.run.Yields (call.Sees before after) (BasinMade after basinName Refused)) :
    (StreamController.getBasin basinName missing).run.Yields (call.Sees before after)
      (BasinResolved after basinName Refused) := by
  rw [StreamController.getBasin_eq]
  intro found seen
  cases found with
  | some handle => exact seen
  | none =>
      intro _ _ found seen
      cases found with
      | some handle => exact fun _ _ => seen
      | none =>
          exact Program.Yields.bind (yields_openBasin refused makes)
            fun _ resolved _ _ => resolved

theorem yields_getOrCreateBasin :
    (StreamController.getOrCreateBasin basinName).run.Yields (call.Sees before after)
      (BasinResolved after basinName ControllerError.Internal) := by
  refine yields_getBasin (fun _ => rfl) fun _ => ?_
  rw [onServer, run_orThrow, Basin.new_eq]
  intro basinId _ answer seen
  rcases answer with error | ⟨⟩
  · exact rfl
  · refine Option.bind_eq_some_iff.mpr ⟨_, seen, ?_⟩
    change (Basin.deserialiseBasinId (BytesBuilder.new.addU128 basinId |>.build)).toOption = _
    rw [Basin.deserialiseBasinId_putU128]
    rfl

/-- An error in finding a basin says that there was none, or is an internal one. -/
def BasinMissing (before : Stores) (basinName : String) (error : ControllerError) : Prop :=
  error.Internal ∨ error = .notFound ("basin " ++ basinName) ∧ ¬before.HasBasin basinName

theorem yields_getExistingBasin :
    (StreamController.getExistingBasin basinName).run.Yields (call.Sees before after)
      (BasinResolved after basinName (BasinMissing before basinName)) := by
  refine yields_getBasin (fun _ => .inl rfl) fun missing => .inr ⟨rfl, ?_⟩
  rintro ⟨basinId, found⟩
  rcases Option.bind_eq_some_iff.mp found with ⟨value, stored, _⟩
  exact absurd (missing.symm.trans stored) nofun

/-- What comes of resolving the name of a stream in a basin. -/
def StreamResolved (before : Stores) (basinId : U128) (streamName : String) (create : Bool) :
    Except ControllerError StreamHandle → Prop
  | .ok _ => True
  | .error error =>
      error.Internal ∨ create = false ∧ error = .stream (.streamDoesNotExist streamName) ∧
        before.metaStorage.get (Stream.constructMetadataKey basinId streamName) = none

variable {handle : BasinHandle} {create : Bool}

theorem yields_placeStream (stream : Stream) :
    (handle.placeStream streamName stream).Yields (call.Sees before after)
      (StreamResolved before handle.basinId streamName create) :=
  fun _ _ _ _ => trivial

theorem yields_newStream :
    ((storageCalls (Stream.new handle.basinId streamName).run).bind
        (handle.createdStream streamName)).Yields (call.Sees before after)
      (StreamResolved before handle.basinId streamName create) := by
  rw [Stream.new_eq]
  intro streamId _ answer _
  rcases answer with error | ⟨⟩
  · exact .inl rfl
  · intro answer _
    rcases answer with error | ⟨⟩
    · exact .inl rfl
    · exact yields_placeStream _

theorem yields_openStream :
    (handle.openStream streamName create).Yields (call.Sees before after)
      (StreamResolved before handle.basinId streamName create) := by
  rw [BasinHandle.openStream, Stream.load_eq]
  intro answer seen
  rcases answer with error | _ | record
  · exact .inl rfl
  · cases create with
    | true => exact yields_newStream
    | false => exact .inr ⟨rfl, rfl, seen⟩
  · change Program.Yields _ _
      ((storageCalls (Stream.loadNamed _ _ (.ok (some record)))).bind _)
    cases decoded : StreamMetadata.deserialise record.value with
    | error error =>
        simp only [Stream.loadNamed, decoded]
        have exists_ := StreamMetadata.deserialise_error decoded
        refine (?_ : Program.Yields _ _ (BasinHandle.loadedStream _ _ _ (.error error)))
        cases error with
        | streamDoesNotExist missing => exact absurd rfl (exists_ missing)
        | _ => exact .inl rfl
    | ok metadata =>
        simp only [Stream.loadNamed, decoded]
        intro answer _
        change Program.Yields _ _ ((storageCalls (Stream.loadResult metadata answer)).bind _)
        rcases answer with error | _ | record
        · exact .inl rfl
        · exact yields_placeStream _
        · cases parsed : SeqBlock.deserialize record.value with
          | error error =>
              simp only [Stream.loadResult, parsed]
              exact .inl rfl
          | ok seqBlock =>
              cases resumed : SequenceAllocator.new seqBlock with
              | none =>
                  simp only [Stream.loadResult, parsed, resumed]
                  trivial
              | some allocator =>
                  simp only [Stream.loadResult, parsed, resumed]
                  exact yields_placeStream _

theorem yields_getStream :
    (handle.getStream streamName create).run.Yields (call.Sees before after)
      (StreamResolved before handle.basinId streamName create) := by
  rw [BasinHandle.getStream_eq]
  intro found _
  cases found with
  | some stream => trivial
  | none =>
      intro _ _ found _
      cases found with
      | some stream => exact fun _ _ => trivial
      | none => exact Program.Yields.bind yields_openStream fun _ resolved _ _ => resolved

end Yields

/-! ## Listings -/

/-- A name has the bytes it was decoded from. -/
theorem fromUtf8_eq {bytes : Bytes} {name : String} (decoded : fromUtf8 bytes = .ok name) :
    name.toByteArray.data.toList = bytes := by
  unfold fromUtf8 at decoded
  cases found : String.fromUTF8? ⟨bytes.toArray⟩ with
  | none =>
      rw [found] at decoded
      cases decoded
  | some other =>
      rw [found] at decoded
      cases decoded
      unfold String.fromUTF8? at found
      split at found
      · cases found
        rfl
      · cases found

section Listings

variable {before after : Stores} {records : List StorageRecord}

/-- The names whose keys a scan has found. -/
theorem listed_of_scanned {front : Bytes} {key : String → Bytes} {names : List String}
    {Before After : String → Prop}
    (key_eq : ∀ name, key name = front ++ name.toByteArray.data.toList)
    (scanned : before.Scanned after (prefixRange front) records)
    (keys : records.map StorageRecord.key = names.map key)
    (complete : ∀ name, Before name → ∃ value, before.metaStorage.get (key name) = some value)
    (sound : ∀ record ∈ records, ∀ name, record.key = key name → After name) :
    Listed names Before After where
  ascending := ascending_of_keys key_eq keys scanned.ascending
  complete {name} was := by
    rcases complete name was with ⟨value, found⟩
    have inside : (prefixRange front).contains (key name) = true := by
      rw [prefixRange_contains_iff, key_eq]
      exact List.prefix_append _ _
    have member : key name ∈ names.map key := by
      rw [← keys]
      exact List.mem_map.mpr ⟨⟨key name, value⟩, scanned.complete inside found, rfl⟩
    rcases List.mem_map.mp member with ⟨other, listed, same⟩
    rw [key_eq, key_eq] at same
    rwa [← string_bytes_injective (List.append_cancel_left same)]
  sound {name} listed := by
    have member : key name ∈ records.map StorageRecord.key := by
      rw [keys]
      exact List.mem_map_of_mem listed
    rcases List.mem_map.mp member with ⟨record, found, same⟩
    exact sound record found name same

/-- The loop of a listing, which makes a view of each record. -/
structure ListsRecords {ε View : Type} (wrap : StorageError → ε)
    (view : StorageRecord → Except ε View)
    (loop : List StorageRecord → ExceptT ε (Program storage) (List View)) : Prop where
  nil : (loop []).run =
    .call (S := storage) (.next []) fun
      | .ok _ => .done (.ok [])
      | .error error => .done (.error (wrap error))
  cons (record : StorageRecord) (rest : List StorageRecord) : (loop (record :: rest)).run =
    .call (S := storage) (.next (record :: rest)) fun
      | .ok none => .done (.ok [])
      | .ok (some record) =>
          match view record with
          | .ok view =>
              (loop rest).run.bind fun
                | .ok views => .done (.ok (view :: views))
                | .error error => .done (.error error)
          | .error error => .done (.error error)
      | .error error => .done (.error (wrap error))

/-- A listing has a view of every record, or ends with an error. -/
def RecordsListed {ε View : Type} (wrap : StorageError → ε) (view : StorageRecord → Except ε View)
    (records : List StorageRecord) : Except ε (List View) → Prop
  | .ok views => records.map view = views.map Except.ok
  | .error error =>
      (∃ failure, error = wrap failure) ∨ ∃ record ∈ records, view record = .error error

theorem ListsRecords.yields {ε View : Type} {wrap : StorageError → ε}
    {view : StorageRecord → Except ε View}
    {loop : List StorageRecord → ExceptT ε (Program storage) (List View)}
    (lists : ListsRecords wrap view loop) (records : List StorageRecord) :
    (loop records).run.Yields (before.Shows after) (RecordsListed wrap view records) := by
  induction records with
  | nil =>
      rw [lists.nil]
      intro answer _
      cases answer with
      | ok found => exact rfl
      | error error => exact .inl ⟨error, rfl⟩
  | cons record rest induction =>
      rw [lists.cons]
      intro answer seen
      cases answer with
      | error error => exact .inl ⟨error, rfl⟩
      | ok found =>
          rcases (seen : found = some record) with rfl
          simp only [List.head?_cons]
          cases made : view record with
          | error error => exact .inr ⟨record, List.mem_cons_self, made⟩
          | ok value =>
              refine Program.Yields.bind induction fun result listed => ?_
              cases result with
              | ok views => exact congrArg₂ List.cons made listed
              | error error =>
                  rcases listed with failed | ⟨other, member, malformed⟩
                  · exact .inl failed
                  · exact .inr ⟨other, List.mem_cons_of_mem _ member, malformed⟩

def Basin.recordView (record : StorageRecord) : Except BasinError BasinView :=
  match deserialiseBasinId record.value with
  | .ok _ =>
      match fromUtf8 (record.key.drop metadataPrefix.length) with
      | .ok basinName => .ok { basinName }
      | .error message => .error (.deserialiseError message)
  | .error error => .error error

def Stream.recordView (basinId : U128) (record : StorageRecord) : Except StreamError StreamView :=
  match StreamMetadata.deserialise record.value with
  | .ok _ =>
      match fromUtf8 (record.key.drop (metadataPrefix basinId).length) with
      | .ok streamName => .ok { streamName }
      | .error message => .error (.deserialiseError message)
  | .error error => .error error

theorem Basin.listsRecords :
    ListsRecords (.storageError "error listing basins") recordView listRecords where
  nil := by
    change Program.call _ _ = Program.call _ _
    congr 1
    funext answer
    cases answer <;> rfl
  cons record rest := by
    simp only [listRecords, nextRecord, Program.perform, run_bind, run_orThrow,
      Program.bind_call, Program.bind_done]
    congr 1
    funext answer
    rcases answer with error | _ | record
    · rfl
    · rfl
    · cases decoded : deserialiseBasinId record.value with
      | error error =>
          simp only [Program.bind_done, run_bind, run_ofResult, recordView, decoded]
      | ok basinId =>
          cases named : fromUtf8 (record.key.drop metadataPrefix.length) with
          | error message =>
              simp only [Program.bind_done, run_bind, run_ofResult, recordView, decoded, named,
                mapError_error]
          | ok basinName =>
              simp only [Program.bind_done, run_bind, run_ofResult, recordView, decoded, named,
                mapError_ok]
              congr 1
              funext result
              cases result <;> rfl

theorem Stream.listsRecords (basinId : U128) :
    ListsRecords .storageError (recordView basinId) (listRecords basinId) where
  nil := by
    change Program.call _ _ = Program.call _ _
    congr 1
    funext answer
    cases answer <;> rfl
  cons record rest := by
    simp only [listRecords, nextRecord, Program.perform, run_bind, run_orThrow,
      Program.bind_call, Program.bind_done]
    congr 1
    funext answer
    rcases answer with error | _ | record
    · rfl
    · rfl
    · cases decoded : StreamMetadata.deserialise record.value with
      | error error =>
          simp only [Program.bind_done, run_bind, run_ofResult, recordView, decoded]
      | ok metadata =>
          cases named : fromUtf8 (record.key.drop (metadataPrefix basinId).length) with
          | error message =>
              simp only [Program.bind_done, run_bind, run_ofResult, recordView, decoded, named,
                mapError_error]
          | ok streamName =>
              simp only [Program.bind_done, run_bind, run_ofResult, recordView, decoded, named,
                mapError_ok]
              congr 1
              funext result
              cases result <;> rfl

theorem keys_of_views {ε View : Type} {view : StorageRecord → Except ε View}
    {name : View → String} {key : String → Bytes}
    (each : ∀ record ∈ records, ∀ value, view record = .ok value → record.key = key (name value))
    {views : List View} (made : records.map view = views.map Except.ok) :
    records.map StorageRecord.key = (views.map name).map key := by
  induction records generalizing views with
  | nil =>
      rw [List.map_nil, eq_comm, List.map_eq_nil_iff] at made
      rw [made]
      rfl
  | cons record rest induction =>
      cases views with
      | nil => cases made
      | cons value views =>
          have parts := List.cons.inj made
          have others := induction (fun other member => each other (List.mem_cons_of_mem _ member))
            parts.2
          rw [List.map_cons, List.map_cons, List.map_cons, others,
            each record List.mem_cons_self value parts.1]

/-- The views of a scan are those of names, in the order of the names. -/
theorem listed_of_views {ε View : Type} {view : StorageRecord → Except ε View}
    {name : View → String} {front : Bytes} {key : String → Bytes} {Before After : String → Prop}
    (key_eq : ∀ name, key name = front ++ name.toByteArray.data.toList)
    (key_view : ∀ record value, front <+: record.key → view record = .ok value →
      record.key = key (name value))
    (scanned : before.Scanned after (prefixRange front) records) {views : List View}
    (made : records.map view = views.map Except.ok)
    (complete : ∀ name, Before name → ∃ value, before.metaStorage.get (key name) = some value)
    (sound : ∀ record value name, view record = .ok value →
      after.metaStorage.get (key name) = some record.value → After name) :
    Listed (views.map name) Before After := by
  have inside (record : StorageRecord) (member : record ∈ records) : front <+: record.key :=
    (prefixRange_contains_iff _ _).mp (scanned.sound member).1
  have keys : records.map StorageRecord.key = (views.map name).map key :=
    keys_of_views (fun record member value => key_view record value (inside record member)) made
  refine listed_of_scanned key_eq scanned keys complete fun record member name same => ?_
  have viewed : view record ∈ views.map Except.ok := made ▸ List.mem_map_of_mem member
  rcases List.mem_map.mp viewed with ⟨value, _, is⟩
  exact sound record value name is.symm (same ▸ (scanned.sound member).2)

/-- A listing is in order before it is sorted. -/
theorem sorted_of_listed {View : Type} (name : View → String) {views : List View}
    {Before After : String → Prop} (listed : Listed (views.map name) Before After) :
    views.mergeSort (fun a b => nameLe (name a) (name b)) = views := by
  apply List.mergeSort_of_pairwise
  apply (List.pairwise_map.mp listed.ascending).imp
  intro left right before
  rw [nameLe, decide_eq_false (List.lt_asymm before)]
  rfl

theorem Basin.key_recordView (record : StorageRecord) (view : BasinView)
    (inside : metadataPrefix <+: record.key) (made : recordView record = .ok view) :
    record.key = constructMetadataKey view.basinName := by
  unfold recordView at made
  split at made
  · split at made
    · rename_i named
      cases made
      rcases inside with ⟨bytes, is⟩
      rw [← is, List.drop_left] at named
      rw [← is, ← fromUtf8_eq named]
      rfl
    · cases made
  · cases made

theorem Stream.key_recordView (basinId : U128) (record : StorageRecord) (view : StreamView)
    (inside : metadataPrefix basinId <+: record.key)
    (made : recordView basinId record = .ok view) :
    record.key = constructMetadataKey basinId view.streamName := by
  unfold recordView at made
  split at made
  · split at made
    · rename_i named
      cases made
      rcases inside with ⟨bytes, is⟩
      rw [← is, List.drop_left] at named
      rw [← is, ← fromUtf8_eq named]
      rfl
    · cases made
  · cases made

theorem Stream.exists_of_recordView {basinId : U128} {record : StorageRecord}
    {error : StreamError} (failed : recordView basinId record = .error error) (missing : String) :
    error ≠ .streamDoesNotExist missing := by
  unfold recordView at failed
  split at failed
  · split at failed
    · cases failed
    · cases failed
      exact nofun
  · rename_i malformed
    cases failed
    exact StreamMetadata.deserialise_error malformed missing

theorem Basin.yields_list :
    Basin.list.run.Yields (before.Shows after) fun result =>
      ∀ views, result = .ok views →
        Listed (views.map BasinView.basinName) before.HasBasin after.HasBasin := by
  simp only [Basin.list, scanIter, Program.perform, run_bind, run_orThrow, Program.bind_call,
    Program.bind_done]
  intro answer scanned
  cases answer with
  | error error =>
      intro views is
      cases is
  | ok records =>
      simp only [Program.bind_done]
      refine Program.Yields.bind (listsRecords.yields records) fun result made => ?_
      cases result with
      | error error =>
          intro views is
          cases is
      | ok views =>
          have listed : Listed (views.map BasinView.basinName) before.HasBasin after.HasBasin := by
            refine listed_of_views (fun _ => rfl) key_recordView scanned made ?_ ?_
            · rintro name ⟨basinId, found⟩
              rcases Option.bind_eq_some_iff.mp found with ⟨value, stored, _⟩
              exact ⟨value, stored⟩
            · intro record view name made stored
              cases decoded : deserialiseBasinId record.value with
              | error error =>
                  simp only [recordView, decoded] at made
                  cases made
              | ok basinId =>
                  refine ⟨basinId, Option.bind_eq_some_iff.mpr ⟨record.value, stored, ?_⟩⟩
                  rw [decoded]
                  rfl
          rintro _ ⟨⟩
          rw [sorted_of_listed BasinView.basinName listed]
          exact listed

theorem Stream.yields_list (basinId : U128) :
    (Stream.list basinId).run.Yields (before.Shows after) fun
      | .ok views =>
          Listed (views.map StreamView.streamName)
            (fun name => ∃ metadata, before.streamMetadata basinId name = some metadata)
            (fun name => ∃ metadata, after.streamMetadata basinId name = some metadata)
      | .error error => ∀ missing, error ≠ .streamDoesNotExist missing := by
  simp only [Stream.list, scanIter, Program.perform, run_bind, run_orThrow, Program.bind_call,
    Program.bind_done]
  intro answer scanned
  cases answer with
  | error error =>
      intro missing is
      cases is
  | ok records =>
      simp only [Program.bind_done]
      refine Program.Yields.bind ((listsRecords basinId).yields records) fun result made => ?_
      cases result with
      | error error =>
          rcases made with ⟨failure, rfl⟩ | ⟨record, _, malformed⟩
          · intro missing is
            cases is
          · exact exists_of_recordView malformed
      | ok views =>
          have listed : Listed (views.map StreamView.streamName)
              (fun name => ∃ metadata, before.streamMetadata basinId name = some metadata)
              (fun name => ∃ metadata, after.streamMetadata basinId name = some metadata) := by
            refine listed_of_views (constructMetadataKey_eq_append basinId)
              (key_recordView basinId) scanned made ?_ ?_
            · rintro name ⟨metadata, found⟩
              rcases Option.bind_eq_some_iff.mp found with ⟨value, stored, _⟩
              exact ⟨value, stored⟩
            · intro record view name made stored
              cases decoded : StreamMetadata.deserialise record.value with
              | error error =>
                  simp only [recordView, decoded] at made
                  cases made
              | ok metadata =>
                  refine ⟨metadata, Option.bind_eq_some_iff.mpr ⟨record.value, stored, ?_⟩⟩
                  rw [decoded]
                  rfl
          refine (?_ : Listed ((views.mergeSort _).map StreamView.streamName) _ _)
          rw [sorted_of_listed StreamView.streamName listed]
          exact listed

end Listings

/-! ## Requests -/

theorem yields_andThen {α β : Type} {sees : (op : ServerOp) → op.Answer → Prop}
    {post : Except ControllerError β → Prop} {result : Except ControllerError α}
    {next : α → Program server (Except ControllerError β)}
    (failed : ∀ error, result = .error error → post (.error error))
    (yields : ∀ value, result = .ok value → (next value).Yields sees post) :
    (StreamController.andThen next result).Yields sees post := by
  cases result with
  | ok value => exact yields value rfl
  | error error => exact failed error rfl

theorem yields_onServer {ε α : Type} {before after : Stores} {call : ServerCall}
    {wrap : ε → ControllerError} {program : ExceptT ε (Program storage) α}
    {post : Except ε α → Prop} (yields : program.run.Yields (before.Shows after) post) :
    (onServer wrap program).run.Yields (call.Sees before after) fun result =>
      ∃ inner, post inner ∧ result = inner.mapError wrap := by
  rw [onServer, run_orThrow]
  refine Program.Yields.bind (yields_storageCalls yields) fun inner held => ?_
  cases inner with
  | ok value => exact ⟨_, held, rfl⟩
  | error error => exact ⟨_, held, rfl⟩

theorem ControllerError.Internal.mapStreamNotFound {error : ControllerError}
    (internal : error.Internal) (basinName streamName : String) :
    Slatestreams.mapStreamNotFound basinName streamName error = error := by
  cases error with
  | stream error =>
      cases error with
      | streamDoesNotExist missing => cases internal
      | _ => rfl
  | _ => rfl

namespace GrpcRequest

variable {before after : Stores}

/-- The request has a response, and one that is explained. -/
def Answered (before after : Stores) (request : GrpcRequest) (result : ServerResult) : Prop :=
  ∃ response, result.respond = some response ∧ request.Explained before after response

theorem validateNames_eq {basinName streamName : String} {result : Except ControllerError Unit}
    (valid : validateName "basin_name" basinName = .ok ())
    (is : validateName "stream_name" streamName = result) :
    validateNames (basinName, streamName) = result := by
  simp only [validateNames, valid]
  exact is

theorem validateNames_error {basinName : String} (streamName : String) {error : ControllerError}
    (failed : validateName "basin_name" basinName = .error error) :
    validateNames (basinName, streamName) = .error error := by
  simp only [validateNames, failed]

theorem yields_appendTo {call : ServerCall} (stream : StreamHandle) (data : Bytes) :
    (StreamController.appendTo stream data).Yields (call.Sees before after) fun
      | .ok _ => after.HasStream call.name.1 call.name.2
      | .error error => error.Internal := by
  intro sent _
  cases sent with
  | none => exact rfl
  | some replyRx =>
      intro answer seen
      rcases answer with _ | error | ack
      · exact rfl
      · exact ControllerError.internal_stream seen
      · exact seen

theorem yields_append (request : Pb.AppendRequest) :
    (append request).call.code.Yields ((append request).call.Sees before after)
      ((append request).Answered before after) := by
  have yields : (StreamController.append request.basinName request.streamName request.data).run.Yields
      ((append request).call.Sees before after) fun result =>
        (append request).Answered before after (.appended result) := by
    rw [StreamController.append_eq]
    refine yields_andThen (fun error failed => ?_) fun _ basinValid => ?_
    · exact ⟨_, rfl, .invalid (validateNames_error _ failed)⟩
    refine yields_andThen (fun error failed => ?_) fun _ streamValid => ?_
    · exact ⟨_, rfl, .invalid (validateNames_eq basinValid failed)⟩
    have valid : (append request).validate = .ok () := validateNames_eq basinValid streamValid
    refine Program.Yields.bind yields_getOrCreateBasin fun found resolved => ?_
    refine yields_andThen (fun error failed => ?_) fun handle _ => ?_
    · subst failed
      exact ⟨_, rfl, .internal valid resolved⟩
    refine Program.Yields.bind yields_getStream fun found resolved => ?_
    refine yields_andThen (fun error failed => ?_) fun stream _ => ?_
    · subst failed
      rcases resolved with internal | ⟨create, _⟩
      · exact ⟨_, rfl, .internal valid internal⟩
      · cases create
    refine (yields_appendTo stream request.data).weaken fun result held => ?_
    cases result with
    | ok nextSeqNum => exact ⟨_, rfl, .append valid held⟩
    | error error => exact ⟨_, rfl, .internal valid held⟩
  exact Program.Yields.bind yields fun _ answered => answered

theorem yields_followStream {call : ServerCall} (stream : StreamHandle) (startSeqNum : UInt64) :
    (StreamController.followStream stream startSeqNum).run.Yields (call.Sees before after) fun
      | .ok _ => after.HasStream call.name.1 call.name.2
      | .error error => error.Internal := by
  refine fun sent _ => ?_
  cases sent with
  | none => exact rfl
  | some replyRx =>
      refine fun answer _ => ?_
      cases answer with
      | none => exact rfl
      | some subscription => exact fun _ seen => seen

theorem yields_read (grows : before.Grows after) (request : Pb.ReadRequest) :
    (read request).call.code.Yields ((read request).call.Sees before after)
      ((read request).Answered before after) := by
  have yields : (StreamController.readFollow request.basinName request.streamName
      request.startSeqNum).run.Yields ((read request).call.Sees before after) fun result =>
        (read request).Answered before after (.following result) := by
    rw [StreamController.readFollow_eq]
    refine yields_andThen (fun error failed => ?_) fun _ basinValid => ?_
    · exact ⟨_, rfl, .invalid (validateNames_error _ failed)⟩
    refine yields_andThen (fun error failed => ?_) fun _ streamValid => ?_
    · exact ⟨_, rfl, .invalid (validateNames_eq basinValid failed)⟩
    have valid : (read request).validate = .ok () := validateNames_eq basinValid streamValid
    refine Program.Yields.bind yields_getExistingBasin fun found resolved => ?_
    refine yields_andThen (fun error failed => ?_) fun handle ok => ?_
    · subst failed
      rcases resolved with internal | ⟨rfl, absent⟩
      · exact ⟨_, rfl, .internal valid internal⟩
      · exact ⟨_, rfl, .readNoBasin valid absent⟩
    subst ok
    refine Program.Yields.bind yields_getStream fun found opened => ?_
    cases found with
    | error error =>
        rcases opened with internal | ⟨_, rfl, missing⟩
        · change (read request).Answered before after (.following (.error (mapStreamNotFound _ _ _)))
          rw [internal.mapStreamNotFound]
          exact ⟨_, rfl, .internal valid internal⟩
        · refine ⟨_, rfl, .readNoStream valid ⟨_, resolved⟩ ?_⟩
          rintro ⟨metadata, named⟩
          rcases Option.bind_eq_some_iff.mp named with ⟨basinId, basin, stream⟩
          have same : basinId = handle.basinId :=
            Option.some.inj ((grows.basinId basin).symm.trans resolved)
          rw [same] at stream
          rcases Option.bind_eq_some_iff.mp stream with ⟨value, stored, _⟩
          exact absurd (missing.symm.trans stored) nofun
    | ok stream =>
        refine (yields_followStream stream request.startSeqNum).weaken fun result held => ?_
        cases result with
        | ok rx => exact ⟨_, rfl, .read valid held⟩
        | error error => exact ⟨_, rfl, .internal valid held⟩
  exact Program.Yields.bind yields fun _ answered => answered

theorem yields_listBasins :
    listBasins.call.code.Yields (listBasins.call.Sees before after)
      (listBasins.Answered before after) := by
  refine Program.Yields.bind (yields_onServer Basin.yields_list) fun result listed => ?_
  rcases listed with ⟨inner, listed, rfl⟩
  cases inner with
  | error error => exact ⟨_, rfl, .internal rfl rfl⟩
  | ok views =>
      refine ⟨_, rfl, .listBasins ?_⟩
      rw [List.map_map]
      exact listed views rfl

theorem yields_listStreams (grows : before.Grows after) (request : Pb.ListStreamsRequest) :
    (listStreams request).call.code.Yields ((listStreams request).call.Sees before after)
      ((listStreams request).Answered before after) := by
  have yields : (StreamController.listStreams request.basinName).run.Yields
      ((listStreams request).call.Sees before after) fun result =>
        (listStreams request).Answered before after (.streams result) := by
    rw [StreamController.listStreams_eq]
    refine yields_andThen (fun error failed => ⟨_, rfl, .invalid failed⟩) fun _ valid => ?_
    refine Program.Yields.bind yields_getExistingBasin fun found resolved => ?_
    refine yields_andThen (fun error failed => ?_) fun handle ok => ?_
    · subst failed
      rcases resolved with internal | ⟨rfl, absent⟩
      · exact ⟨_, rfl, .internal valid internal⟩
      · exact ⟨_, rfl, .listNoBasin valid absent⟩
    subst ok
    refine (yields_onServer (Stream.yields_list handle.basinId)).weaken fun result listed => ?_
    rcases listed with ⟨inner, listed, rfl⟩
    cases inner with
    | error error => exact ⟨_, rfl, .internal valid (ControllerError.internal_stream listed)⟩
    | ok views =>
        refine ⟨_, rfl, .listStreams valid ⟨_, resolved⟩ ?_⟩
        rw [List.map_map]
        exact
          { ascending := listed.ascending
            complete := fun {name} was => by
              rcases was with ⟨metadata, named⟩
              rcases Option.bind_eq_some_iff.mp named with ⟨basinId, basin, stream⟩
              have same : basinId = handle.basinId :=
                Option.some.inj ((grows.basinId basin).symm.trans resolved)
              exact listed.complete ⟨metadata, same ▸ stream⟩
            sound := fun {name} member => by
              rcases listed.sound member with ⟨metadata, stream⟩
              exact ⟨metadata, Option.bind_eq_some_iff.mpr ⟨_, resolved, stream⟩⟩ }
  exact Program.Yields.bind yields fun _ answered => answered

theorem yields (grows : before.Grows after) (request : GrpcRequest) :
    request.call.code.Yields (request.call.Sees before after) (request.Answered before after) := by
  cases request with
  | append request => exact yields_append request
  | read request => exact yields_read grows request
  | listBasins => exact yields_listBasins
  | listStreams request => exact yields_listStreams grows request

end GrpcRequest

/-! ## Runs -/

namespace ServerPool

variable {MayFail : StorageOp → Prop} {MayDrop : ServerOp → Prop} {MayRestart : Prop}
  {stores : Stores}

/-- However requests are interleaved, fail, are dropped or are cut off by restarts: a name is
refused as invalid exactly when it is blank, a read or a listing finds nothing only if there
was nothing when it began, what is answered is there from then on, a listing has the names
that were there when it began and none that are not, and an append is never told that
something is missing. -/
theorem responses_explained (distinct : stores.Distinct) (new : stores.journal = [])
    {past events : List ServerEvent} {pool last : ServerPool}
    (run : Run (Pool.Step (SharedServer.environment MayFail MayDrop MayRestart)) (start stores)
      past pool)
    (rest : Run (Pool.Step (SharedServer.environment MayFail MayDrop MayRestart)) pool events last)
    {id : Nat} {request : GrpcRequest} {result : ServerResult} (absent : pool.tasks id = none)
    (returned : .returned id request.call result ∈ events) :
    ∃ response, result.respond = some response ∧
      request.Explained pool.shared.stores last.shared.stores response := by
  have orderly := (stored_start distinct new).run
    (storedDiscipline_keeps MayFail MayDrop MayRestart) (fun _ => trivial) run trivial
  have grows := metadata_grows orderly rest
  refine @Pool.run_yields _ _ _ _ _ _ _ _
    (fun call => call.Sees pool.shared.stores last.shared.stores)
    (fun call result => call = request.call →
      request.Answered pool.shared.stores last.shared.stores result)
    ?_ ?_ ?_ rest id request.call result absent returned rfl
  · intro shared call code after starts
    cases starts with
    | request =>
        by_cases same : call = request.call
        · rw [same]
          exact (request.yields grows).weaken fun _ answered _ => answered
        · exact .always (fun _ equal => absurd equal same) _
    | follower =>
        refine .always (fun _ equal => ?_) _
        cases request <;> cases equal
  · intro call value code resumes
    refine .always (fun _ equal => ?_) _
    rw [equal] at resumes
    cases request <;> cases resumes
  · intro middle after id call op answer code earlier later run taken rest running
    exact ServerPool.sees orderly run taken rest running

/-- A read finds no basin, and an append makes the basin before the read returns. -/
theorem responses_explained_overtaken :
    ∃ events last,
      Run (Pool.Step (SharedServer.environment (fun _ => False) (fun _ => False) False))
        (start .opened) events last ∧
      last.shared.stores.basinId "orders" = some 1 ∧
      ∃ response, (ServerResult.following (.error (.notFound "basin orders"))).respond =
          some response ∧
        (GrpcRequest.read ⟨"orders", "events", 0⟩).Explained .opened last.shared.stores response := by
  let request : GrpcRequest := .read ⟨"orders", "events", 0⟩
  let origins : Nat → ServerCall := fun id =>
    if id = 0 then request.call else .append "orders" "events" [97]
  let Reaches : ServerPool → Prop := fun pool => ∃ events,
    Run (Pool.Step (SharedServer.environment (fun _ => False) (fun _ => False) False))
      (start .opened) events pool
  have begin {pool : ServerPool} (id : Nat) (client : (origins id).isFollow = false)
      (reaches : Reaches pool) (absent : pool.tasks id = none) :
      Reaches (pool.set id pool.shared (some ⟨origins id, (origins id).code⟩)) :=
    ⟨_, reaches.choose_spec.snoc (.started absent (.request client))⟩
  have call {pool : ServerPool} {after : SharedServer} (id : Nat) (op : ServerOp)
      (answer : op.Answer) {next : op.Answer → Program server ServerResult}
      (reaches : Reaches pool) (running : pool.tasks id = some ⟨origins id, .call op next⟩)
      (answers : pool.shared.Answers (fun _ => False) id (origins id).name op answer after) :
      Reaches (pool.set id after (some ⟨origins id, next answer⟩)) :=
    ⟨_, reaches.choose_spec.snoc (.called running answers)⟩
  have reading := begin 0 rfl ⟨_, .nil⟩ rfl
  have read := call 0 (.readBasins "orders") none reading rfl ⟨rfl, rfl⟩
  have locked := call 0 .lockBasinInit () read rfl ⟨rfl, rfl⟩
  have missed := call 0 (.readBasins "orders") none locked rfl ⟨rfl, rfl⟩
  have loaded := call 0 (.storage (.get .metaStorage (Basin.constructMetadataKey "orders")))
    (.ok none) missed rfl ⟨_, ⟨rfl, rfl⟩, rfl⟩
  have unlocked := call 0 .unlockBasinInit () loaded rfl rfl
  have appending := begin 1 rfl unlocked rfl
  have looked := call 1 (.readBasins "orders") none appending rfl ⟨rfl, rfl⟩
  have relocked := call 1 .lockBasinInit () looked rfl ⟨rfl, rfl⟩
  have uncached := call 1 (.readBasins "orders") none relocked rfl ⟨rfl, rfl⟩
  have absent := call 1 (.storage (.get .metaStorage (Basin.constructMetadataKey "orders")))
    (.ok none) uncached rfl ⟨_, ⟨rfl, rfl⟩, rfl⟩
  have drawn := call 1 (.storage .newV4) (1 : U128) absent rfl ⟨_, ⟨List.not_mem_nil, rfl⟩, rfl⟩
  have written := call 1 (.storage (.apply .metaStorage [Basin.metadataRecord "orders" 1]))
    (.ok ()) drawn rfl ⟨_, rfl, rfl⟩
  rcases written with ⟨events, run⟩
  have last := run.snoc (@Pool.Step.returned _ _ _ _ _ _ 0 (origins 0)
    (.following (.error (.notFound "basin orders"))) rfl rfl)
  refine ⟨_, _, last, rfl, ?_⟩
  exact responses_explained Stores.distinct_opened rfl .nil last rfl
    (List.mem_append_right _ List.mem_cons_self)

end ServerPool

end Slatestreams
