import Slatestreams.HistoryRefinement

/-! # One stream of many

A stream by itself: what is stored of it, its actor and its readers. Whatever is
done with other streams, the operations on one stream have the outcomes that
they have on this machine, so streams do not interfere. -/

namespace Slatestreams

open Foundation

/-! ## Outcomes -/

/-- An error that says no more than that something was not found. -/
def ControllerError.plain : ControllerError → ControllerError
  | .notFound _ => .notFound ""
  | other => other

/-- The outcome up to the text of its error. -/
def Outcome.plain : Outcome → Outcome
  | .appended result => .appended (result.map (Except.mapError ControllerError.plain))
  | .following result => .following (result.map (Except.mapError ControllerError.plain))
  | other => other

/-- The operations on one stream, and the restarts. -/
def Operation.concerns (name : String × String) : Operation → Bool
  | .append basinName streamName _ => decide ((basinName, streamName) = name)
  | .readFollow reader _ | .advance reader | .receive reader => decide (reader.name = name)
  | .listBasins _ | .listStreams _ _ => false
  | .restart => true

/-! ## The machine -/

structure StoredStream where
  block : Option SeqBlock
  records : UInt64 → Option Bytes

structure NamedStream where
  stored : Option StoredStream
  process : Option Process
  readings : Nat → Option ReadSession

def StoredStream.store (self : StoredStream) : Option (Option SeqBlock × Record) → StoredStream
  | none => self
  | some (block, record) =>
      ⟨block.or self.block, Function.update self.records record.seqNum (some record.serialise)⟩

namespace NamedStream

/-- The stream's actor, as appends have left it or as a load starts it. -/
def current (self : NamedStream) (stored : StoredStream) : Option Process :=
  self.process.or ((SequenceAllocator.resume stored.block).map Process.spawned)

def create (self : NamedStream) : StoredStream × NamedStream :=
  match self.stored with
  | some stored => (stored, self)
  | none =>
      let stored := ⟨some SequenceAllocator.default.currentBlock, fun _ => none⟩
      (stored, { self with stored := some stored, process := some (.spawned .default) })

def appendTo (self : NamedStream) (stored : StoredStream) (data : Bytes) :
    Option (Except ControllerError UInt64) × NamedStream :=
  match self.current stored with
  | none => (none, self)
  | some process =>
      let appended := process.append data
      (some appended.result, { self with
        stored := some (stored.store appended.written)
        process := some appended.process })

def append (name : String × String) (self : NamedStream) (data : Bytes) :
    Option (Except ControllerError UInt64) × NamedStream :=
  match validateNames name with
  | .error error => (some (.error error), self)
  | .ok () => self.create.2.appendTo self.create.1 data

def subscribe (name : String × String) (self : NamedStream) (startSeqNum : UInt64) :
    Option (Except ControllerError ReadSession) :=
  match validateNames name with
  | .error error => some (.error error)
  | .ok () =>
      match self.stored with
      | none => some (.error (.notFound ""))
      | some stored =>
          (self.current stored).map fun process =>
            match process.allocator with
            | none => .error (.internal "stream actor stopped")
            | some allocator =>
                .ok (.start startSeqNum allocator.nextSequenceNumber process.sent.length)

def readFollow (name : String × String) (self : NamedStream) (index : Nat)
    (startSeqNum : UInt64) : Outcome × NamedStream :=
  match self.subscribe name startSeqNum with
  | none => (.following none, self)
  | some (.error error) => (.following (some (.error error)), self)
  | some (.ok reading) =>
      (.following (some (.ok ())),
        { self with readings := Function.update self.readings index (some reading) })

def advance (self : NamedStream) (index : Nat) : NamedStream :=
  match self.readings index, self.stored with
  | some reading, some stored =>
      match self.current stored with
      | some process =>
          { self with
            readings := Function.update self.readings index
              (some (reading.advance (fun n => readValue (stored.records n)) process)) }
      | none => self
  | _, _ => self

def receive (self : NamedStream) (index : Nat) : Outcome × NamedStream :=
  match self.readings index with
  | some ⟨nextSeqNum, subscribed, phase, item :: channel⟩ =>
      (.received (some item),
        { self with
          readings := Function.update self.readings index
            (some ⟨nextSeqNum, subscribed, phase, channel⟩) })
  | _ => (.received none, self)

/-- Operations that do not concern the stream leave it alone. -/
def perform (name : String × String) : Machine NamedStream Operation Outcome := fun self => fun
  | .append _ _ data =>
      let (result, after) := self.append name data
      (.appended result, after)
  | .readFollow reader startSeqNum => self.readFollow name reader.index startSeqNum
  | .advance reader => (.silent, self.advance reader.index)
  | .receive reader => self.receive reader.index
  | .listBasins _ | .listStreams _ _ => (.silent, self)
  | .restart => (.silent, { self with process := none, readings := fun _ => none })

end NamedStream

/-! ## One stream of the service -/

/-- What is stored under a stream's keys. -/
def Stores.streamOf (self : Stores) (metadata : StreamMetadata) : StoredStream :=
  ⟨self.block metadata, self.record metadata⟩

namespace Service

def view (self : Service) (name : String × String) : NamedStream where
  stored := (self.stores.named name.1 name.2).map self.stores.streamOf
  process := self.processes name
  readings index := self.readings ⟨name.1, name.2, index⟩

section View

variable {ids : Nat → U128} {service : Service} {name other : String × String}
  {metadata : StreamMetadata} {count : Nat}

theorem view_stored (name : String × String)
    (named : service.stores.named name.1 name.2 = some metadata) :
    (service.view name).stored = some (service.stores.streamOf metadata) := by
  rw [view, named, Option.map_some]

theorem view_current :
    (service.view name).current (service.stores.streamOf metadata) =
      service.process name metadata := rfl

/-- A new basin has no streams. -/
theorem view_createBasin (name : String × String) (sound : service.stores.Sound) (basinName : String)
    (undrawn : ids service.stores.drawn.length ∉ service.stores.drawn) :
    (service.createBasin ids basinName).2.view name = service.view name := by
  unfold createBasin
  split
  · rfl
  · rename_i unknown
    have same : (service.stores.createdBasin basinName (ids service.stores.drawn.length)).named
        name.1 name.2 = service.stores.named name.1 name.2 := by
      simp only [Stores.named, Stores.basinId_createdBasin, Stores.streamMetadata_createdBasin]
      split
      · rename_i equal
        subst equal
        rw [unknown, Option.bind_some, Option.bind_none]
        cases found : service.stores.streamMetadata (ids service.stores.drawn.length) name.2 with
        | none => rfl
        | some metadata => exact absurd (sound.stream_drawn found).2.1 undrawn
      · rfl
    simp only [view, same]
    rfl

/-- What is stored under the keys of a new id is nothing. -/
theorem record_undrawn {stores : Stores} (sound : stores.Sound)
    (undrawn : metadata.streamId ∉ stores.drawn) (n : UInt64) : stores.record metadata n = none := by
  cases found : stores.record metadata n with
  | none => rfl
  | some value => exact absurd (sound.record_drawn found) undrawn

theorem view_createStream (sound : service.stores.Sound) {basinId : U128}
    (basin : service.stores.basinId name.1 = some basinId)
    (undrawn : ids service.stores.drawn.length ∉ service.stores.drawn) :
    (service.createStream ids name basinId).2.view name = (service.view name).create.2 ∧
      (service.createStream ids name basinId).2.stores.streamOf
        (service.createStream ids name basinId).1 = (service.view name).create.1 := by
  unfold createStream NamedStream.create
  split
  · rename_i metadata known
    have named : service.stores.named name.1 name.2 = some metadata := by
      simp [Stores.named, basin, known]
    rw [view_stored name named]
    exact ⟨rfl, rfl⟩
  · rename_i unknown
    have unnamed : service.stores.named name.1 name.2 = none := by
      simp [Stores.named, basin, unknown]
    have empty : (service.stores.created name.2
        ⟨basinId, ids service.stores.drawn.length⟩).streamOf
          ⟨basinId, ids service.stores.drawn.length⟩ =
        ⟨some SequenceAllocator.default.currentBlock, fun _ => none⟩ := by
      simp only [Stores.streamOf, Stores.block_created, if_true, StoredStream.mk.injEq, true_and]
      funext n
      rw [Stores.record_created, record_undrawn sound undrawn]
    have stored : (service.view name).stored = none := by rw [view, unnamed, Option.map_none]
    rw [stored]
    refine ⟨?_, empty⟩
    simp only [view, Stores.named, Stores.basinId_created, basin, Option.bind_some,
      Stores.streamMetadata_created, and_self, if_true, Option.map_some, empty,
      Function.update_self]

theorem view_createStream_other (sound : service.stores.Sound) {basinId : U128}
    (basin : service.stores.basinId other.1 = some basinId)
    (undrawn : ids service.stores.drawn.length ∉ service.stores.drawn) (different : name ≠ other) :
    (service.createStream ids other basinId).2.view name = service.view name := by
  unfold createStream
  split
  · rfl
  · have same : (service.stores.created other.2
        ⟨basinId, ids service.stores.drawn.length⟩).named name.1 name.2 =
          service.stores.named name.1 name.2 := by
      simp only [Stores.named, Stores.basinId_created, Stores.streamMetadata_created]
      cases found : service.stores.basinId name.1 with
      | none => rfl
      | some found' =>
          have apart : ¬(basinId = found' ∧ other.2 = name.2) := fun equal =>
            different (Prod.ext (sound.basin_injective found (equal.1 ▸ basin)) equal.2.symm)
          simp only [Option.bind_some, if_neg apart]
    simp only [view, same, Function.update_of_ne different, NamedStream.mk.injEq, and_self,
      and_true]
    cases found : service.stores.named name.1 name.2 with
    | none => rfl
    | some metadata =>
        rcases Option.bind_eq_some_iff.mp found with ⟨_, _, stream⟩
        have apart : (⟨basinId, ids service.stores.drawn.length⟩ : StreamMetadata) ≠ metadata :=
          fun equal => undrawn (by simpa [← equal] using (sound.stream_drawn stream).2.2)
        simp only [Option.map_some, Stores.streamOf, Stores.block_created, if_neg apart,
          Option.some.injEq, StoredStream.mk.injEq, true_and]
        funext n
        exact Stores.record_created _ _ _ _ _

theorem streamOf_store (stores : Stores) (metadata : StreamMetadata)
    (written : Option (Option SeqBlock × Record)) :
    (stores.store metadata written).streamOf metadata =
      (stores.streamOf metadata).store written := by
  cases written with
  | none => rfl
  | some batch =>
      simp only [Stores.store, Stores.streamOf, StoredStream.store, Stores.block_appended, if_true,
        StoredStream.mk.injEq, true_and]
      funext n
      rw [Stores.record_appended, Function.update_apply]
      simp only [true_and, eq_comm]

theorem streamOf_store_other (stores : Stores) {apart : StreamMetadata}
    (different : metadata ≠ apart) (written : Option (Option SeqBlock × Record)) :
    (stores.store metadata written).streamOf apart = stores.streamOf apart := by
  cases written with
  | none => rfl
  | some batch =>
      simp only [Stores.store, Stores.streamOf, Stores.block_appended, if_neg different,
        StoredStream.mk.injEq, true_and]
      funext n
      rw [Stores.record_appended, if_neg fun same => different same.1]

theorem named_store (stores : Stores) (written : Option (Option SeqBlock × Record)) :
    (stores.store metadata written).named = stores.named := by
  cases written <;> rfl

theorem view_appendTo (named : service.stores.named name.1 name.2 = some metadata)
    (data : Bytes) :
    (service.appendTo name metadata data).1 =
        ((service.view name).appendTo (service.stores.streamOf metadata) data).1 ∧
      (service.appendTo name metadata data).2.view name =
        ((service.view name).appendTo (service.stores.streamOf metadata) data).2 := by
  cases current : service.process name metadata with
  | none => simp only [appendTo, NamedStream.appendTo, view_current, current, and_self]
  | some process =>
      simp only [appendTo, NamedStream.appendTo, view_current, current, true_and]
      simp only [view, named_store, named, Option.map_some, streamOf_store, Function.update_self]

theorem view_appendTo_other (sound : service.stores.Sound)
    (named : service.stores.named other.1 other.2 = some metadata) (different : name ≠ other)
    (data : Bytes) :
    (service.appendTo other metadata data).2.view name = service.view name := by
  unfold appendTo
  split
  · rfl
  · simp only [view, named_store, Function.update_of_ne different, NamedStream.mk.injEq,
      and_true]
    cases found : service.stores.named name.1 name.2 with
    | none => rfl
    | some apart =>
        have apart : metadata ≠ apart := fun same =>
          different (sound.named_injective (same ▸ found) named)
        rw [Option.map_some, streamOf_store_other _ apart, Option.map_some]

/-! ## The service follows the machine -/

theorem plain_append (process : Process) (data : Bytes) :
    (process.append data).result.mapError ControllerError.plain = (process.append data).result := by
  unfold Process.append
  split
  · rfl
  · split <;> rfl

theorem plain_appendTo (service : Service) (name : String × String) (metadata : StreamMetadata)
    (data : Bytes) :
    ((service.appendTo name metadata data).1).map (Except.mapError ControllerError.plain) =
      (service.appendTo name metadata data).1 := by
  unfold appendTo
  split
  · rfl
  · exact congrArg some (plain_append _ _)

theorem plain_validateName {field value : String} {error : ControllerError}
    (invalid : validateName field value = .error error) : error.plain = error := by
  unfold validateName at invalid
  split at invalid
  · cases invalid
    rfl
  · cases invalid

theorem plain_validateNames {name : String × String} {error : ControllerError}
    (invalid : validateNames name = .error error) : error.plain = error := by
  unfold validateNames at invalid
  split at invalid
  · rename_i basin
    cases invalid
    exact plain_validateName basin
  · exact plain_validateName invalid

theorem view_append (sound : service.stores.Sound)
    (fresh : Stores.Fresh ids service.stores.drawn (count + 2)) (name : String × String)
    (data : Bytes) :
    ((service.view name).append name data).1 =
        ((service.append ids name data).1).map (Except.mapError ControllerError.plain) ∧
      (service.append ids name data).2.view name = ((service.view name).append name data).2 := by
  unfold append NamedStream.append
  cases valid : validateNames name with
  | error error => exact ⟨by simp [Except.mapError, plain_validateNames valid], rfl⟩
  | ok =>
      have basinView := view_createBasin name sound name.1 fresh.undrawn
      rcases sound_createBasin sound name.1 fresh with ⟨sound, basin, fresh⟩
      rcases view_createStream sound basin fresh.undrawn with ⟨streamView, stored⟩
      rcases sound_createStream sound basin fresh with ⟨_, named, _⟩
      rw [basinView] at streamView stored
      rcases view_appendTo named data with ⟨result, after⟩
      rw [streamView, stored] at result after
      exact ⟨((plain_appendTo _ _ _ _).trans result).symm, after⟩

theorem view_append_other (sound : service.stores.Sound)
    (fresh : Stores.Fresh ids service.stores.drawn (count + 2)) (different : name ≠ other)
    (data : Bytes) : (service.append ids other data).2.view name = service.view name := by
  unfold append
  cases valid : validateNames other with
  | error error => rfl
  | ok =>
      have basinView := view_createBasin name sound other.1 fresh.undrawn
      rcases sound_createBasin sound other.1 fresh with ⟨sound, basin, fresh⟩
      have streamView := view_createStream_other sound basin fresh.undrawn different
      rcases sound_createStream sound basin fresh with ⟨sound, named, _⟩
      exact (view_appendTo_other sound named different data).trans (streamView.trans basinView)

theorem view_readings (service : Service) (reader : Reader) (reading : Option ReadSession) :
    view { service with readings := Function.update service.readings reader reading } reader.name =
      { service.view reader.name with
        readings := Function.update (service.view reader.name).readings reader.index reading } := by
  simp only [view, Reader.name, NamedStream.mk.injEq, true_and]
  funext index
  by_cases same : index = reader.index
  · subst same
    simp only [Function.update_self]
  · have apart : (⟨reader.basinName, reader.streamName, index⟩ : Reader) ≠ reader := fun equal =>
      same (congrArg Reader.index equal)
    simp only [Function.update_of_ne same, Function.update_of_ne apart]

theorem view_readings_other (service : Service) {reader : Reader} (reading : Option ReadSession)
    (different : reader.name ≠ name) :
    view { service with readings := Function.update service.readings reader reading } name =
      service.view name := by
  simp only [view, NamedStream.mk.injEq, true_and]
  funext index
  exact Function.update_of_ne (fun equal => different (by rw [← equal, Reader.name])) _ _

theorem view_subscribe (service : Service) (name : String × String) (startSeqNum : UInt64) :
    (service.view name).subscribe name startSeqNum =
      (service.subscribe name startSeqNum).map (Except.mapError ControllerError.plain) := by
  unfold subscribe NamedStream.subscribe
  cases valid : validateNames name with
  | error error => simp [Except.mapError, plain_validateNames valid]
  | ok =>
      simp only [view, Stores.named]
      cases service.stores.basinId name.1 with
      | none => rfl
      | some basinId =>
          simp only [Option.bind_some]
          cases service.stores.streamMetadata basinId name.2 with
          | none => rfl
          | some metadata =>
              simp only [Option.map_some]
              change (service.process name metadata).map _ = _
              cases service.process name metadata with
              | none => rfl
              | some process =>
                  rcases process with ⟨allocator, sent⟩
                  cases allocator <;> rfl

theorem view_readFollow (service : Service) (reader : Reader) (startSeqNum : UInt64) :
    ((service.view reader.name).readFollow reader.name reader.index startSeqNum).1 =
        (service.readFollow reader startSeqNum).1.plain ∧
      (service.readFollow reader startSeqNum).2.view reader.name =
        ((service.view reader.name).readFollow reader.name reader.index startSeqNum).2 := by
  unfold readFollow NamedStream.readFollow
  rw [view_subscribe]
  rcases service.subscribe reader.name startSeqNum with _ | error | reading
  · exact ⟨rfl, rfl⟩
  · exact ⟨rfl, rfl⟩
  · exact ⟨rfl, view_readings _ _ _⟩

theorem view_advance (service : Service) (reader : Reader) :
    (service.advance reader).view reader.name =
      (service.view reader.name).advance reader.index := by
  have reading : (service.view reader.name).readings reader.index = service.readings reader := rfl
  unfold advance NamedStream.advance
  rw [reading]
  cases service.readings reader with
  | none => rfl
  | some reading =>
      cases named : service.stores.named reader.basinName reader.streamName with
      | none =>
          have stored : (service.view reader.name).stored = none := by
            simp only [view, Reader.name, named, Option.map_none]
          simp only [stored]
      | some metadata =>
          simp only [view_stored reader.name named, view_current]
          cases service.process reader.name metadata with
          | none => rfl
          | some process =>
              rw [← view_stored reader.name named]
              exact view_readings _ _ _

theorem view_receive (service : Service) (reader : Reader) :
    ((service.view reader.name).receive reader.index).1 = (service.receive reader).1.plain ∧
      (service.receive reader).2.view reader.name =
        ((service.view reader.name).receive reader.index).2 := by
  have reading : (service.view reader.name).readings reader.index = service.readings reader := rfl
  unfold receive NamedStream.receive
  rw [reading]
  rcases service.readings reader with _ | ⟨nextSeqNum, subscribed, phase, _ | ⟨item, channel⟩⟩
  · exact ⟨rfl, rfl⟩
  · exact ⟨rfl, rfl⟩
  · exact ⟨rfl, view_readings _ _ _⟩

/-- A step of a reader of another stream is out of sight. -/
theorem view_reader_other (ids : Nat → U128) (service : Service) {operation : Operation}
    {reader : Reader} (startSeqNum : UInt64)
    (reads : operation = .readFollow reader startSeqNum ∨ operation = .advance reader ∨
      operation = .receive reader) (different : reader.name ≠ name) :
    (service.perform ids operation).2.view name = service.view name := by
  rcases reads with rfl | rfl | rfl
  · simp only [perform, Service.readFollow]
    split
    · rfl
    · rfl
    · exact view_readings_other _ _ different
  · simp only [perform, Service.advance]
    split
    · split
      · exact view_readings_other _ _ different
      · rfl
    · rfl
  · simp only [perform, Service.receive]
    split
    · exact view_readings_other _ _ different
    · rfl

/-- The stores are sound, and the ids that `count` more operations can draw are fresh. -/
structure Shows (ids : Nat → U128) (name : String × String) (count : Nat) (service : Service)
    (stream : NamedStream) : Prop where
  sound : service.stores.Sound
  fresh : Stores.Fresh ids service.stores.drawn (2 * count)
  view : service.view name = stream

theorem shows_simulates (ids : Nat → U128) (name : String × String) :
    Machine.Simulates (perform ids) (NamedStream.perform name) (Operation.concerns name)
      Outcome.plain (Shows ids name) where
  kept {count service stream operation} shows_ concerns := by
    rcases shows_ with ⟨sound, fresh, rfl⟩
    rcases sound_perform sound fresh operation with ⟨nextSound, nextFresh⟩
    suffices follows : (NamedStream.perform name (service.view name) operation).1 =
          (service.perform ids operation).1.plain ∧
        (service.perform ids operation).2.view name =
          (NamedStream.perform name (service.view name) operation).2 from
      ⟨follows.1, nextSound, nextFresh, follows.2⟩
    cases operation with
    | append basinName streamName data =>
        rcases of_decide_eq_true concerns with rfl
        rcases view_append sound (show Stores.Fresh _ _ (2 * count + 2) from fresh) _ data with
          ⟨result, after⟩
        exact ⟨congrArg Outcome.appended result, after⟩
    | readFollow reader startSeqNum =>
        rcases of_decide_eq_true concerns with rfl
        exact view_readFollow service reader startSeqNum
    | advance reader =>
        rcases of_decide_eq_true concerns with rfl
        exact ⟨rfl, view_advance service reader⟩
    | receive reader =>
        rcases of_decide_eq_true concerns with rfl
        exact view_receive service reader
    | listBasins label => cases concerns
    | listStreams label basinName => cases concerns
    | restart => exact ⟨rfl, rfl⟩
  dropped {count service stream operation} shows_ apart := by
    rcases shows_ with ⟨sound, fresh, rfl⟩
    rcases sound_perform sound fresh operation with ⟨nextSound, nextFresh⟩
    refine ⟨nextSound, nextFresh, ?_⟩
    cases operation with
    | append basinName streamName data =>
        exact view_append_other sound (show Stores.Fresh _ _ (2 * count + 2) from fresh)
          (fun same => of_decide_eq_false apart same.symm) data
    | readFollow reader startSeqNum =>
        exact view_reader_other ids service startSeqNum (.inl rfl)
          (of_decide_eq_false apart)
    | advance reader =>
        exact view_reader_other ids service 0 (.inr (.inl rfl))
          (of_decide_eq_false apart)
    | receive reader =>
        exact view_reader_other ids service 0 (.inr (.inr rfl))
          (of_decide_eq_false apart)
    | listBasins label => rfl
    | listStreams label basinName => rfl
    | restart => cases apart

end View

end Service

/-! ## Streams do not interfere -/

/-- The operations on one stream have the outcomes they have without all others,
whatever ids are drawn in the two histories. -/
theorem World.streams_independent (ids shortIds : Nat → U128) {stores : Stores}
    (sound : stores.Sound) (history : List Operation) (name : String × String)
    (fresh : Stores.Fresh ids stores.drawn (2 * history.length))
    (shortFresh : Stores.Fresh shortIds stores.drawn
      (2 * (history.filter (Operation.concerns name)).length)) :
    (Machine.transcript (perform shortIds) (.start stores)
        (history.filter (Operation.concerns name))).map (fun entry => (entry.1, entry.2.plain)) =
      ((Machine.transcript (perform ids) (.start stores) history).filter
        (fun entry => entry.1.concerns name)).map (fun entry => (entry.1, entry.2.plain)) := by
  have full := (Service.shows_simulates ids name).transcript_eq
    (⟨sound, fresh, rfl⟩ : Service.Shows ids name _ (.start stores) _)
  have short := (Service.shows_simulates shortIds name).transcript_eq
    (⟨sound, shortFresh, rfl⟩ : Service.Shows shortIds name _ (.start stores) _)
  have whole : ∀ entry ∈ Machine.transcript (Service.perform shortIds) (.start stores)
      (history.filter (Operation.concerns name)), entry.1.concerns name = true :=
    fun entry member => (List.mem_filter.mp (Machine.mem_of_mem_transcript member)).2
  rw [List.filter_eq_self.mpr whole, List.filter_filter] at short
  simp only [Bool.and_self] at short
  rw [World.transcript_eq sound fresh, World.transcript_eq sound shortFresh, ← full, short]

/-- Two streams of one name in two basins, with other ids in the shorter history. -/
theorem World.streams_independent_same_name :
    let history := [.append "orders" "events" [97], .append "billing" "events" [98], .restart,
      .append "orders" "events" [99]]
    let short := history.filter (Operation.concerns ("orders", "events"))
    (Machine.transcript (perform fun n => BitVec.ofNat 128 (n + 100)) (.start .opened)
        short).map (fun entry => (entry.1, entry.2.plain)) =
      ((Machine.transcript (perform (BitVec.ofNat 128)) (.start .opened) history).filter
        (fun entry => entry.1.concerns ("orders", "events"))).map
          (fun entry => (entry.1, entry.2.plain)) :=
  World.streams_independent (BitVec.ofNat 128) (fun n => BitVec.ofNat 128 (n + 100))
    Stores.sound_opened
    [.append "orders" "events" [97], .append "billing" "events" [98], .restart,
      .append "orders" "events" [99]]
    ("orders", "events") (by decide) (by decide)

end Slatestreams
