import Slatestreams.Directory
import Slatestreams.Server

/-! # The service without caches

What the server is for: every request looks its names up in the stores, and a
stream's actor is found under the stream's name. An actor that nothing has been
appended through since the last restart leaves no trace. -/

namespace Slatestreams

open Foundation

/-! ## Actors -/

/-- What has become of a stream's actor: its allocator, unless it has panicked,
and its broadcasts. -/
structure Process where
  allocator : Option SequenceAllocator
  sent : List Record

/-- An append comes to a result, the actor after it, and what is written. -/
structure Appended where
  result : Except ControllerError UInt64
  process : Process
  written : Option (Option SeqBlock × Record)

namespace Process

def spawned (allocator : SequenceAllocator) : Process := ⟨some allocator, []⟩

def append (self : Process) (data : Bytes) : Appended :=
  match self.allocator with
  | none => ⟨.error (.internal "stream actor stopped"), self, none⟩
  | some allocator =>
      match allocator.allocate 1 with
      | none =>
          ⟨.error (.internal "stream actor dropped append reply"),
            { self with allocator := none }, none⟩
      | some ((seqNum, block), after) =>
          ⟨.ok after.nextSequenceNumber, ⟨some after, self.sent ++ [⟨seqNum, data⟩]⟩,
            some (block, ⟨seqNum, data⟩)⟩

/-- The next broadcast after a position, and the position to go on from. -/
def recv (self : Process) (position : Nat) : Option (Except RecvError Record × Nat) :=
  if position + STREAM_BROADCAST_BUFFER < self.sent.length then
    some (.error .lagged, self.sent.length - STREAM_BROADCAST_BUFFER)
  else
    match self.sent[position]? with
    | some record => some (.ok record, position + 1)
    | none => if self.allocator.isSome then none else some (.error .closed, position)

end Process

def Stores.store (self : Stores) (metadata : StreamMetadata) :
    Option (Option SeqBlock × Record) → Stores
  | none => self
  | some (block, record) => self.appended metadata block record

/-- What a read makes of the value under a record key. -/
def readValue (value : Option Bytes) : Except StreamError (Option Record) :=
  Stream.readResult (.ok (value.map fun value => ⟨[], value⟩))

/-! ## Readers -/

/-- The points between two calls of the task that follows a stream. -/
inductive ReadingPhase where
  | asking (seqNum : UInt64) (count : Nat)
  | fetching (seqNum : UInt64) (count : Nat) (reply : Except StreamError (Option Record))
  | sending (seqNum : UInt64) (count : Nat) (record : Record)
  | turning (position : Nat)
  | receiving (position : Nat)
  | forwarding (position : Nat) (record : Record)
  | failing (error : ControllerError)
  | ended

/-- `subscribed` is the position its subscription starts at. -/
structure ReadSession where
  nextSeqNum : UInt64
  subscribed : Nat
  phase : ReadingPhase
  channel : List (Except ControllerError Record)

namespace ReadSession

/-- The head of the loop over the numbers before the subscription. -/
def backfilling (self : ReadSession) (seqNum : UInt64) : Nat → ReadingPhase
  | 0 => .turning self.subscribed
  | count + 1 => .asking seqNum count

def start (startSeqNum nextSeqNum : UInt64) (subscribed : Nat) : ReadSession :=
  let reading : ReadSession := ⟨nextSeqNum, subscribed, .ended, []⟩
  { reading with
    phase := reading.backfilling startSeqNum (nextSeqNum.toNat - startSeqNum.toNat) }

/-- Put an item into the channel and go on, unless the channel is full. -/
def send (self : ReadSession) (item : Except ControllerError Record) (phase : ReadingPhase) :
    ReadSession :=
  if self.channel.length < STREAM_COMMAND_BUFFER then
    { self with phase, channel := self.channel ++ [item] }
  else self

def advance (self : ReadSession) (read : UInt64 → Except StreamError (Option Record))
    (process : Process) : ReadSession :=
  match self.phase with
  | .asking seqNum count =>
      if process.allocator.isSome then
        { self with phase := .fetching seqNum count (read seqNum) }
      else { self with phase := .failing (.internal "stream actor stopped") }
  | .fetching seqNum count reply =>
      match reply with
      | .error error => { self with phase := .failing (.stream error) }
      | .ok none => { self with phase := self.backfilling (seqNum + 1) count }
      | .ok (some record) => { self with phase := .sending seqNum count record }
  | .sending seqNum count record => self.send (.ok record) (self.backfilling (seqNum + 1) count)
  | .turning position => { self with phase := .receiving position }
  | .receiving position =>
      match process.recv position with
      | some (.ok record, position) =>
          if self.nextSeqNum ≤ record.seqNum then
            { self with phase := .forwarding position record }
          else { self with phase := .turning position }
      | some (.error .lagged, _) => { self with phase := .failing .readerLagged }
      | some (.error .closed, _) => { self with phase := .ended }
      | none => self
  | .forwarding position record => self.send (.ok record) (.turning position)
  | .failing error => self.send (.error error) .ended
  | .ended => self

end ReadSession

def Reader.name (self : Reader) : String × String := (self.basinName, self.streamName)

/-! ## Operations -/

structure Service where
  stores : Stores
  processes : String × String → Option Process
  readings : Reader → Option ReadSession

def validateNames (name : String × String) : Except ControllerError Unit :=
  match validateName "basin_name" name.1 with
  | .error error => .error error
  | .ok () => validateName "stream_name" name.2

namespace Service

def start (stores : Stores) : Service := ⟨stores, fun _ => none, fun _ => none⟩

/-- The actor of a stream, as appends have left it or as a load starts it. -/
def process (self : Service) (name : String × String) (metadata : StreamMetadata) :
    Option Process :=
  (self.processes name).or
    ((SequenceAllocator.resume (self.stores.block metadata)).map Process.spawned)

def createBasin (ids : Nat → U128) (self : Service) (basinName : String) : U128 × Service :=
  match self.stores.basinId basinName with
  | some basinId => (basinId, self)
  | none =>
      let basinId := ids self.stores.drawn.length
      (basinId, { self with stores := self.stores.createdBasin basinName basinId })

def createStream (ids : Nat → U128) (self : Service) (name : String × String) (basinId : U128) :
    StreamMetadata × Service :=
  match self.stores.streamMetadata basinId name.2 with
  | some metadata => (metadata, self)
  | none =>
      let metadata := ⟨basinId, ids self.stores.drawn.length⟩
      (metadata, { self with
        stores := self.stores.created name.2 metadata
        processes := Function.update self.processes name (some (.spawned .default)) })

/-- An append through the stream's actor, which a load that panics does not reach. -/
def appendTo (self : Service) (name : String × String) (metadata : StreamMetadata)
    (data : Bytes) : Option (Except ControllerError UInt64) × Service :=
  match self.process name metadata with
  | none => (none, self)
  | some process =>
      let appended := process.append data
      (some appended.result, { self with
        stores := self.stores.store metadata appended.written
        processes := Function.update self.processes name (some appended.process) })

def append (ids : Nat → U128) (self : Service) (name : String × String) (data : Bytes) :
    Option (Except ControllerError UInt64) × Service :=
  match validateNames name with
  | .error error => (some (.error error), self)
  | .ok () =>
      let (basinId, self) := self.createBasin ids name.1
      let (metadata, self) := self.createStream ids name basinId
      self.appendTo name metadata data

/-- What a `read_follow` returns, with the reading it leaves behind. -/
def subscribe (self : Service) (name : String × String) (startSeqNum : UInt64) :
    Option (Except ControllerError ReadSession) :=
  match validateNames name with
  | .error error => some (.error error)
  | .ok () =>
      match self.stores.basinId name.1 with
      | none => some (.error (.notFound ("basin " ++ name.1)))
      | some basinId =>
          match self.stores.streamMetadata basinId name.2 with
          | none => some (.error (.notFound ("stream " ++ name.1 ++ "/" ++ name.2)))
          | some metadata =>
              (self.process name metadata).map fun process =>
                match process.allocator with
                | none => .error (.internal "stream actor stopped")
                | some allocator =>
                    .ok (.start startSeqNum allocator.nextSequenceNumber process.sent.length)

def readFollow (self : Service) (reader : Reader) (startSeqNum : UInt64) : Outcome × Service :=
  match self.subscribe reader.name startSeqNum with
  | none => (.following none, self)
  | some (.error error) => (.following (some (.error error)), self)
  | some (.ok reading) =>
      (.following (some (.ok ())),
        { self with readings := Function.update self.readings reader (some reading) })

def advance (self : Service) (reader : Reader) : Service :=
  match self.readings reader, self.stores.named reader.basinName reader.streamName with
  | some reading, some metadata =>
      match self.process reader.name metadata with
      | some process =>
          { self with
            readings := Function.update self.readings reader
              (some (reading.advance (fun n => readValue (self.stores.record metadata n)) process)) }
      | none => self
  | _, _ => self

def receive (self : Service) (reader : Reader) : Outcome × Service :=
  match self.readings reader with
  | some ⟨nextSeqNum, subscribed, phase, item :: channel⟩ =>
      (.received (some item),
        { self with
          readings := Function.update self.readings reader
            (some ⟨nextSeqNum, subscribed, phase, channel⟩) })
  | _ => (.received none, self)

def listBasins (ids : Nat → U128) (self : Service) : Option (Except ControllerError (List BasinView)) :=
  (Basin.list.run.exec (StorageOp.handle ids) self.stores).1.map (Except.mapError .basin)

def listStreams (ids : Nat → U128) (self : Service) (basinName : String) :
    Option (Except ControllerError (List StreamView)) :=
  match validateName "basin_name" basinName with
  | .error error => some (.error error)
  | .ok () =>
      match self.stores.basinId basinName with
      | none => some (.error (.notFound ("basin " ++ basinName)))
      | some basinId =>
          ((Stream.list basinId).run.exec (StorageOp.handle ids) self.stores).1.map
            (Except.mapError .stream)

def perform (ids : Nat → U128) : Machine Service Operation Outcome := fun self => fun
  | .append basinName streamName data =>
      let (result, after) := self.append ids (basinName, streamName) data
      (.appended result, after)
  | .readFollow reader startSeqNum => self.readFollow reader startSeqNum
  | .advance reader => (.silent, self.advance reader)
  | .receive reader => self.receive reader
  | .listBasins _ => (.basins (self.listBasins ids), self)
  | .listStreams _ basinName => (.streams (self.listStreams ids basinName), self)
  | .restart => (.silent, .start self.stores)

theorem perform_read (ids : Nat → U128) (service : Service) {operation : Operation}
    (read : operation.isRead = true) :
    (service.perform ids operation).2.stores = service.stores ∧
      (service.perform ids operation).2.processes = service.processes := by
  cases operation with
  | append basinName streamName data => cases read
  | restart => cases read
  | listBasins label => exact ⟨rfl, rfl⟩
  | listStreams label basinName => exact ⟨rfl, rfl⟩
  | readFollow reader startSeqNum =>
      simp only [perform, readFollow]
      split <;> exact ⟨rfl, rfl⟩
  | advance reader =>
      simp only [perform, advance]
      split
      · split <;> exact ⟨rfl, rfl⟩
      · exact ⟨rfl, rfl⟩
  | receive reader =>
      simp only [perform, receive]
      split <;> exact ⟨rfl, rfl⟩

theorem readings_append (ids : Nat → U128) (service : Service) (name : String × String)
    (data : Bytes) : (service.append ids name data).2.readings = service.readings := by
  have basin : (service.createBasin ids name.1).2.readings = service.readings := by
    unfold createBasin
    split <;> rfl
  have stream (service : Service) (basinId : U128) :
      (service.createStream ids name basinId).2.readings = service.readings := by
    unfold createStream
    split <;> rfl
  have written (service : Service) (metadata : StreamMetadata) :
      (service.appendTo name metadata data).2.readings = service.readings := by
    unfold appendTo
    split <;> rfl
  unfold append
  split
  · rfl
  · rw [written, stream, basin]

/-! ## Ids and soundness -/

theorem process_update {service : Service} {name : String × String} (stores : Stores)
    (metadata : StreamMetadata) (current : Process) :
    process { service with
      stores
      processes := Function.update service.processes name (some current) } name metadata =
        some current := by
  simp [process]

section Sound

variable {ids : Nat → U128} {service : Service} {name : String × String} {count : Nat}

theorem sound_createBasin (sound : service.stores.Sound) (basinName : String)
    (fresh : Stores.Fresh ids service.stores.drawn (count + 1)) :
    (service.createBasin ids basinName).2.stores.Sound ∧
      (service.createBasin ids basinName).2.stores.basinId basinName =
        some (service.createBasin ids basinName).1 ∧
      Stores.Fresh ids (service.createBasin ids basinName).2.stores.drawn count := by
  unfold createBasin
  split
  · rename_i known
    exact ⟨sound, known, fresh.mono (Nat.le_succ _)⟩
  · exact ⟨sound.createdBasin fresh.undrawn, by simp, fresh.draw⟩

theorem sound_createStream (sound : service.stores.Sound) {basinId : U128}
    (basin : service.stores.basinId name.1 = some basinId)
    (fresh : Stores.Fresh ids service.stores.drawn (count + 1)) :
    (service.createStream ids name basinId).2.stores.Sound ∧
      (service.createStream ids name basinId).2.stores.named name.1 name.2 =
        some (service.createStream ids name basinId).1 ∧
      Stores.Fresh ids (service.createStream ids name basinId).2.stores.drawn count := by
  unfold createStream
  split
  · rename_i metadata known
    exact ⟨sound, by simp [Stores.named, basin, known], fresh.mono (Nat.le_succ _)⟩
  · exact ⟨sound.created (sound.basin_drawn basin) fresh.undrawn,
      by simp [Stores.named, basin], fresh.draw⟩

theorem drawn_store (stores : Stores) (metadata : StreamMetadata)
    (written : Option (Option SeqBlock × Record)) :
    (stores.store metadata written).drawn = stores.drawn := by
  cases written <;> rfl

theorem sound_store {stores : Stores} (sound : stores.Sound) {metadata : StreamMetadata}
    (named : stores.named name.1 name.2 = some metadata)
    (written : Option (Option SeqBlock × Record)) : (stores.store metadata written).Sound := by
  cases written with
  | none => exact sound
  | some batch =>
      rcases Option.bind_eq_some_iff.mp named with ⟨basinId, _, stream⟩
      exact sound.appended _ _ (sound.stream_drawn stream).2.2

theorem sound_appendTo (sound : service.stores.Sound) {metadata : StreamMetadata}
    (named : service.stores.named name.1 name.2 = some metadata) (data : Bytes)
    (fresh : Stores.Fresh ids service.stores.drawn count) :
    (service.appendTo name metadata data).2.stores.Sound ∧
      Stores.Fresh ids (service.appendTo name metadata data).2.stores.drawn count := by
  unfold appendTo
  split
  · exact ⟨sound, fresh⟩
  · exact ⟨sound_store sound named _, (drawn_store _ _ _).symm ▸ fresh⟩

/-- An append draws at most two ids and leaves the stores sound. -/
theorem sound_append (sound : service.stores.Sound) (name : String × String) (data : Bytes)
    (fresh : Stores.Fresh ids service.stores.drawn (count + 2)) :
    (service.append ids name data).2.stores.Sound ∧
      Stores.Fresh ids (service.append ids name data).2.stores.drawn count := by
  unfold append
  split
  · exact ⟨sound, fresh.mono (by omega)⟩
  · rcases sound_createBasin sound name.1 fresh with ⟨sound, basin, fresh⟩
    rcases sound_createStream sound basin fresh with ⟨sound, named, fresh⟩
    exact sound_appendTo sound named data fresh

theorem sound_perform (sound : service.stores.Sound)
    (fresh : Stores.Fresh ids service.stores.drawn (2 * (count + 1))) (operation : Operation) :
    (service.perform ids operation).2.stores.Sound ∧
      Stores.Fresh ids (service.perform ids operation).2.stores.drawn (2 * count) := by
  have fewer : Stores.Fresh ids service.stores.drawn (2 * count) := fresh.mono (by omega)
  cases read : operation.isRead with
  | true =>
      rw [(perform_read ids service read).1]
      exact ⟨sound, fewer⟩
  | false =>
      cases operation with
      | append basinName streamName data => exact sound_append sound _ data fresh
      | restart => exact ⟨sound, fewer⟩
      | _ => cases read

end Sound

end Service

end Slatestreams
