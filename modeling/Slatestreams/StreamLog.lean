import Slatestreams.Foundation.NumberedLog
import Slatestreams.Stream

/-! # A stream as a log

The record store, read at the keys of one stream, is an append-only log with
increasing numbers. The relations below tie a loaded stream and the stores to
that log; appends, failed appends and loads keep them. -/

namespace Slatestreams

open Foundation

def Record.number (record : Record) : Nat := record.seqNum.toNat

namespace StreamMetadata

def blockKey (metadata : StreamMetadata) : Bytes :=
  Stream.constructSequenceBlockKey metadata.basinId metadata.streamId

def recordKey (metadata : StreamMetadata) (seqNum : UInt64) : Bytes :=
  Stream.constructStreamRecordKey metadata.basinId metadata.streamId seqNum

theorem recordKey_injective {left right : StreamMetadata} {n m : UInt64}
    (equal : left.recordKey n = right.recordKey m) : left = right ∧ n = m := by
  cases left
  cases right
  rcases Stream.constructStreamRecordKey_injective equal with ⟨rfl, rfl, rfl⟩
  exact ⟨rfl, rfl⟩

theorem blockKey_injective {left right : StreamMetadata}
    (equal : left.blockKey = right.blockKey) : left = right := by
  cases left
  cases right
  rcases Stream.constructSequenceBlockKey_injective equal with ⟨rfl, rfl⟩
  rfl

theorem blockKey_ne_recordKey (left right : StreamMetadata) (n : UInt64) :
    left.blockKey ≠ right.recordKey n :=
  Stream.constructSequenceBlockKey_ne_record _ _ _ _ _

end StreamMetadata

/-- The record store holds exactly the log's records under the stream's keys. -/
def StoresLog (records : Contents) (metadata : StreamMetadata) (log : List Record) : Prop :=
  ∀ n : UInt64, records.get (metadata.recordKey n) =
    (NumberedLog.entry Record.number log n.toNat).map Record.serialise

/-- A loaded stream agrees with the log: its allocator is sound and points past
every record in the store. -/
structure Consistent (records : Contents) (stream : Stream) (log : List Record) : Prop where
  valid : stream.sequenceNumberAllocator.Valid
  ascending : NumberedLog.Ascending Record.number log
  below : ∀ record ∈ log, record.number < stream.nextSeqNum.toNat
  stored : StoresLog records stream.metadata log

/-- The block the stream allocates from is the stored one. -/
def Reserved (records : Contents) (stream : Stream) : Prop :=
  records.get stream.metadata.blockKey =
    some stream.sequenceNumberAllocator.currentBlock.serialise

/-! ## The batch of an append -/

theorem get_appendBatch_record (records : Contents) (metadata other : StreamMetadata)
    (block : Option SeqBlock) (record : Record) (n : UInt64) :
    (records.apply (Stream.appendBatch metadata block record)).get (other.recordKey n) =
      if metadata = other ∧ record.seqNum = n then some record.serialise
      else records.get (other.recordKey n) := by
  have recordPut (contents : Contents) :
      (contents.insert (metadata.recordKey record.seqNum) record.serialise).get
        (other.recordKey n) =
      if metadata = other ∧ record.seqNum = n then some record.serialise
      else contents.get (other.recordKey n) := by
    rw [Contents.get_insert]
    by_cases same : metadata = other ∧ record.seqNum = n
    · rcases same with ⟨rfl, rfl⟩
      simp
    · rw [if_neg same, if_neg fun equal => same (StreamMetadata.recordKey_injective equal)]
  cases block with
  | none => exact recordPut records
  | some block =>
      have blockPut : (records.insert metadata.blockKey block.serialise).get (other.recordKey n) =
          records.get (other.recordKey n) := by
        rw [Contents.get_insert, if_neg (StreamMetadata.blockKey_ne_recordKey _ _ _)]
      rw [← blockPut]
      exact recordPut _

theorem get_appendBatch_block (records : Contents) (metadata other : StreamMetadata)
    (block : Option SeqBlock) (record : Record) :
    (records.apply (Stream.appendBatch metadata block record)).get other.blockKey =
      match block with
      | some block =>
          if metadata = other then some block.serialise else records.get other.blockKey
      | none => records.get other.blockKey := by
  have recordPut (contents : Contents) :
      (contents.insert (metadata.recordKey record.seqNum) record.serialise).get other.blockKey =
        contents.get other.blockKey := by
    rw [Contents.get_insert, if_neg (StreamMetadata.blockKey_ne_recordKey _ _ _).symm]
  cases block with
  | none => exact recordPut records
  | some block =>
      have blockPut : (records.insert metadata.blockKey block.serialise).get other.blockKey =
          if metadata = other then some block.serialise else records.get other.blockKey := by
        rw [Contents.get_insert]
        by_cases same : metadata = other
        · simp [same]
        · rw [if_neg fun equal => same (StreamMetadata.blockKey_injective equal), if_neg same]
      exact (recordPut _).trans blockPut

/-! ## Everything ever written -/

namespace StreamMetadata

/-- The number in a record key of the stream. -/
def numberOf (metadata : StreamMetadata) (key : Bytes) : Option UInt64 :=
  let n := UInt64.ofNat (BigEndian.decode (key.drop 33))
  if key = metadata.recordKey n then some n else none

@[simp] theorem numberOf_recordKey (metadata : StreamMetadata) (n : UInt64) :
    metadata.numberOf (metadata.recordKey n) = some n := by
  have number : (metadata.recordKey n).drop 33 = putU64 n := by
    simp [recordKey, Stream.constructStreamRecordKey_eq, List.drop_append]
  simp [numberOf, number]

theorem numberOf_of_ne {metadata : StreamMetadata} {key : Bytes}
    (different : ∀ n, key ≠ metadata.recordKey n) : metadata.numberOf key = none :=
  if_neg (different _)

@[simp] theorem numberOf_blockKey (metadata other : StreamMetadata) :
    metadata.numberOf other.blockKey = none :=
  numberOf_of_ne fun n => blockKey_ne_recordKey other metadata n

end StreamMetadata

/-- The numbers and values written under the stream's record keys, in order. -/
def Stores.written (stores : Stores) (metadata : StreamMetadata) : List (UInt64 × Bytes) :=
  stores.journal.flatMap fun entry =>
    match entry.1 with
    | .metaStorage => []
    | .recordStorage => entry.2.filterMap fun record =>
        (metadata.numberOf record.key).map fun n => (n, record.value)

def Record.entry (record : Record) : UInt64 × Bytes := (record.seqNum, record.serialise)

@[simp] theorem Stores.written_draw (stores : Stores) (id : U128) (metadata : StreamMetadata) :
    (stores.draw id).written metadata = stores.written metadata := rfl

@[simp] theorem Stores.written_write_meta (stores : Stores) (batch : List StorageRecord)
    (metadata : StreamMetadata) :
    (stores.write batch .metaStorage).written metadata = stores.written metadata := by
  simp [Stores.written, Stores.write]

theorem Stores.written_write_block (stores : Stores) (metadata other : StreamMetadata)
    (value : Bytes) :
    (stores.write [⟨other.blockKey, value⟩] .recordStorage).written metadata =
      stores.written metadata := by
  simp [Stores.written, Stores.write]

theorem Stores.written_write_append (stores : Stores) (metadata : StreamMetadata)
    (block : Option SeqBlock) (record : Record) :
    (stores.write (Stream.appendBatch metadata block record) .recordStorage).written metadata =
      stores.written metadata ++ [record.entry] := by
  have number := metadata.numberOf_recordKey record.seqNum
  have noNumber := metadata.numberOf_blockKey metadata
  unfold StreamMetadata.recordKey at number
  unfold StreamMetadata.blockKey at noNumber
  cases block <;>
    simp [Stores.written, Stores.write, Stream.appendBatch, number, noNumber, Record.entry]

/-! ## Appends -/

/-- The allocator an append moves to, and the block it has to store. -/
def Stream.Draws (stream : Stream) (block : Option SeqBlock) (after : SequenceAllocator) : Prop :=
  stream.sequenceNumberAllocator.allocate 1 =
    some ((stream.nextSeqNum, block), after)

instance (stream : Stream) (block : Option SeqBlock) (after : SequenceAllocator) :
    Decidable (stream.Draws block after) := inferInstanceAs (Decidable (_ = _))

def Stream.moved (stream : Stream) (after : SequenceAllocator) : Stream :=
  { stream with sequenceNumberAllocator := after }

@[simp] theorem Stream.moved_metadata (stream : Stream) (after : SequenceAllocator) :
    (stream.moved after).metadata = stream.metadata := rfl

@[simp] theorem Stream.moved_allocator (stream : Stream) (after : SequenceAllocator) :
    (stream.moved after).sequenceNumberAllocator = after := rfl

/-- What an append returns once the store has answered. -/
def Stream.appended (stream : Stream) (data : Bytes) (after : SequenceAllocator) :
    Except StorageError Unit → Except StreamError AppendResult × Stream
  | .ok () =>
      (.ok { record := ⟨stream.nextSeqNum, data⟩, nextSeqNum := after.nextSequenceNumber },
        stream.moved after)
  | .error error => (.error (.storageError error), stream.moved after)

/-- An append whose allocation does not panic makes one call, its batch. -/
theorem Stream.append_eq {stream : Stream} {block : Option SeqBlock} {after : SequenceAllocator}
    (draws : stream.Draws block after) (data : Bytes) :
    stream.append data =
      .call (S := storage) (.apply .recordStorage
        (Stream.appendBatch stream.metadata block ⟨stream.nextSeqNum, data⟩))
      fun answer => .done (stream.appended data after answer) := by
  have allocated : stream.sequenceNumberAllocator.allocate 1 = _ := draws
  simp only [Stream.append, allocated, Program.ofOption, Program.bind_eq, Program.bind_done]
  change Program.call _ _ = Program.call _ _
  congr 1
  funext answer
  cases answer <;> rfl

/-- Otherwise it panics before it reaches the store. -/
theorem Stream.append_cases (stream : Stream) (data : Bytes) :
    (∃ message, stream.append data = .panic message) ∨
      ∃ block after, stream.Draws block after := by
  cases allocated : stream.sequenceNumberAllocator.allocate 1 with
  | none => exact .inl ⟨_, by simp [Stream.append, allocated, Program.ofOption]; rfl⟩
  | some outcome =>
      rcases outcome with ⟨⟨seqNum, block⟩, after⟩
      rcases SequenceAllocator.allocate_eq_some allocated with ⟨rfl, _⟩
      exact .inr ⟨block, after, allocated⟩

section Append

variable {records : Contents} {stream : Stream} {log : List Record}
  {block : Option SeqBlock} {after : SequenceAllocator}

theorem Stream.Draws.allocated (draws : stream.Draws block after) :
    SequenceAllocator.Allocated stream.sequenceNumberAllocator 1 block after :=
  (SequenceAllocator.allocate_eq_some draws).2

theorem Stream.Draws.next_eq (draws : stream.Draws block after) :
    after.nextSequenceNumber.toNat = stream.nextSeqNum.toNat + 1 :=
  draws.allocated.next_eq

/-- A failed append loses its number and nothing else. -/
theorem Consistent.failed (consistent : Consistent records stream log)
    (draws : stream.Draws block after) : Consistent records (stream.moved after) log where
  valid := draws.allocated.valid consistent.valid consistent.valid.blockSize_pos
  ascending := consistent.ascending
  below record member := by
    have := consistent.below record member
    have := draws.next_eq
    simp only [Stream.nextSeqNum, Stream.moved_allocator] at *
    omega
  stored := consistent.stored

/-- A written append adds one record, above all others, and overwrites none. -/
theorem Consistent.written (consistent : Consistent records stream log)
    (draws : stream.Draws block after) (data : Bytes) :
    Consistent (records.apply (Stream.appendBatch stream.metadata block ⟨stream.nextSeqNum, data⟩))
      (stream.moved after) (log ++ [⟨stream.nextSeqNum, data⟩]) where
  valid := (consistent.failed draws).valid
  ascending := consistent.ascending.snoc consistent.below
  below record member := by
    rcases List.mem_append.mp member with old | new
    · exact (consistent.failed draws).below record old
    · rw [List.mem_singleton.mp new]
      have := draws.next_eq
      simp only [Stream.nextSeqNum, Stream.moved_allocator, Record.number] at *
      omega
  stored n := by
    rw [Stream.moved_metadata, get_appendBatch_record, NumberedLog.entry_snoc _ consistent.below]
    have sameNumber : Record.number ⟨stream.nextSeqNum, data⟩ = n.toNat ↔ stream.nextSeqNum = n :=
      UInt64.toNat_inj
    by_cases same : stream.nextSeqNum = n
    · simp [same, Record.number]
    · rw [if_neg fun both => same both.2, if_neg fun equal => same (sameNumber.mp equal)]
      exact consistent.stored n

theorem Reserved.written (data : Bytes) (draws : stream.Draws block after)
    (reserved : block = none → Reserved records stream) :
    Reserved (records.apply
      (Stream.appendBatch stream.metadata block ⟨stream.nextSeqNum, data⟩))
      (stream.moved after) := by
  unfold Reserved
  rw [Stream.moved_metadata, get_appendBatch_block]
  cases draws.allocated with
  | within => exact reserved rfl
  | crossing => simp

end Append

/-! ## Loads -/

/-- The stream's name leads to `metadata`, and `block` is what is stored as its block. -/
structure Loadable (stores : Stores) (streamName : String) (metadata : StreamMetadata)
    (block : Option SeqBlock) : Prop where
  named : stores.metaStorage.get (Stream.constructMetadataKey metadata.basinId streamName) =
    some metadata.serialise
  stored : stores.recordStorage.get metadata.blockKey = block.map SeqBlock.serialise

theorem Loadable.written {stores : Stores} {streamName : String} {metadata : StreamMetadata}
    {block : Option SeqBlock} (loadable : Loadable stores streamName metadata block)
    (next : Option SeqBlock) (record : Record) :
    Loadable (stores.write (Stream.appendBatch metadata next record) .recordStorage) streamName
      metadata (next.or block) where
  named := loadable.named
  stored := by
    refine (get_appendBatch_block _ _ _ _ _).trans ?_
    cases next with
    | none => exact loadable.stored
    | some opened => simp

/-- The allocator a load continues with. -/
def SequenceAllocator.resume : Option SeqBlock → Option SequenceAllocator
  | some block => SequenceAllocator.new block
  | none => some SequenceAllocator.default

/-- A stream loaded from a block that covers the log agrees with the log. -/
theorem Consistent.of_block {records : Contents} {metadata : StreamMetadata} {log : List Record}
    {block : SeqBlock} {allocator : SequenceAllocator}
    (ascending : NumberedLog.Ascending Record.number log)
    (stored : StoresLog records metadata log) (positive : 1 ≤ block.blockSize.toNat)
    (covers : ∀ record ∈ log, record.number < block.start.toNat + block.blockSize.toNat)
    (created : SequenceAllocator.new block = some allocator) :
    Consistent records ⟨allocator, metadata⟩ log where
  valid := SequenceAllocator.valid_of_new positive created
  ascending := ascending
  below record member := by
    have := (SequenceAllocator.new_eq_some created).2
    have := covers record member
    simp only [Stream.nextSeqNum] at *
    omega
  stored := stored

/-! ## Reads and loads, call by call -/

/-- What a read makes of the answer to its one lookup. -/
def Stream.readResult :
    Except StorageError (Option StorageRecord) → Except StreamError (Option Record)
  | .error error => .error (.storageError error)
  | .ok none => .ok none
  | .ok (some record) =>
      match Record.deserialise record.value with
      | .ok streamRecord => .ok (some streamRecord)
      | .error error => .error (.deserialiseError error.display)

theorem Stream.read_eq (stream : Stream) (n : UInt64) :
    stream.read n =
      .call (S := storage) (.get .recordStorage (stream.metadata.recordKey n)) fun answer =>
        .done (Stream.readResult answer) := by
  simp only [Stream.read, get, Program.perform, ExceptT.run_bind, run_orThrow,
    Program.bind_eq, Program.bind_call, Program.bind_done]
  congr 1
  funext answer
  rcases answer with error | _ | record
  · rfl
  · rfl
  · cases decoded : Record.deserialise record.value <;>
      simp [Stream.readResult, decoded, ExceptT.run_bind]

/-- What a load makes of the answer to its second lookup. -/
def Stream.loadResult (metadata : StreamMetadata) :
    Except StorageError (Option StorageRecord) → Program storage (Except StreamError Stream)
  | .error error => .done (.error (.storageError error))
  | .ok none => .done (.ok { sequenceNumberAllocator := SequenceAllocator.default, metadata })
  | .ok (some record) =>
      match SeqBlock.deserialize record.value with
      | .error error => .done (.error (.deserialiseError error.message))
      | .ok seqBlock =>
          match SequenceAllocator.new seqBlock with
          | some sequenceNumberAllocator => .done (.ok { sequenceNumberAllocator, metadata })
          | none => .panic "attempt to add with overflow"

/-- What a load makes of the answer to its first lookup. -/
def Stream.loadNamed (basinId : U128) (streamName : String) :
    Except StorageError (Option StorageRecord) → Program storage (Except StreamError Stream)
  | .error error => .done (.error (.storageError error))
  | .ok none => .done (.error (.streamDoesNotExist streamName))
  | .ok (some record) =>
      match StreamMetadata.deserialise record.value with
      | .error error => .done (.error error)
      | .ok metadata =>
          .call (S := storage)
            (.get .recordStorage (constructSequenceBlockKey basinId metadata.streamId))
            (loadResult metadata)

theorem Stream.load_eq (basinId : U128) (streamName : String) :
    (Stream.load basinId streamName).run =
      .call (S := storage) (.get .metaStorage (constructMetadataKey basinId streamName))
        (loadNamed basinId streamName) := by
  simp only [Stream.load, Stream.loadMetadata, get, Program.perform, ExceptT.run_bind,
    run_orThrow, Program.bind_eq, Program.bind_call, Program.bind_done]
  congr 1
  funext answer
  rcases answer with error | _ | record
  · rfl
  · rfl
  · cases decoded : StreamMetadata.deserialise record.value with
    | error error => simp [loadNamed, decoded]
    | ok metadata =>
        simp only [Program.bind_done, run_ofResult, loadNamed, decoded]
        congr 1
        funext answer
        rcases answer with error | _ | record
        · rfl
        · rfl
        · cases parsed : SeqBlock.deserialize record.value with
          | error error =>
              simp [Stream.loadAllocator, Stream.loadResult, parsed, ExceptT.run_bind]
          | ok seqBlock =>
              cases created : SequenceAllocator.new seqBlock <;>
                simp [Stream.loadAllocator, Stream.loadResult, parsed, created, Program.ofOption,
                  ExceptT.run_bind]

theorem Stream.loadNamed_of_deserialise (basinId : U128) (streamName : String) (key : Bytes)
    {value : Bytes} {metadata : StreamMetadata}
    (decoded : StreamMetadata.deserialise value = .ok metadata) :
    Stream.loadNamed basinId streamName (.ok (some ⟨key, value⟩)) =
      .call (S := storage)
        (.get .recordStorage (constructSequenceBlockKey basinId metadata.streamId))
        (loadResult metadata) := by
  simp only [Stream.loadNamed, decoded]

theorem Stream.loadNamed_serialise (basinId : U128) (streamName : String) (key : Bytes)
    (metadata : StreamMetadata) :
    Stream.loadNamed basinId streamName (.ok (some ⟨key, metadata.serialise⟩)) =
      .call (S := storage)
        (.get .recordStorage (constructSequenceBlockKey basinId metadata.streamId))
        (loadResult metadata) :=
  Stream.loadNamed_of_deserialise basinId streamName key metadata.deserialise_serialise

theorem Stream.loadResult_of_deserialize (metadata : StreamMetadata) (key : Bytes)
    {value : Bytes} {block : SeqBlock} (parsed : SeqBlock.deserialize value = .ok block) :
    Stream.loadResult metadata (.ok (some ⟨key, value⟩)) =
      match SequenceAllocator.new block with
      | some allocator => .done (.ok ⟨allocator, metadata⟩)
      | none => .panic "attempt to add with overflow" := by
  simp only [Stream.loadResult, parsed]

/-- A load goes on from the block that is stored. -/
theorem Stream.loadResult_resume {records : Contents} {metadata : StreamMetadata}
    {block : Option SeqBlock} {allocator : SequenceAllocator}
    (stored : records.get metadata.blockKey = block.map SeqBlock.serialise)
    (resumes : SequenceAllocator.resume block = some allocator) :
    Stream.loadResult metadata (.ok (records.read metadata.blockKey)) =
      .done (.ok ⟨allocator, metadata⟩) := by
  have read : records.read metadata.blockKey =
      (block.map SeqBlock.serialise).map fun value => ⟨metadata.blockKey, value⟩ :=
    congrArg (Option.map _) stored
  rw [read]
  cases block with
  | none =>
      cases resumes
      rfl
  | some block =>
      simp only [Option.map_some]
      rw [Stream.loadResult_of_deserialize metadata _ block.deserialize_serialise]
      change SequenceAllocator.new block = some allocator at resumes
      rw [resumes]

/-! ## Creations, call by call -/

/-- What a creation makes of the answer to its second write. -/
def Stream.blockStored (metadata : StreamMetadata) :
    Except StorageError Unit → Program storage (Except StreamError Stream)
  | .error error => .done (.error (.storageError error))
  | .ok () => .done (.ok { sequenceNumberAllocator := SequenceAllocator.default, metadata })

/-- What a creation makes of the answer to its first write. -/
def Stream.nameStored (metadata : StreamMetadata) :
    Except StorageError Unit → Program storage (Except StreamError Stream)
  | .error error => .done (.error (.storageError error))
  | .ok () =>
      .call (S := storage)
        (.apply .recordStorage
          [⟨metadata.blockKey, SequenceAllocator.default.allocation.serialise⟩])
        (blockStored metadata)

theorem Stream.new_eq (basinId : U128) (streamName : String) :
    (Stream.new basinId streamName).run =
      .call (S := storage) .newV4 fun streamId =>
        .call (S := storage)
          (.apply .metaStorage [⟨constructMetadataKey basinId streamName,
            (⟨basinId, streamId⟩ : StreamMetadata).serialise⟩])
          (nameStored ⟨basinId, streamId⟩) := by
  simp only [Stream.new, newV4, apply, Program.perform, ExceptT.run_bind, run_orThrow,
    Program.bind_eq, Program.bind_call, Program.bind_done]
  change Program.call _ _ = Program.call _ _
  congr 1
  funext streamId
  change Program.call _ _ = Program.call _ _
  congr 1
  funext answer
  rcases answer with error | ⟨⟩
  · rfl
  · change Program.call _ _ = Program.call _ _
    congr 1
    funext answer
    rcases answer with error | ⟨⟩ <;> rfl

/-! ## Executions -/

section Executes

variable {MayFail : StorageOp → Prop} {stores after : Stores} {stream : Stream}
  {metadata : StreamMetadata} {streamName : String}

theorem Stream.readResult_get {records : Contents} {log : List Record}
    (stored : StoresLog records metadata log) (n : UInt64) :
    Stream.readResult (.ok (records.read (metadata.recordKey n))) =
      .ok (NumberedLog.entry Record.number log n.toNat) := by
  rw [Contents.read, stored n]
  cases NumberedLog.entry Record.number log n.toNat with
  | none => rfl
  | some record => simp [Stream.readResult, Record.deserialise_serialise]

/-- A read returns the log's entry, or the error of its one lookup. -/
theorem Stream.executes_read {log : List Record} {n : UInt64}
    {result : Except StreamError (Option Record)}
    (stored : StoresLog stores.recordStorage stream.metadata log) :
    (stream.read n).Executes (StorageOp.Answers MayFail) stores result after ↔
      after = stores ∧
        (result = .ok (NumberedLog.entry Record.number log n.toNat) ∨
          MayFail (.get .recordStorage (stream.metadata.recordKey n)) ∧
            ∃ error, result = .error (.storageError error)) := by
  have found : Stream.readResult
      (.ok ((stores.contents .recordStorage).read (stream.metadata.recordKey n))) = _ :=
    Stream.readResult_get stored n
  rw [Stream.read_eq, executes_get, Program.executes_done, found]
  constructor
  · rintro (⟨rfl, rfl⟩ | ⟨mayFail, error, failed⟩)
    · exact ⟨rfl, .inl rfl⟩
    · rcases Program.executes_done.mp failed with ⟨rfl, rfl⟩
      exact ⟨rfl, .inr ⟨mayFail, error, rfl⟩⟩
  · rintro ⟨rfl, rfl | ⟨mayFail, error, rfl⟩⟩
    · exact .inl ⟨rfl, rfl⟩
    · exact .inr ⟨mayFail, error, Program.executes_done.mpr ⟨rfl, rfl⟩⟩

theorem Stream.read_keeps {n : UInt64} {result : Except StreamError (Option Record)}
    (executes : (stream.read n).Executes (StorageOp.Answers MayFail) stores result after) :
    after = stores := by
  rw [Stream.read_eq, executes_get] at executes
  rcases executes with returned | ⟨_, error, failed⟩
  · exact (Program.executes_done.mp returned).2
  · exact (Program.executes_done.mp failed).2

theorem Stream.exists_draws (valid : stream.sequenceNumberAllocator.Valid)
    (bound : stream.sequenceNumberAllocator.currentBlock.start.toNat +
      2 * stream.sequenceNumberAllocator.currentBlock.blockSize.toNat < 2 ^ 64) :
    ∃ block allocator, stream.Draws block allocator := by
  have positive : (1 : UInt64).toNat ≤
      stream.sequenceNumberAllocator.currentBlock.blockSize.toNat := valid.blockSize_pos
  rcases Option.isSome_iff_exists.mp (SequenceAllocator.allocate_isSome valid positive bound) with
    ⟨⟨⟨start, block⟩, allocator⟩, allocated⟩
  rcases SequenceAllocator.allocate_eq_some allocated with ⟨rfl, _⟩
  exact ⟨block, allocator, allocated⟩

/-- An append either gets its batch written and returns its number, or returns
the error of its one call with nothing written. -/
theorem Stream.Draws.executes_append {block : Option SeqBlock} {allocator : SequenceAllocator}
    (draws : stream.Draws block allocator) {data : Bytes}
    {result : Except StreamError AppendResult} {next : Stream} :
    (stream.append data).Executes (StorageOp.Answers MayFail) stores (result, next) after ↔
      next = stream.moved allocator ∧
      (after = stores.write
          (Stream.appendBatch stream.metadata block ⟨stream.nextSeqNum, data⟩) .recordStorage ∧
        result = .ok ⟨⟨stream.nextSeqNum, data⟩, allocator.nextSequenceNumber⟩ ∨
      after = stores ∧
        MayFail (.apply .recordStorage
          (Stream.appendBatch stream.metadata block ⟨stream.nextSeqNum, data⟩)) ∧
        ∃ error, result = .error (.storageError error)) := by
  rw [Stream.append_eq draws, executes_apply]
  simp only [Program.executes_done, Stream.appended, Prod.mk.injEq]
  constructor
  · rintro (⟨⟨rfl, rfl⟩, rfl⟩ | ⟨mayFail, error, ⟨rfl, rfl⟩, rfl⟩)
    · exact ⟨rfl, .inl ⟨rfl, rfl⟩⟩
    · exact ⟨rfl, .inr ⟨rfl, mayFail, error, rfl⟩⟩
  · rintro ⟨rfl, ⟨rfl, rfl⟩ | ⟨rfl, mayFail, error, rfl⟩⟩
    · exact .inl ⟨⟨rfl, rfl⟩, rfl⟩
    · exact .inr ⟨mayFail, error, ⟨rfl, rfl⟩, rfl⟩

theorem Stream.append_executes {data : Bytes} {result : Except StreamError AppendResult}
    {next : Stream}
    (executes : (stream.append data).Executes (StorageOp.Answers MayFail) stores
      (result, next) after) :
    ∃ block allocator, stream.Draws block allocator ∧ next = stream.moved allocator ∧
      (after = stores.write
          (Stream.appendBatch stream.metadata block ⟨stream.nextSeqNum, data⟩) .recordStorage ∧
        result = .ok ⟨⟨stream.nextSeqNum, data⟩, allocator.nextSequenceNumber⟩ ∨
      after = stores ∧
        MayFail (.apply .recordStorage
          (Stream.appendBatch stream.metadata block ⟨stream.nextSeqNum, data⟩)) ∧
        ∃ error, result = .error (.storageError error)) := by
  rcases stream.append_cases data with ⟨message, panics⟩ | ⟨block, allocator, draws⟩
  · rw [panics] at executes
    exact absurd executes Program.executes_panic
  · exact ⟨block, allocator, draws, draws.executes_append.mp executes⟩

/-- An append that is cut off has written its whole batch or nothing. -/
theorem Stream.append_cut {data : Bytes}
    (cut : (stream.append data).Cut (StorageOp.Answers MayFail) stores after) :
    after = stores ∨ ∃ block allocator, stream.Draws block allocator ∧
      after = stores.write
        (Stream.appendBatch stream.metadata block ⟨stream.nextSeqNum, data⟩) .recordStorage := by
  rcases stream.append_cases data with ⟨message, panics⟩ | ⟨block, allocator, draws⟩
  · rw [panics, Program.cut_panic] at cut
    exact .inl cut
  · rw [Stream.append_eq draws, cut_apply] at cut
    simp only [Program.cut_done] at cut
    rcases cut with same | written | ⟨_, _, same⟩
    · exact .inl same
    · exact .inr ⟨block, allocator, draws, written⟩
    · exact .inl same

theorem Stream.executes_loadResult {block : Option SeqBlock}
    (stored : stores.recordStorage.get metadata.blockKey = block.map SeqBlock.serialise) :
    (Stream.loadResult metadata
        (.ok ((stores.contents .recordStorage).read metadata.blockKey))).Executes
        (StorageOp.Answers MayFail) stores (.ok stream) after ↔
      after = stores ∧ stream.metadata = metadata ∧
        SequenceAllocator.resume block = some stream.sequenceNumberAllocator := by
  have returned (allocator : SequenceAllocator) :
      (Program.done (.ok ⟨allocator, metadata⟩) :
          Program storage (Except StreamError Stream)).Executes (StorageOp.Answers MayFail)
          stores (.ok stream) after ↔
        after = stores ∧ stream.metadata = metadata ∧
          some allocator = some stream.sequenceNumberAllocator := by
    rw [Program.executes_done]
    constructor
    · rintro ⟨equal, rfl⟩
      cases equal
      exact ⟨rfl, rfl, rfl⟩
    · rintro ⟨rfl, rfl, equal⟩
      cases equal
      exact ⟨rfl, rfl⟩
  have blockRead : (stores.contents .recordStorage).read metadata.blockKey =
      (block.map SeqBlock.serialise).map fun value => ⟨metadata.blockKey, value⟩ :=
    congrArg (Option.map _) stored
  rw [blockRead]
  cases block with
  | none => exact returned _
  | some block =>
      simp only [Option.map_some, SequenceAllocator.resume]
      rw [Stream.loadResult_of_deserialize metadata _ block.deserialize_serialise]
      cases SequenceAllocator.new block with
      | none => simp
      | some allocator => exact returned allocator

/-- A load continues from what is stored. -/
theorem Stream.executes_load {block : Option SeqBlock}
    (loadable : Loadable stores streamName metadata block) :
    (Stream.load metadata.basinId streamName).run.Executes (StorageOp.Answers MayFail) stores
        (.ok stream) after ↔
      after = stores ∧ stream.metadata = metadata ∧
        SequenceAllocator.resume block = some stream.sequenceNumberAllocator := by
  have nameRead : (stores.contents .metaStorage).read _ = _ :=
    Contents.read_of_get loadable.named
  rw [Stream.load_eq, executes_get, nameRead, Stream.loadNamed_serialise, executes_get]
  constructor
  · rintro ((loaded | ⟨_, error, failed⟩) | ⟨_, error, failed⟩)
    · exact (Stream.executes_loadResult loadable.stored).mp loaded
    · cases (Program.executes_done.mp failed).1
    · cases (Program.executes_done.mp failed).1
  · exact fun loaded => .inl (.inl ((Stream.executes_loadResult loadable.stored).mpr loaded))

/-- What a creation leaves in the stores. -/
def Stores.created (stores : Stores) (streamName : String) (metadata : StreamMetadata) : Stores :=
  ((stores.draw metadata.streamId).write
    [⟨Stream.constructMetadataKey metadata.basinId streamName, metadata.serialise⟩]
      .metaStorage).write
    [⟨metadata.blockKey, SequenceAllocator.default.allocation.serialise⟩] .recordStorage

/-- A creation that returns has drawn an id and written the metadata and the
first block. -/
theorem Stream.executes_new {basinId : U128} :
    (Stream.new basinId streamName).run.Executes (StorageOp.Answers MayFail) stores
        (.ok stream) after ↔
      ∃ streamId, streamId ∉ stores.drawn ∧
        stream = ⟨SequenceAllocator.default, ⟨basinId, streamId⟩⟩ ∧
        after = stores.created streamName stream.metadata := by
  rw [Stream.new_eq, executes_newV4]
  constructor
  · rintro ⟨streamId, undrawn, rest⟩
    rcases executes_apply.mp rest with named | ⟨_, error, failed⟩
    · rcases executes_apply.mp named with blocked | ⟨_, error, failed⟩
      · rcases Program.executes_done.mp blocked with ⟨returned, rfl⟩
        cases returned
        exact ⟨streamId, undrawn, rfl, rfl⟩
      · cases (Program.executes_done.mp failed).1
    · cases (Program.executes_done.mp failed).1
  · rintro ⟨streamId, undrawn, rfl, rfl⟩
    refine ⟨streamId, undrawn, executes_apply.mpr (.inl ?_)⟩
    exact executes_apply.mpr (.inl (Program.executes_done.mpr ⟨rfl, rfl⟩))

end Executes

end Slatestreams
