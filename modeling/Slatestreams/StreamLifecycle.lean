import Slatestreams.Foundation.Run
import Slatestreams.StreamLog

/-! # Process lifetimes of one stream

A stream is appended to and read by one process at a time. The process may stop
at any moment, also between two calls of an append, and a later one loads the
stream again. -/

namespace Slatestreams

open Foundation

inductive StreamEvent where
  | append (data : Bytes) (result : Except StreamError AppendResult)
  | appendCut (data : Bytes)
  | read (seqNum : UInt64) (result : Except StreamError (Option Record))
  | crash
  | load

/-- The stores, and the stream of the running process. -/
structure StreamLife where
  stores : Stores
  process : Option Stream

inductive StreamStep (MayFail : StorageOp → Prop) (basinId : U128) (streamName : String) :
    StreamLife → StreamEvent → StreamLife → Prop
  | append {stores after : Stores} {stream next : Stream} {data : Bytes}
      {result : Except StreamError AppendResult} :
      (stream.append data).Executes (StorageOp.Answers MayFail) stores (result, next) after →
      StreamStep MayFail basinId streamName
        ⟨stores, some stream⟩ (.append data result) ⟨after, some next⟩
  | appendCut {stores after : Stores} {stream : Stream} {data : Bytes} :
      (stream.append data).Cut (StorageOp.Answers MayFail) stores after →
      StreamStep MayFail basinId streamName
        ⟨stores, some stream⟩ (.appendCut data) ⟨after, none⟩
  | read {stores after : Stores} {stream : Stream} {seqNum : UInt64}
      {result : Except StreamError (Option Record)} :
      (stream.read seqNum).Executes (StorageOp.Answers MayFail) stores result after →
      StreamStep MayFail basinId streamName
        ⟨stores, some stream⟩ (.read seqNum result) ⟨after, some stream⟩
  | crash (life : StreamLife) :
      StreamStep MayFail basinId streamName life .crash ⟨life.stores, none⟩
  | load {stores after : Stores} {stream : Stream} :
      (Stream.load basinId streamName).run.Executes (StorageOp.Answers MayFail) stores
        (.ok stream) after →
      StreamStep MayFail basinId streamName ⟨stores, none⟩ .load ⟨after, some stream⟩

namespace StreamStep

variable {MayFail : StorageOp → Prop} {streamName : String} {stores : Stores} {stream : Stream}
  {metadata : StreamMetadata} {block : Option SeqBlock} {allocator : SequenceAllocator}

theorem appended {basinId : U128} (draws : stream.Draws block allocator) (data : Bytes) :
    StreamStep MayFail basinId streamName ⟨stores, some stream⟩
      (.append data (.ok ⟨⟨stream.nextSeqNum, data⟩, allocator.nextSequenceNumber⟩))
      ⟨stores.write (Stream.appendBatch stream.metadata block ⟨stream.nextSeqNum, data⟩)
        .recordStorage, some (stream.moved allocator)⟩ :=
  .append (draws.executes_append.mpr ⟨rfl, .inl ⟨rfl, rfl⟩⟩)

theorem failed {basinId : U128} (draws : stream.Draws block allocator) (data : Bytes)
    (error : StorageError)
    (mayFail : MayFail (.apply .recordStorage
      (Stream.appendBatch stream.metadata block ⟨stream.nextSeqNum, data⟩))) :
    StreamStep MayFail basinId streamName ⟨stores, some stream⟩
      (.append data (.error (.storageError error))) ⟨stores, some (stream.moved allocator)⟩ :=
  .append (draws.executes_append.mpr ⟨rfl, .inr ⟨rfl, mayFail, error, rfl⟩⟩)

theorem loaded (loadable : Loadable stores streamName metadata block)
    (resumed : SequenceAllocator.resume block = some allocator) :
    StreamStep MayFail metadata.basinId streamName ⟨stores, none⟩ .load
      ⟨stores, some ⟨allocator, metadata⟩⟩ :=
  .load ((Stream.executes_load loadable).mpr ⟨rfl, rfl, resumed⟩)

end StreamStep

/-- No call comes back with an error. -/
def NeverFails : StorageOp → Prop := fun _ => False

/-- Only writes come back with an error. -/
def WritesMayFail : StorageOp → Prop
  | .apply _ _ => True
  | _ => False

/-- The stores hold no record of the stream and never did. -/
def Stores.Unused (stores : Stores) (metadata : StreamMetadata) : Prop :=
  stores.written metadata = [] ∧
    ∀ n, stores.recordStorage.get (metadata.recordKey n) = none

theorem Loadable.created (stores : Stores) (streamName : String) (metadata : StreamMetadata) :
    Loadable (stores.created streamName metadata) streamName metadata
      (some SequenceAllocator.default.currentBlock) where
  named := by simp [Stores.created, Stores.write, Stores.draw, Contents.get_insert]
  stored := by simp [Stores.created, Stores.write, Stores.draw, Contents.get_insert]

theorem Stores.Unused.created {stores : Stores} {metadata : StreamMetadata}
    (unused : stores.Unused metadata) (streamName : String) :
    (stores.created streamName metadata).Unused metadata := by
  refine ⟨?_, fun n => ?_⟩
  · rw [Stores.created, Stores.written_write_block, Stores.written_write_meta, Stores.written_draw]
    exact unused.1
  · have := unused.2 n
    simpa [Stores.created, Stores.write, Stores.draw, Contents.get_insert,
      StreamMetadata.blockKey_ne_recordKey] using this

theorem Stores.Unused.consistent {stores : Stores} {metadata : StreamMetadata}
    (unused : stores.Unused metadata) :
    Consistent stores.recordStorage ⟨SequenceAllocator.default, metadata⟩ [] :=
  ⟨SequenceAllocator.valid_default, NumberedLog.ascending_nil, fun _ member => (nomatch member),
    unused.2⟩

/-! ## The log of a stream whose writes do not fail -/

/-- The log that the events of a run add up to. An append that was cut off may
have been written or not. -/
inductive Logged : List StreamEvent → List Record → Prop where
  | nil : Logged [] []
  | appended {events : List StreamEvent} {log : List Record} {seqNum nextSeqNum : UInt64}
      {data : Bytes} :
      Logged events log → nextSeqNum.toNat = seqNum.toNat + 1 →
      Logged (events ++ [.append data (.ok ⟨⟨seqNum, data⟩, nextSeqNum⟩)])
        (log ++ [⟨seqNum, data⟩])
  | cutWritten {events : List StreamEvent} {log : List Record} {seqNum : UInt64}
      {data : Bytes} :
      Logged events log → Logged (events ++ [.appendCut data]) (log ++ [⟨seqNum, data⟩])
  | cutLost {events : List StreamEvent} {log : List Record} {data : Bytes} :
      Logged events log → Logged (events ++ [.appendCut data]) log
  | read {events : List StreamEvent} {log : List Record} {seqNum : UInt64}
      {result : Except StreamError (Option Record)} :
      Logged events log → Logged (events ++ [.read seqNum result]) log
  | crash {events : List StreamEvent} {log : List Record} :
      Logged events log → Logged (events ++ [.crash]) log
  | load {events : List StreamEvent} {log : List Record} :
      Logged events log → Logged (events ++ [.load]) log

theorem Logged.acknowledged {events : List StreamEvent} {log : List Record}
    (logged : Logged events log) {data : Bytes} {result : Except StreamError AppendResult}
    (member : .append data result ∈ events) :
    ∃ ack, result = .ok ack ∧ ack.record ∈ log ∧ ack.record.data = data ∧
      ack.nextSeqNum.toNat = ack.record.number + 1 := by
  induction logged with
  | nil => cases member
  | appended _ next induction =>
      rcases List.mem_append.mp member with earlier | last
      · rcases induction earlier with ⟨ack, rfl, kept, rest⟩
        exact ⟨ack, rfl, List.mem_append_left _ kept, rest⟩
      · cases List.mem_singleton.mp last
        exact ⟨_, rfl, by simp, rfl, next⟩
  | cutWritten _ induction =>
      rcases induction (by simpa using member) with ⟨ack, rfl, kept, rest⟩
      exact ⟨ack, rfl, List.mem_append_left _ kept, rest⟩
  | cutLost _ induction => exact induction (by simpa using member)
  | read _ induction => exact induction (by simpa using member)
  | crash _ induction => exact induction (by simpa using member)
  | load _ induction => exact induction (by simpa using member)

/-- The stored block covers the log, and a running process allocates from it. -/
structure Durable (streamName : String) (metadata : StreamMetadata) (life : StreamLife)
    (log : List Record) (block : SeqBlock) : Prop where
  loadable : Loadable life.stores streamName metadata (some block)
  covers : ∀ record ∈ log, record.number < block.start.toNat + block.blockSize.toNat
  blockSize : block.blockSize = DEFAULT_BLOCK_SIZE
  start_le : block.start.toNat ≤ NumberedLog.tail Record.number log
  written : life.stores.written metadata = log.map Record.entry
  ascending : NumberedLog.Ascending Record.number log
  stored : StoresLog life.stores.recordStorage metadata log
  process : ∀ stream, life.process = some stream →
    stream.metadata = metadata ∧ stream.sequenceNumberAllocator.currentBlock = block ∧
      Consistent life.stores.recordStorage stream log

namespace Durable

variable {streamName : String} {metadata : StreamMetadata} {stores : Stores}
  {life : StreamLife} {stream : Stream} {log : List Record} {block : SeqBlock}

theorem created
    (loadable : Loadable stores streamName metadata
      (some SequenceAllocator.default.currentBlock))
    (unused : stores.Unused metadata) :
    Durable streamName metadata ⟨stores, some ⟨SequenceAllocator.default, metadata⟩⟩ []
      SequenceAllocator.default.currentBlock where
  loadable := loadable
  covers _ member := nomatch member
  blockSize := rfl
  start_le := Nat.le_refl 0
  written := unused.1
  ascending := NumberedLog.ascending_nil
  stored := unused.2
  process other equal := by
    rcases Option.some.inj equal with rfl
    exact ⟨rfl, rfl, unused.consistent⟩

theorem stopped (durable : Durable streamName metadata life log block) :
    Durable streamName metadata ⟨life.stores, none⟩ log block :=
  { durable with process := fun _ running => nomatch running }

theorem appended {next : Option SeqBlock} {allocator : SequenceAllocator}
    (durable : Durable streamName metadata ⟨stores, some stream⟩ log block)
    (draws : stream.Draws next allocator) (data : Bytes) :
    Durable streamName metadata
      ⟨stores.write (Stream.appendBatch stream.metadata next ⟨stream.nextSeqNum, data⟩)
        .recordStorage, some (stream.moved allocator)⟩
      (log ++ [⟨stream.nextSeqNum, data⟩]) allocator.currentBlock := by
  rcases durable.process stream rfl with ⟨rfl, rfl, consistent⟩
  have written := consistent.written draws data
  have next_eq := draws.next_eq
  have current : next.or (some stream.sequenceNumberAllocator.currentBlock) =
      some allocator.currentBlock := by
    cases draws.allocated <;> rfl
  exact
    { loadable := current ▸ durable.loadable.written next _
      covers := fun record member =>
        Nat.lt_of_lt_of_le (written.below record member) written.valid.next_le
      blockSize := draws.allocated.blockSize_eq.trans durable.blockSize
      start_le := by
        have := written.valid.start_le
        simp only [NumberedLog.tail_snoc, Record.number, Stream.moved_allocator] at *
        omega
      written := by
        rw [Stores.written_write_append, durable.written, List.map_append]
        rfl
      ascending := written.ascending
      stored := written.stored
      process := fun other equal => by
        rcases Option.some.inj equal with rfl
        exact ⟨rfl, rfl, written⟩ }

theorem loaded (durable : Durable streamName metadata ⟨stores, none⟩ log block)
    (same : stream.metadata = metadata)
    (created : SequenceAllocator.new block = some stream.sequenceNumberAllocator) :
    Durable streamName metadata ⟨stores, some stream⟩ log block :=
  { durable with
    process := fun other equal => by
      rcases Option.some.inj equal with rfl
      have positive : 1 ≤ block.blockSize.toNat := by
        rw [durable.blockSize]
        decide
      subst same
      exact ⟨rfl, (SequenceAllocator.new_eq_some created).1,
        Consistent.of_block durable.ascending durable.stored positive durable.covers created⟩ }

theorem step {basinId : U128} {event : StreamEvent} {next : StreamLife}
    {events : List StreamEvent}
    (taken : StreamStep NeverFails basinId streamName life event next)
    (basin : metadata.basinId = basinId) (logged : Logged events log)
    (durable : Durable streamName metadata life log block) :
    ∃ log block, Logged (events ++ [event]) log ∧
      Durable streamName metadata next log block := by
  cases taken with
  | append executes =>
      rcases Stream.append_executes executes with
        ⟨fresh, allocator, draws, rfl, ⟨rfl, rfl⟩ | ⟨_, fails, _⟩⟩
      · exact ⟨_, _, .appended logged draws.next_eq, durable.appended draws _⟩
      · exact fails.elim
  | appendCut cut =>
      rcases Stream.append_cut cut with rfl | ⟨fresh, allocator, draws, rfl⟩
      · exact ⟨_, _, logged.cutLost, durable.stopped⟩
      · exact ⟨_, _, .cutWritten logged, (durable.appended draws _).stopped⟩
  | read executes =>
      have consistent := (durable.process _ rfl).2.2
      rcases (Stream.executes_read consistent.stored).mp executes with ⟨rfl, _⟩
      exact ⟨_, _, logged.read, durable⟩
  | crash => exact ⟨_, _, logged.crash, durable.stopped⟩
  | load executes =>
      subst basin
      rcases (Stream.executes_load durable.loadable).mp executes with ⟨rfl, same, created⟩
      exact ⟨_, _, logged.load, durable.loaded same created⟩

theorem run {basinId : U128} {events : List StreamEvent} {last : StreamLife}
    (run : Run (StreamStep NeverFails basinId streamName) life events last)
    (basin : metadata.basinId = basinId) (durable : Durable streamName metadata life [] block) :
    ∃ log block, Logged events log ∧ Durable streamName metadata last log block := by
  induction run with
  | nil => exact ⟨[], block, .nil, durable⟩
  | snoc _ taken induction =>
      rcases induction with ⟨log, block, logged, durable⟩
      exact durable.step taken basin logged

/-- A load continues past the stored block. -/
theorem load_next {basinId : U128} {after : Stores}
    (taken : StreamStep NeverFails basinId streamName ⟨life.stores, none⟩ .load
      ⟨after, some stream⟩)
    (basin : metadata.basinId = basinId) (durable : Durable streamName metadata life log block) :
    after = life.stores ∧ stream.metadata = metadata ∧
      stream.nextSeqNum.toNat = block.start.toNat + 4096 := by
  cases taken with
  | load executes =>
      subst basin
      rcases (Stream.executes_load durable.loadable).mp executes with ⟨rfl, same, created⟩
      have size := congrArg UInt64.toNat durable.blockSize
      exact ⟨rfl, same, (SequenceAllocator.new_eq_some created).2.trans (by rw [size]; rfl)⟩

end Durable

/-! ## Reads and loads change nothing -/

/-- The events that call no append. -/
def StreamEvent.Idle : StreamEvent → Prop
  | .append _ _ | .appendCut _ => False
  | .read _ _ | .crash | .load => True

theorem Durable.idle {streamName : String} {metadata : StreamMetadata} {stores : Stores}
    {stream : Stream} {log : List Record} {block : SeqBlock} {basinId : U128}
    {events : List StreamEvent} {last : StreamLife}
    (run : Run (StreamStep NeverFails basinId streamName) ⟨stores, some stream⟩ events last)
    (basin : metadata.basinId = basinId) (idle : ∀ event ∈ events, event.Idle)
    (durable : Durable streamName metadata ⟨stores, some stream⟩ log block)
    (whole : stream.nextSeqNum.toNat = block.start.toNat + 4096) :
    Durable streamName metadata last log block ∧
      ∀ other, last.process = some other → other.nextSeqNum = stream.nextSeqNum := by
  induction run with
  | nil => exact ⟨durable, fun other equal => by rw [Option.some.inj equal]⟩
  | snoc _ taken induction =>
      rcases induction fun event member => idle event (List.mem_append_left _ member) with
        ⟨before, unmoved⟩
      have quiet := idle _ (List.mem_append_right _ List.mem_cons_self)
      cases taken with
      | append => exact quiet.elim
      | appendCut => exact quiet.elim
      | read executes =>
          have consistent := (before.process _ rfl).2.2
          rcases (Stream.executes_read consistent.stored).mp executes with ⟨rfl, _⟩
          exact ⟨before, unmoved⟩
      | crash => exact ⟨before.stopped, fun _ running => nomatch running⟩
      | load executes =>
          rcases before.load_next (.load executes) basin with ⟨rfl, same, next⟩
          subst basin
          rcases (Stream.executes_load before.loadable).mp executes with ⟨_, _, created⟩
          refine ⟨before.loaded same created, fun other equal => ?_⟩
          rcases Option.some.inj equal with rfl
          exact UInt64.toNat_inj.mp (next.trans whole.symm)

/-! ## The append-only log -/

/-- Across process lifetimes the stream is an append-only log. -/
structure AppendOnly (basinId : U128) (streamName : String) (metadata : StreamMetadata)
    (events : List StreamEvent) (life : StreamLife) (log : List Record) : Prop where
  logged : Logged events log
  written : life.stores.written metadata = log.map Record.entry
  ascending : NumberedLog.Ascending Record.number log
  /-- A read returns the entry of the log, and nothing for other numbers. -/
  reads : ∀ stream, life.process = some stream → ∀ n result after,
    (stream.read n).Executes (StorageOp.Answers NeverFails) life.stores result after ↔
      after = life.stores ∧ result = .ok (NumberedLog.entry Record.number log n.toNat)
  /-- An acknowledged append stays in the log. -/
  acknowledged : ∀ data result, .append data result ∈ events →
    ∃ ack, result = .ok ack ∧ ack.record.data = data ∧
      NumberedLog.entry Record.number log ack.record.number = some ack.record ∧
      ack.nextSeqNum.toNat = ack.record.number + 1
  /-- A load goes past all numbers written, by at most a block, and a load after
  it goes no further as long as nothing is appended. -/
  loaded : ∀ after stream,
    StreamStep NeverFails basinId streamName ⟨life.stores, none⟩ .load ⟨after, some stream⟩ →
      (∀ record ∈ log, record.number < stream.nextSeqNum.toNat) ∧
      stream.nextSeqNum.toNat ≤ NumberedLog.tail Record.number log + 4096 ∧
      (∀ stopped, life.process = some stopped →
        stopped.nextSeqNum.toNat ≤ stream.nextSeqNum.toNat ∧
        stream.nextSeqNum.toNat ≤ stopped.nextSeqNum.toNat + 4096) ∧
      ∀ idle last, (∀ event ∈ idle, event.Idle) →
        Run (StreamStep NeverFails basinId streamName) ⟨after, some stream⟩ idle last →
          ∀ reloaded, last.process = some reloaded → reloaded.nextSeqNum = stream.nextSeqNum
  /-- Below the top of the number range no append and no load panics. -/
  appends : ∀ stream, life.process = some stream →
    stream.nextSeqNum.toNat < 2 ^ 64 - 2 * 4096 → ∀ data,
      ∃ ack next, StreamStep NeverFails basinId streamName life (.append data (.ok ack)) next
  loads : (∀ record ∈ log, record.number < 2 ^ 64 - 2 * 4096) →
    ∃ next, StreamStep NeverFails basinId streamName ⟨life.stores, none⟩ .load next

theorem Durable.appendOnly {basinId : U128} {streamName : String} {metadata : StreamMetadata}
    {events : List StreamEvent} {life : StreamLife} {log : List Record} {block : SeqBlock}
    (basin : metadata.basinId = basinId) (logged : Logged events log)
    (durable : Durable streamName metadata life log block) :
    AppendOnly basinId streamName metadata events life log where
  logged := logged
  written := durable.written
  ascending := durable.ascending
  reads stream running n result after := by
    have consistent := (durable.process stream running).2.2
    rw [Stream.executes_read consistent.stored]
    simp [NeverFails]
  acknowledged data result member := by
    rcases logged.acknowledged member with ⟨ack, same, kept, payload, next⟩
    exact ⟨ack, same, payload, durable.ascending.entry_of_mem kept, next⟩
  loaded after stream taken := by
    rcases durable.load_next taken basin with ⟨rfl, same, next⟩
    have size : block.blockSize.toNat = 4096 := congrArg UInt64.toNat durable.blockSize
    refine ⟨fun record member => ?_, ?_, fun stopped running => ?_, fun idle last quiet run => ?_⟩
    · have := durable.covers record member
      omega
    · have := durable.start_le
      omega
    · rcases durable.process stopped running with ⟨_, rfl, consistent⟩
      have := consistent.valid.start_le
      have := consistent.valid.next_le
      simp only [Stream.nextSeqNum] at *
      omega
    · subst basin
      cases taken with
      | load executes =>
          rcases (Stream.executes_load durable.loadable).mp executes with ⟨_, _, created⟩
          exact ((durable.stopped.loaded same created).idle run rfl quiet next).2
  appends stream running bound data := by
    rcases life with ⟨stores, process⟩
    obtain rfl : process = some stream := running
    rcases durable.process stream rfl with ⟨_, rfl, consistent⟩
    have size := congrArg UInt64.toNat durable.blockSize
    have := consistent.valid.start_le
    rcases Stream.exists_draws consistent.valid (by
      simp only [Stream.nextSeqNum, DEFAULT_BLOCK_SIZE, UInt64.reduceToNat] at *
      omega) with
      ⟨next, allocator, draws⟩
    exact ⟨_, _, .appended draws data⟩
  loads bound := by
    subst basin
    have size : block.blockSize.toNat = 4096 := congrArg UInt64.toNat durable.blockSize
    have := durable.start_le
    have := NumberedLog.tail_le bound
    have base : block.nextBase = some (block.start + block.blockSize) :=
      addU64_of_lt (by omega)
    have created : SequenceAllocator.new block =
        some ⟨block.start + block.blockSize, block⟩ := by
      simp [SequenceAllocator.new, base]
    exact ⟨_, .loaded durable.loadable created⟩

/-- From its creation on, whatever crashes and loads come between the appends,
a stream is an append-only log. -/
theorem Stream.append_only {basinId : U128} {streamName : String} {before stores : Stores}
    {stream : Stream} {events : List StreamEvent} {life : StreamLife}
    (created : (Stream.new basinId streamName).run.Executes (StorageOp.Answers NeverFails) before
      (.ok stream) stores)
    (unused : before.Unused stream.metadata)
    (run : Run (StreamStep NeverFails basinId streamName) ⟨stores, some stream⟩ events life) :
    ∃ log, AppendOnly basinId streamName stream.metadata events life log := by
  rcases Stream.executes_new.mp created with ⟨streamId, _, rfl, rfl⟩
  rcases Durable.run run rfl
    (Durable.created (Loadable.created _ _ _) (unused.created streamName)) with
    ⟨log, block, logged, durable⟩
  exact ⟨log, durable.appendOnly rfl logged⟩

/-- Two empty stores. -/
def Stores.opened : Stores := ⟨.empty, .empty, [], []⟩

theorem Stores.opened_unused (metadata : StreamMetadata) : Stores.opened.Unused metadata :=
  ⟨rfl, fun _ => rfl⟩

theorem Stream.new_opened (MayFail : StorageOp → Prop) (streamName : String)
    (metadata : StreamMetadata) :
    (Stream.new metadata.basinId streamName).run.Executes (StorageOp.Answers MayFail)
      Stores.opened (.ok ⟨SequenceAllocator.default, metadata⟩)
      (Stores.opened.created streamName metadata) :=
  Stream.executes_new.mpr ⟨metadata.streamId, List.not_mem_nil, rfl, rfl⟩

theorem Stream.append_only_after_load :
    ∃ life log, AppendOnly 7 "events" ⟨7, 1⟩
      [.append [97] (.ok ⟨⟨0, [97]⟩, 1⟩), .crash, .load, .append [98] (.ok ⟨⟨4096, [98]⟩, 4097⟩)]
      life log := by
  have first : Stream.Draws ⟨SequenceAllocator.default, ⟨7, 1⟩⟩ none ⟨1, ⟨0, 4096⟩⟩ := by decide
  have reloaded : SequenceAllocator.resume (some ⟨0, 4096⟩) = some ⟨4096, ⟨0, 4096⟩⟩ := by decide
  have second : Stream.Draws ⟨⟨4096, ⟨0, 4096⟩⟩, ⟨7, 1⟩⟩ (some ⟨4096, 4096⟩)
      ⟨4097, ⟨4096, 4096⟩⟩ := by decide
  have loadable := (Loadable.created Stores.opened "events" ⟨7, 1⟩).written none ⟨0, [97]⟩
  have run : Run (StreamStep NeverFails 7 "events")
      ⟨Stores.opened.created "events" ⟨7, 1⟩, some ⟨SequenceAllocator.default, ⟨7, 1⟩⟩⟩ _ _ :=
    .snoc (.snoc (.snoc (.snoc .nil (.appended first [97])) (.crash _))
      (.loaded loadable reloaded))
      (.appended second [98])
  exact ⟨_, Stream.append_only (Stream.new_opened NeverFails "events" ⟨7, 1⟩)
    (Stores.opened_unused _) run⟩

end Slatestreams
