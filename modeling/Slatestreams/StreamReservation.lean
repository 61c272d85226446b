import Slatestreams.StreamLifecycle

/-! # Failed writes and the stored block

An append moves the allocator before it writes. When the write that carries a
new block fails, the process goes on with a block that is not stored. -/

namespace Slatestreams

open Foundation

def StreamEvent.acknowledged : StreamEvent → Option Record
  | .append _ (.ok ack) => some ack.record
  | _ => none

/-- The records of the appends that returned, in order. -/
def acknowledgedRecords (events : List StreamEvent) : List Record :=
  events.filterMap StreamEvent.acknowledged

theorem acknowledgedRecords_snoc (events : List StreamEvent) (event : StreamEvent) :
    acknowledgedRecords (events ++ [event]) =
      acknowledgedRecords events ++ event.acknowledged.toList := by
  rw [acknowledgedRecords, List.filterMap_append]
  cases acknowledged : event.acknowledged <;> simp [acknowledgedRecords, acknowledged]

/-- The next append either opens a block, which it stores, or draws from the
stored one. -/
def Secured (stores : Stores) (stream : Stream) : Prop :=
  Reserved stores.recordStorage stream ∨
    stream.sequenceNumberAllocator.currentBlock.start.toNat +
      stream.sequenceNumberAllocator.currentBlock.blockSize.toNat ≤ stream.nextSeqNum.toNat + 1

/-- An append that is acknowledged was secured. -/
def SecuredAppends (life : StreamLife) : StreamEvent → Prop
  | .append _ (.ok _) => ∀ stream, life.process = some stream → Secured life.stores stream
  | _ => True

theorem secured_of_reserved {stores : Stores} {stream : Stream} {event : StreamEvent}
    (reserved : Reserved stores.recordStorage stream) :
    SecuredAppends ⟨stores, some stream⟩ event := by
  cases event with
  | append data result =>
      cases result with
      | ok ack =>
          intro other running
          rcases Option.some.inj running with rfl
          exact .inl reserved
      | error error => trivial
  | appendCut | read | crash | load => trivial

/-- The stored block covers every acknowledged record. -/
def Reserves (stores : Stores) (metadata : StreamMetadata) (records : List Record) : Prop :=
  ∃ block : SeqBlock, stores.recordStorage.get metadata.blockKey = some block.serialise ∧
    ∀ record ∈ records, record.number < block.start.toNat + block.blockSize.toNat

/-- The stored block covers the acknowledged records, which are all still
stored, and a running process allocates from it or from a later one. -/
structure Retained (streamName : String) (metadata : StreamMetadata) (life : StreamLife)
    (records : List Record) (block : SeqBlock) : Prop where
  loadable : Loadable life.stores streamName metadata (some block)
  covers : ∀ record ∈ records, record.number < block.start.toNat + block.blockSize.toNat
  blockSize : block.blockSize = DEFAULT_BLOCK_SIZE
  ascending : NumberedLog.Ascending Record.number records
  kept : ∀ record ∈ records,
    life.stores.recordStorage.get (metadata.recordKey record.seqNum) = some record.serialise
  process : ∀ stream, life.process = some stream →
    stream.metadata = metadata ∧ stream.sequenceNumberAllocator.Valid ∧
      stream.sequenceNumberAllocator.currentBlock.blockSize = DEFAULT_BLOCK_SIZE ∧
      (∀ record ∈ records, record.number < stream.nextSeqNum.toNat) ∧
      (stream.sequenceNumberAllocator.currentBlock = block ∨
        block.start.toNat + 4096 ≤ stream.sequenceNumberAllocator.currentBlock.start.toNat)

namespace Retained

variable {streamName : String} {metadata : StreamMetadata} {stores : Stores}
  {life : StreamLife} {stream : Stream} {records : List Record} {block : SeqBlock}

theorem created
    (loadable : Loadable stores streamName metadata
      (some SequenceAllocator.default.currentBlock)) :
    Retained streamName metadata ⟨stores, some ⟨SequenceAllocator.default, metadata⟩⟩ []
      SequenceAllocator.default.currentBlock where
  loadable := loadable
  covers _ member := absurd member List.not_mem_nil
  blockSize := rfl
  ascending := NumberedLog.ascending_nil
  kept _ member := absurd member List.not_mem_nil
  process other equal := by
    rcases Option.some.inj equal with rfl
    exact ⟨rfl, SequenceAllocator.valid_default, rfl,
      fun _ member => absurd member List.not_mem_nil, .inl rfl⟩

theorem stopped (retained : Retained streamName metadata life records block) :
    Retained streamName metadata ⟨life.stores, none⟩ records block :=
  { retained with process := fun _ running => nomatch running }

theorem reserves (retained : Retained streamName metadata life records block) :
    Reserves life.stores metadata records :=
  ⟨block, retained.loadable.stored, retained.covers⟩

theorem reserved_iff (retained : Retained streamName metadata ⟨stores, some stream⟩ records block) :
    Reserved stores.recordStorage stream ↔
      stream.sequenceNumberAllocator.currentBlock = block := by
  rcases retained.process stream rfl with ⟨rfl, _⟩
  unfold Reserved
  rw [show stores.recordStorage.get _ = _ from retained.loadable.stored]
  exact ⟨fun equal => (SeqBlock.serialise_injective (Option.some.inj equal)).symm,
    fun equal => equal ▸ rfl⟩

/-- A failed append leaves the stored block behind when it opens a new one. -/
theorem failed {next : Option SeqBlock} {allocator : SequenceAllocator}
    (retained : Retained streamName metadata ⟨stores, some stream⟩ records block)
    (draws : stream.Draws next allocator) :
    Retained streamName metadata ⟨stores, some (stream.moved allocator)⟩ records block :=
  { retained with
    process := fun other equal => by
      rcases Option.some.inj equal with rfl
      rcases retained.process stream rfl with ⟨same, valid, size, below, current⟩
      have next_eq := draws.next_eq
      refine ⟨same, draws.allocated.valid valid valid.blockSize_pos,
        draws.allocated.blockSize_eq.trans size, fun record member => ?_, ?_⟩
      · have := below record member
        simp only [Stream.nextSeqNum, Stream.moved_allocator] at *
        omega
      · cases draws.allocated with
        | within => exact current
        | crossing _ _ base =>
            have length := congrArg UInt64.toNat size
            simp only [DEFAULT_BLOCK_SIZE, UInt64.reduceToNat] at length
            refine .inr ?_
            simp only [Stream.moved_allocator]
            rcases current with rfl | later <;> omega }

/-- A write keeps the acknowledged records and stores the block it carries. -/
theorem written {next : Option SeqBlock} {allocator : SequenceAllocator}
    (retained : Retained streamName metadata ⟨stores, some stream⟩ records block)
    (draws : stream.Draws next allocator) (data : Bytes) :
    Retained streamName metadata
      ⟨stores.write (Stream.appendBatch stream.metadata next ⟨stream.nextSeqNum, data⟩)
        .recordStorage, some (stream.moved allocator)⟩
      records (next.getD block) := by
  rcases retained.process stream rfl with ⟨rfl, valid, size, below, current⟩
  have moved := retained.failed draws
  rcases moved.process _ rfl with ⟨_, movedValid, movedSize, movedBelow, movedCurrent⟩
  have kept : ∀ record ∈ records,
      (stores.recordStorage.apply
        (Stream.appendBatch stream.metadata next ⟨stream.nextSeqNum, data⟩)).get
          (stream.metadata.recordKey record.seqNum) = some record.serialise := by
    intro record member
    rw [get_appendBatch_record, if_neg fun equal => ?_]
    · exact retained.kept record member
    · have number : stream.nextSeqNum = record.seqNum := equal.2
      have := below record member
      rw [number, Record.number] at this
      omega
  have loadable := retained.loadable.written next ⟨stream.nextSeqNum, data⟩
  cases draws.allocated with
  | within =>
      exact
        { moved with
          loadable := loadable
          kept := kept }
  | crossing advanced reached base =>
      refine
        { loadable := loadable
          covers := fun record member => ?_
          blockSize := size
          ascending := retained.ascending
          kept := kept
          process := fun other equal => ?_ }
      · have := movedBelow record member
        have := movedValid.next_le
        simp only [Stream.nextSeqNum, Stream.moved_allocator, Option.getD_some] at *
        omega
      · rcases Option.some.inj equal with rfl
        exact ⟨rfl, movedValid, movedSize, movedBelow, .inl rfl⟩

/-- A secured append leaves the stored block above the number it was given. -/
theorem acknowledged {next : Option SeqBlock} {allocator : SequenceAllocator}
    (retained : Retained streamName metadata ⟨stores, some stream⟩ records block)
    (draws : stream.Draws next allocator) (data : Bytes) (secured : Secured stores stream) :
    Retained streamName metadata
      ⟨stores.write (Stream.appendBatch stream.metadata next ⟨stream.nextSeqNum, data⟩)
        .recordStorage, some (stream.moved allocator)⟩
      (records ++ [⟨stream.nextSeqNum, data⟩]) (next.getD block) := by
  have written := retained.written draws data
  rcases retained.process stream rfl with ⟨same, valid, size, below, _⟩
  rcases written.process _ rfl with ⟨_, movedValid, movedSize, movedBelow, movedCurrent⟩
  have next_eq := draws.next_eq
  have current : allocator.currentBlock = next.getD block := by
    cases draws.allocated with
    | crossing => rfl
    | within advanced inside =>
        rcases secured with reserved | reached
        · exact retained.reserved_iff.mp reserved
        · simp only [Stream.nextSeqNum] at *
          omega
  exact
    { written with
      covers := fun record member => by
        rcases List.mem_append.mp member with old | new
        · exact written.covers record old
        · have := movedValid.next_le
          rw [List.mem_singleton.mp new, ← current]
          simp only [Record.number, Stream.nextSeqNum, Stream.moved_allocator] at *
          omega
      ascending := retained.ascending.snoc below
      kept := fun record member => by
        rcases List.mem_append.mp member with old | new
        · exact written.kept record old
        · rw [List.mem_singleton.mp new]
          exact (get_appendBatch_record _ _ _ _ _ _).trans (if_pos ⟨same, rfl⟩)
      process := fun other equal => by
        rcases Option.some.inj equal with rfl
        refine ⟨same, movedValid, movedSize, fun record member => ?_, movedCurrent⟩
        rcases List.mem_append.mp member with old | new
        · exact movedBelow record old
        · rw [List.mem_singleton.mp new]
          simp only [Record.number, Stream.nextSeqNum, Stream.moved_allocator] at *
          omega }

theorem loaded {basinId : U128} {after : Stores}
    (retained : Retained streamName metadata ⟨stores, none⟩ records block)
    (basin : metadata.basinId = basinId) {MayFail : StorageOp → Prop}
    (executes : (Stream.load basinId streamName).run.Executes (StorageOp.Answers MayFail) stores
      (.ok stream) after) :
    Retained streamName metadata ⟨after, some stream⟩ records block := by
  subst basin
  rcases (Stream.executes_load retained.loadable).mp executes with ⟨rfl, same, created⟩
  have positive : 1 ≤ block.blockSize.toNat := by
    rw [retained.blockSize]
    decide
  rcases SequenceAllocator.new_eq_some created with ⟨current, next⟩
  exact
    { retained with
      process := fun other equal => by
        rcases Option.some.inj equal with rfl
        refine ⟨same, SequenceAllocator.valid_of_new positive created,
          (congrArg SeqBlock.blockSize current).trans retained.blockSize, fun record member => ?_,
          .inl current⟩
        have := retained.covers record member
        simp only [Stream.nextSeqNum]
        omega }

theorem step {basinId : U128} {event : StreamEvent} {next : StreamLife}
    {events : List StreamEvent}
    (taken : StreamStep WritesMayFail basinId streamName life event next)
    (basin : metadata.basinId = basinId) (secured : SecuredAppends life event)
    (retained : Retained streamName metadata life (acknowledgedRecords events) block) :
    ∃ block, Retained streamName metadata next
      (acknowledgedRecords (events ++ [event])) block := by
  rw [acknowledgedRecords_snoc]
  cases taken with
  | append executes =>
      rcases Stream.append_executes executes with
        ⟨opened, allocator, draws, rfl, ⟨rfl, rfl⟩ | ⟨rfl, _, error, rfl⟩⟩
      · exact ⟨_, retained.acknowledged draws _ (secured _ rfl)⟩
      · exact ⟨block, by simpa [StreamEvent.acknowledged] using retained.failed draws⟩
  | appendCut cut =>
      rcases Stream.append_cut cut with rfl | ⟨opened, allocator, draws, rfl⟩
      · exact ⟨block, by simpa [StreamEvent.acknowledged] using retained.stopped⟩
      · exact ⟨_, by simpa [StreamEvent.acknowledged] using (retained.written draws _).stopped⟩
  | read executes =>
      rcases Stream.read_keeps executes with rfl
      exact ⟨block, by simpa [StreamEvent.acknowledged] using retained⟩
  | crash => exact ⟨block, by simpa [StreamEvent.acknowledged] using retained.stopped⟩
  | load executes =>
      have loaded := retained.loaded basin executes
      exact ⟨block, by simpa [StreamEvent.acknowledged] using loaded⟩

theorem run {basinId : U128} {events : List StreamEvent} {last : StreamLife}
    (run : Run (fun life event next =>
      StreamStep WritesMayFail basinId streamName life event next ∧ SecuredAppends life event)
      life events last)
    (basin : metadata.basinId = basinId)
    (retained : Retained streamName metadata life [] block) :
    ∃ block, Retained streamName metadata last (acknowledgedRecords events) block := by
  induction run with
  | nil => exact ⟨block, retained⟩
  | snoc _ taken induction =>
      rcases induction with ⟨block, retained⟩
      exact retained.step taken.1 basin taken.2

/-- An unsecured append is given a number that the stored block does not cover. -/
theorem unsecured {next : Option SeqBlock} {allocator : SequenceAllocator}
    (retained : Retained streamName metadata ⟨stores, some stream⟩ records block)
    (draws : stream.Draws next allocator) (data : Bytes) (unsecured : ¬Secured stores stream) :
    ¬Reserves
      (stores.write (Stream.appendBatch stream.metadata next ⟨stream.nextSeqNum, data⟩)
        .recordStorage) metadata (records ++ [⟨stream.nextSeqNum, data⟩]) := by
  rintro ⟨stored, found, covers⟩
  have written := retained.written draws data
  rcases retained.process stream rfl with ⟨same, valid, size, below, current⟩
  have later : block.start.toNat + 4096 ≤
      stream.sequenceNumberAllocator.currentBlock.start.toNat :=
    current.resolve_left fun equal => unsecured (.inl (retained.reserved_iff.mpr equal))
  have given := covers ⟨stream.nextSeqNum, data⟩ (by simp)
  have := valid.start_le
  have next_eq := draws.next_eq
  obtain rfl : stored = next.getD block := SeqBlock.serialise_injective
    (Option.some.inj (found.symm.trans written.loadable.stored))
  have length : block.blockSize.toNat = 4096 := congrArg UInt64.toNat retained.blockSize
  cases draws.allocated with
  | within =>
      simp only [Option.getD_none, Record.number, Stream.nextSeqNum] at *
      omega
  | crossing _ reached _ =>
      refine unsecured (.inr ?_)
      simp only [Stream.nextSeqNum] at *
      omega

end Retained

/-- As long as every acknowledged append either opens a block or draws from the
stored one, the stored block covers all acknowledged records, which keep their
numbers and stay stored. One more acknowledged append keeps them covered exactly
when it does so too. -/
theorem Stream.reserves_acknowledged {basinId : U128} {streamName : String}
    {before stores : Stores} {stream : Stream} {events : List StreamEvent} {life : StreamLife}
    (created : (Stream.new basinId streamName).run.Executes (StorageOp.Answers WritesMayFail)
      before (.ok stream) stores)
    (run : Run (fun life event next =>
      StreamStep WritesMayFail basinId streamName life event next ∧ SecuredAppends life event)
      ⟨stores, some stream⟩ events life) :
    Reserves life.stores stream.metadata (acknowledgedRecords events) ∧
    NumberedLog.Ascending Record.number (acknowledgedRecords events) ∧
    (∀ record ∈ acknowledgedRecords events,
      life.stores.recordStorage.get (stream.metadata.recordKey record.seqNum) =
        some record.serialise) ∧
    ∀ data ack next,
      StreamStep WritesMayFail basinId streamName life (.append data (.ok ack)) next →
        (Reserves next.stores stream.metadata
            (acknowledgedRecords (events ++ [.append data (.ok ack)])) ↔
          SecuredAppends life (.append data (.ok ack))) := by
  rcases Stream.executes_new.mp created with ⟨streamId, _, rfl, rfl⟩
  rcases Retained.run run rfl (Retained.created (Loadable.created _ _ _)) with ⟨block, retained⟩
  refine ⟨retained.reserves, retained.ascending, retained.kept, fun data ack next taken => ?_⟩
  constructor
  · intro reserves
    cases taken with
    | append executes =>
        rcases Stream.append_executes executes with
          ⟨opened, allocator, draws, rfl, ⟨rfl, same⟩ | ⟨rfl, _, error, failed⟩⟩
        · cases same
          intro appending running
          rcases Option.some.inj running with rfl
          rw [acknowledgedRecords_snoc] at reserves
          exact Classical.byContradiction fun open_ =>
            retained.unsecured draws data open_ reserves
        · cases failed
  · intro secured
    rcases retained.step taken rfl secured with ⟨_, retained⟩
    exact retained.reserves

/-- The write that opens the second block fails and the process restarts. The
next append opens the block anew, and one more restart goes on past it. -/
theorem Stream.reserves_acknowledged_restarted :
    let restartedEvents : List StreamEvent :=
      [.append [96] (.ok ⟨⟨0, [96]⟩, 1⟩), .crash, .load,
        .append [97] (.error (.storageError (.storage "unavailable"))), .crash, .load,
        .append [98] (.ok ⟨⟨4096, [98]⟩, 4097⟩), .append [99] (.ok ⟨⟨4097, [99]⟩, 4098⟩), .crash,
        .load, .append [100] (.ok ⟨⟨8192, [100]⟩, 8193⟩)]
    let restartedRecords : List Record := [⟨0, [96]⟩, ⟨4096, [98]⟩, ⟨4097, [99]⟩, ⟨8192, [100]⟩]
    ∃ stores last,
      (Stream.new 7 "events").run.Executes (StorageOp.Answers WritesMayFail) Stores.opened
        (.ok ⟨SequenceAllocator.default, ⟨7, 1⟩⟩) stores ∧
      Run (fun life event next =>
        StreamStep WritesMayFail 7 "events" life event next ∧ SecuredAppends life event)
        ⟨stores, some ⟨SequenceAllocator.default, ⟨7, 1⟩⟩⟩ restartedEvents last ∧
      acknowledgedRecords restartedEvents = restartedRecords ∧
      Reserves last.stores ⟨7, 1⟩ restartedRecords ∧
      NumberedLog.Ascending Record.number restartedRecords ∧
      ∀ record ∈ restartedRecords,
        last.stores.recordStorage.get (StreamMetadata.recordKey ⟨7, 1⟩ record.seqNum) =
          some record.serialise := by
  intro restartedEvents restartedRecords
  have created := Loadable.created Stores.opened "events" ⟨7, 1⟩
  have first : Stream.Draws ⟨SequenceAllocator.default, ⟨7, 1⟩⟩ none ⟨1, ⟨0, 4096⟩⟩ := by decide
  have opens : Stream.Draws ⟨⟨4096, ⟨0, 4096⟩⟩, ⟨7, 1⟩⟩ (some ⟨4096, 4096⟩)
      ⟨4097, ⟨4096, 4096⟩⟩ := by decide
  have draws : Stream.Draws ⟨⟨4097, ⟨4096, 4096⟩⟩, ⟨7, 1⟩⟩ none ⟨4098, ⟨4096, 4096⟩⟩ := by decide
  have opensThird : Stream.Draws ⟨⟨8192, ⟨4096, 4096⟩⟩, ⟨7, 1⟩⟩ (some ⟨8192, 4096⟩)
      ⟨8193, ⟨8192, 4096⟩⟩ := by decide
  have reloaded : SequenceAllocator.resume (some ⟨0, 4096⟩) = some ⟨4096, ⟨0, 4096⟩⟩ := by decide
  have reloadedSecond :
      SequenceAllocator.resume (some ⟨4096, 4096⟩) = some ⟨8192, ⟨4096, 4096⟩⟩ := by decide
  -- The stored block after each write.
  have afterFirst := created.written none ⟨0, [96]⟩
  have afterSecond := afterFirst.written (some ⟨4096, 4096⟩) ⟨4096, [98]⟩
  have afterThird := afterSecond.written none ⟨4097, [99]⟩
  have lost : Run (fun life event next =>
      StreamStep WritesMayFail 7 "events" life event next ∧ SecuredAppends life event)
      ⟨Stores.opened.created "events" ⟨7, 1⟩, some ⟨SequenceAllocator.default, ⟨7, 1⟩⟩⟩ _ _ :=
    .snoc (.snoc (.snoc (.single ⟨.appended first [96], secured_of_reserved created.stored⟩)
      ⟨.crash _, trivial⟩) ⟨.loaded afterFirst reloaded, trivial⟩)
      ⟨.failed opens [97] (.storage "unavailable") trivial, trivial⟩
  have recovered := Run.snoc (.snoc (.snoc (.snoc lost
      ⟨.crash _, trivial⟩) ⟨.loaded afterFirst reloaded, trivial⟩)
      ⟨.appended opens [98], secured_of_reserved afterFirst.stored⟩)
      ⟨.appended draws [99], secured_of_reserved afterSecond.stored⟩
  have run := Run.snoc (.snoc (.snoc recovered
      ⟨.crash _, trivial⟩) ⟨.loaded afterThird reloadedSecond, trivial⟩)
      ⟨.appended opensThird [100], secured_of_reserved afterThird.stored⟩
  have created := Stream.new_opened WritesMayFail "events" ⟨7, 1⟩
  rcases Stream.reserves_acknowledged created run with ⟨reserves, ascending, kept, _⟩
  exact ⟨_, _, created, run, rfl, reserves, ascending, kept⟩

/-- The write that opens the second block fails. The next append is given 4097
and stores no block, so after a restart 4097 is given again. -/
theorem Stream.acknowledged_record_overwritten :
    let lostEvents : List StreamEvent :=
      [.crash, .load, .append [97] (.error (.storageError (.storage "unavailable"))),
        .append [98] (.ok ⟨⟨4097, [98]⟩, 4098⟩)]
    ∃ stores lost last,
      (Stream.new 7 "events").run.Executes (StorageOp.Answers WritesMayFail) Stores.opened
        (.ok ⟨SequenceAllocator.default, ⟨7, 1⟩⟩) stores ∧
      Run (StreamStep WritesMayFail 7 "events")
        ⟨stores, some ⟨SequenceAllocator.default, ⟨7, 1⟩⟩⟩ lostEvents lost ∧
      ¬Reserves lost.stores ⟨7, 1⟩ (acknowledgedRecords lostEvents) ∧
      Run (StreamStep WritesMayFail 7 "events") lost
        [.crash, .load, .append [99] (.ok ⟨⟨4096, [99]⟩, 4097⟩),
          .append [100] (.ok ⟨⟨4097, [100]⟩, 4098⟩)] last ∧
      last.stores.recordStorage.get (StreamMetadata.recordKey ⟨7, 1⟩ 4097) =
        some (Record.serialise ⟨4097, [100]⟩) := by
  intro lostEvents
  have created := Loadable.created Stores.opened "events" ⟨7, 1⟩
  have afterLost := created.written none ⟨4097, [98]⟩
  have reloaded : SequenceAllocator.resume (some ⟨0, 4096⟩) = some ⟨4096, ⟨0, 4096⟩⟩ := by decide
  have opens : Stream.Draws ⟨⟨4096, ⟨0, 4096⟩⟩, ⟨7, 1⟩⟩ (some ⟨4096, 4096⟩)
      ⟨4097, ⟨4096, 4096⟩⟩ := by decide
  have draws : Stream.Draws ⟨⟨4097, ⟨4096, 4096⟩⟩, ⟨7, 1⟩⟩ none ⟨4098, ⟨4096, 4096⟩⟩ := by decide
  refine ⟨_, _, _, Stream.new_opened WritesMayFail "events" ⟨7, 1⟩,
    .snoc (.snoc (.snoc (.snoc .nil (.crash _)) (.loaded created reloaded))
      (.failed opens [97] (.storage "unavailable") trivial)) (.appended draws [98]), ?_,
    .snoc (.snoc (.snoc (.snoc .nil (.crash _)) (.loaded afterLost reloaded))
      (.appended opens [99])) (.appended draws [100]), ?_⟩
  · rintro ⟨block, found, covers⟩
    obtain rfl : block = ⟨0, 4096⟩ := SeqBlock.serialise_injective
      (Option.some.inj (found.symm.trans afterLost.stored))
    exact absurd (covers ⟨4097, [98]⟩ List.mem_cons_self) (by decide)
  · exact (get_appendBatch_record _ _ _ _ _ _).trans (if_pos ⟨rfl, rfl⟩)

end Slatestreams
