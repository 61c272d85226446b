import Slatestreams.NamedStream

/-! # Creations that are cut short

A creation stores the stream's name, then its block. In between, a load finds a
stream without a block and numbers it from zero; nothing stores the block until
the first one is used up, and a restart before that numbers from zero again. -/

namespace Slatestreams

open Foundation

/-! ## Acknowledged records -/

/-- The record that an append to the stream has acknowledged: the number it returns is
that of the next record. -/
def Operation.acknowledged (name : String × String) : Operation × Outcome → Option Record
  | (.append basinName streamName data, .appended (some (.ok nextSeqNum))) =>
      if (basinName, streamName) = name then some ⟨nextSeqNum - 1, data⟩ else none
  | _ => none

theorem Operation.acknowledged_plain (name : String × String) (operation : Operation)
    (outcome : Outcome) :
    acknowledged name (operation, outcome.plain) = acknowledged name (operation, outcome) := by
  rcases outcome with (_ | _ | _) | result | item | result | result | _ <;> cases operation <;> rfl

theorem Operation.acknowledged_of_apart {name : String × String} {operation : Operation}
    (apart : operation.concerns name = false) (outcome : Outcome) :
    acknowledged name (operation, outcome) = none := by
  cases operation with
  | append basinName streamName data =>
      have different : (basinName, streamName) ≠ name := of_decide_eq_false apart
      rcases outcome with (_ | _ | _) | result | item | result | result | _ <;> try rfl
      exact if_neg different
  | _ => rfl

theorem Operation.acknowledged_of_read {name : String × String} {operation : Operation}
    (read : operation.isRead = true) (outcome : Outcome) :
    acknowledged name (operation, outcome) = none := by
  cases operation <;> first | rfl | cases read

/-! ## One stream -/

/-- An allocator goes on after the records, in the stored block if there is one. -/
structure StoredStream.Continues (stored : StoredStream) (records : List Record)
    (allocator : SequenceAllocator) : Prop where
  valid : allocator.Valid
  below : ∀ record ∈ records, record.number < allocator.nextSequenceNumber.toNat
  block : ∀ block, stored.block = some block → block = allocator.currentBlock

/-- A block that is stored is past the records, and so is one that a load starts with. -/
structure StoredStream.Keeps (stored : StoredStream) (records : List Record) : Prop where
  ascending : NumberedLog.Ascending Record.number records
  kept : ∀ record ∈ records, stored.records record.seqNum = some record.serialise
  covers : ∀ block, stored.block = some block → 1 ≤ block.blockSize.toNat ∧
    ∀ record ∈ records, record.number < block.start.toNat + block.blockSize.toNat

namespace StoredStream

variable {stored : StoredStream} {records : List Record} {allocator after : SequenceAllocator}
  {block : Option SeqBlock}

/-- A load goes on after the records, unless it numbers a stream with records from zero. -/
theorem Keeps.resume (keeps : stored.Keeps records) (secured : stored.block = none → records = [])
    (resumed : SequenceAllocator.resume stored.block = some allocator) :
    stored.Continues records allocator := by
  cases found : stored.block with
  | none =>
      rw [found] at resumed
      rcases Option.some.inj resumed with rfl
      refine ⟨SequenceAllocator.valid_default, ?_, fun block equal => ?_⟩
      · rw [secured found]
        exact fun record member => absurd member List.not_mem_nil
      · rw [found] at equal
        cases equal
  | some block =>
      rw [found] at resumed
      rcases keeps.covers block found with ⟨positive, covered⟩
      rcases SequenceAllocator.new_eq_some resumed with ⟨current, next_eq⟩
      refine ⟨SequenceAllocator.valid_of_new positive resumed, ?_, fun other equal => ?_⟩
      · rw [next_eq]
        exact covered
      · rw [current]
        exact Option.some.inj (equal.symm.trans found)

/-- An append writes the next record, and its block when it opens one. -/
theorem Continues.append (continues : stored.Continues records allocator)
    (allocated : allocator.Allocated 1 block after) (data : Bytes) :
    (stored.store (some (block, ⟨allocator.nextSequenceNumber, data⟩))).Continues
      (records ++ [⟨allocator.nextSequenceNumber, data⟩]) after where
  valid := allocated.valid continues.valid continues.valid.blockSize_pos
  below record member := by
    have next_eq : after.nextSequenceNumber.toNat = allocator.nextSequenceNumber.toNat + 1 :=
      allocated.next_eq
    rcases List.mem_append.mp member with earlier | last
    · have below := continues.below record earlier
      omega
    · rcases List.mem_singleton.mp last with rfl
      simp only [Record.number]
      omega
  block opened equal := by
    cases allocated with
    | within advanced inside => exact continues.block opened equal
    | crossing advanced reached base => exact (Option.some.inj equal).symm

theorem Keeps.append (keeps : stored.Keeps records) (continues : stored.Continues records allocator)
    (allocated : allocator.Allocated 1 block after) (data : Bytes) :
    (stored.store (some (block, ⟨allocator.nextSequenceNumber, data⟩))).Keeps
      (records ++ [⟨allocator.nextSequenceNumber, data⟩]) where
  ascending := keeps.ascending.snoc continues.below
  kept record member := by
    rcases List.mem_append.mp member with earlier | last
    · have different : record.seqNum ≠ allocator.nextSequenceNumber := fun same =>
        absurd (continues.below record earlier) (by rw [Record.number, same]; exact Nat.lt_irrefl _)
      exact (Function.update_of_ne different _ _).trans (keeps.kept record earlier)
    · rcases List.mem_singleton.mp last with rfl
      exact Function.update_self _ _ _
  covers opened equal := by
    have next := continues.append allocated data
    rw [next.block opened equal]
    refine ⟨next.valid.blockSize_pos, fun record member => ?_⟩
    exact Nat.lt_of_lt_of_le (next.below record member) next.valid.next_le

end StoredStream

namespace NamedStream

theorem create_stored (stream : NamedStream) :
    stream.create.2.stored = some stream.create.1 := by
  cases known : stream.stored with
  | some stored => simp only [create, known]
  | none => simp only [create, known]

/-- Reads do not change what is stored or the actor. -/
theorem perform_read (stream : NamedStream) (name : String × String) {operation : Operation}
    (read : operation.isRead = true) :
    (stream.perform name operation).2.stored = stream.stored ∧
      (stream.perform name operation).2.process = stream.process := by
  cases operation with
  | append basinName streamName data => cases read
  | restart => cases read
  | listBasins label => exact ⟨rfl, rfl⟩
  | listStreams label basinName => exact ⟨rfl, rfl⟩
  | readFollow reader startSeqNum =>
      simp only [perform, readFollow]
      split <;> exact ⟨rfl, rfl⟩
  | advance reader =>
      simp only [perform, advance]
      split
      · split <;> exact ⟨rfl, rfl⟩
      · exact ⟨rfl, rfl⟩
  | receive reader =>
      simp only [perform, receive]
      split <;> exact ⟨rfl, rfl⟩

/-- The stream holds the records, and its actor or the next load goes on after them. -/
structure Recovers (stream : NamedStream) (records : List Record) : Prop where
  unstored : stream.stored = none → stream.process = none ∧ records = []
  keeps {stored : StoredStream} : stream.stored = some stored → stored.Keeps records
  idle {stored : StoredStream} : stream.stored = some stored → stream.process = none →
    stored.block = none → records = []
  running {stored : StoredStream} {process : Process} {allocator : SequenceAllocator} :
    stream.stored = some stored → stream.process = some process →
      process.allocator = some allocator → stored.Continues records allocator

/-- A restart finds the block, or no records. -/
def RestartSafe (stream : NamedStream) : Prop :=
  ∀ stored, stream.stored = some stored → stored.block ≠ none ∨ ∀ n, stored.records n = none

namespace Recovers

variable {stream : NamedStream} {records : List Record} {stored : StoredStream}
  {process : Process} {allocator : SequenceAllocator}

theorem current (recovers : stream.Recovers records) (known : stream.stored = some stored)
    (current : stream.current stored = some process)
    (alive : process.allocator = some allocator) : stored.Continues records allocator := by
  cases placed : stream.process with
  | some placed_ =>
      rw [NamedStream.current, placed, Option.some_or] at current
      rcases Option.some.inj current with rfl
      exact recovers.running known placed alive
  | none =>
      rw [NamedStream.current, placed, Option.none_or] at current
      rcases Option.map_eq_some_iff.mp current with ⟨resumed, found, rfl⟩
      rcases Option.some.inj alive with rfl
      exact (recovers.keeps known).resume (recovers.idle known placed) found

/-- A creation leaves an empty stream with its block. -/
theorem create (recovers : stream.Recovers records) : stream.create.2.Recovers records := by
  cases known : stream.stored with
  | some stored =>
      simp only [NamedStream.create, known]
      exact recovers
  | none =>
      rcases recovers.unstored known with ⟨_, rfl⟩
      simp only [NamedStream.create, known]
      refine ⟨fun absent => (nomatch absent), fun found => ?_, fun _ absent => (nomatch absent),
        fun found running alive => ?_⟩
      · rcases Option.some.inj found with rfl
        refine ⟨.nil, fun record member => absurd member List.not_mem_nil, fun block equal => ?_⟩
        rcases Option.some.inj equal with rfl
        exact ⟨by decide, fun record member => absurd member List.not_mem_nil⟩
      · rcases Option.some.inj found with rfl
        rcases Option.some.inj running with rfl
        rcases Option.some.inj alive with rfl
        refine ⟨SequenceAllocator.valid_default,
          fun record member => absurd member List.not_mem_nil,
          fun block equal => (Option.some.inj equal).symm⟩

theorem appended (recovers : stream.Recovers records) (known : stream.stored = some stored)
    (continues : stored.Continues records allocator) {block : Option SeqBlock}
    {after : SequenceAllocator} (allocated : allocator.Allocated 1 block after) (data : Bytes)
    (sent : List Record) :
    Recovers
      { stream with
        stored := some (stored.store (some (block, ⟨allocator.nextSequenceNumber, data⟩)))
        process := some ⟨some after, sent⟩ }
      (records ++ [⟨allocator.nextSequenceNumber, data⟩]) where
  unstored absent := nomatch absent
  keeps found := Option.some.inj found ▸ (recovers.keeps known).append continues allocated data
  idle _ absent := nomatch absent
  running found running alive := by
    rcases Option.some.inj found with rfl
    rcases Option.some.inj running with rfl
    rcases Option.some.inj alive with rfl
    exact continues.append allocated data

/-- An actor that has panicked does not go on. -/
theorem panicked (recovers : stream.Recovers records) (known : stream.stored = some stored)
    (dead : process.allocator = none) :
    Recovers { stream with stored := some stored, process := some process } records where
  unstored absent := nomatch absent
  keeps found := Option.some.inj found ▸ recovers.keeps known
  idle _ absent := nomatch absent
  running _ found alive := by
    rcases Option.some.inj found with rfl
    rw [dead] at alive
    cases alive

theorem appendTo (recovers : stream.Recovers records) (known : stream.stored = some stored)
    (name : String × String) (data : Bytes) :
    (stream.appendTo stored data).2.Recovers
      (records ++ (Operation.acknowledged name (.append name.1 name.2 data,
        .appended (stream.appendTo stored data).1)).toList) := by
  have same : (name.1, name.2) = name := rfl
  unfold NamedStream.appendTo
  cases current : stream.current stored with
  | none =>
      simp only [Operation.acknowledged, Option.toList_none, List.append_nil]
      exact recovers
  | some process =>
      cases alive : process.allocator with
      | none =>
          simp only [Process.append, alive, Operation.acknowledged, Option.toList_none,
            List.append_nil]
          exact recovers.panicked known alive
      | some allocator =>
          have continues := recovers.current known current alive
          cases allocated : allocator.allocate 1 with
          | none =>
              simp only [Process.append, alive, allocated, Operation.acknowledged,
                Option.toList_none, List.append_nil]
              exact recovers.panicked known rfl
          | some granted =>
              rcases granted with ⟨⟨seqNum, block⟩, after⟩
              rcases SequenceAllocator.allocate_eq_some allocated with ⟨rfl, grants⟩
              have number : after.nextSequenceNumber - 1 = allocator.nextSequenceNumber :=
                grants.start_eq
              simp only [Process.append, alive, allocated, Operation.acknowledged, same, if_true,
                Option.toList_some, number]
              exact recovers.appended known continues grants data _

theorem append (recovers : stream.Recovers records) (name : String × String) (data : Bytes) :
    (stream.append name data).2.Recovers
      (records ++ (Operation.acknowledged name (.append name.1 name.2 data,
        .appended (stream.append name data).1)).toList) := by
  unfold NamedStream.append
  cases validateNames name with
  | error error =>
      simp only [Operation.acknowledged, Option.toList_none, List.append_nil]
      exact recovers
  | ok => exact recovers.create.appendTo stream.create_stored name data

/-- Where no record is stored, none has been acknowledged. -/
theorem secured (recovers : stream.Recovers records) (safe : stream.RestartSafe)
    (known : stream.stored = some stored) (missing : stored.block = none) : records = [] := by
  rcases safe stored known with present | empty
  · exact absurd missing present
  · apply List.eq_nil_iff_forall_not_mem.mpr
    intro record member
    have kept := (recovers.keeps known).kept record member
    rw [empty] at kept
    cases kept

/-- A restart forgets the actor. -/
theorem restart (recovers : stream.Recovers records) (safe : stream.RestartSafe)
    (readings : Nat → Option ReadSession) :
    Recovers { stream with process := none, readings } records where
  unstored absent := ⟨rfl, (recovers.unstored absent).2⟩
  keeps := recovers.keeps
  idle known _ missing := recovers.secured safe known missing
  running _ found := nomatch found

theorem read (recovers : stream.Recovers records) {after : NamedStream}
    (stored : after.stored = stream.stored) (process : after.process = stream.process) :
    after.Recovers records where
  unstored := by
    rw [stored, process]
    exact recovers.unstored
  keeps found := recovers.keeps (stored ▸ found)
  idle found idle := recovers.idle (stored ▸ found) (process ▸ idle)
  running found running := recovers.running (stored ▸ found) (process ▸ running)

theorem step {name : String × String} (recovers : stream.Recovers records) {operation : Operation}
    (concerns : operation.concerns name = true)
    (safe : operation = .restart → stream.RestartSafe) :
    (stream.perform name operation).2.Recovers
      (records ++ (Operation.acknowledged name
        (operation, (stream.perform name operation).1)).toList) := by
  cases read : operation.isRead with
  | true =>
      rw [Operation.acknowledged_of_read read, Option.toList_none, List.append_nil]
      rcases stream.perform_read name read with ⟨stored, process⟩
      exact recovers.read stored process
  | false =>
      cases operation with
      | append basinName streamName data =>
          rcases of_decide_eq_true concerns with rfl
          exact recovers.append _ data
      | restart =>
          simp only [Operation.acknowledged, Option.toList_none, List.append_nil]
          exact recovers.restart (safe rfl) _
      | _ => cases read

end Recovers

/-- Every record that is stored has been acknowledged. -/
def Accounts (stream : NamedStream) (records : List Record) : Prop :=
  ∀ stored, stream.stored = some stored → ∀ n value, stored.records n = some value →
    ∃ record ∈ records, record.seqNum = n

namespace Accounts

variable {stream : NamedStream} {records : List Record} {stored : StoredStream}

theorem create (accounts : stream.Accounts records) : stream.create.2.Accounts records := by
  cases known : stream.stored with
  | some stored =>
      simp only [NamedStream.create, known]
      exact accounts
  | none =>
      simp only [NamedStream.create, known]
      intro stored found n value present
      rcases Option.some.inj found with rfl
      cases present

theorem appendTo (accounts : stream.Accounts records) (known : stream.stored = some stored)
    (name : String × String) (data : Bytes) :
    (stream.appendTo stored data).2.Accounts
      (records ++ (Operation.acknowledged name (.append name.1 name.2 data,
        .appended (stream.appendTo stored data).1)).toList) := by
  have same : (name.1, name.2) = name := rfl
  have unwritten (process : Process) :
      Accounts { stream with stored := some stored, process := some process } records :=
    fun other found => accounts other (known.trans found)
  unfold NamedStream.appendTo
  cases current : stream.current stored with
  | none =>
      simp only [Operation.acknowledged, Option.toList_none, List.append_nil]
      exact accounts
  | some process =>
      cases alive : process.allocator with
      | none =>
          simp only [Process.append, alive, Operation.acknowledged, Option.toList_none,
            List.append_nil]
          exact unwritten process
      | some allocator =>
          cases allocated : allocator.allocate 1 with
          | none =>
              simp only [Process.append, alive, allocated, Operation.acknowledged,
                Option.toList_none, List.append_nil]
              exact unwritten _
          | some granted =>
              rcases granted with ⟨⟨seqNum, block⟩, after⟩
              rcases SequenceAllocator.allocate_eq_some allocated with ⟨rfl, grants⟩
              have number : after.nextSequenceNumber - 1 = allocator.nextSequenceNumber :=
                grants.start_eq
              simp only [Process.append, alive, allocated, Operation.acknowledged, same, if_true,
                Option.toList_some, number]
              intro other found n value present
              rcases Option.some.inj found with rfl
              by_cases latest : n = allocator.nextSequenceNumber
              · exact ⟨_, List.mem_append_right _ (List.mem_singleton_self _), latest.symm⟩
              · have earlier : stored.records n = some value :=
                  (Function.update_of_ne latest _ _).symm.trans present
                rcases accounts stored known n value earlier with ⟨record, member, same⟩
                exact ⟨record, List.mem_append_left _ member, same⟩

theorem step {name : String × String} (accounts : stream.Accounts records)
    {operation : Operation} (concerns : operation.concerns name = true) :
    (stream.perform name operation).2.Accounts
      (records ++ (Operation.acknowledged name
        (operation, (stream.perform name operation).1)).toList) := by
  cases read : operation.isRead with
  | true =>
      rw [Operation.acknowledged_of_read read, Option.toList_none, List.append_nil]
      rcases stream.perform_read name read with ⟨stored, process⟩
      exact fun _ found => accounts _ (stored ▸ found)
  | false =>
      cases operation with
      | append basinName streamName data =>
          rcases of_decide_eq_true concerns with rfl
          simp only [perform, NamedStream.append]
          cases validateNames (basinName, streamName) with
          | error error =>
              simp only [Operation.acknowledged, Option.toList_none, List.append_nil]
              exact accounts
          | ok => exact accounts.create.appendTo stream.create_stored _ data
      | restart =>
          simp only [Operation.acknowledged, Option.toList_none, List.append_nil]
          exact accounts
      | _ => cases read

end Accounts

end NamedStream

/-! ## The server -/

/-- A restart with these stores finds the stream's block, or no records of the stream. -/
def Stores.RestartSafe (stores : Stores) (name : String × String) : Prop :=
  ∀ metadata, stores.named name.1 name.2 = some metadata →
    stores.recordStorage.get metadata.blockKey ≠ none ∨ ∀ n, stores.record metadata n = none

namespace World

/-- The records that the appends to the stream acknowledge, in order. -/
def acknowledged (ids : Nat → U128) (name : String × String) (world : World)
    (operations : List Operation) : List Record :=
  (Machine.transcript (perform ids) world operations).filterMap (Operation.acknowledged name)

section Follows

variable {ids : Nat → U128} {name : String × String} {count : Nat} {world : World}
  {records : List Record} {holds : NamedStream → List Record → Prop}

/-- The server is the service, and what the service shows of the stream goes with the
acknowledged records. -/
def Follows (ids : Nat → U128) (name : String × String)
    (holds : NamedStream → List Record → Prop) (count : Nat) (world : World)
    (records : List Record) : Prop :=
  ∃ service, Represents ids count world service ∧ holds (service.view name) records

theorem Represents.restartSafe {service : Service} (represents : Represents ids count world service)
    (safe : world.server.stores.RestartSafe name) : (service.view name).RestartSafe := by
  intro stored known
  rcases Option.map_eq_some_iff.mp known with ⟨metadata, named, rfl⟩
  rw [represents.server.stores] at safe
  rcases safe metadata named with present | empty
  · left
    intro missing
    apply present
    have missing : service.stores.block metadata = none := missing
    rw [represents.sound.blocks, missing, Option.map_none]
  · exact .inr empty

theorem Follows.step (follows : Follows ids name holds (count + 1) world records)
    (operation : Operation)
    (kept : ∀ stream, (world.server.stores.RestartSafe name → stream.RestartSafe) →
      holds stream records → operation.concerns name = true →
      holds (stream.perform name operation).2 (records ++ (Operation.acknowledged name
        (operation, (stream.perform name operation).1)).toList)) :
    Follows ids name holds count (world.perform ids operation).2
      (records ++ (Operation.acknowledged name
        (operation, (world.perform ids operation).1)).toList) := by
  rcases follows with ⟨service, represents, held⟩
  rcases (simulates ids).kept represents rfl with ⟨outcome, next⟩
  have same : (service.perform ids operation).1 = (world.perform ids operation).1 := outcome
  have shown : Service.Shows ids name (count + 1) service (service.view name) :=
    ⟨represents.sound, represents.fresh, rfl⟩
  refine ⟨_, next, ?_⟩
  cases concerns : operation.concerns name with
  | true =>
      rcases (Service.shows_simulates ids name).kept shown concerns with ⟨plain, after⟩
      have held := kept _ represents.restartSafe held concerns
      rw [plain, Operation.acknowledged_plain, same, ← after.view] at held
      exact held
  | false =>
      have after := (Service.shows_simulates ids name).dropped shown concerns
      rw [after.view, Operation.acknowledged_of_apart concerns, Option.toList_none,
        List.append_nil]
      exact held

theorem acknowledged_cons (operation : Operation) (rest : List Operation) :
    acknowledged ids name world (operation :: rest) =
      (Operation.acknowledged name (operation, (world.perform ids operation).1)).toList ++
        acknowledged ids name (world.perform ids operation).2 rest := by
  rw [acknowledged, Machine.transcript, List.filterMap_cons]
  cases Operation.acknowledged name (operation, (world.perform ids operation).1) <;> rfl

/-- What every operation keeps, every run keeps. -/
theorem Follows.run {operations : List Operation}
    (follows : Follows ids name holds (operations.length + count) world records)
    (kept : ∀ before operation after, operations = before ++ operation :: after →
      ∀ stream records,
        ((Machine.final (perform ids) world before).server.stores.RestartSafe name →
          stream.RestartSafe) →
        holds stream records → operation.concerns name = true →
        holds (stream.perform name operation).2 (records ++ (Operation.acknowledged name
          (operation, (stream.perform name operation).1)).toList)) :
    Follows ids name holds count (Machine.final (perform ids) world operations)
      (records ++ acknowledged ids name world operations) := by
  induction operations generalizing world records with
  | nil =>
      rw [acknowledged, Machine.transcript, List.filterMap_nil, List.append_nil]
      exact Nat.zero_add count ▸ follows
  | cons operation rest induction =>
      have longer : Follows ids name holds (rest.length + count + 1) world records :=
        Nat.add_right_comm rest.length 1 count ▸ follows
      rw [acknowledged_cons, ← List.append_assoc]
      apply induction
        (longer.step operation fun stream => kept [] operation rest rfl stream records)
      intro before next after equal
      exact kept (operation :: before) next after (congrArg (operation :: ·) equal)

theorem Follows.accounts {operations : List Operation}
    (follows : Follows ids name NamedStream.Accounts (operations.length + count) world records) :
    Follows ids name NamedStream.Accounts count (Machine.final (perform ids) world operations)
      (records ++ acknowledged ids name world operations) :=
  follows.run fun _ _ _ _ _ _ _ held concerns => held.step concerns

theorem Follows.recovers {operations : List Operation}
    (follows : Follows ids name NamedStream.Recovers (operations.length + count) world records)
    (safe : ∀ before after, operations = before ++ .restart :: after →
      (Machine.final (perform ids) world before).server.stores.RestartSafe name) :
    Follows ids name NamedStream.Recovers count (Machine.final (perform ids) world operations)
      (records ++ acknowledged ids name world operations) := by
  apply follows.run
  intro before operation after equal stream records shown held concerns
  apply held.step concerns
  rintro rfl
  exact shown (safe before after equal)

end Follows

end World

/-! ## The cut -/

/-- What a creation has changed when it ends early. -/
inductive Stores.Interrupted (stores : Stores) (basinId : U128) (streamName : String) :
    Stores → Prop where
  | untouched : Interrupted stores basinId streamName stores
  | drawn {streamId : U128} (undrawn : streamId ∉ stores.drawn) :
      Interrupted stores basinId streamName (stores.draw streamId)
  | named {streamId : U128} (undrawn : streamId ∉ stores.drawn) :
      Interrupted stores basinId streamName (stores.nameStored streamName ⟨basinId, streamId⟩)
  | created {streamId : U128} (undrawn : streamId ∉ stores.drawn) :
      Interrupted stores basinId streamName (stores.created streamName ⟨basinId, streamId⟩)

theorem Stream.cut_new {MayFail : StorageOp → Prop} {basinId : U128} {streamName : String}
    {stores after : Stores}
    (cut : (Stream.new basinId streamName).run.Cut (StorageOp.Answers MayFail) stores after) :
    stores.Interrupted basinId streamName after := by
  rw [Stream.new_eq] at cut
  rcases Program.cut_call.mp cut with rfl | ⟨streamId, drawn, ⟨undrawn, rfl⟩, rest⟩
  · exact .untouched
  rcases Program.cut_call.mp rest with rfl | ⟨answer, named, answered, rest⟩
  · exact .drawn undrawn
  cases answer with
  | error error =>
      rcases answered with ⟨_, rfl⟩
      rcases Program.cut_done.mp rest with rfl
      exact .drawn undrawn
  | ok =>
      rcases answered with rfl
      rcases Program.cut_call.mp rest with rfl | ⟨answer, created, answered, rest⟩
      · exact .named undrawn
      cases answer with
      | error error =>
          rcases answered with ⟨_, rfl⟩
          rcases Program.cut_done.mp rest with rfl
          exact .named undrawn
      | ok =>
          rcases answered with rfl
          rcases Program.cut_done.mp rest with rfl
          exact .created undrawn

/-- A creation can end before its first write. -/
theorem Stream.cut_drawn {MayFail : StorageOp → Prop} {stores : Stores}
    {basinId streamId : U128} (undrawn : streamId ∉ stores.drawn) (streamName : String) :
    (Stream.new basinId streamName).run.Cut (StorageOp.Answers MayFail) stores
      (stores.draw streamId) := by
  rw [Stream.new_eq]
  apply Program.cut_call.mpr
  exact .inr ⟨streamId, stores.draw streamId, ⟨undrawn, rfl⟩, Program.cut_call.mpr (.inl rfl)⟩

/-- A creation can end between its two writes. -/
theorem Stream.cut_named {MayFail : StorageOp → Prop} {stores : Stores}
    {basinId streamId : U128} (undrawn : streamId ∉ stores.drawn) (streamName : String) :
    (Stream.new basinId streamName).run.Cut (StorageOp.Answers MayFail) stores
      (stores.nameStored streamName ⟨basinId, streamId⟩) := by
  rw [Stream.new_eq]
  apply Program.cut_call.mpr
  refine .inr ⟨streamId, stores.draw streamId, ⟨undrawn, rfl⟩, Program.cut_call.mpr ?_⟩
  exact .inr ⟨.ok (), _, rfl, Program.cut_call.mpr (.inl rfl)⟩

namespace Stores.Interrupted

variable {stores after : Stores} {basinId : U128} {name : String × String}

theorem sound (interrupted : stores.Interrupted basinId name.2 after) (sound : stores.Sound)
    (basin : stores.basinId name.1 = some basinId) : after.Sound := by
  have known : basinId ∈ stores.drawn := sound.basin_drawn basin
  cases interrupted with
  | untouched => exact sound
  | drawn undrawn => exact sound.drawId _
  | named undrawn => exact sound.nameStored known undrawn
  | created undrawn => exact sound.created known undrawn

/-- The stream is not there yet, or has no records and at most the first block. -/
theorem empty (interrupted : stores.Interrupted basinId name.2 after) (sound : stores.Sound)
    (basin : stores.basinId name.1 = some basinId)
    (missing : stores.streamMetadata basinId name.2 = none) {metadata : StreamMetadata}
    (named : after.named name.1 name.2 = some metadata) :
    (∀ block, after.block metadata = some block →
      block = SequenceAllocator.default.currentBlock) ∧
      ∀ n, after.record metadata n = none := by
  have unnamed : stores.named name.1 name.2 ≠ some metadata := by
    simp [Stores.named, basin, missing]
  cases interrupted with
  | untouched => exact absurd named unnamed
  | drawn undrawn => exact absurd named unnamed
  | named undrawn =>
      simp only [Stores.named, Stores.basinId_nameStored, basin, Option.bind_some,
        Stores.streamMetadata_nameStored, and_self, if_true, Option.some.injEq] at named
      subst named
      refine ⟨fun block found => ?_, fun n => ?_⟩
      · exact absurd (sound.block_drawn found) undrawn
      · rw [Stores.record_nameStored, Service.record_undrawn sound undrawn]
  | created undrawn =>
      simp only [Stores.named, Stores.basinId_created, basin, Option.bind_some,
        Stores.streamMetadata_created, and_self, if_true, Option.some.injEq] at named
      subst named
      refine ⟨fun block found => ?_, fun n => ?_⟩
      · rw [Stores.block_created, if_pos rfl] at found
        exact (Option.some.inj found).symm
      · rw [Stores.record_created, Service.record_undrawn sound undrawn]

/-- The other streams are as they were. -/
theorem sameExcept {service : Service}
    (interrupted : service.stores.Interrupted basinId name.2 after) (sound : service.stores.Sound)
    (basin : service.stores.basinId name.1 = some basinId) :
    service.SameExcept { service with stores := after } name := by
  have apart {other : String × String} {found : U128} (different : other ≠ name)
      (known : service.stores.basinId other.1 = some found) :
      ¬(basinId = found ∧ name.2 = other.2) := fun same =>
    different (Prod.ext (sound.basin_injective known (same.1 ▸ basin)) same.2.symm)
  cases interrupted with
  | untouched => exact .refl _ _
  | drawn undrawn => exact ⟨id, fun _ => id, fun _ _ => rfl, fun _ => rfl⟩
  | named undrawn =>
      refine ⟨fun known => (Stores.basinId_nameStored _ _ _ _).trans known,
        fun {other metadata} different named => ?_, fun _ _ => rfl, fun _ => rfl⟩
      rcases Option.bind_eq_some_iff.mp named with ⟨found, known, stream⟩
      simp only [Stores.named, Stores.basinId_nameStored, known, Option.bind_some,
        Stores.streamMetadata_nameStored, if_neg (apart different known), stream]
  | @created streamId undrawn =>
      have created := Service.SameExcept.created sound
        (show service.stores.basinId name.1 = some (⟨basinId, streamId⟩ : StreamMetadata).basinId
          from basin) undrawn (.spawned .default)
      refine ⟨created.basin, created.named, fun {other metadata} different named => ?_,
        fun _ => rfl⟩
      rw [← created.process different named]
      simp only [Service.process, Function.update_of_ne different]

end Stores.Interrupted

namespace NamedStream

variable {stream : NamedStream}

/-- A stream without an actor, without records and with at most its first block. -/
theorem recovers_begun (idle : stream.process = none)
    (blocks : ∀ stored, stream.stored = some stored → ∀ block, stored.block = some block →
      block = SequenceAllocator.default.currentBlock) : stream.Recovers [] where
  unstored _ := ⟨idle, rfl⟩
  keeps {stored} known := by
    refine ⟨.nil, fun record member => absurd member List.not_mem_nil, fun block found => ?_⟩
    rw [blocks stored known block found]
    exact ⟨by decide, fun record member => absurd member List.not_mem_nil⟩
  idle _ _ _ := rfl
  running _ running _ := by
    rw [idle] at running
    cases running

theorem accounts_begun
    (empty : ∀ stored, stream.stored = some stored → ∀ n, stored.records n = none) :
    stream.Accounts [] := by
  intro stored known n value found
  rw [empty stored known n] at found
  cases found

end NamedStream

namespace Server.Represents

variable {server : Server} {service : Service}

/-- A stream that is not cached may change in the stores. -/
theorem changedUncached (represents : server.Represents service) {name : String × String}
    (uncached : server.cached name = none) {stores : Stores}
    (same : service.SameExcept { service with stores } name) :
    Represents { server with stores } { service with stores } where
  stores := rfl
  basins found := ⟨same.basin (represents.basins found).1, (represents.basins found).2⟩
  addresses := represents.addresses
  unplaced := represents.unplaced
  cached {other handle} found := by
    have different : other ≠ name := fun equal => by
      have found : server.cached other = some handle := found
      rw [equal, uncached] at found
      cases found
    rcases represents.cached found with ⟨metadata, process, actor, named, current, rest⟩
    exact ⟨metadata, process, actor, same.named different named,
      (same.process different named).trans current, rest⟩
  actors := represents.actors
  uncached := represents.uncached

end Server.Represents

namespace World

/-- Finding a stream for an append gets as far as creating it, and the creation ends
early: the server has crashed, or the request has failed or is gone and the server
goes on. -/
inductive CreationCut (ids : Nat → U128) (world : World) (name : String × String) :
    World → Prop where
  | crashed {server : Server} {handle : BasinHandle} {stores : Stores}
      (opened : (StreamController.getOrCreateBasin name.1).run.exec (ServerOp.handle ids)
        world.server = (some (.ok handle), server))
      (missing : ((Stream.load handle.basinId name.2).run.exec (StorageOp.handle ids)
        server.stores).1 = some (.error (.streamDoesNotExist name.2)))
      (cut : (Stream.new handle.basinId name.2).run.Cut (StorageOp.Answers WritesMayFail)
        server.stores stores) :
      CreationCut ids world name (.start stores)
  | ended {server : Server} {handle : BasinHandle} {stores : Stores}
      (opened : (StreamController.getOrCreateBasin name.1).run.exec (ServerOp.handle ids)
        world.server = (some (.ok handle), server))
      (missing : ((Stream.load handle.basinId name.2).run.exec (StorageOp.handle ids)
        server.stores).1 = some (.error (.streamDoesNotExist name.2)))
      (cut : (Stream.new handle.basinId name.2).run.Cut (StorageOp.Answers WritesMayFail)
        server.stores stores) :
      CreationCut ids world name ⟨{ server with stores }, world.tasks⟩

section Cut

variable {ids : Nat → U128} {name : String × String} {count later : Nat} {world cut : World}
  {service : Service} {server : Server} {handle : BasinHandle} {stores : Stores}

/-- The service after a creation that has ended early. -/
theorem Represents.interrupted (represents : Represents ids (count + 1) world service)
    (opened : (StreamController.getOrCreateBasin name.1).run.exec (ServerOp.handle ids)
      world.server = (some (.ok handle), server))
    (missing : ((Stream.load handle.basinId name.2).run.exec (StorageOp.handle ids)
      server.stores).1 = some (.error (.streamDoesNotExist name.2)))
    (cut : (Stream.new handle.basinId name.2).run.Cut (StorageOp.Answers WritesMayFail)
      server.stores stores)
    (fresh : Stores.Fresh ids stores.drawn (2 * later)) :
    ∃ after : Service, after.stores = stores ∧ after.processes name = none ∧
      Represents ids later ⟨{ server with stores }, world.tasks⟩ after ∧
      ∀ metadata, stores.named name.1 name.2 = some metadata →
        (∀ block, stores.block metadata = some block →
          block = SequenceAllocator.default.currentBlock) ∧
        ∀ n, stores.record metadata n = none := by
  have found := represents.server.exec_getOrCreateBasin ids represents.sound name.1
  rw [opened] at found
  rcases found with ⟨⟨other, same, sameId, placed⟩, opens, kept⟩
  rcases Except.ok.inj (Option.some.inj same) with rfl
  have next : Stores.Fresh ids service.stores.drawn (0 + 1) := represents.fresh.mono (by omega)
  rcases Service.sound_createBasin represents.sound name.1 next with ⟨sound, basin, _⟩
  have readings : (service.createBasin ids name.1).2.readings = service.readings := by
    unfold Service.createBasin
    split <;> rfl
  generalize (service.createBasin ids name.1).1 = basinId at *
  generalize (service.createBasin ids name.1).2 = middle at *
  rcases sameId with rfl
  have unknown : middle.stores.streamMetadata handle.basinId name.2 = none := by
    rw [Stream.exec_load ids (opens.stores ▸ sound), opens.stores] at missing
    cases known : middle.stores.streamMetadata handle.basinId name.2 with
    | none => rfl
    | some metadata =>
        simp only [known] at missing
        rcases Option.map_eq_some_iff.mp missing with ⟨allocator, _, equal⟩
        cases equal
  rw [opens.stores] at cut
  have interrupted := Stream.cut_new cut
  have uncached := opens.uncached_of_missing placed unknown
  have holds := opens.changedUncached uncached (interrupted.sameExcept sound basin)
  refine ⟨{ middle with stores }, rfl, opens.uncached uncached, ?_, fun metadata named =>
    interrupted.empty sound basin unknown named⟩
  exact represents.requested holds (interrupted.sound sound basin) fresh
    ⟨fun cached => kept.cached cached, kept.replies⟩ readings

theorem CreationCut.begins (interrupted : CreationCut ids world name cut)
    (represents : Represents ids (count + 1) world service)
    (fresh : Stores.Fresh ids cut.server.stores.drawn (2 * later)) :
    Follows ids name NamedStream.Recovers later cut [] ∧
      Follows ids name NamedStream.Accounts later cut [] := by
  have begun {stores : Stores} {after : Service} (same : after.stores = stores)
      (idle : after.processes name = none) (holds : Represents ids later cut after)
      (empty : ∀ metadata, stores.named name.1 name.2 = some metadata →
        (∀ block, stores.block metadata = some block →
          block = SequenceAllocator.default.currentBlock) ∧
        ∀ n, stores.record metadata n = none) :
      Follows ids name NamedStream.Recovers later cut [] ∧
        Follows ids name NamedStream.Accounts later cut [] := by
    subst same
    have blank (stored : StoredStream) (known : (after.view name).stored = some stored) :
        (∀ block, stored.block = some block →
          block = SequenceAllocator.default.currentBlock) ∧ ∀ n, stored.records n = none := by
      rcases Option.map_eq_some_iff.mp known with ⟨metadata, named, rfl⟩
      exact empty metadata named
    exact ⟨⟨after, holds,
        NamedStream.recovers_begun idle fun stored known => (blank stored known).1⟩,
      ⟨after, holds, NamedStream.accounts_begun fun stored known => (blank stored known).2⟩⟩
  cases interrupted with
  | crashed opened missing reached =>
      rcases represents.interrupted opened missing reached fresh with
        ⟨after, rfl, idle, holds, empty⟩
      exact begun rfl rfl (represents_start holds.sound fresh) empty
  | ended opened missing reached =>
      rcases represents.interrupted opened missing reached fresh with
        ⟨after, same, idle, holds, empty⟩
      exact begun same idle holds empty

end Cut

/-! ## Recovery -/

/-- Acknowledged records have their own numbers and stay stored, and a load after a
restart goes on above them. -/
structure CreationSafe (ids : Nat → U128) (name : String × String) (cut : World)
    (operations : List Operation) : Prop where
  distinct : (acknowledged ids name cut operations).Pairwise fun earlier later =>
    earlier.seqNum ≠ later.seqNum
  stored : ∀ before after, operations = before ++ after →
    ∀ record ∈ acknowledged ids name cut before, ∃ metadata,
      (Machine.final (perform ids) cut before).server.stores.named name.1 name.2 = some metadata ∧
      (Machine.final (perform ids) cut before).server.stores.record metadata record.seqNum =
        some record.serialise
  above : ∀ before after, operations = before ++ .restart :: after →
    ∀ basinId stream,
      (Machine.final (perform ids) cut (before ++ [.restart])).server.stores.basinId name.1 =
        some basinId →
      ((Stream.load basinId name.2).run.exec (StorageOp.handle ids)
        (Machine.final (perform ids) cut (before ++ [.restart])).server.stores).1 =
          some (.ok stream) →
      ∀ record ∈ acknowledged ids name cut before, record.seqNum < stream.nextSeqNum

section Recovery

variable {ids : Nat → U128} {name : String × String} {count : Nat} {world : World}
  {records : List Record}

theorem Follows.stored (follows : Follows ids name NamedStream.Recovers count world records)
    {record : Record} (member : record ∈ records) :
    ∃ metadata, world.server.stores.named name.1 name.2 = some metadata ∧
      world.server.stores.record metadata record.seqNum = some record.serialise := by
  rcases follows with ⟨service, represents, recovers⟩
  rw [represents.server.stores]
  cases known : (service.view name).stored with
  | none =>
      rw [(recovers.unstored known).2] at member
      exact absurd member List.not_mem_nil
  | some stored =>
      rcases Option.map_eq_some_iff.mp known with ⟨metadata, named, rfl⟩
      exact ⟨metadata, named, (recovers.keeps known).kept record member⟩

theorem Follows.ascending (follows : Follows ids name NamedStream.Recovers count world records) :
    NumberedLog.Ascending Record.number records := by
  rcases follows with ⟨service, represents, recovers⟩
  cases known : (service.view name).stored with
  | none =>
      rw [(recovers.unstored known).2]
      exact .nil
  | some stored => exact (recovers.keeps known).ascending

/-- What a load makes of the stores of a server. -/
theorem Represents.exec_load {service : Service} (represents : Represents ids count world service)
    {basinId : U128} (basin : world.server.stores.basinId name.1 = some basinId) :
    ((Stream.load basinId name.2).run.exec (StorageOp.handle ids) world.server.stores).1 =
      match service.stores.named name.1 name.2 with
      | none => some (.error (.streamDoesNotExist name.2))
      | some metadata =>
          (SequenceAllocator.resume (service.stores.block metadata)).map fun allocator =>
            .ok ⟨allocator, metadata⟩ := by
  rw [represents.server.stores] at basin ⊢
  rw [Stores.named, basin, Option.bind_some]
  exact congrArg Prod.fst (Stream.exec_load ids represents.sound basinId name.2)

theorem Follows.above (follows : Follows ids name NamedStream.Recovers count world records)
    (safe : world.server.stores.RestartSafe name) {basinId : U128} {stream : Stream}
    (basin : world.server.stores.basinId name.1 = some basinId)
    (loads : ((Stream.load basinId name.2).run.exec (StorageOp.handle ids)
      world.server.stores).1 = some (.ok stream)) :
    ∀ record ∈ records, record.seqNum < stream.nextSeqNum := by
  intro record member
  rcases follows with ⟨service, represents, recovers⟩
  have shown := represents.restartSafe safe
  rw [represents.exec_load basin] at loads
  cases named : service.stores.named name.1 name.2 with
  | none =>
      rw [named] at loads
      cases loads
  | some metadata =>
      simp only [named] at loads
      rcases Option.map_eq_some_iff.mp loads with ⟨allocator, resumed, equal⟩
      rcases Except.ok.inj equal with rfl
      have known := service.view_stored name named
      have continues := (recovers.keeps known).resume (recovers.secured shown known) resumed
      exact UInt64.lt_iff_toNat_lt.mpr (continues.below record member)

/-- A restart that finds records without a block starts from zero again. -/
theorem Follows.restartSafe (follows : Follows ids name NamedStream.Accounts count world records)
    (above : ∀ basinId stream, world.server.stores.basinId name.1 = some basinId →
      ((Stream.load basinId name.2).run.exec (StorageOp.handle ids) world.server.stores).1 =
        some (.ok stream) →
      ∀ record ∈ records, record.seqNum < stream.nextSeqNum) :
    world.server.stores.RestartSafe name := by
  rcases follows with ⟨service, represents, accounts⟩
  intro metadata named
  rcases Option.bind_eq_some_iff.mp named with ⟨basinId, basin, _⟩
  have loads := represents.exec_load basin
  rw [represents.server.stores] at named
  by_cases present : world.server.stores.recordStorage.get metadata.blockKey = none
  · apply Or.inr
    intro n
    cases found : world.server.stores.record metadata n with
    | none => rfl
    | some value =>
        exfalso
        rw [represents.server.stores] at present found
        have missing : service.stores.block metadata = none := by
          rw [represents.sound.blocks] at present
          exact Option.map_eq_none_iff.mp present
        rcases accounts _ (service.view_stored name named) n value found with ⟨record, member, _⟩
        simp only [named, missing, SequenceAllocator.resume, Option.map_some] at loads
        have below := above basinId _ basin loads record member
        exact absurd (UInt64.lt_iff_toNat_lt.mp below) (Nat.not_lt_zero _)
  · exact .inl present

end Recovery

/-- After a creation that was cut short, appends are safe for exactly as long as every
restart finds the stream's block, or no records of the stream. -/
theorem interrupted_creation_safe_iff (ids : Nat → U128) {stores : Stores} (sound : stores.Sound)
    (history : List Operation)
    (fresh : Stores.Fresh ids stores.drawn (2 * (history.length + 1)))
    {name : String × String} {cut : World}
    (interrupted : CreationCut ids (Machine.final (perform ids) (.start stores) history) name cut)
    (operations : List Operation)
    (laterFresh : Stores.Fresh ids cut.server.stores.drawn (2 * operations.length)) :
    CreationSafe ids name cut operations ↔
      ∀ before after, operations = before ++ .restart :: after →
        (Machine.final (perform ids) cut before).server.stores.RestartSafe name := by
  rcases interrupted.begins (final_represents sound fresh) laterFresh with ⟨recovers, accounts⟩
  constructor
  · intro safe before after equal
    have begun : Follows ids name NamedStream.Accounts
        (before.length + (after.length + 1)) cut [] := by
      rw [equal, List.length_append, List.length_cons] at accounts
      exact accounts
    have above := safe.above before after equal
    rw [Machine.final_append] at above
    exact begun.accounts.restartSafe above
  · intro safe
    have run (before after : List Operation) (equal : operations = before ++ after) :
        Follows ids name NamedStream.Recovers after.length
          (Machine.final (perform ids) cut before) (acknowledged ids name cut before) := by
      have begun : Follows ids name NamedStream.Recovers (before.length + after.length) cut [] := by
        rw [equal, List.length_append] at recovers
        exact recovers
      apply begun.recovers
      rintro earlier later rfl
      exact safe earlier (later ++ after) (by simp [equal])
    refine ⟨?_, fun before after equal record member => (run before after equal).stored member, ?_⟩
    · apply (run operations [] (List.append_nil _).symm).ascending.imp
      intro earlier later less same
      exact absurd less (by rw [Record.number, Record.number, same]; exact Nat.lt_irrefl _)
    · intro before after equal basinId stream basin loads
      rw [Machine.final_append] at basin loads
      exact (run before _ equal).above (safe before after equal) basin loads

/-- The name is stored and the block is not: both appends get number zero. -/
theorem interrupted_creation_renumbers :
    ∃ cut, CreationCut (BitVec.ofNat 128) (.start .opened) ("orders", "events") cut ∧
      acknowledged (BitVec.ofNat 128) ("orders", "events") cut
        [.append "orders" "events" [97], .restart, .append "orders" "events" [98]] =
          [⟨0, [97]⟩, ⟨0, [98]⟩] ∧
      ¬CreationSafe (BitVec.ofNat 128) ("orders", "events") cut
        [.append "orders" "events" [97], .restart, .append "orders" "events" [98]] := by
  let opened : Stores := Stores.opened.createdBasin "orders" 0
  have cut : (Stream.new 0 "events").run.Cut (StorageOp.Answers WritesMayFail) opened
      (opened.nameStored "events" ⟨0, 1⟩) := by
    exact Stream.cut_named (by decide) "events"
  have same : acknowledged (BitVec.ofNat 128) ("orders", "events")
      (.start (opened.nameStored "events" ⟨0, 1⟩))
      [.append "orders" "events" [97], .restart, .append "orders" "events" [98]] =
        [⟨0, [97]⟩, ⟨0, [98]⟩] := by
    decide +kernel
  refine ⟨_, .crashed rfl rfl cut, same, fun safe => ?_⟩
  have distinct := safe.distinct
  rw [same] at distinct
  exact absurd distinct (by decide)

/-- A restart before the first append is safe. So is one after an append that has created
the stream anew, because the name was not stored: the load goes on past its block. -/
theorem interrupted_creation_safe_restarted :
    (∃ cut, CreationCut (BitVec.ofNat 128) (.start .opened) ("orders", "events") cut ∧
      CreationSafe (BitVec.ofNat 128) ("orders", "events") cut
        [.restart, .append "orders" "events" [97], .append "orders" "events" [98]]) ∧
    ∃ cut, CreationCut (BitVec.ofNat 128) (.start .opened) ("orders", "events") cut ∧
      acknowledged (BitVec.ofNat 128) ("orders", "events") cut
        [.append "orders" "events" [97], .restart, .append "orders" "events" [98]] =
          [⟨0, [97]⟩, ⟨4096, [98]⟩] ∧
      CreationSafe (BitVec.ofNat 128) ("orders", "events") cut
        [.append "orders" "events" [97], .restart, .append "orders" "events" [98]] := by
  let opened : Stores := Stores.opened.createdBasin "orders" 0
  constructor
  · have cut : (Stream.new 0 "events").run.Cut (StorageOp.Answers WritesMayFail) opened
        (opened.nameStored "events" ⟨0, 1⟩) :=
      Stream.cut_named (by decide) "events"
    have interrupted : CreationCut (BitVec.ofNat 128) (.start .opened) ("orders", "events")
        (.start (opened.nameStored "events" ⟨0, 1⟩)) := .crashed rfl rfl cut
    refine ⟨_, interrupted, (interrupted_creation_safe_iff (BitVec.ofNat 128) Stores.sound_opened []
      (by decide) interrupted _ (by decide)).mpr ?_⟩
    intro before after equal
    rcases before with _ | ⟨first, rest⟩
    · intro metadata named
      exact .inr fun n => rfl
    · have later : Operation.restart ∈
          [.append "orders" "events" [97], .append "orders" "events" [98]] := by
        rw [(List.cons.inj equal).2]
        exact List.mem_append_right _ (List.mem_cons_self ..)
      exact absurd later (by decide)
  · have cut : (Stream.new 0 "events").run.Cut (StorageOp.Answers WritesMayFail) opened
        (opened.draw 1) :=
      Stream.cut_drawn (by decide) "events"
    have interrupted : CreationCut (BitVec.ofNat 128) (.start .opened) ("orders", "events")
        (.start (opened.draw 1)) := .crashed rfl rfl cut
    refine ⟨_, interrupted, by decide +kernel,
      (interrupted_creation_safe_iff (BitVec.ofNat 128) Stores.sound_opened [] (by decide)
        interrupted _ (by decide)).mpr ?_⟩
    intro before after equal
    -- The only restart comes after the first append.
    rcases before with _ | ⟨first, _ | ⟨second, rest⟩⟩
    · exact absurd (List.cons.inj equal).1 (by decide)
    · obtain rfl := (List.cons.inj equal).1
      intro metadata named
      have known : (Machine.final (perform (BitVec.ofNat 128)) (.start (opened.draw 1))
          [.append "orders" "events" [97]]).server.stores.named "orders" "events" =
            some ⟨0, 2⟩ := by
        decide +kernel
      obtain rfl := Option.some.inj (named.symm.trans known)
      exact .inl (by decide +kernel)
    · have later : Operation.restart ∈ [.append "orders" "events" [98]] := by
        rw [(List.cons.inj (List.cons.inj equal).2).2]
        exact List.mem_append_right _ (List.mem_cons_self ..)
      exact absurd later (by decide)

end World

end Slatestreams
