import Slatestreams.Foundation.OrderedMap
import Slatestreams.Foundation.Program

/-! # Stores

The key/value interface every durable state goes through, and what an answer
of a store means. The server opens two stores, one for metadata and one for
records; the functions of the library receive both. -/

namespace Slatestreams

open Foundation

abbrev Bytes := List UInt8

abbrev U128 := BitVec 128

/-- One key and its value, as a batch carries it and a lookup returns it. -/
structure StorageRecord where
  key : Bytes
  value : Bytes
  deriving DecidableEq, Repr

inductive StorageError where
  | storage (message : String)
  | internal (message : String)
  deriving DecidableEq, Repr

def StorageError.display : StorageError → String
  | .storage message => "Storage error: " ++ message
  | .internal message => "Internal error: " ++ message

inductive Bound where
  | included (key : Bytes)
  | excluded (key : Bytes)
  | unbounded
  deriving DecidableEq, Repr

/-- A range over byte strings in lexicographic order. -/
structure BytesRange where
  start : Bound
  finish : Bound
  deriving DecidableEq, Repr

def BytesRange.contains (range : BytesRange) (key : Bytes) : Bool :=
  (match range.start with
    | .included start => !decide (key < start)
    | .excluded start => decide (start < key)
    | .unbounded => true) &&
  (match range.finish with
    | .included finish => !decide (finish < key)
    | .excluded finish => decide (key < finish)
    | .unbounded => true)

/-! ## Contents of one store -/

/-- What a store holds: the last value written under each key. -/
abbrev Contents := OrderedMap Bytes Bytes

namespace Contents

/-- A batch is written as a whole, in order. -/
def apply (contents : Contents) (batch : List StorageRecord) : Contents :=
  batch.foldl (fun contents record => contents.insert record.key record.value) contents

def read (contents : Contents) (key : Bytes) : Option StorageRecord :=
  (contents.get key).map fun value => ⟨key, value⟩

def scanIter (contents : Contents) (range : BytesRange) : List StorageRecord :=
  (contents.scan range.contains).map fun entry => ⟨entry.1, entry.2⟩

@[simp] theorem apply_nil (contents : Contents) : contents.apply [] = contents := rfl

@[simp] theorem apply_cons (contents : Contents) (record : StorageRecord)
    (rest : List StorageRecord) :
    contents.apply (record :: rest) =
      Contents.apply (contents.insert record.key record.value) rest := rfl

theorem get_insert (contents : Contents) (key other value : Bytes) :
    (contents.insert key value).get other =
      if key = other then some value else contents.get other :=
  OrderedMap.get_insert contents key other value

theorem read_of_get {contents : Contents} {key value : Bytes}
    (found : contents.get key = some value) : contents.read key = some ⟨key, value⟩ := by
  rw [read, found, Option.map_some]

end Contents

/-! ## Calls into the environment -/

/-- The store a call goes to. -/
inductive Store where
  | metaStorage
  | recordStorage
  deriving DecidableEq, Repr

/-- The environment calls of the storage layer, and the only other source of
nondeterminism next to them, the random ids of `Uuid::new_v4`. -/
inductive StorageOp where
  | apply (store : Store) (batch : List StorageRecord)
  | get (store : Store) (key : Bytes)
  | scanIter (store : Store) (range : BytesRange)
  | next (iterator : List StorageRecord)
  | newV4
  deriving DecidableEq

/-- An iterator is the list of records it has still to return. -/
@[reducible] def StorageOp.Answer : StorageOp → Type
  | .apply _ _ => Except StorageError Unit
  | .get _ _ => Except StorageError (Option StorageRecord)
  | .scanIter _ _ => Except StorageError (List StorageRecord)
  | .next _ => Except StorageError (Option StorageRecord)
  | .newV4 => U128

@[reducible] def storage : Signature := ⟨StorageOp, StorageOp.Answer⟩

def apply (store : Store) (batch : List StorageRecord) :
    Program storage (Except StorageError Unit) :=
  .perform (S := storage) (.apply store batch)

def get (store : Store) (key : Bytes) :
    Program storage (Except StorageError (Option StorageRecord)) :=
  .perform (S := storage) (.get store key)

def scanIter (store : Store) (range : BytesRange) :
    Program storage (Except StorageError (List StorageRecord)) :=
  .perform (S := storage) (.scanIter store range)

def nextRecord (iterator : List StorageRecord) :
    Program storage (Except StorageError (Option StorageRecord)) :=
  .perform (S := storage) (.next iterator)

def newV4 : Program storage U128 :=
  .perform (S := storage) .newV4

/-- `result.map_err(wrap)?` -/
def orThrow {S : Signature} {ε ε' α : Type} (program : Program S (Except ε α))
    (wrap : ε → ε') : ExceptT ε' (Program S) α :=
  ExceptT.mk (program.bind fun
    | .ok value => .done (.ok value)
    | .error error => .done (.error (wrap error)))

/-- `result?` -/
def ofResult {S : Signature} {ε α : Type} (result : Except ε α) :
    ExceptT ε (Program S) α :=
  ExceptT.mk (.done result)

section Run

variable {S : Signature} {ε ε' α : Type}

@[simp] theorem run_orThrow (program : Program S (Except ε α)) (wrap : ε → ε') :
    (orThrow program wrap).run = program.bind fun
      | .ok value => .done (.ok value)
      | .error error => .done (.error (wrap error)) := rfl

theorem run_bind {β : Type} (program : ExceptT ε (Program S) α)
    (next : α → ExceptT ε (Program S) β) :
    (program >>= next).run = program.run.bind fun
      | .ok value => (next value).run
      | .error error => .done (.error error) := by
  change Program.bind program.run _ = _
  congr 1

theorem run_adapt (wrap : ε → ε') (program : ExceptT ε (Program S) α) :
    (program.adapt wrap).run = program.run.bind fun result => .done (result.mapError wrap) := by
  change Program.bind _ _ = _
  congr 1

@[simp] theorem mapError_ok (wrap : ε → ε') (value : α) :
    (Except.ok value : Except ε α).mapError wrap = .ok value := rfl

@[simp] theorem mapError_error (wrap : ε → ε') (error : ε) :
    (Except.error error : Except ε α).mapError wrap = .error (wrap error) := rfl

@[simp] theorem run_ofResult (result : Except ε α) :
    (ofResult result : ExceptT ε (Program S) α).run = .done result := rfl

theorem only_run_bind {β : Type} {allowed : S.Op → Prop} {program : ExceptT ε (Program S) α}
    {next : α → ExceptT ε (Program S) β} (only : program.run.Only allowed)
    (then_ : ∀ value, (next value).run.Only allowed) :
    (program >>= next).run.Only allowed := by
  rw [run_bind]
  refine only.bind fun result => ?_
  cases result with
  | error error => trivial
  | ok value => exact then_ value

theorem only_orThrow {allowed : S.Op → Prop} {program : Program S (Except ε α)}
    (only : program.Only allowed) (wrap : ε → ε') : (orThrow program wrap).run.Only allowed :=
  only.bind fun result => by cases result <;> trivial

end Run

/-- The calls that change no store and draw no id. -/
def StorageOp.Reads : StorageOp → Prop
  | .get _ _ | .scanIter _ _ | .next _ => True
  | .apply _ _ | .newV4 => False

/-! ## The two stores

`drawn` and `journal` are history: the ids drawn and the batches written so
far, both in order. No code reads them. -/

structure Stores where
  metaStorage : Contents
  recordStorage : Contents
  drawn : List U128
  journal : List (Store × List StorageRecord)

namespace Stores

def contents (stores : Stores) : Store → Contents
  | .metaStorage => stores.metaStorage
  | .recordStorage => stores.recordStorage

def write (stores : Stores) (batch : List StorageRecord) : Store → Stores
  | .metaStorage =>
      { stores with
        metaStorage := stores.metaStorage.apply batch
        journal := stores.journal ++ [(.metaStorage, batch)] }
  | .recordStorage =>
      { stores with
        recordStorage := stores.recordStorage.apply batch
        journal := stores.journal ++ [(.recordStorage, batch)] }

def draw (stores : Stores) (id : U128) : Stores :=
  { stores with drawn := stores.drawn ++ [id] }

end Stores

/-- The answers a call can get and the stores it leaves. A batch is written in
one step or not at all, a call that fails changes nothing, and ids are never
drawn twice. `MayFail` says which calls can come back with an error. -/
def StorageOp.Answers (MayFail : StorageOp → Prop) (stores : Stores) :
    (op : StorageOp) → op.Answer → Stores → Prop
  | .apply store batch, .ok (), after => after = stores.write batch store
  | .apply store batch, .error _, after => MayFail (.apply store batch) ∧ after = stores
  | .get store key, .ok found, after =>
      found = (stores.contents store).read key ∧ after = stores
  | .get store key, .error _, after => MayFail (.get store key) ∧ after = stores
  | .scanIter store range, .ok records, after =>
      records = (stores.contents store).scanIter range ∧ after = stores
  | .scanIter store range, .error _, after =>
      MayFail (.scanIter store range) ∧ after = stores
  | .next iterator, .ok found, after => found = iterator.head? ∧ after = stores
  | .next iterator, .error _, after => MayFail (.next iterator) ∧ after = stores
  | .newV4, id, after => id ∉ stores.drawn ∧ after = stores.draw id

/-! ### Executions, call by call -/

section Executes

variable {α : Type} {MayFail : StorageOp → Prop} {stores final : Stores} {value : α}

theorem executes_apply {store : Store} {batch : List StorageRecord}
    {next : Except StorageError Unit → Program storage α} :
    Program.Executes (StorageOp.Answers MayFail) (.call (S := storage) (.apply store batch) next)
        stores value final ↔
      (next (.ok ())).Executes (StorageOp.Answers MayFail) (stores.write batch store) value final ∨
      MayFail (.apply store batch) ∧ ∃ error,
        (next (.error error)).Executes (StorageOp.Answers MayFail) stores value final := by
  constructor
  · intro executes
    rcases Program.executes_call.mp executes with ⟨answer, middle, answered, rest⟩
    cases answer with
    | ok =>
        rcases answered with rfl
        exact .inl rest
    | error error =>
        rcases answered with ⟨mayFail, rfl⟩
        exact .inr ⟨mayFail, error, rest⟩
  · rintro (rest | ⟨mayFail, error, rest⟩)
    · exact Program.executes_call.mpr ⟨.ok (), _, rfl, rest⟩
    · exact Program.executes_call.mpr ⟨.error error, _, ⟨mayFail, rfl⟩, rest⟩

theorem executes_get {store : Store} {key : Bytes}
    {next : Except StorageError (Option StorageRecord) → Program storage α} :
    Program.Executes (StorageOp.Answers MayFail) (.call (S := storage) (.get store key) next)
        stores value final ↔
      (next (.ok ((stores.contents store).read key))).Executes (StorageOp.Answers MayFail)
        stores value final ∨
      MayFail (.get store key) ∧ ∃ error,
        (next (.error error)).Executes (StorageOp.Answers MayFail) stores value final := by
  constructor
  · intro executes
    rcases Program.executes_call.mp executes with ⟨answer, middle, answered, rest⟩
    cases answer with
    | ok found =>
        rcases answered with ⟨rfl, rfl⟩
        exact .inl rest
    | error error =>
        rcases answered with ⟨mayFail, rfl⟩
        exact .inr ⟨mayFail, error, rest⟩
  · rintro (rest | ⟨mayFail, error, rest⟩)
    · exact Program.executes_call.mpr ⟨.ok _, _, ⟨rfl, rfl⟩, rest⟩
    · exact Program.executes_call.mpr ⟨.error error, _, ⟨mayFail, rfl⟩, rest⟩

theorem executes_newV4 {next : U128 → Program storage α} :
    Program.Executes (StorageOp.Answers MayFail) (.call (S := storage) .newV4 next)
        stores value final ↔
      ∃ id, id ∉ stores.drawn ∧
        (next id).Executes (StorageOp.Answers MayFail) (stores.draw id) value final := by
  constructor
  · intro executes
    rcases Program.executes_call.mp executes with ⟨answer, middle, ⟨undrawn, rfl⟩, rest⟩
    exact ⟨answer, undrawn, rest⟩
  · rintro ⟨id, undrawn, rest⟩
    exact Program.executes_call.mpr ⟨id, _, ⟨undrawn, rfl⟩, rest⟩

theorem cut_apply {store : Store} {batch : List StorageRecord}
    {next : Except StorageError Unit → Program storage α} :
    Program.Cut (StorageOp.Answers MayFail) (.call (S := storage) (.apply store batch) next)
        stores final ↔
      final = stores ∨
      (next (.ok ())).Cut (StorageOp.Answers MayFail) (stores.write batch store) final ∨
      MayFail (.apply store batch) ∧ ∃ error,
        (next (.error error)).Cut (StorageOp.Answers MayFail) stores final := by
  constructor
  · intro cut
    rcases Program.cut_call.mp cut with rfl | ⟨answer, middle, answered, rest⟩
    · exact .inl rfl
    · cases answer with
      | ok =>
          rcases answered with rfl
          exact .inr (.inl rest)
      | error error =>
          rcases answered with ⟨mayFail, rfl⟩
          exact .inr (.inr ⟨mayFail, error, rest⟩)
  · rintro (rfl | rest | ⟨mayFail, error, rest⟩)
    · exact .here _ _
    · exact Program.cut_call.mpr (.inr ⟨.ok (), _, rfl, rest⟩)
    · exact Program.cut_call.mpr (.inr ⟨.error error, _, ⟨mayFail, rfl⟩, rest⟩)

end Executes

/-- The environment in which no call fails, with the `n`-th id drawn given by `ids n`. -/
def StorageOp.handle (ids : Nat → U128) :
    (op : StorageOp) → Stores → op.Answer × Stores
  | .apply store batch, stores => (.ok (), stores.write batch store)
  | .get store key, stores => (.ok ((stores.contents store).read key), stores)
  | .scanIter store range, stores => (.ok ((stores.contents store).scanIter range), stores)
  | .next iterator, stores => (.ok iterator.head?, stores)
  | .newV4, stores => (ids stores.drawn.length, stores.draw (ids stores.drawn.length))

theorem StorageOp.Reads.handle_eq (ids : Nat → U128) (op : StorageOp) (stores : Stores)
    (reads : op.Reads) : (op.handle ids stores).2 = stores := by
  cases op with
  | apply => exact reads.elim
  | newV4 => exact reads.elim
  | get => rfl
  | scanIter => rfl
  | next => rfl

theorem StorageOp.Reads.answers_eq {MayFail : StorageOp → Prop} {op : StorageOp}
    {stores after : Stores} {answer : op.Answer} (reads : op.Reads)
    (answers : op.Answers MayFail stores answer after) : after = stores := by
  cases op with
  | apply => exact reads.elim
  | newV4 => exact reads.elim
  | _ => cases answer <;> exact answers.2

end Slatestreams
