import Mathlib.Logic.Function.Basic
import Slatestreams.Foundation.Program
import Slatestreams.Foundation.Run

/-! # Pools of tasks

Tasks take turns, one call at a time, on a shared state. A discipline says what
each task knows of the shared state, as the ghost state of a protocol, and what
its calls leave alone, so that the tasks can be followed one by one. -/

namespace Foundation

/-- A task with what it was started for. -/
structure Task (S : Signature) (ι α : Type) where
  origin : ι
  code : Program S α

structure Pool (S : Signature) (ι α σ : Type) where
  shared : σ
  tasks : Nat → Option (Task S ι α)

inductive PoolEvent (S : Signature) (ι α : Type) where
  | started (id : Nat) (origin : ι)
  | called (id : Nat) (op : S.Op) (answer : S.Answer op)
  | turned (id : Nat)
  | returned (id : Nat) (origin : ι) (value : α)
  | dropped (id : Nat)
  | moved
  | reset

/-- The task that an event is about. -/
def PoolEvent.task {S : Signature} {ι α : Type} : PoolEvent S ι α → Option Nat
  | .started id _ | .called id _ _ | .turned id | .returned id _ _ | .dropped id => some id
  | .moved | .reset => none

/-- What happens to the shared state. `Droppable` tells where a task can be dropped,
and a task whose value `resume` takes on does not return. -/
structure Environment (S : Signature) (ι α σ : Type) where
  Answers : Nat → ι → σ → (op : S.Op) → S.Answer op → σ → Prop
  Starts : σ → ι → Program S α → σ → Prop
  release : Nat → σ → σ
  resume : ι → α → Option (Program S α)
  Droppable : Program S α → Prop
  Moves : σ → σ → Prop
  Resets : σ → σ → Prop

namespace Pool

variable {S : Signature} {ι α σ γ : Type}

def set (pool : Pool S ι α σ) (id : Nat) (shared : σ) (task : Option (Task S ι α)) :
    Pool S ι α σ :=
  ⟨shared, Function.update pool.tasks id task⟩

section Set

variable (pool : Pool S ι α σ) (id : Nat) (shared : σ) (task : Option (Task S ι α))

@[simp] theorem set_shared : (pool.set id shared task).shared = shared := rfl

@[simp] theorem set_tasks_self : (pool.set id shared task).tasks id = task := by
  simp [set]

theorem set_tasks_of_ne {other : Nat} (different : other ≠ id) :
    (pool.set id shared task).tasks other = pool.tasks other := by
  simp [set, different]

theorem set_set (after : σ) (next : Option (Task S ι α)) :
    (pool.set id shared task).set id after next = pool.set id after next := by
  rw [set, set, Function.update_idem]
  rfl

end Set

inductive Step (environment : Environment S ι α σ) :
    Pool S ι α σ → PoolEvent S ι α → Pool S ι α σ → Prop where
  | started {pool : Pool S ι α σ} {id : Nat} {origin : ι} {code : Program S α} {after : σ}
      (absent : pool.tasks id = none) (starts : environment.Starts pool.shared origin code after) :
      Step environment pool (.started id origin) (pool.set id after (some ⟨origin, code⟩))
  | called {pool : Pool S ι α σ} {id : Nat} {origin : ι} {op : S.Op} {answer : S.Answer op}
      {next : S.Answer op → Program S α} {after : σ}
      (running : pool.tasks id = some ⟨origin, .call op next⟩)
      (answers : environment.Answers id origin pool.shared op answer after) :
      Step environment pool (.called id op answer)
        (pool.set id after (some ⟨origin, next answer⟩))
  | turned {pool : Pool S ι α σ} {id : Nat} {origin : ι} {value : α} {code : Program S α}
      (running : pool.tasks id = some ⟨origin, .done value⟩)
      (resumes : environment.resume origin value = some code) :
      Step environment pool (.turned id) (pool.set id pool.shared (some ⟨origin, code⟩))
  | returned {pool : Pool S ι α σ} {id : Nat} {origin : ι} {value : α}
      (running : pool.tasks id = some ⟨origin, .done value⟩)
      (ends : environment.resume origin value = none) :
      Step environment pool (.returned id origin value)
        (pool.set id (environment.release id pool.shared) none)
  | dropped {pool : Pool S ι α σ} {id : Nat} {origin : ι} {code : Program S α}
      (running : pool.tasks id = some ⟨origin, code⟩) (droppable : environment.Droppable code) :
      Step environment pool (.dropped id) (pool.set id (environment.release id pool.shared) none)
  | moved {pool : Pool S ι α σ} {after : σ} (moves : environment.Moves pool.shared after) :
      Step environment pool .moved { pool with shared := after }
  | reset {pool : Pool S ι α σ} {after : σ} (resets : environment.Resets pool.shared after) :
      Step environment pool .reset ⟨after, fun _ => none⟩

namespace Step

variable {environment : Environment S ι α σ} {pool : Pool S ι α σ} {id : Nat} {origin : ι}
  {shared after : σ}

/-- A call of a task that has just been set. -/
theorem called_set {op : S.Op} {next : S.Answer op → Program S α} (answer : S.Answer op)
    (answers : environment.Answers id origin shared op answer after) :
    Step environment (pool.set id shared (some ⟨origin, .call op next⟩)) (.called id op answer)
      (pool.set id after (some ⟨origin, next answer⟩)) := by
  have running := pool.set_tasks_self id shared (some ⟨origin, .call op next⟩)
  have step : Step environment _ _ _ := .called running answers
  rwa [set_set] at step

theorem returned_set {value : α} (ends : environment.resume origin value = none) :
    Step environment (pool.set id shared (some ⟨origin, .done value⟩)) (.returned id origin value)
      (pool.set id (environment.release id shared) none) := by
  have running := pool.set_tasks_self id shared (some ⟨origin, .done value⟩)
  have step : Step environment _ _ _ := .returned running ends
  rwa [set_set] at step

end Step

end Pool

/-! ## Disciplines -/

/-- What has happened so far, and the shared state it has led to. -/
structure History (S : Signature) (ι α σ : Type) where
  past : List (PoolEvent S ι α)
  shared : σ

namespace History

variable {S : Signature} {ι α σ : Type}

def next (history : History S ι α σ) (event : PoolEvent S ι α) (shared : σ) :
    History S ι α σ :=
  ⟨history.past ++ [event], shared⟩

@[simp] theorem next_past (history : History S ι α σ) (event : PoolEvent S ι α) (shared : σ) :
    (history.next event shared).past = history.past ++ [event] := rfl

@[simp] theorem next_shared (history : History S ι α σ) (event : PoolEvent S ι α) (shared : σ) :
    (history.next event shared).shared = shared := rfl

end History

/-- `Knows` is what a task in a ghost state relies on, `Idle` that there is nothing left of
a task, and `Changes` what a step of a task may do to the rest. -/
structure Discipline (S : Signature) (ι α σ γ : Type) where
  protocol : ι → Program.Protocol S γ
  post : ι → γ → α → Prop
  Holds : History S ι α σ → Prop
  Knows : Nat → ι → γ → History S ι α σ → Prop
  Idle : Nat → History S ι α σ → Prop
  Changes : Nat → History S ι α σ → History S ι α σ → Prop

namespace Discipline

variable {S : Signature} {ι α σ γ : Type} {discipline : Discipline S ι α σ γ}
  {environment : Environment S ι α σ}

/-- What a step of a task does to the rest keeps what the other tasks rely on. -/
structure Undisturbed (discipline : Discipline S ι α σ γ) (id : Nat)
    (history after : History S ι α σ) : Prop where
  holds : discipline.Holds after
  changes : discipline.Changes id history after

/-- Each kind of step keeps the discipline, as long as the events are as `Within` says. -/
structure Keeps (discipline : Discipline S ι α σ γ) (environment : Environment S ι α σ)
    (Within : List (PoolEvent S ι α) → Prop) : Prop where
  known {id other : Nat} {origin : ι} {ghost : γ} {history after : History S ι α σ} :
    other ≠ id → discipline.Holds history → discipline.Changes id history after →
      discipline.Knows other origin ghost history → discipline.Knows other origin ghost after
  idle {id other : Nat} {history after : History S ι α σ} : other ≠ id →
    discipline.Changes id history after → discipline.Idle other history →
      discipline.Idle other after
  started {id : Nat} {origin : ι} {code : Program S α} {history : History S ι α σ} {after : σ} :
    Within (history.past ++ [.started id origin]) → discipline.Holds history →
      discipline.Idle id history → environment.Starts history.shared origin code after →
      discipline.Undisturbed id history (history.next (.started id origin) after) ∧
        ∃ ghost, discipline.Knows id origin ghost (history.next (.started id origin) after) ∧
          code.Meets (discipline.protocol origin) (discipline.post origin) ghost
  called {id : Nat} {origin : ι} {ghost : γ} {history : History S ι α σ} {after : σ} {op : S.Op}
      {answer : S.Answer op} :
    Within (history.past ++ [.called id op answer]) → discipline.Holds history →
      discipline.Knows id origin ghost history → (discipline.protocol origin).Allowed ghost op →
      environment.Answers id origin history.shared op answer after →
      (discipline.protocol origin).Possible ghost op answer ∧
        discipline.Undisturbed id history (history.next (.called id op answer) after) ∧
        discipline.Knows id origin ((discipline.protocol origin).learn ghost op answer)
          (history.next (.called id op answer) after)
  turned {id : Nat} {origin : ι} {ghost : γ} {history : History S ι α σ} {value : α}
      {code : Program S α} :
    Within (history.past ++ [.turned id]) → discipline.Holds history →
      discipline.Knows id origin ghost history → discipline.post origin ghost value →
      environment.resume origin value = some code →
      discipline.Undisturbed id history (history.next (.turned id) history.shared) ∧
        discipline.Knows id origin ghost (history.next (.turned id) history.shared) ∧
        code.Meets (discipline.protocol origin) (discipline.post origin) ghost
  returned {id : Nat} {origin : ι} {ghost : γ} {history : History S ι α σ} {value : α} :
    let after := history.next (.returned id origin value) (environment.release id history.shared)
    Within (history.past ++ [.returned id origin value]) → discipline.Holds history →
      discipline.Knows id origin ghost history → discipline.post origin ghost value →
      environment.resume origin value = none →
      discipline.Undisturbed id history after ∧ discipline.Idle id after
  dropped {id : Nat} {origin : ι} {ghost : γ} {history : History S ι α σ} {code : Program S α} :
    let after := history.next (.dropped id) (environment.release id history.shared)
    Within (history.past ++ [.dropped id]) → discipline.Holds history →
      discipline.Knows id origin ghost history →
      code.Meets (discipline.protocol origin) (discipline.post origin) ghost →
      environment.Droppable code →
      discipline.Undisturbed id history after ∧ discipline.Idle id after
  moved {history : History S ι α σ} {after : σ} : Within (history.past ++ [.moved]) →
    discipline.Holds history → environment.Moves history.shared after →
      ∀ id, discipline.Undisturbed id history (history.next .moved after)
  reset {history : History S ι α σ} {after : σ} : Within (history.past ++ [.reset]) →
    discipline.Holds history → environment.Resets history.shared after →
      discipline.Holds (history.next .reset after) ∧
        ∀ id, discipline.Idle id (history.next .reset after)

/-- A task stands where its protocol says, and knows what it relies on. -/
def Follows (discipline : Discipline S ι α σ γ) (id : Nat) (task : Task S ι α)
    (history : History S ι α σ) : Prop :=
  ∃ ghost, discipline.Knows id task.origin ghost history ∧
    task.code.Meets (discipline.protocol task.origin) (discipline.post task.origin) ghost

structure Orderly (discipline : Discipline S ι α σ γ) (past : List (PoolEvent S ι α))
    (pool : Pool S ι α σ) : Prop where
  holds : discipline.Holds ⟨past, pool.shared⟩
  follows {id : Nat} {task : Task S ι α} : pool.tasks id = some task →
    discipline.Follows id task ⟨past, pool.shared⟩
  idle {id : Nat} : pool.tasks id = none → discipline.Idle id ⟨past, pool.shared⟩

namespace Orderly

variable {Within : List (PoolEvent S ι α) → Prop} {past : List (PoolEvent S ι α)}
  {pool after : Pool S ι α σ} {event : PoolEvent S ι α}

/-- One task has moved on, and the others rely on nothing it has changed. -/
theorem set (keeps : discipline.Keeps environment Within) (orderly : discipline.Orderly past pool)
    {id : Nat} {shared : σ} {task : Option (Task S ι α)}
    (undisturbed : discipline.Undisturbed id ⟨past, pool.shared⟩ ⟨past ++ [event], shared⟩)
    (follows : ∀ running, task = some running →
      discipline.Follows id running ⟨past ++ [event], shared⟩)
    (idle : task = none → discipline.Idle id ⟨past ++ [event], shared⟩) :
    discipline.Orderly (past ++ [event]) (pool.set id shared task) where
  holds := undisturbed.holds
  follows {other running} found := by
    by_cases same : other = id
    · subst same
      rw [Pool.set_tasks_self] at found
      exact follows running found
    · rw [Pool.set_tasks_of_ne _ _ _ _ same] at found
      rcases orderly.follows found with ⟨ghost, knows, meets⟩
      exact ⟨ghost, keeps.known same orderly.holds undisturbed.changes knows, meets⟩
  idle {other} absent := by
    by_cases same : other = id
    · subst same
      rw [Pool.set_tasks_self] at absent
      exact idle absent
    · rw [Pool.set_tasks_of_ne _ _ _ _ same] at absent
      exact keeps.idle same undisturbed.changes (orderly.idle absent)

theorem step (keeps : discipline.Keeps environment Within) (orderly : discipline.Orderly past pool)
    (within : Within (past ++ [event])) (taken : Pool.Step environment pool event after) :
    discipline.Orderly (past ++ [event]) after := by
  cases taken with
  | started absent starts =>
      rcases keeps.started within orderly.holds (orderly.idle absent) starts with
        ⟨undisturbed, follows⟩
      exact orderly.set keeps undisturbed
        (fun running equal => Option.some.inj equal ▸ follows) nofun
  | called running answers =>
      rcases orderly.follows running with ⟨ghost, knows, allowed, meets⟩
      rcases keeps.called within orderly.holds knows allowed answers with
        ⟨possible, undisturbed, next⟩
      exact orderly.set keeps undisturbed
        (fun running equal => Option.some.inj equal ▸ ⟨_, next, meets _ possible⟩) nofun
  | turned running resumes =>
      rcases orderly.follows running with ⟨ghost, knows, post⟩
      rcases keeps.turned within orderly.holds knows post resumes with ⟨undisturbed, next, meets⟩
      exact orderly.set keeps undisturbed
        (fun running equal => Option.some.inj equal ▸ ⟨ghost, next, meets⟩) nofun
  | returned running ends =>
      rcases orderly.follows running with ⟨ghost, knows, post⟩
      rcases keeps.returned within orderly.holds knows post ends with ⟨undisturbed, idle⟩
      exact orderly.set keeps undisturbed nofun fun _ => idle
  | dropped running droppable =>
      rcases orderly.follows running with ⟨ghost, knows, meets⟩
      rcases keeps.dropped within orderly.holds knows meets droppable with ⟨undisturbed, idle⟩
      exact orderly.set keeps undisturbed nofun fun _ => idle
  | moved moves =>
      have undisturbed := keeps.moved within orderly.holds moves
      refine ⟨(undisturbed 0).holds, fun {id task} found => ?_, fun {id} absent => ?_⟩
      · rcases orderly.follows found with ⟨ghost, knows, meets⟩
        exact ⟨ghost, keeps.known (Nat.ne_of_lt (Nat.lt_succ_self id)) orderly.holds
          (undisturbed _).changes knows, meets⟩
      · exact keeps.idle (Nat.ne_of_lt (Nat.lt_succ_self id)) (undisturbed _).changes
          (orderly.idle absent)
  | reset resets =>
      rcases keeps.reset within orderly.holds resets with ⟨holds, idle⟩
      exact ⟨holds, fun found => (nomatch found), fun _ => idle _⟩

/-- What every run of an orderly pool keeps. -/
theorem run (keeps : discipline.Keeps environment Within)
    (earlier : ∀ {past event}, Within (past ++ [event]) → Within past) {first last : Pool S ι α σ}
    {events : List (PoolEvent S ι α)} (run : Run (Pool.Step environment) first events last)
    (initially : discipline.Orderly past first) (within : Within (past ++ events)) :
    discipline.Orderly (past ++ events) last := by
  induction run with
  | nil => simpa using initially
  | snoc _ taken induction =>
      rw [← List.append_assoc] at within ⊢
      exact (induction (earlier within)).step keeps within taken

/-- A step changes the rest as one of the tasks may, unless it is a reset. -/
theorem changes (keeps : discipline.Keeps environment Within)
    (orderly : discipline.Orderly past pool) (within : Within (past ++ [event]))
    (taken : Pool.Step environment pool event after) :
    (∃ id, discipline.Changes id ⟨past, pool.shared⟩ ⟨past ++ [event], after.shared⟩) ∨
      environment.Resets pool.shared after.shared := by
  cases taken with
  | started absent starts =>
      exact .inl ⟨_, (keeps.started within orderly.holds (orderly.idle absent) starts).1.changes⟩
  | called running answers =>
      rcases orderly.follows running with ⟨ghost, knows, allowed, _⟩
      exact .inl ⟨_, (keeps.called within orderly.holds knows allowed answers).2.1.changes⟩
  | turned running resumes =>
      rcases orderly.follows running with ⟨ghost, knows, post⟩
      exact .inl ⟨_, (keeps.turned within orderly.holds knows post resumes).1.changes⟩
  | returned running ends =>
      rcases orderly.follows running with ⟨ghost, knows, post⟩
      exact .inl ⟨_, (keeps.returned within orderly.holds knows post ends).1.changes⟩
  | dropped running droppable =>
      rcases orderly.follows running with ⟨ghost, knows, meets⟩
      exact .inl ⟨_, (keeps.dropped within orderly.holds knows meets droppable).1.changes⟩
  | moved moves => exact .inl ⟨0, (keeps.moved within orderly.holds moves 0).changes⟩
  | reset resets => exact .inr resets

/-- What no task changes, and no reset, stays as it is over a run. -/
theorem kept (keeps : discipline.Keeps environment Within)
    (earlier : ∀ {past event}, Within (past ++ [event]) → Within past) (Kept : σ → Prop)
    (changes : ∀ {id : Nat} {history after : History S ι α σ},
      discipline.Changes id history after → Kept history.shared → Kept after.shared)
    (resets : ∀ {shared after : σ}, environment.Resets shared after → Kept shared → Kept after)
    {first last : Pool S ι α σ} {events : List (PoolEvent S ι α)}
    (run : Run (Pool.Step environment) first events last)
    (initially : discipline.Orderly past first) (within : Within (past ++ events))
    (kept : Kept first.shared) : Kept last.shared := by
  induction run with
  | nil => exact kept
  | snoc run taken induction =>
      rw [← List.append_assoc] at within
      have orderly := initially.run keeps earlier run (earlier within)
      rcases orderly.changes keeps within taken with ⟨id, changed⟩ | reset
      · exact changes changed (induction (earlier within))
      · exact resets reset (induction (earlier within))

end Orderly

end Discipline

end Foundation
