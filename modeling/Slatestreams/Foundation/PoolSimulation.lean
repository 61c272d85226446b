import Slatestreams.Foundation.Pool

/-! # Pools over different states

The same programs run in two environments. Where every step of the one can be made in
the other, so can every run, with the same events. -/

namespace Foundation

namespace Environment

variable {S : Signature} {ι α σ τ : Type}

/-- The steps in the first environment, from calls that `Asks` lets through to states that
have `Room`, can be made in the second. -/
structure Simulates (concrete : Environment S ι α σ) (abstract : Environment S ι α τ)
    (Alike : σ → τ → Prop) (Asks : S.Op → Prop) (Room : σ → Prop) : Prop where
  answers {id : Nat} {origin : ι} {left after : σ} {right : τ} {op : S.Op} {answer : S.Answer op} :
    Alike left right → Asks op → Room after →
      concrete.Answers id origin left op answer after →
      ∃ next, abstract.Answers id origin right op answer next ∧ Alike after next
  starts {origin : ι} {code : Program S α} {left after : σ} {right : τ} :
    Alike left right → concrete.Starts left origin code after →
      code.Only Asks ∧ ∃ next, abstract.Starts right origin code next ∧ Alike after next
  release (id : Nat) {left : σ} {right : τ} : Alike left right →
    Alike (concrete.release id left) (abstract.release id right)
  resume : concrete.resume = abstract.resume
  resumes {origin : ι} {value : α} {code : Program S α} :
    concrete.resume origin value = some code → code.Only Asks
  droppable {code : Program S α} : concrete.Droppable code → abstract.Droppable code
  moves {left after : σ} {right : τ} : Alike left right → Room after →
    concrete.Moves left after → ∃ next, abstract.Moves right next ∧ Alike after next
  resets {left after : σ} {right : τ} : Alike left right → concrete.Resets left after →
    ∃ next, abstract.Resets right next ∧ Alike after next

end Environment

namespace Pool

variable {S : Signature} {ι α σ τ : Type}

/-- The pools have the same tasks, and states that are related. -/
structure Related (Alike : σ → τ → Prop) (Asks : S.Op → Prop) (left : Pool S ι α σ)
    (right : Pool S ι α τ) : Prop where
  shared : Alike left.shared right.shared
  tasks : left.tasks = right.tasks
  asks {id : Nat} {task : Task S ι α} : left.tasks id = some task → task.code.Only Asks

variable {concrete : Environment S ι α σ} {abstract : Environment S ι α τ}
  {Alike : σ → τ → Prop} {Asks : S.Op → Prop} {Room : σ → Prop}

namespace Related

theorem set {left : Pool S ι α σ} {right : Pool S ι α τ} (related : left.Related Alike Asks right)
    (id : Nat) {after : σ} {next : τ} (alike : Alike after next) {task : Option (Task S ι α)}
    (asks : ∀ running, task = some running → running.code.Only Asks) :
    (left.set id after task).Related Alike Asks (right.set id next task) where
  shared := alike
  tasks := by simp only [Pool.set, related.tasks]
  asks {other running} found := by
    by_cases same : other = id
    · subst same
      rw [set_tasks_self] at found
      exact asks running found
    · rw [set_tasks_of_ne _ _ _ _ same] at found
      exact related.asks found

/-- A step of the first pool can be made in the second. -/
theorem step (simulates : concrete.Simulates abstract Alike Asks Room)
    {left after : Pool S ι α σ} {right : Pool S ι α τ} {event : PoolEvent S ι α}
    (related : left.Related Alike Asks right) (room : Room after.shared)
    (taken : Step concrete left event after) :
    ∃ next, Step abstract right event next ∧ after.Related Alike Asks next := by
  have alike := related.shared
  cases taken with
  | started absent starts =>
      rcases simulates.starts alike starts with ⟨only, next, starts, alike⟩
      refine ⟨right.set _ next _, .started (related.tasks ▸ absent) starts, related.set _ alike ?_⟩
      intro running equal
      cases equal
      exact only
  | called running answers =>
      have only := related.asks running
      rcases simulates.answers alike only.1 room answers with ⟨next, answers, alike⟩
      refine ⟨right.set _ next _, .called (related.tasks ▸ running) answers,
        related.set _ alike ?_⟩
      intro running equal
      cases equal
      exact only.2 _
  | turned running resumes =>
      have only := simulates.resumes resumes
      rw [simulates.resume] at resumes
      refine ⟨right.set _ right.shared _, .turned (related.tasks ▸ running) resumes,
        related.set _ alike ?_⟩
      intro running equal
      cases equal
      exact only
  | returned running ends =>
      rw [simulates.resume] at ends
      exact ⟨right.set _ _ _, .returned (related.tasks ▸ running) ends,
        related.set _ (simulates.release _ alike) nofun⟩
  | dropped running droppable =>
      exact ⟨right.set _ _ _,
        .dropped (related.tasks ▸ running) (simulates.droppable droppable),
        related.set _ (simulates.release _ alike) nofun⟩
  | moved moves =>
      rcases simulates.moves alike room moves with ⟨next, moves, alike⟩
      exact ⟨⟨next, right.tasks⟩, .moved moves, alike, related.tasks, related.asks⟩
  | reset resets =>
      rcases simulates.resets alike resets with ⟨next, resets, alike⟩
      exact ⟨⟨next, fun _ => none⟩, .reset resets, alike, rfl, nofun⟩

/-- A run of the first pool that ends with room can be made in the second. -/
theorem run (simulates : concrete.Simulates abstract Alike Asks Room)
    (earlier : ∀ {pool after : Pool S ι α σ} {event : PoolEvent S ι α},
      Step concrete pool event after → Room after.shared → Room pool.shared)
    {first last : Pool S ι α σ} {start : Pool S ι α τ} {events : List (PoolEvent S ι α)}
    (related : first.Related Alike Asks start) (run : Run (Step concrete) first events last)
    (room : Room last.shared) :
    ∃ final, Run (Step abstract) start events final ∧ last.Related Alike Asks final := by
  induction run with
  | nil => exact ⟨start, .nil, related⟩
  | snoc _ taken induction =>
      rcases induction (earlier taken room) with ⟨middle, run, related⟩
      rcases related.step simulates room taken with ⟨final, taken, related⟩
      exact ⟨final, run.snoc taken, related⟩

end Related

end Pool

end Foundation
