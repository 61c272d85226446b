import Slatestreams.Foundation.Pool

/-! # Following one task of a pool

What a run does with the code of its tasks, and where one task stands while the
others move. -/

namespace Foundation

/-! ## Programs with a budget -/

namespace Program

variable {S : Signature} {α β : Type} {cost : S.Op → Option Nat}

/-- A program that makes only calls that have a cost, of no more than the budget together. -/
def Costs (cost : S.Op → Option Nat) : Nat → Program S α → Prop
  | _, done _ => True
  | _, panic _ => True
  | budget, call op next =>
      ∃ price rest, cost op = some price ∧ budget = price + rest ∧
        ∀ answer, (next answer).Costs cost rest

theorem Costs.mono {budget more : Nat} {program : Program S α} (le : budget ≤ more)
    (costs : program.Costs cost budget) : program.Costs cost more := by
  induction program generalizing budget more with
  | done value => trivial
  | panic message => trivial
  | call op next induction =>
      rcases costs with ⟨price, rest, is, rfl, costs⟩
      refine ⟨price, more - price, is, by omega, ?_⟩
      intro answer
      exact induction answer (by omega) (costs answer)

theorem Costs.bind (budget later : Nat) {program : Program S α} {next : α → Program S β}
    (costs : program.Costs cost budget) (then_ : ∀ value, (next value).Costs cost later) :
    (program.bind next).Costs cost (budget + later) := by
  induction program generalizing budget with
  | done value => exact (then_ value).mono (Nat.le_add_left _ _)
  | panic message => trivial
  | call op continue_ induction =>
      rcases costs with ⟨price, rest, is, rfl, costs⟩
      refine ⟨price, rest + later, is, Nat.add_assoc _ _ _, ?_⟩
      intro answer
      exact induction answer rest (costs answer)

theorem Only.costs {program : Program S α} (only : program.Only fun op => cost op = some 0) :
    program.Costs cost 0 := by
  induction program with
  | done value => trivial
  | panic message => trivial
  | call op next induction =>
      exact ⟨0, 0, only.1, rfl, fun answer => induction answer (only.2 answer)⟩

end Program

/-! ## Programs and their answers -/

namespace Program

variable {S : Signature} {α β : Type} {sees : (op : S.Op) → S.Answer op → Prop}

/-- Whatever answers of the kind that `sees` describes the calls get, what the program
returns is as `post` says. -/
def Yields (sees : (op : S.Op) → S.Answer op → Prop) (post : α → Prop) : Program S α → Prop
  | done value => post value
  | panic _ => True
  | call op next => ∀ answer, sees op answer → (next answer).Yields sees post

theorem Yields.weaken {post weaker : α → Prop} {program : Program S α}
    (yields : program.Yields sees post) (implies : ∀ value, post value → weaker value) :
    program.Yields sees weaker := by
  induction program with
  | done value => exact implies value yields
  | panic message => trivial
  | call op next induction => exact fun answer seen => induction answer (yields answer seen)

theorem Yields.always {post : α → Prop} (always : ∀ value, post value) (program : Program S α) :
    program.Yields sees post := by
  induction program with
  | done value => exact always value
  | panic message => trivial
  | call op next induction => exact fun answer _ => induction answer

theorem Yields.bind {post : α → Prop} {after : β → Prop} {program : Program S α}
    {next : α → Program S β} (yields : program.Yields sees post)
    (then_ : ∀ value, post value → (next value).Yields sees after) :
    (program.bind next).Yields sees after := by
  induction program with
  | done value => exact then_ value yields
  | panic message => trivial
  | call op continue_ induction => exact fun answer seen => induction answer (yields answer seen)

end Program

/-! ## Codes -/

variable {S : Signature} {ι α σ γ : Type}

/-- What the code of a task has when it starts or takes another turn, and keeps over a call, it
has in every run. -/
theorem Pool.run_codes {environment : Environment S ι α σ} {Has : ι → Program S α → Prop}
    (starts : ∀ {shared : σ} {origin : ι} {code : Program S α} {after : σ},
      environment.Starts shared origin code after → Has origin code)
    (resumes : ∀ {origin : ι} {value : α} {code : Program S α},
      environment.resume origin value = some code → Has origin code)
    (calls : ∀ {origin : ι} {op : S.Op} {next : S.Answer op → Program S α},
      Has origin (.call op next) → ∀ answer, Has origin (next answer))
    {first last : Pool S ι α σ} {events : List (PoolEvent S ι α)}
    (run : Run (Pool.Step environment) first events last)
    (initially : ∀ id task, first.tasks id = some task → Has task.origin task.code) :
    ∀ id task, last.tasks id = some task → Has task.origin task.code := by
  have moved {pool : Pool S ι α σ} {id : Nat} {shared : σ} {next : Option (Task S ι α)}
      (earlier : ∀ id task, pool.tasks id = some task → Has task.origin task.code)
      (now : ∀ task, next = some task → Has task.origin task.code) :
      ∀ other task, (pool.set id shared next).tasks other = some task →
        Has task.origin task.code := by
    intro other task found
    by_cases same : other = id
    · subst same
      rw [Pool.set_tasks_self] at found
      exact now task found
    · rw [Pool.set_tasks_of_ne _ _ _ _ same] at found
      exact earlier other task found
  induction run with
  | nil => exact initially
  | snoc _ taken earlier =>
      cases taken with
      | started absent starting =>
          apply moved earlier
          intro task now
          cases now
          exact starts starting
      | called running answers =>
          apply moved earlier
          intro task now
          cases now
          exact calls (earlier _ _ running) _
      | turned running resuming =>
          apply moved earlier
          intro task now
          cases now
          exact resumes resuming
      | returned running ends => exact moved earlier nofun
      | dropped running droppable => exact moved earlier nofun
      | moved moves => exact earlier
      | reset resets => exact nofun

/-! ## Tasks that come and go -/

namespace Pool

variable {environment : Environment S ι α σ} {first last : Pool S ι α σ}
  {events : List (PoolEvent S ι α)}

/-- A task that there is now was there before, for the same purpose, or has started. -/
theorem Step.origin {event : PoolEvent S ι α} (taken : Step environment first event last)
    {id : Nat} {task : Task S ι α} (found : last.tasks id = some task) :
    (∃ earlier, first.tasks id = some earlier ∧ earlier.origin = task.origin) ∨
      event = .started id task.origin := by
  have either {other : Nat} {shared : σ} {next : Option (Task S ι α)}
      (found : (first.set other shared next).tasks id = some task) :
      id = other ∧ next = some task ∨ first.tasks id = some task := by
    by_cases same : id = other
    · subst same
      rw [set_tasks_self] at found
      exact .inl ⟨rfl, found⟩
    · rw [set_tasks_of_ne _ _ _ _ same] at found
      exact .inr found
  cases taken with
  | started absent starts =>
      rcases either found with ⟨rfl, now⟩ | earlier
      · cases now
        exact .inr rfl
      · exact .inl ⟨task, earlier, rfl⟩
  | called running answers =>
      rcases either found with ⟨rfl, now⟩ | earlier
      · cases now
        exact .inl ⟨_, running, rfl⟩
      · exact .inl ⟨task, earlier, rfl⟩
  | turned running resumes =>
      rcases either found with ⟨rfl, now⟩ | earlier
      · cases now
        exact .inl ⟨_, running, rfl⟩
      · exact .inl ⟨task, earlier, rfl⟩
  | returned running ends =>
      rcases either found with ⟨_, now⟩ | earlier
      · cases now
      · exact .inl ⟨task, earlier, rfl⟩
  | dropped running droppable =>
      rcases either found with ⟨_, now⟩ | earlier
      · cases now
      · exact .inl ⟨task, earlier, rfl⟩
  | moved moves => exact .inl ⟨task, found, rfl⟩
  | reset resets => cases found

theorem run_origin (run : Run (Step environment) first events last) {id : Nat}
    {task : Task S ι α} (found : last.tasks id = some task) :
    (∃ earlier, first.tasks id = some earlier ∧ earlier.origin = task.origin) ∨
      .started id task.origin ∈ events := by
  induction run generalizing task with
  | nil => exact .inl ⟨task, found, rfl⟩
  | snoc run taken induction =>
      rcases taken.origin found with ⟨earlier, running, same⟩ | rfl
      · rw [← same]
        exact (induction running).imp_right fun started => List.mem_append_left _ started
      · exact .inr (List.mem_append_right _ List.mem_cons_self)

/-- A task that has gone has returned, or was dropped, or went in a reset. -/
theorem run_gone (run : Run (Step environment) first events last) {id : Nat} {task : Task S ι α}
    (running : first.tasks id = some task) (unstarted : ∀ origin, .started id origin ∉ events)
    (gone : last.tasks id = none) :
    (∃ value, .returned id task.origin value ∈ events) ∨ .dropped id ∈ events ∨
      .reset ∈ events := by
  induction run with
  | nil =>
      rw [running] at gone
      cases gone
  | @snoc middle last events event run taken induction =>
      have earlier := induction fun origin member => unstarted origin (List.mem_append_left _ member)
      have sooner (ended : middle.tasks id = none) :
          (∃ value, .returned id task.origin value ∈ events ++ [event]) ∨
            .dropped id ∈ events ++ [event] ∨ .reset ∈ events ++ [event] := by
        rcases earlier ended with ⟨value, member⟩ | member | member
        · exact .inl ⟨value, List.mem_append_left _ member⟩
        · exact .inr (.inl (List.mem_append_left _ member))
        · exact .inr (.inr (List.mem_append_left _ member))
      cases before : middle.tasks id with
      | none => exact sooner before
      | some now =>
          have origin : now.origin = task.origin := by
            rcases run_origin run before with ⟨_, found, same⟩ | started
            · rw [running] at found
              cases found
              exact same.symm
            · exact absurd (List.mem_append_left _ started) (unstarted _)
          have last : event ∈ events ++ [event] := List.mem_append_right _ List.mem_cons_self
          have about {other : Nat} {shared : σ} {next : Option (Task S ι α)}
              (gone : (middle.set other shared next).tasks id = none) :
              id = other ∧ next = none := by
            by_cases same : id = other
            · subst same
              rw [set_tasks_self] at gone
              exact ⟨rfl, gone⟩
            · rw [set_tasks_of_ne _ _ _ _ same, before] at gone
              cases gone
          cases taken with
          | started absent starts => cases (about gone).2
          | called found answers => cases (about gone).2
          | turned found resumes => cases (about gone).2
          | returned found ends =>
              rcases about gone with ⟨rfl, _⟩
              rw [before] at found
              cases found
              rw [← origin]
              exact .inl ⟨_, last⟩
          | dropped found droppable =>
              rcases about gone with ⟨rfl, _⟩
              exact .inr (.inl last)
          | moved moves =>
              rw [show middle.tasks id = none from gone] at before
              cases before
          | reset resets => exact .inr (.inr last)

/-- A task that starts during a run returns what its answers lead to. -/
theorem run_yields {sees : ι → (op : S.Op) → S.Answer op → Prop} {post : ι → α → Prop}
    (starts : ∀ {shared : σ} {origin : ι} {code : Program S α} {after : σ},
      environment.Starts shared origin code after → code.Yields (sees origin) (post origin))
    (resumes : ∀ {origin : ι} {value : α} {code : Program S α},
      environment.resume origin value = some code → code.Yields (sees origin) (post origin))
    (calls : ∀ {pool after : Pool S ι α σ} {id : Nat} {origin : ι} {op : S.Op}
      {answer : S.Answer op} {next : S.Answer op → Program S α}
      {earlier later : List (PoolEvent S ι α)},
      Run (Step environment) first earlier pool →
        Step environment pool (.called id op answer) after →
          Run (Step environment) after later last →
            pool.tasks id = some ⟨origin, .call op next⟩ → sees origin op answer)
    (run : Run (Step environment) first events last) {id : Nat} {origin : ι} {value : α}
    (absent : first.tasks id = none) (returned : .returned id origin value ∈ events) :
    post origin value := by
  let Yielding : Pool S ι α σ → Prop := fun pool =>
    ∀ id task, first.tasks id = none → pool.tasks id = some task →
      task.code.Yields (sees task.origin) (post task.origin)
  have moved {pool : Pool S ι α σ} {id : Nat} {shared : σ} {next : Option (Task S ι α)}
      (earlier : Yielding pool)
      (now : ∀ task, first.tasks id = none → next = some task →
        task.code.Yields (sees task.origin) (post task.origin)) :
      Yielding (pool.set id shared next) := by
    intro other task new found
    by_cases same : other = id
    · subst same
      rw [set_tasks_self] at found
      exact now task new found
    · rw [set_tasks_of_ne _ _ _ _ same] at found
      exact earlier other task new found
  rcases run.of_mem returned with ⟨pool, after, earlier, later, before, taken, rest⟩
  have yielding : Yielding pool := by
    have onwards := (Run.single taken).trans rest
    refine @Run.between _ _ _ Yielding first last ?_ ?_ _ _ _ before onwards
    · intro pool after event earlier later run taken rest holds
      have step := taken
      cases taken with
      | started absent starting =>
          apply moved holds
          intro task _ now
          cases now
          exact starts starting
      | called running answers =>
          apply moved holds
          intro task new now
          cases now
          exact holds _ _ new running _ (calls run step rest running)
      | turned running resuming =>
          apply moved holds
          intro task _ now
          cases now
          exact resumes resuming
      | returned running ends => exact moved holds nofun
      | dropped running droppable => exact moved holds nofun
      | moved moves => exact holds
      | reset resets => exact nofun
    · intro id task new found
      rw [new] at found
      cases found
  cases taken with
  | returned running ends => exact yielding _ _ absent running

end Pool

/-! ## One task -/

namespace Discipline

variable {discipline : Discipline S ι α σ γ} {environment : Environment S ι α σ}
  {Within : List (PoolEvent S ι α) → Prop}

/-- A task of an orderly pool, with what it knows. -/
structure Stands (discipline : Discipline S ι α σ γ) (past : List (PoolEvent S ι α))
    (pool : Pool S ι α σ) (id : Nat) (origin : ι) (code : Program S α) (ghost : γ) : Prop where
  orderly : discipline.Orderly past pool
  running : pool.tasks id = some ⟨origin, code⟩
  knows : discipline.Knows id origin ghost ⟨past, pool.shared⟩
  meets : code.Meets (discipline.protocol origin) (discipline.post origin) ghost

variable {past : List (PoolEvent S ι α)} {pool after : Pool S ι α σ} {id : Nat} {origin : ι}
  {code : Program S α} {ghost : γ} {event : PoolEvent S ι α}

theorem Orderly.stands (orderly : discipline.Orderly past pool)
    (running : pool.tasks id = some ⟨origin, code⟩) :
    ∃ ghost, discipline.Stands past pool id origin code ghost := by
  rcases orderly.follows running with ⟨ghost, knows, meets⟩
  exact ⟨ghost, orderly, running, knows, meets⟩

namespace Stands

/-- The task makes its call, and learns from the answer. -/
theorem called {op : S.Op} {answer : S.Answer op} {next : S.Answer op → Program S α} {shared : σ}
    (stands : discipline.Stands past pool id origin (.call op next) ghost)
    (keeps : discipline.Keeps environment Within)
    (within : Within (past ++ [.called id op answer]))
    (answers : environment.Answers id origin pool.shared op answer shared) :
    discipline.Stands (past ++ [.called id op answer])
      (pool.set id shared (some ⟨origin, next answer⟩)) id origin (next answer)
      ((discipline.protocol origin).learn ghost op answer) := by
  rcases keeps.called within stands.orderly.holds stands.knows stands.meets.1 answers with
    ⟨possible, _, knows⟩
  exact
    { orderly := stands.orderly.step keeps within (.called stands.running answers)
      running := Pool.set_tasks_self _ _ _ _
      knows := knows
      meets := stands.meets.2 answer possible }

/-- A step that is not about the task, and no reset, leaves it where it stands. -/
theorem elsewhere (stands : discipline.Stands past pool id origin code ghost)
    (keeps : discipline.Keeps environment Within) (within : Within (past ++ [event]))
    (taken : Pool.Step environment pool event after) (apart : event.task ≠ some id)
    (working : event ≠ .reset) :
    discipline.Stands (past ++ [event]) after id origin code ghost := by
  have orderly := stands.orderly
  have next := orderly.step keeps within taken
  have kept {other : Nat} {shared : σ} (different : other ≠ id)
      (changes : discipline.Changes other ⟨past, pool.shared⟩ ⟨past ++ [event], shared⟩) :
      discipline.Knows id origin ghost ⟨past ++ [event], shared⟩ :=
    keeps.known (fun same => different same.symm) orderly.holds changes stands.knows
  have still {other : Nat} (different : other ≠ id) (shared : σ) (task : Option (Task S ι α)) :
      (pool.set other shared task).tasks id = some ⟨origin, code⟩ := by
    rw [Pool.set_tasks_of_ne _ _ _ _ fun same => different same.symm]
    exact stands.running
  have other {other : Nat} (about : event.task = some other) : other ≠ id := by
    intro same
    rw [about, same] at apart
    exact apart rfl
  cases taken with
  | started absent starts =>
      have changes := (keeps.started within orderly.holds (orderly.idle absent) starts).1.changes
      exact ⟨next, still (other rfl) _ _, kept (other rfl) changes, stands.meets⟩
  | called running answers =>
      rcases orderly.follows running with ⟨ghost, knows, allowed, _⟩
      have changes := (keeps.called within orderly.holds knows allowed answers).2.1.changes
      exact ⟨next, still (other rfl) _ _, kept (other rfl) changes, stands.meets⟩
  | turned running resumes =>
      rcases orderly.follows running with ⟨ghost, knows, post⟩
      have changes := (keeps.turned within orderly.holds knows post resumes).1.changes
      exact ⟨next, still (other rfl) _ _, kept (other rfl) changes, stands.meets⟩
  | returned running ends =>
      rcases orderly.follows running with ⟨ghost, knows, post⟩
      have changes := (keeps.returned within orderly.holds knows post ends).1.changes
      exact ⟨next, still (other rfl) _ _, kept (other rfl) changes, stands.meets⟩
  | dropped running droppable =>
      rcases orderly.follows running with ⟨ghost, knows, meets⟩
      have changes := (keeps.dropped within orderly.holds knows meets droppable).1.changes
      exact ⟨next, still (other rfl) _ _, kept (other rfl) changes, stands.meets⟩
  | moved moves =>
      have changes := (keeps.moved within orderly.holds moves (id + 1)).changes
      exact ⟨next, stands.running, kept (Nat.succ_ne_self id) changes, stands.meets⟩
  | reset resets => exact absurd rfl working

end Stands

/-! ## Knowing more -/

/-- What can be added to a discipline: more that holds of the shared state, more that a task
knows of it, and more that a step leaves alone. -/
structure Addition (ι σ γ : Type) where
  Holds : σ → Prop
  Knows : ι → γ → σ → Prop
  Leaves : σ → σ → Prop

def also (discipline : Discipline S ι α σ γ) (more : Addition ι σ γ) :
    Discipline S ι α σ γ where
  protocol := discipline.protocol
  post := discipline.post
  Holds history := discipline.Holds history ∧ more.Holds history.shared
  Knows id origin ghost history :=
    discipline.Knows id origin ghost history ∧ more.Knows origin ghost history.shared
  Idle := discipline.Idle
  Changes id before after :=
    discipline.Changes id before after ∧ more.Leaves before.shared after.shared

/-- Each kind of step keeps what is added to the discipline. -/
structure KeepsMore (discipline : Discipline S ι α σ γ) (environment : Environment S ι α σ)
    (more : Addition ι σ γ) : Prop where
  refl (shared : σ) : more.Leaves shared shared
  known {origin : ι} {ghost : γ} {shared after : σ} : more.Leaves shared after →
    more.Knows origin ghost shared → more.Knows origin ghost after
  started {id : Nat} {origin : ι} {code : Program S α} {history : History S ι α σ} {after : σ} :
    discipline.Holds history → more.Holds history.shared → discipline.Idle id history →
      environment.Starts history.shared origin code after →
      more.Holds after ∧ more.Leaves history.shared after ∧
        ∃ ghost, discipline.Knows id origin ghost (history.next (.started id origin) after) ∧
          more.Knows origin ghost after ∧
          code.Meets (discipline.protocol origin) (discipline.post origin) ghost
  called {id : Nat} {origin : ι} {ghost : γ} {history : History S ι α σ} {after : σ} {op : S.Op}
      {answer : S.Answer op} :
    discipline.Holds history → more.Holds history.shared →
      discipline.Knows id origin ghost history → more.Knows origin ghost history.shared →
      (discipline.protocol origin).Allowed ghost op →
      environment.Answers id origin history.shared op answer after →
      more.Holds after ∧ more.Leaves history.shared after ∧
        more.Knows origin ((discipline.protocol origin).learn ghost op answer) after
  released (id : Nat) {shared : σ} : more.Holds shared →
    more.Holds (environment.release id shared) ∧
      more.Leaves shared (environment.release id shared)
  moved {history : History S ι α σ} {after : σ} : discipline.Holds history →
    more.Holds history.shared → environment.Moves history.shared after →
      more.Holds after ∧ more.Leaves history.shared after
  reset {history : History S ι α σ} {after : σ} : discipline.Holds history →
    more.Holds history.shared → environment.Resets history.shared after → more.Holds after

theorem Keeps.also {more : Addition ι σ γ} (keeps : discipline.Keeps environment Within)
    (keepsMore : discipline.KeepsMore environment more) :
    (discipline.also more).Keeps environment Within where
  known different holds changes knows :=
    ⟨keeps.known different holds.1 changes.1 knows.1, keepsMore.known changes.2 knows.2⟩
  idle different changes idle := keeps.idle different changes.1 idle
  started within holds idle starts := by
    have undisturbed := (keeps.started within holds.1 idle starts).1
    rcases keepsMore.started holds.1 holds.2 idle starts with
      ⟨more, leaves, ghost, knows, also, meets⟩
    exact ⟨⟨⟨undisturbed.holds, more⟩, undisturbed.changes, leaves⟩, ghost, ⟨knows, also⟩, meets⟩
  called within holds knows allowed answers := by
    rcases keeps.called within holds.1 knows.1 allowed answers with ⟨possible, undisturbed, next⟩
    rcases keepsMore.called holds.1 holds.2 knows.1 knows.2 allowed answers with
      ⟨more, leaves, also⟩
    exact ⟨possible, ⟨⟨undisturbed.holds, more⟩, undisturbed.changes, leaves⟩, next, also⟩
  turned within holds knows post resumes := by
    rcases keeps.turned within holds.1 knows.1 post resumes with ⟨undisturbed, next, meets⟩
    exact ⟨⟨⟨undisturbed.holds, holds.2⟩, undisturbed.changes, keepsMore.refl _⟩,
      ⟨next, knows.2⟩, meets⟩
  returned within holds knows post ends := by
    rcases keeps.returned within holds.1 knows.1 post ends with ⟨undisturbed, idle⟩
    rcases keepsMore.released _ holds.2 with ⟨more, leaves⟩
    exact ⟨⟨⟨undisturbed.holds, more⟩, undisturbed.changes, leaves⟩, idle⟩
  dropped within holds knows meets droppable := by
    rcases keeps.dropped within holds.1 knows.1 meets droppable with ⟨undisturbed, idle⟩
    rcases keepsMore.released _ holds.2 with ⟨more, leaves⟩
    exact ⟨⟨⟨undisturbed.holds, more⟩, undisturbed.changes, leaves⟩, idle⟩
  moved within holds moves id := by
    have undisturbed := keeps.moved within holds.1 moves id
    rcases keepsMore.moved holds.1 holds.2 moves with ⟨more, leaves⟩
    exact ⟨⟨undisturbed.holds, more⟩, undisturbed.changes, leaves⟩
  reset within holds resets := by
    rcases keeps.reset within holds.1 resets with ⟨kept, idle⟩
    exact ⟨⟨kept, keepsMore.reset holds.1 holds.2 resets⟩, idle⟩

end Discipline

end Foundation
