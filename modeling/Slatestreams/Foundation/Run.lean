/-! # Runs of a labelled transition relation -/

namespace Foundation

variable {σ ε : Type}

/-- A finite run from the first state to the last, with the events in order. -/
inductive Run (step : σ → ε → σ → Prop) (first : σ) : List ε → σ → Prop where
  | nil : Run step first [] first
  | snoc {middle last : σ} {events : List ε} {event : ε} :
      Run step first events middle → step middle event last →
      Run step first (events ++ [event]) last

namespace Run

variable {step : σ → ε → σ → Prop}

/-- What every step keeps, every run keeps. -/
theorem invariant {holds : σ → Prop}
    (kept : ∀ {state event next}, step state event next → holds state → holds next)
    {first last : σ} {events : List ε} (run : Run step first events last)
    (initially : holds first) : holds last := by
  induction run with
  | nil => exact initially
  | snoc _ taken induction => exact kept taken induction

theorem mono {wider : σ → ε → σ → Prop}
    (included : ∀ {state event next}, step state event next → wider state event next)
    {first last : σ} {events : List ε} (run : Run step first events last) :
    Run wider first events last := by
  induction run with
  | nil => exact .nil
  | snoc _ taken induction => exact .snoc induction (included taken)

theorem single {state next : σ} {event : ε} (taken : step state event next) :
    Run step state [event] next :=
  .snoc (.nil) taken

theorem trans {first middle last : σ} {events later : List ε}
    (run : Run step first events middle) (rest : Run step middle later last) :
    Run step first (events ++ later) last := by
  induction rest with
  | nil => simpa using run
  | snoc _ taken induction =>
      rw [← List.append_assoc]
      exact .snoc induction taken

/-- What the steps between the first state and the last keep holds at every state in between. -/
theorem between {holds : σ → Prop} {first last : σ}
    (kept : ∀ {state next : σ} {event : ε} {earlier later : List ε},
      Run step first earlier state → step state event next → Run step next later last →
        holds state → holds next)
    (initially : holds first) {middle : σ} {events later : List ε}
    (run : Run step first events middle) (rest : Run step middle later last) : holds middle := by
  induction run generalizing later with
  | nil => exact initially
  | snoc run taken induction =>
      have onwards := (single taken).trans rest
      exact kept run taken rest (induction onwards)

/-- The step of an event that has happened. -/
theorem of_mem {first last : σ} {events : List ε} {event : ε} (run : Run step first events last)
    (member : event ∈ events) :
    ∃ state next earlier later, Run step first earlier state ∧ step state event next ∧
      Run step next later last := by
  induction run with
  | nil => cases member
  | snoc run taken induction =>
      rcases List.mem_append.mp member with sooner | now
      · rcases induction sooner with ⟨state, next, earlier, later, before, step, rest⟩
        exact ⟨state, next, earlier, _, before, step, .snoc rest taken⟩
      · cases List.mem_singleton.mp now
        exact ⟨_, _, _, _, run, taken, .nil⟩

end Run

end Foundation
