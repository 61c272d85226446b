/-! # Machines

Deterministic machines that answer every input. One machine simulates another
when related states give the same answers and stay related; it may also answer
for a part of the inputs only, and be left alone by the others. -/

namespace Foundation

variable {σ τ ι ω ν : Type}

abbrev Machine (σ ι ω : Type) : Type := σ → ι → ω × σ

namespace Machine

/-- The inputs with their answers, in order. -/
def transcript (machine : Machine σ ι ω) (state : σ) : List ι → List (ι × ω)
  | [] => []
  | input :: rest =>
      (input, (machine state input).1) :: machine.transcript (machine state input).2 rest

def final (machine : Machine σ ι ω) (state : σ) : List ι → σ
  | [] => state
  | input :: rest => machine.final (machine state input).2 rest

variable {machine : Machine σ ι ω}

theorem mem_of_mem_transcript {state : σ} {inputs : List ι} {entry : ι × ω}
    (member : entry ∈ machine.transcript state inputs) : entry.1 ∈ inputs := by
  induction inputs generalizing state with
  | nil => cases member
  | cons input rest induction =>
      rcases List.mem_cons.mp member with rfl | later
      · exact List.mem_cons_self
      · exact List.mem_cons_of_mem _ (induction later)

theorem final_append (state : σ) (inputs later : List ι) :
    machine.final state (inputs ++ later) = machine.final (machine.final state inputs) later := by
  induction inputs generalizing state with
  | nil => rfl
  | cons input rest induction => exact induction _

theorem transcript_append (state : σ) (inputs later : List ι) :
    machine.transcript state (inputs ++ later) =
      machine.transcript state inputs ++
        machine.transcript (machine.final state inputs) later := by
  induction inputs generalizing state with
  | nil => rfl
  | cons input rest induction => exact congrArg (List.cons _) (induction _)

/-- `other` follows `machine` on the inputs that `keep` selects and sees nothing
of the others. The relation may speak about the number of inputs to come. -/
structure Simulates (machine : Machine σ ι ω) (other : Machine τ ι ν) (keep : ι → Bool)
    (view : ω → ν) (Related : Nat → σ → τ → Prop) : Prop where
  kept {count : Nat} {state : σ} {abstract : τ} {input : ι} :
    Related (count + 1) state abstract → keep input = true →
      (other abstract input).1 = view (machine state input).1 ∧
        Related count (machine state input).2 (other abstract input).2
  dropped {count : Nat} {state : σ} {abstract : τ} {input : ι} :
    Related (count + 1) state abstract → keep input = false →
      Related count (machine state input).2 abstract

namespace Simulates

variable {other : Machine τ ι ν} {keep : ι → Bool} {view : ω → ν} {Related : Nat → σ → τ → Prop}
  {state : σ} {abstract : τ} {inputs : List ι}

/-- After the inputs the states are related for whatever is still to come. -/
theorem final_related (simulates : Simulates machine other keep view Related) (later : Nat)
    (related : Related (inputs.length + later) state abstract) :
    Related later (machine.final state inputs) (other.final abstract (inputs.filter keep)) := by
  induction inputs generalizing state abstract with
  | nil => exact Nat.zero_add later ▸ related
  | cons input rest induction =>
      have next : Related (rest.length + later + 1) state abstract :=
        Nat.add_right_comm rest.length 1 later ▸ related
      cases kept : keep input with
      | true =>
          rw [List.filter_cons_of_pos kept]
          exact induction (simulates.kept next kept).2
      | false =>
          rw [List.filter_cons_of_neg (by simp [kept])]
          exact induction (simulates.dropped next kept)

theorem transcript_eq (simulates : Simulates machine other keep view Related)
    (related : Related inputs.length state abstract) :
    other.transcript abstract (inputs.filter keep) =
      ((machine.transcript state inputs).filter fun entry => keep entry.1).map fun entry =>
        (entry.1, view entry.2) := by
  induction inputs generalizing state abstract with
  | nil => rfl
  | cons input rest induction =>
      cases kept : keep input with
      | true =>
          rcases simulates.kept related kept with ⟨same, next⟩
          rw [List.filter_cons_of_pos kept, transcript, transcript,
            List.filter_cons_of_pos (by exact kept), List.map_cons, induction next, same]
      | false =>
          rw [List.filter_cons_of_neg (by simp [kept]), transcript,
            List.filter_cons_of_neg (by simp [kept]), induction (simulates.dropped related kept)]

end Simulates

end Machine

end Foundation
