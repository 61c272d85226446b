import Slatestreams.Foundation.Pool

/-! # Disciplines in layers

A discipline can be built in layers. What a layer keeps may depend on what the layers below
it keep, before a step and after it. -/

namespace Foundation

/-- One event has been added, and it is about no other task. -/
def History.Adds {S : Signature} {ι α σ : Type} (id : Nat) (before after : History S ι α σ) :
    Prop :=
  ∃ event, after.past = before.past ++ [event] ∧ ∀ other, event.task = some other → other = id

namespace Discipline

variable {S : Signature} {ι α σ γ : Type} {discipline : Discipline S ι α σ γ}
  {environment : Environment S ι α σ} {Within : List (PoolEvent S ι α) → Prop}

/-- What a layer adds to a discipline: more that holds, more that a task knows, and more
that a step leaves alone. -/
structure Layer (S : Signature) (ι α σ γ : Type) where
  Holds : History S ι α σ → Prop
  Knows : Nat → ι → γ → History S ι α σ → Prop
  Changes : Nat → History S ι α σ → History S ι α σ → Prop

def under (discipline : Discipline S ι α σ γ) (layer : Layer S ι α σ γ) :
    Discipline S ι α σ γ where
  protocol := discipline.protocol
  post := discipline.post
  Holds history := discipline.Holds history ∧ layer.Holds history
  Knows id origin ghost history :=
    discipline.Knows id origin ghost history ∧ layer.Knows id origin ghost history
  Idle := discipline.Idle
  Changes id before after := discipline.Changes id before after ∧ layer.Changes id before after

/-- What a step does for a layer. -/
structure Layer.Undisturbed (layer : Layer S ι α σ γ) (id : Nat)
    (history after : History S ι α σ) : Prop where
  holds : layer.Holds after
  changes : layer.Changes id history after

/-- Each kind of step keeps the layer, when the discipline under it is kept. -/
structure KeepsLayer (discipline : Discipline S ι α σ γ) (environment : Environment S ι α σ)
    (layer : Layer S ι α σ γ) : Prop where
  known {id other : Nat} {origin : ι} {ghost : γ} {history after : History S ι α σ} :
    other ≠ id → (discipline.under layer).Holds history →
      (discipline.under layer).Changes id history after →
        (discipline.under layer).Knows other origin ghost history →
          layer.Knows other origin ghost after
  started {id : Nat} {origin : ι} {code : Program S α} {history : History S ι α σ} {after : σ} :
    (discipline.under layer).Holds history → discipline.Idle id history →
      environment.Starts history.shared origin code after →
        discipline.Undisturbed id history (history.next (.started id origin) after) →
          layer.Undisturbed id history (history.next (.started id origin) after) ∧
            ∃ ghost, (discipline.under layer).Knows id origin ghost
                (history.next (.started id origin) after) ∧
              code.Meets (discipline.protocol origin) (discipline.post origin) ghost
  called {id : Nat} {origin : ι} {ghost : γ} {history : History S ι α σ} {after : σ} {op : S.Op}
      {answer : S.Answer op} :
    (discipline.under layer).Holds history →
      (discipline.under layer).Knows id origin ghost history →
        (discipline.protocol origin).Allowed ghost op →
          environment.Answers id origin history.shared op answer after →
            discipline.Undisturbed id history (history.next (.called id op answer) after) →
              discipline.Knows id origin ((discipline.protocol origin).learn ghost op answer)
                  (history.next (.called id op answer) after) →
                layer.Undisturbed id history (history.next (.called id op answer) after) ∧
                  layer.Knows id origin ((discipline.protocol origin).learn ghost op answer)
                    (history.next (.called id op answer) after)
  turned {id : Nat} {origin : ι} {ghost : γ} {history : History S ι α σ} {value : α}
      {code : Program S α} :
    (discipline.under layer).Holds history →
      (discipline.under layer).Knows id origin ghost history →
        discipline.post origin ghost value → environment.resume origin value = some code →
          discipline.Undisturbed id history (history.next (.turned id) history.shared) →
            layer.Undisturbed id history (history.next (.turned id) history.shared) ∧
              layer.Knows id origin ghost (history.next (.turned id) history.shared)
  returned {id : Nat} {origin : ι} {ghost : γ} {history : History S ι α σ} {value : α} :
    (discipline.under layer).Holds history →
      (discipline.under layer).Knows id origin ghost history →
        discipline.post origin ghost value → environment.resume origin value = none →
          discipline.Undisturbed id history
              (history.next (.returned id origin value) (environment.release id history.shared)) →
            layer.Undisturbed id history
              (history.next (.returned id origin value) (environment.release id history.shared))
  dropped {id : Nat} {origin : ι} {ghost : γ} {history : History S ι α σ} {code : Program S α} :
    (discipline.under layer).Holds history →
      (discipline.under layer).Knows id origin ghost history → environment.Droppable code →
        discipline.Undisturbed id history
            (history.next (.dropped id) (environment.release id history.shared)) →
          layer.Undisturbed id history
            (history.next (.dropped id) (environment.release id history.shared))
  moved {history : History S ι α σ} {after : σ} : (discipline.under layer).Holds history →
    environment.Moves history.shared after →
      (∀ id, discipline.Undisturbed id history (history.next .moved after)) →
        ∀ id, layer.Undisturbed id history (history.next .moved after)
  reset {history : History S ι α σ} {after : σ} : (discipline.under layer).Holds history →
    environment.Resets history.shared after → layer.Holds (history.next .reset after)

theorem Keeps.under {layer : Layer S ι α σ γ} (keeps : discipline.Keeps environment Within)
    (keepsLayer : discipline.KeepsLayer environment layer) :
    (discipline.under layer).Keeps environment Within where
  known different holds changes knows :=
    ⟨keeps.known different holds.1 changes.1 knows.1,
      keepsLayer.known different holds changes knows⟩
  idle different changes idle := keeps.idle different changes.1 idle
  started within holds idle starts := by
    have undisturbed := (keeps.started within holds.1 idle starts).1
    rcases keepsLayer.started holds idle starts undisturbed with ⟨more, follows⟩
    exact ⟨⟨⟨undisturbed.holds, more.holds⟩, undisturbed.changes, more.changes⟩, follows⟩
  called within holds knows allowed answers := by
    rcases keeps.called within holds.1 knows.1 allowed answers with ⟨possible, undisturbed, next⟩
    rcases keepsLayer.called holds knows allowed answers undisturbed next with ⟨more, also⟩
    exact ⟨possible, ⟨⟨undisturbed.holds, more.holds⟩, undisturbed.changes, more.changes⟩,
      next, also⟩
  turned within holds knows ends resumes := by
    rcases keeps.turned within holds.1 knows.1 ends resumes with ⟨undisturbed, next, meets⟩
    rcases keepsLayer.turned holds knows ends resumes undisturbed with ⟨more, also⟩
    exact ⟨⟨⟨undisturbed.holds, more.holds⟩, undisturbed.changes, more.changes⟩,
      ⟨next, also⟩, meets⟩
  returned within holds knows ends none_ := by
    rcases keeps.returned within holds.1 knows.1 ends none_ with ⟨undisturbed, idle⟩
    have more := keepsLayer.returned holds knows ends none_ undisturbed
    exact ⟨⟨⟨undisturbed.holds, more.holds⟩, undisturbed.changes, more.changes⟩, idle⟩
  dropped within holds knows meets droppable := by
    rcases keeps.dropped within holds.1 knows.1 meets droppable with ⟨undisturbed, idle⟩
    have more := keepsLayer.dropped holds knows droppable undisturbed
    exact ⟨⟨⟨undisturbed.holds, more.holds⟩, undisturbed.changes, more.changes⟩, idle⟩
  moved within holds moves id := by
    have undisturbed := keeps.moved within holds.1 moves
    have more := keepsLayer.moved holds moves undisturbed id
    exact ⟨⟨(undisturbed id).holds, more.holds⟩, (undisturbed id).changes, more.changes⟩
  reset within holds resets := by
    rcases keeps.reset within holds.1 resets with ⟨kept, idle⟩
    exact ⟨⟨kept, keepsLayer.reset holds resets⟩, idle⟩

end Discipline

end Foundation
