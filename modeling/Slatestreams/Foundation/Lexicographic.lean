/-! # Lexicographic order

Lists in lexicographic order: a common front does not matter, a list comes
before its extensions, and the extensions of a list fill one interval. -/

namespace Foundation.Lexicographic

variable {α : Type} [LT α]

/-- Lists with a common front are ordered by what follows it. -/
@[simp] theorem append_lt_append_left [Std.Irrefl (α := α) (· < ·)] (front left right : List α) :
    front ++ left < front ++ right ↔ left < right := by
  induction front with
  | nil => exact Iff.rfl
  | cons head rest induction =>
      simp only [List.cons_append, List.cons_lt_cons_self]
      exact induction

/-- Lists of one length are ordered by their fronts first. -/
theorem append_lt_append_iff [Std.Irrefl (α := α) (· < ·)] {left right : List α}
    (same : left.length = right.length) (leftRest rightRest : List α) :
    left ++ leftRest < right ++ rightRest ↔
      left < right ∨ left = right ∧ leftRest < rightRest := by
  induction left generalizing right with
  | nil =>
      cases right with
      | nil => simp
      | cons head rest => cases same
  | cons leftHead left induction =>
      cases right with
      | nil => cases same
      | cons rightHead right =>
          simp only [List.cons_append, List.cons_lt_cons_iff, List.cons.injEq,
            induction (Nat.succ.inj same)]
          constructor
          · rintro (before | ⟨equal, before | ⟨rest, before⟩⟩)
            · exact .inl (.inl before)
            · exact .inl (.inr ⟨equal, before⟩)
            · exact .inr ⟨⟨equal, rest⟩, before⟩
          · rintro ((before | ⟨equal, before⟩) | ⟨⟨equal, rest⟩, before⟩)
            · exact .inl before
            · exact .inr ⟨equal, .inl before⟩
            · exact .inr ⟨equal, .inr ⟨rest, before⟩⟩

/-- No extension of a list comes before it. -/
theorem not_lt_of_isPrefix [Std.Irrefl (α := α) (· < ·)] {front list : List α}
    (extends_ : front <+: list) : ¬list < front := by
  rcases extends_ with ⟨rest, rfl⟩
  induction front with
  | nil => exact List.not_lt_nil _
  | cons head front induction =>
      intro before
      rw [List.cons_append, List.cons_lt_cons_self] at before
      exact induction before

/-! ## The interval of all extensions -/

/-- What does not come before a list of greatest elements extends it. -/
theorem isPrefix_of_not_lt {greatest : α} (above : ∀ other, other ≠ greatest → other < greatest)
    {front list : List α} (all : ∀ value ∈ front, value = greatest)
    (notBefore : ¬list < front) : front <+: list := by
  induction front generalizing list with
  | nil => exact List.nil_prefix
  | cons head front induction =>
      cases all head List.mem_cons_self
      cases list with
      | nil => exact absurd (List.nil_lt_cons _ _) notBefore
      | cons first list =>
          rw [List.cons_lt_cons_iff, not_or] at notBefore
          have same : first = greatest :=
            Classical.byContradiction fun different => notBefore.1 (above first different)
          subst same
          have rest : ¬list < front := fun before => notBefore.2 ⟨rfl, before⟩
          exact List.cons_prefix_cons.mpr
            ⟨rfl, induction (fun value member => all value (List.mem_cons_of_mem _ member)) rest⟩

/-- Before its trailing greatest elements a list has a last one that can be raised. The
lists from the list itself up to the raised one are its extensions. -/
theorem isPrefix_iff_between [Std.Asymm (α := α) (· < ·)] {greatest last raised : α}
    (above : ∀ other, other ≠ greatest → other < greatest)
    (raises : ∀ other, other < raised ↔ other < last ∨ other = last)
    {front trailing : List α} (all : ∀ value ∈ trailing, value = greatest) (list : List α) :
    front ++ last :: trailing <+: list ↔
      ¬list < front ++ last :: trailing ∧ list < front ++ [raised] := by
  constructor
  · intro extends_
    refine ⟨not_lt_of_isPrefix extends_, ?_⟩
    rcases extends_ with ⟨rest, rfl⟩
    rw [List.append_assoc, append_lt_append_left, List.cons_append, List.cons_lt_cons_iff]
    exact .inl ((raises last).mpr (.inr rfl))
  · rintro ⟨notBefore, before⟩
    induction front generalizing list with
    | nil =>
        cases list with
        | nil => exact absurd (List.nil_lt_cons _ _) notBefore
        | cons first list =>
            simp only [List.nil_append, List.cons_lt_cons_iff, not_or, List.not_lt_nil,
              and_false, or_false, raises] at notBefore before
            rcases before with less | rfl
            · exact absurd less notBefore.1
            · have rest : ¬list < trailing := fun less => notBefore.2 ⟨rfl, less⟩
              exact List.cons_prefix_cons.mpr ⟨rfl, isPrefix_of_not_lt above all rest⟩
    | cons head front induction =>
        cases list with
        | nil => exact absurd (List.nil_lt_cons _ _) notBefore
        | cons first list =>
            simp only [List.cons_append, List.cons_lt_cons_iff, not_or] at notBefore before
            rcases before with less | ⟨rfl, less⟩
            · exact absurd less notBefore.1
            · have rest : ¬list < front ++ last :: trailing :=
                fun earlier => notBefore.2 ⟨rfl, earlier⟩
              exact List.cons_prefix_cons.mpr ⟨rfl, induction list rest less⟩

/-- A raised list comes after the list it was raised from. -/
theorem lt_raised [Std.Irrefl (α := α) (· < ·)] {last raised : α} (less : last < raised)
    (front trailing : List α) : front ++ last :: trailing < front ++ [raised] := by
  rw [append_lt_append_left, List.cons_lt_cons_iff]
  exact .inl less

end Foundation.Lexicographic
