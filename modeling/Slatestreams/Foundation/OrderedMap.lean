/-! # Ordered maps

Finite maps kept as a list of entries in strictly ascending key order, with
insertion, lookup and the entries that satisfy a predicate on keys, which are
found by a search when the predicate selects an interval. -/

namespace Foundation

/-- The entries, each key once and in ascending order. -/
structure OrderedMap (κ ν : Type) [LT κ] where
  entries : List (κ × ν)
  sorted : entries.Pairwise fun left right => left.1 < right.1

namespace OrderedMap

variable {κ ν : Type} [LT κ]

def empty : OrderedMap κ ν := ⟨[], .nil⟩

instance : Inhabited (OrderedMap κ ν) := ⟨empty⟩

/-- Lookup in an association list. -/
def lookup [DecidableEq κ] (key : κ) : List (κ × ν) → Option ν
  | [] => none
  | (other, value) :: rest => if other = key then some value else lookup key rest

def get [DecidableEq κ] (map : OrderedMap κ ν) (key : κ) : Option ν :=
  lookup key map.entries

@[simp] theorem get_empty [DecidableEq κ] (key : κ) :
    (empty : OrderedMap κ ν).get key = none := rfl

/-! ## Insertion -/

section Insertion

variable [DecidableLT κ]

/-- Put an entry at its place in the order, over an entry with an equal key. -/
def insertEntry (key : κ) (value : ν) : List (κ × ν) → List (κ × ν)
  | [] => [(key, value)]
  | (other, old) :: rest =>
      if key < other then (key, value) :: (other, old) :: rest
      else if other < key then (other, old) :: insertEntry key value rest
      else (key, value) :: rest

theorem mem_insertEntry {key : κ} {value : ν} {entries : List (κ × ν)}
    {entry : κ × ν} (member : entry ∈ insertEntry key value entries) :
    entry = (key, value) ∨ entry ∈ entries := by
  induction entries with
  | nil => simpa [insertEntry] using member
  | cons head rest induction =>
      simp only [insertEntry] at member
      split at member
      · exact List.mem_cons.mp member
      · split at member
        · rcases List.mem_cons.mp member with equal | later
          · exact .inr (equal ▸ List.mem_cons_self)
          · rcases induction later with equal | found
            · exact .inl equal
            · exact .inr (List.mem_cons_of_mem _ found)
        · rcases List.mem_cons.mp member with equal | later
          · exact .inl equal
          · exact .inr (List.mem_cons_of_mem _ later)

variable [Std.Trichotomous (α := κ) (· < ·)]

theorem sorted_insertEntry [Trans (α := κ) (· < ·) (· < ·) (· < ·)] (key : κ) (value : ν) {entries : List (κ × ν)}
    (sorted : entries.Pairwise fun left right => left.1 < right.1) :
    (insertEntry key value entries).Pairwise fun left right => left.1 < right.1 := by
  induction entries with
  | nil => exact List.pairwise_singleton _ _
  | cons head rest induction =>
      rcases head with ⟨other, old⟩
      have parts := List.pairwise_cons.mp sorted
      simp only [insertEntry]
      split
      · rename_i less
        refine List.pairwise_cons.mpr ⟨fun entry member => ?_, sorted⟩
        rcases List.mem_cons.mp member with equal | later
        · exact equal ▸ less
        · exact Trans.trans less (parts.1 entry later)
      · split
        · rename_i greater
          refine List.pairwise_cons.mpr ⟨fun entry member => ?_, induction parts.2⟩
          rcases mem_insertEntry member with equal | found
          · exact equal ▸ greater
          · exact parts.1 entry found
        · rename_i notLess notGreater
          have same : key = other :=
            Std.Trichotomous.trichotomous key other notLess notGreater
          exact List.pairwise_cons.mpr ⟨fun entry member => same ▸ parts.1 entry member, parts.2⟩

def insert [Trans (α := κ) (· < ·) (· < ·) (· < ·)] (map : OrderedMap κ ν)
    (key : κ) (value : ν) : OrderedMap κ ν :=
  ⟨insertEntry key value map.entries, sorted_insertEntry key value map.sorted⟩

theorem lookup_insertEntry [DecidableEq κ] [Std.Irrefl (α := κ) (· < ·)]
    (key other : κ) (value : ν) (entries : List (κ × ν)) :
    lookup other (insertEntry key value entries) =
      if key = other then some value else lookup other entries := by
  induction entries with
  | nil => rfl
  | cons head rest induction =>
      rcases head with ⟨first, old⟩
      simp only [insertEntry]
      split
      · simp only [lookup]
      · split
        · rename_i greater
          simp only [lookup, induction]
          by_cases same : first = other
          · have different : key ≠ other := fun equal =>
              Std.Irrefl.irrefl key (by rwa [same, ← equal] at greater)
            simp [same, different]
          · simp [same]
        · rename_i notLess notGreater
          have same : key = first :=
            Std.Trichotomous.trichotomous key first notLess notGreater
          subst same
          by_cases found : key = other <;> simp [lookup, found]

theorem get_insert [DecidableEq κ] [Std.Irrefl (α := κ) (· < ·)]
    [Trans (α := κ) (· < ·) (· < ·) (· < ·)] (map : OrderedMap κ ν) (key other : κ)
    (value : ν) :
    (map.insert key value).get other =
      if key = other then some value else map.get other :=
  lookup_insertEntry key other value map.entries

end Insertion

/-! ## Scans -/

/-- The entries whose keys satisfy a predicate, in ascending key order. -/
def scan (map : OrderedMap κ ν) (keep : κ → Bool) : List (κ × ν) :=
  map.entries.filter fun entry => keep entry.1

section Entries

variable {entries : List (κ × ν)}
  (sorted : entries.Pairwise fun left right => left.1 < right.1)

include sorted

theorem lookup_eq_some_iff [DecidableEq κ] [Std.Irrefl (α := κ) (· < ·)] (key : κ) (value : ν) :
    lookup key entries = some value ↔ (key, value) ∈ entries := by
  induction entries with
  | nil => simp [lookup]
  | cons head rest induction =>
      rcases head with ⟨first, old⟩
      have parts := List.pairwise_cons.mp sorted
      rw [lookup, List.mem_cons]
      by_cases same : first = key
      · subst same
        have later : (first, value) ∉ rest := fun member =>
          Std.Irrefl.irrefl first (parts.1 _ member)
        simp [later, eq_comm]
      · rw [if_neg same, induction parts.2]
        simp [Ne.symm same]

/-- A condition that holds up to some key is met by a front of the entries. -/
theorem takeWhile_eq_filter {keep : κ → Bool}
    (closed : ∀ left right, left < right → keep right = true → keep left = true) :
    entries.takeWhile (fun entry => keep entry.1) = entries.filter fun entry => keep entry.1 := by
  induction entries with
  | nil => rfl
  | cons head rest induction =>
      have parts := List.pairwise_cons.mp sorted
      cases kept : keep head.1 with
      | true =>
          rw [List.takeWhile_cons_of_pos (by exact kept), List.filter_cons_of_pos (by exact kept),
            induction parts.2]
      | false =>
          have gone : rest.filter (fun entry => keep entry.1) = [] := by
            apply List.filter_eq_nil_iff.mpr
            intro entry member later
            rw [closed _ _ (parts.1 entry member) later] at kept
            cases kept
          rw [List.takeWhile_cons_of_neg (by simp [kept]), List.filter_cons_of_neg (by simp [kept]),
            gone]

theorem dropWhile_eq_filter {skip : κ → Bool}
    (closed : ∀ left right, left < right → skip right = true → skip left = true) :
    entries.dropWhile (fun entry => skip entry.1) = entries.filter fun entry => !skip entry.1 := by
  induction entries with
  | nil => rfl
  | cons head rest induction =>
      have parts := List.pairwise_cons.mp sorted
      cases skipped : skip head.1 with
      | true =>
          rw [List.dropWhile_cons_of_pos (by exact skipped),
            List.filter_cons_of_neg (by simp [skipped]), induction parts.2]
      | false =>
          have kept : rest.filter (fun entry => !skip entry.1) = rest := by
            apply List.filter_eq_self.mpr
            intro entry member
            cases later : skip entry.1 with
            | false => rfl
            | true =>
                rw [closed _ _ (parts.1 entry member) later] at skipped
                cases skipped
          rw [List.dropWhile_cons_of_neg (by simp [skipped]),
            List.filter_cons_of_pos (by simp [skipped]), kept]

end Entries

theorem get_eq_some_iff [DecidableEq κ] [Std.Irrefl (α := κ) (· < ·)] (map : OrderedMap κ ν)
    (key : κ) (value : ν) : map.get key = some value ↔ (key, value) ∈ map.entries :=
  lookup_eq_some_iff map.sorted key value

theorem mem_scan [DecidableEq κ] [Std.Irrefl (α := κ) (· < ·)] {map : OrderedMap κ ν}
    {keep : κ → Bool} {entry : κ × ν} :
    entry ∈ map.scan keep ↔ map.get entry.1 = some entry.2 ∧ keep entry.1 = true := by
  rw [scan, List.mem_filter, get_eq_some_iff]

theorem sorted_scan (map : OrderedMap κ ν) (keep : κ → Bool) :
    (map.scan keep).Pairwise fun left right => left.1 < right.1 :=
  map.sorted.filter _

/-- The search for an interval: past the keys before it, then up to its end. -/
def range (map : OrderedMap κ ν) (before within : κ → Bool) : List (κ × ν) :=
  (map.entries.dropWhile fun entry => before entry.1).takeWhile fun entry => within entry.1

theorem range_eq_scan (map : OrderedMap κ ν) {before within : κ → Bool}
    (beforeClosed : ∀ left right, left < right → before right = true → before left = true)
    (withinClosed : ∀ left right, left < right → within right = true → within left = true) :
    map.range before within = map.scan fun key => !before key && within key := by
  rw [range, dropWhile_eq_filter map.sorted beforeClosed,
    takeWhile_eq_filter (map.sorted.filter _) withinClosed, List.filter_filter, scan]
  apply List.filter_congr
  intro entry _
  exact Bool.and_comm _ _

end OrderedMap

end Foundation
