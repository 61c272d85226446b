/-! # Numbered logs

Lists whose entries carry strictly increasing numbers: looking an entry up by
its number, and the entries in a range of numbers. -/

namespace Foundation.NumberedLog

variable {α : Type} {number : α → Nat}

def Ascending (number : α → Nat) (log : List α) : Prop :=
  log.Pairwise fun earlier later => number earlier < number later

/-- The entry with a given number. -/
def entry (number : α → Nat) (log : List α) (n : Nat) : Option α :=
  log.find? fun item => number item == n

theorem ascending_nil : Ascending number ([] : List α) := .nil

theorem Ascending.snoc {log : List α} {item : α} (ascending : Ascending number log)
    (above : ∀ other ∈ log, number other < number item) :
    Ascending number (log ++ [item]) :=
  List.pairwise_append.mpr ⟨ascending, List.pairwise_singleton _ _,
    fun other member _ equal => List.mem_singleton.mp equal ▸ above other member⟩

theorem Ascending.eq_of_number_eq {log : List α} (ascending : Ascending number log)
    {left right : α} (leftMem : left ∈ log) (rightMem : right ∈ log)
    (equal : number left = number right) : left = right := by
  induction log with
  | nil => cases leftMem
  | cons head rest induction =>
      have parts := List.pairwise_cons.mp ascending
      rcases List.mem_cons.mp leftMem with rfl | leftLater
      · rcases List.mem_cons.mp rightMem with rfl | rightLater
        · rfl
        · have := parts.1 right rightLater
          omega
      · rcases List.mem_cons.mp rightMem with rfl | rightLater
        · have := parts.1 left leftLater
          omega
        · exact induction parts.2 leftLater rightLater

theorem entry_eq_some {log : List α} {n : Nat} {item : α} (found : entry number log n = some item) :
    item ∈ log ∧ number item = n :=
  ⟨List.mem_of_find?_eq_some found, by simpa using List.find?_some found⟩

theorem entry_eq_none {log : List α} {n : Nat} (absent : ∀ item ∈ log, number item ≠ n) :
    entry number log n = none :=
  List.find?_eq_none.mpr fun item member => by simpa using absent item member

theorem Ascending.entry_of_mem {log : List α} (ascending : Ascending number log) {item : α}
    (member : item ∈ log) : entry number log (number item) = some item := by
  cases found : entry number log (number item) with
  | none =>
      have := List.find?_eq_none.mp found item member
      simp at this
  | some other =>
      have facts := entry_eq_some found
      rw [ascending.eq_of_number_eq facts.1 member facts.2]

theorem entry_snoc_of_ne {log : List α} {item : α} {n : Nat} (different : number item ≠ n) :
    entry number (log ++ [item]) n = entry number log n := by
  have split : entry number (log ++ [item]) n =
      (entry number log n).or (entry number [item] n) := List.find?_append
  have absent : entry number [item] n = none :=
    entry_eq_none fun other member => List.mem_singleton.mp member ▸ different
  rw [split, absent, Option.or_none]

theorem entry_snoc {log : List α} {item : α} (n : Nat)
    (above : ∀ other ∈ log, number other < number item) :
    entry number (log ++ [item]) n =
      if number item = n then some item else entry number log n := by
  split
  · rename_i equal
    have absent : entry number log n = none := entry_eq_none fun other member => by
      have := above other member
      omega
    have split : entry number (log ++ [item]) n =
        (entry number log n).or (entry number [item] n) := List.find?_append
    rw [split, absent]
    simp [entry, equal]
  · rename_i different
    exact entry_snoc_of_ne different

/-- The number after that of the last entry. -/
def tail (number : α → Nat) (log : List α) : Nat :=
  (log.getLast?.map fun item => number item + 1).getD 0

@[simp] theorem tail_nil : tail number ([] : List α) = 0 := rfl

@[simp] theorem tail_snoc (log : List α) (item : α) :
    tail number (log ++ [item]) = number item + 1 := by
  simp [tail]

theorem tail_le {log : List α} {bound : Nat} (below : ∀ item ∈ log, number item < bound) :
    tail number log ≤ bound := by
  cases last : log.getLast? with
  | none => simp [tail, last]
  | some item =>
      have := below item (List.mem_of_getLast? last)
      simp only [tail, last, Option.map_some, Option.getD_some]
      omega

/-! ## Ranges of numbers -/

/-- The entries from a number on. -/
def since (number : α → Nat) (log : List α) (start : Nat) : List α :=
  log.filter fun item => decide (start ≤ number item)

/-- The entries from a number on and below another. -/
def between (number : α → Nat) (log : List α) (start stop : Nat) : List α :=
  log.filter fun item => decide (start ≤ number item) && decide (number item < stop)

@[simp] theorem since_nil (start : Nat) : since number ([] : List α) start = [] := rfl

@[simp] theorem between_nil (start stop : Nat) : between number ([] : List α) start stop = [] := rfl

theorem between_self (log : List α) (start : Nat) : between number log start start = [] :=
  List.filter_eq_nil_iff.mpr fun item _ => by simp

theorem since_append (left right : List α) (start : Nat) :
    since number (left ++ right) start = since number left start ++ since number right start :=
  List.filter_append left right

theorem between_append (left right : List α) (start stop : Nat) :
    between number (left ++ right) start stop =
      between number left start stop ++ between number right start stop :=
  List.filter_append left right

theorem since_eq_between {log : List α} {start stop : Nat}
    (below : ∀ item ∈ log, number item < stop) :
    since number log start = between number log start stop :=
  List.filter_congr fun item member => by simp [below item member]

theorem since_eq_self {log : List α} {start : Nat} (above : ∀ item ∈ log, start ≤ number item) :
    since number log start = log :=
  List.filter_eq_self.mpr fun item member => by simpa using above item member

theorem since_eq_nil {log : List α} {start : Nat} (below : ∀ item ∈ log, number item < start) :
    since number log start = [] :=
  List.filter_eq_nil_iff.mpr fun item member => by simpa using below item member

theorem between_eq_nil {log : List α} {start stop : Nat}
    (above : ∀ item ∈ log, stop ≤ number item) : between number log start stop = [] :=
  List.filter_eq_nil_iff.mpr fun item member => by have := above item member; simp; omega

theorem mem_since {log : List α} {start : Nat} {item : α} :
    item ∈ since number log start ↔ item ∈ log ∧ start ≤ number item := by
  simp [since]

theorem since_isPrefix {left right : List α} (extends_ : left <+: right) (start : Nat) :
    since number left start <+: since number right start :=
  extends_.filter _

theorem since_since {log : List α} {start later : Nat} (le : start ≤ later) :
    since number (since number log start) later = since number log later := by
  rw [since, since, List.filter_filter]
  exact List.filter_congr fun item _ => by
    by_cases above : later ≤ number item
    · simp [above, Nat.le_trans le above]
    · simp [above]

/-- Where to go on after some entries from a start on. -/
def resumeAt (number : α → Nat) (start : Nat) (log : List α) : Nat :=
  (log.getLast?.map fun item => number item + 1).getD start

theorem resumeAt_snoc (start : Nat) (log : List α) (item : α) :
    resumeAt number start (log ++ [item]) = number item + 1 := by
  simp [resumeAt]

/-- What comes after the entries already had is what follows their last number. -/
theorem Ascending.since_resumeAt {log : List α} (ascending : Ascending number log) {start : Nat}
    {had : List α} (inLog : had <+: since number log start) :
    since number log start = had ++ since number log (resumeAt number start had) := by
  rcases List.eq_nil_or_concat had with rfl | ⟨before, item, rfl⟩
  · rfl
  · rw [List.concat_eq_append] at *
    rcases inLog with ⟨rest, whole⟩
    have parts : (before ++ [item] ++ rest).Pairwise fun earlier later =>
        number earlier < number later := whole ▸ ascending.filter _
    rcases List.pairwise_append.mp parts with ⟨firsts, _, across⟩
    have kept : item ∈ since number log start := whole ▸ by simp
    have above := (mem_since.mp kept).2
    have upTo : since number (before ++ [item]) (number item + 1) = [] :=
      since_eq_nil fun other member => by
        rcases List.mem_append.mp member with earlier | last
        · have := (List.pairwise_append.mp firsts).2.2 other earlier item List.mem_cons_self
          omega
        · rw [List.mem_singleton.mp last]
          omega
    have onward : since number rest (number item + 1) = rest :=
      since_eq_self fun other member => across item (by simp) other member
    rw [resumeAt_snoc, ← since_since (Nat.le_succ_of_le above), ← whole, since_append, upTo,
      onward, List.nil_append]

/-- One more number adds its entry, if it has one. -/
theorem Ascending.between_succ {log : List α} (ascending : Ascending number log) {start n : Nat}
    (le : start ≤ n) :
    between number log start (n + 1) =
      between number log start n ++ (entry number log n).toList := by
  induction log with
  | nil => rfl
  | cons head rest induction =>
      have parts := List.pairwise_cons.mp ascending
      have later := induction parts.2
      rcases Nat.lt_trichotomy (number head) n with less | equal | greater
      · have kept : entry number (head :: rest) n = entry number rest n :=
          List.find?_cons_of_neg (by simp; omega)
        have here : between number (head :: rest) start n =
            between number [head] start n ++ between number rest start n :=
          between_append [head] rest start n
        have there : between number (head :: rest) start (n + 1) =
            between number [head] start (n + 1) ++ between number rest start (n + 1) :=
          between_append [head] rest start (n + 1)
        have same : between number [head] start (n + 1) = between number [head] start n :=
          List.filter_congr fun item member => by
            rw [List.mem_singleton.mp member]
            have : number head < n + 1 := by omega
            simp [less, this]
        rw [kept, there, here, later, same, List.append_assoc]
      · have found : entry number (head :: rest) n = some head :=
          List.find?_cons_of_pos (by simpa using equal)
        have before : between number (head :: rest) start n = [] :=
          between_eq_nil fun item member => by
            rcases List.mem_cons.mp member with rfl | member
            · omega
            · have := parts.1 item member
              omega
        have after : between number rest start (n + 1) = [] :=
          between_eq_nil fun item member => by
            have := parts.1 item member
            omega
        have one : between number [head] start (n + 1) = [head] :=
          List.filter_eq_self.mpr fun item member => by
            rw [List.mem_singleton.mp member]
            simp
            omega
        rw [found, before, show head :: rest = [head] ++ rest from rfl, between_append, one, after]
        rfl
      · have none_ : entry number (head :: rest) n = none := entry_eq_none fun item member => by
          rcases List.mem_cons.mp member with rfl | member
          · omega
          · have := parts.1 item member
            omega
        have above : ∀ item ∈ head :: rest, n + 1 ≤ number item := fun item member => by
          rcases List.mem_cons.mp member with rfl | member
          · omega
          · have := parts.1 item member
            omega
        rw [none_, between_eq_nil above, between_eq_nil fun item member => by
          have := above item member
          omega]
        rfl

theorem Ascending.between_isPrefix {log : List α} (ascending : Ascending number log)
    (start stop : Nat) : between number log start stop <+: since number log start := by
  induction log with
  | nil => exact List.prefix_rfl
  | cons head rest induction =>
      have parts := List.pairwise_cons.mp ascending
      have split (stop : Nat) : between number (head :: rest) start stop =
          between number [head] start stop ++ between number rest start stop :=
        between_append [head] rest start stop
      have whole : since number (head :: rest) start =
          since number [head] start ++ since number rest start := since_append [head] rest start
      rcases Nat.lt_or_ge (number head) stop with less | atLeast
      · have same : between number [head] start stop = since number [head] start :=
          (since_eq_between fun item member => by rwa [List.mem_singleton.mp member]).symm
        rw [split, whole, same]
        exact (List.prefix_append_right_inj _).mpr (induction parts.2)
      · have none_ : between number (head :: rest) start stop = [] :=
          between_eq_nil fun item member => by
            rcases List.mem_cons.mp member with rfl | member
            · exact atLeast
            · have := parts.1 item member
              omega
        rw [none_]
        exact List.nil_prefix

/-- The entries from a number on are those below a later number and those from it on. -/
theorem Ascending.since_split {log : List α} (ascending : Ascending number log)
    {start middle : Nat} (le : start ≤ middle) :
    since number log start = between number log start middle ++ since number log middle := by
  induction log with
  | nil => rfl
  | cons head rest induction =>
      have parts := List.pairwise_cons.mp ascending
      rcases Nat.lt_or_ge (number head) middle with less | atLeast
      · have dropped : since number (head :: rest) middle = since number rest middle :=
          List.filter_cons_of_neg (by simpa using less)
        by_cases kept : start ≤ number head
        · have first : since number (head :: rest) start = head :: since number rest start :=
            List.filter_cons_of_pos (by simpa using kept)
          have same : between number (head :: rest) start middle =
              head :: between number rest start middle :=
            List.filter_cons_of_pos (by simpa using ⟨kept, less⟩)
          rw [first, same, dropped, induction parts.2, List.cons_append]
        · have first : since number (head :: rest) start = since number rest start :=
            List.filter_cons_of_neg (by simpa using kept)
          have same : between number (head :: rest) start middle =
              between number rest start middle :=
            List.filter_cons_of_neg (by simp [kept])
          rw [first, same, dropped, induction parts.2]
      · have above : ∀ item ∈ head :: rest, middle ≤ number item := by
          intro item member
          rcases List.mem_cons.mp member with rfl | later
          · exact atLeast
          · exact Nat.le_of_lt (Nat.lt_of_le_of_lt atLeast (parts.1 item later))
        rw [between_eq_nil above, since_eq_self above, List.nil_append]
        exact since_eq_self fun item member => Nat.le_trans le (above item member)

theorem Ascending.since_succ {log : List α} (ascending : Ascending number log) (n : Nat) :
    since number log n = (entry number log n).toList ++ since number log (n + 1) := by
  rw [ascending.since_split (Nat.le_succ n), ascending.between_succ (Nat.le_refl n),
    between_self, List.nil_append]

/-- The entries of a log up to a position below which all numbers lie. -/
theorem since_take_eq_between {log : List α} {start stop position : Nat}
    (below : ∀ item ∈ log.take position, number item < stop)
    (above : ∀ item ∈ log.drop position, stop ≤ number item) :
    since number (log.take position) start = between number log start stop := by
  have split : between number log start stop =
      between number (log.take position) start stop ++
        between number (log.drop position) start stop := by
    rw [← between_append, List.take_append_drop]
  rw [split, between_eq_nil above, List.append_nil]
  exact since_eq_between below

/-- A log is what its entries add up to. -/
theorem Ascending.filterMap_entry {log : List α} (ascending : Ascending number log) {bound : Nat}
    (below : ∀ item ∈ log, number item < bound) :
    (List.range bound).filterMap (entry number log) = log := by
  have upTo (n : Nat) :
      (List.range n).filterMap (entry number log) = between number log 0 n := by
    induction n with
    | zero => exact (between_self log 0).symm
    | succ n induction =>
        rw [List.range_succ, List.filterMap_append, induction,
          ascending.between_succ (Nat.zero_le n)]
        cases found : entry number log n <;> simp [found]
  rw [upTo]
  exact List.filter_eq_self.mpr fun item member => by simp [below item member]

end Foundation.NumberedLog
