import Mathlib.Data.List.Perm.Subperm
import Slatestreams.AppendQueue
import Slatestreams.ConcurrentServer

/-! # The events of appends

Which appends have been put into a queue, in order, which numbers have been
returned, and which of it had happened when a task was started. -/

namespace Slatestreams

open Foundation

namespace ServerEvent

def submission : ServerEvent → Option Submission
  | .called id (.send _ command) (some replyRx) =>
      match command replyRx with
      | .append data _ => some ⟨id, data, replyRx⟩
      | _ => none
  | _ => none

def number : ServerEvent → Option UInt64
  | .returned _ _ (.appended (.ok seqNum)) => some seqNum
  | _ => none

def start : ServerEvent → Option Nat
  | .started id _ => some id
  | _ => none

end ServerEvent

def submissions (events : List ServerEvent) : List Submission :=
  events.filterMap ServerEvent.submission

/-- The numbers that appends have returned. -/
def numbers (events : List ServerEvent) : List UInt64 := events.filterMap ServerEvent.number

/-- The tasks that have been started. -/
def starts (events : List ServerEvent) : List Nat := events.filterMap ServerEvent.start

section Events

variable {events later : List ServerEvent} {event : ServerEvent}

@[simp] theorem submissions_append :
    submissions (events ++ later) = submissions events ++ submissions later :=
  List.filterMap_append

@[simp] theorem numbers_append : numbers (events ++ later) = numbers events ++ numbers later :=
  List.filterMap_append

@[simp] theorem starts_append : starts (events ++ later) = starts events ++ starts later :=
  List.filterMap_append

theorem submissions_snoc_of_none (none_ : ServerEvent.submission event = none) :
    submissions (events ++ [event]) = submissions events := by
  simp [submissions, none_]

theorem submissions_snoc {submission : Submission}
    (some_ : ServerEvent.submission event = some submission) :
    submissions (events ++ [event]) = submissions events ++ [submission] := by
  simp [submissions, some_]

theorem numbers_snoc_of_none (none_ : ServerEvent.number event = none) :
    numbers (events ++ [event]) = numbers events := by
  simp [numbers, none_]

/-- A submission is an event of the task that submits. -/
theorem submission_task {submission : Submission}
    (found : ServerEvent.submission event = some submission) :
    event.task = some submission.task := by
  unfold ServerEvent.submission at found
  split at found
  · split at found
    · cases found
      rfl
    · cases found
  · cases found

theorem start_task {id : Nat} (found : ServerEvent.start event = some id) :
    event.task = some id := by
  unfold ServerEvent.start at found
  split at found
  · cases found
    rfl
  · cases found

/-- The last event is the one looked for, or comes after it. -/
theorem snoc_eq_append_cons {before after : List ServerEvent} {found : ServerEvent}
    (split : events ++ [event] = before ++ found :: after) :
    (events = before ∧ event = found ∧ after = []) ∨
      ∃ rest, after = rest ++ [event] ∧ events = before ++ found :: rest := by
  rcases List.eq_nil_or_concat after with rfl | ⟨rest, last, rfl⟩
  · rcases List.append_inj' split rfl with ⟨same, equal⟩
    exact .inl ⟨same, (List.cons.inj equal).1, rfl⟩
  · have grouped : events ++ [event] = (before ++ found :: rest) ++ [last] := by
      simpa using split
    rcases List.append_inj' grouped rfl with ⟨same, equal⟩
    exact .inr ⟨rest, by rw [(List.cons.inj equal).1, List.concat_eq_append], same⟩

end Events

/-! ## When a task was started -/

/-- When the task was last started, `k` appends had been submitted or fewer. -/
def IssuedBy (events : List ServerEvent) (id k : Nat) : Prop :=
  ∃ before call after, events = before ++ .started id call :: after ∧
    (∀ other, .started id other ∉ after) ∧ (submissions before).length ≤ k

namespace IssuedBy

variable {events later : List ServerEvent} {event : ServerEvent} {id k : Nat}

theorem started (events : List ServerEvent) (id : Nat) (call : ServerCall) :
    IssuedBy (events ++ [.started id call]) id (submissions events).length :=
  ⟨events, call, [], rfl, fun _ member => (nomatch member), Nat.le_refl _⟩

theorem mono (issued : IssuedBy events id k) {l : Nat} (le : k ≤ l) : IssuedBy events id l := by
  rcases issued with ⟨before, call, after, split, last, fewer⟩
  exact ⟨before, call, after, split, last, Nat.le_trans fewer le⟩

theorem snoc (issued : IssuedBy events id k) (other : ServerEvent.start event ≠ some id) :
    IssuedBy (events ++ [event]) id k := by
  rcases issued with ⟨before, call, after, rfl, last, fewer⟩
  refine ⟨before, call, after ++ [event], by simp, fun again member => ?_, fewer⟩
  rcases List.mem_append.mp member with earlier | now
  · exact last again earlier
  · rw [← List.mem_singleton.mp now] at other
    exact other rfl

/-- A task that is started later has seen all that was submitted before. -/
theorem after {call : ServerCall} (issued : IssuedBy (events ++ later) id k)
    (restarted : .started id call ∈ later) : (submissions events).length ≤ k := by
  rcases issued with ⟨before, first, rest, split, last, fewer⟩
  rcases List.append_eq_append_iff.mp split with ⟨between, same, _⟩ | ⟨between, same, rest_⟩
  · rw [same, submissions_append, List.length_append] at fewer
    omega
  · cases between with
    | nil =>
        rw [List.append_nil] at same
        exact same ▸ fewer
    | cons head tail =>
        rcases List.cons.inj rest_ with ⟨_, tail_⟩
        exact absurd (tail_ ▸ List.mem_append_right _ restarted) (last call)

end IssuedBy

/-! ## Counting -/

/-- How often a task has submitted an append. -/
def submittedBy (events : List ServerEvent) (id : Nat) : Nat :=
  ((submissions events).map Submission.task).count id

def startedBy (events : List ServerEvent) (id : Nat) : Nat := (starts events).count id

theorem submissions_length_le {events : List ServerEvent}
    (each : ∀ id, submittedBy events id ≤ startedBy events id) :
    (submissions events).length ≤ (starts events).length := by
  have fewer := (List.subperm_ext_iff.mpr fun id _ => each id).length_le
  rwa [List.length_map] at fewer

section Counting

variable {events : List ServerEvent} {event : ServerEvent} {id : Nat}

/-- The events of other tasks do not count. -/
theorem submittedBy_snoc_of_ne (other : event.task ≠ some id) :
    submittedBy (events ++ [event]) id = submittedBy events id := by
  unfold submittedBy
  cases found : ServerEvent.submission event with
  | none => rw [submissions_snoc_of_none found]
  | some submission =>
      have different : submission.task ≠ id := fun same =>
        other (same ▸ submission_task found)
      simp [submissions_snoc found, different]

theorem startedBy_snoc_of_ne (other : event.task ≠ some id) :
    startedBy (events ++ [event]) id = startedBy events id := by
  unfold startedBy
  cases found : ServerEvent.start event with
  | none => simp [starts, found]
  | some started =>
      have different : started ≠ id := fun same => other (same ▸ start_task found)
      simp [starts, found, different]

end Counting

end Slatestreams
