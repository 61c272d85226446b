/-! # Interaction programs

An asynchronous function is a tree of calls into its environment. Every call
is a point at which the function may be suspended, interleaved with other
functions, or dropped; the code between two calls runs at once. One tree can be
executed by a deterministic handler, stepped by a concurrent machine, or
checked against a protocol, so all of these read the same code. -/

namespace Foundation

/-- The calls a program may make and the type of each call's answer. -/
structure Signature where
  Op : Type
  Answer : Op → Type

/-- A program that returns an `α`, panics, or calls its environment. -/
inductive Program (S : Signature) (α : Type) : Type where
  | done (value : α)
  | panic (message : String)
  | call (op : S.Op) (next : S.Answer op → Program S α)

namespace Program

variable {S T : Signature} {α β : Type}

def bind : Program S α → (α → Program S β) → Program S β
  | done value, next => next value
  | panic message, _ => panic message
  | call op continue_, next => call op fun answer => (continue_ answer).bind next

instance : Monad (Program S) where
  pure := done
  bind := bind

@[simp] theorem pure_eq (value : α) : (pure value : Program S α) = done value := rfl

@[simp] theorem bind_eq (program : Program S α) (next : α → Program S β) :
    (program >>= next) = program.bind next := rfl

@[simp] theorem map_eq (transform : α → β) (program : Program S α) :
    (transform <$> program) = program.bind fun value => done (transform value) := rfl

@[simp] theorem bind_done (value : α) (next : α → Program S β) :
    (done value : Program S α).bind next = next value := rfl

@[simp] theorem bind_panic (message : String) (next : α → Program S β) :
    (panic message : Program S α).bind next = panic message := rfl

@[simp] theorem bind_call (op : S.Op) (continue_ : S.Answer op → Program S α)
    (next : α → Program S β) :
    (call op continue_).bind next =
      call op fun answer => (continue_ answer).bind next := rfl

theorem bind_assoc {γ : Type} (program : Program S α) (next : α → Program S β)
    (after : β → Program S γ) :
    (program.bind next).bind after = program.bind fun value => (next value).bind after := by
  induction program with
  | done value => rfl
  | panic message => rfl
  | call op continue_ induction =>
      simp only [bind_call]
      congr 1
      funext answer
      exact induction answer

/-- The program that makes one call and returns its answer. -/
def perform (op : S.Op) : Program S (S.Answer op) := call op done

/-- An absent value is a panic. -/
def ofOption (message : String) : Option α → Program S α
  | some value => done value
  | none => panic message

/-- Replace every call by a program over another signature. -/
def translate (implement : (op : S.Op) → Program T (S.Answer op)) :
    Program S α → Program T α
  | done value => done value
  | panic message => panic message
  | call op next =>
      (implement op).bind fun answer => (next answer).translate implement

@[simp] theorem translate_done (implement : (op : S.Op) → Program T (S.Answer op)) (value : α) :
    (done value : Program S α).translate implement = done value := rfl

@[simp] theorem translate_panic (implement : (op : S.Op) → Program T (S.Answer op))
    (message : String) :
    (panic message : Program S α).translate implement = panic message := rfl

@[simp] theorem translate_call (implement : (op : S.Op) → Program T (S.Answer op)) (op : S.Op)
    (next : S.Answer op → Program S α) :
    (call op next).translate implement =
      (implement op).bind fun answer => (next answer).translate implement := rfl

/-! ## Deterministic execution -/

/-- Run a program to its end. A panic keeps the state it was reached in. -/
def exec {σ : Type} (handle : (op : S.Op) → σ → S.Answer op × σ) :
    Program S α → σ → Option α × σ
  | done value, state => (some value, state)
  | panic _, state => (none, state)
  | call op next, state =>
      (next (handle op state).1).exec handle (handle op state).2

theorem exec_bind {σ : Type} (handle : (op : S.Op) → σ → S.Answer op × σ)
    (program : Program S α) (next : α → Program S β) (state : σ) :
    (program.bind next).exec handle state =
      match program.exec handle state with
      | (some value, middle) => (next value).exec handle middle
      | (none, middle) => (none, middle) := by
  induction program generalizing state with
  | done value => rfl
  | panic message => rfl
  | call op continue_ induction => exact induction _ _

theorem exec_bind_some {σ : Type} {handle : (op : S.Op) → σ → S.Answer op × σ}
    {program : Program S α} (next : α → Program S β) {state : σ} {value : α}
    (returned : (program.exec handle state).1 = some value) :
    (program.bind next).exec handle state =
      (next value).exec handle (program.exec handle state).2 := by
  rw [exec_bind]
  generalize program.exec handle state = result at *
  rcases result with ⟨result, middle⟩
  subst returned
  rfl

theorem exec_bind_none {σ : Type} {handle : (op : S.Op) → σ → S.Answer op × σ}
    {program : Program S α} (next : α → Program S β) {state : σ}
    (panicked : (program.exec handle state).1 = none) :
    (program.bind next).exec handle state = (none, (program.exec handle state).2) := by
  rw [exec_bind]
  generalize program.exec handle state = result at *
  rcases result with ⟨result, middle⟩
  subst panicked
  rfl

/-! ## Programs that make some calls only -/

def Only (allowed : S.Op → Prop) : Program S α → Prop
  | done _ => True
  | panic _ => True
  | call op next => allowed op ∧ ∀ answer, (next answer).Only allowed

theorem Only.perform {allowed : S.Op → Prop} {op : S.Op} (only : allowed op) :
    (perform op).Only allowed :=
  ⟨only, fun _ => trivial⟩

theorem Only.bind {allowed : S.Op → Prop} {program : Program S α} {next : α → Program S β}
    (only : program.Only allowed) (then_ : ∀ value, (next value).Only allowed) :
    (program.bind next).Only allowed := by
  induction program with
  | done value => exact then_ value
  | panic message => trivial
  | call op continue_ induction => exact ⟨only.1, fun answer => induction answer (only.2 answer)⟩

/-- A program whose calls change nothing changes nothing. -/
theorem Only.exec_eq {σ : Type} {handle : (op : S.Op) → σ → S.Answer op × σ}
    {allowed : S.Op → Prop} (inert : ∀ op state, allowed op → (handle op state).2 = state)
    {program : Program S α} (only : program.Only allowed) (state : σ) :
    (program.exec handle state).2 = state := by
  induction program with
  | done value => rfl
  | panic message => rfl
  | call op next induction =>
      rw [exec, inert op state only.1]
      exact induction _ (only.2 _)

/-! ## Executions with chosen answers -/

section Executes

variable {σ : Type} (answers : σ → (op : S.Op) → S.Answer op → σ → Prop)

/-- The program runs to its end, every call answered as `answers` permits. -/
inductive Executes : Program S α → σ → α → σ → Prop where
  | returned (value : α) (state : σ) : Executes (done value) state value state
  | answered {op : S.Op} {next : S.Answer op → Program S α} {answer : S.Answer op}
      {state middle final : σ} {value : α} :
      answers state op answer middle → Executes (next answer) middle value final →
      Executes (call op next) state value final

/-- The program is cut off after some of its calls and never returns. -/
inductive Cut : Program S α → σ → σ → Prop where
  | here (program : Program S α) (state : σ) : Cut program state state
  | answered {op : S.Op} {next : S.Answer op → Program S α} {answer : S.Answer op}
      {state middle final : σ} :
      answers state op answer middle → Cut (next answer) middle final →
      Cut (call op next) state final

variable {answers}

theorem executes_call {op : S.Op} {next : S.Answer op → Program S α} {state final : σ}
    {result : α} :
    Executes answers (.call op next) state result final ↔
      ∃ answer middle, answers state op answer middle ∧
        Executes answers (next answer) middle result final :=
  ⟨fun executes => by cases executes with | answered taken rest => exact ⟨_, _, taken, rest⟩,
    fun ⟨_, _, taken, rest⟩ => .answered taken rest⟩

@[simp] theorem executes_done {value result : α} {state final : σ} :
    Executes answers (done value : Program S α) state result final ↔
      result = value ∧ final = state :=
  ⟨fun executes => by cases executes; exact ⟨rfl, rfl⟩,
    fun ⟨equal, same⟩ => equal ▸ same ▸ .returned _ _⟩

@[simp] theorem executes_panic {message : String} {state final : σ} {result : α} :
    ¬Executes answers (panic message : Program S α) state result final :=
  fun executes => nomatch executes

theorem cut_call {op : S.Op} {next : S.Answer op → Program S α} {state final : σ} :
    Cut answers (.call op next) state final ↔
      final = state ∨ ∃ answer middle, answers state op answer middle ∧
        Cut answers (next answer) middle final := by
  constructor
  · intro cut
    cases cut with
    | here => exact .inl rfl
    | answered taken rest => exact .inr ⟨_, _, taken, rest⟩
  · rintro (rfl | ⟨_, _, taken, rest⟩)
    · exact .here _ _
    · exact .answered taken rest

@[simp] theorem cut_done {value : α} {state final : σ} :
    Cut answers (done value : Program S α) state final ↔ final = state :=
  ⟨fun cut => by cases cut; rfl, fun same => same ▸ .here _ _⟩

@[simp] theorem cut_panic {message : String} {state final : σ} :
    Cut answers (panic message : Program S α) state final ↔ final = state :=
  ⟨fun cut => by cases cut; rfl, fun same => same ▸ .here _ _⟩

end Executes

/-! ## Protocols

A protocol follows one program with a ghost state. It says which calls are
allowed in a ghost state, where the program may panic, which answers can come
back, and what the program has learnt once an answer is in. -/

structure Protocol (S : Signature) (γ : Type) where
  Allowed : γ → S.Op → Prop
  MayPanic : γ → Prop
  Possible : γ → (op : S.Op) → S.Answer op → Prop
  learn : γ → (op : S.Op) → S.Answer op → γ

/-- Every call the program makes is allowed, whatever the answers are, and what
it returns satisfies `post` in the ghost state it returns in. -/
def Meets {γ : Type} (protocol : Protocol S γ) (post : γ → α → Prop) :
    γ → Program S α → Prop
  | ghost, done value => post ghost value
  | ghost, panic _ => protocol.MayPanic ghost
  | ghost, call op next =>
      protocol.Allowed ghost op ∧
        ∀ answer, protocol.Possible ghost op answer →
          Meets protocol post (protocol.learn ghost op answer) (next answer)

section Meets

variable {γ : Type} {protocol : Protocol S γ}

theorem Meets.bind {post : γ → β → Prop} {ghost : γ} {program : Program S α}
    {next : α → Program S β}
    (meets : Meets protocol (fun ghost value => Meets protocol post ghost (next value))
      ghost program) :
    Meets protocol post ghost (program.bind next) := by
  induction program generalizing ghost with
  | done value => exact meets
  | panic message => exact meets
  | call op continue_ induction =>
      exact ⟨meets.1, fun answer possible => induction answer (meets.2 answer possible)⟩

theorem Meets.weaken {post weaker : γ → α → Prop} {ghost : γ} {program : Program S α}
    (implies : ∀ ghost value, post ghost value → weaker ghost value)
    (meets : Meets protocol post ghost program) :
    Meets protocol weaker ghost program := by
  induction program generalizing ghost with
  | done value => exact implies _ _ meets
  | panic message => exact meets
  | call op continue_ induction =>
      exact ⟨meets.1, fun answer possible => induction answer (meets.2 answer possible)⟩

end Meets

end Program

end Foundation
