import Mathlib

/-!
# Programs of atomic actions

A fallible sequential program that talks to a shared world through atomic
actions: it returns a value, fails with an error, or performs one action and
continues with the reply. Between two actions anything may happen to the world,
and a program may be cut off before any of its actions, so the tree records
exactly the points at which a concurrent or crashing run can interfere.

The module names nothing but the tree. How an action changes the world is a
parameter of the pool in `WarpTweet.Concurrency.Pool`.
-/

namespace Concurrency

/-- A program over actions `A` with replies `R`, errors `ε` and results `α`. -/
inductive Prog (A : Type) (R : A → Type) (ε α : Type) where
  | done (value : α)
  | fail (error : ε)
  | act (action : A) (next : R action → Prog A R ε α)

namespace Prog

variable {A : Type} {R : A → Type} {ε α β γ ι : Type}

/-- Run the first program, then the second on its result. An error ends both. -/
def bind : Prog A R ε α → (α → Prog A R ε β) → Prog A R ε β
  | done value, next => next value
  | fail error, _ => fail error
  | act action rest, next => act action fun reply => (rest reply).bind next

/-- Turn the outcome of a program into a value, so that the caller goes on after
an error. Deferred clean-up and best-effort steps are written with it. -/
def attempt : Prog A R ε α → Prog A R ε (Except ε α)
  | done value => done (.ok value)
  | fail error => done (.error error)
  | act action rest => act action fun reply => (rest reply).attempt

/-- Rewrite the error of a program. -/
def mapError (f : ε → ε) : Prog A R ε α → Prog A R ε α
  | done value => done value
  | fail error => fail (f error)
  | act action rest => act action fun reply => (rest reply).mapError f

/-- A computed result that may already be an error. -/
def ofExcept : Except ε α → Prog A R ε α
  | .ok value => done value
  | .error error => fail error

/-- One action, returning its reply. -/
def perform (action : A) : Prog A R ε (R action) :=
  act action done

instance : Monad (Prog A R ε) where
  pure := done
  bind := bind

instance : MonadExcept ε (Prog A R ε) where
  throw := fail
  tryCatch program handler := program.attempt.bind fun
    | .ok value => done value
    | .error error => handler error

@[simp]
theorem pure_eq_done (value : α) : (pure value : Prog A R ε α) = done value := rfl

@[simp]
theorem bind_eq (program : Prog A R ε α) (next : α → Prog A R ε β) :
    (program >>= next) = program.bind next := rfl

/-- Run `body` after `acquire`, and `release` after the body whether or not it
failed, as a deferred unlock does. -/
def bracket (acquire release : Prog A R ε Unit) (body : Prog A R ε α) : Prog A R ε α :=
  acquire.bind fun _ => body.attempt.bind fun outcome => release.bind fun _ => ofExcept outcome

/-- Thread a value through a list, one program per element, from left to right. -/
def fold (step : β → ι → Prog A R ε β) : List ι → β → Prog A R ε β
  | [], value => done value
  | item :: items, value => (step value item).bind (fold step items)

/-- Run one program per element and collect the results, from left to right. -/
def collect (step : ι → Prog A R ε α) : List ι → Prog A R ε (List α)
  | [] => done []
  | item :: items =>
    (step item).bind fun value => (collect step items).bind fun values => done (value :: values)

/-! ## The actions a program can reach -/

/-- Every action the program can come to, whatever the replies, satisfies `p`. -/
def Uses (p : A → Prop) : Prog A R ε α → Prop
  | done _ => True
  | fail _ => True
  | act action rest => p action ∧ ∀ reply, Uses p (rest reply)

variable {p : A → Prop}

@[simp]
theorem uses_ofExcept {outcome : Except ε α} : Uses p (ofExcept outcome : Prog A R ε α) := by
  cases outcome <;> trivial

@[simp]
theorem uses_perform {action : A} : Uses p (perform action : Prog A R ε (R action)) ↔ p action :=
  ⟨And.left, fun h => ⟨h, fun _ => trivial⟩⟩

theorem Uses.mono {q : A → Prop} {program : Prog A R ε α} (h : Uses p program)
    (hpq : ∀ action, p action → q action) : Uses q program := by
  induction program with
  | done value => trivial
  | fail error => trivial
  | act action rest ih => exact ⟨hpq action h.1, fun reply => ih reply (h.2 reply)⟩

theorem uses_always {program : Prog A R ε α} (h : ∀ action, p action) : Uses p program := by
  induction program with
  | done value => trivial
  | fail error => trivial
  | act action rest ih => exact ⟨h action, ih⟩

theorem Uses.bind {program : Prog A R ε α} {next : α → Prog A R ε β} (h : Uses p program)
    (hnext : ∀ value, Uses p (next value)) : Uses p (program.bind next) := by
  induction program with
  | done value => exact hnext value
  | fail error => trivial
  | act action rest ih => exact ⟨h.1, fun reply => ih reply (h.2 reply)⟩

theorem Uses.ite {c : Prop} [Decidable c] {program other : Prog A R ε α} (h : c → Uses p program)
    (hother : ¬ c → Uses p other) : Uses p (if c then program else other) := by
  split
  · exact h ‹c›
  · exact hother ‹¬ c›

theorem Uses.attempt {program : Prog A R ε α} (h : Uses p program) : Uses p program.attempt := by
  induction program with
  | done value => trivial
  | fail error => trivial
  | act action rest ih => exact ⟨h.1, fun reply => ih reply (h.2 reply)⟩

theorem Uses.mapError {program : Prog A R ε α} {f : ε → ε} (h : Uses p program) :
    Uses p (program.mapError f) := by
  induction program with
  | done value => trivial
  | fail error => trivial
  | act action rest ih => exact ⟨h.1, fun reply => ih reply (h.2 reply)⟩

theorem Uses.fold {step : β → ι → Prog A R ε β} (h : ∀ value item, Uses p (step value item))
    (items : List ι) (value : β) : Uses p (Prog.fold step items value) := by
  induction items generalizing value with
  | nil => trivial
  | cons item items ih => exact (h value item).bind ih

theorem Uses.collect {step : ι → Prog A R ε α} (h : ∀ item, Uses p (step item))
    (items : List ι) : Uses p (Prog.collect step items) := by
  induction items with
  | nil => trivial
  | cons item items ih => exact (h item).bind fun _ => ih.bind fun _ => trivial

end Prog

end Concurrency
