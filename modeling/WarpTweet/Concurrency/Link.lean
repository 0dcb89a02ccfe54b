import WarpTweet.Concurrency.Guarded

/-!
# Two pools side by side

Two machines run next to each other, each over its own world, and a move is a move of
one of them. They meet only in the discipline of a run, which sees both pools: it says,
for example, that a call is started on one side only after the other has asked for it,
and that an answer is received only when there is one.

A linked run is a run of each side. So what is known of the runs of one machine holds of
its side, and only what relates the two sides needs a proof over linked runs.
-/

namespace Concurrency

variable {σ₁ C₁ A₁ X₁ σ₂ C₂ A₂ X₂ : Type} {R₁ : A₁ → Type} {R₂ : A₂ → Type} {ε₁ ε₂ : Type}

/-- The pools of the two sides. -/
structure Link (σ₁ C₁ A₁ X₁ : Type) (R₁ : A₁ → Type) (ε₁ : Type)
    (σ₂ C₂ A₂ X₂ : Type) (R₂ : A₂ → Type) (ε₂ : Type) where
  left : Config σ₁ C₁ A₁ X₁ R₁ ε₁
  right : Config σ₂ C₂ A₂ X₂ R₂ ε₂

/-- A move of one of the sides. -/
inductive LinkMove (C₁ X₁ C₂ X₂ : Type) where
  | left (move : Move C₁ X₁)
  | right (move : Move C₂ X₂)

namespace Link

/-- Both worlds with nothing in flight. -/
def idle (s₁ : σ₁) (s₂ : σ₂) : Link σ₁ C₁ A₁ X₁ R₁ ε₁ σ₂ C₂ A₂ X₂ R₂ ε₂ :=
  ⟨.idle s₁, .idle s₂⟩

/-- One move, or `none` when it cannot be made. -/
def next (M₁ : Machine σ₁ C₁ A₁ X₁ R₁ ε₁) (M₂ : Machine σ₂ C₂ A₂ X₂ R₂ ε₂)
    (l : Link σ₁ C₁ A₁ X₁ R₁ ε₁ σ₂ C₂ A₂ X₂ R₂ ε₂) :
    LinkMove C₁ X₁ C₂ X₂ → Option (Link σ₁ C₁ A₁ X₁ R₁ ε₁ σ₂ C₂ A₂ X₂ R₂ ε₂)
  | .left move => (l.left.next M₁ move).map fun left => { l with left }
  | .right move => (l.right.next M₂ move).map fun right => { l with right }

end Link

variable {M₁ : Machine σ₁ C₁ A₁ X₁ R₁ ε₁} {M₂ : Machine σ₂ C₂ A₂ X₂ R₂ ε₂}
  {D : Link σ₁ C₁ A₁ X₁ R₁ ε₁ σ₂ C₂ A₂ X₂ R₂ ε₂ → LinkMove C₁ X₁ C₂ X₂ → Prop}
  {D₁ : Config σ₁ C₁ A₁ X₁ R₁ ε₁ → Move C₁ X₁ → Prop}
  {D₂ : Config σ₂ C₂ A₂ X₂ R₂ ε₂ → Move C₂ X₂ → Prop}
  {l l₁ l₂ : Link σ₁ C₁ A₁ X₁ R₁ ε₁ σ₂ C₂ A₂ X₂ R₂ ε₂}

/-- Moves that all keep the discipline `D` lead from `l` to another pair of pools. -/
inductive LinkRun (M₁ : Machine σ₁ C₁ A₁ X₁ R₁ ε₁) (M₂ : Machine σ₂ C₂ A₂ X₂ R₂ ε₂)
    (D : Link σ₁ C₁ A₁ X₁ R₁ ε₁ σ₂ C₂ A₂ X₂ R₂ ε₂ → LinkMove C₁ X₁ C₂ X₂ → Prop)
    (l : Link σ₁ C₁ A₁ X₁ R₁ ε₁ σ₂ C₂ A₂ X₂ R₂ ε₂) :
    Link σ₁ C₁ A₁ X₁ R₁ ε₁ σ₂ C₂ A₂ X₂ R₂ ε₂ → Prop
  | refl : LinkRun M₁ M₂ D l l
  | step {l₁ l₂ : Link σ₁ C₁ A₁ X₁ R₁ ε₁ σ₂ C₂ A₂ X₂ R₂ ε₂} {move : LinkMove C₁ X₁ C₂ X₂} :
      LinkRun M₁ M₂ D l l₁ → D l₁ move → l₁.next M₁ M₂ move = some l₂ → LinkRun M₁ M₂ D l l₂

theorem Link.next_eq_some {move : LinkMove C₁ X₁ C₂ X₂} (h : l₁.next M₁ M₂ move = some l₂) :
    (∃ m left, move = .left m ∧ l₁.left.next M₁ m = some left ∧ l₂ = { l₁ with left }) ∨
    ∃ m right, move = .right m ∧ l₁.right.next M₂ m = some right ∧ l₂ = { l₁ with right } := by
  cases move with
  | left m =>
    obtain ⟨left, hnext, rfl⟩ := Option.map_eq_some_iff.1 h
    exact .inl ⟨m, left, rfl, hnext, rfl⟩
  | right m =>
    obtain ⟨right, hnext, rfl⟩ := Option.map_eq_some_iff.1 h
    exact .inr ⟨m, right, rfl, hnext, rfl⟩

namespace LinkRun

/-- What holds at the start and is kept by every allowed move of either side holds at the
end. -/
theorem induct {I : Link σ₁ C₁ A₁ X₁ R₁ ε₁ σ₂ C₂ A₂ X₂ R₂ ε₂ → Prop}
    (h : LinkRun M₁ M₂ D l l₁) (h₀ : I l)
    (hleft : ∀ {l₁ : Link σ₁ C₁ A₁ X₁ R₁ ε₁ σ₂ C₂ A₂ X₂ R₂ ε₂} {m left}, LinkRun M₁ M₂ D l l₁ →
      I l₁ → D l₁ (.left m) → l₁.left.next M₁ m = some left → I { l₁ with left })
    (hright : ∀ {l₁ : Link σ₁ C₁ A₁ X₁ R₁ ε₁ σ₂ C₂ A₂ X₂ R₂ ε₂} {m right}, LinkRun M₁ M₂ D l l₁ →
      I l₁ → D l₁ (.right m) → l₁.right.next M₂ m = some right → I { l₁ with right }) : I l₁ := by
  induction h with
  | refl => exact h₀
  | step hrun hD hnext ih =>
    rcases Link.next_eq_some hnext with ⟨m, left, rfl, hmove, rfl⟩ | ⟨m, right, rfl, hmove, rfl⟩
    · exact hleft hrun ih hD hmove
    · exact hright hrun ih hD hmove

theorem left (h : LinkRun M₁ M₂ D l l₁) (hD : ∀ l m, D l (.left m) → D₁ l.left m) :
    Run M₁ D₁ l.left l₁.left :=
  h.induct (I := fun l₁ => Run M₁ D₁ l.left l₁.left) .refl
    (fun _ ih hd hnext => .step ih (hD _ _ hd) hnext) fun _ ih _ _ => ih

theorem right (h : LinkRun M₁ M₂ D l l₁) (hD : ∀ l m, D l (.right m) → D₂ l.right m) :
    Run M₂ D₂ l.right l₁.right :=
  h.induct (I := fun l₁ => Run M₂ D₂ l.right l₁.right) .refl
    (fun _ ih _ _ => ih) fun _ ih hd hnext => .step ih (hD _ _ hd) hnext

end LinkRun

/-- Make the given moves one after the other, checking the discipline at each. -/
def runLinkMoves (M₁ : Machine σ₁ C₁ A₁ X₁ R₁ ε₁) (M₂ : Machine σ₂ C₂ A₂ X₂ R₂ ε₂)
    (D : Link σ₁ C₁ A₁ X₁ R₁ ε₁ σ₂ C₂ A₂ X₂ R₂ ε₂ → LinkMove C₁ X₁ C₂ X₂ → Prop)
    [∀ l move, Decidable (D l move)] :
    List (LinkMove C₁ X₁ C₂ X₂) → Link σ₁ C₁ A₁ X₁ R₁ ε₁ σ₂ C₂ A₂ X₂ R₂ ε₂ →
      Option (Link σ₁ C₁ A₁ X₁ R₁ ε₁ σ₂ C₂ A₂ X₂ R₂ ε₂)
  | [], l => some l
  | move :: moves, l =>
    if D l move then
      match l.next M₁ M₂ move with
      | some l' => runLinkMoves M₁ M₂ D moves l'
      | none => none
    else none

theorem LinkRun.of_runLinkMoves [∀ l move, Decidable (D l move)]
    {moves : List (LinkMove C₁ X₁ C₂ X₂)} (hl : LinkRun M₁ M₂ D l l₁)
    (h : runLinkMoves M₁ M₂ D moves l₁ = some l₂) : LinkRun M₁ M₂ D l l₂ := by
  induction moves generalizing l₁ with
  | nil =>
    simp only [runLinkMoves, Option.some.injEq] at h
    exact h ▸ hl
  | cons move moves ih =>
    simp only [runLinkMoves] at h
    split at h
    next hd =>
      cases hnext : l₁.next M₁ M₂ move with
      | none => simp [hnext] at h
      | some l' =>
        simp only [hnext] at h
        exact ih (.step hl hd hnext) h
    next => simp at h

/-- A schedule that ends in a pair of pools with a decidable property witnesses what follows
from it in a linked run that reaches it. -/
theorem LinkRun.exists_imp_of_runLinkMoves [∀ l move, Decidable (D l move)]
    {q : Link σ₁ C₁ A₁ X₁ R₁ ε₁ σ₂ C₂ A₂ X₂ R₂ ε₂ → Prop} (moves : List (LinkMove C₁ X₁ C₂ X₂))
    (p : Link σ₁ C₁ A₁ X₁ R₁ ε₁ σ₂ C₂ A₂ X₂ R₂ ε₂ → Prop) [DecidablePred p]
    (h : (runLinkMoves M₁ M₂ D moves l).any (fun l => decide (p l)) = true)
    (hq : ∀ l', LinkRun M₁ M₂ D l l' → p l' → q l') : ∃ l', LinkRun M₁ M₂ D l l' ∧ q l' := by
  obtain ⟨l', hr, hp⟩ := (Option.any_eq_true _ _).1 h
  have hrun : LinkRun M₁ M₂ D l l' := .of_runLinkMoves .refl hr
  exact ⟨l', hrun, hq l' hrun (of_decide_eq_true hp)⟩

end Concurrency
