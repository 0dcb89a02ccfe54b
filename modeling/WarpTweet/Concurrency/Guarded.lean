import WarpTweet.Concurrency.Pool

/-!
# What each step of a process is guarded by

A protocol names, for every process, what it can rely on the others not to
change, the guard under which it takes each of its own actions, and what holds
when it returns. The guard sees the call, what the call has done so far and the
world at that moment; the rules below derive it by walking once through the
program of a call, with the interference of the others between any two actions.
A protocol may also assume something of the outcomes the environment chooses.

The result, `Run.invariant`, is the only thing the analysis of a run needs to know
about programs: whatever a process does in any run, it does under its guard.
-/

namespace Concurrency

variable {σ C A X : Type} {R : A → Type} {ε α β ι : Type}

/-- What a process relies on, what is assumed of the environment, the guard of the
actions of a process, and what holds when a call has returned. Guarded actions and
the end of a process keep what every other process relies on. -/
structure Protocol (M : Machine σ C A X R ε) where
  Rely : ℕ → σ → σ → Prop
  Assume : ℕ → C → List (Step A X R) → A → X → σ → Prop := fun _ _ _ _ _ _ => True
  Guard : ℕ → C → List (Step A X R) → A → X → σ → Prop
  Ends : ℕ → C → Except ε Unit → List (Step A X R) → σ → Prop := fun _ _ _ _ _ => True
  rely_refl : ∀ pid s, Rely pid s s
  rely_trans : ∀ {pid s s' s''}, Rely pid s s' → Rely pid s' s'' → Rely pid s s''
  guard_rely : ∀ {pid pid' call hist action choice s reply s'}, pid' ≠ pid →
    Guard pid call hist action choice s →
    M.perform pid action choice s = some (reply, s') → Rely pid' s s'
  release_rely : ∀ {pid pid' s}, pid' ≠ pid → Rely pid' s (M.release pid s)
  ends_rely : ∀ {pid call outcome hist s s'}, Rely pid s s' →
    Ends pid call outcome hist s → Ends pid call outcome hist s' := by intros; trivial

variable {M : Machine σ C A X R ε} {P : Protocol M}

/-- The rest of process `pid`, which has done `hist`, takes every action under its
guard from any world the others may have made of `s`, and returns with `Q`. -/
def Ensures (P : Protocol M) (pid : ℕ) (call : C) :
    Prog A R ε α → List (Step A X R) → σ →
      (Except ε α → List (Step A X R) → σ → Prop) → Prop
  | .done value, hist, s, Q => Q (.ok value) hist s
  | .fail error, hist, s, Q => Q (.error error) hist s
  | .act action rest, hist, s, Q =>
    ∀ s₁, P.Rely pid s s₁ → ∀ choice reply s₂,
      P.Assume pid call hist action choice s₁ →
      M.perform pid action choice s₁ = some (reply, s₂) →
        P.Guard pid call hist action choice s₁ ∧
          Ensures P pid call (rest reply) (⟨action, choice, reply⟩ :: hist) s₂ Q

variable {pid : ℕ} {call : C} {hist : List (Step A X R)} {s : σ} {program : Prog A R ε α}
  {Q : α → List (Step A X R) → Prop} {N : β → List (Step A X R) → Prop}
  {action : A} {f : ε → ε} {p : A → Prop} {error : ε} {outcome : Except ε α}
  {I : List (Step A X R) → σ → Prop} {rest : R action → Prog A R ε Unit} {choice : X}
  {reply : R action} {state : σ}

section

variable {s₁ : σ} {Q Q' : Except ε α → List (Step A X R) → σ → Prop}

theorem Ensures.mono (h : Ensures P pid call program hist s Q)
    (hQ : ∀ outcome hist s, Q outcome hist s → Q' outcome hist s) :
    Ensures P pid call program hist s Q' := by
  induction program generalizing hist s with
  | done value => exact hQ _ _ _ h
  | fail error => exact hQ _ _ _ h
  | act action rest ih =>
    intro s₁ hrely choice reply s₂ hassume hperform
    obtain ⟨hguard, hrest⟩ := h s₁ hrely choice reply s₂ hassume hperform
    exact ⟨hguard, ih reply hrest⟩

/-- What is done with a program that acts as it does, and differs from it at the end only. -/
theorem ensures_of_act {program : Prog A R ε β} {f : Prog A R ε β → Prog A R ε α}
    {N : Except ε β → List (Step A X R) → σ → Prop}
    (hact : ∀ action rest, f (.act action rest) = .act action fun reply => f (rest reply))
    (hend : ∀ outcome hist s, Ensures P pid call (f (.ofExcept outcome)) hist s Q ↔
      N outcome hist s) :
    Ensures P pid call (f program) hist s Q ↔ Ensures P pid call program hist s N := by
  induction program generalizing hist s with
  | done value => exact hend (.ok value) hist s
  | fail error => exact hend (.error error) hist s
  | act action rest ih =>
    rw [hact]
    constructor
    · intro h s₁ hrely choice reply s₂ hassume hperform
      obtain ⟨hguard, hrest⟩ := h s₁ hrely choice reply s₂ hassume hperform
      exact ⟨hguard, (ih reply).1 hrest⟩
    · intro h s₁ hrely choice reply s₂ hassume hperform
      obtain ⟨hguard, hrest⟩ := h s₁ hrely choice reply s₂ hassume hperform
      exact ⟨hguard, (ih reply).2 hrest⟩

theorem ensures_bind {program : Prog A R ε β} {next : β → Prog A R ε α} :
    Ensures P pid call (program.bind next) hist s Q ↔
      Ensures P pid call program hist s fun outcome hist s =>
        match outcome with
        | .ok value => Ensures P pid call (next value) hist s Q
        | .error error => Q (.error error) hist s := by
  refine ensures_of_act (f := fun program => program.bind next) (fun _ _ => rfl) ?_
  rintro (error | value) hist s <;> rfl

theorem ensures_attempt {program : Prog A R ε β}
    {Q : Except ε (Except ε β) → List (Step A X R) → σ → Prop} :
    Ensures P pid call program.attempt hist s Q ↔
      Ensures P pid call program hist s fun outcome hist s => Q (.ok outcome) hist s := by
  refine ensures_of_act (f := Prog.attempt) (fun _ _ => rfl) ?_
  rintro (error | value) hist s <;> rfl

theorem ensures_mapError : Ensures P pid call (program.mapError f) hist s Q ↔
      Ensures P pid call program hist s fun outcome hist s => Q (outcome.mapError f) hist s := by
  refine ensures_of_act (f := Prog.mapError f) (fun _ _ => rfl) ?_
  rintro (error | value) hist s <;> rfl

@[simp]
theorem ensures_ofExcept :
    Ensures P pid call (.ofExcept outcome : Prog A R ε α) hist s Q ↔ Q outcome hist s := by
  cases outcome <;> rfl

theorem Ensures.of_rely (h : Ensures P pid call program hist s Q) (hrely : P.Rely pid s s₁)
    (hQ : ∀ outcome hist s s₁, P.Rely pid s s₁ → Q outcome hist s → Q outcome hist s₁) :
    Ensures P pid call program hist s₁ Q := by
  cases program with
  | done value => exact hQ _ _ _ _ hrely h
  | fail error => exact hQ _ _ _ _ hrely h
  | act action rest =>
    intro s₂ hrely₂
    exact h s₂ (P.rely_trans hrely hrely₂)

end

/-- A protocol that only looks at what a process has done so far: nothing is relied on,
`guard` says what a call may do next, and `ends` what it has done when it returns. -/
def historyProtocol (M : Machine σ C A X R ε) (guard : C → List (Step A X R) → A → Prop)
    (ends : C → Except ε Unit → List (Step A X R) → Prop) : Protocol M where
  Rely _ _ _ := True
  Guard _ call hist action _ _ := guard call hist action
  Ends _ call outcome hist _ := ends call outcome hist
  rely_refl _ _ := trivial
  rely_trans _ _ := trivial
  guard_rely _ _ _ := trivial
  release_rely _ := trivial
  ends_rely _ h := h

theorem Ensures.of_always
    (hguard : ∀ steps action choice s, P.Guard pid call (steps ++ hist) action choice s) :
    Ensures P pid call program hist s fun _ _ _ => True := by
  induction program generalizing hist s with
  | done value => trivial
  | fail error => trivial
  | act action rest ih =>
    intro s₁ _ choice reply s₂ _ _
    refine ⟨hguard [] action choice s₁, ih reply ?_⟩
    intro steps action' choice' s'
    have h := hguard (steps ++ [⟨action, choice, reply⟩]) action' choice' s'
    rwa [List.append_assoc, List.singleton_append] at h

/-- The program follows the protocol. When it returns a value, `Q` holds of the value and
of all that the process has done by then. -/
def Traces (P : Protocol M) (pid : ℕ) (call : C) (program : Prog A R ε α)
    (hist : List (Step A X R)) (s : σ) (Q : α → List (Step A X R) → Prop) : Prop :=
  Ensures P pid call program hist s fun outcome hist' _ =>
    hist ⊆ hist' ∧ ∀ value, outcome = .ok value → Q value hist'

theorem traces_done {value : α} (h : Q value hist) : Traces P pid call (.done value) hist s Q := by
  refine ⟨fun _ => id, fun value' heq => ?_⟩
  cases heq
  exact h

theorem traces_fail : Traces P pid call (.fail error : Prog A R ε α) hist s Q := by
  refine ⟨fun _ => id, fun value' heq => ?_⟩
  cases heq

theorem Traces.mono {Q₁ : α → List (Step A X R) → Prop} (h : Traces P pid call program hist s Q₁)
    (hQ : ∀ value hist', hist ⊆ hist' → Q₁ value hist' → Q value hist') :
    Traces P pid call program hist s Q := by
  refine Ensures.mono h ?_
  rintro outcome hist' s' ⟨hsub, hvalue⟩
  exact ⟨hsub, fun value heq => hQ value hist' hsub (hvalue value heq)⟩

theorem Traces.bind {program : Prog A R ε β} {next : β → Prog A R ε α}
    (h : Traces P pid call program hist s N)
    (hnext : ∀ value hist' s', hist ⊆ hist' → N value hist' →
      Traces P pid call (next value) hist' s' Q) :
    Traces P pid call (program.bind next) hist s Q := by
  refine ensures_bind.2 (Ensures.mono h ?_)
  rintro (error | value) hist' s' ⟨hsub, hvalue⟩
  · exact ⟨hsub, fun _ heq => by cases heq⟩
  · refine Ensures.mono (hnext value hist' s' hsub (hvalue value rfl)) ?_
    rintro outcome hist'' s'' ⟨hsub', hQ⟩
    exact ⟨fun _ hmem => hsub' (hsub hmem), hQ⟩

theorem Traces.mapError (h : Traces P pid call program hist s Q) :
    Traces P pid call (program.mapError f) hist s Q := by
  refine ensures_mapError.2 (Ensures.mono h ?_)
  rintro (error | value) hist' s' ⟨hsub, hvalue⟩
  · exact ⟨hsub, fun _ heq => by cases heq⟩
  · refine ⟨hsub, fun _ heq => ?_⟩
    cases heq
    exact hvalue value rfl

theorem Traces.attempt {program : Prog A R ε β} (h : Traces P pid call program hist s N) :
    Traces P pid call program.attempt hist s fun outcome hist' =>
      ∀ value, outcome = .ok value → N value hist' := by
  refine ensures_attempt.2 (Ensures.mono h ?_)
  rintro outcome hist' s' ⟨hsub, hvalue⟩
  refine ⟨hsub, fun _ heq => ?_⟩
  cases heq
  exact hvalue

theorem traces_perform
    (hguard : ∀ choice s₁, P.Rely pid s s₁ → P.Guard pid call hist action choice s₁) :
    Traces P pid call (Prog.perform action) hist s fun reply hist' =>
      ∃ choice s₁ s₂, hist' = ⟨action, choice, reply⟩ :: hist ∧
        M.perform pid action choice s₁ = some (reply, s₂) := by
  intro s₁ hrely choice reply s₂ _ hperform
  refine ⟨hguard choice s₁ hrely, List.subset_cons_self _ _, fun _ heq => ?_⟩
  cases heq
  exact ⟨choice, s₁, s₂, rfl, hperform⟩

theorem traces_of_uses (huses : program.Uses p)
    (hguard : ∀ action, p action → ∀ hist choice s, P.Guard pid call hist action choice s) :
    Traces P pid call program hist s fun _ hist' => ∀ step ∈ hist', step ∈ hist ∨ p step.action := by
  induction program generalizing hist s with
  | done value => exact traces_done fun _ => .inl
  | fail error => exact traces_fail
  | act action rest ih =>
    refine Traces.bind (traces_perform fun choice s₁ _ => hguard action huses.1 hist choice s₁) ?_
    rintro reply hist₁ s₁ - ⟨choice, _, _, rfl, -⟩
    refine (ih reply (huses.2 reply)).mono fun _ hist₂ _ hsteps step hmem => ?_
    rcases hsteps step hmem with hbefore | hp
    · rcases List.mem_cons.1 hbefore with rfl | hbefore
      · exact .inr huses.1
      · exact .inl hbefore
    · exact .inr hp

section

variable (huses : program.Uses p) (hI : I hist s)
  (hrely : ∀ {hist s s₁}, P.Rely pid s s₁ → I hist s → I hist s₁)
  (hstep : ∀ {action hist choice reply s s₁}, p action →
    P.Assume pid call hist action choice s → M.perform pid action choice s = some (reply, s₁) →
    I hist s → P.Guard pid call hist action choice s ∧ I (⟨action, choice, reply⟩ :: hist) s₁)

include huses hI hrely hstep in
/-- A program that keeps to actions which are guarded by `I` and keep it, where the others
keep it too. -/
theorem Ensures.of_uses : Ensures P pid call program hist s fun _ hist s => I hist s := by
  induction program generalizing hist s with
  | done value => exact hI
  | fail error => exact hI
  | act action rest ih =>
    intro s₁ hs choice reply s₂ hassume hperform
    obtain ⟨hguard, hnext⟩ := hstep huses.1 hassume hperform (hrely hs hI)
    exact ⟨hguard, ih reply (huses.2 reply) hnext⟩

/-- The program follows the protocol. When it returns a value, `Q` holds of the value, of what
the process has done by then and of the world. -/
def Yields (P : Protocol M) (pid : ℕ) (call : C) (program : Prog A R ε α)
    (hist : List (Step A X R)) (s : σ) (Q : α → List (Step A X R) → σ → Prop) : Prop :=
  Ensures P pid call program hist s fun outcome hist s => ∀ value, outcome = .ok value →
    Q value hist s

variable {Q : α → List (Step A X R) → σ → Prop} {N : β → List (Step A X R) → σ → Prop}

theorem yields_done {value : α} (h : Q value hist s) :
    Yields P pid call (.done value) hist s Q := by
  intro value' heq
  cases heq
  exact h

theorem yields_fail : Yields P pid call (.fail error : Prog A R ε α) hist s Q := by
  intro value' heq
  cases heq

theorem Yields.mono {Q₁ : α → List (Step A X R) → σ → Prop}
    (h : Yields P pid call program hist s Q₁)
    (hQ : ∀ value hist s, Q₁ value hist s → Q value hist s) : Yields P pid call program hist s Q :=
  Ensures.mono h fun _ _ _ hvalue value heq => hQ value _ _ (hvalue value heq)

theorem Yields.bind {program : Prog A R ε β} {next : β → Prog A R ε α}
    (h : Yields P pid call program hist s N)
    (hnext : ∀ value hist s, N value hist s → Yields P pid call (next value) hist s Q) :
    Yields P pid call (program.bind next) hist s Q := by
  refine ensures_bind.2 (Ensures.mono h ?_)
  rintro (error | value) hist' s' hvalue
  · exact fun _ heq => by cases heq
  · exact hnext value hist' s' (hvalue value rfl)

theorem Yields.ite {c : Prop} [Decidable c] {other : Prog A R ε α}
    (h : c → Yields P pid call program hist s Q) (hother : ¬ c → Yields P pid call other hist s Q) :
    Yields P pid call (if c then program else other) hist s Q := by
  split
  · exact h ‹c›
  · exact hother ‹¬ c›

theorem yields_ofExcept (h : ∀ value, outcome = .ok value → Q value hist s) :
    Yields P pid call (.ofExcept outcome) hist s Q :=
  ensures_ofExcept.2 h

theorem Yields.mapError (h : Yields P pid call program hist s Q) :
    Yields P pid call (program.mapError f) hist s Q := by
  refine ensures_mapError.2 (Ensures.mono h ?_)
  rintro (error | value) hist' s' hvalue
  · exact fun _ heq => by cases heq
  · exact hvalue

theorem Yields.attempt {program : Prog A R ε β} (h : Yields P pid call program hist s N) :
    Yields P pid call program.attempt hist s fun outcome hist' s' =>
      ∀ value, outcome = .ok value → N value hist' s' := by
  refine ensures_attempt.2 (Ensures.mono h ?_)
  intro outcome hist' s' hvalue _ heq
  cases heq
  exact hvalue

/-- A loop: `I` relates the elements that are left, the value so far and the world. -/
theorem yields_fold {step : β → ι → Prog A R ε β} {I : List ι → β → σ → Prop} {items : List ι}
    {value : β} (hI : I items value s)
    (hstep : ∀ item items value hist s, I (item :: items) value s →
      Yields P pid call (step value item) hist s fun value _ s => I items value s) :
    Yields P pid call (Prog.fold step items value) hist s fun value _ s => I [] value s := by
  induction items generalizing value hist s with
  | nil => exact yields_done hI
  | cons item items ih =>
    exact Yields.bind (hstep item items value hist s hI) fun value hist s hI => ih hI

theorem yields_perform {Q : R action → List (Step A X R) → σ → Prop}
    (h : ∀ s₁, P.Rely pid s s₁ → ∀ choice reply s₂, P.Assume pid call hist action choice s₁ →
      M.perform pid action choice s₁ = some (reply, s₂) →
      P.Guard pid call hist action choice s₁ ∧ Q reply (⟨action, choice, reply⟩ :: hist) s₂) :
    Yields P pid call (Prog.perform action) hist s Q := by
  intro s₁ hrely choice reply s₂ hassume hperform
  obtain ⟨hguard, hQ⟩ := h s₁ hrely choice reply s₂ hassume hperform
  refine ⟨hguard, fun value heq => ?_⟩
  cases heq
  exact hQ

include huses hI hrely hstep in
theorem yields_of_uses : Yields P pid call program hist s fun _ => I :=
  (Ensures.of_uses huses hI hrely hstep).mono fun _ _ _ h _ _ => h

end

section

variable {E : List (Step A X R) → Prop}

/-- The program follows the protocol. When it returns a value, `Q` holds of the value and
of what the process has done by then; when it fails, `E` does. -/
def Leaves (P : Protocol M) (pid : ℕ) (call : C) (program : Prog A R ε α)
    (hist : List (Step A X R)) (s : σ) (Q : α → List (Step A X R) → Prop)
    (E : List (Step A X R) → Prop) : Prop :=
  Ensures P pid call program hist s fun outcome hist' _ =>
    match outcome with
    | .ok value => Q value hist'
    | .error _ => E hist'

theorem leaves_done {value : α} (h : Q value hist) : Leaves P pid call (.done value) hist s Q E := h

theorem leaves_fail (h : E hist) : Leaves P pid call (.fail error : Prog A R ε α) hist s Q E := h

theorem Leaves.bind {program : Prog A R ε β} {next : β → Prog A R ε α}
    (h : Leaves P pid call program hist s N E)
    (hnext : ∀ value hist' s', N value hist' → Leaves P pid call (next value) hist' s' Q E) :
    Leaves P pid call (program.bind next) hist s Q E := by
  refine ensures_bind.2 (Ensures.mono h ?_)
  rintro (error | value) hist' s' h
  · exact h
  · exact hnext value hist' s' h

theorem Leaves.mapError {program : Prog A R ε α} (h : Leaves P pid call program hist s Q E) :
    Leaves P pid call (program.mapError f) hist s Q E := by
  refine ensures_mapError.2 (Ensures.mono h ?_)
  rintro (error | value) hist' s' h
  · exact h
  · exact h

theorem Leaves.attempt {program : Prog A R ε β} {F : List (Step A X R) → Prop}
    (h : Leaves P pid call program hist s N F) :
    Leaves P pid call program.attempt hist s (fun outcome hist' =>
      match outcome with
      | .ok value => N value hist'
      | .error _ => F hist') E :=
  ensures_attempt.2 (Ensures.mono h fun _ _ _ h => h)

theorem leaves_perform {Q : R action → List (Step A X R) → Prop}
    (h : ∀ choice reply s₁ s₂, P.Rely pid s s₁ → P.Assume pid call hist action choice s₁ →
      M.perform pid action choice s₁ = some (reply, s₂) →
      P.Guard pid call hist action choice s₁ ∧ Q reply (⟨action, choice, reply⟩ :: hist)) :
    Leaves P pid call (Prog.perform action) hist s Q E :=
  fun s₁ hrely choice reply s₂ hassume hperform => h choice reply s₁ s₂ hrely hassume hperform

/-- A program all of whose actions keep what is known of the history, and are guarded by
it. -/
theorem leaves_of_uses {program : Prog A R ε α} {I : List (Step A X R) → Prop}
    (huses : program.Uses p) (hI : I hist)
    (hguard : ∀ action, p action → ∀ hist choice s, I hist → P.Guard pid call hist action choice s)
    (hkeep : ∀ action, p action → ∀ hist choice reply, I hist →
      I (⟨action, choice, reply⟩ :: hist)) : Leaves P pid call program hist s (fun _ => I) I := by
  refine (Ensures.of_uses (I := fun hist _ => I hist) huses hI (fun _ h => h) ?_).mono ?_
  · exact fun hp _ _ h => ⟨hguard _ hp _ _ _ h, hkeep _ hp _ _ _ h⟩
  · rintro (error | value) hist' s' h
    · exact h
    · exact h

end

variable {D : Config σ C A X R ε → Move C X → Prop} {c c₁ c₂ : Config σ C A X R ε}
  {process : Process C A X R ε}

/-- Every process of the pool takes the rest of its actions under their guards, and
returns as the protocol says. -/
def PoolGuarded (P : Protocol M) (c : Config σ C A X R ε) : Prop :=
  ∀ pid process, c.procs pid = some process →
    Ensures P pid process.call process.prog process.hist c.state (P.Ends pid process.call)

theorem PoolGuarded.idle : PoolGuarded P (Config.idle s) := by
  intro pid process h
  simp [Config.idle] at h

private theorem PoolGuarded.others (pid : ℕ) {procs : ℕ → Option (Process C A X R ε)}
    (h : PoolGuarded P c) (hrely : ∀ pid', pid' ≠ pid → P.Rely pid' c.state s)
    (hprocs : ∀ pid', pid' ≠ pid → procs pid' = c.procs pid')
    {pid' : ℕ} (hne : pid' ≠ pid) (hp : procs pid' = some process) :
    Ensures P pid' process.call process.prog process.hist s (P.Ends pid' process.call) := by
  rw [hprocs pid' hne] at hp
  exact (h pid' process hp).of_rely (hrely pid' hne) fun _ _ _ _ hrely => P.ends_rely hrely

theorem PoolGuarded.started {call : C} (h : PoolGuarded P c)
    (hcall : Ensures P pid call (M.program call) [] c.state (P.Ends pid call)) :
    PoolGuarded P (c.started M pid call) := by
  intro pid' process' hp'
  by_cases hpid : pid' = pid
  · subst hpid
    simp only [Config.started, Function.update_self, Option.some.injEq] at hp'
    subst hp'
    exact hcall
  · refine h.others pid (fun _ _ => P.rely_refl _ _) (fun _ hne => ?_) hpid hp'
    exact Function.update_of_ne hne _ _

theorem PoolGuarded.advanced (h : PoolGuarded P c) (hp : c.procs pid = some process)
    (hprog : process.prog = .act action rest)
    (hassume : P.Assume pid process.call process.hist action choice c.state)
    (hperform : M.perform pid action choice c.state = some (reply, state)) :
    P.Guard pid process.call process.hist action choice c.state ∧
      PoolGuarded P (c.advanced pid process ⟨action, choice, reply⟩ (rest reply) state) := by
  have hself := h pid process hp
  rw [hprog] at hself
  obtain ⟨hguard, hrest⟩ :=
    hself c.state (P.rely_refl _ _) choice reply state hassume hperform
  refine ⟨hguard, ?_⟩
  intro pid' process' hp'
  by_cases hpid : pid' = pid
  · subst hpid
    simp only [Config.advanced, Function.update_self, Option.some.injEq] at hp'
    subst hp'
    exact hrest
  · refine h.others pid (fun _ hne => ?_) (fun _ hne => ?_) hpid hp'
    · exact P.guard_rely hne hguard hperform
    · exact Function.update_of_ne hne _ _

theorem PoolGuarded.stopped (h : PoolGuarded P c) : PoolGuarded P (c.stopped M pid) := by
  intro pid' process' hp'
  by_cases hpid : pid' = pid
  · subst hpid
    simp [Config.stopped] at hp'
  · refine h.others pid (fun _ hne => P.release_rely hne) (fun _ hne => ?_) hpid hp'
    exact Function.update_of_ne hne _ _

/-- Invariants of guarded runs: a property of pools that holds at the start, and
that starting a call, a guarded action and the end of a process keep under the
discipline, holds in every pool a run reaches. What is already known of runs can be used
of the pools before and after an action. -/
theorem Run.invariant {I : Config σ C A X R ε → Prop}
    (hrun : Run M D (Config.idle s) c₁) (h₀ : I (Config.idle s))
    (hcalls : ∀ {c pid call}, I c → D c (.start pid call) → c.procs pid = none →
      Ensures P pid call (M.program call) [] c.state (P.Ends pid call))
    (hassume : ∀ {c pid process action rest choice}, I c → D c (.advance pid choice) →
      c.procs pid = some process → process.prog = .act action rest →
      P.Assume pid process.call process.hist action choice c.state)
    (hstart : ∀ {c pid call}, Run M D (Config.idle s) c → I c → D c (.start pid call) →
      c.procs pid = none → I (c.started M pid call))
    (hadvance : ∀ {c pid process action rest choice reply state},
      Run M D (Config.idle s) c → I c → D c (.advance pid choice) → c.procs pid = some process →
      process.prog = .act action rest →
      P.Guard pid process.call process.hist action choice c.state →
      M.perform pid action choice c.state = some (reply, state) →
      Run M D (Config.idle s) (c.advanced pid process ⟨action, choice, reply⟩ (rest reply) state) →
      I (c.advanced pid process ⟨action, choice, reply⟩ (rest reply) state))
    (hstop : ∀ {c pid process}, Run M D (Config.idle s) c → I c → D c (.stop pid) →
      c.procs pid = some process → I (c.stopped M pid)) : I c₁ ∧ PoolGuarded P c₁ := by
  refine hrun.induct (I := fun c => I c ∧ PoolGuarded P c) ⟨h₀, .idle⟩ ?_
  rintro c₁ c₂ move hprefix ⟨hI, hguarded⟩ hD hmove
  rcases Config.next_eq_some hmove with
    ⟨pid, call, rfl, hp, rfl⟩ | ⟨pid, process, action, rest, choice, reply, state, rfl, hp, hprog,
      hperform, rfl⟩ | ⟨pid, process, rfl, hp, rfl⟩
  · exact ⟨hstart hprefix hI hD hp, hguarded.started (hcalls hI hD hp)⟩
  · obtain ⟨hguard, hnext⟩ := hguarded.advanced hp hprog (hassume hI hD hp hprog) hperform
    exact ⟨hadvance hprefix hI hD hp hprog hguard hperform (.step hprefix hD hmove), hnext⟩
  · exact ⟨hstop hprefix hI hD hp, hguarded.stopped⟩

/-- In a run whose calls follow a protocol that assumes nothing, every action is taken
under its guard. -/
theorem Run.poolGuarded (hrun : Run M D (Config.idle s) c)
    (hassume : ∀ pid call hist action choice s, P.Assume pid call hist action choice s)
    (hcalls : ∀ {c pid call}, D c (.start pid call) →
      Ensures P pid call (M.program call) [] c.state (P.Ends pid call)) : PoolGuarded P c :=
  (hrun.invariant (I := fun _ => True) trivial (fun _ hD _ => hcalls hD)
    (fun _ _ _ _ => hassume _ _ _ _ _ _) (fun _ _ _ _ => trivial)
    (fun _ _ _ _ _ _ _ _ => trivial) (fun _ _ _ _ => trivial)).2

theorem PoolGuarded.guard (h : PoolGuarded P c) (hp : c.procs pid = some process)
    (hprog : process.prog = .act action rest)
    (hassume : P.Assume pid process.call process.hist action choice c.state)
    (hperform : M.perform pid action choice c.state = some (reply, state)) :
    P.Guard pid process.call process.hist action choice c.state :=
  (h.advanced hp hprog hassume hperform).1

theorem PoolGuarded.ends (h : PoolGuarded P c)
    (hp : c.procs pid = some process) (hdone : process.Finished) :
    ∃ outcome, (outcome = .ok () ↔ process.Succeeded) ∧
      P.Ends pid process.call outcome process.hist c.state := by
  have hself := h pid process hp
  cases hprog : process.prog with
  | done value =>
    rw [hprog] at hself
    exact ⟨.ok value, by simp [Process.Succeeded, hprog], hself⟩
  | fail error =>
    rw [hprog] at hself
    exact ⟨.error error, by simp [Process.Succeeded, hprog], hself⟩
  | act action rest => simp [Process.Finished, hprog] at hdone

end Concurrency
