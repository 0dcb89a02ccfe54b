import WarpTweet.Concurrency.Program

/-!
# Pools of processes over one shared world

A machine says which program a call runs and how an atomic action of a process
changes the shared world. A pool holds the world, the processes in flight and
the log of the actions performed so far. One move starts a call, lets one
process perform its next action with an outcome chosen by the environment, or
stops a process: it is gone, and what the operating system takes back from it
(its locks) is released.

A discipline restricts the moves of a run. Claims about a family of calls are
claims about every run of the discipline that only starts calls of the family;
conditions under which a claim holds are disciplines as well.
-/

namespace Concurrency

/-- What the calls run, what an action does for process `pid`, and what stopping
a process takes back. `none` means that the action cannot be taken now. -/
structure Machine (σ C A X : Type) (R : A → Type) (ε : Type) where
  program : C → Prog A R ε Unit
  perform : ℕ → (action : A) → X → σ → Option (R action × σ)
  release : ℕ → σ → σ

/-- One performed action: the outcome the environment chose, and the reply. -/
structure Step (A X : Type) (R : A → Type) where
  action : A
  choice : X
  reply : R action

/-- A call in flight: what is left of its program, and what it has done, newest
first. -/
structure Process (C A X : Type) (R : A → Type) (ε : Type) where
  call : C
  prog : Prog A R ε Unit
  hist : List (Step A X R)

/-- One entry of the log of a run. -/
structure Event (C A X : Type) (R : A → Type) extends Step A X R where
  pid : ℕ
  call : C

/-- The shared world, the calls in flight, and the log of the run, newest first. -/
structure Config (σ C A X : Type) (R : A → Type) (ε : Type) where
  state : σ
  procs : ℕ → Option (Process C A X R ε)
  log : List (Event C A X R)

/-- A move of the environment. -/
inductive Move (C X : Type) where
  | start (pid : ℕ) (call : C)
  | advance (pid : ℕ) (choice : X)
  | stop (pid : ℕ)

/-- The process that a move is about. -/
def Move.pid {C X : Type} : Move C X → ℕ
  | .start pid _ | .advance pid _ | .stop pid => pid

variable {σ C A X : Type} {R : A → Type} {ε : Type}
  {pid : ℕ} {step : Step A X R} {process : Process C A X R ε} {call : C}
  {prog : Prog A R ε Unit} {state : σ} {c : Config σ C A X R ε} {action : A} {move : Move C X}
  {moves : List (Move C X)}

namespace Process

/-- The call has returned without an error. -/
def Succeeded (process : Process C A X R ε) : Prop :=
  match process.prog with
  | .done _ => True
  | _ => False

/-- The call has returned, with or without an error. -/
def Finished (process : Process C A X R ε) : Prop :=
  match process.prog with
  | .act _ _ => False
  | _ => True

theorem Succeeded.finished {process : Process C A X R ε} (h : process.Succeeded) :
    process.Finished := by
  unfold Succeeded at h
  unfold Finished
  split at h
  · rename_i hprog
    rw [hprog]
    trivial
  · cases h

instance : DecidablePred (Succeeded : Process C A X R ε → Prop)
  | ⟨_, .done _, _⟩ => .isTrue trivial
  | ⟨_, .fail _, _⟩ | ⟨_, .act _ _, _⟩ => .isFalse id

instance : DecidablePred (Finished : Process C A X R ε → Prop)
  | ⟨_, .done _, _⟩ | ⟨_, .fail _, _⟩ => .isTrue trivial
  | ⟨_, .act _ _, _⟩ => .isFalse id

end Process

namespace Config

/-- A world with nothing in flight and an empty log. -/
def idle (state : σ) : Config σ C A X R ε :=
  { state, procs := fun _ => none, log := [] }

/-- The pool after `call` has been started as process `pid`. -/
def started (M : Machine σ C A X R ε) (c : Config σ C A X R ε) (pid : ℕ) (call : C) :
    Config σ C A X R ε :=
  { c with procs := Function.update c.procs pid (some ⟨call, M.program call, []⟩) }

/-- The pool after process `pid` has performed `step` and goes on with `prog`. -/
def advanced (c : Config σ C A X R ε) (pid : ℕ) (process : Process C A X R ε)
    (step : Step A X R) (prog : Prog A R ε Unit) (state : σ) : Config σ C A X R ε :=
  { state
    procs := Function.update c.procs pid (some ⟨process.call, prog, step :: process.hist⟩)
    log := ⟨step, pid, process.call⟩ :: c.log }

/-- The pool after process `pid` has gone. -/
def stopped (M : Machine σ C A X R ε) (c : Config σ C A X R ε) (pid : ℕ) :
    Config σ C A X R ε :=
  { c with state := M.release pid c.state, procs := Function.update c.procs pid none }

/-- Process `pid` has returned without an error. -/
def HasSucceeded (c : Config σ C A X R ε) (pid : ℕ) : Prop :=
  ∃ process ∈ c.procs pid, process.Succeeded

instance (c : Config σ C A X R ε) (pid : ℕ) : Decidable (c.HasSucceeded pid) :=
  inferInstanceAs (Decidable (∃ process ∈ c.procs pid, process.Succeeded))

/-- What process `pid` has done, newest first. -/
def history (c : Config σ C A X R ε) (pid : ℕ) : List (Step A X R) :=
  match c.procs pid with
  | some process => process.hist
  | none => []

/-- Every process of the pool is as `q` says. -/
def AllProcs (q : Process C A X R ε → Prop) (c : Config σ C A X R ε) : Prop :=
  ∀ pid process, c.procs pid = some process → q process

/-- One move, or `none` when it cannot be made. -/
def next (M : Machine σ C A X R ε) (c : Config σ C A X R ε) :
    Move C X → Option (Config σ C A X R ε)
  | .start pid call =>
    match c.procs pid with
    | none => some (c.started M pid call)
    | some _ => none
  | .advance pid choice =>
    match c.procs pid with
    | some process =>
      match process.prog with
      | .act action rest =>
        (M.perform pid action choice c.state).map fun result =>
          c.advanced pid process ⟨action, choice, result.1⟩ (rest result.1) result.2
      | _ => none
    | none => none
  | .stop pid =>
    match c.procs pid with
    | some _ => some (c.stopped M pid)
    | none => none

end Config

/-! ## Disciplines -/

/-- Only calls of the family are started. -/
def Starts (family : C → Prop) (_ : Config σ C A X R ε) : Move C X → Prop
  | .start _ call => family call
  | _ => True

/-- The process under the number `pid` and the action it takes next. -/
def Config.upcoming (c : Config σ C A X R ε) (pid : ℕ) : Option (Process C A X R ε × A) :=
  match c.procs pid with
  | some process =>
    match process.prog with
    | .act action _ => some (process, action)
    | _ => none
  | none => none

/-- A condition on every action that is taken, in the pool it is taken in. -/
def OnAction (condition : Config σ C A X R ε → Process C A X R ε → A → X → Prop)
    (c : Config σ C A X R ε) : Move C X → Prop
  | .advance pid choice => ∀ next ∈ c.upcoming pid, condition c next.1 next.2 choice
  | _ => True

/-- No process is stopped. -/
def NoStop (_ : Config σ C A X R ε) : Move C X → Prop
  | .stop _ => False
  | _ => True

instance (family : C → Prop) [DecidablePred family] (c : Config σ C A X R ε) (move : Move C X) :
    Decidable (Starts family c move) :=
  match move with
  | .start _ call => inferInstanceAs (Decidable (family call))
  | .advance _ _ | .stop _ => .isTrue trivial

instance (condition : Config σ C A X R ε → Process C A X R ε → A → X → Prop)
    [∀ c process action choice, Decidable (condition c process action choice)]
    (c : Config σ C A X R ε) (move : Move C X) : Decidable (OnAction condition c move) :=
  match move with
  | .advance pid choice =>
    inferInstanceAs (Decidable (∀ next ∈ c.upcoming pid, condition c next.1 next.2 choice))
  | .start _ _ | .stop _ => .isTrue trivial

instance (c : Config σ C A X R ε) (move : Move C X) : Decidable (NoStop c move) :=
  match move with
  | .stop _ => .isFalse id
  | .start _ _ | .advance _ _ => .isTrue trivial

theorem Config.upcoming_eq_some (h : c.upcoming pid = some (process, action)) :
    c.procs pid = some process ∧ ∃ rest, process.prog = .act action rest := by
  unfold Config.upcoming at h
  split at h
  next hp =>
    split at h
    next hprog =>
      cases h
      exact ⟨hp, _, hprog⟩
    next => cases h
  next => cases h

theorem OnAction.condition {condition : Config σ C A X R ε → Process C A X R ε → A → X → Prop} {choice : X}
    {rest : R action → Prog A R ε Unit} (h : OnAction condition c (.advance pid choice))
    (hp : c.procs pid = some process) (hprog : process.prog = .act action rest) :
    condition c process action choice :=
  h (process, action) (by simp [Config.upcoming, hp, hprog])

/-- `Run M D c c'`: moves that all keep the discipline `D` lead from `c` to `c'`. -/
inductive Run (M : Machine σ C A X R ε) (D : Config σ C A X R ε → Move C X → Prop)
    (c : Config σ C A X R ε) : Config σ C A X R ε → Prop
  | refl : Run M D c c
  | step {c₁ c₂ : Config σ C A X R ε} {move : Move C X} :
      Run M D c c₁ → D c₁ move → c₁.next M move = some c₂ → Run M D c c₂

/-- Make the given moves one after the other, checking the discipline at each. -/
def runMoves (M : Machine σ C A X R ε) (D : Config σ C A X R ε → Move C X → Prop)
    [∀ c move, Decidable (D c move)] :
    List (Move C X) → Config σ C A X R ε → Option (Config σ C A X R ε)
  | [], c => some c
  | move :: moves, c =>
    if D c move then
      match c.next M move with
      | some c' => runMoves M D moves c'
      | none => none
    else none

variable {M : Machine σ C A X R ε} {D D' : Config σ C A X R ε → Move C X → Prop}
  {c c₁ c₂ : Config σ C A X R ε} {s : σ}

/-- What a move can be: the start of a call under a free number, an action of a
process in flight, or the end of a process in flight. -/
theorem Config.next_eq_some (h : c₁.next M move = some c₂) :
    (∃ pid call, move = .start pid call ∧ c₁.procs pid = none ∧ c₂ = c₁.started M pid call) ∨
    (∃ pid process action rest choice reply state,
      move = .advance pid choice ∧ c₁.procs pid = some process ∧
        process.prog = .act action rest ∧
        M.perform pid action choice c₁.state = some (reply, state) ∧
        c₂ = c₁.advanced pid process ⟨action, choice, reply⟩ (rest reply) state) ∨
    (∃ pid process, move = .stop pid ∧ c₁.procs pid = some process ∧ c₂ = c₁.stopped M pid) := by
  cases move with
  | start pid call =>
    left
    cases hp : c₁.procs pid with
    | none =>
      simp only [Config.next, hp, Option.some.injEq] at h
      exact ⟨pid, call, rfl, hp, h.symm⟩
    | some process => simp [Config.next, hp] at h
  | advance pid choice =>
    right; left
    cases hp : c₁.procs pid with
    | none => simp [Config.next, hp] at h
    | some process =>
      cases hprog : process.prog with
      | done value => simp [Config.next, hp, hprog] at h
      | fail error => simp [Config.next, hp, hprog] at h
      | act action rest =>
        simp only [Config.next, hp, hprog, Option.map_eq_some_iff] at h
        obtain ⟨⟨reply, state⟩, hperform, hc₂⟩ := h
        exact ⟨pid, process, action, rest, choice, reply, state, rfl, hp, hprog, hperform,
          hc₂.symm⟩
  | stop pid =>
    right; right
    cases hp : c₁.procs pid with
    | none => simp [Config.next, hp] at h
    | some process =>
      simp only [Config.next, hp, Option.some.injEq] at h
      exact ⟨pid, process, rfl, hp, h.symm⟩

section

variable {pid pid' : ℕ} {process : Process C A X R ε} {step : Step A X R}
  {prog : Prog A R ε Unit} {state : σ}

theorem Config.procs_advanced_self : (c.advanced pid process step prog state).procs pid =
    some ⟨process.call, prog, step :: process.hist⟩ :=
  Function.update_self ..

theorem Config.procs_advanced_of_ne (hpid : pid' ≠ pid) :
    (c.advanced pid process step prog state).procs pid' = c.procs pid' :=
  Function.update_of_ne hpid ..

theorem Config.procs_started_of_some (hnew : c.procs pid = none)
    (hp : c.procs pid' = some process) : (c.started M pid call).procs pid' = some process := by
  have hne : pid' ≠ pid := by
    rintro rfl
    rw [hnew] at hp
    cases hp
  exact (Function.update_of_ne hne ..).trans hp

end

section

variable {pid pid' : ℕ} {process : Process C A X R ε}

theorem Config.history_of_procs (hp : c.procs pid = some process) :
    c.history pid = process.hist := by
  unfold Config.history
  rw [hp]

theorem Config.history_started (hnew : c.procs pid = none) :
    (c.started M pid call).history pid' = c.history pid' := by
  by_cases hpid : pid' = pid
  · subst hpid
    simp [Config.history, Config.started, hnew]
  · simp [Config.history, Config.started, Function.update_of_ne hpid]

theorem Config.history_advanced_self :
    (c.advanced pid process step prog state).history pid = step :: process.hist := by
  simp [Config.history, Config.advanced]

theorem Config.history_advanced_of_ne (hpid : pid' ≠ pid) :
    (c.advanced pid process step prog state).history pid' = c.history pid' := by
  simp [Config.history, Config.advanced, Function.update_of_ne hpid]

end

/-- Every process of the pool has the property, which sees its number, its call, what
it has done and the world. -/
def Config.Each (Φ : ℕ → C → List (Step A X R) → σ → Prop) (c : Config σ C A X R ε) : Prop :=
  ∀ pid process, c.procs pid = some process → Φ pid process.call process.hist c.state

section

variable {Φ : ℕ → C → List (Step A X R) → σ → Prop}

theorem Config.Each.idle {s : σ} : (Config.idle s : Config σ C A X R ε).Each Φ := by
  intro pid process hp
  simp [Config.idle] at hp

theorem Config.Each.started (h : c.Each Φ) (hnew : Φ pid call [] c.state) :
    (c.started M pid call).Each Φ := by
  intro pid' process hp
  by_cases hpid : pid' = pid
  · subst hpid
    simp only [Config.started, Function.update_self, Option.some.injEq] at hp
    subst hp
    exact hnew
  · simp only [Config.started, Function.update_of_ne hpid] at hp
    exact h pid' process hp

theorem Config.Each.advanced (h : c.Each Φ) (hp : c.procs pid = some process)
    (hself : Φ pid process.call process.hist c.state →
      Φ pid process.call (step :: process.hist) state)
    (hothers : ∀ pid', pid' ≠ pid → ∀ call hist, Φ pid' call hist c.state → Φ pid' call hist state) :
    (c.advanced pid process step prog state).Each Φ := by
  intro pid' process' hp'
  by_cases hpid : pid' = pid
  · subst hpid
    simp only [Config.advanced, Function.update_self, Option.some.injEq] at hp'
    subst hp'
    exact hself (h pid' process hp)
  · simp only [Config.advanced, Function.update_of_ne hpid] at hp'
    exact hothers pid' hpid _ _ (h pid' process' hp')

theorem Config.Each.stopped (h : c.Each Φ)
    (hothers : ∀ pid', pid' ≠ pid → ∀ call hist, Φ pid' call hist c.state →
      Φ pid' call hist (M.release pid c.state)) : (c.stopped M pid).Each Φ := by
  intro pid' process' hp'
  by_cases hpid : pid' = pid
  · subst hpid
    simp [Config.stopped] at hp'
  · simp only [Config.stopped, Function.update_of_ne hpid] at hp'
    exact hothers pid' hpid _ _ (h pid' process' hp')

end

theorem Run.mono (hD : ∀ c move, D c move → D' c move) (h : Run M D c c₁) : Run M D' c c₁ := by
  induction h with
  | refl => exact .refl
  | step _ hd hnext ih => exact .step ih (hD _ _ hd) hnext

theorem Run.trans (h : Run M D c c₁) (h' : Run M D c₁ c₂) : Run M D c c₂ := by
  induction h' with
  | refl => exact h
  | step _ hd hnext ih => exact .step ih hd hnext

/-- A property that holds at the start and is kept by every allowed move of a run
holds at its end. -/
theorem Run.induct {I : Config σ C A X R ε → Prop} (h : Run M D c c₁) (h₀ : I c)
    (hstep : ∀ {c₁ c₂ move}, Run M D c c₁ → I c₁ → D c₁ move → c₁.next M move = some c₂ → I c₂) :
    I c₁ := by
  induction h with
  | refl => exact h₀
  | step hrun hd hnext ih => exact hstep hrun ih hd hnext

theorem Run.uses {p : ℕ → A → Prop} (h : Run M D (Config.idle s) c)
    (hD : ∀ c pid call, D c (.start pid call) → (M.program call).Uses (p pid)) :
    ∀ pid process, c.procs pid = some process → process.prog.Uses (p pid) := by
  refine h.induct (I := fun c => ∀ pid process, c.procs pid = some process →
    process.prog.Uses (p pid)) ?_ ?_
  · intro pid process hp
    cases hp
  · intro c₁ c₂ move _ ih hd hnext pid' process' hp'
    rcases Config.next_eq_some hnext with
      ⟨pid, call, rfl, -, rfl⟩ | ⟨pid, process, action, rest, choice, reply, state, rfl, hp, hprog, -,
        rfl⟩ | ⟨pid, process, rfl, -, rfl⟩
    · by_cases hpid : pid' = pid
      · subst hpid
        simp only [Config.started, Function.update_self, Option.some.injEq] at hp'
        subst hp'
        exact hD _ _ _ hd
      · exact ih pid' process' (by simpa [Config.started, Function.update_of_ne hpid] using hp')
    · by_cases hpid : pid' = pid
      · subst hpid
        rw [Config.procs_advanced_self] at hp'
        cases hp'
        have huses := ih pid' process hp
        rw [hprog] at huses
        exact huses.2 reply
      · exact ih pid' process' (by rwa [Config.procs_advanced_of_ne hpid] at hp')
    · by_cases hpid : pid' = pid
      · subst hpid
        simp [Config.stopped] at hp'
      · exact ih pid' process' (by simpa [Config.stopped, Function.update_of_ne hpid] using hp')

/-- A property of the pool that sees the world and the log: it holds at the start, and every
allowed action keeps it. Starting and stopping calls leaves the log alone. -/
theorem Run.log_invariant {I : σ → List (Event C A X R) → Prop}
    (h : Run M D (Config.idle s) c₁) (h₀ : I s [])
    (hadvance : ∀ {c : Config σ C A X R ε} {pid process action rest choice reply state},
      D c (.advance pid choice) → c.procs pid = some process → process.prog = .act action rest →
      M.perform pid action choice c.state = some (reply, state) → I c.state c.log →
      I state (⟨⟨action, choice, reply⟩, pid, process.call⟩ :: c.log))
    (hrelease : ∀ {c : Config σ C A X R ε} {pid}, D c (.stop pid) → I c.state c.log →
      I (M.release pid c.state) c.log) : I c₁.state c₁.log := by
  refine h.induct (I := fun c => I c.state c.log) h₀ ?_
  intro c₁ c₂ move _ ih hd hnext
  rcases Config.next_eq_some hnext with
    ⟨pid, call, rfl, -, rfl⟩ | ⟨pid, process, action, rest, choice, reply, state, rfl, hp, hprog,
      hperform, rfl⟩ | ⟨pid, process, rfl, -, rfl⟩
  · exact ih
  · exact hadvance hd hp hprog hperform ih
  · exact hrelease hd ih

theorem Run.calls {family : C → Prop} (h : Run M D (Config.idle s) c)
    (hD : ∀ c move, D c move → Starts family c move) : c.Each fun _ call _ _ => family call := by
  refine h.induct (I := fun c => c.Each fun _ call _ _ => family call) .idle ?_
  intro c₁ c₂ move _ ih hd hnext
  rcases Config.next_eq_some hnext with
    ⟨pid, call, rfl, -, rfl⟩ | ⟨pid, process, action, rest, choice, reply, state, rfl, hp, -, -, rfl⟩ |
    ⟨pid, process, rfl, -, rfl⟩
  · exact ih.started (hD _ _ hd)
  · exact ih.advanced hp id fun _ _ _ _ => id
  · exact ih.stopped fun _ _ _ _ => id

theorem Run.of_runMoves [∀ c move, Decidable (D c move)]
    (hc : Run M D c c₁) (h : runMoves M D moves c₁ = some c₂) : Run M D c c₂ := by
  induction moves generalizing c₁ with
  | nil =>
    simp only [runMoves, Option.some.injEq] at h
    exact h ▸ hc
  | cons move moves ih =>
    simp only [runMoves] at h
    split at h
    next hd =>
      cases hnext : c₁.next M move with
      | none => simp [hnext] at h
      | some c' =>
        simp only [hnext] at h
        exact ih (.step hc hd hnext) h
    next => simp at h

/-- A schedule that ends in a configuration with a decidable property witnesses a
run that reaches it. -/
theorem Run.exists_of_runMoves [∀ c move, Decidable (D c move)] {p : Config σ C A X R ε → Prop}
    [DecidablePred p] (moves : List (Move C X))
    (h : (runMoves M D moves c).any (fun c => decide (p c)) = true) : ∃ c', Run M D c c' ∧ p c' := by
  obtain ⟨c', hr, hp⟩ := (Option.any_eq_true _ _).1 h
  exact ⟨c', .of_runMoves .refl hr, of_decide_eq_true hp⟩

theorem Run.exists_imp_of_runMoves [∀ c move, Decidable (D c move)]
    {q : Config σ C A X R ε → Prop} (moves : List (Move C X)) (p : Config σ C A X R ε → Prop)
    [DecidablePred p] (h : (runMoves M D moves c).any (fun c => decide (p c)) = true)
    (hq : ∀ c', Run M D c c' → p c' → q c') : ∃ c', Run M D c c' ∧ q c' := by
  obtain ⟨c', hrun, hp⟩ := Run.exists_of_runMoves moves h
  exact ⟨c', hrun, hq c' hrun hp⟩

theorem Config.procs_of_next (h : c₁.next M move = some c₂)
    (hpid : pid ≠ move.pid) : c₂.procs pid = c₁.procs pid := by
  rcases Config.next_eq_some h with
    ⟨_, _, rfl, -, rfl⟩ | ⟨_, _, _, _, _, _, _, rfl, -, -, -, rfl⟩ | ⟨_, _, rfl, -, rfl⟩
  · exact Function.update_of_ne hpid _ _
  · exact Function.update_of_ne hpid _ _
  · exact Function.update_of_ne hpid _ _

theorem procs_of_runMoves [∀ c move, Decidable (D c move)]
    (h : runMoves M D moves c₁ = some c₂) (hpid : pid ∉ moves.map Move.pid) :
    c₂.procs pid = c₁.procs pid := by
  induction moves generalizing c₁ with
  | nil =>
    simp only [runMoves, Option.some.injEq] at h
    rw [h]
  | cons move moves ih =>
    rw [List.map_cons, List.mem_cons, not_or] at hpid
    simp only [runMoves] at h
    split at h
    next hd =>
      cases hnext : c₁.next M move with
      | none => simp [hnext] at h
      | some c' =>
        simp only [hnext] at h
        rw [ih h hpid.2, Config.procs_of_next hnext hpid.1]
    next => simp at h

/-- A schedule from an idle world that leaves every process it is about as `q` says. -/
theorem Run.exists_allProcs_of_runMoves [∀ c move, Decidable (D c move)]
    {q : Process C A X R ε → Prop} [DecidablePred q] (moves : List (Move C X))
    (p : Config σ C A X R ε → Prop) [DecidablePred p]
    (h : (runMoves M D moves (Config.idle s)).any (fun c => decide (p c) &&
      (moves.map Move.pid).all fun pid => (c.procs pid).all fun process => decide (q process))
        = true) : ∃ c', Run M D (Config.idle s) c' ∧ c'.AllProcs q ∧ p c' := by
  obtain ⟨c', hr, h⟩ := (Option.any_eq_true _ _).1 h
  rw [Bool.and_eq_true, List.all_eq_true] at h
  refine ⟨c', .of_runMoves .refl hr, fun pid process hp => ?_, of_decide_eq_true h.1⟩
  by_cases hpid : pid ∈ moves.map Move.pid
  · have hall := h.2 pid hpid
    rw [hp, Option.all_some] at hall
    exact of_decide_eq_true hall
  · rw [procs_of_runMoves hr hpid] at hp
    cases hp

end Concurrency
