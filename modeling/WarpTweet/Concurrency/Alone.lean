import WarpTweet.Concurrency.Pool

/-!
# Programs that run alone

What a program does when nobody else interferes, in an environment whose choices are
restricted: it never gets stuck, and whatever the allowed choices are, it returns with a
postcondition on its outcome and the world. This is total correctness; programs have no
loops but those over lists, so the only way not to return is an action that cannot be taken.

The dual says what a program may come to: some allowed choices lead to an end with the
postcondition. It is the way to show that a program does not complete with another one.

The rules follow the constructors of a program, as those of `WarpTweet.Concurrency.Guarded`
do for programs with interference.
-/

namespace Concurrency

variable {σ C A X : Type} {R : A → Type} {ε α β ι : Type}

/-- Process `pid` runs the program from `s` to its end with allowed choices only, and `Q` holds
of the outcome and the world. -/
def Completes (M : Machine σ C A X R ε) (allowed : A → X → σ → Prop) (pid : ℕ) :
    Prog A R ε α → σ → (Except ε α → σ → Prop) → Prop
  | .done value, s, Q => Q (.ok value) s
  | .fail error, s, Q => Q (.error error) s
  | .act action rest, s, Q =>
    (∃ choice, allowed action choice s ∧ (M.perform pid action choice s).isSome = true) ∧
      ∀ choice reply s', allowed action choice s →
        M.perform pid action choice s = some (reply, s') →
          Completes M allowed pid (rest reply) s' Q

variable {M : Machine σ C A X R ε} {allowed : A → X → σ → Prop} {pid : ℕ} {s : σ}
  {Q Q' : Except ε α → σ → Prop}

@[simp]
theorem completes_done {value : α} :
    Completes M allowed pid (.done value) s Q ↔ Q (.ok value) s := Iff.rfl

variable {program : Prog A R ε α} {outcome : Except ε α} {items : List ι} {action : A}
  {step : β → ι → Prog A R ε β} {I : List ι → β → σ → Prop} {E : ε → σ → Prop} {p : A → Prop}

@[simp]
theorem completes_ofExcept :
    Completes M allowed pid (.ofExcept outcome : Prog A R ε α) s Q ↔ Q outcome s := by
  cases outcome <;> rfl

theorem completes_ofExcept_ok {value : α} (hok : outcome = .ok value)
    (h : Q (.ok value) s) : Completes M allowed pid (.ofExcept outcome : Prog A R ε α) s Q := by
  subst hok
  exact h

theorem Completes.mono (h : Completes M allowed pid program s Q)
    (hQ : ∀ outcome s, Q outcome s → Q' outcome s) : Completes M allowed pid program s Q' := by
  induction program generalizing s with
  | done value => exact hQ _ _ h
  | fail error => exact hQ _ _ h
  | act action rest ih =>
    exact ⟨h.1, fun choice reply s' hallowed hperform =>
      ih reply (h.2 choice reply s' hallowed hperform)⟩

theorem completes_bind {program : Prog A R ε β} {next : β → Prog A R ε α} :
    Completes M allowed pid (program.bind next) s Q ↔
      Completes M allowed pid program s fun outcome s =>
        match outcome with
        | .ok value => Completes M allowed pid (next value) s Q
        | .error error => Q (.error error) s := by
  induction program generalizing s with
  | done value => rfl
  | fail error => rfl
  | act action rest ih =>
    refine and_congr Iff.rfl ?_
    refine forall_congr' fun choice => forall_congr' fun reply => forall_congr' fun s' => ?_
    exact imp_congr Iff.rfl (imp_congr Iff.rfl (ih reply))

theorem completes_attempt {program : Prog A R ε β} {Q : Except ε (Except ε β) → σ → Prop} :
    Completes M allowed pid program.attempt s Q ↔
      Completes M allowed pid program s fun outcome s => Q (.ok outcome) s := by
  induction program generalizing s with
  | done value => rfl
  | fail error => rfl
  | act action rest ih =>
    refine and_congr Iff.rfl ?_
    refine forall_congr' fun choice => forall_congr' fun reply => forall_congr' fun s' => ?_
    exact imp_congr Iff.rfl (imp_congr Iff.rfl (ih reply))

theorem completes_mapError {f : ε → ε} : Completes M allowed pid (program.mapError f) s Q ↔
      Completes M allowed pid program s fun outcome s => Q (outcome.mapError f) s := by
  induction program generalizing s with
  | done value => rfl
  | fail error => rfl
  | act action rest ih =>
    refine and_congr Iff.rfl ?_
    refine forall_congr' fun choice => forall_congr' fun reply => forall_congr' fun s' => ?_
    exact imp_congr Iff.rfl (imp_congr Iff.rfl (ih reply))

theorem Completes.ite {c : Prop} [Decidable c] {other : Prog A R ε α}
    (h : c → Completes M allowed pid program s Q) (hother : ¬ c → Completes M allowed pid other s Q) :
    Completes M allowed pid (if c then program else other) s Q := by
  split
  · exact h ‹c›
  · exact hother ‹¬ c›

theorem completes_perform {Q : Except ε (R action) → σ → Prop}
    (hready : ∃ choice, allowed action choice s ∧ (M.perform pid action choice s).isSome = true)
    (h : ∀ choice reply s', allowed action choice s →
      M.perform pid action choice s = some (reply, s') → Q (.ok reply) s') :
    Completes M allowed pid (Prog.perform action) s Q :=
  ⟨hready, h⟩

theorem completes_fold {value : β}
    (hstep : ∀ {passed item rest value s}, items = passed ++ item :: rest → I passed value s →
      Completes M allowed pid (step value item) s fun outcome s =>
        match outcome with
        | .ok value => I (passed ++ [item]) value s
        | .error error => E error s) (h : I [] value s) :
    Completes M allowed pid (Prog.fold step items value) s fun outcome s =>
      match outcome with
      | .ok value => I items value s
      | .error error => E error s := by
  have hloop : ∀ {rest passed : List ι} {value : β} {s : σ}, items = passed ++ rest →
      I passed value s → Completes M allowed pid (Prog.fold step rest value) s fun outcome s =>
        match outcome with
        | .ok value => I items value s
        | .error error => E error s := by
    intro rest
    induction rest with
    | nil =>
      intro passed value s hitems h
      rw [List.append_nil] at hitems
      exact hitems ▸ h
    | cons item rest ih =>
      intro passed value s hitems h
      refine completes_bind.2 ((hstep hitems h).mono ?_)
      rintro (error | value) s hvalue
      · exact hvalue
      · refine ih ?_ hvalue
        rw [hitems, List.append_assoc, List.singleton_append]
  exact hloop rfl h

theorem completes_collect_map {step : ι → Prog A R ε α} {name : α → ι} {values : List α}
    {Q : Except ε (List α) → σ → Prop}
    (hstep : ∀ value ∈ values, ∀ Q : Except ε α → σ → Prop, Q (.ok value) s →
      Completes M allowed pid (step (name value)) s Q)
    (h : Q (.ok values) s) : Completes M allowed pid (Prog.collect step (values.map name)) s Q := by
  induction values generalizing Q with
  | nil => exact h
  | cons value values ih =>
    refine completes_bind.2 (hstep value List.mem_cons_self _ ?_)
    refine completes_bind.2 (ih (fun other hmem => hstep other (List.mem_cons_of_mem _ hmem)) ?_)
    exact h

/-- A program that keeps to actions which can always be taken where `I` holds, and keep it. -/
theorem completes_of_uses {I : σ → Prop} (huses : program.Uses p) (hI : I s)
    (hready : ∀ {action s}, p action → I s →
      ∃ choice, allowed action choice s ∧ (M.perform pid action choice s).isSome = true)
    (hkeep : ∀ {action choice reply s s'}, p action → I s →
      M.perform pid action choice s = some (reply, s') → I s') :
    Completes M allowed pid program s fun _ s => I s := by
  induction program generalizing s with
  | done value => exact hI
  | fail error => exact hI
  | act action rest ih =>
    refine ⟨hready huses.1 hI, fun choice reply s' _ hperform => ?_⟩
    exact ih reply (huses.2 reply) (hkeep huses.1 hI hperform)

/-! ## What a program may come to -/

/-- Process `pid` can run the program from `s` to an end where `Q` holds, with allowed choices. -/
def Reaches (M : Machine σ C A X R ε) (allowed : A → X → σ → Prop) (pid : ℕ) :
    Prog A R ε α → σ → (Except ε α → σ → Prop) → Prop
  | .done value, s, Q => Q (.ok value) s
  | .fail error, s, Q => Q (.error error) s
  | .act action rest, s, Q =>
    ∃ choice reply s', allowed action choice s ∧ M.perform pid action choice s = some (reply, s') ∧
      Reaches M allowed pid (rest reply) s' Q

theorem Completes.reaches (h : Completes M allowed pid program s Q) :
    Reaches M allowed pid program s Q := by
  induction program generalizing s with
  | done value => exact h
  | fail error => exact h
  | act action rest ih =>
    obtain ⟨⟨choice, hallowed, hready⟩, hrest⟩ := h
    obtain ⟨⟨reply, s'⟩, hperform⟩ := Option.isSome_iff_exists.1 hready
    exact ⟨choice, reply, s', hallowed, hperform, ih reply (hrest choice reply s' hallowed hperform)⟩

theorem Reaches.exists_end (h : Reaches M allowed pid program s Q)
    (h' : Completes M allowed pid program s Q') : ∃ outcome s', Q outcome s' ∧ Q' outcome s' := by
  induction program generalizing s with
  | done value => exact ⟨_, _, h, h'⟩
  | fail error => exact ⟨_, _, h, h'⟩
  | act action rest ih =>
    obtain ⟨choice, reply, s', hallowed, hperform, hrest⟩ := h
    exact ih reply hrest (h'.2 choice reply s' hallowed hperform)

theorem Reaches.mono (h : Reaches M allowed pid program s Q)
    (hQ : ∀ outcome s, Q outcome s → Q' outcome s) : Reaches M allowed pid program s Q' := by
  induction program generalizing s with
  | done value => exact hQ _ _ h
  | fail error => exact hQ _ _ h
  | act action rest ih =>
    obtain ⟨choice, reply, s', hallowed, hperform, hrest⟩ := h
    exact ⟨choice, reply, s', hallowed, hperform, ih reply hrest⟩

@[simp]
theorem reaches_ofExcept :
    Reaches M allowed pid (.ofExcept outcome : Prog A R ε α) s Q ↔ Q outcome s := by
  cases outcome <;> rfl

theorem reaches_bind {program : Prog A R ε β} {next : β → Prog A R ε α} :
    Reaches M allowed pid (program.bind next) s Q ↔
      Reaches M allowed pid program s fun outcome s =>
        match outcome with
        | .ok value => Reaches M allowed pid (next value) s Q
        | .error error => Q (.error error) s := by
  induction program generalizing s with
  | done value => rfl
  | fail error => rfl
  | act action rest ih =>
    refine exists_congr fun choice => exists_congr fun reply => exists_congr fun s' => ?_
    exact and_congr Iff.rfl (and_congr Iff.rfl (ih reply))

theorem reaches_attempt {program : Prog A R ε β} {Q : Except ε (Except ε β) → σ → Prop} :
    Reaches M allowed pid program.attempt s Q ↔
      Reaches M allowed pid program s fun outcome s => Q (.ok outcome) s := by
  induction program generalizing s with
  | done value => rfl
  | fail error => rfl
  | act action rest ih =>
    refine exists_congr fun choice => exists_congr fun reply => exists_congr fun s' => ?_
    exact and_congr Iff.rfl (and_congr Iff.rfl (ih reply))

theorem reaches_perform {choice : X} {reply : R action} {s' : σ}
    {Q : Except ε (R action) → σ → Prop} (hallowed : allowed action choice s)
    (hperform : M.perform pid action choice s = some (reply, s')) (h : Q (.ok reply) s') :
    Reaches M allowed pid (Prog.perform action) s Q :=
  ⟨choice, reply, s', hallowed, hperform, h⟩

theorem reaches_fold {value : β}
    (hstep : ∀ {passed item rest value s}, items = passed ++ item :: rest → I passed value s →
      Reaches M allowed pid (step value item) s fun outcome s =>
        match outcome with
        | .ok value => I (passed ++ [item]) value s
        | .error error => E error s) (h : I [] value s) :
    Reaches M allowed pid (Prog.fold step items value) s fun outcome s =>
      match outcome with
      | .ok value => I items value s
      | .error error => E error s := by
  have hloop : ∀ {rest passed : List ι} {value : β} {s : σ}, items = passed ++ rest →
      I passed value s → Reaches M allowed pid (Prog.fold step rest value) s fun outcome s =>
        match outcome with
        | .ok value => I items value s
        | .error error => E error s := by
    intro rest
    induction rest with
    | nil =>
      intro passed value s hitems h
      rw [List.append_nil] at hitems
      exact hitems ▸ h
    | cons item rest ih =>
      intro passed value s hitems h
      refine reaches_bind.2 ((hstep hitems h).mono ?_)
      rintro (error | value) s hvalue
      · exact hvalue
      · refine ih ?_ hvalue
        rw [hitems, List.append_assoc, List.singleton_append]
  exact hloop rfl h

/-- A list of programs that change nothing may fail as a whole if one of them may. -/
theorem reaches_collect_error {step : ι → Prog A R ε α} {item : ι}
    (hkeep : ∀ other ∈ items, Completes M allowed pid (step other) s fun _ s' => s' = s)
    (hmem : item ∈ items) (hfail : Reaches M allowed pid (step item) s fun outcome s' =>
      s' = s ∧ ∃ error, outcome = .error error) :
    Reaches M allowed pid (Prog.collect step items) s fun outcome s' =>
      s' = s ∧ ∃ error, outcome = .error error := by
  induction items with
  | nil => cases hmem
  | cons other items ih =>
    refine reaches_bind.2 ?_
    rcases List.mem_cons.1 hmem with rfl | hmem
    · refine hfail.mono ?_
      rintro _ _ ⟨hsame, error, rfl⟩
      exact ⟨hsame, error, rfl⟩
    · refine (hkeep other List.mem_cons_self).reaches.mono ?_
      rintro (error | value) s' hsame
      · exact ⟨hsame, error, rfl⟩
      · subst hsame
        have hrest := ih (fun one hone => hkeep one (List.mem_cons_of_mem _ hone)) hmem
        refine reaches_bind.2 (hrest.mono ?_)
        rintro _ s' ⟨hsame, error, rfl⟩
        exact ⟨hsame, error, rfl⟩

/-! ## What a program may do -/

/-- Some run of the program from `s` comes to an action with `p`. -/
def MayDo (M : Machine σ C A X R ε) (pid : ℕ) (p : A → Prop) : Prog A R ε α → σ → Prop
  | .done _, _ | .fail _, _ => False
  | .act action rest, s => p action ∨ ∃ choice reply s',
      M.perform pid action choice s = some (reply, s') ∧ MayDo M pid p (rest reply) s'

theorem not_mayDo_of_uses
    (h : program.Uses fun action => ¬ p action) : ¬ MayDo M pid p program s := by
  induction program generalizing s with
  | done value => exact id
  | fail error => exact id
  | act action rest ih =>
    rintro (hp | ⟨choice, reply, s', -, hrest⟩)
    · exact h.1 hp
    · exact ih reply (h.2 reply) hrest

/-- The program comes to an action with `p` when the environment chooses as the list says. -/
def doesWith (M : Machine σ C A X R ε) (pid : ℕ) (p : A → Bool) : List X → Prog A R ε α → σ → Bool
  | _, .done _, _ | _, .fail _, _ => false
  | [], .act action _, _ => p action
  | choice :: choices, .act action rest, s => p action ||
      match M.perform pid action choice s with
      | some (reply, s') => doesWith M pid p choices (rest reply) s'
      | none => false

theorem mayDo_of_doesWith {p : A → Bool} (choices : List X)
    (h : doesWith M pid p choices program s = true) :
    MayDo M pid (fun action => p action = true) program s := by
  induction choices generalizing program s with
  | nil =>
    cases program with
    | done value | fail error => cases h
    | act action rest => exact .inl h
  | cons choice choices ih =>
    cases program with
    | done value | fail error => cases h
    | act action rest =>
      rcases Bool.or_eq_true_iff.1 h with hp | hrest
      · exact .inl hp
      · split at hrest
        · rename_i reply s' hperform
          exact .inr ⟨choice, reply, s', hperform, ih hrest⟩
        · cases hrest

end Concurrency
