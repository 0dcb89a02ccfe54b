import WarpTweet.Model.Supervisor

/-!
# Backing off and giving up

Both loops count the failed attempts of a series, which begins with the first attempt or with an
attempt that was up for the stable window. The exit of such an attempt is already the first
failure of the new series. The wait before a restart is the initial backoff, doubled for each
restart of the series and bounded by the maximum.
-/

set_option autoImplicit false

namespace WarpTweet.Supervisor

/-- The failed attempts of the last series, given how long the attempts were up, newest first. -/
def series (window : Int64) : List Int64 → ℕ
  | [] => 0
  | runtime :: earlier => if window ≤ runtime then 1 else series window earlier + 1

/-- The restarts since the last attempt that was up for the window: every attempt of the series
but its first is one. -/
def restartsSince (window : Int64) (runtimes : List Int64) : ℕ := series window runtimes - 1

/-- The state of a loop that has restarted after attempts of the given lengths. -/
inductive Restarted {ι : Type} (policy : Policy) (round : LoopState → ι → Wait → Round)
    (runtime : ι → Int64) : List Int64 → LoopState → Prop
  | start : Restarted policy round runtime [] policy.start
  | restart {runtimes : List Int64} {state next : LoopState} {waited : Int64} (launch : ι)
      (wait : Wait) (h : Restarted policy round runtime runtimes state)
      (hround : round state launch wait = .restarts waited next) :
      Restarted policy round runtime (runtime launch :: runtimes) next

/-- How long a process of the plain loop was up. -/
def Launch.runtime : Launch → Int64
  | .exited _ runtime _ => runtime
  | _ => 0

/-- How long an attempt was ready. -/
def ReadyLaunch.runtime : ReadyLaunch → Int64
  | .ran result => result.readyRuntime
  | _ => 0

/-- The exit is a failure that the plain loop may restart after. -/
def Launch.Counts (policy : Policy) : Launch → Prop
  | .exited _ _ cancelled => cancelled = false ∧ policy.restart = true
  | _ => False

/-- The attempt has failed in a way that the loop may restart after. -/
def ReadyLaunch.Counts (policy : Policy) : ReadyLaunch → Prop
  | .ran result => result.stopped = false ∧ result.terminal = false ∧
      result.terminalErr = false ∧ policy.restart = true
  | _ => False

/-- A round of a loop after attempts of the given lengths, the newest of which ends in it. If the
loop restarts, it has waited as specified. It restarts exactly if the attempt counts, is not the
last that the policy allows in a series, and the wait elapses; it gives up exactly if the attempt
counts and is the last. -/
structure AsSpecified (policy : Policy) (runtimes : List Int64) (counts : Prop) (wait : Wait)
    (round : Round) : Prop where
  waits : ∀ waited next, round = .restarts waited next → waited.toInt =
    min policy.maximumBackoff.toInt
      (policy.initialBackoff.toInt * 2 ^ restartsSince policy.window runtimes)
  restarts : (∃ waited next, round = .restarts waited next) ↔
    counts ∧ series policy.window runtimes < policy.attempts ∧ wait = .elapsed
  gives_up : (∃ attempts last, round = .returned (.gaveUp attempts last)) ↔
    counts ∧ series policy.window runtimes = policy.attempts

section

variable {policy : Policy} {runtimes : List Int64} {state next : LoopState} {runtime waited : Int64}
  {last : Err} {wait : Wait}

theorem toInt_nextBackoff {current maximum : Int64} (hpos : 0 < current.toInt)
    (hmaximum : 0 < maximum.toInt) :
    (nextBackoff current maximum).toInt = min maximum.toInt (2 * current.toInt) := by
  have hhalf : (maximum / 2).toInt = maximum.toInt / 2 := by
    rw [Int64.toInt_div_of_ne_right _ _ (by decide)]
    exact Int.tdiv_eq_ediv_of_nonneg (Int.le_of_lt hmaximum)
  have hbound := maximum.toInt_lt
  unfold nextBackoff
  split
  · rename_i hlarge
    rw [Int64.le_iff_toInt_le, Int64.lt_iff_toInt_lt, hhalf] at hlarge
    omega
  · rename_i hsmall
    rw [Int64.le_iff_toInt_le, Int64.lt_iff_toInt_lt, hhalf] at hsmall
    have hdouble : (current * 2).toInt = current.toInt * 2 := by
      rw [Int64.toInt_mul]
      exact Int.bmod_eq_of_le (by simp; omega) (by simp; omega)
    omega

/-- The variables of a loop after a series of attempts. -/
structure Tracks (policy : Policy) (runtimes : List Int64) (state : LoopState) : Prop where
  failures : state.consecutiveFailures = series policy.window runtimes
  fewer : (state.consecutiveFailures : Int) < policy.attempts
  backoff : state.backoff.toInt = min policy.maximumBackoff.toInt
    (policy.initialBackoff.toInt * 2 ^ series policy.window runtimes)

theorem bounds_of_validatePolicy (h : validatePolicy policy = .ok ()) :
    0 < policy.initialBackoff.toInt ∧
      policy.initialBackoff.toInt ≤ policy.maximumBackoff.toInt ∧ 0 < policy.attempts := by
  simp only [validatePolicy, except_bind_eq_ok, refuseIf_eq_ok, decide_eq_false_iff_not,
    Int64.le_iff_toInt_le, Int64.lt_iff_toInt_lt, Int64.toInt_zero] at h
  obtain ⟨_, hinitial, _, hmaximum, _, -, _, -, hattempts⟩ := h
  refine ⟨by omega, by omega, ?_⟩
  unfold Policy.attempts
  split <;> omega

theorem Tracks.start (h : validatePolicy policy = .ok ()) : Tracks policy [] policy.start := by
  obtain ⟨hpos, hle, hattempts⟩ := bounds_of_validatePolicy h
  refine ⟨rfl, hattempts, ?_⟩
  change policy.initialBackoff.toInt = min _ (policy.initialBackoff.toInt * 2 ^ 0)
  omega

/-- After the attempt is settled, the backoff is that of the restarts of the series. -/
theorem Tracks.settle (hvalid : validatePolicy policy = .ok ()) (h : Tracks policy runtimes state)
    (runtime : Int64) : (policy.settle state runtime).consecutiveFailures + 1 =
        series policy.window (runtime :: runtimes) ∧
      ((policy.settle state runtime).consecutiveFailures : Int) < policy.attempts ∧
      (policy.settle state runtime).backoff.toInt = min policy.maximumBackoff.toInt
        (policy.initialBackoff.toInt *
          2 ^ restartsSince policy.window (runtime :: runtimes)) := by
  unfold restartsSince series Policy.settle
  split
  · have hstart := Tracks.start hvalid
    exact ⟨rfl, hstart.fewer, hstart.backoff⟩
  · exact ⟨by rw [h.failures], h.fewer, h.backoff⟩

theorem Tracks.count (hvalid : validatePolicy policy = .ok ()) (h : Tracks policy runtimes state) :
    AsSpecified policy (runtime :: runtimes) True wait
        (policy.count (policy.settle state runtime) last wait) ∧
      ∀ waited next, policy.count (policy.settle state runtime) last wait = .restarts waited next →
        Tracks policy (runtime :: runtimes) next := by
  obtain ⟨hpos, hle, -⟩ := bounds_of_validatePolicy hvalid
  obtain ⟨hseries, hfewer, hbackoff⟩ := h.settle hvalid runtime
  unfold Policy.count
  dsimp only
  split
  · refine ⟨⟨nofun, ⟨nofun, fun h => ?_⟩, fun _ => ⟨trivial, ?_⟩, fun _ => ⟨_, _, rfl⟩⟩, nofun⟩
    · have hless := h.2.1
      omega
    · omega
  · rename_i hmore
    have hless : (series policy.window (runtime :: runtimes) : Int) < policy.attempts := by omega
    have hnot := hless.ne
    cases wait with
    | cancelled | failed => exact ⟨⟨nofun, ⟨nofun, nofun⟩, nofun, fun h => absurd h.2 hnot⟩, nofun⟩
    | elapsed =>
      refine ⟨⟨?_, ⟨fun _ => ⟨trivial, hless, rfl⟩, fun _ => ⟨_, _, rfl⟩⟩, nofun,
        fun h => absurd h.2 hnot⟩, ?_⟩
      · rintro _ _ ⟨⟩
        exact hbackoff
      · rintro _ _ ⟨⟩
        refine ⟨hseries, by dsimp only; omega, ?_⟩
        have hpower : 0 < policy.initialBackoff.toInt *
            2 ^ restartsSince policy.window (runtime :: runtimes) :=
          Int.mul_pos hpos (Int.pow_pos (by decide))
        have hsucc : series policy.window (runtime :: runtimes) =
            restartsSince policy.window (runtime :: runtimes) + 1 := by
          unfold restartsSince
          omega
        dsimp only
        rw [toInt_nextBackoff (by omega) (by omega), hbackoff, hsucc, Int.pow_succ,
          ← Int.mul_assoc]
        omega

theorem asSpecified_of_returned {counts : Prop} {ending : Ending} (hcounts : ¬ counts)
    (hending : ∀ attempts last, ending ≠ .gaveUp attempts last) :
    AsSpecified policy runtimes counts wait (.returned ending) := by
  refine ⟨nofun, ⟨nofun, fun h => absurd h.1 hcounts⟩, ?_, fun h => absurd h.1 hcounts⟩
  rintro ⟨attempts, last, heq⟩
  exact absurd (Round.returned.inj heq) (hending attempts last)

/-- A loop whose rounds end with `count` when the attempt counts, and otherwise return. -/
theorem asSpecified_of_restarted {ι : Type} {round : LoopState → ι → Wait → Round}
    {runtime : ι → Int64} {counts : ι → Prop} (hvalid : validatePolicy policy = .ok ())
    (hcounts : ∀ state launch wait, counts launch → ∃ last,
      round state launch wait = policy.count (policy.settle state (runtime launch)) last wait)
    (hreturns : ∀ state launch wait, ¬ counts launch → ∃ ending,
      round state launch wait = .returned ending ∧ ∀ attempts last, ending ≠ .gaveUp attempts last)
    (h : Restarted policy round runtime runtimes state) :
    Tracks policy runtimes state ∧ ∀ launch wait,
      AsSpecified policy (runtime launch :: runtimes) (counts launch) wait
        (round state launch wait) := by
  -- the attempts before the last were restarted after, so they count
  have htracks : Tracks policy runtimes state := by
    induction h with
    | start => exact Tracks.start hvalid
    | @restart runtimes state next waited launch wait _ hround ih =>
      by_cases hcount : counts launch
      · obtain ⟨last, heq⟩ := hcounts state launch wait hcount
        exact (ih.count hvalid).2 waited next (heq.symm.trans hround)
      · obtain ⟨ending, heq, -⟩ := hreturns state launch wait hcount
        cases heq.symm.trans hround
  refine ⟨htracks, fun launch wait => ?_⟩
  by_cases hcount : counts launch
  · obtain ⟨last, heq⟩ := hcounts state launch wait hcount
    rw [heq, eq_true hcount]
    exact (htracks.count hvalid).1
  · obtain ⟨ending, heq, hending⟩ := hreturns state launch wait hcount
    rw [heq]
    exact asSpecified_of_returned hcount hending

end

/-- **Supervision backs off and gives up as specified, in both loops.** After any attempts that
were restarted after, the next round waits for the initial backoff times two to the number of
restarts of its series, but no longer than the maximum. The loop gives up exactly with the last
failure that the policy allows in a series, and restarts after every failure before it whose wait
elapses. An attempt that was up for the stable window begins a
series, and its own exit is the first failure of it. -/
theorem backs_off_and_gives_up {policy : Policy} (hvalid : validatePolicy policy = .ok ()) :
    (∀ runtimes state, Restarted policy (runPrepared policy) Launch.runtime runtimes state →
      ∀ launch wait, AsSpecified policy (launch.runtime :: runtimes) (launch.Counts policy) wait
        (runPrepared policy state launch wait)) ∧
    ∀ runtimes state, Restarted policy (runPreparedReady policy) ReadyLaunch.runtime runtimes state →
      ∀ launch wait, AsSpecified policy (launch.runtime :: runtimes) (launch.Counts policy) wait
        (runPreparedReady policy state launch wait) := by
  refine ⟨fun runtimes state h => (asSpecified_of_restarted hvalid ?_ ?_ h).2,
    fun runtimes state h => (asSpecified_of_restarted hvalid ?_ ?_ h).2⟩
  · rintro state (_ | _ | ⟨err, runtime, cancelled⟩) wait hcounts
    · exact hcounts.elim
    · exact hcounts.elim
    · obtain ⟨rfl, hrestart⟩ := hcounts
      simp only [runPrepared, hrestart]
      exact ⟨_, rfl⟩
  · rintro state (⟨err, cancelled⟩ | _ | ⟨err, runtime, cancelled⟩) wait hcounts
    · exact ⟨_, rfl, by cases cancelled <;> nofun⟩
    · exact ⟨_, rfl, nofun⟩
    · cases cancelled with
      | true => exact ⟨_, rfl, nofun⟩
      | false =>
        have hrestart : policy.restart = false := by
          simpa [Launch.Counts] using hcounts
        simp only [runPrepared, hrestart]
        exact ⟨_, rfl, by cases err <;> nofun⟩
  · rintro state (_ | _ | _ | result) wait hcounts
    · exact hcounts.elim
    · exact hcounts.elim
    · exact hcounts.elim
    · obtain ⟨hstopped, hterminal, herr, hrestart⟩ := hcounts
      simp only [runPreparedReady, hstopped, hterminal, herr, hrestart]
      exact ⟨_, rfl⟩
  · rintro state (⟨err, cancelled⟩ | _ | _ | result) wait hcounts
    · exact ⟨_, rfl, by cases cancelled <;> nofun⟩
    · exact ⟨_, rfl, nofun⟩
    · exact ⟨_, rfl, nofun⟩
    · unfold runPreparedReady
      dsimp only
      split_ifs with hstopped hterminal hrestart
      · exact ⟨_, rfl, nofun⟩
      · exact ⟨_, rfl, nofun⟩
      · exact ⟨_, rfl, nofun⟩
      · simp_all [ReadyLaunch.Counts]

/-- One second, doubled up to three, and three attempts. -/
def examplePolicy : Policy := ⟨true, 1000000000, 3000000000, 60000000000, 0, 3⟩

/-- The third failure in a row is the last. -/
theorem gives_up_after_three :
    ∃ state, Restarted examplePolicy (runPrepared examplePolicy) Launch.runtime [0, 0] state ∧
      ∃ attempts last, runPrepared examplePolicy state (.exited none 0 false) .elapsed =
        .returned (.gaveUp attempts last) := by
  have hrestarted : Restarted examplePolicy (runPrepared examplePolicy) Launch.runtime [0, 0]
      ⟨3000000000, 2⟩ :=
    .restart (Launch.exited none 0 false) .elapsed
      (.restart (Launch.exited none 0 false) .elapsed .start rfl) rfl
  exact ⟨_, hrestarted, (((backs_off_and_gives_up rfl).1 _ _ hrestarted (.exited none 0 false)
    .elapsed).gives_up).2 ⟨⟨rfl, rfl⟩, rfl⟩⟩

/-- After an attempt that was up for a minute, the loop gives up with the second short attempt, not
with the third: three attempts are allowed, and only two of them were unstable. -/
theorem gives_up_after_two_unstable :
    ∃ state attempts last,
      Restarted examplePolicy (runPrepared examplePolicy) Launch.runtime [0, 60000000000] state ∧
      runPrepared examplePolicy state (.exited none 0 false) .elapsed =
        .returned (.gaveUp attempts last) := by
  refine ⟨⟨3000000000, 2⟩, 3, _, ?_, rfl⟩
  exact .restart (Launch.exited none 0 false) .elapsed
    (.restart (Launch.exited none 60000000000 false) .elapsed .start rfl) rfl

end WarpTweet.Supervisor
