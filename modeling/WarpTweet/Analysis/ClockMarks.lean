import WarpTweet.Concurrency.Alone
import WarpTweet.Analysis.Scenario

/-!
# The mark of the host clock

`ObserveClock` keeps the largest clock reading that it has accepted. A reading behind the mark by
more than a second is refused, one that is behind by less is accepted and leaves the mark. The
reading that is behind by exactly a second, the smallest step that counts as a rollback, is accepted
too. And a write that fails after the file was put in place is reported as a refusal although the
mark has moved.
-/

set_option autoImplicit false

namespace WarpTweet

open Concurrency

/-! ## One reading -/

/-- One call of `ObserveClock`, with its outcome and the host it leaves. The environment may let a
read or a write fail; `intact` says that a failed write has no effect. -/
def Observes (site : Site) (intact : Bool) (host : Host) (now : Time) (outcome : Except Err Unit)
    (host' : Host) : Prop :=
  Reaches (hostMachine site) (fun _ choice _ => intact = true → choice.outcome ≠ .torn) 0
    (observeClock now) host fun result left => result = outcome ∧ left = host'

variable {site : Site} {host host' : Host} {now : Time} {outcome : Except Err Unit}

section

variable {previous : Time} {advances : Bool}

theorem isRepresentable_of_year (h : yearOutOfRange now = false) : now.isRepresentable = true := by
  obtain ⟨hearly, hlate⟩ := Bool.or_eq_false_iff.1 h
  have hearly : (1577836800 * 1000000000 : Int) ≤ now := Int.not_lt.1 (of_decide_eq_false hearly)
  have hlate : now < (7289654400 * 1000000000 : Int) := Int.not_le.1 (of_decide_eq_false hlate)
  have hlow : (-62167219200 * 1000000000 : Int) ≤ now :=
    Int.le_trans (by decide) hearly
  have hhigh : now < (253402300800 * 1000000000 : Int) := Int.lt_trans hlate (by decide)
  exact Bool.and_eq_true_iff.2 ⟨decide_eq_true hlow, decide_eq_true hhigh⟩

/-- What `ObserveClock` decides for a reading of a plausible year: without a mark it is written, and
otherwise it is refused if it is more than a second behind the mark. -/
theorem of_clockDecision {observed : Option Stamp} (h : clockDecision observed now = .ok advances) :
    now.isRepresentable = true ∧ now.isZero = false ∧
      ((observed = none ∧ advances = true) ∨
        ∃ previous, observed = some (.at previous) ∧ previous ≤ now + Time.second ∧
          advances = !decide (now < previous)) := by
  simp only [clockDecision, except_bind_eq_ok, refuseIf_eq_ok] at h
  obtain ⟨_, hzero, _, hyear, h⟩ := h
  refine ⟨isRepresentable_of_year hyear, hzero, ?_⟩
  cases observed with
  | none =>
    cases h
    exact .inl ⟨rfl, rfl⟩
  | some stamp =>
    cases stamp with
    | empty => cases h
    | unreadable => cases h
    | «at» previous =>
      simp only [Stamp.parseUTC, except_bind_eq_ok, refuseIf_eq_ok,
        decide_eq_false_iff_not] at h
      obtain ⟨_, hbehind, hadvances⟩ := h
      cases hadvances
      exact .inr ⟨previous, rfl, Int.not_lt.1 hbehind, rfl⟩

/-- **What one call does.** A refused reading leaves the host as it is, unless a write fails after it
took effect; an accepted one is the new mark if it is not behind the old one. -/
theorem of_observes (h : Observes site true host now outcome host') :
    (∃ err, outcome = .error err ∧ host' = host) ∨
      ∃ advances, outcome = .ok () ∧ clockDecision host.observed now = .ok advances ∧
        host' = if advances then { host with observed := some (.at now) } else host := by
  have hrecord : ∀ observed, host.observed = observed →
      Reaches (hostMachine site) (fun _ choice _ => true = true → choice.outcome ≠ .torn) 0
        (recordObservation observed now) host (fun result left => result = outcome ∧ left = host') →
      (∃ err, outcome = .error err ∧ host' = host) ∨
        ∃ advances, outcome = .ok () ∧ clockDecision host.observed now = .ok advances ∧
          host' = if advances then { host with observed := some (.at now) } else host := by
    rintro observed rfl h
    rw [recordObservation] at h
    have hdecided := reaches_ofExcept.1 (reaches_bind.1 h)
    cases hdecision : clockDecision host.observed now with
    | error err =>
      rw [hdecision] at hdecided
      exact .inl ⟨err, hdecided.1.symm, hdecided.2.symm⟩
    | ok advances =>
      rw [hdecision] at hdecided
      obtain ⟨hwritable, hzero, -⟩ := of_clockDecision hdecision
      have hformat : Stamp.formatUTC now = .ok (.at now) := by
        simp [Stamp.formatUTC, Stamp.format, hzero, hwritable]
      cases advances with
      | false => exact .inr ⟨false, hdecided.1.symm, rfl, hdecided.2.symm⟩
      | true =>
        simp only [if_true, hformat] at hdecided
        have hwrites := reaches_ofExcept.1 (reaches_bind.1 hdecided)
        obtain ⟨choice, reply, left, hintact, hperform, hend⟩ := reaches_bind.1 hwrites
        cases hperform
        cases houtcome : choice.outcome with
        | ok =>
          rw [houtcome] at hend
          exact .inr ⟨true, hend.1.symm, rfl, hend.2.symm⟩
        | lost =>
          rw [houtcome] at hend
          exact .inl ⟨_, hend.1.symm, hend.2.symm⟩
        | torn => exact absurd houtcome (hintact trivial)
  rw [Observes, observeClock] at h
  have hfirst := reaches_ofExcept.1 (reaches_bind.1 h)
  cases hshort : (clockDecision none now).map fun _ => () with
  | error err =>
    rw [hshort] at hfirst
    exact .inl ⟨err, hfirst.1.symm, hfirst.2.symm⟩
  | ok _ =>
    rw [hshort] at hfirst
    obtain ⟨choice, reply, left, -, hperform, hrest⟩ := reaches_bind.1 hfirst
    cases hperform
    cases hreports : choice.outcome.reports with
    | false =>
      rw [hreports] at hrest
      exact .inl ⟨_, hrest.1.symm, hrest.2.symm⟩
    | true =>
      rw [hreports] at hrest
      cases hobserved : host.observed with
      | none =>
        rw [hobserved] at hrest
        exact hobserved ▸ hrecord none hobserved hrest
      | some stamp =>
        rw [hobserved] at hrest
        exact hobserved ▸ hrecord (some stamp) hobserved hrest

end

/-! ## Sequences of readings -/

/-- A reading that was passed to `ObserveClock`, and whether it was accepted. -/
structure Reading where
  now : Time
  accepted : Bool
  deriving DecidableEq, Repr

/-- The largest reading that was accepted. -/
def highest : List Reading → Option Time
  | [] => none
  | reading :: older =>
    if reading.accepted then some ((highest older).elim reading.now (max reading.now))
    else highest older

/-- The outcome of a call is a success. -/
def succeeds : Except Err Unit → Bool
  | .ok _ => true
  | .error _ => false

/-- Calls of `ObserveClock` one after the other, from a host without a mark. The newest reading
comes first. -/
inductive Readings (site : Site) (intact : Bool) : List Reading → Host → Prop
  | start {host : Host} (unmarked : host.observed = none) : Readings site intact [] host
  | next {readings : List Reading} {host host' : Host} {now : Time} {outcome : Except Err Unit}
      (earlier : Readings site intact readings host)
      (call : Observes site intact host now outcome host') :
      Readings site intact (⟨now, succeeds outcome⟩ :: readings) host'

section

variable {readings : List Reading}

/-- If no failed write takes effect, the mark is the largest accepted reading. -/
theorem observed_of_readings (h : Readings site true readings host) :
    host.observed = (highest readings).map Stamp.at := by
  induction h with
  | start unmarked => exact unmarked
  | @next readings host host' now outcome earlier call ih =>
    rcases of_observes call with ⟨err, rfl, rfl⟩ | ⟨advances, rfl, hdecision, rfl⟩
    · exact ih
    · simp only [succeeds, highest, if_true, Option.map_some]
      obtain ⟨-, -, ⟨hnone, rfl⟩ | ⟨previous, hprevious, -, rfl⟩⟩ := of_clockDecision hdecision
      · rw [hnone] at ih
        have hhighest : highest readings = none := Option.map_eq_none_iff.1 ih.symm
        rw [hhighest]
        rfl
      · rw [hprevious] at ih
        obtain ⟨top, htop, heq⟩ := Option.map_eq_some_iff.1 ih.symm
        obtain rfl : top = previous := Stamp.at.inj heq
        rw [htop, Option.elim_some]
        by_cases hbehind : now < top
        · rw [decide_eq_true hbehind, Int.max_eq_right (Int.le_of_lt hbehind)]
          exact hprevious
        · rw [decide_eq_false hbehind, Int.max_eq_left (Int.not_lt.1 hbehind)]
          rfl

/-- **The mark is a high-water mark.** After any readings, if no failed write takes effect: the mark
is the largest accepted reading, the next reading does not lower it, an accepted reading is at most
a second behind it, and a refused reading changes nothing. -/
theorem mark_is_highest (hreadings : Readings site true readings host)
    (hcall : Observes site true host now outcome host') :
    host.observed = (highest readings).map Stamp.at ∧
      host'.observed = (highest (⟨now, succeeds outcome⟩ :: readings)).map Stamp.at ∧
      (∀ mark ∈ highest readings, ∃ mark' ∈ highest (⟨now, succeeds outcome⟩ :: readings),
        mark ≤ mark') ∧
      (outcome = .ok () → ∀ mark ∈ highest readings, mark ≤ now + Time.second) ∧
      ∀ err, outcome = .error err → host' = host := by
  have hmark := observed_of_readings hreadings
  refine ⟨hmark, observed_of_readings (.next hreadings hcall), ?_, ?_, ?_⟩
  · intro mark hmem
    rw [Option.mem_def] at hmem
    cases haccepted : succeeds outcome with
    | false => exact ⟨mark, by simpa [highest] using hmem, Int.le_refl _⟩
    | true =>
      refine ⟨max now mark, ?_, Int.le_max_right _ _⟩
      simp [highest, hmem]
  · rintro rfl mark hmem
    rw [Option.mem_def] at hmem
    rcases of_observes hcall with ⟨err, herr, -⟩ | ⟨advances, -, hdecision, -⟩
    · cases herr
    · rw [hmark, hmem] at hdecision
      obtain ⟨-, -, ⟨hnone, -⟩ | ⟨previous, hprevious, hle, -⟩⟩ := of_clockDecision hdecision
      · cases hnone
      · cases hprevious
        exact hle
  · intro err herr
    rcases of_observes hcall with ⟨_, -, hsame⟩ | ⟨_, hok, -⟩
    · exact hsame
    · rw [herr] at hok
      cases hok

end

/-! ## On the boundary -/

theorem clockDecision_none {now : Time} (hzero : now.isZero = false)
    (hyear : yearOutOfRange now = false) : (clockDecision none now).map (fun _ => ()) = .ok () := by
  simp [clockDecision, hzero, hyear, refuseIf]
  rfl

theorem observes_behind {intact : Bool} (hzero : now.isZero = false)
    (hyear : yearOutOfRange now = false) (h : clockDecision host.observed now = .ok false) :
    Observes site intact host now (.ok ()) host := by
  unfold Observes observeClock
  rw [clockDecision_none hzero hyear]
  refine reaches_bind.2 (reaches_ofExcept.2 ?_)
  refine reaches_bind.2 ⟨{}, _, _, by simp, rfl, ?_⟩
  cases hobserved : host.observed with
  | none =>
    rw [hobserved] at h
    refine reaches_bind.2 (reaches_ofExcept.2 ?_)
    rw [h]
    exact ⟨rfl, rfl⟩
  | some stamp =>
    rw [hobserved] at h
    refine reaches_bind.2 (reaches_ofExcept.2 ?_)
    rw [h]
    exact ⟨rfl, rfl⟩

theorem observes_first (site : Site) (intact : Bool) (host : Host) (hzero : now.isZero = false)
    (hyear : yearOutOfRange now = false) (hnone : host.observed = none) (outcome : Outcome)
    (hintact : intact = true → outcome ≠ .torn) : ∃ result, Observes site intact host now result
        (if outcome.applies then { host with observed := some (.at now) } else host) ∧
      succeeds result = outcome.reports := by
  have hformat : Stamp.formatUTC now = .ok (.at now) := by
    simp [Stamp.formatUTC, Stamp.format, hzero, isRepresentable_of_year hyear]
  have hdecision : clockDecision none now = .ok true := by
    simp [clockDecision, hzero, hyear, refuseIf]
  unfold Observes observeClock
  refine ⟨if outcome.reports then .ok () else .error (.plain ("write " ++ "clock observation")), ?_, ?_⟩
  · rw [clockDecision_none hzero hyear]
    refine reaches_bind.2 (reaches_ofExcept.2 ?_)
    refine reaches_bind.2 ⟨{}, _, _, by simp, rfl, ?_⟩
    rw [hnone]
    refine reaches_bind.2 (reaches_ofExcept.2 ?_)
    rw [hdecision]
    refine reaches_bind.2 (reaches_ofExcept.2 ?_)
    rw [hformat]
    refine reaches_bind.2 ⟨{ outcome }, _, _, hintact, rfl, ?_⟩
    cases outcome <;> exact ⟨rfl, rfl⟩
  · cases outcome <;> rfl

/-- The host of the schedules after its first reading. -/
def Scenario.marked : Host := { Scenario.host with observed := some (.at Scenario.now) }

theorem Scenario.first_reading :
    Readings Scenario.site true [⟨Scenario.now, true⟩] Scenario.marked := by
  obtain ⟨result, hcall, hresult⟩ := observes_first Scenario.site true Scenario.host
    (by decide : Scenario.now.isZero = false) (by decide) rfl .ok (by simp)
  have hnext := Readings.next (.start rfl) hcall
  rw [hresult] at hnext
  exact hnext

/-- A reading a second behind the first one is accepted, and the mark stays. -/
theorem mark_is_highest_of_small_step :
    ∃ host', Observes Scenario.site true Scenario.marked (Scenario.now - Time.second) (.ok ()) host' ∧
      host'.observed = some (.at Scenario.now) ∧
      Scenario.now ≤ Scenario.now - Time.second + Time.second := by
  have hcall : Observes Scenario.site true Scenario.marked (Scenario.now - Time.second) (.ok ())
      Scenario.marked := observes_behind (by decide) (by decide) (by decide)
  have hall := mark_is_highest Scenario.first_reading hcall
  exact ⟨Scenario.marked, hcall, hall.2.1, hall.2.2.2.1 rfl Scenario.now rfl⟩

/-- **The mark is not strict.** After a reading is accepted, one that is exactly a second behind it is
accepted too. And a first reading whose write fails after the file was put in place is reported as
refused, and is the mark all the same. -/
theorem boundary_step_accepted :
    (∃ host, Readings Scenario.site true
        [⟨Scenario.now - Time.second, true⟩, ⟨Scenario.now, true⟩] host) ∧
    ∃ host, Readings Scenario.site false [⟨Scenario.now, false⟩] host ∧
      host.observed = some (.at Scenario.now) := by
  refine ⟨⟨Scenario.marked, ?_⟩, Scenario.marked, ?_, rfl⟩
  · have hcall : Observes Scenario.site true Scenario.marked (Scenario.now - Time.second) (.ok ())
        Scenario.marked := observes_behind (by decide) (by decide) (by decide)
    exact .next Scenario.first_reading hcall
  · obtain ⟨result, hcall, hresult⟩ := observes_first Scenario.site false Scenario.host
      (by decide : Scenario.now.isZero = false) (by decide) rfl .torn (by simp)
    have hnext := Readings.next (.start rfl) hcall
    rw [hresult] at hnext
    exact hnext

end WarpTweet
