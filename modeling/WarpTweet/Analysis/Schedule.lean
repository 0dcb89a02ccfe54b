import WarpTweet.Model.Server
import WarpTweet.Analysis.Scenario

/-!
# When the reconcile loop runs

Every second the loop of the host asks `nextGrantReconcileDelay` whether to reconcile on
this tick. The delay is a minimum over the ends of the grants that are active, rotating or
expiring; the reconcilers select the records they work on by conditions of their own.

A grant whose end has come makes the delay short. A revocation that was cut off does not:
records in `revocation_pending` are not looked at, so it waits for the end of some other
grant. The same holds for a grant in `expiration_pending` whose end lies ahead.
-/

namespace WarpTweet

open Strings

/-- The record counts for the delay: it is active, expiring or rotating, and has an end. -/
def Watched (record : ClientRecord) : Prop :=
  (record.status = .active ∨ record.status = .expirationPending ∨
    record.status = .rotationPending) ∧ record.authorizationNotAfter ≠ .empty

instance : DecidablePred Watched := fun _ => by
  unfold Watched
  infer_instance

/-- The record makes the loop reconcile: it counts for the delay, and its end does not parse or
is at most one second ahead. -/
def Urges (now : Time) (record : ClientRecord) : Prop :=
  Watched record ∧ ∀ notAfter, record.authorizationNotAfter = .at notAfter →
    notAfter - now ≤ Time.second

/-- `reconcileExpiredGrants` works on the record: its revocation is pending, its expiry is
pending, or its end has come. -/
def Reconciles (now : Time) (record : ClientRecord) : Prop :=
  record.status = .revocationPending ∨
    Watched record ∧ ∃ notAfter, record.authorizationNotAfter = .at notAfter ∧
      (record.status = .expirationPending ∨ readyToExpire notAfter now = true)

/-- The loop reconciles on a tick at `now`. -/
def ReconcilesAt (now : Time) (records : List ClientRecord) : Prop :=
  nextGrantReconcileDelay now records ≤ Time.second

instance (now : Time) (records : List ClientRecord) : Decidable (ReconcilesAt now records) :=
  inferInstanceAs (Decidable (_ ≤ _))

/-- Work is picked up: on the tick at `now` if some record has work then, and within a second
of every end that is still to come, by ticks one second apart. -/
structure PickedUp (now : Time) (records : List ClientRecord) : Prop where
  pending : (∃ record ∈ records, Reconciles now record) → ReconcilesAt now records
  coming : ∀ record ∈ records, Watched record →
    ∀ notAfter, record.authorizationNotAfter = .at notAfter → now ≤ notAfter →
      ∃ tick : ℕ, notAfter ≤ now + tick * Time.second ∧
        now + tick * Time.second < notAfter + Time.second ∧
        ReconcilesAt (now + tick * Time.second) records

/-! ## The delay -/

section

variable {now : Time} {records : List ClientRecord}

theorem sub_le_second {now notAfter : Int} (h : notAfter ≤ now) : notAfter - now ≤ Time.second := by
  have hsecond : Time.second = 1000000000 := rfl
  omega

theorem exists_tick {now notAfter : Int} (h : now ≤ notAfter) :
    ∃ tick : ℕ, notAfter ≤ now + tick * Time.second ∧
      now + tick * Time.second < notAfter + Time.second := by
  have hsecond : Time.second = 1000000000 := rfl
  rw [hsecond]
  exact ⟨((notAfter - now + 999999999) / 1000000000).toNat, by omega, by omega⟩

/-- The step of the loop of `nextGrantReconcileDelay` is a minimum over the ends that parse. -/
theorem foldl_delay_le {start bound : Int} : records.foldl (fun delay record =>
        match record.authorizationNotAfter.parseUTC with
        | .ok notAfter => min delay (notAfter - now)
        | .error _ => delay) start ≤ bound ↔
      start ≤ bound ∨ ∃ record ∈ records, ∃ notAfter, record.authorizationNotAfter = .at notAfter ∧
        notAfter - now ≤ bound := by
  induction records generalizing start with
  | nil => simp
  | cons record records ih =>
    rw [List.foldl_cons, ih]
    cases hend : record.authorizationNotAfter with
    | empty => simp [Stamp.parseUTC, hend]
    | unreadable => simp [Stamp.parseUTC, hend]
    | «at» notAfter =>
      have hmin : ∀ delay : Int, min start delay ≤ bound ↔ start ≤ bound ∨ delay ≤ bound := by
        intro delay
        omega
      simp only [Stamp.parseUTC, List.mem_cons, exists_eq_or_imp, hend, Stamp.at.injEq,
        exists_eq_left']
      rw [hmin, or_assoc]

theorem reconcilesAt_iff : ReconcilesAt now records ↔ ∃ record ∈ records, Urges now record := by
  unfold ReconcilesAt nextGrantReconcileDelay
  have hwatched : ∀ record : ClientRecord,
      ((record.status = .active || record.status = .expirationPending ||
        record.status = .rotationPending) && record.authorizationNotAfter ≠ .empty) = true ↔
      Watched record := by
    intro record
    simp [Watched, or_assoc]
  dsimp only
  split
  next hdue =>
    obtain ⟨record, hrecord, hend⟩ := List.any_eq_true.1 hdue
    obtain ⟨hmem, hrecord⟩ := List.mem_filter.1 hrecord
    refine iff_of_true (Int.le_refl _) ⟨record, hmem, (hwatched record).1 hrecord, ?_⟩
    intro notAfter hat
    refine sub_le_second ?_
    simpa [hat, Stamp.parseUTC] using hend
  next hdue =>
    have hminute : ¬ 60 * Time.second ≤ Time.second := by decide
    have hmax : ∀ delay : Int, max delay Time.second ≤ Time.second ↔ delay ≤ Time.second := by
      intro delay
      omega
    refine (hmax _).trans (Iff.trans foldl_delay_le ?_)
    rw [or_iff_right hminute]
    constructor
    · rintro ⟨record, hrecord, notAfter, hat, hle⟩
      obtain ⟨hmem, hrecord⟩ := List.mem_filter.1 hrecord
      refine ⟨record, hmem, (hwatched record).1 hrecord, fun other hother => ?_⟩
      rw [hat, Stamp.at.injEq] at hother
      exact hother ▸ hle
    · rintro ⟨record, hmem, hrecord, hend⟩
      have hfilter : record ∈ records.filter fun record =>
          (record.status = .active || record.status = .expirationPending ||
            record.status = .rotationPending) && record.authorizationNotAfter ≠ .empty :=
        List.mem_filter.2 ⟨hmem, (hwatched record).2 hrecord⟩
      refine ⟨record, hfilter, ?_⟩
      cases hat : record.authorizationNotAfter with
      | empty => exact absurd hat hrecord.2
      | unreadable =>
        -- an end that does not parse is due
        refine absurd (List.any_eq_true.2 ⟨record, hfilter, ?_⟩) hdue
        simp [hat, Stamp.parseUTC]
      | «at» notAfter => exact ⟨notAfter, rfl, hend notAfter hat⟩

/-- The first tick at or after an end reconciles, and it is at most one second late. -/
theorem reconcilesAt_first_tick {record : ClientRecord} {notAfter : Time}
    (hmem : record ∈ records) (hwatched : Watched record)
    (hat : record.authorizationNotAfter = .at notAfter) (hahead : now ≤ notAfter) :
    ∃ tick : ℕ, notAfter ≤ now + tick * Time.second ∧
      now + tick * Time.second < notAfter + Time.second ∧
      ReconcilesAt (now + tick * Time.second) records := by
  obtain ⟨tick, hreached, hprompt⟩ := exists_tick hahead
  refine ⟨tick, hreached, hprompt, ?_⟩
  refine reconcilesAt_iff.2 ⟨record, hmem, hwatched, fun other hother => ?_⟩
  rw [hat, Stamp.at.injEq] at hother
  subst hother
  exact sub_le_second hreached

end

/-! ## Prompt reconciliation -/

/-- The record waits for others: its revocation is pending, or its expiry is pending with an
end that is more than one second ahead. -/
def Waits (now : Time) (record : ClientRecord) : Prop :=
  record.status = .revocationPending ∨
    record.status = .expirationPending ∧ ∃ notAfter, record.authorizationNotAfter = .at notAfter ∧
      Time.second < notAfter - now

/-- **Work is picked up promptly**, for any records at any time, exactly if records that wait
for others come with a record that urges the loop. -/
theorem pickedUp_iff (now : Time) (records : List ClientRecord) :
    PickedUp now records ↔
      ((∃ record ∈ records, Waits now record) → ∃ record ∈ records, Urges now record) := by
  constructor
  · rintro ⟨hpending, -⟩ ⟨record, hmem, hwaits⟩
    refine reconcilesAt_iff.1 (hpending ⟨record, hmem, ?_⟩)
    rcases hwaits with hrevoking | ⟨hexpiring, notAfter, hat, -⟩
    · exact .inl hrevoking
    · exact .inr ⟨⟨.inr (.inl hexpiring), by simp [hat]⟩, notAfter, hat, .inl hexpiring⟩
  · intro hurges
    refine ⟨?_, fun _ hmem hwatched _ hat hahead =>
      reconcilesAt_first_tick hmem hwatched hat hahead⟩
    rintro ⟨record, hmem, hrevoking | ⟨hwatched, notAfter, hat, hdue⟩⟩
    · exact reconcilesAt_iff.2 (hurges ⟨record, hmem, .inl hrevoking⟩)
    · rw [reconcilesAt_iff]
      by_cases hsoon : notAfter - now ≤ Time.second
      · refine ⟨record, hmem, hwatched, fun other hother => ?_⟩
        rw [hat, Stamp.at.injEq] at hother
        exact hother ▸ hsoon
      · have hahead : Time.second < notAfter - now := Int.not_le.1 hsoon
        rcases hdue with hexpiring | hready
        · exact hurges ⟨record, hmem, .inr ⟨hexpiring, notAfter, hat, hahead⟩⟩
        · -- a grant whose end has come is no second ahead
          refine absurd (sub_le_second ?_) hsoon
          unfold readyToExpire at hready
          split at hready
          · cases hready
          · simpa using hready

namespace Scenario

/-- The client of key `A` whose revocation has begun. -/
def revoking : ClientRecord :=
  beginRevocation
    (wantClient env (request 'A') invite published now (.at (now + 7200 * Time.second))) now

end Scenario

/-- A revocation was cut off after its first write, and there is no other client. The loop lets
the tick pass. -/
theorem revocation_not_picked_up :
    Reconciles Scenario.now Scenario.revoking ∧
      ¬ ReconcilesAt Scenario.now [Scenario.revoking] ∧
      ¬ PickedUp Scenario.now [Scenario.revoking] := by
  have hwork : Reconciles Scenario.now Scenario.revoking := .inl rfl
  have hquiet : ¬ ReconcilesAt Scenario.now [Scenario.revoking] := by decide +kernel
  exact ⟨hwork, hquiet, fun h => hquiet (h.pending ⟨_, List.mem_singleton.2 rfl, hwork⟩)⟩

end WarpTweet
