import WarpTweet.Analysis.Schedule
import WarpTweet.Analysis.TickSteps

/-!
# One tick of the reconcile loop

A tick lists the client records, finishes pending revocations and expires the grants whose
end has come. It should expire a grant whatever is wrong with others. The two loops over the
records do go on after a client whose own steps fail, but there are three ways in which one
bad record keeps another one alive.

* One record that cannot be read fails the listing, and a failed listing counts as an empty
  one, with nothing to do.
* A pending revocation that fails is reported after the first loop, and the second loop, the
  one that expires, is not entered.
* An end that does not parse returns from the second loop at once, before the records that
  are listed after it.

Without these three a tick expires every grant that is due, and with any of them it may not.
-/

namespace WarpTweet

open Strings Concurrency Storage

/-- No other client stands in the way of the expiry of `record` in a tick: every record can be
read, the pending revocations belong to clients whose own steps succeed, and the ends of the live
grants listed before it parse. -/
structure Unhindered (readable sound : List Text) (s : Host) (record : ClientRecord) : Prop where
  readable : ∀ other ∈ listed s, other.clientID ∈ readable
  revocations : ∀ other ∈ listed s, other.status = .revocationPending → other.clientID ∈ sound
  ends : ∀ before after, listed s = before ++ record :: after → ∀ other ∈ before, Watched other →
    other.authorizationNotAfter ≠ .unreadable

variable {before after : List ClientRecord} {record : ClientRecord}
  {Q : Except Err (List Err) → Host → Prop} {advances : Bool}

theorem Watched.not_revoking (h : Watched record) : record.status ≠ .revocationPending := by
  intro hpending
  rcases h.1 with hstatus | hstatus | hstatus <;> rw [hpending] at hstatus <;> cases hstatus

theorem Due.watched {now : Time} (h : Due now record) : Watched record := by
  obtain ⟨notAfter, hat, -⟩ := h.ended
  exact ⟨h.live, by simp [hat]⟩

section

variable {site : Site} {pid : ℕ} {readable sound : List Text} {s s₁ s₂ : Host} {clientID : Text}
  {now : Time} {record item : ClientRecord} {errs : List Err} {passed : List ClientRecord}

theorem completes_collectError {α : Type} {body : HostProg α}
    {allowed : Action → Choice → Host → Prop}
    (h : Completes (hostMachine site) allowed pid body s fun outcome s' =>
      match outcome with
      | .ok _ => Q (.ok errs) s'
      | .error err => Q (.ok (errs ++ [err.wrap ("client " ++ String.ofList clientID)])) s') :
    Completes (hostMachine site) allowed pid (collectError clientID errs body) s Q := by
  refine completes_bind.2 (completes_attempt.2 (h.mono ?_))
  rintro (err | value) s' hQ
  · exact hQ
  · exact hQ

/-! ## The loop over pending revocations -/

/-- Since `s`, only records of pending revocations have changed. -/
structure Kept (s s' : Host) : Prop where
  locks : s'.locks = s.locks
  names : s'.clients.names = s.clients.names
  kept : ∀ {clientID record}, s.clients.get clientID = some record →
    record.status ≠ .revocationPending → s'.clients.get clientID = some record

/-- Since `s`, some pending revocations have been completed, and nothing else. -/
structure Revoked (s s' : Host) : Prop extends Kept s s' where
  records : ∀ {clientID record}, s'.clients.get clientID = some record →
    s.clients.get clientID = some record ∨ record.status = .revoked

theorem revoked_refl : Revoked s s := ⟨⟨rfl, rfl, fun h _ => h⟩, .inl⟩

theorem Kept.step (h : Kept s s₁) (hlisted : s.clients.get clientID = some record)
    (hpending : record.status = .revocationPending) (htouches : TouchesOnly clientID s₁ s₂) :
    Kept s s₂ := by
  refine ⟨htouches.locks.trans h.locks, htouches.names.trans h.names, fun {other found} hother hstatus => ?_⟩
  have hid : other ≠ clientID := by
    rintro rfl
    rw [hlisted, Option.some.injEq] at hother
    exact hstatus (hother ▸ hpending)
  rw [htouches.others hid]
  exact h.kept hother hstatus

theorem Revoked.step {revoked : ClientRecord} (h : Revoked s s₁)
    (hlisted : s.clients.get clientID = some record) (hpending : record.status = .revocationPending)
    (htouches : TouchesOnly clientID s₁ s₂) (hget : s₂.clients.get clientID = some revoked)
    (hrevoked : revoked.status = .revoked) : Revoked s s₂ := by
  refine ⟨h.toKept.step hlisted hpending htouches, fun {other found} hother => ?_⟩
  by_cases hid : other = clientID
  · subst hid
    rw [hget, Option.some.injEq] at hother
    exact .inr (hother ▸ hrevoked)
  · rw [htouches.others hid] at hother
    exact h.records hother

section

variable (hunlocked : ∀ name, s.locks name = none)
include hunlocked

theorem completes_reconcilePendingRevocations
    (hreadable : ∀ other ∈ listed s, other.clientID ∈ readable)
    (hsound : ∀ other ∈ listed s, other.status = .revocationPending → other.clientID ∈ sound) :
    Completes (hostMachine site) (TickEnv pid readable sound) pid
      (reconcilePendingRevocations site.env now) s
      fun outcome s' => outcome = .ok () ∧ Revoked s s' := by
  refine completes_bind.2 (completes_listClients hreadable ?_)
  refine completes_bind.2 (Completes.mono (completes_fold
    (I := fun _ errs s' => errs = [] ∧ Revoked s s') (E := fun _ _ => False) ?_
    ⟨rfl, revoked_refl⟩) ?_)
  · rintro passed record rest errs s' hitems ⟨rfl, hrevoked⟩
    have hmem : record ∈ listed s := hitems ▸ List.mem_append_cons_self
    refine Completes.ite (fun _ => ⟨rfl, hrevoked⟩) fun hpending => ?_
    have hpending : record.status = .revocationPending := not_not.1 hpending
    have hget := get_of_mem_listed hmem
    obtain ⟨current, hcurrent⟩ : ∃ current, s'.clients.get record.clientID = some current := by
      rw [← Directory.mem_names, hrevoked.names]
      exact Directory.mem_names.2 ⟨record, hget⟩
    have hstatus : current.status = .revocationPending ∨ current.status = .revoked := by
      rcases hrevoked.records hcurrent with hsame | hdone
      · rw [hget, Option.some.injEq] at hsame
        exact .inl (hsame ▸ hpending)
      · exact .inr hdone
    have hlock : ∀ name, s'.locks name = none := fun name => by rw [hrevoked.locks, hunlocked]
    refine completes_collectError (Completes.mono (completes_completePendingRevocation
      (reliable_tickEnv (hsound record hmem hpending)) (hlock _) (hlock _) (mem_listed.1 hmem).2
      hcurrent hstatus) ?_)
    rintro outcome s'' ⟨⟨result, rfl⟩, htouches, revoked, hget', hdone⟩
    exact ⟨rfl, hrevoked.step hget hpending htouches hget' hdone⟩
  · rintro (err | errs) s' h
    · exact h.elim
    · obtain ⟨rfl, hrevoked⟩ := h
      exact ⟨rfl, hrevoked⟩

/-- One round of the first loop, whatever comes of it: it keeps the errors collected so far. -/
theorem completes_pendingStep {rest : List ClientRecord}
    (hitems : listed s = passed ++ item :: rest) (hkept : Kept s s₁) :
    Completes (hostMachine site) (TickEnv pid readable sound) pid
      (if item.status ≠ .revocationPending then pure errs
        else collectError item.clientID errs
          (completePendingRevocation site.env item.clientID now) : HostProg (List Err)) s₁
      fun outcome s' => ∃ errs', outcome = .ok errs' ∧ Kept s s' ∧ (errs ≠ [] → errs' ≠ []) := by
  refine Completes.ite (fun _ => ⟨errs, rfl, hkept, id⟩) fun hpending => ?_
  have hpending : item.status = .revocationPending := not_not.1 hpending
  have hmem : item ∈ listed s := hitems ▸ List.mem_append_cons_self
  have hlock : ∀ name, s₁.locks name = none := fun name => by rw [hkept.locks, hunlocked]
  refine completes_collectError (Completes.mono
    (completes_completePendingRevocation_any (hlock _) (hlock _)) ?_)
  intro outcome s' htouches
  have hkept' := hkept.step (get_of_mem_listed hmem) hpending htouches
  cases outcome with
  | ok _ => exact ⟨errs, rfl, hkept', id⟩
  | error err => exact ⟨_, rfl, hkept', fun _ => by simp⟩

theorem completes_reconcilePendingRevocations_any
    (hreadable : ∀ other ∈ listed s, other.clientID ∈ readable) :
    Completes (hostMachine site) (TickEnv pid readable sound) pid
      (reconcilePendingRevocations site.env now) s fun _ s' => Kept s s' := by
  refine completes_bind.2 (completes_listClients hreadable ?_)
  refine completes_bind.2 (Completes.mono (completes_fold (I := fun _ _ s' => Kept s s')
    (E := fun _ _ => False) ?_ revoked_refl.toKept) ?_)
  · intro passed record rest errs s' hitems hkept
    refine Completes.mono (completes_pendingStep hunlocked hitems hkept) ?_
    rintro _ s'' ⟨errs', rfl, hkept', -⟩
    exact hkept'
  · rintro (err | errs) s' h
    · exact h.elim
    · cases errs with
      | nil => exact h
      | cons err errs => exact h

/-- One pending revocation of a client whose steps may fail can fail the first loop. -/
theorem reaches_reconcilePendingRevocations_error
    (hreadable : ∀ other ∈ listed s, other.clientID ∈ readable) (hmem : record ∈ listed s)
    (hpending : record.status = .revocationPending) (hsound : record.clientID ∉ sound) :
    Reaches (hostMachine site) (TickEnv pid readable sound) pid
      (reconcilePendingRevocations site.env now) s
      fun outcome s' => Kept s s' ∧ ∃ err, outcome = .error err := by
  refine reaches_bind.2 (Completes.reaches (completes_listClients hreadable ?_))
  refine reaches_bind.2 (Reaches.mono (reaches_fold
    (I := fun passed errs s' => Kept s s' ∧ (record ∈ passed → errs ≠ []))
    (E := fun _ _ => False) ?_ ⟨revoked_refl.toKept, by simp⟩) ?_)
  · rintro passed item rest errs s' hitems ⟨hkept, herrs⟩
    by_cases hitem : item = record
    · -- the lock of this client cannot be taken
      subst hitem
      have hlock : ∀ name, s'.locks name = none := fun name => by rw [hkept.locks, hunlocked]
      rw [if_neg (not_not.2 hpending)]
      refine reaches_bind.2 (reaches_attempt.2 (Reaches.mono
        (reaches_completePendingRevocation_error hlock (mem_listed.1 hmem).2 hsound) ?_))
      rintro outcome s'' ⟨rfl, err, rfl⟩
      exact ⟨hkept, fun _ => by simp⟩
    · refine Completes.reaches (Completes.mono (completes_pendingStep hunlocked hitems hkept) ?_)
      rintro _ s'' ⟨errs', rfl, hkept', herrs'⟩
      refine ⟨hkept', fun hpassed => ?_⟩
      rcases List.mem_append.1 hpassed with hpassed | hpassed
      · exact herrs' (herrs hpassed)
      · exact absurd (List.mem_singleton.1 hpassed).symm hitem
  · rintro (err | errs) s' h
    · exact h.elim
    · obtain ⟨hkept, herrs⟩ := h
      cases errs with
      | nil => exact absurd rfl (herrs hmem)
      | cons err errs => exact ⟨hkept, _, rfl⟩

end

/-! ## The loop over due grants -/

/-- The second loop is at work on the expiry of `record`. -/
structure Towards (record : ClientRecord) (passed : List ClientRecord) (s s' : Host) : Prop where
  locks : s'.locks = s.locks
  stands : s'.clients.get record.clientID = some record ∨ HasExpired record.clientID s'
  passed : record ∈ passed → HasExpired record.clientID s'

theorem Towards.skip (h : Towards record passed s s₁) (hitem : item ≠ record) :
    Towards record (passed ++ [item]) s s₁ := by
  refine ⟨h.locks, h.stands, fun hpassed => ?_⟩
  rcases List.mem_append.1 hpassed with hpassed | hpassed
  · exact h.passed hpassed
  · exact absurd (List.mem_singleton.1 hpassed).symm hitem

theorem Towards.touch (h : Towards record passed s s₁) (hitem : record.clientID ≠ item.clientID)
    (htouches : TouchesOnly item.clientID s₁ s₂) : Towards record (passed ++ [item]) s s₂ := by
  have hsame := htouches.others hitem
  have h' : Towards record passed s s₂ :=
    ⟨htouches.locks.trans h.locks, by rw [HasExpired, hsame]; exact h.stands,
      by rw [HasExpired, hsame]; exact h.passed⟩
  exact h'.skip fun heq => hitem (heq ▸ rfl)

/-- What the second loop does with one record, apart from the one it is to expire. -/
theorem completes_expiryStep (hunlocked : ∀ name, s.locks name = none)
    (hbad : Watched item → item.authorizationNotAfter = .unreadable → ∀ err, Q (.error err) s)
    (hgood : ¬ (Watched item ∧ item.authorizationNotAfter = .unreadable) →
      ∀ s' errs, TouchesOnly item.clientID s s' → Q (.ok errs) s') :
    Completes (hostMachine site) (TickEnv pid readable sound) pid
      (if item.status ≠ .active ∧ item.status ≠ .expirationPending ∧
          item.status ≠ .rotationPending then pure errs
        else if item.authorizationNotAfter = .empty then pure errs
        else do
          let notAfter ← .ofExcept (item.authorizationNotAfter.parseUTC.mapError
            (.wrap ("client " ++ String.ofList item.clientID)))
          if item.status ≠ .expirationPending ∧ ¬ readyToExpire notAfter now then pure errs
          else collectError item.clientID errs (expireClient site.env item.clientID now) :
        HostProg (List Err)) s Q := by
  refine Completes.ite (fun hother => ?_) fun hlive => ?_
  · refine hgood (fun hbad => ?_) _ _ touchesOnly_refl
    rcases hbad.1.1 with hstatus | hstatus | hstatus
    · exact hother.1 hstatus
    · exact hother.2.1 hstatus
    · exact hother.2.2 hstatus
  refine Completes.ite (fun hnone => ?_) fun hsome => ?_
  · exact hgood (fun hbad => hbad.1.2 hnone) _ _ touchesOnly_refl
  have hwatched : Watched item := by
    refine ⟨?_, hsome⟩
    by_contra hstatus
    exact hlive (by simpa [not_or] using hstatus)
  cases hat : item.authorizationNotAfter with
  | empty => exact absurd hat hsome
  | unreadable => exact completes_bind.2 (completes_ofExcept.2 (hbad hwatched hat _))
  | «at» notAfter =>
    have hskip := hgood (by simp [hat])
    refine completes_bind.2 (completes_ofExcept_ok rfl ?_)
    refine Completes.ite (fun _ => hskip _ _ touchesOnly_refl) fun _ => ?_
    refine completes_collectError (Completes.mono
      (completes_expireClient_any (hunlocked _) (hunlocked _)) ?_)
    intro outcome s' htouches
    cases outcome with
    | error _ => exact hskip _ _ htouches
    | ok _ => exact hskip _ _ htouches

/-- The second loop expires a due grant whose own steps succeed, if the ends that are listed
before it parse. -/
theorem completes_reconcileExpiredClients (hunlocked : ∀ name, s.locks name = none)
    (hreadable : ∀ other ∈ listed s, other.clientID ∈ readable)
    (hmem : record ∈ listed s) (hdue : Due now record) (hsound : record.clientID ∈ sound)
    (hends : ∀ before after, listed s = before ++ record :: after → ∀ other ∈ before,
      Watched other → other.authorizationNotAfter ≠ .unreadable) :
    Completes (hostMachine site) (TickEnv pid readable sound) pid
      (reconcileExpiredClients site.env now) s
      fun _ s' => s'.locks = s.locks ∧ HasExpired record.clientID s' := by
  refine completes_bind.2 (completes_listClients hreadable ?_)
  refine completes_bind.2 (Completes.mono (completes_fold
    (I := fun passed _ s' => Towards record passed s s')
    (E := fun _ s' => s'.locks = s.locks ∧ HasExpired record.clientID s') ?_ ?_) ?_)
  · intro passed item rest errs s' hitems htowards
    have hlock : ∀ name, s'.locks name = none := fun name => by rw [htowards.locks, hunlocked]
    by_cases hitem : item = record
    · subst hitem
      obtain ⟨notAfter, hat, -⟩ := hdue.ended
      obtain ⟨current, hcurrent, hstatus⟩ : ∃ current,
          s'.clients.get item.clientID = some current ∧
            (Due now current ∨ current.status = .expired) := by
        rcases htowards.stands with hsame | ⟨current, hget, hstatus⟩
        · exact ⟨item, hsame, .inl hdue⟩
        · exact ⟨current, hget, .inr hstatus⟩
      rw [if_neg (fun hother => ?_), if_neg (by simp [hat]), hat]
      · refine completes_bind.2 (completes_ofExcept_ok rfl ?_)
        refine Completes.ite (fun hahead => absurd (hdue.ready hat) hahead.2) fun _ => ?_
        refine completes_collectError (Completes.mono (completes_expireClient
          (reliable_tickEnv hsound) (hlock _) (hlock _) (mem_listed.1 hmem).2 hcurrent
          hdue.now_set hstatus) ?_)
        rintro outcome s'' ⟨htouches, hdone⟩
        have hnext : Towards item (passed ++ [item]) s s'' :=
          ⟨htouches.locks.trans htowards.locks, .inr hdone, fun _ => hdone⟩
        cases outcome with
        | error _ => exact hnext
        | ok _ => exact hnext
      · rcases hdue.live with hstatus | hstatus | hstatus
        · exact hother.1 hstatus
        · exact hother.2.1 hstatus
        · exact hother.2.2 hstatus
    · have hother : item ∈ listed s := hitems ▸ List.mem_append_cons_self
      have hid : record.clientID ≠ item.clientID := fun hid =>
        hitem (Directory.eq_of_key_eq (mem_listed.1 hother).1 (mem_listed.1 hmem).1 hid.symm)
      refine completes_expiryStep hlock (fun hwatched hbad err => ?_) fun _ s'' errs htouches =>
        htowards.touch hid htouches
      -- a bad end stands after the record, which has been passed
      refine ⟨htowards.locks, htowards.passed ?_⟩
      by_contra hpassed
      have hrest : record ∈ rest := by
        rw [hitems] at hmem
        rcases List.mem_append.1 hmem with hmem | hmem
        · exact absurd hmem hpassed
        · exact (List.mem_cons.1 hmem).resolve_left fun heq => hitem heq.symm
      obtain ⟨between, after, hsplit⟩ := List.append_of_mem hrest
      refine hends (passed ++ item :: between) after ?_ item (by simp) hwatched hbad
      rw [hitems, hsplit, List.append_assoc, List.cons_append]
  · exact ⟨rfl, .inl (get_of_mem_listed hmem), by simp⟩
  · rintro (err | errs) s' h
    · exact h
    · have hdone : s'.locks = s.locks ∧ HasExpired record.clientID s' := ⟨h.locks, h.passed hmem⟩
      cases errs with
      | nil => exact hdone
      | cons err errs => exact hdone

theorem before_unique {before' after' : List ClientRecord}
    (h : listed s = before ++ record :: after) (h' : listed s = before' ++ record :: after') :
    before = before' := by
  have hnodup : (before ++ record :: after).Nodup := by
    rw [← h]
    exact (List.Nodup.of_map _ s.clients.nodup).filter _
  rw [List.nodup_append, List.nodup_cons] at hnodup
  have hbefore : record ∉ before := fun hmem => hnodup.2.2 record hmem record List.mem_cons_self rfl
  exact ((List.append_cons_inj_of_notMem hbefore hnodup.2.1.1).1 (h.symm.trans h')).1

/-- The second loop does not come to a record that is listed after an end that does not parse. -/
theorem completes_reconcileExpiredClients_bad
    {bad : ClientRecord} (hunlocked : ∀ name, s.locks name = none)
    (hreadable : ∀ other ∈ listed s, other.clientID ∈ readable)
    (hsplit : listed s = before ++ record :: after) (hbefore : bad ∈ before)
    (hwatched : Watched bad) (hbad : bad.authorizationNotAfter = .unreadable) :
    Completes (hostMachine site) (TickEnv pid readable sound) pid
      (reconcileExpiredClients site.env now) s
      fun _ s' => s'.locks = s.locks ∧ s'.clients.get record.clientID = some record := by
  have hmem : record ∈ listed s := hsplit ▸ List.mem_append_cons_self
  refine completes_bind.2 (completes_listClients hreadable ?_)
  refine completes_bind.2 (Completes.mono (completes_fold
    (I := fun passed _ s' => (s'.locks = s.locks ∧ s'.clients.get record.clientID = some record) ∧
      bad ∉ passed)
    (E := fun _ s' => s'.locks = s.locks ∧ s'.clients.get record.clientID = some record)
    ?_ ?_) ?_)
  · rintro passed item rest errs s' hitems ⟨⟨hlocks, hget⟩, hpassed⟩
    have hlock : ∀ name, s'.locks name = none := fun name => by rw [hlocks, hunlocked]
    refine completes_expiryStep hlock (fun _ _ _ => ⟨hlocks, hget⟩) fun hgood s'' errs' htouches => ?_
    have hitem : bad ≠ item := fun heq => hgood (heq ▸ ⟨hwatched, hbad⟩)
    have hid : record.clientID ≠ item.clientID := by
      intro hid
      obtain rfl : item = record := Directory.eq_of_key_eq
        (mem_listed.1 (hitems ▸ List.mem_append_cons_self)).1 (mem_listed.1 hmem).1 hid.symm
      exact hpassed (before_unique hsplit hitems ▸ hbefore)
    refine ⟨⟨htouches.locks.trans hlocks, (htouches.others hid).trans hget⟩, ?_⟩
    simp [hpassed, hitem]
  · exact ⟨⟨rfl, get_of_mem_listed hmem⟩, by simp⟩
  · rintro (err | errs) s' h
    · exact h
    · refine absurd ?_ h.2
      rw [hsplit]
      exact List.mem_append_left _ hbefore

/-! ## The tick -/

theorem listed_split (hnames : s₁.clients.names = s.clients.names)
    (hget : s₁.clients.get record.clientID = some record)
    (hsplit : listed s = before ++ record :: after) :
    ∃ before₁ after₁, listed s₁ = before₁ ++ record :: after₁ ∧
      before₁.map ClientRecord.clientID = before.map ClientRecord.clientID := by
  have hmap : (listed s₁).map ClientRecord.clientID =
      before.map ClientRecord.clientID ++ record.clientID :: after.map ClientRecord.clientID := by
    rw [map_listed, hnames, ← map_listed, hsplit, List.map_append, List.map_cons]
  obtain ⟨before₁, tail₁, hlisted, hbefore, htail⟩ := List.map_eq_append_iff.1 hmap
  obtain ⟨record₁, after₁, rfl, hid, -⟩ := List.map_eq_cons_iff.1 htail
  have hmem₁ : record₁ ∈ listed s₁ := hlisted ▸ List.mem_append_cons_self
  obtain rfl := Directory.file_unique (get_of_mem_listed hmem₁) hget hid
  exact ⟨before₁, after₁, hlisted, hbefore⟩

theorem Kept.listed_readable (h : Kept s s₁) (hreadable : ∀ other ∈ listed s, other.clientID ∈ readable) :
    ∀ other ∈ listed s₁, other.clientID ∈ readable := by
  intro other hother
  have hid : other.clientID ∈ (listed s).map ClientRecord.clientID := by
    rw [map_listed, ← h.names, ← map_listed]
    exact List.mem_map_of_mem hother
  obtain ⟨same, hsame, hid⟩ := List.mem_map.1 hid
  exact hid ▸ hreadable same hsame

theorem completes_reconcileExpiredGrants (hunlocked : ∀ name, s.locks name = none)
    (hmem : record ∈ listed s) (hdue : Due now record) (hsound : record.clientID ∈ sound)
    (hs : Unhindered readable sound s record) :
    Completes (hostMachine site) (TickEnv pid readable sound) pid
      (reconcileExpiredGrants site.env now) s
      fun _ s' => s'.locks = s.locks ∧ HasExpired record.clientID s' := by
  refine completes_bind.2 (Completes.mono (completes_reconcilePendingRevocations hunlocked
    hs.readable hs.revocations) ?_)
  rintro _ s₁ ⟨rfl, hrevoked⟩
  have hget := hrevoked.kept (get_of_mem_listed hmem) hdue.watched.not_revoking
  have hunlocked₁ : ∀ name, s₁.locks name = none := fun name => by rw [hrevoked.locks, hunlocked]
  have hmem₁ : record ∈ listed s₁ :=
    mem_listed.2 ⟨Directory.mem_files_of_get hget, (mem_listed.1 hmem).2⟩
  refine Completes.mono (completes_reconcileExpiredClients hunlocked₁
    (hrevoked.toKept.listed_readable hs.readable) hmem₁ hdue hsound ?_) fun _ _ h =>
      ⟨h.1.trans hrevoked.locks, h.2⟩
  intro before₁ after₁ hsplit₁ other hother hwatched hbad
  obtain ⟨before, after, hsplit, hbefore⟩ :=
    listed_split hrevoked.names.symm (get_of_mem_listed hmem) hsplit₁
  obtain ⟨same, hsame, hid⟩ : ∃ same ∈ before, same.clientID = other.clientID := by
    refine List.mem_map.1 ?_
    rw [hbefore]
    exact List.mem_map_of_mem hother
  have hmem' : same ∈ listed s := hsplit ▸ List.mem_append_left _ hsame
  have hother₁ : other ∈ listed s₁ := hsplit₁ ▸ List.mem_append_left _ hother
  rcases hrevoked.records (get_of_mem_listed hother₁) with hold | hdone
  · obtain rfl := Directory.file_unique (get_of_mem_listed hmem') hold hid
    exact hs.ends before after hsplit same hsame hwatched hbad
  · rcases hwatched.1 with hstatus | hstatus | hstatus <;> rw [hdone] at hstatus <;> cases hstatus

theorem reaches_reconcileExpiredGrants (hunlocked : ∀ name, s.locks name = none)
    (hreadable : ∀ other ∈ listed s, other.clientID ∈ readable) (hmem : record ∈ listed s)
    (hdue : Due now record) (hs : ¬ Unhindered readable sound s record) :
    Reaches (hostMachine site) (TickEnv pid readable sound) pid
      (reconcileExpiredGrants site.env now) s
      fun _ s' => s'.locks = s.locks ∧ s'.clients.get record.clientID = some record := by
  have hget := get_of_mem_listed hmem
  by_cases hrevocations : ∀ other ∈ listed s, other.status = .revocationPending →
      other.clientID ∈ sound
  · -- some end before the record does not parse
    obtain ⟨before, after, hsplit, bad, hbefore, hwatched, hbad⟩ : ∃ before after,
        listed s = before ++ record :: after ∧ ∃ bad ∈ before, Watched bad ∧
          bad.authorizationNotAfter = .unreadable := by
      by_contra hnone
      exact hs ⟨hreadable, hrevocations, fun before after hsplit other hother hwatched hbad =>
        hnone ⟨before, after, hsplit, other, hother, hwatched, hbad⟩⟩
    refine Completes.reaches (completes_bind.2 (Completes.mono
      (completes_reconcilePendingRevocations_any hunlocked hreadable) ?_))
    rintro (err | value) s₁ hkept
    · exact ⟨hkept.locks, hkept.kept hget hdue.watched.not_revoking⟩
    · have hunlocked₁ : ∀ name, s₁.locks name = none := fun name => by
        rw [hkept.locks, hunlocked]
      have hget₁ := hkept.kept hget hdue.watched.not_revoking
      obtain ⟨before₁, after₁, hsplit₁, hnames⟩ := listed_split hkept.names hget₁ hsplit
      obtain ⟨same, hsame, hid⟩ : ∃ same ∈ before₁, same.clientID = bad.clientID := by
        refine List.mem_map.1 ?_
        rw [hnames]
        exact List.mem_map_of_mem hbefore
      have hbadMem : bad ∈ listed s := hsplit ▸ List.mem_append_left _ hbefore
      have hsameMem : same ∈ listed s₁ := hsplit₁ ▸ List.mem_append_left _ hsame
      have hsame' : same = bad := Directory.file_unique (get_of_mem_listed hsameMem)
        (hkept.kept (get_of_mem_listed hbadMem) hwatched.not_revoking) hid
      refine Completes.mono (completes_reconcileExpiredClients_bad hunlocked₁
        (hkept.listed_readable hreadable) hsplit₁ (hsame' ▸ hsame) hwatched hbad) ?_
      exact fun _ s' h => ⟨h.1.trans hkept.locks, h.2⟩
  · -- some pending revocation may fail
    push Not at hrevocations
    obtain ⟨other, hother, hpending, hsound⟩ := hrevocations
    refine reaches_bind.2 (Reaches.mono (reaches_reconcilePendingRevocations_error hunlocked
      hreadable hother hpending hsound) ?_)
    rintro _ s₁ ⟨hkept, err, rfl⟩
    exact ⟨hkept.locks, hkept.kept hget hdue.watched.not_revoking⟩

theorem Due.reconcilesAt {records : List ClientRecord} (hdue : Due now record)
    (hmem : record ∈ records) : ¬ nextGrantReconcileDelay now records > Time.second := by
  have hreconciles : ReconcilesAt now records := by
    refine reconcilesAt_iff.2 ⟨record, hmem, hdue.watched, fun notAfter hat => ?_⟩
    obtain ⟨other, hother, hended, -⟩ := hdue.ended
    rw [hat, Stamp.at.injEq] at hother
    subst hother
    exact sub_le_second hended
  exact Int.not_lt.2 hreconciles

section

variable (hunlocked : ∀ name, s.locks name = none) (hmem : record ∈ listed s)
include hunlocked hmem

/-- A tick expires a due grant whose own steps succeed if no other client stands in the way. -/
theorem completes_reconcileTick (hdue : Due now record) (hsound : record.clientID ∈ sound)
    (hclock : clockDecision s.observed now = .ok advances)
    (hs : Unhindered readable sound s record) :
    Completes (hostMachine site) (TickEnv pid readable sound) pid
      (reconcileTick site.env site.manifest now) s fun _ s' => HasExpired record.clientID s' := by
  refine completes_bind.2 (completes_attempt.2 (completes_observeClock hclock fun s₁ hsame => ?_))
  have hlisted : listed s₁ = listed s := by rw [listed, hsame.clients, listed]
  have hunlocked₁ : ∀ name, s₁.locks name = none := fun name => by rw [hsame.locks, hunlocked]
  have hs₁ : Unhindered readable sound s₁ record :=
    ⟨hlisted ▸ hs.readable, hlisted ▸ hs.revocations, hlisted ▸ hs.ends⟩
  refine completes_bind.2 (completes_attempt.2 (completes_listClients hs₁.readable ?_))
  change Completes _ _ _ (reconcileDue site.env site.manifest now (listed s₁)) s₁ _
  unfold reconcileDue
  rw [if_neg (hdue.reconcilesAt (hlisted ▸ hmem))]
  refine completes_bind.2 (completes_attempt.2 (Completes.mono (completes_reconcileExpiredGrants
    hunlocked₁ (hlisted ▸ hmem) hdue hsound hs₁) ?_))
  rintro outcome s₂ ⟨hlocks, expired, hget, hstatus⟩
  have hkeys : s₂.locks .authorizedKeys = none := by rw [hlocks, hunlocked₁]
  refine completes_bind.2 (completes_attempt.2 (Completes.mono (completes_reconcileManaged hkeys) ?_))
  intro _ s₃ hclients
  exact ⟨expired, hclients ▸ hget, hstatus⟩

theorem reaches_reconcileTick (hdue : Due now record)
    (hclock : clockDecision s.observed now = .ok advances)
    (hs : ¬ Unhindered readable sound s record) :
    Reaches (hostMachine site) (TickEnv pid readable sound) pid
      (reconcileTick site.env site.manifest now) s
      fun _ s' => s'.clients.get record.clientID = some record := by
  have hget := get_of_mem_listed hmem
  refine reaches_bind.2 (reaches_attempt.2 (Completes.reaches
    (completes_observeClock hclock fun s₁ hsame => ?_)))
  have hlisted : listed s₁ = listed s := by rw [listed, hsame.clients, listed]
  have hunlocked₁ : ∀ name, s₁.locks name = none := fun name => by rw [hsame.locks, hunlocked]
  by_cases hreadable : ∀ other ∈ listed s, other.clientID ∈ readable
  · have hs₁ : ¬ Unhindered readable sound s₁ record := fun h =>
      hs ⟨hreadable, hlisted ▸ h.revocations, hlisted ▸ h.ends⟩
    refine reaches_bind.2 (reaches_attempt.2 (Completes.reaches
      (completes_listClients (hlisted ▸ hreadable) ?_)))
    change Reaches _ _ _ (reconcileDue site.env site.manifest now (listed s₁)) s₁ _
    unfold reconcileDue
    rw [if_neg (hdue.reconcilesAt (hlisted ▸ hmem))]
    refine reaches_bind.2 (reaches_attempt.2 (Reaches.mono (reaches_reconcileExpiredGrants
      hunlocked₁ (hlisted ▸ hreadable) (hlisted ▸ hmem) hdue hs₁) ?_))
    rintro outcome s₂ ⟨hlocks, hget₂⟩
    have hkeys : s₂.locks .authorizedKeys = none := by rw [hlocks, hunlocked₁]
    refine reaches_bind.2 (reaches_attempt.2 (Completes.reaches
      (Completes.mono (completes_reconcileManaged hkeys) ?_)))
    intro _ s₃ hclients
    change s₃.clients.get record.clientID = some record
    rw [hclients, hget₂]
  · -- the listing fails, and counts as an empty one
    push Not at hreadable
    obtain ⟨other, hother, hunreadable⟩ := hreadable
    refine reaches_bind.2 (reaches_attempt.2 (Reaches.mono
      (reaches_listClients_error hunlocked₁ (hlisted ▸ hother) hunreadable) ?_))
    rintro _ s₂ ⟨hsame', err, rfl⟩
    have hquiet : nextGrantReconcileDelay now [] > Time.second := by
      have hempty : ¬ ReconcilesAt now [] := fun h => by
        simpa using reconcilesAt_iff.1 h
      exact Int.not_le.1 hempty
    change Reaches _ _ _ (reconcileDue site.env site.manifest now []) s₂ _
    unfold reconcileDue
    rw [if_pos hquiet]
    change s₂.clients.get record.clientID = some record
    rw [hsame', hsame.clients, hget]

theorem completes_reconcileTick_refused {err : Err}
    (hclock : clockDecision s.observed now = .error err) :
    Completes (hostMachine site) (TickEnv pid readable sound) pid
      (reconcileTick site.env site.manifest now) s
      fun _ s' => s'.clients.get record.clientID = some record := by
  refine completes_bind.2 (completes_attempt.2
    (Completes.mono (completes_observeClock_refused hclock) ?_))
  rintro _ s₁ ⟨hsame, err, rfl⟩
  subst hsame
  refine completes_bind.2 (completes_attempt.2
    (Completes.mono (completes_enterBlockedClock (hunlocked _)) ?_))
  intro _ s₂ hclients
  change s₂.clients.get record.clientID = some record
  rw [hclients, get_of_mem_listed hmem]

end

/-- **A tick expires a due grant whatever is wrong with others**, for any stored records, exactly
if the clock accepts its reading and no other record is one of those that keep others alive. -/
theorem expired_by_tick_iff (hunlocked : ∀ name, s.locks name = none) (hmem : record ∈ listed s)
    (hdue : Due now record) (hsound : record.clientID ∈ sound) :
    Completes (hostMachine site) (TickEnv pid readable sound) pid
        (reconcileTick site.env site.manifest now) s (fun _ s' => HasExpired record.clientID s') ↔
      (∃ advances, clockDecision s.observed now = .ok advances) ∧
        Unhindered readable sound s record := by
  constructor
  · intro hcompletes
    cases hclock : clockDecision s.observed now with
    | error err =>
      obtain ⟨_, s', hget, hexpired⟩ :=
        (completes_reconcileTick_refused hunlocked hmem hclock).reaches.exists_end hcompletes
      exact absurd hexpired (hdue.not_hasExpired hget)
    | ok advances =>
      refine ⟨⟨advances, rfl⟩, ?_⟩
      by_contra hhindered
      obtain ⟨_, s', hget, hexpired⟩ :=
        (reaches_reconcileTick hunlocked hmem hdue hclock hhindered).exists_end hcompletes
      exact hdue.not_hasExpired hget hexpired
  · rintro ⟨⟨advances, hclock⟩, hs⟩
    exact completes_reconcileTick hunlocked hmem hdue hsound hclock hs

end

namespace Scenario

/-- The grant of key `A`, which ends before `later`. -/
def ending : ClientRecord :=
  { wantClient env (request 'A') invite published now (.at (now + 7200 * Time.second)) with
    status := .active }

theorem ending_due : Due later ending := by
  refine ⟨.inl rfl, ⟨now + 7200 * Time.second, rfl, by decide, by decide +kernel⟩, ?_⟩
  decide +kernel

/-- The grant of key `A` beside one of key `B`, which has the given status. -/
def beside (status : ClientStatus) : Host :=
  { host with
    clients := (Directory.empty.put ending).put
      { wantClient env (request 'B') invite published now (.at (now + 7200 * Time.second)) with
        status } }

end Scenario

/-- Two grants are due, and the steps of `B` may fail. A tick expires `A`. -/
theorem expired_by_tick_beside_failing :
    Completes (hostMachine Scenario.site)
      (TickEnv 0 [Scenario.clientID 'A', Scenario.clientID 'B'] [Scenario.clientID 'A']) 0
      (reconcileTick Scenario.env Scenario.site.manifest Scenario.later)
      (Scenario.beside .active) (fun _ s' => HasExpired (Scenario.clientID 'A') s') := by
  have hmem : Scenario.ending ∈ listed (Scenario.beside .active) := by decide +kernel
  refine (expired_by_tick_iff (fun _ => rfl) hmem Scenario.ending_due (by decide +kernel)).2
    ⟨⟨true, by decide +kernel⟩, ?_⟩
  have hends : ∀ other ∈ listed (Scenario.beside .active),
      other.authorizationNotAfter ≠ .unreadable := by decide +kernel
  refine ⟨by decide +kernel, by decide +kernel, fun before after hsplit other hother _ => ?_⟩
  exact hends other (hsplit ▸ List.mem_append_left _ hother)

/-- A revocation of `B` was cut off, and its steps may fail. A tick may leave `A` active after the
end of its grant. -/
theorem failing_revocation_keeps_others :
    ¬ Completes (hostMachine Scenario.site)
      (TickEnv 0 [Scenario.clientID 'A', Scenario.clientID 'B'] [Scenario.clientID 'A']) 0
      (reconcileTick Scenario.env Scenario.site.manifest Scenario.later)
      (Scenario.beside .revocationPending)
      (fun _ s' => HasExpired (Scenario.clientID 'A') s') := by
  intro hcompletes
  have hmem : Scenario.ending ∈ listed (Scenario.beside .revocationPending) := by decide +kernel
  have hclock : clockDecision (Scenario.beside .revocationPending).observed Scenario.later =
      .ok true := by decide +kernel
  have hhindered : ¬ Unhindered [Scenario.clientID 'A', Scenario.clientID 'B']
      [Scenario.clientID 'A'] (Scenario.beside .revocationPending) Scenario.ending := by
    intro h
    exact absurd h.revocations (by decide +kernel)
  obtain ⟨_, s', hget, hexpired⟩ := (reaches_reconcileTick (fun _ => rfl) hmem Scenario.ending_due
    hclock hhindered).exists_end hcompletes
  exact Scenario.ending_due.not_hasExpired hget hexpired

end WarpTweet
