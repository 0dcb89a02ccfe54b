import WarpTweet.Analysis.Walks

/-!
# Evidence is about the stored record

A process that works on a client record under its lock collects evidence: it has
removed an authorization, or swapped it for another. Nobody else writes the record
meanwhile, so the evidence is about the record that is stored now. This holds in every
run of the host.
-/

namespace WarpTweet

open Strings Concurrency Storage

/-- What the recent steps of a process say about the stored record of the client: a
removal was made for a grant that is ending, and a swap for one that is rotating or has
just rotated. -/
structure Attests (clientID : Text) (hist : List HostStep) (s : Host) : Prop where
  removed : ∀ {publicKey}, Did (recent clientID hist) (.removeKey publicKey) true →
    ∃ record, s.clients.get clientID = some record ∧
      (record.status = .revocationPending ∨ record.status = .expirationPending ∨
        record.status = .revoked)
  replaced : ∀ {oldPublicKey line}, Did (recent clientID hist) (.replaceKey oldPublicKey line) true →
    ∃ record, s.clients.get clientID = some record ∧
      (record.status = .rotationPending ∧ oldPublicKey = record.publicKey ∧
          line.blob = authorizedKeyBlob record.pendingPublicKey ∨
        record.status = .active ∧ oldPublicKey = record.previousPublicKey ∧
          line.blob = authorizedKeyBlob record.publicKey)

/-- The evidence of every process is about the record it works on. -/
def Attested (c : Pool) : Prop :=
  c.Each fun pid _ hist s => ∀ clientID, Held pid clientID hist s → Attests clientID hist s

variable {hist' : List HostStep}

section

variable {site : Site} {pid pid' : ℕ} {call : Call} {hist : List HostStep} {action : Action}
  {choice : Choice} {reply : action.Reply} {s s' : Host} {clientID : Text}

theorem Attests.of_get (h : Attests clientID hist s)
    (hkeep : ∀ record, s.clients.get clientID = some record →
      s'.clients.get clientID = some record) : Attests clientID hist s' where
  removed hdid := by
    obtain ⟨record, hget, hstatus⟩ := h.removed hdid
    exact ⟨record, hkeep record hget, hstatus⟩
  replaced hdid := by
    obtain ⟨record, hget, hkeys⟩ := h.replaced hdid
    exact ⟨record, hkeep record hget, hkeys⟩

theorem Held.before (h : Held pid clientID (⟨action, choice, reply⟩ :: hist) s')
    (hsettles : action.settles clientID = false) (heffect : Effect pid choice s action s') :
    Held pid clientID hist s := by
  refine ⟨?_, ?_⟩
  · rcases heffect.locks h.locked with hlocked | ⟨-, wait, rfl⟩
    · exact hlocked
    · simp [Action.settles] at hsettles
  · have hcurrent := h.current
    rw [lastClient_cons] at hcurrent
    cases hasks : action.asksFor with
    | none => simpa [hasks] using hcurrent
    | some other =>
      simp only [hasks, Option.some_or, Option.some.injEq] at hcurrent
      subst hcurrent
      cases action <;> simp_all [Action.asksFor, Action.settles]
      split at hasks <;> simp_all

theorem Held.others (h : Held pid' clientID hist s') (heffect : Effect pid choice s action s')
    (hne : pid' ≠ pid) : Held pid' clientID hist s := by
  rcases heffect.locks h.locked with hlocked | ⟨heq, -⟩
  · exact ⟨hlocked, h.current⟩
  · exact absurd heq hne

theorem Held.get_of_guard {record : ClientRecord}
    (h : Held pid' clientID hist' s) (hguard : Guard site pid call hist action choice s)
    (heffect : Effect pid choice s action s') (hne : pid' ≠ pid)
    (hget : s.clients.get clientID = some record) : s'.clients.get clientID = some record := by
  have hid : record.clientID = clientID := Directory.key_of_get hget
  subst hid
  exact ((hguard.relies heffect hne).holds ⟨h.locked, hget⟩).stored

theorem Held.of_releaseLocks (h : Held pid' clientID hist (releaseLocks pid s)) :
    Held pid' clientID hist s := by
  have hlocked := h.locked
  simp only [releaseLocks] at hlocked
  split_ifs at hlocked
  exact ⟨hlocked, h.current⟩

theorem Attests.step (h : Held pid clientID hist s → Attests clientID hist s)
    (hguard : Guard site pid call hist action choice s) (heffect : Effect pid choice s action s')
    (hheld : Held pid clientID (⟨action, choice, reply⟩ :: hist) s') :
    Attests clientID (⟨action, choice, reply⟩ :: hist) s' := by
  cases hsettles : action.settles clientID with
  | true =>
    -- evidence starts afresh at the lock and at each write of the record
    constructor
    · rintro publicKey ⟨_, hmem⟩
      simp [recent, since_cons, hsettles] at hmem
    · rintro oldPublicKey line ⟨_, hmem⟩
      simp [recent, since_cons, hsettles] at hmem
  | false =>
    have hbefore := hheld.before hsettles heffect
    have hkeep : ∀ record, s.clients.get clientID = some record →
        s'.clients.get clientID = some record := fun record hget =>
      heffect.get_clients hget fun written haction => by
        subst haction
        simpa [Action.settles] using hsettles
    have hold := (h hbefore).of_get hkeep
    constructor
    · rintro publicKey ⟨choice', hmem⟩
      simp only [recent, since_cons, hsettles, Bool.false_eq_true, if_false, List.mem_cons] at hmem
      rcases hmem with heq | hmem
      · cases heq
        obtain ⟨record, howns, -, hstatus⟩ := hguard
        have hid : record.clientID = clientID := by
          have := howns.current
          rw [hbefore.current, Option.some.injEq] at this
          exact this.symm
        exact ⟨record, hkeep record (hid ▸ howns.stored), hstatus⟩
      · exact hold.removed ⟨choice', hmem⟩
    · rintro oldPublicKey line ⟨choice', hmem⟩
      simp only [recent, since_cons, hsettles, Bool.false_eq_true, if_false, List.mem_cons] at hmem
      rcases hmem with heq | hmem
      · cases heq
        obtain ⟨request, record, hreplaces⟩ := hguard
        have hid : record.clientID = clientID := by
          have := hreplaces.owns.current
          rw [hbefore.current, Option.some.injEq] at this
          exact this.symm
        obtain ⟨notAfter, hline⟩ := hreplaces.rendered
        refine ⟨record, hkeep record (hid ▸ hreplaces.owns.stored), ?_⟩
        rw [line_of_renderAuthorizedKeyForTarget hline]
        refine hreplaces.keys.imp ?_ ?_
        · rintro ⟨hstatus, hold, hnew⟩
          exact ⟨hstatus, hold, by rw [hnew, authorizedKeyBlob_trimSpace]⟩
        · rintro ⟨hstatus, hold, hnew⟩
          exact ⟨hstatus, hold, by rw [hnew, authorizedKeyBlob_trimSpace]⟩
      · exact hold.replaced ⟨choice', hmem⟩

theorem Attests.others (hne : pid' ≠ pid)
    (h : Held pid' clientID hist' s → Attests clientID hist' s)
    (hguard : Guard site pid call hist action choice s) (heffect : Effect pid choice s action s')
    (hheld : Held pid' clientID hist' s') : Attests clientID hist' s' := by
  have hbefore := hheld.others heffect hne
  exact (h hbefore).of_get fun _ => hbefore.get_of_guard hguard heffect hne

end

theorem attested_of_run {site : Site} {D : Pool → HostMove → Prop} {s : Host} {c : Pool}
    (hrun : Run (hostMachine site) D (Config.idle s) c) : Attested c := by
  refine run_invariant (I := Attested) hrun .idle ?_ ?_ ?_
  · intro c pid call _ h _ _
    exact h.started fun clientID hheld => by simpa [lastClient] using hheld.current
  · intro c pid process action rest choice reply state _ h _ hp _ hguard hperform _
    have heffect := effect_of_perform hperform
    refine h.advanced hp ?_ ?_
    · exact fun hself clientID => Attests.step (hself clientID) hguard heffect
    · exact fun pid' hne _ _ hother clientID => Attests.others hne (hother clientID) hguard heffect
  · intro c pid process _ h _ _
    refine h.stopped fun pid' hne _ hist hother clientID hheld => ?_
    exact (hother clientID hheld.of_releaseLocks).of_get fun _ hget => hget

end WarpTweet
