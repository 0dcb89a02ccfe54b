import WarpTweet.Analysis.EndedGrants

/-!
# Retried enrollments and ended grants

A retry of an enrollment on a consumed invite reads the client record and then installs
its key, without the client lock that a revocation or an expiry holds. If the grant ends
between the two, the key of an ended grant is authorized again.

If the record is still active when the line is appended, the key of an ended grant is
never authorized.
-/

namespace WarpTweet

open Strings Concurrency Storage

/-- The calls on one client: the retry of its enrollment, its revocation by token or by
the host, and its expiry. -/
def Call.concerns (env : Env) (clientID : Text) : Call → Bool
  | .accept input =>
    clientIDFor env input.request.inviteID (trimSpace input.request.publicKey) = clientID
  | .enroll request _ =>
    clientIDFor env request.inviteID (trimSpace request.publicKey) = clientID
  | .revokeClient request _ _ | .manageRevoke request _ => request.clientID = clientID
  | .revokeClientAsHost other _ | .expireClient other _ => other = clientID
  | _ => false

/-- If the grant of the client has ended, no line authorizes its key. -/
def EndedUnauthorized (clientID : Text) (s : Host) : Prop :=
  ∀ record ∈ s.clients.get clientID, record.status.Terminal →
    ∀ line ∈ s.authorizedKeys, line.blob ≠ authorizedKeyBlob record.publicKey

instance (clientID : Text) (s : Host) : Decidable (EndedUnauthorized clientID s) := by
  unfold EndedUnauthorized
  infer_instance

/-- Calls on one client, of which none installs the key of a grant that has ended. -/
abbrev CurrentRetries (env : Env) (clientID : Text) : Pool → HostMove → Prop := fun c move =>
  Starts (fun call => call.concerns env clientID = true) c move ∧
    OnAction (fun c process action _ => InstallsCurrent env c.state process.call action) c move

/-- The host with a client whose key can be told apart in the authorization file. -/
structure Enrolled (s : Host) (record : ClientRecord) : Prop where
  settled : Settled s
  stored : s.clients.get record.clientID = some record
  parsable : authorizedKeyBlob record.publicKey ≠ []
  quiet : EndedUnauthorized record.clientID s

/-- What a run of calls on one client keeps: its key, and a keeper for each line of it. -/
structure KeyKept (clientID publicKey : Text) (c : Pool) : Prop where
  settled : Settled c.state
  stored : ∃ record, c.state.clients.get clientID = some record ∧ record.publicKey = publicKey
  kept : ∀ line ∈ c.state.authorizedKeys, line.blob = authorizedKeyBlob publicKey →
    ∃ record, record.clientID = clientID ∧ Keeper c line.blob record

section

variable {site : Site} {pid : ℕ} {call : Call} {hist : List HostStep} {action : Action}
  {choice : Choice} {reply : action.Reply} {s s' : Host} {c : Pool} {record : ClientRecord}
  {process : HostProcess} {prog : HostProg Unit} {clientID publicKey : Text}

theorem rotation_of_concerns {env : Env} (h : call.concerns env clientID = true) :
    call.rotation = none ∧ call.rebuilds = false := by
  cases call <;> simp_all [Call.concerns, Call.rotation, Call.rebuilds]

theorem clientID_of_concerns {env : Env} (h : call.concerns env clientID = true)
    {request : EnrollmentRequest} (hrequest : request ∈ call.enrollment) :
    clientIDFor env request.inviteID (trimSpace request.publicKey) = clientID := by
  cases call <;> simp_all [Call.concerns, Call.enrollment]

/-- One guarded action that installs no key of an ended grant keeps the lines of the key
with their keeper. -/
theorem KeyKept.advanced (h : KeyKept clientID publicKey c)
    (hblob : authorizedKeyBlob publicKey ≠ []) (hp : c.procs pid = some process)
    (hconcerns : process.call.concerns site.env clientID = true)
    (hcurrent : InstallsCurrent site.env c.state process.call action)
    (hguard : Guard site pid process.call process.hist action choice c.state)
    (hperform : performAction site.env pid action choice c.state = some (reply, s'))
    (hattested : Attested (c.advanced pid process ⟨action, choice, reply⟩ prog s')) :
    KeyKept clientID publicKey (c.advanced pid process ⟨action, choice, reply⟩ prog s') := by
  have heffect := effect_of_perform hperform
  obtain ⟨hrotation, hrebuilds⟩ := rotation_of_concerns hconcerns
  have hstored := stored_of_guard h.stored hrotation hguard heffect
  refine ⟨h.settled.step hguard heffect, hstored, fun line hline hkey => ?_⟩
  rcases keeper_of_new_line hcurrent hguard heffect hattested hrebuilds hline with
    hold | ⟨-, record, hkeeper, hrequest⟩
  · obtain ⟨record, hid, hkeeper⟩ := h.kept line hold hkey
    have hsettled := h.settled record (Directory.mem_files_of_get hkeeper.stored)
    rcases hkeeper.advanced (hkey ▸ hblob) hsettled hp hguard hperform with
      hgone | ⟨written, rfl, hwritten, -, -, hne⟩ | ⟨record', hid', hkeeper'⟩
    · exact absurd rfl (hgone line hline)
    · -- the end of the grant was written after its key had been swept
      obtain ⟨old, hold, hpublic⟩ := ClientWrite.publicKey_eq hguard hrotation
      obtain ⟨current, hcurrent, rfl⟩ := h.stored
      rw [hwritten, hid, hcurrent, Option.some.injEq] at hold
      exact absurd (by rw [hkey, hpublic, hold]) hne
    · exact ⟨record', hid'.trans hid, hkeeper'⟩
  · rcases hrequest with hrequest | ⟨request, hrequest, hid⟩
    · simp [hrotation] at hrequest
    · exact ⟨record, hid.trans (clientID_of_concerns hconcerns hrequest), hkeeper⟩

/-- In every run of a retried enrollment with revocations and expiries of the client, in
which no key of an ended grant is installed, the key of the client is not authorized once
its grant has ended. -/
theorem endedUnauthorized_of_currentRetries (hs : Enrolled s record)
    (hrun : Run (hostMachine site) (CurrentRetries site.env record.clientID) (Config.idle s) c) :
    EndedUnauthorized record.clientID c.state := by
  have hkept : KeyKept record.clientID record.publicKey c := by
    refine run_invariant (I := KeyKept record.clientID record.publicKey) hrun ?_ ?_ ?_ ?_
    · refine ⟨hs.settled, ⟨record, hs.stored, rfl⟩, fun line hline hkey => ?_⟩
      exact ⟨record, rfl, hs.stored, fun hended => hs.quiet record hs.stored hended line hline hkey,
        .inl hkey, .idle⟩
    · intro c pid call _ h _ _
      refine ⟨h.settled, h.stored, fun line hline hkey => ?_⟩
      obtain ⟨record, hid, hkeeper⟩ := h.kept line hline hkey
      exact ⟨record, hid, hkeeper.started⟩
    · intro c pid process action rest choice reply state hrun h hD hp hprog hguard hperform hrun'
      exact h.advanced hs.parsable hp (hrun.calls (fun _ _ hD => hD.1) pid process hp)
        (hD.2.condition hp hprog) hguard hperform (attested_of_run hrun')
    · intro c pid process _ h _ _
      refine ⟨h.settled, h.stored, fun line hline hkey => ?_⟩
      obtain ⟨record, hid, hkeeper⟩ := h.kept line hline hkey
      exact ⟨record, hid, hkeeper.stopped⟩
  intro ended hget hended line hline hkey
  obtain ⟨current, hcurrent, hpublic⟩ := hkept.stored
  obtain rfl : ended = current := Option.some.inj (hget.symm.trans hcurrent)
  obtain ⟨keeper, hid, hkeeper⟩ := hkept.kept line hline (by rw [hkey, hpublic])
  have hstored := hkeeper.stored
  rw [hid, hcurrent, Option.some.injEq] at hstored
  exact hkeeper.unended (hstored ▸ hended)

end

/-- A host with an accepted client, on which a retry of the enrollment and a host
revocation run one after the other. -/
theorem endedUnauthorized_after_retry :
    (∃ record, Enrolled (Scenario.after (Scenario.accepting 'A')) record ∧
      record.clientID = Scenario.clientID 'A') ∧
    ∃ c, Run (hostMachine Scenario.site) (CurrentRetries Scenario.env (Scenario.clientID 'A'))
        (Config.idle (Scenario.after (Scenario.accepting 'A'))) c ∧
      c.HasSucceeded 0 ∧ c.HasSucceeded 1 ∧
      (c.state.clients.get (Scenario.clientID 'A')).map ClientRecord.status = some .revoked ∧
      EndedUnauthorized (Scenario.clientID 'A') c.state := by
  have hs : ∃ record, Enrolled (Scenario.after (Scenario.accepting 'A')) record ∧
      record.clientID = Scenario.clientID 'A' := by
    have hstored : ∃ record ∈ (Scenario.after (Scenario.accepting 'A')).clients.get
        (Scenario.clientID 'A'), record.publicKey = Scenario.key 'A' := by
      decide +kernel
    obtain ⟨record, hget, hkey⟩ := hstored
    have hid := Directory.key_of_get hget
    refine ⟨record, ⟨by decide +kernel, hid ▸ hget, ?_, ?_⟩, hid⟩
    · rw [hkey]
      decide
    · rw [hid]
      decide +kernel
  refine ⟨hs, Run.exists_imp_of_runMoves
    ([.start 0 (Scenario.accept 'A')] ++ Scenario.steps 0 6 ++
      [.start 1 (.revokeClientAsHost (Scenario.clientID 'A') Scenario.now)] ++ Scenario.steps 1 9)
    (fun c => c.HasSucceeded 0 ∧ c.HasSucceeded 1 ∧
      (c.state.clients.get (Scenario.clientID 'A')).map ClientRecord.status = some .revoked)
    (by decide +kernel) ?_⟩
  rintro c hrun ⟨hretry, hrevoke, hstatus⟩
  obtain ⟨record, henrolled, hid⟩ := hs
  rw [← hid] at hrun
  exact ⟨hretry, hrevoke, hstatus, hid ▸ endedUnauthorized_of_currentRetries henrolled hrun⟩

/-- A retry has read the active record when a host revocation runs from beginning to
end; then the retry appends the line. Both have succeeded, and the key of the revoked
client is authorized. -/
theorem retry_authorizes_revoked :
    ∃ c, Run (hostMachine Scenario.site)
        (Starts fun call => call.concerns Scenario.env (Scenario.clientID 'A') = true)
        (Config.idle (Scenario.after (Scenario.accepting 'A'))) c ∧
      ((Scenario.after (Scenario.accepting 'A')).invites.get Scenario.inviteID).map Record.status =
        some .consumed ∧
      c.HasSucceeded 0 ∧ c.HasSucceeded 1 ∧
      (c.state.clients.get (Scenario.clientID 'A')).map ClientRecord.status = some .revoked ∧
      ¬ EndedUnauthorized (Scenario.clientID 'A') c.state := by
  exact Run.exists_of_runMoves
    ([.start 0 (Scenario.accept 'A')] ++ Scenario.steps 0 4 ++
      [.start 1 (.revokeClientAsHost (Scenario.clientID 'A') Scenario.now)] ++ Scenario.steps 1 9 ++
      Scenario.steps 0 2) (by decide +kernel)

end WarpTweet
