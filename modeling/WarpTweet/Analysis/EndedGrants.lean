import WarpTweet.Analysis.Evidence
import WarpTweet.Analysis.Scenario

/-!
# The keys of ended grants

When a grant has been revoked or has expired, no key it ever named should log in.
Every authorized line is kept by a client record that has not ended, names its key and
has not had it swept from the file by the process that works on the record. A grant
ends only after its public key has been swept, but two things can go wrong.

* A rotation authorizes the new key before the record names it as current. A rotation
  that is cut off leaves the new key pending, and all ways to end the grant but the
  host's own revocation forget the pending key.
* A retried acceptance installs the key of a record it read before, without the lock
  that the end of the grant is under.

Without these two the keys of an ended grant are gone.
-/

namespace WarpTweet

open Strings Concurrency Storage

/-! ## Keepers -/

/-- The record names the key: as its public key or as its pending one. -/
def Names (record : ClientRecord) (blob : Text) : Prop :=
  blob = authorizedKeyBlob record.publicKey ∨ blob = authorizedKeyBlob record.pendingPublicKey

instance (record : ClientRecord) (blob : Text) : Decidable (Names record blob) :=
  inferInstanceAs (Decidable (_ ∨ _))

/-- The step took every line of the key out of the authorization file. -/
def Sweeps (blob : Text) (step : HostStep) : Prop :=
  ∃ publicKey choice, authorizedKeyBlob publicKey = blob ∧
    (step = ⟨.removeKey publicKey, choice, true⟩ ∨
      ∃ line, line.blob ≠ blob ∧ step = ⟨.replaceKey publicKey line, choice, true⟩)

/-- The process has swept the key since it settled the record of the client. -/
def Swept (clientID blob : Text) (hist : List HostStep) : Prop :=
  ∃ step ∈ recent clientID hist, Sweeps blob step

/-- The record keeps the key authorized: it is stored, has not ended, names the key,
and the process that works on it has not swept the key. -/
structure Keeper (c : Pool) (blob : Text) (record : ClientRecord) : Prop where
  stored : c.state.clients.get record.clientID = some record
  unended : ¬ record.status.Terminal
  names : Names record blob
  unswept : c.Each fun pid _ hist s =>
    Held pid record.clientID hist s → ¬ Swept record.clientID blob hist

variable {site : Site} {pid : ℕ} {call : Call} {hist : List HostStep} {action : Action}
  {choice : Choice} {reply : action.Reply} {s s' : Host} {c : Pool} {record : ClientRecord}
  {process : HostProcess} {prog : HostProg Unit}

section

variable {blob : Text} {written : ClientRecord}

theorem not_mem_of_sweeps (hblob : blob ≠ []) (h : Sweeps blob ⟨action, choice, reply⟩)
    (hperform : performAction site.env pid action choice s = some (reply, s')) :
    ∀ line ∈ s'.authorizedKeys, line.blob ≠ blob := by
  obtain ⟨publicKey, choice', hkey, hstep | ⟨line, hline, hstep⟩⟩ := h
  · cases hstep
    obtain ⟨-, rfl⟩ := editKeys_ok hperform
    intro existing hexisting
    rcases (mem_removeAuthorizedKey hexisting).2 with hempty | hne
    · exact absurd (hkey.symm.trans hempty) hblob
    · rwa [hkey] at hne
  · cases hstep
    obtain ⟨-, rfl⟩ := editKeys_ok hperform
    intro existing hexisting
    rcases mem_replaceAuthorizedKey hexisting with rfl | ⟨-, hempty | hne⟩
    · exact hline
    · exact absurd (hkey.symm.trans hempty) hblob
    · rwa [hkey] at hne

theorem swept_of_removed {publicKey : Text} (h : Removed record publicKey hist) :
    Swept record.clientID (authorizedKeyBlob publicKey) hist := by
  obtain ⟨choice, hmem⟩ := h
  exact ⟨_, hmem, publicKey, choice, rfl, .inl rfl⟩

/-- A transition of a keeper that has not swept the key keeps it, unless it ends the
grant with the key still pending. -/
theorem ClientWrite.names (h : ClientWrite site pid call hist s written)
    (hstored : s.clients.get written.clientID = some record)
    (hsettled : record.status = .enrollmentPending ∨ record.status = .active →
      record.pendingPublicKey = []) (hnames : Names record blob) (hblob : blob ≠ [])
    (hunswept : ¬ Swept written.clientID blob hist) :
    ¬ written.status.Terminal ∧ Names written blob ∨
      written.status.Terminal ∧ blob = authorizedKeyBlob written.pendingPublicKey ∧
        blob ≠ authorizedKeyBlob written.publicKey := by
  have hsame : ∀ {old : ClientRecord}, Owns pid old hist s → old.clientID = written.clientID →
      old = record := by
    intro old howns hid
    rw [← hid, howns.stored, Option.some.injEq] at hstored
    exact hstored
  cases h with
  | activate howns _ _ _ _ _ _ =>
    obtain rfl := hsame howns rfl
    exact .inl ⟨(by decide : ¬ ClientStatus.Terminal .active), hnames⟩
  | beginRotation howns _ hstatus _ =>
    obtain rfl := hsame howns rfl
    refine .inl ⟨(by decide : ¬ ClientStatus.Terminal .rotationPending), .inl ?_⟩
    -- an active record has no pending key that the new one could displace
    rcases hnames with hpublic | hpending
    · exact hpublic
    · rw [hsettled (.inr hstatus)] at hpending
      exact absurd hpending hblob
  | @finishRotation old request line now howns _ _ hpending _ hreplaced hline =>
    obtain rfl := hsame howns rfl
    refine .inl ⟨(by decide : ¬ ClientStatus.Terminal .active), .inl ?_⟩
    by_contra hne
    have hnew : line.blob ≠ blob := by
      rintro rfl
      exact hne (by rw [hline, hpending]; rfl)
    rcases hnames with hpublic | hpending'
    · obtain ⟨choice, hmem⟩ := hreplaced
      exact hunswept ⟨_, hmem, _, choice, hpublic.symm, .inr ⟨line, hnew, rfl⟩⟩
    · exact hnew (hline.trans hpending'.symm)
  | beginRevocation howns _ =>
    obtain rfl := hsame howns rfl
    exact .inl ⟨(by decide : ¬ ClientStatus.Terminal .revocationPending), hnames⟩
  | beginExpiration howns _ =>
    obtain rfl := hsame howns rfl
    exact .inl ⟨(by decide : ¬ ClientStatus.Terminal .expirationPending), hnames⟩
  | @finishRevocation old _ _ howns _ hremoved _ =>
    obtain rfl := hsame howns rfl
    have hne : blob ≠ authorizedKeyBlob old.publicKey := by
      rintro rfl
      exact hunswept (swept_of_removed hremoved)
    exact .inr ⟨.inr rfl, hnames.resolve_left hne, hne⟩
  | @finishExpiration old _ _ howns _ hremoved _ =>
    obtain rfl := hsame howns rfl
    have hne : blob ≠ authorizedKeyBlob old.publicKey := by
      rintro rfl
      exact hunswept (swept_of_removed hremoved)
    exact .inr ⟨.inl rfl, hnames.resolve_left hne, hne⟩
  | finishRevocationAsHost howns _ hremoved hremoved' _ =>
    obtain rfl := hsame howns rfl
    exfalso
    rcases hnames with rfl | rfl
    · exact hunswept (swept_of_removed hremoved)
    · rcases hremoved' with hempty | hremoved'
      · exact hblob (by rw [hempty]; rfl)
      · exact hunswept (swept_of_removed hremoved')

theorem Swept.cons {clientID : Text} (h : Swept clientID blob (⟨action, choice, reply⟩ :: hist)) :
    action.settles clientID = false ∧
      (Sweeps blob ⟨action, choice, reply⟩ ∨ Swept clientID blob hist) := by
  obtain ⟨step, hmem, hsweeps⟩ := h
  rw [recent, since_cons] at hmem
  split_ifs at hmem with hsettles
  · simp at hmem
  · refine ⟨by simpa using hsettles, ?_⟩
    rcases List.mem_cons.1 hmem with rfl | hmem
    · exact .inl hsweeps
    · exact .inr ⟨step, hmem, hsweeps⟩

/-- A write of another client's record, or any other action: the keeper stays, unless
the key is swept. -/
theorem Keeper.advanced_of_keep (h : Keeper c blob record) (hp : c.procs pid = some process)
    (heffect : Effect pid choice c.state action s')
    (hkeep : ∀ written, action = .writeClient written → written.clientID ≠ record.clientID)
    (hsweeps : ¬ Sweeps blob ⟨action, choice, reply⟩) :
    Keeper (c.advanced pid process ⟨action, choice, reply⟩ prog s') blob record := by
  refine ⟨heffect.get_clients h.stored hkeep, h.unended, h.names, h.unswept.advanced hp ?_ ?_⟩
  · intro hself hheld hswept
    obtain ⟨hsettles, hswept⟩ := hswept.cons
    exact hself (hheld.before hsettles heffect) (hswept.resolve_left hsweeps)
  · intro pid' hne _ hist' hother hheld
    exact hother (hheld.others heffect hne)

section

variable (h : Keeper c blob record)
  (hblob : blob ≠ [])
  (hsettled : record.status = .enrollmentPending ∨ record.status = .active → record.pendingPublicKey = [])
  (hp : c.procs pid = some process)
include h hblob hsettled hp

/-- A write of the keeper's own record: the written record is the keeper, unless the
grant ends. -/
theorem Keeper.advanced_of_write {reply : Bool} (hid : written.clientID = record.clientID)
    (hwrite : ClientWrite site pid process.call process.hist c.state written)
    (heffect : Effect pid choice c.state (.writeClient written) s') :
    written.status.Terminal ∧ blob = authorizedKeyBlob written.pendingPublicKey ∧
        blob ≠ authorizedKeyBlob written.publicKey ∨
      ∃ record', record'.clientID = record.clientID ∧
        Keeper (c.advanced pid process ⟨.writeClient written, choice, reply⟩ prog s') blob
          record' := by
  obtain ⟨old, howns, hold, -, -⟩ := hwrite.previous
  have hheld : Held pid record.clientID process.hist c.state := by
    rw [← hid, hold]
    exact ⟨howns.locked, howns.current⟩
  have hunswept := h.unswept pid process hp hheld
  have hunswept' : (c.advanced pid process ⟨.writeClient written, choice, reply⟩ prog s').Each
      fun pid _ hist s => Held pid record.clientID hist s → ¬ Swept record.clientID blob hist := by
    refine h.unswept.advanced hp ?_ ?_
    · intro _ _ hswept
      simpa [Action.settles, hid] using hswept.cons.1
    · intro pid' hne _ hist' hother hheld'
      exact hother (hheld'.others heffect hne)
  rcases hwrite.names (hid ▸ h.stored) hsettled h.names hblob (hid ▸ hunswept) with
    ⟨hunended, hnames⟩ | hends
  · right
    rcases heffect.clients with hsame | ⟨_, hstore, -, -⟩ | ⟨written', hwritten, -, hput⟩
    · exact ⟨record, rfl, by simpa [Config.advanced, hsame] using h.stored, h.unended, h.names,
        hunswept'⟩
    · cases hstore
    · cases hwritten
      refine ⟨written, hid, ?_, hunended, hnames, hid ▸ hunswept'⟩
      simp only [Config.advanced, hput]
      exact Directory.get_put_self
  · exact .inl hends

/-- What one guarded action does to a keeper: the key is gone from the file, the grant
ends with the key still pending, or the client still has a keeper. -/
theorem Keeper.advanced (hguard : Guard site pid process.call process.hist action choice c.state)
    (hperform : performAction site.env pid action choice c.state = some (reply, s')) :
    (∀ line ∈ s'.authorizedKeys, line.blob ≠ blob) ∨
    (∃ written, action = .writeClient written ∧ written.clientID = record.clientID ∧
      written.status.Terminal ∧ blob = authorizedKeyBlob written.pendingPublicKey ∧
      blob ≠ authorizedKeyBlob written.publicKey) ∨
    ∃ record', record'.clientID = record.clientID ∧
      Keeper (c.advanced pid process ⟨action, choice, reply⟩ prog s') blob record' := by
  have heffect := effect_of_perform hperform
  by_cases hsweeps : Sweeps blob ⟨action, choice, reply⟩
  · exact .inl (not_mem_of_sweeps hblob hsweeps hperform)
  by_cases hkeep : ∀ written, action = .writeClient written → written.clientID ≠ record.clientID
  · exact .inr (.inr ⟨record, rfl, h.advanced_of_keep hp heffect hkeep hsweeps⟩)
  · simp only [not_forall, not_not] at hkeep
    obtain ⟨written, rfl, hid⟩ := hkeep
    rcases h.advanced_of_write hblob hsettled hp hid hguard heffect with hends | hkeeper
    · exact .inr (.inl ⟨written, rfl, hid, hends⟩)
    · exact .inr (.inr hkeeper)

end

/-- What has just been authorized for a record that is still enrolling, active or
rotating has that record as its keeper. -/
theorem Keeper.of_attested (hattested : Attested c)
    (hstored : c.state.clients.get record.clientID = some record)
    (hkey : (record.status = .enrollmentPending ∨ record.status = .active) ∧
        blob = authorizedKeyBlob record.publicKey ∨
      record.status = .rotationPending ∧ blob = authorizedKeyBlob record.pendingPublicKey) :
    Keeper c blob record := by
  refine ⟨hstored, ?_, ?_, ?_⟩
  · rintro (h | h) <;> simp [h] at hkey
  · exact hkey.imp And.right And.right
  · rintro pid process hp hheld ⟨step, hmem, publicKey, choice, hblob, hstep | ⟨line, hne, hstep⟩⟩
    · subst hstep
      obtain ⟨record', hget, hstatus⟩ := (hattested pid process hp _ hheld).removed ⟨choice, hmem⟩
      rw [hstored, Option.some.injEq] at hget
      subst hget
      rcases hstatus with h | h | h <;> simp [h] at hkey
    · subst hstep
      obtain ⟨record', hget, hkeys⟩ := (hattested pid process hp _ hheld).replaced ⟨choice, hmem⟩
      rw [hstored, Option.some.injEq] at hget
      subst hget
      rcases hkeys with ⟨hstatus, -, hline⟩ | ⟨hstatus, -, hline⟩
      · simp only [hstatus, reduceCtorEq, or_self, false_and, true_and, false_or] at hkey
        exact hne (hline.trans hkey.symm)
      · simp only [hstatus, reduceCtorEq, or_true, true_and, false_and, or_false] at hkey
        exact hne (hline.trans hkey.symm)

theorem Keeper.started (h : Keeper c blob record) :
    Keeper (c.started (hostMachine site) pid call) blob record :=
  ⟨h.stored, h.unended, h.names,
    h.unswept.started fun hheld => by simpa [lastClient] using hheld.current⟩

theorem Keeper.stopped (h : Keeper c blob record) :
    Keeper (c.stopped (hostMachine site) pid) blob record := by
  refine ⟨h.stored, h.unended, h.names, h.unswept.stopped fun pid' _ _ hist hother hheld => ?_⟩
  exact hother hheld.of_releaseLocks

end

/-! ## Every line has a keeper -/

/-- A client that is enrolling or active has no pending key. -/
def Settled (s : Host) : Prop :=
  ∀ record ∈ s.clients.files, record.status = .enrollmentPending ∨ record.status = .active →
    record.pendingPublicKey = []

instance (s : Host) : Decidable (Settled s) := by
  unfold Settled
  infer_instance

/-- A state in which every authorized line belongs to a grant that has not ended. -/
structure Accountable (s : Host) : Prop where
  settled : Settled s
  kept : ∀ line ∈ s.authorizedKeys, line.blob ≠ [] ∧
    ∃ record ∈ s.clients.files, ¬ record.status.Terminal ∧ Names record line.blob

/-- The calls on the grants of clients: enrollment, rotation, revocation and expiry. -/
def Call.lifecycle : Call → Bool
  | .accept _ | .enroll _ _ | .rotate _ _ | .manageRotate _ _ | .revokeClient _ _ _
  | .manageRevoke _ _ | .revokeClientAsHost _ _ | .serverRevoke _ _ | .expireClient _ _
  | .reconcilePendingRevocations _ | .reconcileExpiredClients _ | .reconcileExpiredGrants _ => true
  | _ => false

theorem rebuilds_of_lifecycle {call : Call} (h : call.lifecycle = true) : call.rebuilds = false := by
  cases call <;> simp_all [Call.lifecycle, Call.rebuilds]

/-- The action appends a line to the authorization file. -/
def Action.appends : Action → Bool
  | .appendKey _ => true
  | _ => false

/-- If the action ends a grant, the key still pending on it is not authorized. -/
def ClearsPending (s : Host) (action : Action) : Prop :=
  ∀ written ∈ action.writtenClient, written.status.Terminal →
    ∀ line ∈ s.authorizedKeys, line.blob ≠ authorizedKeyBlob written.pendingPublicKey

/-- If the action appends the line of an accepted key, the client is still enrolling or
active with this key. -/
def InstallsCurrent (env : Env) (s : Host) (call : Call) (action : Action) : Prop :=
  action.appends = true → ∀ request ∈ call.enrollment,
    ∃ record ∈ s.clients.get (clientIDFor env request.inviteID (trimSpace request.publicKey)),
      (record.status = .enrollmentPending ∨ record.status = .active) ∧
        record.publicKey = trimSpace request.publicKey

instance (s : Host) (action : Action) : Decidable (ClearsPending s action) := by
  unfold ClearsPending
  infer_instance

instance (env : Env) (s : Host) (call : Call) (action : Action) :
    Decidable (InstallsCurrent env s call action) := by
  unfold InstallsCurrent
  infer_instance

section

variable {line : AuthorizedLine}

theorem Settled.step (h : Settled s) (hguard : Guard site pid call hist action choice s)
    (heffect : Effect pid choice s action s') : Settled s' := by
  rcases heffect.clients with hsame | ⟨stored, rfl, -, hput⟩ | ⟨written, rfl, -, hput⟩
  · unfold Settled
    rwa [hsame]
  · intro record hrecord hstatus
    rw [hput] at hrecord
    rcases mem_insertFile hrecord with rfl | hold
    · obtain ⟨_, _, _, _, _, -, -, -, rfl⟩ := (hguard : StoresClient site pid call s record).wanted
      rfl
    · exact h record hold hstatus
  · intro record hrecord hstatus
    rw [hput] at hrecord
    rcases mem_insertFile hrecord with rfl | hold
    · cases (hguard : ClientWrite site pid call hist s record) with
      | @activate old _ _ howns henrolls _ _ _ _ _ =>
        exact h old (Directory.mem_files_of_get howns.stored) (.inl henrolls.pending)
      | finishRotation => rfl
      | _ => simp [beginRotation, beginRevocation, beginExpiration, finishRevocation,
          finishExpiration] at hstatus
    · exact h record hold hstatus

/-- The line of an accepted key, and of a rotation, belongs to a record that is stored
when it is written and is not about to end. -/
theorem keeper_of_new_line (hcurrent : InstallsCurrent site.env c.state process.call action)
    (hguard : Guard site pid process.call process.hist action choice c.state)
    (heffect : Effect pid choice c.state action s')
    (hattested : Attested (c.advanced pid process ⟨action, choice, reply⟩ prog s'))
    (hrebuilds : process.call.rebuilds = false) (hline : line ∈ s'.authorizedKeys) :
    line ∈ c.state.authorizedKeys ∨ line.blob ≠ [] ∧
      ∃ record, Keeper (c.advanced pid process ⟨action, choice, reply⟩ prog s') line.blob record ∧
        (process.call.rotation.isSome = true ∨ ∃ request ∈ process.call.enrollment,
          record.clientID = clientIDFor site.env request.inviteID (trimSpace request.publicKey)) := by
  rcases heffect.authorizedKeys hline with hold | rfl | ⟨oldPublicKey, rfl⟩ | ⟨lines, rfl, -⟩
  · exact .inl hold
  · right
    obtain ⟨request, notAfter, hinstalls, hrender⟩ := hguard
    obtain ⟨hblob, rfl⟩ := renderAuthorizedKeyForTarget_eq_ok hrender
    obtain ⟨record, hget, hstatus, hkey⟩ := hcurrent rfl request hinstalls.enrollment
    have hget' := heffect.get_clients hget (by simp)
    have hid := Directory.key_of_get hget
    exact ⟨hblob, record, .of_attested hattested (hid ▸ hget') (.inl ⟨hstatus, by rw [hkey]⟩),
      .inr ⟨request, hinstalls.enrollment, hid⟩⟩
  · right
    obtain ⟨request, record, hreplaces⟩ := hguard
    obtain ⟨notAfter, hrender⟩ := hreplaces.rendered
    obtain ⟨hblob, rfl⟩ := renderAuthorizedKeyForTarget_eq_ok hrender
    have hget := heffect.get_clients hreplaces.owns.stored (by simp)
    refine ⟨hblob, record, .of_attested hattested hget ?_, .inl (by simp [hreplaces.rotation])⟩
    rcases hreplaces.keys with ⟨hstatus, -, hkey⟩ | ⟨hstatus, -, hkey⟩
    · exact .inr ⟨hstatus, by rw [hkey, authorizedKeyBlob_trimSpace]⟩
    · exact .inl ⟨.inr hstatus, by rw [hkey, authorizedKeyBlob_trimSpace]⟩
  · have hrebuilds' : process.call.rebuilds = true := hguard.1
    simp [hrebuilds] at hrebuilds'

/-- What a run keeps: every line of the file has a keeper. -/
structure Accounted (c : Pool) : Prop where
  settled : Settled c.state
  kept : ∀ line ∈ c.state.authorizedKeys, line.blob ≠ [] ∧ ∃ record, Keeper c line.blob record

theorem Accounted.idle (h : Accountable s) : Accounted (Config.idle s) := by
  refine ⟨h.settled, fun line hline => ?_⟩
  obtain ⟨hblob, record, hrecord, hunended, hnames⟩ := h.kept line hline
  exact ⟨hblob, record, Directory.get_of_mem_files hrecord, hunended, hnames, .idle⟩

/-- One guarded action that ends no grant with an authorized pending key, and installs
no key that is not current, leaves every line with a keeper. -/
theorem Accounted.advanced (h : Accounted c) (hp : c.procs pid = some process)
    (hclears : ClearsPending c.state action)
    (hcurrent : InstallsCurrent site.env c.state process.call action)
    (hguard : Guard site pid process.call process.hist action choice c.state)
    (hperform : performAction site.env pid action choice c.state = some (reply, s'))
    (hrebuilds : process.call.rebuilds = false)
    (hattested : Attested (c.advanced pid process ⟨action, choice, reply⟩ prog s')) :
    Accounted (c.advanced pid process ⟨action, choice, reply⟩ prog s') := by
  have heffect := effect_of_perform hperform
  refine ⟨h.settled.step hguard heffect, fun line hline => ?_⟩
  rcases keeper_of_new_line hcurrent hguard heffect hattested hrebuilds hline with
    hold | ⟨hblob, record, hkeeper, -⟩
  · obtain ⟨hblob, record, hkeeper⟩ := h.kept line hold
    refine ⟨hblob, ?_⟩
    have hsettled := h.settled record (Directory.mem_files_of_get hkeeper.stored)
    rcases hkeeper.advanced hblob hsettled hp hguard hperform with
      hgone | ⟨written, rfl, -, hends, hpending, -⟩ | ⟨record', -, hkeeper'⟩
    · exact absurd rfl (hgone line hline)
    · exact absurd hpending (hclears written rfl hends line hold)
    · exact ⟨record', hkeeper'⟩
  · exact ⟨hblob, record, hkeeper⟩

end

/-! ## Ended grants keep no key -/

/-- No line authorizes a key that a client whose grant has ended had in the earlier pool,
unless another grant that has not ended names the key. -/
def EndedKeepsNoKey (earlier c : Pool) : Prop :=
  ∀ record ∈ c.state.clients.files, record.status.Terminal →
    ∀ before ∈ earlier.state.clients.files, before.clientID = record.clientID →
      ∀ publicKey ∈ before.keys, ∀ line ∈ c.state.authorizedKeys,
        line.blob = authorizedKeyBlob publicKey →
          ∃ other ∈ c.state.clients.files, other.clientID ≠ record.clientID ∧
            ¬ other.status.Terminal ∧ Names other line.blob

instance (earlier c : Pool) : Decidable (EndedKeepsNoKey earlier c) := by
  unfold EndedKeepsNoKey
  infer_instance

/-- Calls on the grants of clients, of which none ends a grant whose pending key is
authorized, and none installs an accepted key that is no longer current. -/
abbrev CleanEnds (env : Env) : Pool → HostMove → Prop := fun c move =>
  Starts (fun call => call.lifecycle = true) c move ∧
    OnAction (fun c process action _ =>
      ClearsPending c.state action ∧ InstallsCurrent env c.state process.call action) c move

section

variable {earlier : Pool}

theorem accounted_of_run (hs : Accountable s)
    (hrun : Run (hostMachine site) (CleanEnds site.env) (Config.idle s) c) : Accounted c := by
  refine run_invariant (I := Accounted) hrun (.idle hs) ?_ ?_ ?_
  · intro c pid call _ h _ _
    refine ⟨h.settled, fun line hline => ?_⟩
    obtain ⟨hblob, record, hkeeper⟩ := h.kept line hline
    exact ⟨hblob, record, hkeeper.started⟩
  · intro c pid process action rest choice reply state hrun h hD hp hprog hguard hperform hrun'
    obtain ⟨hclears, hcurrent⟩ := hD.2.condition hp hprog
    have hcalls := hrun.calls fun _ _ hD => hD.1
    exact h.advanced hp hclears hcurrent hguard hperform
      (rebuilds_of_lifecycle (hcalls pid process hp)) (attested_of_run hrun')
  · intro c pid process _ h _ _
    refine ⟨h.settled, fun line hline => ?_⟩
    obtain ⟨hblob, record, hkeeper⟩ := h.kept line hline
    exact ⟨hblob, record, hkeeper.stopped⟩

/-- In every run of clean ends, an ended grant keeps none of the keys it ever had. -/
theorem endedKeepsNoKey_of_cleanEnds (hs : Accountable s)
    (hearlier : Run (hostMachine site) (CleanEnds site.env) (Config.idle s) earlier)
    (hlater : Run (hostMachine site) (CleanEnds site.env) earlier c) :
    EndedKeepsNoKey earlier c := by
  intro record hrecord hended _ _ _ _ _ line hline _
  obtain ⟨-, other, hkeeper⟩ := (accounted_of_run hs (hearlier.trans hlater)).kept line hline
  refine ⟨other, Directory.mem_files_of_get hkeeper.stored, ?_, hkeeper.unended, hkeeper.names⟩
  intro hid
  have hstored := hkeeper.stored
  rw [hid, Directory.get_of_mem_files hrecord, Option.some.injEq] at hstored
  exact hkeeper.unended (hstored ▸ hended)

end

/-- A client is enrolled, rotates its key and is revoked by the host. Neither its key nor
its previous one is left. -/
theorem endedKeepsNoKey_of_host_revocation :
    Accountable Scenario.host ∧
    ∃ c, Run (hostMachine Scenario.site) (CleanEnds Scenario.env) (Config.idle Scenario.host) c ∧
      (∃ record ∈ c.state.clients.files, record.status = .revoked ∧
        record.publicKey = Scenario.key 'B' ∧ record.previousPublicKey = Scenario.key 'A') ∧
      EndedKeepsNoKey c c := by
  have hs : Accountable Scenario.host := ⟨by decide, by decide⟩
  refine ⟨hs, Run.exists_imp_of_runMoves
    (Scenario.accepting 'A' ++
      [.start 0 (.rotate (Scenario.management 'A' 'B') Scenario.now)] ++ Scenario.steps 0 7 ++
      [.start 1 (.revokeClientAsHost (Scenario.clientID 'A') Scenario.now)] ++ Scenario.steps 1 9)
    (fun c => ∃ record ∈ c.state.clients.files, record.status = .revoked ∧
        record.publicKey = Scenario.key 'B' ∧ record.previousPublicKey = Scenario.key 'A')
    (by decide +kernel) ?_⟩
  exact fun c hrun hrevoked => ⟨hrevoked, endedKeepsNoKey_of_cleanEnds hs hrun .refl⟩

/-- A rotation is cut off after it has authorized the new key, and the client then
expires. The new key, which the expired record still names as pending, stays
authorized. -/
theorem pending_key_outlives_grant :
    ∃ c, Run (hostMachine Scenario.site) (Starts fun call => call.lifecycle = true)
        (Config.idle Scenario.host) c ∧
      (∃ record ∈ c.state.clients.files, record.status = .expired ∧
        record.pendingPublicKey = Scenario.key 'B' ∧
        ∃ line ∈ c.state.authorizedKeys, line.blob = authorizedKeyBlob (Scenario.key 'B')) ∧
      ¬ EndedKeepsNoKey c c := by
  exact Run.exists_of_runMoves
    (Scenario.accepting 'A' ++
      [.start 0 (.rotate (Scenario.management 'A' 'B') Scenario.now)] ++ Scenario.steps 0 5 ++
      [.stop 0, .start 1 (.expireClient (Scenario.clientID 'A') Scenario.later)] ++
      Scenario.steps 1 10) (by decide +kernel)

end WarpTweet
