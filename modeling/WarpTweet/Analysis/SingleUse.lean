import WarpTweet.Analysis.Scenario
import WarpTweet.Analysis.Walks

/-!
# One invite, one client

An invite is meant to be used once. It is marked consumed only at the end of an
acceptance, after the client record and the authorization are durable, and the id of
the client is derived from the invite and the key. So an acceptance that is cut off
leaves an issued invite behind, with which a second key enrolls as a second client.

With the check that the code does not make, that no other client carries the invite
when a record is stored for it, an invite has at most one client in every run.
-/

namespace WarpTweet

open Strings Concurrency Storage

/-- The client that an event grants something on the invite: its record becomes
active, or its key is passed to the installer of authorizations. -/
def grantee (env : Env) (inviteID : Text) (event : HostEvent) : Option Text :=
  match event.action with
  | .writeClient record =>
    if event.choice.outcome.applies ∧ record.status = .active ∧ record.inviteID = inviteID then
      some record.clientID
    else none
  | .install publicKey _ =>
    match event.call.enrollment with
    | some request =>
      if request.inviteID = inviteID then some (clientIDFor env inviteID publicKey) else none
    | none => none
  | _ => none

/-- The clients the invite has been used for in a run. -/
def grantees (env : Env) (inviteID : Text) (c : Pool) : List Text :=
  c.log.filterMap (grantee env inviteID)

/-- The invite has been used for at most one client. -/
def SingleUse (env : Env) (inviteID : Text) (c : Pool) : Prop :=
  ∀ first ∈ grantees env inviteID c, ∀ second ∈ grantees env inviteID c, first = second

instance (env : Env) (inviteID : Text) (c : Pool) : Decidable (SingleUse env inviteID c) := by
  unfold SingleUse
  infer_instance

/-- The call is an acceptance on the invite. -/
def AcceptsOn (inviteID : Text) (call : Call) : Prop :=
  call.enrollment.map EnrollmentRequest.inviteID = some inviteID

instance (inviteID : Text) : DecidablePred (AcceptsOn inviteID) := fun _ => by
  unfold AcceptsOn
  infer_instance

/-- All client records that carry the invite are of one client. -/
def SoleClient (inviteID : Text) (s : Host) : Prop :=
  ∀ first ∈ s.clients.files, ∀ second ∈ s.clients.files,
    first.inviteID = inviteID → second.inviteID = inviteID → first.clientID = second.clientID

instance (inviteID : Text) (s : Host) : Decidable (SoleClient inviteID s) := by
  unfold SoleClient
  infer_instance

/-- If the action stores a client record for the invite, no other client carries it. -/
def FirstToCarry (inviteID : Text) (s : Host) (action : Action) : Prop :=
  ∀ record ∈ action.newClient, record.inviteID = inviteID →
    ∀ other ∈ s.clients.files, other.inviteID = inviteID → other.clientID = record.clientID

instance (inviteID : Text) (s : Host) (action : Action) :
    Decidable (FirstToCarry inviteID s action) := by
  unfold FirstToCarry
  infer_instance

/-- A client record is stored for the invite only while no other client carries it. -/
abbrev StoresFirst (inviteID : Text) : Pool → HostMove → Prop :=
  OnAction fun c _ action _ => FirstToCarry inviteID c.state action

variable {record : ClientRecord} {pid : ℕ} {action : Action} {choice : Choice}

section

variable {site : Site} {inviteID : Text} {s s' : Host} {c : Pool}

theorem mem_files_put {other : ClientRecord} (h : other ∈ (s.clients.put record).files) :
    other = record ∨ other ∈ s.clients.files :=
  mem_insertFile h

/-- Putting a record of the client that already carries the invite, or the first one
to carry it, leaves one client. -/
theorem SoleClient.put (h : SoleClient inviteID s) (hrecord : record.inviteID = inviteID →
      ∀ other ∈ s.clients.files, other.inviteID = inviteID → other.clientID = record.clientID)
    (hs' : s'.clients = s.clients.put record) : SoleClient inviteID s' := by
  intro first hfirst second hsecond hinvite hinvite'
  rw [hs'] at hfirst hsecond
  rcases mem_files_put hfirst with rfl | hold <;> rcases mem_files_put hsecond with rfl | hold'
  · rfl
  · exact (hrecord hinvite second hold' hinvite').symm
  · exact hrecord hinvite' first hold hinvite
  · exact h first hold second hold' hinvite hinvite'

theorem SoleClient.step {call : Call} {hist : List HostStep} (h : SoleClient inviteID s)
    (hstore : FirstToCarry inviteID s action)
    (hguard : Guard site pid call hist action choice s) (heffect : Effect pid choice s action s') :
    SoleClient inviteID s' := by
  rcases heffect.clients with hsame | ⟨record, rfl, -, hput⟩ | ⟨record, rfl, -, hput⟩
  · unfold SoleClient
    rwa [hsame]
  · exact h.put (hstore record rfl) hput
  · -- a written record continues the stored one of the same client and invite
    obtain ⟨old, hholds, hid, hinvite, -⟩ := ClientWrite.previous hguard
    refine h.put (fun hrecord other hother hother' => ?_) hput
    rw [hid]
    exact h other hother old (Directory.mem_files_of_get hholds.stored) hother'
      (hinvite.symm.trans hrecord)

theorem carries_of_grantee {process : HostProcess} {reply : action.Reply} {clientID : Text}
    (hguard : Guard site pid process.call process.hist action choice s)
    (heffect : Effect pid choice s action s')
    (h : grantee site.env inviteID ⟨⟨action, choice, reply⟩, pid, process.call⟩ = some clientID) :
    Carries s' clientID inviteID := by
  cases action with
  | writeClient record =>
    simp only [grantee] at h
    split_ifs at h with hactive
    obtain ⟨happlies, -, hinvite⟩ := hactive
    cases h
    cases heffect with
    | writeClient _ => exact ⟨record, Directory.get_put_self, hinvite⟩
    | kept hsame =>
      obtain ⟨old, hholds, hid, hinvite', -⟩ := ClientWrite.previous hguard
      exact ⟨old, by rw [hsame.clients, hid]; exact hholds.stored, hinvite'.symm.trans hinvite⟩
  | install publicKey notAfter =>
    obtain ⟨request, hinstalls, hkey⟩ := id hguard
    simp only [grantee, hinstalls.enrollment] at h
    split_ifs at h with hinvite
    cases h
    refine hguard.carries heffect ?_
    rw [← hinvite, hkey]
    exact hinstalls.carries
  | _ => simp [grantee] at h

/-- What a run keeps: one client carries the invite, and it is the one for which the
invite has been used. -/
structure UsedOnce (env : Env) (inviteID : Text) (c : Pool) : Prop where
  sole : SoleClient inviteID c.state
  carries : ∀ clientID ∈ grantees env inviteID c, Carries c.state clientID inviteID

theorem UsedOnce.singleUse (h : UsedOnce site.env inviteID c) : SingleUse site.env inviteID c := by
  intro first hfirst second hsecond
  obtain ⟨record, hrecord, hinvite⟩ := h.carries first hfirst
  obtain ⟨record', hrecord', hinvite'⟩ := h.carries second hsecond
  have hsame := h.sole record (Directory.mem_files_of_get hrecord) record'
    (Directory.mem_files_of_get hrecord') hinvite hinvite'
  rw [← Directory.key_of_get hrecord, ← Directory.key_of_get hrecord']
  exact hsame

/-- In every run in which client records are stored for an invite only while no other
client carries it, the invite is used for at most one client. -/
theorem singleUse_of_storesFirst (hsole : SoleClient inviteID s)
    (hrun : Run (hostMachine site) (StoresFirst inviteID) (Config.idle s) c) :
    SingleUse site.env inviteID c := by
  refine (run_invariant (I := UsedOnce site.env inviteID) hrun ⟨hsole, by simp [grantees, Config.idle]⟩
    ?_ ?_ ?_).singleUse
  · exact fun _ h _ _ => ⟨h.sole, h.carries⟩
  · intro c pid process action rest choice reply state _ h hD hp hprog hguard hperform _
    have heffect := effect_of_perform hperform
    refine ⟨h.sole.step (hD.condition hp hprog) hguard heffect, ?_⟩
    intro clientID hclient
    obtain ⟨event, hevent, hgrantee⟩ := List.mem_filterMap.1 hclient
    rcases List.mem_cons.1 hevent with rfl | hevent
    · exact carries_of_grantee hguard heffect hgrantee
    · exact hguard.carries heffect (h.carries clientID (List.mem_filterMap.2 ⟨event, hevent, hgrantee⟩))
  · exact fun _ h _ _ => ⟨h.sole, h.carries⟩

end

/-! ## Runs -/

/-- An acceptance that is cut off after its authorization is installed, and its
repetition, enroll one client. -/
theorem singleUse_retry :
    SoleClient Scenario.inviteID Scenario.host ∧
    ∃ c, Run (hostMachine Scenario.site) (StoresFirst Scenario.inviteID)
        (Config.idle Scenario.host) c ∧
      Scenario.clientID 'A' ∈ grantees Scenario.env Scenario.inviteID c ∧
      SingleUse Scenario.env Scenario.inviteID c := by
  have hsole : SoleClient Scenario.inviteID Scenario.host := by decide
  refine ⟨hsole, Run.exists_imp_of_runMoves
    ([.start 0 (Scenario.accept 'A')] ++ Scenario.steps 0 5 ++
      [.stop 0, .start 0 (Scenario.accept 'A')] ++ Scenario.steps 0 13)
    (fun c => Scenario.clientID 'A' ∈ grantees Scenario.env Scenario.inviteID c)
    (by decide +kernel) ?_⟩
  exact fun c hrun hgrantee => ⟨hgrantee, singleUse_of_storesFirst hsole hrun⟩

/-- An acceptance is cut off after it has activated its client and before it consumes
the invite; an acceptance with another key then runs to its end. Both clients carry the
invite, are active and authorized. -/
theorem invite_used_twice :
    ∃ c, Run (hostMachine Scenario.site) (Starts (AcceptsOn Scenario.inviteID))
        (Config.idle Scenario.host) c ∧
      (Scenario.host.invites.get Scenario.inviteID).map Record.status = some .issued ∧
      (∃ record ∈ c.state.clients.files, ∃ other ∈ c.state.clients.files,
        record.inviteID = Scenario.inviteID ∧ other.inviteID = Scenario.inviteID ∧
        record.status = .active ∧ other.status = .active ∧
        record.publicKey = Scenario.key 'A' ∧ other.publicKey = Scenario.key 'B') ∧
      ¬ SingleUse Scenario.env Scenario.inviteID c := by
  exact Run.exists_of_runMoves
    ([.start 0 (Scenario.accept 'A')] ++ Scenario.steps 0 8 ++
      [.stop 0, .start 1 (Scenario.accept 'B')] ++ Scenario.steps 1 12) (by decide +kernel)

end WarpTweet
