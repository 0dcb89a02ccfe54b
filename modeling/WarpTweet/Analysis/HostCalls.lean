import WarpTweet.Concurrency.Guarded
import WarpTweet.Model.HostApply

/-!
# What a host run knows at each of its steps

While a run holds the host operation lock, nobody else writes the manifest, the certificate or the
receipts. Services may stop or start again, and invites may cease to be issued. The guards below say
what a run knows when it writes the manifest, the applied receipt or an invite, and when it
reports its result. They hold in every run of the host, and the results about whole runs are derived
from them.

Two parameters strengthen the guards for runs of which more is assumed: `quiet`, that invites are
consumed and cancelled only while no run holds the lock, and `sees`, a relation between a run, the
addresses it finds and the stored manifest.
-/

set_option autoImplicit false

namespace WarpTweet.HostApply

open Strings Concurrency Storage

/-! ## Readings and writings -/

section

variable {α : Type} {choice : ApplyChoice} {value reply : Except Err α} {s s' written : HostSite}

theorem ApplyChoice.read_eq_ok {x : α} (h : choice.read value = .ok x) : value = .ok x := by
  unfold ApplyChoice.read at h
  split at h
  · exact h
  · cases h

theorem ApplyChoice.write_eq (h : choice.write value s written = (reply, s')) :
    (s' = s ∨ s' = written) ∧ ∀ x, reply = .ok x → value = .ok x ∧ s' = written := by
  unfold ApplyChoice.write at h
  split at h
  · cases h
    exact ⟨.inr rfl, fun x hx => ⟨hx, rfl⟩⟩
  · obtain ⟨rfl, rfl⟩ := Prod.mk.inj h
    refine ⟨?_, fun x hx => by cases hx⟩
    split
    · exact .inr rfl
    · exact .inl rfl

end

/-! ## What an action changes -/

/-- What an action of process `pid` can make of a host. A service that changes has stopped or has
loaded what is stored, and the only action after which an invite is issued stores it. -/
inductive Changes (params : HostParams) (pid : ℕ) (choice : ApplyChoice) (s : HostSite) :
    ApplyAction → HostSite → Prop
  | same {action : ApplyAction} : Changes params pid choice s action s
  | locked (wait : Bool) (free : s.lock = none) :
      Changes params pid choice s (.lock wait) { s with lock := some pid }
  | unlocked (held : s.lock = some pid) : Changes params pid choice s .unlock { s with lock := none }
  | hostKey : Changes params pid choice s .ensureIdentity
      { s with hostKey := some (s.hostKey.getD choice.hostKey) }
  | identity : Changes params pid choice s .ensureTLS
      { s with identity := some (ensuredIdentity choice s.identity) }
  | manifest (manifest : ServerConfig) :
      Changes params pid choice s (.writeManifest manifest) { s with manifest := some manifest }
  | desired (revision : HostRevision) :
      Changes params pid choice s (.writeDesired revision) { s with desired := some revision }
  | applied (revision : HostRevision) :
      Changes params pid choice s (.writeApplied revision) { s with applied := some revision }
  | services {action : ApplyAction} (dataPlane enrollment : ServiceEvent) :
      Changes params pid choice s action { s with
        dataPlane := dataPlane.after (loadedDataPlane params.env.net s) s.dataPlane
        enrollment := enrollment.after (loadedEnrollment params.env.net s) s.enrollment }
  | expired (record : Record) : Changes params pid choice s (.writeInvite record)
      { s with invites := s.invites.put record }
  | stored (record : Record) (hex : isHexID record.inviteID = true)
      (new : s.invites.get record.inviteID = none) :
      Changes params pid choice s (.storeInvite record) { s with invites := s.invites.put record }
  | consumed (old record : Record) (clientID : Text) (now : Time)
      (found : s.invites.get record.inviteID = some old) (retired : record.status ≠ .issued) :
      Changes params pid choice s (.consumeInvite record.inviteID clientID now)
        { s with invites := s.invites.put record }
  | cancelled (old record : Record) (now : Time)
      (found : s.invites.get record.inviteID = some old) (retired : record.status ≠ .issued) :
      Changes params pid choice s (.cancelInvite record.inviteID now)
        { s with invites := s.invites.put record }

variable {action : ApplyAction} {record : Record} {clientID : Text} {now : Time} {α : Type}
  {reply : action.Reply} {call : ApplyCall} {choice : ApplyChoice} {s : HostSite}

theorem consumed_not_issued : (consumed record clientID now).status ≠ .issued := by
  unfold consumed
  split <;> simp

theorem consumed_inviteID : (consumed record clientID now).inviteID = record.inviteID := by
  unfold consumed
  split <;> rfl

section

variable {params : HostParams} {pid : ℕ} {choice : ApplyChoice} {s s' : HostSite}

theorem Changes.of_write {value reply : Except Err α}
    {written : HostSite} (h : choice.write value s written = (reply, s'))
    (hwritten : Changes params pid choice s action written) :
    Changes params pid choice s action s' := by
  rcases (ApplyChoice.write_eq h).1 with rfl | rfl
  · exact .same
  · exact hwritten

theorem changes_of_effect (h : effect params pid action choice s = some (reply, s')) :
    Changes params pid choice s action s' := by
  cases action with
  | lock wait =>
    simp only [effect] at h
    split at h
    · cases h
      exact .locked wait ‹_›
    · split at h
      · cases h
      · cases h
        exact .same
  | unlock =>
    cases h
    split
    · exact .unlocked ‹_›
    · exact .same
  | ensureIdentity => exact .of_write (Option.some.inj h) .hostKey
  | ensureTLS => exact .of_write (Option.some.inj h) .identity
  | writeManifest manifest => exact .of_write (Option.some.inj h) (.manifest manifest)
  | writeDesired revision => exact .of_write (Option.some.inj h) (.desired revision)
  | writeApplied revision => exact .of_write (Option.some.inj h) (.applied revision)
  | applyDataPlane restart endpoint =>
    exact .of_write (Option.some.inj h) (.services (startEvent restart s.dataPlane) .stays)
  | applyEnrollment restart endpoint pin =>
    exact .of_write (Option.some.inj h) (.services .stays (startEvent restart s.enrollment))
  | services dataPlane enrollment =>
    cases h
    exact .services dataPlane enrollment
  | writeInvite record => exact .of_write (Option.some.inj h) (.expired record)
  | storeInvite record =>
    simp only [effect] at h
    split at h
    · rename_i hnew
      obtain ⟨hhex, hnone⟩ := Bool.and_eq_true_iff.1 hnew
      exact .of_write (Option.some.inj h) (.stored record hhex (Option.isNone_iff_eq_none.1 hnone))
    · cases h
      exact .same
  | consumeInvite inviteID clientID now =>
    simp only [effect] at h
    split at h
    · rename_i record hget
      split at h
      · have hkey := Directory.key_of_get hget
        have hid : (consumed record clientID now).inviteID = inviteID :=
          consumed_inviteID.trans hkey
        subst hid
        exact .of_write (Option.some.inj h) (.consumed record _ clientID now hget
          consumed_not_issued)
      · cases h
        exact .same
    · cases h
      exact .same
  | cancelInvite inviteID now =>
    simp only [effect] at h
    split at h
    · rename_i record hget
      obtain rfl := Directory.key_of_get hget
      split at h
      · exact .of_write (Option.some.inj h) (.cancelled record
          { record with status := .cancelled, revokedAt := .format now } now hget (by simp))
      · cases h
        exact .same
    · cases h
      exact .same
  | loadManifest | addresses | listGrants | writeSSHD | certLeaf | loadApplied | probeTCP
  | listInvites | loadIssuedBlob | random | report =>
    cases h
    exact .same

end

/-! ## What others can change -/

/-- What the others can make of a host while a run holds the lock. -/
structure Keeps (net : NetIP) (quiet : Prop) (s s' : HostSite) : Prop where
  lock : s'.lock = s.lock
  manifest : s'.manifest = s.manifest
  hostKey : s'.hostKey = s.hostKey
  identity : s'.identity = s.identity
  applied : s'.applied = s.applied
  dataPlane : s'.dataPlane = s.dataPlane ∨ s'.dataPlane = none ∨
    s'.dataPlane = loadedDataPlane net s
  enrollment : s'.enrollment = s.enrollment ∨ s'.enrollment = none ∨
    s'.enrollment = loadedEnrollment net s
  issued : ∀ record ∈ s'.invites.files, record.status = .issued → record ∈ s.invites.files
  unchanged : quiet → s'.invites = s.invites

section

variable {net : NetIP} {quiet : Prop} {s s' s'' : HostSite}

theorem loadedDataPlane_eq (h : s'.manifest = s.manifest) :
    loadedDataPlane net s' = loadedDataPlane net s := by
  simp only [loadedDataPlane, h]

theorem loadedEnrollment_eq (h : s'.manifest = s.manifest) (hid : s'.identity = s.identity) :
    loadedEnrollment net s' = loadedEnrollment net s := by
  simp only [loadedEnrollment, loadedDataPlane_eq h, hid]

theorem Keeps.refl : Keeps net quiet s s :=
  ⟨rfl, rfl, rfl, rfl, rfl, .inl rfl, .inl rfl, fun _ h _ => h, fun _ => rfl⟩

theorem Keeps.trans (h : Keeps net quiet s s') (h' : Keeps net quiet s' s'') :
    Keeps net quiet s s'' := by
  have hdata := h'.dataPlane
  have henroll := h'.enrollment
  rw [loadedDataPlane_eq h.manifest] at hdata
  rw [loadedEnrollment_eq h.manifest h.identity] at henroll
  refine ⟨h'.lock.trans h.lock, h'.manifest.trans h.manifest, h'.hostKey.trans h.hostKey,
    h'.identity.trans h.identity, h'.applied.trans h.applied, ?_, ?_, ?_, ?_⟩
  · rcases hdata with hdata | hdata
    · rw [hdata]
      exact h.dataPlane
    · exact .inr hdata
  · rcases henroll with henroll | henroll
    · rw [henroll]
      exact h.enrollment
    · exact .inr henroll
  · intro record hmem hissued
    exact h.issued record (h'.issued record hmem hissued) hissued
  · intro hquiet
    exact (h'.unchanged hquiet).trans (h.unchanged hquiet)

theorem after_cases (event : ServiceEvent) (loaded service : Option α) :
    event.after loaded service = service ∨ event.after loaded service = none ∨
      event.after loaded service = loaded := by
  cases event with
  | stays => exact .inl rfl
  | stops => exact .inr (.inl rfl)
  | restarts => exact .inr (.inr rfl)

theorem Keeps.put_of_not_issued (hrecord : record.status ≠ .issued)
    (hquiet : ¬ quiet) : Keeps net quiet s { s with invites := s.invites.put record } := by
  refine ⟨rfl, rfl, rfl, rfl, rfl, .inl rfl, .inl rfl, ?_, fun h => absurd h hquiet⟩
  intro other hmem hissued
  rcases mem_insertFile hmem with rfl | hmem
  · exact absurd hissued hrecord
  · exact hmem

end

/-! ## The guards -/

/-- An invite that a listing finds. -/
def Listed (s : HostSite) (record : Record) : Prop :=
  record ∈ s.invites.files ∧ isHexID record.inviteID = true

def NoneIssued (s : HostSite) : Prop :=
  ∀ record, Listed s record → record.status ≠ .issued

/-- The network that a run proposes, from the stored manifest and the addresses it finds. If the
target or the published locators change, no invite is issued. -/
structure Proposes (params : HostParams) (input : HostApplyInput) (s : HostSite)
    (stored : Option ServerConfig) (host : HostAddresses) (publication : HostPublication)
    (network : Network) (publishedChanged : Bool) : Prop where
  loads : loadManifestAt params.env.net s = .ok stored
  resolves : resolveHostPublication params.env.net params.texts input.flags stored host =
    .ok publication
  proposes : proposeNetwork params.env.net publication (stored.map (·.network)) =
    .ok (network, publishedChanged)
  target : ∀ existing ∈ stored, storedTarget existing ≠ (some input.target.1, input.target.2) →
    NoneIssued s
  published : publishedChanged = true → NoneIssued s

/-- What a run has put in place: the manifest, the host key and the certificate. -/
structure InPlace (pid : ℕ) (manifest : ServerConfig) (hostPublicKey : Text)
    (identity : EnrollmentIdentity) (s : HostSite) : Prop where
  lock : s.lock = some pid
  manifest : s.manifest = some manifest
  hostKey : s.hostKey = some hostPublicKey
  identity : s.identity = some identity

/-- The services that run listen where the manifest says. -/
structure Listening (manifest : ServerConfig) (s : HostSite) : Prop where
  dataPlane : ∀ loaded ∈ s.dataPlane,
    loaded.network.data.listen.addrPort = manifest.network.data.listen.addrPort
  enrollment : ∀ service ∈ s.enrollment, service.manifest.network.enrollment.listen.addrPort =
    manifest.network.enrollment.listen.addrPort

/-- An enrollment listener that runs has loaded what is stored. -/
def EnrollmentCurrent (net : NetIP) (s : HostSite) : Prop :=
  ∀ service ∈ s.enrollment, loadedEnrollment net s = some service

/-- `record` is minted by the run for what is in place. -/
def Mints (params : HostParams) (input : HostApplyInput) (manifest : ServerConfig)
    (hostPublicKey pin : Text) (invite : Invite) (record : Record) : Prop :=
  ∃ nonce inviteID clock, mintServerInvite params.env params.install input.label input.target
    manifest hostPublicKey pin input.authorizationSeconds input.now nonce inviteID clock =
      .ok (invite, record)

/-- An invite that can be used at `now` under a generation. -/
def Usable (generation : Nat) (now : Time) (record : Record) : Prop :=
  record.status = .issued ∧ record.publishedEndpointGeneration = generation ∧
    inviteExpired record now = false

/-- The invite that a run hands out: one that it found, or one that it minted. -/
def HandsOut (params : HostParams) (input : HostApplyInput) (manifest : ServerConfig)
    (hostPublicKey pin : Text) (invite : Invite) (s : HostSite) : Prop :=
  ∃ record ∈ s.invites.files,
    (Usable manifest.network.publishedEndpointGeneration.toNat input.now record ∧
      ∃ read, loadRecord params.env record = .ok read ∧ invite = read.toInvite) ∨
    Mints params input manifest hostPublicKey pin invite record

/-- What a run knows when it reports its result. -/
structure Reports (params : HostParams) (quiet : Prop) (pid : ℕ) (input : HostApplyInput)
    (result : HostApplyResult) (s : HostSite) : Prop where
  inPlace : ∃ identity, InPlace pid result.manifest result.hostPublicKey identity s ∧
    identity.pin = result.pin ∧
    s.applied = some ⟨params.networkSHA256 result.manifest.network, identity.leaf⟩
  target : result.manifest.target = ⟨some input.target.1, input.target.2⟩
  listening : Listening result.manifest s
  invite : input.noInvite = false → ∃ invite, result.invite = some invite ∧
    (quiet → HandsOut params input result.manifest result.hostPublicKey result.pin invite s)

variable (params : HostParams) (quiet : Prop)
  (sees : HostApplyInput → HostAddresses → Option ServerConfig → Prop)

/-- What a run knows when it takes an action. -/
def Guarded (pid : ℕ) (call : ApplyCall) (action : ApplyAction) (s : HostSite) : Prop :=
  match action with
  | .writeManifest manifest => s.lock = some pid ∧ ∃ input stored host publication network changed,
      call = .apply input ∧ sees input host s.manifest ∧
      Proposes params input s stored host publication network changed ∧
      hostManifest params stored input.target network = .ok manifest
  | .writeApplied revision => s.lock = some pid ∧ ∃ manifest identity,
      s.manifest = some manifest ∧ s.identity = some identity ∧
      revision = ⟨params.networkSHA256 manifest.network, identity.leaf⟩ ∧
      (s.applied = some revision ∨ EnrollmentCurrent params.env.net s)
  | .writeInvite record => s.lock = some pid ∧ record.status = .expired ∧
      isHexID record.inviteID = true
  | .storeInvite record => ∃ input manifest hostPublicKey identity invite,
      call = .apply input ∧ InPlace pid manifest hostPublicKey identity s ∧
      Mints params input manifest hostPublicKey identity.pin invite record ∧
      ∀ other, Listed s other →
        ¬ Usable manifest.network.publishedEndpointGeneration.toNat input.now other
  | .report result => ∃ input, call = .apply input ∧ Reports params quiet pid input result s
  | .ensureIdentity | .ensureTLS | .writeDesired _ | .applyDataPlane _ _ | .applyEnrollment _ _ _
  | .consumeInvite _ _ _ => s.lock = some pid
  | .cancelInvite _ _ => quiet → s.lock = none
  | _ => True

def Assumed (call : ApplyCall) (action : ApplyAction) (choice : ApplyChoice) (s : HostSite) : Prop :=
  match action, call with
  | .addresses, .apply input => sees input choice.addresses s.manifest
  | .cancelInvite _ _, _ => quiet → s.lock = none
  | _, _ => True

variable {params quiet sees}

/-- The step that cancels an invite. -/
def cancelsInvite : ApplyAction → Bool
  | .cancelInvite _ _ => true
  | _ => false

theorem assumed_of (hsees : ∀ input, action = .addresses → call = .apply input →
      sees input choice.addresses s.manifest)
    (hquiet : cancelsInvite action = true → quiet → s.lock = none) :
    Assumed quiet sees call action choice s := by
  unfold Assumed
  split
  · exact hsees _ rfl rfl
  · exact hquiet rfl
  · trivial

theorem keeps_of_guarded {pid pid' : ℕ} {s' : HostSite} (hne : pid' ≠ pid)
    (hguard : Guarded params quiet sees pid call action s)
    (heffect : effect params pid action choice s = some (reply, s')) (hlock : s.lock = some pid') :
    Keeps params.env.net quiet s s' := by
  -- an action that needs the lock is not taken while another process holds it
  have hother : s.lock ≠ some pid := by
    rw [hlock]
    exact fun heq => hne (Option.some.inj heq)
  have hheld : s.lock ≠ none := by simp [hlock]
  cases changes_of_effect heffect with
  | same => exact .refl
  | locked _ hfree => exact absurd hfree hheld
  | unlocked held => exact absurd held hother
  | hostKey | identity | desired | consumed => exact absurd hguard hother
  | manifest | applied | expired => exact absurd hguard.1 hother
  | stored =>
    obtain ⟨_, _, _, _, _, -, hplace, -⟩ := hguard
    exact absurd hplace.lock hother
  | services dataPlane enrollment =>
    exact ⟨rfl, rfl, rfl, rfl, rfl, after_cases _ _ _, after_cases _ _ _, fun _ h _ => h,
      fun _ => rfl⟩
  | cancelled _ _ _ _ hretired =>
    exact .put_of_not_issued hretired fun hquiet => hheld (hguard hquiet)

variable (params quiet sees)

/-- The protocol of the host: a run relies on the others only while it holds the lock. -/
def protocol : Protocol (machine params) where
  Rely pid s s' := s.lock = some pid → Keeps params.env.net quiet s s'
  Assume _ call _ action choice s := Assumed quiet sees call action choice s
  Guard pid call _ action _ s := Guarded params quiet sees pid call action s
  rely_refl _ _ := fun _ => .refl
  rely_trans h h' hlock := (h hlock).trans (h' ((h hlock).lock.trans hlock))
  guard_rely hne hguard heffect hlock := keeps_of_guarded hne hguard heffect hlock
  release_rely := by
    intro pid pid' s hne hlock
    have hother : s.lock ≠ some pid := by
      rw [hlock]
      exact fun heq => hne (Option.some.inj heq)
    show Keeps params.env.net quiet s (released pid s)
    rw [released, if_neg hother]
    exact .refl

end WarpTweet.HostApply
