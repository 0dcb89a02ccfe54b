import WarpTweet.Analysis.HostConvergence

/-!
# The invites that host runs hand out

A run that asks for an invite resumes an issued one of the current generation, or mints one. No two
invites of one generation can be used at the same time, since an invite is minted only when none can
be used, and an issued invite always has the host key, the pin, the target and the published
endpoints that are in place, since these do not change while an invite is issued. Its duration is
another matter: it is the one asked for by the run that minted it. And an invite that is resumed may
be cancelled or used for an enrollment before the run reports it, since neither takes the lock of
the host.
-/

set_option autoImplicit false

namespace WarpTweet.HostApply

open Strings Concurrency Storage

/-! ## Minted invites -/

/-- An invite for what is in place: the host key, the pin, the target and the published
endpoints. -/
structure Matches (params : HostParams) (manifest : ServerConfig) (hostPublicKey pin : Text)
    (invite : Invite) : Prop where
  hostKey : ∃ key, params.install.hostPublicKey serverHostKeyPath hostPublicKey = .ok key ∧
    invite.hostPublicKey = trimSpace key
  pin : invite.enrollment.tlsSPKISHA256 = pin
  targetAddress : invite.targetAddress = addrText params.env.net manifest.target.address
  targetPort : invite.targetPort = uint16 manifest.target.port
  generation : invite.publishedEndpointGeneration =
    manifest.network.publishedEndpointGeneration.toNat
  dataHost : manifest.network.data.dial.host.canonical params.env.net = .ok invite.data.host
  dataPort : invite.data.port = manifest.network.data.dial.port
  enrollHost : manifest.network.enrollment.dial.host.canonical params.env.net =
    .ok invite.enrollment.host
  enrollPort : invite.enrollment.port = manifest.network.enrollment.dial.port

/-- The time of a run is one from which an expiry can be written. -/
def InTime (input : HostApplyInput) : Prop :=
  input.now.isZero = false ∧ (input.now + defaultTTL : Time).isRepresentable = true

/-- The duration of an invite is the one that a run asks for. -/
def Lasts (input : HostApplyInput) (invite : Invite) : Prop :=
  resolveDuration installedDefault input.authorizationSeconds =
    .ok invite.authorizationDurationSeconds

variable {pid : ℕ} {choice : ApplyChoice} {net : NetIP} {hostPublicKey : Text} {invite : Invite}
  {publication : HostPublication} {network : Network} {input : HostApplyInput} {record : Record}
  {quiet : Prop} {sees : HostApplyInput → HostAddresses → Option ServerConfig → Prop}
  {call : ApplyCall}

section

variable {params : HostParams} {input : HostApplyInput} {manifest : ServerConfig}
  {hostPublicKey pin : Text} {invite : Invite} {record : Record}

theorem trimSpace_of_isLowerHexDigest {digest : Text} (h : isLowerHexDigest digest = true) :
    trimSpace digest = digest := by
  apply trimSpace_of_not_space
  intro c hc
  have hchar := List.all_eq_true.1 (Bool.and_eq_true_iff.1 h).2 c hc
  have hrange : 0x30 ≤ c.toNat ∧ c.toNat ≤ 0x39 ∨ 0x61 ≤ c.toNat ∧ c.toNat ≤ 0x66 := by
    simp only [Char.isDigit, Bool.or_eq_true, Bool.and_eq_true, decide_eq_true_eq] at hchar
    exact hchar
  unfold isSpace
  simp only [Bool.or_eq_false_iff, Bool.and_eq_false_iff, beq_eq_false_iff_ne,
    decide_eq_false_iff_not]
  omega

theorem of_validate (h : manifest.validate net = .ok ()) :
    manifest.hostKeyPath = serverHostKeyPath ∧ manifest.network.enrollment.dial.port ≠ 0 := by
  simp only [ServerConfig.validate, except_bind_eq_ok, refuseIf_eq_ok, decide_eq_false_iff_not,
    not_not] at h
  obtain ⟨_, -, _, -, _, -, _, -, _, -, _, hnetwork, _, -, _, -, _, hpath, -⟩ := h
  refine ⟨hpath, ?_⟩
  simp only [validateNetwork, except_bind_eq_ok] at hnetwork
  obtain ⟨_, -, _, -, _, -, _, -, _, -, _, hdial, -⟩ := hnetwork
  simp only [validateDial, except_bind_eq_ok, refuseIf_eq_ok, decide_eq_false_iff_not] at hdial
  obtain ⟨_, hport, -⟩ := hdial
  omega

/-- **What a run mints.** The invite is issued, matches what is in place and has the duration that
the run asks for. -/
theorem of_mints (hnet : params.env.net.Lawful) (hvalid : manifest.validate params.env.net = .ok ())
    (h : Mints params input manifest hostPublicKey pin invite record) :
    record.toInvite = invite ∧ record.status = .issued ∧
      Matches params manifest hostPublicKey pin invite ∧ Lasts input invite ∧
      (InTime input → inviteExpired record input.now = false) := by
  obtain ⟨nonce, inviteID, clock, h⟩ := h
  have hminted := minted_of_mintServerInvite hnet h
  obtain ⟨hpath, hport⟩ := of_validate hvalid
  simp only [mintServerInvite, except_bind_eq_ok, hpath, if_neg hport] at h
  obtain ⟨_, -, key, hkey, _, -, _, -, _, -, h⟩ := h
  simp only [create, validateCreateInput, except_bind_eq_ok, mapError_eq_ok, refuseIf_eq_ok,
    if_true] at h
  obtain ⟨_, hinput, _, -, seconds, hseconds, _, -, _, -, _, -, h⟩ := h
  obtain ⟨_, -, _, -, _, -, _, -, _, -, _, -, _, -, _, -, _, -, _, -, _, -, hpin⟩ := hinput
  have hpin : isLowerHexDigest pin = true := by simpa using hpin
  cases h
  refine ⟨rfl, rfl, ⟨⟨key, hkey, rfl⟩, trimSpace_of_isLowerHexDigest hpin, rfl, rfl, rfl,
    hminted.dataHost, rfl, hminted.enrollHost, if_neg hport⟩, hseconds, ?_⟩
  rintro ⟨hnow, hexpiry⟩
  have httl : ¬ defaultTTL ≤ 0 := by decide
  simp only [inviteExpired, inviteExpiry, orClock, hnow, Bool.false_eq_true, if_false,
    if_neg httl, Stamp.format, hexpiry, if_true, Bool.not_eq_false', decide_eq_true_eq]
  have hpos : (0 : Int) < defaultTTL := by decide
  exact Int.lt_add_of_pos_right _ hpos

end

/-! ## Invites match what is in place -/

/-- What relates the stored invites to what is in place. -/
structure Agrees (params : HostParams) (s : HostSite) : Prop where
  hex : ∀ record ∈ s.invites.files, isHexID record.inviteID = true
  valid : ∀ manifest ∈ s.manifest, manifest.validate params.env.net = .ok ()
  issued : ∀ record ∈ s.invites.files, record.status = .issued →
    ∃ manifest ∈ s.manifest, ∃ hostPublicKey ∈ s.hostKey, ∃ identity ∈ s.identity,
      Matches params manifest hostPublicKey identity.pin record.toInvite

section

variable {params : HostParams} {s : HostSite}

theorem uint16_cast {n : ℕ} (h : n < 65536) : uint16 n = n := by
  unfold uint16
  omega

theorem uint16_lt (port : Int) : uint16 port < 65536 := by
  unfold uint16
  omega

/-- An invite for a manifest is one for any manifest with the same target that publishes the
same. -/
theorem Matches.of_same {old manifest : ServerConfig} {pin : Text}
    (h : Matches params old hostPublicKey pin invite)
    (htarget : storedTarget old = storedTarget manifest)
    (hsame : SamePublished params.env.net old.network manifest.network) :
    Matches params manifest hostPublicKey pin invite := by
  obtain ⟨haddress, hport⟩ := Prod.mk.inj htarget
  have hlocators := hsame.locators
  simp only [samePublishedLocators, Network.publishedSet, DialEndpoint.equal, Bool.and_eq_true,
    beq_iff_eq, DialHost.equal_iff] at hlocators
  obtain ⟨⟨hdataPort, dataText, hdata, hdata'⟩, henrollPort, enrollText, henroll, henroll'⟩ :=
    hlocators
  have hdataText := hdata.symm.trans h.dataHost
  have henrollText := henroll.symm.trans h.enrollHost
  exact ⟨h.hostKey, h.pin, haddress ▸ h.targetAddress, hport ▸ h.targetPort,
    hsame.generation ▸ h.generation, hdata'.trans hdataText, h.dataPort.trans hdataPort,
    henroll'.trans henrollText, h.enrollPort.trans henrollPort⟩

theorem samePublished_of_unchanged {stored : Network}
    (h : proposeNetwork net publication (some stored) = .ok (network, false)) :
    SamePublished net stored network := by
  unfold proposeNetwork at h
  dsimp only at h
  split at h
  · cases h
  · split at h
    · rename_i hsame
      cases h
      exact ⟨rfl, hsame⟩
    · simp only [except_bind_eq_ok] at h
      obtain ⟨next, -, hnetwork⟩ := h
      cases hnetwork

/-- A new manifest keeps the agreement: the target or the published set changes only while no invite
is issued. -/
theorem Agrees.manifest (hnet : params.env.net.Lawful) (h : Agrees params s)
    {stored : Option ServerConfig} {host : HostAddresses} {changed : Bool} {manifest : ServerConfig}
    (hproposes : Proposes params input s stored host publication network changed)
    (hmanifest : hostManifest params stored input.target network = .ok manifest) :
    Agrees params { s with manifest := some manifest } := by
  obtain ⟨hnetwork, htarget, hvalid⟩ := of_hostManifest hmanifest
  refine ⟨h.hex, ?_, ?_⟩
  · intro found hfound
    cases hfound
    exact hvalid
  · intro record hmem hissued
    obtain ⟨old, hold, key, hkey, identity, hidentity, hmatches⟩ := h.issued record hmem hissued
    refine ⟨manifest, rfl, key, hkey, identity, hidentity, ?_⟩
    -- the record is issued, so neither the target nor the published set is a new one
    have hlisted : Listed s record := ⟨hmem, h.hex record hmem⟩
    rcases of_loadManifestAt hproposes.loads with ⟨hnone, -⟩ | ⟨written, read, hwritten, hread, rfl⟩
    · rw [hnone] at hold
      cases hold
    · obtain rfl := Option.some.inj (hwritten.symm.trans hold)
      have hstored : storedTarget read = (some input.target.1, input.target.2) := by
        by_contra hne
        exact hproposes.target read rfl hne record hlisted hissued
      have hunchanged : changed = false := by
        by_contra hchanged
        exact hproposes.published (by simpa using hchanged) record hlisted hissued
      have hproposed := hproposes.proposes
      rw [hunchanged] at hproposed
      have hsame := (samePublished_of_reread hnet hread).2.trans
        (samePublished_of_unchanged hproposed)
      rw [← hnetwork] at hsame
      refine hmatches.of_same ?_ hsame
      obtain ⟨dataHost, enrollHost, -, -, rfl⟩ := reread_eq_ok hread
      obtain ⟨haddress, hport⟩ := Prod.mk.inj hstored
      have hbound : input.target.2 < 65536 := hport ▸ uint16_lt _
      rw [storedTarget, storedTarget, htarget]
      exact Prod.ext haddress (hport.trans (uint16_cast hbound).symm)

theorem Agrees.put (h : Agrees params s) (hhex : isHexID record.inviteID = true)
    (hissued : record.status = .issued →
      ∃ manifest ∈ s.manifest, ∃ hostPublicKey ∈ s.hostKey, ∃ identity ∈ s.identity,
        Matches params manifest hostPublicKey identity.pin record.toInvite) :
    Agrees params { s with invites := s.invites.put record } := by
  refine ⟨?_, h.valid, ?_⟩
  · intro other hmem
    rcases mem_insertFile hmem with rfl | hmem
    · exact hhex
    · exact h.hex other hmem
  · intro other hmem hother
    rcases mem_insertFile hmem with rfl | hmem
    · exact hissued hother
    · exact h.issued other hmem hother

/-- A stored invite that is replaced under its name keeps the agreement, unless it is issued
again. -/
theorem Agrees.retired (h : Agrees params s) {old : Record}
    (hfound : s.invites.get record.inviteID = some old) (hretired : record.status ≠ .issued) :
    Agrees params { s with invites := s.invites.put record } := by
  have hkey := Directory.key_of_get hfound
  have hhex := h.hex old (Directory.mem_files_of_get hfound)
  exact h.put (hkey ▸ hhex) fun hissued => absurd hissued hretired

theorem agrees_of_changes (hnet : params.env.net.Lawful) {action : ApplyAction} {s' : HostSite}
    (h : Agrees params s) (hguard : Guarded params quiet sees pid call action s)
    (hchanges : Changes params pid choice s action s') : Agrees params s' := by
  cases hchanges with
  | hostKey =>
    refine ⟨h.hex, h.valid, ?_⟩
    intro record hmem hissued
    obtain ⟨manifest, hmanifest, key, hkey, rest⟩ := h.issued record hmem hissued
    refine ⟨manifest, hmanifest, key, ?_, rest⟩
    rw [Option.mem_def] at hkey
    rw [hkey]
    rfl
  | identity =>
    refine ⟨h.hex, h.valid, ?_⟩
    intro record hmem hissued
    obtain ⟨manifest, hmanifest, key, hkey, identity, hidentity, hmatches⟩ :=
      h.issued record hmem hissued
    rw [Option.mem_def] at hidentity
    -- a certificate that is renewed keeps its key
    have hpin : (ensuredIdentity choice s.identity).pin = identity.pin := by
      rw [hidentity]
      simp only [ensuredIdentity]
      split <;> rfl
    exact ⟨manifest, hmanifest, key, hkey, _, rfl, hpin ▸ hmatches⟩
  | manifest manifest =>
    obtain ⟨-, input, stored, host, publication, network, changed, -, -, hproposes, hmanifest⟩ :=
      hguard
    exact h.manifest hnet hproposes hmanifest
  | expired record =>
    obtain ⟨-, hexpired, hhex⟩ := hguard
    exact h.put hhex fun hissued => by simp [hexpired] at hissued
  | stored record hhex _ =>
    obtain ⟨input, manifest, key, identity, invite, -, hplace, hmints, -⟩ := hguard
    obtain ⟨rfl, -, hmatches, -⟩ := of_mints hnet (h.valid _ hplace.manifest) hmints
    exact h.put hhex fun _ =>
      ⟨manifest, hplace.manifest, key, hplace.hostKey, identity, hplace.identity, hmatches⟩
  | consumed old record clientID now hfound hretired => exact h.retired hfound hretired
  | cancelled old record now hfound hretired => exact h.retired hfound hretired
  | same | locked | unlocked | desired | applied | services => exact ⟨h.hex, h.valid, h.issued⟩

end

/-! ## One invite for each generation -/

/-- The time is not before that of any run so far. -/
def Reached (log : List (Event ApplyCall ApplyAction ApplyChoice ApplyAction.Reply)) (t : Time) :
    Prop :=
  ∀ event ∈ log, ∀ input ∈ event.call.input, input.now ≤ t

/-- Of one generation, at most one invite can be used at `t`. -/
def OneUsable (s : HostSite) (t : Time) : Prop :=
  ∀ generation, ∀ left ∈ s.invites.files, ∀ right ∈ s.invites.files,
    Usable generation t left → Usable generation t right → left = right

section

variable {params : HostParams} {s s' : HostSite} {generation : Nat} {now t : Time} {record : Record}

theorem Usable.before (h : Usable generation t record) (hle : now ≤ t) :
    Usable generation now record := by
  obtain ⟨hissued, hgeneration, hexpired⟩ := h
  refine ⟨hissued, hgeneration, ?_⟩
  unfold inviteExpired at hexpired ⊢
  split at hexpired
  · rename_i expires _
    have hlt : t < expires := by simpa using hexpired
    have hbefore : now < expires := Int.lt_of_le_of_lt hle hlt
    simpa using hbefore
  · cases hexpired

theorem OneUsable.of_issued (h : OneUsable s t)
    (hissued : ∀ record ∈ s'.invites.files, record.status = .issued → record ∈ s.invites.files) :
    OneUsable s' t := by
  intro generation left hleft right hright husable husable'
  exact h generation left (hissued left hleft husable.1) right (hissued right hright husable'.1)
    husable husable'

theorem issued_of_changes {action : ApplyAction}
    (hguard : Guarded params quiet sees pid call action s)
    (hchanges : Changes params pid choice s action s') :
    (∃ minted, action = .storeInvite minted ∧ s' = { s with invites := s.invites.put minted }) ∨
      ∀ record ∈ s'.invites.files, record.status = .issued → record ∈ s.invites.files := by
  have hput : ∀ retired : Record, retired.status ≠ .issued →
      ∀ record ∈ (s.invites.put retired).files, record.status = .issued →
        record ∈ s.invites.files := by
    intro retired hretired record hmem hissued
    rcases mem_insertFile hmem with rfl | hmem
    · exact absurd hissued hretired
    · exact hmem
  cases hchanges with
  | stored minted => exact .inl ⟨minted, rfl, rfl⟩
  | expired record => exact .inr (hput record (by simp [hguard.2.1]))
  | consumed _ record _ _ _ hretired => exact .inr (hput record hretired)
  | cancelled _ record _ _ hretired => exact .inr (hput record hretired)
  | same | locked | unlocked | hostKey | identity | manifest | desired | applied | services =>
    exact .inr fun _ hmem _ => hmem

/-- A minted invite is the only one of its generation that can be used from then on. -/
theorem OneUsable.minted (hnet : params.env.net.Lawful) (hagrees : Agrees params s)
    (h : OneUsable s t) {manifest : ServerConfig} {identity : EnrollmentIdentity}
    (hplace : InPlace pid manifest hostPublicKey identity s)
    (hmints : Mints params input manifest hostPublicKey identity.pin invite record)
    (hnone : ∀ other, Listed s other →
      ¬ Usable manifest.network.publishedEndpointGeneration.toNat input.now other)
    (hle : input.now ≤ t) : OneUsable { s with invites := s.invites.put record } t := by
  obtain ⟨rfl, -, hmatches, -⟩ := of_mints hnet (hagrees.valid _ hplace.manifest) hmints
  -- an invite that can be used beside the minted one could be used when that was minted
  have hother : ∀ generation, ∀ other ∈ s.invites.files, Usable generation t record →
      ¬ Usable generation t other := by
    intro generation other hmem hrecord husable
    have hgeneration := hrecord.2.1.symm.trans hmatches.generation
    rw [hgeneration] at husable
    exact hnone other ⟨hmem, hagrees.hex other hmem⟩ (husable.before hle)
  intro generation left hleft right hright husable husable'
  rcases mem_insertFile hleft with rfl | hold
  · rcases mem_insertFile hright with rfl | hold
    · rfl
    · exact absurd husable' (hother generation right hold husable)
  · rcases mem_insertFile hright with rfl | hold'
    · exact absurd husable (hother generation left hold husable')
    · exact h generation left hold right hold' husable husable'

end

/-! ## The duration that is asked for -/

/-- Every invite that a run could resume has the duration the run asks for. -/
def AsksForIssued (call : ApplyCall) (s : HostSite) : Prop :=
  ∀ input ∈ call.input, input.noInvite = false → InTime input ∧
    ∀ record ∈ s.invites.files, record.status = .issued → inviteExpired record input.now = false →
      Lasts input record.toInvite

/-- The step in which a run takes the lock. -/
def takesLock : ApplyAction → Bool
  | .lock _ => true
  | _ => false

/-- The runs that ask for the duration of the invites they find, and in which cancellations wait
until no run holds the lock. -/
def ResumesAsked (c : ApplyPool) : ApplyMove → Prop :=
  OnAction (fun c process action _ =>
    (takesLock action = true → AsksForIssued process.call c.state) ∧
      (cancelsInvite action = true → c.state.lock = none)) c

instance (call : ApplyCall) (s : HostSite) : Decidable (AsksForIssued call s) :=
  have (input : HostApplyInput) : Decidable (InTime input) := inferInstanceAs (Decidable (_ ∧ _))
  have (input : HostApplyInput) (invite : Invite) : Decidable (Lasts input invite) :=
    inferInstanceAs (Decidable (resolveDuration _ _ = _))
  inferInstanceAs (Decidable (∀ input ∈ call.input, _ = false → InTime input ∧
    ∀ record ∈ s.invites.files, _ = _ → _ = false → Lasts input record.toInvite))

instance (c : ApplyPool) (move : ApplyMove) : Decidable (ResumesAsked c move) :=
  inferInstanceAs (Decidable (OnAction _ c move))

section

variable {params : HostParams} {s s' : HostSite} {pid pid' : ℕ} {call : ApplyCall}
  {action : ApplyAction} {choice : ApplyChoice} {quiet : Prop}
  {sees : HostApplyInput → HostAddresses → Option ServerConfig → Prop}

/-- While a run holds the lock, every invite that it could hand out has the duration it asks for. -/
def AsksWhileLocked (pid : ℕ) (call : ApplyCall)
    (_ : List (Step ApplyAction ApplyChoice ApplyAction.Reply)) (s : HostSite) : Prop :=
  s.lock = some pid → AsksForIssued call s

theorem AsksForIssued.of_issued (h : AsksForIssued call s)
    (hissued : ∀ record ∈ s'.invites.files, record.status = .issued → record ∈ s.invites.files) :
    AsksForIssued call s' := by
  intro input hinput hasks
  obtain ⟨htime, hlasts⟩ := h input hinput hasks
  exact ⟨htime, fun record hmem hrecord => hlasts record (hissued record hmem hrecord) hrecord⟩

theorem lock_of_changes (hchanges : Changes params pid choice s action s')
    (hlock : s'.lock = some pid') :
    s.lock = some pid' ∨ pid' = pid ∧ takesLock action = true ∧ s'.invites = s.invites := by
  cases hchanges with
  | locked _ _ => exact .inr ⟨(Option.some.inj hlock).symm, rfl, rfl⟩
  | unlocked _ => cases hlock
  | same | hostKey | identity | manifest | desired | applied | services | expired | stored
  | consumed | cancelled => exact .inl hlock

theorem asks_of_self (hnet : params.env.net.Lawful) (hagrees : Agrees params s)
    (h : s.lock = some pid → AsksForIssued call s)
    (hcondition : takesLock action = true → AsksForIssued call s)
    (hguard : Guarded params quiet sees pid call action s)
    (hchanges : Changes params pid choice s action s') (hlock : s'.lock = some pid) :
    AsksForIssued call s' := by
  have hasks : AsksForIssued call s := by
    rcases lock_of_changes hchanges hlock with hheld | ⟨-, htakes, -⟩
    · exact h hheld
    · exact hcondition htakes
  rcases issued_of_changes hguard hchanges with ⟨minted, rfl, rfl⟩ | hissued
  · obtain ⟨input, manifest, key, identity, invite, rfl, hplace, hmints, -⟩ := hguard
    obtain ⟨rfl, -, -, hlasts, -⟩ := of_mints hnet (hagrees.valid _ hplace.manifest) hmints
    intro found hfound hinvite
    cases hfound
    obtain ⟨htime, hold⟩ := hasks input rfl hinvite
    refine ⟨htime, fun record hmem hissued hunexpired => ?_⟩
    rcases mem_insertFile hmem with rfl | hmem
    · exact hlasts
    · exact hold record hmem hissued hunexpired
  · exact hasks.of_issued hissued

theorem asks_of_other (hne : pid' ≠ pid) (h : s.lock = some pid' → AsksForIssued call s)
    {other : ApplyCall} {reply : action.Reply}
    (hguard : Guarded params quiet sees pid other action s)
    (heffect : effect params pid action choice s = some (reply, s')) (hlock : s'.lock = some pid') :
    AsksForIssued call s' := by
  rcases lock_of_changes (changes_of_effect heffect) hlock with hheld | ⟨heq, -⟩
  · exact (h hheld).of_issued (keeps_of_guarded hne hguard heffect hheld).issued
  · exact absurd heq hne

end

/-! ## All runs -/

section

variable {params : HostParams} {c : ApplyPool}

/-- What holds in every pool that these runs reach. -/
structure Consistent (params : HostParams) (c : ApplyPool) : Prop where
  agrees : Agrees params c.state
  one : ∀ t, Reached c.log t → OneUsable c.state t
  asks : c.Each AsksWhileLocked
  held : ∀ pid, c.state.lock = some pid → c.procs pid ≠ none

theorem Consistent.advanced (hnet : params.env.net.Lawful) (h : Consistent params c)
    {process : ApplyProcess} {action : ApplyAction} {reply : action.Reply} {state : HostSite}
    {prog : Prog ApplyAction ApplyAction.Reply Err Unit}
    (hcondition : takesLock action = true → AsksForIssued process.call c.state)
    (hp : c.procs pid = some process)
    (hguard : Guarded params True (fun _ _ _ => True) pid process.call action c.state)
    (heffect : effect params pid action choice c.state = some (reply, state)) :
    Consistent params (c.advanced pid process ⟨action, choice, reply⟩ prog state) := by
  have hchanges := changes_of_effect heffect
  refine ⟨agrees_of_changes hnet h.agrees hguard hchanges, ?_, ?_, ?_⟩
  · intro t ht
    have hone : OneUsable c.state t := h.one t fun event hmem => ht event (List.mem_cons_of_mem _ hmem)
    rcases issued_of_changes hguard hchanges with ⟨minted, rfl, rfl⟩ | hissued
    · obtain ⟨input, manifest, key, identity, invite, hcall, hplace, hmints, hnone⟩ := hguard
      have hle : input.now ≤ t := ht _ List.mem_cons_self input (by rw [hcall]; rfl)
      exact hone.minted hnet h.agrees hplace hmints hnone hle
    · exact hone.of_issued hissued
  · refine h.asks.advanced hp ?_ ?_
    · intro hself
      exact asks_of_self hnet h.agrees hself hcondition hguard hchanges
    · intro pid' hne call hist hother
      exact asks_of_other hne hother hguard heffect
  · intro pid' hlock
    by_cases hpid : pid' = pid
    · rw [hpid, Config.procs_advanced_self]
      simp
    · rw [Config.procs_advanced_of_ne hpid]
      rcases lock_of_changes hchanges hlock with hheld | ⟨heq, -⟩
      · exact h.held pid' hheld
      · exact absurd heq hpid

theorem Consistent.stopped (h : Consistent params c) (pid : ℕ) :
    Consistent params (c.stopped (machine params) pid) := by
  have hlock : ∀ pid', (released pid c.state).lock = some pid' →
      c.state.lock = some pid' ∧ pid' ≠ pid := by
    intro pid' hlock
    unfold released at hlock
    split at hlock
    · cases hlock
    · rename_i hother
      exact ⟨hlock, fun heq => hother (heq ▸ hlock)⟩
  have hsame : ∃ lock, released pid c.state = { c.state with lock } := by
    unfold released
    split
    · exact ⟨none, rfl⟩
    · exact ⟨c.state.lock, rfl⟩
  obtain ⟨lock, hreleased⟩ := hsame
  refine ⟨?_, ?_, ?_, ?_⟩
  · show Agrees params (released pid c.state)
    rw [hreleased]
    exact ⟨h.agrees.hex, h.agrees.valid, h.agrees.issued⟩
  · intro t ht
    show OneUsable (released pid c.state) t
    rw [hreleased]
    exact h.one t ht
  · apply h.asks.stopped
    intro pid' _ call hist hasks hheld
    apply (hasks (hlock pid' hheld).1).of_issued
    show ∀ record ∈ (released pid c.state).invites.files, _
    rw [hreleased]
    exact fun _ hmem _ => hmem
  · intro pid' hheld
    obtain ⟨hbefore, hne⟩ := hlock pid' hheld
    simp only [Config.stopped, Function.update_of_ne hne]
    exact h.held pid' hbefore

theorem consistent_of_run (hnet : params.env.net.Lawful)
    (hrun : Run (machine params) ResumesAsked (Config.idle HostSite.fresh) c) :
    Consistent params c ∧ PoolGuarded (protocol params True fun _ _ _ => True) c := by
  refine hrun.invariant (I := Consistent params) ?_ (fun _ _ _ => ensures_program) ?_ ?_ ?_ ?_
  · refine ⟨?_, ?_, .idle, ?_⟩
    · constructor <;> simp [Config.idle, HostSite.fresh, Directory.empty]
    · intro t _ generation left hleft
      simp [Config.idle, HostSite.fresh, Directory.empty] at hleft
    · simp [Config.idle, HostSite.fresh]
  · intro c pid process action rest choice _ hasked hp hprog
    show Assumed True (fun _ _ _ => True) process.call action choice c.state
    exact assumed_of (fun _ _ _ => trivial) fun hcancels _ =>
      (hasked.condition hp hprog).2 hcancels
  · intro c pid call _ h _ hfree
    refine ⟨h.agrees, h.one, h.asks.started ?_, ?_⟩
    · intro hlock
      exact absurd hfree (h.held pid hlock)
    · intro pid' hlock
      have hheld := h.held pid' hlock
      have hne : pid' ≠ pid := fun heq => hheld (heq ▸ hfree)
      simp only [Config.started, Function.update_of_ne hne]
      exact hheld
  · intro c pid process action rest choice reply state _ h hasked hp hprog hguard heffect _
    exact h.advanced hnet (hasked.condition hp hprog).1 hp hguard heffect
  · intro c pid process _ h _ _
    exact h.stopped pid

/-- **Where host runs hand out one matching invite.** In every run whose calls ask for the duration
of the invites they find, and in which cancellations wait for the lock, at most one invite of each
generation can be used, and a call that succeeds and asks for an invite returns an
issued, unexpired one for what is in place, with the duration it asks for. -/
theorem one_matching_invite (hnet : params.env.net.Lawful)
    (hrun : Run (machine params) ResumesAsked (Config.idle HostSite.fresh) c) :
    (∀ t, Reached c.log t → OneUsable c.state t) ∧
      ∀ pid process input result, c.procs pid = some process → process.call = .apply input →
        reported c pid = some result → input.noInvite = false →
        c.state.manifest = some result.manifest ∧ c.state.hostKey = some result.hostPublicKey ∧
        (∃ identity ∈ c.state.identity, identity.pin = result.pin) ∧
        ∃ record ∈ c.state.invites.files, result.invite = some record.toInvite ∧
          record.status = .issued ∧ inviteExpired record input.now = false ∧
          Matches params result.manifest result.hostPublicKey result.pin record.toInvite ∧
          Lasts input record.toInvite := by
  obtain ⟨h, hguarded⟩ := consistent_of_run hnet hrun
  refine ⟨h.one, ?_⟩
  intro pid process input result hp hcall hreported hasks
  obtain ⟨found, input', hp', hcall', hreports⟩ := reports_of_poolGuarded hguarded hreported
  obtain rfl : found = process := Option.some.inj (hp'.symm.trans hp)
  obtain rfl : input' = input := by
    rw [hcall] at hcall'
    cases hcall'
    rfl
  obtain ⟨identity, hplace, hpin, -⟩ := hreports.inPlace
  obtain ⟨invite, hinvite, hhands⟩ := hreports.invite hasks
  obtain ⟨record, hmem, hrecord⟩ := hhands trivial
  obtain ⟨htime, hlasts⟩ := h.asks pid found hp hplace.lock input' (by rw [hcall]; rfl) hasks
  refine ⟨hplace.manifest, hplace.hostKey, ⟨identity, hplace.identity, hpin⟩, record, hmem, ?_⟩
  rcases hrecord with ⟨⟨hissued, -, hunexpired⟩, read, hread, rfl⟩ | hmints
  · obtain ⟨manifest, hmanifest, key, hkey, identity', hidentity, hmatches⟩ :=
      h.agrees.issued record hmem hissued
    obtain rfl := Option.some.inj (hmanifest.symm.trans hplace.manifest)
    obtain rfl := Option.some.inj (hkey.symm.trans hplace.hostKey)
    obtain rfl := Option.some.inj (hidentity.symm.trans hplace.identity)
    -- its hosts are canonical, so that it is read as it was stored
    simp only [loadRecord, except_bind_eq_ok] at hread
    obtain ⟨canonical, hcanonical, hread⟩ := hread
    cases hread
    obtain ⟨rfl, -⟩ := canonicalizeStoredInvite_of_isHost hnet
      (isHost_of_canonical hnet hmatches.dataHost) (isHost_of_canonical hnet hmatches.enrollHost)
      hcanonical
    exact ⟨hinvite, hissued, hunexpired, hpin ▸ hmatches, hlasts record hmem hissued hunexpired⟩
  · obtain ⟨rfl, hissued, hmatches, hasked, hunexpired⟩ :=
      of_mints hnet (h.agrees.valid _ hplace.manifest) hmints
    exact ⟨hinvite, hissued, hunexpired htime, hmatches, hasked⟩

end

namespace HostScenario

/-- A run that asks for an invite with a duration in seconds. -/
def asking (seconds : Int) : HostApplyInput :=
  { run "192.0.2.1:2222" 5432 with noInvite := false, authorizationSeconds := seconds }

/-- A first run that mints an invite, from its start until it reports. -/
def minting (pid : ℕ) (seconds : Int) : List ApplyMove :=
  reporting pid (asking seconds) ++ steps pid 4

/-- A later run that finds an invite, from its start until it reports. -/
def resuming (pid : ℕ) (seconds : Int) : List ApplyMove :=
  reporting pid (asking seconds) ++ steps pid 2

end HostScenario

/-- A second run that asks for the duration of the first one is given the invite that the first one
minted. -/
theorem one_matching_invite_of_repeated_run :
    ∃ c result, Run (machine HostScenario.params) ResumesAsked (Config.idle HostSite.fresh) c ∧
      reported c 2 = some result ∧ (∀ t, Reached c.log t → OneUsable c.state t) ∧
      ∃ record ∈ c.state.invites.files, result.invite = some record.toInvite ∧
        record.status = .issued ∧
        Matches HostScenario.params result.manifest result.hostPublicKey result.pin
          record.toInvite ∧ Lasts (HostScenario.asking 3600) record.toInvite := by
  obtain ⟨c, hrun, hcall, hreported⟩ := Run.exists_of_runMoves
    (M := machine HostScenario.params) (D := ResumesAsked) (c := Config.idle HostSite.fresh)
    (p := fun c => (c.procs 2).bind (·.call.input) = some (HostScenario.asking 3600) ∧
      (reported c 2).isSome)
    (HostScenario.minting 1 3600 ++ HostScenario.steps 1 2 ++ HostScenario.resuming 2 3600)
    (by decide +kernel)
  obtain ⟨process, hp, hinput⟩ := Option.bind_eq_some_iff.1 hcall
  have hcall : process.call = .apply (HostScenario.asking 3600) := by
    cases hprocess : process.call <;> simp_all [ApplyCall.input]
  obtain ⟨result, hreported⟩ := Option.isSome_iff_exists.1 hreported
  obtain ⟨hone, hreturns⟩ := one_matching_invite DottedNet.lawful hrun
  obtain ⟨-, -, -, record, hmem, hinvite, hissued, -, hmatches, hlasts⟩ :=
    hreturns 2 process _ result hp hcall hreported rfl
  exact ⟨c, result, hrun, hreported, hone, record, hmem, hinvite, hissued, hmatches, hlasts⟩

/-- **Host runs may hand out an invite that was not asked for.** A run that asks for two hours
resumes the invite that an earlier one minted for one hour. And an invite that is cancelled while a
run is about to return it is returned, although nothing of it can be used any more. -/
theorem other_invite_handed_out :
    (∃ c, Run (machine HostScenario.params) (fun _ _ => True) (Config.idle HostSite.fresh) c ∧
      ∃ result ∈ reported c 2, (c.procs 2).bind (·.call.input) = some (HostScenario.asking 7200) ∧
        ∃ invite ∈ result.invite, invite.authorizationDurationSeconds = 3600) ∧
    ∃ c, Run (machine HostScenario.params) (fun _ _ => True) (Config.idle HostSite.fresh) c ∧
      ∃ result ∈ reported c 2, ∃ invite ∈ result.invite, ∃ record ∈ c.state.invites.files,
        record.inviteID = invite.inviteID ∧ record.status = .cancelled := by
  refine ⟨?_, ?_⟩
  · exact Run.exists_of_runMoves
      (HostScenario.minting 1 3600 ++ HostScenario.steps 1 2 ++ HostScenario.resuming 2 7200)
      (by decide +kernel)
  · -- the cancellation is one step of another process
    exact Run.exists_of_runMoves
      (HostScenario.minting 1 3600 ++ HostScenario.steps 1 2 ++ HostScenario.resuming 2 3600 ++
        .start 3 (.cancel plainHex.text Scenario.now) :: HostScenario.steps 3 1) (by decide +kernel)

end WarpTweet.HostApply
