import WarpTweet.Analysis.HostSteps

/-!
# The invites of a host run, and the guards of every call

The search for an invite that can be resumed, the minting of a new one, and the result: every call
of the host follows `HostApply.protocol`.
-/

set_option autoImplicit false

namespace WarpTweet.HostApply

open Strings Concurrency Storage

/-! ## The search -/

/-- What the search finds: every invite that can be used, and nothing else if nobody interferes. -/
structure Found (env : Env) (quiet : Prop) (generation : Nat) (now : Time) (issued : List Record)
    (s : HostSite) : Prop where
  all : ∀ record, Listed s record → Usable generation now record →
    ∃ read ∈ issued, loadRecord env record = .ok read
  only : quiet → ∀ read ∈ issued, ∃ record, Listed s record ∧ Usable generation now record ∧
    loadRecord env record = .ok read

/-- The loop of the search, with `kept` found and `left` still to be looked at. -/
structure Sifts (env : Env) (quiet : Prop) (generation : Nat) (now : Time) (records : List Record)
    (left kept : List Record) (s : HostSite) : Prop where
  all : ∀ record, Listed s record → Usable generation now record →
    ∃ read ∈ kept ++ left, loadRecord env record = .ok read
  only : quiet → ∀ read ∈ kept ++ left, Usable generation now read →
    ∃ record, Listed s record ∧ loadRecord env record = .ok read
  usable : ∀ read ∈ kept, Usable generation now read
  records : ∀ read ∈ kept ++ left, read ∈ records

variable {params : HostParams} {quiet : Prop} {s : HostSite}
  {sees : HostApplyInput → HostAddresses → Option ServerConfig → Prop}
  {net : NetIP} {listing : HostSite} {result : HostApplyResult} {pid : ℕ}

section

variable {env : Env} {generation : Nat} {now : Time} {records left kept : List Record}
  {item : Record} {s' : HostSite}

theorem Keeps.sifts (hkeep : Keeps net quiet s s')
    (h : Sifts env quiet generation now records left kept s) :
    Sifts env quiet generation now records left kept s' := by
  refine ⟨?_, ?_, h.usable, h.records⟩
  · rintro record ⟨hmem, hhex⟩ husable
    exact h.all record ⟨hkeep.issued record hmem husable.1, hhex⟩ husable
  · intro hquiet read hmem husable
    obtain ⟨record, hlisted, hread⟩ := h.only hquiet read hmem husable
    refine ⟨record, ?_, hread⟩
    rw [Listed, hkeep.unchanged hquiet]
    exact hlisted

theorem Sifts.skip (h : Sifts env quiet generation now records (item :: left) kept s)
    (hitem : ¬ Usable generation now item) :
    Sifts env quiet generation now records left kept s := by
  have hmem : ∀ read, read ∈ kept ++ left → read ∈ kept ++ item :: left := by
    intro read hread
    rw [List.mem_append] at hread ⊢
    exact hread.imp_right (List.mem_cons_of_mem _)
  refine ⟨?_, fun hquiet read hread => h.only hquiet read (hmem read hread), h.usable,
    fun read hread => h.records read (hmem read hread)⟩
  intro record hlisted husable
  obtain ⟨read, hread, hload⟩ := h.all record hlisted husable
  refine ⟨read, ?_, hload⟩
  have hne : read ≠ item := by
    rintro rfl
    exact hitem ((usable_loadRecord hload generation now).2 husable)
  rw [List.mem_append, List.mem_cons] at hread
  rw [List.mem_append]
  exact hread.imp_right fun hread => hread.resolve_left hne

theorem Sifts.keep (h : Sifts env quiet generation now records (item :: left) kept s)
    (hitem : Usable generation now item) :
    Sifts env quiet generation now records left (kept ++ [item]) s := by
  have happend : kept ++ item :: left = (kept ++ [item]) ++ left := by simp
  refine ⟨happend ▸ h.all, happend ▸ h.only, ?_, happend ▸ h.records⟩
  intro read hread
  rcases List.mem_append.1 hread with hread | hread
  · exact h.usable read hread
  · rw [List.mem_singleton.1 hread]
    exact hitem

theorem eq_of_inviteID (hrecords : listRecords env listing = .ok records)
    {read other : Record} (hread : read ∈ records) (hother : other ∈ records)
    (hid : read.inviteID = other.inviteID) : read = other := by
  obtain ⟨record, hlisted, hload⟩ := (mem_of_listRecords hrecords).2 read hread
  obtain ⟨record', hlisted', hload'⟩ := (mem_of_listRecords hrecords).2 other hother
  have hsame : record.inviteID = record'.inviteID := by
    obtain ⟨_, _, rfl⟩ := of_loadRecord hload
    obtain ⟨_, _, rfl⟩ := of_loadRecord hload'
    exact hid
  rw [← Directory.eq_of_key_eq hlisted.1 hlisted'.1 hsame] at hload'
  exact Except.ok.inj (hload.symm.trans hload')

theorem Sifts.expire (hrecords : listRecords env listing = .ok records)
    (h : Sifts env quiet generation now records (item :: left) kept s)
    (hitem : ¬ Usable generation now item) : Sifts env quiet generation now records left kept
      { s with invites := s.invites.put { item with status := .expired } } := by
  have hskip := h.skip hitem
  have hin : item ∈ records := h.records item (by simp)
  refine ⟨?_, ?_, hskip.usable, hskip.records⟩
  · rintro record ⟨hmem, hhex⟩ husable
    rcases Directory.mem_files_put.1 hmem with rfl | ⟨hmem, -⟩
    · exact absurd husable.1 (by simp)
    · exact hskip.all record ⟨hmem, hhex⟩ husable
  · intro hquiet read hread husable
    obtain ⟨record, hlisted, hload⟩ := hskip.only hquiet read hread husable
    refine ⟨record, ⟨Directory.mem_files_put.2 (.inr ⟨hlisted.1, ?_⟩), hlisted.2⟩, hload⟩
    intro hid
    have hid' : read.inviteID = item.inviteID := by
      obtain ⟨_, _, rfl⟩ := of_loadRecord hload
      exact hid
    rw [eq_of_inviteID hrecords (hskip.records read hread) hin hid'] at husable
    exact hitem husable

end

section

variable {pid : ℕ} {call : ApplyCall} {hist : List (Step ApplyAction ApplyChoice ApplyAction.Reply)}
  {I : HostSite → Prop}

theorem Stable.unusedIssuedForGeneration (h : Stable params.env.net quiet pid I) (hI : I s)
    (hput : ∀ s record, I s → I { s with invites := s.invites.put record }) {generation : Nat}
    {now : Time} : Yields (protocol params quiet sees) pid call
      (HostApply.unusedIssuedForGeneration generation now) hist s
      fun issued _ s => I s ∧ Found params.env quiet generation now issued s := by
  refine Yields.bind (h.listInvites hI) fun records hist listing hlisting => ?_
  obtain ⟨hI, hrecords⟩ := hlisting
  obtain ⟨hall, honly⟩ := mem_of_listRecords hrecords
  have hstart : Sifts params.env quiet generation now records records [] listing := by
    refine ⟨fun record hlisted _ => hall record hlisted, fun _ read hread _ => honly read hread,
      by simp, fun read hread => hread⟩
  have hloop : Yields (protocol params quiet sees) pid call
      (.fold (fun issued record =>
        if record.status ≠ .issued ∨ record.publishedEndpointGeneration ≠ generation then
          pure issued
        else if inviteExpired record now then
          (HostApply.perform (.writeInvite { record with status := .expired })).bind fun _ =>
            pure issued
        else pure (issued ++ [record])) records []) hist listing
      fun issued _ s => I s ∧ Sifts params.env quiet generation now records [] issued s := by
    refine yields_fold (I := fun left kept s =>
      I s ∧ Sifts params.env quiet generation now records left kept s) ⟨hI, hstart⟩ ?_
    rintro item left kept hist s ⟨hI, hsifts⟩
    refine Yields.ite (fun hother => ?_) fun hmatch => Yields.ite (fun hexpired => ?_) fun hdue => ?_
    · refine yields_done ⟨hI, hsifts.skip fun husable => ?_⟩
      rcases hother with hother | hother
      · exact hother husable.1
      · exact hother husable.2.1
    · have hitem : ¬ Usable generation now item := by
        rintro ⟨-, -, husable⟩
        rw [hexpired] at husable
        cases husable
      have hboth : Stable params.env.net quiet pid fun s =>
          I s ∧ Sifts params.env quiet generation now records (item :: left) kept s :=
        h.and fun hkeep _ hs => hkeep.sifts hs
      have hhex : isHexID item.inviteID = true := by
        obtain ⟨record, hlisted, hload⟩ := honly item (hsifts.records item (by simp))
        obtain ⟨_, _, rfl⟩ := of_loadRecord hload
        exact hlisted.2
      have hwrite : Yields (protocol params quiet sees) pid call
          (HostApply.perform (.writeInvite { item with status := .expired })) hist s fun _ _ s =>
            I s ∧ Sifts params.env quiet generation now records left kept s := by
        refine hboth.perform ⟨hI, hsifts⟩ fun choice s₁ reply s₂ h₁ _ heffect =>
          ⟨⟨h.lock h₁.1, rfl, hhex⟩, ?_⟩
        rcases (ApplyChoice.write_eq (Option.some.inj heffect)).1 with rfl | rfl
        · exact ⟨h₁.1, h₁.2.skip hitem⟩
        · exact ⟨hput _ _ h₁.1, h₁.2.expire hrecords hitem⟩
      exact Yields.bind hwrite fun _ hist s hs => yields_done hs
    · refine yields_done ⟨hI, hsifts.keep ⟨?_, ?_, ?_⟩⟩
      · exact not_not.1 fun hne => hmatch (.inl hne)
      · exact not_not.1 fun hne => hmatch (.inr hne)
      · exact Bool.eq_false_iff.2 hdue
  refine hloop.mono fun issued hist s hs => ⟨hs.1, ?_, ?_⟩
  · intro record hlisted husable
    obtain ⟨read, hread, hload⟩ := hs.2.all record hlisted husable
    exact ⟨read, by simpa using hread, hload⟩
  · intro hquiet read hread
    have husable := hs.2.usable read hread
    obtain ⟨record, hlisted, hload⟩ := hs.2.only hquiet read (by simpa using hread) husable
    exact ⟨record, hlisted, (usable_loadRecord hload generation now).1 husable, hload⟩

/-! ## The invite of a run -/

/-- What a run has established when it turns to the invite. -/
def Served (params : HostParams) (pid : ℕ) (manifest : ServerConfig) (hostPublicKey : Text)
    (identity : EnrollmentIdentity) (s : HostSite) : Prop :=
  (InPlace pid manifest hostPublicKey identity s ∧
    s.applied = some ⟨params.networkSHA256 manifest.network, identity.leaf⟩) ∧ Listening manifest s

variable {manifest : ServerConfig} {hostPublicKey : Text} {identity : EnrollmentIdentity}
  {input : HostApplyInput}

theorem Served.stable :
    Stable params.env.net quiet pid (Served params pid manifest hostPublicKey identity) := by
  refine (InPlace.stable.and fun hkeep _ hs => ?_).and fun hkeep hs hlisten => ?_
  · exact hkeep.applied.trans hs
  · exact hkeep.listening hs.1.manifest hlisten

theorem Served.put (h : Served params pid manifest hostPublicKey identity s) (record : Record) :
    Served params pid manifest hostPublicKey identity
      { s with invites := s.invites.put record } := by
  obtain ⟨⟨hplace, happlied⟩, hlisten⟩ := h
  exact ⟨⟨⟨hplace.lock, hplace.manifest, hplace.hostKey, hplace.identity⟩, happlied⟩,
    hlisten.dataPlane, hlisten.enrollment⟩

theorem Keeps.handsOut {pin : Text} {invite : Invite} {s' : HostSite} (hkeep : Keeps net quiet s s')
    (h : quiet → HandsOut params input manifest hostPublicKey pin invite s) (hquiet : quiet) :
    HandsOut params input manifest hostPublicKey pin invite s' := by
  obtain ⟨record, hmem, hrecord⟩ := h hquiet
  exact ⟨record, (hkeep.unchanged hquiet).symm ▸ hmem, hrecord⟩

theorem Stable.loadIssuedBlob (h : Stable params.env.net quiet pid I) (hI : I s) {inviteID : Text} :
    Yields (protocol params quiet sees) pid call
      (HostApply.attempt (.loadIssuedBlob inviteID) rfl) hist s fun _ _ s => I s := by
  refine h.attempt hI fun choice s₁ reply s₂ hI₁ _ heffect => ⟨trivial, fun _ _ => ?_⟩
  cases heffect
  exact hI₁

/-- **The invite of a run.** One that can be used is resumed, and a new one is stored only if there
is none. -/
theorem yields_resumeOrMintInvite (hcall : call = .apply input)
    (hserved : Served params pid manifest hostPublicKey identity s) :
    Yields (protocol params quiet sees) pid call
      (resumeOrMintInvite params input manifest hostPublicKey identity.pin) hist s
      fun result _ s => Served params pid manifest hostPublicKey identity s ∧
        (quiet → HandsOut params input manifest hostPublicKey identity.pin result.1 s) := by
  unfold resumeOrMintInvite
  simp only [Prog.bind_eq]
  have hdone : ∀ invite, Stable params.env.net quiet pid fun s =>
      Served params pid manifest hostPublicKey identity s ∧
        (quiet → HandsOut params input manifest hostPublicKey identity.pin invite s) :=
    fun invite => Served.stable.and fun hkeep _ hs => hkeep.handsOut hs
  refine Yields.bind (Served.stable.unusedIssuedForGeneration hserved fun _ record hs =>
    hs.put record) fun issued hist s hs => ?_
  obtain ⟨hserved, hfound⟩ := hs
  rcases issued with _ | ⟨read, _ | ⟨other, issued⟩⟩
  · have hnone : ∀ other, Listed s other → ¬ Usable
        manifest.network.publishedEndpointGeneration.toNat input.now other := by
      intro other hlisted husable
      obtain ⟨read, hread, -⟩ := hfound.all other hlisted husable
      cases hread
    have hempty : Stable params.env.net quiet pid fun s =>
        Served params pid manifest hostPublicKey identity s ∧ ∀ other, Listed s other →
          ¬ Usable manifest.network.publishedEndpointGeneration.toNat input.now other := by
      refine Served.stable.and fun hkeep _ hs other hlisted husable => ?_
      exact hs other ⟨hkeep.issued other hlisted.1 husable.1, hlisted.2⟩ husable
    have hrandom : Yields (protocol params quiet sees) pid call
        (HostApply.perform .random) hist s fun _ _ s =>
          Served params pid manifest hostPublicKey identity s ∧ ∀ other, Listed s other →
            ¬ Usable manifest.network.publishedEndpointGeneration.toNat input.now other := by
      refine hempty.perform ⟨hserved, hnone⟩ fun choice s₁ reply s₂ h₁ _ heffect => ⟨trivial, ?_⟩
      cases heffect
      exact h₁
    refine Yields.bind hrandom ?_
    rintro ⟨nonce, inviteID, clock⟩ hist s hs
    refine Yields.bind (yields_ofExcept (Q := fun minted _ s' => mintServerInvite params.env
      params.install input.label input.target manifest hostPublicKey identity.pin
      input.authorizationSeconds input.now nonce inviteID clock = .ok minted ∧ s' = s)
      fun minted hminted => ⟨hminted, rfl⟩) ?_
    rintro ⟨invite, record⟩ hist s' ⟨hminted, rfl⟩
    have hmints : Mints params input manifest hostPublicKey identity.pin invite record :=
      ⟨nonce, inviteID, clock, hminted⟩
    have hstored : Yields (protocol params quiet sees) pid call
        (HostApply.attempt (.storeInvite record) rfl) hist s' fun _ _ s =>
          Served params pid manifest hostPublicKey identity s ∧
            (quiet → HandsOut params input manifest hostPublicKey identity.pin invite s) := by
      refine hempty.attempt hs fun choice s₁ reply s₂ h₁ _ heffect => ?_
      refine ⟨⟨input, manifest, hostPublicKey, identity, invite, hcall, h₁.1.1.1, hmints, h₁.2⟩,
        fun value hvalue => ?_⟩
      simp only [effect] at heffect
      split at heffect
      · obtain ⟨-, rfl⟩ := (ApplyChoice.write_eq (Option.some.inj heffect)).2 value hvalue
        refine ⟨h₁.1.put record, fun _ => ⟨record, ?_, .inr hmints⟩⟩
        exact Directory.mem_files_put.2 (.inl rfl)
      · cases heffect
        cases hvalue
    refine Yields.bind hstored fun _ hist s hs => ?_
    refine Yields.bind ((hdone invite).loadIssuedBlob hs) fun _ hist s hs => ?_
    exact yields_done hs
  · have hresumed : quiet →
        HandsOut params input manifest hostPublicKey identity.pin read.toInvite s := by
      intro hquiet
      obtain ⟨record, hlisted, husable, hload⟩ :=
        hfound.only hquiet read List.mem_cons_self
      exact ⟨record, hlisted.1, .inl ⟨husable, read, hload, rfl⟩⟩
    refine Yields.bind ((hdone read.toInvite).loadIssuedBlob ⟨hserved, hresumed⟩)
      fun _ hist s hs => ?_
    exact yields_done hs
  · exact yields_fail

theorem yields_inviteFor (hcall : call = .apply input)
    (hserved : Served params pid manifest hostPublicKey identity s) :
    Yields (protocol params quiet sees) pid call
      (inviteFor params input manifest hostPublicKey identity.pin) hist s
      fun invite _ s => Served params pid manifest hostPublicKey identity s ∧
        (input.noInvite = false → ∃ found, invite = some found ∧
          (quiet → HandsOut params input manifest hostPublicKey identity.pin found s)) := by
  refine Yields.ite (fun hno => ?_) fun _ => ?_
  · refine yields_done ⟨hserved, fun hask => ?_⟩
    rw [hno] at hask
    cases hask
  · refine Yields.bind (yields_resumeOrMintInvite hcall hserved) fun result hist s hs => ?_
    exact yields_done ⟨hs.1, fun _ => ⟨result.1, rfl, hs.2⟩⟩

/-! ## Whole calls -/

theorem yields_applyHostConfiguration (hcall : call = .apply input) (hlock : s.lock = some pid) :
    Yields (protocol params quiet sees) pid call (applyHostConfiguration params input) hist s
      fun result _ s => Reports params quiet pid input result s := by
  unfold applyHostConfiguration
  simp only [Prog.bind_eq]
  have hheld : Stable params.env.net quiet pid fun s => s.lock = some pid :=
    ⟨fun h => h, fun hkeep h => hkeep.lock.trans h⟩
  refine Yields.bind (hheld.loadManifest hlock) fun stored hist s hs => ?_
  have hloaded : Stable params.env.net quiet pid fun s => s.lock = some pid ∧
      loadManifestAt params.env.net s = .ok stored :=
    hheld.and fun hkeep _ hs => hkeep.loadManifestAt.trans hs
  have haddresses : Yields (protocol params quiet sees) pid call
      (HostApply.perform .addresses) hist s fun host _ s => s.lock = some pid ∧
        loadManifestAt params.env.net s = .ok stored ∧ sees input host s.manifest := by
    refine hloaded.perform hs fun choice s₁ reply s₂ h₁ hassume heffect => ⟨trivial, ?_⟩
    subst hcall
    cases heffect
    exact ⟨h₁.1, h₁.2, hassume⟩
  refine Yields.bind haddresses fun host hist s hs => ?_
  refine Yields.bind (yields_ofExcept (Q := fun publication _ s' =>
    resolveHostPublication params.env.net params.texts input.flags stored host = .ok publication ∧
      s' = s) fun publication hresolve => ⟨hresolve, rfl⟩) ?_
  rintro publication hist s' ⟨hresolve, rfl⟩
  refine Stable.prepares hs fun hostPublicKey pin hist s hprepared => ?_
  refine Yields.bind (Prepared.stable.refuseHostTargetChangeAt hprepared fun s hs => hs.loads)
    fun _ hist s hs => ?_
  refine Yields.bind (yields_ofExcept (Q := fun proposed _ s' =>
    proposeNetwork params.env.net publication (stored.map (·.network)) = .ok proposed ∧ s' = s)
    fun proposed hpropose => ⟨hpropose, rfl⟩) ?_
  rintro ⟨network, changed⟩ hist s' ⟨hpropose, rfl⟩
  have hcleared : Stable params.env.net quiet pid fun s =>
      Prepared params sees pid input stored host hostPublicKey pin s ∧ ∀ existing ∈ stored,
        storedTarget existing ≠ (some input.target.1, input.target.2) → NoneIssued s :=
    Prepared.stable.and fun hkeep _ hs existing hmem hne => hkeep.noneIssued (hs existing hmem hne)
  refine Yields.bind (hcleared.refusePublishedLocatorChangeAt hs) fun _ hist s hs => ?_
  refine Yields.bind (Stable.writeHostManifestNetwork hresolve hpropose hs hcall) ?_
  rintro manifest hist s ⟨hmanifest, identity, rfl, hplace⟩
  obtain ⟨hnetwork, htarget, hvalid⟩ := of_hostManifest hmanifest
  obtain ⟨generation, rfl⟩ := of_proposeNetwork hpropose
  have hdata : publication.dataListen = manifest.network.data.listen := by rw [hnetwork]; rfl
  have henroll : publication.enrollListen = manifest.network.enrollment.listen := by
    rw [hnetwork]; rfl
  refine Yields.bind (yields_applyServices hplace hvalid hdata henroll) fun _ hist s hs => ?_
  refine Yields.bind (yields_inviteFor hcall hs) fun invite hist s hs => ?_
  obtain ⟨⟨⟨hplace, happlied⟩, hlisten⟩, hinvite⟩ := hs
  exact yields_done ⟨⟨identity, hplace, rfl, happlied⟩, htarget, hlisten, hinvite⟩

theorem Reports.stable :
    Stable params.env.net quiet pid (Reports params quiet pid input result) := by
  refine ⟨fun h => ?_, fun hkeep h => ?_⟩
  · obtain ⟨_, hplace, -⟩ := h.inPlace
    exact hplace.lock
  · obtain ⟨identity, hplace, hpin, happlied⟩ := h.inPlace
    refine ⟨⟨identity, InPlace.stable.keeps hkeep hplace, hpin, hkeep.applied.trans happlied⟩,
      h.target, hkeep.listening hplace.manifest h.listening, fun hask => ?_⟩
    obtain ⟨invite, heq, hout⟩ := h.invite hask
    exact ⟨invite, heq, hkeep.handsOut hout⟩

/-- What follows the protocol while the lock is held follows it under the lock. -/
theorem yields_withHostLock {wait : Bool} {body : ApplyProg Unit}
    (hbody : ∀ {hist s}, s.lock = some pid →
      Yields (protocol params quiet sees) pid call body hist s fun _ _ _ => True) :
    Yields (protocol params quiet sees) pid call (withHostLock wait body) [] s
      fun _ _ _ => True := by
  have hlock : Yields (protocol params quiet sees) pid call (HostApply.perform (.lock wait)) [] s
      fun acquired _ s => acquired = true → s.lock = some pid := by
    refine yields_perform fun s₁ _ choice reply s₂ _ heffect => ⟨trivial, ?_⟩
    have heffect' : effect params pid (.lock wait) choice s₁ = some (reply, s₂) := heffect
    simp only [effect] at heffect'
    split at heffect'
    · cases heffect'
      exact fun _ => rfl
    · split at heffect'
      · cases heffect'
      · cases heffect'
        intro hacquired
        cases hacquired
  refine Yields.bind (N := fun _ _ s => s.lock = some pid) (Yields.bind hlock ?_)
    fun _ hist s hs => ?_
  · intro acquired hist s hs
    cases acquired with
    | false => exact yields_fail
    | true => exact yields_done (hs rfl)
  · refine Yields.bind (hbody hs).attempt fun outcome hist s _ => ?_
    refine Yields.bind (yields_perform (Q := fun _ _ _ => True)
      fun _ _ _ _ _ _ _ => ⟨trivial, trivial⟩) fun _ hist s _ => ?_
    exact yields_ofExcept fun _ _ => trivial

/-- **Every call follows the protocol.** -/
theorem guarded_program (params : HostParams) (quiet : Prop)
    (sees : HostApplyInput → HostAddresses → Option ServerConfig → Prop) (pid : ℕ)
    (call : ApplyCall) (s : HostSite) :
    Yields (protocol params quiet sees) pid call (program params call) [] s
      fun _ _ _ => True := by
  cases call with
  | apply input =>
    refine yields_withHostLock fun hs => ?_
    refine Yields.bind (yields_applyHostConfiguration rfl hs) fun result hist s hs => ?_
    exact Reports.stable.perform hs fun choice s₁ reply s₂ h₁ _ _ => ⟨⟨input, rfl, h₁⟩, trivial⟩
  | accept inviteID clientID now =>
    refine yields_withHostLock fun {hist s} hs s₁ hrely choice reply s₂ _ _ => ?_
    exact ⟨(hrely hs).lock.trans hs, yields_ofExcept fun _ _ => trivial⟩
  | cancel inviteID now =>
    intro s₁ _ choice reply s₂ hassume _
    exact ⟨hassume, yields_ofExcept fun _ _ => trivial⟩
  | services dataPlane enrollment =>
    exact yields_perform fun _ _ _ _ _ _ _ => ⟨trivial, trivial⟩

end

/-! ## Whole runs -/

/-- The result that a call is about to report: `applyHostConfiguration` has returned it without an
error, and the call still holds the lock. -/
def reported (c : ApplyPool) (pid : ℕ) : Option HostApplyResult :=
  match c.upcoming pid with
  | some (_, .report result) => some result
  | _ => none

theorem length_plainHex : (List.replicate 32 'a').length = 32 := rfl

theorem hex_plainHex (c : Char) (hc : c ∈ List.replicate 32 'a') :
    c.isDigit = true ∨ 'a' ≤ c ∧ c ≤ 'f' := by
  rw [List.eq_of_mem_replicate hc]
  decide

/-- Sixteen equal bytes. -/
def plainHex : RandomHex where
  text := List.replicate 32 'a'
  length := length_plainHex
  hex := hex_plainHex

/-- An environment in which everything succeeds. -/
def plainChoice : ApplyChoice where
  ok := true
  torn := false
  hostKey := "key".toList
  renew := false
  certificate := ⟨List.replicate 64 '1', List.replicate 64 '0'⟩
  addresses := ⟨.ok none, .error failed⟩
  grants := []
  random := (plainHex, plainHex, 0)

variable {c : ApplyPool}

theorem ensures_program {call : ApplyCall} {s : HostSite} :
    Ensures (protocol params quiet sees) pid call ((machine params).program call) [] s
      ((protocol params quiet sees).Ends pid call) :=
  Ensures.mono (guarded_program params quiet sees pid call s) fun _ _ _ _ => trivial

theorem reports_of_poolGuarded (h : PoolGuarded (protocol params quiet sees) c)
    (hreported : reported c pid = some result) :
    ∃ process input, c.procs pid = some process ∧ process.call = .apply input ∧
      Reports params quiet pid input result c.state := by
  unfold reported at hreported
  split at hreported
  · rename_i process action hupcoming
    cases hreported
    unfold Config.upcoming at hupcoming
    split at hupcoming
    · rename_i found hp
      split at hupcoming
      · rename_i next rest hprog
        cases hupcoming
        obtain ⟨input, hcall, hreports⟩ := h.guard hp hprog
          (show (protocol params quiet sees).Assume pid process.call process.hist (.report result)
            plainChoice c.state from trivial) rfl
        exact ⟨process, input, hp, hcall, hreports⟩
      · cases hupcoming
    · cases hupcoming
  · cases hreported

end WarpTweet.HostApply
