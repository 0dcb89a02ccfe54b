import WarpTweet.Analysis.HostCalls

/-!
# The guards of a host run

One walk through `applyHostConfiguration` that derives the guards of `HostApply.protocol`. At each
point of the program there is a property of the host that the run has established and that the
others keep while it holds the lock; an action is guarded by the property before it.
-/

namespace WarpTweet.HostApply

open Strings Concurrency Storage

/-! ## Documents and listings -/

variable {net : NetIP} {manifest : ServerConfig} {s : HostSite}
  {s' : HostSite} {network : Network} {stored : Option ServerConfig} {target : Addr × Nat}
  {record : Record} {change : String} {pin : Text} {identity : EnrollmentIdentity}
  {restarted : Bool}

section

variable {read : ServerConfig}

/-- A manifest that is read back has its two dial hosts read again, and is otherwise as it was
written. -/
theorem reread_eq_ok (h : manifest.reread net = .ok read) :
    ∃ dataHost enrollHost, manifest.network.data.dial.host.reread net = .ok dataHost ∧
      manifest.network.enrollment.dial.host.reread net = .ok enrollHost ∧
      read =
        { manifest with
          network :=
            { manifest.network with
              data := ⟨manifest.network.data.listen, ⟨dataHost, manifest.network.data.dial.port⟩⟩
              enrollment := ⟨manifest.network.enrollment.listen,
                ⟨enrollHost, manifest.network.enrollment.dial.port⟩⟩ } } := by
  simp only [ServerConfig.reread, except_bind_eq_ok] at h
  obtain ⟨dataHost, hdata, enrollHost, henroll, _, -, hread⟩ := h
  cases hread
  exact ⟨dataHost, enrollHost, hdata, henroll, rfl⟩

theorem of_loadManifestAt (h : loadManifestAt net s = .ok stored) :
    (s.manifest = none ∧ stored = none) ∨
      ∃ written read, s.manifest = some written ∧ written.reread net = .ok read ∧
        stored = some read := by
  unfold loadManifestAt at h
  split at h
  · rename_i hnone
    cases h
    exact .inl ⟨hnone, rfl⟩
  · rename_i written hwritten
    cases hread : written.reread net with
    | error err =>
      rw [hread] at h
      cases h
    | ok read =>
      rw [hread] at h
      cases h
      exact .inr ⟨written, read, hwritten, hread, rfl⟩

theorem reread_of_loadedDataPlane (hmanifest : s.manifest = some manifest)
    (h : loadedDataPlane net s = some read) : manifest.reread net = .ok read := by
  simp only [loadedDataPlane, hmanifest, Option.bind_some] at h
  cases hread : manifest.reread net with
  | ok value =>
    rw [hread] at h
    cases h
    rfl
  | error err =>
    rw [hread] at h
    cases h

theorem eq_of_loadedEnrollment {service : EnrollmentService}
    (h : loadedEnrollment net s = some service) :
    loadedDataPlane net s = some service.manifest ∧ s.identity = some service.identity := by
  simp only [loadedEnrollment, Option.bind_eq_some_iff, Option.map_eq_some_iff] at h
  obtain ⟨manifest, hmanifest, identity, hidentity, rfl⟩ := h
  exact ⟨hmanifest, hidentity⟩

/-- The manifest that a run writes has the network and the target it is asked for, and is valid. -/
theorem of_hostManifest {params : HostParams}
    (h : hostManifest params stored target network = .ok manifest) :
    manifest.network = network ∧ manifest.target = ⟨some target.1, target.2⟩ ∧
      manifest.validate params.env.net = .ok () := by
  simp only [hostManifest, except_bind_eq_ok] at h
  obtain ⟨_, -, _, -, _, hvalid, hmanifest⟩ := h
  cases hmanifest
  exact ⟨rfl, rfl, hvalid⟩

theorem listen_ne_of_validate (h : manifest.validate net = .ok ()) :
    manifest.network.data.listen.addrPort ≠ manifest.network.enrollment.listen.addrPort := by
  simp only [ServerConfig.validate, except_bind_eq_ok, refuseIf_eq_ok] at h
  obtain ⟨_, -, _, -, _, -, _, -, _, -, _, hnetwork, -⟩ := h
  simp only [validateNetwork, except_bind_eq_ok, refuseIf_eq_ok, decide_eq_false_iff_not] at hnetwork
  obtain ⟨_, -, _, -, _, -, _, hkeys, -⟩ := hnetwork
  intro heq
  obtain ⟨haddress, hport⟩ := Prod.mk.inj heq
  exact hkeys (by rw [bindLocatorKey, bindLocatorKey, haddress, hport])

theorem of_proposeNetwork {publication : HostPublication} {stored : Option Network} {changed : Bool}
    (h : proposeNetwork net publication stored = .ok (network, changed)) :
    ∃ generation, network = publication.network generation := by
  unfold proposeNetwork at h
  split at h
  · cases h
    exact ⟨_, rfl⟩
  · dsimp only at h
    split at h
    · cases h
    · split at h
      · cases h
        exact ⟨_, rfl⟩
      · simp only [except_bind_eq_ok] at h
        obtain ⟨next, -, hnext⟩ := h
        cases hnext
        exact ⟨next, rfl⟩

end

section

variable {env : Env} {records : List Record}

/-- An invite record that is loaded is the stored one, up to the spelling of the two hosts. -/
theorem of_loadRecord {read : Record} (h : loadRecord env record = .ok read) :
    ∃ dataHost enrollHost, read =
      { record with
        toInvite :=
          { record.toInvite with
            data := { record.data with host := dataHost }
            enrollment := { record.enrollment with host := enrollHost } } } := by
  simp only [loadRecord, except_bind_eq_ok] at h
  obtain ⟨invite, hinvite, hread⟩ := h
  cases hread
  obtain ⟨dataHost, enrollHost, rfl⟩ := fields_of_canonicalizeStoredInvite hinvite
  exact ⟨dataHost, enrollHost, rfl⟩

theorem usable_loadRecord {read : Record} (h : loadRecord env record = .ok read)
    (generation : Nat) (now : Time) : Usable generation now read ↔ Usable generation now record := by
  obtain ⟨dataHost, enrollHost, rfl⟩ := of_loadRecord h
  rfl

theorem mem_of_mapM {α β : Type} {f : α → Except Err β} {items : List α} {results : List β}
    (h : items.mapM f = .ok results) : (∀ item ∈ items, ∃ result ∈ results, f item = .ok result) ∧
      ∀ result ∈ results, ∃ item ∈ items, f item = .ok result := by
  induction items generalizing results with
  | nil =>
    simp only [List.mapM_nil] at h
    cases h
    simp
  | cons item items ih =>
    simp only [List.mapM_cons, except_bind_eq_ok] at h
    obtain ⟨result, hresult, rest, hrest, hall⟩ := h
    cases hall
    obtain ⟨hsome, hfrom⟩ := ih hrest
    refine ⟨?_, ?_⟩
    · intro other hmem
      rcases List.mem_cons.1 hmem with rfl | hmem
      · exact ⟨result, List.mem_cons_self, hresult⟩
      · obtain ⟨found, hfound, heq⟩ := hsome other hmem
        exact ⟨found, List.mem_cons_of_mem _ hfound, heq⟩
    · intro other hmem
      rcases List.mem_cons.1 hmem with rfl | hmem
      · exact ⟨item, List.mem_cons_self, hresult⟩
      · obtain ⟨found, hfound, heq⟩ := hfrom other hmem
        exact ⟨found, List.mem_cons_of_mem _ hfound, heq⟩

theorem mem_of_listRecords (h : listRecords env s = .ok records) :
    (∀ record, Listed s record → ∃ read ∈ records, loadRecord env record = .ok read) ∧
      ∀ read ∈ records, ∃ record, Listed s record ∧ loadRecord env record = .ok read := by
  obtain ⟨hsome, hfrom⟩ := mem_of_mapM h
  refine ⟨?_, ?_⟩
  · rintro record ⟨hmem, hhex⟩
    exact hsome record (List.mem_filter.2 ⟨hmem, hhex⟩)
  · intro read hmem
    obtain ⟨record, hrecord, heq⟩ := hfrom read hmem
    exact ⟨record, List.mem_filter.1 hrecord, heq⟩

theorem noneIssued_of_refuseWhileInUse {grants : List (Text × ClientStatus)}
    (hlist : listRecords env s = .ok records)
    (h : refuseWhileInUse change grants records = .ok ()) : NoneIssued s := by
  intro record hlisted hissued
  obtain ⟨read, hmem, hread⟩ := (mem_of_listRecords hlist).1 record hlisted
  unfold refuseWhileInUse at h
  split at h
  · cases h
  · split at h
    · cases h
    · rename_i hnone
      have hstatus := List.find?_eq_none.1 hnone read hmem
      obtain ⟨dataHost, enrollHost, rfl⟩ := of_loadRecord hread
      simp [hissued] at hstatus

end

/-! ## Rules for a run that holds the lock -/

/-- A property that a run has while it holds the lock, and that the others keep. -/
structure Stable (net : NetIP) (quiet : Prop) (pid : ℕ) (I : HostSite → Prop) : Prop where
  lock : ∀ {s}, I s → s.lock = some pid
  keeps : ∀ {s s'}, Keeps net quiet s s' → I s → I s'

variable {params : HostParams} {quiet : Prop}
  {sees : HostApplyInput → HostAddresses → Option ServerConfig → Prop} {pid : ℕ} {call : ApplyCall}
  {hist : List (Step ApplyAction ApplyChoice ApplyAction.Reply)} {I J : HostSite → Prop}
  {action : ApplyAction} {stored : Option ServerConfig} {input : HostApplyInput}
  {host : HostAddresses} {hostPublicKey : Text} {publication : HostPublication} {changed : Bool}

section

variable (h : Stable params.env.net quiet pid I)
include h

theorem Stable.and (hJ : ∀ {s s'}, Keeps params.env.net quiet s s' → I s → J s → J s') :
    Stable params.env.net quiet pid fun s => I s ∧ J s :=
  ⟨fun hs => h.lock hs.1, fun hkeep hs => ⟨h.keeps hkeep hs.1, hJ hkeep hs.1 hs.2⟩⟩

theorem Stable.perform (hI : I s) {Q : action.Reply → HostSite → Prop}
    (hstep : ∀ choice s₁ reply s₂, I s₁ → Assumed quiet sees call action choice s₁ →
      effect params pid action choice s₁ = some (reply, s₂) →
      Guarded params quiet sees pid call action s₁ ∧ Q reply s₂) :
    Yields (protocol params quiet sees) pid call (perform action) hist s fun reply _ s =>
      Q reply s := by
  refine yields_perform fun s₁ hrely choice reply s₂ hassume heffect => ?_
  exact hstep choice s₁ reply s₂ (h.keeps (hrely (h.lock hI)) hI) hassume heffect

theorem Stable.attempt (hI : I s) {α : Type}
    {hreply : action.Reply = Except Err α} {Q : α → HostSite → Prop}
    (hstep : ∀ choice s₁ reply s₂, I s₁ → Assumed quiet sees call action choice s₁ →
      effect params pid action choice s₁ = some (reply, s₂) →
      Guarded params quiet sees pid call action s₁ ∧
        ∀ value, hreply ▸ reply = Except.ok value → Q value s₂) :
    Yields (protocol params quiet sees) pid call (attempt action hreply) hist s fun value _ s =>
      Q value s := by
  intro s₁ hrely choice reply s₂ hassume heffect
  obtain ⟨hguard, hQ⟩ := hstep choice s₁ reply s₂ (h.keeps (hrely (h.lock hI)) hI) hassume heffect
  exact ⟨hguard, yields_ofExcept hQ⟩

/-- One action that only reads: what the run has is kept, and `V` holds of the value. -/
theorem Stable.read (hI : I s) {α : Type}
    {hreply : action.Reply = Except Err α} {V : α → HostSite → Prop}
    (hguard : ∀ s, Guarded params quiet sees pid call action s)
    (hread : ∀ choice s₁ reply s₂, effect params pid action choice s₁ = some (reply, s₂) →
      s₂ = s₁ ∧ ∀ value, hreply ▸ reply = Except.ok value → V value s₁) :
    Yields (protocol params quiet sees) pid call (HostApply.attempt action hreply) hist s
      fun value _ s => I s ∧ V value s := by
  refine h.attempt hI fun choice s₁ reply s₂ hI₁ _ heffect => ?_
  obtain ⟨rfl, hV⟩ := hread choice s₁ reply s₂ heffect
  exact ⟨hguard _, fun value hvalue => ⟨hI₁, hV value hvalue⟩⟩

theorem Stable.loadManifest (hI : I s) :
    Yields (protocol params quiet sees) pid call (HostApply.attempt .loadManifest rfl) hist s
      fun stored _ s => I s ∧ loadManifestAt params.env.net s = .ok stored := by
  refine h.read hI (fun _ => trivial) fun choice s₁ reply s₂ heffect => ?_
  cases heffect
  exact ⟨rfl, fun value hvalue => ApplyChoice.read_eq_ok hvalue⟩

theorem Stable.listGrants (hI : I s) :
    Yields (protocol params quiet sees) pid call (HostApply.attempt .listGrants rfl) hist s
      fun _ _ s => I s := by
  have hread : Yields (protocol params quiet sees) pid call
      (HostApply.attempt .listGrants rfl) hist s fun _ _ s => I s ∧ True := by
    refine h.read hI (fun _ => trivial) fun choice s₁ reply s₂ heffect => ?_
    cases heffect
    exact ⟨rfl, fun _ _ => trivial⟩
  exact hread.mono fun _ _ _ hI => hI.1

theorem Stable.listInvites (hI : I s) :
    Yields (protocol params quiet sees) pid call (HostApply.attempt .listInvites rfl) hist s
      fun records _ s => I s ∧ listRecords params.env s = .ok records := by
  refine h.read hI (fun _ => trivial) fun choice s₁ reply s₂ heffect => ?_
  cases heffect
  exact ⟨rfl, fun value hvalue => ApplyChoice.read_eq_ok hvalue⟩

end

theorem Keeps.noneIssued (hkeep : Keeps net quiet s s') (h : NoneIssued s) : NoneIssued s' := by
  rintro record ⟨hmem, hhex⟩ hissued
  exact h record ⟨hkeep.issued record hmem hissued, hhex⟩ hissued

theorem Keeps.loadManifestAt (hkeep : Keeps net quiet s s') :
    loadManifestAt net s' = loadManifestAt net s := by
  simp only [HostApply.loadManifestAt, hkeep.manifest]

/-! ## Before the manifest is written -/

theorem Stable.refuses (h : Stable params.env.net quiet pid I) (hI : I s)
    {grantsError invitesError : Err → Err} : Yields (protocol params quiet sees) pid call
      (((HostApply.attempt .listGrants rfl).mapError grantsError).bind fun grants =>
        ((HostApply.attempt .listInvites rfl).mapError invitesError).bind fun invites =>
          .ofExcept (refuseWhileInUse change grants invites)) hist s
      fun _ _ s => I s ∧ NoneIssued s := by
  refine Yields.bind (h.listGrants hI).mapError fun grants hist s hI => ?_
  refine Yields.bind (h.listInvites hI).mapError fun invites hist s hlist => ?_
  refine yields_ofExcept fun _ hrefuse => ⟨hlist.1, ?_⟩
  exact noneIssued_of_refuseWhileInUse hlist.2 hrefuse

theorem Stable.refuseHostTargetChangeAt (h : Stable params.env.net quiet pid I) (hI : I s)
    (hloads : ∀ s, I s → loadManifestAt params.env.net s = .ok stored) :
    Yields (protocol params quiet sees) pid call
      (HostApply.refuseHostTargetChangeAt params.env.net target) hist s
      fun _ _ s => I s ∧ ∀ existing ∈ stored,
        storedTarget existing ≠ (some target.1, target.2) → NoneIssued s := by
  refine Yields.bind (h.loadManifest hI) fun loaded hist s hloaded => ?_
  -- the second reading finds what the first one found
  obtain rfl : loaded = stored := by
    have heq := (hloads s hloaded.1).symm.trans hloaded.2
    exact (Except.ok.inj heq).symm
  cases loaded with
  | none => exact yields_done ⟨hloaded.1, by simp⟩
  | some existing =>
    refine Yields.ite (fun hsame => ?_) fun _ => ?_
    · refine yields_done ⟨hloaded.1, fun other hother hne => ?_⟩
      cases hother
      exact absurd hsame hne
    · exact (h.refuses hloaded.1).mono fun _ _ _ hs => ⟨hs.1, fun _ _ _ => hs.2⟩

theorem Stable.refusePublishedLocatorChangeAt (h : Stable params.env.net quiet pid I) (hI : I s)
    {publishedChanged : Bool} : Yields (protocol params quiet sees) pid call
      (HostApply.refusePublishedLocatorChangeAt publishedChanged) hist s
      fun _ _ s => I s ∧ (publishedChanged = true → NoneIssued s) := by
  refine Yields.ite (fun _ => ?_) fun hsame => ?_
  · exact (h.refuses hI).mono fun _ _ _ hs => ⟨hs.1, fun _ => hs.2⟩
  · exact yields_done ⟨hI, fun hchanged => absurd hchanged hsame⟩

/-- What a run has established before it writes the manifest, apart from what is issued. -/
structure Prepared (params : HostParams)
    (sees : HostApplyInput → HostAddresses → Option ServerConfig → Prop) (pid : ℕ)
    (input : HostApplyInput) (stored : Option ServerConfig) (host : HostAddresses)
    (hostPublicKey pin : Text) (s : HostSite) : Prop where
  lock : s.lock = some pid
  loads : HostApply.loadManifestAt params.env.net s = .ok stored
  seen : sees input host s.manifest
  hostKey : s.hostKey = some hostPublicKey
  identity : ∃ identity, s.identity = some identity ∧ identity.pin = pin

theorem Prepared.stable : Stable params.env.net quiet pid
      (Prepared params sees pid input stored host hostPublicKey pin) := by
  refine ⟨fun h => h.lock, fun hkeep h => ?_⟩
  refine ⟨hkeep.lock.trans h.lock, hkeep.loadManifestAt.trans h.loads, ?_,
    hkeep.hostKey.trans h.hostKey, ?_⟩
  · rw [hkeep.manifest]
    exact h.seen
  · rw [hkeep.identity]
    exact h.identity

theorem Stable.prepares
    (h : s.lock = some pid ∧ HostApply.loadManifestAt params.env.net s = .ok stored ∧
      sees input host s.manifest) {f : Err → Err}
    {next : Text → Text → ApplyProg HostApplyResult} {Q : HostApplyResult → HostSite → Prop}
    (hnext : ∀ hostPublicKey pin hist s,
      Prepared params sees pid input stored host hostPublicKey pin s →
      Yields (protocol params quiet sees) pid call (next hostPublicKey pin) hist s
        fun value _ s => Q value s) : Yields (protocol params quiet sees) pid call
      ((HostApply.attempt .ensureIdentity rfl).bind fun hostPublicKey =>
        ((HostApply.attempt .ensureTLS rfl).mapError f).bind fun pin => next hostPublicKey pin)
      hist s fun value _ s => Q value s := by
  have hfound : Stable params.env.net quiet pid fun s => s.lock = some pid ∧
      HostApply.loadManifestAt params.env.net s = .ok stored ∧ sees input host s.manifest := by
    refine ⟨fun h => h.1, fun hkeep h => ?_⟩
    rw [hkeep.lock, hkeep.loadManifestAt, hkeep.manifest]
    exact h
  have hkeyed : Yields (protocol params quiet sees) pid call
      (HostApply.attempt .ensureIdentity rfl) hist s fun hostPublicKey _ s =>
        (s.lock = some pid ∧ HostApply.loadManifestAt params.env.net s = .ok stored ∧
          sees input host s.manifest) ∧ s.hostKey = some hostPublicKey := by
    refine hfound.attempt h fun choice s₁ reply s₂ h₁ _ heffect => ⟨h₁.1, fun value hvalue => ?_⟩
    obtain ⟨hkey, rfl⟩ := (ApplyChoice.write_eq (Option.some.inj heffect)).2 value hvalue
    cases hkey
    exact ⟨h₁, rfl⟩
  refine Yields.bind hkeyed fun hostPublicKey hist s hkey => ?_
  have hkeyStable : Stable params.env.net quiet pid fun s =>
      (s.lock = some pid ∧ HostApply.loadManifestAt params.env.net s = .ok stored ∧
        sees input host s.manifest) ∧ s.hostKey = some hostPublicKey :=
    hfound.and fun hkeep _ hs => hkeep.hostKey.trans hs
  have hcertified : Yields (protocol params quiet sees) pid call
      (HostApply.attempt .ensureTLS rfl) hist s fun pin _ s =>
        Prepared params sees pid input stored host hostPublicKey pin s := by
    refine hkeyStable.attempt hkey fun choice s₁ reply s₂ h₁ _ heffect =>
      ⟨h₁.1.1, fun value hvalue => ?_⟩
    obtain ⟨hpin, rfl⟩ := (ApplyChoice.write_eq (Option.some.inj heffect)).2 value hvalue
    obtain ⟨⟨hlock, hloads, hseen⟩, hkey⟩ := h₁
    exact ⟨hlock, hloads, hseen, hkey, _, rfl, Except.ok.inj hpin⟩
  exact Yields.bind hcertified.mapError fun pin hist s hs => hnext hostPublicKey pin hist s hs

theorem InPlace.stable :
    Stable params.env.net quiet pid (InPlace pid manifest hostPublicKey identity) := by
  refine ⟨fun h => h.lock, fun hkeep h => ?_⟩
  exact ⟨hkeep.lock.trans h.lock, hkeep.manifest.trans h.manifest, hkeep.hostKey.trans h.hostKey,
    hkeep.identity.trans h.identity⟩

theorem Stable.writeHostManifestNetwork
    (hresolve : resolveHostPublication params.env.net params.texts input.flags stored host =
      .ok publication)
    (hpropose : proposeNetwork params.env.net publication (stored.map (·.network)) =
      .ok (network, changed))
    (h : ((Prepared params sees pid input stored host hostPublicKey pin s ∧
      ∀ existing ∈ stored, storedTarget existing ≠ (some input.target.1, input.target.2) →
        NoneIssued s) ∧ (changed = true → NoneIssued s))) (hcall : call = .apply input) :
    Yields (protocol params quiet sees) pid call
      (HostApply.writeHostManifestNetwork params stored input.target network) hist s
      fun manifest _ s => hostManifest params stored input.target network = .ok manifest ∧
        ∃ identity, identity.pin = pin ∧ InPlace pid manifest hostPublicKey identity s := by
  have hstable : Stable params.env.net quiet pid fun s =>
      (Prepared params sees pid input stored host hostPublicKey pin s ∧
        ∀ existing ∈ stored, storedTarget existing ≠ (some input.target.1, input.target.2) →
          NoneIssued s) ∧ (changed = true → NoneIssued s) :=
    (Prepared.stable.and fun hkeep _ hs existing hmem hne =>
      hkeep.noneIssued (hs existing hmem hne)).and fun hkeep _ hs hchanged =>
        hkeep.noneIssued (hs hchanged)
  refine Yields.bind (yields_ofExcept (Q := fun manifest _ s' =>
    hostManifest params stored input.target network = .ok manifest ∧ s' = s)
    fun manifest hmanifest => ⟨hmanifest, rfl⟩) ?_
  rintro manifest hist' s' ⟨hmanifest, rfl⟩
  have hwritten : Yields (protocol params quiet sees) pid call
      (HostApply.attempt (.writeManifest manifest) rfl) hist' s' fun _ _ s =>
        ∃ identity, identity.pin = pin ∧ InPlace pid manifest hostPublicKey identity s := by
    refine hstable.attempt h fun choice s₁ reply s₂ h₁ _ heffect => ?_
    obtain ⟨⟨hprepared, htarget⟩, hpublished⟩ := h₁
    refine ⟨⟨hprepared.lock, input, stored, host, publication, network, changed, hcall,
      hprepared.seen, ⟨hprepared.loads, hresolve, hpropose, htarget, hpublished⟩, hmanifest⟩, ?_⟩
    intro value hvalue
    obtain ⟨-, rfl⟩ := (ApplyChoice.write_eq (Option.some.inj heffect)).2 value hvalue
    obtain ⟨identity, hidentity, hpin⟩ := hprepared.identity
    exact ⟨identity, hpin, hprepared.lock, rfl, hprepared.hostKey, hidentity⟩
  refine Yields.bind hwritten ?_
  rintro _ hist s ⟨identity, hpin, hplace⟩
  have hrendered : Yields (protocol params quiet sees) pid call
      (HostApply.attempt (.writeSSHD manifest) rfl) hist s fun _ _ s =>
        InPlace pid manifest hostPublicKey identity s ∧ True := by
    refine InPlace.stable.read hplace (fun _ => trivial) fun choice s₁ reply s₂ heffect => ?_
    cases heffect
    exact ⟨rfl, fun _ _ => trivial⟩
  refine Yields.bind hrendered fun _ hist s hs => ?_
  exact yields_done ⟨hmanifest, identity, hpin, hs.1⟩

/-! ## The services -/

/-- An enrollment listener that is not restarted has nothing to load: the receipt is the desired
revision. -/
theorem applied_of_not_restarts {desired : HostRevision} {applied : Option HostRevision}
    (h : (restarts stored input publication changed desired applied).enroll = false) :
    applied = some desired := by
  simp only [restarts, Bool.or_eq_false_iff, decide_eq_false_iff_not, not_not] at h
  exact h.2

theorem listen_of_loadedDataPlane {loaded : ServerConfig}
    (hmanifest : s.manifest = some manifest) (h : loadedDataPlane net s = some loaded) :
    loaded.network.data.listen = manifest.network.data.listen ∧
      loaded.network.enrollment.listen = manifest.network.enrollment.listen := by
  obtain ⟨dataHost, enrollHost, -, -, rfl⟩ := reread_eq_ok (reread_of_loadedDataPlane hmanifest h)
  exact ⟨rfl, rfl⟩

theorem Keeps.listening
    (hkeep : Keeps params.env.net quiet s s') (hmanifest : s.manifest = some manifest)
    (h : Listening manifest s) : Listening manifest s' := by
  refine ⟨?_, ?_⟩
  · intro loaded hloaded
    rcases hkeep.dataPlane with heq | heq | heq
    · exact h.dataPlane loaded (heq ▸ hloaded)
    · rw [heq] at hloaded
      cases hloaded
    · rw [(listen_of_loadedDataPlane hmanifest (heq ▸ hloaded)).1]
  · intro service hservice
    rcases hkeep.enrollment with heq | heq | heq
    · exact h.enrollment service (heq ▸ hservice)
    · rw [heq] at hservice
      cases hservice
    · have hloaded := (eq_of_loadedEnrollment (heq ▸ hservice)).1
      rw [(listen_of_loadedDataPlane hmanifest hloaded).2]

theorem Keeps.enrollmentCurrent (hkeep : Keeps params.env.net quiet s s')
    (h : EnrollmentCurrent params.env.net s) : EnrollmentCurrent params.env.net s' := by
  intro service hservice
  rw [loadedEnrollment_eq hkeep.manifest hkeep.identity]
  rcases hkeep.enrollment with heq | heq | heq
  · exact h service (heq ▸ hservice)
  · rw [heq] at hservice
    cases hservice
  · exact heq ▸ hservice

/-- What holds once the enrollment listener has been started or restarted. -/
structure EnrollmentReady (net : NetIP) (manifest : ServerConfig) (restarted : Bool)
    (s : HostSite) : Prop where
  listens : ∀ service ∈ s.enrollment, service.manifest.network.enrollment.listen.addrPort =
    manifest.network.enrollment.listen.addrPort
  current : restarted = true → EnrollmentCurrent net s

theorem Keeps.enrollmentReady
    (hkeep : Keeps params.env.net quiet s s') (hmanifest : s.manifest = some manifest)
    (h : EnrollmentReady params.env.net manifest restarted s) :
    EnrollmentReady params.env.net manifest restarted s' := by
  refine ⟨?_, fun hrestart => hkeep.enrollmentCurrent (h.current hrestart)⟩
  intro service hservice
  rcases hkeep.enrollment with heq | heq | heq
  · exact h.listens service (heq ▸ hservice)
  · rw [heq] at hservice
    cases hservice
  · have hloaded := (eq_of_loadedEnrollment (heq ▸ hservice)).1
    rw [(listen_of_loadedDataPlane hmanifest hloaded).2]

theorem enrollmentReady_of_listens {restart : Bool} {started : HostSite}
    (hstarted : started = { s with
      enrollment := (startEvent restart s.enrollment).after
        (loadedEnrollment params.env.net s) s.enrollment })
    (h : enrollmentListens manifest.network.enrollment.listen.addrPort started = true) :
    EnrollmentReady params.env.net manifest restart started := by
  subst hstarted
  refine ⟨?_, ?_⟩
  · intro service hservice
    obtain ⟨found, hfound, hlisten⟩ := (Option.any_eq_true _ _).1 h
    obtain rfl : service = found := Option.some.inj ((Option.mem_def.1 hservice).symm.trans hfound)
    exact of_decide_eq_true hlisten
  · rintro rfl service hservice
    rw [loadedEnrollment_eq rfl rfl]
    exact hservice

/-- If something accepts on the data endpoint and a running enrollment listener listens elsewhere,
it is the data plane that accepts. -/
theorem listening_of_accepts (hvalid : manifest.validate params.env.net = .ok ())
    (hready : EnrollmentReady params.env.net manifest restarted s)
    (h : accepts manifest.network.data.listen.addrPort s = true) : Listening manifest s := by
  refine ⟨?_, hready.listens⟩
  intro loaded hloaded
  rcases Bool.or_eq_true_iff.1 h with hdata | henroll
  · obtain ⟨found, hfound, hlisten⟩ := (Option.any_eq_true _ _).1 hdata
    obtain rfl : loaded = found := Option.some.inj ((Option.mem_def.1 hloaded).symm.trans hfound)
    exact of_decide_eq_true hlisten
  · obtain ⟨service, hservice, hlisten⟩ := (Option.any_eq_true _ _).1 henroll
    have hother := hready.listens service hservice
    exact absurd ((of_decide_eq_true hlisten).symm.trans hother) (listen_ne_of_validate hvalid)

theorem Stable.requireAccept (h : Stable params.env.net quiet pid I) (hI : I s) {what : String}
    {endpoint : Addr × Nat} : Yields (protocol params quiet sees) pid call
      (HostApply.requireAccept params.env.net what endpoint) hist s
      fun _ _ s => I s ∧ accepts endpoint s = true := by
  have hprobe : Yields (protocol params quiet sees) pid call
      (HostApply.perform (.probeTCP endpoint)) hist s fun up _ s =>
        I s ∧ (up = true → accepts endpoint s = true) := by
    refine h.perform hI fun choice s₁ reply s₂ hI₁ _ heffect => ⟨trivial, ?_⟩
    cases heffect
    exact ⟨hI₁, fun hup => (Bool.and_eq_true_iff.1 hup).2⟩
  refine Yields.bind hprobe fun up hist s hs => ?_
  refine Yields.ite (fun hup => ?_) fun _ => yields_fail
  exact yields_done ⟨hs.1, hs.2 hup⟩

/-- **The services of a run.** When the receipt has been written, the services that run listen
where the manifest says. The receipt is written when it is the desired revision already, or when
the enrollment listener has loaded what is stored. -/
theorem yields_applyServices (hplace : InPlace pid manifest hostPublicKey identity s)
    (hvalid : manifest.validate params.env.net = .ok ())
    (hdata : publication.dataListen = manifest.network.data.listen)
    (henroll : publication.enrollListen = manifest.network.enrollment.listen) :
    Yields (protocol params quiet sees) pid call
      (applyServices params input stored publication changed manifest identity.pin) hist s
      fun _ _ s => (InPlace pid manifest hostPublicKey identity s ∧
        s.applied = some ⟨params.networkSHA256 manifest.network, identity.leaf⟩) ∧
        Listening manifest s := by
  unfold applyServices
  simp only [Prog.bind_eq]
  -- the leaf is that of the certificate in place
  have hleaf : Yields (protocol params quiet sees) pid call
      (HostApply.attempt .certLeaf rfl) hist s fun leaf _ s =>
        InPlace pid manifest hostPublicKey identity s ∧
          ∃ found, s.identity = some found ∧ leaf = found.leaf := by
    refine InPlace.stable.read hplace (fun _ => trivial) fun choice s₁ reply s₂ heffect => ?_
    cases heffect
    refine ⟨rfl, fun value hvalue => ?_⟩
    have hfound := ApplyChoice.read_eq_ok hvalue
    cases hidentity : s₁.identity with
    | none =>
      rw [hidentity] at hfound
      cases hfound
    | some found =>
      rw [hidentity] at hfound
      cases hfound
      exact ⟨found, rfl, rfl⟩
  refine Yields.bind hleaf ?_
  rintro leaf hist s ⟨hplace, found, hfound, rfl⟩
  obtain rfl : found = identity := Option.some.inj (hfound.symm.trans hplace.identity)
  have hdesired : Yields (protocol params quiet sees) pid call
      (HostApply.attempt (.writeDesired ⟨params.networkSHA256 manifest.network, found.leaf⟩) rfl)
      hist s fun _ _ s => InPlace pid manifest hostPublicKey found s := by
    refine InPlace.stable.attempt hplace fun choice s₁ reply s₂ h₁ _ heffect =>
      ⟨h₁.lock, fun value hvalue => ?_⟩
    obtain ⟨-, rfl⟩ := (ApplyChoice.write_eq (Option.some.inj heffect)).2 value hvalue
    exact ⟨h₁.lock, h₁.manifest, h₁.hostKey, h₁.identity⟩
  refine Yields.bind hdesired fun _ hist s hplace => ?_
  have happlied : Yields (protocol params quiet sees) pid call
      (HostApply.attempt .loadApplied rfl) hist s fun applied _ s =>
        InPlace pid manifest hostPublicKey found s ∧ s.applied = applied := by
    refine InPlace.stable.read hplace (fun _ => trivial) fun choice s₁ reply s₂ heffect => ?_
    cases heffect
    refine ⟨rfl, fun value hvalue => ?_⟩
    cases ApplyChoice.read_eq_ok hvalue
    rfl
  refine Yields.bind happlied fun applied hist s hs => ?_
  set restart := restarts stored input publication changed
    ⟨params.networkSHA256 manifest.network, found.leaf⟩ applied with hrestart
  have hreceipt : Stable params.env.net quiet pid fun s =>
      InPlace pid manifest hostPublicKey found s ∧ s.applied = applied :=
    InPlace.stable.and fun hkeep _ hs => hkeep.applied.trans hs
  have hplane : Yields (protocol params quiet sees) pid call
      (HostApply.attempt (.applyDataPlane restart.data publication.dataListen.addrPort) rfl) hist s
      fun _ _ s => InPlace pid manifest hostPublicKey found s ∧ s.applied = applied := by
    refine hreceipt.attempt hs fun choice s₁ reply s₂ h₁ _ heffect =>
      ⟨h₁.1.lock, fun value hvalue => ?_⟩
    obtain ⟨-, rfl⟩ := (ApplyChoice.write_eq (Option.some.inj heffect)).2 value hvalue
    exact ⟨⟨h₁.1.lock, h₁.1.manifest, h₁.1.hostKey, h₁.1.identity⟩, h₁.2⟩
  refine Yields.bind hplane.mapError fun _ hist s hs => ?_
  have hlistener : Yields (protocol params quiet sees) pid call
      (HostApply.attempt
        (.applyEnrollment restart.enroll publication.enrollListen.addrPort found.pin) rfl) hist s
      fun _ _ s => (InPlace pid manifest hostPublicKey found s ∧ s.applied = applied) ∧
        EnrollmentReady params.env.net manifest restart.enroll s := by
    refine hreceipt.attempt hs fun choice s₁ reply s₂ h₁ _ heffect =>
      ⟨h₁.1.lock, fun value hvalue => ?_⟩
    obtain ⟨hready, rfl⟩ := (ApplyChoice.write_eq (Option.some.inj heffect)).2 value hvalue
    refine ⟨⟨⟨h₁.1.lock, h₁.1.manifest, h₁.1.hostKey, h₁.1.identity⟩, h₁.2⟩, ?_⟩
    refine enrollmentReady_of_listens rfl ?_
    rw [henroll] at hready
    split at hready
    · rename_i hboth
      exact (Bool.and_eq_true_iff.1 hboth).1
    · cases hready
  refine Yields.bind hlistener.mapError fun _ hist s hs => ?_
  have hup : Stable params.env.net quiet pid fun s =>
      (InPlace pid manifest hostPublicKey found s ∧ s.applied = applied) ∧
        EnrollmentReady params.env.net manifest restart.enroll s :=
    hreceipt.and fun hkeep hs hready => hkeep.enrollmentReady hs.1.manifest hready
  refine Yields.bind (hup.requireAccept hs) fun _ hist s hs => ?_
  have hlistening : Listening manifest s := listening_of_accepts hvalid hs.1.2 (hdata ▸ hs.2)
  have hboth : Stable params.env.net quiet pid fun s =>
      ((InPlace pid manifest hostPublicKey found s ∧ s.applied = applied) ∧
        EnrollmentReady params.env.net manifest restart.enroll s) ∧ Listening manifest s :=
    hup.and fun hkeep hs hlisten => hkeep.listening hs.1.1.manifest hlisten
  refine Yields.bind (hboth.requireAccept ⟨hs.1, hlistening⟩) fun _ hist s hs => ?_
  refine hboth.attempt hs.1 fun choice s₁ reply s₂ h₁ _ heffect => ?_
  obtain ⟨⟨⟨hplace, happlied⟩, hready⟩, hlisten⟩ := h₁
  refine ⟨⟨hplace.lock, manifest, found, hplace.manifest, hplace.identity, rfl, ?_⟩, ?_⟩
  · cases henrolled : restart.enroll with
    | false => exact .inl (happlied.trans (applied_of_not_restarts (hrestart ▸ henrolled)))
    | true => exact .inr (hready.current henrolled)
  · intro value hvalue
    obtain ⟨-, rfl⟩ := (ApplyChoice.write_eq (Option.some.inj heffect)).2 value hvalue
    exact ⟨⟨⟨hplace.lock, hplace.manifest, hplace.hostKey, hplace.identity⟩, rfl⟩,
      hlisten.dataPlane, hlisten.enrollment⟩

end WarpTweet.HostApply
