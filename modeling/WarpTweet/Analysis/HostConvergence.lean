import WarpTweet.Analysis.HostDials

/-!
# Do the services serve what is stored?

After a successful run the services that run listen where the stored manifest says. What else they
serve depends on when they were restarted. The published set and the certificate are covered by the
receipt: an enrollment listener never falls behind the generation and the certificate of the applied
receipt, and generations do not come back. The target is not. The enrollment listener is not
restarted for a new target, and the data plane only by the run that writes it. The services serve
what is stored in all runs that keep the stored target.
-/

set_option autoImplicit false

namespace WarpTweet.HostApply

open Strings Concurrency Storage

/-! ## Published sets -/

/-- Two networks publish the same locators under the same generation. -/
structure SamePublished (net : NetIP) (left right : Network) : Prop where
  generation : left.publishedEndpointGeneration = right.publishedEndpointGeneration
  locators : samePublishedLocators net left.publishedSet right.publishedSet = true

variable {publication : HostPublication} {network : Network} {changed : Bool} {choice : ApplyChoice}

section

variable {net : NetIP}

theorem DialEndpoint.equal_trans {a b c : DialEndpoint} (h : a.equal net b = true)
    (h' : b.equal net c = true) : a.equal net c = true := by
  simp only [DialEndpoint.equal, Bool.and_eq_true, beq_iff_eq] at *
  exact ⟨h.1.trans h'.1, DialHost.equal_trans h.2 h'.2⟩

theorem samePublishedLocators_trans {a b c : PublishedEndpointSet}
    (h : samePublishedLocators net a b = true) (h' : samePublishedLocators net b c = true) :
    samePublishedLocators net a c = true := by
  simp only [samePublishedLocators, Bool.and_eq_true] at *
  exact ⟨DialEndpoint.equal_trans h.1 h'.1, DialEndpoint.equal_trans h.2 h'.2⟩

theorem SamePublished.trans {a b c : Network} (h : SamePublished net a b)
    (h' : SamePublished net b c) : SamePublished net a c :=
  ⟨h.generation.trans h'.generation, samePublishedLocators_trans h.locators h'.locators⟩

theorem canonical_of_reread (hnet : net.Lawful) {host read : DialHost}
    (h : host.reread net = .ok read) : ∃ text, host.canonical net = .ok text ∧
      read.canonical net = .ok text := by
  simp only [DialHost.reread, except_bind_eq_ok] at h
  obtain ⟨text, htext, hread⟩ := h
  refine ⟨text, htext, ?_⟩
  have hhost := isHost_of_canonical hnet htext
  rw [hhost.parseDialHost_eq hnet, Except.ok.injEq] at hread
  rw [← hread]
  exact hhost.canonical_eq

theorem samePublished_of_reread (hnet : net.Lawful) {manifest read : ServerConfig}
    (h : manifest.reread net = .ok read) : SamePublished net read.network manifest.network ∧
      SamePublished net manifest.network read.network := by
  obtain ⟨dataHost, enrollHost, hdata, henroll, rfl⟩ := reread_eq_ok h
  obtain ⟨dataText, hdata₁, hdata₂⟩ := canonical_of_reread hnet hdata
  obtain ⟨enrollText, henroll₁, henroll₂⟩ := canonical_of_reread hnet henroll
  refine ⟨⟨rfl, ?_⟩, rfl, ?_⟩
  all_goals
    simp only [samePublishedLocators, Network.publishedSet, DialEndpoint.equal, Bool.and_eq_true,
      beq_iff_eq, DialHost.equal_iff, true_and]
  · exact ⟨⟨dataText, hdata₂, hdata₁⟩, enrollText, henroll₂, henroll₁⟩
  · exact ⟨⟨dataText, hdata₁, hdata₂⟩, enrollText, henroll₁, henroll₂⟩

/-- **Generations do not come back.** A proposed network has a later generation than the stored one,
or publishes the same. -/
theorem generation_of_proposeNetwork {stored : Network}
    (h : proposeNetwork net publication (some stored) = .ok (network, changed)) :
    stored.publishedEndpointGeneration < network.publishedEndpointGeneration ∨
      SamePublished net stored network := by
  unfold proposeNetwork at h
  dsimp only at h
  split at h
  · cases h
  · split at h
    · rename_i hsame
      cases h
      exact .inr ⟨rfl, hsame⟩
    · simp only [except_bind_eq_ok] at h
      obtain ⟨next, hnext, hnetwork⟩ := h
      cases hnetwork
      left
      unfold nextPublishedEndpointGeneration at hnext
      split at hnext
      · cases hnext
      · split at hnext
        · cases hnext
        · rename_i hmax
          cases hnext
          have hlt := stored.publishedEndpointGeneration.toNat_lt
          have hne : stored.publishedEndpointGeneration.toNat ≠ 2 ^ 64 - 1 := by
            intro heq
            exact hmax (UInt64.toNat_inj.1 (by rw [heq]; rfl))
          show stored.publishedEndpointGeneration < stored.publishedEndpointGeneration + 1
          rw [UInt64.lt_iff_toNat_lt, UInt64.toNat_add]
          have hone : (1 : UInt64).toNat = 1 := rfl
          rw [hone, Nat.mod_eq_of_lt (by omega)]
          omega

end

/-! ## The invariant -/

/-- The services serve the stored target, listen address, published set and certificate. A service
that does not run serves nothing. -/
structure ServesStored (net : NetIP) (manifest : ServerConfig) (identity : EnrollmentIdentity)
    (s : HostSite) : Prop where
  dataPlane : ∀ loaded ∈ s.dataPlane, loaded.target = manifest.target ∧
    loaded.network.data.listen.addrPort = manifest.network.data.listen.addrPort
  enrollment : ∀ service ∈ s.enrollment, service.manifest.target = manifest.target ∧
    service.manifest.network.enrollment.listen.addrPort =
      manifest.network.enrollment.listen.addrPort ∧
    SamePublished net service.manifest.network manifest.network ∧
    service.identity.leaf = identity.leaf

/-- What relates the services, the receipt and the stored manifest at any time, if targets are
kept. -/
structure Related (params : HostParams) (s : HostSite) : Prop where
  dataLoaded : ∀ loaded ∈ s.dataPlane, s.manifest ≠ none
  enrollLoaded : ∀ service ∈ s.enrollment, s.manifest ≠ none ∧ s.identity ≠ none
  written : ∀ revision ∈ s.applied, s.manifest ≠ none
  dataTarget : ∀ manifest ∈ s.manifest, ∀ loaded ∈ s.dataPlane, loaded.target = manifest.target
  enrollTarget : ∀ manifest ∈ s.manifest, ∀ service ∈ s.enrollment,
    service.manifest.target = manifest.target
  published : ∀ manifest ∈ s.manifest, ∀ service ∈ s.enrollment,
    service.manifest.network.publishedEndpointGeneration <
      manifest.network.publishedEndpointGeneration ∨
    SamePublished params.env.net service.manifest.network manifest.network
  receipt : ∀ revision ∈ s.applied, ∃ network : Network,
    revision.networkSHA256 = params.networkSHA256 network ∧
    (∀ manifest ∈ s.manifest,
      network.publishedEndpointGeneration ≤ manifest.network.publishedEndpointGeneration) ∧
    ∀ service ∈ s.enrollment, network.publishedEndpointGeneration ≤
      service.manifest.network.publishedEndpointGeneration
  leaf : ∀ revision ∈ s.applied, ∀ identity ∈ s.identity,
    revision.certLeafSHA256 = identity.leaf → ∀ service ∈ s.enrollment,
      service.identity.leaf = identity.leaf

theorem mem_after {α : Type} {event : ServiceEvent} {loaded service : Option α} {value : α}
    (h : value ∈ event.after loaded service) : value ∈ service ∨ value ∈ loaded := by
  rcases after_cases event loaded service with heq | heq | heq
  · exact .inl (heq ▸ h)
  · rw [heq] at h
    cases h
  · exact .inr (heq ▸ h)

section

variable {params : HostParams} {s s' : HostSite}

theorem of_loadedEnrollment (hnet : params.env.net.Lawful) {manifest : ServerConfig}
    {service : EnrollmentService} (hmanifest : s.manifest = some manifest)
    (h : loadedEnrollment params.env.net s = some service) :
    service.manifest.target = manifest.target ∧
      SamePublished params.env.net service.manifest.network manifest.network ∧
      s.identity = some service.identity := by
  obtain ⟨hloaded, hidentity⟩ := eq_of_loadedEnrollment h
  have hread := reread_of_loadedDataPlane hmanifest hloaded
  refine ⟨?_, (samePublished_of_reread hnet hread).1, hidentity⟩
  obtain ⟨_, _, -, -, heq⟩ := reread_eq_ok hread
  rw [heq]

theorem target_of_loadedDataPlane {manifest loaded : ServerConfig}
    (hmanifest : s.manifest = some manifest)
    (h : loadedDataPlane params.env.net s = some loaded) : loaded.target = manifest.target := by
  obtain ⟨_, _, -, -, heq⟩ := reread_eq_ok (reread_of_loadedDataPlane hmanifest h)
  rw [heq]

theorem Related.services (hnet : params.env.net.Lawful) (h : Related params s)
    (dataPlane enrollment : ServiceEvent) : Related params { s with
      dataPlane := dataPlane.after (loadedDataPlane params.env.net s) s.dataPlane
      enrollment := enrollment.after (loadedEnrollment params.env.net s) s.enrollment } := by
  have hstored : ∀ loaded, loadedDataPlane params.env.net s = some loaded →
      ∃ manifest, s.manifest = some manifest := by
    intro loaded hloaded
    obtain ⟨manifest, hmanifest, -⟩ := Option.bind_eq_some_iff.1 hloaded
    exact ⟨manifest, hmanifest⟩
  refine ⟨?_, ?_, h.written, ?_, ?_, ?_, ?_, ?_⟩
  · intro loaded hloaded
    rcases mem_after hloaded with hold | hnew
    · exact h.dataLoaded loaded hold
    · obtain ⟨manifest, hmanifest⟩ := hstored loaded hnew
      simp [hmanifest]
  · intro service hservice
    rcases mem_after hservice with hold | hnew
    · exact h.enrollLoaded service hold
    · obtain ⟨hloaded, hidentity⟩ := eq_of_loadedEnrollment hnew
      obtain ⟨manifest, hmanifest⟩ := hstored _ hloaded
      simp [hmanifest, hidentity]
  · intro manifest hmanifest loaded hloaded
    rcases mem_after hloaded with hold | hnew
    · exact h.dataTarget manifest hmanifest loaded hold
    · exact target_of_loadedDataPlane hmanifest hnew
  · intro manifest hmanifest service hservice
    rcases mem_after hservice with hold | hnew
    · exact h.enrollTarget manifest hmanifest service hold
    · exact (of_loadedEnrollment hnet hmanifest hnew).1
  · intro manifest hmanifest service hservice
    rcases mem_after hservice with hold | hnew
    · exact h.published manifest hmanifest service hold
    · exact .inr (of_loadedEnrollment hnet hmanifest hnew).2.1
  · intro revision hrevision
    obtain ⟨network, hdigest, hmanifests, hservices⟩ := h.receipt revision hrevision
    refine ⟨network, hdigest, hmanifests, fun service hservice => ?_⟩
    rcases mem_after hservice with hold | hnew
    · exact hservices service hold
    · obtain ⟨manifest, hmanifest⟩ := hstored _ (eq_of_loadedEnrollment hnew).1
      rw [(of_loadedEnrollment hnet hmanifest hnew).2.1.generation]
      exact hmanifests manifest hmanifest
  · intro revision hrevision identity hidentity hleaf service hservice
    rcases mem_after hservice with hold | hnew
    · exact h.leaf revision hrevision identity hidentity hleaf service hold
    · obtain ⟨-, hcurrent⟩ := eq_of_loadedEnrollment hnew
      rw [Option.some.inj (hcurrent.symm.trans hidentity)]

theorem Related.manifest (hnet : params.env.net.Lawful) (h : Related params s)
    {input : HostApplyInput} {stored : Option ServerConfig} {host : HostAddresses}
    {manifest : ServerConfig}
    (hproposes : Proposes params input s stored host publication network changed)
    (hmanifest : hostManifest params stored input.target network = .ok manifest)
    (htarget : ∀ old ∈ s.manifest, old.target = ⟨some input.target.1, input.target.2⟩) :
    Related params { s with manifest := some manifest } := by
  obtain ⟨hnetwork, htarget', -⟩ := of_hostManifest hmanifest
  -- a stored manifest has an earlier generation, or publishes the same
  have hadvance : ∀ old ∈ s.manifest, old.network.publishedEndpointGeneration <
      manifest.network.publishedEndpointGeneration ∨
      SamePublished params.env.net old.network manifest.network := by
    intro old hold
    rcases of_loadManifestAt hproposes.loads with ⟨hnone, -⟩ | ⟨written, read, hwritten, hread, rfl⟩
    · rw [hnone] at hold
      cases hold
    · obtain rfl := Option.some.inj (hwritten.symm.trans hold)
      have hsame := (samePublished_of_reread hnet hread).2
      rw [hnetwork]
      rcases generation_of_proposeNetwork hproposes.proposes with hlater | hpublished
      · exact .inl (hsame.generation ▸ hlater)
      · exact .inr (hsame.trans hpublished)
  have hmono : ∀ old ∈ s.manifest, old.network.publishedEndpointGeneration ≤
      manifest.network.publishedEndpointGeneration := by
    intro old hold
    rcases hadvance old hold with hlater | hsame
    · exact UInt64.le_of_lt hlater
    · exact UInt64.le_of_eq hsame.generation
  refine ⟨by simp, fun service hservice => ⟨by simp, (h.enrollLoaded service hservice).2⟩, by simp,
    ?_, ?_, ?_, ?_, h.leaf⟩
  · intro found hfound loaded hloaded
    cases hfound
    obtain ⟨old, hold⟩ := Option.ne_none_iff_exists'.1 (h.dataLoaded loaded hloaded)
    rw [h.dataTarget old hold loaded hloaded, htarget old hold, htarget']
  · intro found hfound service hservice
    cases hfound
    obtain ⟨old, hold⟩ := Option.ne_none_iff_exists'.1 (h.enrollLoaded service hservice).1
    rw [h.enrollTarget old hold service hservice, htarget old hold, htarget']
  · intro found hfound service hservice
    cases hfound
    obtain ⟨old, hold⟩ := Option.ne_none_iff_exists'.1 (h.enrollLoaded service hservice).1
    rcases h.published old hold service hservice with hbefore | hsame
    · exact .inl (UInt64.lt_of_lt_of_le hbefore (hmono old hold))
    · rcases hadvance old hold with hlater | hpublished
      · exact .inl (hsame.generation ▸ hlater)
      · exact .inr (hsame.trans hpublished)
  · intro revision hrevision
    obtain ⟨known, hdigest, hmanifests, hservices⟩ := h.receipt revision hrevision
    refine ⟨known, hdigest, ?_, hservices⟩
    intro found hfound
    cases hfound
    obtain ⟨old, hold⟩ := Option.ne_none_iff_exists'.1 (h.written revision hrevision)
    exact UInt64.le_trans (hmanifests old hold) (hmono old hold)

/-- A receipt keeps the relation if it is there already, or if the listener has loaded what is
stored. -/
theorem Related.applied (hnet : params.env.net.Lawful) (h : Related params s)
    {manifest : ServerConfig} {identity : EnrollmentIdentity} {revision : HostRevision}
    (hmanifest : s.manifest = some manifest)
    (hrevision : revision = ⟨params.networkSHA256 manifest.network, identity.leaf⟩)
    (hcurrent : s.applied = some revision ∨ EnrollmentCurrent params.env.net s) :
    Related params { s with applied := some revision } := by
  rcases hcurrent with happlied | hcurrent
  · have hsame : ({ s with applied := some revision } : HostSite) = s := by rw [← happlied]
    rw [hsame]
    exact h
  · refine ⟨h.dataLoaded, h.enrollLoaded, ?_, h.dataTarget, h.enrollTarget, h.published, ?_, ?_⟩
    · intro _ _
      simp [hmanifest]
    · intro found hfound
      cases hfound
      refine ⟨manifest.network, by rw [hrevision], ?_, ?_⟩
      · intro found hfound
        rw [Option.some.inj (hmanifest.symm.trans hfound)]
        exact UInt64.le_refl _
      · intro service hservice
        have hloaded := hcurrent service hservice
        exact UInt64.le_of_eq (of_loadedEnrollment hnet hmanifest hloaded).2.1.generation.symm
    · intro _ _ found hfound _ service hservice
      have hloaded := (of_loadedEnrollment hnet hmanifest (hcurrent service hservice)).2.2
      rw [Option.some.inj (hloaded.symm.trans hfound)]

theorem Related.identity (h : Related params s)
    (hfresh : choice.renew = true → ∀ revision ∈ s.applied,
      revision.certLeafSHA256 ≠ choice.certificate.leaf) :
    Related params { s with identity := some (ensuredIdentity choice s.identity) } := by
  refine ⟨h.dataLoaded, fun service hservice => ⟨(h.enrollLoaded service hservice).1, by simp⟩,
    h.written, h.dataTarget, h.enrollTarget, h.published, h.receipt, ?_⟩
  intro revision hrevision found hfound hleaf service hservice
  cases hfound
  cases hidentity : s.identity with
  | none => exact absurd hidentity (h.enrollLoaded service hservice).2
  | some identity =>
    rw [hidentity] at hleaf
    simp only [ensuredIdentity] at hleaf ⊢
    split at hleaf
    · rename_i hrenew
      exact absurd hleaf (hfresh hrenew revision hrevision)
    · rename_i hkept
      rw [if_neg hkept]
      exact h.leaf revision hrevision identity hidentity hleaf service hservice

end

/-! ## All runs -/

/-- The step in which a run writes the manifest. -/
def writesManifest : ApplyAction → Bool
  | .writeManifest _ => true
  | _ => false

/-- The step in which a run makes sure of its certificate. -/
def ensuresTLS : ApplyAction → Bool
  | .ensureTLS => true
  | _ => false

/-- A run that writes the manifest asks for the stored target. -/
def KeepsTargetAt (c : ApplyPool) (process : ApplyProcess) (action : ApplyAction) : Prop :=
  writesManifest action = true → ∀ input ∈ process.call.input, ∀ old ∈ c.state.manifest,
    old.target = ⟨some input.target.1, input.target.2⟩

/-- A new certificate does not have the digest of the one in the receipt. -/
def FreshLeafAt (c : ApplyPool) (action : ApplyAction) (choice : ApplyChoice) : Prop :=
  ensuresTLS action = true → choice.renew = true → ∀ revision ∈ c.state.applied,
    revision.certLeafSHA256 ≠ choice.certificate.leaf

/-- The runs that keep the stored target, and whose new certificates have a new digest. -/
def KeepsTarget (c : ApplyPool) : ApplyMove → Prop :=
  OnAction (fun c process action choice =>
    KeepsTargetAt c process action ∧ FreshLeafAt c action choice) c

instance (c : ApplyPool) (move : ApplyMove) : Decidable (KeepsTarget c move) :=
  have (c : ApplyPool) (process : ApplyProcess) (action : ApplyAction) (choice : ApplyChoice) :
      Decidable (KeepsTargetAt c process action ∧ FreshLeafAt c action choice) :=
    inferInstanceAs (Decidable ((_ = true → ∀ input ∈ process.call.input, ∀ old ∈ c.state.manifest,
      _) ∧ (_ = true → _ = true → ∀ revision ∈ c.state.applied, _)))
  inferInstanceAs (Decidable (OnAction _ c move))

section

variable {params : HostParams} {c : ApplyPool}

theorem related_of_changes (hnet : params.env.net.Lawful) {process : ApplyProcess} {pid : ℕ}
    {action : ApplyAction} {s' : HostSite} (h : Related params c.state)
    (hcondition : KeepsTargetAt c process action ∧ FreshLeafAt c action choice)
    (hguard : Guarded params False (fun _ _ _ => True) pid process.call action c.state)
    (hchanges : Changes params pid choice c.state action s') : Related params s' := by
  cases hchanges with
  | manifest manifest =>
    obtain ⟨-, input, stored, host, publication, network, changed, hcall, -, hproposes,
      hmanifest⟩ := hguard
    refine h.manifest hnet hproposes hmanifest ?_
    exact hcondition.1 rfl input (by rw [hcall]; rfl)
  | applied revision =>
    obtain ⟨-, manifest, identity, hmanifest, -, hrevision, hcurrent⟩ := hguard
    exact h.applied hnet hmanifest hrevision hcurrent
  | identity => exact h.identity (hcondition.2 rfl)
  | services dataPlane enrollment => exact h.services hnet dataPlane enrollment
  | same | locked | unlocked | hostKey | desired | expired | stored | consumed | cancelled =>
    exact ⟨h.dataLoaded, h.enrollLoaded, h.written, h.dataTarget, h.enrollTarget, h.published,
      h.receipt, h.leaf⟩

theorem related_of_run (hnet : params.env.net.Lawful)
    (hrun : Run (machine params) KeepsTarget (Config.idle HostSite.fresh) c) :
    Related params c.state ∧ PoolGuarded (protocol params False fun _ _ _ => True) c := by
  refine hrun.invariant (I := fun c => Related params c.state) ?_ (fun _ _ _ => ensures_program)
    ?_ (fun _ h _ _ => h) ?_ ?_
  · constructor <;> simp [Config.idle, HostSite.fresh]
  · intro c pid process action rest choice _ _ _ _
    show Assumed False (fun _ _ _ => True) process.call action choice c.state
    exact assumed_of (fun _ _ _ => trivial) fun _ hquiet => hquiet.elim
  · intro c pid process action rest choice reply state _ h hkeeps hp hprog hguard heffect _
    exact related_of_changes hnet h (hkeeps.condition hp hprog) hguard (changes_of_effect heffect)
  · intro c pid process _ h _ _
    show Related params (released pid c.state)
    unfold released
    split
    · exact ⟨h.dataLoaded, h.enrollLoaded, h.written, h.dataTarget, h.enrollTarget, h.published,
        h.receipt, h.leaf⟩
    · exact h

/-- **Where the services serve what is stored.** In every run that keeps the stored target, a call
that succeeds leaves the services with the stored target, listen addresses, published set and
certificate. -/
theorem servesStored_of_reported (hnet : params.env.net.Lawful)
    (hdigest : ∀ left right, params.networkSHA256 left = params.networkSHA256 right →
      left.publishedEndpointGeneration = right.publishedEndpointGeneration)
    (hrun : Run (machine params) KeepsTarget (Config.idle HostSite.fresh) c) {pid : ℕ}
    {result : HostApplyResult} (hreported : reported c pid = some result) :
    ∃ identity, c.state.manifest = some result.manifest ∧ c.state.identity = some identity ∧
      ServesStored params.env.net result.manifest identity c.state := by
  obtain ⟨h, hguarded⟩ := related_of_run hnet hrun
  obtain ⟨_, input, -, -, hreports⟩ := reports_of_poolGuarded hguarded hreported
  obtain ⟨identity, hplace, -, happlied⟩ := hreports.inPlace
  refine ⟨identity, hplace.manifest, hplace.identity, ?_, ?_⟩
  · intro loaded hloaded
    exact ⟨h.dataTarget _ hplace.manifest loaded hloaded, hreports.listening.dataPlane loaded hloaded⟩
  · intro service hservice
    refine ⟨h.enrollTarget _ hplace.manifest service hservice,
      hreports.listening.enrollment service hservice, ?_,
      h.leaf _ happlied identity hplace.identity rfl service hservice⟩
    -- the listener is at least at the generation of the receipt, which is the stored one
    obtain ⟨network, hnetwork, -, hservices⟩ := h.receipt _ happlied
    have hle := hservices service hservice
    rw [← hdigest _ _ hnetwork] at hle
    rcases h.published _ hplace.manifest service hservice with hbefore | hsame
    · exact absurd hbefore (UInt64.not_lt.2 hle)
    · exact hsame

end

/-- A second run with another bind and the same target: both services are restarted. -/
theorem servesStored_of_moved_bind :
    ∃ c result identity, Run (machine HostScenario.params) KeepsTarget
        (Config.idle HostSite.fresh) c ∧
      reported c 2 = some result ∧
      result.manifest.network.data.listen = ⟨HostScenario.otherAddr, 2222⟩ ∧
      c.state.manifest = some result.manifest ∧ c.state.identity = some identity ∧
      ServesStored HostScenario.params.env.net result.manifest identity c.state := by
  obtain ⟨c, hrun, result, hreported, hlisten⟩ := Run.exists_of_runMoves
    (M := machine HostScenario.params) (D := KeepsTarget) (c := Config.idle HostSite.fresh)
    (p := fun c => ∃ result ∈ reported c 2,
      result.manifest.network.data.listen = ⟨HostScenario.otherAddr, 2222⟩)
    (HostScenario.whole 1 (HostScenario.run "192.0.2.1:2222" 5432) ++
      HostScenario.reporting 2 (HostScenario.run "192.0.2.2:2222" 5432)) (by decide +kernel)
  obtain ⟨identity, hmanifest, hidentity, hserves⟩ := servesStored_of_reported DottedNet.lawful
    HostScenario.generation_of_digest hrun hreported
  exact ⟨c, result, identity, hrun, hreported, hlisten, hmanifest, hidentity, hserves⟩

/-- **The services do not always serve what is stored.** A second run that asks for port 5433
instead of 5432 succeeds, and the enrollment listener still serves the target with port 5432. If
the second run is stopped after it has written the manifest, and a third one repeats it, the third
succeeds, and the data plane still serves the target with port 5432. -/
theorem stale_target_after_success :
    (∃ c, Run (machine HostScenario.params) (fun _ _ => True) (Config.idle HostSite.fresh) c ∧
      ∃ result ∈ reported c 2, c.state.manifest = some result.manifest ∧
        result.manifest.target.port = 5433 ∧
        ∃ service ∈ c.state.enrollment, service.manifest.target.port = 5432) ∧
    ∃ c, Run (machine HostScenario.params) (fun _ _ => True) (Config.idle HostSite.fresh) c ∧
      ∃ result ∈ reported c 3, c.state.manifest = some result.manifest ∧
        result.manifest.target.port = 5433 ∧
        ∃ loaded ∈ c.state.dataPlane, loaded.target.port = 5432 := by
  refine ⟨?_, ?_⟩
  · -- the two listings before a change of target take two steps more
    exact Run.exists_of_runMoves
      (HostScenario.whole 1 (HostScenario.run "192.0.2.1:2222" 5432) ++
        HostScenario.reporting 2 (HostScenario.run "192.0.2.1:2222" 5433) ++
        HostScenario.steps 2 2) (by decide +kernel)
  · exact Run.exists_of_runMoves
      (HostScenario.whole 1 (HostScenario.run "192.0.2.1:2222" 5432) ++
        .start 2 (.apply (HostScenario.run "192.0.2.1:2222" 5433)) :: HostScenario.steps 2 9 ++
        .stop 2 :: HostScenario.reporting 3 (HostScenario.run "192.0.2.1:2222" 5433))
      (by decide +kernel)

end WarpTweet.HostApply
