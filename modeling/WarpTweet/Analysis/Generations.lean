import WarpTweet.Model.Network

/-!
# Generations of the published endpoints

Clients compare the generation of an invite with that of the host, so the generation has to
identify the locators it was published with. One proposal keeps the generation of the stored
network if the canonical dials are the same, and takes the next one if they are not. A dial
without a canonical form is the same as no dial, not even as itself.
-/

namespace WarpTweet

open Strings

/-- The canonical form of a dial, if it has one. -/
def DialEndpoint.form (net : NetIP) (dial : DialEndpoint) : Option (Text × Nat) :=
  match dial.host.canonical net with
  | .ok host => some (host, dial.port)
  | .error _ => none

/-- The canonical forms of the two dials of a published set, if both have one. -/
def PublishedEndpointSet.form (net : NetIP) (set : PublishedEndpointSet) :
    Option ((Text × Nat) × (Text × Nat)) :=
  match set.data.form net, set.enrollment.form net with
  | some data, some enrollment => some (data, enrollment)
  | _, _ => none

/-- The canonical dials of a network. -/
def Network.dials (net : NetIP) (network : Network) : Option ((Text × Nat) × (Text × Nat)) :=
  network.publishedSet.form net

/-- The networks that a sequence of proposals stores, each on top of the one before. A
proposal that is refused stores nothing. -/
def storedNetworks (net : NetIP) : Option Network → List Proposal → List Network
  | _, [] => []
  | stored, proposal :: proposals =>
    match proposeNetwork net proposal stored with
    | .ok (network, _) => network :: storedNetworks net (some network) proposals
    | .error _ => storedNetworks net stored proposals

section

variable {net : NetIP}

theorem DialEndpoint.equal_iff {left right : DialEndpoint} :
    left.equal net right = true ↔ ∃ form, left.form net = some form ∧ right.form net = some form := by
  unfold DialEndpoint.equal DialHost.equal DialEndpoint.form
  cases left.host.canonical net with
  | error err => simp
  | ok leftHost =>
    cases right.host.canonical net with
    | error err => simp
    | ok rightHost =>
      simp only [Bool.and_eq_true, beq_iff_eq, decide_eq_true_eq, Option.some.injEq]
      constructor
      · rintro ⟨hport, hhost⟩
        exact ⟨(rightHost, right.port), by rw [hport, hhost], rfl⟩
      · rintro ⟨form, hleft, hright⟩
        have hsame := hleft.trans hright.symm
        exact ⟨congrArg Prod.snd hsame, congrArg Prod.fst hsame⟩

theorem samePublishedLocators_iff {left right : PublishedEndpointSet} :
    samePublishedLocators net left right = true ↔
      ∃ form, left.form net = some form ∧ right.form net = some form := by
  unfold samePublishedLocators PublishedEndpointSet.form
  rw [Bool.and_eq_true, DialEndpoint.equal_iff, DialEndpoint.equal_iff]
  constructor
  · rintro ⟨⟨data, hdata, hdata'⟩, enrollment, henrollment, henrollment'⟩
    exact ⟨(data, enrollment), by rw [hdata, henrollment], by rw [hdata', henrollment']⟩
  · rintro ⟨⟨data, enrollment⟩, hleft, hright⟩
    split at hleft
    next leftData leftEnrollment hdata henrollment =>
      split at hright
      next rightData rightEnrollment hdata' henrollment' =>
        cases hleft
        cases hright
        exact ⟨⟨data, hdata, hdata'⟩, enrollment, henrollment, henrollment'⟩
      next => cases hright
    next => cases hleft

end

/-! ## One proposal -/

section

variable {net : NetIP} {stored network : Network} {proposal : Proposal} {changed : Bool}

/-- The dials of the proposal have the canonical forms of the stored dials. -/
def SameDials (net : NetIP) (stored : Network) (proposal : Proposal) : Prop :=
  ∃ form, stored.dials net = some form ∧
    (proposal.network stored.publishedEndpointGeneration).dials net = some form

theorem proposeNetwork_of_same (hgeneration : stored.publishedEndpointGeneration ≠ 0)
    (h : SameDials net stored proposal) : proposeNetwork net proposal (some stored) =
      .ok (proposal.network stored.publishedEndpointGeneration, false) := by
  have hsame := samePublishedLocators_iff.2 h
  simp [proposeNetwork, hgeneration, hsame]

theorem proposeNetwork_of_change (hgeneration : stored.publishedEndpointGeneration ≠ 0)
    (h : ¬ SameDials net stored proposal) : proposeNetwork net proposal (some stored) =
      (nextPublishedEndpointGeneration stored.publishedEndpointGeneration).map fun next =>
        (proposal.network next, true) := by
  have hdiffers : samePublishedLocators net stored.publishedSet
      (proposal.network stored.publishedEndpointGeneration).publishedSet = false := by
    rw [Bool.eq_false_iff]
    exact fun hsame => h (samePublishedLocators_iff.1 hsame)
  simp only [proposeNetwork, if_neg hgeneration, hdiffers]
  cases nextPublishedEndpointGeneration stored.publishedEndpointGeneration <;> rfl

theorem nextPublishedEndpointGeneration_of_lt {generation : UInt64} (hne : generation ≠ 0)
    (hlt : generation.toNat < 2 ^ 64 - 1) :
    ∃ next, nextPublishedEndpointGeneration generation = .ok next ∧
      next.toNat = generation.toNat + 1 := by
  have hmax : generation ≠ UInt64.ofNat (2 ^ 64 - 1) := by
    rintro rfl
    exact absurd hlt (by decide)
  refine ⟨generation + 1, by rw [nextPublishedEndpointGeneration, if_neg hne, if_neg hmax], ?_⟩
  rw [UInt64.toNat_add, show (1 : UInt64).toNat = 1 from rfl]
  exact Nat.mod_eq_of_lt (by omega)

theorem nextPublishedEndpointGeneration_of_max {generation : UInt64}
    (hmax : generation.toNat = 2 ^ 64 - 1) : nextPublishedEndpointGeneration generation =
      .error (.invalidField generationField "cannot increment past uint64 maximum") := by
  have hword : generation = UInt64.ofNat (2 ^ 64 - 1) := by
    apply UInt64.toNat.inj
    rw [hmax]
    rfl
  subst hword
  rfl

/-- A proposal that is stored keeps the generation and the canonical dials, or takes the next
generation. -/
theorem generation_of_propose (h : proposeNetwork net proposal (some stored) = .ok (network, changed)) :
    (network.publishedEndpointGeneration = stored.publishedEndpointGeneration ∧
      network.dials net = stored.dials net) ∨
    network.publishedEndpointGeneration.toNat = stored.publishedEndpointGeneration.toNat + 1 := by
  have hgeneration : stored.publishedEndpointGeneration ≠ 0 := by
    intro hzero
    simp [proposeNetwork, hzero] at h
  by_cases hsame : SameDials net stored proposal
  · rw [proposeNetwork_of_same hgeneration hsame] at h
    cases h
    obtain ⟨form, hstored, hproposed⟩ := hsame
    exact .inl ⟨rfl, hproposed.trans hstored.symm⟩
  · rw [proposeNetwork_of_change hgeneration hsame] at h
    by_cases hlt : stored.publishedEndpointGeneration.toNat < 2 ^ 64 - 1
    · obtain ⟨next, hnext, hvalue⟩ := nextPublishedEndpointGeneration_of_lt hgeneration hlt
      rw [hnext] at h
      cases h
      exact .inr hvalue
    · have hbound := UInt64.toNat_lt stored.publishedEndpointGeneration
      rw [nextPublishedEndpointGeneration_of_max (by omega)] at h
      cases h

end

/-! ## Sequences of proposals -/

variable {net : NetIP}

/-- What comes after a stored network has no smaller generation, and the same canonical dials
if it has the same generation. -/
theorem mem_storedNetworks {stored network : Network} {proposals : List Proposal}
    (h : network ∈ storedNetworks net (some stored) proposals) :
    stored.publishedEndpointGeneration ≤ network.publishedEndpointGeneration ∧
      (network.publishedEndpointGeneration = stored.publishedEndpointGeneration →
        network.dials net = stored.dials net) := by
  induction proposals generalizing stored with
  | nil => cases h
  | cons proposal proposals ih =>
    unfold storedNetworks at h
    split at h
    next next changed hpropose =>
      -- the next network relates to the stored one, and the rest to the next one
      have hstep : stored.publishedEndpointGeneration ≤ next.publishedEndpointGeneration ∧
          (next.publishedEndpointGeneration = stored.publishedEndpointGeneration →
            next.dials net = stored.dials net) := by
        rcases generation_of_propose hpropose with ⟨hsame, hdials⟩ | hnext
        · exact ⟨hsame ▸ UInt64.le_refl _, fun _ => hdials⟩
        · refine ⟨UInt64.le_iff_toNat_le.2 (by omega), fun hsame => ?_⟩
          rw [hsame] at hnext
          omega
      rcases List.mem_cons.1 h with rfl | hmem
      · exact hstep
      · obtain ⟨hle, hdials⟩ := ih hmem
        refine ⟨UInt64.le_trans hstep.1 hle, fun hsame => ?_⟩
        have hnext : next.publishedEndpointGeneration = stored.publishedEndpointGeneration :=
          UInt64.le_antisymm (hsame ▸ hle) hstep.1
        rw [hdials (hsame.trans hnext.symm), hstep.2 hnext]
    next => exact ih h

/-- Generations do not decrease along a sequence of proposals, and networks of one generation
have the same canonical dials. -/
theorem pairwise_storedNetworks {stored : Option Network} {proposals : List Proposal} :
    (storedNetworks net stored proposals).Pairwise fun earlier later =>
      earlier.publishedEndpointGeneration ≤ later.publishedEndpointGeneration ∧
        (later.publishedEndpointGeneration = earlier.publishedEndpointGeneration →
          later.dials net = earlier.dials net) := by
  induction proposals generalizing stored with
  | nil => exact List.Pairwise.nil
  | cons proposal proposals ih =>
    unfold storedNetworks
    split
    · exact List.pairwise_cons.2 ⟨fun _ hmem => mem_storedNetworks hmem, ih⟩
    · exact ih

/-- **Generations identify locators.** In every sequence of proposals, each stored on top of
the one before, networks of one generation have the same canonical dials and generations do
not decrease. A proposal over a stored network keeps the generation if its dials have the same
canonical forms, whatever their spelling; otherwise it takes the next generation, and is
refused if there is none. -/
theorem generation_identifies_locators (stored : Option Network) (proposals : List Proposal) :
    (∀ first ∈ storedNetworks net stored proposals, ∀ second ∈ storedNetworks net stored proposals,
      first.publishedEndpointGeneration = second.publishedEndpointGeneration →
        first.dials net = second.dials net) ∧
    (storedNetworks net stored proposals).Pairwise (fun earlier later =>
      earlier.publishedEndpointGeneration ≤ later.publishedEndpointGeneration) ∧
    ∀ (network : Network) (proposal : Proposal), network.publishedEndpointGeneration ≠ 0 →
      (SameDials net network proposal →
        proposeNetwork net proposal (some network) =
          .ok (proposal.network network.publishedEndpointGeneration, false)) ∧
      (¬ SameDials net network proposal →
        (network.publishedEndpointGeneration.toNat < 2 ^ 64 - 1 →
          ∃ next, proposeNetwork net proposal (some network) = .ok (proposal.network next, true) ∧
            next.toNat = network.publishedEndpointGeneration.toNat + 1) ∧
        (network.publishedEndpointGeneration.toNat = 2 ^ 64 - 1 →
          proposeNetwork net proposal (some network) =
            .error (.invalidField generationField "cannot increment past uint64 maximum"))) := by
  refine ⟨?_, pairwise_storedNetworks.imp fun h => h.1, ?_⟩
  · have hpairs := @pairwise_storedNetworks net stored proposals
    intro first hfirst second hsecond
    refine List.Pairwise.forall_of_forall_of_flip (R := fun first second : Network =>
      first.publishedEndpointGeneration = second.publishedEndpointGeneration →
        first.dials net = second.dials net) (fun _ _ _ => rfl) ?_ ?_ hfirst hsecond
    · exact hpairs.imp fun h hsame => (h.2 hsame.symm).symm
    · exact hpairs.imp fun h hsame => h.2 hsame
  · intro network proposal hgeneration
    refine ⟨proposeNetwork_of_same hgeneration, fun hchange => ⟨fun hlt => ?_, fun hmax => ?_⟩⟩
    · obtain ⟨next, hnext, hvalue⟩ := nextPublishedEndpointGeneration_of_lt hgeneration hlt
      refine ⟨next, ?_, hvalue⟩
      rw [proposeNetwork_of_change hgeneration hchange, hnext]
      rfl
    · rw [proposeNetwork_of_change hgeneration hchange, nextPublishedEndpointGeneration_of_max hmax]
      rfl

end WarpTweet
