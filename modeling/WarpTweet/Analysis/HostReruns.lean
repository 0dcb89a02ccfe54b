import WarpTweet.Analysis.Generations
import WarpTweet.Analysis.HostDials

/-!
# Running the host command again

The binds and dials of a run default to one another and to what is stored, and the flags may
be unset, empty or set. What a run stores is a fixed point: the same flags, resolved on the
network of the run, give its binds and its dials again.

A discovered address is stored as it was found and resolved again in its canonical form, so
binds are compared as sockets (`AddrPort`).
-/

namespace WarpTweet.HostApply

open Strings

variable {net : NetIP} {texts : EndpointTexts} {flags : HostPublicationFlags} {host : HostAddresses}
  {stored : Option ServerConfig}

section

variable {again : ServerConfig} {listen listen' enrollListen : BindEndpoint}
  {dial enrollDial : DialEndpoint} {flag : OnceFlag} {dataChanged : Bool}

theorem resolveDataListen_again (h : resolveDataListen net texts flags stored host = .ok listen)
    (hagain : again.network.data.listen = listen) :
    ∃ listen', resolveDataListen net texts flags (some again) host = .ok listen' ∧
      listen'.addrPort = listen.addrPort := by
  unfold resolveDataListen at h ⊢
  by_cases hinterface : flags.listenInterface.isSome = true
  · rw [if_pos hinterface] at h ⊢
    exact ⟨listen, h, rfl⟩
  · rw [if_neg hinterface] at h ⊢
    unfold resolveListen at h ⊢
    cases hempty : flags.listen.value.isEmpty with
    | false =>
      simp only [hempty, Bool.not_false, if_true] at h ⊢
      exact ⟨listen, h, rfl⟩
    | true =>
      refine ⟨⟨listen.address.unmap, listen.port⟩, by rw [← hagain]; rfl, ?_⟩
      simp only [BindEndpoint.addrPort, unmap_unmap]

/-- The data dial is resolved to the one that is stored: to the bind if it was the bind, and
otherwise to the stored dial or to the flag. -/
theorem resolveDataDial_again (h : resolveDataDial net texts flag listen stored = .ok dial)
    (hagain : again.network.data.dial = dial) (hlisten : listen'.addrPort = listen.addrPort) :
    resolveDataDial net texts flag listen' (some again) = .ok dial := by
  unfold resolveDataDial at h ⊢
  rw [dialFromBind_eq hlisten]
  cases flag with
  | some value => exact h
  | none =>
    dsimp only at h ⊢
    rw [hagain]
    cases stored with
    | none =>
      cases h
      rw [ite_self]
    | some manifest =>
      dsimp only at h
      split at h
      · cases h
        rw [ite_self]
      · rename_i hdiffers
        cases h
        rw [if_neg hdiffers]

theorem resolveEnrollListenFlag_again
    (h : resolveEnrollListenFlag net texts flag listen stored dataChanged = .ok enrollListen)
    (hagain : again.network.enrollment.listen = enrollListen)
    (hlisten : listen'.addrPort = listen.addrPort) :
    ∃ bind, resolveEnrollListenFlag net texts flag listen' (some again) dataChanged = .ok bind ∧
      bind.addrPort = enrollListen.addrPort := by
  unfold resolveEnrollListenFlag at h ⊢
  cases hempty : flag.value.isEmpty with
  | false =>
    simp only [hempty, Bool.not_false, if_true] at h ⊢
    exact ⟨enrollListen, h, rfl⟩
  | true =>
    simp only [hempty, Bool.not_true, Bool.false_eq_true, if_false] at h ⊢
    by_cases hkept : (!dataChanged && flag.isNone) = true
    · exact ⟨enrollListen, by rw [if_pos hkept, hagain], rfl⟩
    · -- the default follows the data bind, with or without a stored network
      have hdefault : enrollListen = ⟨listen.address, defaultEnrollmentPort⟩ := by
        cases stored with
        | none => exact (Except.ok.inj h).symm
        | some manifest =>
          dsimp only at h
          rw [if_neg hkept] at h
          exact (Except.ok.inj h).symm
      refine ⟨⟨listen'.address, defaultEnrollmentPort⟩, by rw [if_neg hkept], ?_⟩
      simp only [hdefault, BindEndpoint.addrPort, (Prod.mk.inj hlisten).1]

theorem resolveEnrollDial_again
    (h : resolveEnrollDial net texts flag dial stored dataChanged = .ok enrollDial)
    (hagain : again.network.enrollment.dial = enrollDial) :
    resolveEnrollDial net texts flag dial (some again) dataChanged = .ok enrollDial := by
  unfold resolveEnrollDial at h ⊢
  cases hempty : flag.value.isEmpty with
  | false =>
    simp only [hempty, Bool.not_false, if_true] at h ⊢
    exact h
  | true =>
    simp only [hempty, Bool.not_true, Bool.false_eq_true, if_false] at h ⊢
    by_cases hkept : (!dataChanged && flag.isNone) = true
    · rw [if_pos hkept, hagain]
    · rw [if_neg hkept]
      cases stored with
      | none => exact h
      | some manifest =>
        dsimp only at h
        rwa [if_neg hkept] at h

end

variable {publication : HostPublication}

theorem dials_of_validateNetwork {network : Network} (h : validateNetwork net network = .ok ()) :
    network.publishedEndpointGeneration ≠ 0 ∧ ∃ form, network.dials net = some form := by
  simp only [validateNetwork, except_bind_eq_ok, refuseIf_eq_ok, mapError_eq_ok] at h
  obtain ⟨_, hgeneration, _, -, _, -, _, -, _, -, _, -, dataHost, hdata, enrollHost, henroll, -⟩ := h
  refine ⟨by simpa using hgeneration, ?_⟩
  simp only [Network.dials, PublishedEndpointSet.form, DialEndpoint.form, Network.publishedSet,
    hdata, henroll, Option.some.injEq, exists_eq']

/-- **Running the host command again changes nothing.** If flags are resolved on what is stored
and the proposal is a valid network, then the same flags are resolved on this network to the same
sockets and the same dials, and proposing these keeps the generation. -/
theorem rerun_changes_nothing {network : Network} {changed : Bool} {again : ServerConfig}
    (hresolve : resolveHostPublication net texts flags stored host = .ok publication)
    (hpropose : proposeNetwork net publication (stored.map ServerConfig.network) =
      .ok (network, changed))
    (hvalid : validateNetwork net network = .ok ()) (hagain : again.network = network) :
    ∃ repeated, resolveHostPublication net texts flags (some again) host = .ok repeated ∧
      repeated.dataListen.addrPort = network.data.listen.addrPort ∧
      repeated.enrollListen.addrPort = network.enrollment.listen.addrPort ∧
      repeated.dataDial.equal net network.data.dial = true ∧
      repeated.enrollDial.equal net network.enrollment.dial = true ∧
      ∃ kept, proposeNetwork net repeated (some network) = .ok (kept, false) ∧
        kept.publishedEndpointGeneration = network.publishedEndpointGeneration := by
  obtain ⟨hgeneration, form, hform⟩ := dials_of_validateNetwork hvalid
  obtain ⟨generation, rfl⟩ : ∃ generation, network = publication.network generation :=
    of_proposeNetwork hpropose
  simp only [resolveHostPublication, except_bind_eq_ok] at hresolve ⊢
  obtain ⟨_, hexclusive, listen, hlisten, dial, hdial, enrollListen, henrollListen, enrollDial,
    henrollDial, hpublication⟩ := hresolve
  cases hpublication
  obtain ⟨listen', hlisten', hsocket⟩ := resolveDataListen_again hlisten (by rw [hagain]; rfl)
  obtain ⟨bind, hbind, hsocket'⟩ :=
    resolveEnrollListenFlag_again henrollListen (by rw [hagain]; rfl) hsocket
  have hdial' := resolveDataDial_again hdial (by rw [hagain]; rfl) hsocket
  have henrollDial' := resolveEnrollDial_again henrollDial (by rw [hagain]; rfl)
  refine ⟨⟨listen', bind, dial, enrollDial⟩, ⟨(), hexclusive, listen', hlisten', dial, hdial', bind,
    hbind, enrollDial, henrollDial', rfl⟩, hsocket, hsocket', ?_⟩
  have hsame := samePublishedLocators_iff.2 ⟨form, hform, hform⟩
  rw [samePublishedLocators, Bool.and_eq_true] at hsame
  refine ⟨hsame.1, hsame.2, _, proposeNetwork_of_same hgeneration ⟨form, hform, ?_⟩, rfl⟩
  exact hform

/-- A host that was started without flags at a discovered address, and is run again. -/
theorem rerun_changes_nothing_of_discovered :
    ∃ publication network, resolveHostPublication DottedNet.net HostScenario.texts
        ⟨none, none, none, none, none⟩ none
        ⟨.ok (some LaunchScenario.hostAddr), .error (.plain "")⟩ = .ok publication ∧
      proposeNetwork DottedNet.net publication none = .ok (network, false) ∧
      validateNetwork DottedNet.net network = .ok () ∧
      ∃ repeated kept, repeated.dataListen.addrPort = network.data.listen.addrPort ∧
        proposeNetwork DottedNet.net repeated (some network) = .ok (kept, false) := by
  let manifest := LaunchScenario.manifest ⟨some LaunchScenario.hostAddr, []⟩ (.v4 0x7f000001)
  have hresolve : resolveHostPublication DottedNet.net HostScenario.texts
      ⟨none, none, none, none, none⟩ none
      ⟨.ok (some LaunchScenario.hostAddr), .error (.plain "")⟩ = .ok _ := rfl
  have hvalid : validateNetwork DottedNet.net manifest.network = .ok () := by decide +kernel
  obtain ⟨repeated, -, hlisten, -, -, -, kept, hkept, -⟩ :=
    rerun_changes_nothing hresolve rfl hvalid (show manifest.network = _ from rfl)
  exact ⟨_, _, hresolve, rfl, hvalid, repeated, kept, hlisten, hkept⟩

end WarpTweet.HostApply
