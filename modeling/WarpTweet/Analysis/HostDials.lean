import WarpTweet.Analysis.HostGuards
import WarpTweet.Analysis.Launch

/-!
# Does the published address follow the bind?

Without an advertise flag, the dial that a run publishes is its bind when no manifest is stored.
Later runs compare the stored dial with the new bind, not with the bind it was stored with. A dial
that only followed an earlier bind therefore looks like a choice of the operator once the bind
moves, and is kept. The published address follows the bind in all runs that choose the stored bind
again.
-/

set_option autoImplicit false

namespace WarpTweet.HostApply

open Strings Concurrency Storage

def ApplyCall.input : ApplyCall → Option HostApplyInput
  | .apply input => some input
  | _ => none

/-- The step in which a run looks up the addresses of its host. -/
def looksUpAddresses : ApplyAction → Bool
  | .addresses => true
  | _ => false

/-- The run is not asked to advertise an address. -/
def NoAdvertise (call : ApplyCall) : Prop :=
  ∀ input ∈ call.input, input.flags.advertise = none

instance : DecidablePred NoAdvertise := fun call =>
  inferInstanceAs (Decidable (∀ input ∈ call.input, _))

/-- The listen or interface flag of a run, if there is one that can be read, chooses `listen`. -/
def ListenKept (params : HostParams) (flags : HostPublicationFlags) (host : HostAddresses)
    (listen : BindEndpoint) : Prop :=
  if flags.listenInterface.isSome then
    ∀ addr ∈ host.addressForInterface.toOption, (addr.unmap, defaultHostListenPort) = listen.addrPort
  else if flags.listen.value.isEmpty then True
  else ∀ endpoint ∈ (parseEndpoint params.env.net params.texts flags.listen.value).toOption,
    (endpoint.1.unmap, endpoint.2) = listen.addrPort

instance (params : HostParams) (flags : HostPublicationFlags) (host : HostAddresses)
    (listen : BindEndpoint) : Decidable (ListenKept params flags host listen) :=
  inferInstanceAs (Decidable (ite _ _ _))

/-- A run that finds a stored manifest chooses its data listen again. -/
def ChoosesStored (params : HostParams) (input : HostApplyInput) (host : HostAddresses)
    (manifest : Option ServerConfig) : Prop :=
  ∀ stored ∈ manifest, ListenKept params input.flags host stored.network.data.listen

instance (params : HostParams) (input : HostApplyInput) (host : HostAddresses)
    (manifest : Option ServerConfig) : Decidable (ChoosesStored params input host manifest) :=
  inferInstanceAs (Decidable (∀ stored ∈ manifest, _))

/-- `ChoosesStored`, as a condition on the step in which a run looks up its addresses. -/
def ChoosesStoredAt (params : HostParams) (c : ApplyPool) (process : ApplyProcess)
    (action : ApplyAction) (choice : ApplyChoice) : Prop :=
  looksUpAddresses action = true → ∀ input ∈ process.call.input,
    ChoosesStored params input choice.addresses c.state.manifest

instance (params : HostParams) (c : ApplyPool) (process : ApplyProcess)
    (action : ApplyAction) (choice : ApplyChoice) :
    Decidable (ChoosesStoredAt params c process action choice) := by
  unfold ChoosesStoredAt
  infer_instance

def DialsBind (s : HostSite) : Prop :=
  ∀ manifest ∈ s.manifest, manifest.network.data.dial = dialFromBind manifest.network.data.listen

/-! ## One run -/

variable {net : NetIP} {stored : Option ServerConfig} {s : HostSite}

section

variable {params : HostParams} {flags : HostPublicationFlags} {host : HostAddresses}
  {listen : BindEndpoint}

theorem reread_dialFromBind (hnet : net.Lawful)
    {read : DialHost} (h : (dialFromBind listen).host.reread net = .ok read) :
    read = (dialFromBind listen).host := by
  simp only [DialHost.reread, dialFromBind, DialHost.canonical, List.isEmpty_nil, Bool.not_true,
    Bool.false_eq_true, if_false, except_bind_eq_ok, unmap_unmap] at h
  obtain ⟨text, htext, hparse⟩ := h
  split at htext
  · rename_i hzone
    cases htext
    have hzone' : listen.address.unmap.zone = [] := List.isEmpty_iff.1 hzone
    have hformat := hnet.parse_format _ hzone'
    have hne : (net.format listen.address.unmap).isEmpty = false := by
      rw [List.isEmpty_eq_false_iff]
      intro hempty
      rw [hempty, hnet.nonempty] at hformat
      cases hformat
    simp only [parseDialHost, hne, hformat, hzone, Bool.false_eq_true, if_false, if_true,
      unmap_unmap, Except.ok.injEq] at hparse
    exact hparse.symm
  · cases htext

theorem addrPort_of_listenKept {stored : ServerConfig}
    (hkept : ListenKept params flags host stored.network.data.listen)
    (h : resolveDataListen params.env.net params.texts flags (some stored) host = .ok listen) :
    listen.addrPort = stored.network.data.listen.addrPort := by
  unfold ListenKept at hkept
  unfold resolveDataListen at h
  split at h
  · rename_i hinterface
    rw [if_pos hinterface] at hkept
    simp only [except_bind_eq_ok] at h
    obtain ⟨addr, haddr, hlisten⟩ := h
    cases hlisten
    exact hkept addr (by rw [haddr]; rfl)
  · rename_i hinterface
    rw [if_neg hinterface] at hkept
    simp only [except_bind_eq_ok] at h
    obtain ⟨endpoint, hendpoint, hlisten⟩ := h
    cases hlisten
    unfold resolveListen at hendpoint
    cases hempty : flags.listen.value.isEmpty with
    | true =>
      simp only [hempty, Bool.not_true, Bool.false_eq_true, if_false] at hendpoint
      cases hendpoint
      simp only [BindEndpoint.addrPort, unmap_unmap]
    | false =>
      simp only [hempty, Bool.not_false, if_true] at hendpoint
      simp only [hempty, Bool.false_eq_true, if_false] at hkept
      exact hkept endpoint (by rw [hendpoint]; rfl)

theorem dialFromBind_eq {other : BindEndpoint} (h : listen.addrPort = other.addrPort) :
    dialFromBind listen = dialFromBind other := by
  obtain ⟨haddress, hport⟩ := Prod.mk.inj h
  simp only [dialFromBind, haddress, hport]

/-- **The dial of one run.** It is the bind if no manifest is stored, and if the stored dial is the
stored bind and the bind is chosen again. -/
theorem dataDial_of_resolveHostPublication
    {publication : HostPublication} (hadvertise : flags.advertise = none)
    (hstored : ∀ manifest ∈ stored,
      manifest.network.data.dial = dialFromBind manifest.network.data.listen)
    (hkept : ∀ manifest ∈ stored, ListenKept params flags host manifest.network.data.listen)
    (h : resolveHostPublication params.env.net params.texts flags stored host = .ok publication) :
    publication.dataDial = dialFromBind publication.dataListen := by
  simp only [resolveHostPublication, except_bind_eq_ok] at h
  obtain ⟨_, -, listen, hlisten, dial, hdial, _, -, _, -, hpublication⟩ := h
  cases hpublication
  simp only [resolveDataDial, hadvertise] at hdial
  cases stored with
  | none => exact (Except.ok.inj hdial).symm
  | some manifest =>
    have hsame : manifest.network.data.dial = dialFromBind listen := by
      rw [hstored manifest rfl]
      exact (dialFromBind_eq (addrPort_of_listenKept (hkept manifest rfl) hlisten)).symm
    -- whether the two dials compare as equal or not, the result is the same
    simp only [hsame, ite_self, Except.ok.injEq] at hdial
    exact hdial.symm

theorem dialsBind_of_loadManifestAt (hnet : net.Lawful) (hs : DialsBind s)
    (h : loadManifestAt net s = .ok stored) : (∀ manifest ∈ stored,
      manifest.network.data.dial = dialFromBind manifest.network.data.listen) ∧
      ∀ manifest ∈ stored, ∃ written ∈ s.manifest,
        manifest.network.data.listen = written.network.data.listen := by
  rcases of_loadManifestAt h with ⟨-, rfl⟩ | ⟨written, read, hwritten, hread, rfl⟩
  · simp
  · obtain ⟨dataHost, enrollHost, hdata, -, rfl⟩ := reread_eq_ok hread
    have hdial := hs written hwritten
    rw [hdial] at hdata
    have hhost := reread_dialFromBind hnet hdata
    refine ⟨?_, ?_⟩
    · rintro manifest hmanifest
      cases hmanifest
      simp only [hhost, hdial, dialFromBind]
    · rintro manifest hmanifest
      cases hmanifest
      exact ⟨written, hwritten, rfl⟩

end

/-! ## All runs -/

section

variable {params : HostParams} {c : ApplyPool}

/-- The runs without an advertise flag that choose a stored bind again. -/
def FollowsStored (params : HostParams) (c : ApplyPool) (move : ApplyMove) : Prop :=
  Starts NoAdvertise c move ∧ OnAction (ChoosesStoredAt params) c move

instance (params : HostParams) (c : ApplyPool) (move : ApplyMove) :
    Decidable (FollowsStored params c move) :=
  inferInstanceAs (Decidable (_ ∧ _))

/-- What a run without an advertise flag sees of its addresses. -/
def SeesStored (params : HostParams) (input : HostApplyInput) (host : HostAddresses)
    (manifest : Option ServerConfig) : Prop :=
  input.flags.advertise = none ∧ ChoosesStored params input host manifest

theorem dialsBind_of_changes (hnet : params.env.net.Lawful) {pid : ℕ} {call : ApplyCall}
    {action : ApplyAction} {choice : ApplyChoice} {s' : HostSite} (hs : DialsBind s)
    (hguard : Guarded params False (SeesStored params) pid call action s)
    (hchanges : Changes params pid choice s action s') : DialsBind s' := by
  cases hchanges with
  | manifest manifest =>
    obtain ⟨-, input, stored, host, publication, network, changed, -, ⟨hadvertise, hchooses⟩,
      hproposes, hmanifest⟩ := hguard
    obtain ⟨hdials, hlistens⟩ := dialsBind_of_loadManifestAt hnet hs hproposes.loads
    have hkept : ∀ manifest ∈ stored,
        ListenKept params input.flags host manifest.network.data.listen := by
      intro manifest hmem
      obtain ⟨written, hwritten, hlisten⟩ := hlistens manifest hmem
      rw [hlisten]
      exact hchooses written hwritten
    have hdial := dataDial_of_resolveHostPublication hadvertise hdials hkept hproposes.resolves
    obtain ⟨generation, rfl⟩ := of_proposeNetwork hproposes.proposes
    intro written hwritten
    cases hwritten
    rw [(of_hostManifest hmanifest).1]
    exact hdial
  | same | locked | unlocked | hostKey | identity | desired | applied | services | expired
  | stored | consumed | cancelled => exact hs

/-- **Where the published address follows the bind.** In every run without an advertise flag that
chooses a stored bind again, the dial stored after a successful run is its bind. -/
theorem dial_eq_listen_of_reported (hnet : params.env.net.Lawful)
    (hrun : Run (machine params) (FollowsStored params) (Config.idle HostSite.fresh) c) {pid : ℕ}
    {result : HostApplyResult} (hreported : reported c pid = some result) :
    c.state.manifest = some result.manifest ∧
      result.manifest.network.data.dial = dialFromBind result.manifest.network.data.listen := by
  have hruns := hrun.invariant (P := protocol params False (SeesStored params))
    (I := fun c => DialsBind c.state ∧ c.Each fun _ call _ _ => NoAdvertise call)
    ⟨by simp [DialsBind, Config.idle, HostSite.fresh], .idle⟩ (fun _ _ _ => ensures_program)
    ?_ ?_ ?_ ?_
  · obtain ⟨⟨hdials, -⟩, hguarded⟩ := hruns
    obtain ⟨_, input, -, -, hreports⟩ := reports_of_poolGuarded hguarded hreported
    obtain ⟨identity, hplace, -⟩ := hreports.inPlace
    exact ⟨hplace.manifest, hdials result.manifest hplace.manifest⟩
  · rintro c pid ⟨call, prog, hist⟩ action rest choice ⟨-, hcalls⟩ ⟨-, hchooses⟩ hp hprog
    have hat := hchooses.condition hp hprog
    have hcall := hcalls pid _ hp
    show Assumed False (SeesStored params) call action choice c.state
    refine assumed_of ?_ fun _ hquiet => hquiet.elim
    rintro input rfl rfl
    exact ⟨hcall _ rfl, hat rfl _ rfl⟩
  · rintro c pid call - ⟨hdials, hcalls⟩ ⟨hstarts, -⟩ -
    exact ⟨hdials, hcalls.started hstarts⟩
  · rintro c pid process action rest choice reply state - ⟨hdials, hcalls⟩ - hp - hguard heffect -
    exact ⟨dialsBind_of_changes hnet hdials hguard (changes_of_effect heffect),
      hcalls.advanced hp id fun _ _ _ _ => id⟩
  · rintro c pid process - ⟨hdials, hcalls⟩ - -
    refine ⟨?_, hcalls.stopped fun _ _ _ _ => id⟩
    show DialsBind (released pid c.state)
    unfold released
    split <;> exact hdials

end

/-! ## Two runs

The host has two addresses and one backend, and the digest of a network shows its generation and its
binds.
-/

namespace HostScenario

/-- The other address of the host, 192.0.2.2. -/
def otherAddr : Addr := .v4 0xc0000202

/-- The texts of the two endpoints that the schedules use. -/
def texts : EndpointTexts where
  parseAddrPort value :=
    if value = "192.0.2.1:2222".toList then .ok (LaunchScenario.hostAddr, 2222)
    else if value = "192.0.2.2:2222".toList then .ok (otherAddr, 2222)
    else .error (.plain "not an ip:port")
  splitHostPort _ := .error (.plain "missing port in address")
  parsePort _ := none

/-- A digest of a network that shows its generation and its binds. -/
def digest (network : Network) : Text :=
  List.replicate network.publishedEndpointGeneration.toNat 'g' ++ '.' ::
    (addrPortText DottedNet.net network.data.listen.addrPort ++
      addrPortText DottedNet.net network.enrollment.listen.addrPort)

def params : HostParams where
  env := LaunchScenario.env
  texts
  install := LaunchScenario.install
  networkSHA256 := digest
  sshdDigest := .ok (List.replicate 64 '1')
  bundleDigest := .ok (List.replicate 64 '2')

/-- A run that binds the given endpoint and asks for no invite. -/
def run (listen : String) (port : Nat) : HostApplyInput where
  target := (.v4 0x7f000001, port)
  flags := ⟨some listen.toList, none, none, none, none⟩
  noInvite := true
  label := "agent".toList
  authorizationSeconds := 0
  now := Scenario.now

/-- `count` steps of a process in an environment in which everything succeeds. -/
def steps (pid count : ℕ) : List ApplyMove :=
  List.replicate count (.advance pid plainChoice)

/-- A run from its start until it reports. A first run takes sixteen steps until then, and so does
a later one that changes neither the target nor the published locators. -/
def reporting (pid : ℕ) (input : HostApplyInput) : List ApplyMove :=
  .start pid (.apply input) :: steps pid 16

/-- A run from its start to its end. -/
def whole (pid : ℕ) (input : HostApplyInput) : List ApplyMove :=
  reporting pid input ++ steps pid 2

theorem generation_of_digest (left right : Network) (h : digest left = digest right) :
    left.publishedEndpointGeneration = right.publishedEndpointGeneration := by
  have hcount : ∀ (n : ℕ) (rest : Text),
      ((List.replicate n 'g' ++ '.' :: rest).takeWhile (· = 'g')).length = n := by
    intro n rest
    simp
  have hlength := congrArg (fun text => (text.takeWhile (· = 'g')).length) h
  simp only [digest, hcount] at hlength
  exact UInt64.toNat_inj.1 hlength

end HostScenario

/-- Two runs bind 192.0.2.1, the second after the first. -/
theorem dial_eq_listen_of_second_run :
    ∃ c result, Run (machine HostScenario.params) (FollowsStored HostScenario.params)
        (Config.idle HostSite.fresh) c ∧
      reported c 2 = some result ∧
      c.state.manifest = some result.manifest ∧
      result.manifest.network.data.dial = dialFromBind result.manifest.network.data.listen := by
  obtain ⟨c, hrun, hreported⟩ := Run.exists_of_runMoves
    (M := machine HostScenario.params) (D := FollowsStored HostScenario.params)
    (c := Config.idle HostSite.fresh) (p := fun c => (reported c 2).isSome = true)
    (HostScenario.whole 1 (HostScenario.run "192.0.2.1:2222" 5432) ++
      HostScenario.reporting 2 (HostScenario.run "192.0.2.1:2222" 5432)) (by decide +kernel)
  obtain ⟨result, hresult⟩ := Option.isSome_iff_exists.1 hreported
  exact ⟨c, result, hrun, hresult, dial_eq_listen_of_reported DottedNet.lawful hrun hresult⟩

/-- **The published address does not follow a bind that moves.** A first run binds 192.0.2.1 and a second
one 192.0.2.2, both without an advertise flag. The second run succeeds, and stores the address of
the first as the data dial. -/
theorem dial_ne_listen_of_moved_bind :
    ∃ c, Run (machine HostScenario.params) (Starts NoAdvertise) (Config.idle HostSite.fresh) c ∧
      ∃ result ∈ reported c 2, c.state.manifest = some result.manifest ∧
        result.manifest.network.data.listen = ⟨HostScenario.otherAddr, 2222⟩ ∧
        result.manifest.network.data.dial = dialFromBind ⟨LaunchScenario.hostAddr, 2222⟩ := by
  exact Run.exists_of_runMoves
    (HostScenario.whole 1 (HostScenario.run "192.0.2.1:2222" 5432) ++
      HostScenario.reporting 2 (HostScenario.run "192.0.2.2:2222" 5432)) (by decide +kernel)

end WarpTweet.HostApply
