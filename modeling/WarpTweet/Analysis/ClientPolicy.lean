import WarpTweet.Model.ClientConfig

/-!
# Which tunnels can be started

What `Validate` of a client manifest gives for each of its tunnels, and what the policy of a
tunnel asks on top of that. A tunnel of a valid manifest can be started unless it listens on
the last port, 65535: there is no port after it for the management forward. A started tunnel
binds its listen port and the port after it.
-/

namespace WarpTweet

open Strings

/-- The ports that a tunnel binds once it is started; none if its policy is refused. -/
def startedPorts (spec : ClientSpec) : List Nat :=
  match newClientPolicy spec with
  | .ok forwards => forwards.map fun forward => forward.listen.port
  | .error _ => []

/-- Two listen ports follow each other, and a tunnel can start on both. The last port has no
management port, so that a tunnel on it does not start. -/
def PortFollows (listenPort next : Nat) : Prop :=
  listenPort + 1 = next ∧ listenPort ≠ 65535 ∧ next ≠ 65535

instance (listenPort next : Nat) : Decidable (PortFollows listenPort next) :=
  inferInstanceAs (Decidable (_ ∧ _ ∧ _))

/-! ## The ports of a policy -/

section

variable {spec spec' : ClientSpec} {port : Nat}

/-- The policy that `newClientPolicy` accepts binds the listen port and the one after it. -/
theorem startedPorts_of_ok (h : validateClientSpec spec = .ok ()) :
    startedPorts spec = [spec.listenPort, spec.listenPort + 1] ∧ spec.listenPort ≠ 65535 := by
  have hports : managementListenPort spec.listenPort ≠ 0 := by
    simp only [validateClientSpec, except_bind_eq_ok, refuseIf_eq_ok, Bool.or_eq_false_iff] at h
    obtain ⟨_, -, _, -, _, -, _, -, _, -, _, ⟨-, hport⟩, -⟩ := h
    simpa using hport
  unfold managementListenPort at hports
  split at hports
  next => exact absurd rfl hports
  next hport =>
    have hlast : ¬ (spec.listenPort = 0 ∨ spec.listenPort = 65535) := by simpa using hport
    refine ⟨?_, fun heq => hlast (.inr heq)⟩
    simp [startedPorts, newClientPolicy, h, managementListenPort, hport]

theorem mem_startedPorts (h : port ∈ startedPorts spec) :
    (port = spec.listenPort ∨ port = spec.listenPort + 1) ∧ spec.listenPort ≠ 65535 := by
  cases hvalid : validateClientSpec spec with
  | ok _ =>
    obtain ⟨hports, hlast⟩ := startedPorts_of_ok hvalid
    rw [hports] at h
    exact ⟨by simpa using h, hlast⟩
  | error err =>
    simp [startedPorts, newClientPolicy, hvalid] at h

/-- Tunnels on different listen ports that do not follow each other want no common port. -/
theorem disjoint_startedPorts (hne : spec.listenPort ≠ spec'.listenPort)
    (hnext : ¬ PortFollows spec.listenPort spec'.listenPort)
    (hprevious : ¬ PortFollows spec'.listenPort spec.listenPort) :
    List.Disjoint (startedPorts spec) (startedPorts spec') := by
  intro port hport hport'
  obtain ⟨hport, hlast⟩ := mem_startedPorts hport
  obtain ⟨hport', hlast'⟩ := mem_startedPorts hport'
  unfold PortFollows at hnext hprevious
  omega

end

/-! ## Valid manifests -/

variable {net : NetIP} {config : ClientConfig} {tunnel : Tunnel} {paths : ClientPaths} {addr : Addr}

/-- The files of a tunnel have absolute paths without control characters. -/
structure ClientPaths.Usable (paths : ClientPaths) : Prop where
  absolute : ∀ path ∈ [paths.identityFile, paths.knownHostsFile, paths.globalKnownHostsFile],
    isAbs path = true
  plain : ∀ path ∈ [paths.identityFile, paths.knownHostsFile, paths.globalKnownHostsFile],
    containsAny path ['\r', '\n', '\x00'] = false

theorem validateTunnelID_field {field field' : String} {value : Text}
    (h : validateTunnelID field value = .ok ()) : validateTunnelID field' value = .ok () := by
  simp only [validateTunnelID, validateSafeString, except_bind_eq_ok, refuseIf_eq_ok] at h ⊢
  exact h

theorem validateSpecField_of_validateUnixUser {field : String} {value : Text}
    (h : validateUnixUser value = .ok ()) : validateSpecField field value = .ok () := by
  simp only [validateUnixUser, validateSafeString, except_bind_eq_ok, refuseIf_eq_ok] at h
  obtain ⟨_, hcontrol, _, hlength, -⟩ := h
  simp only [validateSpecField, except_bind_eq_ok, refuseIf_eq_ok]
  refine ⟨(), (Bool.or_eq_false_iff.1 hlength).1, ?_⟩
  rw [containsAny, List.any_eq_false]
  intro c hc hforbidden
  have hsafe := List.any_eq_false.1 hcontrol c hc
  have hcases : c = '\r' ∨ c = '\n' ∨ c = '\x00' := by simpa using hforbidden
  rcases hcases with rfl | rfl | rfl <;> exact hsafe (by decide)

/-- Two tunnels with different ids and listen ports. -/
def Tunnel.Apart (tunnel other : Tunnel) : Prop :=
  tunnel.id ≠ other.id ∧ tunnel.listen.port ≠ other.listen.port

instance : Std.Symm Tunnel.Apart := ⟨fun _ _ h => ⟨h.1.symm, h.2.symm⟩⟩

theorem tunnels_of_validateTunnels {passed tunnels : List Tunnel}
    (h : validateTunnels passed tunnels = .ok ()) (hpassed : passed.Pairwise Tunnel.Apart) :
    (∀ tunnel ∈ tunnels, ∃ field, validateTunnel field tunnel = .ok ()) ∧
      (passed ++ tunnels).Pairwise Tunnel.Apart := by
  induction tunnels generalizing passed with
  | nil => exact ⟨by simp, by simpa using hpassed⟩
  | cons tunnel tunnels ih =>
    simp only [validateTunnels, except_bind_eq_ok, refuseIf_eq_ok] at h
    obtain ⟨_, hvalid, _, hids, h⟩ := h
    split at h
    next => cases h
    next hports =>
      have hnext : (passed ++ [tunnel]).Pairwise Tunnel.Apart := by
        refine List.pairwise_append.2 ⟨hpassed, List.pairwise_singleton _ _, ?_⟩
        intro previous hprevious other hother
        rw [List.mem_singleton.1 hother]
        refine ⟨?_, ?_⟩
        · simpa using List.any_eq_false.1 hids previous hprevious
        · simpa using List.find?_eq_none.1 hports previous hprevious
      obtain ⟨hrest, hpairs⟩ := ih h hnext
      refine ⟨?_, by simpa using hpairs⟩
      intro other hother
      rcases List.mem_cons.1 hother with rfl | hother
      · exact ⟨_, hvalid⟩
      · exact hrest other hother

/-- A valid manifest: its server, its profile and its tunnels. -/
structure ClientConfig.Valid (net : NetIP) (config : ClientConfig) : Prop where
  profile : config.profileID = .current
  server : validateServer net config.server = .ok ()
  tunnels : ∀ tunnel ∈ config.tunnels, ∃ field, validateTunnel field tunnel = .ok ()
  distinct : config.tunnels.Pairwise Tunnel.Apart

theorem valid_of_validate (h : config.validate net = .ok ()) : config.Valid net := by
  simp only [ClientConfig.validate, except_bind_eq_ok, refuseIf_eq_ok] at h
  obtain ⟨_, -, _, -, _, -, _, -, _, hprofile, _, -, _, hserver, _, -, _, htunnels, -⟩ := h
  obtain ⟨hvalid, hdistinct⟩ := tunnels_of_validateTunnels htunnels .nil
  exact ⟨by simpa using hprofile, hserver, hvalid, hdistinct⟩

variable (h : config.Valid net) (htunnel : tunnel ∈ config.tunnels)
include h htunnel

theorem ClientConfig.Valid.find?_eq :
    config.tunnels.find? (fun other => other.id = tunnel.id) = some tunnel := by
  cases hfound : config.tunnels.find? fun other => other.id = tunnel.id with
  | none =>
    have hnone := List.find?_eq_none.1 hfound tunnel htunnel
    simp at hnone
  | some found =>
    have hid : found.id = tunnel.id := by simpa using List.find?_some hfound
    by_contra hne
    have hfoundMem := List.mem_of_find?_eq_some hfound
    exact (h.distinct.forall hfoundMem htunnel fun heq => hne (by rw [heq])).1 hid

theorem ClientConfig.Valid.clientSpec_eq : clientSpec config tunnel.id paths addr = .ok
      { tunnelID := tunnel.id
        serverAddress := some addr.unmap
        serverPort := config.server.port
        serverUser := config.server.user
        listenAddress := tunnel.listen.address.map Addr.unmap
        listenPort := tunnel.listen.port
        targetAddress := tunnel.target.address.map Addr.unmap
        targetPort := tunnel.target.port
        identityFile := paths.identityFile
        knownHostsFile := paths.knownHostsFile
        globalKnownHostsFile := paths.globalKnownHostsFile
        profileID := config.profileID } := by
  unfold clientSpec
  rw [h.find?_eq htunnel]
  simp only [except_bind_eq_ok, lookupProfile, refuseIf_eq_ok]
  exact ⟨(), by simp [h.profile], rfl⟩

/-- **A tunnel of a valid manifest can be started** unless it listens on the last port. -/
theorem validateClientSpec_iff (hpaths : paths.Usable) {spec : ClientSpec}
    (hspec : clientSpec config tunnel.id paths addr = .ok spec) :
    validateClientSpec spec = .ok () ↔ tunnel.listen.port ≠ 65535 := by
  rw [h.clientSpec_eq htunnel, Except.ok.injEq] at hspec
  subst hspec
  obtain ⟨field, hvalid⟩ := h.tunnels tunnel htunnel
  simp only [validateTunnel, validatePort, except_bind_eq_ok, refuseIf_eq_ok] at hvalid
  obtain ⟨_, hid, _, -, _, hlisten, _, hport, _, htarget, htargetPort⟩ := hvalid
  have hserver := h.server
  simp only [validateServer, validatePort, except_bind_eq_ok, refuseIf_eq_ok] at hserver
  obtain ⟨_, -, _, hserverPort, huser⟩ := hserver
  have hlisten' : tunnel.listen.address = some requiredListenerAddress := by simpa using hlisten
  constructor
  · intro hok
    exact (startedPorts_of_ok hok).2
  · intro hlast
    have hmanagement : managementListenPort tunnel.listen.port ≠ 0 := by
      have hzero : tunnel.listen.port ≠ 0 := by simpa using hport
      simp [managementListenPort, hzero, hlast]
    have hfile : ∀ field, ∀ path ∈ [paths.identityFile, paths.knownHostsFile,
        paths.globalKnownHostsFile], validateSpecField field path = .ok () := by
      intro field path hmem
      simp only [validateSpecField, except_bind_eq_ok, refuseIf_eq_ok]
      refine ⟨(), ?_, hpaths.plain path hmem⟩
      have habsolute := hpaths.absolute path hmem
      cases path with
      | nil => cases habsolute
      | cons _ _ => rfl
    simp only [validateClientSpec, lookupProfile, except_bind_eq_ok, refuseIf_eq_ok, mapError_eq_ok]
    refine ⟨(), by rw [h.profile]; rfl, (), validateTunnelID_field hid, (), by simp [h.profile], (),
      ?_, (), by rw [hlisten']; rfl, (), ?_, (), validateSpecField_of_validateUnixUser huser,
      (), hfile _ _ (by simp), (), hfile _ _ (by simp), (), hfile _ _ (by simp),
      (), by rw [hpaths.absolute _ (by simp)]; rfl, (), by rw [hpaths.absolute _ (by simp)]; rfl,
      by rw [hpaths.absolute _ (by simp)]; rfl⟩
    · cases haddress : tunnel.target.address with
      | none =>
        rw [haddress] at htarget
        cases htarget
      | some _ => rfl
    · rw [hserverPort, hport, htargetPort]
      simpa using hmanagement

end WarpTweet
