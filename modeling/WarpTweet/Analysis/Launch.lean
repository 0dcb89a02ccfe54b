import WarpTweet.Analysis.ClientPolicy
import WarpTweet.Analysis.DottedNet
import WarpTweet.Analysis.Labels
import WarpTweet.Analysis.Minting
import WarpTweet.Analysis.Scenario
import WarpTweet.Model.Routes

/-!
# Which invites lead to a tunnel

A client consumes an invite once it has parsed it and reserved a listen port. Only then it builds
its manifest, and only when the tunnel is started the policy is checked. For an invite that was
minted from a valid server manifest, this is settled beforehand: the tunnel can be launched
exactly when the listen port is not the last one, the target is not written as an IPv4-mapped
address, and the data dial is not a name that becomes a reserved address without its final dot.
-/

namespace WarpTweet

open Strings

/-- The tunnel of an invite can be launched: its manifest is built, and the policy is accepted for
every server address that the resolver permits. -/
def Launches (env : Env) (invite : Invite) (tunnelID : Text) (listenPort : Nat) (sshDigest : Text)
    (paths : ClientPaths) : Prop :=
  ∃ config, buildClientManifest env invite tunnelID listenPort sshDigest = .ok config ∧
    ∀ (addr : Addr) (allowLoopback : Bool), validateAnswer addr allowLoopback = .ok () →
      ∃ spec forwards, clientSpec config tunnelID paths addr = .ok spec ∧
        newClientPolicy spec = .ok forwards

/-- The condition on the server manifest and the listen port. -/
structure CanLaunch (net : NetIP) (manifest : ServerConfig) (listenPort : Nat) : Prop where
  port : listenPort ≠ 65535
  target : ∀ addr, manifest.target.address = some addr → addr.is4In6 = false
  dial : ∀ text addr, canonicalDNSName net manifest.network.data.dial.host.name = .ok text →
    net.parseAddr text = some addr → addr.Dialable

/-! ## What the server manifest guarantees -/

variable {addr : Addr}

section

variable {net : NetIP} {manifest : ServerConfig} {field : String}

theorem of_validate (h : manifest.validate net = .ok ()) : manifest.profileID = .current ∧
    validateDial net "Network.Data.Dial" manifest.network.data.listen manifest.network.data.dial =
      .ok () ∧
    validateEndpoint "Target" manifest.target = .ok () ∧
    validateDedicatedUser manifest.dedicatedUser = .ok () := by
  simp only [ServerConfig.validate, except_bind_eq_ok, refuseIf_eq_ok, mapError_eq_ok] at h
  obtain ⟨_, -, _, -, _, hprofile, _, -, _, -, _, hnetwork, _, htarget, _, huser, -⟩ := h
  simp only [validateNetwork, except_bind_eq_ok] at hnetwork
  obtain ⟨_, -, _, -, _, -, _, -, _, hdial, -⟩ := hnetwork
  rw [lookupProfile, refuseIf_eq_ok] at hprofile
  exact ⟨by simpa using hprofile, hdial, htarget, huser⟩

theorem validateUnixUser_of_validateDedicatedUser {user : Text}
    (h : validateDedicatedUser user = .ok ()) : validateUnixUser user = .ok () := by
  simp only [validateDedicatedUser, except_bind_eq_ok, refuseIf_eq_ok, Bool.not_eq_false'] at h
  obtain ⟨_, hempty, _, hlength, _, hfirst, _, hrest, -⟩ := h
  have hswap : ∀ c, isUserInitial c = (isLowerASCIILetter c || c == '_') := by
    intro c
    rw [isUserInitial, isLowerASCIILetter, Bool.or_comm]
  have hcontinue : ∀ c, isUserContinuation c =
      (isLowerASCIIAlphaNumeric c || c == '_' || c == '-') := by
    intro c
    rw [isUserContinuation, hswap, isLowerASCIIAlphaNumeric]
    cases isLowerASCIILetter c <;> cases (c == '_') <;> simp
  have hplain : ∀ c, isUserContinuation c = true → isControl c = false := by
    intro c hc
    rw [hcontinue] at hc
    by_cases hunderscore : c = '_'
    · subst hunderscore
      decide
    · apply isControl_of_isLabelChar
      simpa [isLabelChar, hunderscore] using hc
  have hchars : ∀ c ∈ user, isUserContinuation c = true := by
    intro c hc
    cases user with
    | nil => cases hc
    | cons first rest =>
      rcases List.mem_cons.1 hc with rfl | hc
      · have hinitial : isUserInitial c = true := by simpa using hfirst
        rw [isUserContinuation, hinitial, Bool.true_or, Bool.true_or]
      · exact List.all_eq_true.1 hrest c hc
  simp only [validateUnixUser, validateSafeString, except_bind_eq_ok, refuseIf_eq_ok,
    Bool.not_eq_false']
  refine ⟨(), ?_, (), ?_, (), ?_, ?_⟩
  · rw [List.any_eq_false]
    intro c hc
    rw [hplain c (hchars c hc)]
    decide
  · rw [hempty, hlength]
    rfl
  · rw [← funext hswap]
    exact hfirst
  · rw [← funext hcontinue]
    exact hrest

theorem validateAddress_iff {port : Int}
    (h : validateEndpoint "Target" ⟨some addr, port⟩ = .ok ()) :
    validateAddress field (some addr) = .ok () ↔ addr.is4In6 = false := by
  simp only [validateEndpoint, except_bind_eq_ok, refuseIf_eq_ok] at h
  obtain ⟨_, hzone, _, hspecified, _, hunicast, _, hsingle, -⟩ := h
  simp only [validateAddress, except_bind_eq_ok, refuseIf_eq_ok]
  constructor
  · rintro ⟨_, -, _, hmapped, -⟩
    exact hmapped
  · intro hmapped
    rw [unmap_of_not_is4In6 hmapped] at hspecified hunicast hsingle
    exact ⟨(), hzone, (), hmapped, (), hspecified, (), hunicast, hsingle⟩

theorem dialable_of_validateDialAddress {bindAddr given : Addr}
    (h : validateDialAddress field bindAddr given = .ok ()) : given.unmap.Dialable := by
  simp only [validateDialAddress, except_bind_eq_ok, refuseIf_eq_ok] at h
  obtain ⟨_, -, _, hspecified, _, hunicast, _, hsingle, _, hglobal, -⟩ := h
  exact ⟨hspecified, hunicast, hglobal, hsingle⟩

theorem dialable_iff (hnet : net.Lawful) {bound : BindEndpoint} {dial : DialEndpoint} {text : Text}
    (hdial : validateDial net field bound dial = .ok ())
    (hcanonical : dial.host.canonical net = .ok text) :
    (∀ addr, net.parseAddr text = some addr → addr.Dialable) ↔
      ∀ text addr, canonicalDNSName net dial.host.name = .ok text →
        net.parseAddr text = some addr → addr.Dialable := by
  simp only [validateDial, except_bind_eq_ok, refuseIf_eq_ok] at hdial
  obtain ⟨_, -, _, hone, hdial⟩ := hdial
  cases hip : dial.host.ip with
  | none =>
    have hname : canonicalDNSName net dial.host.name = .ok text := by
      unfold DialHost.canonical at hcanonical
      rw [hip] at hcanonical
      dsimp only at hcanonical
      split at hcanonical
      next => cases hcanonical
      next => exact hcanonical
    constructor
    · intro h other addr hother
      rw [hname, Except.ok.injEq] at hother
      subst hother
      exact h addr
    · intro h addr
      exact h text addr hname
  | some given =>
    rw [hip] at hone hdial
    have hname : dial.host.name = [] := by
      cases hname : dial.host.name with
      | nil => rfl
      | cons c rest =>
        rw [hname] at hone
        cases hone
    have htext : net.parseAddr text = some given.unmap := by
      unfold DialHost.canonical at hcanonical
      rw [hip, hname] at hcanonical
      simp only [List.isEmpty_nil, Bool.not_true, Bool.false_eq_true, if_false] at hcanonical
      split at hcanonical
      next hzone =>
        cases hcanonical
        exact hnet.parse_format _ (zone_unmap (List.isEmpty_iff.1 hzone))
      next => cases hcanonical
    constructor
    · intro _ other addr hother
      rw [hname] at hother
      simp [canonicalDNSName, refuseIf, bind, Except.bind] at hother
    · intro _ addr haddr
      rw [htext, Option.some.injEq] at haddr
      rw [← haddr]
      exact dialable_of_validateDialAddress hdial

end

/-! ## What the client builds -/

section

variable {env : Env} {manifest : ServerConfig} {invite : Invite} {tunnelID sshDigest : Text}
  {listenPort : Nat} {paths : ClientPaths} {config : ClientConfig} {target : Addr}

/-- The manifest that `BuildClientManifest` validates, for a tunnel id and a listen port that are
given. -/
def builtManifest (invite : Invite) (tunnelID : Text) (listenPort : Nat) (sshDigest : Text)
    (target : Addr) : ClientConfig where
  kind := clientTunnelsKind
  schemaVersion := 2
  profileID := invite.profileID
  sshBinarySHA256 := sshDigest
  server := { host := invite.data.host, port := invite.data.port, user := invite.principal }
  tunnels :=
    [{ id := tunnelID
       listen := ⟨some requiredListenerAddress, listenPort⟩
       target := ⟨some target, invite.targetPort⟩ }]
  supervision := { initialBackoff := Time.second, maxBackoff := 30 * Time.second }

theorem buildClientManifest_eq_ok (hid : tunnelID ≠ []) (hport : listenPort ≠ 0)
    (hhost : ∃ host, parseDialHost env.net invite.data.host = .ok host)
    (htarget : env.net.parseAddr invite.targetAddress = some target) :
    buildClientManifest env invite tunnelID listenPort sshDigest = .ok config ↔
      (builtManifest invite tunnelID listenPort sshDigest target).validate env.net = .ok () ∧
        builtManifest invite tunnelID listenPort sshDigest target = config := by
  obtain ⟨host, hhost⟩ := hhost
  have hempty : tunnelID.isEmpty = false := List.isEmpty_eq_false_iff.2 hid
  have hparse : env.net.parse invite.targetAddress = .ok target := by
    rw [NetIP.parse, htarget]
  simp only [buildClientManifest, hhost, hparse, except_bind_eq_ok, hempty, hport, Except.ok.injEq,
    exists_eq_left', Bool.false_eq_true, if_false]
  constructor
  · rintro ⟨_, hvalid, hconfig⟩
    cases hconfig
    exact ⟨hvalid, rfl⟩
  · rintro ⟨hvalid, rfl⟩
    exact ⟨(), hvalid, rfl⟩

theorem validate_builtManifest (hprofile : invite.profileID = .current)
    (hdigest : isLowerHexDigest sshDigest = true) (hserverPort : invite.data.port ≠ 0)
    (huser : validateUnixUser invite.principal = .ok ())
    (hid : validateTunnelID "tunnels[0].id" tunnelID = .ok ()) (hport : listenPort ≠ 0)
    (htargetPort : invite.targetPort ≠ 0) :
    (builtManifest invite tunnelID listenPort sshDigest target).validate env.net = .ok () ↔
      validateServerHost env.net invite.data.host = .ok () ∧
        validateAddress "tunnels[0].target.address" (some target) = .ok () := by
  have hfield : "tunnels[" ++ toString ([] : List Tunnel).length ++ "]" = "tunnels[0]" := by decide
  have hkind : validateSafeString "kind" clientTunnelsKind = .ok () := by decide +kernel
  have hlisten : ∀ field, validateAddress field (some requiredListenerAddress) = .ok () := by
    intro field
    simp only [validateAddress, except_bind_eq_ok, refuseIf_eq_ok]
    exact ⟨(), by decide, (), by decide, (), by decide, (), by decide, by decide⟩
  have hsupervision :
      validateSupervision { initialBackoff := Time.second, maxBackoff := 30 * Time.second } =
        .ok () := by
    decide +kernel
  have hnonzero : ∀ {field : String} {port : Nat}, port ≠ 0 → validatePort field port = .ok () := by
    intro field port hne
    rw [validatePort, refuseIf_eq_ok, beq_eq_false_iff_ne]
    exact hne
  simp only [ClientConfig.validate, builtManifest, validateServer, validateTunnels, hfield,
    validateTunnel, except_bind_eq_ok, refuseIf_eq_ok]
  constructor
  · rintro ⟨_, -, _, -, _, -, _, -, _, -, _, -, _, ⟨_, hhost, -⟩, _, -, _,
      ⟨_, ⟨_, -, _, -, _, -, _, -, _, htarget, -⟩, -⟩, -⟩
    exact ⟨hhost, htarget⟩
  · rintro ⟨hhost, htarget⟩
    refine ⟨(), hkind, (), by simp, (), by simp, (), by rw [hprofile]; rfl, (),
      by simp [hprofile], (), ?_, (), ⟨(), hhost, (), hnonzero hserverPort, huser⟩, (), rfl, (),
      ⟨(), ⟨(), hid, (), hlisten _, (), by simp, (), hnonzero hport, (), htarget,
        hnonzero htargetPort⟩, (), rfl, rfl⟩, hsupervision⟩
    rw [validateSSHBinarySHA256, refuseIf_eq_ok, hdigest]
    rfl

/-- **A tunnel whose manifest is built can be launched** unless it listens on the last port. -/
theorem launches_iff_of_build (hid : tunnelID ≠ []) (hport : listenPort ≠ 0)
    (hhost : ∃ host, parseDialHost env.net invite.data.host = .ok host)
    (htarget : env.net.parseAddr invite.targetAddress = some target) (hpaths : paths.Usable) :
    Launches env invite tunnelID listenPort sshDigest paths ↔
      (builtManifest invite tunnelID listenPort sshDigest target).validate env.net = .ok () ∧
        listenPort ≠ 65535 := by
  -- an address that every resolver permits, so that there is a policy to check
  have hpermitted : validateAnswer (.v4 0xc0000201) false = .ok () := by decide +kernel
  constructor
  · rintro ⟨config, hbuild, hlaunch⟩
    obtain ⟨hvalid, rfl⟩ := (buildClientManifest_eq_ok hid hport hhost htarget).1 hbuild
    obtain ⟨spec, forwards, hspec, hpolicy⟩ := hlaunch _ _ hpermitted
    refine ⟨hvalid, ?_⟩
    rw [newClientPolicy, except_bind_eq_ok] at hpolicy
    obtain ⟨_, hok, -⟩ := hpolicy
    exact (validateClientSpec_iff (valid_of_validate hvalid) List.mem_cons_self hpaths hspec).1 hok
  · rintro ⟨hvalid, hlast⟩
    refine ⟨_, (buildClientManifest_eq_ok hid hport hhost htarget).2 ⟨hvalid, rfl⟩, ?_⟩
    intro addr allowLoopback _
    have hmanifest := valid_of_validate hvalid
    obtain ⟨spec, hspec⟩ : ∃ spec, clientSpec
        (builtManifest invite tunnelID listenPort sshDigest target) tunnelID paths addr = .ok spec :=
      ⟨_, hmanifest.clientSpec_eq List.mem_cons_self⟩
    have hok := (validateClientSpec_iff hmanifest List.mem_cons_self hpaths hspec).2 hlast
    exact ⟨spec, _, hspec, by rw [newClientPolicy, hok]; rfl⟩

end

/-! ## From the server manifest to the tunnel -/

section

variable {env : Env} {docs : InviteDocs} {install : HostInstall} {manifest : ServerConfig}
  {clientName hostPublicKey pin : Text} {target : Addr × Nat} {seconds : Int}
  {mintedAt mintClock now clock : Time} {nonce inviteID : RandomHex} {invite parsed : Invite}
  {record : Record} {raw : Text} {view : ClientView} {store : RouteStore} {listenPort : Nat}
  {fault : RouteFault} {made : Bool} {sshDigest : Text} {paths : ClientPaths}

theorem port_ne_zero_of_reservePortLocked {routeID : Text}
    (h : (reservePortLocked store routeID listenPort fault).1 = .ok made) : listenPort ≠ 0 := by
  intro hzero
  rw [reservePortLocked, if_pos hzero] at h
  cases h

/-- **When a consumed invite leads to a tunnel.** The invite is minted from a valid server
manifest, `raw` is a document of it that the client accepts, and the listen port is reserved. -/
theorem launches_iff (hnet : env.net.Lawful) (hvalid : manifest.validate env.net = .ok ())
    (hmint : mintServerInvite env install clientName target manifest hostPublicKey pin seconds
      mintedAt nonce inviteID mintClock = .ok (invite, record))
    (hdoc : docs.decodeInvite raw = .ok invite)
    (hparse : parseClientInvite env docs raw now clock = .ok (parsed, view))
    (hreserve : (reservePortLocked store view.tunnelID listenPort fault).1 = .ok made)
    (hdigest : isLowerHexDigest sshDigest = true) (hpaths : paths.Usable) :
    Launches env parsed view.tunnelID listenPort sshDigest paths ↔
      CanLaunch env.net manifest listenPort := by
  obtain ⟨-, hdial, htarget, huser⟩ := of_validate hvalid
  have hminted := minted_of_mintServerInvite hnet hmint
  have hdata := isHost_of_canonical hnet hminted.dataHost
  obtain ⟨rfl, hshape, hprofile, htunnel⟩ := of_parseClientInvite hnet hdata
    (isHost_of_canonical hnet hminted.enrollHost) hdoc hparse
  obtain ⟨hdataPort, htargetPort⟩ := ports_of_validateInviteShape hshape
  have hport := port_ne_zero_of_reservePortLocked hreserve
  have hlabel : IsLabel view.tunnelID := by
    rw [htunnel]
    exact isLabel_sanitizeInviteLabel _
  have hid : view.tunnelID ≠ [] := by
    intro hnil
    have hfirst := hlabel.first
    rw [hnil] at hfirst
    cases hfirst
  obtain ⟨addr, haddr, htext⟩ := hminted.target
  have hendpoint : validateEndpoint "Target" ⟨some addr, manifest.target.port⟩ = .ok () := by
    rw [← haddr]
    exact htarget
  have hzone : addr.zone = [] := by
    simp only [validateEndpoint, except_bind_eq_ok, refuseIf_eq_ok] at hendpoint
    obtain ⟨_, hzone, -⟩ := hendpoint
    simpa using hzone
  have haddress : env.net.parseAddr parsed.targetAddress = some addr := by
    rw [htext]
    exact hnet.parse_format addr hzone
  have hunix : validateUnixUser parsed.principal = .ok () := by
    rw [hminted.principal]
    exact validateUnixUser_of_validateDedicatedUser huser
  rw [launches_iff_of_build hid hport ⟨_, hdata.parseDialHost_eq hnet⟩ haddress hpaths,
    validate_builtManifest hprofile hdigest hdataPort hunix (hlabel.validateTunnelID _) hport
      htargetPort,
    hdata.validateServerHost_iff hnet, validateAddress_iff hendpoint,
    dialable_iff hnet hdial hminted.dataHost]
  constructor
  · rintro ⟨⟨hdialable, hmapped⟩, hlast⟩
    refine ⟨hlast, ?_, hdialable⟩
    intro other hother
    rw [haddr, Option.some.injEq] at hother
    rw [← hother]
    exact hmapped
  · rintro ⟨hlast, hmapped, hdialable⟩
    exact ⟨⟨hdialable, hmapped addr haddr⟩, hlast⟩

/-- A launch for one server address. -/
def launch (env : Env) (invite : Invite) (tunnelID : Text) (listenPort : Nat) (sshDigest : Text)
    (paths : ClientPaths) (addr : Addr) : Except Err (List LocalForward) := do
  let config ← buildClientManifest env invite tunnelID listenPort sshDigest
  let spec ← clientSpec config tunnelID paths addr
  newClientPolicy spec

theorem Launches.launch_eq {tunnelID : Text}
    (h : Launches env invite tunnelID listenPort sshDigest paths)
    (haddr : validateAnswer addr false = .ok ()) :
    ∃ forwards, launch env invite tunnelID listenPort sshDigest paths addr = .ok forwards := by
  obtain ⟨config, hbuild, hlaunch⟩ := h
  obtain ⟨spec, forwards, hspec, hpolicy⟩ := hlaunch addr false haddr
  refine ⟨forwards, ?_⟩
  simp only [launch, except_bind_eq_ok]
  exact ⟨config, hbuild, spec, hspec, hpolicy⟩

end

/-! ## A host and its clients -/

namespace LaunchScenario

/-- The small host of the schedules, with addresses in bytes. -/
def env : Env := { Scenario.env with net := DottedNet.net }

def hostAddr : Addr := .v4 0xc0000201

/-- A manifest with the given data dial and target. -/
def manifest (dataHost : DialHost) (target : Addr) : ServerConfig where
  kind := serverManifestKind
  schemaVersion := 2
  profileID := .current
  sshdBinarySHA256 := List.replicate 64 '0'
  openSSHBundleManifestSHA256 := List.replicate 64 '0'
  network :=
    { publishedEndpointGeneration := 1
      data := { listen := ⟨hostAddr, 2222⟩, dial := ⟨dataHost, 2222⟩ }
      enrollment := { listen := ⟨hostAddr, 29722⟩, dial := ⟨⟨some hostAddr, []⟩, 29722⟩ } }
  target := ⟨some target, 5432⟩
  dedicatedUser := "warptweet".toList
  hostKeyPath := serverHostKeyPath
  authorizedKeysPath := managedAuthorizedKeysPath "warptweet".toList

def random : RandomHex where
  text := List.replicate 32 'a'
  length := by decide
  hex := by
    intro c hc
    rw [List.eq_of_mem_replicate hc]
    decide

/-- An installation that knows its artifact profile. -/
def install : HostInstall where
  deriveHostPublicKey _ := .ok "key".toList
  artifactID := .ok "linux".toList

/-- The invite that the host mints for `agent`. -/
def invite (dataHost targetAddress : Text) : Invite where
  kind := .invite
  schemaVersion := 3
  inviteID := random.text
  clientName := "agent".toList
  data := ⟨dataHost, 2222⟩
  enrollment := ⟨DottedNet.net.format hostAddr, 29722, List.replicate 64 '0'⟩
  publishedEndpointGeneration := 1
  targetAddress
  targetPort := 5432
  principal := "warptweet".toList
  profileID := .current
  artifactProfileID := "linux".toList
  hostPublicKey := "key".toList
  issuedAt := .at Scenario.now
  expiresAt := .at (Scenario.now + defaultTTL)
  authorizationDurationSeconds := 30 * 24 * 3600
  nonce := random.text

/-- A decoder that reads the document of one invite. -/
def docs (invite : Invite) : InviteDocs where
  stampText _ := "2023-11-14T22:13:20Z".toList
  decodeInvite _ := .ok invite

def view : ClientView where
  listenAddress := "127.0.0.1".toList
  listenPort := 15432
  tunnelID := "agent".toList

def paths : ClientPaths := ⟨"/id".toList, "/known".toList, "/global".toList⟩

theorem paths_usable : paths.Usable := ⟨by decide, by decide⟩

/-- The host offers an invite that the client accepts: the manifest is valid, and the invite is
minted from it and parsed by the client. -/
def Offered (dataHost : DialHost) (dataText : Text) (target : Addr) : Prop :=
  let minted := invite dataText (DottedNet.net.format target)
  (manifest dataHost target).validate env.net = .ok () ∧
  mintServerInvite env install "agent".toList (target, 5432) (manifest dataHost target) []
    (List.replicate 64 '0') 0 Scenario.now random random Scenario.now =
      .ok (minted, { minted with status := .issued }) ∧
  parseClientInvite env (docs minted) (encodeInvite (docs minted) minted) Scenario.now
    Scenario.now = .ok (minted, view)

instance (dataHost : DialHost) (dataText : Text) (target : Addr) :
    Decidable (Offered dataHost dataText target) :=
  inferInstanceAs (Decidable (_ ∧ _ ∧ _))

/-- The client reserves its listen port in an empty store. It then consumes the invite. -/
def Reserved (listenPort : Nat) : Prop :=
  (reservePortLocked ⟨[], .nil⟩ view.tunnelID listenPort .none).1 = .ok true

instance (listenPort : Nat) : Decidable (Reserved listenPort) :=
  inferInstanceAs (Decidable (_ = _))

def hostText : Text := "192.0.2.1".toList

theorem offered : Offered ⟨some hostAddr, []⟩ hostText (.v4 0x7f000001) := by decide +kernel

end LaunchScenario

open LaunchScenario in
/-- The default listen port, a loopback target and a dial by address lead to a tunnel. -/
theorem launches_iff_default_port :
    Launches env (LaunchScenario.invite hostText (DottedNet.net.format (.v4 0x7f000001)))
      view.tunnelID 15432 (List.replicate 64 '0') LaunchScenario.paths := by
  obtain ⟨hvalid, hmint, hparse⟩ := offered
  have hreserve : Reserved 15432 := by decide +kernel
  refine (launches_iff DottedNet.lawful hvalid hmint rfl hparse hreserve (by decide)
    paths_usable).2 ⟨by decide, ?_, ?_⟩
  · intro addr haddr
    cases haddr
    decide
  · intro text addr htext
    cases htext

open LaunchScenario in
/-- Three invites that are consumed for a tunnel that cannot be launched: the listen port is the
last one; the target is `::ffff:127.0.0.1`; the data dial is the name `224.0.0.1.`, which is a
multicast address without its final dot. -/
theorem consumed_without_launch :
    (Offered ⟨some hostAddr, []⟩ hostText (.v4 0x7f000001) ∧ Reserved 65535 ∧
      ¬ Launches env (LaunchScenario.invite hostText (DottedNet.net.format (.v4 0x7f000001)))
        view.tunnelID 65535 (List.replicate 64 '0') LaunchScenario.paths) ∧
    (Offered ⟨some hostAddr, []⟩ hostText (.v6 0xffff7f000001 []) ∧ Reserved 15432 ∧
      ¬ Launches env (LaunchScenario.invite hostText (DottedNet.net.format (.v6 0xffff7f000001 [])))
        view.tunnelID 15432 (List.replicate 64 '0') LaunchScenario.paths) ∧
    (Offered ⟨none, "224.0.0.1.".toList⟩ "224.0.0.1".toList (.v4 0x7f000001) ∧ Reserved 15432 ∧
      ¬ Launches env
        (LaunchScenario.invite "224.0.0.1".toList (DottedNet.net.format (.v4 0x7f000001)))
        view.tunnelID 15432 (List.replicate 64 '0') LaunchScenario.paths) := by
  have hrefused : ∀ {minted : Invite} {listenPort : Nat},
      (launch env minted view.tunnelID listenPort (List.replicate 64 '0') LaunchScenario.paths
        hostAddr).isOk = false →
      ¬ Launches env minted view.tunnelID listenPort (List.replicate 64 '0')
        LaunchScenario.paths := by
    intro minted listenPort hlaunch h
    obtain ⟨forwards, hforwards⟩ := h.launch_eq (show validateAnswer hostAddr false = .ok () by
      decide +kernel)
    rw [hforwards] at hlaunch
    cases hlaunch
  exact ⟨⟨offered, by decide +kernel, hrefused (by decide +kernel)⟩,
    ⟨by decide +kernel, by decide +kernel, hrefused (by decide +kernel)⟩,
    ⟨by decide +kernel, by decide +kernel, hrefused (by decide +kernel)⟩⟩

end WarpTweet
