import WarpTweet.Model.ServerConfig

/-!
# Minting and reading invites

The host side of an invite, from the request to mint one (`mintServerInvite`, `Create`) to its
document, and the client side, from the document (`ParseClientInvite`) to the manifest of the
tunnel (`BuildClientManifest`). The document is JSON: it is written out here, since the client
searches its text for words, and reading it back is a parameter.
-/

namespace WarpTweet

open Strings

/-! ## The document -/

/-- The texts of timestamps and the strict decoder of invite documents. -/
structure InviteDocs where
  stampText : Stamp → Text
  decodeInvite : Text → Except Err Invite

/-- A hexadecimal digit of an escape. -/
def hexDigit (n : Nat) : Char := if n < 10 then Char.ofNat (48 + n) else Char.ofNat (87 + n)

/-- The characters that `encoding/json` writes as they are: those of `htmlSafeSet`, and all others
beyond ASCII but the two line separators. -/
def isHTMLSafe (c : Char) : Bool :=
  let n := c.toNat
  decide (0x20 ≤ n) && n != 0x22 && n != 0x26 && n != 0x3c && n != 0x3e && n != 0x5c &&
    n != 0x2028 && n != 0x2029

/-- One character in a JSON string, as `encoding/json` writes it. -/
def jsonChar (c : Char) : Text :=
  if isHTMLSafe c then [c]
  else if c = '"' then ['\\', '"']
  else if c = '\\' then ['\\', '\\']
  else if c = '\x08' then ['\\', 'b']
  else if c = '\x0c' then ['\\', 'f']
  else if c = '\n' then ['\\', 'n']
  else if c = '\r' then ['\\', 'r']
  else if c = '\t' then ['\\', 't']
  else if c.toNat = 0x2028 then "\\u2028".toList
  else if c.toNat = 0x2029 then "\\u2029".toList
  else ['\\', 'u', '0', '0', hexDigit (c.toNat / 16), hexDigit (c.toNat % 16)]

def jsonString (value : Text) : Text := '"' :: value.flatMap jsonChar ++ ['"']

def jsonMember (name : String) (value : Text) : Text := jsonString name.toList ++ ':' :: value

def jsonObject (members : List Text) : Text := '{' :: join members [','] ++ ['}']

def InviteKind.text : InviteKind → Text
  | .invite => "warptweet.invite".toList
  | .other kind => kind

/-- `Encode`. -/
def encodeInvite (docs : InviteDocs) (invite : Invite) : Text :=
  jsonObject
    [jsonMember "kind" (jsonString invite.kind.text),
     jsonMember "schema_version" (toString invite.schemaVersion).toList,
     jsonMember "invite_id" (jsonString invite.inviteID),
     jsonMember "client_name" (jsonString invite.clientName),
     jsonMember "data" (jsonObject
       [jsonMember "host" (jsonString invite.data.host),
        jsonMember "port" (toString invite.data.port).toList]),
     jsonMember "enrollment" (jsonObject
       [jsonMember "host" (jsonString invite.enrollment.host),
        jsonMember "port" (toString invite.enrollment.port).toList,
        jsonMember "tls_spki_sha256" (jsonString invite.enrollment.tlsSPKISHA256)]),
     jsonMember "published_endpoint_generation"
       (toString invite.publishedEndpointGeneration).toList,
     jsonMember "target_address" (jsonString invite.targetAddress),
     jsonMember "target_port" (toString invite.targetPort).toList,
     jsonMember "principal" (jsonString invite.principal),
     jsonMember "profile_id" (jsonString invite.profileID.text.toList),
     jsonMember "artifact_profile_id" (jsonString invite.artifactProfileID),
     jsonMember "host_public_key" (jsonString invite.hostPublicKey),
     jsonMember "issued_at" (jsonString (docs.stampText invite.issuedAt)),
     jsonMember "expires_at" (jsonString (docs.stampText invite.expiresAt)),
     jsonMember "authorization_duration_seconds"
       (toString invite.authorizationDurationSeconds).toList,
     jsonMember "nonce" (jsonString invite.nonce)]

/-! ## Minting -/

/-- `DefaultTTL`, in nanoseconds. -/
def defaultTTL : Int := 15 * 60 * Time.second

/-- `Policy`: the default and the maximum of authorization durations, in seconds. -/
structure DurationPolicy where
  defaultSeconds : Int
  maximumSeconds : Int
  deriving DecidableEq, Repr

def installedDefault : DurationPolicy where
  defaultSeconds := 30 * 24 * 3600
  maximumSeconds := 365 * 24 * 3600

/-- `fmt.Errorf("%w: ...", ErrInvalidPolicy)`. -/
def Err.invalidPolicy (text : String) : Err :=
  .plain ("invalid host authorization policy: " ++ text)

/-- `Validate` of a policy. -/
def DurationPolicy.validate (policy : DurationPolicy) : Except Err Unit := do
  let _ ← (durationFromSeconds policy.defaultSeconds).mapError fun err =>
    .invalidPolicy ("default_authorization_duration_seconds: " ++ err.text)
  let _ ← (durationFromSeconds policy.maximumSeconds).mapError fun err =>
    .invalidPolicy ("maximum_authorization_duration_seconds: " ++ err.text)
  refuseIf (decide (policy.maximumSeconds < policy.defaultSeconds))
    (.invalidPolicy "maximum must be at least the default")

def resolveDuration (policy : DurationPolicy) (requestedSeconds : Int) : Except Err Int := do
  policy.validate
  let seconds := if requestedSeconds = 0 then policy.defaultSeconds else requestedSeconds
  refuseIf (decide (seconds ≤ 0)) (.invalidDuration "duration must be positive")
  refuseIf (decide (policy.maximumSeconds < seconds))
    (.invalidDuration ("duration exceeds host maximum of " ++ toString policy.maximumSeconds ++
      " seconds"))
  let _ ← durationFromSeconds seconds
  pure seconds

/-- The hexadecimal form of sixteen random bytes. -/
structure RandomHex where
  text : Text
  length : text.length = 32
  hex : ∀ c ∈ text, c.isDigit = true ∨ 'a' ≤ c ∧ c ≤ 'f'

structure CreateInput where
  clientName : Text
  dataHost : Text
  dataPort : Nat
  enrollmentHost : Text
  enrollmentPort : Nat
  enrollmentTLSSPKISHA256 : Text
  publishedEndpointGeneration : Nat
  targetAddress : Option Addr
  targetPort : Nat
  principal : Text
  profileID : ProfileID
  artifactProfileID : Text
  hostPublicKey : Text
  ttl : Int
  authorizationDurationSeconds : Int
  maximumAuthorizationDurationSeconds : Int
  now : Time
  deriving DecidableEq, Repr

/-- The enrollment port of an input, with its default. -/
def CreateInput.enrollPort (input : CreateInput) : Nat :=
  if input.enrollmentPort = 0 then defaultEnrollmentPort else input.enrollmentPort

def validateCreateInput (env : Env) (input : CreateInput) : Except Err Unit := do
  refuseIf (input.clientName.isEmpty || !isSafeName input.clientName)
    (.invalidInvite "client name is required and must be alphanumeric with ._- ")
  let _ ← (canonicalInviteHost env input.dataHost).mapError (.asInvalidInvite "data host: ")
  let _ ← (canonicalInviteHost env input.enrollmentHost).mapError
    (.asInvalidInvite "enrollment host: ")
  refuseIf (input.targetAddress.all fun addr => addr.isUnspecified || !addr.zone.isEmpty)
    (.invalidInvite "target address must be a concrete unzoned IP")
  refuseIf (input.dataPort == 0 || input.targetPort == 0) (.invalidInvite "ports must be nonzero")
  refuseIf (input.publishedEndpointGeneration == 0)
    (.invalidInvite "published_endpoint_generation must be at least 1")
  let dataKey ← (dialLocatorKey env input.dataHost input.dataPort).mapError
    (.asInvalidInvite "data host: ")
  let enrollKey ← (dialLocatorKey env input.enrollmentHost input.enrollPort).mapError
    (.asInvalidInvite "enrollment host: ")
  refuseIf (dataKey = enrollKey)
    (.invalidInvite "data and enrollment locators must not share the same canonical host:port")
  refuseIf (input.principal.isEmpty || input.profileID.isEmpty || input.artifactProfileID.isEmpty)
    (.invalidInvite "principal, profile_id, and artifact_profile_id are required")
  refuseIf ((trimSpace input.hostPublicKey).isEmpty ||
      containsAny input.hostPublicKey ['\r', '\n', '\x00'])
    (.invalidInvite "host public key is required and must be one line")
  refuseIf (!isLowerHexDigest input.enrollmentTLSSPKISHA256)
    (.invalidInvite "enrollment tls_spki_sha256 must be a lowercase SHA-256 digest")

/-- `netip.Addr.String` of an address that may be the zero one. -/
def addrText (net : NetIP) (address : Option Addr) : Text :=
  (address.map net.format).getD "invalid IP".toList

/-- The time of an invite: the given one, or the clock's if it is zero. -/
def orClock (now clock : Time) : Time := if now.isZero then clock else now

def create (env : Env) (input : CreateInput) (nonce inviteID : RandomHex) (clock : Time) :
    Except Err (Invite × Record) := do
  validateCreateInput env input
  let ttl := if input.ttl ≤ 0 then defaultTTL else input.ttl
  refuseIf (decide (defaultTTL < ttl)) (.invalidInvite "ttl exceeds 15m0s")
  let policy := if input.maximumAuthorizationDurationSeconds = 0 then installedDefault
    else { installedDefault with maximumSeconds := input.maximumAuthorizationDurationSeconds }
  let authorizationSeconds ← (resolveDuration policy input.authorizationDurationSeconds).mapError
    (.asInvalidInvite "")
  let now := orClock input.now clock
  let dataHost ← (canonicalInviteHost env input.dataHost).mapError (.asInvalidInvite "data host: ")
  let enrollHost ← (canonicalInviteHost env input.enrollmentHost).mapError
    (.asInvalidInvite "enrollment host: ")
  let invite : Invite :=
    { kind := .invite
      schemaVersion := 3
      inviteID := inviteID.text
      clientName := input.clientName
      data := ⟨dataHost, input.dataPort⟩
      enrollment := ⟨enrollHost, input.enrollPort, trimSpace input.enrollmentTLSSPKISHA256⟩
      publishedEndpointGeneration := input.publishedEndpointGeneration
      targetAddress := addrText env.net input.targetAddress
      targetPort := input.targetPort
      principal := input.principal
      profileID := input.profileID
      artifactProfileID := input.artifactProfileID
      hostPublicKey := trimSpace input.hostPublicKey
      issuedAt := .format now
      expiresAt := .format (now + ttl)
      authorizationDurationSeconds := authorizationSeconds
      nonce := nonce.text }
  validateInviteShape env invite
  pure (invite, { invite with status := .issued })

/-- `netip.AddrPort.String`. -/
def addrPortText (net : NetIP) (endpoint : Addr × Nat) : Text :=
  let host := if endpoint.1.is4 then net.format endpoint.1
    else '[' :: net.format endpoint.1 ++ [']']
  host ++ ':' :: (toString endpoint.2).toList

/-- `uint16(port)`. -/
def uint16 (port : Int) : Nat := (port % 65536).toNat

/-- What `mintServerInvite` asks of the installation: the public key of a host key file, and the
id of the artifact profile. -/
structure HostInstall where
  deriveHostPublicKey : Text → Except Err Text
  artifactID : Except Err Text

/-- The host key of an invite: the given one, or the one derived from the host key file. -/
def HostInstall.hostPublicKey (install : HostInstall) (hostKeyPath given : Text) : Except Err Text :=
  if given.isEmpty then install.deriveHostPublicKey hostKeyPath else .ok given

def mintServerInvite (env : Env) (install : HostInstall) (clientName : Text)
    (targetEndpoint : Addr × Nat) (manifest : ServerConfig)
    (hostPublicKey enrollmentTLSSPKISHA256 : Text) (authorizationSeconds : Int) (now : Time)
    (nonce inviteID : RandomHex) (clock : Time) : Except Err (Invite × Record) := do
  refuseIf (manifest.target.address ≠ some targetEndpoint.1 ||
      uint16 manifest.target.port ≠ targetEndpoint.2)
    (.plain ("invite target " ++ String.ofList (addrPortText env.net targetEndpoint) ++
      " does not match server manifest target " ++
      String.ofList (addrText env.net manifest.target.address) ++ ":" ++
      toString manifest.target.port))
  let hostPublicKey ← install.hostPublicKey manifest.hostKeyPath hostPublicKey
  let artifactID ← install.artifactID
  let dataHost ← manifest.network.data.dial.host.canonical env.net
  let enrollHost ← manifest.network.enrollment.dial.host.canonical env.net
  let enrollPort := manifest.network.enrollment.dial.port
  create env
    { clientName
      dataHost
      dataPort := manifest.network.data.dial.port
      enrollmentHost := enrollHost
      enrollmentPort := if enrollPort = 0 then defaultEnrollmentPort else enrollPort
      enrollmentTLSSPKISHA256
      publishedEndpointGeneration := manifest.network.publishedEndpointGeneration.toNat
      targetAddress := manifest.target.address
      targetPort := uint16 manifest.target.port
      principal := manifest.dedicatedUser
      profileID := manifest.profileID
      artifactProfileID := artifactID
      hostPublicKey
      ttl := defaultTTL
      authorizationDurationSeconds := authorizationSeconds
      maximumAuthorizationDurationSeconds := 0
      now }
    nonce inviteID clock

/-! ## Labels -/

def maxInviteLabelBytes : Nat := 48

/-- The loop of `SanitizeInviteLabel`: the label written so far, and whether it ends with a
hyphen. -/
def writeLabel (label : Text) (lastHyphen : Bool) : Text → Text
  | [] => label
  | c :: rest =>
    if isLowerASCIIAlphaNumeric c then writeLabel (label ++ [c]) false rest
    else if (isSpace c || c == '_' || c == '.' || c == '-') && !label.isEmpty && !lastHyphen then
      writeLabel (label ++ ['-']) true rest
    else writeLabel label lastHyphen rest

/-- `strings.Trim(s, "-")`. -/
def trimHyphens (s : Text) : Text := (s.dropWhile (· == '-')).rdropWhile (· == '-')

/-- A label does not start with a digit. -/
def letterFirst (label : Text) : Text :=
  if label.head?.any fun c => '0' ≤ c && c ≤ '9' then 'n' :: label else label

/-- `SanitizeInviteLabel`. The label is ASCII, so that its bytes are its characters. -/
def sanitizeInviteLabel (raw : Text) : Text :=
  let raw := toLower (trimSpace raw)
  if raw.isEmpty then "host".toList
  else
    let label := trimHyphens (writeLabel [] false raw)
    if label.isEmpty then "host".toList
    else
      let label := letterFirst label
      if maxInviteLabelBytes < label.length then
        let label := trimHyphens (label.take maxInviteLabelBytes)
        if label.isEmpty then "host".toList
        else (letterFirst label).take maxInviteLabelBytes
      else label

/-! ## Reading -/

def maxInviteBytes : Nat := 16 * 1024

/-- `ClientView`, apart from copies of fields of the invite. -/
structure ClientView where
  listenAddress : Text
  listenPort : Nat
  tunnelID : Text
  deriving DecidableEq, Repr

/-- `time.Parse` of an `expires_at`. -/
def Stamp.parseExpiresAt : Stamp → Except Err Time
  | .at t => .ok t
  | .empty | .unreadable => .error (.invalidInvite "parse expires_at: cannot parse")

def parseClientInvite (env : Env) (docs : InviteDocs) (raw : Text) (now clock : Time) :
    Except Err (Invite × ClientView) := do
  refuseIf raw.isEmpty (.invalidInvite "input is empty")
  refuseIf (decide (maxInviteBytes < byteLength raw)) (.invalidInvite "input exceeds 16384 bytes")
  refuseIf (privateKeyMarkers.any fun marker => contains (toLower raw) marker)
    (.invalidInvite "invite must not contain private-key material")
  let decoded ← (docs.decodeInvite raw).mapError (.asInvalidInvite "")
  let invite ← canonicalizeStoredInvite env decoded
  refuseIf (invite.profileID ≠ .current) (.invalidInvite "unsupported profile_id")
  let now := orClock now clock
  let expires ← invite.expiresAt.parseExpiresAt
  refuseIf (!decide (now < expires)) (.invalidInvite "invite expired")
  pure (invite,
    { listenAddress := "127.0.0.1".toList
      listenPort := 15432
      tunnelID := sanitizeInviteLabel invite.clientName })

/-- `netip.ParseAddr`, with its error. -/
def NetIP.parse (net : NetIP) (text : Text) : Except Err Addr :=
  match net.parseAddr text with
  | some addr => .ok addr
  | none => .error (.plain ("ParseAddr(\"" ++ String.ofList text ++ "\"): unable to parse IP"))

def buildClientManifest (env : Env) (invite : Invite) (tunnelID : Text) (listenPort : Nat)
    (sshDigest : Text) : Except Err ClientConfig := do
  let _ ← parseDialHost env.net invite.data.host
  let targetAddr ← env.net.parse invite.targetAddress
  let manifest : ClientConfig :=
    { kind := clientTunnelsKind
      schemaVersion := 2
      profileID := invite.profileID
      sshBinarySHA256 := sshDigest
      server := { host := invite.data.host, port := invite.data.port, user := invite.principal }
      tunnels :=
        [{ id := if tunnelID.isEmpty then sanitizeInviteLabel invite.clientName else tunnelID
           listen := ⟨some requiredListenerAddress, if listenPort = 0 then 15432 else listenPort⟩
           target := ⟨some targetAddr, invite.targetPort⟩ }]
      supervision := { initialBackoff := Time.second, maxBackoff := 30 * Time.second } }
  manifest.validate env.net
  pure manifest

end WarpTweet
