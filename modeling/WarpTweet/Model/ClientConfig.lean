import WarpTweet.Model.Records

/-!
# The client manifest and the policy of a tunnel

The package `config`: the manifest of client tunnels and the whole of `Validate`. The package
`engine`: the specification of one tunnel, the checks of `newClientPolicy`, and the two local
forwards of the policy. The second forward carries the management requests and listens on the
port after the tunnel's own. The other options of the policy are constants or copies of fields
of the specification, and are left out.
-/

namespace WarpTweet

open Strings

/-! ## The manifest -/

/-- `Endpoint`: a numeric address and a port. The zero address is none. -/
structure Endpoint where
  address : Option Addr
  port : Nat
  deriving DecidableEq, Repr

/-- `Server`: the host and the account of the tunnels. -/
structure ClientServer where
  host : Text
  port : Nat
  user : Text
  deriving DecidableEq, Repr

structure Tunnel where
  id : Text
  listen : Endpoint
  target : Endpoint
  deriving DecidableEq, Repr

/-- `Supervision`: two backoffs in nanoseconds. -/
structure Supervision where
  initialBackoff : Int
  maxBackoff : Int
  deriving DecidableEq, Repr

/-- `Config`: a client manifest. -/
structure ClientConfig where
  kind : Text
  schemaVersion : Int
  profileID : ProfileID
  sshBinarySHA256 : Text
  server : ClientServer
  tunnels : List Tunnel
  supervision : Supervision
  deriving DecidableEq, Repr

/-- `invalid`: a `ValidationError`. -/
def Err.invalidConfig (field problem : String) : Err :=
  .plain ("invalid " ++ field ++ ": " ++ problem)

def profileCurrentID : String :=
  "warptweet-tcp1-openssh10.4p1-openssl3.5.7-mlkem768x25519-mldsa44-ed25519-chacha20"

def ProfileID.text : ProfileID → String
  | .current => profileCurrentID
  | .other id => String.ofList id

/-- `profile.Lookup`: only the current profile is registered. -/
def lookupProfile (id : ProfileID) : Except Err Unit :=
  refuseIf (id ≠ .current) (.plain ("unsupported cryptographic profile \"" ++ id.text ++ "\""))

def clientTunnelsKind : Text := "warptweet.client-tunnels".toList

def requiredListenerAddress : Addr := .v4 0x7f000001

def minSupervisionBackoff : Int := 250 * 1000000

def maxSupervisionBackoff : Int := 300 * 1000000000

def isControl (c : Char) : Bool :=
  decide (c.toNat < 0x20) || (decide (0x7f ≤ c.toNat) && decide (c.toNat < 0xa0))

def isLowerASCIILetter (c : Char) : Bool := 'a' ≤ c && c ≤ 'z'

def isLowerASCIIAlphaNumeric (c : Char) : Bool := isLowerASCIILetter c || ('0' ≤ c && c ≤ '9')

def validateSafeString (field : String) (value : Text) : Except Err Unit :=
  refuseIf (value.any isControl) (.invalidConfig field "must not contain control characters")

/-- `validateSafeString` of a profile id. The supported one is plain text. -/
def validateProfileText : ProfileID → Except Err Unit
  | .current => .ok ()
  | .other id => validateSafeString "profile_id" id

/-- `validateSHA256`. -/
def validateSSHBinarySHA256 (value : Text) : Except Err Unit :=
  refuseIf (!isLowerHexDigest value)
    (.invalidConfig "ssh_binary_sha256" "must contain exactly 64 lowercase hexadecimal characters")

def validatePort (field : String) (port : Nat) : Except Err Unit :=
  refuseIf (port == 0) (.invalidConfig field "must be between 1 and 65535")

def validateAddress (field : String) : Option Addr → Except Err Unit
  | none => .error (.invalidConfig field "must be a numeric IP address")
  | some address => do
      refuseIf (!address.zone.isEmpty) (.invalidConfig field "must not contain an IPv6 zone")
      refuseIf address.is4In6 (.invalidConfig field "must use canonical IPv4 notation")
      refuseIf address.isUnspecified (.invalidConfig field "must not be an unspecified address")
      refuseIf address.isMulticast (.invalidConfig field "must not be a multicast address")
      refuseIf address.isBroadcast (.invalidConfig field "must not be the IPv4 broadcast address")

def validateDialIP (field : String) (address : Addr) : Except Err Unit := do
  let address := address.unmap
  refuseIf (!address.zone.isEmpty) (.invalidConfig field "must not contain an IPv6 zone")
  refuseIf address.isUnspecified (.invalidConfig field "must not be an unspecified address")
  refuseIf address.isMulticast (.invalidConfig field "must not be a multicast address")
  refuseIf address.isLinkLocalUnicast (.invalidConfig field "must not be a link-local address")
  refuseIf address.isBroadcast (.invalidConfig field "must not be the IPv4 broadcast address")

def validateServerHost (net : NetIP) (value : Text) : Except Err Unit := do
  let host ← (parseDialHost net value).mapError fun err => .invalidConfig "server.host" err.text
  let canonical ← (host.canonical net).mapError fun err => .invalidConfig "server.host" err.text
  refuseIf (canonical ≠ value) (.invalidConfig "server.host" "must use canonical locator form")
  match host.ip with
  | some address => validateDialIP "server.host" address
  | none => pure ()

def validateUnixUser (value : Text) : Except Err Unit := do
  validateSafeString "server.user" value
  refuseIf (value.isEmpty || decide (32 < byteLength value))
    (.invalidConfig "server.user" "must be between 1 and 32 ASCII bytes")
  refuseIf (!value.head?.any fun c => isLowerASCIILetter c || c == '_')
    (.invalidConfig "server.user" "must start with a lowercase ASCII letter or '_'")
  refuseIf (!value.tail.all fun c => isLowerASCIIAlphaNumeric c || c == '_' || c == '-')
    (.invalidConfig "server.user" "must be a safe Unix user name")

def validateServer (net : NetIP) (server : ClientServer) : Except Err Unit := do
  validateServerHost net server.host
  validatePort "server.port" server.port
  validateUnixUser server.user

/-- `validateTunnelID`: a hyphen or an underscore stands neither first nor last. -/
def validateTunnelID (field : String) (value : Text) : Except Err Unit := do
  validateSafeString field value
  refuseIf (value.isEmpty || decide (64 < byteLength value))
    (.invalidConfig field "must be between 1 and 64 ASCII bytes")
  refuseIf (!value.head?.any isLowerASCIILetter)
    (.invalidConfig field "must start with a lowercase ASCII letter")
  refuseIf (!(value.tail.all (fun c => isLowerASCIIAlphaNumeric c || c == '-' || c == '_') &&
      value.getLast?.all isLowerASCIIAlphaNumeric))
    (.invalidConfig field "must use lowercase ASCII letters, digits, and internal '-' or '_'")

def validateTunnel (field : String) (tunnel : Tunnel) : Except Err Unit := do
  validateTunnelID (field ++ ".id") tunnel.id
  validateAddress (field ++ ".listen.address") tunnel.listen.address
  refuseIf (tunnel.listen.address ≠ some requiredListenerAddress)
    (.invalidConfig (field ++ ".listen.address") "must be 127.0.0.1")
  validatePort (field ++ ".listen.port") tunnel.listen.port
  validateAddress (field ++ ".target.address") tunnel.target.address
  validatePort (field ++ ".target.port") tunnel.target.port

/-- The loop of `Validate`, with the tunnels it has passed. -/
def validateTunnels (passed : List Tunnel) : List Tunnel → Except Err Unit
  | [] => .ok ()
  | tunnel :: tunnels => do
      let field := "tunnels[" ++ toString passed.length ++ "]"
      validateTunnel field tunnel
      refuseIf (passed.any fun previous => previous.id = tunnel.id)
        (.invalidConfig (field ++ ".id")
          ("duplicate tunnel ID \"" ++ String.ofList tunnel.id ++ "\""))
      match passed.find? fun previous => previous.listen.port = tunnel.listen.port with
      | some previous =>
        throw (.invalidConfig (field ++ ".listen.port")
          ("already used by tunnel \"" ++ String.ofList previous.id ++ "\""))
      | none => validateTunnels (passed ++ [tunnel]) tunnels

def validateSupervision (supervision : Supervision) : Except Err Unit := do
  let outside (backoff : Int) : Bool :=
    decide (backoff < minSupervisionBackoff) || decide (maxSupervisionBackoff < backoff)
  refuseIf (outside supervision.initialBackoff)
    (.invalidConfig "supervision.initial_backoff" "must be between 250ms and 5m0s")
  refuseIf (outside supervision.maxBackoff)
    (.invalidConfig "supervision.max_backoff" "must be between 250ms and 5m0s")
  refuseIf (decide (supervision.maxBackoff < supervision.initialBackoff))
    (.invalidConfig "supervision.max_backoff" "must be greater than or equal to initial_backoff")

def ClientConfig.validate (net : NetIP) (config : ClientConfig) : Except Err Unit := do
  validateSafeString "kind" config.kind
  refuseIf (config.kind ≠ clientTunnelsKind)
    (.invalidConfig "kind" "must be \"warptweet.client-tunnels\"")
  refuseIf (config.schemaVersion ≠ 2) (.invalidConfig "schema_version" "must be 2")
  validateProfileText config.profileID
  refuseIf (config.profileID ≠ .current)
    (.invalidConfig "profile_id" ("must be immutable profile \"" ++ profileCurrentID ++ "\""))
  validateSSHBinarySHA256 config.sshBinarySHA256
  validateServer net config.server
  refuseIf config.tunnels.isEmpty (.invalidConfig "tunnels" "must contain at least one tunnel")
  validateTunnels [] config.tunnels
  validateSupervision config.supervision

/-! ## The policy of one tunnel -/

/-- `ClientSpec`. The profile is the registry entry of its id. -/
structure ClientSpec where
  tunnelID : Text
  serverAddress : Option Addr
  serverPort : Nat
  serverUser : Text
  listenAddress : Option Addr
  listenPort : Nat
  targetAddress : Option Addr
  targetPort : Nat
  identityFile : Text
  knownHostsFile : Text
  globalKnownHostsFile : Text
  profileID : ProfileID
  deriving DecidableEq, Repr

/-- `managementListenPort`: the port after the tunnel's own, zero if there is none. -/
def managementListenPort (listenPort : Nat) : Nat :=
  if listenPort = 0 || listenPort = 65535 then 0 else listenPort + 1

def defaultManagementPort : Nat := 29723

def isAbs (path : Text) : Bool := hasPrefix path ['/']

/-- The checks of `validateClientSpec` on one text field. -/
def validateSpecField (field : String) (value : Text) : Except Err Unit := do
  refuseIf value.isEmpty (.plain (field ++ " is required"))
  refuseIf (containsAny value ['\r', '\n', '\x00'])
    (.plain (field ++ " contains a forbidden control character"))

def validateClientSpec (spec : ClientSpec) : Except Err Unit := do
  refuseIf spec.profileID.isEmpty (.plain "cryptographic profile is required")
  (validateTunnelID "tunnel_id" spec.tunnelID).mapError (.wrap "invalid tunnel ID")
  lookupProfile spec.profileID
  refuseIf (spec.serverAddress.isNone || spec.targetAddress.isNone)
    (.plain "server and target addresses must be numeric IP addresses")
  refuseIf (spec.listenAddress ≠ some requiredListenerAddress)
    (.plain "listener must bind exactly to 127.0.0.1")
  refuseIf (spec.serverPort == 0 || spec.listenPort == 0 || spec.targetPort == 0 ||
      managementListenPort spec.listenPort == 0)
    (.plain "server, listener, and target ports must be non-zero")
  validateSpecField "server user" spec.serverUser
  validateSpecField "identity file" spec.identityFile
  validateSpecField "known hosts file" spec.knownHostsFile
  validateSpecField "global known hosts file" spec.globalKnownHostsFile
  refuseIf (!isAbs spec.identityFile) (.plain "identity file must be absolute")
  refuseIf (!isAbs spec.knownHostsFile) (.plain "known hosts file must be absolute")
  refuseIf (!isAbs spec.globalKnownHostsFile) (.plain "global known hosts file must be absolute")

/-- One `LocalForward` option: where it listens and where it leads. -/
structure LocalForward where
  listen : Endpoint
  target : Endpoint
  deriving DecidableEq, Repr

/-- `newClientPolicy`, without a control path: its local forwards. -/
def newClientPolicy (spec : ClientSpec) : Except Err (List LocalForward) := do
  validateClientSpec spec
  let listenAddress := spec.listenAddress.map Addr.unmap
  pure
    [{ listen := ⟨listenAddress, spec.listenPort⟩
       target := ⟨spec.targetAddress.map Addr.unmap, spec.targetPort⟩ },
     { listen := ⟨listenAddress, managementListenPort spec.listenPort⟩
       target := ⟨some requiredListenerAddress, defaultManagementPort⟩ }]

structure ClientPaths where
  identityFile : Text
  knownHostsFile : Text
  globalKnownHostsFile : Text
  deriving DecidableEq, Repr

/-- `clientSpec`: the specification of the tunnel `tunnelID` of a manifest, for the server
address that was resolved. -/
def clientSpec (config : ClientConfig) (tunnelID : Text) (paths : ClientPaths) (serverAddr : Addr) :
    Except Err ClientSpec := do
  match config.tunnels.find? fun tunnel => tunnel.id = tunnelID with
  | none => throw (.plain ("manifest contains no tunnel with ID \"" ++ String.ofList tunnelID ++ "\""))
  | some tunnel => do
      lookupProfile config.profileID
      pure
        { tunnelID := tunnel.id
          serverAddress := some serverAddr.unmap
          serverPort := config.server.port
          serverUser := config.server.user
          listenAddress := tunnel.listen.address.map Addr.unmap
          listenPort := tunnel.listen.port
          targetAddress := tunnel.target.address.map Addr.unmap
          targetPort := tunnel.target.port
          identityFile := paths.identityFile
          knownHostsFile := paths.knownHostsFile
          globalKnownHostsFile := paths.globalKnownHostsFile
          profileID := config.profileID }

end WarpTweet
