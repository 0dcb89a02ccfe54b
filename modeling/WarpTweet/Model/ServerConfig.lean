import WarpTweet.Model.ClientConfig
import WarpTweet.Model.Network

/-!
# The server manifest

The package `server`: the configuration of a host and the whole of `Validate`. Addresses are
judged in their canonical form, but stored as they were given.
-/

namespace WarpTweet

open Strings

/-- `Endpoint` of the server: its port is a signed integer until it has been checked. -/
structure ServerEndpoint where
  address : Option Addr
  port : Int
  deriving DecidableEq, Repr

/-- `Config`: the server manifest. -/
structure ServerConfig where
  kind : Text
  schemaVersion : Int
  profileID : ProfileID
  sshdBinarySHA256 : Text
  openSSHBundleManifestSHA256 : Text
  network : Network
  target : ServerEndpoint
  dedicatedUser : Text
  hostKeyPath : Text
  authorizedKeysPath : Text
  deriving DecidableEq, Repr

/-- `ManifestKind`. -/
def serverManifestKind : Text := "warptweet.server-gateway".toList

def defaultEnrollmentPort : Nat := 29722

def serverHostKeyPath : Text := "/var/lib/warptweet/ssh/ssh_host_mldsa44_ed25519_key".toList

def managedAuthorizedKeysPath (user : Text) : Text :=
  "/var/lib/warptweet/authorized_keys/".toList ++ user

/-- The accounts that `validateDedicatedUser` refuses. -/
def sharedAccounts : List Text :=
  ["root".toList, "daemon".toList, "nobody".toList, "sshd".toList, "_sshd".toList]

def validateEndpoint (field : String) : ServerEndpoint → Except Err Unit
  | ⟨none, _⟩ => .error (.invalidField (field ++ ".Address") "must be a numeric IP address")
  | ⟨some given, port⟩ => do
      refuseIf (!given.zone.isEmpty)
        (.invalidField (field ++ ".Address") "IPv6 zones are not permitted")
      let address := given.unmap
      refuseIf address.isUnspecified
        (.invalidField (field ++ ".Address") "wildcard addresses are not permitted")
      refuseIf address.isMulticast
        (.invalidField (field ++ ".Address") "multicast addresses are not permitted")
      refuseIf address.isBroadcast
        (.invalidField (field ++ ".Address") "the IPv4 broadcast address is not permitted")
      refuseIf (decide (port < 1) || decide (65535 < port))
        (.invalidField (field ++ ".Port") "must be between 1 and 65535")

def validateBind (field : String) (endpoint : BindEndpoint) : Except Err Unit :=
  validateEndpoint field ⟨some endpoint.address, endpoint.port⟩

/-- The checks of `validateDial` on an IP locator. -/
def validateDialAddress (field : String) (bindAddr : Addr) (given : Addr) : Except Err Unit := do
  refuseIf (!given.zone.isEmpty) (.invalidField (field ++ ".Host") "IPv6 zones are not permitted")
  let addr := given.unmap
  refuseIf addr.isUnspecified
    (.invalidField (field ++ ".Host") "unspecified addresses are not permitted")
  refuseIf addr.isMulticast
    (.invalidField (field ++ ".Host") "multicast addresses are not permitted")
  refuseIf addr.isBroadcast
    (.invalidField (field ++ ".Host") "the IPv4 broadcast address is not permitted")
  refuseIf addr.isLinkLocalUnicast
    (.invalidField (field ++ ".Host") "link-local dial locators are not permitted")
  refuseIf (addr.isLoopback && !bindAddr.isLoopback)
    (.invalidField (field ++ ".Host") "loopback dial requires a loopback bind")
  refuseIf (bindAddr.isLoopback && !addr.isLoopback)
    (.invalidField (field ++ ".Host") "loopback bind cannot publish a non-loopback dial")

def validateDial (net : NetIP) (field : String) (bound : BindEndpoint) (dial : DialEndpoint) :
    Except Err Unit := do
  refuseIf (decide (dial.port < 1)) (.invalidField (field ++ ".Port") "must be between 1 and 65535")
  refuseIf (dial.host.ip.isSome == !dial.host.name.isEmpty)
    (.invalidField (field ++ ".Host") "must be an IP literal or a DNS name")
  let bindAddr := bound.address.unmap
  match dial.host.ip with
  | none => do
      let _ ← (canonicalDNSName net dial.host.name).mapError fun err =>
        .invalidField (field ++ ".Host") err.text
      refuseIf bindAddr.isLoopback
        (.invalidField (field ++ ".Host") "loopback bind cannot publish a non-loopback dial")
  | some given => validateDialAddress field bindAddr given

def bindLocatorKey (net : NetIP) (endpoint : BindEndpoint) : Text × Nat :=
  (net.format endpoint.address.unmap, endpoint.port)

def validateNetwork (net : NetIP) (network : Network) : Except Err Unit := do
  refuseIf (network.publishedEndpointGeneration == 0)
    (.invalidField generationField "must be at least 1")
  validateBind "Network.Data.Listen" network.data.listen
  validateBind "Network.Enrollment.Listen" network.enrollment.listen
  refuseIf (bindLocatorKey net network.data.listen = bindLocatorKey net network.enrollment.listen)
    (.invalidField "Network"
      "data listen and enrollment listen must not share the same canonical address:port")
  validateDial net "Network.Data.Dial" network.data.listen network.data.dial
  validateDial net "Network.Enrollment.Dial" network.enrollment.listen network.enrollment.dial
  let dataHost ← (network.data.dial.host.canonical net).mapError fun err =>
    .invalidField "Network.Data.Dial" err.text
  let enrollHost ← (network.enrollment.dial.host.canonical net).mapError fun err =>
    .invalidField "Network.Enrollment.Dial" err.text
  refuseIf ((dataHost, network.data.dial.port) = (enrollHost, network.enrollment.dial.port))
    (.invalidField "Network"
      "data dial and enrollment dial must not share the same canonical host:port")

def isUserInitial (c : Char) : Bool := c == '_' || ('a' ≤ c && c ≤ 'z')

def isUserContinuation (c : Char) : Bool := isUserInitial c || ('0' ≤ c && c ≤ '9') || c == '-'

def validateDedicatedUser (user : Text) : Except Err Unit := do
  refuseIf user.isEmpty (.invalidField "DedicatedUser" "must not be empty")
  refuseIf (decide (32 < byteLength user))
    (.invalidField "DedicatedUser" "must be at most 32 ASCII characters")
  refuseIf (!user.head?.any isUserInitial)
    (.invalidField "DedicatedUser" "must start with a lowercase ASCII letter or underscore")
  refuseIf (!user.tail.all isUserContinuation)
    (.invalidField "DedicatedUser" ("contains an unsafe character at byte " ++
      toString (user.tail.findIdx (fun c => !isUserContinuation c) + 1)))
  refuseIf (sharedAccounts.contains user)
    (.invalidField "DedicatedUser" ("\"" ++ String.ofList user ++
      "\" is not a dedicated tunnel account"))

/-- `validateSHA256`. -/
def validateServerSHA256 (field : String) (value : Text) : Except Err Unit :=
  refuseIf (!isLowerHexDigest value)
    (.invalidField field "must contain exactly 64 lowercase hexadecimal characters")

def ServerConfig.validate (net : NetIP) (config : ServerConfig) : Except Err Unit := do
  refuseIf (config.kind ≠ serverManifestKind)
    (.invalidField "Kind" "must be \"warptweet.server-gateway\"")
  refuseIf (config.schemaVersion ≠ 2) (.invalidField "SchemaVersion" "must be 2")
  (lookupProfile config.profileID).mapError fun err => .invalidField "ProfileID" err.text
  validateServerSHA256 "SSHDBinarySHA256" config.sshdBinarySHA256
  validateServerSHA256 "OpenSSHBundleManifestSHA256" config.openSSHBundleManifestSHA256
  validateNetwork net config.network
  validateEndpoint "Target" config.target
  validateDedicatedUser config.dedicatedUser
  refuseIf (config.hostKeyPath ≠ serverHostKeyPath)
    (.invalidField "HostKeyPath" ("must be fixed install path \"" ++
      String.ofList serverHostKeyPath ++ "\""))
  refuseIf (config.authorizedKeysPath ≠ managedAuthorizedKeysPath config.dedicatedUser)
    (.invalidField "AuthorizedKeysPath" ("must be fixed install path \"" ++
      String.ofList (managedAuthorizedKeysPath config.dedicatedUser) ++ "\" for dedicated user \"" ++
      String.ofList config.dedicatedUser ++ "\""))

end WarpTweet
