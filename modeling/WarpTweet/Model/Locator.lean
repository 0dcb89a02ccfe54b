import WarpTweet.Model.Grant

/-!
# Published locators

The package `locator`: dial hosts, which are IP literals or DNS names, and the
published endpoint set carried by invites, proofs and client records. Parsing and
printing of IP addresses is the standard library's `net/netip` and a parameter.
-/

namespace WarpTweet

open Strings

inductive Addr where
  | v4 (bits : BitVec 32)
  | v6 (bits : BitVec 128) (zone : Text)
  deriving DecidableEq, Repr

namespace Addr

def zone : Addr → Text
  | v4 _ => []
  | v6 _ zone => zone

/-- `Unmap`: an IPv4-mapped IPv6 address becomes the IPv4 address. -/
def unmap : Addr → Addr
  | v4 bits => v4 bits
  | v6 bits zone =>
    if bits.toNat / 2 ^ 32 = 0xffff then v4 (BitVec.ofNat 32 bits.toNat) else v6 bits zone

def is4 : Addr → Bool
  | v4 _ => true
  | v6 _ _ => false

def is4In6 : Addr → Bool
  | v4 _ => false
  | v6 bits _ => decide (bits.toNat / 2 ^ 32 = 0xffff)

def isUnspecified (addr : Addr) : Bool := addr = v4 0 || addr = v6 0 []

def isMulticast (addr : Addr) : Bool :=
  match addr.unmap with
  | v4 bits => decide (bits.toNat / 2 ^ 28 = 0xe)
  | v6 bits _ => decide (bits.toNat / 2 ^ 120 = 0xff)

def isLinkLocalUnicast (addr : Addr) : Bool :=
  match addr.unmap with
  | v4 bits => decide (bits.toNat / 2 ^ 16 = 0xa9fe)
  | v6 bits _ => decide (bits.toNat / 2 ^ 118 = 0x3fa)

def isLoopback (addr : Addr) : Bool :=
  match addr.unmap with
  | v4 bits => decide (bits.toNat / 2 ^ 24 = 127)
  | v6 bits _ => bits = 1

/-- `Is4() && addr == 255.255.255.255`. -/
def isBroadcast (addr : Addr) : Bool := addr = v4 0xffffffff

end Addr

/-- `netip.ParseAddr` and `Addr.String`. -/
structure NetIP where
  parseAddr : Text → Option Addr
  format : Addr → Text

/-- `DialHost`: a canonical IP literal or a DNS name. -/
structure DialHost where
  ip : Option Addr
  name : Text
  deriving DecidableEq, Repr

/-- The ASCII characters `CanonicalDNSName` refuses in a name. -/
def isForbiddenNameChar (c : Char) : Bool :=
  decide (c.toNat < 0x20) || c.toNat == 0x7f || c == ' ' ||
    ['/', '?', '#', '@', ':', '[', ']', '*', '%'].contains c

/-- The checks `CanonicalDNSName` makes on one label. -/
def checkLabel (label : Text) : Except Err Unit := do
  refuseIf label.isEmpty (.plain "DNS name contains an empty label")
  refuseIf (decide (63 < byteLength label)) (.plain "DNS label exceeds 63 octets")
  refuseIf (label.head? == some '-' || label.getLast? == some '-')
    (.plain "DNS label must not start or end with a hyphen")
  refuseIf (label.any fun c => !(c.isLower || c.isDigit || c == '-'))
    (.plain "DNS name contains a forbidden character")

/-- `CanonicalDNSName`: lower case, without one trailing dot. -/
def canonicalDNSName (net : NetIP) (name : Text) : Except Err Text := do
  refuseIf name.isEmpty (.plain "DNS name is empty")
  refuseIf (net.parseAddr name).isSome (.plain "DNS name must not be an IP literal")
  let name := if name.getLast? == some '.' then name.dropLast else name
  refuseIf name.isEmpty (.plain "DNS name is empty")
  refuseIf (contains name ['.', '.']) (.plain "DNS name contains an empty label")
  -- the first character that is not ASCII or is forbidden decides which error it is
  let offending := name.find? fun c => decide (127 < c.toNat) || isForbiddenNameChar c
  refuseIf (offending.any fun c => decide (127 < c.toNat)) (.plain "DNS name must be ASCII A-labels")
  refuseIf offending.isSome (.plain "DNS name contains a forbidden character")
  let lower := toLower name
  refuseIf (decide (253 < byteLength lower)) (.plain "DNS name exceeds 253 octets")
  (lower.splitOn '.').forM checkLabel
  pure lower

def parseDialHost (net : NetIP) (value : Text) : Except Err DialHost :=
  if value.isEmpty then .error (.plain "dial host is empty")
  else match net.parseAddr value with
    | some addr =>
      if addr.zone.isEmpty then .ok ⟨some addr.unmap, []⟩
      else .error (.plain "IPv6 zones are not permitted")
    | none => do
        let name ← canonicalDNSName net value
        pure ⟨none, name⟩

def DialHost.canonical (net : NetIP) (host : DialHost) : Except Err Text :=
  match host.ip with
  | some addr =>
    if !host.name.isEmpty then .error (.plain "dial host must not set both IP and Name")
    else if addr.zone.isEmpty then .ok (net.format addr.unmap)
    else .error (.plain "IPv6 zones are not permitted")
  | none =>
    if host.name.isEmpty then .error (.plain "dial host is empty")
    else canonicalDNSName net host.name

def DialHost.equal (net : NetIP) (left right : DialHost) : Bool :=
  match left.canonical net, right.canonical net with
  | .ok a, .ok b => a = b
  | _, _ => false

/-- `validateAnswer`: an address that a dial host may resolve to. -/
def validateAnswer (addr : Addr) (allowLoopback : Bool) : Except Err Unit := do
  refuseIf (!addr.zone.isEmpty) (.plain "IPv6 zones are not permitted")
  let addr := addr.unmap
  refuseIf addr.isUnspecified (.plain "unspecified addresses are not permitted")
  refuseIf addr.isMulticast (.plain "multicast addresses are not permitted")
  refuseIf addr.isBroadcast (.plain "the IPv4 broadcast address is not permitted")
  refuseIf addr.isLinkLocalUnicast (.plain "link-local addresses are not permitted")
  refuseIf (addr.isLoopback && !allowLoopback) (.plain "loopback addresses are not permitted")

structure DialEndpoint where
  host : DialHost
  port : Nat
  deriving DecidableEq, Repr

def DialEndpoint.equal (net : NetIP) (left right : DialEndpoint) : Bool :=
  left.port == right.port && left.host.equal net right.host

structure PublishedEndpointSet where
  generation : Nat
  data : DialEndpoint
  enrollment : DialEndpoint
  deriving DecidableEq, Repr

namespace PublishedEndpointSet

def canonical (net : NetIP) (set : PublishedEndpointSet) : Except Err PublishedEndpointSet := do
  refuseIf (set.generation == 0) (.plain "published_endpoint_generation must be at least 1")
  refuseIf (set.data.port == 0 || set.enrollment.port == 0)
    (.plain "published ports must be nonzero")
  let dataHost ← (set.data.host.canonical net).mapError (.wrap "data host")
  let enrollHost ← (set.enrollment.host.canonical net).mapError (.wrap "enrollment host")
  let data ← (parseDialHost net dataHost).mapError (.wrap "data host")
  let enroll ← (parseDialHost net enrollHost).mapError (.wrap "enrollment host")
  let result : PublishedEndpointSet :=
    { generation := set.generation
      data := { host := data, port := set.data.port }
      enrollment := { host := enroll, port := set.enrollment.port } }
  refuseIf (result.data.equal net result.enrollment)
    (.plain "data and enrollment locators must not share the same canonical host:port")
  pure result

/-- `PublishedEndpointSet.Equal`: canonical equality, generation included. -/
def equal (net : NetIP) (left right : PublishedEndpointSet) : Bool :=
  match left.canonical net, right.canonical net with
  | .ok a, .ok b =>
    a.generation == b.generation && a.data.equal net b.data &&
      a.enrollment.equal net b.enrollment
  | _, _ => false

end PublishedEndpointSet

end WarpTweet
