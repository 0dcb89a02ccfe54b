import WarpTweet.Model.ServerConfig

/-!
# What a host binds and publishes

The flags of `warptweet host` and what they resolve to (`host_network.go`): the binds of the two
services and the dials that are published for them, given the stored manifest. How the standard
library splits an endpoint into host and port is a parameter.
-/

namespace WarpTweet

open Strings

/-- `onceStringFlag`: a flag that was not given, or its value. -/
abbrev OnceFlag := Option Text

/-- The value of a flag, empty if it was not given. -/
def OnceFlag.value (flag : OnceFlag) : Text := flag.getD []

structure HostPublicationFlags where
  listen : OnceFlag
  listenInterface : OnceFlag
  advertise : OnceFlag
  enrollListen : OnceFlag
  enrollAdvertise : OnceFlag
  deriving DecidableEq, Repr

/-- `hostPublication` is what is proposed to `ProposeNetwork`. -/
abbrev HostPublication := Proposal

/-- `netip.ParseAddrPort`, `net.SplitHostPort` and `strconv.ParseUint` of a port. -/
structure EndpointTexts where
  parseAddrPort : Text → Except Err (Addr × Nat)
  splitHostPort : Text → Except Err (Text × Text)
  parsePort : Text → Option Nat

/-- What a run finds out about its host: the address that discovery proposes, and the address of
the interface that `--listen-interface` names. -/
structure HostAddresses where
  discover : Except Err (Option Addr)
  addressForInterface : Except Err Addr

def defaultHostListenPort : Nat := 2222

/-- The bare form of `parseEndpoint`, cut at the first colon; the error is that of
`ParseAddrPort`. -/
def parseBareEndpoint (net : NetIP) (texts : EndpointTexts) (value : Text) (err : Err) :
    Except Err (Addr × Nat) :=
  if value.contains ':' then
    match net.parseAddr (value.takeWhile (· ≠ ':')),
        texts.parsePort ((value.dropWhile (· ≠ ':')).drop 1) with
    | some address, some port => if port = 0 then .error err else .ok (address, port)
    | _, _ => .error err
  else .error err

def parseEndpoint (net : NetIP) (texts : EndpointTexts) (value : Text) : Except Err (Addr × Nat) :=
  match texts.parseAddrPort value with
  | .error err => parseBareEndpoint net texts value err
  | .ok endpoint =>
    if endpoint.1.isUnspecified || !endpoint.1.zone.isEmpty || endpoint.2 == 0 then
      .error (.plain "endpoint must be a concrete unzoned IP and nonzero port")
    else .ok endpoint

def parsePublishedEndpoint (net : NetIP) (texts : EndpointTexts) (value : Text) :
    Except Err DialEndpoint := do
  let (host, portText) ← texts.splitHostPort value
  match texts.parsePort portText with
  | some port =>
    refuseIf (port == 0) (.plain "port must be a nonzero TCP port")
    let dialHost ← parseDialHost net host
    pure ⟨dialHost, port⟩
  | none => throw (.plain "port must be a nonzero TCP port")

def resolveListen (net : NetIP) (texts : EndpointTexts) (flagValue : Text)
    (stored : Option ServerConfig) (discover : Except Err (Option Addr)) :
    Except Err (Addr × Nat) :=
  if !flagValue.isEmpty then parseEndpoint net texts flagValue
  else match stored with
    | some stored => .ok stored.network.data.listen.addrPort
    | none => do
        let addr ← discover
        pure (addr.getD requiredListenerAddress, defaultHostListenPort)

def resolveDataListen (net : NetIP) (texts : EndpointTexts) (flags : HostPublicationFlags)
    (stored : Option ServerConfig) (host : HostAddresses) : Except Err BindEndpoint :=
  if flags.listenInterface.isSome then do
    let addr ← host.addressForInterface
    pure ⟨addr, defaultHostListenPort⟩
  else do
    let listen ← resolveListen net texts flags.listen.value stored host.discover
    pure ⟨listen.1, listen.2⟩

def resolveDataDial (net : NetIP) (texts : EndpointTexts) (advertise : OnceFlag)
    (dataListen : BindEndpoint) (stored : Option ServerConfig) : Except Err DialEndpoint :=
  let listenDial := dialFromBind dataListen
  match advertise with
  | none =>
    match stored with
    | some stored =>
      if stored.network.data.dial.equal net listenDial then .ok listenDial
      else .ok stored.network.data.dial
    | none => .ok listenDial
  | some value =>
    if value.isEmpty then .ok listenDial
    else do
      let parsed ← (parsePublishedEndpoint net texts value).mapError (.wrap "advertise")
      pure (if parsed.equal net listenDial then listenDial else parsed)

def resolveEnrollListenFlag (net : NetIP) (texts : EndpointTexts) (flag : OnceFlag)
    (dataListen : BindEndpoint) (stored : Option ServerConfig) (dataChanged : Bool) :
    Except Err BindEndpoint :=
  if !flag.value.isEmpty then do
    let endpoint ← (parseEndpoint net texts flag.value).mapError (.wrap "enroll-listen")
    pure ⟨endpoint.1, endpoint.2⟩
  else match stored with
    | some stored =>
      if !dataChanged && flag.isNone then .ok stored.network.enrollment.listen
      else .ok ⟨dataListen.address, defaultEnrollmentPort⟩
    | none => .ok ⟨dataListen.address, defaultEnrollmentPort⟩

def resolveEnrollDial (net : NetIP) (texts : EndpointTexts) (flag : OnceFlag)
    (dataDial : DialEndpoint) (stored : Option ServerConfig) (dataChanged : Bool) :
    Except Err DialEndpoint :=
  if !flag.value.isEmpty then
    (parsePublishedEndpoint net texts flag.value).mapError (.wrap "enroll-advertise")
  else match stored with
    | some stored =>
      if !dataChanged && flag.isNone then .ok stored.network.enrollment.dial
      else .ok ⟨dataDial.host, defaultEnrollmentPort⟩
    | none => .ok ⟨dataDial.host, defaultEnrollmentPort⟩

def resolveHostPublication (net : NetIP) (texts : EndpointTexts) (flags : HostPublicationFlags)
    (stored : Option ServerConfig) (host : HostAddresses) : Except Err HostPublication := do
  refuseIf (flags.listen.isSome && flags.listenInterface.isSome)
    (.plain "host --listen cannot be combined with --listen-interface")
  let dataListen ← resolveDataListen net texts flags stored host
  let dataDial ← resolveDataDial net texts flags.advertise dataListen stored
  let dataChanged := flags.listen.isSome || flags.listenInterface.isSome || flags.advertise.isSome
  let enrollListen ← resolveEnrollListenFlag net texts flags.enrollListen dataListen stored
    dataChanged
  let enrollDial ← resolveEnrollDial net texts flags.enrollAdvertise dataDial stored dataChanged
  pure { dataListen, enrollListen, dataDial, enrollDial }

end WarpTweet
