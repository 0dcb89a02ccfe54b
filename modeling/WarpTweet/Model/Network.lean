import WarpTweet.Model.Locator

/-!
# The network of a host

Binds and published dials of the two services of a host (`server/network.go`). Ports are
bounded by the flags and documents that are parsed into them; the generation of the published
endpoints is a machine word.
-/

namespace WarpTweet

open Strings

def Err.invalidField (field text : String) : Err :=
  .plain ("invalid WarpTweet server configuration: " ++ field ++ ": " ++ text)

/-- `BindEndpoint`: a local socket. -/
structure BindEndpoint where
  address : Addr
  port : Nat
  deriving DecidableEq, Repr

def BindEndpoint.addrPort (endpoint : BindEndpoint) : Addr × Nat :=
  (endpoint.address.unmap, endpoint.port)

/-- `ServiceEndpoints`: the bind of a service and the dial of its clients. -/
structure ServiceEndpoints where
  listen : BindEndpoint
  dial : DialEndpoint
  deriving DecidableEq, Repr

structure Network where
  publishedEndpointGeneration : UInt64
  data : ServiceEndpoints
  enrollment : ServiceEndpoints
  deriving DecidableEq, Repr

def Network.publishedSet (network : Network) : PublishedEndpointSet where
  generation := network.publishedEndpointGeneration.toNat
  data := network.data.dial
  enrollment := network.enrollment.dial

def samePublishedLocators (net : NetIP) (left right : PublishedEndpointSet) : Bool :=
  left.data.equal net right.data && left.enrollment.equal net right.enrollment

/-- `DialFromBind`: publish a bind address as an IP locator on the same port. -/
def dialFromBind (listen : BindEndpoint) : DialEndpoint where
  host := ⟨some listen.address.unmap, []⟩
  port := listen.port

/-- The field that the errors about the generation name. -/
def generationField : String := "Network.PublishedEndpointGeneration"

def nextPublishedEndpointGeneration (current : UInt64) : Except Err UInt64 :=
  if current = 0 then .error (.invalidField generationField "must be at least 1")
  else if current = UInt64.ofNat (2 ^ 64 - 1) then
    .error (.invalidField generationField "cannot increment past uint64 maximum")
  else .ok (current + 1)

/-- The binds and dials that are asked for in one call of `ProposeNetwork`. -/
structure Proposal where
  dataListen : BindEndpoint
  enrollListen : BindEndpoint
  dataDial : DialEndpoint
  enrollDial : DialEndpoint
  deriving DecidableEq, Repr

def Proposal.network (proposal : Proposal) (publishedEndpointGeneration : UInt64) : Network where
  publishedEndpointGeneration
  data := { listen := proposal.dataListen, dial := proposal.dataDial }
  enrollment := { listen := proposal.enrollListen, dial := proposal.enrollDial }

/-- `ProposeNetwork`: the network to store, and whether the published locators change. -/
def proposeNetwork (net : NetIP) (proposal : Proposal) (stored : Option Network) :
    Except Err (Network × Bool) :=
  match stored with
  | none => .ok (proposal.network 1, false)
  | some stored =>
    let generation := stored.publishedEndpointGeneration
    if generation = 0 then .error (.invalidField generationField "must be at least 1")
    else
      let proposed := proposal.network generation
      if samePublishedLocators net stored.publishedSet proposed.publishedSet then
        .ok (proposed, false)
      else do
        let next ← nextPublishedEndpointGeneration generation
        pure (proposal.network next, true)

end WarpTweet
