import WarpTweet.Model.ClientConfig
import WarpTweet.Storage.Directory

/-!
# The route store of a client

The package `routestate`: one directory for each route, with a reservation file that claims its
listen port. Reservations and removals run under the lock of the store, one at a time, and can
fail or be stopped between two changes of the store. What is left then is what the failing
operation would have changed next.
-/

namespace WarpTweet

open Strings Storage

/-- `fmt.Errorf("%w: ...", ErrInvalidRoute)`. -/
def Err.invalidRoute (text : String) : Err := .plain ("invalid WarpTweet route: " ++ text)

/-- The file `reservation.json` of a route. -/
inductive ReservationFile where
  | missing
  | unreadable
  | stored (routeID : Text) (listenPort : Nat)
  deriving DecidableEq, Repr

/-- A route directory: its reservation, and the listen endpoint of its receipt, if any. -/
structure Route where
  routeID : Text
  reservation : ReservationFile
  listen : Text
  deriving DecidableEq, Repr

abbrev RouteStore := Directory Route.routeID

def validateRouteID (routeID : Text) : Except Err Unit := do
  refuseIf (routeID.isEmpty || decide (64 < byteLength routeID))
    (.invalidRoute "route id must be 1-64 characters")
  refuseIf (contains routeID ['.', '.'] || containsAny routeID ['/', '\\', ':'])
    (.invalidRoute "route id must not contain path characters")
  refuseIf (routeID.head?.any fun c => c == '-' || c == '_')
    (.invalidRoute "route id must start with an alphanumeric character")
  match routeID.find? fun c => !(c.isAlphanum || c == '-' || c == '_') with
  | some c => throw (.invalidRoute ("route id contains forbidden character '" ++ c.toString ++ "'"))
  | none => pure ()

/-- `validateTunnelID` of the package `lifecycle`. -/
def validateLifecycleTunnelID (tunnelID : Text) : Except Err Unit := do
  refuseIf (tunnelID.isEmpty || decide (64 < byteLength tunnelID))
    (.plain "tunnel id must be 1-64 characters")
  refuseIf (tunnelID.head?.any fun c => c == '-' || c == '_')
    (.plain "tunnel id must start with an alphanumeric character")
  match tunnelID.find? fun c => !(c.isAlphanum || c == '-' || c == '_') with
  | some c => throw (.plain ("tunnel id contains forbidden character '" ++ c.toString ++ "'"))
  | none => refuseIf (contains tunnelID ['.', '.']) (.plain "tunnel id must not contain ..")

def RouteStore.loadReservation (store : RouteStore) (routeID : Text) : ReservationFile :=
  match store.get routeID with
  | some route => route.reservation
  | none => .missing

/-- `listenEndpointPort`: the text after the last colon. -/
def listenEndpointPort (endpoint : Text) : Text :=
  if endpoint.contains ':' then (endpoint.reverse.takeWhile (· ≠ ':')).reverse else []

/-- The loop of `PortOwner` over the listed routes. -/
def portOwnerOf (listenPort : Nat) : List Route → Except Err (Option Text)
  | [] => .ok none
  | route :: routes =>
    match route.reservation with
    | .missing =>
      if !route.listen.isEmpty &&
          listenEndpointPort route.listen = (toString listenPort).toList then
        .ok (some route.routeID)
      else portOwnerOf listenPort routes
    | .unreadable => .error (.invalidRoute "route document is empty or oversized")
    | .stored _ port =>
      if port = listenPort then .ok (some route.routeID) else portOwnerOf listenPort routes

def RouteStore.portOwner (store : RouteStore) (listenPort : Nat) : Except Err (Option Text) :=
  portOwnerOf listenPort store.files

/-- `os.RemoveAll` of a route directory. -/
def RouteStore.removeAll (store : RouteStore) (routeID : Text) : RouteStore :=
  ⟨store.files.filter fun route => route.routeID ≠ routeID,
    (List.filter_sublist.map Route.routeID).nodup store.nodup⟩

/-- Where an operation on the store fails or is stopped. -/
inductive RouteFault where
  | none
  | mkdir
  | list
  | removeAll
  | write
  deriving DecidableEq, Repr

/-- The claim of a new route directory: the port has no other owner, and the reservation is
written. The directory has just been made. -/
def claimPort (store : RouteStore) (routeID : Text) (listenPort : Nat) (fault : RouteFault) :
    Except Err Bool × RouteStore :=
  if fault = .list then (.error (.plain "list routes"), store)
  else match store.portOwner listenPort with
    | .error err => (.error err, store)
    | .ok owner =>
      if owner.any fun owner => owner ≠ routeID then
        (.error (.invalidRoute ("listen port " ++ toString listenPort ++ " is already reserved by " ++
            String.ofList (owner.getD []))),
          -- a failed removal is ignored
          if fault = .removeAll then store else store.removeAll routeID)
      else if fault = .write then (.error (.plain "write reservation"), store)
      else (.ok true, store.put ⟨routeID, .stored routeID listenPort, []⟩)

/-- `reservePortLocked`: whether a reservation was made, and the store. -/
def reservePortLocked (store : RouteStore) (routeID : Text) (listenPort : Nat) (fault : RouteFault) :
    Except Err Bool × RouteStore :=
  if listenPort = 0 then
    (.error (.invalidRoute "listen port must be a nonzero TCP port"), store)
  else if store.loadReservation routeID = .stored routeID listenPort then (.ok false, store)
  else match validateRouteID routeID with
    | .error err => (.error err, store)
    | .ok _ =>
      if (store.get routeID).isSome then
        (.error (.invalidRoute ("route \"" ++ String.ofList routeID ++ "\" already exists")), store)
      else if fault = .mkdir then (.error (.plain "mkdir"), store)
      else claimPort (store.put ⟨routeID, .missing, []⟩) routeID listenPort fault

/-- `Remove`. A removal that is stopped may have removed the reservation already. -/
def RouteStore.remove (store : RouteStore) (routeID : Text) (fault : RouteFault) :
    Except Err Unit × RouteStore :=
  match validateRouteID routeID with
  | .error err => (.error err, store)
  | .ok _ =>
    if fault = .removeAll then
      (.error (.plain "remove route"),
        match store.get routeID with
        | some route => store.put { route with reservation := .missing }
        | none => store)
    else if fault = .none then (.ok (), store.removeAll routeID)
    else (.error (.plain "remove route"), store)

inductive RouteOp where
  | reserve (routeID : Text) (listenPort : Nat) (fault : RouteFault)
  | remove (routeID : Text) (fault : RouteFault)
  deriving DecidableEq, Repr

/-- The store after an operation, whatever it returns. -/
def RouteStore.step (store : RouteStore) : RouteOp → RouteStore
  | .reserve routeID listenPort fault => (reservePortLocked store routeID listenPort fault).2
  | .remove routeID fault => (store.remove routeID fault).2

def RouteStore.run (store : RouteStore) (ops : List RouteOp) : RouteStore :=
  ops.foldl RouteStore.step store

end WarpTweet
