import WarpTweet.Model.Routes
import WarpTweet.Model.Locator

/-!
# Starting routes at boot

The package `routestate` keeps, in each route directory, an intent and a receipt. At boot the
routes are listed, and two loops go over the listing: `reconcileDarwinBoot` of the provisioner
and the `reconcile` command. The steps of the service managers are taken to succeed; what they
write does not change the listing, which has been read before.
-/

namespace WarpTweet

open Strings Storage

/-- A document of a route directory, as `readStrictJSON` finds it. -/
inductive RouteDocument (α : Type) where
  | missing
  | unreadable (err : Err)
  | stored (document : α)
  deriving DecidableEq, Repr

structure Intent where
  kind : Text := []
  schemaVersion : Int := 0
  routeID : Text := []
  desiredState : Text := []
  restartPolicy : Text := []
  bootID : Text := []
  deriving DecidableEq, Repr

/-- `Receipt`. -/
structure RouteReceipt where
  clientID : Text := []
  routeID : Text := []
  authorizationNotAfter : Stamp := .empty
  authorizationDurationSeconds : Int := 0
  generation : Text := []
  endpoints : PublishedEndpointSet := ⟨0, ⟨⟨none, []⟩, 0⟩, ⟨⟨none, []⟩, 0⟩⟩
  revokedAt : Text := []
  deriving DecidableEq, Repr

/-- An entry of the route store. -/
structure RouteEntry where
  name : Text
  isDir : Bool
  intent : RouteDocument Intent
  receipt : RouteDocument RouteReceipt
  deriving DecidableEq, Repr

structure ListedRoute where
  routeID : Text
  intent : Intent := {}
  receipt : RouteReceipt := {}
  invalid : Bool := false
  error : String := ""
  deriving DecidableEq, Repr

def kindDesiredState : Text := "warptweet.route-desired-state".toList
def desiredRunning : Text := "running".toList
def desiredStopped : Text := "stopped".toList
def restartUnlessStopped : Text := "unless-stopped".toList
def restartManual : Text := "manual".toList

def parseRestartPolicy (value : Text) : Except Err Text :=
  if trimSpace value = [] ∨ trimSpace value = restartUnlessStopped then .ok restartUnlessStopped
  else if trimSpace value = restartManual then .ok restartManual
  else .error (.invalidRoute "restart policy must be unless-stopped or manual")

def shouldStartAtBoot (intent : Intent) (currentBootID : Text) : Bool :=
  if intent.desiredState ≠ desiredRunning then false
  else if intent.restartPolicy = restartUnlessStopped then true
  else if intent.restartPolicy = restartManual then
    !intent.bootID.isEmpty && intent.bootID = currentBootID
  else false

def validateIntent (intent : Intent) : Except Err Unit := do
  refuseIf (intent.kind ≠ kindDesiredState || intent.schemaVersion ≠ 1)
    (.invalidRoute "unsupported desired-state schema")
  validateRouteID intent.routeID
  refuseIf (intent.desiredState ≠ desiredRunning && intent.desiredState ≠ desiredStopped)
    (.invalidRoute "desired_state must be running or stopped")
  let _ ← parseRestartPolicy intent.restartPolicy
  refuseIf (intent.restartPolicy = restartManual && intent.desiredState = desiredRunning &&
      intent.bootID.isEmpty)
    (.invalidRoute "manual running routes require a boot identity")

/-- `LoadIntent`, for a valid route id. -/
def RouteEntry.loadIntent (entry : RouteEntry) : Except Err Intent :=
  match entry.intent with
  | .missing => .error ⟨.notExist, "open desired.json: no such file or directory"⟩
  | .unreadable err => .error err
  | .stored intent => do
    let intent := if intent.routeID.isEmpty then { intent with routeID := entry.name } else intent
    validateIntent intent
    pure intent

def validateReceipt (net : NetIP) (receipt : RouteReceipt) : Except Err Unit := do
  validateRouteID receipt.routeID
  refuseIf (receipt.clientID.isEmpty || receipt.authorizationNotAfter = .empty ||
      decide (receipt.authorizationDurationSeconds ≤ 0) || receipt.generation.isEmpty)
    (.invalidRoute "receipt is missing required authorization fields")
  let _ ← (receipt.endpoints.canonical net).mapError fun err =>
    .invalidRoute ("receipt published endpoint set: " ++ err.text)

/-- `LoadReceipt`, for a valid route id. -/
def RouteEntry.loadReceipt (entry : RouteEntry) : RouteDocument RouteReceipt :=
  match entry.receipt with
  | .stored receipt => .stored
      (if receipt.routeID.isEmpty then { receipt with routeID := entry.name } else receipt)
  | other => other

/-- The route of one entry in `List`. A route without a receipt is valid, with the empty
receipt. -/
def RouteEntry.list (net : NetIP) (entry : RouteEntry) : ListedRoute :=
  let malformed (intent : Intent) (text : String) : ListedRoute :=
    { routeID := entry.name, intent, invalid := true, error := text }
  if !entry.isDir then malformed {} "route path is not a directory"
  else match validateRouteID entry.name, entry.loadIntent, entry.loadReceipt with
    | .error err, _, _ | .ok _, .error err, _ => malformed {} err.text
    | .ok _, .ok intent, .missing => { routeID := entry.name, intent }
    | .ok _, .ok intent, .unreadable err => malformed intent err.text
    | .ok _, .ok intent, .stored receipt =>
      match validateReceipt net receipt with
      | .error err => malformed intent err.text
      | .ok _ => { routeID := entry.name, intent, receipt }

/-- `List`. -/
def listRoutes (net : NetIP) (store : Directory RouteEntry.name) : List ListedRoute :=
  (store.files.filter fun entry => entry.name ≠ ".lock".toList).map (RouteEntry.list net)

/-- `writeTunnelPlist`: the check of `renderTunnelPlist`. -/
def writeTunnelPlist (tunnelID : Text) : Except Err Unit := validateTunnelID "tunnel_id" tunnelID

/-- `startTunnel`: the check of `launchTunnel`. -/
def startTunnel (tunnelID : Text) : Except Err Unit := validateTunnelID "tunnel_id" tunnelID

/-- The loop of `reconcileDarwinBoot`: the routes it starts, and its errors. -/
def reconcileDarwinBoot (bootID : Text) : List ListedRoute → List Text × List Err
  | [] => ([], [])
  | route :: routes =>
    let (started, errs) := reconcileDarwinBoot bootID routes
    let failed (step : String) (err : Err) : List Text × List Err :=
      (started, .wrap ("route " ++ String.ofList route.routeID ++ " " ++ step) err :: errs)
    if route.invalid then (started, errs)
    else match writeTunnelPlist route.routeID with
      | .error err => failed "plist" err
      | .ok _ =>
        if !shouldStartAtBoot route.intent bootID then (started, errs)
        else match startTunnel route.routeID with
          | .error err => failed "start" err
          | .ok _ => (route.routeID :: started, errs)

structure ReconcileResult where
  started : List Text := []
  skipped : List Text := []
  failed : List (Text × Err) := []
  deriving DecidableEq, Repr

/-- The loop of `runReconcile`. A stop that is projected for a skipped route is no part of the
lists. -/
def runReconcile (bootID : Text) (now : Time) : List ListedRoute → ReconcileResult
  | [] => {}
  | route :: routes =>
    let result := runReconcile bootID now routes
    let skip := { result with skipped := route.routeID :: result.skipped }
    if route.invalid then skip
    else if route.receipt.clientID.isEmpty || route.receipt.authorizationNotAfter = .empty then skip
    else match route.receipt.authorizationNotAfter.parseUTC with
      | .error _ => skip
      | .ok notAfter =>
        if readyToExpire notAfter now then skip
        else if !route.receipt.revokedAt.isEmpty then skip
        else if !shouldStartAtBoot route.intent bootID then skip
        else match validateRouteID route.routeID with
          -- the check of `projectManagedTunnel`
          | .error err => { result with failed := (route.routeID, err) :: result.failed }
          | .ok _ => { result with started := route.routeID :: result.started }

end WarpTweet
