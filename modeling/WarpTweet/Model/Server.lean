import WarpTweet.Model.Clients

/-!
# The server: handlers, reconcilers, the clock and logins

The commands and listeners of the host (`command/enroll_server.go`,
`command/server_admin.go`), the host clock (`grant/clock.go`) and the authentication
of one connection (`dataplane/conn.go`), composed from the programs of the package
`enrollment`. The calls of this module are the processes of a host, and
`hostMachine` is the machine they run on.
-/

namespace WarpTweet

open Strings Concurrency

/-! ## The host clock -/

/-- `now.Year() < 2020 || now.Year() > 2200`. -/
def yearOutOfRange (now : Time) : Bool :=
  decide (now < 1577836800 * Time.second) || decide (7289654400 * Time.second ≤ now)

/-- The decision of `ObserveClock` for a reading, given the stored observation: it is
refused, accepted without a write, or to be written. -/
def clockDecision (observed : Option Stamp) (now : Time) : Except Err Bool := do
  refuseIf now.isZero (.invalidClock "current time is zero")
  refuseIf (yearOutOfRange now) (.invalidClock "current time is implausible")
  match observed with
  | none => pure true
  | some stamp =>
    match stamp.parseUTC with
    | .error err => throw (.invalidClock ("stored observation: " ++ err.text))
    | .ok previous => do
        refuseIf (decide (now + Time.second < previous))
          (.invalidClock "wall clock rolled back")
        pure !decide (now < previous)

/-- The end of `ObserveClock`, for the stored observation: a reading that advances it
is written. -/
def recordObservation (observed : Option Stamp) (now : Time) : HostProg Unit := do
  let advances ← .ofExcept (clockDecision observed now)
  if advances then
    let encoded ← .ofExcept (Stamp.formatUTC now)
    let ok ← perform (.writeObservation encoded)
    written ok "clock observation"

/-- `ObserveClock`: record the reading after rejecting a material rollback. -/
def observeClock (now : Time) : HostProg Unit := do
  -- the two checks that need no file come first
  .ofExcept ((clockDecision none now).map fun _ => ())
  match ← perform .readObservation with
  | .found stamp => recordObservation (some stamp) now
  | .missing => recordObservation none now
  | .failed => throw (.invalidClock "clock observation is empty or oversized")

/-- `enterBlockedClock`: publish the blocked state, empty the authorization file, end
every session. It always returns an error. -/
def enterBlockedClock (reason : Err) : HostProg Unit := do
  let ok ← perform .writeBlocked
  written ok "blocked clock"
  let ok ← perform (.writeKeys [])
  written ok "authorized keys"
  let result ← perform .terminateAll
  .ofExcept result
  throw (reason.wrap "host clock blocked")

/-! ## Reconciliation -/

def grantTarget (env : Env) (record : ClientRecord) : Except Err (Addr × Nat) :=
  match env.net.parseAddr record.targetAddress with
  | none => .error (.plain "grant target address: unable to parse IP")
  | some addr =>
    if record.targetPort = 0 then .error (.plain "grant target port is missing")
    else .ok (addr, record.targetPort)

/-- The line `reconcileManagedAuthorizations` writes for a live, unexpired record. -/
def managedLine (env : Env) (manifest : Manifest) (record : ClientRecord) (notAfter : Time) :
    Except Err AuthorizedLine := do
  let client := "client " ++ String.ofList record.clientID
  let target ← (grantTarget env record).mapError (.wrap client)
  refuseIf (target ≠ (manifest.targetAddress, manifest.targetPort))
    (.plain (client ++ " grant target does not match host target"))
  (renderAuthorizedKeyForTarget env record.publicKey target notAfter).mapError (.wrap client)

/-- One record of `reconcileManagedAuthorizations`: active and rotating grants that
have not ended keep one line, all other statuses are deliberately unauthorized. -/
def reconcileRecord (env : Env) (manifest : Manifest) (lines : List AuthorizedLine)
    (record : ClientRecord) : HostProg (List AuthorizedLine) :=
  if record.status = .active ∨ record.status = .rotationPending then
    if record.authorizationNotAfter = .empty then pure lines
    else do
      let notAfter ← .ofExcept (record.authorizationNotAfter.parseUTC.mapError
        (.wrap ("client " ++ String.ofList record.clientID)))
      let now ← perform .now
      if readyToExpire notAfter now then pure lines
      else do
        let line ← .ofExcept (managedLine env manifest record notAfter)
        if lines.any fun existing => existing.blob = line.blob then pure lines
        else pure (lines ++ [line])
  else pure lines

/-- `reconcileManagedAuthorizations`: rebuild the whole authorization file from the
client records, under its lock. -/
def reconcileManagedAuthorizations (env : Env) (manifest : Manifest) : HostProg Unit :=
  withLock .authorizedKeys true (.plain "lock resource: busy") do
    let records ← listClients
    let lines ← .fold (reconcileRecord env manifest) records []
    let ok ← perform (.writeKeys lines)
    written ok "authorized keys"

def reconcileExpiredGrants (env : Env) (now : Time) : HostProg Unit := do
  reconcilePendingRevocations env now
  reconcileExpiredClients env now

/-- The end of a tick of `reconcileGrantsUntil`: both reconcilers, once they are due. -/
def reconcileDue (env : Env) (manifest : Manifest) (now : Time) (records : List ClientRecord) :
    HostProg Unit :=
  if nextGrantReconcileDelay now records > Time.second then pure ()
  else do
    let _ ← (reconcileExpiredGrants env now).attempt
    let _ ← (reconcileManagedAuthorizations env manifest).attempt
    pure ()

/-- One tick of `reconcileGrantsUntil`. Errors are logged and the loop goes on, and a
failed listing counts as an empty one. -/
def reconcileTick (env : Env) (manifest : Manifest) (now : Time) : HostProg Unit := do
  match ← (observeClock now).attempt with
  | .error err => do
      let _ ← (enterBlockedClock err).attempt
      pure ()
  | .ok _ => do
      match ← listClients.attempt with
      | .ok records => reconcileDue env manifest now records
      | .error _ => reconcileDue env manifest now []

/-- The start of `server enroll-listen` and `server mgmt-listen`, up to serving. -/
def startListener (env : Env) (manifest : Manifest) (now : Time) : HostProg Unit := do
  let blocked ← perform .readBlocked
  refuse blocked (.plain "host clock: blocked until warptweet server clock-recover")
  match ← (observeClock now).attempt with
  | .error err => enterBlockedClock err
  | .ok _ => do
      (reconcileExpiredGrants env now).mapError (.wrap "reconcile expired grants")
      (reconcileManagedAuthorizations env manifest).mapError
        (.wrap "reconcile managed authorizations")

/-- `warptweet host`, under the host lock: the clock, the resumption of issued
invites and the reconcilers. -/
def hostCommand (env : Env) (manifest : Manifest) (now : Time) : HostProg Unit :=
  withLock .host true (.plain "lock resource: busy") do
    let blocked ← perform .readBlocked
    refuse blocked (.plain "host clock: blocked until warptweet server clock-recover")
    match ← (observeClock now).attempt with
    | .error err => enterBlockedClock err
    | .ok _ => do
        let _ ← unusedIssuedForGeneration env manifest.published.generation now
        (reconcileExpiredGrants env now).mapError (.wrap "reconcile expired grants")
        (reconcileManagedAuthorizations env manifest).mapError
          (.wrap "reconcile managed authorizations")

/-- `server clock-recover`. -/
def clockRecover (env : Env) (manifest : Manifest) (now : Time) : HostProg Unit := do
  (observeClock now).mapError (.wrap "clock is still untrusted")
  (reconcileManagedAuthorizations env manifest).mapError (.wrap "reconcile managed authorizations")
  let ok ← perform .clearBlocked
  written ok "blocked clock"

/-! ## Requests -/

/-- The input `acceptAndAuthorizeLocked` builds from the manifest. -/
def acceptInput (env : Env) (manifest : Manifest) (hostPublicKey : Text)
    (request : EnrollmentRequest) (now : Time) : AcceptInput :=
  { request
    hostPublicKey
    principal := manifest.dedicatedUser
    profileID := .current
    targetAddress := env.net.format manifest.targetAddress
    targetPort := manifest.targetPort
    published := manifest.published
    now }

/-- `acceptAndAuthorize`: the enrollment request handler, under the host lock, which
it does not wait for. -/
def acceptAndAuthorize (env : Env) (manifest : Manifest) (hostPublicKey : Text)
    (request : EnrollmentRequest) (now : Time) : HostProg EnrollmentProof :=
  withLock .host false ⟨.hostBusy, "host_busy: another host command holds .host.lock"⟩ do
    let blocked ← perform .readBlocked
    refuse blocked (.plain "host clock is blocked")
    let result ← accept env (acceptInput env manifest hostPublicKey request now)
      (installAuthorization env manifest)
    pure result.proof

/-- The management handler of `/v1/rotate`, without its delayed eviction. -/
def rotateHandler (env : Env) (manifest : Manifest) (request : ManagementRequest) (now : Time) :
    HostProg ClientRecord := do
  refuse request.newPublicKey.isEmpty (.invalidInvite "new_public_key is required")
  let existing ← loadClient request.clientID
  let notAfter ← .ofExcept
    (existing.authorizationNotAfter.parseUTC.mapError (.asInvalidInvite ""))
  let line ← .ofExcept
    ((renderAuthorizedKey env manifest request.newPublicKey notAfter).mapError (.asInvalidInvite ""))
  rotateClientPublicKey env request request.newPublicKey now (replaceAuthorization line)

/-- `/v1/rotate`: the handler, and after the reply the eviction of the sessions of the
previous key, whose error is only logged. -/
def manageRotate (env : Env) (manifest : Manifest) (request : ManagementRequest) (now : Time) :
    HostProg Unit := do
  let rotated ← rotateHandler env manifest request now
  let _ ← (evictPreviousKeySessions env rotated).attempt
  pure ()

/-- `/v1/revoke`: the handler revokes without session hooks, and after the reply ends
the sessions of the client. Errors of that are only logged. -/
def manageRevoke (env : Env) (request : ManagementRequest) (now : Time) : HostProg Unit := do
  let revoked ← revokeClient env request now false
  let _ ← (terminateSession revoked.clientID []).attempt
  let _ ← (verifySessionGone revoked.clientID []).attempt
  pure ()

/-- `server revoke`: by invite id or by client id. -/
def serverRevoke (env : Env) (id : Text) (now : Time) : HostProg Unit := do
  refuse (!isHexID id) (.plain "revoke id must be a hexadecimal identifier")
  match ← (load env id).attempt with
  | .ok record =>
    if record.status = .issued ∨ record.status = .cancelled ∨
        (record.status = .expired ∧ record.clientID.isEmpty) then do
      let _ ← cancel env id now
      pure ()
    else do
      refuse record.clientID.isEmpty (.plain "consumed invite has no client_id")
      let _ ← revokeClientAsHost env record.clientID now
      let _ ← revoke env id now
      pure ()
  | .error err =>
    if err.kind ≠ .notExist then throw err
    else
      match ← (loadClient id).attempt with
      | .ok _ => do
          let _ ← revokeClientAsHost env id now
          pure ()
      | .error err =>
        if err.kind ≠ .notExist then throw err
        else throw (.plain ("unknown invite or client \"" ++ String.ofList id ++ "\""))

/-! ## Logins -/

/-- `knownClient`: some authorized line holds the presented key. -/
def knownClient (env : Env) (keyBlob : Text) (lines : List AuthorizedLine) : Bool :=
  lines.any fun line => env.decodeBase64 line.blob = some keyBlob

/-- What ends a connection: it leaves the session table and its session record goes. -/
def releaseGrant (connectionID : Text) : HostProg Unit := do
  perform (.disconnect connectionID)
  perform (.unregister connectionID)

/-- `handleUserauth` for a signed public-key request: the key is authorized, the
signature verifies, the session is registered, the connection enters the session
table, and success is answered. -/
def handleUserauth (env : Env) (connectionID keyBlob : Text) : HostProg Unit := do
  let lines ← perform .readKeys
  refuse (!knownClient env keyBlob (lines.getD [])) (.plain "userauth failure")
  let verified ← perform .verifySignature
  refuse (!verified) (.plain "userauth failure")
  perform (.authenticate connectionID (env.sha256 keyBlob))
  match ← perform (.register connectionID (env.sha256 keyBlob)) with
  | .error err => do
      releaseGrant connectionID
      throw err
  | .ok _ => do
      perform (.track connectionID)
      let sent ← perform (.answer connectionID)
      if ¬ sent then
        releaseGrant connectionID
        throw (.plain "connection closed")

/-! ## The machine -/

inductive Call where
  | accept (input : AcceptInput)
  | enroll (request : EnrollmentRequest) (now : Time)
  | cancel (inviteID : Text) (now : Time)
  | revokeInvite (inviteID : Text) (now : Time)
  | unusedIssued (generation : Nat) (now : Time)
  | serverRevoke (id : Text) (now : Time)
  | revokeClient (request : ManagementRequest) (now : Time) (enforced : Bool)
  | revokeClientAsHost (clientID : Text) (now : Time)
  | rotate (request : ManagementRequest) (now : Time)
  | manageRotate (request : ManagementRequest) (now : Time)
  | manageRevoke (request : ManagementRequest) (now : Time)
  | expireClient (clientID : Text) (now : Time)
  | reconcilePendingRevocations (now : Time)
  | reconcileExpiredClients (now : Time)
  | reconcileExpiredGrants (now : Time)
  | reconcileManaged
  | reconcileTick (now : Time)
  | startListener (now : Time)
  | hostCommand (now : Time)
  | clockRecover (now : Time)
  | login (connectionID keyBlob : Text)

def ignore {α : Type} (program : HostProg α) : HostProg Unit := program.bind fun _ => .done ()

/-- A host: the environment, its manifest and its public key. -/
structure Site where
  env : Env
  manifest : Manifest
  hostPublicKey : Text

def callProgram (site : Site) : Call → HostProg Unit
  | .accept input =>
    ignore (accept site.env input (installAuthorization site.env site.manifest))
  | .enroll request now =>
    ignore (acceptAndAuthorize site.env site.manifest site.hostPublicKey request now)
  | .cancel inviteID now => ignore (cancel site.env inviteID now)
  | .revokeInvite inviteID now => ignore (revoke site.env inviteID now)
  | .unusedIssued generation now =>
    withLock .host true (.plain "lock resource: busy")
      (ignore (unusedIssuedForGeneration site.env generation now))
  | .serverRevoke id now => serverRevoke site.env id now
  | .revokeClient request now enforced => ignore (revokeClient site.env request now enforced)
  | .revokeClientAsHost clientID now => ignore (revokeClientAsHost site.env clientID now)
  | .rotate request now => ignore (rotateHandler site.env site.manifest request now)
  | .manageRotate request now => manageRotate site.env site.manifest request now
  | .manageRevoke request now => manageRevoke site.env request now
  | .expireClient clientID now => ignore (expireClient site.env clientID now)
  | .reconcilePendingRevocations now => reconcilePendingRevocations site.env now
  | .reconcileExpiredClients now => reconcileExpiredClients site.env now
  | .reconcileExpiredGrants now => reconcileExpiredGrants site.env now
  | .reconcileManaged => reconcileManagedAuthorizations site.env site.manifest
  | .reconcileTick now => reconcileTick site.env site.manifest now
  | .startListener now => startListener site.env site.manifest now
  | .hostCommand now => hostCommand site.env site.manifest now
  | .clockRecover now => clockRecover site.env site.manifest now
  | .login connectionID keyBlob => handleUserauth site.env connectionID keyBlob

def hostMachine (site : Site) : Machine Host Call Action Choice Action.Reply Err where
  program := callProgram site
  perform := performAction site.env
  release := releaseLocks

abbrev Pool := Config Host Call Action Choice Action.Reply Err

end WarpTweet
