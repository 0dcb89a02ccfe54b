import WarpTweet.Model.Enrollment

/-!
# The life of a grant

Revocation, rotation, expiry and their recovery (`enrollment/clients.go` and
`grant.ExecuteExpire`), as programs over the actions of the host. The callbacks that
edit the authorization file and end sessions are the ones the host passes:
`removeAuthorizedKeyForPublicKey`, `replaceAuthorizedKeyForPublicKey` and the grant
authority.
-/

namespace WarpTweet

open Strings Concurrency

/-- The callback that removes the authorization of a key. -/
def removeAuthorization (publicKey : Text) : HostProg Unit := do
  let ok ← perform (.removeKey publicKey)
  written ok "authorized keys"

/-- The callback that replaces the authorization of the old key by a rendered line. -/
def replaceAuthorization (line : AuthorizedLine) (oldPublicKey : Text) : HostProg Unit := do
  let ok ← perform (.replaceKey oldPublicKey line)
  written ok "authorized keys"

/-- The callback that installs the authorization of an accepted client. -/
def installAuthorization (env : Env) (manifest : Manifest) (publicKey : Text) (notAfter : Time) :
    HostProg Unit := do
  perform (.install publicKey notAfter)
  let line ← .ofExcept
    ((renderAuthorizedKey env manifest publicKey notAfter).mapError (.asInvalidInvite ""))
  let ok ← perform (.appendKey line)
  written ok "authorized keys"

/-- `Authority.Terminate`. -/
def terminateSession (clientID publicKeySHA256 : Text) : HostProg Unit := do
  let result ← perform (.terminate clientID none publicKeySHA256)
  .ofExcept result

/-- `Authority.VerifyGone`. -/
def verifySessionGone (clientID publicKeySHA256 : Text) : HostProg Unit := do
  let result ← perform (.verifyGone clientID none publicKeySHA256)
  .ofExcept result

/-- The optional hooks of `SessionEnforcement`: both are set, or neither. -/
def enforceSessions (enforced : Bool) (clientID : Text) : HostProg Unit := do
  if enforced then
    terminateSession clientID []
    verifySessionGone clientID []

/-- The hash of a random capability nobody holds. -/
def burnManagementToken (env : Env) : HostProg Text := do
  match ← perform .randomToken with
  | some token => pure (hashManagementToken env token)
  | none => throw (.plain "generate burned management token")

/-- `LoadClient` by a management operation: any failure is an unknown client. -/
def loadKnownClient (clientID : Text) : HostProg ClientRecord :=
  (loadClient clientID).mapError fun _ => .invalidInvite "unknown client"

/-- The error of an operation on a record in the wrong status. -/
def statusError (record : ClientRecord) : Err :=
  .invalidInvite ("client status is \"" ++ record.status.wire ++ "\"")

def beginRevocation (record : ClientRecord) (now : Time) : ClientRecord :=
  { record with status := .revocationPending, operationStartedAt := .format now }

def finishRevocation (record : ClientRecord) (burned : Text) (now : Time) : ClientRecord :=
  { record with
    previousManagementTokenSHA256 := record.managementTokenSHA256
    managementTokenSHA256 := burned
    status := .revoked
    revokedAt := .format now
    operationStartedAt := .empty }

/-! ## Revocation -/

/-- The end of `RevokeClient` and of `completePendingRevocation`: remove the
authorization of the public key, end the sessions, burn the token, publish. -/
def completeRevocation (env : Env) (enforced : Bool) (now : Time) (record : ClientRecord) :
    HostProg ClientRecord := do
  removeAuthorization record.publicKey
  enforceSessions enforced record.clientID
  let burned ← burnManagementToken env
  let revoked := finishRevocation record burned now
  writeClientAtomic revoked
  pure revoked

/-- The part of `RevokeClient` under the client lock. -/
def revokeClientLocked (env : Env) (request : ManagementRequest) (now : Time) (enforced : Bool) :
    HostProg ClientRecord := do
  let record ← loadKnownClient request.clientID
  refuse (record.tunnelID ≠ request.tunnelID) (.invalidInvite "tunnel_id mismatch")
  if record.status = .revoked then do
    refuse (!managementTokenMatches env record.previousManagementTokenSHA256 request.managementToken)
      (.invalidInvite "management token mismatch")
    removeAuthorization record.publicKey
    pure record
  else do
    refuse (record.status ≠ .active && record.status ≠ .revocationPending &&
      record.status ≠ .expirationPending) (statusError record)
    refuse (!managementTokenMatches env record.managementTokenSHA256 request.managementToken)
      (.invalidInvite "management token mismatch")
    if record.status = .active then do
      writeClientAtomic (beginRevocation record now)
      completeRevocation env enforced now (beginRevocation record now)
    else completeRevocation env enforced now record

/-- `RevokeClient`: revocation authenticated by the management token. -/
def revokeClient (env : Env) (request : ManagementRequest) (now : Time) (enforced : Bool) :
    HostProg ClientRecord := do
  let now ← orNow now
  .ofExcept (validateManagementRequestShape request)
  withClientLock request.clientID (revokeClientLocked env request now enforced)

/-- The removal of the authorization of a pending key, in `RevokeClientAsHost`. -/
def removePendingAuthorization (record : ClientRecord) : HostProg Unit :=
  if ¬ record.pendingPublicKey.isEmpty ∧ record.pendingPublicKey ≠ record.publicKey then
    removeAuthorization record.pendingPublicKey
  else pure ()

/-- The end of `RevokeClientAsHost`: unlike the other revocations it also removes the
authorization of a pending key, and clears the pending fields. -/
def completeRevocationAsHost (env : Env) (now : Time) (record : ClientRecord) :
    HostProg ClientRecord := do
  removeAuthorization record.publicKey
  removePendingAuthorization record
  enforceSessions true record.clientID
  let burned ← burnManagementToken env
  let revoked :=
    { finishRevocation record burned now with
      pendingPublicKey := []
      pendingManagementTokenSHA256 := [] }
  writeClientAtomic revoked
  pure revoked

/-- The part of `RevokeClientAsHost` under the client lock. -/
def revokeClientAsHostLocked (env : Env) (clientID : Text) (now : Time) :
    HostProg ClientRecord := do
  let record ← loadKnownClient clientID
  if record.status = .revoked then do
    removeAuthorization record.publicKey
    enforceSessions true record.clientID
    pure record
  else do
    refuse (record.status ≠ .active && record.status ≠ .revocationPending &&
      record.status ≠ .expirationPending && record.status ≠ .rotationPending) (statusError record)
    if record.status = .active ∨ record.status = .rotationPending then do
      writeClientAtomic (beginRevocation record now)
      completeRevocationAsHost env now (beginRevocation record now)
    else completeRevocationAsHost env now record

/-- `RevokeClientAsHost`: revocation by the operator, without the bearer token. -/
def revokeClientAsHost (env : Env) (clientID : Text) (now : Time) : HostProg ClientRecord := do
  let now ← orNow now
  refuse (!isHexID clientID) (.invalidInvite "client_id must be a hexadecimal identifier")
  withClientLock clientID (revokeClientAsHostLocked env clientID now)

def completePendingRevocation (env : Env) (clientID : Text) (now : Time) :
    HostProg ClientRecord :=
  withClientLock clientID do
    let current ← loadClient clientID
    if current.status = .revoked then pure current
    else do
      refuse (current.status ≠ .revocationPending)
        (.plain ("client status is \"" ++ current.status.wire ++ "\""))
      completeRevocation env true now current

/-- `errors.Join` of the errors collected by a loop. -/
def joinErrors (errs : List Err) : HostProg Unit :=
  match errs with
  | [] => pure ()
  | errs => throw (.plain ("\n".intercalate (errs.map Err.text)))

/-- One iteration of a loop that collects errors and goes on. -/
def collectError {α : Type} (clientID : Text) (errs : List Err) (body : HostProg α) :
    HostProg (List Err) := do
  match ← body.attempt with
  | .ok _ => pure errs
  | .error err => pure (errs ++ [err.wrap ("client " ++ String.ofList clientID)])

/-- `ReconcilePendingRevocations`: finish every pending revocation. -/
def reconcilePendingRevocations (env : Env) (now : Time) : HostProg Unit := do
  let records ← listClients
  let errs ← .fold (fun errs record =>
      if record.status ≠ .revocationPending then pure errs
      else collectError record.clientID errs (completePendingRevocation env record.clientID now))
    records []
  joinErrors errs

/-! ## Rotation -/

/-- A record whose rotation to `newPublicKey` has begun. -/
def beginRotation (record : ClientRecord) (newPublicKey nextHash : Text) (now : Time) :
    ClientRecord :=
  { record with
    pendingPublicKey := newPublicKey
    pendingManagementTokenSHA256 := nextHash
    status := .rotationPending
    operationStartedAt := .format now }

/-- A record whose rotation to `newPublicKey` is complete. -/
def finishRotation (env : Env) (record : ClientRecord) (newPublicKey nextHash : Text)
    (now : Time) : ClientRecord :=
  { record with
    previousPublicKey := record.publicKey
    previousManagementTokenSHA256 := record.managementTokenSHA256
    publicKey := newPublicKey
    publicKeySHA256 := publicKeyDigest env newPublicKey
    managementTokenSHA256 := nextHash
    pendingPublicKey := []
    pendingManagementTokenSHA256 := []
    operationStartedAt := .empty
    status := .active
    generation := generationAt now }

/-- The end of `RotateClientPublicKey`: swap the authorization, then publish. -/
def completeRotation (env : Env) (newPublicKey nextHash : Text) (now : Time)
    (replace : Text → HostProg Unit) (record : ClientRecord) : HostProg ClientRecord := do
  replace record.publicKey
  let rotated := finishRotation env record newPublicKey nextHash now
  writeClientAtomic rotated
  pure rotated

/-- The part of `RotateClientPublicKey` under the client lock. -/
def rotateClientPublicKeyLocked (env : Env) (request : ManagementRequest) (newPublicKey : Text)
    (now : Time) (replace : Text → HostProg Unit) : HostProg ClientRecord := do
  let record ← loadKnownClient request.clientID
  refuse (record.tunnelID ≠ request.tunnelID) (.invalidInvite "tunnel_id mismatch")
  let nextHash := hashManagementToken env request.nextManagementToken
  let currentHash := hashManagementToken env request.managementToken
  if record.status = .active ∧ record.publicKey = newPublicKey ∧
      record.managementTokenSHA256 = nextHash ∧
      record.previousManagementTokenSHA256 = currentHash then do
    replace record.previousPublicKey
    pure record
  else do
    .ofExcept (authorizationStillValid record now)
    refuse (record.status = .expired || record.status = .expirationPending) (statusError record)
    refuse (record.status ≠ .active && record.status ≠ .rotationPending) (statusError record)
    refuse (!managementTokenMatches env record.managementTokenSHA256 request.managementToken)
      (.invalidInvite "management token mismatch")
    if record.status = .active then do
      let pending := beginRotation record newPublicKey nextHash now
      writeClientAtomic pending
      completeRotation env newPublicKey nextHash now replace pending
    else do
      refuse (record.pendingPublicKey ≠ newPublicKey ||
          record.pendingManagementTokenSHA256 ≠ nextHash)
        (.invalidInvite "rotation retry does not match pending state")
      completeRotation env newPublicKey nextHash now replace record

def rotateClientPublicKey (env : Env) (request : ManagementRequest) (newPublicKey : Text)
    (now : Time) (replace : Text → HostProg Unit) : HostProg ClientRecord := do
  let now ← orNow now
  .ofExcept (validateManagementRequestShape request)
  let newPublicKey := trimSpace newPublicKey
  .ofExcept (validatePublicKeyLine newPublicKey)
  refuse (!isManagementToken request.nextManagementToken)
    (.invalidInvite "next_management_token must be 64 lowercase hex characters")
  withClientLock request.clientID (rotateClientPublicKeyLocked env request newPublicKey now replace)

def evictPreviousKeySessions (env : Env) (record : ClientRecord) : HostProg Unit := do
  if ¬ record.previousPublicKey.isEmpty then
    let oldDigest := publicKeyDigest env record.previousPublicKey
    terminateSession record.clientID oldDigest
    verifySessionGone record.clientID oldDigest

/-! ## Expiry -/

/-- `ExecuteExpire`, with the operations of the host. It returns the burned hash. -/
def executeExpire (env : Env) (plan : ExpirePlan) : HostProg Text := do
  .ofExcept (validateExpirePlan plan)
  .ofExcept (plan.status.authorizeTransition .expirationPending)
  (removeAuthorization plan.publicKey).mapError (.wrap "remove effective authorization")
  (terminateSession plan.clientID []).mapError (.wrap "terminate matching session")
  let lines ← perform .readKeys
  let lines ← .ofExcept (match lines with
    | some lines => .ok lines
    | none => .error (.plain "authorization still effective: read authorized keys"))
  .ofExcept ((verifyAuthorizedKeyAbsent plan.publicKey lines).mapError
    (.wrap "authorization still effective"))
  (verifySessionGone plan.clientID []).mapError (.wrap "matching session still effective")
  (burnManagementToken env).mapError (.wrap "burn management capability")

def beginExpiration (record : ClientRecord) (now : Time) : ClientRecord :=
  { record with status := .expirationPending, operationStartedAt := .format now }

/-- A record whose expiry is complete. The token is replaced unless its hash is
empty. -/
def finishExpiration (record : ClientRecord) (burned : Text) (now : Time) : ClientRecord :=
  { record with
    previousManagementTokenSHA256 :=
      if burned.isEmpty then record.previousManagementTokenSHA256 else record.managementTokenSHA256
    managementTokenSHA256 := if burned.isEmpty then record.managementTokenSHA256 else burned
    status := .expired
    expiredAt := .format now
    operationStartedAt := .empty }

def expirePlan (record : ClientRecord) (notAfter now : Time) : ExpirePlan :=
  { clientID := record.clientID
    generation := record.generation
    publicKey := record.publicKey
    publicKeySHA256 := record.publicKeySHA256
    status := record.status
    notAfter
    now }

/-- The end of `ExpireClient`: run the expiry of a pending record and publish it. -/
def completeExpiration (env : Env) (record : ClientRecord) (notAfter now : Time) :
    HostProg ClientRecord := do
  let burned ← executeExpire env (expirePlan record notAfter now)
  let expired := finishExpiration record burned now
  writeClientAtomic expired
  pure expired

/-- The part of `ExpireClient` under the client lock. -/
def expireClientLocked (env : Env) (clientID : Text) (now : Time) : HostProg ClientRecord := do
  let record ← loadKnownClient clientID
  if record.status = .expired then pure record
  else do
    let notAfter ← .ofExcept (record.authorizationNotAfter.parseUTC.mapError
      (.asInvalidInvite "authorization_not_after: "))
    .ofExcept (validateExpirePlan (expirePlan record notAfter now))
    if record.status = .active ∨ record.status = .rotationPending then do
      .ofExcept (record.status.authorizeTransition .expirationPending)
      writeClientAtomic (beginExpiration record now)
      completeExpiration env (beginExpiration record now) notAfter now
    else completeExpiration env record notAfter now

/-- `ExpireClient`: the host expiry transaction for one grant. -/
def expireClient (env : Env) (clientID : Text) (now : Time) : HostProg ClientRecord := do
  let now ← orNow now
  refuse (!isHexID clientID) (.invalidInvite "client_id is invalid")
  withClientLock clientID (expireClientLocked env clientID now)

/-- `ReconcileExpiredClients`: expire every due grant. An end that does not parse
returns at once. -/
def reconcileExpiredClients (env : Env) (now : Time) : HostProg Unit := do
  let records ← listClients
  let errs ← .fold (fun errs record =>
      if record.status ≠ .active ∧ record.status ≠ .expirationPending ∧
          record.status ≠ .rotationPending then pure errs
      else if record.authorizationNotAfter = .empty then pure errs
      else do
        let notAfter ← .ofExcept (record.authorizationNotAfter.parseUTC.mapError
          (.wrap ("client " ++ String.ofList record.clientID)))
        if record.status ≠ .expirationPending ∧ ¬ readyToExpire notAfter now then pure errs
        else collectError record.clientID errs (expireClient env record.clientID now))
    records []
  joinErrors errs

end WarpTweet
