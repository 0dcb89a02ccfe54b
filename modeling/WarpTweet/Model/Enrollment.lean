import WarpTweet.Model.Host

/-!
# Enrollment

Invites and their acceptance (`enrollment/invite.go`, `enrollment/accept.go`), as
programs over the actions of the host. A deferred unlock is the release half of
`Prog.bracket`. The installer of an authorization is the callback the caller passes.
-/

namespace WarpTweet

open Strings Concurrency

/-- A check of the form `if bad { return err }`. -/
def refuse (bad : Bool) (err : Err) : HostProg Unit := .ofExcept (refuseIf bad err)

/-- `if now.IsZero() { now = time.Now().UTC() }`. -/
def orNow (now : Time) : HostProg Time := if now.isZero then perform .now else pure now

/-- Run `body` under a lock, which is released on every path. -/
def withLock {α : Type} (name : Lock) (wait : Bool) (busy : Err) (body : HostProg α) : HostProg α :=
  .bracket
    (do
      match ← perform (.lock name wait) with
      | .acquired => pure ()
      | .busy => throw busy
      | .failed => throw (.plain "lock: unavailable"))
    (perform (.unlock name))
    body

/-- `lockInvite`, held by `body`. -/
def withInviteLock {α : Type} (inviteID : Text) (body : HostProg α) : HostProg α :=
  withLock (.invite inviteID) true (.plain "lock invite: busy") body

/-- `lockClient`, held by `body`. -/
def withClientLock {α : Type} (clientID : Text) (body : HostProg α) : HostProg α := do
  refuse (!isHexID clientID) (.invalidInvite "client_id is invalid")
  withLock (.client clientID) true (.plain "lock client: busy") body

/-- An atomic write that returned `ok`. -/
def written (ok : Bool) (what : String) : HostProg Unit :=
  refuse (!ok) (.plain ("write " ++ what))

/-! ## Invites -/

/-- `Load`: read one invite record, canonical and of valid shape. -/
def load (env : Env) (inviteID : Text) : HostProg Record := do
  refuse (!isHexID inviteID) (.invalidInvite "invite_id is invalid")
  match ← perform (.readInvite inviteID) with
  | .found record => do
      let invite ← .ofExcept (canonicalizeStoredInvite env record.toInvite)
      pure { record with toInvite := invite }
  | .missing => throw ⟨.notExist, "file does not exist"⟩
  | .failed => throw (.plain "read invite record")

/-- `writeJSONAtomic` of an invite record. -/
def writeInvite (record : Record) : HostProg Unit := do
  let ok ← perform (.writeInvite record)
  written ok "invite record"

/-- `List`: every invite record, in directory order. One that does not load fails
the listing. -/
def list (env : Env) : HostProg (List Record) := do
  match ← perform .listInvites with
  | some names => .collect (load env) (names.filter isHexID)
  | none => throw (.plain "read invites directory")

/-- `Consume`: mark an issued invite consumed. -/
def consume (env : Env) (inviteID clientID : Text) (now : Time) : HostProg Record := do
  let record ← load env inviteID
  refuse (record.status ≠ .issued)
    (.invalidInvite ("invite status is \"" ++ record.status.wire ++ "\""))
  let now ← orNow now
  match inviteExpiry record with
  | none => throw (.plain "parse expires_at")
  | some expires =>
    if ¬ now < expires then do
      let _ ← perform (.writeInvite { record with status := .expired })
      throw (.invalidInvite "invite expired")
    else do
      let consumed :=
        { record with status := .consumed, consumedAt := .format now, clientID := clientID }
      writeInvite consumed
      pure consumed

/-- `Cancel`: mark an unconsumed invite cancelled. -/
def cancel (env : Env) (inviteID : Text) (now : Time) : HostProg Record :=
  withInviteLock inviteID do
    let record ← load env inviteID
    if record.status = .cancelled then pure record
    else do
      refuse (record.status = .consumed || record.status = .revoked)
        (.plain ("invite " ++ String.ofList inviteID ++ " is " ++ record.status.wire ++
          "; cancel applies only to unconsumed invitations"))
      let now ← orNow now
      let cancelled := { record with status := .cancelled, revokedAt := .format now }
      writeInvite cancelled
      pure cancelled

/-- `Revoke`: mark a consumed invite revoked after the grant itself is revoked. It
takes no lock. -/
def revoke (env : Env) (inviteID : Text) (now : Time) : HostProg Record := do
  let record ← load env inviteID
  if record.status = .revoked then pure record
  else do
    refuse (record.status = .issued || record.status = .cancelled)
      (.plain ("invite " ++ String.ofList inviteID ++ " is " ++ record.status.wire ++
        "; revoke applies only after consumption"))
    let now ← orNow now
    let revoked := { record with status := .revoked, revokedAt := .format now }
    writeInvite revoked
    pure revoked

/-- `UnusedIssuedForGeneration`: the unexpired issued invites of a generation. Past
due ones are persisted as expired, as far as the write succeeds. -/
def unusedIssuedForGeneration (env : Env) (generation : Nat) (now : Time) :
    HostProg (List Record) := do
  let now ← orNow now
  let records ← list env
  .fold (fun issued record =>
      if record.status ≠ .issued ∨ record.publishedEndpointGeneration ≠ generation then pure issued
      else if inviteExpired record now then do
        let _ ← perform (.writeInvite { record with status := .expired })
        pure issued
      else pure (issued ++ [record]))
    records []

/-! ## Client files -/

/-- `StoreClient`: write the file of a new client. -/
def storeClient (record : ClientRecord) : HostProg Unit := do
  refuse (record.clientID.isEmpty || !isHexID record.clientID) (.invalidInvite "client_id is invalid")
  match ← perform (.storeClient record) with
  | .stored => pure ()
  | .exists => throw (.plain ("client \"" ++ String.ofList record.clientID ++ "\" already exists"))
  | .failed => throw (.plain "write client record")

def loadClient (clientID : Text) : HostProg ClientRecord := do
  refuse (!isHexID clientID) (.invalidInvite "client_id is invalid")
  match ← perform (.readClient clientID) with
  | .found record => pure record
  | .missing => throw ⟨.notExist, "file does not exist"⟩
  | .failed => throw (.plain "read client record")

def writeClientAtomic (record : ClientRecord) : HostProg Unit := do
  let ok ← perform (.writeClient record)
  written ok "client record"

/-- `UpdateClient`: replace an existing client file under the client lock. -/
def updateClient (record : ClientRecord) : HostProg Unit :=
  withClientLock record.clientID do
    let _ ← loadClient record.clientID
    writeClientAtomic record

/-- `ListClients`: every client record, in directory order. -/
def listClients : HostProg (List ClientRecord) := do
  match ← perform .listClients with
  | some names => .collect loadClient (names.filter isHexID)
  | none => throw (.plain "read clients directory")

/-! ## Acceptance -/

/-- `AcceptInput`, without the directories. -/
structure AcceptInput where
  request : EnrollmentRequest
  hostPublicKey : Text
  principal : Text
  profileID : ProfileID
  targetAddress : Text
  targetPort : Nat
  published : PublishedEndpointSet
  now : Time

/-- `EnrollmentProof`: the non-secret binding returned after acceptance. -/
structure EnrollmentProof where
  inviteID : Text
  clientID : Text
  hostPublicKey : Text
  publicKey : Text
  target : Text × Nat
  principal : Text
  profileID : ProfileID
  nonce : Text
  acceptedAt : Stamp
  authorizationNotAfter : Stamp
  authorizationDurationSeconds : Int
  published : PublishedEndpointSet

structure AcceptResult where
  proof : EnrollmentProof
  publicKey : Text
  invite : Invite
  clientID : Text

/-- The client record that `Accept` stores for an issued invite. -/
def wantClient (env : Env) (request : EnrollmentRequest) (record : Record)
    (published : PublishedEndpointSet) (now : Time) (notAfter : Stamp) : ClientRecord :=
  let publicKey := trimSpace request.publicKey
  { clientID := clientIDFor env record.inviteID publicKey
    grantID := grantIDFor env record.inviteID publicKey
    tunnelID := request.tunnelID
    routeID := request.tunnelID
    inviteID := record.inviteID
    publicKey
    publicKeySHA256 := publicKeyDigest env publicKey
    managementTokenSHA256 := hashManagementToken env request.managementToken
    principal := record.principal
    profileID := record.profileID
    artifactProfileID := record.artifactProfileID
    published
    targetAddress := record.targetAddress
    targetPort := record.targetPort
    status := .enrollmentPending
    acceptedAt := .format now
    authorizationNotAfter := notAfter
    authorizationDurationSeconds := record.authorizationDurationSeconds
    generation := generationAt now }

/-- The comparison of `storeOrResumePendingClient`: the stored record is this
enrollment, still pending or already active. -/
def resumesPending (env : Env) (existing want : ClientRecord) : Bool :=
  (existing.status = .enrollmentPending || existing.status = .active) &&
    existing.inviteID = want.inviteID && existing.tunnelID = want.tunnelID &&
    existing.publicKey = want.publicKey &&
    existing.managementTokenSHA256 = want.managementTokenSHA256 &&
    existing.principal = want.principal && existing.profileID = want.profileID &&
    existing.published.equal env.net want.published &&
    existing.authorizationDurationSeconds = want.authorizationDurationSeconds &&
    existing.targetAddress = want.targetAddress && existing.targetPort = want.targetPort

def storeOrResumePendingClient (env : Env) (want : ClientRecord) : HostProg ClientRecord := do
  match ← (storeClient want).attempt with
  | .ok _ => pure want
  | .error err =>
    match ← (loadClient want.clientID).attempt with
    | .error _ => throw err
    | .ok existing => do
        refuse (!resumesPending env existing want)
          (.invalidInvite "conflicting client enrollment state")
        pure existing

/-- The comparison of `resumeAcceptedEnrollment`: the active record is the one this
request enrolled. -/
def resumesAccepted (env : Env) (input : AcceptInput) (invite : Record) (publicKey : Text)
    (client : ClientRecord) : Bool :=
  client.status = .active && client.inviteID = invite.inviteID &&
    client.tunnelID = input.request.tunnelID && client.publicKey = publicKey &&
    client.managementTokenSHA256 = hashManagementToken env input.request.managementToken &&
    client.published.equal env.net input.published

/-- `acceptedResult`, for a client record and its invite. -/
def acceptedResult (invite : Record) (client : ClientRecord) (publicKey : Text)
    (published : PublishedEndpointSet) : AcceptResult :=
  { proof :=
      { inviteID := invite.inviteID
        clientID := client.clientID
        hostPublicKey := invite.hostPublicKey
        publicKey
        target := (invite.targetAddress, invite.targetPort)
        principal := invite.principal
        profileID := invite.profileID
        nonce := invite.nonce
        acceptedAt := client.acceptedAt
        authorizationNotAfter := client.authorizationNotAfter
        authorizationDurationSeconds := client.authorizationDurationSeconds
        published }
    publicKey
    invite := invite.toInvite
    clientID := client.clientID }

/-- `resumeAcceptedEnrollment`: a retry on a consumed invite. The client record is
read, and the authorization installed, without the client lock. -/
def resumeAcceptedEnrollment (env : Env) (input : AcceptInput)
    (install : Text → Time → HostProg Unit) (invite : Record) (clientID publicKey : Text) :
    HostProg AcceptResult := do
  refuse (invite.clientID ≠ clientID) (.invalidInvite "invite has already been consumed")
  let client ← (loadClient clientID).mapError fun _ =>
    .invalidInvite "consumed invite client state is unavailable"
  refuse (!resumesAccepted env input invite publicKey client)
    (.invalidInvite "invite retry does not match accepted enrollment")
  let notAfter ← .ofExcept
    (client.authorizationNotAfter.parseUTC.mapError (.asInvalidInvite "stored authorization_not_after: "))
  (install publicKey notAfter).mapError (.wrap "reconcile client authorization")
  let published :=
    match input.published.canonical env.net with
    | .ok canonical => canonical
    | .error _ => client.published
  pure (acceptedResult invite client publicKey published)

/-- `Accept` activates a client that is still pending. -/
def activateClient (client : ClientRecord) : HostProg Unit :=
  if client.status = .enrollmentPending then updateClient { client with status := .active }
  else pure ()

/-- The part of `Accept` after the checks on an issued, unexpired invite: store or
resume the client, install its authorization, activate it, consume the invite. -/
def acceptIssued (env : Env) (input : AcceptInput) (install : Text → Time → HostProg Unit)
    (record : Record) (published : PublishedEndpointSet) (now : Time) : HostProg AcceptResult := do
  let publicKey := trimSpace input.request.publicKey
  refuse (record.authorizationDurationSeconds == 0)
    (.invalidInvite "invite missing authorization_duration_seconds")
  let end_ ← .ofExcept ((authorizationNotAfter now record.authorizationDurationSeconds).mapError
    (.asInvalidInvite ""))
  let client ← storeOrResumePendingClient env
    (wantClient env input.request record published now end_.2)
  let notAfter ← .ofExcept
    (client.authorizationNotAfter.parseUTC.mapError (.asInvalidInvite "stored authorization_not_after: "))
  (install publicKey notAfter).mapError (.wrap "install client authorization")
  activateClient client
  let consumed ← consume env record.inviteID (clientIDFor env record.inviteID publicKey) now
  pure (acceptedResult consumed client publicKey published)

/-- The checks of `Accept` on an issued invite. -/
def checkIssued (input : AcceptInput) (record : Record) : Except Err Unit := do
  refuseIf (record.status ≠ .issued)
    (.invalidInvite ("invite status is \"" ++ record.status.wire ++ "\""))
  refuseIf (record.nonce ≠ input.request.nonce) (.invalidInvite "invite nonce mismatch")
  refuseIf (record.clientName ≠ input.request.clientName) (.invalidInvite "client_name mismatch")
  refuseIf (record.profileID ≠ input.request.profileID || record.profileID ≠ input.profileID)
    (.invalidInvite "profile_id mismatch")
  refuseIf (record.principal ≠ input.principal) (.invalidInvite "principal mismatch")
  refuseIf (record.targetAddress ≠ input.targetAddress || record.targetPort ≠ input.targetPort)
    (.invalidInvite "target mismatch")
  refuseIf (record.hostPublicKey ≠ trimSpace input.hostPublicKey)
    (.invalidInvite "host public key mismatch")

/-- The part of `Accept` under the invite lock. -/
def acceptLocked (env : Env) (input : AcceptInput) (install : Text → Time → HostProg Unit)
    (published : PublishedEndpointSet) (now : Time) : HostProg AcceptResult := do
  let record ← (load env input.request.inviteID).mapError fun _ => .invalidInvite "unknown invite"
  let recordSet ← .ofExcept
    ((record.publishedSet env).mapError (.asInvalidInvite "invite published set: "))
  refuse (!recordSet.equal env.net published)
    (.invalidInvite "published endpoint set does not match invite")
  let publicKey := trimSpace input.request.publicKey
  if record.status = .consumed then
    resumeAcceptedEnrollment env input install record (clientIDFor env record.inviteID publicKey)
      publicKey
  else do
    .ofExcept (checkIssued input record)
    match inviteExpiry record with
    | none => throw (.invalidInvite "parse expires_at")
    | some expires =>
      if ¬ now < expires then do
        let _ ← perform (.writeInvite { record with status := .expired })
        throw (.invalidInvite "invite expired")
      else acceptIssued env input install record published now

/-- The checks `Accept` makes before it takes the invite lock. The result is the
canonical published set. -/
def checkAcceptInput (env : Env) (input : AcceptInput) : Except Err PublishedEndpointSet := do
  validateEnrollmentRequest input.request
  refuseIf ((trimSpace input.hostPublicKey).isEmpty ||
      containsAny input.hostPublicKey ['\r', '\n', '\x00'])
    (.invalidInvite "host public key is required")
  refuseIf (input.principal.isEmpty || input.profileID.isEmpty)
    (.invalidInvite "principal and profile_id are required")
  refuseIf (input.profileID ≠ .current || input.request.profileID ≠ .current)
    (.invalidInvite "unsupported profile_id")
  refuseIf (input.targetAddress.isEmpty || input.targetPort == 0)
    (.invalidInvite "target is required")
  (input.published.canonical env.net).mapError (.asInvalidInvite "published endpoint set: ")

/-- `Accept`: validate one enrollment request against a stored single-use invite,
converge client state and authorization, and consume the invite. -/
def accept (env : Env) (input : AcceptInput) (install : Text → Time → HostProg Unit) :
    HostProg AcceptResult := do
  let published ← .ofExcept (checkAcceptInput env input)
  let now ← orNow input.now
  withInviteLock input.request.inviteID (acceptLocked env input install published now)

end WarpTweet
