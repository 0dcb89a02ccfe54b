import WarpTweet.Model.Keys

/-!
# Invites, client records and requests

The documents of the package `enrollment`: the durable invite record, the durable
client record, the enrollment and management requests, and the checks the code
makes on them before it touches any state.
-/

namespace WarpTweet

open Strings

/-- A profile id: the only supported one, `profile.CurrentID`, or any other text. -/
inductive ProfileID where
  | current
  | other (id : Text)
  deriving DecidableEq, Repr

/-- `id == ""`. -/
def ProfileID.isEmpty (id : ProfileID) : Bool := id = .other []

/-! ## Identifiers and capabilities -/

/-- `isHexID`: a bounded hexadecimal identifier. -/
def isHexID (value : Text) : Bool :=
  !value.isEmpty && decide (byteLength value ≤ 64) &&
    value.all fun c => c.isDigit || (('a' ≤ c && c ≤ 'f') || ('A' ≤ c && c ≤ 'F'))

/-- `isLowerHexDigest`: 64 lower case hexadecimal characters. -/
def isLowerHexDigest (value : Text) : Bool :=
  byteLength value == 64 && value.all fun c => c.isDigit || ('a' ≤ c && c ≤ 'f')

/-- `isManagementToken`: the shape of a management capability. -/
def isManagementToken (token : Text) : Bool :=
  byteLength token == 64 && isLowerHexDigest token

/-- `isSafeName`: letters, digits, and `._-` after the first character. -/
def isSafeName (value : Text) : Bool :=
  !value.isEmpty && decide (byteLength value ≤ 64) &&
    value.all (fun c => c.isAlphanum || c == '.' || c == '_' || c == '-') &&
    value.head?.any fun c => c.isAlphanum

def hashManagementToken (env : Env) (token : Text) : Text := env.sha256 (trimSpace token)

def publicKeyDigest (env : Env) (publicKey : Text) : Text := env.sha256 (trimSpace publicKey)

/-- `clientIDFor`: the first sixteen bytes of the digest, in hexadecimal. -/
def clientIDFor (env : Env) (inviteID publicKey : Text) : Text :=
  (env.sha256 (inviteID ++ '\x00' :: trimSpace publicKey)).take 32

def grantIDFor (env : Env) (inviteID publicKey : Text) : Text :=
  (env.sha256 (inviteID ++ '\x01' :: trimSpace publicKey)).take 32

def managementTokenMatches (env : Env) (wantHash token : Text) : Bool :=
  !wantHash.isEmpty && isManagementToken token && wantHash = hashManagementToken env token

/-! ## Requests -/

structure EnrollmentRequest where
  inviteID : Text
  nonce : Text
  clientName : Text
  publicKey : Text
  profileID : ProfileID
  tunnelID : Text
  listenAddress : Text
  listenPort : Nat
  managementToken : Text
  deriving DecidableEq, Repr

def validateEnrollmentRequest (request : EnrollmentRequest) : Except Err Unit := do
  refuseIf (request.inviteID.isEmpty || request.nonce.isEmpty || request.clientName.isEmpty)
    (.invalidInvite "invite_id, nonce, and client_name are required")
  refuseIf (!isHexID request.inviteID) (.invalidInvite "invite_id must be hex")
  refuseIf (!isHexID request.nonce) (.invalidInvite "nonce must be hex")
  refuseIf (!isSafeName request.clientName) (.invalidInvite "client_name is invalid")
  refuseIf (request.profileID.isEmpty || request.tunnelID.isEmpty)
    (.invalidInvite "profile_id and tunnel_id are required")
  refuseIf (request.listenAddress ≠ "127.0.0.1".toList)
    (.invalidInvite "listen_address must be 127.0.0.1")
  refuseIf (request.listenPort == 0) (.invalidInvite "listen_port must be nonzero")
  refuseIf (!isManagementToken request.managementToken)
    (.invalidInvite "management_token must be 64 lowercase hex characters")
  validatePublicKeyLine request.publicKey

structure ManagementRequest where
  clientID : Text
  managementToken : Text
  tunnelID : Text
  newPublicKey : Text
  nextManagementToken : Text
  deriving DecidableEq, Repr

def validateManagementRequestShape (request : ManagementRequest) : Except Err Unit := do
  refuseIf (request.clientID.isEmpty || request.managementToken.isEmpty || request.tunnelID.isEmpty)
    (.invalidInvite "client_id, management_token, and tunnel_id are required")
  refuseIf (!isHexID request.clientID) (.invalidInvite "client_id is invalid")
  refuseIf (!isManagementToken request.managementToken)
    (.invalidInvite "management_token must be 64 lowercase hex characters")

/-! ## Invites -/

/-- The kind of an invite document: `warptweet.invite`, or another text. -/
inductive InviteKind where
  | invite
  | other (kind : Text)
  deriving DecidableEq, Repr

structure InviteDial where
  host : Text
  port : Nat
  deriving DecidableEq, Repr

structure InviteEnrollment where
  host : Text
  port : Nat
  tlsSPKISHA256 : Text
  deriving DecidableEq, Repr

/-- `Invite`: the enrollment authorization carried to a client. -/
structure Invite where
  kind : InviteKind
  schemaVersion : Nat
  inviteID : Text
  clientName : Text
  data : InviteDial
  enrollment : InviteEnrollment
  publishedEndpointGeneration : Nat
  targetAddress : Text
  targetPort : Nat
  principal : Text
  profileID : ProfileID
  artifactProfileID : Text
  hostPublicKey : Text
  issuedAt : Stamp
  expiresAt : Stamp
  authorizationDurationSeconds : Int
  nonce : Text
  deriving DecidableEq, Repr

inductive InviteStatus where
  | issued
  | consumed
  | cancelled
  | revoked
  | expired
  deriving DecidableEq, Repr

def InviteStatus.wire : InviteStatus → String
  | issued => "issued"
  | consumed => "consumed"
  | cancelled => "cancelled"
  | revoked => "revoked"
  | expired => "expired"

/-- `Record`: durable server-side invite state. -/
structure Record extends Invite where
  status : InviteStatus
  consumedAt : Stamp := .empty
  revokedAt : Stamp := .empty
  clientID : Text := []
  deriving DecidableEq, Repr

def canonicalInviteHost (env : Env) (value : Text) : Except Err Text := do
  let host ← parseDialHost env.net value
  host.canonical env.net

def dialLocatorKey (env : Env) (host : Text) (port : Nat) : Except Err (Text × Nat) := do
  let canonical ← canonicalInviteHost env host
  pure (canonical, port)

def validateInviteShape (env : Env) (invite : Invite) : Except Err Unit := do
  refuseIf (invite.kind ≠ .invite || invite.schemaVersion ≠ 3)
    (.invalidInvite "unsupported kind or schema")
  refuseIf (invite.inviteID.isEmpty || invite.clientName.isEmpty || invite.nonce.isEmpty)
    (.invalidInvite "required fields missing")
  refuseIf (!isHexID invite.inviteID) (.invalidInvite "invite_id is invalid")
  refuseIf (invite.publishedEndpointGeneration == 0)
    (.invalidInvite "published_endpoint_generation must be at least 1")
  let _ ← (canonicalInviteHost env invite.data.host).mapError (.asInvalidInvite "data host: ")
  let _ ← (canonicalInviteHost env invite.enrollment.host).mapError
    (.asInvalidInvite "enrollment host: ")
  refuseIf (env.net.parseAddr invite.targetAddress).isNone
    (.invalidInvite "target address: unable to parse IP")
  refuseIf (invite.data.port == 0 || invite.targetPort == 0 || invite.enrollment.port == 0)
    (.invalidInvite "ports must be nonzero")
  let dataKey ← (dialLocatorKey env invite.data.host invite.data.port).mapError
    (.asInvalidInvite "data host: ")
  let enrollKey ← (dialLocatorKey env invite.enrollment.host invite.enrollment.port).mapError
    (.asInvalidInvite "enrollment host: ")
  refuseIf (dataKey = enrollKey)
    (.invalidInvite "data and enrollment locators must not share the same canonical host:port")
  refuseIf (!isLowerHexDigest invite.enrollment.tlsSPKISHA256)
    (.invalidInvite "enrollment tls_spki_sha256 must be a lowercase SHA-256 digest")
  let _ ← (durationFromSeconds invite.authorizationDurationSeconds).mapError
    (.asInvalidInvite "authorization_duration_seconds: ")
  pure ()

/-- `canonicalizeStoredInvite`: canonical hosts, and a valid shape. -/
def canonicalizeStoredInvite (env : Env) (invite : Invite) : Except Err Invite := do
  let dataHost ← (canonicalInviteHost env invite.data.host).mapError
    (.asInvalidInvite "data host: ")
  let enrollHost ← (canonicalInviteHost env invite.enrollment.host).mapError
    (.asInvalidInvite "enrollment host: ")
  let invite :=
    { invite with
      data := { invite.data with host := dataHost }
      enrollment := { invite.enrollment with host := enrollHost } }
  validateInviteShape env invite
  pure invite

theorem fields_of_canonicalizeStoredInvite {env : Env} {invite result : Invite}
    (h : canonicalizeStoredInvite env invite = .ok result) : ∃ dataHost enrollHost, result =
      { invite with
        data := { invite.data with host := dataHost }
        enrollment := { invite.enrollment with host := enrollHost } } := by
  simp only [canonicalizeStoredInvite, except_bind_eq_ok] at h
  obtain ⟨dataHost, -, enrollHost, -, -, -, h⟩ := h
  cases h
  exact ⟨dataHost, enrollHost, rfl⟩

def Invite.publishedSet (env : Env) (invite : Invite) : Except Err PublishedEndpointSet := do
  let dataHost ← parseDialHost env.net invite.data.host
  let enrollHost ← parseDialHost env.net invite.enrollment.host
  PublishedEndpointSet.canonical env.net
    { generation := invite.publishedEndpointGeneration
      data := { host := dataHost, port := invite.data.port }
      enrollment := { host := enrollHost, port := invite.enrollment.port } }

/-- The instant `time.Parse` reads from `expires_at`, as `InviteExpiry`. -/
def inviteExpiry (record : Record) : Option Time :=
  match record.expiresAt with
  | .at t => some t
  | _ => none

/-- `InviteExpired`: an invite whose expiry does not parse is past due. -/
def inviteExpired (record : Record) (now : Time) : Bool :=
  match inviteExpiry record with
  | some expires => !decide (now < expires)
  | none => true

/-! ## Client records -/

/-- `ClientRecord`: durable server-side enrollment state for one client. -/
structure ClientRecord where
  clientID : Text
  grantID : Text
  tunnelID : Text
  routeID : Text
  inviteID : Text
  publicKey : Text
  publicKeySHA256 : Text
  managementTokenSHA256 : Text
  principal : Text
  profileID : ProfileID
  artifactProfileID : Text
  published : PublishedEndpointSet
  targetAddress : Text
  targetPort : Nat
  status : ClientStatus
  acceptedAt : Stamp
  authorizationNotAfter : Stamp
  authorizationDurationSeconds : Int
  revokedAt : Stamp := .empty
  expiredAt : Stamp := .empty
  generation : Generation := none
  previousPublicKey : Text := []
  previousManagementTokenSHA256 : Text := []
  pendingPublicKey : Text := []
  pendingManagementTokenSHA256 : Text := []
  operationStartedAt : Stamp := .empty
  deriving DecidableEq, Repr

def authorizationStillValid (record : ClientRecord) (now : Time) : Except Err Unit := do
  refuseIf (record.authorizationNotAfter = .empty)
    (.invalidInvite "grant has no host authorization expiry")
  let notAfter ← record.authorizationNotAfter.parseUTC.mapError
    (.asInvalidInvite "authorization_not_after: ")
  refuseIf (readyToExpire notAfter now) (.invalidInvite "authorization expired")

/-- The key of the record has the given digest. A key without a digest has none. -/
def presents (env : Env) (keyBlobSHA256 : Text) (record : ClientRecord) : Bool :=
  match keyBlobDigest env record.publicKey with
  | .ok digest => digest = keyBlobSHA256
  | .error _ => false

/-- The checks of `matchingGrant` on each record with the presented key. -/
def checkGrant (now : Time) (record : ClientRecord) : Except Err Unit := do
  refuseIf (record.status ≠ .active && record.status ≠ .rotationPending)
    (.rejected ("grant status is " ++ record.status.wire))
  refuseIf (record.authorizationNotAfter = .empty) (.rejected "grant missing expiry")
  match record.authorizationNotAfter.parseUTC with
  | .ok notAfter => refuseIf (readyToExpire notAfter now) (.rejected "grant is expired")
  | .error _ => throw (.rejected "grant is expired")

/-- `matchingGrant`, over the records `ListClients` returned: the one active or
rotating, unexpired record whose key has the given digest. A record with that key in
any other status refuses the lookup. -/
def matchingGrant (env : Env) (now : Time) (keyBlobSHA256 : Text) :
    List ClientRecord → Except Err ClientRecord := fun records => do
  let matching := records.filter (presents env keyBlobSHA256)
  matching.forM (checkGrant now)
  match matching with
  | [] => throw (.rejected "no active grant for key")
  | [record] => pure record
  | _ => throw (.rejected "key maps to more than one grant")

/-- `matchingGrant` finds the only record with the presented key, if it passes the
checks. -/
theorem matchingGrant_eq_ok {env : Env} {now : Time} {digest : Text}
    {records : List ClientRecord} {record : ClientRecord} :
    matchingGrant env now digest records = .ok record ↔
      records.filter (presents env digest) = [record] ∧ checkGrant now record = .ok () := by
  simp only [matchingGrant, except_bind_eq_ok]
  rcases hfilter : records.filter (presents env digest) with _ | ⟨first, _ | ⟨second, rest⟩⟩
  · simp [throw, throwThe, MonadExceptOf.throw]
  · simp only [List.forM_eq_forM, List.forM_cons, List.forM_nil, except_bind_eq_ok]
    constructor
    · rintro ⟨_, ⟨_, hcheck, -⟩, hrecord⟩
      cases hrecord
      exact ⟨rfl, hcheck⟩
    · rintro ⟨hrecord, hcheck⟩
      cases hrecord
      exact ⟨(), ⟨(), hcheck, rfl⟩, rfl⟩
  · simp [throw, throwThe, MonadExceptOf.throw]

theorem status_of_checkGrant {now : Time} {record : ClientRecord}
    (h : checkGrant now record = .ok ()) :
    record.status = .active ∨ record.status = .rotationPending := by
  simp only [checkGrant, except_bind_eq_ok, refuseIf_eq_ok] at h
  obtain ⟨-, hstatus, -⟩ := h
  by_contra hne
  rw [not_or] at hne
  simp [hne.1, hne.2] at hstatus

/-- `nextGrantReconcileDelay`: how long the reconcile loop may wait, in nanoseconds.
The source tells a failed or empty listing (`nil`) from records. -/
def nextGrantReconcileDelay (now : Time) (records : List ClientRecord) : Int :=
  let maximum := 60 * Time.second
  let watched := records.filter fun record =>
    (record.status = .active || record.status = .expirationPending ||
      record.status = .rotationPending) && record.authorizationNotAfter ≠ .empty
  let due := watched.any fun record =>
    match record.authorizationNotAfter.parseUTC with
    | .ok notAfter => !decide (notAfter > now)
    | .error _ => true
  if due then Time.second
  else
    let delay := watched.foldl (fun delay record =>
      match record.authorizationNotAfter.parseUTC with
      | .ok notAfter => min delay (notAfter - now)
      | .error _ => delay) maximum
    max delay Time.second

end WarpTweet
