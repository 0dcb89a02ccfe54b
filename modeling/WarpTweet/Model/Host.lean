import WarpTweet.Concurrency.Guarded
import WarpTweet.Storage.Directory
import WarpTweet.Model.Records

/-!
# The host: durable state and atomic actions

The state the commands and listeners of one host share: the invite and client
directories, the authorization file, the session records of the grant authority,
the live connections of the data plane, the clock documents and the locks.

An action is one lock operation, one file read, one atomic file replacement, one
lock-protected edit of the authorization file, or one section under the lock of the
grant authority. The environment chooses how it turns out: a write may fail before
the rename, or be reported as failed although the rename has happened (the sync of
the directory comes after it).
-/

namespace WarpTweet

open Strings Concurrency Storage

/-- The exclusive locks: one per client, one per invite, and those of the
authorization file and of the host state. -/
inductive Lock where
  | client (clientID : Text)
  | invite (inviteID : Text)
  | authorizedKeys
  | host
  deriving DecidableEq, Repr

/-- `grantsession.Record`: one durable authenticated session binding. `dataPlane`
is `isDataPlaneExe` of the recorded executable. -/
structure Session where
  grantID : Text
  clientID : Text
  generation : Generation
  publicKeySHA256 : Text
  keyBlobSHA256 : Text
  dataPlane : Bool
  connectionID : Text
  registeredAt : Stamp
  deriving DecidableEq, Repr

/-- One authenticated connection of the data plane. `tracked` says that it is in the
session table, where a drop finds it, and `answered` that success was sent. -/
structure Connection where
  id : Text
  keyDigest : Text
  tracked : Bool
  answered : Bool
  isOpen : Bool
  deriving DecidableEq, Repr

/-- The shared state of a host. `observed` is the last accepted clock reading and
`blocked` the blocked-clock document. -/
structure Host where
  invites : Directory fun record : Record => record.inviteID
  clients : Directory ClientRecord.clientID
  authorizedKeys : List AuthorizedLine
  sessions : List Session
  connections : List Connection
  observed : Option Stamp
  blocked : Bool
  locks : Lock → Option ℕ

/-- How an action turns out: it succeeds, it fails without effect, or it takes
effect and is reported as failed. -/
inductive Outcome where
  | ok
  | lost
  | torn
  deriving DecidableEq, Repr

/-- What the environment decides for one action: the outcome, the reading of the
clock, fresh random text, and the connections a termination could not end. -/
structure Choice where
  outcome : Outcome := .ok
  time : Time := 0
  token : Text := []
  failing : List Text := []
  deriving DecidableEq, Repr

inductive LockReply where
  | acquired
  | busy
  | failed
  deriving DecidableEq, Repr

inductive Read (α : Type) where
  | found (value : α)
  | missing
  | failed
  deriving DecidableEq, Repr

/-- `os.Lstat` and then the atomic write of a new client file. -/
inductive StoreReply where
  | stored
  | exists
  | failed
  deriving DecidableEq, Repr

/-- The atomic actions. `install` is the entry of the callback that installs an
authorization; it changes nothing by itself. -/
inductive Action where
  | lock (name : Lock) (wait : Bool)
  | unlock (name : Lock)
  | now
  | randomToken
  | readInvite (inviteID : Text)
  | writeInvite (record : Record)
  | listInvites
  | readClient (clientID : Text)
  | storeClient (record : ClientRecord)
  | writeClient (record : ClientRecord)
  | listClients
  | install (publicKey : Text) (notAfter : Time)
  | appendKey (line : AuthorizedLine)
  | replaceKey (oldPublicKey : Text) (line : AuthorizedLine)
  | removeKey (publicKey : Text)
  | writeKeys (lines : List AuthorizedLine)
  | readKeys
  | terminate (clientID : Text) (generation : Generation) (publicKeySHA256 : Text)
  | verifyGone (clientID : Text) (generation : Generation) (publicKeySHA256 : Text)
  | terminateAll
  | readObservation
  | writeObservation (observed : Stamp)
  | readBlocked
  | writeBlocked
  | clearBlocked
  | verifySignature
  | authenticate (connectionID keyDigest : Text)
  | register (connectionID keyDigest : Text)
  | track (connectionID : Text)
  | answer (connectionID : Text)
  | disconnect (connectionID : Text)
  | unregister (connectionID : Text)

@[reducible]
def Action.Reply : Action → Type
  | lock _ _ => LockReply
  | unlock _ => Unit
  | now => Time
  | randomToken => Option Text
  | readInvite _ => Read Record
  | readClient _ => Read ClientRecord
  | listInvites | listClients => Option (List Text)
  | storeClient _ => StoreReply
  | readKeys => Option (List AuthorizedLine)
  | terminate _ _ _ | verifyGone _ _ _ | terminateAll => Except Err Unit
  | register _ _ => Except Err Unit
  | readObservation => Read Stamp
  | writeInvite _ | writeClient _ | appendKey _ | replaceKey _ _ | removeKey _ | writeKeys _ => Bool
  | writeObservation _ | readBlocked | writeBlocked | clearBlocked => Bool
  | verifySignature | answer _ => Bool
  | install _ _ | authenticate _ _ | track _ | disconnect _ | unregister _ => Unit

abbrev HostProg (α : Type) := Prog Action Action.Reply Err α

def perform (action : Action) : HostProg action.Reply := Prog.perform action

namespace Outcome

/-- The action took effect. -/
def applies : Outcome → Bool
  | ok | torn => true
  | lost => false

/-- The action was reported as a success. -/
def reports : Outcome → Bool
  | ok => true
  | torn | lost => false

theorem applies_of_reports {outcome : Outcome} (h : outcome.reports = true) :
    outcome.applies = true := by
  cases outcome <;> first | rfl | cases h

end Outcome

/-! ## Sessions -/

/-- `matchGrantSessions`: an empty generation or digest matches all. -/
def matchGrantSessions (clientID : Text) (generation : Generation) (publicKeySHA256 : Text)
    (session : Session) : Bool :=
  session.clientID = clientID && (generation.isNone || session.generation = generation) &&
    (publicKeySHA256.isEmpty || session.publicKeySHA256 = publicKeySHA256)

/-- `dropKey` for the key digests in `digests`: close the tracked connections that
logged in with one of them. -/
def dropConnections (digests : List Text) (connections : List Connection) : List Connection :=
  connections.map fun connection =>
    if connection.tracked && digests.contains connection.keyDigest then
      { connection with isOpen := false }
    else connection

/-- `Terminate` and `TerminateAll`: drop every selected data-plane session and remove
its record. A session whose drop fails keeps its record, and sessions of other
executables are only signalled. -/
def terminateSessions (selected : Session → Bool) (failing : List Text) (host : Host) :
    Except Err Unit × Host :=
  let ended := fun session : Session =>
    selected session && session.dataPlane && !failing.contains session.connectionID
  let result :=
    if host.sessions.any fun session => selected session && failing.contains session.connectionID
    then .error (.plain "data-plane drop refused")
    else .ok ()
  (result,
    { host with
      sessions := host.sessions.filter fun session => !ended session
      connections := dropConnections
        ((host.sessions.filter ended).map Session.keyBlobSHA256) host.connections })

/-- `VerifyGone`: the selected records, in order. A data-plane record, or a process
that is still running, refutes it; other records are removed. -/
def verifySessionsGone (selected : Session → Bool) (alive : List Text) :
    List Session → Except Err Unit × List Session
  | [] => (.ok (), [])
  | session :: sessions =>
    if selected session then
      if session.dataPlane then
        (.error (.plain ("data-plane session " ++ String.ofList session.connectionID ++
          " for client " ++ String.ofList session.clientID ++ " is still registered")),
          session :: sessions)
      else if alive.contains session.connectionID then
        (.error (.plain ("session for client " ++ String.ofList session.clientID ++
          " is still running")), session :: sessions)
      else verifySessionsGone selected alive sessions
    else
      let result := verifySessionsGone selected alive sessions
      (result.1, session :: result.2)

/-- `Register`: find the one grant of the presented key, and write the session
record under its name. The digests of a valid record are 64 hexadecimal characters. -/
def registerSession (env : Env) (connectionID keyDigest : Text) (choice : Choice) (host : Host) :
    Except Err Unit × Host :=
  match matchingGrant env choice.time keyDigest host.clients.files with
  | .error err => (.error err, host)
  | .ok record =>
    match Stamp.formatUTC choice.time with
    | .error err => (.error err, host)
    | .ok registeredAt =>
      let session : Session :=
        { grantID := record.grantID
          clientID := record.clientID
          generation := record.generation
          publicKeySHA256 := record.publicKeySHA256
          keyBlobSHA256 := keyDigest
          dataPlane := true
          connectionID
          registeredAt }
      if record.grantID.isEmpty || record.clientID.isEmpty || record.generation.isNone ||
          !isLowerHexDigest record.publicKeySHA256 || !isLowerHexDigest keyDigest then
        (.error (.rejected "persist session: grant session missing key binding"), host)
      else
        let others := host.sessions.filter fun other =>
          !(other.clientID = session.clientID && other.generation = session.generation &&
            other.connectionID = session.connectionID)
        match choice.outcome with
        | .ok => (.ok (), { host with sessions := others ++ [session] })
        | .torn => (.error (.rejected "persist session"),
            { host with sessions := others ++ [session] })
        | .lost => (.error (.rejected "persist session"), host)

/-! ## Actions -/

/-- One edit of the authorization file under its lock. It waits while another
process holds the lock. -/
def editKeys (pid : ℕ) (edit : List AuthorizedLine → List AuthorizedLine) (choice : Choice)
    (host : Host) : Option (Bool × Host) :=
  if host.locks .authorizedKeys = none ∨ host.locks .authorizedKeys = some pid then
    some (choice.outcome.reports,
      if choice.outcome.applies then { host with authorizedKeys := edit host.authorizedKeys }
      else host)
  else none

def changeConnection (connectionID : Text) (change : Connection → Connection) (host : Host) : Host :=
  { host with
    connections := host.connections.map fun connection =>
      if connection.id = connectionID then change connection else connection }

def performAction (env : Env) (pid : ℕ) :
    (action : Action) → Choice → Host → Option (action.Reply × Host)
  | .lock name wait, choice, host =>
    if choice.outcome.reports then
      match host.locks name with
      | none => some (.acquired, { host with locks := Function.update host.locks name (some pid) })
      | some _ => if wait then none else some (.busy, host)
    else some (.failed, host)
  | .unlock name, _, host =>
    some ((), { host with locks := Function.update host.locks name none })
  | .now, choice, host => some (choice.time, host)
  | .randomToken, choice, host =>
    some (if choice.outcome.reports then some choice.token else none, host)
  | .readInvite inviteID, choice, host =>
    some (if choice.outcome.reports then
        match host.invites.get inviteID with
        | some record => .found record
        | none => .missing
      else .failed, host)
  | .writeInvite record, choice, host =>
    some (choice.outcome.reports,
      if choice.outcome.applies then { host with invites := host.invites.put record } else host)
  | .listInvites, choice, host =>
    some (if choice.outcome.reports then some host.invites.names else none, host)
  | .readClient clientID, choice, host =>
    some (if choice.outcome.reports then
        match host.clients.get clientID with
        | some record => .found record
        | none => .missing
      else .failed, host)
  | .storeClient record, choice, host =>
    match host.clients.get record.clientID with
    | some _ => some (if choice.outcome.reports then .exists else .failed, host)
    | none =>
      some (if choice.outcome.reports then .stored else .failed,
        if choice.outcome.applies then { host with clients := host.clients.put record }
        else host)
  | .writeClient record, choice, host =>
    some (choice.outcome.reports,
      if choice.outcome.applies then { host with clients := host.clients.put record } else host)
  | .listClients, choice, host =>
    some (if choice.outcome.reports then some host.clients.names else none, host)
  | .install _ _, _, host => some ((), host)
  | .appendKey line, choice, host => editKeys pid (appendAuthorizedKey line) choice host
  | .replaceKey oldPublicKey line, choice, host =>
    editKeys pid (replaceAuthorizedKeyForPublicKey oldPublicKey line) choice host
  | .removeKey publicKey, choice, host =>
    editKeys pid (removeAuthorizedKeyForPublicKey publicKey) choice host
  | .writeKeys lines, choice, host => editKeys pid (fun _ => lines) choice host
  | .readKeys, choice, host =>
    some (if choice.outcome.reports then some host.authorizedKeys else none, host)
  | .terminate clientID generation publicKeySHA256, choice, host =>
    if choice.outcome.reports then
      some (terminateSessions (matchGrantSessions clientID generation publicKeySHA256)
        choice.failing host)
    else some (.error (.plain "grant authority unavailable"), host)
  | .verifyGone clientID generation publicKeySHA256, choice, host =>
    if choice.outcome.reports then
      let result := verifySessionsGone (matchGrantSessions clientID generation publicKeySHA256)
        choice.failing host.sessions
      some (result.1, { host with sessions := result.2 })
    else some (.error (.plain "grant authority unavailable"), host)
  | .terminateAll, choice, host =>
    if choice.outcome.reports then
      some (terminateSessions (fun _ => true) choice.failing host)
    else some (.error (.plain "grant authority unavailable"), host)
  | .readObservation, choice, host =>
    some (if choice.outcome.reports then
        match host.observed with
        | some observed => .found observed
        | none => .missing
      else .failed, host)
  | .writeObservation observed, choice, host =>
    some (choice.outcome.reports,
      if choice.outcome.applies then { host with observed := some observed } else host)
  | .readBlocked, choice, host => some (!choice.outcome.reports || host.blocked, host)
  | .writeBlocked, choice, host =>
    some (choice.outcome.reports,
      if choice.outcome.applies then { host with blocked := true } else host)
  | .clearBlocked, choice, host =>
    some (choice.outcome.reports,
      if choice.outcome.applies then { host with blocked := false } else host)
  | .verifySignature, choice, host => some (choice.outcome.reports, host)
  | .authenticate connectionID keyDigest, _, host =>
    some ((), { host with connections := host.connections ++
      [{ id := connectionID, keyDigest, tracked := false, answered := false, isOpen := true }] })
  | .register connectionID keyDigest, choice, host =>
    some (registerSession env connectionID keyDigest choice host)
  | .track connectionID, _, host =>
    some ((), changeConnection connectionID ({ · with tracked := true }) host)
  | .answer connectionID, choice, host =>
    if choice.outcome.reports &&
        host.connections.any (fun connection => connection.id = connectionID && connection.isOpen)
    then some (true, changeConnection connectionID ({ · with answered := true }) host)
    else some (false, host)
  | .disconnect connectionID, _, host =>
    some ((), changeConnection connectionID
      ({ · with tracked := false, isOpen := false }) host)
  | .unregister connectionID, choice, host =>
    some ((), if choice.outcome.applies then
        { host with
          sessions := host.sessions.filter fun session => session.connectionID ≠ connectionID }
      else host)

/-- What ends with a process: the locks it holds. -/
def releaseLocks (pid : ℕ) (host : Host) : Host :=
  { host with locks := fun name => if host.locks name = some pid then none else host.locks name }

end WarpTweet
