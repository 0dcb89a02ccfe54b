import WarpTweet.Concurrency.Link
import WarpTweet.Model.Server

/-!
# Key rotation: the client's command

`warptweet rotate` on the client: the enrollment receipt, the pending journal with the
staged identity, the generations of the route store and its active one, and the command
that takes them from one key to the next. The host's side is the handler of `/v1/rotate`.

Copies of data that the command writes and nothing here reads are left out: the receipt
in the route store, whose errors are only logged, and the copy of the active generation
under the installation's own paths, of which only the failure matters. The installed
provisioner runs the same command.
-/

namespace WarpTweet

open Strings Concurrency

/-! ## Durable state -/

/-- The fields of `enrollmentReceipt` that the command reads or writes. -/
structure Receipt where
  clientID : Text
  acceptedAt : Stamp
  generation : Text
  managementToken : Text
  publicKey : Text
  enrollmentTLSSPKISHA256 : Text
  deriving DecidableEq, Repr

/-- `pendingRotation`: the journal `rotation.json`. -/
structure PendingRotation where
  clientID : Text
  tunnelID : Text
  generation : Text
  publicKey : Text
  currentManagementToken : Text
  nextManagementToken : Text
  deriving DecidableEq, Repr

/-- The fields of `lifecycle.State` that the command uses. A state without a listen
endpoint has no management channel. -/
structure TunnelState where
  listenPort : Option Nat
  generation : Text
  deriving DecidableEq, Repr

/-- The fields of the proof of `/v1/rotate` that the client looks at. -/
structure RotateProof where
  clientID : Text
  publicKey : Text
  acceptedAt : Stamp
  deriving DecidableEq, Repr

/-- The client's side of one tunnel: the receipt, the journal and the staged public key in
the directory `pending-rotation`, the public keys of the generations, the active
generation, the lifecycle state, the admin lock, and the requests it has sent. -/
structure Client where
  receipt : Option Receipt
  pending : Option PendingRotation
  stagedKey : Option Text
  generations : Text → Option Text
  active : Text
  tunnel : Option TunnelState
  locked : Option ℕ
  sent : List ManagementRequest

/-- The key that the tunnel logs in with: the one of the active generation. -/
def Client.activeKey (client : Client) : Option Text := client.generations client.active

/-! ## Actions -/

/-- What the environment decides for one action of the client: the outcome, generated
text, the number of the host process whose answer arrives with the proof, a yes or no, and
what a failed removal of the stage leaves. -/
structure ClientChoice where
  outcome : Outcome := .ok
  text : Text := []
  answer : Option (ℕ × RotateProof) := none
  yes : Bool := false
  keepsJournal : Bool := true
  keepsKey : Bool := true
  deriving DecidableEq, Repr

inductive ClientAction where
  | adminLock
  | adminUnlock
  | readReceipt
  | writeReceipt (receipt : Receipt)
  | readPending
  | writePending (pending : PendingRotation)
  | readStagedKey
  | makeStage
  | removeStage
  | keygen
  | randomToken
  | now
  | readState
  | writeState (state : TunnelState)
  | send (request : ManagementRequest)
  | receive (request : ManagementRequest)
  | cancelled
  | stagePolicy
  | writeGeneration (generation : Text)
  | activate (generation : Text)
  | copyActive
  | tunnelRunning
  | projectTunnel (up : Bool)
  | stopTunnel

@[reducible]
def ClientAction.Reply : ClientAction → Type
  | adminLock => LockReply
  | readReceipt => Read Receipt
  | readPending => Read PendingRotation
  | readStagedKey | randomToken => Option Text
  | now => Text
  | readState => Read TunnelState
  | receive _ => Option RotateProof
  | adminUnlock | send _ => Unit
  | writeReceipt _ | writePending _ | makeStage | removeStage | keygen => Bool
  | writeState _ | cancelled | stagePolicy | writeGeneration _ | activate _ | copyActive => Bool
  | tunnelRunning | projectTunnel _ | stopTunnel => Bool

abbrev ClientProg (α : Type) := Prog ClientAction ClientAction.Reply Err α

def readFile {α : Type} (choice : ClientChoice) (file : Option α) : Read α :=
  if choice.outcome.reports then
    match file with
    | some value => .found value
    | none => .missing
  else .failed

def replaceFile (choice : ClientChoice) (client written : Client) : Option (Bool × Client) :=
  some (choice.outcome.reports, if choice.outcome.applies then written else client)

/-- What an action of process `pid` does. -/
def performClient (pid : ℕ) :
    (action : ClientAction) → ClientChoice → Client → Option (action.Reply × Client)
  | .adminLock, choice, client =>
    if choice.outcome.reports then
      match client.locked with
      | none => some (.acquired, { client with locked := some pid })
      | some _ => some (.busy, client)
    else some (.failed, client)
  | .adminUnlock, _, client => some ((), { client with locked := none })
  | .readReceipt, choice, client => some (readFile choice client.receipt, client)
  | .writeReceipt receipt, choice, client =>
    replaceFile choice client { client with receipt := some receipt }
  | .readPending, choice, client => some (readFile choice client.pending, client)
  | .writePending pending, choice, client =>
    replaceFile choice client { client with pending := some pending }
  | .readStagedKey, choice, client =>
    some (if choice.outcome.reports then client.stagedKey else none, client)
  | .removeStage, choice, client =>
    -- `os.RemoveAll`: when it fails, any of the files may be gone.
    if choice.outcome.reports then
      some (true, { client with pending := none, stagedKey := none })
    else
      some (false,
        { client with
          pending := if choice.keepsJournal then client.pending else none
          stagedKey := if choice.keepsKey then client.stagedKey else none })
  | .keygen, choice, client => replaceFile choice client { client with stagedKey := some choice.text }
  | .randomToken, choice, client =>
    some (if choice.outcome.reports then some choice.text else none, client)
  | .now, choice, client => some (choice.text, client)
  | .readState, choice, client => some (readFile choice client.tunnel, client)
  | .writeState state, choice, client =>
    replaceFile choice client { client with tunnel := some state }
  | .send request, _, client => some ((), { client with sent := request :: client.sent })
  | .receive _, choice, client => some (choice.answer.map Prod.snd, client)
  | .writeGeneration generation, choice, client =>
    match client.stagedKey with
    | some key => replaceFile choice client
        { client with generations := Function.update client.generations generation (some key) }
    | none => some (false, client)
  | .activate generation, choice, client =>
    match client.generations generation with
    | some _ => replaceFile choice client { client with active := generation }
    | none => some (false, client)
  | .cancelled, choice, client | .tunnelRunning, choice, client => some (choice.yes, client)
  | .makeStage, choice, client | .stagePolicy, choice, client | .copyActive, choice, client
  | .projectTunnel _, choice, client | .stopTunnel, choice, client =>
    some (choice.outcome.reports, client)

/-- What ends with a process: the admin lock, if it holds it. -/
def releaseAdmin (pid : ℕ) (client : Client) : Client :=
  { client with locked := if client.locked = some pid then none else client.locked }

/-! ## The command -/

namespace ClientProg

def act (action : ClientAction) : ClientProg action.Reply := Prog.perform action

/-- A check of the form `if bad { return err }`. -/
def reject (bad : Bool) (err : Err) : ClientProg Unit := .ofExcept (refuseIf bad err)

/-- A step that has returned `ok`. -/
def must (ok : Bool) (what : String) : ClientProg Unit := reject (!ok) (.plain what)

end ClientProg

open ClientProg

def loadEnrollmentReceipt : ClientProg Receipt := do
  match ← act .readReceipt with
  | .found receipt => pure receipt
  | .missing | .failed => throw (.plain "load enrollment receipt")

def verifyPendingIdentityPublicKey (wantPublicKey : Text) : ClientProg Unit := do
  match ← act .readStagedKey with
  | some publicKey =>
    reject (trimSpace publicKey ≠ wantPublicKey) (.plain "pending rotation public key changed")
  | none => throw (.plain "read pending identity")

/-- `createPendingClientIdentity`: a new stage with a new identity. -/
def createPendingClientIdentity : ClientProg Text := do
  must (← act .removeStage) "remove stage"
  must (← act .makeStage) "make stage"
  must (← act .keygen) "generate rotated client key"
  match ← act .readStagedKey with
  | some publicKey => do
      reject ((trimSpace publicKey).isEmpty || containsAny (trimSpace publicKey) ['\r', '\n'])
        (.plain "client public key must be one line")
      pure (trimSpace publicKey)
  | none => throw (.plain "read pending identity")

/-- The check of `loadOrCreatePendingRotation` on a journal that was found. -/
def matchesReceipt (receipt : Receipt) (tunnelID : Text) (pending : PendingRotation) : Bool :=
  pending.clientID = receipt.clientID && pending.tunnelID = tunnelID &&
    (pending.currentManagementToken = receipt.managementToken ||
      pending.nextManagementToken = receipt.managementToken) &&
    isManagementToken pending.currentManagementToken &&
    isManagementToken pending.nextManagementToken

/-- `loadOrCreatePendingRotation`: go on with the journal of an earlier attempt, or begin
a new rotation and journal it before anything is sent. -/
def loadOrCreatePendingRotation (receipt : Receipt) (tunnelID : Text) :
    ClientProg PendingRotation := do
  match ← act .readPending with
  | .found pending => do
      reject (!matchesReceipt receipt tunnelID pending)
        (.plain "pending rotation does not match the enrollment receipt")
      verifyPendingIdentityPublicKey pending.publicKey
      pure pending
  | .failed => throw (.plain "parse pending rotation")
  | .missing => do
      let publicKey ← createPendingClientIdentity
      match ← act .randomToken with
      | none => throw (.plain "generate management token")
      | some nextToken => do
          let generation ← act .now
          let pending : PendingRotation :=
            { clientID := receipt.clientID
              tunnelID
              generation
              publicKey
              currentManagementToken := receipt.managementToken
              nextManagementToken := nextToken }
          must (← act (.writePending pending)) "write pending rotation"
          pure pending

/-- `managementLocalPort`: a tunnel that has no listen endpoint has no management
channel, and a state that was never written is the one of a stopped tunnel. -/
def managementLocalPort : ClientProg Nat := do
  match ← act .readState with
  | .found ⟨some port, _⟩ => do
      reject (port = 0 || port = 65535) (.plain "listen port cannot host a management forward")
      pure (port + 1)
  | .found ⟨none, _⟩ | .missing =>
    throw (.plain "no listen endpoint; start the tunnel before rotate or revoke")
  | .failed => throw (.plain "read tunnel state")

def rotateRequest (receipt : Receipt) (tunnelID : Text) (pending : PendingRotation) :
    ManagementRequest :=
  { clientID := receipt.clientID
    managementToken := pending.currentManagementToken
    tunnelID
    newPublicKey := pending.publicKey
    nextManagementToken := pending.nextManagementToken }

/-- `SubmitRotate`: the answer may be lost, and a proof for another key is refused. -/
def submitRotate (request : ManagementRequest) : ClientProg RotateProof := do
  act (.send request)
  match ← act (.receive request) with
  | none => throw (.plain "post rotate")
  | some proof => do
      reject (proof.clientID.isEmpty || proof.publicKey.isEmpty ||
          proof.publicKey ≠ trimSpace request.newPublicKey)
        (.invalidInvite "rotate proof incomplete")
      pure proof

/-- The two attempts of `runRotate` to submit the request. -/
def submitRotateTwice (request : ManagementRequest) : ClientProg RotateProof := do
  match ← (submitRotate request).attempt with
  | .ok proof => pure proof
  | .error first => do
      let cancelled ← act .cancelled
      if cancelled then throw (.wrap "host rotate" first)
      else (submitRotate request).mapError (.wrap "host rotate")

def persistActivatedGeneration (generation : Text) : ClientProg Unit := do
  must (← act (.writeGeneration generation)) "copy generation"
  must (← act (.activate generation)) "activate generation"

/-- The receipt of a rotation that the host has accepted. -/
def rotatedReceipt (receipt : Receipt) (pending : PendingRotation) (proof : RotateProof) :
    Receipt :=
  { receipt with
    managementToken := pending.nextManagementToken
    publicKey := pending.publicKey
    acceptedAt := proof.acceptedAt }

/-- What the command does with the acceptance of the host: record it, activate the new
generation, and remove the journal. -/
def adoptRotation (receipt : Receipt) (pending : PendingRotation) (proof : RotateProof) :
    ClientProg Unit := do
  let receipt := rotatedReceipt receipt pending proof
  must (← act (.writeReceipt receipt)) "write enrollment receipt"
  must (← act .stagePolicy) "stage active generation policy"
  persistActivatedGeneration pending.generation
  must (← act .copyActive) "activate generation"
  must (← act (.writeReceipt { receipt with generation := pending.generation }))
    "write enrollment receipt"
  must (← act .removeStage) "remove completed pending rotation"

/-- `persistCleanupRequired`: the state that asks for a cleanup has no listen endpoint. -/
def persistCleanupRequired {α : Type} (generation : Text) (err : Err) : ClientProg α := do
  let _ ← act (.writeState { listenPort := none, generation })
  throw (.plain ("host rotate completed; tunnel cleanup still required: " ++ err.text))

/-- A part of the command whose failure asks for a cleanup. -/
def orCleanup {α : Type} (generation : Text) (program : ClientProg α) : ClientProg α := do
  match ← program.attempt with
  | .ok value => pure value
  | .error err => persistCleanupRequired generation err

/-- The stop of the tunnel at the end of the command. -/
def stopRotated (generation : Text) : ClientProg Unit := do
  orCleanup generation do
    must (← act .stopTunnel) "stop tunnel"
  let _ ← act (.writeState { listenPort := none, generation })
  pure ()

/-- The end of the command: restart a running tunnel, or stop it. -/
def restartRotated (generation : Text) : ClientProg Unit := do
  let state ← act .readState
  let running ← act .tunnelRunning
  match running, state with
  | true, .found state => do
      orCleanup generation do
        must (← act (.writeState { state with generation })) "write tunnel state"
      let down ← act (.projectTunnel false)
      if down then
        let up ← act (.projectTunnel true)
        if up then pure () else stopRotated generation
      else stopRotated generation
  | _, _ => stopRotated generation

/-- `runRotate`, under the admin lock. -/
def runRotateLocked (tunnelID : Text) : ClientProg Unit := do
  let receipt ← loadEnrollmentReceipt
  reject (receipt.managementToken.isEmpty || receipt.clientID.isEmpty)
    (.plain "enrollment receipt missing management token; re-enroll before rotate")
  let pending ← loadOrCreatePendingRotation receipt tunnelID
  reject receipt.enrollmentTLSSPKISHA256.isEmpty
    (.plain "enrollment receipt missing TLS SPKI pin; re-enroll before rotate")
  let _ ← managementLocalPort
  let proof ← submitRotateTwice (rotateRequest receipt tunnelID pending)
  orCleanup pending.generation (adoptRotation receipt pending proof)
  restartRotated pending.generation

/-- `runRotate`: the admin lock is not waited for. -/
def runRotate (tunnelID : Text) : ClientProg Unit :=
  .bracket
    (do
      match ← act .adminLock with
      | .acquired => pure ()
      | .busy => throw (.plain "tunnel admin is busy")
      | .failed => throw (.plain "lock tunnel"))
    (act .adminUnlock)
    (runRotateLocked tunnelID)

/-! ## The two sides -/

inductive ClientCall where
  | rotate
  deriving DecidableEq, Repr

def clientMachine (tunnelID : Text) :
    Machine Client ClientCall ClientAction ClientChoice ClientAction.Reply Err where
  program := fun _ => runRotate tunnelID
  perform := performClient
  release := releaseAdmin

abbrev ClientPool :=
  Config Client ClientCall ClientAction ClientChoice ClientAction.Reply Err

abbrev Sides :=
  Link Host Call Action Choice Action.Reply Err
    Client ClientCall ClientAction ClientChoice ClientAction.Reply Err

abbrev SidesMove := LinkMove Call Choice ClientCall ClientChoice

/-- Process `pid` of the host has accepted the request, and answers with the proof. -/
def Answers (host : Pool) (request : ManagementRequest) (pid : ℕ) (proof : RotateProof) : Prop :=
  ∃ process ∈ host.procs pid, process.Succeeded ∧ proof.clientID = request.clientID ∧
    proof.publicKey = trimSpace request.newPublicKey ∧
    match process.call with
    | .rotate other _ => other = request
    | _ => False

instance (host : Pool) (request : ManagementRequest) (pid : ℕ) (proof : RotateProof) :
    Decidable (Answers host request pid proof) := by
  unfold Answers
  have hcall : ∀ call : Call, Decidable (match call with
      | .rotate other _ => other = request
      | _ => False) := by
    intro call
    split <;> infer_instance
  infer_instance

/-- How the sides meet. The handler of the host is started for a request that was sent, any
number of times and at any later time, and the client receives an answer only from a
handler that has accepted the request. Requests and answers may be lost. -/
def Meets (l : Sides) : SidesMove → Prop
  | .left (.start _ call) =>
    match call with
    | .rotate request _ => request ∈ l.right.state.sent
    | _ => False
  | .right (.advance pid choice) =>
    ∀ next ∈ l.right.upcoming pid,
      match next.2 with
      | .receive request => ∀ answer ∈ choice.answer, Answers l.left request answer.1 answer.2
      | _ => True
  | _ => True

instance (l : Sides) (move : SidesMove) : Decidable (Meets l move) := by
  unfold Meets
  repeat' split
  all_goals first | infer_instance | skip
  have h : ∀ (action : ClientAction) (choice : ClientChoice), Decidable (match action with
      | .receive request => ∀ answer ∈ choice.answer, Answers l.left request answer.1 answer.2
      | _ => True) := by
    intro action choice
    split <;> infer_instance
  infer_instance

end WarpTweet
