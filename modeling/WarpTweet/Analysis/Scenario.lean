import WarpTweet.Model.Rotation

/-!
# A small host

One concrete host with one issued invite, on which schedules are run: the runs that
refute a property, and the runs that show that the conditions of a theorem can be met.
Digests are sixty-four copies of one hexadecimal digit, chosen so that the keys below
have different ones; every blob is valid and decodes to itself.
-/

namespace WarpTweet.Scenario

open Strings Concurrency Storage

def loopback : Text := ['1', '2', '7', '.', '0', '.', '0', '.', '1']

/-- The address of the data and enrollment listeners. -/
def hostAddress : Text := ['1', '9', '2', '.', '0', '.', '2', '.', '1']

/-- The two addresses that are spelled out, and no others. -/
def net : NetIP where
  parseAddr text :=
    if text = loopback then some (.v4 0x7f000001)
    else if text = hostAddress then some (.v4 0xc0000201)
    else none
  format
    | .v4 bits => if bits = 0x7f000001 then loopback else hostAddress
    | .v6 _ _ => []

def hexDigit (n : Nat) : Char := Char.ofNat (if n < 10 then 48 + n else 87 + n)

/-- A digest that tells apart texts whose characters add up differently. -/
def sha256 (text : Text) : Text :=
  List.replicate 64 (hexDigit ((text.map Char.toNat).sum % 16))

def env : Env where
  net
  sha256
  decodeBase64 := some
  validatePublicKeyBlob _ := none

def published : PublishedEndpointSet where
  generation := 1
  data := { host := ⟨some (.v4 0xc0000201), []⟩, port := 22 }
  enrollment := { host := ⟨some (.v4 0xc0000201), []⟩, port := 443 }

/-- The host, which forwards to port 80 of the loopback interface. -/
def site : Site where
  env
  manifest :=
    { dedicatedUser := ['w']
      targetAddress := .v4 0x7f000001
      targetPort := 80
      published }
  hostPublicKey := ['h']

/-- The time of the schedules, 2023-11-14T22:13:20Z. -/
def now : Time := 1700000000 * Time.second

/-- The id of the only invite. -/
def inviteID : Text := ['a', 'a']

/-- An invite that was just issued and expires after an hour. -/
def invite : Record where
  kind := .invite
  schemaVersion := 3
  inviteID
  clientName := ['c']
  data := ⟨hostAddress, 22⟩
  enrollment := ⟨hostAddress, 443, List.replicate 64 '0'⟩
  publishedEndpointGeneration := 1
  targetAddress := loopback
  targetPort := 80
  principal := ['w']
  profileID := .current
  artifactProfileID := []
  hostPublicKey := ['h']
  issuedAt := .at now
  expiresAt := .at (now + 3600 * Time.second)
  authorizationDurationSeconds := 7200
  nonce := ['b', 'b']
  status := .issued

/-- The public key with the one-character blob `c`. -/
def key (c : Char) : Text := authenticationKeyType ++ [' ', c]

/-- The management capability with one hexadecimal digit at its end. -/
def token (digit : Char) : Text := List.replicate 63 '0' ++ [digit]

/-- The enrollment request for the key with blob `c`. -/
def request (c : Char) : EnrollmentRequest where
  inviteID
  nonce := ['b', 'b']
  clientName := ['c']
  publicKey := key c
  profileID := .current
  tunnelID := ['t']
  listenAddress := loopback
  listenPort := 8080
  managementToken := token '1'

/-- The call that accepts the key with blob `c`. -/
def accept (c : Char) : Call :=
  .accept (acceptInput env site.manifest site.hostPublicKey (request c) now)

/-- The client of the key with blob `c`. -/
def clientID (c : Char) : Text := clientIDFor env inviteID (key c)

/-- The management request of the client of key `c`, to rotate to the key `d`. -/
def management (c d : Char) : ManagementRequest where
  clientID := clientID c
  managementToken := token '1'
  tunnelID := ['t']
  newPublicKey := key d
  nextManagementToken := token '2'

/-- A time when grants accepted at `now` have ended. -/
def later : Time := now + 7201 * Time.second

/-- The host with the issued invite and nothing else. -/
def host : Host where
  invites := Directory.empty.put invite
  clients := .empty
  authorizedKeys := []
  sessions := []
  connections := []
  observed := none
  blocked := false
  locks _ := none

def secondInviteID : Text := ['b', 'b']

def twoInvites : Host :=
  { host with invites := host.invites.put { invite with inviteID := secondInviteID } }

/-- The call that accepts the key with blob `c` for the second invite. -/
def acceptSecond (c : Char) : Call :=
  .accept (acceptInput env site.manifest site.hostPublicKey
    { request c with inviteID := secondInviteID } now)

/-- The client of the key with blob `c` that was enrolled with the second invite. -/
def secondClientID (c : Char) : Text := clientIDFor env secondInviteID (key c)

/-- `n` actions of process `pid` at the given time, all of which succeed. -/
def stepsAt (time : Time) (pid n : ℕ) : List (Move Call Choice) :=
  List.replicate n (.advance pid { time })

/-- `n` actions of process `pid`, all of which succeed. -/
def steps (pid n : ℕ) : List (Move Call Choice) := stepsAt now pid n

def after (moves : List (Move Call Choice)) : Host :=
  match runMoves (hostMachine site) (fun _ _ => True) moves (Config.idle host) with
  | some c => c.state
  | none => host

/-- The moves that accept the key with blob `c` from beginning to end. -/
def accepting (c : Char) : List (Move Call Choice) :=
  [.start 0 (accept c)] ++ steps 0 12 ++ [.stop 0]

/-- The moves of process `pid` that log in with the key with blob `c`. -/
def loggingIn (pid : ℕ) (c : Char) : List (Move Call Choice) :=
  [.start pid (.login [c] [c])] ++ steps pid 6

/-- The moves of a tick whose reading of the clock is refused: the file is emptied and the
clock blocked. -/
def blocking : List (Move Call Choice) :=
  [.start 0 (.reconcileTick 0)] ++ steps 0 3 ++ [.stop 0]

/-- One second before grants accepted at `now` end. -/
def lastSecond : Time := now + 7199 * Time.second

/-! ## The client's side -/

/-- The client of the key with blob `c`, enrolled and running its first generation. -/
def client (c : Char) : Client where
  receipt := some
    { clientID := clientID c
      acceptedAt := .at now
      generation := ['0']
      managementToken := token '1'
      publicKey := key c
      enrollmentTLSSPKISHA256 := ['p'] }
  pending := none
  stagedKey := none
  generations generation := if generation = ['0'] then some (key c) else none
  active := ['0']
  tunnel := some { listenPort := some 8080, generation := ['0'] }
  locked := none
  sent := []

/-- `n` actions of process `pid` of the client, all of which succeed. -/
def clientSteps (pid n : ℕ) : List SidesMove :=
  List.replicate n (.right (.advance pid {}))

/-- The moves of process `pid` of the client that begin a rotation to the key with blob `d`
and send the request. -/
def requesting (pid : ℕ) (d : Char) : List SidesMove :=
  [.right (.start pid .rotate)] ++ clientSteps pid 5 ++
    [.right (.advance pid { text := key d })] ++ clientSteps pid 1 ++
    [.right (.advance pid { text := token '2' }), .right (.advance pid { text := ['1'] })] ++
    clientSteps pid 3

/-- The moves of process `pid` of the host that serve the request of the client of key `c`
to rotate to the key with blob `d`. -/
def serving (pid : ℕ) (c d : Char) : List SidesMove :=
  .left (.start pid (.rotate (management c d) now)) :: (steps pid 7).map .left

end WarpTweet.Scenario
