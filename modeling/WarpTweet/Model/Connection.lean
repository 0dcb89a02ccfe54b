import WarpTweet.Concurrency.Pool
import WarpTweet.Model.Keys
import WarpTweet.Model.Packet

/-!
# The state of a data-plane connection

One SSH connection of the data plane (`conn.go`, `session.go`): the fields of
`connection`, the channels, the session table and the session records it creates, and the
atomic actions of its goroutines. A section under the mutex of the connection is one
action. What the reader loop does outside the mutex is also cut into actions, so that the
channel forwarders can run between them.

A write hands one packet to the socket. It may fail after any number of its bytes has been
sent, and later writes may still succeed; every packet that was handed over stays in the
log `wire`. The input is the byte stream of the client. Cryptography is a parameter.
-/

namespace WarpTweet

open Strings Concurrency Wire

/-! ## Messages -/

/-- The message numbers of SSH. -/
def sshMsgDisconnect : UInt8 := 1
def sshMsgIgnore : UInt8 := 2
def sshMsgUnimplemented : UInt8 := 3
def sshMsgDebug : UInt8 := 4
def sshMsgServiceRequest : UInt8 := 5
def sshMsgServiceAccept : UInt8 := 6
def sshMsgExtInfo : UInt8 := 7
def sshMsgKexInit : UInt8 := 20
def sshMsgNewKeys : UInt8 := 21
def sshMsgKexECDHInit : UInt8 := 30
def sshMsgKexECDHReply : UInt8 := 31
def sshMsgUserauthRequest : UInt8 := 50
def sshMsgUserauthFailure : UInt8 := 51
def sshMsgUserauthSuccess : UInt8 := 52
def sshMsgUserauthPKOK : UInt8 := 60
def sshMsgGlobalRequest : UInt8 := 80
def sshMsgRequestSuccess : UInt8 := 81
def sshMsgRequestFailure : UInt8 := 82
def sshMsgChannelOpen : UInt8 := 90
def sshMsgChannelOpenConfirm : UInt8 := 91
def sshMsgChannelOpenFailure : UInt8 := 92
def sshMsgChannelWindowAdjust : UInt8 := 93
def sshMsgChannelData : UInt8 := 94
def sshMsgChannelEOF : UInt8 := 96
def sshMsgChannelClose : UInt8 := 97
def sshMsgChannelRequest : UInt8 := 98
def sshMsgChannelFailure : UInt8 := 100

def maxSSHSeq : Nat := 2 ^ 32 - 1

def compositeAlgorithm : Bytes := ascii "ssh-mldsa44-ed25519@openssh.com"

def hostKeyBlob (rawPub : Bytes) : Bytes := withLength compositeAlgorithm ++ withLength rawPub

def signatureBlob (rawSig : Bytes) : Bytes := withLength compositeAlgorithm ++ withLength rawSig

/-! ## What the code takes from outside -/

/-- Cryptography, base64 and `net/netip`: the cipher, SHA-256 and its length, the hybrid encapsulation for a
client share (with its randomness) into a server share and a secret, the derived keys of the
two directions, the verification of a composite signature, and the quoted text and the
address text of error messages. -/
structure Suite where
  cipher : Cipher
  sha256 : Bytes → Bytes
  length_sha256 : ∀ data, (sha256 data).length = 32
  encapsulate : Bytes → Bytes → Option (Bytes × Bytes)
  deriveKeys : Bytes → Bytes → Bytes → Bytes × Bytes
  verify : Bytes → Bytes → Bytes → Bool
  decodeBase64 : Text → Option Bytes
  parseAddr : Bytes → Option Addr
  quote : Bytes → Bytes
  formatAddrPort : Addr × Nat → Bytes

/-- `Policy`, with the defaults filled in. -/
structure Policy where
  keyExchangeAlgorithm : Bytes
  authenticationKeyType : Bytes
  cipherName : Bytes
  target : Addr × Nat
  management : Addr × Nat
  grant : Bool
  rekeyAfter : Nat
  maxChannels : Nat

/-- What one connection is served with: cryptography, the policy and the host key. -/
structure Plane where
  suite : Suite
  policy : Policy
  hostPublic : Bytes

/-! ## State -/

inductive KexPhase where
  | awaitInit
  | awaitECDH
  | awaitNewKeys
  | ready
  deriving DecidableEq, Repr

/-- `sshChannel`. A channel is reached by its local number while it is in the table of the
connection; a forwarder keeps the channel itself, which `serial` names. -/
structure Channel where
  serial : ℕ
  localID : Nat
  remoteID : Nat
  window : Nat
  maxPkt : Nat
  recvWindow : Nat
  maxRecv : Nat
  consumed : Nat
  closed : Bool
  inTable : Bool
  deriving DecidableEq, Repr

/-- A packet that was handed to the socket: the key it is sealed with, if any, its sequence
number and payload, how many of its bytes were sent, and whether the write succeeded. -/
structure Frame where
  key : Option ChachaDirection
  seq : Nat
  payload : Bytes
  sent : Nat
  ok : Bool
  deriving DecidableEq, Repr

/-- The fields of `connection`, the socket, and what the connection has left in the session
table and in the session records. `wire` and `loggedIn` only grow: the packets handed to the
socket and the digests of the keys whose login was answered with success, newest first. -/
structure Conn where
  input : Bytes
  socketOpen : Bool := true
  wire : List Frame := []
  clearIn : Bool := true
  clearOut : Bool := true
  inKey : Option ChachaDirection := none
  outKey : Option ChachaDirection := none
  pendingIn : Option ChachaDirection := none
  phase : KexPhase := .awaitInit
  inSeq : Nat := 0
  outSeq : Nat := 0
  bytesOut : Nat := 0
  clientKex : Option Bytes := none
  serverKex : Bytes := []
  sessionID : Bytes := []
  strictKEX : Bool := false
  initialKEX : Bool := true
  authed : Bool := false
  channels : List Channel := []
  nextLocal : Nat := 0
  connectionID : Bytes := []
  keyDigest : Bytes := []
  table : List Bytes := []
  records : List Bytes := []
  loggedIn : List Bytes := []
  spawned : List ℕ := []
  ended : Bool := false

def Conn.channel (conn : Conn) (localID : Nat) : Option Channel :=
  conn.channels.find? fun channel => channel.inTable && channel.localID == localID

def Conn.channelOf (conn : Conn) (serial : ℕ) : Option Channel :=
  conn.channels.find? fun channel => channel.serial == serial

def Conn.changeChannel (conn : Conn) (serial : ℕ) (change : Channel → Channel) : Conn :=
  { conn with
    channels := conn.channels.map fun channel =>
      if channel.serial = serial then change channel else channel }

def Conn.channelCount (conn : Conn) : Nat := conn.channels.countP Channel.inTable

/-! ## Actions -/

/-- What the environment decides for one action: whether it succeeds, how many bytes a failed
write has sent, bytes that are random, signed or read, the contents of the authorization
file, and a yes or no: whether a backend read ends the stream, or whether a failed
registration has left its record. -/
structure ConnChoice where
  ok : Bool := true
  sent : Nat := 0
  bytes : Bytes := []
  text : Text := []
  flag : Bool := false
  deriving DecidableEq, Repr

/-- The result of the section of `write`. -/
inductive SendReply where
  | failed
  | sent (needRekey : Bool)
  deriving DecidableEq, Repr

/-- The result of the section of `handleChannelData` that takes the data in. -/
inductive ReceiveReply where
  | unknown
  | exceeds
  | accepted (serial : ℕ)
  deriving DecidableEq, Repr

/-- The result of the section of `handleWindowAdjust`. -/
inductive AdjustReply where
  | unknown
  | overflow
  | adjusted
  deriving DecidableEq, Repr

inductive ConnAction where
  | sendIdentification
  | readIdentification
  | cookie
  | setServerKex (serverKex : Bytes)
  | send (payload : Bytes)
  | startRekey (serverKex : Bytes)
  | readPacket
  | readPhase
  | readInitialKEX
  | readClearIn
  | readAuthed
  | readSessionID
  | replyKexInit (payload serverKex : Bytes)
  | acceptKexInit (payload : Bytes)
  | newKeys
  | beginKEX
  | encapsulate (clientPub : Bytes)
  | hostPublic
  | fixSessionID (hash : Bytes)
  | sign (hash : Bytes)
  | switchKeys (out inward : ChachaDirection)
  | readAuthorizedKeys
  | setAuthed (keyDigest : Bytes)
  | newConnectionID
  | register (keyDigest connectionID : Bytes)
  | track
  | channelQuota
  | dial (destination : Addr × Nat)
  | openChannel (sender window maxPkt : Nat)
  | spawn (serial : ℕ)
  | readBackend (serial : ℕ)
  | takeWindow (serial : ℕ) (length : Nat)
  | receiveData (localID size : Nat)
  | writeBackend (serial : ℕ) (data : Bytes)
  | isClosed (serial : ℕ)
  | returnWindow (serial : ℕ) (n : Nat)
  | adjustWindow (localID add : Nat)
  | lookup (localID : Nat)
  | closeWrite (localID : Nat)
  | closeChannel (localID : Nat)
  | teardownChannels
  | untrack
  | unregister
  | closeSocket
  | dropKey (keyDigest : Bytes)

@[reducible]
def ConnAction.Reply : ConnAction → Type
  | sendIdentification | startRekey _ | readInitialKEX | readClearIn | readAuthed => Bool
  | newKeys | register _ _ | channelQuota | isClosed _ => Bool
  | readIdentification | cookie | readPacket | hostPublic | sign _ | newConnectionID => Option Bytes
  | dial _ => Option Bytes
  | send _ => SendReply
  | readPhase => KexPhase
  | readSessionID | fixSessionID _ => Bytes
  | beginKEX | encapsulate _ => Option (Bytes × Bytes)
  | readAuthorizedKeys => Option Text
  | openChannel _ _ _ => Option (ℕ × Nat)
  | readBackend _ => Bytes × Bool
  | takeWindow _ _ | writeBackend _ _ | lookup _ | closeChannel _ => Option Nat
  | receiveData _ _ => ReceiveReply
  | returnWindow _ _ => Option (Nat × Nat)
  | adjustWindow _ _ => AdjustReply
  | setServerKex _ | replyKexInit _ _ | acceptKexInit _ | switchKeys _ _ | setAuthed _ => Unit
  | track | spawn _ | closeWrite _ | teardownChannels | untrack | unregister => Unit
  | closeSocket | dropKey _ => Unit

def windowAdjustThreshold : Nat := 2 ^ 20

def strictKEXClient : Bytes := ascii "kex-strict-c-v00@openssh.com"

/-- The fields of a KEXINIT message after its number. -/
def kexInitBody (kex : Bytes) : Bytes :=
  if kex.head? = some sshMsgKexInit then kex.drop 1 else kex

def clientOffersStrictKEX (kex : Bytes) : Bool :=
  let body := kexInitBody kex
  if body.length < 16 then false
  else
    match consumeString (body.drop 16) with
    | some (kexList, _) => (names kexList).contains strictKEXClient
    | none => false

/-- `readIdentification`: a line that names the protocol, and the rest of the input. -/
def readIdentification (input : Bytes) : Option (Bytes × Bytes) :=
  match input.dropWhile (· != 10) with
  | [] => none
  | _ :: rest =>
    let line := (input.takeWhile (· != 10)).rdropWhile (· == 13)
    if (ascii "SSH-2.0-").isPrefixOf line && decide (line.length ≤ 255) then some (line, rest)
    else none

/-- The key that the next packet is sealed with, and its frame. -/
def nextFrame (plane : Plane) (random payload : Bytes) (conn : Conn) :
    Option (Option ChachaDirection × Bytes) :=
  if conn.clearOut then some (none, clearFrame payload random)
  else
    match conn.outKey with
    | some key =>
      (key.sealPacket plane.suite.cipher conn.outSeq payload random).map fun frame =>
        (some key, frame)
    | none => none

/-- The section of `write`: one packet is handed to the socket, and only a packet that was
written as a whole counts. -/
def sendPacket (plane : Plane) (choice : ConnChoice) (payload : Bytes) (conn : Conn) :
    SendReply × Conn :=
  if maxSSHSeq < conn.outSeq then (.failed, conn)
  else
    match nextFrame plane choice.bytes payload conn with
    | none => (.failed, conn)
    | some (key, frame) =>
      if choice.ok && conn.socketOpen then
        let bytesOut := conn.bytesOut + if conn.clearOut then payload.length else frame.length
        (.sent (conn.authed && conn.phase == .ready && decide (0 < plane.policy.rekeyAfter) &&
            decide (plane.policy.rekeyAfter ≤ bytesOut) && payload.head? != some sshMsgKexInit),
          { conn with
            wire := ⟨key, conn.outSeq, payload, frame.length, true⟩ :: conn.wire
            outSeq := conn.outSeq + 1
            bytesOut
            loggedIn :=
              if payload = [sshMsgUserauthSuccess] then conn.keyDigest :: conn.loggedIn
              else conn.loggedIn })
      else
        let sent := if conn.socketOpen then min choice.sent frame.length else 0
        (.failed, { conn with wire := ⟨key, conn.outSeq, payload, sent, false⟩ :: conn.wire })

/-- `read`: the payload of the next packet, in the clear or decrypted. -/
def readPacket (plane : Plane) (conn : Conn) : Option (Bytes × Bytes) :=
  if maxSSHSeq < conn.inSeq then none
  else if conn.clearIn then readClearPacket conn.input
  else
    match conn.inKey with
    | some key => key.openPacket plane.suite.cipher conn.inSeq conn.input
    | none => none

/-- The section of `handleChannelOpen` that enters a channel into the table. -/
def enterChannel (sender window maxPkt : Nat) (conn : Conn) : Conn :=
  let channel : Channel :=
    { serial := conn.channels.length
      localID := conn.nextLocal
      remoteID := sender
      window
      maxPkt
      recvWindow := 2 * 2 ^ 20
      maxRecv := 32 * 1024
      consumed := 0
      closed := false
      inTable := true }
  { conn with
    channels := channel :: conn.channels.map fun other =>
      if other.localID = conn.nextLocal then { other with inTable := false } else other
    nextLocal := (conn.nextLocal + 1) % 2 ^ 32 }

/-- What an action does. Only a forwarder waits: while its channel is open and the window is
used up or keys are being exchanged. -/
def performConn (plane : Plane) :
    (action : ConnAction) → ConnChoice → Conn → Option (action.Reply × Conn)
  | .sendIdentification, choice, conn => some (choice.ok && conn.socketOpen, conn)
  | .readIdentification, choice, conn =>
    match readIdentification conn.input with
    | some (line, input) => some (if choice.ok then some line else none, { conn with input })
    | none => some (none, conn)
  | .cookie, choice, conn => some (if choice.ok then some (paddingOf choice.bytes 16) else none, conn)
  | .setServerKex serverKex, _, conn => some ((), { conn with serverKex })
  | .send payload, choice, conn => some (sendPacket plane choice payload conn)
  | .startRekey serverKex, _, conn =>
    if conn.phase = .ready then
      some (true, { conn with serverKex, clientKex := none, phase := .awaitInit })
    else some (false, conn)
  | .readPacket, choice, conn =>
    match if choice.ok && conn.socketOpen then readPacket plane conn else none with
    | some (payload, input) => some (some payload, { conn with input, inSeq := conn.inSeq + 1 })
    | none => some (none, conn)
  | .readPhase, _, conn => some (conn.phase, conn)
  | .readInitialKEX, _, conn => some (conn.initialKEX, conn)
  | .readClearIn, _, conn => some (conn.clearIn, conn)
  | .readAuthed, _, conn => some (conn.authed, conn)
  | .readSessionID, _, conn => some (conn.sessionID, conn)
  | .replyKexInit payload serverKex, _, conn =>
    some ((), { conn with serverKex, clientKex := some payload, phase := .awaitECDH })
  | .acceptKexInit payload, _, conn =>
    some ((),
      { conn with
        clientKex := some payload
        strictKEX := conn.strictKEX || (conn.initialKEX && clientOffersStrictKEX payload)
        phase := .awaitECDH })
  | .newKeys, _, conn =>
    if conn.phase = .awaitNewKeys ∧ conn.pendingIn.isSome = true then
      some (true,
        { conn with
          inKey := conn.pendingIn
          pendingIn := none
          clearIn := false
          inSeq := if conn.strictKEX then 0 else conn.inSeq
          initialKEX := false
          phase := .ready
          bytesOut := 0 })
    else some (false, conn)
  | .beginKEX, _, conn =>
    some (if conn.phase = .awaitECDH then
        conn.clientKex.map fun clientKex => (clientKex, conn.serverKex)
      else none, conn)
  | .encapsulate clientPub, choice, conn =>
    some (plane.suite.encapsulate clientPub choice.bytes, conn)
  | .hostPublic, choice, conn => some (if choice.ok then some plane.hostPublic else none, conn)
  | .fixSessionID hash, _, conn =>
    let sessionID := if conn.sessionID.isEmpty then hash else conn.sessionID
    some (sessionID, { conn with sessionID })
  | .sign _, choice, conn => some (if choice.ok then some choice.bytes else none, conn)
  | .switchKeys out inward, _, conn =>
    some ((),
      { conn with
        outKey := some out
        pendingIn := some inward
        clearOut := false
        phase := .awaitNewKeys
        outSeq := if conn.strictKEX then 0 else conn.outSeq })
  | .readAuthorizedKeys, choice, conn => some (if choice.ok then some choice.text else none, conn)
  | .setAuthed keyDigest, _, conn =>
    some ((), { conn with authed := true, bytesOut := 0, keyDigest })
  | .newConnectionID, choice, conn =>
    let connectionID := paddingOf choice.bytes 16
    if choice.ok then some (some connectionID, { conn with connectionID })
    else some (none, conn)
  | .register _ connectionID, choice, conn =>
    -- a registration that fails may have left its record
    some (choice.ok,
      if choice.ok || choice.flag then { conn with records := connectionID :: conn.records }
      else conn)
  | .track, _, conn =>
    some ((), if conn.connectionID.isEmpty then conn
      else { conn with table := conn.connectionID :: conn.table })
  | .channelQuota, _, conn => some (decide (plane.policy.maxChannels ≤ conn.channelCount), conn)
  | .dial _, choice, conn => some (if choice.ok then none else some choice.bytes, conn)
  | .openChannel sender window maxPkt, _, conn =>
    if plane.policy.maxChannels ≤ conn.channelCount then some (none, conn)
    else some (some (conn.channels.length, conn.nextLocal),
      enterChannel sender window maxPkt conn)
  | .spawn serial, _, conn => some ((), { conn with spawned := serial :: conn.spawned })
  | .readBackend _, choice, conn => some ((choice.bytes.take (16 * 1024), choice.flag), conn)
  | .takeWindow serial length, _, conn =>
    match conn.channelOf serial with
    | none => some (none, conn)
    | some channel =>
      if channel.closed then some (none, conn)
      else if channel.window = 0 ∨ conn.phase ≠ .ready then none
      else
        let chunk := min (min length channel.maxPkt) channel.window
        some (some chunk, conn.changeChannel serial fun channel =>
          { channel with window := channel.window - chunk })
  | .receiveData localID size, _, conn =>
    match conn.channel localID with
    | none => some (.unknown, conn)
    | some channel =>
      if channel.maxRecv < size ∨ channel.recvWindow < size then some (.exceeds, conn)
      else some (.accepted channel.serial, conn.changeChannel channel.serial fun channel =>
        { channel with recvWindow := channel.recvWindow - size })
  | .writeBackend _ data, choice, conn =>
    some (if choice.ok then some data.length else none, conn)
  | .isClosed serial, _, conn => some ((conn.channelOf serial).any Channel.closed, conn)
  | .returnWindow serial n, _, conn =>
    match conn.channelOf serial with
    | none => some (none, conn)
    | some channel =>
      let adjust := channel.consumed + n
      if adjust < windowAdjustThreshold then
        some (none, conn.changeChannel serial ({ · with consumed := adjust }))
      else
        some (some (channel.remoteID, adjust), conn.changeChannel serial fun channel =>
          { channel with consumed := 0, recvWindow := channel.recvWindow + adjust })
  | .adjustWindow localID add, _, conn =>
    match conn.channel localID with
    | none => some (.unknown, conn)
    | some channel =>
      if 2 ^ 32 - 1 - channel.window < add then some (.overflow, conn)
      else some (.adjusted, conn.changeChannel channel.serial fun channel =>
        { channel with window := channel.window + add })
  | .lookup localID, _, conn => some ((conn.channel localID).map Channel.remoteID, conn)
  | .closeWrite _, _, conn => some ((), conn)
  | .closeChannel localID, _, conn =>
    match conn.channel localID with
    | none => some (none, conn)
    | some channel =>
      some (some channel.remoteID, conn.changeChannel channel.serial
        ({ · with closed := true, inTable := false }))
  | .teardownChannels, _, conn =>
    some ((),
      { conn with
        channels := conn.channels.map fun channel =>
          if channel.inTable then { channel with closed := true, inTable := false }
          else channel })
  | .untrack, _, conn =>
    some ((), if conn.connectionID.isEmpty then conn
      else { conn with table := conn.table.filter (· ≠ conn.connectionID) })
  | .unregister, choice, conn =>
    some ((), if conn.connectionID.isEmpty || !choice.ok then conn
      else { conn with records := conn.records.filter (· ≠ conn.connectionID) })
  | .closeSocket, _, conn => some ((), { conn with socketOpen := false, ended := true })
  | .dropKey keyDigest, _, conn =>
    some ((), if !keyDigest.isEmpty && !conn.table.isEmpty && conn.keyDigest = keyDigest then
        { conn with socketOpen := false }
      else conn)

abbrev ConnProg (α : Type) := Prog ConnAction ConnAction.Reply Err α

end WarpTweet
