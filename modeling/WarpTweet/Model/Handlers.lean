import WarpTweet.Model.Connection

/-!
# The goroutines of a connection

The reader loop `serve` with its message handlers (`conn.go`, `forward.go`), the channel
forwarders, and the drop of a key. The loop is cut off after a number of messages, which is
a parameter, so a run of the loop is a run of the model for every large enough number.
-/

set_option autoImplicit false

namespace WarpTweet

open Strings Concurrency Wire

namespace ConnProg

def act (action : ConnAction) : ConnProg action.Reply := Prog.perform action

/-- A step that may have no result. -/
def need {α : Type} (result : Option α) (what : String) : ConnProg α :=
  match result with
  | some value => .done value
  | none => .fail (.plain what)

/-- A field of a message, or the error for a message that ends too early. -/
def field {α : Type} (result : Option α) : ConnProg α := need result "truncated SSH field"

end ConnProg

open ConnProg

/-! ## Messages of the server -/

/-- `marshalKexInit`, with its cookie. -/
def kexInitPayload (policy : Policy) (cookie : Bytes) : Bytes :=
  sshMsgKexInit :: cookie ++
    withLength (policy.keyExchangeAlgorithm ++ ascii ",kex-strict-s-v00@openssh.com") ++
    withLength policy.authenticationKeyType ++
    withLength policy.cipherName ++ withLength policy.cipherName ++
    withLength (ascii "none") ++ withLength (ascii "none") ++
    withLength (ascii "none") ++ withLength (ascii "none") ++
    withLength [] ++ withLength [] ++ 0 :: uint32 0

def marshalKexInit (plane : Plane) : ConnProg Bytes := do
  let cookie ← act .cookie
  let cookie ← need cookie "read random"
  pure (kexInitPayload plane.policy cookie)

def marshalDisconnect (description : Bytes) : Bytes :=
  sshMsgDisconnect :: uint32 2 ++ withLength description ++ uint32 0

def userauthFailure : Bytes := sshMsgUserauthFailure :: withLength (ascii "publickey") ++ [0]

/-! ## Writing -/

/-- `startRekey`. The KEXINIT that it writes never asks for another rekey. -/
def startRekey (plane : Plane) : ConnProg Unit := do
  let serverKex ← marshalKexInit plane
  if ← act (.startRekey serverKex) then
    match ← act (.send serverKex) with
    | .failed => throw (.plain "write")
    | .sent _ => pure ()

def write (plane : Plane) (payload : Bytes) : ConnProg Unit := do
  match ← act (.send payload) with
  | .failed => throw (.plain "write")
  | .sent needRekey => if needRekey then startRekey plane

/-- `disconnect`: the reason is sent if that still works, and the loop ends. -/
def disconnect {α : Type} (plane : Plane) (reason : Bytes) : ConnProg α := do
  let _ ← (write plane (marshalDisconnect reason)).attempt
  throw (.plain "disconnect")

/-! ## Key exchange -/

def handleKexInit (plane : Plane) (payload : Bytes) : ConnProg Unit := do
  match ← act .readPhase with
  | .ready => do
      let serverKex ← marshalKexInit plane
      act (.replyKexInit payload serverKex)
      write plane serverKex
  | .awaitInit => act (.acceptKexInit payload)
  | .awaitECDH | .awaitNewKeys => disconnect plane (ascii "unexpected KEXINIT")

def handleNewKeys : ConnProg Unit := do
  if ← act .newKeys then pure () else throw (.plain "NEWKEYS before key derivation")

/-- `appendKexInitHash`. -/
def kexInitHash (kex : Bytes) : Bytes := withLength (sshMsgKexInit :: kexInitBody kex)

def exchangeHashInput (clientID serverID clientKex serverKex hostBlob clientPub serverPub
    secret : Bytes) : Bytes :=
  withLength clientID ++ withLength serverID ++ kexInitHash clientKex ++ kexInitHash serverKex ++
    withLength hostBlob ++ withLength clientPub ++ withLength serverPub ++ secret

/-- `clientOffersPinnedAlgorithms`: the complaint about the client's KEXINIT, if any. -/
def clientOffersPinnedAlgorithms (kex : Bytes) (policy : Policy) : Option Bytes :=
  let body := kexInitBody kex
  if body.length < 16 then some (ascii "truncated client KEXINIT")
  else
    let lists := do
      let (kexList, body) ← consumeString (body.drop 16)
      let (hostList, body) ← consumeString body
      let (c2s, body) ← consumeString body
      let (s2c, _) ← consumeString body
      pure (kexList, hostList, c2s, s2c)
    match lists with
    | none => some (ascii "truncated SSH field")
    | some (kexList, hostList, c2s, s2c) =>
      if !(names kexList).contains policy.keyExchangeAlgorithm then
        some (ascii "client KEXINIT missing " ++ policy.keyExchangeAlgorithm)
      else if !(names hostList).contains policy.authenticationKeyType then
        some (ascii "client KEXINIT missing " ++ policy.authenticationKeyType)
      else if !(names c2s).contains policy.cipherName || !(names s2c).contains policy.cipherName then
        some (ascii "client KEXINIT missing " ++ policy.cipherName)
      else none

/-- `identification`. -/
def serverIdentification : Bytes := ascii "SSH-2.0-WarpTweet_tcp1"

/-- The answer of `handleKEX` to a key share, up to the NEWKEYS of the server. It returns the
keys of the two directions. -/
def answerKEX (plane : Plane) (clientID payload clientKex serverKex : Bytes) :
    ConnProg (ChachaDirection × ChachaDirection) := do
  let (clientPub, rest) ← field (consumeString (payload.drop 1))
  if !rest.isEmpty then throw (.plain "trailing KEX_ECDH_INIT bytes")
  else do
    let shares ← act (.encapsulate clientPub)
    let (serverPub, shared) ← need shares "encapsulate"
    match clientOffersPinnedAlgorithms clientKex plane.policy with
    | some complaint => disconnect plane complaint
    | none => do
        let hostPub ← act .hostPublic
        let hostPub ← need hostPub "host key"
        let hostBlob := hostKeyBlob hostPub
        let secret := withLength shared
        let hash := plane.suite.sha256 (exchangeHashInput clientID serverIdentification clientKex
          serverKex hostBlob clientPub serverPub secret)
        let sessionID ← act (.fixSessionID hash)
        let signature ← act (.sign hash)
        let signature ← need signature "sign"
        write plane (sshMsgKexECDHReply :: withLength hostBlob ++ withLength serverPub ++
          withLength (signatureBlob signature))
        let (keyC, keyD) := plane.suite.deriveKeys secret hash sessionID
        let pendingOut ← need (newChaChaDirection keyD) "chacha20-poly1305 key"
        let pendingIn ← need (newChaChaDirection keyC) "chacha20-poly1305 key"
        write plane [sshMsgNewKeys]
        pure (pendingOut, pendingIn)

def handleKEX (plane : Plane) (clientID payload : Bytes) : ConnProg Unit := do
  let kexInits ← act .beginKEX
  let (clientKex, serverKex) ← need kexInits "KEX_ECDH_INIT before KEXINIT"
  let (pendingOut, pendingIn) ← answerKEX plane clientID payload clientKex serverKex
  act (.switchKeys pendingOut pendingIn)

/-! ## Authentication -/

def handleService (plane : Plane) (payload : Bytes) : ConnProg Unit := do
  let (name, rest) ← field (consumeString (payload.drop 1))
  if !rest.isEmpty || name ≠ ascii "ssh-userauth" then
    disconnect plane (ascii "WarpTweet only accepts ssh-userauth")
  else write plane (sshMsgServiceAccept :: withLength (ascii "ssh-userauth"))

/-- The raw value of a blob that names the composite algorithm, as keys and signatures are
encoded. -/
def compositeBlob (blob : Bytes) : Option Bytes := do
  let (algorithm, rest) ← consumeString blob
  let (raw, rest) ← consumeString rest
  if algorithm = compositeAlgorithm ∧ rest = [] then some raw else none

def decodePublicBlob (suite : Suite) (blob : Text) : Option Bytes := do
  compositeBlob (← suite.decodeBase64 blob)

/-- The blob field of a line of the authorization file: the one after the algorithm. -/
def lineBlob (line : Text) : Option Text :=
  match (fields (trimSpace line)).dropWhile (· ≠ authenticationKeyType) with
  | _ :: blob :: _ => some blob
  | _ => none

def authorizedRawKeys (suite : Suite) (contents : Text) : Option (List Bytes) :=
  ((contents.splitOn '\n').filterMap lineBlob).mapM (decodePublicBlob suite)

/-- `knownClient`: the authorization file holds the key. A file that cannot be read or parsed
holds none. -/
def isKnownClient (plane : Plane) (rawPub : Bytes) : ConnProg Bool := do
  match ← act .readAuthorizedKeys with
  | none => pure false
  | some contents =>
    match authorizedRawKeys plane.suite contents with
    | none => pure false
    | some keys => pure (keys.contains rawPub)

/-- The fields of a public-key authentication request up to the signature. -/
structure UserauthRequest where
  user : Bytes
  service : Bytes
  hasSig : Bool
  pubBlob : Bytes
  rawPub : Bytes
  rest : Bytes
  deriving DecidableEq, Repr

/-- The first part of `handleUserauth`: `none` when the message ends too early, and
`some none` when the request is refused. -/
def parseUserauth (payload : Bytes) : Option (Option UserauthRequest) := do
  let (user, rest) ← consumeString (payload.drop 1)
  let (service, rest) ← consumeString rest
  let (method, rest) ← consumeString rest
  if user ≠ ascii "warptweet" ∨ service ≠ ascii "ssh-connection" ∨ method ≠ ascii "publickey" then
    some none
  else do
    let (hasSig, rest) ← consumeBool rest
    let (algorithm, rest) ← consumeString rest
    let (pubBlob, rest) ← consumeString rest
    if algorithm ≠ compositeAlgorithm then some none
    else some ((compositeBlob pubBlob).map fun rawPub =>
      { user, service, hasSig, pubBlob, rawPub, rest })

/-- The signature of a request, if the rest of the message is one. -/
def parseSignature (rest : Bytes) : Option Bytes := do
  let (wire, rest) ← consumeString rest
  if rest = [] then compositeBlob wire else none

/-- What the client signs. -/
def signedData (sessionID : Bytes) (request : UserauthRequest) : Bytes :=
  withLength sessionID ++ sshMsgUserauthRequest :: withLength request.user ++
    withLength request.service ++ withLength (ascii "publickey") ++
    1 :: withLength compositeAlgorithm ++ withLength request.pubBlob

/-- The end of `handleUserauth`, after the signature has been verified. -/
def adoptKey (plane : Plane) (rawPub : Bytes) : ConnProg Unit := do
  let keyDigest := plane.suite.sha256 (hostKeyBlob rawPub)
  act (.setAuthed keyDigest)
  let connectionID ← act .newConnectionID
  let connectionID ← need connectionID "read random"
  if plane.policy.grant then
    if ← act (.register keyDigest connectionID) then do
      act .track
      write plane [sshMsgUserauthSuccess]
    else disconnect plane (ascii "grant session registration failed")
  else write plane [sshMsgUserauthSuccess]

/-- `handleUserauth`. -/
def handleUserauthRequest (plane : Plane) (payload : Bytes) : ConnProg Unit := do
  let parsed ← field (parseUserauth payload)
  match parsed with
  | none => write plane userauthFailure
  | some request =>
    if ← isKnownClient plane request.rawPub then
      if !request.hasSig then
        if !request.rest.isEmpty then write plane userauthFailure
        else write plane (sshMsgUserauthPKOK :: withLength compositeAlgorithm ++
          withLength request.pubBlob)
      else
        match parseSignature request.rest with
        | none => write plane userauthFailure
        | some signature => do
            let sessionID ← act .readSessionID
            if plane.suite.verify request.rawPub (signedData sessionID request) signature then
              adoptKey plane request.rawPub
            else write plane userauthFailure
    else write plane userauthFailure

/-- `releaseGrant`. -/
def releaseConnection (plane : Plane) : ConnProg Unit := do
  act .untrack
  if plane.policy.grant then act .unregister

def handleGlobal (plane : Plane) (payload : Bytes) : ConnProg Unit := do
  let (name, rest) ← field (consumeString (payload.drop 1))
  let (wantReply, rest) ← field (consumeBool rest)
  if !rest.isEmpty then disconnect plane (ascii "trailing global-request payload")
  else if !wantReply then pure ()
  else if name = ascii "keepalive@openssh.com" ∨ name = ascii "no-more-sessions@openssh.com" then
    write plane [sshMsgRequestSuccess]
  else write plane [sshMsgRequestFailure]

/-! ## Channels -/

def channelOpenFailure (plane : Plane) (sender : Nat) (reason : Bytes) : ConnProg Unit :=
  write plane (sshMsgChannelOpenFailure :: uint32 sender ++ uint32 1 ++ withLength reason ++
    withLength [])

def closeChannel (plane : Plane) (localID : Nat) : ConnProg Unit := do
  match ← act (.closeChannel localID) with
  | none => pure ()
  | some remoteID => do
      let _ ← (write plane (sshMsgChannelClose :: uint32 remoteID)).attempt
      pure ()

def allowDirectTCPIP (policy : Policy) (destination : Addr × Nat) : Bool :=
  (destination.1.unmap, destination.2) = policy.target ||
    (destination.1.unmap, destination.2) = policy.management

/-- The end of `handleChannelOpen`: dial the destination and enter the channel. -/
def connectChannel (plane : Plane) (sender window maxPkt : Nat) (destination : Addr × Nat) :
    ConnProg Unit := do
  if ← act .channelQuota then channelOpenFailure plane sender (ascii "channel quota exceeded")
  else
    match ← act (.dial destination) with
    | some complaint => channelOpenFailure plane sender complaint
    | none => do
        match ← act (.openChannel sender window maxPkt) with
        | none => channelOpenFailure plane sender (ascii "channel quota exceeded")
        | some (serial, localID) => do
            let confirmed ← (write plane (sshMsgChannelOpenConfirm :: uint32 sender ++
              uint32 localID ++ uint32 (2 * 2 ^ 20) ++ uint32 (32 * 1024))).attempt
            match confirmed with
            | .error err => do
                closeChannel plane localID
                throw err
            | .ok _ => act (.spawn serial)

def handleChannelOpen (plane : Plane) (payload : Bytes) : ConnProg Unit := do
  if !(← act .readAuthed) then disconnect plane (ascii "channel open before authentication")
  else do
    let (name, rest) ← field (consumeString (payload.drop 1))
    let (sender, rest) ← field (consumeUint32 rest)
    let (window, rest) ← field (consumeUint32 rest)
    let (maxPkt, rest) ← field (consumeUint32 rest)
    if maxPkt = 0 then channelOpenFailure plane sender (ascii "max packet size is zero")
    else if name ≠ ascii "direct-tcpip" then
      channelOpenFailure plane sender
        (ascii "WarpTweet allows only direct-tcpip channels, not " ++ plane.suite.quote name)
    else do
      let (host, rest) ← field (consumeString rest)
      let (port, rest) ← field (consumeUint32 rest)
      if 65535 < port then channelOpenFailure plane sender (ascii "destination port out of range")
      else do
        let (_, rest) ← field (consumeString rest)
        let (origPort, rest) ← field (consumeUint32 rest)
        if !rest.isEmpty then disconnect plane (ascii "trailing channel-open payload")
        else if 65535 < origPort then
          channelOpenFailure plane sender (ascii "originator port out of range")
        else
          match plane.suite.parseAddr host with
          | none => channelOpenFailure plane sender (ascii "destination is not a numeric address")
          | some addr =>
            if !allowDirectTCPIP plane.policy (addr.unmap, port) then
              channelOpenFailure plane sender (ascii "direct-tcpip destination " ++
                plane.suite.formatAddrPort (addr.unmap, port) ++ ascii " is not permitted")
            else connectChannel plane sender window maxPkt (addr.unmap, port)

def handleChannelData (plane : Plane) (payload : Bytes) : ConnProg Unit := do
  let (localID, rest) ← field (consumeUint32 (payload.drop 1))
  let (data, _) ← field (consumeString rest)
  match ← act (.receiveData localID data.length) with
  | .unknown => pure ()
  | .exceeds => disconnect plane (ascii "channel data exceeds window")
  | .accepted serial => do
      match ← act (.writeBackend serial data) with
      | none => do
          if ← act (.isClosed serial) then pure () else closeChannel plane localID
      | some n => do
          match ← act (.returnWindow serial n) with
          | none => pure ()
          | some (remoteID, adjust) =>
            write plane (sshMsgChannelWindowAdjust :: uint32 remoteID ++ uint32 adjust)

def handleWindowAdjust (plane : Plane) (payload : Bytes) : ConnProg Unit := do
  let (localID, rest) ← field (consumeUint32 (payload.drop 1))
  let (add, _) ← field (consumeUint32 rest)
  match ← act (.adjustWindow localID add) with
  | .unknown | .adjusted => pure ()
  | .overflow => disconnect plane (ascii "channel window overflow")

def handleChannelEOF (payload : Bytes) : ConnProg Unit := do
  let (localID, _) ← field (consumeUint32 (payload.drop 1))
  match ← act (.lookup localID) with
  | none => pure ()
  | some _ => act (.closeWrite localID)

def handleChannelClose (plane : Plane) (payload : Bytes) : ConnProg Unit := do
  let (localID, _) ← field (consumeUint32 (payload.drop 1))
  closeChannel plane localID

def handleChannelRequest (plane : Plane) (payload : Bytes) : ConnProg Unit := do
  let (localID, rest) ← field (consumeUint32 (payload.drop 1))
  let (_, rest) ← field (consumeString rest)
  let (wantReply, _) ← field (consumeBool rest)
  if !wantReply then pure ()
  else
    match ← act (.lookup localID) with
    | none => pure ()
    | some remoteID => write plane (sshMsgChannelFailure :: uint32 remoteID)

/-! ## The reader loop -/

/-- The messages that `dispatchSecure` handles while keys are being exchanged. -/
def allowedDuringKEX (message : UInt8) : Bool :=
  [sshMsgChannelData, sshMsgChannelWindowAdjust, sshMsgChannelEOF, sshMsgChannelClose,
    sshMsgGlobalRequest].contains message

def dispatchSecure (plane : Plane) (message : UInt8) (payload : Bytes) : ConnProg Unit := do
  if ← act .readClearIn then disconnect plane (ascii "post-KEX message before NEWKEYS")
  else do
    let phase ← act .readPhase
    if phase ≠ .ready ∧ allowedDuringKEX message = false then
      disconnect plane (ascii "application message during key exchange")
    else if message = sshMsgServiceRequest then handleService plane payload
    else if message = sshMsgUserauthRequest then handleUserauthRequest plane payload
    else if message = sshMsgGlobalRequest then handleGlobal plane payload
    else if message = sshMsgChannelOpen then handleChannelOpen plane payload
    else if message = sshMsgChannelData then handleChannelData plane payload
    else if message = sshMsgChannelWindowAdjust then handleWindowAdjust plane payload
    else if message = sshMsgChannelEOF then handleChannelEOF payload
    else if message = sshMsgChannelClose then handleChannelClose plane payload
    else handleChannelRequest plane payload

/-- The messages that go to `dispatchSecure`. -/
def isSecureMessage (message : UInt8) : Bool :=
  [sshMsgServiceRequest, sshMsgUserauthRequest, sshMsgGlobalRequest, sshMsgChannelOpen,
    sshMsgChannelData, sshMsgChannelWindowAdjust, sshMsgChannelEOF, sshMsgChannelClose,
    sshMsgChannelRequest].contains message

/-- The messages that are skipped after the first key exchange. -/
def isSkippedMessage (message : UInt8) : Bool :=
  [sshMsgIgnore, sshMsgUnimplemented, sshMsgDebug, sshMsgExtInfo].contains message

/-- The switch of `serve` on the number of a message. -/
def dispatch (plane : Plane) (clientID : Bytes) (message : UInt8) (payload : Bytes) :
    ConnProg Unit :=
  if message = sshMsgKexInit then handleKexInit plane payload
  else if message = sshMsgKexECDHInit then handleKEX plane clientID payload
  else if message = sshMsgNewKeys then handleNewKeys
  else if isSkippedMessage message then do
    if ← act .readInitialKEX then
      disconnect plane (ascii "unexpected message during initial KEX")
    else pure ()
  else if isSecureMessage message then dispatchSecure plane message payload
  else if message = sshMsgDisconnect then pure ()
  else disconnect plane (ascii ("unexpected SSH message " ++ toString message.toNat))

/-- One turn of the loop of `serve`. An empty payload is skipped. It returns whether the loop
goes on. -/
def handleMessage (plane : Plane) (clientID : Bytes) : Bytes → ConnProg Bool
  | [] => pure true
  | message :: rest => do
      dispatch plane clientID message (message :: rest)
      pure (message ≠ sshMsgDisconnect)

/-- The loop of `serve`, for at most `n` messages. It returns whether it has ended by
itself. -/
def serveMessages (plane : Plane) (clientID : Bytes) : ℕ → ConnProg Bool
  | 0 => pure false
  | n + 1 => do
      let payload ← act .readPacket
      let payload ← need payload "read"
      if ← handleMessage plane clientID payload then serveMessages plane clientID n
      else pure true

def serve (plane : Plane) (n : ℕ) : ConnProg Bool := do
  let sent ← act .sendIdentification
  if !sent then throw (.plain "write")
  else do
    let clientID ← act .readIdentification
    let clientID ← need clientID "unsupported identification"
    let serverKex ← marshalKexInit plane
    act (.setServerKex serverKex)
    write plane serverKex
    serveMessages plane clientID n

/-- `serveConnection`: serve, and clean up when the loop has ended. -/
def serveConnection (plane : Plane) (n : ℕ) : ConnProg Unit := do
  match ← (serve plane n).attempt with
  | .ok false => pure ()
  | .ok true | .error _ => do
      act .teardownChannels
      releaseConnection plane
      act .closeSocket

/-! ## Forwarders -/

/-- `sendChannelData`. Every turn sends at least one byte, so there are at most as many turns
as bytes. -/
def sendChannelData (plane : Plane) (serial : ℕ) (remoteID : Nat) : ℕ → Bytes → ConnProg Unit
  | 0, _ | _, [] => pure ()
  | n + 1, data => do
      match ← act (.takeWindow serial data.length) with
      | none => throw (.plain "use of closed network connection")
      | some chunk => do
          write plane (sshMsgChannelData :: uint32 remoteID ++ withLength (data.take chunk))
          sendChannelData plane serial remoteID n (data.drop chunk)

/-- `forwardBackend`, for at most `n` reads of the backend. -/
def forwardBackend (plane : Plane) (serial : ℕ) (localID remoteID : Nat) : ℕ → ConnProg Unit
  | 0 => pure ()
  | n + 1 => do
      let (data, ends) ← act (.readBackend serial)
      match ← (sendChannelData plane serial remoteID data.length data).attempt with
      | .error _ => closeChannel plane localID
      | .ok _ =>
        if ends then do
          let _ ← (write plane (sshMsgChannelEOF :: uint32 remoteID)).attempt
          closeChannel plane localID
        else forwardBackend plane serial localID remoteID n

/-! ## The machine -/

/-- The goroutines of a connection, with the number of turns their loops may make. -/
inductive ConnCall where
  | serve (n : ℕ)
  | forward (serial : ℕ) (localID remoteID : Nat) (n : ℕ)
  | drop (keyDigest : Bytes)
  deriving DecidableEq, Repr

def connProgram (plane : Plane) : ConnCall → ConnProg Unit
  | .serve n => serveConnection plane n
  | .forward serial localID remoteID n => forwardBackend plane serial localID remoteID n
  | .drop keyDigest => act (.dropKey keyDigest)

def connMachine (plane : Plane) :
    Machine Conn ConnCall ConnAction ConnChoice ConnAction.Reply Err where
  program := connProgram plane
  perform _ := performConn plane
  release _ conn := conn

abbrev ConnPool := Config Conn ConnCall ConnAction ConnChoice ConnAction.Reply Err

abbrev ConnMove := Move ConnCall ConnChoice

abbrev ConnEvent := Event ConnCall ConnAction ConnChoice ConnAction.Reply

abbrev ConnProcess := Process ConnCall ConnAction ConnChoice ConnAction.Reply Err

abbrev ConnLog := List ConnEvent

/-- How a connection runs. The reader loop is the process number zero, a forwarder is started
for a channel whose open was confirmed, keys are dropped at any time, and goroutines do not
stop by themselves. -/
def Forks (c : ConnPool) : ConnMove → Prop
  | .start pid (.serve _) => pid = 0
  | .start pid (.forward serial localID remoteID _) => pid ≠ 0 ∧ serial ∈ c.state.spawned ∧
      ∃ channel ∈ c.state.channelOf serial, channel.localID = localID ∧
        channel.remoteID = remoteID
  | .start pid (.drop _) => pid ≠ 0
  | .advance _ _ => True
  | .stop _ => False

instance (c : ConnPool) (move : ConnMove) : Decidable (Forks c move) := by
  unfold Forks
  repeat' split
  all_goals infer_instance

end WarpTweet
