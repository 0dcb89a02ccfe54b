import WarpTweet.Analysis.Reader

/-!
# The handlers of the reader loop

What actions each handler takes, for any set of actions that has the ones every handler needs:
those that only look at the connection, and the messages that are about the connection as a
whole. A property of the reader loop is then shown for the few handlers that matter to it, and
for all others by their footprint.
-/

set_option autoImplicit false

namespace WarpTweet

open Strings Concurrency Wire ConnProg

/-! ## Control messages -/

/-- The messages of the reader loop that are not about one of the open channels, except for the
answer to a login. -/
def controlMessages : List UInt8 :=
  [sshMsgDisconnect, sshMsgServiceAccept, sshMsgKexInit, sshMsgNewKeys, sshMsgKexECDHReply,
    sshMsgUserauthFailure, sshMsgUserauthPKOK, sshMsgRequestSuccess, sshMsgRequestFailure,
    sshMsgChannelOpenFailure]

/-- A payload with the number of a control message. -/
def IsControl (payload : Bytes) : Prop := ∃ message ∈ controlMessages, payload.head? = some message

/-- Actions that look at the connection, or at what it is served with, and change nothing. -/
def ConnAction.Looks : ConnAction → Prop
  | .cookie | .readPhase | .readInitialKEX | .readClearIn | .readAuthed | .readSessionID => True
  | .beginKEX | .encapsulate _ | .hostPublic | .sign _ | .readAuthorizedKeys => True
  | .channelQuota | .isClosed _ | .lookup _ | .closeWrite _ => True
  | _ => False

/-- A set of actions that holds what every handler may do. -/
structure AllowsControl (p : ConnAction → Prop) : Prop where
  looks : ∀ action, action.Looks → p action
  startRekey : ∀ serverKex, p (.startRekey serverKex)
  send : ∀ payload, IsControl payload → p (.send payload)

/-! ## Footprints -/

variable {p : ConnAction → Prop} {plane : Plane} {payload : Bytes}
  {clientID reason rawPub input : Bytes} {message : UInt8} {sender window maxPkt : Nat}
  {n : ℕ} {α : Type} {result : Option α} {destination : Addr × Nat} {action : ConnAction}
  {D : ConnPool → ConnMove → Prop} {c : ConnPool}

theorem AllowsControl.rekey (h : AllowsControl p) : AllowsRekey p :=
  ⟨h.looks _ trivial, h.startRekey, fun _ hhead => h.send _ ⟨_, by decide, hhead⟩⟩

theorem uses_control (h : AllowsControl p) {body : Bytes}
    (hmessage : message ∈ controlMessages) : (write plane (message :: body)).Uses p :=
  uses_write h.rekey (h.send _ ⟨message, hmessage, rfl⟩)

theorem uses_disconnect_control (h : AllowsControl p) :
    (disconnect plane reason : ConnProg α).Uses p :=
  uses_disconnect h.rekey (h.send _ ⟨_, by decide, rfl⟩)

theorem uses_handleKexInit (h : AllowsControl p)
    (hreply : ∀ payload serverKex, p (.replyKexInit payload serverKex))
    (haccept : ∀ payload, p (.acceptKexInit payload)) : (handleKexInit plane payload).Uses p := by
  refine Prog.Uses.bind (uses_act (h.looks _ trivial)) fun phase => ?_
  cases phase with
  | ready =>
    refine (uses_act (h.looks .cookie trivial)).bind fun cookie => ?_
    cases cookie with
    | none => trivial
    | some cookie =>
      exact (uses_act (hreply _ _)).bind fun _ => uses_control h (by decide)
  | awaitInit => exact uses_act (haccept payload)
  | awaitECDH => exact uses_disconnect_control h
  | awaitNewKeys => exact uses_disconnect_control h

theorem uses_handleNewKeys (h : p .newKeys) : handleNewKeys.Uses p :=
  (uses_act h).bind fun done => by cases done <;> trivial

section

variable (h : AllowsControl p)
include h

theorem uses_answerKEX (hfix : ∀ hash, p (.fixSessionID hash)) {clientKex serverKex : Bytes} :
    (answerKEX plane clientID payload clientKex serverKex).Uses p := by
  refine uses_field.bind fun ⟨clientPub, rest⟩ => ?_
  refine Prog.Uses.ite (fun _ => trivial) fun _ => ?_
  refine Prog.Uses.bind (uses_act (h.looks _ trivial)) fun shares => ?_
  refine uses_need.bind fun ⟨serverPub, shared⟩ => ?_
  cases clientOffersPinnedAlgorithms clientKex plane.policy with
  | some complaint => exact uses_disconnect_control h
  | none =>
    refine Prog.Uses.bind (uses_act (h.looks _ trivial)) fun hostPub => ?_
    refine uses_need.bind fun hostPub => ?_
    refine Prog.Uses.bind (uses_act (hfix _)) fun sessionID => ?_
    refine Prog.Uses.bind (uses_act (h.looks _ trivial)) fun signature => ?_
    refine uses_need.bind fun signature => (uses_control h (by decide)).bind fun _ => ?_
    refine uses_need.bind fun pendingOut => uses_need.bind fun pendingIn => ?_
    exact (uses_control h (by decide)).bind fun _ => trivial

theorem uses_handleKEX (hfix : ∀ hash, p (.fixSessionID hash))
    (hswitch : ∀ out inward, p (.switchKeys out inward)) :
    (handleKEX plane clientID payload).Uses p := by
  refine Prog.Uses.bind (uses_act (h.looks _ trivial)) fun kexInits => ?_
  refine uses_need.bind fun ⟨clientKex, serverKex⟩ => ?_
  exact (uses_answerKEX h hfix).bind fun ⟨out, inward⟩ => uses_act (hswitch out inward)

theorem uses_handleService : (handleService plane payload).Uses p := by
  refine uses_field.bind fun ⟨name, rest⟩ => ?_
  exact .ite (fun _ => uses_disconnect_control h) fun _ => uses_control h (by decide)

theorem uses_isKnownClient : (isKnownClient plane rawPub).Uses p := by
  refine Prog.Uses.bind (uses_act (h.looks _ trivial)) fun contents => ?_
  cases contents with
  | none => trivial
  | some contents =>
    dsimp only
    cases authorizedRawKeys plane.suite contents <;> trivial

theorem uses_handleGlobal : (handleGlobal plane payload).Uses p := by
  refine uses_field.bind fun ⟨name, rest⟩ => uses_field.bind fun ⟨wantReply, rest⟩ => ?_
  refine .ite (fun _ => uses_disconnect_control h) fun _ => .ite (fun _ => trivial) fun _ => ?_
  exact .ite (fun _ => uses_control h (by decide)) fun _ => uses_control h (by decide)

theorem uses_channelOpenFailure : (channelOpenFailure plane sender reason).Uses p :=
  uses_control h (by decide)

end

theorem uses_field_bind {β : Type} {next : α → ConnProg β}
    (h : ∀ value, result = some value → (next value).Uses p) : ((field result).bind next).Uses p := by
  cases result with
  | none => trivial
  | some value => exact h value rfl

theorem uses_handleChannelOpen (h : AllowsControl p)
    (hconnect : ∀ sender window maxPkt destination, window < 2 ^ 32 → maxPkt ≠ 0 →
      (connectChannel plane sender window maxPkt destination).Uses p) :
    (handleChannelOpen plane payload).Uses p := by
  refine Prog.Uses.bind (uses_act (h.looks _ trivial)) fun authed => ?_
  refine .ite (fun _ => uses_disconnect_control h) fun _ => ?_
  refine uses_field.bind fun ⟨name, rest⟩ => uses_field.bind fun ⟨sender, rest⟩ => ?_
  refine uses_field_bind fun ⟨window, rest⟩ hwindow => uses_field.bind fun ⟨maxPkt, rest⟩ => ?_
  refine .ite (fun _ => uses_channelOpenFailure h) fun hzero => ?_
  refine .ite (fun _ => uses_channelOpenFailure h) fun _ => ?_
  refine uses_field.bind fun ⟨host, rest⟩ => uses_field.bind fun ⟨port, rest⟩ => ?_
  refine .ite (fun _ => uses_channelOpenFailure h) fun _ => ?_
  refine uses_field.bind fun ⟨_, rest⟩ => uses_field.bind fun ⟨origPort, rest⟩ => ?_
  refine .ite (fun _ => uses_disconnect_control h) fun _ => ?_
  refine .ite (fun _ => uses_channelOpenFailure h) fun _ => ?_
  cases plane.suite.parseAddr host with
  | none => exact uses_channelOpenFailure h
  | some addr =>
    refine .ite (fun _ => uses_channelOpenFailure h) fun _ => ?_
    exact hconnect _ _ _ _ (lt_of_consumeUint32 hwindow) hzero

theorem uses_connectChannel (h : AllowsControl p) (hdial : p (.dial destination))
    (hopen : p (.openChannel sender window maxPkt))
    (hconfirm : ∀ body, p (.send (sshMsgChannelOpenConfirm :: body)))
    (hclose : ∀ localID, (closeChannel plane localID).Uses p) (hspawn : ∀ serial, p (.spawn serial)) :
    (connectChannel plane sender window maxPkt destination).Uses p := by
  refine Prog.Uses.bind (uses_act (h.looks _ trivial)) fun full => ?_
  refine .ite (fun _ => uses_channelOpenFailure h) fun _ => ?_
  refine Prog.Uses.bind (uses_act hdial) fun complaint => ?_
  cases complaint with
  | some complaint => exact uses_channelOpenFailure h
  | none =>
    refine Prog.Uses.bind (uses_act hopen) fun entry => ?_
    cases entry with
    | none => exact uses_channelOpenFailure h
    | some entry =>
      refine Prog.Uses.bind (uses_write h.rekey (hconfirm _)).attempt fun confirmed => ?_
      cases confirmed with
      | error err => exact (hclose _).bind fun _ => trivial
      | ok _ => exact uses_act (hspawn _)

theorem uses_handleChannelData (h : AllowsControl p)
    (hreceive : ∀ localID size, p (.receiveData localID size))
    (hwrite : ∀ serial data, p (.writeBackend serial data))
    (hreturn : ∀ serial n, p (.returnWindow serial n)) (hadjust : ∀ remoteID amount,
      p (.send (sshMsgChannelWindowAdjust :: uint32 remoteID ++ uint32 amount)))
    (hclose : ∀ localID, (closeChannel plane localID).Uses p) :
    (handleChannelData plane payload).Uses p := by
  refine uses_field.bind fun ⟨localID, rest⟩ => uses_field.bind fun ⟨data, _⟩ => ?_
  refine Prog.Uses.bind (uses_act (hreceive _ _)) fun reply => ?_
  cases reply with
  | unknown => trivial
  | exceeds => exact uses_disconnect_control h
  | accepted serial =>
    refine Prog.Uses.bind (uses_act (hwrite _ _)) fun written => ?_
    cases written with
    | none =>
      refine Prog.Uses.bind (uses_act (h.looks (.isClosed serial) trivial)) fun closed => ?_
      exact .ite (fun _ => trivial) fun _ => hclose localID
    | some n =>
      refine Prog.Uses.bind (uses_act (hreturn _ _)) fun adjustment => ?_
      cases adjustment with
      | none => trivial
      | some adjustment => exact uses_write h.rekey (hadjust _ _)

theorem uses_handleWindowAdjust (h : AllowsControl p)
    (hadjust : ∀ localID add, p (.adjustWindow localID add)) :
    (handleWindowAdjust plane payload).Uses p := by
  refine uses_field.bind fun ⟨localID, rest⟩ => uses_field.bind fun ⟨add, _⟩ => ?_
  refine Prog.Uses.bind (uses_act (hadjust localID add)) fun reply => ?_
  cases reply with
  | unknown => trivial
  | adjusted => trivial
  | overflow => exact uses_disconnect_control h

theorem uses_handleChannelEOF (h : AllowsControl p) : (handleChannelEOF payload).Uses p := by
  refine uses_field.bind fun ⟨localID, _⟩ => ?_
  refine Prog.Uses.bind (uses_act (h.looks _ trivial)) fun found => ?_
  cases found with
  | none => trivial
  | some remoteID => exact uses_act (h.looks _ trivial)

theorem uses_handleChannelClose (hclose : ∀ localID, (closeChannel plane localID).Uses p) :
    (handleChannelClose plane payload).Uses p :=
  uses_field.bind fun ⟨localID, _⟩ => hclose localID

theorem uses_handleChannelRequest (h : AllowsControl p)
    (hfailure : ∀ remoteID, p (.send (sshMsgChannelFailure :: uint32 remoteID))) :
    (handleChannelRequest plane payload).Uses p := by
  refine uses_field.bind fun ⟨localID, rest⟩ => uses_field.bind fun ⟨_, rest⟩ => ?_
  refine uses_field.bind fun ⟨wantReply, _⟩ => .ite (fun _ => trivial) fun _ => ?_
  refine Prog.Uses.bind (uses_act (h.looks _ trivial)) fun found => ?_
  cases found with
  | none => trivial
  | some remoteID => exact uses_write h.rekey (hfailure remoteID)

/-! ## The whole loop -/

section

variable {process : ConnProcess} (hrun : Run (connMachine plane) Forks (Config.idle { input }) c)
  (hnext : c.upcoming 0 = some (process, action))
include hrun hnext

end

theorem Addr.unmap_unmap (addr : Addr) : addr.unmap.unmap = addr.unmap := by
  cases addr with
  | v4 bits => rfl
  | v6 bits zone =>
    by_cases hmapped : bits.toNat / 2 ^ 32 = 0xffff
    · have heq : (Addr.v6 bits zone).unmap = .v4 (BitVec.ofNat 32 bits.toNat) := if_pos hmapped
      rw [heq]
      rfl
    · have heq : (Addr.v6 bits zone).unmap = .v6 bits zone := if_neg hmapped
      rw [heq, heq]

section

variable {α : Type} {P : Protocol (connMachine plane)} {pid : ℕ} {call : ConnCall}
  {I J : List ConnStep → Conn → Prop} {hist : List ConnStep} {conn : Conn}

theorem yields_field (h : I hist conn) :
    Yields P pid call (field result) hist conn fun value hist conn =>
      result = some value ∧ I hist conn := by
  cases result with
  | none => exact yields_fail
  | some value => exact yields_done ⟨rfl, h⟩

/-- The number of the client, the window and the packet size in a CHANNEL_OPEN. -/
def openFields (payload : Bytes) : Option (Nat × Nat × Nat) := do
  let (_, rest) ← consumeString (payload.drop 1)
  let (sender, rest) ← consumeUint32 rest
  let (window, rest) ← consumeUint32 rest
  let (maxPkt, _) ← consumeUint32 rest
  some (sender, window, maxPkt)

/-- A channel is connected only after the client is known, to a destination of the policy, and
with the numbers of the message, of which the packet size is not zero. -/
theorem yields_handleChannelOpen {payload : Bytes} (hcontrol : AllowsControl p)
    (hplain : ∀ {hist conn} {program : ConnProg Unit}, program.Uses p → I hist conn →
      Yields P pid call program hist conn fun _ => I)
    (hauthed : Yields P pid call (act .readAuthed) hist conn fun authed hist conn =>
      I hist conn ∧ (authed = true → J hist conn))
    (hkeep : ∀ {hist conn}, J hist conn → I hist conn)
    (hconnect : ∀ {sender window maxPkt destination hist conn},
      openFields payload = some (sender, window, maxPkt) → window < 2 ^ 32 → maxPkt < 2 ^ 32 →
      maxPkt ≠ 0 → destination = plane.policy.target ∨ destination = plane.policy.management →
      J hist conn →
      Yields P pid call (connectChannel plane sender window maxPkt destination) hist conn
        fun _ => I) : Yields P pid call (handleChannelOpen plane payload) hist conn fun _ => I := by
  have hrefuse : ∀ {hist conn sender reason}, J hist conn →
      Yields P pid call (channelOpenFailure plane sender reason) hist conn fun _ => I :=
    fun h => hplain (uses_channelOpenFailure hcontrol) (hkeep h)
  have hend : ∀ {hist conn reason}, I hist conn →
      Yields P pid call (disconnect plane reason) hist conn fun _ => I :=
    fun h => hplain (uses_disconnect_control hcontrol) h
  refine Yields.bind hauthed fun authed hist conn h => ?_
  refine Yields.ite (fun _ => hend h.1) fun hknown => ?_
  have hJ : J hist conn := h.2 (by simpa using hknown)
  refine (yields_field hJ).bind fun ⟨name, rest⟩ hist conn ⟨hname, hJ⟩ => ?_
  refine (yields_field hJ).bind fun ⟨sender, rest⟩ hist conn ⟨hsender, hJ⟩ => ?_
  refine (yields_field hJ).bind fun ⟨window, rest⟩ hist conn ⟨hwindow, hJ⟩ => ?_
  refine (yields_field hJ).bind fun ⟨maxPkt, rest⟩ hist conn ⟨hmaxPkt, hJ⟩ => ?_
  refine Yields.ite (fun _ => hrefuse hJ) fun hzero => ?_
  refine Yields.ite (fun _ => hrefuse hJ) fun _ => ?_
  refine (yields_field hJ).bind fun ⟨host, rest⟩ hist conn ⟨_, hJ⟩ => ?_
  refine (yields_field hJ).bind fun ⟨port, rest⟩ hist conn ⟨_, hJ⟩ => ?_
  refine Yields.ite (fun _ => hrefuse hJ) fun _ => ?_
  refine (yields_field hJ).bind fun ⟨_, rest⟩ hist conn ⟨_, hJ⟩ => ?_
  refine (yields_field hJ).bind fun ⟨origPort, rest⟩ hist conn ⟨_, hJ⟩ => ?_
  refine Yields.ite (fun _ => hend (hkeep hJ)) fun _ => ?_
  refine Yields.ite (fun _ => hrefuse hJ) fun _ => ?_
  cases plane.suite.parseAddr host with
  | none => exact hrefuse hJ
  | some addr =>
    refine Yields.ite (fun _ => hrefuse hJ) fun hallowed => ?_
    have hdestination : allowDirectTCPIP plane.policy (addr.unmap, port) = true := by
      simpa using hallowed
    rw [allowDirectTCPIP, Addr.unmap_unmap, Bool.or_eq_true, decide_eq_true_eq,
      decide_eq_true_eq] at hdestination
    have hfields : openFields payload = some (sender, window, maxPkt) := by
      simp only [openFields, hname, hsender, hwindow, hmaxPkt, Option.bind_eq_bind, Option.bind_some]
    exact hconnect hfields (lt_of_consumeUint32 hwindow) (lt_of_consumeUint32 hmaxPkt) hzero
      hdestination hJ

end

/-! ## The loop -/

/-- The messages that move a window. Their handlers always act on them or end the connection. -/
def flowMessages : List UInt8 := [sshMsgChannelData, sshMsgChannelWindowAdjust]

/-- What is shown of the handlers so that the loop keeps `I` between two messages: one rule for
the actions of `p`, and one for each handler that may do more. A handler starts with `K` of the
message that was read, and if the input is encrypted by then, with `S`. A message that moves no
window may be skipped. -/
structure LoopRules {plane : Plane} (P : Protocol (connMachine plane)) (turns : ℕ)
    (p : ConnAction → Prop) (I : List ConnStep → Conn → Prop)
    (K S : Bytes → List ConnStep → Conn → Prop) : Prop where
  control : AllowsControl p
  sendIdentification : p .sendIdentification
  readIdentification : p .readIdentification
  setServerKex : ∀ serverKex, p (.setServerKex serverKex)
  plain : ∀ {α : Type} {program : ConnProg α} {hist conn}, program.Uses p → I hist conn →
    Yields P 0 (.serve turns) program hist conn fun _ => I
  readPacket : ∀ {hist conn}, I hist conn →
    Yields P 0 (.serve turns) (act .readPacket) hist conn fun packet hist conn =>
      ∀ payload, packet = some payload → K payload hist conn
  readClearIn : ∀ {payload hist conn}, K payload hist conn →
    Yields P 0 (.serve turns) (act .readClearIn) hist conn fun clearIn hist conn =>
      K payload hist conn ∧ (clearIn = false → S payload hist conn)
  readPhase : ∀ {payload hist conn}, S payload hist conn →
    Yields P 0 (.serve turns) (act .readPhase) hist conn fun _ => S payload
  packet : ∀ {payload hist conn}, K payload hist conn →
    (∀ message ∈ flowMessages, payload.head? ≠ some message) → I hist conn
  secure : ∀ {payload hist conn}, S payload hist conn → K payload hist conn
  ends : ∀ {payload reason hist conn}, K payload hist conn →
    Yields P 0 (.serve turns) (disconnect plane reason : ConnProg Unit) hist conn fun _ => I
  kexInit : ∀ {payload hist conn}, K payload hist conn → payload.head? = some sshMsgKexInit →
    Yields P 0 (.serve turns) (handleKexInit plane payload) hist conn fun _ => I
  kex : ∀ {clientID payload hist conn}, K payload hist conn →
    payload.head? = some sshMsgKexECDHInit →
    Yields P 0 (.serve turns) (handleKEX plane clientID payload) hist conn fun _ => I
  newKeys : ∀ {payload hist conn}, K payload hist conn → payload.head? = some sshMsgNewKeys →
    Yields P 0 (.serve turns) handleNewKeys hist conn fun _ => I
  userauth : ∀ {payload hist conn}, S payload hist conn → payload.head? = some sshMsgUserauthRequest →
    Yields P 0 (.serve turns) (handleUserauthRequest plane payload) hist conn fun _ => I
  channelOpen : ∀ {payload hist conn}, S payload hist conn → payload.head? = some sshMsgChannelOpen →
    Yields P 0 (.serve turns) (handleChannelOpen plane payload) hist conn fun _ => I
  channelData : ∀ {payload hist conn}, S payload hist conn → payload.head? = some sshMsgChannelData →
    Yields P 0 (.serve turns) (handleChannelData plane payload) hist conn fun _ => I
  windowAdjust : ∀ {payload hist conn}, S payload hist conn → payload.head? = some sshMsgChannelWindowAdjust →
    Yields P 0 (.serve turns) (handleWindowAdjust plane payload) hist conn fun _ => I
  channelClose : ∀ {payload hist conn}, S payload hist conn → payload.head? = some sshMsgChannelClose →
    Yields P 0 (.serve turns) (handleChannelClose plane payload) hist conn fun _ => I
  channelRequest : ∀ {payload hist conn}, S payload hist conn →
    (∀ message ∈ flowMessages, payload.head? ≠ some message) →
    Yields P 0 (.serve turns) (handleChannelRequest plane payload) hist conn fun _ => I

namespace LoopRules

variable {plane : Plane} {P : Protocol (connMachine plane)} {turns : ℕ} {p : ConnAction → Prop}
  {I : List ConnStep → Conn → Prop} {K S : Bytes → List ConnStep → Conn → Prop}
  {hist : List ConnStep} {conn : Conn} {payload clientID : Bytes}

variable (h : LoopRules P turns p I K S)
include h

/-- A message is skipped by its number. -/
theorem skips {message : UInt8} (hhead : payload.head? = some message)
    (hother : message ∉ flowMessages) (hK : K payload hist conn) : I hist conn := by
  refine h.packet hK fun other hmem heq => ?_
  rw [hhead, Option.some.injEq] at heq
  exact hother (heq ▸ hmem)

theorem dispatchSecure {message : UInt8} (hhead : payload.head? = some message)
    (hK : K payload hist conn) :
    Yields P 0 (.serve turns) (dispatchSecure plane message payload) hist conn fun _ => I := by
  refine Yields.bind (h.readClearIn hK) fun clearIn hist conn ⟨hK, hsecure⟩ => ?_
  refine Yields.ite (fun _ => h.ends hK) fun hclear => ?_
  refine Yields.bind (h.readPhase (hsecure (by simpa using hclear))) fun phase hist conn hS => ?_
  have hI : message ∉ flowMessages → I hist conn := fun hother => h.skips hhead hother (h.secure hS)
  refine Yields.ite (fun _ => h.ends (h.secure hS)) fun _ => ?_
  refine Yields.ite (fun heq => h.plain (uses_handleService h.control) (hI (by simp [heq]; decide)))
    fun _ => ?_
  refine Yields.ite (fun heq => h.userauth hS (heq ▸ hhead)) fun _ => ?_
  refine Yields.ite (fun heq => h.plain (uses_handleGlobal h.control) (hI (by simp [heq]; decide)))
    fun _ => ?_
  refine Yields.ite (fun heq => h.channelOpen hS (heq ▸ hhead)) fun _ => ?_
  refine Yields.ite (fun heq => h.channelData hS (heq ▸ hhead)) fun hdata => ?_
  refine Yields.ite (fun heq => h.windowAdjust hS (heq ▸ hhead)) fun hadjust => ?_
  refine Yields.ite (fun heq => h.plain (uses_handleChannelEOF h.control)
    (hI (by simp [heq]; decide))) fun _ => ?_
  refine Yields.ite (fun heq => h.channelClose hS (heq ▸ hhead)) fun _ => ?_
  refine h.channelRequest hS fun other hmem heq => ?_
  rw [hhead, Option.some.injEq] at heq
  subst heq
  simp only [flowMessages, List.mem_cons, List.not_mem_nil, or_false] at hmem
  exact hmem.elim hdata hadjust

theorem dispatch {message : UInt8} (hhead : payload.head? = some message)
    (hK : K payload hist conn) :
    Yields P 0 (.serve turns) (dispatch plane clientID message payload) hist conn fun _ => I := by
  refine Yields.ite (fun heq => h.kexInit hK (heq ▸ hhead)) fun _ => ?_
  refine Yields.ite (fun heq => h.kex hK (heq ▸ hhead)) fun _ => ?_
  refine Yields.ite (fun heq => h.newKeys hK (heq ▸ hhead)) fun _ => ?_
  refine Yields.ite (fun hskipped => ?_) fun _ => ?_
  · have hother : message ∉ flowMessages := by
      rintro hmem
      simp only [flowMessages, List.mem_cons, List.not_mem_nil, or_false] at hmem
      rcases hmem with rfl | rfl <;> cases hskipped
    refine Yields.bind (h.plain (uses_act (h.control.looks _ trivial)) (h.skips hhead hother hK))
      fun initial hist conn hI => ?_
    exact Yields.ite (fun _ => h.plain (uses_disconnect_control h.control) hI) fun _ => yields_done hI
  refine Yields.ite (fun _ => h.dispatchSecure hhead hK) fun _ => ?_
  refine Yields.ite (fun heq => yields_done (h.skips hhead ?_ hK)) fun _ => h.ends hK
  rw [heq]
  decide

theorem handleMessage (hK : K payload hist conn) :
    Yields P 0 (.serve turns) (handleMessage plane clientID payload) hist conn fun _ => I := by
  cases payload with
  | nil => exact yields_done (h.packet hK nofun)
  | cons message rest => exact (h.dispatch rfl hK).bind fun _ _ _ hI => yields_done hI

theorem serveMessages {n : ℕ} (hI : I hist conn) :
    Yields P 0 (.serve turns) (serveMessages plane clientID n) hist conn fun _ => I := by
  induction n generalizing hist conn with
  | zero => exact yields_done hI
  | succ n ih =>
    refine Yields.bind (h.readPacket hI) fun packet hist conn hK => ?_
    cases packet with
    | none => exact yields_fail
    | some payload =>
      refine (h.handleMessage (hK payload rfl)).bind fun goesOn hist conn hI => ?_
      exact Yields.ite (fun _ => ih hI) fun _ => yields_done hI

theorem serve (hI : I hist conn) :
    Yields P 0 (.serve turns) (serve plane turns) hist conn fun _ => I := by
  refine Yields.bind (h.plain (uses_act h.sendIdentification) hI) fun sent hist conn hI => ?_
  refine Yields.ite (fun _ => yields_fail) fun _ => ?_
  refine Yields.bind (h.plain (uses_act h.readIdentification) hI) fun clientID hist conn hI => ?_
  refine (h.plain uses_need hI).bind fun clientID hist conn hI => ?_
  refine (h.plain (uses_act (h.control.looks .cookie trivial)) hI).bind fun cookie hist conn hI => ?_
  cases cookie with
  | none => exact yields_fail
  | some cookie =>
    refine (h.plain (uses_act (h.setServerKex _)) hI).bind fun _ hist conn hI => ?_
    refine (h.plain (uses_control h.control (by decide)) hI).bind fun _ hist conn hI => ?_
    exact h.serveMessages hI

end LoopRules

end WarpTweet
