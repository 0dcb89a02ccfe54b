import WarpTweet.Analysis.FirstExchange
import WarpTweet.Analysis.Footprints

/-!
# Who reaches a backend

A backend is dialed for an authenticated client only. The flag for that is set after a
signature was verified, and it stays set; whether the key was listed, whose session id was
signed and whether the session was registered has to be read off what the loop did before.

Behind the flag there is always a login: a packet with a signed request, the authorization
file with the key in it, the session id of this connection and a signature that is good for
both. When sessions are registered, the registration of that key has succeeded.
-/

namespace WarpTweet

open Strings Concurrency Wire ConnProg

/-! ## Logins -/

/-- The digest under which the sessions of a key are registered. -/
def keyDigestOf (plane : Plane) (rawPub : Bytes) : Bytes := plane.suite.sha256 (hostKeyBlob rawPub)

/-- What a login is decided from: the packet of the client with its request and signature, and
the authorization file with its keys. -/
structure Login where
  payload : Bytes
  request : UserauthRequest
  signature : Bytes
  contents : Text
  keys : List Bytes

/-- The packet asks for a login with a listed key and carries a good signature of it over the
session id. -/
structure Login.Verified (plane : Plane) (sessionID : Bytes) (login : Login) : Prop where
  request : parseUserauth login.payload = some (some login.request)
  signed : login.request.hasSig = true
  signature : parseSignature login.request.rest = some login.signature
  contents : authorizedRawKeys plane.suite login.contents = some login.keys
  listed : login.request.rawPub ∈ login.keys
  verified : plane.suite.verify login.request.rawPub (signedData sessionID login.request)
    login.signature = true

/-- The first key exchange is complete. -/
def Exchanged (hist : List ConnStep) : Prop := ∃ choice, (⟨.newKeys, choice, true⟩ : ConnStep) ∈ hist

/-- The loop has let the key in on a verified login, and has done `later` since. The file was
read right before the signature was verified, and the packet after the first key exchange. -/
def LetIn (plane : Plane) (sessionID rawPub : Bytes) (later hist : List ConnStep) : Prop :=
  ∃ (login : Login) (earlier : List ConnStep) (set read list : ConnChoice),
    login.request.rawPub = rawPub ∧ login.Verified plane sessionID ∧ Exchanged earlier ∧
    login.payload ∈ packets earlier ∧
    hist = later ++ ⟨.setAuthed (keyDigestOf plane rawPub), set, ()⟩ ::
      ⟨.readSessionID, read, sessionID⟩ :: ⟨.readAuthorizedKeys, list, some login.contents⟩ :: earlier

/-- A key was let in, and its session was registered if sessions are. -/
def Admitted (plane : Plane) (sessionID : Bytes) (hist : List ConnStep) : Prop :=
  ∃ rawPub later, LetIn plane sessionID rawPub later hist ∧
    (plane.policy.grant = true → ∃ connectionID choice,
      (⟨.register (keyDigestOf plane rawPub) connectionID, choice, true⟩ : ConnStep) ∈ later)

variable {plane : Plane} {rawPub : Bytes} {hist : List ConnStep} {step : ConnStep} {conn : Conn}

section

variable {sessionID : Bytes} {later : List ConnStep}

theorem LetIn.cons (h : LetIn plane sessionID rawPub later hist) :
    LetIn plane sessionID rawPub (step :: later) (step :: hist) := by
  obtain ⟨login, earlier, set, read, list, hraw, hverified, hexchanged, hpacket, hhist⟩ := h
  exact ⟨login, earlier, set, read, list, hraw, hverified, hexchanged, hpacket, by rw [hhist]; rfl⟩

theorem Admitted.cons (h : Admitted plane sessionID hist) : Admitted plane sessionID (step :: hist) := by
  obtain ⟨rawPub, later, hletIn, hregistered⟩ := h
  refine ⟨rawPub, step :: later, hletIn.cons, fun hgrant => ?_⟩
  obtain ⟨connectionID, choice, hmem⟩ := hregistered hgrant
  exact ⟨connectionID, choice, List.mem_cons_of_mem _ hmem⟩

theorem Exchanged.cons (h : Exchanged hist) : Exchanged (step :: hist) := by
  obtain ⟨choice, hmem⟩ := h
  exact ⟨choice, List.mem_cons_of_mem _ hmem⟩

theorem mem_packets_cons {payload : Bytes} (h : payload ∈ packets hist) :
    payload ∈ packets (step :: hist) := by
  cases hstep : packetOf step with
  | none => rwa [packets_cons hstep]
  | some other =>
    rw [packets_cons_some hstep, List.mem_append]
    exact .inl h

end

/-! ## The invariant -/

/-- What the flags of a connection mean. -/
structure Known (plane : Plane) (hist : List ConnStep) (conn : Conn) : Prop where
  admitted : conn.authed = true → Admitted plane conn.sessionID hist
  authed : conn.authed = true → conn.clearIn = false
  exchanged : conn.clearIn = false → Exchanged hist
  session : conn.clearIn = false ∨ conn.pendingIn.isSome = true → conn.sessionID ≠ []

/-- A packet was read. -/
def KnownPacket (plane : Plane) (payload : Bytes) (hist : List ConnStep) (conn : Conn) : Prop :=
  Known plane hist conn ∧ payload ∈ packets hist

/-- A packet was read, and the input was encrypted by then. -/
def KnownSecure (plane : Plane) (payload : Bytes) (hist : List ConnStep) (conn : Conn) : Prop :=
  Known plane hist conn ∧ payload ∈ packets hist ∧ conn.clearIn = false

/-- A backend is dialed for a client that was admitted, at an address of the policy. -/
def DialGuard (plane : Plane) (hist : List ConnStep) (action : ConnAction) (conn : Conn) : Prop :=
  ∀ destination, action = .dial destination → conn.clearIn = false ∧ conn.sessionID ≠ [] ∧
    Admitted plane conn.sessionID hist ∧
    (destination = plane.policy.target ∨ destination = plane.policy.management)

/-- The part of a connection that says who its client is. -/
structure SameClient (conn conn' : Conn) : Prop where
  authed : conn'.authed = conn.authed
  clearIn : conn'.clearIn = conn.clearIn
  pendingIn : conn'.pendingIn = conn.pendingIn
  sessionID : conn'.sessionID = conn.sessionID

/-- The actions that leave that part alone, and dial nothing. -/
def ConnAction.KeepsClient : ConnAction → Prop
  | .fixSessionID _ | .switchKeys _ _ | .newKeys | .setAuthed _ | .dial _ => False
  | _ => True

section

variable {action : ConnAction} {choice : ConnChoice} {conn' : Conn} {reply : action.Reply}

theorem sameClient_of_keepsReader (h : KeepsReader conn conn') : SameClient conn conn' :=
  ⟨h.authed, h.clearIn, (congrArg Conn.pendingIn h.own :), h.sessionID⟩

theorem sameClient_of_keepsClient (haction : action.KeepsClient)
    (h : performConn plane action choice conn = some (reply, conn')) : SameClient conn conn' := by
  cases action with
  | fixSessionID | switchKeys | newKeys | setAuthed | dial => exact haction.elim
  | send payload =>
    rcases sendPacket_cases (Option.some.inj h) with ⟨-, rfl⟩ |
      ⟨-, -, -, _, _, _, _, -, -, -, -, rfl⟩ | ⟨-, _, -, -, rfl⟩ <;> exact ⟨rfl, rfl, rfl, rfl⟩
  | _ =>
    simp only [performConn] at h
    repeat' split at h
    all_goals cases h
    all_goals exact ⟨rfl, rfl, rfl, rfl⟩

theorem Known.of_same (h : Known plane hist conn) (hsame : SameClient conn conn') :
    Known plane hist conn' := by
  refine ⟨?_, ?_, ?_, ?_⟩
  · rw [hsame.authed, hsame.sessionID]
    exact h.admitted
  · rw [hsame.authed, hsame.clearIn]
    exact h.authed
  · rw [hsame.clearIn]
    exact h.exchanged
  · rw [hsame.clearIn, hsame.pendingIn, hsame.sessionID]
    exact h.session

theorem Known.cons (h : Known plane hist conn) : Known plane (step :: hist) conn :=
  ⟨fun hauthed => (h.admitted hauthed).cons, h.authed, fun hclear => (h.exchanged hclear).cons,
    h.session⟩

theorem dialGuard_of_ne (haction : ∀ destination, action ≠ .dial destination) :
    DialGuard plane hist action conn :=
  fun destination heq => absurd heq (haction destination)

end

/-! ## The handlers -/

/-- A part of the loop, under the guard of dials. -/
abbrev ClientYields (plane : Plane) (turns : ℕ) {α : Type} (program : ConnProg α)
    (hist : List ConnStep) (conn : Conn) (Q : α → List ConnStep → Conn → Prop) : Prop :=
  ReaderYields plane (DialGuard plane) turns program hist conn Q

theorem allowsControl_keepsClient : AllowsControl ConnAction.KeepsClient := by
  refine ⟨?_, fun _ => trivial, fun _ _ => trivial⟩
  intro action haction
  cases action with
  | fixSessionID | switchKeys | newKeys | setAuthed | dial => exact haction.elim
  | _ => trivial

variable {clientID : Bytes}

section

variable {α : Type} {turns : ℕ} {payload : Bytes} {program : ConnProg α}

theorem client_of_uses {I : List ConnStep → Conn → Prop}
    (huses : program.Uses ConnAction.KeepsClient) (h : I hist conn)
    (hsame : ∀ {hist conn conn'}, SameClient conn conn' → I hist conn → I hist conn')
    (hcons : ∀ {hist step conn}, I hist conn → I (step :: hist) conn) :
    ClientYields plane turns program hist conn fun _ => I := by
  refine handles_of_uses huses h (fun hkeeps h => hsame (sameClient_of_keepsReader hkeeps) h) ?_
  intro action hist choice reply conn conn₁ haction hperform h
  refine ⟨dialGuard_of_ne ?_, hcons (hsame (sameClient_of_keepsClient haction hperform) h)⟩
  rintro destination rfl
  exact haction

theorem known_of_uses (huses : program.Uses ConnAction.KeepsClient) (h : Known plane hist conn) :
    ClientYields plane turns program hist conn fun _ => Known plane :=
  client_of_uses huses h (fun hsame h => h.of_same hsame) fun h => h.cons

theorem client_disconnect {reason : Bytes} {Q : α → List ConnStep → Conn → Prop} :
    ClientYields plane turns (disconnect plane reason : ConnProg α) hist conn Q := by
  have hwrite : (write plane (marshalDisconnect reason)).attempt.Uses ConnAction.KeepsClient :=
    (uses_write allowsControl_keepsClient.rekey trivial).attempt
  refine Yields.bind (client_of_uses (I := fun _ _ => True) hwrite trivial (fun _ _ => trivial)
    fun _ => trivial) fun _ _ _ _ => yields_fail

theorem client_fixSessionID {hash : Bytes} (hhash : hash ≠ []) (h : Known plane hist conn) :
    ClientYields plane turns (act (.fixSessionID hash)) hist conn fun _ hist conn =>
      Known plane hist conn ∧ conn.sessionID ≠ [] := by
  refine handles_act fun conn₁ hkeeps choice reply conn₂ hperform => ?_
  have hknown := h.of_same (sameClient_of_keepsReader hkeeps)
  refine ⟨dialGuard_of_ne (by simp), ?_⟩
  simp only [performConn, Option.some.injEq, Prod.mk.injEq] at hperform
  obtain ⟨-, rfl⟩ := hperform
  by_cases hempty : conn₁.sessionID = []
  · have hclear : ¬ conn₁.clearIn = false := fun hclear => hknown.session (.inl hclear) hempty
    rw [hempty]
    refine ⟨⟨fun hauthed => absurd (hknown.authed hauthed) hclear,
      fun hauthed => absurd (hknown.authed hauthed) hclear, fun hsealed => absurd hsealed hclear,
      fun _ => hhash⟩, hhash⟩
  · have hsame : (if conn₁.sessionID.isEmpty = true then hash else conn₁.sessionID) =
        conn₁.sessionID := if_neg (by simpa using hempty)
    rw [hsame]
    exact ⟨hknown.cons, hempty⟩

theorem fixed_of_uses (huses : program.Uses ConnAction.KeepsClient)
    (h : Known plane hist conn ∧ conn.sessionID ≠ []) :
    ClientYields plane turns program hist conn fun _ hist conn =>
      Known plane hist conn ∧ conn.sessionID ≠ [] := by
  refine client_of_uses (I := fun hist conn => Known plane hist conn ∧ conn.sessionID ≠ []) huses h
    (fun hsame h => ⟨h.1.of_same hsame, ?_⟩) fun h => ⟨h.1.cons, h.2⟩
  rw [hsame.sessionID]
  exact h.2

theorem client_answerKEX {clientKex serverKex : Bytes} (h : Known plane hist conn) :
    ClientYields plane turns (answerKEX plane clientID payload clientKex serverKex) hist conn
      fun _ hist conn => Known plane hist conn ∧ conn.sessionID ≠ [] := by
  have hcontrol := allowsControl_keepsClient
  refine (known_of_uses uses_field h).bind fun ⟨clientPub, rest⟩ hist conn h => ?_
  refine Yields.ite (fun _ => yields_fail) fun _ => ?_
  refine Yields.bind (known_of_uses (uses_act (hcontrol.looks _ trivial)) h) fun shares hist conn h => ?_
  refine (known_of_uses uses_need h).bind fun ⟨serverPub, shared⟩ hist conn h => ?_
  cases clientOffersPinnedAlgorithms clientKex plane.policy with
  | some complaint => exact client_disconnect
  | none =>
    refine Yields.bind (known_of_uses (uses_act (hcontrol.looks _ trivial)) h) ?_
    intro hostPub hist conn h
    refine (known_of_uses uses_need h).bind fun hostPub hist conn h => ?_
    refine Yields.bind (client_fixSessionID ?_ h) fun sessionID hist conn h => ?_
    · rw [← List.length_pos_iff, plane.suite.length_sha256]
      decide
    refine fixed_of_uses (Prog.Uses.bind (uses_act (hcontrol.looks _ trivial)) ?_) h
    intro signature
    refine uses_need.bind fun signature => (uses_control hcontrol (by decide)).bind fun _ => ?_
    refine uses_need.bind fun pendingOut => uses_need.bind fun pendingIn => ?_
    exact (uses_control hcontrol (by decide)).bind fun _ => trivial

theorem client_handleKEX (h : Known plane hist conn) :
    ClientYields plane turns (handleKEX plane clientID payload) hist conn
      fun _ => Known plane := by
  refine Yields.bind (known_of_uses (uses_act (allowsControl_keepsClient.looks _ trivial)) h) ?_
  intro kexInits hist conn h
  refine (known_of_uses uses_need h).bind fun ⟨clientKex, serverKex⟩ hist conn h => ?_
  refine (client_answerKEX h).bind fun ⟨out, inward⟩ hist conn h => ?_
  refine handles_act fun conn₁ hkeeps choice reply conn₂ hperform => ?_
  have hsame := sameClient_of_keepsReader hkeeps
  have hknown := h.1.of_same hsame
  refine ⟨dialGuard_of_ne (by simp), ?_⟩
  cases hperform
  refine ⟨fun hauthed => (hknown.admitted hauthed).cons, hknown.authed,
    fun hclear => (hknown.exchanged hclear).cons, fun _ => ?_⟩
  change conn₁.sessionID ≠ []
  rw [hsame.sessionID]
  exact h.2

theorem client_handleNewKeys (h : Known plane hist conn) :
    ClientYields plane turns handleNewKeys hist conn fun _ => Known plane := by
  refine Yields.bind (N := fun (done : Bool) => Known plane) (handles_act
    fun conn₁ hkeeps choice reply conn₂ hperform => ?_) fun done hist conn h => ?_
  · have hknown := h.of_same (sameClient_of_keepsReader hkeeps)
    refine ⟨dialGuard_of_ne (by simp), ?_⟩
    simp only [performConn] at hperform
    split at hperform
    next hpending =>
      cases hperform
      refine ⟨fun hauthed => (hknown.admitted hauthed).cons, fun _ => rfl,
        fun _ => ⟨choice, List.mem_cons_self⟩, fun _ => hknown.session (.inr hpending.2)⟩
    next =>
      cases hperform
      exact hknown.cons
  · cases done with
    | true => exact yields_done h
    | false => exact yields_fail

/-- The key is listed in the authorization file that was read last. -/
def ListedNow (plane : Plane) (payload rawPub : Bytes) (contents : Text) (keys : List Bytes)
    (hist : List ConnStep) : Prop :=
  ∃ choice earlier, hist = ⟨.readAuthorizedKeys, choice, some contents⟩ :: earlier ∧
    authorizedRawKeys plane.suite contents = some keys ∧ rawPub ∈ keys ∧ Exchanged earlier ∧
    payload ∈ packets earlier

theorem client_isKnownClient (h : KnownSecure plane payload hist conn) :
    ClientYields plane turns (isKnownClient plane rawPub) hist conn fun known hist conn =>
      Known plane hist conn ∧ conn.clearIn = false ∧ (known = true → ∃ contents keys,
        ListedNow plane payload rawPub contents keys hist) := by
  refine Yields.bind (N := fun (contents : Option Text) hist conn => Known plane hist conn ∧
    conn.clearIn = false ∧ ∃ choice earlier, hist = ⟨.readAuthorizedKeys, choice, contents⟩ :: earlier ∧
      Exchanged earlier ∧ payload ∈ packets earlier) (handles_act
    fun conn₁ hkeeps choice reply conn₂ hperform => ?_) fun contents hist conn h => ?_
  · have hsame := sameClient_of_keepsReader hkeeps
    have hknown := h.1.of_same hsame
    have hclear : conn₁.clearIn = false := hsame.clearIn.trans h.2.2
    refine ⟨dialGuard_of_ne (by simp), ?_⟩
    cases hperform
    exact ⟨hknown.cons, hclear, choice, hist, rfl, hknown.exchanged hclear, h.2.1⟩
  · obtain ⟨hknown, hclear, choice, earlier, hhist, hexchanged, hpacket⟩ := h
    cases contents with
    | none => exact yields_done ⟨hknown, hclear, fun hfalse => by cases hfalse⟩
    | some contents =>
      dsimp only
      cases hkeys : authorizedRawKeys plane.suite contents with
      | none => exact yields_done ⟨hknown, hclear, fun hfalse => by cases hfalse⟩
      | some keys =>
        refine yields_done ⟨hknown, hclear, fun hlisted => ⟨contents, keys, choice, earlier, hhist,
          hkeys, ?_, hexchanged, hpacket⟩⟩
        simpa using hlisted

/-- A verified key is let in, and its session is not registered yet. -/
def Adopting (plane : Plane) (rawPub : Bytes) (hist : List ConnStep) (conn : Conn) : Prop :=
  conn.clearIn = false ∧ conn.sessionID ≠ [] ∧ Exchanged hist ∧
    ∃ later, LetIn plane conn.sessionID rawPub later hist

/-- The signature of a login was verified. -/
def Verifying (plane : Plane) (rawPub : Bytes) (hist : List ConnStep) (conn : Conn) : Prop :=
  Known plane hist conn ∧ conn.clearIn = false ∧
    ∃ (login : Login) (earlier : List ConnStep) (read list : ConnChoice),
      login.request.rawPub = rawPub ∧ login.Verified plane conn.sessionID ∧ Exchanged earlier ∧
      login.payload ∈ packets earlier ∧
      hist = ⟨.readSessionID, read, conn.sessionID⟩ ::
        ⟨.readAuthorizedKeys, list, some login.contents⟩ :: earlier

theorem Adopting.of_same {conn' : Conn} (h : Adopting plane rawPub hist conn)
    (hsame : SameClient conn conn') : Adopting plane rawPub hist conn' := by
  unfold Adopting
  rw [hsame.clearIn, hsame.sessionID]
  exact h

theorem Adopting.cons {step : ConnStep} (h : Adopting plane rawPub hist conn) :
    Adopting plane rawPub (step :: hist) conn := by
  obtain ⟨hclear, hsession, hexchanged, later, hletIn⟩ := h
  exact ⟨hclear, hsession, hexchanged.cons, step :: later, hletIn.cons⟩

theorem adopting_of_uses (huses : program.Uses ConnAction.KeepsClient)
    (h : Adopting plane rawPub hist conn) :
    ClientYields plane turns program hist conn fun _ => Adopting plane rawPub :=
  client_of_uses huses h (fun hsame h => h.of_same hsame) fun h => h.cons

theorem client_setAuthed (h : Verifying plane rawPub hist conn) :
    ClientYields plane turns (act (.setAuthed (keyDigestOf plane rawPub))) hist conn
      fun _ => Adopting plane rawPub := by
  obtain ⟨hknown, hclear, login, earlier, read, list, hraw, hverified, hexchanged, hpacket, hhist⟩ := h
  refine handles_act fun conn₁ hkeeps choice reply conn₂ hperform => ?_
  have hsame := sameClient_of_keepsReader hkeeps
  refine ⟨dialGuard_of_ne (by simp), ?_⟩
  cases hperform
  unfold Adopting
  change conn₁.clearIn = false ∧ conn₁.sessionID ≠ [] ∧ Exchanged _ ∧
    ∃ later, LetIn plane conn₁.sessionID rawPub later _
  rw [hsame.clearIn, hsame.sessionID]
  refine ⟨hclear, hknown.session (.inl hclear), (hknown.exchanged hclear).cons, [], login, earlier,
    choice, read, list, hraw, hverified, hexchanged, hpacket, ?_⟩
  rw [hhist]
  rfl

theorem Adopting.known (h : Adopting plane rawPub hist conn)
    (hregistered : plane.policy.grant = true → ∃ connectionID choice earlier,
      hist = ⟨.register (keyDigestOf plane rawPub) connectionID, choice, true⟩ :: earlier ∧
        Adopting plane rawPub earlier conn) : Known plane hist conn := by
  obtain ⟨hclear, hsession, hexchanged, later, hletIn⟩ := h
  refine ⟨fun _ => ?_, fun _ => hclear, fun _ => hexchanged, fun _ => hsession⟩
  cases hgrant : plane.policy.grant with
  | false =>
    refine ⟨rawPub, later, hletIn, fun htrue => ?_⟩
    rw [hgrant] at htrue
    cases htrue
  | true =>
    obtain ⟨connectionID, choice, earlier, rfl, -, -, -, before, hletIn⟩ := hregistered hgrant
    exact ⟨rawPub, _ :: before, hletIn.cons, fun _ => ⟨connectionID, choice, List.mem_cons_self⟩⟩

theorem client_adoptKey (h : Verifying plane rawPub hist conn) :
    ClientYields plane turns (adoptKey plane rawPub) hist conn fun _ => Known plane := by
  have hcontrol := allowsControl_keepsClient
  have hanswer : (write plane [sshMsgUserauthSuccess]).Uses ConnAction.KeepsClient :=
    uses_write hcontrol.rekey trivial
  refine Yields.bind (client_setAuthed h) fun _ hist conn h => ?_
  have hnew : ConnAction.KeepsClient .newConnectionID := trivial
  refine Yields.bind (adopting_of_uses (uses_act hnew) h) fun connectionID hist conn h => ?_
  refine (adopting_of_uses uses_need h).bind fun connectionID hist conn h => ?_
  refine Yields.ite (fun _ => ?_) fun hgrant => ?_
  · refine Yields.bind (N := fun (registered : Bool) hist conn => registered = true →
      Known plane hist conn) (handles_act fun conn₁ hkeeps choice reply conn₂ hperform => ?_)
      fun registered hist conn h => ?_
    · have hregister : ConnAction.KeepsClient (.register (keyDigestOf plane rawPub) connectionID) :=
        trivial
      have hnow := h.of_same (sameClient_of_keepsReader hkeeps)
      have hafter := hnow.of_same (sameClient_of_keepsClient hregister hperform)
      refine ⟨dialGuard_of_ne (by simp), ?_⟩
      rintro rfl
      exact hafter.cons.known fun _ => ⟨connectionID, choice, hist, rfl, hafter⟩
    · cases registered with
      | false => exact client_disconnect
      | true =>
        have htrack : ConnAction.KeepsClient .track := trivial
        exact known_of_uses ((uses_act htrack).bind fun _ => hanswer) (h rfl)
  · exact known_of_uses hanswer (h.known fun htrue => absurd htrue hgrant)

theorem client_readSessionID {request : UserauthRequest} {contents : Text} {keys : List Bytes}
    (h : Known plane hist conn) (hclear : conn.clearIn = false)
    (hlisted : ListedNow plane payload request.rawPub contents keys hist) :
    ClientYields plane turns (act .readSessionID) hist conn fun sessionID hist conn =>
      Known plane hist conn ∧ ∀ signature, Login.Verified plane sessionID
        { payload, request, signature, contents, keys } → Verifying plane request.rawPub hist conn := by
  obtain ⟨list, earlier, hhist, -, -, hexchanged, hpacket⟩ := hlisted
  refine handles_act fun conn₁ hkeeps choice reply conn₂ hperform => ?_
  have hsame := sameClient_of_keepsReader hkeeps
  have hknown := h.of_same hsame
  refine ⟨dialGuard_of_ne (by simp), ?_⟩
  cases hperform
  refine ⟨hknown.cons, fun signature hverified => ?_⟩
  refine ⟨hknown.cons, hsame.clearIn.trans hclear, _, earlier, choice, list, rfl, hverified,
    hexchanged, hpacket, ?_⟩
  rw [hhist]

theorem client_handleUserauthRequest (h : KnownSecure plane payload hist conn) :
    ClientYields plane turns (handleUserauthRequest plane payload) hist conn
      fun _ => Known plane := by
  have hcontrol := allowsControl_keepsClient
  have hrefuse : (write plane userauthFailure).Uses ConnAction.KeepsClient :=
    uses_control hcontrol (by decide)
  refine (yields_field h).bind fun parsed hist conn ⟨hparsed, h⟩ => ?_
  cases parsed with
  | none => exact known_of_uses hrefuse h.1
  | some request =>
    refine Yields.bind (client_isKnownClient h) fun known hist conn ⟨h, hclear, hlisted⟩ => ?_
    refine Yields.ite (fun hknown => ?_) fun _ => known_of_uses hrefuse h
    obtain ⟨contents, keys, hlisted⟩ := hlisted hknown
    refine Yields.ite (fun _ => ?_) fun hsigned => ?_
    · exact known_of_uses (.ite (fun _ => hrefuse) fun _ => uses_control hcontrol (by decide)) h
    · cases hsignature : parseSignature request.rest with
      | none => exact known_of_uses hrefuse h
      | some signature =>
        refine Yields.bind (client_readSessionID h hclear hlisted) ?_
        rintro sessionID hist₁ conn₁ ⟨h₁, hverifying⟩
        refine Yields.ite (fun hverified => ?_) fun _ => known_of_uses hrefuse h₁
        obtain ⟨_, _, -, hkeys, hmem, -, -⟩ := hlisted
        exact client_adoptKey (hverifying signature
          ⟨hparsed, by simpa using hsigned, hsignature, hkeys, hmem, hverified⟩)

theorem client_connectChannel {sender window maxPkt : Nat} {destination : Addr × Nat}
    (hdestination : destination = plane.policy.target ∨ destination = plane.policy.management)
    (h : Known plane hist conn) (hauthed : conn.authed = true) :
    ClientYields plane turns (connectChannel plane sender window maxPkt destination) hist conn
      fun _ => Known plane := by
  have hcontrol := allowsControl_keepsClient
  have hclose : ∀ localID, (closeChannel plane localID).Uses ConnAction.KeepsClient := fun _ =>
    uses_closeChannel hcontrol.rekey trivial fun _ => trivial
  refine Yields.bind (client_of_uses (I := fun hist conn => Known plane hist conn ∧ conn.authed = true)
    (uses_act (hcontrol.looks .channelQuota trivial)) ⟨h, hauthed⟩ ?_ fun h => ⟨h.1.cons, h.2⟩) ?_
  · rintro hist conn conn' hsame ⟨h, hauthed⟩
    exact ⟨h.of_same hsame, hsame.authed.trans hauthed⟩
  rintro full hist conn ⟨h, hauthed⟩
  refine Yields.ite (fun _ => known_of_uses (uses_channelOpenFailure hcontrol) h) fun _ => ?_
  refine Yields.bind (N := fun _ => Known plane) (handles_act
    fun conn₁ hkeeps choice reply conn₂ hperform => ?_) fun complaint hist conn h => ?_
  · have hsame := sameClient_of_keepsReader hkeeps
    have hknown := h.of_same hsame
    have hauthed₁ := hsame.authed.trans hauthed
    cases hperform
    refine ⟨?_, hknown.cons⟩
    intro other heq
    cases heq
    have hclear := hknown.authed hauthed₁
    exact ⟨hclear, hknown.session (.inl hclear), hknown.admitted hauthed₁, hdestination⟩
  · refine known_of_uses ?_ h
    cases complaint with
    | some complaint => exact uses_channelOpenFailure hcontrol
    | none =>
      have hopen : ConnAction.KeepsClient (.openChannel sender window maxPkt) := trivial
      refine Prog.Uses.bind (uses_act hopen) fun entry => ?_
      cases entry with
      | none => exact uses_channelOpenFailure hcontrol
      | some entry =>
        refine Prog.Uses.bind (uses_write hcontrol.rekey trivial).attempt fun confirmed => ?_
        cases confirmed with
        | error err => exact (hclose _).bind fun _ => trivial
        | ok _ => exact uses_act trivial

theorem client_handleChannelOpen (h : Known plane hist conn) :
    ClientYields plane turns (handleChannelOpen plane payload) hist conn fun _ => Known plane := by
  refine yields_handleChannelOpen (J := fun hist conn => Known plane hist conn ∧ conn.authed = true)
    allowsControl_keepsClient known_of_uses ?_ (fun h => h.1) ?_
  · refine handles_act fun conn₁ hkeeps choice reply conn₂ hperform => ?_
    have hknown := h.of_same (sameClient_of_keepsReader hkeeps)
    refine ⟨dialGuard_of_ne (by simp), ?_⟩
    cases hperform
    exact ⟨hknown.cons, fun hauthed => ⟨hknown.cons, hauthed⟩⟩
  · rintro sender window maxPkt destination hist conn - - - - hdestination ⟨h, hauthed⟩
    exact client_connectChannel hdestination h hauthed

theorem client_readPacket (h : Known plane hist conn) :
    ClientYields plane turns (act .readPacket) hist conn fun packet hist conn =>
      ∀ payload, packet = some payload → KnownPacket plane payload hist conn := by
  have hread : ConnAction.KeepsClient .readPacket := trivial
  refine handles_act fun conn₁ hkeeps choice reply conn₂ hperform => ?_
  have hknown := (h.of_same (sameClient_of_keepsReader hkeeps)).of_same
    (sameClient_of_keepsClient hread hperform)
  refine ⟨dialGuard_of_ne (by simp), ?_⟩
  rintro payload rfl
  refine ⟨hknown.cons, ?_⟩
  have hpacket : packetOf ⟨.readPacket, choice, some payload⟩ = some payload := rfl
  rw [packets_cons_some hpacket, List.mem_append]
  exact .inr (List.mem_singleton_self payload)

theorem client_readClearIn (h : KnownPacket plane payload hist conn) :
    ClientYields plane turns (act .readClearIn) hist conn fun clearIn hist conn =>
      KnownPacket plane payload hist conn ∧
        (clearIn = false → KnownSecure plane payload hist conn) := by
  refine handles_act fun conn₁ hkeeps choice reply conn₂ hperform => ?_
  have hknown := h.1.of_same (sameClient_of_keepsReader hkeeps)
  refine ⟨dialGuard_of_ne (by simp), ?_⟩
  cases hperform
  exact ⟨⟨hknown.cons, mem_packets_cons h.2⟩,
    fun hclear => ⟨hknown.cons, mem_packets_cons h.2, hclear⟩⟩

theorem client_loop : LoopRules (readerProtocol plane (DialGuard plane)) turns
    ConnAction.KeepsClient (Known plane) (KnownPacket plane) (KnownSecure plane) where
  control := allowsControl_keepsClient
  sendIdentification := trivial
  readIdentification := trivial
  setServerKex _ := trivial
  plain := known_of_uses
  readPacket := client_readPacket
  readClearIn := client_readClearIn
  readPhase h := by
    refine client_of_uses (uses_act (allowsControl_keepsClient.looks .readPhase trivial)) h ?_ ?_
    · rintro hist conn conn' hsame ⟨h, hpacket, hclear⟩
      exact ⟨h.of_same hsame, hpacket, hsame.clearIn.trans hclear⟩
    · rintro hist step conn ⟨h, hpacket, hclear⟩
      exact ⟨h.cons, mem_packets_cons hpacket, hclear⟩
  packet h _ := h.1
  secure h := ⟨h.1, h.2.1⟩
  ends h := known_of_uses (uses_disconnect_control allowsControl_keepsClient) h.1
  kexInit h _ := known_of_uses (uses_handleKexInit allowsControl_keepsClient (fun _ _ => trivial)
    fun _ => trivial) h.1
  kex h _ := client_handleKEX h.1
  newKeys h _ := client_handleNewKeys h.1
  userauth h _ := client_handleUserauthRequest h
  channelOpen h _ := client_handleChannelOpen h.1
  channelData h _ := known_of_uses (uses_handleChannelData allowsControl_keepsClient
    (fun _ _ => trivial) (fun _ _ => trivial) (fun _ _ => trivial) (fun _ _ => trivial) fun _ =>
      uses_closeChannel allowsControl_keepsClient.rekey trivial fun _ => trivial) h.1
  windowAdjust h _ := known_of_uses (uses_handleWindowAdjust allowsControl_keepsClient
    fun _ _ => trivial) h.1
  channelClose h _ := known_of_uses (uses_handleChannelClose fun _ =>
    uses_closeChannel allowsControl_keepsClient.rekey trivial fun _ => trivial) h.1
  channelRequest h _ := known_of_uses (uses_handleChannelRequest allowsControl_keepsClient
    fun _ => trivial) h.1

end

/-! ## Runs -/

theorem dialGuarded_of_run {plane : Plane} {input : Bytes} {c : ConnPool}
    (hrun : Run (connMachine plane) Forks (Config.idle { input }) c) :
    PoolGuarded (readerProtocol plane (DialGuard plane)) c := by
  refine (Reliance.guarded_of_run (J := Known plane []) (I := fun _ _ => True) hrun
    (fun _ _ h => h) (fun _ _ _ _ => trivial) trivial (fun _ _ _ _ => trivial) ?_
    (fun hkeeps h => h.of_same (sameClient_of_keepsReader hkeeps)) (fun _ _ _ => trivial) ?_).2
  · refine ⟨?_, ?_, ?_, ?_⟩
    · intro hauthed
      cases hauthed
    · intro hauthed
      cases hauthed
    · intro hclear
      cases hclear
    · rintro (hclear | hpending)
      · cases hclear
      · cases hpending
  · intro turns conn h
    refine Reliance.ensures_serveConnection ((client_loop.serve h).mono fun _ _ _ _ _ => trivial)
      fun _ _ => Reliance.ensures_cleanup ?_ fun _ _ _ => trivial
    intro action hist conn haction
    refine dialGuard_of_ne ?_
    rintro destination rfl
    exact haction

/-- **Backends are reached with proven authority.** In every run, a goroutine that is about to
dial is the reader loop, after the first key exchange; the loop has read, after that exchange, a
packet with a login request, the key of the request was in the authorization file that it read
then, the signature was good for the key and the session id of this connection, and if sessions
are registered, the registration of the key has succeeded since. The address is the target of
the policy or the management endpoint. -/
theorem dial_admitted {plane : Plane} {input : Bytes} {c : ConnPool} {pid : ℕ}
    {process : ConnProcess}
    {destination : Addr × Nat} (hrun : Run (connMachine plane) Forks (Config.idle { input }) c)
    (hnext : c.upcoming pid = some (process, .dial destination)) :
    pid = 0 ∧ c.state.initialKEX = false ∧ c.state.sessionID ≠ [] ∧
      Admitted plane c.state.sessionID process.hist ∧
      (destination = plane.policy.target ∨ destination = plane.policy.management) := by
  obtain ⟨hp, rest, hprog⟩ := Config.upcoming_eq_some hnext
  have hperform : (connMachine plane).perform pid (.dial destination) {} c.state =
      some (none, c.state) := rfl
  have hguard := (dialGuarded_of_run hrun).guard hp hprog trivial hperform
  by_cases hpid : pid = 0
  · have hdial : DialGuard plane process.hist (.dial destination) c.state := by
      simpa only [Reliance.protocol, if_pos hpid] using hguard
    obtain ⟨hclear, hsession, hadmitted, hdestination⟩ := hdial destination rfl
    rw [clearIn_of_run hrun] at hclear
    exact ⟨hpid, hclear, hsession, hadmitted, hdestination⟩
  · have hforwarder : ConnAction.OfForwarder (.dial destination) := by
      simpa only [Reliance.protocol, if_neg hpid] using hguard
    exact hforwarder.elim

/-- A client with a listed key opens a channel, and the target is about to be dialed. -/
theorem dial_admitted_of_session :
    ∃ c process destination, Run (connMachine (Sockets.plane 0)) Forks
        (Config.idle { input := Sockets.session }) c ∧
      c.upcoming 0 = some (process, .dial destination) ∧
      Admitted (Sockets.plane 0) c.state.sessionID process.hist ∧
      (destination = (Sockets.policy 0).target ∨ destination = (Sockets.policy 0).management) := by
  obtain ⟨c, hrun, hnext⟩ := Run.exists_of_runMoves (D := Forks)
    (M := connMachine (Sockets.plane 0)) (c := Config.idle { input := Sockets.session })
    (p := fun c => (c.upcoming 0).any fun next => match next.2 with
      | .dial _ => true
      | _ => false) (.start 0 (.serve 9) :: Sockets.steps 0 34) (by decide +kernel)
  obtain ⟨⟨process, action⟩, hnext, haction⟩ := (Option.any_eq_true _ _).1 hnext
  cases action with
  | dial destination =>
    obtain ⟨-, -, -, hadmitted, hdestination⟩ := dial_admitted hrun hnext
    exact ⟨c, process, destination, hrun, hnext, hadmitted, hdestination⟩
  | _ => cases haction

end WarpTweet
