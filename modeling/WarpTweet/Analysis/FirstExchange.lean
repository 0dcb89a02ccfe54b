import WarpTweet.Analysis.Reader
import WarpTweet.Analysis.Sockets

/-!
# The first key exchange

Until the first key exchange is complete, a client may send its KEXINIT, its key share and
its NEWKEYS, in this order, and nothing else: a packet that an attacker could add in the
clear would shift the sequence numbers. The handlers keep to this. But the reader loop skips
a packet without a payload before it looks at anything else, and the reader of cleartext
packets returns such a payload when the padding takes up the whole packet.

The first exchange is exact if and only if no packet in it was empty.
-/

namespace WarpTweet

open Concurrency Wire ConnProg

variable {plane : Plane}

/-! ## The packets that were read -/

def packetOf : ConnStep → Option Bytes
  | ⟨.readPacket, _, reply⟩ => reply
  | _ => none

/-- The payloads that the steps have read, oldest first. -/
def packets (hist : List ConnStep) : List Bytes := (hist.filterMap packetOf).reverse

/-- The payloads that a connection has consumed, oldest first. -/
def received (c : ConnPool) : List Bytes := packets (c.log.map Event.toStep)

/-- The numbers of the messages among them. -/
def messages (hist : List ConnStep) : List UInt8 := (packets hist).filterMap List.head?

/-- The messages that lead to a phase of the first exchange. -/
def greetingOf : KexPhase → List UInt8
  | .awaitInit => []
  | .awaitECDH => [sshMsgKexInit]
  | .awaitNewKeys => [sshMsgKexInit, sshMsgKexECDHInit]
  | .ready => [sshMsgKexInit, sshMsgKexECDHInit, sshMsgNewKeys]

/-- While the first exchange goes on, everything is read in the clear and counted, and the
messages before the ones in `extra` are those that lead to the phase. -/
def Greeting (extra : List UInt8) (hist : List ConnStep) (conn : Conn) : Prop :=
  conn.initialKEX = true → conn.inSeq = (packets hist).length ∧ conn.clearIn = true ∧
    conn.phase ≠ .ready ∧ messages hist = greetingOf conn.phase ++ extra

/-- The first NEWKEYS takes effect after exactly the messages of an exchange. -/
def GreetingGuard (hist : List ConnStep) (action : ConnAction) (conn : Conn) : Prop :=
  action = .newKeys → conn.initialKEX = true → conn.phase = .awaitNewKeys →
    conn.inSeq = (packets hist).length ∧ messages hist = greetingOf .ready

variable {hist : List ConnStep} {plane : Plane} {conn : Conn} {extra : List UInt8}

section

variable {step : ConnStep}

theorem packets_cons (h : packetOf step = none) : packets (step :: hist) = packets hist := by
  simp [packets, h]

theorem packets_cons_some {payload : Bytes} (h : packetOf step = some payload) :
    packets (step :: hist) = packets hist ++ [payload] := by
  simp [packets, h]

end

/-! ## Actions -/

/-- Actions that neither read a packet nor move the first exchange on. -/
def ConnAction.Neutral : ConnAction → Prop
  | .readPacket | .replyKexInit _ _ | .acceptKexInit _ | .newKeys | .switchKeys _ _ => False
  | _ => True

section

variable {action : ConnAction} {choice : ConnChoice} {conn' : Conn} {reply : action.Reply}

theorem neutral_of_perform (h : performConn plane action choice conn = some (reply, conn'))
    (haction : action.Neutral) : conn'.initialKEX = conn.initialKEX ∧ conn'.inSeq = conn.inSeq ∧
      conn'.clearIn = conn.clearIn ∧ (conn.phase ≠ .ready → conn'.phase = conn.phase) := by
  cases action with
  | readPacket | replyKexInit | acceptKexInit | newKeys | switchKeys => exact haction.elim
  | send payload =>
    rcases sendPacket_cases (Option.some.inj h) with ⟨-, rfl⟩ |
      ⟨-, -, -, _, _, _, _, -, -, -, -, rfl⟩ | ⟨-, _, -, -, rfl⟩ <;>
      exact ⟨rfl, rfl, rfl, fun _ => rfl⟩
  | startRekey serverKex =>
    simp only [performConn] at h
    split at h
    next hready =>
      cases h
      exact ⟨rfl, rfl, rfl, fun hphase => absurd hready hphase⟩
    next =>
      cases h
      exact ⟨rfl, rfl, rfl, fun _ => rfl⟩
  | _ =>
    simp only [performConn] at h
    repeat' split at h
    all_goals cases h
    all_goals exact ⟨rfl, rfl, rfl, fun _ => rfl⟩

theorem initialKEX_of_perform (h : performConn plane action choice conn = some (reply, conn'))
    (hover : conn.initialKEX = false) : conn'.initialKEX = false := by
  cases action with
  | readPacket | replyKexInit | acceptKexInit | newKeys | switchKeys =>
    simp only [performConn] at h
    repeat' split at h
    all_goals cases h
    all_goals first | exact hover | rfl
  | _ => exact (neutral_of_perform h trivial).1.trans hover

theorem packetOf_of_neutral (haction : action.Neutral) :
    packetOf ⟨action, choice, reply⟩ = none := by
  cases action with
  | readPacket => exact haction.elim
  | _ => rfl

theorem Greeting.of_keepsReader (h : Greeting extra hist conn) (hkeeps : KeepsReader conn conn') :
    Greeting extra hist conn' := by
  intro hinitial
  rw [hkeeps.initialKEX] at hinitial
  obtain ⟨hseq, hclear, hphase, hmessages⟩ := h hinitial
  rw [hkeeps.inSeq, hkeeps.clearIn, hkeeps.phase_of_ne_ready hphase]
  exact ⟨hseq, hclear, hphase, hmessages⟩

theorem Greeting.of_neutral (h : Greeting extra hist conn) (haction : action.Neutral)
    (hperform : performConn plane action choice conn = some (reply, conn')) :
    Greeting extra (⟨action, choice, reply⟩ :: hist) conn' := by
  obtain ⟨hsame, hseq', hclear', hphase'⟩ := neutral_of_perform hperform haction
  intro hinitial
  rw [hsame] at hinitial
  obtain ⟨hseq, hclear, hphase, hmessages⟩ := h hinitial
  have hpackets : packets (⟨action, choice, reply⟩ :: hist) = packets hist :=
    packets_cons (packetOf_of_neutral haction)
  rw [messages, hpackets, hseq', hclear', hphase' hphase]
  exact ⟨hseq, hclear, hphase, hmessages⟩

end

/-! ## The handlers -/

theorem allowsRekey_neutral : AllowsRekey ConnAction.Neutral :=
  ⟨trivial, fun _ => trivial, fun _ _ => trivial⟩

variable {action : ConnAction} {reason input : Bytes} {message : UInt8} {c : ConnPool}

section

variable {α : Type} {turns : ℕ} {payload clientID : Bytes} {Q : α → List ConnStep → Conn → Prop}
  {program : ConnProg α}

theorem greetingGuard_of_neutral (haction : action.Neutral) : GreetingGuard hist action conn := by
  rintro rfl
  exact haction.elim

theorem greeting_neutral (huses : program.Uses ConnAction.Neutral) (h : Greeting extra hist conn) :
    ReaderYields plane GreetingGuard turns program hist conn
      fun _ => Greeting extra :=
  handles_of_uses huses h (fun hkeeps hg => hg.of_keepsReader hkeeps)
    fun haction hperform hg => ⟨greetingGuard_of_neutral haction, hg.of_neutral haction hperform⟩

theorem greeting_over (hover : conn.initialKEX = false) :
    ReaderYields plane GreetingGuard turns program hist conn
      fun _ => Greeting extra := by
  have huses : program.Uses fun _ => True := Prog.uses_always fun _ => trivial
  refine (handles_of_uses (I := fun _ conn => conn.initialKEX = false) huses hover ?_ ?_).mono ?_
  · intro _ conn conn₁ hkeeps hover
    exact hkeeps.initialKEX.trans hover
  · intro action hist choice reply conn conn₁ _ hperform hover
    refine ⟨fun _ hinitial => ?_, initialKEX_of_perform hperform hover⟩
    rw [hover] at hinitial
    cases hinitial
  · intro _ hist conn hover hinitial
    rw [hover] at hinitial
    cases hinitial

theorem greeting_disconnect (h : Greeting extra hist conn) : ReaderYields plane GreetingGuard turns
      (disconnect plane reason : ConnProg α) hist conn Q := by
  have hwrite : (write plane (marshalDisconnect reason)).Uses ConnAction.Neutral :=
    uses_write allowsRekey_neutral trivial
  exact (greeting_neutral hwrite.attempt h).bind fun _ _ _ _ => yields_fail

theorem greeting_handleKexInit (h : Greeting [sshMsgKexInit] hist conn) :
    ReaderYields plane GreetingGuard turns (handleKexInit plane payload)
      hist conn fun _ => Greeting [] := by
  cases hinitial : conn.initialKEX with
  | false => exact greeting_over hinitial
  | true =>
    refine (handles_act (Q := fun phase hist conn => conn.phase = phase ∧
      conn.initialKEX = true ∧ Greeting [sshMsgKexInit] hist conn) ?_).bind ?_
    · intro conn₁ hkeeps choice reply conn₂ hperform
      have hgreeting := h.of_keepsReader hkeeps
      have hneutral : ConnAction.Neutral .readPhase := trivial
      refine ⟨greetingGuard_of_neutral hneutral, ?_⟩
      have hnext := hgreeting.of_neutral hneutral hperform
      cases hperform
      exact ⟨rfl, hkeeps.initialKEX.trans hinitial, hnext⟩
    · rintro phase hist₁ conn₁ ⟨rfl, hinitial₁, hgreeting⟩
      cases hphase : conn₁.phase with
      | ready => exact absurd hphase (hgreeting hinitial₁).2.2.1
      | awaitECDH => exact greeting_disconnect hgreeting
      | awaitNewKeys => exact greeting_disconnect hgreeting
      | awaitInit =>
        refine handles_act ?_
        intro conn₂ hkeeps choice reply conn₃ hperform
        refine ⟨fun hnewKeys => (by cases hnewKeys), ?_⟩
        have hkept := hgreeting.of_keepsReader hkeeps
        have hphase₂ := hkeeps.phase_of_ne_ready (by simp [hphase])
        cases hperform
        intro hinitial₃
        obtain ⟨hseq, hclear, -, hmessages⟩ := hkept hinitial₃
        rw [hphase₂, hphase] at hmessages
        exact ⟨hseq, hclear, by simp, hmessages⟩

theorem greeting_handleNewKeys (h : Greeting [sshMsgNewKeys] hist conn) :
    ReaderYields plane GreetingGuard turns handleNewKeys hist conn
      fun _ => Greeting [] := by
  refine (handles_act (Q := fun done _ conn => done = true → conn.initialKEX = false) ?_).bind ?_
  · intro conn₁ hkeeps choice reply conn₂ hperform
    have hgreeting := h.of_keepsReader hkeeps
    refine ⟨fun _ hinitial hphase => ?_, fun hdone => ?_⟩
    · obtain ⟨hseq, -, -, hmessages⟩ := hgreeting hinitial
      rw [hphase] at hmessages
      exact ⟨hseq, hmessages⟩
    · have hresult : performConn plane .newKeys choice conn₁ = some (reply, conn₂) := hperform
      simp only [performConn] at hresult
      split at hresult
      · cases hresult
        rfl
      · cases hresult
        cases hdone
  · intro done hist₁ conn₁ hover
    cases done with
    | false => exact yields_fail
    | true => exact greeting_over (hover rfl)

/-- The client's KEXINIT has been read, and the answer to its key share is under way. -/
def Exchanging (hist : List ConnStep) (conn : Conn) : Prop :=
  Greeting [sshMsgKexECDHInit] hist conn ∧ conn.initialKEX = true ∧ conn.phase = .awaitECDH

theorem exchanging_neutral (huses : program.Uses ConnAction.Neutral) (h : Exchanging hist conn) :
    ReaderYields plane GreetingGuard turns program hist conn
      fun _ => Exchanging := by
  refine handles_of_uses huses h ?_ ?_
  · rintro _ conn conn₁ hkeeps ⟨hgreeting, hinitial, hphase⟩
    exact ⟨hgreeting.of_keepsReader hkeeps, hkeeps.initialKEX.trans hinitial,
      (hkeeps.phase_of_ne_ready (by simp [hphase])).trans hphase⟩
  · rintro action hist choice reply conn conn₁ haction hperform ⟨hgreeting, hinitial, hphase⟩
    obtain ⟨hsame, -, -, hphase'⟩ := neutral_of_perform hperform haction
    exact ⟨greetingGuard_of_neutral haction, hgreeting.of_neutral haction hperform,
      hsame.trans hinitial, (hphase' (by simp [hphase])).trans hphase⟩

theorem exchanging_switchKeys {out inward : ChachaDirection} (h : Exchanging hist conn) :
    ReaderYields plane GreetingGuard turns (act (.switchKeys out inward))
      hist conn fun _ => Greeting [] := by
  obtain ⟨hgreeting, hinitial, hphase⟩ := h
  refine handles_act ?_
  intro conn₁ hkeeps choice reply conn₂ hperform
  have hkept := hgreeting.of_keepsReader hkeeps
  have hphase₁ := (hkeeps.phase_of_ne_ready (by simp [hphase])).trans hphase
  refine ⟨fun hnewKeys => (by cases hnewKeys), ?_⟩
  cases hperform
  intro hinitial₁
  obtain ⟨hseq, hclear, -, hmessages⟩ := hkept hinitial₁
  rw [hphase₁] at hmessages
  exact ⟨hseq, hclear, by simp, hmessages⟩

theorem neutral_answerKEX {clientKex serverKex : Bytes} :
    (answerKEX plane clientID payload clientKex serverKex).Uses ConnAction.Neutral := by
  have hwrite : ∀ payload, (write plane payload).Uses ConnAction.Neutral := fun _ =>
    uses_write allowsRekey_neutral trivial
  refine uses_field.bind fun ⟨clientPub, rest⟩ => ?_
  refine Prog.Uses.ite (fun _ => trivial) fun _ => ?_
  refine Prog.Uses.bind (uses_act trivial) fun shares => uses_need.bind fun ⟨serverPub, shared⟩ => ?_
  cases clientOffersPinnedAlgorithms clientKex plane.policy with
  | some complaint => exact uses_disconnect allowsRekey_neutral trivial
  | none =>
    refine Prog.Uses.bind (uses_act trivial) fun hostPub => uses_need.bind fun hostPub => ?_
    refine Prog.Uses.bind (uses_act trivial) fun sessionID => ?_
    refine Prog.Uses.bind (uses_act trivial) fun signature => uses_need.bind fun signature => ?_
    refine (hwrite _).bind fun _ => uses_need.bind fun pendingOut => ?_
    exact uses_need.bind fun pendingIn => (hwrite _).bind fun _ => trivial

theorem greeting_handleKEX (h : Greeting [sshMsgKexECDHInit] hist conn) :
    ReaderYields plane GreetingGuard turns (handleKEX plane clientID payload)
      hist conn fun _ => Greeting [] := by
  cases hinitial : conn.initialKEX with
  | false => exact greeting_over hinitial
  | true =>
    refine (handles_act (Q := fun (kexInits : Option (Bytes × Bytes)) hist conn =>
      kexInits.isSome = true → Exchanging hist conn) ?_).bind ?_
    · intro conn₁ hkeeps choice reply conn₂ hperform
      have hneutral : ConnAction.Neutral .beginKEX := trivial
      have hgreeting := (h.of_keepsReader hkeeps).of_neutral hneutral hperform
      refine ⟨greetingGuard_of_neutral hneutral, fun hsome => ?_⟩
      cases hperform
      refine ⟨hgreeting, hkeeps.initialKEX.trans hinitial, ?_⟩
      by_contra hphase
      simp [hphase] at hsome
    · intro kexInits hist₁ conn₁ hbegun
      cases kexInits with
      | none => exact yields_fail
      | some kexInits =>
        refine (exchanging_neutral neutral_answerKEX (hbegun rfl)).bind ?_
        exact fun keys hist₂ conn₂ h₂ => exchanging_switchKeys h₂

theorem greeting_dispatchSecure (h : Greeting extra hist conn) :
    ReaderYields plane GreetingGuard turns (dispatchSecure plane message payload) hist conn
      fun _ => Greeting [] := by
  cases hinitial : conn.initialKEX with
  | false => exact greeting_over hinitial
  | true =>
    refine (handles_act (Q := fun (clearIn : Bool) hist conn =>
      clearIn = true ∧ Greeting extra hist conn) ?_).bind ?_
    · intro conn₁ hkeeps choice reply conn₂ hperform
      have hneutral : ConnAction.Neutral .readClearIn := trivial
      have hkept := h.of_keepsReader hkeeps
      have hgreeting := hkept.of_neutral hneutral hperform
      cases hperform
      exact ⟨greetingGuard_of_neutral hneutral,
        (hkept (hkeeps.initialKEX.trans hinitial)).2.1, hgreeting⟩
    · rintro clearIn hist₁ conn₁ ⟨rfl, hgreeting⟩
      exact greeting_disconnect hgreeting

theorem greeting_skipped (h : Greeting extra hist conn) : ReaderYields plane GreetingGuard turns
      (do if ← act .readInitialKEX then disconnect plane reason else pure ()) hist conn
      fun _ => Greeting [] := by
  cases hinitial : conn.initialKEX with
  | false => exact greeting_over hinitial
  | true =>
    refine (handles_act (Q := fun (initial : Bool) hist conn =>
      initial = true ∧ Greeting extra hist conn) ?_).bind ?_
    · intro conn₁ hkeeps choice reply conn₂ hperform
      have hneutral : ConnAction.Neutral .readInitialKEX := trivial
      have hgreeting := (h.of_keepsReader hkeeps).of_neutral hneutral hperform
      cases hperform
      exact ⟨greetingGuard_of_neutral hneutral, hkeeps.initialKEX.trans hinitial, hgreeting⟩
    · rintro initial hist₁ conn₁ ⟨rfl, hgreeting⟩
      exact greeting_disconnect hgreeting

theorem greeting_dispatch (h : Greeting [message] hist conn)
    (hmessage : message ≠ sshMsgDisconnect) :
    ReaderYields plane GreetingGuard turns (dispatch plane clientID message payload) hist conn
      fun _ => Greeting [] := by
  refine Yields.ite (fun hkexInit => ?_) fun _ => ?_
  · subst hkexInit
    exact greeting_handleKexInit h
  refine Yields.ite (fun hecdhInit => ?_) fun _ => ?_
  · subst hecdhInit
    exact greeting_handleKEX h
  refine Yields.ite (fun hnewKeys => ?_) fun _ => ?_
  · subst hnewKeys
    exact greeting_handleNewKeys h
  refine Yields.ite (fun _ => greeting_skipped h) fun _ => ?_
  refine Yields.ite (fun _ => greeting_dispatchSecure h) fun _ => ?_
  exact Yields.ite (fun hdisconnect => absurd hdisconnect hmessage) fun _ => greeting_disconnect h

/-- One turn of the loop: it goes on only in the middle of an exact exchange, or after it. -/
theorem greeting_handleMessage (h : Greeting payload.head?.toList hist conn) :
    ReaderYields plane GreetingGuard turns (handleMessage plane clientID payload) hist conn
      fun goesOn hist conn => goesOn = true → Greeting [] hist conn := by
  cases payload with
  | nil => exact yields_done fun _ => h
  | cons message rest =>
    by_cases hmessage : message = sshMsgDisconnect
    · subst hmessage
      exact yields_done fun hgoesOn => by simp at hgoesOn
    · exact (greeting_dispatch h hmessage).bind fun _ _ _ hgreeting => yields_done fun _ => hgreeting

theorem greeting_readPacket (h : Greeting [] hist conn) :
    ReaderYields plane GreetingGuard turns (act .readPacket) hist conn
      fun payload hist conn => ∀ bytes, payload = some bytes → Greeting bytes.head?.toList hist conn := by
  refine handles_act ?_
  intro conn₁ hkeeps choice reply conn₂ hperform
  have hkept := h.of_keepsReader hkeeps
  refine ⟨fun hnewKeys => (by cases hnewKeys), ?_⟩
  rintro bytes rfl
  simp only [performConn] at hperform
  split at hperform
  next payload input _ =>
    cases hperform
    intro hinitial
    obtain ⟨hseq, hclear, hphase, hmessages⟩ := hkept hinitial
    have hpackets : packets (⟨.readPacket, choice, some bytes⟩ :: hist) = packets hist ++ [bytes] :=
      packets_cons_some rfl
    rw [messages, hpackets]
    refine ⟨?_, hclear, hphase, ?_⟩
    · simp [hseq]
    · rw [List.filterMap_append, ← messages, hmessages, List.append_nil]
      cases bytes <;> rfl
  next => cases hperform

theorem greeting_serveMessages {n : ℕ} (h : Greeting [] hist conn) :
    ReaderYields plane GreetingGuard turns (serveMessages plane clientID n) hist conn
      fun _ _ _ => True := by
  induction n generalizing hist conn with
  | zero => exact yields_done trivial
  | succ n ih =>
    refine (greeting_readPacket h).bind fun payload hist₁ conn₁ h₁ => ?_
    cases payload with
    | none => exact yields_fail
    | some payload =>
      refine (greeting_handleMessage (h₁ payload rfl)).bind fun goesOn hist₂ conn₂ h₂ => ?_
      cases goesOn with
      | true => exact ih (h₂ rfl)
      | false => exact yields_done trivial

theorem greeting_serve (h : Greeting [] hist conn) :
    ReaderYields plane GreetingGuard turns (serve plane turns) hist conn fun _ _ _ => True := by
  refine Yields.bind (greeting_neutral (uses_act trivial) h) fun sent hist₁ conn₁ h₁ => ?_
  refine Yields.ite (fun _ => yields_fail) fun _ => ?_
  refine Yields.bind (greeting_neutral (uses_act trivial) h₁) fun clientID hist₂ conn₂ h₂ => ?_
  refine (greeting_neutral uses_need h₂).bind fun clientID hist₃ conn₃ h₃ => ?_
  refine (greeting_neutral (uses_marshalKexInit trivial) h₃).bind fun serverKex hist₄ conn₄ h₄ => ?_
  refine Yields.bind (greeting_neutral (uses_act trivial) h₄) fun _ hist₅ conn₅ h₅ => ?_
  refine (greeting_neutral (uses_write allowsRekey_neutral trivial) h₅).bind ?_
  exact fun _ _ _ h₆ => greeting_serveMessages h₆

end

/-! ## Runs -/

/-- In every run, the packets that were read are those of the reader loop, and the loop
switches to encrypted input under its guard. -/
theorem greetingGuarded_of_run (hrun : Run (connMachine plane) Forks (Config.idle { input }) c) :
    received c = packets (c.history 0) ∧ PoolGuarded (readerProtocol plane GreetingGuard) c := by
  refine ⟨?_, (Reliance.guarded_of_run (J := Greeting [] []) (I := fun _ _ => True) hrun
    (fun _ _ h => h) (fun _ _ _ _ => trivial) trivial (fun _ _ _ _ => trivial)
    (fun _ => ⟨rfl, rfl, by simp, rfl⟩) (fun hkeeps h => h.of_keepsReader hkeeps)
    (fun _ _ _ => trivial) ?_).2⟩
  · have hlog := filterMap_log_of_run hrun (fun _ _ h => h) packetOf fun step hstep => ?_
    · rw [received, packets, packets, List.filterMap_map]
      exact congrArg List.reverse hlog
    · obtain ⟨action, choice, reply⟩ := step
      cases action with
      | readPacket => exact hstep.elim
      | _ => rfl
  · intro turns conn h
    refine Reliance.ensures_serveConnection ((greeting_serve h).mono fun _ _ _ _ _ => trivial)
      fun _ _ => Reliance.ensures_cleanup ?_ fun _ _ _ => trivial
    intro action hist conn haction
    refine greetingGuard_of_neutral ?_
    cases action with
    | teardownChannels | untrack | unregister | closeSocket => trivial
    | _ => exact haction.elim

theorem clearIn_of_run (hrun : Run (connMachine plane) Forks (Config.idle { input }) c) :
    c.state.clearIn = c.state.initialKEX := by
  refine hrun.log_invariant (I := fun conn _ => conn.clearIn = conn.initialKEX) rfl ?_ ?_
  · intro c pid process action rest choice reply conn _ _ _ hperform h
    have hresult : performConn plane action choice c.state = some (reply, conn) := hperform
    cases action with
    | readPacket | replyKexInit | acceptKexInit | newKeys | switchKeys =>
      simp only [performConn] at hresult
      repeat' split at hresult
      all_goals cases hresult
      all_goals first | exact h | rfl
    | _ =>
      obtain ⟨hinitial, -, hclear, -⟩ := neutral_of_perform hresult trivial
      rw [hinitial, hclear, h]
  · intro c pid _ h
    exact h

/-- The numbers of the messages are the first bytes of the payloads, unless a payload is
empty. -/
theorem heads_eq_of_filterMap {payloads : List Bytes} {heads : List UInt8}
    (h : payloads.filterMap List.head? = heads) :
    payloads.map List.head? = heads.map some ↔ ∀ payload ∈ payloads, payload ≠ [] := by
  subst h
  constructor
  · intro hheads payload hmem hempty
    have hsome : payload.head? ∈ (payloads.filterMap List.head?).map some := by
      rw [← hheads]
      exact List.mem_map_of_mem hmem
    simp [hempty] at hsome
  · intro hfull
    induction payloads with
    | nil => rfl
    | cons payload payloads ih =>
      rw [List.forall_mem_cons] at hfull
      obtain ⟨head, tail, rfl⟩ := List.exists_cons_of_ne_nil hfull.1
      simp [ih hfull.2]

theorem newKeys_of_sealed {choice : ConnChoice} {conn conn' : Conn} {reply : action.Reply}
    (h : performConn plane action choice conn = some (reply, conn')) (hclear : conn.clearIn = true)
    (hsealed : conn'.clearIn = false) : action = .newKeys ∧ conn.phase = .awaitNewKeys := by
  cases action with
  | newKeys =>
    simp only [performConn] at h
    split at h
    next hphase => exact ⟨rfl, hphase.1⟩
    next =>
      cases h
      rw [hclear] at hsealed
      cases hsealed
  | readPacket | replyKexInit | acceptKexInit | switchKeys =>
    simp only [performConn] at h
    repeat' split at h
    all_goals cases h
    all_goals
      rw [show conn.clearIn = false from hsealed] at hclear
      cases hclear
  | _ =>
    rw [(neutral_of_perform h trivial).2.2.1, hclear] at hsealed
    cases hsealed

/-- **The first exchange.** When a connection switches to encrypted input, it has consumed a
KEXINIT, a key share and a NEWKEYS and nothing else, and the number it discards is three, if
and only if none of the packets it consumed was empty. -/
theorem first_exchange_exact_iff {plane : Plane} {input : Bytes} {c c' : ConnPool} {move : ConnMove}
    (hrun : Run (connMachine plane) Forks (Config.idle { input }) c) (hforks : Forks c move)
    (hnext : c.next (connMachine plane) move = some c') (hclear : c.state.clearIn = true)
    (hsealed : c'.state.clearIn = false) :
    ((received c).map List.head? =
        [some sshMsgKexInit, some sshMsgKexECDHInit, some sshMsgNewKeys] ∧ c.state.inSeq = 3) ↔
      ∀ payload ∈ received c, payload ≠ [] := by
  obtain ⟨hreceived, hguarded⟩ := greetingGuarded_of_run hrun
  rcases Config.next_eq_some hnext with
    ⟨pid, call, rfl, -, rfl⟩ | ⟨pid, process, action, rest, choice, reply, conn, rfl, hp, hprog,
      hperform, rfl⟩ | ⟨pid, process, rfl, -, rfl⟩
  · rw [show c.state.clearIn = false from hsealed] at hclear
    cases hclear
  · obtain ⟨rfl, hphase⟩ := newKeys_of_sealed hperform hclear hsealed
    have hguard := hguarded.guard hp hprog trivial hperform
    have hpid : pid = 0 := by
      by_contra hne
      simp [Reliance.protocol, hne, ConnAction.OfForwarder] at hguard
    subst hpid
    rw [Config.history_of_procs hp] at hreceived
    have hinitial : c.state.initialKEX = true := by rw [← clearIn_of_run hrun, hclear]
    obtain ⟨hseq, hmessages⟩ : c.state.inSeq = (packets process.hist).length ∧
        messages process.hist = greetingOf .ready := hguard rfl hinitial hphase
    rw [hreceived]
    constructor
    · exact fun h => (heads_eq_of_filterMap hmessages).1 h.1
    · intro hfull
      have hheads := (heads_eq_of_filterMap hmessages).2 hfull
      refine ⟨hheads, ?_⟩
      rw [hseq, ← List.length_map, hheads]
      rfl
  · exact hforks.elim

/-- The first exchange of a client that offers strict key exchange and sends no empty packet is
exact. -/
theorem first_exchange_exact :
    ∃ c c' : ConnPool, Run (connMachine (Sockets.plane (2 ^ 29))) Forks
        (Config.idle { input := Sockets.hello }) c ∧
      c.next (connMachine (Sockets.plane (2 ^ 29))) (.advance 0 Sockets.fine) = some c' ∧
      c.state.clearIn = true ∧ c'.state.clearIn = false ∧ c.state.strictKEX = true ∧
      (received c).map List.head? =
        [some sshMsgKexInit, some sshMsgKexECDHInit, some sshMsgNewKeys] ∧ c.state.inSeq = 3 := by
  obtain ⟨c, hrun, hclear, hstrict, hfull, c', hnext, hsealed⟩ := Run.exists_of_runMoves
    (D := Forks) (M := connMachine (Sockets.plane (2 ^ 29)))
    (c := Config.idle { input := Sockets.hello })
    (p := fun c => c.state.clearIn = true ∧ c.state.strictKEX = true ∧
      (∀ payload ∈ received c, payload ≠ []) ∧
      ∃ c' ∈ c.next (connMachine (Sockets.plane (2 ^ 29))) (.advance 0 Sockets.fine),
        c'.state.clearIn = false)
    (.start 0 (.serve 9) :: Sockets.steps 0 18) (by decide +kernel)
  have hforks : Forks c (.advance 0 Sockets.fine) := trivial
  have hexact := (first_exchange_exact_iff hrun hforks hnext hclear hsealed).2 hfull
  exact ⟨c, c', hrun, hnext, hclear, hsealed, hstrict, hexact⟩

/-- A client that offers strict key exchange, with an empty packet before its KEXINIT. -/
def Sockets.padded : Bytes :=
  ascii "SSH-2.0-c\n" ++ clearFrame [] [] ++ Sockets.hello.drop 10

/-- A packet that is nothing but padding is put before the KEXINIT. The server skips it, and
the first exchange completes after four packets. -/
theorem empty_packet_slips_in :
    ∃ c c' : ConnPool, Run (connMachine (Sockets.plane (2 ^ 29))) Forks
        (Config.idle { input := Sockets.padded }) c ∧
      c.next (connMachine (Sockets.plane (2 ^ 29))) (.advance 0 Sockets.fine) = some c' ∧
      c.state.clearIn = true ∧ c'.state.clearIn = false ∧ c.state.strictKEX = true ∧
      (received c).map List.head? =
        [none, some sshMsgKexInit, some sshMsgKexECDHInit, some sshMsgNewKeys] ∧
      c.state.inSeq = 4 := by
  obtain ⟨c, hrun, hclear, hstrict, hheads, hseq, c', hnext, hsealed⟩ := Run.exists_of_runMoves
    (D := Forks) (M := connMachine (Sockets.plane (2 ^ 29)))
    (c := Config.idle { input := Sockets.padded })
    (p := fun c => c.state.clearIn = true ∧ c.state.strictKEX = true ∧
      (received c).map List.head? =
        [none, some sshMsgKexInit, some sshMsgKexECDHInit, some sshMsgNewKeys] ∧
      c.state.inSeq = 4 ∧
      ∃ c' ∈ c.next (connMachine (Sockets.plane (2 ^ 29))) (.advance 0 Sockets.fine),
        c'.state.clearIn = false)
    (.start 0 (.serve 9) :: Sockets.steps 0 19) (by decide +kernel)
  exact ⟨c, c', hrun, hnext, hclear, hsealed, hstrict, hheads, hseq⟩

end WarpTweet
