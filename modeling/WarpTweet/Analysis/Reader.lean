import WarpTweet.Analysis.Transport
import WarpTweet.Concurrency.Guarded

/-!
# The reader loop and the goroutines beside it

The forwarders and the drop of a key take few actions. They write channel messages and the
KEXINIT of a rekey, move windows, close channels, and close the socket. Everything else of a
connection belongs to the reader loop, which can rely on it between two of its actions; the
phase of the key exchange changes under its feet only when a forwarder starts a rekey.
-/

namespace WarpTweet

open Concurrency Wire ConnProg

/-- One action of a goroutine of a connection, with its outcome. -/
abbrev ConnStep := Step ConnAction ConnChoice ConnAction.Reply

/-- The actions of the goroutines beside the reader loop. -/
def ConnAction.OfForwarder : ConnAction → Prop
  | .send payload => payload.head? = some sshMsgKexInit ∨ payload.head? = some sshMsgChannelData ∨
      payload.head? = some sshMsgChannelEOF ∨ payload.head? = some sshMsgChannelClose
  | .cookie | .startRekey _ | .readBackend _ | .takeWindow _ _ | .closeChannel _ | .dropKey _ => True
  | _ => False

/-! ## Footprints -/

variable {plane : Plane}
  {α : Type} {action : ConnAction} {conn conn' : Conn} {c : ConnPool} {result : Option α}
  {payload : Bytes} {localID remoteID : Nat} {serial turns : ℕ} {plane : Plane}
  {choice : ConnChoice} {program : ConnProg α} {p : ConnAction → Prop}
  {I : List ConnStep → Conn → Prop}

section

variable {p : ConnAction → Prop}

structure AllowsRekey (p : ConnAction → Prop) : Prop where
  cookie : p .cookie
  startRekey : ∀ serverKex, p (.startRekey serverKex)
  send : ∀ serverKex, serverKex.head? = some sshMsgKexInit → p (.send serverKex)

theorem uses_act (h : p action) : (act action).Uses p :=
  Prog.uses_perform.2 h

theorem uses_need {what : String} : (need result what).Uses p := by
  cases result <;> trivial

theorem uses_field : (field result).Uses p := uses_need

theorem uses_marshalKexInit (h : p .cookie) : (marshalKexInit plane).Uses p :=
  (uses_act h).bind fun _ => uses_need.bind fun _ => trivial

theorem uses_startRekey (h : AllowsRekey p) : (startRekey plane).Uses p := by
  refine (uses_act h.cookie).bind fun cookie => ?_
  cases cookie with
  | none => trivial
  | some cookie =>
    refine (uses_act (h.startRekey _)).bind fun started => ?_
    cases started with
    | false => trivial
    | true =>
      refine (uses_act (h.send _ rfl)).bind fun reply => ?_
      cases reply <;> trivial

theorem uses_write (h : AllowsRekey p) (hsend : p (.send payload)) :
    (write plane payload).Uses p := by
  refine (uses_act hsend).bind fun reply => ?_
  cases reply with
  | failed => trivial
  | sent needRekey =>
    cases needRekey with
    | false => trivial
    | true => exact uses_startRekey h

theorem uses_disconnect (h : AllowsRekey p) {reason : Bytes}
    (hsend : p (.send (marshalDisconnect reason))) :
    (disconnect plane reason : ConnProg α).Uses p :=
  (uses_write h hsend).attempt.bind fun _ => trivial

theorem uses_closeChannel (h : AllowsRekey p) (hclose : p (.closeChannel localID))
    (hsend : ∀ remoteID, p (.send (sshMsgChannelClose :: uint32 remoteID))) :
    (closeChannel plane localID).Uses p := by
  refine (uses_act hclose).bind fun remoteID => ?_
  cases remoteID with
  | none => trivial
  | some remoteID => exact (uses_write h (hsend remoteID)).attempt.bind fun _ => trivial

theorem allowsRekey_ofForwarder : AllowsRekey ConnAction.OfForwarder :=
  ⟨trivial, fun _ => trivial, fun _ h => .inl h⟩

theorem uses_sendChannelData {n : ℕ} {data : Bytes} :
    (sendChannelData plane serial remoteID n data).Uses ConnAction.OfForwarder := by
  induction n generalizing data with
  | zero => trivial
  | succ n ih =>
    cases data with
    | nil => trivial
    | cons byte data =>
      have htake : ConnAction.OfForwarder (.takeWindow serial (byte :: data).length) := trivial
      refine (uses_act htake).bind fun chunk => ?_
      cases chunk with
      | none => trivial
      | some chunk =>
        exact (uses_write allowsRekey_ofForwarder (.inr (.inl rfl))).bind fun _ => ih

theorem uses_forwardBackend {n : ℕ} :
    (forwardBackend plane serial localID remoteID n).Uses ConnAction.OfForwarder := by
  have hclose : (closeChannel plane localID).Uses ConnAction.OfForwarder :=
    uses_closeChannel allowsRekey_ofForwarder trivial fun _ => .inr (.inr (.inr rfl))
  induction n with
  | zero => trivial
  | succ n ih =>
    have hread : ConnAction.OfForwarder (.readBackend serial) := trivial
    refine (uses_act hread).bind fun chunk => ?_
    refine uses_sendChannelData.attempt.bind fun outcome => ?_
    cases outcome with
    | error err => exact hclose
    | ok value =>
      obtain ⟨data, ends⟩ := chunk
      cases ends with
      | false => exact ih
      | true =>
        exact (uses_write allowsRekey_ofForwarder (.inr (.inr (.inl rfl)))).attempt.bind
          fun _ => hclose

end

/-! ## What the reader loop can rely on -/

/-- A connection without the parts that other goroutines change. -/
def Conn.own (conn : Conn) : Conn :=
  { conn with
    socketOpen := true
    wire := []
    phase := .ready
    outSeq := 0
    bytesOut := 0
    clientKex := none
    serverKex := []
    channels := [] }

/-- What the other goroutines leave of a connection: what belongs to the reader loop, and the
phase and the messages of a key exchange that is under way. -/
structure KeepsReader (conn conn' : Conn) : Prop where
  own : conn'.own = conn.own
  phase : conn'.phase = conn.phase ∨ conn.phase = .ready ∧ conn'.phase = .awaitInit
  kex : conn.phase ≠ .ready → conn'.serverKex = conn.serverKex ∧ conn'.clientKex = conn.clientKex

namespace KeepsReader

variable {conn conn' conn'' : Conn}

theorem refl (conn : Conn) : KeepsReader conn conn := ⟨rfl, .inl rfl, fun _ => ⟨rfl, rfl⟩⟩

section

variable (h : KeepsReader conn conn')
include h

theorem phase_of_ne_ready (hphase : conn.phase ≠ .ready) : conn'.phase = conn.phase := by
  rcases h.phase with hsame | ⟨hready, -⟩
  · exact hsame
  · exact absurd hready hphase

theorem trans (h' : KeepsReader conn' conn'') : KeepsReader conn conn'' := by
  refine ⟨h'.own.trans h.own, ?_, fun hphase => ?_⟩
  · rcases h.phase with hsame | ⟨hready, hinit⟩
    · rw [← hsame]
      exact h'.phase
    · refine .inr ⟨hready, ?_⟩
      rw [h'.phase_of_ne_ready (by simp [hinit]), hinit]
  · have hphase' : conn'.phase ≠ .ready := by rwa [h.phase_of_ne_ready hphase]
    obtain ⟨hserver, hclient⟩ := h.kex hphase
    obtain ⟨hserver', hclient'⟩ := h'.kex hphase'
    exact ⟨hserver'.trans hserver, hclient'.trans hclient⟩

theorem input : conn'.input = conn.input := (congrArg Conn.input h.own :)

theorem clearIn : conn'.clearIn = conn.clearIn :=
  (congrArg Conn.clearIn h.own :)

theorem inSeq : conn'.inSeq = conn.inSeq := (congrArg Conn.inSeq h.own :)

theorem initialKEX : conn'.initialKEX = conn.initialKEX :=
  (congrArg Conn.initialKEX h.own :)

theorem sessionID : conn'.sessionID = conn.sessionID :=
  (congrArg Conn.sessionID h.own :)

theorem authed : conn'.authed = conn.authed :=
  (congrArg Conn.authed h.own :)

end

end KeepsReader

theorem keepsReader_of_send {reply : SendReply} (hpayload : payload ≠ [sshMsgUserauthSuccess])
    (h : sendPacket plane choice payload conn = (reply, conn')) : KeepsReader conn conn' := by
  rcases sendPacket_cases h with ⟨-, rfl⟩ |
    ⟨-, -, -, length, bytesOut, loggedIn, needRekey, -, -, hlogin, -, rfl⟩ |
    ⟨-, sent, -, -, rfl⟩
  · exact .refl _
  · refine ⟨?_, .inl rfl, fun _ => ⟨rfl, rfl⟩⟩
    rw [hlogin hpayload]
    rfl
  · exact ⟨rfl, .inl rfl, fun _ => ⟨rfl, rfl⟩⟩

theorem keepsReader_of_ofForwarder {reply : action.Reply} (haction : action.OfForwarder)
    (h : performConn plane action choice conn = some (reply, conn')) : KeepsReader conn conn' := by
  cases action with
  | send payload =>
    refine keepsReader_of_send ?_ (Option.some.inj h)
    rintro rfl
    rcases haction with hhead | hhead | hhead | hhead <;> cases hhead
  | startRekey serverKex =>
    simp only [performConn] at h
    split at h
    next hready =>
      cases h
      exact ⟨rfl, .inr ⟨hready, rfl⟩, fun hphase => absurd hready hphase⟩
    next =>
      cases h
      exact .refl conn
  | cookie | readBackend | takeWindow | closeChannel | dropKey =>
    simp only [performConn] at h
    repeat' split at h
    all_goals cases h
    all_goals exact ⟨rfl, .inl rfl, fun _ => ⟨rfl, rfl⟩⟩
  | _ => exact haction.elim

/-! ## The protocol of the reader loop -/

/-- What the reader loop can rely on between two of its actions, and what may be assumed of
an action, of the outcome that the environment chooses and of the connection before it. -/
structure Reliance (plane : Plane) where
  Keeps : Conn → Conn → Prop
  Assumes : ConnAction → ConnChoice → Conn → Prop
  refl : ∀ conn, Keeps conn conn
  trans : ∀ {conn conn' conn''}, Keeps conn conn' → Keeps conn' conn'' → Keeps conn conn''
  forwards : ∀ {action choice conn conn'} {reply : action.Reply}, action.OfForwarder →
    performConn plane action choice conn = some (reply, conn') → Keeps conn conn'

/-- The protocol of a connection whose reader loop, process zero, takes its actions under
`guard`. What a goroutine has done when it returns is `ends`. -/
def Reliance.protocol {plane : Plane} (B : Reliance plane)
    (guard : List ConnStep → ConnAction → Conn → Prop) (ends : ℕ → List ConnStep → Prop) :
    Protocol (connMachine plane) where
  Rely pid conn conn' := pid = 0 → B.Keeps conn conn'
  Assume _ _ _ action choice conn := B.Assumes action choice conn
  Guard pid _ hist action _ conn := if pid = 0 then guard hist action conn else action.OfForwarder
  Ends pid _ _ hist _ := ends pid hist
  rely_refl _ conn _ := B.refl conn
  rely_trans h h' hpid := B.trans (h hpid) (h' hpid)
  guard_rely := by
    rintro pid pid' call hist action choice conn reply conn' hne hguard hperform rfl
    rw [if_neg hne.symm] at hguard
    exact B.forwards hguard hperform
  release_rely _ _ := B.refl _
  ends_rely _ h := h

variable {B : Reliance plane} {guard : List ConnStep → ConnAction → Conn → Prop}
  {ends : ℕ → List ConnStep → Prop} {turns : ℕ} {hist : List ConnStep} {conn : Conn}

/-- The reader loop, or a part of it, takes its actions under the guard. When it returns a
value, `Q` holds of the value, of what the loop has done by then and of the connection. -/
abbrev Reliance.Yields (B : Reliance plane) (guard : List ConnStep → ConnAction → Conn → Prop)
    (ends : ℕ → List ConnStep → Prop) (turns : ℕ) {α : Type} (program : ConnProg α)
    (hist : List ConnStep) (conn : Conn) (Q : α → List ConnStep → Conn → Prop) : Prop :=
  Concurrency.Yields (B.protocol guard ends) 0 (.serve turns) program hist conn Q

theorem Reliance.yields_act {Q : action.Reply → List ConnStep → Conn → Prop}
    (h : ∀ conn₁, B.Keeps conn conn₁ → ∀ choice, B.Assumes action choice conn₁ → ∀ reply conn₂,
      performConn plane action choice conn₁ = some (reply, conn₂) →
      guard hist action conn₁ ∧ Q reply (⟨action, choice, reply⟩ :: hist) conn₂) :
    B.Yields guard ends turns (act action) hist conn Q :=
  yields_perform fun conn₁ hrely choice reply conn₂ hassumes hperform =>
    h conn₁ (hrely rfl) choice hassumes reply conn₂ hperform

theorem Reliance.yields_of_uses (huses : program.Uses p) (hI : I hist conn)
    (hkeeps : ∀ {hist conn conn₁}, B.Keeps conn conn₁ → I hist conn → I hist conn₁)
    (hstep : ∀ {action hist choice reply conn conn₁}, p action → B.Assumes action choice conn →
      performConn plane action choice conn = some (reply, conn₁) → I hist conn →
      guard hist action conn ∧ I (⟨action, choice, reply⟩ :: hist) conn₁) :
    B.Yields guard ends turns program hist conn fun _ => I :=
  Concurrency.yields_of_uses huses hI (fun hrely => hkeeps (hrely rfl)) hstep

/-- If the reader loop takes its actions under the guard, every goroutine follows the
protocol. -/
theorem Reliance.ensures_of_forks {pid : ℕ} {call : ConnCall}
    (hforks : Forks c (.start pid call)) (hothers : ∀ pid hist, pid ≠ 0 → ends pid hist)
    (hserve : ∀ n, pid = 0 → Ensures (B.protocol guard ends) 0 (.serve n)
      (serveConnection plane n) [] c.state fun _ hist _ => ends 0 hist) :
    Ensures (B.protocol guard ends) pid call ((connMachine plane).program call) [] c.state
      fun _ hist _ => ends pid hist := by
  have hbeside : ∀ {program : ConnProg Unit}, pid ≠ 0 → program.Uses ConnAction.OfForwarder →
      Ensures (B.protocol guard ends) pid call program [] c.state
        fun _ hist _ => ends pid hist := by
    intro program hpid huses
    refine Ensures.mono (Ensures.of_uses (I := fun _ _ => True) huses trivial
      (fun _ _ => trivial) ?_) fun _ hist _ _ => hothers pid hist hpid
    intro action hist choice reply s s₁ haction _ _ _
    have hguard : (if pid = 0 then guard hist action s else action.OfForwarder) := by
      rwa [if_neg hpid]
    exact ⟨hguard, trivial⟩
  cases call with
  | serve n =>
    obtain rfl : pid = 0 := hforks
    exact hserve n rfl
  | forward serial localID remoteID n => exact hbeside hforks.1 uses_forwardBackend
  | drop keyDigest =>
    have haction : ConnAction.OfForwarder (.dropKey keyDigest) := trivial
    exact hbeside hforks (uses_act haction)

/-! ## Runs -/

def ConnAction.OfCleanup : ConnAction → Prop
  | .teardownChannels | .untrack | .unregister | .closeSocket => True
  | _ => False

section

variable {D : ConnPool → ConnMove → Prop}

theorem Reliance.ensures_serveConnection
    (hserve : B.Yields guard ends turns (serve plane turns) [] conn
      fun ended hist _ => ended = false → ends 0 hist)
    (hcleanup : ∀ hist conn, Ensures (B.protocol guard ends) 0 (.serve turns)
      (do act .teardownChannels; releaseConnection plane; act .closeSocket) hist conn
      fun _ hist _ => ends 0 hist) :
    Ensures (B.protocol guard ends) 0 (.serve turns) (serveConnection plane turns) [] conn
      fun _ hist _ => ends 0 hist := by
  refine ensures_bind.2 (ensures_attempt.2 (Ensures.mono hserve ?_))
  rintro (error | ended) hist conn hloop
  · exact hcleanup hist conn
  · cases ended with
    | true => exact hcleanup hist conn
    | false => exact hloop false rfl rfl

/-- The clean-up where nothing guards it. The last thing it does is to close the socket. -/
theorem Reliance.ensures_cleanup {hist : List ConnStep}
    (hclean : ∀ action hist conn, action.OfCleanup → guard hist action conn)
    (hends : ∀ choice reply hist, ends 0 (⟨.closeSocket, choice, reply⟩ :: hist)) :
    Ensures (B.protocol guard ends) 0 (.serve turns)
      (do act .teardownChannels; releaseConnection plane; act .closeSocket) hist conn
      fun _ hist _ => ends 0 hist := by
  have hlast : ∀ hist conn, Ensures (B.protocol guard ends) 0 (.serve turns) (act .closeSocket) hist
      conn fun _ hist _ => ends 0 hist :=
    fun hist conn conn₁ _ choice reply conn₂ _ _ =>
      ⟨hclean .closeSocket hist conn₁ trivial, hends choice reply hist⟩
  intro conn₁ _ choice _ conn₂ _ _
  refine ⟨hclean .teardownChannels hist conn₁ trivial, ?_⟩
  refine ensures_bind.2 ?_
  intro conn₃ _ choice _ conn₄ _ _
  refine ⟨hclean .untrack _ conn₃ trivial, ?_⟩
  cases plane.policy.grant with
  | false => exact hlast _ _
  | true =>
    intro conn₅ _ choice _ conn₆ _ _
    exact ⟨hclean .unregister _ conn₅ trivial, hlast _ _⟩

/-- In every run, the goroutines follow the protocol if the reader loop does from every world
that the others can leave it at the start. The guarded actions keep an invariant of the
connection and the log, which justifies the assumptions. -/
theorem Reliance.guarded_of_run {input : Bytes} {J : Conn → Prop} {I : Conn → ConnLog → Prop}
    (hrun : Run (connMachine plane) D (Config.idle { input }) c)
    (hforks : ∀ c move, D c move → Forks c move)
    (hassumes : ∀ {c : ConnPool} {pid process action rest choice}, I c.state c.log →
      D c (.advance pid choice) → c.procs pid = some process → process.prog = .act action rest →
      B.Assumes action choice c.state) (hI : I { input } [])
    (hstep : ∀ {pid call hist action choice conn conn' log} {reply : action.Reply},
      (if pid = 0 then guard hist action conn else action.OfForwarder) →
      B.Assumes action choice conn → performConn plane action choice conn = some (reply, conn') →
      I conn log → I conn' (⟨⟨action, choice, reply⟩, pid, call⟩ :: log))
    (hinit : J { input }) (hkeeps : ∀ {conn conn'}, B.Keeps conn conn' → J conn → J conn')
    (hothers : ∀ pid hist, pid ≠ 0 → ends pid hist)
    (hserve : ∀ turns conn, J conn → Ensures (B.protocol guard ends) 0 (.serve turns)
      (serveConnection plane turns) [] conn fun _ hist _ => ends 0 hist) :
    I c.state c.log ∧ PoolGuarded (B.protocol guard ends) c := by
  have hinvariant := hrun.invariant (P := B.protocol guard ends)
    (I := fun c => I c.state c.log ∧ (c.procs 0 = none → J c.state)) ⟨hI, fun _ => hinit⟩ ?_ ?_ ?_ ?_ ?_
  · exact ⟨hinvariant.1.1, hinvariant.2⟩
  · rintro c pid call ⟨-, hJ⟩ hD hfree
    refine Reliance.ensures_of_forks (hforks c _ hD) hothers fun turns hpid => ?_
    subst hpid
    exact hserve turns c.state (hJ hfree)
  · rintro c pid process action rest choice ⟨hI, -⟩ hD hp hprog
    exact hassumes hI hD hp hprog
  · rintro c pid call - ⟨hI, hJ⟩ - hfree
    refine ⟨hI, fun hnone => hJ ?_⟩
    by_contra hsome
    obtain ⟨process, hp⟩ := Option.ne_none_iff_exists'.1 hsome
    rw [Config.procs_started_of_some hfree hp] at hnone
    cases hnone
  · rintro c pid process action rest choice reply state - ⟨hI, hJ⟩ hD hp hprog hguard hperform -
    refine ⟨hstep hguard (hassumes hI hD hp hprog) hperform hI, fun hnone => ?_⟩
    by_cases hpid : pid = 0
    · subst hpid
      rw [Config.procs_advanced_self] at hnone
      cases hnone
    · have haction : action.OfForwarder := by
        simpa only [Reliance.protocol, if_neg hpid] using hguard
      rw [Config.procs_advanced_of_ne (Ne.symm hpid)] at hnone
      exact hkeeps (B.forwards haction hperform) (hJ hnone)
  · rintro c pid process - - hD -
    exact (hforks c _ hD).elim

theorem uses_of_forks (hforks : ∀ c move, D c move → Forks c move)
    (c : ConnPool) (pid : ℕ) (call : ConnCall) (hD : D c (.start pid call)) :
    ((connMachine plane).program call).Uses fun action => pid ≠ 0 → action.OfForwarder := by
  have hstart := hforks c _ hD
  cases call with
  | serve n =>
    obtain rfl : pid = 0 := hstart
    exact Prog.uses_always fun _ hpid => absurd rfl hpid
  | forward serial localID remoteID n => exact uses_forwardBackend.mono fun _ haction _ => haction
  | drop keyDigest => exact uses_act fun _ => trivial

theorem filterMap_log_of_run {input : Bytes} {β : Type}
    (hrun : Run (connMachine plane) D (Config.idle { input }) c)
    (hforks : ∀ c move, D c move → Forks c move) (f : ConnStep → Option β)
    (hf : ∀ step, step.action.OfForwarder → f step = none) :
    c.log.filterMap (fun event => f event.toStep) = (c.history 0).filterMap f := by
  refine hrun.induct (I := fun c => c.log.filterMap (fun event => f event.toStep) =
    (c.history 0).filterMap f) rfl ?_
  intro c₁ c₂ move hbefore ih hD hnext
  rcases Config.next_eq_some hnext with
    ⟨pid, call, rfl, hp, rfl⟩ | ⟨pid, process, action, rest, choice, reply, state, rfl, hp, hprog, -,
      rfl⟩ | ⟨pid, process, rfl, -, rfl⟩
  · rw [Config.history_started hp]
    exact ih
  · by_cases hpid : pid = 0
    · subst hpid
      rw [Config.history_advanced_self, ← Config.history_of_procs hp, Config.advanced,
        List.filterMap_cons, List.filterMap_cons, ih]
    · have huses := hbefore.uses (uses_of_forks hforks) pid process hp
      rw [hprog] at huses
      have hnone : f ⟨action, choice, reply⟩ = none := hf _ (huses.1 hpid)
      rw [Config.history_advanced_of_ne (Ne.symm hpid), Config.advanced, List.filterMap_cons, hnone, ih]
  · exact (hforks _ _ hD).elim

end

/-! ## What belongs to the reader loop -/

/-- The reader loop relies on the others to leave alone what belongs to it. -/
def readerReliance (plane : Plane) : Reliance plane where
  Keeps := KeepsReader
  Assumes _ _ _ := True
  refl := KeepsReader.refl
  trans := KeepsReader.trans
  forwards := keepsReader_of_ofForwarder

/-- The protocol of a connection whose reader loop, process zero, takes its actions under
`guard`. -/
abbrev readerProtocol (plane : Plane) (guard : List ConnStep → ConnAction → Conn → Prop) :
    Protocol (connMachine plane) :=
  (readerReliance plane).protocol guard fun _ _ => True

/-- The reader loop, or a part of it, takes its actions under the guard. When it returns a
value, `Q` holds of the value, of what the loop has done by then and of the connection. -/
abbrev ReaderYields (plane : Plane) (guard : List ConnStep → ConnAction → Conn → Prop) (turns : ℕ)
    {α : Type} (program : ConnProg α) (hist : List ConnStep) (conn : Conn)
    (Q : α → List ConnStep → Conn → Prop) : Prop :=
  Yields (readerProtocol plane guard) 0 (.serve turns) program hist conn Q

theorem handles_act {Q : action.Reply → List ConnStep → Conn → Prop}
    (h : ∀ conn₁, KeepsReader conn conn₁ → ∀ choice reply conn₂,
      performConn plane action choice conn₁ = some (reply, conn₂) →
      guard hist action conn₁ ∧ Q reply (⟨action, choice, reply⟩ :: hist) conn₂) :
    ReaderYields plane guard turns (act action) hist conn Q :=
  Reliance.yields_act fun conn₁ hkeeps choice _ => h conn₁ hkeeps choice

theorem handles_of_uses (huses : program.Uses p) (hI : I hist conn)
    (hkeeps : ∀ {hist conn conn₁}, KeepsReader conn conn₁ → I hist conn → I hist conn₁)
    (hstep : ∀ {action hist choice reply conn conn₁}, p action →
      performConn plane action choice conn = some (reply, conn₁) → I hist conn →
      guard hist action conn ∧ I (⟨action, choice, reply⟩ :: hist) conn₁) :
    ReaderYields plane guard turns program hist conn fun _ => I :=
  Reliance.yields_of_uses huses hI hkeeps fun hp _ => hstep hp

end WarpTweet
