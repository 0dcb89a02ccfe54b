import WarpTweet.Analysis.Sessions
import WarpTweet.Analysis.Scenario

/-!
# Delayed evictions

The management handlers publish the revoked or rotated record first, answer, and only
then end the sessions of the client or of its previous key. Between the two the handler
owes an eviction. Nothing durable records the debt: the reconcilers look at pending
statuses only, so a handler that is stopped in between, or whose eviction fails, leaves
sessions of ended grants and replaced keys behind for good.

If every handler pays what it owes, no such session is left once nothing is in flight.
-/

namespace WarpTweet

open Strings Concurrency Storage

/-! ## What a handler owes -/

/-- The handlers that end sessions after they have published their result. -/
def Call.evictsLate : Call → Bool
  | .manageRevoke _ _ | .manageRotate _ _ => true
  | _ => false

/-- The sessions that a published record calls to end, as the digest to terminate: all of
a revoked client, those of the previous key of a rotated one. -/
def dueEviction (env : Env) (written : ClientRecord) : Option Text :=
  if written.status = .revoked then some []
  else if written.status = .active ∧ written.previousPublicKey ≠ [] then
    some (publicKeyDigest env written.previousPublicKey)
  else none

/-- The client and the digest that a step makes its process owe. -/
def owedBy (env : Env) : HostStep → Option (Text × Text)
  | ⟨.writeClient written, _, ok⟩ =>
    if ok = true then (dueEviction env written).map fun digest => (written.clientID, digest)
    else none
  | _ => none

/-- The process has published a record since it last terminated sessions, and owes the
eviction of the sessions of the client with this digest. -/
def Owed (env : Env) (hist : List HostStep) (clientID digest : Text) : Prop :=
  ∃ step ∈ since Action.terminates hist, owedBy env step = some (clientID, digest)

def NothingOwed (env : Env) (hist : List HostStep) : Prop :=
  ∀ step ∈ since Action.terminates hist, owedBy env step = none

instance (env : Env) (hist : List HostStep) : Decidable (NothingOwed env hist) := by
  unfold NothingOwed
  infer_instance

/-- All that the process owes is due to the record. -/
def OwesFor (env : Env) (hist : List HostStep) (record : ClientRecord) : Prop :=
  ∀ clientID digest, Owed env hist clientID digest →
    clientID = record.clientID ∧ dueEviction env record = some digest

variable {hist : List HostStep} {record : ClientRecord} {site : Site} {pid : ℕ} {call : Call}
  {s : Host}

section

variable {env : Env} {step : HostStep} {clientID digest : Text}

theorem NothingOwed.not_owed (h : NothingOwed env hist) : ¬ Owed env hist clientID digest := by
  rintro ⟨step, hmem, howed⟩
  rw [h step hmem] at howed
  cases howed

theorem NothingOwed.owesFor (h : NothingOwed env hist) : OwesFor env hist record :=
  fun _ _ howed => absurd howed h.not_owed

theorem nothingOwed_of_not_owed (h : ∀ clientID digest, ¬ Owed env hist clientID digest) :
    NothingOwed env hist := by
  intro step hmem
  cases howed : owedBy env step with
  | none => rfl
  | some owed => exact absurd ⟨step, hmem, howed⟩ (h owed.1 owed.2)

theorem Owed.cons (h : Owed env (step :: hist) clientID digest) : step.action.terminates = false ∧
      (owedBy env step = some (clientID, digest) ∨ Owed env hist clientID digest) := by
  obtain ⟨made, hmem, howed⟩ := h
  rw [since_cons] at hmem
  split_ifs at hmem with hterminates
  · cases hmem
  · refine ⟨Bool.eq_false_iff.2 hterminates, ?_⟩
    rcases List.mem_cons.1 hmem with rfl | hmem
    · exact .inl howed
    · exact .inr ⟨made, hmem, howed⟩

theorem Owed.of_cons (h : Owed env hist clientID digest)
    (hterminates : step.action.terminates = false) : Owed env (step :: hist) clientID digest := by
  obtain ⟨made, hmem, howed⟩ := h
  refine ⟨made, ?_, howed⟩
  rw [since_cons, hterminates]
  exact List.mem_cons_of_mem _ hmem

theorem NothingOwed.cons (h : NothingOwed env hist) (hstep : owedBy env step = none) :
    NothingOwed env (step :: hist) := by
  apply nothingOwed_of_not_owed
  intro clientID digest howed
  rcases howed.cons.2 with hmade | hbefore
  · rw [hstep] at hmade
    cases hmade
  · exact h.not_owed hbefore

theorem OwesFor.cons (h : OwesFor env hist record) (hstep : owedBy env step = none) :
    OwesFor env (step :: hist) record := by
  intro clientID digest howed
  rcases howed.cons.2 with hmade | hbefore
  · rw [hstep] at hmade
    cases hmade
  · exact h clientID digest hbefore

theorem nothingOwed_of_terminates (h : step.action.terminates = true) :
    NothingOwed env (step :: hist) := by
  intro made hmem
  rw [since_cons, if_pos h] at hmem
  cases hmem

end

/-! ## The handlers pay what they owe -/

/-- A handler that owes terminates exactly the sessions it owes. -/
def TerminatesDue (env : Env) (call : Call) (hist : List HostStep) : Action → Prop
  | .terminate clientID generation digest => call.evictsLate = true →
      ∀ clientID' digest', Owed env hist clientID' digest' →
        clientID' = clientID ∧ generation = none ∧ digest' = digest
  | _ => True

/-- The protocol of the handlers: when one returns, it owes nothing. -/
abbrev evictionProtocol (site : Site) : Protocol (hostMachine site) :=
  historyProtocol (hostMachine site) (TerminatesDue site.env)
    fun call _ hist => call.evictsLate = true → NothingOwed site.env hist

/-- The action publishes no record that makes its process owe. -/
def Action.unowing (env : Env) : Action → Bool
  | .writeClient written => (dueEviction env written).isNone
  | _ => true

/-- The program follows the protocol. When it returns a value `Q` holds, and when it
fails nothing is owed. -/
def Tells {α : Type} (site : Site) (pid : ℕ) (call : Call) (program : HostProg α)
    (hist : List HostStep) (s : Host) (Q : α → List HostStep → Prop) : Prop :=
  Ensures (evictionProtocol site) pid call program hist s fun outcome hist' _ =>
    match outcome with
    | .ok value => Q value hist'
    | .error _ => NothingOwed site.env hist'

section

variable {α β : Type} {Q : α → List HostStep → Prop} {Q' : β → List HostStep → Prop}
  {program : HostProg α}

theorem owedBy_of_unowing {env : Env} {action : Action} {choice : Choice} {reply : action.Reply}
    (h : action.unowing env = true) : owedBy env ⟨action, choice, reply⟩ = none := by
  cases action with
  | writeClient written =>
    have hnone : dueEviction env written = none := by simpa [Action.unowing] using h
    simp [owedBy, hnone]
  | _ => rfl

theorem unowing_of_free {env : Env} {action : Action} (h : action.free = true) :
    action.unowing env = true := by
  cases action <;> simp_all [Action.free, Action.unowing]

theorem Tells.bind {program : HostProg β} {next : β → HostProg α}
    (h : Tells site pid call program hist s Q')
    (hnext : ∀ value hist' s', Q' value hist' → Tells site pid call (next value) hist' s' Q) :
    Tells site pid call (program.bind next) hist s Q := by
  refine ensures_bind.2 (Ensures.mono h ?_)
  rintro (error | value) hist' s' hQ'
  · exact hQ'
  · exact hnext value hist' s' hQ'

theorem Tells.mapError {f : Err → Err} (h : Tells site pid call program hist s Q) :
    Tells site pid call (program.mapError f) hist s Q := by
  refine ensures_mapError.2 (Ensures.mono h ?_)
  rintro (error | value) hist' s' hQ
  · exact hQ
  · exact hQ

theorem tells_of_uses (huses : program.Uses fun action => action.unowing site.env = true)
    (h : NothingOwed site.env hist) :
    Tells site pid call program hist s fun _ hist' => NothingOwed site.env hist' := by
  induction program generalizing hist s with
  | done value => exact h
  | fail error => exact h
  | act action rest ih =>
    intro s₁ _ choice reply s₂ _ _
    have hnone : owedBy site.env ⟨action, choice, reply⟩ = none := owedBy_of_unowing huses.1
    refine ⟨?_, ih reply (huses.2 reply) (h.cons hnone)⟩
    cases action <;> first | trivial | exact fun _ _ _ howed => absurd howed h.not_owed

theorem tells_of_free
    (huses : program.Uses fun action => action.free = true) (h : NothingOwed site.env hist) :
    Tells site pid call program hist s fun _ hist' => NothingOwed site.env hist' :=
  tells_of_uses (huses.mono fun _ => unowing_of_free) h

theorem Tells.attempt
    (h : Tells site pid call program hist s fun _ hist' => NothingOwed site.env hist') :
    Tells site pid call program.attempt hist s fun _ hist' => NothingOwed site.env hist' := by
  refine ensures_attempt.2 (Ensures.mono h ?_)
  rintro (error | value) hist' s' hnothing
  · exact hnothing
  · exact hnothing

theorem tells_refuse_bind {bad : Bool} {err : Err} {next : Unit → HostProg α}
    (h : NothingOwed site.env hist) (hnext : bad = false → Tells site pid call (next ()) hist s Q) :
    Tells site pid call ((refuse bad err).bind next) hist s Q := by
  cases bad with
  | true => exact h
  | false => exact hnext rfl

theorem tells_ofExcept_bind {outcome : Except Err β} {next : β → HostProg α}
    (h : NothingOwed site.env hist) (hnext : ∀ value, Tells site pid call (next value) hist s Q) :
    Tells site pid call ((Prog.ofExcept outcome).bind next) hist s Q := by
  cases outcome with
  | error error => exact h
  | ok value => exact hnext value

theorem tells_withLock {name : Lock} {wait : Bool} {busy : Err} {body : HostProg α}
    (h : NothingOwed site.env hist)
    (hbody : ∀ hist' s', NothingOwed site.env hist' → Tells site pid call body hist' s' Q)
    (hQ : ∀ value hist' step, Q value hist' → owedBy site.env step = none → Q value (step :: hist')) :
    Tells site pid call (withLock name wait busy body) hist s Q := by
  intro s₁ _ choice reply s₂ _ _
  refine ⟨trivial, ?_⟩
  have hlocked : NothingOwed site.env (⟨.lock name wait, choice, reply⟩ :: hist) := h.cons rfl
  cases reply with
  | busy => exact hlocked
  | failed => exact hlocked
  | acquired =>
    show Tells site pid call (body.attempt.bind fun outcome =>
      (perform (.unlock name)).bind fun _ => .ofExcept outcome) _ s₂ Q
    refine ensures_bind.2 (ensures_attempt.2 (Ensures.mono (hbody _ s₂ hlocked) ?_))
    intro outcome hist₁ s₃ houtcome s₄ _ choice₁ reply₁ s₅ _ _
    refine ⟨trivial, ensures_ofExcept.2 ?_⟩
    cases outcome with
    | error error => exact NothingOwed.cons houtcome rfl
    | ok value => exact hQ value hist₁ _ houtcome rfl

theorem tells_withClientLock {clientID : Text} {body : HostProg α} (h : NothingOwed site.env hist)
    (hbody : ∀ hist' s', NothingOwed site.env hist' → Tells site pid call body hist' s' Q)
    (hQ : ∀ value hist' step, Q value hist' → owedBy site.env step = none → Q value (step :: hist')) :
    Tells site pid call (withClientLock clientID body) hist s Q :=
  tells_refuse_bind h fun _ => tells_withLock h hbody hQ

end

section

variable {request : ManagementRequest} {now : Time} {line : AuthorizedLine}

/-- What a handler has published and owes: a record with the given status. -/
def Published (env : Env) (status : ClientStatus) (record : ClientRecord) (hist : List HostStep) :
    Prop :=
  record.status = status ∧ OwesFor env hist record

theorem Published.cons {status : ClientStatus} {step : HostStep}
    (h : Published site.env status record hist) (hstep : owedBy site.env step = none) :
    Published site.env status record (step :: hist) :=
  ⟨h.1, h.2.cons hstep⟩

theorem tells_writeClientAtomic (h : NothingOwed site.env hist) :
    Tells site pid call (writeClientAtomic record) hist s fun _ hist' =>
      OwesFor site.env hist' record := by
  intro s₁ _ choice ok s₂ _ _
  refine ⟨trivial, ?_⟩
  cases ok with
  | false => exact h.cons (by simp [owedBy])
  | true =>
    intro clientID digest howed
    rcases howed.cons.2 with hmade | hbefore
    · simp only [owedBy, if_true, Option.map_eq_some_iff, Prod.mk.injEq] at hmade
      obtain ⟨digest', hdue, rfl, rfl⟩ := hmade
      exact ⟨rfl, hdue⟩
    · exact absurd hbefore h.not_owed

theorem uses_loadClient {clientID : Text} :
    (loadClient clientID).Uses fun action => action.unowing site.env = true := by
  refine .bind Prog.uses_ofExcept fun _ => .bind ⟨rfl, fun _ => trivial⟩ fun read => ?_
  cases read <;> trivial

theorem uses_writeClientAtomic (h : dueEviction site.env record = none) :
    (writeClientAtomic record).Uses fun action => action.unowing site.env = true :=
  .bind ⟨by simp [Action.unowing, h], fun _ => trivial⟩ fun _ => Prog.uses_ofExcept

theorem uses_removeAuthorization {publicKey : Text} :
    (removeAuthorization publicKey).Uses fun action => action.unowing site.env = true :=
  .bind ⟨rfl, fun _ => trivial⟩ fun _ => Prog.uses_ofExcept

theorem uses_replaceAuthorization {publicKey : Text} :
    (replaceAuthorization line publicKey).Uses fun action => action.unowing site.env = true :=
  .bind ⟨rfl, fun _ => trivial⟩ fun _ => Prog.uses_ofExcept

theorem tells_completeRevocation (h : NothingOwed site.env hist) :
    Tells site pid call (completeRevocation site.env false now record) hist s
      (Published site.env .revoked) := by
  refine Tells.bind (tells_of_uses uses_removeAuthorization h) fun _ hist₁ s₁ h₁ => ?_
  refine Tells.bind (tells_of_uses trivial h₁) fun _ hist₂ s₂ h₂ => ?_
  refine Tells.bind (tells_of_free uses_burnManagementToken h₂) fun burned hist₃ s₃ h₃ => ?_
  refine Tells.bind (tells_writeClientAtomic h₃) fun _ hist₄ s₄ howes => ?_
  exact ⟨rfl, howes⟩

theorem tells_revokeClient (h : NothingOwed site.env hist) :
    Tells site pid call (revokeClient site.env request now false) hist s
      (Published site.env .revoked) := by
  refine Tells.bind (tells_of_free uses_orNow h) fun now hist₁ s₁ h₁ => tells_ofExcept_bind h₁ fun _ => ?_
  refine tells_withClientLock h₁ (fun hist₂ s₂ h₂ => ?_) fun _ _ _ => Published.cons
  refine Tells.bind (tells_of_uses uses_loadClient h₂).mapError fun record hist₃ s₃ h₃ => ?_
  refine tells_refuse_bind h₃ fun _ => ?_
  split_ifs with hrevoked hactive
  · refine tells_refuse_bind h₃ fun _ => ?_
    refine Tells.bind (tells_of_uses uses_removeAuthorization h₃) fun _ hist₄ s₄ h₄ => ?_
    exact ⟨hrevoked, h₄.owesFor⟩
  · refine tells_refuse_bind h₃ fun _ => tells_refuse_bind h₃ fun _ => ?_
    have hbegin : dueEviction site.env (beginRevocation record now) = none := rfl
    refine Tells.bind (tells_of_uses (uses_writeClientAtomic hbegin) h₃) fun _ hist₄ s₄ h₄ => ?_
    exact tells_completeRevocation h₄
  · refine tells_refuse_bind h₃ fun _ => tells_refuse_bind h₃ fun _ => ?_
    exact tells_completeRevocation h₃

theorem tells_terminate {digest : Text} (howes : OwesFor site.env hist record)
    (hdue : ∀ digest', dueEviction site.env record = some digest' → digest' = digest) :
    Tells site pid call (terminateSession record.clientID digest) hist s
      fun _ hist' => NothingOwed site.env hist' := by
  intro s₁ _ choice result s₂ _ _
  constructor
  · intro _ clientID digest' howed
    obtain ⟨hid, hdigest⟩ := howes clientID digest' howed
    exact ⟨hid, rfl, hdue digest' hdigest⟩
  · have hpaid : NothingOwed site.env (⟨.terminate record.clientID none digest, choice, result⟩ :: hist) :=
      nothingOwed_of_terminates rfl
    cases result with
    | error error => exact hpaid
    | ok value => exact hpaid

theorem tells_manageRevoke (h : NothingOwed site.env hist) :
    Tells site pid call (manageRevoke site.env request now) hist s fun _ hist' =>
      NothingOwed site.env hist' := by
  refine Tells.bind (tells_revokeClient h) fun revoked hist₁ s₁ ⟨hstatus, howes⟩ => ?_
  have hdue : ∀ digest, dueEviction site.env revoked = some digest → digest = [] := by
    intro digest hdigest
    simp only [dueEviction, hstatus, if_true, Option.some.injEq] at hdigest
    exact hdigest.symm
  refine Tells.bind (tells_terminate howes hdue).attempt fun _ hist₂ s₂ h₂ => ?_
  exact Tells.bind (tells_of_free uses_verifySessionGone.attempt h₂) fun _ hist₃ s₃ h₃ => h₃

theorem tells_completeRotation {newPublicKey nextHash : Text} (h : NothingOwed site.env hist) :
    Tells site pid call (completeRotation site.env newPublicKey nextHash now
      (replaceAuthorization line) record) hist s (Published site.env .active) := by
  refine Tells.bind (tells_of_uses uses_replaceAuthorization h) fun _ hist₁ s₁ h₁ => ?_
  refine Tells.bind (tells_writeClientAtomic h₁) fun _ hist₂ s₂ howes => ?_
  exact ⟨rfl, howes⟩

theorem tells_rotateClientPublicKey {newPublicKey : Text} (h : NothingOwed site.env hist) :
    Tells site pid call (rotateClientPublicKey site.env request newPublicKey now
      (replaceAuthorization line)) hist s (Published site.env .active) := by
  refine Tells.bind (tells_of_free uses_orNow h) fun now hist₁ s₁ h₁ => ?_
  refine tells_ofExcept_bind h₁ fun _ => tells_ofExcept_bind h₁ fun _ => ?_
  refine tells_refuse_bind h₁ fun _ => ?_
  refine tells_withClientLock h₁ (fun hist₂ s₂ h₂ => ?_) fun _ _ _ => Published.cons
  refine Tells.bind (tells_of_uses uses_loadClient h₂).mapError fun record hist₃ s₃ h₃ => ?_
  refine tells_refuse_bind h₃ fun _ => ?_
  dsimp only
  split_ifs with hrepeated hactive
  · refine Tells.bind (tells_of_uses uses_replaceAuthorization h₃) fun _ hist₄ s₄ h₄ => ?_
    exact ⟨hrepeated.1, h₄.owesFor⟩
  · refine tells_ofExcept_bind h₃ fun _ => tells_refuse_bind h₃ fun _ => ?_
    refine tells_refuse_bind h₃ fun _ => tells_refuse_bind h₃ fun _ => ?_
    refine Tells.bind (tells_of_uses (uses_writeClientAtomic rfl) h₃) fun _ hist₄ s₄ h₄ => ?_
    exact tells_completeRotation h₄
  · refine tells_ofExcept_bind h₃ fun _ => tells_refuse_bind h₃ fun _ => ?_
    refine tells_refuse_bind h₃ fun _ => tells_refuse_bind h₃ fun _ => ?_
    exact tells_refuse_bind h₃ fun _ => tells_completeRotation h₃

theorem tells_evictPreviousKeySessions (h : Published site.env .active record hist) :
    Tells site pid call (evictPreviousKeySessions site.env record) hist s fun _ hist' =>
      NothingOwed site.env hist' := by
  obtain ⟨hstatus, howes⟩ := h
  unfold evictPreviousKeySessions
  by_cases hprevious : record.previousPublicKey = []
  · have hdue : dueEviction site.env record = none := by simp [dueEviction, hstatus, hprevious]
    have hnothing : NothingOwed site.env hist := by
      apply nothingOwed_of_not_owed
      intro clientID digest howed
      have hdigest := (howes clientID digest howed).2
      rw [hdue] at hdigest
      cases hdigest
    rw [if_neg (by simp [hprevious])]
    exact hnothing
  · have hdue : ∀ digest, dueEviction site.env record = some digest →
        digest = publicKeyDigest site.env record.previousPublicKey := by
      intro digest hdigest
      simp only [dueEviction, hstatus, reduceCtorEq, if_false, ne_eq, hprevious, not_false_eq_true,
        and_self, if_true, Option.some.injEq] at hdigest
      exact hdigest.symm
    rw [if_pos (by simpa using hprevious)]
    refine Tells.bind (tells_terminate howes hdue) fun _ hist₂ s₂ h₂ => ?_
    exact tells_of_free uses_verifySessionGone h₂

theorem tells_manageRotate (h : NothingOwed site.env hist) :
    Tells site pid call (manageRotate site.env site.manifest request now) hist s fun _ hist' =>
      NothingOwed site.env hist' := by
  refine Tells.bind ?_ fun rotated hist₁ s₁ (hrotated : Published site.env .active rotated hist₁) => ?_
  · refine tells_refuse_bind h fun _ => ?_
    refine Tells.bind (tells_of_uses uses_loadClient h) fun existing hist₁ s₁ h₁ => ?_
    refine tells_ofExcept_bind h₁ fun _ => tells_ofExcept_bind h₁ fun line => ?_
    exact tells_rotateClientPublicKey h₁
  · exact Tells.bind (tells_evictPreviousKeySessions hrotated).attempt fun _ _ _ h => h

theorem ensures_evictionProtocol (call : Call) :
    Ensures (evictionProtocol site) pid call (callProgram site call) [] s
      ((evictionProtocol site).Ends pid call) := by
  have hnothing : NothingOwed site.env [] := by
    intro step hmem
    cases hmem
  have hpaid : ∀ {program : HostProg Unit},
      Tells site pid call program [] s (fun _ hist' => NothingOwed site.env hist') →
      Ensures (evictionProtocol site) pid call program [] s
        ((evictionProtocol site).Ends pid call) := by
    intro program h
    refine Ensures.mono h ?_
    rintro (error | value) hist' s' hpaid
    · exact fun _ => hpaid
    · exact fun _ => hpaid
  cases hlate : call.evictsLate with
  | true =>
    cases call with
    | manageRevoke request now => exact hpaid (tells_manageRevoke hnothing)
    | manageRotate request now => exact hpaid (tells_manageRotate hnothing)
    | _ => cases hlate
  | false =>
    refine Ensures.mono (Ensures.of_always ?_) ?_
    · intro steps action _ _
      cases action <;> first | trivial | exact fun htrue => by simp [hlate] at htrue
    · intro outcome hist' s' _ htrue
      simp [hlate] at htrue

end

/-! ## Every session is current or owed -/

/-- A record with a key, and its digest. -/
structure Keyed (env : Env) (record : ClientRecord) : Prop where
  key : record.publicKey ≠ []
  digest : record.publicKeySHA256 = publicKeyDigest env record.publicKey

/-- The grant of the session has not ended, and its key is still the public key. -/
def Current (env : Env) (s : Host) (session : Session) : Prop :=
  ∃ record ∈ s.clients.get session.clientID, ¬ record.status.Terminal ∧
    session.publicKeySHA256 = publicKeyDigest env record.publicKey

/-- No session is left of an ended grant or a replaced key. -/
def SessionsCurrent (env : Env) (s : Host) : Prop :=
  ∀ session ∈ s.sessions, Current env s session

/-- The calls as the host runs them. A revocation without session hooks and a rotation are
only run by their handlers. -/
def Call.evicting : Call → Bool
  | .revokeClient _ _ enforced => enforced
  | .rotate _ _ => false
  | _ => true

/-- A handler's write that makes it owe is not reported as failed after it took effect. -/
def PublishesWhole (env : Env) (call : Call) (action : Action) (choice : Choice) : Prop :=
  call.evictsLate = true → ∀ written ∈ action.writtenClient,
    (dueEviction env written).isSome = true → choice.outcome ≠ .torn

/-- What an action terminates: the client, the generation and the digest. -/
def Action.termination : Action → Option (Text × Generation × Text)
  | .terminate clientID generation digest => some (clientID, generation, digest)
  | _ => none

/-- A handler that owes ends all sessions that it terminates: the authority answers, and
all of them are of the data plane and are dropped. -/
def EvictsAll (env : Env) (call : Call) (hist : List HostStep) (s : Host) (action : Action)
    (choice : Choice) : Prop :=
  call.evictsLate = true → ∀ target ∈ action.termination, NothingOwed env hist ∨
    choice.outcome.reports = true ∧ ∀ session ∈ s.sessions,
      matchGrantSessions target.1 target.2.1 target.2.2 session = true →
        session.dataPlane = true ∧ session.connectionID ∉ choice.failing

/-- A handler is not stopped while it owes an eviction. -/
def StopsPaid (env : Env) (c : Pool) : HostMove → Prop
  | .stop pid => ∀ process ∈ c.procs pid, process.call.evictsLate = true →
      NothingOwed env process.hist
  | _ => True

instance (env : Env) (s : Host) (session : Session) : Decidable (Current env s session) := by
  unfold Current
  infer_instance

instance (env : Env) (s : Host) : Decidable (SessionsCurrent env s) := by
  unfold SessionsCurrent
  infer_instance

instance (env : Env) (call : Call) (action : Action) (choice : Choice) :
    Decidable (PublishesWhole env call action choice) := by
  unfold PublishesWhole
  infer_instance

instance (env : Env) (call : Call) (hist : List HostStep) (s : Host) (action : Action)
    (choice : Choice) : Decidable (EvictsAll env call hist s action choice) :=
  inferInstanceAs (Decidable (call.evictsLate = true → ∀ target ∈ action.termination,
    NothingOwed env hist ∨ choice.outcome.reports = true ∧ ∀ session ∈ s.sessions,
      matchGrantSessions target.1 target.2.1 target.2.2 session = true →
        session.dataPlane = true ∧ session.connectionID ∉ choice.failing))

instance (env : Env) (c : Pool) (move : HostMove) : Decidable (StopsPaid env c move) :=
  match move with
  | .stop pid => inferInstanceAs (Decidable (∀ process ∈ c.procs pid,
      process.call.evictsLate = true → NothingOwed env process.hist))
  | .start _ _ | .advance _ _ => .isTrue trivial

/-- The calls of the host, of which every handler pays the evictions it owes. -/
abbrev PaysEvictions (env : Env) : Pool → HostMove → Prop := fun c move =>
  Starts (fun call => call.evicting = true) c move ∧
    OnAction (fun c process action choice => PublishesWhole env process.call action choice ∧
      EvictsAll env process.call process.hist c.state action choice) c move ∧
    StopsPaid env c move

/-- The sessions that a handler in flight owes to end. -/
def OwedByHandler (env : Env) (c : Pool) (session : Session) : Prop :=
  ∃ pid process, c.procs pid = some process ∧ process.call.evictsLate = true ∧
    ∃ digest, Owed env process.hist session.clientID digest ∧
      matchGrantSessions session.clientID none digest session = true

/-- What a run keeps: every session is current, or a handler owes its end. -/
structure Evicting (env : Env) (c : Pool) : Prop where
  keyed : ∀ record ∈ c.state.clients.files, Keyed env record
  accounted : ∀ session ∈ c.state.sessions, Current env c.state session ∨ OwedByHandler env c session

section

variable {action : Action} {choice : Choice} {reply : action.Reply} {s' : Host} {c : Pool}
  {written : ClientRecord} {process : HostProcess} {prog : HostProg Unit} {session : Session}

theorem ne_nil_of_validatePublicKeyLine {publicKey : Text}
    (h : validatePublicKeyLine publicKey = .ok ()) : trimSpace publicKey ≠ [] := by
  intro hempty
  simp only [validatePublicKeyLine, except_bind_eq_ok, refuseIf_eq_ok] at h
  obtain ⟨-, hone, -⟩ := h
  simp [hempty] at hone

theorem keyed_of_guard (h : ∀ record ∈ s.clients.files, Keyed site.env record)
    (hguard : Guard site pid call hist action choice s) (heffect : Effect pid choice s action s') :
    ∀ record ∈ s'.clients.files, Keyed site.env record := by
  rcases heffect.clients with hsame | ⟨stored, rfl, -, hput⟩ | ⟨written, rfl, -, hput⟩
  · rwa [hsame]
  · intro record hrecord
    rw [hput] at hrecord
    rcases mem_insertFile hrecord with rfl | hold
    · have hstores : StoresClient site pid call s record := hguard
      obtain ⟨request, _, _, _, _, -, -, hvalid, rfl⟩ := hstores.wanted
      exact ⟨ne_nil_of_validatePublicKeyLine hvalid, rfl⟩
    · exact h record hold
  · intro record hrecord
    rw [hput] at hrecord
    rcases mem_insertFile hrecord with rfl | hold
    · have hkeyed : ∀ {old : ClientRecord}, Owns pid old hist s → Keyed site.env old :=
        fun howns => h _ (Directory.mem_files_of_get howns.stored)
      cases (hguard : ClientWrite site pid call hist s record) with
      | activate howns _ _ _ _ _ _ => exact ⟨(hkeyed howns).key, (hkeyed howns).digest⟩
      | beginRotation howns _ _ _ => exact ⟨(hkeyed howns).key, (hkeyed howns).digest⟩
      | @finishRotation old request _ _ _ _ _ _ hvalid _ _ =>
        refine ⟨fun hempty => ?_, rfl⟩
        have hnew : trimSpace request.newPublicKey = [] := hempty
        exact ne_nil_of_validatePublicKeyLine hvalid (by rw [hnew]; rfl)
      | beginRevocation howns _ => exact ⟨(hkeyed howns).key, (hkeyed howns).digest⟩
      | finishRevocation howns _ _ _ => exact ⟨(hkeyed howns).key, (hkeyed howns).digest⟩
      | finishRevocationAsHost howns _ _ _ _ => exact ⟨(hkeyed howns).key, (hkeyed howns).digest⟩
      | beginExpiration howns _ => exact ⟨(hkeyed howns).key, (hkeyed howns).digest⟩
      | finishExpiration howns _ _ _ => exact ⟨(hkeyed howns).key, (hkeyed howns).digest⟩
    · exact h record hold

/-- A written record keeps a session current, unless its process owes the end of the
session from then on. -/
theorem Current.of_write (h : Current site.env c.state session)
    (hkeyed : ∀ record ∈ c.state.clients.files, Keyed site.env record)
    (hwrite : ClientWrite site pid process.call process.hist c.state written)
    (hid : session.clientID = written.clientID) (hevicting : process.call.evicting = true)
    (hgone : GoneKnown c) (hp : c.procs pid = some process)
    (hsession : session ∈ c.state.sessions) : (¬ written.status.Terminal ∧
      session.publicKeySHA256 = publicKeyDigest site.env written.publicKey) ∨
    process.call.evictsLate = true ∧ ∃ digest, dueEviction site.env written = some digest ∧
      matchGrantSessions session.clientID none digest session = true := by
  obtain ⟨record, hget, hunended, hdigest⟩ := h
  have hsame : ∀ {old : ClientRecord}, Owns pid old process.hist c.state →
      old.clientID = written.clientID → old = record := by
    intro old howns hold
    have hget' : c.state.clients.get session.clientID = some record := hget
    rw [hid, ← hold, howns.stored, Option.some.injEq] at hget'
    exact hget'
  -- who verified that the sessions of a pending record are gone finds none
  have hnone : ∀ {old : ClientRecord}, Owns pid old process.hist c.state →
      old.clientID = written.clientID → ¬ Live old → VerifiedGone old process.hist → False := by
    intro old howns hold hpending hverified
    have hknows := hgone pid process hp old.clientID ⟨howns.locked, howns.current⟩
    obtain ⟨live, hlive, hlive'⟩ := hknows hverified session hsession (hid.trans hold.symm)
    rw [howns.stored, Option.some.injEq] at hlive
    exact hpending (hlive ▸ hlive')
  cases hwrite with
  | activate howns _ _ _ _ _ _ =>
    obtain rfl := hsame howns rfl
    exact .inl ⟨(by decide : ¬ ClientStatus.Terminal .active), hdigest⟩
  | beginRotation howns _ _ _ =>
    obtain rfl := hsame howns rfl
    exact .inl ⟨(by decide : ¬ ClientStatus.Terminal .rotationPending), hdigest⟩
  | @finishRotation old _ _ _ howns hrotation _ _ _ _ _ =>
    obtain rfl := hsame howns rfl
    have hkey := (hkeyed old (Directory.mem_files_of_get howns.stored)).key
    have hlate : process.call.evictsLate = true := by
      cases hcall : process.call <;> simp_all [Call.rotation, Call.evicting, Call.evictsLate]
    refine .inr ⟨hlate, publicKeyDigest site.env old.publicKey, ?_, ?_⟩
    · simp [dueEviction, finishRotation, hkey]
    · simp [matchGrantSessions, hdigest]
  | beginRevocation howns _ =>
    obtain rfl := hsame howns rfl
    exact .inl ⟨(by decide : ¬ ClientStatus.Terminal .revocationPending), hdigest⟩
  | beginExpiration howns _ =>
    obtain rfl := hsame howns rfl
    exact .inl ⟨(by decide : ¬ ClientStatus.Terminal .expirationPending), hdigest⟩
  | finishRevocation howns hstatus _ hdefers =>
    rcases hdefers with hdefers | hverified
    · have hlate : process.call.evictsLate = true := by
        cases hcall : process.call <;> simp_all [Call.defersEviction, Call.evicting, Call.evictsLate]
      refine .inr ⟨hlate, [], rfl, ?_⟩
      simp [matchGrantSessions]
    · refine (hnone howns rfl ?_ hverified).elim
      rcases hstatus with hstatus | hstatus <;> simp [Live, hstatus]
  | finishRevocationAsHost howns hstatus _ _ hverified =>
    refine (hnone howns rfl ?_ hverified).elim
    rcases hstatus with hstatus | hstatus <;> simp [Live, hstatus]
  | finishExpiration howns hstatus _ hverified =>
    refine (hnone howns rfl ?_ hverified).elim
    simp [Live, hstatus]

theorem Current.advanced (h : Current site.env c.state session)
    (hkeyed : ∀ record ∈ c.state.clients.files, Keyed site.env record)
    (hwhole : PublishesWhole site.env process.call action choice)
    (hevicting : process.call.evicting = true) (hgone : GoneKnown c)
    (hp : c.procs pid = some process) (hsession : session ∈ c.state.sessions)
    (hguard : Guard site pid process.call process.hist action choice c.state)
    (hperform : performAction site.env pid action choice c.state = some (reply, s')) :
    Current site.env s' session ∨
      OwedByHandler site.env (c.advanced pid process ⟨action, choice, reply⟩ prog s') session := by
  have heffect := effect_of_perform hperform
  obtain ⟨record, hget, hunended, hdigest⟩ := id h
  by_cases hkeep : ∀ written, action = .writeClient written → written.clientID ≠ session.clientID
  · exact .inl ⟨record, heffect.get_clients hget hkeep, hunended, hdigest⟩
  · simp only [not_forall, not_not] at hkeep
    obtain ⟨written, rfl, hid⟩ := hkeep
    rcases heffect.clients with hsame | ⟨_, hstore, -, -⟩ | ⟨_, hwritten, happlies, hput⟩
    · exact .inl ⟨record, by rw [hsame]; exact hget, hunended, hdigest⟩
    · cases hstore
    · cases hwritten
      rcases h.of_write hkeyed hguard hid.symm hevicting hgone hp hsession with
        ⟨hunended', hdigest'⟩ | ⟨hlate, digest, hdue, hmatch⟩
      · refine .inl ⟨written, ?_, hunended', hdigest'⟩
        rw [← hid, hput, Directory.get_put_self]
        rfl
      · -- the write took effect, so it was reported as a success
        have hreply : reply = true := by
          have htorn := hwhole hlate written rfl (by simp [hdue])
          simp only [performAction, Option.some.injEq, Prod.mk.injEq] at hperform
          rw [← hperform.1]
          cases houtcome : choice.outcome <;> simp_all [Outcome.applies, Outcome.reports]
        refine .inr ⟨pid, _, Function.update_self .., hlate, digest, ?_, hmatch⟩
        refine ⟨⟨.writeClient written, choice, reply⟩, ?_, ?_⟩
        · rw [since_cons]
          exact List.mem_cons_self
        · simp [owedBy, hreply, hdue, hid]

theorem OwedByHandler.advanced (h : OwedByHandler site.env c session)
    (hp : c.procs pid = some process)
    (hall : EvictsAll site.env process.call process.hist c.state action choice)
    (hdue : TerminatesDue site.env process.call process.hist action)
    (hsession : session ∈ c.state.sessions) (hsession' : session ∈ s'.sessions)
    (hperform : performAction site.env pid action choice c.state = some (reply, s')) :
    OwedByHandler site.env (c.advanced pid process ⟨action, choice, reply⟩ prog s') session := by
  obtain ⟨pid', process', hp', hlate, digest, howed, hmatch⟩ := h
  by_cases hpid : pid' = pid
  · subst hpid
    obtain rfl : process' = process := Option.some.inj (hp'.symm.trans hp)
    cases hterminates : action.terminates with
    | false => exact ⟨pid', _, Function.update_self .., hlate, digest, howed.of_cons hterminates, hmatch⟩
    | true =>
      exfalso
      cases action with
      | terminate clientID generation digest' =>
        obtain ⟨hid, rfl, rfl⟩ := hdue hlate session.clientID digest howed
        subst hid
        rcases hall hlate _ rfl with hnothing | ⟨hreports, hends⟩
        · exact hnothing.not_owed howed
        · obtain ⟨hdata, hfailing⟩ := hends session hsession hmatch
          simp only [performAction, hreports, if_true, Option.some.injEq] at hperform
          have hs' : _ = s' := congrArg Prod.snd hperform
          rw [← hs'] at hsession'
          exact hfailing ((mem_terminateSessions hsession').2 hmatch hdata)
      | _ => cases hterminates
  · refine ⟨pid', process', ?_, hlate, digest, howed, hmatch⟩
    simpa [Config.advanced, Function.update_of_ne hpid] using hp'

theorem OwedByHandler.of_procs {c' : Pool} (h : OwedByHandler site.env c session)
    (hprocs : ∀ pid process, c.procs pid = some process → process.call.evictsLate = true →
      ¬ NothingOwed site.env process.hist → c'.procs pid = some process) :
    OwedByHandler site.env c' session := by
  obtain ⟨pid, process, hp, hlate, digest, howed, hmatch⟩ := h
  have howing : ¬ NothingOwed site.env process.hist := fun hnothing => hnothing.not_owed howed
  exact ⟨pid, process, hprocs pid process hp hlate howing, hlate, digest, howed, hmatch⟩

theorem evicting_of_run (hkeyed : ∀ record ∈ s.clients.files, Keyed site.env record)
    (hs : SessionsCurrent site.env s)
    (hrun : Run (hostMachine site) (PaysEvictions site.env) (Config.idle s) c) :
    Evicting site.env c := by
  refine run_invariant (I := Evicting site.env) hrun ?_ ?_ ?_ ?_
  · exact ⟨hkeyed, fun session hsession => .inl (hs session hsession)⟩
  · intro c pid call _ h _ hnew
    refine ⟨h.keyed, fun session hsession => (h.accounted session hsession).imp_right fun howed => ?_⟩
    refine howed.of_procs fun pid' process hp _ _ => ?_
    have hne : pid' ≠ pid := by
      rintro rfl
      rw [hnew] at hp
      cases hp
    simpa [Config.started, Function.update_of_ne hne] using hp
  · intro c pid process action rest choice reply state hrun h hD hp hprog hguard hperform _
    obtain ⟨hwhole, hall⟩ := hD.2.1.condition hp hprog
    have hevicting := hrun.calls (fun _ _ hD => hD.1) pid process hp
    have hpool : PoolGuarded (evictionProtocol site) c :=
      hrun.poolGuarded (fun _ _ _ _ _ _ => trivial) fun _ => ensures_evictionProtocol _
    have hdue : TerminatesDue site.env process.call process.hist action :=
      hpool.guard hp hprog trivial hperform
    refine ⟨keyed_of_guard h.keyed hguard (effect_of_perform hperform), fun session hsession => ?_⟩
    rcases mem_sessions_of_perform hperform hsession with
      hold | ⟨connectionID, keyDigest, record, rfl, hregistered⟩
    · rcases h.accounted session hold with hcurrent | howed
      · exact hcurrent.advanced h.keyed hwhole hevicting (goneKnown_of_run hrun) hp hold hguard
          hperform
      · exact .inr (howed.advanced hp hall hdue hold hsession hperform)
    · -- a session is registered for a live record, with its digest
      obtain ⟨hget, hlive⟩ := hregistered.stored
      have hdigest := (h.keyed record (Directory.mem_files_of_get hget)).digest
      refine .inl ⟨record, (effect_of_perform hperform).get_clients hget (by simp), ?_, ?_⟩
      · rcases hlive with hstatus | hstatus <;> simp [ClientStatus.Terminal, hstatus]
      · rw [hregistered.publicKeySHA256, hdigest]
  · intro c pid process _ h hD hp
    refine ⟨h.keyed, fun session hsession => (h.accounted session hsession).imp_right fun howed => ?_⟩
    refine howed.of_procs fun pid' process' hp' hlate howing => ?_
    have hne : pid' ≠ pid := by
      rintro rfl
      exact howing (hD.2.2 process' hp' hlate)
    simpa [Config.stopped, Function.update_of_ne hne] using hp'

/-- In every run in which the handlers pay the evictions they owe, no session of an ended
grant or a replaced key is left once nothing is in flight. -/
theorem sessionsCurrent_of_paysEvictions
    (hkeyed : ∀ record ∈ s.clients.files, Keyed site.env record)
    (hs : SessionsCurrent site.env s)
    (hrun : Run (hostMachine site) (PaysEvictions site.env) (Config.idle s) c)
    (hquiet : c.AllProcs Process.Finished) : SessionsCurrent site.env c.state := by
  intro session hsession
  rcases (evicting_of_run hkeyed hs hrun).accounted session hsession with hcurrent | howed
  · exact hcurrent
  · obtain ⟨pid, process, hp, hlate, digest, howed, -⟩ := howed
    have hpool : PoolGuarded (evictionProtocol site) c :=
      hrun.poolGuarded (fun _ _ _ _ _ _ => trivial) fun _ => ensures_evictionProtocol _
    obtain ⟨outcome, -, hends⟩ := hpool.ends hp (hquiet pid process hp)
    exact absurd howed (NothingOwed.not_owed (hends hlate))

end

/-! ## Runs -/

/-- A client logs in and rotates its key. Its session does not outlive the previous key. -/
theorem sessionsCurrent_after_rotation :
    ∃ c, Run (hostMachine Scenario.site) (PaysEvictions Scenario.env) (Config.idle Scenario.host) c ∧
      c.AllProcs Process.Finished ∧
      (c.log.any fun event => event.action.terminates) = true ∧
      SessionsCurrent Scenario.env c.state := by
  obtain ⟨c, hrun, hquiet, hp⟩ := Run.exists_allProcs_of_runMoves
    (D := PaysEvictions Scenario.env) (M := hostMachine Scenario.site) (s := Scenario.host)
    (q := Process.Finished)
    (Scenario.accepting 'A' ++ Scenario.loggingIn 0 'A' ++
      [.start 1 (.manageRotate (Scenario.management 'A' 'B') Scenario.now)] ++ Scenario.steps 1 9)
    (fun c => c.log.any fun event => event.action.terminates)
    (by decide +kernel)
  have hkeyed : ∀ record ∈ Scenario.host.clients.files, Keyed Scenario.env record := by
    simp [Scenario.host, Directory.empty]
  have hs : SessionsCurrent Scenario.env Scenario.host := by decide
  exact ⟨c, hrun, hquiet, hp, sessionsCurrent_of_paysEvictions hkeyed hs hrun hquiet⟩

/-- A client logs in and is revoked by its token. The handler is stopped after it has
published the revocation and before its eviction. The listener starts again and both
reconcilers succeed; the session of the revoked client is still there. -/
theorem session_outlives_grant :
    ∃ c, Run (hostMachine Scenario.site) (Starts fun call => call.evicting = true)
        (Config.idle Scenario.host) c ∧
      c.AllProcs Process.Finished ∧ c.HasSucceeded 2 ∧
      (c.state.clients.get (Scenario.clientID 'A')).map ClientRecord.status = some .revoked ∧
      c.state.sessions.map Session.clientID = [Scenario.clientID 'A'] ∧
      ¬ SessionsCurrent Scenario.env c.state := by
  exact Run.exists_allProcs_of_runMoves
    (Scenario.accepting 'A' ++ Scenario.loggingIn 0 'A' ++
      [.start 1 (.manageRevoke (Scenario.management 'A' 'B') Scenario.now)] ++
      Scenario.steps 1 7 ++ [.stop 1, .start 2 (.startListener Scenario.now)] ++
      Scenario.steps 2 12) _ (by decide +kernel)

end WarpTweet
