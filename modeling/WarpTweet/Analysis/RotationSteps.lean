import WarpTweet.Model.Rotation

/-!
# What the rotate command has done when it acts

The command works under the admin lock, so nobody else changes the client's files while it
runs. This module follows it through its program and says, for each of its durable steps,
what it finds in the files at that moment and what it has received from the host: the
journal is written before the request is sent, the receipt is written and the new
generation activated only after the host has answered, and the journal is removed only
when the receipt holds what it journaled.
-/

namespace WarpTweet

open Strings Concurrency ClientProg

abbrev ClientStep := Step ClientAction ClientChoice ClientAction.Reply

abbrev ClientProcess := Process ClientCall ClientAction ClientChoice ClientAction.Reply Err

/-! ## What the actions do -/

/-- Everything an action of process `pid` can do to the client's side. -/
inductive ClientEffect (pid : ℕ) (s : Client) : ClientAction → Client → Prop
  | acquire : s.locked = none → ClientEffect pid s .adminLock { s with locked := some pid }
  | unlock : ClientEffect pid s .adminUnlock { s with locked := none }
  | writeReceipt {receipt : Receipt} :
      ClientEffect pid s (.writeReceipt receipt) { s with receipt := some receipt }
  | writePending {pending : PendingRotation} :
      ClientEffect pid s (.writePending pending) { s with pending := some pending }
  | removeStage {pending : Option PendingRotation} {stagedKey : Option Text} :
      pending = none ∨ pending = s.pending →
      ClientEffect pid s .removeStage { s with pending, stagedKey }
  | keygen {key : Text} : ClientEffect pid s .keygen { s with stagedKey := some key }
  | writeState {state : TunnelState} :
      ClientEffect pid s (.writeState state) { s with tunnel := some state }
  | send {request : ManagementRequest} :
      ClientEffect pid s (.send request) { s with sent := request :: s.sent }
  | writeGeneration {generation key : Text} : s.stagedKey = some key →
      ClientEffect pid s (.writeGeneration generation)
        { s with generations := Function.update s.generations generation (some key) }
  | activate {generation : Text} :
      ClientEffect pid s (.activate generation) { s with active := generation }
  | kept {action : ClientAction} : ClientEffect pid s action s

variable {action : ClientAction} {hist : List ClientStep} {generation : Text}
  {client written : Client} {ok bad : Bool} {reply : action.Reply} {err : Err}

section

variable {pid : ℕ} {choice : ClientChoice} {s s' : Client}

theorem replaceFile_eq_some (h : replaceFile choice client written = some (ok, s')) :
    ok = choice.outcome.reports ∧ s' = if choice.outcome.applies then written else client := by
  cases h
  exact ⟨rfl, rfl⟩

theorem replaceFile_ok
    (h : replaceFile choice client written = some (true, s')) : s' = written := by
  obtain ⟨hok, rfl⟩ := replaceFile_eq_some h
  rw [if_pos (Outcome.applies_of_reports hok.symm)]

theorem effect_of_performClient
    (h : performClient pid action choice s = some (reply, s')) : ClientEffect pid s action s' := by
  cases action with
  | adminLock =>
    simp only [performClient] at h
    repeat' split at h
    all_goals cases h
    all_goals first | exact .kept | exact .acquire ‹_›
  | adminUnlock =>
    cases h
    exact .unlock
  | send request =>
    cases h
    exact .send
  | writeReceipt | writePending | keygen | writeState =>
    obtain ⟨-, rfl⟩ := replaceFile_eq_some h
    split_ifs
    · constructor
    · exact .kept
  | removeStage =>
    simp only [performClient] at h
    split_ifs at h
    all_goals cases h
    all_goals first | exact .removeStage (.inl rfl) | exact .removeStage (.inr rfl)
  | writeGeneration generation =>
    simp only [performClient] at h
    split at h
    next key hkey =>
      obtain ⟨-, rfl⟩ := replaceFile_eq_some h
      split_ifs
      · exact .writeGeneration hkey
      · exact .kept
    next =>
      cases h
      exact .kept
  | activate generation =>
    simp only [performClient] at h
    split at h
    · obtain ⟨-, rfl⟩ := replaceFile_eq_some h
      split_ifs
      · exact .activate
      · exact .kept
    · cases h
      exact .kept
  | _ =>
    cases h
    exact .kept

theorem removeStage_ok (h : performClient pid .removeStage choice s = some (true, s')) :
    s' = { s with pending := none, stagedKey := none } := by
  simp only [performClient] at h
  by_cases hreports : choice.outcome.reports = true
  · rw [if_pos hreports] at h
    cases h
    rfl
  · rw [if_neg hreports] at h
    cases h

theorem ClientEffect.pending (h : ClientEffect pid s action s')
    (hwrite : ∀ pending, action ≠ .writePending pending) :
    s'.pending = s.pending ∨ action = .removeStage ∧ s'.pending = none := by
  cases h with
  | writePending => exact absurd rfl (hwrite _)
  | removeStage hpending =>
    rcases hpending with rfl | rfl
    · exact .inr ⟨rfl, rfl⟩
    · exact .inl rfl
  | _ => exact .inl rfl

theorem readFile_found {α : Type} {file : Option α} {value : α}
    (h : readFile choice file = .found value) : file = some value := by
  unfold readFile at h
  split_ifs at h
  cases file with
  | none => cases h
  | some other =>
    cases h
    rfl

theorem readFile_missing {α : Type} {file : Option α} (h : readFile choice file = .missing) :
    file = none := by
  unfold readFile at h
  split_ifs at h
  cases file with
  | none => rfl
  | some other => cases h

end

/-! ## What the command finds -/

/-- The process has received an answer to the request. -/
def Received (request : ManagementRequest) (hist : List ClientStep) : Prop :=
  ∃ choice proof, (⟨.receive request, choice, some proof⟩ : ClientStep) ∈ hist

theorem Received.mono {request : ManagementRequest} {hist' : List ClientStep}
    (h : Received request hist) (hsub : hist ⊆ hist') : Received request hist' := by
  obtain ⟨choice, proof, hmem⟩ := h
  exact ⟨choice, proof, hsub hmem⟩

/-- Whether the journal is gone after the step. -/
def clearsAfter (step : ClientStep) (cleared : Bool) : Bool :=
  match step with
  | ⟨.removeStage, _, true⟩ => true
  | ⟨.writePending _, _, _⟩ => false
  | _ => cleared

/-- The process has removed the journal and not written one since. -/
def cleared (hist : List ClientStep) : Bool := hist.foldr clearsAfter false

theorem cleared_cons {step : ClientStep} :
    cleared (step :: hist) = clearsAfter step (cleared hist) := rfl

/-- Process `pid` works on the rotation `pending` under the admin lock. -/
structure Journals (pid : ℕ) (s : Client) (receipt : Receipt) (pending : PendingRotation) :
    Prop where
  locked : s.locked = some pid
  receipted : s.receipt = some receipt
  journaled : s.pending = some pending

/-- A new journal continues the receipt. -/
structure Begins (tunnelID : Text) (receipt : Receipt) (pending : PendingRotation) : Prop where
  clientID : pending.clientID = receipt.clientID
  tunnelID : pending.tunnelID = tunnelID
  current : pending.currentManagementToken = receipt.managementToken
  trimmed : trimSpace pending.publicKey = pending.publicKey

/-- The receipt holds what was journaled. -/
structure Records (receipt : Receipt) (pending : PendingRotation) : Prop where
  token : receipt.managementToken = pending.nextManagementToken
  publicKey : receipt.publicKey = pending.publicKey

/-- What the command finds when it acts. -/
def ClientGuard (tunnelID : Text) (pid : ℕ) (hist : List ClientStep) (action : ClientAction)
    (s : Client) : Prop :=
  match action with
  | .adminLock => True
  | .adminUnlock => s.locked = some pid ∧ (cleared hist = true → s.pending = none)
  | .writePending pending => s.locked = some pid ∧ s.pending = none ∧
      ∃ receipt, s.receipt = some receipt ∧ Begins tunnelID receipt pending
  | .send request => ∃ receipt pending, Journals pid s receipt pending ∧
      request = rotateRequest receipt tunnelID pending
  | .writeReceipt written => ∃ receipt pending, Journals pid s receipt pending ∧
      Received (rotateRequest receipt tunnelID pending) hist ∧
      written.clientID = receipt.clientID ∧ Records written pending
  | .removeStage => s.locked = some pid ∧ ∀ pending, s.pending = some pending →
      ∃ receipt, s.receipt = some receipt ∧ Records receipt pending
  | .activate generation => ∃ receipt pending, Journals pid s receipt pending ∧
      Received (rotateRequest receipt tunnelID pending) hist ∧ generation = pending.generation ∧
      (s.generations generation).map trimSpace = some pending.publicKey
  | .writeGeneration generation => ∃ receipt pending, Journals pid s receipt pending ∧
      Received (rotateRequest receipt tunnelID pending) hist ∧ generation = pending.generation ∧
      s.stagedKey.map trimSpace = some pending.publicKey
  | _ => s.locked = some pid

theorem ClientGuard.locked {tunnelID : Text} {pid : ℕ} {s : Client}
    (h : ClientGuard tunnelID pid hist action s)
    (hlock : action ≠ .adminLock) : s.locked = some pid := by
  cases action with
  | adminLock => exact absurd rfl hlock
  | adminUnlock | writePending | removeStage => exact h.1
  | send | writeReceipt | activate | writeGeneration =>
    obtain ⟨_, _, hjournals, _⟩ := h
    exact hjournals.locked
  | _ => exact h

/-- The protocol of the command: while a process holds the admin lock, the files are its
own. -/
def rotateProtocol (tunnelID : Text) : Protocol (clientMachine tunnelID) where
  Rely pid s s' := s.locked = some pid → s' = s
  Guard pid _ hist action _ s := ClientGuard tunnelID pid hist action s
  Ends _ _ outcome hist _ := outcome = .ok () →
    ∃ choice before, hist = ⟨.adminUnlock, choice, ()⟩ :: before ∧ cleared before = true
  rely_refl _ _ _ := rfl
  rely_trans h h' hlocked := by
    have heq := h hlocked
    rw [h' (heq ▸ hlocked), heq]
  guard_rely := by
    intro pid pid' call hist action choice s reply s' hne hguard hperform hlocked
    by_cases hlock : action = .adminLock
    · subst hlock
      have hperform' : performClient pid .adminLock choice s = some (reply, s') := hperform
      simp only [performClient, hlocked] at hperform'
      split_ifs at hperform'
      · cases hperform'
        rfl
      · cases hperform'
        rfl
    · have hown := hguard.locked hlock
      rw [hlocked, Option.some.injEq] at hown
      exact absurd hown hne
  release_rely := by
    intro pid pid' s hne hlocked
    show releaseAdmin pid s = s
    have hother : s.locked ≠ some pid := by
      rw [hlocked]
      simpa using hne
    simp [releaseAdmin, hother]
  ends_rely _ h := h

/-! ## Walking through the command -/

variable {tunnelID : Text} {pid : ℕ} {hist hist' : List ClientStep} {s s' : Client} {α β : Type}

/-- The process holds the admin lock, and when it has removed the journal there is none. -/
structure Ready (pid : ℕ) (hist : List ClientStep) (s : Client) : Prop where
  locked : s.locked = some pid
  gone : cleared hist = true → s.pending = none

theorem Ready.step {choice : ClientChoice}
    (h : Ready pid hist s) (hlock : action ≠ .adminLock) (hunlock : action ≠ .adminUnlock)
    (hperform : performClient pid action choice s = some (reply, s')) :
    Ready pid (⟨action, choice, reply⟩ :: hist) s' := by
  have heffect := effect_of_performClient hperform
  constructor
  · cases heffect with
    | acquire => exact absurd rfl hlock
    | unlock => exact absurd rfl hunlock
    | _ => exact h.locked
  · intro hcleared
    rw [cleared_cons] at hcleared
    by_cases hwrite : ∃ pending, action = .writePending pending
    · obtain ⟨pending, rfl⟩ := hwrite
      cases hcleared
    · rcases heffect.pending fun pending heq => hwrite ⟨pending, heq⟩ with hsame | ⟨-, hgone⟩
      · rw [hsame]
        cases action with
        | removeStage =>
          cases reply with
          | true =>
            rw [← hsame, removeStage_ok hperform]
          | false => exact h.gone hcleared
        | writePending pending => exact absurd ⟨pending, rfl⟩ hwrite
        | _ => exact h.gone hcleared
      · exact hgone

/-- The program keeps to the protocol and stays ready. When it returns a value `Q` holds,
and when it fails `E` does. -/
def Does (tunnelID : Text) (pid : ℕ) (program : ClientProg α) (hist : List ClientStep) (s : Client)
    (Q : α → List ClientStep → Client → Prop) (E : List ClientStep → Client → Prop) : Prop :=
  Ensures (rotateProtocol tunnelID) pid .rotate program hist s fun outcome hist' s' =>
    Ready pid hist' s' ∧ match outcome with
      | .ok value => Q value hist' s'
      | .error _ => E hist' s'

variable {Q : α → List ClientStep → Client → Prop} {N : β → List ClientStep → Client → Prop}
  {E : List ClientStep → Client → Prop}

theorem does_done {value : α} (hready : Ready pid hist s) (h : Q value hist s) :
    Does tunnelID pid (.done value) hist s Q E := ⟨hready, h⟩

theorem does_fail {error : Err} (hready : Ready pid hist s) (h : E hist s) :
    Does tunnelID pid (.fail error : ClientProg α) hist s Q E := ⟨hready, h⟩

theorem Does.bind {program : ClientProg β} {next : β → ClientProg α}
    (h : Does tunnelID pid program hist s N E)
    (hnext : ∀ value hist' s', Ready pid hist' s' → N value hist' s' →
      Does tunnelID pid (next value) hist' s' Q E) :
    Does tunnelID pid (program.bind next) hist s Q E := by
  refine ensures_bind.2 (Ensures.mono h ?_)
  rintro (error | value) hist' s' ⟨hready, h⟩
  · exact ⟨hready, h⟩
  · exact hnext value hist' s' hready h

theorem Does.weaken {program : ClientProg α} (h : Does tunnelID pid program hist s Q E) :
    Does tunnelID pid program hist s Q fun _ _ => True := by
  refine Ensures.mono h ?_
  rintro (error | value) hist' s' ⟨hready, h⟩
  · exact ⟨hready, trivial⟩
  · exact ⟨hready, h⟩

theorem Does.mapError {program : ClientProg α} {f : Err → Err}
    (h : Does tunnelID pid program hist s Q E) :
    Does tunnelID pid (program.mapError f) hist s Q E := by
  refine ensures_mapError.2 (Ensures.mono h ?_)
  rintro (error | value) hist' s' h
  · exact h
  · exact h

theorem Does.attempt {program : ClientProg β} {F : List ClientStep → Client → Prop}
    (h : Does tunnelID pid program hist s N F) :
    Does tunnelID pid program.attempt hist s (fun outcome hist' s' =>
      match outcome with
      | .ok value => N value hist' s'
      | .error _ => F hist' s') E :=
  ensures_attempt.2 (Ensures.mono h fun _ _ _ h => h)

theorem does_reject {Q : Unit → List ClientStep → Client → Prop}
    (hready : Ready pid hist s) (hbad : bad = true → E hist s) (h : bad = false → Q () hist s) :
    Does tunnelID pid (reject bad err) hist s Q E := by
  cases bad with
  | false => exact ⟨hready, h rfl⟩
  | true => exact ⟨hready, hbad rfl⟩

theorem does_reject_bind {next : Unit → ClientProg α}
    (hready : Ready pid hist s) (hbad : bad = true → E hist s)
    (hnext : bad = false → Does tunnelID pid (next ()) hist s Q E) :
    Does tunnelID pid ((reject bad err).bind next) hist s Q E := by
  cases bad with
  | false => exact hnext rfl
  | true => exact ⟨hready, hbad rfl⟩

theorem does_act {Q : action.Reply → List ClientStep → Client → Prop}
    (hready : Ready pid hist s) (hguard : ClientGuard tunnelID pid hist action s)
    (hlock : action ≠ .adminLock) (hunlock : action ≠ .adminUnlock)
    (h : ∀ choice reply s', performClient pid action choice s = some (reply, s') →
      Q reply (⟨action, choice, reply⟩ :: hist) s') :
    Does tunnelID pid (act action) hist s Q E := by
  intro s₁ hrely choice reply s' _ hperform
  have hsame : s₁ = s := hrely hready.locked
  subst hsame
  exact ⟨hguard, hready.step hlock hunlock hperform, h choice reply s' hperform⟩

theorem does_read {Q : action.Reply → List ClientStep → Client → Prop}
    (hready : Ready pid hist s) (hguard : ClientGuard tunnelID pid hist action s)
    (hkept : ∀ s', ClientEffect pid s action s' → s' = s)
    (hlock : action ≠ .adminLock) (hunlock : action ≠ .adminUnlock)
    (h : ∀ choice reply, performClient pid action choice s = some (reply, s) →
      Q reply (⟨action, choice, reply⟩ :: hist) s) : Does tunnelID pid (act action) hist s Q E := by
  refine does_act hready hguard hlock hunlock fun choice reply s' hperform => ?_
  obtain rfl := hkept s' (effect_of_performClient hperform)
  exact h choice reply hperform

/-- The process works on the rotation with the staged identity. -/
structure Rotating (pid : ℕ) (receipt : Receipt) (pending : PendingRotation) (s : Client) : Prop
    extends Journals pid s receipt pending where
  staged : s.stagedKey.map trimSpace = some pending.publicKey

variable {receipt : Receipt} {pending : PendingRotation}

section

variable (hready : Ready pid hist s)
include hready

theorem does_loadEnrollmentReceipt :
    Does tunnelID pid loadEnrollmentReceipt hist s (fun receipt _ s' => s'.receipt = some receipt)
      fun _ _ => True := by
  refine Does.bind (N := fun reply _ s' => ∀ receipt, reply = .found receipt →
    s'.receipt = some receipt) ?_ ?_
  · refine does_read hready hready.locked (fun _ h => by cases h; rfl) (by simp) (by simp) ?_
    intro choice reply hperform receipt hreply
    simp only [performClient, Option.some.injEq, Prod.mk.injEq, and_true] at hperform
    exact readFile_found (hperform.trans hreply)
  · rintro (receipt | _ | _) hist' s' hready' h
    · exact does_done hready' (h receipt rfl)
    · exact does_fail hready' trivial
    · exact does_fail hready' trivial

theorem does_must_bind {what : String} {next : Unit → ClientProg α} (hbad : ok = false → E hist s)
    (hnext : ok = true → Does tunnelID pid (next ()) hist s Q E) :
    Does tunnelID pid ((must ok what).bind next) hist s Q E :=
  does_reject_bind hready (fun h => hbad (by simpa using h)) fun h => hnext (by simpa using h)

theorem does_createPendingClientIdentity (hpending : s.pending = none)
    (hreceipt : s.receipt = some receipt) :
    Does tunnelID pid createPendingClientIdentity hist s (fun publicKey _ s' =>
      s'.pending = none ∧ s'.receipt = some receipt ∧ trimSpace publicKey = publicKey ∧
        s'.stagedKey.map trimSpace = some publicKey) fun _ _ => True := by
  refine Does.bind (N := fun ok _ s' => s'.pending = none ∧ s'.receipt = some receipt) ?_ ?_
  · refine does_act hready ⟨hready.locked, by simp [hpending]⟩ (by simp) (by simp) ?_
    intro choice ok s' hperform
    cases effect_of_performClient hperform with
    | removeStage h => exact ⟨h.elim id (fun h => h.trans hpending), hreceipt⟩
    | kept => exact ⟨hpending, hreceipt⟩
  · rintro ok hist₁ s₁ hready₁ ⟨hpending₁, hreceipt₁⟩
    refine does_must_bind hready₁ (fun _ => trivial) fun _ => ?_
    refine Does.bind (N := fun ok _ s' => s'.pending = none ∧ s'.receipt = some receipt) ?_ ?_
    · exact does_read hready₁ hready₁.locked (fun _ h => by cases h; rfl) (by simp) (by simp)
        fun _ _ _ => ⟨hpending₁, hreceipt₁⟩
    · rintro ok hist₂ s₂ hready₂ ⟨hpending₂, hreceipt₂⟩
      refine does_must_bind hready₂ (fun _ => trivial) fun _ => ?_
      refine Does.bind (N := fun ok _ s' => s'.pending = none ∧ s'.receipt = some receipt) ?_ ?_
      · refine does_act hready₂ hready₂.locked (by simp) (by simp) ?_
        intro choice ok s' hperform
        cases effect_of_performClient hperform with
        | keygen => exact ⟨hpending₂, hreceipt₂⟩
        | kept => exact ⟨hpending₂, hreceipt₂⟩
      · rintro ok hist₃ s₃ hready₃ ⟨hpending₃, hreceipt₃⟩
        refine does_must_bind hready₃ (fun _ => trivial) fun _ => ?_
        refine Does.bind (N := fun reply _ s' => s'.pending = none ∧ s'.receipt = some receipt ∧
          ∀ key, reply = some key → s'.stagedKey = some key) ?_ ?_
        · refine does_read hready₃ hready₃.locked (fun _ h => by cases h; rfl) (by simp) (by simp) ?_
          intro choice reply hperform
          refine ⟨hpending₃, hreceipt₃, fun key hreply => ?_⟩
          simp only [performClient, Option.some.injEq, Prod.mk.injEq, and_true] at hperform
          split_ifs at hperform
          · exact hperform.trans hreply
          · rw [← hperform] at hreply
            cases hreply
        · rintro (_ | key) hist₄ s₄ hready₄ ⟨hpending₄, hreceipt₄, hkey⟩
          · exact does_fail hready₄ trivial
          · refine does_reject_bind hready₄ (fun _ => trivial) fun _ => does_done hready₄ ?_
            exact ⟨hpending₄, hreceipt₄, trimSpace_trimSpace key, by simp [hkey key rfl]⟩

theorem does_verifyPendingIdentityPublicKey (h : Journals pid s receipt pending) :
    Does tunnelID pid (verifyPendingIdentityPublicKey pending.publicKey) hist s
      (fun _ _ s' => Rotating pid receipt pending s') fun _ _ => True := by
  refine Does.bind (N := fun reply _ s' => Journals pid s' receipt pending ∧
    ∀ key, reply = some key → s'.stagedKey = some key) ?_ ?_
  · refine does_read hready hready.locked (fun _ h => by cases h; rfl) (by simp) (by simp) ?_
    intro choice reply hperform
    refine ⟨h, fun key hreply => ?_⟩
    simp only [performClient, Option.some.injEq, Prod.mk.injEq, and_true] at hperform
    split_ifs at hperform
    · exact hperform.trans hreply
    · rw [← hperform] at hreply
      cases hreply
  · rintro (_ | key) hist₁ s₁ hready₁ ⟨h₁, hkey⟩
    · exact does_fail hready₁ trivial
    · refine does_reject hready₁ (fun _ => trivial) fun hsame => ⟨h₁, ?_⟩
      simpa [hkey key rfl] using hsame

theorem does_loadOrCreatePendingRotation (hreceipt : s.receipt = some receipt) :
    Does tunnelID pid (loadOrCreatePendingRotation receipt tunnelID) hist s
      (fun pending _ s' => Rotating pid receipt pending s') fun _ _ => True := by
  refine Does.bind (N := fun reply _ s' => s'.receipt = some receipt ∧
    (∀ pending, reply = .found pending → s'.pending = some pending) ∧
    (reply = .missing → s'.pending = none)) ?_ ?_
  · refine does_read hready hready.locked (fun _ h => by cases h; rfl) (by simp) (by simp) ?_
    intro choice reply hperform
    simp only [performClient, Option.some.injEq, Prod.mk.injEq, and_true] at hperform
    exact ⟨hreceipt, fun _ hreply => readFile_found (hperform.trans hreply),
      fun hreply => readFile_missing (hperform.trans hreply)⟩
  rintro (pending | _ | _) hist₁ s₁ hready₁ ⟨hreceipt₁, hfound, hmissing⟩
  · refine does_reject_bind hready₁ (fun _ => trivial) fun _ => ?_
    have hjournals : Journals pid s₁ receipt pending :=
      ⟨hready₁.locked, hreceipt₁, hfound pending rfl⟩
    exact Does.bind (does_verifyPendingIdentityPublicKey hready₁ hjournals)
      fun _ _ _ hready₂ h₂ => does_done hready₂ h₂
  · refine Does.bind (does_createPendingClientIdentity hready₁ (hmissing rfl) hreceipt₁) ?_
    rintro publicKey hist₂ s₂ hready₂ ⟨hpending₂, hreceipt₂, htrim, hstaged⟩
    refine Does.bind (N := fun _ _ s' => s'.pending = none ∧ s'.receipt = some receipt ∧
      s'.stagedKey.map trimSpace = some publicKey) ?_ ?_
    · exact does_read hready₂ hready₂.locked (fun _ h => by cases h; rfl) (by simp) (by simp)
        fun _ _ _ => ⟨hpending₂, hreceipt₂, hstaged⟩
    rintro (_ | nextToken) hist₃ s₃ hready₃ ⟨hpending₃, hreceipt₃, hstaged₃⟩
    · exact does_fail hready₃ trivial
    refine Does.bind (N := fun _ _ s' => s'.pending = none ∧ s'.receipt = some receipt ∧
      s'.stagedKey.map trimSpace = some publicKey) ?_ ?_
    · exact does_read hready₃ hready₃.locked (fun _ h => by cases h; rfl) (by simp) (by simp)
        fun _ _ _ => ⟨hpending₃, hreceipt₃, hstaged₃⟩
    rintro generation hist₄ s₄ hready₄ ⟨hpending₄, hreceipt₄, hstaged₄⟩
    dsimp only
    refine Does.bind (N := fun ok _ s' => ok = true → Rotating pid receipt
      { clientID := receipt.clientID, tunnelID, generation, publicKey,
        currentManagementToken := receipt.managementToken,
        nextManagementToken := nextToken } s') ?_ ?_
    · refine does_act hready₄ ⟨hready₄.locked, hpending₄, receipt, hreceipt₄, rfl, rfl, rfl, htrim⟩
        (by simp) (by simp) fun choice ok s' hperform hok => ?_
      subst hok
      obtain rfl := replaceFile_ok hperform
      exact ⟨⟨hready₄.locked, hreceipt₄, rfl⟩, hstaged₄⟩
    · rintro ok hist₅ s₅ hready₅ h₅
      exact does_must_bind hready₅ (fun _ => trivial) fun hok => does_done hready₅ (h₅ hok)
  · exact does_fail hready₁ trivial

theorem does_managementLocalPort (h : Rotating pid receipt pending s) :
    Does tunnelID pid managementLocalPort hist s (fun _ _ s' => Rotating pid receipt pending s')
      fun _ _ => True := by
  refine Does.bind (N := fun _ _ s' => Rotating pid receipt pending s') ?_ ?_
  · exact does_read hready hready.locked (fun _ h => by cases h; rfl) (by simp) (by simp)
      fun _ _ _ => h
  · rintro (⟨_ | port, generation⟩ | _ | _) hist₁ s₁ hready₁ h₁
    · exact does_fail hready₁ trivial
    · exact does_reject_bind hready₁ (fun _ => trivial) fun _ => does_done hready₁ h₁
    · exact does_fail hready₁ trivial
    · exact does_fail hready₁ trivial

theorem does_submitRotate (h : Rotating pid receipt pending s) :
    Does tunnelID pid (submitRotate (rotateRequest receipt tunnelID pending)) hist s
      (fun _ hist' s' => Rotating pid receipt pending s' ∧
        Received (rotateRequest receipt tunnelID pending) hist')
      fun _ s' => Rotating pid receipt pending s' := by
  refine Does.bind (N := fun _ _ s' => Rotating pid receipt pending s') ?_ ?_
  · refine does_act hready ⟨receipt, pending, h.toJournals, rfl⟩ (by simp) (by simp) ?_
    intro choice reply s' hperform
    cases effect_of_performClient hperform with
    | send => exact ⟨⟨h.locked, h.receipted, h.journaled⟩, h.staged⟩
    | kept => exact h
  rintro _ hist₁ s₁ hready₁ h₁
  refine Does.bind (N := fun reply hist' s' => Rotating pid receipt pending s' ∧
    ∀ proof, reply = some proof → Received (rotateRequest receipt tunnelID pending) hist') ?_ ?_
  · refine does_read hready₁ hready₁.locked (fun _ h => by cases h; rfl) (by simp) (by simp) ?_
    intro choice reply _
    refine ⟨h₁, ?_⟩
    rintro proof rfl
    exact ⟨choice, proof, List.mem_cons_self⟩
  · rintro (_ | proof) hist₂ s₂ hready₂ ⟨h₂, hreceived⟩
    · exact does_fail hready₂ h₂
    · exact does_reject_bind hready₂ (fun _ => h₂) fun _ =>
        does_done hready₂ ⟨h₂, hreceived proof rfl⟩

theorem does_submitRotateTwice (h : Rotating pid receipt pending s) :
    Does tunnelID pid (submitRotateTwice (rotateRequest receipt tunnelID pending)) hist s
      (fun _ hist' s' => Rotating pid receipt pending s' ∧
        Received (rotateRequest receipt tunnelID pending) hist')
      fun _ s' => Rotating pid receipt pending s' := by
  refine Does.bind (does_submitRotate hready h).attempt ?_
  rintro (err | proof) hist₁ s₁ hready₁ h₁
  · refine Does.bind (N := fun _ _ s' => Rotating pid receipt pending s') ?_ ?_
    · exact does_read hready₁ hready₁.locked (fun _ h => by cases h; rfl) (by simp) (by simp)
        fun _ _ _ => h₁
    · rintro cancelled hist₂ s₂ hready₂ h₂
      cases cancelled with
      | true => exact does_fail hready₂ h₂
      | false => exact (does_submitRotate hready₂ h₂).mapError
  · exact does_done hready₁ h₁

end

/-- The process has the answer to the rotation it works on. -/
structure Answered (tunnelID : Text) (pid : ℕ) (receipt : Receipt) (pending : PendingRotation)
    (hist : List ClientStep) (s : Client) : Prop extends Rotating pid receipt pending s where
  received : Received (rotateRequest receipt tunnelID pending) hist

theorem Answered.cons {step : ClientStep} (h : Answered tunnelID pid receipt pending hist s) :
    Answered tunnelID pid receipt pending (step :: hist) s :=
  ⟨h.toRotating, h.received.mono (List.subset_cons_self _ _)⟩

section

variable (hready : Ready pid hist s) (h : Answered tunnelID pid receipt pending hist s)
include hready h

theorem does_writeReceipt {written : Receipt} (hclient : written.clientID = receipt.clientID)
    (hrecords : Records written pending) : Does tunnelID pid (act (.writeReceipt written)) hist s
      (fun ok hist' s' => ok = true → Answered tunnelID pid written pending hist' s') E := by
  refine does_act hready ⟨receipt, pending, h.toJournals, h.received, hclient, hrecords⟩ (by simp)
    (by simp) fun choice ok s' hperform hok => ?_
  subst hok
  obtain rfl := replaceFile_ok hperform
  have hsame : rotateRequest written tunnelID pending = rotateRequest receipt tunnelID pending := by
    simp [rotateRequest, hclient]
  refine ⟨⟨⟨h.locked, rfl, h.journaled⟩, h.staged⟩, ?_⟩
  rw [hsame]
  exact h.received.mono (List.subset_cons_self _ _)

theorem does_persistActivatedGeneration :
    Does tunnelID pid (persistActivatedGeneration pending.generation) hist s
      (fun _ hist' s' => Answered tunnelID pid receipt pending hist' s') fun _ _ => True := by
  refine Does.bind (N := fun ok hist' s' => ok = true →
    Answered tunnelID pid receipt pending hist' s' ∧
      (s'.generations pending.generation).map trimSpace = some pending.publicKey) ?_ ?_
  · refine does_act hready ⟨receipt, pending, h.toJournals, h.received, rfl, h.staged⟩ (by simp)
      (by simp) fun choice ok s' hperform hok => ?_
    subst hok
    obtain ⟨key, hkey, htrim⟩ := Option.map_eq_some_iff.1 h.staged
    simp only [performClient, hkey] at hperform
    obtain rfl := replaceFile_ok hperform
    refine ⟨⟨⟨⟨h.locked, h.receipted, h.journaled⟩, ?_⟩,
      h.received.mono (List.subset_cons_self _ _)⟩, ?_⟩
    · simp [htrim]
    · simp [htrim]
  rintro ok hist₁ s₁ hready₁ h₁
  refine does_must_bind hready₁ (fun _ => trivial) fun hok => ?_
  obtain ⟨h₁, hkey⟩ := h₁ hok
  refine Does.bind (N := fun _ hist' s' => Answered tunnelID pid receipt pending hist' s') ?_ ?_
  · refine does_act hready₁ ⟨receipt, pending, h₁.toJournals, h₁.received, rfl, hkey⟩ (by simp)
      (by simp) fun choice ok s' hperform => ?_
    cases effect_of_performClient hperform with
    | activate =>
      exact ⟨⟨⟨h₁.locked, h₁.receipted, h₁.journaled⟩, h₁.staged⟩,
        h₁.received.mono (List.subset_cons_self _ _)⟩
    | kept => exact h₁.cons
  · exact fun _ _ _ hready₂ h₂ => does_reject hready₂ (fun _ => trivial) fun _ => h₂

/-- The receipt is written from the answer, the generation is activated with the journaled
key, and the journal is removed at the end. -/
theorem does_adoptRotation {proof : RotateProof} :
    Does tunnelID pid (adoptRotation receipt pending proof) hist s
      (fun _ hist' _ => cleared hist' = true) fun _ _ => True := by
  refine Does.bind (does_writeReceipt hready h rfl ⟨rfl, rfl⟩) fun ok hist₁ s₁ hready₁ h₁ => ?_
  refine does_must_bind hready₁ (fun _ => trivial) fun hok => ?_
  replace h₁ := h₁ hok
  refine Does.bind (N := fun _ hist' s' => Answered tunnelID pid (rotatedReceipt receipt pending proof)
    pending hist' s') ?_ fun ok hist₂ s₂ hready₂ h₂ => ?_
  · exact does_read hready₁ hready₁.locked (fun _ h => by cases h; rfl) (by simp) (by simp)
      fun _ _ _ => h₁.cons
  refine does_must_bind hready₂ (fun _ => trivial) fun _ => ?_
  refine Does.bind (does_persistActivatedGeneration hready₂ h₂) fun _ hist₃ s₃ hready₃ h₃ => ?_
  refine Does.bind (N := fun _ hist' s' => Answered tunnelID pid (rotatedReceipt receipt pending proof)
    pending hist' s') ?_ fun ok hist₄ s₄ hready₄ h₄ => ?_
  · exact does_read hready₃ hready₃.locked (fun _ h => by cases h; rfl) (by simp) (by simp)
      fun _ _ _ => h₃.cons
  refine does_must_bind hready₄ (fun _ => trivial) fun _ => ?_
  refine Does.bind (does_writeReceipt hready₄ h₄ rfl ⟨rfl, rfl⟩) fun ok hist₅ s₅ hready₅ h₅ => ?_
  refine does_must_bind hready₅ (fun _ => trivial) fun hok₅ => ?_
  replace h₅ := h₅ hok₅
  refine Does.bind (N := fun ok hist' _ => ok = true → cleared hist' = true) ?_ ?_
  · refine does_act hready₅ ⟨hready₅.locked, fun other hother => ?_⟩ (by simp) (by simp) ?_
    · rw [h₅.journaled, Option.some.injEq] at hother
      exact ⟨_, h₅.receipted, hother ▸ ⟨rfl, rfl⟩⟩
    · intro choice ok s' _ hok
      subst hok
      rfl
  · exact fun _ _ _ hready₆ h₆ => does_reject hready₆ (fun _ => trivial) fun hok => h₆ (by simpa using hok)

end

theorem does_orCleanup {program : ClientProg α}
    (h : Does tunnelID pid program hist s Q fun _ _ => True) :
    Does tunnelID pid (orCleanup generation program) hist s Q fun _ _ => True := by
  refine Does.bind h.attempt ?_
  rintro (err | value) hist₁ s₁ hready₁ h₁
  · refine Does.bind (N := fun _ _ _ => True) ?_ fun _ _ _ hready₂ _ => does_fail hready₂ trivial
    exact does_act hready₁ hready₁.locked (by simp) (by simp) fun _ _ _ _ => trivial
  · exact does_done hready₁ h₁

theorem does_stopRotated (hready : Ready pid hist s) (h : cleared hist = true) :
    Does tunnelID pid (stopRotated generation) hist s (fun _ hist' _ => cleared hist' = true)
      fun _ _ => True := by
  refine Does.bind (N := fun _ hist' _ => cleared hist' = true) (does_orCleanup ?_) ?_
  · refine Does.bind (N := fun _ hist' _ => cleared hist' = true) ?_ ?_
    · exact does_act hready hready.locked (by simp) (by simp) fun _ _ _ _ => h
    · exact fun _ _ _ hready₁ h₁ => does_reject hready₁ (fun _ => trivial) fun _ => h₁
  · rintro _ hist₁ s₁ hready₁ h₁
    refine Does.bind (N := fun _ hist' _ => cleared hist' = true) ?_
      fun _ _ _ hready₂ h₂ => does_done hready₂ h₂
    exact does_act hready₁ hready₁.locked (by simp) (by simp) fun _ _ _ _ => h₁

theorem does_restartRotated (hready : Ready pid hist s) (h : cleared hist = true) :
    Does tunnelID pid (restartRotated generation) hist s (fun _ hist' _ => cleared hist' = true)
      fun _ _ => True := by
  refine Does.bind (N := fun _ hist' _ => cleared hist' = true) ?_ ?_
  · exact does_act hready hready.locked (by simp) (by simp) fun _ _ _ _ => h
  rintro state hist₁ s₁ hready₁ h₁
  refine Does.bind (N := fun _ hist' _ => cleared hist' = true) ?_ ?_
  · exact does_act hready₁ hready₁.locked (by simp) (by simp) fun _ _ _ _ => h₁
  rintro (_ | _) hist₂ s₂ hready₂ h₂
  · exact does_stopRotated hready₂ h₂
  rcases state with state | _ | _
  · refine Does.bind (N := fun _ hist' _ => cleared hist' = true) (does_orCleanup ?_) ?_
    · refine Does.bind (N := fun _ hist' _ => cleared hist' = true) ?_ ?_
      · exact does_act hready₂ hready₂.locked (by simp) (by simp) fun _ _ _ _ => h₂
      · exact fun _ _ _ hready₃ h₃ => does_reject hready₃ (fun _ => trivial) fun _ => h₃
    rintro _ hist₃ s₃ hready₃ h₃
    refine Does.bind (N := fun _ hist' _ => cleared hist' = true) ?_ ?_
    · exact does_act hready₃ hready₃.locked (by simp) (by simp) fun _ _ _ _ => h₃
    rintro (_ | _) hist₄ s₄ hready₄ h₄
    · exact does_stopRotated hready₄ h₄
    refine Does.bind (N := fun _ hist' _ => cleared hist' = true) ?_ ?_
    · exact does_act hready₄ hready₄.locked (by simp) (by simp) fun _ _ _ _ => h₄
    rintro (_ | _) hist₅ s₅ hready₅ h₅
    · exact does_stopRotated hready₅ h₅
    · exact does_done hready₅ h₅
  · exact does_stopRotated hready₂ h₂
  · exact does_stopRotated hready₂ h₂

theorem does_runRotateLocked (hready : Ready pid hist s) :
    Does tunnelID pid (runRotateLocked tunnelID) hist s (fun _ hist' _ => cleared hist' = true)
      fun _ _ => True := by
  refine Does.bind (does_loadEnrollmentReceipt hready) ?_
  rintro receipt hist₁ s₁ hready₁ hreceipt
  refine does_reject_bind hready₁ (fun _ => trivial) fun _ => ?_
  refine Does.bind (does_loadOrCreatePendingRotation hready₁ hreceipt) ?_
  rintro pending hist₂ s₂ hready₂ h₂
  refine does_reject_bind hready₂ (fun _ => trivial) fun _ => ?_
  refine Does.bind (does_managementLocalPort hready₂ h₂) fun _ hist₃ s₃ hready₃ h₃ => ?_
  refine Does.bind (does_submitRotateTwice hready₃ h₃).weaken ?_
  rintro proof hist₄ s₄ hready₄ ⟨h₄, hreceived⟩
  refine Does.bind (does_orCleanup (does_adoptRotation hready₄ ⟨h₄, hreceived⟩)) ?_
  exact fun _ _ _ hready₅ h₅ => does_restartRotated hready₅ h₅

theorem ensures_underLock (hready : Ready pid hist s) :
    Ensures (rotateProtocol tunnelID) pid .rotate
      ((runRotateLocked tunnelID).attempt.bind fun outcome =>
        (act .adminUnlock).bind fun _ => .ofExcept outcome) hist s
      ((rotateProtocol tunnelID).Ends pid .rotate) := by
  refine ensures_bind.2 (ensures_attempt.2 (Ensures.mono (does_runRotateLocked hready) ?_))
  rintro outcome hist₁ s₁ ⟨hready₁, h₁⟩
  refine ensures_bind.2 fun s₂ hrely choice reply s₃ _ _ => ?_
  have hsame : s₂ = s₁ := hrely hready₁.locked
  subst hsame
  refine ⟨⟨hready₁.locked, hready₁.gone⟩, ensures_ofExcept.2 ?_⟩
  rintro rfl
  exact ⟨choice, hist₁, rfl, h₁⟩

theorem ensures_runRotate : Ensures (rotateProtocol tunnelID) pid .rotate (runRotate tunnelID) [] s
      ((rotateProtocol tunnelID).Ends pid .rotate) := by
  refine ensures_bind.2 (ensures_bind.2 fun s₁ _ choice reply s₂ _ hperform => ⟨trivial, ?_⟩)
  have hlock : performClient pid .adminLock choice s₁ = some (reply, s₂) := hperform
  cases reply with
  | acquired =>
    refine ensures_underLock ⟨?_, ?_⟩
    · simp only [performClient] at hlock
      split_ifs at hlock
      split at hlock
      all_goals cases hlock
      rfl
    · intro hcleared
      cases hcleared
  | busy => exact fun h => by cases h
  | failed => exact fun h => by cases h

end WarpTweet
