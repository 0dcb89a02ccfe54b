import WarpTweet.Analysis.Walks
import WarpTweet.Analysis.Scenario

/-!
# What the calls on an invite do

An acceptance makes its client active and marks the invite consumed afterwards, in a
second file. Cancelling an invite and expiring it look only at the invite. So an
acceptance that ends between its two writes leaves an issued invite behind, which can be
cancelled although its client is active. The listing that expires past due invites, and
the revocation of an invite, do not take its lock at all.

While an acceptance is between its two writes we say that it has a client open. This
module follows the calls through their programs: what each has read when it writes an
invite or activates a client, and that none of them gives up with a client open, as long
as nothing fails in between.
-/

namespace WarpTweet

open Strings Concurrency Storage

def Call.onInvites : Call → Bool
  | .accept _ | .cancel _ _ | .revokeInvite _ _ | .unusedIssued _ _ | .serverRevoke _ _ => true
  | _ => false

/-! ## What a process knows of an invite -/

/-- Whether the process holds the lock after the step. -/
def holdsAfter (name : Lock) (step : HostStep) (held : Bool) : Bool :=
  match step with
  | ⟨.lock other _, _, reply⟩ => if other = name ∧ reply = .acquired then true else held
  | ⟨.unlock other, _, _⟩ => if other = name then false else held
  | _ => held

/-- The process has taken the lock and not freed it. -/
def holding (name : Lock) (hist : List HostStep) : Bool := hist.foldr (holdsAfter name) false

/-- What the process has seen of the invite after the step. -/
def seesAfter (inviteID : Text) (step : HostStep) (seen : Option Record) : Option Record :=
  match step with
  | ⟨.readInvite other, _, .found record⟩ => if other = inviteID then some record else seen
  | ⟨.writeInvite record, _, _⟩ => if record.inviteID = inviteID then none else seen
  | ⟨.lock (.invite other) _, _, _⟩ => if other = inviteID then none else seen
  | _ => seen

/-- The invite as the process has last read it, since it asked for its lock or wrote it. -/
def seenInvite (inviteID : Text) (hist : List HostStep) : Option Record :=
  hist.foldr (seesAfter inviteID) none

/-- The client that the process has made active, and whose invite it has not written
since, after the step. -/
def opensAfter (step : HostStep) (opened : Option Text) : Option Text :=
  match step with
  | ⟨.writeClient record, _, ok⟩ =>
    if ok = true ∧ record.status = .active then some record.clientID else opened
  | ⟨.writeInvite _, _, ok⟩ => if ok = true then none else opened
  | _ => opened

/-- The client that an acceptance has open: it has made it active and has not yet written
the invite. -/
def openClient (call : Call) (hist : List HostStep) : Option Text :=
  if call.enrollment.isSome then hist.foldr opensAfter none else none

section

variable {call : Call} {hist : List HostStep} {step : HostStep} {name : Lock} {inviteID : Text}

theorem holding_cons : holding name (step :: hist) = holdsAfter name step (holding name hist) := rfl

theorem seenInvite_cons :
    seenInvite inviteID (step :: hist) = seesAfter inviteID step (seenInvite inviteID hist) := rfl

theorem openClient_cons : openClient call (step :: hist) =
      if call.enrollment.isSome then opensAfter step (openClient call hist) else none := by
  unfold openClient
  split_ifs
  · rfl
  · rfl

theorem openClient_of_enrollment (h : call.enrollment = none) : openClient call hist = none := by
  simp [openClient, h]

theorem openClient_written {record : Record} {choice : Choice} :
    openClient call (⟨.writeInvite record, choice, true⟩ :: hist) = none := by
  rw [openClient_cons]
  split_ifs
  · rfl
  · rfl

theorem openClient_keep (h : ∀ opened, opensAfter step opened = opened) :
    openClient call (step :: hist) = openClient call hist := by
  rw [openClient_cons, h]
  unfold openClient
  split_ifs
  · rfl
  · rfl

end

/-! ## The condition -/

/-- What an action that writes an invite has to meet. Without the lock of the invite,
nobody holds it, and an invite is marked expired only while it is issued; an invite is
marked revoked only while the client it names is not live. -/
def WritesSettled (s : Host) (hist : List HostStep) : Action → Prop
  | .writeInvite record =>
    (holding (.invite record.inviteID) hist = false →
      s.locks (.invite record.inviteID) = none ∧
        (record.status = .expired →
          ∀ stored ∈ s.invites.get record.inviteID, stored.status = .issued)) ∧
    (record.status = .revoked → ∀ stored ∈ s.invites.get record.inviteID,
      ∀ client ∈ s.clients.get stored.clientID, ¬ Live client)
  | _ => True

/-- An acceptance that has a client open goes on without a failure, no activation is
reported as failed after it took effect, and the clock is not read as zero. -/
def ClosesWhole (call : Call) (hist : List HostStep) (choice : Choice) (action : Action) : Prop :=
  (openClient call hist ≠ none → choice.outcome = .ok) ∧
    match action with
    | .writeClient record => record.status = .active → choice.outcome ≠ .torn
    | .now => choice.time.isZero = false
    | _ => True

instance (s : Host) (hist : List HostStep) (action : Action) :
    Decidable (WritesSettled s hist action) := by
  unfold WritesSettled
  split <;> infer_instance

instance (call : Call) (hist : List HostStep) (choice : Choice) (action : Action) :
    Decidable (ClosesWhole call hist choice action) := by
  unfold ClosesWhole
  split <;> infer_instance

/-- No process is stopped while it has a client open. -/
def StopsClosed (c : Pool) : HostMove → Prop
  | .stop pid => ∀ process ∈ c.procs pid, openClient process.call process.hist = none
  | _ => True

instance (c : Pool) (move : HostMove) : Decidable (StopsClosed c move) :=
  match move with
  | .stop pid => inferInstanceAs (Decidable (∀ process ∈ c.procs pid,
      openClient process.call process.hist = none))
  | .start _ _ | .advance _ _ => .isTrue trivial

/-- Calls on invites that meet the condition. -/
abbrev ClosesInvites : Pool → HostMove → Prop := fun c move =>
  Starts (fun call : Call => call.onInvites = true) c move ∧ StopsClosed c move ∧
    OnAction (fun c process action choice => WritesSettled c.state process.hist action ∧
      ClosesWhole process.call process.hist choice action) c move

/-! ## The steps of the calls -/

/-- What a call on an invite has read before it writes. -/
def InviteStep (call : Call) (hist : List HostStep) : Action → Prop
  | .writeInvite record =>
    match record.status with
    | .issued => False
    | .consumed => (∀ clientID ∈ openClient call hist, clientID = record.clientID) ∧
        (∀ request ∈ call.enrollment, request.inviteID = record.inviteID) ∧
        holding (.invite record.inviteID) hist = true ∧
        ∃ read ∈ seenInvite record.inviteID hist, read.status = .issued
    | .cancelled => openClient call hist = none ∧
        holding (.invite record.inviteID) hist = true ∧
        ∃ read ∈ seenInvite record.inviteID hist, read.status ≠ .consumed
    | .expired => openClient call hist = none ∧
        (holding (.invite record.inviteID) hist = true →
          ∃ read ∈ seenInvite record.inviteID hist, read.status ≠ .consumed)
    | .revoked => openClient call hist = none
  | .writeClient record => call.enrollment.isSome = true → record.status = .active →
      openClient call hist = none ∧ holding (.invite record.inviteID) hist = true ∧
        ∃ read ∈ seenInvite record.inviteID hist, read.status = .issued
  | .unlock (.invite _) => openClient call hist = none
  | _ => True

/-- What is assumed of an action of a call on an invite. -/
structure InviteAssumption (call : Call) (hist : List HostStep) (action : Action) (choice : Choice)
    (s : Host) : Prop where
  whole : ClosesWhole call hist choice action
  unchanged : ∀ inviteID, action = .readInvite inviteID →
    holding (.invite inviteID) hist = true → ∀ record ∈ seenInvite inviteID hist,
      s.invites.get inviteID = some record

def inviteProtocol (site : Site) : Protocol (hostMachine site) where
  Rely _ _ _ := True
  Assume _ := InviteAssumption
  Guard _ call hist action _ _ := InviteStep call hist action
  rely_refl _ _ := trivial
  rely_trans _ _ := trivial
  guard_rely _ _ _ := trivial
  release_rely _ := trivial

/-- The action is not about an invite and writes no client record. -/
def Action.apart : Action → Bool
  | .lock (.invite _) _ | .unlock (.invite _) | .readInvite _ | .writeInvite _ => false
  | .writeClient _ => false
  | _ => true

/-- An acceptance holds the lock of its invite, has read it, and has this client open. -/
structure Accepting (call : Call) (inviteID : Text) (read : Record) (opened : Option Text)
    (hist : List HostStep) : Prop where
  holds : holding (.invite inviteID) hist = true
  sees : seenInvite inviteID hist = some read
  opens : openClient call hist = opened

variable {publicKey : Text} {published : PublishedEndpointSet} {generation : Nat}
  {site : Site} {pid : ℕ} {call : Call} {hist : List HostStep} {s : Host} {α : Type}
  {inviteID clientID : Text} {read record : Record} {opened : Option Text} {action : Action}
  {program : HostProg α} {invite : Invite} {now : Time} {input : AcceptInput}

theorem opensAfter_of_apart {step : HostStep} (h : step.action.apart = true) (opened : Option Text) :
    opensAfter step opened = opened := by
  obtain ⟨action, choice, reply⟩ := step
  cases action <;> first | rfl | cases h

theorem Accepting.cons {step : HostStep} (h : Accepting call inviteID read opened hist)
    (hstep : step.action.apart = true) : Accepting call inviteID read opened (step :: hist) := by
  refine ⟨?_, ?_, (openClient_keep (opensAfter_of_apart hstep)).trans h.opens⟩
  · rw [holding_cons, ← h.holds]
    obtain ⟨action, choice, reply⟩ := step
    cases action with
    | lock name wait => cases name <;> first | rfl | cases hstep
    | unlock name => cases name <;> first | rfl | cases hstep
    | _ => rfl
  · rw [seenInvite_cons, ← h.sees]
    obtain ⟨action, choice, reply⟩ := step
    cases action with
    | lock name wait => cases name <;> first | rfl | cases hstep
    | _ => first | rfl | cases hstep

theorem inviteStep_of_apart (h : action.apart = true) : InviteStep call hist action := by
  cases action with
  | unlock name => cases name <;> trivial
  | writeInvite | writeClient => cases h
  | _ => trivial

/-- The program keeps to the protocol, and where it fails no client is open. -/
abbrev KeepsClosed (site : Site) (pid : ℕ) (call : Call) (program : HostProg α) (hist : List HostStep)
    (s : Host) (Q : α → List HostStep → Prop) : Prop :=
  Leaves (inviteProtocol site) pid call program hist s Q fun hist' => openClient call hist' = none

theorem accepting_of_uses (huses : program.Uses fun action => action.apart = true)
    (h : Accepting call inviteID read none hist) :
    Leaves (inviteProtocol site) pid call program hist s
      (fun _ => Accepting call inviteID read none) (Accepting call inviteID read none) :=
  leaves_of_uses huses h (fun _ haction _ _ _ _ => inviteStep_of_apart haction)
    fun _ haction _ _ _ h => h.cons haction

theorem closes_of_uses (huses : program.Uses fun action => action.apart = true)
    (h : Accepting call inviteID read none hist) :
    KeepsClosed site pid call program hist s fun _ => Accepting call inviteID read none := by
  refine Ensures.mono (accepting_of_uses huses h) ?_
  rintro (err | value) hist' s' h
  · exact h.opens
  · exact h

theorem closes_load (hopen : openClient call hist = none) :
    KeepsClosed site pid call (load site.env inviteID) hist s fun record hist' =>
      ∃ choice read invite, hist' = ⟨.readInvite inviteID, choice, .found read⟩ :: hist ∧
        isHexID inviteID = true ∧ read.inviteID = inviteID ∧
        canonicalizeStoredInvite site.env read.toInvite = .ok invite ∧
        record = { read with toInvite := invite } := by
  refine leaves_refuse_bind (fun _ => hopen) fun hhex => ?_
  refine Leaves.bind (N := fun reply hist' => ∃ choice,
    hist' = ⟨.readInvite inviteID, choice, reply⟩ :: hist ∧
      ∀ read, reply = .found read → read.inviteID = inviteID) ?_ ?_
  · refine leaves_action fun choice reply s₁ s₂ _ hperform => ⟨trivial, choice, rfl, ?_⟩
    rintro read rfl
    have hid := Directory.key_of_get (readInvite_found hperform).1
    exact hid
  · rintro (read | _ | _) _ s₁ ⟨choice, rfl, hid⟩
    · refine leaves_ofExcept_bind (fun _ _ => hopen) fun invite hinvite => leaves_done ?_
      exact ⟨choice, read, invite, rfl, by simpa using hhex, hid read rfl, hinvite, rfl⟩
    · exact leaves_fail hopen
    · exact leaves_fail hopen

theorem closes_load_open
    (h : Accepting call inviteID read (some clientID) hist) (hhex : isHexID inviteID = true)
    (hcanonical : canonicalizeStoredInvite site.env read.toInvite = .ok invite) :
    KeepsClosed site pid call (load site.env inviteID) hist s fun record hist' =>
      record = { read with toInvite := invite } ∧
        Accepting call inviteID read (some clientID) hist' := by
  refine leaves_refuse_bind (fun hbad => by simp [hhex] at hbad) fun _ => ?_
  refine Leaves.bind (N := fun reply hist' => reply = .found read ∧
    Accepting call inviteID read (some clientID) hist') ?_ ?_
  · refine leaves_action fun choice reply s₁ s₂ hassume hperform => ⟨trivial, ?_⟩
    have hstored := hassume.unchanged inviteID rfl h.holds read h.sees
    have hok : choice.outcome = .ok := hassume.whole.1 (by simp [h.opens])
    simp only [performAction, hok, Outcome.reports, if_true, hstored, Option.some.injEq,
      Prod.mk.injEq] at hperform
    obtain ⟨rfl, rfl⟩ := hperform
    refine ⟨rfl, h.holds, ?_, h.opens⟩
    simp [seenInvite_cons, seesAfter]
  · rintro _ hist₁ s₁ ⟨rfl, h₁⟩
    refine leaves_ofExcept_bind (fun err herror => ?_) fun value hvalue => leaves_done ⟨?_, h₁⟩
    · rw [hcanonical] at herror
      cases herror
    · rw [hcanonical] at hvalue
      cases hvalue
      rfl

theorem closes_consume_open {expires : Time} (h : Accepting call inviteID read (some clientID) hist)
    (hrequest : ∀ request ∈ call.enrollment, request.inviteID = inviteID)
    (hhex : isHexID inviteID = true) (hid : read.inviteID = inviteID)
    (hcanonical : canonicalizeStoredInvite site.env read.toInvite = .ok invite)
    (hissued : read.status = .issued) (hzero : now.isZero = false)
    (hexpiry : inviteExpiry { read with toInvite := invite } = some expires)
    (hnow : now < expires) :
    KeepsClosed site pid call (consume site.env inviteID clientID now) hist s fun _ hist' =>
      openClient call hist' = none := by
  refine Leaves.bind (closes_load_open h hhex hcanonical) ?_
  rintro _ hist₁ s₁ ⟨rfl, h₁⟩
  refine leaves_refuse_bind (fun hbad => by simp [hissued] at hbad) fun _ => ?_
  have horNow : orNow now = pure now := by simp [orNow, hzero]
  rw [horNow, Prog.pure_eq_done, Prog.bind_eq, Prog.bind, hexpiry]
  dsimp only
  rw [if_neg (by simpa using hnow)]
  obtain ⟨dataHost, enrollHost, hinvite⟩ := fields_of_canonicalizeStoredInvite hcanonical
  have hsame : invite.inviteID = inviteID := by rw [hinvite, ← hid]
  refine Leaves.bind (Leaves.bind (N := fun ok hist' => ok = true ∧ openClient call hist' = none)
    ?_ ?_) fun _ hist₂ s₂ => leaves_done
  · refine leaves_action fun choice reply s₂ s₃ hassume hperform => ⟨?_, ?_⟩
    · refine ⟨fun other hother => ?_, hsame ▸ hrequest, ?_, read, ?_, hissued⟩
      · rw [h₁.opens, Option.mem_some_iff] at hother
        exact hother.symm
      · exact hsame ▸ h₁.holds
      · exact hsame ▸ h₁.sees
    · have hok : choice.outcome = .ok := hassume.whole.1 (by simp [h₁.opens])
      obtain rfl : reply = choice.outcome.reports := writeInvite_reply hperform
      rw [hok]
      exact ⟨rfl, openClient_written⟩
  · rintro ok hist₂ s₂ ⟨rfl, hopen⟩
    exact leaves_done hopen

theorem apart_orNow : (orNow now).Uses fun action => action.apart = true := by
  unfold orNow
  split_ifs
  · exact ⟨rfl, fun _ => trivial⟩
  · trivial

theorem closes_performWriteInvite (hopen : openClient call hist = none)
    (hstep : InviteStep call hist (.writeInvite record)) :
    KeepsClosed site pid call (perform (.writeInvite record)) hist s fun _ hist' =>
      openClient call hist' = none := by
  refine leaves_action fun choice ok s₁ s₂ _ _ => ⟨hstep, ?_⟩
  cases ok with
  | true => exact openClient_written
  | false =>
    rw [openClient_keep (fun _ => by simp [opensAfter])]
    exact hopen

theorem closes_writeInvite (hopen : openClient call hist = none)
    (hstep : InviteStep call hist (.writeInvite record)) :
    KeepsClosed site pid call (writeInvite record) hist s fun _ hist' =>
      openClient call hist' = none := by
  refine Leaves.bind (closes_performWriteInvite hopen hstep) fun ok hist₁ s₁ hopen₁ => ?_
  cases ok with
  | true => exact leaves_done hopen₁
  | false => exact leaves_fail hopen₁

theorem closes_consume (hrequest : ∀ request ∈ call.enrollment, request.inviteID = inviteID)
    (hholds : holding (.invite inviteID) hist = true) (hopen : openClient call hist = none) :
    KeepsClosed site pid call (consume site.env inviteID clientID now) hist s fun _ hist' =>
      openClient call hist' = none := by
  refine Leaves.bind (closes_load hopen) ?_
  rintro _ _ s₁ ⟨choice, read, invite, rfl, -, hid, hcanonical, rfl⟩
  obtain ⟨dataHost, enrollHost, hinvite⟩ := fields_of_canonicalizeStoredInvite hcanonical
  have hsame : invite.inviteID = inviteID := by rw [hinvite, ← hid]
  have haccepting : Accepting call inviteID read none
      (⟨.readInvite inviteID, choice, .found read⟩ :: hist) :=
    ⟨hholds, by simp [seenInvite_cons, seesAfter], hopen⟩
  refine leaves_refuse_bind (fun _ => hopen) fun hgood => ?_
  have hissued : read.status = .issued := by simpa using hgood
  refine Leaves.bind (closes_of_uses apart_orNow haccepting) ?_
  intro now' hist₂ s₂ h₂
  cases inviteExpiry { read with toInvite := invite } with
  | none => exact leaves_fail h₂.opens
  | some expires =>
    dsimp only
    split_ifs
    · refine Leaves.bind (closes_writeInvite h₂.opens ?_) fun _ _ _ hopen₃ => leaves_done hopen₃
      exact ⟨by simp [h₂.opens], hsame ▸ hrequest, hsame ▸ h₂.holds, read, hsame ▸ h₂.sees, hissued⟩
    · refine Leaves.bind (closes_performWriteInvite h₂.opens ?_) fun _ _ _ hopen₃ => leaves_fail hopen₃
      exact ⟨h₂.opens, fun _ => ⟨read, hsame ▸ h₂.sees, by simp [hissued]⟩⟩

theorem accepting_loadClient (h : Accepting call inviteID read none hist) :
    Leaves (inviteProtocol site) pid call (loadClient clientID) hist s
      (fun record hist' => record.clientID = clientID ∧ Accepting call inviteID read none hist')
      (Accepting call inviteID read none) := by
  refine leaves_refuse_bind (fun _ => h) fun _ => ?_
  refine Leaves.bind (N := fun reply hist' => (∀ record, reply = .found record →
    record.clientID = clientID) ∧ Accepting call inviteID read none hist') ?_ ?_
  · refine leaves_action fun choice reply s₁ s₂ _ hperform => ⟨trivial, ?_, h.cons rfl⟩
    rintro record rfl
    exact Directory.key_of_get (readClient_found hperform).1
  · rintro (record | _ | _) hist₁ s₁ ⟨hid, h₁⟩
    · exact leaves_done ⟨hid record rfl, h₁⟩
    · exact leaves_fail h₁
    · exact leaves_fail h₁

theorem apart_loadClient : (loadClient clientID).Uses fun action => action.apart = true := by
  refine .bind Prog.uses_ofExcept fun _ => .bind ⟨rfl, fun _ => trivial⟩ fun reply => ?_
  cases reply <;> trivial

theorem closes_activateClient {client : ClientRecord} (hcall : call.enrollment.isSome = true)
    (h : Accepting call inviteID read none hist) (hissued : read.status = .issued)
    (hinvite : client.inviteID = inviteID) :
    KeepsClosed site pid call (activateClient client) hist s fun _ hist' =>
      Accepting call inviteID read none hist' ∨
        Accepting call inviteID read (some client.clientID) hist' := by
  unfold activateClient
  split_ifs with hpending
  · refine leaves_refuse_bind (fun _ => h.opens) fun _ => ?_
    refine leaves_withLock (N := fun _ hist' => Accepting call inviteID read none hist' ∨
        Accepting call inviteID read (some client.clientID) hist')
      (F := Accepting call inviteID read none) (fun _ _ => trivial)
      (fun choice reply _ => (h.cons rfl).opens) ?_ ?_ ?_
    · intro choice s₁
      refine Leaves.bind (accepting_loadClient (h.cons rfl)) fun _ hist₂ s₂ ⟨_, h₂⟩ => ?_
      refine Leaves.bind (N := fun ok hist' => Accepting call inviteID read
        (if ok = true then some client.clientID else none) hist') ?_ ?_
      · refine leaves_action fun choice ok s₃ s₄ _ _ => ⟨fun _ _ => ?_, h₂.holds, h₂.sees, ?_⟩
        · exact ⟨h₂.opens, hinvite ▸ h₂.holds, read, hinvite ▸ h₂.sees, hissued⟩
        · cases ok <;> simp [openClient_cons, hcall, opensAfter, h₂.opens]
      · rintro (_ | _) hist₃ s₃ h₃
        · exact leaves_fail h₃
        · exact leaves_done (.inr h₃)
    · rintro _ hist' (h' | h') choice reply s'
      · exact ⟨trivial, .inl (h'.cons rfl)⟩
      · exact ⟨trivial, .inr (h'.cons rfl)⟩
    · intro hist' h' choice reply s'
      exact ⟨trivial, (h'.cons rfl).opens⟩
  · exact leaves_done (.inl h)

theorem apart_installAuthorization {notAfter : Time} :
    (installAuthorization site.env site.manifest publicKey notAfter).Uses
      fun action => action.apart = true :=
  .bind ⟨rfl, fun _ => trivial⟩ fun _ => .bind Prog.uses_ofExcept fun _ =>
    .bind ⟨rfl, fun _ => trivial⟩ fun _ => Prog.uses_ofExcept

/-- The client that an acceptance goes on with carries the invite of the record it
wanted. -/
theorem closes_storeOrResumePendingClient {want : ClientRecord}
    (h : Accepting call inviteID read none hist) :
    KeepsClosed site pid call (storeOrResumePendingClient site.env want) hist s fun client hist' =>
      client.inviteID = want.inviteID ∧ client.clientID = want.clientID ∧
        Accepting call inviteID read none hist' := by
  have hstore : (storeClient want).Uses fun action => action.apart = true := by
    refine .bind Prog.uses_ofExcept fun _ => .bind ⟨rfl, fun _ => trivial⟩ fun reply => ?_
    cases reply <;> trivial
  refine Leaves.bind (accepting_of_uses hstore h).attempt ?_
  rintro (err | _) hist₁ s₁ h₁
  · refine Leaves.bind (accepting_loadClient h₁).attempt ?_
    rintro (err' | existing) hist₂ s₂ h₂
    · exact leaves_fail h₂.opens
    · obtain ⟨hid, h₂⟩ := h₂
      refine leaves_refuse_bind (fun _ => h₂.opens) fun hresumes => leaves_done ⟨?_, hid, h₂⟩
      simp only [resumesPending, Bool.not_eq_false', Bool.and_eq_true, decide_eq_true_eq] at hresumes
      obtain ⟨⟨⟨⟨⟨⟨⟨⟨⟨⟨-, hinvite⟩, -⟩, -⟩, -⟩, -⟩, -⟩, -⟩, -⟩, -⟩, -⟩ := hresumes
      exact hinvite
  · exact leaves_done ⟨rfl, rfl, h₁⟩

theorem closes_acceptIssued {expires : Time} (hcall : call.enrollment = some input.request)
    (h : Accepting call input.request.inviteID read none hist)
    (hhex : isHexID input.request.inviteID = true) (hid : read.inviteID = input.request.inviteID)
    (hcanonical : canonicalizeStoredInvite site.env read.toInvite = .ok invite)
    (hissued : read.status = .issued) (hzero : now.isZero = false)
    (hexpiry : inviteExpiry { read with toInvite := invite } = some expires)
    (hnow : now < expires) : KeepsClosed site pid call (acceptIssued site.env input
      (installAuthorization site.env site.manifest) { read with toInvite := invite } published now)
      hist s fun _ hist' => openClient call hist' = none := by
  obtain ⟨dataHost, enrollHost, hinvite⟩ := fields_of_canonicalizeStoredInvite hcanonical
  have hsame : invite.inviteID = input.request.inviteID := by rw [hinvite, ← hid]
  have hrequest : ∀ request ∈ call.enrollment, request.inviteID = input.request.inviteID := by
    simp [hcall]
  refine leaves_refuse_bind (fun _ => h.opens) fun _ =>
    leaves_ofExcept_bind (fun _ _ => h.opens) fun end_ _ => ?_
  refine Leaves.bind (closes_storeOrResumePendingClient h) ?_
  rintro client hist₁ s₁ ⟨hclient, hclientID, h₁⟩
  refine leaves_ofExcept_bind (fun _ _ => h₁.opens) fun notAfter _ => ?_
  refine Leaves.bind (closes_of_uses apart_installAuthorization h₁).mapError fun _ hist₂ s₂ h₂ => ?_
  refine Leaves.bind (closes_activateClient (by simp [hcall]) h₂ hissued (hclient.trans hsame))
    fun _ hist₃ s₃ h₃ => ?_
  refine Leaves.bind (N := fun _ hist' => openClient call hist' = none) ?_
    fun _ _ _ hopen => leaves_done hopen
  dsimp only
  rw [hsame]
  rcases h₃ with h₃ | h₃
  · exact closes_consume hrequest h₃.holds h₃.opens
  · have hopened : clientIDFor site.env input.request.inviteID
        (trimSpace input.request.publicKey) = client.clientID := by
      rw [hclientID, ← hsame]
      rfl
    rw [hopened]
    exact closes_consume_open h₃ hrequest hhex hid hcanonical hissued hzero hexpiry hnow

theorem closes_orNow (hopen : openClient call hist = none) :
    KeepsClosed site pid call (orNow now) hist s fun now' hist' =>
      now'.isZero = false ∧ openClient call hist' = none := by
  unfold orNow
  split_ifs with hzero
  · refine leaves_action fun choice time s₁ s₂ hassume hperform => ⟨trivial, ?_, hopen⟩
    simp only [performAction, Option.some.injEq, Prod.mk.injEq] at hperform
    rw [← hperform.1]
    exact hassume.whole.2
  · exact leaves_done ⟨by simpa using hzero, hopen⟩

theorem closes_resumeAcceptedEnrollment (h : Accepting call inviteID read none hist) :
    KeepsClosed site pid call (resumeAcceptedEnrollment site.env input
      (installAuthorization site.env site.manifest) record clientID publicKey) hist s
      fun _ hist' => openClient call hist' = none := by
  refine leaves_refuse_bind (fun _ => h.opens) fun _ => ?_
  refine Leaves.bind (closes_of_uses apart_loadClient h).mapError fun client hist₁ s₁ h₁ => ?_
  refine leaves_refuse_bind (fun _ => h₁.opens) fun _ =>
    leaves_ofExcept_bind (fun _ _ => h₁.opens) fun notAfter _ => ?_
  refine Leaves.bind (closes_of_uses apart_installAuthorization h₁).mapError fun _ hist₂ s₂ h₂ => ?_
  exact leaves_done h₂.opens

theorem closes_acceptLocked (hcall : call.enrollment = some input.request)
    (hholds : holding (.invite input.request.inviteID) hist = true)
    (hopen : openClient call hist = none) (hzero : now.isZero = false) :
    KeepsClosed site pid call (acceptLocked site.env input
      (installAuthorization site.env site.manifest) published now) hist s
      fun _ hist' => openClient call hist' = none := by
  refine Leaves.bind (closes_load hopen).mapError ?_
  rintro _ _ s₁ ⟨choice, read, invite, rfl, hhex, hid, hcanonical, rfl⟩
  have h : Accepting call input.request.inviteID read none
      (⟨.readInvite input.request.inviteID, choice, .found read⟩ :: hist) :=
    ⟨hholds, by simp [seenInvite_cons, seesAfter], hopen⟩
  obtain ⟨dataHost, enrollHost, hinvite⟩ := fields_of_canonicalizeStoredInvite hcanonical
  have hsame : invite.inviteID = input.request.inviteID := by rw [hinvite, ← hid]
  refine leaves_ofExcept_bind (fun _ _ => hopen) fun recordSet _ =>
    leaves_refuse_bind (fun _ => hopen) fun _ => ?_
  dsimp only
  split_ifs with hconsumed
  · exact closes_resumeAcceptedEnrollment h
  · refine leaves_ofExcept_bind (fun _ _ => hopen) fun _ hchecked => ?_
    have hissued : read.status = .issued := by
      simp only [checkIssued, except_bind_eq_ok, refuseIf_eq_ok] at hchecked
      obtain ⟨-, hstatus, -⟩ := hchecked
      simpa using hstatus
    cases hexpiry : inviteExpiry { read with toInvite := invite } with
    | none => exact leaves_fail hopen
    | some expires =>
      dsimp only
      split_ifs with hnow
      · exact closes_acceptIssued hcall h hhex hid hcanonical hissued hzero hexpiry hnow
      · refine Leaves.bind (closes_performWriteInvite hopen ?_) fun _ _ _ hopen₂ =>
          leaves_fail hopen₂
        exact ⟨hopen, fun _ => ⟨read, hsame ▸ h.sees, by simp [hissued]⟩⟩

theorem closes_accept (hcall : call.enrollment = some input.request)
    (hopen : openClient call hist = none) :
    KeepsClosed site pid call (accept site.env input (installAuthorization site.env site.manifest))
      hist s fun _ hist' => openClient call hist' = none := by
  refine leaves_ofExcept_bind (fun _ _ => hopen) fun published _ => ?_
  refine Leaves.bind (closes_orNow hopen) ?_
  rintro now hist₁ s₁ ⟨hzero, hopen₁⟩
  refine leaves_withLock (F := fun hist' => openClient call hist' = none)
    (N := fun _ hist' => openClient call hist' = none) (fun _ _ => trivial)
    (fun _ _ _ => hopen₁) ?_ (fun _ _ hopen₂ _ _ _ => ⟨hopen₂, hopen₂⟩)
    (fun _ hopen₂ _ _ _ => ⟨hopen₂, hopen₂⟩)
  intro choice s₂
  refine closes_acceptLocked hcall ?_ hopen₁ hzero
  simp [holding_cons, holdsAfter]

/-! ## The other calls -/

def Action.writesInvite : Action → Bool
  | .writeInvite _ => true
  | _ => false

theorem inviteStep_of_enrollment (hcall : call.enrollment = none)
    (h : action.writesInvite = false) : InviteStep call hist action := by
  cases action with
  | writeInvite record => cases h
  | writeClient record => simp [InviteStep, hcall]
  | unlock name =>
    cases name with
    | invite other => exact openClient_of_enrollment hcall
    | _ => trivial
  | _ => trivial

theorem writesInvite_of_apart (h : action.apart = true) : action.writesInvite = false := by
  cases action with
  | writeInvite record => cases h
  | _ => rfl

theorem closes_of_silent (hcall : call.enrollment = none)
    (huses : program.Uses fun action => action.writesInvite = false) :
    KeepsClosed site pid call program hist s fun _ _ => True := by
  refine Ensures.mono (leaves_of_uses (I := fun _ => True) huses trivial ?_ ?_) ?_
  · exact fun _ haction _ _ _ _ => inviteStep_of_enrollment hcall haction
  · exact fun _ _ _ _ _ _ => trivial
  · rintro (err | value) hist' s' -
    · exact openClient_of_enrollment hcall
    · trivial

theorem closes_cancel (hcall : call.enrollment = none) :
    KeepsClosed site pid call (cancel site.env inviteID now) hist s fun _ _ => True := by
  have hopen : ∀ hist, openClient call hist = none := fun _ => openClient_of_enrollment hcall
  refine leaves_withLock (F := fun hist' => openClient call hist' = none) (N := fun _ _ => True)
    (fun _ _ => trivial) (fun _ _ _ => hopen _) ?_ (fun _ _ _ _ _ _ => ⟨hopen _, trivial⟩)
    (fun _ _ _ _ _ => ⟨hopen _, hopen _⟩)
  intro choice s₁
  refine Leaves.bind (closes_load (hopen _)) ?_
  rintro _ _ s₂ ⟨choice', read, invite, rfl, -, hid, hcanonical, rfl⟩
  obtain ⟨dataHost, enrollHost, hinvite⟩ := fields_of_canonicalizeStoredInvite hcanonical
  have hsame : invite.inviteID = inviteID := by rw [hinvite, ← hid]
  have h : Accepting call inviteID read none (⟨.readInvite inviteID, choice', .found read⟩ ::
      ⟨.lock (.invite inviteID) true, choice, .acquired⟩ :: hist) :=
    ⟨by simp [holding_cons, holdsAfter], by simp [seenInvite_cons, seesAfter], hopen _⟩
  split_ifs with hcancelled
  · exact leaves_done trivial
  · refine leaves_refuse_bind (fun _ => hopen _) fun hgood => ?_
    refine Leaves.bind (closes_of_uses apart_orNow h) fun now' hist₃ s₃ h₃ => ?_
    refine Leaves.bind (closes_writeInvite h₃.opens ?_) fun _ _ _ _ => leaves_done trivial
    refine ⟨h₃.opens, hsame ▸ h₃.holds, read, hsame ▸ h₃.sees, ?_⟩
    rintro hconsumed
    simp [hconsumed] at hgood

theorem closes_revoke (hcall : call.enrollment = none) :
    KeepsClosed site pid call (revoke site.env inviteID now) hist s fun _ _ => True := by
  have hopen : ∀ hist, openClient call hist = none := fun _ => openClient_of_enrollment hcall
  refine Leaves.bind (closes_load (hopen _)) fun record hist₁ s₁ _ => ?_
  split_ifs
  · exact leaves_done trivial
  · refine leaves_refuse_bind (fun _ => hopen _) fun _ => ?_
    refine Leaves.bind (closes_orNow (hopen _)) fun now' hist₂ s₂ _ => ?_
    exact Leaves.bind (closes_writeInvite (hopen _) (hopen _)) fun _ _ _ _ => leaves_done trivial

/-- The actions of the listing that marks past due invites as expired. -/
def Action.expires : Action → Bool
  | .lock (.invite _) _ => false
  | .writeInvite record => record.status = .expired
  | _ => true

theorem inviteStep_of_expires (hcall : call.enrollment = none)
    (h : action.expires = true) (hfree : ∀ inviteID, holding (.invite inviteID) hist = false) :
    InviteStep call hist action := by
  cases action with
  | writeInvite record =>
    have hstatus : record.status = .expired := by simpa [Action.expires] using h
    simp [InviteStep, hstatus, openClient_of_enrollment hcall, hfree]
  | _ => exact inviteStep_of_enrollment hcall rfl

theorem expires_load : (load site.env inviteID).Uses fun action => action.expires = true := by
  refine .bind Prog.uses_ofExcept fun _ => .bind ⟨rfl, fun _ => trivial⟩ fun reply => ?_
  rcases reply with record | _ | _
  · exact .bind Prog.uses_ofExcept fun _ => trivial
  · trivial
  · trivial

theorem expires_unusedIssuedForGeneration : (unusedIssuedForGeneration site.env generation now).Uses
      fun action => action.expires = true := by
  refine .bind ?_ fun now' => .bind (.bind ⟨rfl, fun _ => trivial⟩ fun names => ?_)
    fun records => .fold (fun issued record => ?_) _ _
  · unfold orNow
    split_ifs
    · exact ⟨rfl, fun _ => trivial⟩
    · trivial
  · cases names with
    | none => trivial
    | some names => exact .collect (fun _ => expires_load) _
  · split_ifs
    · trivial
    · exact .bind ⟨rfl, fun _ => trivial⟩ fun _ => trivial
    · trivial

theorem closes_unusedIssued (hcall : call.enrollment = none) :
    KeepsClosed site pid call (callProgram site (.unusedIssued generation now)) [] s
      fun _ _ => True := by
  have huses : (callProgram site (.unusedIssued generation now)).Uses
      fun action => action.expires = true :=
    uses_withLock rfl rfl (.bind expires_unusedIssuedForGeneration fun _ => trivial)
  refine Ensures.mono (leaves_of_uses
    (I := fun hist => ∀ inviteID, holding (.invite inviteID) hist = false) huses ?_ ?_ ?_) ?_
  · exact fun _ => rfl
  · exact fun _ haction _ _ _ hfree => inviteStep_of_expires hcall haction hfree
  · intro action haction hist choice reply hfree inviteID
    rw [holding_cons, ← hfree inviteID]
    cases action with
    | lock name wait => cases name <;> first | rfl | cases haction
    | unlock name =>
      simp only [holdsAfter, hfree]
      split_ifs
      · rfl
      · rfl
    | _ => rfl
  · rintro (err | value) hist' s' -
    · exact openClient_of_enrollment hcall
    · trivial

theorem silent_revokeClientAsHost :
    (revokeClientAsHost site.env clientID now).Uses fun action => action.writesInvite = false := by
  have hremove : ∀ publicKey, (removeAuthorization publicKey).Uses
      fun action => action.writesInvite = false :=
    fun _ => .bind ⟨rfl, fun _ => trivial⟩ fun _ => Prog.uses_ofExcept
  have hsessions : ∀ clientID, (enforceSessions true clientID).Uses
      fun action => action.writesInvite = false := fun _ =>
    .bind (.bind ⟨rfl, fun _ => trivial⟩ fun _ => Prog.uses_ofExcept) fun _ =>
      .bind ⟨rfl, fun _ => trivial⟩ fun _ => Prog.uses_ofExcept
  have hwrite : ∀ record, (writeClientAtomic record).Uses
      fun action => action.writesInvite = false :=
    fun _ => .bind ⟨rfl, fun _ => trivial⟩ fun _ => Prog.uses_ofExcept
  have hcomplete : ∀ record now, (completeRevocationAsHost site.env now record).Uses
      fun action => action.writesInvite = false := by
    intro record now
    refine .bind (hremove _) fun _ => .bind ?_ fun _ => .bind (hsessions _) fun _ =>
      .bind (.bind ⟨rfl, fun _ => trivial⟩ fun token => ?_) fun _ =>
        .bind (hwrite _) fun _ => trivial
    · unfold removePendingAuthorization
      split_ifs
      · exact hremove _
      · trivial
    · cases token <;> trivial
  refine .bind (apart_orNow.mono fun _ => writesInvite_of_apart) fun now =>
    .bind Prog.uses_ofExcept fun _ => .bind Prog.uses_ofExcept fun _ => uses_withLock rfl rfl
      (.bind (apart_loadClient.mono fun _ => writesInvite_of_apart).mapError fun record => ?_)
  · split_ifs
    · exact .bind (hremove _) fun _ => .bind (hsessions _) fun _ => trivial
    · exact .bind Prog.uses_ofExcept fun _ => .bind (hwrite _) fun _ => hcomplete _ _
    · exact .bind Prog.uses_ofExcept fun _ => hcomplete _ _

theorem closes_serverRevoke {id : Text} (hcall : call.enrollment = none) :
    KeepsClosed site pid call (serverRevoke site.env id now) hist s fun _ _ => True := by
  have hopen : ∀ hist, openClient call hist = none := fun _ => openClient_of_enrollment hcall
  refine leaves_refuse_bind (fun _ => hopen _) fun _ => ?_
  refine Leaves.bind (closes_load (hopen _)).attempt ?_
  rintro (err | record) hist₁ s₁ -
  · dsimp only
    split_ifs
    · exact leaves_fail (hopen _)
    · have hload : (loadClient id).attempt.Uses fun action => action.writesInvite = false :=
        (apart_loadClient.mono fun _ => writesInvite_of_apart).attempt
      refine Leaves.bind (closes_of_silent hcall hload) ?_
      rintro (err' | client) hist₂ s₂ -
      · dsimp only
        split_ifs
        · exact leaves_fail (hopen _)
        · exact leaves_fail (hopen _)
      · exact Leaves.bind (closes_of_silent hcall silent_revokeClientAsHost)
          fun _ _ _ _ => leaves_done trivial
  · dsimp only
    split_ifs
    · exact Leaves.bind (closes_cancel hcall) fun _ _ _ _ => leaves_done trivial
    · refine leaves_refuse_bind (fun _ => hopen _) fun _ => ?_
      refine Leaves.bind (closes_of_silent hcall silent_revokeClientAsHost) fun _ hist₂ s₂ _ => ?_
      exact Leaves.bind (closes_revoke hcall) fun _ _ _ _ => leaves_done trivial

theorem KeepsClosed.ignored {Q : α → List HostStep → Prop}
    (h : KeepsClosed site pid call program hist s Q) :
    Ensures (inviteProtocol site) pid call (ignore program) hist s fun _ _ _ => True := by
  refine ensures_bind.2 (Ensures.mono h ?_)
  rintro (err | value) hist' s' -
  · trivial
  · trivial

theorem ensures_inviteProtocol (hcall : call.onInvites = true) :
    Ensures (inviteProtocol site) pid call (callProgram site call) [] s fun _ _ _ => True := by
  cases call with
  | accept input => exact (closes_accept rfl rfl).ignored
  | cancel inviteID now => exact (closes_cancel rfl).ignored
  | revokeInvite inviteID now => exact (closes_revoke rfl).ignored
  | unusedIssued generation now =>
    exact Ensures.mono (closes_unusedIssued rfl) fun _ _ _ _ => trivial
  | serverRevoke id now => exact Ensures.mono (closes_serverRevoke rfl) fun _ _ _ _ => trivial
  | _ => cases hcall

end WarpTweet
