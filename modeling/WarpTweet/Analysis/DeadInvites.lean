import WarpTweet.Analysis.InviteSteps

/-!
# A dead invite and its client

If no acceptance ends between activating its client and consuming its invite, and what is
written to an invite without its lock does not write over an acceptance, then a live client
has a consumed invite that names it, or an acceptance is about to consume it. So a
cancelled, expired or revoked invite has no live client.

Without the condition it may have one: an acceptance that is stopped after the activation
leaves an issued invite, and an issued invite can be cancelled.
-/

namespace WarpTweet

open Strings Concurrency Storage

/-- The invite can no longer be used. -/
def InviteStatus.Dead (status : InviteStatus) : Prop :=
  status = .cancelled ∨ status = .expired ∨ status = .revoked

instance : DecidablePred InviteStatus.Dead := fun _ => by
  unfold InviteStatus.Dead
  infer_instance

/-- No client of a dead invite is live. -/
def DeadUngranted (s : Host) : Prop :=
  ∀ invite ∈ s.invites.files, invite.status.Dead →
    ∀ record ∈ s.clients.files, record.inviteID = invite.inviteID → ¬ Live record

instance (s : Host) : Decidable (DeadUngranted s) := by
  unfold DeadUngranted
  infer_instance

/-! ## What a process knows stays true -/

/-- The locks that the process has taken are its own, and an invite under one of them is
stored as the process has read it. -/
structure Knows (pid : ℕ) (hist : List HostStep) (s : Host) : Prop where
  locked : ∀ {name}, holding name hist = true → s.locks name = some pid
  fresh : ∀ {inviteID record}, holding (.invite inviteID) hist = true →
    seenInvite inviteID hist = some record → s.invites.get inviteID = some record

variable {call : Call} {record : Record} {name : Lock} {hist : List HostStep}

section

variable {site : Site} {pid pid' : ℕ} {call : Call} {hist hist' : List HostStep}
  {action : Action} {choice : Choice} {reply : action.Reply} {s s' : Host} {inviteID : Text}

theorem Effect.invites (h : Effect pid choice s action s') :
    s'.invites = s.invites ∨ ∃ record, action = .writeInvite record ∧
      choice.outcome.applies = true ∧ s'.invites = s.invites.put record := by
  cases h with
  | writeInvite happlies => exact .inr ⟨_, rfl, happlies, rfl⟩
  | kept hsame => exact .inl hsame.invites
  | _ => exact .inl rfl

/-- Whoever writes an invite of which another process holds the lock does not hold it, and
the condition excludes that. -/
theorem ne_of_writeInvite (hpid : pid' ≠ pid) (hself : Knows pid hist s)
    (hsettled : WritesSettled s hist (.writeInvite record))
    (hlocked : s.locks (.invite inviteID) = some pid') : inviteID ≠ record.inviteID := by
  rintro rfl
  cases hholds : holding (.invite record.inviteID) hist with
  | true =>
    rw [hself.locked hholds, Option.some.injEq] at hlocked
    exact hpid hlocked.symm
  | false =>
    rw [(hsettled.1 hholds).1] at hlocked
    cases hlocked

theorem Knows.others (h : Knows pid' hist' s) (hpid : pid' ≠ pid) (hself : Knows pid hist s)
    (hguard : Guard site pid call hist action choice s) (hsettled : WritesSettled s hist action)
    (heffect : Effect pid choice s action s') : Knows pid' hist' s' := by
  refine ⟨fun hholds => (hguard.relies heffect hpid).locks (h.locked hholds), ?_⟩
  intro inviteID record hholds hseen
  rcases heffect.invites with hsame | ⟨written, rfl, -, hput⟩
  · rw [hsame]
    exact h.fresh hholds hseen
  · rw [hput, Directory.get_put_of_ne]
    · exact h.fresh hholds hseen
    · exact ne_of_writeInvite hpid hself hsettled (h.locked hholds)

theorem Knows.of_releaseLocks (h : Knows pid' hist s) (hpid : pid' ≠ pid) :
    Knows pid' hist (releaseLocks pid s) :=
  ⟨fun hholds => (relies_releaseLocks hpid).locks (h.locked hholds), h.fresh⟩

theorem Effect.locks_eq (h : Effect pid choice s action s')
    (hlock : ∀ wait, action ≠ .lock name wait) (hunlock : action ≠ .unlock name) :
    s'.locks name = s.locks name := by
  cases h with
  | @acquire other wait _ =>
    refine Function.update_of_ne ?_ ..
    rintro rfl
    exact hlock wait rfl
  | @unlock other =>
    refine Function.update_of_ne ?_ ..
    rintro rfl
    exact hunlock rfl
  | kept hsame => rw [hsame.locks]
  | _ => rfl

theorem holding_of_cons (h : holding name (⟨action, choice, reply⟩ :: hist) = true)
    (hlock : ∀ wait, action ≠ .lock name wait) :
    holding name hist = true ∧ action ≠ .unlock name := by
  rw [holding_cons] at h
  cases action with
  | lock other wait =>
    have hne : other ≠ name := by
      rintro rfl
      exact hlock wait rfl
    simp only [holdsAfter, hne, false_and, if_false] at h
    exact ⟨h, by simp⟩
  | unlock other =>
    have hne : other ≠ name := by
      rintro rfl
      simp [holdsAfter] at h
    simp only [holdsAfter, hne, if_false] at h
    exact ⟨h, by simpa using hne⟩
  | _ => exact ⟨h, by simp⟩

/-- What is seen of an invite was read just now, or was seen before and not written. -/
theorem seenInvite_of_cons
    (h : seenInvite inviteID (⟨action, choice, reply⟩ :: hist) = some record) :
    (∃ hread : action = .readInvite inviteID, reply = hread ▸ .found record) ∨
      seenInvite inviteID hist = some record ∧ (∀ wait, action ≠ .lock (.invite inviteID) wait) ∧
        ∀ written, action = .writeInvite written → inviteID ≠ written.inviteID := by
  rw [seenInvite_cons] at h
  cases action with
  | readInvite other =>
    rcases reply with read | _ | _
    · by_cases hid : other = inviteID
      · subst hid
        simp only [seesAfter, if_true, Option.some.injEq] at h
        exact .inl ⟨rfl, by rw [h]⟩
      · simp only [seesAfter, hid, if_false] at h
        exact .inr ⟨h, by simp, by simp⟩
    · exact .inr ⟨h, by simp, by simp⟩
    · exact .inr ⟨h, by simp, by simp⟩
  | writeInvite written =>
    have hid : written.inviteID ≠ inviteID := by
      rintro hid
      simp [seesAfter, hid] at h
    simp only [seesAfter, hid, if_false] at h
    refine .inr ⟨h, by simp, ?_⟩
    rintro _ ⟨⟩
    exact hid.symm
  | lock name wait =>
    cases name with
    | invite other =>
      have hid : other ≠ inviteID := by
        rintro rfl
        simp [seesAfter] at h
      simp only [seesAfter, hid, if_false] at h
      exact .inr ⟨h, by simpa using hid, by simp⟩
    | _ => exact .inr ⟨h, by simp, by simp⟩
  | _ => exact .inr ⟨h, by simp, by simp⟩

theorem Knows.step (h : Knows pid hist s)
    (hperform : performAction site.env pid action choice s = some (reply, s')) :
    Knows pid (⟨action, choice, reply⟩ :: hist) s' := by
  have heffect := effect_of_perform hperform
  constructor
  · intro name hholds
    by_cases hlock : ∃ wait, action = .lock name wait
    · obtain ⟨wait, rfl⟩ := hlock
      by_cases hreply : reply = .acquired
      · subst hreply
        obtain ⟨-, rfl⟩ := lock_acquired hperform
        exact Function.update_self ..
      · rw [lock_not_acquired hperform hreply]
        simp only [holding_cons, holdsAfter, hreply, and_false, if_false] at hholds
        exact h.locked hholds
    · have hother : ∀ wait, action ≠ .lock name wait := fun wait heq => hlock ⟨wait, heq⟩
      obtain ⟨hbefore, hunlock⟩ := holding_of_cons hholds hother
      rw [heffect.locks_eq hother hunlock]
      exact h.locked hbefore
  · intro inviteID record hholds hseen
    rcases seenInvite_of_cons hseen with ⟨rfl, rfl⟩ | ⟨hbefore, hlock, hwrite⟩
    · obtain ⟨hstored, rfl⟩ := readInvite_found hperform
      exact hstored
    · have hstored := h.fresh (holding_of_cons hholds hlock).1 hbefore
      rcases heffect.invites with hsame | ⟨written, haction, -, hput⟩
      · rw [hsame, hstored]
      · rw [hput, Directory.get_put_of_ne, hstored]
        exact hwrite written haction

end

/-! ## Runs -/

section

variable {site : Site} {s : Host} {c : Pool}

theorem knows_of_run (hrun : Run (hostMachine site) ClosesInvites (Config.idle s) c) :
    c.Each fun pid _ hist s => Knows pid hist s := by
  refine run_invariant (I := fun c => c.Each fun pid _ hist s => Knows pid hist s) hrun .idle ?_ ?_ ?_
  · intro c pid call _ h _ _
    refine h.started ⟨fun hholds => ?_, fun hholds => ?_⟩
    · cases hholds
    · cases hholds
  · intro c pid process action rest choice reply state _ h hD hp hprog hguard hperform _
    obtain ⟨hsettled, -⟩ := hD.2.2.condition hp hprog
    have hself := h pid process hp
    refine h.advanced hp (fun hself => hself.step hperform) fun pid' hpid _ hist' hother => ?_
    exact hother.others hpid hself hguard hsettled (effect_of_perform hperform)
  · intro c pid process _ h _ _
    exact h.stopped fun pid' hpid _ _ hother => hother.of_releaseLocks hpid

theorem invitesGuarded_of_run (hrun : Run (hostMachine site) ClosesInvites (Config.idle s) c) :
    PoolGuarded (inviteProtocol site) c := by
  refine (Run.invariant (P := inviteProtocol site)
    (I := fun c => c.Each fun pid _ hist s => Knows pid hist s) hrun .idle ?_ ?_ ?_ ?_ ?_).2
  · intro c pid call _ hD _
    exact ensures_inviteProtocol hD.1
  · intro c pid process action rest choice h hD hp hprog
    refine ⟨(hD.2.2.condition hp hprog).2, ?_⟩
    intro inviteID _ hholds record hseen
    exact (h pid process hp).fresh hholds hseen
  · intro c pid call _ h _ _
    refine h.started ⟨fun hholds => ?_, fun hholds => ?_⟩
    · cases hholds
    · cases hholds
  · intro c pid process action rest choice reply state _ _ _ _ _ _ _ hrun'
    exact knows_of_run hrun'
  · intro c pid process _ h _ _
    exact h.stopped fun pid' hpid _ _ hother => hother.of_releaseLocks hpid

/-- The invite of the client is consumed, and names the client. -/
def Consumed (s : Host) (record : ClientRecord) : Prop :=
  ∃ invite ∈ s.invites.get record.inviteID,
    invite.status = .consumed ∧ invite.clientID = record.clientID

instance (s : Host) (record : ClientRecord) : Decidable (Consumed s record) := by
  unfold Consumed
  infer_instance

/-- An acceptance has the client open: it holds the lock of the invite, which is issued. -/
structure Opened (c : Pool) (record : ClientRecord) (pid : ℕ) (process : HostProcess) : Prop where
  inFlight : c.procs pid = some process
  opens : openClient process.call process.hist = some record.clientID
  enrolls : ∃ request ∈ process.call.enrollment, request.inviteID = record.inviteID
  holds : holding (.invite record.inviteID) process.hist = true
  issued : ∃ invite ∈ c.state.invites.get record.inviteID, invite.status = .issued

/-- Every live client has a consumed invite, or is open. -/
def LiveBacked (c : Pool) : Prop :=
  ∀ record ∈ c.state.clients.files, Live record →
    Consumed c.state record ∨ ∃ pid process, Opened c record pid process

section

variable {pid pid' : ℕ} {process process' : HostProcess} {action : Action} {choice : Choice}
  {reply : action.Reply} {prog : HostProg Unit} {state : Host} {record : ClientRecord}

theorem Consumed.step {s' : Host} (h : Consumed s record)
    (hget : s.clients.get record.clientID = some record) (hlive : Live record)
    (hknows : Knows pid hist s) (hstep : InviteStep call hist action)
    (hsettled : WritesSettled s hist action) (heffect : Effect pid choice s action s') :
    Consumed s' record := by
  obtain ⟨invite, hstored, hconsumed, hnames⟩ := h
  rcases heffect.invites with hsame | ⟨written, rfl, -, hput⟩
  · exact ⟨invite, by rw [hsame]; exact hstored, hconsumed, hnames⟩
  · refine ⟨invite, ?_, hconsumed, hnames⟩
    rw [hput, Option.mem_def, Directory.get_put_of_ne]
    · exact hstored
    -- No call writes a consumed invite whose client is live.
    intro hid
    rw [hid] at hstored
    have hread : ∀ {read}, holding (.invite written.inviteID) hist = true →
        read ∈ seenInvite written.inviteID hist → read = invite := by
      intro read hholds hseen
      have hfresh := hknows.fresh hholds hseen
      rw [Option.mem_def.1 hstored, Option.some.injEq] at hfresh
      exact hfresh.symm
    cases hstatus : written.status with
    | issued => simp [InviteStep, hstatus] at hstep
    | consumed =>
      simp only [InviteStep, hstatus] at hstep
      obtain ⟨-, -, hholds, read, hseen, hissued⟩ := hstep
      rw [hread hholds hseen, hconsumed] at hissued
      cases hissued
    | cancelled =>
      simp only [InviteStep, hstatus] at hstep
      obtain ⟨-, hholds, read, hseen, hne⟩ := hstep
      rw [hread hholds hseen] at hne
      exact hne hconsumed
    | expired =>
      simp only [InviteStep, hstatus] at hstep
      cases hholds : holding (.invite written.inviteID) hist with
      | true =>
        obtain ⟨read, hseen, hne⟩ := hstep.2 hholds
        rw [hread hholds hseen] at hne
        exact hne hconsumed
      | false =>
        have hissued := (hsettled.1 hholds).2 hstatus invite hstored
        rw [hconsumed] at hissued
        cases hissued
    | revoked => exact hsettled.2 hstatus invite hstored record (hnames ▸ hget) hlive

theorem Opened.others (h : Opened c record pid' process') (hpid : pid' ≠ pid)
    (hknows : Knows pid process.hist c.state) (hother : Knows pid' process'.hist c.state)
    (hsettled : WritesSettled c.state process.hist action)
    (heffect : Effect pid choice c.state action state) :
    Opened (c.advanced pid process ⟨action, choice, reply⟩ prog state) record pid' process' := by
  refine ⟨(Config.procs_advanced_of_ne hpid).trans h.inFlight, h.opens, h.enrolls, h.holds, ?_⟩
  obtain ⟨invite, hstored, hissued⟩ := h.issued
  refine ⟨invite, ?_, hissued⟩
  rcases heffect.invites with hsame | ⟨written, rfl, -, hput⟩
  · show state.invites.get record.inviteID = some invite
    rw [hsame]
    exact hstored
  · show state.invites.get record.inviteID = some invite
    rw [hput, Directory.get_put_of_ne]
    · exact hstored
    · exact ne_of_writeInvite hpid hknows hsettled (hother.locked h.holds)

theorem Opened.step (h : Opened c record pid process)
    (hstep : InviteStep process.call process.hist action)
    (hwhole : ClosesWhole process.call process.hist choice action)
    (hperform : performAction site.env pid action choice c.state = some (reply, state)) :
    Consumed state record ∨
      ∃ process', Opened (c.advanced pid process ⟨action, choice, reply⟩ prog state) record pid
        process' := by
  have hok : choice.outcome = .ok := hwhole.1 (by simp [h.opens])
  obtain ⟨request, hrequest, hinvite⟩ := h.enrolls
  have hkept (hopens : ∀ opened, opensAfter ⟨action, choice, reply⟩ opened = opened)
      (hholds : holding (.invite record.inviteID) (⟨action, choice, reply⟩ :: process.hist) = true)
      (hsilent : action.writesInvite = false) :
      ∃ process', Opened (c.advanced pid process ⟨action, choice, reply⟩ prog state) record pid
        process' := by
    refine ⟨_, Config.procs_advanced_self, ?_, h.enrolls, hholds, ?_⟩
    · exact (openClient_keep hopens).trans h.opens
    · show ∃ invite ∈ state.invites.get record.inviteID, invite.status = .issued
      rcases (effect_of_perform hperform).invites with hsame | ⟨written, rfl, -, -⟩
      · rw [hsame]
        exact h.issued
      · cases hsilent
  cases action with
  | writeInvite written =>
    simp only [performAction, hok, Outcome.applies, if_true, Option.some.injEq,
      Prod.mk.injEq] at hperform
    obtain ⟨-, rfl⟩ := hperform
    have hopen : written.status ≠ .consumed → openClient process.call process.hist = none := by
      intro hne
      cases hstatus : written.status with
      | issued => simp [InviteStep, hstatus] at hstep
      | consumed => exact absurd hstatus hne
      | cancelled | expired | revoked =>
        simp only [InviteStep, hstatus] at hstep
        first | exact hstep.1 | exact hstep
    have hconsumed : written.status = .consumed := by
      by_contra hne
      have hnone := hopen hne
      rw [h.opens] at hnone
      cases hnone
    simp only [InviteStep, hconsumed] at hstep
    obtain ⟨hclient, hsame, -⟩ := hstep
    refine .inl ⟨written, ?_, hconsumed, (hclient _ h.opens).symm⟩
    rw [← hinvite, hsame request hrequest]
    exact Directory.get_put_self
  | writeClient written =>
    refine .inr (hkept (fun opened => ?_) h.holds rfl)
    have hactive : written.status ≠ .active := by
      intro hactive
      have hsome : process.call.enrollment.isSome = true := by
        rw [Option.mem_def.1 hrequest]
        rfl
      have hnone := (hstep hsome hactive).1
      rw [h.opens] at hnone
      cases hnone
    simp [opensAfter, hactive]
  | lock name wait =>
    refine .inr (hkept (fun _ => rfl) ?_ rfl)
    simp [holding_cons, holdsAfter, h.holds]
  | unlock name =>
    cases name with
    | invite other =>
      have hnone : openClient process.call process.hist = none := hstep
      rw [h.opens] at hnone
      cases hnone
    | _ => exact .inr (hkept (fun _ => rfl) (by simp [holding_cons, holdsAfter, h.holds]) rfl)
  | _ => exact .inr (hkept (fun _ => rfl) h.holds rfl)

theorem ClientWrite.activates
    (h : ClientWrite site pid call hist s record) (hrotation : call.rotation = none)
    (hlive : Live record) : record.status = .active ∧
      ∃ request ∈ call.enrollment, request.inviteID = record.inviteID := by
  cases hcall : call.enrollment with
  | none => exact absurd hlive (h.not_live hcall hrotation)
  | some enrollment =>
    cases h with
    | activate _ _ henrollment hinvite _ _ _ =>
      rw [hcall] at henrollment
      exact ⟨rfl, _, henrollment, hinvite.symm⟩
    | beginRotation _ hrequest _ _ => simp [hrotation] at hrequest
    | finishRotation _ hrequest _ _ _ _ _ => simp [hrotation] at hrequest
    | beginRevocation => simp [Live, WarpTweet.beginRevocation] at hlive
    | finishRevocation => simp [Live, WarpTweet.finishRevocation] at hlive
    | finishRevocationAsHost => simp [Live, WarpTweet.finishRevocation] at hlive
    | beginExpiration => simp [Live, WarpTweet.beginExpiration] at hlive
    | finishExpiration => simp [Live, WarpTweet.finishExpiration] at hlive

/-- An activated client is open: its invite is issued, and the acceptance holds the lock. -/
theorem opened_of_activation {ok : Bool}
    (hguard : ClientWrite site pid process.call process.hist c.state record)
    (hrotation : process.call.rotation = none) (hlive : Live record)
    (hknows : Knows pid process.hist c.state)
    (hstep : InviteStep process.call process.hist (.writeClient record))
    (hwhole : ClosesWhole process.call process.hist choice (.writeClient record))
    (happlies : choice.outcome.applies = true)
    (hperform : performAction site.env pid (.writeClient record) choice c.state = some (ok, state)) :
    ∃ process', Opened (c.advanced pid process ⟨.writeClient record, choice, ok⟩ prog state) record
      pid process' := by
  obtain ⟨hactive, hrequest⟩ := hguard.activates hrotation hlive
  have hsome : process.call.enrollment.isSome = true := by
    obtain ⟨request, hrequest, -⟩ := hrequest
    rw [Option.mem_def.1 hrequest]
    rfl
  obtain ⟨-, hholds, read, hseen, hissued⟩ := hstep hsome hactive
  have hreports : choice.outcome.reports = true := by
    have htorn : choice.outcome ≠ .torn := hwhole.2 hactive
    cases houtcome : choice.outcome with
    | ok => rfl
    | lost => simp [houtcome, Outcome.applies] at happlies
    | torn => exact absurd houtcome htorn
  simp only [performAction, hreports, happlies, if_true, Option.some.injEq,
    Prod.mk.injEq] at hperform
  obtain ⟨rfl, rfl⟩ := hperform
  refine ⟨_, Config.procs_advanced_self, ?_, hrequest, hholds, read, ?_, hissued⟩
  · simp [openClient_cons, hsome, opensAfter, hactive]
  · exact hknows.fresh hholds hseen

theorem LiveBacked.step (h : LiveBacked c) (hp : c.procs pid = some process)
    (hrotation : process.call.rotation = none)
    (hknows : c.Each fun pid _ hist s => Knows pid hist s)
    (hguard : Guard site pid process.call process.hist action choice c.state)
    (hstep : InviteStep process.call process.hist action)
    (hsettled : WritesSettled c.state process.hist action)
    (hwhole : ClosesWhole process.call process.hist choice action)
    (hperform : performAction site.env pid action choice c.state = some (reply, state)) :
    LiveBacked (c.advanced pid process ⟨action, choice, reply⟩ prog state) := by
  have heffect := effect_of_perform hperform
  have hself := hknows pid process hp
  -- A record that was there before is backed as before, or by this action.
  have hbefore : ∀ record ∈ c.state.clients.files, Live record → Consumed state record ∨
      ∃ pid' process', Opened (c.advanced pid process ⟨action, choice, reply⟩ prog state) record
        pid' process' := by
    intro record hmem hlive
    rcases h record hmem hlive with hconsumed | ⟨pid', process', hopened⟩
    · exact .inl (hconsumed.step (Directory.get_of_mem_files hmem) hlive hself hstep hsettled heffect)
    · by_cases hpid : pid' = pid
      · subst hpid
        have hsame : process' = process := by
          have hflight := hopened.inFlight
          rw [hp, Option.some.injEq] at hflight
          exact hflight.symm
        subst hsame
        rcases hopened.step hstep hwhole hperform with hconsumed | ⟨process'', hopened'⟩
        · exact .inl hconsumed
        · exact .inr ⟨pid', process'', hopened'⟩
      · have hother := hknows pid' process' hopened.inFlight
        exact .inr ⟨pid', process', hopened.others hpid hself hother hsettled heffect⟩
  intro record hmem hlive
  have hmem' : record ∈ state.clients.files := hmem
  rcases heffect.clients with hsame | ⟨stored, rfl, -, hput⟩ | ⟨written, rfl, happlies, hput⟩
  · rw [hsame] at hmem'
    exact hbefore record hmem' hlive
  · rw [hput] at hmem'
    rcases Directory.mem_files_put.1 hmem' with rfl | ⟨hmem', -⟩
    · have hstores : StoresClient site pid process.call c.state record := hguard
      obtain ⟨_, _, _, _, _, -, -, -, rfl⟩ := hstores.wanted
      simp [Live, wantClient] at hlive
    · exact hbefore record hmem' hlive
  · rw [hput] at hmem'
    rcases Directory.mem_files_put.1 hmem' with rfl | ⟨hmem', -⟩
    · exact .inr ⟨pid, opened_of_activation hguard hrotation hlive hself hstep hwhole happlies
        hperform⟩
    · exact hbefore record hmem' hlive

end

theorem rotation_of_onInvites (h : call.onInvites = true) : call.rotation = none := by
  cases call <;> first | rfl | cases h

theorem liveBacked_of_run (hsettled : ∀ record ∈ s.clients.files, Live record → Consumed s record)
    (hrun : Run (hostMachine site) ClosesInvites (Config.idle s) c) : LiveBacked c := by
  refine run_invariant (I := LiveBacked) hrun ?_ ?_ ?_ ?_
  · exact fun record hmem hlive => .inl (hsettled record hmem hlive)
  · intro c pid call _ h _ hnew record hmem hlive
    rcases h record hmem hlive with hconsumed | ⟨pid', process', hopened⟩
    · exact .inl hconsumed
    · exact .inr ⟨pid', process', Config.procs_started_of_some hnew hopened.inFlight,
        hopened.opens, hopened.enrolls, hopened.holds, hopened.issued⟩
  · intro c pid process action rest choice reply state hrun h hD hp hprog hguard hperform _
    have hcalls : c.Each fun _ call _ _ => call.onInvites = true := hrun.calls fun _ _ hD => hD.1
    have hknows := knows_of_run hrun
    obtain ⟨hsettled, hwhole⟩ := hD.2.2.condition hp hprog
    have hassume : InviteAssumption process.call process.hist action choice c.state :=
      ⟨hwhole, fun _ _ hholds _ hseen => (hknows pid process hp).fresh hholds hseen⟩
    have hstep := (invitesGuarded_of_run hrun).guard hp hprog hassume hperform
    exact h.step hp (rotation_of_onInvites (hcalls pid process hp)) hknows hguard hstep hsettled
      hwhole hperform
  · intro c pid process _ h hD hp record hmem hlive
    rcases h record hmem hlive with hconsumed | ⟨pid', process', hopened⟩
    · exact .inl hconsumed
    · have hpid : pid' ≠ pid := by
        rintro rfl
        have hclosed := hD.2.1 process' hopened.inFlight
        rw [hopened.opens] at hclosed
        cases hclosed
      exact .inr ⟨pid', process', (Function.update_of_ne hpid ..).trans hopened.inFlight,
        hopened.opens, hopened.enrolls, hopened.holds, hopened.issued⟩

/-- In every run that meets the condition, a dead invite has no live client. -/
theorem deadUngranted_of_closesInvites
    (hsettled : ∀ record ∈ s.clients.files, Live record → Consumed s record)
    (hrun : Run (hostMachine site) ClosesInvites (Config.idle s) c) : DeadUngranted c.state := by
  intro invite hinvite hdead record hmem hid hlive
  have hstored : c.state.invites.get record.inviteID = some invite := by
    rw [hid]
    exact Directory.get_of_mem_files hinvite
  have hstatus : invite.status = .consumed ∨ invite.status = .issued := by
    rcases liveBacked_of_run hsettled hrun record hmem hlive with
      ⟨other, hother, hconsumed, -⟩ | ⟨pid, process, hopened⟩
    · rw [hstored, Option.mem_some_iff] at hother
      exact .inl (hother ▸ hconsumed)
    · obtain ⟨other, hother, hissued⟩ := hopened.issued
      rw [hstored, Option.mem_some_iff] at hother
      exact .inr (hother ▸ hissued)
  rcases hstatus with hstatus | hstatus
  · simp [InviteStatus.Dead, hstatus] at hdead
  · simp [InviteStatus.Dead, hstatus] at hdead

end

/-- An invite that was accepted is revoked together with its client. -/
theorem deadUngranted_after_revoke :
    ∃ c, Run (hostMachine Scenario.site) ClosesInvites (Config.idle Scenario.host) c ∧
      (∃ invite ∈ c.state.invites.files, invite.status = .revoked) ∧
      (∃ record ∈ c.state.clients.files, record.inviteID = Scenario.inviteID ∧
        record.status = .revoked) ∧
      DeadUngranted c.state := by
  refine Run.exists_imp_of_runMoves
    (Scenario.accepting 'A' ++ [.start 0 (.serverRevoke Scenario.inviteID Scenario.now)] ++
      Scenario.steps 0 12)
    (fun c => (∃ invite ∈ c.state.invites.files, invite.status = .revoked) ∧
      ∃ record ∈ c.state.clients.files, record.inviteID = Scenario.inviteID ∧
        record.status = .revoked)
    (by decide +kernel) ?_
  rintro c hrun ⟨hinvite, hclient⟩
  exact ⟨hinvite, hclient, deadUngranted_of_closesInvites (by decide) hrun⟩

/-- An acceptance is stopped after it has activated its client, and the invite is then
cancelled: the cancelled invite has an active client. -/
theorem cancelled_with_active_client :
    ∃ c, Run (hostMachine Scenario.site) (Starts fun call => call.onInvites = true)
        (Config.idle Scenario.host) c ∧
      c.HasSucceeded 1 ∧
      (∃ invite ∈ c.state.invites.files, invite.inviteID = Scenario.inviteID ∧
        invite.status = .cancelled) ∧
      (∃ record ∈ c.state.clients.files, record.inviteID = Scenario.inviteID ∧
        record.status = .active) ∧
      ¬ DeadUngranted c.state := by
  exact Run.exists_of_runMoves
    ([.start 0 (Scenario.accept 'A')] ++ Scenario.steps 0 8 ++
      [.stop 0, .start 1 (.cancel Scenario.inviteID Scenario.now)] ++ Scenario.steps 1 4)
    (by decide +kernel)

end WarpTweet
