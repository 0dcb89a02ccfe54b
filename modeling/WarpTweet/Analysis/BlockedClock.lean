import WarpTweet.Analysis.Walks
import WarpTweet.Analysis.Scenario

/-!
# The blocked clock

When the clock of the host cannot be trusted, the authorization file is emptied and a
marker says that the clock is blocked, until `server clock-recover`. Enrollment, the
start of the listeners and `warptweet host` read the marker first and refuse. Two
writers of the file do not look at it: the periodic reconcilers, which rebuild the file
as soon as a reading of the clock is accepted again, and rotation, which swaps lines
whatever the marker says.

If these two left the file alone while the marker is there, it would stay empty.
-/

namespace WarpTweet

open Strings Concurrency Storage

/-! ## The calls that look at the marker -/

/-- The calls that refuse while the clock is blocked. -/
def Call.checksClock : Call → Bool
  | .enroll _ _ | .startListener _ | .hostCommand _ => true
  | _ => false

/-- What these calls do before they have seen the marker. -/
def Action.opening : Action → Bool
  | .lock .host _ | .unlock .host | .readBlocked => true
  | _ => false

/-- A call that looks at the marker has read that the clock is not blocked before it
does anything else. -/
def ChecksFirst (call : Call) (hist : List HostStep) (action : Action) : Prop :=
  call.checksClock = true → action.opening = true ∨ Did hist .readBlocked false

/-- The protocol of the calls that look at the marker. -/
abbrev clockProtocol (site : Site) : Protocol (hostMachine site) :=
  historyProtocol (hostMachine site) ChecksFirst fun _ _ _ => True

variable {site : Site} {pid : ℕ} {call : Call} {hist : List HostStep} {s : Host}
  {program : HostProg α}

section

variable {α : Type}

theorem ensures_of_unblocked (h : Did hist .readBlocked false) :
    Ensures (clockProtocol site) pid call program hist s fun _ _ _ => True := by
  apply Ensures.of_always
  intro steps action _ _ _
  have hdid : Did (steps ++ hist) .readBlocked false := h.mono (by simp)
  exact .inr hdid

theorem ensures_readBlocked {err : Err} {rest : Unit → HostProg α} :
    Ensures (clockProtocol site) pid call
      ((perform .readBlocked).bind fun blocked => (refuse blocked err).bind rest) hist s
      fun _ _ _ => True := by
  intro s₁ _ choice blocked s₂ _ _
  refine ⟨fun _ => .inl rfl, ?_⟩
  cases blocked with
  | true => trivial
  | false => exact ensures_of_unblocked did_cons_self

theorem ensures_withHostLock {wait : Bool} {busy : Err} {body : HostProg α}
    (hbody : ∀ hist s, Ensures (clockProtocol site) pid call body hist s fun _ _ _ => True) :
    Ensures (clockProtocol site) pid call (withLock .host wait busy body) hist s
      fun _ _ _ => True := by
  intro s₁ _ choice reply s₂ _ _
  refine ⟨fun _ => .inl rfl, ?_⟩
  cases reply with
  | acquired =>
    show Ensures (clockProtocol site) pid call (body.attempt.bind fun outcome =>
      (perform (.unlock .host)).bind fun _ => .ofExcept outcome) _ s₂ fun _ _ _ => True
    refine ensures_bind.2 (ensures_attempt.2 ((hbody _ s₂).mono ?_))
    -- whatever the body did, the lock is freed
    intro outcome hist s _ s₁ _ choice reply s₂ _ _
    refine ⟨fun _ => .inl rfl, ?_⟩
    exact ensures_ofExcept.2 trivial
  | busy => trivial
  | failed => trivial

theorem ensures_ignore
    (h : Ensures (clockProtocol site) pid call program hist s fun _ _ _ => True) :
    Ensures (clockProtocol site) pid call (ignore program) hist s fun _ _ _ => True := by
  refine ensures_bind.2 (h.mono ?_)
  intro outcome hist s _
  cases outcome <;> trivial

theorem ensures_checksFirst (call : Call) :
    Ensures (clockProtocol site) pid call (callProgram site call) hist s fun _ _ _ => True := by
  cases hchecks : call.checksClock with
  | false =>
    apply Ensures.of_always
    intro steps action _ _ htrue
    rw [hchecks] at htrue
    cases htrue
  | true =>
    cases call with
    | enroll request now =>
      apply ensures_ignore
      apply ensures_withHostLock
      intro hist s
      exact ensures_readBlocked
    | startListener now => exact ensures_readBlocked
    | hostCommand now =>
      apply ensures_withHostLock
      intro hist s
      exact ensures_readBlocked
    | _ => cases hchecks

theorem checksFirst_of_run {D : Pool → HostMove → Prop} {c : Pool} {process : HostProcess}
    {action : Action} {rest : action.Reply → HostProg Unit} {choice : Choice}
    {reply : action.Reply} {s' : Host} (hrun : Run (hostMachine site) D (Config.idle s) c)
    (hp : c.procs pid = some process) (hprog : process.prog = .act action rest)
    (hperform : performAction site.env pid action choice c.state = some (reply, s')) :
    ChecksFirst process.call process.hist action := by
  have hpool : PoolGuarded (clockProtocol site) c := by
    apply hrun.poolGuarded
    · intros
      trivial
    · intro c pid call _
      exact ensures_checksFirst call
  exact hpool.guard hp hprog trivial hperform

end

/-! ## The closed file -/

/-- What the listeners, the periodic loop and the commands of a host run, apart from
`server clock-recover`. A bare acceptance or rebuild is not among them: it is always
part of another call. -/
def Call.served : Call → Bool
  | .accept _ | .reconcileManaged | .clockRecover _ => false
  | _ => true

def NoneLive (s : Host) : Prop := ∀ record ∈ s.clients.files, ¬ Live record

instance (s : Host) : Decidable (NoneLive s) := by
  unfold NoneLive
  infer_instance

/-- The action swaps a line of the authorization file. -/
def Action.swaps : Action → Bool
  | .replaceKey _ _ => true
  | _ => false

/-- While the clock is blocked, no line is swapped, and the file is not rebuilt unless
there is nothing to write to it. -/
def LeavesClosed (s : Host) (action : Action) : Prop :=
  s.blocked = true →
    action.swaps = false ∧ (action.locks .authorizedKeys = true → NoneLive s)

instance (s : Host) (action : Action) : Decidable (LeavesClosed s action) := by
  unfold LeavesClosed
  infer_instance

/-- The calls a host serves while its clock is blocked, of which none swaps a line or
starts to rebuild the file with live records. -/
abbrev StaysClosed : Pool → HostMove → Prop := fun c move =>
  Starts (fun call => call.served = true) c move ∧
    OnAction (fun c _ action _ => LeavesClosed c.state action) c move

/-- Who holds the lock of the authorization file has found no live record. -/
structure FindsNoneLive (hist : List HostStep) (s : Host) : Prop where
  now : NoneLive s
  read : ∀ {record}, Did (sinceLock .authorizedKeys hist) (.readClient record.clientID)
    (.found record) → ¬ Live record

/-- What a run keeps: the marker, the empty file, and what the processes have seen. -/
structure Closed (c : Pool) : Prop where
  blocked : c.state.blocked = true
  empty : c.state.authorizedKeys = []
  unseen : c.Each fun _ _ hist _ => ¬ Did hist .readBlocked false
  found : c.Each fun pid _ hist s => s.locks .authorizedKeys = some pid → FindsNoneLive hist s

section

variable {action : Action} {choice : Choice} {reply : action.Reply} {s' : Host} {c : Pool}
  {process : HostProcess}

theorem Effect.blocked (h : Effect pid choice s action s') (hblocked : s.blocked = true)
    (haction : action ≠ .clearBlocked) : s'.blocked = true := by
  cases h with
  | clearBlocked => exact absurd rfl haction
  | writeBlocked => rfl
  | kept hsame => rw [hsame.blocked, hblocked]
  | _ => exact hblocked

theorem opening_of_enrollment (hserved : call.served = true) (hfirst : ChecksFirst call hist action)
    (hunseen : ¬ Did hist .readBlocked false) {request : EnrollmentRequest}
    (hrequest : call.enrollment = some request) : action.opening = true := by
  have hchecks : call.checksClock = true := by
    cases call <;> simp_all [Call.served, Call.enrollment, Call.checksClock]
  exact (hfirst hchecks).resolve_right hunseen

theorem NoneLive.step (h : NoneLive s)
    (hopening : ∀ {request}, call.enrollment = some request → action.opening = true)
    (hguard : Guard site pid call hist action choice s) (heffect : Effect pid choice s action s') :
    NoneLive s' := by
  rcases heffect.clients with hsame | ⟨stored, rfl, -, hput⟩ | ⟨written, rfl, -, hput⟩
  · intro record hrecord
    rw [hsame] at hrecord
    exact h record hrecord
  · have hstores : StoresClient site pid call s stored := hguard
    obtain ⟨request, _, _, _, _, hrequest, -, -, -⟩ := hstores.wanted
    cases hopening hrequest
  · intro record hrecord hlive
    rw [hput] at hrecord
    rcases mem_insertFile hrecord with rfl | hold
    · have hwrite : ClientWrite site pid call hist s record := hguard
      cases hwrite with
      | activate _ _ hrequest _ _ _ _ => cases hopening hrequest
      | beginRotation howns _ hstatus _ =>
        exact h _ (Directory.mem_files_of_get howns.stored) (.inl hstatus)
      | finishRotation howns _ hstatus _ _ _ _ =>
        exact h _ (Directory.mem_files_of_get howns.stored) (.inr hstatus)
      | _ => rcases hlive with hlive | hlive <;> cases hlive
    · exact h record hold hlive

/-- What the holder of the lock of the file has found after one more action of its own. -/
theorem FindsNoneLive.step (h : s.locks .authorizedKeys = some pid → FindsNoneLive hist s)
    (hblocked : s.blocked = true) (hcloses : LeavesClosed s action) (hlive : NoneLive s → NoneLive s')
    (hperform : performAction site.env pid action choice s = some (reply, s'))
    (hlocked : s'.locks .authorizedKeys = some pid) :
    FindsNoneLive (⟨action, choice, reply⟩ :: hist) s' := by
  have heffect := effect_of_perform hperform
  by_cases hlocks : action.locks .authorizedKeys = true
  · -- the lock is taken: nothing has been read under it
    have hnone : NoneLive s := (hcloses hblocked).2 hlocks
    refine ⟨hlive hnone, ?_⟩
    rintro record ⟨_, hmem⟩
    rw [sinceLock, since_cons, if_pos hlocks] at hmem
    cases hmem
  · have hbefore : s.locks .authorizedKeys = some pid := by
      rcases heffect.locks hlocked with hbefore | ⟨-, wait, rfl⟩
      · exact hbefore
      · simp [Action.locks] at hlocks
    have hfound := h hbefore
    refine ⟨hlive hfound.now, ?_⟩
    rintro record ⟨choice', hmem⟩
    rw [sinceLock, since_cons, if_neg hlocks, List.mem_cons] at hmem
    rcases hmem with hstep | hmem
    · cases hstep
      obtain ⟨hget, -⟩ := readClient_found hperform
      exact hfound.now record (Directory.mem_files_of_get hget)
    · exact hfound.read ⟨choice', hmem⟩

theorem Closed.empty_of_guard (h : Closed c) (hp : c.procs pid = some process)
    (hcloses : LeavesClosed c.state action)
    (hopening : ∀ {request}, process.call.enrollment = some request → action.opening = true)
    (hguard : Guard site pid process.call process.hist action choice c.state)
    (heffect : Effect pid choice c.state action s') : s'.authorizedKeys = [] := by
  rw [List.eq_nil_iff_forall_not_mem]
  intro line hline
  rcases heffect.authorizedKeys hline with hold | rfl | ⟨oldPublicKey, rfl⟩ | ⟨lines, rfl, hlines⟩
  · rw [h.empty] at hold
    cases hold
  · obtain ⟨request, _, hinstalls, -⟩ := hguard
    cases hopening hinstalls.enrollment
  · cases (hcloses h.blocked).1
  · obtain ⟨-, ⟨-, rfl⟩ | ⟨hlocked, hrebuilt⟩⟩ := hguard
    · cases hlines
    · obtain ⟨record, _, _, hread, hlive, -⟩ := hrebuilt.sound line hlines
      exact (h.found pid process hp hlocked).read hread hlive

theorem Closed.advanced {prog : HostProg Unit} (h : Closed c) (hp : c.procs pid = some process)
    (hserved : process.call.served = true) (hfirst : ChecksFirst process.call process.hist action)
    (hcloses : LeavesClosed c.state action)
    (hguard : Guard site pid process.call process.hist action choice c.state)
    (hperform : performAction site.env pid action choice c.state = some (reply, s')) :
    Closed (c.advanced pid process ⟨action, choice, reply⟩ prog s') := by
  have heffect := effect_of_perform hperform
  have hopening : ∀ {request}, process.call.enrollment = some request → action.opening = true :=
    fun hrequest => opening_of_enrollment hserved hfirst (h.unseen pid process hp) hrequest
  have hlive : NoneLive c.state → NoneLive s' := fun hnone => hnone.step hopening hguard heffect
  refine ⟨?_, h.empty_of_guard hp hcloses hopening hguard heffect, ?_, ?_⟩
  · apply heffect.blocked h.blocked
    rintro rfl
    have hrecovers : process.call.recovers = true := hguard
    cases hcall : process.call <;> simp_all [Call.served, Call.recovers]
  · refine h.unseen.advanced hp ?_ fun _ _ _ _ => id
    rintro hunseen ⟨choice', hmem⟩
    rcases List.mem_cons.1 hmem with hstep | hmem
    · cases hstep
      simp [performAction, h.blocked] at hperform
    · exact hunseen ⟨choice', hmem⟩
  · refine h.found.advanced hp ?_ ?_
    · intro hself hlocked
      exact FindsNoneLive.step hself h.blocked hcloses hlive hperform hlocked
    · intro pid' hne _ hist' hother hlocked
      rcases heffect.locks hlocked with hbefore | ⟨heq, -⟩
      · have hfound := hother hbefore
        exact ⟨hlive hfound.now, hfound.read⟩
      · exact absurd heq hne

/-- In every run of served calls that leave the file closed, from a host whose clock is
blocked and whose authorization file is empty, the file stays empty. -/
theorem authorizedKeys_empty_of_staysClosed (hblocked : s.blocked = true)
    (hempty : s.authorizedKeys = []) (hfree : s.locks .authorizedKeys = none)
    (hrun : Run (hostMachine site) StaysClosed (Config.idle s) c) :
    c.state.authorizedKeys = [] := by
  have hclosed : Closed c := by
    refine run_invariant (I := Closed) hrun ⟨hblocked, hempty, .idle, .idle⟩ ?_ ?_ ?_
    · intro c pid call hrun h _ hnew
      refine ⟨h.blocked, h.empty, h.unseen.started (by simp [Did]), h.found.started ?_⟩
      intro hlocked
      exact absurd hnew (inFlight_of_locked hrun hfree hlocked)
    · intro c pid process action rest choice reply state hrun h hD hp hprog hguard hperform _
      have hcalls := hrun.calls fun _ _ hD => hD.1
      have hfirst := checksFirst_of_run hrun hp hprog hperform
      exact h.advanced hp (hcalls pid process hp) hfirst (hD.2.condition hp hprog) hguard hperform
    · intro c pid process _ h _ _
      refine ⟨h.blocked, h.empty, h.unseen.stopped fun _ _ _ _ => id, ?_⟩
      refine h.found.stopped fun pid' _ _ hist' hother hlocked => ?_
      simp only [hostMachine, releaseLocks] at hlocked
      split_ifs at hlocked
      have hfound := hother hlocked
      exact ⟨hfound.now, hfound.read⟩
  exact hclosed.empty

end

/-! ## Runs -/

/-- The host with one active client, after its clock has been blocked. -/
def Scenario.blocked : Host := Scenario.after (Scenario.accepting 'A' ++ Scenario.blocking)

/-- While the clock is blocked the client is revoked, an enrollment is refused and the
periodic loop runs. The file stays empty. -/
theorem authorizedKeys_empty_of_revocation :
    ∃ c, Run (hostMachine Scenario.site) StaysClosed (Config.idle Scenario.blocked) c ∧
      c.HasSucceeded 0 ∧ c.HasSucceeded 2 ∧
      (c.state.clients.get (Scenario.clientID 'A')).map ClientRecord.status = some .revoked ∧
      c.state.authorizedKeys = [] := by
  refine Run.exists_imp_of_runMoves
    ([.start 0 (.manageRevoke (Scenario.management 'A' 'B') Scenario.now)] ++ Scenario.steps 0 9 ++
      [.start 1 (.enroll (Scenario.request 'B') Scenario.now)] ++ Scenario.steps 1 3 ++
      [.start 2 (.reconcileTick Scenario.now)] ++ Scenario.steps 2 4)
    (fun c => c.HasSucceeded 0 ∧ c.HasSucceeded 2 ∧
      (c.state.clients.get (Scenario.clientID 'A')).map ClientRecord.status = some .revoked)
    (by decide +kernel) ?_
  rintro c hrun ⟨hrevoked, hticked, hstatus⟩
  have hblocked : Scenario.blocked.blocked = true := by decide +kernel
  have hempty : Scenario.blocked.authorizedKeys = [] := by decide +kernel
  have hfree : Scenario.blocked.locks .authorizedKeys = none := by decide +kernel
  exact ⟨hrevoked, hticked, hstatus,
    authorizedKeys_empty_of_staysClosed hblocked hempty hfree hrun⟩

/-- While the clock is blocked, a rotation of the client authorizes its new key, and so
does a tick of the periodic loop, with a reading that is accepted, for the old one. -/
theorem blocked_host_reopens :
    Scenario.blocked.blocked = true ∧ Scenario.blocked.authorizedKeys = [] ∧
    (∃ c, Run (hostMachine Scenario.site) (Starts fun call => call.served = true)
        (Config.idle Scenario.blocked) c ∧
      c.HasSucceeded 0 ∧ c.state.blocked = true ∧
      c.state.authorizedKeys.map AuthorizedLine.blob = [authorizedKeyBlob (Scenario.key 'B')]) ∧
    ∃ c, Run (hostMachine Scenario.site) (Starts fun call => call.served = true)
        (Config.idle Scenario.blocked) c ∧
      c.HasSucceeded 0 ∧ c.state.blocked = true ∧
      c.state.authorizedKeys.map AuthorizedLine.blob = [authorizedKeyBlob (Scenario.key 'A')] := by
  refine ⟨by decide +kernel, by decide +kernel, ?_, ?_⟩
  · exact Run.exists_of_runMoves
      ([.start 0 (.manageRotate (Scenario.management 'A' 'B') Scenario.now)] ++ Scenario.steps 0 9)
      (by decide +kernel)
  · exact Run.exists_of_runMoves
      ([.start 0 (.reconcileTick Scenario.lastSecond)] ++
        Scenario.stepsAt Scenario.lastSecond 0 14) (by decide +kernel)

end WarpTweet
