import WarpTweet.Analysis.Walks

/-!
# What enrollments, rotations and rebuilds have done when they return

Three calls put lines into the authorization file: an acceptance, a rotation, and the
rebuild of the whole file. None of them takes an authorization away. When an acceptance
succeeds, the record of its client is no longer pending; when a rotation that has begun
succeeds, it has published the new key; when a rebuild succeeds, it has written the file.
-/

namespace WarpTweet

open Strings Concurrency Storage

variable {action : Action}

/-- The calls that put lines into the authorization file. -/
def Call.growing : Call → Bool
  | .accept _ | .rotate _ _ | .reconcileManaged => true
  | _ => false

/-- The client that an enrollment request is for. -/
def EnrollmentRequest.clientID (env : Env) (request : EnrollmentRequest) : Text :=
  clientIDFor env request.inviteID (trimSpace request.publicKey)

/-- The action writes no client record, takes no authorization away and does not ask for
the lock of the authorization file. -/
def Action.plain : Action → Bool
  | .writeClient _ | .removeKey _ | .lock .authorizedKeys _ => false
  | _ => true

/-- The process has published an active record. -/
def Publishes (hist : List HostStep) : Prop :=
  ∃ written, written.status = .active ∧ Did hist (.writeClient written) true

/-- A growing call writes active and rotating records of its own client, and begins no
rotation after it has published one. No such call removes a key, and only a rebuild locks
the authorization file. -/
def GrowthStep (env : Env) (call : Call) (hist : List HostStep) : Action → Prop
  | .writeClient written => Live written ∧
      (∀ request ∈ call.enrollment, written.clientID = request.clientID env) ∧
      (∀ request ∈ call.rotation, written.clientID = request.clientID) ∧
      (written.status = .rotationPending → ¬ Publishes hist)
  | .removeKey _ => False
  | .lock .authorizedKeys _ => call.rebuilds = true
  | _ => True

/-- The process has seen or made the record of the client one that is not pending. -/
def Activated (clientID : Text) (hist : List HostStep) : Prop :=
  ∃ record, record.clientID = clientID ∧ record.status ≠ .enrollmentPending ∧
    (Did hist (.readClient clientID) (.found record) ∨ Did hist (.writeClient record) true)

/-- The step writes a record whose rotation begins. -/
def Action.beginsRotation (clientID : Text) : Action → Bool
  | .writeClient written => written.clientID = clientID && written.status = .rotationPending
  | _ => false

/-- What a growing call has done when it succeeds. -/
structure GrowthEnds (env : Env) (call : Call) (hist : List HostStep) : Prop where
  activated : ∀ request ∈ call.enrollment, Activated (request.clientID env) hist
  published : ∀ request ∈ call.rotation, Publishes hist ∨
    ∀ step ∈ hist, step.action.beginsRotation request.clientID = false
  rebuilt : call.rebuilds = true → ∃ lines, Did hist (.writeKeys lines) true

abbrev growthProtocol (site : Site) : Protocol (hostMachine site) :=
  historyProtocol (hostMachine site)
    (fun call hist action => call.growing = true → GrowthStep site.env call hist action)
    (fun call outcome hist => call.growing = true → outcome = .ok () → GrowthEnds site.env call hist)

variable {env : Env} {clientID name publicKey newPublicKey : Text} {hist : List HostStep}
  {program : HostProg α} {manifest : Manifest} {request : ManagementRequest}

theorem Activated.mono {hist' : List HostStep} (h : Activated clientID hist)
    (hsub : hist ⊆ hist') : Activated clientID hist' := by
  obtain ⟨record, hid, hstatus, hdid⟩ := h
  exact ⟨record, hid, hstatus, hdid.imp (Did.mono · hsub) (Did.mono · hsub)⟩

theorem plain_of_free (h : action.free = true) : action.plain = true := by
  cases action <;> first | rfl | cases h

theorem growthStep_of_plain {call : Call}
    (h : action.plain = true) : GrowthStep env call hist action := by
  cases action with
  | lock name wait => cases name <;> trivial
  | _ => trivial

theorem beginsRotation_of_plain (h : action.plain = true) :
    action.beginsRotation clientID = false := by
  cases action <;> first | rfl | cases h

section

variable {site : Site} {pid : ℕ} {call : Call} {hist : List HostStep} {s : Host} {α : Type}
  {record : ClientRecord} {input : AcceptInput} {now : Time} {line : AuthorizedLine}

theorem grows_of_uses (huses : program.Uses fun action => action.plain = true) :
    Traces (growthProtocol site) pid call program hist s fun _ hist' =>
      ∀ step ∈ hist', step ∈ hist ∨ step.action.plain = true :=
  traces_of_uses huses fun _ haction _ _ _ _ => growthStep_of_plain haction

theorem grows_of_free (huses : program.Uses fun action => action.free = true) :
    Traces (growthProtocol site) pid call program hist s fun _ hist' =>
      ∀ step ∈ hist', step ∈ hist ∨ step.action.plain = true :=
  grows_of_uses (huses.mono fun _ => plain_of_free)

theorem grows_writeClientAtomic (hlive : Live record)
    (henrollment : ∀ request ∈ call.enrollment, record.clientID = request.clientID site.env)
    (hrotation : ∀ request ∈ call.rotation, record.clientID = request.clientID)
    (hbegins : record.status = .rotationPending → ¬ Publishes hist) :
    Traces (growthProtocol site) pid call (writeClientAtomic record) hist s
      fun _ hist' => Did hist' (.writeClient record) true := by
  refine Traces.bind (traces_perform fun _ _ _ _ => ⟨hlive, henrollment, hrotation, hbegins⟩) ?_
  rintro ok hist₁ s₁ - ⟨choice, _, _, rfl, -⟩
  cases ok with
  | false => exact traces_fail
  | true => exact traces_done did_cons_self

theorem grows_loadClient :
    Traces (growthProtocol site) pid call (loadClient name) hist s fun record hist' =>
      record.clientID = name ∧
        ∃ choice, hist' = ⟨.readClient name, choice, .found record⟩ :: hist :=
  traces_loadClient fun _ _ _ _ => trivial

/-! ## Acceptance -/

theorem plain_installAuthorization
    {notAfter : Time} : (installAuthorization env manifest publicKey notAfter).Uses
      fun action => action.plain = true :=
  .bind ⟨rfl, fun _ => trivial⟩ fun _ => .bind Prog.uses_ofExcept fun _ =>
    .bind ⟨rfl, fun _ => trivial⟩ fun _ => Prog.uses_ofExcept

/-- The record that an acceptance goes on with is pending, or was read as not pending. -/
theorem grows_storeOrResumePendingClient {want : ClientRecord}
    (hwant : want.status = .enrollmentPending) :
    Traces (growthProtocol site) pid call (storeOrResumePendingClient site.env want) hist s
      fun client hist' => client.clientID = want.clientID ∧
        (client.status = .enrollmentPending ∨ Activated want.clientID hist') := by
  have hstore : (storeClient want).Uses fun action => action.plain = true := by
    refine .bind Prog.uses_ofExcept fun _ => .bind ⟨rfl, fun _ => trivial⟩ fun reply => ?_
    cases reply <;> trivial
  refine Traces.bind (grows_of_uses hstore).attempt ?_
  rintro (err | _) hist₁ s₁ - -
  · refine Traces.bind grows_loadClient.attempt ?_
    rintro (err' | existing) hist₂ s₂ - hread
    · exact traces_fail
    · obtain ⟨hid, choice, rfl⟩ := hread existing rfl
      refine traces_refuse_bind fun _ => traces_done ⟨hid, ?_⟩
      by_cases hpending : existing.status = .enrollmentPending
      · exact .inl hpending
      · exact .inr ⟨existing, hid, hpending, .inl did_cons_self⟩
  · exact traces_done ⟨rfl, .inl hwant⟩

theorem grows_activateClient {client : ClientRecord} (hrotation : call.rotation = none)
    (henrollment : ∀ request ∈ call.enrollment, client.clientID = request.clientID site.env)
    (h : client.status = .enrollmentPending ∨ Activated client.clientID hist) :
    Traces (growthProtocol site) pid call (activateClient client) hist s
      fun _ hist' => Activated client.clientID hist' := by
  unfold activateClient
  split_ifs with hpending
  · refine traces_refuse_bind fun _ => traces_withLock (fun _ _ _ => trivial)
      (fun _ _ _ _ => trivial) ?_ ?_
    · intro choice s₁
      refine Traces.bind grows_loadClient fun _ hist₂ s₂ _ _ => ?_
      refine Traces.mono (grows_writeClientAtomic ?_ henrollment (by simp [hrotation]) ?_) ?_
      · exact .inl rfl
      · simp
      · exact fun _ _ _ hdid => ⟨{ client with status := .active }, rfl, by simp, .inr hdid⟩
    · exact fun _ _ _ _ h => h.mono (List.subset_cons_self _ _)
  · exact traces_done (h.resolve_left hpending)

theorem grows_acceptIssued {record : Record} {published : PublishedEndpointSet}
    (hrotation : call.rotation = none) (henrollment : call.enrollment = some input.request)
    (hinvite : record.inviteID = input.request.inviteID) :
    Traces (growthProtocol site) pid call (acceptIssued site.env input
      (installAuthorization site.env site.manifest) record published now) hist s
      fun _ hist' => Activated (input.request.clientID site.env) hist' := by
  refine traces_refuse_bind fun _ => traces_ofExcept_bind fun end_ _ => ?_
  refine Traces.bind (grows_storeOrResumePendingClient rfl) ?_
  rintro client hist₁ s₁ - ⟨hid, hclient⟩
  have hid' : client.clientID = input.request.clientID site.env := by
    rw [hid]
    simp [wantClient, EnrollmentRequest.clientID, hinvite]
  rw [← hid, hid'] at hclient
  refine traces_ofExcept_bind fun notAfter _ => ?_
  refine Traces.bind (grows_of_uses plain_installAuthorization).mapError fun _ hist₂ s₂ hsub₂ _ => ?_
  refine Traces.bind (grows_activateClient hrotation ?_ ?_) fun _ hist₃ s₃ _ hactivated => ?_
  · intro request hrequest
    rw [henrollment, Option.mem_some_iff] at hrequest
    rw [hid', hrequest]
  · rw [hid']
    exact hclient.imp_right fun h => h.mono hsub₂
  · rw [hid'] at hactivated
    refine Traces.bind (grows_of_free uses_consume) fun _ hist₄ s₄ hsub₄ _ => ?_
    exact traces_done (hactivated.mono hsub₄)

theorem grows_resumeAcceptedEnrollment {invite : Record} :
    Traces (growthProtocol site) pid call (resumeAcceptedEnrollment site.env input
      (installAuthorization site.env site.manifest) invite (input.request.clientID site.env)
      (trimSpace input.request.publicKey)) hist s
      fun _ hist' => Activated (input.request.clientID site.env) hist' := by
  refine traces_refuse_bind fun _ => Traces.bind grows_loadClient.mapError ?_
  rintro client hist₁ s₁ - ⟨hid, choice, rfl⟩
  refine traces_refuse_bind fun hresumes => traces_ofExcept_bind fun notAfter _ => ?_
  refine Traces.bind (grows_of_uses plain_installAuthorization).mapError fun _ hist₂ s₂ hsub₂ _ => ?_
  have hactive : client.status = .active := by
    simp only [resumesAccepted, Bool.not_eq_false', Bool.and_eq_true, decide_eq_true_eq] at hresumes
    exact hresumes.1.1.1.1.1
  have hread : Activated (input.request.clientID site.env)
      (⟨.readClient (input.request.clientID site.env), choice, .found client⟩ :: hist) :=
    ⟨client, hid, by rw [hactive]; decide, .inl did_cons_self⟩
  exact traces_done (hread.mono hsub₂)

theorem grows_accept (hrotation : call.rotation = none)
    (henrollment : call.enrollment = some input.request) :
    Traces (growthProtocol site) pid call (accept site.env input
      (installAuthorization site.env site.manifest)) hist s
      fun _ hist' => Activated (input.request.clientID site.env) hist' := by
  refine traces_ofExcept_bind fun published _ => ?_
  refine Traces.bind (grows_of_free uses_orNow) fun now hist₁ s₁ _ _ => ?_
  refine traces_withLock (fun _ _ _ => trivial) (fun _ _ _ _ => trivial) ?_ ?_
  · intro choice s₂
    refine Traces.bind (N := fun record _ => record.inviteID = input.request.inviteID)
      ?_ fun record hist₂ s₃ _ hinvite => ?_
    · exact (traces_load fun _ _ _ _ => trivial).mapError
    · refine traces_ofExcept_bind fun recordSet _ => traces_refuse_bind fun _ => ?_
      dsimp only
      split_ifs with hconsumed
      · rw [hinvite]
        exact grows_resumeAcceptedEnrollment
      · refine traces_ofExcept_bind fun _ _ => ?_
        cases inviteExpiry record with
        | none => exact traces_fail
        | some expires =>
          dsimp only
          split_ifs
          · exact grows_acceptIssued hrotation henrollment hinvite
          · refine Traces.bind (grows_of_uses ⟨rfl, fun _ => trivial⟩) fun _ _ _ _ _ => ?_
            exact traces_fail
  · exact fun _ _ _ _ h => h.mono (List.subset_cons_self _ _)

/-! ## Rotation -/

theorem plain_replaceAuthorization :
    (replaceAuthorization line publicKey).Uses fun action => action.plain = true :=
  .bind ⟨rfl, fun _ => trivial⟩ fun _ => Prog.uses_ofExcept

/-- What a rotation that succeeds has done: it has published the new key, or has begun
nothing. -/
abbrev RotationEnds (clientID : Text) (hist : List HostStep) : Prop :=
  Publishes hist ∨ ∀ step ∈ hist, step.action.beginsRotation clientID = false

theorem grows_completeRotation {nextHash : Text} (henrollment : call.enrollment = none)
    (hrotation : ∀ request ∈ call.rotation, record.clientID = request.clientID) :
    Traces (growthProtocol site) pid call (completeRotation site.env newPublicKey nextHash now
      (replaceAuthorization line) record) hist s fun _ hist' => Publishes hist' := by
  refine Traces.bind (grows_of_uses plain_replaceAuthorization) fun _ hist₁ s₁ _ _ => ?_
  refine Traces.bind (grows_writeClientAtomic (.inl rfl) (by simp [henrollment]) hrotation
    (by simp [finishRotation])) fun _ hist₂ s₂ _ hdid => ?_
  exact traces_done ⟨_, rfl, hdid⟩

theorem grows_rotateClientPublicKeyLocked (henrollment : call.enrollment = none)
    (hcall : call.rotation = some request) (hplain : ∀ step ∈ hist, step.action.plain = true) :
    Traces (growthProtocol site) pid call (rotateClientPublicKeyLocked site.env request newPublicKey
      now (replaceAuthorization line)) hist s
      fun _ hist' => RotationEnds request.clientID hist' := by
  refine Traces.bind grows_loadClient.mapError ?_
  rintro record hist₁ s₁ - ⟨hid, choice, rfl⟩
  have hrotation : ∀ other ∈ call.rotation, record.clientID = other.clientID := by
    intro other hother
    rw [hcall, Option.mem_some_iff] at hother
    rw [hid, hother]
  refine traces_refuse_bind fun _ => ?_
  dsimp only
  split_ifs with hretry hactive
  · -- a repeated request only swaps the line again
    refine Traces.bind (grows_of_uses plain_replaceAuthorization) fun _ hist₂ s₂ _ hsteps => ?_
    refine traces_done (.inr fun step hmem => beginsRotation_of_plain ?_)
    rcases hsteps step hmem with hbefore | hplain'
    · rcases List.mem_cons.1 hbefore with rfl | hbefore
      · rfl
      · exact hplain step hbefore
    · exact hplain'
  · refine traces_ofExcept_bind fun _ _ => traces_refuse_bind fun _ => traces_refuse_bind fun _ =>
      traces_refuse_bind fun _ => ?_
    refine Traces.bind (grows_writeClientAtomic (.inr rfl) (by simp [henrollment]) hrotation ?_)
      fun _ hist₂ s₂ _ _ => ?_
    · rintro - ⟨written, -, choice', hmem⟩
      rcases List.mem_cons.1 hmem with heq | hmem
      · cases heq
      · exact absurd (hplain _ hmem) (by simp [Action.plain])
    exact (grows_completeRotation henrollment hrotation).mono fun _ _ _ h => .inl h
  · refine traces_ofExcept_bind fun _ _ => traces_refuse_bind fun _ => traces_refuse_bind fun _ =>
      traces_refuse_bind fun _ => traces_refuse_bind fun _ => ?_
    exact (grows_completeRotation henrollment hrotation).mono fun _ _ _ h => .inl h

theorem grows_rotateHandler
    (henrollment : call.enrollment = none) (hcall : call.rotation = some request) :
    Traces (growthProtocol site) pid call (rotateHandler site.env site.manifest request now) [] s
      fun _ hist' => RotationEnds request.clientID hist' := by
  refine traces_refuse_bind fun _ => Traces.bind grows_loadClient ?_
  rintro existing hist₁ s₁ - ⟨hid, choice, rfl⟩
  refine traces_ofExcept_bind fun notAfter _ => traces_ofExcept_bind fun line _ => ?_
  refine Traces.bind (grows_of_free uses_orNow) fun now' hist₂ s₂ _ hsteps => ?_
  refine traces_ofExcept_bind fun _ _ => traces_ofExcept_bind fun _ _ => traces_refuse_bind fun _ =>
    traces_refuse_bind fun _ => traces_withLock (fun _ _ _ => trivial) (fun _ _ _ _ => trivial) ?_ ?_
  · intro choice' s₃
    refine grows_rotateClientPublicKeyLocked henrollment hcall fun step hmem => ?_
    rcases List.mem_cons.1 hmem with rfl | hmem
    · rfl
    · rcases hsteps step hmem with hbefore | hplain
      · cases List.mem_singleton.1 hbefore
        rfl
      · exact hplain
  · rintro _ hist' choice reply (⟨written, hstatus, hdid⟩ | hnone)
    · exact .inl ⟨written, hstatus, hdid.mono (List.subset_cons_self _ _)⟩
    · refine .inr fun step hmem => ?_
      rcases List.mem_cons.1 hmem with rfl | hmem
      · rfl
      · exact hnone step hmem

/-! ## Rebuilding -/

theorem plain_loadClient : (loadClient name).Uses fun action => action.plain = true := by
  refine .bind Prog.uses_ofExcept fun _ => .bind ⟨rfl, fun _ => trivial⟩ fun read => ?_
  cases read <;> trivial

theorem plain_listClients : listClients.Uses fun action => action.plain = true := by
  refine .bind ⟨rfl, fun _ => trivial⟩ fun names => ?_
  cases names with
  | none => trivial
  | some names => exact .collect (fun _ => plain_loadClient) _

theorem plain_reconcileRecord {lines : List AuthorizedLine} :
    (reconcileRecord env manifest lines record).Uses fun action => action.plain = true := by
  unfold reconcileRecord
  split_ifs
  · trivial
  · refine .bind Prog.uses_ofExcept fun notAfter => .bind ⟨rfl, fun _ => trivial⟩ fun now => ?_
    split_ifs
    · trivial
    · refine .bind Prog.uses_ofExcept fun line => ?_
      split_ifs <;> trivial
  · trivial

theorem grows_reconcileManagedAuthorizations (hrebuilds : call.rebuilds = true) :
    Traces (growthProtocol site) pid call
      (reconcileManagedAuthorizations site.env site.manifest) hist s
      fun _ hist' => ∃ lines, Did hist' (.writeKeys lines) true := by
  refine traces_withLock (fun _ _ _ => hrebuilds) (fun _ _ _ _ => trivial) ?_ ?_
  · intro choice s₁
    refine Traces.bind (grows_of_uses plain_listClients) fun records hist₂ s₂ _ _ => ?_
    refine Traces.bind (grows_of_uses (.fold (fun _ _ => plain_reconcileRecord) _ _))
      fun lines hist₃ s₃ _ _ => ?_
    refine Traces.bind (traces_perform fun _ _ _ _ => trivial) ?_
    rintro ok hist₄ s₄ - ⟨choice', _, _, rfl, -⟩
    cases ok with
    | false => exact traces_fail
    | true => exact traces_done ⟨lines, did_cons_self⟩
  · rintro _ hist' _ _ ⟨lines, hdid⟩
    exact ⟨lines, hdid.mono (List.subset_cons_self _ _)⟩

end

theorem ensures_growthProtocol {site : Site} {pid : ℕ} {s : Host} (call : Call) :
    Ensures (growthProtocol site) pid call (callProgram site call) [] s
      ((growthProtocol site).Ends pid call) := by
  cases hgrowing : call.growing with
  | false =>
    refine Ensures.mono (Ensures.of_always ?_) ?_
    · intro steps action _ _ htrue
      rw [hgrowing] at htrue
      cases htrue
    · intro _ _ _ _ htrue
      rw [hgrowing] at htrue
      cases htrue
  | true =>
    cases call with
    | accept input =>
      refine ensures_bind.2 (Ensures.mono (grows_accept rfl rfl) ?_)
      rintro (err | result) hist' s' ⟨-, hvalue⟩
      · rintro - heq
        cases heq
      · rintro - -
        refine ⟨?_, by simp [Call.rotation], by simp [Call.rebuilds]⟩
        intro request hrequest
        cases Option.mem_some_iff.1 hrequest
        exact hvalue result rfl
    | rotate request now =>
      refine ensures_bind.2 (Ensures.mono (grows_rotateHandler rfl rfl) ?_)
      rintro (err | record) hist' s' ⟨-, hvalue⟩
      · rintro - heq
        cases heq
      · rintro - -
        refine ⟨by simp [Call.enrollment], ?_, by simp [Call.rebuilds]⟩
        intro other hother
        cases Option.mem_some_iff.1 hother
        exact hvalue record rfl
    | reconcileManaged =>
      refine Ensures.mono (grows_reconcileManagedAuthorizations rfl) ?_
      rintro outcome hist' s' ⟨-, hvalue⟩ - rfl
      exact ⟨by simp [Call.enrollment], by simp [Call.rotation], fun _ => hvalue () rfl⟩
    | _ => cases hgrowing

end WarpTweet
