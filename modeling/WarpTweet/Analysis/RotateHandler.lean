import WarpTweet.Analysis.Walks

/-!
# What the rotate handler shows and refuses

The handler of `/v1/rotate` writes a client record only for a request with the token of
the record. When it accepts a request it has seen the record rotated to the requested key
and token, either because it wrote it or because it found it so. And when it refuses a
well-formed request although nothing failed, a record it read did not fit the request.
-/

namespace WarpTweet

open Strings Concurrency Storage

/-- The record has been rotated by the request. -/
structure Rotated (env : Env) (request : ManagementRequest) (record : ClientRecord) : Prop where
  status : record.status = .active
  publicKey : record.publicKey = trimSpace request.newPublicKey
  token : record.managementTokenSHA256 = hashManagementToken env request.nextManagementToken
  previous : record.previousManagementTokenSHA256 = hashManagementToken env request.managementToken

/-- The record waits for the request. -/
structure Awaits (env : Env) (request : ManagementRequest) (record : ClientRecord) : Prop where
  status : record.status = .active
  token : managementTokenMatches env record.managementTokenSHA256 request.managementToken = true

/-- The rotation of the record by the request has begun. -/
structure Begun (env : Env) (request : ManagementRequest) (record : ClientRecord) : Prop where
  status : record.status = .rotationPending
  token : managementTokenMatches env record.managementTokenSHA256 request.managementToken = true
  pendingKey : record.pendingPublicKey = trimSpace request.newPublicKey
  pendingToken : record.pendingManagementTokenSHA256 =
    hashManagementToken env request.nextManagementToken

/-- The handler can serve the request at this time with the record as it is. -/
structure Fits (site : Site) (request : ManagementRequest) (now : Time) (record : ClientRecord) :
    Prop where
  tunnelID : record.tunnelID = request.tunnelID
  unexpired : ∃ notAfter, record.authorizationNotAfter = .at notAfter ∧
    readyToExpire notAfter now = false ∧
    ∃ line, renderAuthorizedKey site.env site.manifest request.newPublicKey notAfter = .ok line
  phase : Awaits site.env request record ∨ Begun site.env request record ∨
    Rotated site.env request record

/-- The request passes the checks that do not look at the record. -/
structure Wellformed (request : ManagementRequest) : Prop where
  newPublicKey : request.newPublicKey ≠ []
  shape : validateManagementRequestShape request = .ok ()
  keyLine : validatePublicKeyLine (trimSpace request.newPublicKey) = .ok ()
  nextToken : isManagementToken request.nextManagementToken = true

/-- The step shows that the record of the client has been rotated. -/
inductive ShowsRotated (env : Env) (request : ManagementRequest) : HostStep → Prop
  | wrote {record : ClientRecord} {choice : Choice} : record.clientID = request.clientID →
      Rotated env request record → ShowsRotated env request ⟨.writeClient record, choice, true⟩
  | found {record : ClientRecord} {choice : Choice} : Rotated env request record →
      ShowsRotated env request ⟨.readClient request.clientID, choice, .found record⟩

/-- The step read no record that fits the request. -/
inductive ReadsUnfit (site : Site) (request : ManagementRequest) (now : Time) : HostStep → Prop
  | missing {choice : Choice} : ReadsUnfit site request now
      ⟨.readClient request.clientID, choice, .missing⟩
  | unfit {record : ClientRecord} {choice : Choice} : ¬ Fits site request now record →
      ReadsUnfit site request now ⟨.readClient request.clientID, choice, .found record⟩

/-- Something failed, or a record that was read does not fit the request. -/
def Excused (site : Site) (request : ManagementRequest) (now : Time) (hist : List HostStep) :
    Prop :=
  ∃ step ∈ hist, step.choice.outcome ≠ .ok ∨ ReadsUnfit site request now step

/-- The handler writes only for a request with the token of the record, and removes no line
other than by a swap. -/
def RotateStep (env : Env) (call : Call) : Action → Prop
  | .removeKey _ => ∀ request now, call ≠ .rotate request now
  | .writeClient written => ∀ request now, call = .rotate request now →
      written.clientID = request.clientID ∧
      (written.status = .rotationPending ∧
          managementTokenMatches env written.managementTokenSHA256 request.managementToken = true ∨
        written.status = .active ∧ managementTokenMatches env
          written.previousManagementTokenSHA256 request.managementToken = true)
  | _ => True

/-- What the handler of a request has seen when it returns. -/
def RotateEnds (site : Site) (call : Call) (outcome : Except Err Unit) (hist : List HostStep) :
    Prop :=
  ∀ request now, call = .rotate request now →
    match outcome with
    | .ok _ => ∃ step ∈ hist, ShowsRotated site.env request step
    | .error _ => Wellformed request → now.isZero = false → Excused site request now hist

def handlerProtocol (site : Site) : Protocol (hostMachine site) :=
  historyProtocol (hostMachine site) (fun call _ => RotateStep site.env call) (RotateEnds site)

variable {site : Site} {pid : ℕ} {request : ManagementRequest} {now now' : Time}
  {hist : List HostStep} {s : Host} {α : Type} {record : ClientRecord} {line : AuthorizedLine}

theorem Excused.cons {step : HostStep} (h : Excused site request now hist) :
    Excused site request now (step :: hist) := by
  obtain ⟨other, hmem, hother⟩ := h
  exact ⟨other, List.mem_cons_of_mem _ hmem, hother⟩

/-- What is left when the handler fails. -/
abbrev Excuses (site : Site) (request : ManagementRequest) (now : Time) (hist : List HostStep) :
    Prop :=
  Wellformed request → now.isZero = false → Excused site request now hist

/-- The program keeps to the protocol of the handler. -/
abbrev Handles (site : Site) (pid : ℕ) (request : ManagementRequest) (now : Time)
    (program : HostProg α) (hist : List HostStep) (s : Host) (Q : α → List HostStep → Prop) : Prop :=
  Leaves (handlerProtocol site) pid (.rotate request now) program hist s Q
    (Excuses site request now)

/-- The record was read for the client of the request. -/
def ReadFor (request : ManagementRequest) (record : ClientRecord) (hist : List HostStep) : Prop :=
  ∃ choice, (⟨.readClient request.clientID, choice, .found record⟩ : HostStep) ∈ hist

theorem excused_of_readFor (h : ReadFor request record hist) (hunfit : ¬ Fits site request now record) :
    Excused site request now hist := by
  obtain ⟨choice, hmem⟩ := h
  exact ⟨_, hmem, .inr (.unfit hunfit)⟩

theorem isHexID_of_wellformed (h : Wellformed request) : isHexID request.clientID = true := by
  have hshape := h.shape
  simp only [validateManagementRequestShape, except_bind_eq_ok, refuseIf_eq_ok] at hshape
  obtain ⟨-, -, -, hhex, -⟩ := hshape
  simpa using hhex

theorem handles_loadClient :
    Handles site pid request now (loadClient request.clientID) hist s fun record hist' =>
      record.clientID = request.clientID ∧ ReadFor request record hist' ∧ hist ⊆ hist' := by
  refine leaves_refuse_bind (fun hbad hwell _ => ?_) fun _ => ?_
  · simp [isHexID_of_wellformed hwell] at hbad
  · refine Leaves.bind (N := fun reply hist' => ∃ choice,
      hist' = ⟨.readClient request.clientID, choice, reply⟩ :: hist ∧
        (∀ record, reply = .found record → record.clientID = request.clientID) ∧
        (reply = .failed → choice.outcome ≠ .ok)) ?_ ?_
    · refine leaves_action fun choice reply s₁ s₂ _ hperform => ⟨trivial, choice, rfl, ?_, ?_⟩
      · rintro record rfl
        exact Directory.key_of_get (readClient_found hperform).1
      · rintro rfl hok
        simp only [performAction, hok, Outcome.reports, if_true, Option.some.injEq,
          Prod.mk.injEq] at hperform
        obtain ⟨hreply, -⟩ := hperform
        split at hreply <;> cases hreply
    · rintro (record | _ | _) _ s₁ ⟨choice, rfl, hid, hfailed⟩
      · exact leaves_done ⟨hid record rfl, ⟨choice, List.mem_cons_self⟩, List.subset_cons_self _ _⟩
      · exact leaves_fail fun _ _ => ⟨_, List.mem_cons_self, .inr .missing⟩
      · exact leaves_fail fun _ _ => ⟨_, List.mem_cons_self, .inl (hfailed rfl)⟩

theorem handles_replaceAuthorization {oldPublicKey : Text} :
    Handles site pid request now (replaceAuthorization line oldPublicKey) hist s
      fun _ hist' => hist ⊆ hist' := by
  refine Leaves.bind (N := fun ok hist' => hist ⊆ hist' ∧
    (ok = false → Excused site request now hist')) ?_ ?_
  · refine leaves_action fun choice ok s₁ s₂ _ hperform => ⟨trivial, List.subset_cons_self _ _, ?_⟩
    rintro rfl
    obtain ⟨hreports, -, -⟩ := editKeys_eq_some hperform
    refine ⟨_, List.mem_cons_self, .inl fun hok => ?_⟩
    rw [hok] at hreports
    cases hreports
  · rintro ok hist₁ s₁ ⟨hsub, hfailed⟩
    cases ok with
    | true => exact leaves_done hsub
    | false => exact leaves_fail fun _ _ => hfailed rfl

/-- Writing a record that the step rule allows: it fails only when the write does. -/
theorem handles_writeClientAtomic {written : ClientRecord}
    (hstep : RotateStep site.env (.rotate request now) (.writeClient written)) :
    Handles site pid request now (writeClientAtomic written) hist s fun _ hist' =>
      (∃ choice, (⟨.writeClient written, choice, true⟩ : HostStep) ∈ hist') ∧ hist ⊆ hist' := by
  refine Leaves.bind (N := fun ok hist' => ∃ choice, hist' = ⟨.writeClient written, choice, ok⟩ :: hist ∧
    (ok = false → choice.outcome ≠ .ok)) ?_ ?_
  · refine leaves_action fun choice ok s₁ s₂ _ hperform => ⟨hstep, choice, rfl, ?_⟩
    rintro rfl hok
    simp [performAction, hok, Outcome.reports] at hperform
  · rintro ok _ s₁ ⟨choice, rfl, hfailed⟩
    cases ok with
    | true => exact leaves_done ⟨⟨choice, List.mem_cons_self⟩, List.subset_cons_self _ _⟩
    | false => exact leaves_fail fun _ _ => ⟨_, List.mem_cons_self, .inl (hfailed rfl)⟩

theorem handles_completeRotation (hid : record.clientID = request.clientID)
    (htoken : managementTokenMatches site.env record.managementTokenSHA256
      request.managementToken = true) :
    Handles site pid request now (completeRotation site.env (trimSpace request.newPublicKey)
      (hashManagementToken site.env request.nextManagementToken) now' (replaceAuthorization line)
      record) hist s fun _ hist' => ∃ step ∈ hist', ShowsRotated site.env request step := by
  have hprevious : record.managementTokenSHA256 =
      hashManagementToken site.env request.managementToken := by
    simp only [managementTokenMatches, Bool.and_eq_true, decide_eq_true_eq] at htoken
    exact htoken.2
  refine Leaves.bind handles_replaceAuthorization fun _ hist₁ s₁ _ => ?_
  refine Leaves.bind (handles_writeClientAtomic ?_) ?_
  · rintro request' _ ⟨⟩
    exact ⟨hid, .inr ⟨rfl, htoken⟩⟩
  · rintro _ hist₂ s₂ ⟨⟨choice, hmem⟩, -⟩
    exact leaves_done ⟨_, hmem, .wrote hid ⟨rfl, rfl, rfl, hprevious⟩⟩

theorem authorizationStillValid_of_unexpired {notAfter : Time}
    (hat : record.authorizationNotAfter = .at notAfter)
    (hunexpired : readyToExpire notAfter now = false) :
    authorizationStillValid record now = .ok () := by
  simp [authorizationStillValid, hat, Stamp.parseUTC, hunexpired]

theorem handles_rotateClientPublicKeyLocked (hnow : now.isZero = false → now' = now) :
    Handles site pid request now (rotateClientPublicKeyLocked site.env request
      (trimSpace request.newPublicKey) now' (replaceAuthorization line)) hist s
      fun _ hist' => ∃ step ∈ hist', ShowsRotated site.env request step := by
  refine Leaves.bind handles_loadClient.mapError ?_
  rintro record hist₁ s₁ ⟨hid, hread, -⟩
  refine leaves_refuse_bind (fun hbad _ _ => ?_) fun _ => ?_
  · refine excused_of_readFor hread fun hfits => ?_
    simp [hfits.tunnelID] at hbad
  dsimp only
  by_cases hrotated : record.status = .active ∧ record.publicKey = trimSpace request.newPublicKey ∧
      record.managementTokenSHA256 = hashManagementToken site.env request.nextManagementToken ∧
      record.previousManagementTokenSHA256 = hashManagementToken site.env request.managementToken
  · -- The request repeats a finished rotation.
    rw [if_pos hrotated]
    have hshows : Rotated site.env request record :=
      ⟨hrotated.1, hrotated.2.1, hrotated.2.2.1, hrotated.2.2.2⟩
    refine Leaves.bind handles_replaceAuthorization fun _ hist₂ s₂ hsub => leaves_done ?_
    obtain ⟨choice, hmem⟩ := hread
    exact ⟨_, hsub hmem, .found hshows⟩
  · rw [if_neg hrotated]
    have hphase : Fits site request now record →
        Awaits site.env request record ∨ Begun site.env request record := by
      intro hfits
      rcases hfits.phase with h | h | h
      · exact .inl h
      · exact .inr h
      · exact absurd ⟨h.status, h.publicKey, h.token, h.previous⟩ hrotated
    refine leaves_ofExcept_bind (fun err herror _ hzero => ?_) fun _ _ => ?_
    · refine excused_of_readFor hread fun hfits => ?_
      obtain ⟨notAfter, hat, hunexpired, -⟩ := hfits.unexpired
      rw [hnow hzero, authorizationStillValid_of_unexpired hat hunexpired] at herror
      cases herror
    refine leaves_refuse_bind (fun hbad _ _ => ?_) fun _ => ?_
    · refine excused_of_readFor hread fun hfits => ?_
      rcases hphase hfits with h | h
      · simp [h.status] at hbad
      · simp [h.status] at hbad
    refine leaves_refuse_bind (fun hbad _ _ => ?_) fun _ => ?_
    · refine excused_of_readFor hread fun hfits => ?_
      rcases hphase hfits with h | h
      · simp [h.status] at hbad
      · simp [h.status] at hbad
    refine leaves_refuse_bind (fun hbad _ _ => ?_) fun hgood => ?_
    · refine excused_of_readFor hread fun hfits => ?_
      rcases hphase hfits with h | h
      · simp [h.token] at hbad
      · simp [h.token] at hbad
    have htoken : managementTokenMatches site.env record.managementTokenSHA256
        request.managementToken = true := by simpa using hgood
    split_ifs with hactive
    · refine Leaves.bind (handles_writeClientAtomic ?_) fun _ hist₂ s₂ _ => ?_
      · rintro request' _ ⟨⟩
        exact ⟨hid, .inl ⟨rfl, htoken⟩⟩
      · refine handles_completeRotation ?_ ?_
        · exact hid
        · exact htoken
    · refine leaves_refuse_bind (fun hbad _ _ => ?_) fun _ => handles_completeRotation hid htoken
      refine excused_of_readFor hread fun hfits => ?_
      rcases hphase hfits with h | h
      · exact hactive h.status
      · simp [h.pendingKey, h.pendingToken] at hbad

theorem handles_rotateHandler :
    Handles site pid request now (rotateHandler site.env site.manifest request now) hist s
      fun _ hist' => ∃ step ∈ hist', ShowsRotated site.env request step := by
  refine leaves_refuse_bind (fun hbad hwell _ => ?_) fun _ => ?_
  · simp [hwell.newPublicKey] at hbad
  refine Leaves.bind handles_loadClient ?_
  rintro existing hist₁ s₁ ⟨-, hread, -⟩
  refine leaves_ofExcept_bind (fun err herror _ _ => ?_) fun notAfter hnotAfter => ?_
  · refine excused_of_readFor hread fun hfits => ?_
    obtain ⟨notAfter, hat, -⟩ := hfits.unexpired
    simp [hat, Stamp.parseUTC, Except.mapError] at herror
  refine leaves_ofExcept_bind (fun err herror _ _ => ?_) fun line _ => ?_
  · refine excused_of_readFor hread fun hfits => ?_
    obtain ⟨other, hat, -, line, hline⟩ := hfits.unexpired
    rw [mapError_eq_ok] at hnotAfter
    rw [hat] at hnotAfter
    cases hnotAfter
    simp [hline, Except.mapError] at herror
  refine Leaves.bind (N := fun now' _ => now.isZero = false → now' = now) ?_ fun now' hist₂ s₂ hnow => ?_
  · unfold orNow
    split_ifs with hzero
    · refine leaves_action fun _ _ _ _ _ _ => ⟨trivial, fun hne => ?_⟩
      simp [hzero] at hne
    · exact leaves_done fun _ => rfl
  refine leaves_ofExcept_bind (fun err herror hwell _ => ?_) fun _ _ => ?_
  · rw [hwell.shape] at herror
    cases herror
  refine leaves_ofExcept_bind (fun err herror hwell _ => ?_) fun _ _ => ?_
  · rw [hwell.keyLine] at herror
    cases herror
  refine leaves_refuse_bind (fun hbad hwell _ => ?_) fun _ => ?_
  · simp [hwell.nextToken] at hbad
  refine leaves_refuse_bind (fun hbad hwell _ => ?_) fun _ => ?_
  · simp [isHexID_of_wellformed hwell] at hbad
  refine leaves_withLock (N := fun _ hist' => ∃ step ∈ hist', ShowsRotated site.env request step)
    (F := Excuses site request now) (fun _ _ => trivial) ?_ ?_ ?_ ?_
  · exact fun choice reply hfailed _ _ => ⟨_, List.mem_cons_self, .inl (hfailed rfl)⟩
  · exact fun choice s' => handles_rotateClientPublicKeyLocked hnow
  · rintro _ hist' ⟨step, hmem, hshows⟩ choice reply s'
    exact ⟨trivial, step, List.mem_cons_of_mem _ hmem, hshows⟩
  · exact fun hist' hexcuses choice reply s' =>
      ⟨trivial, fun hwell hzero => (hexcuses hwell hzero).cons⟩

theorem ensures_handlerProtocol : Ensures (handlerProtocol site) pid (.rotate request now)
      (callProgram site (.rotate request now)) [] s
      ((handlerProtocol site).Ends pid (.rotate request now)) := by
  refine ensures_bind.2 (Ensures.mono handles_rotateHandler ?_)
  rintro (err | record) hist' s' h request' now'' ⟨⟩
  · exact h
  · exact h

end WarpTweet
