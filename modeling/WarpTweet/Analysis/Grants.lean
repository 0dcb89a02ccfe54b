import WarpTweet.Analysis.Effects

/-!
# The protocol of the grant records

Which process may do what to a client record and to the authorization file, and with
which evidence. `Guard` is the catalogue: every write of a client record is one of the
eight transitions of `ClientWrite`, made under the client lock on the record that is
stored at that moment; every edit of the authorization file is made for a stored
record. The evidence is a part of the history of the process: what it has done since
it took the client lock or last wrote the record.

`grantProtocol` puts the catalogue together with what a process may rely on. That all
programs of the host follow it is proved in `WarpTweet.Analysis.Walks`.
-/

namespace WarpTweet

open Strings Concurrency Storage

variable {hist : List HostStep} {action : Action} {choice : Choice} {clientID : Text} {pid : ℕ}
  {s : Host} {record : ClientRecord} {site : Site} {call : Call}

/-! ## Calls -/

/-- The enrollment request a call serves. -/
def Call.enrollment : Call → Option EnrollmentRequest
  | .accept input => some input.request
  | .enroll request _ => some request
  | _ => none

/-- The rotation request a call serves. -/
def Call.rotation : Call → Option ManagementRequest
  | .rotate request _ => some request
  | .manageRotate request _ => some request
  | _ => none

/-- The call publishes a revocation before it ends the sessions of the client. -/
def Call.defersEviction : Call → Bool
  | .revokeClient _ _ enforced => !enforced
  | .manageRevoke _ _ => true
  | _ => false

/-- The call can rebuild the whole authorization file. -/
def Call.rebuilds : Call → Bool
  | .reconcileManaged | .reconcileTick _ | .startListener _ | .hostCommand _ | .clockRecover _ => true
  | _ => false

/-- The call can block the host clock. -/
def Call.entersBlocked : Call → Bool
  | .reconcileTick _ | .startListener _ | .hostCommand _ => true
  | _ => false

def Call.recovers : Call → Bool
  | .clockRecover _ => true
  | _ => false

/-! ## Histories -/

/-- The process performed `action` with this reply. -/
def Did (hist : List HostStep) (action : Action) (reply : action.Reply) : Prop :=
  ∃ choice, (⟨action, choice, reply⟩ : HostStep) ∈ hist

/-- What a process has done since its last action that is marked. -/
def since (mark : Action → Bool) (hist : List HostStep) : List HostStep :=
  hist.takeWhile fun step => !mark step.action

def Action.locks (name : Lock) : Action → Bool
  | .lock other _ => other = name
  | _ => false

/-- The action asks for the lock of the client or writes its record. -/
def Action.settles (clientID : Text) : Action → Bool
  | .lock other _ => other = .client clientID
  | .writeClient record => record.clientID = clientID
  | _ => false

/-- The client whose lock the action asks for. -/
def Action.asksFor : Action → Option Text
  | .lock (.client clientID) _ => some clientID
  | _ => none

/-- The client record an action stores as a new one. -/
def Action.newClient : Action → Option ClientRecord
  | .storeClient record => some record
  | _ => none

def Action.writtenClient : Action → Option ClientRecord
  | .writeClient record => some record
  | _ => none

/-- The client whose lock the process asked for last. -/
def lastClient (hist : List HostStep) : Option Text :=
  hist.findSome? fun step => step.action.asksFor

/-- What a process has done since it took the client lock or last wrote the record. -/
abbrev recent (clientID : Text) (hist : List HostStep) : List HostStep :=
  since (Action.settles clientID) hist

/-- What a process has done since it took the lock `name`. -/
abbrev sinceLock (name : Lock) (hist : List HostStep) : List HostStep :=
  since (Action.locks name) hist

variable {s' s'' : Host} {pid' : ℕ} {mark : Action → Bool} {step : HostStep} {reply : action.Reply}
  {steps : List HostStep} {name : Lock}

theorem since_cons :
    since mark (step :: hist) = if mark step.action then [] else step :: since mark hist := by
  cases hmark : mark step.action <;> simp [since, hmark]

theorem Did.mono {hist' : List HostStep}
    (h : Did hist action reply) (hsub : hist ⊆ hist') : Did hist' action reply := by
  obtain ⟨choice, hmem⟩ := h
  exact ⟨choice, hsub hmem⟩

theorem did_cons_self : Did (⟨action, choice, reply⟩ :: hist) action reply :=
  ⟨choice, List.mem_cons_self⟩

/-- The action neither takes nor frees a lock and writes no client record. -/
def Action.calm : Action → Bool
  | .lock _ _ | .unlock _ | .storeClient _ | .writeClient _ => false
  | _ => true

theorem since_append_calm (hmark : ∀ action, mark action = true → action.calm = false)
    (hsteps : ∀ step ∈ steps, step.action.calm = true) :
    since mark (steps ++ hist) = steps ++ since mark hist := by
  induction steps with
  | nil => rfl
  | cons step steps ih =>
    have hstep : mark step.action = false := by
      by_contra hne
      have hcalm := hmark step.action (by simpa using hne)
      simp [hsteps step List.mem_cons_self] at hcalm
    rw [List.cons_append, since_cons, hstep, ih fun step h => hsteps step (List.mem_cons_of_mem _ h)]
    simp

theorem calm_of_settles (h : action.settles clientID = true) : action.calm = false := by
  cases action <;> simp_all [Action.settles, Action.calm]

@[simp]
theorem lastClient_cons : lastClient (step :: hist) = step.action.asksFor.or (lastClient hist) := by
  cases hasks : step.action.asksFor <;> simp [lastClient, hasks]

theorem lock_of_asksFor (h : action.asksFor = some clientID) :
    ∃ wait, action = .lock (.client clientID) wait := by
  unfold Action.asksFor at h
  split at h
  · cases h
    exact ⟨_, rfl⟩
  · cases h

theorem asksFor_of_calm (h : action.calm = true) : action.asksFor = none := by
  cases action <;> simp_all [Action.asksFor, Action.calm]

theorem lastClient_append_calm (hsteps : ∀ step ∈ steps, step.action.calm = true) :
    lastClient (steps ++ hist) = lastClient hist := by
  induction steps with
  | nil => rfl
  | cons step steps ih =>
    rw [List.cons_append, lastClient_cons, asksFor_of_calm (hsteps step List.mem_cons_self),
      ih fun step h => hsteps step (List.mem_cons_of_mem _ h)]
    rfl

theorem calm_of_locks (h : action.locks name = true) : action.calm = false := by
  cases action <;> simp_all [Action.locks, Action.calm]

/-! ## What a process can rely on -/

/-- A record of client `clientID` is stored, and it was enrolled with the invite. -/
def Carries (s : Host) (clientID inviteID : Text) : Prop :=
  ∃ record, s.clients.get clientID = some record ∧ record.inviteID = inviteID

/-- Process `pid` holds the client lock of `record`, which is the stored record. -/
structure Holds (pid : ℕ) (record : ClientRecord) (s : Host) : Prop where
  locked : s.locks (.client record.clientID) = some pid
  stored : s.clients.get record.clientID = some record

/-- Process `pid` works on `record`: it holds the record, under the client lock it
asked for last. -/
structure Owns (pid : ℕ) (record : ClientRecord) (hist : List HostStep) (s : Host) : Prop extends
    Holds pid record s where
  current : lastClient hist = some record.clientID

/-- Process `pid` holds the invite lock of `record`, which is stored as pending. -/
structure Enrolls (pid : ℕ) (record : ClientRecord) (s : Host) : Prop where
  locked : s.locks (.invite record.inviteID) = some pid
  stored : s.clients.get record.clientID = some record
  pending : record.status = .enrollmentPending

/-- Across whole programs: no lock is lost, and no client changes its invite. -/
structure Keeps (pid : ℕ) (s s' : Host) : Prop where
  locks : ∀ {name}, s.locks name = some pid → s'.locks name = some pid
  carries : ∀ {clientID inviteID}, Carries s clientID inviteID → Carries s' clientID inviteID

/-- What the actions of other processes, and calm actions of its own, leave alone. -/
structure Relies (pid : ℕ) (s s' : Host) : Prop extends Keeps pid s s' where
  holds : ∀ {record}, Holds pid record s → Holds pid record s'
  enrolls : ∀ {record}, Enrolls pid record s → Enrolls pid record s'

theorem Keeps.refl : Keeps pid s s := ⟨id, id⟩

theorem Keeps.trans (h : Keeps pid s s') (h' : Keeps pid s' s'') : Keeps pid s s'' :=
  ⟨fun hl => h'.locks (h.locks hl), fun hc => h'.carries (h.carries hc)⟩

theorem Relies.refl : Relies pid s s := ⟨.refl, id, id⟩

theorem Relies.trans (h : Relies pid s s') (h' : Relies pid s' s'') : Relies pid s s'' :=
  ⟨h.toKeeps.trans h'.toKeeps, fun hr => h'.holds (h.holds hr), fun hr => h'.enrolls (h.enrolls hr)⟩

theorem Owns.of_relies
    (h : Owns pid record hist s) (hrely : Relies pid s s') : Owns pid record hist s' :=
  ⟨hrely.holds h.toHolds, h.current⟩

theorem Relies.of_clients (hclients : s'.clients = s.clients)
    (hlocks : ∀ name, s.locks name = some pid → s'.locks name = some pid) : Relies pid s s' where
  locks h := hlocks _ h
  carries h := by rwa [Carries, hclients]
  holds h := ⟨hlocks _ h.locked, by rw [hclients]; exact h.stored⟩
  enrolls h := ⟨hlocks _ h.locked, by rw [hclients]; exact h.stored, h.pending⟩

theorem Relies.of_lock {holder : Option ℕ} (hne : s.locks name ≠ some pid) :
    Relies pid s { s with locks := Function.update s.locks name holder } := by
  refine .of_clients rfl fun other hother => ?_
  have hother' : other ≠ name := by
    rintro rfl
    exact hne hother
  simpa [Function.update_of_ne hother'] using hother

theorem Relies.of_storeClient (hnew : s.clients.get record.clientID = none) :
    Relies pid s { s with clients := s.clients.put record } := by
  have hkeep : ∀ {clientID : Text} {other : ClientRecord}, s.clients.get clientID = some other →
      (s.clients.put record).get clientID = some other := by
    intro clientID other hother
    rw [Directory.get_put_of_ne, hother]
    rintro rfl
    rw [hnew] at hother
    cases hother
  refine ⟨⟨id, ?_⟩, fun h => ⟨h.locked, hkeep h.stored⟩, fun h => ⟨h.locked, hkeep h.stored, h.pending⟩⟩
  rintro clientID inviteID ⟨other, hother, rfl⟩
  exact ⟨other, hkeep hother, rfl⟩

/-! ## The catalogue -/

/-- The client record an acceptance stores: the one it wants for an invite of the
request, under the lock of the invite. -/
structure StoresClient (site : Site) (pid : ℕ) (call : Call) (s : Host) (record : ClientRecord) :
    Prop where
  wanted : ∃ request invite published now notAfter, call.enrollment = some request ∧
    invite.inviteID = request.inviteID ∧ validatePublicKeyLine request.publicKey = .ok () ∧
    record = wantClient site.env request invite published now notAfter
  hexID : isHexID record.clientID = true
  locked : s.locks (.invite record.inviteID) = some pid

/-- An acceptance installs the key of its request, while a record of the client it
enrolls is stored. -/
structure Installs (site : Site) (pid : ℕ) (call : Call) (s : Host) (request : EnrollmentRequest) :
    Prop where
  enrollment : call.enrollment = some request
  locked : s.locks (.invite request.inviteID) = some pid
  carries : Carries s (clientIDFor site.env request.inviteID (trimSpace request.publicKey))
    request.inviteID

/-- A rotation swaps the authorization of `record` for the line of the requested key:
away from the public key while the rotation is pending, or, when the request repeats
a finished rotation, away from the previous key. -/
structure ReplacesKey (site : Site) (pid : ℕ) (call : Call) (hist : List HostStep) (s : Host)
    (oldPublicKey : Text) (line : AuthorizedLine) (request : ManagementRequest)
    (record : ClientRecord) : Prop where
  rotation : call.rotation = some request
  owns : Owns pid record hist s
  rendered : ∃ notAfter,
    renderAuthorizedKey site.env site.manifest request.newPublicKey notAfter = .ok line
  keys :
    record.status = .rotationPending ∧ oldPublicKey = record.publicKey ∧
        record.pendingPublicKey = trimSpace request.newPublicKey ∨
      record.status = .active ∧ oldPublicKey = record.previousPublicKey ∧
        record.publicKey = trimSpace request.newPublicKey

/-- The authorization of `publicKey` has been removed since the record was settled. -/
def Removed (record : ClientRecord) (publicKey : Text) (hist : List HostStep) : Prop :=
  Did (recent record.clientID hist) (.removeKey publicKey) true

/-- All sessions of the client were found gone since the record was settled. -/
def VerifiedGone (record : ClientRecord) (hist : List HostStep) : Prop :=
  Did (recent record.clientID hist) (.verifyGone record.clientID none []) (.ok ())

/-- The transitions of a stored client record, each with the evidence it is made on. -/
inductive ClientWrite (site : Site) (pid : ℕ) (call : Call) (hist : List HostStep) (s : Host) :
    ClientRecord → Prop
  /-- Acceptance activates a pending record after its key has been authorized. -/
  | activate {record : ClientRecord} {request : EnrollmentRequest} {line : AuthorizedLine} :
      Owns pid record hist s → Enrolls pid record s → call.enrollment = some request →
      record.inviteID = request.inviteID → record.publicKey = trimSpace request.publicKey →
      Did (sinceLock (.invite record.inviteID) hist) (.appendKey line) true →
      line.blob = authorizedKeyBlob record.publicKey →
      ClientWrite site pid call hist s { record with status := .active }
  | beginRotation {record : ClientRecord} {request : ManagementRequest} {now : Time} :
      Owns pid record hist s → call.rotation = some request → record.status = .active →
      validatePublicKeyLine (trimSpace request.newPublicKey) = .ok () →
      ClientWrite site pid call hist s (beginRotation record (trimSpace request.newPublicKey)
        (hashManagementToken site.env request.nextManagementToken) now)
  | finishRotation {record : ClientRecord} {request : ManagementRequest} {line : AuthorizedLine}
      {now : Time} :
      Owns pid record hist s → call.rotation = some request → record.status = .rotationPending →
      record.pendingPublicKey = trimSpace request.newPublicKey →
      validatePublicKeyLine (trimSpace request.newPublicKey) = .ok () →
      Did (recent record.clientID hist) (.replaceKey record.publicKey line) true →
      line.blob = authorizedKeyBlob record.pendingPublicKey →
      ClientWrite site pid call hist s (finishRotation site.env record
        (trimSpace request.newPublicKey)
        (hashManagementToken site.env request.nextManagementToken) now)
  | beginRevocation {record : ClientRecord} {now : Time} :
      Owns pid record hist s → record.status = .active ∨ record.status = .rotationPending →
      ClientWrite site pid call hist s (beginRevocation record now)
  | finishRevocation {record : ClientRecord} {burned : Text} {now : Time} :
      Owns pid record hist s →
      record.status = .revocationPending ∨ record.status = .expirationPending →
      Removed record record.publicKey hist →
      call.defersEviction = true ∨ VerifiedGone record hist →
      ClientWrite site pid call hist s (finishRevocation record burned now)
  | finishRevocationAsHost {record : ClientRecord} {burned : Text} {now : Time} :
      Owns pid record hist s →
      record.status = .revocationPending ∨ record.status = .expirationPending →
      Removed record record.publicKey hist →
      record.pendingPublicKey = [] ∨ Removed record record.pendingPublicKey hist →
      VerifiedGone record hist →
      ClientWrite site pid call hist s
        { finishRevocation record burned now with
          pendingPublicKey := []
          pendingManagementTokenSHA256 := [] }
  | beginExpiration {record : ClientRecord} {now : Time} :
      Owns pid record hist s → record.status = .active ∨ record.status = .rotationPending →
      ClientWrite site pid call hist s (beginExpiration record now)
  | finishExpiration {record : ClientRecord} {burned : Text} {now : Time} :
      Owns pid record hist s → record.status = .expirationPending →
      Removed record record.publicKey hist → VerifiedGone record hist →
      ClientWrite site pid call hist s (finishExpiration record burned now)

/-- The record authorizes its key: it is active or rotating. -/
def Live (record : ClientRecord) : Prop :=
  record.status = .active ∨ record.status = .rotationPending

instance : DecidablePred Live := fun _ => by
  unfold Live
  infer_instance

/-- The lines were rebuilt from the client records read since the lock of the file was
taken: one for each live record that a reading of the clock found unexpired. -/
structure Rebuilt (site : Site) (hist : List HostStep) (lines : List AuthorizedLine) : Prop where
  nodup : (lines.map AuthorizedLine.blob).Nodup
  sound : ∀ line ∈ lines, ∃ record notAfter now,
    Did hist (.readClient record.clientID) (.found record) ∧ Live record ∧
      record.authorizationNotAfter = .at notAfter ∧ Did hist .now now ∧
      readyToExpire notAfter now = false ∧
      managedLine site.env site.manifest record notAfter = .ok line
  complete : ∃ names, Did hist .listClients (some names) ∧
    ∀ name ∈ names, isHexID name = true → ∃ record,
      Did hist (.readClient name) (.found record) ∧
        ∀ notAfter, Live record → record.authorizationNotAfter = .at notAfter →
          (∃ now, Did hist .now now ∧ readyToExpire notAfter now = true) ∨
            ∃ line ∈ lines, line.blob = authorizedKeyBlob record.publicKey

def Guard (site : Site) (pid : ℕ) (call : Call) (hist : List HostStep) (action : Action)
    (_ : Choice) (s : Host) : Prop :=
  match action with
  | .unlock name => s.locks name = some pid
  | .storeClient record => StoresClient site pid call s record
  | .writeClient record => ClientWrite site pid call hist s record
  | .install publicKey _ => ∃ request, Installs site pid call s request ∧
      publicKey = trimSpace request.publicKey
  | .appendKey line => ∃ request notAfter, Installs site pid call s request ∧
      renderAuthorizedKey site.env site.manifest (trimSpace request.publicKey) notAfter = .ok line
  | .replaceKey oldPublicKey line => ∃ request record,
      ReplacesKey site pid call hist s oldPublicKey line request record
  | .removeKey publicKey => ∃ record, Owns pid record hist s ∧
      (publicKey = record.publicKey ∨ publicKey = record.pendingPublicKey) ∧
      (record.status = .revocationPending ∨ record.status = .expirationPending ∨
        record.status = .revoked)
  | .writeKeys lines => call.rebuilds = true ∧
      (call.entersBlocked = true ∧ lines = [] ∨ s.locks .authorizedKeys = some pid ∧
        Rebuilt site (sinceLock .authorizedKeys hist) lines)
  | .clearBlocked => call.recovers = true
  | _ => True

/-- A written record continues the stored one, whose client lock the process holds. A
pending enrollment is written only under the lock of its invite. -/
theorem ClientWrite.previous (h : ClientWrite site pid call hist s record) :
    ∃ old, Owns pid old hist s ∧ record.clientID = old.clientID ∧ record.inviteID = old.inviteID ∧
      (old.status = .enrollmentPending → Enrolls pid old s) := by
  cases h
  case activate old request line hholds henrolls _ _ _ _ _ =>
    exact ⟨old, hholds, rfl, rfl, fun _ => henrolls⟩
  case beginRotation old _ _ hholds _ hstatus _ =>
    exact ⟨old, hholds, rfl, rfl, by simp [hstatus]⟩
  case finishRotation old _ _ _ hholds _ hstatus _ _ _ _ =>
    exact ⟨old, hholds, rfl, rfl, by simp [hstatus]⟩
  case beginRevocation old _ hholds hstatus =>
    exact ⟨old, hholds, rfl, rfl, by rcases hstatus with h | h <;> simp [h]⟩
  case finishRevocation old _ _ hholds hstatus _ _ =>
    exact ⟨old, hholds, rfl, rfl, by rcases hstatus with h | h <;> simp [h]⟩
  case finishRevocationAsHost old _ _ hholds hstatus _ _ _ =>
    exact ⟨old, hholds, rfl, rfl, by rcases hstatus with h | h <;> simp [h]⟩
  case beginExpiration old _ hholds hstatus =>
    exact ⟨old, hholds, rfl, rfl, by rcases hstatus with h | h <;> simp [h]⟩
  case finishExpiration old _ _ hholds hstatus _ _ =>
    exact ⟨old, hholds, rfl, rfl, by simp [hstatus]⟩

theorem keeps_of_writeClient {old : ClientRecord} (hold : s.clients.get old.clientID = some old)
    (hid : record.clientID = old.clientID) (hinvite : record.inviteID = old.inviteID) :
    Keeps pid s { s with clients := s.clients.put record } := by
  refine ⟨id, ?_⟩
  rintro clientID inviteID ⟨other, hother, rfl⟩
  by_cases heq : clientID = record.clientID
  · subst heq
    rw [hid, hold, Option.some.injEq] at hother
    subst hother
    exact ⟨record, Directory.get_put_self, hinvite⟩
  · exact ⟨other, by rw [Directory.get_put_of_ne heq, hother], rfl⟩

theorem relies_of_writeClient (h : ClientWrite site pid call hist s record)
    (hne : pid' ≠ pid) : Relies pid' s { s with clients := s.clients.put record } := by
  obtain ⟨old, hholds, hid, hinvite, henrolls⟩ := h.previous
  refine ⟨keeps_of_writeClient hholds.stored hid hinvite, ?_, ?_⟩
  · intro other hother
    refine ⟨hother.locked, ?_⟩
    rw [Directory.get_put_of_ne, hother.stored]
    intro heq
    have hlocked := hother.locked
    rw [heq, hid, hholds.locked, Option.some.injEq] at hlocked
    exact hne hlocked.symm
  · intro other hother
    refine ⟨hother.locked, ?_, hother.pending⟩
    rw [Directory.get_put_of_ne, hother.stored]
    intro heq
    have hsame : old = other := by
      have hstored := hother.stored
      rw [heq, hid, hholds.stored, Option.some.injEq] at hstored
      exact hstored
    subst hsame
    have hlocked := (henrolls hother.pending).locked
    rw [hother.locked, Option.some.injEq] at hlocked
    exact hne hlocked

theorem Guard.relies
    (h : Guard site pid call hist action choice s) (heffect : Effect pid choice s action s')
    (hne : pid' ≠ pid) : Relies pid' s s' := by
  cases heffect with
  | acquire hfree => exact .of_lock (by simp [hfree])
  | unlock =>
    have hlocked : s.locks _ = some pid := h
    exact .of_lock (by simpa [hlocked] using hne.symm)
  | storeClient _ hnew => exact .of_storeClient hnew
  | writeClient _ => exact relies_of_writeClient h hne
  | kept hsame => exact .of_clients hsame.clients fun name hname => by rwa [hsame.locks]
  | _ => exact .of_clients rfl fun _ hname => hname

theorem Guard.carries {inviteID : Text}
    (h : Guard site pid call hist action choice s) (heffect : Effect pid choice s action s')
    (hcarries : Carries s clientID inviteID) : Carries s' clientID inviteID :=
  (h.relies heffect (Nat.succ_ne_self pid)).carries hcarries

theorem relies_releaseLocks (hne : pid' ≠ pid) : Relies pid' s (releaseLocks pid s) := by
  refine .of_clients rfl fun name hname => ?_
  simp [releaseLocks, hname, hne]

/-- The keys of a record: public, previous and pending. -/
def ClientRecord.keys (record : ClientRecord) : List Text :=
  [record.publicKey, record.previousPublicKey, record.pendingPublicKey]

/-! ## What writes keep -/

section

variable {written : ClientRecord}

theorem ClientWrite.publicKey_eq (h : ClientWrite site pid call hist s written)
    (hrotation : call.rotation = none) :
    ∃ old, s.clients.get written.clientID = some old ∧ written.publicKey = old.publicKey := by
  cases h with
  | beginRotation _ hrequest _ _ => simp [hrotation] at hrequest
  | finishRotation _ hrequest _ _ _ _ _ => simp [hrotation] at hrequest
  | activate howns _ _ _ _ _ _ => exact ⟨_, howns.stored, rfl⟩
  | beginRevocation howns _ => exact ⟨_, howns.stored, rfl⟩
  | finishRevocation howns _ _ _ => exact ⟨_, howns.stored, rfl⟩
  | finishRevocationAsHost howns _ _ _ _ => exact ⟨_, howns.stored, rfl⟩
  | beginExpiration howns _ => exact ⟨_, howns.stored, rfl⟩
  | finishExpiration howns _ _ _ => exact ⟨_, howns.stored, rfl⟩

/-- A written record has the keys of the stored one, apart from a requested key that a
rotation makes pending. -/
theorem ClientWrite.keys (h : ClientWrite site pid call hist s written) :
    ∃ old, s.clients.get written.clientID = some old ∧ ∀ publicKey ∈ written.keys,
      publicKey ∈ old.keys ∨ publicKey = [] ∨
        written.status = .rotationPending ∧ publicKey = written.pendingPublicKey := by
  cases h with
  | @beginRotation old _ _ howns _ _ _ =>
    refine ⟨old, howns.stored, ?_⟩
    simp [ClientRecord.keys, WarpTweet.beginRotation]
  | @finishRotation old _ _ _ howns _ _ hpending _ _ _ =>
    refine ⟨old, howns.stored, ?_⟩
    simp [ClientRecord.keys, WarpTweet.finishRotation, hpending]
  | @finishRevocationAsHost old _ _ howns _ _ _ _ =>
    refine ⟨old, howns.stored, ?_⟩
    simp [ClientRecord.keys, WarpTweet.finishRevocation]
  | activate howns _ _ _ _ _ _ => exact ⟨_, howns.stored, fun _ => .inl⟩
  | beginRevocation howns _ => exact ⟨_, howns.stored, fun _ => .inl⟩
  | finishRevocation howns _ _ _ => exact ⟨_, howns.stored, fun _ => .inl⟩
  | beginExpiration howns _ => exact ⟨_, howns.stored, fun _ => .inl⟩
  | finishExpiration howns _ _ _ => exact ⟨_, howns.stored, fun _ => .inl⟩

theorem ClientWrite.not_live (h : ClientWrite site pid call hist s written)
    (henrollment : call.enrollment = none) (hrotation : call.rotation = none) : ¬ Live written := by
  cases h with
  | activate _ _ hrequest _ _ _ _ => simp [henrollment] at hrequest
  | beginRotation _ hrequest _ _ => simp [hrotation] at hrequest
  | finishRotation _ hrequest _ _ _ _ _ => simp [hrotation] at hrequest
  | beginRevocation => simp [Live, WarpTweet.beginRevocation]
  | finishRevocation => simp [Live, WarpTweet.finishRevocation]
  | finishRevocationAsHost => simp [Live, WarpTweet.finishRevocation]
  | beginExpiration => simp [Live, WarpTweet.beginExpiration]
  | finishExpiration => simp [Live, WarpTweet.finishExpiration]

theorem stored_of_guard {publicKey : Text}
    (h : ∃ record, s.clients.get clientID = some record ∧ record.publicKey = publicKey)
    (hrotation : call.rotation = none)
    (hguard : Guard site pid call hist action choice s) (heffect : Effect pid choice s action s') :
    ∃ record, s'.clients.get clientID = some record ∧ record.publicKey = publicKey := by
  obtain ⟨record, hget, rfl⟩ := h
  rcases heffect.clients with hsame | ⟨stored, -, hnew, hput⟩ | ⟨written, rfl, -, hput⟩
  · exact ⟨record, by rw [hsame, hget], rfl⟩
  · refine ⟨record, ?_, rfl⟩
    rw [hput, Directory.get_put_of_ne, hget]
    rintro rfl
    simp [hnew] at hget
  · by_cases hid : clientID = written.clientID
    · subst hid
      obtain ⟨old, hold, hkey⟩ := ClientWrite.publicKey_eq hguard hrotation
      rw [hget, Option.some.injEq] at hold
      exact ⟨written, by rw [hput, Directory.get_put_self], by rw [hkey, hold]⟩
    · exact ⟨record, by rw [hput, Directory.get_put_of_ne hid, hget], rfl⟩

theorem not_live_of_guard (h : ∃ record, s.clients.get clientID = some record ∧ ¬ Live record)
    (henrollment : call.enrollment = none) (hrotation : call.rotation = none)
    (hguard : Guard site pid call hist action choice s) (heffect : Effect pid choice s action s') :
    ∃ record, s'.clients.get clientID = some record ∧ ¬ Live record := by
  obtain ⟨record, hget, hdead⟩ := h
  rcases heffect.clients with hsame | ⟨stored, -, hnew, hput⟩ | ⟨written, rfl, -, hput⟩
  · exact ⟨record, by rw [hsame, hget], hdead⟩
  · refine ⟨record, ?_, hdead⟩
    rw [hput, Directory.get_put_of_ne, hget]
    rintro rfl
    simp [hnew] at hget
  · by_cases hid : clientID = written.clientID
    · subst hid
      refine ⟨written, by rw [hput, Directory.get_put_self], ?_⟩
      exact ClientWrite.not_live hguard henrollment hrotation
    · exact ⟨record, by rw [hput, Directory.get_put_of_ne hid, hget], hdead⟩

end

/-! ## The protocol -/

def grantProtocol (site : Site) : Protocol (hostMachine site) where
  Rely := Relies
  Guard := Guard site
  rely_refl _ _ := .refl
  rely_trans := Relies.trans
  guard_rely hne hguard hperform := hguard.relies (effect_of_perform hperform) hne
  release_rely hne := relies_releaseLocks hne

end WarpTweet
