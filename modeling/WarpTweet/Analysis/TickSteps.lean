import WarpTweet.Analysis.Endings

/-!
# The steps of a reconcile tick

What one tick of the reconcile loop does for one client, run alone: the expiry of a grant and
the completion of a revocation when the client's own steps succeed, and what is left of both,
whatever comes of them. Either way only the record of that client is touched, and the order of
the listing stays.
-/

namespace WarpTweet

open Strings Concurrency Storage

variable {record : ClientRecord} {now : Time}

/-! ## The environment of a tick -/

/-- The client whose record the action reads. -/
def Action.readsClient : Action → Option Text
  | .readClient clientID => some clientID
  | _ => none

/-- The action is one that a tick takes for no client: the clock and the listing. -/
def Action.general : Action → Bool
  | .readObservation | .writeObservation _ | .listClients => true
  | _ => false

/-- What may happen in a tick. The clock and the listing work; the records of the `readable`
clients can be read; the own steps of the `sound` clients succeed, which are taking its lock and
every action under it. Anything else may fail. -/
def TickEnv (pid : ℕ) (readable sound : List Text) (action : Action) (choice : Choice) (s : Host) :
    Prop :=
  (action.general = true → choice.outcome = .ok) ∧
  (∀ clientID ∈ readable, action.readsClient = some clientID → choice.outcome = .ok) ∧
  (∀ clientID ∈ sound, action.asksFor = some clientID → choice.outcome = .ok) ∧
  ∀ clientID ∈ sound, s.locks (.client clientID) = some pid →
    choice.outcome = .ok ∧ choice.failing = []

variable {site : Site} {pid : ℕ} {readable sound : List Text} {s s₁ : Host}
  {clientID other digest : Text} {notAfter : Time} {action : Action} {Q : Except Err ClientRecord → Host → Prop} {program : HostProg α}

theorem tickEnv_default : TickEnv pid readable sound action {} s :=
  ⟨fun _ => rfl, fun _ _ _ => rfl, fun _ _ _ => rfl, fun _ _ _ => ⟨rfl, rfl⟩⟩

theorem reliable_tickEnv (h : clientID ∈ sound) :
    Reliable (TickEnv pid readable sound) pid clientID where
  ready _ _ := ⟨{}, tickEnv_default⟩
  locks hallowed := hallowed.2.2.1 clientID h rfl
  works hheld hallowed := hallowed.2.2.2 clientID h hheld

theorem completes_any {Q : Except Err action.Reply → Host → Prop}
    (hready : (performAction site.env pid action {} s).isSome = true)
    (h : ∀ choice reply s', TickEnv pid readable sound action choice s →
      performAction site.env pid action choice s = some (reply, s') → Q (.ok reply) s') :
    Completes (hostMachine site) (TickEnv pid readable sound) pid (perform action) s Q :=
  completes_perform ⟨{}, tickEnv_default, hready⟩ h

def listed (s : Host) : List ClientRecord :=
  s.clients.files.filter fun record => isHexID record.clientID

theorem mem_listed :
    record ∈ listed s ↔ record ∈ s.clients.files ∧ isHexID record.clientID = true :=
  List.mem_filter

theorem get_of_mem_listed (h : record ∈ listed s) : s.clients.get record.clientID = some record :=
  Directory.get_of_mem_files (mem_listed.1 h).1

theorem map_listed : (listed s).map ClientRecord.clientID = s.clients.names.filter isHexID := by
  rw [Directory.names, List.filter_map]
  rfl

theorem completes_listClients {Q : Except Err (List ClientRecord) → Host → Prop}
    (hreadable : ∀ record ∈ listed s, record.clientID ∈ readable) (h : Q (.ok (listed s)) s) :
    Completes (hostMachine site) (TickEnv pid readable sound) pid listClients s Q := by
  refine completes_bind.2 (completes_any rfl fun choice reply s' hallowed hperform => ?_)
  have hok := hallowed.1 rfl
  have hresult : some (some s.clients.names, s) = some (reply, s') := by
    rw [← hperform]
    simp [performAction, hok, Outcome.reports]
  cases hresult
  change Completes _ _ _ (Prog.collect loadClient (s.clients.names.filter isHexID)) s Q
  rw [← map_listed]
  refine completes_collect_map (fun record hmem Q hQ => ?_) h
  have hhex := (mem_listed.1 hmem).2
  refine completes_bind.2 (completes_refuse (by rw [hhex]; rfl) ?_)
  refine completes_bind.2 (completes_any rfl fun choice reply s' hallowed hperform => ?_)
  have hok := hallowed.2.1 _ (hreadable record hmem) rfl
  have hresult : some (.found record, s) = some (reply, s') := by
    rw [← hperform]
    simp [performAction, hok, Outcome.reports, get_of_mem_listed hmem]
  cases hresult
  exact hQ

theorem completes_observeClock {now : Time} {advances : Bool} {Q : Except Err Unit → Host → Prop}
    (haccepted : clockDecision s.observed now = .ok advances)
    (h : ∀ s', SameRecords s s' → Q (.ok ()) s') :
    Completes (hostMachine site) (TickEnv pid readable sound) pid (observeClock now) s Q := by
  have hshort : now.isZero = false ∧ yearOutOfRange now = false := by
    simp only [clockDecision, except_bind_eq_ok, refuseIf_eq_ok] at haccepted
    obtain ⟨_, hzero, _, hyear, -⟩ := haccepted
    exact ⟨hzero, hyear⟩
  have hfirst : (clockDecision none now).map (fun _ => ()) = .ok () := by
    simp [clockDecision, hshort.1, hshort.2, refuseIf]
    rfl
  have hrecord : ∀ observed, s.observed = observed → Completes (hostMachine site)
      (TickEnv pid readable sound) pid (recordObservation observed now) s Q := by
    rintro _ rfl
    unfold recordObservation
    rw [haccepted]
    refine completes_bind.2 (completes_ofExcept.2 ?_)
    refine Completes.ite (fun _ => ?_) fun _ => h s ⟨rfl, rfl, rfl⟩
    have hformat : Stamp.formatUTC now = .ok (.format now) := by
      simp [Stamp.formatUTC, hshort.1]
    rw [hformat]
    refine completes_bind.2 (completes_ofExcept.2 ?_)
    refine completes_bind.2 (completes_any rfl fun choice reply s' hallowed hperform => ?_)
    have hok := hallowed.1 rfl
    simp only [performAction, hok, Outcome.reports, Outcome.applies, if_true,
      Option.some.injEq, Prod.mk.injEq] at hperform
    obtain ⟨rfl, rfl⟩ := hperform
    exact h _ ⟨rfl, rfl, rfl⟩
  unfold observeClock
  rw [hfirst]
  refine completes_bind.2 (completes_ofExcept.2 ?_)
  refine completes_bind.2 (completes_any rfl fun choice reply s' hallowed hperform => ?_)
  have hok := hallowed.1 rfl
  simp only [performAction, hok, Outcome.reports, if_true, Option.some.injEq,
    Prod.mk.injEq] at hperform
  obtain ⟨rfl, rfl⟩ := hperform
  cases hobserved : s.observed with
  | none => exact hrecord none hobserved
  | some stamp => exact hrecord (some stamp) hobserved

/-! ## Expiring one grant -/

/-- The grant is due at `now` and nothing about its record is in the way of its expiry: it is
active, rotating or expiring, its end has come, the plan of its expiry is valid, and its key can
be told apart in the authorization file. -/
structure Due (now : Time) (record : ClientRecord) : Prop where
  live : record.status = .active ∨ record.status = .expirationPending ∨
    record.status = .rotationPending
  ended : ∃ notAfter, record.authorizationNotAfter = .at notAfter ∧ notAfter ≤ now ∧
    validateExpirePlan (expirePlan record notAfter now) = .ok ()
  parsable : authorizedKeyBlob record.publicKey ≠ []

def HasExpired (clientID : Text) (s : Host) : Prop :=
  ∃ expired, s.clients.get clientID = some expired ∧ expired.status = .expired

theorem times_of_validateExpirePlan
    (h : validateExpirePlan (expirePlan record notAfter now) = .ok ()) :
    now.isZero = false ∧ notAfter.isZero = false := by
  simp only [validateExpirePlan, expirePlan, except_bind_eq_ok, refuseIf_eq_ok] at h
  obtain ⟨_, -, _, htimes, -⟩ := h
  exact Bool.or_eq_false_iff.1 htimes

theorem Due.ready (h : Due now record)
    (hat : record.authorizationNotAfter = .at notAfter) : readyToExpire notAfter now = true := by
  obtain ⟨other, hother, hended, hplan⟩ := h.ended
  rw [hat, Stamp.at.injEq] at hother
  subst hother
  obtain ⟨hnow, hend⟩ := times_of_validateExpirePlan hplan
  unfold readyToExpire
  rw [hnow, hend]
  simpa using hended

theorem Due.now_set (h : Due now record) : now.isZero = false := by
  obtain ⟨notAfter, -, -, hplan⟩ := h.ended
  exact (times_of_validateExpirePlan hplan).1

theorem Due.not_hasExpired (h : Due now record)
    (hget : s.clients.get record.clientID = some record) : ¬ HasExpired record.clientID s := by
  rintro ⟨expired, hexpired, hstatus⟩
  rw [hget, Option.some.injEq] at hexpired
  subst hexpired
  rcases h.live with hlive | hlive | hlive <;> rw [hstatus] at hlive <;> cases hlive

/-- The records of all other clients, the listing and the locks are the same. -/
structure TouchesOnly (clientID : Text) (s s' : Host) : Prop where
  locks : s'.locks = s.locks
  names : s'.clients.names = s.clients.names
  others : ∀ {other}, other ≠ clientID → s'.clients.get other = s.clients.get other

theorem touchesOnly_refl : TouchesOnly clientID s s :=
  ⟨rfl, rfl, fun _ => rfl⟩

theorem TouchesOnly.put {s₂ : Host} (record : ClientRecord)
    (h : TouchesOnly clientID s s₁) (hid : record.clientID = clientID)
    (hstored : clientID ∈ s.clients.names) (hlocks : s₂.locks = s₁.locks)
    (hclients : s₂.clients = s₁.clients.put record) : TouchesOnly clientID s s₂ := by
  subst hid
  refine ⟨hlocks.trans h.locks, ?_, fun hother => ?_⟩
  · rw [hclients, Directory.names_put (h.names ▸ hstored), h.names]
  · rw [hclients, Directory.get_put_of_ne hother, h.others hother]

/-- The plan of an expiry stays valid when the record says that the expiry has begun. -/
theorem validateExpirePlan_begin
    (h : validateExpirePlan (expirePlan record notAfter now) = .ok ()) :
    validateExpirePlan (expirePlan (beginExpiration record now) notAfter now) = .ok () := by
  simp only [validateExpirePlan, expirePlan, except_bind_eq_ok, refuseIf_eq_ok] at h ⊢
  obtain ⟨_, hfields, _, htimes, -⟩ := h
  exact ⟨(), hfields, (), htimes, (), by simp [beginExpiration], rfl⟩

section

variable {allowed : Action → Choice → Host → Prop}

theorem completes_completeExpiration
    (hrel : Reliable allowed pid clientID) (hheld : s.locks (.client clientID) = some pid)
    (hmay : MayEditKeys pid s) (hstatus : record.status = .expirationPending)
    (hplan : validateExpirePlan (expirePlan record notAfter now) = .ok ())
    (hkey : authorizedKeyBlob record.publicKey ≠ [])
    (h : ∀ expired s', expired.clientID = record.clientID → expired.status = .expired →
      s'.locks = s.locks → s'.clients = s.clients.put expired → Q (.ok expired) s') :
    Completes (hostMachine site) allowed pid (completeExpiration site.env record notAfter now) s
      Q := by
  refine completes_bind.2 ?_
  have htransition : (expirePlan record notAfter now).status.authorizeTransition .expirationPending =
      .ok () := by
    change record.status.authorizeTransition .expirationPending = .ok ()
    rw [hstatus]
    rfl
  unfold executeExpire
  rw [hplan, htransition]
  refine completes_bind.2 (completes_ofExcept.2 (completes_bind.2 (completes_ofExcept.2 ?_)))
  refine completes_bind.2 (completes_mapError.2 (completes_removeAuthorization hrel hheld hmay ?_))
  refine completes_bind.2 (completes_mapError.2
    (completes_terminateSession hrel (by exact hheld) ?_))
  have habsent : verifyAuthorizedKeyAbsent record.publicKey
      (removeAuthorizedKeyForPublicKey record.publicKey s.authorizedKeys) = .ok () := by
    simp only [verifyAuthorizedKeyAbsent, except_bind_eq_ok, refuseIf_eq_ok]
    refine ⟨(), by simpa using hkey, ?_⟩
    rw [List.any_eq_false]
    intro line hline
    simpa using (mem_removeAuthorizedKey hline).2.resolve_left hkey
  refine completes_bind.2 (completes_readKeys hrel (by exact hheld) ?_)
  refine completes_bind.2 (completes_ofExcept.2 ?_)
  refine completes_bind.2 (completes_ofExcept_ok
    (by exact congrArg (Except.mapError (Err.wrap "authorization still effective")) habsent) ?_)
  refine completes_bind.2 (completes_mapError.2 (completes_verifySessionGone hrel (by exact hheld)
    (fun session => dataPlane_of_terminateSessions) fun sessions => ?_))
  refine completes_mapError.2 (completes_burnManagementToken hrel (by exact hheld) fun burned => ?_)
  refine completes_bind.2 (completes_writeClientAtomic hrel (by exact hheld) ?_)
  exact h _ _ rfl rfl rfl rfl

theorem TouchesOnly.unlocked {s' : Host} (hs₁ : s₁.clients = s.clients)
    (h : TouchesOnly clientID s₁ s') : TouchesOnly clientID s { s' with locks := s.locks } := by
  refine ⟨rfl, ?_, fun hother => ?_⟩
  · rw [← hs₁]
    exact h.names
  · rw [← hs₁]
    exact h.others hother

section

variable (hrel : Reliable allowed pid clientID)
  (hclient : s.locks (.client clientID) = none)
  (hkeys : s.locks .authorizedKeys = none)
  (hhex : isHexID clientID = true)
include hrel hclient hkeys hhex

/-- **The expiry of a due grant** whose own steps succeed takes it to expired, and touches no
other client. -/
theorem completes_expireClient (hget : s.clients.get clientID = some record)
    (hnow : now.isZero = false) (hrecord : Due now record ∨ record.status = .expired) :
    Completes (hostMachine site) allowed pid (expireClient site.env clientID now) s
      fun _ s' => TouchesOnly clientID s s' ∧ HasExpired clientID s' := by
  have hid : record.clientID = clientID := Directory.key_of_get hget
  have hstored : clientID ∈ s.clients.names := Directory.mem_names.2 ⟨record, hget⟩
  have horNow : orNow now = .done now := by
    unfold orNow
    rw [if_neg (by rw [hnow]; decide)]
    rfl
  unfold expireClient
  rw [horNow]
  refine completes_bind.2 (completes_done.2 ?_)
  refine completes_bind.2 (completes_refuse (by rw [hhex]; rfl) ?_)
  refine completes_withClientRecord hrel hhex hclient hget fun s₁ hs₁ => ?_
  have hmay := hs₁.mayEditKeys hkeys
  rw [← hs₁.clients] at hget hstored
  refine Completes.ite (fun hexpired => ?_) fun hexpired => ?_
  · exact ⟨rfl, touchesOnly_refl.unlocked hs₁.clients, record, hget, hexpired⟩
  · obtain ⟨hlive, ⟨notAfter, hat, -, hplan⟩, hparsable⟩ := hrecord.resolve_right hexpired
    have hparse : record.authorizationNotAfter.parseUTC.mapError
        (Err.asInvalidInvite "authorization_not_after: ") = .ok notAfter := by
      rw [hat]
      rfl
    rw [hparse]
    refine completes_bind.2 (completes_ofExcept.2 ?_)
    refine completes_bind.2 (completes_ofExcept_ok hplan ?_)
    have hcomplete : ∀ s₂ : Host, ∀ record₂ : ClientRecord, record₂.clientID = clientID →
        record₂.status = .expirationPending →
        validateExpirePlan (expirePlan record₂ notAfter now) = .ok () →
        authorizedKeyBlob record₂.publicKey ≠ [] → TouchesOnly clientID s₁ s₂ →
        Completes (hostMachine site) allowed pid
          (completeExpiration site.env record₂ notAfter now) s₂
          fun _ s' => s'.locks = s₁.locks ∧
            TouchesOnly clientID s { s' with locks := s.locks } ∧ HasExpired clientID s' := by
      intro s₂ record₂ hid₂ hstatus₂ hplan₂ hparsable₂ htouches
      have hheld₂ : s₂.locks (.client clientID) = some pid := by rw [htouches.locks, hs₁.held]
      have hmay₂ : MayEditKeys pid s₂ := by rwa [MayEditKeys, htouches.locks]
      refine completes_completeExpiration hrel hheld₂ hmay₂ hstatus₂ hplan₂ hparsable₂ ?_
      intro expired s' hexpiredID hstatus hlocks' hclients'
      rw [hid₂] at hexpiredID
      have htouches' := htouches.put expired hexpiredID hstored hlocks' hclients'
      refine ⟨htouches'.locks, htouches'.unlocked hs₁.clients, expired, ?_, hstatus⟩
      rw [hclients', ← hexpiredID]
      exact Directory.get_put_self
    refine Completes.ite (fun hstart => ?_) fun hstart => ?_
    · have htransition : record.status.authorizeTransition .expirationPending = .ok () := by
        rcases hstart with hstatus | hstatus <;> rw [hstatus] <;> rfl
      refine completes_bind.2 (completes_ofExcept_ok htransition ?_)
      refine completes_bind.2 (completes_writeClientAtomic hrel hs₁.held ?_)
      refine hcomplete _ (beginExpiration record now) hid rfl (validateExpirePlan_begin hplan)
        hparsable ?_
      exact touchesOnly_refl.put (beginExpiration record now) hid hstored rfl rfl
    · have hstatus : record.status = .expirationPending := by
        rcases hlive with hstatus | hstatus | hstatus
        · exact absurd (.inl hstatus) hstart
        · exact hstatus
        · exact absurd (.inr hstatus) hstart
      exact hcomplete _ record hid hstatus hplan hparsable touchesOnly_refl

/-- A pending revocation whose own steps succeed is completed, and touches no other client. -/
theorem completes_completePendingRevocation (hget : s.clients.get clientID = some record)
    (hrecord : record.status = .revocationPending ∨ record.status = .revoked) :
    Completes (hostMachine site) allowed pid (completePendingRevocation site.env clientID now) s
      fun outcome s' => (∃ result, outcome = .ok result) ∧ TouchesOnly clientID s s' ∧
        ∃ revoked, s'.clients.get clientID = some revoked ∧ revoked.status = .revoked := by
  have hid : record.clientID = clientID := Directory.key_of_get hget
  have hstored : clientID ∈ s.clients.names := Directory.mem_names.2 ⟨record, hget⟩
  refine completes_withClientLock hrel hhex hclient fun s₁ hs₁ => ?_
  rw [← hs₁.clients] at hget hstored
  refine completes_bind.2 (completes_loadClient hrel hs₁.held hhex hget ?_)
  refine Completes.ite (fun hrevoked => ?_) fun hrevoked => ?_
  · exact ⟨rfl, ⟨record, rfl⟩, touchesOnly_refl.unlocked hs₁.clients, record, hget, hrevoked⟩
  · have hpending := hrecord.resolve_right hrevoked
    refine completes_bind.2 (completes_refuse (by rw [hpending]; rfl) ?_)
    refine completes_bind.2 (completes_removeAuthorization hrel hs₁.held (hs₁.mayEditKeys hkeys) ?_)
    refine completes_bind.2 (completes_enforceSessions hrel (by exact hs₁.held) fun s₂ hsame => ?_)
    have hheld₂ : s₂.locks (.client clientID) = some pid := by rw [hsame.locks]; exact hs₁.held
    refine completes_bind.2 (completes_burnManagementToken hrel hheld₂ fun burned => ?_)
    refine completes_bind.2 (completes_writeClientAtomic hrel hheld₂ ?_)
    have htouches : TouchesOnly clientID s₁ s₂ :=
      ⟨hsame.locks, by rw [hsame.clients], fun _ => by rw [hsame.clients]⟩
    have htouches' : TouchesOnly clientID s₁
        { s₂ with clients := s₂.clients.put (finishRevocation record burned now) } :=
      htouches.put (finishRevocation record burned now) hid hstored rfl rfl
    refine ⟨htouches'.locks, ⟨_, rfl⟩, htouches'.unlocked hs₁.clients,
      finishRevocation record burned now, ?_, rfl⟩
    change (s₂.clients.put (finishRevocation record burned now)).get clientID = _
    rw [← hid]
    exact Directory.get_put_self

end

end

/-! ## Whatever comes of it -/

/-- The actions of an expiry under the lock of the client. -/
def Action.WithinClient (clientID : Text) : Action → Prop
  | .writeClient record => record.clientID = clientID
  | .removeKey _ | .terminate _ _ _ | .verifyGone _ _ _ | .readKeys | .randomToken => True
  | _ => False

/-- Actions that read client records, or work on the authorization file and the sessions. -/
def Action.ApartFromClients : Action → Prop
  | .listClients | .readClient _ | .now | .writeKeys _ | .writeBlocked | .terminateAll => True
  | _ => False

variable {α : Type}

theorem uses_written {p : Action → Prop} {ok : Bool} {what : String} :
    Prog.Uses p (written ok what) := Prog.uses_ofExcept

theorem within_removeAuthorization {publicKey : Text} :
    Prog.Uses (Action.WithinClient clientID) (removeAuthorization publicKey) :=
  Prog.Uses.bind (Prog.uses_perform.2 trivial) fun _ => uses_written

theorem within_writeClientAtomic (hid : record.clientID = clientID) :
    Prog.Uses (Action.WithinClient clientID) (writeClientAtomic record) :=
  Prog.Uses.bind (Prog.uses_perform.2 hid) fun _ => uses_written

theorem within_terminateSession :
    Prog.Uses (Action.WithinClient clientID) (terminateSession other digest) :=
  Prog.Uses.bind (Prog.uses_perform.2 trivial) fun _ => Prog.uses_ofExcept

theorem within_verifySessionGone :
    Prog.Uses (Action.WithinClient clientID) (verifySessionGone other digest) :=
  Prog.Uses.bind (Prog.uses_perform.2 trivial) fun _ => Prog.uses_ofExcept

theorem within_burnManagementToken :
    Prog.Uses (Action.WithinClient clientID) (burnManagementToken site.env) := by
  refine Prog.Uses.bind (Prog.uses_perform.2 trivial) fun token => ?_
  cases token <;> trivial

theorem within_completeExpiration (hid : record.clientID = clientID) :
    Prog.Uses (Action.WithinClient clientID) (completeExpiration site.env record notAfter now) := by
  refine Prog.Uses.bind ?_ fun burned =>
    Prog.Uses.bind (within_writeClientAtomic hid) fun _ => trivial
  refine Prog.Uses.bind Prog.uses_ofExcept fun _ => Prog.Uses.bind Prog.uses_ofExcept fun _ => ?_
  refine Prog.Uses.bind within_removeAuthorization.mapError fun _ => ?_
  refine Prog.Uses.bind within_terminateSession.mapError fun _ => ?_
  refine Prog.Uses.bind (Prog.uses_perform.2 trivial) fun _ => ?_
  refine Prog.Uses.bind Prog.uses_ofExcept fun _ => Prog.Uses.bind Prog.uses_ofExcept fun _ => ?_
  refine Prog.Uses.bind within_verifySessionGone.mapError fun _ => ?_
  exact within_burnManagementToken.mapError

/-- Actions under the client lock can be taken while nobody else edits the file, and touch no
other client. -/
theorem completes_within
    (huses : Prog.Uses (Action.WithinClient clientID) program) (hmay : MayEditKeys pid s)
    (hstored : clientID ∈ s.clients.names) :
    Completes (hostMachine site) (TickEnv pid readable sound) pid program s
      fun _ s' => TouchesOnly clientID s s' := by
  refine completes_of_uses (I := fun s' => TouchesOnly clientID s s') huses touchesOnly_refl ?_ ?_
  · intro action s' haction htouches
    refine ⟨{}, tickEnv_default, ?_⟩
    have hmay' : s'.locks .authorizedKeys = none ∨ s'.locks .authorizedKeys = some pid := by
      rw [htouches.locks]
      exact hmay
    cases action with
    | removeKey publicKey => simp [hostMachine, performAction, editKeys, hmay']
    | writeClient | terminate | verifyGone | readKeys | randomToken => rfl
    | _ => exact haction.elim
  · intro action choice reply s' s'' haction htouches hperform
    have heffect := effect_of_perform hperform
    cases heffect with
    | writeClient _ =>
      exact htouches.put _ haction hstored rfl rfl
    | kept hsame =>
      exact ⟨hsame.locks.trans htouches.locks, by rw [hsame.clients, htouches.names], fun hother =>
        by rw [hsame.clients, htouches.others hother]⟩
    | removeKey _ _ => exact ⟨htouches.locks, htouches.names, htouches.others⟩
    | _ => exact haction.elim

theorem completes_withLock_any {name : Lock} {busy : Err} {body : HostProg α}
    {Q : Except Err α → Host → Prop} (hfree : s.locks name = none)
    (hfailed : ∀ err, Q (.error err) s)
    (hbody : Completes (hostMachine site) (TickEnv pid readable sound) pid body
      { s with locks := Function.update s.locks name (some pid) }
      fun outcome s' => Q outcome { s' with locks := Function.update s'.locks name none }) :
    Completes (hostMachine site) (TickEnv pid readable sound) pid (withLock name true busy body) s
      Q := by
  refine completes_bind.2 (completes_bind.2 (completes_any ?_ ?_))
  · simp [performAction, Outcome.reports, hfree]
  · intro choice reply s' _ hperform
    cases reply with
    | busy => exact (lock_not_acquired hperform (by decide)) ▸ hfailed _
    | failed => exact (lock_not_acquired hperform (by decide)) ▸ hfailed _
    | acquired =>
      obtain ⟨-, rfl⟩ := lock_acquired hperform
      refine completes_bind.2 (completes_attempt.2 (hbody.mono ?_))
      intro outcome s₁ hQ
      refine completes_bind.2 (completes_any rfl fun choice reply s' _ hunlock => ?_)
      cases hunlock
      exact completes_ofExcept.2 hQ

theorem completes_loadClient_any
    (hfound : ∀ record, s.clients.get clientID = some record → Q (.ok record) s)
    (hfailed : ∀ err, Q (.error err) s) :
    Completes (hostMachine site) (TickEnv pid readable sound) pid (loadClient clientID) s Q := by
  refine completes_bind.2 (completes_ofExcept.2 ?_)
  cases refuseIf (!isHexID clientID) (.invalidInvite "client_id is invalid") with
  | error err => exact hfailed err
  | ok _ =>
    refine completes_bind.2 (completes_any rfl fun choice reply s' _ hperform => ?_)
    cases reply with
    | found record =>
      obtain ⟨hget, rfl⟩ := readClient_found hperform
      exact hfound record hget
    | missing =>
      have hsame : s' = s := (congrArg Prod.snd (Option.some.inj hperform)).symm
      exact hsame ▸ hfailed _
    | failed =>
      have hsame : s' = s := (congrArg Prod.snd (Option.some.inj hperform)).symm
      exact hsame ▸ hfailed _

section

variable (hclient : s.locks (.client clientID) = none) (hkeys : s.locks .authorizedKeys = none)
include hclient hkeys

/-- A program that reads the record of a client under the lock and then works on it, whatever
comes of it: it returns and touches no other client. -/
theorem completes_withClientLock_any {load : HostProg ClientRecord}
    {next : ClientRecord → HostProg α}
    (hload : ∀ {s Q}, (∀ record, s.clients.get clientID = some record → Q (.ok record) s) →
      (∀ err, Q (.error err) s) →
      Completes (hostMachine site) (TickEnv pid readable sound) pid load s Q)
    (hnext : ∀ record, record.clientID = clientID →
      Prog.Uses (Action.WithinClient clientID) (next record)) :
    Completes (hostMachine site) (TickEnv pid readable sound) pid
      (withClientLock clientID (load.bind next)) s fun _ s' => TouchesOnly clientID s s' := by
  have hmay : MayEditKeys pid
      { s with locks := Function.update s.locks (.client clientID) (some pid) } := by
    refine .inl ?_
    change Function.update s.locks (.client clientID) (some pid) .authorizedKeys = none
    rw [Function.update_of_ne (by simp), hkeys]
  refine completes_bind.2 (completes_ofExcept.2 ?_)
  cases refuseIf (!isHexID clientID) (.invalidInvite "client_id is invalid") with
  | error err => exact touchesOnly_refl
  | ok _ =>
    refine completes_withLock_any hclient (fun _ => touchesOnly_refl) ?_
    refine Completes.mono (Q := fun _ s' => TouchesOnly clientID
      { s with locks := Function.update s.locks (.client clientID) (some pid) } s') ?_ ?_
    rotate_left
    · intro outcome s' htouches
      rw [htouches.locks, Function.update_idem, ← hclient, Function.update_eq_self]
      exact htouches.unlocked (by rfl)
    refine completes_bind.2 (hload ?_ fun _ => touchesOnly_refl)
    intro record hget
    exact completes_within (hnext record (Directory.key_of_get hget)) hmay
      (Directory.mem_names.2 ⟨record, hget⟩)

theorem completes_expireClient_any : Completes (hostMachine site) (TickEnv pid readable sound) pid
      (expireClient site.env clientID now) s fun _ s' => TouchesOnly clientID s s' := by
  refine completes_bind.2 (completes_orNow ⟨{}, tickEnv_default⟩ fun time => ?_)
  refine completes_bind.2 (completes_ofExcept.2 ?_)
  cases refuseIf (!isHexID clientID) (.invalidInvite "client_id is invalid") with
  | error err => exact touchesOnly_refl
  | ok _ =>
    refine completes_withClientLock_any hclient hkeys (fun hfound hfailed =>
      completes_mapError.2 (completes_loadClient_any hfound fun _ => hfailed _)) ?_
    intro record hid
    refine Prog.Uses.ite (fun _ => trivial) fun _ => ?_
    refine Prog.Uses.bind Prog.uses_ofExcept fun notAfter => ?_
    refine Prog.Uses.bind Prog.uses_ofExcept fun _ => ?_
    refine Prog.Uses.ite (fun _ => ?_) fun _ => within_completeExpiration hid
    refine Prog.Uses.bind Prog.uses_ofExcept fun _ => ?_
    exact Prog.Uses.bind (within_writeClientAtomic hid) fun _ => within_completeExpiration hid

theorem completes_completePendingRevocation_any :
    Completes (hostMachine site) (TickEnv pid readable sound) pid
      (completePendingRevocation site.env clientID now) s
      fun _ s' => TouchesOnly clientID s s' := by
  refine completes_withClientLock_any hclient hkeys completes_loadClient_any ?_
  intro record hid
  refine Prog.Uses.ite (fun _ => trivial) fun _ => ?_
  refine Prog.Uses.bind Prog.uses_ofExcept fun _ => ?_
  refine Prog.Uses.bind within_removeAuthorization fun _ => ?_
  refine Prog.Uses.bind (Prog.Uses.bind within_terminateSession fun _ => within_verifySessionGone)
    fun _ => ?_
  refine Prog.Uses.bind within_burnManagementToken fun burned => ?_
  exact Prog.Uses.bind (within_writeClientAtomic hid) fun _ => trivial

end

theorem reaches_completePendingRevocation_error (hunlocked : ∀ name, s.locks name = none)
    (hhex : isHexID clientID = true) (hsound : clientID ∉ sound) :
    Reaches (hostMachine site) (TickEnv pid readable sound) pid
      (completePendingRevocation site.env clientID now) s
      fun outcome s' => s' = s ∧ ∃ err, outcome = .error err := by
  have hallowed : TickEnv pid readable sound (.lock (.client clientID) true) { outcome := .lost }
      s := by
    refine ⟨nofun, fun _ _ h => (by cases h), fun other hother hasks => ?_, fun other _ hheld => ?_⟩
    · cases hasks
      exact absurd hother hsound
    · rw [hunlocked] at hheld
      cases hheld
  refine reaches_bind.2 (reaches_ofExcept.2 ?_)
  rw [hhex]
  refine reaches_bind.2 (reaches_bind.2 (reaches_perform hallowed rfl ?_))
  exact ⟨rfl, _, rfl⟩

theorem reaches_listClients_error (hunlocked : ∀ name, s.locks name = none)
    (hmem : record ∈ listed s) (hreadable : record.clientID ∉ readable) :
    Reaches (hostMachine site) (TickEnv pid readable sound) pid listClients s
      fun outcome s' => s' = s ∧ ∃ err, outcome = .error err := by
  have hallowed : TickEnv pid readable sound (.readClient record.clientID) { outcome := .lost }
      s := by
    refine ⟨nofun, fun other hother hreads => ?_, fun _ _ h => (by cases h), fun other _ hheld => ?_⟩
    · cases hreads
      exact absurd hother hreadable
    · rw [hunlocked] at hheld
      cases hheld
  obtain ⟨hfile, hhex⟩ := mem_listed.1 hmem
  refine reaches_bind.2 (reaches_perform tickEnv_default rfl ?_)
  refine reaches_collect_error (fun other _ =>
    completes_loadClient_any (fun _ _ => rfl) fun _ => rfl)
    (List.mem_filter.2 ⟨List.mem_map_of_mem hfile, hhex⟩) ?_
  refine reaches_bind.2 (reaches_ofExcept.2 ?_)
  rw [hhex]
  refine reaches_bind.2 (reaches_perform hallowed rfl ?_)
  exact ⟨rfl, _, rfl⟩

/-- Programs that read client records and edit the authorization file, whatever comes of them,
write no client record. -/
theorem completes_apart
    (huses : Prog.Uses Action.ApartFromClients program) (hmay : MayEditKeys pid s) :
    Completes (hostMachine site) (TickEnv pid readable sound) pid program s
      fun _ s' => s'.clients = s.clients := by
  refine Completes.mono (completes_of_uses
    (I := fun s' => s'.clients = s.clients ∧ s'.locks = s.locks) huses ⟨rfl, rfl⟩ ?_ ?_)
    fun _ _ h => h.1
  · intro action s' haction h
    refine ⟨{}, tickEnv_default, ?_⟩
    have hmay' : s'.locks .authorizedKeys = none ∨ s'.locks .authorizedKeys = some pid := by
      rw [h.2]
      exact hmay
    cases action with
    | writeKeys lines => simp [hostMachine, performAction, editKeys, hmay']
    | listClients | readClient | now | writeBlocked | terminateAll => rfl
    | _ => exact haction.elim
  · intro action choice reply s' s'' haction h hperform
    have heffect := effect_of_perform hperform
    cases heffect with
    | writeKeys _ _ => exact h
    | writeBlocked _ => exact h
    | kept hsame => exact ⟨hsame.clients.trans h.1, hsame.locks.trans h.2⟩
    | _ => exact haction.elim

theorem completes_reconcileManaged (hkeys : s.locks .authorizedKeys = none) :
    Completes (hostMachine site) (TickEnv pid readable sound) pid
      (reconcileManagedAuthorizations site.env site.manifest) s
      fun _ s' => s'.clients = s.clients := by
  refine completes_withLock_any hkeys (fun _ => rfl) (Completes.mono (completes_apart
    (s := { s with locks := Function.update s.locks .authorizedKeys (some pid) }) ?_ ?_)
    fun _ _ hsame => hsame)
  · refine .bind (listClients_uses trivial fun _ => trivial) fun records => ?_
    refine .bind (.fold (fun _ _ => reconcileRecord_uses trivial) _ _) fun lines => ?_
    exact .bind (Prog.uses_perform.2 trivial) fun _ => uses_written
  · have hheld : Function.update s.locks .authorizedKeys (some pid) .authorizedKeys = some pid :=
      Function.update_self ..
    exact .inr hheld

theorem completes_enterBlockedClock {reason : Err} (hkeys : s.locks .authorizedKeys = none) :
    Completes (hostMachine site) (TickEnv pid readable sound) pid (enterBlockedClock reason) s
      fun _ s' => s'.clients = s.clients := by
  refine completes_apart ?_ (.inl hkeys)
  refine .bind (Prog.uses_perform.2 trivial) fun _ => .bind uses_written fun _ => ?_
  refine .bind (Prog.uses_perform.2 trivial) fun _ => .bind uses_written fun _ => ?_
  refine .bind (Prog.uses_perform.2 trivial) fun _ => .bind Prog.uses_ofExcept fun _ => ?_
  trivial

theorem completes_observeClock_refused {err : Err} (h : clockDecision s.observed now = .error err) :
    Completes (hostMachine site) (TickEnv pid readable sound) pid (observeClock now) s
      fun outcome s' => s' = s ∧ ∃ err, outcome = .error err := by
  refine completes_bind.2 (completes_ofExcept.2 ?_)
  cases (clockDecision none now).map fun _ => () with
  | error err => exact ⟨rfl, err, rfl⟩
  | ok _ =>
    refine completes_bind.2 (completes_any rfl fun choice reply s' hallowed hperform => ?_)
    have hok := hallowed.1 rfl
    simp only [performAction, hok, Outcome.reports, if_true, Option.some.injEq,
      Prod.mk.injEq] at hperform
    obtain ⟨rfl, rfl⟩ := hperform
    cases hobserved : s.observed with
    | none =>
      refine completes_bind.2 (completes_ofExcept.2 ?_)
      rw [← hobserved, h]
      exact ⟨rfl, err, rfl⟩
    | some stamp =>
      refine completes_bind.2 (completes_ofExcept.2 ?_)
      rw [← hobserved, h]
      exact ⟨rfl, err, rfl⟩

end WarpTweet
