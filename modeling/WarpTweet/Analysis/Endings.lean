import WarpTweet.Concurrency.Alone
import WarpTweet.Analysis.EndedGrants

/-!
# Ending a grant

A grant has to end before the host can change its target or its published endpoints. The
operator ends it with `RevokeClientAsHost`, and `ExpireClient` ends it when its time has
come; each accepts a record only in some statuses.

If nobody else is at work and every step succeeds, the revocation ends every grant but one
whose enrollment was cut off before the record became active. No operation of the host ends
such a record: the revocation and the expiry both refuse `enrollment_pending`.
-/

namespace WarpTweet

open Strings Concurrency Storage

/-! ## Steps that succeed -/

/-- What process `pid` does for the client succeeds: taking its lock, and every action under
the lock. -/
structure Reliable (allowed : Action → Choice → Host → Prop) (pid : ℕ) (clientID : Text) : Prop where
  ready : ∀ action s, ∃ choice, allowed action choice s
  locks : ∀ {wait choice s}, allowed (.lock (.client clientID) wait) choice s → choice.outcome = .ok
  works : ∀ {action choice s}, s.locks (.client clientID) = some pid → allowed action choice s →
    choice.outcome = .ok ∧ choice.failing = []

/-- The client records, the locks and the authorization file of the two states are the same. -/
structure SameRecords (s s' : Host) : Prop where
  clients : s'.clients = s.clients
  locks : s'.locks = s.locks
  authorizedKeys : s'.authorizedKeys = s.authorizedKeys

variable {site : Site} {allowed : Action → Choice → Host → Prop} {pid : ℕ} {clientID : Text}
  {s : Host} {record : ClientRecord} {now : Time} {Q : Except Err Unit → Host → Prop}
  {other publicKeySHA256 : Text} {action : Action} {α : Type} {selected : Session → Bool}

theorem completes_refuse {bad : Bool} {err : Err} (hpass : bad = false) (h : Q (.ok ()) s) :
    Completes (hostMachine site) allowed pid (refuse bad err) s Q := by
  subst hpass
  exact h

theorem completes_act {Q : Except Err action.Reply → Host → Prop}
    (hrel : Reliable allowed pid clientID) (hheld : s.locks (.client clientID) = some pid)
    (h : ∀ choice, choice.outcome = .ok → choice.failing = [] →
      ∃ reply s', performAction site.env pid action choice s = some (reply, s') ∧ Q (.ok reply) s') :
    Completes (hostMachine site) allowed pid (perform action) s Q := by
  refine completes_perform ?_ ?_
  · obtain ⟨choice, hallowed⟩ := hrel.ready action s
    obtain ⟨hok, hfailing⟩ := hrel.works hheld hallowed
    obtain ⟨reply, s', hperform, -⟩ := h choice hok hfailing
    exact ⟨choice, hallowed, Option.isSome_iff_exists.2 ⟨(reply, s'), hperform⟩⟩
  · intro choice reply s' hallowed hperform
    obtain ⟨hok, hfailing⟩ := hrel.works hheld hallowed
    obtain ⟨reply', s'', hperform', hQ⟩ := h choice hok hfailing
    have heq : some (reply, s') = some (reply', s'') := hperform.symm.trans hperform'
    cases heq
    exact hQ

/-- Process `pid` has taken the lock of the client in `s`, and nothing else has changed there. -/
structure Entered (pid : ℕ) (clientID : Text) (s s₁ : Host) : Prop where
  held : s₁.locks (.client clientID) = some pid
  keys : s₁.locks .authorizedKeys = s.locks .authorizedKeys
  clients : s₁.clients = s.clients

theorem Entered.mayEditKeys {s₁ : Host} (h : Entered pid clientID s s₁)
    (hkeys : s.locks .authorizedKeys = none) : MayEditKeys pid s₁ :=
  .inl (h.keys.trans hkeys)

theorem completes_withClientLock {body : HostProg α} {Q : Except Err α → Host → Prop}
    (hrel : Reliable allowed pid clientID) (hhex : isHexID clientID = true)
    (hfree : s.locks (.client clientID) = none)
    (hbody : ∀ s₁, Entered pid clientID s s₁ → Completes (hostMachine site) allowed pid body s₁
      fun outcome s' => s'.locks = s₁.locks ∧ Q outcome { s' with locks := s.locks }) :
    Completes (hostMachine site) allowed pid (withClientLock clientID body) s Q := by
  have hlock : ∀ choice : Choice, choice.outcome = .ok →
      performAction site.env pid (.lock (.client clientID) true) choice s =
        some (.acquired,
          { s with locks := Function.update s.locks (.client clientID) (some pid) }) := by
    intro choice hok
    simp [performAction, hok, Outcome.reports, hfree]
  refine completes_bind.2 (completes_refuse (by rw [hhex]; rfl) ?_)
  refine completes_bind.2 (completes_bind.2 (completes_perform ?_ ?_))
  · obtain ⟨choice, hallowed⟩ := hrel.ready (.lock (.client clientID) true) s
    exact ⟨choice, hallowed, Option.isSome_iff_exists.2 ⟨_, hlock choice (hrel.locks hallowed)⟩⟩
  · intro choice reply s' hallowed hperform
    have heq := hperform.symm.trans (hlock choice (hrel.locks hallowed))
    cases heq
    have hentered : Entered pid clientID s
        { s with locks := Function.update s.locks (.client clientID) (some pid) } :=
      ⟨Function.update_self .., by simp, rfl⟩
    refine completes_bind.2 (completes_attempt.2 ((hbody _ hentered).mono ?_))
    rintro outcome s' ⟨hlocks, hQ⟩
    have hheld : s'.locks (.client clientID) = some pid := by rw [hlocks, hentered.held]
    refine completes_bind.2 (completes_act hrel hheld fun choice _ _ => ?_)
    refine ⟨(), _, rfl, completes_ofExcept.2 ?_⟩
    rwa [hlocks, Function.update_idem, ← hfree, Function.update_eq_self]

section

variable (hrel : Reliable allowed pid clientID) (hheld : s.locks (.client clientID) = some pid)

include hrel hheld

theorem completes_loadClient {Q : Except Err ClientRecord → Host → Prop}
    (hhex : isHexID clientID = true) (hget : s.clients.get clientID = some record)
    (h : Q (.ok record) s) :
    Completes (hostMachine site) allowed pid (loadClient clientID) s Q := by
  refine completes_bind.2 (completes_refuse (by rw [hhex]; rfl) ?_)
  refine completes_bind.2 (completes_act hrel hheld fun choice hok _ => ?_)
  exact ⟨.found record, s, by simp [performAction, hok, Outcome.reports, hget], h⟩

end

/-- A program that reads the record of the client under its lock and goes on with it. -/
theorem completes_withClientRecord {f : Err → Err}
    {next : ClientRecord → HostProg α} {Q : Except Err α → Host → Prop}
    (hrel : Reliable allowed pid clientID) (hhex : isHexID clientID = true)
    (hfree : s.locks (.client clientID) = none) (hget : s.clients.get clientID = some record)
    (hnext : ∀ s₁, Entered pid clientID s s₁ → Completes (hostMachine site) allowed pid
      (next record) s₁ fun outcome s' => s'.locks = s₁.locks ∧ Q outcome { s' with locks := s.locks }) :
    Completes (hostMachine site) allowed pid
      (withClientLock clientID (((loadClient clientID).mapError f).bind next)) s Q := by
  refine completes_withClientLock hrel hhex hfree fun s₁ hs₁ => ?_
  rw [← hs₁.clients] at hget
  exact completes_bind.2 (completes_mapError.2 (completes_loadClient hrel hs₁.held hhex hget
    (hnext s₁ hs₁)))

section

variable (hrel : Reliable allowed pid clientID) (hheld : s.locks (.client clientID) = some pid)

include hrel hheld

theorem completes_removeAuthorization {publicKey : Text} (hmay : MayEditKeys pid s)
    (h : Q (.ok ()) { s with
      authorizedKeys := removeAuthorizedKeyForPublicKey publicKey s.authorizedKeys }) :
    Completes (hostMachine site) allowed pid (removeAuthorization publicKey) s Q := by
  refine completes_bind.2 (completes_act hrel hheld fun choice hok _ => ?_)
  refine ⟨true, _, ?_, h⟩
  have hmay' : s.locks .authorizedKeys = none ∨ s.locks .authorizedKeys = some pid := hmay
  simp [performAction, editKeys, hmay', hok, Outcome.reports, Outcome.applies]

theorem completes_readKeys {Q : Except Err (Option (List AuthorizedLine)) → Host → Prop}
    (h : Q (.ok (some s.authorizedKeys)) s) :
    Completes (hostMachine site) allowed pid (perform .readKeys) s Q :=
  completes_act hrel hheld fun choice hok _ =>
    ⟨some s.authorizedKeys, s, by simp [performAction, hok, Outcome.reports], h⟩

theorem completes_terminateSession
    (h : Q (.ok ()) (terminateSessions (matchGrantSessions other none publicKeySHA256) [] s).2) :
    Completes (hostMachine site) allowed pid (terminateSession other publicKeySHA256) s Q := by
  refine completes_bind.2 (completes_act hrel hheld fun choice hok hfailing => ?_)
  refine ⟨.ok (), _, ?_, completes_ofExcept.2 h⟩
  simp [performAction, hok, hfailing, Outcome.reports, terminateSessions]

theorem completes_burnManagementToken {Q : Except Err Text → Host → Prop}
    (h : ∀ burned, Q (.ok burned) s) :
    Completes (hostMachine site) allowed pid (burnManagementToken site.env) s Q := by
  refine completes_bind.2 (completes_act hrel hheld fun choice hok _ => ?_)
  exact ⟨some choice.token, s, by simp [performAction, hok, Outcome.reports], h _⟩

theorem completes_writeClientAtomic (h : Q (.ok ()) { s with clients := s.clients.put record }) :
    Completes (hostMachine site) allowed pid (writeClientAtomic record) s Q := by
  refine completes_bind.2 (completes_act hrel hheld fun choice hok _ => ?_)
  exact ⟨true, _, by simp [performAction, hok, Outcome.reports, Outcome.applies], h⟩

end

/-! ## Sessions -/

/-- The selected sessions that are left when their data-plane sessions have been ended are
found gone. -/
theorem verifySessionsGone_ok {sessions : List Session}
    (h : ∀ session ∈ sessions, selected session = true → session.dataPlane = false) :
    (verifySessionsGone selected [] sessions).1 = .ok () := by
  induction sessions with
  | nil => rfl
  | cons session sessions ih =>
    have hrest := ih fun other hmem => h other (List.mem_cons_of_mem _ hmem)
    unfold verifySessionsGone
    split
    next hselected =>
      rw [if_neg (by simp [h session List.mem_cons_self hselected]), if_neg (by simp)]
      exact hrest
    next => exact hrest

theorem dataPlane_of_terminateSessions {s : Host} {session : Session}
    (hmem : session ∈ (terminateSessions selected [] s).2.sessions)
    (hselected : selected session = true) : session.dataPlane = false := by
  have hfilter := (List.mem_filter.1 hmem).2
  simpa [hselected] using hfilter

theorem completes_verifySessionGone
    (hrel : Reliable allowed pid clientID) (hheld : s.locks (.client clientID) = some pid)
    (hgone : ∀ session ∈ s.sessions,
      matchGrantSessions other none publicKeySHA256 session = true → session.dataPlane = false)
    (h : ∀ sessions, Q (.ok ()) { s with sessions }) :
    Completes (hostMachine site) allowed pid (verifySessionGone other publicKeySHA256) s Q := by
  refine completes_bind.2 (completes_act hrel hheld fun choice hok hfailing => ?_)
  refine ⟨.ok (), _, ?_, completes_ofExcept.2 (h (verifySessionsGone
    (matchGrantSessions other none publicKeySHA256) [] s.sessions).2)⟩
  simp only [performAction, hok, hfailing, Outcome.reports, if_true]
  rw [verifySessionsGone_ok hgone]

/-- The sessions of a client are ended, and nothing but sessions and connections changes. -/
theorem completes_enforceSessions
    (hrel : Reliable allowed pid clientID) (hheld : s.locks (.client clientID) = some pid)
    (h : ∀ s', SameRecords s s' → Q (.ok ()) s') :
    Completes (hostMachine site) allowed pid (enforceSessions true other) s Q := by
  refine completes_bind.2 (completes_terminateSession hrel hheld ?_)
  refine completes_verifySessionGone hrel hheld (fun session => dataPlane_of_terminateSessions) ?_
  exact fun sessions => h _ ⟨rfl, rfl, rfl⟩

/-! ## Revocation by the host -/

theorem completes_orNow {Q : Except Err Time → Host → Prop}
    (hready : ∃ choice, allowed .now choice s) (h : ∀ time, Q (.ok time) s) :
    Completes (hostMachine site) allowed pid (orNow now) s Q := by
  unfold orNow
  split
  · refine completes_perform ?_ fun choice reply s' _ hperform => ?_
    · exact hready.imp fun choice hallowed => ⟨hallowed, rfl⟩
    · cases hperform
      exact h _
  · exact h now

theorem completes_completeRevocationAsHost {Q : Except Err ClientRecord → Host → Prop}
    (hrel : Reliable allowed pid clientID) (hheld : s.locks (.client clientID) = some pid)
    (hmay : MayEditKeys pid s)
    (h : ∀ revoked s', revoked.clientID = record.clientID → revoked.status = .revoked →
      s'.locks = s.locks → s'.clients = s.clients.put revoked → Q (.ok revoked) s') :
    Completes (hostMachine site) allowed pid (completeRevocationAsHost site.env now record) s Q := by
  have hend : ∀ s₁ : Host, s₁.locks = s.locks → s₁.clients = s.clients →
      Completes (hostMachine site) allowed pid (do
        enforceSessions true record.clientID
        let burned ← burnManagementToken site.env
        let revoked :=
          { finishRevocation record burned now with
            pendingPublicKey := []
            pendingManagementTokenSHA256 := [] }
        writeClientAtomic revoked
        pure revoked) s₁ Q := by
    intro s₁ hlocks hclients
    refine completes_bind.2 (completes_enforceSessions hrel (hlocks ▸ hheld) fun s₂ hsame => ?_)
    have hheld₂ : s₂.locks (.client clientID) = some pid := by rw [hsame.locks, hlocks, hheld]
    refine completes_bind.2 (completes_burnManagementToken hrel hheld₂ fun burned => ?_)
    refine completes_bind.2 (completes_writeClientAtomic hrel hheld₂ ?_)
    refine h _ _ rfl rfl (hsame.locks.trans hlocks) ?_
    rw [hsame.clients, hclients]
  refine completes_bind.2 (completes_removeAuthorization hrel hheld hmay ?_)
  refine completes_bind.2 ?_
  unfold removePendingAuthorization
  split
  · refine completes_removeAuthorization (s := { s with
      authorizedKeys := removeAuthorizedKeyForPublicKey record.publicKey s.authorizedKeys })
      hrel hheld hmay ?_
    exact hend _ rfl rfl
  · exact hend _ rfl rfl

section

variable (hrel : Reliable allowed pid clientID) (hclient : s.locks (.client clientID) = none)
include hrel hclient

/-- **The host can revoke** a client whose enrollment was completed and which has not expired, if
nobody else holds its lock or that of the authorization file and every step succeeds. -/
theorem completes_revokeClientAsHost (hkeys : s.locks .authorizedKeys = none)
    (hhex : isHexID clientID = true) (hget : s.clients.get clientID = some record)
    (hpending : record.status ≠ .enrollmentPending) (hexpired : record.status ≠ .expired) :
    Completes (hostMachine site) allowed pid (revokeClientAsHost site.env clientID now) s
      fun outcome s' => ∃ revoked, outcome = .ok revoked ∧ revoked.status = .revoked ∧
        s'.clients.get clientID = some revoked := by
  have hid : record.clientID = clientID := Directory.key_of_get hget
  refine completes_bind.2 (completes_orNow (hrel.ready _ _) fun time => ?_)
  refine completes_bind.2 (completes_refuse (by rw [hhex]; rfl) ?_)
  refine completes_withClientRecord hrel hhex hclient hget fun s₁ hs₁ => ?_
  have hmay := hs₁.mayEditKeys hkeys
  refine Completes.ite (fun hrevoked => ?_) fun hrevoked => ?_
  · refine completes_bind.2 (completes_removeAuthorization hrel hs₁.held hmay ?_)
    refine completes_bind.2 (completes_enforceSessions
      (s := { s₁ with authorizedKeys := _ }) hrel hs₁.held fun s₂ hsame => ?_)
    refine ⟨hsame.locks, record, rfl, hrevoked, ?_⟩
    change s₂.clients.get clientID = some record
    rw [hsame.clients]
    exact hs₁.clients ▸ hget
  · have hcomplete : ∀ s₂ : Host, ∀ record₂ : ClientRecord, record₂.clientID = clientID →
        s₂.locks = s₁.locks →
        Completes (hostMachine site) allowed pid (completeRevocationAsHost site.env time record₂) s₂
          fun outcome s' => s'.locks = s₁.locks ∧
            ∃ revoked, outcome = .ok revoked ∧ revoked.status = .revoked ∧
              s'.clients.get clientID = some revoked := by
      intro s₂ record₂ hid₂ hlocks
      have hmay₂ : MayEditKeys pid s₂ := by rwa [MayEditKeys, hlocks]
      refine completes_completeRevocationAsHost hrel (hlocks ▸ hs₁.held) hmay₂ ?_
      intro revoked s' hrevokedID hstatus hlocks' hclients'
      refine ⟨hlocks'.trans hlocks, revoked, rfl, hstatus, ?_⟩
      rw [hclients', ← hid₂, ← hrevokedID]
      exact Directory.get_put_self
    refine completes_bind.2 (completes_refuse ?_ ?_)
    · revert hpending hexpired hrevoked
      cases record.status <;> decide
    · refine Completes.ite (fun _ => ?_) fun _ => hcomplete _ record hid rfl
      refine completes_bind.2 (completes_writeClientAtomic hrel hs₁.held ?_)
      exact hcomplete _ (beginRevocation record time) hid rfl

/-! ## Enrollments that were cut off -/

section

variable (hhex : isHexID clientID = true)
  (hget : s.clients.get clientID = some record)
  (hpending : record.status = .enrollmentPending)
include hhex hget hpending

theorem revokeClientAsHost_refuses :
    Completes (hostMachine site) allowed pid (revokeClientAsHost site.env clientID now) s
      fun outcome _ => ∃ err, outcome = .error err := by
  refine completes_bind.2 (completes_orNow (hrel.ready _ _) fun time => ?_)
  refine completes_bind.2 (completes_refuse (by rw [hhex]; rfl) ?_)
  refine completes_withClientRecord hrel hhex hclient hget fun s₁ _ => ?_
  refine Completes.ite (fun hrevoked => ?_) fun _ => ?_
  · rw [hpending] at hrevoked
    cases hrevoked
  · refine completes_bind.2 ?_
    rw [hpending]
    exact ⟨rfl, _, rfl⟩

theorem expireClient_refuses :
    Completes (hostMachine site) allowed pid (expireClient site.env clientID now) s
      fun outcome _ => ∃ err, outcome = .error err := by
  refine completes_bind.2 (completes_orNow (hrel.ready _ _) fun time => ?_)
  refine completes_bind.2 (completes_refuse (by rw [hhex]; rfl) ?_)
  refine completes_withClientRecord hrel hhex hclient hget fun s₁ _ => ?_
  refine Completes.ite (fun hexpired => ?_) fun _ => ?_
  · rw [hpending] at hexpired
    cases hexpired
  · refine completes_bind.2 (completes_ofExcept.2 ?_)
    cases record.authorizationNotAfter.parseUTC.mapError
        (Err.asInvalidInvite "authorization_not_after: ") with
    | error err => exact ⟨rfl, err, rfl⟩
    | ok notAfter =>
      refine completes_bind.2 (completes_ofExcept.2 ?_)
      cases hplan : validateExpirePlan (expirePlan record notAfter time) with
      | error err => exact ⟨rfl, err, rfl⟩
      | ok u =>
        -- a plan that passes is for a grant that was active
        exfalso
        have hstatus := status_of_validateExpirePlan hplan
        simp [expirePlan, hpending] at hstatus

end

end

/-! ## The host can end a grant -/

def AllSucceed : Action → Choice → Host → Prop := fun _ choice _ =>
  choice.outcome = .ok ∧ choice.failing = []

theorem reliable_allSucceed {clientID : Text} : Reliable AllSucceed pid clientID where
  ready _ _ := ⟨{}, rfl, rfl⟩
  locks h := h.1
  works _ h := h

/-- The host can end the grant of a record: it has ended, or the operator can revoke it now, or
it can be expired at some time. Each operation is run alone and with every step successful. -/
def CanEnd (site : Site) (s : Host) (record : ClientRecord) : Prop :=
  record.status.Terminal ∨
  (∀ pid now, Completes (hostMachine site) AllSucceed pid
    (revokeClientAsHost site.env record.clientID now) s fun outcome s' =>
      ∃ revoked, outcome = .ok revoked ∧ revoked.status = .revoked ∧
        s'.clients.get record.clientID = some revoked) ∨
  ∃ later, ∀ pid, Completes (hostMachine site) AllSucceed pid
    (expireClient site.env record.clientID later) s fun outcome s' =>
      ∃ expired, outcome = .ok expired ∧ expired.status = .expired ∧
        s'.clients.get record.clientID = some expired

/-- With nobody at work on it, a grant can be ended exactly if its enrollment was completed. -/
theorem canEnd_iff_of_quiet (hclient : s.locks (.client record.clientID) = none)
    (hkeys : s.locks .authorizedKeys = none) (hhex : isHexID record.clientID = true)
    (hget : s.clients.get record.clientID = some record) :
    CanEnd site s record ↔ record.status ≠ .enrollmentPending := by
  constructor
  · rintro (hended | hrevokes | ⟨later, hexpires⟩) hpending
    · rw [hpending] at hended
      exact absurd hended (by decide)
    · obtain ⟨outcome, s', ⟨revoked, rfl, -⟩, err, herr⟩ := (hrevokes 0 0).reaches.exists_end
        (revokeClientAsHost_refuses reliable_allSucceed hclient hhex hget hpending)
      cases herr
    · obtain ⟨outcome, s', ⟨expired, rfl, -⟩, err, herr⟩ := (hexpires 0).reaches.exists_end
        (expireClient_refuses reliable_allSucceed hclient hhex hget hpending)
      cases herr
  · intro hpending
    by_cases hexpired : record.status = .expired
    · exact .inl (.inl hexpired)
    · exact .inr (.inl fun _ _ => completes_revokeClientAsHost reliable_allSucceed hclient hkeys
        hhex hget hpending hexpired)

theorem hexIDs_of_guard {call : Call} {hist : List HostStep}
    {choice : Choice} {s' : Host} (h : ∀ record ∈ s.clients.files, isHexID record.clientID = true)
    (hguard : Guard site pid call hist action choice s) (heffect : Effect pid choice s action s') :
    ∀ record ∈ s'.clients.files, isHexID record.clientID = true := by
  rcases heffect.clients with hsame | ⟨stored, rfl, -, hput⟩ | ⟨written, rfl, -, hput⟩
  · rwa [hsame]
  · intro record hrecord
    rw [hput] at hrecord
    rcases mem_insertFile hrecord with rfl | hold
    · exact (hguard : StoresClient site pid call s record).hexID
    · exact h record hold
  · intro record hrecord
    rw [hput] at hrecord
    rcases mem_insertFile hrecord with rfl | hold
    · obtain ⟨old, howns, hid, -, -⟩ := (hguard : ClientWrite site pid call hist s record).previous
      rw [hid]
      exact h old (Directory.mem_files_of_get howns.stored)
    · exact h record hold

/-- **The host can end every grant** that a run of enrollments, rotations, revocations and
expiries leaves behind, when none of them is at work on it any more, exactly if the record is
not left as a pending enrollment. -/
theorem canEnd_iff {c : Pool} (hs : ∀ record ∈ s.clients.files, isHexID record.clientID = true)
    (hrun : Run (hostMachine site) (Starts fun call => call.lifecycle = true) (Config.idle s) c)
    (hrecord : record ∈ c.state.clients.files)
    (hclient : c.state.locks (.client record.clientID) = none)
    (hkeys : c.state.locks .authorizedKeys = none) :
    CanEnd site c.state record ↔ record.status ≠ .enrollmentPending := by
  have hhex : ∀ record ∈ c.state.clients.files, isHexID record.clientID = true := by
    refine run_invariant
      (I := fun c => ∀ record ∈ c.state.clients.files, isHexID record.clientID = true) hrun hs ?_ ?_ ?_
    · intro c pid call _ h _ _
      exact h
    · intro c pid process action rest choice reply state _ h _ _ _ hguard hperform _
      exact hexIDs_of_guard h hguard (effect_of_perform hperform)
    · intro c pid process _ h _ _
      exact h
  exact canEnd_iff_of_quiet hclient hkeys (hhex record hrecord) (Directory.get_of_mem_files hrecord)

/-- A rotation is cut off after its first write. The host can still revoke the client. -/
theorem canEnd_of_rotationPending :
    ∃ c, Run (hostMachine Scenario.site) (Starts fun call => call.lifecycle = true)
        (Config.idle Scenario.host) c ∧
      ∃ record ∈ c.state.clients.files, record.status = .rotationPending ∧
        CanEnd Scenario.site c.state record := by
  refine Run.exists_imp_of_runMoves
    (Scenario.accepting 'A' ++
      [.start 0 (.rotate (Scenario.management 'A' 'B') Scenario.now)] ++ Scenario.steps 0 4 ++
      [.stop 0])
    (fun c => ∃ record ∈ c.state.clients.files, record.status = .rotationPending ∧
      c.state.locks (.client record.clientID) = none ∧ c.state.locks .authorizedKeys = none)
    (by decide +kernel) ?_
  rintro c hrun ⟨record, hrecord, hstatus, hclient, hkeys⟩
  refine ⟨record, hrecord, hstatus, ?_⟩
  refine (canEnd_iff ?_ hrun hrecord hclient hkeys).2 (by rw [hstatus]; decide)
  exact fun record hmem => by simp [Scenario.host, Directory.empty] at hmem

/-- The key of an enrollment could not be installed. The record stays pending, and neither the
operator nor the passing of time can end it. -/
theorem pending_enrollment_stays :
    ∃ c, Run (hostMachine Scenario.site) (Starts fun call => call.lifecycle = true)
        (Config.idle Scenario.host) c ∧
      ∃ record ∈ c.state.clients.files, record.status = .enrollmentPending ∧
        ¬ CanEnd Scenario.site c.state record := by
  refine Run.exists_imp_of_runMoves
    ([.start 0 (Scenario.accept 'A')] ++ Scenario.steps 0 4 ++
      [.advance 0 { outcome := .lost, time := Scenario.now }] ++ Scenario.steps 0 1)
    (fun c => ∃ record ∈ c.state.clients.files, record.status = .enrollmentPending ∧
      isHexID record.clientID = true ∧ c.state.locks (.client record.clientID) = none ∧
      c.state.locks .authorizedKeys = none)
    (by decide +kernel) ?_
  rintro c - ⟨record, hrecord, hstatus, hhex, hclient, hkeys⟩
  refine ⟨record, hrecord, hstatus, fun hcan => ?_⟩
  have hget := Directory.get_of_mem_files hrecord
  exact (canEnd_iff_of_quiet hclient hkeys hhex hget).1 hcan hstatus

end WarpTweet
