import WarpTweet.Analysis.Sessions
import WarpTweet.Analysis.Scenario

/-!
# A login that crosses a revocation

A login registers its session first, which is durable, and puts its connection into the
session table afterwards. The host revocation of the client ends the registered
sessions: it closes the connections that are in the table and removes the session
records. A revocation that comes between the two steps finds the record but not the
connection, removes the record, verifies that the sessions are gone and succeeds, and
the connection is then answered and left open.

If sessions are not terminated between the two steps of the login, the connection of a
revoked client is not left open.
-/

namespace WarpTweet

open Strings Concurrency Storage

/-! ## The order of the steps -/

/-- The steps of a login, in their order. -/
def LoginStep (env : Env) (connectionID keyBlob : Text) (hist : List HostStep) : Action → Prop
  | .readKeys | .verifySignature => True
  | .authenticate other digest => other = connectionID ∧ digest = env.sha256 keyBlob ∧
      ¬ Did hist (.register connectionID (env.sha256 keyBlob)) (.ok ()) ∧
      ¬ Did hist (.disconnect connectionID) ()
  | .register other digest => other = connectionID ∧ digest = env.sha256 keyBlob ∧
      ¬ Did hist (.register connectionID (env.sha256 keyBlob)) (.ok ())
  | .track other | .disconnect other => other = connectionID
  | .answer other => other = connectionID ∧
      Did hist (.register connectionID (env.sha256 keyBlob)) (.ok ())
  | .unregister _ => Did hist (.disconnect connectionID) ()
  | _ => False

/-- The action changes connections or session records, or asks for a client. -/
def Action.racing : Action → Bool
  | .lock (.client _) _ | .terminate _ _ _ | .verifyGone _ _ _ | .terminateAll => true
  | .authenticate _ _ | .register _ _ | .track _ | .answer _ | .disconnect _ | .unregister _ => true
  | _ => false

/-- The steps of a host revocation, in their order: it works on one client, and turns to
its sessions after it has removed an authorization. -/
def RevokeStep (clientID : Text) (hist : List HostStep) : Action → Prop
  | .lock (.client other) _ => other = clientID
  | .terminate _ _ _ | .verifyGone _ _ _ => ∃ publicKey, Did hist (.removeKey publicKey) true
  | action => action.racing = false

/-- What the two calls do next. -/
def RaceStep (env : Env) : Call → List HostStep → Action → Prop
  | .login connectionID keyBlob, hist, action => LoginStep env connectionID keyBlob hist action
  | .revokeClientAsHost clientID _, hist, action => RevokeStep clientID hist action
  | _, _, _ => True

/-- What the two calls have done when they return: an authenticated login has registered
or given up its connection, and a successful revocation has verified that the sessions of
the client are gone. -/
def RaceEnds (env : Env) : Call → Except Err Unit → List HostStep → Prop
  | .login connectionID keyBlob, _, hist =>
    Did hist (.authenticate connectionID (env.sha256 keyBlob)) () →
      Did hist (.register connectionID (env.sha256 keyBlob)) (.ok ()) ∨
        Did hist (.disconnect connectionID) ()
  | .revokeClientAsHost clientID _, .ok _, hist => Did hist (.verifyGone clientID none []) (.ok ())
  | _, _, _ => True

abbrev raceProtocol (site : Site) : Protocol (hostMachine site) :=
  historyProtocol (hostMachine site) (RaceStep site.env) (RaceEnds site.env)

variable {site : Site} {pid : ℕ} {s : Host} {connectionID keyBlob clientID : Text} {now : Time}
  {hist : List HostStep} {name publicKey : Text} {time : Time}

theorem ensures_releaseGrant_fail {err : Err} :
    Ensures (raceProtocol site) pid (.login connectionID keyBlob)
      ((releaseGrant connectionID).bind fun _ => (.fail err : HostProg Unit)) hist s
      fun outcome hist' _ => RaceEnds site.env (.login connectionID keyBlob) outcome hist' := by
  intro s₁ _ choice₁ reply₁ s₂ _ _
  refine ⟨rfl, ?_⟩
  intro s₃ _ choice₂ reply₂ s₄ _ _
  have hclosed : Did (⟨.disconnect connectionID, choice₁, reply₁⟩ :: hist)
      (.disconnect connectionID) () := did_cons_self
  refine ⟨hclosed, fun _ => ?_⟩
  exact .inr (hclosed.mono (List.subset_cons_self _ _))

theorem ensures_login_registered
    (h : Did hist (.register connectionID (site.env.sha256 keyBlob)) (.ok ())) :
    Ensures (raceProtocol site) pid (.login connectionID keyBlob)
      ((perform (.track connectionID)).bind fun _ =>
        (perform (.answer connectionID)).bind fun sent =>
          if ¬ sent then
            (releaseGrant connectionID).bind fun _ => .fail (.plain "connection closed")
          else .done ()) hist s
      fun outcome hist' _ => RaceEnds site.env (.login connectionID keyBlob) outcome hist' := by
  intro s₁ _ choice₁ reply₁ s₂ _ _
  refine ⟨rfl, ?_⟩
  have h₁ := h.mono (List.subset_cons_self ⟨.track connectionID, choice₁, reply₁⟩ hist)
  intro s₃ _ choice₂ sent s₄ _ _
  refine ⟨⟨rfl, h₁⟩, ?_⟩
  cases sent with
  | false => exact ensures_releaseGrant_fail
  | true => exact fun _ => .inl (h₁.mono (List.subset_cons_self _ _))

theorem ensures_handleUserauth : Ensures (raceProtocol site) pid (.login connectionID keyBlob)
      (handleUserauth site.env connectionID keyBlob) [] s
      fun outcome hist' _ => RaceEnds site.env (.login connectionID keyBlob) outcome hist' := by
  intro s₁ _ choice₁ lines s₂ _ _
  refine ⟨trivial, ensures_refuse_bind ?_ fun _ => ?_⟩
  · rintro ⟨_, hmem⟩
    simp at hmem
  · intro s₃ _ choice₂ verified s₄ _ _
    refine ⟨trivial, ensures_refuse_bind ?_ fun _ => ?_⟩
    · rintro ⟨_, hmem⟩
      simp at hmem
    · intro s₅ _ choice₃ reply₃ s₆ _ _
      refine ⟨⟨rfl, rfl, ?_, ?_⟩, ?_⟩
      · rintro ⟨_, hmem⟩
        simp at hmem
      · rintro ⟨_, hmem⟩
        simp at hmem
      · intro s₇ _ choice₄ registered s₈ _ _
        refine ⟨⟨rfl, rfl, ?_⟩, ?_⟩
        · rintro ⟨_, hmem⟩
          simp at hmem
        · rcases registered with err | _
          · exact ensures_releaseGrant_fail
          · exact ensures_login_registered did_cons_self

section

variable {hist : List HostStep} {α β : Type} {Q : α → List HostStep → Prop}
  {Q' : β → List HostStep → Prop} {record : ClientRecord}

/-- The program keeps the order of a revocation. When it returns a value, `Q` holds of it
and of what the process has done by then. -/
abbrev Proceeds (site : Site) (pid : ℕ) (clientID : Text) (now : Time) (program : HostProg α)
    (hist : List HostStep) (s : Host) (Q : α → List HostStep → Prop) : Prop :=
  Traces (raceProtocol site) pid (.revokeClientAsHost clientID now) program hist s Q

theorem revokeStep_of_not_racing {action : Action} (h : action.racing = false) :
    RevokeStep clientID hist action := by
  cases action with
  | lock name wait =>
    cases name with
    | client other => cases h
    | _ => rfl
  | terminate | verifyGone => cases h
  | _ => exact h

theorem proceeds_of_uses {program : HostProg α}
    (huses : program.Uses fun action => action.racing = false) :
    Proceeds site pid clientID now program hist s fun _ _ => True :=
  (traces_of_uses huses fun _ haction _ _ _ => revokeStep_of_not_racing haction).mono
    fun _ _ _ _ => trivial

theorem proceeds_loadKnownClient : Proceeds site pid clientID now (loadKnownClient name) hist s
      fun record _ => record.clientID = name := by
  have hload : Proceeds site pid clientID now (loadClient name) hist s fun record hist' =>
      record.clientID = name ∧
        ∃ choice, hist' = ⟨.readClient name, choice, .found record⟩ :: hist :=
    traces_loadClient fun _ _ _ => rfl
  exact (hload.mono fun _ _ _ h => h.1).mapError

theorem proceeds_removeAuthorization :
    Proceeds site pid clientID now (removeAuthorization publicKey) hist s
      fun _ hist' => Did hist' (.removeKey publicKey) true := by
  refine Traces.bind (traces_perform fun _ _ _ => rfl) ?_
  rintro ok hist₁ s₁ - ⟨choice, _, _, rfl, -⟩
  cases ok with
  | false => exact traces_fail
  | true => exact traces_done did_cons_self

theorem proceeds_enforceSessions (h : Did hist (.removeKey publicKey) true) :
    Proceeds site pid clientID now (enforceSessions true name) hist s
      fun _ hist' => Did hist' (.verifyGone name none []) (.ok ()) := by
  refine Traces.bind (N := fun _ _ => True) ?_ fun _ hist₁ s₁ hsub _ => ?_
  · refine Traces.bind (traces_perform fun _ _ _ => ⟨publicKey, h⟩) fun terminated hist₁ s₁ _ _ => ?_
    cases terminated with
    | error err => exact traces_fail
    | ok _ => exact traces_done trivial
  · refine Traces.bind (traces_perform fun _ _ _ => ⟨publicKey, h.mono hsub⟩) ?_
    rintro verified hist₂ s₂ - ⟨choice, _, _, rfl, -⟩
    cases verified with
    | error err => exact traces_fail
    | ok _ => exact traces_done did_cons_self

theorem racing_burnManagementToken {env : Env} :
    (burnManagementToken env).Uses fun action => action.racing = false := by
  refine .bind ⟨rfl, fun _ => trivial⟩ fun token => ?_
  cases token with
  | none => trivial
  | some token => trivial

theorem racing_writeClientAtomic :
    (writeClientAtomic record).Uses fun action => action.racing = false :=
  .bind ⟨rfl, fun _ => trivial⟩ fun _ => Prog.uses_ofExcept

theorem racing_removePendingAuthorization :
    (removePendingAuthorization record).Uses fun action => action.racing = false := by
  unfold removePendingAuthorization
  split_ifs
  · exact .bind ⟨rfl, fun _ => trivial⟩ fun _ => Prog.uses_ofExcept
  · trivial

theorem proceeds_completeRevocationAsHost :
    Proceeds site pid clientID now (completeRevocationAsHost site.env time record) hist s
      fun _ hist' => Did hist' (.verifyGone record.clientID none []) (.ok ()) := by
  refine Traces.bind proceeds_removeAuthorization fun _ hist₁ s₁ _ hremoved => ?_
  refine Traces.bind (proceeds_of_uses racing_removePendingAuthorization)
    fun _ hist₂ s₂ hsub₂ _ => ?_
  refine Traces.bind (proceeds_enforceSessions (hremoved.mono hsub₂))
    fun _ hist₃ s₃ _ hgone => ?_
  refine Traces.bind (proceeds_of_uses racing_burnManagementToken) fun _ hist₄ s₄ hsub₄ _ => ?_
  refine Traces.bind (proceeds_of_uses racing_writeClientAtomic) fun _ hist₅ s₅ hsub₅ _ => ?_
  exact traces_done ((hgone.mono hsub₄).mono hsub₅)

theorem proceeds_revokeClientAsHostLocked :
    Proceeds site pid clientID now (revokeClientAsHostLocked site.env clientID time) hist s
      fun _ hist' => Did hist' (.verifyGone clientID none []) (.ok ()) := by
  refine Traces.bind proceeds_loadKnownClient ?_
  rintro record hist₁ s₁ - rfl
  split_ifs with hrevoked hlive
  · refine Traces.bind proceeds_removeAuthorization fun _ hist₂ s₂ _ hremoved => ?_
    refine Traces.bind (proceeds_enforceSessions hremoved) fun _ hist₃ s₃ _ hgone => ?_
    exact traces_done hgone
  · refine traces_refuse_bind fun _ => ?_
    exact Traces.bind (proceeds_of_uses racing_writeClientAtomic) fun _ hist₂ s₂ _ _ =>
      proceeds_completeRevocationAsHost
  · exact traces_refuse_bind fun _ => proceeds_completeRevocationAsHost

theorem proceeds_revokeClientAsHost :
    Proceeds site pid clientID now (revokeClientAsHost site.env clientID now) hist s
      fun _ hist' => Did hist' (.verifyGone clientID none []) (.ok ()) := by
  have hnow : (orNow now).Uses fun action => action.racing = false := by
    unfold orNow
    split_ifs
    · exact ⟨rfl, fun _ => trivial⟩
    · trivial
  refine Traces.bind (proceeds_of_uses hnow) fun time hist₁ s₁ _ _ => ?_
  refine traces_refuse_bind fun _ => traces_refuse_bind fun _ => ?_
  refine traces_withLock (fun _ _ => rfl) (fun _ _ _ => rfl) ?_ ?_
  · exact fun choice s' => proceeds_revokeClientAsHostLocked
  · exact fun _ _ _ _ hgone => hgone.mono (List.subset_cons_self _ _)

end

/-! ## Crossings -/

/-- One login, one host revocation, and neither is stopped. -/
def LoginAndRevocation (connectionID keyBlob clientID : Text) (now : Time) : HostMove → Prop
  | .start pid (.login other blob) => pid = 0 ∧ other = connectionID ∧ blob = keyBlob
  | .start pid (.revokeClientAsHost other time) => pid = 1 ∧ other = clientID ∧ time = now
  | .start _ _ => False
  | .advance _ _ => True
  | .stop _ => False

instance (connectionID keyBlob clientID : Text) (now : Time) (move : HostMove) :
    Decidable (LoginAndRevocation connectionID keyBlob clientID now move) := by
  unfold LoginAndRevocation
  split <;> infer_instance

/-- Sessions are terminated while the connection, if its session is registered, is in the
session table. -/
def TerminatesTracked (connectionID : Text) (s : Host) (action : Action) : Prop :=
  action.terminates = true → (∃ session ∈ s.sessions, session.connectionID = connectionID) →
    ∀ connection ∈ s.connections, connection.id = connectionID → connection.tracked = true

instance (connectionID : Text) (s : Host) (action : Action) :
    Decidable (TerminatesTracked connectionID s action) := by
  unfold TerminatesTracked
  infer_instance

/-- A login and a host revocation that does not come between its registration and its
entry in the session table. -/
abbrev Crossing (connectionID keyBlob clientID : Text) (now : Time) : Pool → HostMove → Prop :=
  fun c move => LoginAndRevocation connectionID keyBlob clientID now move ∧
    OnAction (fun c _ action _ => TerminatesTracked connectionID c.state action) c move

/-- The connection is open although success was answered or the login is over. -/
def LeftOpen (connectionID : Text) (c : Pool) : Prop :=
  ∃ connection ∈ c.state.connections, connection.id = connectionID ∧ connection.isOpen = true ∧
    (connection.answered = true ∨ ∃ login ∈ c.procs 0, login.Finished)

instance (connectionID : Text) (c : Pool) : Decidable (LeftOpen connectionID c) := by
  unfold LeftOpen
  infer_instance

/-- The key is the one of the client, and the connection is new. -/
structure Presented (env : Env) (connectionID keyBlob clientID : Text) (s : Host) : Prop where
  stored : ∃ record, s.clients.get clientID = some record ∧
    presents env (env.sha256 keyBlob) record = true
  fresh : ∀ connection ∈ s.connections, connection.id ≠ connectionID

def Closes (connectionID : Text) (s : Host) : Prop :=
  ∀ connection ∈ s.connections, connection.id = connectionID → connection.isOpen = false

/-- The session that a registered login has. -/
structure Backs (connectionID digest clientID : Text) (session : Session) : Prop where
  clientID : session.clientID = clientID
  connectionID : session.connectionID = connectionID
  keyBlobSHA256 : session.keyBlobSHA256 = digest
  dataPlane : session.dataPlane = true

/-- What a crossing keeps: `login` and `revocation` are what the two calls have done. -/
structure Crossed (env : Env) (connectionID digest clientID : Text)
    (login revocation : List HostStep) (s : Host) : Prop where
  stored : ∃ record, s.clients.get clientID = some record ∧ presents env digest record = true
  asked : ∀ other, lastClient revocation = some other → other = clientID
  removed : (∃ publicKey, Did revocation (.removeKey publicKey) true) →
    ∃ record, s.clients.get clientID = some record ∧ ¬ Live record
  gone : Did revocation (.verifyGone clientID none []) (.ok ()) →
    (∃ publicKey, Did revocation (.removeKey publicKey) true) ∧
      ∀ session ∈ s.sessions, session.clientID ≠ clientID
  opened : ∀ connection ∈ s.connections, connection.id = connectionID →
    connection.keyDigest = digest ∧ Did login (.authenticate connectionID digest) () ∧
      (connection.answered = true → Did login (.register connectionID digest) (.ok ()))
  closed : Did login (.disconnect connectionID) () → Closes connectionID s
  registered : Did login (.register connectionID digest) (.ok ()) →
    (∃ session ∈ s.sessions, Backs connectionID digest clientID session) ∨ Closes connectionID s

section

variable {call : Call} {login revocation : List HostStep} {action : Action} {choice : Choice}
  {reply : action.Reply} {s' : Host} {digest : Text}

theorem Closes.of_perform (h : Closes connectionID s)
    (hperform : performAction site.env pid action choice s = some (reply, s'))
    (hnew : ∀ digest, action ≠ .authenticate connectionID digest) : Closes connectionID s' := by
  intro connection hconnection hid
  rcases mem_connections_of_perform hperform hconnection with ⟨old, hold, hfollows⟩ | ⟨haction, -⟩
  · have hclosed := h old hold (by rw [← hfollows.id, hid])
    by_contra hopen
    rw [hfollows.isOpen (by simpa using hopen)] at hclosed
    cases hclosed
  · rw [hid] at haction
    exact absurd haction (hnew _)

theorem presents_of_guard
    (h : ∃ record, s.clients.get clientID = some record ∧ presents site.env digest record = true)
    (hrotation : call.rotation = none)
    (hguard : Guard site pid call hist action choice s) (heffect : Effect pid choice s action s') :
    ∃ record, s'.clients.get clientID = some record ∧ presents site.env digest record = true := by
  obtain ⟨record, hget, hpresents⟩ := h
  obtain ⟨record', hget', hkey⟩ := stored_of_guard ⟨record, hget, rfl⟩ hrotation hguard heffect
  refine ⟨record', hget', ?_⟩
  unfold presents at hpresents ⊢
  rw [hkey]
  exact hpresents

theorem backs_of_register (hstored : ∃ record, s.clients.get clientID = some record ∧
      presents site.env digest record = true)
    (hperform : performAction site.env pid (.register connectionID digest) choice s =
      some (.ok (), s')) : ∃ session ∈ s'.sessions, Backs connectionID digest clientID session := by
  simp only [performAction, Option.some.injEq] at hperform
  obtain ⟨session, hsession, record, hregistered⟩ := registered_of_registerSession hperform
  obtain ⟨owner, hget, hpresents⟩ := hstored
  have howner : owner ∈ s.clients.files.filter (presents site.env digest) :=
    List.mem_filter.2 ⟨Directory.mem_files_of_get hget, hpresents⟩
  rw [(matchingGrant_eq_ok.1 hregistered.found).1, List.mem_singleton] at howner
  refine ⟨session, hsession, ?_, hregistered.connectionID, hregistered.keyBlobSHA256,
    hregistered.dataPlane⟩
  rw [hregistered.clientID, ← howner]
  exact Directory.key_of_get hget

theorem not_live_of_removeKey
    (hasked : ∀ other, lastClient revocation = some other → other = clientID)
    (hguard : Guard site pid call revocation (.removeKey publicKey) choice s) :
    ∃ record, s.clients.get clientID = some record ∧ ¬ Live record := by
  obtain ⟨record, howns, -, hstatus⟩ := hguard
  refine ⟨record, ?_, ?_⟩
  · rw [← hasked _ howns.current]
    exact howns.stored
  · rintro (hactive | hrotating)
    · rcases hstatus with h | h | h <;> rw [hactive] at h <;> cases h
    · rcases hstatus with h | h | h <;> rw [hrotating] at h <;> cases h

/-- A session that a termination ends takes its connection with it, if that is in the
session table. -/
theorem registered_of_terminate {generation : Generation} {sha : Text} {reply : Except Err Unit}
    (h : Crossed site.env connectionID digest clientID login revocation s) {session : Session}
    (hsession : session ∈ s.sessions) (hbacks : Backs connectionID digest clientID session)
    (htracked : TerminatesTracked connectionID s (.terminate name generation sha))
    (hperform : performAction site.env pid (.terminate name generation sha) choice s =
      some (reply, s')) : (∃ session ∈ s'.sessions, Backs connectionID digest clientID session) ∨
      Closes connectionID s' := by
  simp only [performAction] at hperform
  split_ifs at hperform
  · simp only [Option.some.injEq] at hperform
    have hs' : _ = s' := congrArg Prod.snd hperform
    by_cases hkept : session ∈ s'.sessions
    · exact .inl ⟨session, hkept, hbacks⟩
    · right
      intro connection hconnection hid
      rw [← hs'] at hkept hconnection
      obtain ⟨old, hold, hfollows, hclosed⟩ :=
        closed_of_terminateSessions .terminateAll hsession hkept hconnection
      have hid' : old.id = connectionID := by rw [← hfollows.id, hid]
      apply hclosed
      · exact htracked rfl ⟨session, hsession, hbacks.connectionID⟩ old hold hid'
      · rw [(h.opened old hold hid').1, hbacks.keyBlobSHA256]
  · cases hperform
    exact .inl ⟨session, hsession, hbacks⟩

theorem Crossed.revocation_step
    (h : Crossed site.env connectionID digest clientID login revocation s)
    (hguard : Guard site pid (.revokeClientAsHost clientID now) revocation action choice s)
    (hstep : RevokeStep clientID revocation action)
    (htracked : TerminatesTracked connectionID s action)
    (hperform : performAction site.env pid action choice s = some (reply, s')) :
    Crossed site.env connectionID digest clientID login (⟨action, choice, reply⟩ :: revocation)
      s' := by
  have heffect := effect_of_perform hperform
  have hauthenticate : ∀ connection digest, action ≠ .authenticate connection digest := by
    rintro connection digest rfl
    cases hstep
  have hregister : ∀ connection digest, action ≠ .register connection digest := by
    rintro connection digest rfl
    cases hstep
  constructor
  case stored => exact presents_of_guard h.stored rfl hguard heffect
  case asked =>
    intro other hlast
    rw [lastClient_cons] at hlast
    cases hasks : action.asksFor with
    | none => exact h.asked other (by simpa [hasks] using hlast)
    | some asked =>
      obtain rfl : asked = other := by simpa [hasks] using hlast
      obtain ⟨wait, rfl⟩ := lock_of_asksFor hasks
      exact hstep
  case removed =>
    rintro ⟨publicKey, choice', hmem⟩
    apply not_live_of_guard _ rfl rfl hguard heffect
    rcases List.mem_cons.1 hmem with heq | hmem
    · cases heq
      exact not_live_of_removeKey h.asked hguard
    · exact h.removed ⟨publicKey, choice', hmem⟩
  case gone =>
    rintro ⟨choice', hmem⟩
    rcases List.mem_cons.1 hmem with heq | hmem
    · cases heq
      obtain ⟨publicKey, hremoved⟩ := hstep
      refine ⟨⟨publicKey, hremoved.mono (List.subset_cons_self _ _)⟩, ?_⟩
      exact not_mem_sessions_of_verifyGone hperform
    · obtain ⟨⟨publicKey, hremoved⟩, hgone⟩ := h.gone ⟨choice', hmem⟩
      refine ⟨⟨publicKey, hremoved.mono (List.subset_cons_self _ _)⟩, ?_⟩
      intro session hsession
      rcases mem_sessions_of_perform hperform hsession with hold | ⟨_, _, _, haction, -⟩
      · exact hgone session hold
      · exact absurd haction (hregister _ _)
  case opened =>
    intro connection hconnection hid
    rcases mem_connections_of_perform hperform hconnection with ⟨old, hold, hfollows⟩ | ⟨haction, -⟩
    · obtain ⟨hdigest, hauthenticated, hanswered⟩ := h.opened old hold (by rw [← hfollows.id, hid])
      refine ⟨by rw [hfollows.keyDigest, hdigest], hauthenticated, fun hnow => ?_⟩
      rcases hfollows.answered hnow with hbefore | rfl
      · exact hanswered hbefore
      · cases hstep
    · exact absurd haction (hauthenticate _ _)
  case closed =>
    intro hdisconnected
    exact (h.closed hdisconnected).of_perform hperform (hauthenticate _)
  case registered =>
    intro hregistered
    rcases h.registered hregistered with ⟨session, hsession, hbacks⟩ | hclosed
    · cases hends : action.endsSessions with
      | false =>
        have hkept := mem_sessions_of_endsSessions hperform hends hbacks.dataPlane hsession
        exact .inl ⟨session, hkept, hbacks⟩
      | true =>
        cases action with
        | terminate => exact registered_of_terminate h hsession hbacks htracked hperform
        | terminateAll | register | unregister => cases hstep
        | _ => cases hends
    · exact .inr (hclosed.of_perform hperform (hauthenticate _))

theorem Crossed.login_step
    (h : Crossed site.env connectionID (site.env.sha256 keyBlob) clientID login revocation s)
    (hguard : Guard site pid (.login connectionID keyBlob) login action choice s)
    (hstep : LoginStep site.env connectionID keyBlob login action)
    (hperform : performAction site.env pid action choice s = some (reply, s')) :
    Crossed site.env connectionID (site.env.sha256 keyBlob) clientID
      (⟨action, choice, reply⟩ :: login) revocation s' := by
  have heffect := effect_of_perform hperform
  have hdead := fun hremoved => not_live_of_guard (h.removed hremoved) rfl rfl hguard heffect
  constructor
  case stored => exact presents_of_guard h.stored rfl hguard heffect
  case asked => exact h.asked
  case removed => exact hdead
  case gone =>
    intro hverified
    obtain ⟨hremoved, hgone⟩ := h.gone hverified
    refine ⟨hremoved, fun session hsession hid => ?_⟩
    rcases mem_sessions_of_perform hperform hsession with hold | ⟨_, _, _, -, hregistered⟩
    · exact hgone session hold hid
    · -- a session is registered for a live client only
      obtain ⟨hget, hlive⟩ := hregistered.stored
      obtain ⟨record, hrecord, hnot⟩ := h.removed hremoved
      rw [hid, hrecord, Option.some.injEq] at hget
      exact hnot (hget ▸ hlive)
  case opened =>
    intro connection hconnection hid
    rcases mem_connections_of_perform hperform hconnection with
      ⟨old, hold, hfollows⟩ | ⟨haction, hanswered⟩
    · have hold' := h.opened old hold (by rw [← hfollows.id, hid])
      obtain ⟨hdigest, hauthenticated, hanswered⟩ := hold'
      refine ⟨by rw [hfollows.keyDigest, hdigest],
        hauthenticated.mono (List.subset_cons_self _ _), fun hnow => ?_⟩
      rcases hfollows.answered hnow with hbefore | rfl
      · exact (hanswered hbefore).mono (List.subset_cons_self _ _)
      · exact hstep.2.mono (List.subset_cons_self _ _)
    · subst haction
      obtain ⟨-, hdigest, -⟩ := hstep
      refine ⟨hdigest, ?_, fun hnow => ?_⟩
      · rw [← hid, ← hdigest]
        exact did_cons_self
      · rw [hanswered] at hnow
        cases hnow
  case closed =>
    rintro ⟨choice', hmem⟩
    rcases List.mem_cons.1 hmem with heq | hmem
    · cases heq
      cases hperform
      intro connection hconnection hid
      obtain ⟨old, -, rfl⟩ := mem_changeConnection hconnection
      split_ifs at hid ⊢ with hold
      · rfl
      · exact absurd hid hold
    · have hdisconnected : Did login (.disconnect connectionID) () := ⟨choice', hmem⟩
      refine (h.closed hdisconnected).of_perform hperform ?_
      rintro digest rfl
      exact hstep.2.2.2 hdisconnected
  case registered =>
    rintro ⟨choice', hmem⟩
    rcases List.mem_cons.1 hmem with heq | hmem
    · cases heq
      exact .inl (backs_of_register h.stored hperform)
    · have hregistered : Did login (.register connectionID (site.env.sha256 keyBlob)) (.ok ()) :=
        ⟨choice', hmem⟩
      have hnew : ∀ digest, action ≠ .authenticate connectionID digest := by
        rintro digest rfl
        exact hstep.2.2.1 hregistered
      rcases h.registered hregistered with ⟨session, hsession, hbacks⟩ | hclosed
      · cases hends : action.endsSessions with
        | false =>
          have hkept := mem_sessions_of_endsSessions hperform hends hbacks.dataPlane hsession
          exact .inl ⟨session, hkept, hbacks⟩
        | true =>
          cases action with
          | register => exact absurd hregistered hstep.2.2
          | unregister => exact .inr ((h.closed hstep).of_perform hperform hnew)
          | terminate | terminateAll => cases hstep
          | _ => cases hends
      · exact .inr (hclosed.of_perform hperform hnew)

end

section

variable {c : Pool}

theorem calls_of_crossing
    (hrun : Run (hostMachine site) (Crossing connectionID keyBlob clientID now) (Config.idle s) c) :
    c.Each fun pid call _ _ => pid = 0 ∧ call = .login connectionID keyBlob ∨
      pid = 1 ∧ call = .revokeClientAsHost clientID now := by
  refine run_invariant (I := fun c => c.Each fun pid call _ _ =>
    pid = 0 ∧ call = .login connectionID keyBlob ∨
      pid = 1 ∧ call = .revokeClientAsHost clientID now) hrun .idle ?_ ?_ ?_
  · intro c pid call _ h hD _
    refine h.started ?_
    have hmove : LoginAndRevocation connectionID keyBlob clientID now (.start pid call) := hD.1
    cases call with
    | login =>
      obtain ⟨rfl, rfl, rfl⟩ := hmove
      exact .inl ⟨rfl, rfl⟩
    | revokeClientAsHost =>
      obtain ⟨rfl, rfl, rfl⟩ := hmove
      exact .inr ⟨rfl, rfl⟩
    | _ => cases hmove
  · intro c pid process action rest choice reply state _ h _ hp _ _ _ _
    exact h.advanced hp id fun _ _ _ _ => id
  · intro c pid process _ h hD _
    cases hD.1

theorem poolGuarded_of_crossing
    (hrun : Run (hostMachine site) (Crossing connectionID keyBlob clientID now) (Config.idle s) c) :
    PoolGuarded (raceProtocol site) c := by
  apply hrun.poolGuarded
  · intros
    trivial
  · intro c pid call hD
    have hmove : LoginAndRevocation connectionID keyBlob clientID now (.start pid call) := hD.1
    cases call with
    | login => exact ensures_handleUserauth
    | revokeClientAsHost other time =>
      refine ensures_bind.2 (Ensures.mono proceeds_revokeClientAsHost ?_)
      rintro (err | record) hist' s' ⟨-, hgone⟩
      · trivial
      · exact hgone record rfl
    | _ => cases hmove

theorem crossed_of_run (hs : Presented site.env connectionID keyBlob clientID s)
    (hrun : Run (hostMachine site) (Crossing connectionID keyBlob clientID now) (Config.idle s) c) :
    Crossed site.env connectionID (site.env.sha256 keyBlob) clientID (c.history 0) (c.history 1)
      c.state := by
  refine run_invariant (I := fun c => Crossed site.env connectionID (site.env.sha256 keyBlob)
    clientID (c.history 0) (c.history 1) c.state) hrun ?_ ?_ ?_ ?_
  · have hnone : ∀ (action : Action) (reply : action.Reply), ¬ Did [] action reply := by
      rintro action reply ⟨_, hmem⟩
      cases hmem
    constructor
    case stored => exact hs.stored
    case asked =>
      intro other hlast
      cases hlast
    case removed => exact fun ⟨_, hdid⟩ => absurd hdid (hnone _ _)
    case gone => exact fun hdid => absurd hdid (hnone _ _)
    case opened => exact fun connection hconnection hid => absurd hid (hs.fresh connection hconnection)
    case closed => exact fun hdid => absurd hdid (hnone _ _)
    case registered => exact fun hdid => absurd hdid (hnone _ _)
  · intro c pid call _ h _ hnew
    rw [Config.history_started hnew, Config.history_started hnew]
    exact h
  · intro c pid process action rest choice reply state hprefix h hD hp hprog hguard hperform _
    have hstep := (poolGuarded_of_crossing hprefix).guard hp hprog trivial hperform
    have htracked := hD.2.condition hp hprog
    rcases calls_of_crossing hprefix pid process hp with ⟨rfl, hcall⟩ | ⟨rfl, hcall⟩
    · rw [hcall] at hguard
      rw [Config.history_advanced_self, Config.history_advanced_of_ne (by decide)]
      rw [Config.history_of_procs hp] at h
      refine h.login_step hguard ?_ hperform
      have hrace : RaceStep site.env process.call process.hist action := hstep
      rwa [hcall] at hrace
    · rw [hcall] at hguard
      rw [Config.history_advanced_self, Config.history_advanced_of_ne (by decide)]
      rw [Config.history_of_procs hp] at h
      refine h.revocation_step hguard ?_ htracked hperform
      have hrace : RaceStep site.env process.call process.hist action := hstep
      rwa [hcall] at hrace
  · intro c pid process _ h hD _
    cases hD.1

theorem Crossed.closes_of_registered {digest : Text} {login revocation : List HostStep}
    (h : Crossed site.env connectionID digest clientID login revocation s)
    (hverified : Did revocation (.verifyGone clientID none []) (.ok ()))
    (hregistered : Did login (.register connectionID digest) (.ok ())) : Closes connectionID s := by
  rcases h.registered hregistered with ⟨session, hsession, hbacks⟩ | hclosed
  · exact absurd hbacks.clientID ((h.gone hverified).2 session hsession)
  · exact hclosed

/-- In every interleaving of a login with a host revocation of the client that does not
terminate sessions between the registration of the login and its entry in the session
table, the connection is not left open once the revocation has succeeded. -/
theorem not_leftOpen_of_crossing (hs : Presented site.env connectionID keyBlob clientID s)
    (hrun : Run (hostMachine site) (Crossing connectionID keyBlob clientID now) (Config.idle s) c)
    (hrevoked : c.HasSucceeded 1) : ¬ LeftOpen connectionID c := by
  have hcrossed := crossed_of_run hs hrun
  have hpool := poolGuarded_of_crossing hrun
  have hcalls := calls_of_crossing hrun
  have hverified : Did (c.history 1) (.verifyGone clientID none []) (.ok ()) := by
    obtain ⟨process, hp, hsucceeded⟩ := hrevoked
    obtain ⟨outcome, houtcome, hends⟩ := hpool.ends hp hsucceeded.finished
    rcases hcalls 1 process hp with ⟨hpid, -⟩ | ⟨-, hcall⟩
    · cases hpid
    · have hrace : RaceEnds site.env process.call outcome process.hist := hends
      rw [hcall, houtcome.2 hsucceeded] at hrace
      rw [Config.history_of_procs hp]
      exact hrace
  rintro ⟨connection, hconnection, hid, hopen, hleft⟩
  obtain ⟨-, hauthenticated, hanswered⟩ := hcrossed.opened connection hconnection hid
  have hclosed : Closes connectionID c.state := by
    rcases hleft with hsent | ⟨process, hp, hfinished⟩
    · exact hcrossed.closes_of_registered hverified (hanswered hsent)
    · obtain ⟨outcome, -, hends⟩ := hpool.ends hp hfinished
      rcases hcalls 0 process hp with ⟨-, hcall⟩ | ⟨hpid, -⟩
      · have hrace : RaceEnds site.env process.call outcome process.hist := hends
        rw [hcall] at hrace
        rw [Config.history_of_procs hp] at hauthenticated
        rcases hrace hauthenticated with hregistered | hdisconnected
        · rw [← Config.history_of_procs hp] at hregistered
          exact hcrossed.closes_of_registered hverified hregistered
        · rw [← Config.history_of_procs hp] at hdisconnected
          exact hcrossed.closed hdisconnected
      · cases hpid
  rw [hclosed connection hconnection hid] at hopen
  cases hopen

end

theorem presented_accepted : Presented Scenario.env ['A'] ['A'] (Scenario.clientID 'A')
    (Scenario.after (Scenario.accepting 'A')) := by
  have hstored : ((Scenario.after (Scenario.accepting 'A')).clients.get
      (Scenario.clientID 'A')).any (presents Scenario.env (Scenario.env.sha256 ['A'])) := by
    decide +kernel
  obtain ⟨record, hget, hpresents⟩ := (Option.any_eq_true _ _).1 hstored
  exact ⟨⟨record, hget, hpresents⟩, by decide +kernel⟩

/-- A login that is answered before the client is revoked: its connection is closed. -/
theorem not_leftOpen_after_login :
    Presented Scenario.env ['A'] ['A'] (Scenario.clientID 'A')
      (Scenario.after (Scenario.accepting 'A')) ∧
    ∃ c, Run (hostMachine Scenario.site)
        (Crossing ['A'] ['A'] (Scenario.clientID 'A') Scenario.now)
        (Config.idle (Scenario.after (Scenario.accepting 'A'))) c ∧
      c.HasSucceeded 0 ∧ c.HasSucceeded 1 ∧ ¬ LeftOpen ['A'] c := by
  refine ⟨presented_accepted, Run.exists_imp_of_runMoves
    (Scenario.loggingIn 0 'A' ++
      [.start 1 (.revokeClientAsHost (Scenario.clientID 'A') Scenario.now)] ++ Scenario.steps 1 9)
    (fun c => c.HasSucceeded 0 ∧ c.HasSucceeded 1) (by decide +kernel) ?_⟩
  rintro c hrun ⟨hlogin, hrevoked⟩
  exact ⟨hlogin, hrevoked, not_leftOpen_of_crossing presented_accepted hrun hrevoked⟩

/-- A login has registered its session when a host revocation of the client runs from
beginning to end; then the login enters the session table and answers. Both have
succeeded, and the connection of the revoked client is open. -/
theorem revoked_connection_left_open :
    ∃ c, Run (hostMachine Scenario.site)
        (fun _ move => LoginAndRevocation ['A'] ['A'] (Scenario.clientID 'A') Scenario.now move)
        (Config.idle (Scenario.after (Scenario.accepting 'A'))) c ∧
      c.HasSucceeded 0 ∧ c.HasSucceeded 1 ∧
      (c.state.clients.get (Scenario.clientID 'A')).map ClientRecord.status = some .revoked ∧
      LeftOpen ['A'] c := by
  exact Run.exists_of_runMoves
    ([.start 0 (.login ['A'] ['A'])] ++ Scenario.steps 0 4 ++
      [.start 1 (.revokeClientAsHost (Scenario.clientID 'A') Scenario.now)] ++ Scenario.steps 1 9 ++
      Scenario.steps 0 2) (by decide +kernel)

end WarpTweet
