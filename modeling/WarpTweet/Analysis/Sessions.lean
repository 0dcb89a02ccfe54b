import WarpTweet.Analysis.Evidence

/-!
# Sessions

What the actions of the host do to the session records: a login registers a session
for the one live record with the presented key, and everything else only removes
records. A process that works on a client record and has verified that the sessions of
the client are gone can rely on it until the record is live again.
-/

namespace WarpTweet

open Strings Concurrency Storage

def Action.terminates : Action → Bool
  | .terminate _ _ _ => true
  | _ => false

/-! ## Effects on the session records -/

variable {env : Env} {pid : ℕ} {choice : Choice} {s s' : Host} {action : Action}
  {connectionID keyDigest : Text} {action : Action} {reply : action.Reply}
  {failing : List Text}

section

variable {session : Session} {selected : Session → Bool} {alive : List Text}
  {sessions : List Session}

/-- The session was registered for `record`, found by the digest of the presented key. -/
structure RegisteredFor (env : Env) (time : Time) (connectionID keyDigest : Text) (s : Host)
    (session : Session) (record : ClientRecord) : Prop where
  found : matchingGrant env time keyDigest s.clients.files = .ok record
  clientID : session.clientID = record.clientID
  publicKeySHA256 : session.publicKeySHA256 = record.publicKeySHA256
  keyBlobSHA256 : session.keyBlobSHA256 = keyDigest
  connectionID : session.connectionID = connectionID
  dataPlane : session.dataPlane = true

theorem RegisteredFor.stored {time : Time} {record : ClientRecord}
    (h : RegisteredFor env time connectionID keyDigest s session record) :
    s.clients.get session.clientID = some record ∧ Live record := by
  obtain ⟨hfilter, hcheck⟩ := matchingGrant_eq_ok.1 h.found
  have hmem : record ∈ s.clients.files.filter (presents env keyDigest) := by
    rw [hfilter]
    exact List.mem_cons_self
  rw [h.clientID]
  exact ⟨Directory.get_of_mem_files (List.mem_filter.1 hmem).1, status_of_checkGrant hcheck⟩

theorem mem_sessions_registerSession
    (h : session ∈ (registerSession env connectionID keyDigest choice s).2.sessions) :
    session ∈ s.sessions ∨
      ∃ record, RegisteredFor env choice.time connectionID keyDigest s session record := by
  unfold registerSession at h
  cases hfound : matchingGrant env choice.time keyDigest s.clients.files with
  | error err =>
    simp only [hfound] at h
    exact .inl h
  | ok record =>
    simp only [hfound] at h
    cases hstamp : Stamp.formatUTC choice.time with
    | error err =>
      simp only [hstamp] at h
      exact .inl h
    | ok registeredAt =>
      simp only [hstamp] at h
      split_ifs at h
      · exact .inl h
      · cases houtcome : choice.outcome with
        | lost =>
          simp only [houtcome] at h
          exact .inl h
        | ok | torn =>
          simp only [houtcome, List.mem_append, List.mem_filter, List.mem_singleton] at h
          rcases h with ⟨hold, -⟩ | rfl
          · exact .inl hold
          · exact .inr ⟨record, hfound, rfl, rfl, rfl, rfl, rfl⟩

theorem registered_of_registerSession
    (h : registerSession env connectionID keyDigest choice s = (.ok (), s')) :
    ∃ session ∈ s'.sessions, ∃ record,
      RegisteredFor env choice.time connectionID keyDigest s session record := by
  unfold registerSession at h
  cases hfound : matchingGrant env choice.time keyDigest s.clients.files with
  | error err => simp [hfound] at h
  | ok record =>
    simp only [hfound] at h
    cases hstamp : Stamp.formatUTC choice.time with
    | error err => simp [hstamp] at h
    | ok registeredAt =>
      simp only [hstamp] at h
      split_ifs at h
      · simp at h
      · cases houtcome : choice.outcome with
        | lost | torn => simp [houtcome] at h
        | ok =>
          simp only [houtcome, Prod.mk.injEq, true_and] at h
          subst h
          exact ⟨_, List.mem_append_right _ List.mem_cons_self,
            record, hfound, rfl, rfl, rfl, rfl, rfl⟩

theorem mem_verifySessionsGone (h : session ∈ (verifySessionsGone selected alive sessions).2) :
    session ∈ sessions := by
  induction sessions with
  | nil => exact h
  | cons first rest ih =>
    unfold verifySessionsGone at h
    split_ifs at h with hselected hdata halive
    · exact h
    · exact h
    · exact List.mem_cons_of_mem _ (ih h)
    · rcases List.mem_cons.1 h with rfl | hrest
      · exact List.mem_cons_self
      · exact List.mem_cons_of_mem _ (ih hrest)

theorem not_selected_of_verifySessionsGone (hok : (verifySessionsGone selected alive sessions).1 = .ok ())
    (h : session ∈ (verifySessionsGone selected alive sessions).2) : selected session = false := by
  induction sessions with
  | nil => cases h
  | cons first rest ih =>
    unfold verifySessionsGone at h hok
    split_ifs at h hok with hselected hdata halive
    · exact ih hok h
    · rcases List.mem_cons.1 h with rfl | hrest
      · exact Bool.eq_false_iff.2 hselected
      · exact ih hok hrest

theorem mem_terminateSessions (h : session ∈ (terminateSessions selected failing s).2.sessions) :
    session ∈ s.sessions ∧ (selected session = true → session.dataPlane = true →
      session.connectionID ∈ failing) := by
  simp only [terminateSessions, List.mem_filter, Bool.not_eq_true', Bool.and_eq_false_iff] at h
  refine ⟨h.1, fun hselected hdata => ?_⟩
  rcases h.2 with (hne | hne) | hfailing
  · rw [hselected] at hne
    cases hne
  · rw [hdata] at hne
    cases hne
  · simpa using hfailing

theorem mem_sessions_of_perform
    (hperform : performAction env pid action choice s = some (reply, s'))
    (h : session ∈ s'.sessions) : session ∈ s.sessions ∨ ∃ connectionID keyDigest record,
      action = .register connectionID keyDigest ∧
        RegisteredFor env choice.time connectionID keyDigest s session record := by
  cases action with
  | register connectionID keyDigest =>
    simp only [performAction, Option.some.injEq] at hperform
    have hs' : _ = s' := congrArg Prod.snd hperform
    rw [← hs'] at h
    rcases mem_sessions_registerSession h with hold | ⟨record, hregistered⟩
    · exact .inl hold
    · exact .inr ⟨connectionID, keyDigest, record, rfl, hregistered⟩
  | terminate | terminateAll =>
    left
    simp only [performAction] at hperform
    split_ifs at hperform
    · simp only [Option.some.injEq] at hperform
      have hs' : _ = s' := congrArg Prod.snd hperform
      rw [← hs'] at h
      exact (mem_terminateSessions h).1
    · cases hperform
      exact h
  | verifyGone =>
    left
    simp only [performAction] at hperform
    split_ifs at hperform
    · cases hperform
      exact mem_verifySessionsGone h
    · cases hperform
      exact h
  | unregister =>
    left
    cases hperform
    split_ifs at h
    · exact (List.mem_filter.1 h).1
    · exact h
  | lock | storeClient =>
    left
    simp only [performAction] at hperform
    repeat' split at hperform
    all_goals cases hperform
    all_goals exact h
  | appendKey | replaceKey | removeKey | writeKeys =>
    left
    simp only [performAction] at hperform
    obtain ⟨-, -, rfl⟩ := editKeys_eq_some hperform
    split_ifs at h
    · exact h
    · exact h
  | writeInvite | writeClient | writeObservation | writeBlocked | clearBlocked =>
    left
    cases hperform
    split_ifs at h
    · exact h
    · exact h
  | answer =>
    left
    simp only [performAction] at hperform
    split_ifs at hperform
    · cases hperform
      exact h
    · cases hperform
      exact h
  | _ =>
    left
    cases hperform
    exact h

/-- The action may remove records of data-plane sessions. -/
def Action.endsSessions : Action → Bool
  | .terminate _ _ _ | .terminateAll | .register _ _ | .unregister _ => true
  | _ => false

theorem mem_verifySessionsGone_of_dataPlane (hdata : session.dataPlane = true) (h : session ∈ sessions) :
    session ∈ (verifySessionsGone selected alive sessions).2 := by
  induction sessions with
  | nil => cases h
  | cons first rest ih =>
    unfold verifySessionsGone
    split_ifs with hselected hfirst halive
    · exact h
    · exact h
    · rcases List.mem_cons.1 h with rfl | hrest
      · exact absurd hdata hfirst
      · exact ih hrest
    · rcases List.mem_cons.1 h with rfl | hrest
      · exact List.mem_cons_self
      · exact List.mem_cons_of_mem _ (ih hrest)

theorem mem_sessions_of_endsSessions
    (hperform : performAction env pid action choice s = some (reply, s'))
    (haction : action.endsSessions = false) (hdata : session.dataPlane = true)
    (h : session ∈ s.sessions) : session ∈ s'.sessions := by
  cases action with
  | register | terminate | terminateAll | unregister => cases haction
  | verifyGone =>
    simp only [performAction] at hperform
    split_ifs at hperform
    · cases hperform
      exact mem_verifySessionsGone_of_dataPlane hdata h
    · cases hperform
      exact h
  | lock | storeClient =>
    simp only [performAction] at hperform
    repeat' split at hperform
    all_goals cases hperform
    all_goals exact h
  | appendKey | replaceKey | removeKey | writeKeys =>
    simp only [performAction] at hperform
    obtain ⟨-, -, rfl⟩ := editKeys_eq_some hperform
    split_ifs
    · exact h
    · exact h
  | writeInvite | writeClient | writeObservation | writeBlocked | clearBlocked =>
    cases hperform
    split_ifs
    · exact h
    · exact h
  | answer =>
    simp only [performAction] at hperform
    split_ifs at hperform
    · cases hperform
      exact h
    · cases hperform
      exact h
  | _ =>
    cases hperform
    exact h

end

/-! ## Effects on the connections -/

section

variable {connection : Connection}

theorem connections_registerSession :
    (registerSession env connectionID keyDigest choice s).2.connections = s.connections := by
  unfold registerSession
  repeat' split
  all_goals rfl

/-- The connection is as it was, or nearer to its end: it is not reopened, and success was
answered by the action at most. -/
structure Follows (action : Action) (old connection : Connection) : Prop where
  id : connection.id = old.id
  keyDigest : connection.keyDigest = old.keyDigest
  isOpen : connection.isOpen = true → old.isOpen = true
  answered : connection.answered = true → old.answered = true ∨ action = .answer old.id

theorem Follows.refl : Follows action connection connection :=
  ⟨rfl, rfl, fun h => h, .inl⟩

theorem mem_dropConnections {digests : List Text} {connections : List Connection}
    (h : connection ∈ dropConnections digests connections) :
    ∃ old ∈ connections, Follows action old connection ∧
      (old.tracked = true → old.keyDigest ∈ digests → connection.isOpen = false) := by
  obtain ⟨old, hold, rfl⟩ := List.mem_map.1 h
  refine ⟨old, hold, ?_⟩
  split_ifs with hdrop
  · exact ⟨⟨rfl, rfl, fun hopen => Bool.noConfusion hopen, .inl⟩, fun _ _ => rfl⟩
  · refine ⟨.refl, fun htracked hdigest => ?_⟩
    simp [htracked, hdigest] at hdrop

/-- A session that a termination ends was a reason to close the tracked connections of its
key. -/
theorem closed_of_terminateSessions {selected : Session → Bool}
    {session : Session} (action : Action) (hsession : session ∈ s.sessions)
    (hended : session ∉ (terminateSessions selected failing s).2.sessions)
    (h : connection ∈ (terminateSessions selected failing s).2.connections) :
    ∃ old ∈ s.connections, Follows action old connection ∧
      (old.tracked = true → old.keyDigest = session.keyBlobSHA256 → connection.isOpen = false) := by
  obtain ⟨old, hold, hfollows, hclosed⟩ := mem_dropConnections h
  refine ⟨old, hold, hfollows, fun htracked hdigest => hclosed htracked ?_⟩
  rw [hdigest]
  refine List.mem_map.2 ⟨session, List.mem_filter.2 ⟨hsession, ?_⟩, rfl⟩
  by_contra hkept
  refine hended (List.mem_filter.2 ⟨hsession, ?_⟩)
  rw [Bool.not_eq_true', Bool.eq_false_iff]
  exact hkept

theorem mem_changeConnection {change : Connection → Connection}
    (h : connection ∈ (changeConnection connectionID change s).connections) : ∃ old ∈ s.connections,
      connection = if old.id = connectionID then change old else old := by
  obtain ⟨old, hold, heq⟩ := List.mem_map.1 h
  exact ⟨old, hold, heq.symm⟩

theorem mem_connections_of_perform
    (hperform : performAction env pid action choice s = some (reply, s'))
    (h : connection ∈ s'.connections) : (∃ old ∈ s.connections, Follows action old connection) ∨
      action = .authenticate connection.id connection.keyDigest ∧ connection.answered = false := by
  cases action with
  | authenticate connectionID keyDigest =>
    cases hperform
    rcases List.mem_append.1 h with hold | hnew
    · exact .inl ⟨connection, hold, .refl⟩
    · cases List.mem_singleton.1 hnew
      exact .inr ⟨rfl, rfl⟩
  | terminate | terminateAll =>
    left
    simp only [performAction] at hperform
    split_ifs at hperform
    · simp only [Option.some.injEq] at hperform
      have hs' : _ = s' := congrArg Prod.snd hperform
      rw [← hs'] at h
      obtain ⟨old, hold, hfollows, -⟩ := mem_dropConnections h
      exact ⟨old, hold, hfollows⟩
    · cases hperform
      exact ⟨connection, h, .refl⟩
  | track | disconnect =>
    left
    cases hperform
    obtain ⟨old, hold, rfl⟩ := mem_changeConnection h
    refine ⟨old, hold, ?_⟩
    split_ifs
    · exact ⟨rfl, rfl, fun hopen => by simp_all, .inl⟩
    · exact .refl
  | answer connectionID =>
    left
    simp only [performAction] at hperform
    split_ifs at hperform
    · cases hperform
      obtain ⟨old, hold, rfl⟩ := mem_changeConnection h
      refine ⟨old, hold, ?_⟩
      split_ifs with hid
      · exact ⟨rfl, rfl, fun hopen => hopen, fun _ => .inr (by rw [hid])⟩
      · exact .refl
    · cases hperform
      exact ⟨connection, h, .refl⟩
  | register connectionID keyDigest =>
    left
    simp only [performAction, Option.some.injEq] at hperform
    have hs' : _ = s' := congrArg Prod.snd hperform
    rw [← hs', connections_registerSession] at h
    exact ⟨connection, h, .refl⟩
  | lock | storeClient =>
    left
    simp only [performAction] at hperform
    repeat' split at hperform
    all_goals cases hperform
    all_goals exact ⟨connection, h, .refl⟩
  | appendKey | replaceKey | removeKey | writeKeys =>
    left
    simp only [performAction] at hperform
    obtain ⟨-, -, rfl⟩ := editKeys_eq_some hperform
    split_ifs at h
    · exact ⟨connection, h, .refl⟩
    · exact ⟨connection, h, .refl⟩
  | writeInvite | writeClient | writeObservation | writeBlocked | clearBlocked | unregister =>
    left
    cases hperform
    split_ifs at h
    · exact ⟨connection, h, .refl⟩
    · exact ⟨connection, h, .refl⟩
  | verifyGone =>
    left
    simp only [performAction] at hperform
    split_ifs at hperform
    · cases hperform
      exact ⟨connection, h, .refl⟩
    · cases hperform
      exact ⟨connection, h, .refl⟩
  | _ =>
    left
    cases hperform
    exact ⟨connection, h, .refl⟩

end

/-! ## Verified to be gone -/

/-- If the process has verified that the sessions of the client are gone since it settled
the record, a session of the client means that the record is live. -/
def KnowsGone (clientID : Text) (hist : List HostStep) (s : Host) : Prop :=
  Did (recent clientID hist) (.verifyGone clientID none []) (.ok ()) →
    ∀ session ∈ s.sessions, session.clientID = clientID →
      ∃ record, s.clients.get clientID = some record ∧ Live record

/-- What the processes that work on a record have verified is still so. -/
def GoneKnown (c : Pool) : Prop :=
  c.Each fun pid _ hist s => ∀ clientID, Held pid clientID hist s → KnowsGone clientID hist s

variable {site : Site} {call : Call} {hist : List HostStep} {reply : action.Reply} {clientID : Text}

theorem KnowsGone.of_perform (h : KnowsGone clientID hist s)
    (hkeep : ∀ record, s.clients.get clientID = some record →
      s'.clients.get clientID = some record)
    (hperform : performAction site.env pid action choice s = some (reply, s')) :
    KnowsGone clientID hist s' := by
  intro hverified session hsession hid
  rcases mem_sessions_of_perform hperform hsession with
    hold | ⟨connectionID, keyDigest, record, -, hregistered⟩
  · obtain ⟨record, hget, hlive⟩ := h hverified session hold hid
    exact ⟨record, hkeep record hget, hlive⟩
  · obtain ⟨hget, hlive⟩ := hregistered.stored
    rw [hid] at hget
    exact ⟨record, hkeep record hget, hlive⟩

theorem not_mem_sessions_of_verifyGone
    (hperform : performAction site.env pid (.verifyGone clientID none []) choice s =
      some (.ok (), s')) : ∀ session ∈ s'.sessions, session.clientID ≠ clientID := by
  intro session hsession hid
  simp only [performAction] at hperform
  split_ifs at hperform
  · simp only [Option.some.injEq, Prod.mk.injEq] at hperform
    obtain ⟨hok, rfl⟩ := hperform
    have hselected := not_selected_of_verifySessionsGone hok hsession
    simp [matchGrantSessions, hid] at hselected
  · cases hperform

theorem KnowsGone.step (h : Held pid clientID hist s → KnowsGone clientID hist s)
    (hperform : performAction site.env pid action choice s = some (reply, s'))
    (hheld : Held pid clientID (⟨action, choice, reply⟩ :: hist) s') :
    KnowsGone clientID (⟨action, choice, reply⟩ :: hist) s' := by
  have heffect := effect_of_perform hperform
  cases hsettles : action.settles clientID with
  | true =>
    rintro ⟨_, hmem⟩
    simp [recent, since_cons, hsettles] at hmem
  | false =>
    have hbefore := hheld.before hsettles heffect
    have hkeep : ∀ record, s.clients.get clientID = some record →
        s'.clients.get clientID = some record := fun record hget =>
      heffect.get_clients hget fun written haction => by
        subst haction
        simpa [Action.settles] using hsettles
    have hold := (h hbefore).of_perform hkeep hperform
    rintro ⟨choice', hmem⟩ session hsession hid
    simp only [recent, since_cons, hsettles, Bool.false_eq_true, if_false, List.mem_cons] at hmem
    rcases hmem with heq | hmem
    · cases heq
      exact absurd hid (not_mem_sessions_of_verifyGone hperform session hsession)
    · exact hold ⟨choice', hmem⟩ session hsession hid

/-- In every run of the host, sessions that were verified to be gone stay gone while the
record is worked on and not live. -/
theorem goneKnown_of_run {D : Pool → HostMove → Prop} {c : Pool}
    (hrun : Run (hostMachine site) D (Config.idle s) c) : GoneKnown c := by
  refine run_invariant (I := GoneKnown) hrun .idle ?_ ?_ ?_
  · intro c pid call _ h _ _
    exact h.started fun clientID hheld => by simpa [lastClient] using hheld.current
  · intro c pid process action rest choice reply state _ h _ hp _ hguard hperform _
    have heffect := effect_of_perform hperform
    refine h.advanced hp ?_ ?_
    · intro hself clientID hheld
      exact KnowsGone.step (hself clientID) hperform hheld
    · intro pid' hne _ hist' hother clientID hheld
      have hbefore := hheld.others heffect hne
      exact (hother clientID hbefore).of_perform (fun _ => hbefore.get_of_guard hguard heffect hne)
        hperform
  · intro c pid process _ h _ _
    refine h.stopped fun pid' hne _ hist hother clientID hheld => ?_
    exact hother clientID hheld.of_releaseLocks

end WarpTweet
