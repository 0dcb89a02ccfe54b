import WarpTweet.Analysis.Walks
import WarpTweet.Analysis.Scenario

/-!
# The statuses of client records

`CanTransition` declares the state machine of a grant, but only the expiry transaction
consults it: the other writers of a client record decide by their own tests. Every write
continues the stored record under the client lock, so the statuses of a client can be
followed write by write.

All of them are transitions of the declared machine but one. A revocation that finds the
record in `expiration_pending` completes it at once, and `expiration_pending` to `revoked`
is not declared. A grant that has ended keeps its status whatever the calls do.
-/

set_option autoImplicit false

namespace WarpTweet

open Strings Concurrency Storage

/-- Every client that is stored in both states moved by a declared transition, if at all. -/
def MovesAlong (s s' : Host) : Prop :=
  ∀ record ∈ s.clients.files, ∀ record' ∈ s'.clients.files,
    record'.clientID = record.clientID →
      ClientStatus.canTransition record.status record'.status = true

instance (s s' : Host) : Decidable (MovesAlong s s') := by
  unfold MovesAlong
  infer_instance

/-- Every client whose grant has ended is still stored with its status. -/
def KeepsEnded (s s' : Host) : Prop :=
  ∀ record ∈ s.clients.files, record.status.Terminal →
    ∃ record' ∈ s'.clients.get record.clientID, record'.status = record.status

/-- If the action completes a revocation, the stored record is not in
`expiration_pending`. -/
def RevokesFromPending (s : Host) (action : Action) : Prop :=
  ∀ written ∈ action.writtenClient, written.status = .revoked →
    ∀ record ∈ s.clients.get written.clientID, record.status ≠ .expirationPending

instance (s : Host) (action : Action) : Decidable (RevokesFromPending s action) := by
  unfold RevokesFromPending
  infer_instance

/-- The calls that write client records: enrollment, rotation, revocation, expiry and the two
reconcilers. -/
def Call.writesClients : Call → Bool
  | .accept _ | .rotate _ _ | .revokeClient _ _ _ | .revokeClientAsHost _ _ | .expireClient _ _
  | .reconcilePendingRevocations _ | .reconcileExpiredClients _ => true
  | _ => false

/-- No revocation is completed on a record in `expiration_pending`. -/
abbrev RevokesDeclared : Pool → HostMove → Prop :=
  OnAction fun c _ action _ => RevokesFromPending c.state action

/-! ## One write -/

section

variable {site : Site} {pid : ℕ} {call : Call} {hist : List HostStep} {action : Action}
  {choice : Choice} {s s' : Host} {record written : ClientRecord}

/-- A write continues the record that is stored, by a declared transition, or completes a
revocation from `expiration_pending`. It never continues an ended grant. -/
theorem ClientWrite.status (h : ClientWrite site pid call hist s written) :
    ∃ old, s.clients.get written.clientID = some old ∧ ¬ old.status.Terminal ∧
      (ClientStatus.canTransition old.status written.status = true ∨
        old.status = .expirationPending ∧ written.status = .revoked) := by
  cases h with
  | activate howns henrolls _ _ _ _ _ =>
    refine ⟨_, howns.stored, ?_, .inl ?_⟩
    · rw [henrolls.pending]
      decide
    · rw [henrolls.pending]
      rfl
  | beginRotation howns _ hstatus _ =>
    refine ⟨_, howns.stored, ?_, .inl ?_⟩
    · rw [hstatus]
      decide
    · rw [hstatus]
      rfl
  | finishRotation howns _ hstatus _ _ _ _ =>
    refine ⟨_, howns.stored, ?_, .inl ?_⟩
    · rw [hstatus]
      decide
    · rw [hstatus]
      rfl
  | beginRevocation howns hstatus =>
    refine ⟨_, howns.stored, ?_, .inl ?_⟩
    · rcases hstatus with hstatus | hstatus <;> rw [hstatus] <;> decide
    · rcases hstatus with hstatus | hstatus <;> rw [hstatus] <;> rfl
  | beginExpiration howns hstatus =>
    refine ⟨_, howns.stored, ?_, .inl ?_⟩
    · rcases hstatus with hstatus | hstatus <;> rw [hstatus] <;> decide
    · rcases hstatus with hstatus | hstatus <;> rw [hstatus] <;> rfl
  | finishRevocation howns hstatus _ _ =>
    refine ⟨_, howns.stored, ?_, ?_⟩
    · rcases hstatus with hstatus | hstatus <;> rw [hstatus] <;> decide
    · exact hstatus.imp (fun hstatus => by rw [hstatus]; rfl) fun hstatus => ⟨hstatus, rfl⟩
  | finishRevocationAsHost howns hstatus _ _ _ =>
    refine ⟨_, howns.stored, ?_, ?_⟩
    · rcases hstatus with hstatus | hstatus <;> rw [hstatus] <;> decide
    · exact hstatus.imp (fun hstatus => by rw [hstatus]; rfl) fun hstatus => ⟨hstatus, rfl⟩
  | finishExpiration howns hstatus _ _ =>
    refine ⟨_, howns.stored, ?_, .inl ?_⟩
    · rw [hstatus]
      decide
    · rw [hstatus]
      rfl

/-- A stored client is stored after every guarded action: as it was, or as a write left it
that continued it. -/
theorem continued_of_guard (hstored : record ∈ s.clients.files)
    (hguard : Guard site pid call hist action choice s) (heffect : Effect pid choice s action s') :
    ∃ record', s'.clients.get record.clientID = some record' ∧
      (record' = record ∨
        record'.clientID = record.clientID ∧ action = .writeClient record' ∧
          ClientWrite site pid call hist s record') := by
  have hget := Directory.get_of_mem_files hstored
  by_cases hkeep : ∀ written, action = .writeClient written → written.clientID ≠ record.clientID
  · exact ⟨record, heffect.get_clients hget hkeep, .inl rfl⟩
  · simp only [not_forall, not_not] at hkeep
    obtain ⟨written, rfl, hid⟩ := hkeep
    rcases heffect.clients with hsame | ⟨_, hstore, -, -⟩ | ⟨_, hwritten, -, hput⟩
    · exact ⟨record, by rw [hsame, hget], .inl rfl⟩
    · cases hstore
    · cases hwritten
      refine ⟨written, ?_, .inr ⟨hid, rfl, hguard⟩⟩
      rw [hput, ← hid]
      exact Directory.get_put_self

theorem canTransition_self (status : ClientStatus) : status.canTransition status = true := by
  unfold ClientStatus.canTransition
  rw [if_pos rfl]

/-- One guarded action moves every client along the declared machine, unless it completes a
revocation from `expiration_pending`. -/
theorem movesAlong_of_guard (hdeclared : RevokesFromPending s action)
    (hguard : Guard site pid call hist action choice s) (heffect : Effect pid choice s action s') :
    MovesAlong s s' := by
  intro record hrecord record' hrecord' hid
  obtain ⟨next, hnext, hcases⟩ := continued_of_guard hrecord hguard heffect
  obtain rfl := Directory.file_unique (Directory.get_of_mem_files hrecord') hnext hid
  rcases hcases with rfl | ⟨-, rfl, hwrite⟩
  · exact canTransition_self _
  · obtain ⟨old, hold, -, hmoves⟩ := hwrite.status
    obtain rfl := Directory.file_unique hold (Directory.get_of_mem_files hrecord) hid
    rcases hmoves with hmoves | ⟨hexpiring, hrevoked⟩
    · exact hmoves
    · refine absurd hexpiring (hdeclared record' rfl hrevoked old ?_)
      rw [hid]
      exact Directory.get_of_mem_files hrecord

theorem keepsEnded_of_guard (hguard : Guard site pid call hist action choice s)
    (heffect : Effect pid choice s action s') (hrecord : record ∈ s.clients.files)
    (hended : record.status.Terminal) : s'.clients.get record.clientID = some record := by
  obtain ⟨next, hnext, hcases⟩ := continued_of_guard hrecord hguard heffect
  rcases hcases with rfl | ⟨hid, -, hwrite⟩
  · exact hnext
  · obtain ⟨old, hold, hunended, -⟩ := hwrite.status
    rw [hid, Directory.get_of_mem_files hrecord, Option.some.injEq] at hold
    exact absurd (hold ▸ hended) hunended

end

/-! ## Runs -/

section

variable {site : Site} {s : Host} {c c' : Pool} {D : Pool → HostMove → Prop}

theorem get_of_ended (hrun : Run (hostMachine site) D (Config.idle s) c)
    (hlater : Run (hostMachine site) D c c') {record : ClientRecord}
    (hrecord : record ∈ c.state.clients.files) (hended : record.status.Terminal) :
    c'.state.clients.get record.clientID = some record := by
  induction hlater with
  | refl => exact Directory.get_of_mem_files hrecord
  | @step c₁ c₂ move hprefix hD hmove ih =>
    have hmem := Directory.mem_files_of_get ih
    have hguarded : PoolGuarded (grantProtocol site) c₁ :=
      (hrun.trans hprefix).poolGuarded (fun _ _ _ _ _ _ => trivial)
        fun {c pid call} _ => (walks_callProgram site pid call [] c.state).guarded
    rcases Config.next_eq_some hmove with
      ⟨pid, call, rfl, hp, rfl⟩ | ⟨pid, process, action, rest, choice, reply, state, rfl, hp,
        hprog, hperform, rfl⟩ | ⟨pid, process, rfl, hp, rfl⟩
    · exact ih
    · exact keepsEnded_of_guard (hguarded.guard hp hprog trivial hperform)
        (effect_of_perform hperform) hmem hended
    · exact ih

/-- **Statuses move along the declared machine.** In every run of the calls of a host, in which
no revocation is completed on a record in `expiration_pending`, every move takes every client
along a declared transition, and a grant that has ended keeps its status. -/
theorem movesAlong_of_revokesDeclared
    (hrun : Run (hostMachine site) RevokesDeclared (Config.idle s) c) :
    (∀ move c', RevokesDeclared c move → c.next (hostMachine site) move = some c' →
      MovesAlong c.state c'.state) ∧
    ∀ c', Run (hostMachine site) RevokesDeclared c c' → KeepsEnded c.state c'.state := by
  refine ⟨fun move c' hdeclared hmove => ?_, fun c' hlater record hrecord hended => ?_⟩
  · have hguarded : PoolGuarded (grantProtocol site) c :=
      hrun.poolGuarded (fun _ _ _ _ _ _ => trivial)
        fun {c pid call} _ => (walks_callProgram site pid call [] c.state).guarded
    have hstays : MovesAlong c.state c.state := by
      intro record hrecord record' hrecord' hid
      rw [Directory.eq_of_key_eq hrecord' hrecord hid]
      exact canTransition_self _
    rcases Config.next_eq_some hmove with
      ⟨pid, call, rfl, hp, rfl⟩ | ⟨pid, process, action, rest, choice, reply, state, rfl, hp,
        hprog, hperform, rfl⟩ | ⟨pid, process, rfl, hp, rfl⟩
    · exact hstays
    · exact movesAlong_of_guard (hdeclared.condition hp hprog)
        (hguarded.guard hp hprog trivial hperform) (effect_of_perform hperform)
    · exact hstays
  · exact ⟨record, get_of_ended hrun hlater hrecord hended, rfl⟩

end

/-- A client is enrolled and expires. The record is then expired for good, and the moves of a
revocation that comes too late change nothing. -/
theorem movesAlong_of_expiry :
    ∃ c, Run (hostMachine Scenario.site) RevokesDeclared (Config.idle Scenario.host) c ∧
      (∃ record ∈ c.state.clients.files, record.status = .expired) ∧
      (∀ move c', RevokesDeclared c move → c.next (hostMachine Scenario.site) move = some c' →
        MovesAlong c.state c'.state) ∧
      ∀ c', Run (hostMachine Scenario.site) RevokesDeclared c c' → KeepsEnded c.state c'.state := by
  refine Run.exists_imp_of_runMoves
    (Scenario.accepting 'A' ++
      [.start 1 (.expireClient (Scenario.clientID 'A') Scenario.later)] ++ Scenario.steps 1 10)
    (fun c => ∃ record ∈ c.state.clients.files, record.status = .expired) (by decide +kernel) ?_
  exact fun c hrun hexpired => ⟨hexpired, movesAlong_of_revokesDeclared hrun⟩

/-- An expiry is cut off after it has written `expiration_pending`, and the host revokes the
client. The record goes to `revoked` at once, which is not a declared transition. -/
theorem revocation_skips_status :
    ∃ c, Run (hostMachine Scenario.site) (Starts fun call => call.writesClients = true)
        (Config.idle Scenario.host) c ∧
      ∃ c' ∈ c.next (hostMachine Scenario.site) (.advance 2 { time := Scenario.now }),
        (∃ record ∈ c.state.clients.files, record.status = .expirationPending ∧
          ∃ record' ∈ c'.state.clients.files, record'.clientID = record.clientID ∧
            record'.status = .revoked) ∧
        ¬ MovesAlong c.state c'.state := by
  exact Run.exists_of_runMoves
    (Scenario.accepting 'A' ++
      [.start 1 (.expireClient (Scenario.clientID 'A') Scenario.later)] ++ Scenario.steps 1 3 ++
      [.stop 1, .start 2 (.revokeClientAsHost (Scenario.clientID 'A') Scenario.later)] ++
      Scenario.steps 2 6) (by decide +kernel)

/-! ## What a change of a record rests on -/

/-- The terms of a grant: whom and what it is for, and until when. -/
def ClientRecord.terms (record : ClientRecord) : ClientRecord :=
  { record with
    publicKey := [], publicKeySHA256 := [], managementTokenSHA256 := [], status := .active
    revokedAt := .empty, expiredAt := .empty, generation := none
    previousPublicKey := [], previousManagementTokenSHA256 := []
    pendingPublicKey := [], pendingManagementTokenSHA256 := [], operationStartedAt := .empty }

/-- What a process has done when a move changes `record` to `record'`. The move is its own, and it
holds the lock of the client. A grant ends when its key was removed, and its sessions are gone or are evicted later; it begins
when its key was authorized; and its key changes when the authorization did. -/
structure Grounds (c : Pool) (move : HostMove) (record record' : ClientRecord) (pid : ℕ)
    (process : HostProcess) : Prop where
  moves : ∃ choice, move = .advance pid choice
  running : c.procs pid = some process
  locked : c.state.locks (.client record.clientID) = some pid
  terms : record'.terms = record.terms
  ends : record'.status.Terminal → Removed record record.publicKey process.hist ∧
    (process.call.defersEviction = true ∨ VerifiedGone record process.hist)
  begins : record.status = .enrollmentPending → ∃ line,
    Did (sinceLock (.invite record.inviteID) process.hist) (.appendKey line) true ∧
      line.blob = authorizedKeyBlob record.publicKey
  rotates : record'.publicKey ≠ record.publicKey → record'.publicKey = record.pendingPublicKey ∧
    ∃ line, Did (recent record.clientID process.hist) (.replaceKey record.publicKey line) true ∧
      line.blob = authorizedKeyBlob record'.publicKey

variable {site : Site} {s : Host} {c c' : Pool} {D : Pool → HostMove → Prop} {move : HostMove}
  {record record' : ClientRecord} {pid : ℕ} {process : HostProcess}

/-- Every kind of write to a record has its grounds. -/
theorem grounds_of_clientWrite {choice : Choice} (hp : c.procs pid = some process)
    (h : ClientWrite site pid process.call process.hist c.state record') :
    ∃ old, c.state.clients.get record'.clientID = some old ∧
      Grounds c (.advance pid choice) old record' pid process := by
  have hmove : ∃ choice', (.advance pid choice : HostMove) = .advance pid choice' := ⟨_, rfl⟩
  have hkept : ∀ {key : Text} {p : Prop}, key ≠ key → p := fun hkey => absurd rfl hkey
  cases h with
  | activate howns _ _ _ _ happended hblob =>
    exact ⟨_, howns.stored, hmove, hp, howns.locked, rfl, by simp [ClientStatus.Terminal],
      fun _ => ⟨_, happended, hblob⟩, hkept⟩
  | beginRotation howns _ hstatus =>
    exact ⟨_, howns.stored, hmove, hp, howns.locked, rfl, by simp [beginRotation, ClientStatus.Terminal],
      by simp [hstatus], hkept⟩
  | finishRotation howns _ hstatus hpending _ hreplaced hblob =>
    exact ⟨_, howns.stored, hmove, hp, howns.locked, rfl, by simp [finishRotation, ClientStatus.Terminal],
      by simp [hstatus], fun _ => ⟨hpending.symm, _, hreplaced, hblob.trans (congrArg _ hpending)⟩⟩
  | beginRevocation howns hstatus | beginExpiration howns hstatus =>
    refine ⟨_, howns.stored, hmove, hp, howns.locked, rfl, ?_, ?_, hkept⟩
    · simp [beginRevocation, beginExpiration, ClientStatus.Terminal]
    · rcases hstatus with h | h <;> simp [h]
  | finishRevocation howns hstatus hremoved hgone =>
    refine ⟨_, howns.stored, hmove, hp, howns.locked, rfl, fun _ => ⟨hremoved, hgone⟩, ?_, hkept⟩
    rcases hstatus with h | h <;> simp [h]
  | finishRevocationAsHost howns hstatus hremoved _ hgone =>
    refine ⟨_, howns.stored, hmove, hp, howns.locked, rfl, fun _ => ⟨hremoved, .inr hgone⟩, ?_, hkept⟩
    rcases hstatus with h | h <;> simp [h]
  | finishExpiration howns hstatus hremoved hgone =>
    exact ⟨_, howns.stored, hmove, hp, howns.locked, rfl, fun _ => ⟨hremoved, .inr hgone⟩,
      by simp [hstatus], hkept⟩

/-- Every move keeps a stored record, or changes it on such grounds. -/
theorem grounds_of_next (hrun : Run (hostMachine site) D (Config.idle s) c)
    (hnext : c.next (hostMachine site) move = some c') (hrecord : record ∈ c.state.clients.files) :
    ∃ record', c'.state.clients.get record.clientID = some record' ∧
      (record' = record ∨ ∃ pid process, Grounds c move record record' pid process) := by
  have hget := Directory.get_of_mem_files hrecord
  have hguarded : PoolGuarded (grantProtocol site) c :=
    hrun.poolGuarded (fun _ _ _ _ _ _ => trivial)
      fun {c pid call} _ => (walks_callProgram site pid call [] c.state).guarded
  rcases Config.next_eq_some hnext with
    ⟨pid, call, rfl, -, rfl⟩ | ⟨pid, process, action, rest, choice, reply, state, rfl, hp, hprog,
      hperform, rfl⟩ | ⟨pid, process, rfl, -, rfl⟩
  · exact ⟨record, hget, .inl rfl⟩
  · obtain ⟨record', hget', hsame | ⟨hid, -, hwrite⟩⟩ := continued_of_guard hrecord
      (hguarded.guard hp hprog trivial hperform) (effect_of_perform hperform)
    · exact ⟨record', hget', .inl hsame⟩
    · obtain ⟨old, hold, hgrounds⟩ := grounds_of_clientWrite hp hwrite
      rw [hid, hget, Option.some.injEq] at hold
      exact ⟨record', hget', .inr ⟨pid, process, hold ▸ hgrounds⟩⟩
  · exact ⟨record, hget, .inl rfl⟩

/-- **Records change on grounds.** In every run, a move that changes the record of a client is one
of the process that holds its lock, and the file was edited before. -/
theorem client_changed_on_grounds (hrun : Run (hostMachine site) D (Config.idle s) c)
    (hnext : c.next (hostMachine site) move = some c') (hrecord : record ∈ c.state.clients.files)
    (hrecord' : record' ∈ c'.state.clients.files) (hid : record'.clientID = record.clientID)
    (hne : record' ≠ record) : ∃ pid process, Grounds c move record record' pid process := by
  obtain ⟨next, hget, hcases⟩ := grounds_of_next hrun hnext hrecord
  rw [← hid, Directory.get_of_mem_files hrecord', Option.some.injEq] at hget
  subst hget
  exact hcases.resolve_left hne

/-- The last write of an expiry has its grounds. -/
theorem expired_on_grounds :
    ∃ c c' : Pool, ∃ record ∈ c.state.clients.files, ∃ record' ∈ c'.state.clients.files,
      record'.status = .expired ∧ ∃ pid process, Grounds c (.advance 1 { time := Scenario.now }) record record'
        pid process := by
  obtain ⟨c, hrun, c', hnext, record, hrecord, record', hrecord', hid, hended, hne⟩ :=
    Run.exists_of_runMoves (M := hostMachine Scenario.site) (D := fun _ _ => True)
      (c := Config.idle Scenario.host)
      (p := fun c => ∃ c' ∈ c.next (hostMachine Scenario.site) (.advance 1 { time := Scenario.now }),
        ∃ record ∈ c.state.clients.files, ∃ record' ∈ c'.state.clients.files,
          record'.clientID = record.clientID ∧ record'.status = .expired ∧ record' ≠ record)
      (Scenario.accepting 'A' ++
        [.start 1 (.expireClient (Scenario.clientID 'A') Scenario.later)] ++ Scenario.steps 1 8)
      (by decide +kernel)
  exact ⟨c, c', record, hrecord, record', hrecord', hended,
    client_changed_on_grounds hrun hnext hrecord hrecord' hid hne⟩

/-- **The terms of a grant never change.** Over every further run a stored client stays stored on
the same terms, and a grant that has ended stays as it is. -/
theorem terms_of_grant_never_change (hrun : Run (hostMachine site) D (Config.idle s) c)
    (hlater : Run (hostMachine site) D c c') (hrecord : record ∈ c.state.clients.files) :
    ∃ record', c'.state.clients.get record.clientID = some record' ∧
      record'.terms = record.terms ∧ (record.status.Terminal → record' = record) := by
  obtain ⟨last, hlast, hterms⟩ : ∃ last, c'.state.clients.get record.clientID = some last ∧
      last.terms = record.terms := by
    refine hlater.induct (I := fun c' => ∃ last, c'.state.clients.get record.clientID = some last ∧
      last.terms = record.terms) ⟨record, Directory.get_of_mem_files hrecord, rfl⟩ ?_
    rintro c₁ c₂ move hbefore ⟨middle, hget, hterms⟩ _ hnext
    obtain ⟨next, hget', hcases⟩ :=
      grounds_of_next (hrun.trans hbefore) hnext (Directory.mem_files_of_get hget)
    rw [Directory.key_of_get hget] at hget'
    rcases hcases with rfl | ⟨pid, process, hgrounds⟩
    · exact ⟨_, hget', hterms⟩
    · exact ⟨next, hget', hgrounds.terms.trans hterms⟩
  refine ⟨last, hlast, hterms, fun hended => ?_⟩
  rw [get_of_ended hrun hlater hrecord hended, Option.some.injEq] at hlast
  exact hlast.symm

/-- A client is enrolled and expires. -/
theorem terms_kept_of_expiry :
    ∃ c, Run (hostMachine Scenario.site) (fun _ _ => True) (Config.idle Scenario.host) c ∧
      (∃ record ∈ c.state.clients.files, record.status = .expired) ∧
      ∀ c', Run (hostMachine Scenario.site) (fun _ _ => True) c c' →
        ∀ record ∈ c.state.clients.files, ∃ record',
          c'.state.clients.get record.clientID = some record' ∧
            record'.terms = record.terms ∧ (record.status.Terminal → record' = record) := by
  refine Run.exists_imp_of_runMoves (Scenario.accepting 'A' ++
    [.start 1 (.expireClient (Scenario.clientID 'A') Scenario.later)] ++ Scenario.steps 1 10)
    (fun c => ∃ record ∈ c.state.clients.files, record.status = .expired) (by decide +kernel) ?_
  exact fun c hrun hexpired => ⟨hexpired, fun c' hlater record hrecord =>
    terms_of_grant_never_change hrun hlater hrecord⟩

end WarpTweet
