import WarpTweet.Analysis.Walks
import WarpTweet.Analysis.Scenario

/-!
# One client and the others

The authorization file is edited by key, and a login is matched to a grant by the digest
of its key. Both go wrong for a client as soon as another record holds the same key: the
lookup finds two records, and a revocation of the one removes the line of the other.
Neither enrollment nor rotation looks for the requested key in the other records.

If no request names a key of another client, no step that acts for one client disturbs
another.
-/

namespace WarpTweet

open Strings Concurrency Storage

/-! ## Keys -/

/-- The two keys are the same to the edits of the authorization file, or to the lookup of
a login. -/
def sameKey (env : Env) (publicKey other : Text) : Bool :=
  (!(authorizedKeyBlob publicKey).isEmpty &&
      decide (authorizedKeyBlob publicKey = authorizedKeyBlob other)) ||
    match keyBlobDigest env publicKey, keyBlobDigest env other with
    | .ok digest, .ok digest' => decide (digest = digest')
    | _, _ => false

variable {env : Env} {site : Site} {pid : ℕ} {call : Call} {hist : List HostStep} {action : Action}
  {choice : Choice} {s s' : Host} {record : ClientRecord}

section

variable {publicKey other digest : Text}

theorem sameKey_comm : sameKey env publicKey other = sameKey env other publicKey := by
  unfold sameKey
  congr 1
  · by_cases heq : authorizedKeyBlob publicKey = authorizedKeyBlob other
    · rw [heq]
    · have heq' : ¬ authorizedKeyBlob other = authorizedKeyBlob publicKey := fun h => heq h.symm
      simp [heq, heq']
  · cases keyBlobDigest env publicKey <;> cases keyBlobDigest env other <;> simp [eq_comm]

theorem sameKey_nil : sameKey env [] publicKey = false := rfl

theorem blob_ne_of_sameKey (h : sameKey env publicKey other = false) :
    authorizedKeyBlob publicKey = [] ∨ authorizedKeyBlob other ≠ authorizedKeyBlob publicKey := by
  simp only [sameKey, Bool.or_eq_false_iff, Bool.and_eq_false_iff, Bool.not_eq_false',
    List.isEmpty_iff, decide_eq_false_iff_not] at h
  exact h.1.imp_right fun hne heq => hne heq.symm

theorem presents_of_sameKey {record : ClientRecord}
    (h : sameKey env publicKey record.publicKey = false)
    (hdigest : keyBlobDigest env publicKey = .ok digest) : presents env digest record = false := by
  simp only [sameKey, hdigest, Bool.or_eq_false_iff] at h
  unfold presents
  cases hother : keyBlobDigest env record.publicKey with
  | error err => rfl
  | ok digest' =>
    simp only [hother, decide_eq_false_iff_not] at h
    exact decide_eq_false fun heq => h.2 heq.symm

end

/-- No two clients hold the same key, be it their public, previous or pending one. -/
def DistinctKeys (env : Env) (s : Host) : Prop :=
  ∀ record ∈ s.clients.files, ∀ other ∈ s.clients.files, record.clientID ≠ other.clientID →
    ∀ publicKey ∈ record.keys, ∀ publicKey' ∈ other.keys, sameKey env publicKey publicKey' = false

/-- The client and the requested key that an action records: of an enrollment that stores
its record, and of a rotation that begins. -/
def Action.namedKey : Action → Option (Text × Text)
  | .storeClient record => some (record.clientID, record.publicKey)
  | .writeClient record =>
    if record.status = .rotationPending then some (record.clientID, record.pendingPublicKey)
    else none
  | _ => none

/-- A requested key that is recorded is no key of another client. -/
def NamesFreshKey (env : Env) (s : Host) (action : Action) : Prop :=
  ∀ named ∈ action.namedKey, ∀ other ∈ s.clients.files, other.clientID ≠ named.1 →
    ∀ publicKey ∈ other.keys, sameKey env named.2 publicKey = false

instance (env : Env) (s : Host) (action : Action) : Decidable (NamesFreshKey env s action) := by
  unfold NamesFreshKey
  infer_instance

/-- No request names a key of another client. -/
abbrev FreshKeys (env : Env) : Pool → HostMove → Prop :=
  OnAction fun c _ action _ => NamesFreshKey env c.state action

/-- The keys stay apart when a record is written whose keys are apart from the others. -/
theorem DistinctKeys.put {env : Env} (h : DistinctKeys env s)
    (hnew : ∀ other ∈ s.clients.files, other.clientID ≠ record.clientID →
      ∀ publicKey ∈ record.keys, ∀ publicKey' ∈ other.keys,
        sameKey env publicKey publicKey' = false)
    (hs' : s'.clients = s.clients.put record) : DistinctKeys env s' := by
  intro first hfirst second hsecond hne publicKey hkey publicKey' hkey'
  rw [hs', Directory.mem_files_put] at hfirst hsecond
  rcases hfirst with rfl | ⟨hfirst, -⟩
  · rcases hsecond with rfl | ⟨hsecond, hid⟩
    · exact absurd rfl hne
    · exact hnew second hsecond hid publicKey hkey publicKey' hkey'
  · rcases hsecond with rfl | ⟨hsecond, -⟩
    · rw [sameKey_comm]
      exact hnew first hfirst hne publicKey' hkey' publicKey hkey
    · exact h first hfirst second hsecond hne publicKey hkey publicKey' hkey'

theorem DistinctKeys.step (h : DistinctKeys site.env s) (hfresh : NamesFreshKey site.env s action)
    (hguard : Guard site pid call hist action choice s) (heffect : Effect pid choice s action s') :
    DistinctKeys site.env s' := by
  rcases heffect.clients with hsame | ⟨stored, rfl, -, hput⟩ | ⟨written, rfl, -, hput⟩
  · intro first hfirst second hsecond
    rw [hsame] at hfirst hsecond
    exact h first hfirst second hsecond
  · refine h.put (fun other hother hid publicKey hkey publicKey' hkey' => ?_) hput
    have hstores : StoresClient site pid call s stored := hguard
    obtain ⟨request, invite, published, now, notAfter, -, -, -, rfl⟩ := hstores.wanted
    simp only [ClientRecord.keys, List.mem_cons, List.not_mem_nil, or_false] at hkey
    rcases hkey with rfl | rfl | rfl
    · exact hfresh _ rfl other hother hid publicKey' hkey'
    · exact sameKey_nil
    · exact sameKey_nil
  · refine h.put (fun other hother hid publicKey hkey publicKey' hkey' => ?_) hput
    obtain ⟨old, hold, hkeys⟩ := ClientWrite.keys hguard
    rcases hkeys publicKey hkey with hkept | rfl | ⟨hstatus, rfl⟩
    · have hid' : old.clientID ≠ other.clientID := by
        rw [Directory.key_of_get hold]
        exact hid.symm
      exact h old (Directory.mem_files_of_get hold) other hother hid' publicKey hkept publicKey' hkey'
    · exact sameKey_nil
    · refine hfresh (written.clientID, written.pendingPublicKey) ?_ other hother hid publicKey' hkey'
      simp [Action.namedKey, hstatus]

/-! ## Undisturbed clients -/

/-- The client whose record an action writes, or whose lock the process took last. -/
def Action.subject (hist : List HostStep) : Action → Option Text
  | .storeClient record | .writeClient record => some record.clientID
  | _ => lastClient hist

/-- The action writes the whole authorization file. -/
def Action.rewrites : Action → Bool
  | .writeKeys _ => true
  | _ => false

/-- The step acts for the client. Writing the whole authorization file acts for every
client. -/
def ActsFor (clientID : Text) (c : Pool) : HostMove → Prop
  | .advance pid _ => ∃ next ∈ c.upcoming pid,
      next.2.rewrites = true ∨ next.2.subject next.1.hist = some clientID
  | _ => False

instance (clientID : Text) (c : Pool) (move : HostMove) : Decidable (ActsFor clientID c move) :=
  match move with
  | .advance pid _ => inferInstanceAs (Decidable (∃ next ∈ c.upcoming pid,
      next.2.rewrites = true ∨ next.2.subject next.1.hist = some clientID))
  | .start _ _ | .stop _ => .isFalse id

/-- Nothing has changed for the client: its record is stored, its lines are still in the
authorization file, and looking up its key finds what it found before, at any time. -/
structure Undisturbed (env : Env) (record : ClientRecord) (s s' : Host) : Prop where
  stored : s'.clients.get record.clientID = some record
  authorized : ∀ line ∈ s.authorizedKeys, line.blob = authorizedKeyBlob record.publicKey →
    line ∈ s'.authorizedKeys
  found : ∀ digest, keyBlobDigest env record.publicKey = .ok digest → ∀ now,
    matchingGrant env now digest s'.clients.files = matchingGrant env now digest s.clients.files

variable {digest : Text}

section

variable {s'' : Host}

theorem Undisturbed.refl (h : record ∈ s.clients.files) : Undisturbed env record s s :=
  ⟨Directory.get_of_mem_files h, fun _ hline _ => hline, fun _ _ _ => rfl⟩

theorem Undisturbed.trans (h : Undisturbed env record s s')
    (h' : Undisturbed env record s' s'') : Undisturbed env record s s'' where
  stored := h'.stored
  authorized line hline hkey := h'.authorized line (h.authorized line hline hkey) hkey
  found digest hdigest now := (h'.found digest hdigest now).trans (h.found digest hdigest now)

/-- While keys are apart, the lookup of a key sees the record that holds it, and no
other. -/
theorem filter_presents_of_distinctKeys (h : DistinctKeys env s)
    (hrecord : record ∈ s.clients.files)
    (hdigest : keyBlobDigest env record.publicKey = .ok digest) :
    s.clients.files.filter (presents env digest) = [record] := by
  have hself : presents env digest record = true := by
    simp [presents, hdigest]
  have hmem : record ∈ s.clients.files.filter (presents env digest) :=
    List.mem_filter.2 ⟨hrecord, hself⟩
  have honly : ∀ other ∈ s.clients.files.filter (presents env digest), other = record := by
    intro other hother
    obtain ⟨hother, hpresents⟩ := List.mem_filter.1 hother
    by_cases hid : record.clientID = other.clientID
    · exact Directory.eq_of_key_eq hother hrecord hid.symm
    · have hapart := h record hrecord other hother hid record.publicKey (by simp [ClientRecord.keys])
        other.publicKey (by simp [ClientRecord.keys])
      rw [presents_of_sameKey hapart hdigest] at hpresents
      cases hpresents
  have hnodup : (s.clients.files.filter (presents env digest)).Nodup :=
    s.clients.nodup.of_map.filter _
  rw [List.eq_replicate_of_mem honly] at hnodup hmem ⊢
  have hlength := List.nodup_replicate.1 hnodup
  have hpos : (s.clients.files.filter (presents env digest)).length ≠ 0 := by
    intro hzero
    rw [hzero] at hmem
    cases hmem
  rw [show (s.clients.files.filter (presents env digest)).length = 1 by omega]
  rfl

theorem matchingGrant_of_distinctKeys (h : DistinctKeys env s) (h' : DistinctKeys env s')
    (hrecord : record ∈ s.clients.files) (hrecord' : record ∈ s'.clients.files)
    (hdigest : keyBlobDigest env record.publicKey = .ok digest) {now : Time} :
    matchingGrant env now digest s'.clients.files =
      matchingGrant env now digest s.clients.files := by
  unfold matchingGrant
  rw [filter_presents_of_distinctKeys h hrecord hdigest,
    filter_presents_of_distinctKeys h' hrecord' hdigest]

theorem stored_of_subject (hrecord : record ∈ s.clients.files)
    (hother : action.subject hist ≠ some record.clientID)
    (heffect : Effect pid choice s action s') : record ∈ s'.clients.files := by
  refine Directory.mem_files_of_get
    (heffect.get_clients (Directory.get_of_mem_files hrecord) fun written haction => ?_)
  subst haction
  intro hid
  exact hother (congrArg some hid)

theorem line_of_subject (h : DistinctKeys site.env s) (hrecord : record ∈ s.clients.files)
    (hother : action.subject hist ≠ some record.clientID) (hrewrites : action.rewrites = false)
    (hguard : Guard site pid call hist action choice s) (heffect : Effect pid choice s action s')
    {line : AuthorizedLine} (hline : line ∈ s.authorizedKeys)
    (hkey : line.blob = authorizedKeyBlob record.publicKey) : line ∈ s'.authorizedKeys := by
  have hapart : ∀ other : ClientRecord, Owns pid other hist s → lastClient hist ≠ some record.clientID →
      ∀ publicKey ∈ other.keys, authorizedKeyBlob publicKey = [] ∨
        line.blob ≠ authorizedKeyBlob publicKey := by
    intro other howns hlast publicKey hmem
    have hid : other.clientID ≠ record.clientID := by
      intro heq
      exact hlast (heq ▸ howns.current)
    have hsame := h other (Directory.mem_files_of_get howns.stored) record hrecord hid publicKey hmem
      record.publicKey (by simp [ClientRecord.keys])
    rw [hkey]
    exact blob_ne_of_sameKey hsame
  cases heffect with
  | appendKey _ _ => exact mem_appendAuthorizedKey_of_mem hline
  | replaceKey _ _ =>
    obtain ⟨request, other, hreplaces⟩ := hguard
    obtain ⟨notAfter, hrendered⟩ := hreplaces.rendered
    have hnew := congrArg AuthorizedLine.blob (line_of_renderAuthorizedKeyForTarget hrendered)
    rw [← authorizedKeyBlob_trimSpace] at hnew
    have hkeys := hapart other hreplaces.owns hother
    rcases hreplaces.keys with ⟨-, rfl, hrequested⟩ | ⟨-, rfl, hrequested⟩
    · rw [← hrequested] at hnew
      refine mem_replaceAuthorizedKey_of_mem hline (hkeys _ (by simp [ClientRecord.keys])) ?_
      rw [hnew]
      exact hkeys _ (by simp [ClientRecord.keys])
    · rw [← hrequested] at hnew
      refine mem_replaceAuthorizedKey_of_mem hline (hkeys _ (by simp [ClientRecord.keys])) ?_
      rw [hnew]
      exact hkeys _ (by simp [ClientRecord.keys])
  | removeKey _ _ =>
    obtain ⟨other, howns, hremoved, -⟩ := hguard
    refine mem_removeAuthorizedKey_of_mem hline (hapart other howns hother _ ?_)
    rcases hremoved with rfl | rfl
    · simp [ClientRecord.keys]
    · simp [ClientRecord.keys]
  | writeKeys _ _ => cases hrewrites
  | kept hsame =>
    rw [hsame.authorizedKeys]
    exact hline
  | _ => exact hline

end

section

variable {c c' : Pool}

theorem distinctKeys_of_run (hs : DistinctKeys site.env s)
    (hrun : Run (hostMachine site) (FreshKeys site.env) (Config.idle s) c) :
    DistinctKeys site.env c.state := by
  refine run_invariant (I := fun c => DistinctKeys site.env c.state) hrun hs ?_ ?_ ?_
  · intro c pid call _ h _ _
    exact h
  · intro c pid process action rest choice reply state _ h hD hp hprog hguard hperform _
    exact h.step (hD.condition hp hprog) hguard (effect_of_perform hperform)
  · intro c pid process _ h _ _
    exact h

theorem undisturbed_of_next (hs : DistinctKeys site.env s)
    (hrun : Run (hostMachine site) (FreshKeys site.env) (Config.idle s) c)
    (hrecord : record ∈ c.state.clients.files) {move : HostMove}
    (hfresh : FreshKeys site.env c move) (hother : ¬ ActsFor record.clientID c move)
    (hnext : c.next (hostMachine site) move = some c') :
    Undisturbed site.env record c.state c'.state := by
  have hkeys := distinctKeys_of_run hs hrun
  have hkeys' := distinctKeys_of_run hs (.step hrun hfresh hnext)
  rcases Config.next_eq_some hnext with
    ⟨pid, call, rfl, hp, rfl⟩ | ⟨pid, process, action, rest, choice, reply, state, rfl, hp, hprog,
      hperform, rfl⟩ | ⟨pid, process, rfl, hp, rfl⟩
  · exact .refl hrecord
  · have hpool : PoolGuarded (grantProtocol site) c := by
      apply hrun.poolGuarded
      · intros
        trivial
      · intro c pid call _
        exact (walks_callProgram site pid call [] c.state).guarded
    have hguard := hpool.guard hp hprog trivial hperform
    have heffect := effect_of_perform hperform
    have hsubject : action.rewrites = false ∧ action.subject process.hist ≠ some record.clientID := by
      constructor
      · by_contra hrewrites
        exact hother ⟨(process, action), by simp [Config.upcoming, hp, hprog],
          .inl (by simpa using hrewrites)⟩
      · intro hsubject
        exact hother ⟨(process, action), by simp [Config.upcoming, hp, hprog], .inr hsubject⟩
    have hrecord' := stored_of_subject hrecord hsubject.2 heffect
    constructor
    · exact Directory.get_of_mem_files hrecord'
    · intro line hline hkey
      exact line_of_subject hkeys hrecord hsubject.2 hsubject.1 hguard heffect hline hkey
    · intro digest hdigest now
      exact matchingGrant_of_distinctKeys hkeys hkeys' hrecord hrecord' hdigest
  · exact ⟨Directory.get_of_mem_files hrecord, fun _ hline _ => hline, fun _ _ _ => rfl⟩

/-- In every run in which no request names a key of another client, whatever is done for
other clients, from any state that is reached on, leaves a client undisturbed. -/
theorem undisturbed_of_freshKeys (hs : DistinctKeys site.env s)
    (hreach : Run (hostMachine site) (FreshKeys site.env) (Config.idle s) c)
    (hrecord : record ∈ c.state.clients.files)
    (hrun : Run (hostMachine site)
      (fun c move => FreshKeys site.env c move ∧ ¬ ActsFor record.clientID c move) c c') :
    Undisturbed site.env record c.state c'.state := by
  refine hrun.induct (I := fun c' => Undisturbed site.env record c.state c'.state)
    (.refl hrecord) ?_
  intro c₁ c₂ move hbefore h hD hnext
  have hreach₁ := hreach.trans (hbefore.mono fun _ _ hD => hD.1)
  exact h.trans (undisturbed_of_next hs hreach₁ (Directory.mem_files_of_get h.stored) hD.1 hD.2 hnext)

end

/-- The moves that enroll the key with blob `d` with the second invite and revoke its
client. -/
def Scenario.secondLife (d : Char) : List HostMove :=
  [.start 1 (Scenario.acceptSecond d)] ++ Scenario.steps 1 12 ++
    [.stop 1, .start 1 (.revokeClientAsHost (Scenario.secondClientID d) Scenario.now)] ++
    Scenario.steps 1 9

/-- A second client is enrolled with a key of its own and revoked. -/
theorem undisturbed_by_own_key :
    DistinctKeys Scenario.env Scenario.twoInvites ∧
    ∃ c c' record, Run (hostMachine Scenario.site) (FreshKeys Scenario.env)
        (Config.idle Scenario.twoInvites) c ∧
      record ∈ c.state.clients.files ∧
      Run (hostMachine Scenario.site) (fun c move => FreshKeys Scenario.env c move ∧
        ¬ ActsFor record.clientID c move) c c' ∧
      c'.HasSucceeded 1 ∧ Undisturbed Scenario.env record c.state c'.state := by
  have hs : DistinctKeys Scenario.env Scenario.twoInvites := by
    intro record hrecord
    cases hrecord
  obtain ⟨c, hrun, hsome, hsecond⟩ := Run.exists_of_runMoves
    (D := FreshKeys Scenario.env) (M := hostMachine Scenario.site)
    (c := Config.idle Scenario.twoInvites)
    (p := fun c => (c.state.clients.get (Scenario.clientID 'A')).isSome = true ∧
      (runMoves (hostMachine Scenario.site) (fun c move => FreshKeys Scenario.env c move ∧
        ¬ ActsFor (Scenario.clientID 'A') c move) (Scenario.secondLife 'B') c).any
          fun c' : Pool => decide (c'.HasSucceeded 1)) (Scenario.accepting 'A') (by decide +kernel)
  obtain ⟨record, hget⟩ := Option.isSome_iff_exists.1 hsome
  obtain ⟨c', hrun', hdone⟩ := Run.exists_of_runMoves _ hsecond
  rw [← Directory.key_of_get hget] at hrun'
  have hrecord := Directory.mem_files_of_get hget
  exact ⟨hs, c, c', record, hrun, hrecord, hrun', hdone,
    undisturbed_of_freshKeys hs hrun hrecord hrun'⟩

/-- A second client is enrolled with the key of the first and revoked. The first has done
nothing meanwhile, and can no longer log in: its line is gone, and the lookup of its key
finds two records. -/
theorem foreign_key_disturbs :
    ∃ c c' record, Run (hostMachine Scenario.site) (fun _ _ => True)
        (Config.idle Scenario.twoInvites) c ∧
      record ∈ c.state.clients.files ∧ record.status = .active ∧
      matchingGrant Scenario.env Scenario.now (Scenario.env.sha256 ['A']) c.state.clients.files =
        .ok record ∧
      (∃ line ∈ c.state.authorizedKeys, line.blob = authorizedKeyBlob record.publicKey) ∧
      Run (hostMachine Scenario.site) (fun c move => ¬ ActsFor record.clientID c move) c c' ∧
      c'.state.clients.get record.clientID = some record ∧
      (∀ line ∈ c'.state.authorizedKeys, line.blob ≠ authorizedKeyBlob record.publicKey) ∧
      matchingGrant Scenario.env Scenario.now (Scenario.env.sha256 ['A']) c'.state.clients.files ≠
        .ok record := by
  obtain ⟨c, hrun, record, hget, hactive, hfound, hline, hsecond⟩ := Run.exists_of_runMoves
    (D := fun _ _ => True) (M := hostMachine Scenario.site) (c := Config.idle Scenario.twoInvites)
    (p := fun c => ∃ record ∈ c.state.clients.get (Scenario.clientID 'A'),
      record.status = .active ∧
      matchingGrant Scenario.env Scenario.now (Scenario.env.sha256 ['A'])
        c.state.clients.files = .ok record ∧
      (∃ line ∈ c.state.authorizedKeys, line.blob = authorizedKeyBlob record.publicKey) ∧
      (runMoves (hostMachine Scenario.site)
        (fun c move => ¬ ActsFor (Scenario.clientID 'A') c move) (Scenario.secondLife 'A') c).any
          fun c' : Pool => decide (c'.state.clients.get record.clientID = some record ∧
            (∀ line ∈ c'.state.authorizedKeys, line.blob ≠ authorizedKeyBlob record.publicKey) ∧
            matchingGrant Scenario.env Scenario.now (Scenario.env.sha256 ['A'])
              c'.state.clients.files ≠ .ok record))
    (Scenario.accepting 'A') (by decide +kernel)
  obtain ⟨c', hrun', hgone⟩ := Run.exists_of_runMoves _ hsecond
  rw [← Directory.key_of_get hget] at hrun'
  exact ⟨c, c', record, hrun, Directory.mem_files_of_get hget, hactive, hfound, hline, hrun',
    hgone⟩

end WarpTweet
