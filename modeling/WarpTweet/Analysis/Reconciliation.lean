import WarpTweet.Analysis.Edits

/-!
# Rebuilding the authorization file

`reconcileManagedAuthorizations` rebuilds the whole authorization file from the client
records, under the lock of the file. A rebuild that falls between the edit of an
enrollment or a rotation and its record reads the old record and undoes the edit: the
client is left with an active record and without its line.

If no rebuild takes the lock of the file while a client is between the two, then once all
calls have succeeded the file has one line for each active unexpired record and no other.
-/

namespace WarpTweet

open Strings Concurrency Storage

def Call.reconciles : Call → Bool
  | .reconcileManaged => true
  | _ => false

/-- The file has one line for each active unexpired record and no other. -/
structure Reconciled (now : Time) (s : Host) : Prop where
  authorized : ∀ record ∈ s.clients.files, record.status = .active → Unexpired now record →
    (authorizedBlobs s.authorizedKeys).count (authorizedKeyBlob record.publicKey) = 1
  only : ∀ line ∈ s.authorizedKeys, ∃ record ∈ s.clients.files,
    record.status = .active ∧ Unexpired now record ∧
      line.blob = authorizedKeyBlob record.publicKey

/-! ## What a rebuild has read -/

/-- The two records authorize the same key until the same time, if any. -/
structure SameGrant (record other : ClientRecord) : Prop where
  live : Live record ↔ Live other
  publicKey : other.publicKey = record.publicKey
  notAfter : other.authorizationNotAfter = record.authorizationNotAfter

variable {record other : ClientRecord} {env : Env} {line : AuthorizedLine}

theorem SameGrant.refl : SameGrant record record := ⟨.rfl, rfl, rfl⟩

theorem SameGrant.trans {third : ClientRecord} (h : SameGrant record other)
    (h' : SameGrant other third) : SameGrant record third :=
  ⟨h.live.trans h'.live, h'.publicKey.trans h.publicKey, h'.notAfter.trans h.notAfter⟩

/-- What was read is still so, as far as a rebuild cares. -/
structure ReadsCurrent (start now : Time) (hist : List HostStep) (s : Host) : Prop where
  records : ∀ {clientID record}, Did hist (.readClient clientID) (.found record) →
    ∃ current, s.clients.get clientID = some current ∧ SameGrant record current
  names : ∀ {names}, Did hist .listClients (some names) →
    ∀ record ∈ s.clients.files, Live record → record.clientID ∈ names
  times : ∀ {time}, Did hist .now time → start ≤ time ∧ time ≤ now

variable {site : Site} {start now : Time} {pid : ℕ} {call : Call} {hist : List HostStep}
  {action : Action} {choice : Choice} {s s' : Host} {record : ClientRecord}

section

variable {reply : action.Reply}

section

variable (h : ClearStep site start now pid call hist action choice s s')
  (hedits : Unpublished site.env pid call hist s)
  (hlocked : s.locks .authorizedKeys ≠ none)
include h hedits hlocked

theorem ClearStep.sameGrant {clientID : Text} (hget : s.clients.get clientID = some record) :
    ∃ current, s'.clients.get clientID = some current ∧ SameGrant record current := by
  cases h.grown with
  | kept hclients _ => exact ⟨record, by rw [hclients, hget], .refl⟩
  | stored hnew _ _ _ =>
    refine ⟨record, ?_, .refl⟩
    rw [Directory.get_put_of_ne, hget]
    rintro rfl
    rw [hnew] at hget
    cases hget
  | @activated old request line howns hstatus hrequest hid hdid _ =>
    -- the appended line would be waiting for the record
    obtain ⟨current, hcurrent, hline⟩ := hedits.appended request hrequest line hdid
    obtain rfl := Directory.file_unique hcurrent howns.stored hid.symm
    exact absurd (hline hstatus).2.2 hlocked
  | @began old request nextHash time howns hstatus _ _ _ =>
    by_cases heq : clientID = old.clientID
    · obtain rfl := Directory.file_unique hget howns.stored heq
      subst heq
      refine ⟨_, Directory.get_put_self, ⟨?_, rfl, rfl⟩⟩
      simp [Live, hstatus, beginRotation]
    · exact ⟨record, (Directory.get_put_of_ne (by exact heq)).trans hget, .refl⟩
  | @finished old request nextHash time line howns hstatus _ hdid =>
    have hheld : Held pid old.clientID hist s := ⟨howns.locked, howns.current⟩
    have hswapped := hedits.swapped old hheld _ line hdid
      (Directory.mem_files_of_get howns.stored) hstatus
    exact absurd hswapped.free hlocked
  | appended | swapped | rebuilt => exact ⟨record, hget, .refl⟩

theorem ClearStep.live_before (hrecord : record ∈ s'.clients.files) (hlive : Live record) :
    ∃ old ∈ s.clients.files, old.clientID = record.clientID ∧ Live old := by
  rcases h.grown.mem_clients hrecord with
    hrecord | ⟨-, -, hstatus, -, -⟩ | ⟨old, hold, hid, -, -, -⟩
  · exact ⟨record, hrecord, rfl, hlive⟩
  · rcases hlive with hlive | hlive <;> simp [hstatus] at hlive
  · obtain ⟨current, hcurrent, hsame⟩ :=
      h.sameGrant hedits hlocked (Directory.get_of_mem_files hold)
    rw [hid, Directory.get_of_mem_files hrecord, Option.some.injEq] at hcurrent
    exact ⟨old, hold, hid, hsame.live.2 (hcurrent ▸ hlive)⟩

end

theorem ReadsCurrent.keep {hist' : List HostStep} (hreads : ReadsCurrent start now hist' s)
    (h : ClearStep site start now pid call hist action choice s s')
    (hedits : Unpublished site.env pid call hist s) (hlocked : s.locks .authorizedKeys ≠ none) :
    ReadsCurrent start now hist' s' where
  records hdid := by
    obtain ⟨current, hget, hsame⟩ := hreads.records hdid
    obtain ⟨current', hget', hsame'⟩ := h.sameGrant hedits hlocked hget
    exact ⟨current', hget', hsame.trans hsame'⟩
  names hdid record hrecord hlive := by
    obtain ⟨old, hold, hid, hlive'⟩ := h.live_before hedits hlocked hrecord hlive
    exact hid ▸ hreads.names hdid old hold hlive'
  times := hreads.times

/-- The readings of the process that holds the lock of the file, after a step of its own. -/
theorem ReadsCurrent.step (hreads : s.locks .authorizedKeys = some pid →
      ReadsCurrent start now (sinceLock .authorizedKeys hist) s)
    (hperform : performAction site.env pid action choice s = some (reply, s'))
    (h : ClearStep site start now pid call hist action choice s s')
    (hedits : Unpublished site.env pid call hist s) (hlocked' : s'.locks .authorizedKeys = some pid) :
    ReadsCurrent start now (sinceLock .authorizedKeys (⟨action, choice, reply⟩ :: hist)) s' := by
  cases hmark : action.locks .authorizedKeys with
  | true =>
    have hnone : sinceLock .authorizedKeys (⟨action, choice, reply⟩ :: hist) = [] := by
      rw [sinceLock, since_cons, if_pos hmark]
    rw [hnone]
    constructor
    · rintro _ _ ⟨_, hmem⟩
      cases hmem
    · rintro _ ⟨_, hmem⟩
      cases hmem
    · rintro _ ⟨_, hmem⟩
      cases hmem
  | false =>
    have hlocked : s.locks .authorizedKeys = some pid := by
      rcases h.effect.locks hlocked' with hlocked | ⟨-, wait, rfl⟩
      · exact hlocked
      · simp [Action.locks] at hmark
    have hold := (hreads hlocked).keep h hedits (by simp [hlocked])
    have hcons : sinceLock .authorizedKeys (⟨action, choice, reply⟩ :: hist) =
        ⟨action, choice, reply⟩ :: sinceLock .authorizedKeys hist := by
      rw [sinceLock, since_cons, if_neg (by simp [hmark])]
    rw [hcons]
    constructor
    · rintro clientID record ⟨choice', hmem⟩
      rcases List.mem_cons.1 hmem with heq | hmem
      · cases heq
        obtain ⟨hget, rfl⟩ := readClient_found hperform
        exact ⟨record, hget, .refl⟩
      · exact hold.records ⟨choice', hmem⟩
    · rintro names ⟨choice', hmem⟩
      rcases List.mem_cons.1 hmem with heq | hmem
      · cases heq
        simp only [performAction, Option.some.injEq, Prod.mk.injEq] at hperform
        obtain ⟨hnames, rfl⟩ := hperform
        split_ifs at hnames
        cases hnames
        intro record hrecord _
        exact List.mem_map_of_mem hrecord
      · exact hold.names ⟨choice', hmem⟩
    · rintro time ⟨choice', hmem⟩
      rcases List.mem_cons.1 hmem with heq | hmem
      · cases heq
        simp only [performAction, Option.some.injEq, Prod.mk.injEq] at hperform
        rw [← hperform.1]
        exact h.clear.2.2.2
      · exact hold.times ⟨choice', hmem⟩

end

/-- In every run that meets the condition, what the holder of the lock of the file has
read is still so. -/
theorem readsCurrent_of_run {site : Site} {start now : Time} {s : Host} {c : Pool}
    (hs : Orderly site.env start now s) (hfree : s.locks .authorizedKeys = none)
    (hrun : Run (hostMachine site) (ClearGrowth site.env start now) (Config.idle s) c) :
    c.Each fun pid _ hist s => s.locks .authorizedKeys = some pid →
      ReadsCurrent start now (sinceLock .authorizedKeys hist) s := by
  refine clear_invariant (I := fun c => c.Each fun pid _ hist s =>
    s.locks .authorizedKeys = some pid →
      ReadsCurrent start now (sinceLock .authorizedKeys hist) s) hrun .idle ?_ ?_
  · intro c pid call h _
    refine h.started fun _ => ⟨?_, ?_, ?_⟩
    · rintro _ _ ⟨_, hmem⟩
      cases hmem
    · rintro _ ⟨_, hmem⟩
      cases hmem
    · rintro _ ⟨_, hmem⟩
      cases hmem
  · intro c pid process action choice reply state prog hrun h hp hperform hstep _
    have hedits := unpublished_of_run hs hfree hrun pid process hp
    refine h.advanced hp (fun hself hlocked => ReadsCurrent.step hself hperform hstep hedits hlocked)
      fun pid' hne _ _ hother hlocked => ?_
    have hbefore : c.state.locks .authorizedKeys = some pid' := by
      rcases hstep.effect.locks hlocked with hbefore | ⟨heq, -⟩
      · exact hbefore
      · exact absurd heq hne
    exact (hother hbefore).keep hstep hedits (by simp [hbefore])

/-! ## The file after a rebuild -/

/-- The record has a claim on lines with the blob. -/
def Shows (record : ClientRecord) (blob : Text) : Prop :=
  blob = authorizedKeyBlob record.publicKey ∧
      (record.status = .enrollmentPending ∨ Live record) ∨
    blob = authorizedKeyBlob record.pendingPublicKey ∧ record.status = .rotationPending

/-- The file once it has been rebuilt: each line is there for an unexpired record, no key
has two lines, and active and rotating records have their line. -/
structure Served (now : Time) (s : Host) : Prop where
  parsable : ∀ blob ∈ authorizedBlobs s.authorizedKeys, blob ≠ []
  sound : ∀ blob ∈ authorizedBlobs s.authorizedKeys, ∃ record ∈ s.clients.files,
    Unexpired now record ∧ Shows record blob
  nodup : (authorizedBlobs s.authorizedKeys).Nodup
  active : ∀ record ∈ s.clients.files, Unexpired now record → record.status = .active →
    authorizedKeyBlob record.publicKey ∈ authorizedBlobs s.authorizedKeys
  rotating : ∀ record ∈ s.clients.files, Unexpired now record →
    record.status = .rotationPending →
    authorizedKeyBlob record.publicKey ∈ authorizedBlobs s.authorizedKeys ∨
      authorizedKeyBlob record.pendingPublicKey ∈ authorizedBlobs s.authorizedKeys

section

variable {lines : List AuthorizedLine}

section

variable (hs : Orderly site.env start now s)
  (hzero : Time.zero < start)
  (hreads : ReadsCurrent start now hist s)
  (hrebuilt : Rebuilt site hist lines)
include hs hzero hreads hrebuilt

theorem live_of_rebuilt {blob : Text} (hmem : blob ∈ authorizedBlobs lines) :
    blob ≠ [] ∧ ∃ record ∈ s.clients.files,
      Unexpired now record ∧ Live record ∧ blob = authorizedKeyBlob record.publicKey := by
  obtain ⟨line, hline, rfl⟩ := List.mem_map.1 hmem
  obtain ⟨record, notAfter, time, hread, hlive, hend, htime, hready, hmanaged⟩ :=
    hrebuilt.sound line hline
  obtain ⟨current, hget, hsame⟩ := hreads.records hread
  have hcurrent := Directory.mem_files_of_get hget
  obtain ⟨hstart, hnow⟩ := hreads.times htime
  obtain ⟨hblob, hkey⟩ := blob_of_managedLine hmanaged
  refine ⟨hblob, current, hcurrent, ?_, hsame.live.1 hlive, by rw [hkey, hsame.publicKey]⟩
  refine ((hs.steady current hcurrent).iff hzero hstart hnow).1 ?_
  exact (unexpired_at (hsame.notAfter.trans hend)).2 hready

theorem served_of_rebuilt : Served now { s with authorizedKeys := lines } := by
  have hcomplete : ∀ record ∈ s.clients.files, Unexpired now record → Live record →
      authorizedKeyBlob record.publicKey ∈ authorizedBlobs lines := by
    intro record hrecord hun hlive
    obtain ⟨names, hnames, hall⟩ := hrebuilt.complete
    obtain ⟨read, hread, hline⟩ := hall record.clientID (hreads.names hnames record hrecord hlive)
      (hs.hexIDs record hrecord)
    obtain ⟨current, hget, hsame⟩ := hreads.records hread
    obtain rfl := Directory.file_unique hget (Directory.get_of_mem_files hrecord) rfl
    cases hend : read.authorizationNotAfter with
    | empty =>
      rw [Unexpired, hsame.notAfter, hend] at hun
      exact hun.elim
    | unreadable =>
      rw [Unexpired, hsame.notAfter, hend] at hun
      exact hun.elim
    | «at» notAfter =>
      rcases hline notAfter (hsame.live.2 hlive) hend with ⟨time, htime, hready⟩ | ⟨line, hmem, hkey⟩
      · obtain ⟨hstart, hnow⟩ := hreads.times htime
        have hun' := ((hs.steady current hrecord).iff hzero hstart hnow).2 hun
        rw [unexpired_at (hsame.notAfter.trans hend), hready] at hun'
        cases hun'
      · rw [hsame.publicKey, ← hkey]
        exact List.mem_map_of_mem hmem
  constructor
  · exact fun blob hmem => (live_of_rebuilt hs hzero hreads hrebuilt hmem).1
  · intro blob hmem
    obtain ⟨-, record, hrecord, hun, hlive, hkey⟩ := live_of_rebuilt hs hzero hreads hrebuilt hmem
    exact ⟨record, hrecord, hun, .inl ⟨hkey, .inr hlive⟩⟩
  · exact hrebuilt.nodup
  · exact fun record hrecord hun hstatus => hcomplete record hrecord hun (.inl hstatus)
  · exact fun record hrecord hun hstatus => .inl (hcomplete record hrecord hun (.inr hstatus))

end

theorem Served.store (h : Served now s) (hnew : s.clients.get record.clientID = none)
    (hstatus : record.status = .enrollmentPending) :
    Served now { s with clients := s.clients.put record } := by
  have hold : ∀ other ∈ (s.clients.put record).files, Live other → other ∈ s.clients.files := by
    intro other hother hlive
    rcases Directory.mem_files_put.1 hother with rfl | ⟨hother, -⟩
    · rcases hlive with hlive | hlive <;> simp [hstatus] at hlive
    · exact hother
  refine ⟨h.parsable, fun blob hmem => ?_, h.nodup, ?_, ?_⟩
  · obtain ⟨owner, howner, hun, hshows⟩ := h.sound blob hmem
    refine ⟨owner, Directory.mem_files_put.2 (.inr ⟨howner, fun hid => ?_⟩), hun, hshows⟩
    rw [← hid, Directory.get_of_mem_files howner] at hnew
    cases hnew
  · exact fun other hother hun hactive =>
      h.active other (hold other hother (.inl hactive)) hun hactive
  · exact fun other hother hun hrotating =>
      h.rotating other (hold other hother (.inr hrotating)) hun hrotating

theorem Served.write {old : ClientRecord} (h : Served now s)
    (hold : s.clients.get record.clientID = some old)
    (hend : record.authorizationNotAfter = old.authorizationNotAfter)
    (hshows : ∀ blob ∈ authorizedBlobs s.authorizedKeys, Shows old blob → Shows record blob)
    (hactive : Unexpired now old → record.status = .active →
      authorizedKeyBlob record.publicKey ∈ authorizedBlobs s.authorizedKeys)
    (hrotating : Unexpired now old → record.status = .rotationPending →
      authorizedKeyBlob record.publicKey ∈ authorizedBlobs s.authorizedKeys) :
    Served now { s with clients := s.clients.put record } := by
  refine ⟨h.parsable, fun blob hmem => ?_, h.nodup, ?_, ?_⟩
  · obtain ⟨owner, howner, hun, hshown⟩ := h.sound blob hmem
    by_cases hid : owner.clientID = record.clientID
    · obtain rfl := Directory.file_unique (Directory.get_of_mem_files howner) hold hid
      exact ⟨record, Directory.mem_files_put.2 (.inl rfl), (unexpired_congr hend).2 hun,
        hshows blob hmem hshown⟩
    · exact ⟨owner, Directory.mem_files_put.2 (.inr ⟨howner, hid⟩), hun, hshown⟩
  · intro other hother hun hstatus
    rcases Directory.mem_files_put.1 hother with rfl | ⟨hother, -⟩
    · exact hactive ((unexpired_congr hend).1 hun) hstatus
    · exact h.active other hother hun hstatus
  · intro other hother hun hstatus
    rcases Directory.mem_files_put.1 hother with rfl | ⟨hother, -⟩
    · exact .inl (hrotating ((unexpired_congr hend).1 hun) hstatus)
    · exact h.rotating other hother hun hstatus

theorem Served.append (h : Served now s)
    (hrecord : record ∈ s.clients.files) (hun : Unexpired now record)
    (hshows : Shows record line.blob) (hblob : line.blob ≠ []) :
    Served now { s with authorizedKeys := appendAuthorizedKey line s.authorizedKeys } := by
  refine ⟨fun blob hmem => ?_, fun blob hmem => ?_, nodup_blobs_append h.nodup hblob, ?_, ?_⟩
  · rcases mem_blobs_append.1 hmem with hmem | rfl
    · exact h.parsable blob hmem
    · exact hblob
  · rcases mem_blobs_append.1 hmem with hmem | rfl
    · exact h.sound blob hmem
    · exact ⟨record, hrecord, hun, hshows⟩
  · exact fun other hother hun' hstatus =>
      mem_blobs_append.2 (.inl (h.active other hother hun' hstatus))
  · exact fun other hother hun' hstatus => (h.rotating other hother hun' hstatus).imp
      (fun hmem => mem_blobs_append.2 (.inl hmem)) fun hmem => mem_blobs_append.2 (.inl hmem)

theorem Served.swap {oldPublicKey : Text} (h : Served now s)
    (hs : Orderly site.env start now s) (hrecord : record ∈ s.clients.files)
    (hun : Unexpired now record) (hswaps : Swaps record oldPublicKey line.blob)
    (hblob : line.blob ≠ []) :
    Served now { s with authorizedKeys :=
      replaceAuthorizedKeyForPublicKey oldPublicKey line s.authorizedKeys } := by
  have holdKey : oldPublicKey ∈ record.keys := by
    rcases hswaps with ⟨-, rfl, -⟩ | ⟨-, rfl, -⟩ <;> simp [ClientRecord.keys]
  -- the lines of the other clients are not touched
  have hkeep : ∀ other ∈ s.clients.files, other.clientID ≠ record.clientID →
      ∀ publicKey ∈ other.keys,
        authorizedKeyBlob publicKey ∈ authorizedBlobs s.authorizedKeys →
        authorizedKeyBlob publicKey ∈ authorizedBlobs
          (replaceAuthorizedKeyForPublicKey oldPublicKey line s.authorizedKeys) := by
    intro other hother hne publicKey hkey hmem
    exact mem_blobs_replace.2 (.inr ⟨hmem, hs.apart hrecord hother hne.symm holdKey hkey⟩)
  have hsame : ∀ other ∈ s.clients.files, other.clientID = record.clientID → other = record := by
    intro other hother hid
    exact Directory.eq_of_key_eq hother hrecord hid
  refine ⟨fun blob hmem => ?_, fun blob hmem => ?_, nodup_blobs_replace h.nodup hblob, ?_, ?_⟩
  · rcases mem_blobs_replace.1 hmem with rfl | ⟨hmem, -⟩
    · exact hblob
    · exact h.parsable blob hmem
  · rcases mem_blobs_replace.1 hmem with rfl | ⟨hmem, -⟩
    · refine ⟨record, hrecord, hun, ?_⟩
      rcases hswaps with ⟨hstatus, -, hline⟩ | ⟨hstatus, -, hline⟩
      · exact .inr ⟨hline, hstatus⟩
      · exact .inl ⟨hline, .inr (.inl hstatus)⟩
    · exact h.sound blob hmem
  · intro other hother hun' hstatus
    by_cases hid : other.clientID = record.clientID
    · obtain rfl := hsame other hother hid
      rcases hswaps with ⟨hrotating, -, -⟩ | ⟨-, -, hline⟩
      · simp [hstatus] at hrotating
      · exact mem_blobs_replace.2 (.inl hline.symm)
    · exact hkeep other hother hid _ (by simp [ClientRecord.keys])
        (h.active other hother hun' hstatus)
  · intro other hother hun' hstatus
    by_cases hid : other.clientID = record.clientID
    · obtain rfl := hsame other hother hid
      rcases hswaps with ⟨-, -, hline⟩ | ⟨hactive, -, -⟩
      · exact .inr (mem_blobs_replace.2 (.inl hline.symm))
      · simp [hstatus] at hactive
    · exact (h.rotating other hother hun' hstatus).imp
        (hkeep other hother hid _ (by simp [ClientRecord.keys]))
        (hkeep other hother hid _ (by simp [ClientRecord.keys]))

theorem Served.step (h : Served now s) (hs : Orderly site.env start now s)
    (hzero : Time.zero < start) (hreads : s.locks .authorizedKeys = some pid →
      ReadsCurrent start now (sinceLock .authorizedKeys hist) s)
    (hedits : Unpublished site.env pid call hist s)
    (hstep : ClearStep site start now pid call hist action choice s s') : Served now s' := by
  cases hstep.grown with
  | kept hclients hkeys =>
    constructor
    all_goals rw [hkeys]
    · exact h.parsable
    · rw [hclients]
      exact h.sound
    · exact h.nodup
    · rw [hclients]
      exact h.active
    · rw [hclients]
      exact h.rotating
  | stored hnew hstatus _ _ => exact h.store hnew hstatus
  | @activated old request line howns hstatus hrequest hid hdid _ =>
    obtain ⟨current, hcurrent, hline⟩ := hedits.appended request hrequest line hdid
    obtain rfl := Directory.file_unique hcurrent howns.stored hid.symm
    have hstored : s.clients.get ({ current with status := .active } : ClientRecord).clientID =
        some current := howns.stored
    refine h.write hstored rfl ?_ (fun _ _ => (hline hstatus).2.1) ?_
    · rintro blob - (⟨hkey, -⟩ | ⟨-, hrotating⟩)
      · exact .inl ⟨hkey, .inr (.inl rfl)⟩
      · simp [hstatus] at hrotating
    · simp
  | @began old request nextHash time howns hstatus _ _ _ =>
    refine h.write howns.stored rfl ?_ (by simp [beginRotation]) fun hun _ =>
      h.active old (Directory.mem_files_of_get howns.stored) hun hstatus
    rintro blob - (⟨hkey, -⟩ | ⟨-, hrotating⟩)
    · exact .inl ⟨hkey, .inr (.inr rfl)⟩
    · simp [hstatus] at hrotating
  | @finished old request nextHash time line howns hstatus _ hdid =>
    have hheld : Held pid old.clientID hist s := ⟨howns.locked, howns.current⟩
    have hswapped := hedits.swapped old hheld _ line hdid
      (Directory.mem_files_of_get howns.stored) hstatus
    refine h.write howns.stored rfl ?_ (fun _ _ => hswapped.mem) (by simp [finishRotation])
    rintro blob hmem (⟨rfl, -⟩ | ⟨rfl, -⟩)
    · -- a line with the blob of the old key is a line of the new one
      exact .inl ⟨hswapped.gone (h.parsable _ hmem) hmem, .inr (.inl rfl)⟩
    · exact .inl ⟨rfl, .inr (.inl rfl)⟩
  | appended _ _ hget hstatus hun hline hblob =>
    refine h.append (Directory.mem_files_of_get hget) hun (.inl ⟨hline, ?_⟩) hblob
    exact hstatus.imp_right .inl
  | swapped _ howns _ hun hblob hswaps =>
    exact h.swap hs (Directory.mem_files_of_get howns.stored) hun hswaps hblob
  | rebuilt hlocked hrebuilt => exact served_of_rebuilt hs hzero (hreads hlocked) hrebuilt

theorem Orderly.clientID_eq {publicKey publicKey' : Text}
    (hs : Orderly env start now s) (hother : other ∈ s.clients.files)
    (hrecord : record ∈ s.clients.files) (hkey : publicKey ∈ other.keys)
    (hkey' : publicKey' ∈ record.keys) (hblob : authorizedKeyBlob publicKey' ≠ [])
    (heq : authorizedKeyBlob publicKey' = authorizedKeyBlob publicKey) :
    other.clientID = record.clientID := by
  by_contra hne
  rcases hs.apart hother hrecord hne hkey hkey' with hnil | hapart
  · exact hblob (heq.trans hnil)
  · exact hapart heq

theorem not_enrolling_of_rebuilt (hs : Orderly site.env start now s) (hzero : Time.zero < start)
    (hreads : ReadsCurrent start now hist s) (hrebuilt : Rebuilt site hist lines)
    (hrecord : record ∈ s.clients.files) (hstatus : record.status = .enrollmentPending) :
    authorizedKeyBlob record.publicKey ∉ authorizedBlobs lines := by
  intro hmem
  obtain ⟨hblob, owner, howner, -, hlive, hkey⟩ := live_of_rebuilt hs hzero hreads hrebuilt hmem
  have hid := hs.clientID_eq howner hrecord (by simp [ClientRecord.keys])
    (by simp [ClientRecord.keys]) hblob hkey
  obtain rfl := Directory.eq_of_key_eq howner hrecord hid
  rcases hlive with hlive | hlive <;> simp [hstatus] at hlive

/-- A pending record has its line in the file if it had before, or if its enrollment has
just appended it. -/
theorem Served.enrolling_before (h : Served now s) (hs : Orderly site.env start now s)
    (hs' : Orderly site.env start now s') (hzero : Time.zero < start)
    (hreads : s.locks .authorizedKeys = some pid →
      ReadsCurrent start now (sinceLock .authorizedKeys hist) s)
    (hstep : ClearStep site start now pid call hist action choice s s')
    (hrecord : record ∈ s'.clients.files) (hstatus : record.status = .enrollmentPending)
    (hmem : authorizedKeyBlob record.publicKey ∈ authorizedBlobs s'.authorizedKeys) :
    (record ∈ s.clients.files ∧
        authorizedKeyBlob record.publicKey ∈ authorizedBlobs s.authorizedKeys) ∨
      ∃ request ∈ call.enrollment, request.clientID site.env = record.clientID := by
  have hpending : ¬ Live record := by
    rintro (hlive | hlive) <;> simp [hstatus] at hlive
  have hwritten : ∀ {written : ClientRecord}, Live written →
      record ∈ (s.clients.put written).files → record ∈ s.clients.files := by
    intro written hlive hput
    rcases Directory.mem_files_put.1 hput with rfl | ⟨hput, -⟩
    · exact absurd hlive hpending
    · exact hput
  cases hstep.grown with
  | kept hclients hkeys =>
    rw [hclients] at hrecord
    rw [hkeys] at hmem
    exact .inl ⟨hrecord, hmem⟩
  | @stored new hnew _ _ _ =>
    rcases Directory.mem_files_put.1 hrecord with rfl | ⟨hrecord, -⟩
    · -- the key of the new record would be the key of the owner of the line
      obtain ⟨owner, howner, -, hshows⟩ := h.sound _ hmem
      have hne : owner.clientID ≠ record.clientID := by
        intro hid
        rw [← hid, Directory.get_of_mem_files howner] at hnew
        cases hnew
      have howner' := Directory.mem_files_put.2 (.inr ⟨howner, hne⟩)
      obtain ⟨key, hkey, heq⟩ : ∃ key ∈ owner.keys,
          authorizedKeyBlob record.publicKey = authorizedKeyBlob key := by
        rcases hshows with ⟨heq, -⟩ | ⟨heq, -⟩
        · exact ⟨_, by simp [ClientRecord.keys], heq⟩
        · exact ⟨_, by simp [ClientRecord.keys], heq⟩
      have hkey' : record.publicKey ∈ record.keys := by simp [ClientRecord.keys]
      exact absurd (hs'.clientID_eq howner' hrecord hkey hkey' (h.parsable _ hmem) heq) hne
    · exact .inl ⟨hrecord, hmem⟩
  | activated => exact .inl ⟨hwritten (.inl rfl) hrecord, hmem⟩
  | began => exact .inl ⟨hwritten (.inr rfl) hrecord, hmem⟩
  | finished => exact .inl ⟨hwritten (.inl rfl) hrecord, hmem⟩
  | @appended installed request line _ hrequest hget _ _ hline hblob =>
    rcases mem_blobs_append.1 hmem with hmem | heq
    · exact .inl ⟨hrecord, hmem⟩
    · refine .inr ⟨request, hrequest, ?_⟩
      rw [← Directory.key_of_get hget]
      exact hs.clientID_eq (Directory.mem_files_of_get hget) hrecord (by simp [ClientRecord.keys])
        (by simp [ClientRecord.keys]) (heq ▸ hblob) (heq.trans hline)
  | @swapped owner request oldPublicKey line _ howns _ _ hblob hswaps =>
    rcases mem_blobs_replace.1 hmem with heq | ⟨hmem, -⟩
    · obtain ⟨key, hkey, hline, hlive⟩ : ∃ key ∈ owner.keys,
          line.blob = authorizedKeyBlob key ∧ Live owner := by
        rcases hswaps with ⟨hother, -, hline⟩ | ⟨hother, -, hline⟩
        · exact ⟨_, by simp [ClientRecord.keys], hline, .inr hother⟩
        · exact ⟨_, by simp [ClientRecord.keys], hline, .inl hother⟩
      have hid := hs.clientID_eq (Directory.mem_files_of_get howns.stored) hrecord hkey
        (by simp [ClientRecord.keys]) (heq ▸ hblob) (heq.trans hline)
      have hstored := howns.stored
      rw [hid, Directory.get_of_mem_files hrecord, Option.some.injEq] at hstored
      exact absurd (hstored ▸ hlive) hpending
    · exact .inl ⟨hrecord, hmem⟩
  | rebuilt hlocked hrebuilt =>
    exact absurd hmem (not_enrolling_of_rebuilt hs hzero (hreads hlocked) hrebuilt hrecord hstatus)

end

/-! ## What is still in flight -/

/-- An enrollment of the client is under way or has been made. -/
def EnrolledBy (env : Env) (clientID : Text) (c : Pool) : Prop :=
  ∃ pid process, c.procs pid = some process ∧
    ∃ request ∈ process.call.enrollment, request.clientID env = clientID

/-- A rotation of the client has begun and is not yet published. -/
def RotatedBy (clientID : Text) (c : Pool) : Prop :=
  ∃ pid process, c.procs pid = some process ∧
    (∃ request ∈ process.call.rotation, request.clientID = clientID) ∧
    (∃ step ∈ process.hist, step.action.beginsRotation clientID = true) ∧ ¬ Publishes process.hist

/-- The file has been rebuilt. -/
def RebuiltBy (c : Pool) : Prop :=
  ∃ pid process lines, c.procs pid = some process ∧ Did process.hist (.writeKeys lines) true

section

variable {c : Pool} {clientID : Text} {process : HostProcess} {step : HostStep}
  {prog : HostProg Unit} {state : Host}

theorem EnrolledBy.started (h : EnrolledBy env clientID c) (hp : c.procs pid = none) :
    EnrolledBy env clientID (c.started (hostMachine site) pid call) := by
  obtain ⟨pid', process', hp', hrequest⟩ := h
  exact ⟨pid', process', Config.procs_started_of_some hp hp', hrequest⟩

theorem EnrolledBy.advanced (h : EnrolledBy env clientID c) (hp : c.procs pid = some process) :
    EnrolledBy env clientID (c.advanced pid process step prog state) := by
  obtain ⟨pid', process', hp', hrequest⟩ := h
  by_cases hpid : pid' = pid
  · subst hpid
    obtain rfl : process = process' := Option.some.inj (hp.symm.trans hp')
    exact ⟨pid', _, Config.procs_advanced_self, hrequest⟩
  · exact ⟨pid', process', (Config.procs_advanced_of_ne hpid).trans hp', hrequest⟩

theorem RebuiltBy.before (h : RebuiltBy (c.advanced pid process step prog state))
    (hp : c.procs pid = some process) :
    RebuiltBy c ∨ ∃ lines, Did [step] (.writeKeys lines) true := by
  obtain ⟨pid', process', lines, hp', choice, hmem⟩ := h
  by_cases hpid : pid' = pid
  · subst hpid
    rw [Config.procs_advanced_self, Option.some.injEq] at hp'
    subst hp'
    rcases List.mem_cons.1 hmem with heq | hmem
    · exact .inr ⟨lines, choice, List.mem_singleton.2 heq⟩
    · exact .inl ⟨pid', process, lines, hp, choice, hmem⟩
  · rw [Config.procs_advanced_of_ne hpid] at hp'
    exact .inl ⟨pid', process', lines, hp', choice, hmem⟩

/-- In every run that meets the condition, once the file has been rebuilt its lines are
those of unexpired records, and a pending record with a line is being enrolled. -/
theorem served_of_run (hs : Orderly site.env start now s) (hfree : s.locks .authorizedKeys = none)
    (hzero : Time.zero < start)
    (hrun : Run (hostMachine site) (ClearGrowth site.env start now) (Config.idle s) c)
    (hrebuilt : RebuiltBy c) :
    Served now c.state ∧ ∀ record ∈ c.state.clients.files, record.status = .enrollmentPending →
      authorizedKeyBlob record.publicKey ∈ authorizedBlobs c.state.authorizedKeys →
      EnrolledBy site.env record.clientID c := by
  refine clear_invariant (I := fun c => RebuiltBy c →
    Served now c.state ∧ ∀ record ∈ c.state.clients.files, record.status = .enrollmentPending →
      authorizedKeyBlob record.publicKey ∈ authorizedBlobs c.state.authorizedKeys →
      EnrolledBy site.env record.clientID c) hrun ?_ ?_ ?_ hrebuilt
  · rintro ⟨pid, process, lines, hp, -⟩
    cases hp
  · rintro c pid call h hp ⟨pid', process, lines, hp', choice, hmem⟩
    have hne : pid' ≠ pid := by
      rintro rfl
      simp only [Config.started, Function.update_self, Option.some.injEq] at hp'
      subst hp'
      cases hmem
    simp only [Config.started, Function.update_of_ne hne] at hp'
    obtain ⟨hserved, henrolling⟩ := h ⟨pid', process, lines, hp', choice, hmem⟩
    exact ⟨hserved, fun record hrecord hstatus hthere =>
      (henrolling record hrecord hstatus hthere).started hp⟩
  · intro c pid process action choice reply state prog hrun h hp hperform hstep hrun' hrebuilt
    have horderly := orderly_of_run hs hrun
    have horderly' := orderly_of_run hs hrun'
    have hreads := readsCurrent_of_run hs hfree hrun pid process hp
    have hedits := unpublished_of_run hs hfree hrun pid process hp
    rcases hrebuilt.before hp with hbefore | ⟨lines, choice', hmem⟩
    · obtain ⟨hserved, henrolling⟩ := h hbefore
      refine ⟨hserved.step horderly hzero hreads hedits hstep, ?_⟩
      intro record hrecord hstatus hthere
      rcases hserved.enrolling_before horderly horderly' hzero hreads hstep hrecord hstatus hthere with
        ⟨hrecord₀, hthere₀⟩ | ⟨request, hrequest, hid⟩
      · exact (henrolling record hrecord₀ hstatus hthere₀).advanced hp
      · exact ⟨pid, _, Config.procs_advanced_self, request, hrequest, hid⟩
    · cases List.mem_singleton.1 hmem
      have hedit : editKeys pid (fun _ => lines) choice c.state = some (true, state) := hperform
      obtain ⟨-, rfl⟩ := editKeys_ok hedit
      obtain ⟨-, ⟨hblocks, -⟩ | ⟨hlocked, hlines⟩⟩ := hstep.guard
      · rw [entersBlocked_of_growing hstep.growing] at hblocks
        cases hblocks
      · refine ⟨served_of_rebuilt horderly hzero (hreads hlocked) hlines, ?_⟩
        intro record hrecord hstatus hthere
        exact absurd hthere
          (not_enrolling_of_rebuilt horderly hzero (hreads hlocked) hlines hrecord hstatus)

theorem RotatedBy.advanced {action : Action} {choice : Choice} {reply : action.Reply}
    (h : RotatedBy record.clientID c) (hp : c.procs pid = some process)
    (hperform : performAction site.env pid action choice c.state = some (reply, state))
    (hstep : ClearStep site start now pid process.call process.hist action choice c.state state)
    (hrecord : record ∈ state.clients.files) (hstatus : record.status = .rotationPending) :
    RotatedBy record.clientID (c.advanced pid process ⟨action, choice, reply⟩ prog state) := by
  obtain ⟨pid', process', hp', ⟨request, hrequest, hid⟩, ⟨begun, hbegun, hbegins⟩, hpublishes⟩ := h
  by_cases hpid : pid' = pid
  · subst hpid
    obtain rfl : process = process' := Option.some.inj (hp.symm.trans hp')
    refine ⟨pid', _, Config.procs_advanced_self, ⟨request, hrequest, hid⟩,
      ⟨begun, List.mem_cons_of_mem _ hbegun, hbegins⟩, ?_⟩
    rintro ⟨written, hactive, choice', hmem⟩
    rcases List.mem_cons.1 hmem with heq | hmem
    · -- a published record would be the stored one
      cases heq
      have hwritten : record.clientID = written.clientID :=
        ((hstep.growth.2.2.1 request hrequest).trans hid).symm
      obtain rfl := writeClient_ok hperform
      have hget := Directory.get_of_mem_files hrecord
      rw [hwritten, Directory.get_put_self, Option.some.injEq] at hget
      rw [hget, hstatus] at hactive
      cases hactive
    · exact hpublishes ⟨written, hactive, choice', hmem⟩
  · exact ⟨pid', process', (Config.procs_advanced_of_ne hpid).trans hp', ⟨request, hrequest, hid⟩,
      ⟨begun, hbegun, hbegins⟩, hpublishes⟩

/-- In every run that meets the condition from a host on which no rotation is pending, a
record that is rotating belongs to a rotation that is under way. -/
theorem rotatedBy_of_run (hquiet : ∀ record ∈ s.clients.files, record.status ≠ .rotationPending)
    (hrun : Run (hostMachine site) (ClearGrowth site.env start now) (Config.idle s) c) :
    ∀ record ∈ c.state.clients.files, record.status = .rotationPending →
      RotatedBy record.clientID c := by
  refine clear_invariant (I := fun c => ∀ record ∈ c.state.clients.files,
    record.status = .rotationPending → RotatedBy record.clientID c) hrun ?_ ?_ ?_
  · exact fun record hrecord hstatus => absurd hstatus (hquiet record hrecord)
  · intro c pid call h hp record hrecord hstatus
    obtain ⟨pid', process, hp', hrotates⟩ := h record hrecord hstatus
    exact ⟨pid', process, Config.procs_started_of_some hp hp', hrotates⟩
  · intro c pid process action choice reply state prog _ h hp hperform hstep _ record hrecord hstatus
    by_cases hrecord₀ : record ∈ c.state.clients.files
    · exact (h record hrecord₀ hstatus).advanced hp hperform hstep hrecord hstatus
    · -- the rotation begins with this write
      have haction : action = .writeClient record := by
        by_contra hne
        exact hrecord₀ (hstep.grown.mem_of_rotating hrecord hstatus hne)
      subst haction
      cases hstep.grown with
      | kept hclients _ =>
        have hrecord' : record ∈ state.clients.files := hrecord
        rw [hclients] at hrecord'
        exact absurd hrecord' hrecord₀
      | activated => cases hstatus
      | finished => cases hstatus
      | @began old request nextHash time howns _ hrequest hid hpublishes =>
        refine ⟨pid, _, Config.procs_advanced_self, ⟨request, hrequest, hid.symm⟩,
          ⟨_, List.mem_cons_self, by simp [Action.beginsRotation, beginRotation]⟩, ?_⟩
        rintro ⟨written, hactive, choice', hmem⟩
        rcases List.mem_cons.1 hmem with heq | hmem
        · cases heq
          cases hactive
        · exact hpublishes ⟨written, hactive, choice', hmem⟩

theorem activated_of_run
    (hrun : Run (hostMachine site) (ClearGrowth site.env start now) (Config.idle s) c) :
    c.Each fun _ _ hist s => ∀ clientID, Activated clientID hist →
      ∃ record, s.clients.get clientID = some record ∧ record.status ≠ .enrollmentPending := by
  refine clear_invariant (I := fun c => c.Each fun _ _ hist s => ∀ clientID,
    Activated clientID hist → ∃ record, s.clients.get clientID = some record ∧
      record.status ≠ .enrollmentPending) hrun .idle ?_ ?_
  · intro c pid call h _
    refine h.started ?_
    rintro clientID ⟨record, -, -, ⟨_, hmem⟩ | ⟨_, hmem⟩⟩
    · cases hmem
    · cases hmem
  · intro c pid process action choice reply state prog _ h hp hperform hstep _
    have hkeep : ∀ clientID, (∃ record, c.state.clients.get clientID = some record ∧
        record.status ≠ .enrollmentPending) → ∃ record, state.clients.get clientID = some record ∧
          record.status ≠ .enrollmentPending := by
      rintro clientID ⟨record, hget, hstatus⟩
      rcases hstep.grown.get_clients hget with hget' | ⟨written, -, -, hget', hlive, -⟩
      · exact ⟨record, hget', hstatus⟩
      · refine ⟨written, hget', fun hpending => ?_⟩
        rcases hlive with hlive | hlive <;> simp [hpending] at hlive
    refine h.advanced hp ?_ fun _ _ _ _ hother clientID hactivated =>
      hkeep clientID (hother clientID hactivated)
    intro hself clientID
    rintro ⟨record, hid, hstatus, ⟨choice', hmem⟩ | ⟨choice', hmem⟩⟩
    · rcases List.mem_cons.1 hmem with heq | hmem
      · cases heq
        obtain ⟨hget, rfl⟩ := readClient_found hperform
        exact ⟨record, hget, hstatus⟩
      · exact hkeep clientID (hself clientID ⟨record, hid, hstatus, .inl ⟨choice', hmem⟩⟩)
    · rcases List.mem_cons.1 hmem with heq | hmem
      · cases heq
        obtain rfl := writeClient_ok hperform
        exact ⟨record, hid ▸ Directory.get_put_self, hstatus⟩
      · exact hkeep clientID (hself clientID ⟨record, hid, hstatus, .inr ⟨choice', hmem⟩⟩)

theorem growthEnds_of_run
    (hrun : Run (hostMachine site) (ClearGrowth site.env start now) (Config.idle s) c)
    (hp : c.procs pid = some process) (hdone : process.Succeeded) :
    GrowthEnds site.env process.call process.hist := by
  have hpool : PoolGuarded (growthProtocol site) c := by
    apply hrun.poolGuarded
    · intros
      trivial
    · intro c pid call _
      exact ensures_growthProtocol call
  obtain ⟨outcome, houtcome, hends⟩ := hpool.ends hp hdone.finished
  exact hends (hrun.calls (fun _ _ hD => hD.1.1) pid process hp) (houtcome.2 hdone)

theorem rebuilds_of_reconciles (h : call.reconciles = true) : call.rebuilds = true := by
  cases call <;> first | rfl | cases h

/-- In every run of enrollments, rotations and rebuilds in which the lock of the file is
taken only while no client is between its edit of the file and its record: when all calls
have succeeded, among them a rebuild, the file has one line for each active unexpired
record and no other. -/
theorem reconciled_of_clearGrowth (hs : Orderly site.env start now s)
    (hquiet : ∀ record ∈ s.clients.files, record.status ≠ .rotationPending)
    (hfree : s.locks .authorizedKeys = none) (hzero : Time.zero < start)
    (hrun : Run (hostMachine site) (ClearGrowth site.env start now) (Config.idle s) c)
    (hdone : c.AllProcs Process.Succeeded) (hp : c.procs pid = some process)
    (hcall : process.call.reconciles = true) : Reconciled now c.state := by
  have hends : ∀ pid process, c.procs pid = some process →
      GrowthEnds site.env process.call process.hist :=
    fun pid process hp => growthEnds_of_run hrun hp (hdone pid process hp)
  have hrebuilt : RebuiltBy c := by
    obtain ⟨lines, hdid⟩ := (hends pid process hp).rebuilt (rebuilds_of_reconciles hcall)
    exact ⟨pid, process, lines, hp, hdid⟩
  obtain ⟨hserved, henrolling⟩ := served_of_run hs hfree hzero hrun hrebuilt
  have hrotating : ∀ record ∈ c.state.clients.files, record.status ≠ .rotationPending := by
    intro record hrecord hstatus
    obtain ⟨pid', process', hp', ⟨request, hrequest, hid⟩, ⟨begun, hbegun, hbegins⟩, hpublishes⟩ :=
      rotatedBy_of_run hquiet hrun record hrecord hstatus
    rcases (hends pid' process' hp').published request hrequest with hpublished | hnone
    · exact hpublishes hpublished
    · rw [← hid, hnone begun hbegun] at hbegins
      cases hbegins
  have hpending : ∀ record ∈ c.state.clients.files, record.status = .enrollmentPending →
      authorizedKeyBlob record.publicKey ∉ authorizedBlobs c.state.authorizedKeys := by
    intro record hrecord hstatus hthere
    obtain ⟨pid', process', hp', request, hrequest, hid⟩ := henrolling record hrecord hstatus hthere
    have hactivated := (hends pid' process' hp').activated request hrequest
    obtain ⟨current, hget, hcurrent⟩ := activated_of_run hrun pid' process' hp' _ hactivated
    rw [hid, Directory.get_of_mem_files hrecord, Option.some.injEq] at hget
    exact hcurrent (hget ▸ hstatus)
  constructor
  · intro record hrecord hstatus hun
    exact List.count_eq_one_of_mem hserved.nodup (hserved.active record hrecord hun hstatus)
  · intro line hline
    have hmem : line.blob ∈ authorizedBlobs c.state.authorizedKeys := List.mem_map_of_mem hline
    obtain ⟨record, hrecord, hun, ⟨hkey, hstatus | hactive | hstatus⟩ | ⟨-, hstatus⟩⟩ :=
      hserved.sound line.blob hmem
    · exact absurd (hkey ▸ hmem) (hpending record hrecord hstatus)
    · exact ⟨record, hrecord, hactive, hun, hkey⟩
    · exact absurd hstatus (hrotating record hrecord)
    · exact absurd hstatus (hrotating record hrecord)

end

theorem Scenario.orderly_host : Orderly Scenario.env Scenario.now Scenario.now Scenario.host := by
  constructor
  all_goals
    intro record hrecord
    cases hrecord

/-- A rebuild while a rotation has begun and not yet edited the file. -/
theorem reconciled_before_swap :
    Orderly Scenario.env Scenario.now Scenario.now Scenario.host ∧
    (∀ record ∈ Scenario.host.clients.files, record.status ≠ .rotationPending) ∧
    Scenario.host.locks .authorizedKeys = none ∧ Time.zero < Scenario.now ∧
    ∃ c process, Run (hostMachine Scenario.site)
        (ClearGrowth Scenario.env Scenario.now Scenario.now) (Config.idle Scenario.host) c ∧
      c.AllProcs Process.Succeeded ∧ c.procs 2 = some process ∧
      process.call.reconciles = true ∧ c.state.authorizedKeys ≠ [] ∧
      Reconciled Scenario.now c.state := by
  have hquiet : ∀ record ∈ Scenario.host.clients.files, record.status ≠ .rotationPending := by
    intro record hrecord
    cases hrecord
  obtain ⟨c, hrun, hdone, ⟨process, hprocess, hcall⟩, hlines⟩ := Run.exists_allProcs_of_runMoves
    (D := ClearGrowth Scenario.env Scenario.now Scenario.now) (M := hostMachine Scenario.site)
    (s := Scenario.host) (q := Process.Succeeded)
    ([.start 0 (Scenario.accept 'A')] ++ Scenario.steps 0 12 ++
      [.start 1 (.rotate (Scenario.management 'A' 'B') Scenario.now)] ++ Scenario.steps 1 4 ++
      [.start 2 .reconcileManaged] ++ Scenario.steps 2 6 ++ Scenario.steps 1 3)
    (fun c => (∃ process ∈ c.procs 2, process.call.reconciles = true) ∧
      c.state.authorizedKeys ≠ []) (by decide +kernel)
  exact ⟨Scenario.orderly_host, hquiet, rfl, by decide, c, process, hrun, hdone, hprocess, hcall,
    hlines, reconciled_of_clearGrowth Scenario.orderly_host hquiet rfl (by decide) hrun hdone
      hprocess hcall⟩

/-- A rebuild between the edit of an enrollment and its record. All calls succeed, and the
client is left with an active unexpired record and without a line. -/
theorem rebuild_undoes_enrollment :
    Orderly Scenario.env Scenario.now Scenario.now Scenario.host ∧
    ∃ c record, Run (hostMachine Scenario.site)
        (fun c move => Growing c move ∧ FreshKeys Scenario.env c move)
        (Config.idle Scenario.host) c ∧
      c.AllProcs Process.Succeeded ∧
      (∃ process, c.procs 1 = some process ∧ process.call.reconciles = true) ∧
      record ∈ c.state.clients.files ∧ record.status = .active ∧ Unexpired Scenario.now record ∧
      c.state.authorizedKeys = [] := by
  obtain ⟨c, hrun, hdone, hreconciles, record, hget, hactive, hun, hlines⟩ :=
    Run.exists_allProcs_of_runMoves
    (D := fun c move => Growing c move ∧ FreshKeys Scenario.env c move)
    (M := hostMachine Scenario.site) (s := Scenario.host) (q := Process.Succeeded)
    ([.start 0 (Scenario.accept 'A')] ++ Scenario.steps 0 5 ++
      [.start 1 .reconcileManaged] ++ Scenario.steps 1 5 ++ Scenario.steps 0 7)
    (fun c => (∃ process ∈ c.procs 1, process.call.reconciles = true) ∧
      ∃ record ∈ c.state.clients.get (Scenario.clientID 'A'), record.status = .active ∧
        Unexpired Scenario.now record ∧ c.state.authorizedKeys = []) (by decide +kernel)
  exact ⟨Scenario.orderly_host, c, record, hrun, hdone, hreconciles,
    Directory.mem_files_of_get hget, hactive, hun, hlines⟩

end WarpTweet
