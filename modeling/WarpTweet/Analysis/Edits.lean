import WarpTweet.Analysis.Growth
import WarpTweet.Analysis.EndedGrants
import WarpTweet.Analysis.Isolation

/-!
# Edits that wait for their record

Enrollments and rotations edit the authorization file first and publish the record
afterwards, under locks of their own; a rebuild reads the records and writes the whole
file, under the lock of the file. The condition of this module keeps the two apart: when
the lock of the file is taken, no client is between its edit and its record.

`Grown` says once what a step can do under the condition. The result is that an edit that
waits for its record is in the file, and that nobody holds the lock of the file meanwhile.
-/

namespace WarpTweet

open Strings Concurrency Storage

/-! ## Time -/

/-- The grant of the record has an end that has not come at `now`. -/
def Unexpired (now : Time) (record : ClientRecord) : Prop :=
  match record.authorizationNotAfter with
  | .at notAfter => readyToExpire notAfter now = false
  | _ => False

instance (now : Time) : DecidablePred (Unexpired now) := fun record => by
  unfold Unexpired
  split <;> infer_instance

/-- The grant does not end between `start` and `now`. -/
def Steady (start now : Time) (record : ClientRecord) : Prop :=
  Unexpired start record → Unexpired now record

instance (start now : Time) : DecidablePred (Steady start now) := fun _ => by
  unfold Steady
  infer_instance

section

variable {start now time : Time} {record other : ClientRecord}

theorem unexpired_at {notAfter : Time} (h : record.authorizationNotAfter = .at notAfter) :
    Unexpired now record ↔ readyToExpire notAfter now = false := by
  unfold Unexpired
  rw [h]

theorem unexpired_congr (h : other.authorizationNotAfter = record.authorizationNotAfter) :
    Unexpired now other ↔ Unexpired now record := by
  unfold Unexpired
  rw [h]

theorem Unexpired.earlier (h : Unexpired now record) (hzero : Time.zero < time)
    (hle : time ≤ now) : Unexpired time record := by
  unfold Unexpired at h ⊢
  split at h
  next notAfter _ =>
    have hnow : now ≠ Time.zero := Int.ne_of_gt (Int.lt_of_lt_of_le hzero hle)
    have htime : time ≠ Time.zero := Int.ne_of_gt hzero
    simp only [readyToExpire, Time.isZero, decide_eq_false hnow, decide_eq_false htime,
      Bool.or_false] at h ⊢
    split_ifs at h ⊢
    · rfl
    · simp only [Bool.not_eq_false', decide_eq_true_eq] at h ⊢
      exact Int.lt_of_le_of_lt hle h
  next => exact h

theorem Steady.iff (h : Steady start now record) (hzero : Time.zero < start)
    (hstart : start ≤ time) (hnow : time ≤ now) : Unexpired time record ↔ Unexpired now record :=
  ⟨fun hun => h (hun.earlier hzero hstart), fun hun => hun.earlier (Int.lt_of_lt_of_le hzero hstart) hnow⟩

end

/-! ## The blobs of the file -/

/-- The blobs of the lines of the authorization file. -/
def authorizedBlobs (lines : List AuthorizedLine) : List Text := lines.map AuthorizedLine.blob

section

variable {line : AuthorizedLine} {lines : List AuthorizedLine} {oldPublicKey blob : Text}

theorem mem_blobs_append : blob ∈ authorizedBlobs (appendAuthorizedKey line lines) ↔
    blob ∈ authorizedBlobs lines ∨ blob = line.blob := by
  unfold appendAuthorizedKey authorizedBlobs
  split_ifs with hthere
  · simp only [Bool.and_eq_true, List.any_eq_true, decide_eq_true_eq] at hthere
    obtain ⟨-, existing, hexisting, heq⟩ := hthere
    refine ⟨.inl, ?_⟩
    rintro (h | rfl)
    · exact h
    · exact List.mem_map.2 ⟨existing, hexisting, heq⟩
  · simp

theorem mem_blobs_replace :
    blob ∈ authorizedBlobs (replaceAuthorizedKeyForPublicKey oldPublicKey line lines) ↔
      blob = line.blob ∨ blob ∈ authorizedBlobs lines ∧
        (authorizedKeyBlob oldPublicKey = [] ∨ blob ≠ authorizedKeyBlob oldPublicKey) := by
  constructor
  · intro h
    obtain ⟨existing, hexisting, rfl⟩ := List.mem_map.1 h
    rcases mem_replaceAuthorizedKey hexisting with rfl | ⟨hmem, hold⟩
    · exact .inl rfl
    · exact .inr ⟨List.mem_map_of_mem hmem, hold⟩
  · intro h
    by_cases hnew : blob = line.blob
    · exact List.mem_map.2 ⟨line, by simp [replaceAuthorizedKeyForPublicKey], hnew.symm⟩
    · obtain ⟨hmem, hold⟩ := h.resolve_left hnew
      obtain ⟨existing, hexisting, rfl⟩ := List.mem_map.1 hmem
      exact List.mem_map_of_mem (mem_replaceAuthorizedKey_of_mem hexisting hold (.inr hnew))

theorem nodup_blobs_append (h : (authorizedBlobs lines).Nodup) (hblob : line.blob ≠ []) :
    (authorizedBlobs (appendAuthorizedKey line lines)).Nodup := by
  unfold appendAuthorizedKey
  split_ifs with hthere
  · exact h
  · have hnew : line.blob ∉ authorizedBlobs lines := by
      simpa [authorizedBlobs, hblob] using hthere
    simp only [authorizedBlobs, List.map_append, List.map_cons, List.map_nil]
    exact List.nodup_append.2 ⟨h, List.nodup_singleton _, by
      rintro existing hexisting _ hother rfl
      rw [List.mem_singleton.1 hother] at hexisting
      exact hnew hexisting⟩

theorem nodup_blobs_replace (h : (authorizedBlobs lines).Nodup) (hblob : line.blob ≠ []) :
    (authorizedBlobs (replaceAuthorizedKeyForPublicKey oldPublicKey line lines)).Nodup := by
  simp only [authorizedBlobs, replaceAuthorizedKeyForPublicKey, List.map_append, List.map_cons,
    List.map_nil]
  refine List.nodup_append.2 ⟨h.sublist (List.filter_sublist.map _), List.nodup_singleton _, ?_⟩
  rintro existing hexisting _ hother rfl
  obtain ⟨kept, hkept, hkeptBlob⟩ := List.mem_map.1 hexisting
  have hne := (List.mem_filter.1 hkept).2
  rw [List.mem_singleton.1 hother] at hkeptBlob
  simp [hkeptBlob, hblob] at hne

end

/-! ## The condition -/

/-- When the lock of the file is asked for, no enrollment and no rotation is between its
edit of the file and its record. -/
def ClearOfPending (s : Host) : Action → Prop
  | .lock .authorizedKeys _ => ∀ record ∈ s.clients.files,
      (record.status = .enrollmentPending →
        authorizedKeyBlob record.publicKey ∉ authorizedBlobs s.authorizedKeys) ∧
      (record.status = .rotationPending →
        authorizedKeyBlob record.pendingPublicKey ∉ authorizedBlobs s.authorizedKeys)
  | _ => True

/-- A line is put into the file only for a grant that has not ended, and by an enrollment
only while the record is enrolling or active with the requested key. -/
def InstallsUnexpired (env : Env) (now : Time) (s : Host) (call : Call) (hist : List HostStep) :
    Action → Prop
  | .appendKey _ => ∀ request ∈ call.enrollment,
      ∃ record ∈ s.clients.get (request.clientID env),
        (record.status = .enrollmentPending ∨ record.status = .active) ∧
          record.publicKey = trimSpace request.publicKey ∧ Unexpired now record
  | .replaceKey _ _ => ∀ clientID ∈ lastClient hist, ∀ record ∈ s.clients.get clientID,
      Unexpired now record
  | _ => True

/-- The clock is read between `start` and `now`, and no enrolled grant ends in between. -/
def Timely (start now : Time) (choice : Choice) : Action → Prop
  | .now => start ≤ choice.time ∧ choice.time ≤ now
  | .storeClient record => Steady start now record
  | _ => True

instance (s : Host) (action : Action) : Decidable (ClearOfPending s action) := by
  unfold ClearOfPending
  split <;> infer_instance

instance (env : Env) (now : Time) (s : Host) (call : Call) (hist : List HostStep)
    (action : Action) : Decidable (InstallsUnexpired env now s call hist action) := by
  unfold InstallsUnexpired
  split <;> infer_instance

instance (start now : Time) (choice : Choice) (action : Action) :
    Decidable (Timely start now choice action) := by
  unfold Timely
  split <;> infer_instance

/-- The condition on one action. -/
def GrowsClear (env : Env) (start now : Time) (s : Host) (call : Call) (hist : List HostStep)
    (action : Action) (choice : Choice) : Prop :=
  NamesFreshKey env s action ∧ ClearOfPending s action ∧
    InstallsUnexpired env now s call hist action ∧ Timely start now choice action

instance (env : Env) (start now : Time) (s : Host) (call : Call) (hist : List HostStep)
    (action : Action) (choice : Choice) :
    Decidable (GrowsClear env start now s call hist action choice) :=
  inferInstanceAs (Decidable (_ ∧ _ ∧ _ ∧ _))

/-- Enrollments, rotations and rebuilds, none of which is stopped. -/
abbrev Growing (c : Pool) (move : HostMove) : Prop :=
  Starts (fun call : Call => call.growing = true) c move ∧ NoStop c move

/-- Enrollments, rotations and rebuilds that meet the condition. -/
abbrev ClearGrowth (env : Env) (start now : Time) : Pool → HostMove → Prop := fun c move =>
  Growing c move ∧
    OnAction (fun c process action choice =>
      GrowsClear env start now c.state process.call process.hist action choice) c move

/-! ## What one step does -/

/-- A line with the blob is swapped in for the record, away from the old key: from the
public key while the rotation is pending, from the previous one when it is repeated. -/
def Swaps (record : ClientRecord) (oldPublicKey blob : Text) : Prop :=
  record.status = .rotationPending ∧ oldPublicKey = record.publicKey ∧
      blob = authorizedKeyBlob record.pendingPublicKey ∨
    record.status = .active ∧ oldPublicKey = record.previousPublicKey ∧
      blob = authorizedKeyBlob record.publicKey

/-- Everything that an action of an enrollment, a rotation or a rebuild can do to the
records and the file while the condition is met. -/
inductive Grown (site : Site) (start now : Time) (pid : ℕ) (call : Call) (hist : List HostStep)
    (s : Host) : Action → Host → Prop
  | kept {action : Action} {s' : Host} : s'.clients = s.clients →
      s'.authorizedKeys = s.authorizedKeys → Grown site start now pid call hist s action s'
  | stored {record : ClientRecord} : s.clients.get record.clientID = none →
      record.status = .enrollmentPending → isHexID record.clientID = true →
      Steady start now record →
      Grown site start now pid call hist s (.storeClient record)
        { s with clients := s.clients.put record }
  | activated {old : ClientRecord} {request : EnrollmentRequest} {line : AuthorizedLine} :
      Owns pid old hist s → old.status = .enrollmentPending → request ∈ call.enrollment →
      old.clientID = request.clientID site.env → Did hist (.appendKey line) true →
      line.blob = authorizedKeyBlob old.publicKey →
      Grown site start now pid call hist s (.writeClient { old with status := .active })
        { s with clients := s.clients.put { old with status := .active } }
  | began {old : ClientRecord} {request : ManagementRequest} {nextHash : Text} {time : Time} :
      Owns pid old hist s → old.status = .active → request ∈ call.rotation →
      old.clientID = request.clientID → ¬ Publishes hist →
      Grown site start now pid call hist s
        (.writeClient (beginRotation old (trimSpace request.newPublicKey) nextHash time))
        { s with clients :=
            s.clients.put (beginRotation old (trimSpace request.newPublicKey) nextHash time) }
  | finished {old : ClientRecord} {request : ManagementRequest} {nextHash : Text} {time : Time}
      {line : AuthorizedLine} :
      Owns pid old hist s → old.status = .rotationPending → request ∈ call.rotation →
      Did (recent old.clientID hist) (.replaceKey old.publicKey line) true →
      Grown site start now pid call hist s
        (.writeClient (finishRotation site.env old old.pendingPublicKey nextHash time))
        { s with clients :=
            s.clients.put (finishRotation site.env old old.pendingPublicKey nextHash time) }
  | appended {record : ClientRecord} {request : EnrollmentRequest} {line : AuthorizedLine} :
      MayEditKeys pid s → request ∈ call.enrollment →
      s.clients.get (request.clientID site.env) = some record →
      record.status = .enrollmentPending ∨ record.status = .active → Unexpired now record →
      line.blob = authorizedKeyBlob record.publicKey → line.blob ≠ [] →
      Grown site start now pid call hist s (.appendKey line)
        { s with authorizedKeys := appendAuthorizedKey line s.authorizedKeys }
  | swapped {record : ClientRecord} {request : ManagementRequest} {oldPublicKey : Text}
      {line : AuthorizedLine} :
      MayEditKeys pid s → Owns pid record hist s → request ∈ call.rotation →
      Unexpired now record → line.blob ≠ [] → Swaps record oldPublicKey line.blob →
      Grown site start now pid call hist s (.replaceKey oldPublicKey line)
        { s with authorizedKeys :=
            replaceAuthorizedKeyForPublicKey oldPublicKey line s.authorizedKeys }
  | rebuilt {lines : List AuthorizedLine} : s.locks .authorizedKeys = some pid →
      Rebuilt site (sinceLock .authorizedKeys hist) lines →
      Grown site start now pid call hist s (.writeKeys lines) { s with authorizedKeys := lines }

variable {line : AuthorizedLine} {oldPublicKey clientID publicKey : Text} {other : ClientRecord}

section

variable {site : Site} {start now : Time} {pid : ℕ} {call : Call} {hist : List HostStep}
  {action : Action} {choice : Choice} {s s' : Host} {record : ClientRecord}

theorem since_subset {mark : Action → Bool} : since mark hist ⊆ hist :=
  List.takeWhile_subset _

theorem entersBlocked_of_growing (h : call.growing = true) : call.entersBlocked = false := by
  cases call <;> first | rfl | cases h

/-- A live record is written by an activation, or at the beginning or the end of a
rotation. -/
theorem grown_of_clientWrite {written : ClientRecord}
    (hgrowth : GrowthStep site.env call hist (.writeClient written))
    (hwrite : ClientWrite site pid call hist s written) :
    Grown site start now pid call hist s (.writeClient written)
      { s with clients := s.clients.put written } := by
  obtain ⟨hlive, henrollment, hrotation, hbegins⟩ := hgrowth
  cases hwrite with
  | activate howns henrolls hrequest _ _ hdid hblob =>
    exact .activated howns henrolls.pending hrequest (henrollment _ hrequest)
      (hdid.mono since_subset) hblob
  | beginRotation howns hrequest hstatus _ =>
    exact .began howns hstatus hrequest (hrotation _ hrequest) (hbegins rfl)
  | finishRotation howns hrequest hstatus hpending _ hdid _ =>
    rw [← hpending]
    exact .finished howns hstatus hrequest hdid
  | beginRevocation => simp [Live, WarpTweet.beginRevocation] at hlive
  | finishRevocation => simp [Live, WarpTweet.finishRevocation] at hlive
  | finishRevocationAsHost => simp [Live, WarpTweet.finishRevocation] at hlive
  | beginExpiration => simp [Live, WarpTweet.beginExpiration] at hlive
  | finishExpiration => simp [Live, WarpTweet.finishExpiration] at hlive

theorem appends_of_guard (hinstalls : InstallsUnexpired site.env now s call hist (.appendKey line))
    (hguard : Guard site pid call hist (.appendKey line) choice s) :
    ∃ request record, request ∈ call.enrollment ∧
      s.clients.get (request.clientID site.env) = some record ∧
      (record.status = .enrollmentPending ∨ record.status = .active) ∧ Unexpired now record ∧
      line.blob = authorizedKeyBlob record.publicKey ∧ line.blob ≠ [] := by
  obtain ⟨request, notAfter, hinstall, hrendered⟩ := hguard
  obtain ⟨record, hget, hstatus, hkey, hunexpired⟩ := hinstalls request hinstall.enrollment
  obtain ⟨hblob, rfl⟩ := renderAuthorizedKeyForTarget_eq_ok hrendered
  rw [← hkey] at hblob ⊢
  exact ⟨request, record, hinstall.enrollment, hget, hstatus, hunexpired, rfl, hblob⟩

theorem swaps_of_guard
    (hinstalls : InstallsUnexpired site.env now s call hist (.replaceKey oldPublicKey line))
    (hguard : Guard site pid call hist (.replaceKey oldPublicKey line) choice s) :
    ∃ request record, request ∈ call.rotation ∧ Owns pid record hist s ∧ Unexpired now record ∧
      line.blob ≠ [] ∧ Swaps record oldPublicKey line.blob := by
  obtain ⟨request, record, hreplaces⟩ := hguard
  obtain ⟨notAfter, hrendered⟩ := hreplaces.rendered
  obtain ⟨hblob, rfl⟩ := renderAuthorizedKeyForTarget_eq_ok hrendered
  have hunexpired := hinstalls _ hreplaces.owns.current record hreplaces.owns.stored
  refine ⟨request, record, hreplaces.rotation, hreplaces.owns, hunexpired, hblob, ?_⟩
  rw [← authorizedKeyBlob_trimSpace]
  refine hreplaces.keys.imp ?_ ?_
  · rintro ⟨hstatus, hold, hnew⟩
    exact ⟨hstatus, hold, by rw [hnew]⟩
  · rintro ⟨hstatus, hold, hnew⟩
    exact ⟨hstatus, hold, by rw [hnew]⟩

theorem grown_of_guard (hgrowing : call.growing = true)
    (hgrowth : GrowthStep site.env call hist action)
    (hclear : GrowsClear site.env start now s call hist action choice)
    (hguard : Guard site pid call hist action choice s) (heffect : Effect pid choice s action s') :
    Grown site start now pid call hist s action s' := by
  obtain ⟨-, -, hinstalls, htimely⟩ := hclear
  cases heffect with
  | kept hsame => exact .kept hsame.clients hsame.authorizedKeys
  | storeClient _ hnew =>
    have hstores : StoresClient site pid call s _ := hguard
    obtain ⟨request, invite, published, now', notAfter, -, -, -, rfl⟩ := hstores.wanted
    exact .stored hnew rfl hstores.hexID htimely
  | writeClient _ => exact grown_of_clientWrite hgrowth hguard
  | appendKey _ hmay =>
    obtain ⟨request, record, hrequest, hget, hstatus, hunexpired, hline, hblob⟩ :=
      appends_of_guard hinstalls hguard
    exact .appended hmay hrequest hget hstatus hunexpired hline hblob
  | replaceKey _ hmay =>
    obtain ⟨request, record, hrequest, howns, hunexpired, hblob, hswaps⟩ :=
      swaps_of_guard hinstalls hguard
    exact .swapped hmay howns hrequest hunexpired hblob hswaps
  | removeKey _ _ => exact hgrowth.elim
  | writeKeys _ _ =>
    obtain ⟨-, ⟨hblocks, -⟩ | ⟨hlocked, hrebuilt⟩⟩ := hguard
    · rw [entersBlocked_of_growing hgrowing] at hblocks
      cases hblocks
    · exact .rebuilt hlocked hrebuilt
  | _ => exact .kept rfl rfl

/-- A step of a growing call that meets the condition. -/
structure ClearStep (site : Site) (start now : Time) (pid : ℕ) (call : Call)
    (hist : List HostStep) (action : Action) (choice : Choice) (s s' : Host) : Prop where
  growing : call.growing = true
  growth : GrowthStep site.env call hist action
  clear : GrowsClear site.env start now s call hist action choice
  guard : Guard site pid call hist action choice s
  effect : Effect pid choice s action s'

theorem ClearStep.grown (h : ClearStep site start now pid call hist action choice s s') :
    Grown site start now pid call hist s action s' :=
  grown_of_guard h.growing h.growth h.clear h.guard h.effect

theorem Grown.get_clients (h : Grown site start now pid call hist s action s')
    (hget : s.clients.get clientID = some record) : s'.clients.get clientID = some record ∨
      ∃ written, action = .writeClient written ∧ written.clientID = clientID ∧
        s'.clients.get clientID = some written ∧ Live written ∧
        written.authorizationNotAfter = record.authorizationNotAfter := by
  -- the three writes continue the stored record of their own client
  have hput : ∀ {old written : ClientRecord}, Owns pid old hist s →
      written.clientID = old.clientID → Live written →
      written.authorizationNotAfter = old.authorizationNotAfter →
      (s.clients.put written).get clientID = some record ∨
        ∃ written', Action.writeClient written = .writeClient written' ∧
          written'.clientID = clientID ∧ (s.clients.put written).get clientID = some written' ∧
          Live written' ∧ written'.authorizationNotAfter = record.authorizationNotAfter := by
    intro old written howns hid hlive hend
    by_cases heq : clientID = written.clientID
    · subst heq
      have hsame : record = old := Directory.file_unique hget howns.stored hid
      exact .inr ⟨written, rfl, rfl, Directory.get_put_self, hlive, by rw [hend, hsame]⟩
    · exact .inl (by rw [Directory.get_put_of_ne heq, hget])
  cases h with
  | kept hclients _ => exact .inl (by rw [hclients, hget])
  | stored hnew _ _ _ =>
    refine .inl ?_
    rw [Directory.get_put_of_ne, hget]
    rintro rfl
    rw [hnew] at hget
    cases hget
  | activated howns _ _ _ _ _ => exact hput howns rfl (.inl rfl) rfl
  | began howns _ _ _ _ => exact hput howns rfl (.inr rfl) rfl
  | finished howns _ _ _ => exact hput howns rfl (.inl rfl) rfl
  | appended | swapped | rebuilt => exact .inl hget

/-- A record that is stored after a step was stored before, is a new pending one, or
continues a stored one. -/
theorem Grown.mem_clients
    (h : Grown site start now pid call hist s action s') (hrecord : record ∈ s'.clients.files) :
    record ∈ s.clients.files ∨
      (action = .storeClient record ∧ s.clients.get record.clientID = none ∧
        record.status = .enrollmentPending ∧ isHexID record.clientID = true ∧
        Steady start now record) ∨
      ∃ old ∈ s.clients.files, old.clientID = record.clientID ∧
        record.authorizationNotAfter = old.authorizationNotAfter ∧ action = .writeClient record ∧
        Live record := by
  cases h with
  | kept hclients _ => exact .inl (hclients ▸ hrecord)
  | stored hnew hstatus hhex hsteady =>
    rcases Directory.mem_files_put.1 hrecord with rfl | ⟨hrecord, -⟩
    · exact .inr (.inl ⟨rfl, hnew, hstatus, hhex, hsteady⟩)
    · exact .inl hrecord
  | activated howns _ _ _ _ _ =>
    rcases Directory.mem_files_put.1 hrecord with rfl | ⟨hrecord, -⟩
    · exact .inr (.inr ⟨_, Directory.mem_files_of_get howns.stored, rfl, rfl, rfl, .inl rfl⟩)
    · exact .inl hrecord
  | began howns _ _ _ _ =>
    rcases Directory.mem_files_put.1 hrecord with rfl | ⟨hrecord, -⟩
    · exact .inr (.inr ⟨_, Directory.mem_files_of_get howns.stored, rfl, rfl, rfl, .inr rfl⟩)
    · exact .inl hrecord
  | finished howns _ _ _ =>
    rcases Directory.mem_files_put.1 hrecord with rfl | ⟨hrecord, -⟩
    · exact .inr (.inr ⟨_, Directory.mem_files_of_get howns.stored, rfl, rfl, rfl, .inl rfl⟩)
    · exact .inl hrecord
  | appended | swapped | rebuilt => exact .inl hrecord

/-! ## Orderly records -/

/-- The records hold keys of their own, are named so that a rebuild lists them, and do not
end between `start` and `now`. -/
structure Orderly (env : Env) (start now : Time) (s : Host) : Prop where
  keys : DistinctKeys env s
  hexIDs : ∀ record ∈ s.clients.files, isHexID record.clientID = true
  steady : ∀ record ∈ s.clients.files, Steady start now record

theorem Orderly.step (h : Orderly site.env start now s)
    (hstep : ClearStep site start now pid call hist action choice s s') :
    Orderly site.env start now s' where
  keys := h.keys.step hstep.clear.1 hstep.guard hstep.effect
  hexIDs record hrecord := by
    rcases hstep.grown.mem_clients hrecord with
      hrecord | ⟨-, -, -, hhex, -⟩ | ⟨old, hold, hid, -, -, -⟩
    · exact h.hexIDs record hrecord
    · exact hhex
    · exact hid ▸ h.hexIDs old hold
  steady record hrecord := by
    rcases hstep.grown.mem_clients hrecord with
      hrecord | ⟨-, -, -, -, hsteady⟩ | ⟨old, hold, -, hend, -, -⟩
    · exact h.steady record hrecord
    · exact hsteady
    · intro hun
      rw [unexpired_congr hend] at hun ⊢
      exact h.steady old hold hun

theorem Orderly.apart {env : Env} {publicKey' : Text}
    (h : Orderly env start now s) (hother : other ∈ s.clients.files)
    (hrecord : record ∈ s.clients.files) (hne : other.clientID ≠ record.clientID)
    (hkey : publicKey ∈ other.keys) (hkey' : publicKey' ∈ record.keys) :
    authorizedKeyBlob publicKey = [] ∨ authorizedKeyBlob publicKey' ≠ authorizedKeyBlob publicKey :=
  blob_ne_of_sameKey (h.keys other hother record hrecord hne publicKey hkey publicKey' hkey')

end

/-! ## Runs -/

section

variable {site : Site} {start now : Time} {s : Host} {c : Pool}

theorem clear_invariant {I : Pool → Prop}
    (hrun : Run (hostMachine site) (ClearGrowth site.env start now) (Config.idle s) c)
    (h₀ : I (Config.idle s))
    (hstart : ∀ {c pid call}, I c → c.procs pid = none → I (c.started (hostMachine site) pid call))
    (hadvance : ∀ {c pid process action choice reply state prog},
      Run (hostMachine site) (ClearGrowth site.env start now) (Config.idle s) c → I c →
      c.procs pid = some process →
      performAction site.env pid action choice c.state = some (reply, state) →
      ClearStep site start now pid process.call process.hist action choice c.state state →
      Run (hostMachine site) (ClearGrowth site.env start now) (Config.idle s)
        (c.advanced pid process ⟨action, choice, reply⟩ prog state) →
      I (c.advanced pid process ⟨action, choice, reply⟩ prog state)) : I c := by
  refine run_invariant (I := I) hrun h₀ ?_ ?_ ?_
  · intro c pid call _ h _ hp
    exact hstart h hp
  · intro c pid process action rest choice reply state hrun h hD hp hprog hguard hperform hrun'
    have hgrowing : process.call.growing = true :=
      hrun.calls (fun _ _ hD => hD.1.1) pid process hp
    have hpool : PoolGuarded (growthProtocol site) c := by
      apply hrun.poolGuarded
      · intros
        trivial
      · intro c pid call _
        exact ensures_growthProtocol call
    have hgrowth : process.call.growing = true → GrowthStep site.env process.call
        process.hist action :=
      hpool.guard hp hprog trivial hperform
    exact hadvance hrun h hp hperform ⟨hgrowing, hgrowth hgrowing, hD.2.condition hp hprog, hguard,
      effect_of_perform hperform⟩ hrun'
  · intro c pid process _ _ hD _
    exact hD.1.2.elim

theorem orderly_of_run (hs : Orderly site.env start now s)
    (hrun : Run (hostMachine site) (ClearGrowth site.env start now) (Config.idle s) c) :
    Orderly site.env start now c.state := by
  refine clear_invariant (I := fun c => Orderly site.env start now c.state) hrun hs ?_ ?_
  · intro c pid call h _
    exact h
  · intro c pid process action choice reply state prog _ h _ _ hstep _
    exact h.step hstep

theorem rebuilds_of_locked (hfree : s.locks .authorizedKeys = none)
    (hrun : Run (hostMachine site) (ClearGrowth site.env start now) (Config.idle s) c) :
    ∀ pid, c.state.locks .authorizedKeys = some pid →
      ∃ process, c.procs pid = some process ∧ process.call.rebuilds = true := by
  refine clear_invariant (I := fun c => ∀ pid, c.state.locks .authorizedKeys = some pid →
    ∃ process, c.procs pid = some process ∧ process.call.rebuilds = true) hrun ?_ ?_ ?_
  · intro pid hlocked
    have hlocked' : s.locks .authorizedKeys = some pid := hlocked
    rw [hfree] at hlocked'
    cases hlocked'
  · intro c pid call h hp pid' hlocked
    obtain ⟨process, hprocess, hrebuilds⟩ := h pid' hlocked
    exact ⟨process, Config.procs_started_of_some hp hprocess, hrebuilds⟩
  · intro c pid process action choice reply state prog _ h hp _ hstep _ pid' hlocked
    by_cases hpid : pid' = pid
    · subst hpid
      refine ⟨_, Config.procs_advanced_self, ?_⟩
      rcases hstep.effect.locks hlocked with hlocked | ⟨-, wait, rfl⟩
      · obtain ⟨holder, hholder, hrebuilds⟩ := h pid' hlocked
        rw [hp, Option.some.injEq] at hholder
        exact hholder ▸ hrebuilds
      · exact hstep.growth
    · rcases hstep.effect.locks hlocked with hlocked | ⟨heq, -⟩
      · obtain ⟨holder, hholder, hrebuilds⟩ := h pid' hlocked
        exact ⟨holder, (Config.procs_advanced_of_ne hpid).trans hholder, hrebuilds⟩
      · exact absurd heq hpid

end

/-! ## Edits that are not yet published -/

/-- The client has a record, and while that is pending its line is in the file and nobody
holds the lock of the file. -/
def EnrollingLine (clientID : Text) (s : Host) : Prop :=
  ∃ record, s.clients.get clientID = some record ∧
    (record.status = .enrollmentPending → authorizedKeyBlob record.publicKey ≠ [] ∧
      authorizedKeyBlob record.publicKey ∈ authorizedBlobs s.authorizedKeys ∧
      s.locks .authorizedKeys = none)

/-- The line of the pending key is in the file in place of the line of the public key, and
nobody holds the lock of the file. -/
structure SwappedLine (record : ClientRecord) (s : Host) : Prop where
  parsable : authorizedKeyBlob record.pendingPublicKey ≠ []
  mem : authorizedKeyBlob record.pendingPublicKey ∈ authorizedBlobs s.authorizedKeys
  gone : authorizedKeyBlob record.publicKey ≠ [] →
    authorizedKeyBlob record.publicKey ∈ authorizedBlobs s.authorizedKeys →
    authorizedKeyBlob record.publicKey = authorizedKeyBlob record.pendingPublicKey
  free : s.locks .authorizedKeys = none

/-- What the edits of a process that are not yet published say about the stored record. -/
structure Unpublished (env : Env) (pid : ℕ) (call : Call) (hist : List HostStep) (s : Host) :
    Prop where
  appended : ∀ request ∈ call.enrollment, ∀ line, Did hist (.appendKey line) true →
    EnrollingLine (request.clientID env) s
  swapped : ∀ record, Held pid record.clientID hist s → ∀ oldPublicKey line,
    Did (recent record.clientID hist) (.replaceKey oldPublicKey line) true →
    record ∈ s.clients.files → record.status = .rotationPending → SwappedLine record s

section

variable {site : Site} {start now : Time} {pid : ℕ} {call : Call} {hist : List HostStep}
  {action : Action} {choice : Choice} {reply : action.Reply} {s s' : Host}
  {record : ClientRecord}

theorem ClearStep.free_of_enrolling (h : ClearStep site start now pid call hist action choice s s')
    (hrecord : record ∈ s.clients.files) (hstatus : record.status = .enrollmentPending)
    (hthere : authorizedKeyBlob record.publicKey ∈ authorizedBlobs s.authorizedKeys)
    (hfree : s.locks .authorizedKeys = none) : s'.locks .authorizedKeys = none := by
  cases hlocked : s'.locks .authorizedKeys with
  | none => rfl
  | some holder =>
    rcases h.effect.locks hlocked with hheld | ⟨-, wait, rfl⟩
    · rw [hfree] at hheld
      cases hheld
    · exact absurd hthere ((h.clear.2.1 record hrecord).1 hstatus)

theorem ClearStep.free_of_rotating (h : ClearStep site start now pid call hist action choice s s')
    (hrecord : record ∈ s.clients.files) (hstatus : record.status = .rotationPending)
    (hthere : authorizedKeyBlob record.pendingPublicKey ∈ authorizedBlobs s.authorizedKeys)
    (hfree : s.locks .authorizedKeys = none) : s'.locks .authorizedKeys = none := by
  cases hlocked : s'.locks .authorizedKeys with
  | none => rfl
  | some holder =>
    rcases h.effect.locks hlocked with hheld | ⟨-, wait, rfl⟩
    · rw [hfree] at hheld
      cases hheld
    · exact absurd hthere ((h.clear.2.1 record hrecord).2 hstatus)

section

variable (h : Grown site start now pid call hist s action s')
  (hs : Orderly site.env start now s)
  (hrecord : record ∈ s.clients.files)
include h hs hrecord

theorem Grown.blob_of_enrolling (hstatus : record.status = .enrollmentPending)
    (hthere : authorizedKeyBlob record.publicKey ∈ authorizedBlobs s.authorizedKeys)
    (hfree : s.locks .authorizedKeys = none) :
    authorizedKeyBlob record.publicKey ∈ authorizedBlobs s'.authorizedKeys := by
  cases h with
  | kept _ hkeys => rwa [hkeys]
  | appended => exact mem_blobs_append.2 (.inl hthere)
  | @swapped owner _ _ _ _ howns _ _ _ hkeys =>
    have hne : owner.clientID ≠ record.clientID := by
      intro hid
      obtain rfl := Directory.file_unique howns.stored (Directory.get_of_mem_files hrecord) hid
      rcases hkeys with ⟨hother, -⟩ | ⟨hother, -⟩ <;> simp [hstatus] at hother
    refine mem_blobs_replace.2 (.inr ⟨hthere, ?_⟩)
    refine hs.apart (Directory.mem_files_of_get howns.stored) hrecord hne ?_
      (by simp [ClientRecord.keys])
    rcases hkeys with ⟨-, rfl, -⟩ | ⟨-, rfl, -⟩ <;> simp [ClientRecord.keys]
  | rebuilt hlocked _ =>
    rw [hfree] at hlocked
    cases hlocked
  | _ => exact hthere

/-- The lines of a rotating client stay while another client is served and nobody holds
the lock of the file. -/
theorem Grown.blob_of_rotating
    (hstatus : record.status = .rotationPending) (hkey : publicKey ∈ record.keys)
    (hblob : authorizedKeyBlob publicKey ≠ []) (hfree : s.locks .authorizedKeys = none)
    (hother : ∀ oldPublicKey line, action = .replaceKey oldPublicKey line →
      ¬ Owns pid record hist s) : authorizedKeyBlob publicKey ∈ authorizedBlobs s'.authorizedKeys ↔
      authorizedKeyBlob publicKey ∈ authorizedBlobs s.authorizedKeys := by
  cases h with
  | kept _ hkeys => rw [hkeys]
  | @appended installed request line _ _ hget hinstalled _ hline _ =>
    have hmem := Directory.mem_files_of_get hget
    have hne : installed.clientID ≠ record.clientID := by
      intro hid
      obtain rfl := Directory.eq_of_key_eq hmem hrecord hid
      rcases hinstalled with hinstalled | hinstalled <;> simp [hstatus] at hinstalled
    rw [mem_blobs_append, or_iff_left]
    intro heq
    have hinstalledKey : installed.publicKey ∈ installed.keys := by simp [ClientRecord.keys]
    rcases hs.apart hmem hrecord hne hinstalledKey hkey with hnil | hapart
    · rw [heq, hline] at hblob
      exact hblob hnil
    · exact hapart (heq.trans hline)
  | @swapped owner _ oldPublicKey line _ howns _ _ _ hkeys =>
    have hmem := Directory.mem_files_of_get howns.stored
    have hne : owner.clientID ≠ record.clientID := by
      intro hid
      have hsame := Directory.file_unique howns.stored (Directory.get_of_mem_files hrecord) hid
      exact hother _ _ rfl (hsame ▸ howns)
    have hapart : ∀ key ∈ owner.keys, authorizedKeyBlob key = [] ∨
        authorizedKeyBlob publicKey ≠ authorizedKeyBlob key :=
      fun key hmemKey => hs.apart hmem hrecord hne hmemKey hkey
    have hold : authorizedKeyBlob oldPublicKey = [] ∨
        authorizedKeyBlob publicKey ≠ authorizedKeyBlob oldPublicKey := by
      refine hapart _ ?_
      rcases hkeys with ⟨-, rfl, -⟩ | ⟨-, rfl, -⟩ <;> simp [ClientRecord.keys]
    have hnew : authorizedKeyBlob publicKey ≠ line.blob := by
      intro heq
      obtain ⟨key, hmemKey, hline⟩ : ∃ key ∈ owner.keys, line.blob = authorizedKeyBlob key := by
        rcases hkeys with ⟨-, -, hline⟩ | ⟨-, -, hline⟩
        · exact ⟨_, by simp [ClientRecord.keys], hline⟩
        · exact ⟨_, by simp [ClientRecord.keys], hline⟩
      rcases hapart key hmemKey with hnil | hne'
      · exact hblob (by rw [heq, hline, hnil])
      · exact hne' (heq.trans hline)
    rw [mem_blobs_replace, or_iff_right hnew, and_iff_left hold]
  | rebuilt hlocked _ =>
    rw [hfree] at hlocked
    cases hlocked
  | _ => rfl

end

theorem EnrollingLine.step (h : EnrollingLine clientID s) (hs : Orderly site.env start now s)
    (hstep : ClearStep site start now pid call hist action choice s s') :
    EnrollingLine clientID s' := by
  obtain ⟨record, hget, hline⟩ := h
  have hrecord := Directory.mem_files_of_get hget
  rcases hstep.grown.get_clients hget with hget' | ⟨written, -, -, hget', hlive, -⟩
  · refine ⟨record, hget', fun hstatus => ?_⟩
    obtain ⟨hblob, hthere, hfree⟩ := hline hstatus
    exact ⟨hblob, hstep.grown.blob_of_enrolling hs hrecord hstatus hthere hfree,
      hstep.free_of_enrolling hrecord hstatus hthere hfree⟩
  · refine ⟨written, hget', fun hstatus => ?_⟩
    rcases hlive with hlive | hlive <;> simp [hstatus] at hlive

theorem swappedLine_of_swaps
    (hswaps : Swaps record oldPublicKey line.blob) (hstatus : record.status = .rotationPending)
    (hblob : line.blob ≠ []) (hfree : s.locks .authorizedKeys = none)
    (hs' : s' = { s with authorizedKeys :=
      replaceAuthorizedKeyForPublicKey oldPublicKey line s.authorizedKeys }) :
    SwappedLine record s' := by
  subst hs'
  rcases hswaps with ⟨-, rfl, hline⟩ | ⟨hactive, -, -⟩
  · refine ⟨hline ▸ hblob, mem_blobs_replace.2 (.inl hline.symm), fun hpublic hmem => ?_, hfree⟩
    rcases mem_blobs_replace.1 hmem with heq | ⟨-, hnil | hne⟩
    · exact heq.trans hline
    · exact absurd hnil hpublic
    · exact absurd rfl hne
  · simp [hstatus] at hactive

theorem free_of_mayEdit (hmay : MayEditKeys pid s)
    (hrebuilds : s.locks .authorizedKeys = some pid → call.rebuilds = true)
    (hserves : call.enrollment ≠ none ∨ call.rotation ≠ none) : s.locks .authorizedKeys = none := by
  rcases hmay with hfree | hlocked
  · exact hfree
  · have hcall := hrebuilds hlocked
    cases call <;> simp_all [Call.rebuilds, Call.enrollment, Call.rotation]

theorem Owns.eq (h : Owns pid record hist s) (h' : Owns pid other hist s) : record = other := by
  have hid := h.current.symm.trans h'.current
  exact Directory.file_unique h.stored h'.stored (Option.some.inj hid)

theorem SwappedLine.step (h : SwappedLine record s) (hs : Orderly site.env start now s)
    (hrecord : record ∈ s.clients.files) (hstatus : record.status = .rotationPending)
    (hstep : ClearStep site start now pid call hist action choice s s') : SwappedLine record s' := by
  have hfree' := hstep.free_of_rotating hrecord hstatus h.mem h.free
  by_cases hown : (∃ oldPublicKey line, action = .replaceKey oldPublicKey line) ∧
      Owns pid record hist s
  · -- the rotation swaps its own line once more
    obtain ⟨⟨oldPublicKey, line, rfl⟩, howns⟩ := hown
    cases hstep.grown with
    | kept _ hkeys =>
      refine ⟨h.parsable, ?_, fun hpublic hmem => h.gone hpublic ?_, hfree'⟩
      · rw [hkeys]
        exact h.mem
      · rwa [hkeys] at hmem
    | swapped _ howns' _ _ hblob hswaps =>
      rw [← howns.eq howns'] at hswaps
      exact swappedLine_of_swaps hswaps hstatus hblob h.free rfl
  · have hkeep : ∀ publicKey ∈ record.keys, authorizedKeyBlob publicKey ≠ [] →
        (authorizedKeyBlob publicKey ∈ authorizedBlobs s'.authorizedKeys ↔
          authorizedKeyBlob publicKey ∈ authorizedBlobs s.authorizedKeys) := by
      intro publicKey hkey hblob
      refine hstep.grown.blob_of_rotating hs hrecord hstatus hkey hblob h.free ?_
      exact fun oldPublicKey line haction howns => hown ⟨⟨oldPublicKey, line, haction⟩, howns⟩
    refine ⟨h.parsable, ?_, fun hpublic hmem => h.gone hpublic ?_, hfree'⟩
    · exact (hkeep _ (by simp [ClientRecord.keys]) h.parsable).2 h.mem
    · exact (hkeep _ (by simp [ClientRecord.keys]) hpublic).1 hmem

theorem Grown.mem_of_rotating (h : Grown site start now pid call hist s action s')
    (hrecord : record ∈ s'.clients.files) (hstatus : record.status = .rotationPending)
    (haction : action ≠ .writeClient record) : record ∈ s.clients.files := by
  rcases h.mem_clients hrecord with hrecord | ⟨-, -, hpending, -, -⟩ | ⟨old, -, -, -, hwritten, -⟩
  · exact hrecord
  · simp [hstatus] at hpending
  · exact absurd hwritten haction

theorem Unpublished.step (h : Unpublished site.env pid call hist s)
    (hs : Orderly site.env start now s)
    (hrebuilds : s.locks .authorizedKeys = some pid → call.rebuilds = true)
    (hperform : performAction site.env pid action choice s = some (reply, s'))
    (hstep : ClearStep site start now pid call hist action choice s s') :
    Unpublished site.env pid call (⟨action, choice, reply⟩ :: hist) s' := by
  constructor
  · rintro request hrequest line ⟨choice', hmem⟩
    rcases List.mem_cons.1 hmem with heq | hmem
    · cases heq
      obtain ⟨hmay, rfl⟩ := editKeys_ok hperform
      obtain ⟨request', record, hrequest', hget, hstatus, -, hline, hblob⟩ :=
        appends_of_guard hstep.clear.2.2.1 hstep.guard
      obtain rfl : request' = request := Option.some.inj (hrequest'.symm.trans hrequest)
      refine ⟨record, hget, fun _ => ⟨hline ▸ hblob, mem_blobs_append.2 (.inr hline.symm), ?_⟩⟩
      refine free_of_mayEdit hmay hrebuilds (.inl ?_)
      rw [hrequest]
      simp
    · exact (h.appended request hrequest line ⟨choice', hmem⟩).step hs hstep
  · rintro record hheld oldPublicKey line ⟨choice', hmem⟩ hrecord hstatus
    have hsettles : action.settles record.clientID = false := by
      by_contra hne
      simp [recent, since_cons, hne] at hmem
    simp only [recent, since_cons, hsettles, Bool.false_eq_true, if_false, List.mem_cons] at hmem
    have hbefore := hheld.before hsettles hstep.effect
    have hrecord₀ : record ∈ s.clients.files := by
      refine hstep.grown.mem_of_rotating hrecord hstatus ?_
      rintro rfl
      simp [Action.settles] at hsettles
    rcases hmem with heq | hmem
    · cases heq
      obtain ⟨hmay, hs'⟩ := editKeys_ok hperform
      obtain ⟨request, owner, hrequest, howns, -, hblob, hswaps⟩ :=
        swaps_of_guard hstep.clear.2.2.1 hstep.guard
      have howns' : Owns pid record hist s :=
        ⟨⟨hbefore.locked, Directory.get_of_mem_files hrecord₀⟩, hbefore.current⟩
      rw [← howns'.eq howns] at hswaps
      refine swappedLine_of_swaps hswaps hstatus hblob ?_ hs'
      refine free_of_mayEdit hmay hrebuilds (.inr ?_)
      rw [hrequest]
      simp
    · exact (h.swapped record hbefore oldPublicKey line ⟨choice', hmem⟩ hrecord₀ hstatus).step hs
        hrecord₀ hstatus hstep

theorem Unpublished.others {pid' : ℕ} {call' : Call} {hist' : List HostStep} (hne : pid' ≠ pid)
    (h : Unpublished site.env pid' call' hist' s) (hs : Orderly site.env start now s)
    (hstep : ClearStep site start now pid call hist action choice s s') :
    Unpublished site.env pid' call' hist' s' := by
  constructor
  · intro request hrequest line hdid
    exact (h.appended request hrequest line hdid).step hs hstep
  · intro record hheld oldPublicKey line hdid hrecord hstatus
    have hbefore := hheld.others hstep.effect hne
    have hrecord₀ : record ∈ s.clients.files := by
      refine hstep.grown.mem_of_rotating hrecord hstatus ?_
      rintro rfl
      -- the record is written under the client lock, which the other process holds
      obtain ⟨old, howns, hid, -⟩ := ClientWrite.previous hstep.guard
      have hlocked := hbefore.locked
      rw [hid, howns.locked, Option.some.injEq] at hlocked
      exact hne hlocked.symm
    exact (h.swapped record hbefore oldPublicKey line hdid hrecord₀ hstatus).step hs hrecord₀
      hstatus hstep

end

theorem unpublished_of_run {site : Site} {start now : Time} {s : Host} {c : Pool}
    (hs : Orderly site.env start now s) (hfree : s.locks .authorizedKeys = none)
    (hrun : Run (hostMachine site) (ClearGrowth site.env start now) (Config.idle s) c) :
    c.Each (Unpublished site.env) := by
  refine clear_invariant (I := fun c => c.Each (Unpublished site.env)) hrun .idle ?_ ?_
  · intro c pid call h _
    refine h.started ⟨?_, ?_⟩
    · rintro _ _ _ ⟨_, hmem⟩
      cases hmem
    · rintro _ _ _ _ ⟨_, hmem⟩
      cases hmem
  · intro c pid process action choice reply state prog hrun h hp hperform hstep _
    have horderly := orderly_of_run hs hrun
    refine h.advanced hp (fun hself => hself.step horderly ?_ hperform hstep)
      fun _ hne _ _ hother => hother.others hne horderly hstep
    intro hlocked
    obtain ⟨holder, hholder, hrebuilds⟩ := rebuilds_of_locked hfree hrun pid hlocked
    rw [hp, Option.some.injEq] at hholder
    rwa [hholder]

end WarpTweet
