import WarpTweet.Model.Server

/-!
# What one action can change

One inversion statement for the actions of the host: an action changes the invites,
the client records, the authorization file, the locks or the blocked-clock document
in one of twelve ways, or leaves all of them alone. Every invariant of a run is
derived from it. The second part says what the reply of an action tells about the
state it was taken in.
-/

namespace WarpTweet

open Strings Concurrency Storage

abbrev HostStep := Step Action Choice Action.Reply

abbrev HostEvent := Event Call Action Choice Action.Reply

abbrev HostProcess := Process Call Action Choice Action.Reply Err

abbrev HostMove := Move Call Choice

variable {env : Env} {pid : ℕ} {choice : Choice} {s s' : Host}
  {clientID connectionID : Text} {name : Lock}
  {edit : List AuthorizedLine → List AuthorizedLine} {ok wait : Bool} {record : ClientRecord}

section

variable {action : Action}

/-- The invites, client records, authorization file, locks and blocked-clock document
of the two states are the same. -/
structure SameFiles (s s' : Host) : Prop where
  clients : s'.clients = s.clients
  invites : s'.invites = s.invites
  authorizedKeys : s'.authorizedKeys = s.authorizedKeys
  locks : s'.locks = s.locks
  blocked : s'.blocked = s.blocked

theorem SameFiles.refl : SameFiles s s := ⟨rfl, rfl, rfl, rfl, rfl⟩

/-- Process `pid` may edit the authorization file: nobody else holds its lock. -/
def MayEditKeys (pid : ℕ) (s : Host) : Prop :=
  s.locks .authorizedKeys = none ∨ s.locks .authorizedKeys = some pid

/-- Everything an action of process `pid` can do to the files and the locks. -/
inductive Effect (pid : ℕ) (choice : Choice) (s : Host) : Action → Host → Prop
  | acquire {name : Lock} {wait : Bool} : s.locks name = none →
      Effect pid choice s (.lock name wait)
        { s with locks := Function.update s.locks name (some pid) }
  | unlock {name : Lock} :
      Effect pid choice s (.unlock name) { s with locks := Function.update s.locks name none }
  | writeInvite {record : Record} : choice.outcome.applies = true →
      Effect pid choice s (.writeInvite record) { s with invites := s.invites.put record }
  | storeClient {record : ClientRecord} : choice.outcome.applies = true →
      s.clients.get record.clientID = none →
      Effect pid choice s (.storeClient record) { s with clients := s.clients.put record }
  | writeClient {record : ClientRecord} : choice.outcome.applies = true →
      Effect pid choice s (.writeClient record) { s with clients := s.clients.put record }
  | appendKey {line : AuthorizedLine} : choice.outcome.applies = true → MayEditKeys pid s →
      Effect pid choice s (.appendKey line)
        { s with authorizedKeys := appendAuthorizedKey line s.authorizedKeys }
  | replaceKey {oldPublicKey : Text} {line : AuthorizedLine} : choice.outcome.applies = true →
      MayEditKeys pid s →
      Effect pid choice s (.replaceKey oldPublicKey line)
        { s with authorizedKeys :=
            replaceAuthorizedKeyForPublicKey oldPublicKey line s.authorizedKeys }
  | removeKey {publicKey : Text} : choice.outcome.applies = true → MayEditKeys pid s →
      Effect pid choice s (.removeKey publicKey)
        { s with authorizedKeys := removeAuthorizedKeyForPublicKey publicKey s.authorizedKeys }
  | writeKeys {lines : List AuthorizedLine} : choice.outcome.applies = true → MayEditKeys pid s →
      Effect pid choice s (.writeKeys lines) { s with authorizedKeys := lines }
  | writeBlocked : choice.outcome.applies = true →
      Effect pid choice s .writeBlocked { s with blocked := true }
  | clearBlocked : choice.outcome.applies = true →
      Effect pid choice s .clearBlocked { s with blocked := false }
  | kept {action : Action} {s' : Host} : SameFiles s s' → Effect pid choice s action s'

theorem editKeys_eq_some (h : editKeys pid edit choice s = some (ok, s')) :
    ok = choice.outcome.reports ∧ MayEditKeys pid s ∧
      s' = if choice.outcome.applies then { s with authorizedKeys := edit s.authorizedKeys }
        else s := by
  unfold editKeys at h
  split at h
  next hlock =>
    cases h
    exact ⟨rfl, hlock, rfl⟩
  next => cases h

theorem editKeys_ok (h : editKeys pid edit choice s = some (true, s')) :
    MayEditKeys pid s ∧ s' = { s with authorizedKeys := edit s.authorizedKeys } := by
  obtain ⟨hok, hmay, rfl⟩ := editKeys_eq_some h
  exact ⟨hmay, by rw [if_pos (Outcome.applies_of_reports hok.symm)]⟩

theorem sameFiles_changeConnection {change : Connection → Connection} :
    SameFiles s (changeConnection connectionID change s) := ⟨rfl, rfl, rfl, rfl, rfl⟩

theorem sameFiles_terminateSessions {selected : Session → Bool} {failing : List Text} :
    SameFiles s (terminateSessions selected failing s).2 := ⟨rfl, rfl, rfl, rfl, rfl⟩

theorem sameFiles_registerSession {keyDigest : Text} :
    SameFiles s (registerSession env connectionID keyDigest choice s).2 := by
  unfold registerSession
  repeat' split
  all_goals exact ⟨rfl, rfl, rfl, rfl, rfl⟩

theorem effect_of_perform {reply : action.Reply}
    (h : performAction env pid action choice s = some (reply, s')) :
    Effect pid choice s action s' := by
  cases action with
  | lock =>
    simp only [performAction] at h
    repeat' split at h
    all_goals cases h
    all_goals first | exact .kept .refl | exact .acquire ‹_›
  | unlock =>
    cases h
    exact .unlock
  | storeClient =>
    simp only [performAction] at h
    repeat' split at h
    all_goals cases h
    all_goals first | exact .kept .refl | exact .storeClient ‹_› ‹_›
  | writeInvite | writeClient | writeBlocked | clearBlocked =>
    cases h
    split_ifs with happly
    · constructor
      exact happly
    · exact .kept .refl
  | appendKey | replaceKey | removeKey | writeKeys =>
    simp only [performAction] at h
    obtain ⟨-, hlock, rfl⟩ := editKeys_eq_some h
    split_ifs with happly
    · constructor
      · exact happly
      · exact hlock
    · exact .kept .refl
  | register =>
    simp only [performAction, Option.some.injEq] at h
    have hs' : _ = s' := congrArg Prod.snd h
    exact .kept (hs' ▸ sameFiles_registerSession)
  | terminate | terminateAll =>
    simp only [performAction] at h
    split_ifs at h
    · simp only [Option.some.injEq] at h
      have hs' : _ = s' := congrArg Prod.snd h
      exact .kept (hs' ▸ sameFiles_terminateSessions)
    · cases h
      exact .kept .refl
  | track | disconnect =>
    cases h
    exact .kept sameFiles_changeConnection
  | answer =>
    simp only [performAction] at h
    split_ifs at h
    · cases h
      exact .kept sameFiles_changeConnection
    · cases h
      exact .kept .refl
  | _ =>
    simp only [performAction] at h
    all_goals try split_ifs at h
    all_goals cases h
    all_goals exact .kept ⟨rfl, rfl, rfl, rfl, rfl⟩

section

variable (h : Effect pid choice s action s')
include h

theorem Effect.clients : s'.clients = s.clients ∨
    (∃ record, action = .storeClient record ∧ s.clients.get record.clientID = none ∧
      s'.clients = s.clients.put record) ∨
    ∃ record, action = .writeClient record ∧ choice.outcome.applies = true ∧
      s'.clients = s.clients.put record := by
  cases h with
  | storeClient _ hnew => exact .inr (.inl ⟨_, rfl, hnew, rfl⟩)
  | writeClient happlies => exact .inr (.inr ⟨_, rfl, happlies, rfl⟩)
  | kept hsame => exact .inl hsame.clients
  | _ => exact .inl rfl

theorem Effect.get_clients (hget : s.clients.get clientID = some record)
    (hkeep : ∀ written, action = .writeClient written → written.clientID ≠ clientID) :
    s'.clients.get clientID = some record := by
  rcases h.clients with hsame | ⟨stored, -, hnew, hput⟩ | ⟨written, haction, -, hput⟩
  · rw [hsame, hget]
  · rw [hput, Directory.get_put_of_ne, hget]
    rintro rfl
    rw [hnew] at hget
    cases hget
  · rw [hput, Directory.get_put_of_ne (hkeep written haction).symm, hget]

theorem Effect.authorizedKeys {line : AuthorizedLine} (hline : line ∈ s'.authorizedKeys) :
    line ∈ s.authorizedKeys ∨ action = .appendKey line ∨
      (∃ oldPublicKey, action = .replaceKey oldPublicKey line) ∨
      ∃ lines, action = .writeKeys lines ∧ line ∈ lines := by
  cases h with
  | appendKey _ _ =>
    rcases mem_appendAuthorizedKey hline with hline | rfl
    · exact .inl hline
    · exact .inr (.inl rfl)
  | replaceKey _ _ =>
    rcases mem_replaceAuthorizedKey hline with rfl | ⟨hline, -⟩
    · exact .inr (.inr (.inl ⟨_, rfl⟩))
    · exact .inl hline
  | removeKey _ _ => exact .inl (mem_removeAuthorizedKey hline).1
  | writeKeys _ _ => exact .inr (.inr (.inr ⟨_, rfl, hline⟩))
  | kept hsame => exact .inl (hsame.authorizedKeys ▸ hline)
  | _ => exact .inl hline

theorem Effect.locks {holder : ℕ} (hlocked : s'.locks name = some holder) :
    s.locks name = some holder ∨ holder = pid ∧ ∃ wait, action = .lock name wait := by
  cases h with
  | @acquire other wait _ =>
    by_cases heq : name = other
    · subst heq
      simp only [Function.update_self, Option.some.injEq] at hlocked
      exact .inr ⟨hlocked.symm, wait, rfl⟩
    · exact .inl (by simpa [Function.update_of_ne heq] using hlocked)
  | @unlock other =>
    by_cases heq : name = other
    · subst heq
      simp at hlocked
    · exact .inl (by simpa [Function.update_of_ne heq] using hlocked)
  | kept hsame => exact .inl (hsame.locks ▸ hlocked)
  | _ => exact .inl hlocked

end

end

/-! ## What a reply tells -/

section

variable {record : ClientRecord}

theorem lock_acquired
    (h : performAction env pid (.lock name wait) choice s = some (.acquired, s')) :
    s.locks name = none ∧ s' = { s with locks := Function.update s.locks name (some pid) } := by
  simp only [performAction] at h
  repeat' split at h
  all_goals cases h
  exact ⟨‹_›, rfl⟩

theorem lock_not_acquired {reply : LockReply}
    (h : performAction env pid (.lock name wait) choice s = some (reply, s'))
    (hreply : reply ≠ .acquired) : s' = s := by
  simp only [performAction] at h
  repeat' split at h
  all_goals cases h
  all_goals first | rfl | exact absurd rfl hreply

theorem readClient_found
    (h : performAction env pid (.readClient clientID) choice s = some (.found record, s')) :
    s.clients.get clientID = some record ∧ s' = s := by
  simp only [performAction] at h
  repeat' split at h
  all_goals cases h
  exact ⟨‹_›, rfl⟩

theorem readInvite_found {inviteID : Text} {record : Record}
    (h : performAction env pid (.readInvite inviteID) choice s = some (.found record, s')) :
    s.invites.get inviteID = some record ∧ s' = s := by
  simp only [performAction] at h
  repeat' split at h
  all_goals cases h
  exact ⟨‹_›, rfl⟩

theorem storeClient_stored
    (h : performAction env pid (.storeClient record) choice s = some (.stored, s')) :
    s' = { s with clients := s.clients.put record } := by
  simp only [performAction] at h
  repeat' split at h
  all_goals cases h
  · rfl
  next hreports happlies => exact absurd (Outcome.applies_of_reports hreports) happlies

theorem writeInvite_reply {record : Record}
    (h : performAction env pid (.writeInvite record) choice s = some (ok, s')) :
    ok = choice.outcome.reports := by
  simp only [performAction, Option.some.injEq, Prod.mk.injEq] at h
  exact h.1.symm

theorem writeClient_ok
    (h : performAction env pid (.writeClient record) choice s = some (true, s')) :
    s' = { s with clients := s.clients.put record } := by
  simp only [performAction, Option.some.injEq, Prod.mk.injEq] at h
  obtain ⟨hreports, rfl⟩ := h
  rw [if_pos (Outcome.applies_of_reports hreports)]

end

/-! ## The actions of the shared programs -/

variable {p : Action → Prop}

theorem loadClient_uses (hread : p (.readClient clientID)) : (loadClient clientID).Uses p := by
  refine .bind Prog.uses_ofExcept fun _ => .bind (Prog.uses_perform.2 hread) fun reply => ?_
  cases reply <;> trivial

theorem listClients_uses (hlist : p .listClients) (hread : ∀ clientID, p (.readClient clientID)) :
    listClients.Uses p := by
  refine .bind (Prog.uses_perform.2 hlist) fun names => ?_
  cases names with
  | none => trivial
  | some names => exact .collect (fun _ => loadClient_uses (hread _)) _

theorem reconcileRecord_uses {env : Env} {manifest : Manifest} {lines : List AuthorizedLine} (hnow : p .now) :
    (reconcileRecord env manifest lines record).Uses p := by
  refine .ite (fun _ => .ite (fun _ => trivial) fun _ => ?_) fun _ => trivial
  refine .bind Prog.uses_ofExcept fun _ => .bind (Prog.uses_perform.2 hnow) fun _ => ?_
  refine .ite (fun _ => trivial) fun _ => .bind Prog.uses_ofExcept fun _ => ?_
  exact .ite (fun _ => trivial) fun _ => trivial

end WarpTweet
