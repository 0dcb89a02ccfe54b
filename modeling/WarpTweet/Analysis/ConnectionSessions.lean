import WarpTweet.Analysis.Footprints
import WarpTweet.Analysis.Sockets

/-!
# The sessions of a connection

A login leaves a record and an entry in the session table, under a connection id that is drawn
for it. The connection remembers one id and one key digest. The entry is found again by the
digest when the key is dropped, and the record and the entry are removed by the id when the
connection ends.

A second login on the same connection overwrites both. The entry and the record of the first
login are then left behind, and a drop of the first key does nothing. In every run with at most
one login, where sessions are registered and records can be removed, the books are kept.
-/

namespace WarpTweet

open Concurrency Wire ConnProg

variable {plane : Plane}

/-! ## Sessions on the log -/

/-- The action that removes the entry of the connection. -/
def ConnAction.isUntrack : ConnAction → Bool
  | .untrack => true
  | _ => false

/-- The clean-up of the connection has begun. -/
def Untracked (log : ConnLog) : Prop := ∃ event ∈ log, event.action.isUntrack = true

instance : DecidablePred Untracked := fun _ => by
  unfold Untracked
  infer_instance

/-- Until the clean-up, a drop of any key that has logged in closes the socket; and a connection
that has ended has left no entry and no record. -/
structure SessionsKept (plane : Plane) (conn : Conn) (log : ConnLog) : Prop where
  drops : ¬ Untracked log → ∀ keyDigest ∈ conn.loggedIn, ∀ choice conn',
    performConn plane (.dropKey keyDigest) choice conn = some ((), conn') → conn'.socketOpen = false
  cleaned : conn.ended = true → conn.table = [] ∧ conn.records = []

/-- A key is let in only where none was, and the removal of a record succeeds. -/
def ConnAction.logsInOnce (choice : ConnChoice) (conn : Conn) : ConnAction → Bool
  | .setAuthed _ => !conn.authed
  | .unregister => choice.ok
  | _ => true

/-- Every run of the connection, with at most one login. -/
abbrev LogsInOnce : ConnPool → ConnMove → Prop :=
  OnAction fun c _ action choice => action.logsInOnce choice c.state = true

/-! ## The invariant -/

/-- Everything that the connection has left is under the id and the digest that it remembers. -/
structure Remembered (conn : Conn) : Prop where
  loggedIn : ∀ keyDigest ∈ conn.loggedIn, keyDigest = conn.keyDigest ∧ keyDigest ≠ []
  table : ∀ connectionID ∈ conn.table, connectionID = conn.connectionID ∧ connectionID ≠ []
  records : ∀ connectionID ∈ conn.records, connectionID = conn.connectionID ∧ connectionID ≠ []
  nobody : conn.authed = false → conn.table = [] ∧ conn.records = [] ∧ conn.loggedIn = []
  cleaned : conn.ended = true → conn.table = [] ∧ conn.records = []

/-- While the clean-up has not begun, a key that has logged in has an entry. -/
structure SessionBooks (conn : Conn) (log : ConnLog) : Prop extends Remembered conn where
  tracked : conn.loggedIn ≠ [] → conn.table ≠ [] ∨ Untracked log

/-- What the loop takes care of when it changes what the connection remembers. -/
def SessionGuard (_ : List ConnStep) (action : ConnAction) (conn : Conn) : Prop :=
  match action with
  | .setAuthed keyDigest => keyDigest ≠ []
  | .newConnectionID => conn.table = [] ∧ conn.records = []
  | .register _ connectionID => conn.authed = true ∧ conn.ended = false ∧
      connectionID = conn.connectionID ∧ connectionID ≠ []
  | .track => conn.authed = true ∧ conn.ended = false
  | .send payload => payload = [sshMsgUserauthSuccess] →
      conn.authed = true ∧ conn.table ≠ [] ∧ conn.keyDigest ≠ []
  | .closeSocket => conn.table = [] ∧ conn.records = []
  | _ => True

/-- What the loop may assume of an action and its outcome: the invariant and the condition. -/
def SessionAssumes (action : ConnAction) (choice : ConnChoice) (conn : Conn) : Prop :=
  Remembered conn ∧ action.logsInOnce choice conn = true

def sessionReliance (plane : Plane) : Reliance plane where
  Keeps := KeepsReader
  Assumes := SessionAssumes
  refl := KeepsReader.refl
  trans := KeepsReader.trans
  forwards := keepsReader_of_ofForwarder

/-- What a connection remembers of its sessions. -/
structure SameSessions (conn conn' : Conn) : Prop where
  authed : conn'.authed = conn.authed
  connectionID : conn'.connectionID = conn.connectionID
  keyDigest : conn'.keyDigest = conn.keyDigest
  table : conn'.table = conn.table
  records : conn'.records = conn.records
  loggedIn : conn'.loggedIn = conn.loggedIn
  ended : conn'.ended = conn.ended

/-- The actions that leave it alone. -/
def ConnAction.KeepsSessions : ConnAction → Prop
  | .send payload => payload ≠ [sshMsgUserauthSuccess]
  | .setAuthed _ | .newConnectionID | .register _ _ | .track | .untrack | .unregister => False
  | .closeSocket => False
  | _ => True

variable {choice : ConnChoice} {conn conn' : Conn} {hist : List ConnStep} {log : ConnLog}
  {keyDigest connectionID : Bytes} {α : Type} {ids : List Bytes} {program : ConnProg α}

section

variable {action : ConnAction} {reply : action.Reply}

theorem sameSessions_of_keepsReader (h : KeepsReader conn conn') : SameSessions conn conn' :=
  ⟨h.authed, (congrArg Conn.connectionID h.own :), (congrArg Conn.keyDigest h.own :),
    (congrArg Conn.table h.own :), (congrArg Conn.records h.own :), (congrArg Conn.loggedIn h.own :),
    (congrArg Conn.ended h.own :)⟩

theorem sameSessions_of_keepsSessions (haction : action.KeepsSessions)
    (h : performConn plane action choice conn = some (reply, conn')) : SameSessions conn conn' := by
  cases action with
  | setAuthed | newConnectionID | register | track | untrack | unregister | closeSocket =>
    exact haction.elim
  | send payload =>
    rcases sendPacket_cases (Option.some.inj h) with ⟨-, rfl⟩ |
      ⟨-, -, -, _, _, loggedIn, _, -, -, hother, -, rfl⟩ | ⟨-, _, -, -, rfl⟩
    · exact ⟨rfl, rfl, rfl, rfl, rfl, rfl, rfl⟩
    · exact ⟨rfl, rfl, rfl, rfl, rfl, hother haction, rfl⟩
    · exact ⟨rfl, rfl, rfl, rfl, rfl, rfl, rfl⟩
  | _ =>
    simp only [performConn] at h
    repeat' split at h
    all_goals cases h
    all_goals exact ⟨rfl, rfl, rfl, rfl, rfl, rfl, rfl⟩

theorem keepsSessions_of_ofForwarder (h : action.OfForwarder) : action.KeepsSessions := by
  cases action with
  | send payload =>
    rintro rfl
    rcases h with h | h | h | h <;> cases h
  | cookie | startRekey | readBackend | takeWindow | closeChannel | dropKey => trivial
  | _ => exact h.elim

theorem Remembered.of_same (h : Remembered conn) (hsame : SameSessions conn conn') :
    Remembered conn' := by
  refine ⟨?_, ?_, ?_, ?_, ?_⟩
  · rw [hsame.loggedIn, hsame.keyDigest]
    exact h.loggedIn
  · rw [hsame.table, hsame.connectionID]
    exact h.table
  · rw [hsame.records, hsame.connectionID]
    exact h.records
  · rw [hsame.authed, hsame.table, hsame.records, hsame.loggedIn]
    exact h.nobody
  · rw [hsame.ended, hsame.table, hsame.records]
    exact h.cleaned

theorem Untracked.cons {event : ConnEvent} (h : Untracked log) : Untracked (event :: log) := by
  obtain ⟨other, hmem, haction⟩ := h
  exact ⟨other, List.mem_cons_of_mem _ hmem, haction⟩

theorem filter_remembered
    (h : ∀ id ∈ ids, id = connectionID ∧ id ≠ []) : ids.filter (· ≠ connectionID) = [] := by
  rw [List.filter_eq_nil_iff]
  intro id hmem
  simpa using (h id hmem).1

/-- Nothing is left once what is under the remembered id has been removed, if there is one. -/
theorem removed_remembered (h : ∀ id ∈ ids, id = connectionID ∧ id ≠ []) :
    (if connectionID.isEmpty then ids else ids.filter (· ≠ connectionID)) = [] := by
  split
  next hempty =>
    rw [List.eq_nil_iff_forall_not_mem]
    intro id hmem
    obtain ⟨rfl, hne⟩ := h id hmem
    exact hne (List.isEmpty_iff.1 hempty)
  next => exact filter_remembered h

end

/-! ## Steps -/

section

variable {event : ConnEvent}

section

variable (h : SessionBooks conn log)
include h

theorem SessionBooks.of_same (hsame : SameSessions conn conn') :
    SessionBooks conn' (event :: log) := by
  refine ⟨h.toRemembered.of_same hsame, ?_⟩
  rw [hsame.loggedIn, hsame.table]
  exact fun hlogged => (h.tracked hlogged).imp_right Untracked.cons

theorem SessionBooks.setAuthed (hnobody : conn.authed = false)
    (hperform : performConn plane (.setAuthed keyDigest) choice conn = some ((), conn')) :
    SessionBooks conn' (event :: log) := by
  cases hperform
  obtain ⟨htable, hrecords, hlogged⟩ := h.nobody hnobody
  refine ⟨⟨?_, ?_, ?_, ?_, h.cleaned⟩, ?_⟩
  · simp [hlogged]
  · simp [htable]
  · simp [hrecords]
  · intro hauthed
    cases hauthed
  · exact fun hne => absurd hlogged hne

theorem SessionBooks.newConnectionID {reply : Option Bytes}
    (htable : conn.table = []) (hrecords : conn.records = [])
    (hperform : performConn plane .newConnectionID choice conn = some (reply, conn')) :
    SessionBooks conn' (event :: log) := by
  simp only [performConn] at hperform
  split at hperform
  · cases hperform
    refine ⟨⟨h.loggedIn, ?_, ?_, h.nobody, h.cleaned⟩, ?_⟩
    · simp [htable]
    · simp [hrecords]
    · exact fun hlogged => (h.tracked hlogged).imp_right Untracked.cons
  · cases hperform
    exact h.of_same ⟨rfl, rfl, rfl, rfl, rfl, rfl, rfl⟩

theorem SessionBooks.register {reply : Bool}
    (hauthed : conn.authed = true) (hended : conn.ended = false)
    (hid : connectionID = conn.connectionID ∧ connectionID ≠ [])
    (hperform : performConn plane (.register keyDigest connectionID) choice conn =
      some (reply, conn')) : SessionBooks conn' (event :: log) := by
  simp only [performConn, Option.some.injEq, Prod.mk.injEq] at hperform
  obtain ⟨-, rfl⟩ := hperform
  split
  · refine ⟨⟨h.loggedIn, h.table, ?_, ?_, ?_⟩, ?_⟩
    · rintro id (_ | ⟨_, hmem⟩)
      · exact hid
      · exact h.records id hmem
    · exact fun hnobody => absurd (hauthed.symm.trans hnobody) (by decide)
    · exact fun htrue => absurd (hended.symm.trans htrue) (by decide)
    · exact fun hlogged => (h.tracked hlogged).imp_right Untracked.cons
  · exact h.of_same ⟨rfl, rfl, rfl, rfl, rfl, rfl, rfl⟩

theorem SessionBooks.track (hauthed : conn.authed = true)
    (hended : conn.ended = false) (hperform : performConn plane .track choice conn = some ((), conn')) :
    SessionBooks conn' (event :: log) := by
  simp only [performConn, Option.some.injEq, Prod.mk.injEq, true_and] at hperform
  subst hperform
  split
  · exact h.of_same ⟨rfl, rfl, rfl, rfl, rfl, rfl, rfl⟩
  next hempty =>
    have hne : conn.connectionID ≠ [] := fun heq => hempty (List.isEmpty_iff.2 heq)
    refine ⟨⟨h.loggedIn, ?_, h.records, ?_, ?_⟩, fun _ => .inl (List.cons_ne_nil _ _)⟩
    · rintro id (_ | ⟨_, hmem⟩)
      · exact ⟨rfl, hne⟩
      · exact h.table id hmem
    · exact fun hnobody => absurd (hauthed.symm.trans hnobody) (by decide)
    · exact fun htrue => absurd (hended.symm.trans htrue) (by decide)

end

theorem table_of_untrack (h : Remembered conn)
    (hperform : performConn plane .untrack choice conn = some ((), conn')) :
    conn' = { conn with table := [] } := by
  simp only [performConn, Option.some.injEq, Prod.mk.injEq, true_and] at hperform
  have hremoved := removed_remembered h.table
  subst hperform
  split at hremoved
  next hempty =>
    rw [if_pos hempty, ← hremoved]
  next hempty =>
    rw [if_neg hempty, hremoved]

theorem records_of_unregister (h : Remembered conn) (hok : choice.ok = true)
    (hperform : performConn plane .unregister choice conn = some ((), conn')) :
    conn' = { conn with records := [] } := by
  simp only [performConn, hok, Bool.not_true, Bool.or_false, Option.some.injEq, Prod.mk.injEq,
    true_and] at hperform
  have hremoved := removed_remembered h.records
  subst hperform
  split at hremoved
  next hempty =>
    rw [if_pos hempty, ← hremoved]
  next hempty =>
    rw [if_neg hempty, hremoved]

theorem Remembered.untracked (h : Remembered conn) : Remembered { conn with table := [] } := by
  refine ⟨h.loggedIn, by simp, h.records, fun hnobody => ?_, fun hended => ?_⟩
  · exact ⟨rfl, (h.nobody hnobody).2⟩
  · exact ⟨rfl, (h.cleaned hended).2⟩

theorem Remembered.unregistered (h : Remembered conn) : Remembered { conn with records := [] } := by
  refine ⟨h.loggedIn, h.table, by simp, fun hnobody => ?_, fun hended => ?_⟩
  · exact ⟨(h.nobody hnobody).1, rfl, (h.nobody hnobody).2.2⟩
  · exact ⟨(h.cleaned hended).1, rfl⟩

theorem SessionBooks.login {reply : SendReply} (h : SessionBooks conn log)
    (hauthed : conn.authed = true) (htable : conn.table ≠ []) (hdigest : conn.keyDigest ≠ [])
    (hperform : performConn plane (.send [sshMsgUserauthSuccess]) choice conn =
      some (reply, conn')) : SessionBooks conn' (event :: log) := by
  have hsend : sendPacket plane choice [sshMsgUserauthSuccess] conn = (reply, conn') :=
    Option.some.inj hperform
  have hold : SessionBooks conn (event :: log) := h.of_same ⟨rfl, rfl, rfl, rfl, rfl, rfl, rfl⟩
  rcases sendPacket_cases hsend with ⟨-, rfl⟩ |
    ⟨-, -, -, _, _, loggedIn, _, -, -, -, hlogin, rfl⟩ | ⟨-, _, -, -, rfl⟩
  · exact hold
  · refine ⟨⟨?_, h.table, h.records, ?_, h.cleaned⟩, fun _ => .inl htable⟩
    · rw [hlogin rfl]
      rintro digest (_ | ⟨_, hmem⟩)
      · exact ⟨rfl, hdigest⟩
      · exact h.loggedIn digest hmem
    · exact fun hnobody => absurd (hauthed.symm.trans hnobody) (by decide)
  · exact ⟨⟨hold.loggedIn, hold.table, hold.records, hold.nobody, hold.cleaned⟩, hold.tracked⟩

theorem sessionBooks_of_guard {action : ConnAction} {reply : action.Reply} {pid : ℕ}
    {hist : List ConnStep} {call : ConnCall}
    (hguard : if pid = 0 then SessionGuard hist action conn else action.OfForwarder)
    (hassumes : SessionAssumes action choice conn)
    (hperform : performConn plane action choice conn = some (reply, conn'))
    (h : SessionBooks conn log) :
    SessionBooks conn' (⟨⟨action, choice, reply⟩, pid, call⟩ :: log) := by
  by_cases hkeeps : action.KeepsSessions
  · exact h.of_same (sameSessions_of_keepsSessions hkeeps hperform)
  have hpid : pid = 0 := by
    by_contra hne
    rw [if_neg hne] at hguard
    exact hkeeps (keepsSessions_of_ofForwarder hguard)
  rw [if_pos hpid] at hguard
  cases action with
  | setAuthed keyDigest => exact h.setAuthed (by simpa [ConnAction.logsInOnce] using hassumes.2) hperform
  | newConnectionID => exact h.newConnectionID hguard.1 hguard.2 hperform
  | register keyDigest connectionID => exact h.register hguard.1 hguard.2.1 hguard.2.2 hperform
  | track => exact h.track hguard.1 hguard.2 hperform
  | untrack =>
    rw [table_of_untrack h.toRemembered hperform]
    exact ⟨h.toRemembered.untracked, fun _ => .inr ⟨_, List.mem_cons_self, rfl⟩⟩
  | unregister =>
    rw [records_of_unregister h.toRemembered hassumes.2 hperform]
    exact ⟨h.toRemembered.unregistered, fun hlogged =>
      (h.tracked hlogged).imp_right Untracked.cons⟩
  | closeSocket =>
    cases hperform
    exact ⟨⟨h.loggedIn, h.table, h.records, h.nobody, fun _ => hguard⟩, fun hlogged =>
      (h.tracked hlogged).imp_right Untracked.cons⟩
  | send payload =>
    obtain rfl : payload = [sshMsgUserauthSuccess] := Classical.not_not.1 hkeeps
    obtain ⟨hauthed, htable, hdigest⟩ := hguard rfl
    exact h.login hauthed htable hdigest hperform
  | _ => exact (hkeeps trivial).elim

end

/-! ## The loop -/

section

variable {turns : ℕ} {payload : Bytes}

/-- The loop keeps the books. -/
abbrev SessionYields (plane : Plane) (turns : ℕ) {α : Type} (program : ConnProg α)
    (hist : List ConnStep) (conn : Conn) (Q : α → List ConnStep → Conn → Prop) : Prop :=
  (sessionReliance plane).Yields SessionGuard (fun _ _ => True) turns program hist conn Q

/-- Between two messages, a client that is let in has an entry. -/
structure LetInTracked (conn : Conn) : Prop where
  ended : conn.ended = false
  tracked : conn.authed = true → conn.table ≠ [] ∧ conn.keyDigest ≠ []

theorem LetInTracked.of_same {conn' : Conn} (h : LetInTracked conn) (hsame : SameSessions conn conn') :
    LetInTracked conn' := by
  refine ⟨hsame.ended.trans h.ended, ?_⟩
  rw [hsame.authed, hsame.table, hsame.keyDigest]
  exact h.tracked

theorem allowsControl_keepsSessions : AllowsControl ConnAction.KeepsSessions := by
  refine ⟨?_, fun _ => trivial, ?_⟩
  · intro action haction
    cases action with
    | setAuthed | newConnectionID | register | track | untrack | unregister | closeSocket | send =>
      exact haction.elim
    | _ => trivial
  · rintro payload ⟨message, hmem, hhead⟩ rfl
    cases hhead
    exact absurd hmem (by decide)

theorem keepsSessions_send {message : UInt8} {rest : Bytes} (h : message ≠ sshMsgUserauthSuccess) :
    ConnAction.KeepsSessions (.send (message :: rest)) :=
  fun heq => h (List.cons.inj heq).1

theorem keepsSessions_closeChannel {localID : Nat} :
    (closeChannel plane localID).Uses ConnAction.KeepsSessions :=
  uses_closeChannel allowsControl_keepsSessions.rekey trivial fun _ => keepsSessions_send (by decide)

theorem session_of_uses {I : List ConnStep → Conn → Prop}
    (huses : program.Uses ConnAction.KeepsSessions) (hI : I hist conn)
    (hsame : ∀ {hist conn conn'}, SameSessions conn conn' → I hist conn → I hist conn')
    (hcons : ∀ {step hist conn}, I hist conn → I (step :: hist) conn) :
    SessionYields plane turns program hist conn fun _ => I := by
  refine Reliance.yields_of_uses huses hI (fun hkeeps => hsame (sameSessions_of_keepsReader hkeeps)) ?_
  intro action hist choice reply conn conn₁ haction _ hperform h
  refine ⟨?_, hcons (hsame (sameSessions_of_keepsSessions haction hperform) h)⟩
  cases action with
  | setAuthed | newConnectionID | register | track | untrack | unregister | closeSocket =>
    exact haction.elim
  | send payload => exact fun heq => absurd heq haction
  | _ => trivial

theorem tracked_of_uses (huses : program.Uses ConnAction.KeepsSessions) (h : LetInTracked conn) :
    SessionYields plane turns program hist conn fun _ _ => LetInTracked :=
  session_of_uses (I := fun _ => LetInTracked) huses h (fun hsame h => h.of_same hsame) fun h => h

theorem session_setAuthed (hdigest : keyDigest ≠ []) (h : LetInTracked conn) :
    SessionYields plane turns (act (.setAuthed keyDigest)) hist conn fun _ _ conn =>
      conn.authed = true ∧ conn.ended = false ∧ conn.keyDigest ≠ [] ∧
        conn.table = [] ∧ conn.records = [] := by
  refine Reliance.yields_act fun conn₁ hkeeps choice hassumes reply conn₂ hperform => ?_
  have hended := (h.of_same (sameSessions_of_keepsReader hkeeps)).ended
  have hnobody : conn₁.authed = false := by simpa [ConnAction.logsInOnce] using hassumes.2
  obtain ⟨htable, hrecords, -⟩ := hassumes.1.nobody hnobody
  cases hperform
  exact ⟨hdigest, rfl, hended, hdigest, htable, hrecords⟩

section

variable (hauthed : conn.authed = true)
  (hended : conn.ended = false)
  (hdigest : conn.keyDigest ≠ [])
include hauthed hended hdigest

theorem session_newConnectionID (htable : conn.table = []) (hrecords : conn.records = []) :
    SessionYields plane turns (act .newConnectionID) hist conn fun drawn _ conn =>
      ∀ connectionID, drawn = some connectionID →
        conn.authed = true ∧ conn.ended = false ∧ conn.keyDigest ≠ [] ∧
          connectionID = conn.connectionID ∧ connectionID ≠ [] := by
  refine Reliance.yields_act fun conn₁ hkeeps choice _ reply conn₂ hperform => ?_
  have hsame := sameSessions_of_keepsReader hkeeps
  refine ⟨⟨hsame.table.trans htable, hsame.records.trans hrecords⟩, ?_⟩
  rintro connectionID rfl
  simp only [performConn] at hperform
  split at hperform
  · cases hperform
    refine ⟨hsame.authed.trans hauthed, hsame.ended.trans hended, ?_, rfl, ?_⟩
    · rw [← hsame.keyDigest] at hdigest
      exact hdigest
    · exact List.ne_nil_of_length_pos (by simp [paddingOf])
  · cases hperform

theorem session_register (hid : connectionID = conn.connectionID ∧ connectionID ≠ []) :
    SessionYields plane turns (act (.register keyDigest connectionID)) hist conn fun _ _ conn =>
      conn.authed = true ∧ conn.ended = false ∧ conn.keyDigest ≠ [] ∧ conn.connectionID ≠ [] := by
  refine Reliance.yields_act fun conn₁ hkeeps choice _ reply conn₂ hperform => ?_
  have hsame := sameSessions_of_keepsReader hkeeps
  rw [← hsame.connectionID] at hid
  rw [← hsame.keyDigest] at hdigest
  have hauthed₁ := hsame.authed.trans hauthed
  have hended₁ := hsame.ended.trans hended
  have hne : conn₁.connectionID ≠ [] := hid.1 ▸ hid.2
  refine ⟨⟨hauthed₁, hended₁, hid⟩, ?_⟩
  simp only [performConn, Option.some.injEq, Prod.mk.injEq] at hperform
  obtain ⟨-, rfl⟩ := hperform
  split
  · exact ⟨hauthed₁, hended₁, hdigest, hne⟩
  · exact ⟨hauthed₁, hended₁, hdigest, hne⟩

theorem session_track (hid : conn.connectionID ≠ []) :
    SessionYields plane turns (act .track) hist conn fun _ _ conn =>
      conn.authed = true ∧ LetInTracked conn := by
  refine Reliance.yields_act fun conn₁ hkeeps choice _ reply conn₂ hperform => ?_
  have hsame := sameSessions_of_keepsReader hkeeps
  rw [← hsame.connectionID] at hid
  rw [← hsame.keyDigest] at hdigest
  have hauthed₁ := hsame.authed.trans hauthed
  have hended₁ := hsame.ended.trans hended
  refine ⟨⟨hauthed₁, hended₁⟩, ?_⟩
  simp only [performConn, Option.some.injEq, Prod.mk.injEq] at hperform
  obtain ⟨-, rfl⟩ := hperform
  rw [if_neg (fun hempty => hid (List.isEmpty_iff.1 hempty))]
  exact ⟨hauthed₁, hended₁, fun _ => ⟨List.cons_ne_nil _ _, hdigest⟩⟩

end

theorem session_answer (hauthed : conn.authed = true) (h : LetInTracked conn) :
    SessionYields plane turns (write plane [sshMsgUserauthSuccess]) hist conn
      fun _ _ => LetInTracked := by
  refine Yields.bind (N := fun _ _ => LetInTracked) (Reliance.yields_act
    fun conn₁ hkeeps choice _ reply conn₂ hperform => ?_) fun reply hist conn h => ?_
  · have hsame := sameSessions_of_keepsReader hkeeps
    have hauthed₁ := hsame.authed.trans hauthed
    have h₁ := h.of_same hsame
    obtain ⟨htable, hdigest⟩ := h₁.tracked hauthed₁
    refine ⟨fun _ => ⟨hauthed₁, htable, hdigest⟩, ?_⟩
    rcases sendPacket_cases (Option.some.inj hperform) with ⟨-, rfl⟩ |
      ⟨-, -, -, _, _, _, _, -, -, -, -, rfl⟩ | ⟨-, _, -, -, rfl⟩
    · exact h₁
    · exact ⟨h₁.ended, h₁.tracked⟩
    · exact ⟨h₁.ended, h₁.tracked⟩
  · refine tracked_of_uses ?_ h
    cases reply with
    | failed => trivial
    | sent needRekey =>
      cases needRekey with
      | false => trivial
      | true => exact uses_startRekey allowsControl_keepsSessions.rekey

theorem session_disconnect {reason : Bytes} {Q : α → List ConnStep → Conn → Prop} :
    SessionYields plane turns (disconnect plane reason) hist conn Q := by
  have huses : (write plane (marshalDisconnect reason)).attempt.Uses ConnAction.KeepsSessions :=
    (uses_control allowsControl_keepsSessions (by decide)).attempt
  refine Yields.bind (session_of_uses (I := fun _ _ => True) huses trivial (fun _ _ => trivial)
    fun _ => trivial) fun _ _ _ _ => yields_fail

section

variable (hgrant : plane.policy.grant = true)
include hgrant

theorem session_adoptKey {rawPub : Bytes} (h : LetInTracked conn) :
    SessionYields plane turns (adoptKey plane rawPub) hist conn fun _ _ => LetInTracked := by
  have hdigest : plane.suite.sha256 (hostKeyBlob rawPub) ≠ [] :=
    List.ne_nil_of_length_pos (by rw [plane.suite.length_sha256]; decide)
  refine Yields.bind (session_setAuthed hdigest h) ?_
  rintro - hist conn ⟨hauthed, hended, hdigest, htable, hrecords⟩
  refine Yields.bind (session_newConnectionID hauthed hended hdigest htable hrecords) ?_
  intro drawn hist conn hdrawn
  cases drawn with
  | none => exact yields_fail
  | some connectionID =>
    obtain ⟨hauthed, hended, hdigest, hid⟩ := hdrawn connectionID rfl
    refine Yields.ite (fun _ => ?_) fun hno => absurd hgrant hno
    refine Yields.bind (session_register hauthed hended hdigest hid) ?_
    rintro registered hist conn ⟨hauthed, hended, hdigest, hid⟩
    refine Yields.ite (fun _ => ?_) fun _ => session_disconnect
    refine Yields.bind (session_track hauthed hended hdigest hid) ?_
    rintro - hist conn ⟨hauthed, h⟩
    exact session_answer hauthed h

theorem session_handleUserauthRequest (h : LetInTracked conn) :
    SessionYields plane turns (handleUserauthRequest plane payload) hist conn
      fun _ _ => LetInTracked := by
  have hcontrol := allowsControl_keepsSessions
  have hrefuse : (write plane userauthFailure).Uses ConnAction.KeepsSessions :=
    uses_control hcontrol (by decide)
  refine (tracked_of_uses uses_field h).bind fun parsed hist conn h => ?_
  cases parsed with
  | none => exact tracked_of_uses hrefuse h
  | some request =>
    refine (tracked_of_uses (uses_isKnownClient hcontrol) h).bind fun known hist conn h => ?_
    refine Yields.ite (fun _ => ?_) fun _ => tracked_of_uses hrefuse h
    refine Yields.ite (fun _ => ?_) fun _ => ?_
    · exact tracked_of_uses (.ite (fun _ => hrefuse) fun _ => uses_control hcontrol (by decide)) h
    · cases parseSignature request.rest with
      | none => exact tracked_of_uses hrefuse h
      | some signature =>
        refine Yields.bind (tracked_of_uses (uses_act (hcontrol.looks _ trivial)) h) ?_
        intro sessionID hist conn h
        exact Yields.ite (fun _ => session_adoptKey hgrant h) fun _ => tracked_of_uses hrefuse h

theorem session_loop :
    LoopRules ((sessionReliance plane).protocol SessionGuard fun _ _ => True) turns
      ConnAction.KeepsSessions (fun _ => LetInTracked) (fun _ _ => LetInTracked)
      (fun _ _ => LetInTracked) where
  control := allowsControl_keepsSessions
  sendIdentification := trivial
  readIdentification := trivial
  setServerKex _ := trivial
  plain := tracked_of_uses
  readPacket h := by
    have hread : ConnAction.KeepsSessions .readPacket := trivial
    exact (tracked_of_uses (uses_act hread) h).mono fun _ _ _ h _ _ => h
  readClearIn h := by
    have hread : ConnAction.KeepsSessions .readClearIn := trivial
    exact (tracked_of_uses (uses_act hread) h).mono fun _ _ _ h => ⟨h, fun _ => h⟩
  readPhase := tracked_of_uses (uses_act trivial)
  packet h _ := h
  secure h := h
  ends := tracked_of_uses (uses_disconnect_control allowsControl_keepsSessions)
  kexInit h _ := tracked_of_uses (uses_handleKexInit allowsControl_keepsSessions (fun _ _ => trivial)
    fun _ => trivial) h
  kex h _ := tracked_of_uses (uses_handleKEX allowsControl_keepsSessions (fun _ => trivial)
    fun _ _ => trivial) h
  newKeys h _ := tracked_of_uses (uses_handleNewKeys trivial) h
  userauth h _ := session_handleUserauthRequest hgrant h
  channelOpen h _ := tracked_of_uses (uses_handleChannelOpen allowsControl_keepsSessions
    fun _ _ _ _ _ _ => uses_connectChannel allowsControl_keepsSessions trivial trivial
      (fun _ => keepsSessions_send (by decide)) (fun _ => keepsSessions_closeChannel)
      fun _ => trivial) h
  channelData h _ := tracked_of_uses (uses_handleChannelData allowsControl_keepsSessions
    (fun _ _ => trivial) (fun _ _ => trivial) (fun _ _ => trivial)
    (fun _ _ => keepsSessions_send (by decide)) fun _ => keepsSessions_closeChannel) h
  windowAdjust h _ := tracked_of_uses (uses_handleWindowAdjust allowsControl_keepsSessions
    fun _ _ => trivial) h
  channelClose h _ := tracked_of_uses (uses_handleChannelClose fun _ => keepsSessions_closeChannel) h
  channelRequest h _ := tracked_of_uses (uses_handleChannelRequest allowsControl_keepsSessions
    fun _ => keepsSessions_send (by decide)) h

/-- The clean-up removes the entry, then the record, and closes the socket when both are gone. -/
theorem session_cleanup (hist : List ConnStep) (conn : Conn) :
    Ensures ((sessionReliance plane).protocol SessionGuard fun _ _ => True) 0 (.serve turns)
      (do act .teardownChannels; releaseConnection plane; act .closeSocket) hist conn
      fun _ _ _ => True := by
  intro conn₁ _ choice _ conn₂ _ _
  refine ⟨trivial, ?_⟩
  refine ensures_bind.2 ?_
  intro conn₃ _ choice _ conn₄ hassumes hperform
  have htable : conn₄ = { conn₃ with table := [] } :=
    table_of_untrack hassumes.1 (show performConn plane .untrack choice conn₃ = _ from hperform)
  refine ⟨trivial, ?_⟩
  rw [if_pos hgrant]
  intro conn₅ hkeeps choice _ conn₆ hassumes hperform
  have hrecords : conn₆ = { conn₅ with records := [] } :=
    records_of_unregister hassumes.1 hassumes.2
      (show performConn plane .unregister choice conn₅ = _ from hperform)
  refine ⟨trivial, ?_⟩
  intro conn₇ hkeeps' choice _ conn₈ _ _
  have hsame := sameSessions_of_keepsReader (hkeeps rfl)
  have hsame' := sameSessions_of_keepsReader (hkeeps' rfl)
  refine ⟨⟨?_, ?_⟩, trivial⟩
  · rw [hsame'.table, hrecords, hsame.table, htable]
  · rw [hsame'.records, hrecords]

end

end

/-! ## Runs -/

theorem sessionBooks_of_run {input : Bytes} {c : ConnPool} (hgrant : plane.policy.grant = true)
    (hrun : Run (connMachine plane) (fun c move => Forks c move ∧ LogsInOnce c move)
      (Config.idle { input }) c) : SessionBooks c.state c.log := by
  have hinit : LetInTracked { input } := by
    refine ⟨rfl, fun hauthed => ?_⟩
    cases hauthed
  have hguarded : SessionBooks c.state c.log ∧ PoolGuarded ((sessionReliance plane).protocol
      SessionGuard fun _ _ => True) c := by
    refine Reliance.guarded_of_run (I := SessionBooks) (J := LetInTracked) hrun (fun _ _ h => h.1)
      ?_ ?_ sessionBooks_of_guard hinit
      (fun hkeeps h => h.of_same (sameSessions_of_keepsReader hkeeps)) (fun _ _ _ => trivial) ?_
    · intro c pid process action rest choice h hD hp hprog
      exact ⟨h.toRemembered, hD.2.condition hp hprog⟩
    · refine ⟨⟨by simp, by simp, by simp, fun _ => ⟨rfl, rfl, rfl⟩, fun _ => ⟨rfl, rfl⟩⟩, ?_⟩
      exact fun hlogged => absurd rfl hlogged
    · intro turns conn h
      exact Reliance.ensures_serveConnection (((session_loop hgrant).serve h).mono
        fun _ _ _ _ _ => trivial) (session_cleanup hgrant)
  exact hguarded.1

theorem SessionBooks.kept (h : SessionBooks conn log) : SessionsKept plane conn log := by
  refine ⟨?_, h.cleaned⟩
  intro huntracked keyDigest hmem choice conn' hperform
  obtain ⟨rfl, hne⟩ := h.loggedIn keyDigest hmem
  have htable : conn.table ≠ [] :=
    (h.tracked (List.ne_nil_of_mem hmem)).resolve_right huntracked
  cases hperform
  rw [if_pos (by simp [hne, htable])]

/-- A connection that has not been cleaned up, where the drop of a key leaves the socket open. -/
theorem not_sessionsKept_of_drop (huntracked : ¬ Untracked log) (hmem : keyDigest ∈ conn.loggedIn)
    (hopen : conn.socketOpen = true) (hother : conn.keyDigest ≠ keyDigest) :
    ¬ SessionsKept plane conn log := by
  intro h
  have hclosed := h.drops huntracked keyDigest hmem {} conn (by simp [performConn, hother])
  rw [hopen] at hclosed
  cases hclosed

/-- **Sessions follow a connection that logs in once.** In every run in which a key is let in
only where none was and the removal of the record succeeds, on a plane that registers sessions:
until the clean-up, the drop of any key that has logged in closes the socket, and once the
connection has ended, no entry and no record of it is left. -/
theorem sessions_kept_of_one_login {plane : Plane} {input : Bytes} {c : ConnPool}
    (hgrant : plane.policy.grant = true)
    (hrun : Run (connMachine plane) (fun c move => Forks c move ∧ LogsInOnce c move)
      (Config.idle { input }) c) : SessionsKept plane c.state c.log :=
  (sessionBooks_of_run hgrant hrun).kept

namespace ConnectionSessionsScenario

/-- The stream of a client that logs in with the key `k` and with the key `l`. -/
def twoLogins : Bytes :=
  Sockets.hello ++ Sockets.packet (Sockets.userauth [107]) ++ Sockets.packet (Sockets.userauth [108])

/-- The connection is served up to the first login and for `n` more steps. The ids of the two
logins differ. -/
def serving (n : ℕ) : List ConnMove :=
  .start 0 (.serve 9) :: Sockets.steps 0 28 ++
    List.replicate n (.advance 0 { Sockets.fine with bytes := [1] })

end ConnectionSessionsScenario

open ConnectionSessionsScenario in
/-- A client logs in once, and the connection ends: nothing is left. -/
theorem sessions_kept_of_session :
    ∃ c, Run (connMachine (Sockets.plane 0)) (fun c move => Forks c move ∧ LogsInOnce c move)
        (Config.idle { input := Sockets.hello ++ Sockets.packet (Sockets.userauth [107]) }) c ∧
      c.state.loggedIn ≠ [] ∧ c.state.ended = true ∧
      SessionsKept (Sockets.plane 0) c.state c.log := by
  refine Run.exists_imp_of_runMoves (serving 6)
    (fun c => c.state.loggedIn ≠ [] ∧ c.state.ended = true) (by decide +kernel) ?_
  rintro c hrun ⟨hlogged, hended⟩
  exact ⟨hlogged, hended, sessions_kept_of_one_login rfl hrun⟩

open ConnectionSessionsScenario in
/-- A client logs in with two keys. A drop of the first leaves the socket open; and when the
connection has ended, the entry and the record of the first login are still there. -/
theorem second_login_loses_session :
    (∃ c, Run (connMachine (Sockets.plane 0)) Forks (Config.idle { input := twoLogins }) c ∧
      c.state.ended = false ∧ ¬ SessionsKept (Sockets.plane 0) c.state c.log) ∧
    ∃ c, Run (connMachine (Sockets.plane 0)) Forks (Config.idle { input := twoLogins }) c ∧
      c.state.ended = true ∧ c.state.table ≠ [] ∧ c.state.records ≠ [] ∧
      ¬ SessionsKept (Sockets.plane 0) c.state c.log := by
  constructor
  · refine Run.exists_imp_of_runMoves (serving 11)
      (fun c => c.state.ended = false ∧ ¬ Untracked c.log ∧
        (∃ keyDigest ∈ c.state.loggedIn, c.state.keyDigest ≠ keyDigest) ∧
        c.state.socketOpen = true) (by decide +kernel) ?_
    rintro c - ⟨hended, huntracked, ⟨keyDigest, hmem, hother⟩, hopen⟩
    exact ⟨hended, not_sessionsKept_of_drop huntracked hmem hopen hother⟩
  · refine Run.exists_imp_of_runMoves (serving 16)
      (fun c => c.state.ended = true ∧ c.state.table ≠ [] ∧ c.state.records ≠ [])
      (by decide +kernel) ?_
    rintro c - ⟨hended, htable, hrecords⟩
    exact ⟨hended, htable, hrecords, fun h => htable (h.cleaned hended).1⟩

end WarpTweet
