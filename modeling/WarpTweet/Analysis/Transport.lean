import WarpTweet.Analysis.Sockets

/-!
# What the actions of a connection change

One lemma for each part of a connection says which actions can change it, and how. The
analysis of a run uses these lemmas and does not look into the actions.
-/

namespace WarpTweet

open Concurrency Wire

/-! ## The outgoing stream -/

/-- The payload that an action hands to the socket. -/
def ConnAction.sends : ConnAction → Option Bytes
  | .send payload => some payload
  | _ => none

/-- The outgoing key that an action brings into use. -/
def ConnAction.newKey : ConnAction → Option ChachaDirection
  | .switchKeys out _ => some out
  | _ => none

/-- The key that outgoing packets are sealed with now. -/
def Conn.sealingKey (conn : Conn) : Option ChachaDirection :=
  if conn.clearOut then none else conn.outKey

variable {plane : Plane} {action : ConnAction} {choice : ConnChoice} {conn conn' : Conn}
  {reply : action.Reply}
  {payload : Bytes}

theorem key_of_nextFrame {random frame : Bytes} {key : Option ChachaDirection}
    (h : nextFrame plane random payload conn = some (key, frame)) : key = conn.sealingKey := by
  unfold nextFrame at h
  unfold Conn.sealingKey
  split at h
  next hclear =>
    cases h
    rw [if_pos hclear]
  next hclear =>
    rw [if_neg hclear]
    split at h
    next outKey hkey =>
      rw [Option.map_eq_some_iff] at h
      obtain ⟨sealed, -, h⟩ := h
      cases h
      exact hkey.symm
    next => cases h

/-- What becomes of a packet that is handed to the socket: nothing, because it cannot be
sealed or the numbers are used up; it is written as a whole; or the write fails after some
of its bytes. -/
theorem sendPacket_cases {reply : SendReply}
    (h : sendPacket plane choice payload conn = (reply, conn')) : (reply = .failed ∧ conn' = conn) ∨
    (conn.outSeq ≤ maxSSHSeq ∧ choice.ok = true ∧ conn.socketOpen = true ∧
      ∃ length bytesOut loggedIn needRekey, reply = .sent needRekey ∧
        (needRekey = true → conn.authed = true ∧ conn.phase = .ready ∧
          payload.head? ≠ some sshMsgKexInit) ∧
        (payload ≠ [sshMsgUserauthSuccess] → loggedIn = conn.loggedIn) ∧
        (payload = [sshMsgUserauthSuccess] → loggedIn = conn.keyDigest :: conn.loggedIn) ∧
        conn' = { conn with
          wire := ⟨conn.sealingKey, conn.outSeq, payload, length, true⟩ :: conn.wire
          outSeq := conn.outSeq + 1
          bytesOut
          loggedIn }) ∨
    (conn.outSeq ≤ maxSSHSeq ∧ ∃ sent ≤ choice.sent, reply = .failed ∧
      conn' = { conn with
        wire := ⟨conn.sealingKey, conn.outSeq, payload, sent, false⟩ :: conn.wire }) := by
  unfold sendPacket at h
  split at h
  next =>
    cases h
    exact .inl ⟨rfl, rfl⟩
  next hseq =>
    have hle : conn.outSeq ≤ maxSSHSeq := Nat.le_of_not_lt hseq
    split at h
    next =>
      cases h
      exact .inl ⟨rfl, rfl⟩
    next key frame hframe =>
      have hkey := key_of_nextFrame hframe
      subst hkey
      split at h
      next hok =>
        rw [Bool.and_eq_true] at hok
        cases h
        refine .inr (.inl ⟨hle, hok.1, hok.2, _, _, _, _, rfl, ?_, ?_, ?_, rfl⟩)
        · simp +contextual
        · exact fun hpayload => if_neg hpayload
        · exact fun hpayload => if_pos hpayload
      next =>
        cases h
        refine .inr (.inr ⟨hle, _, ?_, rfl, rfl⟩)
        split
        · exact min_le_left _ _
        · exact Nat.zero_le _

theorem outgoing_of_perform (h : performConn plane action choice conn = some (reply, conn'))
    (hsends : action.sends = none) (hkey : action.newKey = none) :
    conn'.wire = conn.wire ∧ conn'.outSeq = conn.outSeq ∧ conn'.outKey = conn.outKey ∧
      conn'.clearOut = conn.clearOut := by
  cases action with
  | send payload => cases hsends
  | switchKeys out inward => cases hkey
  | _ =>
    simp only [performConn] at h
    repeat' split at h
    all_goals cases h
    all_goals exact ⟨rfl, rfl, rfl, rfl⟩

/-! ## No way back -/

/-- What holds on from one state of a connection to a later one, and what was handed to the socket
in between. -/
structure Advances (conn conn' : Conn) : Prop where
  clearIn : conn.clearIn = false → conn'.clearIn = false
  sealed : conn.sealingKey.isSome → conn'.sealingKey.isSome
  sessionID : conn.sessionID ≠ [] → conn'.sessionID = conn.sessionID
  strictKEX : conn.initialKEX = false → conn'.initialKEX = false ∧ conn'.strictKEX = conn.strictKEX
  authed : conn.authed = true → conn'.authed = true
  socket : conn.socketOpen = false → conn'.socketOpen = false
  ended : conn.ended = true → conn'.ended = true
  wire : ∃ later, conn'.wire = later ++ conn.wire ∧ ∀ frame ∈ later,
    (conn.sealingKey.isSome → frame.key.isSome) ∧ (conn.socketOpen = false → frame.ok = false)

theorem Advances.refl : Advances conn conn :=
  ⟨id, id, fun _ => rfl, fun hover => ⟨hover, rfl⟩, id, id, id, [], rfl, by simp⟩

theorem Advances.perform {conn₀ : Conn} (hbefore : Advances conn₀ conn)
    (h : performConn plane action choice conn = some (reply, conn')) : Advances conn₀ conn' := by
  obtain ⟨hin, hsealed, hid, hstrict, hauthed, hsocket, hended, later, hwire, hlater⟩ := hbefore
  cases action with
  | send payload =>
    rcases sendPacket_cases (Option.some.inj h) with ⟨-, rfl⟩ |
      ⟨-, -, hopen, _, _, _, _, -, -, -, -, rfl⟩ | ⟨-, _, -, -, rfl⟩
    · exact ⟨hin, hsealed, hid, hstrict, hauthed, hsocket, hended, later, hwire, hlater⟩
    all_goals
      refine ⟨hin, hsealed, hid, hstrict, hauthed, hsocket, hended, _ :: later,
        congrArg _ hwire, ?_⟩
      simp_all
  | acceptKexInit | newKeys | fixSessionID | switchKeys | setAuthed | closeSocket | dropKey =>
    -- the actions that change one of the fields, each in one direction
    simp only [performConn] at h
    repeat' split at h
    all_goals cases h
    all_goals refine ⟨?_, ?_, ?_, ?_, ?_, ?_, ?_, later, hwire, hlater⟩
    all_goals first | assumption | simp_all [Conn.sealingKey]
  | _ =>
    simp only [performConn] at h
    repeat' split at h
    all_goals cases h
    all_goals exact ⟨hin, hsealed, hid, hstrict, hauthed, hsocket, hended, later, hwire, hlater⟩

/-- **A connection never goes back.** In every order of its goroutines, a connection that seals its
packets hands no packet to the socket in the clear any more, and one that expects sealed packets
goes on to do so; its session identifier, its answer to strict key exchange and its login stay; and
nothing gets through once the socket is closed. -/
theorem connection_never_goes_back {D : ConnPool → ConnMove → Prop} {c c' : ConnPool}
    (hlater : Run (connMachine plane) D c c') : Advances c.state c'.state := by
  refine hlater.induct (I := fun c' => Advances c.state c'.state) .refl ?_
  intro c₁ c₂ move _ hbefore _ hnext
  rcases Config.next_eq_some hnext with
    ⟨pid, call, rfl, -, rfl⟩ | ⟨pid, process, action, rest, choice, reply, conn, rfl, -, -,
      hperform, rfl⟩ | ⟨pid, process, rfl, -, rfl⟩
  · exact hbefore
  · exact hbefore.perform hperform
  · exact hbefore

/-- A client has logged in and opened a channel; whatever its goroutines do next. -/
theorem forwarding_never_goes_back :
    ∃ c : ConnPool, (c.state.sealingKey.isSome ∧ c.state.authed = true) ∧ ∀ c',
      Run (connMachine (Sockets.plane (2 ^ 29))) Forks c c' → Advances c.state c'.state := by
  obtain ⟨c, -, hsealed⟩ := Run.exists_of_runMoves (D := Forks)
    (M := connMachine (Sockets.plane (2 ^ 29))) (c := Config.idle { input := Sockets.session })
    (p := fun c => c.state.sealingKey.isSome ∧ c.state.authed = true) Sockets.forwarding
    (by decide +kernel)
  exact ⟨c, hsealed, fun c' => connection_never_goes_back⟩

/-! ## The end -/

end WarpTweet
