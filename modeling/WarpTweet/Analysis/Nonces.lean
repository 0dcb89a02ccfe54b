import WarpTweet.Analysis.Sockets
import WarpTweet.Analysis.Transport

/-!
# Sequence numbers on the wire

A packet is sealed with the outgoing key and its sequence number, so two different packets
under the same key and number must never both reach the peer. The number is advanced only
after a packet has been written as a whole. A write that fails in the middle of a packet
leaves the number as it is, and the writers go on: a channel that cannot be written is
closed, and its close message is sealed under the number of the torn packet.

In every run in which a torn stream is left alone, no number is used twice.
-/

namespace WarpTweet

open Concurrency Wire

/-- No two different payloads are sealed under the same key and number when bytes of both
were sent, and every number fits into 32 bits. -/
def FreshNonces (conn : Conn) : Prop :=
  (∀ first ∈ conn.wire, ∀ second ∈ conn.wire, first.key.isSome = true →
    first.key = second.key → first.seq = second.seq → 0 < first.sent → 0 < second.sent →
      first.payload = second.payload) ∧
  ∀ frame ∈ conn.wire, frame.seq ≤ maxSSHSeq

instance : DecidablePred FreshNonces := fun _ => by
  unfold FreshNonces
  infer_instance

/-- The outgoing keys of the exchanges so far, newest first. -/
def exchangedKeys (log : ConnLog) :
    List ChachaDirection :=
  log.filterMap fun event => event.action.newKey

/-- Distinct exchanges have distinct keys. -/
abbrev FreshExchangeKeys : ConnPool → ConnMove → Prop :=
  OnAction fun c _ action _ => ∀ key ∈ action.newKey, key ∉ exchangedKeys c.log

/-- A write under the current key has failed after it had sent some of its bytes. -/
def Conn.Torn (conn : Conn) : Prop :=
  ∃ frame ∈ conn.wire, frame.key.isSome = true ∧ frame.key = conn.sealingKey ∧
    frame.ok = false ∧ 0 < frame.sent

instance : DecidablePred Conn.Torn := fun _ => by
  unfold Conn.Torn
  infer_instance

/-- A write to a torn stream fails and sends nothing. -/
abbrev LeavesTorn : ConnPool → ConnMove → Prop :=
  OnAction fun c _ action choice => ∀ _payload ∈ action.sends,
    c.state.Torn → choice.ok = false ∧ choice.sent = 0

/-! ## The invariant -/

/-- Keys on the wire and the current one are of exchanges that took place. Under the current
key, the numbers of packets that were written as a whole have been passed. -/
structure Numbered (conn : Conn)
    (log : ConnLog) : Prop where
  fresh : FreshNonces conn
  exchanged : ∀ frame ∈ conn.wire, ∀ key ∈ frame.key, key ∈ exchangedKeys log
  current : ∀ key ∈ conn.sealingKey, key ∈ exchangedKeys log
  passed : ∀ frame ∈ conn.wire, frame.key.isSome = true → frame.key = conn.sealingKey →
    frame.ok = true → frame.seq < conn.outSeq

section

variable {plane : Plane} {action : ConnAction} {choice : ConnChoice} {conn conn' : Conn}
  {log : ConnLog}

/-- Freshness is kept by a packet under a number that no other packet has reached the peer
with. -/
theorem FreshNonces.cons (h : FreshNonces conn) {frame : Frame} (hseq : frame.seq ≤ maxSSHSeq)
    (hnew : ∀ other ∈ conn.wire, other.key.isSome = true → other.key = frame.key →
      other.seq = frame.seq → 0 < other.sent → ¬ 0 < frame.sent)
    (hwire : conn'.wire = frame :: conn.wire) : FreshNonces conn' := by
  unfold FreshNonces
  rw [hwire]
  constructor
  · intro first hfirst second hsecond hsome hkey hnumber hsent hsent'
    rw [List.mem_cons] at hfirst hsecond
    rcases hfirst with hfirst | hfirst <;> rcases hsecond with hsecond | hsecond
    · rw [hfirst, hsecond]
    · subst hfirst
      exact absurd hsent (hnew second hsecond (hkey ▸ hsome) hkey.symm hnumber.symm hsent')
    · subst hsecond
      exact absurd hsent' (hnew first hfirst hsome hkey hnumber hsent)
    · exact h.1 first hfirst second hsecond hsome hkey hnumber hsent hsent'
  · intro other hother
    rcases List.mem_cons.1 hother with rfl | hother
    · exact hseq
    · exact h.2 other hother

/-- Bytes of a packet with the next number have been sent only if the stream is torn. -/
theorem Numbered.torn (h : Numbered conn log) {other : Frame} (hmem : other ∈ conn.wire)
    (hsome : other.key.isSome = true) (hkey : other.key = conn.sealingKey)
    (hseq : other.seq = conn.outSeq) (hsent : 0 < other.sent) : conn.Torn := by
  refine ⟨other, hmem, hsome, hkey, ?_, hsent⟩
  by_contra hok
  have hlt := h.passed other hmem hsome hkey (by simpa using hok)
  omega

/-- A write to a stream that is not torn, or that sends nothing, keeps the numbers in
order. -/
theorem Numbered.send (h : Numbered conn log) {payload : Bytes} {reply : SendReply}
    (hsend : sendPacket plane choice payload conn = (reply, conn'))
    (htorn : conn.Torn → choice.ok = false ∧ choice.sent = 0) : Numbered conn' log := by
  rcases sendPacket_cases hsend with ⟨-, rfl⟩ |
    ⟨hle, hok, -, length, bytesOut, loggedIn, needRekey, -, -, -, -, rfl⟩ |
    ⟨hle, sent, hsent, -, rfl⟩
  · exact h
  · have hwhole : ¬ conn.Torn := fun hbroken => by simp [(htorn hbroken).1] at hok
    refine ⟨h.fresh.cons hle ?_ rfl, ?_, h.current, ?_⟩
    · intro other hmem hsome hkey hseq hsent _
      exact hwhole (h.torn hmem hsome hkey hseq hsent)
    · intro frame hmem key hkey
      rcases List.mem_cons.1 hmem with rfl | hmem
      · exact h.current key hkey
      · exact h.exchanged frame hmem key hkey
    · intro frame hmem hsome hkey hwritten
      rcases List.mem_cons.1 hmem with rfl | hmem
      · exact Nat.lt_succ_self _
      · exact Nat.lt_succ_of_lt (h.passed frame hmem hsome hkey hwritten)
  · refine ⟨h.fresh.cons hle ?_ rfl, ?_, h.current, ?_⟩
    · intro other hmem hsome hkey hseq hbytes hsome'
      have hnothing := (htorn (h.torn hmem hsome hkey hseq hbytes)).2
      simp only at hsome'
      omega
    · intro frame hmem key hkey
      rcases List.mem_cons.1 hmem with rfl | hmem
      · exact h.current key hkey
      · exact h.exchanged frame hmem key hkey
    · intro frame hmem hsome hkey hwritten
      rcases List.mem_cons.1 hmem with rfl | hmem
      · cases hwritten
      · exact h.passed frame hmem hsome hkey hwritten

theorem Numbered.switchKeys (h : Numbered conn log) {out inward : ChachaDirection}
    (hnew : out ∉ exchangedKeys log) {event : ConnEvent}
    (hevent : event.action = .switchKeys out inward) (hwire : conn'.wire = conn.wire)
    (hclear : conn'.clearOut = false) (hout : conn'.outKey = some out) :
    Numbered conn' (event :: log) := by
  have hkeys : exchangedKeys (event :: log) = out :: exchangedKeys log := by
    simp [exchangedKeys, hevent, ConnAction.newKey]
  have hseals : conn'.sealingKey = some out := by
    simp [Conn.sealingKey, hclear, hout]
  refine ⟨?_, ?_, ?_, ?_⟩
  · unfold FreshNonces
    rw [hwire]
    exact h.fresh
  · intro frame hmem key hkey
    rw [hwire] at hmem
    rw [hkeys]
    exact List.mem_cons_of_mem _ (h.exchanged frame hmem key hkey)
  · intro key hkey
    rw [hseals] at hkey
    cases hkey
    rw [hkeys]
    exact List.mem_cons_self
  · intro frame hmem _ hkey _
    rw [hwire] at hmem
    rw [hseals] at hkey
    exact absurd (h.exchanged frame hmem out hkey) hnew

end

/-- Every step of a connection keeps the numbers in order, if new keys are new and a torn
stream is left alone. -/
theorem Numbered.perform {plane : Plane} {action : ConnAction} {choice : ConnChoice}
    {conn conn' : Conn} {reply : action.Reply} {pid : ℕ} {call : ConnCall} {log : ConnLog}
    (h : Numbered conn log) (hkeys : ∀ key ∈ action.newKey, key ∉ exchangedKeys log)
    (htorn : ∀ _payload ∈ action.sends, conn.Torn → choice.ok = false ∧ choice.sent = 0)
    (hperform : performConn plane action choice conn = some (reply, conn')) :
    Numbered conn' (⟨⟨action, choice, reply⟩, pid, call⟩ :: log) := by
  cases hsends : action.sends with
  | some payload =>
    cases action with
    | send payload' =>
      have hnumbered := h.send (Option.some.inj hperform) (htorn payload' rfl)
      exact ⟨hnumbered.fresh, hnumbered.exchanged, hnumbered.current, hnumbered.passed⟩
    | _ => cases hsends
  | none =>
    cases hkey : action.newKey with
    | some key =>
      cases action with
      | switchKeys out inward =>
        cases hperform
        exact h.switchKeys (hkeys out rfl) rfl rfl rfl rfl
      | _ => cases hkey
    | none =>
      obtain ⟨hwire, hseq, hout, hclear⟩ := outgoing_of_perform hperform hsends hkey
      have hseals : conn'.sealingKey = conn.sealingKey := by
        rw [Conn.sealingKey, hout, hclear, Conn.sealingKey]
      have hexchanged : exchangedKeys (⟨⟨action, choice, reply⟩, pid, call⟩ :: log) =
          exchangedKeys log := by
        simp [exchangedKeys, hkey]
      refine ⟨?_, ?_, ?_, ?_⟩
      · unfold FreshNonces
        rw [hwire]
        exact h.fresh
      · rw [hwire, hexchanged]
        exact h.exchanged
      · rw [hseals, hexchanged]
        exact h.current
      · rw [hwire, hseals, hseq]
        exact h.passed

/-- No number is used twice in a run in which a torn stream is left alone. -/
theorem freshNonces_of_leavesTorn {plane : Plane} {input : Bytes} {c : ConnPool}
    (hrun : Run (connMachine plane)
      (fun c move => Forks c move ∧ FreshExchangeKeys c move ∧ LeavesTorn c move)
      (Config.idle { input }) c) : FreshNonces c.state := by
  have hnumbered : Numbered c.state c.log := by
    refine hrun.log_invariant (I := Numbered) ?_ ?_ ?_
    · exact ⟨⟨by simp, by simp⟩, by simp, by simp [Conn.sealingKey], by simp⟩
    · rintro c pid process action rest choice reply state ⟨-, hkeys, htorn⟩ hp hprog hperform h
      exact h.perform (hkeys.condition hp hprog) (htorn.condition hp hprog) hperform
    · rintro c pid ⟨hforks, -, -⟩ -
      exact hforks.elim
  exact hnumbered.fresh

/-- A forwarder's write is torn, and every later write fails: the numbers stay in order. -/
theorem freshNonces_of_dead_stream :
    ∃ c, Run (connMachine (Sockets.plane (2 ^ 29)))
        (fun c move => Forks c move ∧ FreshExchangeKeys c move ∧ LeavesTorn c move)
        (Config.idle { input := Sockets.session }) c ∧
      c.state.Torn ∧ FreshNonces c.state := by
  refine Run.exists_imp_of_runMoves
    (Sockets.forwarding ++ Sockets.steps 1 1 ++
      [.advance 1 { ok := false, sent := 5 }, .advance 1 Sockets.fine, .advance 1 { ok := false }])
    (fun c => c.state.Torn) (by decide +kernel) ?_
  exact fun c hrun htorn => ⟨htorn, freshNonces_of_leavesTorn hrun⟩

/-- A forwarder's write fails after five bytes of its packet. The forwarder closes the channel,
and the close message is sealed with the same key and number and is written as a whole. -/
theorem torn_packet_reuses_nonce :
    ∃ c, Run (connMachine (Sockets.plane (2 ^ 29)))
        (fun c move => Forks c move ∧ FreshExchangeKeys c move)
        (Config.idle { input := Sockets.session }) c ∧ ¬ FreshNonces c.state := by
  exact Run.exists_of_runMoves
    (Sockets.forwarding ++ Sockets.steps 1 1 ++
      [.advance 1 { ok := false, sent := 5 }] ++ Sockets.steps 1 2) (by decide +kernel)

end WarpTweet
