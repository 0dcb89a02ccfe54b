import WarpTweet.Analysis.Sockets
import WarpTweet.Analysis.Transport

/-!
# The channels of a connection

What each action does to the channels: one lemma for each action that touches them, and one for
all others. From these follow the invariants of the channel table: a serial number names one
channel, a local number names one channel of the table, and a closed channel is not in it.
-/

set_option autoImplicit false

namespace WarpTweet

open Concurrency Wire

variable {conn : Conn} {channel : Channel} {serial : ℕ} {change : Channel → Channel} {plane : Plane}
  {action : ConnAction} {choice : ConnChoice} {conn' : Conn}

section

variable {localID : Nat}

theorem mem_of_channel (h : conn.channel localID = some channel) :
    channel ∈ conn.channels ∧ channel.inTable = true ∧ channel.localID = localID := by
  have hfound := List.find?_some h
  rw [Bool.and_eq_true, beq_iff_eq] at hfound
  exact ⟨List.mem_of_find?_eq_some h, hfound⟩

theorem mem_of_channelOf (h : conn.channelOf serial = some channel) :
    channel ∈ conn.channels ∧ channel.serial = serial := by
  have hfound := List.find?_some h
  exact ⟨List.mem_of_find?_eq_some h, by simpa using hfound⟩

theorem not_mem_of_channel (h : conn.channel localID = none) (hmem : channel ∈ conn.channels)
    (hlocal : channel.localID = localID) : channel.inTable = false := by
  have hnone := List.find?_eq_none.1 h channel hmem
  simpa [hlocal] using hnone

/-- The change of one channel, as a function on all of them. -/
def changing (serial : ℕ) (change : Channel → Channel) (channel : Channel) : Channel :=
  if channel.serial = serial then change channel else channel

theorem changing_self (h : channel.serial = serial) :
    changing serial change channel = change channel := if_pos h

theorem changing_other (h : channel.serial ≠ serial) :
    changing serial change channel = channel := if_neg h

theorem channels_changeChannel :
    (conn.changeChannel serial change).channels = conn.channels.map (changing serial change) := rfl

end

/-! ## The actions on channels -/

def ConnAction.ChangesChannels : ConnAction → Prop
  | .openChannel _ _ _ | .takeWindow _ _ | .receiveData _ _ | .returnWindow _ _ => True
  | .adjustWindow _ _ | .closeChannel _ | .teardownChannels => True
  | _ => False

variable {localID : Nat} {serial : ℕ} {reply : Option Nat}

theorem channels_of_perform {reply : action.Reply}
    (h : performConn plane action choice conn = some (reply, conn'))
    (haction : ¬ action.ChangesChannels) : conn'.channels = conn.channels := by
  cases action with
  | openChannel | takeWindow | receiveData | returnWindow | adjustWindow | closeChannel
  | teardownChannels => exact absurd trivial haction
  | send payload =>
    rcases sendPacket_cases (Option.some.inj h) with ⟨-, rfl⟩ |
      ⟨-, -, -, _, _, _, _, -, -, -, -, rfl⟩ | ⟨-, _, -, -, rfl⟩ <;> rfl
  | _ =>
    simp only [performConn] at h
    repeat' split at h
    all_goals cases h
    all_goals rfl

theorem openChannel_cases {sender window maxPkt : Nat} {reply : Option (ℕ × Nat)}
    (h : performConn plane (.openChannel sender window maxPkt) choice conn = some (reply, conn')) :
    (reply = none ∧ conn' = conn) ∨
    (reply = some (conn.channels.length, conn.nextLocal) ∧
      conn' = enterChannel sender window maxPkt conn) := by
  simp only [performConn] at h
  split at h
  · cases h
    exact .inl ⟨rfl, rfl⟩
  · cases h
    exact .inr ⟨rfl, rfl⟩

theorem takeWindow_cases {length : Nat}
    (h : performConn plane (.takeWindow serial length) choice conn = some (reply, conn')) :
    (reply = none ∧ conn' = conn) ∨
    ∃ channel, conn.channelOf serial = some channel ∧ channel.closed = false ∧
      0 < channel.window ∧ conn.phase = .ready ∧
      reply = some (min (min length channel.maxPkt) channel.window) ∧
      conn' = conn.changeChannel serial fun channel' =>
        { channel' with window := channel'.window - min (min length channel.maxPkt) channel.window } := by
  simp only [performConn] at h
  split at h
  next =>
    cases h
    exact .inl ⟨rfl, rfl⟩
  next channel hchannel =>
    split at h
    next =>
      cases h
      exact .inl ⟨rfl, rfl⟩
    next hopen =>
      split at h
      next => cases h
      next hready =>
        cases h
        rw [not_or, not_not] at hready
        refine .inr ⟨channel, hchannel, by simpa using hopen, Nat.pos_of_ne_zero hready.1, hready.2, rfl, rfl⟩

theorem receiveData_cases {size : Nat} {reply : ReceiveReply}
    (h : performConn plane (.receiveData localID size) choice conn = some (reply, conn')) :
    (reply = .unknown ∧ conn.channel localID = none ∧ conn' = conn) ∨
    ∃ channel, conn.channel localID = some channel ∧
      ((reply = .exceeds ∧ (channel.maxRecv < size ∨ channel.recvWindow < size) ∧ conn' = conn) ∨
      (reply = .accepted channel.serial ∧ size ≤ channel.maxRecv ∧ size ≤ channel.recvWindow ∧
        conn' = conn.changeChannel channel.serial fun channel =>
          { channel with recvWindow := channel.recvWindow - size })) := by
  simp only [performConn] at h
  split at h
  next hchannel =>
    cases h
    exact .inl ⟨rfl, hchannel, rfl⟩
  next channel hchannel =>
    refine .inr ⟨channel, hchannel, ?_⟩
    split at h
    next hlimit =>
      cases h
      exact .inl ⟨rfl, hlimit, rfl⟩
    next hlimit =>
      cases h
      rw [not_or] at hlimit
      exact .inr ⟨rfl, Nat.le_of_not_lt hlimit.1, Nat.le_of_not_lt hlimit.2, rfl⟩

theorem returnWindow_cases {n : Nat} {reply : Option (Nat × Nat)}
    (h : performConn plane (.returnWindow serial n) choice conn = some (reply, conn')) :
    (reply = none ∧ conn.channelOf serial = none ∧ conn' = conn) ∨
    ∃ channel, conn.channelOf serial = some channel ∧
      ((reply = none ∧ channel.consumed + n < windowAdjustThreshold ∧
        conn' = conn.changeChannel serial ({ · with consumed := channel.consumed + n })) ∨
      (reply = some (channel.remoteID, channel.consumed + n) ∧
        windowAdjustThreshold ≤ channel.consumed + n ∧
        conn' = conn.changeChannel serial fun channel' =>
          { channel' with
            consumed := 0
            recvWindow := channel'.recvWindow + (channel.consumed + n) })) := by
  simp only [performConn] at h
  split at h
  next hchannel =>
    cases h
    exact .inl ⟨rfl, hchannel, rfl⟩
  next channel hchannel =>
    refine .inr ⟨channel, hchannel, ?_⟩
    split at h
    next hsmall =>
      cases h
      exact .inl ⟨rfl, hsmall, rfl⟩
    next hsmall =>
      cases h
      exact .inr ⟨rfl, Nat.le_of_not_lt hsmall, rfl⟩

theorem adjustWindow_cases {add : Nat} {reply : AdjustReply}
    (h : performConn plane (.adjustWindow localID add) choice conn = some (reply, conn')) :
    (reply ≠ .adjusted ∧ conn' = conn) ∨
    ∃ channel, conn.channel localID = some channel ∧ reply = .adjusted ∧
      add ≤ 2 ^ 32 - 1 - channel.window ∧
      conn' = conn.changeChannel channel.serial fun channel =>
        { channel with window := channel.window + add } := by
  simp only [performConn] at h
  split at h
  next =>
    cases h
    exact .inl ⟨by simp, rfl⟩
  next channel hchannel =>
    split at h
    next =>
      cases h
      exact .inl ⟨by simp, rfl⟩
    next hadd =>
      cases h
      exact .inr ⟨channel, hchannel, rfl, Nat.le_of_not_lt hadd, rfl⟩

theorem closeChannel_cases
    (h : performConn plane (.closeChannel localID) choice conn = some (reply, conn')) :
    (reply = none ∧ conn.channel localID = none ∧ conn' = conn) ∨
    ∃ channel, conn.channel localID = some channel ∧ reply = some channel.remoteID ∧
      conn' = conn.changeChannel channel.serial ({ · with closed := true, inTable := false }) := by
  simp only [performConn] at h
  split at h
  next hchannel =>
    cases h
    exact .inl ⟨rfl, hchannel, rfl⟩
  next channel hchannel =>
    cases h
    exact .inr ⟨channel, hchannel, rfl, rfl⟩

/-! ## The table -/

/-- What no action changes of a channel, and how it may leave the table. -/
structure Channel.Stays (channel channel' : Channel) : Prop where
  serial : channel'.serial = channel.serial
  localID : channel'.localID = channel.localID
  remoteID : channel'.remoteID = channel.remoteID
  maxPkt : channel'.maxPkt = channel.maxPkt
  maxRecv : channel'.maxRecv = channel.maxRecv
  inTable : channel'.inTable = true → channel.inTable = true
  closed : channel.closed = true → channel'.closed = true
  closing : channel'.closed = true → channel.closed = true ∨ channel'.inTable = false

theorem Channel.Stays.refl (channel : Channel) : channel.Stays channel :=
  ⟨rfl, rfl, rfl, rfl, rfl, id, id, .inl⟩

/-- A serial number names one channel, the next one is new, a local number names one channel of
the table, and closed channels are not in the table. -/
structure Tidy (conn : Conn) : Prop where
  serial : ∀ channel ∈ conn.channels, ∀ other ∈ conn.channels, channel.serial = other.serial →
    channel = other
  next : ∀ channel ∈ conn.channels, channel.serial < conn.channels.length
  entry : ∀ channel ∈ conn.channels, ∀ other ∈ conn.channels, channel.inTable = true →
    other.inTable = true → channel.localID = other.localID → channel = other
  closed : ∀ channel ∈ conn.channels, channel.closed = true → channel.inTable = false

variable {reply : action.Reply}

theorem stays_changing (h : channel.Stays (change channel)) :
    channel.Stays (changing serial change channel) := by
  unfold changing
  split
  · exact h
  · exact .refl channel

/-- Each channel stays, and a new one may be entered under a local number that is free from
then on. -/
def EachStays (conn conn' : Conn) : Prop :=
  ∃ change : Channel → Channel, (∀ channel ∈ conn.channels, channel.Stays (change channel)) ∧
    (conn'.channels = conn.channels.map change ∨
    ∃ new, conn'.channels = new :: conn.channels.map change ∧
      new.serial = conn.channels.length ∧ new.closed = false ∧
      ∀ channel ∈ conn.channels, (change channel).inTable = true → channel.localID ≠ new.localID)

theorem eachStays_of_eq (h : conn'.channels = conn.channels) : EachStays conn conn' :=
  ⟨id, fun channel _ => .refl channel, .inl (by rw [h, List.map_id])⟩

theorem eachStays_changeChannel (h : ∀ channel : Channel, channel.Stays (change channel)) :
    EachStays conn (conn.changeChannel serial change) :=
  ⟨changing serial change, fun channel _ => stays_changing (h channel), .inl rfl⟩

/-- **What an action does to the channels.** -/
theorem eachStays_of_perform (h : performConn plane action choice conn = some (reply, conn')) :
    EachStays conn conn' := by
  cases action with
  | openChannel sender window maxPkt =>
    rcases openChannel_cases h with ⟨-, rfl⟩ | ⟨-, rfl⟩
    · exact eachStays_of_eq rfl
    · refine ⟨fun other => if other.localID = conn.nextLocal then { other with inTable := false }
        else other, ?_, .inr ⟨_, rfl, rfl, rfl, ?_⟩⟩
      · intro channel _
        dsimp only
        split
        · exact ⟨rfl, rfl, rfl, rfl, rfl, by simp, id, fun _ => .inr rfl⟩
        · exact .refl channel
      · intro channel _ htable
        dsimp only at htable ⊢
        split at htable
        · cases htable
        · assumption
  | takeWindow serial length =>
    rcases takeWindow_cases h with ⟨-, rfl⟩ | ⟨_, -, -, -, -, -, rfl⟩
    · exact eachStays_of_eq rfl
    · exact eachStays_changeChannel fun _ => ⟨rfl, rfl, rfl, rfl, rfl, id, id, .inl⟩
  | receiveData localID size =>
    rcases receiveData_cases h with ⟨-, -, rfl⟩ | ⟨_, -, ⟨-, -, rfl⟩ | ⟨-, -, -, rfl⟩⟩
    · exact eachStays_of_eq rfl
    · exact eachStays_of_eq rfl
    · exact eachStays_changeChannel fun _ => ⟨rfl, rfl, rfl, rfl, rfl, id, id, .inl⟩
  | returnWindow serial n =>
    rcases returnWindow_cases h with ⟨-, -, rfl⟩ | ⟨_, -, ⟨-, -, rfl⟩ | ⟨-, -, rfl⟩⟩
    · exact eachStays_of_eq rfl
    · exact eachStays_changeChannel fun _ => ⟨rfl, rfl, rfl, rfl, rfl, id, id, .inl⟩
    · exact eachStays_changeChannel fun _ => ⟨rfl, rfl, rfl, rfl, rfl, id, id, .inl⟩
  | adjustWindow localID add =>
    rcases adjustWindow_cases h with ⟨-, rfl⟩ | ⟨_, -, -, -, rfl⟩
    · exact eachStays_of_eq rfl
    · exact eachStays_changeChannel fun _ => ⟨rfl, rfl, rfl, rfl, rfl, id, id, .inl⟩
  | closeChannel localID =>
    rcases closeChannel_cases h with ⟨-, -, rfl⟩ | ⟨_, -, -, rfl⟩
    · exact eachStays_of_eq rfl
    · exact eachStays_changeChannel fun _ =>
        ⟨rfl, rfl, rfl, rfl, rfl, by simp, fun _ => rfl, fun _ => .inr rfl⟩
  | teardownChannels =>
    cases h
    refine ⟨_, ?_, .inl rfl⟩
    intro channel _
    split
    · exact ⟨rfl, rfl, rfl, rfl, rfl, by simp, fun _ => rfl, fun _ => .inr rfl⟩
    · exact .refl channel
  | _ => exact eachStays_of_eq (channels_of_perform h id)

theorem Tidy.map (h : Tidy conn)
    (hstays : ∀ channel ∈ conn.channels, channel.Stays (change channel))
    (hchannels : conn'.channels = conn.channels.map change) : Tidy conn' := by
  have hmem : ∀ channel' ∈ conn'.channels, ∃ channel ∈ conn.channels, change channel = channel' := by
    intro channel' hmem
    rwa [hchannels, List.mem_map] at hmem
  refine ⟨?_, ?_, ?_, ?_⟩
  · intro channel' hmem₁ other' hmem₂ hserial
    obtain ⟨channel, hchannel, rfl⟩ := hmem channel' hmem₁
    obtain ⟨other, hother, rfl⟩ := hmem other' hmem₂
    rw [(hstays channel hchannel).serial, (hstays other hother).serial] at hserial
    rw [h.serial channel hchannel other hother hserial]
  · intro channel' hmem₁
    obtain ⟨channel, hchannel, rfl⟩ := hmem channel' hmem₁
    rw [(hstays channel hchannel).serial, hchannels, List.length_map]
    exact h.next channel hchannel
  · intro channel' hmem₁ other' hmem₂ htable htable' hlocal
    obtain ⟨channel, hchannel, rfl⟩ := hmem channel' hmem₁
    obtain ⟨other, hother, rfl⟩ := hmem other' hmem₂
    rw [(hstays channel hchannel).localID, (hstays other hother).localID] at hlocal
    rw [h.entry channel hchannel other hother ((hstays channel hchannel).inTable htable)
      ((hstays other hother).inTable htable') hlocal]
  · intro channel' hmem₁ hclosed
    obtain ⟨channel, hchannel, rfl⟩ := hmem channel' hmem₁
    rcases (hstays channel hchannel).closing hclosed with hbefore | hout
    · have hout := h.closed channel hchannel hbefore
      by_contra hin
      rw [(hstays channel hchannel).inTable (by simpa using hin)] at hout
      cases hout
    · exact hout

theorem Tidy.cons (h : Tidy conn) {new : Channel} (hserial : new.serial = conn.channels.length)
    (hopen : new.closed = false)
    (hfree : ∀ channel ∈ conn.channels, channel.inTable = true → channel.localID ≠ new.localID)
    (hchannels : conn'.channels = new :: conn.channels) : Tidy conn' := by
  refine ⟨?_, ?_, ?_, ?_⟩ <;> rw [hchannels]
  · intro channel hmem other hmem' heq
    rcases List.mem_cons.1 hmem with rfl | hold <;> rcases List.mem_cons.1 hmem' with rfl | hold'
    · rfl
    · exact absurd (h.next other hold') (by omega)
    · exact absurd (h.next channel hold) (by omega)
    · exact h.serial channel hold other hold' heq
  · intro channel hmem
    rw [List.length_cons]
    rcases List.mem_cons.1 hmem with rfl | hmem
    · omega
    · have hlt := h.next channel hmem
      omega
  · intro channel hmem other hmem' htable htable' heq
    rcases List.mem_cons.1 hmem with rfl | hold <;> rcases List.mem_cons.1 hmem' with rfl | hold'
    · rfl
    · exact absurd heq.symm (hfree other hold' htable')
    · exact absurd heq (hfree channel hold htable)
    · exact h.entry channel hold other hold' htable htable' heq
  · intro channel hmem hclosed
    rcases List.mem_cons.1 hmem with rfl | hmem
    · rw [hopen] at hclosed
      cases hclosed
    · exact h.closed channel hmem hclosed

theorem Tidy.of_perform (h : Tidy conn)
    (hperform : performConn plane action choice conn = some (reply, conn')) : Tidy conn' := by
  obtain ⟨change, hstays, hchannels | ⟨new, hchannels, hserial, hopen, hfree⟩⟩ :=
    eachStays_of_perform hperform
  · exact h.map hstays hchannels
  · have hmapped : Tidy { conn with channels := conn.channels.map change } := h.map hstays rfl
    refine hmapped.cons ?_ hopen ?_ hchannels
    · rw [hserial, List.length_map]
    · intro channel' hmem htable
      obtain ⟨channel, hold, rfl⟩ := List.mem_map.1 hmem
      rw [(hstays channel hold).localID]
      exact hfree channel hold htable

theorem tidy_of_run {input : Bytes} {c : ConnPool}
    (hrun : Run (connMachine plane) Forks (Config.idle { input }) c) : Tidy c.state := by
  refine hrun.log_invariant (I := fun conn _ => Tidy conn) ?_ ?_ ?_
  · exact ⟨by simp, by simp, by simp, by simp⟩
  · intro c pid process action rest choice reply conn _ _ _ hperform h
    exact h.of_perform hperform
  · intro c pid _ h
    exact h

/-! ## The limit -/

theorem countP_inTable_map {channels : List Channel}
    (h : ∀ channel, (change channel).inTable = true → channel.inTable = true) :
    (channels.map change).countP Channel.inTable ≤ channels.countP Channel.inTable := by
  rw [List.countP_map]
  exact List.countP_mono_left fun channel _ => h channel

/-- A channel is entered only while there is room. -/
theorem channelCount_of_perform {reply : action.Reply}
    (h : conn.channelCount ≤ plane.policy.maxChannels)
    (hperform : performConn plane action choice conn = some (reply, conn')) :
    conn'.channelCount ≤ plane.policy.maxChannels := by
  by_cases haction : action.ChangesChannels
  · cases action with
    | openChannel sender window maxPkt =>
      simp only [performConn] at hperform
      split at hperform
      next =>
        cases hperform
        exact h
      next hfree =>
        cases hperform
        rw [Conn.channelCount, enterChannel, List.countP_cons_of_pos rfl]
        refine (Nat.succ_le_succ (countP_inTable_map fun channel => ?_)).trans (not_le.1 hfree)
        split <;> simp
    | takeWindow | receiveData | returnWindow | adjustWindow | closeChannel | teardownChannels =>
      simp only [performConn] at hperform
      repeat' split at hperform
      all_goals cases hperform
      all_goals first
        | exact h
        | refine (countP_inTable_map fun channel => ?_).trans h
          split <;> simp
    | _ => exact haction.elim
  · rw [Conn.channelCount, channels_of_perform hperform haction]
    exact h

/-- **The table of channels.** In every run, no more channels are in the table than the policy
allows, none of them is closed, and the number of a channel in the table leads to this channel. -/
theorem open_channels_within_policy {input : Bytes} {c : ConnPool}
    (hrun : Run (connMachine plane) Forks (Config.idle { input }) c) :
    c.state.channelCount ≤ plane.policy.maxChannels ∧
      ∀ channel ∈ c.state.channels, channel.inTable = true → channel.closed = false ∧
        c.state.channel channel.localID = some channel := by
  have htidy := tidy_of_run hrun
  refine ⟨hrun.log_invariant (I := fun conn _ => conn.channelCount ≤ plane.policy.maxChannels)
    (Nat.zero_le _) ?_ (fun _ h => h), fun channel hmem htable => ⟨?_, ?_⟩⟩
  · intro c pid process action rest choice reply conn _ _ _ hperform h
    exact channelCount_of_perform h hperform
  · by_contra hclosed
    rw [htidy.closed channel hmem (by simpa using hclosed)] at htable
    cases htable
  · cases hfound : c.state.channel channel.localID with
    | none =>
      rw [not_mem_of_channel hfound hmem rfl] at htable
      cases htable
    | some other =>
      obtain ⟨hother, hin, hlocal⟩ := mem_of_channel hfound
      rw [htidy.entry other hother channel hmem hin htable hlocal]

/-- A channel is in the table while it is forwarded. -/
theorem open_channels_of_forwarding :
    ∃ c : ConnPool, c.state.channelCount = 1 ∧ c.state.channelCount ≤ 4 ∧
      ∀ channel ∈ c.state.channels, channel.inTable = true → channel.closed = false ∧
        c.state.channel channel.localID = some channel := by
  obtain ⟨c, hrun, hone⟩ := Run.exists_of_runMoves (D := Forks)
    (M := connMachine (Sockets.plane (2 ^ 29))) (c := Config.idle { input := Sockets.session })
    (p := fun c => c.state.channelCount = 1) Sockets.forwarding (by decide +kernel)
  exact ⟨c, hone, open_channels_within_policy hrun⟩

end WarpTweet
