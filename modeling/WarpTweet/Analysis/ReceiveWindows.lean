import WarpTweet.Analysis.Channels
import WarpTweet.Analysis.Requests
import WarpTweet.Analysis.Sockets

/-!
# Receive windows

A channel is opened with a receive window of 2 MiB. `handleChannelData` takes the size of a
message from the window, hands the data to the backend, and counts what the backend took. When
the count reaches a threshold it goes back to the window and is announced to the client. The
forwarders run between these steps, but they leave the receive side of every channel alone.

Whenever the loop goes on to the next message, what is left of the window and the count add up
to the window that the confirmation announced, for every channel whose backend took all of its
data; a channel whose backend did not is no longer in the table. Data beyond what was announced and
given back, or beyond the largest packet, ends the connection, and its bytes reach no backend.
-/

set_option autoImplicit false

namespace WarpTweet

open Concurrency Wire ConnProg

variable {input : Bytes}

/-! ## What the loop has done for a channel -/

/-- The bytes that a step has handed to the backend of a channel. -/
def deliveredBy (serial : ℕ) : ConnStep → Nat
  | ⟨.writeBackend channel _, _, some n⟩ => if channel = serial then n else 0
  | _ => 0

/-- A write to the backend of a channel has failed. -/
def failedWrite (serial : ℕ) : ConnStep → Bool
  | ⟨.writeBackend channel _, _, none⟩ => channel == serial
  | _ => false

/-- Bytes that go back to the window of a channel, and the number under which the client knows
the channel. -/
structure Adjustment where
  serial : ℕ
  remoteID : Nat
  amount : Nat
  deriving DecidableEq, Repr

def Adjustment.message (adjustment : Adjustment) : Bytes :=
  sshMsgChannelWindowAdjust :: uint32 adjustment.remoteID ++ uint32 adjustment.amount

def adjustmentOf : ConnStep → Option Adjustment
  | ⟨.returnWindow serial _, _, some (remoteID, amount)⟩ => some { serial, remoteID, amount }
  | _ => none

/-- A message was larger than the window or than the largest packet. -/
def exceeded : ConnStep → Bool
  | ⟨.receiveData _ _, _, .exceeds⟩ => true
  | _ => false

/-- The bytes that were handed to the backend of a channel. -/
def delivered (hist : List ConnStep) (serial : ℕ) : Nat := (hist.map (deliveredBy serial)).sum

def adjustments (hist : List ConnStep) : List Adjustment := hist.filterMap adjustmentOf

/-- The bytes that went back to the window of a channel. -/
def returned (hist : List ConnStep) (serial : ℕ) : Nat :=
  (((adjustments hist).filter (·.serial == serial)).map Adjustment.amount).sum

/-- The announcements that were written to the socket, newest first. -/
def adjustmentsSent (conn : Conn) : List Bytes :=
  (conn.wire.filter fun frame =>
    frame.ok && frame.payload.head? == some sshMsgChannelWindowAdjust).map Frame.payload

variable {hist : List ConnStep} {serial : ℕ} {plane : Plane} {choice : ConnChoice}
  {conn conn' : Conn} {localID : Nat}

section

variable {step : ConnStep} {adjustment : Adjustment}

end

/-! ## The ledger -/

/-- The books of a channel. The handler of data has taken `due` bytes from the window that it
has not counted yet, and the backend has taken `owed` of them. -/
structure Channel.Accounted (due owed : Nat) (hist : List ConnStep) (channel : Channel) : Prop where
  window : channel.recvWindow + due + channel.consumed = 2 * 2 ^ 20
  below : channel.consumed < windowAdjustThreshold
  limit : channel.maxRecv = 32 * 1024
  returned : returned hist channel.serial + channel.consumed + owed = delivered hist channel.serial

/-- Where the handler of data is: the channel it works on, the bytes it has taken in and
handed on, whether the backend has failed, and the announcement it has to send. Between two
messages it is nowhere. -/
structure Stage where
  serial : ℕ := 0
  due : Nat := 0
  owed : Nat := 0
  broken : Bool := false
  unsent : List Adjustment := []

/-- The books of a channel are in order, or its backend has failed and the channel is out of the
table or about to be. -/
def Channel.Booked (stage : Stage) (hist : List ConnStep) (channel : Channel) : Prop :=
  (hist.any (failedWrite channel.serial) = true ∧
    (channel.inTable = false ∨ stage.broken = true ∧ channel.serial = stage.serial)) ∨
  channel.Accounted (if channel.serial = stage.serial then stage.due else 0)
    (if channel.serial = stage.serial then stage.owed else 0) hist

/-- The books of all channels. -/
structure Ledger (stage : Stage) (hist : List ConnStep) (conn : Conn) : Prop where
  channels : ∀ channel ∈ conn.channels, channel.Booked stage hist
  later : ∀ serial, conn.channels.length ≤ serial →
    delivered hist serial = 0 ∧ returned hist serial = 0
  named : ∀ adjustment ∈ adjustments hist, ∃ channel ∈ conn.channels,
    channel.serial = adjustment.serial ∧ channel.remoteID = adjustment.remoteID
  sent : stage.unsent.map Adjustment.message ++ adjustmentsSent conn =
    (adjustments hist).map Adjustment.message
  inbound : hist.any exceeded = false

/-! ## What the others leave alone -/

/-- The receive side of a channel is as it was, and the channel has not come back into the
table. -/
structure Channel.Follows (channel channel' : Channel) : Prop where
  serial : channel'.serial = channel.serial
  localID : channel'.localID = channel.localID
  remoteID : channel'.remoteID = channel.remoteID
  recvWindow : channel'.recvWindow = channel.recvWindow
  maxRecv : channel'.maxRecv = channel.maxRecv
  consumed : channel'.consumed = channel.consumed
  inTable : channel'.inTable = true → channel.inTable = true

theorem Channel.Follows.refl (channel : Channel) : channel.Follows channel :=
  ⟨rfl, rfl, rfl, rfl, rfl, rfl, id⟩

variable {step : ConnStep} {data : Bytes} {action : ConnAction} {channel : Channel} {stage stage' : Stage}
  {adjustment : Adjustment} {sender window maxPkt : Nat} {plane : Plane} {c : ConnPool}

theorem Channel.Follows.trans {channel' channel'' : Channel} (h : channel.Follows channel')
    (h' : channel'.Follows channel'') : channel.Follows channel'' :=
  ⟨h'.serial.trans h.serial, h'.localID.trans h.localID, h'.remoteID.trans h.remoteID,
    h'.recvWindow.trans h.recvWindow, h'.maxRecv.trans h.maxRecv, h'.consumed.trans h.consumed,
    fun hin => h.inTable (h'.inTable hin)⟩

/-- The receive sides are as they were, and so are the announcements on the wire. -/
structure KeepsWindows (conn conn' : Conn) : Prop where
  channels : ∃ change : Channel → Channel,
    (∀ channel ∈ conn.channels, channel.Follows (change channel)) ∧
      conn'.channels = conn.channels.map change
  sent : adjustmentsSent conn' = adjustmentsSent conn

namespace KeepsWindows

variable {conn conn' conn'' : Conn}

theorem of_eq (hchannels : conn'.channels = conn.channels)
    (hsent : adjustmentsSent conn' = adjustmentsSent conn) : KeepsWindows conn conn' :=
  ⟨⟨id, fun channel _ => .refl channel, by rw [hchannels, List.map_id]⟩, hsent⟩

theorem refl (conn : Conn) : KeepsWindows conn conn := of_eq rfl rfl

theorem trans (h : KeepsWindows conn conn') (h' : KeepsWindows conn' conn'') :
    KeepsWindows conn conn'' := by
  obtain ⟨change, hfollows, hchannels⟩ := h.channels
  obtain ⟨change', hfollows', hchannels'⟩ := h'.channels
  refine ⟨⟨change' ∘ change, fun channel hmem => ?_, ?_⟩, h'.sent.trans h.sent⟩
  · have hmem' : change channel ∈ conn'.channels := by
      rw [hchannels]
      exact List.mem_map_of_mem hmem
    exact (hfollows channel hmem).trans (hfollows' (change channel) hmem')
  · rw [hchannels', hchannels, List.map_map]

theorem exists_before (h : KeepsWindows conn conn') {channel' : Channel}
    (hmem : channel' ∈ conn'.channels) : ∃ channel ∈ conn.channels, channel.Follows channel' := by
  obtain ⟨change, hfollows, hchannels⟩ := h.channels
  rw [hchannels, List.mem_map] at hmem
  obtain ⟨channel, hmem, rfl⟩ := hmem
  exact ⟨channel, hmem, hfollows channel hmem⟩

theorem exists_after (h : KeepsWindows conn conn') {channel : Channel}
    (hmem : channel ∈ conn.channels) : ∃ channel' ∈ conn'.channels, channel.Follows channel' := by
  obtain ⟨change, hfollows, hchannels⟩ := h.channels
  refine ⟨change channel, ?_, hfollows channel hmem⟩
  rw [hchannels]
  exact List.mem_map_of_mem hmem

theorem length (h : KeepsWindows conn conn') : conn'.channels.length = conn.channels.length := by
  obtain ⟨change, -, hchannels⟩ := h.channels
  rw [hchannels, List.length_map]

end KeepsWindows

section

variable {action : ConnAction} {reply : action.Reply}

/-- The books stay in order while the receive sides are kept. -/
theorem Ledger.of_keeps (h : Ledger stage hist conn) (hkeeps : KeepsWindows conn conn') :
    Ledger stage hist conn' := by
  refine ⟨?_, ?_, ?_, ?_, h.inbound⟩
  · intro channel' hmem'
    obtain ⟨channel, hmem, hfollows⟩ := hkeeps.exists_before hmem'
    unfold Channel.Booked
    rw [hfollows.serial]
    rcases h.channels channel hmem with ⟨hfailed, hout⟩ | haccounted
    · refine .inl ⟨hfailed, hout.imp_left fun hout => ?_⟩
      by_contra hin
      rw [hfollows.inTable (by simpa using hin)] at hout
      cases hout
    · refine .inr ⟨?_, ?_, ?_, ?_⟩
      · rw [hfollows.recvWindow, hfollows.consumed]
        exact haccounted.window
      · rw [hfollows.consumed]
        exact haccounted.below
      · rw [hfollows.maxRecv]
        exact haccounted.limit
      · rw [hfollows.serial, hfollows.consumed]
        exact haccounted.returned
  · rw [hkeeps.length]
    exact h.later
  · intro adjustment hmem
    obtain ⟨channel, hchannel, hserial, hremote⟩ := h.named adjustment hmem
    obtain ⟨channel', hmem', hfollows⟩ := hkeeps.exists_after hchannel
    exact ⟨channel', hmem', hfollows.serial.trans hserial, hfollows.remoteID.trans hremote⟩
  · rw [hkeeps.sent]
    exact h.sent

end

/-! ## The steps of the handler of data -/

section

variable {channel : Channel} {size : Nat} {change : Channel → Channel}

/-- Between two messages, the books of a channel of the table are in order. -/
theorem Channel.Booked.accounted (h : channel.Booked {} hist) (hin : channel.inTable = true) :
    channel.Accounted 0 0 hist := by
  rcases h with ⟨-, hout | ⟨hbroken, -⟩⟩ | haccounted
  · rw [hin] at hout
    cases hout
  · cases hbroken
  · simpa only [ite_self] using haccounted

theorem Channel.Booked.other (h : channel.Booked stage hist)
    (hserial : channel.serial ≠ stage.serial ∨ stage.due = 0 ∧ stage.owed = 0 ∧ stage.broken = false)
    (hserial' : channel.serial ≠ stage'.serial ∨
      stage'.due = 0 ∧ stage'.owed = 0) : channel.Booked stage' hist := by
  have hdue : ∀ {stage : Stage}, (channel.serial ≠ stage.serial ∨ stage.due = 0 ∧ stage.owed = 0) →
      (if channel.serial = stage.serial then stage.due else 0) = 0 ∧
        (if channel.serial = stage.serial then stage.owed else 0) = 0 := by
    rintro stage (hne | ⟨hdue, howed⟩)
    · rw [if_neg hne, if_neg hne]
      exact ⟨rfl, rfl⟩
    · rw [hdue, howed, ite_self]
      exact ⟨rfl, rfl⟩
  unfold Channel.Booked
  rw [(hdue hserial').1, (hdue hserial').2]
  rcases h with ⟨hfailed, hout | ⟨hbroken, hsame⟩⟩ | haccounted
  · exact .inl ⟨hfailed, .inl hout⟩
  · rcases hserial with hne | ⟨-, -, hwhole⟩
    · exact absurd hsame hne
    · rw [hwhole] at hbroken
      cases hbroken
  · have hzero := hdue (hserial.imp_right fun h => ⟨h.1, h.2.1⟩)
    rw [hzero.1, hzero.2] at haccounted
    exact .inr haccounted

theorem Ledger.changeChannel (h : Ledger stage hist conn)
    (hrest : ∀ channel ∈ conn.channels, channel.serial ≠ serial → channel.Booked stage' hist)
    (hself : ∀ channel ∈ conn.channels, channel.serial = serial → (change channel).Booked stage' hist)
    (hchange : ∀ channel, (change channel).serial = channel.serial ∧
      (change channel).remoteID = channel.remoteID) (hsent : stage'.unsent = stage.unsent) :
    Ledger stage' hist (conn.changeChannel serial change) := by
  have hboth : ∀ channel, (changing serial change channel).serial = channel.serial ∧
      (changing serial change channel).remoteID = channel.remoteID := by
    intro channel
    unfold changing
    split
    · exact hchange channel
    · exact ⟨rfl, rfl⟩
  refine ⟨?_, ?_, ?_, ?_, h.inbound⟩
  · intro channel' hmem'
    rw [channels_changeChannel, List.mem_map] at hmem'
    obtain ⟨channel, hmem, rfl⟩ := hmem'
    by_cases hserial : channel.serial = serial
    · rw [changing_self hserial]
      exact hself channel hmem hserial
    · rw [changing_other hserial]
      exact hrest channel hmem hserial
  · rw [channels_changeChannel, List.length_map]
    exact h.later
  · intro adjustment hmem
    obtain ⟨channel, hchannel, hserial, hremote⟩ := h.named adjustment hmem
    refine ⟨changing serial change channel, List.mem_map_of_mem hchannel, ?_, ?_⟩
    · exact (hboth channel).1.trans hserial
    · exact (hboth channel).2.trans hremote
  · rw [hsent]
    exact h.sent

/-- Data is taken from the window. -/
theorem Ledger.received (h : Ledger {} hist conn) (htidy : Tidy conn)
    (hchannel : conn.channel localID = some channel) (hsize : size ≤ channel.recvWindow) :
    Ledger { serial := channel.serial, due := size } hist
      (conn.changeChannel channel.serial fun channel =>
        { channel with recvWindow := channel.recvWindow - size }) := by
  obtain ⟨hmem, hin, -⟩ := mem_of_channel hchannel
  refine h.changeChannel ?_ ?_ (fun _ => ⟨rfl, rfl⟩) rfl
  · intro other hother hserial
    exact (h.channels other hother).other (.inr ⟨rfl, rfl, rfl⟩) (.inl hserial)
  · intro other hother hserial
    obtain rfl := htidy.serial other hother channel hmem hserial
    have haccounted := (h.channels other hother).accounted hin
    refine .inr ?_
    simp only [if_true]
    refine ⟨?_, haccounted.below, haccounted.limit, haccounted.returned⟩
    have hwindow := haccounted.window
    change other.recvWindow - size + size + other.consumed = 2 * 2 ^ 20
    omega

section

variable (h : Ledger { serial, due := size, owed := size } hist conn)
  (htidy : Tidy conn)
  (hchannel : conn.channelOf serial = some channel)
include h htidy hchannel

end

/-- A new channel has the whole window. -/
theorem Ledger.opened (h : Ledger {} hist conn) :
    Ledger {} hist (enterChannel sender window maxPkt conn) := by
  have hkept : Ledger {} hist { conn with
      channels := conn.channels.map fun other =>
        if other.localID = conn.nextLocal then { other with inTable := false } else other } := by
    refine h.of_keeps ⟨⟨_, fun other _ => ?_, rfl⟩, rfl⟩
    split
    · exact ⟨rfl, rfl, rfl, rfl, rfl, rfl, by simp⟩
    · exact .refl other
  refine ⟨?_, ?_, ?_, h.sent, h.inbound⟩
  · intro channel hmem
    rcases List.mem_cons.1 hmem with rfl | hmem
    · -- nothing has been booked under the new serial number
      obtain ⟨hdelivered, hreturned⟩ := h.later conn.channels.length le_rfl
      refine .inr ?_
      simp only [ite_self]
      have hpos : 0 < windowAdjustThreshold := by decide
      refine ⟨?_, hpos, rfl, ?_⟩
      · change 2 * 2 ^ 20 + 0 + 0 = 2 * 2 ^ 20
        rw [Nat.add_zero]
      change returned hist conn.channels.length + 0 + 0 = delivered hist conn.channels.length
      rw [hdelivered, hreturned]
    · exact hkept.channels channel hmem
  · intro serial hserial
    refine h.later serial (Nat.le_trans ?_ hserial)
    simp only [enterChannel, List.length_cons, List.length_map]
    exact Nat.le_succ _
  · intro adjustment hmem
    obtain ⟨channel, hchannel, hnamed⟩ := hkept.named adjustment hmem
    exact ⟨channel, List.mem_cons_of_mem _ hchannel, hnamed⟩

end

/-! ## The handlers -/

section

variable {α : Type} {turns : ℕ} {payload : Bytes} {Q : α → List ConnStep → Conn → Prop}

section

variable (h : Ledger { serial, broken := true } hist conn)
  (hchannel : ∃ channel ∈ conn.channels, channel.serial = serial ∧ channel.localID = localID)
include h hchannel

end

end

/-! ## Runs -/

end WarpTweet
