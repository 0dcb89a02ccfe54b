import WarpTweet.Analysis.ChannelLog
import WarpTweet.Analysis.Requests
import WarpTweet.Analysis.Sockets
import WarpTweet.Concurrency.Histories

/-!
# Send windows

A forwarder reads from the backend of its channel and sends what it has read, in messages that
fit into the window of the client. It takes bytes from the window under the mutex and writes the
message after that; in between, the reader loop may add to the window, keys may be exchanged and
the channel may be closed.

What is left of a window and what was taken from it add up to what the client has granted: the
window of the CHANNEL_OPEN that was read, and the WINDOW_ADJUST messages that were read since. A
message is sent only for bytes that were taken, so the messages of a channel stay within the
grant. A forwarder sends what it has read, in order, under the number that the client has given the
channel, and reads on only when all of it is sent.
-/

set_option autoImplicit false

namespace WarpTweet

open Concurrency Wire ConnProg

/-! ## What a forwarder has done -/

/-- The data of a data message. -/
def channelData (payload : Bytes) : Option Bytes :=
  if payload.head? = some sshMsgChannelData then (consumeString (payload.drop 5)).map Prod.fst
  else none

/-- The bytes that a step has read from the backend of a channel. -/
def readBy (serial : ℕ) : ConnStep → Bytes
  | ⟨.readBackend channel, _, (data, _)⟩ => if channel = serial then data else []
  | _ => []

/-- The bytes that a step has taken from the window of a channel. -/
def takenBy (serial : ℕ) : ConnStep → Nat
  | ⟨.takeWindow channel _, _, some chunk⟩ => if channel = serial then chunk else 0
  | _ => 0

/-- The data that a step has handed to the socket. -/
def dataOf : ConnStep → Option Bytes
  | ⟨.send payload, _, _⟩ => channelData payload
  | _ => none

/-- A data message could not be written. -/
def failedData : ConnStep → Bool
  | ⟨.send payload, _, .failed⟩ => (channelData payload).isSome
  | _ => false

/-- What was read from the backend of a channel. -/
def backendBytes (serial : ℕ) (hist : List ConnStep) : Bytes := hist.reverse.flatMap (readBy serial)

/-- The bytes that were taken from the window of a channel. -/
def taken (serial : ℕ) (hist : List ConnStep) : Nat := (hist.map (takenBy serial)).sum

/-- The data messages, oldest first. -/
def dataMessages (hist : List ConnStep) : List Bytes := hist.reverse.filterMap dataOf

variable {serial : ℕ} {hist : List ConnStep} {plane : Plane} {pid : ℕ} {conn conn' : Conn}
  {action : ConnAction} {choice : ConnChoice} {reply : action.Reply} {call : ConnCall}
  {localID length remoteID chunk number sender window maxPkt add : Nat} {payload data : Bytes}
  {n : ℕ} {event : ConnEvent} {ends : Bool} {process : ConnProcess}

section

variable {step : ConnStep}

theorem backendBytes_cons : backendBytes serial
    (step :: hist) = backendBytes serial hist ++ readBy serial step := by
  simp [backendBytes]

theorem taken_cons : taken serial (step :: hist) = takenBy serial step + taken serial hist := rfl

theorem dataMessages_cons : dataMessages (step :: hist) = dataMessages hist ++ (dataOf step).toList := by
  unfold dataMessages
  rw [List.reverse_cons, List.filterMap_append]
  cases h : dataOf step with
  | none => simp [h]
  | some data => simp [h]

end

/-! ## The walk of a forwarder -/

/-- What a forwarder has sent is what it has read, up to `pending`, and it has sent what it has
taken from the window. -/
structure Forwarded (serial : ℕ) (pending : Bytes) (hist : List ConnStep) : Prop where
  stream : backendBytes serial hist = (dataMessages hist).flatten ++ pending
  taken : taken serial hist = ((dataMessages hist).map List.length).sum
  written : hist.any failedData = false

/-- The window has just been taken for the next data. -/
def TakenFor (serial : ℕ) (data rest : Bytes) (hist : List ConnStep) : Prop :=
  ∃ length choice earlier,
    hist = ⟨.takeWindow serial length, choice, some data.length⟩ :: earlier ∧
      Forwarded serial (data ++ rest) earlier

section

variable {n₀ : ℕ} {pending rest : Bytes}

/-- What was read is pending. -/
theorem Forwarded.read (h : Forwarded serial [] hist) :
    Forwarded serial data (⟨.readBackend serial, choice, (data, ends)⟩ :: hist) := by
  have hread : readBy serial ⟨.readBackend serial, choice, (data, ends)⟩ = data := if_pos rfl
  refine ⟨?_, ?_, ?_⟩
  · rw [backendBytes_cons, hread, h.stream, List.append_nil, dataMessages_cons]
    simp [dataOf]
  · rw [taken_cons, dataMessages_cons]
    simp [dataOf, takenBy, h.taken]
  · rw [List.any_cons, h.written]
    rfl

/-- What was taken for is sent. -/
theorem TakenFor.sent {needRekey : Bool} (h : TakenFor serial data rest hist)
    (hpayload : channelData payload = some data) :
    Forwarded serial rest (⟨.send payload, choice, .sent needRekey⟩ :: hist) := by
  obtain ⟨length, choice', earlier, rfl, h⟩ := h
  have htaken : takenBy serial ⟨.takeWindow serial length, choice', some data.length⟩ = data.length :=
    if_pos rfl
  refine ⟨?_, ?_, ?_⟩
  · rw [backendBytes_cons, backendBytes_cons, dataMessages_cons, dataMessages_cons, h.stream]
    simp [readBy, dataOf, hpayload]
  · rw [taken_cons, taken_cons, htaken, dataMessages_cons, dataMessages_cons, h.taken]
    simp [takenBy, dataOf, hpayload, Nat.add_comm]
  · rw [List.any_cons, List.any_cons, h.written]
    rfl

end

/-! ## What a forwarder has done at any time -/

/-- What a forwarder has sent so far is a beginning of what it has read, and it has sent no more
than it has taken from the window, message by message. -/
structure ForwardedPart (serial : ℕ) (hist : List ConnStep) : Prop where
  order : (dataMessages hist).flatten <+: backendBytes serial hist
  within : ((dataMessages hist).map List.length).sum ≤ taken serial hist
  covered : taken serial hist ≤ (backendBytes serial hist).length
  sized : ∀ data ∈ dataMessages hist, data ≠ [] ∧
    ∃ length choice, (⟨.takeWindow serial length, choice, some data.length⟩ : ConnStep) ∈ hist

section

variable (h : ForwardedPart serial hist)
include h

/-- A step that sends no data keeps the part, if it takes no more than was read. -/
theorem ForwardedPart.quiet {step : ConnStep}
    (hdata : dataOf step = none) (hcovered : takenBy serial step + taken serial hist ≤
      (backendBytes serial hist).length + (readBy serial step).length) :
    ForwardedPart serial (step :: hist) := by
  have hmessages : dataMessages (step :: hist) = dataMessages hist := by
    rw [dataMessages_cons, hdata, Option.toList_none, List.append_nil]
  refine ⟨?_, ?_, ?_, ?_⟩
  · rw [backendBytes_cons, hmessages]
    exact h.order.trans (List.prefix_append _ _)
  · rw [hmessages, taken_cons]
    exact h.within.trans (Nat.le_add_left _ _)
  · rwa [taken_cons, backendBytes_cons, List.length_append]
  · rw [hmessages]
    intro data hmem
    obtain ⟨hne, length, choice, hstep⟩ := h.sized data hmem
    exact ⟨hne, length, choice, List.mem_cons_of_mem _ hstep⟩

theorem ForwardedPart.read :
    ForwardedPart serial (⟨.readBackend serial, choice, (data, ends)⟩ :: hist) := by
  refine h.quiet rfl ?_
  have hnone : takenBy serial ⟨.readBackend serial, choice, (data, ends)⟩ = 0 := rfl
  rw [hnone, Nat.zero_add]
  exact h.covered.trans (Nat.le_add_right _ _)

/-- Bytes are taken for data that was read and is not sent yet. -/
theorem ForwardedPart.take {pending : Bytes}
    (hpending : Forwarded serial pending hist) (hchunk : chunk ≤ pending.length) :
    ForwardedPart serial (⟨.takeWindow serial pending.length, choice, some chunk⟩ :: hist) := by
  refine h.quiet rfl ?_
  have htaken : takenBy serial ⟨.takeWindow serial pending.length, choice, some chunk⟩ = chunk :=
    if_pos rfl
  rw [htaken, hpending.taken, hpending.stream, List.length_append, List.length_flatten]
  omega

theorem ForwardedPart.send {rest : Bytes} {sent : SendReply}
    (hpayload : channelData payload = some data) (hdata : data ≠ [])
    (htakenFor : TakenFor serial data rest hist) :
    ForwardedPart serial (⟨.send payload, choice, sent⟩ :: hist) := by
  have hmessages : dataMessages (⟨.send payload, choice, sent⟩ :: hist) = dataMessages hist ++ [data] := by
    rw [dataMessages_cons, dataOf, hpayload]
    rfl
  have hbytes : backendBytes serial (⟨.send payload, choice, sent⟩ :: hist) = backendBytes serial hist := by
    rw [backendBytes_cons]
    exact List.append_nil _
  have htaken : taken serial (⟨.send payload, choice, sent⟩ :: hist) = taken serial hist := by
    rw [taken_cons]
    exact Nat.zero_add _
  obtain ⟨length, choice', earlier, rfl, hearlier⟩ := htakenFor
  -- the messages and the bytes before the window was taken
  have hbefore : dataMessages (⟨.takeWindow serial length, choice', some data.length⟩ :: earlier) =
      dataMessages earlier := by
    rw [dataMessages_cons]
    exact List.append_nil _
  refine ⟨?_, ?_, ?_, ?_⟩
  · rw [hmessages, hbytes, backendBytes_cons, hbefore, hearlier.stream]
    simp [readBy]
  · rw [hmessages, htaken, taken_cons, hbefore, hearlier.taken]
    simp [takenBy, Nat.add_comm]
  · rw [htaken, hbytes]
    exact h.covered
  · rw [hmessages]
    intro other hmem
    rcases List.mem_append.1 hmem with hold | hnew
    · obtain ⟨hne, length', choice'', hstep⟩ := h.sized other hold
      exact ⟨hne, length', choice'', List.mem_cons_of_mem _ hstep⟩
    · obtain rfl := List.mem_singleton.1 hnew
      exact ⟨hdata, length, choice', List.mem_cons_of_mem _ List.mem_cons_self⟩

end

/-- The window that a step has opened a channel with. -/
def openedBy (serial : ℕ) : ConnStep → Nat
  | ⟨.openChannel _ window _, _, some (channel, _)⟩ => if channel = serial then window else 0
  | _ => 0

/-- The window that a channel was opened with. -/
def initialWindow (serial : ℕ) (log : ConnLog) : Nat :=
  (log.map fun event => openedBy serial event.toStep).sum

/-- What the client has added to the window of a channel. -/
def adjusted (serial : ℕ) : ConnLog → Nat
  | [] => 0
  | ⟨⟨.adjustWindow localID add, _, .adjusted⟩, _, _⟩ :: log =>
    (if tableOf log localID = some serial then add else 0) + adjusted serial log
  | _ :: log => adjusted serial log

/-- The bytes that were taken from the window of a channel. -/
def takenFrom (serial : ℕ) (log : ConnLog) : Nat :=
  (log.map fun event => takenBy serial event.toStep).sum

/-- The channel was entered for a CHANNEL_OPEN: its number, the window that it was opened with and
its packet size are those of the message. -/
def Channel.OpenedIn (log : ConnLog) (channel : Channel) : Prop :=
  ∃ event ∈ log, ∃ choice, event.toStep = ⟨.openChannel channel.remoteID
    (initialWindow channel.serial log) channel.maxPkt, choice, some (channel.serial, channel.localID)⟩

/-- The books of a channel: what is left of its window and what was taken from it add up to the
grant. -/
structure Channel.Granted (log : ConnLog) (channel : Channel) : Prop where
  opened : channel.OpenedIn log
  balance : channel.window + takenFrom channel.serial log =
    initialWindow channel.serial log + adjusted channel.serial log
  counter : channel.window < 2 ^ 32
  maxPkt : channel.maxPkt ≠ 0

/-- The books of all channels. Nothing is known of a channel that is not there yet. -/
structure WindowBooks (conn : Conn) (log : ConnLog) : Prop where
  channels : ∀ channel ∈ conn.channels, channel.Granted log
  later : ∀ serial, conn.channels.length ≤ serial →
    takenFrom serial log = 0 ∧ initialWindow serial log = 0 ∧ adjusted serial log = 0
  sizes : ∀ event ∈ log, ∀ serial length choice chunk,
    event.toStep = ⟨.takeWindow serial length, choice, some chunk⟩ →
    ∃ channel ∈ conn.channels, channel.serial = serial ∧ chunk ≤ channel.maxPkt

/-- The event changes none of the three sums of a channel. -/
def SameSums (serial : ℕ) (event : ConnEvent) (log : ConnLog) : Prop :=
  takenFrom serial (event :: log) = takenFrom serial log ∧
  initialWindow serial (event :: log) = initialWindow serial log ∧
  adjusted serial (event :: log) = adjusted serial log

/-- Two states of one channel. -/
structure SameChannel (channel channel' : Channel) : Prop where
  serial : channel'.serial = channel.serial
  remoteID : channel'.remoteID = channel.remoteID
  localID : channel'.localID = channel.localID
  maxPkt : channel'.maxPkt = channel.maxPkt

/-- Two states of one channel, with the same send window. -/
def SameWindow (channel channel' : Channel) : Prop :=
  SameChannel channel channel' ∧ channel'.window = channel.window

section

variable {log : ConnLog}

/-- The open of a channel stays what it is. -/
theorem Channel.OpenedIn.cons {channel channel' : Channel} (h : channel.OpenedIn log)
    (hsame : SameChannel channel channel')
    (hinitial : initialWindow channel.serial (event :: log) = initialWindow channel.serial log) :
    channel'.OpenedIn (event :: log) := by
  obtain ⟨opening, hmem, choice, hopening⟩ := h
  refine ⟨opening, List.mem_cons_of_mem _ hmem, choice, ?_⟩
  rw [hsame.serial, hsame.remoteID, hsame.localID, hsame.maxPkt, hinitial]
  exact hopening

/-- The books of a channel after a step that keeps its window and its sums. -/
theorem Channel.Granted.kept {channel channel' : Channel} (h : channel.Granted log)
    (hsame : SameWindow channel channel') (hsums : SameSums channel.serial event log) :
    channel'.Granted (event :: log) := by
  obtain ⟨hsame, hwindow⟩ := hsame
  obtain ⟨htaken, hinitial, hadjusted⟩ := hsums
  refine ⟨h.opened.cons hsame hinitial, ?_, ?_, ?_⟩
  · rw [hsame.serial, hwindow, htaken, hinitial, hadjusted]
    exact h.balance
  · rw [hwindow]
    exact h.counter
  · rw [hsame.maxPkt]
    exact h.maxPkt

/-- A channel stays in the list of channels. -/
theorem exists_after (hperform : performConn plane action choice conn = some (reply, conn'))
    {channel : Channel} (hmem : channel ∈ conn.channels) :
    ∃ channel' ∈ conn'.channels, channel.Stays channel' := by
  obtain ⟨change, hstays, hchannels⟩ := eachStays_of_perform hperform
  refine ⟨change channel, ?_, hstays channel hmem⟩
  rcases hchannels with hchannels | ⟨new, hchannels, -⟩
  · rw [hchannels]
    exact List.mem_map_of_mem hmem
  · rw [hchannels]
    exact List.mem_cons_of_mem _ (List.mem_map_of_mem hmem)

/-- The books after a step, from those of each channel. What is taken from a window is at most the
packet size of its channel. -/
theorem WindowBooks.step (h : WindowBooks conn log)
    (hperform : performConn plane action choice conn = some (reply, conn'))
    (hgranted : ∀ channel' ∈ conn'.channels,
      channel'.Granted (⟨⟨action, choice, reply⟩, pid, call⟩ :: log))
    (hlater : ∀ serial, conn'.channels.length ≤ serial →
      conn.channels.length ≤ serial ∧ SameSums serial ⟨⟨action, choice, reply⟩, pid, call⟩ log) :
    WindowBooks conn' (⟨⟨action, choice, reply⟩, pid, call⟩ :: log) := by
  refine ⟨hgranted, ?_, ?_⟩
  · intro serial hserial
    obtain ⟨hold, htaken, hinitial, hadjusted⟩ := hlater serial hserial
    rw [htaken, hinitial, hadjusted]
    exact h.later serial hold
  · intro event hevent serial length choice' chunk heq
    obtain ⟨channel, hmem, rfl, hle⟩ : ∃ channel ∈ conn.channels,
        channel.serial = serial ∧ chunk ≤ channel.maxPkt := by
      rcases List.mem_cons.1 hevent with rfl | hold
      · cases heq
        rcases takeWindow_cases hperform with ⟨hnone, -⟩ | ⟨channel, hchannel, -, -, -, hsome, -⟩
        · cases hnone
        · cases hsome
          obtain ⟨hmem, hserial⟩ := mem_of_channelOf hchannel
          exact ⟨channel, hmem, hserial, by omega⟩
      · exact h.sizes event hold serial length choice' chunk heq
    obtain ⟨channel', hmem', hstays⟩ := exists_after hperform hmem
    exact ⟨channel', hmem', hstays.serial, hstays.maxPkt ▸ hle⟩

/-- The books after a step that keeps the windows and the sums. -/
theorem WindowBooks.of_same {change : Channel → Channel} (h : WindowBooks conn log)
    (hperform : performConn plane action choice conn = some (reply, conn'))
    (hchannels : conn'.channels = conn.channels.map change)
    (hchange : ∀ channel, SameWindow channel (change channel))
    (hsums : ∀ serial, SameSums serial ⟨⟨action, choice, reply⟩, pid, call⟩ log) :
    WindowBooks conn' (⟨⟨action, choice, reply⟩, pid, call⟩ :: log) := by
  refine h.step hperform ?_ fun serial hserial => ⟨?_, hsums serial⟩
  · intro channel' hmem
    rw [hchannels] at hmem
    obtain ⟨channel, hold, rfl⟩ := List.mem_map.1 hmem
    exact (h.channels channel hold).kept (hchange channel) (hsums _)
  · rwa [hchannels, List.length_map] at hserial

/-- The books after a step that moves the window of one channel. -/
theorem WindowBooks.of_change (htidy : Tidy conn) {channel : Channel} {window : Channel → Nat}
    (h : WindowBooks conn log) (hperform : performConn plane action choice conn = some (reply,
      conn.changeChannel channel.serial fun other => { other with window := window other }))
    (hchannel : channel ∈ conn.channels)
    (hself : Channel.Granted (⟨⟨action, choice, reply⟩, pid, call⟩ :: log)
      { channel with window := window channel }) (hsums : ∀ serial, serial ≠ channel.serial →
      SameSums serial ⟨⟨action, choice, reply⟩, pid, call⟩ log) :
    WindowBooks (conn.changeChannel channel.serial fun other => { other with window := window other })
      (⟨⟨action, choice, reply⟩, pid, call⟩ :: log) := by
  refine h.step hperform ?_ ?_
  · intro channel' hmem
    rw [channels_changeChannel] at hmem
    obtain ⟨before, hbefore, rfl⟩ := List.mem_map.1 hmem
    by_cases hserial : before.serial = channel.serial
    · rw [changing_self hserial, htidy.serial before hbefore channel hchannel hserial]
      exact hself
    · rw [changing_other hserial]
      exact (h.channels before hbefore).kept ⟨⟨rfl, rfl, rfl, rfl⟩, rfl⟩ (hsums _ hserial)
  · intro serial hlater
    rw [channels_changeChannel, List.length_map] at hlater
    have hlt := htidy.next channel hchannel
    exact ⟨hlater, hsums serial (by omega)⟩

theorem takenFrom_take :
    takenFrom serial (⟨⟨.takeWindow number length, choice, some chunk⟩, pid, call⟩ :: log) =
      (if number = serial then chunk else 0) + takenFrom serial log := rfl

theorem initialWindow_open :
    initialWindow serial (⟨⟨.openChannel sender window maxPkt, choice, some (number, localID)⟩, pid,
      call⟩ :: log) = (if number = serial then window else 0) + initialWindow serial log := rfl

theorem adjusted_adjust :
    adjusted serial (⟨⟨.adjustWindow localID add, choice, .adjusted⟩, pid, call⟩ :: log) =
      (if tableOf log localID = some serial then add else 0) + adjusted serial log := rfl

/-- What is taken leaves the window. -/
theorem WindowBooks.takeWindow {number : ℕ} {taken : Option Nat} (htidy : Tidy conn)
    (h : WindowBooks conn log)
    (hperform : performConn plane (.takeWindow number length) choice conn = some (taken, conn')) :
    WindowBooks conn' (⟨⟨.takeWindow number length, choice, taken⟩, pid, call⟩ :: log) := by
  rcases takeWindow_cases hperform with ⟨rfl, rfl⟩ | ⟨channel, hchannel, -, -, -, rfl, rfl⟩
  · exact h.of_same hperform (List.map_id _).symm (fun _ => ⟨⟨rfl, rfl, rfl, rfl⟩, rfl⟩)
      fun _ => ⟨Nat.zero_add _, Nat.zero_add _, rfl⟩
  · obtain ⟨hmem, rfl⟩ := mem_of_channelOf hchannel
    obtain ⟨hopened, hbalance, hcounter, hmaxPkt⟩ := h.channels channel hmem
    have hinitial : initialWindow channel.serial (⟨⟨.takeWindow channel.serial length, choice,
        some (min (min length channel.maxPkt) channel.window)⟩, pid, call⟩ :: log) =
        initialWindow channel.serial log := Nat.zero_add _
    refine h.of_change htidy hperform hmem
      ⟨hopened.cons ⟨rfl, rfl, rfl, rfl⟩ hinitial, ?_, ?_, hmaxPkt⟩ fun serial hne => ?_
    · rw [takenFrom_take, if_pos rfl, hinitial]
      change channel.window - _ + (_ + takenFrom channel.serial log) =
        _ + adjusted channel.serial log
      omega
    · exact (Nat.sub_le _ _).trans_lt hcounter
    · refine ⟨?_, Nat.zero_add _, rfl⟩
      rw [takenFrom_take, if_neg (Ne.symm hne), Nat.zero_add]

/-- What the client adds enters the window of the channel under the number. -/
theorem WindowBooks.adjustWindow {answer : AdjustReply} (htidy : Tidy conn)
    (htells : TellsTable conn log) (h : WindowBooks conn log)
    (hperform : performConn plane (.adjustWindow localID add) choice conn = some (answer, conn')) :
    WindowBooks conn' (⟨⟨.adjustWindow localID add, choice, answer⟩, pid, call⟩ :: log) := by
  rcases adjustWindow_cases hperform with ⟨hanswer, rfl⟩ | ⟨channel, hchannel, rfl, hadd, rfl⟩
  · refine h.of_same hperform (List.map_id _).symm (fun _ => ⟨⟨rfl, rfl, rfl, rfl⟩, rfl⟩)
      fun serial => ?_
    cases answer with
    | adjusted => exact absurd rfl hanswer
    | unknown | overflow => exact ⟨Nat.zero_add _, Nat.zero_add _, rfl⟩
  · obtain ⟨hmem, -, -⟩ := mem_of_channel hchannel
    have htable : tableOf log localID = some channel.serial := by
      rw [htells localID, hchannel]
      rfl
    obtain ⟨hopened, hbalance, hcounter, hmaxPkt⟩ := h.channels channel hmem
    have hinitial : initialWindow channel.serial (⟨⟨.adjustWindow localID add, choice, .adjusted⟩,
        pid, call⟩ :: log) = initialWindow channel.serial log := Nat.zero_add _
    have htaken : takenFrom channel.serial (⟨⟨.adjustWindow localID add, choice, .adjusted⟩,
        pid, call⟩ :: log) = takenFrom channel.serial log := Nat.zero_add _
    refine h.of_change htidy hperform hmem
      ⟨hopened.cons ⟨rfl, rfl, rfl, rfl⟩ hinitial, ?_, ?_, hmaxPkt⟩ fun serial hne => ?_
    · rw [adjusted_adjust, if_pos htable, hinitial, htaken]
      change channel.window + add + _ = _ + (add + adjusted channel.serial log)
      omega
    · change channel.window + add < 2 ^ 32
      omega
    · refine ⟨Nat.zero_add _, Nat.zero_add _, ?_⟩
      have hother : tableOf log localID ≠ some serial := by
        rw [htable]
        exact fun heq => hne (Option.some.inj heq).symm
      rw [adjusted_adjust, if_neg hother, Nat.zero_add]

/-- A new channel has the window it was opened with. -/
theorem WindowBooks.openChannel {entry : Option (ℕ × Nat)}
    (htidy : Tidy conn) (h : WindowBooks conn log) (hwindow : window < 2 ^ 32) (hmaxPkt : maxPkt ≠ 0)
    (hperform : performConn plane (.openChannel sender window maxPkt) choice conn =
      some (entry, conn')) :
    WindowBooks conn' (⟨⟨.openChannel sender window maxPkt, choice, entry⟩, pid, call⟩ :: log) := by
  rcases openChannel_cases hperform with ⟨rfl, rfl⟩ | ⟨rfl, rfl⟩
  · exact h.of_same hperform (List.map_id _).symm (fun _ => ⟨⟨rfl, rfl, rfl, rfl⟩, rfl⟩)
      fun _ => ⟨Nat.zero_add _, Nat.zero_add _, rfl⟩
  · have hsums : ∀ serial, serial ≠ conn.channels.length → SameSums serial ⟨⟨.openChannel sender window
        maxPkt, choice, some (conn.channels.length, conn.nextLocal)⟩, pid, call⟩ log := by
      intro serial hne
      refine ⟨Nat.zero_add _, ?_, rfl⟩
      rw [initialWindow_open, if_neg (Ne.symm hne), Nat.zero_add]
    refine h.step hperform ?_ fun serial hlater => ?_
    · intro channel' hmem
      rcases List.mem_cons.1 hmem with rfl | hmem
      · -- nothing is booked under the new serial number
        obtain ⟨htaken₀, hinitial₀, hadjusted₀⟩ := h.later conn.channels.length le_rfl
        refine ⟨⟨_, List.mem_cons_self, choice, ?_⟩, ?_, hwindow, hmaxPkt⟩
        · rw [initialWindow_open, if_pos rfl, hinitial₀]
          rfl
        · rw [initialWindow_open, if_pos rfl, hinitial₀]
          change window + (0 + takenFrom conn.channels.length log) =
            window + 0 + adjusted conn.channels.length log
          rw [htaken₀, hadjusted₀]
      · obtain ⟨channel, hold, rfl⟩ := List.mem_map.1 hmem
        refine (h.channels channel hold).kept ?_ (hsums _ (htidy.next channel hold).ne)
        split <;> exact ⟨⟨rfl, rfl, rfl, rfl⟩, rfl⟩
    · simp only [enterChannel, List.length_cons, List.length_map] at hlater
      exact ⟨by omega, hsums serial (by omega)⟩

end

/-! ## Runs -/

section

variable {input : Bytes} {c : ConnPool}

section

variable (hrun : Run (connMachine plane) Forks (Config.idle { input }) c)
  (hcall : process.call = .forward serial localID remoteID n)
include hrun hcall

end

end

/-! ## Requests in the log -/

namespace SendWindowsScenario

end SendWindowsScenario

end WarpTweet
