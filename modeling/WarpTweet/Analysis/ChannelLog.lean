import WarpTweet.Analysis.Channels
import WarpTweet.Analysis.Footprints

/-!
# Channels in the log

A message names a channel by the local number under which the table has it, and a number may be
given again. Which channel a number stood for can be read off the log: the channel that was
entered last, unless it was closed since.
-/

set_option autoImplicit false

namespace WarpTweet

open Concurrency Wire

/-- The channels of the table by their local numbers, as the log tells. -/
def tableOf : ConnLog → Nat → Option ℕ
  | [], _ => none
  | ⟨⟨.openChannel _ _ _, _, some (serial, number)⟩, _, _⟩ :: log, localID =>
    if localID = number then some serial else tableOf log localID
  | ⟨⟨.closeChannel number, _, _⟩, _, _⟩ :: log, localID =>
    if localID = number then none else tableOf log localID
  | ⟨⟨.teardownChannels, _, _⟩, _, _⟩ :: _, _ => none
  | _ :: log, localID => tableOf log localID

section

variable {conn conn' : Conn} {change : Channel → Channel} {localID : Nat}

end

/-! ## Runs -/

variable {plane : Plane} {action : ConnAction} {choice : ConnChoice} {conn conn' : Conn}
  {reply : action.Reply} {log : ConnLog} {pid : ℕ} {call : ConnCall}

def TellsTable (conn : Conn) (log : ConnLog) : Prop :=
  ∀ localID, tableOf log localID = (conn.channel localID).map Channel.serial

end WarpTweet
