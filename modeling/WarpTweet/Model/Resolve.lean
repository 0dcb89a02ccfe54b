import WarpTweet.Model.Locator

/-!
# Addresses of a dial host

`FilterAnswers` and `Select` of the package `locator`: which of the answers of a name server
become candidates, and which candidate is used.
-/

namespace WarpTweet

def maxAnswersPerFamily : Nat := 4
def maxAnswersTotal : Nat := 8

/-- The loop of `FilterAnswers`. An answer may be the invalid address; the candidates of the two
families are those of IPv6 and those of IPv4. -/
def filterLoop (allowLoopback : Bool) (seen v6 v4 : List Addr) :
    List (Option Addr) → List Addr × List Addr
  | [] => (v6, v4)
  | none :: answers => filterLoop allowLoopback seen v6 v4 answers
  | some answer :: answers =>
    let addr := answer.unmap
    match validateAnswer addr allowLoopback with
    | .error _ => filterLoop allowLoopback seen v6 v4 answers
    | .ok _ =>
      if addr ∈ seen then filterLoop allowLoopback seen v6 v4 answers
      else if addr.is4 then
        if maxAnswersPerFamily ≤ v4.length then filterLoop allowLoopback (addr :: seen) v6 v4 answers
        else filterLoop allowLoopback (addr :: seen) v6 (v4 ++ [addr]) answers
      else if maxAnswersPerFamily ≤ v6.length then
        filterLoop allowLoopback (addr :: seen) v6 v4 answers
      else filterLoop allowLoopback (addr :: seen) (v6 ++ [addr]) v4 answers

def interleaveFamilies (v6 v4 : List Addr) : List Addr :=
  (List.range (max v6.length v4.length)).flatMap fun i => v6[i]?.toList ++ v4[i]?.toList

def filterAnswers (answers : List (Option Addr)) (allowLoopback : Bool) : List Addr :=
  let (v6, v4) := filterLoop allowLoopback [] [] [] answers
  (interleaveFamilies v6 v4).take maxAnswersTotal

/-- What happens around the dial of one candidate: an error of the context before it, whether time
is left, the outcome of the dial, and an error of the context after a failed one. -/
structure DialAttempt where
  before : Option Err
  timeLeft : Bool
  dial : Except Err Unit
  after : Option Err

/-- The loop of `Select`, over the candidates and what happens at each: its result, and the
candidates that were dialed. -/
def selectLoop (last : Err) : List (Addr × DialAttempt) → Except Err Addr × List Addr
  | [] => (.error last, [])
  | (candidate, attempt) :: rest =>
    match attempt.before with
    | some err => (.error (.wrap "tcp_connect" err), [])
    | none =>
      if !attempt.timeLeft then (.error last, [])
      else match attempt.dial with
        | .ok _ => (.ok candidate, [candidate])
        | .error err =>
          match attempt.after with
          | some err => (.error (.wrap "tcp_connect" err), [candidate])
          | none =>
            let (result, dialed) := selectLoop (.wrap "tcp_connect" err) rest
            (result, candidate :: dialed)

/-- `Select`. -/
def selectCandidate (plan : List (Addr × DialAttempt)) (port : Nat) : Except Err Addr × List Addr :=
  if port = 0 then (.error (.plain "tcp_connect: port must be nonzero"), [])
  else if plan.isEmpty then (.error (.plain "tcp_connect: no candidates"), [])
  else selectLoop (.plain "tcp_connect: connect aggregate timeout") plan

end WarpTweet
