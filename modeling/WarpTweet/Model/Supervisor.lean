import WarpTweet.Model.Grant

/-!
# Supervision of a tunnel

The restart loops of the package `supervisor`: `RunPrepared`, which waits for its process to
exit, and `RunPreparedReady`, which also waits for it to become ready. One round of a loop
prepares and runs one attempt, and returns or waits and goes round again. What a round meets is
its input.
-/

namespace WarpTweet.Supervisor

open Strings

/-- `Policy`. Durations are nanoseconds. -/
structure Policy where
  restart : Bool
  initialBackoff : Int64
  maximumBackoff : Int64
  stableWindow : Int64
  startupTimeout : Int64
  maximumAttempts : Int

def validatePolicy (policy : Policy) : Except Err Unit := do
  refuseIf (policy.initialBackoff ≤ 0) (.plain "initial restart backoff must be positive")
  refuseIf (policy.maximumBackoff < policy.initialBackoff)
    (.plain "maximum restart backoff must be at least the initial backoff")
  refuseIf (policy.stableWindow < 0) (.plain "stable window must not be negative")
  refuseIf (policy.startupTimeout < 0) (.plain "startup timeout must not be negative")
  refuseIf (policy.maximumAttempts < 0) (.plain "maximum attempts must not be negative")

/-- `stableWindow` of the loops: a minute if the policy has none. -/
def Policy.window (policy : Policy) : Int64 :=
  if policy.stableWindow = 0 then 60000000000 else policy.stableWindow

/-- `maximumAttempts` of the loops: `defaultMaximumAttempts` if the policy has none. -/
def Policy.attempts (policy : Policy) : Int :=
  if policy.maximumAttempts = 0 then 10 else policy.maximumAttempts

def nextBackoff (current maximum : Int64) : Int64 :=
  if maximum ≤ current ∨ maximum / 2 < current then maximum else current * 2

/-- The variables of a loop. -/
structure LoopState where
  backoff : Int64
  consecutiveFailures : Nat

/-- What a loop returns: nothing, an error, or the error after too many failed attempts. -/
inductive Ending where
  | finished
  | failed (err : Err)
  | gaveUp (attempts : Int) (last : Err)

/-- How one round of a loop ends: the loop returns, or has waited and goes round again. -/
inductive Round where
  | returned (ending : Ending)
  | restarts (waited : Int64) (next : LoopState)

/-- What comes of the wait before a restart. -/
inductive Wait where
  | elapsed
  | cancelled
  | failed (err : Err)

/-- A loop begins with the initial backoff and no failure. -/
def Policy.start (policy : Policy) : LoopState := ⟨policy.initialBackoff, 0⟩

/-- An attempt that was up for the stable window begins a new series. -/
def Policy.settle (policy : Policy) (state : LoopState) (runtime : Int64) : LoopState :=
  if policy.window ≤ runtime then policy.start else state

/-- The end of a round in both loops: the failure is counted, and the loop gives up or waits. -/
def Policy.count (policy : Policy) (state : LoopState) (last : Err) (wait : Wait) : Round :=
  let consecutiveFailures := state.consecutiveFailures + 1
  if policy.attempts ≤ consecutiveFailures then .returned (.gaveUp policy.attempts last)
  else match wait with
    | .elapsed =>
        .restarts state.backoff ⟨nextBackoff state.backoff policy.maximumBackoff,
          consecutiveFailures⟩
    | .cancelled => .returned .finished
    | .failed err => .returned (.failed (.wrap "wait before tunnel restart" err))

/-- One attempt of the plain loop. -/
inductive Launch where
  | unprepared (err : Err) (cancelled : Bool)
  | noPath
  | exited (err : Option Err) (runtime : Int64) (cancelled : Bool)

def runPrepared (policy : Policy) (state : LoopState) (launch : Launch) (wait : Wait) : Round :=
  match launch with
  | .unprepared err cancelled =>
      .returned (if cancelled then .finished else .failed (.wrap "prepare supervised command" err))
  | .noPath => .returned (.failed (.plain "supervised command path is required"))
  | .exited err runtime cancelled =>
      if cancelled then .returned .finished
      else if !policy.restart then
        .returned (match err with
          | none => .finished
          | some err => .failed (.wrap "tunnel process exited" err))
      else policy.count (policy.settle state runtime)
        (err.getD (.plain "tunnel process exited successfully while restart was required")) wait

/-- `readyAttemptResult`, with what `isTerminalFailure` says of its error. -/
structure ReadyAttemptResult where
  err : Err
  terminalErr : Bool
  readyRuntime : Int64
  terminal : Bool
  stopped : Bool

/-- One attempt of the loop that waits for readiness. -/
inductive ReadyLaunch where
  | unprepared (err : Err) (cancelled : Bool)
  | noGate
  | noPath
  | ran (result : ReadyAttemptResult)

def runPreparedReady (policy : Policy) (state : LoopState) (launch : ReadyLaunch) (wait : Wait) :
    Round :=
  match launch with
  | .unprepared err cancelled =>
      .returned (if cancelled then .finished
        else .failed (.wrap "prepare ready supervised command" err))
  | .noGate => .returned (.failed (.plain "supervised readiness gate is required"))
  | .noPath => .returned (.failed (.plain "supervised command path is required"))
  | .ran result =>
      if result.stopped then .returned .finished
      else
        let state := policy.settle state result.readyRuntime
        if result.terminal || result.terminalErr then
          .returned (.failed (.wrap "managed tunnel attempt failed terminally" result.err))
        else if !policy.restart then
          .returned (.failed (.wrap "managed tunnel attempt failed" result.err))
        else policy.count state result.err wait

end WarpTweet.Supervisor
