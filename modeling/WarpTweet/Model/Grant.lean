import WarpTweet.Text.Strings

/-!
# Grants: statuses, times and the expiry plan

The package `grant`: the seven persisted statuses of a grant and the transitions
between them, the host's timestamps, and the check that an expiry may begin or
resume. A timestamp on disk is RFC 3339 text; what the code does with it depends
only on whether it is present, whether it parses and which instant it names.
-/

namespace WarpTweet

/-- The sentinel errors the code tests for with `errors.Is`, and all others. -/
inductive ErrKind where
  | invalidInvite
  | invalidDuration
  | invalidClock
  | invalidAuthorizedKey
  | rejected
  | notExist
  | hostBusy
  | other
  deriving DecidableEq, Repr

/-- An error: the sentinel it wraps, and its text. -/
structure Err where
  kind : ErrKind
  text : String
  deriving DecidableEq, Repr

namespace Err

/-- `fmt.Errorf("%w: ...", ErrInvalidInvite)`. -/
def invalidInvite (text : String) : Err := ⟨.invalidInvite, "invalid WarpTweet invite: " ++ text⟩

/-- `fmt.Errorf("%w: ...", ErrInvalidDuration)`. -/
def invalidDuration (text : String) : Err :=
  ⟨.invalidDuration, "invalid authorization duration: " ++ text⟩

/-- `fmt.Errorf("%w: ...", ErrInvalidClock)`. -/
def invalidClock (text : String) : Err := ⟨.invalidClock, "host clock is invalid: " ++ text⟩

/-- `fmt.Errorf("%w: ...", ErrInvalidAuthorizedKey)`. -/
def invalidAuthorizedKey (text : String) : Err :=
  ⟨.invalidAuthorizedKey, "invalid WarpTweet authorized key: " ++ text⟩

/-- `fmt.Errorf("%w: ...", ErrRejected)`. -/
def rejected (text : String) : Err := ⟨.rejected, "grant session registration rejected: " ++ text⟩

/-- An error that wraps no sentinel. -/
def plain (text : String) : Err := ⟨.other, text⟩

/-- `fmt.Errorf("...: %w", err)`. -/
def wrap (before : String) (err : Err) : Err := ⟨err.kind, before ++ ": " ++ err.text⟩

/-- `fmt.Errorf("%w: ...: %v", ErrInvalidInvite, err)`. -/
def asInvalidInvite (before : String) (err : Err) : Err :=
  invalidInvite (before ++ err.text)

end Err

/-- A check of the form `if bad { return err }`. -/
def refuseIf (bad : Bool) (err : Err) : Except Err Unit :=
  if bad then .error err else .ok ()

@[simp]
theorem refuseIf_eq_ok {bad : Bool} {err : Err} {u : Unit} :
    refuseIf bad err = .ok u ↔ bad = false := by
  cases bad <;> simp [refuseIf]

@[simp]
theorem except_bind_eq_ok {α β : Type} {first : Except Err α} {next : α → Except Err β} {b : β} :
    (first >>= next) = .ok b ↔ ∃ a, first = .ok a ∧ next a = .ok b := by
  cases first <;> simp [bind, Except.bind]

@[simp]
theorem mapError_eq_ok {α : Type} {outcome : Except Err α} {f : Err → Err} {a : α} :
    outcome.mapError f = .ok a ↔ outcome = .ok a := by
  cases outcome <;> simp [Except.mapError]

/-! ## Statuses -/

inductive ClientStatus where
  | enrollmentPending
  | active
  | expirationPending
  | expired
  | rotationPending
  | revocationPending
  | revoked
  deriving DecidableEq, Repr

namespace ClientStatus

def wire : ClientStatus → String
  | enrollmentPending => "enrollment_pending"
  | active => "active"
  | expirationPending => "expiration_pending"
  | expired => "expired"
  | rotationPending => "rotation_pending"
  | revocationPending => "revocation_pending"
  | revoked => "revoked"

/-- `Terminal`: the grant has ended for good. -/
def Terminal (status : ClientStatus) : Prop := status = expired ∨ status = revoked

instance : DecidablePred Terminal := fun _ => by
  unfold Terminal
  infer_instance

/-- `CanTransition`: the allowed mutations of a grant. -/
def canTransition (source target : ClientStatus) : Bool :=
  if source = target then true
  else match source with
    | enrollmentPending => target = active
    | active => target = expirationPending ∨ target = rotationPending ∨ target = revocationPending
    | expirationPending => target = expired ∨ target = revocationPending
    | rotationPending => target = active ∨ target = revocationPending ∨ target = expirationPending
    | revocationPending => target = revoked
    | expired | revoked => false

def authorizeTransition (source target : ClientStatus) : Except Err Unit :=
  if canTransition source target then .ok ()
  else .error (.plain ("grant status \"" ++ source.wire ++ "\" cannot transition to \"" ++
    target.wire ++ "\""))

end ClientStatus

/-! ## Times -/

/-- An instant, in nanoseconds since 1970-01-01T00:00:00Z. -/
abbrev Time := Int

namespace Time

def second : Int := 1000000000

/-- The zero value of a Go time: 0001-01-01T00:00:00Z. -/
def zero : Time := -62135596800 * second

def isZero (t : Time) : Bool := t = zero

/-- A time that `time.RFC3339Nano` writes with a four digit year, so that it reads
back: from 0000-01-01 up to 10000-01-01. -/
def isRepresentable (t : Time) : Bool :=
  decide (-62167219200 * second ≤ t) && decide (t < 253402300800 * second)

end Time

/-- A timestamp field of a stored record: absent, unreadable, or an instant. -/
inductive Stamp where
  | empty
  | unreadable
  | at (t : Time)
  deriving DecidableEq, Repr

namespace Stamp

/-- `now.Format(time.RFC3339Nano)`. -/
def format (t : Time) : Stamp := if t.isRepresentable then .at t else .unreadable

def parseUTC : Stamp → Except Err Time
  | empty => .error (.invalidDuration "timestamp is empty")
  | unreadable => .error (.invalidDuration "timestamp must be RFC 3339 UTC ending with Z")
  | .at t => .ok t

def formatUTC (t : Time) : Except Err Stamp :=
  if t.isZero then .error (.invalidDuration "timestamp is zero") else .ok (format t)

end Stamp

/-- `now.Format("20060102T150405Z")`: a generation names a whole second. The absent
generation is `none`. -/
abbrev Generation := Option Int

def generationAt (now : Time) : Generation := some (now / Time.second)

/-- The largest authorization, a hundred years of 365 days, in seconds. -/
def implementationMaximumSeconds : Int := 100 * 365 * 24 * 3600

/-- `DurationFromSeconds`, in nanoseconds. -/
def durationFromSeconds (seconds : Int) : Except Err Int :=
  if seconds ≤ 0 then .error (.invalidDuration "duration seconds must be positive")
  else if seconds > implementationMaximumSeconds then
    .error (.invalidDuration "duration overflows the implementation limit")
  else .ok (seconds * Time.second)

/-- `AuthorizationNotAfter`: acceptance plus duration, and its stored form. -/
def authorizationNotAfter (acceptedAt : Time) (durationSeconds : Int) :
    Except Err (Time × Stamp) := do
  let duration ← durationFromSeconds durationSeconds
  refuseIf acceptedAt.isZero (.invalidDuration "accepted_at is zero")
  let notAfter := acceptedAt + duration
  refuseIf (!decide (notAfter > acceptedAt)) (.invalidDuration "authorization_not_after overflowed")
  let encoded ← Stamp.formatUTC notAfter
  pure (notAfter, encoded)

/-- `ReadyToExpire`: the authorization window has ended. -/
def readyToExpire (notAfter now : Time) : Bool :=
  if notAfter.isZero || now.isZero then false else !decide (now < notAfter)

/-! ## The expiry plan -/

structure ExpirePlan where
  clientID : Strings.Text
  generation : Generation
  publicKey : Strings.Text
  publicKeySHA256 : Strings.Text
  status : ClientStatus
  notAfter : Time
  now : Time

/-- `ValidateExpirePlan`: expiry may begin or resume. -/
def validateExpirePlan (plan : ExpirePlan) : Except Err Unit := do
  refuseIf (plan.clientID.isEmpty || plan.generation.isNone || plan.publicKey.isEmpty ||
      plan.publicKeySHA256.isEmpty)
    (.plain "expiry requires client_id, generation, public_key, and public_key_sha256")
  refuseIf (plan.now.isZero || plan.notAfter.isZero)
    (.plain "expiry requires accepted host timestamps")
  refuseIf (!readyToExpire plan.notAfter plan.now && plan.status ≠ .expirationPending)
    (.plain ("grant " ++ String.ofList plan.clientID ++ " is not due to expire"))
  match plan.status with
  | .active | .expirationPending | .rotationPending => pure ()
  | status => throw (.plain ("grant status \"" ++ status.wire ++ "\" cannot expire"))

theorem status_of_validateExpirePlan {plan : ExpirePlan} (h : validateExpirePlan plan = .ok ()) :
    plan.status = .active ∨ plan.status = .expirationPending ∨ plan.status = .rotationPending := by
  simp only [validateExpirePlan, except_bind_eq_ok] at h
  obtain ⟨-, -, -, -, -, -, h⟩ := h
  cases hstatus : plan.status <;> simp [hstatus, throw, throwThe, MonadExceptOf.throw] at h ⊢

end WarpTweet
