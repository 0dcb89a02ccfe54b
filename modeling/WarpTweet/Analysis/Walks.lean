import WarpTweet.Analysis.Grants

/-!
# Every program follows the protocol of the grant records

A walk through a program derives the guard of each action it comes to, from what the
process has read and done before and from what the others leave alone in between. Each
function of the source has one statement here, which its callers use: the actions it
takes are guarded, it ends with the locks it began with, and what it returns tells
something about the state and the history at that point.
-/

namespace WarpTweet

open Strings Concurrency Storage

/-! ## Rules -/

variable {site : Site} {pid : ℕ} {call : Call} {β : Type} {hist : List HostStep} {s s' : Host}
  {record : ClientRecord} {now : Time}
  {clientID inviteID publicKeySHA256 publicKey connectionID : Text} {action : Action}
  {env : Env} {name : Lock} {record want : ClientRecord} {reply : action.Reply}
  {bad wait enforced : Bool} {err busy : Err} {input : AcceptInput} {request : ManagementRequest}
  {records : List ClientRecord} {choice : Choice} {hist' : List HostStep} {notAfter : Time}
  {line : AuthorizedLine} {published : PublishedEndpointSet} {lines : List AuthorizedLine}
  {f : Err → Err} {errs : List Err} {D : Pool → HostMove → Prop}

section

variable {α : Type}

theorem ensures_refuse_bind {P : Protocol (hostMachine site)}
    {Q : Except Err α → List HostStep → Host → Prop}
    {next : Unit → HostProg α} (hbad : Q (.error err) hist s)
    (hnext : bad = false → Ensures P pid call (next ()) hist s Q) :
    Ensures P pid call ((refuse bad err).bind next) hist s Q := by
  cases bad with
  | true => exact hbad
  | false => exact hnext rfl

section

variable {P : Protocol (hostMachine site)} {Q : α → List HostStep → Prop}

theorem traces_refuse_bind {next : Unit → HostProg α}
    (hnext : bad = false → Traces P pid call (next ()) hist s Q) :
    Traces P pid call ((refuse bad err).bind next) hist s Q := by
  cases bad with
  | true => exact traces_fail
  | false => exact hnext rfl

theorem traces_ofExcept_bind {outcome : Except Err β} {next : β → HostProg α}
    (hnext : ∀ value, outcome = .ok value → Traces P pid call (next value) hist s Q) :
    Traces P pid call ((Prog.ofExcept outcome).bind next) hist s Q := by
  cases outcome with
  | ok value => exact hnext value rfl
  | error error => exact traces_fail

theorem traces_withLock {body : HostProg α}
    (hlock : ∀ choice s, P.Guard pid call hist (.lock name wait) choice s)
    (hunlock : ∀ hist choice s, P.Guard pid call hist (.unlock name) choice s) (hbody : ∀ choice s',
      Traces P pid call body (⟨.lock name wait, choice, .acquired⟩ :: hist) s' Q)
    (hQ : ∀ value hist' choice reply, Q value hist' →
      Q value (⟨.unlock name, choice, reply⟩ :: hist')) :
    Traces P pid call (withLock name wait busy body) hist s Q := by
  refine Traces.bind (N := fun _ hist' => ∃ choice,
    hist' = ⟨.lock name wait, choice, .acquired⟩ :: hist) ?_ ?_
  · refine Traces.bind (traces_perform fun choice s₁ _ => hlock choice s₁) ?_
    rintro (_ | _ | _) hist₁ s₁ - ⟨choice, _, _, rfl, -⟩
    · exact traces_done ⟨choice, rfl⟩
    · exact traces_fail
    · exact traces_fail
  · rintro _ _ s₁ - ⟨choice, rfl⟩
    refine Traces.bind (hbody choice s₁).attempt fun outcome hist₂ s₂ _ houtcome => ?_
    refine Traces.bind (traces_perform fun choice s₃ _ => hunlock hist₂ choice s₃) ?_
    rintro reply hist₃ s₃ - ⟨choice, _, _, rfl, -⟩
    cases outcome with
    | error err => exact traces_fail
    | ok value => exact traces_done (hQ value hist₂ choice reply (houtcome value rfl))

theorem traces_loadClient {name : Text}
    (hguard : ∀ hist choice s, P.Guard pid call hist (.readClient name) choice s) :
    Traces P pid call (loadClient name) hist s fun record hist' =>
      record.clientID = name ∧
        ∃ choice, hist' = ⟨.readClient name, choice, .found record⟩ :: hist := by
  refine traces_refuse_bind fun _ => ?_
  refine Traces.bind (traces_perform fun choice s₁ _ => hguard hist choice s₁) ?_
  rintro (record | _ | _) hist₁ s₁ - ⟨choice, s₂, s₃, rfl, hperform⟩
  · have hread : performAction site.env pid (.readClient name) choice s₂ =
        some (.found record, s₃) := hperform
    exact traces_done ⟨Directory.key_of_get (readClient_found hread).1, choice, rfl⟩
  · exact traces_fail
  · exact traces_fail

theorem traces_load
    (hguard : ∀ hist choice s, P.Guard pid call hist (.readInvite inviteID) choice s) :
    Traces P pid call (load site.env inviteID) hist s fun record _ => record.inviteID = inviteID := by
  refine traces_refuse_bind fun _ => ?_
  refine Traces.bind (traces_perform fun choice s₁ _ => hguard hist choice s₁) ?_
  rintro (record | _ | _) hist₁ s₁ - ⟨choice, s₂, s₃, rfl, hperform⟩
  · have hread : performAction site.env pid (.readInvite inviteID) choice s₂ =
        some (.found record, s₃) := hperform
    refine traces_ofExcept_bind fun invite hinvite => traces_done ?_
    obtain ⟨dataHost, enrollHost, rfl⟩ := fields_of_canonicalizeStoredInvite hinvite
    have hid := Directory.key_of_get (readInvite_found hread).1
    exact hid
  · exact traces_fail
  · exact traces_fail

end

section

variable {P : Protocol (hostMachine site)} {Q N : α → List HostStep → Prop}
  {E F : List HostStep → Prop}

theorem leaves_action {Q : action.Reply → List HostStep → Prop}
    (h : ∀ choice reply s₁ s₂, P.Assume pid call hist action choice s₁ →
      performAction site.env pid action choice s₁ = some (reply, s₂) →
      P.Guard pid call hist action choice s₁ ∧ Q reply (⟨action, choice, reply⟩ :: hist)) :
    Leaves P pid call (perform action) hist s Q E :=
  leaves_perform fun choice reply s₁ s₂ _ => h choice reply s₁ s₂

theorem leaves_refuse_bind {next : Unit → HostProg α}
    (hbad : bad = true → E hist) (hnext : bad = false → Leaves P pid call (next ()) hist s Q E) :
    Leaves P pid call ((refuse bad err).bind next) hist s Q E := by
  cases bad with
  | true => exact hbad rfl
  | false => exact hnext rfl

theorem leaves_ofExcept_bind {outcome : Except Err β} {next : β → HostProg α}
    (herror : ∀ err, outcome = .error err → E hist)
    (hnext : ∀ value, outcome = .ok value → Leaves P pid call (next value) hist s Q E) :
    Leaves P pid call ((Prog.ofExcept outcome).bind next) hist s Q E := by
  cases outcome with
  | ok value => exact hnext value rfl
  | error err => exact herror err rfl

theorem leaves_withLock {body : HostProg α}
    (hlock : ∀ choice s, P.Guard pid call hist (.lock name wait) choice s)
    (hbusy : ∀ choice reply, (wait = true → choice.outcome ≠ .ok) →
      E (⟨.lock name wait, choice, reply⟩ :: hist)) (hbody : ∀ choice s',
      Leaves P pid call body (⟨.lock name wait, choice, .acquired⟩ :: hist) s' N F)
    (hok : ∀ value hist', N value hist' → ∀ choice reply s',
      P.Guard pid call hist' (.unlock name) choice s' ∧
        Q value (⟨.unlock name, choice, reply⟩ :: hist'))
    (herror : ∀ hist', F hist' → ∀ choice reply s',
      P.Guard pid call hist' (.unlock name) choice s' ∧ E (⟨.unlock name, choice, reply⟩ :: hist')) :
    Leaves P pid call (withLock name wait busy body) hist s Q E := by
  refine Leaves.bind (N := fun _ hist' => ∃ choice,
    hist' = ⟨.lock name wait, choice, .acquired⟩ :: hist) ?_ ?_
  · refine Leaves.bind (N := fun reply hist' => ∃ choice,
      hist' = ⟨.lock name wait, choice, reply⟩ :: hist ∧
        (reply ≠ .acquired → wait = true → choice.outcome ≠ .ok)) ?_ ?_
    · refine leaves_action fun choice reply s₁ s₂ _ hperform => ⟨hlock choice s₁, choice, rfl, ?_⟩
      rintro hreply rfl hok
      simp only [performAction, hok, Outcome.reports, if_true] at hperform
      split at hperform
      · cases hperform
        exact hreply rfl
      · cases hperform
    · rintro (_ | _ | _) _ s₁ ⟨choice, rfl, hfailed⟩
      · exact leaves_done ⟨choice, rfl⟩
      · exact leaves_fail (hbusy choice _ (hfailed (by simp)))
      · exact leaves_fail (hbusy choice _ (hfailed (by simp)))
  · rintro _ _ s₁ ⟨choice, rfl⟩
    refine Leaves.bind (hbody choice s₁).attempt ?_
    rintro (err | value) hist₂ s₂ hleft
    · refine Leaves.bind (N := fun _ => E) ?_ fun _ _ _ => leaves_fail
      exact leaves_action fun choice reply s₃ _ _ _ => herror hist₂ hleft choice reply s₃
    · refine Leaves.bind (N := fun _ => Q value) ?_ fun _ _ _ => leaves_done
      exact leaves_action fun choice reply s₃ _ _ _ => hok value hist₂ hleft choice reply s₃

end

theorem uses_withLock {p : Action → Prop}
    {body : HostProg α} (hlock : p (.lock name wait)) (hunlock : p (.unlock name))
    (hbody : body.Uses p) : (withLock name wait busy body).Uses p := by
  refine .bind (.bind ⟨hlock, fun _ => trivial⟩ fun reply => ?_) fun _ =>
    .bind hbody.attempt fun _ => .bind ⟨hunlock, fun _ => trivial⟩ fun _ => Prog.uses_ofExcept
  cases reply <;> trivial

/-- The program follows the protocol from `hist` and `s`, keeps the locks and the
invites of clients, and when it returns a value, `Q` holds. -/
def Walks (site : Site) (pid : ℕ) (call : Call) (program : HostProg α) (hist : List HostStep)
    (s : Host) (Q : α → List HostStep → Host → Prop) : Prop :=
  Ensures (grantProtocol site) pid call program hist s fun outcome hist' s' =>
    Keeps pid s s' ∧ ∀ value, outcome = .ok value → Q value hist' s'

variable {Q : α → List HostStep → Host → Prop} {Q' : β → List HostStep → Host → Prop}

theorem Walks.mono {Q₁ : α → List HostStep → Host → Prop} {program : HostProg α}
    (h : Walks site pid call program hist s Q₁)
    (hQ : ∀ value hist' s', Keeps pid s s' → Q₁ value hist' s' → Q value hist' s') :
    Walks site pid call program hist s Q :=
  Ensures.mono h fun _ _ _ h => ⟨h.1, fun value heq => hQ value _ _ h.1 (h.2 value heq)⟩

theorem walks_done {value : α} (h : Q value hist s) : Walks site pid call (.done value) hist s Q :=
  ⟨.refl, fun _ heq => by cases heq; exact h⟩

theorem walks_fail {error : Err} : Walks site pid call (.fail error : HostProg α) hist s Q :=
  ⟨.refl, fun _ heq => by cases heq⟩

theorem walks_ofExcept {outcome : Except Err α} (h : ∀ value, outcome = .ok value → Q value hist s) :
    Walks site pid call (.ofExcept outcome : HostProg α) hist s Q := by
  cases outcome with
  | ok value => exact walks_done (h value rfl)
  | error error => exact walks_fail

theorem walks_refuse {Q : Unit → List HostStep → Host → Prop}
    (h : bad = false → Q () hist s) : Walks site pid call (refuse bad err) hist s Q :=
  walks_ofExcept fun _ heq => h (refuseIf_eq_ok.1 heq)

theorem walks_refuse_bind {next : Unit → HostProg α}
    (h : bad = false → Walks site pid call (next ()) hist s Q) :
    Walks site pid call ((refuse bad err).bind next) hist s Q := by
  cases bad with
  | true => exact walks_fail
  | false => exact h rfl

theorem walks_ofExcept_bind {outcome : Except Err β} {next : β → HostProg α}
    (h : ∀ value, outcome = .ok value → Walks site pid call (next value) hist s Q) :
    Walks site pid call ((Prog.ofExcept outcome).bind next) hist s Q := by
  cases outcome with
  | ok value => exact h value rfl
  | error error => exact walks_fail

theorem Walks.bind {program : HostProg β} {next : β → HostProg α}
    (h : Walks site pid call program hist s Q')
    (hnext : ∀ value hist' s', Keeps pid s s' → Q' value hist' s' →
      Walks site pid call (next value) hist' s' Q) :
    Walks site pid call (program.bind next) hist s Q := by
  refine ensures_bind.2 (Ensures.mono h ?_)
  rintro (error | value) hist' s' ⟨hkeeps, hvalue⟩
  · exact ⟨hkeeps, fun _ heq => by cases heq⟩
  · refine Ensures.mono (hnext value hist' s' hkeeps (hvalue value rfl)) ?_
    rintro outcome hist'' s'' ⟨hkeeps', h'⟩
    exact ⟨hkeeps.trans hkeeps', h'⟩

theorem Walks.attempt {program : HostProg β} {Q : Except Err β → List HostStep → Host → Prop}
    (h : Walks site pid call program hist s Q') (hQ : ∀ outcome hist' s', Keeps pid s s' →
      (∀ value, outcome = .ok value → Q' value hist' s') → Q outcome hist' s') :
    Walks site pid call program.attempt hist s Q := by
  refine ensures_attempt.2 (Ensures.mono h ?_)
  rintro outcome hist' s' ⟨hkeeps, hvalue⟩
  exact ⟨hkeeps, fun _ heq => by cases heq; exact hQ outcome hist' s' hkeeps hvalue⟩

theorem Walks.mapError {program : HostProg α} (h : Walks site pid call program hist s Q) :
    Walks site pid call (program.mapError f) hist s Q := by
  refine ensures_mapError.2 (Ensures.mono h ?_)
  rintro (error | value) hist' s' ⟨hkeeps, hvalue⟩
  · exact ⟨hkeeps, fun _ heq => by cases heq⟩
  · exact ⟨hkeeps, fun _ heq => by cases heq; exact hvalue value rfl⟩

/-! ## Calm steps -/

/-- From `hist` and `s` the process came to `hist'` and `s'` by calm actions of its
own and actions of others. -/
structure Calmly (pid : ℕ) (hist : List HostStep) (s : Host) (hist' : List HostStep) (s' : Host) :
    Prop where
  relies : Relies pid s s'
  steps : ∃ steps, hist' = steps ++ hist ∧ ∀ step ∈ steps, step.action.calm = true

variable {hist' hist'' : List HostStep} {s'' : Host}

theorem Calmly.refl : Calmly pid hist s hist s :=
  ⟨.refl, [], rfl, by simp⟩

section

variable (h : Calmly pid hist s hist' s')
include h

theorem Calmly.trans (h' : Calmly pid hist' s' hist'' s'') : Calmly pid hist s hist'' s'' := by
  obtain ⟨steps, rfl, hsteps⟩ := h.steps
  obtain ⟨steps', rfl, hsteps'⟩ := h'.steps
  refine ⟨h.relies.trans h'.relies, steps' ++ steps, by simp, ?_⟩
  intro step hstep
  rcases List.mem_append.1 hstep with hstep | hstep
  · exact hsteps' step hstep
  · exact hsteps step hstep

theorem Calmly.did_since {mark : Action → Bool}
    (hmark : ∀ action, mark action = true → action.calm = false)
    (hdid : Did (since mark hist) action reply) : Did (since mark hist') action reply := by
  obtain ⟨steps, rfl, hsteps⟩ := h.steps
  rw [since_append_calm hmark hsteps]
  exact hdid.mono (List.subset_append_right _ _)

theorem Calmly.owns (howns : Owns pid record hist s) : Owns pid record hist' s' := by
  obtain ⟨steps, rfl, hsteps⟩ := h.steps
  exact ⟨h.relies.holds howns.toHolds, by rw [lastClient_append_calm hsteps]; exact howns.current⟩

theorem Calmly.did_recent (hdid : Did (recent clientID hist) action reply) :
    Did (recent clientID hist') action reply :=
  h.did_since (fun _ => calm_of_settles) hdid

theorem Calmly.did_sinceLock (hdid : Did (sinceLock name hist) action reply) :
    Did (sinceLock name hist') action reply :=
  h.did_since (fun _ => calm_of_locks) hdid

end

theorem relies_of_calm (hcalm : action.calm = true)
    (h : performAction site.env pid action choice s = some (reply, s')) : Relies pid s s' := by
  cases effect_of_perform h with
  | kept hsame => exact .of_clients hsame.clients fun name hname => by rwa [hsame.locks]
  | _ => first | exact .of_clients rfl fun _ hname => hname | cases hcalm

theorem walks_calm (hcalm : action.calm = true)
    (hguard : ∀ choice s₁, Relies pid s s₁ → Guard site pid call hist action choice s₁) :
    Walks site pid call (perform action) hist s fun reply hist' s' =>
      Calmly pid hist s hist' s' ∧ ∃ choice s₁, hist' = ⟨action, choice, reply⟩ :: hist ∧
        performAction site.env pid action choice s₁ = some (reply, s') := by
  intro s₁ (hrely : Relies pid s s₁) choice reply s₂ _ hperform
  have hrely' : Relies pid s s₂ := hrely.trans (relies_of_calm hcalm hperform)
  refine ⟨hguard choice s₁ hrely, hrely'.toKeeps, fun _ heq => ?_⟩
  cases heq
  exact ⟨⟨hrely', [_], rfl, by simpa using hcalm⟩, choice, s₁, rfl, hperform⟩

/-- The action is calm and has no guard. -/
def Action.free : Action → Bool
  | .lock _ _ | .unlock _ | .storeClient _ | .writeClient _ => false
  | .install _ _ | .appendKey _ | .replaceKey _ _ | .removeKey _ | .writeKeys _ => false
  | .clearBlocked => false
  | _ => true

theorem Action.calm_of_free (h : action.free = true) : action.calm = true := by
  cases action <;> simp_all [Action.free, Action.calm]

theorem guard_of_free (h : action.free = true) (choice : Choice) :
    Guard site pid call hist action choice s := by
  cases action <;> simp_all [Action.free, Guard]

theorem walks_free (h : action.free = true) :
    Walks site pid call (perform action) hist s fun reply hist' s' =>
      Calmly pid hist s hist' s' ∧ ∃ choice s₁, hist' = ⟨action, choice, reply⟩ :: hist ∧
        performAction site.env pid action choice s₁ = some (reply, s') :=
  walks_calm (Action.calm_of_free h) fun _ _ _ => guard_of_free h _

theorem walks_of_uses {program : HostProg α} (h : program.Uses fun action => action.free = true) :
    Walks site pid call program hist s fun _ hist' s' => Calmly pid hist s hist' s' := by
  induction program generalizing hist s with
  | done value => exact walks_done .refl
  | fail error => exact walks_fail
  | act action rest ih =>
    refine Walks.bind (walks_free h.1) fun reply hist' s' _ hstep => ?_
    exact (ih reply (h.2 reply)).mono fun _ _ _ _ hrest => hstep.1.trans hrest

theorem Walks.guarded {program : HostProg α} (h : Walks site pid call program hist s Q) :
    Ensures (grantProtocol site) pid call program hist s fun _ _ _ => True :=
  Ensures.mono h fun _ _ _ _ => trivial

/-! ## Locks -/

/-- The rule of a critical section: the body runs with the lock, which is free again
afterwards. -/
theorem walks_withLock {body : HostProg α}
    (hbody : ∀ choice s', Relies pid s s' → s'.locks name = some pid →
      Walks site pid call body (⟨.lock name wait, choice, .acquired⟩ :: hist) s' fun _ _ _ => True) :
    Walks site pid call (withLock name wait busy body) hist s fun _ _ _ => True := by
  intro s₁ (hrely : Relies pid s s₁) choice reply s₂ _
    (hperform : performAction site.env pid (.lock name wait) choice s₁ = some (reply, s₂))
  refine ⟨trivial, ?_⟩
  cases reply with
  | busy =>
    cases lock_not_acquired hperform (by simp)
    exact ⟨hrely.toKeeps, fun _ _ => trivial⟩
  | failed =>
    cases lock_not_acquired hperform (by simp)
    exact ⟨hrely.toKeeps, fun _ _ => trivial⟩
  | acquired =>
    obtain ⟨hfree, rfl⟩ := lock_acquired hperform
    have hnotHeld : s.locks name ≠ some pid := fun hheld => by
      simpa [hfree] using hrely.locks hheld
    have hrely₂ : Relies pid s { s₁ with locks := Function.update s₁.locks name (some pid) } :=
      hrely.trans (.of_lock (by simp [hfree]))
    change Ensures _ pid call (body.attempt.bind fun outcome =>
      (perform (.unlock name)).bind fun _ => .ofExcept outcome) _ _ _
    refine ensures_bind.2 (ensures_attempt.2 (Ensures.mono
      (hbody choice _ hrely₂ (by simp)) ?_))
    rintro outcome hist₃ s₃ ⟨hkeeps, -⟩
    intro s₄ (hrely₄ : Relies pid s₃ s₄) choice₄ reply₄ s₅ _ hunlock
    have hheld : s₄.locks name = some pid :=
      hrely₄.locks (hkeeps.locks (by simp))
    refine ⟨hheld, ?_⟩
    cases hunlock
    refine ensures_ofExcept.2 ⟨?_, fun _ _ => trivial⟩
    have hkeeps₄ := (hrely₂.toKeeps.trans hkeeps).trans hrely₄.toKeeps
    refine ⟨fun {other} hother => ?_, fun hcarries => hkeeps₄.carries hcarries⟩
    have hne : other ≠ name := by
      rintro rfl
      exact hnotHeld hother
    simpa [Function.update_of_ne hne] using hkeeps₄.locks hother

end

/-! ## Files -/

theorem did_recent_cons (hcalm : action.calm = true) :
    Did (recent clientID (⟨action, choice, reply⟩ :: hist)) action reply := by
  have hmark : action.settles clientID = false := by
    cases hsettles : action.settles clientID with
    | false => rfl
    | true => simp [calm_of_settles hsettles] at hcalm
  simp only [recent, since_cons, hmark]
  exact did_cons_self

theorem walks_loadClient : Walks site pid call (loadClient clientID) hist s fun record hist' s' =>
      Calmly pid hist s hist' s' ∧ s'.clients.get clientID = some record ∧
        ∃ choice, hist' = ⟨.readClient clientID, choice, .found record⟩ :: hist := by
  refine walks_refuse_bind fun _ => Walks.bind (walks_free rfl) ?_
  rintro (record | _ | _) hist' s' - ⟨hcalm, choice, s₁, rfl, hread⟩
  · obtain ⟨hget, rfl⟩ := readClient_found hread
    exact walks_done ⟨hcalm, hget, choice, rfl⟩
  · exact walks_fail
  · exact walks_fail

theorem walks_loadKnownClient :
    Walks site pid call (loadKnownClient clientID) hist s fun record hist' s' =>
      Calmly pid hist s hist' s' ∧ s'.clients.get clientID = some record :=
  (walks_loadClient.mono fun _ _ _ _ h => ⟨h.1, h.2.1⟩).mapError

/-- Process `pid` holds the lock of the client, which is the one it asked for last. -/
structure Held (pid : ℕ) (clientID : Text) (hist : List HostStep) (s : Host) : Prop where
  locked : s.locks (.client clientID) = some pid
  current : lastClient hist = some clientID

theorem Held.owns {s' : Host} (h : Held pid clientID hist s) (hcalm : Calmly pid hist s hist' s')
    (hget : s'.clients.get clientID = some record) :
    record.clientID = clientID ∧ Owns pid record hist' s' := by
  have hid : record.clientID = clientID := Directory.key_of_get hget
  obtain ⟨steps, rfl, hsteps⟩ := hcalm.steps
  subst hid
  exact ⟨rfl, ⟨hcalm.relies.locks h.locked, hget⟩,
    by rw [lastClient_append_calm hsteps]; exact h.current⟩

theorem walks_loadKnownClient_held (hheld : Held pid clientID hist s) :
    Walks site pid call (loadKnownClient clientID) hist s fun record hist' s' =>
      record.clientID = clientID ∧ Owns pid record hist' s' :=
  walks_loadKnownClient.mono fun _ _ _ _ ⟨hcalm, hget⟩ => hheld.owns hcalm hget

theorem walks_load : Walks site pid call (load site.env inviteID) hist s fun record hist' s' =>
      Calmly pid hist s hist' s' ∧ record.inviteID = inviteID := by
  refine walks_refuse_bind fun _ => Walks.bind (walks_free rfl) ?_
  rintro (record | _ | _) hist' s' - ⟨hcalm, choice, s₁, rfl, hread⟩
  · refine walks_ofExcept_bind fun invite hinvite => walks_done ⟨hcalm, ?_⟩
    obtain ⟨dataHost, enrollHost, rfl⟩ := fields_of_canonicalizeStoredInvite hinvite
    have hid := Directory.key_of_get (readInvite_found hread).1
    exact hid
  · exact walks_fail
  · exact walks_fail

/-- Writing a client record: one of the transitions, after which the process holds the
new record. -/
theorem walks_writeClientAtomic
    (hguard : ∀ s', Relies pid s s' → ClientWrite site pid call hist s' record) :
    Walks site pid call (writeClientAtomic record) hist s fun _ hist' s' =>
      Owns pid record hist' s' := by
  intro s₁ (hrely : Relies pid s s₁) choice reply s₂ _
    (hperform : performAction site.env pid (.writeClient record) choice s₁ = some (reply, s₂))
  have hwrite := hguard s₁ hrely
  obtain ⟨old, howns, hid, hinvite, -⟩ := hwrite.previous
  have hkeeps : Keeps pid s₁ s₂ := by
    cases effect_of_perform hperform with
    | writeClient _ => exact keeps_of_writeClient howns.stored hid hinvite
    | kept hsame => exact (Relies.of_clients hsame.clients fun _ h => by rwa [hsame.locks]).toKeeps
  refine ⟨hwrite, ?_⟩
  cases reply with
  | false => exact ⟨hrely.toKeeps.trans hkeeps, fun _ heq => by cases heq⟩
  | true =>
    refine ⟨hrely.toKeeps.trans hkeeps, fun _ _ => ?_⟩
    cases writeClient_ok hperform
    exact ⟨⟨by rw [hid]; exact howns.locked, Directory.get_put_self⟩,
      by rw [hid]; exact howns.current⟩

/-! ## Revocation -/

theorem walks_removeAuthorization (howns : Owns pid record hist s)
    (hkey : publicKey = record.publicKey ∨ publicKey = record.pendingPublicKey)
    (hstatus : record.status = .revocationPending ∨ record.status = .expirationPending ∨
      record.status = .revoked) :
    Walks site pid call (removeAuthorization publicKey) hist s fun _ hist' s' =>
      Calmly pid hist s hist' s' ∧ Removed record publicKey hist' := by
  refine Walks.bind (walks_calm rfl fun _ s' hrely => ?_) ?_
  · exact ⟨record, howns.of_relies hrely, hkey, hstatus⟩
  · rintro ok hist' s' - ⟨hcalm, choice, s₁, rfl, -⟩
    refine walks_refuse fun hok => ⟨hcalm, ?_⟩
    cases ok with
    | true => exact did_recent_cons rfl
    | false => simp at hok

theorem uses_terminateSession :
    (terminateSession clientID publicKeySHA256).Uses fun action => action.free = true :=
  .bind ⟨rfl, fun _ => trivial⟩ fun _ => Prog.uses_ofExcept

theorem uses_verifySessionGone :
    (verifySessionGone clientID publicKeySHA256).Uses fun action => action.free = true :=
  .bind ⟨rfl, fun _ => trivial⟩ fun _ => Prog.uses_ofExcept

theorem uses_burnManagementToken :
    (burnManagementToken env).Uses fun action => action.free = true := by
  refine .bind ⟨rfl, fun _ => trivial⟩ fun token => ?_
  cases token <;> trivial

theorem walks_verifySessionGone :
    Walks site pid call (verifySessionGone clientID publicKeySHA256) hist s fun _ hist' s' =>
      Calmly pid hist s hist' s' ∧
        Did (recent clientID hist') (.verifyGone clientID none publicKeySHA256) (.ok ()) := by
  refine Walks.bind (walks_free rfl) ?_
  rintro result hist' s' - ⟨hcalm, choice, s₁, rfl, -⟩
  refine walks_ofExcept fun _ hresult => ⟨hcalm, ?_⟩
  subst hresult
  exact did_recent_cons rfl

theorem walks_enforceSessions :
    Walks site pid call (enforceSessions enforced record.clientID) hist s fun _ hist' s' =>
      Calmly pid hist s hist' s' ∧ (enforced = true → VerifiedGone record hist') := by
  cases enforced with
  | false => exact walks_done ⟨.refl, by simp⟩
  | true =>
    refine Walks.bind (walks_of_uses uses_terminateSession) fun _ hist₁ s₁ _ hcalm₁ => ?_
    refine walks_verifySessionGone.mono fun _ hist₂ s₂ _ ⟨hcalm₂, hgone⟩ => ?_
    exact ⟨hcalm₁.trans hcalm₂, fun _ => hgone⟩

theorem walks_completeRevocation (howns : Owns pid record hist s)
    (hstatus : record.status = .revocationPending ∨ record.status = .expirationPending)
    (henforced : call.defersEviction = true ∨ enforced = true) :
    Walks site pid call (completeRevocation site.env enforced now record) hist s
      fun _ _ _ => True := by
  have hpending : record.status = .revocationPending ∨ record.status = .expirationPending ∨
      record.status = .revoked := by tauto
  refine Walks.bind (walks_removeAuthorization howns (.inl rfl) hpending)
    fun _ hist₁ s₁ _ ⟨hcalm₁, hremoved⟩ => ?_
  refine Walks.bind walks_enforceSessions fun _ hist₂ s₂ _ ⟨hcalm₂, hgone⟩ => ?_
  refine Walks.bind (walks_of_uses uses_burnManagementToken) fun burned hist₃ s₃ _ hcalm₃ => ?_
  have hcalm := hcalm₁.trans (hcalm₂.trans hcalm₃)
  refine Walks.bind (walks_writeClientAtomic fun s' hrely => ?_) fun _ _ _ _ _ => walks_done trivial
  refine .finishRevocation ((hcalm.owns howns).of_relies hrely) hstatus
    ((hcalm₂.trans hcalm₃).did_recent hremoved) ?_
  exact henforced.imp_right fun henforced => hcalm₃.did_recent (hgone henforced)

theorem walks_revokeClientLocked (hheld : Held pid request.clientID hist s)
    (henforced : call.defersEviction = true ∨ enforced = true) :
    Walks site pid call (revokeClientLocked site.env request now enforced) hist s
      fun _ _ _ => True := by
  refine Walks.bind (walks_loadKnownClient_held hheld)
    fun record hist₁ s₁ _ ⟨hid, howns⟩ => ?_
  refine walks_refuse_bind fun _ => ?_
  split_ifs with hrevoked hactive
  · refine walks_refuse_bind fun _ => ?_
    exact Walks.bind (walks_removeAuthorization howns (.inl rfl) (by simp [hrevoked]))
      fun _ _ _ _ _ => walks_done trivial
  · refine walks_refuse_bind fun _ => walks_refuse_bind fun _ => ?_
    refine Walks.bind (walks_writeClientAtomic fun s' hrely =>
      .beginRevocation (howns.of_relies hrely) (.inl hactive)) fun _ hist₂ s₂ _ howns₂ => ?_
    exact walks_completeRevocation howns₂ (.inl rfl) henforced
  · refine walks_refuse_bind fun hstatus => walks_refuse_bind fun _ => ?_
    refine walks_completeRevocation howns ?_ henforced
    exact or_iff_not_imp_left.2 (by simpa [hactive] using hstatus)

theorem walks_withClientLock {α : Type} {body : HostProg α}
    (hbody : ∀ hist' s', Held pid clientID hist' s' →
      Walks site pid call body hist' s' fun _ _ _ => True) :
    Walks site pid call (withClientLock clientID body) hist s fun _ _ _ => True :=
  walks_refuse_bind fun _ => walks_withLock fun _ s' _ hlocked =>
    hbody _ s' ⟨hlocked, by simp [Action.asksFor]⟩

theorem walks_orNow : Walks site pid call (orNow now) hist s fun _ hist' s' =>
    Calmly pid hist s hist' s' := by
  unfold orNow
  split_ifs
  · exact (walks_free rfl).mono fun _ _ _ _ h => h.1
  · exact walks_done .refl

theorem walks_revokeClient (henforced : call.defersEviction = true ∨ enforced = true) :
    Walks site pid call (revokeClient site.env request now enforced) hist s fun _ _ _ => True := by
  refine Walks.bind walks_orNow fun now hist₁ s₁ _ _ => walks_ofExcept_bind fun _ _ => ?_
  exact walks_withClientLock fun _ _ hheld => walks_revokeClientLocked hheld henforced

theorem walks_removePendingAuthorization (howns : Owns pid record hist s)
    (hstatus : record.status = .revocationPending ∨ record.status = .expirationPending ∨
      record.status = .revoked) (hremoved : Removed record record.publicKey hist) :
    Walks site pid call (removePendingAuthorization record) hist s fun _ hist' s' =>
      Calmly pid hist s hist' s' ∧
        (record.pendingPublicKey = [] ∨ Removed record record.pendingPublicKey hist') := by
  unfold removePendingAuthorization
  split_ifs with hkey
  · exact (walks_removeAuthorization howns (.inr rfl) hstatus).mono
      fun _ _ _ _ h => ⟨h.1, .inr h.2⟩
  · refine walks_done ⟨.refl, ?_⟩
    by_cases hempty : record.pendingPublicKey = []
    · exact .inl hempty
    · have hsame : record.pendingPublicKey = record.publicKey := by
        simpa [hempty] using hkey
      exact .inr (by rwa [hsame])

theorem walks_completeRevocationAsHost (howns : Owns pid record hist s)
    (hstatus : record.status = .revocationPending ∨ record.status = .expirationPending) :
    Walks site pid call (completeRevocationAsHost site.env now record) hist s
      fun _ _ _ => True := by
  have hpending : record.status = .revocationPending ∨ record.status = .expirationPending ∨
      record.status = .revoked := by tauto
  refine Walks.bind (walks_removeAuthorization howns (.inl rfl) hpending)
    fun _ hist₁ s₁ _ ⟨hcalm₁, hremoved⟩ => ?_
  have howns₁ := hcalm₁.owns howns
  refine Walks.bind (walks_removePendingAuthorization howns₁ hpending hremoved)
    fun _ hist₂ s₂ _ ⟨hcalm₂, hremoved'⟩ => ?_
  refine Walks.bind walks_enforceSessions fun _ hist₃ s₃ _ ⟨hcalm₃, hgone⟩ => ?_
  refine Walks.bind (walks_of_uses uses_burnManagementToken) fun burned hist₄ s₄ _ hcalm₄ => ?_
  have hcalm := hcalm₂.trans (hcalm₃.trans hcalm₄)
  refine Walks.bind (walks_writeClientAtomic fun s' hrely => ?_) fun _ _ _ _ _ => walks_done trivial
  exact .finishRevocationAsHost ((hcalm.owns howns₁).of_relies hrely) hstatus
    (hcalm.did_recent hremoved)
    (hremoved'.imp_right fun h => (hcalm₃.trans hcalm₄).did_recent h) (hcalm₄.did_recent (hgone rfl))

theorem walks_revokeClientAsHostLocked (hheld : Held pid clientID hist s) :
    Walks site pid call (revokeClientAsHostLocked site.env clientID now) hist s
      fun _ _ _ => True := by
  refine Walks.bind (walks_loadKnownClient_held hheld)
    fun record hist₁ s₁ _ ⟨hid, howns⟩ => ?_
  split_ifs with hrevoked hlive
  · refine Walks.bind (walks_removeAuthorization howns (.inl rfl) (by simp [hrevoked]))
      fun _ hist₂ s₂ _ _ => ?_
    exact Walks.bind walks_enforceSessions fun _ _ _ _ _ => walks_done trivial
  · refine walks_refuse_bind fun _ => ?_
    refine Walks.bind (walks_writeClientAtomic fun s' hrely =>
      .beginRevocation (howns.of_relies hrely) hlive) fun _ hist₂ s₂ _ howns₂ => ?_
    exact walks_completeRevocationAsHost howns₂ (.inl rfl)
  · refine walks_refuse_bind fun hstatus => walks_completeRevocationAsHost howns ?_
    simp only [not_or] at hlive
    exact or_iff_not_imp_left.2 (by simpa [hlive.1, hlive.2] using hstatus)

theorem walks_revokeClientAsHost :
    Walks site pid call (revokeClientAsHost site.env clientID now) hist s fun _ _ _ => True := by
  refine Walks.bind walks_orNow fun now hist₁ s₁ _ _ => walks_refuse_bind fun _ => ?_
  exact walks_withClientLock fun _ _ hheld => walks_revokeClientAsHostLocked hheld

theorem walks_completePendingRevocation :
    Walks site pid call (completePendingRevocation site.env clientID now) hist s
      fun _ _ _ => True := by
  refine walks_withClientLock fun hist₁ s₁ hheld => ?_
  refine Walks.bind walks_loadClient fun record hist₂ s₂ _ ⟨hcalm, hget, _⟩ => ?_
  obtain ⟨-, howns⟩ := hheld.owns hcalm hget
  split_ifs
  · exact walks_done trivial
  · refine walks_refuse_bind fun hstatus => ?_
    exact walks_completeRevocation howns (.inl (by simpa using hstatus)) (.inr rfl)

/-! ## Rotation -/

section

variable {request : ManagementRequest} {line : AuthorizedLine}

theorem walks_replaceAuthorization {oldPublicKey : Text}
    (hguard : ReplacesKey site pid call hist s oldPublicKey line request record) :
    Walks site pid call (replaceAuthorization line oldPublicKey) hist s fun _ hist' s' =>
      Calmly pid hist s hist' s' ∧
        Did (recent record.clientID hist') (.replaceKey oldPublicKey line) true := by
  refine Walks.bind (walks_calm rfl fun _ s' hrely => ?_) ?_
  · exact ⟨request, record, { hguard with owns := hguard.owns.of_relies hrely }⟩
  · rintro ok hist' s' - ⟨hcalm, choice, s₁, rfl, -⟩
    refine walks_refuse fun hok => ⟨hcalm, ?_⟩
    cases ok with
    | true => exact did_recent_cons rfl
    | false => simp at hok

theorem walks_completeRotation (hrotation : call.rotation = some request)
    (howns : Owns pid record hist s) (hstatus : record.status = .rotationPending)
    (hpending : record.pendingPublicKey = trimSpace request.newPublicKey)
    (hvalid : validatePublicKeyLine (trimSpace request.newPublicKey) = .ok ())
    (hrendered : ∃ notAfter,
      renderAuthorizedKey site.env site.manifest request.newPublicKey notAfter = .ok line) :
    Walks site pid call (completeRotation site.env (trimSpace request.newPublicKey)
      (hashManagementToken site.env request.nextManagementToken) now (replaceAuthorization line)
      record) hist s fun _ _ _ => True := by
  refine Walks.bind (walks_replaceAuthorization
    ⟨hrotation, howns, hrendered, .inl ⟨hstatus, rfl, hpending⟩⟩)
    fun _ hist₁ s₁ _ ⟨hcalm, hreplaced⟩ => ?_
  refine Walks.bind (walks_writeClientAtomic fun s' hrely => ?_) fun _ _ _ _ _ => walks_done trivial
  refine .finishRotation ((hcalm.owns howns).of_relies hrely) hrotation hstatus hpending hvalid
    hreplaced ?_
  obtain ⟨notAfter, hline⟩ := hrendered
  rw [line_of_renderAuthorizedKeyForTarget hline, hpending, authorizedKeyBlob_trimSpace]

theorem walks_rotateClientPublicKeyLocked (hrotation : call.rotation = some request)
    (hheld : Held pid request.clientID hist s)
    (hvalid : validatePublicKeyLine (trimSpace request.newPublicKey) = .ok ())
    (hrendered : ∃ notAfter,
      renderAuthorizedKey site.env site.manifest request.newPublicKey notAfter = .ok line) :
    Walks site pid call (rotateClientPublicKeyLocked site.env request
      (trimSpace request.newPublicKey) now (replaceAuthorization line)) hist s
      fun _ _ _ => True := by
  refine Walks.bind (walks_loadKnownClient_held hheld)
    fun record hist₁ s₁ _ ⟨hid, howns⟩ => ?_
  refine walks_refuse_bind fun _ => ?_
  dsimp only
  split_ifs with hrepeated hactive
  · obtain ⟨hactive, hkey, -⟩ := hrepeated
    refine Walks.bind (walks_replaceAuthorization
      ⟨hrotation, howns, hrendered, .inr ⟨hactive, rfl, hkey⟩⟩) fun _ _ _ _ _ => walks_done trivial
  · refine walks_ofExcept_bind fun _ _ => walks_refuse_bind fun _ => walks_refuse_bind fun _ =>
      walks_refuse_bind fun _ => ?_
    refine Walks.bind (walks_writeClientAtomic fun s' hrely =>
      .beginRotation (howns.of_relies hrely) hrotation hactive hvalid)
      fun _ hist₂ s₂ _ howns₂ => ?_
    exact walks_completeRotation hrotation howns₂ rfl rfl hvalid hrendered
  · refine walks_ofExcept_bind fun _ _ => walks_refuse_bind fun _ => walks_refuse_bind fun hstatus =>
      walks_refuse_bind fun _ => walks_refuse_bind fun hretry => ?_
    have hpending : record.pendingPublicKey = trimSpace request.newPublicKey := by
      by_contra hne
      simp [hne] at hretry
    exact walks_completeRotation hrotation howns (by simpa [hactive] using hstatus) hpending
      hvalid hrendered

theorem walks_rotateHandler (hrotation : call.rotation = some request) :
    Walks site pid call (rotateHandler site.env site.manifest request now) hist s
      fun _ _ _ => True := by
  refine walks_refuse_bind fun _ => Walks.bind walks_loadClient fun existing hist₁ s₁ _ _ => ?_
  refine walks_ofExcept_bind fun notAfter _ => walks_ofExcept_bind fun line hline => ?_
  refine Walks.bind walks_orNow fun now hist₂ s₂ _ _ => walks_ofExcept_bind fun _ _ => ?_
  refine walks_ofExcept_bind fun _ hvalid => walks_refuse_bind fun _ => ?_
  exact walks_withClientLock fun _ _ hheld =>
    walks_rotateClientPublicKeyLocked hrotation hheld hvalid
      ⟨notAfter, mapError_eq_ok.1 hline⟩

end

/-! ## Expiry -/

section

variable {notAfter : Time}

theorem walks_executeExpire (howns : Owns pid record hist s)
    (hstatus : record.status = .expirationPending) :
    Walks site pid call (executeExpire site.env (expirePlan record notAfter now)) hist s
      fun _ hist' s' => Calmly pid hist s hist' s' ∧ Removed record record.publicKey hist' ∧
        VerifiedGone record hist' := by
  refine walks_ofExcept_bind fun _ _ => walks_ofExcept_bind fun _ _ => ?_
  refine Walks.bind (walks_removeAuthorization howns (.inl rfl) (by simp [hstatus])).mapError
    fun _ hist₁ s₁ _ ⟨hcalm₁, hremoved⟩ => ?_
  refine Walks.bind (walks_of_uses uses_terminateSession).mapError fun _ hist₂ s₂ _ hcalm₂ => ?_
  refine Walks.bind (walks_free rfl) fun lines hist₃ s₃ _ ⟨hcalm₃, _⟩ => ?_
  refine walks_ofExcept_bind fun _ _ => walks_ofExcept_bind fun _ _ => ?_
  refine Walks.bind walks_verifySessionGone.mapError fun _ hist₄ s₄ _ ⟨hcalm₄, hgone⟩ => ?_
  refine (walks_of_uses uses_burnManagementToken).mapError.mono fun _ hist₅ s₅ _ hcalm₅ => ?_
  have hcalm := hcalm₂.trans (hcalm₃.trans (hcalm₄.trans hcalm₅))
  exact ⟨hcalm₁.trans hcalm, hcalm.did_recent hremoved, hcalm₅.did_recent hgone⟩

theorem walks_completeExpiration (howns : Owns pid record hist s)
    (hstatus : record.status = .expirationPending) :
    Walks site pid call (completeExpiration site.env record notAfter now) hist s
      fun _ _ _ => True := by
  refine Walks.bind (walks_executeExpire howns hstatus)
    fun burned hist₁ s₁ _ ⟨hcalm, hremoved, hgone⟩ => ?_
  refine Walks.bind (walks_writeClientAtomic fun s' hrely => ?_) fun _ _ _ _ _ => walks_done trivial
  exact .finishExpiration ((hcalm.owns howns).of_relies hrely) hstatus hremoved hgone

theorem walks_expireClientLocked (hheld : Held pid clientID hist s) :
    Walks site pid call (expireClientLocked site.env clientID now) hist s fun _ _ _ => True := by
  refine Walks.bind (walks_loadKnownClient_held hheld)
    fun record hist₁ s₁ _ ⟨hid, howns⟩ => ?_
  split_ifs with hexpired hlive
  · exact walks_done trivial
  · refine walks_ofExcept_bind fun notAfter _ => walks_ofExcept_bind fun _ _ => ?_
    refine walks_ofExcept_bind fun _ _ => ?_
    refine Walks.bind (walks_writeClientAtomic fun s' hrely =>
      .beginExpiration (howns.of_relies hrely) hlive) fun _ hist₂ s₂ _ howns₂ => ?_
    exact walks_completeExpiration howns₂ rfl
  · refine walks_ofExcept_bind fun notAfter _ => walks_ofExcept_bind fun _ hplan => ?_
    have hstatus : record.status = .active ∨ record.status = .expirationPending ∨
        record.status = .rotationPending := status_of_validateExpirePlan hplan
    exact walks_completeExpiration howns (by tauto)

theorem walks_expireClient :
    Walks site pid call (expireClient site.env clientID now) hist s fun _ _ _ => True := by
  refine Walks.bind walks_orNow fun now hist₁ s₁ _ _ => walks_refuse_bind fun _ => ?_
  exact walks_withClientLock fun _ _ hheld => walks_expireClientLocked hheld

end

/-! ## Acceptance -/

section

variable {request : EnrollmentRequest} {client : ClientRecord}

theorem Installs.of_relies (h : Installs site pid call s request) (hrely : Relies pid s s') :
    Installs site pid call s' request :=
  ⟨h.enrollment, hrely.locks h.locked, hrely.carries h.carries⟩

theorem did_sinceLock_cons (hcalm : action.calm = true) :
    Did (sinceLock name (⟨action, choice, reply⟩ :: hist)) action reply := by
  have hmark : action.locks name = false := by
    cases hlocks : action.locks name with
    | false => rfl
    | true => simp [calm_of_locks hlocks] at hcalm
  simp only [sinceLock, since_cons, hmark]
  exact did_cons_self

theorem walks_installAuthorization (name : Lock)
    (hinstalls : Installs site pid call s request) (hkey : publicKey = trimSpace request.publicKey) :
    Walks site pid call (installAuthorization site.env site.manifest publicKey notAfter) hist s
      fun _ hist' s' => Calmly pid hist s hist' s' ∧ ∃ line,
        Did (sinceLock name hist') (.appendKey line) true ∧
          line.blob = authorizedKeyBlob publicKey := by
  refine Walks.bind (walks_calm rfl fun _ s' hrely => ⟨request, hinstalls.of_relies hrely, hkey⟩)
    fun _ hist₁ s₁ _ ⟨hcalm₁, _⟩ => ?_
  refine walks_ofExcept_bind fun line hline => ?_
  have hrendered := mapError_eq_ok.1 hline
  refine Walks.bind (walks_calm rfl fun _ s' hrely => ?_) ?_
  · exact ⟨request, notAfter, hinstalls.of_relies (hcalm₁.relies.trans hrely), hkey ▸ hrendered⟩
  · rintro ok hist₂ s₂ - ⟨hcalm₂, choice, s', rfl, -⟩
    refine walks_refuse fun hok => ⟨hcalm₁.trans hcalm₂, line, ?_, ?_⟩
    · cases ok with
      | true => exact did_sinceLock_cons rfl
      | false => simp at hok
    · rw [line_of_renderAuthorizedKeyForTarget hrendered]

theorem walks_storeClient (hguard : isHexID want.clientID = true → ∀ s', Relies pid s s' →
      StoresClient site pid call s' want) :
    Walks site pid call (storeClient want) hist s fun _ _ s' =>
      s'.clients.get want.clientID = some want := by
  refine walks_refuse_bind fun hhex => ?_
  have hhex : isHexID want.clientID = true := by
    by_contra hne
    simp [hne] at hhex
  intro s₁ (hrely : Relies pid s s₁) choice reply s₂ _
    (hperform : performAction site.env pid (.storeClient want) choice s₁ = some (reply, s₂))
  have hrely₂ : Relies pid s s₂ := by
    cases effect_of_perform hperform with
    | storeClient _ hnew => exact hrely.trans (.of_storeClient hnew)
    | kept hsame => exact hrely.trans (.of_clients hsame.clients fun _ h => by rwa [hsame.locks])
  refine ⟨hguard hhex s₁ hrely, ?_⟩
  cases reply with
  | stored =>
    refine ⟨hrely₂.toKeeps, fun _ _ => ?_⟩
    cases storeClient_stored hperform
    exact Directory.get_put_self
  | «exists» => exact ⟨hrely₂.toKeeps, fun _ heq => by cases heq⟩
  | failed => exact ⟨hrely₂.toKeeps, fun _ heq => by cases heq⟩

theorem fields_of_resumesPending {existing : ClientRecord}
    (h : resumesPending env existing want = true) :
    existing.inviteID = want.inviteID ∧ existing.publicKey = want.publicKey := by
  simp only [resumesPending, Bool.and_eq_true, decide_eq_true_eq] at h
  tauto

theorem walks_storeOrResumePendingClient
    (hguard : isHexID want.clientID = true → ∀ s', Relies pid s s' →
      StoresClient site pid call s' want) :
    Walks site pid call (storeOrResumePendingClient site.env want) hist s fun client _ s' =>
      s'.clients.get want.clientID = some client ∧ client.inviteID = want.inviteID ∧
        client.publicKey = want.publicKey := by
  refine Walks.bind ((walks_storeClient hguard).attempt fun _ _ _ _ h => h) ?_
  rintro (err | _) hist₁ s₁ - hstored
  · refine Walks.bind (walks_loadClient.attempt fun _ _ _ _ h => h) ?_
    rintro (err' | existing) hist₂ s₂ - hloaded
    · exact walks_fail
    · refine walks_refuse_bind fun hresumes => walks_done ⟨(hloaded existing rfl).2.1, ?_⟩
      exact fields_of_resumesPending (by simpa using hresumes)
  · exact walks_done ⟨hstored _ rfl, rfl, rfl⟩

theorem walks_activateClient (henrollment : call.enrollment = some request)
    (hlocked : s.locks (.invite client.inviteID) = some pid)
    (hstored : client.status = .enrollmentPending → s.clients.get client.clientID = some client)
    (hinvite : client.inviteID = request.inviteID)
    (hkey : client.publicKey = trimSpace request.publicKey)
    (happended : Did (sinceLock (.invite client.inviteID) hist) (.appendKey line) true)
    (hline : line.blob = authorizedKeyBlob client.publicKey) :
    Walks site pid call (activateClient client) hist s fun _ _ _ => True := by
  unfold activateClient
  split_ifs with hpending
  · refine walks_refuse_bind fun _ => walks_withLock fun choice s₁ hrely hclient => ?_
    refine Walks.bind walks_loadClient fun _ hist₂ s₂ _ ⟨hcalm, _⟩ => ?_
    have henrolls : Enrolls pid client s₁ := hrely.enrolls ⟨hlocked, hstored hpending, hpending⟩
    have howns : Owns pid client hist₂ s₂ :=
      hcalm.owns ⟨⟨hclient, henrolls.stored⟩, by simp [Action.asksFor]⟩
    refine (walks_writeClientAtomic fun s' hrely' => ?_).mono fun _ _ _ _ _ => trivial
    refine .activate (howns.of_relies hrely') (hrely'.enrolls (hcalm.relies.enrolls henrolls))
      henrollment hinvite hkey (hcalm.did_sinceLock ?_) hline
    rw [sinceLock, since_cons]
    exact happended.mono (by simp [Action.locks])
  · exact walks_done trivial

theorem uses_load : (load env inviteID).Uses fun action => action.free = true := by
  refine .bind Prog.uses_ofExcept fun _ => .bind ⟨rfl, fun _ => trivial⟩ fun read => ?_
  rcases read with record | _ | _
  · exact .bind Prog.uses_ofExcept fun _ => trivial
  · trivial
  · trivial

theorem uses_orNow : (orNow now).Uses fun action => action.free = true := by
  unfold orNow
  split_ifs
  · exact ⟨rfl, fun _ => trivial⟩
  · trivial

theorem uses_writeInvite {record : Record} :
    (writeInvite record).Uses fun action => action.free = true :=
  .bind ⟨rfl, fun _ => trivial⟩ fun _ => Prog.uses_ofExcept

theorem uses_consume :
    (consume env inviteID clientID now).Uses fun action => action.free = true := by
  refine .bind uses_load fun record => .bind Prog.uses_ofExcept fun _ => .bind uses_orNow fun now' => ?_
  cases inviteExpiry record with
  | none => trivial
  | some expires =>
    dsimp only
    split_ifs
    · exact .bind uses_writeInvite fun _ => trivial
    · exact .bind ⟨rfl, fun _ => trivial⟩ fun _ => trivial

theorem walks_acceptIssued {record : Record} (henrollment : call.enrollment = some input.request)
    (hinvite : record.inviteID = input.request.inviteID)
    (hvalid : validatePublicKeyLine input.request.publicKey = .ok ())
    (hlocked : s.locks (.invite input.request.inviteID) = some pid) :
    Walks site pid call (acceptIssued site.env input
      (installAuthorization site.env site.manifest) record published now) hist s
      fun _ _ _ => True := by
  refine walks_refuse_bind fun _ => walks_ofExcept_bind fun end_ _ => ?_
  refine Walks.bind (walks_storeOrResumePendingClient fun hhex s' hrely => ?_)
    fun client hist₁ s₁ hkeeps₁ ⟨hstored, hclient, hkey⟩ => ?_
  · exact ⟨⟨input.request, record, published, now, end_.2, henrollment, hinvite, hvalid, rfl⟩, hhex,
      by simpa [wantClient, hinvite] using hrely.locks hlocked⟩
  have hid : client.clientID = _ := Directory.key_of_get hstored
  have hclient' : client.inviteID = input.request.inviteID := hclient.trans hinvite
  have hlocked₁ := hkeeps₁.locks hlocked
  refine walks_ofExcept_bind fun notAfter _ => ?_
  have hinstalls : Installs site pid call s₁ input.request := by
    refine ⟨henrollment, hlocked₁, client, ?_, hclient'⟩
    rw [← hinvite]
    exact hstored
  refine Walks.bind (walks_installAuthorization (.invite client.inviteID) hinstalls rfl).mapError
    fun _ hist₂ s₂ _ ⟨hcalm₂, line, happended, hline⟩ => ?_
  have hlocked₁' : s₁.locks (.invite client.inviteID) = some pid := by rw [hclient', hlocked₁]
  refine Walks.bind (walks_activateClient henrollment (hcalm₂.relies.locks hlocked₁') ?_ hclient'
    hkey happended (by rw [hline, hkey]; rfl)) fun _ hist₃ s₃ _ _ => ?_
  · intro hpending
    exact (hcalm₂.relies.enrolls ⟨hlocked₁', by rw [hid]; exact hstored, hpending⟩).stored
  · exact Walks.bind (walks_of_uses uses_consume) fun _ _ _ _ _ => walks_done trivial

/-- A retry on a consumed invite installs while a record of the client is stored,
whatever its status has become since it was read. -/
theorem walks_resumeAcceptedEnrollment {invite : Record}
    (henrollment : call.enrollment = some input.request)
    (hinvite : invite.inviteID = input.request.inviteID)
    (hlocked : s.locks (.invite input.request.inviteID) = some pid)
    (hid : clientID = clientIDFor site.env input.request.inviteID
      (trimSpace input.request.publicKey)) :
    Walks site pid call (resumeAcceptedEnrollment site.env input
      (installAuthorization site.env site.manifest) invite clientID
      (trimSpace input.request.publicKey)) hist s fun _ _ _ => True := by
  refine walks_refuse_bind fun _ => ?_
  refine Walks.bind walks_loadClient.mapError
    fun client hist₁ s₁ hkeeps ⟨_, hget, _⟩ => walks_refuse_bind fun hresumes => ?_
  have hclient : client.inviteID = invite.inviteID := by
    simp only [resumesAccepted, Bool.not_eq_false', Bool.and_eq_true, decide_eq_true_eq] at hresumes
    tauto
  refine walks_ofExcept_bind fun notAfter _ => ?_
  have hinstalls : Installs site pid call s₁ input.request :=
    ⟨henrollment, hkeeps.locks hlocked, client, hid ▸ hget, hclient.trans hinvite⟩
  exact Walks.bind (walks_installAuthorization (.invite []) hinstalls rfl).mapError
    fun _ _ _ _ _ => walks_done trivial

theorem walks_acceptLocked (henrollment : call.enrollment = some input.request)
    (hvalid : validatePublicKeyLine input.request.publicKey = .ok ())
    (hlocked : s.locks (.invite input.request.inviteID) = some pid) :
    Walks site pid call (acceptLocked site.env input
      (installAuthorization site.env site.manifest) published now) hist s fun _ _ _ => True := by
  refine Walks.bind walks_load.mapError fun record hist₁ s₁ hkeeps ⟨_, hinvite⟩ => ?_
  refine walks_ofExcept_bind fun _ _ => walks_refuse_bind fun _ => ?_
  dsimp only
  split_ifs with hconsumed
  · exact walks_resumeAcceptedEnrollment henrollment hinvite (hkeeps.locks hlocked) (by rw [hinvite])
  · refine walks_ofExcept_bind fun _ _ => ?_
    cases inviteExpiry record with
    | none => exact walks_fail
    | some expires =>
      dsimp only
      split_ifs
      · exact walks_acceptIssued henrollment hinvite hvalid (hkeeps.locks hlocked)
      · exact Walks.bind (walks_free rfl) fun _ _ _ _ _ => walks_fail

theorem validatePublicKeyLine_of_checkAcceptInput (h : checkAcceptInput env input = .ok published) :
    validatePublicKeyLine input.request.publicKey = .ok () := by
  simp only [checkAcceptInput, validateEnrollmentRequest, except_bind_eq_ok] at h
  obtain ⟨_, ⟨-, -, -, -, -, -, -, -, -, -, -, -, -, -, -, -, hvalid⟩, -⟩ := h
  exact hvalid

theorem walks_accept (henrollment : call.enrollment = some input.request) :
    Walks site pid call (accept site.env input (installAuthorization site.env site.manifest)) hist s
      fun _ _ _ => True := by
  refine walks_ofExcept_bind fun _ hcheck => Walks.bind walks_orNow fun now hist₁ s₁ _ _ => ?_
  have hvalid := validatePublicKeyLine_of_checkAcceptInput hcheck
  exact walks_withLock fun _ s₂ _ hlocked => walks_acceptLocked henrollment hvalid hlocked

end

/-! ## Loops -/

section

variable {ι : Type}

theorem walks_fold {step : β → ι → HostProg β} {I : List ι → β → List HostStep → Host → Prop}
    {items : List ι} (hstep : ∀ done item value hist s, item ∈ items → I done value hist s →
      Walks site pid call (step value item) hist s (I (done ++ [item])))
    (done : List ι) {value : β} (h : I done value hist s) :
    Walks site pid call (Prog.fold step items value) hist s (I (done ++ items)) := by
  induction items generalizing done value hist s with
  | nil => exact walks_done (by simpa using h)
  | cons item items ih =>
    refine Walks.bind (hstep done item value hist s List.mem_cons_self h)
      fun value' hist' s' _ h' => ?_
    have hrest := ih (fun done item value hist s hmem => hstep done item value hist s
      (List.mem_cons_of_mem _ hmem)) _ h'
    simpa using hrest

theorem walks_fold_free {step : β → ι → HostProg β} {items : List ι} {value : β}
    (hstep : ∀ item value hist s, Walks site pid call (step value item) hist s fun _ _ _ => True) :
    Walks site pid call (Prog.fold step items value) hist s fun _ _ _ => True :=
  walks_fold (I := fun _ _ _ _ => True) (fun _ item value hist s _ _ => hstep item value hist s) []
    trivial

theorem uses_joinErrors : (joinErrors errs).Uses fun action => action.free = true := by
  cases errs <;> trivial

theorem walks_collectError {α : Type} {body : HostProg α}
    (hbody : Walks site pid call body hist s fun _ _ _ => True) :
    Walks site pid call (collectError clientID errs body) hist s fun _ _ _ => True := by
  refine Walks.bind (hbody.attempt fun _ _ _ _ _ => trivial) ?_
  rintro (err | _) hist' s' - -
  · exact walks_done trivial
  · exact walks_done trivial

/-- Every name in the listing is read, and every record returned was read under its
name. -/
theorem walks_collect_loadClient {names : List Text} :
    Walks site pid call (Prog.collect loadClient names) hist s fun records hist' s' =>
      Calmly pid hist s hist' s' ∧
        (∀ record ∈ records, ∀ lock, Did (sinceLock lock hist')
          (.readClient record.clientID) (.found record)) ∧
        ∀ name ∈ names, ∃ record ∈ records, record.clientID = name := by
  induction names generalizing hist s with
  | nil => exact walks_done ⟨.refl, by simp, by simp⟩
  | cons name names ih =>
    refine Walks.bind walks_loadClient fun record hist₁ s₁ _ ⟨hcalm₁, hget, choice, hhist⟩ => ?_
    refine Walks.bind ih fun records hist₂ s₂ _ ⟨hcalm₂, hread, hnames⟩ => ?_
    have hid : record.clientID = name := Directory.key_of_get hget
    refine walks_done ⟨hcalm₁.trans hcalm₂, ?_, ?_⟩
    · intro other hother lock
      rcases List.mem_cons.1 hother with rfl | hother
      · refine hcalm₂.did_sinceLock ?_
        rw [hhist, hid]
        exact did_sinceLock_cons rfl
      · exact hread other hother lock
    · intro other hother
      rcases List.mem_cons.1 hother with rfl | hother
      · exact ⟨record, List.mem_cons_self, hid⟩
      · obtain ⟨found, hfound, hfoundID⟩ := hnames other hother
        exact ⟨found, List.mem_cons_of_mem _ hfound, hfoundID⟩

theorem walks_listClients : Walks site pid call listClients hist s fun records hist' s' =>
      Calmly pid hist s hist' s' ∧
        (∀ record ∈ records, ∀ lock, Did (sinceLock lock hist')
          (.readClient record.clientID) (.found record)) ∧
        ∃ names, (∀ lock, Did (sinceLock lock hist') .listClients (some names)) ∧
          ∀ name ∈ names, isHexID name = true → ∃ record ∈ records, record.clientID = name := by
  refine Walks.bind (walks_free rfl) ?_
  rintro (_ | names) hist₁ s₁ - ⟨hcalm₁, choice, s', rfl, -⟩
  · exact walks_fail
  · refine walks_collect_loadClient.mono fun records hist₂ s₂ _ ⟨hcalm₂, hread, hnames⟩ => ?_
    refine ⟨hcalm₁.trans hcalm₂, hread, names, fun lock => ?_, fun name hname hhex => ?_⟩
    · exact hcalm₂.did_sinceLock (did_sinceLock_cons rfl)
    · exact hnames name (List.mem_filter.2 ⟨hname, hhex⟩)

theorem walks_reconcilePendingRevocations :
    Walks site pid call (reconcilePendingRevocations site.env now) hist s fun _ _ _ => True := by
  refine Walks.bind walks_listClients fun records hist₁ s₁ _ _ => ?_
  refine Walks.bind (walks_fold_free fun record errs hist s => ?_) fun errs _ _ _ _ => ?_
  · split_ifs
    · exact walks_done trivial
    · exact walks_collectError walks_completePendingRevocation
  · exact (walks_of_uses uses_joinErrors).mono fun _ _ _ _ _ => trivial

theorem walks_reconcileExpiredClients :
    Walks site pid call (reconcileExpiredClients site.env now) hist s fun _ _ _ => True := by
  refine Walks.bind walks_listClients fun records hist₁ s₁ _ _ => ?_
  refine Walks.bind (walks_fold_free fun record errs hist s => ?_) fun errs _ _ _ _ => ?_
  · split_ifs
    · exact walks_done trivial
    · exact walks_done trivial
    · refine walks_ofExcept_bind fun notAfter _ => ?_
      split_ifs
      · exact walks_done trivial
      · exact walks_collectError walks_expireClient
  · exact (walks_of_uses uses_joinErrors).mono fun _ _ _ _ _ => trivial

theorem walks_reconcileExpiredGrants :
    Walks site pid call (reconcileExpiredGrants site.env now) hist s fun _ _ _ => True :=
  Walks.bind walks_reconcilePendingRevocations fun _ _ _ _ _ => walks_reconcileExpiredClients

end

/-! ## Rebuilding the authorization file -/

/-- The lines collected so far are those of the live records done so far that were
found unexpired. -/
structure Collected (site : Site) (hist : List HostStep) (records : List ClientRecord)
    (lines : List AuthorizedLine) : Prop where
  nodup : (lines.map AuthorizedLine.blob).Nodup
  sound : ∀ line ∈ lines, ∃ record ∈ records, ∃ notAfter now, Live record ∧
    record.authorizationNotAfter = .at notAfter ∧ Did hist .now now ∧
      readyToExpire notAfter now = false ∧
      managedLine site.env site.manifest record notAfter = .ok line
  complete : ∀ record ∈ records, ∀ notAfter, Live record →
    record.authorizationNotAfter = .at notAfter →
      (∃ now, Did hist .now now ∧ readyToExpire notAfter now = true) ∨
        ∃ line ∈ lines, line.blob = authorizedKeyBlob record.publicKey

section

variable (h : Collected site hist records lines)
  (hmono : ∀ {action : Action} {reply : action.Reply}, Did hist action reply → Did hist' action reply)
include h hmono

theorem Collected.skip
    (hrecord : ∀ notAfter, Live record → record.authorizationNotAfter = .at notAfter →
      (∃ now, Did hist' .now now ∧ readyToExpire notAfter now = true) ∨
        ∃ line ∈ lines, line.blob = authorizedKeyBlob record.publicKey) :
    Collected site hist' (records ++ [record]) lines := by
  refine ⟨h.nodup, ?_, ?_⟩
  · intro line hline
    obtain ⟨other, hother, notAfter, now, hlive, hend, hnow, hrest⟩ := h.sound line hline
    exact ⟨other, List.mem_append_left _ hother, notAfter, now, hlive, hend, hmono hnow, hrest⟩
  · intro other hother notAfter hlive hend
    rcases List.mem_append.1 hother with hother | hother
    · exact (h.complete other hother notAfter hlive hend).imp_left
        fun ⟨now, hnow, hready⟩ => ⟨now, hmono hnow, hready⟩
    · rw [List.mem_singleton.1 hother] at hlive hend ⊢
      exact hrecord notAfter hlive hend

theorem Collected.add (hlive : Live record) (hend : record.authorizationNotAfter = .at notAfter)
    (hnow : Did hist' .now now) (hready : readyToExpire notAfter now = false)
    (hline : managedLine site.env site.manifest record notAfter = .ok line)
    (hblob : line.blob = authorizedKeyBlob record.publicKey)
    (hnew : ∀ existing ∈ lines, existing.blob ≠ line.blob) :
    Collected site hist' (records ++ [record]) (lines ++ [line]) := by
  refine ⟨?_, ?_, ?_⟩
  · rw [List.map_append, List.nodup_append]
    refine ⟨h.nodup, by simp, ?_⟩
    simp only [List.mem_map, List.map_cons, List.map_nil, List.mem_singleton]
    rintro _ ⟨existing, hexisting, rfl⟩ _ rfl
    exact hnew existing hexisting
  · intro other hother
    rcases List.mem_append.1 hother with hother | hother
    · obtain ⟨source, hsource, notAfter', now', hlive', hend', hnow', hrest⟩ := h.sound other hother
      exact ⟨source, List.mem_append_left _ hsource, notAfter', now', hlive', hend', hmono hnow',
        hrest⟩
    · rw [List.mem_singleton.1 hother]
      exact ⟨record, by simp, notAfter, now, hlive, hend, hnow, hready, hline⟩
  · intro other hother notAfter' hlive' hend'
    rcases List.mem_append.1 hother with hother | hother
    · rcases h.complete other hother notAfter' hlive' hend' with ⟨now', hnow', hready'⟩ | hshown
      · exact .inl ⟨now', hmono hnow', hready'⟩
      · obtain ⟨existing, hexisting, heq⟩ := hshown
        exact .inr ⟨existing, List.mem_append_left _ hexisting, heq⟩
    · rw [List.mem_singleton.1 hother]
      exact .inr ⟨line, by simp, hblob⟩

end

/-- A managed line carries the blob of the public key of its record, which is not empty. -/
theorem blob_of_managedLine {manifest : Manifest}
    (h : managedLine env manifest record notAfter = .ok line) :
    line.blob ≠ [] ∧ line.blob = authorizedKeyBlob record.publicKey := by
  simp only [managedLine, except_bind_eq_ok, mapError_eq_ok] at h
  obtain ⟨target, -, -, -, hrender⟩ := h
  obtain ⟨hblob, rfl⟩ := renderAuthorizedKeyForTarget_eq_ok hrender
  exact ⟨hblob, rfl⟩

theorem at_of_parseUTC {stamp : Stamp} {t : Time} (h : stamp.parseUTC = .ok t) : stamp = .at t := by
  cases stamp <;> simp_all [Stamp.parseUTC]

theorem walks_reconcileRecord {lock : Lock}
    (h : Collected site (sinceLock lock hist) records lines) :
    Walks site pid call (reconcileRecord site.env site.manifest lines record) hist s
      fun lines' hist' s' => Calmly pid hist s hist' s' ∧
        Collected site (sinceLock lock hist') (records ++ [record]) lines' := by
  unfold reconcileRecord
  split_ifs with hlive hempty
  · refine walks_done ⟨.refl, h.skip id fun notAfter _ hend => ?_⟩
    simp [hempty] at hend
  · refine walks_ofExcept_bind fun notAfter hparse => ?_
    have hend := at_of_parseUTC (mapError_eq_ok.1 hparse)
    refine Walks.bind (walks_free rfl) ?_
    rintro now hist₁ s₁ - ⟨hcalm, choice, s', rfl, -⟩
    have hnow : Did (sinceLock lock (⟨.now, choice, now⟩ :: hist)) .now now := did_sinceLock_cons rfl
    split_ifs with hready
    · refine walks_done ⟨hcalm, h.skip (fun hdid => hcalm.did_sinceLock hdid) ?_⟩
      intro notAfter' _ hend'
      rw [hend, Stamp.at.injEq] at hend'
      exact .inl ⟨now, hnow, hend' ▸ hready⟩
    · refine walks_ofExcept_bind fun line hline => ?_
      obtain ⟨-, hblob⟩ := blob_of_managedLine hline
      split_ifs with hpresent
      · refine walks_done ⟨hcalm, h.skip (fun hdid => hcalm.did_sinceLock hdid) fun _ _ _ => ?_⟩
        obtain ⟨existing, hmem, heq⟩ := List.any_eq_true.1 hpresent
        exact .inr ⟨existing, hmem, (of_decide_eq_true heq).trans hblob⟩
      · refine walks_done ⟨hcalm, h.add (fun hdid => hcalm.did_sinceLock hdid) hlive hend hnow
          (by simpa using hready) hline hblob ?_⟩
        intro existing hmem heq
        exact hpresent (List.any_eq_true.2 ⟨existing, hmem, decide_eq_true heq⟩)
  · exact walks_done ⟨.refl, h.skip id fun _ hlive' _ => absurd hlive' hlive⟩

theorem walks_reconcileManagedAuthorizations (hrebuilds : call.rebuilds = true) :
    Walks site pid call (reconcileManagedAuthorizations site.env site.manifest) hist s
      fun _ _ _ => True := by
  refine walks_withLock fun choice s₁ _ hlocked => ?_
  refine Walks.bind walks_listClients
    fun records hist₂ s₂ hkeeps₂ ⟨hcalm₂, hread, names, hnames, hfound⟩ => ?_
  refine Walks.bind (walks_fold
    (I := fun records lines hist' s' => Calmly pid hist₂ s₂ hist' s' ∧
      Collected site (sinceLock .authorizedKeys hist') records lines)
    (fun done record lines hist' s' _ h => ?_) [] ⟨.refl, by simp, by simp, by simp⟩)
    fun lines hist₃ s₃ hkeeps₃ ⟨hcalm₃, hcollected⟩ => ?_
  · exact (walks_reconcileRecord h.2).mono fun _ _ _ _ h' => ⟨h.1.trans h'.1, h'.2⟩
  · refine Walks.bind (walks_calm rfl fun _ s' hrely => ⟨hrebuilds, .inr ⟨?_, ?_⟩⟩)
      fun _ _ _ _ _ => walks_refuse fun _ => trivial
    · exact hrely.locks (hcalm₃.relies.locks (hcalm₂.relies.locks hlocked))
    · refine ⟨hcollected.nodup, ?_, names, hcalm₃.did_sinceLock (hnames _), ?_⟩
      · intro line hline
        obtain ⟨record, hrecord, notAfter, now, hlive, hend, hnow, hrest⟩ :=
          hcollected.sound line hline
        exact ⟨record, notAfter, now, hcalm₃.did_sinceLock (hread record hrecord _), hlive, hend,
          hnow, hrest⟩
      · intro name hname hhex
        obtain ⟨record, hrecord, rfl⟩ := hfound name hname hhex
        exact ⟨record, hcalm₃.did_sinceLock (hread record hrecord _), hcollected.complete record
          hrecord⟩

/-! ## The calls -/

theorem walks_ignore {α : Type} {program : HostProg α}
    (h : Walks site pid call program hist s fun _ _ _ => True) :
    Walks site pid call (ignore program) hist s fun _ _ _ => True :=
  Walks.bind h fun _ _ _ _ _ => walks_done trivial

theorem walks_of_uses' {α : Type} {program : HostProg α}
    (h : program.Uses fun action => action.free = true) :
    Walks site pid call program hist s fun _ _ _ => True :=
  (walks_of_uses h).mono fun _ _ _ _ _ => trivial

theorem walks_cancel :
    Walks site pid call (cancel site.env inviteID now) hist s fun _ _ _ => True := by
  refine walks_withLock fun _ s₁ _ _ => walks_of_uses' (.bind uses_load fun record => ?_)
  split_ifs
  · trivial
  · refine .bind Prog.uses_ofExcept fun _ => .bind uses_orNow fun now => ?_
    exact .bind uses_writeInvite fun _ => trivial

theorem uses_revoke : (revoke env inviteID now).Uses fun action => action.free = true := by
  refine .bind uses_load fun record => ?_
  split_ifs
  · trivial
  · refine .bind Prog.uses_ofExcept fun _ => .bind uses_orNow fun now => ?_
    exact .bind uses_writeInvite fun _ => trivial

theorem uses_list : (list env).Uses fun action => action.free = true := by
  refine .bind ⟨rfl, fun _ => trivial⟩ fun names => ?_
  cases names with
  | none => trivial
  | some names => exact .collect (fun _ => uses_load) _

theorem uses_unusedIssuedForGeneration {generation : Nat} :
    (unusedIssuedForGeneration env generation now).Uses fun action => action.free = true := by
  refine .bind uses_orNow fun now => .bind uses_list fun records => .fold (fun issued record => ?_) _ _
  split_ifs
  · trivial
  · exact .bind ⟨rfl, fun _ => trivial⟩ fun _ => trivial
  · trivial

theorem walks_serverRevoke {id : Text} :
    Walks site pid call (serverRevoke site.env id now) hist s fun _ _ _ => True := by
  refine walks_refuse_bind fun _ => Walks.bind ((walks_of_uses uses_load).attempt
    fun _ _ _ _ _ => trivial) ?_
  rintro (err | record) hist₁ s₁ - -
  · dsimp only
    split_ifs
    · exact walks_fail
    · refine Walks.bind (walks_loadClient.attempt fun _ _ _ _ _ => trivial) ?_
      rintro (err | _) hist₂ s₂ - -
      · dsimp only
        split_ifs <;> exact walks_fail
      · exact Walks.bind walks_revokeClientAsHost fun _ _ _ _ _ => walks_done trivial
  · dsimp only
    split_ifs
    · exact Walks.bind walks_cancel fun _ _ _ _ _ => walks_done trivial
    · refine walks_refuse_bind fun _ => Walks.bind walks_revokeClientAsHost fun _ _ _ _ _ => ?_
      exact Walks.bind (walks_of_uses' uses_revoke) fun _ _ _ _ _ => walks_done trivial

theorem uses_recordObservation {observed : Option Stamp} :
    (recordObservation observed now).Uses fun action => action.free = true := by
  refine .bind Prog.uses_ofExcept fun advances => ?_
  split_ifs
  · refine .bind Prog.uses_ofExcept fun _ => .bind ⟨rfl, fun _ => trivial⟩ fun _ => ?_
    exact Prog.uses_ofExcept
  · trivial

theorem uses_observeClock : (observeClock now).Uses fun action => action.free = true := by
  refine .bind Prog.uses_ofExcept fun _ => .bind ⟨rfl, fun _ => trivial⟩ fun read => ?_
  rcases read with stamp | _ | _
  · exact uses_recordObservation
  · exact uses_recordObservation
  · trivial

theorem walks_enterBlockedClock {reason : Err} (hrebuilds : call.rebuilds = true)
    (hblocks : call.entersBlocked = true) :
    Walks site pid call (enterBlockedClock reason) hist s fun _ _ _ => True := by
  refine Walks.bind (walks_free rfl) fun _ _ _ _ _ => walks_refuse_bind fun _ => ?_
  refine Walks.bind (walks_calm rfl fun _ _ _ => ⟨hrebuilds, .inl ⟨hblocks, rfl⟩⟩) fun _ _ _ _ _ =>
    walks_refuse_bind fun _ => ?_
  exact Walks.bind (walks_free rfl) fun _ _ _ _ _ => walks_ofExcept_bind fun _ _ => walks_fail

theorem walks_observeClock_attempt :
    Walks site pid call (observeClock now).attempt hist s fun _ _ _ => True :=
  walks_of_uses' uses_observeClock.attempt

section

variable (hrebuilds : call.rebuilds = true)
include hrebuilds

theorem walks_reconcileDue :
    Walks site pid call (reconcileDue site.env site.manifest now records) hist s
      fun _ _ _ => True := by
  unfold reconcileDue
  split_ifs
  · exact walks_done trivial
  · refine Walks.bind (walks_reconcileExpiredGrants.attempt fun _ _ _ _ _ => trivial)
      fun _ _ _ _ _ => ?_
    exact Walks.bind ((walks_reconcileManagedAuthorizations hrebuilds).attempt
      fun _ _ _ _ _ => trivial) fun _ _ _ _ _ => walks_done trivial

theorem walks_reconcileTick (hblocks : call.entersBlocked = true) :
    Walks site pid call (reconcileTick site.env site.manifest now) hist s fun _ _ _ => True := by
  refine Walks.bind walks_observeClock_attempt ?_
  rintro (err | _) hist₁ s₁ - -
  · exact Walks.bind ((walks_enterBlockedClock hrebuilds hblocks).attempt fun _ _ _ _ _ => trivial)
      fun _ _ _ _ _ => walks_done trivial
  · refine Walks.bind (walks_listClients.attempt fun _ _ _ _ _ => trivial) ?_
    rintro (err | records) hist₂ s₂ - - <;> exact walks_reconcileDue hrebuilds

/-- The two reconcilers, as the start of a listener and `warptweet host` run them. -/
theorem walks_reconcilers {g : Err → Err} :
    Walks site pid call (((reconcileExpiredGrants site.env now).mapError f).bind fun _ =>
      (reconcileManagedAuthorizations site.env site.manifest).mapError g) hist s
      fun _ _ _ => True :=
  Walks.bind walks_reconcileExpiredGrants.mapError fun _ _ _ _ _ =>
    (walks_reconcileManagedAuthorizations hrebuilds).mapError

theorem walks_startListener (hblocks : call.entersBlocked = true) :
    Walks site pid call (startListener site.env site.manifest now) hist s fun _ _ _ => True := by
  refine Walks.bind (walks_free rfl) fun _ _ _ _ _ => walks_refuse_bind fun _ => ?_
  refine Walks.bind walks_observeClock_attempt ?_
  rintro (err | _) hist₁ s₁ - -
  · exact walks_enterBlockedClock hrebuilds hblocks
  · exact walks_reconcilers hrebuilds

theorem walks_hostCommand (hblocks : call.entersBlocked = true) :
    Walks site pid call (hostCommand site.env site.manifest now) hist s fun _ _ _ => True := by
  refine walks_withLock fun _ s₁ _ _ => ?_
  refine Walks.bind (walks_free rfl) fun _ _ _ _ _ => walks_refuse_bind fun _ => ?_
  refine Walks.bind walks_observeClock_attempt ?_
  rintro (err | _) hist₁ s₁ - -
  · exact walks_enterBlockedClock hrebuilds hblocks
  · exact Walks.bind (walks_of_uses' uses_unusedIssuedForGeneration) fun _ _ _ _ _ =>
      walks_reconcilers hrebuilds

theorem walks_clockRecover (hrecovers : call.recovers = true) :
    Walks site pid call (clockRecover site.env site.manifest now) hist s fun _ _ _ => True := by
  refine Walks.bind (walks_of_uses' uses_observeClock).mapError fun _ _ _ _ _ => ?_
  refine Walks.bind (walks_reconcileManagedAuthorizations hrebuilds).mapError fun _ _ _ _ _ => ?_
  exact Walks.bind (walks_calm rfl fun _ _ _ => hrecovers) fun _ _ _ _ _ => walks_refuse fun _ => trivial

end

theorem walks_acceptAndAuthorize {hostPublicKey : Text} {request : EnrollmentRequest}
    (henrollment : call.enrollment = some request) :
    Walks site pid call (acceptAndAuthorize site.env site.manifest hostPublicKey request now) hist s
      fun _ _ _ => True := by
  refine walks_withLock fun _ s₁ _ _ => ?_
  refine Walks.bind (walks_free rfl) fun _ _ _ _ _ => walks_refuse_bind fun _ => ?_
  exact Walks.bind (walks_accept henrollment) fun _ _ _ _ _ => walks_done trivial

theorem walks_manageRotate (hrotation : call.rotation = some request) :
    Walks site pid call (manageRotate site.env site.manifest request now) hist s
      fun _ _ _ => True := by
  refine Walks.bind (walks_rotateHandler hrotation) fun rotated _ _ _ _ => ?_
  refine walks_of_uses' (.bind (.attempt ?_) fun _ => trivial)
  unfold evictPreviousKeySessions
  split_ifs
  · trivial
  · exact .bind uses_terminateSession fun _ => uses_verifySessionGone

theorem walks_manageRevoke (hdefers : call.defersEviction = true) :
    Walks site pid call (manageRevoke site.env request now) hist s fun _ _ _ => True := by
  refine Walks.bind (walks_revokeClient (.inl hdefers)) fun revoked _ _ _ _ => ?_
  refine walks_of_uses' (.bind uses_terminateSession.attempt fun _ => ?_)
  exact .bind uses_verifySessionGone.attempt fun _ => trivial

theorem uses_releaseGrant : (releaseGrant connectionID).Uses fun action => action.free = true :=
  .bind ⟨rfl, fun _ => trivial⟩ fun _ => ⟨rfl, fun _ => trivial⟩

theorem uses_handleUserauth {keyBlob : Text} :
    (handleUserauth env connectionID keyBlob).Uses fun action => action.free = true := by
  refine .bind ⟨rfl, fun _ => trivial⟩ fun lines => .bind Prog.uses_ofExcept fun _ => ?_
  refine .bind ⟨rfl, fun _ => trivial⟩ fun verified => .bind Prog.uses_ofExcept fun _ => ?_
  refine .bind ⟨rfl, fun _ => trivial⟩ fun _ => .bind ⟨rfl, fun _ => trivial⟩ fun registered => ?_
  rcases registered with err | _
  · exact .bind uses_releaseGrant fun _ => trivial
  · refine .bind ⟨rfl, fun _ => trivial⟩ fun _ => .bind ⟨rfl, fun _ => trivial⟩ fun sent => ?_
    split_ifs
    · trivial
    · exact .bind uses_releaseGrant fun _ => trivial

theorem walks_callProgram (site : Site) (pid : ℕ) (call : Call) (hist : List HostStep) (s : Host) :
    Walks site pid call (callProgram site call) hist s fun _ _ _ => True := by
  cases call with
  | accept input => exact walks_ignore (walks_accept rfl)
  | enroll request now => exact walks_ignore (walks_acceptAndAuthorize rfl)
  | cancel inviteID now => exact walks_ignore walks_cancel
  | revokeInvite inviteID now => exact walks_ignore (walks_of_uses' uses_revoke)
  | unusedIssued generation now =>
    exact walks_withLock fun _ _ _ _ =>
      walks_ignore (walks_of_uses' uses_unusedIssuedForGeneration)
  | serverRevoke id now => exact walks_serverRevoke
  | revokeClient request now enforced =>
    exact walks_ignore (walks_revokeClient (by cases enforced <;> simp [Call.defersEviction]))
  | revokeClientAsHost clientID now => exact walks_ignore walks_revokeClientAsHost
  | rotate request now => exact walks_ignore (walks_rotateHandler rfl)
  | manageRotate request now => exact walks_manageRotate rfl
  | manageRevoke request now => exact walks_manageRevoke rfl
  | expireClient clientID now => exact walks_ignore walks_expireClient
  | reconcilePendingRevocations now => exact walks_reconcilePendingRevocations
  | reconcileExpiredClients now => exact walks_reconcileExpiredClients
  | reconcileExpiredGrants now => exact walks_reconcileExpiredGrants
  | reconcileManaged => exact walks_reconcileManagedAuthorizations rfl
  | reconcileTick now => exact walks_reconcileTick rfl rfl
  | startListener now => exact walks_startListener rfl rfl
  | hostCommand now => exact walks_hostCommand rfl rfl
  | clockRecover now => exact walks_clockRecover rfl rfl
  | login connectionID keyBlob => exact walks_of_uses' uses_handleUserauth

/-- Invariants of a host: a property of pools that holds at the start, and that
starting a call, a guarded action and the end of a process keep under the discipline,
holds in every pool a run of the discipline reaches. -/
theorem run_invariant {c : Pool} {I : Pool → Prop}
    (hrun : Run (hostMachine site) D (Config.idle s) c) (h₀ : I (Config.idle s))
    (hstart : ∀ {c pid call}, Run (hostMachine site) D (Config.idle s) c → I c →
      D c (.start pid call) → c.procs pid = none → I (c.started (hostMachine site) pid call))
    (hadvance : ∀ {c pid process action rest choice reply state},
      Run (hostMachine site) D (Config.idle s) c → I c →
      D c (.advance pid choice) → c.procs pid = some process →
      process.prog = .act action rest →
      Guard site pid process.call process.hist action choice c.state →
      performAction site.env pid action choice c.state = some (reply, state) →
      Run (hostMachine site) D (Config.idle s)
        (c.advanced pid process ⟨action, choice, reply⟩ (rest reply) state) →
      I (c.advanced pid process ⟨action, choice, reply⟩ (rest reply) state))
    (hstop : ∀ {c pid process}, Run (hostMachine site) D (Config.idle s) c → I c →
      D c (.stop pid) → c.procs pid = some process → I (c.stopped (hostMachine site) pid)) :
    I c := by
  refine (Run.invariant (P := grantProtocol site) hrun h₀ ?_ ?_ hstart hadvance hstop).1
  · intro c pid call _ _ _
    exact (walks_callProgram site pid call [] c.state).guarded
  · intros
    trivial

/-- In every run from a host on which the lock is free, it is held by a process in
flight. -/
theorem inFlight_of_locked {c : Pool}
    (hrun : Run (hostMachine site) D (Config.idle s) c) (hfree : s.locks name = none)
    (hlocked : c.state.locks name = some pid) : c.procs pid ≠ none := by
  have hall : ∀ pid, c.state.locks name = some pid → c.procs pid ≠ none := by
    refine run_invariant (I := fun c => ∀ pid, c.state.locks name = some pid → c.procs pid ≠ none)
      hrun ?_ ?_ ?_ ?_
    · intro pid hlocked
      simp [Config.idle, hfree] at hlocked
    · intro c pid call _ h _ _ holder hlocked
      by_cases hpid : holder = pid
      · simp [Config.started, hpid]
      · simpa [Config.started, Function.update_of_ne hpid] using h holder hlocked
    · intro c pid process action rest choice reply state _ h _ _ _ _ hperform _ holder hlocked
      by_cases hpid : holder = pid
      · simp [Config.advanced, hpid]
      · rcases (effect_of_perform hperform).locks hlocked with hbefore | ⟨heq, -⟩
        · simpa [Config.advanced, Function.update_of_ne hpid] using h holder hbefore
        · exact absurd heq hpid
    · intro c pid process _ h _ _ holder hlocked
      simp only [Config.stopped, hostMachine, releaseLocks] at hlocked
      split_ifs at hlocked with hown
      have hpid : holder ≠ pid := by
        rintro rfl
        exact hown hlocked
      simpa [Config.stopped, Function.update_of_ne hpid] using h holder hlocked
  exact hall pid hlocked

end WarpTweet
