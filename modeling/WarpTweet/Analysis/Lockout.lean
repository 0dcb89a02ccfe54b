import WarpTweet.Analysis.TokenAgreement

/-!
# Lockout by rotation

The tunnel, and with it the only channel of a retry, logs in with the key of the client's
active generation. The host swaps the line of that key for the new one before it answers,
and the client activates the new generation only after the answer. This module shows what
this means: as long as the host has not swapped out the active key the client can log in,
and the swap takes the login away at once, whether or not the answer ever arrives.
-/

namespace WarpTweet

open Strings Concurrency Storage

/-! ## Logging in -/

/-- Session registration accepts the digest at the given time. -/
def Registers (env : Env) (now : Time) (keyDigest : Text) (host : Host) : Prop :=
  ∀ connectionID, (registerSession env connectionID keyDigest { time := now } host).1 = .ok ()

/-- The key has a line in the authorization file, and session registration accepts it. -/
def LogsIn (env : Env) (now : Time) (host : Host) (publicKey : Text) : Prop :=
  (∃ line ∈ host.authorizedKeys, line.blob = authorizedKeyBlob publicKey) ∧
  ∃ keyBlob, env.decodeBase64 (authorizedKeyBlob publicKey) = some keyBlob ∧
    Registers env now (env.sha256 keyBlob) host

/-- The client has recorded the acceptance of the host durably, and a command that is in
flight finishes the rotation without another request. -/
def CanFinish (client : ClientPool) : Prop :=
  (∃ receipt pending, client.state.receipt = some receipt ∧
    client.state.pending = some pending ∧ Records receipt pending) ∧
  ∃ pid process, client.procs pid = some process ∧ ¬ process.Finished ∧
    process.prog.Uses fun action => ∀ request, action ≠ .send request

/-- While the grant is live and unexpired, the active key logs in or the client can finish
the rotation by itself. -/
def NotLockedOut (env : Env) (clientID : Text) (now : Time) (l : Sides) : Prop :=
  ∀ record notAfter, l.left.state.clients.get clientID = some record → Live record →
    record.authorizationNotAfter = .at notAfter → readyToExpire notAfter now = false →
    (∃ key, l.right.state.activeKey = some key ∧ LogsIn env now l.left.state key) ∨
      CanFinish l.right

/-- The host does not swap out the key of the client's active generation. -/
def SparesActiveKey (l : Sides) : SidesMove → Prop
  | .left (.advance pid choice) => ∀ next ∈ l.left.upcoming pid,
      match next.2 with
      | .replaceKey oldPublicKey _ => choice.outcome.applies = true →
          ∀ key ∈ l.right.state.activeKey, authorizedKeyBlob oldPublicKey ≠ authorizedKeyBlob key
      | _ => True
  | _ => True

/-- The key that an action swaps out. -/
def Action.swappedKey : Action → Option Text
  | .replaceKey oldPublicKey _ => some oldPublicKey
  | _ => none

theorem sparesActiveKey_advance {l : Sides} {pid : ℕ} {choice : Choice} :
    SparesActiveKey l (.left (.advance pid choice)) ↔ ∀ next ∈ l.left.upcoming pid,
      ∀ oldPublicKey ∈ next.2.swappedKey, choice.outcome.applies = true →
        ∀ key ∈ l.right.state.activeKey, authorizedKeyBlob oldPublicKey ≠ authorizedKeyBlob key := by
  refine forall₂_congr fun next _ => ?_
  obtain ⟨process, action⟩ := next
  cases action <;> simp [Action.swappedKey]

instance (l : Sides) (move : SidesMove) : Decidable (SparesActiveKey l move) :=
  match move with
  | .left (.advance _ _) => decidable_of_iff' _ sparesActiveKey_advance
  | .left (.start _ _) | .left (.stop _) | .right _ => .isTrue trivial

variable {now : Time} {keyDigest : Text} {host : Host} {site : Site} {tunnelID clientID : Text}
  {notAfter : Time} {receipt : Receipt} {key : Text} {l : Sides}

section

variable {env : Env} {host' : Host} {record : ClientRecord}

/-- The fields of a record that end up in a session record are usable. -/
def Bindable (keyDigest : Text) (record : ClientRecord) : Prop :=
  (record.grantID.isEmpty || record.clientID.isEmpty || record.generation.isNone ||
    !isLowerHexDigest record.publicKeySHA256 || !isLowerHexDigest keyDigest) = false

instance : Decidable (Bindable keyDigest record) := by
  unfold Bindable
  infer_instance

theorem registers_iff : Registers env now keyDigest host ↔
    ∃ record registeredAt, matchingGrant env now keyDigest host.clients.files = .ok record ∧
      Stamp.formatUTC now = .ok registeredAt ∧ Bindable keyDigest record := by
  unfold Registers registerSession
  cases hfound : matchingGrant env now keyDigest host.clients.files with
  | error err => simp
  | ok record =>
    cases hstamp : Stamp.formatUTC now with
    | error err => simp
    | ok registeredAt =>
      by_cases hbind : Bindable keyDigest record
      · have hbind' := hbind
        unfold Bindable at hbind'
        simp [hbind, hbind']
      · have hbind' := hbind
        unfold Bindable at hbind'
        rw [Bool.not_eq_false] at hbind'
        simp [hbind, hbind']

theorem Registers.of_clients (h : Registers env now keyDigest host)
    (hsame : host'.clients = host.clients) : Registers env now keyDigest host' := by
  rw [registers_iff] at h ⊢
  rw [hsame]
  exact h

theorem Registers.beginRotation {newPublicKey nextHash : Text} {started : Time}
    (h : Registers env now keyDigest host) (hget : host.clients.get record.clientID = some record) :
    Registers env now keyDigest { host with
      clients := host.clients.put (beginRotation record newPublicKey nextHash started) } := by
  rw [registers_iff] at h ⊢
  obtain ⟨found, registeredAt, hfound, hstamp, hbind⟩ := h
  obtain ⟨hfilter, hcheck⟩ := matchingGrant_eq_ok.1 hfound
  set written := WarpTweet.beginRotation record newPublicKey nextHash started with hwritten
  have hput : (host.clients.put written).files.filter (presents env keyDigest) =
      [if found.clientID = record.clientID then written else found] := by
    have hpresents : presents env keyDigest written = presents env keyDigest record := rfl
    have hget' : host.clients.get written.clientID = some record := hget
    rw [Directory.filter_put hget' hpresents, hfilter]
    rfl
  by_cases hid : found.clientID = record.clientID
  · have hmem : found ∈ host.clients.files.filter (presents env keyDigest) := by
      rw [hfilter]
      exact List.mem_cons_self
    have hstored := Directory.get_of_mem_files (List.mem_filter.1 hmem).1
    rw [hid, hget, Option.some.injEq] at hstored
    subst hstored
    rw [if_pos rfl] at hput
    refine ⟨written, registeredAt, matchingGrant_eq_ok.2 ⟨hput, ?_⟩, hstamp, hbind⟩
    simp only [checkGrant, except_bind_eq_ok, refuseIf_eq_ok] at hcheck ⊢
    obtain ⟨-, -, hrest⟩ := hcheck
    exact ⟨(), rfl, hrest⟩
  · rw [if_neg hid] at hput
    exact ⟨found, registeredAt, matchingGrant_eq_ok.2 ⟨hput, hcheck⟩, hstamp, hbind⟩

end

/-! ## Before the swap -/

/-- Nothing has been rotated yet: the record has the key and the token of the receipt, the
active key is the old one and logs in, and the tokens of all requests are still to come. -/
structure Untouched (env : Env) (clientID : Text) (now : Time) (receipt : Receipt) (key keyDigest : Text)
    (l : Sides) : Prop where
  record : ∃ record, l.left.state.clients.get clientID = some record ∧
    authorizedKeyBlob record.publicKey = authorizedKeyBlob key ∧
    record.managementTokenSHA256 = hashManagementToken env receipt.managementToken
  line : ∃ line ∈ l.left.state.authorizedKeys, line.blob = authorizedKeyBlob key
  registers : Registers env now keyDigest l.left.state
  receipted : l.right.state.receipt = some receipt
  activeKey : l.right.state.activeKey = some key
  pending : ∀ pending, l.right.state.pending = some pending →
    hashManagementToken env receipt.managementToken ≠
      hashManagementToken env pending.nextManagementToken
  sent : ∀ request ∈ l.right.state.sent, hashManagementToken env receipt.managementToken ≠
    hashManagementToken env request.nextManagementToken
  spared : l.left.Each fun _ _ hist _ => ∀ oldPublicKey line,
    Did hist (.replaceKey oldPublicKey line) true →
      authorizedKeyBlob oldPublicKey ≠ authorizedKeyBlob key

variable {host' : Host} {hist : List HostStep} {request : ManagementRequest} {time : Time}
  {process : HostProcess} {prog : HostProg Unit}

section

variable {pid : ℕ} {action : Action} {choice : Choice}

theorem line_of_spared {host : Host}
    (hline : ∃ line ∈ host.authorizedKeys, line.blob = authorizedKeyBlob key)
    (hspares : ∀ oldPublicKey line, action = .replaceKey oldPublicKey line →
      choice.outcome.applies = true → authorizedKeyBlob oldPublicKey ≠ authorizedKeyBlob key)
    (hguard : Guard site pid (.rotate request time) hist action choice host)
    (hstep : RotateStep site.env (.rotate request time) action)
    (heffect : Effect pid choice host action host') :
    ∃ line ∈ host'.authorizedKeys, line.blob = authorizedKeyBlob key := by
  obtain ⟨line, hmem, hblob⟩ := hline
  cases heffect with
  | appendKey _ _ => exact ⟨line, mem_appendAuthorizedKey_of_mem hmem, hblob⟩
  | @replaceKey oldPublicKey new happlies _ =>
    have hold := hspares oldPublicKey new rfl happlies
    by_cases hnew : new.blob = authorizedKeyBlob key
    · exact ⟨new, List.mem_append_right _ List.mem_cons_self, hnew⟩
    · refine ⟨line, mem_replaceAuthorizedKey_of_mem hmem (.inr ?_) (.inr ?_), hblob⟩
      · rw [hblob]
        exact hold.symm
      · rw [hblob]
        exact fun heq => hnew heq.symm
  | removeKey _ _ => exact absurd rfl (hstep request time)
  | writeKeys _ _ =>
    obtain ⟨hrebuilds, -⟩ := hguard
    cases hrebuilds
  | kept hsame => exact ⟨line, hsame.authorizedKeys ▸ hmem, hblob⟩
  | _ => exact ⟨line, hmem, hblob⟩

section

variable (h : Untouched site.env clientID now receipt key keyDigest l)
include h

theorem Untouched.host_record (hid : request.clientID = clientID)
    (hspared : ∀ oldPublicKey line, Did hist (.replaceKey oldPublicKey line) true →
      authorizedKeyBlob oldPublicKey ≠ authorizedKeyBlob key)
    (hguard : Guard site pid (.rotate request time) hist action choice l.left.state)
    (hstep : RotateStep site.env (.rotate request time) action)
    (heffect : Effect pid choice l.left.state action host') :
    (∃ record, host'.clients.get clientID = some record ∧
      authorizedKeyBlob record.publicKey = authorizedKeyBlob key ∧
      record.managementTokenSHA256 = hashManagementToken site.env receipt.managementToken) ∧
    Registers site.env now keyDigest host' := by
  obtain ⟨record, hstored, hkey, htoken⟩ := h.record
  rcases heffect.clients with hsame | ⟨stored, rfl, -, -⟩ | ⟨written, rfl, -, hput⟩
  · exact ⟨⟨record, hsame ▸ hstored, hkey, htoken⟩, h.registers.of_clients hsame⟩
  · have hstores : StoresClient site pid (.rotate request time) l.left.state stored := hguard
    obtain ⟨_, _, _, _, _, hrequest, -⟩ := hstores.wanted
    cases hrequest
  · obtain ⟨hwritten, hmatches⟩ := hstep request time rfl
    have hstored' : host'.clients.get clientID = some written := by
      rw [hput, ← hid, ← hwritten]
      exact Directory.get_put_self
    have hold : ∀ {old}, l.left.state.clients.get written.clientID = some old → old = record := by
      intro old hget
      rw [hwritten, hid, hstored, Option.some.injEq] at hget
      exact hget.symm
    rcases rotation_of_clientWrite hguard (hmatches.imp And.left And.left) with
      ⟨old, now', hget, -, rfl⟩ | ⟨old, now', hget, -, ⟨line, hswapped⟩, rfl⟩
    · obtain rfl := hold hget
      exact ⟨⟨_, hstored', hkey, htoken⟩, (h.registers.beginRotation hget).of_clients hput⟩
    · -- The end of a rotation rests on a swap of the key of the record.
      obtain rfl := hold hget
      have hdid := hswapped.mono (List.takeWhile_sublist _).subset
      exact absurd hkey (hspared _ line hdid)

theorem Untouched.host_advanced {reply : action.Reply} {rest : action.Reply → HostProg Unit}
    (hin : InStep site tunnelID clientID notAfter l) (hp : l.left.procs pid = some process)
    (hprog : process.prog = .act action rest)
    (hguard : Guard site pid process.call process.hist action choice l.left.state)
    (hstep : RotateStep site.env process.call action)
    (hspares : SparesActiveKey l (.left (.advance pid choice)))
    (hperform : performAction site.env pid action choice l.left.state = some (reply, host')) :
    Untouched site.env clientID now receipt key keyDigest
      { l with left := l.left.advanced pid process ⟨action, choice, reply⟩ prog host' } := by
  have hspares' : ∀ oldPublicKey line, action = .replaceKey oldPublicKey line →
      choice.outcome.applies = true → authorizedKeyBlob oldPublicKey ≠ authorizedKeyBlob key := by
    rintro oldPublicKey line rfl happlies
    have hnext : (process, .replaceKey oldPublicKey line) ∈ l.left.upcoming pid := by
      simp [Config.upcoming, hp, hprog]
    exact hspares _ hnext happlies key h.activeKey
  obtain ⟨request, time, hcall, hsent, -⟩ := hin.handlers pid process hp
  obtain ⟨_, _, hsynced⟩ := hin.synced
  rw [hcall] at hguard hstep
  have heffect := effect_of_perform hperform
  obtain ⟨hrecord, hregisters⟩ := h.host_record (hsynced.sent request hsent).1
    (h.spared pid process hp) hguard hstep heffect
  refine ⟨hrecord, line_of_spared h.line hspares' hguard hstep heffect, hregisters, h.receipted,
    h.activeKey, h.pending, h.sent, h.spared.advanced hp ?_ ?_⟩
  · rintro hbefore oldPublicKey line ⟨choice', hmem⟩
    rcases List.mem_cons.1 hmem with heq | hmem
    · cases heq
      obtain ⟨hreports, -, -⟩ := editKeys_eq_some hperform
      exact hspares' oldPublicKey line rfl (Outcome.applies_of_reports hreports.symm)
    · exact hbefore oldPublicKey line ⟨choice', hmem⟩
  · exact fun _ _ _ _ hbefore => hbefore

theorem Untouched.not_received {process : ClientProcess} {receipt' : Receipt}
    {pending : PendingRotation}
    (hin : InStep site tunnelID clientID notAfter l) (hp : l.right.procs pid = some process)
    (hjournals : Journals pid l.right.state receipt' pending) :
    ¬ Received (rotateRequest receipt' tunnelID pending) process.hist := by
  intro hreceived
  obtain ⟨hsent, hrotated⟩ := hin.commands pid process hp _ hreceived
  obtain ⟨receipt'', record, hsynced⟩ := hin.synced
  obtain rfl : receipt'' = receipt' :=
    Option.some.inj (hsynced.receipted.symm.trans hjournals.receipted)
  obtain ⟨heq, hcurrent⟩ := hsynced.current_rotateRequest hjournals.journaled
  obtain ⟨rotated, hget, hrotated⟩ := hrotated hcurrent
  obtain ⟨stored, hstored, -, htoken⟩ := h.record
  rw [heq] at hget
  obtain rfl : stored = rotated := Option.some.inj (hstored.symm.trans hget)
  exact h.sent _ hsent (htoken.symm.trans hrotated.token)

theorem Untouched.client_advanced {process : ClientProcess} {action : ClientAction}
    {choice : ClientChoice} {reply : action.Reply} {prog : ClientProg Unit} {client' : Client}
    (hin : InStep site tunnelID clientID notAfter l) (hp : l.right.procs pid = some process)
    (hguard : ClientGuard tunnelID pid process.hist action l.right.state)
    (hfresh : DrawsFresh site.env l.right.state action)
    (hperform : performClient pid action choice l.right.state = some (reply, client')) :
    Untouched site.env clientID now receipt key keyDigest
      { l with right := l.right.advanced pid process ⟨action, choice, reply⟩ prog client' } := by
  have hkept : client'.receipt = some receipt → client'.activeKey = some key →
      (∀ pending, client'.pending = some pending →
        hashManagementToken site.env receipt.managementToken ≠
          hashManagementToken site.env pending.nextManagementToken) →
      (∀ request ∈ client'.sent, hashManagementToken site.env receipt.managementToken ≠
        hashManagementToken site.env request.nextManagementToken) →
      Untouched site.env clientID now receipt key keyDigest
        { l with right := l.right.advanced pid process ⟨action, choice, reply⟩ prog client' } :=
    fun hreceipted hactive hpending hsent =>
      ⟨h.record, h.line, h.registers, hreceipted, hactive, hpending, hsent, h.spared⟩
  cases effect_of_performClient hperform with
  | writeReceipt =>
    obtain ⟨receipt', pending, hjournals, hreceived, -⟩ := hguard
    exact absurd hreceived (h.not_received hin hp hjournals)
  | activate =>
    obtain ⟨receipt', pending, hjournals, hreceived, -⟩ := hguard
    exact absurd hreceived (h.not_received hin hp hjournals)
  | writeGeneration =>
    obtain ⟨receipt', pending, hjournals, hreceived, -⟩ := hguard
    exact absurd hreceived (h.not_received hin hp hjournals)
  | writePending =>
    refine hkept h.receipted h.activeKey ?_ h.sent
    rintro _ ⟨⟩
    exact hfresh.1 receipt h.receipted
  | removeStage hpending =>
    refine hkept h.receipted h.activeKey ?_ h.sent
    rcases hpending with rfl | rfl
    · rintro _ ⟨⟩
    · exact h.pending
  | send =>
    refine hkept h.receipted h.activeKey h.pending ?_
    intro request hmem
    rcases List.mem_cons.1 hmem with rfl | hmem
    · obtain ⟨receipt', pending, hjournals, rfl⟩ := hguard
      exact h.pending pending hjournals.journaled
    · exact h.sent request hmem
  | acquire | unlock | keygen | writeState | kept =>
    exact hkept h.receipted h.activeKey h.pending h.sent

end

end

/-! ## Runs -/

/-- The moves of a rotation in which the host spares the active key. -/
abbrev RotatesSparing (site : Site) : Sides → SidesMove → Prop := fun l move =>
  Rotates site l move ∧ SparesActiveKey l move

/-- The client runs the key of its receipt, and can log in. -/
def RunsReceiptKey (env : Env) (now : Time) (host : Host) (client : Client) : Prop :=
  ∃ key, client.activeKey = some key ∧ LogsIn env now host key ∧
    ∀ receipt, client.receipt = some receipt → receipt.publicKey = trimSpace key

section

variable {client : Client}

theorem untouched_of_linkRun (henrolled : EnrolledAtRest site tunnelID clientID notAfter host client)
    (h₀ : Untouched site.env clientID now receipt key keyDigest (Link.idle host client))
    (hrun : LinkRun (hostMachine site) (clientMachine tunnelID) (RotatesSparing site)
      (Link.idle host client) l) : Untouched site.env clientID now receipt key keyDigest l := by
  have hrotates : ∀ l move, RotatesSparing site l move → Rotates site l move := fun _ _ h => h.1
  refine hrun.induct (I := Untouched site.env clientID now receipt key keyDigest) h₀ ?_ ?_
  · intro l move left hbefore h hallowed hnext
    have hin := inStep_of_linkRun hbefore hrotates (inStep_of_enrolled henrolled)
    rcases Config.next_eq_some hnext with
      ⟨pid, call, rfl, -, rfl⟩ | ⟨pid, process, action, rest, choice, reply, state, rfl, hp, hprog,
        hperform, rfl⟩ | ⟨pid, process, rfl, -, rfl⟩
    · refine ⟨h.record, h.line, h.registers, h.receipted, h.activeKey, h.pending, h.sent,
        h.spared.started ?_⟩
      rintro oldPublicKey line ⟨choice, ⟨⟩⟩
    · exact h.host_advanced hin hp hprog
        ((grantGuarded_of_linkRun hbefore).guard hp hprog trivial hperform)
        ((handlerGuarded_of_linkRun hbefore hrotates).guard hp hprog trivial hperform)
        hallowed.2 hperform
    · exact ⟨h.record, h.line, h.registers.of_clients rfl, h.receipted, h.activeKey, h.pending,
        h.sent, h.spared.stopped fun _ _ _ _ hbefore => hbefore⟩
  · intro l move right hbefore h hallowed hnext
    have hin := inStep_of_linkRun hbefore hrotates (inStep_of_enrolled henrolled)
    rcases Config.next_eq_some hnext with
      ⟨pid, call, rfl, -, rfl⟩ | ⟨pid, process, action, rest, choice, reply, state, rfl, hp, hprog,
        hperform, rfl⟩ | ⟨pid, process, rfl, -, rfl⟩
    · exact ⟨h.record, h.line, h.registers, h.receipted, h.activeKey, h.pending, h.sent, h.spared⟩
    · have hupcoming : (process, action) ∈ l.right.upcoming pid := by
        simp [Config.upcoming, hp, hprog]
      exact h.client_advanced hin hp
        ((clientGuarded_of_linkRun hbefore).guard hp hprog trivial hperform)
        (hallowed.1.2 _ hupcoming) hperform
    · exact ⟨h.record, h.line, h.registers, h.receipted, h.activeKey, h.pending, h.sent, h.spared⟩

theorem untouched_of_enrolled (henrolled : EnrolledAtRest site tunnelID clientID notAfter host client)
    (hruns : RunsReceiptKey site.env now host client) :
    ∃ receipt key keyBlob, site.env.decodeBase64 (authorizedKeyBlob key) = some keyBlob ∧
      Untouched site.env clientID now receipt key (site.env.sha256 keyBlob)
        (Link.idle host client) := by
  obtain ⟨receipt, record, hreceipt, -, hstored, -, -, hagree⟩ := henrolled.agree
  obtain ⟨key, hactive, ⟨hline, keyBlob, hdecoded, hregisters⟩, hkey⟩ := hruns
  refine ⟨receipt, key, keyBlob, hdecoded, ⟨record, hstored, ?_, hagree.token⟩, hline, hregisters,
    hreceipt, hactive, ?_, ?_, .idle⟩
  · rw [hagree.publicKey, hkey receipt hreceipt, authorizedKeyBlob_trimSpace]
  · intro pending hpending
    exact absurd (henrolled.pending.symm.trans hpending) (by simp)
  · intro request hmem
    rw [show (Link.idle host client : Sides).right.state.sent = [] from henrolled.sent] at hmem
    cases hmem

theorem lockedOut_of_swap {pid : ℕ} {oldPublicKey : Text}
    {line : AuthorizedLine} {choice : Choice} {reply : Bool}
    (h : Untouched site.env clientID now receipt key keyDigest l)
    (hin : InStep site tunnelID clientID notAfter l)
    (hunexpired : readyToExpire notAfter now = false)
    (happlies : choice.outcome.applies = true) (hblob : authorizedKeyBlob key ≠ [])
    (hold : authorizedKeyBlob oldPublicKey = authorizedKeyBlob key)
    (hnew : line.blob ≠ authorizedKeyBlob key)
    (hperform : performAction site.env pid (.replaceKey oldPublicKey line) choice l.left.state =
      some (reply, host')) : ¬ NotLockedOut site.env clientID now
      { l with left :=
        l.left.advanced pid process ⟨.replaceKey oldPublicKey line, choice, reply⟩ prog host' } := by
  obtain ⟨-, -, hstate⟩ := editKeys_eq_some hperform
  rw [if_pos happlies] at hstate
  subst hstate
  obtain ⟨receipt', record, hsynced⟩ := hin.synced
  have hlive : Live record := by
    cases hpending : l.right.state.pending with
    | none => exact .inl (hsynced.agree hpending).status
    | some pending =>
      cases (hsynced.journal pending hpending).phase with
      | waiting hstatus _ _ => exact .inl hstatus
      | begun hstatus _ _ _ _ => exact .inr hstatus
      | rotated hrotated _ => exact .inl hrotated.status
  intro hproperty
  rcases hproperty record notAfter hsynced.stored hlive hsynced.expiry hunexpired with
    ⟨active, hactive, ⟨existing, hmem, hexisting⟩, -⟩ | ⟨⟨recorded, pending, hrecorded, hpending,
      hrecords⟩, -⟩
  · obtain rfl : key = active := Option.some.inj (h.activeKey.symm.trans hactive)
    rcases mem_replaceAuthorizedKey hmem with rfl | ⟨-, hempty | hne⟩
    · exact hnew hexisting
    · exact hblob (hold.symm.trans hempty)
    · exact hne (hexisting.trans hold.symm)
  · obtain rfl : receipt = recorded := Option.some.inj (h.receipted.symm.trans hrecorded)
    exact h.pending pending hpending (by rw [hrecords.token])

end

/-- The host swaps the key of the client's active generation for another one. -/
def SwapsOut (l : Sides) (pid : ℕ) (choice : Choice) : Prop :=
  ∃ process oldPublicKey line key, l.left.upcoming pid = some (process, .replaceKey oldPublicKey line) ∧
    choice.outcome.applies = true ∧ l.right.state.activeKey = some key ∧
    authorizedKeyBlob key ≠ [] ∧ authorizedKeyBlob oldPublicKey = authorizedKeyBlob key ∧
    line.blob ≠ authorizedKeyBlob key

/-- In every run of rotations in which the host does not swap out the key of the client's
active generation, the client is not locked out. The first swap of the active key for
another one locks it out at once. -/
theorem notLockedOut_of_sparesActiveKey (site : Site) (tunnelID clientID : Text)
    (notAfter now : Time) (host : Host) (client : Client) (l : Sides)
    (henrolled : EnrolledAtRest site tunnelID clientID notAfter host client)
    (hruns : RunsReceiptKey site.env now host client)
    (hrun : LinkRun (hostMachine site) (clientMachine tunnelID) (RotatesSparing site)
      (Link.idle host client) l) :
    NotLockedOut site.env clientID now l ∧
    ∀ pid choice l', SwapsOut l pid choice → readyToExpire notAfter now = false →
      l.next (hostMachine site) (clientMachine tunnelID) (.left (.advance pid choice)) = some l' →
      ¬ NotLockedOut site.env clientID now l' := by
  obtain ⟨receipt, key, keyBlob, hdecoded, h₀⟩ := untouched_of_enrolled henrolled hruns
  have h := untouched_of_linkRun henrolled h₀ hrun
  refine ⟨?_, ?_⟩
  · intro record notAfter' _ _ _ _
    exact .inl ⟨key, h.activeKey, h.line, keyBlob, hdecoded, h.registers⟩
  · rintro pid choice l' ⟨process, oldPublicKey, line, active, hupcoming, happlies, hactive, hblob,
      hold, hnew⟩ hunexpired hlink
    have hin := inStep_of_linkRun hrun (fun _ _ hallowed => hallowed.1) (inStep_of_enrolled henrolled)
    obtain rfl : key = active := Option.some.inj (h.activeKey.symm.trans hactive)
    obtain ⟨left, hnext, rfl⟩ := Option.map_eq_some_iff.1 hlink
    rcases Config.next_eq_some hnext with
      ⟨_, _, hmove, -⟩ | ⟨pid', process', action, rest, choice', reply, state, hmove, hp, hprog,
        hperform, rfl⟩ | ⟨_, _, hmove, -⟩
    · cases hmove
    · cases hmove
      simp only [Config.upcoming, hp, hprog, Option.some.injEq, Prod.mk.injEq] at hupcoming
      obtain ⟨-, rfl⟩ := hupcoming
      exact lockedOut_of_swap h hin hunexpired happlies hblob hold hnew hperform
    · cases hmove

theorem runsReceiptKey_scenario :
    RunsReceiptKey Scenario.env Scenario.now (Scenario.after (Scenario.accepting 'A'))
      (Scenario.client 'A') := by
  have hline : ∃ line ∈ (Scenario.after (Scenario.accepting 'A')).authorizedKeys,
      line.blob = authorizedKeyBlob (Scenario.key 'A') := by
    decide +kernel
  have hbindable : ((matchingGrant Scenario.env Scenario.now (Scenario.env.sha256 ['A'])
      (Scenario.after (Scenario.accepting 'A')).clients.files).toOption.any fun record =>
        decide (Bindable (Scenario.env.sha256 ['A']) record)) = true := by
    decide +kernel
  refine ⟨Scenario.key 'A', rfl, ⟨hline, ['A'], by decide +kernel, registers_iff.2 ?_⟩, ?_⟩
  · cases hfound : matchingGrant Scenario.env Scenario.now (Scenario.env.sha256 ['A'])
        (Scenario.after (Scenario.accepting 'A')).clients.files with
    | error err =>
      rw [hfound] at hbindable
      cases hbindable
    | ok record =>
      rw [hfound] at hbindable
      exact ⟨record, _, rfl, rfl, of_decide_eq_true hbindable⟩
  · rintro _ ⟨⟩
    decide +kernel

/-- The handler is about to swap the line of key `A` for one of key `D`. -/
def Scenario.swapsNext (l : Sides) : Bool :=
  match l.left.upcoming 1 with
  | some (_, .replaceKey oldPublicKey line) =>
    decide (oldPublicKey = Scenario.key 'A' ∧ line.blob = ['D'] ∧
      l.right.state.activeKey = some (Scenario.key 'A') ∧
      (l.next (hostMachine Scenario.site) (clientMachine ['t'])
        (.left (.advance 1 { time := Scenario.now }))).isSome = true)
  | _ => false

/-- A rotation whose request has arrived: the client can still log in, and after the next
step of the host it cannot. -/
theorem notLockedOut_until_swap :
    ∃ l, LinkRun (hostMachine Scenario.site) (clientMachine ['t']) (RotatesSparing Scenario.site)
        (Link.idle (Scenario.after (Scenario.accepting 'A')) (Scenario.client 'A')) l ∧
      NotLockedOut Scenario.env (Scenario.clientID 'A') Scenario.now l ∧
      ∃ l', l.next (hostMachine Scenario.site) (clientMachine ['t'])
          (.left (.advance 1 { time := Scenario.now })) = some l' ∧
        ¬ NotLockedOut Scenario.env (Scenario.clientID 'A') Scenario.now l' := by
  refine LinkRun.exists_imp_of_runLinkMoves
    (Scenario.requesting 0 'D' ++ (Scenario.serving 1 'A' 'D').take 5)
    (fun l => Scenario.swapsNext l = true) (by decide +kernel) fun l hrun hl => ?_
  unfold Scenario.swapsNext at hl
  split at hl
  next process oldPublicKey line hupcoming =>
    obtain ⟨rfl, hline, hactive, hnext⟩ := of_decide_eq_true hl
    obtain ⟨l', hl'⟩ := Option.isSome_iff_exists.1 hnext
    obtain ⟨hfree, hswap⟩ := notLockedOut_of_sparesActiveKey Scenario.site ['t']
      (Scenario.clientID 'A') (Scenario.now + 7200 * Time.second) Scenario.now _ _ l
      enrolled_scenario runsReceiptKey_scenario hrun
    refine ⟨hfree, l', hl', hswap 1 _ l' ?_ (by decide) hl'⟩
    refine ⟨process, _, line, _, hupcoming, rfl, hactive, by decide +kernel, rfl, ?_⟩
    rw [hline]
    decide +kernel
  next => cases hl

/-- The moves in which both answers to process `pid` of the client are lost, and the command
fails. -/
def Scenario.losing (pid : ℕ) : List SidesMove :=
  Scenario.clientSteps pid 5 ++ [.right (.stop pid)]

/-- The host serves the request and both answers are lost. The command has failed, nothing is
in flight any more, and the client can no longer log in: the file has only the new key, and
the active generation is the old one. -/
theorem lost_answer_locks_out :
    RunsReceiptKey Scenario.env Scenario.now (Scenario.after (Scenario.accepting 'A'))
      (Scenario.client 'A') ∧
    ∃ l, LinkRun (hostMachine Scenario.site) (clientMachine ['t']) (Rotates Scenario.site)
        (Link.idle (Scenario.after (Scenario.accepting 'A')) (Scenario.client 'A')) l ∧
      l.left.HasSucceeded 1 ∧ l.right.procs 0 = none ∧
      ¬ NotLockedOut Scenario.env (Scenario.clientID 'A') Scenario.now l := by
  refine ⟨runsReceiptKey_scenario, LinkRun.exists_imp_of_runLinkMoves
    (Scenario.requesting 0 'D' ++ Scenario.serving 1 'A' 'D' ++ Scenario.losing 0)
    (fun l => l.left.HasSucceeded 1 ∧ (l.right.procs 0).isNone = true ∧
      (∃ record ∈ l.left.state.clients.get (Scenario.clientID 'A'), Live record ∧
        record.authorizationNotAfter = .at (Scenario.now + 7200 * Time.second)) ∧
      l.right.state.activeKey = some (Scenario.key 'A') ∧
      (∀ line ∈ l.left.state.authorizedKeys, line.blob ≠ authorizedKeyBlob (Scenario.key 'A')) ∧
      l.right.state.receipt.map Receipt.managementToken ≠
        l.right.state.pending.map PendingRotation.nextManagementToken) (by decide +kernel) ?_⟩
  rintro l - ⟨hserved, hidle, ⟨record, hstored, hlive, hexpiry⟩, hactive, hlines, hunrecorded⟩
  refine ⟨hserved, Option.isNone_iff_eq_none.1 hidle, ?_⟩
  intro hproperty
  rcases hproperty record _ hstored hlive hexpiry (by decide) with
    ⟨key, hkey, ⟨line, hmem, hblob⟩, -⟩ | ⟨⟨receipt, pending, hreceipt, hpending, hrecords⟩, -⟩
  · obtain rfl := Option.some.inj (hactive.symm.trans hkey)
    exact hlines line hmem hblob
  · rw [hreceipt, hpending] at hunrecorded
    exact hunrecorded (congrArg some hrecords.token)

end WarpTweet
