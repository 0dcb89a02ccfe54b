import WarpTweet.Analysis.RotationSteps
import WarpTweet.Analysis.RotateHandler
import WarpTweet.Analysis.Scenario

/-!
# The management token through rotations

A rotation replaces a key and a token in three durable places: the host's record, the
client's receipt and the client's journal. The host's record is always in step with the
client's journal: it waits for the journaled request, has begun it, or has finished it, and
without a journal it agrees with the receipt. Requests of earlier rotations do nothing any
more, because the host no longer has their token; this is where it matters that a generated
token is a new one.
-/

namespace WarpTweet

open Strings Concurrency Storage

/-! ## The runs -/

/-- The token has not been used before: its hash is neither that of the receipt's token nor
that of the token of a request that was sent. -/
def FreshToken (env : Env) (client : Client) (token : Text) : Prop :=
  (∀ receipt ∈ client.receipt,
    hashManagementToken env receipt.managementToken ≠ hashManagementToken env token) ∧
  ∀ request ∈ client.sent,
    hashManagementToken env request.managementToken ≠ hashManagementToken env token

instance (env : Env) (client : Client) (token : Text) : Decidable (FreshToken env client token) := by
  unfold FreshToken
  infer_instance

/-- The token of a new journal is a new one. -/
def DrawsFresh (env : Env) (client : Client) : ClientAction → Prop
  | .writePending pending => FreshToken env client pending.nextManagementToken
  | _ => True

instance (env : Env) (client : Client) (action : ClientAction) :
    Decidable (DrawsFresh env client action) := by
  unfold DrawsFresh
  split <;> infer_instance

/-- A condition on the actions of the client. -/
def OnClient (condition : Client → ClientAction → Prop) (l : Sides) : SidesMove → Prop
  | .right (.advance pid _) => ∀ next ∈ l.right.upcoming pid, condition l.right.state next.2
  | _ => True

instance (condition : Client → ClientAction → Prop)
    [∀ client action, Decidable (condition client action)] (l : Sides) (move : SidesMove) :
    Decidable (OnClient condition l move) :=
  match move with
  | .right (.advance pid _) => inferInstanceAs (Decidable (∀ next ∈ l.right.upcoming pid, _))
  | .right (.start _ _) | .right (.stop _) | .left _ => .isTrue trivial

/-- The runs of the rotate command of one client against the handler of the host. -/
abbrev Rotates (site : Site) : Sides → SidesMove → Prop := fun l move =>
  Meets l move ∧ OnClient (DrawsFresh site.env) l move

/-- The request of the journal. -/
def requestFor (tunnelID clientID : Text) (pending : PendingRotation) : ManagementRequest :=
  { clientID
    managementToken := pending.currentManagementToken
    tunnelID
    newPublicKey := pending.publicKey
    nextManagementToken := pending.nextManagementToken }

/-! ## In step -/

/-- The record is in step with the journal: it waits for the request with the token of the
receipt, has begun it, or has been rotated by it. -/
inductive Phase (env : Env) (request : ManagementRequest) (receipt : Receipt)
    (pending : PendingRotation) (record : ClientRecord) : Prop
  | waiting : record.status = .active →
      record.managementTokenSHA256 = hashManagementToken env request.managementToken →
      receipt.managementToken = pending.currentManagementToken →
      Phase env request receipt pending record
  | begun : record.status = .rotationPending →
      record.managementTokenSHA256 = hashManagementToken env request.managementToken →
      record.pendingPublicKey = trimSpace request.newPublicKey →
      record.pendingManagementTokenSHA256 =
        hashManagementToken env request.nextManagementToken →
      receipt.managementToken = pending.currentManagementToken →
      Phase env request receipt pending record
  | rotated : Rotated env request record →
      receipt.managementToken = pending.currentManagementToken ∨ Records receipt pending →
      Phase env request receipt pending record

/-- The receipt and the record agree. -/
structure Agree (env : Env) (receipt : Receipt) (record : ClientRecord) : Prop where
  status : record.status = .active
  token : record.managementTokenSHA256 = hashManagementToken env receipt.managementToken
  publicKey : record.publicKey = receipt.publicKey

/-- The journaled rotation. -/
structure JournalOf (env : Env) (tunnelID clientID : Text) (receipt : Receipt)
    (record : ClientRecord) (pending : PendingRotation) : Prop where
  phase : Phase env (requestFor tunnelID clientID pending) receipt pending record
  distinct : hashManagementToken env pending.currentManagementToken ≠
    hashManagementToken env pending.nextManagementToken
  trimmed : trimSpace pending.publicKey = pending.publicKey

/-- The request belongs to an earlier rotation: its token is none of those in use. -/
def Outdated (env : Env) (client : Client) (request : ManagementRequest) : Prop :=
  (∀ receipt, client.receipt = some receipt →
    hashManagementToken env request.managementToken ≠
      hashManagementToken env receipt.managementToken) ∧
  ∀ pending, client.pending = some pending →
    hashManagementToken env request.managementToken ≠
      hashManagementToken env pending.currentManagementToken ∧
    hashManagementToken env request.managementToken ≠
      hashManagementToken env pending.nextManagementToken

/-- The journaled request. -/
def IsJournaled (tunnelID clientID : Text) (client : Client) (request : ManagementRequest) : Prop :=
  ∃ pending, client.pending = some pending ∧ request = requestFor tunnelID clientID pending

/-- The client's durable state and the host's record. -/
structure Synced (site : Site) (tunnelID clientID : Text) (notAfter : Time) (host : Host)
    (client : Client) (receipt : Receipt) (record : ClientRecord) : Prop where
  receipted : client.receipt = some receipt
  receiptID : receipt.clientID = clientID
  stored : host.clients.get clientID = some record
  tunnel : record.tunnelID = tunnelID
  expiry : record.authorizationNotAfter = .at notAfter
  agree : client.pending = none → Agree site.env receipt record
  journal : ∀ pending, client.pending = some pending →
    JournalOf site.env tunnelID clientID receipt record pending
  sent : ∀ request ∈ client.sent, request.clientID = clientID ∧
    (IsJournaled tunnelID clientID client request ∨ Outdated site.env client request)

/-- The host has rotated the record by the request. -/
def RotatedNow (env : Env) (host : Host) (request : ManagementRequest) : Prop :=
  ∃ record, host.clients.get request.clientID = some record ∧ Rotated env request record

/-- A record that was read for the journaled request. -/
structure ReadInPhase (env : Env) (tunnelID : Text) (notAfter : Time) (request : ManagementRequest)
    (record : ClientRecord) : Prop where
  tunnel : record.tunnelID = tunnelID
  expiry : record.authorizationNotAfter = .at notAfter
  phase : ∃ receipt pending, Phase env request receipt pending record

/-- What a handler of the journaled request has seen. -/
structure HandlerSaw (site : Site) (tunnelID : Text) (notAfter : Time) (request : ManagementRequest)
    (host : Host) (hist : List HostStep) : Prop where
  shows : ∀ step ∈ hist, ShowsRotated site.env request step → RotatedNow site.env host request
  reads : ∀ choice reply, (⟨.readClient request.clientID, choice, reply⟩ : HostStep) ∈ hist →
    choice.outcome = .ok → ∃ record, reply = .found record ∧
      ReadInPhase site.env tunnelID notAfter request record

/-- The handler serves a request that was sent. -/
def Serves (site : Site) (tunnelID clientID : Text) (notAfter : Time) (client : Client) (_ : ℕ)
    (call : Call) (hist : List HostStep) (host : Host) : Prop :=
  ∃ request now, call = .rotate request now ∧ request ∈ client.sent ∧
    (IsJournaled tunnelID clientID client request →
      HandlerSaw site tunnelID notAfter request host hist)

/-- An answer that the command received was for a request it sent, and the host has rotated
the record by the journaled one. -/
def Heard (site : Site) (tunnelID clientID : Text) (host : Host) (_ : ℕ) (_ : ClientCall)
    (hist : List ClientStep) (client : Client) : Prop :=
  ∀ request, Received request hist → request ∈ client.sent ∧
    (IsJournaled tunnelID clientID client request → RotatedNow site.env host request)

/-- The two sides are in step, and so is what their processes have seen. -/
structure InStep (site : Site) (tunnelID clientID : Text) (notAfter : Time) (l : Sides) : Prop where
  synced : ∃ receipt record,
    Synced site tunnelID clientID notAfter l.left.state l.right.state receipt record
  handlers : l.left.Each (Serves site tunnelID clientID notAfter l.right.state)
  commands : l.right.Each (Heard site tunnelID clientID l.left.state)

variable {site : Site} {tunnelID clientID : Text} {notAfter : Time} {host host' : Host}
  {client client' : Client} {receipt : Receipt} {record : ClientRecord}
  {request other : ManagementRequest} {pending : PendingRotation} {now : Time} {pid : ℕ}
  {hist : List HostStep} {env : Env}

section

variable {written : ClientRecord}

theorem Phase.token (h : Phase env (requestFor tunnelID clientID pending) receipt pending record) :
    record.managementTokenSHA256 = hashManagementToken env pending.currentManagementToken ∨
      record.managementTokenSHA256 = hashManagementToken env pending.nextManagementToken := by
  cases h with
  | waiting _ htoken _ => exact .inl htoken
  | begun _ htoken _ _ _ => exact .inl htoken
  | rotated hrotated _ => exact .inr hrotated.token

theorem Synced.current_of_token
    (h : Synced site tunnelID clientID notAfter host client receipt record)
    (hsent : request ∈ client.sent)
    (htoken : record.managementTokenSHA256 = hashManagementToken site.env request.managementToken) :
    IsJournaled tunnelID clientID client request := by
  rcases (h.sent request hsent).2 with hcurrent | ⟨hreceipt, hpending⟩
  · exact hcurrent
  · exfalso
    cases hjournal : client.pending with
    | none =>
      have hagree := (h.agree hjournal).token
      exact hreceipt receipt h.receipted (htoken.symm.trans hagree)
    | some pending =>
      obtain ⟨hcurrent, hnext⟩ := hpending pending hjournal
      rcases (h.journal pending hjournal).phase.token with hphase | hphase
      · exact hcurrent (htoken.symm.trans hphase)
      · exact hnext (htoken.symm.trans hphase)

theorem rotation_of_clientWrite (h : ClientWrite site pid (.rotate request now) hist host written)
    (hstatus : written.status = .rotationPending ∨ written.status = .active) :
    (∃ old now', host.clients.get written.clientID = some old ∧ old.status = .active ∧
      written = beginRotation old (trimSpace request.newPublicKey)
        (hashManagementToken site.env request.nextManagementToken) now') ∨
    ∃ old now', host.clients.get written.clientID = some old ∧ old.status = .rotationPending ∧
      (∃ line, Did (recent old.clientID hist) (.replaceKey old.publicKey line) true) ∧
      written = finishRotation site.env old (trimSpace request.newPublicKey)
        (hashManagementToken site.env request.nextManagementToken) now' := by
  cases h with
  | activate _ _ hrequest _ _ _ _ => cases hrequest
  | @beginRotation old _ now' howns hrequest hactive _ =>
    cases hrequest
    exact .inl ⟨old, now', howns.stored, hactive, rfl⟩
  | @finishRotation old _ line now' howns hrequest hpending _ _ hswapped _ =>
    cases hrequest
    exact .inr ⟨old, now', howns.stored, hpending, ⟨line, hswapped⟩, rfl⟩
  | beginRevocation => simp [WarpTweet.beginRevocation] at hstatus
  | finishRevocation => simp [WarpTweet.finishRevocation] at hstatus
  | finishRevocationAsHost => simp [WarpTweet.finishRevocation] at hstatus
  | beginExpiration => simp [WarpTweet.beginExpiration] at hstatus
  | finishExpiration => simp [WarpTweet.finishExpiration] at hstatus

theorem token_of_matches {wantHash token : Text}
    (h : managementTokenMatches env wantHash token = true) :
    wantHash = hashManagementToken env token := by
  simp only [managementTokenMatches, Bool.and_eq_true, decide_eq_true_eq] at h
  exact h.2

section

variable (h : Synced site tunnelID clientID notAfter host client receipt record)
include h

theorem Synced.put (hpending : client.pending = some pending) (hid : written.clientID = clientID)
    (htunnel : written.tunnelID = record.tunnelID)
    (hexpiry : written.authorizationNotAfter = record.authorizationNotAfter)
    (hphase : Phase site.env (requestFor tunnelID clientID pending) receipt pending written) :
    Synced site tunnelID clientID notAfter { host with clients := host.clients.put written } client
      receipt written := by
  refine ⟨h.receipted, h.receiptID, ?_, htunnel.trans h.tunnel, hexpiry.trans h.expiry, ?_, ?_,
    h.sent⟩
  · rw [← hid]
    exact Directory.get_put_self
  · intro hnone
    rw [hpending] at hnone
    cases hnone
  · intro other hother
    rw [hpending, Option.some.injEq] at hother
    subst hother
    have hjournal := h.journal pending hpending
    exact ⟨hphase, hjournal.distinct, hjournal.trimmed⟩

theorem Synced.not_rotated (hpending : client.pending = some pending)
    (htoken : record.managementTokenSHA256 =
      hashManagementToken site.env pending.currentManagementToken) :
    ¬ Rotated site.env (requestFor tunnelID clientID pending) record ∧
      receipt.managementToken = pending.currentManagementToken := by
  have hjournal := h.journal pending hpending
  have hnot : ¬ Rotated site.env (requestFor tunnelID clientID pending) record := fun hrotated =>
    hjournal.distinct (htoken.symm.trans hrotated.token)
  refine ⟨hnot, ?_⟩
  cases hjournal.phase with
  | waiting _ _ hreceipt => exact hreceipt
  | begun _ _ _ _ hreceipt => exact hreceipt
  | rotated hrotated _ => exact absurd hrotated hnot

theorem Synced.write (hsent : request ∈ client.sent)
    (hguard : ClientWrite site pid (.rotate request now) hist host written)
    (hstep : RotateStep site.env (.rotate request now) (.writeClient written)) :
    Synced site tunnelID clientID notAfter { host with clients := host.clients.put written } client
        receipt written ∧
      IsJournaled tunnelID clientID client request ∧ ¬ Rotated site.env request record ∧
      (written.status = .active → Rotated site.env request written) := by
  obtain ⟨hid, hmatches⟩ := hstep request now rfl
  have hclientID : written.clientID = clientID := hid.trans (h.sent request hsent).1
  have hold : ∀ {old}, host.clients.get written.clientID = some old → old = record := by
    intro old hget
    rw [hclientID, h.stored, Option.some.injEq] at hget
    exact hget.symm
  rcases rotation_of_clientWrite hguard (hmatches.imp And.left And.left) with
    ⟨old, now', hget, hactive, rfl⟩ | ⟨old, now', hget, hpendingStatus, -, rfl⟩
  · obtain rfl := hold hget
    rcases hmatches with ⟨-, hmatch⟩ | ⟨hstatus, -⟩
    · have htoken := token_of_matches hmatch
      obtain ⟨pending, hpending, rfl⟩ := h.current_of_token hsent htoken
      obtain ⟨hnot, hreceipt⟩ := h.not_rotated hpending htoken
      refine ⟨h.put hpending hclientID rfl rfl (.begun rfl htoken rfl rfl hreceipt),
        ⟨pending, hpending, rfl⟩, hnot, fun hstatus => ?_⟩
      cases hstatus
    · cases hstatus
  · obtain rfl := hold hget
    rcases hmatches with ⟨hstatus, -⟩ | ⟨-, hmatch⟩
    · cases hstatus
    · have htoken := token_of_matches hmatch
      obtain ⟨pending, hpending, rfl⟩ := h.current_of_token hsent htoken
      obtain ⟨hnot, hreceipt⟩ := h.not_rotated hpending htoken
      have hrotated : Rotated site.env (requestFor tunnelID clientID pending)
          (finishRotation site.env old
            (trimSpace (requestFor tunnelID clientID pending).newPublicKey)
            (hashManagementToken site.env
              (requestFor tunnelID clientID pending).nextManagementToken) now') :=
        ⟨rfl, rfl, rfl, htoken⟩
      exact ⟨h.put hpending hclientID rfl rfl (.rotated hrotated (.inl hreceipt)),
        ⟨pending, hpending, rfl⟩, hnot, fun _ => hrotated⟩

end

end

/-! ## Steps of the host -/

section

variable {action : Action} {choice : Choice} {reply : action.Reply}

theorem IsJournaled.eq (h : IsJournaled tunnelID clientID client request)
    (hother : IsJournaled tunnelID clientID client other) : other = request := by
  obtain ⟨pending, hpending, rfl⟩ := h
  obtain ⟨pending', hpending', rfl⟩ := hother
  rw [hpending, Option.some.injEq] at hpending'
  rw [hpending']

/-- An action of a handler leaves the record as it is, or takes it one phase further. -/
theorem Synced.host_step (h : Synced site tunnelID clientID notAfter host client receipt record)
    (hsent : request ∈ client.sent)
    (hguard : Guard site pid (.rotate request now) hist action choice host)
    (hstep : RotateStep site.env (.rotate request now) action)
    (heffect : Effect pid choice host action host') :
    ∃ record', Synced site tunnelID clientID notAfter host' client receipt record' ∧
      (record' = record ∨ action = .writeClient record' ∧
        IsJournaled tunnelID clientID client request ∧ ¬ Rotated site.env request record ∧
        (record'.status = .active → Rotated site.env request record')) := by
  rcases heffect.clients with hsame | ⟨stored, rfl, -, -⟩ | ⟨written, rfl, -, hput⟩
  · exact ⟨record, ⟨h.receipted, h.receiptID, by rw [hsame]; exact h.stored, h.tunnel, h.expiry,
      h.agree, h.journal, h.sent⟩, .inl rfl⟩
  · have hstores : StoresClient site pid (.rotate request now) host stored := hguard
    obtain ⟨_, _, _, _, _, hrequest, -⟩ := hstores.wanted
    cases hrequest
  · obtain ⟨hsynced, hcurrent, hnot, hrotated⟩ := h.write hsent hguard hstep
    have hstored : host'.clients.get clientID = some written := by
      rw [hput]
      exact hsynced.stored
    exact ⟨written, ⟨h.receipted, h.receiptID, hstored, hsynced.tunnel, hsynced.expiry,
      hsynced.agree, hsynced.journal, h.sent⟩, .inr ⟨rfl, hcurrent, hnot, hrotated⟩⟩

theorem RotatedNow.host_step
    (hrotated : RotatedNow site.env host other) (hother : IsJournaled tunnelID clientID client other)
    (h : Synced site tunnelID clientID notAfter host client receipt record)
    (hsent : request ∈ client.sent)
    (hguard : Guard site pid (.rotate request now) hist action choice host)
    (hstep : RotateStep site.env (.rotate request now) action)
    (heffect : Effect pid choice host action host') : RotatedNow site.env host' other := by
  have hid : other.clientID = clientID := by
    obtain ⟨pending, -, rfl⟩ := hother
    rfl
  obtain ⟨found, hfound, hfoundRotated⟩ := hrotated
  obtain rfl : found = record := by
    rw [hid, h.stored, Option.some.injEq] at hfound
    exact hfound.symm
  obtain ⟨record', hsynced, rfl | ⟨-, hcurrent, hnot, -⟩⟩ := h.host_step hsent hguard hstep heffect
  · exact ⟨record', hid ▸ hsynced.stored, hfoundRotated⟩
  · exact absurd (hcurrent.eq hother ▸ hfoundRotated) hnot

theorem HandlerSaw.step (hsaw : HandlerSaw site tunnelID notAfter request host hist)
    (hcurrent : IsJournaled tunnelID clientID client request)
    (h : Synced site tunnelID clientID notAfter host client receipt record)
    (hsent : request ∈ client.sent)
    (hguard : Guard site pid (.rotate request now) hist action choice host)
    (hstep : RotateStep site.env (.rotate request now) action)
    (hperform : performAction site.env pid action choice host = some (reply, host')) :
    HandlerSaw site tunnelID notAfter request host' (⟨action, choice, reply⟩ :: hist) := by
  have heffect := effect_of_perform hperform
  have hid : request.clientID = clientID := (h.sent request hsent).1
  constructor
  · intro step hmem hshows
    rcases List.mem_cons.1 hmem with rfl | hmem
    · cases hshows with
      | @wrote written _ hwritten hrotated =>
        obtain rfl := writeClient_ok hperform
        exact ⟨written, by rw [← hwritten]; exact Directory.get_put_self, hrotated⟩
      | @found read _ hrotated =>
        obtain ⟨hstored, rfl⟩ := readClient_found hperform
        exact ⟨read, hstored, hrotated⟩
    · exact (hsaw.shows step hmem hshows).host_step hcurrent h hsent hguard hstep heffect
  · intro choice' reply' hmem hok
    rcases List.mem_cons.1 hmem with heq | hmem
    · cases heq
      simp only [performAction, hok, Outcome.reports, if_true, hid, h.stored, Option.some.injEq,
        Prod.mk.injEq] at hperform
      obtain ⟨hreply, -⟩ := hperform
      obtain ⟨pending, hpending, rfl⟩ := hcurrent
      exact ⟨record, hreply.symm, h.tunnel, h.expiry, receipt, pending,
        (h.journal pending hpending).phase⟩
    · exact hsaw.reads choice' reply' hmem hok

end

/-! ## Steps of the client -/

section

variable {hist : List ClientStep} {action : ClientAction}

section

variable (h : Synced site tunnelID clientID notAfter host client receipt record)
include h

theorem Synced.of_clients (hsame : host'.clients = host.clients) :
    Synced site tunnelID clientID notAfter host' client receipt record :=
  ⟨h.receipted, h.receiptID, by rw [hsame]; exact h.stored, h.tunnel, h.expiry, h.agree,
    h.journal, h.sent⟩

theorem Synced.of_files
    (hreceipt : client'.receipt = client.receipt) (hpending : client'.pending = client.pending)
    (hsent : client'.sent = client.sent) :
    Synced site tunnelID clientID notAfter host client' receipt record := by
  refine ⟨hreceipt ▸ h.receipted, h.receiptID, h.stored, h.tunnel, h.expiry, ?_, ?_, ?_⟩
  · rw [hpending]
    exact h.agree
  · rw [hpending]
    exact h.journal
  · intro request hmem
    rw [hsent] at hmem
    simp only [IsJournaled, Outdated, hreceipt, hpending]
    exact h.sent request hmem

theorem Synced.writeReceipt {written : Receipt}
    (hpending : client.pending = some pending) (hid : written.clientID = clientID)
    (hrecords : Records written pending)
    (hrotated : Rotated site.env (requestFor tunnelID clientID pending) record) :
    Synced site tunnelID clientID notAfter host { client with receipt := some written } written
      record := by
  refine ⟨rfl, hid, h.stored, h.tunnel, h.expiry, ?_, ?_, ?_⟩
  · intro hnone
    exact absurd (hpending.symm.trans hnone) (by simp)
  · intro other hother
    obtain rfl : pending = other := Option.some.inj (hpending.symm.trans hother)
    have hjournal := h.journal pending hpending
    exact ⟨.rotated hrotated (.inr hrecords), hjournal.distinct, hjournal.trimmed⟩
  · intro request hmem
    obtain ⟨hrequestID, hcurrent | houtdated⟩ := h.sent request hmem
    · exact ⟨hrequestID, .inl hcurrent⟩
    · refine ⟨hrequestID, .inr ⟨?_, houtdated.2⟩⟩
      rintro _ ⟨⟩
      rw [hrecords.token]
      exact (houtdated.2 pending hpending).2

theorem Synced.writePending
    (hnone : client.pending = none) (hbegins : Begins tunnelID receipt pending)
    (hfresh : FreshToken site.env client pending.nextManagementToken) :
    Synced site tunnelID clientID notAfter host { client with pending := some pending } receipt
      record := by
  have hagree := h.agree hnone
  refine ⟨h.receipted, h.receiptID, h.stored, h.tunnel, h.expiry, ?_, ?_, ?_⟩
  · rintro ⟨⟩
  · rintro _ ⟨⟩
    refine ⟨.waiting hagree.status ?_ hbegins.current.symm, ?_, hbegins.trimmed⟩
    · show _ = hashManagementToken site.env pending.currentManagementToken
      rw [hagree.token, hbegins.current]
    · rw [hbegins.current]
      exact hfresh.1 receipt h.receipted
  · intro request hmem
    obtain ⟨hrequestID, ⟨pending', hpending', -⟩ | houtdated⟩ := h.sent request hmem
    · exact absurd (hnone.symm.trans hpending') (by simp)
    · refine ⟨hrequestID, .inr ⟨houtdated.1, ?_⟩⟩
      rintro _ ⟨⟩
      refine ⟨?_, hfresh.2 request hmem⟩
      rw [hbegins.current]
      exact houtdated.1 receipt h.receipted

end

theorem JournalOf.agree
    (h : JournalOf env tunnelID clientID receipt record pending) (hrecords : Records receipt pending) :
    Agree env receipt record := by
  have hnot : receipt.managementToken ≠ pending.currentManagementToken := by
    intro heq
    exact h.distinct (by rw [← heq, hrecords.token])
  cases h.phase with
  | waiting _ _ hreceipt => exact absurd hreceipt hnot
  | begun _ _ _ _ hreceipt => exact absurd hreceipt hnot
  | rotated hrotated _ =>
    refine ⟨hrotated.status, ?_, ?_⟩
    · rw [hrecords.token]
      exact hrotated.token
    · rw [hrecords.publicKey, ← h.trimmed]
      exact hrotated.publicKey

theorem Synced.removePending (h : Synced site tunnelID clientID notAfter host client receipt record)
    (hrecords : ∀ pending, client.pending = some pending → Records receipt pending) :
    Synced site tunnelID clientID notAfter host { client with pending := none } receipt record := by
  refine ⟨h.receipted, h.receiptID, h.stored, h.tunnel, h.expiry, fun _ => ?_, ?_, ?_⟩
  · cases hpending : client.pending with
    | none => exact h.agree hpending
    | some pending => exact (h.journal pending hpending).agree (hrecords pending hpending)
  · rintro _ ⟨⟩
  · intro request hmem
    refine ⟨(h.sent request hmem).1, .inr ⟨?_, ?_⟩⟩
    · rcases (h.sent request hmem).2 with ⟨pending, hpending, rfl⟩ | houtdated
      · intro receipt' hreceipt'
        obtain rfl : receipt = receipt' := Option.some.inj (h.receipted.symm.trans hreceipt')
        rw [(hrecords pending hpending).token]
        exact (h.journal pending hpending).distinct
      · exact houtdated.1
    · rintro _ ⟨⟩

/-- What a step of the client keeps: the sides stay in step, and no request that was sent
earlier becomes the journaled one. -/
structure KeepsStep (site : Site) (tunnelID clientID : Text) (notAfter : Time) (host : Host)
    (record : ClientRecord) (client client' : Client) : Prop where
  synced : ∃ receipt, Synced site tunnelID clientID notAfter host client' receipt record
  sent : client.sent ⊆ client'.sent
  current : ∀ request ∈ client.sent, IsJournaled tunnelID clientID client' request →
    IsJournaled tunnelID clientID client request

section

variable (h : Synced site tunnelID clientID notAfter host client receipt record)
include h

theorem KeepsStep.of_files
    (hreceipt : client'.receipt = client.receipt) (hpending : client'.pending = client.pending)
    (hsent : client'.sent = client.sent) :
    KeepsStep site tunnelID clientID notAfter host record client client' := by
  refine ⟨⟨receipt, h.of_files hreceipt hpending hsent⟩, hsent ▸ List.Subset.refl _, ?_⟩
  rintro request - ⟨pending, hjournaled, rfl⟩
  exact ⟨pending, hpending ▸ hjournaled, rfl⟩

theorem Synced.current_rotateRequest (hpending : client.pending = some pending) :
    rotateRequest receipt tunnelID pending = requestFor tunnelID clientID pending ∧
      IsJournaled tunnelID clientID client (rotateRequest receipt tunnelID pending) := by
  have heq : rotateRequest receipt tunnelID pending = requestFor tunnelID clientID pending := by
    rw [rotateRequest, requestFor, h.receiptID]
  exact ⟨heq, pending, hpending, heq⟩

theorem keepsStep_of_client (hguard : ClientGuard tunnelID pid hist action client)
    (hfresh : DrawsFresh site.env client action)
    (hheard : Heard site tunnelID clientID host pid .rotate hist client)
    (heffect : ClientEffect pid client action client') :
    KeepsStep site tunnelID clientID notAfter host record client client' := by
  cases heffect with
  | @writeReceipt written =>
    obtain ⟨receipt', pending, hjournals, hreceived, hid, hrecords⟩ := hguard
    obtain rfl : receipt = receipt' := Option.some.inj (h.receipted.symm.trans hjournals.receipted)
    obtain ⟨heq, hcurrent⟩ := h.current_rotateRequest hjournals.journaled
    obtain ⟨record', hstored, hrotated⟩ := (hheard _ hreceived).2 hcurrent
    rw [heq] at hstored hrotated
    obtain rfl : record = record' := Option.some.inj (h.stored.symm.trans hstored)
    exact ⟨⟨written, h.writeReceipt hjournals.journaled (hid.trans h.receiptID) hrecords hrotated⟩,
      List.Subset.refl _, fun _ _ hcurrent' => hcurrent'⟩
  | @writePending pending =>
    obtain ⟨-, hnone, receipt', hreceipt', hbegins⟩ := hguard
    obtain rfl : receipt = receipt' := Option.some.inj (h.receipted.symm.trans hreceipt')
    refine ⟨⟨receipt, h.writePending hnone hbegins hfresh⟩, List.Subset.refl _, ?_⟩
    -- A request that was sent has an older token than the receipt.
    rintro request hmem ⟨_, ⟨⟩, rfl⟩
    rcases (h.sent _ hmem).2 with hcurrent | houtdated
    · exact hcurrent
    · refine absurd ?_ (houtdated.1 receipt h.receipted)
      rw [requestFor, hbegins.current]
  | @removeStage pending stagedKey hpending =>
    obtain ⟨-, hrecords⟩ := hguard
    rcases hpending with rfl | rfl
    · have hremoved := h.removePending fun pending hjournaled => by
        obtain ⟨receipt', hreceipt', hrecorded⟩ := hrecords pending hjournaled
        obtain rfl : receipt = receipt' := Option.some.inj (h.receipted.symm.trans hreceipt')
        exact hrecorded
      refine ⟨⟨receipt, hremoved.of_files rfl rfl rfl⟩, List.Subset.refl _, ?_⟩
      rintro request - ⟨_, ⟨⟩, -⟩
    · exact .of_files h rfl rfl rfl
  | @send request =>
    obtain ⟨receipt', pending, hjournals, rfl⟩ := hguard
    obtain rfl : receipt = receipt' := Option.some.inj (h.receipted.symm.trans hjournals.receipted)
    obtain ⟨-, hcurrent⟩ := h.current_rotateRequest hjournals.journaled
    refine ⟨⟨receipt, h.receipted, h.receiptID, h.stored, h.tunnel, h.expiry, h.agree, h.journal,
      ?_⟩, List.subset_cons_self _ _, fun _ _ hcurrent' => hcurrent'⟩
    intro other hmem
    rcases List.mem_cons.1 hmem with rfl | hmem
    · exact ⟨h.receiptID, .inl hcurrent⟩
    · exact h.sent other hmem
  | acquire | unlock | keygen | writeState | writeGeneration | activate | kept =>
    exact .of_files h rfl rfl rfl

end

end

/-! ## Runs -/

section

variable {D : Sides → SidesMove → Prop} {l : Sides}

def IsRotate (call : Call) : Prop := ∃ request now, call = .rotate request now

theorem isRotate_of_meets {call : Call} (h : Meets l (.left (.start pid call))) :
    ∃ request now, call = .rotate request now ∧ request ∈ l.right.state.sent := by
  cases call with
  | rotate request now => exact ⟨request, now, rfl, h⟩
  | _ => exact absurd h id

theorem starts_of_meets {move : Move Call Choice} (h : Meets l (.left move)) :
    Starts IsRotate l.left move := by
  cases move with
  | start pid call =>
    obtain ⟨request, now, rfl, -⟩ := isRotate_of_meets h
    exact ⟨request, now, rfl⟩
  | advance => trivial
  | stop => trivial

section

variable (hrun : LinkRun (hostMachine site) (clientMachine tunnelID) D (Link.idle host client) l)
include hrun

theorem grantGuarded_of_linkRun : PoolGuarded (grantProtocol site) l.left := by
  have hleft : Run (hostMachine site) (fun _ _ => True) (Config.idle host) l.left :=
    hrun.left fun _ _ _ => trivial
  exact hleft.poolGuarded (fun _ _ _ _ _ _ => trivial) fun {c pid call} _ =>
    (walks_callProgram site pid call [] c.state).guarded

theorem handlerGuarded_of_linkRun
    (hD : ∀ l move, D l move → Rotates site l move) : PoolGuarded (handlerProtocol site) l.left := by
  have hleft : Run (hostMachine site) (Starts IsRotate) (Config.idle host) l.left :=
    hrun.left fun l move hallowed => starts_of_meets (hD l _ hallowed).1
  refine hleft.poolGuarded (fun _ _ _ _ _ _ => trivial) ?_
  rintro c pid call ⟨request, now, rfl⟩
  exact ensures_handlerProtocol

theorem clientGuarded_of_linkRun : PoolGuarded (rotateProtocol tunnelID) l.right := by
  have hright : Run (clientMachine tunnelID) (fun _ _ => True) (Config.idle client) l.right :=
    hrun.right fun _ _ _ => trivial
  refine hright.poolGuarded (fun _ _ _ _ _ _ => trivial) ?_
  rintro c pid ⟨⟩ _
  exact ensures_runRotate

end

section

variable (h : InStep site tunnelID clientID notAfter l)
include h

theorem InStep.host_started (hsent : request ∈ l.right.state.sent) :
    InStep site tunnelID clientID notAfter
      { l with left := l.left.started (hostMachine site) pid (.rotate request now) } := by
  refine ⟨h.synced, h.handlers.started ⟨request, now, rfl, hsent, fun _ => ⟨?_, ?_⟩⟩, h.commands⟩
  · rintro step ⟨⟩
  · rintro choice reply ⟨⟩

theorem InStep.host_stopped : InStep site tunnelID clientID notAfter
      { l with left := l.left.stopped (hostMachine site) pid } := by
  obtain ⟨receipt, record, hsynced⟩ := h.synced
  refine ⟨⟨receipt, record, hsynced.of_clients rfl⟩, h.handlers.stopped ?_, h.commands⟩
  rintro pid' - call hist ⟨request, now, rfl, hsent, hsaw⟩
  exact ⟨request, now, rfl, hsent, fun hcurrent => ⟨(hsaw hcurrent).shows, (hsaw hcurrent).reads⟩⟩

theorem InStep.host_advanced {process : HostProcess} {action : Action} {choice : Choice}
    {reply : action.Reply} {rest : HostProg Unit} {host' : Host}
    (hp : l.left.procs pid = some process)
    (hguard : Guard site pid process.call process.hist action choice l.left.state)
    (hstep : RotateStep site.env process.call action)
    (hperform : performAction site.env pid action choice l.left.state = some (reply, host')) :
    InStep site tunnelID clientID notAfter
      { l with left := l.left.advanced pid process ⟨action, choice, reply⟩ rest host' } := by
  obtain ⟨receipt, record, hsynced⟩ := h.synced
  obtain ⟨request, now, hcall, hsent, hsaw⟩ := h.handlers pid process hp
  rw [hcall] at hguard hstep
  have heffect := effect_of_perform hperform
  have hrotated : ∀ {other}, IsJournaled tunnelID clientID l.right.state other →
      RotatedNow site.env l.left.state other → RotatedNow site.env host' other :=
    fun hother hnow => hnow.host_step hother hsynced hsent hguard hstep heffect
  obtain ⟨record', hsynced', -⟩ := hsynced.host_step hsent hguard hstep heffect
  refine ⟨⟨receipt, record', hsynced'⟩, h.handlers.advanced hp ?_ ?_, ?_⟩
  · intro _
    exact ⟨request, now, hcall, hsent, fun hcurrent =>
      (hsaw hcurrent).step hcurrent hsynced hsent hguard hstep hperform⟩
  · rintro pid' - call hist ⟨other, now', rfl, hother, hsaw'⟩
    refine ⟨other, now', rfl, hother, fun hcurrent => ⟨?_, (hsaw' hcurrent).reads⟩⟩
    exact fun step hmem hshows => hrotated hcurrent ((hsaw' hcurrent).shows step hmem hshows)
  · intro pid' process' hp' other hreceived
    obtain ⟨hother, hnow⟩ := h.commands pid' process' hp' other hreceived
    exact ⟨hother, fun hcurrent => hrotated hcurrent (hnow hcurrent)⟩

theorem InStep.rotatedNow_of_answers {proof : RotateProof}
    (hguarded : PoolGuarded (handlerProtocol site) l.left)
    (hanswers : Answers l.left request pid proof) :
    request ∈ l.right.state.sent ∧ (IsJournaled tunnelID clientID l.right.state request →
      RotatedNow site.env l.left.state request) := by
  obtain ⟨process, hp, hsucceeded, -, -, hmatch⟩ := hanswers
  obtain ⟨other, now, hcall, hsent, hsaw⟩ := h.handlers pid process hp
  rw [hcall] at hmatch
  obtain rfl : other = request := hmatch
  refine ⟨hsent, fun hcurrent => ?_⟩
  obtain ⟨outcome, houtcome, hends⟩ := hguarded.ends hp hsucceeded.finished
  obtain rfl := houtcome.2 hsucceeded
  obtain ⟨step, hmem, hshows⟩ := hends other now hcall
  exact (hsaw hcurrent).shows step hmem hshows

theorem InStep.client_started {call : ClientCall} : InStep site tunnelID clientID notAfter
      { l with right := l.right.started (clientMachine tunnelID) pid call } := by
  refine ⟨h.synced, h.handlers, h.commands.started ?_⟩
  rintro request ⟨choice, proof, ⟨⟩⟩

theorem InStep.client_stopped : InStep site tunnelID clientID notAfter
      { l with right := l.right.stopped (clientMachine tunnelID) pid } := by
  obtain ⟨receipt, record, hsynced⟩ := h.synced
  exact ⟨⟨receipt, record, hsynced.of_files rfl rfl rfl⟩, h.handlers,
    h.commands.stopped fun _ _ _ _ hheard => hheard⟩

theorem InStep.client_advanced {process : ClientProcess} {action : ClientAction}
    {choice : ClientChoice} {reply : action.Reply} {rest : action.Reply → ClientProg Unit}
    {prog : ClientProg Unit} {client' : Client}
    (hguarded : PoolGuarded (handlerProtocol site) l.left) (hp : l.right.procs pid = some process)
    (hprog : process.prog = .act action rest)
    (hguard : ClientGuard tunnelID pid process.hist action l.right.state)
    (hallowed : Rotates site l (.right (.advance pid choice)))
    (hperform : performClient pid action choice l.right.state = some (reply, client')) :
    InStep site tunnelID clientID notAfter
      { l with right := l.right.advanced pid process ⟨action, choice, reply⟩ prog client' } := by
  have hnext : (process, action) ∈ l.right.upcoming pid := by
    simp [Config.upcoming, hp, hprog]
  obtain ⟨receipt, record, hsynced⟩ := h.synced
  have hheard := h.commands pid process hp
  have hkeeps := keepsStep_of_client hsynced hguard (hallowed.2 _ hnext) hheard
    (effect_of_performClient hperform)
  obtain ⟨receipt', hsynced'⟩ := hkeeps.synced
  have hkept : ∀ {request}, (request ∈ l.right.state.sent ∧
      (IsJournaled tunnelID clientID l.right.state request →
        RotatedNow site.env l.left.state request)) →
      request ∈ client'.sent ∧ (IsJournaled tunnelID clientID client' request →
        RotatedNow site.env l.left.state request) :=
    fun h => ⟨hkeeps.sent h.1, fun hcurrent => h.2 (hkeeps.current _ h.1 hcurrent)⟩
  refine ⟨⟨receipt', record, hsynced'⟩, ?_, h.commands.advanced hp ?_ ?_⟩
  · intro pid' process' hp'
    obtain ⟨request, now, hcall, hsent, hsaw⟩ := h.handlers pid' process' hp'
    exact ⟨request, now, hcall, hkeeps.sent hsent, fun hcurrent =>
      hsaw (hkeeps.current request hsent hcurrent)⟩
  · rintro - request ⟨choice', proof, hmem⟩
    rcases List.mem_cons.1 hmem with heq | hmem
    · -- The answer that arrives comes from a handler that has accepted the request.
      cases heq
      obtain ⟨answer, hanswer, -⟩ := Option.map_eq_some_iff.1 (congrArg Prod.fst (Option.some.inj hperform))
      exact hkept (h.rotatedNow_of_answers hguarded (hallowed.1 _ hnext answer hanswer))
    · exact hkept (hheard request ⟨choice', proof, hmem⟩)
  · exact fun pid' _ _ hist hheard' request hreceived => hkept (hheard' request hreceived)

end

theorem inStep_of_linkRun
    (hrun : LinkRun (hostMachine site) (clientMachine tunnelID) D (Link.idle host client) l)
    (hD : ∀ l move, D l move → Rotates site l move)
    (h₀ : InStep site tunnelID clientID notAfter (Link.idle host client)) :
    InStep site tunnelID clientID notAfter l := by
  refine hrun.induct (I := InStep site tunnelID clientID notAfter) h₀ ?_ ?_
  · intro l move left hbefore h hallowed hnext
    rcases Config.next_eq_some hnext with
      ⟨pid, call, rfl, -, rfl⟩ | ⟨pid, process, action, rest, choice, reply, state, rfl, hp, hprog,
        hperform, rfl⟩ | ⟨pid, process, rfl, -, rfl⟩
    · obtain ⟨request, now, rfl, hsent⟩ := isRotate_of_meets (hD _ _ hallowed).1
      exact h.host_started hsent
    · exact h.host_advanced hp
        ((grantGuarded_of_linkRun hbefore).guard hp hprog trivial hperform)
        ((handlerGuarded_of_linkRun hbefore hD).guard hp hprog trivial hperform) hperform
    · exact h.host_stopped
  · intro l move right hbefore h hallowed hnext
    rcases Config.next_eq_some hnext with
      ⟨pid, call, rfl, -, rfl⟩ | ⟨pid, process, action, rest, choice, reply, state, rfl, hp, hprog,
        hperform, rfl⟩ | ⟨pid, process, rfl, -, rfl⟩
    · exact h.client_started
    · exact h.client_advanced (handlerGuarded_of_linkRun hbefore hD) hp hprog
        ((clientGuarded_of_linkRun hbefore).guard hp hprog trivial hperform) (hD _ _ hallowed)
        hperform
    · exact h.client_stopped

/-- An enrolled client that is not rotating: its receipt and the host's record agree. -/
structure EnrolledAtRest (site : Site) (tunnelID clientID : Text) (notAfter : Time) (host : Host)
    (client : Client) : Prop where
  agree : ∃ receipt record, client.receipt = some receipt ∧ receipt.clientID = clientID ∧
    host.clients.get clientID = some record ∧ record.tunnelID = tunnelID ∧
    record.authorizationNotAfter = .at notAfter ∧ Agree site.env receipt record
  pending : client.pending = none
  sent : client.sent = []

theorem inStep_of_enrolled (h : EnrolledAtRest site tunnelID clientID notAfter host client) :
    InStep site tunnelID clientID notAfter (Link.idle host client) := by
  obtain ⟨receipt, record, hreceipt, hid, hstored, htunnel, hexpiry, hagree⟩ := h.agree
  refine ⟨⟨receipt, record, hreceipt, hid, hstored, htunnel, hexpiry, fun _ => hagree, ?_, ?_⟩,
    .idle, .idle⟩
  · intro pending hpending
    exact absurd (h.pending.symm.trans hpending) (by simp)
  · intro request hmem
    rw [show (Link.idle host client : Sides).right.state.sent = [] from h.sent] at hmem
    cases hmem

/-- The host's token is one that the client holds in its receipt or in its journal. -/
def TokenHeld (env : Env) (clientID : Text) (host : Host) (client : Client) : Prop :=
  ∃ record token, host.clients.get clientID = some record ∧
    record.managementTokenSHA256 = hashManagementToken env token ∧
    ((∃ receipt ∈ client.receipt, token = receipt.managementToken) ∨
      ∃ pending ∈ client.pending,
        token = pending.currentManagementToken ∨ token = pending.nextManagementToken)

theorem InStep.tokenHeld (h : InStep site tunnelID clientID notAfter l) :
    TokenHeld site.env clientID l.left.state l.right.state := by
  obtain ⟨receipt, record, hsynced⟩ := h.synced
  cases hpending : l.right.state.pending with
  | none =>
    exact ⟨record, receipt.managementToken, hsynced.stored, (hsynced.agree hpending).token,
      .inl ⟨receipt, hsynced.receipted, rfl⟩⟩
  | some pending =>
    rcases (hsynced.journal pending hpending).phase.token with htoken | htoken
    · exact ⟨record, _, hsynced.stored, htoken, .inr ⟨pending, hpending, .inl rfl⟩⟩
    · exact ⟨record, _, hsynced.stored, htoken, .inr ⟨pending, hpending, .inr rfl⟩⟩

/-- The request is well formed, its key can be authorized, and the grant has not ended. -/
structure Servable (site : Site) (notAfter : Time) (request : ManagementRequest) (now : Time) :
    Prop where
  wellformed : Wellformed request
  renders : ∃ line, renderAuthorizedKey site.env site.manifest request.newPublicKey notAfter =
    .ok line
  nonzero : now.isZero = false
  unexpired : readyToExpire notAfter now = false

/-- A handler that serves the request and whose actions do not fail does not refuse it. -/
def NeverRefused (host : Pool) (request : ManagementRequest) (now : Time) : Prop :=
  ∀ pid process, host.procs pid = some process → process.call = .rotate request now →
    (∀ step ∈ process.hist, step.choice.outcome = .ok) → process.Finished → process.Succeeded

theorem managementTokenMatches_self {token : Text}
    (hsha : ∀ text, env.sha256 text ≠ []) (htoken : isManagementToken token = true) :
    managementTokenMatches env (hashManagementToken env token) token = true := by
  simp [managementTokenMatches, hashManagementToken, hsha, htoken]

theorem fits_of_readInPhase {record : ClientRecord}
    (hsha : ∀ text, site.env.sha256 text ≠ []) (hservable : Servable site notAfter request now)
    (h : ReadInPhase site.env request.tunnelID notAfter request record) :
    Fits site request now record := by
  have hshape := hservable.wellformed.shape
  simp only [validateManagementRequestShape, except_bind_eq_ok, refuseIf_eq_ok] at hshape
  obtain ⟨-, -, -, -, hcapability⟩ := hshape
  have hmatches : ∀ {hash}, hash = hashManagementToken site.env request.managementToken →
      managementTokenMatches site.env hash request.managementToken = true := by
    rintro _ rfl
    exact managementTokenMatches_self hsha (by simpa using hcapability)
  refine ⟨h.tunnel, ⟨notAfter, h.expiry, hservable.unexpired, hservable.renders⟩, ?_⟩
  obtain ⟨receipt, pending, hphase⟩ := h.phase
  cases hphase with
  | waiting hstatus htoken _ => exact .inl ⟨hstatus, hmatches htoken⟩
  | begun hstatus htoken hkey hnext _ => exact .inr (.inl ⟨hstatus, hmatches htoken, hkey, hnext⟩)
  | rotated hrotated _ => exact .inr (.inr hrotated)

theorem InStep.neverRefused {pending : PendingRotation}
    (h : InStep site tunnelID clientID notAfter l)
    (hguarded : PoolGuarded (handlerProtocol site) l.left)
    (hsha : ∀ text, site.env.sha256 text ≠ []) (hpending : l.right.state.pending = some pending)
    (hservable : Servable site notAfter (requestFor tunnelID clientID pending) now) :
    NeverRefused l.left (requestFor tunnelID clientID pending) now := by
  intro pid process hp hcall hok hfinished
  obtain ⟨outcome, houtcome, hends⟩ := hguarded.ends hp hfinished
  have hends' := hends _ now hcall
  cases outcome with
  | ok => exact houtcome.1 rfl
  | error err =>
    exfalso
    obtain ⟨request, now', hcall', -, hsaw⟩ := h.handlers pid process hp
    obtain ⟨rfl, rfl⟩ : requestFor tunnelID clientID pending = request ∧ now = now' := by
      simpa using hcall.symm.trans hcall'
    have hreads := (hsaw ⟨pending, hpending, rfl⟩).reads
    obtain ⟨step, hmem, hfailed | hunfit⟩ := hends' hservable.wellformed hservable.nonzero
    · exact hfailed (hok step hmem)
    · cases hunfit with
      | missing =>
        obtain ⟨record, hfound, -⟩ := hreads _ _ hmem (hok _ hmem)
        cases hfound
      | unfit hunfit =>
        obtain ⟨record, hfound, hphase⟩ := hreads _ _ hmem (hok _ hmem)
        cases hfound
        exact hunfit (fits_of_readInPhase hsha hservable hphase)

/-- When the move ends a command with success, the receipt and the record agree. -/
def AgreesWhenDone (site : Site) (tunnelID clientID : Text) (l : Sides) (right : ClientPool) : Prop :=
  ∀ pid, right.HasSucceeded pid → ¬ l.right.HasSucceeded pid →
    ∃ receipt record, right.state.receipt = some receipt ∧
      l.left.state.clients.get clientID = some record ∧ record.tunnelID = tunnelID ∧
      Agree site.env receipt record

theorem pending_of_succeeded {right : ClientPool} {move : Move ClientCall ClientChoice}
    (hguarded : PoolGuarded (rotateProtocol tunnelID) l.right)
    (hguarded' : PoolGuarded (rotateProtocol tunnelID) right)
    (hnext : l.right.next (clientMachine tunnelID) move = some right)
    (hdone : right.HasSucceeded pid) (hbefore : ¬ l.right.HasSucceeded pid) :
    right.state.pending = none := by
  obtain ⟨process, hp, hsucceeded⟩ := hdone
  rcases Config.next_eq_some hnext with
    ⟨other, call, rfl, hnew, rfl⟩ | ⟨other, process', action, rest, choice, reply, state, rfl, hp',
      hprog, hperform, rfl⟩ | ⟨other, process', rfl, hp', rfl⟩
  · by_cases hpid : pid = other
    · subst hpid
      simp only [Config.started, Function.update_self, Option.mem_def, Option.some.injEq] at hp
      subst hp
      exact absurd hsucceeded id
    · simp only [Config.started, Function.update_of_ne hpid] at hp
      exact absurd ⟨process, hp, hsucceeded⟩ hbefore
  · by_cases hpid : pid = other
    · subst hpid
      -- The last step of the command is the release of the admin lock.
      obtain ⟨outcome, houtcome, hends⟩ := hguarded'.ends hp hsucceeded.finished
      obtain ⟨choice', before, hhist, hcleared⟩ := hends (houtcome.2 hsucceeded)
      simp only [Config.advanced, Function.update_self, Option.mem_def, Option.some.injEq] at hp
      subst hp
      obtain ⟨hstep, rfl⟩ := List.cons.inj hhist
      cases hstep
      have hguard : ClientGuard tunnelID pid process'.hist .adminUnlock l.right.state :=
        hguarded.guard hp' hprog trivial hperform
      have hstate : state = { l.right.state with locked := none } :=
        (congrArg Prod.snd (Option.some.inj hperform)).symm
      subst hstate
      exact hguard.2 hcleared
    · rw [Config.procs_advanced_of_ne hpid] at hp
      exact absurd ⟨process, hp, hsucceeded⟩ hbefore
  · by_cases hpid : pid = other
    · subst hpid
      simp [Config.stopped] at hp
    · simp only [Config.stopped, Function.update_of_ne hpid] at hp
      exact absurd ⟨process, hp, hsucceeded⟩ hbefore

end

/-- Through any rotations of an enrolled client, with requests and answers lost or repeated and
both sides stopped after any step: the host's token is one that the client holds durably, the
journaled request is not refused, and a command that succeeds leaves the receipt and the
record in agreement. -/
theorem token_agreement (site : Site) (tunnelID clientID : Text) (notAfter : Time) (host : Host)
    (client : Client) (l : Sides) (hsha : ∀ text, site.env.sha256 text ≠ [])
    (henrolled : EnrolledAtRest site tunnelID clientID notAfter host client)
    (hrun : LinkRun (hostMachine site) (clientMachine tunnelID) (Rotates site)
      (Link.idle host client) l) :
    TokenHeld site.env clientID l.left.state l.right.state ∧
    (∀ pending now, l.right.state.pending = some pending →
      Servable site notAfter (requestFor tunnelID clientID pending) now →
      NeverRefused l.left (requestFor tunnelID clientID pending) now) ∧
    ∀ move right, Rotates site l (.right move) →
      l.right.next (clientMachine tunnelID) move = some right →
      AgreesWhenDone site tunnelID clientID l right := by
  have hstep : InStep site tunnelID clientID notAfter l :=
    inStep_of_linkRun hrun (fun _ _ h => h) (inStep_of_enrolled henrolled)
  refine ⟨hstep.tokenHeld, ?_, ?_⟩
  · intro pending now hpending hservable
    exact hstep.neverRefused (handlerGuarded_of_linkRun hrun fun _ _ h => h) hsha hpending hservable
  · intro move right hallowed hnext pid hdone hbefore
    have hrun' : LinkRun (hostMachine site) (clientMachine tunnelID) (Rotates site)
        (Link.idle host client) { l with right } := by
      have hlink : l.next (hostMachine site) (clientMachine tunnelID) (.right move) =
          some { l with right } := by simp [Link.next, hnext]
      exact .step hrun hallowed hlink
    have hpending : right.state.pending = none :=
      pending_of_succeeded (clientGuarded_of_linkRun hrun) (clientGuarded_of_linkRun hrun') hnext
        hdone hbefore
    have hstep' : InStep site tunnelID clientID notAfter { l with right } :=
      inStep_of_linkRun hrun' (fun _ _ h => h) (inStep_of_enrolled henrolled)
    obtain ⟨receipt, record, hsynced⟩ := hstep'.synced
    exact ⟨receipt, record, hsynced.receipted, hsynced.stored, hsynced.tunnel,
      hsynced.agree hpending⟩

theorem enrolled_scenario :
    EnrolledAtRest Scenario.site ['t'] (Scenario.clientID 'A') (Scenario.now + 7200 * Time.second)
      (Scenario.after (Scenario.accepting 'A')) (Scenario.client 'A') := by
  have hrecord : ∃ record ∈ (Scenario.after (Scenario.accepting 'A')).clients.get
      (Scenario.clientID 'A'), record.tunnelID = ['t'] ∧
        record.authorizationNotAfter = .at (Scenario.now + 7200 * Time.second) ∧
        record.status = .active ∧
        record.managementTokenSHA256 = hashManagementToken Scenario.env (Scenario.token '1') ∧
        record.publicKey = Scenario.key 'A' := by
    decide +kernel
  obtain ⟨record, hstored, htunnel, hexpiry, hstatus, htoken, hkey⟩ := hrecord
  exact ⟨⟨_, record, rfl, rfl, hstored, htunnel, hexpiry, hstatus, htoken, hkey⟩, rfl, rfl⟩

/-- A rotation whose answer has not arrived yet: the host has the journaled token, and a
repeated request is not refused. -/
theorem token_agreement_before_answer :
    ∃ l, LinkRun (hostMachine Scenario.site) (clientMachine ['t']) (Rotates Scenario.site)
        (Link.idle (Scenario.after (Scenario.accepting 'A')) (Scenario.client 'A')) l ∧
      l.left.HasSucceeded 1 ∧
      TokenHeld Scenario.env (Scenario.clientID 'A') l.left.state l.right.state ∧
      NeverRefused l.left (Scenario.management 'A' 'D') Scenario.now := by
  refine LinkRun.exists_imp_of_runLinkMoves
    (Scenario.requesting 0 'D' ++ Scenario.serving 1 'A' 'D')
    (fun l => l.left.HasSucceeded 1 ∧ l.right.state.pending.map
      (requestFor ['t'] (Scenario.clientID 'A')) = some (Scenario.management 'A' 'D'))
    (by decide +kernel) ?_
  rintro l hrun ⟨hserved, hjournaled⟩
  obtain ⟨pending, hpending, hrequest⟩ := Option.map_eq_some_iff.1 hjournaled
  obtain ⟨hheld, hretries, -⟩ := token_agreement Scenario.site ['t'] (Scenario.clientID 'A')
    (Scenario.now + 7200 * Time.second) _ _ l (by simp [Scenario.site, Scenario.env, Scenario.sha256])
    enrolled_scenario hrun
  refine ⟨hserved, hheld, ?_⟩
  rw [← hrequest]
  refine hretries pending Scenario.now hpending ⟨?_, ?_, by decide, by decide⟩
  · rw [hrequest]
    exact ⟨by decide, by decide +kernel, by decide +kernel, by decide +kernel⟩
  · rw [hrequest]
    exact ⟨_, rfl⟩

end WarpTweet
