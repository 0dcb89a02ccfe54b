import WarpTweet.Analysis.Hosts

/-!
# What is minted and what is read

An invite that `mintServerInvite` returns, in terms of the server manifest it is minted from, and
the invite that `ParseClientInvite` returns for a document of it: the same invite.
-/

namespace WarpTweet

open Strings

variable {nonce inviteID : RandomHex} {clock : Time}

section

variable {env : Env} {manifest : ServerConfig} {invite : Invite} {record : Record}

/-- An invite of a server manifest: its hosts are the canonical dials, and its target, account
and profile are those of the manifest. -/
structure Minted (env : Env) (manifest : ServerConfig) (invite : Invite) : Prop where
  dataHost : manifest.network.data.dial.host.canonical env.net = .ok invite.data.host
  enrollHost : manifest.network.enrollment.dial.host.canonical env.net = .ok invite.enrollment.host
  dataPort : invite.data.port = manifest.network.data.dial.port
  target : ∃ addr, manifest.target.address = some addr ∧
    invite.targetAddress = env.net.format addr
  targetPort : invite.targetPort = uint16 manifest.target.port
  principal : invite.principal = manifest.dedicatedUser
  profile : invite.profileID = manifest.profileID

theorem of_create {input : CreateInput}
    (h : create env input nonce inviteID clock = .ok (invite, record)) :
    canonicalInviteHost env input.dataHost = .ok invite.data.host ∧
    canonicalInviteHost env input.enrollmentHost = .ok invite.enrollment.host ∧
    invite.data.port = input.dataPort ∧
    invite.targetAddress = addrText env.net input.targetAddress ∧
    invite.targetPort = input.targetPort ∧
    invite.principal = input.principal ∧
    invite.profileID = input.profileID := by
  simp only [create, except_bind_eq_ok, mapError_eq_ok] at h
  obtain ⟨_, -, _, -, seconds, -, dataHost, hdata, enrollHost, henroll, _, -, h⟩ := h
  cases h
  exact ⟨hdata, henroll, rfl, rfl, rfl, rfl, rfl⟩

/-- **What `mintServerInvite` returns is an invite of the manifest.** -/
theorem minted_of_mintServerInvite (hnet : env.net.Lawful) {install : HostInstall}
    {clientName hostPublicKey pin : Text} {target : Addr × Nat} {seconds : Int} {now : Time}
    (h : mintServerInvite env install clientName target manifest hostPublicKey pin seconds now
      nonce inviteID clock = .ok (invite, record)) : Minted env manifest invite := by
  simp only [mintServerInvite, except_bind_eq_ok, refuseIf_eq_ok, Bool.or_eq_false_iff] at h
  obtain ⟨_, ⟨htarget, -⟩, _, -, _, -, dataHost, hdata, enrollHost, henroll, h⟩ := h
  obtain ⟨hdata', henroll', hport, haddress, htargetPort, hprincipal, hprofile⟩ := of_create h
  have haddr : manifest.target.address = some target.1 := by simpa using htarget
  -- the dials are canonical already, so that `Create` leaves them as they are
  rw [(isHost_of_canonical hnet hdata).canonicalInviteHost_eq hnet, Except.ok.injEq] at hdata'
  rw [(isHost_of_canonical hnet henroll).canonicalInviteHost_eq hnet, Except.ok.injEq] at henroll'
  refine ⟨hdata' ▸ hdata, henroll' ▸ henroll, hport, ⟨target.1, haddr, ?_⟩, htargetPort,
    hprincipal, hprofile⟩
  rw [haddress, haddr]
  rfl

end

variable {env : Env} {docs : InviteDocs} {raw : Text} {now clock : Time} {invite parsed : Invite}
  {view : ClientView}

theorem canonicalizeStoredInvite_of_isHost (hnet : env.net.Lawful)
    (hdata : IsHost env.net invite.data.host) (henroll : IsHost env.net invite.enrollment.host)
    (h : canonicalizeStoredInvite env invite = .ok parsed) :
    parsed = invite ∧ validateInviteShape env invite = .ok () := by
  simp only [canonicalizeStoredInvite, except_bind_eq_ok, mapError_eq_ok,
    hdata.canonicalInviteHost_eq hnet, henroll.canonicalInviteHost_eq hnet, Except.ok.injEq] at h
  obtain ⟨_, rfl, _, rfl, _, hshape, h⟩ := h
  cases h
  exact ⟨rfl, hshape⟩

/-- What `ParseClientInvite` checks, for a document of an invite with canonical hosts. -/
theorem of_parseClientInvite (hnet : env.net.Lawful) (hdata : IsHost env.net invite.data.host)
    (henroll : IsHost env.net invite.enrollment.host) (hdoc : docs.decodeInvite raw = .ok invite)
    (h : parseClientInvite env docs raw now clock = .ok (parsed, view)) :
    parsed = invite ∧ validateInviteShape env invite = .ok () ∧ invite.profileID = .current ∧
      view.tunnelID = sanitizeInviteLabel invite.clientName := by
  simp only [parseClientInvite, except_bind_eq_ok, mapError_eq_ok, refuseIf_eq_ok, hdoc] at h
  obtain ⟨_, -, _, -, _, -, _, hdecoded, canonical, hcanonical, _, hprofile, _, -, _, -, h⟩ := h
  cases hdecoded
  obtain ⟨rfl, hshape⟩ := canonicalizeStoredInvite_of_isHost hnet hdata henroll hcanonical
  cases h
  exact ⟨rfl, hshape, by simpa using hprofile, rfl⟩

theorem ports_of_validateInviteShape (h : validateInviteShape env invite = .ok ()) :
    invite.data.port ≠ 0 ∧ invite.targetPort ≠ 0 := by
  simp only [validateInviteShape, except_bind_eq_ok, refuseIf_eq_ok] at h
  obtain ⟨_, -, _, -, _, -, _, -, _, -, _, -, _, -, _, hports, -⟩ := h
  simp only [Bool.or_eq_false_iff, beq_eq_false_iff_ne] at hports
  exact hports.1

end WarpTweet
