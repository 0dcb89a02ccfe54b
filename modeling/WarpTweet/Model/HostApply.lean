import WarpTweet.Concurrency.Pool
import WarpTweet.Model.Invites
import WarpTweet.Model.Publication
import WarpTweet.Storage.Directory

/-!
# Applying a host configuration

`applyHostConfiguration` as a program of atomic actions, in the order of the source: the manifest,
the certificate and the receipts on disk, the two services and what they have loaded, and the
invites. Both services read the manifest when they start and keep it; the enrollment listener also
keeps the certificate. A call runs under the host operation lock, and can be stopped before any of
its actions. Enrollments and cancellations do not take that lock, and services can stop or start
again by themselves.

The services are the packaged ones, and nothing else listens on the endpoints of the host. A listing
of the invites is one action: without the host lock no invite becomes issued, so a reading of one
record after the other sees nothing that a listing at one moment could not see.
-/

set_option autoImplicit false

namespace WarpTweet

open Strings Concurrency Storage

/-! ## The state of a host -/

/-- `hostRevision`: the digests of the network and of the certificate leaf. -/
structure HostRevision where
  networkSHA256 : Text
  certLeafSHA256 : Text
  deriving DecidableEq, Repr

/-- The certificate of the enrollment listener: the digest of its leaf, and its key pin. -/
structure EnrollmentIdentity where
  leaf : Text
  pin : Text
  deriving DecidableEq, Repr

/-- What the enrollment listener has loaded. -/
structure EnrollmentService where
  manifest : ServerConfig
  identity : EnrollmentIdentity
  deriving DecidableEq, Repr

/-- The files and the services of a host. A service that does not run has loaded nothing. -/
structure HostSite where
  lock : Option ℕ
  manifest : Option ServerConfig
  hostKey : Option Text
  identity : Option EnrollmentIdentity
  desired : Option HostRevision
  applied : Option HostRevision
  dataPlane : Option ServerConfig
  enrollment : Option EnrollmentService
  invites : Directory fun record : Record => record.inviteID

def HostSite.fresh : HostSite where
  lock := none
  manifest := none
  hostKey := none
  identity := none
  desired := none
  applied := none
  dataPlane := none
  enrollment := none
  invites := .empty

/-- The parameters of a host: its environment, the texts of endpoints, its installation, the
digest of a network, and the digests of the two installed files, if they can be read. -/
structure HostParams where
  env : Env
  texts : EndpointTexts
  install : HostInstall
  networkSHA256 : Network → Text
  sshdDigest : Except Err Text
  bundleDigest : Except Err Text

/-! ## Documents -/

/-- A dial host after it has been written to a document and read back. -/
def DialHost.reread (net : NetIP) (host : DialHost) : Except Err DialHost := do
  let text ← host.canonical net
  parseDialHost net text

/-- The manifest that `Load` returns for a manifest that was written. -/
def ServerConfig.reread (net : NetIP) (manifest : ServerConfig) : Except Err ServerConfig := do
  let dataHost ← manifest.network.data.dial.host.reread net
  let enrollHost ← manifest.network.enrollment.dial.host.reread net
  let network := manifest.network
  let read : ServerConfig :=
    { manifest with
      network :=
        { network with
          data := { network.data with dial := { network.data.dial with host := dataHost } }
          enrollment :=
            { network.enrollment with
              dial := { network.enrollment.dial with host := enrollHost } } } }
  read.validate net
  pure read

/-- The digest of an installed file, or the stored one if the file cannot be read. -/
def digestOr (digest : Except Err Text) (stored : Option Text) (what : String) : Except Err Text :=
  match digest, stored with
  | .ok digest, _ => .ok digest
  | .error err, some stored =>
    if stored.isEmpty || stored = List.replicate 64 '0' then .error (.wrap what err) else .ok stored
  | .error err, none => .error (.wrap what err)

def defaultDedicatedUser : Text := "warptweet".toList

/-- A stored text, or its default if there is none. -/
def storedOr (stored : Option Text) (default : Text) : Text :=
  match stored with
  | some value => if value.isEmpty then default else value
  | none => default

/-- The manifest that `writeHostManifestNetwork` writes. -/
def hostManifest (params : HostParams) (stored : Option ServerConfig) (target : Addr × Nat)
    (network : Network) : Except Err ServerConfig := do
  let sshdDigest ← digestOr params.sshdDigest (stored.map (·.sshdBinarySHA256)) "hash sshd binary"
  let bundleDigest ← digestOr params.bundleDigest (stored.map (·.openSSHBundleManifestSHA256))
    "hash OpenSSH bundle manifest"
  let manifest : ServerConfig :=
    { kind := serverManifestKind
      schemaVersion := 2
      profileID := (stored.map (·.profileID)).elim .current fun id =>
        if id.isEmpty then .current else id
      sshdBinarySHA256 := sshdDigest
      openSSHBundleManifestSHA256 := bundleDigest
      network
      target := ⟨some target.1, target.2⟩
      dedicatedUser := storedOr (stored.map (·.dedicatedUser)) defaultDedicatedUser
      hostKeyPath := storedOr (stored.map (·.hostKeyPath)) serverHostKeyPath
      authorizedKeysPath := storedOr (stored.map (·.authorizedKeysPath))
        (managedAuthorizedKeysPath defaultDedicatedUser) }
  manifest.validate params.env.net
  pure manifest

structure HostApplyInput where
  target : Addr × Nat
  flags : HostPublicationFlags
  noInvite : Bool
  label : Text
  authorizationSeconds : Int
  now : Time
  deriving DecidableEq, Repr

/-- `hostApplyResult`, as far as it is not a copy of the input. -/
structure HostApplyResult where
  manifest : ServerConfig
  hostPublicKey : Text
  pin : Text
  invite : Option Invite
  deriving DecidableEq, Repr

/-! ## Actions -/

/-- What a service does by itself. -/
inductive ServiceEvent where
  | stays
  | stops
  | restarts
  deriving DecidableEq, Repr

/-- A service after an event: `loaded` is what it holds if it starts again. -/
def ServiceEvent.after {α : Type} (loaded : Option α) (service : Option α) :
    ServiceEvent → Option α
  | .stays => service
  | .stops => none
  | .restarts => loaded

inductive ApplyAction where
  | lock (wait : Bool)
  | unlock
  | loadManifest
  | addresses
  | ensureIdentity
  | ensureTLS
  | listGrants
  | writeManifest (manifest : ServerConfig)
  | writeSSHD (manifest : ServerConfig)
  | certLeaf
  | writeDesired (revision : HostRevision)
  | loadApplied
  | applyDataPlane (restart : Bool) (endpoint : Addr × Nat)
  | applyEnrollment (restart : Bool) (endpoint : Addr × Nat) (pin : Text)
  | probeTCP (endpoint : Addr × Nat)
  | writeApplied (revision : HostRevision)
  | listInvites
  | writeInvite (record : Record)
  | storeInvite (record : Record)
  | loadIssuedBlob (inviteID : Text)
  | random
  | report (result : HostApplyResult)
  | consumeInvite (inviteID clientID : Text) (now : Time)
  | cancelInvite (inviteID : Text) (now : Time)
  | services (dataPlane enrollment : ServiceEvent)

@[reducible]
def ApplyAction.Reply : ApplyAction → Type
  | loadManifest => Except Err (Option ServerConfig)
  | addresses => HostAddresses
  | ensureIdentity | ensureTLS | certLeaf => Except Err Text
  | listGrants => Except Err (List (Text × ClientStatus))
  | loadApplied => Except Err (Option HostRevision)
  | listInvites => Except Err (List Record)
  | random => RandomHex × RandomHex × Time
  | unlock | report _ | services _ _ => Unit
  | lock _ | probeTCP _ => Bool
  | writeManifest _ | writeSSHD _ | writeDesired _ | writeApplied _ | applyDataPlane _ _
  | applyEnrollment _ _ _ | writeInvite _ | storeInvite _ | loadIssuedBlob _
  | consumeInvite _ _ _ | cancelInvite _ _ => Except Err Unit

abbrev ApplyProg (α : Type) := Prog ApplyAction ApplyAction.Reply Err α

namespace HostApply

def perform (action : ApplyAction) : ApplyProg action.Reply := Prog.perform action

/-- One action that can fail. -/
def attempt {α : Type} (action : ApplyAction) (h : action.Reply = Except Err α) : ApplyProg α :=
  .act action fun reply => .ofExcept (h ▸ reply)

/-! ## The program -/

/-- The refusal that `refuseHostTargetChangeAt` and `publicationChangeBlocked` share: there is a
grant that has not ended, or an invite that is issued. -/
def refuseWhileInUse (change : String) (grants : List (Text × ClientStatus))
    (invites : List Record) : Except Err Unit :=
  match grants.find? fun grant => !decide grant.2.Terminal with
  | some grant =>
    .error (.plain (change ++ " while grant " ++ String.ofList grant.1 ++ " is " ++ grant.2.wire))
  | none =>
    match invites.find? fun record => record.status = .issued with
    | some record =>
      .error (.plain (change ++ " while invite " ++ String.ofList record.inviteID ++
        " is issued"))
    | none => .ok ()

/-- `netip.AddrPortFrom(stored.Target.Address, uint16(stored.Target.Port))`. -/
def storedTarget (manifest : ServerConfig) : Option Addr × Nat :=
  (manifest.target.address, uint16 manifest.target.port)

def storedTargetText (net : NetIP) (manifest : ServerConfig) : Text :=
  match manifest.target.address with
  | some addr => addrPortText net (addr, uint16 manifest.target.port)
  | none => "invalid AddrPort".toList

/-- `refuseHostTargetChangeAt`. It loads the manifest again. -/
def refuseHostTargetChangeAt (net : NetIP) (target : Addr × Nat) : ApplyProg Unit := do
  match ← attempt .loadManifest rfl with
  | none => pure ()
  | some existing =>
    if storedTarget existing = (some target.1, target.2) then pure ()
    else do
      let grants ← (attempt .listGrants rfl).mapError (.wrap "list grants before target change")
      let invites ← (attempt .listInvites rfl).mapError
        (.wrap "list invites before target change")
      .ofExcept (refuseWhileInUse
        ("host target cannot change from " ++ String.ofList (storedTargetText net existing) ++
          " to " ++ String.ofList (addrPortText net target)) grants invites)

/-- `refusePublishedLocatorChangeAt`, if the published locators change. -/
def refusePublishedLocatorChangeAt (publishedChanged : Bool) : ApplyProg Unit :=
  if publishedChanged then do
    let grants ← (attempt .listGrants rfl).mapError
      (.wrap "list grants before published endpoint change")
    let invites ← (attempt .listInvites rfl).mapError
      (.wrap "list invites before published endpoint change")
    .ofExcept (refuseWhileInUse "published endpoints cannot change" grants invites)
  else pure ()

def writeHostManifestNetwork (params : HostParams) (stored : Option ServerConfig)
    (target : Addr × Nat) (network : Network) : ApplyProg ServerConfig := do
  let manifest ← .ofExcept (hostManifest params stored target network)
  attempt (.writeManifest manifest) rfl
  attempt (.writeSSHD manifest) rfl
  pure manifest

structure Restarts where
  data : Bool
  enroll : Bool
  deriving DecidableEq, Repr

/-- The restart decision of `applyHostConfiguration`. -/
def restarts (stored : Option ServerConfig) (input : HostApplyInput) (publication : HostPublication)
    (publishedChanged : Bool) (desired : HostRevision) (applied : Option HostRevision) : Restarts :=
  let appliedMismatch := applied ≠ some desired
  let dataListenChanged := stored.all fun stored =>
    stored.network.data.listen.addrPort ≠ publication.dataListen.addrPort
  let enrollListenChanged := stored.all fun stored =>
    stored.network.enrollment.listen.addrPort ≠ publication.enrollListen.addrPort
  let certChanged := applied.all fun applied => applied.certLeafSHA256 ≠ desired.certLeafSHA256
  let targetChanged := stored.any fun stored =>
    storedTarget stored ≠ (some input.target.1, input.target.2)
  { data := dataListenChanged || appliedMismatch || targetChanged
    enroll := publishedChanged || enrollListenChanged || certChanged || appliedMismatch }

/-- `UnusedIssuedForGeneration`. Past due invites are persisted as expired, as far as the write
succeeds. -/
def unusedIssuedForGeneration (generation : Nat) (now : Time) : ApplyProg (List Record) := do
  let records ← attempt .listInvites rfl
  .fold (fun issued record =>
      if record.status ≠ .issued ∨ record.publishedEndpointGeneration ≠ generation then pure issued
      else if inviteExpired record now then do
        let _ ← perform (.writeInvite { record with status := .expired })
        pure issued
      else pure (issued ++ [record]))
    records []

/-- `resumeOrMintInvite`: the invite, and whether it was resumed. -/
def resumeOrMintInvite (params : HostParams) (input : HostApplyInput) (manifest : ServerConfig)
    (hostPublicKey pin : Text) : ApplyProg (Invite × Bool) := do
  let generation := manifest.network.publishedEndpointGeneration.toNat
  match ← unusedIssuedForGeneration generation input.now with
  | [] => do
      let (nonce, inviteID, clock) ← perform .random
      let (invite, record) ← .ofExcept (mintServerInvite params.env params.install input.label
        input.target manifest hostPublicKey pin input.authorizationSeconds input.now nonce inviteID
        clock)
      attempt (.storeInvite record) rfl
      attempt (.loadIssuedBlob invite.inviteID) rfl
      pure (invite, false)
  | [record] => do
      attempt (.loadIssuedBlob record.inviteID) rfl
      pure (record.toInvite, true)
  | _ => throw (.plain ("multiple unused issued invites exist for published_endpoint_generation " ++
      toString generation))

/-- The readiness check of one endpoint. -/
def requireAccept (net : NetIP) (what : String) (endpoint : Addr × Nat) : ApplyProg Unit :=
  (perform (.probeTCP endpoint)).bind fun up =>
    if up then pure ()
    else throw (.plain (what ++ " " ++ String.ofList (addrPortText net endpoint) ++
      " did not accept"))

/-- The part of `applyHostConfiguration` between the manifest and the invite: the desired revision,
the restarts, the readiness checks and the applied receipt. -/
def applyServices (params : HostParams) (input : HostApplyInput) (stored : Option ServerConfig)
    (publication : HostPublication) (publishedChanged : Bool) (manifest : ServerConfig)
    (pin : Text) : ApplyProg Unit := do
  let leaf ← attempt .certLeaf rfl
  let desired : HostRevision := ⟨params.networkSHA256 manifest.network, leaf⟩
  attempt (.writeDesired desired) rfl
  let applied ← attempt .loadApplied rfl
  let restart := restarts stored input publication publishedChanged desired applied
  (attempt (.applyDataPlane restart.data publication.dataListen.addrPort) rfl).mapError
    (.wrap "start WarpTweet data plane")
  (attempt (.applyEnrollment restart.enroll publication.enrollListen.addrPort pin) rfl).mapError
    (.wrap "start enrollment listener")
  requireAccept params.env.net "data listen" publication.dataListen.addrPort
  requireAccept params.env.net "enrollment listen" publication.enrollListen.addrPort
  attempt (.writeApplied desired) rfl

/-- The invite of the result: none if none was asked for. -/
def inviteFor (params : HostParams) (input : HostApplyInput) (manifest : ServerConfig)
    (hostPublicKey pin : Text) : ApplyProg (Option Invite) :=
  if input.noInvite then pure none
  else (resumeOrMintInvite params input manifest hostPublicKey pin).bind fun result =>
    pure (some result.1)

def applyHostConfiguration (params : HostParams) (input : HostApplyInput) :
    ApplyProg HostApplyResult := do
  let net := params.env.net
  let stored ← attempt .loadManifest rfl
  let host ← perform .addresses
  let publication ← .ofExcept (resolveHostPublication net params.texts input.flags stored host)
  let hostPublicKey ← attempt .ensureIdentity rfl
  let pin ← (attempt .ensureTLS rfl).mapError (.wrap "ensure enrollment TLS identity")
  refuseHostTargetChangeAt net input.target
  let (network, publishedChanged) ← .ofExcept
    (proposeNetwork net publication (stored.map (·.network)))
  refusePublishedLocatorChangeAt publishedChanged
  let manifest ← writeHostManifestNetwork params stored input.target network
  applyServices params input stored publication publishedChanged manifest pin
  let invite ← inviteFor params input manifest hostPublicKey pin
  pure { manifest, hostPublicKey, pin, invite }

/-! ## The machine -/

/-- The calls of a host: a configuration, an accepted enrollment, the cancellation of an invite,
and what the services do by themselves. -/
inductive ApplyCall where
  | apply (input : HostApplyInput)
  | accept (inviteID clientID : Text) (now : Time)
  | cancel (inviteID : Text) (now : Time)
  | services (dataPlane enrollment : ServiceEvent)

/-- `withHostOperationLock`, which waits for the lock of the host, and `withHostStateLock`, which
does not. -/
def withHostLock (wait : Bool) (body : ApplyProg Unit) : ApplyProg Unit :=
  .bracket
    (do if ← perform (.lock wait) then pure ()
        else throw ⟨.hostBusy, "host_busy: another host command holds .host.lock"⟩)
    (perform .unlock) body

/-- The program of a call. A configuration that succeeds reports its result before it gives the
lock back. -/
def program (params : HostParams) : ApplyCall → ApplyProg Unit
  | .apply input =>
    withHostLock true do
      let result ← applyHostConfiguration params input
      perform (.report result)
  | .accept inviteID clientID now =>
    withHostLock false (attempt (.consumeInvite inviteID clientID now) rfl)
  | .cancel inviteID now => attempt (.cancelInvite inviteID now) rfl
  | .services dataPlane enrollment => perform (.services dataPlane enrollment)

/-- What the environment chooses for an action: whether it succeeds, whether a failed one has
taken effect all the same, and what it returns. -/
structure ApplyChoice where
  ok : Bool
  torn : Bool
  hostKey : Text
  renew : Bool
  certificate : EnrollmentIdentity
  addresses : HostAddresses
  grants : List (Text × ClientStatus)
  random : RandomHex × RandomHex × Time

/-- The error of an action that the environment lets fail. -/
def failed : Err := .plain "the operation failed"

/-- A reading that can fail. -/
def ApplyChoice.read {α : Type} (choice : ApplyChoice) (value : Except Err α) : Except Err α :=
  if choice.ok then value else .error failed

/-- A writing that can fail, and can have taken effect when it fails. -/
def ApplyChoice.write {α : Type} (choice : ApplyChoice) (value : Except Err α)
    (s written : HostSite) : Except Err α × HostSite :=
  if choice.ok then (value, written) else (.error failed, if choice.torn then written else s)

/-- The manifest on disk, as `loadManifestAt` returns it. -/
def loadManifestAt (net : NetIP) (s : HostSite) : Except Err (Option ServerConfig) :=
  match s.manifest with
  | none => .ok none
  | some manifest => (manifest.reread net).map some

/-- What a data plane holds that starts now. -/
def loadedDataPlane (net : NetIP) (s : HostSite) : Option ServerConfig :=
  s.manifest.bind fun manifest => (manifest.reread net).toOption

/-- What an enrollment listener holds that starts now. -/
def loadedEnrollment (net : NetIP) (s : HostSite) : Option EnrollmentService :=
  (loadedDataPlane net s).bind fun manifest => s.identity.map fun identity => ⟨manifest, identity⟩

/-- A restart, or the start of a service that may be running. -/
def startEvent {α : Type} (restart : Bool) (service : Option α) : ServiceEvent :=
  if restart || service.isNone then .restarts else .stays

/-- The data plane listens on the endpoint. -/
def dataPlaneListens (endpoint : Addr × Nat) (s : HostSite) : Bool :=
  s.dataPlane.any fun manifest => manifest.network.data.listen.addrPort = endpoint

/-- The enrollment listener listens on the endpoint. -/
def enrollmentListens (endpoint : Addr × Nat) (s : HostSite) : Bool :=
  s.enrollment.any fun service => service.manifest.network.enrollment.listen.addrPort = endpoint

/-- `probeTCPListener`: some service accepts on the endpoint. -/
def accepts (endpoint : Addr × Nat) (s : HostSite) : Bool :=
  dataPlaneListens endpoint s || enrollmentListens endpoint s

/-- `EnsureTLSIdentity`: the key stays, and a certificate is written for it when there is none or
when it is due. -/
def ensuredIdentity (choice : ApplyChoice) : Option EnrollmentIdentity → EnrollmentIdentity
  | none => choice.certificate
  | some identity =>
    if choice.renew then { identity with leaf := choice.certificate.leaf } else identity

/-- An invite record as `Load` returns it. -/
def loadRecord (env : Env) (record : Record) : Except Err Record := do
  let invite ← canonicalizeStoredInvite env record.toInvite
  pure { record with toInvite := invite }

/-- `List`. -/
def listRecords (env : Env) (s : HostSite) : Except Err (List Record) :=
  (s.invites.files.filter fun record => isHexID record.inviteID).mapM (loadRecord env)

/-- What `Consume` writes for an issued invite. -/
def consumed (record : Record) (clientID : Text) (now : Time) : Record :=
  if inviteExpired record now then { record with status := .expired }
  else { record with status := .consumed, consumedAt := .format now, clientID }

def effect (params : HostParams) (pid : ℕ) : (action : ApplyAction) → ApplyChoice → HostSite →
    Option (action.Reply × HostSite)
  | .lock wait, _, s =>
    if s.lock = none then some (true, { s with lock := some pid })
    else if wait then none else some (false, s)
  | .unlock, _, s => some ((), if s.lock = some pid then { s with lock := none } else s)
  | .loadManifest, choice, s => some (choice.read (loadManifestAt params.env.net s), s)
  | .addresses, choice, s => some (choice.addresses, s)
  | .ensureIdentity, choice, s =>
    let key := s.hostKey.getD choice.hostKey
    some (choice.write (.ok key) s { s with hostKey := some key })
  | .ensureTLS, choice, s =>
    let identity := ensuredIdentity choice s.identity
    some (choice.write (.ok identity.pin) s { s with identity := some identity })
  | .listGrants, choice, s => some (choice.read (.ok choice.grants), s)
  | .writeManifest manifest, choice, s =>
    some (choice.write (.ok ()) s { s with manifest := some manifest })
  | .writeSSHD _, choice, s => some (choice.read (.ok ()), s)
  | .certLeaf, choice, s =>
    some (choice.read (s.identity.elim (.error failed) fun identity => .ok identity.leaf), s)
  | .writeDesired revision, choice, s =>
    some (choice.write (.ok ()) s { s with desired := some revision })
  | .loadApplied, choice, s => some (choice.read (.ok s.applied), s)
  | .applyDataPlane restart endpoint, choice, s =>
    let started := { s with
      dataPlane :=
        (startEvent restart s.dataPlane).after (loadedDataPlane params.env.net s) s.dataPlane }
    let ready := started.dataPlane.isSome && accepts endpoint started
    some (choice.write (if ready then .ok () else .error failed) s started)
  | .applyEnrollment restart endpoint pin, choice, s =>
    let started := { s with
      enrollment :=
        (startEvent restart s.enrollment).after (loadedEnrollment params.env.net s) s.enrollment }
    let ready := enrollmentListens endpoint started &&
      started.enrollment.any fun service => service.identity.pin = pin
    some (choice.write (if ready then .ok () else .error failed) s started)
  | .probeTCP endpoint, choice, s =>
    some (choice.ok && accepts endpoint s, s)
  | .writeApplied revision, choice, s =>
    some (choice.write (.ok ()) s { s with applied := some revision })
  | .listInvites, choice, s => some (choice.read (listRecords params.env s), s)
  | .writeInvite record, choice, s =>
    some (choice.write (.ok ()) s { s with invites := s.invites.put record })
  | .storeInvite record, choice, s =>
    if isHexID record.inviteID && (s.invites.get record.inviteID).isNone then
      some (choice.write (.ok ()) s { s with invites := s.invites.put record })
    else some (.error failed, s)
  | .loadIssuedBlob inviteID, choice, s =>
    some (choice.read (if (s.invites.get inviteID).isSome then .ok () else .error failed), s)
  | .random, choice, s => some (choice.random, s)
  | .report _, _, s => some ((), s)
  | .consumeInvite inviteID clientID now, choice, s =>
    match s.invites.get inviteID with
    | some record =>
      if record.status = .issued then
        some (choice.write (.ok ()) s
          { s with invites := s.invites.put (consumed record clientID now) })
      else some (.error failed, s)
    | none => some (.error failed, s)
  | .cancelInvite inviteID now, choice, s =>
    match s.invites.get inviteID with
    | some record =>
      if record.status = .issued ∨ record.status = .expired then
        some (choice.write (.ok ()) s { s with
          invites := s.invites.put
            { record with status := .cancelled, revokedAt := .format now } })
      else some (choice.read (if record.status = .cancelled then .ok () else .error failed), s)
    | none => some (.error failed, s)
  | .services dataPlane enrollment, _, s =>
    some ((), { s with
      dataPlane := dataPlane.after (loadedDataPlane params.env.net s) s.dataPlane
      enrollment := enrollment.after (loadedEnrollment params.env.net s) s.enrollment })

/-- A call that is stopped gives its lock back. -/
def released (pid : ℕ) (s : HostSite) : HostSite :=
  if s.lock = some pid then { s with lock := none } else s

def machine (params : HostParams) :
    Machine HostSite ApplyCall ApplyAction ApplyChoice ApplyAction.Reply Err where
  program := program params
  perform := effect params
  release := released

abbrev ApplyPool := Config HostSite ApplyCall ApplyAction ApplyChoice ApplyAction.Reply Err

abbrev ApplyProcess := Process ApplyCall ApplyAction ApplyChoice ApplyAction.Reply Err

abbrev ApplyMove := Move ApplyCall ApplyChoice

end HostApply

end WarpTweet
