import WarpTweet.Analysis.ClientPolicy
import WarpTweet.Analysis.Scenario
import WarpTweet.Model.Routes

/-!
# The local ports of tunnels

A started tunnel binds two loopback ports: its listen port, and the port after it for the
management forward. Two tunnels that run side by side should not want the same port. The
route store keeps the listen ports of the routes apart, and `Validate` those of the tunnels of
one manifest, but neither looks at the second port. Reserving 15432 and then 15433 succeeds,
and the two tunnels both want 15433.

Ports are apart exactly when no two listen ports follow each other.
-/

namespace WarpTweet

open Strings Storage

/-- The route starts tunnels with this specification: it is for the reserved port. -/
def Route.Starts (route : Route) (spec : ClientSpec) : Prop :=
  ∃ routeID, route.reservation = .stored routeID spec.listenPort

/-- No two routes want the same port. -/
def RoutesDisjoint (store : RouteStore) : Prop :=
  ∀ route ∈ store.files, ∀ other ∈ store.files, route.routeID ≠ other.routeID →
    ∀ spec spec', route.Starts spec → other.Starts spec' →
      List.Disjoint (startedPorts spec) (startedPorts spec')

/-- No two tunnels of the manifest want the same port, whatever addresses their server name
resolves to and wherever their files are. -/
def TunnelsDisjoint (config : ClientConfig) : Prop :=
  ∀ tunnel ∈ config.tunnels, ∀ other ∈ config.tunnels, tunnel.id ≠ other.id →
    ∀ paths paths' addr addr' spec spec',
      clientSpec config tunnel.id paths addr = .ok spec →
      clientSpec config other.id paths' addr' = .ok spec' →
      List.Disjoint (startedPorts spec) (startedPorts spec')

/-! ## Reserved routes -/

/-- Different routes have reserved different ports. -/
def PortsReserved (store : RouteStore) : Prop :=
  ∀ route ∈ store.files, ∀ other ∈ store.files, route.routeID ≠ other.routeID →
    ∀ {routeID otherID port other'}, route.reservation = .stored routeID port →
      other.reservation = .stored otherID other' → port ≠ other'

/-- No two routes have reserved ports that follow each other. -/
def PortsApart (store : RouteStore) : Prop :=
  ∀ route ∈ store.files, ∀ other ∈ store.files,
    ∀ {routeID otherID port other'}, route.reservation = .stored routeID port →
      other.reservation = .stored otherID other' → ¬ PortFollows port other'

/-- The operation reserves no port that follows, or is followed by, a reserved one. -/
def RouteOp.Apart (store : RouteStore) : RouteOp → Prop
  | .reserve _ listenPort _ => ∀ route ∈ store.files, ∀ {routeID port},
      route.reservation = .stored routeID port →
        ¬ PortFollows port listenPort ∧ ¬ PortFollows listenPort port
  | .remove _ _ => True

/-- Every operation of the sequence is apart in the store it finds. -/
def ReservedApart (store : RouteStore) : List RouteOp → Prop
  | [] => True
  | op :: ops => op.Apart store ∧ ReservedApart (store.step op) ops

variable {routes : List Route} {ops : List RouteOp}

section

variable {store : RouteStore} {routeID : Text} {listenPort : Nat} {fault : RouteFault}
  {op : RouteOp} {route : Route}

theorem not_reserved_of_portOwnerOf_none (h : portOwnerOf listenPort routes = .ok none) :
    ∀ route ∈ routes, ∀ routeID, route.reservation ≠ .stored routeID listenPort := by
  induction routes with
  | nil => simp
  | cons route routes ih =>
    unfold portOwnerOf at h
    have hroute : portOwnerOf listenPort routes = .ok none ∧
        ∀ routeID, route.reservation ≠ .stored routeID listenPort := by
      cases hreservation : route.reservation with
      | missing =>
        rw [hreservation] at h
        dsimp only at h
        split at h
        · cases h
        · exact ⟨h, by simp⟩
      | unreadable =>
        rw [hreservation] at h
        cases h
      | stored id port =>
        rw [hreservation] at h
        dsimp only at h
        split at h
        next => cases h
        next hport => exact ⟨h, fun _ heq => hport (by cases heq; rfl)⟩
    intro other hother
    rcases List.mem_cons.1 hother with rfl | hother
    · exact hroute.2
    · exact ih hroute.1 other hother

theorem owner_of_portOwnerOf (h : portOwnerOf listenPort routes = .ok (some routeID)) :
    ∃ route ∈ routes, route.routeID = routeID ∧
      (route.reservation ≠ .missing ∨ route.listen ≠ []) := by
  induction routes with
  | nil => cases h
  | cons route routes ih =>
    unfold portOwnerOf at h
    have hrest : portOwnerOf listenPort routes = .ok (some routeID) →
        ∃ other ∈ route :: routes, other.routeID = routeID ∧
          (other.reservation ≠ .missing ∨ other.listen ≠ []) := by
      intro hrest
      obtain ⟨other, hother, howner⟩ := ih hrest
      exact ⟨other, List.mem_cons_of_mem route hother, howner⟩
    cases hreservation : route.reservation with
    | missing =>
      rw [hreservation] at h
      dsimp only at h
      split at h
      next hlisten =>
        cases h
        refine ⟨route, List.mem_cons_self, rfl, .inr fun hempty => ?_⟩
        simp [hempty] at hlisten
      next => exact hrest h
    | unreadable =>
      rw [hreservation] at h
      cases h
    | stored id port =>
      rw [hreservation] at h
      dsimp only at h
      split at h
      next => cases h; exact ⟨route, List.mem_cons_self, rfl, .inl (by simp [hreservation])⟩
      next => exact hrest h

/-- A route that an operation leaves behind: it has no reservation, or it was there with the
same one, or it is the one just reserved, for a port that nobody else has. -/
def Left (op : RouteOp) (store : RouteStore) (route : Route) : Prop :=
  route.reservation = .missing ∨
  (∃ old ∈ store.files, old.routeID = route.routeID ∧ old.reservation = route.reservation) ∨
  ∃ port fault, op = .reserve route.routeID port fault ∧
    route.reservation = .stored route.routeID port ∧
    ∀ old ∈ store.files, ∀ id, old.reservation ≠ .stored id port

theorem left_of_mem (h : route ∈ store.files) :
    Left op store route := .inr (.inl ⟨route, h, rfl, rfl⟩)

theorem left_of_claimPort (hnew : store.get routeID = none)
    (h : route ∈ (claimPort (store.put ⟨routeID, .missing, []⟩) routeID listenPort fault).2.files) :
    Left (.reserve routeID listenPort fault) store route := by
  have hmade : ∀ {made : Route}, made ∈ (store.put ⟨routeID, .missing, []⟩).files →
      Left (.reserve routeID listenPort fault) store made := by
    intro made hmade
    rcases Directory.mem_files_put.1 hmade with rfl | ⟨hold, -⟩
    · exact .inl rfl
    · exact left_of_mem hold
  unfold claimPort at h
  split at h
  next => exact hmade h
  next =>
    split at h
    next => exact hmade h
    next owner howner =>
      split at h
      next =>
        split at h
        · exact hmade h
        · exact hmade (List.mem_filter.1 h).1
      next hother =>
        split at h
        next => exact hmade h
        next =>
          rcases Directory.mem_files_put.1 h with rfl | ⟨hold, -⟩
          · refine .inr (.inr ⟨listenPort, fault, rfl, rfl, fun old hold id => ?_⟩)
            have hkeep : old ∈ (store.put ⟨routeID, .missing, []⟩).files := by
              refine Directory.mem_files_put.2 (.inr ⟨hold, fun heq => ?_⟩)
              have hget := Directory.get_of_mem_files hold
              rw [heq, hnew] at hget
              cases hget
            cases owner with
            | none => exact not_reserved_of_portOwnerOf_none howner old hkeep id
            | some owner =>
              -- the owner would be the new directory, which has neither file
              have howned : owner = routeID := by simpa using hother
              subst howned
              obtain ⟨made, hmem, hid, hfile⟩ := owner_of_portOwnerOf howner
              rcases Directory.mem_files_put.1 hmem with rfl | ⟨-, hne⟩
              · simp at hfile
              · exact absurd hid hne
          · exact hmade hold

theorem left_of_step (h : route ∈ (store.step op).files) : Left op store route := by
  cases op with
  | reserve routeID listenPort fault =>
    unfold RouteStore.step reservePortLocked at h
    dsimp only at h
    split at h
    · exact left_of_mem h
    · split at h
      · exact left_of_mem h
      · split at h
        · exact left_of_mem h
        · split at h
          next => exact left_of_mem h
          next hnew =>
            split at h
            · exact left_of_mem h
            · exact left_of_claimPort (by simpa using hnew) h
  | remove routeID fault =>
    unfold RouteStore.step RouteStore.remove at h
    dsimp only at h
    split at h
    · exact left_of_mem h
    · split at h
      · split at h
        · rcases Directory.mem_files_put.1 h with rfl | ⟨hold, -⟩
          · exact .inl rfl
          · exact left_of_mem hold
        · exact left_of_mem h
      · split at h
        · exact left_of_mem (List.mem_filter.1 h).1
        · exact left_of_mem h

theorem PortsReserved.step (h : PortsReserved store) : PortsReserved (store.step op) := by
  intro route hroute other hother hids routeID otherID port otherPort hport hotherPort
  rcases left_of_step hroute with hmissing | ⟨old, hold, hid, hsame⟩ | ⟨p, fault, hop, hnew, hfree⟩
  · rw [hport] at hmissing
    cases hmissing
  all_goals
    rcases left_of_step hother with hmissing | ⟨old', hold', hid', hsame'⟩ |
      ⟨p', fault', hop', hnew', hfree'⟩
  · rw [hotherPort] at hmissing
    cases hmissing
  · exact h old hold old' hold' (by rwa [hid, hid']) (hsame.trans hport) (hsame'.trans hotherPort)
  · rw [hotherPort] at hnew'
    cases hnew'
    rintro rfl
    exact hfree' old hold routeID (hsame.trans hport)
  · rw [hotherPort] at hmissing
    cases hmissing
  · rw [hport] at hnew
    cases hnew
    rintro rfl
    exact hfree old' hold' otherID (hsame'.trans hotherPort)
  · rw [hop] at hop'
    injection hop' with hid
    exact absurd hid hids

theorem PortsApart.step (h : PortsApart store) (hop : op.Apart store) :
    PortsApart (store.step op) := by
  intro route hroute other hother routeID otherID port otherPort hport hotherPort
  rcases left_of_step hroute with hmissing | ⟨old, hold, -, hsame⟩ | ⟨p, fault, rfl, hnew, -⟩
  · rw [hport] at hmissing
    cases hmissing
  all_goals
    rcases left_of_step hother with hmissing | ⟨old', hold', -, hsame'⟩ | ⟨p', fault', hop', hnew', -⟩
  · rw [hotherPort] at hmissing
    cases hmissing
  · exact h old hold old' hold' (hsame.trans hport) (hsame'.trans hotherPort)
  · rw [hotherPort] at hnew'
    cases hnew'
    subst hop'
    exact (hop old hold (hsame.trans hport)).1
  · rw [hotherPort] at hmissing
    cases hmissing
  · rw [hport] at hnew
    cases hnew
    exact (hop old' hold' (hsame'.trans hotherPort)).2
  · rw [hport] at hnew
    rw [hotherPort] at hnew'
    cases hnew
    cases hnew'
    injection hop' with _ hports
    subst hports
    rintro ⟨hnext, -⟩
    exact Nat.succ_ne_self _ hnext

theorem portsReserved_run (h : PortsReserved store) : PortsReserved (store.run ops) := by
  induction ops generalizing store with
  | nil => exact h
  | cons op ops ih => exact ih h.step

theorem portsApart_run (h : PortsApart store) (hops : ReservedApart store ops) :
    PortsApart (store.run ops) := by
  induction ops generalizing store with
  | nil => exact h
  | cons op ops ih => exact ih (h.step hops.1) hops.2

theorem routesDisjoint_of_apart (hreserved : PortsReserved store) (hapart : PortsApart store) :
    RoutesDisjoint store := by
  rintro route hroute other hother hids spec spec' ⟨_, hport⟩ ⟨_, hport'⟩
  exact disjoint_startedPorts (hreserved route hroute other hother hids hport hport')
    (hapart route hroute other hother hport hport') (hapart other hother route hroute hport' hport)

end

/-! ## Tunnels of one manifest -/

/-- Some paths that are absolute and have no control characters. -/
def rootPaths : ClientPaths := ⟨['/'], ['/'], ['/']⟩

theorem rootPaths_usable : rootPaths.Usable := ⟨by decide, by decide⟩

/-- The tunnels of a valid manifest want different ports exactly if no two listen ports follow
each other. -/
theorem tunnelsDisjoint_iff {net : NetIP} {config : ClientConfig} (h : config.Valid net) :
    TunnelsDisjoint config ↔ ∀ tunnel ∈ config.tunnels, ∀ other ∈ config.tunnels,
      ¬ PortFollows tunnel.listen.port other.listen.port := by
  constructor
  · rintro hdisjoint tunnel htunnel other hother ⟨hnext, hlast, hlast'⟩
    have hne : tunnel.id ≠ other.id := by
      refine (h.distinct.forall htunnel hother ?_).1
      rintro rfl
      omega
    have hspec : clientSpec config tunnel.id rootPaths requiredListenerAddress = .ok _ :=
      h.clientSpec_eq htunnel
    have hspec' : clientSpec config other.id rootPaths requiredListenerAddress = .ok _ :=
      h.clientSpec_eq hother
    have hports := startedPorts_of_ok
      ((validateClientSpec_iff h htunnel rootPaths_usable hspec).2 hlast)
    have hports' := startedPorts_of_ok
      ((validateClientSpec_iff h hother rootPaths_usable hspec').2 hlast')
    have hdisjoint := hdisjoint tunnel htunnel other hother hne _ _ _ _ _ _ hspec hspec'
    rw [hports.1, hports'.1, ← hnext] at hdisjoint
    simp at hdisjoint
  · intro hapart tunnel htunnel other hother hids paths paths' addr addr' spec spec' hspec hspec'
    rw [h.clientSpec_eq htunnel, Except.ok.injEq] at hspec
    rw [h.clientSpec_eq hother, Except.ok.injEq] at hspec'
    subst hspec hspec'
    have hports : tunnel.listen.port ≠ other.listen.port :=
      (h.distinct.forall htunnel hother fun heq => hids (by rw [heq])).2
    exact disjoint_startedPorts hports (hapart tunnel htunnel other hother)
      (hapart other hother tunnel htunnel)

/-- **Tunnels that run side by side bind different ports.** Between routes this holds in every
store that a sequence of reservations and removals leaves, each of them failing or stopped
anywhere, if no reserved port follows another one. Between the tunnels of a valid manifest it
holds exactly if no listen port follows another one. -/
theorem startedPorts_disjoint (net : NetIP) :
    (∀ ops, ReservedApart Directory.empty ops → RoutesDisjoint (RouteStore.run Directory.empty ops)) ∧
      ∀ config : ClientConfig, config.validate net = .ok () →
        (TunnelsDisjoint config ↔ ∀ tunnel ∈ config.tunnels, ∀ other ∈ config.tunnels,
          ¬ PortFollows tunnel.listen.port other.listen.port) := by
  refine ⟨fun ops hops => ?_, fun config hvalid => tunnelsDisjoint_iff (valid_of_validate hvalid)⟩
  have hempty : ∀ route, route ∉ (Directory.empty : RouteStore).files := fun _ => List.not_mem_nil
  exact routesDisjoint_of_apart (portsReserved_run fun route hroute => absurd hroute (hempty route))
    (portsApart_run (fun route hroute => absurd hroute (hempty route)) hops)

namespace Scenario

/-- Two routes on ports 15432 and `next`. -/
def reserving (next : Nat) : List RouteOp :=
  [.reserve ['a'] 15432 .none, .reserve ['b'] next .none]

/-- A manifest with two tunnels, on ports 15432 and `next`. -/
def twoTunnels (next : Nat) : ClientConfig where
  kind := clientTunnelsKind
  schemaVersion := 2
  profileID := .current
  sshBinarySHA256 := List.replicate 64 '0'
  server := { host := hostAddress, port := 22, user := ['w'] }
  tunnels :=
    [{ id := ['a'], listen := ⟨some requiredListenerAddress, 15432⟩
       target := ⟨some requiredListenerAddress, 80⟩ },
     { id := ['b'], listen := ⟨some requiredListenerAddress, next⟩
       target := ⟨some requiredListenerAddress, 80⟩ }]
  supervision := { initialBackoff := 1000000000, maxBackoff := 30000000000 }

/-- The specification of a tunnel on a port. -/
def tunnelSpec (listenPort : Nat) : ClientSpec where
  tunnelID := ['a']
  serverAddress := some requiredListenerAddress
  serverPort := 22
  serverUser := ['w']
  listenAddress := some requiredListenerAddress
  listenPort
  targetAddress := some requiredListenerAddress
  targetPort := 80
  identityFile := ['/']
  knownHostsFile := ['/']
  globalKnownHostsFile := ['/']
  profileID := .current

end Scenario

/-- With one port between them, two routes and two tunnels keep apart. -/
theorem startedPorts_disjoint_two_apart :
    RoutesDisjoint (RouteStore.run Directory.empty (Scenario.reserving 15434)) ∧
      TunnelsDisjoint (Scenario.twoTunnels 15434) := by
  refine ⟨(startedPorts_disjoint Scenario.net).1 _ ?_,
    ((startedPorts_disjoint Scenario.net).2 _ (by decide +kernel)).2 (by decide +kernel)⟩
  refine ⟨fun route hroute => absurd hroute List.not_mem_nil, ?_, trivial⟩
  have hfiles : (RouteStore.step Directory.empty (.reserve ['a'] 15432 .none)).files =
      [⟨['a'], .stored ['a'] 15432, []⟩] := by decide +kernel
  intro route hroute routeID port hport
  rw [hfiles, List.mem_singleton] at hroute
  subst hroute
  cases hport
  decide

/-- Two routes reserve ports that follow each other, and so do two tunnels of a valid manifest. -/
theorem startedPorts_overlap :
    ¬ RoutesDisjoint (RouteStore.run Directory.empty (Scenario.reserving 15433)) ∧
      (Scenario.twoTunnels 15433).validate Scenario.net = .ok () ∧
      ¬ TunnelsDisjoint (Scenario.twoTunnels 15433) := by
  have hvalid : (Scenario.twoTunnels 15433).validate Scenario.net = .ok () := by decide +kernel
  refine ⟨fun hdisjoint => ?_, hvalid, fun hdisjoint => ?_⟩
  · have hfiles : (RouteStore.run Directory.empty (Scenario.reserving 15433)).files =
        [⟨['a'], .stored ['a'] 15432, []⟩, ⟨['b'], .stored ['b'] 15433, []⟩] := by decide +kernel
    have hports := hdisjoint ⟨['a'], .stored ['a'] 15432, []⟩ (by simp [hfiles])
      ⟨['b'], .stored ['b'] 15433, []⟩ (by simp [hfiles]) (by decide)
      (Scenario.tunnelSpec 15432) (Scenario.tunnelSpec 15433) ⟨_, rfl⟩ ⟨_, rfl⟩
    have hbinds : 15433 ∈ startedPorts (Scenario.tunnelSpec 15432) := by decide +kernel
    have hbinds' : 15433 ∈ startedPorts (Scenario.tunnelSpec 15433) := by decide +kernel
    exact hports hbinds hbinds'
  · exact absurd ((tunnelsDisjoint_iff (valid_of_validate hvalid)).1 hdisjoint) (by decide +kernel)

end WarpTweet
