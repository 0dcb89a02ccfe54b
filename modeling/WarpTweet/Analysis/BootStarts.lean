import WarpTweet.Model.Boot
import WarpTweet.Analysis.DottedNet

/-!
# Which routes are started at boot

The loop of the provisioner looks at the intent of a route and at its id, the `reconcile` command
at its intent and its receipt. They start the same routes exactly when, among the valid routes
whose intent asks for this boot, those with the id of a tunnel are those with a live grant.
-/

set_option autoImplicit false

namespace WarpTweet

open Strings Storage

/-- The receipt names a client, is not revoked and ends at a time with the property. -/
def RouteReceipt.Ends (receipt : RouteReceipt) (p : Time → Prop) : Prop :=
  receipt.clientID ≠ [] ∧ receipt.revokedAt = [] ∧
    ∃ notAfter, receipt.authorizationNotAfter.parseUTC = .ok notAfter ∧ p notAfter

/-- The routes that are to be started at boot. -/
def StartsAtBoot (bootID : Text) (now : Time) (route : ListedRoute) : Prop :=
  route.invalid = false ∧ route.receipt.Ends (now < ·) ∧ shouldStartAtBoot route.intent bootID = true

variable {net : NetIP} {bootID routeID : Text} {now : Time} {routes : List ListedRoute}

theorem mem_reconcileDarwinBoot :
    routeID ∈ (reconcileDarwinBoot bootID routes).1 ↔ ∃ route ∈ routes, route.routeID = routeID ∧
      route.invalid = false ∧ validateTunnelID "tunnel_id" route.routeID = .ok () ∧
      shouldStartAtBoot route.intent bootID = true := by
  induction routes with
  | nil => simp [reconcileDarwinBoot]
  | cons route routes ih =>
    simp only [List.mem_cons, exists_eq_or_imp, ← ih]
    cases hinvalid : route.invalid
    · cases hid : validateTunnelID "tunnel_id" route.routeID with
      | error err => simp [reconcileDarwinBoot, writeTunnelPlist, hinvalid, hid]
      | ok => cases hasked : shouldStartAtBoot route.intent bootID <;>
          simp [reconcileDarwinBoot, writeTunnelPlist, startTunnel, hinvalid, hid, hasked,
            @eq_comm _ routeID]
    · simp [reconcileDarwinBoot, hinvalid]

theorem valid_of_list {entry : RouteEntry} (h : (entry.list net).invalid = false) :
    validateRouteID entry.name = .ok () := by
  unfold RouteEntry.list at h
  repeat' split at h
  all_goals first | assumption | cases h

theorem routeID_list {entry : RouteEntry} : (entry.list net).routeID = entry.name := by
  unfold RouteEntry.list
  repeat' split
  all_goals rfl

theorem readyToExpire_eq_false {notAfter : Time} : readyToExpire notAfter now = false ↔
    now < notAfter ∨ notAfter ≤ now ∧ (notAfter = Time.zero ∨ now = Time.zero) := by
  unfold readyToExpire Time.isZero
  split
  next h =>
    have hzero : notAfter = Time.zero ∨ now = Time.zero := by simpa using h
    simp [hzero, Int.lt_or_le]
  next h =>
    have hzero : ¬ (notAfter = Time.zero ∨ now = Time.zero) := by simpa using h
    simp [hzero]

theorem mem_runReconcile
    (hvalid : ∀ route ∈ routes, route.invalid = false → validateRouteID route.routeID = .ok ()) :
    routeID ∈ (runReconcile bootID now routes).started ↔ ∃ route ∈ routes, route.routeID = routeID ∧
      route.invalid = false ∧ route.receipt.Ends (readyToExpire · now = false) ∧
      shouldStartAtBoot route.intent bootID = true := by
  induction routes with
  | nil => simp [runReconcile]
  | cons route routes ih =>
    simp only [List.mem_cons, exists_eq_or_imp,
      ← ih fun other hmem => hvalid other (List.mem_cons_of_mem _ hmem)]
    cases hinvalid : route.invalid
    · have hid := hvalid route List.mem_cons_self hinvalid
      unfold RouteReceipt.Ends
      cases hend : route.receipt.authorizationNotAfter with
      | empty | unreadable => simp [runReconcile, hinvalid, hend, Stamp.parseUTC]
      | «at» notAfter =>
        cases hready : readyToExpire notAfter now <;>
          cases hasked : shouldStartAtBoot route.intent bootID <;>
          by_cases hclient : route.receipt.clientID = [] <;>
          by_cases hrevoked : route.receipt.revokedAt = [] <;>
          simp [runReconcile, hinvalid, hend, hid, hready, hasked, hclient, hrevoked,
            Stamp.parseUTC, @eq_comm _ routeID]
    · simp [runReconcile, hinvalid]

theorem forall_key_iff {α κ : Type} {key : α → κ} {files : List α} {p q : α → Prop}
    (h : (files.map key).Nodup) :
    (∀ name, (∃ file ∈ files, key file = name ∧ p file) ↔ ∃ file ∈ files, key file = name ∧ q file) ↔
      ∀ file ∈ files, (p file ↔ q file) := by
  have hunique := List.inj_on_of_nodup_map h
  refine ⟨fun hnames file hfile => ⟨fun hp => ?_, fun hq => ?_⟩, fun hfiles name => ?_⟩
  · obtain ⟨other, hother, heq, hq⟩ := (hnames (key file)).1 ⟨file, hfile, rfl, hp⟩
    rwa [← hunique hother hfile heq]
  · obtain ⟨other, hother, heq, hp⟩ := (hnames (key file)).2 ⟨file, hfile, rfl, hq⟩
    rwa [← hunique hother hfile heq]
  · exact exists_congr fun file => and_congr_right fun hfile => and_congr_right fun _ =>
      hfiles file hfile

/-- **The boot start-up.** The two loops start the same routes, and these are the valid routes
with a live grant whose intent asks for this boot, exactly when among the valid routes whose
intent asks for this boot those with the id of a tunnel are those with a live grant, and none has
a grant that has ended with the zero time as its end or as the time. -/
theorem boot_starts_agree_iff (net : NetIP) (store : Directory RouteEntry.name) (bootID : Text)
    (now : Time) :
    (∀ routeID,
      (routeID ∈ (reconcileDarwinBoot bootID (listRoutes net store)).1 ↔
        routeID ∈ (runReconcile bootID now (listRoutes net store)).started) ∧
      (routeID ∈ (runReconcile bootID now (listRoutes net store)).started ↔
        ∃ route ∈ listRoutes net store, route.routeID = routeID ∧ StartsAtBoot bootID now route)) ↔
    ∀ route ∈ listRoutes net store, route.invalid = false →
      shouldStartAtBoot route.intent bootID = true →
      (validateTunnelID "tunnel_id" route.routeID = .ok () ↔ route.receipt.Ends (now < ·)) ∧
      ¬ route.receipt.Ends fun notAfter =>
        notAfter ≤ now ∧ (notAfter = Time.zero ∨ now = Time.zero) := by
  have hnodup : ((listRoutes net store).map ListedRoute.routeID).Nodup := by
    have hnames : ListedRoute.routeID ∘ RouteEntry.list net = RouteEntry.name :=
      funext fun _ => routeID_list
    rw [listRoutes, List.map_map, hnames]
    exact (List.filter_sublist.map RouteEntry.name).nodup store.nodup
  have hvalid : ∀ route ∈ listRoutes net store, route.invalid = false →
      validateRouteID route.routeID = .ok () := by
    intro route hmem h
    obtain ⟨entry, -, rfl⟩ := List.mem_map.1 hmem
    exact routeID_list ▸ valid_of_list h
  simp only [mem_reconcileDarwinBoot, mem_runReconcile hvalid, forall_and, forall_key_iff hnodup]
  simp only [← forall₂_and, StartsAtBoot]
  refine forall₂_congr fun route _ => ?_
  have hends : route.receipt.Ends (readyToExpire · now = false) ↔ route.receipt.Ends (now < ·) ∨
      route.receipt.Ends fun notAfter =>
        notAfter ≤ now ∧ (notAfter = Time.zero ∨ now = Time.zero) := by
    simp only [RouteReceipt.Ends, readyToExpire_eq_false, and_or_left, exists_or]
  have hdisjoint : route.receipt.Ends (now < ·) → ¬ route.receipt.Ends fun notAfter =>
      notAfter ≤ now ∧ (notAfter = Time.zero ∨ now = Time.zero) := by
    rintro ⟨-, -, notAfter, hparse, hlt⟩ ⟨-, -, other, hother, hle, -⟩
    rw [hparse] at hother
    cases hother
    exact absurd hlt (Int.not_lt.2 hle)
  rw [hends]
  tauto

/-- A route whose receipt was removed is started on macOS and skipped by the reconciliation. -/
theorem darwin_starts_without_receipt :
    ∃ store : Directory RouteEntry.name,
      (reconcileDarwinBoot [] (listRoutes DottedNet.net store)).1 = ["db".toList] ∧
      (runReconcile [] 0 (listRoutes DottedNet.net store)).started = [] :=
  ⟨⟨[⟨"db".toList, true, .stored ⟨kindDesiredState, 1, [], desiredRunning, restartUnlessStopped, []⟩,
    .missing⟩], by simp⟩, by decide +kernel⟩

end WarpTweet
