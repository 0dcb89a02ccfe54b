import WarpTweet.Analysis.Generations
import WarpTweet.Analysis.DottedNet

/-!
# The canonical form of a locator

A parsed dial host should have one canonical text, which is parsed into the same host
again, and `Equal` should be an equivalence on parsed hosts and on published sets.

* An IP literal is unmapped and printed, and the printed text is read back
  (`isHost_of_addr`).
* A DNS name loses one trailing dot and its capitals. The name that is left is tested for
  being an IP literal when it is parsed or made canonical again, but not when the dot is
  taken off. A literal with a dot behind it is therefore parsed into a host that has no
  canonical text and is not equal to itself (`IsDottedLiteral`).
* `PublishedEndpointSet.Canonical` parses canonical texts only, so its results are
  canonical themselves (`canonical_canonical`).
-/

namespace WarpTweet

open Strings

/-! ## Hosts -/

/-- The host has the canonical text, and the text stands for the host: it is parsed into an
equal host with the same text, and it is an IP literal exactly when the host is an IP. -/
structure DialHost.HasForm (net : NetIP) (host : DialHost) (text : Text) : Prop where
  canonical : host.canonical net = .ok text
  reparsed : ∃ again, parseDialHost net text = .ok again ∧ again.canonical net = .ok text ∧
    again.equal net host = true
  ip_iff : host.ip.isSome = true ↔ (net.parseAddr text).isSome = true

/-- The text is no IP literal, but becomes one when a trailing dot is taken off and the
letters are made small. -/
def IsDottedLiteral (net : NetIP) (value : Text) : Prop :=
  net.parseAddr value = none ∧
    (net.parseAddr
      (toLower (if value.getLast? == some '.' then value.dropLast else value))).isSome = true

section

variable {net : NetIP} {left middle right host : DialHost} {text value name : Text}

theorem canonicalDNSName_eq_ok (h : canonicalDNSName net value = .ok name) :
    net.parseAddr value = none ∧
      name = toLower (if value.getLast? == some '.' then value.dropLast else value) := by
  simp only [canonicalDNSName, except_bind_eq_ok, refuseIf_eq_ok] at h
  obtain ⟨_, -, _, hliteral, _, -, _, -, _, -, _, -, _, -, _, -, hlower⟩ := h
  refine ⟨?_, (Except.ok.inj hlower).symm⟩
  rw [Option.isSome_eq_false_iff] at hliteral
  exact Option.isNone_iff_eq_none.1 hliteral

theorem parseDialHost_cases (h : parseDialHost net value = .ok host) :
    (∃ addr, net.parseAddr value = some addr ∧ addr.zone = [] ∧ host = ⟨some addr.unmap, []⟩) ∨
      ∃ name, net.parseAddr value = none ∧ canonicalDNSName net value = .ok name ∧
        host = ⟨none, name⟩ := by
  unfold parseDialHost at h
  split at h
  next => cases h
  next =>
    split at h
    next addr hparse =>
      split at h
      next hzone => exact .inl ⟨addr, hparse, List.isEmpty_iff.1 hzone, (Except.ok.inj h).symm⟩
      next => cases h
    next hparse =>
      rw [except_bind_eq_ok] at h
      obtain ⟨name, hname, hhost⟩ := h
      exact .inr ⟨name, hparse, hname, (Except.ok.inj hhost).symm⟩

theorem IsHost.hasForm (hform : IsHost net text) (hnet : net.Lawful)
    (hcanonical : host.canonical net = .ok text)
    (hip : host.ip.isSome = true ↔ (net.parseAddr text).isSome = true) : host.HasForm net text where
  canonical := hcanonical
  reparsed := ⟨_, hform.parseDialHost_eq hnet, hform.canonical_eq,
    DialHost.equal_iff.2 ⟨text, hform.canonical_eq, hcanonical⟩⟩
  ip_iff := hip

theorem hasForm_of_address (hnet : net.Lawful) {addr : Addr} (hzone : addr.zone = []) :
    DialHost.HasForm net ⟨some addr.unmap, []⟩ (net.format addr.unmap) := by
  have hzone' : addr.unmap.zone = [] := zone_unmap hzone
  have hcanonical : DialHost.canonical net ⟨some addr.unmap, []⟩ = .ok (net.format addr.unmap) := by
    simp [DialHost.canonical, hzone', unmap_unmap]
  refine (isHost_of_addr hnet hzone).hasForm hnet hcanonical ?_
  rw [hnet.parse_format _ hzone']

theorem hasForm_name_iff (hnet : net.Lawful) (hname : canonicalDNSName net value = .ok name) :
    (∃ text, DialHost.HasForm net ⟨none, name⟩ text) ↔ net.parseAddr name = none := by
  have hcanonical := isCanonicalName_of_canonicalDNSName hname
  have hne : name.isEmpty = false := List.isEmpty_eq_false_iff.2 hcanonical.ne_nil
  constructor
  · rintro ⟨text, hform⟩
    have hagain := hform.canonical
    simp only [DialHost.canonical, hne, Bool.false_eq_true, if_false] at hagain
    exact (canonicalDNSName_eq_ok hagain).1
  · intro hparse
    refine ⟨name, (IsHost.name hparse hcanonical).hasForm hnet ?_ ?_⟩
    · simp [DialHost.canonical, hne, hcanonical.canonicalDNSName_eq hparse]
    · simp [hparse]

/-- **A parsed host has a canonical form exactly when its text was not a literal with a dot
behind it.** -/
theorem hasForm_iff (hnet : net.Lawful) (h : parseDialHost net value = .ok host) :
    (∃ text, host.HasForm net text) ↔ ¬ IsDottedLiteral net value := by
  obtain ⟨addr, hparse, hzone, rfl⟩ | ⟨name, hparse, hname, rfl⟩ := parseDialHost_cases h
  · refine ⟨fun _ hdotted => ?_, fun _ => ⟨_, hasForm_of_address hnet hzone⟩⟩
    rw [hdotted.1] at hparse
    cases hparse
  · rw [hasForm_name_iff hnet hname, IsDottedLiteral, ← (canonicalDNSName_eq_ok hname).2]
    simp [hparse]

end

/-! ## Published sets -/

section

variable {net : NetIP} {set left middle right result : PublishedEndpointSet}

theorem PublishedEndpointSet.canonical_eq_ok_iff : set.canonical net = .ok result ↔
      (set.generation == 0) = false ∧
      (set.data.port == 0 || set.enrollment.port == 0) = false ∧
      ∃ dataHost enrollHost data enrollment,
        set.data.host.canonical net = .ok dataHost ∧
        set.enrollment.host.canonical net = .ok enrollHost ∧
        parseDialHost net dataHost = .ok data ∧
        parseDialHost net enrollHost = .ok enrollment ∧
        DialEndpoint.equal net ⟨data, set.data.port⟩ ⟨enrollment, set.enrollment.port⟩ = false ∧
        result = ⟨set.generation, ⟨data, set.data.port⟩, ⟨enrollment, set.enrollment.port⟩⟩ := by
  simp only [canonical, except_bind_eq_ok, refuseIf_eq_ok, mapError_eq_ok]
  constructor
  · rintro ⟨_, hgeneration, _, hports, dataHost, hdata, enrollHost, henroll, data, hparse, enroll,
      hparse', _, hapart, hresult⟩
    exact ⟨hgeneration, hports, dataHost, enrollHost, data, enroll, hdata, henroll, hparse, hparse',
      hapart, (Except.ok.inj hresult).symm⟩
  · rintro ⟨hgeneration, hports, dataHost, enrollHost, data, enroll, hdata, henroll, hparse,
      hparse', hapart, rfl⟩
    exact ⟨(), hgeneration, (), hports, dataHost, hdata, enrollHost, henroll, data, hparse, enroll,
      hparse', (), hapart, rfl⟩

theorem canonical_of_parse_canonical (hnet : net.Lawful) {host again : DialHost} {text : Text}
    (h : host.canonical net = .ok text) (hagain : parseDialHost net text = .ok again) :
    again.canonical net = .ok text := by
  have hform := isHost_of_canonical hnet h
  rw [hform.parseDialHost_eq hnet] at hagain
  cases hagain
  exact hform.canonical_eq

theorem PublishedEndpointSet.canonical_canonical (hnet : net.Lawful)
    (h : set.canonical net = .ok result) : result.canonical net = .ok result := by
  rw [canonical_eq_ok_iff] at h
  obtain ⟨hgeneration, hports, dataHost, enrollHost, data, enrollment, hdata, henroll, hparse,
    hparse', hapart, rfl⟩ := h
  exact canonical_eq_ok_iff.2 ⟨hgeneration, hports, dataHost, enrollHost, data, enrollment,
    canonical_of_parse_canonical hnet hdata hparse,
    canonical_of_parse_canonical hnet henroll hparse', hparse, hparse', hapart, rfl⟩

theorem endpoint_eq_of_equal (hnet : net.Lawful) {host host' again again' : DialHost}
    {text text' : Text} {port port' : Nat} (h : host.canonical net = .ok text)
    (h' : host'.canonical net = .ok text') (hparse : parseDialHost net text = .ok again)
    (hparse' : parseDialHost net text' = .ok again')
    (hequal : DialEndpoint.equal net ⟨again, port⟩ ⟨again', port'⟩ = true) :
    again = again' ∧ port = port' := by
  rw [DialEndpoint.equal, Bool.and_eq_true, beq_iff_eq, DialHost.equal_iff] at hequal
  obtain ⟨hport, shared, hshared, hshared'⟩ := hequal
  rw [canonical_of_parse_canonical hnet h hparse] at hshared
  rw [canonical_of_parse_canonical hnet h' hparse'] at hshared'
  cases hshared
  cases hshared'
  rw [hparse] at hparse'
  exact ⟨Except.ok.inj hparse', hport⟩

theorem PublishedEndpointSet.equal_iff (hnet : net.Lawful) : left.equal net right = true ↔
      ∃ form, left.canonical net = .ok form ∧ right.canonical net = .ok form := by
  unfold PublishedEndpointSet.equal
  constructor
  · intro h
    split at h
    next a b ha hb =>
      obtain ⟨-, -, dataHost, enrollHost, data, enrollment, hdata, henroll, hparse, hparse', -,
        rfl⟩ := canonical_eq_ok_iff.1 ha
      obtain ⟨-, -, dataHost', enrollHost', data', enrollment', hdata', henroll', hagain, hagain', -,
        rfl⟩ := canonical_eq_ok_iff.1 hb
      simp only [Bool.and_eq_true, beq_iff_eq] at h
      obtain ⟨⟨hgeneration, hequal⟩, hequal'⟩ := h
      obtain ⟨rfl, hport⟩ := endpoint_eq_of_equal hnet hdata hdata' hparse hagain hequal
      obtain ⟨rfl, hport'⟩ := endpoint_eq_of_equal hnet henroll henroll' hparse' hagain' hequal'
      exact ⟨_, ha, by rw [hb, hgeneration, hport, hport']⟩
    next => cases h
  · rintro ⟨form, hleft, hright⟩
    obtain ⟨-, -, dataHost, enrollHost, data, enrollment, hdata, henroll, hparse, hparse', -,
      rfl⟩ := canonical_eq_ok_iff.1 hleft
    have hself : data.equal net data = true :=
      DialHost.equal_iff.2 ⟨_, canonical_of_parse_canonical hnet hdata hparse,
        canonical_of_parse_canonical hnet hdata hparse⟩
    have hself' : enrollment.equal net enrollment = true :=
      DialHost.equal_iff.2 ⟨_, canonical_of_parse_canonical hnet henroll hparse',
        canonical_of_parse_canonical hnet henroll hparse'⟩
    simp [hleft, hright, DialEndpoint.equal, hself, hself']

end

/-! ## One canonical form -/

/-- **Locators have one canonical form, literals with a dot behind them apart.** A host that
was parsed has a canonical form and is equal to itself exactly when its text was no such
literal. `Equal` is symmetric and transitive, it is reflexive on the published sets that
`Canonical` accepts, and the result of `Canonical` is a fixed point. -/
theorem locators_canonical_iff {net : NetIP} (hnet : net.Lawful) :
    (∀ value host, parseDialHost net value = .ok host →
      (((∃ text, host.HasForm net text) ∧ host.equal net host = true) ↔
        ¬ IsDottedLiteral net value)) ∧
    (∀ left right : DialHost, left.equal net right = true → right.equal net left = true) ∧
    (∀ left middle right : DialHost, left.equal net middle = true →
      middle.equal net right = true → left.equal net right = true) ∧
    (∀ set result : PublishedEndpointSet, set.canonical net = .ok result →
      set.equal net set = true ∧ set.equal net result = true ∧
        result.canonical net = .ok result) ∧
    (∀ left right : PublishedEndpointSet,
      left.equal net right = true → right.equal net left = true) ∧
    (∀ left middle right : PublishedEndpointSet, left.equal net middle = true →
      middle.equal net right = true → left.equal net right = true) := by
  refine ⟨fun value host h => ?_, fun _ _ => DialHost.equal_symm,
    fun _ _ _ => DialHost.equal_trans, fun set result h => ?_, fun left right h => ?_,
    fun left middle right h h' => ?_⟩
  · rw [← hasForm_iff hnet h]
    refine ⟨And.left, fun hform => ⟨hform, ?_⟩⟩
    obtain ⟨text, hform⟩ := hform
    exact DialHost.equal_iff.2 ⟨text, hform.canonical, hform.canonical⟩
  · have hfixed := PublishedEndpointSet.canonical_canonical hnet h
    exact ⟨(PublishedEndpointSet.equal_iff hnet).2 ⟨result, h, h⟩,
      (PublishedEndpointSet.equal_iff hnet).2 ⟨result, h, hfixed⟩, hfixed⟩
  · rw [PublishedEndpointSet.equal_iff hnet] at h ⊢
    obtain ⟨form, hleft, hright⟩ := h
    exact ⟨form, hright, hleft⟩
  · rw [PublishedEndpointSet.equal_iff hnet] at h h' ⊢
    obtain ⟨form, hleft, hmiddle⟩ := h
    obtain ⟨form', hmiddle', hright⟩ := h'
    rw [hmiddle] at hmiddle'
    cases hmiddle'
    exact ⟨form, hleft, hright⟩

/-- A capital letter and a trailing dot are taken off a name, and the rest is its canonical
form. -/
theorem locators_canonical_iff_of_name :
    ∃ host, parseDialHost DottedNet.net "Host.Example.".toList = .ok host ∧
      host.canonical DottedNet.net = .ok "host.example".toList ∧
      ((∃ text, host.HasForm DottedNet.net text) ∧ host.equal DottedNet.net host = true) := by
  have hparse : parseDialHost DottedNet.net "Host.Example.".toList =
      .ok ⟨none, "host.example".toList⟩ := by decide +kernel
  refine ⟨_, hparse, by decide +kernel,
    ((locators_canonical_iff DottedNet.lawful).1 _ _ hparse).2 ?_⟩
  rintro ⟨-, hliteral⟩
  revert hliteral
  decide +kernel

/-- An IP literal with a dot behind it is parsed into a host that has no canonical form and
is not equal to itself. -/
theorem dotted_literal_has_no_form :
    ∃ host, parseDialHost DottedNet.net "1.2.3.4.".toList = .ok host ∧
      (∀ text, host.canonical DottedNet.net ≠ .ok text) ∧
      host.equal DottedNet.net host = false := by
  refine ⟨⟨none, "1.2.3.4".toList⟩, by decide +kernel, fun text h => ?_, by decide +kernel⟩
  have hrefused : DialHost.canonical DottedNet.net ⟨none, "1.2.3.4".toList⟩ =
      .error (.plain "DNS name must not be an IP literal") := by decide +kernel
  rw [hrefused] at h
  cases h

end WarpTweet
