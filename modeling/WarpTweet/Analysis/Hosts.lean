import WarpTweet.Model.Invites

/-!
# Canonical hosts

A host is brought into canonical form several times on its way from the server manifest to the
client manifest. Once is enough: the canonical form of a canonical host is itself. This rests on
how addresses are written and read, which is stated as `NetIP.Lawful`.
-/

namespace WarpTweet

open Strings

/-- What the standard library guarantees of `ParseAddr` and `String`. An address without a zone
is read back as it was written, the dotted form is the only text of an IPv4 address, and an IPv6
address is written with colons. -/
structure NetIP.Lawful (net : NetIP) : Prop where
  parse_format : ∀ addr : Addr, addr.zone = [] → net.parseAddr (net.format addr) = some addr
  format_parse : ∀ (text : Text) (bits : BitVec 32),
    net.parseAddr text = some (.v4 bits) → net.format (.v4 bits) = text
  colon : ∀ (text : Text) (bits : BitVec 128) (zone : Text),
    net.parseAddr text = some (.v6 bits zone) → ':' ∈ text
  nonempty : net.parseAddr [] = none

variable {c : Char} {net : NetIP} {left right : DialHost} {addr : Addr}

section

variable {addr : Addr}

theorem unmap_v6 (bits : BitVec 128) (zone : Text) : (Addr.v6 bits zone).unmap =
      if (Addr.v6 bits zone).is4In6 then .v4 (BitVec.ofNat 32 bits.toNat) else .v6 bits zone := by
  simp only [Addr.unmap, Addr.is4In6, decide_eq_true_eq]

theorem unmap_of_not_is4In6 (h : addr.is4In6 = false) : addr.unmap = addr := by
  cases addr with
  | v4 bits => rfl
  | v6 bits zone =>
    rw [unmap_v6, h]
    rfl

theorem is4In6_unmap : addr.unmap.is4In6 = false := by
  cases addr with
  | v4 bits => rfl
  | v6 bits zone =>
    rw [unmap_v6]
    cases h : (Addr.v6 bits zone).is4In6 with
    | true => rfl
    | false => exact h

theorem unmap_unmap : addr.unmap.unmap = addr.unmap := unmap_of_not_is4In6 is4In6_unmap

theorem DialHost.equal_iff : left.equal net right = true ↔
      ∃ text, left.canonical net = .ok text ∧ right.canonical net = .ok text := by
  unfold DialHost.equal
  cases left.canonical net with
  | error err => simp
  | ok leftText =>
    cases right.canonical net with
    | error err => simp
    | ok rightText => simp [eq_comm]

theorem DialHost.equal_symm (h : left.equal net right = true) : right.equal net left = true := by
  rw [DialHost.equal_iff] at h ⊢
  obtain ⟨text, hleft, hright⟩ := h
  exact ⟨text, hright, hleft⟩

theorem DialHost.equal_trans {middle : DialHost} (h : left.equal net middle = true)
    (h' : middle.equal net right = true) : left.equal net right = true := by
  rw [DialHost.equal_iff] at h h' ⊢
  obtain ⟨text, hleft, hmiddle⟩ := h
  obtain ⟨text', hmiddle', hright⟩ := h'
  rw [hmiddle] at hmiddle'
  cases hmiddle'
  exact ⟨text, hleft, hright⟩

theorem zone_unmap (h : addr.zone = []) : addr.unmap.zone = [] := by
  cases addr with
  | v4 bits => rfl
  | v6 bits zone =>
    rw [unmap_v6]
    cases (Addr.v6 bits zone).is4In6 with
    | true => rfl
    | false => exact h

end

/-! ## Names -/

section

variable {net : NetIP} {name lower : Text}

/-- The characters of a canonical name. -/
def isNameChar (c : Char) : Bool := c.isLower || c.isDigit || c == '-' || c == '.'

theorem toNat_of_isNameChar (h : isNameChar c = true) :
    c = '-' ∨ c = '.' ∨ (0x30 ≤ c.toNat ∧ c.toNat ≤ 0x39) ∨ (0x61 ≤ c.toNat ∧ c.toNat ≤ 0x7a) := by
  unfold isNameChar Char.isLower Char.isDigit at h
  simp only [Bool.or_eq_true, Bool.and_eq_true, decide_eq_true_eq, beq_iff_eq, ge_iff_le,
    UInt32.le_iff_toNat_le] at h
  rcases h with ((h | h) | h) | h
  · exact .inr (.inr (.inr h))
  · exact .inr (.inr (.inl h))
  · exact .inl h
  · exact .inr (.inl h)

theorem toLowerChar_of_isNameChar (h : isNameChar c = true) : toLowerChar c = c := by
  have hrange : c.toNat < 0x41 ∨ 0x5a < c.toNat := by
    rcases toNat_of_isNameChar h with rfl | rfl | h | h
    · decide
    · decide
    · omega
    · omega
  have hhigh : c.toNat ≤ 0x7a := by
    rcases toNat_of_isNameChar h with rfl | rfl | h | h
    · decide
    · decide
    · omega
    · omega
  unfold toLowerChar
  rw [if_neg, if_neg, if_neg]
  · rw [Bool.and_eq_true, decide_eq_true_eq, decide_eq_true_eq]
    omega
  · rw [beq_iff_eq]
    omega
  · rw [beq_iff_eq]
    omega

theorem allowed_of_isNameChar (h : isNameChar c = true) :
    ¬ ((decide (127 < c.toNat) || isForbiddenNameChar c) = true) := by
  have hforbidden : ['/', '?', '#', '@', ':', '[', ']', '*', '%'].all (fun d => !isNameChar d) := by
    decide
  have hlist : (['/', '?', '#', '@', ':', '[', ']', '*', '%'].contains c) = false := by
    rw [Bool.eq_false_iff]
    intro hmem
    have hc := List.all_eq_true.1 hforbidden c (List.contains_iff_mem.1 hmem)
    rw [h] at hc
    cases hc
  have hspace : (c == ' ') = false := by
    rw [beq_eq_false_iff_ne]
    rintro rfl
    exact absurd h (by decide)
  have hrange : 0x2d ≤ c.toNat ∧ c.toNat ≤ 0x7a := by
    rcases toNat_of_isNameChar h with rfl | rfl | h | h
    · decide
    · decide
    · omega
    · omega
  unfold isForbiddenNameChar
  rw [hlist, hspace]
  simp only [Bool.or_false, Bool.or_eq_true, decide_eq_true_eq, beq_iff_eq]
  omega

theorem mem_splitOn {s : Text} {a : Char} (h : c ∈ s) : c = a ∨ ∃ part ∈ s.splitOn a, c ∈ part := by
  induction s with
  | nil => cases h
  | cons d s ih =>
    rw [List.splitOn_cons_eq_if_modifyHead]
    obtain ⟨first, rest, hparts⟩ := List.exists_cons_of_ne_nil (List.splitOn_ne_nil a s)
    rw [hparts] at ih ⊢
    by_cases hd : d = a
    · rw [if_pos (beq_iff_eq.2 hd)]
      rcases List.mem_cons.1 h with rfl | h
      · exact .inl hd
      · rcases ih h with rfl | ⟨part, hpart, hc⟩
        · exact .inl rfl
        · exact .inr ⟨part, List.mem_cons_of_mem _ hpart, hc⟩
    · rw [if_neg (by rwa [beq_iff_eq]), List.modifyHead_cons]
      rcases List.mem_cons.1 h with rfl | h
      · exact .inr ⟨_, List.mem_cons_self, List.mem_cons_self⟩
      · rcases ih h with rfl | ⟨part, hpart, hc⟩
        · exact .inl rfl
        · rcases List.mem_cons.1 hpart with rfl | hpart
          · exact .inr ⟨_, List.mem_cons_self, List.mem_cons_of_mem _ hc⟩
          · exact .inr ⟨part, List.mem_cons_of_mem _ hpart, hc⟩

theorem forM_checkLabel_eq_ok {labels : List Text} :
    labels.forM checkLabel = .ok () ↔ ∀ label ∈ labels, checkLabel label = .ok () := by
  induction labels with
  | nil => simp [pure, Except.pure]
  | cons label labels ih =>
    rw [List.forM_eq_forM, List.forM_cons, except_bind_eq_ok, ← List.forM_eq_forM, ih,
      List.forall_mem_cons]
    constructor
    · rintro ⟨_, hlabel, hrest⟩
      exact ⟨hlabel, hrest⟩
    · rintro ⟨hlabel, hrest⟩
      exact ⟨(), hlabel, hrest⟩

theorem chars_of_checkLabel {label : Text} (h : checkLabel label = .ok ()) :
    label ≠ [] ∧ ∀ c ∈ label, isNameChar c = true := by
  simp only [checkLabel, except_bind_eq_ok, refuseIf_eq_ok] at h
  obtain ⟨_, hempty, _, -, _, -, hchars⟩ := h
  refine ⟨by simpa using hempty, ?_⟩
  intro c hc
  have hchar := List.any_eq_false.1 hchars c hc
  rw [Bool.not_eq_true, Bool.not_eq_false'] at hchar
  rw [isNameChar, hchar, Bool.true_or]

/-- A canonical name: its labels pass the checks, and it is not too long. -/
structure IsCanonicalName (name : Text) : Prop where
  labels : ∀ label ∈ name.splitOn '.', checkLabel label = .ok ()
  length_le : byteLength name ≤ 253

theorem isCanonicalName_of_canonicalDNSName (h : canonicalDNSName net name = .ok lower) :
    IsCanonicalName lower := by
  simp only [canonicalDNSName, except_bind_eq_ok, refuseIf_eq_ok] at h
  obtain ⟨_, -, _, -, _, -, _, -, _, -, _, -, _, hlength, _, hlabels, hlower⟩ := h
  cases hlower
  refine ⟨forM_checkLabel_eq_ok.1 hlabels, ?_⟩
  have hle := of_decide_eq_false hlength
  omega

namespace IsCanonicalName

section

variable (h : IsCanonicalName name)
include h

theorem chars : ∀ c ∈ name, isNameChar c = true := by
  intro c hc
  rcases mem_splitOn (a := '.') hc with rfl | ⟨label, hlabel, hc⟩
  · decide
  · exact (chars_of_checkLabel (h.labels label hlabel)).2 c hc

theorem nil_notMem : [] ∉ name.splitOn '.' :=
  fun hnil => (chars_of_checkLabel (h.labels [] hnil)).1 rfl

theorem ne_nil : name ≠ [] := by
  rintro rfl
  exact h.nil_notMem (by simp)

theorem getLast?_ne : name.getLast? ≠ some '.' := by
  intro hlast
  obtain ⟨start, rfl⟩ := List.getLast?_eq_some_iff.1 hlast
  apply h.nil_notMem
  rw [List.splitOn_append_cons_self, List.splitOn_nil]
  simp

theorem contains_dots : contains name ['.', '.'] = false := by
  rw [contains, List.any_eq_false]
  intro rest hrest hdots
  obtain ⟨start, rfl⟩ := (List.mem_tails _ _).1 hrest
  obtain ⟨tail, rfl⟩ := List.isPrefixOf_iff_prefix.1 hdots
  apply h.nil_notMem
  rw [List.cons_append, List.splitOn_append_cons_self, List.cons_append,
    List.splitOn_cons_eq_if_modifyHead]
  simp

theorem toLower_eq : toLower name = name := by
  unfold toLower
  conv_rhs => rw [← List.map_id name]
  apply List.map_congr_left
  intro c hc
  exact toLowerChar_of_isNameChar (h.chars c hc)

theorem find?_eq_none :
    name.find? (fun c => decide (127 < c.toNat) || isForbiddenNameChar c) = none := by
  rw [List.find?_eq_none]
  intro c hc
  exact allowed_of_isNameChar (h.chars c hc)

/-- **A canonical name is its own canonical form**, unless it can be read as an address. -/
theorem canonicalDNSName_eq (hparse : net.parseAddr name = none) :
    canonicalDNSName net name = .ok name := by
  have hlast : (name.getLast? == some '.') = false := beq_eq_false_iff_ne.2 h.getLast?_ne
  have hempty : name.isEmpty = false := List.isEmpty_eq_false_iff.2 h.ne_nil
  have hlength : decide (253 < byteLength name) = false := by
    rw [decide_eq_false_iff_not]
    have hle := h.length_le
    omega
  have hname : (if name.getLast? == some '.' then name.dropLast else name) = name := by
    rw [hlast]
    rfl
  simp only [canonicalDNSName, hname, h.toLower_eq, except_bind_eq_ok, refuseIf_eq_ok]
  refine ⟨(), hempty, (), by rw [hparse]; rfl, (), hempty, (), h.contains_dots, (), ?_, (), ?_,
    (), hlength, (), forM_checkLabel_eq_ok.2 h.labels, rfl⟩
  · rw [h.find?_eq_none]
    rfl
  · rw [h.find?_eq_none]
    rfl

end

end IsCanonicalName

end

/-! ## Hosts -/

variable {net : NetIP} {text : Text}

/-- The text of a host in canonical form: an address, or a name that is not one. -/
inductive IsHost (net : NetIP) (text : Text) : Prop where
  | address (addr : Addr) (hparse : net.parseAddr text = some addr)
      (hformat : net.format addr = text) (hzone : addr.zone = []) (hunmap : addr.unmap = addr)
  | name (hparse : net.parseAddr text = none) (hname : IsCanonicalName text)

theorem isHost_of_addr (hnet : net.Lawful) (hzone : addr.zone = []) :
    IsHost net (net.format addr.unmap) := by
  have hzone' := zone_unmap hzone
  exact .address addr.unmap (hnet.parse_format _ hzone') rfl hzone' unmap_unmap

/-- A canonical name has no colon. If it can be read as an address, it is a dotted one. -/
theorem isHost_of_name (hnet : net.Lawful) (hname : IsCanonicalName text) : IsHost net text := by
  cases hparse : net.parseAddr text with
  | none => exact .name hparse hname
  | some addr =>
    cases addr with
    | v4 bits => exact .address _ hparse (hnet.format_parse text bits hparse) rfl rfl
    | v6 bits zone =>
      have hcolon := hname.chars ':' (hnet.colon text bits zone hparse)
      exact absurd hcolon (by decide)

theorem isHost_of_canonical (hnet : net.Lawful) {host : DialHost}
    (h : host.canonical net = .ok text) : IsHost net text := by
  unfold DialHost.canonical at h
  split at h
  next addr _ =>
    split at h
    next => cases h
    next =>
      split at h
      next hzone =>
        cases h
        exact isHost_of_addr hnet (List.isEmpty_iff.1 hzone)
      next => cases h
  next =>
    split at h
    next => cases h
    next => exact isHost_of_name hnet (isCanonicalName_of_canonicalDNSName h)

theorem IsHost.parseDialHost_eq (h : IsHost net text) (hnet : net.Lawful) :
    parseDialHost net text = .ok
      (match net.parseAddr text with
        | some addr => ⟨some addr, []⟩
        | none => ⟨none, text⟩) := by
  cases h with
  | address addr hparse hformat hzone hunmap =>
    have hne : text.isEmpty = false := by
      rw [List.isEmpty_eq_false_iff]
      rintro rfl
      rw [hnet.nonempty] at hparse
      cases hparse
    simp [parseDialHost, hne, hparse, hzone, hunmap]
  | name hparse hname =>
    have hne : text.isEmpty = false := List.isEmpty_eq_false_iff.2 hname.ne_nil
    simp [parseDialHost, hne, hparse, hname.canonicalDNSName_eq hparse, bind, Except.bind, pure,
      Except.pure]

theorem IsHost.canonical_eq (h : IsHost net text) : DialHost.canonical net
      (match net.parseAddr text with
        | some addr => ⟨some addr, []⟩
        | none => ⟨none, text⟩) = .ok text := by
  cases h with
  | address addr hparse hformat hzone hunmap =>
    rw [hparse]
    simp [DialHost.canonical, hzone, hunmap, hformat]
  | name hparse hname =>
    have hne : text.isEmpty = false := List.isEmpty_eq_false_iff.2 hname.ne_nil
    rw [hparse]
    simp [DialHost.canonical, hne, hname.canonicalDNSName_eq hparse]

/-- **A canonical host is its own canonical form.** -/
theorem IsHost.canonicalInviteHost_eq {env : Env} (hnet : env.net.Lawful) (h : IsHost env.net text) :
    canonicalInviteHost env text = .ok text := by
  unfold canonicalInviteHost
  rw [h.parseDialHost_eq hnet]
  exact h.canonical_eq

/-- The addresses that the client may dial. -/
structure Addr.Dialable (addr : Addr) : Prop where
  specified : addr.isUnspecified = false
  unicast : addr.isMulticast = false
  global : addr.isLinkLocalUnicast = false
  single : addr.isBroadcast = false

theorem validateDialIP_iff {field : String} (hzone : addr.zone = [])
    (hunmap : addr.unmap = addr) : validateDialIP field addr = .ok () ↔ addr.Dialable := by
  simp only [validateDialIP, hunmap, hzone, except_bind_eq_ok, refuseIf_eq_ok]
  constructor
  · rintro ⟨_, -, _, hspecified, _, hunicast, _, hglobal, hsingle⟩
    exact ⟨hspecified, hunicast, hglobal, hsingle⟩
  · rintro ⟨hspecified, hunicast, hglobal, hsingle⟩
    exact ⟨(), rfl, (), hspecified, (), hunicast, (), hglobal, hsingle⟩

/-- The manifest accepts a canonical host if it is a name or an address that may be dialed. -/
theorem IsHost.validateServerHost_iff (hnet : net.Lawful) (h : IsHost net text) :
    validateServerHost net text = .ok () ↔
      ∀ addr, net.parseAddr text = some addr → addr.Dialable := by
  have hcanonical := h.canonical_eq
  unfold validateServerHost
  rw [h.parseDialHost_eq hnet]
  simp only [Except.mapError, bind, Except.bind, hcanonical]
  cases h with
  | address addr hparse hformat hzone hunmap =>
    simp only [hparse, ne_eq, not_true_eq_false, decide_false, refuseIf]
    refine (validateDialIP_iff hzone hunmap).trans ?_
    constructor
    · intro hdial other hother
      cases hother
      exact hdial
    · intro hdial
      exact hdial addr rfl
  | name hparse hname =>
    simp [hparse, refuseIf, pure, Except.pure]

end WarpTweet
