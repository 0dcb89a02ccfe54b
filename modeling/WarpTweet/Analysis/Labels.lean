import WarpTweet.Model.Invites
import WarpTweet.Model.Routes

/-!
# Labels are tunnel ids

The client names its tunnel after the client name of the invite. Whatever that name is, the
label `SanitizeInviteLabel` makes of it is a tunnel id that the manifest accepts, and the three
other checks of names accept it as well. Sanitizing a label again leaves it as it is.
-/

namespace WarpTweet

open Strings

def isLabelChar (c : Char) : Bool := isLowerASCIIAlphaNumeric c || c == '-'

variable {c : Char} {s label : Text}

theorem cases_of_isLabelChar (h : isLabelChar c = true) :
    (0x61 ≤ c.toNat ∧ c.toNat ≤ 0x7a) ∨ (0x30 ≤ c.toNat ∧ c.toNat ≤ 0x39) ∨ c.toNat = 0x2d := by
  unfold isLabelChar isLowerASCIIAlphaNumeric isLowerASCIILetter at h
  simp only [Bool.or_eq_true, Bool.and_eq_true, decide_eq_true_eq, beq_iff_eq, Char.le_def,
    UInt32.le_iff_toNat_le] at h
  have hletter : 'a'.val.toNat = 0x61 ∧ 'z'.val.toNat = 0x7a := by decide
  have hdigit : '0'.val.toNat = 0x30 ∧ '9'.val.toNat = 0x39 := by decide
  have hc : c.toNat = c.val.toNat := rfl
  rcases h with (h | h) | h
  · omega
  · omega
  · subst h
    decide

theorem range_of_isLabelChar (h : isLabelChar c = true) : 0x2d ≤ c.toNat ∧ c.toNat ≤ 0x7a := by
  have hcases := cases_of_isLabelChar h
  omega

theorem isControl_of_isLabelChar (h : isLabelChar c = true) : isControl c = false := by
  obtain ⟨hlow, hhigh⟩ := range_of_isLabelChar h
  unfold isControl
  simp only [Bool.or_eq_false_iff, Bool.and_eq_false_iff, decide_eq_false_iff_not]
  omega

theorem utf8Size_of_isLabelChar (h : isLabelChar c = true) : c.utf8Size = 1 := by
  obtain ⟨-, hhigh⟩ := range_of_isLabelChar h
  rw [Char.utf8Size_eq_one_iff, UInt32.le_iff_toNat_le]
  have hc : c.toNat = c.val.toNat := rfl
  have hbound : (127 : UInt32).toNat = 127 := by decide
  omega

theorem byteLength_of_isLabelChar {s : Text} (h : ∀ c ∈ s, isLabelChar c = true) :
    byteLength s = s.length := by
  induction s with
  | nil => rfl
  | cons c s ih =>
    have hrest := ih fun d hd => h d (List.mem_cons_of_mem c hd)
    have hfirst := utf8Size_of_isLabelChar (h c List.mem_cons_self)
    unfold byteLength at hrest ⊢
    rw [List.map_cons, List.sum_cons, hfirst, hrest, List.length_cons, Nat.add_comm]

/-! ## Writing and trimming -/

theorem isLabelChar_of_mem_writeLabel {lastHyphen : Bool} (h : ∀ c ∈ label, isLabelChar c = true) :
    ∀ c ∈ writeLabel label lastHyphen s, isLabelChar c = true := by
  -- the label written so far only grows, by one character of a label at a time
  have hgrow : ∀ {label : Text} {d : Char}, (∀ c ∈ label, isLabelChar c = true) →
      isLabelChar d = true → ∀ c ∈ label ++ [d], isLabelChar c = true := by
    intro label d hlabel hd c hc
    rcases List.mem_append.1 hc with hc | hc
    · exact hlabel c hc
    · rw [List.mem_singleton.1 hc]
      exact hd
  induction s generalizing label lastHyphen with
  | nil => exact h
  | cons d s ih =>
    unfold writeLabel
    split
    next hd =>
      apply ih
      apply hgrow h
      rw [isLabelChar, hd, Bool.true_or]
    next =>
      split
      next =>
        apply ih
        exact hgrow h (by decide)
      next => exact ih h

theorem mem_of_mem_trimHyphens (h : c ∈ trimHyphens s) : c ∈ s := by
  unfold trimHyphens at h
  have hdrop := (List.rdropWhile_prefix _ _).subset h
  exact (List.dropWhile_suffix _).subset hdrop

theorem length_trimHyphens_le : (trimHyphens s).length ≤ s.length := by
  unfold trimHyphens
  exact (List.rdropWhile_prefix _ _).length_le.trans (List.dropWhile_suffix _).length_le

theorem head?_trimHyphens : (trimHyphens s).head? ≠ some '-' := by
  intro h
  unfold trimHyphens at h
  obtain ⟨rest, hrest⟩ := List.rdropWhile_prefix (p := (· == '-')) (s.dropWhile (· == '-'))
  have hhead : (s.dropWhile (· == '-')).head? = some '-' := by
    rw [← hrest, List.head?_append, h]
    rfl
  have hnot := List.head?_dropWhile_not (· == '-') s
  rw [hhead] at hnot
  simp at hnot

theorem getLast?_trimHyphens : (trimHyphens s).getLast? ≠ some '-' := by
  intro h
  unfold trimHyphens at h
  have hne : (s.dropWhile (· == '-')).rdropWhile (· == '-') ≠ [] := by
    intro hnil
    rw [hnil] at h
    cases h
  have hlast := List.rdropWhile_last_not (p := (· == '-')) _ hne
  rw [List.getLast?_eq_some_getLast hne, Option.some.injEq] at h
  rw [h] at hlast
  exact hlast (by decide)

/-! ## Sanitized labels -/

section

/-- A label that can be a tunnel id: it starts with a letter, does not end with a hyphen, and is
not too long. -/
structure IsLabel (label : Text) : Prop where
  chars : ∀ c ∈ label, isLabelChar c = true
  first : label.head?.any isLowerASCIILetter = true
  last : label.getLast? ≠ some '-'
  length_le : label.length ≤ maxInviteLabelBytes

theorem isLabel_host : IsLabel "host".toList where
  chars := List.all_eq_true.1 (by decide)
  first := by decide
  last := by decide
  length_le := by decide

theorem IsLabel.ne_nil (h : IsLabel label) : label ≠ [] := by
  intro hnil
  have hfirst := h.first
  rw [hnil] at hfirst
  cases hfirst

theorem IsLabel.validateTunnelID (h : IsLabel label) (field : String) :
    validateTunnelID field label = .ok () := by
  have hne := h.ne_nil
  have hlength : byteLength label ≤ 48 := by
    rw [byteLength_of_isLabelChar h.chars]
    exact h.length_le
  simp only [WarpTweet.validateTunnelID, validateSafeString, except_bind_eq_ok, refuseIf_eq_ok]
  refine ⟨(), ?_, (), ?_, (), ?_, ?_⟩
  · rw [List.any_eq_false]
    intro c hc
    rw [isControl_of_isLabelChar (h.chars c hc)]
    decide
  · rw [Bool.or_eq_false_iff, List.isEmpty_eq_false_iff, decide_eq_false_iff_not]
    exact ⟨hne, by omega⟩
  · rw [h.first]
    rfl
  · rw [Bool.not_eq_false', Bool.and_eq_true, List.all_eq_true]
    constructor
    · intro c hc
      have hchar := h.chars c (List.mem_of_mem_tail hc)
      unfold isLabelChar at hchar
      rw [hchar, Bool.true_or]
    · have hlast := h.chars _ (List.getLast_mem hne)
      have hhyphen := h.last
      rw [List.getLast?_eq_some_getLast hne] at hhyphen ⊢
      have hne' : label.getLast hne ≠ '-' := fun heq => hhyphen (by rw [heq])
      simpa [isLabelChar, hne'] using hlast

theorem letterFirst_first (hchars : ∀ c ∈ label, isLabelChar c = true) (hne : label ≠ [])
    (hhead : label.head? ≠ some '-') : (letterFirst label).head?.any isLowerASCIILetter = true := by
  obtain ⟨c, rest, rfl⟩ := List.exists_cons_of_ne_nil hne
  have hchar := hchars c List.mem_cons_self
  have hhyphen : c ≠ '-' := fun heq => hhead (by rw [heq]; rfl)
  unfold letterFirst
  split
  next =>
    rw [List.head?_cons, Option.any_some]
    decide
  next hdigit =>
    simp only [List.head?_cons, Option.any_some, Bool.not_eq_true] at hdigit ⊢
    simpa [isLabelChar, isLowerASCIIAlphaNumeric, hdigit, hhyphen] using hchar

theorem isLabelChar_of_mem_letterFirst (hchars : ∀ c ∈ label, isLabelChar c = true) :
    ∀ c ∈ letterFirst label, isLabelChar c = true := by
  intro c hc
  unfold letterFirst at hc
  split at hc
  next =>
    rcases List.mem_cons.1 hc with rfl | hc
    · decide
    · exact hchars c hc
  next => exact hchars c hc

theorem getLast?_letterFirst (hne : label ≠ []) : (letterFirst label).getLast? = label.getLast? := by
  unfold letterFirst
  split
  next => exact List.getLast?_cons_of_ne_nil hne
  next => rfl

theorem letterFirst_of_first (h : label.head?.any isLowerASCIILetter = true) :
    letterFirst label = label := by
  unfold letterFirst
  rw [if_neg]
  intro hdigit
  cases label with
  | nil => cases h
  | cons c rest =>
    simp only [List.head?_cons, Option.any_some, isLowerASCIILetter, Bool.and_eq_true,
      decide_eq_true_eq, Char.le_def, UInt32.le_iff_toNat_le] at h hdigit
    have hletter : 'a'.val.toNat = 0x61 := by decide
    have hnine : '9'.val.toNat = 0x39 := by decide
    omega

/-- Cutting a label that starts with a letter and trimming it again leaves that letter. -/
theorem first_trimHyphens_take {n : Nat} (hn : 0 < n)
    (h : label.head?.any isLowerASCIILetter = true) :
    (trimHyphens (label.take n)).head?.any isLowerASCIILetter = true := by
  obtain ⟨n, rfl⟩ := Nat.exists_eq_add_one_of_ne_zero hn.ne'
  cases label with
  | nil => cases h
  | cons c rest =>
    have hc : isLowerASCIILetter c = true := by simpa using h
    have hhyphen : (c == '-') = false := by
      rw [beq_eq_false_iff_ne]
      rintro rfl
      exact absurd hc (by decide)
    have hstart : trimHyphens ((c :: rest).take (n + 1)) =
        ((c :: rest.take n)).rdropWhile (· == '-') := by
      rw [trimHyphens, List.take_succ_cons, List.dropWhile_cons_of_neg (by simp [hhyphen])]
    have hne : (c :: rest.take n).rdropWhile (· == '-') ≠ [] := by
      intro hnil
      have hall := List.rdropWhile_eq_nil_iff.1 hnil c List.mem_cons_self
      rw [hhyphen] at hall
      cases hall
    obtain ⟨tail, htail⟩ := List.rdropWhile_prefix (· == '-') (c :: rest.take n)
    rw [hstart]
    obtain ⟨d, kept, hkept⟩ := List.exists_cons_of_ne_nil hne
    rw [hkept] at htail ⊢
    rw [List.cons_append, List.cons.injEq] at htail
    rw [htail.1]
    exact h

/-- **What `SanitizeInviteLabel` returns is a label**, for any text. -/
theorem isLabel_sanitizeInviteLabel (raw : Text) : IsLabel (sanitizeInviteLabel raw) := by
  unfold sanitizeInviteLabel
  dsimp only
  split
  next => exact isLabel_host
  next =>
    split
    next => exact isLabel_host
    next hempty =>
      rw [List.isEmpty_iff] at hempty
      have hwritten : ∀ c ∈ trimHyphens (writeLabel [] false (toLower (trimSpace raw))),
          isLabelChar c = true := by
        intro c hc
        exact isLabelChar_of_mem_writeLabel (by simp) c (mem_of_mem_trimHyphens hc)
      have hfirst := letterFirst_first hwritten hempty head?_trimHyphens
      have hchars := isLabelChar_of_mem_letterFirst hwritten
      split
      next =>
        -- the label is too long: it is cut and trimmed, and still starts with its letter
        have hcut := first_trimHyphens_take (show 0 < maxInviteLabelBytes by decide) hfirst
        split
        next hnil =>
          rw [List.isEmpty_iff] at hnil
          rw [hnil] at hcut
          cases hcut
        next =>
          have hshort : (trimHyphens ((letterFirst (trimHyphens (writeLabel [] false
              (toLower (trimSpace raw))))).take maxInviteLabelBytes)).length ≤
                maxInviteLabelBytes :=
            length_trimHyphens_le.trans (List.length_take_le _ _)
          rw [letterFirst_of_first hcut, List.take_of_length_le hshort]
          refine ⟨?_, hcut, getLast?_trimHyphens, hshort⟩
          intro c hc
          exact hchars c (List.mem_of_mem_take (mem_of_mem_trimHyphens hc))
      next hlength =>
        refine ⟨hchars, hfirst, ?_, by omega⟩
        rw [getLast?_letterFirst hempty]
        exact getLast?_trimHyphens

/-! ## Single hyphens -/

/-- No hyphen is followed by another one. -/
abbrev SingleHyphens (s : Text) : Prop := s.IsChain fun c d => ¬ (c = '-' ∧ d = '-')

variable {lastHyphen : Bool}

theorem singleHyphens_trimHyphens (h : SingleHyphens s) : SingleHyphens (trimHyphens s) :=
  List.IsChain.infix h
    ((List.rdropWhile_prefix _ _).isInfix.trans (List.dropWhile_suffix _).isInfix)

theorem singleHyphens_letterFirst (h : SingleHyphens s) : SingleHyphens (letterFirst s) := by
  unfold letterFirst
  split
  next => exact List.isChain_cons.2 ⟨by simp, h⟩
  next => exact h

theorem singleHyphens_writeLabel (h : SingleHyphens label)
    (hlast : label.getLast? = some '-' → lastHyphen = true) :
    SingleHyphens (writeLabel label lastHyphen s) := by
  induction s generalizing label lastHyphen with
  | nil => exact h
  | cons c s ih =>
    unfold writeLabel
    split
    next halnum =>
      have hc : c ≠ '-' := by
        rintro rfl
        exact absurd halnum (by decide)
      exact ih (List.isChain_append.2 ⟨h, .singleton c, by simp [hc]⟩) (by simp [hc])
    next =>
      split
      next hhyphen =>
        have hnot : label.getLast? ≠ some '-' := fun heq => by simp [hlast heq] at hhyphen
        refine ih (List.isChain_append.2 ⟨h, .singleton '-', ?_⟩) (by simp)
        rintro c hc d - ⟨rfl, -⟩
        exact hnot hc
      next => exact ih h hlast

theorem singleHyphens_sanitizeInviteLabel (raw : Text) :
    SingleHyphens (sanitizeInviteLabel raw) := by
  have hhost : SingleHyphens "host".toList := by decide
  have hwritten : SingleHyphens (letterFirst (trimHyphens
      (writeLabel [] false (toLower (trimSpace raw))))) :=
    singleHyphens_letterFirst (singleHyphens_trimHyphens
      (singleHyphens_writeLabel .nil (by simp)))
  unfold sanitizeInviteLabel
  dsimp only
  split_ifs
  · exact hhost
  · exact hhost
  · exact hhost
  · exact (singleHyphens_letterFirst (singleHyphens_trimHyphens (hwritten.take _))).take _
  · exact hwritten

/-! ## Sanitizing a label -/

theorem writeLabel_eq (hchars : ∀ c ∈ s, isLabelChar c = true) (hsingle : SingleHyphens (label ++ s))
    (hfirst : label = [] → s.head? ≠ some '-')
    (hlast : lastHyphen = true → label.getLast? = some '-') :
    writeLabel label lastHyphen s = label ++ s := by
  induction s generalizing label lastHyphen with
  | nil => simp [writeLabel]
  | cons c s ih =>
    have hsplit : label ++ c :: s = label ++ [c] ++ s := by simp
    have hrest : ∀ d ∈ s, isLabelChar d = true := fun d hd => hchars d (List.mem_cons_of_mem _ hd)
    rw [hsplit] at hsingle ⊢
    unfold writeLabel
    split
    next => exact ih hrest hsingle (by simp) (by simp)
    next halnum =>
      obtain rfl : c = '-' := by
        simpa [isLabelChar, halnum] using hchars c List.mem_cons_self
      have hne : label ≠ [] := fun hnil => hfirst hnil rfl
      have hnot : lastHyphen = false := by
        by_contra htrue
        have hchain := (List.isChain_append.1 (List.isChain_append.1 hsingle).1).2.2
        exact hchain '-' (hlast (by simpa using htrue)) '-' rfl ⟨rfl, rfl⟩
      rw [if_pos (by simp [hne, hnot])]
      exact ih hrest hsingle (by simp) (by simp)

theorem sanitizeInviteLabel_of_isLabel (h : IsLabel label) (hsingle : SingleHyphens label) :
    sanitizeInviteLabel label = label := by
  have hspace : trimSpace label = label := by
    refine trimSpace_of_not_space fun c hc => ?_
    have hrange := cases_of_isLabelChar (h.chars c hc)
    simp only [isSpace, Bool.or_eq_false_iff, Bool.and_eq_false_iff, beq_eq_false_iff_ne,
      decide_eq_false_iff_not]
    omega
  have hlower : toLower label = label := by
    refine (List.map_congr_left fun c hc => ?_).trans (List.map_id label)
    have hrange := cases_of_isLabelChar (h.chars c hc)
    simp only [toLowerChar, beq_iff_eq, Bool.and_eq_true, decide_eq_true_eq]
    rw [if_neg (by omega), if_neg (by omega), if_neg (by omega)]
    rfl
  have hfirst : label.head? ≠ some '-' := by
    intro heq
    have hletter := h.first
    rw [heq] at hletter
    exact absurd hletter (by decide)
  have htrim : trimHyphens label = label := by
    have hstart : label.dropWhile (· == '-') = label := by
      cases label with
      | nil => rfl
      | cons c rest => exact List.dropWhile_cons_of_neg (by simpa using hfirst)
    rw [trimHyphens, hstart, List.rdropWhile_eq_self_iff]
    intro hne
    have hlast := h.last
    rw [List.getLast?_eq_some_getLast hne] at hlast
    simpa using hlast
  have hempty : label.isEmpty = false := by
    rw [List.isEmpty_eq_false_iff]
    exact h.ne_nil
  have hwritten : writeLabel [] false label = label :=
    writeLabel_eq h.chars hsingle (fun _ => hfirst) (by simp)
  simp only [sanitizeInviteLabel, hspace, hlower, hempty, hwritten, htrim,
    letterFirst_of_first h.first]
  simp [Nat.not_lt.2 h.length_le]

/-! ## The checks of names -/

theorem IsLabel.byteLength_le (h : IsLabel label) : byteLength label ≤ 48 := by
  rw [byteLength_of_isLabelChar h.chars]
  exact h.length_le

theorem isAlphanum_of_isLabelChar {c : Char} (h : isLabelChar c = true) (hne : c ≠ '-') :
    c.isAlphanum = true := by
  have hcases := cases_of_isLabelChar h
  have hhyphen : c.toNat ≠ 0x2d := fun heq => hne (Char.toNat_inj.1 heq)
  simp only [Char.isAlphanum, Char.isAlpha, Char.isUpper, Char.isLower, Char.isDigit,
    Bool.or_eq_true, Bool.and_eq_true, decide_eq_true_eq, ge_iff_le, UInt32.le_iff_toNat_le]
  change (_ ∨ 97 ≤ c.toNat ∧ c.toNat ≤ 122) ∨ 48 ≤ c.toNat ∧ c.toNat ≤ 57
  omega

theorem IsLabel.head_alphanum (h : IsLabel label) :
    ∃ c rest, label = c :: rest ∧ c.isAlphanum = true ∧ c ≠ '-' ∧ c ≠ '_' := by
  obtain ⟨c, rest, rfl⟩ := List.exists_cons_of_ne_nil h.ne_nil
  have hletter : isLowerASCIILetter c = true := by simpa using h.first
  have hhyphen : c ≠ '-' := by
    rintro rfl
    exact absurd hletter (by decide)
  refine ⟨c, rest, rfl, isAlphanum_of_isLabelChar (h.chars c List.mem_cons_self) hhyphen, hhyphen, ?_⟩
  rintro rfl
  exact absurd hletter (by decide)

theorem IsLabel.isSafeName (h : IsLabel label) : isSafeName label = true := by
  have hlength := h.byteLength_le
  obtain ⟨c, rest, rfl, hc, -⟩ := h.head_alphanum
  have hall : ∀ d ∈ c :: rest, (d.isAlphanum || d == '.' || d == '_' || d == '-') = true := by
    intro d hd
    by_cases hne : d = '-'
    · simp [hne]
    · simp [isAlphanum_of_isLabelChar (h.chars d hd) hne]
  unfold WarpTweet.isSafeName
  rw [List.all_eq_true.2 hall]
  simpa [hc] using hlength.trans (by decide)

theorem IsLabel.accepted (h : IsLabel label) :
    (label.isEmpty || decide (64 < byteLength label)) = false ∧
    contains label ['.', '.'] = false ∧ containsAny label ['/', '\\', ':'] = false ∧
    (label.head?.any fun c => c == '-' || c == '_') = false ∧
    (label.find? fun c => !(c.isAlphanum || c == '-' || c == '_')) = none := by
  have hlength := h.byteLength_le
  have hmem : ∀ c ∈ label, c ∉ ['.', '/', '\\', ':'] := by
    intro c hc hbad
    have hchar := h.chars c hc
    simp only [List.mem_cons, List.not_mem_nil, or_false] at hbad
    rcases hbad with rfl | rfl | rfl | rfl <;> exact absurd hchar (by decide)
  refine ⟨?_, ?_, ?_, ?_, ?_⟩
  · simp [h.ne_nil]
    omega
  · rw [contains, List.any_eq_false]
    intro rest hrest hdots
    have hdot : '.' ∈ rest := by
      have hprefix := List.isPrefixOf_iff_prefix.1 hdots
      exact hprefix.subset (by simp)
    exact hmem '.' (((List.mem_tails _ _).1 hrest).subset hdot) (by simp)
  · rw [containsAny, List.any_eq_false]
    intro c hc hbad
    exact hmem c hc (List.mem_cons_of_mem _ (by simpa using hbad))
  · obtain ⟨c, rest, rfl, -, hhyphen, hunder⟩ := h.head_alphanum
    simp [hhyphen, hunder]
  · rw [List.find?_eq_none]
    intro c hc
    by_cases hne : c = '-'
    · simp [hne]
    · simp [isAlphanum_of_isLabelChar (h.chars c hc) hne]

end

/-- **Sanitized labels are valid everywhere.** Whatever the text, its label has at most 48 bytes,
starts with a lowercase letter, and consists of lowercase letters, digits and single hyphens
between them; sanitizing it again changes nothing, and the four checks of names accept it. -/
theorem sanitized_labels_valid (raw : Text) :
    let label := sanitizeInviteLabel raw
    byteLength label ≤ maxInviteLabelBytes ∧ label.head?.any isLowerASCIILetter = true ∧
    (∀ c ∈ label, isLowerASCIIAlphaNumeric c = true ∨ c = '-') ∧ label.getLast? ≠ some '-' ∧
    SingleHyphens label ∧ sanitizeInviteLabel label = label ∧ isSafeName label = true ∧
    (∀ field, validateTunnelID field label = .ok ()) ∧ validateRouteID label = .ok () ∧
    validateLifecycleTunnelID label = .ok () := by
  have h := isLabel_sanitizeInviteLabel raw
  have hsingle := singleHyphens_sanitizeInviteLabel raw
  obtain ⟨hsize, hdots, hpath, hhead, hfind⟩ := h.accepted
  refine ⟨h.byteLength_le, h.first, fun c hc => ?_, h.last, hsingle,
    sanitizeInviteLabel_of_isLabel h hsingle, h.isSafeName, h.validateTunnelID, ?_, ?_⟩
  · simpa [isLabelChar] using h.chars c hc
  · unfold validateRouteID
    rw [hsize, hdots, hpath, hhead, hfind]
    rfl
  · unfold validateLifecycleTunnelID
    rw [hsize, hdots, hhead, hfind]
    rfl

end WarpTweet
