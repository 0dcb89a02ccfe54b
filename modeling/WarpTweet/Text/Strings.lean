import Mathlib

/-!
# Text as the standard library of Go treats it

Text is the list of its characters. The functions below are those of the packages
`strings` and `unicode` that the modelled code calls on names, tokens and key
lines, for text that is valid UTF-8.
-/

namespace Strings

/-- A string, as the list of its characters. -/
abbrev Text := List Char

def isSpace (c : Char) : Bool :=
  let n := c.toNat
  (n == 0x20) || (0x09 ≤ n && n ≤ 0x0d) || (n == 0x85) || (n == 0xa0) || (n == 0x1680) ||
    (0x2000 ≤ n && n ≤ 0x200a) || (n == 0x2028) || (n == 0x2029) || (n == 0x202f) ||
    (n == 0x205f) || (n == 0x3000)

/-- `unicode.ToLower`, exact on the characters whose lower case is ASCII. These are
the ASCII capitals, the capital I with a dot and the Kelvin sign. -/
def toLowerChar (c : Char) : Char :=
  if c.toNat == 0x130 then 'i'
  else if c.toNat == 0x212a then 'k'
  else if 0x41 ≤ c.toNat && c.toNat ≤ 0x5a then Char.ofNat (c.toNat + 32)
  else c

def toLower (s : Text) : Text := s.map toLowerChar

def trimSpace (s : Text) : Text := (s.dropWhile isSpace).rdropWhile isSpace

/-- The fields of `rest`, with the characters of the field being read in reverse. -/
def fieldsFrom (field : Text) : Text → List Text
  | [] => if field.isEmpty then [] else [field.reverse]
  | c :: rest =>
    if isSpace c then
      if field.isEmpty then fieldsFrom [] rest else field.reverse :: fieldsFrom [] rest
    else fieldsFrom (c :: field) rest

/-- `strings.Fields`: the maximal runs of characters that are not white space. -/
def fields (s : Text) : List Text := fieldsFrom [] s

def hasPrefix (s start : Text) : Bool := start.isPrefixOf s

def contains (s part : Text) : Bool := s.tails.any fun rest => hasPrefix rest part

def containsAny (s chars : Text) : Bool := s.any fun c => chars.contains c

/-- `len` of a string: its length in UTF-8 bytes. -/
def byteLength (s : Text) : Nat := (s.map Char.utf8Size).sum

def join (parts : List Text) (separator : Text) : Text := (parts.intersperse separator).flatten

variable {s space field : Text}

section

variable (h : ∀ c ∈ space, isSpace c = true)
include h

theorem fields_append_of_space : fields (space ++ s) = fields s := by
  induction space with
  | nil => rfl
  | cons c space ih =>
    simp only [List.mem_cons, forall_eq_or_imp] at h
    simp only [fields, List.cons_append, fieldsFrom, h.1, if_true, List.isEmpty_nil]
    exact ih h.2

private theorem fieldsFrom_of_space : fieldsFrom field space = fieldsFrom field [] := by
  cases space with
  | nil => rfl
  | cons c space =>
    simp only [List.mem_cons, forall_eq_or_imp] at h
    have hnil : fieldsFrom [] space = [] := by
      have := fields_append_of_space (s := []) h.2
      simpa [fields, fieldsFrom] using this
    simp only [fieldsFrom, h.1, if_true, hnil]

private theorem fieldsFrom_append_space : fieldsFrom field (s ++ space) = fieldsFrom field s := by
  induction s generalizing field with
  | nil => exact fieldsFrom_of_space h
  | cons c s ih =>
    simp only [List.cons_append, fieldsFrom, ih]

theorem fields_append_space : fields (s ++ space) = fields s :=
  fieldsFrom_append_space h

end

theorem fields_trimSpace (s : Text) : fields (trimSpace s) = fields s := by
  have htail : ∀ t : Text, fields (t.rdropWhile isSpace) = fields t := by
    intro t
    conv_rhs => rw [← List.rdropWhile_append_rtakeWhile (p := isSpace) (l := t)]
    refine (fields_append_space ?_).symm
    intro c hc
    exact List.mem_rtakeWhile_imp hc
  have hhead : fields (s.dropWhile isSpace) = fields s := by
    conv_rhs => rw [← List.takeWhile_append_dropWhile (p := isSpace) (l := s)]
    refine (fields_append_of_space ?_).symm
    intro c hc
    exact List.mem_takeWhile_imp hc
  exact (htail _).trans hhead

theorem trimSpace_trimSpace (s : Text) : trimSpace (trimSpace s) = trimSpace s := by
  have hstart : (trimSpace s).dropWhile isSpace = trimSpace s := by
    cases htrim : trimSpace s with
    | nil => rfl
    | cons c rest =>
      obtain ⟨after, happend⟩ : trimSpace s <+: s.dropWhile isSpace := List.rdropWhile_prefix _ _
      rw [htrim, List.cons_append] at happend
      have hspace : isSpace c = false := by
        have hhead := List.head?_dropWhile_not isSpace s
        rw [← happend] at hhead
        simpa using hhead
      simp [hspace]
  rw [trimSpace.eq_def (trimSpace s), hstart]
  exact List.rdropWhile_idempotent _ _

theorem trimSpace_of_not_space (h : ∀ c ∈ s, isSpace c = false) : trimSpace s = s := by
  have hstart : s.dropWhile isSpace = s := by
    cases s with
    | nil => rfl
    | cons c rest => simp [h c List.mem_cons_self]
  rw [trimSpace, hstart, List.rdropWhile_eq_self_iff]
  intro hne
  simp [h _ (List.getLast_mem hne)]

private theorem ne_nil_of_mem_fieldsFrom {f : Text} (h : f ∈ fieldsFrom field s) : f ≠ [] := by
  induction s generalizing field with
  | nil =>
    simp only [fieldsFrom] at h
    split_ifs at h with hempty
    · simp at h
    · simp_all
  | cons c s ih =>
    simp only [fieldsFrom] at h
    split_ifs at h with hspace hempty
    · exact ih h
    · rcases List.mem_cons.1 h with rfl | h
      · simp_all
      · exact ih h
    · exact ih h

theorem ne_nil_of_mem_fields {f : Text} (h : f ∈ fields s) : f ≠ [] :=
  ne_nil_of_mem_fieldsFrom h

end Strings
