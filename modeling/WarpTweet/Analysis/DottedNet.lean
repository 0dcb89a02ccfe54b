import WarpTweet.Analysis.Hosts

/-!
# Addresses in bytes

Addresses written byte by byte in decimal, with dots for IPv4 and with colons for IPv6. For
IPv4 this is the form of the standard library. For IPv6 it is not, but it has the properties
that `NetIP.Lawful` asks for, so that what rests on them can be evaluated on concrete hosts.
-/

namespace WarpTweet.DottedNet

open Strings

variable {width : Nat} {bytes : List Nat} {text : Text} {separator : Char}

/-! ## Bytes -/

/-- The lowest `width` bytes of a number, the highest first. -/
def bytesOf : Nat → Nat → List Nat
  | 0, _ => []
  | width + 1, n => bytesOf width (n / 256) ++ [n % 256]

def ofBytes (bytes : List Nat) : Nat := bytes.foldl (fun n byte => n * 256 + byte) 0

theorem ofBytes_concat (bytes : List Nat) (byte : Nat) :
    ofBytes (bytes ++ [byte]) = ofBytes bytes * 256 + byte := by
  unfold ofBytes
  rw [List.foldl_append, List.foldl_cons, List.foldl_nil]

theorem length_bytesOf (width n : Nat) : (bytesOf width n).length = width := by
  induction width generalizing n with
  | zero => rfl
  | succ width ih =>
    unfold bytesOf
    rw [List.length_append, ih, List.length_singleton]

theorem lt_of_mem_bytesOf {n byte : Nat} (h : byte ∈ bytesOf width n) : byte < 256 := by
  induction width generalizing n with
  | zero => cases h
  | succ width ih =>
    unfold bytesOf at h
    rcases List.mem_append.1 h with h | h
    · exact ih h
    · rw [List.mem_singleton.1 h]
      omega

theorem ofBytes_bytesOf {n : Nat} (h : n < 256 ^ width) : ofBytes (bytesOf width n) = n := by
  induction width generalizing n with
  | zero =>
    rw [Nat.pow_zero] at h
    unfold bytesOf ofBytes
    rw [List.foldl_nil]
    omega
  | succ width ih =>
    have hdiv : n / 256 < 256 ^ width := by
      rw [Nat.pow_succ] at h
      exact Nat.div_lt_of_lt_mul (by omega)
    unfold bytesOf
    rw [ofBytes_concat, ih hdiv]
    omega

/-- Bytes are determined by their number; the induction takes the lowest byte off. -/
theorem bytesOf_ofBytes (h : ∀ byte ∈ bytes, byte < 256) :
    bytesOf bytes.length (ofBytes bytes) = bytes ∧ ofBytes bytes < 256 ^ bytes.length := by
  induction bytes using List.reverseRecOn with
  | nil => exact ⟨rfl, by decide⟩
  | append_singleton bytes byte ih =>
    obtain ⟨hbytes, hlt⟩ := ih fun b hb => h b (List.mem_append_left _ hb)
    have hbyte : byte < 256 := h byte (by simp)
    have hdiv : (ofBytes bytes * 256 + byte) / 256 = ofBytes bytes := by omega
    have hmod : (ofBytes bytes * 256 + byte) % 256 = byte := by omega
    rw [List.length_append, List.length_singleton, ofBytes_concat]
    constructor
    · rw [bytesOf, hdiv, hmod, hbytes]
    · rw [Nat.pow_succ]
      omega

/-! ## Texts -/

def decimal (n : Nat) : Text := Nat.toDigits 10 n

/-- The byte with a given text: the value of its digits, if that is how the byte is written. -/
def parseByte (text : Text) : Option Nat :=
  let n := text.foldl (fun n c => n * 10 + (c.toNat - 48)) 0
  if n < 256 ∧ decimal n = text then some n else none

theorem of_parseByte {byte : Nat} (h : parseByte text = some byte) :
    byte < 256 ∧ decimal byte = text := by
  unfold parseByte at h
  dsimp only at h
  split at h
  next hbyte =>
    cases h
    exact hbyte
  next => cases h

/-- Bytes with a separator between them. -/
def formatBytes (separator : Char) (bytes : List Nat) : Text :=
  [separator].intercalate (bytes.map decimal)

/-- The bytes of a text, if there are `width` of them. -/
def parseBytes (separator : Char) (width : Nat) (text : Text) : Option (List Nat) :=
  match (text.splitOn separator).mapM parseByte with
  | some bytes => if bytes.length = width then some bytes else none
  | none => none

theorem decimal_byte : ∀ n < 256, parseByte (decimal n) = some n ∧
    ':' ∉ decimal n ∧ '.' ∉ decimal n := by
  decide +kernel

theorem mapM_parseByte (h : ∀ byte ∈ bytes, byte < 256) :
    (bytes.map decimal).mapM parseByte = some bytes := by
  induction bytes with
  | nil => rfl
  | cons byte bytes ih =>
    have hbyte := (decimal_byte byte (h byte List.mem_cons_self)).1
    have hrest := ih fun b hb => h b (List.mem_cons_of_mem _ hb)
    rw [List.map_cons, List.mapM_cons, hbyte, hrest]
    rfl

theorem of_mapM_parseByte {parts : List Text} (h : parts.mapM parseByte = some bytes) :
    bytes.map decimal = parts ∧ ∀ byte ∈ bytes, byte < 256 := by
  induction parts generalizing bytes with
  | nil =>
    cases h
    exact ⟨rfl, by simp⟩
  | cons part parts ih =>
    rw [List.mapM_cons, Option.bind_eq_bind, Option.bind_eq_some_iff] at h
    obtain ⟨byte, hbyte, h⟩ := h
    rw [Option.bind_eq_bind, Option.bind_eq_some_iff] at h
    obtain ⟨rest, hrest, h⟩ := h
    cases h
    obtain ⟨hparts, hlt⟩ := ih hrest
    obtain ⟨hrange, hfound⟩ := of_parseByte hbyte
    rw [List.map_cons, hparts, hfound]
    exact ⟨rfl, List.forall_mem_cons.2 ⟨hrange, hlt⟩⟩

theorem parseBytes_formatBytes (hne : bytes ≠ [])
    (h : ∀ byte ∈ bytes, byte < 256) (hsep : separator = ':' ∨ separator = '.') :
    parseBytes separator bytes.length (formatBytes separator bytes) = some bytes := by
  have hnot : ∀ part ∈ bytes.map decimal, separator ∉ part := by
    intro part hpart
    obtain ⟨byte, hbyte, rfl⟩ := List.mem_map.1 hpart
    obtain ⟨-, hcolon, hdot⟩ := decimal_byte byte (h byte hbyte)
    rcases hsep with rfl | rfl
    · exact hcolon
    · exact hdot
  unfold parseBytes formatBytes
  rw [List.splitOn_intercalate separator hnot (by simpa using hne), mapM_parseByte h]
  simp

theorem of_parseBytes (h : parseBytes separator width text = some bytes) :
    formatBytes separator bytes = text ∧ bytes.length = width ∧ ∀ byte ∈ bytes, byte < 256 := by
  unfold parseBytes at h
  split at h
  next found hfound =>
    split at h
    next hlength =>
      cases h
      obtain ⟨hparts, hlt⟩ := of_mapM_parseByte hfound
      refine ⟨?_, hlength, hlt⟩
      rw [formatBytes, hparts, List.intercalate_splitOn]
    next => cases h
  next => cases h

theorem parseBytes_of_notMem
    (h : separator ∉ text) (hwidth : width ≠ 1) : parseBytes separator width text = none := by
  cases hparse : parseBytes separator width text with
  | none => rfl
  | some bytes =>
    obtain ⟨hformat, hlength, -⟩ := of_parseBytes hparse
    unfold parseBytes at hparse
    rw [List.splitOn_eq_singleton h] at hparse
    split at hparse
    next found hfound =>
      have hone : found.length = 1 := by
        have hmap := (of_mapM_parseByte hfound).1
        have hlen := congrArg List.length hmap
        simpa using hlen
      rw [if_neg (by omega)] at hparse
      cases hparse
    next => cases hparse

/-! ## Addresses -/

/-- Reading and writing of addresses in bytes. -/
def net : NetIP where
  parseAddr text :=
    match parseBytes '.' 4 text with
    | some bytes => some (.v4 (BitVec.ofNat 32 (ofBytes bytes)))
    | none => (parseBytes ':' 16 text).map fun bytes => .v6 (BitVec.ofNat 128 (ofBytes bytes)) []
  format
    | .v4 bits => formatBytes '.' (bytesOf 4 bits.toNat)
    | .v6 bits _ => formatBytes ':' (bytesOf 16 bits.toNat)

theorem dot_notMem_formatBytes (h : ∀ byte ∈ bytes, byte < 256) : '.' ∉ formatBytes ':' bytes := by
  unfold formatBytes
  induction bytes with
  | nil => simp
  | cons byte bytes ih =>
    have hbyte := (decimal_byte byte (h byte List.mem_cons_self)).2.2
    have hrest := ih fun b hb => h b (List.mem_cons_of_mem _ hb)
    cases bytes with
    | nil => simpa using hbyte
    | cons next bytes =>
      rw [List.map_cons, List.intercalate_cons_of_ne_nil (by simp)]
      simp only [List.mem_append, List.mem_singleton, not_or]
      exact ⟨⟨hbyte, by decide⟩, hrest⟩

theorem lawful : net.Lawful where
  parse_format addr hzone := by
    cases addr with
    | v4 bits =>
      have hlt : ∀ byte ∈ bytesOf 4 bits.toNat, byte < 256 := fun _ h => lt_of_mem_bytesOf h
      have hparse := parseBytes_formatBytes (by simp [bytesOf]) hlt (.inr rfl)
      rw [length_bytesOf] at hparse
      simp only [net, hparse]
      rw [ofBytes_bytesOf bits.isLt, BitVec.ofNat_toNat, BitVec.setWidth_eq]
    | v6 bits zone =>
      cases hzone
      have hlt : ∀ byte ∈ bytesOf 16 bits.toNat, byte < 256 := fun _ h => lt_of_mem_bytesOf h
      have hparse := parseBytes_formatBytes (by simp [bytesOf]) hlt (.inl rfl)
      rw [length_bytesOf] at hparse
      have hdots : parseBytes '.' 4 (formatBytes ':' (bytesOf 16 bits.toNat)) = none :=
        parseBytes_of_notMem (dot_notMem_formatBytes hlt) (by decide)
      simp only [net, hdots, hparse, Option.map_some]
      rw [ofBytes_bytesOf bits.isLt, BitVec.ofNat_toNat, BitVec.setWidth_eq]
  format_parse text bits h := by
    simp only [net] at h ⊢
    split at h
    next bytes hbytes =>
      obtain ⟨hformat, hlength, hlt⟩ := of_parseBytes hbytes
      obtain ⟨hback, hsize⟩ := bytesOf_ofBytes hlt
      rw [hlength] at hback hsize
      have hword : ofBytes bytes < 2 ^ 32 := lt_of_lt_of_eq hsize (by decide)
      cases h
      rw [BitVec.toNat_ofNat, Nat.mod_eq_of_lt hword, hback, hformat]
    next =>
      obtain ⟨bytes, -, hbytes⟩ := Option.map_eq_some_iff.1 h
      cases hbytes
  colon text bits zone h := by
    simp only [net] at h
    split at h
    next => cases h
    next =>
      by_contra hcolon
      rw [parseBytes_of_notMem hcolon (by decide)] at h
      cases h
  nonempty := by decide +kernel

end WarpTweet.DottedNet
