import WarpTweet.Text.Bytes

/-!
# Base64

The standard alphabet with padding. A strict decoder wants the padding and zero bits under it,
and passes over line breaks wherever they stand.
-/

namespace Base64

open Wire

/-- The character for six bits. -/
def digit (n : Nat) : UInt8 :=
  UInt8.ofNat (if n < 26 then n + 65 else if n < 52 then n + 71 else if n < 62 then n - 4
    else if n = 62 then 43 else 47)

/-- The six bits of a character. -/
def value (c : UInt8) : Option Nat :=
  let n := c.toNat
  if 65 ≤ n ∧ n ≤ 90 then some (n - 65)
  else if 97 ≤ n ∧ n ≤ 122 then some (n - 71)
  else if 48 ≤ n ∧ n ≤ 57 then some (n + 4)
  else if n = 43 then some 62
  else if n = 47 then some 63
  else none

/-- The character `=`. -/
def pad : UInt8 := 61

/-- Three bytes are four characters; the last one or two bytes are padded. -/
def encode : Bytes → Bytes
  | [] => []
  | [a] => [digit (a.toNat / 4), digit (a.toNat % 4 * 16), pad, pad]
  | [a, b] => [digit (a.toNat / 4), digit (a.toNat % 4 * 16 + b.toNat / 16),
      digit (b.toNat % 16 * 4), pad]
  | a :: b :: c :: rest => digit (a.toNat / 4) :: digit (a.toNat % 4 * 16 + b.toNat / 16) ::
      digit (b.toNat % 16 * 4 + c.toNat / 64) :: digit (c.toNat % 64) :: encode rest

/-- Decode four characters at a time. -/
def decodeQuads : Bytes → Option Bytes
  | [] => some []
  | a :: b :: c :: d :: rest => do
      let x ← value a
      let y ← value b
      if c = pad then
        if d = pad ∧ rest = [] ∧ y % 16 = 0 then some [UInt8.ofNat (x * 4 + y / 16)] else none
      else
        let z ← value c
        if d = pad then
          if rest = [] ∧ z % 4 = 0 then
            some [UInt8.ofNat (x * 4 + y / 16), UInt8.ofNat (y % 16 * 16 + z / 4)]
          else none
        else
          let w ← value d
          let bytes ← decodeQuads rest
          some (UInt8.ofNat (x * 4 + y / 16) :: UInt8.ofNat (y % 16 * 16 + z / 4) ::
            UInt8.ofNat (z % 4 * 64 + w) :: bytes)
  | _ => none

/-- A strict decoder. -/
def decode (text : Bytes) : Option Bytes := decodeQuads (text.filter fun c => c ≠ 10 ∧ c ≠ 13)

theorem digit_spec : ∀ n : Fin 64,
    value (digit n) = some n.val ∧ digit n ≠ pad ∧ digit n ≠ 10 ∧ digit n ≠ 13 := by
  decide

variable {n : Nat}

theorem value_digit (h : n < 64) : value (digit n) = some n := (digit_spec ⟨n, h⟩).1

theorem digit_ne_pad (h : n < 64) : digit n ≠ pad := (digit_spec ⟨n, h⟩).2.1

theorem length_encode (bytes : Bytes) : (encode bytes).length = (bytes.length + 2) / 3 * 4 := by
  fun_induction encode bytes with
  | case1 => rfl
  | case2 | case3 => simp
  | case4 a b c rest ih =>
    simp only [List.length_cons, ih]
    omega

theorem ofNat_eq {a : UInt8} (h : n = a.toNat) : UInt8.ofNat n = a := by
  rw [h, UInt8.ofNat_toNat]

theorem decodeQuads_encode (bytes : Bytes) : decodeQuads (encode bytes) = some bytes := by
  fun_induction encode bytes with
  | case1 => rfl
  | case2 a =>
    have ha := a.toNat_lt
    have hlow : a.toNat % 4 * 16 % 16 = 0 := by omega
    simp only [decodeQuads, Option.bind_eq_bind, Option.bind_some,
      value_digit (show a.toNat / 4 < 64 by omega),
      value_digit (show a.toNat % 4 * 16 < 64 by omega), if_true, true_and, hlow]
    rw [ofNat_eq (a := a) (by omega)]
  | case3 a b =>
    have ha := a.toNat_lt
    have hb := b.toNat_lt
    have hthird : b.toNat % 16 * 4 < 64 := by omega
    have hlow : b.toNat % 16 * 4 % 4 = 0 := by omega
    simp only [decodeQuads, Option.bind_eq_bind, Option.bind_some,
      value_digit (show a.toNat / 4 < 64 by omega),
      value_digit (show a.toNat % 4 * 16 + b.toNat / 16 < 64 by omega), value_digit hthird,
      digit_ne_pad hthird, if_true, if_false, true_and, hlow]
    rw [ofNat_eq (a := a) (by omega), ofNat_eq (a := b) (by omega)]
  | case4 a b c rest ih =>
    have ha := a.toNat_lt
    have hb := b.toNat_lt
    have hc := c.toNat_lt
    have hthird : b.toNat % 16 * 4 + c.toNat / 64 < 64 := by omega
    have hfourth : c.toNat % 64 < 64 := by omega
    simp only [decodeQuads, Option.bind_eq_bind, Option.bind_some,
      value_digit (show a.toNat / 4 < 64 by omega),
      value_digit (show a.toNat % 4 * 16 + b.toNat / 16 < 64 by omega), value_digit hthird,
      value_digit hfourth, digit_ne_pad hthird, digit_ne_pad hfourth, if_false, ih]
    rw [ofNat_eq (a := a) (by omega), ofNat_eq (a := b) (by omega), ofNat_eq (a := c) (by omega)]

theorem mem_encode {bytes : Bytes} {c : UInt8} (h : c ∈ encode bytes) :
    c = pad ∨ ∃ n < 64, c = digit n := by
  fun_induction encode bytes with
  | case1 => cases h
  | case2 a =>
    have ha := a.toNat_lt
    simp only [List.mem_cons, List.not_mem_nil, or_false] at h
    grind
  | case3 a b =>
    have ha := a.toNat_lt
    have hb := b.toNat_lt
    simp only [List.mem_cons, List.not_mem_nil, or_false] at h
    grind
  | case4 a b d rest ih =>
    have ha := a.toNat_lt
    have hb := b.toNat_lt
    have hd := d.toNat_lt
    simp only [List.mem_cons] at h
    grind

/-- What was encoded is decoded. -/
theorem decode_encode (bytes : Bytes) : decode (encode bytes) = some bytes := by
  have hkeep : (encode bytes).filter (fun c => c ≠ 10 ∧ c ≠ 13) = encode bytes := by
    rw [List.filter_eq_self]
    intro c hc
    rcases mem_encode hc with rfl | ⟨n, hn, rfl⟩
    · decide
    · simpa using (digit_spec ⟨n, hn⟩).2.2
  rw [decode, hkeep, decodeQuads_encode]

end Base64
