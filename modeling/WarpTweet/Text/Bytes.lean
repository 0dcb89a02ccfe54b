import WarpTweet.Text.Strings

/-!
# Byte strings

Byte strings as lists of bytes, big-endian words of four bytes, and strings with their
length in front, as wire formats use them. Readers return the value and the rest of the
input, or nothing when the input is too short.
-/

namespace Wire

/-- A byte string. -/
abbrev Bytes := List UInt8

/-- The bytes of ASCII text. -/
def ascii (text : String) : Bytes := text.toList.map fun c => UInt8.ofNat c.toNat

/-- The number that the bytes spell, the most significant one first. -/
def bigEndian (bytes : Bytes) : Nat := bytes.foldl (fun n byte => n * 256 + byte.toNat) 0

/-- The last four bytes of a number, the most significant one first. -/
def uint32 (n : Nat) : Bytes :=
  [UInt8.ofNat (n / 2 ^ 24), UInt8.ofNat (n / 2 ^ 16), UInt8.ofNat (n / 2 ^ 8), UInt8.ofNat n]

/-- The last eight bytes of a number, the most significant one first. -/
def uint64 (n : Nat) : Bytes := uint32 (n / 2 ^ 32) ++ uint32 n

/-- The first `n` bytes and the rest, if there are that many. -/
def readFull (n : Nat) (input : Bytes) : Option (Bytes × Bytes) :=
  if n ≤ input.length then some (input.take n, input.drop n) else none

/-- Read a word of four bytes. -/
def consumeUint32 (input : Bytes) : Option (Nat × Bytes) :=
  (readFull 4 input).map fun result => (bigEndian result.1, result.2)

/-- Read one byte as a truth value. -/
def consumeBool : Bytes → Option (Bool × Bytes)
  | [] => none
  | byte :: rest => some (byte != 0, rest)

/-- A string with its length in front. -/
def withLength (value : Bytes) : Bytes := uint32 value.length ++ value

/-- Read a string with its length in front. -/
def consumeString (input : Bytes) : Option (Bytes × Bytes) :=
  match consumeUint32 input with
  | some (n, rest) => readFull n rest
  | none => none

/-- The names of a list that is separated by commas. -/
def names (list : Bytes) : List Bytes := list.splitOn (UInt8.ofNat 44)

/-! ## Reading back what was written -/

section

variable {n : Nat} {input start value rest : Bytes}

@[simp]
theorem length_uint32 : (uint32 n).length = 4 := rfl

theorem bigEndian_uint32 (h : n < 2 ^ 32) : bigEndian (uint32 n) = n := by
  simp only [bigEndian, uint32, List.foldl_cons, List.foldl_nil, UInt8.toNat_ofNat']
  omega

theorem readFull_append (h : start.length = n) : readFull n (start ++ rest) = some (start, rest) := by
  subst h
  simp [readFull]

theorem readFull_eq_some (h : readFull n input = some (start, rest)) :
    start.length = n ∧ input = start ++ rest := by
  unfold readFull at h
  split at h
  · rename_i hle
    cases h
    exact ⟨List.length_take_of_le hle, (List.take_append_drop n input).symm⟩
  · cases h

theorem consumeUint32_append (h : n < 2 ^ 32) : consumeUint32 (uint32 n ++ rest) = some (n, rest) := by
  rw [consumeUint32, readFull_append length_uint32, Option.map_some, bigEndian_uint32 h]

theorem lt_of_consumeUint32 (h : consumeUint32 input = some (n, rest)) : n < 2 ^ 32 := by
  rw [consumeUint32, Option.map_eq_some_iff] at h
  obtain ⟨⟨bytes, rest'⟩, hread, h⟩ := h
  obtain ⟨hlength, -⟩ := readFull_eq_some hread
  cases h
  match bytes, hlength with
  | [a, b, c, d], _ =>
    have ha := a.toNat_lt
    have hb := b.toNat_lt
    have hc := c.toNat_lt
    have hd := d.toNat_lt
    simp only [bigEndian, List.foldl_cons, List.foldl_nil]
    omega

theorem consumeString_withLength (h : value.length < 2 ^ 32) :
    consumeString (withLength value ++ rest) = some (value, rest) := by
  unfold consumeString
  rw [withLength, List.append_assoc, consumeUint32_append h]
  exact readFull_append rfl

theorem uint32_bigEndian (h : input.length = 4) : uint32 (bigEndian input) = input := by
  match input, h with
  | [a, b, c, d], _ =>
    have ha := a.toNat_lt
    have hb := b.toNat_lt
    have hc := c.toNat_lt
    have hd := d.toNat_lt
    simp only [bigEndian, uint32, List.foldl_cons, List.foldl_nil, List.cons.injEq, and_true,
      ← UInt8.toNat_inj, UInt8.toNat_ofNat']
    omega

theorem consumeUint32_eq_some (h : consumeUint32 input = some (n, rest)) :
    n < 2 ^ 32 ∧ input = uint32 n ++ rest := by
  refine ⟨lt_of_consumeUint32 h, ?_⟩
  rw [consumeUint32, Option.map_eq_some_iff] at h
  obtain ⟨⟨bytes, rest'⟩, hread, h⟩ := h
  obtain ⟨hlength, rfl⟩ := readFull_eq_some hread
  cases h
  rw [uint32_bigEndian hlength]

/-- What is read as a string is written as one. -/
theorem consumeString_eq_some (h : consumeString input = some (value, rest)) :
    value.length < 2 ^ 32 ∧ input = withLength value ++ rest := by
  unfold consumeString at h
  split at h
  next n rest' hlength =>
    obtain ⟨hlt, rfl⟩ := consumeUint32_eq_some hlength
    obtain ⟨rfl, rfl⟩ := readFull_eq_some h
    exact ⟨hlt, (List.append_assoc _ _ _).symm⟩
  next => cases h

theorem withLength_append_inj {value' rest' : Bytes} (h : value.length < 2 ^ 32)
    (h' : value'.length < 2 ^ 32) (heq : withLength value ++ rest = withLength value' ++ rest') :
    value = value' ∧ rest = rest' := by
  have hread : consumeString (withLength value ++ rest) = some (value, rest) :=
    consumeString_withLength h
  rw [heq, consumeString_withLength h'] at hread
  cases hread
  exact ⟨rfl, rfl⟩

end

/-! ## Streams of numbered frames -/

variable {α ι : Type}

/-- Write the items one after the other, the first one under the number `seq`. -/
def writeMany (write : ℕ → ι → Option Bytes) : ℕ → List ι → Option Bytes
  | _, [] => some []
  | seq, item :: items => do
      let frame ← write seq item
      let frames ← writeMany write (seq + 1) items
      pure (frame ++ frames)

/-- Read `n` values one after the other, the first one under the number `seq`. -/
def readMany (read : ℕ → Bytes → Option (α × Bytes)) : ℕ → ℕ → Bytes → Option (List α × Bytes)
  | 0, _, input => some ([], input)
  | n + 1, seq, input => do
      let (value, input) ← read seq input
      let (values, input) ← readMany read n (seq + 1) input
      pure (value :: values, input)

/-- If each frame is read back whatever follows it, then so is the stream of the frames. -/
theorem readMany_of_writeMany {write : ℕ → ι → Option Bytes}
    {read : ℕ → Bytes → Option (α × Bytes)} {value : ι → α} {items : List ι}
    (h : ∀ item ∈ items, ∀ seq, ∃ frame, write seq item = some frame ∧
      ∀ rest, read seq (frame ++ rest) = some (value item, rest)) (seq : ℕ) :
    ∃ stream, writeMany write seq items = some stream ∧
      ∀ rest, readMany read items.length seq (stream ++ rest) = some (items.map value, rest) := by
  induction items generalizing seq with
  | nil => exact ⟨[], rfl, fun rest => rfl⟩
  | cons item items ih =>
    obtain ⟨frame, hframe, hread⟩ := h item List.mem_cons_self seq
    obtain ⟨frames, hframes, hreads⟩ :=
      ih (fun other hmem => h other (List.mem_cons_of_mem _ hmem)) (seq + 1)
    refine ⟨frame ++ frames, ?_, fun rest => ?_⟩
    · simp only [writeMany, hframe, hframes]
      rfl
    · rw [List.append_assoc, List.length_cons, readMany]
      simp only [hread, hreads, Option.bind_eq_bind, Option.bind_some, List.map_cons]
      rfl

end Wire
