import WarpTweet.Model.KeyFiles

/-!
# Key text and key files

The text of a public key and the key determine each other. A private key that was written is
read back, as long as its private section has a length of 32 bits, and a file that is read is
made of the fields that were written.
-/

set_option autoImplicit false

namespace WarpTweet

open Wire

theorem consumeField_eq_ok {input value rest : Bytes} :
    consumeField input = .ok (value, rest) ↔ value.length < 2 ^ 32 ∧ input = withLength value ++ rest := by
  constructor
  · intro h
    unfold consumeField at h
    split at h
    next result hread =>
      cases h
      exact consumeString_eq_some hread
    next => cases h
  · rintro ⟨hlength, rfl⟩
    rw [consumeField, consumeString_withLength hlength]

/-! ## Public keys -/

/-- **Public-key text has one form per key.** The accepted strings are the encodings of the raw
keys of the given length, if it is positive and the two lengths can be written in 32 bits;
different keys have different encodings. -/
theorem public_key_text_iff (algorithm : Bytes) (rawKeyBytes : Int) :
    (∀ encoded, validatePublicKeyBlob encoded algorithm rawKeyBytes = .ok () ↔
      0 < rawKeyBytes ∧ rawKeyBytes < 2 ^ 32 ∧ algorithm.length < 2 ^ 32 ∧
      ∃ rawKey : Bytes, rawKey.length = rawKeyBytes ∧
        encoded = Base64.encode (withLength algorithm ++ withLength rawKey)) ∧
    ∀ rawKey rawKey' : Bytes, rawKey.length = rawKeyBytes → rawKey'.length = rawKeyBytes →
      Base64.encode (withLength algorithm ++ withLength rawKey) =
        Base64.encode (withLength algorithm ++ withLength rawKey') → rawKey = rawKey' := by
  refine ⟨fun encoded => ⟨fun h => ?_, ?_⟩, fun rawKey rawKey' hlength hlength' heq => ?_⟩
  · simp only [validatePublicKeyBlob, except_bind_eq_ok, refuseIf_eq_ok] at h
    obtain ⟨-, hpos, -, -, h⟩ := h
    split at h
    next => cases h
    next blob hdecode =>
      simp only [except_bind_eq_ok, refuseIf_eq_ok, mapError_eq_ok, Prod.exists,
        consumeField_eq_ok, decide_eq_false_iff_not, not_not] at h hpos
      obtain ⟨-, hcanonical, name, remaining, ⟨hname, rfl⟩, -, rfl, rawKey, rest, ⟨hraw, rfl⟩, -,
        hsize, hrest⟩ := h
      obtain rfl := List.eq_nil_of_length_eq_zero hrest
      rw [List.append_nil] at hcanonical
      exact ⟨by omega, by omega, hname, rawKey, hsize, hcanonical.symm⟩
  · rintro ⟨hpos, hlt, halgorithm, rawKey, hsize, rfl⟩
    have hlength : (withLength algorithm ++ withLength rawKey).length =
        4 + algorithm.length + 4 + rawKeyBytes.toNat := by
      simp only [List.length_append, withLength, length_uint32]
      omega
    simp only [validatePublicKeyBlob, except_bind_eq_ok, refuseIf_eq_ok, Base64.decode_encode,
      Base64.length_encode, hlength, mapError_eq_ok, Prod.exists, consumeField_eq_ok,
      decide_eq_false_iff_not, not_not]
    refine ⟨(), by omega, (), trivial, (), trivial, algorithm, withLength rawKey, ⟨halgorithm, rfl⟩, (), rfl,
      rawKey, [], ⟨by omega, (List.append_nil _).symm⟩, (), hsize, rfl⟩
  · have hblob := congrArg Base64.decode heq
    rw [Base64.decode_encode, Base64.decode_encode, Option.some.injEq] at hblob
    have hvalue := List.append_cancel_left hblob
    exact List.append_inj_right hvalue (by simp)

/-- An empty raw key is not accepted. -/
theorem empty_raw_key_refused :
    validatePublicKeyBlob (Base64.encode (withLength (ascii "k") ++ withLength [])) (ascii "k") 0 ≠
      .ok () := by
  decide

/-! ## Padding -/

/-- The bytes that count from `i`. -/
def counting (i n : Nat) : Bytes := (List.range' i n).map UInt8.ofNat

theorem isPadding_iff {i : Nat} {rest : Bytes} :
    isPadding i rest = true ↔ rest = counting (i + 1) rest.length := by
  induction rest generalizing i with
  | nil => simp [isPadding, counting]
  | cons byte rest ih =>
    rw [isPadding, Bool.and_eq_true, decide_eq_true_eq, ih]
    simp [counting, List.range'_succ]

theorem padBlock_eq (fuel i : Nat) (priv : Bytes) :
    ∃ n, padBlock fuel i priv = priv ++ counting i n := by
  induction fuel generalizing i priv with
  | zero => exact ⟨0, by simp [padBlock, counting]⟩
  | succ fuel ih =>
    unfold padBlock
    split
    next =>
      obtain ⟨n, hn⟩ := ih (i + 1) (priv ++ [UInt8.ofNat i])
      exact ⟨n + 1, by simp [hn, counting, List.range'_succ]⟩
    next => exact ⟨0, by simp [counting]⟩

theorem length_padBlock {fuel i : Nat} {priv : Bytes} (h : (8 - priv.length % 8) % 8 ≤ fuel) :
    (padBlock fuel i priv).length = (priv.length + 7) / 8 * 8 := by
  induction fuel generalizing i priv with
  | zero =>
    rw [padBlock]
    omega
  | succ fuel ih =>
    unfold padBlock
    split
    next =>
      rw [ih (by rw [List.length_append, List.length_singleton]; omega), List.length_append,
        List.length_singleton]
      omega
    next => omega

/-! ## Private keys -/

section

variable {lib : KeyLibrary} {key : PrivateKey} {file outerPub priv : Bytes}

theorem newPrivateKey_eq_ok {sk : Bytes} : newPrivateKey sk = .ok key ↔ sk = key.secret := by
  obtain ⟨mldsaSeed, ed25519Seed, hmldsa, hed25519⟩ := key
  unfold newPrivateKey
  constructor
  · intro h
    split at h
    · cases h
      exact (List.take_append_drop 32 sk).symm
    · cases h
  · rintro rfl
    rw [dif_pos (by simp [PrivateKey.secret, hmldsa, hed25519])]
    simp [PrivateKey.secret, hmldsa]

/-- A private section that is read consists of the fields of a key and counting bytes. -/
theorem parsePrivateSection_eq_ok :
    parsePrivateSection lib outerPub priv = .ok key ↔ ∃ check pub comment n,
      priv = privateFields check pub key.secret comment ++ counting 1 n ∧ pub.length < 2 ^ 32 ∧
      comment.length < 2 ^ 32 ∧ lib.derive key = .ok pub ∧ outerPub = publicBlob pub := by
  have hsecret : key.secret.length < 2 ^ 32 := by
    simp [PrivateKey.secret, key.mldsaSeed_length, key.ed25519Seed_length]
  have halgorithm : compositeAlgorithm.length < 2 ^ 32 := by decide
  simp only [parsePrivateSection, except_bind_eq_ok, refuseIf_eq_ok, Prod.exists, consumeField_eq_ok,
    decide_eq_false_iff_not, not_not, newPrivateKey_eq_ok, Bool.not_eq_false', isPadding_iff]
  constructor
  · rintro ⟨-, hlong, -, hcheck, alg, rest₁, ⟨-, h₁⟩, -, rfl, pub, rest₂, ⟨hpub, rfl⟩, sk, rest₃,
      ⟨-, rfl⟩, comment, padding, ⟨hcomment, rfl⟩, -, hpadding, other, rfl, wantPub, hderive, -, rfl,
      -, rfl, hkey⟩
    cases hkey
    refine ⟨bigEndian (priv.take 4), wantPub, comment, padding.length, ?_, hpub, hcomment, hderive,
      rfl⟩
    rw [privateFields, uint32_bigEndian (List.length_take_of_le (by omega)), ← hpadding]
    calc priv = priv.take 4 ++ ((priv.drop 4).take 4 ++ priv.drop 8) := by
          rw [← List.drop_drop (i := 4) (j := 4), List.take_append_drop, List.take_append_drop]
      _ = _ := by
          rw [← hcheck, h₁]
          simp only [List.append_assoc]
  · rintro ⟨check, pub, comment, n, rfl, hpub, hcomment, hderive, rfl⟩
    have hdrop : (privateFields check pub key.secret comment ++ counting 1 n).drop 8 =
        withLength compositeAlgorithm ++ (withLength pub ++ (withLength key.secret ++
          (withLength comment ++ counting 1 n))) := by
      simp only [privateFields, List.append_assoc]
      rfl
    refine ⟨(), ?_, (), rfl, _, _, ⟨halgorithm, hdrop⟩, (), rfl, pub, _, ⟨hpub, rfl⟩, key.secret, _,
      ⟨hsecret, rfl⟩, comment, _, ⟨hcomment, rfl⟩, (), ?_, key, rfl, pub, hderive, (), rfl, (), rfl,
      rfl⟩
    · simp only [privateFields, List.length_append, length_uint32]
      omega
    · simp [counting]

/-- The body of a file, with an empty comment of the key derivation where it is written. -/
def fileBody (options outerPub priv : Bytes) : Bytes :=
  authMagic ++ (withLength (ascii "none") ++ (withLength (ascii "none") ++ (withLength options ++
    (uint32 1 ++ (withLength outerPub ++ withLength priv)))))

theorem parsePrivate_eq_ok : parsePrivate lib file = .ok key ↔ ∃ options outerPub priv blank,
      lib.decodePEM file = some (pemType, fileBody options outerPub priv, blank) ∧
      lib.isBlank blank = true ∧ options.length < 2 ^ 32 ∧ outerPub.length < 2 ^ 32 ∧
      priv.length < 2 ^ 32 ∧ parsePrivateSection lib outerPub priv = .ok key := by
  have hnone : (ascii "none").length < 2 ^ 32 := by decide
  unfold parsePrivate
  constructor
  · intro h
    split at h
    next => cases h
    next type body blank hpem =>
      simp only [except_bind_eq_ok, refuseIf_eq_ok, Prod.exists, consumeField_eq_ok,
        Bool.or_eq_false_iff, decide_eq_false_iff_not, not_not, Bool.not_eq_false',
        List.isPrefixOf_iff_prefix] at h
      obtain ⟨-, ⟨rfl, hblank⟩, -, ⟨tail, rfl⟩, cipher, rest₁, ⟨-, h₁⟩, kdf, rest₂, ⟨-, rfl⟩, -,
        ⟨rfl, rfl⟩, options, rest₃, ⟨hoptions, rfl⟩, h⟩ := h
      rw [List.drop_left] at h₁
      split at h
      next => cases h
      next nkeys rest₄ hcount =>
        simp only [except_bind_eq_ok, refuseIf_eq_ok, Prod.exists, consumeField_eq_ok,
          decide_eq_false_iff_not, not_not] at h
        obtain ⟨-, rfl, outerPub, rest₅, ⟨houter, rfl⟩, priv, rest₆, ⟨hpriv, rfl⟩, -, hrest, h⟩ := h
        obtain rfl := List.eq_nil_of_length_eq_zero hrest
        obtain ⟨-, rfl⟩ := consumeUint32_eq_some hcount
        refine ⟨options, outerPub, priv, blank, ?_, hblank, hoptions, houter, hpriv, h⟩
        rw [hpem, h₁, List.append_nil]
        rfl
  · rintro ⟨options, outerPub, priv, blank, hpem, hblank, hoptions, houter, hpriv, h⟩
    rw [hpem]
    simp only [except_bind_eq_ok, refuseIf_eq_ok, Prod.exists, consumeField_eq_ok,
      Bool.or_eq_false_iff, decide_eq_false_iff_not, not_not, Bool.not_eq_false',
      List.isPrefixOf_iff_prefix]
    refine ⟨(), ⟨trivial, hblank⟩, (), List.prefix_append _ _, _, _, ⟨hnone, List.drop_left⟩, _, _,
      ⟨hnone, rfl⟩, (), ⟨rfl, rfl⟩, options, _, ⟨hoptions, rfl⟩, ?_⟩
    rw [consumeUint32_append (by decide)]
    simp only [except_bind_eq_ok, refuseIf_eq_ok, Prod.exists, consumeField_eq_ok,
      decide_eq_false_iff_not, not_not]
    exact ⟨(), trivial, outerPub, _, ⟨houter, rfl⟩, priv, [], ⟨hpriv, (List.append_nil _).symm⟩, (), rfl,
      h⟩

/-- The bodies of two files are equal only if the private sections are equally long. -/
theorem length_of_fileBody {options options' outerPub' priv' : Bytes} (hoptions : options.length < 2 ^ 32)
    (hoptions' : options'.length < 2 ^ 32) (houter : outerPub.length < 2 ^ 32)
    (houter' : outerPub'.length < 2 ^ 32)
    (h : fileBody options outerPub priv = fileBody options' outerPub' priv') :
    priv.length = priv'.length := by
  have hrest := List.append_cancel_left (List.append_cancel_left (List.append_cancel_left h))
  have hkeys := List.append_cancel_left (withLength_append_inj hoptions hoptions' hrest).2
  have hpriv := congrArg List.length (withLength_append_inj houter houter' hkeys).2
  simp only [withLength, List.length_append, length_uint32] at hpriv
  omega

/-- What is written is read back exactly when the private section has a length of 32 bits. -/
theorem parsePrivate_marshalPrivate_iff {check : Nat} {comment : Bytes}
    (hfile : marshalPrivate lib check key comment = .ok file) :
    parsePrivate lib file = .ok key ↔ comment.length ≤ 2 ^ 32 - 1471 := by
  simp only [marshalPrivate, except_bind_eq_ok] at hfile
  obtain ⟨pub, hderive, hfile⟩ := hfile
  cases hfile
  have hpub := lib.length_derive key pub hderive
  have halgorithm : compositeAlgorithm.length = 31 := by decide
  have hlength : (padBlock 8 1 (privateFields check pub key.secret comment)).length =
      (1463 + comment.length + 7) / 8 * 8 := by
    rw [length_padBlock (by omega)]
    simp only [privateFields, withLength, PrivateKey.secret, List.length_append, length_uint32,
      hpub, key.mldsaSeed_length, key.ed25519Seed_length, halgorithm]
    omega
  have houter : (publicBlob pub).length < 2 ^ 32 := by
    simp [publicBlob, withLength, hpub, halgorithm]
  have hbody : authMagic ++ withLength (ascii "none") ++ withLength (ascii "none") ++
      withLength [] ++ uint32 1 ++ withLength (publicBlob pub) ++
      withLength (padBlock 8 1 (privateFields check pub key.secret comment)) =
      fileBody [] (publicBlob pub) (padBlock 8 1 (privateFields check pub key.secret comment)) := by
    simp only [fileBody, List.append_assoc]
  rw [hbody, parsePrivate_eq_ok, lib.decodePEM_encodePEM]
  constructor
  · rintro ⟨options, outerPub, priv, blank, hpem, -, hoptions, houter', hpriv, -⟩
    simp only [Option.some.injEq, Prod.mk.injEq, true_and] at hpem
    have hsame := length_of_fileBody (by decide) hoptions houter houter' hpem.1
    omega
  · intro hcomment
    obtain ⟨n, hpad⟩ := padBlock_eq 8 1 (privateFields check pub key.secret comment)
    refine ⟨_, _, _, [], rfl, lib.isBlank_nil, by decide, houter, by omega, ?_⟩
    exact parsePrivateSection_eq_ok.2 ⟨check, pub, comment, n, hpad, by omega, by omega, hderive, rfl⟩

end

/-- **Private keys survive storage.** A file that was written is read back as the same key exactly
when the comment leaves the private section a length of 32 bits. Every file that is accepted holds
the public key that its secret has, inside and outside, and nothing but counting bytes after the
last field. -/
theorem private_keys_survive (lib : KeyLibrary) :
    (∀ check key comment file, marshalPrivate lib check key comment = .ok file →
      (parsePrivate lib file = .ok key ↔ comment.length ≤ 2 ^ 32 - 1471)) ∧
    ∀ file key, parsePrivate lib file = .ok key →
      ∃ options check pub comment n blank, lib.derive key = .ok pub ∧ lib.isBlank blank = true ∧
        options.length < 2 ^ 32 ∧ comment.length < 2 ^ 32 ∧
        lib.decodePEM file = some (pemType, fileBody options (publicBlob pub)
          (privateFields check pub key.secret comment ++ counting 1 n), blank) := by
  refine ⟨fun check key comment file hfile => parsePrivate_marshalPrivate_iff hfile,
    fun file key h => ?_⟩
  obtain ⟨options, outerPub, priv, blank, hpem, hblank, hoptions, -, -, hsection⟩ :=
    parsePrivate_eq_ok.1 h
  obtain ⟨check, pub, comment, n, rfl, -, hcomment, hderive, rfl⟩ :=
    parsePrivateSection_eq_ok.1 hsection
  exact ⟨options, check, pub, comment, n, blank, hderive, hblank, hoptions, hcomment, hpem⟩

namespace KeyFilesScenario

/-- A framing that puts the type first, and one public key for all. -/
def lib : KeyLibrary where
  encodePEM type body := type ++ body
  decodePEM file :=
    if pemType.isPrefixOf file then some (pemType, file.drop pemType.length, []) else none
  decodePEM_encodePEM body := by simp
  isBlank := List.isEmpty
  isBlank_nil := rfl
  derive _ := .ok (List.replicate 1344 0)
  length_derive _ _ h := by cases h; exact List.length_replicate

def key : PrivateKey := ⟨List.replicate 32 1, List.replicate 32 2, by decide, by decide⟩

end KeyFilesScenario

open KeyFilesScenario in
/-- A key with a comment survives. -/
theorem private_keys_survive_plain :
    ∃ file, marshalPrivate lib 7 key (ascii "laptop") = .ok file ∧ parsePrivate lib file = .ok key :=
  ⟨_, rfl, ((private_keys_survive lib).1 7 key (ascii "laptop") _ rfl).2 (by decide)⟩

open KeyFilesScenario in
/-- A key with a comment of 4 GiB does not. -/
theorem private_key_lost_with_long_comment :
    ∃ file, marshalPrivate lib 7 key (List.replicate (2 ^ 32) 0) = .ok file ∧
      parsePrivate lib file ≠ .ok key := by
  refine ⟨_, rfl, fun h => ?_⟩
  have hfile : marshalPrivate lib 7 key (List.replicate (2 ^ 32) 0) = .ok _ := rfl
  have hle := (parsePrivate_marshalPrivate_iff hfile).1 h
  rw [List.length_replicate] at hle
  omega

end WarpTweet
