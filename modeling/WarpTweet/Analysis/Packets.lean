import WarpTweet.Analysis.Sockets

/-!
# Packet streams

What is sealed is opened again: the frames of `packet.go` and `listen.go`, one after the other
and under consecutive sequence numbers, are read back as the payloads they were made of, whatever
the padding bytes are. Nothing is read from a frame with another tag.
-/

namespace WarpTweet

open Wire

/-- What is assumed of the primitives: ChaCha20 combines the data with a stream that depends on the
key, the nonce and the counter only, and a tag of Poly1305 has sixteen bytes. -/
structure Cipher.Lawful (cipher : Cipher) : Prop where
  xorStream : ∃ stream : Bytes → Bytes → Nat → Nat → UInt8, ∀ key nonce counter data,
    cipher.xorKeyStream key nonce counter data =
      data.mapIdx fun index byte => byte ^^^ stream key nonce counter index
  tagSize : ∀ message key, (cipher.poly1305Sum message key).length = poly1305TagSize

/-! ## The primitives -/

section

variable {cipher : Cipher} {key nonce data : Bytes} {counter : Nat}

theorem Cipher.Lawful.length_xorKeyStream (h : cipher.Lawful) :
    (cipher.xorKeyStream key nonce counter data).length = data.length := by
  obtain ⟨stream, hstream⟩ := h.xorStream
  rw [hstream, List.length_mapIdx]

theorem Cipher.Lawful.xorKeyStream_twice (h : cipher.Lawful) :
    cipher.xorKeyStream key nonce counter (cipher.xorKeyStream key nonce counter data) = data := by
  obtain ⟨stream, hstream⟩ := h.xorStream
  rw [hstream, hstream]
  apply List.ext_getElem
  · simp
  · intro index _ _
    rw [List.getElem_mapIdx, List.getElem_mapIdx, UInt8.xor_assoc, UInt8.xor_self, UInt8.xor_zero]

end

/-! ## Padding -/

section

variable {used n : Nat} {payload random : Bytes}

theorem length_paddingOf : (paddingOf random n).length = n := by
  simp [paddingOf]

theorem paddingLength_spec (used : Nat) : 4 ≤ paddingLength used ∧ paddingLength used < 12 ∧
    (used + paddingLength used) % 8 = 0 := by
  unfold paddingLength
  dsimp only
  split <;> omega

theorem toNat_paddingLength : (UInt8.ofNat (paddingLength used)).toNat = paddingLength used := by
  have hspec := paddingLength_spec used
  rw [UInt8.toNat_ofNat']
  omega

theorem length_padPayload (payload random : Bytes) : (padPayload payload random).length =
    1 + payload.length + paddingLength (1 + payload.length) := by
  simp only [padPayload, List.length_append, List.length_cons, length_paddingOf]
  omega

theorem unpadPayload_padPayload (h : payload ≠ []) :
    unpadPayload (padPayload payload random) = some payload := by
  have hspec := paddingLength_spec (1 + payload.length)
  have hpos := List.length_pos_iff.2 h
  have hlength : (payload ++ paddingOf random (paddingLength (1 + payload.length))).length =
      payload.length + paddingLength (1 + payload.length) := by
    rw [List.length_append, length_paddingOf]
  simp only [padPayload, List.cons_append, unpadPayload, toNat_paddingLength, hlength]
  rw [if_neg (by omega), Nat.add_sub_cancel, List.take_left]

end

/-! ## One packet -/

section

variable {cipher : Cipher} {direction : ChachaDirection} {seq : Nat} {payload random input rest : Bytes}

theorem Cipher.Lawful.length_poly1305Tag (h : cipher.Lawful) {key nonce encLen encBody : Bytes} :
    (poly1305Tag cipher key nonce encLen encBody).length = poly1305TagSize :=
  h.tagSize _ _

/-- **One sealed packet is opened again**, and what follows it is left. -/
theorem openPacket_sealPacket (hcipher : cipher.Lawful) (hpayload : payload ≠ [])
    (hfits : (padPayload payload random).length ≤ maxPacket) :
    ∃ frame, direction.sealPacket cipher seq payload random = some frame ∧
      ∀ rest, direction.openPacket cipher seq (frame ++ rest) = some (payload, rest) := by
  rw [ChachaDirection.sealPacket, if_neg (by simpa using hpayload)]
  refine ⟨_, rfl, fun rest => ?_⟩
  have hspec := paddingLength_spec (1 + payload.length)
  have hlength := length_padPayload payload random
  have hmax : maxPacket = 262144 := rfl
  have hword : (padPayload payload random).length < 2 ^ 32 := by omega
  -- the four parts are read one after the other
  rw [ChachaDirection.openPacket, List.append_assoc, List.append_assoc,
    readFull_append (hcipher.length_xorKeyStream.trans length_uint32)]
  simp only [Option.bind_eq_bind, Option.bind_some, hcipher.xorKeyStream_twice,
    bigEndian_uint32 hword]
  rw [if_neg (by omega), readFull_append hcipher.length_xorKeyStream]
  simp only [Option.bind_some]
  rw [readFull_append hcipher.length_poly1305Tag]
  simp only [Option.bind_some, ne_eq, not_true_eq_false, if_false, hcipher.xorKeyStream_twice,
    unpadPayload_padPayload hpayload]
  rfl

/-- **One cleartext packet is read again**, and what follows it is left. -/
theorem readClearPacket_clearFrame (hpayload : payload ≠ [])
    (hfits : 1 + payload.length + paddingLength (1 + payload.length + 4) ≤ maxPacket) :
    readClearPacket (clearFrame payload random ++ rest) = some (payload, rest) := by
  have hspec := paddingLength_spec (1 + payload.length + 4)
  have hpos := List.length_pos_iff.2 hpayload
  have hmax : maxPacket = 262144 := rfl
  have hword : 1 + payload.length + paddingLength (1 + payload.length + 4) < 2 ^ 32 := by omega
  have hframe : clearFrame payload random ++ rest =
      (uint32 (1 + payload.length + paddingLength (1 + payload.length + 4)) ++
        [UInt8.ofNat (paddingLength (1 + payload.length + 4))]) ++
      ((payload ++ paddingOf random (paddingLength (1 + payload.length + 4))) ++ rest) := by
    simp [clearFrame]
  have hbody : (payload ++ paddingOf random (paddingLength (1 + payload.length + 4))).length =
      1 + payload.length + paddingLength (1 + payload.length + 4) - 1 := by
    rw [List.length_append, length_paddingOf]
    omega
  rw [hframe, readClearPacket, readFull_append (by simp)]
  simp only [Option.bind_eq_bind, Option.bind_some]
  rw [List.take_left' length_uint32, List.drop_left' length_uint32, bigEndian_uint32 hword,
    if_neg (by omega), readFull_append hbody]
  simp only [Option.bind_some, List.headD_cons, toNat_paddingLength]
  rw [if_neg (by omega), hbody]
  have htake : 1 + payload.length + paddingLength (1 + payload.length + 4) - 1 -
      paddingLength (1 + payload.length + 4) = payload.length := by omega
  rw [htake, List.take_left]
  rfl

/-- **A packet is opened only if its tag is right.** -/
theorem tag_of_openPacket (h : direction.openPacket cipher seq input = some (payload, rest)) :
    ∃ encLen encBody, input = encLen ++ encBody ++
      poly1305Tag cipher direction.payloadKey (seqNonce seq) encLen encBody ++ rest := by
  simp only [ChachaDirection.openPacket, Option.bind_eq_bind, Option.bind_eq_some_iff] at h
  obtain ⟨⟨encLen, afterLen⟩, hlen, h⟩ := h
  split at h
  · cases h
  · simp only [Option.bind_eq_some_iff] at h
    obtain ⟨⟨encBody, afterBody⟩, hbody, ⟨tag, after⟩, htag, h⟩ := h
    split at h
    · cases h
    · rename_i hmatches
      obtain ⟨opened, -, hresult⟩ := Option.bind_eq_some_iff.1 h
      cases hresult
      have htag' : tag = poly1305Tag cipher direction.payloadKey (seqNonce seq) encLen encBody :=
        not_not.1 hmatches
      have hafter : afterBody = tag ++ after := (readFull_eq_some htag).2
      refine ⟨encLen, encBody, ?_⟩
      rw [(readFull_eq_some hlen).2, (readFull_eq_some hbody).2, hafter, htag',
        List.append_assoc, List.append_assoc]

end

/-! ## Streams -/

abbrev PaddedPayload := Bytes × Bytes

/-- **Packet streams are read back.** Sealed frames under consecutive numbers are opened as their
payloads, and so are cleartext frames; the rest of the input is left. What is opened from any input
has the tag of its frame. -/
theorem packet_streams_round_trip (cipher : Cipher) (hcipher : cipher.Lawful)
    (direction : ChachaDirection) (seq : ℕ) (packets : List PaddedPayload)
    (hpayloads : ∀ packet ∈ packets, packet.1 ≠ []) :
    ((∀ packet ∈ packets, (padPayload packet.1 packet.2).length ≤ maxPacket) →
      ∃ stream, writeMany (fun seq (packet : PaddedPayload) =>
          direction.sealPacket cipher seq packet.1 packet.2) seq packets = some stream ∧
        ∀ rest, readMany (direction.openPacket cipher) packets.length seq (stream ++ rest) =
          some (packets.map Prod.fst, rest)) ∧
    ((∀ packet ∈ packets,
        1 + packet.1.length + paddingLength (1 + packet.1.length + 4) ≤ maxPacket) →
      ∃ stream, writeMany (fun _ (packet : PaddedPayload) =>
          some (clearFrame packet.1 packet.2)) seq packets = some stream ∧
        ∀ rest, readMany (fun _ => readClearPacket) packets.length seq (stream ++ rest) =
          some (packets.map Prod.fst, rest)) ∧
    ∀ input payload rest, direction.openPacket cipher seq input = some (payload, rest) →
      ∃ encLen encBody, input = encLen ++ encBody ++
        poly1305Tag cipher direction.payloadKey (seqNonce seq) encLen encBody ++ rest := by
  refine ⟨?_, ?_, fun input payload rest => tag_of_openPacket⟩
  · intro hfits
    apply readMany_of_writeMany
    intro packet hmem number
    exact openPacket_sealPacket hcipher (hpayloads packet hmem) (hfits packet hmem)
  · intro hfits
    apply readMany_of_writeMany
    intro packet hmem number
    exact ⟨_, rfl, fun rest => readClearPacket_clearFrame (hpayloads packet hmem)
      (hfits packet hmem)⟩

theorem Sockets.lawful_cipher : Sockets.suite.cipher.Lawful where
  xorStream := by
    refine ⟨fun _ _ _ _ => 0, fun key nonce counter data => ?_⟩
    apply List.ext_getElem <;> simp [Sockets.suite]
  tagSize := by
    intro message key
    rfl

/-- Two payloads, of one byte and of eight, sealed from number 7 on. -/
theorem packet_streams_round_trip_of_two :
    Sockets.suite.cipher.Lawful ∧
    ∃ stream, writeMany (fun seq (packet : PaddedPayload) =>
        ChachaDirection.sealPacket Sockets.suite.cipher ⟨[1], [2]⟩ seq packet.1 packet.2) 7
        [([21], []), (List.replicate 8 94, [1, 2])] = some stream ∧
      ∀ rest, readMany (ChachaDirection.openPacket Sockets.suite.cipher ⟨[1], [2]⟩) 2 7
        (stream ++ rest) = some ([[21], List.replicate 8 94], rest) :=
  ⟨Sockets.lawful_cipher, (packet_streams_round_trip Sockets.suite.cipher Sockets.lawful_cipher
    ⟨[1], [2]⟩ 7 [([21], []), (List.replicate 8 94, [1, 2])] (by decide)).1 (by decide)⟩

end WarpTweet
