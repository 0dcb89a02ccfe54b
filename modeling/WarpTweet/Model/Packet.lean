import WarpTweet.Text.Bytes

/-!
# SSH packets

The binary packet protocol of the data plane (`packet.go`, `listen.go`): padding, cleartext
packets and packets of `chacha20-poly1305@openssh.com`. The key stream and the Poly1305 tag
are parameters, and so are the random bytes of the padding.
-/

namespace WarpTweet

open Wire

def maxPacket : Nat := 256 * 1024

def poly1305TagSize : Nat := 16

/-- The primitives of the cipher: the key stream of ChaCha20 for a key, a nonce and a block
counter, combined with the data, and the Poly1305 tag of a message under a one-time key. -/
structure Cipher where
  xorKeyStream : Bytes → Bytes → Nat → Bytes → Bytes
  poly1305Sum : Bytes → Bytes → Bytes

/-- `chachaDirection`: the two halves of a derived key. -/
structure ChachaDirection where
  payloadKey : Bytes
  lengthKey : Bytes
  deriving DecidableEq, Repr

def newChaChaDirection (key : Bytes) : Option ChachaDirection :=
  if key.length < 64 then none else some ⟨key.take 32, (key.drop 32).take 32⟩

def seqNonce (seq : Nat) : Bytes := List.replicate 4 0 ++ uint64 seq

/-- `n` random bytes out of what the environment supplies. -/
def paddingOf (random : Bytes) (n : Nat) : Bytes := (random ++ List.replicate n 0).take n

/-- The number of padding bytes after `used` bytes, for blocks of eight. -/
def paddingLength (used : Nat) : Nat :=
  let padding := 8 - used % 8
  if padding < 4 then padding + 8 else padding

def padPayload (payload random : Bytes) : Bytes :=
  let padding := paddingLength (1 + payload.length)
  UInt8.ofNat padding :: payload ++ paddingOf random padding

def unpadPayload : Bytes → Option Bytes
  | [] => none
  | padding :: rest =>
    if rest.length + 1 < 5 ∨ padding.toNat < 4 ∨ rest.length ≤ padding.toNat then none
    else some (rest.take (rest.length - padding.toNat))

def poly1305Tag (cipher : Cipher) (payloadKey nonce encLen encBody : Bytes) : Bytes :=
  cipher.poly1305Sum (encLen ++ encBody)
    (cipher.xorKeyStream payloadKey nonce 0 (List.replicate 32 0))

/-- `seal`. -/
def ChachaDirection.sealPacket (cipher : Cipher) (direction : ChachaDirection) (seq : Nat)
    (payload random : Bytes) : Option Bytes :=
  if payload.isEmpty then none
  else
    let body := padPayload payload random
    let nonce := seqNonce seq
    let encLen := cipher.xorKeyStream direction.lengthKey nonce 0 (uint32 body.length)
    let encBody := cipher.xorKeyStream direction.payloadKey nonce 1 body
    some (encLen ++ encBody ++ poly1305Tag cipher direction.payloadKey nonce encLen encBody)

/-- `open`: the payload of the next packet, and the rest of the input. -/
def ChachaDirection.openPacket (cipher : Cipher) (direction : ChachaDirection) (seq : Nat)
    (input : Bytes) : Option (Bytes × Bytes) := do
  let (encLen, input) ← readFull 4 input
  let nonce := seqNonce seq
  let n := bigEndian (cipher.xorKeyStream direction.lengthKey nonce 0 encLen)
  if n < 5 ∨ maxPacket < n then none
  else do
    let (encBody, input) ← readFull n input
    let (tag, input) ← readFull poly1305TagSize input
    if tag ≠ poly1305Tag cipher direction.payloadKey nonce encLen encBody then none
    else do
      let payload ← unpadPayload (cipher.xorKeyStream direction.payloadKey nonce 1 encBody)
      pure (payload, input)

/-- `writePacket`: the frame of a cleartext packet. -/
def clearFrame (payload random : Bytes) : Bytes :=
  let padding := paddingLength (1 + payload.length + 4)
  uint32 (1 + payload.length + padding) ++
    UInt8.ofNat padding :: payload ++ paddingOf random padding

/-- `readClearPacket`: the payload of the next cleartext packet, and the rest of the input.
The payload is empty when the padding takes up the whole packet. -/
def readClearPacket (input : Bytes) : Option (Bytes × Bytes) := do
  let (header, input) ← readFull 5 input
  let n := bigEndian (header.take 4)
  if n < 12 ∨ maxPacket < n then none
  else do
    let (rest, input) ← readFull (n - 1) input
    let padding := ((header.drop 4).headD 0).toNat
    if padding < 4 ∨ rest.length < padding then none
    else pure (rest.take (rest.length - padding), input)

end WarpTweet
