import WarpTweet.Model.Connection
import WarpTweet.Text.Base64

/-!
# Public-key blobs and private-key files

`ValidatePublicKeyBlob` of the package `sshwire`, and `MarshalPrivate` and `ParsePrivate` of the
package `opensshkey`. Go strings are byte strings here. The framing of PEM and the derivation of
the public key are given functions.
-/

set_option autoImplicit false

namespace WarpTweet

open Wire

/-- `ConsumeString`, with its errors. -/
def consumeField (input : Bytes) : Except Err (Bytes × Bytes) :=
  match consumeString input with
  | some result => .ok result
  | none => .error (.plain (if input.length < 4 then "truncated SSH string length"
      else "truncated SSH string value"))

/-- `%q`, for plain text. -/
def quoted (text : Bytes) : String :=
  "\"" ++ String.ofList (text.map fun byte => Char.ofNat byte.toNat) ++ "\""

def validatePublicKeyBlob (encoded algorithm : Bytes) (rawKeyBytes : Int) : Except Err Unit := do
  refuseIf (decide (rawKeyBytes ≤ 0)) (.plain "expected raw public-key size must be positive")
  let expected := (4 + algorithm.length + 4 + rawKeyBytes.toNat + 2) / 3 * 4
  refuseIf (encoded.length ≠ expected) (.plain ("public-key encoding is " ++
    toString encoded.length ++ " bytes, want " ++ toString expected))
  match Base64.decode encoded with
  | none => throw (.plain "public key is not valid base64")
  | some blob => do
    refuseIf (Base64.encode blob ≠ encoded) (.plain "public key is not canonical base64")
    let (name, remaining) ← (consumeField blob).mapError (.wrap "read public-key algorithm")
    refuseIf (name ≠ algorithm)
      (.plain ("public-key blob type " ++ quoted name ++ " does not match " ++ quoted algorithm))
    let (rawKey, remaining) ← (consumeField remaining).mapError (.wrap "read raw public key")
    refuseIf (rawKey.length ≠ rawKeyBytes) (.plain ("raw public key is " ++
      toString rawKey.length ++ " bytes, want " ++ toString rawKeyBytes))
    refuseIf (remaining.length ≠ 0) (.plain ("public-key blob contains " ++
      toString remaining.length ++ " trailing bytes"))

/-! ## Private keys -/

/-- `composite.PrivateKey`: two seeds of 32 bytes. -/
structure PrivateKey where
  mldsaSeed : Bytes
  ed25519Seed : Bytes
  mldsaSeed_length : mldsaSeed.length = 32
  ed25519Seed_length : ed25519Seed.length = 32

def PrivateKey.secret (key : PrivateKey) : Bytes := key.mldsaSeed ++ key.ed25519Seed

def newPrivateKey (sk : Bytes) : Except Err PrivateKey :=
  if h : sk.length = 64 then
    .ok ⟨sk.take 32, sk.drop 32, by simp [h], by simp [h]⟩
  else .error (.plain ("composite secret key is " ++ toString sk.length ++ " bytes, want 64"))

def pemType : Bytes := ascii "OPENSSH PRIVATE KEY"

/-- What is given: the framing of PEM, whether `bytes.TrimSpace` leaves nothing, and the public key
of a private key, which has `PublicKeySize` bytes. -/
structure KeyLibrary where
  encodePEM : (type body : Bytes) → Bytes
  decodePEM : Bytes → Option (Bytes × Bytes × Bytes)
  decodePEM_encodePEM : ∀ body, decodePEM (encodePEM pemType body) = some (pemType, body, [])
  isBlank : Bytes → Bool
  isBlank_nil : isBlank [] = true
  derive : PrivateKey → Except Err Bytes
  length_derive : ∀ key pub, derive key = .ok pub → pub.length = 1344

def authMagic : Bytes := ascii "openssh-key-v1" ++ [0]

/-- The loop that pads to eight bytes; it stops after seven turns at the latest. -/
def padBlock : Nat → Nat → Bytes → Bytes
  | 0, _, priv => priv
  | fuel + 1, i, priv =>
    if priv.length % 8 ≠ 0 then padBlock fuel (i + 1) (priv ++ [UInt8.ofNat i]) else priv

/-- The outer public key. -/
def publicBlob (pub : Bytes) : Bytes := withLength compositeAlgorithm ++ withLength pub

/-- The private section, before the padding. -/
def privateFields (check : Nat) (pub secret comment : Bytes) : Bytes :=
  uint32 check ++ uint32 check ++ withLength compositeAlgorithm ++ withLength pub ++
    withLength secret ++ withLength comment

/-- `MarshalPrivate`, with the random check number. -/
def marshalPrivate (lib : KeyLibrary) (check : Nat) (key : PrivateKey) (comment : Bytes) :
    Except Err Bytes := do
  let pub ← lib.derive key
  let priv := padBlock 8 1 (privateFields check pub key.secret comment)
  pure (lib.encodePEM pemType (authMagic ++ withLength (ascii "none") ++ withLength (ascii "none") ++
    withLength [] ++ uint32 1 ++ withLength (publicBlob pub) ++ withLength priv))

/-- The loop over the padding. -/
def isPadding : Nat → Bytes → Bool
  | _, [] => true
  | i, byte :: rest => byte = UInt8.ofNat (i + 1) && isPadding (i + 1) rest

/-- The part of `ParsePrivate` after the outer fields. -/
def parsePrivateSection (lib : KeyLibrary) (outerPub priv : Bytes) : Except Err PrivateKey := do
  refuseIf (decide (priv.length < 8)) (.plain "truncated private key body")
  refuseIf (priv.take 4 ≠ (priv.drop 4).take 4) (.plain "private key check integers mismatch")
  let (alg, priv) ← consumeField (priv.drop 8)
  refuseIf (alg ≠ compositeAlgorithm) (.plain ("host key algorithm " ++ quoted alg))
  let (pub, priv) ← consumeField priv
  let (sk, priv) ← consumeField priv
  let (_, priv) ← consumeField priv
  refuseIf (!isPadding 0 priv) (.plain "invalid OpenSSH private key padding")
  let key ← newPrivateKey sk
  let wantPub ← lib.derive key
  refuseIf (wantPub ≠ pub) (.plain "OpenSSH private key public mismatch")
  refuseIf (outerPub ≠ publicBlob wantPub) (.plain "OpenSSH private key outer public blob mismatch")
  pure key

def parsePrivate (lib : KeyLibrary) (pemBytes : Bytes) : Except Err PrivateKey :=
  match lib.decodePEM pemBytes with
  | none => .error (.plain "not an OpenSSH private key")
  | some (type, body, rest) => do
    refuseIf (type ≠ pemType || !lib.isBlank rest) (.plain "not an OpenSSH private key")
    refuseIf (!authMagic.isPrefixOf body) (.plain "missing openssh-key-v1 magic")
    let (cipher, rest) ← consumeField (body.drop authMagic.length)
    let (kdf, rest) ← consumeField rest
    refuseIf (cipher ≠ ascii "none" || kdf ≠ ascii "none")
      (.plain "WarpTweet host keys must be unencrypted")
    let (_, rest) ← consumeField rest
    match consumeUint32 rest with
    | none => throw (.plain "truncated OpenSSH uint32")
    | some (nkeys, rest) => do
      refuseIf (nkeys ≠ 1)
        (.plain ("OpenSSH private key has " ++ toString nkeys ++ " keys, want 1"))
      let (outerPub, rest) ← consumeField rest
      let (priv, rest) ← consumeField rest
      refuseIf (rest.length ≠ 0) (.plain "trailing data after OpenSSH private key")
      parsePrivateSection lib outerPub priv

end WarpTweet
