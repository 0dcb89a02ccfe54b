import WarpTweet.Analysis.Sockets

/-!
# The hash of a key exchange

The input of the exchange hash (`exchangeHash`, `appendKexInitHash`) determines every part of the
handshake: each part has its length in front, and the number of a KEXINIT that is taken off is put
on again.
-/

namespace WarpTweet

open Wire

/-- What the exchange hash is taken of. -/
structure Handshake where
  clientID : Bytes
  serverID : Bytes
  clientKex : Bytes
  serverKex : Bytes
  hostBlob : Bytes
  clientPub : Bytes
  serverPub : Bytes
  secret : Bytes
  deriving DecidableEq, Repr

namespace Handshake

def hashInput (handshake : Handshake) : Bytes :=
  exchangeHashInput handshake.clientID handshake.serverID handshake.clientKex handshake.serverKex
    handshake.hostBlob handshake.clientPub handshake.serverPub handshake.secret

/-- The parts are shorter than 2³² bytes, the two KEXINITs start with their number, and the secret
has its length in front. -/
structure Encodable (handshake : Handshake) : Prop where
  clientID : handshake.clientID.length < 2 ^ 32
  serverID : handshake.serverID.length < 2 ^ 32
  clientKex : handshake.clientKex.length < 2 ^ 32
  serverKex : handshake.serverKex.length < 2 ^ 32
  hostBlob : handshake.hostBlob.length < 2 ^ 32
  clientPub : handshake.clientPub.length < 2 ^ 32
  serverPub : handshake.serverPub.length < 2 ^ 32
  clientNumber : handshake.clientKex.head? = some sshMsgKexInit
  serverNumber : handshake.serverKex.head? = some sshMsgKexInit
  secret : ∃ shared, handshake.secret = withLength shared ∧ shared.length < 2 ^ 32

end Handshake

theorem kexInitHash_of_head {kex : Bytes} (h : kex.head? = some sshMsgKexInit) :
    kexInitHash kex = withLength kex := by
  cases kex with
  | nil => cases h
  | cons number rest =>
    cases h
    rfl

/-- **The hashed bytes determine the handshake.** Two handshakes with the same hash input are the
same, and so are two handshakes with the same hash unless their inputs collide. -/
theorem handshake_eq_of_hashInput_eq (left right : Handshake) (hleft : left.Encodable)
    (hright : right.Encodable) :
    (left.hashInput = right.hashInput → left = right) ∧
      ∀ suite : Suite, (suite.sha256 left.hashInput = suite.sha256 right.hashInput →
          left.hashInput = right.hashInput) →
        suite.sha256 left.hashInput = suite.sha256 right.hashInput → left = right := by
  have hinj : left.hashInput = right.hashInput → left = right := by
    intro heq
    unfold Handshake.hashInput exchangeHashInput at heq
    rw [kexInitHash_of_head hleft.clientNumber, kexInitHash_of_head hleft.serverNumber,
      kexInitHash_of_head hright.clientNumber, kexInitHash_of_head hright.serverNumber] at heq
    simp only [List.append_assoc] at heq
    -- the parts are compared from the front
    obtain ⟨hclientID, heq⟩ := withLength_append_inj hleft.clientID hright.clientID heq
    obtain ⟨hserverID, heq⟩ := withLength_append_inj hleft.serverID hright.serverID heq
    obtain ⟨hclientKex, heq⟩ := withLength_append_inj hleft.clientKex hright.clientKex heq
    obtain ⟨hserverKex, heq⟩ := withLength_append_inj hleft.serverKex hright.serverKex heq
    obtain ⟨hhostBlob, heq⟩ := withLength_append_inj hleft.hostBlob hright.hostBlob heq
    obtain ⟨hclientPub, heq⟩ := withLength_append_inj hleft.clientPub hright.clientPub heq
    obtain ⟨hserverPub, hsecret⟩ := withLength_append_inj hleft.serverPub hright.serverPub heq
    cases left
    cases right
    simp_all
  exact ⟨hinj, fun suite hcollision hhash => hinj (hcollision hhash)⟩

/-- A handshake of the small data plane, with the two given shares. -/
def Sockets.handshake (clientPub serverPub : Bytes) : Handshake :=
  ⟨ascii "SSH-2.0-c", serverIdentification, Sockets.kexInit,
    kexInitPayload (Sockets.policy 0) (List.replicate 16 0), hostKeyBlob [104], clientPub, serverPub,
    withLength [3]⟩

theorem Sockets.encodable_handshake {clientPub serverPub : Bytes}
    (hclient : clientPub.length < 2 ^ 32) (hserver : serverPub.length < 2 ^ 32) :
    (Sockets.handshake clientPub serverPub).Encodable where
  clientID := (by decide +kernel : (ascii "SSH-2.0-c").length < 2 ^ 32)
  serverID := (by decide +kernel : serverIdentification.length < 2 ^ 32)
  clientKex := (by decide +kernel : Sockets.kexInit.length < 2 ^ 32)
  serverKex := (by decide +kernel :
    (kexInitPayload (Sockets.policy 0) (List.replicate 16 0)).length < 2 ^ 32)
  hostBlob := (by decide +kernel : (hostKeyBlob [104]).length < 2 ^ 32)
  clientPub := hclient
  serverPub := hserver
  clientNumber := rfl
  serverNumber := rfl
  secret := ⟨[3], rfl, by decide⟩

/-- A byte that moves from one share to the other changes the hash input. -/
theorem hashInput_ne_of_moved_byte :
    (Sockets.handshake [1] [2]).hashInput ≠ (Sockets.handshake [1, 2] []).hashInput := by
  intro heq
  have hsame := (handshake_eq_of_hashInput_eq (Sockets.handshake [1] [2])
    (Sockets.handshake [1, 2] []) (Sockets.encodable_handshake (by decide) (by decide))
    (Sockets.encodable_handshake (by decide) (by decide))).1 heq
  exact absurd (congrArg Handshake.clientPub hsame) (by decide)

end WarpTweet
