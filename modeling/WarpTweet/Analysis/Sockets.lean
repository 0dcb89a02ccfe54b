import WarpTweet.Model.Handlers

/-!
# A small data plane

One concrete data plane and the byte streams of its clients, on which schedules are run.
The cipher leaves the data as it is and every signature verifies; a digest is the end of
the data it is taken of, and the derived keys are the secret of the exchange. The names of
the algorithms are those of the profile.
-/

namespace WarpTweet.Sockets

open Strings Concurrency Wire

/-- The last bytes of the data. -/
def sha256 (data : Bytes) : Bytes := paddingOf data.reverse 32

theorem length_sha256 (data : Bytes) : (sha256 data).length = 32 := by
  simp [sha256, paddingOf]

/-- The parameters of the data plane. The text of a blob is its raw key. -/
def suite : Suite where
  cipher :=
    { xorKeyStream := fun _ _ _ data => data
      poly1305Sum := fun _ _ => List.replicate 16 0 }
  sha256
  length_sha256
  encapsulate _ random := some (random, random)
  deriveKeys secret _ _ := (paddingOf secret 64, paddingOf secret 64)
  verify _ _ _ := true
  decodeBase64 text := some (hostKeyBlob (text.map fun c => UInt8.ofNat c.toNat))
  parseAddr host := if host = ascii "127.0.0.1" then some (.v4 0x7f000001) else none
  quote text := text
  formatAddrPort _ := []

/-- The policy: port 80 of the loopback interface is the target. Keys are exchanged again
after `rekeyAfter` bytes. -/
def policy (rekeyAfter : Nat) : Policy where
  keyExchangeAlgorithm := ascii "mlkem768x25519-sha256"
  authenticationKeyType := compositeAlgorithm
  cipherName := ascii "chacha20-poly1305@openssh.com"
  target := (.v4 0x7f000001, 80)
  management := (.v4 0x7f000001, 29723)
  grant := true
  rekeyAfter
  maxChannels := 4

def plane (rekeyAfter : Nat) : Plane where
  suite
  policy := policy rekeyAfter
  hostPublic := [104]

/-- The authorization file, with the keys `k` and `l`. -/
def authorizedKeys : Text :=
  authenticationKeyType ++ [' ', 'k', '\n'] ++ authenticationKeyType ++ [' ', 'l']

/-- The outcomes that the environment chooses: everything works. -/
def fine : ConnChoice := { text := authorizedKeys }

/-! ## What a client sends -/

/-- A packet of the client after the first key exchange. -/
def packet (payload : Bytes) : Bytes :=
  (ChachaDirection.sealPacket suite.cipher ⟨[], []⟩ 0 payload []).getD []

/-- The KEXINIT of a client that offers strict key exchange. -/
def kexInit : Bytes :=
  sshMsgKexInit :: List.replicate 16 0 ++
    withLength (ascii "mlkem768x25519-sha256,kex-strict-c-v00@openssh.com") ++
    withLength compositeAlgorithm ++
    withLength (ascii "chacha20-poly1305@openssh.com") ++
    withLength (ascii "chacha20-poly1305@openssh.com")

def ecdhInit : Bytes := sshMsgKexECDHInit :: withLength [1]

/-- The identification and the first key exchange. -/
def hello : Bytes :=
  ascii "SSH-2.0-c\n" ++ clearFrame kexInit [] ++ clearFrame ecdhInit [] ++
    clearFrame [sshMsgNewKeys] []

/-- The request to authenticate with a raw key. -/
def userauth (rawPub : Bytes) : Bytes :=
  sshMsgUserauthRequest :: withLength (ascii "warptweet") ++
    withLength (ascii "ssh-connection") ++ withLength (ascii "publickey") ++
    1 :: withLength compositeAlgorithm ++ withLength (hostKeyBlob rawPub) ++
    withLength (signatureBlob [2])

def channelOpen : Bytes :=
  sshMsgChannelOpen :: withLength (ascii "direct-tcpip") ++ uint32 7 ++ uint32 1000 ++
    uint32 1000 ++ withLength (ascii "127.0.0.1") ++ uint32 80 ++ withLength (ascii "c") ++
    uint32 9

/-! ## Schedules -/

/-- Process `pid` takes `n` steps that go well. -/
def steps (pid n : ℕ) : List ConnMove := List.replicate n (.advance pid fine)

/-- The connection is served up to the point where a client with key `k` has opened a channel,
and the channel has a forwarder, process 1, that has read three bytes from the target. -/
def forwarding : List ConnMove :=
  .start 0 (.serve 9) :: steps 0 38 ++
    [.start 1 (.forward 0 0 7 5), .advance 1 { fine with bytes := [1, 2, 3] }]

def session : Bytes := hello ++ packet (userauth [107]) ++ packet channelOpen

end WarpTweet.Sockets
