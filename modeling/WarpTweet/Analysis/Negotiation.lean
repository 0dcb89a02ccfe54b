import WarpTweet.Concurrency.Alone
import WarpTweet.Analysis.Reader
import WarpTweet.Analysis.Handshake

/-!
# Which algorithms are negotiated

`handleKEX` does not negotiate. It reads four name lists of the client's KEXINIT and asks whether
the pinned algorithms are among them. Here the rest of the KEXINIT is read and the rule of SSH is
applied, the first choice of the client that the server offers, and the outcome is compared with the
pinned algorithms for every KEXINIT that is answered.
-/

namespace WarpTweet

open Concurrency Wire ConnProg

/-! ## The rule of SSH -/

/-- A KEXINIT message: the cookie, ten name lists, and whether a guessed packet follows. -/
structure KexInit where
  cookie : Bytes
  kex : Bytes
  hostKey : Bytes
  cipherC2S : Bytes
  cipherS2C : Bytes
  macC2S : Bytes
  macS2C : Bytes
  compressionC2S : Bytes
  compressionS2C : Bytes
  languageC2S : Bytes
  languageS2C : Bytes
  firstKexPacketFollows : Bool
  deriving DecidableEq, Repr

/-- The four lists that `handleKEX` reads, and what comes after them. -/
def readPinnedLists (payload : Bytes) : Option ((Bytes × Bytes × Bytes × Bytes × Bytes) × Bytes) := do
  let (cookie, body) ← readFull 16 (kexInitBody payload)
  let (kex, body) ← consumeString body
  let (hostKey, body) ← consumeString body
  let (cipherC2S, body) ← consumeString body
  let (cipherS2C, body) ← consumeString body
  pure ((cookie, kex, hostKey, cipherC2S, cipherS2C), body)

/-- A complete KEXINIT: the six remaining lists, the flag, a reserved word, and nothing after it. -/
def parseKexInit (payload : Bytes) : Option KexInit := do
  let ((cookie, kex, hostKey, cipherC2S, cipherS2C), body) ← readPinnedLists payload
  let (macC2S, body) ← consumeString body
  let (macS2C, body) ← consumeString body
  let (compressionC2S, body) ← consumeString body
  let (compressionS2C, body) ← consumeString body
  let (languageC2S, body) ← consumeString body
  let (languageS2C, body) ← consumeString body
  let (firstKexPacketFollows, body) ← consumeBool body
  let (_, body) ← consumeUint32 body
  if payload.head? = some sshMsgKexInit ∧ body = [] then
    some ⟨cookie, kex, hostKey, cipherC2S, cipherS2C, macC2S, macS2C, compressionC2S,
      compressionS2C, languageC2S, languageS2C, firstKexPacketFollows⟩
  else none

/-- The first name of the client that the server offers. -/
def negotiate (client server : Bytes) : Option Bytes :=
  (names client).find? fun name => (names server).contains name

/-- The guess is right if both sides prefer the same key exchange and the same host key. -/
def GuessedRight (client server : KexInit) : Prop :=
  (names client.kex).head? = (names server.kex).head? ∧
    (names client.hostKey).head? = (names server.hostKey).head?

/-- The negotiation selects the pinned algorithms and no compression, and a packet that was announced
as a guess is one that the server may use. -/
structure SelectsPinned (policy : Policy) (client server : KexInit) : Prop where
  kex : negotiate client.kex server.kex = some policy.keyExchangeAlgorithm
  hostKey : negotiate client.hostKey server.hostKey = some policy.authenticationKeyType
  cipherC2S : negotiate client.cipherC2S server.cipherC2S = some policy.cipherName
  cipherS2C : negotiate client.cipherS2C server.cipherS2C = some policy.cipherName
  compressionC2S : negotiate client.compressionC2S server.compressionC2S = some (ascii "none")
  compressionS2C : negotiate client.compressionS2C server.compressionS2C = some (ascii "none")
  guess : client.firstKexPacketFollows = true → GuessedRight client server

/-- The KEXINIT of a client is complete and selects the pinned algorithms against the KEXINIT of the
server. -/
def NegotiatesPinned (policy : Policy) (clientKex serverKex : Bytes) : Prop :=
  ∃ client server, parseKexInit clientKex = some client ∧ parseKexInit serverKex = some server ∧
    SelectsPinned policy client server

/-! ## The KEXINIT of the server -/

def strictKEXServer : Bytes := ascii "kex-strict-s-v00@openssh.com"

/-- The names of a policy are single names that fit in a name list. -/
structure Policy.Named (policy : Policy) : Prop where
  kex : (44 : UInt8) ∉ policy.keyExchangeAlgorithm
  hostKey : (44 : UInt8) ∉ policy.authenticationKeyType
  cipher : (44 : UInt8) ∉ policy.cipherName
  kexLength : policy.keyExchangeAlgorithm.length < 2 ^ 31
  hostKeyLength : policy.authenticationKeyType.length < 2 ^ 32
  cipherLength : policy.cipherName.length < 2 ^ 32

section

variable {policy : Policy} {cookie name : Bytes}

theorem names_of_not_mem (h : (44 : UInt8) ∉ name) : names name = [name] :=
  List.splitOn_eq_singleton h

theorem parseKexInit_kexInitPayload (hpolicy : policy.Named) (hcookie : cookie.length = 16) :
    parseKexInit (kexInitPayload policy cookie) = some
      { cookie
        kex := policy.keyExchangeAlgorithm ++ ascii ",kex-strict-s-v00@openssh.com"
        hostKey := policy.authenticationKeyType
        cipherC2S := policy.cipherName
        cipherS2C := policy.cipherName
        macC2S := ascii "none"
        macS2C := ascii "none"
        compressionC2S := ascii "none"
        compressionS2C := ascii "none"
        languageC2S := []
        languageS2C := []
        firstKexPacketFollows := false } := by
  have hkex : (policy.keyExchangeAlgorithm ++ ascii ",kex-strict-s-v00@openssh.com").length <
      2 ^ 32 := by
    have hlength := hpolicy.kexLength
    have hmarker : (ascii ",kex-strict-s-v00@openssh.com").length = 29 := by decide
    rw [List.length_append, hmarker]
    omega
  have hnone : (ascii "none").length < 2 ^ 32 := by decide
  have hempty : ([] : Bytes).length < 2 ^ 32 := by decide
  have hbody : kexInitBody (kexInitPayload policy cookie) =
      cookie ++ (withLength (policy.keyExchangeAlgorithm ++ ascii ",kex-strict-s-v00@openssh.com") ++
        (withLength policy.authenticationKeyType ++ (withLength policy.cipherName ++
        (withLength policy.cipherName ++ (withLength (ascii "none") ++ (withLength (ascii "none") ++
        (withLength (ascii "none") ++ (withLength (ascii "none") ++ (withLength [] ++
        (withLength [] ++ 0 :: uint32 0)))))))))) := by
    simp only [kexInitPayload, kexInitBody, List.cons_append, List.head?_cons, if_true, List.drop_one,
      List.tail_cons, List.append_assoc]
  have hreserved : consumeUint32 (uint32 0) = some (0, []) := by
    rw [← List.append_nil (uint32 0)]
    exact consumeUint32_append (by decide)
  simp only [parseKexInit, readPinnedLists, hbody, readFull_append hcookie, Option.bind_eq_bind,
    Option.bind_some, consumeString_withLength hkex, consumeString_withLength hpolicy.hostKeyLength,
    consumeString_withLength hpolicy.cipherLength, consumeString_withLength hnone,
    consumeString_withLength hempty, consumeBool, hreserved, Option.pure_def]
  rfl

theorem names_server_kex (hpolicy : policy.Named) :
    names (policy.keyExchangeAlgorithm ++ ascii ",kex-strict-s-v00@openssh.com") =
      [policy.keyExchangeAlgorithm, strictKEXServer] := by
  have hsplit : ascii ",kex-strict-s-v00@openssh.com" = 44 :: strictKEXServer := by decide
  have hmarker : names strictKEXServer = [strictKEXServer] := names_of_not_mem (by decide)
  rw [hsplit, ← hmarker]
  exact List.splitOn_append_cons_self_of_not_mem hpolicy.kex _

end

/-! ## What is answered -/

/-- The reply of the server to a key share. -/
def repliesToShare (action : ConnAction) : Bool :=
  action.sends.any fun payload => payload.head? == some sshMsgKexECDHReply

/-- `handleKEX` may answer the packet on this connection. -/
def AnswersShare (plane : Plane) (clientID packet : Bytes) (conn : Conn) : Prop :=
  MayDo (connMachine plane) 0 (fun action => repliesToShare action = true)
    (handleKEX plane clientID packet) conn

section

variable {plane : Plane} {clientID packet clientKex : Bytes} {conn : Conn}

theorem not_repliesToShare_of_head {payload : Bytes} (h : payload.head? ≠ some sshMsgKexECDHReply) :
    ¬ repliesToShare (.send payload) = true := by
  simpa [repliesToShare, ConnAction.sends] using h

theorem not_repliesToShare_of_sends {action : ConnAction} (h : action.sends = none) :
    ¬ repliesToShare action = true := by
  simp [repliesToShare, h]

theorem uses_answerKEX_of_complaint {serverKex complaint : Bytes}
    (h : clientOffersPinnedAlgorithms clientKex plane.policy = some complaint) :
    (answerKEX plane clientID packet clientKex serverKex).Uses
      fun action => ¬ repliesToShare action = true := by
  have hrekey : AllowsRekey fun action => ¬ repliesToShare action = true := by
    refine ⟨not_repliesToShare_of_sends rfl, fun _ => not_repliesToShare_of_sends rfl,
      fun serverKex hhead => ?_⟩
    apply not_repliesToShare_of_head
    rw [hhead]
    decide
  unfold answerKEX
  refine uses_field.bind fun share => ?_
  obtain ⟨clientPub, rest⟩ := share
  dsimp only
  split
  · trivial
  · refine (uses_act (not_repliesToShare_of_sends rfl)).bind fun shares =>
      uses_need.bind fun shared => ?_
    obtain ⟨serverPub, shared⟩ := shared
    rw [h]
    refine uses_disconnect hrekey (not_repliesToShare_of_head ?_)
    simp [marshalDisconnect, sshMsgDisconnect, sshMsgKexECDHReply]

/-- A KEXINIT is answered only if the pinned algorithms are among the names of its four lists. -/
theorem pinned_of_answersShare (hkex : conn.clientKex = some clientKex)
    (h : AnswersShare plane clientID packet conn) :
    clientOffersPinnedAlgorithms clientKex plane.policy = none := by
  cases hcomplaint : clientOffersPinnedAlgorithms clientKex plane.policy with
  | none => rfl
  | some complaint =>
    rcases h with hbegin | ⟨choice, reply, conn', hperform, hrest⟩
    · exact absurd hbegin (not_repliesToShare_of_sends rfl)
    · cases hperform
      refine absurd hrest (not_mayDo_of_uses ?_)
      by_cases hphase : conn.phase = .awaitECDH
      · rw [if_pos hphase, hkex, Option.map_some]
        refine (uses_answerKEX_of_complaint hcomplaint).bind fun keys => ?_
        exact uses_act (not_repliesToShare_of_sends rfl)
      · rw [if_neg hphase]
        trivial

theorem of_clientOffersPinnedAlgorithms {policy : Policy}
    (h : clientOffersPinnedAlgorithms clientKex policy = none) :
    ∃ cookie kex hostKey cipherC2S cipherS2C rest,
      readPinnedLists clientKex = some ((cookie, kex, hostKey, cipherC2S, cipherS2C), rest) ∧
      policy.keyExchangeAlgorithm ∈ names kex ∧ policy.authenticationKeyType ∈ names hostKey ∧
      policy.cipherName ∈ names cipherC2S ∧ policy.cipherName ∈ names cipherS2C := by
  unfold clientOffersPinnedAlgorithms at h
  dsimp only at h
  split at h
  · cases h
  · rename_i hlength
    split at h
    · cases h
    · rename_i hlists
      simp only [Option.bind_eq_bind, Option.bind_eq_some_iff] at hlists
      obtain ⟨⟨kex', body₁⟩, hkex, ⟨hostKey', body₂⟩, hhostKey, ⟨c2s, body₃⟩, hc2s, ⟨s2c, body₄⟩,
        hs2c, hlists⟩ := hlists
      cases hlists
      split at h
      · cases h
      · rename_i hmemKex
        split at h
        · cases h
        · rename_i hmemHost
          split at h
          · cases h
          · rename_i hmemCipher
            refine ⟨(kexInitBody clientKex).take 16, kex', hostKey', c2s, s2c, body₄, ?_⟩
            have hcookie : readFull 16 (kexInitBody clientKex) =
                some ((kexInitBody clientKex).take 16, (kexInitBody clientKex).drop 16) :=
              if_pos (Nat.le_of_not_lt hlength)
            refine ⟨?_, ?_⟩
            · simp only [readPinnedLists, hcookie, Option.bind_eq_bind, Option.bind_some, hkex,
                hhostKey, hc2s, hs2c]
              rfl
            · simpa using And.intro hmemKex (And.intro hmemHost hmemCipher)

end

/-! ## When the negotiation is right -/

theorem find?_pair {a b : Bytes} {l : List Bytes} (h : a ∈ l) :
    l.find? (fun x => [a, b].contains x) = some a ↔ b ∉ l.takeWhile (· ≠ a) := by
  induction l with
  | nil => cases h
  | cons x l ih =>
    by_cases hx : x = a
    · subst hx
      simp
    · have hmem : a ∈ l := (List.mem_cons.1 h).resolve_left (Ne.symm hx)
      by_cases hb : x = b
      · subst hb
        simp [hx]
      · simp [hx, hb, Ne.symm hb] at ih ⊢
        exact ih hmem

theorem negotiate_single {client name : Bytes} (hname : (44 : UInt8) ∉ name) :
    negotiate client name = some name ↔ name ∈ names client := by
  unfold negotiate
  rw [names_of_not_mem hname]
  constructor
  · intro h
    exact List.mem_of_find?_eq_some h
  · intro h
    have hsome : ((names client).find? fun x => [name].contains x).isSome = true := by
      rw [List.find?_isSome]
      exact ⟨name, h, by simp⟩
    obtain ⟨found, hfound⟩ := Option.isSome_iff_exists.1 hsome
    have heq : found = name := by simpa using List.find?_some hfound
    rw [hfound, heq]

/-- What an answered KEXINIT needs beyond the pinned names: it is complete, the strict marker of the
server does not come before the pinned key exchange, compression can be switched off in both
directions, and a guess that is announced is the pinned one. -/
structure OffersOnlyPinned (policy : Policy) (payload : Bytes) : Prop where
  complete : (parseKexInit payload).isSome = true
  marker : ∀ client ∈ parseKexInit payload,
    strictKEXServer ∉ (names client.kex).takeWhile (· ≠ policy.keyExchangeAlgorithm)
  compression : ∀ client ∈ parseKexInit payload,
    ascii "none" ∈ names client.compressionC2S ∧ ascii "none" ∈ names client.compressionS2C
  guess : ∀ client ∈ parseKexInit payload, client.firstKexPacketFollows = true →
    (names client.kex).head? = some policy.keyExchangeAlgorithm ∧
      (names client.hostKey).head? = some policy.authenticationKeyType

theorem lists_of_parseKexInit {payload : Bytes} {client : KexInit}
    (h : parseKexInit payload = some client) : ∃ rest, readPinnedLists payload =
      some ((client.cookie, client.kex, client.hostKey, client.cipherC2S, client.cipherS2C), rest) := by
  simp only [parseKexInit, Option.bind_eq_bind, Option.bind_eq_some_iff] at h
  obtain ⟨⟨⟨cookie, kex, hostKey, c2s, s2c⟩, body⟩, hlists, _, -, _, -, _, -, _, -, _, -, _, -, _, -,
    _, -, h⟩ := h
  split at h
  · cases h
    exact ⟨body, hlists⟩
  · cases h

/-- **When the negotiation is right.** A KEXINIT that is answered is complete and selects the pinned
algorithms exactly if it meets four conditions that `handleKEX` does not check. -/
theorem negotiatesPinned_iff {plane : Plane} {clientID packet clientKex cookie : Bytes} {conn : Conn}
    (hpolicy : plane.policy.Named) (hcookie : cookie.length = 16)
    (hkex : conn.clientKex = some clientKex) (h : AnswersShare plane clientID packet conn) :
    NegotiatesPinned plane.policy clientKex (kexInitPayload plane.policy cookie) ↔
      OffersOnlyPinned plane.policy clientKex := by
  obtain ⟨_, kex, hostKey, c2s, s2c, rest, hlists, hmemKex, hmemHost, hmemC2S, hmemS2C⟩ :=
    of_clientOffersPinnedAlgorithms (pinned_of_answersShare hkex h)
  have hserver := parseKexInit_kexInitPayload hpolicy hcookie
  have hnone : (44 : UInt8) ∉ ascii "none" := by decide
  -- the lists of a complete KEXINIT are those that were checked
  have hsame : ∀ client, parseKexInit clientKex = some client →
      client.kex = kex ∧ client.hostKey = hostKey ∧ client.cipherC2S = c2s ∧
        client.cipherS2C = s2c := by
    intro client hclient
    obtain ⟨rest', hlists'⟩ := lists_of_parseKexInit hclient
    rw [hlists] at hlists'
    cases hlists'
    exact ⟨rfl, rfl, rfl, rfl⟩
  constructor
  · rintro ⟨client, server, hclient, hserver', hselects⟩
    obtain rfl := Option.some.inj (hserver.symm.trans hserver')
    obtain ⟨rfl, -, -, -⟩ := hsame client hclient
    refine ⟨by rw [hclient]; rfl, ?_, ?_, ?_⟩
    · intro found hfound
      obtain rfl := Option.some.inj (hclient.symm.trans hfound)
      have hselected := hselects.kex
      rw [negotiate, names_server_kex hpolicy] at hselected
      exact (find?_pair hmemKex).1 hselected
    · intro found hfound
      obtain rfl := Option.some.inj (hclient.symm.trans hfound)
      exact ⟨(negotiate_single hnone).1 hselects.compressionC2S,
        (negotiate_single hnone).1 hselects.compressionS2C⟩
    · intro found hfound hfollows
      obtain rfl := Option.some.inj (hclient.symm.trans hfound)
      have hguess := hselects.guess hfollows
      rw [GuessedRight, names_server_kex hpolicy, names_of_not_mem hpolicy.hostKey] at hguess
      exact hguess
  · intro hoffers
    obtain ⟨client, hclient⟩ := Option.isSome_iff_exists.1 hoffers.complete
    obtain ⟨rfl, rfl, rfl, rfl⟩ := hsame client hclient
    obtain ⟨hcompC2S, hcompS2C⟩ := hoffers.compression client hclient
    refine ⟨client, _, hclient, hserver, ?_, (negotiate_single hpolicy.hostKey).2 hmemHost,
      (negotiate_single hpolicy.cipher).2 hmemC2S, (negotiate_single hpolicy.cipher).2 hmemS2C,
      (negotiate_single hnone).2 hcompC2S, (negotiate_single hnone).2 hcompS2C, ?_⟩
    · rw [negotiate, names_server_kex hpolicy]
      exact (find?_pair hmemKex).2 (hoffers.marker client hclient)
    · intro hfollows
      rw [GuessedRight, names_server_kex hpolicy, names_of_not_mem hpolicy.hostKey]
      exact hoffers.guess client hclient hfollows

/-! ## Three clients -/

namespace Sockets

/-- The KEXINIT of a client, up to the four lists that are checked. -/
def offers (kex : String) : Bytes :=
  sshMsgKexInit :: List.replicate 16 0 ++ withLength (ascii kex) ++ withLength compositeAlgorithm ++
    withLength (ascii "chacha20-poly1305@openssh.com") ++
    withLength (ascii "chacha20-poly1305@openssh.com")

/-- The rest of a KEXINIT, without compression. -/
def completed (follows : UInt8) : Bytes :=
  withLength [] ++ withLength [] ++ withLength (ascii "none") ++ withLength (ascii "none") ++
    withLength [] ++ withLength [] ++ follows :: uint32 0

/-- A connection that has the KEXINIT of a client and waits for its key share. -/
def awaiting (clientKex : Bytes) : Conn :=
  { input := [], phase := .awaitECDH, clientKex := some clientKex }

theorem named_policy : (policy 0).Named where
  kex := by decide
  hostKey := by decide
  cipher := by decide
  kexLength := by decide
  hostKeyLength := by decide
  cipherLength := by decide

end Sockets

/-- A client that offers the pinned algorithms only is answered, and the negotiation selects them. -/
theorem negotiatesPinned_of_plain_client :
    AnswersShare (Sockets.plane 0) (ascii "SSH-2.0-c") Sockets.ecdhInit
      (Sockets.awaiting (Sockets.offers "mlkem768x25519-sha256" ++ Sockets.completed 0)) ∧
    NegotiatesPinned (Sockets.policy 0)
      (Sockets.offers "mlkem768x25519-sha256" ++ Sockets.completed 0)
      (kexInitPayload (Sockets.policy 0) (List.replicate 16 0)) := by
  have hanswers : AnswersShare (Sockets.plane 0) (ascii "SSH-2.0-c") Sockets.ecdhInit
      (Sockets.awaiting (Sockets.offers "mlkem768x25519-sha256" ++ Sockets.completed 0)) :=
    mayDo_of_doesWith (List.replicate 9 Sockets.fine) (by decide +kernel)
  have hpinned : NegotiatesPinned (Sockets.plane 0).policy _ _ ↔ _ :=
    negotiatesPinned_iff Sockets.named_policy (List.length_replicate (n := 16) (a := 0)) rfl hanswers
  refine ⟨hanswers, hpinned.2 ⟨?_, ?_, ?_, ?_⟩⟩
  all_goals decide +kernel

/-- **Other negotiations are answered too.** The server answers a KEXINIT that ends after four lists;
one that prefers the strict marker of the server, which the rule of SSH would then select as the key
exchange; and one that announces a packet for another key exchange, which the server then uses. -/
theorem other_negotiations_answered :
    (AnswersShare (Sockets.plane 0) (ascii "SSH-2.0-c") Sockets.ecdhInit
        (Sockets.awaiting (Sockets.offers "mlkem768x25519-sha256")) ∧
      parseKexInit (Sockets.offers "mlkem768x25519-sha256") = none) ∧
    (AnswersShare (Sockets.plane 0) (ascii "SSH-2.0-c") Sockets.ecdhInit
        (Sockets.awaiting (Sockets.offers "kex-strict-s-v00@openssh.com,mlkem768x25519-sha256" ++
          Sockets.completed 0)) ∧
      ∃ client ∈ parseKexInit (Sockets.offers "kex-strict-s-v00@openssh.com,mlkem768x25519-sha256" ++
          Sockets.completed 0),
        ∃ server ∈ parseKexInit (kexInitPayload (Sockets.policy 0) (List.replicate 16 0)),
          negotiate client.kex server.kex = some strictKEXServer) ∧
    AnswersShare (Sockets.plane 0) (ascii "SSH-2.0-c") Sockets.ecdhInit
        (Sockets.awaiting (Sockets.offers "sntrup761x25519-sha512,mlkem768x25519-sha256" ++
          Sockets.completed 1)) ∧
      ∃ client ∈ parseKexInit (Sockets.offers "sntrup761x25519-sha512,mlkem768x25519-sha256" ++
          Sockets.completed 1), client.firstKexPacketFollows = true ∧
        ∃ server ∈ parseKexInit (kexInitPayload (Sockets.policy 0) (List.replicate 16 0)),
          (names client.kex).head? ≠ (names server.kex).head? := by
  refine ⟨⟨mayDo_of_doesWith (List.replicate 9 Sockets.fine) (by decide +kernel), by decide +kernel⟩,
    ⟨mayDo_of_doesWith (List.replicate 9 Sockets.fine) (by decide +kernel), by decide +kernel⟩,
    mayDo_of_doesWith (List.replicate 9 Sockets.fine) (by decide +kernel), by decide +kernel⟩

end WarpTweet
