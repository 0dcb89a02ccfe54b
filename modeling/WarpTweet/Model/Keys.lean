import WarpTweet.Model.Locator

/-!
# Public keys and authorization lines

Public keys travel as one-line text, `type blob comment`, and are compared with
lines of `authorized_keys` by their blob field. This module models the checks on
key text (`enrollment.validatePublicKeyLine`, `server.RenderAuthorizedKey`), the
lookup of the blob (`authorizedKeyBlob`) and of the key digest
(`grantsession.KeyBlobDigest`), and the edits of the authorization file.

SHA-256, base64 and the decoder of the SSH blob are parameters.
-/

namespace WarpTweet

open Strings

/-- What the code takes from outside: IP addresses, the lower case hexadecimal
SHA-256 digest, base64 decoding, and the check of an encoded public-key blob
(`sshwire.ValidatePublicKeyBlob`), which returns its complaint. -/
structure Env where
  net : NetIP
  sha256 : Text → Text
  decodeBase64 : Text → Option Text
  validatePublicKeyBlob : Text → Option String

/-- The authentication key type of the only profile,
`ssh-mldsa44-ed25519@openssh.com`. -/
def authenticationKeyType : Text :=
  ['s', 's', 'h', '-', 'm', 'l', 'd', 's', 'a', '4', '4', '-', 'e', 'd', '2', '5', '5', '1', '9',
    '@', 'o', 'p', 'e', 'n', 's', 's', 'h', '.', 'c', 'o', 'm']

/-- Substrings that mark private-key material. -/
def privateKeyMarkers : List Text :=
  ["private".toList, "begin openssh".toList, "begin rsa".toList, "begin ec".toList, "seed".toList]

def maxEnrollmentRequestBytes : Nat := 16 * 1024

def maxAuthorizedKeyInputBytes : Nat := 8 * 1024

def validatePublicKeyLine (publicKey : Text) : Except Err Unit := do
  let publicKey := trimSpace publicKey
  refuseIf (publicKey.isEmpty || containsAny publicKey ['\r', '\n', '\x00'])
    (.invalidInvite "public_key must be one line")
  refuseIf (decide (maxEnrollmentRequestBytes < byteLength publicKey))
    (.invalidInvite "public_key is too large")
  match fields publicKey with
  | keyType :: _ :: comment =>
    refuseIf (keyType ≠ authenticationKeyType)
      (.invalidInvite "public_key type is not the required composite algorithm")
    let haystack := toLower keyType ++
      if comment.isEmpty then [] else ' ' :: toLower (join comment [' '])
    refuseIf (privateKeyMarkers.any fun marker => contains haystack marker)
      (.invalidInvite "public_key must not contain private-key material")
  | _ => throw (.invalidInvite "public_key must contain type and blob")

/-- The text without a final LF or CR LF. -/
def withoutTerminator (input : Text) : Text :=
  if input.getLast? = some '\n' then
    if input.dropLast.getLast? = some '\r' then input.dropLast.dropLast else input.dropLast
  else input

/-- `onePublicKeyLine`: the line without its terminator. -/
def onePublicKeyLine (input : Text) : Except Err Text := do
  let line := withoutTerminator input
  refuseIf line.isEmpty (.invalidAuthorizedKey "public-key line is empty")
  refuseIf (line.head? == some ' ' || line.head? == some '\t' || line.getLast? == some ' ' ||
      line.getLast? == some '\t')
    (.invalidAuthorizedKey "leading or trailing whitespace is not accepted")
  let isControl := fun c : Char =>
    c == '\r' || c == '\n' || (decide (c.toNat < 0x20) && c != '\t') || c.toNat == 0x7f
  refuseIf ((line.find? isControl).any fun c => c == '\r' || c == '\n')
    (.invalidAuthorizedKey "input must contain exactly one public-key line")
  refuseIf (line.any isControl) (.invalidAuthorizedKey ("control character at byte " ++
    toString (byteLength (line.takeWhile fun c => !isControl c))))
  pure line

/-- One managed line of `authorized_keys`:
`restrict,port-forwarding,permitopen="<target>",permitopen="127.0.0.1:29723",` then
`expiry-time="<expiry>"`, the key type, the blob and the marker
`warptweet-managed-client`. The expiry is in whole seconds. -/
structure AuthorizedLine where
  target : Addr × Nat
  expiry : Int
  keyType : Text
  blob : Text
  deriving DecidableEq, Repr

/-- The parts of `server.Config` that the grant lifecycle reads: the account, the
fixed target, and the published endpoint set. -/
structure Manifest where
  dedicatedUser : Text
  targetAddress : Addr
  targetPort : Nat
  published : PublishedEndpointSet

/-- `RenderAuthorizedKeyForTarget`: bind one key to an explicit grant target. -/
def renderAuthorizedKeyForTarget (env : Env) (publicKey : Text) (target : Addr × Nat)
    (notAfter : Time) : Except Err AuthorizedLine := do
  refuseIf publicKey.isEmpty (.invalidAuthorizedKey "input is empty")
  refuseIf (decide (maxAuthorizedKeyInputBytes < byteLength publicKey))
    (.invalidAuthorizedKey ("input is " ++ toString (byteLength publicKey) ++
      " bytes, limit is 8192"))
  let line ← onePublicKeyLine publicKey
  match fields line with
  | keyType :: blob :: _ =>
    refuseIf (keyType ≠ authenticationKeyType)
      (.invalidAuthorizedKey ("key type \"" ++ String.ofList keyType ++
        "\" does not match required type \"" ++ String.ofList authenticationKeyType ++
        "\"; options are not accepted"))
    match env.validatePublicKeyBlob blob with
    | some complaint =>
      throw (.invalidAuthorizedKey ("validate public-key blob: " ++ complaint))
    | none =>
      refuseIf notAfter.isZero (.invalidAuthorizedKey "authorization expiry is required")
      pure { target, expiry := notAfter / Time.second, keyType, blob }
  | _ => throw (.invalidAuthorizedKey "plain public-key line must contain a key type and blob")

/-- `RenderAuthorizedKey`: bind one key to the target of the manifest. The source
makes the checks of `RenderAuthorizedKeyForTarget` before it calls it. -/
def renderAuthorizedKey (env : Env) (manifest : Manifest) (publicKey : Text) (notAfter : Time) :
    Except Err AuthorizedLine :=
  renderAuthorizedKeyForTarget env publicKey (manifest.targetAddress.unmap, manifest.targetPort)
    notAfter

/-- `authorizedKeyBlob`: the blob field of a plain or a managed key line, empty when
there is none. -/
def authorizedKeyBlob (publicKey : Text) : Text :=
  match fields (trimSpace publicKey) with
  | first :: second :: rest =>
    if first.contains ',' || hasPrefix first ['r', 'e', 's', 't', 'r', 'i', 'c', 't'] then
      rest.headD []
    else second
  | _ => []

private theorem fields_dropLast_of_space {s : Text} {c : Char} (h : s.getLast? = some c)
    (hc : isSpace c = true) : fields s.dropLast = fields s := by
  have hs : s = s.dropLast ++ [c] := by
    obtain ⟨init, rfl⟩ := List.getLast?_eq_some_iff.1 h
    simp
  conv_rhs => rw [hs]
  exact (fields_append_space (by simpa using hc)).symm

theorem fields_withoutTerminator (input : Text) : fields (withoutTerminator input) = fields input := by
  unfold withoutTerminator
  split_ifs with hlf hcr
  · rw [fields_dropLast_of_space hcr (by decide), fields_dropLast_of_space hlf (by decide)]
  · exact fields_dropLast_of_space hlf (by decide)
  · rfl

theorem fields_of_onePublicKeyLine {input line : Text} (h : onePublicKeyLine input = .ok line) :
    fields line = fields input := by
  simp only [onePublicKeyLine, except_bind_eq_ok, refuseIf_eq_ok] at h
  obtain ⟨-, -, -, -, -, -, -, -, h⟩ := h
  cases h
  exact fields_withoutTerminator input

@[simp]
theorem authorizedKeyBlob_trimSpace (publicKey : Text) :
    authorizedKeyBlob (trimSpace publicKey) = authorizedKeyBlob publicKey := by
  simp only [authorizedKeyBlob, fields_trimSpace]

variable {line existing : AuthorizedLine} {lines : List AuthorizedLine}
  {publicKey oldPublicKey : Text} {env : Env} {target : Addr × Nat} {notAfter : Time}

theorem authorizedKeyBlob_of_fields {blob : Text} {rest : List Text}
    (h : fields publicKey = authenticationKeyType :: blob :: rest) :
    authorizedKeyBlob publicKey = blob := by
  simp only [authorizedKeyBlob, fields_trimSpace, h]
  rfl

/-- A rendered line carries the blob of the key it was rendered from, which is not
empty, the target and the end of the grant in whole seconds. -/
theorem renderAuthorizedKeyForTarget_eq_ok
    (h : renderAuthorizedKeyForTarget env publicKey target notAfter = .ok line) :
    authorizedKeyBlob publicKey ≠ [] ∧
    line = { target, expiry := notAfter / Time.second, keyType := authenticationKeyType,
             blob := authorizedKeyBlob publicKey } := by
  simp only [renderAuthorizedKeyForTarget, except_bind_eq_ok, refuseIf_eq_ok] at h
  obtain ⟨-, -, -, -, text, htext, h⟩ := h
  have hfields := fields_of_onePublicKeyLine htext
  rcases hsplit : fields text with _ | ⟨keyType, _ | ⟨blob, rest⟩⟩
  · simp [hsplit, throw, throwThe, MonadExceptOf.throw] at h
  · simp [hsplit, throw, throwThe, MonadExceptOf.throw] at h
  · simp only [hsplit, except_bind_eq_ok, refuseIf_eq_ok, decide_eq_false_iff_not, ne_eq,
      not_not] at h
    obtain ⟨-, htype, h⟩ := h
    subst htype
    cases hvalid : env.validatePublicKeyBlob blob with
    | some complaint => simp [hvalid, throw, throwThe, MonadExceptOf.throw] at h
    | none =>
      simp only [hvalid, except_bind_eq_ok, refuseIf_eq_ok] at h
      obtain ⟨-, -, h⟩ := h
      cases h
      have hblob : blob ≠ [] := ne_nil_of_mem_fields (s := text) (by simp [hsplit])
      rw [authorizedKeyBlob_of_fields (hfields.symm.trans hsplit)]
      exact ⟨hblob, rfl⟩

theorem line_of_renderAuthorizedKeyForTarget
    (h : renderAuthorizedKeyForTarget env publicKey target notAfter = .ok line) :
    line = { target, expiry := notAfter / Time.second, keyType := authenticationKeyType,
             blob := authorizedKeyBlob publicKey } :=
  (renderAuthorizedKeyForTarget_eq_ok h).2

/-! ## Edits of the authorization file -/

/-- `appendAuthorizedKey`: add a line unless its blob is already authorized. -/
def appendAuthorizedKey (line : AuthorizedLine) (lines : List AuthorizedLine) :
    List AuthorizedLine :=
  if !line.blob.isEmpty && lines.any (fun existing => existing.blob = line.blob) then lines
  else lines ++ [line]

/-- `replaceAuthorizedKeyForPublicKey`: drop the lines of the old key and of the new
one, and add the new line. -/
def replaceAuthorizedKeyForPublicKey (oldPublicKey : Text) (line : AuthorizedLine)
    (lines : List AuthorizedLine) : List AuthorizedLine :=
  let oldBlob := authorizedKeyBlob oldPublicKey
  lines.filter (fun existing =>
    !((!oldBlob.isEmpty && existing.blob = oldBlob) ||
      (!line.blob.isEmpty && existing.blob = line.blob))) ++ [line]

/-- `removeAuthorizedKeyForPublicKey`: drop the lines of a key. -/
def removeAuthorizedKeyForPublicKey (publicKey : Text) (lines : List AuthorizedLine) :
    List AuthorizedLine :=
  let blob := authorizedKeyBlob publicKey
  if blob.isEmpty then lines else lines.filter fun existing => !decide (existing.blob = blob)

def verifyAuthorizedKeyAbsent (publicKey : Text) (lines : List AuthorizedLine) :
    Except Err Unit := do
  let blob := authorizedKeyBlob publicKey
  refuseIf blob.isEmpty (.plain "authorized key is unparsable; cannot prove absence")
  refuseIf (lines.any fun existing => existing.blob = blob)
    (.plain "authorized key for grant is still present")

theorem mem_appendAuthorizedKey
    (h : existing ∈ appendAuthorizedKey line lines) : existing ∈ lines ∨ existing = line := by
  unfold appendAuthorizedKey at h
  split_ifs at h
  · exact .inl h
  · simpa using h

theorem mem_replaceAuthorizedKey
    (h : existing ∈ replaceAuthorizedKeyForPublicKey oldPublicKey line lines) :
    existing = line ∨ existing ∈ lines ∧
      (authorizedKeyBlob oldPublicKey = [] ∨ existing.blob ≠ authorizedKeyBlob oldPublicKey) := by
  simp only [replaceAuthorizedKeyForPublicKey, List.mem_append, List.mem_filter,
    List.mem_singleton] at h
  rcases h with ⟨hmem, hkeep⟩ | rfl
  · right
    refine ⟨hmem, ?_⟩
    by_cases hold : authorizedKeyBlob oldPublicKey = []
    · exact .inl hold
    · right
      intro heq
      simp [hold, heq] at hkeep
  · exact .inl rfl

theorem mem_removeAuthorizedKey (h : existing ∈ removeAuthorizedKeyForPublicKey publicKey lines) :
    existing ∈ lines ∧
      (authorizedKeyBlob publicKey = [] ∨ existing.blob ≠ authorizedKeyBlob publicKey) := by
  simp only [removeAuthorizedKeyForPublicKey] at h
  split_ifs at h with hblob
  · exact ⟨h, .inl (List.isEmpty_iff.1 hblob)⟩
  · simp only [List.mem_filter, Bool.not_eq_true', decide_eq_false_iff_not] at h
    exact ⟨h.1, .inr h.2⟩

theorem mem_appendAuthorizedKey_of_mem (h : existing ∈ lines) :
    existing ∈ appendAuthorizedKey line lines := by
  unfold appendAuthorizedKey
  split_ifs
  · exact h
  · exact List.mem_append_left _ h

theorem mem_replaceAuthorizedKey_of_mem (h : existing ∈ lines)
    (hold : authorizedKeyBlob oldPublicKey = [] ∨ existing.blob ≠ authorizedKeyBlob oldPublicKey)
    (hnew : line.blob = [] ∨ existing.blob ≠ line.blob) :
    existing ∈ replaceAuthorizedKeyForPublicKey oldPublicKey line lines := by
  refine List.mem_append_left _ (List.mem_filter.2 ⟨h, ?_⟩)
  rcases hold with hold | hold <;> rcases hnew with hnew | hnew <;> simp [hold, hnew]

theorem mem_removeAuthorizedKey_of_mem (h : existing ∈ lines)
    (hkey : authorizedKeyBlob publicKey = [] ∨ existing.blob ≠ authorizedKeyBlob publicKey) :
    existing ∈ removeAuthorizedKeyForPublicKey publicKey lines := by
  simp only [removeAuthorizedKeyForPublicKey]
  split_ifs with hblob
  · exact h
  · rw [List.isEmpty_iff] at hblob
    refine List.mem_filter.2 ⟨h, ?_⟩
    simpa using hkey.resolve_left hblob

/-! ## The digest a login presents -/

def knownSSHKeyTypes : List Text :=
  [authenticationKeyType, "ssh-ed25519".toList, "ssh-rsa".toList, "ecdsa-sha2-nistp256".toList,
    "ecdsa-sha2-nistp384".toList, "ecdsa-sha2-nistp521".toList]

/-- The scanner of `splitAuthorizedKeyFieldsStrict`: blanks separate fields outside
double quotes, and a backslash inside quotes escapes the next character. -/
def splitAuthorizedKeyFieldsFrom (current : Text) (inQuote escaped : Bool) :
    Text → Except Err (List Text)
  | [] =>
    if inQuote || escaped then .error (.plain "unterminated quoted authorized_keys field")
    else .ok (if current.isEmpty then [] else [current.reverse])
  | c :: rest =>
    if escaped then splitAuthorizedKeyFieldsFrom (c :: current) inQuote false rest
    else if c == '\\' && inQuote then
      splitAuthorizedKeyFieldsFrom (c :: current) inQuote true rest
    else if c == '"' then splitAuthorizedKeyFieldsFrom (c :: current) (!inQuote) false rest
    else if (c == ' ' || c == '\t') && !inQuote then
      if current.isEmpty then splitAuthorizedKeyFieldsFrom [] inQuote false rest
      else (splitAuthorizedKeyFieldsFrom [] inQuote false rest).map (current.reverse :: ·)
    else splitAuthorizedKeyFieldsFrom (c :: current) inQuote false rest

def splitAuthorizedKeyFieldsStrict (line : Text) : Except Err (List Text) :=
  splitAuthorizedKeyFieldsFrom [] false false line

/-- `KeyBlobDigest`: the digest of the decoded blob after the first known key type. -/
def keyBlobDigest (env : Env) (publicKey : Text) : Except Err Text := do
  let parts ← splitAuthorizedKeyFieldsStrict (trimSpace publicKey)
  match parts.dropWhile fun field => !knownSSHKeyTypes.contains field with
  | _ :: encoded :: _ =>
    match env.decodeBase64 encoded with
    | some raw => pure (env.sha256 raw)
    | none => throw (.plain "illegal base64 data")
  | _ => throw (.plain "public key is unparsable")

end WarpTweet
