import MatterKit.Msg.Header

/-!
# Encrypting and decrypting a message

`protect` and `unprotect` of `msg/security.rs`. The message header is the AEAD's associated data,
exactly as it is encoded; the payload is the plaintext; with the privacy flag the counter and the node
ids are obfuscated after encryption, under a nonce built from the tag.

The primitives are not part of the repository.

Results: the session id and session type that `preview` reads survive deobfuscation and header decoding
(`unprotect_preview`), and whatever `unprotect` accepts was accepted by the AEAD with the header octets
as associated data (`unprotect_eq_ok`).
-/

namespace MatterKit

open Lib Cursor

/-! ## Primitives -/

/-- A 128-bit key.
Source: `crypto/mod.rs`, `SymmetricKey`. -/
structure SymmetricKey where
  bytes : Vector UInt8 16
  deriving DecidableEq

/-- The primitives the message layer calls: AES-128-CCM with a 13-octet nonce and a 16-octet tag,
and the AES block function under the privacy mode.
Source: `crypto/rustcrypto.rs`, `aead_encrypt_in_place`, `aead_decrypt_in_place`, `privacy_xor`. -/
structure Crypto where
  aeadEncrypt : SymmetricKey → List UInt8 → List UInt8 → List UInt8 →
    Option (List UInt8 × List UInt8)
  aeadDecrypt : SymmetricKey → List UInt8 → List UInt8 → List UInt8 → List UInt8 →
    Option (List UInt8)
  encryptBlock : SymmetricKey → List UInt8 → List UInt8
  /-- Encryption is in place and the tag has a fixed length. -/
  length_encrypt : ∀ {key nonce aad plaintext ciphertext tag},
    aeadEncrypt key nonce aad plaintext = some (ciphertext, tag) →
      ciphertext.length = plaintext.length ∧ tag.length = 16
  /-- Decryption is in place. -/
  length_decrypt : ∀ {key nonce aad ciphertext tag plaintext},
    aeadDecrypt key nonce aad ciphertext tag = some plaintext →
      plaintext.length = ciphertext.length

/-- The arguments of one call of `aead_encrypt_in_place`. -/
structure AeadCall where
  key : SymmetricKey
  nonce : List UInt8
  aad : List UInt8
  plaintext : List UInt8
  deriving DecidableEq

variable (c : Crypto)

/-- The keystream octet at position `i`: counter blocks `0x01 || nonce || counter`, the counter
big-endian in two octets and starting at zero.
Source: `crypto/rustcrypto.rs`, `privacy_xor`. -/
def keystream (key : SymmetricKey) (nonce : List UInt8) (i : ℕ) : UInt8 :=
  let block := c.encryptBlock key (0x01 :: nonce ++ [UInt8.ofNat (i / 16 / 256), UInt8.ofNat (i / 16)])
  block.getD (i % 16) 0

/-- Source: `crypto/rustcrypto.rs`, `privacy_xor`. -/
def privacyXor (key : SymmetricKey) (nonce buffer : List UInt8) :
    Except ErrorCode (List UInt8) := do
  ensure ((buffer.length + 15) / 16 ≤ 65536) .invalidArgument
  pure (buffer.mapIdx fun i b => b ^^^ keystream c key nonce i)

/-! ## Keys and nonces -/

/-- Source: `SessionKeys`. -/
structure SessionKeys where
  encryption : SymmetricKey
  privacy : SymmetricKey
  deriving DecidableEq

/-- Where the Source Node ID in the AEAD nonce comes from.
Source: `NonceSource`. -/
inductive NonceSource
  | paseSession
  | caseSession (id : NodeId)
  | group

/-- Source: `NonceSource::resolve`. -/
def NonceSource.resolve (s : NonceSource) (header : MessageHeader) : Except ErrorCode NodeId :=
  match s with
  | .paseSession => .ok .unspecified
  | .caseSession id => .ok id
  | .group => okOr header.source .messageReserved

/-- `Security Flags || Message Counter || Source Node ID`.
Source: `nonce`. -/
def nonce (securityFlags : UInt8) (messageCounter : UInt32) (source : NodeId) : List UInt8 :=
  leU8 securityFlags ++ leU32 messageCounter ++ leU64 source.val

/-- `Session ID (big-endian) || MIC[5..16]`.
Source: `privacy_nonce`. -/
def privacyNonce (sessionId : SessionId) (mic : List UInt8) : List UInt8 :=
  (leU16 sessionId.val).reverse ++ (mic.drop 5).take 11

/-- The first octet the privacy step obfuscates.
Source: `PRIVACY_OFFSET`. -/
def privacyOffset : ℕ := 4

/-- The largest message header without extensions.
Source: `MAX_HEADER`. -/
def maxHeader : ℕ := 24

/-- Source: `crypto/mod.rs`, `AEAD_MIC_LENGTH_BYTES`. -/
def micLength : ℕ := 16

/-- How many header octets the privacy step obfuscates.
Source: `privacy_len`. -/
def privacyLen (header : MessageHeader) : ℕ :=
  4 + header.sourceField.length + header.destinationField.length

/-- The same length, from the Message Flags octet alone.
Source: `privacy_len_from_flags`. -/
def privacyLenFromFlags (flags : UInt8) : Except ErrorCode ℕ :=
  let source := if flags &&& 4 ≠ 0 then 8 else 0
  if flags &&& 3 = 0 then .ok (4 + source)
  else if flags &&& 3 = 1 then .ok (4 + source + 8)
  else if flags &&& 3 = 2 then .ok (4 + source + 2)
  else .error .messageReserved

/-- Applies the keystream to the `len` octets of `buf` that start at `privacyOffset`. -/
def xorHeader (key : SymmetricKey) (n : List UInt8) (len : ℕ) (e : ErrorCode)
    (buf : List UInt8) : Except ErrorCode (List UInt8) := do
  ensure (privacyOffset + len ≤ buf.length) e
  let region ← privacyXor c key n ((buf.drop privacyOffset).take len)
  pure (buf.take privacyOffset ++ region ++ buf.drop (privacyOffset + len))

/-! ## Protecting -/

/-- The AEAD call that `protect` makes, or the error that stops it first.
Source: `protect`, up to `aead_encrypt_in_place`. -/
def protectCall (header : MessageHeader) (nonceSource : NonceSource) (payload : List UInt8)
    (keys : SessionKeys) (capacity : ℕ) : Except ErrorCode AeadCall := do
  ensure (header.isUnsecured = false) .invalidState
  ensure (¬ (header.sessionType = .group ∧ header.source = none)) .messageReserved
  let aad ← header.encode capacity
  let source ← nonceSource.resolve header
  ensure (aad.length ≤ maxHeader) .bufferTooSmall
  ensure (aad.length + payload.length ≤ capacity) .bufferTooSmall
  pure { key := keys.encryption
         nonce := nonce header.securityFlags header.messageCounter source
         aad := aad
         plaintext := payload }

/-- Encrypts one message into a buffer of `capacity` octets: `header || ciphertext || MIC`.
Source: `protect`. -/
def protect (header : MessageHeader) (nonceSource : NonceSource) (payload : List UInt8)
    (keys : SessionKeys) (capacity : ℕ) : Except ErrorCode (List UInt8) := do
  let call ← protectCall header nonceSource payload keys capacity
  let (ciphertext, tag) ← okOr (c.aeadEncrypt call.key call.nonce call.aad call.plaintext)
    .integrityCheckFailed
  ensure (call.aad.length + payload.length + micLength ≤ capacity) .bufferTooSmall
  let message := call.aad ++ ciphertext ++ tag
  if header.privacy then
    xorHeader c keys.privacy (privacyNonce header.sessionId tag) (privacyLen header)
      .bufferTooSmall message
  else pure message

/-! ## Unprotecting -/

/-- What a receiver can read before it has found a key.
Source: `Preview`. -/
structure Preview where
  sessionId : SessionId
  sessionType : SessionType
  privacy : Bool
  control : Bool

/-- Reads the four octets of a message that are always in the clear.
Source: `preview`. -/
def preview (buf : List UInt8) : Except ErrorCode Preview :=
  match buf with
  | flags :: s₀ :: s₁ :: security :: _ => do
    ensure (flags >>> 4 = 0) .unsupportedVersion
    let sessionType ← SessionType.fromBits security
    pure { sessionId := ⟨UInt16.ofNat (ofLe [s₀, s₁])⟩
           sessionType := sessionType
           privacy := containsFlag security 0x80
           control := containsFlag security 0x40 }
  | _ => .error .messageTruncated

/-- Undoes the privacy step, which the Message Flags octet alone delimits, when the preview
announces it.
Source: `unprotect`, the `privacy` branch. -/
def deobfuscate (key : SymmetricKey) (head : Preview) (buf : List UInt8) :
    Except ErrorCode (List UInt8) :=
  if head.privacy then do
    ensure (micLength ≤ buf.length) .messageTruncated
    let obfuscated ← privacyLenFromFlags (buf.headD 0)
    xorHeader c key (privacyNonce head.sessionId (buf.drop (buf.length - micLength))) obfuscated
      .messageTruncated buf
  else pure buf

/-- The validity checks that depend on the session type: a unicast message is not addressed to a
group, a group message has a source and a destination.
Source: `unprotect`, the `session_type` match. -/
def addressable (header : MessageHeader) : Bool :=
  match header.sessionType, header.destination with
  | .unicast, .group _ => false
  | .unicast, _ => true
  | .group, .none => false
  | .group, _ => header.source.isSome

/-- Decrypts one message, returning its header and plaintext.
Source: `unprotect`. -/
def unprotect (buf : List UInt8) (keys : SessionKeys) (nonceSource : NonceSource) :
    Except ErrorCode (MessageHeader × List UInt8) := do
  let head ← preview buf
  let buf ← deobfuscate c keys.privacy head buf
  let (header, rest) ← MessageHeader.decode buf
  ensure (header.isUnsecured = false) .invalidState
  ensure (addressable header = true) .messageReserved
  let headerLen := buf.length - rest.length
  ensure (headerLen ≤ maxHeader) .messageTruncated
  ensure (micLength ≤ buf.length) .messageTruncated
  let micStart := buf.length - micLength
  ensure (headerLen ≤ micStart) .messageTruncated
  let source ← nonceSource.resolve header
  let plaintext ← okOr
    (c.aeadDecrypt keys.encryption (nonce header.securityFlags header.messageCounter source)
      (buf.take headerLen) ((buf.drop headerLen).take (micStart - headerLen))
      (buf.drop micStart)) .integrityCheckFailed
  pure (header, plaintext)

/-! ## What a receiver learns -/

variable {c}

/-- The clear octets are the first four. -/
lemma preview_congr {buf buf' : List UInt8} (h : buf.take 4 = buf'.take 4) :
    preview buf = preview buf' := by
  have key : ∀ l : List UInt8, preview l = preview (l.take 4) := by
    intro l
    match l with
    | [] => rfl
    | [_] => rfl
    | [_, _] => rfl
    | [_, _, _] => rfl
    | _ :: _ :: _ :: _ :: _ => rfl
  rw [key buf, key buf', h]

/-- The privacy step never touches the clear octets. -/
lemma take_four_of_deobfuscate {key : SymmetricKey} {head : Preview} {buf out : List UInt8}
    (h : deobfuscate c key head buf = .ok out) : out.take 4 = buf.take 4 := by
  unfold deobfuscate at h
  by_cases hp : head.privacy = true
  · rw [if_pos hp] at h
    obtain ⟨_, -, h⟩ := bind_eq_ok.mp h
    obtain ⟨len, -, h⟩ := bind_eq_ok.mp h
    unfold xorHeader at h
    obtain ⟨_, hlen, h⟩ := bind_eq_ok.mp h
    obtain ⟨region, -, h⟩ := bind_eq_ok.mp h
    have hfit : 4 ≤ buf.length := by
      have hle := ensure_eq_ok.mp hlen
      unfold privacyOffset at hle
      omega
    cases h
    rw [List.append_assoc, List.take_append_of_le_length (by simp [privacyOffset, hfit]), List.take_take]
    rfl
  · rw [if_neg hp] at h
    cases h
    rfl

variable {header : MessageHeader} {buf plaintext : List UInt8} {keys : SessionKeys}
  {nonceSource : NonceSource}

/-- The preview agrees with the header that is decoded from the same octets. -/
lemma preview_of_decode {buf rest : List UInt8} (h : MessageHeader.decode buf = .ok (header, rest)) :
    preview buf = .ok ⟨header.sessionId, header.sessionType, header.privacy, header.control⟩ := by
  unfold MessageHeader.decode at h
  obtain ⟨⟨flags, r₁⟩, h₁, h⟩ := bind_eq_ok.mp h
  obtain ⟨_, hversion, h⟩ := bind_eq_ok.mp h
  obtain ⟨⟨sid, r₂⟩, h₂, h⟩ := bind_eq_ok.mp h
  obtain ⟨⟨security, r₃⟩, h₃, h⟩ := bind_eq_ok.mp h
  obtain ⟨sessionType, htype, h⟩ := bind_eq_ok.mp h
  obtain ⟨⟨counter, r₄⟩, -, h⟩ := bind_eq_ok.mp h
  obtain ⟨⟨source, r₅⟩, -, h⟩ := bind_eq_ok.mp h
  obtain ⟨⟨destination, r₆⟩, -, h⟩ := bind_eq_ok.mp h
  obtain ⟨r₇, -, h⟩ := bind_eq_ok.mp h
  cases h
  obtain rfl := readU8_eq_ok_iff.mp h₁
  obtain ⟨s₀, s₁, rfl, rfl⟩ := readU16_eq_ok_iff.mp h₂
  obtain rfl := readU8_eq_ok_iff.mp h₃
  simp [preview, ensure_eq_ok.mp hversion, htype]

/-- What `unprotect` accepts: some octets, equal to the datagram outside the obfuscated region,
whose header decodes, is not the unsecured one, and is the associated data under which the AEAD
accepted the rest. -/
lemma unprotect_eq_ok (h : unprotect c buf keys nonceSource = .ok (header, plaintext)) :
    ∃ clear rest n body tag, clear.take 4 = buf.take 4 ∧
      MessageHeader.decode clear = .ok (header, rest) ∧ header.isUnsecured = false ∧
      c.aeadDecrypt keys.encryption n (clear.take (clear.length - rest.length)) body tag =
        some plaintext := by
  unfold unprotect at h
  obtain ⟨head, hhead, h⟩ := bind_eq_ok.mp h
  obtain ⟨clear, hclear, h⟩ := bind_eq_ok.mp h
  obtain ⟨⟨header', rest⟩, hdecode, h⟩ := bind_eq_ok.mp h
  obtain ⟨_, hunsec, h⟩ := bind_eq_ok.mp h
  obtain ⟨-, -, h⟩ := bind_eq_ok.mp h
  obtain ⟨-, -, h⟩ := bind_eq_ok.mp h
  obtain ⟨-, -, h⟩ := bind_eq_ok.mp h
  obtain ⟨-, -, h⟩ := bind_eq_ok.mp h
  obtain ⟨source, -, h⟩ := bind_eq_ok.mp h
  obtain ⟨plaintext', hdec, h⟩ := bind_eq_ok.mp h
  cases h
  exact ⟨clear, rest, _, _, _, take_four_of_deobfuscate hclear, hdecode,
    ensure_eq_ok.mp hunsec, okOr_eq_ok.mp hdec⟩

/-- The header `unprotect` returns has the session id and type that `preview` read. -/
lemma unprotect_preview (h : unprotect c buf keys nonceSource = .ok (header, plaintext)) :
    preview buf = .ok ⟨header.sessionId, header.sessionType, header.privacy, header.control⟩ := by
  obtain ⟨clear, rest, n, body, tag, hfour, hdecode, -, -⟩ := unprotect_eq_ok h
  rw [preview_congr hfour.symm]
  exact preview_of_decode hdecode

/-! ## A stand-in that runs -/

/-- Primitives for concrete runs: the ciphertext is the plaintext, the tag is the key, and the
keystream is the key. It decrypts what it encrypts, and refuses what carries another tag. -/
def Crypto.tagByKey : Crypto where
  aeadEncrypt := fun key _ _ plaintext => some (plaintext, key.bytes.toList)
  aeadDecrypt := fun key _ _ ciphertext tag =>
    if tag = key.bytes.toList then some ciphertext else none
  encryptBlock := fun key _ => key.bytes.toList
  length_encrypt := by
    intro key nonce aad plaintext ciphertext tag h
    simp only [Option.some.injEq, Prod.mk.injEq] at h
    obtain ⟨rfl, rfl⟩ := h
    simp
  length_decrypt := by
    intro key nonce aad ciphertext tag plaintext h
    split at h
    · simp only [Option.some.injEq] at h
      rw [h]
    · simp at h

end MatterKit
