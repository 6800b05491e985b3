import MatterKit.Msg.Security

/-!
# What was protected is unprotected

`protect` encodes a header, encrypts under it and obfuscates part of it; `unprotect` has to undo the
obfuscation before it can parse the header, and from the octets it has parsed it rebuilds the nonce. The
two agree because the octets the decoder accepts say of themselves what they are
(`MessageHeader.decode_eq_ok_iff`).

`receive_eq` is the common half: what `unprotect` does with a message that was put together from some
header octets, a body and a tag. From it come the round trip (`unprotect_protect`) and, for the messages
of any sender that keeps to the message format, when the payload is recovered
(`unprotect_sealMessage_iff`).
-/

namespace MatterKit

open Lib Cursor

/-! ## What a reader accepts -/

namespace Cursor

variable {t : ErrorCode} {buf r : List UInt8}

lemma readLe_eq_ok_iff {n v : ℕ} : readLe t n buf = .ok (v, r) ↔ v < 256 ^ n ∧ buf = leBytes n v ++ r := by
  constructor
  · intro h
    obtain ⟨⟨b, r'⟩, htake, h⟩ := bind_eq_ok.mp h
    cases h
    obtain ⟨rfl, rfl⟩ := take_eq_ok_iff.mp htake
    exact ⟨ofLe_lt b, by rw [leBytes_ofLe]⟩
  · rintro ⟨hv, rfl⟩
    exact readLe_append t hv r

lemma readU16_eq_ok {v : UInt16} (h : readU16 t buf = .ok (v, r)) : buf = leU16 v ++ r := by
  obtain ⟨⟨n, r'⟩, hread, h⟩ := bind_eq_ok.mp h
  cases h
  obtain ⟨hn, rfl⟩ := readLe_eq_ok_iff.mp hread
  rw [leU16, UInt16.toNat_ofNat_of_lt' (by simpa using hn)]

lemma readU32_eq_ok {v : UInt32} (h : readU32 t buf = .ok (v, r)) : buf = leU32 v ++ r := by
  obtain ⟨⟨n, r'⟩, hread, h⟩ := bind_eq_ok.mp h
  cases h
  obtain ⟨hn, rfl⟩ := readLe_eq_ok_iff.mp hread
  rw [leU32, UInt32.toNat_ofNat_of_lt' (by simpa using hn)]

lemma readU64_eq_ok {v : UInt64} (h : readU64 t buf = .ok (v, r)) : buf = leU64 v ++ r := by
  obtain ⟨⟨n, r'⟩, hread, h⟩ := bind_eq_ok.mp h
  cases h
  obtain ⟨hn, rfl⟩ := readLe_eq_ok_iff.mp hread
  rw [leU64, UInt64.toNat_ofNat_of_lt' (by simpa using hn)]

end Cursor

/-- What holds of the 256 octets holds of every octet. -/
lemma octet_cases {P : UInt8 → Prop} (h : ∀ n : Fin 256, P (UInt8.ofNat n)) (b : UInt8) : P b := by
  have hb := h ⟨b.toNat, b.toNat_lt⟩
  simpa using hb

lemma and_four_ne_zero_iff (flags : UInt8) : flags &&& 4 ≠ 0 ↔ containsFlag flags 4 = true :=
  octet_cases (P := fun f => f &&& 4 ≠ 0 ↔ containsFlag f 4 = true) (by decide +kernel) flags

lemma SessionType.bits_of_fromBits {octet : UInt8} {t : SessionType}
    (h : SessionType.fromBits octet = .ok t) : t.bits = octet &&& 3 := by
  unfold SessionType.fromBits at h
  split at h
  · rename_i h₀
    cases h
    exact h₀.symm
  · split at h
    · rename_i h₁
      cases h
      exact h₁.symm
    · cases h

namespace MessageHeader

/-- A Message Extensions block: nothing without the flag, and with it a length and that many octets. -/
def Extensions (bits flag : UInt8) (ext : List UInt8) : Prop :=
  if containsFlag bits flag then
    ∃ (len : UInt16) (block : List UInt8), ext = leU16 len ++ block ∧ block.length = len.toNat
  else ext = []

variable {buf r : List UInt8} {flags security : UInt8} {header : MessageHeader}

lemma skipExtensions_eq_ok_iff {bits flag : UInt8} :
    skipExtensions bits flag buf = .ok r ↔ ∃ ext, Extensions bits flag ext ∧ buf = ext ++ r := by
  unfold skipExtensions Extensions
  split
  · constructor
    · intro h
      obtain ⟨⟨len, r'⟩, hlen, h⟩ := bind_eq_ok.mp h
      obtain ⟨⟨block, r''⟩, hblock, h⟩ := bind_eq_ok.mp h
      cases h
      obtain ⟨hr', hlength⟩ := take_eq_ok_iff.mp hblock
      refine ⟨leU16 len ++ block, ⟨len, block, rfl, hlength⟩, ?_⟩
      rw [List.append_assoc, ← hr']
      exact readU16_eq_ok hlen
    · rintro ⟨ext, ⟨len, block, rfl, hlength⟩, rfl⟩
      simp [skip, take_append hlength]
  · constructor
    · intro h
      cases h
      exact ⟨[], rfl, rfl⟩
    · rintro ⟨ext, rfl, rfl⟩
      rfl

lemma decodeSource_eq_ok (header : MessageHeader) (h : decodeSource flags buf = .ok (header.source, r)) :
    containsFlag flags 4 = header.source.isSome ∧ buf = header.sourceField ++ r := by
  unfold decodeSource at h
  split at h
  · rename_i hflag
    obtain ⟨⟨id, r'⟩, hid, h⟩ := bind_eq_ok.mp h
    obtain ⟨hsource, rfl⟩ := Prod.mk.inj (Except.ok.inj h)
    rw [sourceField, ← hsource]
    exact ⟨hflag, readU64_eq_ok hid⟩
  · rename_i hflag
    obtain ⟨hsource, rfl⟩ := Prod.mk.inj (Except.ok.inj h)
    rw [sourceField, ← hsource]
    exact ⟨by simpa using hflag, rfl⟩

lemma decodeDestination_eq_ok (header : MessageHeader)
    (h : decodeDestination flags buf = .ok (header.destination, r)) :
    flags &&& 3 = header.destination.dsiz ∧ buf = header.destinationField ++ r := by
  unfold decodeDestination at h
  by_cases h₀ : flags &&& 3 = 0
  · rw [if_pos h₀] at h
    obtain ⟨hdestination, rfl⟩ := Prod.mk.inj (Except.ok.inj h)
    rw [destinationField, ← hdestination]
    exact ⟨h₀, rfl⟩
  · rw [if_neg h₀] at h
    by_cases h₁ : flags &&& 3 = 1
    · rw [if_pos h₁] at h
      obtain ⟨⟨id, r'⟩, hid, h⟩ := bind_eq_ok.mp h
      obtain ⟨hdestination, rfl⟩ := Prod.mk.inj (Except.ok.inj h)
      rw [destinationField, ← hdestination]
      exact ⟨h₁, readU64_eq_ok hid⟩
    · rw [if_neg h₁] at h
      by_cases h₂ : flags &&& 3 = 2
      · rw [if_pos h₂] at h
        obtain ⟨⟨id, r'⟩, hid, h⟩ := bind_eq_ok.mp h
        obtain ⟨hdestination, rfl⟩ := Prod.mk.inj (Except.ok.inj h)
        rw [destinationField, ← hdestination]
        exact ⟨h₂, readU16_eq_ok hid⟩
      · rw [if_neg h₂] at h
        cases h

/-- A Source Node ID field is read back under any flags that announce it. -/
lemma decodeSource_of (h : containsFlag flags 4 = header.source.isSome) (rest : List UInt8) :
    decodeSource flags (header.sourceField ++ rest) = .ok (header.source, rest) := by
  unfold decodeSource sourceField
  rw [h]
  cases header.source <;> simp

lemma decodeDestination_of (h : flags &&& 3 = header.destination.dsiz) (rest : List UInt8) :
    decodeDestination flags (header.destinationField ++ rest) = .ok (header.destination, rest) := by
  unfold decodeDestination destinationField
  rw [h]
  cases header.destination <;> simp [Destination.dsiz]

/-- The two flag octets that a header with these fields may be sent under. The reserved bits are free,
and so is the extensions flag. -/
structure SentUnder (header : MessageHeader) (flags security : UInt8) : Prop where
  version : flags >>> 4 = 0
  source : containsFlag flags 4 = header.source.isSome
  dsiz : flags &&& 3 = header.destination.dsiz
  sessionType : SessionType.fromBits security = .ok header.sessionType
  privacy : containsFlag security 0x80 = header.privacy
  control : containsFlag security 0x40 = header.control

/-- The four octets that are always in the clear. -/
def clear (header : MessageHeader) (flags security : UInt8) : List UInt8 :=
  leU8 flags ++ leU16 header.sessionId.val ++ leU8 security

/-- The fields that the privacy step covers. -/
def covered (header : MessageHeader) : List UInt8 :=
  leU32 header.messageCounter ++ header.sourceField ++ header.destinationField

@[simp] lemma length_clear (header : MessageHeader) (flags security : UInt8) :
    (header.clear flags security).length = 4 := by
  simp [clear]

lemma length_covered (header : MessageHeader) : header.covered.length = privacyLen header := by
  simp [covered, privacyLen, Nat.add_assoc]

/-- **What the decoder accepts**: the fields of the header it returns, under some flags, and an
extensions block if these announce one. What follows is left as it is. -/
lemma decode_eq_ok_iff {buf rest : List UInt8} :
    decode buf = .ok (header, rest) ↔ ∃ flags security ext, header.SentUnder flags security ∧
      Extensions security 0x20 ext ∧ buf = header.clear flags security ++ header.covered ++ (ext ++ rest) := by
  constructor
  · intro h
    obtain ⟨⟨flags, r₁⟩, h₁, h⟩ := bind_eq_ok.mp h
    obtain ⟨_, hversion, h⟩ := bind_eq_ok.mp h
    obtain ⟨⟨sid, r₂⟩, h₂, h⟩ := bind_eq_ok.mp h
    obtain ⟨⟨security, r₃⟩, h₃, h⟩ := bind_eq_ok.mp h
    obtain ⟨sessionType, htype, h⟩ := bind_eq_ok.mp h
    obtain ⟨⟨counter, r₄⟩, h₄, h⟩ := bind_eq_ok.mp h
    obtain ⟨⟨source, r₅⟩, h₅, h⟩ := bind_eq_ok.mp h
    obtain ⟨⟨destination, r₆⟩, h₆, h⟩ := bind_eq_ok.mp h
    obtain ⟨r₇, h₇, h⟩ := bind_eq_ok.mp h
    obtain ⟨rfl, rfl⟩ := Prod.mk.inj (Except.ok.inj h)
    obtain ⟨hsource, rfl⟩ := decodeSource_eq_ok ⟨⟨sid⟩, sessionType,
      containsFlag security 0x80, containsFlag security 0x40, counter, source, destination⟩ h₅
    obtain ⟨hdsiz, rfl⟩ := decodeDestination_eq_ok ⟨⟨sid⟩, sessionType,
      containsFlag security 0x80, containsFlag security 0x40, counter, source, destination⟩ h₆
    obtain ⟨ext, hext, rfl⟩ := skipExtensions_eq_ok_iff.mp h₇
    obtain rfl := readU32_eq_ok h₄
    obtain rfl := readU8_eq_ok_iff.mp h₃
    obtain rfl := readU16_eq_ok h₂
    obtain rfl := readU8_eq_ok_iff.mp h₁
    refine ⟨flags, security, ext,
      ⟨ensure_eq_ok.mp hversion, hsource, hdsiz, htype, rfl, rfl⟩, hext, ?_⟩
    simp [clear, covered, leU8, leBytes]
  · rintro ⟨flags, security, ext, hsent, hext, rfl⟩
    have hskip : skipExtensions security 0x20 (ext ++ rest) = .ok rest :=
      skipExtensions_eq_ok_iff.mpr ⟨ext, hext, rfl⟩
    simp [clear, covered, decode, hsent.version, hsent.sessionType, hsent.privacy, hsent.control,
      decodeSource_of hsent.source, decodeDestination_of hsent.dsiz, hskip]

/-- Where a header ends does not depend on what follows it. -/
lemma decode_append {buf rest : List UInt8} (h : decode buf = .ok (header, rest))
    (more : List UInt8) : decode (buf ++ more) = .ok (header, rest ++ more) := by
  obtain ⟨flags, security, ext, hsent, hext, rfl⟩ := decode_eq_ok_iff.mp h
  exact decode_eq_ok_iff.mpr ⟨flags, security, ext, hsent, hext, by simp only [List.append_assoc]⟩

/-- The Message Flags octet alone gives the length of what the privacy step covers. -/
lemma SentUnder.privacyLenFromFlags_eq (h : header.SentUnder flags security) :
    privacyLenFromFlags flags = .ok (privacyLen header) := by
  have hsource : (if flags &&& 4 ≠ 0 then 8 else 0) = header.sourceField.length := by
    rw [sourceField]
    have hflag := and_four_ne_zero_iff flags
    rw [h.source] at hflag
    cases hid : header.source <;> simp_all
  unfold privacyLenFromFlags
  rw [hsource, h.dsiz, privacyLen, destinationField]
  cases header.destination <;> simp [Destination.dsiz]

/-- The octet is rebuilt from the session type and two flags, and the rest of it is lost. -/
lemma SentUnder.securityFlags_eq_iff (h : header.SentUnder flags security) :
    header.securityFlags = security ↔ security &&& 0x3C = 0 := by
  rw [securityFlags, SessionType.bits_of_fromBits h.sessionType, ← h.privacy, ← h.control]
  exact octet_cases (P := fun s => (s &&& 3) ||| (if containsFlag s 0x80 then 0x80 else 0) |||
    (if containsFlag s 0x40 then 0x40 else 0) = s ↔ s &&& 0x3C = 0) (by decide +kernel) security

lemma Extensions.eq_nil {ext : List UInt8} (hext : Extensions security 0x20 ext)
    (hbits : security &&& 0x3C = 0) : ext = [] := by
  have hflag : containsFlag security 0x20 = false :=
    octet_cases (P := fun s => s &&& 0x3C = 0 → containsFlag s 0x20 = false)
      (by decide +kernel) security hbits
  rw [Extensions, hflag] at hext
  exact hext

end MessageHeader

/-! ## The privacy step -/

section Privacy

variable {c : Crypto}

/-- A header's octets, or any others, under the keystream. -/
def masked (c : Crypto) (key : SymmetricKey) (n region : List UInt8) : List UInt8 :=
  region.mapIdx fun i b => b ^^^ keystream c key n i

@[simp] lemma length_masked (key : SymmetricKey) (n region : List UInt8) :
    (masked c key n region).length = region.length := List.length_mapIdx

/-- **The privacy step is its own inverse**, as long as the nonce is the same. -/
lemma masked_masked (key : SymmetricKey) (n region : List UInt8) :
    masked c key n (masked c key n region) = region := by
  rw [masked, masked, List.mapIdx_mapIdx]
  apply List.ext_getElem
  · rw [List.length_mapIdx]
  · intro i _ _
    rw [List.getElem_mapIdx, Function.comp, UInt8.xor_assoc, UInt8.xor_self, UInt8.xor_zero]

/-- The privacy step on a message that has the octets it covers. -/
lemma xorHeader_append (key : SymmetricKey) (n : List UInt8) (e : ErrorCode)
    {front region rest : List UInt8} (hfront : front.length = 4) (hregion : region.length ≤ 20) :
    xorHeader c key n region.length e (front ++ region ++ rest) =
      .ok (front ++ masked c key n region ++ rest) := by
  have hfits : privacyOffset + region.length ≤ (front ++ region ++ rest).length := by
    simp [privacyOffset, hfront]
  have hhead : (front ++ region ++ rest).take privacyOffset = front := by
    rw [List.append_assoc]
    exact List.take_left' hfront
  have hdrop : (front ++ region ++ rest).drop privacyOffset = region ++ rest := by
    rw [List.append_assoc]
    exact List.drop_left' hfront
  have hcover : ((front ++ region ++ rest).drop privacyOffset).take region.length = region := by
    rw [hdrop, List.take_left]
  have htail : (front ++ region ++ rest).drop (privacyOffset + region.length) = rest := by
    rw [← List.drop_drop, hdrop, List.drop_left]
  have hblocks : (region.length + 15) / 16 ≤ 65536 := by omega
  rw [xorHeader, ensure_of hfits, hcover, hhead, htail, privacyXor, ensure_of hblocks]
  rfl

lemma MessageHeader.length_covered_le (header : MessageHeader) : header.covered.length ≤ 20 := by
  have hsource : header.sourceField.length ≤ 8 := by
    unfold sourceField
    cases header.source <;> simp
  have hdestination : header.destinationField.length ≤ 8 := by
    unfold destinationField
    cases header.destination <;> simp
  simp only [covered, List.length_append, length_leU32]
  omega

end Privacy

/-! ## Receiving what was put together -/

/-- The last step of a sender: the obfuscation that the header asks for.
Source: `msg/security.rs`, `protect`, the `privacy` branch. -/
def conceal (c : Crypto) (keys : SessionKeys) (header : MessageHeader) (tag message : List UInt8) :
    Except ErrorCode (List UInt8) :=
  if header.privacy then
    xorHeader c keys.privacy (privacyNonce header.sessionId tag) (privacyLen header)
      .bufferTooSmall message
  else pure message

section Receive

variable {c : Crypto} {keys : SessionKeys} {header : MessageHeader}
  {hdr body tag message : List UInt8}

lemma drop_mic (htag : tag.length = 16) (front : List UInt8) :
    (front ++ tag).drop ((front ++ tag).length - micLength) = tag := by
  apply List.drop_left'
  simp only [List.length_append, htag, micLength]
  omega

/-- What was concealed is in the clear again before the header is parsed. -/
lemma deobfuscate_conceal (hdecode : MessageHeader.decode hdr = .ok (header, []))
    (htag : tag.length = 16) (h : conceal c keys header tag (hdr ++ body ++ tag) = .ok message) :
    preview message = .ok ⟨header.sessionId, header.sessionType, header.privacy, header.control⟩ ∧
      deobfuscate c keys.privacy
        ⟨header.sessionId, header.sessionType, header.privacy, header.control⟩ message =
          .ok (hdr ++ body ++ tag) := by
  have hmore := MessageHeader.decode_append hdecode (body ++ tag)
  rw [← List.append_assoc] at hmore
  have hpreview := preview_of_decode hmore
  unfold conceal at h
  by_cases hprivacy : header.privacy = true
  · obtain ⟨flags, security, ext, hsent, -, rfl⟩ := MessageHeader.decode_eq_ok_iff.mp hdecode
    have hshape : header.clear flags security ++ header.covered ++ (ext ++ []) ++ body ++ tag =
        header.clear flags security ++ header.covered ++ (ext ++ body ++ tag) := by
      simp only [List.append_assoc, List.nil_append]
    rw [hshape] at h hpreview ⊢
    rw [if_pos hprivacy, ← header.length_covered,
      xorHeader_append _ _ _ (header.length_clear _ _) header.length_covered_le] at h
    obtain rfl := Except.ok.inj h
    refine ⟨(preview_congr ?_).trans hpreview, ?_⟩
    · simp only [List.append_assoc, List.take_left' (header.length_clear _ _)]
    · have hmic : micLength ≤ (header.clear flags security ++
          masked c keys.privacy (privacyNonce header.sessionId tag) header.covered ++
          (ext ++ body ++ tag)).length := by
        simp only [List.length_append, htag, micLength]
        omega
      have hflags : (header.clear flags security ++
          masked c keys.privacy (privacyNonce header.sessionId tag) header.covered ++
          (ext ++ body ++ tag)).headD 0 = flags := by
        simp [MessageHeader.clear, leU8, leBytes]
      have htail := drop_mic htag (header.clear flags security ++
          masked c keys.privacy (privacyNonce header.sessionId tag) header.covered ++ (ext ++ body))
      rw [List.append_assoc _ (ext ++ body) tag] at htail
      rw [deobfuscate, if_pos hprivacy, ensure_of hmic, ok_bind, hflags,
        hsent.privacyLenFromFlags_eq, ok_bind, htail, ← header.length_covered,
        ← length_masked (c := c) keys.privacy (privacyNonce header.sessionId tag) header.covered,
        xorHeader_append _ _ _ (header.length_clear _ _)
          (by rw [length_masked]; exact header.length_covered_le), masked_masked]
  · rw [if_neg hprivacy] at h
    obtain rfl := Except.ok.inj h
    exact ⟨hpreview, by rw [deobfuscate, if_neg hprivacy]; rfl⟩

/-- Concealing a message with a whole header succeeds, and keeps its length. -/
lemma conceal_eq_ok (c : Crypto) (keys : SessionKeys)
    (hdecode : MessageHeader.decode hdr = .ok (header, [])) (tag more : List UInt8) :
    ∃ message, conceal c keys header tag (hdr ++ more) = .ok message ∧
      message.length = hdr.length + more.length := by
  unfold conceal
  by_cases hprivacy : header.privacy = true
  · obtain ⟨flags, security, ext, -, -, rfl⟩ := MessageHeader.decode_eq_ok_iff.mp hdecode
    rw [if_pos hprivacy, List.append_nil, List.append_assoc _ ext more, ← header.length_covered,
      xorHeader_append _ _ _ (header.length_clear _ _) header.length_covered_le]
    refine ⟨_, rfl, ?_⟩
    simp only [List.length_append, length_masked]
    omega
  · rw [if_neg hprivacy]
    exact ⟨_, rfl, List.length_append⟩

/-- What a receiver makes of a message with these header octets: the header, if it is short enough, and
the AEAD decides under the nonce that the header's fields give. -/
lemma unprotect_conceal {nonceSource : NonceSource} {source : NodeId}
    (hdecode : MessageHeader.decode hdr = .ok (header, []))
    (hsecured : header.isUnsecured = false) (haddressable : addressable header = true)
    (hsource : nonceSource.resolve header = .ok source) (htag : tag.length = 16)
    (h : conceal c keys header tag (hdr ++ body ++ tag) = .ok message) :
    unprotect c message keys nonceSource =
      if hdr.length ≤ maxHeader then
        (okOr (c.aeadDecrypt keys.encryption
          (nonce header.securityFlags header.messageCounter source) hdr body tag)
          .integrityCheckFailed).map (Prod.mk header)
      else .error .messageTruncated := by
  obtain ⟨hpreview, hclear⟩ := deobfuscate_conceal hdecode htag h
  have hmore := MessageHeader.decode_append hdecode (body ++ tag)
  rw [List.nil_append, ← List.append_assoc] at hmore
  have hlen : (hdr ++ body ++ tag).length - (body ++ tag).length = hdr.length := by
    simp only [List.length_append]
    omega
  have hmic : micLength ≤ (hdr ++ body ++ tag).length := by
    simp only [List.length_append, htag, micLength]
    omega
  have hstart : (hdr ++ body ++ tag).length - micLength = hdr.length + body.length := by
    simp only [List.length_append, htag, micLength]
    omega
  have haad : (hdr ++ body ++ tag).take hdr.length = hdr := by
    rw [List.append_assoc, List.take_left]
  have hbody : ((hdr ++ body ++ tag).drop hdr.length).take
      (hdr.length + body.length - hdr.length) = body := by
    rw [List.append_assoc, List.drop_left, Nat.add_sub_cancel_left, List.take_left]
  have htail : (hdr ++ body ++ tag).drop (hdr.length + body.length) = tag := by
    rw [← List.length_append, List.drop_left]
  unfold unprotect
  rw [hpreview, ok_bind, hclear, ok_bind, hmore, ok_bind]
  simp only [hsecured, haddressable, hlen, ensure_of, ok_bind]
  split
  · rename_i hshort
    rw [ensure_of hshort, ok_bind, ensure_of hmic, ok_bind, hstart,
      ensure_of (Nat.le_add_right _ _), ok_bind, hsource, ok_bind, haad, hbody, htail]
    cases c.aeadDecrypt keys.encryption (nonce header.securityFlags header.messageCounter source)
      hdr body tag <;> rfl
  · rename_i hlong
    rw [ensure, if_neg hlong]
    rfl

end Receive

/-! ## The round trip -/

/-- An AEAD that opens what it has sealed. -/
def Crypto.Opens (c : Crypto) : Prop :=
  ∀ {key nonce aad plaintext ciphertext tag},
    c.aeadEncrypt key nonce aad plaintext = some (ciphertext, tag) →
      c.aeadDecrypt key nonce aad ciphertext tag = some plaintext

section RoundTrip

variable {c : Crypto} {header : MessageHeader} {keys : SessionKeys} {nonceSource : NonceSource}
  {payload : List UInt8} {capacity : ℕ}

lemma MessageHeader.octets_eq (header : MessageHeader) :
    header.octets = header.clear header.flags header.securityFlags ++ header.covered := by
  simp [octets, fields, clear, covered]

lemma MessageHeader.length_octets_le_maxHeader (header : MessageHeader) :
    header.octets.length ≤ maxHeader := by
  have hcovered := header.length_covered_le
  rw [octets_eq, List.length_append, length_clear, maxHeader]
  omega

/-- Where a nonce takes its node id from, there is one. -/
lemma exists_resolve (h : nonceSource = .group → header.source.isSome) :
    ∃ source, nonceSource.resolve header = .ok source := by
  cases nonceSource with
  | paseSession => exact ⟨_, rfl⟩
  | caseSession id => exact ⟨id, rfl⟩
  | group =>
    obtain ⟨id, hid⟩ := Option.isSome_iff_exists.mp (h rfl)
    exact ⟨id, by rw [NonceSource.resolve, hid]; rfl⟩

/-- With everything in place, `protect` encrypts under the octets of the header and conceals. -/
lemma protect_eq {source : NodeId} {ciphertext tag : List UInt8}
    (hsecured : header.isUnsecured = false) (haddressable : addressable header = true)
    (hsource : nonceSource.resolve header = .ok source)
    (hfits : header.octets.length + payload.length + micLength ≤ capacity)
    (hencrypt : c.aeadEncrypt keys.encryption
      (nonce header.securityFlags header.messageCounter source) header.octets payload =
        some (ciphertext, tag)) : protect c header nonceSource payload keys capacity =
      conceal c keys header tag (header.octets ++ ciphertext ++ tag) := by
  have hgroup : ¬ (header.sessionType = .group ∧ header.source = none) := by
    rintro ⟨htype, hnone⟩
    rw [addressable, htype, hnone] at haddressable
    cases hd : header.destination <;> simp [hd] at haddressable
  have hheader : header.octets.length ≤ capacity := by omega
  have hcall : protectCall header nonceSource payload keys capacity =
      .ok ⟨keys.encryption, nonce header.securityFlags header.messageCounter source,
        header.octets, payload⟩ := by
    rw [protectCall, ensure_of hsecured, ok_bind, ensure_of hgroup, ok_bind,
      MessageHeader.encode_eq, if_pos hheader, ok_bind, hsource, ok_bind,
      ensure_of header.length_octets_le_maxHeader, ok_bind, ensure_of (by omega), ok_bind]
    rfl
  rw [protect, hcall, ok_bind, hencrypt, okOr_some, ok_bind, ensure_of hfits]
  rfl

/-- **Unprotecting inverts protecting**: a header that is not the unsecured one and that its session type
allows, and that has a source where the nonce needs one, comes back with exactly the payload, whatever
the flags, the keys and the rest of the header. -/
theorem unprotect_protect (hopens : c.Opens)
    (hsecured : header.isUnsecured = false) (haddressable : addressable header = true)
    (hsource : nonceSource = .group → header.source.isSome)
    (hseals : ∀ n aad, n.length = 13 → aad.length ≤ maxHeader →
      (c.aeadEncrypt keys.encryption n aad payload).isSome)
    (hfits : header.octets.length + payload.length + micLength ≤ capacity) :
    ∃ message, protect c header nonceSource payload keys capacity = .ok message ∧
      message.length = header.octets.length + payload.length + micLength ∧
      unprotect c message keys nonceSource = .ok (header, payload) := by
  obtain ⟨source, hsource⟩ := exists_resolve hsource
  have hnonce : (nonce header.securityFlags header.messageCounter source).length = 13 := by
    simp [nonce]
  obtain ⟨⟨ciphertext, tag⟩, hencrypt⟩ := Option.isSome_iff_exists.mp
    (hseals _ _ hnonce header.length_octets_le_maxHeader)
  obtain ⟨hciphertext, htag⟩ := c.length_encrypt hencrypt
  have hdecode : MessageHeader.decode header.octets = .ok (header, []) := by
    simpa using MessageHeader.decode_octets_append header []
  obtain ⟨message, hmessage, hlength⟩ :=
    conceal_eq_ok c keys hdecode tag (ciphertext ++ tag)
  rw [← List.append_assoc] at hmessage
  refine ⟨message, ?_, ?_, ?_⟩
  · rw [protect_eq hsecured haddressable hsource hfits hencrypt]
    exact hmessage
  · rw [hlength, List.length_append, hciphertext, htag, micLength, Nat.add_assoc]
  · rw [unprotect_conceal hdecode hsecured haddressable hsource htag hmessage,
      if_pos header.length_octets_le_maxHeader, hopens hencrypt]
    rfl

/-- The round trip of a message that is obfuscated, between two ends of a session. -/
theorem unprotect_protect_private : ∃ message, protect Crypto.tagByKey
        { sessionId := ⟨7⟩, privacy := true, messageCounter := 42, destination := .node ⟨9⟩ }
        (.caseSession ⟨5⟩) [1, 2, 3] ⟨⟨.replicate 16 1⟩, ⟨.replicate 16 2⟩⟩ 64 = .ok message ∧
      message.length = 35 ∧
      unprotect Crypto.tagByKey message ⟨⟨.replicate 16 1⟩, ⟨.replicate 16 2⟩⟩ (.caseSession ⟨5⟩) =
        .ok ({ sessionId := ⟨7⟩, privacy := true, messageCounter := 42, destination := .node ⟨9⟩ },
          [1, 2, 3]) := by
  refine unprotect_protect ?_ rfl rfl ?_ ?_ (by decide)
  · intro key nonce aad plaintext ciphertext tag h
    cases h
    exact if_pos rfl
  · intro h
    cases h
  · intro n aad _ _
    rfl

/-- Without a source in the header, a group nonce cannot be built for a unicast message, and nothing is
sent. -/
theorem not_protect_without_source :
    ¬ ∀ (c : Crypto) (header : MessageHeader) (nonceSource : NonceSource) (payload : List UInt8)
      (keys : SessionKeys) (capacity : ℕ), c.Opens → header.isUnsecured = false →
      addressable header = true → (∀ n aad, n.length = 13 → aad.length ≤ maxHeader →
        (c.aeadEncrypt keys.encryption n aad payload).isSome) →
      header.octets.length + payload.length + micLength ≤ capacity →
      ∃ message, protect c header nonceSource payload keys capacity = .ok message := by
  intro h
  obtain ⟨message, hmessage⟩ := h Crypto.tagByKey { sessionId := ⟨7⟩ } .group []
    ⟨⟨.replicate 16 1⟩, ⟨.replicate 16 2⟩⟩ 64
    (by
      intro key nonce aad plaintext ciphertext tag h
      cases h
      exact if_pos rfl)
    rfl rfl (by intro n aad _ _; rfl) (by decide)
  have hrefused : protect Crypto.tagByKey { sessionId := ⟨7⟩ } .group []
      ⟨⟨.replicate 16 1⟩, ⟨.replicate 16 2⟩⟩ 64 = .error .messageReserved := rfl
  rw [hrefused] at hmessage
  cases hmessage

end RoundTrip

/-! ## Messages of other senders -/

/-- What a sender that follows the message format puts on the wire for header octets `hdr` that read as
`header`: they are the associated data as they are, and the nonce starts with the Security Flags octet
as it is transmitted, whatever bits it holds. -/
def sealMessage (c : Crypto) (hdr : List UInt8) (header : MessageHeader) (nonceSource : NonceSource)
    (payload : List UInt8) (keys : SessionKeys) : Except ErrorCode (List UInt8) := do
  let source ← nonceSource.resolve header
  let (ciphertext, tag) ← okOr (c.aeadEncrypt keys.encryption
    (nonce (hdr.getD 3 0) header.messageCounter source) hdr payload) .integrityCheckFailed
  conceal c keys header tag (hdr ++ ciphertext ++ tag)

/-- An AEAD that opens what it has sealed, and under no other nonce. -/
structure Crypto.BindsNonce (c : Crypto) : Prop where
  opens : c.Opens
  refuses : ∀ {key nonce aad plaintext ciphertext tag nonce' aad' plaintext'},
    c.aeadEncrypt key nonce aad plaintext = some (ciphertext, tag) →
      c.aeadDecrypt key nonce' aad' ciphertext tag = some plaintext' → nonce' = nonce

/-- Primitives for concrete runs that bind the nonce: it is the tag, padded. -/
def Crypto.tagByNonce : Crypto where
  aeadEncrypt := fun _ nonce _ plaintext =>
    if nonce.length = 13 then some (plaintext, nonce ++ [0, 0, 0]) else none
  aeadDecrypt := fun _ nonce _ ciphertext tag =>
    if tag = nonce ++ [0, 0, 0] then some ciphertext else none
  encryptBlock := fun key _ => key.bytes.toList
  length_encrypt := by
    intro key nonce aad plaintext ciphertext tag h
    split at h
    · rename_i hlen
      cases h
      exact ⟨rfl, by rw [List.length_append, hlen]; rfl⟩
    · cases h
  length_decrypt := by
    intro key nonce aad ciphertext tag plaintext h
    split at h
    · cases h
      rfl
    · cases h

lemma Crypto.bindsNonce_tagByNonce : Crypto.tagByNonce.BindsNonce where
  opens := by
    intro key nonce aad plaintext ciphertext tag h
    unfold tagByNonce at h
    dsimp only at h
    split at h
    · cases h
      exact if_pos rfl
    · cases h
  refuses := by
    intro key nonce aad plaintext ciphertext tag nonce' aad' plaintext' h h'
    unfold tagByNonce at h h'
    dsimp only at h h'
    split at h
    · cases h
      split at h'
      · rename_i heq
        exact (List.append_cancel_right heq).symm
      · cases h'
    · cases h

section Extensions

variable {c : Crypto} {header : MessageHeader} {keys : SessionKeys} {nonceSource : NonceSource}
  {hdr payload message : List UInt8}

/-- **What a sender has sealed is recovered exactly if its Security Flags octet holds nothing but the
session type and the privacy and control flags**: no extensions flag, and no reserved bit. -/
theorem unprotect_sealMessage_iff (haead : c.BindsNonce)
    (hdecode : MessageHeader.decode hdr = .ok (header, []))
    (hsecured : header.isUnsecured = false) (haddressable : addressable header = true)
    (hseal : sealMessage c hdr header nonceSource payload keys = .ok message) :
    (∃ header', unprotect c message keys nonceSource = .ok (header', payload)) ↔
      hdr.getD 3 0 &&& 0x3C = 0 := by
  obtain ⟨source, hsource, hseal⟩ := bind_eq_ok.mp hseal
  obtain ⟨⟨ciphertext, tag⟩, hencrypt, hconceal⟩ := bind_eq_ok.mp hseal
  have hencrypt := okOr_eq_ok.mp hencrypt
  rw [unprotect_conceal hdecode hsecured haddressable hsource (c.length_encrypt hencrypt).2 hconceal]
  obtain ⟨flags, security, ext, hsent, hext, rfl⟩ := MessageHeader.decode_eq_ok_iff.mp hdecode
  have hoctet : (header.clear flags security ++ header.covered ++ (ext ++ [])).getD 3 0 =
      security := by
    simp [MessageHeader.clear, leU8, leU16, leBytes]
  rw [hoctet] at hencrypt ⊢
  rw [← hsent.securityFlags_eq_iff]
  constructor
  · rintro ⟨header', hrecovered⟩
    split at hrecovered
    · -- the AEAD has opened it, so the nonce was the one it was sealed under
      cases hopened : c.aeadDecrypt keys.encryption
          (nonce header.securityFlags header.messageCounter source)
          (header.clear flags security ++ header.covered ++ (ext ++ [])) ciphertext tag with
      | none =>
        rw [hopened] at hrecovered
        cases hrecovered
      | some plaintext =>
        have hnonce := haead.refuses hencrypt hopened
        simp only [nonce, List.append_assoc] at hnonce
        have hflags : leU8 header.securityFlags = leU8 security :=
          (List.append_inj hnonce (by simp)).1
        simpa [leU8, leBytes] using hflags
    · cases hrecovered
  · intro hflags
    have hnil := hext.eq_nil (hsent.securityFlags_eq_iff.mp hflags)
    have hshort : (header.clear flags security ++ header.covered ++ (ext ++ [])).length ≤
        maxHeader := by
      have hcovered := header.length_covered_le
      simp only [hnil, List.length_append, MessageHeader.length_clear, List.length_nil, maxHeader]
      omega
    rw [if_pos hshort, hflags, haead.opens hencrypt]
    exact ⟨header, rfl⟩

/-- A sealed message without extensions is recovered. -/
theorem unprotect_sealMessage_plain : (∃ header', unprotect Crypto.tagByNonce
      ([0, 7, 0, 0x40, 1, 0, 0, 0, 9, 8] ++ [0x40, 1, 0, 0, 0, 0, 0, 0, 0, 0, 0, 0, 0, 0, 0, 0])
      ⟨⟨.replicate 16 1⟩, ⟨.replicate 16 2⟩⟩ .paseSession = .ok (header', [9, 8])) ↔
      ([0, 7, 0, 0x40, 1, 0, 0, 0] : List UInt8).getD 3 0 &&& 0x3C = 0 := by
  have hdecode : MessageHeader.decode [0, 7, 0, 0x40, 1, 0, 0, 0] =
      .ok ({ sessionId := ⟨7⟩, control := true, messageCounter := 1 }, []) := rfl
  exact unprotect_sealMessage_iff Crypto.bindsNonce_tagByNonce hdecode rfl rfl rfl

/-- An extensions block of one octet, which the decoder steps over, makes the receiver rebuild another
nonce than the one the message was sealed under. -/
theorem not_unprotect_extensions :
    ¬ ∀ (c : Crypto) (hdr : List UInt8) (header : MessageHeader) (nonceSource : NonceSource)
      (payload : List UInt8) (keys : SessionKeys) (message : List UInt8), c.BindsNonce →
      MessageHeader.decode hdr = .ok (header, []) → header.isUnsecured = false →
      addressable header = true → sealMessage c hdr header nonceSource payload keys = .ok message →
      ∃ header', unprotect c message keys nonceSource = .ok (header', payload) := by
  intro h
  obtain ⟨header', hrecovered⟩ := h Crypto.tagByNonce
    [0, 7, 0, 0x20, 1, 0, 0, 0, 1, 0, 0xAA] { sessionId := ⟨7⟩, messageCounter := 1 } .paseSession
    [9, 8] ⟨⟨.replicate 16 1⟩, ⟨.replicate 16 2⟩⟩
    ([0, 7, 0, 0x20, 1, 0, 0, 0, 1, 0, 0xAA, 9, 8] ++
      [0x20, 1, 0, 0, 0, 0, 0, 0, 0, 0, 0, 0, 0, 0, 0, 0])
    Crypto.bindsNonce_tagByNonce rfl rfl rfl rfl
  have hrefused : unprotect Crypto.tagByNonce
      ([0, 7, 0, 0x20, 1, 0, 0, 0, 1, 0, 0xAA, 9, 8] ++
        [0x20, 1, 0, 0, 0, 0, 0, 0, 0, 0, 0, 0, 0, 0, 0, 0])
      ⟨⟨.replicate 16 1⟩, ⟨.replicate 16 2⟩⟩ .paseSession = .error .integrityCheckFailed := rfl
  rw [hrefused] at hrecovered
  cases hrecovered

end Extensions

end MatterKit
