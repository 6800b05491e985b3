import MatterKit.Group.Peers
import MatterKit.Msg.Protect

/-!
# Sending and receiving a group message

`group/wire.rs`: a group message names its key by 16 bits of a hash, so several installed keys can go by
the same name, and a receiver tries them in turn on a copy of the message. All of it is under the
privacy key, which is another for each candidate: what a wrong candidate finds under it is some header
of the same shape, and an ideal AEAD refuses what follows (`attempt_eq`).

`receive_iff_tried`: a message that `send` has protected under an installed key is received in that
key's name exactly if the first of the first eight candidates that have this key is of its fabric and
key set.
-/

namespace MatterKit

/-- An AEAD that is what its name says: it opens what it has sealed, and with no other key. -/
structure Crypto.Ideal (c : Crypto) : Prop where
  opens : ∀ {key nonce aad plaintext ciphertext tag},
    c.aeadEncrypt key nonce aad plaintext = some (ciphertext, tag) →
      c.aeadDecrypt key nonce aad ciphertext tag = some plaintext
  refuses : ∀ {key nonce aad plaintext ciphertext tag key' nonce' aad' plaintext'},
    c.aeadEncrypt key nonce aad plaintext = some (ciphertext, tag) →
      c.aeadDecrypt key' nonce' aad' ciphertext tag = some plaintext' → key' = key

namespace Group

open Lib Cursor

variable {K M D C : ℕ} {c : Crypto}

/-! ## Keys -/

/-- The octets of `"GroupKeyHash"`.
Source: `group/mod.rs`, `GROUP_KEY_HASH_INFO`. -/
def groupKeyHashInfo : List UInt8 :=
  [0x47, 0x72, 0x6f, 0x75, 0x70, 0x4b, 0x65, 0x79, 0x48, 0x61, 0x73, 0x68]

/-- The octets of `"PrivacyKey"`.
Source: `crypto/rustcrypto.rs`, `PRIVACY_KEY_INFO`. -/
def privacyKeyInfo : List UInt8 := [0x50, 0x72, 0x69, 0x76, 0x61, 0x63, 0x79, 0x4b, 0x65, 0x79]

/-- Two octets, most significant first.
Source: `group/mod.rs`, `session_id`. -/
def sessionId (kd : KeyDerivation) (operational : SymmetricKey) : Except ErrorCode UInt16 := do
  let hash ← kd.kdf operational.bytes.toList [] groupKeyHashInfo 2
  pure (UInt16.ofNat (ofLe hash.reverse))

/-- Source: `SessionKeys::from_encryption_key`. -/
def fromEncryptionKey (kd : KeyDerivation) (encryption : SymmetricKey) :
    Except ErrorCode SessionKeys := do
  let privacy ← kd.kdfKey encryption.bytes.toList [] privacyKeyInfo
  pure ⟨encryption, privacy⟩

/-- Source: `group/keys.rs`, `OperationalKey`. -/
structure OperationalKey where
  key : SymmetricKey
  keySet : KeySetId
  fabricIndex : FabricIndex
  policy : GroupKeySecurityPolicy
  sessionId : UInt16
  deriving DecidableEq

namespace GroupKeys

/-- Source: `GroupKeys::operational`. -/
def operational (kd : KeyDerivation) (set : GroupKeySet) (epoch : EpochKey)
    (compressed : CompressedFabricId) : Except ErrorCode OperationalKey := do
  let key ← kd.operationalGroupKey epoch.key compressed
  let id ← Group.sessionId kd key
  pure ⟨key, set.id, set.fabricIndex, set.policy, id⟩

/-- The operational keys of the enabled epoch keys of one key set, those that cannot be derived left out.
Source: `GroupKeys::receiving_keys`, the inner loop. -/
def operationals (kd : KeyDerivation) (compressed : FabricIndex → Option CompressedFabricId)
    (set : GroupKeySet) : List OperationalKey :=
  match compressed set.fabricIndex with
  | none => []
  | some compressed => (set.epochKeys.toList.filter EpochKey.isEnabled).filterMap fun epoch =>
    (operational kd set epoch compressed).toOption

/-- The operational keys of all key sets, in the order of the table. -/
def installed (t : GroupKeys K M) (kd : KeyDerivation)
    (compressed : FabricIndex → Option CompressedFabricId) : List OperationalKey :=
  t.sets.toList.flatMap (operationals kd compressed)

/-- The keys to try for a session id. The list is returned as it is when it is full.
Source: `GroupKeys::receiving_keys`. -/
def receivingKeys (t : GroupKeys K M) (kd : KeyDerivation)
    (compressed : FabricIndex → Option CompressedFabricId) (sessionId : UInt16) (capacity : ℕ) :
    List OperationalKey :=
  ((t.installed kd compressed).filter fun k => decide (k.sessionId = sessionId)).take capacity

end GroupKeys

/-! ## Sending -/

/-- Source: `join`. -/
def join (protocol : ProtocolHeader) (payload : List UInt8) (scratchLen : ℕ) :
    Except ErrorCode (List UInt8) := do
  let header ← protocol.encode scratchLen
  ensure (header.length + payload.length ≤ scratchLen) .bufferTooSmall
  pure (header ++ payload)

/-- Source: `Sender`. -/
structure Sender where
  node : NodeId
  data : MessageCounter
  control : MessageCounter
  deriving DecidableEq

namespace Sender

/-- Source: `Sender::restore`. -/
def restore (node : NodeId) (data control : UInt32) : Sender :=
  ⟨node, .startingAt data, .startingAt control⟩

/-- Takes the next counter of a counter space. -/
def takeCounter (s : Sender) (control : Bool) : UInt32 × Sender :=
  if control then (s.control.takeWithRollover.1, { s with control := s.control.takeWithRollover.2 })
  else (s.data.takeWithRollover.1, { s with data := s.data.takeWithRollover.2 })

/-- The header of a group message.
Source: `Sender::send`, `header`. -/
def header (node : NodeId) (key : OperationalKey) (group : GroupId) (control : Bool)
    (counter : UInt32) : MessageHeader where
  sessionId := ⟨key.sessionId⟩
  sessionType := .group
  messageCounter := counter
  source := some node
  destination := .group group
  privacy := true
  control := control

/-- Builds one group message.
Source: `Sender::send`. -/
def send (c : Crypto) (kd : KeyDerivation) (s : Sender) (key : OperationalKey) (group : GroupId)
    (protocol : ProtocolHeader) (payload : List UInt8) (control : Bool) (scratchLen outLen : ℕ) :
    Except ErrorCode (List UInt8) × Sender :=
  let (counter, s) := s.takeCounter control
  (do
    let body ← join protocol payload scratchLen
    let keys ← fromEncryptionKey kd key.key
    protect c (header s.node key group control counter) .group body keys outLen, s)

end Sender

/-! ## Receiving -/

/-- Source: `group/mod.rs`, `GroupContext`. -/
structure GroupContext where
  fabricIndex : FabricIndex
  group : GroupId
  source : NodeId
  sender : PeerAddr
  sessionId : UInt16
  keySet : KeySetId
  deriving DecidableEq

/-- Source: `Inbound`. -/
structure Inbound where
  context : GroupContext
  protocol : ProtocolHeader
  payload : List UInt8
  counter : UInt32
  control : Bool
  deriving DecidableEq

/-- Source: `Received`. -/
inductive Received
  | message (inbound : Inbound)
  | duplicate (context : GroupContext)
  | needsSync (context : GroupContext)
  | untracked (context : GroupContext)
  deriving DecidableEq

/-- The context that any answer to a message carries. -/
def Received.context : Received → GroupContext
  | .message inbound => inbound.context
  | .duplicate context | .needsSync context | .untracked context => context

/-- Tries one candidate on a message.
Source: `receive`, the body of the loop over the candidates. -/
def attempt (c : Crypto) (kd : KeyDerivation) (buf : List UInt8) (candidate : OperationalKey) :
    Option (OperationalKey × MessageHeader × List UInt8) :=
  match fromEncryptionKey kd candidate.key with
  | .error _ => none
  | .ok keys =>
    match unprotect c buf keys .group with
    | .error _ => none
    | .ok (header, payload) => some (candidate, header, payload)

/-- What becomes of an authenticated message.
Source: `receive`, from `source` on. -/
def deliver (peers : PeerTable D C) (sender : PeerAddr) (key : OperationalKey)
    (header : MessageHeader) (payload : List UInt8) :
    Except ErrorCode Received × PeerTable D C :=
  match header.source, header.destination with
  | none, _ => (.error .messageReserved, peers)
  | some source, .group group =>
    let context : GroupContext :=
      ⟨key.fabricIndex, group, source, sender, header.sessionId.val, key.keySet⟩
    match peers.admitMessage key.fabricIndex source header.control header.messageCounter key.policy with
    | (.duplicate, peers) => (.ok (.duplicate context), peers)
    | (.needsSync, peers) => (.ok (.needsSync context), peers)
    | (.untracked, peers) => (.ok (.untracked context), peers)
    | (.process, peers) =>
      (do
        let (protocol, body) ← ProtocolHeader.decode payload
        pure (.message ⟨context, protocol, body, header.messageCounter, header.control⟩), peers)
  | some _, _ => (.error .messageReserved, peers)

/-- The most candidates that are tried.
Source: `receive`, `receiving_keys::<8>`. -/
def maxCandidates : ℕ := 8

/-- Processes one datagram that arrived on a group multicast address.
Source: `receive`. -/
def receive (c : Crypto) (kd : KeyDerivation) (buf : List UInt8) (sender : PeerAddr)
    (keys : GroupKeys K M) (peers : PeerTable D C)
    (compressed : FabricIndex → Option CompressedFabricId) (scratchLen : ℕ) :
    Except ErrorCode Received × PeerTable D C :=
  match preview buf with
  | .error e => (.error e, peers)
  | .ok head =>
    if head.sessionType ≠ .group then (.error .invalidArgument, peers)
    else if scratchLen < buf.length then (.error .bufferTooSmall, peers)
    else
      match (keys.receivingKeys kd compressed head.sessionId.val maxCandidates).findSome?
          (attempt c kd buf) with
      | none => (.error .integrityCheckFailed, peers)
      | some (key, header, payload) => deliver peers sender key header payload

/-! ## A protected group message, read with any key -/

/-- Any octets in the place of the fields that the privacy step covers are the fields of a header. -/
lemma exists_fields {region : List UInt8} (h : region.length = 14) :
    ∃ (counter : UInt32) (source : UInt64) (group : UInt16),
      region = leU32 counter ++ leU64 source ++ leU16 group := by
  obtain ⟨a, region, rfl, ha⟩ : ∃ a r, region = a ++ r ∧ a.length = 4 :=
    ⟨region.take 4, region.drop 4, (List.take_append_drop 4 region).symm, by simp [h]⟩
  obtain ⟨b, d, rfl, hb⟩ : ∃ b r, region = b ++ r ∧ b.length = 8 :=
    ⟨region.take 8, region.drop 8, (List.take_append_drop 8 region).symm, by
      simp only [List.length_append, ha] at h
      simp
      omega⟩
  have hd : d.length = 2 := by
    simp only [List.length_append, ha, hb] at h
    omega
  have hla := ofLe_lt a
  have hlb := ofLe_lt b
  have hld := ofLe_lt d
  rw [ha] at hla
  rw [hb] at hlb
  rw [hd] at hld
  refine ⟨.ofNat (ofLe a), .ofNat (ofLe b), .ofNat (ofLe d), ?_⟩
  rw [leU32, leU64, leU16, UInt32.toNat_ofNat_of_lt' (by simpa using hla),
    UInt64.toNat_ofNat_of_lt' (by simpa using hlb), UInt16.toNat_ofNat_of_lt' (by simpa using hld),
    ← ha, ← hb, ← hd, leBytes_ofLe, leBytes_ofLe, leBytes_ofLe, List.append_assoc]

/-- The octets of a group message that are in the clear.
Source: `MessageHeader::encode`, the first four octets of the header of `Sender::send`. -/
def clearOctets (sessionId : UInt16) (control : Bool) : List UInt8 :=
  leU8 6 ++ leU16 sessionId ++ leU8 (if control then 0xC1 else 0x81)

@[simp] lemma length_clearOctets (sessionId : UInt16) (control : Bool) :
    (clearOctets sessionId control).length = 4 := by
  simp [clearOctets]

section header

variable (node : NodeId) (key : OperationalKey) (group : GroupId) (control : Bool) (counter : UInt32)

lemma octets_header : (Sender.header node key group control counter).octets =
    clearOctets key.sessionId control ++ (leU32 counter ++ leU64 node.val ++ leU16 group.val) := by
  have hsecurity : (Sender.header node key group control counter).securityFlags =
      if control then 0xC1 else 0x81 := by
    have hdata : (1 ||| 0x80 ||| 0 : UInt8) = 0x81 := by decide
    have hcontrol : (1 ||| 0x80 ||| 0x40 : UInt8) = 0xC1 := by decide
    cases control
    · exact hdata
    · exact hcontrol
  have hbits : (4 ||| 2 : UInt8) = 6 := by decide
  have hflags : (Sender.header node key group control counter).flags = 6 := hbits
  simp only [MessageHeader.octets, MessageHeader.fields, hsecurity, hflags, clearOctets]
  simp [MessageHeader.sourceField, MessageHeader.destinationField, Sender.header]

/-- What a receiver can read of a group message without a key. -/
lemma preview_clearOctets (key : OperationalKey) (control : Bool) (rest : List UInt8) :
    preview (clearOctets key.sessionId control ++ rest) =
      .ok ⟨⟨key.sessionId⟩, .group, true, control⟩ := by
  have hdecode := MessageHeader.decode_octets_append (Sender.header ⟨0⟩ key ⟨0⟩ control 0) []
  rw [octets_header, List.append_nil] at hdecode
  have hpreview := preview_of_decode hdecode
  refine (preview_congr ?_).symm.trans hpreview
  rw [List.take_left' (length_clearOctets _ _), List.take_left' (length_clearOctets _ _)]

variable {node key group control counter}

variable {body msg : List UInt8} {keys : SessionKeys} {outLen : ℕ} {kd : KeyDerivation}

/-- A message that was protected: the clear octets, the other fields under the keystream of the sender's
privacy key, and what the AEAD made of the body. -/
lemma protect_header
    (h : protect c (Sender.header node key group control counter) .group body keys outLen = .ok msg) :
    ∃ ciphertext tag, tag.length = 16 ∧ c.aeadEncrypt keys.encryption
        (nonce (Sender.header node key group control counter).securityFlags counter node)
        (Sender.header node key group control counter).octets body = some (ciphertext, tag) ∧
      msg = clearOctets key.sessionId control ++ masked c keys.privacy (privacyNonce ⟨key.sessionId⟩ tag)
          (leU32 counter ++ leU64 node.val ++ leU16 group.val) ++ (ciphertext ++ tag) := by
  unfold protect at h
  obtain ⟨call, hcall, h⟩ := bind_eq_ok.mp h
  obtain ⟨⟨ciphertext, tag⟩, hencrypt, h⟩ := bind_eq_ok.mp h
  obtain ⟨-, -, h⟩ := bind_eq_ok.mp h
  unfold protectCall at hcall
  obtain ⟨-, -, hcall⟩ := bind_eq_ok.mp hcall
  obtain ⟨-, -, hcall⟩ := bind_eq_ok.mp hcall
  obtain ⟨aad, haad, hcall⟩ := bind_eq_ok.mp hcall
  obtain ⟨source, hsource, hcall⟩ := bind_eq_ok.mp hcall
  obtain ⟨-, -, hcall⟩ := bind_eq_ok.mp hcall
  obtain ⟨-, -, hcall⟩ := bind_eq_ok.mp hcall
  obtain rfl : node = source := Except.ok.inj hsource
  rw [MessageHeader.encode_eq] at haad
  obtain rfl : (Sender.header node key group control counter).octets = aad := by
    split_ifs at haad
    exact Except.ok.inj haad
  cases hcall
  have hencrypt := okOr_eq_ok.mp hencrypt
  refine ⟨ciphertext, tag, (c.length_encrypt hencrypt).2, hencrypt, ?_⟩
  have hlength : privacyLen (Sender.header node key group control counter) =
      (leU32 counter ++ leU64 node.val ++ leU16 group.val).length := by
    simp [privacyLen, MessageHeader.sourceField, MessageHeader.destinationField, Sender.header]
  have hprivacy : (Sender.header node key group control counter).privacy = true := rfl
  rw [if_pos hprivacy, hlength] at h
  dsimp only at h
  rw [octets_header, List.append_assoc _ ciphertext tag,
    xorHeader_append _ _ _ (length_clearOctets _ _) (by simp)] at h
  exact (Except.ok.inj h).symm

/-- What a receiver makes of such a message under any keys: the octets under the keystream are read as
the fields of some header, and the AEAD decides. -/
lemma unprotect_clearOctets {region ciphertext tag : List UInt8} (hregion : region.length = 14)
    (htag : tag.length = 16) (hfields : masked c keys.privacy (privacyNonce ⟨key.sessionId⟩ tag) region =
      leU32 counter ++ leU64 node.val ++ leU16 group.val) :
    unprotect c (clearOctets key.sessionId control ++ region ++ (ciphertext ++ tag)) keys .group =
      (okOr (c.aeadDecrypt keys.encryption
        (nonce (Sender.header node key group control counter).securityFlags counter node)
        (Sender.header node key group control counter).octets ciphertext tag)
        .integrityCheckFailed).map (Prod.mk (Sender.header node key group control counter)) := by
  have hlength : (Sender.header node key group control counter).octets.length = 18 := by
    rw [octets_header]
    simp
  have hmic : (clearOctets key.sessionId control ++ region ++ (ciphertext ++ tag)).drop
      ((clearOctets key.sessionId control ++ region ++ (ciphertext ++ tag)).length - micLength) =
      tag := by
    rw [← List.append_assoc]
    apply List.drop_left'
    simp only [List.length_append, htag, micLength]
    omega
  have hlong : micLength ≤ (clearOctets key.sessionId control ++ region ++
      (ciphertext ++ tag)).length := by
    simp only [List.length_append, htag, micLength]
    omega
  have hflags : privacyLenFromFlags ((clearOctets key.sessionId control ++ region ++
      (ciphertext ++ tag)).headD 0) = .ok region.length := by
    have hhead : (clearOctets key.sessionId control ++ region ++ (ciphertext ++ tag)).headD 0 = 6 :=
      rfl
    rw [hregion, hhead]
    decide
  have hclear : deobfuscate c keys.privacy ⟨⟨key.sessionId⟩, .group, true, control⟩
      (clearOctets key.sessionId control ++ region ++ (ciphertext ++ tag)) =
      .ok ((Sender.header node key group control counter).octets ++ (ciphertext ++ tag)) := by
    rw [deobfuscate, if_pos rfl, ensure_of hlong, hmic, hflags, octets_header, ← hfields]
    exact xorHeader_append _ _ _ (length_clearOctets _ _) (by omega)
  have hpreview : preview (clearOctets key.sessionId control ++ region ++ (ciphertext ++ tag)) =
      .ok ⟨⟨key.sessionId⟩, .group, true, control⟩ := by
    rw [List.append_assoc]
    exact preview_clearOctets key control _
  have hheader : ((Sender.header node key group control counter).octets ++
      (ciphertext ++ tag)).length - (ciphertext ++ tag).length = 18 := by
    rw [List.length_append, hlength]
    omega
  have hstart : ((Sender.header node key group control counter).octets ++
      (ciphertext ++ tag)).length - micLength = 18 + ciphertext.length := by
    simp only [List.length_append, hlength, htag, micLength]
    omega
  have htake : ((Sender.header node key group control counter).octets ++
      (ciphertext ++ tag)).take 18 = (Sender.header node key group control counter).octets :=
    List.take_left' hlength
  have hbody : ((Sender.header node key group control counter).octets ++
      (ciphertext ++ tag)).drop 18 = ciphertext ++ tag := List.drop_left' hlength
  have hend : ((Sender.header node key group control counter).octets ++
      (ciphertext ++ tag)).drop (18 + ciphertext.length) = tag := by
    rw [← List.drop_drop, hbody, List.drop_left]
  have hroom : micLength ≤ ((Sender.header node key group control counter).octets ++
      (ciphertext ++ tag)).length := by
    simp only [List.length_append, hlength, htag, micLength]
    omega
  rw [unprotect, hpreview]
  simp only [ok_bind, hclear, MessageHeader.decode_octets_append]
  rw [hheader, hstart, htake, hbody, hend, Nat.add_sub_cancel_left, List.take_left]
  have hsecured : (Sender.header node key group control counter).isUnsecured = false := by
    simp [MessageHeader.isUnsecured, Sender.header]
  have haddressable : addressable (Sender.header node key group control counter) = true := rfl
  have hshort : 18 ≤ maxHeader := by decide
  have hsource : NonceSource.group.resolve (Sender.header node key group control counter) =
      .ok node := rfl
  have hcounter : (Sender.header node key group control counter).messageCounter = counter := rfl
  rw [ensure_of hsecured, ensure_of haddressable, ensure_of hshort, ensure_of hroom,
    ensure_of (Nat.le_add_right 18 ciphertext.length), hsource, hcounter]
  simp only [ok_bind]
  cases c.aeadDecrypt keys.encryption
      (nonce (Sender.header node key group control counter).securityFlags counter node)
      (Sender.header node key group control counter).octets ciphertext tag with
  | none => rfl
  | some plaintext => rfl

/-! ## Every candidate, and which of them are tried -/

/-- A candidate authenticates the message exactly if it has the sender's key. -/
lemma attempt_eq (hc : c.Ideal) (hkeys : fromEncryptionKey kd key.key = .ok keys)
    (h : protect c (Sender.header node key group control counter) .group body keys outLen = .ok msg)
    (k : OperationalKey) : attempt c kd msg k =
      if k.key = key.key then some (k, Sender.header node key group control counter, body)
      else none := by
  obtain ⟨ciphertext, tag, htag, hencrypt, rfl⟩ := protect_header h
  have hregion : ∀ keys' : SessionKeys, (masked c keys'.privacy (privacyNonce ⟨key.sessionId⟩ tag)
      (leU32 counter ++ leU64 node.val ++ leU16 group.val)).length = 14 := by
    intro keys'
    simp
  have hencryption : ∀ {k : SymmetricKey} {keys' : SessionKeys},
      fromEncryptionKey kd k = .ok keys' → keys'.encryption = k := by
    intro k keys' hderived
    obtain ⟨privacy, -, hderived⟩ := bind_eq_ok.mp hderived
    exact congrArg SessionKeys.encryption (Except.ok.inj hderived).symm
  unfold attempt
  by_cases hsame : k.key = key.key
  · rw [if_pos hsame, hsame, hkeys]
    dsimp only
    rw [unprotect_clearOctets (hregion keys) htag (masked_masked _ _ _), hc.opens hencrypt]
    rfl
  · rw [if_neg hsame]
    cases hderived : fromEncryptionKey kd k.key with
    | error e => rfl
    | ok keys' =>
      -- Under the keystream of another key the fields are those of some other header.
      have hother : (masked c keys'.privacy (privacyNonce ⟨key.sessionId⟩ tag)
          (masked c keys.privacy (privacyNonce ⟨key.sessionId⟩ tag)
            (leU32 counter ++ leU64 node.val ++ leU16 group.val))).length = 14 := by
        rw [length_masked, hregion keys]
      obtain ⟨counter', node', group', hfields⟩ := exists_fields hother
      have hfields' : masked c keys'.privacy (privacyNonce ⟨key.sessionId⟩ tag)
          (masked c keys.privacy (privacyNonce ⟨key.sessionId⟩ tag)
            (leU32 counter ++ leU64 node.val ++ leU16 group.val)) =
          leU32 counter' ++ leU64 (⟨node'⟩ : NodeId).val ++ leU16 (⟨group'⟩ : GroupId).val := hfields
      dsimp only
      rw [unprotect_clearOctets (hregion keys) htag hfields']
      cases hdecrypt : c.aeadDecrypt keys'.encryption
          (nonce (Sender.header ⟨node'⟩ key ⟨group'⟩ control counter').securityFlags counter' ⟨node'⟩)
          (Sender.header ⟨node'⟩ key ⟨group'⟩ control counter').octets ciphertext tag with
      | none => rfl
      | some plaintext =>
        refine absurd ?_ hsame
        rw [← hencryption hderived, ← hencryption hkeys]
        exact hc.refuses hencrypt hdecrypt

/-- The first candidate that authenticates is the first that has the sender's key. -/
lemma findSome_attempt (hc : c.Ideal) (hkeys : fromEncryptionKey kd key.key = .ok keys)
    (h : protect c (Sender.header node key group control counter) .group body keys outLen = .ok msg)
    (candidates : List OperationalKey) : candidates.findSome? (attempt c kd msg) =
      (candidates.find? fun k => decide (k.key = key.key)).map fun k =>
        (k, Sender.header node key group control counter, body) := by
  induction candidates with
  | nil => rfl
  | cons k candidates ih =>
    rw [List.findSome?_cons, List.find?_cons, attempt_eq hc hkeys h, ih]
    by_cases hsame : k.key = key.key <;> simp [hsame]

/-- What an authenticated group message becomes carries the context of the key. -/
lemma context_deliver (peers : PeerTable D C) (sender : PeerAddr) (k : OperationalKey)
    (protocol : ProtocolHeader) (payload : List UInt8) :
    ∃ received, (deliver peers sender k (Sender.header node key group control counter)
      (protocol.octets ++ payload)).1 = .ok received ∧
      received.context = ⟨k.fabricIndex, group, node, sender, key.sessionId, k.keySet⟩ := by
  unfold deliver
  dsimp only [Sender.header]
  generalize peers.admitMessage k.fabricIndex node control counter k.policy = admitted
  obtain ⟨verdict, peers'⟩ := admitted
  cases verdict with
  | process =>
    rw [ProtocolHeader.decode_octets_append]
    exact ⟨_, rfl, rfl⟩
  | duplicate | needsSync | untracked => exact ⟨_, rfl, rfl⟩

end header

namespace GroupKeys

/-- Of the candidates that are tried, the first that has the key is of its fabric and key set. -/
def Tried (t : GroupKeys K M) (kd : KeyDerivation)
    (compressed : FabricIndex → Option CompressedFabricId) (key : OperationalKey) : Prop :=
  ∃ k ∈ (t.receivingKeys kd compressed key.sessionId maxCandidates).find?
      (fun k => decide (k.key = key.key)),
    k.fabricIndex = key.fabricIndex ∧ k.keySet = key.keySet

end GroupKeys

/-- What is sent is the two headers and the payload, protected under the keys derived from the key. -/
lemma send_eq_ok {kd : KeyDerivation} {s s' : Sender} {key : OperationalKey} {group : GroupId}
    {protocol : ProtocolHeader} {payload msg : List UInt8} {control : Bool} {scratchLen outLen : ℕ}
    (h : s.send c kd key group protocol payload control scratchLen outLen = (.ok msg, s')) :
    ∃ counter keys, fromEncryptionKey kd key.key = .ok keys ∧
      protect c (Sender.header s.node key group control counter) .group (protocol.octets ++ payload)
        keys outLen = .ok msg := by
  have hnode : (s.takeCounter control).2.node = s.node := by
    cases control <;> rfl
  rw [Sender.send] at h
  obtain ⟨body, hbody, hrest⟩ := bind_eq_ok.mp (congrArg Prod.fst h)
  obtain ⟨keys, hkeys, hprotect⟩ := bind_eq_ok.mp hrest
  obtain ⟨header, hheader, hbody⟩ := bind_eq_ok.mp hbody
  obtain ⟨-, -, hbody⟩ := bind_eq_ok.mp hbody
  rw [ProtocolHeader.encode_eq] at hheader
  obtain rfl : protocol.octets = header := by
    split_ifs at hheader
    exact Except.ok.inj hheader
  obtain rfl : protocol.octets ++ payload = body := Except.ok.inj hbody
  rw [← hnode]
  exact ⟨_, keys, hkeys, hprotect⟩

/-- A message that a sender has protected under a key, with an ideal AEAD, is received with the fabric,
group, source and key set of that key exactly if the key is tried. -/
theorem receive_iff_tried (hc : c.Ideal) {kd : KeyDerivation} {s s' : Sender} {key : OperationalKey}
    {group : GroupId} {protocol : ProtocolHeader} {payload msg : List UInt8} {control : Bool}
    {scratchLen outLen : ℕ}
    (hsend : s.send c kd key group protocol payload control scratchLen outLen = (.ok msg, s'))
    (t : GroupKeys K M) (peers : PeerTable D C)
    (compressed : FabricIndex → Option CompressedFabricId) (sender : PeerAddr) {scratch : ℕ}
    (hscratch : msg.length ≤ scratch) :
    (∃ received, (receive c kd msg sender t peers compressed scratch).1 = .ok received ∧
      received.context = ⟨key.fabricIndex, group, s.node, sender, key.sessionId, key.keySet⟩) ↔
      t.Tried kd compressed key := by
  obtain ⟨counter, keys, hkeys, hprotect⟩ := send_eq_ok hsend
  have hreceive : receive c kd msg sender t peers compressed scratch =
      ((t.receivingKeys kd compressed key.sessionId maxCandidates).find?
        (fun k => decide (k.key = key.key))).elim (.error .integrityCheckFailed, peers) fun k =>
          deliver peers sender k (Sender.header s.node key group control counter)
            (protocol.octets ++ payload) := by
    have hpreview : preview msg = .ok ⟨⟨key.sessionId⟩, .group, true, control⟩ := by
      obtain ⟨ciphertext, tag, -, -, rfl⟩ := protect_header hprotect
      rw [List.append_assoc]
      exact preview_clearOctets key control _
    rw [receive, hpreview]
    dsimp only
    rw [if_neg (not_not.mpr rfl), if_neg (not_lt.mpr hscratch), findSome_attempt hc hkeys hprotect]
    cases (t.receivingKeys kd compressed key.sessionId maxCandidates).find?
      (fun k => decide (k.key = key.key)) <;> rfl
  rw [hreceive, GroupKeys.Tried]
  cases (t.receivingKeys kd compressed key.sessionId maxCandidates).find?
      (fun k => decide (k.key = key.key)) with
  | none =>
    constructor
    · rintro ⟨received, hreceived, -⟩
      cases hreceived
    · rintro ⟨k, hk, -⟩
      cases hk
  | some k =>
    obtain ⟨received, hreceived, hcontext⟩ : ∃ received, (deliver peers sender k
        (Sender.header s.node key group control counter) (protocol.octets ++ payload)).1 =
        .ok received ∧ received.context =
          ⟨k.fabricIndex, group, s.node, sender, key.sessionId, k.keySet⟩ :=
      context_deliver peers sender k protocol payload
    constructor
    · rintro ⟨received', hreceived', hcontext'⟩
      obtain rfl : received = received' := Except.ok.inj (hreceived.symm.trans hreceived')
      rw [hcontext] at hcontext'
      exact ⟨k, rfl, congrArg GroupContext.fabricIndex hcontext',
        congrArg GroupContext.keySet hcontext'⟩
    · rintro ⟨k', hk', hfabric, hkeySet⟩
      obtain rfl : k = k' := Option.some_inj.mp hk'
      exact ⟨received, hreceived, by rw [hcontext, hfabric, hkeySet]⟩

/-! ## Messages on concrete values -/

lemma ideal_tagByKey : Crypto.tagByKey.Ideal where
  opens := by
    intro key nonce aad plaintext ciphertext tag h
    cases h
    exact if_pos rfl
  refuses := by
    intro key nonce aad plaintext ciphertext tag key' nonce' aad' plaintext' hencrypt hdecrypt
    cases hencrypt
    have htag : key.bytes.toList = key'.bytes.toList := by
      by_contra hne
      have hnone : (none : Option (List UInt8)) = some plaintext' := (if_neg hne).symm.trans hdecrypt
      cases hnone
    cases key
    cases key'
    rw [SymmetricKey.mk.injEq]
    exact (Vector.toList_inj.mp htag).symm

namespace Sample

def fabric : FabricIndex := ⟨1⟩

def compressed (_ : FabricIndex) : Option CompressedFabricId := some ⟨0x87E1B004E235A130⟩

def node : NodeId := ⟨0x1111⟩

def address : PeerAddr := ⟨Vector.replicate 16 0xFD, 5540, 0⟩

def protocol : ProtocolHeader := ⟨true, none, false, ⟨7⟩, .interactionModel, 8⟩

/-- The epoch key of the worked example of the specification. -/
def epochKey : SymmetricKey :=
  ⟨#v[0x23, 0x5b, 0xf7, 0xe6, 0x28, 0x23, 0xd3, 0x58, 0xdc, 0xa4, 0xba, 0x50, 0xb1, 0x53, 0x5f, 0x4b]⟩

/-- The operational key that the worked example derives from it. -/
def operationalKey : SymmetricKey :=
  ⟨#v[0xa6, 0xf5, 0x30, 0x6b, 0xaf, 0x6d, 0x05, 0x0a, 0xf2, 0x3b, 0xa4, 0xbd, 0x6b, 0x9d, 0xd9, 0x60]⟩

/-- Derives what the worked example derives: the operational key, and the two octets of its hash. -/
def workedExample : KeyDerivation where
  kdf := fun inputKey _ info _ =>
    if info = KeyDerivation.groupKeyInfo then .ok operationalKey.bytes.toList
    else if info = groupKeyHashInfo then .ok [0xb9, 0xf7]
    else .ok inputKey
  hmac := fun _ _ => .ok []

/-- Derives another operational key from each epoch key, and the same session id from all of them. -/
def colliding : KeyDerivation where
  kdf := fun inputKey _ info _ => if info = groupKeyHashInfo then .ok [0xb9, 0xf7] else .ok inputKey
  hmac := fun _ _ => .ok []

/-- The table with the key set of the worked example. -/
def oneKey : GroupKeys 15 20 :=
  GroupKeys.new.step GroupKeys.Sample.config
    (.writeKeySet ⟨fabric, 1, .trustFirst, ⟨[⟨epochKey, 0⟩], by decide⟩⟩)

/-- A key set of three epoch keys. -/
def threeKeys (id : UInt8) : GroupKeySet :=
  ⟨fabric, id.toUInt16, .trustFirst,
    ⟨[⟨⟨Vector.replicate 16 (3 * id)⟩, 0⟩, ⟨⟨Vector.replicate 16 (3 * id + 1)⟩, 1⟩,
      ⟨⟨Vector.replicate 16 (3 * id + 2)⟩, 2⟩], by simp [maxEpochKeys]⟩⟩

/-- The table of a fabric that has all the key sets of its quota. -/
def nineKeys : GroupKeys 15 20 :=
  [.writeKeySet (threeKeys 1), .writeKeySet (threeKeys 2), .writeKeySet (threeKeys 3)].foldl
    (GroupKeys.step GroupKeys.Sample.config) GroupKeys.new

/-- The operational key of the worked example. -/
def worked : OperationalKey := ⟨operationalKey, 1, fabric, .trustFirst, 0xb9f7⟩

/-- The operational key of the last of nine epoch keys. -/
def ninth : OperationalKey := ⟨⟨Vector.replicate 16 11⟩, 3, fabric, .trustFirst, 0xb9f7⟩

/-- A message under a key. -/
def sent (kd : KeyDerivation) (key : OperationalKey) : Except ErrorCode (List UInt8) × Sender :=
  (Sender.restore node 5000 7000).send Crypto.tagByKey kd key ⟨0x102⟩ protocol [1, 2, 3] false 64 128

/-- The octets of a message under a key. -/
def octets (kd : KeyDerivation) (key : OperationalKey) : List UInt8 :=
  ((sent kd key).1.toOption).getD []

end Sample

/-- The message under the key of the worked example is received in the name of its key set. -/
theorem worked_key_is_tried :
    Sample.worked ∈ Sample.oneKey.installed Sample.workedExample Sample.compressed ∧
    ∃ received, (receive Crypto.tagByKey Sample.workedExample
      (Sample.octets Sample.workedExample Sample.worked) Sample.address Sample.oneKey
      (PeerTable.new : PeerTable 10 2) Sample.compressed 128).1 = .ok received ∧
      received.context = ⟨Sample.fabric, ⟨0x102⟩, Sample.node, Sample.address, 0xb9f7, 1⟩ := by
  have hsend : Sample.sent Sample.workedExample Sample.worked =
      (.ok (Sample.octets Sample.workedExample Sample.worked),
        (Sample.sent Sample.workedExample Sample.worked).2) := by
    decide +kernel
  have hshort : (Sample.octets Sample.workedExample Sample.worked).length ≤ 128 := by
    decide +kernel
  refine ⟨by decide +kernel, ?_⟩
  refine (receive_iff_tried ideal_tagByKey hsend Sample.oneKey PeerTable.new Sample.compressed
    Sample.address hshort).mpr ⟨Sample.worked, ?_, rfl, rfl⟩
  decide +kernel

/-- A fabric with all its key sets, whose nine keys go by one session id: the message under the last of
them is sent, and no key is found for it. -/
theorem ninth_key_is_not_tried : Crypto.tagByKey.Ideal ∧
    Sample.ninth ∈ Sample.nineKeys.installed Sample.colliding Sample.compressed ∧
    Sample.sent Sample.colliding Sample.ninth = (.ok (Sample.octets Sample.colliding Sample.ninth),
        (Sample.sent Sample.colliding Sample.ninth).2) ∧
    (receive Crypto.tagByKey Sample.colliding (Sample.octets Sample.colliding Sample.ninth)
      Sample.address Sample.nineKeys (PeerTable.new : PeerTable 10 2) Sample.compressed 128).1 =
      .error .integrityCheckFailed :=
  ⟨ideal_tagByKey, by decide +kernel, by decide +kernel, by decide +kernel⟩

end Group

end MatterKit
