import MatterKit.Bytes

/-!
# Identifiers and message headers

The identifiers of `msg/ids.rs` and the two headers of `msg/header.rs`: the *message header*, which
travels in the clear and names the session, and the *protocol header*, which is the first thing inside
the encrypted payload and names the exchange.

Encoding is a list of fields written in order (`MessageHeader.fields`, `ProtocolHeader.fields`);
decoding reads them back one by one and refuses reserved values.
-/

namespace MatterKit

open Lib Cursor

/-! ## Identifiers -/

/-- Source: `NodeId`. -/
structure NodeId where
  val : UInt64
  deriving DecidableEq

/-- What range of the Node ID space a value falls in.
Source: `NodeIdKind`. -/
inductive NodeIdKind
  | unspecified
  | operational
  | pakeKeyIdentifier
  | caseAuthenticatedTag
  | temporaryLocal
  | group
  | reserved
  deriving DecidableEq

namespace NodeId

/-- Source: `NodeId::UNSPECIFIED`. -/
def unspecified : NodeId := ⟨0⟩

/-- Source: `NodeId::kind`. -/
def kind (id : NodeId) : NodeIdKind :=
  let v := id.val.toNat
  if v = 0 then .unspecified
  else if v ≤ 0xFFFFFFEFFFFFFFFF then .operational
  else if 0xFFFFFFFB00000000 ≤ v ∧ v ≤ 0xFFFFFFFBFFFFFFFF then .pakeKeyIdentifier
  else if 0xFFFFFFFD00000000 ≤ v ∧ v ≤ 0xFFFFFFFDFFFFFFFF then .caseAuthenticatedTag
  else if 0xFFFFFFFE00000000 ≤ v ∧ v ≤ 0xFFFFFFFEFFFFFFFF then .temporaryLocal
  else if 0xFFFFFFFFFFFF0000 ≤ v then .group
  else .reserved

/-- Source: `NodeId::is_operational`. -/
def isOperational (id : NodeId) : Bool := decide (id.kind = .operational)

/-- An Ephemeral Initiator Node ID folded out of a random word.
Source: `NodeId::ephemeral`. -/
def ephemeral (randomness : UInt64) : NodeId := ⟨(randomness &&& 0x0FFFFFFFFFFFFFFF) ||| 1⟩

end NodeId

/-- Source: `GroupId`. -/
structure GroupId where
  val : UInt16
  deriving DecidableEq

/-- Source: `FabricIndex`. -/
structure FabricIndex where
  val : UInt8
  deriving DecidableEq

/-- Source: `FabricIndex::NONE`. -/
def FabricIndex.none : FabricIndex := ⟨0⟩

/-- Source: `CaseAuthenticatedTag`. -/
structure CaseAuthenticatedTag where
  val : UInt32
  deriving DecidableEq

namespace CaseAuthenticatedTag

/-- Source: `CaseAuthenticatedTag::identifier`. -/
def identifier (cat : CaseAuthenticatedTag) : UInt16 := (cat.val >>> 16).toUInt16

/-- Source: `CaseAuthenticatedTag::version`. -/
def version (cat : CaseAuthenticatedTag) : UInt16 := cat.val.toUInt16

/-- Source: `CaseAuthenticatedTag::is_valid`. -/
def isValid (cat : CaseAuthenticatedTag) : Bool := cat.version != 0

/-- Source: `CaseAuthenticatedTag::from_node_id`. -/
def fromNodeId (nodeId : NodeId) : Option CaseAuthenticatedTag :=
  if nodeId.kind = .caseAuthenticatedTag then some ⟨nodeId.val.toUInt32⟩ else none

end CaseAuthenticatedTag

/-- Source: `SessionId`. -/
structure SessionId where
  val : UInt16
  deriving DecidableEq

/-- The unsecured session: unicast, session id zero.
Source: `SessionId::UNSECURED`. -/
def SessionId.unsecured : SessionId := ⟨0⟩

/-- Source: `ExchangeId`. -/
structure ExchangeId where
  val : UInt16
  deriving DecidableEq

/-- A Vendor ID and a protocol number under it.
Source: `ProtocolId`. -/
structure ProtocolId where
  vendor : UInt16
  id : UInt16
  deriving DecidableEq

namespace ProtocolId

/-- Source: `ProtocolId::common`. -/
def common (id : UInt16) : ProtocolId := ⟨0, id⟩

/-- Source: `ProtocolId::SECURE_CHANNEL`. -/
def secureChannel : ProtocolId := common 0

/-- Source: `ProtocolId::INTERACTION_MODEL`. -/
def interactionModel : ProtocolId := common 1

/-- Source: `ProtocolId::BDX`. -/
def bdx : ProtocolId := common 2

/-- Source: `ProtocolId::is_common`. -/
def isCommon (p : ProtocolId) : Bool := decide (p.vendor = 0)

end ProtocolId

/-- Whether every bit of `flag` is set.
Source: `bitflags`' `contains`. -/
def containsFlag (bits flag : UInt8) : Bool := decide (bits &&& flag = flag)

/-! ## The message header -/

/-- Source: `msg/header.rs`, `SessionType`. -/
inductive SessionType
  | unicast
  | group
  deriving DecidableEq

namespace SessionType

/-- Source: `SessionType::bits`. -/
def bits : SessionType → UInt8
  | .unicast => 0
  | .group => 1

/-- Source: `SessionType::from_bits`. -/
def fromBits (bits : UInt8) : Except ErrorCode SessionType :=
  if bits &&& 3 = 0 then .ok .unicast
  else if bits &&& 3 = 1 then .ok .group
  else .error .messageReserved

end SessionType

/-- Source: `msg/header.rs`, `Destination`. -/
inductive Destination
  | none
  | node (id : NodeId)
  | group (id : GroupId)
  deriving DecidableEq

namespace Destination

/-- Source: `Destination::dsiz`. -/
def dsiz : Destination → UInt8
  | .none => 0
  | .node _ => 1
  | .group _ => 2

end Destination

/-- The unencrypted header every message starts with.
Source: `msg/header.rs`, `MessageHeader`. -/
structure MessageHeader where
  sessionId : SessionId := .unsecured
  sessionType : SessionType := .unicast
  privacy : Bool := false
  control : Bool := false
  messageCounter : UInt32 := 0
  source : Option NodeId := Option.none
  destination : Destination := .none
  deriving DecidableEq

namespace MessageHeader

/-- Unicast with session id zero.
Source: `MessageHeader::is_unsecured`. -/
def isUnsecured (h : MessageHeader) : Bool :=
  decide (h.sessionType = .unicast ∧ h.sessionId.val = 0)

/-- The Message Flags octet; the version nibble is zero.
Source: `MessageHeader::encode`. -/
def flags (h : MessageHeader) : UInt8 :=
  (if h.source.isSome then 4 else 0) ||| h.destination.dsiz

/-- The Security Flags octet a header encodes to.
Source: `MessageHeader::encode` and `msg/security.rs`, `security_flags_of`. -/
def securityFlags (h : MessageHeader) : UInt8 :=
  h.sessionType.bits ||| (if h.privacy then 0x80 else 0) ||| (if h.control then 0x40 else 0)

/-- The Source Node ID field, when there is one. -/
def sourceField (h : MessageHeader) : List UInt8 :=
  match h.source with
  | some id => leU64 id.val
  | Option.none => []

/-- The Destination field, whose size is set by its kind. -/
def destinationField (h : MessageHeader) : List UInt8 :=
  match h.destination with
  | .none => []
  | .node id => leU64 id.val
  | .group id => leU16 id.val

/-- The fields in the order they are written. -/
def fields (h : MessageHeader) : List (List UInt8) :=
  [leU8 h.flags, leU16 h.sessionId.val, leU8 h.securityFlags, leU32 h.messageCounter,
    h.sourceField, h.destinationField]

/-- Writes the header into a buffer of `capacity` octets.
Source: `MessageHeader::encode`. -/
def encode (h : MessageHeader) (capacity : ℕ) : Except ErrorCode (List UInt8) :=
  putAll capacity [] h.fields

/-- The octets a header encodes to. -/
def octets (h : MessageHeader) : List UInt8 := h.fields.flatten

/-- Source: `MessageHeader::decode`, the Source Node ID. -/
def decodeSource (flags : UInt8) (r : List UInt8) :
    Except ErrorCode (Option NodeId × List UInt8) :=
  if containsFlag flags 4 then do
    let (id, r) ← readU64 .messageTruncated r
    pure (some ⟨id⟩, r)
  else pure (Option.none, r)

/-- Source: `MessageHeader::decode`, the `DSIZ` match. -/
def decodeDestination (flags : UInt8) (r : List UInt8) :
    Except ErrorCode (Destination × List UInt8) :=
  if flags &&& 3 = 0 then pure (.none, r)
  else if flags &&& 3 = 1 then do
    let (id, r) ← readU64 .messageTruncated r
    pure (.node ⟨id⟩, r)
  else if flags &&& 3 = 2 then do
    let (id, r) ← readU16 .messageTruncated r
    pure (.group ⟨id⟩, r)
  else .error .messageReserved

/-- Steps over an extensions block, present only when `flag` is set: a length and that many octets.
Source: `MessageHeader::decode` and `ProtocolHeader::decode`. -/
def skipExtensions (bits flag : UInt8) (r : List UInt8) : Except ErrorCode (List UInt8) :=
  if containsFlag bits flag then do
    let (len, r) ← readU16 .messageTruncated r
    skip .messageTruncated len.toNat r
  else pure r

/-- Reads a header from the front of `buf`, returning it and the rest of the message.
Source: `MessageHeader::decode`. -/
def decode (buf : List UInt8) : Except ErrorCode (MessageHeader × List UInt8) := do
  let (flags, r) ← readU8 .messageTruncated buf
  ensure (flags >>> 4 = 0) .unsupportedVersion
  let (sessionId, r) ← readU16 .messageTruncated r
  let (security, r) ← readU8 .messageTruncated r
  let sessionType ← SessionType.fromBits security
  let (messageCounter, r) ← readU32 .messageTruncated r
  let (source, r) ← decodeSource flags r
  let (destination, r) ← decodeDestination flags r
  let r ← skipExtensions security 0x20 r
  pure ({ sessionId := ⟨sessionId⟩
          sessionType := sessionType
          privacy := containsFlag security 0x80
          control := containsFlag security 0x40
          messageCounter := messageCounter
          source := source
          destination := destination }, r)

/-! ### Round trip -/

variable (h : MessageHeader)

variable (rest : List UInt8)

lemma octets_append :
    h.octets ++ rest = leU8 h.flags ++ (leU16 h.sessionId.val ++ (leU8 h.securityFlags ++
      (leU32 h.messageCounter ++ (h.sourceField ++ (h.destinationField ++ rest))))) := by
  simp [octets, fields]

/-- A header is written exactly when it fits. -/
lemma encode_eq (capacity : ℕ) : h.encode capacity =
      if h.octets.length ≤ capacity then .ok h.octets else .error .bufferTooSmall := by
  unfold encode
  rw [putAll_eq capacity [] h.fields (Nat.zero_le _)]
  simp [octets]

/-- What the fields of the Message Flags octet stand for. -/
lemma flags_spec : containsFlag h.flags 4 = h.source.isSome ∧ h.flags &&& 3 = h.destination.dsiz ∧
      h.flags >>> 4 = 0 := by
  have hdsiz : h.destination.dsiz = 0 ∨ h.destination.dsiz = 1 ∨ h.destination.dsiz = 2 := by
    cases h.destination <;> simp [Destination.dsiz]
  unfold flags
  cases h.source.isSome <;> rcases hdsiz with hd | hd | hd <;> rw [hd] <;> decide

/-- What the fields of the Security Flags octet stand for. -/
lemma securityFlags_spec : SessionType.fromBits h.securityFlags = .ok h.sessionType ∧
      containsFlag h.securityFlags 0x80 = h.privacy ∧ containsFlag h.securityFlags 0x40 = h.control ∧
      containsFlag h.securityFlags 0x20 = false := by
  unfold securityFlags
  cases h.sessionType <;> cases h.privacy <;> cases h.control <;> decide

lemma decodeSource_append : decodeSource h.flags (h.sourceField ++ rest) = .ok (h.source, rest) := by
  obtain ⟨hflag, -, -⟩ := flags_spec h
  unfold decodeSource sourceField
  rw [hflag]
  cases h.source <;> simp

lemma decodeDestination_append :
    decodeDestination h.flags (h.destinationField ++ rest) = .ok (h.destination, rest) := by
  obtain ⟨-, hdsiz, -⟩ := flags_spec h
  unfold decodeDestination destinationField
  rw [hdsiz]
  cases h.destination <;> simp [Destination.dsiz]

/-- **The message header round-trips**: decoding what was encoded gives the header back and leaves
exactly what followed it. -/
lemma decode_octets_append : decode (h.octets ++ rest) = .ok (h, rest) := by
  obtain ⟨-, -, hversion⟩ := flags_spec h
  obtain ⟨htype, hpriv, hctl, hmx⟩ := securityFlags_spec h
  rw [octets_append]
  simp [decode, hversion, htype, decodeSource_append, decodeDestination_append, skipExtensions,
    hpriv, hctl, hmx]

end MessageHeader

/-! ## The protocol header -/

/-- The header at the start of a message's payload.
Source: `msg/header.rs`, `ProtocolHeader`. -/
structure ProtocolHeader where
  initiator : Bool
  acknowledgedCounter : Option UInt32
  reliability : Bool
  exchangeId : ExchangeId
  protocol : ProtocolId
  opcode : UInt8
  deriving DecidableEq

namespace ProtocolHeader

/-- The Exchange Flags octet.
Source: `ProtocolHeader::encode`. -/
def flags (h : ProtocolHeader) : UInt8 :=
  (if h.initiator then 1 else 0) ||| (if h.acknowledgedCounter.isSome then 2 else 0) |||
    (if h.reliability then 4 else 0) ||| (if h.protocol.isCommon then 0 else 0x10)

/-- The Protocol Vendor ID field, absent for the common vendor. -/
def vendorField (h : ProtocolHeader) : List UInt8 :=
  if h.protocol.isCommon then [] else leU16 h.protocol.vendor

/-- The Acknowledged Message Counter field, when there is one. -/
def acknowledgedField (h : ProtocolHeader) : List UInt8 :=
  match h.acknowledgedCounter with
  | some counter => leU32 counter
  | none => []

/-- The fields in the order they are written. -/
def fields (h : ProtocolHeader) : List (List UInt8) :=
  [leU8 h.flags, leU8 h.opcode, leU16 h.exchangeId.val, h.vendorField, leU16 h.protocol.id,
    h.acknowledgedField]

/-- Source: `ProtocolHeader::encode`. -/
def encode (h : ProtocolHeader) (capacity : ℕ) : Except ErrorCode (List UInt8) :=
  putAll capacity [] h.fields

/-- The octets a header encodes to. -/
def octets (h : ProtocolHeader) : List UInt8 := h.fields.flatten

/-- Source: `ProtocolHeader::decode`, the Protocol Vendor ID. -/
def decodeVendor (flags : UInt8) (r : List UInt8) : Except ErrorCode (UInt16 × List UInt8) :=
  if containsFlag flags 0x10 then readU16 .messageTruncated r else pure (0, r)

/-- Source: `ProtocolHeader::decode`, the Acknowledged Message Counter. -/
def decodeAcknowledged (flags : UInt8) (r : List UInt8) :
    Except ErrorCode (Option UInt32 × List UInt8) :=
  if containsFlag flags 2 then do
    let (counter, r) ← readU32 .messageTruncated r
    pure (some counter, r)
  else pure (none, r)

/-- Reads a header from the front of `buf`, returning it and the application payload.
Source: `ProtocolHeader::decode`. -/
def decode (buf : List UInt8) : Except ErrorCode (ProtocolHeader × List UInt8) := do
  let (flags, r) ← readU8 .messageTruncated buf
  let (opcode, r) ← readU8 .messageTruncated r
  let (exchangeId, r) ← readU16 .messageTruncated r
  let (vendor, r) ← decodeVendor flags r
  let (id, r) ← readU16 .messageTruncated r
  let (acknowledgedCounter, r) ← decodeAcknowledged flags r
  let r ← MessageHeader.skipExtensions flags 8 r
  pure ({ initiator := containsFlag flags 1
          acknowledgedCounter := acknowledgedCounter
          reliability := containsFlag flags 4
          exchangeId := ⟨exchangeId⟩
          protocol := ⟨vendor, id⟩
          opcode := opcode }, r)

/-! ### Round trip -/

variable (h : ProtocolHeader)

variable (rest : List UInt8)

lemma octets_append : h.octets ++ rest = leU8 h.flags ++ (leU8 h.opcode ++ (leU16 h.exchangeId.val ++
      (h.vendorField ++ (leU16 h.protocol.id ++ (h.acknowledgedField ++ rest))))) := by
  simp [octets, fields]

/-- A header is written exactly when it fits. -/
lemma encode_eq (capacity : ℕ) : h.encode capacity =
      if h.octets.length ≤ capacity then .ok h.octets else .error .bufferTooSmall := by
  unfold encode
  rw [putAll_eq capacity [] h.fields (Nat.zero_le _)]
  simp [octets]

/-- What each bit of the Exchange Flags octet stands for. -/
lemma containsFlag_flags : containsFlag h.flags 1 = h.initiator ∧
    containsFlag h.flags 2 = h.acknowledgedCounter.isSome ∧ containsFlag h.flags 4 = h.reliability ∧
    containsFlag h.flags 8 = false ∧ containsFlag h.flags 0x10 = !h.protocol.isCommon := by
  unfold flags
  cases h.initiator <;> cases h.acknowledgedCounter.isSome <;> cases h.reliability <;>
    cases h.protocol.isCommon <;> decide

lemma decodeVendor_append :
    decodeVendor h.flags (h.vendorField ++ rest) = .ok (h.protocol.vendor, rest) := by
  obtain ⟨-, -, -, -, hv⟩ := containsFlag_flags h
  unfold decodeVendor vendorField
  rw [hv]
  by_cases hc : h.protocol.isCommon = true
  · have hzero : h.protocol.vendor = 0 := by simpa [ProtocolId.isCommon] using hc
    simp [hc, hzero]
  · simp [hc]

lemma decodeAcknowledged_append : decodeAcknowledged h.flags (h.acknowledgedField ++ rest) =
      .ok (h.acknowledgedCounter, rest) := by
  obtain ⟨-, ha, -, -, -⟩ := containsFlag_flags h
  unfold decodeAcknowledged acknowledgedField
  rw [ha]
  cases h.acknowledgedCounter <;> simp

/-- **The protocol header round-trips**, whatever payload follows it. -/
lemma decode_octets_append : decode (h.octets ++ rest) = .ok (h, rest) := by
  obtain ⟨hi, -, hr, hsx, -⟩ := containsFlag_flags h
  rw [octets_append]
  simp [decode, decodeVendor_append, decodeAcknowledged_append, MessageHeader.skipExtensions,
    hi, hr, hsx]

/-- A protocol header never needs more than sixteen octets, the scratch space
`Messaging::acknowledge` sets aside for one. -/
lemma length_octets_le : h.octets.length ≤ 16 := by
  have hv : h.vendorField.length ≤ 2 := by
    unfold vendorField
    split <;> simp
  have ha : h.acknowledgedField.length ≤ 4 := by
    unfold acknowledgedField
    cases h.acknowledgedCounter <;> simp
  simp only [octets, fields, List.flatten_cons, List.flatten_nil, List.length_append,
    length_leU8, length_leU16, List.length_nil]
  omega

end ProtocolHeader

end MatterKit
