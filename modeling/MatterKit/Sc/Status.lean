import MatterKit.Msg.Header

/-!
# The StatusReport message

`StatusReport` of `sc/status.rs`: eight fixed octets and an optional tail. The message layer
writes one report, CloseSession, and recognises one, CloseSession.
-/

namespace MatterKit

open Lib Cursor

/-- Source: `sc/mod.rs`, `opcode::MRP_STANDALONE_ACK`. -/
def opcodeMrpStandaloneAck : UInt8 := 0x10

/-- Source: `sc/mod.rs`, `opcode::STATUS_REPORT`. -/
def opcodeStatusReport : UInt8 := 0x40

/-- The uniform status codes.
Source: `GeneralCode`. -/
inductive GeneralCode
  | success
  | failure
  | badPrecondition
  | outOfRange
  | badRequest
  | unsupported
  | unexpected
  | resourceExhausted
  | busy
  | timeout
  | continue_
  | aborted
  | invalidArgument
  | notFound
  | alreadyExists
  | permissionDenied
  | dataLoss
  | messageTooLarge
  deriving DecidableEq

namespace GeneralCode

/-- The codes in the order of their wire values, which start at zero. -/
def all : List GeneralCode :=
  [success, failure, badPrecondition, outOfRange, badRequest, unsupported, unexpected,
    resourceExhausted, busy, timeout, continue_, aborted, invalidArgument, notFound,
    alreadyExists, permissionDenied, dataLoss, messageTooLarge]

/-- The wire value.
Source: `GeneralCode as u16`. -/
def toU16 (g : GeneralCode) : UInt16 := UInt16.ofNat (all.idxOf g)

/-- Source: `GeneralCode::from_u16`. -/
def fromU16 (value : UInt16) : Except ErrorCode GeneralCode :=
  okOr all[value.toNat]? .messageReserved

end GeneralCode

/-- The Secure Channel protocol-specific codes.
Source: `SecureChannelCode`. -/
inductive SecureChannelCode
  | sessionEstablishmentSuccess
  | noSharedTrustRoots
  | invalidParameter
  | closeSession
  | busy

/-- The wire value.
Source: `SecureChannelCode as u16`. -/
def SecureChannelCode.toU16 : SecureChannelCode → UInt16
  | .sessionEstablishmentSuccess => 0
  | .noSharedTrustRoots => 1
  | .invalidParameter => 2
  | .closeSession => 3
  | .busy => 4

/-- The uniform code a Secure Channel code comes with.
Source: `SecureChannelCode::general`. -/
def SecureChannelCode.general : SecureChannelCode → GeneralCode
  | .sessionEstablishmentSuccess | .closeSession => .success
  | .noSharedTrustRoots | .invalidParameter => .failure
  | .busy => .busy

/-- Source: `StatusReport`. -/
structure StatusReport where
  general : GeneralCode
  protocol : ProtocolId
  protocolCode : UInt16
  data : List UInt8
  deriving DecidableEq

namespace StatusReport

/-- Writes the message into a buffer of `capacity` octets: the vendor is in the upper half of the
qualified protocol id.
Source: `StatusReport::encode`. -/
def encode (r : StatusReport) (capacity : ℕ) : Except ErrorCode (List UInt8) := do
  ensure (8 + r.data.length ≤ capacity) .bufferTooSmall
  let qualified := (r.protocol.vendor.toUInt32 <<< 16) ||| r.protocol.id.toUInt32
  pure (leU16 r.general.toU16 ++ leU32 qualified ++ leU16 r.protocolCode ++ r.data)

/-- Source: `StatusReport::decode`. -/
def decode (buf : List UInt8) : Except ErrorCode StatusReport := do
  let (general, r) ← readU16 .messageTruncated buf
  let (qualified, r) ← readU32 .messageTruncated r
  let (code, data) ← readU16 .messageTruncated r
  let general ← GeneralCode.fromU16 general
  pure { general := general
         protocol := ⟨(qualified >>> 16).toUInt16, qualified.toUInt16⟩
         protocolCode := code
         data := data }

/-- Source: `StatusReport::secure_channel`. -/
def secureChannel (code : SecureChannelCode) : StatusReport where
  general := code.general
  protocol := .secureChannel
  protocolCode := code.toU16
  data := []

/-- The report that a node sends when it gives a session up.
Source: `messaging.rs`, `Messaging::install_session`, its `report`. -/
def closeSession : StatusReport where
  general := .success
  protocol := .secureChannel
  protocolCode := SecureChannelCode.closeSession.toU16
  data := []

/-- Whether this report closes the session it arrives on.
Source: `messaging.rs`, `Messaging::receive`, the guard on the decoded report. -/
def isCloseSession (r : StatusReport) : Bool :=
  decide (r.protocol = .secureChannel ∧ r.protocolCode = SecureChannelCode.closeSession.toU16)

/-- What the close-session report is on the wire. -/
lemma closeSession_encode : closeSession.encode 16 = .ok [0, 0, 0, 0, 0, 0, 3, 0] := by
  decide

end StatusReport

end MatterKit
