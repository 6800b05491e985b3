import MatterKit.Commissioning.Admission
import MatterKit.Im.Path
import MatterKit.Sc.Status
import MatterKit.Session

/-!
# The device's side of PASE

`sc/pase.rs`: the messages a commissionee reads and writes, and `PaseResponder`, the state machine
over them. Each method checks that its message is the one the responder waits for before it looks at
the payload, so that a message out of turn fails whatever it says (`onPake1_of_other`,
`onPake3_of_other`).

SPAKE2+ itself is a parameter (`Spake2p`): its points and scalars are another crate's. A method that
fails leaves the responder to be dropped by the channel, so only a success has a state after it.
-/

namespace MatterKit.Sc

open Lib Machine Tlv

/-! ## Reading the members of a message -/

/-- Source: `Element::octets`. -/
def octetsOf (e : Element) : Except ErrorCode (List UInt8) :=
  match e.value with
  | .octets v => .ok v
  | _ => .error .tlvWrongType

/-- An octet string of a fixed length.
Source: `random_of`, `point_of` and `confirmation_of`. -/
def fixedOf (length : ℕ) (e : Element) : Except ErrorCode (List UInt8) := do
  let bytes ← octetsOf e
  ensure (bytes.length = length) .invalidArgument
  pure bytes

/-- Source: `u16_of`. -/
def u16Of (value : UInt64) : Except ErrorCode UInt16 := Im.narrow16 value

/-- The next member at a depth, or `none` at the end of its container; the end of a deeper one is
passed over.
Source: `Fields::next`. -/
def fieldsNext (depth : ℕ) : ℕ → Reading (Option (UInt8 × Element))
  | 0 => throw .tlvTruncated
  | rounds + 1 => do
    match ← nextElement with
    | none => pure none
    | some e =>
      if e.value = .endOfContainer then do
        let r ← get
        if r.depth < depth then pure none else fieldsNext depth rounds
      else
        match e.tag.context? with
        | none => throw .tlvInvalidTag
        | some tag => pure (some (tag, e))

/-- The loop `while let Some((tag, element)) = fields.next()? { .. }`. -/
def eachFieldFrom {β : Type} (depth : ℕ) (step : UInt8 → Element → β → Reading β) :
    ℕ → β → Reading β
  | 0, _ => throw .tlvTruncated
  | rounds + 1, acc => do
    let r ← get
    match ← fieldsNext depth (r.buf.length - r.pos + 1) with
    | none => pure acc
    | some (tag, e) => do
      let acc ← step tag e acc
      eachFieldFrom depth step rounds acc

/-- All members at a depth. -/
def eachField {β : Type} (depth : ℕ) (step : UInt8 → Element → β → Reading β) (init : β) :
    Reading β := do
  let r ← get
  eachFieldFrom depth step (r.buf.length - r.pos + 1) init

/-- Reads a message, which is one structure.
Source: `Fields::new` and the loop of each `decode`. -/
def decodeStruct {β : Type} (step : UInt8 → Element → β → Reading β) (init : β)
    (buf : List UInt8) : Except ErrorCode β :=
  let read : Reading β := do
    let some first ← nextElement | throw .tlvTruncated
    require (first.value.container? = some .struct) .tlvWrongType
    eachField 1 step init
  (exec read (.new buf)).1

/-! ## Session parameters -/

/-- Source: `sc/mod.rs`, `SessionParams`; `supportedTransports` is its bits. -/
structure SessionParams where
  idleIntervalMs : UInt32
  activeIntervalMs : UInt32
  activeThresholdMs : UInt16
  dataModelRevision : UInt16
  interactionModelRevision : UInt16
  specificationVersion : UInt32
  maxPathsPerInvoke : UInt16
  supportedTransports : UInt32
  maxTcpMessageSize : Option UInt32
  deriving DecidableEq

namespace SessionParams

/-- Source: `SessionParams::announce_with_revisions`, of `MrpParams::default`. -/
def withRevisions (dataModel interactionModel : UInt16) (specification : UInt32) :
    SessionParams where
  idleIntervalMs := 500
  activeIntervalMs := 300
  activeThresholdMs := 4000
  dataModelRevision := dataModel
  interactionModelRevision := interactionModel
  specificationVersion := specification
  maxPathsPerInvoke := 1
  supportedTransports := 0
  maxTcpMessageSize := none

/-- Source: `SessionParams::legacy_peer`. -/
def legacyPeer : SessionParams := withRevisions 16 10 0x01000000

/-- Source: `SessionParams::default`, with `DATA_MODEL_REVISION`, `INTERACTION_MODEL_REVISION` and
`SPECIFICATION_VERSION`. -/
def default : SessionParams := withRevisions 21 13 0x01060000

/-- Source: `SessionParams::to_mrp`. -/
def toMrp (p : SessionParams) : MrpParams :=
  MrpParams.clamped ⟨.fromMillis p.idleIntervalMs.toUInt64, .fromMillis p.activeIntervalMs.toUInt64,
    .fromMillis p.activeThresholdMs.toUInt64⟩

/-- Source: `SessionParams::encode`. -/
def encode (p : SessionParams) (tag : Tag) : Writing Unit := do
  start tag .struct
  unsigned (.context 1) p.idleIntervalMs.toUInt64
  unsigned (.context 2) p.activeIntervalMs.toUInt64
  unsigned (.context 3) p.activeThresholdMs.toUInt64
  unsigned (.context 4) p.dataModelRevision.toUInt64
  unsigned (.context 5) p.interactionModelRevision.toUInt64
  unsigned (.context 6) p.specificationVersion.toUInt64
  unsigned (.context 7) p.maxPathsPerInvoke.toUInt64
  unsigned (.context 8) p.supportedTransports.toUInt64
  Im.whenSome p.maxTcpMessageSize fun size => unsigned (.context 9) size.toUInt64
  endContainer

/-- Source: `sc/mod.rs`, `saturating_u32`. -/
def saturatingU32 (v : UInt64) : UInt32 := if v.toNat < 2 ^ 32 then v.toUInt32 else 0xFFFFFFFF

/-- Source: `sc/mod.rs`, `saturating_u16`. -/
def saturatingU16 (v : UInt64) : UInt16 := if v.toNat < 2 ^ 16 then v.toUInt16 else 0xFFFF

/-- One member of a parameter structure; a tag below 32 may come once.
Source: `SessionParams::decode`, the body of its loop. -/
def decodeField (tag : UInt8) (e : Element) (acc : SessionParams × List UInt8) :
    Reading (SessionParams × List UInt8) := do
  let (p, seen) := acc
  require (32 ≤ tag ∨ tag ∉ seen) .tlvDuplicateTag
  let seen := tag :: seen
  match tag with
  | 1 => do
    let v ← ofResult e.unsigned
    pure ({ p with idleIntervalMs := saturatingU32 v }, seen)
  | 2 => do
    let v ← ofResult e.unsigned
    pure ({ p with activeIntervalMs := saturatingU32 v }, seen)
  | 3 => do
    let v ← ofResult e.unsigned
    pure ({ p with activeThresholdMs := saturatingU16 v }, seen)
  | 4 => do
    let v ← ofResult e.unsigned
    pure ({ p with dataModelRevision := saturatingU16 v }, seen)
  | 5 => do
    let v ← ofResult e.unsigned
    pure ({ p with interactionModelRevision := saturatingU16 v }, seen)
  | 6 => do
    let v ← ofResult e.unsigned
    pure ({ p with specificationVersion := saturatingU32 v }, seen)
  | 7 => do
    let v ← ofResult e.unsigned
    pure ({ p with maxPathsPerInvoke := max (saturatingU16 v) 1 }, seen)
  | 8 => do
    let v ← ofResult e.unsigned
    pure ({ p with supportedTransports := saturatingU32 v &&& 6 }, seen)
  | 9 => do
    let v ← ofResult e.unsigned
    pure ({ p with maxTcpMessageSize := some (saturatingU32 v) }, seen)
  | _ => do
    skipValue e
    pure (p, seen)

/-- The structure whose opening element has just been taken, inside a message.
Source: `SessionParams::decode`. -/
def decode : Reading SessionParams := do
  let (p, _) ← eachField 2 decodeField (legacyPeer, [])
  pure p

end SessionParams

/-! ## The messages -/

/-- Source: `PbkdfParameters`. -/
structure PbkdfParameters where
  iterations : UInt32
  salt : List UInt8

/-- Source: `PbkdfParameters::new`, with the `PBKDF_` constants of `crypto/mod.rs`. -/
def PbkdfParameters.new (iterations : UInt32) (salt : List UInt8) :
    Except ErrorCode PbkdfParameters := do
  ensure (1000 ≤ iterations ∧ iterations ≤ 100000) .invalidArgument
  ensure (salt.length ≤ 32) .invalidArgument
  ensure (16 ≤ salt.length) .invalidArgument
  pure ⟨iterations, salt⟩

/-- Source: `PbkdfParamRequest`. -/
structure PbkdfParamRequest where
  initiatorRandom : List UInt8 := List.replicate 32 0
  initiatorSessionId : SessionId := ⟨0⟩
  passcodeId : UInt16 := 0
  hasPbkdfParameters : Bool := false
  sessionParams : Option SessionParams := none

namespace PbkdfParamRequest

/-- One member, with whether the random has been seen.
Source: `PbkdfParamRequest::decode`, the body of its loop. -/
def decodeField (tag : UInt8) (e : Element) (acc : PbkdfParamRequest × Bool) :
    Reading (PbkdfParamRequest × Bool) :=
  let (out, seenRandom) := acc
  match tag with
  | 1 => do
    let random ← ofResult (fixedOf 32 e)
    pure ({ out with initiatorRandom := random }, true)
  | 2 => do
    let id ← ofResult (e.unsigned >>= u16Of)
    pure ({ out with initiatorSessionId := ⟨id⟩ }, seenRandom)
  | 3 => do
    let id ← ofResult (e.unsigned >>= u16Of)
    pure ({ out with passcodeId := id }, seenRandom)
  | 4 => do
    let has ← ofResult e.bool
    pure ({ out with hasPbkdfParameters := has }, seenRandom)
  | 5 => do
    let params ← SessionParams.decode
    pure ({ out with sessionParams := some params }, seenRandom)
  | _ => do
    skipValue e
    pure (out, seenRandom)

/-- Source: `PbkdfParamRequest::decode`. -/
def decode (buf : List UInt8) : Except ErrorCode PbkdfParamRequest := do
  let (out, seenRandom) ← decodeStruct decodeField ({}, false) buf
  ensure (seenRandom = true) .tlvNotFound
  pure out

end PbkdfParamRequest

/-- Source: `PbkdfParamResponse`. -/
structure PbkdfParamResponse where
  initiatorRandom : List UInt8
  responderRandom : List UInt8
  responderSessionId : SessionId
  pbkdfParameters : Option PbkdfParameters
  sessionParams : Option SessionParams

/-- Runs an encoder in a buffer and returns what it wrote. -/
def written (x : Writing Unit) (out : Slice) : Except ErrorCode (List UInt8) :=
  match exec x (.new out) with
  | (.ok _, w) => w.finish
  | (.error e, _) => .error e

/-- Source: `PbkdfParamResponse::encode`. -/
def PbkdfParamResponse.encode (r : PbkdfParamResponse) : Writing Unit := do
  start .anonymous .struct
  octets (.context 1) r.initiatorRandom
  octets (.context 2) r.responderRandom
  unsigned (.context 3) r.responderSessionId.val.toUInt64
  start (.context 4) .struct
  Im.whenSome r.pbkdfParameters fun params => do
    unsigned (.context 1) params.iterations.toUInt64
    octets (.context 2) params.salt
  endContainer
  Im.whenSome r.sessionParams fun params => params.encode (.context 5)
  endContainer

/-- A member of a message that has one octet string of interest, under tag 1.
Source: `Pake1::decode` and `Pake3::decode`, the bodies of their loops. -/
def decodeOnly (length : ℕ) (tag : UInt8) (e : Element) (acc : Option (List UInt8)) :
    Reading (Option (List UInt8)) :=
  match tag with
  | 1 => do
    let bytes ← ofResult (fixedOf length e)
    pure (some bytes)
  | _ => do
    skipValue e
    pure acc

/-- The point `pA`.
Source: `Pake1::decode`. -/
def decodePake1 (buf : List UInt8) : Except ErrorCode (List UInt8) := do
  let pa ← decodeStruct (decodeOnly 65) none buf
  okOr pa .tlvNotFound

/-- The confirmation `cA`.
Source: `Pake3::decode`. -/
def decodePake3 (buf : List UInt8) : Except ErrorCode (List UInt8) := do
  let ca ← decodeStruct (decodeOnly 32) none buf
  okOr ca .tlvNotFound

/-- Source: `Pake2::encode`. -/
def encodePake2 (pb cb : List UInt8) : Writing Unit := do
  start .anonymous .struct
  octets (.context 1) pb
  octets (.context 2) cb
  endContainer

/-! ## Keys -/

/-- A passcode verifier, `w0 || L`.
Source: `crypto/spake2p.rs`, `Spake2pVerifierData`. -/
structure Spake2pVerifierData where
  bytes : List UInt8
  deriving DecidableEq

/-- The verifier's side of one run: which data, and the scalar it drew.
Source: `crypto/spake2p.rs`, `Spake2pVerifier`. -/
structure Spake2pVerifier where
  data : Spake2pVerifierData
  scalar : List UInt8
  deriving DecidableEq

/-- The octets of `"SessionKeys"`.
Source: `session.rs`, `SESSION_KEYS_INFO`. -/
def sessionKeysInfo : List UInt8 :=
  [0x53, 0x65, 0x73, 0x73, 0x69, 0x6f, 0x6e, 0x4b, 0x65, 0x79, 0x73]

/-- The octets of `"PrivacyKey"`.
Source: `crypto/mod.rs`, `PRIVACY_KEY_INFO`. -/
def privacyKeyInfo : List UInt8 := [0x50, 0x72, 0x69, 0x76, 0x61, 0x63, 0x79, 0x4b, 0x65, 0x79]

/-- Source: `SessionKeys::from_encryption_key`. -/
def sessionKeysOf (kd : KeyDerivation) (encryption : SymmetricKey) :
    Except ErrorCode SessionKeys := do
  let privacy ← kd.kdfKey encryption.bytes.toList [] privacyKeyInfo
  pure ⟨encryption, privacy⟩

/-- Three keys from one derivation.
Source: `EstablishedKeys::derive`. -/
def deriveKeys (kd : KeyDerivation) (sharedSecret salt : List UInt8) :
    Except ErrorCode EstablishedKeys := do
  let out ← kd.kdf sharedSecret salt sessionKeysInfo 48
  let i2r ← sessionKeysOf kd (.ofList out)
  let r2i ← sessionKeysOf kd (.ofList (out.drop 16))
  pure ⟨i2r, r2i, .ofList (out.drop 32)⟩

/-- SPAKE2+, with the hash and the key derivation it is used with.
Source: `crypto/spake2p.rs`, `Spake2pVerifierData::from_bytes`, `Spake2pVerifier::new`,
`Spake2pVerifier::pb`, `Spake2pVerifier::finish` and `context`. -/
structure Spake2p extends KeyDerivation where
  fromBytes : List UInt8 → Except ErrorCode Spake2pVerifierData
  verifier : Spake2pVerifierData → (scalar : List UInt8) → Except ErrorCode Spake2pVerifier
  pb : Spake2pVerifier → List UInt8
  finish : Spake2pVerifier → (pa context : List UInt8) →
    Except ErrorCode (List UInt8 × List UInt8 × List UInt8)
  context : (request response : List UInt8) → List UInt8

/-! ## The responder -/

/-- Source: `State`. -/
inductive PaseState
  | awaitingRequest
  | awaitingPake1
  | awaitingPake3
  | established
  | failed
  deriving DecidableEq

/-- Source: `ResponderConfig`. -/
structure ResponderConfig where
  verifier : Spake2pVerifierData
  parameters : PbkdfParameters
  sessionParams : Option SessionParams

/-- Source: `PaseResponder`. -/
structure PaseResponder where
  config : ResponderConfig
  localSessionId : SessionId
  peerSessionId : SessionId := ⟨0⟩
  requestBytes : List UInt8 := []
  responseBytes : List UInt8 := []
  verifier : Option Spake2pVerifier := none
  expectedCa : Option (List UInt8) := none
  keys : Option EstablishedKeys := none
  state : PaseState := .awaitingRequest

namespace PaseResponder

variable (spake : Spake2p)

/-- Source: `copy_of`, into 256 octets. -/
def copyOf (bytes : List UInt8) : Except ErrorCode (List UInt8) := do
  ensure (bytes.length ≤ 256) .noSpace
  pure bytes

/-- Reads a request and makes the response to it, with the responder that has sent it.
Source: `PaseResponder::on_pbkdf_param_request`, past its check of the state. -/
def answerRequest (r : PaseResponder) (payload random : List UInt8) (out : Slice) :
    Except ErrorCode (List UInt8 × PaseResponder) := do
  let request ← PbkdfParamRequest.decode payload
  ensure (request.passcodeId = 0) .invalidArgument
  let response : PbkdfParamResponse :=
    { initiatorRandom := request.initiatorRandom
      responderRandom := random
      responderSessionId := r.localSessionId
      pbkdfParameters := if request.hasPbkdfParameters then none else some r.config.parameters
      sessionParams := r.config.sessionParams }
  let reply ← written response.encode out
  let requestBytes ← copyOf payload
  let responseBytes ← copyOf reply
  pure (reply,
    { r with
      peerSessionId := request.initiatorSessionId
      requestBytes := requestBytes
      responseBytes := responseBytes
      state := .awaitingPake1 })

/-- Source: `PaseResponder::on_pbkdf_param_request`. -/
def onPbkdfParamRequest (r : PaseResponder) (payload random : List UInt8) (out : Slice) :
    Except ErrorCode (List UInt8 × PaseResponder) := do
  ensure (r.state = .awaitingRequest) .invalidState
  r.answerRequest payload random out

/-- Source: `PaseResponder::on_pake1`. -/
def onPake1 (r : PaseResponder) (payload scalar : List UInt8) (out : Slice) :
    Except ErrorCode (List UInt8 × PaseResponder) := do
  ensure (r.state = .awaitingPake1) .invalidState
  let pa ← decodePake1 payload
  let verifier ← spake.verifier r.config.verifier scalar
  let context := spake.context r.requestBytes r.responseBytes
  let (ca, cb, ke) ← spake.finish verifier pa context
  let reply ← written (encodePake2 (spake.pb verifier) cb) out
  let keys ← deriveKeys spake.toKeyDerivation ke []
  pure (reply,
    { r with
      keys := some keys
      expectedCa := some ca
      verifier := some verifier
      state := .awaitingPake3 })

/-- Source: `PaseResponder::on_pake3`. -/
def onPake3 (r : PaseResponder) (payload : List UInt8) (out : Slice) :
    Except ErrorCode (List UInt8 × EstablishedKeys × PaseResponder) := do
  ensure (r.state = .awaitingPake3) .invalidState
  let ca ← decodePake3 payload
  let expected ← okOr r.expectedCa .invalidState
  ensure (ca = expected) .integrityCheckFailed
  let keys ← okOr r.keys .invalidState
  let reply ← (StatusReport.secureChannel .sessionEstablishmentSuccess).encode out.octets.length
  pure (reply, keys, { r with state := .established })

/-- Whether a payload carries the confirmation that the responder waits for.
Source: the comparison in `PaseResponder::on_pake3`. -/
def isConfirmedBy (r : PaseResponder) (payload : List UInt8) : Bool :=
  decide (r.state = .awaitingPake3) && (decodePake3 payload).toOption.any fun ca =>
    decide (r.expectedCa = some ca)

/-! ## What a message does to the responder -/

variable {spake} {r r' : PaseResponder} {payload reply : List UInt8} {out : Slice}

lemma onPbkdfParamRequest_ok {random : List UInt8}
    (h : r.onPbkdfParamRequest payload random out = .ok (reply, r')) :
    r'.state = .awaitingPake1 ∧ r'.config = r.config := by
  rw [onPbkdfParamRequest, answerRequest] at h
  simp only [bind_eq_ok, pure_eq_ok, Except.ok.injEq, Prod.mk.injEq] at h
  obtain ⟨-, -, request, -, -, -, encoded, -, requestBytes, -, responseBytes, -, -, rfl⟩ := h
  exact ⟨rfl, rfl⟩

/-- The response offers the responder's own session id, and the responder keeps it. -/
lemma localSessionId_onPbkdfParamRequest {random : List UInt8}
    (h : r.onPbkdfParamRequest payload random out = .ok (reply, r')) :
    r'.localSessionId = r.localSessionId ∧ ∃ response : PbkdfParamResponse,
      response.responderSessionId = r.localSessionId ∧ written response.encode out = .ok reply := by
  rw [onPbkdfParamRequest, answerRequest] at h
  simp only [bind_eq_ok, pure_eq_ok, Except.ok.injEq, Prod.mk.injEq] at h
  obtain ⟨-, -, request, -, -, -, encoded, hencoded, requestBytes, -, responseBytes, -, rfl, rfl⟩ := h
  exact ⟨rfl, _, rfl, hencoded⟩

lemma onPake1_ok {scalar : List UInt8} (h : r.onPake1 spake payload scalar out = .ok (reply, r')) :
    r.state = .awaitingPake1 ∧ r'.state = .awaitingPake3 ∧ r'.config = r.config := by
  rw [onPake1] at h
  simp only [bind_eq_ok, pure_eq_ok, ensure_eq_ok, Except.ok.injEq, Prod.mk.injEq, Prod.exists] at h
  obtain ⟨-, hstate, pa, -, verifier, -, ca, cb, ke, -, encoded, -, keys, -, -, rfl⟩ := h
  exact ⟨hstate, rfl, rfl⟩

lemma onPake3_ok {keys : EstablishedKeys} (h : r.onPake3 payload out = .ok (reply, keys, r')) :
    r.state = .awaitingPake3 ∧ r.isConfirmedBy payload = true ∧ r' = { r with state := .established } := by
  rw [onPake3] at h
  simp only [bind_eq_ok, pure_eq_ok, ensure_eq_ok, okOr_eq_ok, Except.ok.injEq, Prod.mk.injEq] at h
  obtain ⟨-, hstate, ca, hca, expected, hexpected, -, rfl, k, -, encoded, -, -, -, rfl⟩ := h
  refine ⟨hstate, ?_, rfl⟩
  rw [isConfirmedBy, hstate, hca, hexpected]
  simp [Except.toOption]

/-! ## Messages out of turn -/

lemma onPake1_of_other (h : r.state ≠ .awaitingPake1) (scalar : List UInt8) :
    r.onPake1 spake payload scalar out = .error .invalidState := by
  rw [onPake1, ensure, if_neg h]
  rfl

lemma onPake3_of_other (h : r.state ≠ .awaitingPake3) : r.onPake3 payload out = .error .invalidState := by
  rw [onPake3, ensure, if_neg h]
  rfl

end PaseResponder

end MatterKit.Sc
