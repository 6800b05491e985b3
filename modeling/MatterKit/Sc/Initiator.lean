import MatterKit.Sc.Case

/-!
# The initiator's side of CASE, and resumption

`sc/case.rs`: `CaseInitiator` with its two ways to start, the two answers it may get, and the report that ends
the exchange; and what the responder does with a Sigma1 that asks for a session to be resumed.

Here every call is a computation on the state machine together with the key store, so that what a call that
fails leaves behind is there to look at. The ephemeral key of an initiator is drawn when it starts and destroyed
when the exchange is over; the responder's is drawn and destroyed within one call.
-/

namespace MatterKit

/-- A fabric that answers with a certificate chain.
Source: `CaseResponder::build_sigma2`, whose `noc` and `icac` are arguments. -/
def Fabric.answeringWith (f : Fabric) (noc : List UInt8) (icac : Option (List UInt8)) : Fabric :=
  { f with credentials := { f.credentials with noc := noc, icac := icac } }

/-- Source: `StatusReport::is_success` and `StatusReport::secure_channel_code`, as `accept_finished`
asks for them. -/
def StatusReport.isFinished (r : StatusReport) : Bool :=
  decide (r.general = .success ∨ r.general = .continue_) &&
    decide (r.protocol = .secureChannel ∧
      r.protocolCode = SecureChannelCode.sessionEstablishmentSuccess.toU16)

namespace Sc

open Lib Machine Tlv

/-! ## Sizes, keys and nonces -/

/-- Source: `cert/mod.rs`, `CERT_TLV_MAX`. -/
def certTlvMax : ℕ := 400

/-- Source: `MAX_SIGMA1`. -/
def maxSigma1 : ℕ := 32 + 32 + 65 + 16 + 16 + 64

lemma maxSigma1_lt : maxSigma1 < 2 ^ 63 := by decide

/-- Source: `MAX_SESSION_PARAMS`. -/
def maxSessionParams : ℕ := 2 + 9 * 6

/-- Source: `MAX_SIGMA2`. -/
def maxSigma2 : ℕ := 2 + (3 + 32) + 4 + (3 + 65) + (4 + maxEncrypted2) + maxSessionParams

/-- Source: `MAX_SIGMA3`. -/
def maxSigma3 : ℕ := 2 + 4 + maxEncrypted3

lemma maxEncrypted3_lt : maxEncrypted3 < 2 ^ 63 := by decide

/-- The octets of `"NCASE_SigmaS1"`.
Source: `RESUME1_NONCE`. -/
def resume1Nonce : List UInt8 :=
  [0x4e, 0x43, 0x41, 0x53, 0x45, 0x5f, 0x53, 0x69, 0x67, 0x6d, 0x61, 0x53, 0x31]

/-- The octets of `"NCASE_SigmaS2"`.
Source: `RESUME2_NONCE`. -/
def resume2Nonce : List UInt8 :=
  [0x4e, 0x43, 0x41, 0x53, 0x45, 0x5f, 0x53, 0x69, 0x67, 0x6d, 0x61, 0x53, 0x32]

/-- The octets of `"Sigma1_Resume"`.
Source: `S1RK_INFO`. -/
def s1rkInfo : List UInt8 :=
  [0x53, 0x69, 0x67, 0x6d, 0x61, 0x31, 0x5f, 0x52, 0x65, 0x73, 0x75, 0x6d, 0x65]

/-- The octets of `"Sigma2_Resume"`.
Source: `S2RK_INFO`. -/
def s2rkInfo : List UInt8 :=
  [0x53, 0x69, 0x67, 0x6d, 0x61, 0x32, 0x5f, 0x52, 0x65, 0x73, 0x75, 0x6d, 0x65]

/-- The octets of `"SessionResumptionKeys"`.
Source: `RESUMPTION_SESSION_KEYS_INFO`. -/
def resumptionSessionKeysInfo : List UInt8 :=
  [0x53, 0x65, 0x73, 0x73, 0x69, 0x6f, 0x6e, 0x52, 0x65, 0x73, 0x75, 0x6d, 0x70, 0x74, 0x69, 0x6f,
    0x6e, 0x4b, 0x65, 0x79, 0x73]

/-- Source: `EstablishedKeys::derive_with_info`. -/
def deriveKeysWithInfo (kd : KeyDerivation) (sharedSecret salt info : List UInt8) :
    Except ErrorCode EstablishedKeys := do
  let out ← kd.kdf sharedSecret salt info 48
  let i2r ← sessionKeysOf kd (.ofList out)
  let r2i ← sessionKeysOf kd (.ofList (out.drop 16))
  pure ⟨i2r, r2i, .ofList (out.drop 32)⟩

namespace CaseCrypto

variable (c : CaseCrypto)

/-- Source: `sigma1_resume_key`, with `resume_salt`. -/
def sigma1ResumeKey (sharedSecret initiatorRandom resumptionId : List UInt8) :
    Except ErrorCode SymmetricKey :=
  c.kdfKey sharedSecret (initiatorRandom ++ resumptionId) s1rkInfo

/-- Source: `sigma2_resume_key`, with `resume_salt`. -/
def sigma2ResumeKey (sharedSecret initiatorRandom resumptionId : List UInt8) :
    Except ErrorCode SymmetricKey :=
  c.kdfKey sharedSecret (initiatorRandom ++ resumptionId) s2rkInfo

/-- Source: `resumption_session_keys`, with `resume_salt`. -/
def resumptionSessionKeys (sharedSecret initiatorRandom resumptionId : List UInt8) :
    Except ErrorCode EstablishedKeys :=
  deriveKeysWithInfo c.toKeyDerivation sharedSecret (initiatorRandom ++ resumptionId)
    resumptionSessionKeysInfo

end CaseCrypto

/-! ## The answer to a resumption -/

/-- Source: `Sigma2Resume`. -/
structure Sigma2Resume where
  resumptionId : List UInt8
  sigma2ResumeMic : List UInt8
  responderSessionId : SessionId
  sessionParams : Option SessionParams := none
  deriving DecidableEq

namespace Sigma2Resume

/-- Source: `Sigma2Resume::encode`. -/
def encode (s : Sigma2Resume) : Writing Unit := do
  start .anonymous .struct
  octets (.context 1) s.resumptionId
  octets (.context 2) s.sigma2ResumeMic
  unsigned (.context 3) s.responderSessionId.val.toUInt64
  Im.whenSome s.sessionParams fun params => params.encode (.context 4)
  endContainer

end Sigma2Resume

/-! ## Calls on a state machine and a key store -/

section Calls

variable {P K α : Type}

/-- A computation on the key store, as part of a call. -/
def onKeys (x : Machine K ErrorCode α) : Machine (P × K) ErrorCode α :=
  ExceptT.mk fun s => ((exec x s.2).1, (s.1, (exec x s.2).2))

/-- A change of the state machine, as part of a call. -/
def setParty (p : P) : Machine (P × K) ErrorCode PUnit := modify fun s => (p, s.2)

/-- A call that does something more where it fails, and fails all the same.
Source: `if result.is_err()` of `handle_sigma1` and `handle_sigma2`. -/
def onFailure (x : Machine (P × K) ErrorCode α) (cleanUp : P × K → P × K) :
    Machine (P × K) ErrorCode α :=
  ExceptT.mk fun s =>
    match exec x s with
    | (.ok a, s) => (.ok a, s)
    | (.error e, s) => (.error e, cleanUp s)

lemma exec_onKeys (x : Machine K ErrorCode α) (s : P × K) :
    exec (onKeys x) s = ((exec x s.2).1, (s.1, (exec x s.2).2)) := rfl

lemma exec_setParty (p : P) (s : P × K) : exec (setParty p) s = (.ok (), (p, s.2)) := rfl

lemma exec_onFailure (x : Machine (P × K) ErrorCode α) (cleanUp : P × K → P × K) (s : P × K) :
    exec (onFailure x cleanUp) s =
      match exec x s with
      | (.ok a, s) => (.ok a, s)
      | (.error e, s) => (.error e, cleanUp s) := rfl

end Calls

/-! ## The initiator -/

/-- The initiator between Sigma1 and its answer; the transcript is the messages so far.
Source: `Box1`. -/
structure InitiatorPending where
  initiatorRandom : List UInt8
  ephHandle : KeyHandle
  initiatorEphPubKey : PublicKey
  ipk : SymmetricKey
  fabricIndex : FabricIndex
  fabricId : FabricId
  peerNodeId : NodeId
  transcript : List UInt8
  deriving DecidableEq

/-- Source: `InitiatorState`. -/
inductive InitiatorState
  | start
  | awaitingSigma2 (pending : InitiatorPending)
  | done
  | failed
  deriving DecidableEq

/-- Source: `CaseInitiator`. -/
structure CaseInitiator where
  sessionId : SessionId
  sessionParams : Option SessionParams
  state : InitiatorState := .start

/-- The message an initiator starts with.
Source: `CaseInitiator::start`, `sigma1`. -/
def CaseInitiator.sigma1 (i : CaseInitiator) (initiatorRandom destinationId : List UInt8)
    (own : PublicKey) : Sigma1 where
  initiatorRandom := initiatorRandom
  initiatorSessionId := i.sessionId
  destinationId := destinationId
  initiatorEphPubKey := own
  sessionParams := i.sessionParams

/-- A Sigma1 that asks for a session to be resumed.
Source: `CaseInitiator::start_resumption`, the two fields it sets. -/
def Sigma1.resuming (s : Sigma1) (resumptionId mic : List UInt8) : Sigma1 :=
  { s with resumptionId := some resumptionId, initiatorResumeMic := some mic }

namespace CaseInitiator

variable {K : Type} (c : CaseCrypto) (store : KeyStore K)

/-- Source: `CaseInitiator::start`. -/
def start (fabric : Fabric) (peerNodeId : NodeId) (initiatorRandom ephemeralRandom : List UInt8)
    (out : Slice) : Machine (CaseInitiator × K) ErrorCode (List UInt8) := do
  let (i, _) ← get
  require (i.state = .start) .invalidState
  let destinationId ← ofResult (c.destinationIdentifier fabric.ipk initiatorRandom
    fabric.rootPublicKey fabric.fabricId peerNodeId)
  let (handle, own) ← onKeys (ExceptT.mk fun keys => store.generate keys .ephemeral ephemeralRandom)
  let encoded ← ofResult (written (i.sigma1 initiatorRandom destinationId own).encode out)
  setParty
    { i with
      state := .awaitingSigma2
        { initiatorRandom := initiatorRandom
          ephHandle := handle
          initiatorEphPubKey := own
          ipk := fabric.ipk
          fabricIndex := fabric.index
          fabricId := fabric.fabricId
          peerNodeId := peerNodeId
          transcript := encoded } }
  pure encoded

/-- The initiator with another message in its transcript, if it waits for the answer to it.
Source: `CaseInitiator::start_resumption`, its `if let`. -/
def restarted (i : CaseInitiator) (encoded : List UInt8) : CaseInitiator :=
  match i.state with
  | .awaitingSigma2 pending => { i with state := .awaitingSigma2 { pending with transcript := encoded } }
  | _ => i

/-- Source: `CaseInitiator::start_resumption`. -/
def startResumption (fabric : Fabric) (peerNodeId : NodeId) (previous : ResumptionState)
    (initiatorRandom ephemeralRandom : List UInt8) (out : Slice) :
    Machine (CaseInitiator × K) ErrorCode (List UInt8) := do
  let first ← start c store fabric peerNodeId initiatorRandom ephemeralRandom out
  let s1rk ← ofResult (c.sigma1ResumeKey previous.sharedSecret initiatorRandom previous.resumptionId)
  let mic ← ofResult (c.sealIn 16 s1rk resume1Nonce [])
  let sigma1 ← ofResult (Sigma1.decode first)
  let encoded ← ofResult (written (sigma1.resuming previous.resumptionId mic).encode
    (zeros maxSigma1 maxSigma1_lt))
  require (encoded.length ≤ out.octets.length) .bufferTooSmall
  let (i, _) ← get
  setParty (i.restarted encoded)
  pure encoded

/-- What an initiator has when its chain, its signature and its answer are in place.
Source: `CaseInitiator::build_sigma3`, from `sigma2_key` to `session_keys`. -/
def sigma3 (pending : InitiatorPending) (sharedSecret : List UInt8) (sigma2 : Sigma2)
    (fabric : Fabric) (root : MatterCertificate) (noc : List UInt8) (icac : Option (List UInt8))
    (keys : K) (epochS : Option UInt32) (out : Slice) :
    Except ErrorCode (List UInt8 × CaseOutcome) := do
  let s2k ← c.sigma2Key sharedSecret pending.ipk sigma2.responderRandom sigma2.responderEphPubKey
    (c.hash pending.transcript)
  let plaintext ← c.openIn maxEncrypted2 s2k sigma2Nonce sigma2.encrypted2
  let tbe ← TbeData.decode plaintext
  let peer ← verifyPeer c tbe root epochS pending.fabricId (some pending.peerNodeId)
    sigma2.responderEphPubKey pending.initiatorEphPubKey
  let resumptionId ← okOr tbe.resumptionId .tlvWrongType
  let transcript := pending.transcript ++ sigma2.encoded
  let tbsdata ← encodeTbsdata noc icac pending.initiatorEphPubKey sigma2.responderEphPubKey
  let signature ← store.sign keys fabric.operationalKey tbsdata
  let own : TbeData := ⟨noc, icac, signature, none⟩
  let plaintext ← written own.encode (zeros maxEncrypted3 maxEncrypted3_lt)
  let s3k ← c.sigma3Key sharedSecret pending.ipk (c.hash transcript)
  let encrypted3 ← c.sealIn maxEncrypted3 s3k sigma3Nonce plaintext
  let encoded ← written (Sigma3.encode encrypted3) out
  let session ← c.sessionKeys sharedSecret pending.ipk (c.hash (transcript ++ encoded))
  pure (encoded,
    { keys := session
      peer := peer
      peerSessionId := sigma2.responderSessionId
      peerSessionParams := sigma2.sessionParams
      resumption := ⟨sharedSecret, resumptionId, pending.fabricIndex, peer⟩ })

/-- Source: `CaseInitiator::build_sigma3`. -/
def buildSigma3 (sigma2 : Sigma2) (fabric : Fabric) (root : MatterCertificate) (noc : List UInt8)
    (icac : Option (List UInt8)) (epochS : Option UInt32) (out : Slice) :
    Machine (CaseInitiator × K) ErrorCode (List UInt8 × CaseOutcome) := do
  let (i, keys) ← get
  match i.state with
  | .awaitingSigma2 pending => do
    let sharedSecret ← ofResult (store.ecdh keys pending.ephHandle sigma2.responderEphPubKey)
    let answer ← ofResult (sigma3 c store pending sharedSecret sigma2 fabric root noc icac keys
      epochS out)
    onKeys (ExceptT.mk fun keys => store.remove keys pending.ephHandle)
    setParty { i with state := .done }
    pure answer
  | _ => throw .invalidState

/-- The ephemeral key is destroyed, and the initiator has failed.
Source: `CaseInitiator::handle_sigma2` and `accept_resume`, where they fail. -/
def abandon (s : CaseInitiator × K) : CaseInitiator × K :=
  match s.1.state with
  | .awaitingSigma2 pending => ({ s.1 with state := .failed }, (store.remove s.2 pending.ephHandle).2)
  | _ => ({ s.1 with state := .failed }, s.2)

/-- Source: `CaseInitiator::handle_sigma2`. -/
def handleSigma2 (sigma2 : Sigma2) (fabric : Fabric) (root : MatterCertificate) (noc : List UInt8)
    (icac : Option (List UInt8)) (epochS : Option UInt32) (out : Slice) :
    Machine (CaseInitiator × K) ErrorCode (List UInt8 × CaseOutcome) :=
  onFailure (buildSigma3 c store sigma2 fabric root noc icac epochS out) (abandon store)

/-- Source: `CaseInitiator::accept_finished`. -/
def acceptFinished (report : List UInt8) : Machine (CaseInitiator × K) ErrorCode Unit := do
  let report ← ofResult (StatusReport.decode report)
  onFailure (require (report.isFinished = true) .invalidState)
    fun s => ({ s.1 with state := .failed }, s.2)

/-- Source: `CaseInitiator::accept_resume`. -/
def acceptResume (message : Sigma2Resume) (previous : ResumptionState) :
    Machine (CaseInitiator × K) ErrorCode CaseOutcome := do
  let (i, _) ← get
  match i.state with
  | .awaitingSigma2 pending => do
    let s2rk ← ofResult (c.sigma2ResumeKey previous.sharedSecret pending.initiatorRandom
      message.resumptionId)
    let _ ← onFailure (ofResult (c.openIn 16 s2rk resume2Nonce message.sigma2ResumeMic)) (abandon store)
    let session ← ofResult (c.resumptionSessionKeys previous.sharedSecret pending.initiatorRandom
      message.resumptionId)
    onKeys (ExceptT.mk fun keys => store.remove keys pending.ephHandle)
    setParty { i with state := .done }
    pure
      { keys := session
        peer := previous.identity
        peerSessionId := message.responderSessionId
        peerSessionParams := message.sessionParams
        resumption := ⟨previous.sharedSecret, message.resumptionId, pending.fabricIndex,
          previous.identity⟩ }
  | _ => throw .invalidState

end CaseInitiator

/-! ## The responder, with the state it leaves -/

namespace CaseResponder

variable {K : Type} (c : CaseCrypto) (store : KeyStore K)

/-- The responder has failed.
Source: `self.state = ResponderState::Failed`. -/
def fail (s : CaseResponder × K) : CaseResponder × K := ({ s.1 with state := .failed }, s.2)

/-- Source: `CaseResponder::handle_sigma1`. -/
def handleSigma1 (sigma1 : Sigma1) (fabric : Fabric) (noc : List UInt8) (icac : Option (List UInt8))
    (randomness : Sigma2Randomness) (out : Slice) :
    Machine (CaseResponder × K) ErrorCode (List UInt8) := do
  let (r, _) ← get
  onFailure (do
    require (r.state = .awaitingSigma1) .invalidState
    let (r, reply) ← onKeys (buildSigma2 c store r sigma1 (fabric.answeringWith noc icac)
      randomness out)
    setParty r
    pure reply) fail

/-- What is left of a responder that does not accept a Sigma3: one that could not derive the key waits
on.
Source: `CaseResponder::handle_sigma3`, the places it sets its state. -/
def afterRefusal (r : CaseResponder) : CaseResponder :=
  match r.state with
  | .awaitingSigma3 pending =>
    if (c.sigma3Key pending.sharedSecret pending.ipk (c.hash pending.transcript)).isOk then
      { r with state := .failed }
    else r
  | _ => { r with state := .failed }

/-- Source: `CaseResponder::handle_sigma3`, with the state it leaves. -/
def takeSigma3 (sigma3 : Sigma3) (root : MatterCertificate) (epochS : Option UInt32) :
    Machine (CaseResponder × K) ErrorCode CaseOutcome := do
  let (r, _) ← get
  let (outcome, r) ← onFailure (ofResult (r.handleSigma3 c sigma3 root epochS))
    fun s => (r.afterRefusal c, s.2)
  setParty r
  pure outcome

/-- Source: `CaseResponder::finished`. -/
def finished (out : Slice) : Machine (CaseResponder × K) ErrorCode (List UInt8) := do
  let (r, _) ← get
  require (r.state = .done) .invalidState
  ofResult ((StatusReport.secureChannel .sessionEstablishmentSuccess).encode out.octets.length)

/-- Source: `CaseResponder::handle_sigma1_resumption`. -/
def handleSigma1Resumption (sigma1 : Sigma1) (previous : ResumptionState)
    (resumptionRandom : List UInt8) (out : Slice) :
    Machine (CaseResponder × K) ErrorCode (List UInt8 × CaseOutcome) := do
  let (r, _) ← get
  require (r.state = .awaitingSigma1) .invalidState
  let offered ← ofResult (okOr sigma1.resumptionId .invalidArgument)
  let mic ← ofResult (okOr sigma1.initiatorResumeMic .invalidArgument)
  require (offered = previous.resumptionId) .invalidArgument
  let s1rk ← ofResult (c.sigma1ResumeKey previous.sharedSecret sigma1.initiatorRandom
    previous.resumptionId)
  let _ ← ofResult (c.openIn 16 s1rk resume1Nonce mic)
  let s2rk ← ofResult (c.sigma2ResumeKey previous.sharedSecret sigma1.initiatorRandom resumptionRandom)
  let mic ← ofResult (c.sealIn 16 s2rk resume2Nonce [])
  let message : Sigma2Resume := ⟨resumptionRandom, mic, r.sessionId, r.sessionParams⟩
  let reply ← ofResult (written message.encode out)
  let keys ← ofResult (c.resumptionSessionKeys previous.sharedSecret sigma1.initiatorRandom
    resumptionRandom)
  setParty { r with state := .done }
  pure (reply,
    { keys := keys
      peer := previous.identity
      peerSessionId := sigma1.initiatorSessionId
      peerSessionParams := sigma1.sessionParams
      resumption := ⟨previous.sharedSecret, resumptionRandom, previous.fabricIndex,
        previous.identity⟩ })

end CaseResponder

end Sc

end MatterKit
