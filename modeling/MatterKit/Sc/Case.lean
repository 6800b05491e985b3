import MatterKit.Sc.Pase

/-!
# CASE

`sc/case.rs`: the three Sigma messages and the two state machines over them. The responder resolves
the destination identifier of a Sigma1 to one of its fabrics, answers with that fabric's credentials
and keeps the fabric's id; the initiator holds the answer to the fabric and the node it addressed; and
each side checks the other's chain against a root and its signature over both ephemeral keys, own
first.

Certificates, signatures, the hash and the AEAD are parameters (`CaseCrypto`), as is the store that
keeps the private keys.
-/

namespace MatterKit.Sc

open Lib Machine Tlv

/-! ## What CASE is built from -/

/-- Source: `cert/chain.rs`, `VerifiedIdentity`. -/
structure VerifiedIdentity where
  nodeId : NodeId
  fabricId : FabricId
  cats : BoundedVec CaseAuthenticatedTag 3

/-- A decoded certificate: its octets, and the key it certifies.
Source: `cert/mod.rs`, `MatterCertificate`, of which CASE itself reads `public_key`. -/
structure MatterCertificate where
  encoded : List UInt8
  publicKey : PublicKey

/-- The primitives of CASE.
Source: `crypto/rustcrypto.rs`, `Hasher`, `aead_encrypt_in_place` and `aead_decrypt_in_place`;
`crypto/mod.rs`, `verify`; `cert/mod.rs`, `MatterCertificate::decode`; `cert/chain.rs`,
`verify_chain`. -/
structure CaseCrypto extends KeyDerivation where
  aead : Crypto
  hash : List UInt8 → List UInt8
  verify : PublicKey → (message signature : List UInt8) → Except ErrorCode Bool
  decodeCertificate : List UInt8 → Except ErrorCode MatterCertificate
  verifyChain : (noc : MatterCertificate) → (icac : Option MatterCertificate) →
    (root : MatterCertificate) → (epochS : Option UInt32) → Except ErrorCode VerifiedIdentity

/-- A buffer of zeros. -/
def zeros (n : ℕ) (h : n < 2 ^ 63) : Slice := ⟨List.replicate n 0, Slice.length_replicate h⟩

lemma zeros_256 : 256 < 2 ^ 63 := by decide

lemma zeros_512 : 512 < 2 ^ 63 := by decide

/-- Source: `MAX_ENCRYPTED2`. -/
def maxEncrypted2 : ℕ := 912

lemma maxEncrypted2_lt : maxEncrypted2 < 2 ^ 63 := by decide

/-- Source: `MAX_ENCRYPTED3`. -/
def maxEncrypted3 : ℕ := 893

/-- Source: `MAX_TBSDATA`. -/
def maxTbsdata : ℕ := 946

lemma maxTbsdata_lt : maxTbsdata < 2 ^ 63 := by decide

/-- The octets of `"NCASE_Sigma2N"`.
Source: `SIGMA2_NONCE`. -/
def sigma2Nonce : List UInt8 :=
  [0x4e, 0x43, 0x41, 0x53, 0x45, 0x5f, 0x53, 0x69, 0x67, 0x6d, 0x61, 0x32, 0x4e]

/-- The octets of `"NCASE_Sigma3N"`.
Source: `SIGMA3_NONCE`. -/
def sigma3Nonce : List UInt8 :=
  [0x4e, 0x43, 0x41, 0x53, 0x45, 0x5f, 0x53, 0x69, 0x67, 0x6d, 0x61, 0x33, 0x4e]

/-- The octets of `"Sigma2"`.
Source: `S2K_INFO`. -/
def s2kInfo : List UInt8 := [0x53, 0x69, 0x67, 0x6d, 0x61, 0x32]

/-- The octets of `"Sigma3"`.
Source: `S3K_INFO`. -/
def s3kInfo : List UInt8 := [0x53, 0x69, 0x67, 0x6d, 0x61, 0x33]

namespace CaseCrypto

variable (c : CaseCrypto)

/-- Source: `sigma2_key`. -/
def sigma2Key (sharedSecret : List UInt8) (ipk : SymmetricKey) (responderRandom : List UInt8)
    (responderEphPubKey : PublicKey) (transcriptHash : List UInt8) : Except ErrorCode SymmetricKey :=
  c.kdfKey sharedSecret
    (ipk.bytes.toList ++ responderRandom ++ responderEphPubKey.bytes.toList ++ transcriptHash) s2kInfo

/-- Source: `sigma3_key`. -/
def sigma3Key (sharedSecret : List UInt8) (ipk : SymmetricKey) (transcriptHash : List UInt8) :
    Except ErrorCode SymmetricKey :=
  c.kdfKey sharedSecret (ipk.bytes.toList ++ transcriptHash) s3kInfo

/-- Source: `session_keys`. -/
def sessionKeys (sharedSecret : List UInt8) (ipk : SymmetricKey) (transcriptHash : List UInt8) :
    Except ErrorCode EstablishedKeys :=
  deriveKeys c.toKeyDerivation sharedSecret (ipk.bytes.toList ++ transcriptHash)

/-- Encrypts in a buffer of so many octets and appends the tag.
Source: `seal`. -/
def sealIn (capacity : ℕ) (key : SymmetricKey) (nonce plaintext : List UInt8) :
    Except ErrorCode (List UInt8) := do
  ensure (plaintext.length + 16 ≤ capacity) .bufferTooSmall
  let (ciphertext, tag) ← okOr (c.aead.aeadEncrypt key nonce [] plaintext) .integrityCheckFailed
  pure (ciphertext ++ tag)

/-- Source: `open`. -/
def openIn (capacity : ℕ) (key : SymmetricKey) (nonce sealed : List UInt8) :
    Except ErrorCode (List UInt8) := do
  ensure (16 ≤ sealed.length) .integrityCheckFailed
  ensure (sealed.length - 16 ≤ capacity) .bufferTooSmall
  okOr (c.aead.aeadDecrypt key nonce [] (sealed.take (sealed.length - 16))
    (sealed.drop (sealed.length - 16))) .integrityCheckFailed

end CaseCrypto

/-! ## The messages -/

/-- Source: `fixed`. -/
def fixedBytes (length : ℕ) (e : Element) : Except ErrorCode (List UInt8) := do
  let bytes ← octetsOf e
  ensure (bytes.length = length) .tlvWrongType
  pure bytes

/-- Source: `PublicKey::from_slice`. -/
def publicKeyOf (e : Element) : Except ErrorCode PublicKey := do
  let bytes ← octetsOf e
  if h : bytes.length = 65 then pure ⟨⟨bytes.toArray, by simpa using h⟩⟩
  else .error .invalidArgument

/-- Source: `u16::try_from(element.unsigned()?).map_err(|_| parse_error())`. -/
def sessionIdOf (e : Element) : Except ErrorCode SessionId := do
  let v ← e.unsigned
  ensure (v.toNat < 2 ^ 16) .tlvWrongType
  pure ⟨v.toUInt16⟩

/-- Source: `Sigma1`. -/
structure Sigma1 where
  initiatorRandom : List UInt8
  initiatorSessionId : SessionId
  destinationId : List UInt8
  initiatorEphPubKey : PublicKey
  sessionParams : Option SessionParams := none
  resumptionId : Option (List UInt8) := none
  initiatorResumeMic : Option (List UInt8) := none
  encoded : List UInt8 := []

namespace Sigma1

/-- Source: `Sigma1::encode`. -/
def encode (s : Sigma1) : Writing Unit := do
  start .anonymous .struct
  octets (.context 1) s.initiatorRandom
  unsigned (.context 2) s.initiatorSessionId.val.toUInt64
  octets (.context 3) s.destinationId
  octets (.context 4) s.initiatorEphPubKey.bytes.toList
  Im.whenSome s.sessionParams fun params => params.encode (.context 5)
  Im.whenSome s.resumptionId fun id => octets (.context 6) id
  Im.whenSome s.initiatorResumeMic fun mic => octets (.context 7) mic
  endContainer

/-- The variables of `Sigma1::decode`. -/
structure Fields where
  initiatorRandom : Option (List UInt8) := none
  initiatorSessionId : Option SessionId := none
  destinationId : Option (List UInt8) := none
  initiatorEphPubKey : Option PublicKey := none
  sessionParams : Option SessionParams := none
  resumptionId : Option (List UInt8) := none
  initiatorResumeMic : Option (List UInt8) := none

/-- Source: `Sigma1::decode`, the body of its loop. -/
def decodeField (tag : UInt8) (e : Element) (f : Fields) : Reading Fields :=
  match tag with
  | 1 => do
    let v ← Im.setField f.initiatorRandom (fixedBytes 32 e)
    pure { f with initiatorRandom := v }
  | 2 => do
    let v ← Im.setField f.initiatorSessionId (sessionIdOf e)
    pure { f with initiatorSessionId := v }
  | 3 => do
    let v ← Im.setField f.destinationId (fixedBytes 32 e)
    pure { f with destinationId := v }
  | 4 => do
    let v ← Im.setField f.initiatorEphPubKey (publicKeyOf e)
    pure { f with initiatorEphPubKey := v }
  | 5 => do
    let params ← SessionParams.decode
    let v ← Im.setField f.sessionParams (.ok params)
    pure { f with sessionParams := v }
  | 6 => do
    let v ← Im.setField f.resumptionId (fixedBytes 16 e)
    pure { f with resumptionId := v }
  | 7 => do
    let v ← Im.setField f.initiatorResumeMic (fixedBytes 16 e)
    pure { f with initiatorResumeMic := v }
  | _ => do
    skipValue e
    pure f

/-- Source: `Sigma1::decode`. -/
def decode (buf : List UInt8) : Except ErrorCode Sigma1 := do
  let f ← decodeStruct decodeField {} buf
  let initiatorRandom ← okOr f.initiatorRandom .tlvWrongType
  let initiatorSessionId ← okOr f.initiatorSessionId .tlvWrongType
  let destinationId ← okOr f.destinationId .tlvWrongType
  let initiatorEphPubKey ← okOr f.initiatorEphPubKey .tlvWrongType
  pure
    { initiatorRandom := initiatorRandom
      initiatorSessionId := initiatorSessionId
      destinationId := destinationId
      initiatorEphPubKey := initiatorEphPubKey
      sessionParams := f.sessionParams
      resumptionId := f.resumptionId
      initiatorResumeMic := f.initiatorResumeMic
      encoded := buf }

end Sigma1

/-- Source: `Sigma2`. -/
structure Sigma2 where
  responderRandom : List UInt8
  responderSessionId : SessionId
  responderEphPubKey : PublicKey
  encrypted2 : List UInt8
  sessionParams : Option SessionParams := none
  encoded : List UInt8 := []

namespace Sigma2

/-- Source: `Sigma2::encode`. -/
def encode (s : Sigma2) : Writing Unit := do
  start .anonymous .struct
  octets (.context 1) s.responderRandom
  unsigned (.context 2) s.responderSessionId.val.toUInt64
  octets (.context 3) s.responderEphPubKey.bytes.toList
  octets (.context 4) s.encrypted2
  Im.whenSome s.sessionParams fun params => params.encode (.context 5)
  endContainer

end Sigma2

/-- Source: `Sigma3`. -/
structure Sigma3 where
  encrypted3 : List UInt8
  encoded : List UInt8

namespace Sigma3

/-- Source: `Sigma3::encode`. -/
def encode (encrypted3 : List UInt8) : Writing Unit := do
  start .anonymous .struct
  octets (.context 1) encrypted3
  endContainer

/-- Source: `Sigma3::decode`, the body of its loop. -/
def decodeField (tag : UInt8) (e : Element) (acc : Option (List UInt8)) :
    Reading (Option (List UInt8)) :=
  match tag with
  | 1 => Im.setField acc (octetsOf e)
  | _ => do
    skipValue e
    pure acc

/-- Source: `Sigma3::decode`. -/
def decode (buf : List UInt8) : Except ErrorCode Sigma3 := do
  let f ← decodeStruct decodeField none buf
  let encrypted3 ← okOr f .tlvWrongType
  pure ⟨encrypted3, buf⟩

end Sigma3

/-- The structure that is signed and never sent: the signer's chain, its own ephemeral key, then the
peer's.
Source: `encode_tbsdata`. -/
def encodeTbsdata (noc : List UInt8) (icac : Option (List UInt8)) (own peer : PublicKey) :
    Except ErrorCode (List UInt8) :=
  let write : Writing Unit := do
    start .anonymous .struct
    octets (.context 1) noc
    Im.whenSome icac fun icac => octets (.context 2) icac
    octets (.context 3) own.bytes.toList
    octets (.context 4) peer.bytes.toList
    endContainer
  written write (zeros maxTbsdata maxTbsdata_lt)

/-- Source: `TbeData`. -/
structure TbeData where
  noc : List UInt8
  icac : Option (List UInt8)
  signature : List UInt8
  resumptionId : Option (List UInt8)

namespace TbeData

/-- Source: `TbeData::encode`. -/
def encode (t : TbeData) : Writing Unit := do
  start .anonymous .struct
  octets (.context 1) t.noc
  Im.whenSome t.icac fun icac => octets (.context 2) icac
  octets (.context 3) t.signature
  Im.whenSome t.resumptionId fun id => octets (.context 4) id
  endContainer

/-- The variables of `TbeData::decode`. -/
structure Fields where
  noc : Option (List UInt8) := none
  icac : Option (List UInt8) := none
  signature : Option (List UInt8) := none
  resumptionId : Option (List UInt8) := none

/-- Source: `Signature::from_slice`. -/
def signatureOf (e : Element) : Except ErrorCode (List UInt8) := fixedOf 64 e

/-- Source: `TbeData::decode`, the body of its loop. -/
def decodeField (tag : UInt8) (e : Element) (f : Fields) : Reading Fields :=
  match tag with
  | 1 => do
    let v ← Im.setField f.noc (octetsOf e)
    pure { f with noc := v }
  | 2 => do
    let v ← Im.setField f.icac (octetsOf e)
    pure { f with icac := v }
  | 3 => do
    let v ← Im.setField f.signature (signatureOf e)
    pure { f with signature := v }
  | 4 => do
    let v ← Im.setField f.resumptionId (fixedBytes 16 e)
    pure { f with resumptionId := v }
  | _ => do
    skipValue e
    pure f

/-- Source: `TbeData::decode`. -/
def decode (buf : List UInt8) : Except ErrorCode TbeData := do
  let f ← decodeStruct decodeField {} buf
  let noc ← okOr f.noc .tlvWrongType
  let signature ← okOr f.signature .tlvWrongType
  pure ⟨noc, f.icac, signature, f.resumptionId⟩

end TbeData

/-! ## The peer -/

/-- Verifies a peer's chain, its identity, and its signature over what it should have signed.
Source: `verify_peer`. -/
def verifyPeer (c : CaseCrypto) (tbe : TbeData) (root : MatterCertificate) (epochS : Option UInt32)
    (expectedFabric : FabricId) (expectedNode : Option NodeId) (signer peer : PublicKey) :
    Except ErrorCode VerifiedIdentity := do
  let noc ← c.decodeCertificate tbe.noc
  let icac ← tbe.icac.mapM c.decodeCertificate
  let identity ← c.verifyChain noc icac root epochS
  ensure (identity.fabricId = expectedFabric) .certPathInvalid
  ensure (∀ node ∈ expectedNode, identity.nodeId = node) .certPathInvalid
  let tbsdata ← encodeTbsdata tbe.noc tbe.icac signer peer
  let valid ← c.verify noc.publicKey tbsdata tbe.signature
  ensure (valid = true) .certPathInvalid
  pure identity

/-- Source: `ResumptionState`. -/
structure ResumptionState where
  sharedSecret : List UInt8
  resumptionId : List UInt8
  fabricIndex : FabricIndex
  identity : VerifiedIdentity

/-- Source: `CaseOutcome`. -/
structure CaseOutcome where
  keys : EstablishedKeys
  peer : VerifiedIdentity
  peerSessionId : SessionId
  peerSessionParams : Option SessionParams
  resumption : ResumptionState

/-- The session of a handshake, on a fabric.
Source: `CaseOutcome::into_session`. -/
def CaseOutcome.intoSession (o : CaseOutcome) (localSessionId : SessionId) (fabric : Fabric)
    (randomness : UInt32) (now : Instant) : SecureSession :=
  let session := SecureSession.new localSessionId o.peerSessionId .caseSession .responder o.keys
    randomness now
  { session with
    localNodeId := fabric.nodeId
    peerNodeId := o.peer.nodeId
    fabricIndex := fabric.index
    peerCats := o.peer.cats
    mrp := (o.peerSessionParams.map SessionParams.toMrp).getD session.mrp }

/-! ## The responder -/

/-- The responder between Sigma2 and Sigma3; the transcript is the messages so far.
Source: `Box2`. -/
structure ResponderPending where
  sharedSecret : List UInt8
  ipk : SymmetricKey
  transcript : List UInt8
  fabricIndex : FabricIndex
  fabricId : FabricId
  initiatorSessionId : SessionId
  initiatorSessionParams : Option SessionParams
  initiatorEphPubKey : PublicKey
  responderEphPubKey : PublicKey
  resumptionId : List UInt8
  deriving DecidableEq

/-- Source: `ResponderState`. -/
inductive ResponderState
  | awaitingSigma1
  | awaitingSigma3 (pending : ResponderPending)
  | done
  | failed
  deriving DecidableEq

/-- Source: `CaseResponder`. -/
structure CaseResponder where
  sessionId : SessionId
  sessionParams : Option SessionParams
  state : ResponderState := .awaitingSigma1

/-- Source: `Sigma2Randomness`. -/
structure Sigma2Randomness where
  ephemeral : List UInt8
  responder : List UInt8
  resumption : List UInt8

namespace CaseResponder

variable {K : Type} (c : CaseCrypto) (store : KeyStore K)

/-- Draws an ephemeral key, agrees on a secret with the peer's and destroys the key, whether or not
there is a secret.
Source: `CaseResponder::build_sigma2`, from `keys.generate` to `shared_secret?`. -/
def agree (ephemeral : List UInt8) (peer : PublicKey) :
    Machine K ErrorCode (List UInt8 × PublicKey) := do
  let (handle, own) ← ExceptT.mk fun keys => store.generate keys .ephemeral ephemeral
  let keys ← get
  let sharedSecret := store.ecdh keys handle peer
  ExceptT.mk fun keys => store.remove keys handle
  let sharedSecret ← ofResult sharedSecret
  pure (sharedSecret, own)

/-- Source: `CaseResponder::build_sigma2`, called by `handle_sigma1` on a new responder. -/
def buildSigma2 (r : CaseResponder) (sigma1 : Sigma1) (fabric : Fabric)
    (randomness : Sigma2Randomness) (out : Slice) :
    Machine K ErrorCode (CaseResponder × List UInt8) := do
  let noc := fabric.credentials.noc
  let icac := fabric.credentials.icac
  let expected ← ofResult (fabric.destinationIdentifier c.toKeyDerivation sigma1.initiatorRandom)
  require (expected = sigma1.destinationId) .certPathInvalid
  let (sharedSecret, own) ← agree store randomness.ephemeral sigma1.initiatorEphPubKey
  let s2k ← ofResult (c.sigma2Key sharedSecret fabric.ipk randomness.responder own
    (c.hash sigma1.encoded))
  let tbsdata ← ofResult (encodeTbsdata noc icac own sigma1.initiatorEphPubKey)
  let keys ← get
  let signature ← ofResult (store.sign keys fabric.operationalKey tbsdata)
  let tbe : TbeData := ⟨noc, icac, signature, some randomness.resumption⟩
  let plaintext ← ofResult (written tbe.encode (zeros maxEncrypted2 maxEncrypted2_lt))
  let encrypted2 ← ofResult (c.sealIn maxEncrypted2 s2k sigma2Nonce plaintext)
  let sigma2 : Sigma2 :=
    { responderRandom := randomness.responder
      responderSessionId := r.sessionId
      responderEphPubKey := own
      encrypted2 := encrypted2
      sessionParams := r.sessionParams }
  let reply ← ofResult (written sigma2.encode out)
  let pending : ResponderPending :=
    { sharedSecret := sharedSecret
      ipk := fabric.ipk
      transcript := sigma1.encoded ++ reply
      fabricIndex := fabric.index
      fabricId := fabric.fabricId
      initiatorSessionId := sigma1.initiatorSessionId
      initiatorSessionParams := sigma1.sessionParams
      initiatorEphPubKey := sigma1.initiatorEphPubKey
      responderEphPubKey := own
      resumptionId := randomness.resumption }
  pure ({ r with state := .awaitingSigma3 pending }, reply)

/-- Source: `CaseResponder::handle_sigma3`; a responder that fails here is dropped. -/
def handleSigma3 (r : CaseResponder) (sigma3 : Sigma3) (root : MatterCertificate)
    (epochS : Option UInt32) : Except ErrorCode (CaseOutcome × CaseResponder) :=
  match r.state with
  | .awaitingSigma3 pending => do
    let s3k ← c.sigma3Key pending.sharedSecret pending.ipk (c.hash pending.transcript)
    let plaintext ← c.openIn maxEncrypted3 s3k sigma3Nonce sigma3.encrypted3
    let tbe ← TbeData.decode plaintext
    let peer ← verifyPeer c tbe root epochS pending.fabricId none pending.initiatorEphPubKey
      pending.responderEphPubKey
    let keys ← c.sessionKeys pending.sharedSecret pending.ipk
      (c.hash (pending.transcript ++ sigma3.encoded))
    pure
      ({ keys := keys
         peer := peer
         peerSessionId := pending.initiatorSessionId
         peerSessionParams := pending.initiatorSessionParams
         resumption := ⟨pending.sharedSecret, pending.resumptionId, pending.fabricIndex, peer⟩ },
        { r with state := .done })
  | _ => .error .invalidState

/-- Source: `CaseResponder::accept_sigma3`, with `finished`. -/
def acceptSigma3 {N : ℕ} (r : CaseResponder) (sigma3 : Sigma3) (fabrics : FabricTable N)
    (fabric : FabricIndex) (epochS : Option UInt32) (out : Slice) :
    Except ErrorCode (CaseOutcome × CaseResponder × List UInt8) := do
  let found ← okOr (fabrics.find fabric) .noSession
  let root ← c.decodeCertificate found.credentials.rcac
  let (outcome, r) ← r.handleSigma3 c sigma3 root epochS
  let reply ← (StatusReport.secureChannel .sessionEstablishmentSuccess).encode out.octets.length
  pure (outcome, r, reply)

end CaseResponder

/-- Source: `accept_sigma1`. -/
def acceptSigma1 {K : Type} {N : ℕ} (c : CaseCrypto) (store : KeyStore K) (sigma1 : Sigma1)
    (fabrics : FabricTable N) (localSessionId : SessionId) (sessionParams : Option SessionParams)
    (randomness : Sigma2Randomness) (out : Slice) :
    Machine K ErrorCode (CaseResponder × FabricIndex × List UInt8) := do
  let found ← ofResult (fabrics.findByDestinationIdentifier c.toKeyDerivation
    sigma1.initiatorRandom sigma1.destinationId)
  let fabric ← ofResult (okOr found .noSession)
  let (r, reply) ← CaseResponder.buildSigma2 c store ⟨localSessionId, sessionParams, .awaitingSigma1⟩
    sigma1 fabric randomness out
  pure (r, fabric.index, reply)

/-! ## What a handshake that succeeds has done -/

section Succeeds

variable {K : Type} {N : ℕ} {c : CaseCrypto} {store : KeyStore K}

/-- What a responder has done that has answered a Sigma1: it has agreed on a secret with a key of its
own, and sent its chain, signed and sealed. -/
structure CaseResponder.Answers (c : CaseCrypto) (sigma1 : Sigma1) (fabric : Fabric)
    (randomness : Sigma2Randomness) (sessionId : SessionId) (reply : List UInt8)
    (pending : ResponderPending) : Prop where
  destination : fabric.destinationIdentifier c.toKeyDerivation sigma1.initiatorRandom =
    .ok sigma1.destinationId
  ipk : pending.ipk = fabric.ipk
  transcript : pending.transcript = sigma1.encoded ++ reply
  fabricIndex : pending.fabricIndex = fabric.index
  fabricId : pending.fabricId = fabric.fabricId
  initiatorSessionId : pending.initiatorSessionId = sigma1.initiatorSessionId
  initiatorEphPubKey : pending.initiatorEphPubKey = sigma1.initiatorEphPubKey

variable {r r' : CaseResponder} {sigma1 : Sigma1} {randomness : Sigma2Randomness} {out : Slice}
  {reply : List UInt8} {fabrics : FabricTable N} {localSessionId : SessionId}
  {sessionParams : Option SessionParams} {index : FabricIndex} {sigma3 : Sigma3}
  {root : MatterCertificate} {epochS : Option UInt32} {outcome : CaseOutcome}

lemma CaseResponder.buildSigma2_ok {fabric : Fabric} {keys keys' : K}
    (h : exec (r.buildSigma2 c store sigma1 fabric randomness out) keys = (.ok (r', reply), keys')) :
    ∃ pending, r'.state = .awaitingSigma3 pending ∧
      Answers c sigma1 fabric randomness r.sessionId reply pending := by
  rw [buildSigma2] at h
  simp only [exec_bind_eq_ok, exec_require_eq_ok, exec_ofResult, exec_pure, exec_get,
    Prod.mk.injEq, Except.ok.injEq, Prod.exists] at h
  obtain ⟨expected, _, ⟨hexpected, -⟩, -, _, ⟨rfl, -⟩, sharedSecret, own, _, -, s2k, _, -, tbsdata, _, -,
    _, _, -, signature, _, -, plaintext, _, -, encrypted2, _, -, sent, _, -, ⟨rfl, rfl⟩, -⟩ := h
  exact ⟨_, rfl, hexpected, rfl, rfl, rfl, rfl, rfl, rfl⟩

lemma acceptSigma1_ok {keys keys' : K}
    (h : exec (acceptSigma1 c store sigma1 fabrics localSessionId sessionParams randomness out) keys =
      (.ok (r, index, reply), keys')) :
    ∃ fabric pending, fabrics.findByDestinationIdentifier c.toKeyDerivation sigma1.initiatorRandom
        sigma1.destinationId = .ok (some fabric) ∧
      index = fabric.index ∧ r.state = .awaitingSigma3 pending ∧
      CaseResponder.Answers c sigma1 fabric randomness localSessionId reply pending := by
  rw [acceptSigma1] at h
  simp only [exec_bind_eq_ok, exec_ofResult, exec_pure, Prod.mk.injEq, Except.ok.injEq,
    Prod.exists, okOr_eq_ok] at h
  obtain ⟨found, _, ⟨hfound, rfl⟩, fabric, _, ⟨rfl, rfl⟩, r', reply', _, hbuilt, ⟨rfl, rfl, rfl⟩, -⟩ := h
  obtain ⟨pending, hstate, hanswers⟩ := CaseResponder.buildSigma2_ok hbuilt
  exact ⟨fabric, pending, hfound, rfl, hstate, hanswers⟩

/-- A Sigma2 offers the session id its responder was made with. -/
lemma acceptSigma1_offers {keys keys' : K}
    (h : exec (acceptSigma1 c store sigma1 fabrics localSessionId sessionParams randomness out) keys =
      (.ok (r, index, reply), keys')) : ∃ sigma2 : Sigma2, sigma2.responderSessionId = localSessionId ∧
      written sigma2.encode out = .ok reply := by
  rw [acceptSigma1] at h
  simp only [exec_bind_eq_ok, exec_ofResult, exec_pure, Prod.mk.injEq, Except.ok.injEq,
    Prod.exists, okOr_eq_ok] at h
  obtain ⟨found, _, -, fabric, _, -, r', reply', _, hbuilt, ⟨-, -, rfl⟩, -⟩ := h
  rw [CaseResponder.buildSigma2] at hbuilt
  simp only [exec_bind_eq_ok, exec_require_eq_ok, exec_ofResult, exec_pure, exec_get,
    Prod.mk.injEq, Except.ok.injEq, Prod.exists] at hbuilt
  obtain ⟨expected, _, -, -, _, -, sharedSecret, own, _, -, s2k, _, -, tbsdata, _, -, _, _, -, signature,
    _, -, plaintext, _, -, encrypted2, _, -, sent, _, ⟨hsent, -⟩, ⟨-, rfl⟩, -⟩ := hbuilt
  exact ⟨_, rfl, hsent⟩

/-- A Sigma3 that is taken: its responder was waiting for it, and a chain in it leads to the root. -/
lemma CaseResponder.handleSigma3_ok (h : r.handleSigma3 c sigma3 root epochS = .ok (outcome, r')) :
    ∃ pending s3k plaintext tbe, r.state = .awaitingSigma3 pending ∧
      c.sigma3Key pending.sharedSecret pending.ipk (c.hash pending.transcript) = .ok s3k ∧
      c.openIn maxEncrypted3 s3k sigma3Nonce sigma3.encrypted3 = .ok plaintext ∧
      TbeData.decode plaintext = .ok tbe ∧
      verifyPeer c tbe root epochS pending.fabricId none pending.initiatorEphPubKey
        pending.responderEphPubKey = .ok outcome.peer ∧ c.sessionKeys pending.sharedSecret pending.ipk
        (c.hash (pending.transcript ++ sigma3.encoded)) = .ok outcome.keys ∧
      outcome.peerSessionId = pending.initiatorSessionId ∧ r'.state = .done := by
  rw [handleSigma3] at h
  cases hstate : r.state with
  | awaitingSigma3 pending =>
    rw [hstate] at h
    simp only [bind_eq_ok, pure_eq_ok, Except.ok.injEq, Prod.mk.injEq] at h
    obtain ⟨s3k, hs3k, plaintext, hplaintext, tbe, htbe, peer, hpeer, keys, hkeys, rfl, rfl⟩ := h
    exact ⟨pending, s3k, plaintext, tbe, rfl, hs3k, hplaintext, htbe, hpeer, hkeys, rfl, rfl⟩
  | _ =>
    rw [hstate] at h
    cases h

lemma CaseResponder.acceptSigma3_ok
    (h : r.acceptSigma3 c sigma3 fabrics index epochS out = .ok (outcome, r', reply)) :
    ∃ fabric root, fabrics.find index = some fabric ∧
      c.decodeCertificate fabric.credentials.rcac = .ok root ∧
      r.handleSigma3 c sigma3 root epochS = .ok (outcome, r') := by
  rw [acceptSigma3] at h
  simp only [bind_eq_ok, okOr_eq_ok, pure_eq_ok, Except.ok.injEq, Prod.mk.injEq, Prod.exists] at h
  obtain ⟨fabric, hfabric, root, hroot, _, _, hhandled, _, -, rfl, rfl, -⟩ := h
  exact ⟨fabric, root, hfabric, hroot, hhandled⟩

lemma verifyPeer_ok {tbe : TbeData} {expectedFabric : FabricId} {expectedNode : Option NodeId}
    {signer peer : PublicKey} {identity : VerifiedIdentity}
    (h : verifyPeer c tbe root epochS expectedFabric expectedNode signer peer = .ok identity) :
    ∃ noc icac tbsdata, c.decodeCertificate tbe.noc = .ok noc ∧
      tbe.icac.mapM c.decodeCertificate = .ok icac ∧
      c.verifyChain noc icac root epochS = .ok identity ∧ identity.fabricId = expectedFabric ∧
      (∀ node ∈ expectedNode, identity.nodeId = node) ∧
      encodeTbsdata tbe.noc tbe.icac signer peer = .ok tbsdata ∧
      c.verify noc.publicKey tbsdata tbe.signature = .ok true := by
  rw [verifyPeer] at h
  simp only [bind_eq_ok, ensure_eq_ok, pure_eq_ok, Except.ok.injEq] at h
  obtain ⟨noc, hnoc, icac, hicac, identity', hchain, _, hfabric, _, hnode, tbsdata, htbs, valid, hvalid,
    _, rfl, rfl⟩ := h
  exact ⟨noc, icac, tbsdata, hnoc, hicac, hchain, hfabric, hnode, htbs, hvalid⟩

end Succeeds

end MatterKit.Sc
