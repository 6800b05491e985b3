import MatterKit.Commissioning.FailSafe
import MatterKit.Fabric
import MatterKit.Sc.Pase

/-!
# Device attestation

`attestation/mod.rs`, `attestation/nocsr.rs` and `attestation/chain.rs`, as far as a commissioner uses them.
A device proves two things, and both proofs are signed over the session's challenge: its attestation elements,
which carry the nonce it was asked with, and a certificate request for the operational key it has generated.
What is behind the key of these signatures is the chain of exactly three certificates that `verify_dac_chain`
walks, up to an authority the commissioner trusts.
-/

namespace MatterKit.Commissioning

open Lib Machine Tlv Im Sc

/-! ## Certificates -/

/-- Source: `attestation/x509.rs`, `VidPid`. -/
structure VidPid where
  vendorId : Option VendorId
  productId : Option UInt16
  deriving DecidableEq

/-- Source: `attestation/x509.rs`, `BasicConstraints`. -/
structure DacBasicConstraints where
  isCa : Bool
  pathLen : Option UInt8
  deriving DecidableEq

/-- A signature: 64 octets.
Source: `crypto/mod.rs`, `Signature`. -/
structure Signature where
  bytes : Vector UInt8 64
  deriving DecidableEq

/-- The fields of a parsed DAC, PAI or PAA that a chain is verified with.
Source: `attestation/x509.rs`, `X509Certificate`. -/
structure X509Certificate where
  tbs : List UInt8
  issuer : List UInt8
  subject : List UInt8
  issuerVidPid : VidPid
  subjectVidPid : VidPid
  notBefore : UInt32
  notAfter : Option UInt32
  publicKey : PublicKey
  basicConstraints : Option DacBasicConstraints
  keyUsage : Option UInt16
  subjectKeyId : Option (Vector UInt8 20)
  authorityKeyId : Option (Vector UInt8 20)
  signature : Signature
  deriving DecidableEq

/-- A parsed certificate request.
Source: `attestation/nocsr.rs`, `Csr`. -/
structure Csr where
  tbs : List UInt8
  publicKey : PublicKey
  signature : Signature

/-- The parsers of the two DER formats, and the verification of a signature.
Source: `X509Certificate::parse`, `Csr::parse`; `crypto/mod.rs`, `verify`. -/
structure AttestationCrypto where
  parseCertificate : (der : List UInt8) → Except ErrorCode X509Certificate
  parseCsr : (der : List UInt8) → Except ErrorCode Csr
  verify : PublicKey → (message : List UInt8) → Signature → Except ErrorCode Bool

/-- Source: `DacChain`. -/
structure DacChain where
  vendorId : VendorId
  productId : UInt16
  paaKeyId : Option (Vector UInt8 20)
  validatedAt : UInt32

namespace X509Certificate

/-- Source: `KeyUsage::DIGITAL_SIGNATURE`. -/
def digitalSignature : UInt16 := 1

/-- Source: `KeyUsage::KEY_CERT_SIGN | KeyUsage::CRL_SIGN`. -/
def certAndCrlSign : UInt16 := 0x60

/-- Source: `X509Certificate::is_valid_at`. -/
def isValidAt (cert : X509Certificate) (epochS : UInt32) : Bool :=
  decide (cert.notBefore ≤ epochS) &&
    match cert.notAfter with
    | some last => decide (epochS ≤ last)
    | none => true

/-- Source: `check_dac`. -/
def checkDac (dac : X509Certificate) : Except ErrorCode Unit := do
  let basic ← okOr dac.basicConstraints .certInvalid
  ensure (basic.isCa = false) .certInvalid
  ensure (dac.keyUsage = some digitalSignature) .certInvalid
  ensure (dac.subjectKeyId.isSome ∧ dac.authorityKeyId.isSome) .certInvalid
  ensure (dac.issuerVidPid.vendorId.isSome ∧ dac.subjectVidPid.vendorId.isSome ∧
    dac.subjectVidPid.productId.isSome) .certInvalid
  ensure (dac.issuerVidPid.vendorId = dac.subjectVidPid.vendorId) .certInvalid

/-- Source: `check_ca_key_usage`. -/
def checkCaKeyUsage (usage : Option UInt16) : Except ErrorCode Unit := do
  let usage ← okOr usage .certInvalid
  ensure (usage &&& certAndCrlSign = certAndCrlSign ∧
    usage &&& (certAndCrlSign ||| digitalSignature) = usage) .certInvalid

/-- Source: `check_pai`. -/
def checkPai (pai : X509Certificate) : Except ErrorCode Unit := do
  let basic ← okOr pai.basicConstraints .certInvalid
  ensure (basic.isCa = true ∧ basic.pathLen = some 0) .certInvalid
  checkCaKeyUsage pai.keyUsage
  ensure (pai.subjectKeyId.isSome ∧ pai.authorityKeyId.isSome) .certInvalid
  ensure pai.subjectVidPid.vendorId.isSome .certInvalid

/-- Source: `check_paa`. -/
def checkPaa (paa : X509Certificate) : Except ErrorCode Unit := do
  let basic ← okOr paa.basicConstraints .certInvalid
  ensure (basic.isCa = true ∧ basic.pathLen.all (· = 1)) .certInvalid
  checkCaKeyUsage paa.keyUsage
  ensure (paa.issuer = paa.subject) .certInvalid
  ensure (paa.subjectVidPid.productId = none ∧ paa.issuerVidPid.productId = none) .certInvalid
  ensure paa.subjectKeyId.isSome .certInvalid

end X509Certificate

namespace AttestationCrypto

variable (crypto : AttestationCrypto)

/-- Source: `X509Certificate::verify_signature_of`. -/
def verifySignatureOf (issuer subject : X509Certificate) : Except ErrorCode Bool :=
  crypto.verify issuer.publicKey subject.tbs subject.signature

/-- The operands of the source's `||` between two signatures: the second is verified only if the first
holds. -/
def verifySignatures (dac pai paa : X509Certificate) : Except ErrorCode Unit := do
  let first ← crypto.verifySignatureOf pai dac
  ensure (first = true) .certPathInvalid
  let second ← crypto.verifySignatureOf paa pai
  ensure (second = true) .certPathInvalid

/-- Source: `verify_dac_chain`. -/
def verifyDacChain (dac pai paa : X509Certificate) : Except ErrorCode DacChain := do
  dac.checkDac
  pai.checkPai
  paa.checkPaa
  ensure (pai.isValidAt dac.notBefore = true ∧ paa.isValidAt dac.notBefore = true) .certExpired
  ensure (dac.issuer = pai.subject ∧ pai.issuer = paa.subject) .certPathInvalid
  crypto.verifySignatures dac pai paa
  let vendorId ← okOr dac.subjectVidPid.vendorId .certInvalid
  ensure (pai.subjectVidPid.vendorId = some vendorId) .certPathInvalid
  ensure (paa.subjectVidPid.vendorId.all (· = vendorId)) .certPathInvalid
  let productId ← okOr dac.subjectVidPid.productId .certInvalid
  ensure (dac.issuerVidPid.productId.all (· = productId)) .certPathInvalid
  ensure (pai.subjectVidPid.productId.all (· = productId)) .certPathInvalid
  pure ⟨vendorId, productId, paa.subjectKeyId, dac.notBefore⟩

/-! ## What the device signs -/

/-- Source: `attestation/mod.rs`, `MAX_ATTESTATION_ELEMENTS`. -/
def maxAttestationElements : ℕ := 1024 + 512

/-- The octets that are signed: a message, then the session's challenge.
Source: `attestation/mod.rs`, `with_tbs`. -/
def withTbs (elements : List UInt8) (challenge : SymmetricKey) : Except ErrorCode (List UInt8) := do
  ensure (elements.length + 16 ≤ maxAttestationElements + 16) .bufferTooSmall
  pure (elements ++ challenge.bytes.toList)

/-- Source: `attestation/mod.rs`, `verify_attestation`; `attestation/nocsr.rs`, `verify_nocsr`. -/
def verifyElements (dac : PublicKey) (elements : List UInt8) (challenge : SymmetricKey)
    (signature : Signature) : Except ErrorCode Bool := do
  let tbs ← withTbs elements challenge
  crypto.verify dac tbs signature

end AttestationCrypto

/-- Source: `Signature::from_slice`. -/
def Signature.fromSlice (octets : List UInt8) : Except ErrorCode Signature :=
  if h : octets.length = 64 then .ok ⟨⟨octets.toArray, h⟩⟩ else .error .invalidArgument

/-- Source: Rust `<[u8; 32]>::try_from`, with the error it is mapped to. -/
def nonceOf (octets : List UInt8) : Except ErrorCode (Vector UInt8 32) :=
  if h : octets.length = 32 then .ok ⟨octets.toArray, h⟩ else .error .tlvOutOfRange

/-- The members of the structure the cursor has just entered: a context tag that `step` knows fills a field,
any other member is skipped.
Source: the loop of `AttestationElements::decode` and of the generated `from_tlv` functions. -/
def eachKnownMember {β : Type} (step : UInt8 → Element → β → Except ErrorCode (Option β)) (init : β) :
    Reading β :=
  eachMember (fun _ e acc => do
    let known : Option β ← match e.tag.context? with
      | some number => ofResult (step number e acc)
      | none => pure none
    match known with
    | some acc => pure acc
    | none => do
      skipValue e
      pure acc) init

/-- Decodes octets that are one anonymous structure.
Source: `AttestationElements::decode` and `NocsrElements::decode`, up to `reader.finish()?`. -/
def decodeElements {β : Type} (step : UInt8 → Element → β → Except ErrorCode (Option β)) (init : β)
    (buf : List UInt8) : Except ErrorCode β :=
  let read : Reading β := do
    let some head ← nextElement | throw .tlvTruncated
    require (head.value = .container .struct ∧ head.tag = .anonymous) .tlvWrongType
    let fields ← eachKnownMember step init
    let r ← get
    ofResult r.finish
    pure fields
  (exec read (.new buf)).1

/-- Source: `attestation/mod.rs`, `AttestationElements`. -/
structure AttestationElements where
  certificationDeclaration : List UInt8
  attestationNonce : Vector UInt8 32
  timestamp : UInt32
  firmwareInformation : Option (List UInt8)

namespace AttestationElements

/-- The fields `decode` has met so far. -/
structure Fields where
  certificationDeclaration : Option (List UInt8) := none
  attestationNonce : Option (Vector UInt8 32) := none
  timestamp : Option UInt32 := none
  firmwareInformation : Option (List UInt8) := none

/-- Source: `AttestationElements::decode`, `match element.tag.context()`. -/
def decodeField (number : UInt8) (e : Element) (f : Fields) : Except ErrorCode (Option Fields) :=
  match number with
  | 1 => do
    let v ← octetsOf e >>= setOnce f.certificationDeclaration
    pure (some { f with certificationDeclaration := v })
  | 2 => do
    let v ← octetsOf e >>= nonceOf >>= setOnce f.attestationNonce
    pure (some { f with attestationNonce := v })
  | 3 => do
    let v ← e.unsigned >>= narrow32 >>= setOnce f.timestamp
    pure (some { f with timestamp := v })
  | 4 => do
    let v ← octetsOf e >>= setOnce f.firmwareInformation
    pure (some { f with firmwareInformation := v })
  | _ => pure none

/-- Source: `AttestationElements::decode`. -/
def decode (buf : List UInt8) : Except ErrorCode AttestationElements := do
  let f ← decodeElements decodeField {} buf
  let declaration ← okOr f.certificationDeclaration .tlvNotFound
  let nonce ← okOr f.attestationNonce .tlvNotFound
  let timestamp ← okOr f.timestamp .tlvNotFound
  pure ⟨declaration, nonce, timestamp, f.firmwareInformation⟩

end AttestationElements

/-- Source: `attestation/nocsr.rs`, `NocsrElements`. -/
structure NocsrElements where
  csr : List UInt8
  csrNonce : Vector UInt8 32
  vendorReserved : BoundedVec (UInt8 × List UInt8) 3

namespace NocsrElements

/-- The fields `decode` has met so far. -/
structure Fields where
  csr : Option (List UInt8) := none
  csrNonce : Option (Vector UInt8 32) := none
  vendorReserved : BoundedVec (UInt8 × List UInt8) 3 := .empty

/-- Source: `NocsrElements::decode`, the arm of the three vendor fields. -/
def decodeVendorReserved (number : UInt8) (e : Element) (f : Fields) :
    Except ErrorCode (Option Fields) := do
  ensure (f.vendorReserved.toList.all (·.1 ≠ number)) .tlvDuplicateTag
  let octets ← octetsOf e
  let vendorReserved ← okOr (f.vendorReserved.push (number, octets)) .noSpace
  pure (some { f with vendorReserved := vendorReserved })

/-- Source: `NocsrElements::decode`, `match element.tag.context()`. -/
def decodeField (number : UInt8) (e : Element) (f : Fields) : Except ErrorCode (Option Fields) :=
  match number with
  | 1 => do
    let v ← octetsOf e >>= setOnce f.csr
    pure (some { f with csr := v })
  | 2 => do
    let v ← octetsOf e >>= nonceOf >>= setOnce f.csrNonce
    pure (some { f with csrNonce := v })
  | 3 => decodeVendorReserved 3 e f
  | 4 => decodeVendorReserved 4 e f
  | 5 => decodeVendorReserved 5 e f
  | _ => pure none

/-- Source: `NocsrElements::decode`. -/
def decode (buf : List UInt8) : Except ErrorCode NocsrElements := do
  let f ← decodeElements decodeField {} buf
  let csr ← okOr f.csr .tlvNotFound
  let nonce ← okOr f.csrNonce .tlvNotFound
  pure ⟨csr, nonce, f.vendorReserved⟩

end NocsrElements

end MatterKit.Commissioning
