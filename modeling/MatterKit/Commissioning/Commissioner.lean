import MatterKit.Clusters.OperationalCredentials
import MatterKit.Commissioning.Attestation

/-!
# The commissioner

`commissioning/commissioner.rs`: the commissioner's half of the commissioning flow, as a machine that says
which command to invoke next and takes the response to it. On the way it records what it makes of the
device's attestation. `check_attestation` and `verify_attestation_against` hold one proof each, and both
write the one field that says `Trusted`.

Neither of them looks at the other's proof. What a caller reads is right as long as it does not read
`Trusted`: `trusted_only_after_both_iff` says that the runs in which a device is called trusted only after
both proofs, and no failure is turned back, are exactly those in which no call would record `Trusted`.
-/

namespace MatterKit.Commissioning

open Lib Machine Tlv Dm Im Sc Clusters

/-! ## Responses -/

/-- Source: the generated `CommissioningErrorEnum::from_value`. -/
def CommissioningError.fromValue (value : UInt8) : Option CommissioningError :=
  [.ok, .valueOutsideRange, .invalidAuthentication, .noFailSafe, .busyWithOtherAdmin,
    .requiredTcNotAccepted, .tcAcknowledgementsNotReceived, .tcMinVersionNotMet][value.toNat]?

/-- Source: the generated `NodeOperationalCertStatusEnum::from_value`. -/
def nocStatusFromValue (value : UInt8) : Option NocStatus :=
  [.ok, .invalidPublicKey, .invalidNodeOpId, .invalidNoc, .missingCsr, .tableFull, .invalidAdminSubject,
    .fabricConflict, .labelConflict, .invalidFabricIndex].find? (·.value = value)

/-- Source: `Element::utf8`. -/
def utf8Of (e : Element) : Except ErrorCode String :=
  match e.value with
  | .utf8 v => .ok v
  | _ => .error .tlvWrongType

/-- Decodes a response command's fields.
Source: `decode`, and the generated `from_tlv` up to the end of its
loop. -/
def decodeResponse {β : Type} (step : UInt8 → Element → β → Except ErrorCode (Option β)) (init : β)
    (fields : List UInt8) : Except ErrorCode β :=
  let read : Reading β := do
    let some e ← nextElement | throw .tlvTruncated
    require (e.value = .container .struct) .tlvWrongType
    eachKnownMember step init
  (exec read (.newIn fields .struct)).1

/-- Source: the generated `ArmFailSafeResponseFields`. -/
structure ArmFailSafeResponseFields where
  errorCode : CommissioningError
  debugText : String

/-- Source: `ArmFailSafeResponseFields::from_tlv`. -/
def ArmFailSafeResponseFields.decode (fields : List UInt8) :
    Except ErrorCode ArmFailSafeResponseFields := do
  let step (number : UInt8) (e : Element) (f : Option CommissioningError × Option String) :
      Except ErrorCode (Option (Option CommissioningError × Option String)) :=
    match number with
    | 0 => do
      let value ← e.unsigned >>= narrow8
      let errorCode ← Lib.okOr (CommissioningError.fromValue value) .tlvOutOfRange
      pure (some (some errorCode, f.2))
    | 1 => do
      let debugText ← utf8Of e
      pure (some (f.1, some debugText))
    | _ => pure none
  let f ← decodeResponse step (none, none) fields
  let errorCode ← Lib.okOr f.1 .tlvNotFound
  let debugText ← Lib.okOr f.2 .tlvNotFound
  pure ⟨errorCode, debugText⟩

/-- Source: the generated `NOCResponseFields`. -/
structure NocResponseFields where
  statusCode : NocStatus
  fabricIndex : Option FabricIndex
  debugText : Option String

/-- Source: `NOCResponseFields::from_tlv`. -/
def NocResponseFields.decode (fields : List UInt8) : Except ErrorCode NocResponseFields := do
  let step (number : UInt8) (e : Element) (f : Option NocStatus × Option FabricIndex × Option String) :
      Except ErrorCode (Option (Option NocStatus × Option FabricIndex × Option String)) :=
    match number with
    | 0 => do
      let value ← e.unsigned >>= narrow8
      let statusCode ← Lib.okOr (nocStatusFromValue value) .tlvOutOfRange
      pure (some (some statusCode, f.2))
    | 1 => do
      let index ← e.unsigned >>= narrow8
      pure (some (f.1, some ⟨index⟩, f.2.2))
    | 2 => do
      let debugText ← utf8Of e
      pure (some (f.1, f.2.1, some debugText))
    | _ => pure none
  let f ← decodeResponse step (none, none, none) fields
  let statusCode ← Lib.okOr f.1 .tlvNotFound
  pure ⟨statusCode, f.2.1, f.2.2⟩

/-- Source: `CertificateChainResponseFields::from_tlv`. -/
def decodeCertificateChainResponse (fields : List UInt8) : Except ErrorCode (List UInt8) := do
  let step (number : UInt8) (e : Element) (_ : Option (List UInt8)) :
      Except ErrorCode (Option (Option (List UInt8))) :=
    match number with
    | 0 => do
      let certificate ← octetsOf e
      pure (some (some certificate))
    | _ => pure none
  let certificate ← decodeResponse step none fields
  Lib.okOr certificate .tlvNotFound

/-- A message and the signature over it.
Source: the generated `AttestationResponseFields` and `CSRResponseFields`. -/
structure SignedResponse where
  elements : List UInt8
  attestationSignature : List UInt8

/-- Source: `AttestationResponseFields::from_tlv` and `CSRResponseFields::from_tlv`. -/
def SignedResponse.decode (fields : List UInt8) : Except ErrorCode SignedResponse := do
  let step (number : UInt8) (e : Element) (f : Option (List UInt8) × Option (List UInt8)) :
      Except ErrorCode (Option (Option (List UInt8) × Option (List UInt8))) :=
    match number with
    | 0 => do
      let elements ← octetsOf e
      pure (some (some elements, f.2))
    | 1 => do
      let signature ← octetsOf e
      pure (some (f.1, some signature))
    | _ => pure none
  let f ← decodeResponse step (none, none) fields
  let elements ← Lib.okOr f.1 .tlvNotFound
  let signature ← Lib.okOr f.2 .tlvNotFound
  pure ⟨elements, signature⟩

/-! ## The state -/

/-- Source: `Stage`. -/
inductive Stage
  | armFailSafe
  | setRegulatoryConfig
  | requestDac
  | requestPai
  | requestAttestation
  | requestCsr
  | addTrustedRoot
  | addNoc
  | operational
  | commissioningComplete
  | done
  deriving DecidableEq

/-- Whether a stage comes after the CSR response. -/
def Stage.isPastCsr : Stage → Bool
  | .addTrustedRoot | .addNoc | .operational | .commissioningComplete | .done => true
  | _ => false

/-- What the caller should do next.
Source: `Step`. -/
inductive Step
  | invoke (endpoint : EndpointId) (cluster : ClusterId) (command : CommandId) (fields : List UInt8)
  | operational (nodeId : NodeId)
  | done

/-- Source: `Attestation`. -/
inductive Attestation
  | trusted
  | failed (reason : ErrorCode)
  deriving DecidableEq

/-- Source: `ca.rs`, `Identity`. -/
structure Identity where
  fabricId : FabricId
  nodeId : NodeId
  cats : Vector (Option CaseAuthenticatedTag) 3

/-- Source: `ca.rs`, `Validity`. -/
structure Validity where
  notBefore : UInt32
  notAfter : UInt32

/-- Source: `Plan`. -/
structure Plan where
  identity : Identity
  caseAdminSubject : UInt64
  adminVendorId : VendorId
  failSafeSeconds : UInt16 := 900
  validity : Validity
  needsRegulatoryConfig : Bool := false
  regulatoryLocation : RegulatoryLocation := .indoorOutdoor

/-- Source: `DER_CERT_MAX`. -/
def derCertMax : ℕ := 600

/-- Source: `Commissioner`. -/
structure Commissioner where
  stage : Stage
  plan : Plan
  challenge : SymmetricKey
  attestationNonce : Vector UInt8 32
  csrNonce : Vector UInt8 32
  dac : BoundedVec UInt8 derCertMax
  pai : BoundedVec UInt8 derCertMax
  operationalKey : Option PublicKey
  attestation : Option Attestation
  fields : BoundedVec UInt8 1024

/-- An administrator's certificate authority over its key store: what it issues, and its signature.
Source: `ca.rs`, `CertAuthority::self_signed_root`, `CertAuthority::issue_noc`; `KeyStore::sign` with
`CertAuthority::key`. -/
structure CertAuthority where
  selfSignedRoot : Validity → Except ErrorCode (List UInt8)
  issueNoc : Identity → PublicKey → Validity → Except ErrorCode (List UInt8)
  sign : (message : List UInt8) → Except ErrorCode Signature

/-- The primitives of a commissioner.
Source: the functions of `AttestationCrypto`, and `crypto/mod.rs`, `hash`. -/
structure CommissionerCrypto extends AttestationCrypto where
  hash : List UInt8 → Vector UInt8 32

/-- A computation of a commissioner on itself. -/
abbrev Driving (α : Type) : Type := Machine Commissioner ErrorCode α

namespace Commissioner

/-- Source: `Commissioner::new`. -/
def new (plan : Plan) (challenge : SymmetricKey) (attestationNonce csrNonce : Vector UInt8 32) :
    Commissioner where
  stage := .armFailSafe
  plan := plan
  challenge := challenge
  attestationNonce := attestationNonce
  csrNonce := csrNonce
  dac := .empty
  pai := .empty
  operationalKey := none
  attestation := none
  fields := .empty

/-! ## Commands -/

lemma fieldsMax_lt : 1024 < 2 ^ 63 := by decide

/-- Source: `Commissioner::encode`, up to the assignment. -/
def encodeFields (write : Tag → Writing Unit) : Except ErrorCode (BoundedVec UInt8 1024) := do
  let encoded ← match exec (write (.context 1)) (.newIn (zeros 1024 fieldsMax_lt) .struct) with
    | (.ok _, w) => w.finish
    | (.error e, _) => .error e
  Lib.okOr (BoundedVec.ofList? 1024 encoded) .bufferTooSmall

/-- Source: `Commissioner::encode`. -/
def encode (write : Tag → Writing Unit) : Driving Unit := do
  let fields ← ofResult (encodeFields write)
  modify fun c => { c with fields := fields }

/-- Source: `Commissioner::invoke`. -/
def invoke (cluster : ClusterId) (command : CommandId) : Driving Step := do
  let c ← get
  pure (.invoke 0 cluster command c.fields.toList)

/-- A structure with the given members.
Source: the generated `to_tlv` functions. -/
def structureOf (members : Writing Unit) (tag : Tag) : Writing Unit := do
  start tag .struct
  members
  endContainer

/-- Source: the generated `ArmFailSafeFields::to_tlv`. -/
def armFailSafeFields (expiryLengthSeconds : UInt16) (breadcrumb : UInt64) : Tag → Writing Unit :=
  structureOf do
    unsigned (.context 0) expiryLengthSeconds.toUInt64
    unsigned (.context 1) breadcrumb

/-- Source: the generated `RegulatoryLocationTypeEnum::value`. -/
def locationValue : RegulatoryLocation → UInt8
  | .indoor => 0
  | .outdoor => 1
  | .indoorOutdoor => 2

/-- Source: the generated `SetRegulatoryConfigFields::to_tlv`. -/
def setRegulatoryConfigFields (location : RegulatoryLocation) (countryCode : String)
    (breadcrumb : UInt64) : Tag → Writing Unit :=
  structureOf do
    unsigned (.context 0) (locationValue location).toUInt64
    utf8 (.context 1) countryCode
    unsigned (.context 2) breadcrumb

/-- Source: the generated `CertificateChainTypeEnum::value`. -/
def certificateTypeValue : OperationalCredentials.CertificateChainType → UInt8
  | .dac => 1
  | .pai => 2

/-- Source: the generated `CertificateChainRequestFields::to_tlv`. -/
def certificateChainRequestFields (kind : OperationalCredentials.CertificateChainType) : Tag → Writing Unit :=
  structureOf do
    unsigned (.context 0) (certificateTypeValue kind).toUInt64

/-- Source: the generated `AttestationRequestFields::to_tlv`. -/
def attestationRequestFields (nonce : Vector UInt8 32) : Tag → Writing Unit :=
  structureOf do
    octets (.context 0) nonce.toList

/-- Source: the generated `CSRRequestFields::to_tlv`. -/
def csrRequestFields (nonce : Vector UInt8 32) (isForUpdateNoc : Option Bool) : Tag → Writing Unit :=
  structureOf do
    octets (.context 0) nonce.toList
    whenSome isForUpdateNoc fun value => Tlv.bool (.context 1) value

/-- Source: the generated `AddTrustedRootCertificateFields::to_tlv`. -/
def addTrustedRootFields (root : List UInt8) : Tag → Writing Unit :=
  structureOf do
    octets (.context 0) root

/-- Source: the generated `AddNOCFields::to_tlv`. -/
def addNocFields (request : AddNocRequest) : Tag → Writing Unit :=
  structureOf do
    octets (.context 0) request.noc
    whenSome request.icac fun icac => octets (.context 1) icac
    octets (.context 2) request.ipk
    unsigned (.context 3) request.caseAdminSubject
    unsigned (.context 4) request.adminVendorId.val.toUInt64

/-- Source: `Commissioner::step`. -/
def step : Driving Step := do
  let c ← get
  match c.stage with
  | .armFailSafe =>
    encode (armFailSafeFields c.plan.failSafeSeconds 0)
    invoke 0x0030 0x00
  | .setRegulatoryConfig =>
    encode (setRegulatoryConfigFields c.plan.regulatoryLocation "XX" 0)
    invoke 0x0030 0x02
  | .requestDac =>
    encode (certificateChainRequestFields .dac)
    invoke 0x003E 0x02
  | .requestPai =>
    encode (certificateChainRequestFields .pai)
    invoke 0x003E 0x02
  | .requestAttestation =>
    encode (attestationRequestFields c.attestationNonce)
    invoke 0x003E 0x00
  | .requestCsr =>
    encode (csrRequestFields c.csrNonce (some false))
    invoke 0x003E 0x04
  | .addTrustedRoot | .addNoc => throw .invalidState
  | .operational => pure (.operational c.plan.identity.nodeId)
  | .commissioningComplete =>
    modify fun c => { c with fields := .empty }
    invoke 0x0030 0x04
  | .done => pure .done

/-- Source: `Commissioner::add_root`. -/
def addRoot (ca : CertAuthority) : Driving Step := do
  let c ← get
  require (c.stage = .addTrustedRoot) .invalidState
  let root ← ofResult (ca.selfSignedRoot c.plan.validity)
  encode (addTrustedRootFields root)
  invoke 0x003E 0x0B

section calls

variable (crypto : CommissionerCrypto)

/-- Source: `Commissioner::ipk`. -/
def ipk (c : Commissioner) (ca : CertAuthority) : Except ErrorCode (List UInt8) := do
  let signature ← ca.sign (beBytes64 c.plan.identity.fabricId.val)
  pure ((crypto.hash signature.bytes.toList).toList.take 16)

/-- Source: `Commissioner::add_noc`. -/
def addNoc (ca : CertAuthority) (icac : Option (List UInt8)) : Driving Step := do
  let c ← get
  require (c.stage = .addNoc) .invalidState
  let publicKey ← ofResult (Lib.okOr c.operationalKey .invalidState)
  let noc ← ofResult (ca.issueNoc c.plan.identity publicKey c.plan.validity)
  let ipk ← ofResult (c.ipk crypto ca)
  encode (addNocFields ⟨noc, icac, ipk, c.plan.caseAdminSubject, c.plan.adminVendorId⟩)
  invoke 0x003E 0x06

/-! ## Responses -/

/-- Source: `Commissioner::check_commissioning_error`. -/
def checkCommissioningError (fields : Option (List UInt8)) : Except ErrorCode Unit := do
  let fields ← Lib.okOr fields .invalidState
  let decoded ← ArmFailSafeResponseFields.decode fields
  ensure (decoded.errorCode = .ok) .commissioningFailed

/-- Source: `Commissioner::check_noc_status`. -/
def checkNocStatus (fields : Option (List UInt8)) : Except ErrorCode Unit := do
  let fields ← Lib.okOr fields .invalidState
  let decoded ← NocResponseFields.decode fields
  ensure (decoded.statusCode = .ok) .commissioningFailed

/-- Source: `Commissioner::certificate`, and the copy that `on_response` makes of it. -/
def certificate (fields : Option (List UInt8)) : Except ErrorCode (BoundedVec UInt8 derCertMax) := do
  let fields ← Lib.okOr fields .invalidState
  let certificate ← decodeCertificateChainResponse fields
  Lib.okOr (BoundedVec.ofList? derCertMax certificate) .bufferTooSmall

/-- Source: `Commissioner::check_attestation` and `Commissioner::check_csr`, the first two statements. -/
def signedResponse (fields : Option (List UInt8)) : Except ErrorCode (SignedResponse × Signature) := do
  let fields ← Lib.okOr fields .invalidState
  let decoded ← SignedResponse.decode fields
  let signature ← Signature.fromSlice decoded.attestationSignature
  pure (decoded, signature)

/-- Source: `Commissioner::check_attestation`, the closure. -/
def attestationOutcome (c : Commissioner) (response : SignedResponse) (signature : Signature) :
    Except ErrorCode Unit := do
  let dac ← crypto.parseCertificate c.dac.toList
  let holds ← crypto.verifyElements dac.publicKey response.elements c.challenge signature
  ensure (holds = true) .attestationFailed
  let elements ← AttestationElements.decode response.elements
  ensure (elements.attestationNonce = c.attestationNonce) .attestationFailed

/-- Source: `Commissioner::check_attestation`, the `match` on the outcome. -/
def attestationOf (outcome : Except ErrorCode Unit) : Attestation :=
  match outcome with
  | .ok _ => .trusted
  | .error reason => .failed reason

/-- Source: `Commissioner::check_attestation`. -/
def checkAttestation (fields : Option (List UInt8)) : Driving Unit := do
  let c ← get
  let (decoded, signature) ← ofResult (signedResponse fields)
  let attestation := attestationOf (c.attestationOutcome crypto decoded signature)
  modify fun c => { c with attestation := some attestation }

/-- The operational key that a CSR response hands over.
Source: `Commissioner::check_csr`, up to the assignment. -/
def csrKey (c : Commissioner) (fields : Option (List UInt8)) : Except ErrorCode PublicKey := do
  let (decoded, signature) ← signedResponse fields
  let dac ← crypto.parseCertificate c.dac.toList
  let holds ← crypto.verifyElements dac.publicKey decoded.elements c.challenge signature
  ensure (holds = true) .attestationFailed
  let elements ← NocsrElements.decode decoded.elements
  ensure (elements.csrNonce = c.csrNonce) .attestationFailed
  let csr ← crypto.parseCsr elements.csr
  let possessed ← crypto.verify csr.publicKey csr.tbs csr.signature
  ensure (possessed = true) .attestationFailed
  pure csr.publicKey

/-- Source: `Commissioner::check_csr`. -/
def checkCsr (fields : Option (List UInt8)) : Driving Unit := do
  let c ← get
  let key ← ofResult (c.csrKey crypto fields)
  modify fun c => { c with operationalKey := some key }

/-- Goes on to a stage. -/
def goTo (stage : Stage) : Driving Unit := modify fun c => { c with stage := stage }

/-- Source: `Commissioner::on_response`. -/
def onResponse (fields : Option (List UInt8)) : Driving Unit := do
  let c ← get
  match c.stage with
  | .armFailSafe =>
    ofResult (checkCommissioningError fields)
    goTo (if c.plan.needsRegulatoryConfig then .setRegulatoryConfig else .requestDac)
  | .setRegulatoryConfig =>
    ofResult (checkCommissioningError fields)
    goTo .requestDac
  | .requestDac =>
    let dac ← ofResult (certificate fields)
    modify fun c => { c with dac := dac }
    goTo .requestPai
  | .requestPai =>
    let pai ← ofResult (certificate fields)
    modify fun c => { c with pai := pai }
    goTo .requestAttestation
  | .requestAttestation =>
    checkAttestation crypto fields
    goTo .requestCsr
  | .requestCsr =>
    checkCsr crypto fields
    goTo .addTrustedRoot
  | .addTrustedRoot =>
    require (fields.all (·.isEmpty)) .invalidState
    goTo .addNoc
  | .addNoc =>
    ofResult (checkNocStatus fields)
    goTo .operational
  | .operational => throw .invalidState
  | .commissioningComplete =>
    ofResult (checkCommissioningError fields)
    goTo .done
  | .done => throw .invalidState

/-- Source: `Commissioner::on_operational`. -/
def onOperational : Driving Unit := do
  let c ← get
  require (c.stage = .operational) .invalidState
  goTo .commissioningComplete

/-- Source: `Commissioner::verify_attestation_against`, the closure. -/
def chainOutcome (c : Commissioner) (paaDer : List UInt8) : Except ErrorCode Unit := do
  let dac ← crypto.parseCertificate c.dac.toList
  let pai ← crypto.parseCertificate c.pai.toList
  let paa ← crypto.parseCertificate paaDer
  let _ ← crypto.verifyDacChain dac pai paa
  pure ()

/-- Source: `Commissioner::verify_attestation_against`. -/
def verifyAttestationAgainst (paaDer : List UInt8) : Driving Attestation := do
  let c ← get
  let result := match c.attestation, c.chainOutcome crypto paaDer with
    | some (.failed reason), _ => .failed reason
    | _, .error reason => .failed reason
    | _, .ok _ => .trusted
  modify fun c => { c with attestation := some result }
  pure result

/-! ## The two proofs -/

/-- An `AttestationResponse` carries the commissioner's nonce, under a signature by the key of the DAC over
the elements and the session's challenge. -/
def AttestationProven (c : Commissioner) (fields : List UInt8) : Prop :=
  ∃ response signature dac elements,
    SignedResponse.decode fields = .ok response ∧
    Signature.fromSlice response.attestationSignature = .ok signature ∧
    crypto.parseCertificate c.dac.toList = .ok dac ∧
    crypto.verifyElements dac.publicKey response.elements c.challenge signature = .ok true ∧
    AttestationElements.decode response.elements = .ok elements ∧
    elements.attestationNonce = c.attestationNonce

/-- The DAC and the PAI are a chain up to a PAA. -/
def ChainProven (c : Commissioner) (paaDer : List UInt8) : Prop :=
  ∃ dac pai paa chain,
    crypto.parseCertificate c.dac.toList = .ok dac ∧
    crypto.parseCertificate c.pai.toList = .ok pai ∧
    crypto.parseCertificate paaDer = .ok paa ∧
    crypto.verifyDacChain dac pai paa = .ok chain

/-- A CSR response hands over an operational key: the request is signed by that key, and with the
commissioner's nonce by the key of the DAC, over the session's challenge. -/
def CsrProven (c : Commissioner) (fields : List UInt8) (key : PublicKey) : Prop :=
  ∃ response signature dac elements csr,
    SignedResponse.decode fields = .ok response ∧
    Signature.fromSlice response.attestationSignature = .ok signature ∧
    crypto.parseCertificate c.dac.toList = .ok dac ∧
    crypto.verifyElements dac.publicKey response.elements c.challenge signature = .ok true ∧
    NocsrElements.decode response.elements = .ok elements ∧
    elements.csrNonce = c.csrNonce ∧
    crypto.parseCsr elements.csr = .ok csr ∧
    crypto.verify csr.publicKey csr.tbs csr.signature = .ok true ∧
    csr.publicKey = key

/-! ## What a response does -/

/-- The commissioner that a response leaves, or why it is refused. -/
def taken (c : Commissioner) (fields : Option (List UInt8)) : Except ErrorCode Commissioner :=
  match c.stage with
  | .armFailSafe => do
    checkCommissioningError fields
    pure { c with stage := if c.plan.needsRegulatoryConfig then .setRegulatoryConfig else .requestDac }
  | .setRegulatoryConfig => do
    checkCommissioningError fields
    pure { c with stage := .requestDac }
  | .requestDac => do
    let dac ← certificate fields
    pure { c with dac := dac, stage := .requestPai }
  | .requestPai => do
    let pai ← certificate fields
    pure { c with pai := pai, stage := .requestAttestation }
  | .requestAttestation => do
    let (decoded, signature) ← signedResponse fields
    let attestation := attestationOf (c.attestationOutcome crypto decoded signature)
    pure { c with attestation := some attestation, stage := .requestCsr }
  | .requestCsr => do
    let key ← c.csrKey crypto fields
    pure { c with operationalKey := some key, stage := .addTrustedRoot }
  | .addTrustedRoot => do
    ensure (fields.all (·.isEmpty)) .invalidState
    pure { c with stage := .addNoc }
  | .addNoc => do
    checkNocStatus fields
    pure { c with stage := .operational }
  | .operational => .error .invalidState
  | .commissioningComplete => do
    checkCommissioningError fields
    pure { c with stage := .done }
  | .done => .error .invalidState

variable {crypto : CommissionerCrypto}

variable {c c' : Commissioner} {response : SignedResponse} {signature : Signature}
  {fields : Option (List UInt8)} {key : PublicKey}

lemma attestationOutcome_eq_ok_iff {u : Unit} :
    c.attestationOutcome crypto response signature = .ok u ↔ ∃ dac elements,
      crypto.parseCertificate c.dac.toList = .ok dac ∧
      crypto.verifyElements dac.publicKey response.elements c.challenge signature = .ok true ∧
      AttestationElements.decode response.elements = .ok elements ∧
      elements.attestationNonce = c.attestationNonce := by
  simp only [attestationOutcome, bind_eq_ok, ensure_eq_ok]
  constructor
  · rintro ⟨dac, hdac, holds, hverify, _, rfl, elements, helements, hnonce⟩
    exact ⟨dac, elements, hdac, hverify, helements, hnonce⟩
  · rintro ⟨dac, elements, hdac, hverify, helements, hnonce⟩
    exact ⟨dac, hdac, true, hverify, (), rfl, elements, helements, hnonce⟩

lemma attestationOf_eq_trusted_iff {outcome : Except ErrorCode Unit} :
    attestationOf outcome = .trusted ↔ outcome = .ok () := by
  cases outcome <;> simp [attestationOf]

lemma chainOutcome_eq_ok_iff {paaDer : List UInt8} {u : Unit} :
    c.chainOutcome crypto paaDer = .ok u ↔ c.ChainProven crypto paaDer := by
  simp only [chainOutcome, bind_eq_ok, pure_eq_ok]
  constructor
  · rintro ⟨dac, hdac, pai, hpai, paa, hpaa, chain, hchain, _⟩
    exact ⟨dac, pai, paa, chain, hdac, hpai, hpaa, hchain⟩
  · rintro ⟨dac, pai, paa, chain, hdac, hpai, hpaa, hchain⟩
    exact ⟨dac, hdac, pai, hpai, paa, hpaa, chain, hchain, trivial⟩

lemma signedResponse_eq_ok_iff :
    signedResponse fields = .ok (response, signature) ↔ ∃ octets, fields = some octets ∧
      SignedResponse.decode octets = .ok response ∧
      Signature.fromSlice response.attestationSignature = .ok signature := by
  simp only [signedResponse, bind_eq_ok, okOr_eq_ok, pure_eq_ok, Except.ok.injEq, Prod.mk.injEq]
  constructor
  · rintro ⟨octets, hfields, _, hresponse, _, hsignature, rfl, rfl⟩
    exact ⟨octets, hfields, hresponse, hsignature⟩
  · rintro ⟨octets, hfields, hresponse, hsignature⟩
    exact ⟨octets, hfields, response, hresponse, signature, hsignature, rfl, rfl⟩

lemma csrProven_of_csrKey (h : c.csrKey crypto fields = .ok key) : ∃ octets, fields = some octets ∧
      c.CsrProven crypto octets key := by
  simp only [csrKey, bind_eq_ok, ensure_eq_ok] at h
  obtain ⟨⟨response, signature⟩, hsigned, dac, hdac, _, hverify, _, rfl, elements, helements, _, hnonce,
    csr, hcsr, _, hpossessed, _, rfl, hkey⟩ := h
  obtain ⟨octets, hfields, hresponse, hsignature⟩ := signedResponse_eq_ok_iff.mp hsigned
  exact ⟨octets, hfields, response, signature, dac, elements, csr, hresponse, hsignature, hdac, hverify,
    helements, hnonce, hcsr, hpossessed, Except.ok.inj hkey⟩

/-- A request is proven under what is recorded of the device and the session. -/
lemma CsrProven.of_recorded {fields : List UInt8} (h : c.CsrProven crypto fields key)
    (hdac : c'.dac = c.dac) (hchallenge : c'.challenge = c.challenge)
    (hnonce : c'.csrNonce = c.csrNonce) : c'.CsrProven crypto fields key := by
  unfold CsrProven at h ⊢
  rwa [hdac, hchallenge, hnonce]

lemma exec_checkCsr (c : Commissioner) (fields : Option (List UInt8)) : exec (checkCsr crypto fields) c =
      match c.csrKey crypto fields with
      | .ok key => (.ok (), { c with operationalKey := some key })
      | .error reason => (.error reason, c) := by
  unfold checkCsr
  rw [exec_get_bind]
  cases c.csrKey crypto fields <;> rfl

/-- A response is taken as a whole or leaves everything as it is. -/
lemma exec_onResponse (c : Commissioner) (fields : Option (List UInt8)) :
    exec (onResponse crypto fields) c =
      match c.taken crypto fields with
      | .ok c' => (.ok (), c')
      | .error reason => (.error reason, c) := by
  unfold onResponse taken
  rw [exec_get_bind]
  cases c.stage with
  | armFailSafe | setRegulatoryConfig => cases checkCommissioningError fields <;> rfl
  | requestDac | requestPai => cases certificate fields <;> rfl
  | requestAttestation =>
    simp only [checkAttestation]
    cases signedResponse fields <;> rfl
  | requestCsr =>
    rw [exec_bind, exec_checkCsr]
    cases c.csrKey crypto fields <;> rfl
  | addTrustedRoot =>
    by_cases hfields : fields.all (·.isEmpty) = true
    · rw [exec_require_bind hfields]
      simp only [ensure_of hfields]
      rfl
    · simp only [ensure, require, if_neg hfields]
      rfl
  | addNoc => cases checkNocStatus fields <;> rfl
  | operational => rfl
  | commissioningComplete => cases checkCommissioningError fields <;> rfl
  | done => rfl

/-- What a response that is taken changes. The certificates of the device come before the attestation, the
operational key comes with the CSR response, and after that only the stage goes on. -/
lemma taken_cases (h : c.taken crypto fields = .ok c') :
    (c.stage = .requestAttestation ∧ ∃ response signature,
      signedResponse fields = .ok (response, signature) ∧
      c' = { c with
        attestation := some (attestationOf (c.attestationOutcome crypto response signature))
        stage := .requestCsr }) ∨
    (c.stage = .requestCsr ∧ ∃ octets key, fields = some octets ∧ c.CsrProven crypto octets key ∧
      c' = { c with operationalKey := some key, stage := .addTrustedRoot }) ∨
    (c.stage ≠ .requestAttestation ∧ c.stage ≠ .requestCsr ∧
      ∃ dac pai stage, c' = { c with dac := dac, pai := pai, stage := stage } ∧
        (c.stage.isPastCsr = true → dac = c.dac ∧ stage.isPastCsr = true)) := by
  unfold taken at h
  cases hstage : c.stage with
  | requestAttestation =>
    rw [hstage] at h
    obtain ⟨⟨response, signature⟩, hsigned, hc'⟩ := bind_eq_ok.mp h
    exact .inl ⟨rfl, response, signature, hsigned, (Except.ok.inj hc').symm⟩
  | requestCsr =>
    rw [hstage] at h
    obtain ⟨key, hkey, hc'⟩ := bind_eq_ok.mp h
    obtain ⟨octets, hfields, hproven⟩ := csrProven_of_csrKey hkey
    exact .inr (.inl ⟨rfl, octets, key, hfields, hproven, (Except.ok.inj hc').symm⟩)
  | requestDac =>
    rw [hstage] at h
    obtain ⟨dac, _, hc'⟩ := bind_eq_ok.mp h
    exact .inr (.inr ⟨by simp, by simp, dac, c.pai, _, (Except.ok.inj hc').symm, by simp [Stage.isPastCsr]⟩)
  | requestPai =>
    rw [hstage] at h
    obtain ⟨pai, _, hc'⟩ := bind_eq_ok.mp h
    exact .inr (.inr ⟨by simp, by simp, c.dac, pai, _, (Except.ok.inj hc').symm, by simp [Stage.isPastCsr]⟩)
  | operational | done =>
    rw [hstage] at h
    cases h
  | armFailSafe | setRegulatoryConfig | addTrustedRoot | addNoc | commissioningComplete =>
    rw [hstage] at h
    obtain ⟨_, _, hc'⟩ := bind_eq_ok.mp h
    exact .inr (.inr ⟨by simp, by simp, c.dac, c.pai, _, (Except.ok.inj hc').symm,
      by simp [Stage.isPastCsr]⟩)

lemma exec_onOperational (c : Commissioner) : exec onOperational c = if c.stage = .operational then
      (.ok (), { c with stage := .commissioningComplete }) else (.error .invalidState, c) := by
  unfold onOperational
  rw [exec_get_bind]
  by_cases hstage : c.stage = .operational
  · rw [if_pos hstage, exec_require_bind hstage]
    rfl
  · simp only [require, if_neg hstage]
    rfl

/-- A chain that verifies does not rescue what has failed. -/
lemma attestation_verifyAttestationAgainst (c : Commissioner) (paaDer : List UInt8) :
    ∃ result, (exec (verifyAttestationAgainst crypto paaDer) c).2 = { c with attestation := some result } ∧
      (result = .trusted ↔
        (∀ reason, c.attestation ≠ some (.failed reason)) ∧ c.ChainProven crypto paaDer) := by
  refine ⟨_, rfl, ?_⟩
  rw [← chainOutcome_eq_ok_iff (u := ())]
  cases c.attestation with
  | none => cases c.chainOutcome crypto paaDer <;> simp
  | some attestation =>
    cases attestation with
    | failed reason => simp
    | trusted => cases c.chainOutcome crypto paaDer <;> simp

/-! ### Handing out a command -/

/-- Nothing but the buffer of the command has changed. -/
def Readies (c c' : Commissioner) : Prop := ∃ fields, c' = { c with fields := fields }

instance : Std.Refl Readies := ⟨fun c => ⟨c.fields, rfl⟩⟩

instance : IsTrans Commissioner Readies where
  trans := by
    rintro c _ _ ⟨fields, rfl⟩ ⟨fields', rfl⟩
    exact ⟨fields', rfl⟩

lemma readies_encode (write : Tag → Writing Unit) : Moves Readies (encode write) :=
  .ofResult_bind fun fields _ => .modify fun _ => ⟨fields, rfl⟩

lemma readies_invoke (cluster : ClusterId) (command : CommandId) : Moves Readies (invoke cluster command) :=
  .get fun c => ⟨c.fields, rfl⟩

lemma readies_encode_invoke (write : Tag → Writing Unit) (cluster : ClusterId) (command : CommandId) :
    Moves Readies (do encode write; invoke cluster command) :=
  (readies_encode write).bind fun _ => readies_invoke cluster command

lemma readies_step : Moves Readies step := by
  refine .get fun c => ?_
  cases c.stage with
  | addTrustedRoot | addNoc => exact Moves.throw _ c
  | operational | done => exact Moves.pure _ c
  | commissioningComplete =>
    exact (Moves.modify fun _ => ⟨.empty, rfl⟩).bind (fun _ => readies_invoke _ _) c
  | armFailSafe | setRegulatoryConfig | requestDac | requestPai | requestAttestation | requestCsr =>
    exact readies_encode_invoke _ _ _ c

lemma readies_addRoot (ca : CertAuthority) : Moves Readies (addRoot ca) := by
  refine .get fun c => ?_
  exact (Moves.require _ _).bind (fun _ => .ofResult_bind fun _ _ => readies_encode_invoke _ _ _) c

lemma readies_addNoc (ca : CertAuthority) (icac : Option (List UInt8)) :
    Moves Readies (addNoc crypto ca icac) := by
  refine .get fun c => ?_
  exact (Moves.require _ _).bind (fun _ => .ofResult_bind fun _ _ => .ofResult_bind fun _ _ =>
    .ofResult_bind fun _ _ => readies_encode_invoke _ _ _) c

/-- `AddNOC` is handed out for the operational key. -/
lemma operationalKey_of_addNoc {ca : CertAuthority} {icac : Option (List UInt8)} {next : Step}
    (h : exec (addNoc crypto ca icac) c = (.ok next, c')) : ∃ key noc, c.operationalKey = some key ∧
      ca.issueNoc c.plan.identity key c.plan.validity = .ok noc := by
  unfold addNoc at h
  rw [exec_get_bind] at h
  obtain ⟨_, h⟩ := exec_require_bind_eq_ok.mp h
  obtain ⟨key, s, hkey, h⟩ := exec_bind_eq_ok.mp h
  obtain ⟨noc, s', hnoc, _⟩ := exec_bind_eq_ok.mp h
  rw [exec_ofResult, Prod.mk.injEq, okOr_eq_ok] at hkey
  rw [exec_ofResult, Prod.mk.injEq] at hnoc
  exact ⟨key, noc, hkey.1, hnoc.1⟩

end calls

end Commissioner

/-! ## Runs -/

open Commissioner

/-- One call on a commissioner. -/
inductive Call
  | step
  | addRoot (ca : CertAuthority)
  | addNoc (ca : CertAuthority) (icac : Option (List UInt8))
  | onResponse (fields : Option (List UInt8))
  | onOperational
  | verifyAttestationAgainst (paaDer : List UInt8)

/-- A commissioner with what it was given: the `AttestationResponse` and the `CSRResponse` it has taken,
and the PAAs it was to verify against. -/
structure CommissionerRun where
  commissioner : Commissioner
  attested : Option (List UInt8) := none
  requested : Option (List UInt8) := none
  paas : List (List UInt8) := []

namespace CommissionerRun

section calls

variable (crypto : CommissionerCrypto)

/-- Whether the response in `fields` is taken, in a stage. -/
def takenIn (h : CommissionerRun) (stage : Stage) (fields : Option (List UInt8)) : Bool :=
  decide (h.commissioner.stage = stage) && (exec (onResponse crypto fields) h.commissioner).1.isOk

/-- What a call makes of a run. -/
def take (h : CommissionerRun) : Call → CommissionerRun
  | .step => { h with commissioner := (exec step h.commissioner).2 }
  | .addRoot ca => { h with commissioner := (exec (addRoot ca) h.commissioner).2 }
  | .addNoc ca icac => { h with commissioner := (exec (addNoc crypto ca icac) h.commissioner).2 }
  | .onResponse fields =>
    { h with
      commissioner := (exec (onResponse crypto fields) h.commissioner).2
      attested := if h.takenIn crypto .requestAttestation fields then fields else h.attested
      requested := if h.takenIn crypto .requestCsr fields then fields else h.requested }
  | .onOperational => { h with commissioner := (exec onOperational h.commissioner).2 }
  | .verifyAttestationAgainst paaDer =>
    { h with
      commissioner := (exec (verifyAttestationAgainst crypto paaDer) h.commissioner).2
      paas := h.paas ++ [paaDer] }

/-- Both proofs of a device: its certificates are a chain up to one of the PAAs, and the
`AttestationResponse` it has sent carries the nonce under the signature of its DAC. -/
def Proven (h : CommissionerRun) : Prop :=
  (∃ paaDer ∈ h.paas, h.commissioner.ChainProven crypto paaDer) ∧
    ∃ fields, h.attested = some fields ∧ h.commissioner.AttestationProven crypto fields

/-- A call that calls a device trusted only after both proofs, turns no failure back, leaves everything
as it is where it refuses a response, and issues a NOC for a proven key only. -/
structure Behaves (h : CommissionerRun) (call : Call) : Prop where
  trusted : (h.take crypto call).commissioner.attestation = some .trusted → (h.take crypto call).Proven crypto
  failed : ∀ reason, h.commissioner.attestation = some (.failed reason) →
    (h.take crypto call).commissioner.attestation ≠ some .trusted
  refused : ∀ fields reason, call = .onResponse fields →
    (exec (onResponse crypto fields) h.commissioner).1 = .error reason →
    h.take crypto call = h
  issued : ∀ ca icac next, call = .addNoc ca icac →
    (exec (addNoc crypto ca icac) h.commissioner).1 = .ok next →
    ∃ key noc fields, h.commissioner.operationalKey = some key ∧
      ca.issueNoc h.commissioner.plan.identity key h.commissioner.plan.validity = .ok noc ∧
      h.requested = some fields ∧ h.commissioner.CsrProven crypto fields key

/-- Neither an `AttestationResponse` that holds is taken, nor is a chain that holds verified while nothing
is known of the attestation. -/
def NeverTrusts (h : CommissionerRun) : Call → Prop
  | .onResponse (some fields) =>
    ¬ (h.commissioner.stage = .requestAttestation ∧ h.commissioner.AttestationProven crypto fields)
  | .verifyAttestationAgainst paaDer =>
    ¬ (h.commissioner.attestation = none ∧ h.commissioner.ChainProven crypto paaDer)
  | _ => True

/-- What is so as long as no call has trusted a device. -/
structure Sound (h : CommissionerRun) : Prop where
  distrusts : h.commissioner.attestation ≠ some .trusted
  unchecked : h.commissioner.attestation = none → h.paas = [] ∧ h.attested = none
  requested : ∀ key, h.commissioner.operationalKey = some key →
    h.commissioner.stage.isPastCsr = true ∧
      ∃ fields, h.requested = some fields ∧ h.commissioner.CsrProven crypto fields key

end calls

variable {crypto : CommissionerCrypto}

lemma sound_start (plan : Plan) (challenge : SymmetricKey) (attestationNonce csrNonce : Vector UInt8 32) :
    Sound crypto { commissioner := .new plan challenge attestationNonce csrNonce } where
  distrusts := by simp [Commissioner.new]
  unchecked _ := ⟨rfl, rfl⟩
  requested := by simp [Commissioner.new]

variable {h : CommissionerRun} {c' : Commissioner} {fields : Option (List UInt8)} {call : Call}

/-- A call that only readies a command. -/
lemma Sound.readies (hs : h.Sound crypto) (hc' : Readies h.commissioner c') :
    Sound crypto { h with commissioner := c' } := by
  obtain ⟨fields, rfl⟩ := hc'
  exact ⟨hs.distrusts, hs.unchecked, hs.requested⟩

/-- An `AttestationResponse` that is taken is called trusted exactly if it holds. -/
lemma attestationOf_eq_trusted_iff_proven {c : Commissioner} {octets : List UInt8}
    {response : SignedResponse} {signature : Signature}
    (hsigned : signedResponse (some octets) = .ok (response, signature)) :
    attestationOf (c.attestationOutcome crypto response signature) = .trusted ↔
      c.AttestationProven crypto octets := by
  obtain ⟨_, hoctets, hresponse, hsignature⟩ := signedResponse_eq_ok_iff.mp hsigned
  obtain rfl := Option.some.inj hoctets
  rw [attestationOf_eq_trusted_iff, attestationOutcome_eq_ok_iff]
  constructor
  · rintro ⟨dac, elements, h⟩
    exact ⟨response, signature, dac, elements, hresponse, hsignature, h⟩
  · rintro ⟨response', signature', dac, elements, hresponse', hsignature', h⟩
    obtain rfl := Except.ok.inj (hresponse.symm.trans hresponse')
    obtain rfl := Except.ok.inj (hsignature.symm.trans hsignature')
    exact ⟨dac, elements, h⟩

lemma take_onResponse_of_error {reason : ErrorCode}
    (htaken : h.commissioner.taken crypto fields = .error reason) :
    h.take crypto (.onResponse fields) = h := by
  have hexec : exec (onResponse crypto fields) h.commissioner = (.error reason, h.commissioner) := by
    rw [exec_onResponse, htaken]
  simp [CommissionerRun.take, takenIn, hexec, Except.isOk, Except.toBool]

lemma take_onResponse_of_ok (htaken : h.commissioner.taken crypto fields = .ok c') :
    h.take crypto (.onResponse fields) =
      { commissioner := c'
        attested := if h.commissioner.stage = .requestAttestation then fields else h.attested
        requested := if h.commissioner.stage = .requestCsr then fields else h.requested
        paas := h.paas } := by
  have hexec : exec (onResponse crypto fields) h.commissioner = (.ok (), c') := by
    rw [exec_onResponse, htaken]
  simp [CommissionerRun.take, takenIn, hexec, Except.isOk, Except.toBool]

/-- What a call that is not trusting leaves is sound again. -/
lemma Sound.take (hs : h.Sound crypto) (hcall : h.NeverTrusts crypto call) :
    Sound crypto (h.take crypto call) := by
  cases call with
  | step => exact hs.readies (readies_step h.commissioner)
  | addRoot ca => exact hs.readies (readies_addRoot ca h.commissioner)
  | addNoc ca icac => exact hs.readies (readies_addNoc ca icac h.commissioner)
  | onOperational =>
    simp only [CommissionerRun.take]
    rw [exec_onOperational]
    split_ifs with hstage
    · refine ⟨hs.distrusts, hs.unchecked, fun key hkey => ?_⟩
      obtain ⟨_, fields, hfields, hproven⟩ := hs.requested key hkey
      exact ⟨rfl, fields, hfields, hproven⟩
    · exact hs
  | verifyAttestationAgainst paaDer =>
    obtain ⟨result, hresult, htrusted⟩ := attestation_verifyAttestationAgainst h.commissioner paaDer
    simp only [CommissionerRun.take]
    rw [hresult]
    refine ⟨?_, by simp, hs.requested⟩
    simp only [ne_eq, Option.some.injEq, htrusted, not_and]
    intro hfailed hproven
    refine hcall ⟨?_, hproven⟩
    cases hattestation : h.commissioner.attestation with
    | none => rfl
    | some attestation =>
      cases attestation with
      | trusted => exact absurd hattestation hs.distrusts
      | failed reason => exact absurd hattestation (hfailed reason)
  | onResponse fields =>
    cases htaken : h.commissioner.taken crypto fields with
    | error reason =>
      rw [take_onResponse_of_error htaken]
      exact hs
    | ok c' =>
      rw [take_onResponse_of_ok htaken]
      rcases taken_cases htaken with ⟨hstage, response, signature, hsigned, rfl⟩ |
        ⟨hstage, octets, key, rfl, hproven, rfl⟩ |
        ⟨hattestation, hcsr, dac, pai, stage, rfl, hpast⟩
      · obtain ⟨octets, rfl, _⟩ := signedResponse_eq_ok_iff.mp hsigned
        refine ⟨?_, by simp, fun key hkey => ?_⟩
        · simp only [ne_eq, Option.some.injEq, attestationOf_eq_trusted_iff_proven hsigned]
          exact fun hproven => hcall ⟨hstage, hproven⟩
        · have hpast := (hs.requested key hkey).1
          rw [hstage] at hpast
          cases hpast
      · refine ⟨hs.distrusts, fun hnone => ?_, fun key' hkey' => ?_⟩
        · simp only [hstage, reduceCtorEq, if_false]
          exact hs.unchecked hnone
        · obtain rfl := Option.some.inj hkey'
          exact ⟨rfl, octets, by simp [hstage], hproven.of_recorded rfl rfl rfl⟩
      · simp only [if_neg hattestation, if_neg hcsr]
        refine ⟨hs.distrusts, hs.unchecked, fun key hkey => ?_⟩
        obtain ⟨hbefore, fields', hfields', hproven⟩ := hs.requested key hkey
        obtain ⟨hdac, hafter⟩ := hpast hbefore
        exact ⟨hafter, fields', hfields', hproven.of_recorded hdac rfl rfl⟩

/-- A call that does not trust a device behaves. -/
lemma Sound.behaves (hs : h.Sound crypto) (hcall : h.NeverTrusts crypto call) : h.Behaves crypto call where
  trusted htrusted := absurd htrusted (hs.take hcall).distrusts
  failed _ _ := (hs.take hcall).distrusts
  refused := by
    rintro fields reason rfl hrefused
    cases htaken : h.commissioner.taken crypto fields with
    | error reason => exact take_onResponse_of_error htaken
    | ok c' =>
      rw [exec_onResponse, htaken] at hrefused
      cases hrefused
  issued := by
    rintro ca icac next rfl hissued
    obtain ⟨key, noc, hkey, hnoc⟩ :=
      operationalKey_of_addNoc (Prod.ext hissued rfl : exec (addNoc crypto ca icac) h.commissioner = (.ok next, _))
    obtain ⟨_, fields, hfields, hproven⟩ := hs.requested key hkey
    exact ⟨key, noc, fields, hkey, hnoc, hfields, hproven⟩

/-- A call that behaves does not trust a device: where it is the first to do so, one of the proofs is
missing or a failure is turned back. -/
lemma Behaves.neverTrusts (hbehaves : h.Behaves crypto call) (hs : h.Sound crypto) :
    h.NeverTrusts crypto call := by
  cases call with
  | step | addRoot ca | addNoc ca icac | onOperational => exact trivial
  | verifyAttestationAgainst paaDer =>
    rintro ⟨hnone, hproven⟩
    obtain ⟨result, hresult, htrusted⟩ :=
      @attestation_verifyAttestationAgainst crypto h.commissioner paaDer
    have hafter : (h.take crypto (.verifyAttestationAgainst paaDer)).commissioner.attestation =
        some .trusted := by
      simp only [CommissionerRun.take]
      rw [hresult, htrusted.mpr ⟨by simp [hnone], hproven⟩]
    obtain ⟨_, fields, hfields, _⟩ := hbehaves.trusted hafter
    exact Option.some_ne_none fields (hfields.symm.trans (hs.unchecked hnone).2)
  | onResponse fields =>
    cases fields with
    | none => exact trivial
    | some octets =>
      rintro ⟨hstage, hproven⟩
      obtain ⟨response, signature, _, _, hresponse, hsignature, _⟩ := id hproven
      have hsigned := signedResponse_eq_ok_iff.mpr ⟨octets, rfl, hresponse, hsignature⟩
      have htaken : h.commissioner.taken crypto (some octets) = .ok { h.commissioner with
          attestation := some (attestationOf (h.commissioner.attestationOutcome crypto response signature))
          stage := .requestCsr } := by
        unfold taken
        rw [hstage, hsigned]
        rfl
      rw [(attestationOf_eq_trusted_iff_proven hsigned).mpr hproven] at htaken
      have hafter : (h.take crypto (.onResponse (some octets))).commissioner.attestation =
          some .trusted := by
        rw [take_onResponse_of_ok htaken]
      cases hattestation : h.commissioner.attestation with
      | none =>
        obtain ⟨⟨paaDer, hpaa, _⟩, _⟩ := hbehaves.trusted hafter
        rw [take_onResponse_of_ok htaken, (hs.unchecked hattestation).1] at hpaa
        cases hpaa
      | some attestation =>
        cases attestation with
        | trusted => exact hs.distrusts hattestation
        | failed reason => exact hbehaves.failed reason hattestation hafter

/-- A device is called trusted only after both proofs, no failure is turned back, a refused response
leaves everything as it is and a NOC is issued for a proven key only, in exactly the runs in which no
call trusts the device. -/
theorem trusted_only_after_both_iff (plan : Plan) (challenge : SymmetricKey)
    (attestationNonce csrNonce : Vector UInt8 32) (calls : List Call) :
    Throughout (CommissionerRun.take crypto) (Behaves crypto)
        { commissioner := .new plan challenge attestationNonce csrNonce } calls ↔
      Throughout (CommissionerRun.take crypto) (NeverTrusts crypto)
        { commissioner := .new plan challenge attestationNonce csrNonce } calls := by
  refine Throughout.congr_of_allowed (W := fun _ => True) (I := Sound crypto) ?_ ?_
    (sound_start plan challenge attestationNonce csrNonce) fun _ _ => trivial
  · intro h call _ hs
    exact ⟨fun hbehaves => hbehaves.neverTrusts hs, hs.behaves⟩
  · intro h call _ hs hbehaves
    exact hs.take (hbehaves.neverTrusts hs)

section counterexample

/-- The elements of a device: no declaration, a nonce of zeros, the time zero. -/
private def zeroElements : List UInt8 :=
  [0x15, 0x30, 1, 0, 0x30, 2, 32] ++ List.replicate 32 0 ++ [0x24, 3, 0, 0x18]

private def zeroChallenge : SymmetricKey := ⟨.replicate 16 0⟩

private def zeroNonce : Vector UInt8 32 := .replicate 32 0

/-- A certificate that says nothing but its key. -/
private def bareCertificate (octets : List UInt8) : X509Certificate where
  tbs := octets
  issuer := []
  subject := []
  issuerVidPid := ⟨none, none⟩
  subjectVidPid := ⟨none, none⟩
  notBefore := 0
  notAfter := none
  publicKey := ⟨.replicate 65 0⟩
  basicConstraints := none
  keyUsage := none
  subjectKeyId := none
  authorityKeyId := none
  signature := ⟨.replicate 64 0⟩

/-- The octets that stand for the DAC. -/
private def dacOctets : List UInt8 := [0x30, 2, 0x30, 0]

/-- The device has signed its attestation elements, and nothing else was ever signed. -/
private def oneSignature : CommissionerCrypto where
  parseCertificate octets :=
    if octets = dacOctets then .ok (bareCertificate octets) else .error .derMalformed
  parseCsr _ := .error .derMalformed
  verify _ message _ := .ok (decide (message = zeroElements ++ zeroChallenge.bytes.toList))
  hash _ := .replicate 32 0

private def zeroPlan : Plan where
  identity := ⟨⟨1⟩, ⟨1⟩, .replicate 3 none⟩
  caseAdminSubject := 1
  adminVendorId := ⟨0xFFF1⟩
  validity := ⟨0, 0⟩

/-- The device answers up to its attestation. -/
private def upToAttestation : List Call :=
  [.onResponse (some [0x35, 1, 0x24, 0, 0, 0x2c, 1, 0, 0x18]),
    .onResponse (some ([0x35, 1, 0x30, 0, 4] ++ dacOctets ++ [0x18])),
    .onResponse (some [0x35, 1, 0x30, 0, 0, 0x18]),
    .onResponse (some ([0x35, 1, 0x30, 0, 43] ++ zeroElements ++ [0x30, 1, 64] ++
      List.replicate 64 0 ++ [0x18]))]

/-- A device is called trusted though nothing was said of who has made it: no PAA was given. -/
theorem trusted_without_chain :
    ¬ ∀ (crypto : CommissionerCrypto) (plan : Plan) (challenge : SymmetricKey)
      (attestationNonce csrNonce : Vector UInt8 32) (calls : List Call),
      Throughout (CommissionerRun.take crypto) (Behaves crypto)
        { commissioner := .new plan challenge attestationNonce csrNonce } calls := by
  intro hclaim
  have hrun := hclaim oneSignature zeroPlan zeroChallenge zeroNonce zeroNonce upToAttestation
  have hknown := hrun.invariant (I := fun h => h.commissioner.attestation = some .trusted → h.paas ≠ [])
    (fun h call _ hbehaves htrusted hnone => by
      obtain ⟨⟨paaDer, hpaa, _⟩, _⟩ := hbehaves.trusted htrusted
      rw [hnone] at hpaa
      cases hpaa)
    (by decide)
  exact hknown (by decide +kernel) (by decide +kernel)

end counterexample

end CommissionerRun

end MatterKit.Commissioning
