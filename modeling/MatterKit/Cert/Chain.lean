import MatterKit.Cert.Certificate
import MatterKit.Sc.Case

/-!
# Certificate chains

The rules of `cert/mod.rs` for each type of certificate, and `cert/chain.rs`. A chain is checked from
the root down: every certificate is what it is to be, every one is issued by the one above it, and the
fabric that an authority names is the fabric of the leaf.

The DER form a signature is over, and the check of a signature, are parameters (`Signing`). What
everything else relies on is the identity that comes out (`verifyChain_identity`).
-/

namespace MatterKit.Cert

open Lib Sc

/-- Source: `cert/mod.rs`, `CertType`. -/
inductive CertType
  | noc
  | icac
  | rcac
  | vvsc
  | firmwareSigning
  deriving DecidableEq

/-- What makes and checks a signature: the DER form it is over, and the curve.
Source: `cert/der.rs`, `tbs_certificate` into a buffer of `CERT_DER_MAX`; `crypto/mod.rs`, `verify`. -/
structure Signing where
  tbsCertificate : Certificate → Except ErrorCode (List UInt8)
  verify : PublicKey → (message signature : List UInt8) → Except ErrorCode Bool

namespace Certificate

/-! ## The type of a certificate -/

/-- Source: `MatterCertificate::cert_type`, `candidates`. -/
def candidates : List (DnAttributeKind × CertType) :=
  [(.matterNodeId, .noc), (.matterIcacId, .icac), (.matterRcacId, .rcac), (.matterVvsId, .vvsc),
    (.matterFirmwareSigningId, .firmwareSigning)]

/-- Source: the loop of `MatterCertificate::cert_type`. -/
def certTypeFrom (subject : DistinguishedName) :
    List (DnAttributeKind × CertType) → Option CertType → Option CertType
  | [], found => found
  | candidate :: rest, found =>
    if subject.count candidate.1 = 0 then certTypeFrom subject rest found
    else if subject.count candidate.1 = 1 ∧ found = none then
      certTypeFrom subject rest (some candidate.2)
    else none

/-- Source: `MatterCertificate::cert_type`. -/
def certType (cert : Certificate) : Option CertType := certTypeFrom cert.subject candidates none

/-! ## What each type may and must have -/

/-- Source: `MatterCertificate::validate_subject_dn`, `forbidden`. -/
def forbidden : CertType → List DnAttributeKind
  | .noc => [.matterIcacId, .matterRcacId, .matterVvsId]
  | .icac => [.matterNodeId, .matterRcacId, .matterNocCat, .matterVvsId]
  | .rcac => [.matterNodeId, .matterIcacId, .matterNocCat, .matterVvsId]
  | .vvsc => [.matterNodeId, .matterFabricId, .matterNocCat]
  | .firmwareSigning => []

/-- No two tags have one identifier.
Source: the loop of `validate_noc_cats`. -/
def distinctCats : List CaseAuthenticatedTag → Bool
  | [] => true
  | cat :: rest =>
    cat.isValid && !(rest.any fun other => decide (other.identifier = cat.identifier)) &&
      distinctCats rest

/-- Source: `cert/mod.rs`, `validate_noc_cats`. -/
def validateNocCats (dn : DistinguishedName) : Except ErrorCode Unit := do
  ensure (dn.count .matterNocCat ≤ 3) .certInvalid
  ensure (distinctCats dn.nocCats.toList = true) .certInvalid

/-- Source: `MatterCertificate::validate_subject_dn`. -/
def validateSubjectDn (cert : Certificate) (certType : CertType) : Except ErrorCode Unit := do
  let dn := cert.subject
  ensure (¬(dn.isEmpty || cert.issuer.isEmpty) = true) .certInvalid
  ensure ((forbidden certType).all (fun kind => decide (dn.count kind = 0)) = true) .certInvalid
  match certType with
  | .noc => do
    let nodeId ← okOr dn.nodeId .certInvalid
    ensure (nodeId.isOperational = true) .certInvalid
    let fabricId ← okOr dn.fabricId .certInvalid
    ensure (fabricId.val ≠ 0) .certInvalid
    validateNocCats dn
  | .icac | .rcac =>
    ensure (dn.count .matterFabricId = 0 ∨
      dn.count .matterFabricId = 1 ∧ (dn.fabricId.map fun f => decide (f.val ≠ 0)) = some true)
      .certInvalid
  | .vvsc | .firmwareSigning => pure ()

/-- The key purposes a type of certificate has, where they are fixed.
Source: `MatterCertificate::validate_extensions`, `expected_eku`. -/
def expectedEku : CertType → Option (List KeyPurposeId)
  | .noc => some [.serverAuth, .clientAuth]
  | .firmwareSigning => some [.codeSigning]
  | .icac | .rcac => some []
  | .vvsc => none

/-- Source: `MatterCertificate::validate_extensions`, `match (expected.is_empty(), ..)`. -/
def purposesAre (expected : List KeyPurposeId) : Option (List KeyPurposeId) → Bool
  | none => expected.isEmpty
  | some present =>
    !expected.isEmpty && decide (present.length = expected.length) &&
      expected.all fun purpose => decide (purpose ∈ present)

/-- Source: `MatterCertificate::validate_extensions`, `match cert_type`. -/
def validateKeyUsage (certType : CertType) (basic : BasicConstraints) (keyUsage : KeyUsage)
    (subjectKeyId authorityKeyId : Vector UInt8 20) : Except ErrorCode Unit :=
  match certType with
  | .noc | .vvsc | .firmwareSigning => do
    ensure (basic.isCa = false) .certInvalid
    ensure (keyUsage = .digitalSignature) .certInvalid
  | .icac | .rcac => do
    ensure (basic.isCa = true) .certInvalid
    ensure (keyUsage.contains .signing = true) .certInvalid
    ensure (KeyUsage.contains ⟨0x0061⟩ keyUsage = true) .certInvalid
    ensure (¬(certType = .rcac ∧ authorityKeyId ≠ subjectKeyId)) .certInvalid

/-- Source: `MatterCertificate::validate_extensions`. -/
def validateExtensions (cert : Certificate) (certType : CertType) : Except ErrorCode Unit := do
  let subjectKeyId ← okOr cert.extensions.subjectKeyId .certInvalid
  let authorityKeyId ← okOr cert.extensions.authorityKeyId .certInvalid
  let basic ← okOr cert.extensions.basicConstraints .certInvalid
  ensure (¬(basic.isCa = false ∧ basic.pathLenConstraint.isSome = true)) .certInvalid
  let keyUsage ← okOr cert.extensions.keyUsage .certInvalid
  validateKeyUsage certType basic keyUsage subjectKeyId authorityKeyId
  match expectedEku certType with
  | none => pure ()
  | some expected =>
    ensure (purposesAre expected cert.extensions.extendedKeyUsage = true) .certInvalid

/-- Source: `MatterCertificate::validate_as`. -/
def validateAs (cert : Certificate) (certType : CertType) : Except ErrorCode Unit := do
  ensure (cert.certType = some certType) .certInvalid
  cert.validateSubjectDn certType
  cert.validateExtensions certType

end Certificate

/-! ## The chain -/

/-- Source: `check_validity`. -/
def checkValidity (cert : Certificate) (epochS : UInt32) : Except ErrorCode Unit :=
  ensure (cert.isValidAt epochS = true) .certExpired

/-- Source: `if let Some(at) = at { check_validity(.., at)? }`. -/
def checkValidityIf (cert : Certificate) (epochS : Option UInt32) : Except ErrorCode Unit :=
  match epochS with
  | none => pure ()
  | some epochS => checkValidity cert epochS

section chain

variable (x : Signing)

/-- Source: `check_link`. -/
def checkLink (subject issuer : Certificate) (epochS : Option UInt32) : Except ErrorCode Unit := do
  ensure (issuer.isCa = true) .certPathInvalid
  ensure (subject.issuer = issuer.subject) .certPathInvalid
  ensure (subject.extensions.authorityKeyId.isSome = true ∧
    subject.extensions.authorityKeyId = issuer.extensions.subjectKeyId) .certPathInvalid
  checkValidityIf subject epochS
  let tbs ← x.tbsCertificate subject
  let verified ← x.verify issuer.publicKey tbs subject.signature.toList
  ensure (verified = true) .certPathInvalid

/-- Source: `verify_chain`, `if let Some(icac) = icac { icac.validate_as(CertType::Icac)?; }`. -/
def validateIntermediate (icac : Option Certificate) : Except ErrorCode Unit :=
  match icac with
  | none => pure ()
  | some icac => icac.validateAs .icac

/-- The link from an ICAC to the root, where there is one.
Source: `verify_chain`, `if let Some(icac) = icac { check_link(icac, root, at)?; .. }`. -/
def checkIntermediate (icac : Option Certificate) (root : Certificate) (epochS : Option UInt32) :
    Except ErrorCode Unit :=
  match icac with
  | none => pure ()
  | some icac => do
    checkLink x icac root epochS
    ensure (root.extensions.basicConstraints.bind BasicConstraints.pathLenConstraint ≠ some 0)
      .certPathInvalid

/-- An authority that names a fabric names this one.
Source: `verify_chain`, `for authority in [Some(root), icac].into_iter().flatten()`. -/
def namesFabric (fabricId : FabricId) (authority : Certificate) : Bool :=
  decide (authority.subject.count .matterFabricId = 0) || decide (authority.fabricId = some fabricId)

/-- Source: `verify_chain`. -/
def verifyChain (noc : Certificate) (icac : Option Certificate) (root : Certificate)
    (epochS : Option UInt32) : Except ErrorCode VerifiedIdentity := do
  root.validateAs .rcac
  noc.validateAs .noc
  validateIntermediate icac
  checkLink x noc (icac.getD root) epochS
  checkIntermediate x icac root epochS
  checkValidityIf root epochS
  let fabricId ← okOr noc.fabricId .certPathInvalid
  ensure ((root :: icac.toList).all (namesFabric fabricId) = true) .certPathInvalid
  let nodeId ← okOr noc.nodeId .certPathInvalid
  pure ⟨nodeId, fabricId, noc.subject.nocCats⟩

/-- Source: `verify_self_signed`. -/
def verifySelfSigned (root : Certificate) : Except ErrorCode Bool := do
  root.validateAs .rcac
  if root.issuer ≠ root.subject then pure false
  else do
    let tbs ← x.tbsCertificate root
    x.verify root.publicKey tbs root.signature.toList

variable {x} {noc root : Certificate} {icac : Option Certificate} {epochS : Option UInt32}
  {identity : VerifiedIdentity}

/-- A NOC names one operational node and one fabric, which is not 0. -/
lemma Certificate.validateAs_noc {cert : Certificate} (h : cert.validateAs .noc = .ok ()) :
    (∃ nodeId, cert.nodeId = some nodeId ∧ nodeId.isOperational = true) ∧
      ∃ fabricId, cert.fabricId = some fabricId ∧ fabricId.val ≠ 0 := by
  simp only [validateAs, validateSubjectDn, bind_eq_ok, ensure_eq_ok, okOr_eq_ok] at h
  obtain ⟨-, -, -, ⟨-, -, -, -, nodeId, hnode, -, hoperational, fabricId, hfabric, -, hfabricId, -⟩, -⟩ := h
  exact ⟨⟨nodeId, hnode, hoperational⟩, fabricId, hfabric, hfabricId⟩

/-- The identity of a chain is that of its NOC: an operational node of a fabric that is not 0. -/
theorem verifyChain_identity (h : verifyChain x noc icac root epochS = .ok identity) :
    noc.nodeId = some identity.nodeId ∧ identity.nodeId.isOperational = true ∧
      noc.fabricId = some identity.fabricId ∧ identity.fabricId.val ≠ 0 := by
  simp only [verifyChain, bind_eq_ok, okOr_eq_ok, pure_eq_ok] at h
  obtain ⟨-, -, _, hnoc, -, -, -, -, -, -, -, -, fabricId, hfabric, -, -, nodeId, hnode, hidentity⟩ := h
  obtain ⟨⟨nodeId', hnode', hoperational⟩, fabricId', hfabric', hne⟩ :=
    Certificate.validateAs_noc hnoc
  obtain rfl := Except.ok.inj hidentity
  obtain rfl := Option.some.inj (hnode.symm.trans hnode')
  obtain rfl := Option.some.inj (hfabric.symm.trans hfabric')
  exact ⟨hnode, hoperational, hfabric, hne⟩

end chain

end MatterKit.Cert
