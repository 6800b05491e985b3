import MatterKit.Fabric
import MatterKit.Sc.Pase

/-!
# Operational certificates

`cert/dn.rs` and the decoder of `cert/mod.rs`. A Matter certificate is a structure of eleven members in
the order of their tags; names and extensions are lists inside it, read by a loop that goes on to the
end of its container (`toEnd`).

What a certificate is decoded to keeps the order of the attributes and of the extensions, since the
signature is over a DER form that is regenerated from them. That form, and the check of a signature,
are in `Chain`.
-/

namespace MatterKit.Cert

open Lib Machine Tlv Sc

/-- Source: `.map_err(|_| invalid())`. -/
def orInvalid {α : Type} (x : Except ErrorCode α) : Except ErrorCode α :=
  x.mapError fun _ => .certInvalid

/-- The loop over the elements of a container, up to its end.
Source: the loops of `MatterCertificate::decode`, `DistinguishedName::decode`, `decode_extensions`,
`decode_basic_constraints` and `decode_key_purposes`. -/
def toEndFrom {β : Type} (step : Element → β → Reading β) : ℕ → β → Reading β
  | 0, _ => throw .certInvalid
  | rounds + 1, acc => do
    match ← nextElement with
    | none => throw .certInvalid
    | some e =>
      if e.value = .endOfContainer then pure acc
      else do
        let acc ← step e acc
        toEndFrom step rounds acc

/-- All the elements up to the end of the container that is open. -/
def toEnd {β : Type} (step : Element → β → Reading β) (init : β) : Reading β := do
  let r ← get
  toEndFrom step (r.buf.length - r.pos + 1) init

/-! ## Distinguished names -/

/-- Source: `cert/dn.rs`, `DnAttributeKind`. -/
inductive DnAttributeKind
  | commonName
  | surname
  | serialNum
  | countryName
  | localityName
  | stateOrProvinceName
  | orgName
  | orgUnitName
  | title
  | name
  | givenName
  | initials
  | genQualifier
  | dnQualifier
  | pseudonym
  | domainComponent
  | matterNodeId
  | matterFirmwareSigningId
  | matterIcacId
  | matterRcacId
  | matterFabricId
  | matterNocCat
  | matterVvsId
  deriving DecidableEq

namespace DnAttributeKind

/-- Source: `DnAttributeKind::from_tag`. -/
def fromTag (tag : UInt8) : Option DnAttributeKind :=
  match tag with
  | 1 => some .commonName
  | 2 => some .surname
  | 3 => some .serialNum
  | 4 => some .countryName
  | 5 => some .localityName
  | 6 => some .stateOrProvinceName
  | 7 => some .orgName
  | 8 => some .orgUnitName
  | 9 => some .title
  | 10 => some .name
  | 11 => some .givenName
  | 12 => some .initials
  | 13 => some .genQualifier
  | 14 => some .dnQualifier
  | 15 => some .pseudonym
  | 16 => some .domainComponent
  | 17 => some .matterNodeId
  | 18 => some .matterFirmwareSigningId
  | 19 => some .matterIcacId
  | 20 => some .matterRcacId
  | 21 => some .matterFabricId
  | 22 => some .matterNocCat
  | 23 => some .matterVvsId
  | _ => none

/-- Source: `DnAttributeKind::is_string`. -/
def isString : DnAttributeKind → Bool
  | .matterNodeId | .matterFirmwareSigningId | .matterIcacId | .matterRcacId | .matterFabricId
  | .matterNocCat | .matterVvsId => false
  | _ => true

/-- Source: `DnAttributeKind::has_printable_string_form`. -/
def hasPrintableStringForm (kind : DnAttributeKind) : Bool :=
  kind.isString && decide (kind ≠ .domainComponent)

/-- Source: `DnAttributeKind::scalar_octets`. -/
def scalarOctets (kind : DnAttributeKind) : Option ℕ :=
  if kind = .matterNocCat then some 4 else if kind.isString then none else some 8

end DnAttributeKind

/-- Source: `cert/dn.rs`, `DnValue`. -/
inductive DnValue
  | str (text : String)
  | uint (value : UInt64)
  deriving DecidableEq

/-- Source: `cert/dn.rs`, `DnAttribute`. -/
structure DnAttribute where
  kind : DnAttributeKind
  printableString : Bool
  value : DnValue
  deriving DecidableEq

namespace DnAttribute

/-- Source: `DnAttribute::as_uint`. -/
def asUint (a : DnAttribute) : Option UInt64 :=
  match a.value with
  | .uint value => some value
  | .str _ => none

/-- Source: `DnAttribute::validate`. -/
def validate (a : DnAttribute) : Except ErrorCode Unit := do
  match a.kind.isString, a.value with
  | true, .str _ => pure ()
  | false, .uint value =>
    ensure (¬(a.kind.scalarOctets = some 4 ∧ 0xFFFFFFFF < value)) .certInvalid
  | _, _ => .error .certInvalid
  ensure (¬(a.printableString = true ∧ a.kind.hasPrintableStringForm = false)) .certInvalid

/-- Source: `DnAttribute::decode`. -/
def decode (e : Element) : Except ErrorCode DnAttribute := do
  let rawTag ← Lib.okOr e.tag.context? .certInvalid
  let printableString := decide (0x80 ≤ rawTag)
  let base := rawTag - if printableString then 0x80 else 0
  let kind ← Lib.okOr (DnAttributeKind.fromTag base) .certInvalid
  let value ←
    match e.value with
    | .utf8 text => .ok (DnValue.str text)
    | .unsigned value => .ok (DnValue.uint value)
    | _ => .error .certInvalid
  let a : DnAttribute := ⟨kind, printableString, value⟩
  a.validate
  pure a

end DnAttribute

/-- Source: `cert/dn.rs`, `MAX_RDNS`. -/
def maxRdns : ℕ := 5

/-- Source: `cert/dn.rs`, `DistinguishedName`. -/
structure DistinguishedName where
  attributes : BoundedVec DnAttribute maxRdns
  deriving DecidableEq

namespace DistinguishedName

/-- Source: `DistinguishedName::new`. -/
def new : DistinguishedName := ⟨.empty⟩

/-- Source: `DistinguishedName::push`. -/
def push (dn : DistinguishedName) (a : DnAttribute) : Except ErrorCode DistinguishedName := do
  a.validate
  let attributes ← Lib.okOr (dn.attributes.push a) .certInvalid
  pure ⟨attributes⟩

/-- Source: `DistinguishedName::is_empty`. -/
def isEmpty (dn : DistinguishedName) : Bool := dn.attributes.toList.isEmpty

/-- Source: `DistinguishedName::count`. -/
def count (dn : DistinguishedName) (kind : DnAttributeKind) : ℕ :=
  (dn.attributes.toList.filter fun a => decide (a.kind = kind)).length

/-- Source: the loop of `DistinguishedName::single_uint`. -/
def singleUintFrom (kind : DnAttributeKind) : List DnAttribute → Option UInt64 → Option UInt64
  | [], found => found
  | a :: attributes, found =>
    if a.kind = kind then
      if found.isSome then none else singleUintFrom kind attributes a.asUint
    else singleUintFrom kind attributes found

/-- Source: `DistinguishedName::single_uint`. -/
def singleUint (dn : DistinguishedName) (kind : DnAttributeKind) : Option UInt64 :=
  singleUintFrom kind dn.attributes.toList none

/-- Source: `DistinguishedName::node_id`. -/
def nodeId (dn : DistinguishedName) : Option NodeId := (dn.singleUint .matterNodeId).map NodeId.mk

/-- Source: `DistinguishedName::fabric_id`. -/
def fabricId (dn : DistinguishedName) : Option FabricId :=
  (dn.singleUint .matterFabricId).map FabricId.mk

/-- Source: `DistinguishedName::noc_cats`. -/
def nocCats (dn : DistinguishedName) : BoundedVec CaseAuthenticatedTag 3 :=
  .ofTake 3 (dn.attributes.toList.filterMap fun a =>
    if a.kind = .matterNocCat then a.asUint.map fun value => ⟨value.toUInt32⟩ else none)

/-- One attribute of a name.
Source: the loop of `DistinguishedName::decode`. -/
def takeAttribute (e : Element) (dn : DistinguishedName) : Reading DistinguishedName := do
  let a ← ofResult (DnAttribute.decode e)
  ofResult (dn.push a)

/-- Source: `DistinguishedName::decode`. -/
def decode : Reading DistinguishedName := do
  let dn ← toEnd takeAttribute new
  require (¬dn.isEmpty = true) .certInvalid
  pure dn

end DistinguishedName

/-! ## Extensions -/

/-- Source: `KeyPurposeId`. -/
inductive KeyPurposeId
  | serverAuth
  | clientAuth
  | codeSigning
  | emailProtection
  | timeStamping
  | ocspSigning
  deriving DecidableEq

/-- Source: `KeyPurposeId::from_value`. -/
def KeyPurposeId.fromValue (value : UInt64) : Option KeyPurposeId :=
  match value with
  | 1 => some .serverAuth
  | 2 => some .clientAuth
  | 3 => some .codeSigning
  | 4 => some .emailProtection
  | 5 => some .timeStamping
  | 6 => some .ocspSigning
  | _ => none

/-- The flags of a key.
Source: `KeyUsage`. -/
structure KeyUsage where
  bits : UInt16
  deriving DecidableEq

namespace KeyUsage

/-- Source: `KeyUsage::DIGITAL_SIGNATURE`. -/
def digitalSignature : KeyUsage := ⟨0x0001⟩

/-- Source: `KeyUsage::KEY_CERT_SIGN | KeyUsage::CRL_SIGN`. -/
def signing : KeyUsage := ⟨0x0060⟩

/-- Source: `bitflags`, `contains`. -/
def contains (a b : KeyUsage) : Bool := decide (a.bits &&& b.bits = b.bits)

/-- Source: `bitflags`, `from_bits`, of nine flags. -/
def fromBits (bits : UInt16) : Option KeyUsage := if bits &&& 0x01FF = bits then some ⟨bits⟩ else none

end KeyUsage

/-- Source: `BasicConstraints`. -/
structure BasicConstraints where
  isCa : Bool
  pathLenConstraint : Option UInt8

/-- Source: `Extension`. -/
inductive Extension
  | basicConstraints (value : BasicConstraints)
  | keyUsage (value : KeyUsage)
  | extendedKeyUsage (purposes : BoundedVec KeyPurposeId 6)
  | subjectKeyId (id : Vector UInt8 20)
  | authorityKeyId (id : Vector UInt8 20)
  | future (octets : List UInt8)

/-- Source: `Extension::tag`. -/
def Extension.tag : Extension → UInt8
  | .basicConstraints _ => 1
  | .keyUsage _ => 2
  | .extendedKeyUsage _ => 3
  | .subjectKeyId _ => 4
  | .authorityKeyId _ => 5
  | .future _ => 6

/-- Source: `Extensions`, of `MAX_EXTENSIONS`. -/
structure Extensions where
  entries : BoundedVec Extension 8

namespace Extensions

/-- Source: `Extensions::push`. -/
def push (extensions : Extensions) (extension : Extension) : Except ErrorCode Extensions := do
  ensure (¬(extension.tag ≠ 6 ∧
    (extensions.entries.toList.any fun e => decide (e.tag = extension.tag)) = true)) .certInvalid
  let entries ← Lib.okOr (extensions.entries.push extension) .certInvalid
  pure ⟨entries⟩

/-- Source: `Extensions::basic_constraints`. -/
def basicConstraints (extensions : Extensions) : Option BasicConstraints :=
  extensions.entries.toList.findSome? fun
    | .basicConstraints value => some value
    | _ => none

/-- Source: `Extensions::key_usage`. -/
def keyUsage (extensions : Extensions) : Option KeyUsage :=
  extensions.entries.toList.findSome? fun
    | .keyUsage value => some value
    | _ => none

/-- Source: `Extensions::extended_key_usage`. -/
def extendedKeyUsage (extensions : Extensions) : Option (List KeyPurposeId) :=
  extensions.entries.toList.findSome? fun
    | .extendedKeyUsage purposes => some purposes.toList
    | _ => none

/-- Source: `Extensions::subject_key_id`. -/
def subjectKeyId (extensions : Extensions) : Option (Vector UInt8 20) :=
  extensions.entries.toList.findSome? fun
    | .subjectKeyId id => some id
    | _ => none

/-- Source: `Extensions::authority_key_id`. -/
def authorityKeyId (extensions : Extensions) : Option (Vector UInt8 20) :=
  extensions.entries.toList.findSome? fun
    | .authorityKeyId id => some id
    | _ => none

end Extensions

/-- An array of so many octets.
Source: Rust `<[u8; N]>::try_from`, `PublicKey::from_slice` and `Signature::from_slice`. -/
def octetsOfLength (n : ℕ) (e : Element) : Except ErrorCode (Vector UInt8 n) := do
  let octets ← octetsOf e
  if h : octets.length = n then .ok ⟨octets.toArray, by simpa using h⟩ else .error .certInvalid

/-- One field of the basic constraints, with the tag of the field before it.
Source: the loop of `decode_basic_constraints`. -/
def takeConstraint (e : Element) (f : UInt8 × Option Bool × Option UInt8) :
    Reading (UInt8 × Option Bool × Option UInt8) := do
  let tag ← ofResult (Lib.okOr e.tag.context? .certInvalid)
  require (f.1 < tag) .certInvalid
  match tag with
  | 1 => do
    let isCa ← ofResult e.bool
    pure (tag, some isCa, f.2.2)
  | 2 => do
    let value ← ofResult e.unsigned
    let limit ← ofResult (orInvalid (Im.narrow8 value))
    pure (tag, f.2.1, some limit)
  | _ => throw .certInvalid

/-- Source: `decode_basic_constraints`. -/
def decodeBasicConstraints : Reading BasicConstraints := do
  let (_, isCa, pathLenConstraint) ← toEnd takeConstraint (0, none, none)
  let isCa ← ofResult (Lib.okOr isCa .certInvalid)
  pure ⟨isCa, pathLenConstraint⟩

/-- Source: the loop of `decode_key_purposes`. -/
def takePurpose (e : Element) (purposes : BoundedVec KeyPurposeId 6) :
    Reading (BoundedVec KeyPurposeId 6) := do
  require (e.tag.isAnonymous = true) .certInvalid
  let value ← ofResult e.unsigned
  let purpose ← ofResult (Lib.okOr (KeyPurposeId.fromValue value) .certInvalid)
  ofResult (Lib.okOr (purposes.push purpose) .certInvalid)

/-- Source: `decode_key_purposes`. -/
def decodeKeyPurposes : Reading (BoundedVec KeyPurposeId 6) := do
  let purposes ← toEnd takePurpose .empty
  require (¬purposes.toList.isEmpty = true) .certInvalid
  pure purposes

/-- The extension of an element of the list.
Source: `decode_extensions`, `match tag`. -/
def decodeExtension (tag : UInt8) (e : Element) : Reading Extension :=
  match tag with
  | 1 => do
    require (e.value.container? = some .struct) .certInvalid
    let value ← decodeBasicConstraints
    pure (.basicConstraints value)
  | 2 => do
    let value ← ofResult e.unsigned
    let raw ← ofResult (orInvalid (Im.narrow16 value))
    let value ← ofResult (Lib.okOr (KeyUsage.fromBits raw) .certInvalid)
    pure (.keyUsage value)
  | 3 => do
    require (e.value.container? = some .array) .certInvalid
    let purposes ← decodeKeyPurposes
    pure (.extendedKeyUsage purposes)
  | 4 => do
    let id ← ofResult (octetsOfLength 20 e)
    pure (.subjectKeyId id)
  | 5 => do
    let id ← ofResult (octetsOfLength 20 e)
    pure (.authorityKeyId id)
  | 6 => do
    let octets ← ofResult (octetsOf e)
    pure (.future octets)
  | _ => throw .certInvalid

/-- Source: the loop of `decode_extensions`. -/
def takeExtension (e : Element) (extensions : Extensions) : Reading Extensions := do
  let tag ← ofResult (Lib.okOr e.tag.context? .certInvalid)
  let extension ← decodeExtension tag e
  ofResult (extensions.push extension)

/-- Source: `decode_extensions`. -/
def decodeExtensions : Reading Extensions := toEnd takeExtension ⟨.empty⟩

/-! ## A certificate -/

/-- The one signature algorithm, public key algorithm and curve there is for each is left out.
Source: `MatterCertificate`. -/
structure Certificate where
  serialNumber : List UInt8
  issuer : DistinguishedName
  notBefore : UInt32
  notAfter : UInt32
  subject : DistinguishedName
  publicKey : PublicKey
  extensions : Extensions
  signature : Vector UInt8 64

/-- The variables that `MatterCertificate::decode` reads the members into; of the three algorithms only
that they were there. -/
structure CertificateFields where
  previousTag : UInt8 := 0
  serialNumber : Option (List UInt8) := none
  signatureAlgorithm : Option Unit := none
  issuer : Option DistinguishedName := none
  notBefore : Option UInt32 := none
  notAfter : Option UInt32 := none
  subject : Option DistinguishedName := none
  publicKeyAlgorithm : Option Unit := none
  ellipticCurveId : Option Unit := none
  publicKey : Option PublicKey := none
  extensions : Option Extensions := none
  signature : Option (Vector UInt8 64) := none

/-- Source: `u32_of`. -/
def u32Of (e : Element) : Except ErrorCode UInt32 := do
  let value ← e.unsigned
  orInvalid (Im.narrow32 value)

/-- An enumeration that has the value 1 only.
Source: `MatterCertificate::decode`, `match element.unsigned()?`. -/
def onlyOne (e : Element) : Except ErrorCode Unit := do
  let value ← e.unsigned
  ensure (value = 1) .certInvalid

/-- A name, inside the list it is in.
Source: `expect_list(&element)?; .. DistinguishedName::decode(&mut reader)?`. -/
def decodeName (e : Element) : Reading DistinguishedName := do
  require (e.value.container? = some .list) .certInvalid
  DistinguishedName.decode

/-- One member of a certificate.
Source: the loop of `MatterCertificate::decode`. -/
def takeMember (e : Element) (f : CertificateFields) : Reading CertificateFields := do
  let tag ← ofResult (Lib.okOr e.tag.context? .certInvalid)
  require (f.previousTag < tag) .certInvalid
  let f := { f with previousTag := tag }
  match tag with
  | 1 => do
    let octets ← ofResult (octetsOf e)
    require (octets.length ≤ 20) .certInvalid
    pure { f with serialNumber := some octets }
  | 2 => do
    ofResult (onlyOne e)
    pure { f with signatureAlgorithm := some () }
  | 3 => do
    let issuer ← decodeName e
    pure { f with issuer := some issuer }
  | 4 => do
    let notBefore ← ofResult (u32Of e)
    pure { f with notBefore := some notBefore }
  | 5 => do
    let notAfter ← ofResult (u32Of e)
    pure { f with notAfter := some notAfter }
  | 6 => do
    let subject ← decodeName e
    pure { f with subject := some subject }
  | 7 => do
    ofResult (onlyOne e)
    pure { f with publicKeyAlgorithm := some () }
  | 8 => do
    ofResult (onlyOne e)
    pure { f with ellipticCurveId := some () }
  | 9 => do
    let octets ← ofResult (octetsOfLength 65 e)
    pure { f with publicKey := some ⟨octets⟩ }
  | 10 => do
    require (e.value.container? = some .list) .certInvalid
    let extensions ← decodeExtensions
    pure { f with extensions := some extensions }
  | 11 => do
    let signature ← ofResult (octetsOfLength 64 e)
    pure { f with signature := some signature }
  | _ => throw .certInvalid

/-- Source: `MatterCertificate::decode`, from `Ok(Self { .. })` on. -/
def CertificateFields.complete (f : CertificateFields) : Except ErrorCode Certificate := do
  let serialNumber ← Lib.okOr f.serialNumber .certInvalid
  Lib.okOr f.signatureAlgorithm .certInvalid
  let issuer ← Lib.okOr f.issuer .certInvalid
  let notBefore ← Lib.okOr f.notBefore .certInvalid
  let notAfter ← Lib.okOr f.notAfter .certInvalid
  let subject ← Lib.okOr f.subject .certInvalid
  Lib.okOr f.publicKeyAlgorithm .certInvalid
  Lib.okOr f.ellipticCurveId .certInvalid
  let publicKey ← Lib.okOr f.publicKey .certInvalid
  let extensions ← Lib.okOr f.extensions .certInvalid
  let signature ← Lib.okOr f.signature .certInvalid
  pure
    { serialNumber := serialNumber
      issuer := issuer
      notBefore := notBefore
      notAfter := notAfter
      subject := subject
      publicKey := publicKey
      extensions := extensions
      signature := signature }

namespace Certificate

/-- Source: `CERT_TLV_MAX`. -/
def tlvMax : ℕ := 400

/-- Source: `MatterCertificate::decode`. -/
def decode (buf : List UInt8) : Except ErrorCode Certificate := do
  ensure (buf.length ≤ tlvMax) .certInvalid
  let read : Reading Certificate := do
    match ← nextElement with
    | none => throw .certInvalid
    | some head => do
      require (head.value.container? = some .struct ∧ head.tag.isAnonymous = true) .certInvalid
      let f ← toEnd takeMember {}
      let r ← get
      ofResult r.finish
      ofResult f.complete
  (exec read (.new buf)).1

/-- There is no certificate in no octets. -/
lemma decode_nil : decode [] = .error .certInvalid := by
  rfl

/-- Source: `MatterCertificate::node_id`. -/
def nodeId (cert : Certificate) : Option NodeId := cert.subject.nodeId

/-- Source: `MatterCertificate::fabric_id`. -/
def fabricId (cert : Certificate) : Option FabricId := cert.subject.fabricId

/-- Source: `MatterCertificate::is_ca`. -/
def isCa (cert : Certificate) : Bool :=
  (cert.extensions.basicConstraints.map BasicConstraints.isCa).getD false

/-- Source: `MatterCertificate::is_valid_at`, with `NOT_AFTER_NEVER`. -/
def isValidAt (cert : Certificate) (epochS : UInt32) : Bool :=
  decide (cert.notBefore ≤ epochS) && (cert.notAfter = 0 || decide (epochS ≤ cert.notAfter))

end Certificate

end MatterKit.Cert
