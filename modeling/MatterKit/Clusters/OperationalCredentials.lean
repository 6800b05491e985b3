import MatterKit.Clusters.GeneralCommissioning
import MatterKit.Sc.Case

/-!
# The Operational Credentials cluster

`clusters/operational_credentials.rs`: the commands that give a node its keys and certificates. A
`CSRRequest` makes a key, an `AddTrustedRootCertificate` brings a root, and an `AddNOC` or `UpdateNOC`
turns them into a fabric of the table.

`AddNOC` and `UpdateNOC` are a list of checks and then the change. The checks are functions of the state
(`checkAddNoc`, `checkUpdateNoc`), so that `addNoc_cases`, `exec_updateNoc_of_ok` and
`exec_updateNoc_of_error` can say once what each command does. `Effect` lists what any command can do to
the node (`perform_effect`), and every statement about runs starts from there.
-/

namespace MatterKit.Clusters

open Lib Machine Tlv Dm Im Commissioning Sc

/-! ## Statuses and parameters -/

/-- Source: `NocStatus`. -/
inductive NocStatus
  | ok
  | invalidPublicKey
  | invalidNodeOpId
  | invalidNoc
  | missingCsr
  | tableFull
  | invalidAdminSubject
  | fabricConflict
  | labelConflict
  | invalidFabricIndex
  deriving DecidableEq

/-- Source: `NocStatus::value`. -/
def NocStatus.value : NocStatus → UInt8
  | .ok => 0
  | .invalidPublicKey => 1
  | .invalidNodeOpId => 2
  | .invalidNoc => 3
  | .missingCsr => 4
  | .tableFull => 5
  | .invalidAdminSubject => 6
  | .fabricConflict => 9
  | .labelConflict => 10
  | .invalidFabricIndex => 11

/-- Why a NOC command did not run: with a status, or with a code in its response. -/
inductive Refusal
  | status (code : Status)
  | noc (code : NocStatus)

/-- What is answered for a refusal. -/
def Refusal.answer : Refusal → Except Status NocStatus
  | .status code => .error code
  | .noc code => .ok code

/-- What the cluster is built from: the certificates' encoding and verification, the two signed
elements, and the product's certificates.
Source: `cert/mod.rs`, `MatterCertificate::decode`, `MatterCertificate::node_id`,
`MatterCertificate::validate_as`; `cert/chain.rs`, `verify_self_signed`, `verify_chain`; the part of
`attestation_response` up to `sign_attestation`, the part of `csr_response` from `build_csr` to
`sign_nocsr`; `DeviceAttestation`. -/
structure CredentialCrypto (K : Type) extends KeyDerivation where
  decodeCertificate : List UInt8 → Except ErrorCode MatterCertificate
  nodeId : MatterCertificate → Option NodeId
  validateAsRcac : MatterCertificate → Except ErrorCode Unit
  verifySelfSigned : MatterCertificate → Except ErrorCode Bool
  verifyChain : (noc : MatterCertificate) → (icac : Option MatterCertificate) →
    (root : MatterCertificate) → (epochS : Option UInt32) → Except ErrorCode VerifiedIdentity
  attest : K → (nonce challenge : List UInt8) → Except ErrorCode (List UInt8 × List UInt8)
  nocsr : K → KeyHandle → (nonce challenge : List UInt8) → Except ErrorCode (List UInt8 × List UInt8)
  dac : List UInt8
  pai : List UInt8

/-- Source: `fabric.rs`, `OPERATIONAL_CERT_MAX`. -/
def operationalCertMax : ℕ := 400

/-- A chain that fits its buffers.
Source: `Credentials::new` and `Credentials::with_icac`. -/
def credentialsOf (noc : List UInt8) (icac : Option (List UInt8)) (rcac : List UInt8) :
    Option Credentials :=
  if noc.length ≤ operationalCertMax ∧ rcac.length ≤ operationalCertMax ∧
      ∀ octets ∈ icac, octets.length ≤ operationalCertMax then
    some { noc := noc, icac := icac, rcac := rcac }
  else none

/-- Source: `is_case_subject`. -/
def isCaseSubject (subject : UInt64) : Bool :=
  decide ((NodeId.mk subject).kind = .operational) ||
    decide ((NodeId.mk subject).kind = .caseAuthenticatedTag)

/-- Source: `ChainIdentity`. -/
structure ChainIdentity where
  fabricId : FabricId
  nodeId : NodeId
  rootPublicKey : PublicKey

/-- Source: `AddNocRequest`. -/
structure AddNocRequest where
  noc : List UInt8
  icac : Option (List UInt8)
  ipk : List UInt8
  caseAdminSubject : UInt64
  adminVendorId : VendorId

namespace OperationalCredentials

variable {N : ℕ} {K : Type} (c : CredentialCrypto K) (store : KeyStore K)

/-- Source: `validate_chain`. -/
def validateChain (noc : List UInt8) (icac : Option (List UInt8)) (rcac : List UInt8)
    (expected : PublicKey) : Except NocStatus ChainIdentity := do
  let nocCert ← (c.decodeCertificate noc).mapError fun _ => .invalidNoc
  let icacCert ← (icac.mapM c.decodeCertificate).mapError fun _ => .invalidNoc
  let root ← (c.decodeCertificate rcac).mapError fun _ => .invalidNoc
  let nodeId ← Lib.okOr (c.nodeId nocCert) .invalidNodeOpId
  ensure (nodeId.isOperational = true) .invalidNodeOpId
  let verified ← (c.verifyChain nocCert icacCert root none).mapError fun _ => .invalidNoc
  ensure (nocCert.publicKey = expected) .invalidPublicKey
  pure ⟨verified.fabricId, nodeId, root.publicKey⟩

/-! ## What waits for a NOC command -/

/-- Destroys the key that waits, if one does. -/
def dropPendingKey (s : CommissioningNode N K) : CommissioningNode N K :=
  match s.pendingCsr with
  | none => s
  | some pending => { s with keys := (store.remove s.keys pending.key).2, pendingCsr := none }

/-- Source: `OperationalCredentials::discard_pending`. -/
def discardPending (s : CommissioningNode N K) : CommissioningNode N K :=
  dropPendingKey store { s with pendingRoot := none }

/-- Source: `OperationalCredentials::reap`. -/
def reap (now : Instant) (s : CommissioningNode N K) : CommissioningNode N K :=
  match s.failSafe.armedAt now with
  | none => discardPending store s
  | some armed =>
    let s := if armed.progress.csrRequested then s else dropPendingKey store s
    if armed.progress.addedTrustedRoot then s else { s with pendingRoot := none }

section pending

variable (s : CommissioningNode N K) (now : Instant)

@[simp] lemma dropPendingKey_fabrics : (dropPendingKey store s).fabrics = s.fabrics := by
  unfold dropPendingKey
  split <;> rfl

@[simp] lemma dropPendingKey_failSafe : (dropPendingKey store s).failSafe = s.failSafe := by
  unfold dropPendingKey
  split <;> rfl

@[simp] lemma dropPendingKey_change : (dropPendingKey store s).change = s.change := by
  unfold dropPendingKey
  split <;> rfl

@[simp] lemma dropPendingKey_aftermath : (dropPendingKey store s).aftermath = s.aftermath := by
  unfold dropPendingKey
  split <;> rfl

/-- Reaping is letting go of the key, of the root, of both or of neither. -/
lemma reap_cases : reap store now s = s ∨ reap store now s = dropPendingKey store s ∨
    reap store now s = { s with pendingRoot := none } ∨
    reap store now s = { dropPendingKey store s with pendingRoot := none } := by
  unfold reap
  cases s.failSafe.armedAt now with
  | none =>
    refine .inr (.inr (.inr ?_))
    simp only [discardPending, dropPendingKey]
    split <;> rfl
  | some armed =>
    dsimp only
    split_ifs
    · exact .inl rfl
    · exact .inr (.inl rfl)
    · exact .inr (.inr (.inl rfl))
    · exact .inr (.inr (.inr rfl))

@[simp] lemma reap_fabrics : (reap store now s).fabrics = s.fabrics := by
  obtain h | h | h | h := reap_cases store s now <;> simp [h]

@[simp] lemma reap_failSafe : (reap store now s).failSafe = s.failSafe := by
  obtain h | h | h | h := reap_cases store s now <;> simp [h]

@[simp] lemma reap_change : (reap store now s).change = s.change := by
  obtain h | h | h | h := reap_cases store s now <;> simp [h]

@[simp] lemma reap_aftermath : (reap store now s).aftermath = s.aftermath := by
  obtain h | h | h | h := reap_cases store s now <;> simp [h]

end pending

/-- Source: `OperationalCredentials::take_change`. -/
def takeChange (s : CommissioningNode N K) : Option FabricChange × CommissioningNode N K :=
  (s.change, { s with change := none })

/-- Source: `GeneralCommissioning::take_aftermath`. -/
def takeAftermath (s : CommissioningNode N K) : Option Aftermath × CommissioningNode N K :=
  (s.aftermath, { s with aftermath := none })

/-- Source: `OperationalCredentials::require_fail_safe`. -/
def requireFailSafe (s : CommissioningNode N K) (now : Instant) : Except Status Progress :=
  Lib.okOr ((s.failSafe.armedAt now).map Armed.progress) .failsafeRequired

/-- Source: `FailSafe::record`, with `map_err(|_| Status::FailsafeRequired)`. -/
def record (now : Instant) (f : Progress → Progress) : Commanding N K Unit := do
  let s ← get
  let (result, failSafe) := s.failSafe.record now f
  set { s with failSafe := failSafe }
  ofResult (orElse result .failsafeRequired)

/-- Source: `FailSafe::adopt_fabric`, with `map_err(|_| Status::FailsafeRequired)`. -/
def adoptFabric (index : FabricIndex) (now : Instant) : Commanding N K Unit := do
  let s ← get
  let (result, failSafe) := s.failSafe.adoptFabric index now
  set { s with failSafe := failSafe }
  ofResult (orElse result .failsafeRequired)

/-! ## The commands -/

/-- Source: `OperationalCredentials::attestation_response`, up to the response. -/
def attestationResponse (s : CommissioningNode N K) (nonce challenge : List UInt8) :
    Except Status (List UInt8 × List UInt8) :=
  orElse (c.attest s.keys nonce challenge) .failure

/-- What a `CSRRequest` is refused with, or the attestation challenge.
Source: `OperationalCredentials::csr_response`, up to `let challenge`. -/
def checkCsr (s : CommissioningNode N K) (forUpdate : Bool) (ctx : InteractionContext) :
    Except Status (List UInt8) := do
  let progress ← requireFailSafe s ctx.now
  ensure (¬(progress.addedNoc || progress.updatedNoc) = true) .constraintError
  ensure (¬(forUpdate && ctx.fabricIndex.isNone) = true) .invalidCommand
  Lib.okOr ctx.attestationChallenge .unsupportedAccess

/-- Source: `OperationalCredentials::csr_response`, up to the response. -/
def csrResponse (nonce : List UInt8) (forUpdate : Bool) (ctx : InteractionContext)
    (random : List UInt8) : Commanding N K (List UInt8 × List UInt8) := do
  let s ← get
  let challenge ← ofResult (checkCsr s forUpdate ctx)
  let s := dropPendingKey store s
  let (generated, keys) := store.generate s.keys .operational random
  set { s with keys := keys }
  let (key, publicKey) ← ofResult (orElse generated .failure)
  let signed ← ofResult (orElse (c.nocsr keys key nonce challenge) .failure)
  modify fun s => { s with pendingCsr := some ⟨ctx.session, key, publicKey, forUpdate⟩ }
  record ctx.now fun p => { p with csrRequested := true }
  pure signed

/-- What an `AddTrustedRootCertificate` is refused with.
Source: `OperationalCredentials::add_trusted_root`, up to `let stored`. -/
def checkTrustedRoot (s : CommissioningNode N K) (rcac : List UInt8) (ctx : InteractionContext) :
    Except Status Unit := do
  let progress ← requireFailSafe s ctx.now
  ensure (¬progress.addedTrustedRoot = true) .constraintError
  ensure (¬(progress.addedNoc || progress.updatedNoc) = true) .constraintError
  let parsed ← orElse (c.decodeCertificate rcac) .invalidCommand
  orElse (c.validateAsRcac parsed) .invalidCommand
  ensure ((c.verifySelfSigned parsed).toOption = some true) .invalidCommand
  ensure (rcac.length ≤ operationalCertMax) .resourceExhausted

/-- Source: `OperationalCredentials::add_trusted_root`. -/
def addTrustedRoot (rcac : List UInt8) (ctx : InteractionContext) : Commanding N K Unit := do
  let s ← get
  ofResult (checkTrustedRoot c s rcac ctx)
  modify fun s => { s with pendingRoot := some rcac }
  record ctx.now fun p => { p with addedTrustedRoot := true }

/-- The pending key, if it was generated on this session.
Source: `OperationalCredentials::add_noc` and `OperationalCredentials::update_noc`, `pending`. -/
def pendingOf (s : CommissioningNode N K) (ctx : InteractionContext) : Except Refusal PendingCsr := do
  let pending ← Lib.okOr s.pendingCsr (.noc .missingCsr)
  ensure (pending.session = ctx.session) (.noc .missingCsr)
  pure pending

/-- What an `AddNOC` is refused with before it touches the table, or what it is to add.
Source: `OperationalCredentials::add_noc`, up to `allocate_index`. -/
def checkAddNoc (s : CommissioningNode N K) (request : AddNocRequest) (ctx : InteractionContext) :
    Except Refusal (PendingCsr × ChainIdentity × Credentials) := do
  let progress ← (requireFailSafe s ctx.now).mapError .status
  ensure (¬(progress.addedNoc || progress.updatedNoc) = true) (.status .constraintError)
  let pending ← pendingOf s ctx
  ensure (¬pending.forUpdate = true) (.status .constraintError)
  let rcac ← Lib.okOr (s.pendingRoot.filter fun _ => progress.addedTrustedRoot) (.noc .invalidNoc)
  let identity ← (validateChain c request.noc request.icac rcac pending.publicKey).mapError .noc
  let compressed ← (c.compressedFabricId identity.rootPublicKey identity.fabricId).mapError
    fun _ => .status .failure
  ensure (∀ f ∈ s.fabrics.fabrics.toList, f.compressed ≠ compressed) (.noc .fabricConflict)
  ensure (s.fabrics.len < N) (.noc .tableFull)
  ensure (isCaseSubject request.caseAdminSubject = true) (.noc .invalidAdminSubject)
  let credentials ← Lib.okOr (credentialsOf request.noc request.icac rcac) (.noc .invalidNoc)
  pure (pending, identity, credentials)

/-- Source: `OperationalCredentials::add_noc`, from `table.insert` on. -/
def joinFabric (fabrics : FabricTable N) (fabric : Fabric) (request : AddNocRequest)
    (ctx : InteractionContext) : Commanding N K NocStatus :=
  match fabrics.insert fabric with
  | .error _ => pure .fabricConflict
  | .ok fabrics => do
    modify fun s => { s with fabrics := fabrics, pendingCsr := none, pendingRoot := none }
    record ctx.now fun p => { p with addedNoc := true }
    adoptFabric fabric.index ctx.now
    modify fun s =>
      { s with
        change := some (.added fabric.index request.caseAdminSubject ctx.fabricIndex.isNone) }
    pure .ok

/-- Source: `OperationalCredentials::add_noc`. -/
def addNoc (request : AddNocRequest) (ctx : InteractionContext) : Commanding N K NocStatus := do
  let s ← get
  match checkAddNoc c s request ctx with
  | .error refusal => ofResult refusal.answer
  | .ok (pending, identity, credentials) => do
    let (allocated, fabrics) := s.fabrics.allocateIndex
    set { s with fabrics := fabrics }
    let index ← ofResult (orElse allocated .failure)
    match Fabric.new c.toKeyDerivation index
        ⟨identity.fabricId, identity.nodeId, identity.rootPublicKey, request.adminVendorId⟩
        (.ofList request.ipk) pending.key credentials with
    | .error _ => pure .invalidNoc
    | .ok fabric => joinFabric fabrics fabric request ctx

/-- What an `UpdateNOC` is refused with, or the fabric and what it is to become.
Source: `OperationalCredentials::update_noc`, up to `let previous_key`. -/
def checkUpdateNoc (s : CommissioningNode N K) (noc : List UInt8) (icac : Option (List UInt8))
    (ctx : InteractionContext) :
    Except Refusal (PendingCsr × Fabric × ChainIdentity × Credentials) := do
  let progress ← (requireFailSafe s ctx.now).mapError .status
  ensure (¬(progress.addedNoc || progress.updatedNoc) = true) (.status .constraintError)
  ensure (¬progress.addedTrustedRoot = true) (.status .constraintError)
  let pending ← pendingOf s ctx
  ensure (pending.forUpdate = true) (.status .constraintError)
  let accessing ← Lib.okOr ctx.fabricIndex (.status .unsupportedAccess)
  let existing ← Lib.okOr (s.fabrics.find accessing) (.noc .invalidFabricIndex)
  let identity ← (validateChain c noc icac existing.credentials.rcac pending.publicKey).mapError .noc
  ensure (identity.fabricId = existing.fabricId) (.noc .invalidNoc)
  let credentials ← Lib.okOr (credentialsOf noc icac existing.credentials.rcac) (.noc .invalidNoc)
  pure (pending, existing, identity, credentials)

/-- Source: `OperationalCredentials::update_noc`. -/
def updateNoc (noc : List UInt8) (icac : Option (List UInt8)) (ctx : InteractionContext) :
    Commanding N K NocStatus := do
  let s ← get
  match checkUpdateNoc c s noc icac ctx with
  | .error refusal => ofResult refusal.answer
  | .ok (pending, existing, identity, credentials) => do
    set
      { s with
        fabrics := s.fabrics.update existing.index fun f =>
          { f with
            nodeId := identity.nodeId
            credentials := credentials
            operationalKey := pending.key }
        keys := (store.remove s.keys existing.operationalKey).2
        pendingCsr := none }
    record ctx.now fun p => { p with updatedNoc := true }
    modify fun s => { s with change := some (.updated existing.index) }
    pure .ok

/-- Source: `fabric.rs`, `FABRIC_LABEL_MAX`. -/
def fabricLabelMax : ℕ := 32

/-- Source: `OperationalCredentials::update_fabric_label`. -/
def updateFabricLabel (label : String) (ctx : InteractionContext) : Commanding N K NocStatus := do
  let accessing ← ofResult (Lib.okOr ctx.fabricIndex .unsupportedAccess)
  let s ← get
  if s.fabrics.fabrics.toList.any fun f =>
      decide (f.index ≠ accessing) && decide (f.label = label) && decide (label ≠ "") then
    pure .labelConflict
  else if (s.fabrics.find accessing).isNone then pure .invalidFabricIndex
  else do
    require ((asBytes label).length ≤ fabricLabelMax) .constraintError
    set { s with fabrics := s.fabrics.update accessing fun f => { f with label := label } }
    pure .ok

/-- Source: `OperationalCredentials::remove_fabric`. -/
def removeFabric (index : FabricIndex) (ctx : InteractionContext) : Commanding N K NocStatus := do
  let s ← get
  match s.fabrics.remove index with
  | none => pure .invalidFabricIndex
  | some (removed, fabrics) => do
    set
      { s with
        fabrics := fabrics
        keys := (store.remove s.keys removed.operationalKey).2
        change := some (.removed index fabrics.isEmpty (decide (ctx.fabricIndex = some index))) }
    pure .ok

/-- A statement of the right length, or none where it is to be erased.
Source: `OperationalCredentials::set_vid_verification_statement`, `match statement.len()`. -/
def statementOf (statement : List UInt8) : Except Status (Option (Vector UInt8 85)) :=
  if statement = [] then .ok none
  else if h : statement.length = 85 then .ok (some ⟨statement.toArray, by simpa using h⟩)
  else .error .constraintError

/-- Source: `Credentials::set_vvsc`. -/
def setVvsc (credentials : Credentials) (vvsc : List UInt8) : Except Status Credentials :=
  if vvsc = [] then .ok { credentials with vvsc := none }
  else if credentials.icac.isSome ∨ operationalCertMax < vvsc.length then .error .invalidCommand
  else .ok { credentials with vvsc := some vvsc }

/-- Goes on with a field that is there. -/
def whenGiven {α : Type} (field : Option α) (f : α → Commanding N K Unit) : Commanding N K Unit :=
  match field with
  | none => pure ()
  | some value => f value

/-- Source: `OperationalCredentials::set_vid_verification_statement`. -/
def setVidVerificationStatement (vendorId : Option VendorId) (statement vvsc : Option (List UInt8))
    (ctx : InteractionContext) : Commanding N K Unit := do
  require (¬(vendorId.isNone ∧ statement.isNone ∧ vvsc.isNone)) .invalidCommand
  let accessing ← ofResult (Lib.okOr ctx.fabricIndex .unsupportedAccess)
  let s ← get
  let fabric ← ofResult (Lib.okOr (s.fabrics.find accessing) .constraintError)
  let change (f : Fabric → Fabric) : Commanding N K Unit :=
    modify fun s => { s with fabrics := s.fabrics.update accessing f }
  whenGiven statement fun statement => do
    let value ← ofResult (statementOf statement)
    change fun f => { f with vidVerificationStatement := value }
  whenGiven vvsc fun vvsc => do
    let credentials ← ofResult (setVvsc fabric.credentials vvsc)
    change fun f => { f with credentials := credentials }
  whenGiven vendorId fun vendorId => change fun f => { f with adminVendorId := vendorId }

/-- What is signed for a `SignVIDVerificationRequest`.
Source: `fabric.rs`, `vendor_id_verification_tbs` and `vendor_fabric_binding_message`. -/
def vendorIdVerificationTbs (fabric : Fabric) (clientChallenge challenge : List UInt8) : List UInt8 :=
  ([0x01] : List UInt8) ++ clientChallenge ++ challenge ++ [fabric.index.val] ++
    (([0x01] : List UInt8) ++ fabric.rootPublicKey.bytes.toList ++ beBytes64 fabric.fabricId.val ++
      [(fabric.adminVendorId.val >>> 8).toUInt8, fabric.adminVendorId.val.toUInt8]) ++
    (fabric.vidVerificationStatement.map Vector.toList).getD []

/-- Source: `OperationalCredentials::sign_vid_verification`, up to the response. -/
def signVidVerification (s : CommissioningNode N K) (index : FabricIndex)
    (clientChallenge : List UInt8) (ctx : InteractionContext) : Except Status (List UInt8) := do
  let challenge ← Lib.okOr ctx.attestationChallenge .unsupportedAccess
  let fabric ← Lib.okOr (s.fabrics.find index) .constraintError
  orElse (store.sign s.keys fabric.operationalKey
    (vendorIdVerificationTbs fabric clientChallenge challenge)) .failure

/-! ## Commands and their fields -/

/-- Source: `CertificateChainType`. -/
inductive CertificateChainType
  | dac
  | pai
  deriving DecidableEq

/-- Source: `CertificateChainType::from_value`. -/
def CertificateChainType.fromValue (value : UInt8) : Option CertificateChainType :=
  if value = 1 then some .dac else if value = 2 then some .pai else none

/-- A command with its fields.
Source: the commands `ATTESTATION_REQUEST` to
`SIGN_VID_VERIFICATION_REQUEST`, and what `OperationalCredentials::run` reads for each. -/
inductive CredentialCommand
  | attestationRequest (nonce : List UInt8)
  | certificateChainRequest (kind : CertificateChainType)
  | csrRequest (nonce : List UInt8) (forUpdate : Bool)
  | addNoc (request : AddNocRequest)
  | updateNoc (noc : List UInt8) (icac : Option (List UInt8))
  | updateFabricLabel (label : String)
  | removeFabric (index : FabricIndex)
  | addTrustedRoot (rcac : List UInt8)
  | setVidVerificationStatement (vendorId : Option VendorId) (statement vvsc : Option (List UInt8))
  | signVidVerification (index : FabricIndex) (clientChallenge : List UInt8)

/-- Source: `ID`. -/
def clusterId : ClusterId := 0x003E

/-- Source: `decode_nonce`. -/
def decodeNonce (length : ℕ) (e : Element) : Except Status (List UInt8) := do
  let octets ← orElse (octetsOf e) .invalidCommand
  ensure (octets.length = length) .invalidCommand
  pure octets

/-- Source: `element.octets().map_err(|_| Status::InvalidCommand)`. -/
def decodeOctets (e : Element) : Except Status (List UInt8) := orElse (octetsOf e) .invalidCommand

/-- Source: `element.utf8().map_err(|_| Status::InvalidCommand)`. -/
def decodeText (e : Element) : Except Status String :=
  match e.value with
  | .utf8 v => .ok v
  | _ => .error .invalidCommand

/-- A number of 8 bits; one that is too large is refused with `tooLarge`. -/
def decodeU8 (tooLarge : Status) (e : Element) : Except Status UInt8 := do
  let value ← orElse e.unsigned .invalidCommand
  orElse (narrow8 value) tooLarge

/-- Source: `u16::try_from(value).map_err(|_| Status::ConstraintError)`, for a `VendorId`. -/
def decodeVendorId (e : Element) : Except Status VendorId := do
  let value ← orElse e.unsigned .invalidCommand
  let value ← orElse (narrow16 value) .constraintError
  pure ⟨value⟩

/-- Source: `u8::try_from(value).map_err(|_| Status::ConstraintError)`, for a `FabricIndex`. -/
def decodeFabricIndex (e : Element) : Except Status FabricIndex := do
  let value ← decodeU8 .constraintError e
  pure ⟨value⟩

/-- Source: `OperationalCredentials::run`, the type of a `CERTIFICATE_CHAIN_REQUEST`. -/
def decodeChainType (e : Element) : Except Status CertificateChainType := do
  let value ← decodeU8 .invalidCommand e
  Lib.okOr (CertificateChainType.fromValue value) .invalidCommand

/-- The fields of a command that has one, with the number 0. -/
def decodeOnly {α : Type} (read : Element → Except Status α) (fields : Option (List UInt8)) :
    Except Status α := do
  let onField (number : UInt8) (e : Element) (slot : Option α) : Except Status (Option (Option α)) :=
    if number = 0 then do
      let slot ← fieldOnce slot (read e)
      pure (some slot)
    else pure none
  let value ← walkFields onField none fields
  Lib.okOr value .invalidCommand

/-- The fields of a command that has two, with the numbers 0 and 1. -/
def decodePair {α β : Type} (first : Element → Except Status α) (second : Element → Except Status β)
    (fields : Option (List UInt8)) : Except Status (Option α × Option β) :=
  let onField (number : UInt8) (e : Element) (f : Option α × Option β) :
      Except Status (Option (Option α × Option β)) :=
    if number = 0 then do
      let slot ← fieldOnce f.1 (first e)
      pure (some (slot, f.2))
    else if number = 1 then do
      let slot ← fieldOnce f.2 (second e)
      pure (some (f.1, slot))
    else pure none
  walkFields onField (none, none) fields

/-- The variables that `OperationalCredentials::run` reads an `ADD_NOC` into. -/
structure AddNocFields where
  noc : Option (List UInt8) := none
  icac : Option (List UInt8) := none
  ipk : Option (List UInt8) := none
  subject : Option UInt64 := none
  vendor : Option VendorId := none

/-- Source: `OperationalCredentials::run`, the fields of an `ADD_NOC`. -/
def AddNocFields.onField (number : UInt8) (e : Element) (f : AddNocFields) :
    Except Status (Option AddNocFields) :=
  match number with
  | 0 => do
    let noc ← fieldOnce f.noc (decodeOctets e)
    pure (some { f with noc := noc })
  | 1 => do
    let icac ← fieldOnce f.icac (decodeOctets e)
    pure (some { f with icac := icac })
  | 2 => do
    let ipk ← fieldOnce f.ipk (decodeNonce 16 e)
    pure (some { f with ipk := ipk })
  | 3 => do
    let subject ← fieldOnce f.subject (orElse e.unsigned .invalidCommand)
    pure (some { f with subject := subject })
  | 4 => do
    let vendor ← fieldOnce f.vendor (decodeVendorId e)
    pure (some { f with vendor := vendor })
  | _ => pure none

/-- Source: `OperationalCredentials::run`, `ADD_NOC` up to `self.add_noc`. -/
def decodeAddNoc (fields : Option (List UInt8)) : Except Status AddNocRequest := do
  let f ← walkFields AddNocFields.onField {} fields
  let noc ← Lib.okOr f.noc .invalidCommand
  let ipk ← Lib.okOr f.ipk .invalidCommand
  let subject ← Lib.okOr f.subject .invalidCommand
  let vendor ← Lib.okOr f.vendor .invalidCommand
  pure ⟨noc, f.icac, ipk, subject, vendor⟩

/-- Source: `OperationalCredentials::run`, the fields of a `SET_VID_VERIFICATION_STATEMENT`. -/
def decodeVidStatement (fields : Option (List UInt8)) :
    Except Status (Option VendorId × Option (List UInt8) × Option (List UInt8)) :=
  let onField (number : UInt8) (e : Element)
      (f : Option VendorId × Option (List UInt8) × Option (List UInt8)) :
      Except Status (Option (Option VendorId × Option (List UInt8) × Option (List UInt8))) :=
    match number with
    | 0 => do
      let vendor ← fieldOnce f.1 (decodeVendorId e)
      pure (some (vendor, f.2.1, f.2.2))
    | 1 => do
      let statement ← fieldOnce f.2.1 (decodeOctets e)
      pure (some (f.1, statement, f.2.2))
    | 2 => do
      let vvsc ← fieldOnce f.2.2 (decodeOctets e)
      pure (some (f.1, f.2.1, vvsc))
    | _ => pure none
  walkFields onField (none, none, none) fields

/-- Reads a command.
Source: `OperationalCredentials::run`, the part of each arm that reads the fields. -/
def decode (command : CommandId) (fields : Option (List UInt8)) : Except Status CredentialCommand :=
  if command = 0x00 then do
    let nonce ← decodeOnly (decodeNonce 32) fields
    pure (.attestationRequest nonce)
  else if command = 0x02 then do
    let kind ← decodeOnly decodeChainType fields
    pure (.certificateChainRequest kind)
  else if command = 0x04 then do
    let (nonce, forUpdate) ← decodePair (decodeNonce 32) (fun e => orElse e.bool .invalidCommand) fields
    let nonce ← Lib.okOr nonce .invalidCommand
    pure (.csrRequest nonce (forUpdate.getD false))
  else if command = 0x06 then do
    let request ← decodeAddNoc fields
    pure (.addNoc request)
  else if command = 0x07 then do
    let (noc, icac) ← decodePair decodeOctets decodeOctets fields
    let noc ← Lib.okOr noc .invalidCommand
    pure (.updateNoc noc icac)
  else if command = 0x09 then do
    let label ← decodeOnly decodeText fields
    pure (.updateFabricLabel label)
  else if command = 0x0A then do
    let index ← decodeOnly decodeFabricIndex fields
    pure (.removeFabric index)
  else if command = 0x0B then do
    let rcac ← decodeOnly decodeOctets fields
    pure (.addTrustedRoot rcac)
  else if command = 0x0C then do
    let (vendor, statement, vvsc) ← decodeVidStatement fields
    pure (.setVidVerificationStatement vendor statement vvsc)
  else if command = 0x0D then do
    let (index, challenge) ← decodePair decodeFabricIndex (decodeNonce 32) fields
    let index ← Lib.okOr index .invalidCommand
    let challenge ← Lib.okOr challenge .invalidCommand
    pure (.signVidVerification index challenge)
  else .error .unsupportedCommand

/-! ## Running a command -/

/-- A response of two octet strings. -/
def signedResponse (id : CommandId) (elements signature : List UInt8) : Response where
  id := id
  write tag := do
    start tag .struct
    octets (.context 0) elements
    octets (.context 1) signature
    endContainer

/-- Source: `OperationalCredentials::run`, the response to a `CERTIFICATE_CHAIN_REQUEST`. -/
def chainResponse (certificate : List UInt8) : Response where
  id := 0x03
  write tag := do
    start tag .struct
    octets (.context 0) certificate
    endContainer

/-- Source: `OperationalCredentials::noc_response`. -/
def nocResponse (status : NocStatus) (index : Option FabricIndex) : Response where
  id := 0x08
  write tag := do
    start tag .struct
    unsigned (.context 0) status.value.toUInt64
    whenSome (index.filter fun _ => status = .ok) fun index =>
      unsigned (.context 1) index.val.toUInt64
    endContainer

/-- Source: `OperationalCredentials::sign_vid_verification`, the response. -/
def vidResponse (index : FabricIndex) (signature : List UInt8) : Response where
  id := 0x0E
  write tag := do
    start tag .struct
    unsigned (.context 0) index.val.toUInt64
    unsigned (.context 1) 0x01
    octets (.context 2) signature
    endContainer

/-- The response to an `AddNOC` or `UpdateNOC` names the fabric of the last change.
Source: `OperationalCredentials::run`, `Self::noc_response(status, self.changed_index(), ..)`. -/
def changedResponse (status : NocStatus) : Commanding N K (Option Response) := do
  let s ← get
  pure (some (nocResponse status (s.change.map FabricChange.index)))

/-- Carries out a command; `random` is what the generator gives.
Source: `OperationalCredentials::run`, the part of each arm after the fields. -/
def perform (command : CredentialCommand) (ctx : InteractionContext)
    (random : Except ErrorCode (List UInt8)) : Commanding N K (Option Response) :=
  match command with
  | .attestationRequest nonce => do
    let challenge ← ofResult (Lib.okOr ctx.attestationChallenge .unsupportedAccess)
    let s ← get
    let (elements, signature) ← ofResult (attestationResponse c s nonce challenge)
    pure (some (signedResponse 0x01 elements signature))
  | .certificateChainRequest kind =>
    pure (some (chainResponse (if kind = .dac then c.dac else c.pai)))
  | .csrRequest nonce forUpdate => do
    let random ← ofResult (orElse random .failure)
    let (elements, signature) ← csrResponse c store nonce forUpdate ctx random
    pure (some (signedResponse 0x05 elements signature))
  | .addNoc request => do
    let status ← addNoc c request ctx
    changedResponse status
  | .updateNoc noc icac => do
    let status ← updateNoc c store noc icac ctx
    changedResponse status
  | .updateFabricLabel label => do
    let status ← updateFabricLabel label ctx
    pure (some (nocResponse status ctx.fabricIndex))
  | .removeFabric index => do
    let status ← removeFabric store index ctx
    pure (some (nocResponse status (some index)))
  | .addTrustedRoot rcac => do
    addTrustedRoot c rcac ctx
    pure none
  | .setVidVerificationStatement vendorId statement vvsc => do
    setVidVerificationStatement vendorId statement vvsc ctx
    pure none
  | .signVidVerification index clientChallenge => do
    let s ← get
    let signature ← ofResult (signVidVerification store s index clientChallenge ctx)
    pure (some (vidResponse index signature))

/-- Source: `OperationalCredentials::run`. -/
def run (command : CommandId) (fields : Option (List UInt8)) (ctx : InteractionContext)
    (random : Except ErrorCode (List UInt8)) : Commanding N K (Option Response) := do
  modify (reap store ctx.now)
  let command ← ofResult (decode command fields)
  perform c store command ctx random

/-! ## What a command does -/

variable {c} {store} {s s' : CommissioningNode N K} {ctx : InteractionContext} {armed : Armed}

variable {now : Instant} {progress : Progress} {pending : PendingCsr} {identity : ChainIdentity}
  {credentials : Credentials} {noc : List UInt8} {icac : Option (List UInt8)}
  {existing fabric : Fabric} {refusal : Refusal} {index : FabricIndex}

lemma exec_record_of_live (hlive : s.failSafe.armedAt now = some armed) (f : Progress → Progress) :
    exec (record now f : Commanding N K Unit) s =
      (.ok (), { s with failSafe :=
        { s.failSafe with armed := some { armed with progress := f armed.progress } } }) := by
  simp only [record, FailSafe.record, exec_get_bind, FailSafe.updateLive_of_live hlive]
  rfl

lemma exec_adoptFabric_of_live (hlive : s.failSafe.armedAt now = some armed) (index : FabricIndex) :
    exec (adoptFabric index now : Commanding N K Unit) s =
      (.ok (), { s with failSafe :=
        { s.failSafe with armed := some { armed with fabricIndex := some index } } }) := by
  simp only [adoptFabric, FailSafe.adoptFabric, exec_get_bind, FailSafe.updateLive_of_live hlive]
  rfl

lemma requireFailSafe_eq_ok (h : requireFailSafe s now = .ok progress) :
    ∃ armed, s.failSafe.armedAt now = some armed ∧ armed.progress = progress := by
  rw [requireFailSafe, okOr_eq_ok] at h
  exact Option.map_eq_some_iff.mp h

/-- What a NOC command that is accepted finds: a live context in which none has been accepted before,
and a key that waits for it. -/
structure Awaited (s : CommissioningNode N K) (ctx : InteractionContext) (armed : Armed)
    (pending : PendingCsr) : Prop where
  live : s.failSafe.armedAt ctx.now = some armed
  notAdded : armed.progress.addedNoc = false
  notUpdated : armed.progress.updatedNoc = false
  pending : s.pendingCsr = some pending

lemma pendingOf_ok (h : pendingOf s ctx = .ok pending) : s.pendingCsr = some pending := by
  simp only [pendingOf, bind_eq_ok, okOr_eq_ok, ensure_eq_ok, pure_eq_ok] at h
  obtain ⟨found, hfound, -, -, hsame⟩ := h
  rw [hfound, Except.ok.inj hsame]

/-- The first checks of both NOC commands. -/
lemma awaited_of_checks (hprogress : (requireFailSafe s ctx.now).mapError Refusal.status = .ok progress)
    (hfirst : ¬(progress.addedNoc || progress.updatedNoc) = true)
    (hpending : pendingOf s ctx = .ok pending) : ∃ armed, Awaited s ctx armed pending := by
  obtain ⟨armed, hlive, rfl⟩ := requireFailSafe_eq_ok (mapError_eq_ok.mp hprogress)
  simp only [Bool.or_eq_true, not_or, Bool.not_eq_true] at hfirst
  exact ⟨armed, hlive, hfirst.1, hfirst.2, pendingOf_ok hpending⟩

lemma checkAddNoc_ok {request : AddNocRequest}
    (h : checkAddNoc c s request ctx = .ok (pending, identity, credentials)) :
    ∃ armed, Awaited s ctx armed pending := by
  simp only [checkAddNoc, bind_eq_ok, ensure_eq_ok, pure_eq_ok] at h
  obtain ⟨progress, hprogress, -, hfirst, pending', hpending, -, -, -, -, identity', -, -, -, -, -, -, -,
    -, -, credentials', -, hresult⟩ := h
  obtain ⟨rfl, -⟩ := Prod.mk.inj (Except.ok.inj hresult)
  exact awaited_of_checks hprogress hfirst hpending

lemma checkUpdateNoc_ok
    (h : checkUpdateNoc c s noc icac ctx = .ok (pending, existing, identity, credentials)) :
    ∃ armed, Awaited s ctx armed pending ∧ ctx.fabricIndex = some existing.index ∧
      s.fabrics.find existing.index = some existing := by
  simp only [checkUpdateNoc, bind_eq_ok, ensure_eq_ok, okOr_eq_ok, pure_eq_ok] at h
  obtain ⟨progress, hprogress, -, hfirst, -, -, pending', hpending, -, -, accessing, haccessing,
    existing', hexisting, identity', -, -, -, credentials', -, hresult⟩ := h
  obtain ⟨rfl, hrest⟩ := Prod.mk.inj (Except.ok.inj hresult)
  obtain ⟨rfl, -⟩ := Prod.mk.inj hrest
  obtain ⟨armed, hawaited⟩ := awaited_of_checks hprogress hfirst hpending
  obtain rfl : existing'.index = accessing := (find?_key_eq_some hexisting).2
  exact ⟨armed, hawaited, haccessing, hexisting⟩

/-- A certificate chain is not refused with OK. -/
lemma validateChain_raises (noc : List UInt8) (icac : Option (List UInt8)) (rcac : List UInt8)
    (expected : PublicKey) : Raises (· ≠ NocStatus.ok) (validateChain c noc icac rcac expected) := by
  refine .bind (.mapError fun _ _ => nofun) fun nocCert => ?_
  refine .bind (.mapError fun _ _ => nofun) fun icacCert => ?_
  refine .bind (.mapError fun _ _ => nofun) fun root => ?_
  refine .bind (.okOr nofun) fun nodeId => .bind (.ensure nofun) fun _ => ?_
  exact .bind (.mapError fun _ _ => nofun) fun verified => .bind (.ensure nofun) fun _ => .ok _

lemma pendingOf_raises : Raises (· ≠ Refusal.noc .ok) (pendingOf s ctx) :=
  .bind (.okOr nofun) fun _ => .bind (.ensure nofun) fun _ => .ok _

variable (request : AddNocRequest)

/-- An `AddNOC` is not refused with OK. -/
lemma checkAddNoc_raises : Raises (· ≠ Refusal.noc .ok) (checkAddNoc c s request ctx) := by
  refine .bind (.mapError fun _ _ => nofun) fun progress => .bind (.ensure nofun) fun _ => ?_
  refine .bind pendingOf_raises fun pending => .bind (.ensure nofun) fun _ => ?_
  refine .bind (.okOr nofun) fun rcac => .bind (.mapError ?_) fun identity => ?_
  · intro status hstatus hok
    exact validateChain_raises _ _ _ _ status hstatus (Refusal.noc.inj hok)
  · refine .bind (.mapError fun _ _ => nofun) fun compressed => .bind (.ensure nofun) fun _ => ?_
    refine .bind (.ensure nofun) fun _ => .bind (.ensure nofun) fun _ => ?_
    exact .bind (.okOr nofun) fun credentials => .ok _

/-- An `UpdateNOC` is not refused with OK. -/
lemma checkUpdateNoc_raises (noc : List UInt8) (icac : Option (List UInt8)) :
    Raises (· ≠ Refusal.noc .ok) (checkUpdateNoc c s noc icac ctx) := by
  refine .bind (.mapError fun _ _ => nofun) fun progress => .bind (.ensure nofun) fun _ => ?_
  refine .bind (.ensure nofun) fun _ => .bind pendingOf_raises fun pending => ?_
  refine .bind (.ensure nofun) fun _ => .bind (.okOr nofun) fun accessing => ?_
  refine .bind (.okOr nofun) fun existing => .bind (.mapError ?_) fun identity => ?_
  · intro status hstatus hok
    exact validateChain_raises _ _ _ _ status hstatus (Refusal.noc.inj hok)
  · exact .bind (.ensure nofun) fun _ => .bind (.okOr nofun) fun credentials => .ok _

lemma Refusal.answer_ne_ok (h : refusal ≠ .noc .ok) : refusal.answer ≠ .ok .ok := by
  cases refusal with
  | status code => exact nofun
  | noc code => exact fun heq => h (congrArg Refusal.noc (Except.ok.inj heq))

/-- The node after an `AddNOC` that was accepted. -/
def joined (s : CommissioningNode N K) (armed : Armed) (fabrics : FabricTable N) (fabric : Fabric)
    (request : AddNocRequest) (ctx : InteractionContext) : CommissioningNode N K :=
  { s with
    fabrics := fabrics
    pendingCsr := none
    pendingRoot := none
    failSafe :=
      { s.failSafe with
        armed := some
          { armed with
            progress := { armed.progress with addedNoc := true }
            fabricIndex := some fabric.index } }
    change := some (.added fabric.index request.caseAdminSubject ctx.fabricIndex.isNone) }

/-- The node after an `UpdateNOC` that was accepted. -/
def rotated (store : KeyStore K) (s : CommissioningNode N K) (armed : Armed) (existing : Fabric)
    (identity : ChainIdentity) (credentials : Credentials) (key : KeyHandle) : CommissioningNode N K :=
  { s with
    fabrics := s.fabrics.update existing.index fun f =>
      { f with nodeId := identity.nodeId, credentials := credentials, operationalKey := key }
    keys := (store.remove s.keys existing.operationalKey).2
    pendingCsr := none
    failSafe :=
      { s.failSafe with
        armed := some { armed with progress := { armed.progress with updatedNoc := true } } }
    change := some (.updated existing.index) }

lemma exec_joinFabric_of_ok {fabrics fabrics' : FabricTable N}
    (hlive : s.failSafe.armedAt ctx.now = some armed) (hinsert : fabrics.insert fabric = .ok fabrics') :
    exec (joinFabric fabrics fabric request ctx : Commanding N K NocStatus) s =
      (.ok .ok, joined s armed fabrics' fabric request ctx) := by
  let inserted : CommissioningNode N K :=
    { s with fabrics := fabrics', pendingCsr := none, pendingRoot := none }
  let recorded : Armed := { armed with progress := { armed.progress with addedNoc := true } }
  have hrecord := exec_record_of_live (s := inserted) hlive fun p => { p with addedNoc := true }
  have hadopt := exec_adoptFabric_of_live
    (s := { inserted with failSafe := { s.failSafe with armed := some recorded } })
    (FailSafe.armedAt_armed _ (FailSafe.armedAt_eq_some_iff.mp hlive).2) fabric.index
  rw [joinFabric, hinsert]
  dsimp only
  rw [exec_modify_bind, exec_bind_ok hrecord, exec_bind_ok hadopt, exec_modify_bind, exec_pure]
  rfl

/-- The index of a new fabric is set where its fabric is built. -/
lemma Fabric.new_ok {kd : KeyDerivation} {identity : FabricIdentity} {ipk : SymmetricKey}
    {key : KeyHandle} (h : Fabric.new kd index identity ipk key credentials = .ok fabric) :
    fabric.index = index ∧ fabric.operationalKey = key := by
  simp only [Fabric.new, bind_eq_ok, pure_eq_ok] at h
  obtain ⟨-, -, -, -, -, -, -, -, compressed, -, ipk', -, hfabric⟩ := h
  obtain rfl := Except.ok.inj hfabric
  exact ⟨rfl, rfl⟩

/-- The index of the fabric that an `AddNOC` is about to join, if it is to be accepted: it passes its
checks, there is an index left for it, its fabric can be built and the table takes it. -/
def newFabric (c : CredentialCrypto K) (s : CommissioningNode N K) (request : AddNocRequest)
    (ctx : InteractionContext) : Option FabricIndex := do
  let (pending, identity, credentials) ← (checkAddNoc c s request ctx).toOption
  let index ← s.fabrics.allocateIndex.1.toOption
  let fabric ← (Fabric.new c.toKeyDerivation index
    ⟨identity.fabricId, identity.nodeId, identity.rootPublicKey, request.adminVendorId⟩
    (.ofList request.ipk) pending.key credentials).toOption
  let _ ← (s.fabrics.allocateIndex.2.insert fabric).toOption
  pure fabric.index

/-- An `AddNOC` is refused, and then at most the index to be allocated next has moved, or it adds one
fabric under a free index, with the key that waited. -/
lemma addNoc_cases (c : CredentialCrypto K) (s : CommissioningNode N K) (request : AddNocRequest)
    (ctx : InteractionContext) : (∃ answer fabrics, answer ≠ .ok .ok ∧ newFabric c s request ctx = none ∧
      fabrics.fabrics = s.fabrics.fabrics ∧
      exec (addNoc c request ctx) s = (answer, { s with fabrics := fabrics })) ∨
    ∃ armed pending fabric fabrics, Awaited s ctx armed pending ∧
      newFabric c s request ctx = some fabric.index ∧
      fabric.operationalKey = pending.key ∧ ¬ s.fabrics.InUse fabric.index ∧
      fabrics.fabrics.toList = s.fabrics.fabrics.toList ++ [fabric] ∧
      exec (addNoc c request ctx) s = (.ok .ok, joined s armed fabrics fabric request ctx) := by
  rw [addNoc, exec_get_bind]
  cases hcheck : checkAddNoc c s request ctx with
  | error refusal =>
    have hnone : newFabric c s request ctx = none := by simp [newFabric, hcheck, Except.toOption]
    exact .inl ⟨_, s.fabrics, Refusal.answer_ne_ok (checkAddNoc_raises request _ hcheck), hnone, rfl,
      rfl⟩
  | ok found =>
    obtain ⟨pending, identity, credentials⟩ := found
    obtain ⟨armed, hawaited⟩ := checkAddNoc_ok hcheck
    dsimp only
    rw [exec_set_bind]
    cases hallocated : s.fabrics.allocateIndex.1 with
    | error e =>
      have hkept := (FabricTable.allocateIndex_of_error hallocated).1
      have hnone : newFabric c s request ctx = none := by
        simp [newFabric, hcheck, hallocated, Except.toOption]
      rw [orElse_error, exec_bind_error (exec_ofResult _ _)]
      exact .inl ⟨.error .failure, _, by simp, hnone, by rw [hkept], rfl⟩
    | ok index =>
      obtain ⟨hmoved, -, -, -, hunused, -⟩ := FabricTable.allocateIndex_of_ok hallocated
      have hfabrics : s.fabrics.allocateIndex.2.fabrics = s.fabrics.fabrics := by
        rw [hmoved]
      rw [orElse_ok, exec_bind_ok (exec_ofResult _ _)]
      cases hnew : Fabric.new c.toKeyDerivation index
          ⟨identity.fabricId, identity.nodeId, identity.rootPublicKey, request.adminVendorId⟩
          (.ofList request.ipk) pending.key credentials with
      | error e =>
        have hnone : newFabric c s request ctx = none := by
          simp [newFabric, hcheck, hallocated, hnew, Except.toOption]
        exact .inl ⟨.ok .invalidNoc, _, by simp, hnone, hfabrics, rfl⟩
      | ok fabric =>
        obtain ⟨rfl, hkey⟩ := Fabric.new_ok hnew
        dsimp only
        cases hinsert : s.fabrics.allocateIndex.2.insert fabric with
        | error e =>
          have hnone : newFabric c s request ctx = none := by
            simp [newFabric, hcheck, hallocated, hnew, hinsert, Except.toOption]
          rw [joinFabric, hinsert]
          exact .inl ⟨.ok .fabricConflict, _, by simp, hnone, hfabrics, rfl⟩
        | ok fabrics =>
          have hsome : newFabric c s request ctx = some fabric.index := by
            simp [newFabric, hcheck, hallocated, hnew, hinsert, Except.toOption]
          obtain ⟨-, -, happended, -⟩ := FabricTable.insert_of_ok hinsert
          have hrun := exec_joinFabric_of_ok (K := K)
            (s := { s with fabrics := s.fabrics.allocateIndex.2 }) request hawaited.live hinsert
          rw [hfabrics] at happended
          exact .inr ⟨armed, pending, fabric, fabrics, hawaited, hsome, hkey, hunused, happended, hrun⟩

/-- An `UpdateNOC` that passes its checks changes the fabric it was sent on and destroys its key. -/
lemma exec_updateNoc_of_ok
    (h : checkUpdateNoc c s noc icac ctx = .ok (pending, existing, identity, credentials))
    (hlive : s.failSafe.armedAt ctx.now = some armed) : exec (updateNoc c store noc icac ctx) s =
      (.ok .ok, rotated store s armed existing identity credentials pending.key) := by
  let changed : CommissioningNode N K :=
    { s with
      fabrics := s.fabrics.update existing.index fun f =>
        { f with
          nodeId := identity.nodeId
          credentials := credentials
          operationalKey := pending.key }
      keys := (store.remove s.keys existing.operationalKey).2
      pendingCsr := none }
  have hrecord := exec_record_of_live (s := changed) hlive fun p => { p with updatedNoc := true }
  rw [updateNoc, exec_get_bind, h]
  dsimp only
  rw [exec_set_bind, exec_bind_ok hrecord, exec_modify_bind, exec_pure]
  rfl

lemma exec_updateNoc_of_error (h : checkUpdateNoc c s noc icac ctx = .error refusal) :
    exec (updateNoc c store noc icac ctx) s = (refusal.answer, s) := by
  rw [updateNoc, exec_get_bind, h]
  rfl

/-- The node after a `CSRRequest` has generated a key. -/
def keyed (store : KeyStore K) (s : CommissioningNode N K) (random : List UInt8) :
    CommissioningNode N K :=
  { dropPendingKey store s with
    keys := (store.generate (dropPendingKey store s).keys .operational random).2 }

/-- The node with something recorded in its live context. -/
def recorded (s : CommissioningNode N K) (armed : Armed) (f : Progress → Progress) :
    CommissioningNode N K :=
  { s with failSafe := { s.failSafe with armed := some { armed with progress := f armed.progress } } }

/-- What edits leave alone of a fabric. -/
def heading (f : Fabric) : FabricIndex × KeyHandle := (f.index, f.operationalKey)

lemma map_index_of_heading {a b : List Fabric} (h : a.map heading = b.map heading) :
    a.map Fabric.index = b.map Fabric.index := by
  have hfirst := congrArg (List.map Prod.fst) h
  rw [List.map_map, List.map_map] at hfirst
  exact hfirst

/-- What a command can do to the node: one constructor for each change, with what it was made under. -/
inductive Effect (c : CredentialCrypto K) (store : KeyStore K) (ctx : InteractionContext)
    (s : CommissioningNode N K) : CredentialCommand → CommissioningNode N K → Prop
  | nothing {command : CredentialCommand} : Effect c store ctx s command s
  | keyed {nonce : List UInt8} {forUpdate : Bool} {armed : Armed} (random : List UInt8)
      (hlive : s.failSafe.armedAt ctx.now = some armed)
      (hadded : armed.progress.addedNoc = false) (hupdated : armed.progress.updatedNoc = false) :
      Effect c store ctx s (.csrRequest nonce forUpdate) (keyed store s random)
  | awaiting {nonce : List UInt8} {forUpdate : Bool} {armed : Armed} (random : List UInt8)
      (key : KeyHandle) (publicKey : PublicKey)
      (hlive : s.failSafe.armedAt ctx.now = some armed)
      (hadded : armed.progress.addedNoc = false) (hupdated : armed.progress.updatedNoc = false)
      (hgenerated : (store.generate (dropPendingKey store s).keys .operational random).1 =
        .ok (key, publicKey)) :
      Effect c store ctx s (.csrRequest nonce forUpdate)
        (recorded
          { OperationalCredentials.keyed store s random with
            pendingCsr := some ⟨ctx.session, key, publicKey, forUpdate⟩ }
          armed fun p => { p with csrRequested := true })
  | rooted {rcac : List UInt8} {armed : Armed} (hlive : s.failSafe.armedAt ctx.now = some armed) :
      Effect c store ctx s (.addTrustedRoot rcac)
        (recorded { s with pendingRoot := some rcac } armed fun p =>
          { p with addedTrustedRoot := true })
  | allocated {request : AddNocRequest} {fabrics : FabricTable N}
      (hkept : fabrics.fabrics = s.fabrics.fabrics) :
      Effect c store ctx s (.addNoc request) { s with fabrics := fabrics }
  | joined {request : AddNocRequest} {armed : Armed} {pending : PendingCsr} {fabric : Fabric}
      {fabrics : FabricTable N} (hawaited : Awaited s ctx armed pending)
      (hkey : fabric.operationalKey = pending.key) (hunused : ¬ s.fabrics.InUse fabric.index)
      (happended : fabrics.fabrics.toList = s.fabrics.fabrics.toList ++ [fabric]) :
      Effect c store ctx s (.addNoc request) (joined s armed fabrics fabric request ctx)
  | rotated {noc : List UInt8} {icac : Option (List UInt8)} {armed : Armed} {pending : PendingCsr}
      {existing : Fabric} {identity : ChainIdentity} {credentials : Credentials}
      (hcheck : checkUpdateNoc c s noc icac ctx = .ok (pending, existing, identity, credentials))
      (hawaited : Awaited s ctx armed pending) :
      Effect c store ctx s (.updateNoc noc icac)
        (rotated store s armed existing identity credentials pending.key)
  | relabelled {label : String} {fabrics : FabricTable N}
      (hkept : fabrics.fabrics.toList.map heading = s.fabrics.fabrics.toList.map heading) :
      Effect c store ctx s (.updateFabricLabel label) { s with fabrics := fabrics }
  | stated {vendorId : Option VendorId} {statement vvsc : Option (List UInt8)}
      {fabrics : FabricTable N}
      (hkept : fabrics.fabrics.toList.map heading = s.fabrics.fabrics.toList.map heading) :
      Effect c store ctx s (.setVidVerificationStatement vendorId statement vvsc)
        { s with fabrics := fabrics }
  | removed {index : FabricIndex} {fabric : Fabric} {fabrics : FabricTable N}
      (hremoved : s.fabrics.remove index = some (fabric, fabrics)) :
      Effect c store ctx s (.removeFabric index)
        { s with
          fabrics := fabrics
          keys := (store.remove s.keys fabric.operationalKey).2
          change := some
            (.removed index fabrics.isEmpty (decide (ctx.fabricIndex = some index))) }

/-- A command whose rest does not touch the state does what its first part does. -/
lemma exec_bind_snd {α β : Type} {x : Commanding N K α} {f : α → Commanding N K β}
    (hf : ∀ a s, (exec (f a) s).2 = s) (s : CommissioningNode N K) :
    (exec (x >>= f) s).2 = (exec x s).2 := by
  cases h : exec x s with
  | mk result s' =>
    cases result with
    | error e => rw [exec_bind_error h]
    | ok a => rw [exec_bind_ok h, hf]

/-- A `CSRRequest` is refused before it touches anything, or it lets go of the key that waited and asks
for another; then that fails, or the request over the new key fails, or the new key waits. -/
lemma csrResponse_cases (c : CredentialCrypto K) (store : KeyStore K) (s : CommissioningNode N K)
    (nonce : List UInt8) (forUpdate : Bool) (ctx : InteractionContext) (random : List UInt8) :
    (∃ status, checkCsr s forUpdate ctx = .error status ∧
      exec (csrResponse c store nonce forUpdate ctx random) s = (.error status, s)) ∨
    ∃ challenge armed, checkCsr s forUpdate ctx = .ok challenge ∧
      s.failSafe.armedAt ctx.now = some armed ∧ armed.progress.addedNoc = false ∧
      armed.progress.updatedNoc = false ∧
      ((∃ e, (store.generate (dropPendingKey store s).keys .operational random).1 = .error e ∧
        exec (csrResponse c store nonce forUpdate ctx random) s =
          (.error .failure, keyed store s random)) ∨
      ∃ key publicKey,
        (store.generate (dropPendingKey store s).keys .operational random).1 = .ok (key, publicKey) ∧
        ((∃ e, c.nocsr (keyed store s random).keys key nonce challenge = .error e ∧
          exec (csrResponse c store nonce forUpdate ctx random) s =
            (.error .failure, keyed store s random)) ∨
        ∃ signed, c.nocsr (keyed store s random).keys key nonce challenge = .ok signed ∧
          exec (csrResponse c store nonce forUpdate ctx random) s =
            (.ok signed, recorded
              { keyed store s random with
                pendingCsr := some ⟨ctx.session, key, publicKey, forUpdate⟩ }
              armed fun p => { p with csrRequested := true }))) := by
  rw [csrResponse, exec_get_bind]
  cases hcheck : checkCsr s forUpdate ctx with
  | error status => exact .inl ⟨status, rfl, rfl⟩
  | ok challenge =>
    have hchecks := hcheck
    simp only [checkCsr, bind_eq_ok, ensure_eq_ok] at hchecks
    obtain ⟨progress, hprogress, -, hfirst, -⟩ := hchecks
    obtain ⟨armed, hlive, rfl⟩ := requireFailSafe_eq_ok hprogress
    simp only [Bool.or_eq_true, not_or, Bool.not_eq_true] at hfirst
    have hlive' : (dropPendingKey store s).failSafe.armedAt ctx.now = some armed := by
      rwa [dropPendingKey_failSafe]
    refine .inr ⟨challenge, armed, rfl, hlive, hfirst.1, hfirst.2, ?_⟩
    rw [exec_bind_ok (exec_ofResult _ _)]
    dsimp only
    rw [exec_set_bind]
    cases hgenerated : (store.generate (dropPendingKey store s).keys .operational random).1 with
    | error e =>
      rw [orElse_error, exec_bind_error (exec_ofResult _ _)]
      exact .inl ⟨e, rfl, rfl⟩
    | ok found =>
      obtain ⟨key, publicKey⟩ := found
      rw [orElse_ok, exec_bind_ok (exec_ofResult _ _)]
      refine .inr ⟨key, publicKey, rfl, ?_⟩
      dsimp only
      cases hnocsr : c.nocsr (keyed store s random).keys key nonce challenge with
      | error e =>
        rw [show c.nocsr (store.generate (dropPendingKey store s).keys .operational random).2 key nonce
          challenge = .error e from hnocsr, orElse_error, exec_bind_error (exec_ofResult _ _)]
        exact .inl ⟨e, rfl, rfl⟩
      | ok signed =>
        rw [show c.nocsr (store.generate (dropPendingKey store s).keys .operational random).2 key nonce
          challenge = .ok signed from hnocsr, orElse_ok, exec_bind_ok (exec_ofResult _ _),
          exec_modify_bind]
        have hrecord := exec_record_of_live
          (s := { keyed store s random with
            pendingCsr := some ⟨ctx.session, key, publicKey, forUpdate⟩ }) hlive'
          fun p => { p with csrRequested := true }
        exact .inr ⟨signed, rfl, exec_bind_ok hrecord fun _ => pure signed⟩

lemma csrResponse_effect (nonce : List UInt8) (forUpdate : Bool) (random : List UInt8) :
    Effect c store ctx s (.csrRequest nonce forUpdate)
      (exec (csrResponse c store nonce forUpdate ctx random) s).2 := by
  obtain ⟨status, -, hrun⟩ | ⟨challenge, armed, -, hlive, hadded, hupdated, hcase⟩ :=
    csrResponse_cases c store s nonce forUpdate ctx random
  · rw [hrun]
    exact .nothing
  · obtain ⟨e, -, hrun⟩ | ⟨key, publicKey, hgenerated, ⟨e, -, hrun⟩ | ⟨signed, -, hrun⟩⟩ := hcase
    · rw [hrun]
      exact .keyed random hlive hadded hupdated
    · rw [hrun]
      exact .keyed random hlive hadded hupdated
    · rw [hrun]
      exact .awaiting random key publicKey hlive hadded hupdated hgenerated

lemma addTrustedRoot_effect (rcac : List UInt8) :
    Effect c store ctx s (.addTrustedRoot rcac) (exec (addTrustedRoot c rcac ctx) s).2 := by
  rw [addTrustedRoot, exec_get_bind]
  cases hcheck : checkTrustedRoot c s rcac ctx with
  | error status => exact .nothing
  | ok _ =>
    simp only [checkTrustedRoot, bind_eq_ok] at hcheck
    obtain ⟨progress, hprogress, -⟩ := hcheck
    obtain ⟨armed, hlive, -⟩ := requireFailSafe_eq_ok hprogress
    rw [exec_bind_ok (exec_ofResult _ _), exec_modify_bind,
      exec_record_of_live (s := { s with pendingRoot := some rcac }) hlive]
    exact .rooted hlive

lemma addNoc_effect : Effect c store ctx s (.addNoc request) (exec (addNoc c request ctx) s).2 := by
  obtain ⟨answer, fabrics, -, -, hkept, hrun⟩ | ⟨armed, pending, fabric, fabrics, hawaited, -, hkey,
    hunused, happended, hrun⟩ := addNoc_cases c s request ctx
  · rw [hrun]
    exact .allocated hkept
  · rw [hrun]
    exact .joined hawaited hkey hunused happended

lemma updateNoc_effect (noc : List UInt8) (icac : Option (List UInt8)) :
    Effect c store ctx s (.updateNoc noc icac) (exec (updateNoc c store noc icac ctx) s).2 := by
  cases hcheck : checkUpdateNoc c s noc icac ctx with
  | error refusal =>
    rw [exec_updateNoc_of_error hcheck]
    exact .nothing
  | ok found =>
    obtain ⟨pending, existing, identity, credentials⟩ := found
    obtain ⟨armed, hawaited, -⟩ := checkUpdateNoc_ok hcheck
    rw [exec_updateNoc_of_ok hcheck hawaited.live]
    exact .rotated hcheck hawaited

/-- An edit that keeps something of every fabric keeps the list of it. -/
lemma map_update {β : Type} {g : Fabric → β} {fabrics : FabricTable N} {f : Fabric → Fabric}
    (hf : ∀ fabric, g (f fabric) = g fabric) :
    (fabrics.update index f).fabrics.toList.map g = fabrics.fabrics.toList.map g :=
  map_modifyFirst hf _

lemma updateFabricLabel_effect (label : String) :
    Effect c store ctx s (.updateFabricLabel label) (exec (updateFabricLabel label ctx) s).2 := by
  rw [updateFabricLabel]
  cases ctx.fabricIndex with
  | none => exact .nothing
  | some accessing =>
    rw [okOr_some, exec_bind_ok (exec_ofResult _ _), exec_get_bind]
    split_ifs
    · exact .nothing
    · exact .nothing
    · by_cases hlength : (asBytes label).length ≤ fabricLabelMax
      · rw [exec_require_bind hlength, exec_set_bind, exec_pure]
        exact .relabelled (map_update fun _ => rfl)
      · rw [require, if_neg hlength]
        exact .nothing

lemma removeFabric_effect (index : FabricIndex) :
    Effect c store ctx s (.removeFabric index) (exec (removeFabric store index ctx) s).2 := by
  rw [removeFabric, exec_get_bind]
  cases hremoved : s.fabrics.remove index with
  | none => exact .nothing
  | some found =>
    obtain ⟨fabric, fabrics⟩ := found
    exact .removed hremoved

/-- The fabrics are edited, each keeps its index and its key, and nothing else changes. -/
def Edited (s s' : CommissioningNode N K) : Prop :=
  ∃ fabrics : FabricTable N, s' = { s with fabrics := fabrics } ∧
    fabrics.fabrics.toList.map heading = s.fabrics.fabrics.toList.map heading

instance : Std.Refl (Edited (N := N) (K := K)) where
  refl s := ⟨s.fabrics, rfl, rfl⟩

instance : IsTrans (CommissioningNode N K) Edited where
  trans := by
    rintro s _ _ ⟨fabrics, rfl, hkept⟩ ⟨fabrics', rfl, hkept'⟩
    exact ⟨fabrics', rfl, hkept'.trans hkept⟩

lemma whenGiven_moves {α : Type} {R : CommissioningNode N K → CommissioningNode N K → Prop}
    [Std.Refl R] (field : Option α) {f : α → Commanding N K Unit} (hf : ∀ a, Moves R (f a)) :
    Moves R (whenGiven field f) := by
  cases field with
  | none => exact .pure ()
  | some value => exact hf value

/-- A statement is set by edits of the accessing fabric. -/
lemma setVidVerificationStatement_moves (vendorId : Option VendorId)
    (statement vvsc : Option (List UInt8)) (ctx : InteractionContext) :
    Moves (Edited (N := N) (K := K)) (setVidVerificationStatement vendorId statement vvsc ctx) := by
  have hchange : ∀ (accessing : FabricIndex) (f : Fabric → Fabric),
      (∀ fabric, heading (f fabric) = heading fabric) →
      Moves (Edited (N := N) (K := K))
        (modify fun s => { s with fabrics := s.fabrics.update accessing f } :
          Commanding N K PUnit) := by
    intro accessing f hf
    exact .modify fun s => ⟨_, rfl, map_update hf⟩
  refine .bind (.require _ _) fun _ => .ofResult_bind fun accessing _ => .get fun s => ?_
  refine Moves.ofResult_bind (fun fabric _ => ?_) s
  refine .bind (whenGiven_moves _ fun _ => .ofResult_bind fun _ _ => hchange _ _ fun _ => rfl) ?_
  intro _
  refine .bind (whenGiven_moves _ fun _ => .ofResult_bind fun _ _ => hchange _ _ fun _ => rfl) ?_
  exact fun _ => whenGiven_moves _ fun _ => hchange _ _ fun _ => rfl

/-- What a command does is one of the effects. -/
theorem perform_effect (c : CredentialCrypto K) (store : KeyStore K) (command : CredentialCommand)
    (ctx : InteractionContext) (random : Except ErrorCode (List UInt8)) (s : CommissioningNode N K) :
    Effect c store ctx s command (exec (perform c store command ctx random) s).2 := by
  have hchanged : ∀ status (s : CommissioningNode N K), (exec (changedResponse status) s).2 = s :=
    fun _ _ => rfl
  cases command with
  | attestationRequest nonce =>
    have hkept : Moves Eq (perform c store (.attestationRequest nonce) ctx random :
        Commanding N K _) :=
      .ofResult_bind fun _ _ => .get fun s => Moves.ofResult_bind (fun _ _ => .pure _) s
    rw [← hkept s]
    exact .nothing
  | certificateChainRequest kind => exact .nothing
  | csrRequest nonce forUpdate =>
    cases random with
    | error e => exact .nothing
    | ok random =>
      rw [perform, orElse_ok, exec_bind_ok (exec_ofResult _ _), exec_bind_snd fun _ _ => rfl]
      exact csrResponse_effect nonce forUpdate random
  | addNoc request =>
    rw [perform, exec_bind_snd hchanged]
    exact addNoc_effect request
  | updateNoc noc icac =>
    rw [perform, exec_bind_snd hchanged]
    exact updateNoc_effect noc icac
  | updateFabricLabel label =>
    rw [perform, exec_bind_snd fun _ _ => rfl]
    exact updateFabricLabel_effect label
  | removeFabric index =>
    rw [perform, exec_bind_snd fun _ _ => rfl]
    exact removeFabric_effect index
  | addTrustedRoot rcac =>
    rw [perform, exec_bind_snd fun _ _ => rfl]
    exact addTrustedRoot_effect rcac
  | setVidVerificationStatement vendorId statement vvsc =>
    rw [perform, exec_bind_snd fun _ _ => rfl]
    obtain ⟨fabrics, hedited, hkept⟩ := setVidVerificationStatement_moves vendorId statement vvsc ctx s
    rw [hedited]
    exact .stated hkept
  | signVidVerification index clientChallenge =>
    have hkept : Moves Eq (perform c store (.signVidVerification index clientChallenge) ctx random :
        Commanding N K _) :=
      .get fun s => Moves.ofResult_bind (fun _ _ => .pure _) s
    rw [← hkept s]
    exact .nothing

end OperationalCredentials

end MatterKit.Clusters
