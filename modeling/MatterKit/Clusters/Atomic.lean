import MatterKit.Cert.Chain
import MatterKit.Clusters.Rollback

/-!
# NOC commands that are refused

An `AddNOC` or `UpdateNOC` that is refused is to leave the node as if it had never come, with the key of
the last `CSRRequest` still there for the next try. Every check that can be made beforehand is made
before the first change; two steps of `AddNOC` come after an index has been allocated and can still
fail, the building of the fabric and its insertion. Neither does, given what was checked: the chain
vouches for the identity (`Cert.verifyChain_identity`), the derivation of a key of sixteen octets does
not fail, and no fabric of the table has the compressed id (`insert_of_checks`).
-/

namespace MatterKit

open Lib

/-- Deriving a key fails for no other reason than its length.
Source: `crypto/rustcrypto.rs`, `kdf`: HKDF with SHA-256, which expands to at most 255 times 32
octets. -/
def KeyDerivation.Expands (kd : KeyDerivation) : Prop :=
  ∀ inputKey salt info length, length ≤ 255 * 32 → ∃ out, kd.kdf inputKey salt info length = .ok out

namespace FabricTable

variable {N : ℕ} {t : FabricTable N}

/-- The index that is handed out is not 0, which stands for no fabric. -/
lemma isSome_of_allocateIndex {index : FabricIndex} (h : t.allocateIndex.1 = .ok index) :
    index.isSome = true := by
  obtain ⟨-, k, -, hval, -⟩ := allocateIndex_of_ok h
  rw [Function.iterate_succ_apply'] at hval
  have hpos := toNat_nextCandidate (nextCandidate^[k] t.lastIndex)
  rw [← hval] at hpos
  rw [FabricIndex.isSome, bne_iff_ne]
  intro hzero
  rw [hzero, show (0 : UInt8).toNat = 0 from rfl] at hpos
  split_ifs at hpos

/-- A table takes a fabric under a free index whose compressed id it does not know, while it has
room. -/
lemma insert_of_checks {fabric : Fabric} (hunused : ¬ t.InUse fabric.index)
    (hother : ∀ f ∈ t.fabrics.toList, f.compressed ≠ fabric.compressed) (hroom : t.len < N) :
    ∃ t', t.insert fabric = .ok t' ∧ t'.fabrics.toList = t.fabrics.toList ++ [fabric] := by
  have hnone : t.find fabric.index = none := find_eq_none_iff.mpr hunused
  have htwice : ¬ (t.fabrics.toList.any fun f =>
      decide (f.compressed = fabric.compressed) && decide (f.nodeId = fabric.nodeId)) = true := by
    rw [List.any_eq_true]
    rintro ⟨f, hf, hboth⟩
    exact hother f hf (of_decide_eq_true (Bool.and_eq_true_iff.mp hboth).1)
  have hlength : t.fabrics.toList.length < N := hroom
  rw [insert, hnone, if_neg (by simp), if_neg htwice, BoundedVec.push, dif_pos hlength]
  exact ⟨_, rfl, rfl⟩

end FabricTable

/-- A fabric is built of an identity in range and of certificates that are there. -/
lemma Fabric.new_of_checks {kd : KeyDerivation} (hkd : kd.Expands) {index : FabricIndex}
    {identity : FabricIdentity} {credentials : Credentials} (ipk : SymmetricKey) (key : KeyHandle)
    (hindex : index.isSome = true) (hfabric : identity.fabricId.val ≠ 0)
    (hnode : identity.nodeId.isOperational = true) (hvalid : credentials.isValid = true)
    {compressed : CompressedFabricId}
    (hcompressed : kd.compressedFabricId identity.rootPublicKey identity.fabricId = .ok compressed) :
    ∃ fabric, Fabric.new kd index identity ipk key credentials = .ok fabric ∧ fabric.index = index ∧
      fabric.operationalKey = key ∧ fabric.compressed = compressed := by
  obtain ⟨out, hout⟩ := hkd ipk.bytes.toList (beBytes64 compressed.val) KeyDerivation.groupKeyInfo 16
    (by decide)
  simp [Fabric.new, hindex, hfabric, hnode, hvalid, hcompressed, KeyDerivation.operationalGroupKey,
    KeyDerivation.kdfKey, hout]

namespace Clusters

open Machine Dm Im Commissioning Sc OperationalCredentials

section certified

variable {K : Type}

/-- The certificates of the cluster are read and verified by `cert`.
Source: `clusters/operational_credentials.rs`, `MatterCertificate::decode`, `node_id`, `validate_as`,
`crate::cert::verify_self_signed` and `crate::cert::verify_chain`, where a certificate borrows from the
octets it was decoded from. -/
def certified (x : Cert.Signing) (c : CredentialCrypto K) : CredentialCrypto K :=
  { c with
    decodeCertificate := fun octets => do
      let cert ← Cert.Certificate.decode octets
      pure ⟨octets, cert.publicKey⟩
    nodeId := fun cert => (Cert.Certificate.decode cert.encoded).toOption.bind Cert.Certificate.nodeId
    validateAsRcac := fun cert => do
      let cert ← Cert.Certificate.decode cert.encoded
      cert.validateAs .rcac
    verifySelfSigned := fun root => do
      let root ← Cert.Certificate.decode root.encoded
      Cert.verifySelfSigned x root
    verifyChain := fun noc icac root epochS => do
      let noc ← Cert.Certificate.decode noc.encoded
      let icac ← icac.mapM fun icac => Cert.Certificate.decode icac.encoded
      let root ← Cert.Certificate.decode root.encoded
      Cert.verifyChain x noc icac root epochS }

end certified

namespace OperationalCredentials

section checks

variable {N : ℕ} {K : Type} {x : Cert.Signing} {c : CredentialCrypto K} {store : KeyStore K}
  {s : CommissioningNode N K} {ctx : InteractionContext}

lemma ne_nil_of_decode {octets : List UInt8} {cert : MatterCertificate}
    (h : (certified x c).decodeCertificate octets = .ok cert) : octets ≠ [] := by
  rintro rfl
  simp [certified, Cert.Certificate.decode_nil] at h

variable {icac : Option (List UInt8)} {identity : ChainIdentity} {credentials : Credentials}
  {pending : PendingCsr}

/-- A chain that is accepted names an operational node of a fabric that is not 0, and its certificates
are there. -/
lemma validateChain_ok {noc rcac : List UInt8} {expected : PublicKey}
    (h : validateChain (certified x c) noc icac rcac expected = .ok identity) :
    identity.fabricId.val ≠ 0 ∧ identity.nodeId.isOperational = true ∧ noc ≠ [] ∧ rcac ≠ [] := by
  simp only [validateChain, bind_eq_ok, mapError_eq_ok, okOr_eq_ok, ensure_eq_ok, pure_eq_ok] at h
  obtain ⟨nocCert, hnoc, icacCert, -, root, hroot, nodeId, -, -, hoperational, verified, hverified, -, -,
    hidentity⟩ := h
  obtain rfl := Except.ok.inj hidentity
  simp only [certified, bind_eq_ok] at hverified
  obtain ⟨_, -, _, -, _, -, hchain⟩ := hverified
  obtain ⟨-, -, -, hfabric⟩ := Cert.verifyChain_identity hchain
  exact ⟨hfabric, hoperational, ne_nil_of_decode hnoc, ne_nil_of_decode hroot⟩

lemma isValid_of_credentialsOf {noc rcac : List UInt8}
    (h : credentialsOf noc icac rcac = some credentials) (hnoc : noc ≠ []) (hrcac : rcac ≠ []) :
    credentials.isValid = true := by
  rw [credentialsOf] at h
  split_ifs at h
  obtain rfl := Option.some.inj h
  simp [Credentials.isValid, hnoc, hrcac]

/-- The key that a NOC command finds was generated on its own session. -/
lemma pendingOf_session (h : pendingOf s ctx = .ok pending) : pending.session = ctx.session := by
  simp only [pendingOf, bind_eq_ok, ensure_eq_ok, pure_eq_ok] at h
  obtain ⟨found, -, -, hsession, hsame⟩ := h
  rwa [← Except.ok.inj hsame]

/-- What an `AddNOC` that passes its checks has been checked for. -/
structure Admissible (c : CredentialCrypto K) (s : CommissioningNode N K) (ctx : InteractionContext)
    (pending : PendingCsr) (identity : ChainIdentity) (credentials : Credentials) : Prop where
  session : pending.session = ctx.session
  forAdding : pending.forUpdate = false
  fabricId : identity.fabricId.val ≠ 0
  nodeId : identity.nodeId.isOperational = true
  credentials : credentials.isValid = true
  unknown : ∃ compressed, c.compressedFabricId identity.rootPublicKey identity.fabricId = .ok compressed ∧
    ∀ f ∈ s.fabrics.fabrics.toList, f.compressed ≠ compressed
  room : s.fabrics.len < N

lemma admissible_of_check {request : AddNocRequest}
    (h : checkAddNoc (certified x c) s request ctx = .ok (pending, identity, credentials)) :
    Admissible (certified x c) s ctx pending identity credentials := by
  simp only [checkAddNoc, bind_eq_ok, mapError_eq_ok, okOr_eq_ok, ensure_eq_ok, pure_eq_ok] at h
  obtain ⟨progress, -, -, -, pending', hpending, -, hfor, rcac, -, identity', hchain, compressed,
    hcompressed, -, hunknown, -, hroom, -, -, credentials', hcredentials, hresult⟩ := h
  obtain ⟨rfl, hrest⟩ := Prod.mk.inj (Except.ok.inj hresult)
  obtain ⟨rfl, rfl⟩ := Prod.mk.inj hrest
  obtain ⟨hfabric, hnode, hnoc, hrcac⟩ := validateChain_ok hchain
  exact
    { session := pendingOf_session hpending
      forAdding := Bool.not_eq_true _ ▸ hfor
      fabricId := hfabric
      nodeId := hnode
      credentials := isValid_of_credentialsOf hcredentials hnoc hrcac
      unknown := ⟨compressed, hcompressed, hunknown⟩
      room := hroom }

/-- An `AddNOC` that is refused has changed nothing; one that is accepted has added one fabric, under
the key that waited on its session. -/
lemma addNoc_atomic (x : Cert.Signing) {c : CredentialCrypto K} (hkdf : c.toKeyDerivation.Expands)
    (s : CommissioningNode N K) (ctx : InteractionContext) (request : AddNocRequest) :
    (∃ answer, answer ≠ .ok .ok ∧ exec (addNoc (certified x c) request ctx) s = (answer, s)) ∨
    ∃ armed pending fabric fabrics, Awaited s ctx armed pending ∧ pending.session = ctx.session ∧
      pending.forUpdate = false ∧ fabric.operationalKey = pending.key ∧ ¬ s.fabrics.InUse fabric.index ∧
      fabrics.fabrics.toList = s.fabrics.fabrics.toList ++ [fabric] ∧
      exec (addNoc (certified x c) request ctx) s =
        (.ok .ok, joined s armed fabrics fabric request ctx) := by
  rw [addNoc, exec_get_bind]
  cases hcheck : checkAddNoc (certified x c) s request ctx with
  | error refusal => exact .inl ⟨_, Refusal.answer_ne_ok (checkAddNoc_raises request _ hcheck), rfl⟩
  | ok found =>
    obtain ⟨pending, identity, credentials⟩ := found
    obtain ⟨armed, hawaited⟩ := checkAddNoc_ok hcheck
    have hadmissible := admissible_of_check hcheck
    dsimp only
    rw [exec_set_bind]
    cases hallocated : s.fabrics.allocateIndex.1 with
    | error e =>
      have hkept := (FabricTable.allocateIndex_of_error hallocated).1
      rw [orElse_error, exec_bind_error (exec_ofResult _ _), hkept]
      exact .inl ⟨.error .failure, by simp, rfl⟩
    | ok index =>
      obtain ⟨hmoved, -, -, -, hunused, -⟩ := FabricTable.allocateIndex_of_ok hallocated
      have hfabrics : s.fabrics.allocateIndex.2.fabrics = s.fabrics.fabrics := by rw [hmoved]
      obtain ⟨compressed, hcompressed, hunknown⟩ := hadmissible.unknown
      let named : FabricIdentity :=
        ⟨identity.fabricId, identity.nodeId, identity.rootPublicKey, request.adminVendorId⟩
      have hfabric : named.fabricId.val ≠ 0 := hadmissible.fabricId
      have hnode : named.nodeId.isOperational = true := hadmissible.nodeId
      obtain ⟨fabric, hnew, rfl, hkey, rfl⟩ := Fabric.new_of_checks hkdf (.ofList request.ipk)
        pending.key (FabricTable.isSome_of_allocateIndex hallocated) hfabric hnode
        hadmissible.credentials hcompressed
      have hunused' : ¬ s.fabrics.allocateIndex.2.InUse fabric.index := by
        rwa [FabricTable.InUse, hfabrics]
      obtain ⟨fabrics, hinsert, happended⟩ := FabricTable.insert_of_checks hunused'
        (by rwa [hfabrics]) (by rw [FabricTable.len, hfabrics]; exact hadmissible.room)
      rw [hfabrics] at happended
      have hrun := exec_joinFabric_of_ok (K := K)
        (s := { s with fabrics := s.fabrics.allocateIndex.2 }) request hawaited.live hinsert
      rw [orElse_ok, exec_bind_ok (exec_ofResult _ _)]
      refine .inr ⟨armed, pending, fabric, fabrics, hawaited, hadmissible.session,
        hadmissible.forAdding, hkey, hunused, happended, ?_⟩
      rw [show Fabric.new (certified x c).toKeyDerivation fabric.index _ _ _ _ = .ok fabric from hnew]
      exact hrun

/-- An edit of the first match is an edit at its place. -/
lemma modifyFirst_of_find? {α : Type} {p : α → Bool} {f : α → α} {l : List α} {a : α}
    (h : l.find? p = some a) :
    ∃ front rest, l = front ++ a :: rest ∧ modifyFirst p f l = front ++ f a :: rest := by
  induction l with
  | nil => cases h
  | cons b l ih =>
    by_cases hb : p b = true
    · rw [List.find?_cons_of_pos hb] at h
      obtain rfl := Option.some.inj h
      exact ⟨[], l, rfl, by rw [modifyFirst, if_pos hb]; rfl⟩
    · rw [List.find?_cons_of_neg hb] at h
      obtain ⟨front, rest, rfl, hmodified⟩ := ih h
      exact ⟨b :: front, rest, rfl, by rw [modifyFirst, if_neg hb, hmodified]; rfl⟩

/-- One fabric has come into the table, under an index that was free. -/
def AddsUnder (key : KeyHandle) (before after : FabricTable N) : Prop :=
  ∃ fabric, fabric.operationalKey = key ∧ ¬ before.InUse fabric.index ∧
    after.fabrics.toList = before.fabrics.toList ++ [fabric]

/-- One fabric of the table has changed, and is still the same fabric. -/
def ChangesUnder (key : KeyHandle) (before after : FabricTable N) : Prop :=
  ∃ front earlier fabric rest, before.fabrics.toList = front ++ earlier :: rest ∧
    after.fabrics.toList = front ++ fabric :: rest ∧ after.lastIndex = before.lastIndex ∧
    fabric.index = earlier.index ∧ fabric.fabricId = earlier.fabricId ∧
    fabric.rootPublicKey = earlier.rootPublicKey ∧ fabric.operationalKey = key

lemma checkUpdateNoc_session {noc : List UInt8} {existing : Fabric}
    (h : checkUpdateNoc c s noc icac ctx = .ok (pending, existing, identity, credentials)) :
    pending.session = ctx.session ∧ pending.forUpdate = true := by
  simp only [checkUpdateNoc, bind_eq_ok, mapError_eq_ok, okOr_eq_ok, ensure_eq_ok, pure_eq_ok] at h
  obtain ⟨_, -, -, -, -, -, pending', hpending, -, hfor, _, -, _, -, _, -, -, -, _, -, hresult⟩ := h
  obtain ⟨rfl, -⟩ := Prod.mk.inj (Except.ok.inj hresult)
  exact ⟨pendingOf_session hpending, hfor⟩

/-- An `UpdateNOC` that is refused has changed nothing; one that is accepted has changed one fabric,
to the key that waited on its session. -/
lemma updateNoc_atomic (c : CredentialCrypto K) (store : KeyStore K) (s : CommissioningNode N K)
    (ctx : InteractionContext) (noc : List UInt8) (icac : Option (List UInt8)) :
    (∃ answer, answer ≠ .ok .ok ∧ exec (updateNoc c store noc icac ctx) s = (answer, s)) ∨
    ∃ pending, s.pendingCsr = some pending ∧ pending.session = ctx.session ∧
      pending.forUpdate = true ∧ (exec (updateNoc c store noc icac ctx) s).1 = .ok .ok ∧
      ChangesUnder pending.key s.fabrics (exec (updateNoc c store noc icac ctx) s).2.fabrics := by
  cases hcheck : checkUpdateNoc c s noc icac ctx with
  | error refusal =>
    exact .inl ⟨_, Refusal.answer_ne_ok (checkUpdateNoc_raises noc icac _ hcheck),
      exec_updateNoc_of_error hcheck⟩
  | ok found =>
    obtain ⟨pending, existing, identity, credentials⟩ := found
    obtain ⟨armed, hawaited, -, hfind⟩ := checkUpdateNoc_ok hcheck
    obtain ⟨hsession, hfor⟩ := checkUpdateNoc_session hcheck
    obtain ⟨front, rest, hbefore, hafter⟩ := modifyFirst_of_find? (f := fun fabric =>
      { fabric with nodeId := identity.nodeId, credentials := credentials, operationalKey := pending.key })
      hfind
    rw [exec_updateNoc_of_ok hcheck hawaited.live]
    exact .inr ⟨pending, hawaited.pending, hsession, hfor, rfl,
      front, existing, _, rest, hbefore, hafter, rfl, rfl, rfl, rfl, rfl⟩

end checks

/-! ## Where the key that waits comes from -/

section runs

variable {N : ℕ} {K : Type} (c : CredentialCrypto K) (store : KeyStore K)

/-- What happens on a device: a credential command, the device letting go of what waits for a NOC
command, or something that the cluster has no part in, which can do anything but write the cluster's
own cell. -/
inductive NodeEvent (N : ℕ) (K : Type)
  | credential (op : CredentialOp)
  | discardPending
  | elsewhere (f : CommissioningNode N K → CommissioningNode N K)

/-- Source: `OperationalCredentials::run` and `OperationalCredentials::discard_pending`; the cell
`pending_csr` is private. -/
def NodeEvent.apply (s : CommissioningNode N K) : NodeEvent N K → CommissioningNode N K
  | .credential op => runCredential c store s op
  | .discardPending => OperationalCredentials.discardPending store s
  | .elsewhere f => { f s with pendingCsr := s.pendingCsr }

/-- A run from a node. -/
def runEvents (node : CommissioningNode N K) (events : List (NodeEvent N K)) : CommissioningNode N K :=
  events.foldl (NodeEvent.apply c store) node

/-- The command is a `CSRRequest` that succeeds on the session of the record and generates its key. -/
def Generates (s : CommissioningNode N K) (op : CredentialOp) (pending : PendingCsr) : Prop :=
  ∃ nonce random signed, op.command = .csrRequest nonce pending.forUpdate ∧ op.random = .ok random ∧
    op.ctx.session = pending.session ∧
    (store.generate (dropPendingKey store (reap store op.ctx.now s)).keys .operational random).1 =
      .ok (pending.key, pending.publicKey) ∧
    (exec (csrResponse c store nonce pending.forUpdate op.ctx random) (reap store op.ctx.now s)).1 =
      .ok signed

/-- Some `CSRRequest` of the run has generated the key. -/
def Generated (node : CommissioningNode N K) (events : List (NodeEvent N K)) (pending : PendingCsr) :
    Prop :=
  ∃ before op after, events = before ++ .credential op :: after ∧
    Generates c store (runEvents c store node before) op pending

variable {c store} {s : CommissioningNode N K} {pending : PendingCsr}

/-- A command other than a `CSRRequest` leaves the pending key, or nothing is left of it. -/
lemma pendingCsr_of_effect {command : CredentialCommand} {ctx : InteractionContext}
    {s' : CommissioningNode N K} (h : Effect c store ctx s command s')
    (hother : ∀ nonce forUpdate, command ≠ .csrRequest nonce forUpdate) :
    s'.pendingCsr = s.pendingCsr ∨ s'.pendingCsr = none := by
  cases h with
  | nothing => exact .inl rfl
  | keyed random hlive hadded hupdated => exact absurd rfl (hother _ _)
  | awaiting random key publicKey hlive hadded hupdated hgenerated => exact absurd rfl (hother _ _)
  | rooted hlive | allocated hkept => exact .inl rfl
  | joined hawaited hkey hunused happended | rotated hcheck hawaited => exact .inr rfl
  | relabelled hkept | stated hkept | removed hremoved => exact .inl rfl

lemma pendingCsr_reap {now : Instant} (h : (reap store now s).pendingCsr = some pending) :
    s.pendingCsr = some pending := by
  obtain ⟨hsame, -⟩ | ⟨hnone, -⟩ := reap_pending store s now
  · rwa [← hsame]
  · rw [hnone] at h
    cases h

/-- After a command the pending key is the one from before, or the command has generated it. -/
lemma pendingCsr_runCredential {op : CredentialOp}
    (h : (runCredential c store s op).pendingCsr = some pending) :
    s.pendingCsr = some pending ∨ Generates c store s op pending := by
  obtain ⟨command, ctx, random⟩ := op
  by_cases hcsr : ∃ nonce forUpdate, command = .csrRequest nonce forUpdate
  · obtain ⟨nonce, forUpdate, rfl⟩ := hcsr
    rw [runCredential] at h
    dsimp only at h
    cases random with
    | error e => exact .inl (pendingCsr_reap h)
    | ok random =>
      rw [perform, orElse_ok, exec_bind_ok (exec_ofResult _ _), exec_bind_snd fun _ _ => rfl] at h
      have hkeyed : (keyed store (reap store ctx.now s) random).pendingCsr = none :=
        pendingCsr_dropPendingKey
      obtain ⟨status, -, hrun⟩ | ⟨challenge, armed, -, -, -, -, hcase⟩ :=
        csrResponse_cases c store (reap store ctx.now s) nonce forUpdate ctx random
      · rw [hrun] at h
        exact .inl (pendingCsr_reap h)
      · obtain ⟨e, -, hrun⟩ | ⟨key, publicKey, hgenerated, ⟨e, -, hrun⟩ | ⟨signed, -, hrun⟩⟩ := hcase
        · rw [hrun, hkeyed] at h
          cases h
        · rw [hrun, hkeyed] at h
          cases h
        · rw [hrun] at h
          obtain rfl := Option.some.inj h
          exact .inr ⟨nonce, random, signed, rfl, rfl, rfl, hgenerated, congrArg Prod.fst hrun⟩
  · have hother : ∀ nonce forUpdate, command ≠ .csrRequest nonce forUpdate :=
      fun nonce forUpdate heq => hcsr ⟨nonce, forUpdate, heq⟩
    obtain hsame | hnone := pendingCsr_of_effect
      (perform_effect c store command ctx random (reap store ctx.now s)) hother
    · exact .inl (pendingCsr_reap (hsame.symm.trans h))
    · rw [runCredential] at h
      cases hnone.symm.trans h

lemma pendingCsr_apply {event : NodeEvent N K} (h : (event.apply c store s).pendingCsr = some pending) :
    s.pendingCsr = some pending ∨ ∃ op, event = .credential op ∧ Generates c store s op pending := by
  cases event with
  | credential op =>
    obtain hsame | hgenerates := pendingCsr_runCredential h
    · exact .inl hsame
    · exact .inr ⟨op, rfl, hgenerates⟩
  | discardPending =>
    rw [NodeEvent.apply, OperationalCredentials.discardPending, pendingCsr_dropPendingKey] at h
    cases h
  | elsewhere f => exact .inl h

/-- The key that waits at the end of a run was generated in it, on the session it is recorded for. -/
theorem pending_generated {node : CommissioningNode N K} (hnone : node.pendingCsr = none)
    {events : List (NodeEvent N K)} (h : (runEvents c store node events).pendingCsr = some pending) :
    Generated c store node events pending := by
  induction events using List.reverseRecOn with
  | nil =>
    rw [show runEvents c store node [] = node from rfl, hnone] at h
    cases h
  | append_singleton events event ih =>
    rw [runEvents, List.foldl_append] at h
    obtain hsame | ⟨op, rfl, hgenerates⟩ := pendingCsr_apply h
    · obtain ⟨before, op, after, hsplit, hgenerates⟩ := ih hsame
      refine ⟨before, op, after ++ [event], ?_, hgenerates⟩
      rw [hsplit, List.append_assoc, List.cons_append]
    · exact ⟨events, op, [], rfl, hgenerates⟩

/-- A NOC command that is refused leaves the node exactly as it was, in whatever state that is. One that
is accepted, after any run of the device, adds or changes one fabric, under the key that a `CSRRequest`
of the run has generated on the same session. -/
theorem noc_commands_atomic (x : Cert.Signing) (c : CredentialCrypto K) (store : KeyStore K)
    (hkdf : c.toKeyDerivation.Expands) (ctx : InteractionContext) (request : AddNocRequest)
    (noc : List UInt8) (icac : Option (List UInt8)) :
    (∀ s : CommissioningNode N K,
      ((exec (addNoc (certified x c) request ctx) s).1 ≠ .ok .ok →
        (exec (addNoc (certified x c) request ctx) s).2 = s) ∧
      ((exec (updateNoc (certified x c) store noc icac ctx) s).1 ≠ .ok .ok →
        (exec (updateNoc (certified x c) store noc icac ctx) s).2 = s)) ∧
    ∀ (node : CommissioningNode N K) (events : List (NodeEvent N K)), node.pendingCsr = none →
      let s := reap store ctx.now (runEvents (certified x c) store node events)
      ((exec (addNoc (certified x c) request ctx) s).1 = .ok .ok →
        ∃ pending, Generated (certified x c) store node events pending ∧
          pending.session = ctx.session ∧ pending.forUpdate = false ∧
          AddsUnder pending.key s.fabrics (exec (addNoc (certified x c) request ctx) s).2.fabrics) ∧
      ((exec (updateNoc (certified x c) store noc icac ctx) s).1 = .ok .ok →
        ∃ pending, Generated (certified x c) store node events pending ∧
          pending.session = ctx.session ∧ pending.forUpdate = true ∧
          ChangesUnder pending.key s.fabrics
            (exec (updateNoc (certified x c) store noc icac ctx) s).2.fabrics) := by
  refine ⟨fun s => ⟨fun hrefused => ?_, fun hrefused => ?_⟩, ?_⟩
  · obtain ⟨answer, -, hrun⟩ | ⟨_, _, _, _, -, -, -, -, -, -, hrun⟩ :=
      addNoc_atomic x hkdf s ctx request
    · rw [hrun]
    · exact absurd (congrArg Prod.fst hrun) hrefused
  · obtain ⟨answer, -, hrun⟩ | ⟨_, -, -, -, hok, -⟩ :=
      updateNoc_atomic (certified x c) store s ctx noc icac
    · rw [hrun]
    · exact absurd hok hrefused
  · intro node events hnone s
    refine ⟨fun hok => ?_, fun hok => ?_⟩
    · obtain ⟨answer, hne, hrun⟩ | ⟨armed, pending, fabric, fabrics, hawaited, hsession, hfor, hkey,
        hunused, happended, hrun⟩ := addNoc_atomic x hkdf s ctx request
      · exact absurd ((congrArg Prod.fst hrun).symm.trans hok) hne
      · refine ⟨pending, pending_generated hnone (pendingCsr_reap hawaited.pending), hsession, hfor,
          fabric, hkey, hunused, ?_⟩
        rw [hrun]
        exact happended
    · obtain ⟨answer, hne, hrun⟩ | ⟨pending, hpending, hsession, hfor, -, hchanges⟩ :=
        updateNoc_atomic (certified x c) store s ctx noc icac
      · exact absurd ((congrArg Prod.fst hrun).symm.trans hok) hne
      · exact ⟨pending, pending_generated hnone (pendingCsr_reap hpending), hsession, hfor, hchanges⟩

end runs

end OperationalCredentials

namespace Sample

/-- Signatures that are all right. -/
def signing : Cert.Signing where
  tbsCertificate _ := .ok []
  verify _ _ _ := .ok true

/-- A certificate that a root with the number 1 has issued. -/
def certificate (subject key extensions : List UInt8) : List UInt8 :=
  [0x15, 0x30, 1, 1, 1, 0x24, 2, 1, 0x37, 3, 0x24, 20, 1, 0x18, 0x24, 4, 0, 0x24, 5, 0, 0x37, 6] ++
    subject ++ [0x18, 0x24, 7, 1, 0x24, 8, 1, 0x30, 9, 65] ++ key ++ [0x37, 10] ++ extensions ++
    [0x30, 4, 20] ++ List.replicate 20 1 ++ [0x30, 5, 20] ++ List.replicate 20 1 ++
    [0x18, 0x30, 11, 64] ++ List.replicate 64 0 ++ [0x18]

/-- The certificate of that root. -/
def rcac : List UInt8 :=
  certificate [0x24, 20, 1] (List.replicate 65 9) [0x35, 1, 0x29, 1, 0x18, 0x24, 2, 0x60]

/-- The certificate of node 1 of fabric 7, for the key the sample store generates next. -/
def noc : List UInt8 :=
  certificate [0x24, 17, 1, 0x24, 21, 7] (List.replicate 65 3)
    [0x35, 1, 0x28, 1, 0x18, 0x24, 2, 1, 0x36, 3, 0x04, 1, 0x04, 2, 0x18]

/-- A commissioner arms the fail-safe, asks for a key and brings its root. -/
def preparing : List (NodeEvent 5 Keys) :=
  [.elsewhere fun s => (GeneralCommissioning.armFailSafe s 60 0 (on 1 none 1)).2,
   .credential ⟨.csrRequest (.replicate 32 0) false, on 1 none 2, .ok []⟩,
   .credential ⟨.addTrustedRoot rcac, on 1 none 3, .ok []⟩]

/-- The device after that. -/
def prepared : CommissioningNode 5 Keys :=
  reap keyStore (on 1 none 4).now (runEvents (certified signing crypto) keyStore onTwoFabrics preparing)

/-- An `AddNOC` for that certificate. -/
def joiningRequest : AddNocRequest := ⟨noc, none, .replicate 16 0, 1, ⟨0xFFF1⟩⟩

end Sample

open Sample in
/-- The commissioner's `AddNOC` is accepted, and the fabric it adds has the key it asked for. -/
theorem noc_commands_atomic_joining :
    (exec (addNoc (certified signing crypto) joiningRequest (on 1 none 4)) prepared).1 = .ok .ok ∧
      ∃ pending, Generated (certified signing crypto) keyStore onTwoFabrics preparing pending ∧
        pending.session = (on 1 none 4).session ∧ pending.forUpdate = false ∧
        AddsUnder pending.key prepared.fabrics
          (exec (addNoc (certified signing crypto) joiningRequest (on 1 none 4)) prepared).2.fabrics := by
  have hkdf : crypto.toKeyDerivation.Expands := fun _ salt _ _ _ => ⟨salt, rfl⟩
  have hanswer : (exec (addNoc (certified signing crypto) joiningRequest (on 1 none 4)) prepared).1 =
      .ok .ok := by decide +kernel
  have hatomic := (noc_commands_atomic signing crypto keyStore hkdf (on 1 none 4) joiningRequest []
    none).2 onTwoFabrics preparing rfl
  rw [← prepared] at hatomic
  exact ⟨hanswer, hatomic.1 hanswer⟩

end Clusters

end MatterKit
