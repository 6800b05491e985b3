import MatterKit.Clusters.Contexts

/-!
# Undoing a fail-safe context

A context is armed, some of `CSRRequest`, `AddTrustedRootCertificate`, `AddNOC` and `UpdateNOC` run in
it, and it expires. The device then applies the cleanup: it removes the named fabric, gives the named
fabric its earlier record back, and lets go of the pending key.

Within one context at most one NOC command is accepted, so a context is in one of three phases
(`Phase`). After an `UpdateNOC` the earlier key of a fabric has been destroyed, and no rollback can
bring it back: the context is undone exactly when no `UpdateNOC` was accepted in it (`rolls_back_iff`).
-/

namespace MatterKit

open Lib

/-! ## Custody of keys -/

section custody

variable {K : Type}

/-- The key is in the store. -/
def KeyStore.Holds (store : KeyStore K) (keys : K) (key : KeyHandle) : Prop :=
  (store.publicKey keys key).isOk = true

instance (store : KeyStore K) (keys : K) (key : KeyHandle) : Decidable (store.Holds keys key) :=
  inferInstanceAs (Decidable (_ = true))

/-- What a key store promises: a generated key has a handle of its own, a key stays until it is removed,
and a key that is removed is gone.
Source: `crypto/mod.rs`, `KeyStore::generate` and `KeyStore::remove`. -/
structure KeyStore.Lawful (store : KeyStore K) : Prop where
  generated : ∀ keys purpose random key publicKey,
    (store.generate keys purpose random).1 = .ok (key, publicKey) →
      ¬ store.Holds keys key ∧ store.Holds (store.generate keys purpose random).2 key
  kept_generate : ∀ keys purpose random key, store.Holds keys key →
    store.Holds (store.generate keys purpose random).2 key
  kept_remove : ∀ keys key other, other ≠ key → store.Holds keys other →
    store.Holds (store.remove keys key).2 other
  removed : ∀ keys key, ¬ store.Holds (store.remove keys key).2 key

end custody

namespace Clusters

open Machine Dm Im Commissioning OperationalCredentials

section rollback

variable {N : ℕ} {K : Type} (c : CredentialCrypto K) (store : KeyStore K)

/-! ## The commands of a context, and the device after it -/

/-- A credential command as it arrives. -/
structure CredentialOp where
  command : CredentialCommand
  ctx : InteractionContext
  random : Except ErrorCode (List UInt8)

/-- A command runs.
Source: `OperationalCredentials::run`, once the fields are read. -/
def runCredential (s : CommissioningNode N K) (op : CredentialOp) : CommissioningNode N K :=
  (exec (OperationalCredentials.perform c store op.command op.ctx op.random) (reap store op.ctx.now s)).2

/-- The commands that a fail-safe context protects. -/
def isProtected : CredentialCommand → Bool
  | .csrRequest _ _ | .addTrustedRoot _ | .addNoc _ | .updateNoc _ _ => true
  | _ => false

/-- The named fabric is removed, as `RemoveFabric` does it. -/
def removeNamed (index : Option FabricIndex) (s : CommissioningNode N K) : CommissioningNode N K :=
  match index with
  | none => s
  | some index => (exec (removeFabric store index {}) s).2

/-- The named fabric gets its earlier record back. -/
def revertNamed (earlier : FabricTable N) (index : Option FabricIndex) (s : CommissioningNode N K) :
    CommissioningNode N K :=
  match index with
  | none => s
  | some index =>
    { s with fabrics := s.fabrics.update index fun f => (earlier.find index).getD f }

/-- What the device does with a cleanup, where `earlier` is what it keeps of the table before the
context.
Source: `examples/light.rs`, `Aftermath::Rollback`, and `commissioning/failsafe.rs`, `Cleanup`. -/
def rollback (earlier : FabricTable N) (cleanup : Cleanup) (s : CommissioningNode N K) :
    CommissioningNode N K :=
  discardPending store (revertNamed earlier cleanup.revertNocFor (removeNamed store cleanup.removeFabric s))

/-- The command is an `UpdateNOC` that passes its checks. -/
def passesUpdate (s : CommissioningNode N K) (command : CredentialCommand) (ctx : InteractionContext) :
    Bool :=
  match command with
  | .updateNoc noc icac => (checkUpdateNoc c s noc icac ctx).isOk
  | _ => false

/-- The command, when it runs, is an `UpdateNOC` that is accepted. -/
def rotates (s : CommissioningNode N K) (op : CredentialOp) : Bool :=
  passesUpdate c (reap store op.ctx.now s) op.command op.ctx

/-- The operational keys of the fabrics are in the store, no two fabrics share an index or a key, and
the key that waits for a NOC command is in the store and belongs to none of them. -/
structure Sound (s : CommissioningNode N K) : Prop where
  indices : KeysUnique Fabric.index s.fabrics.fabrics.toList
  keys : KeysUnique Fabric.operationalKey s.fabrics.fabrics.toList
  held : ∀ f ∈ s.fabrics.fabrics.toList, store.Holds s.keys f.operationalKey
  pending : ∀ pending, s.pendingCsr = some pending → store.Holds s.keys pending.key ∧
    ∀ f ∈ s.fabrics.fabrics.toList, f.operationalKey ≠ pending.key

/-! ## The phases of a context -/

/-- How far a context has got, with the fabrics there were before it; the last argument says whether an
`UpdateNOC` has been accepted. -/
inductive Phase (earlier : List Fabric) (s : CommissioningNode N K) : Bool → Prop
  | untouched (armed : Armed) (harmed : s.failSafe.armed = some armed)
      (hadded : armed.progress.addedNoc = false) (hupdated : armed.progress.updatedNoc = false)
      (hfabrics : s.fabrics.fabrics.toList = earlier)
      (hheld : ∀ f ∈ earlier, store.Holds s.keys f.operationalKey)
      (hapart : ∀ pending, s.pendingCsr = some pending →
        ∀ f ∈ earlier, f.operationalKey ≠ pending.key) : Phase earlier s false
  | added (armed : Armed) (fabric : Fabric) (harmed : s.failSafe.armed = some armed)
      (hadded : armed.progress.addedNoc = true) (hupdated : armed.progress.updatedNoc = false)
      (hindex : armed.fabricIndex = some fabric.index)
      (hfabrics : s.fabrics.fabrics.toList = earlier ++ [fabric])
      (hnew : ∀ f ∈ earlier, f.index ≠ fabric.index ∧ f.operationalKey ≠ fabric.operationalKey)
      (hheld : ∀ f ∈ earlier, store.Holds s.keys f.operationalKey) (hnone : s.pendingCsr = none) :
      Phase earlier s false
  | rotated (armed : Armed) (harmed : s.failSafe.armed = some armed)
      (hadded : armed.progress.addedNoc = false) (hupdated : armed.progress.updatedNoc = true)
      (hgone : ∃ f ∈ earlier, ¬ store.Holds s.keys f.operationalKey) (hnone : s.pendingCsr = none) :
      Phase earlier s true

section phases

variable {c store} {earlier : List Fabric} {s : CommissioningNode N K} {op : CredentialOp}

/-- Letting go of the pending key leaves the keys that are not it. -/
lemma holds_dropPendingKey (hlaw : store.Lawful) {key : KeyHandle} (hheld : store.Holds s.keys key)
    (hother : ∀ pending, s.pendingCsr = some pending → key ≠ pending.key) :
    store.Holds (dropPendingKey store s).keys key := by
  unfold dropPendingKey
  cases hpending : s.pendingCsr with
  | none => exact hheld
  | some pending => exact hlaw.kept_remove _ _ _ (hother pending hpending) hheld

/-- A key in use stays in the store when another is generated. -/
lemma holds_keyed (hlaw : store.Lawful) {key : KeyHandle} (hheld : store.Holds s.keys key)
    (hother : ∀ pending, s.pendingCsr = some pending → key ≠ pending.key) (random : List UInt8) :
    store.Holds (keyed store s random).keys key :=
  hlaw.kept_generate _ _ _ _ (holds_dropPendingKey hlaw hheld hother)

/-- A generated key is none of those that were kept. -/
lemma ne_generated (hlaw : store.Lawful) {key new : KeyHandle} (hheld : store.Holds s.keys key)
    (hother : ∀ pending, s.pendingCsr = some pending → key ≠ pending.key) {random : List UInt8}
    {publicKey : PublicKey}
    (hgenerate : (store.generate (dropPendingKey store s).keys .operational random).1 =
      .ok (new, publicKey)) : key ≠ new := by
  rintro rfl
  exact (hlaw.generated _ _ _ _ _ hgenerate).1 (holds_dropPendingKey hlaw hheld hother)

lemma pendingCsr_dropPendingKey : (dropPendingKey store s).pendingCsr = none := by
  unfold dropPendingKey
  cases hpending : s.pendingCsr with
  | none => exact hpending
  | some pending => rfl

lemma dropPendingKey_of_none (hnone : s.pendingCsr = none) : dropPendingKey store s = s := by
  unfold dropPendingKey
  rw [hnone]

/-- After reaping the pending key is there as it was, or has been let go of. -/
lemma reap_pending (store : KeyStore K) (s : CommissioningNode N K) (now : Instant) :
    (reap store now s).pendingCsr = s.pendingCsr ∧ (reap store now s).keys = s.keys ∨
      (reap store now s).pendingCsr = none ∧ (reap store now s).keys = (dropPendingKey store s).keys := by
  obtain h | h | h | h := reap_cases store s now
  · rw [h]
    exact .inl ⟨rfl, rfl⟩
  · rw [h]
    exact .inr ⟨pendingCsr_dropPendingKey, rfl⟩
  · rw [h]
    exact .inl ⟨rfl, rfl⟩
  · rw [h]
    exact .inr ⟨pendingCsr_dropPendingKey, rfl⟩

lemma reap_of_none (hnone : s.pendingCsr = none) (now : Instant) :
    (reap store now s).pendingCsr = none ∧ (reap store now s).keys = s.keys := by
  obtain ⟨hpending, hkeys⟩ | ⟨hpending, hkeys⟩ := reap_pending store s now
  · exact ⟨hpending.trans hnone, hkeys⟩
  · exact ⟨hpending, hkeys.trans (by rw [dropPendingKey_of_none hnone])⟩

variable {rotated : Bool} {command : CredentialCommand} {ctx : InteractionContext}
  {s' : CommissioningNode N K} {armed : Armed}

/-- Reaping leaves a context in its phase. -/
lemma Phase.reaped (hlaw : store.Lawful) (h : Phase store earlier s rotated) (now : Instant) :
    Phase store earlier (reap store now s) rotated := by
  cases h with
  | untouched armed harmed hadded hupdated hfabrics hheld hapart =>
    obtain ⟨hpending, hkeys⟩ | ⟨hpending, hkeys⟩ := reap_pending store s now
    · exact .untouched armed (by rwa [reap_failSafe]) hadded hupdated (by rwa [reap_fabrics])
        (by rwa [hkeys]) (by rwa [hpending])
    · refine .untouched armed (by rwa [reap_failSafe]) hadded hupdated (by rwa [reap_fabrics]) ?_ ?_
      · intro f hf
        rw [hkeys]
        exact holds_dropPendingKey hlaw (hheld f hf) fun pending hsome => hapart pending hsome f hf
      · rw [hpending]
        exact nofun
  | added armed fabric harmed hadded hupdated hindex hfabrics hnew hheld hnone =>
    obtain ⟨hpending, hkeys⟩ := reap_of_none hnone now
    exact .added armed fabric (by rwa [reap_failSafe]) hadded hupdated hindex (by rwa [reap_fabrics])
      hnew (by rwa [hkeys]) hpending
  | rotated armed harmed hadded hupdated hgone hnone =>
    obtain ⟨hpending, hkeys⟩ := reap_of_none hnone now
    exact .rotated armed (by rwa [reap_failSafe]) hadded hupdated (by rwa [hkeys]) hpending

/-- A context in which a NOC command has been accepted, of either kind, accepts no other. -/
lemma not_accepted_twice {now : Instant} {armed armed' : Armed} (harmed : s.failSafe.armed = some armed)
    (haccepted : armed.progress.addedNoc = true ∨ armed.progress.updatedNoc = true)
    (hlive : s.failSafe.armedAt now = some armed') (hadded : armed'.progress.addedNoc = false)
    (hupdated : armed'.progress.updatedNoc = false) : False := by
  obtain rfl := Option.some.inj (harmed.symm.trans (FailSafe.armedAt_eq_some_iff.mp hlive).1)
  rcases haccepted with h | h
  · exact Bool.false_ne_true (hadded.symm.trans h)
  · exact Bool.false_ne_true (hupdated.symm.trans h)

/-- The first phase, one command on. -/
lemma Phase.untouched_effect (hlaw : store.Lawful) (harmed : s.failSafe.armed = some armed)
    (hadded : armed.progress.addedNoc = false) (hupdated : armed.progress.updatedNoc = false)
    (hfabrics : s.fabrics.fabrics.toList = earlier)
    (hheld : ∀ f ∈ earlier, store.Holds s.keys f.operationalKey)
    (hapart : ∀ pending, s.pendingCsr = some pending → ∀ f ∈ earlier, f.operationalKey ≠ pending.key)
    (heffect : Effect c store ctx s command s') (hprotected : isProtected command = true)
    (hother : ∀ noc icac, command ≠ .updateNoc noc icac) : Phase store earlier s' false := by
  have hgenerated : ∀ random, ∀ f ∈ earlier, store.Holds (keyed store s random).keys f.operationalKey :=
    fun random f hf => holds_keyed hlaw (hheld f hf) (fun pending hsome => hapart pending hsome f hf) random
  cases heffect with
  | nothing => exact .untouched armed harmed hadded hupdated hfabrics hheld hapart
  | keyed random hlive hadded' hupdated' =>
    refine .untouched armed (by simpa [keyed] using harmed) hadded hupdated
      (by simpa [keyed] using hfabrics) (hgenerated random) ?_
    rw [show (keyed store s random).pendingCsr = none from pendingCsr_dropPendingKey]
    rintro _ ⟨⟩
  | awaiting random key publicKey hlive hadded' hupdated' hgenerate =>
    refine .untouched _ rfl hadded' hupdated' (by simpa [keyed, recorded] using hfabrics)
      (hgenerated random) ?_
    intro pending hpending f hf
    obtain rfl := Option.some.inj hpending
    exact ne_generated hlaw (hheld f hf) (fun pending hsome => hapart pending hsome f hf) hgenerate
  | rooted hlive =>
    obtain rfl := Option.some.inj (harmed.symm.trans (FailSafe.armedAt_eq_some_iff.mp hlive).1)
    exact .untouched _ rfl hadded hupdated hfabrics hheld hapart
  | allocated hkept =>
    exact .untouched armed harmed hadded hupdated (by rw [hkept]; exact hfabrics) hheld hapart
  | joined hawaited hkey hunused happended =>
    refine .added _ _ rfl rfl hawaited.notUpdated rfl (by rw [← hfabrics]; exact happended) ?_ hheld rfl
    intro f hf
    refine ⟨fun hsame => hunused ⟨f, hfabrics ▸ hf, hsame⟩, ?_⟩
    rw [hkey]
    exact hapart _ hawaited.pending f hf
  | rotated hcheck hawaited => exact absurd rfl (hother _ _)
  | relabelled hkept | stated hkept | removed hremoved => cases hprotected

/-- Once a NOC command has been accepted, only the pending root and the fail-safe's record of it move. -/
lemma effect_of_accepted (harmed : s.failSafe.armed = some armed)
    (haccepted : armed.progress.addedNoc = true ∨ armed.progress.updatedNoc = true)
    (heffect : Effect c store ctx s command s') (hprotected : isProtected command = true) :
    s'.fabrics.fabrics = s.fabrics.fabrics ∧ s'.keys = s.keys ∧ s'.pendingCsr = s.pendingCsr ∧
      ∃ armed', s'.failSafe.armed = some armed' ∧ ContextHistory.SameNames armed armed' := by
  cases heffect with
  | nothing => exact ⟨rfl, rfl, rfl, armed, harmed, rfl, rfl, rfl⟩
  | keyed random hlive hadded hupdated | awaiting random key publicKey hlive hadded hupdated hgenerate =>
    exact (not_accepted_twice harmed haccepted hlive hadded hupdated).elim
  | rooted hlive =>
    obtain rfl := Option.some.inj (harmed.symm.trans (FailSafe.armedAt_eq_some_iff.mp hlive).1)
    exact ⟨rfl, rfl, rfl, _, rfl, rfl, rfl, rfl⟩
  | allocated hkept => exact ⟨hkept, rfl, rfl, armed, harmed, rfl, rfl, rfl⟩
  | joined hawaited hkey hunused happended | rotated hcheck hawaited =>
    exact (not_accepted_twice harmed haccepted hawaited.live hawaited.notAdded hawaited.notUpdated).elim
  | relabelled hkept | stated hkept | removed hremoved => cases hprotected

lemma passesUpdate_of_ne (h : ∀ noc icac, command ≠ .updateNoc noc icac) :
    passesUpdate c s command ctx = false := by
  cases command with
  | updateNoc noc icac => exact absurd rfl (h noc icac)
  | _ => rfl

/-- An `UpdateNOC` that passes its checks finds a context in which nothing has been accepted. -/
lemma passesUpdate_of_accepted (harmed : s.failSafe.armed = some armed)
    (haccepted : armed.progress.addedNoc = true ∨ armed.progress.updatedNoc = true) :
    passesUpdate c s command ctx = false := by
  cases command with
  | updateNoc noc icac =>
    rw [passesUpdate]
    cases hcheck : checkUpdateNoc c s noc icac ctx with
    | error refusal => rfl
    | ok found =>
      obtain ⟨pending, existing, identity, credentials⟩ := found
      obtain ⟨armed', hawaited, -⟩ := checkUpdateNoc_ok hcheck
      exact (not_accepted_twice harmed haccepted hawaited.live hawaited.notAdded
        hawaited.notUpdated).elim
  | _ => rfl

/-- An `UpdateNOC` in the first phase. -/
lemma Phase.untouched_updateNoc (hlaw : store.Lawful) {noc : List UInt8}
    {icac : Option (List UInt8)} (harmed : s.failSafe.armed = some armed)
    (hadded : armed.progress.addedNoc = false) (hupdated : armed.progress.updatedNoc = false)
    (hfabrics : s.fabrics.fabrics.toList = earlier)
    (hheld : ∀ f ∈ earlier, store.Holds s.keys f.operationalKey)
    (hapart : ∀ pending, s.pendingCsr = some pending → ∀ f ∈ earlier, f.operationalKey ≠ pending.key) :
    Phase store earlier (exec (updateNoc c store noc icac ctx) s).2
      (checkUpdateNoc c s noc icac ctx).isOk := by
  cases hcheck : checkUpdateNoc c s noc icac ctx with
  | error refusal =>
    rw [exec_updateNoc_of_error hcheck]
    exact .untouched armed harmed hadded hupdated hfabrics hheld hapart
  | ok found =>
    obtain ⟨pending, existing, identity, credentials⟩ := found
    obtain ⟨armed', hawaited, -, hfind⟩ := checkUpdateNoc_ok hcheck
    rw [exec_updateNoc_of_ok hcheck hawaited.live]
    have hmem : existing ∈ earlier := hfabrics ▸ List.mem_of_find?_eq_some hfind
    exact .rotated _ rfl hawaited.notAdded rfl ⟨existing, hmem, hlaw.removed _ _⟩ rfl

/-- One command of a context, once the node has been reaped. -/
lemma Phase.perform (hlaw : store.Lawful) (random : Except ErrorCode (List UInt8))
    (h : Phase store earlier s rotated) (hprotected : isProtected command = true) :
    Phase store earlier (exec (OperationalCredentials.perform c store command ctx random) s).2
      (rotated || passesUpdate c s command ctx) := by
  have heffect := perform_effect c store command ctx random s
  cases h with
  | untouched armed harmed hadded hupdated hfabrics hheld hapart =>
    rw [Bool.false_or]
    by_cases hother : ∀ noc icac, command ≠ .updateNoc noc icac
    · rw [passesUpdate_of_ne hother]
      exact untouched_effect hlaw harmed hadded hupdated hfabrics hheld hapart heffect hprotected hother
    · push Not at hother
      obtain ⟨noc, icac, rfl⟩ := hother
      rw [OperationalCredentials.perform, exec_bind_snd fun _ _ => rfl]
      exact untouched_updateNoc hlaw harmed hadded hupdated hfabrics hheld hapart
  | added armed fabric harmed hadded hupdated hindex hfabrics hnew hheld hnone =>
    obtain ⟨hkept, hkeys, hpending, armed', harmed', hadded', hupdated', hindex'⟩ :=
      effect_of_accepted harmed (.inl hadded) heffect hprotected
    rw [passesUpdate_of_accepted harmed (.inl hadded)]
    exact .added armed' fabric harmed' (hadded'.symm.trans hadded) (hupdated'.symm.trans hupdated)
      (hindex'.symm.trans hindex) (by rw [hkept, hfabrics]) hnew (by rwa [hkeys])
      (hpending.trans hnone)
  | rotated armed harmed hadded hupdated hgone hnone =>
    obtain ⟨-, hkeys, hpending, armed', harmed', hadded', hupdated', -⟩ :=
      effect_of_accepted harmed (.inr hupdated) heffect hprotected
    exact .rotated armed' harmed' (hadded'.symm.trans hadded) (hupdated'.symm.trans hupdated)
      (by rwa [hkeys]) (hpending.trans hnone)

/-- One command of a context. -/
lemma Phase.step (hlaw : store.Lawful) {rotated : Bool} (h : Phase store earlier s rotated)
    (hprotected : isProtected op.command = true) :
    Phase store earlier (runCredential c store s op) (rotated || rotates c store s op) :=
  (h.reaped hlaw op.ctx.now).perform hlaw op.random hprotected

/-- The commands of a context: it ends in a phase that says whether an `UpdateNOC` was accepted. -/
lemma Phase.run (hlaw : store.Lawful) {ops : List CredentialOp}
    (hprotected : ∀ op ∈ ops, isProtected op.command = true) (h : Phase store earlier s false) :
    ∃ rotated, Phase store earlier (ops.foldl (runCredential c store) s) rotated ∧ (rotated = false ↔
        Throughout (runCredential c store) (fun s op => rotates c store s op = false) s ops) := by
  induction ops generalizing s with
  | nil => exact ⟨false, h, iff_of_true rfl trivial⟩
  | cons op ops ih =>
    obtain ⟨hop, hops⟩ := List.forall_mem_cons.mp hprotected
    have hstep := h.step (c := c) hlaw hop
    rw [Bool.false_or] at hstep
    cases hrotates : rotates c store s op with
    | false =>
      rw [hrotates] at hstep
      obtain ⟨rotated, hphase, hiff⟩ := ih hops hstep
      exact ⟨rotated, hphase, hiff.trans ⟨fun hrest => ⟨hrotates, hrest⟩, And.right⟩⟩
    | true =>
      rw [hrotates] at hstep
      have hrest : Phase store earlier (ops.foldl (runCredential c store) (runCredential c store s op))
          true :=
        foldl_invariant (W := fun op => isProtected op.command = true)
          (I := fun s => Phase store earlier s true)
          (fun s op hop hs => by simpa using hs.step (c := c) hlaw hop) hops hstep
      refine ⟨true, hrest, iff_of_false nofun fun hall => ?_⟩
      exact nomatch hrotates.symm.trans hall.1

end phases

/-! ## The rollback -/

/-- The fabrics are those from before, and their keys are in the store. -/
def Restored (before after : CommissioningNode N K) : Prop :=
  after.fabrics.fabrics.toList = before.fabrics.fabrics.toList ∧
    ∀ f ∈ before.fabrics.fabrics.toList, store.Holds after.keys f.operationalKey

instance (before after : CommissioningNode N K) : Decidable (Restored store before after) :=
  inferInstanceAs (Decidable (_ ∧ _))

section restored

variable {c store} {s s' : CommissioningNode N K} {command : CredentialCommand} {ctx : InteractionContext}

/-- Once the context has ended, what is left is decided by the phase it had got to. -/
lemma restored_iff (hlaw : store.Lawful) {before : CommissioningNode N K} {armed : Armed}
    {failSafe : FailSafe} {rotated : Bool} (harmed : s.failSafe.armed = some armed)
    (h : Phase store before.fabrics.fabrics.toList s rotated) :
    Restored store before (rollback store before.fabrics (armed.progress.cleanup armed.fabricIndex)
      { s with failSafe := failSafe }) ↔ rotated = false := by
  cases h with
  | untouched armed' harmed' hadded hupdated hfabrics hheld hapart =>
    obtain rfl := Option.some.inj (harmed.symm.trans harmed')
    refine iff_of_true ?_ rfl
    simp only [rollback, Progress.cleanup, hadded, hupdated, Bool.false_eq_true, if_false, removeNamed,
      revertNamed, discardPending]
    refine ⟨by rwa [dropPendingKey_fabrics], fun f hf => ?_⟩
    exact holds_dropPendingKey hlaw (hheld f hf) fun pending hsome => hapart pending hsome f hf
  | added armed' fabric harmed' hadded hupdated hindex hfabrics hnew hheld hnone =>
    obtain rfl := Option.some.inj (harmed.symm.trans harmed')
    refine iff_of_true ?_ rfl
    obtain ⟨fabrics, hremove, hrest⟩ := FabricTable.remove_of_last hfabrics fun f hf => (hnew f hf).1
    have hremoved : exec (removeFabric store fabric.index {}) { s with failSafe := failSafe } =
        (.ok .ok,
          { s with
            failSafe := failSafe
            fabrics := fabrics
            keys := (store.remove s.keys fabric.operationalKey).2
            change := some (.removed fabric.index fabrics.isEmpty false) }) := by
      rw [removeFabric, exec_get_bind]
      simp only [hremove]
      rfl
    simp only [rollback, Progress.cleanup, hadded, hupdated, Bool.false_eq_true, if_false, if_true,
      hindex, removeNamed, revertNamed, hremoved, discardPending]
    rw [dropPendingKey_of_none]
    · exact ⟨hrest, fun f hf => hlaw.kept_remove _ _ _ (hnew f hf).2 (hheld f hf)⟩
    · exact hnone
  | rotated armed' harmed' hadded hupdated hgone hnone =>
    obtain rfl := Option.some.inj (harmed.symm.trans harmed')
    refine iff_of_false ?_ (by simp)
    rintro ⟨-, hheld⟩
    obtain ⟨f, hf, hlost⟩ := hgone
    refine hlost ?_
    have hkeys : (rollback store before.fabrics (armed.progress.cleanup armed.fabricIndex)
        { s with failSafe := failSafe }).keys = s.keys := by
      simp only [rollback, Progress.cleanup, hadded, hupdated, Bool.false_eq_true, if_false, if_true,
        removeNamed]
      rw [discardPending, dropPendingKey_of_none]
      · cases armed.fabricIndex <;> rfl
      · cases armed.fabricIndex
        · exact hnone
        · exact hnone
    rw [← hkeys]
    exact hheld f hf

/-! ## Sound nodes -/

/-- A node on no fabric, with no key waiting, is sound. -/
lemma Sound.new (hfabrics : s.fabrics.fabrics.toList = []) (hnone : s.pendingCsr = none) :
    Sound store s where
  indices := by rw [hfabrics]; exact .nil
  keys := by rw [hfabrics]; exact .nil
  held f hf := by rw [hfabrics] at hf; cases hf
  pending _ hsome := nomatch hnone.symm.trans hsome

/-- A change of what a node has in its store, while the fabrics keep their indices and keys. -/
lemma Sound.of_heading (h : Sound store s)
    (hkept : s'.fabrics.fabrics.toList.map heading = s.fabrics.fabrics.toList.map heading)
    (hheld : ∀ f ∈ s.fabrics.fabrics.toList, store.Holds s'.keys f.operationalKey)
    (hpending : ∀ pending, s'.pendingCsr = some pending → store.Holds s'.keys pending.key ∧
      ∀ f ∈ s.fabrics.fabrics.toList, f.operationalKey ≠ pending.key) : Sound store s' := by
  have hback : ∀ f ∈ s'.fabrics.fabrics.toList, ∃ g ∈ s.fabrics.fabrics.toList,
      g.operationalKey = f.operationalKey := by
    intro f hf
    have hmem := List.mem_map_of_mem (f := heading) hf
    rw [hkept] at hmem
    obtain ⟨g, hg, hsame⟩ := List.mem_map.mp hmem
    exact ⟨g, hg, congrArg Prod.snd hsame⟩
  refine ⟨?_, ?_, fun f hf => ?_, fun pending hsome => ⟨(hpending pending hsome).1, fun f hf => ?_⟩⟩
  · rw [KeysUnique, map_index_of_heading hkept]
    exact h.indices
  · have hkeys := congrArg (List.map Prod.snd) hkept
    rw [List.map_map, List.map_map] at hkeys
    exact (congrArg List.Nodup hkeys).mpr h.keys
  · obtain ⟨g, hg, hsame⟩ := hback f hf
    exact hsame ▸ hheld g hg
  · obtain ⟨g, hg, hsame⟩ := hback f hf
    exact hsame ▸ (hpending pending hsome).2 g hg

/-- An `UpdateNOC` puts the key that waited in the place of one of the fabrics' keys. -/
lemma Sound.rotated (hlaw : store.Lawful) (h : Sound store s) {pending : PendingCsr} {existing : Fabric}
    (hpending : s.pendingCsr = some pending) (hmem : existing ∈ s.fabrics.fabrics.toList)
    (armed : Armed) (identity : ChainIdentity) (credentials : Credentials) :
    Sound store (rotated store s armed existing identity credentials pending.key) := by
  obtain ⟨hwaits, hapart⟩ := h.pending pending hpending
  have hindices : KeysUnique Fabric.index
      (OperationalCredentials.rotated store s armed existing identity credentials
        pending.key).fabrics.fabrics.toList :=
    h.indices.modifyFirst fun _ => rfl
  refine ⟨hindices, List.Nodup.map_on ?_ (List.Nodup.of_map _ hindices), ?_, fun _ hsome => nomatch hsome⟩
  · intro a ha b hb hsame
    rcases (mem_modifyFirst_key_iff h.indices).mp ha with ⟨ha, -⟩ | ⟨f, hf, hfindex, rfl⟩ <;>
      rcases (mem_modifyFirst_key_iff h.indices).mp hb with ⟨hb, -⟩ | ⟨g, hg, hgindex, rfl⟩
    · exact h.keys.eq_of_key_eq ha hb hsame
    · exact absurd hsame (hapart a ha)
    · exact absurd hsame.symm (hapart b hb)
    · rw [h.indices.eq_of_key_eq hf hg (hfindex.trans hgindex.symm)]
  · intro g hg
    rcases (mem_modifyFirst_key_iff h.indices).mp hg with ⟨hg, hother⟩ | ⟨f, hf, -, rfl⟩
    · refine hlaw.kept_remove _ _ _ (fun hsame => hother ?_) (h.held g hg)
      rw [h.keys.eq_of_key_eq hg hmem hsame]
    · exact hlaw.kept_remove _ _ _ (hapart existing hmem).symm hwaits

/-- What a command can do keeps a node sound. -/
lemma Sound.effect (hlaw : store.Lawful) (h : Sound store s) (heffect : Effect c store ctx s command s') :
    Sound store s' := by
  have hother : ∀ f ∈ s.fabrics.fabrics.toList, ∀ pending, s.pendingCsr = some pending →
      f.operationalKey ≠ pending.key := fun f hf pending hsome => (h.pending pending hsome).2 f hf
  cases heffect with
  | nothing => exact h
  | keyed random =>
    refine h.of_heading (by simp [keyed]) (fun f hf => holds_keyed hlaw (h.held f hf) (hother f hf) random) ?_
    rw [show (keyed store s random).pendingCsr = none from pendingCsr_dropPendingKey]
    exact fun _ hsome => by cases hsome
  | awaiting random key publicKey hlive hadded hupdated hgenerate =>
    refine h.of_heading (by simp [keyed, recorded])
      (fun f hf => holds_keyed hlaw (h.held f hf) (hother f hf) random) fun pending hsome => ?_
    obtain rfl := Option.some.inj hsome
    exact ⟨(hlaw.generated _ _ _ _ _ hgenerate).2,
      fun f hf => ne_generated hlaw (h.held f hf) (hother f hf) hgenerate⟩
  | rooted hlive => exact h.of_heading rfl h.held h.pending
  | allocated hkept => exact h.of_heading (by rw [hkept]) h.held h.pending
  | relabelled hkept | stated hkept => exact h.of_heading hkept h.held h.pending
  | joined hawaited hkey hunused happended =>
    obtain ⟨hwaits, hapart⟩ := h.pending _ hawaited.pending
    refine ⟨?_, ?_, ?_, fun _ hsome => by cases hsome⟩
    · rw [joined, happended]
      exact h.indices.append_singleton fun f hf hsame => hunused ⟨f, hf, hsame⟩
    · rw [joined, happended]
      exact h.keys.append_singleton fun f hf => hkey ▸ hapart f hf
    · rw [joined, happended]
      intro f hf
      rcases List.mem_append.mp hf with hold | hnew
      · exact h.held f hold
      · obtain rfl := List.mem_singleton.mp hnew
        exact hkey ▸ hwaits
  | rotated hcheck hawaited =>
    obtain ⟨-, -, -, hfind⟩ := checkUpdateNoc_ok hcheck
    exact h.rotated hlaw hawaited.pending (List.mem_of_find?_eq_some hfind) _ _ _
  | removed hremoved =>
    obtain ⟨hfind, -, hremoved⟩ := FabricTable.remove_eq_some hremoved
    obtain ⟨hmem, hindex⟩ := find?_key_eq_some hfind
    refine ⟨h.indices.removeFirst hremoved, h.keys.removeFirst hremoved, ?_, ?_⟩
    · intro f hf
      obtain ⟨hf, hne⟩ := (mem_removeFirst_key_iff h.indices hremoved).mp hf
      refine hlaw.kept_remove _ _ _ (fun hsame => hne ?_) (h.held f hf)
      rw [h.keys.eq_of_key_eq hf hmem hsame, hindex]
    · intro pending hsome
      obtain ⟨hwaits, hapart⟩ := h.pending pending hsome
      exact ⟨hlaw.kept_remove _ _ _ (hapart _ hmem).symm hwaits,
        fun f hf => hapart f (BoundedVec.mem_of_removeFirst hremoved hf)⟩

/-- A sound node stays sound, whatever commands run on it. -/
lemma Sound.runCredential (hlaw : store.Lawful) (h : Sound store s) (op : CredentialOp) :
    Sound store (runCredential c store s op) := by
  refine Sound.effect hlaw ?_ (perform_effect c store op.command op.ctx op.random _)
  obtain ⟨hpending, hkeys⟩ | ⟨hpending, hkeys⟩ := reap_pending store s op.ctx.now
  · refine h.of_heading (by rw [reap_fabrics]) ?_ ?_
    · rw [hkeys]
      exact h.held
    · rw [hpending, hkeys]
      exact h.pending
  · refine h.of_heading (by rw [reap_fabrics]) ?_ ?_
    · rw [hkeys]
      exact fun f hf => holds_dropPendingKey hlaw (h.held f hf) fun p hp => (h.pending p hp).2 f hf
    · rw [hpending]
      exact fun _ hsome => by cases hsome

/-- A context that has just been armed is in the first phase. -/
lemma Phase.armed (hsound : Sound store s) (hidle : s.failSafe.armed = none) {seconds : UInt16}
    {breadcrumb : UInt64} {ctx : InteractionContext} {armed : Armed}
    (harmed : (GeneralCommissioning.armFailSafe s seconds breadcrumb ctx).2.failSafe.armed =
      some armed) : Phase store s.fabrics.fabrics.toList
      (GeneralCommissioning.armFailSafe s seconds breadcrumb ctx).2 false := by
  have hunused : armed.progress = {} := by
    have hturn := Turn.arm s.failSafe seconds breadcrumb ctx.fabricIndex ctx.now
      ((s.window.openAt ctx.now).isSome && ctx.fabricIndex.isSome)
    generalize (s.failSafe.arm seconds breadcrumb ctx.fabricIndex ctx.now _).1.cleanup = cleanup
      at hturn
    cases hturn with
    | kept hrel =>
      rw [hidle, show (s.failSafe.arm _ _ _ _ _).2.armed = some armed from harmed] at hrel
      cases hrel
    | begun _ hunused => exact hunused armed harmed
    | ended hsome _ => exact nomatch hidle.symm.trans hsome
  exact .untouched armed harmed (by rw [hunused]) (by rw [hunused]) rfl hsound.held
    fun pending hsome => (hsound.pending pending hsome).2

/-- The fail-safe rolls back. A context is armed on a sound node, any commands run in it, it expires,
and the device applies the cleanup: the fabrics are those from before and their operational keys are in
the store, if and only if no `UpdateNOC` passed its checks. -/
theorem rolls_back_iff (hlaw : store.Lawful) (s : CommissioningNode N K) (hsound : Sound store s)
    (hidle : s.failSafe.armed = none) (seconds : UInt16) (breadcrumb : UInt64)
    (ctx : InteractionContext) (armed : Armed)
    (harmed : (GeneralCommissioning.armFailSafe s seconds breadcrumb ctx).2.failSafe.armed = some armed)
    (ops : List CredentialOp) (hprotected : ∀ op ∈ ops, isProtected op.command = true) (now : Instant)
    (cleanup : Cleanup) :
    let started := (GeneralCommissioning.armFailSafe s seconds breadcrumb ctx).2
    let reached := ops.foldl (runCredential c store) started
    (reached.failSafe.expire now).1 = some cleanup →
    (Restored store s
        (rollback store s.fabrics cleanup
          { reached with failSafe := (reached.failSafe.expire now).2 }) ↔
      Throughout (runCredential c store) (fun s op => rotates c store s op = false) started ops) := by
  intro started reached hexpired
  obtain ⟨rotated, hphase, hiff⟩ := (Phase.armed hsound hidle harmed).run (c := c) hlaw hprotected
  rw [← hiff]
  have hturn := Turn.expire reached.failSafe now
  rw [hexpired] at hturn
  cases hturn with
  | ended hsome _ => exact restored_iff hlaw hsome hphase

end restored

end rollback

/-! ## A run on concrete values -/

namespace Sample

lemma holds_iff {keys : Keys} {key : KeyHandle} : keyStore.Holds keys key ↔ key.val ∈ keys.present := by
  unfold KeyStore.Holds keyStore
  dsimp only
  split_ifs with h
  · exact iff_of_true rfl h
  · exact iff_of_false nofun h

/-- The sample store keeps what it is given and destroys what it is told to. -/
lemma keyStore_lawful : keyStore.Lawful where
  generated := by
    intro keys purpose random key publicKey hgenerated
    rw [holds_iff, holds_iff]
    unfold keyStore at hgenerated ⊢
    dsimp only at hgenerated ⊢
    split_ifs at hgenerated ⊢ with hused
    · obtain rfl : KeyHandle.mk keys.next = key := (Prod.mk.inj (Except.ok.inj hgenerated)).1
      exact ⟨hused, by simp⟩
  kept_generate := by
    intro keys purpose random key hheld
    rw [holds_iff] at hheld ⊢
    unfold keyStore
    dsimp only
    split_ifs
    · exact hheld
    · exact List.mem_append_left _ hheld
  kept_remove := by
    intro keys key other hne hheld
    rw [holds_iff] at hheld ⊢
    refine List.mem_filter.mpr ⟨hheld, decide_eq_true fun hsame => hne ?_⟩
    exact congrArg KeyHandle.mk hsame
  removed := by
    intro keys key hheld
    rw [holds_iff] at hheld
    simpa using (List.mem_filter.mp hheld).2

/-- The commands with which a new fabric is joined. -/
def joining : List CredentialOp :=
  [⟨.csrRequest (.replicate 32 0) false, on 7 none 2, .ok []⟩,
   ⟨.addTrustedRoot [9, 9], on 7 none 3, .ok []⟩,
   ⟨.addNoc ⟨[3, 5], none, .replicate 16 0, 1, ⟨0xFFF1⟩⟩, on 7 none 4, .ok []⟩]

/-- The commands with which a fabric rotates its key. -/
def rotating : List CredentialOp :=
  [⟨.csrRequest (.replicate 32 0) true, on 2 (some ⟨1⟩) 2, .ok []⟩,
   ⟨.updateNoc [3, 1] none, on 2 (some ⟨1⟩) 3, .ok []⟩]

/-- The node once its context has been armed over a session of a fabric. -/
def armedBy (arming : Option FabricIndex) : CommissioningNode 5 Keys :=
  (GeneralCommissioning.armFailSafe onTwoFabrics 60 0 (on 1 arming 1)).2

/-- What is reported when the context expires after some commands. -/
def reported (arming : Option FabricIndex) (ops : List CredentialOp) : Option Cleanup :=
  ((ops.foldl (runCredential crypto keyStore) (armedBy arming)).failSafe.expire ⟨100000000⟩).1

/-- The node once the commands have run, the context has expired and the device has applied a
cleanup. -/
def rolledBack (arming : Option FabricIndex) (ops : List CredentialOp) (cleanup : Cleanup) :
    CommissioningNode 5 Keys :=
  let reached := ops.foldl (runCredential crypto keyStore) (armedBy arming)
  rollback keyStore onTwoFabrics.fabrics cleanup
    { reached with failSafe := (reached.failSafe.expire ⟨100000000⟩).2 }

lemma sound_onTwoFabrics : Sound keyStore onTwoFabrics where
  indices := by
    unfold KeysUnique
    decide +kernel
  keys := by
    unfold KeysUnique
    decide +kernel
  held := by decide +kernel
  pending := nofun

end Sample

open Sample

/-- A fabric is joined in a context that is then left to expire, and the rollback takes it out again. -/
theorem joined_fabric_is_rolled_back :
    (joining.foldl (runCredential crypto keyStore) (armedBy none)).fabrics.len = 3 ∧
      ∃ armed cleanup, (armedBy none).failSafe.armed = some armed ∧
        reported none joining = some cleanup ∧
        Restored keyStore onTwoFabrics (rolledBack none joining cleanup) := by
  have hrun : (joining.foldl (runCredential crypto keyStore) (armedBy none)).fabrics.len = 3 ∧
      (armedBy none).failSafe.armed.isSome = true ∧ (reported none joining).isSome = true ∧
      (∀ op ∈ joining, isProtected op.command = true) ∧
      Throughout (runCredential crypto keyStore) (fun s op => rotates crypto keyStore s op = false)
        (armedBy none) joining := by decide +kernel
  obtain ⟨hlen, harmed, hexpired, hprotected, hkept⟩ := hrun
  obtain ⟨armed, harmed⟩ := Option.isSome_iff_exists.mp harmed
  obtain ⟨cleanup, hexpired⟩ := Option.isSome_iff_exists.mp hexpired
  exact ⟨hlen, armed, cleanup, harmed, hexpired,
    (rolls_back_iff keyStore_lawful onTwoFabrics sound_onTwoFabrics rfl 60 0 (on 1 none 1) armed harmed
      joining hprotected ⟨100000000⟩ cleanup hexpired).mpr hkept⟩

/-- After the rotation of its key the first fabric gets its record back, under a cleanup that names it,
and the key that the record refers to is gone. -/
theorem rotated_key_is_lost : ∃ cleanup ∈ reported (some ⟨1⟩) rotating, cleanup.revertNocFor = some ⟨1⟩ ∧
      (rolledBack (some ⟨1⟩) rotating cleanup).fabrics.fabrics.toList =
        onTwoFabrics.fabrics.fabrics.toList ∧
      ¬ keyStore.Holds (rolledBack (some ⟨1⟩) rotating cleanup).keys ⟨1⟩ ∧
      ¬ Restored keyStore onTwoFabrics (rolledBack (some ⟨1⟩) rotating cleanup) := by
  refine ⟨({ updatedNoc := true, csrRequested := true } : Progress).cleanup (some ⟨1⟩), ?_⟩
  decide +kernel

end Clusters

end MatterKit
