import MatterKit.Clusters.OperationalCredentials

/-!
# What a fail-safe context has changed

A context that ends without completion is undone by the device, and all the device is told is a
`Cleanup`: the fabric to remove, and the fabric to give its earlier credentials back. It knows the
fabric it was armed by, moved by `adopt_fabric`, and two flags.

`ContextHistory` keeps beside the node what the commands of the running context really did: the fabric
an `AddNOC` added is read off the table, the fabric an `UpdateNOC` rotated is the one it was answered OK
on. `AddNOC` adopts its fabric, `UpdateNOC` does not.
-/

namespace MatterKit.Clusters

open Lib Machine Dm Im Commissioning OperationalCredentials

/-! ## The record of a context -/

/-- Nothing has happened in the context, if there is one. -/
def Unused (fs : FailSafe) : Prop := ∀ armed, fs.armed = some armed → armed.progress = {}

/-- Two contexts, or one at two times, with the same fabric and the same record. -/
def SameRecord (a b : Armed) : Prop := a.progress = b.progress ∧ a.fabricIndex = b.fabricIndex

/-- What a call that can end a context does: the context stays as it is, or it begins, or it ends with
the cleanup of what was recorded, whereupon the next one may begin. -/
inductive Turn (fs fs' : FailSafe) : Option Cleanup → Prop
  | kept (h : Option.Rel SameRecord fs.armed fs'.armed) : Turn fs fs' none
  | begun (h : fs.armed = none) (hunused : Unused fs') : Turn fs fs' none
  | ended {armed : Armed} (h : fs.armed = some armed) (hunused : Unused fs') :
      Turn fs fs' (some (armed.progress.cleanup armed.fabricIndex))

namespace Turn

variable {fs : FailSafe} {now : Instant}

lemma refl (fs : FailSafe) : Turn fs fs none := by
  refine .kept ?_
  cases fs.armed with
  | none => exact .none
  | some armed => exact .some ⟨rfl, rfl⟩

lemma expire (fs : FailSafe) (now : Instant) : Turn fs (fs.expire now).2 (fs.expire now).1 := by
  obtain harmed | ⟨armed, hlive⟩ | ⟨armed, harmed, hexpired⟩ := FailSafe.cases_at fs now
  · rw [FailSafe.expire_of_none harmed]
    exact refl fs
  · rw [FailSafe.expire_of_live hlive]
    exact refl fs
  · rw [FailSafe.expire_of_lapsed harmed hexpired]
    exact .ended harmed nofun

/-- What follows an expiry that has left no context. -/
lemma of_expire {fs' : FailSafe} (hnone : (fs.expire now).2.armed = none) (hunused : Unused fs') :
    Turn fs fs' (fs.expire now).1 := by
  obtain harmed | ⟨armed, hlive⟩ | ⟨armed, harmed, hexpired⟩ := FailSafe.cases_at fs now
  · rw [FailSafe.expire_of_none harmed]
    exact .begun harmed hunused
  · rw [FailSafe.expire_of_live hlive] at hnone
    rw [(FailSafe.armedAt_eq_some_iff.mp hlive).1] at hnone
    cases hnone
  · rw [FailSafe.expire_of_lapsed harmed hexpired]
    exact .ended harmed hunused

lemma arm (fs : FailSafe) (seconds : UInt16) (breadcrumb : UInt64) (fabric : Option FabricIndex)
    (now : Instant) (window : Bool) : Turn fs (fs.arm seconds breadcrumb fabric now window).2
      (fs.arm seconds breadcrumb fabric now window).1.cleanup := by
  rw [FailSafe.arm_eq]
  obtain hnone | ⟨armed, hlive, hexpire⟩ := FailSafe.expire_cases fs now
  · obtain hcase | hcase | ⟨expiresAt, hcase⟩ := FailSafe.armLive_cases_of_none hnone
    · rw [hcase]
      exact of_expire hnone fun armed harmed => nomatch hnone.symm.trans harmed
    · rw [hcase]
      exact of_expire hnone fun armed harmed => nomatch hnone.symm.trans harmed
    · rw [hcase]
      exact of_expire hnone fun armed harmed => Option.some.inj harmed ▸ rfl
  · have harmed := (FailSafe.armedAt_eq_some_iff.mp hlive).1
    rw [hexpire]
    by_cases hsame : armed.fabricIndex = fabric
    · obtain hcase | ⟨expiresAt, hcase⟩ := FailSafe.armLive_cases_of_same hlive hsame
      · rw [hcase]
        exact .ended harmed nofun
      · rw [hcase]
        exact .kept (by rw [harmed]; exact .some ⟨rfl, rfl⟩)
    · rw [FailSafe.armLive_of_other hlive hsame]
      exact refl fs

/-- A completion that is refused ends nothing but a context that has lapsed. -/
lemma complete_of_ne {overCase : Bool} {fabric : Option FabricIndex}
    (h : (fs.complete overCase fabric now).1.error ≠ .ok) :
    Turn fs (fs.complete overCase fabric now).2 (fs.complete overCase fabric now).1.cleanup := by
  rw [FailSafe.complete_eq] at h ⊢
  obtain hnone | ⟨armed, hlive, hexpire⟩ := FailSafe.expire_cases fs now
  · rw [FailSafe.completeLive_of_none hnone]
    exact expire fs now
  · rw [hexpire] at h ⊢
    rw [FailSafe.completeLive_of_live hlive] at h ⊢
    split_ifs at h ⊢
    · exact absurd rfl h
    · exact refl fs

end Turn

/-- A completion that succeeds finds a live context of the accessing fabric and reports nothing to
undo. -/
lemma complete_of_ok {fs : FailSafe} {now : Instant} {overCase : Bool} {fabric : Option FabricIndex}
    (h : (fs.complete overCase fabric now).1.error = .ok) :
    ∃ armed, fs.armedAt now = some armed ∧ overCase = true ∧ fabric ≠ none ∧
      fabric = armed.fabricIndex ∧
      fs.complete overCase fabric now = (⟨.ok, none⟩, { fs with armed := none, breadcrumb := 0 }) := by
  rw [FailSafe.complete_eq] at h ⊢
  obtain hnone | ⟨armed, hlive, hexpire⟩ := FailSafe.expire_cases fs now
  · rw [FailSafe.completeLive_of_none hnone] at h
    cases h
  · rw [hexpire] at h ⊢
    rw [FailSafe.completeLive_of_live hlive] at h ⊢
    split_ifs at h ⊢ with hmatch
    · exact ⟨armed, hlive, hmatch.1, hmatch.2.1, hmatch.2.2, rfl⟩

/-! ## What the commands did -/

/-- The fabric that has come into a table. -/
def addedFabric {N : ℕ} (before after : FabricTable N) : Option FabricIndex :=
  (after.fabrics.toList.find? fun f => (before.find f.index).isNone).map Fabric.index

section added

variable {N : ℕ} {before after : FabricTable N}

lemma addedFabric_of_inUse (h : ∀ f ∈ after.fabrics.toList, before.InUse f.index) :
    addedFabric before after = none := by
  rw [addedFabric, Option.map_eq_none_iff, List.find?_eq_none]
  intro f hf hnone
  exact FabricTable.find_eq_none_iff.mp (Option.isNone_iff_eq_none.mp hnone) (h f hf)

lemma addedFabric_of_append {fabric : Fabric} (h : after.fabrics.toList = before.fabrics.toList ++ [fabric])
    (hunused : ¬ before.InUse fabric.index) : addedFabric before after = some fabric.index := by
  have hold : before.fabrics.toList.find? (fun f => (before.find f.index).isNone) = none := by
    rw [List.find?_eq_none]
    intro f hf hnone
    exact FabricTable.find_eq_none_iff.mp (Option.isNone_iff_eq_none.mp hnone) ⟨f, hf, rfl⟩
  have hnew : (before.find fabric.index).isNone = true :=
    Option.isNone_iff_eq_none.mpr (FabricTable.find_eq_none_iff.mpr hunused)
  rw [addedFabric, h, List.find?_append, hold, Option.none_or]
  simp [hnew]

lemma addedFabric_of_map_index
    (h : after.fabrics.toList.map Fabric.index = before.fabrics.toList.map Fabric.index) :
    addedFabric before after = none := by
  refine addedFabric_of_inUse fun f hf => ?_
  have hmem : f.index ∈ before.fabrics.toList.map Fabric.index := h ▸ List.mem_map_of_mem hf
  obtain ⟨f', hf', hindex⟩ := List.mem_map.mp hmem
  exact ⟨f', hf', hindex⟩

end added

section history

variable {N : ℕ} {K : Type} (c : CredentialCrypto K) (store : KeyStore K)

/-- The fabric whose credentials a command has replaced: that of an `UpdateNOC` answered OK. -/
def replacedFabric (command : CredentialCommand) (ctx : InteractionContext)
    (s : CommissioningNode N K) : Option FabricIndex :=
  match command with
  | .updateNoc noc icac =>
    if (exec (updateNoc c store noc icac ctx) s).1.toOption = some .ok then ctx.fabricIndex else none
  | _ => none

/-- A context that has ended without completion: its cleanup, and what had happened in it. -/
structure EndedContext where
  cleanup : Cleanup
  added : Option FabricIndex
  replaced : Option FabricIndex

/-- A node with what the commands of the running context have done, and with the contexts that have
ended without completion. -/
structure ContextHistory (N : ℕ) (K : Type) where
  node : CommissioningNode N K
  added : Option FabricIndex := none
  replaced : Option FabricIndex := none
  ended : List EndedContext := []

/-- A command from some session, or the device looking at its timer. -/
inductive ContextOp
  | armFailSafe (seconds : UInt16) (breadcrumb : UInt64) (ctx : InteractionContext)
  | credential (command : CredentialCommand) (ctx : InteractionContext)
      (random : Except ErrorCode (List UInt8))
  | commissioningComplete (ctx : InteractionContext)
  | expire (now : Instant)

namespace ContextHistory

/-- The node moves on, and a cleanup that is reported ends the context. -/
def turn (h : ContextHistory N K) (cleanup : Option Cleanup) (node : CommissioningNode N K) :
    ContextHistory N K :=
  match cleanup with
  | none => { h with node := node }
  | some cleanup =>
    { node := node, ended := h.ended ++ [⟨cleanup, h.added, h.replaced⟩] }

/-- One command, or one look at the timer. -/
def step (h : ContextHistory N K) : ContextOp → ContextHistory N K
  | .armFailSafe seconds breadcrumb ctx =>
    let ((_, cleanup), node) := GeneralCommissioning.armFailSafe h.node seconds breadcrumb ctx
    h.turn cleanup node
  | .credential command ctx random =>
    let before := reap store ctx.now h.node
    let after := (exec (OperationalCredentials.perform c store command ctx random) before).2
    { h with
      node := after
      added := (addedFabric before.fabrics after.fabrics).or h.added
      replaced := (replacedFabric c store command ctx before).or h.replaced }
  | .commissioningComplete ctx =>
    let ((error, cleanup), node) := GeneralCommissioning.commissioningComplete h.node ctx
    if error = .ok then { h with node := node, added := none, replaced := none }
    else h.turn cleanup node
  | .expire now =>
    let (cleanup, failSafe) := h.node.failSafe.expire now
    h.turn cleanup { h.node with failSafe := failSafe }

/-- A run from a node. -/
def run (node : CommissioningNode N K) (ops : List ContextOp) : ContextHistory N K :=
  ops.foldl (step c store) { node := node }

/-- A cleanup removes the fabric that was added and gives its credentials back to the one that was
changed. -/
def Names (cleanup : Cleanup) (added replaced : Option FabricIndex) : Prop :=
  cleanup.removeFabric = added ∧ cleanup.revertNocFor = replaced

instance (cleanup : Cleanup) (added replaced : Option FabricIndex) :
    Decidable (Names cleanup added replaced) := inferInstanceAs (Decidable (_ ∧ _))

/-- The cleanup of every context that has ended names what had changed in it, and so would the cleanup
of the running one, if it ended here. -/
structure Named (h : ContextHistory N K) : Prop where
  ended : ∀ e ∈ h.ended, Names e.cleanup e.added e.replaced
  running : ∀ armed, h.node.failSafe.armed = some armed →
    Names (h.node.failSafe.expireNow armed).1 h.added h.replaced

/-- Nothing changes outside a context. -/
def Quiet (h : ContextHistory N K) : Prop :=
  h.node.failSafe.armed = none → h.added = none ∧ h.replaced = none

/-- The step is no accepted `UpdateNOC`, or it comes from the fabric that the context belongs to. -/
def FromContextFabric (h : ContextHistory N K) : ContextOp → Prop
  | .credential (.updateNoc noc icac) ctx _ =>
    (checkUpdateNoc c (reap store ctx.now h.node) noc icac ctx).isOk = true →
      (h.node.failSafe.armedAt ctx.now).map Armed.fabricIndex = some ctx.fabricIndex
  | _ => True

instance (h : ContextHistory N K) (op : ContextOp) : Decidable (FromContextFabric c store h op) :=
  match op with
  | .credential (.updateNoc _ _) _ _ => inferInstanceAs (Decidable (_ → _))
  | .credential (.attestationRequest _) _ _ | .credential (.certificateChainRequest _) _ _
  | .credential (.csrRequest _ _) _ _ | .credential (.addNoc _) _ _
  | .credential (.updateFabricLabel _) _ _ | .credential (.removeFabric _) _ _
  | .credential (.addTrustedRoot _) _ _ | .credential (.setVidVerificationStatement _ _ _) _ _
  | .credential (.signVidVerification _ _) _ _ | .armFailSafe _ _ _ | .commissioningComplete _
  | .expire _ => .isTrue trivial

/-! ## One step -/

variable {c store} {h : ContextHistory N K} {node : CommissioningNode N K}

/-- Two contexts whose cleanups name the same fabrics. -/
def SameNames (a b : Armed) : Prop :=
  a.progress.addedNoc = b.progress.addedNoc ∧ a.progress.updatedNoc = b.progress.updatedNoc ∧
    a.fabricIndex = b.fabricIndex

lemma Names.of_sameNames {fs fs' : FailSafe} {a b : Armed} {added replaced : Option FabricIndex}
    (h : Names (fs.expireNow a).1 added replaced) (hsame : SameNames a b) :
    Names (fs'.expireNow b).1 added replaced := by
  obtain ⟨hadded, hupdated, hfabric⟩ := hsame
  unfold Names FailSafe.expireNow Progress.cleanup at h ⊢
  rwa [hadded, hupdated, hfabric] at h

variable {armed : Armed} {cleanup : Option Cleanup} {command : CredentialCommand}
  {ctx : InteractionContext} {noc : List UInt8} {icac : Option (List UInt8)}

lemma names_of_unused {fs : FailSafe} (h : armed.progress = {}) :
    Names (fs.expireNow armed).1 none none := by
  unfold Names FailSafe.expireNow Progress.cleanup
  rw [h]
  exact ⟨rfl, rfl⟩

/-- A node whose context still names the same fabrics. -/
lemma Named.of_rel (hn : h.Named) (hrel : Option.Rel SameNames h.node.failSafe.armed node.failSafe.armed) :
    Named { h with node := node } := by
  refine ⟨hn.ended, fun armed harmed => ?_⟩
  rw [show node.failSafe.armed = some armed from harmed] at hrel
  generalize hbefore : h.node.failSafe.armed = before at hrel
  cases hrel with
  | some hsame => exact (hn.running _ hbefore).of_sameNames hsame

lemma Quiet.of_rel {R : Armed → Armed → Prop} (hq : h.Quiet)
    (hrel : Option.Rel R h.node.failSafe.armed node.failSafe.armed) : Quiet { h with node := node } := by
  intro hnone
  rw [show node.failSafe.armed = none from hnone] at hrel
  generalize hbefore : h.node.failSafe.armed = before at hrel
  cases hrel with
  | none => exact hq hbefore

lemma rel_sameNames_of_eq {fs fs' : FailSafe} (h : fs' = fs) : Option.Rel SameNames fs.armed fs'.armed := by
  rw [h]
  cases fs.armed with
  | none => exact .none
  | some armed => exact .some ⟨rfl, rfl, rfl⟩

lemma rel_sameNames_of_sameRecord {a b : Option Armed} (h : Option.Rel SameRecord a b) :
    Option.Rel SameNames a b := by
  cases h with
  | none => exact .none
  | some hsame =>
    exact .some ⟨congrArg Progress.addedNoc hsame.1, congrArg Progress.updatedNoc hsame.1, hsame.2⟩

/-- A call that can end the context keeps it named, whatever it does. -/
lemma Named.turn (hn : h.Named) (hq : h.Quiet) (hturn : Turn h.node.failSafe node.failSafe cleanup)
    : (h.turn cleanup node).Named := by
  cases hturn with
  | kept hrel => exact hn.of_rel (rel_sameNames_of_sameRecord hrel)
  | begun hnone hunused =>
    refine ⟨hn.ended, fun armed harmed => ?_⟩
    obtain ⟨hadded, hreplaced⟩ := hq hnone
    rw [show (h.turn none node).added = none from hadded,
      show (h.turn none node).replaced = none from hreplaced]
    exact names_of_unused (hunused armed harmed)
  | ended harmed hunused =>
    refine ⟨?_, fun armed harmed => names_of_unused (hunused armed harmed)⟩
    intro e he
    rcases List.mem_append.mp he with he | he
    · exact hn.ended e he
    · obtain rfl := List.mem_singleton.mp he
      exact hn.running _ harmed

lemma Quiet.turn (hq : h.Quiet) (hturn : Turn h.node.failSafe node.failSafe cleanup) :
    (h.turn cleanup node).Quiet := by
  cases hturn with
  | kept hrel => exact hq.of_rel hrel
  | begun hnone hunused => exact fun _ => hq hnone
  | ended harmed hunused => exact fun _ => ⟨rfl, rfl⟩

lemma replacedFabric_of_ne (hother : ∀ noc icac, command ≠ .updateNoc noc icac) :
    replacedFabric c store command ctx node = none := by
  cases command with
  | updateNoc noc icac => exact absurd rfl (hother noc icac)
  | _ => rfl

lemma replacedFabric_of_error {refusal : Refusal}
    (hcheck : checkUpdateNoc c node noc icac ctx = .error refusal) :
    replacedFabric c store (.updateNoc noc icac) ctx node = none := by
  have hanswer := Refusal.answer_ne_ok (checkUpdateNoc_raises noc icac _ hcheck)
  rw [replacedFabric, exec_updateNoc_of_error hcheck, if_neg]
  intro hok
  cases hanswered : refusal.answer with
  | error status =>
    rw [hanswered] at hok
    cases hok
  | ok status =>
    rw [hanswered] at hok hanswer
    exact hanswer (congrArg Except.ok (Option.some.inj hok))

/-- What an effect other than that of an `AddNOC` or `UpdateNOC` leaves alone. -/
lemma credential_kept {before after : CommissioningNode N K}
    (heffect : Effect c store ctx before command after)
    (hother : ∀ noc icac, command ≠ .updateNoc noc icac) :
    (addedFabric before.fabrics after.fabrics = none ∧
      Option.Rel SameNames before.failSafe.armed after.failSafe.armed) ∨
    ∃ armed fabric fabrics request pending, Awaited before ctx armed pending ∧
      ¬ before.fabrics.InUse fabric.index ∧
      fabrics.fabrics.toList = before.fabrics.fabrics.toList ++ [fabric] ∧
      after = joined before armed fabrics fabric request ctx := by
  have hrecorded : ∀ {s : CommissioningNode N K} {armed : Armed} {f : Progress → Progress},
      s.failSafe.armedAt ctx.now = some armed →
      (∀ p, (f p).addedNoc = p.addedNoc) → (∀ p, (f p).updatedNoc = p.updatedNoc) →
      Option.Rel SameNames s.failSafe.armed (recorded s armed f).failSafe.armed := by
    intro s armed f hlive hadded hupdated
    rw [(FailSafe.armedAt_eq_some_iff.mp hlive).1]
    exact .some ⟨(hadded _).symm, (hupdated _).symm, rfl⟩
  have hsame : addedFabric before.fabrics before.fabrics = none := addedFabric_of_map_index rfl
  cases heffect with
  | nothing => exact .inl ⟨hsame, rel_sameNames_of_eq rfl⟩
  | keyed random hlive hadded hupdated =>
    exact .inl ⟨by simpa [keyed] using hsame, rel_sameNames_of_eq (by simp [keyed])⟩
  | awaiting random key publicKey hlive hadded hupdated hgenerated =>
    refine .inl ⟨by simpa [keyed, recorded] using hsame, ?_⟩
    have hrel := hrecorded hlive (f := fun p => { p with csrRequested := true }) (fun _ => rfl)
      fun _ => rfl
    simpa [keyed, recorded] using hrel
  | rooted hlive =>
    exact .inl ⟨hsame, hrecorded hlive (f := fun p => { p with addedTrustedRoot := true })
      (fun _ => rfl) fun _ => rfl⟩
  | allocated hkept =>
    exact .inl ⟨addedFabric_of_map_index (by rw [hkept]), rel_sameNames_of_eq rfl⟩
  | joined hawaited hkey hunused happended =>
    exact .inr ⟨_, _, _, _, _, hawaited, hunused, happended, rfl⟩
  | rotated hcheck hawaited => exact absurd rfl (hother _ _)
  | relabelled hkept | stated hkept =>
    exact .inl ⟨addedFabric_of_map_index (map_index_of_heading hkept), rel_sameNames_of_eq rfl⟩
  | removed hremoved =>
    refine .inl ⟨addedFabric_of_inUse fun f hf => ?_, rel_sameNames_of_eq rfl⟩
    obtain ⟨-, -, hfirst⟩ := FabricTable.remove_eq_some hremoved
    exact ⟨f, BoundedVec.mem_of_removeFirst hfirst hf, rfl⟩

/-- Before a NOC command that is accepted nothing has changed in the context. -/
lemma Named.unchanged {pending : PendingCsr} (hn : h.Named)
    (hawaited : Awaited (reap store ctx.now h.node) ctx armed pending) :
    h.node.failSafe.armedAt ctx.now = some armed ∧ h.added = none ∧ h.replaced = none := by
  have hlive := hawaited.live
  rw [reap_failSafe] at hlive
  obtain ⟨hadded, hreplaced⟩ := hn.running armed (FailSafe.armedAt_eq_some_iff.mp hlive).1
  have hnotAdded := hawaited.notAdded
  have hnotUpdated := hawaited.notUpdated
  simp only [FailSafe.expireNow, Progress.cleanup, hnotAdded, hnotUpdated, Bool.false_eq_true,
    if_false] at hadded hreplaced
  exact ⟨hlive, hadded.symm, hreplaced.symm⟩

variable (random : Except ErrorCode (List UInt8))

/-- A credential command that is no `UpdateNOC` keeps the context named. -/
lemma Named.credential (hn : h.Named) (hother : ∀ noc icac, command ≠ .updateNoc noc icac) :
    (step c store h (.credential command ctx random)).Named := by
  have heffect := perform_effect c store command ctx random (reap store ctx.now h.node)
  simp only [step, replacedFabric_of_ne hother, Option.none_or]
  generalize (exec (OperationalCredentials.perform c store command ctx random)
    (reap store ctx.now h.node)).2 = after
    at heffect
  obtain ⟨hadded, hrel⟩ | ⟨armed, fabric, fabrics, request, pending, hawaited, hunused, happended,
    rfl⟩ := credential_kept heffect hother
  · rw [hadded, Option.none_or]
    rw [reap_failSafe] at hrel
    exact hn.of_rel hrel
  · obtain ⟨-, -, hreplaced⟩ := hn.unchanged hawaited
    refine ⟨hn.ended, fun armed' harmed' => ?_⟩
    obtain rfl := Option.some.inj harmed'
    have hnew := addedFabric_of_append happended hunused
    simp only [joined, Names, FailSafe.expireNow, Progress.cleanup, hreplaced, hawaited.notUpdated,
      Bool.false_eq_true, if_false, if_true]
    rw [hnew, Option.some_or]
    exact ⟨rfl, trivial⟩

/-- An `UpdateNOC` keeps the context named exactly when it is refused or comes from the context's
fabric. -/
lemma Named.updateNoc_iff (hn : h.Named) :
    FromContextFabric c store h (.credential (.updateNoc noc icac) ctx random) ↔
      (step c store h (.credential (.updateNoc noc icac) ctx random)).Named := by
  have hnode : (exec (OperationalCredentials.perform c store (.updateNoc noc icac) ctx random)
      (reap store ctx.now h.node)).2 =
        (exec (updateNoc c store noc icac ctx) (reap store ctx.now h.node)).2 := by
    rw [OperationalCredentials.perform, exec_bind_snd fun _ _ => rfl]
  cases hcheck : checkUpdateNoc c (reap store ctx.now h.node) noc icac ctx with
  | error refusal =>
    refine iff_of_true (fun hok => ?_) ?_
    · rw [hcheck] at hok
      cases hok
    · simp only [step, replacedFabric_of_error hcheck, hnode, exec_updateNoc_of_error hcheck,
        addedFabric_of_map_index rfl, Option.none_or]
      exact hn.of_rel (rel_sameNames_of_eq (reap_failSafe store h.node ctx.now))
  | ok found =>
    obtain ⟨pending, existing, identity, credentials⟩ := found
    obtain ⟨armed, hawaited, haccessing, -⟩ := checkUpdateNoc_ok hcheck
    obtain ⟨hlive, hadded, hreplaced⟩ := hn.unchanged hawaited
    have hrun : exec (updateNoc c store noc icac ctx) (reap store ctx.now h.node) = _ :=
      exec_updateNoc_of_ok hcheck hawaited.live
    have hreplacing : replacedFabric c store (.updateNoc noc icac) ctx (reap store ctx.now h.node) =
        ctx.fabricIndex := by
      rw [replacedFabric, hrun]
      exact if_pos rfl
    have hkept : addedFabric (reap store ctx.now h.node).fabrics
        (rotated store (reap store ctx.now h.node) armed existing identity credentials
          pending.key).fabrics = none :=
      addedFabric_of_map_index (map_update fun _ => rfl)
    have hcondition : FromContextFabric c store h (.credential (.updateNoc noc icac) ctx random) ↔
        armed.fabricIndex = ctx.fabricIndex := by
      simp [FromContextFabric, hcheck, hlive, Except.isOk, Except.toBool]
    rw [hcondition]
    simp only [step, hnode, hrun, hreplacing, hkept, hadded, hreplaced, Option.or_none]
    constructor
    · intro hsame
      refine ⟨hn.ended, fun armed' harmed' => ?_⟩
      obtain rfl := Option.some.inj harmed'
      simp only [Names, FailSafe.expireNow, Progress.cleanup, hawaited.notAdded, Bool.false_eq_true,
        if_false, if_true]
      exact ⟨trivial, hsame⟩
    · intro hnamed
      have hnames := (hnamed.running _ rfl).2
      simpa [FailSafe.expireNow, Progress.cleanup] using hnames

/-- A NOC command that is accepted leaves a context, and every other one leaves what there is. -/
lemma Quiet.credential (hq : h.Quiet) : (step c store h (.credential command ctx random)).Quiet := by
  have heffect := perform_effect c store command ctx random (reap store ctx.now h.node)
  intro hnone
  simp only [step] at hnone ⊢
  by_cases hother : ∀ noc icac, command ≠ .updateNoc noc icac
  · rw [replacedFabric_of_ne hother, Option.none_or]
    obtain ⟨hadded, hrel⟩ | ⟨armed, fabric, fabrics, request, pending, hawaited, hunused, happended,
      hjoined⟩ := credential_kept heffect hother
    · rw [hadded, Option.none_or]
      rw [reap_failSafe] at hrel
      have hquiet : Quiet { h with node := _ } := hq.of_rel hrel
      exact hquiet hnone
    · rw [hjoined] at hnone
      cases hnone
  · push Not at hother
    obtain ⟨noc, icac, rfl⟩ := hother
    rw [OperationalCredentials.perform, exec_bind_snd fun _ _ => rfl] at hnone ⊢
    cases hcheck : checkUpdateNoc c (reap store ctx.now h.node) noc icac ctx with
    | error refusal =>
      rw [exec_updateNoc_of_error hcheck] at hnone ⊢
      rw [reap_failSafe] at hnone
      rw [addedFabric_of_map_index rfl, replacedFabric_of_error hcheck]
      exact hq hnone
    | ok found =>
      obtain ⟨pending, existing, identity, credentials⟩ := found
      obtain ⟨armed, hawaited, -⟩ := checkUpdateNoc_ok hcheck
      rw [exec_updateNoc_of_ok hcheck hawaited.live] at hnone
      cases hnone

lemma Quiet.step (hq : h.Quiet) (op : ContextOp) : (step c store h op).Quiet := by
  cases op with
  | armFailSafe seconds breadcrumb ctx => exact hq.turn (.arm _ _ _ _ _ _)
  | credential command ctx random => exact hq.credential random
  | commissioningComplete ctx =>
    unfold ContextHistory.step GeneralCommissioning.commissioningComplete
    dsimp only
    split_ifs with hok
    · exact fun _ => ⟨rfl, rfl⟩
    · exact hq.turn (.complete_of_ne hok)
  | expire now => exact hq.turn (.expire _ _)

/-- A step keeps the contexts named exactly when it is no accepted `UpdateNOC` from elsewhere. -/
lemma Named.step_iff (hq : h.Quiet) (hn : h.Named) (op : ContextOp) :
    FromContextFabric c store h op ↔ (ContextHistory.step c store h op).Named := by
  cases op with
  | armFailSafe seconds breadcrumb ctx => exact iff_of_true trivial (hn.turn hq (.arm _ _ _ _ _ _))
  | credential command ctx random =>
    by_cases hother : ∀ noc icac, command ≠ .updateNoc noc icac
    · have hfree : FromContextFabric c store h (.credential command ctx random) := by
        cases command with
        | updateNoc noc icac => exact absurd rfl (hother noc icac)
        | _ => trivial
      exact iff_of_true hfree (hn.credential random hother)
    · push Not at hother
      obtain ⟨noc, icac, rfl⟩ := hother
      exact hn.updateNoc_iff random
  | commissioningComplete ctx =>
    refine iff_of_true trivial ?_
    unfold ContextHistory.step GeneralCommissioning.commissioningComplete
    dsimp only
    split_ifs with hok
    · obtain ⟨armed, -, -, -, -, hrun⟩ := complete_of_ok hok
      refine ⟨hn.ended, fun armed' harmed' => ?_⟩
      rw [hrun] at harmed'
      cases harmed'
    · exact hn.turn hq (.complete_of_ne hok)
  | expire now => exact iff_of_true trivial (hn.turn hq (.expire _ _))

/-- The cleanup names the fabric that changed: at every point of a run, the cleanups of the contexts
that have ended, and the one that the running context would be given, name exactly the fabric that was
added and the one whose credentials were replaced, if and only if every accepted `UpdateNOC` comes from
the fabric that the context belongs to. -/
theorem cleanup_names_changed_fabric (node : CommissioningNode N K)
    (hidle : node.failSafe.armed = none) (ops : List ContextOp) :
    (∀ before, before <+: ops → (run c store node before).Named) ↔
      Throughout (step c store) (FromContextFabric c store) { node := node } ops := by
  have hquiet : Quiet ({ node := node } : ContextHistory N K) := fun _ => ⟨rfl, rfl⟩
  have hnamed : Named ({ node := node } : ContextHistory N K) := by
    refine ⟨by simp, fun armed harmed => ?_⟩
    rw [show node.failSafe.armed = some armed from harmed] at hidle
    cases hidle
  have hstep : ∀ (h : ContextHistory N K) (op : ContextOp), h.Quiet ∧ h.Named →
      (FromContextFabric c store h op ↔ (step c store h op).Quiet ∧ (step c store h op).Named) := by
    intro h op hh
    rw [hh.2.step_iff hh.1 op]
    exact ⟨fun hnext => ⟨hh.1.step op, hnext⟩, And.right⟩
  rw [Throughout.iff_forall_isPrefix (I := fun h => h.Quiet ∧ h.Named) ⟨hquiet, hnamed⟩ hstep]
  have hquiets : ∀ before, (run c store node before).Quiet := fun before =>
    foldl_invariant (W := fun _ => True) (fun h op _ hq => hq.step op) (fun _ _ => trivial) hquiet
  exact forall₂_congr fun before _ => ⟨fun hn => ⟨hquiets before, hn⟩, And.right⟩

end ContextHistory

end history

/-! ## A run on concrete values -/

namespace Sample

/-- A key store that numbers its keys. -/
structure Keys where
  next : UInt32
  present : List UInt32

/-- The public key of a key of the sample store. -/
def publicKeyOf (number : UInt32) : PublicKey := ⟨.replicate 65 number.toUInt8⟩

/-- A store that hands out the next number, as long as it is free, and forgets what is removed. -/
def keyStore : KeyStore Keys where
  generate keys _ _ :=
    if keys.next ∈ keys.present then (.error .noSpace, keys)
    else (.ok (⟨keys.next⟩, publicKeyOf keys.next), ⟨keys.next + 1, keys.present ++ [keys.next]⟩)
  publicKey keys key :=
    if key.val ∈ keys.present then .ok (publicKeyOf key.val) else .error .invalidArgument
  sign keys key message := if key.val ∈ keys.present then .ok message else .error .invalidArgument
  ecdh keys key _ := if key.val ∈ keys.present then .ok [] else .error .invalidArgument
  remove keys key := (.ok (), { keys with present := keys.present.filter fun n => n ≠ key.val })

/-- Certificates of two octets: the number of the key they certify, and the fabric. -/
def crypto : CredentialCrypto Keys where
  kdf _ salt _ _ := .ok salt
  hmac _ message := .ok message
  decodeCertificate octets := .ok ⟨octets, ⟨.replicate 65 (octets.headD 0)⟩⟩
  nodeId _ := some ⟨1⟩
  validateAsRcac _ := .ok ()
  verifySelfSigned _ := .ok true
  verifyChain noc _ _ _ := .ok ⟨⟨1⟩, ⟨(noc.encoded.getD 1 0).toUInt64⟩, .empty⟩
  attest _ nonce challenge := .ok (nonce, challenge)
  nocsr _ _ nonce challenge := .ok (nonce, challenge)
  dac := []
  pai := []

/-- A fabric with an index, and with that number for its id and its key. -/
def fabric (index : UInt8) : Fabric :=
  { FabricTable.sample ⟨index⟩ with
    fabricId := ⟨index.toUInt64⟩
    compressed := ⟨index.toUInt64⟩
    operationalKey := ⟨index.toUInt32⟩ }

/-- A node on two fabrics, with no context running. -/
def onTwoFabrics : CommissioningNode 5 Keys where
  fabrics := ⟨⟨[fabric 1, fabric 2], by decide⟩, 2⟩
  keys := ⟨3, [1, 2]⟩
  failSafe := .new {}
  window := {}
  locationCapability := .indoorOutdoor
  regulatoryConfig := .indoor
  location := [0x58, 0x58]

/-- A command on a session of a fabric, so many seconds after the start. -/
def on (session : UInt16) (fabric : Option FabricIndex) (seconds : UInt64) : InteractionContext :=
  { fabricIndex := fabric
    session := some ⟨session⟩
    now := ⟨seconds * 1000000⟩
    attestationChallenge := some [0] }

/-- A context armed by a fabric in which the first fabric rotates its key, and that then runs out. -/
def rotation (arming : Option FabricIndex) : List ContextOp :=
  [.armFailSafe 60 0 (on 1 arming 1),
   .credential (.csrRequest (.replicate 32 0) true) (on 2 (some ⟨1⟩) 2) (.ok []),
   .credential (.updateNoc [3, 1] none) (on 2 (some ⟨1⟩) 3) (.ok []),
   .expire ⟨100000000⟩]

end Sample

namespace ContextHistory

open Sample

/-- The fabric that armed the context rotates its key, and the cleanup gives its credentials back to
it. -/
theorem cleanup_names_rotated_fabric : onTwoFabrics.failSafe.armed = none ∧
      Throughout (step crypto keyStore) (FromContextFabric crypto keyStore) { node := onTwoFabrics }
        (rotation (some ⟨1⟩)) ∧
      (run crypto keyStore onTwoFabrics (rotation (some ⟨1⟩))).Named ∧
      (run crypto keyStore onTwoFabrics (rotation (some ⟨1⟩))).ended.map
        (fun e => (e.replaced, e.cleanup.revertNocFor)) = [(some ⟨1⟩, some ⟨1⟩)] := by
  have hrun : Throughout (step crypto keyStore) (FromContextFabric crypto keyStore) { node := onTwoFabrics }
      (rotation (some ⟨1⟩)) ∧
      (run crypto keyStore onTwoFabrics (rotation (some ⟨1⟩))).ended.map
        (fun e => (e.replaced, e.cleanup.revertNocFor)) = [(some ⟨1⟩, some ⟨1⟩)] := by
    decide +kernel
  exact ⟨rfl, hrun.1,
    (cleanup_names_changed_fabric onTwoFabrics rfl _).mpr hrun.1 _ (List.prefix_refl _), hrun.2⟩

/-- A context that another fabric armed ends with a cleanup that takes the credentials of that fabric
back, and not those of the fabric that rotated its key. -/
theorem cleanup_names_arming_fabric : (run crypto keyStore onTwoFabrics (rotation (some ⟨2⟩))).ended.map
        (fun e => (e.replaced, e.cleanup.revertNocFor)) = [(some ⟨1⟩, some ⟨2⟩)] ∧
      ¬ (run crypto keyStore onTwoFabrics (rotation (some ⟨2⟩))).Named := by
  have hended : ∃ e ∈ (run crypto keyStore onTwoFabrics (rotation (some ⟨2⟩))).ended,
      ¬ Names e.cleanup e.added e.replaced := by decide +kernel
  refine ⟨by decide +kernel, fun hnamed => ?_⟩
  obtain ⟨e, he, hwrong⟩ := hended
  exact hwrong (hnamed.ended e he)

end ContextHistory

end MatterKit.Clusters
