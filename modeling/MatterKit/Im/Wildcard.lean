import MatterKit.Im.Acts

/-!
# Wildcard writes beside concrete ones

`serve_write_path` writes an attribute in two places: `write_concrete` for a path that names it, and a
loop of its own for the attributes a wildcard expands to. The module documentation has the two mirror
each other, "step for step"; this compares them, attribute by attribute and from the state in which the
loop gets to it.

`GuardedLike` says that an attribute the loop writes would have been written under its own path too
(`AttributeData.onto`), and that a write that succeeds moves the same version.
-/

namespace MatterKit.Im

open Lib Machine Tlv Dm

variable {η ν : Type}

/-! ## The element of one attribute -/

/-- The same element under the path of one attribute of the expansion: what is written, the version
and whether an item is appended stay. -/
def AttributeData.onto (data : AttributeData) (resolved : Resolved) : AttributeData :=
  { data with path := { resolved.path with listIndex := data.path.listIndex } }

/-- The identifiers of an attribute. -/
def idsOf (resolved : Resolved) : EndpointId × ClusterId × AttributeId :=
  (resolved.endpoint, resolved.cluster.id, resolved.attributeId)

/-- The versions of a node after one of its clusters has been touched.
Source: `Server::write_concrete`, `if let Some(versions) = self.versions`. -/
def touched (versions : Option (DataVersionSource ν)) (resolved : Resolved) (v : ν) : ν :=
  match versions with
  | none => v
  | some source => source.touch resolved.endpoint resolved.cluster.id v

namespace Server

variable (srv : Server η ν) (element : ℕ) (data : AttributeData) (op : WriteOp)
  (ctx : InteractionContext)

/-- An attribute the loop writes would be written under its own path from the same state, and if the
write succeeds, the version of its cluster is touched. -/
def GuardedLike (s : ActState η ν WriteBlock) (resolved : Resolved) : Prop :=
  ∀ ok, (exec (srv.writeExpanded element data.data op ctx [resolved]) s).2.calls =
      s.calls ++ [.write resolved op ok] →
    (exec (srv.serveWritePath element (data.onto resolved) ctx) s).2.calls =
        s.calls ++ [.write resolved op ok] ∧
      (ok = true → (exec (srv.writeExpanded element data.data op ctx [resolved]) s).2.versions =
        touched srv.versions resolved s.versions)

/-- What the loop does not check before it writes an attribute: that the path leads to it, that the
subject may view and write it there or was granted it before, that there is a fabric if it is a
fabric's, and that the version is the same; and then, that a write that succeeds has no version to
touch. -/
def MeetsGuards (s : ActState η ν WriteBlock) (resolved : Resolved) : Prop :=
  srv.writable s.handler ctx resolved = true →
    srv.node.resolve resolved.endpoint resolved.cluster.id resolved.attributeId = .ok resolved ∧
    (∀ descriptor required, resolved.cluster.attribute? resolved.attributeId = some descriptor →
      descriptor.access.write = some required →
        (s.action.alreadyGranted (idsOf resolved) = true ∨
          srv.allows s.handler (data.onto resolved).path .view = .granted ∧
            srv.allows s.handler (data.onto resolved).path required = .granted) ∧
        ¬ (descriptor.access.isFabricScoped = true ∧ ctx.fabricIndex.isNone = true)) ∧
    srv.stale s.handler data.dataVersion resolved = false ∧
    ((srv.write s.handler resolved data.data op ctx).1.isOk = true →
      touched srv.versions resolved s.versions = s.versions)

/-- In front of every attribute the loop gets to, in the state it gets there in. -/
def DuringExpansion (P : ActState η ν WriteBlock → Resolved → Prop) (s : ActState η ν WriteBlock) :
    Prop :=
  ∀ before resolved after s', srv.node.expand data.path = before ++ resolved :: after →
    exec (srv.writeExpanded element data.data op ctx before) s = (.ok true, s') → P s' resolved

variable {srv element data op ctx} {s : ActState η ν WriteBlock} {resolved : Resolved}

/-! ## One attribute of the loop -/

/-- An answer is packed and nothing else. -/
lemma exec_writeResponseStatus (srv : Server η ν) (element : ℕ) (path : AttributePath)
    (status : Status) (s : ActState η ν WriteBlock) :
    ∃ packed, (exec (srv.writeResponseStatus element path status) s).2 = { s with packed := packed } :=
  ⟨_, rfl⟩

/-- What the loop does with one attribute, apart from the answer. -/
lemma exec_writeExpanded_singleton (srv : Server η ν) (element : ℕ) (data : List UInt8)
    (op : WriteOp) (ctx : InteractionContext) (s : ActState η ν WriteBlock) (resolved : Resolved) :
    (exec (srv.writeExpanded element data op ctx [resolved]) s).2.versions = s.versions ∧
      (exec (srv.writeExpanded element data op ctx [resolved]) s).2.calls =
        if srv.writable s.handler ctx resolved then
          s.calls ++ [.write resolved op (srv.write s.handler resolved data op ctx).1.isOk]
        else s.calls := by
  unfold writeExpanded
  rw [exec_get_bind]
  by_cases hwritable : srv.writable s.handler ctx resolved = true
  · rw [if_pos hwritable, if_pos hwritable, exec_bind_ok (exec_callWrite ..)]
    obtain ⟨packed, hpacked⟩ := srv.exec_writeResponseStatus element resolved.path
      (resultStatus (srv.write s.handler resolved data op ctx).1)
      { s with
        handler := (srv.write s.handler resolved data op ctx).2
        calls := s.calls ++
          [.write resolved op (srv.write s.handler resolved data op ctx).1.isOk] }
    rw [exec_bind]
    generalize exec (srv.writeResponseStatus element resolved.path _) _ = run at hpacked ⊢
    obtain ⟨result, s'⟩ := run
    obtain rfl := hpacked
    rcases result with e | fitted
    · exact ⟨rfl, rfl⟩
    · cases fitted with
      | true => exact ⟨rfl, rfl⟩
      | false => exact ⟨rfl, rfl⟩
  · rw [if_neg hwritable, if_neg hwritable]
    exact ⟨rfl, rfl⟩

/-! ## One concrete write -/

variable {descriptor : AttributeDescriptor} {after before : List Resolved}
  {s' : ActState η ν WriteBlock}

/-- Access is given to what is resolved, asked for at both privileges or granted before. -/
lemma checkAccess_eq_ok_iff {h : η} {carried : Bool} {path : AttributePath}
    {concrete : EndpointId × ClusterId × AttributeId} :
    srv.checkAccess h carried path concrete = .ok (resolved, descriptor) ↔
      srv.node.resolve concrete.1 concrete.2.1 concrete.2.2 = .ok resolved ∧
      resolved.cluster.attribute? concrete.2.2 = some descriptor ∧
      ∃ required, descriptor.access.write = some required ∧
        (carried = true ∨ srv.allows h path .view = .granted ∧
          srv.allows h path required = .granted) := by
  have hasked : ∀ required, (if carried then none else (srv.allows h path required).status) = none ↔
      carried = true ∨ srv.allows h path required = .granted := by
    intro required
    cases carried with
    | true => simp
    | false => cases srv.allows h path required <;> simp [Outcome.status]
  constructor
  · intro haccess
    unfold checkAccess at haccess
    simp only at haccess
    split at haccess
    · cases haccess
    rename_i hview
    split at haccess
    · cases haccess
    rename_i found hfound
    split at haccess
    · cases haccess
    rename_i attr hattr
    split at haccess
    · cases haccess
    rename_i required hrequired
    split at haccess
    · cases haccess
    rename_i hwrite
    obtain ⟨rfl, rfl⟩ := Prod.mk.inj (Except.ok.inj haccess)
    refine ⟨hfound, hattr, required, hrequired, ?_⟩
    have hview := (hasked .view).mp hview
    have hwrite := (hasked required).mp hwrite
    tauto
  · rintro ⟨hfound, hattr, required, hrequired, hgranted⟩
    have hview := (hasked .view).mpr (hgranted.imp_right And.left)
    have hwrite := (hasked required).mpr (hgranted.imp_right And.right)
    unfold checkAccess
    simp only [hview, hfound, hattr, hrequired, hwrite]

/-- The device after a concrete write has been answered or not: the calls and the versions. -/
lemma exec_serveWritePath_onto (hop : WriteOp.of data.path = some op) :
    (exec (srv.serveWritePath element (data.onto resolved) ctx) s).2.calls =
        match srv.checkAccess s.handler (s.action.alreadyGranted (idsOf resolved))
          (data.onto resolved).path (idsOf resolved) with
        | .error _ => s.calls
        | .ok (found, descriptor) =>
          match srv.checkWrite s.handler ctx data.dataVersion found descriptor with
          | some _ => s.calls
          | none => s.calls ++
              [.write found op (srv.write s.handler found data.data op ctx).1.isOk] := by
  have hpath : srv.serveWritePath element (data.onto resolved) ctx =
      srv.writeConcrete element (data.onto resolved) (idsOf resolved) op ctx := by
    unfold serveWritePath
    have hsame : WriteOp.of (data.onto resolved).path = some op := hop
    rw [hsame]
    rfl
  have hcalls : ∀ (s' : ActState η ν WriteBlock) (status : Status),
      exec (srv.concreteStatus (data.onto resolved) (idsOf resolved) op ctx) s = (.ok status, s') →
        (exec (srv.serveWritePath element (data.onto resolved) ctx) s).2.calls = s'.calls := by
    intro s' status hstatus
    rw [hpath]
    unfold writeConcrete
    rw [exec_bind_ok hstatus]
    rfl
  unfold concreteStatus at hcalls
  rw [exec_get_bind] at hcalls
  rcases haccess : srv.checkAccess s.handler (s.action.alreadyGranted (idsOf resolved))
      (data.onto resolved).path (idsOf resolved) with status | ⟨found, descriptor⟩
  · rw [haccess] at hcalls
    exact hcalls _ _ rfl
  · rw [haccess] at hcalls
    simp only at hcalls ⊢
    rw [exec_modify_bind] at hcalls
    have hversion : (data.onto resolved).dataVersion = data.dataVersion := rfl
    rw [hversion] at hcalls
    rcases hwrite : srv.checkWrite s.handler ctx data.dataVersion found descriptor with _ | status
    · rw [hwrite] at hcalls
      simp only at hcalls ⊢
      rw [exec_bind_ok (exec_callWrite ..)] at hcalls
      have hdata : (data.onto resolved).data = data.data := rfl
      simp only [hdata] at hcalls
      rcases hresult : (srv.write s.handler found data.data op ctx).1 with status | u
      · rw [hresult] at hcalls
        exact hcalls _ _ rfl
      · rw [hresult] at hcalls
        obtain ⟨v, htouch⟩ := exec_touch srv.versions found.endpoint found.cluster.id
          ({ s with
            action := .grant (idsOf resolved)
            handler := (srv.write s.handler found data.data op ctx).2
            calls := s.calls ++ [.write found op (Except.ok u : Except Status Unit).isOk] } :
              ActState η ν WriteBlock)
        exact hcalls _ _ (exec_bind_ok htouch _)
    · rw [hwrite] at hcalls
      exact hcalls { s with action := .grant (idsOf resolved) } status rfl

/-- Under its own path an attribute is written exactly if the path leads to it, the subject has the
access, and nothing refuses the write. -/
lemma written_onto_iff (hop : WriteOp.of data.path = some op) {ok : Bool} :
    (exec (srv.serveWritePath element (data.onto resolved) ctx) s).2.calls =
        s.calls ++ [.write resolved op ok] ↔
      ok = (srv.write s.handler resolved data.data op ctx).1.isOk ∧
      ∃ descriptor, srv.checkAccess s.handler (s.action.alreadyGranted (idsOf resolved))
          (data.onto resolved).path (idsOf resolved) = .ok (resolved, descriptor) ∧
        srv.checkWrite s.handler ctx data.dataVersion resolved descriptor = none := by
  rw [exec_serveWritePath_onto hop]
  constructor
  · intro hcalls
    split at hcalls
    · simp at hcalls
    rename_i found descriptor haccess
    split at hcalls
    · simp at hcalls
    rename_i hwrite
    simp only [List.append_cancel_left_eq, List.cons.injEq, Call.write.injEq, and_true] at hcalls
    obtain ⟨rfl, -, rfl⟩ := hcalls
    exact ⟨rfl, descriptor, haccess, hwrite⟩
  · rintro ⟨rfl, descriptor, haccess, hwrite⟩
    simp only [haccess, hwrite]

/-- What the loop checks. -/
lemma writable_eq_true_iff {h : η} : srv.writable h ctx resolved = true ↔
      ∃ descriptor required, resolved.cluster.attribute? resolved.attributeId = some descriptor ∧
        descriptor.access.write = some required ∧ srv.allows h resolved.path required = .granted ∧
        (descriptor.access.needsTimed && !ctx.timed) = false ∧
        unclaimed ctx resolved descriptor = false := by
  unfold writable
  rcases resolved.cluster.attribute? resolved.attributeId with _ | descriptor
  · simp
  · rcases hwrite : descriptor.access.write with _ | required
    · simp [hwrite]
    · simp only [hwrite, Bool.and_eq_true, Bool.not_eq_true', decide_eq_true_iff, Option.some.injEq,
        and_assoc]
      constructor
      · intro hchecked
        exact ⟨descriptor, required, rfl, hwrite, hchecked⟩
      · rintro ⟨_, level, rfl, hlevel, hchecked⟩
        obtain rfl : required = level := Option.some.inj (hwrite.symm.trans hlevel)
        exact hchecked

/-- A concrete write that is not refused. -/
lemma checkWrite_eq_none_iff {h : η} {expected : Option UInt32} :
    srv.checkWrite h ctx expected resolved descriptor = none ↔
      unclaimed ctx resolved descriptor = false ∧ (descriptor.access.needsTimed && !ctx.timed) = false ∧
        (descriptor.access.isFabricScoped && ctx.fabricIndex.isNone) = false ∧
        srv.stale h expected resolved = false := by
  unfold checkWrite
  generalize unclaimed ctx resolved descriptor = claim
  generalize (descriptor.access.needsTimed && !ctx.timed) = timed
  generalize (descriptor.access.isFabricScoped && ctx.fabricIndex.isNone) = fabric
  generalize srv.stale h expected resolved = version
  cases claim <;> cases timed <;> cases fabric <;> cases version <;> simp

/-- **One attribute of the loop is guarded like a concrete write exactly if it meets what the loop does
not check.** -/
lemma guardedLike_iff (hop : WriteOp.of data.path = some op) :
    srv.GuardedLike element data op ctx s resolved ↔ srv.MeetsGuards data op ctx s resolved := by
  obtain ⟨hversions, hcalls⟩ := srv.exec_writeExpanded_singleton element data.data op ctx s resolved
  unfold GuardedLike MeetsGuards
  rw [hversions, hcalls]
  by_cases hwritable : srv.writable s.handler ctx resolved = true
  · obtain ⟨descriptor, required, hattr, hrequired, -, htimed, hclaimed⟩ :=
      writable_eq_true_iff.mp hwritable
    rw [if_pos hwritable]
    constructor
    · intro hguarded _
      obtain ⟨hwritten, htouched⟩ := hguarded _ rfl
      obtain ⟨-, found, haccess, hchecked⟩ := (written_onto_iff hop).mp hwritten
      obtain ⟨hresolved, hfound, privilege, hprivilege, hgranted⟩ := checkAccess_eq_ok_iff.mp haccess
      obtain ⟨-, -, hfabric, hstale⟩ := checkWrite_eq_none_iff.mp hchecked
      refine ⟨hresolved, ?_, hstale, fun hok => (htouched hok).symm⟩
      intro other level hother hlevel
      obtain rfl : found = other := Option.some.inj (hfound.symm.trans hother)
      obtain rfl : privilege = level := Option.some.inj (hprivilege.symm.trans hlevel)
      exact ⟨hgranted, by rw [← Bool.and_eq_true, hfabric]; exact Bool.false_ne_true⟩
    · intro hmeets ok hok
      obtain ⟨hresolved, hasked, hstale, htouched⟩ := hmeets hwritable
      obtain ⟨hgranted, hfabric⟩ := hasked descriptor required hattr hrequired
      simp only [List.append_cancel_left_eq, List.cons.injEq, Call.write.injEq, and_true,
        true_and] at hok
      obtain rfl := hok
      refine ⟨(written_onto_iff hop).mpr ⟨rfl, descriptor, ?_, ?_⟩, fun hok => (htouched hok).symm⟩
      · exact checkAccess_eq_ok_iff.mpr ⟨hresolved, hattr, required, hrequired, hgranted⟩
      · exact checkWrite_eq_none_iff.mpr ⟨hclaimed, htimed,
        Bool.eq_false_iff.mpr fun hboth => hfabric ((Bool.and_eq_true _ _).mp hboth), hstale⟩
  · simp [hwritable]

/-! ## Runs over an expansion -/

/-- The loop goes on behind what it has written as if it started there. -/
lemma writeExpanded_append
    (h : exec (srv.writeExpanded element data.data op ctx before) s = (.ok true, s')) :
    exec (srv.writeExpanded element data.data op ctx (before ++ after)) s =
      exec (srv.writeExpanded element data.data op ctx after) s' := by
  induction before generalizing s with
  | nil =>
    obtain ⟨-, rfl⟩ := Prod.mk.inj h
    rfl
  | cons resolved before ih =>
    unfold writeExpanded at h
    rw [List.cons_append]
    conv_lhs => unfold writeExpanded
    rw [exec_get_bind] at h ⊢
    by_cases hwritable : srv.writable s.handler ctx resolved = true
    · rw [if_pos hwritable, exec_bind_ok (exec_callWrite ..)] at h
      rw [if_pos hwritable, exec_bind_ok (exec_callWrite ..)]
      obtain ⟨fitted, s₁, hanswer, hrest⟩ := exec_bind_eq_ok.mp h
      rw [exec_bind_ok hanswer]
      cases fitted with
      | true => exact ih hrest
      | false => exact absurd (Except.ok.inj (Prod.mk.inj hrest).1) (by simp)
    · rw [if_neg hwritable] at h ⊢
      exact ih h

/-- What a wildcard path is served as, from any attribute the loop gets to on. -/
lemma serveWritePath_from (htag : data.path.enableTagCompression = false)
    (hop : WriteOp.of data.path = some op) (hwild : data.path.concrete = none)
    (hall : srv.node.expand data.path = before ++ after)
    (h : exec (srv.writeExpanded element data.data op ctx before) s = (.ok true, s')) :
    exec (srv.serveWritePath element data ctx) s =
      exec (srv.writeExpanded element data.data op ctx after) s' := by
  unfold serveWritePath
  rw [htag, hop, hwild]
  simp only [Bool.false_eq_true, if_false]
  rw [hall]
  exact writeExpanded_append h

variable (srv element data ctx s)

/-- **A wildcard write is guarded like concrete ones exactly if every attribute its loop gets to meets
what the loop leaves out.** In every state of the run the next attribute is written as it would be under
its own path if and only if it meets the guards of a concrete write there. A wildcard with an index in
the list is discarded. -/
theorem expanded_guarded_iff (htag : data.path.enableTagCompression = false)
    (hwild : data.path.concrete = none) :
    (WriteOp.of data.path = none → exec (srv.serveWritePath element data ctx) s = (.ok true, s)) ∧
    ∀ op, WriteOp.of data.path = some op →
      (srv.DuringExpansion element data op ctx (srv.GuardedLike element data op ctx) s ↔
        srv.DuringExpansion element data op ctx (srv.MeetsGuards data op ctx) s) ∧
      ∀ before after s', srv.node.expand data.path = before ++ after →
        exec (srv.writeExpanded element data.data op ctx before) s = (.ok true, s') →
          exec (srv.serveWritePath element data ctx) s =
            exec (srv.writeExpanded element data.data op ctx after) s' := by
  constructor
  · intro hop
    unfold serveWritePath refusePath
    rw [htag, hop, hwild]
    rfl
  · intro op hop
    refine ⟨?_, fun before after s' hall hrun => serveWritePath_from htag hop hwild hall hrun⟩
    constructor
    · intro hguarded before resolved after s' hall hrun
      exact (guardedLike_iff hop).mp (hguarded before resolved after s' hall hrun)
    · intro hmeets before resolved after s' hall hrun
      exact (guardedLike_iff hop).mpr (hmeets before resolved after s' hall hrun)

end Server

namespace Lamp

/-- A server of a lamp whose cluster keeps a version of its own, which is 1. -/
def atVersionOne : Server Lamp (DataVersions 4) := { server 5 with dataVersion := fun _ _ => some 1 }

/-- Everything on endpoint 1 is to be set to 1, by someone who knows version 0. -/
def outdated : AttributeData := ⟨some 0, { endpoint := some 1 }, [0x24, 0x02, 0x01]⟩

/-- A write of the lamp, as it starts. -/
def writing : ActState Lamp (DataVersions 4) WriteBlock where
  packed := ⟨TlvWriter.newIn (room 96 room_96) .array, 0, []⟩
  handler := {}
  versions := .new 0
  action := {}
  calls := []

end Lamp

namespace Server

/-- The outdated write is made of the first attribute of endpoint 1, which a concrete path would have
answered with `DATA_VERSION_MISMATCH`. -/
theorem not_guardedLike_outdated : ¬ Lamp.atVersionOne.DuringExpansion 0 Lamp.outdated .replace {}
      (Lamp.atVersionOne.GuardedLike 0 Lamp.outdated .replace {}) Lamp.writing := by
  intro hguarded
  have hall : Lamp.atVersionOne.node.expand Lamp.outdated.path =
      [] ++ ⟨1, Lamp.cluster, 0⟩ :: (Lamp.atVersionOne.node.expand Lamp.outdated.path).tail := by
    decide +kernel
  have hfirst := (guardedLike_iff rfl).mp (hguarded [] _ _ _ hall rfl)
  have hmeets := hfirst (by decide +kernel)
  exact absurd hmeets.2.2.1 (by decide +kernel)

/-- The outdated write, as a write like others. -/
theorem expanded_guarded_iff_outdated : (WriteOp.of Lamp.outdated.path = none →
      exec (Lamp.atVersionOne.serveWritePath 0 Lamp.outdated {}) Lamp.writing = (.ok true, Lamp.writing)) ∧
    ∀ op, WriteOp.of Lamp.outdated.path = some op →
      (Lamp.atVersionOne.DuringExpansion 0 Lamp.outdated op {}
          (Lamp.atVersionOne.GuardedLike 0 Lamp.outdated op {}) Lamp.writing ↔
        Lamp.atVersionOne.DuringExpansion 0 Lamp.outdated op {}
          (Lamp.atVersionOne.MeetsGuards Lamp.outdated op {}) Lamp.writing) ∧
      ∀ before after s', Lamp.atVersionOne.node.expand Lamp.outdated.path = before ++ after →
        exec (Lamp.atVersionOne.writeExpanded 0 Lamp.outdated.data op {} before) Lamp.writing =
            (.ok true, s') → exec (Lamp.atVersionOne.serveWritePath 0 Lamp.outdated {}) Lamp.writing =
            exec (Lamp.atVersionOne.writeExpanded 0 Lamp.outdated.data op {} after) s' :=
  expanded_guarded_iff Lamp.atVersionOne 0 Lamp.outdated {} Lamp.writing rfl rfl

end Server

end MatterKit.Im
