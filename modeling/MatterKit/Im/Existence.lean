import MatterKit.Im.Invoke
import MatterKit.Im.Serving

/-!
# Existence does not leak

What a subject without access learns of a node. The first access check of a concrete path comes before
anything is looked up, so a subject that is refused there gets the same status from every node: for
reads and writes the check is at View, for commands at Operate. An expanded path is answered only for
what the subject may read.

For writes there is one state to keep track of: an action does not ask again about the path it was last
granted. A path in a cluster the subject may not view is never granted (`serveWrites_ungranted`), so
the first check is made for it whatever the action has done before.
-/

namespace MatterKit.Im

open Lib Machine Tlv Dm

variable {η η₁ η₂ ν β : Type}

namespace Server

/-- The answers of the access control depend only on the endpoint and the cluster. -/
def ByCluster (srv : Server η ν)
    (allows : Option EndpointId → Option ClusterId → Privilege → Outcome) : Prop :=
  ∀ h path required, srv.allows h path required = allows path.endpoint path.cluster required

/-- The subject may read an attribute. -/
def MayRead (srv : Server η ν) (h : η) (resolved : Resolved) : Prop :=
  ∃ descriptor required, resolved.cluster.attribute? resolved.attributeId = some descriptor ∧
    descriptor.access.read = some required ∧ srv.allows h resolved.path required = .granted

lemma mayRead_of_readable {srv : Server η ν} {h : η} {resolved : Resolved}
    (hreadable : srv.readable h resolved = true) : srv.MayRead h resolved := by
  unfold readable at hreadable
  split at hreadable
  · cases hreadable
  rename_i descriptor hdescriptor
  split at hreadable
  · cases hreadable
  rename_i required hrequired
  exact ⟨descriptor, required, hdescriptor, hrequired, of_decide_eq_true hreadable⟩

end Server

lemma Outcome.exists_status {o : Outcome} (h : o ≠ .granted) : ∃ status, o.status = some status := by
  cases o with
  | granted => exact absurd rfl h
  | denied | restricted => exact ⟨_, rfl⟩

lemma AttributePath.concrete_eq_some_iff {path : AttributePath} {e : EndpointId} {c : ClusterId}
    {a : AttributeId} : path.concrete = some (e, c, a) ↔
      path.endpoint = some e ∧ path.cluster = some c ∧ path.attributeId = some a := by
  unfold concrete
  split
  · rename_i he hc ha
    simp [he, hc, ha]
  · rename_i hnone
    constructor
    · intro h
      cases h
    · rintro ⟨he, hc, ha⟩
      exact absurd ha (hnone e c a he hc)

lemma CommandPath.concrete_eq_some_iff {path : CommandPath} {e : EndpointId} {c : ClusterId}
    {id : CommandId} : path.concrete = some (e, c, id) ↔
      path.endpoint = some e ∧ path.cluster = some c ∧ path.command = some id := by
  unfold concrete
  split
  · rename_i he hc hid
    simp [he, hc, hid]
  · rename_i hnone
    constructor
    · intro h
      cases h
    · rintro ⟨he, hc, hid⟩
      exact absurd hid (hnone e c id he hc)

/-! ## Reads -/

namespace Server

variable {srv : Server η ν} {path : AttributePath} {concrete : EndpointId × ClusterId × AttributeId}
  {status : Status} {allows : Option EndpointId → Option ClusterId → Privilege → Outcome}

/-- A concrete path in a cluster the subject may not view is answered without a look at the node. -/
lemma servePathChunked_of_denied {h : η} (hconcrete : path.concrete = some concrete)
    (hdenied : (srv.allows h path .view).status = some status) (ctx : InteractionContext)
    (scratch : Slice) : srv.servePathChunked h path ctx scratch =
      srv.writeStatus path (if path.enableTagCompression then .invalidAction else status) := by
  unfold servePathChunked
  simp only [hconcrete, Option.isSome_some, if_true]
  split_ifs
  · rfl
  · unfold serveConcrete
    simp only [hdenied]

/-- A wildcard is answered for attributes the subject may read. -/
lemma servePathChunked_adds_readable (srv : Server η ν) (h : η) (hwild : path.concrete = none)
    (ctx : InteractionContext) (scratch : Slice) : Moves (Adds fun b => ∀ p, b.attributePath? = some p →
        ∃ resolved, resolved.path = p ∧ srv.MayRead h resolved)
      (srv.servePathChunked h path ctx scratch) := by
  unfold servePathChunked
  simp only [hwild, Option.isSome_none, Bool.false_eq_true, if_false]
  split_ifs
  · exact Moves.pure true
  · apply Moves.get
    intro s
    refine srv.serveExpanded_adds h ctx scratch (fun entry _ hreadable => ?_) s
    refine adds_mono ?_ (srv.writeData_adds h ctx scratch entry.2)
    intro b habout p hp
    exact ⟨entry.2, Option.some.inj (habout.symm.trans hp), mayRead_of_readable hreadable⟩

/-! ## Writes -/

/-- No path of the cluster has been granted to the action. -/
def Ungranted (e : EndpointId) (c : ClusterId) (s : ActState η ν β) : Prop :=
  ∀ a, s.action.granted ≠ some (e, c, a)

/-- A step does not grant a path of the cluster. -/
def GrantsNone (e : EndpointId) (c : ClusterId) (s s' : ActState η ν β) : Prop :=
  Ungranted e c s → Ungranted e c s'

instance (e : EndpointId) (c : ClusterId) :
    Std.Refl (GrantsNone e c : ActState η ν β → ActState η ν β → Prop) where
  refl _ := id

instance (e : EndpointId) (c : ClusterId) :
    IsTrans (ActState η ν β) (GrantsNone e c) where
  trans _ _ _ h h' := fun hs => h' (h hs)

variable {e : EndpointId} {c : ClusterId}

lemma writeResponseStatus_ungranted (srv : Server η ν) (element : ℕ) (path : AttributePath)
    (status : Status) : Moves (GrantsNone e c) (srv.writeResponseStatus element path status) := fun _ => id

lemma callWrite_ungranted (srv : Server η ν) (resolved : Resolved) (data : List UInt8)
    (op : WriteOp) (ctx : InteractionContext) :
    Moves (GrantsNone e c) (srv.callWrite resolved data op ctx) := fun _ => id

lemma touch_ungranted (versions : Option (DataVersionSource ν)) (endpoint : EndpointId)
    (cluster : ClusterId) :
    Moves (GrantsNone e c) (Acting.touch versions endpoint cluster : Acting η ν β Unit) := by
  unfold Acting.touch
  cases versions with
  | none => exact Moves.pure ()
  | some source => exact fun _ => id

/-- The subject may not view the cluster. -/
def NoView (srv : Server η ν) (e : EndpointId) (c : ClusterId) : Prop :=
  ∀ h path, path.endpoint = some e → path.cluster = some c → srv.allows h path .view ≠ .granted

/-- A path that is not granted yet fails its first check in a cluster the subject may not view. -/
lemma checkAccess_of_denied {h : η} (hdenied : (srv.allows h path .view).status = some status) :
    srv.checkAccess h false path concrete = .error status := by
  unfold checkAccess
  simp only [Bool.false_eq_true, if_false, hdenied]

lemma concreteStatus_ungranted (hview : srv.NoView e c) (data : AttributeData)
    (hconcrete : data.path.concrete = some concrete) (op : WriteOp) (ctx : InteractionContext) :
    Moves (GrantsNone e c) (srv.concreteStatus data concrete op ctx) := by
  apply Moves.get
  intro s hs
  rcases haccess : srv.checkAccess s.handler (s.action.alreadyGranted concrete) data.path concrete
    with status | ⟨resolved, descriptor⟩
  · exact hs
  -- The path passed its first check or was granted before: either way it is in another cluster.
  have hother : ∀ a, concrete ≠ (e, c, a) := by
    rintro a rfl
    obtain ⟨he, hc, -⟩ := AttributePath.concrete_eq_some_iff.mp hconcrete
    have hfirst : s.action.alreadyGranted (e, c, a) = false := by
      unfold WriteAction.alreadyGranted
      exact beq_eq_false_iff_ne.mpr (hs a)
    obtain ⟨status, hstatus⟩ := Outcome.exists_status (hview s.handler data.path he hc)
    rw [hfirst, checkAccess_of_denied hstatus] at haccess
    cases haccess
  have hgrant : Moves (GrantsNone e c) (modify fun s => { s with action := .grant concrete } :
      Acting η ν WriteBlock Unit) := by
    refine Moves.modify fun s _ a hgranted => ?_
    exact hother a (Option.some.inj hgranted)
  refine Moves.bind hgrant (fun _ => ?_) s hs
  split
  · exact Moves.pure _
  · refine (callWrite_ungranted srv resolved data.data op ctx).bind fun result => ?_
    cases result with
    | error status => exact Moves.pure status
    | ok _ => exact (touch_ungranted _ _ _).bind fun _ => Moves.pure _

lemma writeExpanded_ungranted (srv : Server η ν) (element : ℕ) (data : List UInt8) (op : WriteOp)
    (ctx : InteractionContext) (rest : List Resolved) :
    Moves (GrantsNone e c) (srv.writeExpanded element data op ctx rest) := by
  induction rest with
  | nil => exact Moves.pure true
  | cons resolved rest ih =>
    apply Moves.get
    intro s
    split_ifs
    · refine ((callWrite_ungranted srv resolved data op ctx).bind fun result =>
        (writeResponseStatus_ungranted srv element resolved.path _).bind fun fitted => ?_) s
      cases fitted with
      | true => exact ih
      | false => exact Moves.pure false
    · exact ih s

lemma serveWritePath_ungranted (hview : srv.NoView e c) (element : ℕ) (data : AttributeData)
    (ctx : InteractionContext) : Moves (GrantsNone e c) (srv.serveWritePath element data ctx) := by
  have hrefused : Moves (GrantsNone e c) (srv.refusePath element data.path) := by
    unfold refusePath
    split_ifs
    · exact writeResponseStatus_ungranted srv element _ _
    · exact Moves.pure true
  unfold serveWritePath
  split_ifs
  · exact hrefused
  · split
    · exact hrefused
    split
    · rename_i hconcrete
      exact (concreteStatus_ungranted hview data hconcrete _ ctx).bind fun status =>
        writeResponseStatus_ungranted srv element _ status
    · exact writeExpanded_ungranted srv element _ _ ctx _

/-- Serving the elements of a request never grants a path of a cluster the subject may not view. -/
lemma serveWrites_ungranted (hview : srv.NoView e c) (ctx : InteractionContext) (element : ℕ)
    (elements : List (Except ErrorCode AttributeData)) :
    Moves (GrantsNone e c) (srv.serveWrites ctx element elements) := by
  induction elements generalizing element with
  | nil => exact Moves.pure false
  | cons data elements ih =>
    apply Moves.ofResult_bind
    rintro d -
    refine (serveWritePath_ungranted hview element d ctx).bind fun fitted => ?_
    cases fitted with
    | true => exact ih (element + 1)
    | false => exact Moves.pure true

/-- A state that serving the elements of a write request leads to. -/
def ReachedWriting (srv : Server η ν) (ctx : InteractionContext) (s : ActState η ν WriteBlock) : Prop :=
  ∃ elements s₀, s₀.action = {} ∧ s = (exec (srv.serveWrites ctx 0 elements) s₀).2

/-- The status of a concrete write that fails its first check. -/
def deniedWrite (path : AttributePath) (status : Status) : Status :=
  if path.enableTagCompression = true ∨ WriteOp.of path = none then .invalidAction else status

lemma serveWritePath_of_denied (hview : srv.NoView e c) {data : AttributeData} {a : AttributeId}
    (hconcrete : data.path.concrete = some (e, c, a))
    (hdenied : ∀ h, (srv.allows h data.path .view).status = some status) {ctx : InteractionContext}
    {s : ActState η ν WriteBlock} (hs : srv.ReachedWriting ctx s) (element : ℕ) :
    exec (srv.serveWritePath element data ctx) s =
      exec (srv.writeResponseStatus element data.path (deniedWrite data.path status)) s := by
  obtain ⟨elements, s₀, hinit, rfl⟩ := hs
  have hungranted := serveWrites_ungranted hview ctx 0 elements s₀ (by simp [Ungranted, hinit])
  generalize (exec (srv.serveWrites ctx 0 elements) s₀).2 = s at hungranted
  unfold serveWritePath refusePath deniedWrite
  simp only [hconcrete, Option.isSome_some, if_true]
  by_cases htag : data.path.enableTagCompression = true
  · rw [if_pos htag, if_pos (.inl htag)]
  rw [if_neg htag]
  rcases hop : WriteOp.of data.path with _ | op
  · rw [if_pos (.inr rfl)]
  rw [if_neg (by simp [htag])]
  have hfirst : s.action.alreadyGranted (e, c, a) = false := by
    unfold WriteAction.alreadyGranted
    exact beq_eq_false_iff_ne.mpr (hungranted a)
  have hstatus : exec (srv.concreteStatus data (e, c, a) op ctx) s = (.ok status, s) := by
    unfold concreteStatus
    rw [exec_get_bind]
    rw [hfirst, checkAccess_of_denied (hdenied s.handler)]
    rfl
  exact exec_bind_ok hstatus _

/-! ## Commands -/

/-- A concrete command in a cluster the subject may not operate is answered without a look at the
node. -/
lemma serveInvokeCommand_of_denied {command : CommandData} {concrete : EndpointId × ClusterId × CommandId}
    (hconcrete : command.path.concrete = some concrete)
    (hdenied : ∀ h, (srv.allows h (commandAsAttributePath command.path) .operate).status =
      some status) (ctx : InteractionContext) (scratch : Slice) (s : ActState η ν InvokeResponse) :
    exec (srv.serveInvokeCommand command ctx scratch) s =
      exec (srv.commandStatus command.path (.new status) command.commandRef) s := by
  unfold serveInvokeCommand
  simp only [hconcrete]
  unfold invokeConcrete
  rw [exec_get_bind]
  have hcheck : srv.checkCommand s.handler command.path concrete ctx = .error status := by
    unfold checkCommand
    simp only [hdenied]
  rw [hcheck]

/-! ## Two nodes -/

lemma ByCluster.status_of_denied {required : Privilege} (hby : srv.ByCluster allows)
    (hstatus : (allows (some e) (some c) required).status = some status)
    (he : path.endpoint = some e) (hc : path.cluster = some c) (h : η) :
    (srv.allows h path required).status = some status := by
  rw [hby, he, hc, hstatus]

lemma ByCluster.noView (hby : srv.ByCluster allows)
    (hdenied : allows (some e) (some c) .view ≠ .granted) : srv.NoView e c := by
  intro h path he hc
  rwa [hby, he, hc]

end Server

end MatterKit.Im
