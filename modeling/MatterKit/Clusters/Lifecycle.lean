import MatterKit.Clusters.Contexts
import MatterKit.Im.Invoke

/-!
# What a message leaves to the device

A fabric that comes or goes and a fail-safe context that ends leave work to the device: sessions to
close, entries of the access control list to make or drop, a rollback. The two clusters do not do it.
They put it into a cell, `change` and `aftermath`, and the device takes what is in the cells when a
message has been served.

A command puts its work into the cell whatever the cell holds, so nothing is lost exactly when every
command that leaves work finds room for it (`reports_iff_finds_room`).
-/

namespace MatterKit.Clusters

open Lib Machine Tlv Dm Im Commissioning OperationalCredentials

/-! ## A cell and what was put into it -/

section cell

variable {α β : Type} {l : List α} {a : α}

/-- All that was put into the cell is what it holds, one thing further. -/
lemma forall_mem_append_singleton_iff : (∀ x ∈ l ++ [a], a = x) ↔
      (∀ x ∈ l, l.getLast? = some x) ∧ ∀ x, l.getLast? = some x → x = a := by
  constructor
  · intro h
    have hold : ∀ x ∈ l, a = x := fun x hx => h x (List.mem_append_left _ hx)
    refine ⟨fun x hx => ?_, fun x hx => (hold x (List.mem_of_getLast? hx)).symm⟩
    have hlast := List.getLast?_eq_some_getLast (List.ne_nil_of_mem hx)
    exact hlast.trans (congrArg some ((hold _ (List.mem_of_getLast? hlast)).symm.trans (hold x hx)))
  · rintro ⟨hold, hlast⟩ x hx
    rcases List.mem_append.mp hx with hx | hx
    · exact (hlast x (hold x hx)).symm
    · exact (List.mem_singleton.mp hx).symm

/-- What was put into the cell and matters is what it holds, one thing further. -/
lemma filterMap_append_singleton_iff (r : α → Option β) : (l ++ [a]).filterMap r = [a].filterMap r ↔
      l.filterMap r = l.getLast?.toList.filterMap r ∧ l.getLast?.bind r = none := by
  rw [List.filterMap_append, List.append_left_eq_self]
  constructor
  · intro h
    have hnone : l.getLast?.bind r = none := by
      cases hlast : l.getLast? with
      | none => rfl
      | some x => exact List.filterMap_eq_nil_iff.mp h x (List.mem_of_getLast? hlast)
    refine ⟨?_, hnone⟩
    rw [h]
    cases hlast : l.getLast? with
    | none => rfl
    | some x =>
      rw [hlast] at hnone
      simpa using hnone
  · rintro ⟨h, hnone⟩
    rw [h]
    cases hlast : l.getLast? with
    | none => rfl
    | some x =>
      rw [hlast] at hnone
      simpa using hnone

end cell

/-! ## What happens to the fabrics -/

/-- What a credential command can make of a fabric. -/
inductive FabricEvent
  | added (index : FabricIndex)
  | updated (index : FabricIndex)
  | removed (index : FabricIndex)
  deriving DecidableEq

/-- What a change tells the device. -/
def FabricChange.event : FabricChange → FabricEvent
  | .added index _ _ => .added index
  | .updated index => .updated index
  | .removed index _ _ => .removed index

/-- The cleanup the device is told of. -/
def Aftermath.cleanup : Aftermath → Option Cleanup
  | .rollback cleanup => some cleanup
  | .commissioned => none

section events

variable {N : ℕ} {K : Type} (c : CredentialCrypto K) (store : KeyStore K)

/-- What a credential command made of a fabric, read off the table before and after it, and for an
`UpdateNOC` off its answer. -/
def happened (command : CredentialCommand) (ctx : InteractionContext)
    (before after : CommissioningNode N K) : Option FabricEvent :=
  match command with
  | .addNoc _ => (addedFabric before.fabrics after.fabrics).map .added
  | .updateNoc _ _ => (replacedFabric c store command ctx before).map .updated
  | .removeFabric index =>
    if after.fabrics.len < before.fabrics.len then some (.removed index) else none
  | _ => none

/-- What a credential command is about to make of a fabric, from the node as the command finds it. -/
def foretold (command : CredentialCommand) (ctx : InteractionContext) (s : CommissioningNode N K) :
    Option FabricEvent :=
  match command with
  | .addNoc request => (newFabric c s request ctx).map .added
  | .updateNoc noc icac =>
    if (checkUpdateNoc c s noc icac ctx).isOk then ctx.fabricIndex.map .updated else none
  | .removeFabric index => if (s.fabrics.find index).isSome then some (.removed index) else none
  | _ => none

variable {c store} {s : CommissioningNode N K} {ctx : InteractionContext}

variable {command : CredentialCommand} {s' : CommissioningNode N K}

/-- A command that is none of the three leaves the cell alone. -/
lemma Effect.change_of_other (heffect : Effect c store ctx s command s')
    (hadd : ∀ request, command ≠ .addNoc request) (hupdate : ∀ noc icac, command ≠ .updateNoc noc icac)
    (hremove : ∀ index, command ≠ .removeFabric index) : s'.change = s.change := by
  cases heffect with
  | nothing => rfl
  | keyed random hlive hadded hupdated => exact dropPendingKey_change store s
  | awaiting random key publicKey hlive hadded hupdated hgenerated =>
    exact dropPendingKey_change store s
  | rooted hlive => rfl
  | allocated hkept | joined hawaited hkey hunused happended => exact absurd rfl (hadd _)
  | rotated hcheck hawaited => exact absurd rfl (hupdate _ _)
  | relabelled hkept | stated hkept => rfl
  | removed hremoved => exact absurd rfl (hremove _)

/-- No credential command touches the other cluster's cell. -/
lemma Effect.aftermath (heffect : Effect c store ctx s command s') : s'.aftermath = s.aftermath := by
  cases heffect with
  | keyed random hlive hadded hupdated => exact dropPendingKey_aftermath store s
  | awaiting random key publicKey hlive hadded hupdated hgenerated =>
    exact dropPendingKey_aftermath store s
  | _ => rfl

/-- A credential command does what was foretold, and puts it into the cell. -/
lemma perform_happened (command : CredentialCommand) (random : Except ErrorCode (List UInt8)) :
    happened c store command ctx s (exec (OperationalCredentials.perform c store command ctx random) s).2 =
      foretold c command ctx s ∧
    (exec (OperationalCredentials.perform c store command ctx random) s).2.change.map FabricChange.event =
      (foretold c command ctx s).or (s.change.map FabricChange.event) := by
  have heffect := perform_effect c store command ctx random s
  cases command with
  | addNoc request =>
    rw [OperationalCredentials.perform, exec_bind_snd fun _ _ => rfl, happened, foretold]
    obtain ⟨answer, fabrics, -, hnew, hkept, hrun⟩ | ⟨armed, pending, fabric, fabrics, -, hnew, -,
      hunused, happended, hrun⟩ := addNoc_cases c s request ctx
    · rw [hrun, hnew, addedFabric_of_map_index (by rw [hkept])]
      exact ⟨rfl, rfl⟩
    · rw [hrun, hnew]
      exact ⟨congrArg (Option.map _) (addedFabric_of_append happended hunused), rfl⟩
  | updateNoc noc icac =>
    rw [OperationalCredentials.perform, exec_bind_snd fun _ _ => rfl, happened, foretold]
    cases hcheck : checkUpdateNoc c s noc icac ctx with
    | error refusal =>
      rw [exec_updateNoc_of_error hcheck, ContextHistory.replacedFabric_of_error hcheck]
      exact ⟨rfl, rfl⟩
    | ok found =>
      obtain ⟨pending, existing, identity, credentials⟩ := found
      obtain ⟨armed, hawaited, haccessing, -⟩ := checkUpdateNoc_ok hcheck
      rw [replacedFabric, exec_updateNoc_of_ok hcheck hawaited.live, haccessing]
      exact ⟨rfl, rfl⟩
  | removeFabric index =>
    rw [OperationalCredentials.perform, exec_bind_snd fun _ _ => rfl, happened, foretold, removeFabric,
      exec_get_bind]
    cases hremoved : s.fabrics.remove index with
    | none =>
      rw [FabricTable.remove_eq_none_iff.mp hremoved]
      exact ⟨if_neg (lt_irrefl _), rfl⟩
    | some found =>
      obtain ⟨fabric, fabrics⟩ := found
      rw [(FabricTable.remove_eq_some hremoved).1]
      exact ⟨if_pos (FabricTable.len_lt_of_remove hremoved), rfl⟩
  | _ =>
    rw [Effect.change_of_other heffect (by simp) (by simp) (by simp)]
    exact ⟨rfl, rfl⟩

end events

/-! ## What happens to the fail-safe context -/

section contexts

variable {N : ℕ} {K : Type}

/-- What a command of General Commissioning left to the device: the cleanup that it returned, or the
news of a completed commissioning. -/
def leftBy (command : CommandId) (fields : Option (List UInt8)) (ctx : InteractionContext)
    (s : CommissioningNode N K) : Option Aftermath :=
  if command = GeneralCommissioning.armFailSafeCommand then
    (GeneralCommissioning.ArmFailSafeRequest.decode fields).toOption.bind fun request =>
      (GeneralCommissioning.armFailSafe s request.expiryLengthSeconds request.breadcrumb
        ctx).1.2.map .rollback
  else if command = GeneralCommissioning.commissioningCompleteCommand then
    let ((error, cleanup), _) := GeneralCommissioning.commissioningComplete s ctx
    (cleanup.map .rollback).or (if error = .ok then some .commissioned else none)
  else none

/-- Whether an `ArmFailSafe` is about to end the context: its time is over, or the fabric that it
belongs to asks for no more time. -/
def endsByArming (fs : FailSafe) (seconds : UInt16) (fabric : Option FabricIndex) (now : Instant) :
    Bool :=
  fs.armed.any fun armed =>
    armed.hasExpired now || (decide (armed.fabricIndex = fabric) && decide (seconds = 0))

/-- Whether a `CommissioningComplete` is about to end the context: its time is over, or the fabric that
it belongs to completes it. -/
def endsByCompletion (fs : FailSafe) (fabric : Option FabricIndex) (now : Instant) : Bool :=
  fs.armed.any fun armed =>
    armed.hasExpired now || (decide (armed.fabricIndex = fabric) && fabric.isSome)

/-- Whether a command of General Commissioning is about to end the context. -/
def endsContext (command : CommandId) (fields : Option (List UInt8)) (ctx : InteractionContext)
    (s : CommissioningNode N K) : Bool :=
  if command = GeneralCommissioning.armFailSafeCommand then
    (GeneralCommissioning.ArmFailSafeRequest.decode fields).toOption.any fun request =>
      endsByArming s.failSafe request.expiryLengthSeconds ctx.fabricIndex ctx.now
  else if command = GeneralCommissioning.commissioningCompleteCommand then
    endsByCompletion s.failSafe ctx.fabricIndex ctx.now
  else false

/-- An `ArmFailSafe` returns a cleanup exactly when it ends the context. -/
lemma isSome_cleanup_arm (fs : FailSafe) (seconds : UInt16) (breadcrumb : UInt64)
    (fabric : Option FabricIndex) (now : Instant) (window : Bool) :
    (fs.arm seconds breadcrumb fabric now window).1.cleanup.isSome =
      endsByArming fs seconds fabric now := by
  rw [FailSafe.arm_eq]
  obtain harmed | ⟨armed, hlive⟩ | ⟨armed, harmed, hexpired⟩ := FailSafe.cases_at fs now
  · rw [FailSafe.expire_of_none harmed, endsByArming, harmed]
    obtain hcase | hcase | ⟨expiresAt, hcase⟩ := FailSafe.armLive_cases_of_none harmed
    all_goals
      rw [hcase]
      rfl
  · obtain ⟨harmed, hfresh⟩ := FailSafe.armedAt_eq_some_iff.mp hlive
    rw [FailSafe.expire_of_live hlive, endsByArming, harmed, FailSafe.armLive, hlive]
    dsimp only
    split_ifs <;> simp_all
  · rw [FailSafe.expire_of_lapsed harmed hexpired, endsByArming, harmed, Option.any_some, hexpired]
    have hidle : ({ fs with armed := none, breadcrumb := 0 } : FailSafe).armed = none := rfl
    obtain hcase | hcase | ⟨expiresAt, hcase⟩ := FailSafe.armLive_cases_of_none hidle
    all_goals
      rw [hcase]
      rfl

/-- A `CommissioningComplete` returns a cleanup or is answered OK exactly when it ends the context. -/
lemma isSome_cleanup_complete (fs : FailSafe) (fabric : Option FabricIndex) (now : Instant) :
    ((fs.complete fabric.isSome fabric now).1.cleanup.isSome ||
        decide ((fs.complete fabric.isSome fabric now).1.error = .ok)) =
      endsByCompletion fs fabric now := by
  rw [FailSafe.complete_eq]
  obtain harmed | ⟨armed, hlive⟩ | ⟨armed, harmed, hexpired⟩ := FailSafe.cases_at fs now
  · rw [FailSafe.expire_of_none harmed, endsByCompletion, harmed, FailSafe.completeLive_of_none harmed]
    rfl
  · obtain ⟨harmed, hfresh⟩ := FailSafe.armedAt_eq_some_iff.mp hlive
    rw [FailSafe.expire_of_live hlive, endsByCompletion, harmed, FailSafe.completeLive_of_live hlive]
    cases fabric with
    | none => simp [hfresh]
    | some index =>
      by_cases hsame : armed.fabricIndex = some index
      · simp [hfresh, hsame]
      · simp [hfresh, hsame, Ne.symm hsame]
  · rw [FailSafe.expire_of_lapsed harmed hexpired, endsByCompletion, harmed, Option.any_some, hexpired,
      FailSafe.completeLive_of_none rfl]
    rfl

/-- A command leaves something to the device exactly when it ends the context. -/
lemma isSome_leftBy (command : CommandId) (fields : Option (List UInt8)) (ctx : InteractionContext)
    (s : CommissioningNode N K) :
    (leftBy command fields ctx s).isSome = endsContext command fields ctx s := by
  unfold leftBy endsContext
  split_ifs
  · cases GeneralCommissioning.ArmFailSafeRequest.decode fields with
    | error status => rfl
    | ok request =>
      have hcleanup := isSome_cleanup_arm s.failSafe request.expiryLengthSeconds request.breadcrumb
        ctx.fabricIndex ctx.now ((s.window.openAt ctx.now).isSome && ctx.fabricIndex.isSome)
      simpa [Except.toOption, GeneralCommissioning.armFailSafe] using hcleanup
  · have hcomplete := isSome_cleanup_complete s.failSafe ctx.fabricIndex ctx.now
    rw [← hcomplete]
    simp only [GeneralCommissioning.commissioningComplete, Option.isSome_or, Option.isSome_map]
    split_ifs with hok
    · simp [hok]
    · simp [hok]
  · rfl

lemma setRegulatoryConfig_cells (s : CommissioningNode N K)
    (request : GeneralCommissioning.SetRegulatoryConfigRequest) :
    (GeneralCommissioning.setRegulatoryConfig s request).2.aftermath = s.aftermath ∧
      (GeneralCommissioning.setRegulatoryConfig s request).2.change = s.change := by
  unfold GeneralCommissioning.setRegulatoryConfig
  dsimp only
  split_ifs
  · exact ⟨rfl, rfl⟩
  · exact ⟨rfl, rfl⟩
  · exact ⟨rfl, rfl⟩

lemma commissioningComplete_cells (s : CommissioningNode N K) (ctx : InteractionContext) :
    (GeneralCommissioning.commissioningComplete s ctx).2.aftermath = s.aftermath ∧
      (GeneralCommissioning.commissioningComplete s ctx).2.change = s.change := by
  unfold GeneralCommissioning.commissioningComplete
  dsimp only
  split_ifs
  · exact ⟨rfl, rfl⟩
  · exact ⟨rfl, rfl⟩

/-- A command of General Commissioning puts what it leaves into the cell, and touches no other. -/
lemma generalCommissioning_cells (command : CommandId) (fields : Option (List UInt8))
    (ctx : InteractionContext) (s : CommissioningNode N K) :
    (exec (GeneralCommissioning.run command fields ctx) s).2.aftermath =
        (leftBy command fields ctx s).or s.aftermath ∧
      (exec (GeneralCommissioning.run command fields ctx) s).2.change = s.change := by
  unfold GeneralCommissioning.run leftBy
  split_ifs with harm hset hcomplete hcomplete
  · rw [GeneralCommissioning.runArmFailSafe]
    cases GeneralCommissioning.ArmFailSafeRequest.decode fields with
    | error status => exact ⟨rfl, rfl⟩
    | ok request => exact ⟨rfl, rfl⟩
  · rw [hset] at hcomplete
    cases hcomplete
  · rw [GeneralCommissioning.runSetRegulatoryConfig]
    cases GeneralCommissioning.SetRegulatoryConfigRequest.decode fields with
    | error status => exact ⟨rfl, rfl⟩
    | ok request =>
      have hkept := setRegulatoryConfig_cells s request
      exact ⟨hkept.1, hkept.2⟩
  · have hkept := commissioningComplete_cells s ctx
    refine ⟨?_, hkept.2⟩
    exact congrArg (Option.or _) hkept.1
  · exact ⟨rfl, rfl⟩

end contexts

/-! ## The clusters of a device -/

/-- A command that a cluster has handled: the node before, what was asked for, and the node after. -/
structure Handled (N : ℕ) (K : Type) where
  before : CommissioningNode N K
  cluster : ClusterId
  command : CommandId
  fields : Option (List UInt8)
  ctx : InteractionContext
  after : CommissioningNode N K

namespace Handled

variable {N : ℕ} {K : Type} (c : CredentialCrypto K) (store : KeyStore K)

/-- The fabric that the command added, updated or removed. -/
def event (h : Handled N K) : Option FabricEvent :=
  if h.cluster = OperationalCredentials.clusterId then
    (decode h.command h.fields).toOption.bind fun command =>
      happened c store command h.ctx (reap store h.ctx.now h.before) h.after
  else none

/-- What the command left of the fail-safe context. -/
def left (h : Handled N K) : Option Aftermath :=
  if h.cluster = GeneralCommissioning.clusterId then leftBy h.command h.fields h.ctx h.before
  else none

/-- The fabric that the command is about to add, update or remove. -/
def toHappen (h : Handled N K) : Option FabricEvent :=
  if h.cluster = OperationalCredentials.clusterId then
    (decode h.command h.fields).toOption.bind fun command =>
      foretold c command h.ctx (reap store h.ctx.now h.before)
  else none

/-- Whether the command is about to end the fail-safe context. -/
def ends (h : Handled N K) : Bool :=
  decide (h.cluster = GeneralCommissioning.clusterId) &&
    endsContext h.command h.fields h.ctx h.before

/-- The cells have room for what the command is about to leave: one that is about to change a fabric
finds no change in the cell but the same one, and one that is about to end the fail-safe context finds
no cleanup. -/
def FindsRoom (h : Handled N K) : Prop :=
  (∀ event, h.toHappen c store = some event →
    ∀ change, h.before.change = some change → change.event = event) ∧
  (h.ends = true → h.before.aftermath.bind Aftermath.cleanup = none)

/-- What a command does to the cells: it puts there what it leaves, whatever they hold. -/
structure Fills (h : Handled N K) : Prop where
  foretold : h.event c store = h.toHappen c store
  ends : h.left.isSome = h.ends
  change : h.after.change.map FabricChange.event =
    (h.toHappen c store).or (h.before.change.map FabricChange.event)
  aftermath : h.after.aftermath = h.left.or h.before.aftermath

end Handled

/-- The clusters of a device behind one dispatcher: the node that General Commissioning and Operational
Credentials work on, the random generator of the latter, what the other clusters keep, and the commands
that were handled. -/
structure Handlers (N : ℕ) (K R Ω : Type) where
  node : CommissioningNode N K
  rng : R
  other : Ω
  handled : List (Handled N K) := []

/-- The other clusters of a device. They share the node with the two, but not their cells. -/
structure OtherClusters (N : ℕ) (K Ω : Type) where
  invoke : CommissioningNode N K → Ω → ResolvedCommand → Option (List UInt8) → InteractionContext →
    TlvWriter → Tag → Except StatusIb (Option CommandId) × TlvWriter × CommissioningNode N K × Ω

namespace Handlers

variable {N : ℕ} {K R Ω ν : Type} (c : CredentialCrypto K) (store : KeyStore K)
  (draw : R → Except ErrorCode (List UInt8) × R) (others : OtherClusters N K Ω)

/-- The random octets a command asks for.
Source: `OperationalCredentials::run`, `self.rng.borrow_mut().fill(&mut random)`. -/
def drawFor (rng : R) (command : CommandId) (fields : Option (List UInt8)) :
    Except ErrorCode (List UInt8) × R :=
  match decode command fields with
  | .ok (.csrRequest _ _) => draw rng
  | _ => (.ok [], rng)

/-- A command is given to the cluster with its id.
Source: `clusters/mod.rs`, the `invoke` of a tuple of clusters. -/
def route (h : Handlers N K R Ω) (resolved : ResolvedCommand) (fields : Option (List UInt8))
    (ctx : InteractionContext) (w : TlvWriter) (tag : Tag) :
    Except StatusIb (Option CommandId) × TlvWriter × Handlers N K R Ω :=
  if resolved.cluster.id = GeneralCommissioning.clusterId then
    let (result, node) := exec (GeneralCommissioning.run resolved.command.id fields ctx) h.node
    let (answer, w) := respond result w tag
    (answer, w, { h with node := node })
  else if resolved.cluster.id = OperationalCredentials.clusterId then
    let (random, rng) := drawFor draw h.rng resolved.command.id fields
    let (result, node) := exec (OperationalCredentials.run c store resolved.command.id fields ctx
      random) h.node
    let (answer, w) := respond result w tag
    (answer, w, { h with node := node, rng := rng })
  else
    let (answer, w, node, other) := others.invoke h.node h.other resolved fields ctx w tag
    (answer, w,
      { h with
        node := { node with change := h.node.change, aftermath := h.node.aftermath }
        other := other })

/-- A command is handled and put on record. -/
def invoke (h : Handlers N K R Ω) (resolved : ResolvedCommand) (fields : Option (List UInt8))
    (ctx : InteractionContext) (w : TlvWriter) (tag : Tag) :
    Except StatusIb (Option CommandId) × TlvWriter × Handlers N K R Ω :=
  let (answer, w, h') := route c store draw others h resolved fields ctx w tag
  (answer, w,
    { h' with
      handled := h.handled ++
        [⟨h.node, resolved.cluster.id, resolved.command.id, fields, ctx, h'.node⟩] })

/-- A server of such a device. -/
def server (srv : Server (Handlers N K R Ω) ν) : Server (Handlers N K R Ω) ν :=
  { srv with invoke := invoke c store draw others }

/-- What the device is told when it takes the cells covers what happened: every fabric that was added,
updated or removed is in what `take_change` gives, and the cleanups that were produced are those that
`take_aftermath` gives. -/
def Reports (h : Handlers N K R Ω) : Prop :=
  (∀ event ∈ h.handled.filterMap (Handled.event c store),
    (takeChange h.node).1.map FabricChange.event = some event) ∧
  (h.handled.filterMap Handled.left).filterMap Aftermath.cleanup =
    (takeAftermath h.node).1.toList.filterMap Aftermath.cleanup

instance (h : Handlers N K R Ω) : Decidable (Reports c store h) := inferInstanceAs (Decidable (_ ∧ _))

/-- The cells hold the last thing that was put into them, and what has been handled so far is reported
exactly if every command has found room. -/
structure Recorded (h : Handlers N K R Ω) : Prop where
  change : h.node.change.map FabricChange.event =
    (h.handled.filterMap (Handled.event c store)).getLast?
  aftermath : h.node.aftermath = (h.handled.filterMap Handled.left).getLast?
  reports : Reports c store h ↔ ∀ turn ∈ h.handled, turn.FindsRoom c store

variable {c store draw others} {h : Handlers N K R Ω}

/-- A credential command fills its cell with what it has done. -/
lemma fills_of_credential (before : CommissioningNode N K) (command : CommandId)
    (fields : Option (List UInt8)) (ctx : InteractionContext) (random : Except ErrorCode (List UInt8)) :
    Handled.Fills c store ⟨before, OperationalCredentials.clusterId, command, fields, ctx,
      (exec (OperationalCredentials.run c store command fields ctx random) before).2⟩ := by
  have hrun : (exec (OperationalCredentials.run c store command fields ctx random) before).2 =
      (exec (ofResult (decode command fields) >>= fun command =>
        OperationalCredentials.perform c store command ctx random) (reap store ctx.now before)).2 := by
    rw [OperationalCredentials.run, exec_modify_bind]
  rw [hrun]
  cases hdecode : decode command fields with
  | error status =>
    rw [exec_bind_error (exec_ofResult _ _)]
    constructor
    · simp [Handled.event, Handled.toHappen, hdecode, Except.toOption]
    · rfl
    · simp [Handled.toHappen, hdecode, Except.toOption]
    · exact reap_aftermath store before ctx.now
  | ok command =>
    obtain ⟨hhappened, hchange⟩ :
        happened c store command ctx (reap store ctx.now before)
            (exec (OperationalCredentials.perform c store command ctx random) (reap store ctx.now before)).2 =
          foretold c command ctx (reap store ctx.now before) ∧
        (exec (OperationalCredentials.perform c store command ctx random) (reap store ctx.now before)).2.change.map
            FabricChange.event =
          (foretold c command ctx (reap store ctx.now before)).or
            ((reap store ctx.now before).change.map FabricChange.event) :=
      perform_happened command random
    have heffect := perform_effect c store command ctx random (reap store ctx.now before)
    rw [exec_bind_ok (exec_ofResult _ _)]
    constructor
    · simpa [Handled.event, Handled.toHappen, hdecode, Except.toOption] using hhappened
    · rfl
    · simpa [Handled.toHappen, hdecode, Except.toOption] using hchange
    · exact (Effect.aftermath heffect).trans (reap_aftermath store before ctx.now)

/-- So does a command of General Commissioning. -/
lemma fills_of_generalCommissioning (before : CommissioningNode N K) (command : CommandId)
    (fields : Option (List UInt8)) (ctx : InteractionContext) :
    Handled.Fills c store ⟨before, GeneralCommissioning.clusterId, command, fields, ctx,
      (exec (GeneralCommissioning.run command fields ctx) before).2⟩ := by
  obtain ⟨haftermath, hchange⟩ := generalCommissioning_cells command fields ctx before
  constructor
  · rfl
  · simpa [Handled.left, Handled.ends] using isSome_leftBy command fields ctx before
  · exact congrArg (Option.map FabricChange.event) hchange
  · simpa [Handled.left] using haftermath

lemma route_fills (h : Handlers N K R Ω) (resolved : ResolvedCommand) (fields : Option (List UInt8))
    (ctx : InteractionContext) (w : TlvWriter) (tag : Tag) :
    Handled.Fills c store ⟨h.node, resolved.cluster.id, resolved.command.id, fields, ctx,
      (route c store draw others h resolved fields ctx w tag).2.2.node⟩ := by
  unfold route
  split_ifs with hgeneral hcredential
  · rw [hgeneral]
    exact fills_of_generalCommissioning h.node resolved.command.id fields ctx
  · rw [hcredential]
    exact fills_of_credential h.node resolved.command.id fields ctx _
  · constructor
    · simp [Handled.event, Handled.toHappen, hcredential]
    · simp [Handled.left, Handled.ends, hgeneral]
    · simp [Handled.toHappen, hcredential]
    · simp [Handled.left, hgeneral]

/-- The fabrics' side of one command further: `events` have happened, the cell holds `cell`. -/
lemma forall_event_iff {events : List FabricEvent} {cell : Option FabricChange}
    (hcell : cell.map FabricChange.event = events.getLast?) (next : Option FabricEvent) :
    (∀ event ∈ events ++ next.toList, next.or (cell.map FabricChange.event) = some event) ↔
      (∀ event ∈ events, cell.map FabricChange.event = some event) ∧
        ∀ event, next = some event → ∀ change, cell = some change → change.event = event := by
  cases next with
  | none => simp
  | some e =>
    have hsnoc := forall_mem_append_singleton_iff (l := events) (a := e)
    rw [← hcell] at hsnoc
    simp only [Option.map_eq_some_iff] at hsnoc
    simpa using hsnoc

/-- The fail-safe's side of one command further. -/
lemma filterMap_cleanup_iff {lefts : List Aftermath} {cell : Option Aftermath}
    (hcell : cell = lefts.getLast?) (next : Option Aftermath) :
    (lefts ++ next.toList).filterMap Aftermath.cleanup =
        (next.or cell).toList.filterMap Aftermath.cleanup ↔
      lefts.filterMap Aftermath.cleanup = cell.toList.filterMap Aftermath.cleanup ∧
        (next.isSome = true → cell.bind Aftermath.cleanup = none) := by
  subst hcell
  cases next with
  | none => simp
  | some a =>
    have hsnoc := filterMap_append_singleton_iff (l := lefts) (a := a) Aftermath.cleanup
    simpa using hsnoc

/-- One command further. -/
lemma Recorded.handle {h' : Handlers N K R Ω} {turn : Handled N K} (hh : Recorded c store h)
    (hfills : turn.Fills c store) (hbefore : turn.before = h.node) (hafter : turn.after = h'.node)
    (hhandled : h'.handled = h.handled ++ [turn]) : Recorded c store h' := by
  have hevents : h'.handled.filterMap (Handled.event c store) =
      h.handled.filterMap (Handled.event c store) ++ (turn.toHappen c store).toList := by
    rw [hhandled, List.filterMap_append, ← hfills.foretold]
    cases hevent : turn.event c store <;> simp [hevent]
  have hlefts : h'.handled.filterMap Handled.left =
      h.handled.filterMap Handled.left ++ turn.left.toList := by
    rw [hhandled, List.filterMap_append]
    cases hleft : turn.left <;> simp [hleft]
  have hchange : h'.node.change.map FabricChange.event =
      (turn.toHappen c store).or (h.node.change.map FabricChange.event) := by
    rw [← hafter, ← hbefore, hfills.change]
  have haftermath : h'.node.aftermath = turn.left.or h.node.aftermath := by
    rw [← hafter, ← hbefore, hfills.aftermath]
  refine ⟨?_, ?_, ?_⟩
  · rw [hchange, hevents, List.getLast?_append, hh.change]
    cases turn.toHappen c store <;> rfl
  · rw [haftermath, hlefts, List.getLast?_append, hh.aftermath]
    cases turn.left <;> rfl
  · have hroom : Reports c store h' ↔ Reports c store h ∧ turn.FindsRoom c store := by
      unfold Reports Handled.FindsRoom takeChange takeAftermath
      rw [hevents, hlefts, hchange, haftermath, forall_event_iff hh.change,
        filterMap_cleanup_iff hh.aftermath, ← hfills.ends, hbefore]
      exact and_and_and_comm
    rw [hroom, hh.reports, hhandled, List.forall_mem_append, List.forall_mem_singleton]

/-- A command keeps the record true. -/
lemma Recorded.invoke (hh : Recorded c store h) (resolved : ResolvedCommand)
    (fields : Option (List UInt8)) (ctx : InteractionContext) (w : TlvWriter) (tag : Tag) :
    Recorded c store (invoke c store draw others h resolved fields ctx w tag).2.2 :=
  hh.handle (route_fills h resolved fields ctx w tag) rfl rfl rfl

/-- Nothing that a message leaves to the device is lost if and only if every command finds room:
`take_change` and `take_aftermath` then cover every fabric that a command has changed and every cleanup
that one has produced, exactly if each found the cell that it fills without another change or cleanup.
-/
theorem reports_iff_finds_room (srv : Server (Handlers N K R Ω) ν)
    (commands : List (Except ErrorCode CommandData)) (ctx : InteractionContext)
    (suppressResponse : Bool) (scratch buf : Slice)
    (s : ActState (Handlers N K R Ω) ν InvokeResponse) (hchange : s.handler.node.change = none)
    (haftermath : s.handler.node.aftermath = none) (hhandled : s.handler.handled = []) :
    Reports c store (exec ((server c store draw others srv).serveInvoke commands ctx suppressResponse
        scratch buf) s).2.handler ↔
      ∀ turn ∈ (exec ((server c store draw others srv).serveInvoke commands ctx suppressResponse
        scratch buf) s).2.handler.handled, turn.FindsRoom c store := by
  have hstart : Recorded c store s.handler := by
    constructor
    · rw [hchange, hhandled]
      rfl
    · rw [haftermath, hhandled]
      rfl
    · simp [Reports, takeAftermath, haftermath, hhandled]
  have hrun : Recorded c store (exec ((server c store draw others srv).serveInvoke commands ctx
      suppressResponse scratch buf) s).2.handler :=
    Server.serveInvoke_keeps (I := Recorded c store)
      (fun h resolved fields ctx w tag hh => Recorded.invoke hh resolved fields ctx w tag)
      commands ctx suppressResponse scratch buf s hstart
  exact hrun.reports

end Handlers

/-! ## A message on concrete values -/

namespace Sample

/-- The root endpoint of a node, with Operational Credentials on it. -/
def rootEndpoint : Endpoint where
  id := 0
  clusters :=
    [{ id := OperationalCredentials.clusterId
       revision := 2
       featureMap := 0
       attributes := []
       acceptedCommands := [⟨0x0A, .invokeAt .administer, some 0x08⟩]
       generatedCommands := [0x08]
       events := [] }]
  deviceTypes := []

/-- A server of that node, to an administrator. -/
def administered : Server (Handlers 5 Keys Unit Unit) Unit where
  node := ⟨[rootEndpoint]⟩
  allows := fun _ _ _ => .granted
  read := fun _ _ _ w _ => (.error .unsupportedAttribute, w)
  dataVersion := fun _ _ => none
  write := fun h _ _ _ _ => (.error .unsupportedWrite, h)
  invoke := fun h _ _ _ w _ => (.error (.new .unsupportedCommand), w, h)
  limit := 4
  versions := none
  events := none

/-- No other clusters. -/
def alone : OtherClusters 5 Keys Unit :=
  ⟨fun node other _ _ _ w _ => (.error (.new .unsupportedCluster), w, node, other)⟩

/-- A `RemoveFabric` of a message. -/
def removal (index commandRef : UInt8) : CommandData where
  path := .ofIds 0 OperationalCredentials.clusterId 0x0A
  fields := some [0x35, 0x01, 0x24, 0x00, index, 0x18]
  commandRef := some commandRef.toUInt16

/-- A generator that gives nothing. -/
def silent (rng : Unit) : Except ErrorCode (List UInt8) × Unit := (.ok [], rng)

/-- The device before a message. -/
def waiting : ActState (Handlers 5 Keys Unit Unit) Unit InvokeResponse :=
  ⟨⟨TlvWriter.new (Lamp.room 0 (by decide)), 0, []⟩, { node := onTwoFabrics, rng := (), other := () },
    (), {}, []⟩

/-- What a message with some commands, from an administrator on fabric 1, leaves. -/
def served (commands : List CommandData) : Handlers 5 Keys Unit Unit :=
  (exec ((Handlers.server crypto keyStore silent alone administered).serveInvoke
      (commands.map .ok) (on 7 (some ⟨1⟩) 1) false (Lamp.room 64 Lamp.room_64)
      (Lamp.room 256 Lamp.room_256)) waiting).2.handler

end Sample

namespace Handlers

open Sample

/-- A message that removes one fabric reports it. -/
theorem one_removal_is_reported : onTwoFabrics.change = none ∧ onTwoFabrics.aftermath = none ∧
      (served [removal 2 0]).handled.filterMap (Handled.event crypto keyStore) = [.removed ⟨2⟩] ∧
      Reports crypto keyStore (served [removal 2 0]) := by
  have hevents : (served [removal 2 0]).handled.filterMap (Handled.event crypto keyStore) =
        [.removed ⟨2⟩] ∧
      ∀ turn ∈ (served [removal 2 0]).handled,
        turn.before.change = none ∧ turn.before.aftermath = none := by decide +kernel
  refine ⟨rfl, rfl, hevents.1, ?_⟩
  have hiff : Reports crypto keyStore (served [removal 2 0]) ↔
      ∀ turn ∈ (served [removal 2 0]).handled, turn.FindsRoom crypto keyStore := by
    unfold served
    exact reports_iff_finds_room administered _ _ _ _ _ waiting rfl rfl rfl
  refine hiff.mpr fun turn hturn => ?_
  obtain ⟨hchange, haftermath⟩ := hevents.2 turn hturn
  constructor
  · intro event _ change hsome
    exact nomatch hchange.symm.trans hsome
  · intro _
    rw [haftermath]
    rfl

/-- A message that removes two reports the second. -/
theorem second_removal_hides_first :
    (served [removal 2 0, removal 1 1]).handled.filterMap (Handled.event crypto keyStore) =
        [.removed ⟨2⟩, .removed ⟨1⟩] ∧
      (takeChange (served [removal 2 0, removal 1 1]).node).1 = some (.removed ⟨1⟩ true true) ∧
      ¬ Reports crypto keyStore (served [removal 2 0, removal 1 1]) := by
  decide +kernel

end Handlers

end MatterKit.Clusters
