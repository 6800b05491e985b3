import MatterKit.Clusters.Contexts
import MatterKit.Clusters.NetworkChanges

/-!
# Undoing the changes to the networks

A node has any number of interfaces, each with an instance of the Network Commissioning cluster, and one
fail-safe. If the context expires, all instances are told, and each should have the list it had before
the context was armed and a driver that still knows the credentials of every listed network.

An instance gives back its snapshot, or keeps its list if it has none, and what `RemoveNetwork` made its
driver forget stays forgotten. `restores_iff` says that nothing else goes wrong.
-/

namespace MatterKit.Clusters

open Lib Machine Dm Im Commissioning

/-! ## A node with several interfaces -/

/-- What a command of another cluster can record in the fail-safe context.
Source: the calls of `FailSafe::record` in `clusters/operational_credentials.rs`. -/
inductive Milestone
  | csrRequested
  | addedTrustedRoot
  | addedNoc
  | updatedNoc

/-- Source: the closures of `clusters/operational_credentials.rs`. -/
def Milestone.mark (p : Progress) : Milestone → Progress
  | .csrRequested => { p with csrRequested := true }
  | .addedTrustedRoot => { p with addedTrustedRoot := true }
  | .addedNoc => { p with addedNoc := true }
  | .updatedNoc => { p with updatedNoc := true }

/-- A call of the fail-safe that does not come from a Network Commissioning instance. -/
inductive NodeCall
  | arm (seconds : UInt16) (breadcrumb : UInt64) (fabric : Option FabricIndex) (now : Instant)
      (windowOpenOverCase : Bool)
  | complete (overCase : Bool) (fabric : Option FabricIndex) (now : Instant)
  | expire (now : Instant)
  | adoptFabric (fabric : FabricIndex) (now : Instant)
  | record (milestone : Milestone) (now : Instant)

namespace NodeCall

/-- The call of the fail-safe. -/
def op : NodeCall → FailSafe.Op
  | .arm seconds breadcrumb fabric now window => .arm seconds breadcrumb fabric now window
  | .complete overCase fabric now => .complete overCase fabric now
  | .expire now => .expire now
  | .adoptFabric fabric now => .adoptFabric fabric now
  | .record milestone now => .record now milestone.mark

/-- What a cleanup is to the clusters.
Source: `examples/light.rs`, `Aftermath::Rollback`. -/
def expired (cleanup : Cleanup) : Lifecycle := .failSafeExpired cleanup.removeFabric

/-- What the clusters are told after a call.
Source: `GeneralCommissioning::invoke`, the cell `aftermath`, and what `examples/light.rs` does with
it. -/
def lifecycle (fs : FailSafe) : NodeCall → Option Lifecycle
  | .arm seconds breadcrumb fabric now window =>
    (fs.arm seconds breadcrumb fabric now window).1.cleanup.map expired
  | .complete overCase fabric now =>
    let result := (fs.complete overCase fabric now).1
    (result.cleanup.map expired).or
      (if result.error = .ok then fabric.map .commissioningComplete else none)
  | .expire now => (fs.expire now).1.map expired
  | .adoptFabric _ _ | .record _ _ => none

/-- A context begins with the call. -/
def begins (fs : FailSafe) (c : NodeCall) : Bool :=
  (fs.step c.op).armed.isSome && (fs.armed.isNone || (c.lifecycle fs).isSome)

end NodeCall

/-- What a node's interfaces share, and what each of them has. -/
structure NetworkNode where
  failSafe : FailSafe
  interfaces : List NetworkCommissioning

/-- The clusters are told of an event, if there is one. -/
def NetworkCommissioning.told (event : Option Lifecycle) (nc : NetworkCommissioning) :
    NetworkCommissioning :=
  (event.map nc.onLifecycle).getD nc

namespace NetworkNode

/-- A call of the fail-safe, after which all instances are told what came of it. -/
def call (s : NetworkNode) (c : NodeCall) : NetworkNode :=
  { failSafe := s.failSafe.step c.op
    interfaces := s.interfaces.map fun nc => nc.told (c.lifecycle s.failSafe) }

/-- A command for the interface at `i`. -/
def command (s : NetworkNode) (i : ℕ) (command : NetworkCommand) (now : Instant) : NetworkNode :=
  match s.interfaces[i]? with
  | none => s
  | some nc =>
    let after := (exec (NetworkCommissioning.perform command now) (nc, s.failSafe)).2
    { failSafe := after.2, interfaces := s.interfaces.set i after.1 }

end NetworkNode

/-- What happens to a node. -/
inductive NodeOp
  | call (c : NodeCall)
  | command (i : ℕ) (command : NetworkCommand) (now : Instant)

/-- A node, with its interfaces as they were when the running context was armed. -/
structure Watched where
  node : NetworkNode
  before : List NetworkCommissioning

namespace Watched

/-- One step. -/
def step (s : Watched) : NodeOp → Watched
  | .call c =>
    let node := s.node.call c
    { node := node, before := if c.begins s.node.failSafe then node.interfaces else s.before }
  | .command i command now => { s with node := s.node.command i command now }

/-- The node at the beginning of a run. -/
def start (node : NetworkNode) : Watched := { node := node, before := [] }

/-- A run. -/
def run (node : NetworkNode) (ops : List NodeOp) : Watched := ops.foldl step (start node)

end Watched

/-! ## What a call does -/

/-- The fail-safe's flag is the same in two contexts, or in one at two times. -/
def SameFlag (a b : Armed) : Prop := a.progress.changedNetworks = b.progress.changedNetworks

/-- What becomes of the context in a call: it goes on, or one may begin, or it ends and the clusters are
told how. -/
inductive Course (fs fs' : FailSafe) : Option Lifecycle → Prop
  | kept (h : Option.Rel SameFlag fs.armed fs'.armed) : Course fs fs' none
  | begun (h : fs.armed = none) (hunused : Unused fs') : Course fs fs' none
  | expired (h : fs.armed ≠ none) (hunused : Unused fs') (fabric : Option FabricIndex) :
      Course fs fs' (some (.failSafeExpired fabric))
  | completed (h : fs.armed ≠ none) (hnone : fs'.armed = none) (fabric : FabricIndex) :
      Course fs fs' (some (.commissioningComplete fabric))

namespace Course

variable {fs fs' : FailSafe}

lemma of_turn {cleanup : Option Cleanup} (h : Turn fs fs' cleanup) :
    Course fs fs' (cleanup.map NodeCall.expired) := by
  cases h with
  | kept h =>
    refine .kept ?_
    generalize fs.armed = a at h ⊢
    generalize fs'.armed = b at h ⊢
    cases h with
    | none => exact .none
    | some hsame => exact .some (congrArg Progress.changedNetworks hsame.1)
  | begun h hunused => exact .begun h hunused
  | ended h hunused =>
    refine .expired ?_ hunused _
    rw [h]
    exact Option.some_ne_none _

lemma of_updateLive (now : Instant) (f : Armed → Armed)
    (hf : ∀ armed, SameFlag armed (f armed)) : Course fs (fs.updateLive now f).2 none := by
  refine .kept ?_
  cases hlive : fs.armedAt now with
  | none =>
    rw [FailSafe.updateLive, hlive]
    cases fs.armed with
    | none => exact .none
    | some armed => exact .some rfl
  | some armed =>
    rw [FailSafe.updateLive_of_live hlive, (FailSafe.armedAt_eq_some_iff.mp hlive).1]
    exact .some (hf armed)

end Course

/-- Every call takes one of the courses. -/
lemma NodeCall.course (fs : FailSafe) (c : NodeCall) : Course fs (fs.step c.op) (c.lifecycle fs) := by
  cases c with
  | arm seconds breadcrumb fabric now window =>
    exact .of_turn (.arm fs seconds breadcrumb fabric now window)
  | complete overCase fabric now =>
    by_cases hok : (fs.complete overCase fabric now).1.error = .ok
    · obtain ⟨armed, hlive, -, hfabric, -, hcomplete⟩ := complete_of_ok hok
      obtain ⟨fabric, rfl⟩ := Option.ne_none_iff_exists'.mp hfabric
      have hlifecycle : NodeCall.lifecycle fs (.complete overCase (some fabric) now) =
          some (.commissioningComplete fabric) := by
        rw [NodeCall.lifecycle, hcomplete]
        rfl
      rw [hlifecycle]
      refine .completed ?_ ?_ fabric
      · rw [(FailSafe.armedAt_eq_some_iff.mp hlive).1]
        exact Option.some_ne_none _
      · show (fs.complete overCase (some fabric) now).2.armed = none
        rw [hcomplete]
    · have hlifecycle : NodeCall.lifecycle fs (.complete overCase fabric now) =
          (fs.complete overCase fabric now).1.cleanup.map NodeCall.expired := by
        rw [NodeCall.lifecycle, if_neg hok, Option.or_none]
      rw [hlifecycle]
      exact .of_turn (.complete_of_ne hok)
  | expire now => exact .of_turn (.expire fs now)
  | adoptFabric fabric now => exact .of_updateLive now _ fun _ => rfl
  | record milestone now =>
    refine .of_updateLive now _ fun armed => ?_
    cases milestone with
    | csrRequested | addedTrustedRoot | addedNoc | updatedNoc => rfl

/-! ## Undone, and how to see it coming -/

/-- An instance has the list it had, and its driver has credentials for every network in it. -/
structure RestoredTo (before nc : NetworkCommissioning) : Prop where
  entries : nc.entries = before.entries
  credentials : nc.keepsCredentials = true →
    ∀ n ∈ before.entries, (nc.driver.credentials n.id).isSome = true

/-- An instance has the list it had, and its driver has the credentials it had for every network in
it. -/
structure RestoredWholly (before nc : NetworkCommissioning) : Prop where
  entries : nc.entries = before.entries
  credentials : ∀ n ∈ before.entries, nc.driver.credentials n.id = before.driver.credentials n.id

/-- Whenever a call expires the context, all instances are again what they were when it was armed. -/
def Watched.Restores (R : NetworkCommissioning → NetworkCommissioning → Prop) (s : Watched) : Prop :=
  ∀ (c : NodeCall) (fabric : Option FabricIndex),
    c.lifecycle s.node.failSafe = some (.failSafeExpired fabric) →
      List.Forall₂ R s.before (s.node.call c).interfaces

namespace NetworkCommand

/-- Where the fail-safe's flag has kept the command from taking a snapshot, it does not change the list.
-/
def sparesList (command : NetworkCommand) (already : Bool) (nc : NetworkCommissioning) : Bool :=
  !already || nc.savedEntries.isSome || !command.changes nc

/-- The driver is not told to forget a network that may have to be listed again. -/
def forgetsNone (command : NetworkCommand) (nc : NetworkCommissioning) : Bool :=
  nc.goesBackTo.all fun n => !command.forgets nc n.id

/-- Nor is it given other credentials for one. -/
def replacesNone (command : NetworkCommand) (nc : NetworkCommissioning) : Bool :=
  nc.goesBackTo.all fun n =>
    (!command.forgets nc n.id || decide (nc.driver.credentials n.id = none)) &&
      (command.given nc n.id).all fun credentials =>
        decide (nc.driver.credentials n.id = some credentials)

end NetworkCommand

/-- A command that runs spares the list, and what `check` says of it. -/
def Watched.spares (check : NetworkCommand → NetworkCommissioning → Bool) (s : Watched) :
    NodeOp → Bool
  | .call _ => true
  | .command i command now =>
    (s.node.interfaces[i]?).all fun nc =>
      (s.node.failSafe.armedAt now).all fun armed =>
        command.sparesList armed.progress.changedNetworks nc && check command nc

/-- No context is armed, no snapshot is kept, and the listed networks have credentials. -/
structure NetworkNode.Settled (s : NetworkNode) : Prop where
  unarmed : s.failSafe.armed = none
  unsaved : ∀ nc ∈ s.interfaces, nc.savedEntries = none
  held : ∀ nc ∈ s.interfaces, nc.keepsCredentials = true →
    ∀ n ∈ nc.entries, (nc.driver.credentials n.id).isSome = true

/-! ### One interface -/

namespace NetworkCommissioning

variable {command : NetworkCommand} {already : Bool} {nc nc' before : NetworkCommissioning}

/-- The list to go back to stays the same exactly when the command spares it. -/
lemma Effect.goesBackTo_iff (h : Effect command already nc nc') :
    nc'.goesBackTo = nc.goesBackTo ↔ command.sparesList already nc = true := by
  rw [goesBackTo, goesBackTo, h.saved, NetworkCommand.sparesList]
  cases hsaved : nc.savedEntries with
  | some saved => cases already <;> simp
  | none =>
    cases already with
    | false => simp
    | true => simpa using h.entries

lemma Effect.keepsCredentials (h : Effect command already nc nc') :
    nc'.keepsCredentials = nc.keepsCredentials := by
  rw [NetworkCommissioning.keepsCredentials, NetworkCommissioning.keepsCredentials, h.kind]

/-- An instance whose listed networks have credentials. -/
def Held (nc : NetworkCommissioning) : Prop :=
  nc.keepsCredentials = true → ∀ n ∈ nc.entries, (nc.driver.credentials n.id).isSome = true

/-- A command that gives credentials forgets none. -/
lemma forgets_of_given {id : List UInt8} (h : (command.given nc id).isSome = true)
    (other : List UInt8) : command.forgets nc other = false := by
  cases command with
  | removeNetwork id breadcrumb => cases h
  | _ => rfl

/-- What is listed has been given credentials, and what is forgotten is listed no more. -/
lemma Effect.held (h : Effect command already nc nc') (hheld : nc.Held) : nc'.Held := by
  intro hkeeps n hn
  rw [h.credentials]
  rw [h.keepsCredentials] at hkeeps
  rcases h.listed n hn with hgiven | ⟨⟨m, hm, hid⟩, hforgets⟩
  · rw [forgets_of_given hgiven, if_neg Bool.false_ne_true, Option.isSome_or, hgiven, Bool.true_or]
  · have hcredentials := hheld hkeeps m hm
    rw [hid] at hcredentials
    rw [hforgets, if_neg Bool.false_ne_true, Option.isSome_or, hcredentials, Bool.or_true]

/-- The instance as an expired fail-safe leaves it. -/
def restored (nc : NetworkCommissioning) : NetworkCommissioning := { nc with store := nc.store.restore }

/-- The instance as a completed commissioning leaves it. -/
def committed (nc : NetworkCommissioning) : NetworkCommissioning := { nc with store := nc.store.commit }

lemma entries_restored (nc : NetworkCommissioning) : nc.restored.entries = nc.goesBackTo := by
  rw [goesBackTo, savedEntries, restored]
  show (nc.store.saved.getD nc.store.networks).entries = _
  cases nc.store.saved with
  | none => rfl
  | some saved => rfl

lemma goesBackTo_of_unsaved (h : nc.savedEntries = none) : nc.goesBackTo = nc.entries := by
  rw [goesBackTo, h]
  rfl

/-- A promise about restored instances that can be followed from one command to the next: `check` is
what a command must meet to keep it. -/
structure Undoing (H : NetworkCommissioning → Prop)
    (R : NetworkCommissioning → NetworkCommissioning → Prop)
    (check : NetworkCommand → NetworkCommissioning → Bool) : Prop where
  effect : ∀ {command : NetworkCommand} {already : Bool} {nc nc' : NetworkCommissioning},
    Effect command already nc nc' → H nc → H nc'
  committed : ∀ {nc : NetworkCommissioning}, H nc → H nc.committed
  restored : ∀ {before nc : NetworkCommissioning}, R before nc.restored → H nc.restored
  begun : ∀ {nc : NetworkCommissioning}, nc.savedEntries = none → H nc → R nc nc.restored
  misfit : ∀ {command : NetworkCommand} {nc : NetworkCommissioning},
    command.fits nc.driver.kind = false → check command nc = true
  command : ∀ {command : NetworkCommand} {already : Bool} {before nc nc' : NetworkCommissioning},
    Effect command already nc nc' → R before nc.restored →
      (R before nc'.restored ↔ (command.sparesList already nc && check command nc) = true)

/-- The driver must not be told to forget a network that may have to be listed again. -/
lemma undoing_restoredTo : Undoing Held RestoredTo NetworkCommand.forgetsNone where
  effect h hheld := h.held hheld
  committed hheld := hheld
  restored h := by
    intro hkeeps n hn
    rw [h.entries] at hn
    exact h.credentials hkeeps n hn
  begun {nc} hunsaved hheld := by
    have hentries := (entries_restored nc).trans (goesBackTo_of_unsaved hunsaved)
    exact ⟨hentries, fun hkeeps n hn => hheld hkeeps n hn⟩
  misfit {command nc} h := by
    cases command with
    | removeNetwork id breadcrumb => cases h
    | _ => exact List.all_eq_true.mpr fun _ _ => rfl
  command {command already before nc nc'} heffect h := by
    have hlist := heffect.goesBackTo_iff
    rw [← entries_restored, ← entries_restored, h.entries] at hlist
    rw [Bool.and_eq_true, ← hlist, NetworkCommand.forgetsNone, ← entries_restored, h.entries,
      List.all_eq_true]
    constructor
    · intro h'
      refine ⟨h'.entries, fun n hn => ?_⟩
      cases hkeeps : nc.keepsCredentials with
      | false =>
        cases command with
        | removeNetwork id breadcrumb => simp [NetworkCommand.forgets, hkeeps]
        | _ => rfl
      | true =>
        have hcredentials : (nc'.driver.credentials n.id).isSome = true :=
          h'.credentials (heffect.keepsCredentials.trans hkeeps) n hn
        rw [heffect.credentials] at hcredentials
        cases hforgets : command.forgets nc n.id with
        | false => rfl
        | true =>
          rw [hforgets, if_pos rfl] at hcredentials
          cases hcredentials
    · rintro ⟨hentries, hcheck⟩
      refine ⟨hentries, fun hkeeps n hn => ?_⟩
      have hforgets : command.forgets nc n.id = false := by simpa using hcheck n hn
      have hcredentials : (nc.driver.credentials n.id).isSome = true :=
        h.credentials (heffect.keepsCredentials.symm.trans hkeeps) n hn
      show (nc'.driver.credentials n.id).isSome = true
      rw [heffect.credentials, hforgets, if_neg Bool.false_ne_true, Option.isSome_or, hcredentials,
        Bool.or_true]

/-- Nor be given other credentials for one. -/
lemma undoing_restoredWholly : Undoing (fun _ => True) RestoredWholly NetworkCommand.replacesNone where
  effect _ _ := trivial
  committed _ := trivial
  restored _ := trivial
  begun {nc} hunsaved _ :=
    ⟨(entries_restored nc).trans (goesBackTo_of_unsaved hunsaved), fun _ _ => rfl⟩
  misfit {command nc} h := by
    cases command with
    | addOrUpdateWifi ssid credentials breadcrumb answer | addOrUpdateThread dataset breadcrumb answer =>
      have hkind := of_decide_eq_false h
      refine List.all_eq_true.mpr fun n _ => ?_
      simp [NetworkCommand.forgets, NetworkCommand.given, hkind]
    | removeNetwork id breadcrumb | reorderNetwork id index breadcrumb
    | connectNetwork id breadcrumb outcome => cases h
  command {command already before nc nc'} heffect h := by
    have hlist := heffect.goesBackTo_iff
    rw [← entries_restored, ← entries_restored, h.entries] at hlist
    rw [Bool.and_eq_true, ← hlist, NetworkCommand.replacesNone, ← entries_restored, h.entries,
      List.all_eq_true]
    have hsame : ∀ n ∈ before.entries,
        nc'.driver.credentials n.id = before.driver.credentials n.id ↔
          ((!command.forgets nc n.id || decide (nc.driver.credentials n.id = none)) &&
            (command.given nc n.id).all fun credentials =>
              decide (nc.driver.credentials n.id = some credentials)) = true := by
      intro n hn
      have hbefore : nc.driver.credentials n.id = before.driver.credentials n.id :=
        h.credentials n hn
      rw [heffect.credentials, ← hbefore]
      cases hgiven : command.given nc n.id with
      | none =>
        cases command.forgets nc n.id with
        | false => simp
        | true => simp [eq_comm]
      | some credentials =>
        rw [forgets_of_given (by rw [hgiven]; rfl)]
        simp [eq_comm]
    constructor
    · intro h'
      exact ⟨h'.entries, fun n hn => (hsame n hn).mp (h'.credentials n hn)⟩
    · rintro ⟨hentries, hcheck⟩
      exact ⟨hentries, fun n hn => (hsame n hn).mpr (hcheck n hn)⟩

end NetworkCommissioning

/-! ### Lists of interfaces -/

section lists

variable {α : Type} {R : α → α → Prop} {l l' : List α} {i : ℕ} {x y : α}

lemma exists_of_forall₂ (h : List.Forall₂ R l l') (hy : l'[i]? = some y) : ∃ x, l[i]? = some x ∧ R x y := by
  induction h generalizing i with
  | nil => cases hy
  | @cons a b l l' hab h ih =>
    cases i with
    | zero => exact ⟨a, rfl, Option.some.inj hy ▸ hab⟩
    | succ i => exact ih hy

/-- Where all others are related already, changing one entry is a matter of that entry. -/
lemma forall₂_set_iff (h : List.Forall₂ R l l') (hx : l[i]? = some x) :
    List.Forall₂ R l (l'.set i y) ↔ R x y := by
  induction h generalizing i with
  | nil => cases hx
  | @cons a b l l' hab h ih =>
    cases i with
    | zero =>
      obtain rfl : a = x := Option.some.inj hx
      rw [List.set_cons_zero, List.forall₂_cons]
      exact and_iff_left h
    | succ i =>
      rw [List.set_cons_succ, List.forall₂_cons]
      exact (and_iff_right hab).trans (ih hx)

end lists

/-! ### One step -/

/-- What comes of a command: it is refused, and the node is as before, or one interface is changed. -/
inductive Ran (s : NetworkNode) (i : ℕ) (command : NetworkCommand) (now : Instant)
    (s' : NetworkNode) : Prop
  | refused (hsame : s' = s)
      (hmisfit : ∀ nc armed, s.interfaces[i]? = some nc → s.failSafe.armedAt now = some armed →
        command.fits nc.driver.kind = false)
  | done (nc nc' : NetworkCommissioning) (armed : Armed) (hnc : s.interfaces[i]? = some nc)
      (hlive : s.failSafe.armedAt now = some armed)
      (heffect : NetworkCommissioning.Effect command armed.progress.changedNetworks nc nc')
      (hinterfaces : s'.interfaces = s.interfaces.set i nc')
      (harmed : s'.failSafe.armed = (NetworkCommissioning.changing s.failSafe armed).armed)

lemma NetworkNode.ran (s : NetworkNode) (i : ℕ) (command : NetworkCommand) (now : Instant) :
    Ran s i command now (s.command i command now) := by
  rw [NetworkNode.command]
  cases hnc : s.interfaces[i]? with
  | none => exact .refused rfl fun nc armed h => absurd (hnc.symm.trans h) (by simp)
  | some nc =>
    have hself : s.interfaces.set i nc = s.interfaces := by
      obtain ⟨hi, hget⟩ := List.getElem?_eq_some_iff.mp hnc
      rw [← hget]
      exact List.set_getElem_self hi
    dsimp only
    cases hlive : s.failSafe.armedAt now with
    | none =>
      rw [NetworkCommissioning.perform_of_not_live hlive]
      refine .refused ?_ fun _ armed _ h => absurd (hlive.symm.trans h) (by simp)
      dsimp only
      rw [hself]
    | some armed =>
      cases hfits : command.fits nc.driver.kind with
      | false =>
        rw [NetworkCommissioning.perform_of_not_fits hlive hfits]
        refine .refused ?_ fun nc' _ hnc' _ => ?_
        · dsimp only
          rw [hself]
        · obtain rfl : nc = nc' := Option.some.inj (hnc.symm.trans hnc')
          exact hfits
      | true =>
        obtain ⟨heffect, harmed⟩ := NetworkCommissioning.perform_effect hlive command hfits
        exact .done nc _ armed hnc hlive heffect rfl harmed

/-- What comes of a call, for the interfaces and for what they are compared with. -/
inductive Called (s s' : Watched) : Prop
  | kept (h : Option.Rel SameFlag s.node.failSafe.armed s'.node.failSafe.armed)
      (hinterfaces : s'.node.interfaces = s.node.interfaces) (hbefore : s'.before = s.before)
  | begun (h : s.node.failSafe.armed = none) (hunused : Unused s'.node.failSafe)
      (hinterfaces : s'.node.interfaces = s.node.interfaces)
      (hbefore : s'.node.failSafe.armed ≠ none → s'.before = s'.node.interfaces)
  | expired (h : s.node.failSafe.armed ≠ none) (hunused : Unused s'.node.failSafe)
      (hinterfaces : s'.node.interfaces =
        s.node.interfaces.map NetworkCommissioning.restored)
      (hbefore : s'.node.failSafe.armed ≠ none → s'.before = s'.node.interfaces)
  | completed (h : s.node.failSafe.armed ≠ none) (hnone : s'.node.failSafe.armed = none)
      (hinterfaces : s'.node.interfaces = s.node.interfaces.map NetworkCommissioning.committed)

/-- A context begins when there is one after the call that there was not, or that was not this one. -/
lemma NodeCall.begins_of {fs : FailSafe} {c : NodeCall} (harmed : (fs.step c.op).armed ≠ none)
    (h : fs.armed = none ∨ (c.lifecycle fs).isSome = true) : c.begins fs = true := by
  rw [NodeCall.begins, Bool.and_eq_true, Bool.or_eq_true, Option.isSome_iff_ne_none,
    Option.isNone_iff_eq_none]
  exact ⟨harmed, h⟩

lemma NodeCall.not_begins_of {fs : FailSafe} {c : NodeCall}
    (h : Option.Rel SameFlag fs.armed (fs.step c.op).armed) (hquiet : c.lifecycle fs = none) :
    c.begins fs = false := by
  rw [NodeCall.begins, hquiet]
  generalize (fs.step c.op).armed = a at h ⊢
  generalize fs.armed = b at h ⊢
  cases h with
  | none => rfl
  | some hsame => simp

lemma Watched.called (s : Watched) (c : NodeCall) : Called s (s.step (.call c)) := by
  have hcourse := c.course s.node.failSafe
  generalize hlifecycle : c.lifecycle s.node.failSafe = event at hcourse
  have hinterfaces : (s.step (.call c)).node.interfaces =
      s.node.interfaces.map (NetworkCommissioning.told event) := by
    rw [← hlifecycle]
    rfl
  have hbegins : c.begins s.node.failSafe = true →
      (s.step (.call c)).before = (s.step (.call c)).node.interfaces := fun h => if_pos h
  cases hcourse with
  | kept h =>
    refine .kept h (hinterfaces.trans (List.map_id' _)) ?_
    exact if_neg (by rw [NodeCall.not_begins_of h hlifecycle]; exact Bool.false_ne_true)
  | begun h hunused =>
    exact .begun h hunused (hinterfaces.trans (List.map_id' _)) fun harmed =>
      hbegins (NodeCall.begins_of harmed (.inl h))
  | expired h hunused fabric =>
    refine .expired h hunused hinterfaces fun harmed => hbegins (NodeCall.begins_of harmed (.inr ?_))
    rw [hlifecycle]
    rfl
  | completed h hnone fabric => exact .completed h hnone hinterfaces

/-- Since the context was armed, an instance has taken a snapshot of its list as it was then, or none;
as long as the fail-safe's flag is not set, none, and the list is as it was. -/
structure Since (changed : Bool) (before nc : NetworkCommissioning) : Prop where
  saved : nc.savedEntries = none ∨ nc.savedEntries = some before.entries
  unchanged : changed = false → nc.savedEntries = none ∧ nc.entries = before.entries

/-- A command that takes a snapshot takes it of the list as it was when the context was armed. -/
lemma Since.effect {command : NetworkCommand} {changed : Bool}
    {before nc nc' : NetworkCommissioning} (h : Since changed before nc)
    (heffect : NetworkCommissioning.Effect command changed nc nc') : Since true before nc' := by
  refine ⟨?_, fun h => absurd h (by simp)⟩
  rw [heffect.saved]
  cases changed with
  | true => exact h.saved
  | false =>
    obtain ⟨hunsaved, hentries⟩ := h.unchanged rfl
    rw [if_neg Bool.false_ne_true, hunsaved, hentries]
    exact .inr rfl

lemma Since.changed {changed : Bool} {before nc : NetworkCommissioning}
    (h : Since changed before nc) : Since true before nc :=
  ⟨h.saved, fun h => absurd h (by simp)⟩

namespace Watched

variable {s : Watched}

/-- What is known of the snapshots in every state of a run. -/
structure Tracked (s : Watched) : Prop where
  idle : s.node.failSafe.armed = none → ∀ nc ∈ s.node.interfaces, nc.savedEntries = none
  running : ∀ armed, s.node.failSafe.armed = some armed →
    List.Forall₂ (Since armed.progress.changedNetworks) s.before s.node.interfaces

/-- What is promised of the running context: were it to expire now, all would be as it was. -/
def Pending (R : NetworkCommissioning → NetworkCommissioning → Prop) (s : Watched) : Prop :=
  s.node.failSafe.armed ≠ none →
    List.Forall₂ (fun before nc => R before nc.restored) s.before s.node.interfaces

lemma savedEntries_restored (nc : NetworkCommissioning) : nc.restored.savedEntries = none := rfl

lemma savedEntries_committed (nc : NetworkCommissioning) : nc.committed.savedEntries = none := rfl

variable {l l' : List NetworkCommissioning} {node : NetworkNode}

/-- A new context: nothing is saved, and nothing has changed. -/
lemma since_self (changed : Bool) (h : ∀ nc ∈ l, nc.savedEntries = none) :
    List.Forall₂ (Since changed) l l :=
  List.forall₂_same.mpr fun nc hnc => ⟨.inl (h nc hnc), fun _ => ⟨h nc hnc, rfl⟩⟩

/-- The snapshots stay tracked by a call. -/
lemma Tracked.call {s s' : Watched} (hs : s.Tracked) (h : Called s s') : s'.Tracked := by
  cases h with
  | kept h hinterfaces hbefore =>
    constructor
    · intro hnone
      rw [hinterfaces]
      refine hs.idle ?_
      generalize s.node.failSafe.armed = a at h ⊢
      rw [hnone] at h
      cases h
      rfl
    · intro armed harmed
      rw [hinterfaces, hbefore]
      rw [harmed] at h
      generalize harmed' : s.node.failSafe.armed = a at h
      cases h with
      | some hsame =>
        have hsince := hs.running _ harmed'
        rwa [hsame] at hsince
  | begun h hunused hinterfaces hbefore =>
    constructor
    · intro _
      rw [hinterfaces]
      exact hs.idle h
    · intro armed harmed
      rw [hbefore (harmed ▸ Option.some_ne_none armed), hinterfaces]
      exact since_self _ (hs.idle h)
  | expired h hunused hinterfaces hbefore =>
    have hunsaved : ∀ nc ∈ s'.node.interfaces, nc.savedEntries = none := by
      rw [hinterfaces]
      intro nc hnc
      obtain ⟨nc', -, rfl⟩ := List.mem_map.mp hnc
      exact savedEntries_restored nc'
    refine ⟨fun _ => hunsaved, fun armed harmed => ?_⟩
    rw [hbefore (harmed ▸ Option.some_ne_none armed)]
    exact since_self _ hunsaved
  | completed h hnone hinterfaces =>
    constructor
    · intro _
      rw [hinterfaces]
      intro nc hnc
      obtain ⟨nc', -, rfl⟩ := List.mem_map.mp hnc
      exact savedEntries_committed nc'
    · intro armed harmed
      exact absurd (hnone.symm.trans harmed) (by simp)

/-- The snapshots stay tracked by a command. -/
lemma Tracked.command (hs : s.Tracked) {i : ℕ} {command : NetworkCommand} {now : Instant}
    (h : Ran s.node i command now node) : Tracked { s with node := node } := by
  cases h with
  | refused hsame hmisfit => exact hsame ▸ hs
  | done nc nc' armed hnc hlive heffect hinterfaces harmed =>
    have hrunning := hs.running armed (FailSafe.armedAt_eq_some_iff.mp hlive).1
    obtain ⟨before, hbefore, hsince⟩ := exists_of_forall₂ hrunning hnc
    constructor
    · intro hnone
      exact absurd (harmed.symm.trans hnone) (by simp [NetworkCommissioning.changing])
    · intro armed' harmed'
      have hchanged : armed'.progress.changedNetworks = true := by
        have heq := Option.some.inj (harmed.symm.trans harmed')
        rw [← heq]
      rw [hchanged]
      show List.Forall₂ (Since true) s.before node.interfaces
      rw [hinterfaces]
      exact (forall₂_set_iff (hrunning.imp fun _ _ => Since.changed) hbefore).mpr
        (hsince.effect heffect)

/-- The snapshots stay tracked, whatever is done. -/
lemma Tracked.step (hs : s.Tracked) (op : NodeOp) : (s.step op).Tracked := by
  cases op with
  | call c => exact hs.call (s.called c)
  | command i command now => exact hs.command (s.node.ran i command now)

/-! ### Promises along a run -/

/-- What holds in a run as long as every command spares what is to be restored. -/
structure Promised (H : NetworkCommissioning → Prop)
    (R : NetworkCommissioning → NetworkCommissioning → Prop) (s : Watched) : Prop where
  tracked : s.Tracked
  held : ∀ nc ∈ s.node.interfaces, H nc
  pending : s.Pending R

section promises

variable {H : NetworkCommissioning → Prop}
  {R : NetworkCommissioning → NetworkCommissioning → Prop}
  {check : NetworkCommand → NetworkCommissioning → Bool} {s s' : Watched}

/-- A new context promises what is the case. -/
lemma pending_self (hu : NetworkCommissioning.Undoing H R check) {l : List NetworkCommissioning}
    (hunsaved : ∀ nc ∈ l, nc.savedEntries = none) (hheld : ∀ nc ∈ l, H nc) :
    List.Forall₂ (fun before nc => R before nc.restored) l l :=
  List.forall₂_same.mpr fun nc hnc => hu.begun (hunsaved nc hnc) (hheld nc hnc)

/-- A call keeps all promises. -/
lemma Promised.call (hu : NetworkCommissioning.Undoing H R check) (hs : s.Promised H R)
    (h : Called s s') : s'.Promised H R := by
  have htracked := hs.tracked.call h
  cases h with
  | kept h hinterfaces hbefore =>
    refine ⟨htracked, hinterfaces ▸ hs.held, fun harmed => ?_⟩
    rw [hinterfaces, hbefore]
    refine hs.pending ?_
    intro hnone
    rw [hnone] at h
    generalize s'.node.failSafe.armed = a at h harmed
    cases h
    exact harmed rfl
  | begun h hunused hinterfaces hbefore =>
    refine ⟨htracked, hinterfaces ▸ hs.held, fun harmed => ?_⟩
    rw [hbefore harmed, hinterfaces]
    exact pending_self hu (hs.tracked.idle h) hs.held
  | expired h hunused hinterfaces hbefore =>
    have hpending := hs.pending h
    have hheld : ∀ nc ∈ s'.node.interfaces, H nc := by
      rw [hinterfaces]
      intro nc hnc
      obtain ⟨nc', hnc', rfl⟩ := List.mem_map.mp hnc
      obtain ⟨i, hi⟩ := List.mem_iff_getElem?.mp hnc'
      obtain ⟨before, -, hR⟩ := exists_of_forall₂ hpending hi
      exact hu.restored hR
    have hunsaved : ∀ nc ∈ s'.node.interfaces, nc.savedEntries = none := by
      rw [hinterfaces]
      intro nc hnc
      obtain ⟨nc', -, rfl⟩ := List.mem_map.mp hnc
      exact savedEntries_restored nc'
    refine ⟨htracked, hheld, fun harmed => ?_⟩
    rw [hbefore harmed]
    exact pending_self hu hunsaved hheld
  | completed h hnone hinterfaces =>
    refine ⟨htracked, ?_, fun harmed => absurd hnone harmed⟩
    rw [hinterfaces]
    intro nc hnc
    obtain ⟨nc', hnc', rfl⟩ := List.mem_map.mp hnc
    exact hu.committed (hs.held nc' hnc')

lemma spares_command (i : ℕ) (command : NetworkCommand) (now : Instant) :
    s.spares check (.command i command now) = true ↔
      ∀ nc armed, s.node.interfaces[i]? = some nc → s.node.failSafe.armedAt now = some armed →
        (command.sparesList armed.progress.changedNetworks nc && check command nc) = true := by
  rw [spares, Option.all_eq_true]
  constructor
  · intro h nc armed hnc harmed
    exact (Option.all_eq_true _ _).mp (h nc hnc) armed harmed
  · intro h nc hnc
    exact (Option.all_eq_true _ _).mpr fun armed harmed => h nc armed hnc harmed

variable {command : NetworkCommand} {now : Instant} {node : NetworkNode}

/-- A command the interface does not have changes nothing. -/
lemma changes_of_misfit {nc : NetworkCommissioning} (h : command.fits nc.driver.kind = false) :
    command.changes nc = false := by
  cases command with
  | addOrUpdateWifi ssid credentials breadcrumb answer | addOrUpdateThread dataset breadcrumb answer =>
    have hkind := of_decide_eq_false h
    simp [NetworkCommand.changes, hkind]
  | removeNetwork id breadcrumb | reorderNetwork id index breadcrumb
  | connectNetwork id breadcrumb outcome => cases h

/-- A command keeps the promise exactly when it spares what is to be restored. -/
lemma Promised.command_iff (hu : NetworkCommissioning.Undoing H R check) (hs : s.Promised H R)
    {i : ℕ} (h : Ran s.node i command now node) :
    s.spares check (.command i command now) = true ↔ Pending R { s with node := node } := by
  rw [spares_command]
  cases h with
  | refused hsame hmisfit =>
    refine iff_of_true ?_ (hsame ▸ hs.pending)
    intro nc armed hnc harmed
    have hfits := hmisfit nc armed hnc harmed
    rw [hu.misfit hfits, Bool.and_true, NetworkCommand.sparesList, changes_of_misfit hfits]
    simp
  | done nc nc' armed hnc hlive heffect hinterfaces harmed =>
    have hsome : s.node.failSafe.armed ≠ none := by
      rw [(FailSafe.armedAt_eq_some_iff.mp hlive).1]
      exact Option.some_ne_none armed
    have hpending := hs.pending hsome
    obtain ⟨before, hbefore, hR⟩ := exists_of_forall₂ hpending hnc
    have hstep : Pending R { s with node := node } ↔ R before nc'.restored := by
      have harmed' : node.failSafe.armed ≠ none := by
        rw [harmed]
        exact Option.some_ne_none _
      rw [Pending]
      refine (forall_prop_of_true harmed').trans ?_
      show List.Forall₂ _ s.before node.interfaces ↔ _
      rw [hinterfaces]
      exact forall₂_set_iff hpending hbefore
    rw [hstep, hu.command heffect hR]
    constructor
    · intro hspares
      exact hspares nc armed hnc hlive
    · intro hspares nc₁ armed₁ hnc₁ hlive₁
      obtain rfl : nc = nc₁ := Option.some.inj (hnc.symm.trans hnc₁)
      obtain rfl : armed = armed₁ := Option.some.inj (hlive.symm.trans hlive₁)
      exact hspares

lemma Promised.held_command (hu : NetworkCommissioning.Undoing H R check) (hs : s.Promised H R)
    {i : ℕ} (h : Ran s.node i command now node) : ∀ nc ∈ node.interfaces, H nc := by
  cases h with
  | refused hsame hmisfit => exact hsame ▸ hs.held
  | done nc nc' armed hnc hlive heffect hinterfaces harmed =>
    intro nc₁ hnc₁
    rw [hinterfaces] at hnc₁
    rcases List.mem_or_eq_of_mem_set hnc₁ with hold | rfl
    · exact hs.held nc₁ hold
    · exact hu.effect heffect (hs.held nc (List.mem_of_getElem? hnc))

/-- A step keeps the promise exactly when it spares what is to be restored. -/
lemma Promised.spares_iff (hu : NetworkCommissioning.Undoing H R check) (hs : s.Promised H R)
    (op : NodeOp) : s.spares check op = true ↔ (s.step op).Pending R := by
  cases op with
  | call c => exact iff_of_true rfl (hs.call hu (s.called c)).pending
  | command i command now => exact hs.command_iff hu (s.node.ran i command now)

lemma Promised.step (hu : NetworkCommissioning.Undoing H R check) (hs : s.Promised H R)
    (op : NodeOp) (hspares : s.spares check op = true) : (s.step op).Promised H R := by
  have hpending := (hs.spares_iff hu op).mp hspares
  cases op with
  | call c => exact hs.call hu (s.called c)
  | command i command now =>
    exact ⟨hs.tracked.step _, hs.held_command hu (s.node.ran i command now), hpending⟩

/-- An armed context can always expire, and then the promise is due. -/
lemma restores_iff_pending : s.Restores R ↔ s.Pending R := by
  constructor
  · intro h harmed
    obtain ⟨armed, harmed⟩ := Option.ne_none_iff_exists'.mp harmed
    have hexpired : armed.hasExpired ⟨18446744073709551615⟩ = true := by
      have hlast : armed.expiresAt.micros.toNat ≤ 18446744073709551615 :=
        Nat.le_of_lt_succ armed.expiresAt.micros.toNat_lt
      rw [Armed.hasExpired, Bool.or_eq_true, decide_eq_true_iff]
      exact .inl (Instant.le_def.mpr hlast)
    have hlifecycle : NodeCall.lifecycle s.node.failSafe (.expire ⟨18446744073709551615⟩) =
        some (.failSafeExpired (armed.progress.cleanup armed.fabricIndex).removeFabric) := by
      rw [NodeCall.lifecycle, FailSafe.expire_of_lapsed harmed hexpired]
      rfl
    have hrestored := h _ _ hlifecycle
    rw [NetworkNode.call, hlifecycle] at hrestored
    exact List.forall₂_map_right_iff.mp hrestored
  · intro h c fabric hlifecycle
    have harmed : s.node.failSafe.armed ≠ none := by
      have hcourse := c.course s.node.failSafe
      rw [hlifecycle] at hcourse
      cases hcourse with
      | expired harmed hunused fabric => exact harmed
    rw [NetworkNode.call, hlifecycle]
    exact List.forall₂_map_right_iff.mpr (h harmed)

end promises

/-! ### What is kept -/

/-- A completed commissioning keeps the lists and drops the snapshots; without a context nothing
changes; and an expired context leaves a list as it was armed with, or as it stands. -/
structure Keeps (s : Watched) : Prop where
  completed : ∀ (c : NodeCall) (fabric : FabricIndex),
    c.lifecycle s.node.failSafe = some (.commissioningComplete fabric) →
      List.Forall₂ (fun nc nc' => nc'.entries = nc.entries ∧ nc'.savedEntries = none)
        s.node.interfaces (s.node.call c).interfaces
  idle : s.node.failSafe.armed = none → ∀ op : NodeOp,
    (s.step op).node.interfaces = s.node.interfaces
  expired : ∀ (c : NodeCall) (fabric : Option FabricIndex),
    c.lifecycle s.node.failSafe = some (.failSafeExpired fabric) →
      ∀ (i : ℕ) (nc : NetworkCommissioning), s.node.interfaces[i]? = some nc →
        ∃ before nc', s.before[i]? = some before ∧ (s.node.call c).interfaces[i]? = some nc' ∧
          (nc'.entries = before.entries ∨ nc'.entries = nc.entries)

lemma Tracked.keeps {s : Watched} (hs : s.Tracked) : s.Keeps where
  completed c fabric hlifecycle := by
    rw [NetworkNode.call, hlifecycle]
    refine List.forall₂_map_right_iff.mpr (List.forall₂_same.mpr fun nc _ => ⟨rfl, ?_⟩)
    exact savedEntries_committed nc
  idle hnone op := by
    cases op with
    | call c =>
      cases s.called c with
      | kept h hinterfaces hbefore | begun h hunused hinterfaces hbefore => exact hinterfaces
      | expired h hunused hinterfaces hbefore | completed h hfinished hinterfaces => exact absurd hnone h
    | command i command now =>
      cases s.node.ran i command now with
      | refused hsame hmisfit => exact congrArg NetworkNode.interfaces hsame
      | done nc nc' armed hnc hlive heffect hinterfaces harmed =>
        rw [FailSafe.armedAt_of_none hnone] at hlive
        cases hlive
  expired c fabric hlifecycle i nc hnc := by
    have hcourse := c.course s.node.failSafe
    rw [hlifecycle] at hcourse
    cases hcourse with
    | expired harmed hunused fabric =>
      obtain ⟨armed, harmed⟩ := Option.ne_none_iff_exists'.mp harmed
      obtain ⟨before, hbefore, hsince⟩ := exists_of_forall₂ (hs.running armed harmed) hnc
      refine ⟨before, nc.restored, hbefore, ?_, ?_⟩
      · rw [NetworkNode.call, hlifecycle, List.getElem?_map, hnc]
        rfl
      · rw [NetworkCommissioning.entries_restored, NetworkCommissioning.goesBackTo]
        rcases hsince.saved with hsaved | hsaved
        · rw [hsaved]
          exact .inr rfl
        · rw [hsaved]
          exact .inl rfl

lemma tracked_start (h : node.Settled) : (start node).Tracked :=
  ⟨fun _ => h.unsaved, fun armed harmed => absurd (h.unarmed.symm.trans harmed) (by simp)⟩

lemma pending_start (h : node.Settled) (R : NetworkCommissioning → NetworkCommissioning → Prop) :
    (start node).Pending R :=
  fun harmed => absurd h.unarmed harmed

/-- An expired fail-safe restores the interfaces exactly in the runs in which no command changes the
list of an interface whose snapshot the flag has kept it from taking, and no network that may have to be
listed again is removed; the credentials too, if none were replaced. A completed commissioning keeps the
lists, and no later expiry brings an older one back. -/
theorem restores_iff (node : NetworkNode) (hsettled : node.Settled) (ops : List NodeOp) :
    (Throughout step (fun s op => s.spares NetworkCommand.forgetsNone op = true) (start node) ops ↔
      ∀ before, before <+: ops → (run node before).Restores RestoredTo) ∧
    (Throughout step (fun s op => s.spares NetworkCommand.replacesNone op = true) (start node) ops ↔
      ∀ before, before <+: ops → (run node before).Restores RestoredWholly) ∧
    ∀ before, before <+: ops → (run node before).Keeps := by
  have htracked := tracked_start hsettled
  refine ⟨?_, ?_, ?_⟩
  · have hstart : (start node).Promised NetworkCommissioning.Held RestoredTo :=
      ⟨htracked, hsettled.held, pending_start hsettled _⟩
    exact Throughout.iff_forall_isPrefix_of hstart (fun s hs => restores_iff_pending.mpr hs.pending)
      (fun s op hs hop => hs.step NetworkCommissioning.undoing_restoredTo op hop)
      fun s op hs => (hs.spares_iff NetworkCommissioning.undoing_restoredTo op).trans
        restores_iff_pending.symm
  · have hstart : (start node).Promised (fun _ => True) RestoredWholly :=
      ⟨htracked, fun _ _ => trivial, pending_start hsettled _⟩
    exact Throughout.iff_forall_isPrefix_of hstart (fun s hs => restores_iff_pending.mpr hs.pending)
      (fun s op hs hop => hs.step NetworkCommissioning.undoing_restoredWholly op hop)
      fun s op hs => (hs.spares_iff NetworkCommissioning.undoing_restoredWholly op).trans
        restores_iff_pending.symm
  · intro before _
    have hrun : Tracked (before.foldl step (start node)) :=
      foldl_invariant (W := fun _ => True) (I := Tracked) (fun s op _ hs => hs.step op)
        (fun _ _ => trivial) htracked
    exact hrun.keeps

/-! ### A gateway with two radios -/

/-- A Wi-Fi and a Thread interface, as they are when the node is new. -/
def gateway : NetworkNode where
  failSafe := .new {}
  interfaces := [.new { kind := .wiFi } 4, .new { kind := .thread } 4]

lemma settled_gateway : gateway.Settled := by
  refine ⟨rfl, ?_, ?_⟩
  · decide
  · decide

/-- A Thread dataset that consists of an Extended PAN ID. -/
def dataset : List UInt8 := [2, 8, 1, 2, 3, 4, 5, 6, 7, 8]

/-- In one context, a Wi-Fi network is added, then a Thread network. -/
def bothAdded : List NodeOp :=
  [.call (.arm 60 0 none ⟨0⟩ false),
    .command 0 (.addOrUpdateWifi [104, 111, 109, 101] [1] none .success) ⟨1⟩,
    .command 1 (.addOrUpdateThread dataset none .success) ⟨2⟩]

/-- A Wi-Fi network is added for good, and removed in the next context. -/
def removedAgain : List NodeOp :=
  [.call (.arm 60 0 (some ⟨1⟩) ⟨0⟩ false),
    .command 0 (.addOrUpdateWifi [104, 111, 109, 101] [1] none .success) ⟨1⟩,
    .call (.complete true (some ⟨1⟩) ⟨2⟩), .call (.arm 60 0 none ⟨3⟩ false),
    .command 0 (.removeNetwork [104, 111, 109, 101] none) ⟨4⟩]

/-- As long as the Thread interface is left alone, an expired fail-safe restores both. -/
theorem restores_gateway : (run gateway (bothAdded.take 2)).Restores RestoredTo :=
  (restores_iff gateway settled_gateway (bothAdded.take 2)).1.mp (by decide +kernel) _ List.prefix_rfl

lemma entries_of_restored (h : List.Forall₂ RestoredTo l l') :
    l'.map NetworkCommissioning.entries = l.map NetworkCommissioning.entries := by
  induction h with
  | nil => rfl
  | cons hab h ih => rw [List.map_cons, List.map_cons, hab.entries, ih]

lemma credentials_of_restored (h : List.Forall₂ RestoredTo l l') : ∀ nc ∈ l', nc.keepsCredentials = true →
      ∀ n ∈ nc.entries, (nc.driver.credentials n.id).isSome = true := by
  intro nc hnc hkeeps n hn
  obtain ⟨i, hi⟩ := List.mem_iff_getElem?.mp hnc
  obtain ⟨before, -, hrestored⟩ := exists_of_forall₂ h hi
  rw [hrestored.entries] at hn
  exact hrestored.credentials hkeeps n hn

/-- The Thread interface keeps the network that was added to it after the Wi-Fi interface had taken its
snapshot; and the Wi-Fi interface has its list back, without the credentials. -/
theorem not_restores : gateway.Settled ∧ ¬ (run gateway bothAdded).Restores RestoredTo ∧
      ¬ (run gateway removedAgain).Restores RestoredTo := by
  refine ⟨settled_gateway, ?_, ?_⟩
  · intro h
    have hrestored := h (.expire ⟨60000000⟩) none (by decide +kernel)
    have hentries := entries_of_restored hrestored
    revert hentries
    decide +kernel
  · intro h
    have hrestored := h (.expire ⟨60000003⟩) none (by decide +kernel)
    have hcredentials := credentials_of_restored hrestored
    revert hcredentials
    decide +kernel

end Watched

end MatterKit.Clusters
