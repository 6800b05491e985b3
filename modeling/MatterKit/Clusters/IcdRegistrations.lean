import MatterKit.Clusters.IcdClients
import MatterKit.Lib.Runs

/-!
# The registrations of a sleepy device

Runs of the ICD Management cluster: commands of any caller, changes of the operating mode, and fabrics
that come and go. One table holds the registrations of every fabric, each fabric having its share.

What holds of every run is read off what one command does (`ClientChange`): entries are unique, no fabric
has more than its share, and one that has less finds room (`Kept`, `Kept.room`). Two things do not hold
of every step, and `protected_iff_spares` says exactly of which: a registration stays although its
response could not be written, and the mode goes back to the short idle time although clients rely on
the long one.
-/

namespace MatterKit.Clusters

open Lib Machine Tlv Dm Im Sc

/-! ## The node -/

/-- Source: `clusters/icd_management.rs`, `OperatingMode`. -/
inductive OperatingMode
  | sit
  | lit
  deriving DecidableEq

/-- Source: `Feature::DYNAMIC_SIT_LIT_SUPPORT`. -/
def dynamicSitLitSupport : UInt32 := 8

/-- The cluster with its operating mode, on a node of at most `F` fabrics; the table has room for the
share of each.
Source: `clusters/icd_management.rs`, `IcdManagement`, `IcdManagement::CHECK` and `Config::FABRICS`. -/
structure IcdNode (N F : ℕ) where
  icd : IcdManagement N
  operatingMode : OperatingMode
  fabrics : BoundedVec FabricIndex F
  check : icd.clientsPerFabric * F ≤ N

/-- What is asked of the node, and what happens to its fabrics. -/
inductive IcdOp
  | invoke (command : CommandId) (fields : Option (List UInt8)) (ctx : InteractionContext)
      (w : TlvWriter) (tag : Tag)
  | setOperatingMode (mode : OperatingMode)
  | restoreCounter (value : UInt32)
  | fabricAdded (fabric : FabricIndex)
  | fabricRemoved (fabric : FabricIndex)

namespace IcdNode

open IcdManagement

variable {N F : ℕ}

/-! ## Runs -/

/-- A cluster that nobody has registered with.
Source: `IcdManagement::with_stay_active`. -/
def new (features : UInt32) (clientsPerFabric : ℕ) (promise : UInt32 → UInt32)
    (fabrics : BoundedVec FabricIndex F) (check : clientsPerFabric * F ≤ N) : IcdNode N F where
  icd := ⟨.empty, 0, features, clientsPerFabric, promise⟩
  operatingMode := .sit
  fabrics := fabrics
  check := check

/-- Source: `IcdManagement::set_operating_mode`. -/
def setOperatingMode (s : IcdNode N F) (mode : OperatingMode) : Except Status (IcdNode N F) := do
  ensure (s.icd.features &&& longIdleTimeSupport ≠ 0) .unsupportedAttribute
  ensure (¬ (mode = .lit ∧ s.icd.features &&& dynamicSitLitSupport = 0 ∧
    s.icd.clients.toList ≠ [])) .invalidInState
  pure { s with operatingMode := mode }

/-- A fabric that goes takes its registrations along, and one that comes finds room or is refused. -/
def step (s : IcdNode N F) : IcdOp → IcdNode N F
  | .invoke command fields ctx w tag =>
    { s with
      icd := (s.icd.invoke command fields ctx w tag).2
      check := (clientsPerFabric_invoke command fields ctx w tag).symm ▸ s.check }
  | .setOperatingMode mode =>
    match s.setOperatingMode mode with
    | .ok s' => s'
    | .error _ => s
  | .restoreCounter value => { s with icd := s.icd.restoreCounter value, check := s.check }
  | .fabricAdded fabric =>
    match s.fabrics.push fabric with
    | some fabrics => { s with fabrics := fabrics }
    | none => s
  | .fabricRemoved fabric =>
    { s with
      icd := s.icd.removeFabric fabric
      fabrics := s.fabrics.retain fun f => decide (f ≠ fabric)
      check := s.check }

/-- What the one who asked is answered. -/
def reply (s : IcdNode N F) : IcdOp → Except StatusIb (Option CommandId)
  | .invoke command fields ctx w tag => (s.icd.invoke command fields ctx w tag).1.1
  | .setOperatingMode mode =>
    match s.setOperatingMode mode with
    | .ok _ => .ok none
    | .error e => .error (.new e)
  | _ => .ok none

/-- The registrations. -/
abbrev clients (s : IcdNode N F) : List MonitoringRegistration := s.icd.clients.toList

end IcdNode

/-- The fabric whose registrations an operation is about. -/
def IcdOp.fabric : IcdOp → Option FabricIndex
  | .invoke _ _ ctx _ _ => ctx.fabricIndex
  | .fabricRemoved fabric => some fabric
  | _ => none

/-- An entry of this key may be changed or deleted: by an administrator, by whoever presents the key, or
because its fabric goes. -/
def IcdOp.May : IcdOp → SymmetricKey → Prop
  | .invoke command fields ctx _ _, key => IcdManagement.MayChange command fields ctx key
  | .fabricRemoved _, _ => True
  | _, _ => False

namespace IcdNode

open IcdManagement

variable {N F : ℕ} {s : IcdNode N F} {op : IcdOp}

/-- Commands come over sessions of the node's own fabrics. -/
def Within (s : IcdNode N F) (op : IcdOp) : Prop :=
  ∀ command fields ctx w tag, op = .invoke command fields ctx w tag →
    ∀ fabric, ctx.fabricIndex = some fabric → fabric ∈ s.fabrics.toList

/-- What is to hold of the registrations at a step: no two share a fabric and a node; no fabric has more
than its share, and one with less has room; an entry that changes or goes may be changed by who asked;
other fabrics' entries stay; an error leaves the table alone; and without the feature for it the mode
does not change under a client. -/
structure Protected (s : IcdNode N F) (op : IcdOp) : Prop where
  unique : KeysUnique entryKey (s.step op).clients
  quota : ∀ fabric, held MonitoringRegistration.fabricIndex (s.step op).clients fabric ≤
    s.icd.clientsPerFabric
  served : ∀ fabric, op.fabric = some fabric →
    held MonitoringRegistration.fabricIndex s.clients fabric < s.icd.clientsPerFabric →
      s.reply op ≠ .error (.new .resourceExhausted)
  authorised : ∀ c ∈ s.clients, c ∉ (s.step op).clients → op.May c.key
  isolated : ∀ fabric, op.fabric ≠ some fabric →
    ((s.step op).clients.filter fun c => decide (c.fabricIndex = fabric)) =
      s.clients.filter fun c => decide (c.fabricIndex = fabric)
  undone : ∀ e, s.reply op = .error e → (s.step op).icd.clients = s.icd.clients
  mode : s.icd.features &&& dynamicSitLitSupport = 0 → s.clients ≠ [] →
    (s.step op).operatingMode = s.operatingMode

/-- The two steps that do not keep it: a registration that is taken although its response has no room,
and a way back to the short idle time under a client. -/
def Spares (s : IcdNode N F) : IcdOp → Prop
  | .invoke command fields ctx w tag =>
    ¬ (command = registerClientCommand ∧ s.icd.Alters fields ctx ∧ ¬ HasRoom w tag s.icd.counter)
  | .setOperatingMode mode =>
    ¬ (mode = .sit ∧ s.operatingMode = .lit ∧ s.icd.features &&& longIdleTimeSupport ≠ 0 ∧
      s.icd.features &&& dynamicSitLitSupport = 0 ∧ s.clients ≠ [])
  | _ => True

/-- What every run keeps of the table. -/
structure Kept (s : IcdNode N F) : Prop where
  unique : KeysUnique entryKey s.clients
  quota : ∀ fabric, held MonitoringRegistration.fabricIndex s.clients fabric ≤ s.icd.clientsPerFabric
  served : ∀ c ∈ s.clients, c.fabricIndex ∈ s.fabrics.toList

variable {fabric : FabricIndex} {mode : OperatingMode} {s' : IcdNode N F}

/-- A fabric of the node that has not taken its share finds room. -/
lemma Kept.room (h : s.Kept) (hfabric : fabric ∈ s.fabrics.toList)
    (hshare : held MonitoringRegistration.fabricIndex s.clients fabric < s.icd.clientsPerFabric) :
    s.clients.length < N := by
  have hF : ∀ c ∈ s.clients, c.fabricIndex ∈ s.fabrics.toList.toFinset := by
    intro c hc
    exact List.mem_toFinset.mpr (h.served c hc)
  have hcard : s.fabrics.toList.toFinset.card ≤ F :=
    (List.toFinset_card_le _).trans s.fabrics.length_le
  have hclaimed : claimed MonitoringRegistration.fabricIndex s.fabrics.toList.toFinset
      s.icd.clientsPerFabric s.clients ≤ N := by
    rw [claimed_of_held_le fun f _ => h.quota f]
    calc s.fabrics.toList.toFinset.card * s.icd.clientsPerFabric
        ≤ F * s.icd.clientsPerFabric := Nat.mul_le_mul_right _ hcard
      _ = s.icd.clientsPerFabric * F := Nat.mul_comm _ _
      _ ≤ N := s.check
  exact length_lt_of_claimed_le hF hclaimed (List.mem_toFinset.mpr hfabric) hshare

/-! ## Steps -/

/-- A change of the mode is that and nothing else. -/
lemma setOperatingMode_eq_ok (h : s.setOperatingMode mode = .ok s') :
    s' = { s with operatingMode := mode } := by
  obtain ⟨_, _, h⟩ := bind_eq_ok.mp h
  obtain ⟨_, _, hdone⟩ := bind_eq_ok.mp h
  cases hdone
  rfl

lemma step_setOperatingMode (mode : OperatingMode) : s.step (.setOperatingMode mode) = s ∨
      s.step (.setOperatingMode mode) = { s with operatingMode := mode } := by
  simp only [step]
  split
  · rename_i hdone
    exact .inr (setOperatingMode_eq_ok hdone)
  · exact .inl rfl

lemma icd_setOperatingMode (mode : OperatingMode) : (s.step (.setOperatingMode mode)).icd = s.icd := by
  rcases s.step_setOperatingMode mode with h | h
  · rw [h]
  · rw [h]

lemma fabrics_setOperatingMode (mode : OperatingMode) :
    (s.step (.setOperatingMode mode)).fabrics = s.fabrics := by
  rcases s.step_setOperatingMode mode with h | h
  · rw [h]
  · rw [h]

lemma icd_fabricAdded (fabric : FabricIndex) : (s.step (.fabricAdded fabric)).icd = s.icd := by
  simp only [step]
  split
  · rfl
  · rfl

lemma mem_fabrics_fabricAdded {fabric f : FabricIndex} (h : f ∈ s.fabrics.toList) :
    f ∈ (s.step (.fabricAdded fabric)).fabrics.toList := by
  simp only [step]
  split
  · rename_i hpush
    obtain ⟨_, hfabrics⟩ := BoundedVec.push_eq_some_iff.mp hpush
    rw [hfabrics]
    exact List.mem_append_left _ h
  · exact h

/-- A step that leaves the cluster as it is, with the fabrics that were there. -/
lemma Kept.of_icd_eq (h : s.Kept) (hicd : s'.icd = s.icd)
    (hfabrics : ∀ f ∈ s.fabrics.toList, f ∈ s'.fabrics.toList) : s'.Kept := by
  have hclients : s'.clients = s.clients := congrArg (fun icd => icd.clients.toList) hicd
  refine ⟨?_, ?_, ?_⟩
  · rw [hclients]
    exact h.unique
  · rw [hclients, hicd]
    exact h.quota
  · rw [hclients]
    intro c hc
    exact hfabrics _ (h.served c hc)

/-- Each step keeps the table unique, within the shares and to the node's fabrics. -/
lemma Kept.step (h : s.Kept) (hwithin : s.Within op) : (s.step op).Kept := by
  cases op with
  | invoke command fields ctx w tag =>
    have hper := clientsPerFabric_invoke (s := s.icd) command fields ctx w tag
    rcases s.icd.invoke_change command fields ctx w tag with
      hsame | ⟨⟨fabric, hfabric, hchange⟩, _⟩
    · exact h.of_icd_eq hsame fun f hf => hf
    · have hmember := hwithin command fields ctx w tag rfl fabric hfabric
      refine ⟨hchange.unique h.unique, ?_, ?_⟩
      · intro g
        exact (hchange.quota h.quota g).trans_eq hper.symm
      · intro c hc
        exact hchange.mem_fabrics hmember h.served hc
  | setOperatingMode mode =>
    apply h.of_icd_eq (icd_setOperatingMode mode)
    rw [fabrics_setOperatingMode]
    exact fun f hf => hf
  | fabricAdded fabric =>
    exact h.of_icd_eq (icd_fabricAdded fabric) fun f hf => mem_fabrics_fabricAdded hf
  | restoreCounter value => exact ⟨h.unique, h.quota, h.served⟩
  | fabricRemoved fabric =>
    refine ⟨h.unique.filter _, ?_, ?_⟩
    · intro g
      exact (held_filter_le _ g).trans (h.quota g)
    · intro c hc
      obtain ⟨hold, hother⟩ := List.mem_filter.mp hc
      exact List.mem_filter.mpr ⟨h.served c hold, hother⟩

/-- The mode moves under a client without the feature exactly when it goes back. -/
lemma mode_iff : (s.icd.features &&& dynamicSitLitSupport = 0 → s.clients ≠ [] →
        (s.step (.setOperatingMode mode)).operatingMode = s.operatingMode) ↔
      s.Spares (.setOperatingMode mode) := by
  simp only [Spares]
  by_cases hlong : s.icd.features &&& longIdleTimeSupport ≠ 0
  · by_cases hrefused : mode = .lit ∧ s.icd.features &&& dynamicSitLitSupport = 0 ∧ s.clients ≠ []
    · have hsame : s.step (.setOperatingMode mode) = s := by
        simp only [step, setOperatingMode]
        rw [ensure_of hlong, ok_bind]
        unfold ensure
        rw [if_neg (not_not.mpr hrefused)]
        rfl
      rw [hsame, hrefused.1]
      exact iff_of_true (fun _ _ => rfl) fun h => by cases h.1
    · have hmoved : s.step (.setOperatingMode mode) = { s with operatingMode := mode } := by
        simp only [step, setOperatingMode]
        rw [ensure_of hlong, ok_bind, ensure_of hrefused, ok_bind]
        rfl
      rw [hmoved]
      constructor
      · rintro hkept ⟨rfl, hlit, _, hfixed, hclients⟩
        have hsit : OperatingMode.sit = s.operatingMode := hkept hfixed hclients
        rw [hlit] at hsit
        cases hsit
      · intro hspared hfixed hclients
        show mode = s.operatingMode
        cases hmode : mode with
        | lit => exact absurd ⟨hmode, hfixed, hclients⟩ hrefused
        | sit =>
          cases hold : s.operatingMode with
          | sit => rfl
          | lit => exact absurd ⟨hmode, hold, hlong, hfixed, hclients⟩ hspared
  · have hsame : s.step (.setOperatingMode mode) = s := by
      simp only [step, setOperatingMode]
      unfold ensure
      rw [if_neg hlong]
      rfl
    rw [hsame]
    exact iff_of_true (fun _ _ => rfl) fun h => hlong h.2.2.1

/-- What the cluster promises each fabric is fixed. -/
lemma clientsPerFabric_step (op : IcdOp) : (s.step op).icd.clientsPerFabric = s.icd.clientsPerFabric := by
  cases op with
  | invoke command fields ctx w tag => exact clientsPerFabric_invoke command fields ctx w tag
  | setOperatingMode mode => rw [icd_setOperatingMode]
  | restoreCounter value => rfl
  | fabricAdded fabric => rw [icd_fabricAdded]
  | fabricRemoved fabric => rfl

/-- An entry that is no longer there as it was is one that might be changed. -/
lemma may_of_not_mem {c : MonitoringRegistration} (hc : c ∈ s.clients)
    (hc' : c ∉ (s.step op).clients) : op.May c.key := by
  cases op with
  | invoke command fields ctx w tag =>
    rcases s.icd.invoke_change command fields ctx w tag with hsame | ⟨⟨fabric, _, hchange⟩, _⟩
    · have hclients : (s.step (.invoke command fields ctx w tag)).clients = s.clients :=
        congrArg (fun icd => icd.clients.toList) hsame
      rw [hclients] at hc'
      exact absurd hc hc'
    · exact hchange.allowed_of_not_mem hc hc'
  | setOperatingMode mode =>
    rw [clients, icd_setOperatingMode] at hc'
    exact absurd hc hc'
  | restoreCounter value => exact absurd hc hc'
  | fabricAdded fabric =>
    rw [clients, icd_fabricAdded] at hc'
    exact absurd hc hc'
  | fabricRemoved fabric => exact trivial

/-- The entries of the fabrics that an operation is not about stay what and where they were. -/
lemma filter_step (h : op.fabric ≠ some fabric) :
    ((s.step op).clients.filter fun c => decide (c.fabricIndex = fabric)) =
      s.clients.filter fun c => decide (c.fabricIndex = fabric) := by
  cases op with
  | invoke command fields ctx w tag =>
    rcases s.icd.invoke_change command fields ctx w tag with hsame | ⟨⟨own, hown, hchange⟩, _⟩
    · exact congrArg (fun icd => icd.clients.toList.filter fun c => decide (c.fabricIndex = fabric))
        hsame
    · apply hchange.isolated
      rintro rfl
      exact h hown
  | setOperatingMode mode => rw [clients, icd_setOperatingMode]
  | restoreCounter value => rfl
  | fabricAdded fabric => rw [clients, icd_fabricAdded]
  | fabricRemoved gone =>
    show (s.clients.filter fun c => decide (c.fabricIndex ≠ gone)).filter _ = _
    rw [List.filter_filter]
    apply List.filter_congr
    intro c _
    by_cases hc : c.fabricIndex = fabric
    · have hstays : c.fabricIndex ≠ gone := fun hgone => h (congrArg some (hgone.symm.trans hc))
      have hkept : decide (c.fabricIndex ≠ gone) = true := decide_eq_true hstays
      rw [hkept, Bool.and_true]
    · rw [decide_eq_false hc, Bool.false_and]

/-- A command of a fabric that has not taken its share is not refused for want of room. -/
lemma reply_ne_exhausted (h : s.Kept) (hwithin : s.Within op) (hfabric : op.fabric = some fabric)
    (hshare : held MonitoringRegistration.fabricIndex s.clients fabric < s.icd.clientsPerFabric) :
    s.reply op ≠ .error (.new .resourceExhausted) := by
  cases op with
  | invoke command fields ctx w tag =>
    have hmember := hwithin command fields ctx w tag rfl fabric hfabric
    exact invoke_ne_exhausted w tag hfabric hshare (h.room hmember hshare)
  | setOperatingMode mode | restoreCounter value | fabricAdded fabric => cases hfabric
  | fabricRemoved gone => exact fun heq => by cases heq

/-- All of it but for the table after an error and the mode under a client holds of every step. -/
lemma protected_of (h : s.Kept) (hwithin : s.Within op)
    (hundone : ∀ e, s.reply op = .error e → (s.step op).icd.clients = s.icd.clients)
    (hmode : s.icd.features &&& dynamicSitLitSupport = 0 → s.clients ≠ [] →
      (s.step op).operatingMode = s.operatingMode) : s.Protected op where
  unique := (h.step hwithin).unique
  quota _ := ((h.step hwithin).quota _).trans_eq (clientsPerFabric_step op)
  served _ hfabric hshare := reply_ne_exhausted h hwithin hfabric hshare
  authorised _ hc hc' := may_of_not_mem hc hc'
  isolated _ hfabric := filter_step hfabric
  undone := hundone
  mode := hmode

/-- A step protects the registrations exactly if it is neither of the two that do not. -/
lemma protected_iff (h : s.Kept) (hwithin : s.Within op) : s.Protected op ↔ s.Spares op := by
  have hroom : ∀ command fields ctx w tag, op = .invoke command fields ctx w tag →
      ∀ fabric, ctx.fabricIndex = some fabric →
        held MonitoringRegistration.fabricIndex s.clients fabric < s.icd.clientsPerFabric →
          s.clients.length < N :=
    fun command fields ctx w tag hop fabric hfabric hshare =>
      h.room (hwithin command fields ctx w tag hop fabric hfabric) hshare
  cases op with
  | invoke command fields ctx w tag =>
    have hundone := undone_iff command fields w tag (hroom command fields ctx w tag rfl)
    constructor
    · exact fun hprotected => hundone.mp hprotected.undone
    · exact fun hspared => protected_of h hwithin (hundone.mpr hspared) fun _ _ => rfl
  | setOperatingMode mode =>
    constructor
    · exact fun hprotected => mode_iff.mp hprotected.mode
    · intro hspared
      refine protected_of h hwithin (fun e _ => ?_) (mode_iff.mpr hspared)
      rw [icd_setOperatingMode]
  | restoreCounter value =>
    exact iff_of_true (protected_of h hwithin (fun _ _ => rfl) fun _ _ => rfl) trivial
  | fabricAdded fabric =>
    refine iff_of_true (protected_of h hwithin (fun e _ => ?_) fun _ _ => ?_) trivial
    · rw [icd_fabricAdded]
    · simp only [step]
      split
      · rfl
      · rfl
  | fabricRemoved fabric =>
    refine iff_of_true (protected_of h hwithin (fun e he => ?_) fun _ _ => rfl) trivial
    cases he

lemma kept_of_clients_eq_nil (h : s.clients = []) : s.Kept := by
  refine ⟨?_, ?_, ?_⟩
  · rw [h]
    exact .nil
  · rw [h]
    exact fun _ => Nat.zero_le _
  · rw [h]
    exact List.forall_mem_nil _

/-! ## What every run protects -/

/-- A node that has long idle times and Check-In messages, and one fabric of two clients at most. -/
def sleepy : IcdNode 2 1 :=
  new (checkInProtocolSupport ||| longIdleTimeSupport) 2 (fun requested => requested)
    ⟨[⟨1⟩], le_rfl⟩ le_rfl

/-- A node with the right to manage asks to be told, under a key of sixteen zeros. -/
def registration (room : ℕ) (h : room < 2 ^ 63) : IcdOp :=
  .invoke registerClientCommand
    (some ([0x35, 0x01, 0x24, 0x00, 0x05, 0x24, 0x01, 0x05, 0x30, 0x02, 0x10] ++ List.replicate 16 0 ++
      [0x24, 0x04, 0x00, 0x18]))
    { fabricIndex := some ⟨1⟩, privilege := some .manage }
    (.newIn ⟨List.replicate room 0, Slice.length_replicate h⟩ .struct) (.context 1)

lemma within_registration {s : IcdNode N F} (hfabric : (⟨1⟩ : FabricIndex) ∈ s.fabrics.toList)
    {room : ℕ} (h : room < 2 ^ 63) : s.Within (registration room h) := by
  intro command fields ctx w tag hop fabric hctx
  cases hop
  cases hctx
  exact hfabric

lemma within_setOperatingMode {s : IcdNode N F} (mode : OperatingMode) :
    s.Within (.setOperatingMode mode) := by
  intro command fields ctx w tag hop
  cases hop

/-- A registration whose response has room. -/
lemma spares_registration {s : IcdNode N F} {room : ℕ} {h : room < 2 ^ 63}
    (hwritten : (exec ((numberResponse registerClientResponseId s.icd.counter).write (.context 1))
      (.newIn ⟨List.replicate room 0, Slice.length_replicate h⟩ .struct)).1 = .ok ()) :
    s.Spares (registration room h) := fun hfull => hfull.2.2 (write_numberResponse_iff.mp hwritten)

/-- In every run from a cluster that nobody has registered with, the registrations are protected
throughout exactly if no registration is taken whose response has no room, and the mode is not set back
under a client without the feature for it. -/
theorem protected_iff_spares {features : UInt32} {clientsPerFabric : ℕ} {promise : UInt32 → UInt32}
    {fabrics : BoundedVec FabricIndex F} {check : clientsPerFabric * F ≤ N} {ops : List IcdOp}
    (hwithin : Throughout step Within (new features clientsPerFabric promise fabrics check) ops) :
    Throughout step Protected (new features clientsPerFabric promise fabrics check) ops ↔
      Throughout step Spares (new features clientsPerFabric promise fabrics check) ops := by
  have hkept : (new features clientsPerFabric promise fabrics check).Kept :=
    kept_of_clients_eq_nil rfl
  generalize new features clientsPerFabric promise fabrics check = s at hwithin hkept
  induction ops generalizing s with
  | nil => exact Iff.rfl
  | cons op ops ih =>
    exact and_congr (protected_iff hkept hwithin.1) (ih _ hwithin.2 (hkept.step hwithin.1))

/-- A node that switches while nobody is registered, and registers where there is room. -/
theorem registrations_protected : Throughout step Protected sleepy
      [.setOperatingMode .lit, registration 64 (by decide), registration 64 (by decide)] := by
  have hwithin : Throughout step Within sleepy
      [.setOperatingMode .lit, registration 64 (by decide), registration 64 (by decide)] := by
    refine ⟨within_setOperatingMode _, ?_, ?_, trivial⟩
    · exact within_registration (by decide +kernel) _
    · exact within_registration (by decide +kernel) _
  apply (protected_iff_spares hwithin).mpr
  refine ⟨fun hback => absurd hback.1 (by decide), ?_, ?_, trivial⟩
  · exact spares_registration (by decide +kernel)
  · exact spares_registration (by decide +kernel)

/-- A client that has been told the long idle time, and the mode that goes back under it; and a client
that is answered with a failure and registered. -/
theorem registrations_unprotected :
    (Throughout step Within sleepy [.setOperatingMode .lit, registration 64 (by decide),
        .setOperatingMode .sit] ∧
      ¬ Throughout step Protected sleepy [.setOperatingMode .lit, registration 64 (by decide),
        .setOperatingMode .sit]) ∧ Throughout step Within sleepy [registration 4 (by decide)] ∧
      ¬ Throughout step Protected sleepy [registration 4 (by decide)] := by
  refine ⟨⟨⟨?_, ?_, ?_, trivial⟩, ?_⟩, ⟨?_, trivial⟩, ?_⟩
  · exact within_setOperatingMode _
  · exact within_registration (by decide +kernel) _
  · exact within_setOperatingMode _
  · rintro ⟨-, -, hback, -⟩
    exact absurd (hback.mode (by decide +kernel) (by decide +kernel)) (by decide +kernel)
  · exact within_registration (by decide +kernel) _
  · rintro ⟨hfull, -⟩
    exact absurd (hfull.undone (.new .failure) (by decide +kernel)) (by decide +kernel)

end IcdNode

end MatterKit.Clusters
