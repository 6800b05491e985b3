import MatterKit.Clusters.Rollback

/-!
# The Administrator Commissioning cluster

`clusters/administrator_commissioning.rs`: an administrator opens a commissioning window, with a
verifier of its own or with that of the device, and revokes it. A revocation does more than close the
window. It expires a fail-safe context that a PASE session holds, and hands what is left to do to the
device as a `Revoked`.

A revocation that arrives as a command has its `Revoked` dropped, and the fabric of the context is
recorded by `AddNOC` while the context goes on. So the command has all its effects exactly when it finds
no live context that a PASE session has armed (`revocation_takes_effect_iff`).
-/

namespace MatterKit.Clusters

open Lib Machine Tlv Dm Im Commissioning Sc

/-! ## The commands -/

/-- Source: `AdminStatus`. -/
inductive AdminStatus
  | busy
  | pakeParameterError
  | windowNotOpen

/-- Source: `AdminStatus::value`. -/
def AdminStatus.value : AdminStatus → UInt8
  | .busy => 2
  | .pakeParameterError => 3
  | .windowNotOpen => 4

/-- Source: `AdminStatus::as_status`. -/
def AdminStatus.asStatus (status : AdminStatus) : StatusIb := ⟨.failure, some status.value⟩

/-- What a revocation leaves for the device to do.
Source: `Revoked`. -/
structure Revoked where
  closePaseSessions : Bool
  failSafeCleanup : Option Cleanup
  stopAdvertising : Bool

/-- Source: `OpenWindowRequest`. -/
structure OpenWindowRequest where
  timeoutSeconds : UInt16
  verifier : List UInt8
  discriminator : UInt16
  iterations : UInt32
  salt : List UInt8

/-- The cluster, apart from the cells it shares: whether it opens windows with the device's own verifier,
the vendor of a fabric, and which octets are a verifier.
Source: `AdministratorCommissioning`, and
`Spake2pVerifierData::from_bytes`. -/
structure AdministratorCommissioning (N : ℕ) where
  basicSupported : Bool
  vendorOfFabric : FabricTable N → FabricIndex → Option VendorId
  isVerifier : List UInt8 → Bool

namespace AdministratorCommissioning

/-- Source: `OPEN_COMMISSIONING_WINDOW`. -/
def openCommissioningWindowCommand : CommandId := 0x00

/-- Source: `OPEN_BASIC_COMMISSIONING_WINDOW`. -/
def openBasicCommissioningWindowCommand : CommandId := 0x01

/-- Source: `REVOKE_COMMISSIONING`. -/
def revokeCommissioningCommand : CommandId := 0x02

/-- Source: `COMMISSIONING_TIMEOUT_MIN_SECONDS`. -/
def commissioningTimeoutMinSeconds : UInt16 := 180

/-- Source: `COMMISSIONING_TIMEOUT_MAX_SECONDS`. -/
def commissioningTimeoutMaxSeconds : UInt16 := 900

/-! ### Fields -/

/-- Source: `decode_open_window`, its variables. -/
structure OpenWindowFields where
  timeout : Option UInt16 := none
  verifier : Option (List UInt8) := none
  discriminator : Option UInt16 := none
  iterations : Option UInt32 := none
  salt : Option (List UInt8) := none

/-- A number that a field holds once; one that is too large is a constraint error. -/
def numberOnce {α : Type} (narrow : UInt64 → Except ErrorCode α) (slot : Option α) (e : Element) :
    Except Status (Option α) := do
  let value ← orElse e.unsigned .invalidCommand
  fieldOnce slot (orElse (narrow value) .constraintError)

/-- Source: `decode_open_window`, the closure. -/
def onOpenWindowField (number : UInt8) (e : Element) (f : OpenWindowFields) :
    Except Status (Option OpenWindowFields) :=
  match number with
  | 0 => do
    let timeout ← numberOnce narrow16 f.timeout e
    pure (some { f with timeout := timeout })
  | 1 => do
    let verifier ← fieldOnce f.verifier (orElse (octetsOf e) .invalidCommand)
    pure (some { f with verifier := verifier })
  | 2 => do
    let discriminator ← numberOnce narrow16 f.discriminator e
    pure (some { f with discriminator := discriminator })
  | 3 => do
    let iterations ← numberOnce narrow32 f.iterations e
    pure (some { f with iterations := iterations })
  | 4 => do
    let salt ← fieldOnce f.salt (orElse (octetsOf e) .invalidCommand)
    pure (some { f with salt := salt })
  | _ => pure none

/-- A status of the interaction model, as the whole answer. -/
def plain {α : Type} (x : Except Status α) : Except StatusIb α := x.mapError .new

/-- Source: `decode_open_window`. -/
def decodeOpenWindow (fields : Option (List UInt8)) : Except StatusIb OpenWindowRequest := do
  let f ← plain (walkFields onOpenWindowField {} fields)
  let verifier ← Lib.okOr f.verifier (.new .invalidCommand)
  ensure (verifier.length = 97) AdminStatus.pakeParameterError.asStatus
  let timeout ← Lib.okOr f.timeout (.new .invalidCommand)
  let discriminator ← Lib.okOr f.discriminator (.new .invalidCommand)
  let iterations ← Lib.okOr f.iterations (.new .invalidCommand)
  let salt ← Lib.okOr f.salt (.new .invalidCommand)
  pure ⟨timeout, verifier, discriminator, iterations, salt⟩

/-- Source: `decode_basic_window`, the closure. -/
def onBasicWindowField (number : UInt8) (e : Element) (timeout : Option UInt16) :
    Except Status (Option (Option UInt16)) :=
  match number with
  | 0 => do
    let timeout ← numberOnce narrow16 timeout e
    pure (some timeout)
  | _ => pure none

/-- Source: `decode_basic_window`. -/
def decodeBasicWindow (fields : Option (List UInt8)) : Except StatusIb UInt16 := do
  let timeout ← plain (walkFields onBasicWindowField none fields)
  Lib.okOr timeout (.new .invalidCommand)

/-! ### Opening and revoking -/

section commands

variable {N : ℕ} {K : Type}

/-- Source: `AdministratorCommissioning::may_open`. -/
def mayOpen (s : CommissioningNode N K) (ctx : InteractionContext) : Except StatusIb Unit := do
  ensure ((s.window.openAt ctx.now).isNone) AdminStatus.busy.asStatus
  ensure (s.failSafe.isArmed ctx.now = false) AdminStatus.busy.asStatus

/-- Source: `AdministratorCommissioning::install`. -/
def install (a : AdministratorCommissioning N) (s : CommissioningNode N K) (status : WindowStatus)
    (timeoutSeconds discriminator : UInt16) (ephemeral : Option EphemeralVerifier)
    (ctx : InteractionContext) : Except StatusIb (CommissioningNode N K) := do
  ensure (commissioningTimeoutMinSeconds ≤ timeoutSeconds ∧
    timeoutSeconds ≤ commissioningTimeoutMaxSeconds) (.new .invalidCommand)
  ensure (discriminator ≤ 0x0FFF) (.new .constraintError)
  pure { s with
    window := ⟨some
      { status := status
        expiresAt := ctx.now.saturatingAdd (.fromSecs timeoutSeconds.toUInt64)
        adminFabric := ctx.fabricIndex
        adminVendor := ctx.fabricIndex.bind (a.vendorOfFabric s.fabrics)
        discriminator := discriminator
        ephemeral := ephemeral }⟩ }

/-- Source: `AdministratorCommissioning::open_commissioning_window`. -/
def openCommissioningWindow (a : AdministratorCommissioning N) (s : CommissioningNode N K)
    (request : OpenWindowRequest) (ctx : InteractionContext) :
    Except StatusIb (CommissioningNode N K) := do
  mayOpen s ctx
  ensure (a.isVerifier request.verifier = true) AdminStatus.pakeParameterError.asStatus
  let parameters ← (PbkdfParameters.new request.iterations request.salt).mapError fun _ =>
    AdminStatus.pakeParameterError.asStatus
  a.install s .enhancedOpen request.timeoutSeconds request.discriminator
    (some ⟨Vector.ofFn fun i => request.verifier.getD i 0, parameters.iterations, parameters.salt⟩) ctx

/-- Source: `AdministratorCommissioning::open_basic_commissioning_window`. -/
def openBasicCommissioningWindow (a : AdministratorCommissioning N) (s : CommissioningNode N K)
    (timeoutSeconds discriminator : UInt16) (ctx : InteractionContext) :
    Except StatusIb (CommissioningNode N K) := do
  ensure (a.basicSupported = true) (.new .unsupportedCommand)
  mayOpen s ctx
  a.install s .basicOpen timeoutSeconds discriminator none ctx

/-- Whether the live context is taken for one that a PASE session holds.
Source: `AdministratorCommissioning::revoke_commissioning`, `pase_held`. -/
def paseHeld (s : CommissioningNode N K) (now : Instant) : Bool :=
  (s.failSafe.armedAt now).any fun armed => armed.fabricIndex.isNone

/-- Source: `AdministratorCommissioning::revoke_commissioning`; `Instant::MAX` has every context
expired. -/
def revokeCommissioning (s : CommissioningNode N K) (ctx : InteractionContext) :
    (Revoked × Except StatusIb Unit) × CommissioningNode N K :=
  let wasOpen := (s.window.openAt ctx.now).isSome
  let (cleanup, failSafe) :=
    if paseHeld s ctx.now then s.failSafe.expire ⟨UInt64.ofNat (2 ^ 64 - 1)⟩ else (none, s.failSafe)
  ((⟨true, cleanup, wasOpen⟩,
      if wasOpen then .ok () else .error AdminStatus.windowNotOpen.asStatus),
    { s with window := s.window.close, failSafe := failSafe })

/-- A command that arrives on the wire; of a revocation the status is kept.
Source: `AdministratorCommissioning::invoke`. -/
def invoke (a : AdministratorCommissioning N) (s : CommissioningNode N K) (command : CommandId)
    (fields : Option (List UInt8)) (ctx : InteractionContext) :
    Except StatusIb (Option CommandId) × CommissioningNode N K :=
  let opened : Except StatusIb (CommissioningNode N K) →
      Except StatusIb (Option CommandId) × CommissioningNode N K
    | .ok s' => (.ok none, s')
    | .error status => (.error status, s)
  if command = openCommissioningWindowCommand then
    opened do
      let request ← decodeOpenWindow fields
      a.openCommissioningWindow s request ctx
  else if command = openBasicCommissioningWindowCommand then
    opened do
      let timeout ← decodeBasicWindow fields
      let discriminator := (s.window.openAt ctx.now).elim 0 OpenWindow.discriminator
      a.openBasicCommissioningWindow s timeout discriminator ctx
  else if command = revokeCommissioningCommand then
    let ((_, status), s) := revokeCommissioning s ctx
    (status.map fun _ => none, s)
  else (.error (.new .unsupportedCommand), s)

end commands

end AdministratorCommissioning

/-! ## Commissioning attempts -/

/-- A node, and whether the fail-safe context was armed over a PASE session, which is a session without a
fabric. -/
structure Attempt (N : ℕ) (K : Type) where
  node : CommissioningNode N K
  overPase : Bool := false

/-- A command of this cluster, or of the two that a context is armed, used and completed with, or the
device looking at its timer. -/
inductive AttemptOp
  | administrator (command : CommandId) (fields : Option (List UInt8)) (ctx : InteractionContext)
  | context (op : ContextOp)

namespace Attempt

variable {N : ℕ} {K : Type}

section system

variable (a : AdministratorCommissioning N) (c : CredentialCrypto K) (store : KeyStore K)

/-- Whether the context that runs after a step was armed over PASE: a context begins with an `ArmFailSafe`
that finds none. -/
def overPaseAfter (d : Attempt N K) : ContextOp → Bool
  | .armFailSafe _ _ ctx =>
    if (d.node.failSafe.expire ctx.now).2.armed.isNone then ctx.fabricIndex.isNone else d.overPase
  | _ => d.overPase

/-- One step. -/
def step (d : Attempt N K) : AttemptOp → Attempt N K
  | .administrator command fields ctx => { d with node := (a.invoke d.node command fields ctx).2 }
  | .context op =>
    { node := (ContextHistory.step c store { node := d.node } op).node
      overPase := d.overPaseAfter op }

/-- The node after a revocation that arrives as a command. -/
def revoked (s : CommissioningNode N K) (fields : Option (List UInt8)) (ctx : InteractionContext) :
    CommissioningNode N K :=
  (a.invoke s AdministratorCommissioning.revokeCommissioningCommand fields ctx).2

end system

/-- The cleanup of a context that a PASE session has armed and that nothing has ended. -/
def owed (d : Attempt N K) : Option Cleanup :=
  if d.overPase then
    d.node.failSafe.armed.map fun armed => armed.progress.cleanup armed.fabricIndex
  else none

/-- The device can still be told of a cleanup, by the fail-safe or by the cluster. -/
def Obtainable (s : CommissioningNode N K) (cleanup : Cleanup) : Prop :=
  ∃ later : InteractionContext, (s.failSafe.expire later.now).1 = some cleanup ∨
    (AdministratorCommissioning.revokeCommissioning s later).1.1.failSafeCleanup = some cleanup

/-- A revocation has had all its effects: the window is closed and not advertised, no context that a
PASE session armed is live, the device can learn what to clean up and that PASE sessions close, and a
second revocation changes nothing. -/
structure TookEffect (a : AdministratorCommissioning N) (d : Attempt N K) (ctx : InteractionContext)
    (after : CommissioningNode N K) : Prop where
  windowClosed : after.window.installed = none
  notArmed : d.overPase = true → after.failSafe.armedAt ctx.now = none
  obtainable : ∀ cleanup, d.owed = some cleanup → Obtainable after cleanup
  closesSessions : ∀ later,
    (AdministratorCommissioning.revokeCommissioning after later).1.1.closePaseSessions = true
  idempotent : ∀ fields later, ctx.now ≤ later.now → revoked a after fields later = after

/-! ## What a revocation does -/

section revocation

open AdministratorCommissioning

variable {a : AdministratorCommissioning N} {s : CommissioningNode N K} {ctx : InteractionContext}
  {armed : Armed}

lemma revoked_eq (a : AdministratorCommissioning N) (s : CommissioningNode N K)
    (fields : Option (List UInt8)) (ctx : InteractionContext) :
    revoked a s fields ctx = (revokeCommissioning s ctx).2 := rfl

lemma paseHeld_iff {now : Instant} : paseHeld s now = true ↔
    ∃ armed, s.failSafe.armedAt now = some armed ∧ armed.fabricIndex = none := by
  unfold paseHeld
  cases s.failSafe.armedAt now with
  | none => simp
  | some armed => simp

/-- Without a context that is taken for a PASE session's, the fail-safe stays as it is. -/
lemma revoke_of_not_held (h : paseHeld s ctx.now = false) :
    (revokeCommissioning s ctx).2 = { s with window := s.window.close } := by
  simp [revokeCommissioning, h]

/-- A context that is taken for one is ended. -/
lemma armed_revoke_of_held (h : paseHeld s ctx.now = true) :
    (revokeCommissioning s ctx).2.failSafe.armed = none := by
  obtain ⟨armed, hlive, -⟩ := paseHeld_iff.mp h
  have hmax : armed.hasExpired ⟨UInt64.ofNat (2 ^ 64 - 1)⟩ = true := by
    rw [Armed.hasExpired, Bool.or_eq_true, decide_eq_true_eq]
    exact .inl (Instant.le_def.mpr (Nat.le_of_lt_succ armed.expiresAt.micros.toNat_lt))
  rw [revokeCommissioning, if_pos h,
    FailSafe.expire_of_lapsed (FailSafe.armedAt_eq_some_iff.mp hlive).1 hmax]

/-- Where nothing is armed, there is nothing the device could be told. -/
lemma not_obtainable_of_none (h : s.failSafe.armed = none) (cleanup : Cleanup) :
    ¬ Obtainable s cleanup := by
  rintro ⟨later, hexpire | hrevoke⟩
  · rw [FailSafe.expire_of_none h] at hexpire
    cases hexpire
  · have hheld : paseHeld s later.now = false := by
      rw [paseHeld, FailSafe.armedAt_of_none h]
      rfl
    simp [revokeCommissioning, hheld] at hrevoke

/-- A second revocation changes nothing if what is armed is not taken for a PASE session's. -/
lemma revoked_revoked (hheld : paseHeld s ctx.now = false) (fields : Option (List UInt8)) :
    revoked a { s with window := s.window.close } fields ctx = { s with window := s.window.close } := by
  rw [revoked_eq, revoke_of_not_held (by exact hheld)]
  rfl

/-- What has no live context of a PASE session now has none later. -/
lemma paseHeld_later {later : InteractionContext} (h : paseHeld s ctx.now = false)
    (hlater : ctx.now ≤ later.now) : paseHeld s later.now = false := by
  rw [Bool.eq_false_iff] at h ⊢
  intro hheld
  obtain ⟨armed, hlive, hfabric⟩ := paseHeld_iff.mp hheld
  obtain ⟨harmed, hlive⟩ := FailSafe.armedAt_eq_some_iff.mp hlive
  refine h (paseHeld_iff.mpr ⟨armed, FailSafe.armedAt_eq_some_iff.mpr ⟨harmed, ?_⟩, hfabric⟩)
  rw [Armed.hasExpired, Bool.or_eq_false_iff, decide_eq_false_iff_not, decide_eq_false_iff_not] at hlive ⊢
  exact ⟨fun h => hlive.1 (h.trans hlater), fun h => hlive.2 (h.trans hlater)⟩

/-! ## Runs -/

/-- A context without a fabric was armed over PASE. -/
def Marked (d : Attempt N K) : Prop :=
  ∀ armed, d.node.failSafe.armed = some armed → armed.fabricIndex = none → d.overPase = true

variable {d : Attempt N K} {c : CredentialCrypto K} {store : KeyStore K}

/-- A revocation takes effect exactly when it finds no live context that was armed over PASE. -/
lemma tookEffect_iff (hd : d.Marked) (fields : Option (List UInt8)) :
    d.TookEffect a ctx (revoked a d.node fields ctx) ↔
      ¬ (d.overPase = true ∧ (d.node.failSafe.armedAt ctx.now).isSome = true) := by
  constructor
  · rintro heffect ⟨hpase, hsome⟩
    obtain ⟨armed, hlive⟩ := Option.isSome_iff_exists.mp hsome
    have harmed := (FailSafe.armedAt_eq_some_iff.mp hlive).1
    cases hfabric : armed.fabricIndex with
    | none =>
      -- The context is ended, and its cleanup is gone with it.
      have howed : d.owed = some (armed.progress.cleanup armed.fabricIndex) := by
        simp [owed, hpase, harmed]
      exact not_obtainable_of_none (armed_revoke_of_held (paseHeld_iff.mpr ⟨armed, hlive, hfabric⟩)) _
        (heffect.obtainable _ howed)
    | some fabric =>
      -- The context has a fabric by now, and goes on.
      have hheld : paseHeld d.node ctx.now = false := by simp [paseHeld, hlive, hfabric]
      have hafter := heffect.notArmed hpase
      rw [revoked_eq, revoke_of_not_held hheld] at hafter
      cases hlive.symm.trans hafter
  · intro hnot
    have hheld : paseHeld d.node ctx.now = false := by
      rw [Bool.eq_false_iff]
      intro hheld
      obtain ⟨armed, hlive, hfabric⟩ := paseHeld_iff.mp hheld
      exact hnot ⟨hd armed (FailSafe.armedAt_eq_some_iff.mp hlive).1 hfabric, by rw [hlive]; rfl⟩
    rw [revoked_eq, revoke_of_not_held hheld]
    refine ⟨rfl, fun hpase => ?_, fun cleanup howed => ?_, fun _ => rfl, fun fields later hlater => ?_⟩
    · exact Option.not_isSome_iff_eq_none.mp fun hsome => hnot ⟨hpase, hsome⟩
    · -- What is owed is the cleanup of a context that has lapsed unobserved.
      unfold owed at howed
      split_ifs at howed with hpase
      obtain ⟨armed, harmed, rfl⟩ := Option.map_eq_some_iff.mp howed
      have hexpired : armed.hasExpired ctx.now = true := by
        by_contra hlive
        exact hnot ⟨hpase, Option.isSome_iff_exists.mpr ⟨armed,
          FailSafe.armedAt_eq_some_iff.mpr ⟨harmed, Bool.eq_false_iff.mpr hlive⟩⟩⟩
      exact ⟨ctx, .inl (by rw [FailSafe.expire_of_lapsed harmed hexpired])⟩
    · exact revoked_revoked (paseHeld_later hheld hlater) fields

variable {discriminator timeoutSeconds : UInt16} {after node : CommissioningNode N K}

lemma failSafe_install {status : WindowStatus} {ephemeral : Option EphemeralVerifier}
    (h : a.install s status timeoutSeconds discriminator ephemeral ctx = .ok after) :
    after.failSafe = s.failSafe := by
  obtain ⟨_, _, h⟩ := bind_eq_ok.mp h
  obtain ⟨_, _, hdone⟩ := bind_eq_ok.mp h
  cases hdone
  rfl

lemma failSafe_openCommissioningWindow {request : OpenWindowRequest}
    (h : a.openCommissioningWindow s request ctx = .ok after) : after.failSafe = s.failSafe := by
  obtain ⟨_, _, h⟩ := bind_eq_ok.mp h
  obtain ⟨_, _, h⟩ := bind_eq_ok.mp h
  obtain ⟨parameters, _, h⟩ := bind_eq_ok.mp h
  exact failSafe_install h

lemma failSafe_openBasicCommissioningWindow
    (h : a.openBasicCommissioningWindow s timeoutSeconds discriminator ctx = .ok after) :
    after.failSafe = s.failSafe := by
  obtain ⟨_, _, h⟩ := bind_eq_ok.mp h
  obtain ⟨_, _, h⟩ := bind_eq_ok.mp h
  exact failSafe_install h

/-- No command of this cluster arms a context. -/
lemma armed_invoke (command : CommandId) (fields : Option (List UInt8)) :
    (a.invoke s command fields ctx).2.failSafe = s.failSafe ∨
      (a.invoke s command fields ctx).2.failSafe.armed = none := by
  unfold invoke
  dsimp only
  split_ifs
  · split
    · rename_i hopened
      obtain ⟨request, _, hopened⟩ := bind_eq_ok.mp hopened
      exact .inl (failSafe_openCommissioningWindow hopened)
    · exact .inl rfl
  · split
    · rename_i hopened
      obtain ⟨timeout, _, hopened⟩ := bind_eq_ok.mp hopened
      exact .inl (failSafe_openBasicCommissioningWindow hopened)
    · exact .inl rfl
  · cases hheld : paseHeld s ctx.now with
    | true => exact .inr (armed_revoke_of_held hheld)
    | false => exact .inl (by rw [revoke_of_not_held hheld])
  · exact .inl rfl

/-- A command of Operational Credentials takes the fabric of no context away. -/
lemma fabricIndex_credential {command : OperationalCredentials.CredentialCommand}
    (heffect : OperationalCredentials.Effect c store ctx s command after)
    (harmed : after.failSafe.armed = some armed) (hfabric : armed.fabricIndex = none) :
    ∃ earlier, s.failSafe.armed = some earlier ∧ earlier.fabricIndex = none := by
  have hrecorded : ∀ {live : Armed} {p : Progress}, s.failSafe.armedAt ctx.now = some live →
      some { live with progress := p } = some armed →
        ∃ earlier, s.failSafe.armed = some earlier ∧ earlier.fabricIndex = none := by
    intro live p hlive hsame
    obtain rfl := Option.some.inj hsame
    exact ⟨live, (FailSafe.armedAt_eq_some_iff.mp hlive).1, hfabric⟩
  cases heffect with
  | nothing => exact ⟨armed, harmed, hfabric⟩
  | keyed random hlive hadded hupdated =>
    simp only [OperationalCredentials.keyed, OperationalCredentials.dropPendingKey_failSafe] at harmed
    exact ⟨armed, harmed, hfabric⟩
  | awaiting random key publicKey hlive hadded hupdated hgenerated => exact hrecorded hlive harmed
  | rooted hlive => exact hrecorded hlive harmed
  | allocated hkept => exact ⟨armed, harmed, hfabric⟩
  | joined hawaited hkey hunused happended =>
    obtain rfl := Option.some.inj harmed
    cases hfabric
  | rotated hcheck hawaited => exact hrecorded hawaited.live harmed
  | relabelled hkept | stated hkept | removed hremoved => exact ⟨armed, harmed, hfabric⟩

lemma Marked.of_armed (hd : d.Marked)
    (h : ∀ armed, node.failSafe.armed = some armed → armed.fabricIndex = none →
      ∃ earlier, d.node.failSafe.armed = some earlier ∧ earlier.fabricIndex = none) :
    Marked { d with node := node } := by
  intro armed harmed hfabric
  obtain ⟨earlier, hearlier, hnone⟩ := h armed harmed hfabric
  exact hd earlier hearlier hnone

/-- What a look at the timer, or an answer, reports does not change where the node is. -/
lemma node_turn (h : ContextHistory N K) (cleanup : Option Cleanup) (node : CommissioningNode N K) :
    (h.turn cleanup node).node = node := by
  cases cleanup with
  | none => rfl
  | some cleanup => rfl

/-- An `ArmFailSafe` that finds no context begins one with the fabric of its session, and one that finds a
context leaves the fabric of it. -/
lemma Marked.arm (hd : d.Marked) (seconds : UInt16) (breadcrumb : UInt64) :
    (d.step a c store (.context (.armFailSafe seconds breadcrumb ctx))).Marked := by
  unfold Marked
  rw [step]
  dsimp only [overPaseAfter]
  rw [ContextHistory.step, GeneralCommissioning.armFailSafe]
  dsimp only
  rw [node_turn, FailSafe.arm_eq]
  obtain hnone | ⟨live, hlive, hexpire⟩ := FailSafe.expire_cases d.node.failSafe ctx.now
  · rw [hnone, if_pos (by rfl)]
    intro armed harmed hfabric
    obtain hcase | hcase | ⟨expiresAt, hcase⟩ := FailSafe.armLive_cases_of_none hnone
    · rw [hcase, hnone] at harmed
      cases harmed
    · rw [hcase, hnone] at harmed
      cases harmed
    · rw [hcase] at harmed
      obtain rfl := Option.some.inj harmed
      exact Option.isNone_iff_eq_none.mpr hfabric
  · have harmed := (FailSafe.armedAt_eq_some_iff.mp hlive).1
    rw [hexpire, harmed, if_neg (by simp)]
    intro armed' harmed' hfabric
    by_cases hsame : live.fabricIndex = ctx.fabricIndex
    · obtain hcase | ⟨expiresAt, hcase⟩ := FailSafe.armLive_cases_of_same hlive hsame
      · rw [hcase] at harmed'
        cases harmed'
      · rw [hcase] at harmed'
        obtain rfl := Option.some.inj harmed'
        exact hd live harmed hfabric
    · rw [FailSafe.armLive_of_other hlive hsame] at harmed'
      exact hd armed' harmed' hfabric

lemma armed_expire (fs : FailSafe) (now : Instant) :
    (fs.expire now).2.armed = none ∨ (fs.expire now).2 = fs := by
  obtain hnone | ⟨live, -, hexpire⟩ := FailSafe.expire_cases fs now
  · exact .inl hnone
  · exact .inr (by rw [hexpire])

/-- A completion ends a context or leaves it. -/
lemma armed_complete (fs : FailSafe) (overCase : Bool) (fabric : Option FabricIndex) (now : Instant) :
    (fs.complete overCase fabric now).2.armed = none ∨ (fs.complete overCase fabric now).2 = fs := by
  rw [FailSafe.complete_eq]
  obtain hnone | ⟨live, hlive, hexpire⟩ := FailSafe.expire_cases fs now
  · rw [FailSafe.completeLive_of_none hnone]
    exact .inl hnone
  · rw [hexpire, FailSafe.completeLive_of_live hlive]
    split_ifs
    · exact .inl rfl
    · exact .inr rfl

/-- A step that ends the context or leaves the fail-safe as it is. -/
lemma Marked.of_ended (hd : d.Marked) (h : node.failSafe.armed = none ∨ node.failSafe = d.node.failSafe) :
    Marked { d with node := node } := by
  apply hd.of_armed
  intro armed harmed hfabric
  obtain hnone | hsame := h
  · cases hnone.symm.trans harmed
  · exact ⟨armed, hsame ▸ harmed, hfabric⟩

/-- After every step a context without a fabric is one armed over PASE. -/
lemma Marked.step (hd : d.Marked) (op : AttemptOp) : (d.step a c store op).Marked := by
  cases op with
  | administrator command fields ctx =>
    exact hd.of_ended (armed_invoke command fields).symm
  | context op =>
    cases op with
    | armFailSafe seconds breadcrumb ctx => exact hd.arm seconds breadcrumb
    | credential command ctx random =>
      apply hd.of_armed
      intro armed harmed hfabric
      have heffect := OperationalCredentials.perform_effect c store command ctx random
        (OperationalCredentials.reap store ctx.now d.node)
      obtain ⟨earlier, hearlier, hnone⟩ := fabricIndex_credential heffect harmed hfabric
      rw [OperationalCredentials.reap_failSafe] at hearlier
      exact ⟨earlier, hearlier, hnone⟩
    | commissioningComplete ctx =>
      apply hd.of_ended
      have hnode : (ContextHistory.step c store { node := d.node } (.commissioningComplete ctx)).node =
          (GeneralCommissioning.commissioningComplete d.node ctx).2 := by
        rw [ContextHistory.step]
        dsimp only
        split_ifs
        · rfl
        · exact node_turn _ _ _
      have hfailSafe : (GeneralCommissioning.commissioningComplete d.node ctx).2.failSafe =
          (d.node.failSafe.complete ctx.fabricIndex.isSome ctx.fabricIndex ctx.now).2 := by
        unfold GeneralCommissioning.commissioningComplete
        dsimp only
        split_ifs
        · rfl
        · rfl
      rw [hnode, hfailSafe]
      exact armed_complete _ _ _ _
    | expire now =>
      apply hd.of_ended
      rw [ContextHistory.step]
      dsimp only
      rw [node_turn]
      exact armed_expire _ _

lemma marked_run (a : AdministratorCommissioning N) (c : CredentialCrypto K) (store : KeyStore K)
    (hnone : node.failSafe.armed = none) (ops : List AttemptOp) :
    Marked (ops.foldl (Attempt.step a c store) { node := node }) :=
  foldl_invariant (W := fun _ => True) (fun _ op _ hd => hd.step op) (fun _ _ => trivial)
    fun armed harmed => absurd (hnone.symm.trans harmed) (by simp)

/-- After every run from a node with nothing armed, a revocation that arrives as a command has all its
effects exactly when it finds no live context that was armed over PASE. -/
theorem revocation_takes_effect_iff (a : AdministratorCommissioning N) (c : CredentialCrypto K)
    (store : KeyStore K) (node : CommissioningNode N K) (hnone : node.failSafe.armed = none)
    (ops : List AttemptOp) (fields : Option (List UInt8)) (ctx : InteractionContext) :
    let d := ops.foldl (Attempt.step a c store) { node := node }
    d.TookEffect a ctx (revoked a d.node fields ctx) ↔
      ¬ (d.overPase = true ∧ (d.node.failSafe.armedAt ctx.now).isSome = true) :=
  tookEffect_iff (marked_run a c store hnone ops) fields

end revocation

/-! ## Attempts that are revoked -/

section samples

open Sample

/-- A cluster that opens windows with the device's own verifier. -/
def basic : AdministratorCommissioning 5 := ⟨true, fun _ _ => none, fun _ => true⟩

/-- The first fabric opens a window of three minutes, one second after the start. -/
def opening : AttemptOp :=
  .administrator AdministratorCommissioning.openBasicCommissioningWindowCommand
    (some [0x35, 1, 0x24, 0, 180, 0x18]) (on 2 (some ⟨1⟩) 1)

/-- A commissioner arms the fail-safe over PASE for a minute. -/
def arming : AttemptOp := .context (.armFailSafe 60 0 (on 7 none 1))

/-- An attempt up to the acceptance of `AddNOC`. -/
def joined : List AttemptOp :=
  [opening, arming] ++ joining.map fun op => .context (.credential op.command op.ctx op.random)

/-- A node after an attempt. -/
def reached (ops : List AttemptOp) : Attempt 5 Keys :=
  ops.foldl (step basic crypto keyStore) { node := onTwoFabrics }

/-- The attempt has lapsed when it is revoked: the answer is that no window is open, and what is to be
cleaned up is still with the fail-safe. -/
theorem lapsed_attempt_is_revoked : (reached [opening, arming]).TookEffect basic (on 2 (some ⟨1⟩) 200)
      (revoked basic (reached [opening, arming]).node none (on 2 (some ⟨1⟩) 200)) :=
  (revocation_takes_effect_iff basic crypto keyStore onTwoFabrics rfl [opening, arming] none
    (on 2 (some ⟨1⟩) 200)).mpr (by decide +kernel)

/-- Of a context that has just been armed over PASE the cleanup is lost, and one in which `AddNOC` has been
accepted is not even ended. -/
theorem running_attempt_is_not_revoked :
    ((reached [opening, arming]).node.window.openAt ⟨5000000⟩).isSome = true ∧
      ¬ (reached [opening, arming]).TookEffect basic (on 2 (some ⟨1⟩) 5)
        (revoked basic (reached [opening, arming]).node none (on 2 (some ⟨1⟩) 5)) ∧
      (reached joined).node.fabrics.len = 3 ∧
      ((revoked basic (reached joined).node none (on 2 (some ⟨1⟩) 5)).failSafe.armedAt
        ⟨5000000⟩).isSome = true ∧ ¬ (reached joined).TookEffect basic (on 2 (some ⟨1⟩) 5)
        (revoked basic (reached joined).node none (on 2 (some ⟨1⟩) 5)) := by
  have hlive : ∀ ops, (reached ops).overPase = true ∧
      ((reached ops).node.failSafe.armedAt ⟨5000000⟩).isSome = true →
      ¬ (reached ops).TookEffect basic (on 2 (some ⟨1⟩) 5)
        (revoked basic (reached ops).node none (on 2 (some ⟨1⟩) 5)) := by
    intro ops hlive heffect
    exact (tookEffect_iff (marked_run basic crypto keyStore rfl ops) none).mp heffect hlive
  exact ⟨by decide +kernel, hlive _ (by decide +kernel), by decide +kernel, by decide +kernel,
    hlive _ (by decide +kernel)⟩

end samples

end Attempt

end MatterKit.Clusters
