import MatterKit.Lib.Runs
import MatterKit.Msg.Header

/-!
# The fail-safe

`commissioning/failsafe.rs`: a commissioning attempt runs inside a fail-safe context, a transaction with
two timers. Each method takes the current instant, and a context whose time has passed is noticed by the
first of `arm`, `complete` and `expire` that is called afterwards.

What a context is for is stated from outside, by a `History` that reads only the calls and their
answers. `context_bounded_and_ends_once` says that along every run the machine agrees with its history:
contexts end one after the other, each exactly once, with the cleanup of what was recorded, and none
outlives the cumulative timer it was started with.
-/

namespace MatterKit.Commissioning

/-- Source: `CommissioningError`. -/
inductive CommissioningError
  | ok
  | valueOutsideRange
  | invalidAuthentication
  | noFailSafe
  | busyWithOtherAdmin
  | requiredTcNotAccepted
  | tcAcknowledgementsNotReceived
  | tcMinVersionNotMet
  deriving DecidableEq

/-- Source: `BasicCommissioningInfo` with `DEFAULT_EXPIRY_SECONDS` and
`DEFAULT_MAX_CUMULATIVE_SECONDS`. -/
structure BasicCommissioningInfo where
  expiryLengthSeconds : UInt16 := 900
  maxCumulativeSeconds : UInt16 := 900

/-- What has happened inside the current fail-safe period.
Source: `Progress`. -/
structure Progress where
  addedNoc : Bool := false
  updatedNoc : Bool := false
  csrRequested : Bool := false
  addedTrustedRoot : Bool := false
  changedNetworks : Bool := false

/-- Whether the operational key of a `CSRRequest` was used by no NOC command.
Source: `Progress::orphaned_operational_key`. -/
def Progress.orphanedOperationalKey (p : Progress) : Bool :=
  p.csrRequested && !p.addedNoc && !p.updatedNoc

/-- What is left to do after a context ended without completion.
Source: `Cleanup`. -/
structure Cleanup where
  closePaseSessions : Bool
  closeCaseSessionsFor : Option FabricIndex
  restoreNetworks : Bool
  revertNocFor : Option FabricIndex
  removeFabric : Option FabricIndex
  discardOperationalKey : Bool
  pruneTrustedRoots : Bool
  deriving DecidableEq

/-- The cleanup a context with a fabric and a progress is owed.
Source: the value built by `FailSafe::expire_now`. -/
def Progress.cleanup (p : Progress) (fabricIndex : Option FabricIndex) : Cleanup :=
  { closePaseSessions := true
    closeCaseSessionsFor := if p.addedNoc || p.updatedNoc then fabricIndex else none
    restoreNetworks := p.changedNetworks
    revertNocFor := if p.updatedNoc then fabricIndex else none
    removeFabric := if p.addedNoc then fabricIndex else none
    discardOperationalKey := p.orphanedOperationalKey
    pruneTrustedRoots := p.addedTrustedRoot }

/-- The flags of a cleanup are those of what was recorded for a fabric: PASE sessions are closed in any case; the
fabric's CASE sessions are if one of the two NOC commands was run, its credentials are reverted if `UpdateNOC`
was, and it is removed if `AddNOC` was; the rest follows the record, a key being discarded if neither used it. -/
structure Cleanup.Undoes (c : Cleanup) (p : Progress) (fabric : Option FabricIndex) : Prop where
  closePaseSessions : c.closePaseSessions = true
  closeCaseSessionsFor : ∀ f, c.closeCaseSessionsFor = some f ↔
    fabric = some f ∧ (p.addedNoc = true ∨ p.updatedNoc = true)
  restoreNetworks : c.restoreNetworks = true ↔ p.changedNetworks = true
  revertNocFor : ∀ f, c.revertNocFor = some f ↔ fabric = some f ∧ p.updatedNoc = true
  removeFabric : ∀ f, c.removeFabric = some f ↔ fabric = some f ∧ p.addedNoc = true
  discardOperationalKey : c.discardOperationalKey = true ↔
    p.csrRequested = true ∧ p.addedNoc = false ∧ p.updatedNoc = false
  pruneTrustedRoots : c.pruneTrustedRoots = true ↔ p.addedTrustedRoot = true

/-- The cleanup of a context undoes what was recorded in it. -/
lemma Progress.undoes_cleanup (p : Progress) (fabric : Option FabricIndex) :
    (p.cleanup fabric).Undoes p fabric := by
  constructor
  case discardOperationalKey => simp [cleanup, orphanedOperationalKey, and_assoc]
  all_goals simp [cleanup, and_comm]

/-- The armed fail-safe context.
Source: `Armed`. -/
structure Armed where
  expiresAt : Instant
  cumulativeExpiresAt : Instant
  fabricIndex : Option FabricIndex
  progress : Progress := {}

/-- Source: `FailSafe::has_expired`. -/
def Armed.hasExpired (armed : Armed) (now : Instant) : Bool :=
  decide (armed.expiresAt ≤ now) || decide (armed.cumulativeExpiresAt ≤ now)

/-- Source: `FailSafe`. -/
structure FailSafe where
  info : BasicCommissioningInfo
  armed : Option Armed := none
  breadcrumb : UInt64 := 0

/-- Source: `ArmOutcome`. -/
inductive ArmOutcome
  | armed
  | noChange
  | disarmed
  | refused (error : CommissioningError)
  deriving DecidableEq

/-- Source: `ArmOutcome::error_code`. -/
def ArmOutcome.errorCode : ArmOutcome → CommissioningError
  | .armed | .noChange | .disarmed => .ok
  | .refused error => error

/-- Source: `ArmResult`. -/
structure ArmResult where
  outcome : ArmOutcome
  cleanup : Option Cleanup

/-- Source: `CompleteResult`. -/
structure CompleteResult where
  error : CommissioningError
  cleanup : Option Cleanup

namespace FailSafe

/-- Source: `FailSafe::new`. -/
def new (info : BasicCommissioningInfo) : FailSafe := { info := info }

/-- The armed context, if one is live as of `now`.
Source: `FailSafe::armed`. -/
def armedAt (fs : FailSafe) (now : Instant) : Option Armed :=
  fs.armed.filter fun armed => !armed.hasExpired now

/-- Source: `FailSafe::is_armed`. -/
def isArmed (fs : FailSafe) (now : Instant) : Bool :=
  fs.armed.any fun armed => !armed.hasExpired now

/-- The expiry instant, clamped to the cumulative timer.
Source: `FailSafe::deadline`. -/
def deadline (now : Instant) (seconds : UInt16) (cumulative : Instant) : Instant :=
  let requested := now.saturatingAdd (.fromSecs seconds.toUInt64)
  if requested > cumulative then cumulative else requested

/-- Expires a context, whatever the time.
Source: `FailSafe::expire_now`. -/
def expireNow (fs : FailSafe) (armed : Armed) : Cleanup × FailSafe :=
  (armed.progress.cleanup armed.fabricIndex, { fs with armed := none, breadcrumb := 0 })

/-- Source: `FailSafe::expire`. -/
def expire (fs : FailSafe) (now : Instant) : Option Cleanup × FailSafe :=
  match fs.armed with
  | none => (none, fs)
  | some armed =>
    if armed.hasExpired now then
      let (cleanup, fs) := fs.expireNow armed
      (some cleanup, fs)
    else (none, fs)

/-- `arm` once a context that lapsed unobserved has been expired.
Source: `FailSafe::arm`, after `self.expire(now)`. -/
def armLive (fs : FailSafe) (seconds : UInt16) (breadcrumb : UInt64)
    (accessingFabric : Option FabricIndex) (now : Instant) (windowOpenOverCase : Bool)
    (lapsed : Option Cleanup) : ArmResult × FailSafe :=
  match fs.armedAt now with
  | none =>
    if windowOpenOverCase then (⟨.refused .busyWithOtherAdmin, lapsed⟩, fs)
    else if seconds = 0 then (⟨.noChange, lapsed⟩, { fs with breadcrumb := breadcrumb })
    else
      let cumulative := now.saturatingAdd (.fromSecs fs.info.maxCumulativeSeconds.toUInt64)
      let armed : Armed :=
        { expiresAt := deadline now seconds cumulative
          cumulativeExpiresAt := cumulative
          fabricIndex := accessingFabric }
      (⟨.armed, lapsed⟩, { fs with armed := some armed, breadcrumb := breadcrumb })
  | some armed =>
    if armed.fabricIndex = accessingFabric then
      if seconds = 0 then
        let (cleanup, fs) := fs.expireNow armed
        (⟨.disarmed, lapsed.or (some cleanup)⟩, fs)
      else
        -- The cumulative timer is not touched.
        let expiresAt := deadline now seconds armed.cumulativeExpiresAt
        (⟨.armed, lapsed⟩,
          { fs with armed := some { armed with expiresAt := expiresAt }, breadcrumb := breadcrumb })
    else (⟨.refused .busyWithOtherAdmin, lapsed⟩, fs)

/-- Source: `FailSafe::arm`. -/
def arm (fs : FailSafe) (seconds : UInt16) (breadcrumb : UInt64)
    (accessingFabric : Option FabricIndex) (now : Instant) (windowOpenOverCase : Bool) :
    ArmResult × FailSafe :=
  let (lapsed, fs) := fs.expire now
  fs.armLive seconds breadcrumb accessingFabric now windowOpenOverCase lapsed

/-- Changes the live context, or fails if there is none.
Source: the `let .. else` of `FailSafe::record` and `FailSafe::adopt_fabric`. -/
def updateLive (fs : FailSafe) (now : Instant) (f : Armed → Armed) :
    Except ErrorCode Unit × FailSafe :=
  match fs.armedAt now with
  | none => (.error .invalidState, fs)
  | some armed => (.ok (), { fs with armed := some (f armed) })

/-- Source: `FailSafe::record`. -/
def record (fs : FailSafe) (now : Instant) (f : Progress → Progress) :
    Except ErrorCode Unit × FailSafe :=
  fs.updateLive now fun armed => { armed with progress := f armed.progress }

/-- Source: `FailSafe::adopt_fabric`. -/
def adoptFabric (fs : FailSafe) (fabric : FabricIndex) (now : Instant) :
    Except ErrorCode Unit × FailSafe :=
  fs.updateLive now fun armed => { armed with fabricIndex := some fabric }

/-- `complete` once a context that lapsed unobserved has been expired.
Source: `FailSafe::complete`, after `self.expire(now)`. -/
def completeLive (fs : FailSafe) (overCase : Bool) (accessingFabric : Option FabricIndex)
    (now : Instant) (lapsed : Option Cleanup) : CompleteResult × FailSafe :=
  match fs.armedAt now with
  | none => (⟨.noFailSafe, lapsed⟩, fs)
  | some armed =>
    if !overCase then (⟨.invalidAuthentication, lapsed⟩, fs)
    else if accessingFabric = none ∨ accessingFabric ≠ armed.fabricIndex then
      (⟨.invalidAuthentication, lapsed⟩, fs)
    else (⟨.ok, lapsed⟩, { fs with armed := none, breadcrumb := 0 })

/-- Source: `FailSafe::complete`. -/
def complete (fs : FailSafe) (overCase : Bool) (accessingFabric : Option FabricIndex)
    (now : Instant) : CompleteResult × FailSafe :=
  let (lapsed, fs) := fs.expire now
  fs.completeLive overCase accessingFabric now lapsed

/-! ## What a call sees -/

variable {fs : FailSafe} {armed : Armed} {now : Instant}

lemma armedAt_eq_some_iff :
    fs.armedAt now = some armed ↔ fs.armed = some armed ∧ armed.hasExpired now = false := by
  simp [armedAt, Option.filter_eq_some_iff]

lemma armedAt_of_none (h : fs.armed = none) : fs.armedAt now = none := by
  simp [armedAt, h]

lemma isArmed_iff : fs.isArmed now = true ↔ ∃ armed, fs.armedAt now = some armed := by
  cases h : fs.armed with
  | none => simp [isArmed, armedAt, h]
  | some armed =>
    cases hexpired : armed.hasExpired now with
    | false => simp [isArmed, armedAt, h, hexpired]
    | true => simp [isArmed, armedAt, h, hexpired]

/-- Nothing has lapsed unobserved. -/
lemma expire_of_live (h : fs.armedAt now = some armed) : fs.expire now = (none, fs) := by
  obtain ⟨harmed, hlive⟩ := armedAt_eq_some_iff.mp h
  simp [expire, harmed, hlive]

lemma expire_of_none (h : fs.armed = none) : fs.expire now = (none, fs) := by
  simp [expire, h]

lemma expire_of_lapsed (h : fs.armed = some armed) (hexpired : armed.hasExpired now = true) :
    fs.expire now = (some (armed.progress.cleanup armed.fabricIndex),
      { fs with armed := none, breadcrumb := 0 }) := by
  simp [expire, h, hexpired, expireNow]

/-- The three situations a call can find: no context, a live one, or one that lapsed unobserved. -/
lemma cases_at (fs : FailSafe) (now : Instant) : fs.armed = none ∨ (∃ armed, fs.armedAt now = some armed) ∨
      ∃ armed, fs.armed = some armed ∧ armed.hasExpired now = true := by
  cases h : fs.armed with
  | none => exact .inl rfl
  | some armed =>
    cases hexpired : armed.hasExpired now with
    | false => exact .inr (.inl ⟨armed, armedAt_eq_some_iff.mpr ⟨h, hexpired⟩⟩)
    | true => exact .inr (.inr ⟨armed, rfl, hexpired⟩)

/-- After the lapsed context has been expired, either nothing is armed or nothing had lapsed. -/
lemma expire_cases (fs : FailSafe) (now : Instant) : (fs.expire now).2.armed = none ∨
      ∃ armed, fs.armedAt now = some armed ∧ fs.expire now = (none, fs) := by
  obtain harmed | ⟨armed, hlive⟩ | ⟨armed, harmed, hexpired⟩ := cases_at fs now
  · rw [expire_of_none harmed]
    exact .inl harmed
  · exact .inr ⟨armed, hlive, expire_of_live hlive⟩
  · rw [expire_of_lapsed harmed hexpired]
    exact .inl rfl

/-- The live context is changed, and the call succeeds. -/
lemma updateLive_of_live (h : fs.armedAt now = some armed) (f : Armed → Armed) :
    fs.updateLive now f = (.ok (), { fs with armed := some (f armed) }) := by
  rw [updateLive, h]

lemma armedAt_armed (fs : FailSafe) (h : armed.hasExpired now = false) :
    FailSafe.armedAt { fs with armed := some armed } now = some armed :=
  armedAt_eq_some_iff.mpr ⟨rfl, h⟩

section arm

variable {seconds : UInt16} {breadcrumb : UInt64} {fabric : Option FabricIndex} {window : Bool}
  {lapsed : Option Cleanup}

lemma arm_eq (fs : FailSafe) (seconds : UInt16) (breadcrumb : UInt64)
    (fabric : Option FabricIndex) (now : Instant) (window : Bool) :
    fs.arm seconds breadcrumb fabric now window =
      (fs.expire now).2.armLive seconds breadcrumb fabric now window (fs.expire now).1 := rfl

lemma armLive_cases_of_none (h : fs.armed = none) : fs.armLive seconds breadcrumb fabric now window lapsed =
        (⟨.refused .busyWithOtherAdmin, lapsed⟩, fs) ∨
      fs.armLive seconds breadcrumb fabric now window lapsed =
        (⟨.noChange, lapsed⟩, { fs with breadcrumb := breadcrumb }) ∨
      ∃ expiresAt, fs.armLive seconds breadcrumb fabric now window lapsed =
        (⟨.armed, lapsed⟩,
          { fs with
            armed := some
              { expiresAt := expiresAt
                cumulativeExpiresAt :=
                  now.saturatingAdd (.fromSecs fs.info.maxCumulativeSeconds.toUInt64)
                fabricIndex := fabric }
            breadcrumb := breadcrumb }) := by
  rw [armLive, armedAt_of_none h]
  dsimp only
  split_ifs
  · exact .inl rfl
  · exact .inr (.inl rfl)
  · exact .inr (.inr ⟨_, rfl⟩)

lemma cleanup_armLive_of_none (h : fs.armed = none) :
    (fs.armLive seconds breadcrumb fabric now window lapsed).1.cleanup = lapsed := by
  obtain hcase | hcase | ⟨expiresAt, hcase⟩ := armLive_cases_of_none h
  · rw [hcase]
  · rw [hcase]
  · rw [hcase]

lemma armLive_of_other (h : fs.armedAt now = some armed) (hother : armed.fabricIndex ≠ fabric) :
    fs.armLive seconds breadcrumb fabric now window lapsed =
      (⟨.refused .busyWithOtherAdmin, lapsed⟩, fs) := by
  rw [armLive, h]
  exact if_neg hother

lemma armLive_cases_of_same (h : fs.armedAt now = some armed) (hsame : armed.fabricIndex = fabric) :
    fs.armLive seconds breadcrumb fabric now window lapsed =
        (⟨.disarmed, lapsed.or (some (armed.progress.cleanup armed.fabricIndex))⟩,
          { fs with armed := none, breadcrumb := 0 }) ∨
      ∃ expiresAt, fs.armLive seconds breadcrumb fabric now window lapsed =
        (⟨.armed, lapsed⟩,
          { fs with armed := some { armed with expiresAt := expiresAt }
                    breadcrumb := breadcrumb }) := by
  rw [armLive, h]
  dsimp only
  rw [if_pos hsame]
  split_ifs
  · exact .inl rfl
  · exact .inr ⟨_, rfl⟩

end arm

section complete

variable {overCase : Bool} {fabric : Option FabricIndex} {lapsed : Option Cleanup}

lemma complete_eq (fs : FailSafe) (overCase : Bool) (fabric : Option FabricIndex) (now : Instant) :
    fs.complete overCase fabric now =
      (fs.expire now).2.completeLive overCase fabric now (fs.expire now).1 := rfl

lemma completeLive_of_none (h : fs.armed = none) :
    fs.completeLive overCase fabric now lapsed = (⟨.noFailSafe, lapsed⟩, fs) := by
  rw [completeLive, armedAt_of_none h]

/-- A live context is completed by its own fabric over CASE, and by nobody else. -/
lemma completeLive_of_live (h : fs.armedAt now = some armed) : fs.completeLive overCase fabric now lapsed =
      if overCase = true ∧ fabric ≠ none ∧ fabric = armed.fabricIndex then
        (⟨.ok, lapsed⟩, { fs with armed := none, breadcrumb := 0 })
      else (⟨.invalidAuthentication, lapsed⟩, fs) := by
  rw [completeLive, h]
  dsimp only
  cases overCase with
  | false => rfl
  | true =>
    by_cases hfabric : fabric = none ∨ fabric ≠ armed.fabricIndex
    · have hrefused : ¬ (true = true ∧ fabric ≠ none ∧ fabric = armed.fabricIndex) := by tauto
      rw [if_neg hrefused]
      simp [hfabric]
    · have haccepted : true = true ∧ fabric ≠ none ∧ fabric = armed.fabricIndex := by tauto
      rw [if_pos haccepted]
      simp [hfabric]

end complete

end FailSafe

/-! ## Contexts, as the device sees them -/

/-- A fail-safe context: its place in the run, when it was armed, and what has been recorded in it. -/
structure Context where
  number : ℕ
  since : Instant
  fabricIndex : Option FabricIndex
  progress : Progress := {}

/-- How a context ends. -/
inductive Ending
  | completed
  | rolledBack (cleanup : Cleanup)
  deriving DecidableEq

/-- What the answers of a run say about its contexts. An ending that is reported while no context
runs is `unowed`. -/
structure History where
  begun : ℕ := 0
  current : Option Context := none
  ended : List (Context × Ending) := []
  unowed : List Ending := []

namespace History

/-- The end of the running context is reported. -/
def finish (h : History) (ending : Ending) : History :=
  match h.current with
  | none => { h with unowed := h.unowed ++ [ending] }
  | some ctx => { h with current := none, ended := h.ended ++ [(ctx, ending)] }

/-- A cleanup is reported, if there is one. -/
def finishWith (h : History) : Option Cleanup → History
  | none => h
  | some cleanup => h.finish (.rolledBack cleanup)

/-- A context begins, unless this is a call that re-arms the running one. -/
def begin (h : History) (now : Instant) (fabric : Option FabricIndex) : History :=
  match h.current with
  | none =>
    { h with begun := h.begun + 1
             current := some { number := h.begun, since := now, fabricIndex := fabric } }
  | some _ => h

end History

namespace FailSafe

/-- A call of the fail-safe. -/
inductive Op
  | arm (seconds : UInt16) (breadcrumb : UInt64) (fabric : Option FabricIndex) (now : Instant)
      (windowOpenOverCase : Bool)
  | record (now : Instant) (f : Progress → Progress)
  | adoptFabric (fabric : FabricIndex) (now : Instant)
  | complete (overCase : Bool) (fabric : Option FabricIndex) (now : Instant)
  | expire (now : Instant)

/-- One call. -/
def step (fs : FailSafe) : Op → FailSafe
  | .arm seconds breadcrumb fabric now window => (fs.arm seconds breadcrumb fabric now window).2
  | .record now f => (fs.record now f).2
  | .adoptFabric fabric now => (fs.adoptFabric fabric now).2
  | .complete overCase fabric now => (fs.complete overCase fabric now).2
  | .expire now => (fs.expire now).2

/-- What the history makes of the answer to a call. Of the fail-safe it reads nothing else. -/
def observe (fs : FailSafe) (h : History) : Op → History
  | .arm seconds breadcrumb fabric now window =>
    let answer := (fs.arm seconds breadcrumb fabric now window).1
    let h := h.finishWith answer.cleanup
    if answer.outcome = .armed then h.begin now fabric else h
  | .record now f =>
    if (fs.record now f).1.isOk then
      { h with current := h.current.map fun ctx => { ctx with progress := f ctx.progress } }
    else h
  | .adoptFabric fabric now =>
    if (fs.adoptFabric fabric now).1.isOk then
      { h with current := h.current.map fun ctx => { ctx with fabricIndex := some fabric } }
    else h
  | .complete overCase fabric now =>
    let answer := (fs.complete overCase fabric now).1
    let h := h.finishWith answer.cleanup
    if answer.error = .ok then h.finish .completed else h
  | .expire now => h.finishWith (fs.expire now).1

/-- One call, with the history beside it. -/
def observed (s : FailSafe × History) (op : Op) : FailSafe × History :=
  (s.1.step op, s.1.observe s.2 op)

/-- A run from a new fail-safe. -/
def run (info : BasicCommissioningInfo) (ops : List Op) : FailSafe × History :=
  ops.foldl observed (new info, {})

/-- The armed context is the one the history says is running: same fabric, same record, and a
cumulative timer that was set when it began. -/
structure Armed.Is (max : UInt16) (armed : Armed) (ctx : Context) : Prop where
  fabricIndex : armed.fabricIndex = ctx.fabricIndex
  progress : armed.progress = ctx.progress
  cumulative : armed.cumulativeExpiresAt = ctx.since.saturatingAdd (.fromSecs max.toUInt64)

/-- The fail-safe and its history agree. -/
structure Agrees (s : FailSafe × History) : Prop where
  current : Option.Rel (Armed.Is s.1.info.maxCumulativeSeconds) s.1.armed s.2.current
  ended : ∀ ctx ending, (ctx, ending) ∈ s.2.ended →
    ending = .completed ∨ ∃ c, ending = .rolledBack c ∧ c.Undoes ctx.progress ctx.fabricIndex
  unowed : s.2.unowed = []
  numbered : (s.2.ended.map Prod.fst ++ s.2.current.toList).map Context.number =
    List.range s.2.begun

namespace Agrees

variable {fs : FailSafe} {h : History} {armed : Armed} {now : Instant}

lemma current_eq_none (hs : Agrees (fs, h)) (harmed : fs.armed = none) : h.current = none := by
  have hrel := hs.current
  simp only [harmed] at hrel
  cases hcurrent : h.current with
  | none => rfl
  | some ctx =>
    rw [hcurrent] at hrel
    cases hrel

lemma exists_current (hs : Agrees (fs, h)) (harmed : fs.armed = some armed) :
    ∃ ctx, h.current = some ctx ∧ Armed.Is fs.info.maxCumulativeSeconds armed ctx := by
  have hrel := hs.current
  simp only [harmed] at hrel
  cases hcurrent : h.current with
  | none =>
    rw [hcurrent] at hrel
    cases hrel
  | some ctx =>
    rw [hcurrent] at hrel
    cases hrel with
    | some his => exact ⟨ctx, rfl, his⟩

lemma exists_armed {ctx : Context} (hs : Agrees (fs, h)) (hcurrent : h.current = some ctx) :
    ∃ armed, fs.armed = some armed ∧ Armed.Is fs.info.maxCumulativeSeconds armed ctx := by
  cases harmed : fs.armed with
  | none => rw [hs.current_eq_none harmed] at hcurrent; cases hcurrent
  | some armed =>
    obtain ⟨ctx', hcurrent', his⟩ := hs.exists_current harmed
    obtain rfl : ctx' = ctx := Option.some.inj (hcurrent'.symm.trans hcurrent)
    exact ⟨armed, rfl, his⟩

lemma new (info : BasicCommissioningInfo) : Agrees (new info, {}) where
  current := .none
  ended := by simp
  unowed := rfl
  numbered := rfl

/-- The breadcrumb is no part of a context. -/
lemma breadcrumb (hs : Agrees (fs, h)) (value : UInt64) : Agrees ({ fs with breadcrumb := value }, h) :=
  ⟨hs.current, hs.ended, hs.unowed, hs.numbered⟩

/-- The armed context ends, and the history is told how. -/
lemma finish (hs : Agrees (fs, h)) (harmed : fs.armed = some armed) {ending : Ending}
    (hending : ending = .completed ∨
      ending = .rolledBack (armed.progress.cleanup armed.fabricIndex)) :
    Agrees ({ fs with armed := none, breadcrumb := 0 }, h.finish ending) := by
  obtain ⟨ctx, hcurrent, his⟩ := hs.exists_current harmed
  have hundoes := armed.progress.undoes_cleanup armed.fabricIndex
  rw [his.fabricIndex, his.progress] at hundoes hending
  have hfinish : h.finish ending =
      { h with current := none, ended := h.ended ++ [(ctx, ending)] } := by
    simp [History.finish, hcurrent]
  rw [hfinish]
  refine ⟨.none, ?_, hs.unowed, ?_⟩
  · intro ctx' ending' hmem
    rcases List.mem_append.mp hmem with hmem | hmem
    · exact hs.ended ctx' ending' hmem
    · obtain ⟨rfl, rfl⟩ := Prod.mk.inj (List.mem_singleton.mp hmem)
      exact hending.imp_right fun heq => ⟨_, heq, hundoes⟩
  · have hnumbered := hs.numbered
    simp only [hcurrent, Option.toList_some] at hnumbered
    simpa using hnumbered

/-- The armed context goes on, changed in the same way on both sides. -/
lemma update (hs : Agrees (fs, h)) (harmed : fs.armed = some armed) (f : Armed → Armed)
    (g : Context → Context) (hkeeps : ∀ ctx, Armed.Is fs.info.maxCumulativeSeconds armed ctx →
      Armed.Is fs.info.maxCumulativeSeconds (f armed) (g ctx))
    (hnumber : ∀ ctx, (g ctx).number = ctx.number) :
    Agrees ({ fs with armed := some (f armed) }, { h with current := h.current.map g }) := by
  obtain ⟨ctx, hcurrent, his⟩ := hs.exists_current harmed
  have hnumbered := hs.numbered
  simp only [hcurrent] at hnumbered ⊢
  refine ⟨.some (hkeeps ctx his), hs.ended, hs.unowed, ?_⟩
  simpa [hnumber] using hnumbered

/-- A context begins. -/
lemma begin (hs : Agrees (fs, h)) (harmed : fs.armed = none) (expiresAt : Instant)
    (fabric : Option FabricIndex) : Agrees
      ({ fs with
         armed := some
          { expiresAt := expiresAt
            cumulativeExpiresAt :=
              now.saturatingAdd (.fromSecs fs.info.maxCumulativeSeconds.toUInt64)
            fabricIndex := fabric } }, h.begin now fabric) := by
  have hcurrent := hs.current_eq_none harmed
  have hbegin : h.begin now fabric =
      { h with begun := h.begun + 1
               current := some { number := h.begun, since := now, fabricIndex := fabric } } := by
    simp [History.begin, hcurrent]
  rw [hbegin]
  refine ⟨.some ⟨rfl, rfl, rfl⟩, hs.ended, hs.unowed, ?_⟩
  have hnumbered := hs.numbered
  simp only [hcurrent, Option.toList_none, List.append_nil] at hnumbered
  simp only [Option.toList_some, List.map_append, hnumbered, List.map_cons, List.map_nil]
  exact List.range_succ.symm

/-! ### One call -/

lemma expire (hs : Agrees (fs, h)) (now : Instant) :
    Agrees ((fs.expire now).2, h.finishWith (fs.expire now).1) := by
  obtain harmed | ⟨armed, hlive⟩ | ⟨armed, harmed, hexpired⟩ := cases_at fs now
  · rw [expire_of_none harmed]
    exact hs
  · rw [expire_of_live hlive]
    exact hs
  · rw [expire_of_lapsed harmed hexpired]
    exact hs.finish harmed (.inr rfl)

lemma arm (hs : Agrees (fs, h)) (seconds : UInt16) (breadcrumb : UInt64)
    (fabric : Option FabricIndex) (now : Instant) (window : Bool) :
    Agrees (observed (fs, h) (.arm seconds breadcrumb fabric now window)) := by
  obtain harmed | ⟨armed, hlive, hexpire⟩ := expire_cases fs now
  · have hexpired := hs.expire now
    rw [observed, step, observe, arm_eq]
    obtain hcase | hcase | ⟨expiresAt, hcase⟩ := armLive_cases_of_none harmed
    · rw [hcase]
      exact hexpired
    · rw [hcase]
      exact hexpired.breadcrumb _
    · rw [hcase]
      exact (hexpired.begin harmed expiresAt fabric).breadcrumb _
  · have harm : fs.arm seconds breadcrumb fabric now window =
        fs.armLive seconds breadcrumb fabric now window none := by
      rw [arm_eq, hexpire]
    obtain ⟨harmed, -⟩ := armedAt_eq_some_iff.mp hlive
    obtain ⟨ctx, hcurrent, -⟩ := hs.exists_current harmed
    rw [observed, step, observe, harm]
    by_cases hsame : armed.fabricIndex = fabric
    · obtain hcase | ⟨expiresAt, hcase⟩ := armLive_cases_of_same hlive hsame
      · rw [hcase]
        exact hs.finish harmed (.inr rfl)
      · -- Re-arming is observed as the beginning of a context that is already there.
        have hbegin : h.begin now fabric = h := by simp [History.begin, hcurrent]
        have hupdate := hs.update harmed (fun armed => { armed with expiresAt := expiresAt }) id
          (fun _ his => ⟨his.1, his.2, his.3⟩) fun _ => rfl
        rw [Option.map_id] at hupdate
        rw [hcase]
        simp only [History.finishWith, if_true, hbegin]
        exact hupdate.breadcrumb _
    · rw [armLive_of_other hlive hsame]
      exact hs

lemma complete (hs : Agrees (fs, h)) (overCase : Bool) (fabric : Option FabricIndex)
    (now : Instant) : Agrees (observed (fs, h) (.complete overCase fabric now)) := by
  obtain harmed | ⟨armed, hlive, hexpire⟩ := expire_cases fs now
  · have hcomplete : fs.complete overCase fabric now =
        (⟨.noFailSafe, (fs.expire now).1⟩, (fs.expire now).2) := completeLive_of_none harmed
    rw [observed, step, observe, hcomplete]
    exact hs.expire now
  · have hcomplete : fs.complete overCase fabric now =
        fs.completeLive overCase fabric now none := by
      rw [complete_eq, hexpire]
    obtain ⟨harmed, -⟩ := armedAt_eq_some_iff.mp hlive
    rw [observed, step, observe, hcomplete, completeLive_of_live hlive]
    by_cases haccepted : overCase = true ∧ fabric ≠ none ∧ fabric = armed.fabricIndex
    · rw [if_pos haccepted]
      exact hs.finish harmed (.inl rfl)
    · rw [if_neg haccepted]
      exact hs

/-- `record` and `adopt_fabric` change the live context, or nothing. -/
lemma updateLive (hs : Agrees (fs, h)) (f : Armed → Armed) (g : Context → Context)
    (hkeeps : ∀ max armed ctx, Armed.Is max armed ctx → Armed.Is max (f armed) (g ctx))
    (hnumber : ∀ ctx, (g ctx).number = ctx.number) :
    Agrees ((fs.updateLive now f).2, if (fs.updateLive now f).1.isOk then
      { h with current := h.current.map g } else h) := by
  rw [FailSafe.updateLive]
  cases hlive : fs.armedAt now with
  | none => exact hs
  | some armed =>
    obtain ⟨harmed, -⟩ := armedAt_eq_some_iff.mp hlive
    exact hs.update harmed f g (hkeeps _ armed) hnumber

/-- Every call keeps the fail-safe and its history in agreement. -/
lemma observed (hs : Agrees (fs, h)) (op : Op) : Agrees (FailSafe.observed (fs, h) op) := by
  cases op with
  | arm seconds breadcrumb fabric now window => exact hs.arm seconds breadcrumb fabric now window
  | record now f =>
    exact hs.updateLive _ (fun ctx => { ctx with progress := f ctx.progress })
      (fun _ _ _ his => ⟨his.1, congrArg f his.2, his.3⟩) fun _ => rfl
  | adoptFabric fabric now =>
    exact hs.updateLive _ (fun ctx => { ctx with fabricIndex := some fabric })
      (fun _ _ _ his => ⟨rfl, his.2, his.3⟩) fun _ => rfl
  | complete overCase fabric now => exact hs.complete overCase fabric now
  | expire now => exact hs.expire now

end Agrees

lemma info_expire (fs : FailSafe) (now : Instant) : (fs.expire now).2.info = fs.info := by
  obtain harmed | ⟨armed, hlive⟩ | ⟨armed, harmed, hexpired⟩ := cases_at fs now
  · rw [expire_of_none harmed]
  · rw [expire_of_live hlive]
  · rw [expire_of_lapsed harmed hexpired]

lemma info_updateLive (fs : FailSafe) (now : Instant) (f : Armed → Armed) :
    (fs.updateLive now f).2.info = fs.info := by
  rw [updateLive]
  cases fs.armedAt now with
  | none => rfl
  | some armed => rfl

lemma info_step (fs : FailSafe) (op : Op) : (fs.step op).info = fs.info := by
  cases op with
  | arm seconds breadcrumb fabric now window =>
    refine Eq.trans ?_ (info_expire fs now)
    rw [step, arm_eq, armLive]
    split
    · split_ifs <;> rfl
    · split_ifs <;> rfl
  | record now f | adoptFabric fabric now => exact info_updateLive fs now _
  | complete overCase fabric now =>
    refine Eq.trans ?_ (info_expire fs now)
    rw [step, complete_eq, completeLive]
    split
    · rfl
    · split_ifs <;> rfl
  | expire now => exact info_expire fs now

/-- Along every run the fail-safe agrees with its history. -/
theorem agrees_run (info : BasicCommissioningInfo) (ops : List Op) : Agrees (run info ops) :=
  Lib.foldl_invariant (W := fun _ => True) (fun _ op _ hs => Agrees.observed hs op)
    (fun _ _ => trivial) (Agrees.new info)

/-- No call changes the fail-safe's `BasicCommissioningInfo`. -/
lemma info_run (info : BasicCommissioningInfo) (ops : List Op) : (run info ops).1.info = info :=
  Lib.foldl_invariant (W := fun _ => True) (I := fun s : FailSafe × History => s.1.info = info)
    (fun s op _ hs => (info_step s.1 op).trans hs) (fun _ _ => trivial) rfl

lemma hasExpired_of_not_isArmed {fs : FailSafe} {armed : Armed} {now : Instant}
    (hlapsed : fs.isArmed now = false) (harmed : fs.armed = some armed) : armed.hasExpired now = true := by
  simpa [isArmed, harmed] using hlapsed

/-- No context is live once its cumulative timer has run out. -/
lemma lt_of_live {fs : FailSafe} {armed : Armed} {ctx : Context} {now : Instant}
    (hlive : fs.armedAt now = some armed) (his : Armed.Is fs.info.maxCumulativeSeconds armed ctx) :
    now.micros.toNat < ctx.since.micros.toNat + fs.info.maxCumulativeSeconds.toNat * 1000000 := by
  obtain ⟨-, hexpired⟩ := armedAt_eq_some_iff.mp hlive
  have hbefore : now < armed.cumulativeExpiresAt := by
    rw [Armed.hasExpired, Bool.or_eq_false_iff, decide_eq_false_iff_not,
      decide_eq_false_iff_not] at hexpired
    exact not_le.mp hexpired.2
  have hseconds := Duration.toNat_fromSecs_le fs.info.maxCumulativeSeconds.toUInt64
  rw [UInt16.toNat_toUInt64] at hseconds
  rw [his.cumulative, Instant.lt_def, Instant.toNat_saturatingAdd] at hbefore
  omega

/-- A fail-safe context is bounded and ends exactly once. After any run one is live only before its
beginning plus `MaxCumulativeFailsafeSeconds`; `arm` and `complete` from another fabric leave it alone;
all but the one still running have ended, in order and once each, by a completion or by a cleanup that
undoes what was recorded; and one that has lapsed is cleaned up by the first of `arm`, `complete` and
`expire`. -/
theorem context_bounded_and_ends_once (info : BasicCommissioningInfo) (ops : List Op) :
    let fs := (run info ops).1
    let h := (run info ops).2
    (∀ now, fs.isArmed now = true → ∃ ctx, h.current = some ctx ∧
      now.micros.toNat < ctx.since.micros.toNat + info.maxCumulativeSeconds.toNat * 1000000) ∧
    (∀ now ctx other, fs.isArmed now = true → h.current = some ctx → other ≠ ctx.fabricIndex →
      (∀ seconds breadcrumb window, fs.arm seconds breadcrumb other now window =
        (⟨.refused .busyWithOtherAdmin, none⟩, fs)) ∧
      ∀ overCase, fs.complete overCase other now = (⟨.invalidAuthentication, none⟩, fs)) ∧
    (h.ended.map Prod.fst ++ h.current.toList).map Context.number = List.range h.begun ∧
    (∀ ctx ending, (ctx, ending) ∈ h.ended →
      ending = .completed ∨ ∃ c, ending = .rolledBack c ∧ c.Undoes ctx.progress ctx.fabricIndex) ∧
    h.unowed = [] ∧
    (∀ now ctx, fs.isArmed now = false → h.current = some ctx →
      ∃ c : Cleanup, c.Undoes ctx.progress ctx.fabricIndex ∧ (fs.expire now).1 = some c ∧
      (∀ seconds breadcrumb fabric window,
        (fs.arm seconds breadcrumb fabric now window).1.cleanup = some c) ∧
      ∀ overCase fabric, (fs.complete overCase fabric now).1 = ⟨.noFailSafe, some c⟩) := by
  have hagrees := agrees_run info ops
  have hinfo := info_run info ops
  generalize run info ops = s at hagrees hinfo
  obtain ⟨fs, h⟩ := s
  dsimp only at hinfo ⊢
  refine ⟨?_, ?_, hagrees.numbered, hagrees.ended, hagrees.unowed, ?_⟩
  · intro now harmed
    obtain ⟨armed, hlive⟩ := isArmed_iff.mp harmed
    obtain ⟨ctx, hcurrent, his⟩ := hagrees.exists_current (armedAt_eq_some_iff.mp hlive).1
    exact ⟨ctx, hcurrent, hinfo ▸ lt_of_live hlive his⟩
  · intro now ctx other harmed hcurrent hother
    obtain ⟨armed, hlive⟩ := isArmed_iff.mp harmed
    obtain ⟨ctx', hcurrent', his⟩ := hagrees.exists_current (armedAt_eq_some_iff.mp hlive).1
    obtain rfl : ctx' = ctx := Option.some.inj (hcurrent'.symm.trans hcurrent)
    rw [← his.fabricIndex] at hother
    refine ⟨?_, ?_⟩
    · intro seconds breadcrumb window
      rw [arm_eq, expire_of_live hlive]
      exact armLive_of_other hlive (Ne.symm hother)
    · intro overCase
      rw [complete_eq, expire_of_live hlive]
      exact (completeLive_of_live hlive).trans (if_neg fun haccepted => hother haccepted.2.2)
  · intro now ctx hlapsed hcurrent
    obtain ⟨armed, harmed, his⟩ := hagrees.exists_armed hcurrent
    have hexpired := hasExpired_of_not_isArmed hlapsed harmed
    have hexpire := expire_of_lapsed harmed hexpired
    refine ⟨armed.progress.cleanup armed.fabricIndex, ?_, by rw [hexpire], ?_, ?_⟩
    · rw [his.fabricIndex, his.progress]
      exact Progress.undoes_cleanup _ _
    · intro seconds breadcrumb fabric window
      rw [arm_eq, hexpire]
      exact cleanup_armLive_of_none rfl
    · intro overCase fabric
      rw [complete_eq, hexpire]
      exact congrArg Prod.fst (completeLive_of_none rfl)

/-- A context in which a fabric was added lapses unobserved. The next `ArmFailSafe` reports its one cleanup, which
removes that fabric, and begins another context. -/
theorem context_bounded_and_ends_once_lapsed :
    let h := (run {}
      [.arm 60 0 none ⟨0⟩ false, .record ⟨1⟩ fun p => { p with addedNoc := true },
        .adoptFabric ⟨1⟩ ⟨2⟩, .arm 60 0 none ⟨60000000⟩ false]).2
    h.begun = 2 ∧ ∃ ctx c, h.ended = [(ctx, .rolledBack c)] ∧ c.Undoes ctx.progress ctx.fabricIndex ∧
      c.removeFabric = some ⟨1⟩ := by
  obtain ⟨-, -, -, hended, -, -⟩ := context_bounded_and_ends_once {}
    [.arm 60 0 none ⟨0⟩ false, .record ⟨1⟩ fun p => { p with addedNoc := true },
      .adoptFabric ⟨1⟩ ⟨2⟩, .arm 60 0 none ⟨60000000⟩ false]
  obtain hcompleted | ⟨c, hc, hundoes⟩ := hended _ _ (List.mem_singleton_self _)
  · cases hcompleted
  · cases hc
    exact ⟨rfl, _, _, rfl, hundoes, rfl⟩

end FailSafe

end MatterKit.Commissioning
