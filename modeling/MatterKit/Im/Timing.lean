import MatterKit.Im.Subscription
import MatterKit.Lib.Runs

/-!
# When reports go out

A subscription has a minimum and a maximum interval, both from its last report. `due` says whether a
report is to go out now, and `nextDeadline` when to ask again; `SubscriptionPolicy.maxInterval` is where
the maximum comes from.

The two agree in every state (`due_isSome_iff`): a report is due exactly from the deadline on. What is
noted in between may move the deadline in, never behind the end of the maximum interval
(`nextDeadline_le_latestReport`), and never before the end of the minimum one as long as the maximum is
not the shorter.
-/

namespace MatterKit.Im

open Lib Dm

/-! ## The maximum interval -/

/-- Source: `im/subscription.rs`, `SubscriptionPolicy`. -/
structure SubscriptionPolicy where
  maxIntervalLimitS : UInt16
  preferredMaxIntervalS : Option UInt16

/-- Nothing where it panics, which is if the bounds are in the wrong order.
Source: Rust `Ord::clamp`. -/
def clamp (v lo hi : UInt16) : Option UInt16 :=
  if lo ≤ hi then some (if v < lo then lo else if hi < v then hi else v) else none

namespace SubscriptionPolicy

/-- Source: `SubscriptionPolicy::max_interval`. -/
def maxInterval (p : SubscriptionPolicy) (floorS ceilingS : UInt16) : Option UInt16 :=
  let upper := max p.maxIntervalLimitS ceilingS
  let wanted := p.preferredMaxIntervalS.getD ceilingS
  clamp wanted (min floorS upper) upper

lemma toNat_max_uint16 (a b : UInt16) : (max a b).toNat = max a.toNat b.toNat := by
  show (if a ≤ b then b else a).toNat = _
  split_ifs with h
  · exact (Nat.max_eq_right (UInt16.le_iff_toNat_le.mp h)).symm
  · exact (Nat.max_eq_left (Nat.le_of_not_le fun h' => h (UInt16.le_iff_toNat_le.mpr h'))).symm

lemma toNat_min_uint16 (a b : UInt16) : (min a b).toNat = min a.toNat b.toNat := by
  show (if a ≤ b then a else b).toNat = _
  split_ifs with h
  · exact (Nat.min_eq_left (UInt16.le_iff_toNat_le.mp h)).symm
  · exact (Nat.min_eq_right (Nat.le_of_not_le fun h' => h (UInt16.le_iff_toNat_le.mpr h'))).symm

/-- The interval is always there, and between the bounds if they are in order. -/
lemma exists_maxInterval (p : SubscriptionPolicy) (floorS ceilingS : UInt16) (hbounds : floorS ≤ ceilingS) :
    ∃ interval, p.maxInterval floorS ceilingS = some interval ∧ floorS ≤ interval ∧
      interval ≤ max p.maxIntervalLimitS ceilingS := by
  simp only [maxInterval, clamp, UInt16.le_iff_toNat_le, UInt16.lt_iff_toNat_lt, toNat_max_uint16,
    toNat_min_uint16] at hbounds ⊢
  rw [if_pos (by omega)]
  refine ⟨_, rfl, ?_, ?_⟩
  · split_ifs
    · rw [toNat_min_uint16, toNat_max_uint16]
      omega
    · rw [toNat_max_uint16]
      omega
    · omega
  · split_ifs
    · rw [toNat_min_uint16, toNat_max_uint16]
      omega
    · rw [toNat_max_uint16]
    · omega

end SubscriptionPolicy

/-! ## Deadlines -/

namespace Subscription

variable {P : ℕ}

/-- Source: `Subscription::earliest_report`. -/
def earliestReport (s : Subscription P) : Instant :=
  s.lastReport.saturatingAdd (.fromSecs s.minIntervalS.toUInt64)

/-- Source: `Subscription::latest_report`. -/
def latestReport (s : Subscription P) : Instant :=
  s.lastReport.saturatingAdd (.fromSecs s.maxIntervalS.toUInt64)

/-- Source: `Subscription::due`. -/
def due (s : Subscription P) (now : Instant) : Option ReportReason :=
  if s.latestReport ≤ now then some (if s.hasPending then .data else .keepAlive)
  else if s.hasPending = true ∧ s.earliestReport ≤ now then some .data
  else none

/-- Source: `Subscription::next_deadline`. -/
def nextDeadline (s : Subscription P) : Instant :=
  if s.hasPending then min s.earliestReport s.latestReport else s.latestReport

variable (s : Subscription P)

/-- **A report is due exactly from the deadline on.** -/
lemma due_isSome_iff (now : Instant) : (s.due now).isSome = true ↔ s.nextDeadline ≤ now := by
  unfold due nextDeadline
  by_cases hlatest : s.latestReport ≤ now
  · rw [if_pos hlatest]
    split_ifs
    · simp [hlatest]
    · simp [hlatest]
  · rw [if_neg hlatest]
    by_cases hpending : s.hasPending = true
    · by_cases hearliest : s.earliestReport ≤ now
      · simp [hpending, hearliest]
      · simp [hpending, hearliest, hlatest]
    · simp [hpending, hlatest]

lemma nextDeadline_le_latestReport : s.nextDeadline ≤ s.latestReport := by
  unfold nextDeadline
  split_ifs
  · exact min_le_right _ _
  · exact le_refl _

/-- Seconds are microseconds, and fit. -/
lemma toNat_secs (secs : UInt16) :
    (Duration.fromSecs secs.toUInt64).micros.toNat = secs.toNat * 1000000 := by
  have hsecs := secs.toNat_lt
  have hmicros : (1000000 : UInt64).toNat = 1000000 := rfl
  rw [Duration.fromSecs, toNat_satMul, UInt16.toNat_toUInt64, hmicros]
  omega

lemma toNat_earliestReport : s.earliestReport.micros.toNat =
      min (s.lastReport.micros.toNat + s.minIntervalS.toNat * 1000000) (2 ^ 64 - 1) := by
  rw [earliestReport, Instant.toNat_saturatingAdd, toNat_secs]

lemma toNat_latestReport : s.latestReport.micros.toNat =
      min (s.lastReport.micros.toNat + s.maxIntervalS.toNat * 1000000) (2 ^ 64 - 1) := by
  rw [latestReport, Instant.toNat_saturatingAdd, toNat_secs]

/-- The maximum interval is not the shorter one. -/
def Ordered (s : Subscription P) : Prop := s.minIntervalS ≤ s.maxIntervalS

lemma earliestReport_le_nextDeadline {s : Subscription P} (h : s.Ordered) :
    s.earliestReport ≤ s.nextDeadline := by
  have hle : s.earliestReport ≤ s.latestReport := by
    have hsecs := UInt16.le_iff_toNat_le.mp h
    rw [Instant.le_def, toNat_earliestReport, toNat_latestReport]
    omega
  unfold nextDeadline
  split_ifs
  · rw [min_eq_left hle]
  · exact hle

/-- Two subscriptions count from the same report with the same intervals. -/
structure SameTimers (s s' : Subscription P) : Prop where
  lastReport_eq : s'.lastReport = s.lastReport
  minIntervalS_eq : s'.minIntervalS = s.minIntervalS
  maxIntervalS_eq : s'.maxIntervalS = s.maxIntervalS

lemma SameTimers.refl : s.SameTimers s := ⟨rfl, rfl, rfl⟩

end Subscription

/-! ## The table -/

namespace SubscriptionTable

variable {N P : ℕ}

/-- The subscriptions that have a session. -/
def bound (t : SubscriptionTable N P) : List (Subscription P) :=
  t.subscriptions.toList.filter fun s => s.session.isSome

/-- Source: `SubscriptionTable::next_deadline`. -/
def nextDeadline (t : SubscriptionTable N P) : Option Instant :=
  (t.bound.map Subscription.nextDeadline).min?

/-- Source: `SubscriptionTable::due`. -/
def due (t : SubscriptionTable N P) (now : Instant) : List (Subscription P × ReportReason) :=
  t.bound.filterMap fun s => (s.due now).map fun reason => (s, reason)

/-- No subscription with a session has its deadline before the table's. -/
lemma nextDeadline_le_of_mem {t : SubscriptionTable N P} {s : Subscription P} (h : s ∈ t.bound) :
    ∃ deadline, t.nextDeadline = some deadline ∧ deadline ≤ s.nextDeadline := by
  have hmem : s.nextDeadline ∈ t.bound.map Subscription.nextDeadline := List.mem_map_of_mem h
  rcases hmin : (t.bound.map Subscription.nextDeadline).min? with _ | deadline
  · rw [List.min?_eq_none_iff] at hmin
    rw [hmin] at hmem
    exact absurd hmem List.not_mem_nil
  · exact ⟨deadline, hmin, (List.min?_eq_some_iff.mp hmin).2 _ hmem⟩

/-- Some report is due exactly from the table's deadline on. -/
lemma due_ne_nil_iff (t : SubscriptionTable N P) (now : Instant) :
    t.due now ≠ [] ↔ ∃ deadline, t.nextDeadline = some deadline ∧ deadline ≤ now := by
  constructor
  · intro hdue
    obtain ⟨⟨s, reason⟩, hmem⟩ := List.exists_mem_of_ne_nil _ hdue
    obtain ⟨s', hbound, hreason⟩ := List.mem_filterMap.mp hmem
    obtain ⟨deadline, hmin, hle⟩ := nextDeadline_le_of_mem hbound
    refine ⟨deadline, hmin, hle.trans ((s'.due_isSome_iff now).mp ?_)⟩
    rcases h : s'.due now with _ | _
    · rw [h] at hreason
      cases hreason
    · rfl
  · rintro ⟨deadline, hmin, hle⟩ hnone
    obtain ⟨s, hbound, rfl⟩ := List.mem_map.mp (List.min?_eq_some_iff.mp hmin).1
    obtain ⟨reason, hreason⟩ := Option.isSome_iff_exists.mp ((s.due_isSome_iff now).mpr hle)
    have hmem : (s, reason) ∈ t.due now := by
      refine List.mem_filterMap.mpr ⟨s, hbound, ?_⟩
      rw [hreason]
      rfl
    rw [hnone] at hmem
    exact absurd hmem List.not_mem_nil

end SubscriptionTable

/-! ## Runs -/

/-- What happens to a subscription. -/
inductive ReportAct
  | noteChange (path : AttributePath)
  | noteClusterChange (endpoint : EndpointId) (cluster : ClusterId)
  | noteEvent (endpoint : EndpointId) (cluster : ClusterId) (event : EventId)
  | noteReportedThrough (through : UInt64)
  | reprime
  | reprimeAll
  | poll

/-- A subscription at a time, and when it was reported, last first. -/
structure Reporter (P : ℕ) where
  sub : Subscription P
  now : Instant
  reports : List Instant

namespace Reporter

variable {P : ℕ}

/-- From the report a subscription counts from. -/
def start (s : Subscription P) : Reporter P := ⟨s, s.lastReport, [s.lastReport]⟩

/-- What happens at a time. A poll sends the report that is due, and it has been reported then. -/
def step (r : Reporter P) (op : ReportAct × Instant) : Reporter P :=
  let r := { r with now := op.2 }
  match op.1 with
  | .noteChange path => { r with sub := r.sub.noteChange path }
  | .noteClusterChange endpoint cluster => { r with sub := r.sub.noteClusterChange endpoint cluster }
  | .noteEvent endpoint cluster event => { r with sub := r.sub.noteEvent endpoint cluster event }
  | .noteReportedThrough through => { r with sub := r.sub.noteReportedThrough through }
  | .reprime => { r with sub := r.sub.reprime }
  | .reprimeAll => { r with sub := { r.sub with dirty := r.sub.dirty.reprime } }
  | .poll =>
    if (r.sub.due op.2).isSome then
      { r with sub := r.sub.reported op.2, reports := op.2 :: r.reports }
    else r

/-- The clock does not go back, and not past the deadline, which is where a poll is made. -/
def Driven (r : Reporter P) (op : ReportAct × Instant) : Prop :=
  r.now ≤ op.2 ∧ op.2 ≤ max r.now r.sub.nextDeadline

instance (r : Reporter P) (op : ReportAct × Instant) : Decidable (r.Driven op) :=
  inferInstanceAs (Decidable (_ ∧ _))

/-- A step that is not a report moves the clock and leaves the timers; one that is was due. -/
lemma step_cases (r : Reporter P) (op : ReportAct × Instant) :
    (r.sub.SameTimers (r.step op).sub ∧ (r.step op).now = op.2 ∧ (r.step op).reports = r.reports) ∨
      (r.sub.nextDeadline ≤ op.2 ∧ r.step op = ⟨r.sub.reported op.2, op.2, op.2 :: r.reports⟩) := by
  obtain ⟨act, now⟩ := op
  cases act with
  | noteChange path =>
    refine .inl ⟨?_, rfl, rfl⟩
    show r.sub.SameTimers (r.sub.noteChange path)
    unfold Subscription.noteChange
    split_ifs
    · exact ⟨rfl, rfl, rfl⟩
    · exact .refl _
  | noteClusterChange endpoint cluster => exact .inl ⟨⟨rfl, rfl, rfl⟩, rfl, rfl⟩
  | noteEvent endpoint cluster event =>
    refine .inl ⟨?_, rfl, rfl⟩
    show r.sub.SameTimers (r.sub.noteEvent endpoint cluster event)
    unfold Subscription.noteEvent
    split_ifs
    · exact ⟨rfl, rfl, rfl⟩
    · exact .refl _
  | noteReportedThrough through | reprime | reprimeAll => exact .inl ⟨⟨rfl, rfl, rfl⟩, rfl, rfl⟩
  | poll =>
    by_cases hdue : (r.sub.due now).isSome = true
    · exact .inr ⟨(r.sub.due_isSome_iff now).mp hdue, if_pos hdue⟩
    · have hstep : r.step (.poll, now) = { r with now := now } := if_neg hdue
      rw [hstep]
      exact .inl ⟨.refl _, rfl, rfl⟩

/-- Of the reports, the last is the one the subscription counts from, and each is the minimum interval
behind the one before it or at the last instant there is. -/
structure Spaced (minS maxS : UInt16) (r : Reporter P) : Prop where
  minIntervalS_eq : r.sub.minIntervalS = minS
  maxIntervalS_eq : r.sub.maxIntervalS = maxS
  head_eq : r.reports.head? = some r.sub.lastReport
  apart : r.reports.IsChain fun later earlier =>
    earlier.micros.toNat + minS.toNat * 1000000 ≤ later.micros.toNat ∨
      later.micros.toNat = 2 ^ 64 - 1

/-- Each report is at most the maximum interval behind the one before it, and so is the clock. -/
structure Prompt (maxS : UInt16) (r : Reporter P) : Prop where
  maxIntervalS_eq : r.sub.maxIntervalS = maxS
  head_eq : r.reports.head? = some r.sub.lastReport
  soon : r.reports.IsChain fun later earlier =>
    later.micros.toNat ≤ earlier.micros.toNat + maxS.toNat * 1000000
  now_le : r.now.micros.toNat ≤ r.sub.lastReport.micros.toNat + maxS.toNat * 1000000

variable (s : Subscription P)

lemma spaced_start : Spaced s.minIntervalS s.maxIntervalS (start s) :=
  ⟨rfl, rfl, rfl, List.isChain_singleton _⟩

/-- A report that is due is the minimum interval behind the last, or at the last instant. -/
lemma Spaced.step {minS maxS : UInt16} (hordered : minS ≤ maxS) {r : Reporter P} (h : Spaced minS maxS r)
    (op : ReportAct × Instant) : Spaced minS maxS (r.step op) := by
  rcases r.step_cases op with ⟨hsame, -, hreports⟩ | ⟨hdue, hstep⟩
  · refine ⟨hsame.minIntervalS_eq.trans h.minIntervalS_eq,
      hsame.maxIntervalS_eq.trans h.maxIntervalS_eq, ?_, ?_⟩
    · rw [hreports, hsame.lastReport_eq]
      exact h.head_eq
    · rw [hreports]
      exact h.apart
  · rw [hstep]
    refine ⟨h.minIntervalS_eq, h.maxIntervalS_eq, rfl, List.isChain_cons.mpr ⟨?_, h.apart⟩⟩
    intro earlier hearlier
    obtain rfl : r.sub.lastReport = earlier := by
      rw [h.head_eq] at hearlier
      exact Option.some.inj hearlier
    have hsub : r.sub.Ordered := by
      unfold Subscription.Ordered
      rw [h.minIntervalS_eq, h.maxIntervalS_eq]
      exact hordered
    have hearliest := (Subscription.earliestReport_le_nextDeadline hsub).trans hdue
    rw [Instant.le_def, Subscription.toNat_earliestReport, h.minIntervalS_eq] at hearliest
    have hlast := op.2.micros.toNat_lt
    omega

lemma prompt_start : Prompt s.maxIntervalS (start s) :=
  ⟨rfl, rfl, List.isChain_singleton _, Nat.le_add_right _ _⟩

/-- A clock that is not past the deadline is not past the maximum interval. -/
lemma Prompt.clock {maxS : UInt16} {r : Reporter P} (h : Prompt maxS r) {op : ReportAct × Instant}
    (hdriven : r.Driven op) : op.2.micros.toNat ≤ r.sub.lastReport.micros.toNat + maxS.toNat * 1000000 := by
  have hnow := h.now_le
  rcases le_max_iff.mp hdriven.2 with hbefore | hdeadline
  · exact (Instant.le_def.mp hbefore).trans hnow
  · have hlatest := hdeadline.trans (Subscription.nextDeadline_le_latestReport r.sub)
    rw [Instant.le_def, Subscription.toNat_latestReport, h.maxIntervalS_eq] at hlatest
    omega

/-- Driven on, the clock and the reports stay within the maximum interval. -/
lemma Prompt.step {maxS : UInt16} {r : Reporter P} (h : Prompt maxS r) {op : ReportAct × Instant}
    (hdriven : r.Driven op) : Prompt maxS (r.step op) := by
  have hclock := h.clock hdriven
  rcases r.step_cases op with ⟨hsame, hnow, hreports⟩ | ⟨-, hstep⟩
  · refine ⟨hsame.maxIntervalS_eq.trans h.maxIntervalS_eq, ?_, ?_, ?_⟩
    · rw [hreports, hsame.lastReport_eq]
      exact h.head_eq
    · rw [hreports]
      exact h.soon
    · rw [hnow, hsame.lastReport_eq]
      exact hclock
  · rw [hstep]
    refine ⟨h.maxIntervalS_eq, rfl, List.isChain_cons.mpr ⟨?_, h.soon⟩, Nat.le_add_right _ _⟩
    intro earlier hearlier
    obtain rfl : r.sub.lastReport = earlier := by
      rw [h.head_eq] at hearlier
      exact Option.some.inj hearlier
    exact hclock

end Reporter

open Reporter in
/-- **Reports respect both intervals.** The maximum interval is between its bounds. A report is due
exactly from its deadline on. In every run the reports are at least the minimum interval apart, unless
one is at the last instant of the clock; and if the clock is not let past the deadline without a poll,
at most the maximum. -/
theorem reports_timely : (∀ (policy : SubscriptionPolicy) (floorS ceilingS : UInt16), floorS ≤ ceilingS →
      ∃ interval, policy.maxInterval floorS ceilingS = some interval ∧ floorS ≤ interval ∧
        interval ≤ max policy.maxIntervalLimitS ceilingS) ∧
    (∀ (P : ℕ) (s : Subscription P) (now : Instant), (s.due now).isSome = true ↔ s.nextDeadline ≤ now) ∧
    (∀ (N P : ℕ) (t : SubscriptionTable N P) (now : Instant),
      t.due now ≠ [] ↔ ∃ deadline, t.nextDeadline = some deadline ∧ deadline ≤ now) ∧
    ∀ (policy : SubscriptionPolicy) (floorS ceilingS : UInt16) (P : ℕ) (s : Subscription P)
      (ops : List (ReportAct × Instant)), floorS ≤ ceilingS → s.minIntervalS = floorS →
      policy.maxInterval floorS ceilingS = some s.maxIntervalS →
        Spaced floorS s.maxIntervalS (ops.foldl step (start s)) ∧ (Throughout step Driven (start s) ops →
          Prompt s.maxIntervalS (ops.foldl step (start s))) := by
  refine ⟨SubscriptionPolicy.exists_maxInterval, fun P s now => s.due_isSome_iff now,
    fun N P t now => t.due_ne_nil_iff now, ?_⟩
  intro policy floorS ceilingS P s ops hbounds hmin hmax
  obtain ⟨interval, hinterval, hfloor, -⟩ := policy.exists_maxInterval floorS ceilingS hbounds
  obtain rfl : interval = s.maxIntervalS := Option.some.inj (hinterval.symm.trans hmax)
  constructor
  · have hall : ∀ op ∈ ops, (fun _ : ReportAct × Instant => True) op := fun _ _ => trivial
    refine foldl_invariant (fun r op _ h => h.step hfloor op) hall ?_
    rw [← hmin]
    exact spaced_start s
  · exact Throughout.invariant (fun r op h hdriven => h.step hdriven) (prompt_start s)

/-- What is reported every ten seconds, and changes after one second at the earliest. -/
def everyTen : Subscription 1 :=
  ⟨⟨1⟩, some ⟨1⟩, some ⟨1⟩, some ⟨1⟩, false, 1, 10, .empty, ⟨0⟩, .empty, .new, 0, false, 0, .start⟩

/-- A change is reported once the second is over, and then the ten seconds count again. -/
theorem reports_timely_everyTen :
    let ops : List (ReportAct × Instant) :=
      [(.reprimeAll, ⟨500000⟩), (.poll, ⟨1000000⟩), (.poll, ⟨11000000⟩)]
    Reporter.Spaced 1 10 (ops.foldl Reporter.step (.start everyTen)) ∧
      Reporter.Prompt 10 (ops.foldl Reporter.step (.start everyTen)) ∧
      (ops.foldl Reporter.step (.start everyTen)).reports = [⟨11000000⟩, ⟨1000000⟩, ⟨0⟩] := by
  intro ops
  have h := reports_timely.2.2.2 ⟨0, none⟩ 1 10 1 everyTen ops (by decide) rfl (by decide)
  exact ⟨h.1, h.2 (by decide +kernel), by decide +kernel⟩

/-! ## The last instant -/

/-- What was last reported a second before the last instant, every ten seconds. -/
def beforeTheEnd : Subscription 1 :=
  ⟨⟨1⟩, some ⟨1⟩, some ⟨1⟩, some ⟨1⟩, false, 10, 10, .empty, ⟨18446744073708551615⟩, .empty, .new, 0,
    false, 0, .start⟩

/-- With a clock that has a last instant the minimum interval is not always kept. -/
theorem not_apart_beforeTheEnd :
    ¬ ∀ (policy : SubscriptionPolicy) (floorS ceilingS : UInt16) (s : Subscription 1)
        (ops : List (ReportAct × Instant)), floorS ≤ ceilingS → s.minIntervalS = floorS →
      policy.maxInterval floorS ceilingS = some s.maxIntervalS →
        (ops.foldl Reporter.step (Reporter.start s)).reports.IsChain fun later earlier =>
          earlier.micros.toNat + floorS.toNat * 1000000 ≤ later.micros.toNat := by
  intro hall
  have hchain := hall ⟨0, none⟩ 10 10 beforeTheEnd [(.poll, ⟨18446744073709551615⟩)] (by decide) rfl (by decide)
  have hreports : ([(.poll, ⟨18446744073709551615⟩)].foldl Reporter.step
      (Reporter.start beforeTheEnd)).reports = [⟨18446744073709551615⟩, ⟨18446744073708551615⟩] := by
    decide +kernel
  rw [hreports] at hchain
  exact absurd ((List.isChain_cons.mp hchain).1 _ rfl) (by decide +kernel)

end MatterKit.Im
