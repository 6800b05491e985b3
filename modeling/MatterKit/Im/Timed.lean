import MatterKit.Im.Dispatch
import MatterKit.Lib.Runs
import Mathlib.Data.List.MinMax

/-!
# Timed transactions

`im/timed.rs`: a Timed Request opens a window on its exchange, and the Write or Invoke Request that
follows must arrive in it. `TimedWindows` keeps the open windows in a fixed number of slots.

A transaction has at most one window (`Distinct`), so it is enough to say where the window of a
transaction comes from (`Granted`): from an open that succeeded, with nothing on that transaction since.
What `open` takes for expired is not what `check` does: at the deadline itself a request is still
admitted, and the window may already be given up. `admits_one_request` says that this is all that can go
wrong.
-/

namespace MatterKit.Im

open Lib

/-- The session and the exchange a transaction is on. -/
abbrev Transaction := Option SessionId × ExchangeId

/-- The transaction of a window. -/
def TimedWindow.transaction (w : TimedWindow) : Transaction := (w.session, w.exchange)

namespace TimedWindows

variable {N : ℕ}

/-- The slot at `i` is given another content. -/
def put (s : TimedWindows N) (i : ℕ) (slot : Option TimedWindow) : TimedWindows N :=
  ⟨s.windows.setIfInBounds i slot⟩

/-- Only the windows that `p` keeps stay. -/
def keep (s : TimedWindows N) (p : TimedWindow → Bool) : TimedWindows N :=
  ⟨s.windows.map fun slot => slot.filter p⟩

/-- The slot of a transaction's window. -/
def ownSlot (s : TimedWindows N) (t : Transaction) : Option ℕ := (s.slotFor t.1 t.2).map Prod.fst

/-- Source: the first `find` of `TimedWindows::open`. -/
def freeSlot (s : TimedWindows N) : Option ℕ := s.windows.toList.findIdx? Option.isNone

/-- The slots whose windows have expired, with their deadlines.
Source: the `filter` of `TimedWindows::open`. -/
def expiredAt (s : TimedWindows N) (sentAt : Instant) : List (Instant × ℕ) :=
  s.windows.toList.zipIdx.filterMap fun entry =>
    (entry.1.filter fun w => decide (w.deadline ≤ sentAt)).map fun w => (w.deadline, entry.2)

/-- The slot of the window that expired first.
Source: the `min_by_key` of `TimedWindows::open`. -/
def oldestExpired (s : TimedWindows N) (sentAt : Instant) : Option ℕ :=
  ((s.expiredAt sentAt).argmin Prod.fst).map Prod.snd

/-- The slot that a new window gets.
Source: `TimedWindows::open`, the three places it assigns to. -/
def slotToOpen (s : TimedWindows N) (t : Transaction) (sentAt : Instant) : Option ℕ :=
  (s.ownSlot t).or (s.freeSlot.or (s.oldestExpired sentAt))

/-- Source: `TimedWindows::open`. -/
def «open» (s : TimedWindows N) (t : Transaction) (timeoutMs : UInt16) (sentAt : Instant) :
    Except ErrorCode Unit × TimedWindows N :=
  let window : TimedWindow :=
    ⟨t.1, t.2, sentAt.saturatingAdd (.fromMillis timeoutMs.toUInt64)⟩
  match s.slotToOpen t sentAt with
  | some i => (.ok (), s.put i (some window))
  | none => (.error .noSpace, s)

/-- Source: `TimedWindows::close`. -/
def close (s : TimedWindows N) (t : Transaction) : TimedWindows N :=
  match s.slotFor t.1 t.2 with
  | none => s
  | some (i, _) => s.put i none

/-- Source: `TimedWindows::close_session`. -/
def closeSession (s : TimedWindows N) (session : Option SessionId) : TimedWindows N :=
  s.keep fun w => decide (w.session ≠ session)

/-- Source: `TimedWindows::reap`. -/
def reap (s : TimedWindows N) (now : Instant) : ℕ × TimedWindows N :=
  (s.windows.toList.countP fun slot => slot.any fun w => decide (now > w.deadline),
    s.keep fun w => !decide (now > w.deadline))

/-! ## The window of a transaction -/

/-- The window of a transaction stands in a slot. -/
def Holds (s : TimedWindows N) (i : ℕ) (w : TimedWindow) : Prop := s.windows[i]? = some (some w)

/-- No transaction has two windows. -/
def Distinct (s : TimedWindows N) : Prop :=
  ∀ i j w v, s.Holds i w → s.Holds j v → w.transaction = v.transaction → i = j

section slots

variable {s : TimedWindows N} {i j : ℕ} {w : TimedWindow} {t : Transaction} {sentAt : Instant}

lemma holds_iff_toList : s.Holds i w ↔ s.windows.toList[i]? = some (some w) := by
  rw [Holds, Vector.getElem?_toList]

/-- The slots, one after another, are what is looked through. -/
lemma findIdx?_eq_none_iff_holds {p : TimedWindow → Bool} :
    (s.windows.toList.findIdx? fun slot => slot.any p) = none ↔ ∀ i w, s.Holds i w → p w = false := by
  rw [List.findIdx?_eq_none_iff]
  constructor
  · intro h i w hw
    exact h _ (List.mem_of_getElem? (holds_iff_toList.mp hw))
  · intro h slot hslot
    obtain ⟨i, hi⟩ := List.mem_iff_getElem?.mp hslot
    cases slot with
    | none => rfl
    | some w => exact h i w (holds_iff_toList.mpr hi)

lemma holds_of_findIdx? {p : TimedWindow → Bool}
    (h : (s.windows.toList.findIdx? fun slot => slot.any p) = some i) : ∃ w, s.Holds i w ∧ p w = true := by
  obtain ⟨hi, hmatch, -⟩ := List.findIdx?_eq_some_iff_getElem.mp h
  obtain ⟨w, hw, hp⟩ := (Option.any_eq_true _ _).mp hmatch
  exact ⟨w, holds_iff_toList.mpr (List.getElem?_eq_some_iff.mpr ⟨hi, hw⟩), hp⟩

lemma isIts_iff : (w.session == t.1 && w.exchange == t.2) = true ↔ w.transaction = t := by
  rw [Bool.and_eq_true, beq_iff_eq, beq_iff_eq, TimedWindow.transaction, Prod.ext_iff]

lemma holds_of_slotFor (h : s.slotFor t.1 t.2 = some (i, w)) : s.Holds i w ∧ w.transaction = t := by
  obtain ⟨j, hfind, hget⟩ := Option.bind_eq_some_iff.mp h
  obtain ⟨v, hv, heq⟩ := Option.map_eq_some_iff.mp hget
  obtain ⟨rfl, rfl⟩ := Prod.mk.inj heq
  obtain ⟨u, hu, hmatch⟩ := holds_of_findIdx? hfind
  have huv : u = v := Option.some.inj (hu.symm.trans (Option.join_eq_some_iff.mp hv) |> Option.some.inj)
  exact ⟨Option.join_eq_some_iff.mp hv, isIts_iff.mp (huv ▸ hmatch)⟩

lemma slotFor_eq_none_iff : s.slotFor t.1 t.2 = none ↔ ∀ i w, s.Holds i w → w.transaction ≠ t := by
  constructor
  · intro h i w hw ht
    cases hfind : s.windows.toList.findIdx? fun slot =>
        slot.any fun window => window.session == t.1 && window.exchange == t.2 with
    | none =>
      have hno := findIdx?_eq_none_iff_holds.mp hfind i w hw
      rw [isIts_iff.mpr ht] at hno
      cases hno
    | some j =>
      obtain ⟨v, hv, -⟩ := holds_of_findIdx? hfind
      rw [slotFor, hfind, Option.bind_some, Option.map_eq_none_iff] at h
      rw [Holds] at hv
      rw [hv] at h
      cases h
  · intro h
    cases hslot : s.slotFor t.1 t.2 with
    | none => rfl
    | some entry =>
      obtain ⟨hw, ht⟩ := holds_of_slotFor hslot
      exact absurd ht (h entry.1 entry.2 hw)

/-- Where a transaction has one window only, that is the one that is found. -/
lemma slotFor_of_holds (hs : s.Distinct) (hw : s.Holds i w) :
    s.slotFor w.transaction.1 w.transaction.2 = some (i, w) := by
  cases h : s.slotFor w.transaction.1 w.transaction.2 with
  | none => exact absurd rfl (slotFor_eq_none_iff.mp h i w hw)
  | some entry =>
    obtain ⟨j, v⟩ := entry
    obtain ⟨hv, ht⟩ := holds_of_slotFor h
    obtain rfl := hs j i v w hv hw ht
    rw [Option.some.inj (Option.some.inj (hv.symm.trans hw))]

lemma ownSlot_eq_none_iff : s.ownSlot t = none ↔ ∀ i w, s.Holds i w → w.transaction ≠ t := by
  rw [ownSlot, Option.map_eq_none_iff, slotFor_eq_none_iff]

lemma holds_of_ownSlot (h : s.ownSlot t = some i) : ∃ w, s.Holds i w ∧ w.transaction = t := by
  obtain ⟨⟨j, w⟩, hslot, rfl⟩ := Option.map_eq_some_iff.mp h
  exact ⟨w, holds_of_slotFor hslot⟩

lemma ownSlot_of_holds (hs : s.Distinct) (hw : s.Holds i w) : s.ownSlot w.transaction = some i := by
  rw [ownSlot, slotFor_of_holds hs hw, Option.map_some]

lemma not_holds_of_freeSlot (h : s.freeSlot = some i) : ¬ s.Holds i w := by
  obtain ⟨hi, hnone, -⟩ := List.findIdx?_eq_some_iff_getElem.mp h
  intro hw
  obtain ⟨_, hget⟩ := List.getElem?_eq_some_iff.mp (holds_iff_toList.mp hw)
  rw [hget] at hnone
  cases hnone

lemma mem_expiredAt {deadline : Instant} :
    (deadline, i) ∈ s.expiredAt sentAt ↔ ∃ w, s.Holds i w ∧ w.deadline = deadline ∧
      w.deadline ≤ sentAt := by
  rw [expiredAt, List.mem_filterMap]
  constructor
  · rintro ⟨⟨slot, j⟩, hmem, hentry⟩
    obtain ⟨w, hw, heq⟩ := Option.map_eq_some_iff.mp hentry
    obtain ⟨hslot, hexpired⟩ := Option.filter_eq_some_iff.mp hw
    obtain ⟨rfl, rfl⟩ := Prod.mk.inj heq
    refine ⟨w, ?_, rfl, of_decide_eq_true hexpired⟩
    exact holds_iff_toList.mpr ((List.mem_zipIdx_iff_getElem?.mp hmem).trans (congrArg some hslot))
  · rintro ⟨w, hw, rfl, hexpired⟩
    refine ⟨(some w, i), List.mem_zipIdx_iff_getElem?.mpr (holds_iff_toList.mp hw), ?_⟩
    simp [hexpired]

/-- The window given up has expired, and none that is held expires before it. -/
lemma holds_of_oldestExpired (h : s.oldestExpired sentAt = some i) :
    ∃ w, s.Holds i w ∧ w.deadline ≤ sentAt ∧ ∀ j v, s.Holds j v → w.deadline ≤ v.deadline := by
  obtain ⟨⟨deadline, i'⟩, hmin, rfl⟩ := Option.map_eq_some_iff.mp h
  obtain ⟨w, hw, rfl, hexpired⟩ := mem_expiredAt.mp (List.argmin_mem hmin)
  refine ⟨w, hw, hexpired, ?_⟩
  intro j v hv
  by_cases hv' : v.deadline ≤ sentAt
  · have hmem : (v.deadline, j) ∈ s.expiredAt sentAt := mem_expiredAt.mpr ⟨v, hv, rfl, hv'⟩
    have hle : (w.deadline, i').1 ≤ (v.deadline, j).1 := List.le_of_mem_argmin hmem hmin
    exact hle
  · exact hexpired.trans (le_of_not_ge hv')

lemma oldestExpired_eq_none_iff :
    s.oldestExpired sentAt = none ↔ ∀ i w, s.Holds i w → sentAt < w.deadline := by
  rw [oldestExpired, Option.map_eq_none_iff, List.argmin_eq_none, List.eq_nil_iff_forall_not_mem]
  constructor
  · intro h i w hw
    by_contra hlate
    exact h (w.deadline, i) (mem_expiredAt.mpr ⟨w, hw, rfl, not_lt.mp hlate⟩)
  · rintro h ⟨deadline, i⟩ hmem
    obtain ⟨w, hw, -, hexpired⟩ := mem_expiredAt.mp hmem
    exact absurd (h i w hw) (not_lt.mpr hexpired)

end slots

/-! ## What an operation does -/

section operations

variable {s : TimedWindows N} {i j : ℕ} {w v : TimedWindow} {t : Transaction} {sentAt now : Instant}
  {timeoutMs : UInt16}

lemma holds_put_some : (s.put i (some v)).Holds j w ↔ (i = j ∧ i < N ∧ v = w) ∨ (i ≠ j ∧ s.Holds j w) := by
  rw [Holds, put, Vector.getElem?_setIfInBounds]
  by_cases hij : i = j
  · subst hij
    by_cases hi : i < N
    · simp [hi]
    · simp [hi]
  · simp [hij, Holds]

lemma holds_put_none : (s.put i none).Holds j w ↔ i ≠ j ∧ s.Holds j w := by
  rw [Holds, put, Vector.getElem?_setIfInBounds]
  by_cases hij : i = j
  · subst hij
    by_cases hi : i < N
    · simp [hi]
    · simp [hi]
  · simp [hij, Holds]

lemma holds_keep {p : TimedWindow → Bool} : (s.keep p).Holds i w ↔ s.Holds i w ∧ p w = true := by
  rw [Holds, keep, Vector.getElem?_map, Option.map_eq_some_iff]
  constructor
  · rintro ⟨slot, hslot, hfilter⟩
    obtain ⟨rfl, hp⟩ := Option.filter_eq_some_iff.mp hfilter
    exact ⟨hslot, hp⟩
  · rintro ⟨hw, hp⟩
    exact ⟨some w, hw, Option.filter_eq_some_iff.mpr ⟨rfl, hp⟩⟩

lemma distinct_put_none (hs : s.Distinct) (i : ℕ) : (s.put i none).Distinct := by
  intro j k w v hw hv ht
  exact hs j k w v (holds_put_none.mp hw).2 (holds_put_none.mp hv).2 ht

lemma distinct_keep (hs : s.Distinct) (p : TimedWindow → Bool) : (s.keep p).Distinct := by
  intro j k w v hw hv ht
  exact hs j k w v (holds_keep.mp hw).1 (holds_keep.mp hv).1 ht

/-- A window may be put where its transaction has none elsewhere. -/
lemma distinct_put_some (hs : s.Distinct)
    (hnew : ∀ j w, s.Holds j w → w.transaction = v.transaction → j = i) : (s.put i (some v)).Distinct := by
  intro j k w u hw hu ht
  rcases holds_put_some.mp hw with ⟨rfl, -, rfl⟩ | ⟨hj, hw⟩
  · rcases holds_put_some.mp hu with ⟨rfl, -, -⟩ | ⟨hk, hu⟩
    · rfl
    · exact (hnew k u hu ht.symm).symm
  · rcases holds_put_some.mp hu with ⟨rfl, -, rfl⟩ | ⟨hk, hu⟩
    · exact hnew j w hw ht
    · exact hs j k w u hw hu ht

/-- The window that `open` would make. -/
def opened (t : Transaction) (timeoutMs : UInt16) (sentAt : Instant) : TimedWindow :=
  ⟨t.1, t.2, sentAt.saturatingAdd (.fromMillis timeoutMs.toUInt64)⟩

/-- The slot a window is put into is its own, a free one, or that of the window that expired first. -/
inductive Opens (s : TimedWindows N) (t : Transaction) (sentAt : Instant) (i : ℕ) : Prop
  | replaces (h : s.ownSlot t = some i)
  | fills (hown : s.ownSlot t = none) (h : s.freeSlot = some i)
  | evicts (hown : s.ownSlot t = none) (hfree : s.freeSlot = none)
      (h : s.oldestExpired sentAt = some i)

lemma opens_of_slotToOpen (h : s.slotToOpen t sentAt = some i) : Opens s t sentAt i := by
  rw [slotToOpen] at h
  cases hown : s.ownSlot t with
  | some j =>
    rw [hown] at h
    obtain rfl : j = i := Option.some.inj h
    exact .replaces hown
  | none =>
    rw [hown, Option.none_or] at h
    cases hfree : s.freeSlot with
    | some j =>
      rw [hfree] at h
      obtain rfl : j = i := Option.some.inj h
      exact .fills hown hfree
    | none =>
      rw [hfree, Option.none_or] at h
      exact .evicts hown hfree h

/-- Wherever it goes, the new window is the only one of its transaction. -/
lemma Opens.new (h : Opens s t sentAt i) (hs : s.Distinct) {j : ℕ} {w : TimedWindow} (hw : s.Holds j w)
    (ht : w.transaction = t) : j = i := by
  have hown := ownSlot_of_holds hs hw
  rw [ht] at hown
  cases h with
  | replaces h => exact Option.some.inj (hown.symm.trans h)
  | fills hnone h | evicts hnone hfree h => exact absurd (hown.symm.trans hnone) (by simp)

/-- What `open` does, if it opens, and if it does not. -/
lemma open_cases (s : TimedWindows N) (t : Transaction) (timeoutMs : UInt16) (sentAt : Instant) :
    (∃ i, Opens s t sentAt i ∧
      s.open t timeoutMs sentAt = (.ok (), s.put i (some (opened t timeoutMs sentAt)))) ∨
    (s.ownSlot t = none ∧ s.open t timeoutMs sentAt = (.error .noSpace, s)) := by
  rw [«open»]
  cases h : s.slotToOpen t sentAt with
  | some i => exact .inl ⟨i, opens_of_slotToOpen h, rfl⟩
  | none =>
    rw [slotToOpen, Option.or_eq_none_iff] at h
    exact .inr ⟨h.1, rfl⟩

/-- What `close` does: nothing, or it empties one slot. -/
lemma close_cases (s : TimedWindows N) (t : Transaction) :
    (s.ownSlot t = none ∧ s.close t = s) ∨ ∃ i, s.ownSlot t = some i ∧ s.close t = s.put i none := by
  rw [close, ownSlot]
  cases s.slotFor t.1 t.2 with
  | none => exact .inl ⟨rfl, rfl⟩
  | some entry => exact .inr ⟨entry.1, rfl, rfl⟩

lemma distinct_close (hs : s.Distinct) (t : Transaction) : (s.close t).Distinct := by
  rcases s.close_cases t with ⟨-, hclose⟩ | ⟨i, -, hclose⟩
  · rwa [hclose]
  · rw [hclose]
    exact distinct_put_none hs i

/-- The window of the transaction is gone, and the others have been there before. -/
lemma holds_of_close (hs : s.Distinct) (h : (s.close t).Holds i w) : s.Holds i w ∧ t ≠ w.transaction := by
  rcases s.close_cases t with ⟨hnone, hclose⟩ | ⟨j, hslot, hclose⟩
  · rw [hclose] at h
    exact ⟨h, (ownSlot_eq_none_iff.mp hnone i w h).symm⟩
  · rw [hclose] at h
    obtain ⟨hne, hw⟩ := holds_put_none.mp h
    obtain ⟨v, hv, hvt⟩ := holds_of_ownSlot hslot
    exact ⟨hw, fun ht => hne (hs j i v w hv hw (hvt.trans ht))⟩

/-- Whatever `check` answers, it leaves what `close` leaves. -/
lemma check_snd (s : TimedWindows N) (t : Transaction) (timedRequest : Bool) (now : Instant) :
    (s.check t.1 t.2 timedRequest now).2 = s.close t := by
  rw [check, close]
  cases s.slotFor t.1 t.2 with
  | none => rfl
  | some entry =>
    by_cases hlate : entry.2.deadline < now
    · simp [hlate, put]
    · cases timedRequest with
      | true => simp [hlate, put]
      | false => simp [hlate, put]

/-- What `check` does: the window that is there is used up. -/
lemma check_of_holds (hs : s.Distinct) (hw : s.Holds i w) (timedRequest : Bool) (now : Instant) :
    s.check w.transaction.1 w.transaction.2 timedRequest now =
      (if w.deadline < now then .error .timeout
        else if timedRequest then .ok true else .error .timedRequestMismatch, s.put i none) := by
  rw [check, slotFor_of_holds hs hw]
  by_cases hlate : w.deadline < now
  · rw [if_pos hlate]
    simp [hlate, put]
  · cases timedRequest with
    | true => simp [hlate, put]
    | false => simp [hlate, put]

lemma check_of_none (h : s.ownSlot t = none) (timedRequest : Bool) (now : Instant) :
    s.check t.1 t.2 timedRequest now =
      (if timedRequest then .error .timedRequestMismatch else .ok false, s) := by
  rw [check, Option.map_eq_none_iff.mp h]

/-- A request is admitted as timed exactly when its transaction has a window that is not over. -/
lemma check_eq_ok_true_iff (hs : s.Distinct) {timedRequest : Bool} :
    (s.check t.1 t.2 timedRequest now).1 = .ok true ↔
      timedRequest = true ∧ ∃ i w, s.Holds i w ∧ w.transaction = t ∧ now ≤ w.deadline := by
  cases h : s.ownSlot t with
  | none =>
    rw [check_of_none h]
    refine iff_of_false ?_ ?_
    · cases timedRequest with
      | true => simp
      | false => simp
    · rintro ⟨-, i, w, hw, ht, -⟩
      exact ownSlot_eq_none_iff.mp h i w hw ht
  | some i =>
    obtain ⟨w, hw, rfl⟩ := holds_of_ownSlot h
    have hunique : ∀ j v, s.Holds j v → v.transaction = w.transaction → v = w := by
      intro j v hv ht
      obtain rfl := hs j i v w hv hw ht
      exact Option.some.inj (Option.some.inj (hv.symm.trans hw))
    rw [check_of_holds hs hw]
    by_cases hlate : w.deadline < now
    · rw [if_pos hlate]
      refine iff_of_false (by simp) ?_
      rintro ⟨-, j, v, hv, ht, hintime⟩
      rw [hunique j v hv ht] at hintime
      exact absurd hlate (not_lt.mpr hintime)
    · rw [if_neg hlate]
      cases timedRequest with
      | true => exact iff_of_true rfl ⟨rfl, i, w, hw, rfl, not_lt.mp hlate⟩
      | false => simp

end operations

/-! ## Runs -/

/-- A call of the table. -/
inductive Op
  | «open» (t : Transaction) (timeoutMs : UInt16) (sentAt : Instant)
  | check (t : Transaction) (timedRequest : Bool) (now : Instant)
  | close (t : Transaction)
  | closeSession (session : Option SessionId)
  | reap (now : Instant)

/-- One call. -/
def step (s : TimedWindows N) : Op → TimedWindows N
  | .open t timeoutMs sentAt => (s.open t timeoutMs sentAt).2
  | .check t timedRequest now => (s.check t.1 t.2 timedRequest now).2
  | .close t => s.close t
  | .closeSession session => s.closeSession session
  | .reap now => (s.reap now).2

/-- A run from an empty table. -/
def run (N : ℕ) (ops : List Op) : TimedWindows N := ops.foldl step new

/-- The call is about this transaction: it opens, checks or closes its window, or closes its session. -/
def Op.Concerns (t : Transaction) : Op → Prop
  | .open u _ _ | .check u _ _ | .close u => u = t
  | .closeSession session => session = t.1
  | .reap _ => False

/-- A request on this transaction that is marked as timed would be admitted. -/
def Admits (s : TimedWindows N) (t : Transaction) (now : Instant) : Prop :=
  (s.check t.1 t.2 true now).1 = .ok true

instance (s : TimedWindows N) (t : Transaction) (now : Instant) : Decidable (s.Admits t now) :=
  inferInstanceAs (Decidable (_ = _))

/-- A window that is opened takes none from another transaction that a request could still come in. -/
def EvictsNone (s : TimedWindows N) : Op → Prop
  | .open u timeoutMs sentAt =>
    ∀ t, t ≠ u → s.Admits t sentAt → (s.open u timeoutMs sentAt).2.Admits t sentAt
  | _ => True

/-- A window is opened where its transaction has one, or where a slot is free, or some window's deadline
is before this instant, or no window's deadline is this instant. -/
def spares (s : TimedWindows N) : Op → Bool
  | .open t _ sentAt =>
    (s.ownSlot t).isSome || s.freeSlot.isSome ||
      s.windows.toList.any (fun slot => slot.any fun w => decide (w.deadline < sentAt)) ||
        !s.windows.toList.any fun slot => slot.any fun w => decide (w.deadline = sentAt)
  | _ => true

section steps

variable {s : TimedWindows N} {i : ℕ} {w : TimedWindow}

/-- A window that is there after a call was there before it, and the call was not about its transaction;
or it has just been opened. -/
lemma holds_step (hs : s.Distinct) {op : Op} (h : (s.step op).Holds i w) :
    (s.Holds i w ∧ ¬ op.Concerns w.transaction) ∨ ∃ t timeoutMs sentAt, op = .open t timeoutMs sentAt ∧
        (s.open t timeoutMs sentAt).1 = .ok () ∧ w = opened t timeoutMs sentAt := by
  cases op with
  | «open» t timeoutMs sentAt =>
    rcases s.open_cases t timeoutMs sentAt with ⟨j, hopens, hopen⟩ | ⟨hnone, hopen⟩
    · rw [step, hopen] at h
      rcases holds_put_some.mp h with ⟨rfl, -, rfl⟩ | ⟨hne, hw⟩
      · exact .inr ⟨t, timeoutMs, sentAt, rfl, by rw [hopen], rfl⟩
      · refine .inl ⟨hw, fun ht => hne ?_⟩
        exact (hopens.new hs hw ht.symm).symm
    · rw [step, hopen] at h
      exact .inl ⟨h, fun ht => ownSlot_eq_none_iff.mp hnone i w h ht.symm⟩
  | check t timedRequest now =>
    rw [step, check_snd] at h
    exact .inl (holds_of_close hs h)
  | close t => exact .inl (holds_of_close hs h)
  | closeSession session =>
    obtain ⟨hw, hsession⟩ := holds_keep.mp h
    exact .inl ⟨hw, fun ht => of_decide_eq_true hsession ht.symm⟩
  | reap now => exact .inl ⟨(holds_keep.mp h).1, id⟩

lemma distinct_step (hs : s.Distinct) (op : Op) : (s.step op).Distinct := by
  cases op with
  | «open» t timeoutMs sentAt =>
    rcases s.open_cases t timeoutMs sentAt with ⟨j, hopens, hopen⟩ | ⟨hnone, hopen⟩
    · rw [step, hopen]
      exact distinct_put_some hs fun k v hv ht => hopens.new hs hv ht
    · rw [step, hopen]
      exact hs
  | check t timedRequest now =>
    rw [step, check_snd]
    exact distinct_close hs t
  | close t => exact distinct_close hs t
  | closeSession session | reap now => exact distinct_keep hs _

lemma not_holds_new : ¬ (new : TimedWindows N).Holds i w := by
  rw [Holds, new, Vector.getElem?_replicate]
  by_cases hi : i < N
  · simp [hi]
  · simp [hi]

lemma distinct_new : (new : TimedWindows N).Distinct := by
  intro i j w v hw hv ht
  exact absurd hw not_holds_new

lemma distinct_run (N : ℕ) (ops : List Op) : (run N ops).Distinct :=
  foldl_invariant (W := fun _ => True) (I := Distinct) (fun _ op _ hs => distinct_step hs op)
    (fun _ _ => trivial) distinct_new

/-- The windows that stay where they are can still be come in. -/
lemma admits_put_some {v : TimedWindow} {t : Transaction} {now : Instant}
    (hs : (s.put i (some v)).Distinct) {j : ℕ} (hne : i ≠ j) (hw : s.Holds j w)
    (ht : w.transaction = t) (hintime : now ≤ w.deadline) : (s.put i (some v)).Admits t now :=
  (check_eq_ok_true_iff hs).mpr ⟨rfl, j, w, holds_put_some.mpr (.inr ⟨hne, hw⟩), ht, hintime⟩

lemma any_holds {p : TimedWindow → Bool} :
    (s.windows.toList.any fun slot => slot.any p) = true ↔ ∃ i w, s.Holds i w ∧ p w = true := by
  rw [List.any_eq_true]
  constructor
  · rintro ⟨slot, hslot, hany⟩
    obtain ⟨i, hi⟩ := List.mem_iff_getElem?.mp hslot
    obtain ⟨w, rfl, hp⟩ := (Option.any_eq_true _ _).mp hany
    exact ⟨i, w, holds_iff_toList.mpr hi, hp⟩
  · rintro ⟨i, w, hw, hp⟩
    exact ⟨some w, List.mem_of_getElem? (holds_iff_toList.mp hw), hp⟩

/-- The window that is given up could still be come in exactly when its deadline is this instant. -/
lemma spares_iff_evictsNone (hs : s.Distinct) (op : Op) : s.spares op = true ↔ s.EvictsNone op := by
  cases op with
  | «open» u timeoutMs sentAt =>
    rw [EvictsNone]
    have hs' := distinct_step hs (.open u timeoutMs sentAt)
    rw [step] at hs'
    rcases s.open_cases u timeoutMs sentAt with ⟨i, hopens, hopen⟩ | ⟨hnone, hopen⟩
    · rw [hopen] at hs' ⊢
      -- All windows but the one in the slot that is opened stay.
      have hstay : ∀ t, t ≠ u → s.Admits t sentAt →
          (∃ w, s.Holds i w ∧ w.transaction = t ∧ sentAt ≤ w.deadline) ∨
            (s.put i (some (opened u timeoutMs sentAt))).Admits t sentAt := by
        intro t _ hadmits
        obtain ⟨-, j, w, hw, hwt, hintime⟩ := (check_eq_ok_true_iff hs).mp hadmits
        by_cases hij : i = j
        · exact .inl ⟨w, hij ▸ hw, hwt, hintime⟩
        · exact .inr (admits_put_some hs' hij hw hwt hintime)
      cases hopens with
      | replaces h =>
        obtain ⟨v, hv, hvt⟩ := holds_of_ownSlot h
        refine iff_of_true (by simp [spares, h]) ?_
        intro t ht hadmits
        rcases hstay t ht hadmits with ⟨w, hw, hwt, -⟩ | hafter
        · obtain rfl : v = w := Option.some.inj (Option.some.inj (hv.symm.trans hw))
          exact absurd (hwt.symm.trans hvt) ht
        · exact hafter
      | fills hown h =>
        refine iff_of_true (by simp [spares, h]) ?_
        intro t ht hadmits
        rcases hstay t ht hadmits with ⟨w, hw, -⟩ | hafter
        · exact absurd hw (not_holds_of_freeSlot h)
        · exact hafter
      | evicts hown hfree h =>
        obtain ⟨v, hv, hexpired, holdest⟩ := holds_of_oldestExpired h
        have hvt : v.transaction ≠ u := ownSlot_eq_none_iff.mp hown i v hv
        rw [spares, hown, hfree, Option.isSome_none, Bool.or_self, Bool.false_or, Bool.or_eq_true,
          Bool.not_eq_true', ← Bool.not_eq_true, any_holds, any_holds]
        by_cases hlate : v.deadline < sentAt
        · refine iff_of_true (.inl ⟨i, v, hv, decide_eq_true hlate⟩) ?_
          intro t ht hadmits
          rcases hstay t ht hadmits with ⟨w, hw, -, hintime⟩ | hafter
          · obtain rfl : v = w := Option.some.inj (Option.some.inj (hv.symm.trans hw))
            exact absurd hlate (not_lt.mpr hintime)
          · exact hafter
        · have hnow : v.deadline = sentAt := le_antisymm hexpired (not_lt.mp hlate)
          refine iff_of_false ?_ ?_
          · rintro (⟨j, w, hw, hbefore⟩ | hnever)
            · exact hlate ((holdest j w hw).trans_lt (of_decide_eq_true hbefore))
            · exact hnever ⟨i, v, hv, decide_eq_true hnow⟩
          · intro hevicts
            have hadmits : s.Admits v.transaction sentAt :=
              (check_eq_ok_true_iff hs).mpr ⟨rfl, i, v, hv, rfl, hnow.ge⟩
            obtain ⟨-, j, w, hw, hwt, -⟩ :=
              (check_eq_ok_true_iff hs').mp (hevicts v.transaction hvt hadmits)
            rcases holds_put_some.mp hw with ⟨-, -, rfl⟩ | ⟨hne, hw⟩
            · exact hvt hwt.symm
            · exact hne (hs i j v w hv hw hwt.symm)
    · rw [hopen]
      refine iff_of_true ?_ fun t _ hadmits => hadmits
      rw [«open»] at hopen
      have hslot : s.slotToOpen u sentAt = none := by
        cases hslot : s.slotToOpen u sentAt with
        | none => rfl
        | some i =>
          rw [hslot] at hopen
          cases (Prod.mk.inj hopen).1
      rw [slotToOpen, Option.or_eq_none_iff, Option.or_eq_none_iff] at hslot
      have hlive := oldestExpired_eq_none_iff.mp hslot.2.2
      have hnever : (s.windows.toList.any fun slot => slot.any fun w => decide (w.deadline = sentAt)) = false := by
        rw [← Bool.not_eq_true, any_holds]
        rintro ⟨i, w, hw, hnow⟩
        exact absurd (of_decide_eq_true hnow) (hlive i w hw).ne'
      rw [spares, hnever, Bool.not_false, Bool.or_true]
  | check t timedRequest now | close t | closeSession session | reap now => exact iff_of_true rfl trivial

end steps

/-- A window with this deadline comes from an open on this transaction that succeeded, and nothing has
been about the transaction since. -/
def Granted (N : ℕ) (ops : List Op) (t : Transaction) (deadline : Instant) : Prop :=
  ∃ before timeoutMs sentAt after, ops = before ++ .open t timeoutMs sentAt :: after ∧
    ((run N before).open t timeoutMs sentAt).1 = .ok () ∧ (∀ op ∈ after, ¬ op.Concerns t) ∧
    deadline = sentAt.saturatingAdd (.fromMillis timeoutMs.toUInt64)

lemma run_append_singleton (N : ℕ) (ops : List Op) (op : Op) :
    run N (ops ++ [op]) = (run N ops).step op := List.foldl_concat ..

/-- Every window of a run has been granted. -/
lemma granted_of_holds (N : ℕ) (ops : List Op) {i : ℕ} {w : TimedWindow} (h : (run N ops).Holds i w) :
    Granted N ops w.transaction w.deadline := by
  induction ops using List.reverseRecOn generalizing i w with
  | nil => exact absurd h not_holds_new
  | append_singleton ops op ih =>
    rw [run_append_singleton] at h
    rcases holds_step (distinct_run N ops) h with ⟨hw, hother⟩ | ⟨t, timeoutMs, sentAt, rfl, hok, rfl⟩
    · obtain ⟨before, timeoutMs, sentAt, after, rfl, hok, hafter, hdeadline⟩ := ih hw
      refine ⟨before, timeoutMs, sentAt, after ++ [op], ?_, hok, ?_, hdeadline⟩
      · rw [List.append_assoc, List.cons_append]
      · intro op' hop'
        rcases List.mem_append.mp hop' with hop' | hop'
        · exact hafter op' hop'
        · rwa [List.mem_singleton.mp hop']
    · exact ⟨ops, timeoutMs, sentAt, [], rfl, hok, by simp, rfl⟩

/-- A deadline is not later than the timeout says. -/
lemma toNat_deadline_le (sentAt : Instant) (timeoutMs : UInt16) :
    (sentAt.saturatingAdd (.fromMillis timeoutMs.toUInt64)).micros.toNat ≤
      sentAt.micros.toNat + timeoutMs.toNat * 1000 := by
  rw [Instant.toNat_saturatingAdd, Duration.fromMillis, toNat_satMul, UInt16.toNat_toUInt64]
  have hmillis : (1000 : UInt64).toNat = 1000 := rfl
  rw [hmillis]
  omega

/-- In every run, a request is admitted as timed only if an open on its transaction succeeded, nothing
has been about that transaction since, and the timeout has not passed. And an open takes no window that
a request could still come in exactly where there is a slot, or a window that is over, or none with that
very instant as its deadline. -/
theorem admits_one_request (N : ℕ) (ops : List Op) :
    (∀ t timedRequest now, ((run N ops).check t.1 t.2 timedRequest now).1 = .ok true →
      ∃ before timeoutMs sentAt after, ops = before ++ .open t timeoutMs sentAt :: after ∧
        ((run N before).open t timeoutMs sentAt).1 = .ok () ∧ (∀ op ∈ after, ¬ op.Concerns t) ∧
        now.micros.toNat ≤ sentAt.micros.toNat + timeoutMs.toNat * 1000) ∧
    (Throughout step (fun s op => s.spares op = true) (new : TimedWindows N) ops ↔
      Throughout step EvictsNone (new : TimedWindows N) ops) := by
  refine ⟨?_, ?_⟩
  · intro t timedRequest now hadmitted
    obtain ⟨-, i, w, hw, rfl, hintime⟩ := (check_eq_ok_true_iff (distinct_run N ops)).mp hadmitted
    obtain ⟨before, timeoutMs, sentAt, after, hops, hok, hafter, hdeadline⟩ := granted_of_holds N ops hw
    refine ⟨before, timeoutMs, sentAt, after, hops, hok, hafter, ?_⟩
    rw [hdeadline] at hintime
    exact (Instant.le_def.mp hintime).trans (toNat_deadline_le sentAt timeoutMs)
  · exact Throughout.congr (I := Distinct) (fun s op hs => spares_iff_evictsNone hs op)
      (fun s op hs => distinct_step hs op) distinct_new

/-- A window of 100 ms is opened at 0, and at 100 ms another one, with one slot for both. -/
def atTheDeadline : List Op :=
  [.open (none, ⟨1⟩) 100 ⟨0⟩, .open (none, ⟨2⟩) 100 ⟨100000⟩]

/-- At its deadline the first window would still admit a request, and is given up. -/
theorem evicts_atTheDeadline :
    ((run 1 (atTheDeadline.take 1)).check none ⟨1⟩ true ⟨100000⟩).1 = .ok true ∧
      ((run 1 atTheDeadline).check none ⟨1⟩ true ⟨100000⟩).1 = .error .timedRequestMismatch ∧
      ¬ Throughout step EvictsNone (new : TimedWindows 1) atTheDeadline := by
  refine ⟨by decide +kernel, by decide +kernel, ?_⟩
  intro h
  have hadmits := h.2.1 (none, ⟨1⟩) (by decide +kernel) (by decide +kernel)
  revert hadmits
  decide +kernel

end TimedWindows

end MatterKit.Im
