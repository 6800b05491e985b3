import Mathlib.Data.List.NodupEquivFin
import MatterKit.Discovery.Schedule

/-!
# A storm of conflicts

Fifteen conflicts within ten seconds mean that something is wrong, and the next probe is to wait for
five seconds. The rule is about every ten seconds there are, whereas a schedule keeps the start of one
window and a count: it starts a new one once ten seconds are over, and forgets with it what the last one
held. And it holds probes back where it begins to probe, but not where it defers to a host that has won
a tiebreak.

A run in which no such conflict falls on a window with fewer than fourteen others, no window is
restarted within five seconds of one, and no tiebreak is lost within four, sends no probe too early
(`storm_is_throttled`).
-/

namespace MatterKit.Discovery

open Lib

/-! ## Runs that count conflicts -/

/-- The time an operation is called with. -/
def Op.now : Op → Instant
  | .start now _ | .updated now | .onConflict now _ | .onTiebreakLoss now | .renamed now _ | .stop now
  | .poll now => now

/-- One operation. -/
def Schedule.apply (s : Schedule) : Op → Schedule
  | .start now randomness => s.start now randomness
  | .updated now => s.updated now
  | .onConflict now randomness => s.onConflict now randomness
  | .onTiebreakLoss now => s.onTiebreakLoss now
  | .renamed now randomness => s.renamed now randomness
  | .stop now => s.stop now
  | .poll now => (s.poll now).2

/-- The second instant comes less than ten seconds after the first. -/
def InWindow (first last : Instant) : Prop :=
  last.micros.toNat < first.micros.toNat + conflictWindow.micros.toNat

/-- The second instant comes at least five seconds after the first. -/
def BacksOff (last now : Instant) : Prop :=
  last.micros.toNat + conflictBackoff.micros.toNat ≤ now.micros.toNat

lemma BacksOff.mono {last t now : Instant} (h : BacksOff last t) (hle : t ≤ now) : BacksOff last now :=
  Nat.le_trans h hle

instance (first last : Instant) : Decidable (InWindow first last) := inferInstanceAs (Decidable (_ < _))

instance (last now : Instant) : Decidable (BacksOff last now) := inferInstanceAs (Decidable (_ ≤ _))

/-- A conflict is the fifteenth within less than ten seconds; the others are listed from the latest on. -/
def IsFifteenth (conflicts : List Instant) (now : Instant) : Prop := ∃ first ∈ conflicts[13]?, InWindow first now

instance (conflicts : List Instant) (now : Instant) : Decidable (IsFifteenth conflicts now) := by
  unfold IsFifteenth
  infer_instance

/-- A schedule, the time of the last operation, the conflicts from the latest on, and the last conflict that was
the fifteenth within less than ten seconds. -/
structure Storm where
  schedule : Schedule
  clock : Instant
  conflicts : List Instant
  burst : Option Instant

namespace Storm

/-- Before the first operation. -/
def begin (announcements : UInt8) : Storm where
  schedule := Schedule.new.withAnnouncements announcements
  clock := ⟨0⟩
  conflicts := []
  burst := none

/-- One operation. -/
def record (h : Storm) (op : Op) : Storm :=
  match op with
  | .onConflict now _ =>
    { schedule := h.schedule.apply op
      clock := now
      conflicts := now :: h.conflicts
      burst := if IsFifteenth h.conflicts now then some now else h.burst }
  | _ => { h with schedule := h.schedule.apply op, clock := op.now }

end Storm

/-- The time does not run backwards. -/
def InOrder (h : Storm) (op : Op) : Prop := h.clock ≤ op.now

/-- A probe comes five seconds after the last of any fifteen conflicts within less than ten. -/
def SparesStorm (h : Storm) : Op → Prop
  | .poll now => (h.schedule.poll now).1 = some .probe → ∀ last between first,
      (last :: between ++ [first]).Sublist h.conflicts → between.length = 13 → InWindow first last → BacksOff last now
  | _ => True

/-- A conflict starts a new window. -/
def Schedule.Restarts (s : Schedule) (now : Instant) : Prop :=
  s.conflicts = 0 ∨ conflictWindow ≤ now.saturatingDurationSince s.window

instance (s : Schedule) (now : Instant) : Decidable (s.Restarts now) := inferInstanceAs (Decidable (_ ∨ _))

/-- What the schedule can notice and does not forget: a fifteenth conflict comes in the window of the fourteen
before it, and five seconds before the end of the clock; a new window starts five seconds after a fifteenth
conflict, and a tiebreak is lost four seconds after it. -/
def Noticed (h : Storm) : Op → Prop
  | .onConflict now _ =>
    (IsFifteenth h.conflicts now → ¬ h.schedule.Restarts now ∧ 14 ≤ h.schedule.conflicts ∧
      now.micros.toNat + conflictBackoff.micros.toNat < 2 ^ 64) ∧
    (h.schedule.Restarts now → ∀ last ∈ h.burst, BacksOff last now)
  | .onTiebreakLoss now => h.schedule.phase = .probing → ∀ last ∈ h.burst,
      last.micros.toNat + conflictBackoff.micros.toNat ≤ now.micros.toNat + tiebreakDefer.micros.toNat
  | _ => True

instance (h : Storm) (op : Op) : Decidable (InOrder h op) := inferInstanceAs (Decidable (_ ≤ _))

instance (h : Storm) : (op : Op) → Decidable (Noticed h op)
  | .onConflict .. => instDecidableAnd
  | .onTiebreakLoss _ => instDecidableForall
  | .start .. | .updated _ | .renamed .. | .stop _ | .poll _ => .isTrue trivial

/-! ## The last burst -/

/-- The conflicts are in order, and the last of any fifteen within less than ten seconds is no later than the
burst. -/
structure Counts (h : Storm) : Prop where
  sorted : h.conflicts.Pairwise fun a b => b ≤ a
  past : ∀ t ∈ h.conflicts, t ≤ h.clock
  burst : ∀ last between first, (last :: between ++ [first]).Sublist h.conflicts → between.length = 13 →
    InWindow first last → ∃ t ∈ h.burst, last ≤ t

/-- No fourteen of the conflicts end later than the last fourteen. -/
lemma le_of_sublist {conflicts l : List Instant} (hsorted : conflicts.Pairwise fun a b => b ≤ a)
    (hl : l.Sublist conflicts) {k : ℕ} {first : Instant} (hfirst : l[k]? = some first) :
    ∃ t ∈ conflicts[k]?, first ≤ t := by
  obtain ⟨f, hf⟩ := List.sublist_iff_exists_orderEmbedding_getElem?_eq.mp hl
  have hle : k ≤ f k := f.strictMono.le_apply
  have hlater : conflicts[f k]? = some first := (hf k).symm.trans hfirst
  rcases hle.eq_or_lt with heq | hlt
  · exact ⟨first, (congrArg (conflicts[·]?) heq).trans hlater, le_rfl⟩
  · obtain ⟨hbound, hget⟩ := List.getElem?_eq_some_iff.mp hlater
    refine ⟨conflicts[k], List.getElem?_eq_getElem (hlt.trans hbound), ?_⟩
    exact hget ▸ List.pairwise_iff_getElem.mp hsorted k (f k) _ hbound hlt

namespace Counts

variable {h : Storm}

lemma begin (announcements : UInt8) : Counts (Storm.begin announcements) where
  sorted := .nil
  past := by simp [Storm.begin]
  burst last between first hsub := absurd (List.sublist_nil.mp hsub) (List.cons_ne_nil _ _)

lemma record (hs : Counts h) {op : Op} (horder : InOrder h op) : Counts (h.record op) := by
  have hkept : Counts { h with schedule := h.schedule.apply op, clock := op.now } :=
    ⟨hs.sorted, fun t ht => (hs.past t ht).trans horder, hs.burst⟩
  cases op with
  | onConflict now randomness =>
    refine ⟨List.pairwise_cons.mpr ⟨fun t ht => (hs.past t ht).trans horder, hs.sorted⟩, ?_, ?_⟩
    · exact List.forall_mem_cons.mpr ⟨le_rfl, hkept.past⟩
    · intro last between first hsub hlength hwindow
      show ∃ t ∈ (if IsFifteenth h.conflicts now then some now else h.burst), last ≤ t
      rcases List.sublist_cons_iff.mp hsub with hold | ⟨rest, hrest, hsub'⟩
      · obtain ⟨t, ht, hle⟩ := hs.burst last between first hold hlength hwindow
        split_ifs
        · exact ⟨now, rfl, (hs.past last (hold.subset (by simp))).trans horder⟩
        · exact ⟨t, ht, hle⟩
      · obtain ⟨rfl, rfl⟩ := List.cons.inj hrest
        have hget : (between ++ [first])[13]? = some first := by
          rw [List.getElem?_append_right hlength.le, hlength]
          rfl
        obtain ⟨t, ht, hle⟩ := le_of_sublist hs.sorted hsub' hget
        have hle' : first.micros.toNat ≤ t.micros.toNat := hle
        have hfifteenth : IsFifteenth h.conflicts last := by
          refine ⟨t, ht, ?_⟩
          unfold InWindow at hwindow ⊢
          omega
        exact ⟨last, by rw [if_pos hfifteenth]; rfl, le_rfl⟩
  | _ => exact hkept

end Counts

/-! ## Holding back -/

/-- After a burst, either probes are held back or five seconds are over, and no probe is due before that. -/
structure Holding (h : Storm) : Prop where
  fits : ∀ last ∈ h.burst, last ≤ h.clock ∧
    last.micros.toNat + conflictBackoff.micros.toNat < 2 ^ 64
  throttled : ∀ last ∈ h.burst, h.schedule.throttled = true ∨ BacksOff last h.clock
  due : h.schedule.phase = .probing → ∀ last ∈ h.burst, BacksOff last h.schedule.due

/-- Probing that begins while probes are held back, or five seconds after a burst, is not too early. -/
lemma backsOff_start {s : Schedule} {last now : Instant} (hle : last ≤ now)
    (hfits : last.micros.toNat + conflictBackoff.micros.toNat < 2 ^ 64)
    (h : s.throttled = true ∨ BacksOff last now) (randomness : UInt32) :
    BacksOff last (s.start now randomness).due := by
  have hle' : last.micros.toNat ≤ now.micros.toNat := hle
  have hdelay : s.throttled = true →
      conflictBackoff.micros.toNat ≤ (s.firstProbeDelay randomness).micros.toNat := by
    intro hthrottled
    rw [Schedule.firstProbeDelay, if_pos hthrottled]
    show _ ≤ (satAdd _ _).toNat
    have hbound := conflictBackoff.micros.toNat_lt
    rw [toNat_satAdd]
    omega
  have hdue : (s.start now randomness).due.micros.toNat = _ := Instant.toNat_saturatingAdd _ _
  unfold BacksOff at h ⊢
  rcases h with hthrottled | hpast
  · have := hdelay hthrottled
    omega
  · have := (s.start now randomness).due.micros.toNat_lt
    omega

lemma throttled_announce (s : Schedule) (now : Instant) : (s.announce now).2.throttled = s.throttled := by
  unfold Schedule.announce
  dsimp only
  split_ifs <;> rfl

lemma throttled_poll (s : Schedule) (now : Instant) : (s.poll now).2.throttled = s.throttled := by
  unfold Schedule.poll
  split
  · rfl
  · split
    · split
      · exact throttled_announce _ now
      · cases s
        rfl
    · exact throttled_announce s now
    all_goals rfl

/-- A noted conflict ends probing, or begins it, or leaves the phase as it is. -/
lemma onConflict_cases (s : Schedule) (now : Instant) (randomness : UInt32) :
    (s.onConflict now randomness).throttled = (s.noteConflict now).throttled ∧
      ((s.onConflict now randomness).phase = .probing →
        s.onConflict now randomness = (s.noteConflict now).start now randomness) := by
  unfold Schedule.onConflict
  dsimp only
  split
  · exact ⟨rfl, fun h => absurd h (by simp)⟩
  · exact ⟨rfl, fun _ => rfl⟩
  · exact ⟨rfl, fun _ => rfl⟩
  all_goals
    rename_i hphase
    exact ⟨rfl, fun h => absurd (hphase.symm.trans h) (by simp)⟩

namespace Holding

variable {h : Storm}

lemma begin (announcements : UInt8) : Holding (Storm.begin announcements) :=
  ⟨by simp [Storm.begin], by simp [Storm.begin], by simp [Storm.begin]⟩

/-- The window goes on, or it starts anew and is short of a burst. -/
lemma throttled_noteConflict (s : Schedule) (now : Instant) :
    (s.Restarts now → (s.noteConflict now).throttled = false) ∧
      (¬ s.Restarts now → (s.throttled = true ∨ 14 ≤ s.conflicts → (s.noteConflict now).throttled = true)) := by
  refine ⟨fun hrestarts => ?_, fun hgoes h => ?_⟩
  · unfold Schedule.noteConflict
    rw [if_pos (show s.conflicts = 0 ∨ _ from hrestarts)]
    rfl
  · unfold Schedule.noteConflict
    rw [if_neg (show ¬ (s.conflicts = 0 ∨ _) from hgoes)]
    dsimp only
    split_ifs with hburst
    · rfl
    · refine h.resolve_right fun hcount => hburst ?_
      rw [UInt8.le_iff_toNat_le] at hcount ⊢
      unfold increment
      split_ifs with hmax
      · simp [hmax, conflictBurst]
      · have hlt := s.conflicts.toNat_lt
        have hne : s.conflicts.toNat ≠ 255 := fun h => hmax (UInt8.toNat_inj.mp h)
        simp [conflictBurst] at hcount ⊢
        omega

/-- What is due has been made so with the burst in mind. -/
lemma of_schedule (hs : Holding h) {s : Schedule} {now : Instant} (horder : h.clock ≤ now)
    (hthrottled : s.throttled = h.schedule.throttled)
    (hdue : s.phase = .probing → ∀ last ∈ h.burst, BacksOff last s.due) :
    Holding { h with schedule := s, clock := now } where
  fits last hlast := ⟨(hs.fits last hlast).1.trans horder, (hs.fits last hlast).2⟩
  throttled last hlast := by
    rw [hthrottled]
    exact (hs.throttled last hlast).imp_right fun hpast => hpast.mono horder
  due := hdue

lemma start (hs : Holding h) {now : Instant} (horder : h.clock ≤ now) (randomness : UInt32) :
    Holding { h with schedule := h.schedule.start now randomness, clock := now } := by
  refine hs.of_schedule horder rfl fun _ last hlast => ?_
  obtain ⟨hle, hfits⟩ := hs.fits last hlast
  refine backsOff_start (hle.trans horder) hfits ?_ randomness
  exact (hs.throttled last hlast).imp_right fun hpast => hpast.mono horder

/-- Putting off what is due by an interval. -/
lemma putOff (hs : Holding h) {last now : Instant} {d : Duration} (hlast : last ∈ h.burst)
    (hnow : last.micros.toNat + conflictBackoff.micros.toNat ≤ now.micros.toNat + d.micros.toNat) :
    BacksOff last (now.saturatingAdd d) := by
  have hfits := (hs.fits last hlast).2
  unfold BacksOff
  rw [Instant.toNat_saturatingAdd]
  omega

lemma poll (hs : Holding h) {now : Instant} (horder : h.clock ≤ now) :
    Holding { h with schedule := (h.schedule.poll now).2, clock := now } := by
  refine hs.of_schedule horder (throttled_poll _ now) ?_
  rcases h.schedule.poll_cases now with hpoll | ⟨hphase, hdue, -, hpoll⟩ |
    ⟨-, -, -, s', hpoll, hresponds⟩ | ⟨-, s', hpoll, hresponds⟩ | ⟨hphase, hpoll⟩ | ⟨-, hpoll⟩
  · rw [hpoll]
    exact hs.due
  · rw [hpoll]
    intro _ last hlast
    have hpast : BacksOff last now := (hs.due hphase last hlast).mono hdue
    exact hs.putOff hlast (Nat.le_add_right_of_le hpast)
  · rw [hpoll]
    exact fun hphase => absurd hphase (Schedule.phase_ne_of_mayRespond hresponds)
  · rw [hpoll]
    exact fun hphase => absurd hphase (Schedule.phase_ne_of_mayRespond hresponds)
  · rw [hpoll]
    exact fun h' => absurd (hphase.symm.trans h') (by simp)
  · rw [hpoll]
    exact fun h' => absurd h' (by simp)

/-- A conflict that is noticed holds probes back. -/
lemma onConflict (hs : Holding h) {now : Instant} {randomness : UInt32} (horder : h.clock ≤ now)
    (hnoticed : Noticed h (.onConflict now randomness)) : Holding (h.record (.onConflict now randomness)) := by
  obtain ⟨hfifteenth, hrestart⟩ := hnoticed
  obtain ⟨-, hthrottles⟩ := throttled_noteConflict h.schedule now
  obtain ⟨hthrottled, hstart⟩ := onConflict_cases h.schedule now randomness
  have hburst : ∀ last ∈ (h.record (.onConflict now randomness)).burst, last ≤ now ∧
      last.micros.toNat + conflictBackoff.micros.toNat < 2 ^ 64 ∧
      ((h.schedule.noteConflict now).throttled = true ∨ BacksOff last now) := by
    intro last hlast
    replace hlast : last ∈ (if IsFifteenth h.conflicts now then some now else h.burst) := hlast
    split_ifs at hlast with hlimit
    · obtain rfl := Option.some.inj hlast
      obtain ⟨hgoes, hcount, hfits⟩ := hfifteenth hlimit
      exact ⟨le_rfl, hfits, .inl (hthrottles hgoes (.inr hcount))⟩
    · obtain ⟨hle, hfits⟩ := hs.fits last hlast
      refine ⟨hle.trans horder, hfits, ?_⟩
      by_cases hrestarts : h.schedule.Restarts now
      · exact .inr (hrestart hrestarts last hlast)
      · exact (hs.throttled last hlast).imp (fun ht => hthrottles hrestarts (.inl ht)) fun hpast => hpast.mono horder
  refine ⟨fun last hlast => ?_, fun last hlast => ?_, fun hphase last hlast => ?_⟩
  · exact ⟨(hburst last hlast).1, (hburst last hlast).2.1⟩
  · exact (hburst last hlast).2.2.imp_left hthrottled.trans
  · obtain ⟨hle, hfits, hheld⟩ := hburst last hlast
    show BacksOff last (h.schedule.onConflict now randomness).due
    rw [hstart hphase]
    exact backsOff_start hle hfits hheld randomness

lemma record (hs : Holding h) {op : Op} (horder : InOrder h op) (hnoticed : Noticed h op) :
    Holding (h.record op) := by
  have hsame : Holding { h with clock := op.now } := hs.of_schedule horder rfl hs.due
  cases op with
  | start now randomness => exact hs.start horder randomness
  | updated now =>
    show Holding { h with schedule := h.schedule.updated now, clock := now }
    rw [Schedule.updated]
    split_ifs
    · exact hs.of_schedule horder rfl fun hphase => absurd hphase (by simp)
    · exact hsame
  | onConflict now randomness => exact hs.onConflict horder hnoticed
  | onTiebreakLoss now =>
    show Holding { h with schedule := h.schedule.onTiebreakLoss now, clock := now }
    rw [Schedule.onTiebreakLoss]
    split_ifs with hphase
    · exact hs.of_schedule horder rfl fun _ last hlast => hs.putOff hlast (hnoticed hphase last hlast)
    · exact hsame
  | renamed now randomness =>
    show Holding { h with schedule := h.schedule.renamed now randomness, clock := now }
    rw [Schedule.renamed]
    split_ifs
    · exact hs.start horder randomness
    · exact hsame
  | stop now =>
    show Holding { h with schedule := h.schedule.stop now, clock := now }
    rw [Schedule.stop]
    split_ifs
    · exact hs.of_schedule horder rfl fun hphase => absurd hphase (by simp)
    · exact hs.of_schedule horder rfl fun hphase => absurd hphase (by simp)
  | poll now => exact hs.poll horder

/-- What the counting and the holding back come to. -/
lemma sparesStorm (hs : Holding h) (hcounts : Counts h) (op : Op) : SparesStorm h op := by
  cases op with
  | poll now =>
    intro hprobe last between first hsub hlength hwindow
    obtain ⟨t, ht, hle⟩ := hcounts.burst last between first hsub hlength hwindow
    rcases h.schedule.poll_cases now with hpoll | ⟨hphase, hdue, -, -⟩ | ⟨-, -, -, s', hpoll, -⟩ |
      ⟨-, s', hpoll, -⟩ | ⟨-, hpoll⟩ | ⟨-, hpoll⟩
    · simp [hpoll] at hprobe
    · have hlast : last.micros.toNat ≤ t.micros.toNat := hle
      exact Nat.le_trans (Nat.add_le_add_right hlast _) ((hs.due hphase t ht).mono hdue)
    all_goals simp [hpoll] at hprobe
  | _ => trivial

end Holding

/-- **A storm of conflicts is throttled where it is noticed**: in every run whose times are in order and whose
steps are such that the schedule notices each fifteenth conflict and does not forget it, every probe comes at
least five seconds after the last of any fifteen conflicts within less than ten seconds. -/
theorem storm_is_throttled (announcements : UInt8) (ops : List Op)
    (horder : Throughout Storm.record InOrder (.begin announcements) ops)
    (hnoticed : Throughout Storm.record Noticed (.begin announcements) ops) :
    Throughout Storm.record SparesStorm (.begin announcements) ops := by
  have hboth : Throughout Storm.record (fun h op => InOrder h op ∧ Noticed h op) (.begin announcements) ops :=
    Throughout.iff_forall_step.mpr fun before op hbefore =>
      ⟨Throughout.iff_forall_step.mp horder before op hbefore,
        Throughout.iff_forall_step.mp hnoticed before op hbefore⟩
  refine hboth.mono (fun h op hs _ => hs.2.sparesStorm hs.1 op) ?_ (I := fun h => Counts h ∧ Holding h)
    ⟨.begin announcements, .begin announcements⟩
  exact fun h op hs hop => ⟨hs.1.record hop.1, hs.2.record hop.1 hop.2⟩

/-- Fifteen conflicts in one second, and a probe five seconds later. -/
def noticedStorm : List Op :=
  List.replicate 15 (.onConflict ⟨1000000⟩ 0) ++ [.start ⟨1000000⟩ 0, .poll ⟨6000000⟩]

theorem storm_is_throttled_at_once : Throughout Storm.record SparesStorm (.begin 2) noticedStorm := by
  exact storm_is_throttled 2 noticedStorm (by decide +kernel) (by decide +kernel)

/-- Fifteen conflicts in a tenth of a second, on both sides of the end of a window, and a probe at once. -/
def straddlingStorm : List Op :=
  .onConflict ⟨0⟩ 0 :: List.replicate 13 (.onConflict ⟨9900000⟩ 0) ++
    [.onConflict ⟨10000000⟩ 0, .onConflict ⟨10000000⟩ 0, .start ⟨10000000⟩ 0]

/-- Fifteen conflicts at once, and a tiebreak lost after them. -/
def deferredStorm : List Op :=
  List.replicate 15 (.onConflict ⟨0⟩ 0) ++ [.start ⟨0⟩ 0, .onTiebreakLoss ⟨0⟩]

/-- A storm that straddles two windows is not noticed, and a tiebreak that is lost ends the wait. -/
theorem storm_not_throttled :
    (Throughout Storm.record InOrder (.begin 2) (straddlingStorm ++ [.poll ⟨10000000⟩]) ∧
      ¬ Throughout Storm.record SparesStorm (.begin 2) (straddlingStorm ++ [.poll ⟨10000000⟩])) ∧
    Throughout Storm.record InOrder (.begin 2) (deferredStorm ++ [.poll ⟨1000000⟩]) ∧
      ¬ Throughout Storm.record SparesStorm (.begin 2) (deferredStorm ++ [.poll ⟨1000000⟩]) := by
  refine ⟨⟨by decide +kernel, fun h => ?_⟩, by decide +kernel, fun h => ?_⟩
  · have hlast := (Throughout.append_singleton_iff.mp h).2 (by decide +kernel) ⟨10000000⟩
      (⟨10000000⟩ :: List.replicate 12 ⟨9900000⟩) ⟨9900000⟩ (by decide +kernel) rfl (by decide +kernel)
    exact absurd hlast (by decide +kernel)
  · have hlast := (Throughout.append_singleton_iff.mp h).2 (by decide +kernel) ⟨0⟩
      (List.replicate 13 ⟨0⟩) ⟨0⟩ (by decide +kernel) rfl (by decide +kernel)
    exact absurd hlast (by decide +kernel)

end MatterKit.Discovery
