import MatterKit.Lib.Runs
import MatterKit.Platform

/-!
# When a name is probed for, announced and withdrawn

A responder that wants a name asks three times whether anybody has it, announces it if nobody answers,
and withdraws it with a goodbye when it stops.

Everything announced has been probed for (`Owned`), as long as the clock is not so near its end that an
interval cannot be added to it. That everything announced is withdrawn holds of those runs in which a
name is never stopped while it is probed for again, renamed or withdrawn already, and of no others:
`stop` asks whether the name may be answered for, and not whether it was announced.
-/

namespace MatterKit.Discovery

open Lib

/-- Source: `discovery/schedule.rs`, `PROBE_JITTER`. -/
def probeJitter : Duration := .fromMillis 250

/-- Source: `discovery/schedule.rs`, `PROBE_INTERVAL`. -/
def probeInterval : Duration := .fromMillis 250

/-- Source: `discovery/schedule.rs`, `PROBES`. -/
def probes : UInt8 := 3

/-- Source: `discovery/schedule.rs`, `TIEBREAK_DEFER`. -/
def tiebreakDefer : Duration := .fromSecs 1

/-- Source: `discovery/schedule.rs`, `CONFLICT_BURST`. -/
def conflictBurst : UInt8 := 15

/-- Source: `discovery/schedule.rs`, `CONFLICT_WINDOW`. -/
def conflictWindow : Duration := .fromSecs 10

/-- Source: `discovery/schedule.rs`, `CONFLICT_BACKOFF`. -/
def conflictBackoff : Duration := .fromSecs 5

/-- Source: `discovery/schedule.rs`, `ANNOUNCE_INTERVAL`. -/
def announceInterval : Duration := .fromSecs 1

/-- Source: `discovery/schedule.rs`, `ANNOUNCEMENTS_MIN`. -/
def announcementsMin : UInt8 := 2

/-- Source: `discovery/schedule.rs`, `ANNOUNCEMENTS_MAX`. -/
def announcementsMax : UInt8 := 8

/-- Source: `schedule::Action`. -/
inductive Action
  | probe
  | announce
  | goodbye
  | rename
  deriving DecidableEq

/-- Source: `schedule::Phase`. -/
inductive Phase
  | idle
  | probing
  | announcing
  | established
  | renaming
  | leaving
  deriving DecidableEq

/-- Source: `Schedule`. -/
structure Schedule where
  phase : Phase
  due : Instant
  sent : UInt8
  announcements : UInt8
  conflicts : UInt8
  window : Instant
  throttled : Bool

/-- Source: Rust `u8::saturating_add` of one. -/
def increment (n : UInt8) : UInt8 := if n = 255 then n else n + 1

namespace Schedule

/-- Source: `Schedule::new`. -/
def new : Schedule where
  phase := .idle
  due := ⟨0⟩
  sent := 0
  announcements := announcementsMin
  conflicts := 0
  window := ⟨0⟩
  throttled := false

/-- Source: `Schedule::with_announcements`. -/
def withAnnouncements (s : Schedule) (n : UInt8) : Schedule :=
  { s with
    announcements :=
      if n < announcementsMin then announcementsMin
      else if announcementsMax < n then announcementsMax
      else n }

/-- Source: `Schedule::may_respond`. -/
def mayRespond (s : Schedule) : Bool := s.phase = .announcing || s.phase = .established

/-- Source: `Schedule::first_probe_delay`. -/
def firstProbeDelay (s : Schedule) (randomness : UInt32) : Duration :=
  let jitter : Duration := ⟨randomness.toUInt64 % probeJitter.micros⟩
  if s.throttled then conflictBackoff.saturatingAdd jitter else jitter

/-- Source: `Schedule::start`. -/
def start (s : Schedule) (now : Instant) (randomness : UInt32) : Schedule :=
  { s with
    phase := .probing
    sent := 0
    due := now.saturatingAdd (s.firstProbeDelay randomness) }

/-- Source: `Schedule::updated`. -/
def updated (s : Schedule) (now : Instant) : Schedule :=
  if s.mayRespond then { s with phase := .announcing, sent := 0, due := now } else s

/-- Source: `Schedule::note_conflict`. -/
def noteConflict (s : Schedule) (now : Instant) : Schedule :=
  let s :=
    if s.conflicts = 0 ∨ conflictWindow ≤ now.saturatingDurationSince s.window then
      { s with window := now, conflicts := 1, throttled := false }
    else { s with conflicts := increment s.conflicts }
  if conflictBurst ≤ s.conflicts then { s with throttled := true } else s

/-- Source: `Schedule::on_conflict`. -/
def onConflict (s : Schedule) (now : Instant) (randomness : UInt32) : Schedule :=
  let s := s.noteConflict now
  match s.phase with
  | .probing => { s with phase := .renaming, due := now, sent := 0 }
  | .announcing | .established => s.start now randomness
  | .idle | .renaming | .leaving => s

/-- Source: `Schedule::on_tiebreak_loss`. -/
def onTiebreakLoss (s : Schedule) (now : Instant) : Schedule :=
  if s.phase = .probing then { s with sent := 0, due := now.saturatingAdd tiebreakDefer } else s

/-- Source: `Schedule::renamed`. -/
def renamed (s : Schedule) (now : Instant) (randomness : UInt32) : Schedule :=
  if s.phase = .renaming then s.start now randomness else s

/-- Source: `Schedule::stop`. -/
def stop (s : Schedule) (now : Instant) : Schedule :=
  if s.mayRespond then { s with phase := .leaving, due := now, sent := 0 }
  else { s with phase := .idle }

/-- Source: `Schedule::wake_at`. -/
def wakeAt (s : Schedule) : Option Instant :=
  match s.phase with
  | .idle | .established => none
  | _ => some s.due

/-- Source: `Schedule::probe`. -/
def probe (s : Schedule) (now : Instant) : Option Action × Schedule :=
  (some .probe, { s with sent := increment s.sent, due := now.saturatingAdd probeInterval })

/-- Source: `Schedule::announce`. -/
def announce (s : Schedule) (now : Instant) : Option Action × Schedule :=
  let interval := (fun d : Duration => d.saturatingAdd d)^[s.sent.toNat] announceInterval
  let s := { s with sent := increment s.sent }
  (some .announce,
    if s.announcements ≤ s.sent then { s with phase := .established }
    else { s with due := now.saturatingAdd interval })

/-- Source: `Schedule::poll`. -/
def poll (s : Schedule) (now : Instant) : Option Action × Schedule :=
  if s.wakeAt.all fun due => decide (now < due) then (none, s)
  else
    match s.phase with
    | .probing =>
      if probes ≤ s.sent then { s with phase := .announcing, sent := 0 }.announce now
      else s.probe now
    | .announcing => s.announce now
    | .renaming => (some .rename, s)
    | .leaving => (some .goodbye, { s with phase := .idle })
    | .idle | .established => (none, s)

lemma phase_noteConflict (s : Schedule) (now : Instant) : (s.noteConflict now).phase = s.phase := by
  unfold noteConflict
  dsimp only
  split_ifs <;> rfl

/-- A schedule that answers queries does not probe. -/
lemma phase_ne_of_mayRespond {s : Schedule} (h : s.mayRespond = true) : s.phase ≠ .probing := by
  intro hphase
  rw [mayRespond, hphase] at h
  exact absurd h (by decide)

/-- An announcement leaves the schedule answering queries. -/
lemma mayRespond_announce {s : Schedule} (h : s.phase = .announcing) (now : Instant) :
    ∃ s', s.announce now = (some .announce, s') ∧ s'.mayRespond = true := by
  refine ⟨_, rfl, ?_⟩
  dsimp only
  split_ifs
  · rfl
  · simp [mayRespond, h]

/-- What a poll comes to. -/
lemma poll_cases (s : Schedule) (now : Instant) : s.poll now = (none, s) ∨
    s.phase = .probing ∧ s.due ≤ now ∧ s.sent < probes ∧ s.poll now = s.probe now ∨
    s.phase = .probing ∧ s.due ≤ now ∧ probes ≤ s.sent ∧
      (∃ s', s.poll now = (some .announce, s') ∧ s'.mayRespond = true) ∨
    s.phase = .announcing ∧ (∃ s', s.poll now = (some .announce, s') ∧ s'.mayRespond = true) ∨
    s.phase = .renaming ∧ s.poll now = (some .rename, s) ∨
    s.phase = .leaving ∧ s.poll now = (some .goodbye, { s with phase := .idle }) := by
  by_cases hwait : s.wakeAt.all (fun due => decide (now < due)) = true
  · exact .inl (if_pos hwait)
  have hpoll : s.poll now = _ := if_neg hwait
  cases hphase : s.phase with
  | idle | established => simp [wakeAt, hphase] at hwait
  | «renaming» =>
    rw [hphase] at hpoll
    exact .inr (.inr (.inr (.inr (.inl ⟨rfl, hpoll⟩))))
  | leaving =>
    rw [hphase] at hpoll
    exact .inr (.inr (.inr (.inr (.inr ⟨rfl, hpoll⟩))))
  | announcing =>
    rw [hphase] at hpoll
    obtain ⟨s', hannounce, hresponds⟩ := mayRespond_announce hphase now
    exact .inr (.inr (.inr (.inl ⟨rfl, s', hpoll.trans hannounce, hresponds⟩)))
  | probing =>
    have hdue : s.due ≤ now := by simpa [wakeAt, hphase] using hwait
    rw [hphase] at hpoll
    by_cases hsent : probes ≤ s.sent
    · obtain ⟨s', hannounce, hresponds⟩ :=
        mayRespond_announce (s := { s with phase := .announcing, sent := 0 }) rfl now
      exact .inr (.inr (.inl ⟨rfl, hdue, hsent, s', (hpoll.trans (if_pos hsent)).trans hannounce,
        hresponds⟩))
    · exact .inr (.inl ⟨rfl, hdue, UInt8.not_le.mp hsent, hpoll.trans (if_neg hsent)⟩)

end Schedule

/-! ## Runs -/

/-- The operations of a schedule. -/
inductive Op
  | start (now : Instant) (randomness : UInt32)
  | updated (now : Instant)
  | onConflict (now : Instant) (randomness : UInt32)
  | onTiebreakLoss (now : Instant)
  | renamed (now : Instant) (randomness : UInt32)
  | stop (now : Instant)
  | poll (now : Instant)

/-- A schedule, what it had sent since probing last began, and whether a name has been announced that
was not withdrawn since. -/
structure History where
  schedule : Schedule
  since : List (Instant × Action)
  owed : Bool

namespace History

/-- Before the first operation. -/
def begin (announcements : UInt8) : History where
  schedule := Schedule.new.withAnnouncements announcements
  since := []
  owed := false

/-- One operation. Probing begins with a start, a new name, a tiebreak lost while probing and a conflict
over a name that was held; a new name has not been announced. -/
def record (h : History) : Op → History
  | .start now randomness => { h with schedule := h.schedule.start now randomness, since := [] }
  | .updated now => { h with schedule := h.schedule.updated now }
  | .onConflict now randomness =>
    { h with
      schedule := h.schedule.onConflict now randomness
      since := if h.schedule.mayRespond then [] else h.since }
  | .onTiebreakLoss now =>
    { h with
      schedule := h.schedule.onTiebreakLoss now
      since := if h.schedule.phase = .probing then [] else h.since }
  | .renamed now randomness =>
    if h.schedule.phase = .renaming then
      { schedule := h.schedule.renamed now randomness, since := [], owed := false }
    else { h with schedule := h.schedule.renamed now randomness }
  | .stop now => { h with schedule := h.schedule.stop now }
  | .poll now =>
    let (action, schedule) := h.schedule.poll now
    { schedule := schedule
      since := h.since ++ (action.map fun a => (now, a)).toList
      owed := (h.owed || action = some .announce) && action ≠ some .goodbye }

end History

/-! ## What was probed for -/

/-- One instant is at least a probe interval after another. -/
def Gap (a b : Instant) : Prop := a.micros.toNat + probeInterval.micros.toNat ≤ b.micros.toNat

/-- Three probes, each an interval after the last, and an announcement an interval after the third. -/
def Probed (since : List (Instant × Action)) : Prop :=
  ∃ t₁ t₂ t₃ t₄ rest,
    since = (t₁, .probe) :: (t₂, .probe) :: (t₃, .probe) :: (t₄, .announce) :: rest ∧
      Gap t₁ t₂ ∧ Gap t₂ t₃ ∧ Gap t₃ t₄

lemma Probed.append {since : List (Instant × Action)} (h : Probed since)
    (more : List (Instant × Action)) : Probed (since ++ more) := by
  obtain ⟨t₁, t₂, t₃, t₄, rest, rfl, hgaps⟩ := h
  exact ⟨t₁, t₂, t₃, t₄, rest ++ more, rfl, hgaps⟩

/-- An interval can still be added to the clock when a probe is sent. -/
def Timely (h : History) : Op → Prop
  | .poll now => h.schedule.phase = .probing →
      now.micros.toNat + probeInterval.micros.toNat < 2 ^ 64
  | _ => True

instance (h : History) (op : Op) : Decidable (Timely h op) := by
  cases op <;> unfold Timely <;> infer_instance

/-- Every announcement since probing last began has been probed for, and queries are answered only from
the first of them on. -/
structure Owned (h : History) : Prop where
  probed : ∀ t, (t, Action.announce) ∈ h.since → Probed h.since
  responds : h.schedule.mayRespond = true → ∃ t, (t, Action.announce) ∈ h.since

/-- While a schedule probes, it has sent so many probes and nothing else, and the next thing is due an
interval after the last of them. -/
structure Sound (h : History) : Prop where
  owned : Owned h
  probing : h.schedule.phase = .probing → ∃ times : List Instant,
    h.since = times.map (fun t => (t, Action.probe)) ∧ times.length = h.schedule.sent.toNat ∧
      times.length ≤ 3 ∧ times.IsChain Gap ∧ ∀ t ∈ times.getLast?, Gap t h.schedule.due

namespace Sound

variable {h : History}

lemma begin (announcements : UInt8) : Sound (History.begin announcements) :=
  ⟨⟨by simp [History.begin], by simp [History.begin, Schedule.mayRespond, Schedule.withAnnouncements,
    Schedule.new]⟩, by simp [History.begin, Schedule.withAnnouncements, Schedule.new]⟩

variable {s : Schedule} {owed : Bool} {now : Instant}

/-- A schedule that begins to probe. -/
lemma started (hphase : s.phase = .probing) (hsent : s.sent = 0) : Sound ⟨s, [], owed⟩ := by
  refine ⟨⟨by simp, fun hresponds => ?_⟩, fun _ => ⟨[], rfl, ?_, Nat.zero_le _, .nil, by simp⟩⟩
  · rw [Schedule.mayRespond, hphase] at hresponds
    exact absurd hresponds (by decide)
  · rw [hsent]
    rfl

/-- A schedule that does not begin to probe, and answers queries only if it did before. -/
lemma of_phase (hs : Sound h) (hphase : s.phase ≠ .probing)
    (hresponds : s.mayRespond = true → h.schedule.mayRespond = true) : Sound ⟨s, h.since, owed⟩ :=
  ⟨⟨hs.owned.probed, fun hr => hs.owned.responds (hresponds hr)⟩, fun hp => absurd hp hphase⟩

/-- An action other than a probe, which is an announcement only of what has been probed for. -/
lemma act (hs : Sound h) {action : Action} (hphase : s.phase ≠ .probing)
    (hannounce : action = .announce → Probed (h.since ++ [(now, action)]))
    (hresponds : s.mayRespond = true → action = .announce) :
    Sound ⟨s, h.since ++ [(now, action)], owed⟩ := by
  refine ⟨⟨?_, ?_⟩, fun hp => absurd hp hphase⟩
  · intro t ht
    rcases List.mem_append.mp ht with hold | hnew
    · exact (hs.owned.probed t hold).append _
    · rw [List.mem_singleton, Prod.mk.injEq] at hnew
      exact hannounce hnew.2.symm
  · intro hr
    refine ⟨now, List.mem_append_right _ ?_⟩
    rw [hresponds hr]
    exact List.mem_singleton_self _

/-- A probe is one more, an interval after the last. -/
lemma probe (hs : Sound h) (hphase : h.schedule.phase = .probing) (hdue : h.schedule.due ≤ now)
    (hsent : h.schedule.sent < probes) (htimely : now.micros.toNat + probeInterval.micros.toNat < 2 ^ 64) :
    Sound ⟨(h.schedule.probe now).2, h.since ++ [(now, .probe)], owed⟩ := by
  obtain ⟨times, hsince, hcount, -, hchain, hlast⟩ := hs.probing hphase
  have hlt : h.schedule.sent.toNat < 3 := UInt8.lt_iff_toNat_lt.mp hsent
  have hincrement : (increment h.schedule.sent).toNat = h.schedule.sent.toNat + 1 := by
    have hne : h.schedule.sent ≠ 255 := by
      rintro heq
      rw [heq] at hlt
      exact absurd hlt (by decide)
    rw [increment, if_neg hne, UInt8.toNat_add]
    exact Nat.mod_eq_of_lt (by show _ + 1 < 2 ^ 8; omega)
  have hafter : ∀ t ∈ times.getLast?, Gap t now := fun t ht => (hlast t ht).trans hdue
  refine ⟨⟨?_, ?_⟩, fun _ => ⟨times ++ [now], ?_, ?_, ?_, ?_, ?_⟩⟩
  · intro t ht
    rw [hsince] at ht
    simp at ht
  · intro hresponds
    simp [Schedule.probe, Schedule.mayRespond, hphase] at hresponds
  · rw [hsince, List.map_append, List.map_singleton]
  · rw [List.length_append, hcount]
    exact hincrement.symm
  · rw [List.length_append, hcount]
    exact hlt
  · refine List.isChain_append.mpr ⟨hchain, .singleton now, ?_⟩
    intro a ha b hb
    rw [List.head?_cons, Option.mem_some_iff] at hb
    exact hb ▸ hafter a ha
  · intro t ht
    rw [List.getLast?_concat, Option.mem_some_iff] at ht
    subst ht
    show _ ≤ (satAdd now.micros probeInterval.micros).toNat
    rw [toNat_satAdd]
    omega

/-- Three probes have been sent, and an interval has gone by since. -/
lemma probed_of_sent (hs : Sound h) (hphase : h.schedule.phase = .probing)
    (hdue : h.schedule.due ≤ now) (hsent : probes ≤ h.schedule.sent) :
    Probed (h.since ++ [(now, .announce)]) := by
  obtain ⟨times, hsince, hcount, hle, hchain, hlast⟩ := hs.probing hphase
  have hge : 3 ≤ h.schedule.sent.toNat := UInt8.le_iff_toNat_le.mp hsent
  have hthree : times.length = 3 := by omega
  obtain ⟨t₁, t₂, t₃, rfl⟩ := List.length_eq_three.mp hthree
  obtain ⟨h₁, h₂, -⟩ : Gap t₁ t₂ ∧ Gap t₂ t₃ ∧ True := by simpa using hchain
  refine ⟨t₁, t₂, t₃, now, [], by rw [hsince]; rfl, h₁, h₂, ?_⟩
  exact (hlast t₃ rfl).trans hdue

/-- One operation. -/
lemma record (hs : Sound h) {op : Op} (htimely : Timely h op) : Sound (h.record op) := by
  cases op with
  | start now randomness => exact started rfl rfl
  | updated now =>
    show Sound ⟨h.schedule.updated now, h.since, h.owed⟩
    rw [Schedule.updated]
    split_ifs with hresponds
    · exact hs.of_phase (by simp) fun _ => hresponds
    · exact hs
  | stop now =>
    show Sound ⟨h.schedule.stop now, h.since, h.owed⟩
    rw [Schedule.stop]
    split_ifs with hresponds
    · exact hs.of_phase (by simp) (by simp [Schedule.mayRespond])
    · exact hs.of_phase (by simp) (by simp [Schedule.mayRespond])
  | renamed now randomness =>
    rw [History.record]
    split_ifs with hphase
    · rw [Schedule.renamed, if_pos hphase]
      exact started rfl rfl
    · rw [Schedule.renamed, if_neg hphase]
      exact hs
  | onTiebreakLoss now =>
    show Sound ⟨h.schedule.onTiebreakLoss now, if h.schedule.phase = .probing then [] else h.since, h.owed⟩
    rw [Schedule.onTiebreakLoss]
    split_ifs with hphase
    · exact started hphase rfl
    · exact hs
  | onConflict now randomness =>
    show Sound ⟨h.schedule.onConflict now randomness,
      if h.schedule.mayRespond then [] else h.since, h.owed⟩
    have hnoted := h.schedule.phase_noteConflict now
    rw [Schedule.onConflict]
    cases hphase : h.schedule.phase with
    | probing =>
      rw [hnoted, hphase, if_neg (by simp [Schedule.mayRespond, hphase])]
      exact hs.of_phase (by simp) (by simp [Schedule.mayRespond])
    | announcing | established =>
      rw [hnoted, hphase, if_pos (by simp [Schedule.mayRespond, hphase])]
      exact started rfl rfl
    | _ =>
      rw [hnoted, hphase, if_neg (by simp [Schedule.mayRespond, hphase])]
      exact hs.of_phase (by simp [hnoted, hphase]) (by simp [Schedule.mayRespond, hnoted])
  | poll now =>
    show Sound ⟨(h.schedule.poll now).2, h.since ++
      ((h.schedule.poll now).1.map fun a => (now, a)).toList, _⟩
    rcases h.schedule.poll_cases now with hpoll | ⟨hphase, hdue, hsent, hpoll⟩ |
      ⟨hphase, hdue, hsent, s', hpoll, hresponds⟩ | ⟨hphase, s', hpoll, hresponds⟩ | ⟨hphase, hpoll⟩ |
      ⟨hphase, hpoll⟩
    · rw [hpoll, Option.map_none, Option.toList_none, List.append_nil]
      exact ⟨⟨hs.owned.probed, hs.owned.responds⟩, hs.probing⟩
    · rw [hpoll]
      exact hs.probe hphase hdue hsent (htimely hphase)
    · rw [hpoll]
      exact hs.act (Schedule.phase_ne_of_mayRespond hresponds)
        (fun _ => hs.probed_of_sent hphase hdue hsent) fun _ => rfl
    · obtain ⟨t, ht⟩ := hs.owned.responds (by simp [Schedule.mayRespond, hphase])
      rw [hpoll]
      exact hs.act (Schedule.phase_ne_of_mayRespond hresponds)
        (fun _ => (hs.owned.probed t ht).append _) fun _ => rfl
    · rw [hpoll]
      exact hs.act (by simp [hphase]) (by simp) (by simp [Schedule.mayRespond, hphase])
    · rw [hpoll]
      exact hs.act (by simp) (by simp) (by simp [Schedule.mayRespond])

end Sound

/-! ## What is withdrawn -/

/-- The next poll says goodbye, once, and then the schedule is idle. -/
def Schedule.WillSayGoodbye (s : Schedule) : Prop :=
  ∀ now later, s.due ≤ now →
    (s.poll now).1 = some .goodbye ∧ (s.poll now).2.phase = .idle ∧
      ((s.poll now).2.poll later).1 = none

/-- A name that was announced and not withdrawn is withdrawn by the next poll. -/
def SaysGoodbye (h : History) : Prop := h.owed = true → h.schedule.WillSayGoodbye

/-- A stop comes while queries are answered, if the name has been announced and not withdrawn. -/
def Withdrawable (h : History) : Op → Prop
  | .stop _ => h.owed = true → h.schedule.mayRespond = true
  | _ => True

instance (h : History) (op : Op) : Decidable (Withdrawable h op) := by
  cases op <;> unfold Withdrawable <;> infer_instance

/-- A stop is followed by a goodbye exactly if it comes while queries are answered. -/
lemma Schedule.willSayGoodbye_stop_iff (s : Schedule) (now : Instant) :
    (s.stop now).WillSayGoodbye ↔ s.mayRespond = true := by
  by_cases hresponds : s.mayRespond = true
  · rw [stop, if_pos hresponds]
    refine iff_of_true ?_ hresponds
    intro at' later hdue
    have hpoll : ({ s with phase := .leaving, due := now, sent := 0 } : Schedule).poll at' =
        (some .goodbye, { s with phase := .idle, due := now, sent := 0 }) := by
      have hwait : ¬ ({ s with phase := .leaving, due := now, sent := 0 } : Schedule).wakeAt.all
          (fun due => decide (at' < due)) = true := by
        simpa [wakeAt] using hdue
      rw [poll, if_neg hwait]
    rw [hpoll]
    exact ⟨rfl, rfl, rfl⟩
  · refine iff_of_false ?_ hresponds
    intro hpromised
    have hpoll := (hpromised _ ⟨0⟩ le_rfl).1
    rw [stop, if_neg hresponds] at hpoll
    exact absurd hpoll (by simp [poll, wakeAt])

/-- **A name is used only while owned, and withdrawn when it is stopped in use.** Whatever is announced
has been probed for, in a run whose probes all come an interval before the end of the clock. And every
stop is followed by the goodbye that is owed exactly when none comes while a name that was announced is
probed for again, renamed or withdrawn already. -/
theorem owned_and_withdrawn (announcements : UInt8) (ops : List Op) :
    (Throughout History.record Timely (.begin announcements) ops → ∀ before, before <+: ops →
      Owned (before.foldl History.record (.begin announcements))) ∧
    ((∀ before now, before ++ [.stop now] <+: ops →
      SaysGoodbye ((before ++ [.stop now]).foldl History.record (.begin announcements))) ↔
      Throughout History.record Withdrawable (.begin announcements) ops) := by
  constructor
  · intro hrun before hbefore
    obtain ⟨rest, rfl⟩ := hbefore
    have hsound : Sound (before.foldl History.record (.begin announcements)) :=
      (Throughout.append_iff.mp hrun).1.invariant (fun h op hs hq => hs.record hq) (.begin announcements)
    exact hsound.owned
  · rw [Throughout.iff_forall_step]
    constructor
    · intro h before op hbefore
      cases op with
      | stop now =>
        have hpromised := h before now hbefore
        rw [List.foldl_append] at hpromised
        exact fun howed => (Schedule.willSayGoodbye_stop_iff _ now).mp (hpromised howed)
      | _ => trivial
    · intro h before now hbefore
      rw [List.foldl_append]
      exact fun howed =>
        (Schedule.willSayGoodbye_stop_iff _ now).mpr (h before (.stop now) hbefore howed)

/-- A start, three probes and an announcement. -/
def announced : List Op := [.start ⟨0⟩ 0, .poll ⟨0⟩, .poll ⟨250000⟩, .poll ⟨500000⟩, .poll ⟨750000⟩]

/-- A name that is stopped in use is withdrawn. -/
theorem stopped_in_use :
    SaysGoodbye ((announced ++ [Op.stop ⟨750000⟩]).foldl History.record (.begin 2)) ∧
      Owned ((announced ++ [Op.stop ⟨750000⟩]).foldl History.record (.begin 2)) := by
  obtain ⟨howned, hwithdrawn⟩ := owned_and_withdrawn 2 (announced ++ [Op.stop ⟨750000⟩])
  exact ⟨hwithdrawn.mpr (by decide) announced ⟨750000⟩ List.prefix_rfl,
    howned (by decide) _ List.prefix_rfl⟩

/-- A name that is stopped twice is not withdrawn. -/
theorem stopped_twice :
    ((announced ++ [Op.stop ⟨750000⟩, .stop ⟨750000⟩]).foldl History.record (.begin 2)).owed = true ∧
      ((announced ++ [Op.stop ⟨750000⟩, .stop ⟨750000⟩]).foldl History.record
        (.begin 2)).schedule.phase = .idle ∧
      ¬ SaysGoodbye ((announced ++ [Op.stop ⟨750000⟩, .stop ⟨750000⟩]).foldl History.record
        (.begin 2)) := by
  refine ⟨by decide, by decide, fun hpromised => ?_⟩
  have hpoll := (hpromised (by decide) ⟨750000⟩ ⟨750000⟩ (by decide)).1
  exact absurd hpoll (by decide)

end MatterKit.Discovery
