import MatterKit.Im.Disclosure
import MatterKit.Im.Subscription
import MatterKit.Lib.Runs

/-!
# The events of a subscription

A subscription has one bookmark for all its event paths. A series of reports takes it up for the first
of them, and starts every other one at zero again; so the events of the first path reach the subscriber
once, and those of the others with every series (`later_path_repeats`).

`Feed` is a subscription and a log over any run of recordings, messages and completed series, and
`Feed.Kept` the invariant that carries it: what the completed series have sent is what was recorded
below the bookmark, and what the series under way has sent is what was recorded from the bookmark up to
where it stands.
-/

namespace MatterKit.Im

open Lib Machine Tlv TlvWriter Dm

variable {η ν : Type} {P C I D : ℕ} {matching : EventPath → Option FabricIndex → UInt64 → List EventRecord}

/-! ## Events of a message -/

/-- The number of the event a block carries. -/
def Block.eventNumber? : Block → Option UInt64
  | .event (.data d) => some d.number
  | _ => none

/-- The numbers of the events a message carries. -/
def eventNumbers (blocks : List Block) : List UInt64 := blocks.filterMap Block.eventNumber?

lemma eventNumbers_append (a b : List Block) :
    eventNumbers (a ++ b) = eventNumbers a ++ eventNumbers b := List.filterMap_append

/-- The number behind the last of some records, or the one to start from. -/
def nextAfter : UInt64 → List EventRecord → UInt64
  | since, [] => since
  | _, r :: records => nextAfter (satAdd r.number 1) records

/-- Records in the order of their numbers, all from one number on and none the largest there is. -/
structure InOrder (since : UInt64) (records : List EventRecord) : Prop where
  pairwise : records.Pairwise fun a b => a.number < b.number
  le : ∀ r ∈ records, since ≤ r.number
  lt : ∀ r ∈ records, r.number.toNat < 2 ^ 64 - 1

lemma toNat_satAdd_one {n : UInt64} (h : n.toNat < 2 ^ 64 - 1) : (satAdd n 1).toNat = n.toNat + 1 := by
  rw [toNat_satAdd]
  show min (n.toNat + 1) _ = _
  omega

lemma InOrder.tail {since : UInt64} {r : EventRecord} {records : List EventRecord}
    (h : InOrder since (r :: records)) : InOrder (satAdd r.number 1) records := by
  obtain ⟨hfirst, hrest⟩ := List.pairwise_cons.mp h.pairwise
  refine ⟨hrest, fun r' hr' => ?_, fun r' hr' => h.lt r' (List.mem_cons_of_mem _ hr')⟩
  rw [UInt64.le_iff_toNat_le, toNat_satAdd_one (h.lt r List.mem_cons_self)]
  exact UInt64.lt_iff_toNat_lt.mp (hfirst r' hr')

/-- Where records are in order, the first of them are those below the number behind them. -/
lemma InOrder.mem_front_iff {since : UInt64} {front back : List EventRecord}
    (h : InOrder since (front ++ back)) : since ≤ nextAfter since front ∧
      ∀ r ∈ front ++ back, r ∈ front ↔ r.number < nextAfter since front := by
  induction front generalizing since with
  | nil =>
    refine ⟨UInt64.le_refl _, fun r hr => ⟨nofun, fun hlt => ?_⟩⟩
    exact absurd hlt (UInt64.not_lt.mpr (h.le r hr))
  | cons r front ih =>
    obtain ⟨hle, hiff⟩ := ih h.tail
    have hr : r.number < nextAfter (satAdd r.number 1) front := by
      have hnext := toNat_satAdd_one (h.lt r List.mem_cons_self)
      rw [UInt64.le_iff_toNat_le] at hle
      rw [UInt64.lt_iff_toNat_lt]
      omega
    refine ⟨UInt64.le_trans (h.le r List.mem_cons_self) (UInt64.le_of_lt hr), ?_⟩
    intro r' hr'
    rcases List.mem_cons.mp hr' with rfl | hr'
    · exact ⟨fun _ => hr, fun _ => List.mem_cons_self⟩
    · constructor
      · intro hmem
        rcases List.mem_cons.mp hmem with rfl | hmem
        · exact hr
        · exact (hiff r' hr').mp hmem
      · intro hlt
        exact List.mem_cons_of_mem _ ((hiff r' hr').mpr hlt)

namespace Server

variable (srv : Server η ν) (h : η) (ctx : InteractionContext)

/-- Records are packed from the front, and the number behind the last of them is returned. -/
lemma serveRecords_numbers (previous : Option Timestamp) (next : UInt64)
    (records : List EventRecord) (s₀ : ReadState ν) :
    Ensures (fun s => s = s₀) (srv.serveRecords previous next records) fun served s =>
      ∃ front back, records = front ++ back ∧ eventNumbers s.packed.blocks =
          eventNumbers s₀.packed.blocks ++ front.map EventRecord.number ∧
        served.2 = nextAfter next front ∧ (served.1 = true → back = []) ∧ s.cursor = s₀.cursor := by
  induction records generalizing previous next s₀ with
  | nil =>
    refine Ensures.pure ?_
    rintro s rfl
    exact ⟨[], [], rfl, (List.append_nil _).symm, rfl, fun _ => rfl, rfl⟩
  | cons r records ih =>
    rintro s rfl served s'' hrun
    unfold serveRecords at hrun
    rw [exec_get_bind] at hrun
    have hblocks := srv.put_blocks (recordBlock previous r) s
    have hcursor : (exec (srv.put (recordBlock previous r)) s).2.cursor = s.cursor := rfl
    rcases hput : exec (srv.put (recordBlock previous r)) s with ⟨result, s'⟩
    rw [hput] at hblocks hcursor
    simp only [hput] at hrun
    rw [exec_set_bind] at hrun
    split at hrun
    · rcases hblocks with ⟨_, hnot⟩ | ⟨hblocks, _, _⟩
      · exact absurd rfl hnot
      · obtain ⟨front, back, hsplit, hnumbers, hnext, hall, hcursor'⟩ :=
          ih _ _ s' s' rfl served s'' hrun
        refine ⟨r :: front, back, by rw [hsplit, List.cons_append], ?_, hnext, hall,
          hcursor'.trans hcursor⟩
        rw [hnumbers, hblocks, eventNumbers_append, List.append_assoc]
        rfl
    · rename_i hnot
      cases hrun
      refine ⟨[], r :: records, rfl, ?_, rfl, nofun, hcursor⟩
      rcases hblocks with ⟨hblocks, _⟩ | ⟨_, htrue, _⟩
      · rw [hblocks]
        exact (List.append_nil _).symm
      · exact absurd htrue hnot

/-- The log yields nothing for a path. -/
def Quiet (path : EventPath) : Prop :=
  ∀ matching, srv.events = some matching → ∀ since, matching path ctx.fabricIndex since = []

/-- A path the log yields nothing for adds no event, and carries on from where it started. -/
lemma serveEventPath_quiet {path : EventPath} (hquiet : srv.Quiet ctx path) (since : UInt64)
    (s₀ : ReadState ν) : Ensures (fun s => s = s₀) (srv.serveEventPath h path ctx since) fun served s =>
      eventNumbers s.packed.blocks = eventNumbers s₀.packed.blocks ∧
        served.2 ≤ max since (eventFloor ctx) ∧ s.cursor = s₀.cursor := by
  have hle : since ≤ max since (eventFloor ctx) := by
    rw [UInt64.le_iff_toNat_le, toNat_max]
    exact Nat.le_max_left _ _
  unfold serveEventPath
  split
  · rename_i status _
    rintro s rfl served s' hrun
    obtain ⟨fitted, s₁, hput, hpure⟩ := exec_bind_eq_ok.mp hrun
    cases hpure
    have hblocks := srv.put_blocks (.event (.status ⟨path, .new status⟩)) s
    have hcursor : (exec (srv.put (.event (.status ⟨path, .new status⟩))) s).2.cursor = s.cursor :=
      rfl
    unfold writeEventStatus at hput
    rw [hput] at hblocks hcursor
    refine ⟨?_, hle, hcursor⟩
    rcases hblocks with ⟨hblocks, _⟩ | ⟨hblocks, _, _⟩
    · rw [hblocks]
    · rw [hblocks, eventNumbers_append]
      exact List.append_nil _
  · split
    · refine Ensures.pure ?_
      rintro s rfl
      exact ⟨rfl, hle, rfl⟩
    · rename_i matching hevents
      simp only [hquiet matching hevents]
      refine Ensures.pure ?_
      rintro s rfl
      exact ⟨rfl, UInt64.le_refl _, rfl⟩

/-- A path that is not refused, from a number at or above the filters on. -/
lemma serveEventPath_numbers {path : EventPath} (hrefusal : srv.eventRefusal h path = none)
    (hevents : srv.events = some matching) {since : UInt64} (hfloor : eventFloor ctx ≤ since)
    (s₀ : ReadState ν) : Ensures (fun s => s = s₀) (srv.serveEventPath h path ctx since) fun served s =>
      ∃ front back, matching path ctx.fabricIndex since = front ++ back ∧ eventNumbers s.packed.blocks =
          eventNumbers s₀.packed.blocks ++ front.map EventRecord.number ∧
        served.2 = nextAfter since front ∧ (served.1 = true → back = []) ∧ s.cursor = s₀.cursor := by
  unfold serveEventPath
  simp only [hrefusal, hevents]
  rw [max_eq_left_uint64 hfloor]
  exact srv.serveRecords_numbers none since _ s₀

/-- One event path in the array of events: what serving it adds, and where it leaves the cursor. -/
lemma serveEventAt_ensures (path : EventPath) (index : ℕ) (opened : Bool) (s₀ : ReadState ν)
    {Q : Bool × UInt64 → List UInt64 → Prop}
    (hpath : ∀ s, s.cursor = { s₀.cursor with eventPath := index } →
      Ensures (fun s' => s' = s) (srv.serveEventPath h path ctx s₀.cursor.eventFrom) fun served s' =>
        ∃ new, eventNumbers s'.packed.blocks = eventNumbers s.packed.blocks ++ new ∧ Q served new ∧
          s'.cursor = s.cursor) :
    Ensures (fun s => s = s₀) (srv.serveEventAt h ctx index opened path) fun served s =>
      ∃ new, eventNumbers s.packed.blocks = eventNumbers s₀.packed.blocks ++ new ∧ Q served new ∧
        s.cursor = { s₀.cursor with eventPath := index, eventFrom := served.2 } := by
  rintro s rfl served s' hrun
  obtain ⟨_, s₁, hopen, hrun⟩ := exec_bind_eq_ok.mp hrun
  have hopened : s₁.packed.blocks = s.packed.blocks ∧ s₁.cursor = s.cursor := by
    unfold openEvents at hopen
    split_ifs at hopen
    · cases hopen
      exact ⟨rfl, rfl⟩
    · rw [Serving.exec_writing] at hopen
      obtain ⟨_, rfl⟩ := Prod.mk.inj hopen
      exact ⟨rfl, rfl⟩
  rw [exec_bind_ok (Serving.exec_moveCursor _ _), exec_get_bind] at hrun
  obtain ⟨served', s₂, hserve, hrun⟩ := exec_bind_eq_ok.mp hrun
  rw [exec_bind_ok (Serving.exec_moveCursor _ _)] at hrun
  cases hrun
  obtain ⟨hblocks, hcursor⟩ := hopened
  rw [hcursor] at hserve
  obtain ⟨new, hnew, hQ, hcursor'⟩ := hpath { s₁ with cursor := { s.cursor with eventPath := index } }
    rfl _ rfl _ _ hserve
  refine ⟨new, ?_, hQ, ?_⟩
  · rw [hnew]
    exact congrArg (fun blocks => eventNumbers blocks ++ new) hblocks
  · simp only [hcursor']

/-- Behind the first path, with nothing to say and a place to carry on from that is no higher than a
bound. -/
structure Behind (bound : UInt64) (numbers : List UInt64) (done : Bool) (s : ReadState ν) : Prop where
  eventPath_pos : 1 ≤ s.cursor.eventPath
  eventFrom_le : s.cursor.eventFrom ≤ bound
  numbers_eq : eventNumbers s.packed.blocks = numbers
  done_eq : s.cursor.done = done

lemma max_le_uint64 {a b c : UInt64} (ha : a ≤ c) (hb : b ≤ c) : max a b ≤ c := by
  rw [UInt64.le_iff_toNat_le] at *
  rw [toNat_max]
  exact Nat.max_le.mpr ⟨ha, hb⟩

/-- Paths the log yields nothing for, behind the first one. -/
lemma serveEvents_behind {paths : List (Except ErrorCode EventPath)}
    (hquiet : ∀ path, .ok path ∈ paths → srv.Quiet ctx path) {bound : UInt64}
    (hfloor : eventFloor ctx ≤ bound) (numbers : List UInt64) (done : Bool) {index : ℕ}
    (hindex : 1 ≤ index) (progress : EventProgress) :
    Ensures (Behind bound numbers done) (srv.serveEvents h ctx index progress paths)
      fun progress' s => Behind bound numbers done s ∧ progress.through ≤ progress'.through ∧
        progress'.through ≤ max progress.through bound := by
  induction paths generalizing index progress with
  | nil =>
    refine Ensures.pure fun s hs => ⟨hs, UInt64.le_refl _, ?_⟩
    rw [UInt64.le_iff_toNat_le, toNat_max]
    exact Nat.le_max_left _ _
  | cons path paths ih =>
    have hquiet' : ∀ p, .ok p ∈ paths → srv.Quiet ctx p := fun p hp =>
      hquiet p (List.mem_cons_of_mem _ hp)
    apply Ensures.ofResult_bind
    rintro p rfl
    apply Ensures.get
    intro s
    split_ifs
    · exact (ih hquiet' (Nat.le_succ_of_le hindex) progress).weaken (fun _ hs => hs.2) fun _ _ hs => hs
    · have hat := srv.serveEventAt_ensures h ctx p index progress.opened s
        (Q := fun served new => new = [] ∧ served.2 ≤ max s.cursor.eventFrom (eventFloor ctx))
        fun s₁ _ => (srv.serveEventPath_quiet h ctx (hquiet p List.mem_cons_self)
          s.cursor.eventFrom s₁).weaken (fun _ hs => hs) fun served s₂ hs =>
            ⟨[], hs.1.trans (List.append_nil _).symm, ⟨rfl, hs.2.1⟩, hs.2.2⟩
      rintro s₀ ⟨rfl, hs⟩
      refine Ensures.bind (P := fun s => s = s₀) hat (fun served => ?_) s₀ rfl
      rintro s₁ ⟨new, hnumbers, ⟨rfl, hle⟩, hcursor⟩
      have hserved : served.2 ≤ bound := UInt64.le_trans hle (max_le_uint64 hs.eventFrom_le hfloor)
      have hnumbers' : eventNumbers s₁.packed.blocks = numbers := by
        rw [hnumbers, List.append_nil, hs.numbers_eq]
      have hthrough : max progress.through served.2 ≤ max progress.through bound := by
        rw [UInt64.le_iff_toNat_le, toNat_max, toNat_max] at *
        omega
      have hkept : progress.through ≤ max progress.through served.2 := by
        rw [UInt64.le_iff_toNat_le, toNat_max]
        exact Nat.le_max_left _ _
      simp only
      split_ifs
      · intro progress' s₂ hrun
        rw [exec_bind_ok (Serving.exec_moveCursor _ _)] at hrun
        have hbehind : Behind bound numbers done
            { s₁ with cursor := { s₁.cursor with eventPath := index + 1, eventFrom := 0 } } := by
          refine ⟨Nat.le_add_left 1 index, ?_, hnumbers', ?_⟩
          · rw [UInt64.le_iff_toNat_le]
            exact Nat.zero_le _
          · rw [hcursor]
            exact hs.done_eq
        obtain ⟨hs₂, hlow, hhigh⟩ := ih hquiet' (Nat.le_succ_of_le hindex) _ _ hbehind _ _ hrun
        refine ⟨hs₂, UInt64.le_trans hkept hlow, UInt64.le_trans hhigh (max_le_uint64 hthrough ?_)⟩
        exact le_max_right_uint64 _ _
      · intro progress' s₂ hrun
        cases hrun
        refine ⟨⟨?_, ?_, hnumbers', ?_⟩, hkept, hthrough⟩
        · rw [hcursor]
          exact hindex
        · rw [hcursor]
          exact hserved
        · rw [hcursor]
          exact hs.done_eq

end Server

/-- What a message does to the event half of a report: which events it sends, where it stands behind
them, and the cursor it leaves. The records are those the first path has from the cursor on. -/
inductive EventsServed (records : List EventRecord) (bound : UInt64) (c : ReadCursor) :
    List UInt64 → UInt64 → ReadCursor → Prop
  | unreached {c' : ReadCursor} (hpath : c'.eventPath = c.eventPath)
      (hfrom : c'.eventFrom = c.eventFrom) : EventsServed records bound c [] 0 c'
  | partly {c' : ReadCursor} {front back : List EventRecord} (hfirst : c.eventPath = 0)
      (hsplit : records = front ++ back) (hpath : c'.eventPath = 0)
      (hfrom : c'.eventFrom = nextAfter c.eventFrom front) :
      EventsServed records bound c (front.map EventRecord.number) (nextAfter c.eventFrom front) c'
  | wholly {c' : ReadCursor} (hfirst : c.eventPath = 0) (hpath : 1 ≤ c'.eventPath)
      (hfrom : c'.eventFrom ≤ bound) :
      EventsServed records bound c (records.map EventRecord.number) (nextAfter c.eventFrom records) c'
  | behind {c' : ReadCursor} {through : UInt64} (hbehind : 1 ≤ c.eventPath)
      (hthrough : through ≤ bound) (hpath : 1 ≤ c'.eventPath) (hfrom : c'.eventFrom ≤ bound) :
      EventsServed records bound c [] through c'

/-- A cursor stands at the first event path, from a bound on, with records in order before it, or
behind that path. -/
structure Standing (records : List EventRecord) (bound : UInt64) (c : ReadCursor) : Prop where
  first : c.eventPath = 0 → bound ≤ c.eventFrom ∧ InOrder c.eventFrom records
  behind : 1 ≤ c.eventPath → c.eventFrom ≤ bound

namespace Server

variable (srv : Server η ν) (h : η) (ctx : InteractionContext)

/-- The event paths of a report, of which the log yields something for the first only. -/
lemma serveEvents_served {p : EventPath} {paths : List (Except ErrorCode EventPath)}
    (hrefusal : srv.eventRefusal h p = none) (hevents : srv.events = some matching)
    (hquiet : ∀ path, .ok path ∈ paths → srv.Quiet ctx path) {bound : UInt64}
    (hfloor : eventFloor ctx ≤ bound) {s₀ : ReadState ν}
    (hs₀ : Standing (matching p ctx.fabricIndex s₀.cursor.eventFrom) bound s₀.cursor) :
    Ensures (fun s => s = s₀) (srv.serveEvents h ctx 0 {} (.ok p :: paths)) fun progress s =>
      ∃ sent, eventNumbers s.packed.blocks = eventNumbers s₀.packed.blocks ++ sent ∧
        EventsServed (matching p ctx.fabricIndex s₀.cursor.eventFrom) bound s₀.cursor sent
          progress.through s.cursor ∧
        s.cursor.done = s₀.cursor.done ∧ (s.cursor.eventPath = 0 → progress.truncated = true) := by
  rintro s rfl progress s' hrun
  rw [serveEvents, exec_bind_ok (exec_ofResult _ _), exec_get_bind] at hrun
  split_ifs at hrun with hpos
  · -- The first path was finished in an earlier message.
    obtain ⟨hs', _, hhigh⟩ := srv.serveEvents_behind h ctx hquiet hfloor _ _ (Nat.le_refl 1) {} s
      ⟨hpos, hs₀.behind hpos, rfl, rfl⟩ progress s' hrun
    refine ⟨[], by rw [hs'.numbers_eq, List.append_nil],
      .behind hpos ?_ hs'.eventPath_pos hs'.eventFrom_le, hs'.done_eq, fun hzero => ?_⟩
    · refine UInt64.le_trans hhigh (max_le_uint64 ?_ (UInt64.le_refl _))
      rw [UInt64.le_iff_toNat_le]
      exact Nat.zero_le _
    · have := hs'.eventPath_pos
      omega
  · have hfirst : s.cursor.eventPath = 0 := Nat.eq_zero_of_not_pos hpos
    obtain ⟨hbound, horder⟩ := hs₀.first hfirst
    obtain ⟨served, s₁, hat, hrun⟩ := exec_bind_eq_ok.mp hrun
    obtain ⟨new, hnumbers, ⟨front, back, hsplit, rfl, hnext, hall⟩, hcursor⟩ :=
      srv.serveEventAt_ensures h ctx p 0 false s
        (Q := fun served new => ∃ front back,
          matching p ctx.fabricIndex s.cursor.eventFrom = front ++ back ∧
          new = front.map EventRecord.number ∧ served.2 = nextAfter s.cursor.eventFrom front ∧
          (served.1 = true → back = []))
        (fun s₁ _ => (srv.serveEventPath_numbers h ctx hrefusal hevents
          (UInt64.le_trans hfloor hbound) s₁).weaken (fun _ hs => hs) fun served s₂ hs => by
            obtain ⟨front, back, hsplit, hnumbers, hnext, hall, hcursor⟩ := hs
            exact ⟨_, hnumbers, ⟨front, back, hsplit, rfl, hnext, hall⟩, hcursor⟩)
        s rfl served s₁ hat
    have hle : s.cursor.eventFrom ≤ nextAfter s.cursor.eventFrom front :=
      (hsplit ▸ horder).mem_front_iff.1
    simp only at hrun
    split_ifs at hrun with hserved
    · -- The first path is finished; what follows it says nothing.
      obtain rfl := hall hserved
      rw [List.append_nil] at hsplit
      rw [exec_bind_ok (Serving.exec_moveCursor _ _)] at hrun
      have hbehind : Behind bound
          (eventNumbers s.packed.blocks ++ front.map EventRecord.number) s.cursor.done
          { s₁ with cursor := { s₁.cursor with eventPath := 0 + 1, eventFrom := 0 } } := by
        refine ⟨Nat.le_refl 1, ?_, hnumbers, by rw [hcursor]⟩
        rw [UInt64.le_iff_toNat_le]
        exact Nat.zero_le _
      obtain ⟨hs', hlow, hhigh⟩ := srv.serveEvents_behind h ctx hquiet hfloor _ _ (Nat.le_refl 1) _ _
        hbehind progress s' hrun
      have hthrough : progress.through = nextAfter s.cursor.eventFrom front := by
        apply UInt64.toNat_inj.mp
        rw [UInt64.le_iff_toNat_le] at hlow hhigh hle hbound
        rw [toNat_max] at hhigh
        simp only [toNat_max, hnext] at hlow hhigh
        have hzero : (0 : UInt64).toNat = 0 := rfl
        omega
      refine ⟨_, hs'.numbers_eq, ?_, hs'.done_eq, fun hzero => ?_⟩
      · rw [hthrough, ← hsplit]
        exact .wholly hfirst hs'.eventPath_pos hs'.eventFrom_le
      · have := hs'.eventPath_pos
        omega
    · cases hrun
      have hthrough : max 0 served.2 = nextAfter s.cursor.eventFrom front := by
        apply UInt64.toNat_inj.mp
        rw [toNat_max, hnext]
        exact Nat.max_eq_right (Nat.zero_le _)
      refine ⟨_, hnumbers, ?_, by rw [hcursor], fun _ => rfl⟩
      show EventsServed _ _ _ _ (max 0 served.2) _
      rw [hthrough]
      exact .partly hfirst hsplit (by rw [hcursor]) (by rw [hcursor, ← hnext])

/-- Serving attributes adds no event, and leaves the cursor where it is among the events. -/
lemma steady_events (numbers : List UInt64) (c : ReadCursor) :
    Steady srv fun s => eventNumbers s.packed.blocks = numbers ∧ s.cursor.eventPath = c.eventPath ∧
      s.cursor.eventFrom = c.eventFrom ∧ s.cursor.done = c.done where
  put := by
    rintro b hb s ⟨hnumbers, hcursor⟩ fitted s' hrun
    have hblocks := srv.put_blocks b s
    have hkept : (exec (srv.put b) s).2.cursor = s.cursor := rfl
    rw [hrun] at hblocks hkept
    rw [hkept]
    refine ⟨?_, hcursor⟩
    rcases hblocks with ⟨hblocks, _⟩ | ⟨hblocks, _, _⟩
    · rw [hblocks]
      exact hnumbers
    · have hnone : b.eventNumber? = none := by
        cases b with
        | «attribute» report | item dataVersion path bytes => rfl
        | event report => cases hb
      rw [hblocks, eventNumbers_append, hnumbers]
      unfold eventNumbers
      rw [List.filterMap_cons_none hnone, List.filterMap_nil, List.append_nil]
  cursor := fun _ _ _ _ hs => hs
  versions := fun _ _ hs => hs

end Server

/-- Only the event half of the cursors matters. -/
lemma EventsServed.congr {records : List EventRecord} {bound through : UInt64}
    {c d c' d' : ReadCursor} {sent : List UInt64}
    (hserved : EventsServed records bound c sent through c') (hpath : c.eventPath = d.eventPath)
    (hfrom : c.eventFrom = d.eventFrom) (hpath' : c'.eventPath = d'.eventPath)
    (hfrom' : c'.eventFrom = d'.eventFrom) : EventsServed records bound d sent through d' := by
  cases hserved with
  | unreached h h' => exact .unreached (by rw [← hpath', h, hpath]) (by rw [← hfrom', h', hfrom])
  | partly hfirst hsplit h h' =>
    rw [hfrom', hfrom] at h'
    rw [hfrom]
    exact .partly (hpath ▸ hfirst) hsplit (hpath' ▸ h) h'
  | wholly hfirst h h' =>
    rw [hfrom]
    exact .wholly (hpath ▸ hfirst) (hpath' ▸ h) (hfrom' ▸ h')
  | behind hbehind hthrough h h' =>
    exact .behind (hpath ▸ hbehind) hthrough (hpath' ▸ h) (hfrom' ▸ h')

namespace Server

variable (srv : Server η ν) (h : η) (ctx : InteractionContext)

/-- What a message does to the event half of a report. -/
lemma serveChunkWithEvents_served {p : EventPath} {rest : List (Except ErrorCode EventPath)}
    (hrefusal : srv.eventRefusal h p = none) (hevents : srv.events = some matching)
    (hquiet : ∀ path, .ok path ∈ rest → srv.Quiet ctx path) {bound : UInt64}
    (hfloor : eventFloor ctx ≤ bound) {paths : List (Except ErrorCode AttributePath)}
    {subscriptionId : Option UInt32} {scratch buf : Slice} {packed : Packed Block} {c : ReadCursor}
    {v : ν} {r : List UInt8 × ReadOutcome} {s' : ReadState ν}
    (hs : Standing (matching p ctx.fabricIndex c.eventFrom) bound c)
    (hrun : exec (srv.serveChunkWithEvents h paths (.ok p :: rest) ctx subscriptionId scratch buf)
      ⟨packed, c, v⟩ = (.ok r, s')) :
    EventsServed (matching p ctx.fabricIndex c.eventFrom) bound c (eventNumbers s'.packed.blocks)
        r.2.eventsThrough s'.cursor ∧ (s'.cursor.eventPath = 0 → s'.cursor.done = c.done) := by
  obtain ⟨stopped, progress, s₁, s₂, s₃, hhead, _, hpaths, hstopped, hhalf, hclose⟩ :=
    srv.serveChunkWithEvents_of_ok h ctx scratch hrun
  obtain ⟨hnumbers, hpath, hfrom, hdone⟩ := (srv.steady_events [] c).servePaths h ctx scratch
    c.path 0 paths s₁ (by rw [hhead.blocks_eq, hhead.cursor_eq]; exact ⟨rfl, rfl, rfl, rfl⟩)
    stopped s₂ hpaths
  obtain ⟨houtcome, _, hend⟩ := closeReport_of_ok hclose
  rw [houtcome, hend.blocks_eq, hend.cursor_eq]
  cases stopped with
  | true =>
    obtain ⟨rfl, rfl⟩ := hstopped rfl
    rw [hnumbers]
    exact ⟨.unreached hpath hfrom, fun _ => (Bool.or_false _).trans hdone⟩
  | false =>
    obtain ⟨s₄, s₅, hsame, hserve, hsame'⟩ := srv.serveEventHalf_of_ok h ctx (hhalf rfl)
    have hpath' : s₄.cursor.eventPath = c.eventPath := by rw [hsame.cursor_eq, hpath]
    have hfrom' : s₄.cursor.eventFrom = c.eventFrom := by rw [hsame.cursor_eq, hfrom]
    have hs₄ : Standing (matching p ctx.fabricIndex s₄.cursor.eventFrom) bound s₄.cursor := by
      constructor
      · rw [hpath', hfrom']
        exact hs.first
      · rw [hpath', hfrom']
        exact hs.behind
    obtain ⟨sent, hsent, hserved, hdone', htruncated⟩ :=
      srv.serveEvents_served h ctx hrefusal hevents hquiet hfloor hs₄ s₄ rfl progress s₅ hserve
    rw [hsame.blocks_eq, hnumbers, List.nil_append] at hsent
    rw [hfrom'] at hserved
    rw [hsame'.blocks_eq, hsame'.cursor_eq, hsent]
    refine ⟨hserved.congr hpath' hfrom' rfl rfl, fun hzero => ?_⟩
    · show (s₅.cursor.done || !progress.truncated) = _
      rw [htruncated hzero, Bool.not_true, Bool.or_false, hdone', hsame.cursor_eq, hdone]

end Server

/-! ## A subscription and a log -/

/-- A subscription and a log, with the blocks sent by the series under way, and the complete series,
each with the bookmark it started from. `openedAt` is the next number of the log when the series under
way began, and `settled` what it was for the last complete one. -/
structure Feed (P C I D : ℕ) where
  sub : Subscription P
  store : EventStore C I D
  fresh : Bool
  openedAt : UInt64
  series : List Block
  completed : List (UInt64 × List Block)
  settled : UInt64

/-- What happens to a subscription and a log. -/
inductive FeedOp (η ν : Type)
  | record (event : NewEvent)
  | reserved (value : UInt64)
  | noteChange (path : AttributePath)
  | noteClusterChange (endpoint : EndpointId) (cluster : ClusterId)
  | reportChunk (srv : Server η ν) (h : η) (v : ν) (ctx : InteractionContext) (scratch buf : Slice)
  | reported (now : Instant)

namespace Feed

/-- A new subscription, and an empty log. -/
def start (sub : Subscription P) (numbers : EventNumbers) : Feed P C I D :=
  ⟨sub, .new numbers, true, 0, [], [], 0⟩

/-- One message of a report of the subscription. -/
def message (f : Feed P C I D) (srv : Server η ν) (h : η) (v : ν) (ctx : InteractionContext)
    (scratch buf : Slice) : Report P ν :=
  (srv.withEvents f.store).reportChunk h v f.sub .data ctx scratch buf

/-- The numbers the complete series carry. -/
def sent (f : Feed P C I D) : List UInt64 := f.completed.flatMap fun c => eventNumbers c.2

/-- Every recorded event at or above a number is in the complete series as often as a path matches it
once a series has been completed that was begun after it was recorded, and never more often; and no
series carries an event below the bookmark the one before it left. -/
def ExactlyOnce (least : UInt64) (f : Feed P C I D) : Prop :=
  (∀ r ∈ f.store.records, least ≤ r.number →
    f.sent.count r.number ≤ f.sub.eventPaths.toList.countP (fun path => r.matchesPath path) ∧
      (r.number < f.settled →
        f.sent.count r.number = f.sub.eventPaths.toList.countP (fun path => r.matchesPath path))) ∧
  ∀ c ∈ f.completed, ∀ n ∈ eventNumbers c.2, c.1 ≤ n

instance (least : UInt64) (f : Feed P C I D) : Decidable (f.ExactlyOnce least) :=
  inferInstanceAs (Decidable (_ ∧ _))

end Feed

namespace FeedOp

/-- What an operation makes of a subscription and a log. -/
def step (f : Feed P C I D) : FeedOp η ν → Feed P C I D
  | record event => { f with store := (f.store.record event).2 }
  | reserved value => { f with store := f.store.reserved value }
  | noteChange path => { f with sub := f.sub.noteChange path }
  | noteClusterChange endpoint cluster => { f with sub := f.sub.noteClusterChange endpoint cluster }
  | reportChunk srv h v ctx scratch buf =>
    { f with
      sub := (f.message srv h v ctx scratch buf).subscription
      fresh := false
      openedAt := if f.fresh then f.store.numbers.next else f.openedAt
      series := f.series ++ (f.message srv h v ctx scratch buf).blocks }
  | reported now =>
    { f with
      sub := f.sub.reported now
      fresh := true
      series := []
      completed := f.completed ++ [(f.sub.nextEventNumber, f.series)]
      settled := f.openedAt }

/-- The log drops nothing, every message is built, and a series is completed when its last message is
and not before. -/
def Orderly (f : Feed P C I D) : FeedOp η ν → Prop
  | record event => f.store.HasRoom event.priority
  | reportChunk srv h v ctx scratch buf =>
    f.sub.cursor.done = false ∧ (f.message srv h v ctx scratch buf).result.isOk = true
  | reported _ => f.sub.cursor.done = true
  | _ => True

/-- What a message asks of the log and of its request. The first event path is not refused, no event
filter is above `least`, every record that the path matches is visible to the subscriber's fabric, no
more of them wait than a query holds, and no other path matches a record. -/
structure Unhindered (p : EventPath) (rest : List EventPath) (least : UInt64) (f : Feed P C I D)
    (srv : Server η ν) (h : η) (ctx : InteractionContext) : Prop where
  refusal : srv.eventRefusal h p = none
  floor : Server.eventFloor ctx ≤ least
  visible : ∀ r ∈ f.store.records, r.matchesPath p = true → r.visibleTo ctx.fabricIndex = true
  room : (f.store.records.filter
    (EventStore.asked p ctx.fabricIndex f.sub.nextEventNumber)).length ≤ 64
  others : ∀ q ∈ rest, ∀ r ∈ f.store.records, r.matchesPath q = false

instance (p : EventPath) (rest : List EventPath) (least : UInt64) (f : Feed P C I D)
    (srv : Server η ν) (h : η) (ctx : InteractionContext) :
    Decidable (Unhindered p rest least f srv h ctx) :=
  decidable_of_iff
    (srv.eventRefusal h p = none ∧ Server.eventFloor ctx ≤ least ∧
      (∀ r ∈ f.store.records, r.matchesPath p = true → r.visibleTo ctx.fabricIndex = true) ∧
      (f.store.records.filter
        (EventStore.asked p ctx.fabricIndex f.sub.nextEventNumber)).length ≤ 64 ∧
      ∀ q ∈ rest, ∀ r ∈ f.store.records, r.matchesPath q = false)
    ⟨fun ⟨a, b, c, d, e⟩ => ⟨a, b, c, d, e⟩, fun ⟨a, b, c, d, e⟩ => ⟨a, b, c, d, e⟩⟩

/-- Every message of a run is unhindered. -/
def Clear (p : EventPath) (rest : List EventPath) (least : UInt64) (f : Feed P C I D) :
    FeedOp η ν → Prop
  | reportChunk srv h _ ctx _ _ => Unhindered p rest least f srv h ctx
  | _ => True

instance (p : EventPath) (rest : List EventPath) (least : UInt64) (f : Feed P C I D) :
    ∀ op : FeedOp η ν, Decidable (op.Clear p rest least f)
  | reportChunk srv h _ ctx _ _ => inferInstanceAs (Decidable (Unhindered p rest least f srv h ctx))
  | record _ | reserved _ | noteChange _ | noteClusterChange _ _ | reported _ => .isTrue trivial

instance (f : Feed P C I D) : ∀ op : FeedOp η ν, Decidable (op.Orderly f)
  | record event => inferInstanceAs (Decidable (f.store.HasRoom event.priority))
  | reserved _ | noteChange _ | noteClusterChange _ _ => .isTrue trivial
  | reportChunk _ _ _ _ _ _ => inferInstanceAs (Decidable (_ ∧ _))
  | reported _ => inferInstanceAs (Decidable (_ = _))

end FeedOp

/-! ## The invariant -/

namespace Feed

/-- How far the series under way has come. -/
def front (f : Feed P C I D) : ℕ := max f.sub.nextEventNumber.toNat f.sub.reportedThrough.toNat

/-- The numbers of the records a path matches, from one on and below another. -/
def Recorded (f : Feed P C I D) (p : EventPath) (low high : ℕ) (n : UInt64) : Prop :=
  ∃ r ∈ f.store.records, r.matchesPath p = true ∧ r.number = n ∧ low ≤ n.toNat ∧ n.toNat < high

/-- The complete series carry what was recorded below the bookmark, the series under way what was
recorded from there to where it stands, each number once. -/
structure Kept (p : EventPath) (rest : List EventPath) (least : UInt64) (f : Feed P C I D) :
    Prop where
  eventPaths_eq : f.sub.eventPaths.toList = p :: rest
  numbered : f.store.Numbered
  least_le : least.toNat ≤ f.sub.nextEventNumber.toNat
  front_le : f.front ≤ max least.toNat f.store.numbers.next.toNat
  sent_nodup : f.sent.Nodup
  mem_sent : ∀ n, n ∈ f.sent ↔ f.Recorded p least.toNat f.sub.nextEventNumber.toNat n
  series_nodup : (eventNumbers f.series).Nodup
  mem_series : ∀ n, n ∈ eventNumbers f.series ↔
    f.Recorded p f.sub.nextEventNumber.toNat f.front n
  completed_low : ∀ c ∈ f.completed, ∀ n ∈ eventNumbers c.2, c.1 ≤ n
  first : f.sub.cursor.eventPath = 0 → f.sub.cursor.done = false ∧
    (Server.reportCursor f.sub.cursor f.sub.nextEventNumber).eventFrom.toNat = f.front
  behind : 1 ≤ f.sub.cursor.eventPath → f.sub.cursor.eventFrom ≤ least ∧
    ∀ r ∈ f.store.records, r.matchesPath p = true → r.number < f.openedAt → r.number.toNat < f.front
  fresh_first : f.fresh = true → f.sub.cursor.eventPath = 0
  openedAt_le : f.openedAt ≤ f.store.numbers.next
  settled_le : f.settled ≤ f.store.numbers.next
  opened_quiet : ∀ r ∈ f.store.records, r.number < f.openedAt → ∀ q ∈ rest, r.matchesPath q = false
  settled_quiet : ∀ r ∈ f.store.records, r.number < f.settled → ∀ q ∈ rest, r.matchesPath q = false
  settled_lt : ∀ r ∈ f.store.records, r.matchesPath p = true → r.number < f.settled →
    r.number.toNat < f.sub.nextEventNumber.toNat

variable {p : EventPath} {rest : List EventPath} {least : UInt64} {f : Feed P C I D}

variable {sub : Subscription P} {srv : Server η ν} {d : η} {ctx : InteractionContext}
  {since : UInt64}

lemma kept_start (numbers : EventNumbers) (hpaths : sub.eventPaths.toList = p :: rest)
    (hcursor : sub.cursor = .start) (hthrough : sub.reportedThrough = 0) :
    (start sub numbers : Feed P C I D).Kept p rest sub.nextEventNumber := by
  have hfront : (start sub numbers : Feed P C I D).front = sub.nextEventNumber.toNat := by
    unfold front start
    rw [hthrough]
    exact Nat.max_eq_left (Nat.zero_le _)
  have hnone : ∀ low high n, ¬ (start sub numbers : Feed P C I D).Recorded p low high n := by
    rintro low high n ⟨r, hr, _⟩
    cases hr
  have hcursor' : (start sub numbers : Feed P C I D).sub.cursor = .start := hcursor
  exact
    { eventPaths_eq := hpaths
      numbered := EventStore.numbered_new numbers
      least_le := Nat.le_refl _
      front_le := by
        rw [hfront]
        exact Nat.le_max_left _ _
      sent_nodup := List.nodup_nil
      mem_sent := fun n => ⟨nofun, fun h => absurd h (hnone _ _ n)⟩
      series_nodup := List.nodup_nil
      mem_series := fun n => ⟨nofun, fun h => absurd h (hnone _ _ n)⟩
      completed_low := nofun
      first := by
        rw [hcursor', hfront]
        exact fun _ => ⟨rfl, rfl⟩
      behind := by
        rw [hcursor']
        exact fun h => absurd h (by decide)
      fresh_first := fun _ => by rw [hcursor']; rfl
      openedAt_le := UInt64.le_iff_toNat_le.mpr (Nat.zero_le _)
      settled_le := UInt64.le_iff_toNat_le.mpr (Nat.zero_le _)
      opened_quiet := nofun
      settled_quiet := nofun
      settled_lt := nofun }

/-- Only the event half of the subscription matters. -/
lemma Kept.of_sub (h : f.Kept p rest least) (hpaths : sub.eventPaths = f.sub.eventPaths)
    (hcursor : sub.cursor = f.sub.cursor) (hnext : sub.nextEventNumber = f.sub.nextEventNumber)
    (hthrough : sub.reportedThrough = f.sub.reportedThrough) :
    ({ f with sub := sub } : Feed P C I D).Kept p rest least := by
  obtain ⟨⟩ := f
  obtain ⟨⟩ := sub
  cases hpaths
  cases hcursor
  cases hnext
  cases hthrough
  exact ⟨h.eventPaths_eq, h.numbered, h.least_le, h.front_le, h.sent_nodup, h.mem_sent,
    h.series_nodup, h.mem_series, h.completed_low, h.first, h.behind, h.fresh_first, h.openedAt_le,
    h.settled_le, h.opened_quiet, h.settled_quiet, h.settled_lt⟩

lemma recorded_split {a b c : ℕ} (hab : a ≤ b) (hbc : b ≤ c) (n : UInt64) :
    f.Recorded p a c n ↔ f.Recorded p a b n ∨ f.Recorded p b c n := by
  constructor
  · rintro ⟨r, hr, hmatch, hn, hle, hlt⟩
    rcases Nat.lt_or_ge n.toNat b with hb | hb
    · exact .inl ⟨r, hr, hmatch, hn, hle, hb⟩
    · exact .inr ⟨r, hr, hmatch, hn, hb, hlt⟩
  · rintro (⟨r, hr, hmatch, hn, hle, hlt⟩ | ⟨r, hr, hmatch, hn, hle, hlt⟩)
    · exact ⟨r, hr, hmatch, hn, hle, Nat.lt_of_lt_of_le hlt hbc⟩
    · exact ⟨r, hr, hmatch, hn, Nat.le_trans hab hle, hlt⟩

/-- A log that has grown, by records under its next number at most. -/
lemma Kept.of_store (h : f.Kept p rest least) {store : EventStore C I D} (hnumbered : store.Numbered)
    (hnext : f.store.numbers.next ≤ store.numbers.next) (hold : ∀ r ∈ f.store.records, r ∈ store.records)
    (hnew : ∀ r ∈ store.records, r ∈ f.store.records ∨ r.number = f.store.numbers.next) :
    ({ f with store := store } : Feed P C I D).Kept p rest least := by
  have hnext' := UInt64.le_iff_toNat_le.mp hnext
  have hrecorded : ∀ low high n, least.toNat ≤ low →
      high ≤ max least.toNat f.store.numbers.next.toNat →
      (f.Recorded p low high n ↔ ({ f with store := store } : Feed P C I D).Recorded p low high n) := by
    intro low high n hlow hhigh
    constructor
    · rintro ⟨r, hr, hrest⟩
      exact ⟨r, hold r hr, hrest⟩
    · rintro ⟨r, hr, hmatch, hn, hle, hlt⟩
      rcases hnew r hr with hr | hnumber
      · exact ⟨r, hr, hmatch, hn, hle, hlt⟩
      · -- A new record is not below what is there already.
        rw [← hn, hnumber] at hle hlt
        omega
  -- Nor is it below the next number of an earlier log.
  have hearlier : ∀ {bound : UInt64}, bound ≤ f.store.numbers.next → ∀ r ∈ store.records,
      r.number < bound → r ∈ f.store.records := by
    intro bound hbound r hr hlt
    rcases hnew r hr with hr | hnumber
    · exact hr
    · rw [hnumber, UInt64.lt_iff_toNat_lt] at hlt
      rw [UInt64.le_iff_toNat_le] at hbound
      omega
  have hbookmark : f.sub.nextEventNumber.toNat ≤ f.front := Nat.le_max_left _ _
  exact
    { eventPaths_eq := h.eventPaths_eq
      numbered := hnumbered
      least_le := h.least_le
      front_le := by
        have := h.front_le
        show f.front ≤ max least.toNat store.numbers.next.toNat
        omega
      sent_nodup := h.sent_nodup
      mem_sent := fun n => (h.mem_sent n).trans
        (hrecorded _ _ n (Nat.le_refl _) (hbookmark.trans h.front_le))
      series_nodup := h.series_nodup
      mem_series := fun n => (h.mem_series n).trans (hrecorded _ _ n h.least_le h.front_le)
      completed_low := h.completed_low
      first := h.first
      behind := fun hbehind => ⟨(h.behind hbehind).1, fun r hr hmatch hlt =>
        (h.behind hbehind).2 r (hearlier h.openedAt_le r hr hlt) hmatch hlt⟩
      fresh_first := h.fresh_first
      openedAt_le := UInt64.le_trans h.openedAt_le hnext
      settled_le := UInt64.le_trans h.settled_le hnext
      opened_quiet := fun r hr hlt => h.opened_quiet r (hearlier h.openedAt_le r hr hlt) hlt
      settled_quiet := fun r hr hlt => h.settled_quiet r (hearlier h.settled_le r hr hlt) hlt
      settled_lt := fun r hr hmatch hlt =>
        h.settled_lt r (hearlier h.settled_le r hr hlt) hmatch hlt }

lemma Kept.record (h : f.Kept p rest least) {event : NewEvent} (hroom : f.store.HasRoom event.priority) :
    ({ f with store := (f.store.record event).2 } : Feed P C I D).Kept p rest least := by
  rcases EventStore.record_cases hroom with hsame | ⟨stored, _, _, hperm, hnext⟩
  · rwa [hsame]
  · refine h.of_store (h.numbered.record event) ?_ (fun r hr => ?_) fun r hr => ?_
    · rw [UInt64.le_iff_toNat_le, hnext]
      exact Nat.le_succ _
    · exact hperm.mem_iff.mpr (List.mem_cons_of_mem _ hr)
    · rcases List.mem_cons.mp (hperm.mem_iff.mp hr) with rfl | hr
      · exact .inr rfl
      · exact .inl hr

lemma Kept.reserved (h : f.Kept p rest least) (value : UInt64) :
    ({ f with store := f.store.reserved value } : Feed P C I D).Kept p rest least := by
  have hnext : (f.store.reserved value).numbers.next = f.store.numbers.next := by
    unfold EventStore.reserved EventNumbers.reserved
    split_ifs
    · rfl
    · rfl
  refine h.of_store ⟨h.numbered.unique, ?_⟩ ?_ (fun r hr => hr) fun r hr => .inl hr
  · rw [hnext]
    exact h.numbered.lt_next
  · rw [hnext]
    exact UInt64.le_refl _

/-- A series that is complete moves the bookmark to where it stands. -/
lemma Kept.reported (h : f.Kept p rest least) (hdone : f.sub.cursor.done = true) (now : Instant) :
    Kept p rest least ((FeedOp.reported now : FeedOp η ν).step f) := by
  have hbehind : 1 ≤ f.sub.cursor.eventPath := by
    by_contra hzero
    have := (h.first (Nat.eq_zero_of_not_pos hzero)).1
    rw [hdone] at this
    cases this
  have hbookmark : (max f.sub.nextEventNumber f.sub.reportedThrough).toNat = f.front := toNat_max _ _
  have hfront : ((FeedOp.reported now : FeedOp η ν).step f).front = f.front := by
    show max (max f.sub.nextEventNumber f.sub.reportedThrough).toNat (0 : UInt64).toNat = _
    rw [hbookmark]
    exact Nat.max_eq_left (Nat.zero_le _)
  have hsent : ((FeedOp.reported now : FeedOp η ν).step f).sent = f.sent ++ eventNumbers f.series := by
    show (f.completed ++ [(f.sub.nextEventNumber, f.series)]).flatMap _ = _
    rw [List.flatMap_append]
    exact congrArg (f.sent ++ ·) (List.append_nil _)
  exact
    { eventPaths_eq := h.eventPaths_eq
      numbered := h.numbered
      least_le := by
        show _ ≤ (max f.sub.nextEventNumber f.sub.reportedThrough).toNat
        rw [hbookmark]
        exact h.least_le.trans (Nat.le_max_left _ _)
      front_le := by
        rw [hfront]
        exact h.front_le
      sent_nodup := by
        rw [hsent]
        refine List.Nodup.append h.sent_nodup h.series_nodup fun n hn hn' => ?_
        obtain ⟨_, _, _, _, _, hlt⟩ := (h.mem_sent n).mp hn
        obtain ⟨_, _, _, _, hle, _⟩ := (h.mem_series n).mp hn'
        omega
      mem_sent := by
        intro n
        show n ∈ _ ↔ Recorded _ p least.toNat (max f.sub.nextEventNumber f.sub.reportedThrough).toNat n
        rw [hsent, List.mem_append, h.mem_sent, h.mem_series, hbookmark]
        exact (recorded_split h.least_le (Nat.le_max_left _ _) n).symm
      series_nodup := List.nodup_nil
      mem_series := by
        intro n
        refine ⟨nofun, ?_⟩
        rintro ⟨_, _, _, _, hle, hlt⟩
        rw [hfront, ← hbookmark] at hlt
        exact absurd hlt (Nat.not_lt.mpr hle)
      completed_low := by
        intro c hc n hn
        rcases List.mem_append.mp hc with hc | hc
        · exact h.completed_low c hc n hn
        · cases List.mem_singleton.mp hc
          obtain ⟨_, _, _, _, hle, _⟩ := (h.mem_series n).mp hn
          exact UInt64.le_iff_toNat_le.mpr hle
      first := fun _ => ⟨rfl, by rw [hfront]; exact hbookmark⟩
      behind := fun hpos => absurd hpos (Nat.not_succ_le_zero 0)
      fresh_first := fun _ => rfl
      openedAt_le := h.openedAt_le
      settled_le := h.openedAt_le
      opened_quiet := h.opened_quiet
      settled_quiet := h.opened_quiet
      settled_lt := by
        intro r hr hmatch hlt
        show r.number.toNat < (max f.sub.nextEventNumber f.sub.reportedThrough).toNat
        rw [hbookmark]
        exact (h.behind hbehind).2 r hr hmatch hlt }

/-- A message moves the series under way to where it has come, with what was recorded in between. -/
lemma Kept.advance (h : f.Kept p rest least) {f' : Feed P C I D} {l : List UInt64}
    (hpaths : f'.sub.eventPaths = f.sub.eventPaths) (hstore : f'.store = f.store)
    (hbookmark : f'.sub.nextEventNumber = f.sub.nextEventNumber)
    (hcompleted : f'.completed = f.completed) (hsettled : f'.settled = f.settled)
    (hfresh : f'.fresh = false) (hopened : f'.openedAt ≤ f.store.numbers.next)
    (hquiet : ∀ r ∈ f.store.records, r.number < f'.openedAt → ∀ q ∈ rest, r.matchesPath q = false)
    (hseries : eventNumbers f'.series = eventNumbers f.series ++ l) (hnodup : l.Nodup)
    (hnew : ∀ n, n ∈ l ↔ f.Recorded p f.front f'.front n) (hfront : f.front ≤ f'.front)
    (hfront' : f'.front ≤ max least.toNat f.store.numbers.next.toNat)
    (hfirst : f'.sub.cursor.eventPath = 0 → f'.sub.cursor.done = false ∧
      (Server.reportCursor f'.sub.cursor f.sub.nextEventNumber).eventFrom.toNat = f'.front)
    (hbehind : 1 ≤ f'.sub.cursor.eventPath → f'.sub.cursor.eventFrom ≤ least ∧
      ∀ r ∈ f.store.records, r.matchesPath p = true → r.number < f'.openedAt →
        r.number.toNat < f'.front) : f'.Kept p rest least := by
  have hrecorded : ∀ low high n, f'.Recorded p low high n ↔ f.Recorded p low high n := by
    intro low high n
    unfold Recorded
    rw [hstore]
  have hsent : f'.sent = f.sent := by
    unfold sent
    rw [hcompleted]
  exact
    { eventPaths_eq := by rw [hpaths, h.eventPaths_eq]
      numbered := hstore ▸ h.numbered
      least_le := hbookmark ▸ h.least_le
      front_le := hstore ▸ hfront'
      sent_nodup := hsent ▸ h.sent_nodup
      mem_sent := fun n => by rw [hsent, hrecorded, hbookmark, h.mem_sent]
      series_nodup := by
        rw [hseries]
        refine List.Nodup.append h.series_nodup hnodup fun n hn hn' => ?_
        obtain ⟨_, _, _, _, _, hlt⟩ := (h.mem_series n).mp hn
        obtain ⟨_, _, _, _, hle, _⟩ := (hnew n).mp hn'
        omega
      mem_series := fun n => by
        rw [hseries, List.mem_append, h.mem_series, hnew, hrecorded, hbookmark]
        exact (recorded_split (Nat.le_max_left _ _) hfront n).symm
      completed_low := hcompleted ▸ h.completed_low
      first := hbookmark ▸ hfirst
      behind := hstore ▸ hbehind
      fresh_first := fun hf => by rw [hfresh] at hf; cases hf
      openedAt_le := hstore ▸ hopened
      settled_le := by rw [hsettled, hstore]; exact h.settled_le
      opened_quiet := hstore ▸ hquiet
      settled_quiet := by rw [hsettled, hstore]; exact h.settled_quiet
      settled_lt := by rw [hsettled, hstore, hbookmark]; exact h.settled_lt }

lemma nextAfter_le {since bound : UInt64} {records : List EventRecord} (hsince : since ≤ bound)
    (h : ∀ r ∈ records, r.number < bound) : nextAfter since records ≤ bound := by
  induction records generalizing since with
  | nil => exact hsince
  | cons r records ih =>
    refine ih ?_ fun r' hr' => h r' (List.mem_cons_of_mem _ hr')
    have hlt := UInt64.lt_iff_toNat_lt.mp (h r List.mem_cons_self)
    rw [UInt64.le_iff_toNat_le, toNat_satAdd]
    show min (r.number.toNat + 1) _ ≤ _
    omega

/-- The records a query from a number on yields are those the path matches from there on. -/
lemma mem_matching (hclear : FeedOp.Unhindered p rest least f srv d ctx)
    (hsince : f.sub.nextEventNumber ≤ since) {r : EventRecord} :
    r ∈ f.store.matching p ctx.fabricIndex since ↔
      r ∈ f.store.records ∧ r.matchesPath p = true ∧ since ≤ r.number := by
  have hroom : (f.store.records.filter (EventStore.asked p ctx.fabricIndex since)).length ≤ 64 := by
    refine Nat.le_trans (List.Sublist.length_le ?_) hclear.room
    refine List.monotone_filter_right _ fun r hr => ?_
    unfold EventStore.asked at hr ⊢
    simp only [Bool.and_eq_true, decide_eq_true_eq, ge_iff_le] at hr ⊢
    exact ⟨⟨UInt64.le_trans hsince hr.1.1, hr.1.2⟩, hr.2⟩
  rw [EventStore.mem_matching_iff hroom]
  constructor
  · rintro ⟨hr, hle, hmatch, _⟩
    exact ⟨hr, hmatch, hle⟩
  · rintro ⟨hr, hmatch, hle⟩
    exact ⟨hr, hle, hmatch, hclear.visible r hr hmatch⟩

lemma Kept.inOrder_matching (h : f.Kept p rest least)
    (hclear : FeedOp.Unhindered p rest least f srv d ctx) (hsince : f.sub.nextEventNumber ≤ since) :
    InOrder since (f.store.matching p ctx.fabricIndex since) := by
  refine ⟨EventStore.pairwise_matching h.numbered p ctx.fabricIndex since, fun r hr => ?_,
    fun r hr => ?_⟩
  · exact ((mem_matching hclear hsince).mp hr).2.2
  · have hlt := h.numbered.lt_next r ((mem_matching hclear hsince).mp hr).1
    have hmax := f.store.numbers.next.toNat_lt
    rw [UInt64.lt_iff_toNat_lt] at hlt
    omega

/-- The part of a query that a message sends is what was recorded from where the series stood to where
it has come. -/
lemma Kept.mem_front (h : f.Kept p rest least) (hclear : FeedOp.Unhindered p rest least f srv d ctx)
    (hsince : f.sub.nextEventNumber ≤ since) {front back : List EventRecord}
    (hsplit : f.store.matching p ctx.fabricIndex since = front ++ back) :
    (front.map EventRecord.number).Nodup ∧ ∀ n, n ∈ front.map EventRecord.number ↔
      f.Recorded p since.toNat (nextAfter since front).toNat n := by
  have horder := h.inOrder_matching hclear hsince
  rw [hsplit] at horder
  have hmem : ∀ r, r ∈ front ++ back ↔
      r ∈ f.store.records ∧ r.matchesPath p = true ∧ since ≤ r.number := fun r => by
    rw [← hsplit]
    exact mem_matching hclear hsince
  refine ⟨?_, fun n => ?_⟩
  · refine List.pairwise_map.mpr ((List.pairwise_append.mp horder.pairwise).1.imp fun hlt heq => ?_)
    rw [heq] at hlt
    exact absurd hlt (UInt64.lt_irrefl _)
  · rw [List.mem_map]
    constructor
    · rintro ⟨r, hr, rfl⟩
      have hr' := List.mem_append_left back hr
      obtain ⟨hrecord, hmatch, hle⟩ := (hmem r).mp hr'
      exact ⟨r, hrecord, hmatch, rfl, UInt64.le_iff_toNat_le.mp hle,
        UInt64.lt_iff_toNat_lt.mp ((horder.mem_front_iff.2 r hr').mp hr)⟩
    · rintro ⟨r, hrecord, hmatch, rfl, hle, hlt⟩
      have hr' := (hmem r).mpr ⟨hrecord, hmatch, UInt64.le_iff_toNat_le.mpr hle⟩
      exact ⟨r, (horder.mem_front_iff.2 r hr').mpr (UInt64.lt_iff_toNat_lt.mpr hlt), rfl⟩

lemma matching_eq_nil {q : EventPath} (h : ∀ r ∈ f.store.records, r.matchesPath q = false)
    (accessing : Option FabricIndex) (since : UInt64) : f.store.matching q accessing since = [] := by
  have hnone : f.store.records.filter (EventStore.asked q accessing since) = [] := by
    refine List.filter_eq_nil_iff.mpr fun r hr => ?_
    unfold EventStore.asked
    rw [h r hr]
    simp
  unfold EventStore.matching
  rw [hnone]
  rfl

/-- A place that is not below the bookmark is taken up as it is. -/
lemma eventFrom_reportCursor {c : ReadCursor} {bookmark : UInt64} (hdone : c.done = false)
    (hle : bookmark ≤ c.eventFrom) : (Server.reportCursor c bookmark).eventFrom = c.eventFrom := by
  by_cases hstart : c = .start
  · have hzero : bookmark = 0 := by
      rw [hstart, UInt64.le_iff_toNat_le] at hle
      exact UInt64.toNat_inj.mp (Nat.le_zero.mp hle)
    rw [hstart, hzero]
    rfl
  · rw [Server.reportCursor_of_ne hdone hstart]

/-- What a message sends is what was recorded between where the series stood and where it has come. -/
lemma Kept.served (h : f.Kept p rest least) (hclear : FeedOp.Unhindered p rest least f srv d ctx)
    {c c' : ReadCursor} {sent : List UInt64} {through : UInt64}
    (hfirst : c.eventPath = 0 → c.eventFrom.toNat = f.front)
    (hbehind : 1 ≤ c.eventPath → c.eventFrom ≤ least)
    (hserved : EventsServed (f.store.matching p ctx.fabricIndex c.eventFrom) least c sent through c') :
    (sent.Nodup ∧ ∀ n, n ∈ sent ↔ f.Recorded p f.front (max f.front through.toNat) n) ∧
      max f.front through.toNat ≤ max least.toNat f.store.numbers.next.toNat ∧
      (c'.eventPath = 0 → c.eventPath = 0 ∧ c'.eventFrom.toNat = max f.front through.toNat) ∧
      (1 ≤ c'.eventPath → c'.eventFrom ≤ least ∧ (c.eventPath = 0 →
        ∀ r ∈ f.store.records, r.matchesPath p = true →
          r.number.toNat < max f.front through.toNat)) := by
  have hbookmark : f.sub.nextEventNumber.toNat ≤ f.front := Nat.le_max_left _ _
  have hleast := h.least_le
  -- Where nothing is sent, nothing was recorded.
  have hnone : ∀ through : UInt64, through.toNat ≤ f.front →
      (([] : List UInt64).Nodup ∧ ∀ n, n ∈ ([] : List UInt64) ↔
        f.Recorded p f.front (max f.front through.toNat) n) ∧
      max f.front through.toNat ≤ max least.toNat f.store.numbers.next.toNat := by
    intro through hthrough
    rw [Nat.max_eq_left hthrough]
    refine ⟨⟨List.nodup_nil, fun n => ⟨nofun, ?_⟩⟩, h.front_le⟩
    rintro ⟨_, _, _, _, hle, hlt⟩
    omega
  -- Where the first part of the query is sent, that part was.
  have hsome : ∀ {front back : List EventRecord}, c.eventPath = 0 →
      f.store.matching p ctx.fabricIndex c.eventFrom = front ++ back →
      max f.front (nextAfter c.eventFrom front).toNat = (nextAfter c.eventFrom front).toNat ∧
      ((front.map EventRecord.number).Nodup ∧ ∀ n, n ∈ front.map EventRecord.number ↔
        f.Recorded p f.front (nextAfter c.eventFrom front).toNat n) ∧
      (nextAfter c.eventFrom front).toNat ≤ max least.toNat f.store.numbers.next.toNat := by
    intro front back hzero hsplit
    have hsince : f.sub.nextEventNumber ≤ c.eventFrom := by
      rw [UInt64.le_iff_toNat_le, hfirst hzero]
      exact hbookmark
    have horder := h.inOrder_matching hclear hsince
    rw [hsplit] at horder
    have hmem := h.mem_front hclear hsince hsplit
    rw [hfirst hzero] at hmem
    have hle := UInt64.le_iff_toNat_le.mp horder.mem_front_iff.1
    rw [hfirst hzero] at hle
    refine ⟨Nat.max_eq_right hle, hmem, ?_⟩
    have hbound : nextAfter c.eventFrom front ≤ max least f.store.numbers.next := by
      refine nextAfter_le ?_ fun r hr => ?_
      · rw [UInt64.le_iff_toNat_le, toNat_max, hfirst hzero]
        exact h.front_le
      · have hr' : r ∈ f.store.matching p ctx.fabricIndex c.eventFrom :=
          hsplit ▸ List.mem_append_left _ hr
        have hlt := h.numbered.lt_next r ((mem_matching hclear hsince).mp hr').1
        rw [UInt64.lt_iff_toNat_lt] at hlt ⊢
        rw [toNat_max]
        omega
    rw [UInt64.le_iff_toNat_le, toNat_max] at hbound
    exact hbound
  cases hserved with
  | unreached hpath hfrom =>
    obtain ⟨hsent, hle⟩ := hnone 0 (Nat.zero_le _)
    refine ⟨hsent, hle, fun hzero => ?_, fun hpos => ?_⟩
    · rw [hpath] at hzero
      rw [hfrom, hfirst hzero]
      exact ⟨hzero, (Nat.max_eq_left (Nat.zero_le _)).symm⟩
    · rw [hpath] at hpos
      rw [hfrom]
      exact ⟨hbehind hpos, fun hzero => by omega⟩
  | partly hzero hsplit hpath hfrom =>
    obtain ⟨hmax, hsent, hle⟩ := hsome hzero hsplit
    rw [hmax, hfrom, hpath]
    exact ⟨hsent, hle, fun _ => ⟨hzero, rfl⟩, fun hpos => absurd hpos (Nat.not_succ_le_zero 0)⟩
  | wholly hzero hpath hfrom =>
    obtain ⟨hmax, hsent, hle⟩ := hsome hzero (List.append_nil _).symm
    rw [hmax]
    refine ⟨hsent, hle, fun hzero' => by omega, fun _ => ⟨hfrom, fun _ r hr hmatch => ?_⟩⟩
    rcases Nat.lt_or_ge r.number.toNat f.front with hlt | hge
    · exact Nat.lt_of_lt_of_le hlt (hmax ▸ Nat.le_max_left _ _)
    · have hsince : f.sub.nextEventNumber ≤ c.eventFrom := by
        rw [UInt64.le_iff_toNat_le, hfirst hzero]
        exact hbookmark
      have hmem : r.number ∈ (f.store.matching p ctx.fabricIndex c.eventFrom).map
          EventRecord.number := by
        refine List.mem_map_of_mem ((mem_matching hclear hsince).mpr ⟨hr, hmatch, ?_⟩)
        rw [UInt64.le_iff_toNat_le, hfirst hzero]
        exact hge
      obtain ⟨_, _, _, _, _, hlt⟩ := (hsent.2 _).mp hmem
      exact hlt
  | behind hpos hthrough hpath hfrom =>
    obtain ⟨hsent, hle⟩ := hnone through (by
      rw [UInt64.le_iff_toNat_le] at hthrough
      omega)
    exact ⟨hsent, hle, fun hzero => by omega, fun _ => ⟨hfrom, fun hzero => by omega⟩⟩

/-- A message that is built carries the series on. -/
lemma Kept.reportChunk (h : f.Kept p rest least) {v : ν} {scratch buf : Slice}
    (horderly : (FeedOp.reportChunk srv d v ctx scratch buf).Orderly f)
    (hclear : FeedOp.Unhindered p rest least f srv d ctx) :
    ((FeedOp.reportChunk srv d v ctx scratch buf).step f).Kept p rest least := by
  obtain ⟨hdone, hok⟩ := horderly
  obtain ⟨served, s, hrun, hreport⟩ := Server.reportChunk_of_ok hok
  obtain ⟨hpath, hdone'⟩ := Server.reportCursor_eventPath hdone f.sub.nextEventNumber
  have hle : f.sub.nextEventNumber.toNat ≤ f.front := Nat.le_max_left _ _
  have hbehind : 1 ≤ f.sub.cursor.eventPath →
      Server.reportCursor f.sub.cursor f.sub.nextEventNumber = f.sub.cursor := by
    intro hpos
    refine Server.reportCursor_of_ne hdone ?_ _
    intro hstart
    rw [hstart] at hpos
    exact absurd hpos (Nat.not_succ_le_zero 0)
  have hsince : f.sub.cursor.eventPath = 0 → f.sub.nextEventNumber ≤
      (Server.reportCursor f.sub.cursor f.sub.nextEventNumber).eventFrom := by
    intro hzero
    rw [UInt64.le_iff_toNat_le, (h.first hzero).2]
    exact hle
  have hquiet : ∀ path, .ok path ∈ rest.map (Except.ok : _ → Except ErrorCode _) →
      (srv.withEvents f.store).Quiet ctx path := by
    intro path hmem matching hmatching since
    obtain ⟨q, hq, hpath⟩ := List.mem_map.mp hmem
    cases hpath
    cases hmatching
    exact matching_eq_nil (hclear.others _ hq) ctx.fabricIndex since
  have hstanding : Standing (f.store.matching p ctx.fabricIndex
      (Server.reportCursor f.sub.cursor f.sub.nextEventNumber).eventFrom) least
      (Server.reportCursor f.sub.cursor f.sub.nextEventNumber) := by
    constructor
    · intro hzero
      rw [hpath] at hzero
      refine ⟨?_, h.inOrder_matching hclear (hsince hzero)⟩
      rw [UInt64.le_iff_toNat_le, (h.first hzero).2]
      exact h.least_le.trans hle
    · intro hpos
      rw [hpath] at hpos
      rw [hbehind hpos]
      exact (h.behind hpos).1
  rw [h.eventPaths_eq, List.map_cons] at hrun
  obtain ⟨hserved, hdone''⟩ := Server.serveChunkWithEvents_served (srv.withEvents f.store) d ctx
    hclear.refusal rfl hquiet hclear.floor hstanding hrun
  obtain ⟨⟨hnodup, hnew⟩, hfront', hfirst, hlast⟩ := h.served hclear
    (fun hzero => (h.first (hpath ▸ hzero)).2) hstanding.behind hserved
  have hsub : ((FeedOp.reportChunk srv d v ctx scratch buf).step f).sub =
      { f.sub with cursor := s.cursor }.noteReportedThrough served.2.eventsThrough :=
    congrArg Report.subscription hreport
  have hblocks : (f.message srv d v ctx scratch buf).blocks = s.packed.blocks :=
    congrArg Report.blocks hreport
  have hfront : ((FeedOp.reportChunk srv d v ctx scratch buf).step f).front =
      max f.front served.2.eventsThrough.toNat := by
    unfold front
    rw [hsub]
    show max f.sub.nextEventNumber.toNat (max f.sub.reportedThrough served.2.eventsThrough).toNat = _
    rw [toNat_max, Nat.max_assoc]
  refine h.advance (l := eventNumbers s.packed.blocks) (by rw [hsub]; rfl) rfl (by rw [hsub]; rfl)
    rfl rfl rfl ?_ ?_ ?_ hnodup (fun n => by rw [hfront]; exact hnew n)
    (by rw [hfront]; exact Nat.le_max_left _ _) (by rw [hfront]; exact hfront') ?_ ?_
  · show (if f.fresh then f.store.numbers.next else f.openedAt) ≤ _
    split_ifs
    · exact UInt64.le_refl _
    · exact h.openedAt_le
  · intro r hr hlt q hq
    by_cases hfresh : f.fresh = true
    · exact hclear.others q hq r hr
    · refine h.opened_quiet r hr ?_ q hq
      have hopened : ((FeedOp.reportChunk srv d v ctx scratch buf).step f).openedAt = f.openedAt :=
        if_neg hfresh
      rwa [hopened] at hlt
  · show eventNumbers (f.series ++ (f.message srv d v ctx scratch buf).blocks) = _
    rw [hblocks, eventNumbers_append]
  · rw [hsub, hfront]
    intro hzero
    obtain ⟨hzero', hfrom⟩ := hfirst hzero
    have hstill : s.cursor.done = false := (hdone'' hzero).trans hdone'
    have hplace : f.sub.nextEventNumber ≤ s.cursor.eventFrom := by
      rw [UInt64.le_iff_toNat_le, hfrom]
      exact hle.trans (Nat.le_max_left _ _)
    refine ⟨hstill, ?_⟩
    rw [← hfrom]
    exact congrArg UInt64.toNat (eventFrom_reportCursor hstill hplace)
  · rw [hsub, hfront]
    intro hpos
    refine ⟨(hlast hpos).1, fun r hr hmatch hlt => ?_⟩
    by_cases hzero : f.sub.cursor.eventPath = 0
    · exact (hlast hpos).2 (hpath.trans hzero) r hr hmatch
    · have hnotfresh : ¬ f.fresh = true := fun hfresh => hzero (h.fresh_first hfresh)
      have hopened : ((FeedOp.reportChunk srv d v ctx scratch buf).step f).openedAt = f.openedAt :=
        if_neg hnotfresh
      rw [hopened] at hlt
      have := (h.behind (Nat.pos_of_ne_zero hzero)).2 r hr hmatch hlt
      exact Nat.lt_of_lt_of_le this (Nat.le_max_left _ _)

lemma Kept.step (h : f.Kept p rest least) {op : FeedOp η ν} (horderly : op.Orderly f)
    (hclear : op.Clear p rest least f) : (op.step f).Kept p rest least := by
  cases op with
  | record event => exact h.record horderly
  | reserved value => exact h.reserved value
  | noteChange path =>
    have hsame : (f.sub.noteChange path).eventPaths = f.sub.eventPaths ∧
        (f.sub.noteChange path).cursor = f.sub.cursor ∧
        (f.sub.noteChange path).nextEventNumber = f.sub.nextEventNumber ∧
        (f.sub.noteChange path).reportedThrough = f.sub.reportedThrough := by
      unfold Subscription.noteChange
      split_ifs
      · exact ⟨rfl, rfl, rfl, rfl⟩
      · exact ⟨rfl, rfl, rfl, rfl⟩
    exact h.of_sub hsame.1 hsame.2.1 hsame.2.2.1 hsame.2.2.2
  | noteClusterChange endpoint cluster => exact h.of_sub rfl rfl rfl rfl
  | reportChunk srv d v ctx scratch buf => exact h.reportChunk horderly hclear
  | reported now => exact h.reported horderly now

/-- What the invariant says of the complete series. -/
lemma Kept.exactlyOnce (h : f.Kept p rest least) : f.ExactlyOnce least := by
  refine ⟨fun r hr hle => ?_, h.completed_low⟩
  rw [h.eventPaths_eq, List.countP_cons]
  by_cases hmatch : r.matchesPath p = true
  · rw [if_pos hmatch]
    have honce : f.sent.count r.number ≤ 1 := List.nodup_iff_count_le_one.mp h.sent_nodup _
    refine ⟨by omega, fun hsettled => ?_⟩
    have hmem : r.number ∈ f.sent := (h.mem_sent _).mpr
      ⟨r, hr, hmatch, rfl, UInt64.le_iff_toNat_le.mp hle, h.settled_lt r hr hmatch hsettled⟩
    have hothers : rest.countP (fun path => r.matchesPath path) = 0 := by
      refine List.countP_eq_zero.mpr fun q hq => ?_
      rw [h.settled_quiet r hr hsettled q hq]
      exact Bool.false_ne_true
    rw [hothers]
    have hpos : 0 < f.sent.count r.number := List.count_pos_iff.mpr hmem
    omega
  · rw [if_neg hmatch]
    have hnone : f.sent.count r.number = 0 := by
      refine List.count_eq_zero.mpr fun hmem => ?_
      obtain ⟨r', hr', hmatch', hnumber, _⟩ := (h.mem_sent _).mp hmem
      cases h.numbered.unique.eq_of_key_eq hr' hr hnumber
      exact hmatch hmatch'
    rw [hnone]
    refine ⟨Nat.zero_le _, fun hsettled => ?_⟩
    refine (List.countP_eq_zero.mpr fun q hq => ?_).symm
    rw [h.settled_quiet r hr hsettled q hq]
    exact Bool.false_ne_true

end Feed

/-- Each event reaches a subscription once, in every run in which the log drops nothing, messages are
built and series completed in turn, and no message is hindered. -/
theorem events_exactly_once {p : EventPath} {rest : List EventPath} {sub : Subscription P}
    (hpaths : sub.eventPaths.toList = p :: rest) (hcursor : sub.cursor = .start)
    (hthrough : sub.reportedThrough = 0) (numbers : EventNumbers) (ops : List (FeedOp η ν))
    (hrun : Throughout FeedOp.step
      (fun (f : Feed P C I D) op => op.Orderly f ∧ op.Clear p rest sub.nextEventNumber f)
      (.start sub numbers) ops) :
    (ops.foldl FeedOp.step (Feed.start sub numbers : Feed P C I D)).ExactlyOnce sub.nextEventNumber :=
  (hrun.invariant (fun _ _ hkept hop => hkept.step hop.1 hop.2)
    (Feed.kept_start numbers hpaths hcursor hthrough)).exactlyOnce

namespace Lamp

/-- A subscription to event paths of a lamp. -/
def eventSubscription (paths : List EventPath) (h : paths.length ≤ 2) : Subscription 2 where
  id := 1
  session := none
  fabricIndex := none
  peerNodeId := none
  fabricFiltered := false
  minIntervalS := 0
  maxIntervalS := 10
  paths := .empty
  lastReport := ⟨0⟩
  eventPaths := ⟨paths, h⟩
  dirty := .new
  nextEventNumber := 0
  urgent := false
  reportedThrough := 0
  cursor := .start

/-- One alarm, and two series of one message each. -/
def twoSeries : List (FeedOp Lamp (DataVersions 4)) :=
  [.record alarm,
    .reportChunk (server 4) {} (.new 0) {} (room 64 room_64) (room 64 room_64),
    .reported ⟨1⟩,
    .reportChunk (server 4) {} (.new 0) {} (room 64 room_64) (room 64 room_64),
    .reported ⟨2⟩]

end Lamp

/-- A subscription to every event of a lamp gets its alarm once. -/
theorem events_exactly_once_lamp : (Lamp.twoSeries.foldl FeedOp.step
      (Feed.start (Lamp.eventSubscription [{}] (by decide)) Lamp.quiet.numbers :
        Feed 2 1 0 0)).ExactlyOnce 0 :=
  events_exactly_once (p := {}) rfl rfl rfl Lamp.quiet.numbers Lamp.twoSeries (by decide +kernel)

/-- With another path before it, every series carries the alarm, the second one below the bookmark the
first has left. -/
theorem later_path_repeats : Throughout FeedOp.step (fun (f : Feed 2 1 0 0) op => op.Orderly f)
        (.start (Lamp.eventSubscription [{ endpoint := some 2 }, {}] (by decide)) Lamp.quiet.numbers)
        Lamp.twoSeries ∧
      ¬ (Lamp.twoSeries.foldl FeedOp.step
        (Feed.start (Lamp.eventSubscription [{ endpoint := some 2 }, {}] (by decide))
          Lamp.quiet.numbers : Feed 2 1 0 0)).ExactlyOnce 0 := by
  decide +kernel

end MatterKit.Im
