import MatterKit.Dm.Events
import MatterKit.Lib.Runs

/-!
# What a reader of the event log sees

What can be read: every operation keeps the records of a log under different numbers, all below the next
(`Numbered`), so a query yields what it holds in strictly increasing order. It visits exactly the
records that are asked for when there are no more than 64 of these (`visited_iff`).

What is kept: an event stays until it is pruned, or until as many later ones of its own priority are
made as the buffer of that priority holds (`events_retained`).

Which numbers are handed out: a device stores a reservation durably before it reports it as `reserved`,
and after a crash goes on from what it last stored. `Device.Ahead` is the invariant.
-/

namespace MatterKit.Dm

open Lib Im

variable {C I D : ℕ}

/-! ## Records under different numbers -/

namespace EventStore

lemma pruneBelow_sublist (s : EventStore C I D) (number : UInt64) :
    (s.pruneBelow number).records.Sublist s.records :=
  (List.filter_sublist.append List.filter_sublist).append List.filter_sublist

lemma next_reserved (s : EventStore C I D) (value : UInt64) :
    (s.reserved value).numbers.next = s.numbers.next := by
  unfold reserved EventNumbers.reserved
  split_ifs
  · rfl
  · rfl

end EventStore

/-! ## Runs of a log -/

/-- A call that changes a log. -/
inductive LogOp
  | record (event : NewEvent)
  | reserved (value : UInt64)
  | pruneBelow (number : UInt64)

namespace LogOp

/-- The log after a call. -/
def step (s : EventStore C I D) : LogOp → EventStore C I D
  | record event => (s.record event).2
  | reserved value => s.reserved value
  | pruneBelow number => s.pruneBelow number

/-- The log after a run of calls on an empty one. -/
def run (numbers : EventNumbers) (ops : List LogOp) : EventStore C I D :=
  ops.foldl step (.new numbers)

lemma numbered_step {s : EventStore C I D} (h : s.Numbered) (op : LogOp) : (op.step s).Numbered := by
  cases op with
  | record event => exact h.record event
  | reserved value => exact h.of_subperm (List.Subperm.refl _) (s.next_reserved value)
  | pruneBelow number => exact h.of_subperm (s.pruneBelow_sublist number).subperm rfl

lemma numbered_run (numbers : EventNumbers) (ops : List LogOp) :
    (run numbers ops : EventStore C I D).Numbered := by
  unfold run
  exact foldl_invariant (W := fun _ => True) (I := EventStore.Numbered)
    (fun _ op _ h => numbered_step h op) (fun _ _ => trivial) (EventStore.numbered_new numbers)

end LogOp

/-! ## What can be read -/

namespace EventStore

variable {s : EventStore C I D} {path : EventPath} {accessing : Option FabricIndex}
  {minNumber : UInt64}

/-- The records a callback goes to that never stops. -/
def visited (s : EventStore C I D) (path : EventPath) (accessing : Option FabricIndex)
    (minNumber : UInt64) : List EventRecord :=
  s.eachMatching path accessing minNumber (fun r seen => (true, seen ++ [r])) []

lemma visited_eq_matching (s : EventStore C I D) (path : EventPath) (accessing : Option FabricIndex)
    (minNumber : UInt64) : s.visited path accessing minNumber = s.matching path accessing minNumber := by
  have hvisit : ∀ l seen : List EventRecord,
      visit (fun r seen => (true, seen ++ [r])) l seen = seen ++ l := by
    intro l
    induction l with
    | nil => simp [visit]
    | cons r l ih =>
      intro seen
      have := ih (seen ++ [r])
      rwa [List.append_assoc] at this
  exact hvisit _ _

/-- A query goes to exactly the records that are asked for, lowest number first and each once, and a
reader who goes on behind all it has seen passes over none. -/
structure ReadsAll (s : EventStore C I D) (path : EventPath) (accessing : Option FabricIndex)
    (minNumber : UInt64) : Prop where
  exact : ∀ r, r ∈ s.visited path accessing minNumber ↔ r ∈ s.records ∧ minNumber ≤ r.number ∧
    r.matchesPath path = true ∧ r.visibleTo accessing = true
  increasing : (s.visited path accessing minNumber).Pairwise fun a b => a.number < b.number
  no_skip : ∀ bookmark : UInt64, (∀ v ∈ s.visited path accessing minNumber, v.number < bookmark) →
    ∀ r ∈ s.records, minNumber ≤ r.number → r.matchesPath path = true →
      r.visibleTo accessing = true → r.number < bookmark → r ∈ s.visited path accessing minNumber

/-- A query goes to all that are asked for exactly if they are no more than it holds. -/
lemma readsAll_iff (h : s.Numbered) : s.ReadsAll path accessing minNumber ↔
    (s.records.filter (asked path accessing minNumber)).length ≤ 64 := by
  constructor
  · intro hreads
    have hnodup : (s.records.filter (asked path accessing minNumber)).Nodup :=
      (List.Nodup.of_map _ h.unique).filter _
    have hsub : s.records.filter (asked path accessing minNumber) ⊆
        s.visited path accessing minNumber := by
      intro r hr
      rw [hreads.exact]
      obtain ⟨hmem, hasked⟩ := List.mem_filter.mp hr
      unfold asked at hasked
      simp only [Bool.and_eq_true, decide_eq_true_eq, ge_iff_le, and_assoc] at hasked
      exact ⟨hmem, hasked⟩
    have hlength := (List.Nodup.subperm hnodup hsub).length_le
    rw [visited_eq_matching, matching, List.length_insertionSort, List.length_take] at hlength
    omega
  · intro hfew
    have hexact : ∀ r, r ∈ s.visited path accessing minNumber ↔ r ∈ s.records ∧
        minNumber ≤ r.number ∧ r.matchesPath path = true ∧ r.visibleTo accessing = true := by
      intro r
      rw [visited_eq_matching]
      exact mem_matching_iff hfew
    refine ⟨hexact, ?_, ?_⟩
    · rw [visited_eq_matching]
      exact pairwise_matching h path accessing minNumber
    · intro _ _ r hr hmin hpath hvisible _
      exact (hexact r).mpr ⟨hr, hmin, hpath, hvisible⟩

end EventStore

/-- After every run of calls, a query goes to exactly the buffered records that are asked for when
these are 64 at most, and only then. -/
theorem visited_iff (numbers : EventNumbers) (ops : List LogOp) (path : EventPath)
    (accessing : Option FabricIndex) (minNumber : UInt64) :
    (LogOp.run numbers ops : EventStore C I D).ReadsAll path accessing minNumber ↔
      ((LogOp.run numbers ops : EventStore C I D).records.filter
        (EventStore.asked path accessing minNumber)).length ≤ 64 :=
  EventStore.readsAll_iff (LogOp.numbered_run numbers ops)

/-- An event of a priority, with nothing to say. -/
def plainEvent (priority : EventPriority) : NewEvent := ⟨1, 6, 0, priority, .system 0, none, []⟩

/-- An info event and then 64 critical ones. -/
def crowdedLog : List LogOp :=
  .reserved 1000 :: .record (plainEvent .info) :: List.replicate 64 (.record (plainEvent .critical))

/-- The query has no room for the first event, and shows the 64 that came after it. -/
theorem first_event_cut_off :
    ¬(LogOp.run (.restore 0) crowdedLog : EventStore 64 8 8).ReadsAll {} none 0 := by
  intro hreads
  have hfirst := hreads.exact ((plainEvent .info).record 0 ⟨[], by decide⟩)
  revert hfirst
  decide +kernel

/-! ## What a log keeps -/

/-- Of the records put into a buffer of `N`, those that are gone lie below a number it was pruned to, or
have `N` later ones. -/
structure Retains (N : ℕ) (held made : List EventRecord) (pruned : List UInt64) : Prop where
  sublist : held.Sublist made
  kept : ∀ r ∈ made, r ∈ held ∨ (∃ number ∈ pruned, r.number < number) ∨
    ∃ before after, made = before ++ r :: after ∧ N ≤ after.length

/-- A buffer gives up a record for a new one only when that makes `N` later ones. -/
lemma PriorityBuffer.mem_push {N : ℕ} (b : PriorityBuffer N) {r r' : EventRecord}
    (hr' : r' ∈ b.records.toList ++ [r]) : r' ∈ (b.push r).records.toList ∨
      ∃ later, b.records.toList ++ [r] = r' :: later ∧ N ≤ later.length := by
  by_cases hroom : b.records.toList.length < N
  · rw [toList_push hroom]
    exact .inl hr'
  have hfull := b.records.length_le.antisymm (not_lt.mp hroom)
  rcases hl : b.records.toList with _ | ⟨oldest, later⟩
  · rw [hl, List.length_nil] at hfull
    rw [hl, List.nil_append, List.mem_singleton] at hr'
    exact .inr ⟨[], by rw [hr', List.nil_append], hfull.ge⟩
  · rw [hl] at hfull hr'
    have hpush : (b.push r).records.toList = later ++ [r] := by
      rw [List.length_cons] at hfull
      have hnewer : later.length < N := by omega
      simp [push, hl, BoundedVec.push, hnewer, hfull]
    rcases List.mem_cons.mp hr' with rfl | hr'
    · exact .inr ⟨later ++ [r], rfl, by rw [List.length_append, ← hfull]; rfl⟩
    · rw [hpush]
      exact .inl hr'

namespace Retains

variable {N : ℕ} {b : PriorityBuffer N} {held made : List EventRecord} {pruned : List UInt64}

/-- A full buffer gives up its oldest record for a new one. -/
lemma push (h : Retains N b.records.toList made pruned) (r : EventRecord) :
    Retains N (b.push r).records.toList (made ++ [r]) pruned := by
  have hsublist := h.sublist.append (List.Sublist.refl [r])
  refine ⟨(b.push_sublist r).trans hsublist, ?_⟩
  intro r' hr'
  by_cases hheld : r' ∈ b.records.toList ++ [r]
  · refine (b.mem_push hheld).imp_right fun ⟨later, hlater, hN⟩ => .inr ?_
    -- what the buffer held after the record was made after it
    rw [hlater] at hsublist
    obtain ⟨upTo, rest, hmade, hmem, hrest⟩ := List.cons_sublist_iff.mp hsublist
    obtain ⟨before, between, rfl⟩ := List.append_of_mem hmem
    refine ⟨before, between ++ rest, by rw [hmade, List.append_assoc, List.cons_append], ?_⟩
    rw [List.length_append]
    exact hN.trans (hrest.length_le.trans (Nat.le_add_left _ _))
  · rw [List.mem_append, not_or] at hheld
    rcases h.kept r' ((List.mem_append.mp hr').resolve_right hheld.2) with
      hin | hbelow | ⟨before, after, rfl, hN⟩
    · exact absurd hin hheld.1
    · exact .inr (.inl hbelow)
    · refine .inr (.inr ⟨before, after ++ [r], by rw [List.append_assoc, List.cons_append], ?_⟩)
      rw [List.length_append]
      exact hN.trans (Nat.le_add_right _ _)

lemma pruneBelow (h : Retains N b.records.toList made pruned) (number : UInt64) :
    Retains N (b.pruneBelow number).records.toList made (pruned ++ [number]) := by
  refine ⟨List.filter_sublist.trans h.sublist, ?_⟩
  intro r hr
  rcases h.kept r hr with hin | ⟨lower, hlower, hlt⟩ | hlater
  · by_cases hge : number ≤ r.number
    · exact .inl (List.mem_filter.mpr ⟨hin, decide_eq_true hge⟩)
    · exact .inr (.inl ⟨number, List.mem_append_right _ (List.mem_singleton_self _),
        UInt64.not_le.mp hge⟩)
  · exact .inr (.inl ⟨lower, List.mem_append_left _ hlower, hlt⟩)
  · exact .inr (.inr hlater)

end Retains

/-- How many records of a priority a log has room for. -/
def capacity (C I D : ℕ) : EventPriority → ℕ
  | .critical => C
  | .info => I
  | .debug => D

/-- The buffer of a priority. -/
def EventStore.buffer (s : EventStore C I D) : (priority : EventPriority) →
    PriorityBuffer (capacity C I D priority)
  | .critical => s.critical
  | .info => s.info
  | .debug => s.debug

/-- A log, the records it has made, and the numbers it was pruned to. -/
structure LogHistory (C I D : ℕ) where
  log : EventStore C I D
  made : List EventRecord
  pruned : List UInt64

namespace LogHistory

/-- A call, and what it makes of the log. -/
def step (h : LogHistory C I D) : LogOp → LogHistory C I D
  | .record event =>
    match h.log.record event with
    | (.ok number, log) =>
      if hdata : event.data.length ≤ eventDataMax then
        ⟨log, h.made ++ [event.record number ⟨event.data, hdata⟩], h.pruned⟩
      else { h with log := log }
    | (.error _, log) => { h with log := log }
  | .reserved value => { h with log := h.log.reserved value }
  | .pruneBelow number => ⟨h.log.pruneBelow number, h.made, h.pruned ++ [number]⟩

/-- The history of a run on an empty log. -/
def run (numbers : EventNumbers) (ops : List LogOp) : LogHistory C I D :=
  ops.foldl step ⟨.new numbers, [], []⟩

/-- What each buffer has kept of the records of its priority. -/
def Kept (h : LogHistory C I D) : Prop :=
  ∀ priority, Retains (capacity C I D priority) (h.log.buffer priority).records.toList
    (h.made.filter fun r => r.priority = priority) h.pruned

lemma Kept.step {h : LogHistory C I D} (hkept : h.Kept) (op : LogOp) : (h.step op).Kept := by
  cases op with
  | record event =>
    by_cases hdata : event.data.length ≤ eventDataMax
    · rcases htake : h.log.numbers.take with _ | ⟨number, numbers⟩
      · simp only [LogHistory.step, EventStore.record, hdata, htake, dif_pos]
        exact hkept
      · simp only [LogHistory.step, EventStore.record, hdata, htake, dif_pos]
        intro priority
        have h' := hkept priority
        unfold EventStore.push
        simp only [List.filter_append, List.filter_singleton, NewEvent.record]
        cases event.priority <;> cases priority <;>
          simp only [reduceCtorEq, decide_true, decide_false, cond_true, cond_false, List.append_nil] <;>
          first | exact h'.push _ | exact h'
    · simp only [LogHistory.step, EventStore.record, hdata, dif_neg, not_false_eq_true]
      exact hkept
  | reserved value => exact fun priority => by cases priority <;> exact hkept _
  | pruneBelow number =>
    intro priority
    cases priority <;> exact (hkept _).pruneBelow number

/-- Whatever is recorded, reserved and pruned, an event stays in the log until it is pruned or as many
later ones of its own priority are made as the log has room for. -/
theorem events_retained (numbers : EventNumbers) (ops : List LogOp) :
    (run numbers ops : LogHistory C I D).Kept := by
  unfold run
  refine foldl_invariant (W := fun _ => True) (I := Kept) (fun _ op _ h => h.step op)
    (fun _ _ => trivial) ?_
  intro priority
  cases priority <;> exact ⟨List.Sublist.refl _, nofun⟩

end LogHistory

/-! ## Numbers across restarts -/

/-- A device with its log, the value it was last asked to store, the values it has stored, the last of
which is durable, and the numbers its log has handed out. -/
structure Device (C I D : ℕ) where
  log : EventStore C I D
  named : Option UInt64
  durable : UInt64
  stored : List UInt64
  handedOut : List UInt64

/-- What a device does, and what happens to it. -/
inductive DeviceOp
  | record (event : NewEvent)
  | reservation
  | store
  | reserved (value : UInt64)
  | pruneBelow (number : UInt64)
  | crash

namespace Device

/-- A device with a persisted value, as it starts. -/
def boot (persisted : UInt64) : Device C I D :=
  ⟨.new (.restore persisted), none, persisted, [persisted], []⟩

/-- What a device does with the answer of its log. -/
def recorded (d : Device C I D) : Except RecordError UInt64 × EventStore C I D → Device C I D
  | (.ok number, log) => { d with log := log, handedOut := d.handedOut ++ [number] }
  | (.error (.needsReservation owed), log) => { d with log := log, named := some owed }
  | (.error .dataTooLong, log) => { d with log := log }

/-- The value a device was last asked for becomes durable. -/
def store (d : Device C I D) : Option UInt64 → Device C I D
  | some value => { d with durable := value, stored := value :: d.stored }
  | none => d

/-- A device records events and prunes its log, asks for a reservation, stores the value it was last
asked to, tells the log of a value only if it has stored it, and restarts from the last it stored. -/
def step (d : Device C I D) : DeviceOp → Device C I D
  | .record event => d.recorded (d.log.record event)
  | .reservation => { d with named := d.log.numbers.reservation.or d.named }
  | .store => d.store d.named
  | .reserved value => if value ∈ d.stored then { d with log := d.log.reserved value } else d
  | .pruneBelow number => { d with log := d.log.pruneBelow number }
  | .crash => { d with log := .new (.restore d.durable), named := none }

/-- The device after a run. -/
def run (persisted : UInt64) (ops : List DeviceOp) : Device C I D := ops.foldl step (boot persisted)

/-- What is durable is never behind what the log may hand out, and never ahead of what it would ask
for; nothing that was stored is ahead of it, and nothing that may be stored is behind it. -/
structure Ahead (d : Device C I D) : Prop where
  next_le : d.log.numbers.next.toNat ≤ d.log.numbers.reservedThrough.toNat
  reserved_le : d.log.numbers.reservedThrough.toNat ≤ d.durable.toNat
  durable_le : d.durable.toNat ≤ (satAdd d.log.numbers.next numberReservation).toNat
  stored_le : ∀ value ∈ d.stored, value.toNat ≤ d.durable.toNat
  named_le : ∀ value, d.named = some value → d.durable.toNat ≤ value.toNat ∧
    value.toNat ≤ (satAdd d.log.numbers.next numberReservation).toNat
  handedOut_lt : ∀ number ∈ d.handedOut, number.toNat < d.log.numbers.next.toNat
  increasing : d.handedOut.Pairwise (· < ·)

lemma ahead_boot (persisted : UInt64) : (boot persisted : Device C I D).Ahead := by
  refine ⟨le_rfl, le_rfl, ?_, ?_, nofun, nofun, List.Pairwise.nil⟩
  · show persisted.toNat ≤ (satAdd persisted numberReservation).toNat
    rw [toNat_satAdd]
    have := persisted.toNat_lt
    omega
  · intro value hvalue
    rw [List.mem_singleton.mp hvalue]
    exact le_rfl

variable {d : Device C I D}

/-- The value a log asks for is a reservation ahead of its next number. -/
lemma owed_eq (numbers : EventNumbers) : numbers.reservation.getD (satAdd numbers.next numberReservation) =
      satAdd numbers.next numberReservation := by
  unfold EventNumbers.reservation
  split_ifs
  · rfl
  · rfl

lemma record_error {s : EventStore C I D} {event : NewEvent} {owed : UInt64}
    (h : (s.record event).1 = .error (.needsReservation owed)) :
    owed = satAdd s.numbers.next numberReservation := by
  unfold EventStore.record at h
  split_ifs at h
  · rcases htake : s.numbers.take with _ | ⟨number, numbers⟩
    · simp only [htake, owed_eq, Except.error.injEq, RecordError.needsReservation.injEq] at h
      exact h.symm
    · simp only [htake] at h
      cases h
  · cases h

/-- Asking for a value that is a reservation ahead of the next number. -/
lemma Ahead.name (h : d.Ahead) :
    { d with named := some (satAdd d.log.numbers.next numberReservation) }.Ahead := by
  refine ⟨h.next_le, h.reserved_le, h.durable_le, h.stored_le, ?_, h.handedOut_lt, h.increasing⟩
  intro value hvalue
  obtain rfl := Option.some.inj hvalue
  exact ⟨h.durable_le, Nat.le_refl _⟩

/-- An event takes the next number, which a reservation covers. -/
lemma Ahead.record (h : d.Ahead) (event : NewEvent) : (d.recorded (d.log.record event)).Ahead := by
  rcases d.log.record_eq event with ⟨⟨error, herror⟩, hsame⟩ | ⟨hok, hlt, hnext, hthrough, -⟩
  · rcases hrecord : d.log.record event with ⟨result, log⟩
    rw [hrecord] at herror hsame
    simp only at herror hsame
    subst herror hsame
    cases error with
    | dataTooLong => exact h
    | needsReservation owed =>
      rw [record_error (congrArg Prod.fst hrecord)]
      exact h.name
  · rcases hrecord : d.log.record event with ⟨result, log⟩
    rw [hrecord] at hok hnext hthrough
    simp only at hok hnext hthrough
    subst hok
    have hlt := UInt64.lt_iff_toNat_lt.mp hlt
    have hahead : (satAdd d.log.numbers.next numberReservation).toNat ≤
        (satAdd log.numbers.next numberReservation).toNat := by
      rw [toNat_satAdd, toNat_satAdd, hnext]
      omega
    refine ⟨?_, ?_, h.durable_le.trans hahead, h.stored_le, ?_, ?_, ?_⟩
    · show log.numbers.next.toNat ≤ log.numbers.reservedThrough.toNat
      rw [hnext, hthrough]
      exact hlt
    · show log.numbers.reservedThrough.toNat ≤ d.durable.toNat
      rw [hthrough]
      exact h.reserved_le
    · intro value hvalue
      exact ⟨(h.named_le value hvalue).1, (h.named_le value hvalue).2.trans hahead⟩
    · intro number hnumber
      show number.toNat < log.numbers.next.toNat
      rw [hnext]
      rcases List.mem_append.mp hnumber with hnumber | hnumber
      · exact Nat.lt_succ_of_lt (h.handedOut_lt number hnumber)
      · rw [List.mem_singleton.mp hnumber]
        exact Nat.lt_succ_self _
    · refine List.pairwise_append.mpr ⟨h.increasing, List.pairwise_singleton _ _, ?_⟩
      intro a ha b hb
      rw [List.mem_singleton.mp hb, UInt64.lt_iff_toNat_lt]
      exact h.handedOut_lt a ha

lemma Ahead.reserved (h : d.Ahead) {value : UInt64} (hvalue : value ∈ d.stored) :
    { d with log := d.log.reserved value }.Ahead := by
  have hle := h.stored_le value hvalue
  have hnext := d.log.next_reserved value
  have hthrough : (d.log.reserved value).numbers.reservedThrough.toNat =
      max d.log.numbers.reservedThrough.toNat value.toNat := by
    unfold EventStore.reserved EventNumbers.reserved
    simp only
    split_ifs with hgt
    · exact (max_eq_right (UInt64.lt_iff_toNat_lt.mp hgt).le).symm
    · exact (max_eq_left (UInt64.le_iff_toNat_le.mp (UInt64.not_lt.mp hgt))).symm
  have hnext_le := h.next_le
  have hreserved_le := h.reserved_le
  refine ⟨?_, ?_, ?_, h.stored_le, ?_, ?_, h.increasing⟩
  · simp only [hnext, hthrough]
    omega
  · simp only [hthrough]
    omega
  · simp only [hnext]
    exact h.durable_le
  · simp only [hnext]
    exact h.named_le
  · simp only [hnext]
    exact h.handedOut_lt

/-- A restart goes on from the durable value, which is behind none of the numbers handed out. -/
lemma Ahead.crash (h : d.Ahead) : (d.step .crash).Ahead := by
  refine ⟨le_rfl, le_rfl, ?_, h.stored_le, nofun, ?_, h.increasing⟩
  · show d.durable.toNat ≤ (satAdd d.durable numberReservation).toNat
    rw [toNat_satAdd]
    have := d.durable.toNat_lt
    omega
  · intro number hnumber
    show number.toNat < d.durable.toNat
    exact (h.handedOut_lt number hnumber).trans_le (h.next_le.trans h.reserved_le)

lemma Ahead.step (h : d.Ahead) (op : DeviceOp) : (d.step op).Ahead := by
  cases op with
  | record event => exact h.record event
  | reservation =>
    show { d with named := d.log.numbers.reservation.or d.named }.Ahead
    unfold EventNumbers.reservation
    split_ifs
    · exact h.name
    · exact h
  | store =>
    show (d.store d.named).Ahead
    rcases hnamed : d.named with _ | value
    · exact h
    · obtain ⟨hle, hle'⟩ := h.named_le value hnamed
      refine ⟨h.next_le, h.reserved_le.trans hle, hle', ?_, ?_, h.handedOut_lt, h.increasing⟩
      · intro value' hvalue'
        rcases List.mem_cons.mp hvalue' with rfl | hvalue'
        · exact le_rfl
        · exact (h.stored_le value' hvalue').trans hle
      · intro value' hvalue'
        obtain rfl := Option.some.inj (hnamed.symm.trans hvalue')
        exact ⟨le_rfl, hle'⟩
  | reserved value =>
    show (if value ∈ d.stored then { d with log := d.log.reserved value } else d).Ahead
    split_ifs with hstored
    · exact h.reserved hstored
    · exact h
  | pruneBelow number =>
    exact ⟨h.next_le, h.reserved_le, h.durable_le, h.stored_le, h.named_le, h.handedOut_lt,
      h.increasing⟩
  | crash => exact h.crash

/-- Over the whole life of a device, with restarts at any point, its event numbers increase. -/
theorem handedOut_increasing (persisted : UInt64) (ops : List DeviceOp) :
    (run persisted ops : Device C I D).handedOut.Pairwise (· < ·) := by
  have hahead : (run persisted ops : Device C I D).Ahead := by
    unfold run
    exact foldl_invariant (W := fun _ => True) (I := Ahead) (fun _ op _ h => h.step op)
      (fun _ _ => trivial) (ahead_boot persisted)
  exact hahead.increasing

/-- Two lives of a device: the number after the restart is that of the reservation. -/
example : (run 0 [.reservation, .store, .reserved 1000, .record (plainEvent .info), .crash,
    .reservation, .store, .reserved 2000, .record (plainEvent .info)] : Device 4 4 4).handedOut =
      [0, 1000] := by decide +kernel

end Device

end MatterKit.Dm
