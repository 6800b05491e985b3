import Mathlib.Data.List.Sort
import MatterKit.Lib.KeyedVec
import MatterKit.Im.Ib

/-!
# The event log

`dm/events.rs`: event numbers handed out from a persisted reservation, records in three buffers by
priority that each drop their oldest when full, and the query a report makes (`EventStore.matching`),
which takes the critical records first, at most 64 of them in all, and sorts them by number.
-/

namespace MatterKit.Dm

open Lib Im

/-! ## Numbers -/

/-- Source: `NUMBER_RESERVATION`. -/
def numberReservation : UInt64 := 1000

/-- Source: `EventNumbers`. -/
structure EventNumbers where
  next : UInt64
  reservedThrough : UInt64

namespace EventNumbers

/-- Source: `EventNumbers::restore`. -/
def restore (persisted : UInt64) : EventNumbers := ⟨persisted, persisted⟩

/-- Source: `EventNumbers::reservation`. -/
def reservation (n : EventNumbers) : Option UInt64 :=
  if n.next ≥ n.reservedThrough then some (satAdd n.next numberReservation) else none

/-- Source: `EventNumbers::reserved`. -/
def reserved (n : EventNumbers) (value : UInt64) : EventNumbers :=
  if value > n.reservedThrough then { n with reservedThrough := value } else n

/-- The next number and what is left, if one is reserved.
Source: `EventNumbers::next`. -/
def take (n : EventNumbers) : Option (UInt64 × EventNumbers) :=
  if n.next ≥ n.reservedThrough then none
  else some (n.next, { n with next := satAdd n.next 1 })

end EventNumbers

/-! ## Records -/

/-- Source: `dm/meta.rs`, `EventPriority`. -/
inductive EventPriority
  | debug
  | info
  | critical
  deriving DecidableEq

/-- Source: `record.priority as u8`. -/
def EventPriority.toUInt8 : EventPriority → UInt8
  | debug => 0
  | info => 1
  | critical => 2

/-- Source: `Timestamp`. -/
inductive Timestamp
  | epoch (millis : UInt64)
  | system (millis : UInt64)
  deriving DecidableEq

namespace Timestamp

/-- Source: `Timestamp::absolute`. -/
def absolute : Timestamp → EventTimestamp
  | epoch v => .epoch v
  | system v => .system v

/-- Source: `Timestamp::delta_from`. -/
def deltaFrom : Timestamp → Timestamp → Option EventTimestamp
  | epoch now, epoch before => if before ≤ now then some (.deltaEpoch (now - before)) else none
  | system now, system before => if before ≤ now then some (.deltaSystem (now - before)) else none
  | _, _ => none

end Timestamp

/-- Source: `EVENT_DATA_MAX`. -/
def eventDataMax : ℕ := 128

/-- Source: `EventRecord`. -/
structure EventRecord where
  number : UInt64
  endpoint : EndpointId
  cluster : ClusterId
  event : EventId
  priority : EventPriority
  timestamp : Timestamp
  fabricIndex : Option FabricIndex
  data : BoundedVec UInt8 eventDataMax
  deriving DecidableEq

namespace EventRecord

/-- Source: `EventRecord::matches`. -/
def matchesPath (r : EventRecord) (path : EventPath) : Bool :=
  path.endpoint.all (· == r.endpoint) && path.cluster.all (· == r.cluster) &&
    path.event.all (· == r.event)

/-- Source: `EventRecord::visible_to`. -/
def visibleTo (r : EventRecord) (accessing : Option FabricIndex) : Bool :=
  match r.fabricIndex with
  | none => true
  | some fabric => accessing == some fabric

end EventRecord

/-! ## Buffers -/

/-- Source: `PriorityBuffer`. -/
structure PriorityBuffer (N : ℕ) where
  records : BoundedVec EventRecord N
  dropped : UInt64

namespace PriorityBuffer

variable {N : ℕ}

/-- Source: `PriorityBuffer::new`. -/
def new : PriorityBuffer N := ⟨.empty, 0⟩

/-- Appends a record; a full buffer drops its oldest one for it, and one without room drops the
record.
Source: `PriorityBuffer::push`. -/
def push (b : PriorityBuffer N) (r : EventRecord) : PriorityBuffer N :=
  match b.records.push r with
  | some records => { b with records := records }
  | none =>
    if b.records.toList = [] then { b with dropped := satAdd b.dropped 1 }
    else
      let newer : BoundedVec EventRecord N :=
        ⟨b.records.toList.tail, by
          have := b.records.length_le
          rw [List.length_tail]
          omega⟩
      { records := (newer.push r).getD newer, dropped := satAdd b.dropped 1 }

/-- Source: `PriorityBuffer::prune_below`. -/
def pruneBelow (b : PriorityBuffer N) (number : UInt64) : PriorityBuffer N :=
  { b with records := b.records.retain fun r => r.number ≥ number }

end PriorityBuffer

/-! ## The store -/

/-- What is to be recorded.
Source: `NewEvent`. -/
structure NewEvent where
  endpoint : EndpointId
  cluster : ClusterId
  event : EventId
  priority : EventPriority
  timestamp : Timestamp
  fabricIndex : Option FabricIndex
  data : List UInt8

/-- The record a new event becomes under a number.
Source: `EventStore::record`, `let record = EventRecord { .. }`. -/
def NewEvent.record (e : NewEvent) (number : UInt64) (stored : BoundedVec UInt8 eventDataMax) :
    EventRecord :=
  ⟨number, e.endpoint, e.cluster, e.event, e.priority, e.timestamp, e.fabricIndex, stored⟩

/-- Source: `RecordError`. -/
inductive RecordError
  | needsReservation (owed : UInt64)
  | dataTooLong

/-- Source: `EventStore`. -/
structure EventStore (C I D : ℕ) where
  critical : PriorityBuffer C
  info : PriorityBuffer I
  debug : PriorityBuffer D
  numbers : EventNumbers

namespace EventStore

variable {C I D : ℕ}

/-- Source: `EventStore::new`. -/
def new (numbers : EventNumbers) : EventStore C I D := ⟨.new, .new, .new, numbers⟩

/-- Source: `EventStore::reserved`. -/
def reserved (s : EventStore C I D) (value : UInt64) : EventStore C I D :=
  { s with numbers := s.numbers.reserved value }

/-- Source: `EventStore::record`, `match priority`. -/
def push (s : EventStore C I D) (r : EventRecord) : EventStore C I D :=
  match r.priority with
  | .critical => { s with critical := s.critical.push r }
  | .info => { s with info := s.info.push r }
  | .debug => { s with debug := s.debug.push r }

/-- Records an event under the next number.
Source: `EventStore::record`. -/
def record (s : EventStore C I D) (e : NewEvent) :
    Except RecordError UInt64 × EventStore C I D :=
  if hdata : e.data.length ≤ eventDataMax then
    match s.numbers.take with
    | none =>
      (.error (.needsReservation
        (s.numbers.reservation.getD (satAdd s.numbers.next numberReservation))), s)
    | some (number, numbers) =>
      (.ok number, { s with numbers := numbers }.push (e.record number ⟨e.data, hdata⟩))
  else (.error .dataTooLong, s)

/-- Source: `EventStore::prune_below`. -/
def pruneBelow (s : EventStore C I D) (number : UInt64) : EventStore C I D :=
  { s with
    critical := s.critical.pruneBelow number
    info := s.info.pruneBelow number
    debug := s.debug.pruneBelow number }

/-- Every record, the critical ones first.
Source: `EventStore::matching`, `self.critical.records().iter().chain(..)`. -/
def records (s : EventStore C I D) : List EventRecord :=
  s.critical.records.toList ++ s.info.records.toList ++ s.debug.records.toList

/-- Whether a query asks for a record.
Source: `EventStore::matching`, the first three conditions. -/
def asked (path : EventPath) (accessing : Option FabricIndex) (minNumber : UInt64)
    (r : EventRecord) : Bool :=
  decide (r.number ≥ minNumber) && r.matchesPath path && r.visibleTo accessing

/-- The records of a query, lowest number first; the query holds 64 of them, and takes those it meets
first.
Source: `EventStore::matching`. -/
def matching (s : EventStore C I D) (path : EventPath) (accessing : Option FabricIndex)
    (minNumber : UInt64) : List EventRecord :=
  ((s.records.filter (asked path accessing minNumber)).take 64).insertionSort
    fun a b => a.number ≤ b.number

/-- The loop of `each_matching`: a callback goes from record to record for as long as it says so. -/
def visit {β : Type} (each : EventRecord → β → Bool × β) : List EventRecord → β → β
  | [], acc => acc
  | r :: rs, acc =>
    match each r acc with
    | (true, acc) => visit each rs acc
    | (false, acc) => acc

/-- Source: `EventStore::each_matching`. -/
def eachMatching {β : Type} (s : EventStore C I D) (path : EventPath)
    (accessing : Option FabricIndex) (minNumber : UInt64) (each : EventRecord → β → Bool × β)
    (acc : β) : β :=
  visit each (s.matching path accessing minNumber) acc

end EventStore

/-! ## What a log holds -/

lemma PriorityBuffer.toList_push {N : ℕ} {b : PriorityBuffer N} (h : b.records.toList.length < N)
    (r : EventRecord) : (b.push r).records.toList = b.records.toList ++ [r] := by
  unfold PriorityBuffer.push
  have hpush : ∃ records, b.records.push r = some records :=
    Option.ne_none_iff_exists'.mp fun hnone => (BoundedVec.push_eq_none_iff.mp hnone).not_lt h
  obtain ⟨records, hrecords⟩ := hpush
  rw [hrecords]
  exact (BoundedVec.push_eq_some_iff.mp hrecords).2

lemma PriorityBuffer.push_sublist {N : ℕ} (b : PriorityBuffer N) (r : EventRecord) :
    (b.push r).records.toList.Sublist (b.records.toList ++ [r]) := by
  unfold PriorityBuffer.push
  rcases hpush : b.records.push r with _ | records
  · simp only
    split_ifs
    · exact List.sublist_append_left _ _
    · unfold BoundedVec.push
      simp only
      split_ifs
      · exact (List.tail_sublist _).append (List.Sublist.refl _)
      · exact (List.tail_sublist _).trans (List.sublist_append_left _ _)
  · simp only
    rw [(BoundedVec.push_eq_some_iff.mp hpush).2]

namespace EventStore

variable {C I D : ℕ}

/-- The buffer of a priority has room, so recording there drops nothing. -/
def HasRoom (s : EventStore C I D) : EventPriority → Prop
  | .critical => s.critical.records.toList.length < C
  | .info => s.info.records.toList.length < I
  | .debug => s.debug.records.toList.length < D

instance (s : EventStore C I D) : ∀ priority, Decidable (s.HasRoom priority)
  | .critical => inferInstanceAs (Decidable (s.critical.records.toList.length < C))
  | .info => inferInstanceAs (Decidable (s.info.records.toList.length < I))
  | .debug => inferInstanceAs (Decidable (s.debug.records.toList.length < D))

/-- The records of a log have different numbers, all below the next one. -/
structure Numbered (s : EventStore C I D) : Prop where
  unique : KeysUnique EventRecord.number s.records
  lt_next : ∀ r ∈ s.records, r.number < s.numbers.next

lemma numbered_new (numbers : EventNumbers) : (new numbers : EventStore C I D).Numbered :=
  ⟨KeysUnique.nil, nofun⟩

variable {s : EventStore C I D} {r : EventRecord}

lemma records_push (h : s.HasRoom r.priority) : (s.push r).records.Perm (r :: s.records) := by
  unfold push
  rcases hpriority : r.priority
  all_goals
    rw [hpriority] at h
    simp only [records, PriorityBuffer.toList_push h, List.append_assoc, List.singleton_append]
  · rw [← List.append_assoc, ← List.append_assoc, ← List.append_assoc]
    exact List.perm_append_singleton r _
  · rw [← List.append_assoc, ← List.append_assoc]
    exact List.perm_middle
  · exact List.perm_middle

lemma numbers_push (s : EventStore C I D) (r : EventRecord) : (s.push r).numbers = s.numbers := by
  unfold push
  split
  · rfl
  · rfl
  · rfl

lemma take_eq_some {n n' : EventNumbers} {number : UInt64} (h : n.take = some (number, n')) :
    number = n.next ∧ n'.next.toNat = n.next.toNat + 1 := by
  unfold EventNumbers.take at h
  split_ifs at h with hreserved
  cases h
  have hlt := UInt64.lt_iff_toNat_lt.mp (UInt64.not_le.mp hreserved)
  have hmax := n.reservedThrough.toNat_lt
  refine ⟨rfl, ?_⟩
  rw [toNat_satAdd]
  show min (n.next.toNat + 1) _ = _
  omega

/-- Recording an event where there is room adds it under the next number, or changes nothing. -/
lemma record_cases {e : NewEvent} (hroom : s.HasRoom e.priority) : (s.record e).2 = s ∨
      ∃ stored, stored.toList = e.data ∧ (s.record e).1 = .ok s.numbers.next ∧
        (s.record e).2.records.Perm (e.record s.numbers.next stored :: s.records) ∧
        (s.record e).2.numbers.next.toNat = s.numbers.next.toNat + 1 := by
  unfold record
  split_ifs with hdata
  · rcases htake : s.numbers.take with _ | ⟨number, numbers⟩
    · exact .inl rfl
    · obtain ⟨rfl, hnext⟩ := take_eq_some htake
      refine .inr ⟨⟨e.data, hdata⟩, rfl, rfl, ?_, ?_⟩
      · have hroom' : ({ s with numbers := numbers } : EventStore C I D).HasRoom
            (e.record s.numbers.next ⟨e.data, hdata⟩).priority := by
          unfold HasRoom at hroom ⊢
          exact hroom
        exact records_push hroom'
      · show (push _ _).numbers.next.toNat = _
        rw [numbers_push]
        exact hnext
  · exact .inl rfl

/-- Whatever is dropped for it, a record is added to what there was. -/
lemma push_subperm (s : EventStore C I D) (r : EventRecord) :
    (s.push r).records.Subperm (r :: s.records) := by
  have hlast : ∀ l : List EventRecord, (l ++ [r]).Subperm (r :: l) :=
    fun l => (List.perm_append_singleton r l).subperm
  unfold push records
  cases r.priority with
  | critical =>
    have hsub := (((s.critical.push_sublist r).append (List.Sublist.refl s.info.records.toList)).append
      (List.Sublist.refl s.debug.records.toList)).subperm
    refine hsub.trans ?_
    rw [List.append_assoc, List.append_assoc, List.append_assoc]
    exact List.perm_middle.subperm
  | info =>
    have hsub := (((List.Sublist.refl s.critical.records.toList).append (s.info.push_sublist r)).append
      (List.Sublist.refl s.debug.records.toList)).subperm
    refine hsub.trans ?_
    rw [← List.append_assoc, List.append_assoc]
    exact List.perm_middle.subperm
  | debug =>
    have hsub := ((List.Sublist.refl (s.critical.records.toList ++ s.info.records.toList)).append
      (s.debug.push_sublist r)).subperm
    refine hsub.trans ?_
    rw [← List.append_assoc]
    exact hlast _

/-- Fewer records of a log are numbered as all of them are. -/
lemma Numbered.of_subperm {s s' : EventStore C I D} (h : s.Numbered) (hsub : s'.records.Subperm s.records)
    (hnext : s'.numbers.next = s.numbers.next) : s'.Numbered := by
  refine ⟨?_, ?_⟩
  · obtain ⟨l, hperm, hl⟩ := hsub
    exact KeysUnique.perm (List.Nodup.sublist (hl.map _) h.unique) hperm.symm
  · intro r hr
    rw [hnext]
    exact h.lt_next r (hsub.subset hr)

/-- Recording an event hands out the next number and adds the record, or changes nothing. -/
lemma record_eq (s : EventStore C I D) (e : NewEvent) :
    ((∃ error, (s.record e).1 = .error error) ∧ (s.record e).2 = s) ∨
      ((s.record e).1 = .ok s.numbers.next ∧ s.numbers.next < s.numbers.reservedThrough ∧
        (s.record e).2.numbers.next.toNat = s.numbers.next.toNat + 1 ∧
        (s.record e).2.numbers.reservedThrough = s.numbers.reservedThrough ∧
        ∃ r : EventRecord, r.number = s.numbers.next ∧
          (s.record e).2.records.Subperm (r :: s.records)) := by
  unfold record
  split_ifs with hdata
  swap
  · exact .inl ⟨⟨_, rfl⟩, rfl⟩
  rcases htake : s.numbers.take with _ | ⟨number, numbers⟩
  · exact .inl ⟨⟨_, rfl⟩, rfl⟩
  obtain ⟨rfl, hnext⟩ := take_eq_some htake
  unfold EventNumbers.take at htake
  split_ifs at htake with hreserved
  cases htake
  refine .inr ⟨rfl, UInt64.not_le.mp hreserved, ?_, ?_, e.record s.numbers.next ⟨e.data, hdata⟩, rfl,
    push_subperm _ _⟩
  · simp only [numbers_push]
    exact hnext
  · simp only [numbers_push]

lemma Numbered.record (h : s.Numbered) (e : NewEvent) : (s.record e).2.Numbered := by
  rcases s.record_eq e with ⟨-, hsame⟩ | ⟨-, -, hnext, -, r, hnumber, hsub⟩
  · rwa [hsame]
  · have hlt : ∀ r' ∈ r :: s.records, r'.number < (s.record e).2.numbers.next := by
      intro r' hr'
      rw [UInt64.lt_iff_toNat_lt, hnext]
      rcases List.mem_cons.mp hr' with rfl | hr'
      · rw [hnumber]
        exact Nat.lt_succ_self _
      · exact Nat.lt_succ_of_lt (UInt64.lt_iff_toNat_lt.mp (h.lt_next r' hr'))
    have hunique : KeysUnique EventRecord.number (r :: s.records) := by
      refine List.nodup_cons.mpr ⟨fun hmem => ?_, h.unique⟩
      obtain ⟨r', hr', heq⟩ := List.mem_map.mp hmem
      have := UInt64.lt_iff_toNat_lt.mp (h.lt_next r' hr')
      rw [heq, hnumber] at this
      exact Nat.lt_irrefl _ this
    refine ⟨?_, fun r' hr' => hlt r' (hsub.subset hr')⟩
    obtain ⟨l, hperm, hl⟩ := hsub
    exact KeysUnique.perm (List.Nodup.sublist (hl.map _) hunique) hperm.symm

/-! ### What a query yields -/

instance : Std.Total fun a b : EventRecord => a.number ≤ b.number :=
  ⟨fun a b => UInt64.le_total a.number b.number⟩

instance : IsTrans EventRecord fun a b => a.number ≤ b.number :=
  ⟨fun _ _ _ => UInt64.le_trans⟩

/-- The records of a query, lowest number first and each once. -/
lemma pairwise_matching (h : s.Numbered) (path : EventPath) (accessing : Option FabricIndex)
    (since : UInt64) : (s.matching path accessing since).Pairwise fun a b => a.number < b.number := by
  have hsorted := List.pairwise_insertionSort (fun a b : EventRecord => a.number ≤ b.number)
    ((s.records.filter (asked path accessing since)).take 64)
  have hnodup : ((s.matching path accessing since).map EventRecord.number).Nodup := by
    have hsub := ((List.take_sublist 64 _).trans (List.filter_sublist
      (p := asked path accessing since) (l := s.records))).map EventRecord.number
    exact ((List.perm_insertionSort _ _).map _).nodup_iff.mpr (h.unique.sublist hsub)
  have hne : (s.matching path accessing since).Pairwise fun a b => a.number ≠ b.number :=
    List.pairwise_map.mp hnodup
  refine (hsorted.and hne).imp fun hab => ?_
  exact UInt64.lt_of_le_of_ne hab.1 hab.2

/-- A query for no more than it holds yields all that is asked. -/
lemma mem_matching_iff {path : EventPath} {accessing : Option FabricIndex} {since : UInt64}
    (h : (s.records.filter (asked path accessing since)).length ≤ 64) :
    r ∈ s.matching path accessing since ↔
      r ∈ s.records ∧ since ≤ r.number ∧ r.matchesPath path = true ∧ r.visibleTo accessing = true := by
  unfold matching
  rw [List.mem_insertionSort, List.take_of_length_le h, List.mem_filter]
  unfold asked
  simp only [Bool.and_eq_true, decide_eq_true_eq, ge_iff_le, and_assoc]

end EventStore

end MatterKit.Dm
