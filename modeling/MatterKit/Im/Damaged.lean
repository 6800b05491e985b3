import MatterKit.Im.Restored

/-!
# A damaged store

`im/persist.rs`, `restore`, read as two things: what can be read of a store (`readStore`: its records up
to the first that is malformed, and whether there is such a one), and the table that takes these records
one after another (`takeEach`). `restore` does both at once (`restore_eq_takeEach`), so that a record is
in the table before the next one is read, and stays there (`restore_unchanged_iff`).
-/

namespace MatterKit.Im

open Lib Machine Tlv Dm

variable {N P : ℕ}

namespace Persist

/-- The records that can be read one after another from here, and whether the array ends behind them. -/
def readFrom (P : ℕ) : ℕ → TlvReader → List (Durable P) × Bool
  | 0, _ => ([], false)
  | rounds + 1, r =>
    match exec nextElement r with
    | (.ok (some item), r) =>
      if item.value = .endOfContainer then ([], true)
      else if item.value.container? ≠ some .struct then ([], false)
      else
        match exec decodeOne r with
        | (.error _, _) => ([], false)
        | (.ok durable, r) => (durable :: (readFrom P rounds r).1, (readFrom P rounds r).2)
    | (_, _) => ([], false)

/-- The records of a store up to the first that cannot be read, and whether all of it can be read. -/
def readStore (P : ℕ) (bytes : List UInt8) : List (Durable P) × Bool :=
  match exec nextElement (TlvReader.new bytes) with
  | (.ok (some head), r) =>
    if head.value.container? ≠ some .array then ([], false)
    else readFrom P (r.buf.length - r.pos + 1) r
  | (_, _) => ([], false)

end Persist

namespace SubscriptionTable

/-- The table has room for the record, and no subscription with its id. -/
def Takes (t : SubscriptionTable N P) (durable : Durable P) : Prop :=
  t.subscriptions.toList.length < N ∧ ∀ s ∈ t.subscriptions.toList, s.id ≠ durable.id

/-- The table has room for all of the records, and none of their ids, which are different. -/
def TakesAll (t : SubscriptionTable N P) (records : List (Durable P)) : Prop :=
  t.subscriptions.toList.length + records.length ≤ N ∧ (records.map Durable.id).Nodup ∧
    ∀ s ∈ t.subscriptions.toList, ∀ durable ∈ records, s.id ≠ durable.id

/-- The records are inserted until one is refused, and whether none is. -/
def takeEach (now : Instant) : List (Durable P) → SubscriptionTable N P → Bool × SubscriptionTable N P
  | [], t => (true, t)
  | durable :: rest, t =>
    match (t.reserveId durable.id).insertRestored durable now with
    | .error _ => (false, t.reserveId durable.id)
    | .ok t => takeEach now rest t

section take

variable {t t' : SubscriptionTable N P} {durable : Durable P} {records : List (Durable P)} {now : Instant}

/-- A record is inserted exactly where the table takes it. -/
lemma insertRestored_cases (t : SubscriptionTable N P) (durable : Durable P) (now : Instant) :
    (t.Takes durable ∧ ∃ t', (t.reserveId durable.id).insertRestored durable now = .ok t' ∧
      t'.subscriptions.toList = t.subscriptions.toList ++ [fromDurable durable now]) ∨
    (¬ t.Takes durable ∧ ∃ e, (t.reserveId durable.id).insertRestored durable now = .error e) := by
  by_cases htakes : t.Takes durable
  · obtain ⟨t', hinsert, hlist, -⟩ := insertRestored_eq
      (t := t.reserveId durable.id) (by simpa using htakes.2) (by simpa using htakes.1) now
    rw [reserveId_subscriptions] at hlist
    exact .inl ⟨htakes, t', hinsert, hlist⟩
  · refine .inr ⟨htakes, ?_⟩
    cases hinsert : (t.reserveId durable.id).insertRestored durable now with
    | error e => exact ⟨e, rfl⟩
    | ok t' =>
      obtain ⟨hfresh, hlist, -⟩ := insertRestored_of_ok hinsert
      rw [reserveId_subscriptions] at hfresh hlist
      have hroom : t.subscriptions.toList.length < N := by
        have hle := t'.subscriptions.length_le
        rw [hlist, List.length_append, List.length_singleton] at hle
        exact hle
      exact absurd ⟨hroom, hfresh⟩ htakes

lemma takesAll_nil : t.TakesAll [] := ⟨t.subscriptions.length_le, List.nodup_nil, by simp⟩

/-- All are taken if the first is, and then the others by the table that holds it. -/
lemma takesAll_cons (hlist : t'.subscriptions.toList = t.subscriptions.toList ++ [fromDurable durable now]) :
    t.TakesAll (durable :: records) ↔ t.Takes durable ∧ t'.TakesAll records := by
  have hid : (fromDurable durable now).id = durable.id := rfl
  rw [TakesAll, Takes, TakesAll, hlist, List.length_append, List.length_singleton, List.length_cons,
    List.map_cons, List.nodup_cons]
  constructor
  · rintro ⟨hroom, ⟨hnew, hnodup⟩, hfresh⟩
    refine ⟨⟨by omega, fun s hs => hfresh s hs durable List.mem_cons_self⟩, by omega, hnodup, ?_⟩
    intro s hs other hother
    rcases List.mem_append.mp hs with hs | hs
    · exact hfresh s hs other (List.mem_cons_of_mem _ hother)
    · rw [List.mem_singleton.mp hs, hid]
      exact fun heq => hnew (List.mem_map.mpr ⟨other, hother, heq.symm⟩)
  · rintro ⟨⟨-, hfirst⟩, hroom, hnodup, hfresh⟩
    refine ⟨by omega, ⟨?_, hnodup⟩, ?_⟩
    · intro hmem
      obtain ⟨other, hother, heq⟩ := List.mem_map.mp hmem
      refine hfresh (fromDurable durable now) (by simp) other hother ?_
      rw [hid, heq]
    · intro s hs other hother
      rcases List.mem_cons.mp hother with rfl | hother
      · exact hfirst s hs
      · exact hfresh s (List.mem_append_left _ hs) other hother

/-- None is refused exactly where the table takes them all. -/
lemma takeEach_fst_iff (now : Instant) (records : List (Durable P)) (t : SubscriptionTable N P) :
    (takeEach now records t).1 = true ↔ t.TakesAll records := by
  induction records generalizing t with
  | nil => exact iff_of_true rfl takesAll_nil
  | cons durable rest ih =>
    rw [takeEach]
    rcases insertRestored_cases t durable now with ⟨htakes, t', hinsert, hlist⟩ | ⟨hrefused, e, hinsert⟩
    · rw [hinsert, takesAll_cons hlist]
      exact (ih t').trans (and_iff_right htakes).symm
    · rw [hinsert]
      refine iff_of_false (by simp) ?_
      rintro ⟨hroom, -, hfresh⟩
      rw [List.length_cons] at hroom
      exact hrefused ⟨by omega, fun s hs => hfresh s hs durable List.mem_cons_self⟩

/-- What is taken comes behind what was there. -/
lemma exists_takeEach (now : Instant) (records : List (Durable P)) (t : SubscriptionTable N P) :
    ∃ taken, (takeEach now records t).2.subscriptions.toList = t.subscriptions.toList ++ taken := by
  induction records generalizing t with
  | nil => exact ⟨[], (List.append_nil _).symm⟩
  | cons durable rest ih =>
    rw [takeEach]
    rcases insertRestored_cases t durable now with ⟨-, t', hinsert, hlist⟩ | ⟨-, e, hinsert⟩
    · rw [hinsert]
      obtain ⟨taken, htaken⟩ := ih t'
      exact ⟨fromDurable durable now :: taken, by rw [htaken, hlist, List.append_assoc, List.singleton_append]⟩
    · rw [hinsert]
      exact ⟨[], by rw [reserveId_subscriptions, List.append_nil]⟩

/-- The table keeps its subscriptions exactly where the first record is not taken. -/
lemma takeEach_unchanged_iff (now : Instant) (records : List (Durable P)) (t : SubscriptionTable N P) :
    (takeEach now records t).2.subscriptions = t.subscriptions ↔
      ∀ durable, records.head? = some durable → ¬ t.Takes durable := by
  cases records with
  | nil => exact iff_of_true rfl (by simp)
  | cons durable rest =>
    have hfirst : (∀ other, (durable :: rest).head? = some other → ¬ t.Takes other) ↔
        ¬ t.Takes durable := by simp
    rw [hfirst, takeEach]
    rcases insertRestored_cases t durable now with ⟨htakes, t', hinsert, hlist⟩ | ⟨hrefused, e, hinsert⟩
    · rw [hinsert]
      refine iff_of_false ?_ (not_not_intro htakes)
      intro hsame
      obtain ⟨taken, htaken⟩ := exists_takeEach now rest t'
      have hlength := congrArg List.length (congrArg BoundedVec.toList hsame)
      rw [htaken, hlist] at hlength
      simp at hlength
    · rw [hinsert]
      exact iff_of_true (reserveId_subscriptions t durable.id) hrefused

end take

end SubscriptionTable

namespace Persist

open SubscriptionTable

/-- The loop reads the records and has the table take them, in one. -/
lemma restoreFrom_eq_takeEach (now : Instant) (rounds restored : ℕ) (r : TlvReader)
    (t : SubscriptionTable N P) :
    (restoreFrom now rounds restored r t).2 = (takeEach now (readFrom P rounds r).1 t).2 ∧
      ((∃ n, (restoreFrom now rounds restored r t).1 = .ok n) ↔
        (readFrom P rounds r).2 = true ∧ (takeEach now (readFrom P rounds r).1 t).1 = true) := by
  induction rounds generalizing restored r t with
  | zero => exact ⟨rfl, iff_of_false (by simp [restoreFrom]) (by simp [readFrom])⟩
  | succ rounds ih =>
    rw [restoreFrom, readFrom]
    rcases exec nextElement r with ⟨e | item?, r'⟩
    · exact ⟨rfl, iff_of_false (by simp) (by simp)⟩
    · cases item? with
      | none => exact ⟨rfl, iff_of_false (by simp) (by simp)⟩
      | some item =>
        by_cases hend : item.value = .endOfContainer
        · simp only [if_pos hend]
          exact ⟨rfl, iff_of_true ⟨restored, rfl⟩ ⟨trivial, rfl⟩⟩
        · simp only [if_neg hend]
          by_cases hstruct : item.value.container? ≠ some .struct
          · simp only [if_pos hstruct]
            exact ⟨rfl, iff_of_false (by simp) (by simp)⟩
          · simp only [if_neg hstruct]
            rcases exec (decodeOne (P := P)) r' with ⟨e | durable, r''⟩
            · exact ⟨rfl, iff_of_false (by simp) (by simp)⟩
            · simp only [takeEach]
              cases (t.reserveId durable.id).insertRestored durable now with
              | error e => exact ⟨rfl, iff_of_false (by simp) (by simp)⟩
              | ok t' => exact ih (restored + 1) r'' t'

lemma restore_eq_takeEach (t : SubscriptionTable N P) (bytes : List UInt8) (now : Instant) :
    (restore t bytes now).2 = (takeEach now (readStore P bytes).1 t).2 ∧
      ((∃ n, (restore t bytes now).1 = .ok n) ↔
        (readStore P bytes).2 = true ∧ (takeEach now (readStore P bytes).1 t).1 = true) := by
  rw [restore, readStore]
  rcases exec nextElement (TlvReader.new bytes) with ⟨e | head?, r⟩
  · exact ⟨rfl, iff_of_false (by simp) (by simp)⟩
  · cases head? with
    | none => exact ⟨rfl, iff_of_false (by simp) (by simp)⟩
    | some head =>
      by_cases harray : head.value.container? ≠ some .array
      · simp only [if_pos harray]
        exact ⟨rfl, iff_of_false (by simp) (by simp)⟩
      · simp only [if_neg harray]
        exact restoreFrom_eq_takeEach now _ 0 r t

/-- A restore that fails leaves the subscriptions as they were exactly where it cannot fail, because
the whole store can be read and the table takes all its records, or where its first record cannot be read
or is not taken. -/
theorem restore_unchanged_iff (t : SubscriptionTable N P) (bytes : List UInt8) (now : Instant) :
    (∀ e, (restore t bytes now).1 = .error e → (restore t bytes now).2.subscriptions = t.subscriptions) ↔
      ((readStore P bytes).2 = true ∧ t.TakesAll (readStore P bytes).1) ∨
        ∀ durable, (readStore P bytes).1.head? = some durable → ¬ t.Takes durable := by
  obtain ⟨hstate, hok⟩ := restore_eq_takeEach t bytes now
  rw [hstate, takeEach_unchanged_iff, ← takeEach_fst_iff now, ← hok]
  cases (restore t bytes now).1 with
  | error e => simp
  | ok n => simp

/-- A store with a record of subscription 1 and behind it a record with nothing in it. -/
def halfDamaged : List UInt8 :=
  [0x16,
    0x15, 0x24, 0, 1, 0x24, 1, 1, 0x24, 2, 1, 0x36, 7, 0x17, 0x18, 0x18, 0x18,
    0x15, 0x18,
    0x18]

/-- The restore fails, and the first record is in the table. -/
theorem restores_halfDamaged :
    (restore (new : SubscriptionTable 2 1) halfDamaged ⟨0⟩).1 = .error .tlvNotFound ∧
      (restore (new : SubscriptionTable 2 1) halfDamaged ⟨0⟩).2.subscriptions.toList.map Subscription.id =
        [1] ∧ ¬ ∀ e, (restore (new : SubscriptionTable 2 1) halfDamaged ⟨0⟩).1 = .error e →
        (restore (new : SubscriptionTable 2 1) halfDamaged ⟨0⟩).2.subscriptions =
          (new : SubscriptionTable 2 1).subscriptions := by
  have hids : (restore (new : SubscriptionTable 2 1) halfDamaged ⟨0⟩).2.subscriptions.toList.map
      Subscription.id = [1] := by decide +kernel
  have herror : (restore (new : SubscriptionTable 2 1) halfDamaged ⟨0⟩).1 = .error .tlvNotFound := by
    decide +kernel
  refine ⟨herror, hids, ?_⟩
  intro h
  rw [h .tlvNotFound herror] at hids
  cases hids

end Persist

end MatterKit.Im
