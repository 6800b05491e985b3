import MatterKit.Lib.Runs
import MatterKit.Dm.Version

/-!
# What the version table tells its readers

Two parties read `dm/version.rs`'s table.

The list of changes has the capacity of the table and drops what comes after it is full, so a drain
names the first `N` different instances that were touched since the drain before: all of them, once
each, as long as no more than `N` were touched (`changed_run`, `count_drained`).

An equal version is never wrong. An instance that has an entry keeps it, and its version counts the
touches; one that finds the table full never gets an entry, and is given a new member of the seed's Weyl
sequence each time it is read.
-/

namespace MatterKit.Dm

open Lib

namespace DataVersions

variable {N : ℕ}

/-! ## Runs -/

/-- The operations of a table. -/
inductive Op where
  | version (endpoint : EndpointId) (cluster : ClusterId)
  | touch (endpoint : EndpointId) (cluster : ClusterId)
  | drainChanges
  deriving DecidableEq

/-- The table after one operation. -/
def exec (v : DataVersions N) : Op → DataVersions N
  | .version endpoint cluster => (version endpoint cluster v).2
  | .touch endpoint cluster => touch endpoint cluster v
  | .drainChanges => v.drainChanges.2

/-- The table after a run. -/
def run (v : DataVersions N) (ops : List Op) : DataVersions N := ops.foldl exec v

@[simp] lemma run_nil (v : DataVersions N) : v.run [] = v := rfl

@[simp] lemma run_cons (v : DataVersions N) (op : Op) (ops : List Op) :
    v.run (op :: ops) = (v.exec op).run ops := rfl

lemma run_append (v : DataVersions N) (before after : List Op) :
    v.run (before ++ after) = (v.run before).run after := List.foldl_append

/-! ## What a drain returns -/

/-- The touches that a drain at the end of `ops` has to answer for, oldest first. -/
def sinceDrain (ops : List Op) : List (EndpointId × ClusterId) :=
  ops.foldl
    (fun touched op => match op with
      | .version _ _ => touched
      | .touch endpoint cluster => touched ++ [(endpoint, cluster)]
      | .drainChanges => [])
    []

lemma sinceDrain_append_version (ops : List Op) (endpoint : EndpointId) (cluster : ClusterId) :
    sinceDrain (ops ++ [.version endpoint cluster]) = sinceDrain ops := by
  simp [sinceDrain]

lemma sinceDrain_append_touch (ops : List Op) (endpoint : EndpointId) (cluster : ClusterId) :
    sinceDrain (ops ++ [.touch endpoint cluster]) = sinceDrain ops ++ [(endpoint, cluster)] := by
  simp [sinceDrain]

lemma sinceDrain_append_drainChanges (ops : List Op) : sinceDrain (ops ++ [.drainChanges]) = [] := by
  simp [sinceDrain]

/-- The members of a list in the order they first appear in. -/
def firsts {α : Type} [DecidableEq α] (l : List α) : List α := l.reverse.dedup.reverse

section firsts

variable {α : Type} [DecidableEq α] {l : List α} {a : α}

@[simp] lemma mem_firsts : a ∈ firsts l ↔ a ∈ l := by simp [firsts]

lemma nodup_firsts : (firsts l).Nodup := List.nodup_reverse.mpr (List.nodup_dedup _)

lemma firsts_append_of_mem (h : a ∈ l) : firsts (l ++ [a]) = firsts l := by
  simp [firsts, List.dedup_cons_of_mem (List.mem_reverse.mpr h)]

lemma firsts_append_of_notMem (h : a ∉ l) : firsts (l ++ [a]) = firsts l ++ [a] := by
  have h : a ∉ l.reverse := by simpa using h
  simp [firsts, List.dedup_cons_of_notMem h]

/-- A vector that takes only new members, and none when it is full, holds the first `N` of what it
was given. -/
lemma toList_pushNew {v : BoundedVec α N} (hv : v.toList = (firsts l).take N) (a : α)
    [Decidable (a ∈ v.toList)] :
    (if a ∈ v.toList then v else (v.push a).getD v).toList = (firsts (l ++ [a])).take N := by
  by_cases hmem : a ∈ l
  · rw [firsts_append_of_mem hmem, ← hv]
    split
    · rfl
    · rename_i hnot
      have hfull : v.toList.length = N := by
        by_contra hroom
        apply hnot
        have hlen : v.toList.length = min N (firsts l).length := by rw [hv, List.length_take]
        have hall : (firsts l).length ≤ N := by omega
        rw [hv, List.take_of_length_le hall]
        exact mem_firsts.mpr hmem
      rw [BoundedVec.push_eq_none_iff.mpr hfull]
      rfl
  · have hnot : a ∉ v.toList := by
      intro h
      rw [hv] at h
      exact hmem (mem_firsts.mp (List.mem_of_mem_take h))
    rw [if_neg hnot, firsts_append_of_notMem hmem]
    have hlen : v.toList.length = min N (firsts l).length := by rw [hv, List.length_take]
    rcases hpush : v.push a with _ | w
    · have hfull := BoundedVec.push_eq_none_iff.mp hpush
      have hle : N ≤ (firsts l).length := by omega
      rw [Option.getD_none, List.take_append_of_le_length hle, hv]
    · obtain ⟨hroom, hw⟩ := BoundedVec.push_eq_some_iff.mp hpush
      have hlt : (firsts l).length < N := by omega
      rw [Option.getD_some, hw, hv, List.take_of_length_le hlt.le, List.take_of_length_le]
      simpa using hlt

end firsts

/-- The changes on record at the end of a run. -/
lemma changed_run (seed : UInt32) (ops : List Op) :
    ((new seed : DataVersions N).run ops).changed.toList = (firsts (sinceDrain ops)).take N := by
  induction ops using List.reverseRecOn with
  | nil => simp [new, BoundedVec.empty, sinceDrain, firsts]
  | append_singleton ops op ih =>
    rw [run_append]
    cases op with
    | version endpoint cluster =>
      rw [sinceDrain_append_version, ← ih]
      simp only [run_cons, run_nil, exec, version]
      split <;> rfl
    | touch endpoint cluster =>
      rw [sinceDrain_append_touch]
      exact toList_pushNew ih (endpoint, cluster)
    | drainChanges =>
      rw [sinceDrain_append_drainChanges]
      simp [exec, drainChanges, BoundedVec.empty, firsts]

/-- While there is room for them, a drain names each touched instance once and no other. -/
lemma count_drained {seed : UInt32} {ops : List Op} (h : (firsts (sinceDrain ops)).length ≤ N)
    (i : EndpointId × ClusterId) : ((new seed : DataVersions N).run ops).changed.toList.count i =
      if i ∈ sinceDrain ops then 1 else 0 := by
  rw [changed_run, List.take_of_length_le h]
  split
  · rename_i hi
    exact List.count_eq_one_of_mem nodup_firsts (mem_firsts.mpr hi)
  · rename_i hi
    exact List.count_eq_zero_of_not_mem (fun h => hi (mem_firsts.mp h))

/-! ## What a version says -/

/-- The version on record of a cluster instance. -/
def tracked (endpoint : EndpointId) (cluster : ClusterId) (v : DataVersions N) : Option UInt32 :=
  (v.entries.toList.find? (Entry.isFor endpoint cluster)).map Entry.version

/-- What separates neighbouring members of the Weyl sequence. -/
def stride : UInt32 := 0x9E3779B9

/-- Whether an operation takes a new seed. -/
def draws (v : DataVersions N) : Op → Bool
  | .version endpoint cluster => (v.tracked endpoint cluster).isNone
  | .touch _ _ | .drainChanges => false

/-- The seeds that a run takes. -/
def seedsDrawn (v : DataVersions N) : List Op → ℕ
  | [] => 0
  | op :: ops => (v.draws op).toNat + (v.exec op).seedsDrawn ops

/-- Whether an operation is a touch. -/
def Op.isTouch : Op → Bool
  | .touch _ _ => true
  | .version _ _ | .drainChanges => false

lemma isFor_eq (endpoint : EndpointId) (cluster : ClusterId) : Entry.isFor endpoint cluster =
      fun e => decide ((e.endpoint, e.cluster) = (endpoint, cluster)) := by
  funext e
  simp only [Entry.isFor, Bool.beq_eq_decide_eq, Prod.mk.injEq, Bool.decide_and]

variable {v : DataVersions N} {endpoint : EndpointId} {cluster : ClusterId} {x : UInt32}

lemma version_of_tracked (h : v.tracked endpoint cluster = some x) :
    version endpoint cluster v = (x, v) := by
  obtain ⟨e, he, rfl⟩ := Option.map_eq_some_iff.mp h
  simp only [version, he]

lemma version_of_untracked (h : v.tracked endpoint cluster = none) :
    version endpoint cluster v = (v.seed + stride, { v with
      seed := v.seed + stride
      entries := (v.entries.push ⟨endpoint, cluster, v.seed + stride⟩).getD v.entries }) := by
  have he := Option.map_eq_none_iff.mp h
  simp only [version, he, stride]

/-- A touch moves the version of its instance and no other. -/
lemma tracked_touch (v : DataVersions N) (endpoint endpoint' : EndpointId) (cluster cluster' : ClusterId) :
    (touch endpoint' cluster' v).tracked endpoint cluster =
      if (endpoint, cluster) = (endpoint', cluster') then (v.tracked endpoint cluster).map (· + 1)
      else v.tracked endpoint cluster := by
  simp only [tracked, touch, BoundedVec.update, isFor_eq]
  rw [find?_key_modifyFirst (k := fun e : Entry => (e.endpoint, e.cluster))
    (f := fun e : Entry => { e with version := e.version + 1 }) (fun _ => rfl)]
  split
  · rw [Option.map_map, Option.map_map]
    rfl
  · rfl

lemma entries_version_of_untracked (h : v.tracked endpoint cluster = none) :
    (version endpoint cluster v).2.entries =
      (v.entries.push ⟨endpoint, cluster, v.seed + stride⟩).getD v.entries := by
  rw [version_of_untracked h]

/-- A reading leaves what is on record. -/
lemma tracked_version_of_some (h : v.tracked endpoint cluster = some x) (endpoint' : EndpointId)
    (cluster' : ClusterId) : (version endpoint' cluster' v).2.tracked endpoint cluster = some x := by
  rcases hv : v.tracked endpoint' cluster' with _ | y
  · obtain ⟨e, he, rfl⟩ := Option.map_eq_some_iff.mp h
    rw [tracked, entries_version_of_untracked hv]
    rcases hpush : v.entries.push ⟨endpoint', cluster', v.seed + stride⟩ with _ | w
    · rw [Option.getD_none, he]
      rfl
    · obtain ⟨-, hw⟩ := BoundedVec.push_eq_some_iff.mp hpush
      rw [Option.getD_some, hw, List.find?_append, he]
      rfl
  · rw [version_of_tracked hv]
    exact h

/-- A first reading puts the version on record, or finds the table full. -/
lemma tracked_version (v : DataVersions N) (endpoint : EndpointId) (cluster : ClusterId) :
    (version endpoint cluster v).2.tracked endpoint cluster = some (version endpoint cluster v).1 ∨
      v.tracked endpoint cluster = none ∧ v.entries.toList.length = N := by
  rcases hv : v.tracked endpoint cluster with _ | x
  · rcases hpush : v.entries.push ⟨endpoint, cluster, v.seed + stride⟩ with _ | w
    · exact .inr ⟨rfl, BoundedVec.push_eq_none_iff.mp hpush⟩
    · obtain ⟨-, hw⟩ := BoundedVec.push_eq_some_iff.mp hpush
      have hnone := Option.map_eq_none_iff.mp hv
      have hself : Entry.isFor endpoint cluster ⟨endpoint, cluster, v.seed + stride⟩ = true := by
        rw [isFor_eq]
        exact decide_eq_true rfl
      left
      rw [tracked, entries_version_of_untracked hv, hpush, Option.getD_some, hw, List.find?_append,
        hnone, Option.none_or, List.find?_cons_of_pos hself, version_of_untracked hv]
      rfl
  · left
    rw [version_of_tracked hv]
    exact hv

/-- While an instance is on record, its version counts its touches. -/
lemma tracked_run (h : v.tracked endpoint cluster = some x) (ops : List Op) :
    (v.run ops).tracked endpoint cluster =
      some (x + UInt32.ofNat (ops.count (.touch endpoint cluster))) := by
  induction ops generalizing v x with
  | nil => simpa using h
  | cons op ops ih =>
    rw [run_cons]
    cases op with
    | version endpoint' cluster' =>
      rw [exec, ih (tracked_version_of_some h endpoint' cluster'), List.count_cons_of_ne (by simp)]
    | touch endpoint' cluster' =>
      have hstep := tracked_touch v endpoint endpoint' cluster cluster'
      rw [h] at hstep
      by_cases heq : (endpoint, cluster) = (endpoint', cluster')
      · obtain ⟨rfl, rfl⟩ := Prod.mk.injEq .. ▸ heq
        rw [if_pos rfl] at hstep
        rw [exec, ih hstep, List.count_cons_self, UInt32.add_assoc, UInt32.ofNat_add, UInt32.add_comm 1]
        rfl
      · rw [if_neg heq] at hstep
        have hne : Op.touch endpoint' cluster' ≠ Op.touch endpoint cluster := by
          rintro ⟨⟩
          exact heq rfl
        rw [exec, ih hstep, List.count_cons_of_ne hne]
    | drainChanges =>
      have hstep : v.drainChanges.2.tracked endpoint cluster = some x := h
      rw [exec, ih hstep, List.count_cons_of_ne (by simp)]

/-- A run moves the seed along the Weyl sequence, one member for each seed taken. -/
lemma seed_run (v : DataVersions N) (ops : List Op) :
    (v.run ops).seed = v.seed + stride * UInt32.ofNat (v.seedsDrawn ops) := by
  induction ops generalizing v with
  | nil => simp [seedsDrawn]
  | cons op ops ih =>
    have hzero : v.seed + stride * UInt32.ofNat 0 = v.seed := by simp
    have hstep : (v.exec op).seed = v.seed + stride * UInt32.ofNat (v.draws op).toNat := by
      cases op with
      | version endpoint cluster =>
        rcases hv : v.tracked endpoint cluster with _ | x
        · rw [draws, hv, exec, version_of_untracked hv]
          exact (congrArg (v.seed + ·) (UInt32.mul_one stride)).symm
        · rw [draws, hv, exec, version_of_tracked hv]
          exact hzero.symm
      | touch endpoint cluster | drainChanges => exact hzero.symm
    rw [run_cons, ih, hstep, seedsDrawn, UInt32.ofNat_add, UInt32.mul_add, UInt32.add_assoc]

/-- An instance that the full table has no entry for never gets one. -/
lemma untracked_run (h : v.tracked endpoint cluster = none ∧ v.entries.toList.length = N) (ops : List Op) :
    (v.run ops).tracked endpoint cluster = none ∧ (v.run ops).entries.toList.length = N := by
  refine foldl_invariant (W := fun _ => True)
    (I := fun v : DataVersions N =>
      v.tracked endpoint cluster = none ∧ v.entries.toList.length = N) ?_ (fun _ _ => trivial) h
  rintro v op - ⟨hnone, hfull⟩
  cases op with
  | version endpoint' cluster' =>
    rcases hv : v.tracked endpoint' cluster' with _ | x
    · have hpush := BoundedVec.push_eq_none_iff
        (a := (⟨endpoint', cluster', v.seed + stride⟩ : Entry)).mpr hfull
      have hentries : (version endpoint' cluster' v).2.entries = v.entries := by
        rw [entries_version_of_untracked hv, hpush, Option.getD_none]
      rw [exec, tracked, hentries]
      exact ⟨hnone, hfull⟩
    · rw [exec, version_of_tracked hv]
      exact ⟨hnone, hfull⟩
  | touch endpoint' cluster' =>
    refine ⟨?_, ?_⟩
    · rw [exec, tracked_touch, hnone]
      split <;> rfl
    · exact (length_modifyFirst _ _ _).trans hfull
  | drainChanges => exact ⟨hnone, hfull⟩

/-- Adding a number of units below `2 ^ 32` comes back to where it started only if it is zero. -/
lemma eq_zero_of_add_ofNat_eq {n : ℕ} (hn : n < 2 ^ 32) (h : x + UInt32.ofNat n = x) : n = 0 := by
  have hnat := congrArg UInt32.toNat h
  rw [UInt32.toNat_add, UInt32.toNat_ofNat', Nat.mod_eq_of_lt hn] at hnat
  have := x.toNat_lt
  omega

/-- The Weyl sequence does not come back to a member in less than `2 ^ 32` steps: the stride is
odd. -/
lemma eq_zero_of_add_stride_eq {n : ℕ} (hn : n < 2 ^ 32) (h : x + stride * UInt32.ofNat n = x) : n = 0 := by
  have hzero : stride * UInt32.ofNat n = 0 := by simpa using h
  have hnat := congrArg UInt32.toNat hzero
  rw [UInt32.toNat_mul, UInt32.toNat_ofNat', Nat.mod_eq_of_lt hn] at hnat
  have hdvd : 2 ^ 32 ∣ stride.toNat * n := Nat.dvd_of_mod_eq_zero hnat
  have hodd : Nat.Coprime (2 ^ 32) stride.toNat := by
    simp only [stride, UInt32.toNat_ofNat]
    norm_num
  exact Nat.eq_zero_of_dvd_of_lt (hodd.dvd_of_dvd_mul_left hdvd) hn

/-- Equal versions at two readings: the instance was not touched in between. -/
lemma not_touched_of_version_eq {between : List Op}
    (htouch : between.count (.touch endpoint cluster) < 2 ^ 32)
    (hseeds : (v.draws (.version endpoint cluster)).toNat +
      (version endpoint cluster v).2.seedsDrawn between < 2 ^ 32) (h : (version endpoint cluster v).1 =
      (version endpoint cluster ((version endpoint cluster v).2.run between)).1) :
    Op.touch endpoint cluster ∉ between := by
  rcases tracked_version v endpoint cluster with hsome | ⟨hnone, hfull⟩
  · rw [version_of_tracked (tracked_run hsome between)] at h
    exact List.count_eq_zero.mp (eq_zero_of_add_ofNat_eq htouch h.symm)
  · have hthen : ((version endpoint cluster v).2.run between).tracked endpoint cluster = none :=
      (untracked_run ⟨hnone, hfull⟩ (.version endpoint cluster :: between)).1
    have hseed := seed_run (version endpoint cluster v).2 between
    rw [version_of_untracked hthen, hseed, version_of_untracked hnone] at h
    rw [draws, hnone, Option.isNone_none, Bool.toNat_true] at hseeds
    refine absurd (eq_zero_of_add_stride_eq (x := v.seed + stride) hseeds ?_) (by omega)
    rw [UInt32.ofNat_add, UInt32.mul_add, UInt32.add_comm (stride * _), ← UInt32.add_assoc]
    rw [version_of_untracked hnone]
    refine Eq.trans (congrArg _ ?_) h.symm
    exact UInt32.mul_one stride

lemma seedsDrawn_append (v : DataVersions N) (before after : List Op) :
    v.seedsDrawn (before ++ after) = v.seedsDrawn before + (v.run before).seedsDrawn after := by
  induction before generalizing v with
  | nil => simp [seedsDrawn]
  | cons op before ih =>
    rw [List.cons_append, seedsDrawn, ih, seedsDrawn, run_cons, Nat.add_assoc]

/-- The seeds taken between two readings are fewer than those of the run around them, by at least
one when the first of the readings takes a seed. -/
lemma seedsDrawn_between (v : DataVersions N) (before between after : List Op) (first : Op) :
    ((v.run before).draws first).toNat + ((v.run before).exec first).seedsDrawn between ≤
      v.seedsDrawn (before ++ first :: between ++ after) := by
  rw [seedsDrawn_append, seedsDrawn_append, seedsDrawn]
  omega

/-- Over every run of a table: what a drain at its end returns, and what equal versions at two of its
readings mean. -/
theorem changes_and_versions (seed : UInt32) (ops : List Op) :
    (((new seed : DataVersions N).run ops).drainChanges.1.toList =
        (firsts (sinceDrain ops)).take N) ∧
      ((firsts (sinceDrain ops)).length ≤ N →
        ∀ i, ((new seed : DataVersions N).run ops).drainChanges.1.toList.count i =
          if i ∈ sinceDrain ops then 1 else 0) ∧
      ∀ (endpoint : EndpointId) (cluster : ClusterId) (before between after : List Op),
        ops = before ++ .version endpoint cluster :: between ++ .version endpoint cluster :: after →
        ops.countP Op.isTouch < 2 ^ 32 →
        (new seed : DataVersions N).seedsDrawn ops < 2 ^ 32 →
        (version endpoint cluster ((new seed : DataVersions N).run before)).1 =
          (version endpoint cluster ((new seed : DataVersions N).run
            (before ++ .version endpoint cluster :: between))).1 →
        Op.touch endpoint cluster ∉ between := by
  refine ⟨changed_run seed ops, count_drained, ?_⟩
  rintro endpoint cluster before between after rfl htouch hseeds hversion
  rw [run_append, run_cons] at hversion
  refine not_touched_of_version_eq ?_ ?_ hversion
  · calc between.count (.touch endpoint cluster)
        ≤ between.countP Op.isTouch := List.countP_mono_left fun op _ hop => by
          rw [beq_iff_eq.mp hop]
          rfl
      _ ≤ _ := by
          simp only [List.countP_append, List.countP_cons]
          omega
      _ < 2 ^ 32 := htouch
  · exact (seedsDrawn_between _ before between _ _).trans_lt hseeds

/-- Two readings of one instance with a touch of another between them: the versions agree, and the
drain names the other. -/
theorem neighbour_changed : ((new 1 : DataVersions 2).run
        [.version 0 6, .touch 1 6, .version 0 6]).drainChanges.1.toList = [(1, 6)] ∧
      Op.touch 0 6 ∉ [Op.touch 1 6] := by
  have h := changes_and_versions (N := 2) 1 [.version 0 6, .touch 1 6, .version 0 6]
  refine ⟨h.1.trans (by decide), h.2.2 0 6 [] [.touch 1 6] [] rfl ?_ ?_ ?_⟩
  · exact (by decide : List.countP _ _ = 1).trans_lt (by norm_num)
  · exact (by decide +kernel : seedsDrawn _ _ = 1).trans_lt (by norm_num)
  · decide +kernel

/-- A table of one entry that two instances are touched in tells its drain of one of them. -/
theorem second_change_dropped : ¬ ∀ (N : ℕ) (seed : UInt32) (ops : List Op), ∀ i ∈ sinceDrain ops,
      ((new seed : DataVersions N).run ops).drainChanges.1.toList.count i = 1 := by
  intro h
  exact absurd (h 1 0 [.touch 0 6, .touch 0 8] (0, 8) (by decide)) (by decide)

end DataVersions

end MatterKit.Dm
