import MatterKit.Im.Subscription

/-!
# The list under a cursor

A report's cursor is an index into the paths the report is over, and those change under it when a
subscription goes from its dirty paths to everything it covers. `Subscription.reprime` starts the series
over when it does that; a dirty set that overflows, and `SubscriptionTable.reprimeAll`, do not.

A call restarts every series it switches exactly when no subscription it switches has a series under way
(`restarts_iff`), and a run of calls exactly when each of its calls does (`run_restarts_iff`).
-/

namespace MatterKit.Im

open Lib Machine Tlv Dm

variable {η ν : Type} {N P : ℕ}

/-! ## Calls -/

/-- A call on a table of subscriptions. A report is made by any server, on any state of its
device. -/
inductive TableOp (η ν : Type)
  | subscribe (config : SubscriptionConfig) (request : NewSubscription) (now : Instant)
  | noteChange (path : AttributePath)
  | noteClusterChange (endpoint : EndpointId) (cluster : ClusterId)
  | reprimeAll
  | reprime (id : UInt32)
  | reportChunk (id : UInt32) (srv : Server η ν) (h : η) (v : ν) (reason : ReportReason)
      (ctx : InteractionContext) (scratch buf : Slice)
  | reported (id : UInt32) (now : Instant)

namespace TableOp

/-- The table after a call. -/
def step (t : SubscriptionTable N P) : TableOp η ν → SubscriptionTable N P
  | subscribe config request now => (t.subscribe config request now).2
  | noteChange path => t.noteChange path
  | noteClusterChange endpoint cluster => t.noteClusterChange endpoint cluster
  | reprimeAll => t.reprimeAll
  | reprime id => t.modifyId id Subscription.reprime
  | reportChunk id srv h v reason ctx scratch buf =>
    t.modifyId id fun s => (srv.reportChunk h v s reason ctx scratch buf).subscription
  | reported id now => t.modifyId id fun s => s.reported now

/-- What a call does to a subscription it reaches. -/
def onSub (s : Subscription P) : TableOp η ν → Subscription P
  | subscribe _ _ _ => s
  | noteChange path => s.noteChange path
  | noteClusterChange endpoint cluster => s.noteClusterChange endpoint cluster
  | reprimeAll => { s with dirty := s.dirty.reprime }
  | reprime id => if s.id = id then s.reprime else s
  | reportChunk id srv h v reason ctx scratch buf =>
    if s.id = id then (srv.reportChunk h v s reason ctx scratch buf).subscription else s
  | reported id now => if s.id = id then s.reported now else s

/-- A call takes a subscription from its dirty paths to everything it covers. -/
def Switches (op : TableOp η ν) (s : Subscription P) : Prop :=
  s.dirty.mustReprime = false ∧ (op.onSub s).dirty.mustReprime = true

/-- Every subscription the call switches is left with its cursor at the start. -/
def Restarts (t : SubscriptionTable N P) (op : TableOp η ν) : Prop :=
  ∀ s ∈ t.subscriptions.toList, op.Switches s → op.onSub s ∈ (op.step t).subscriptions.toList →
    (op.onSub s).cursor = .start

/-- The paths a call adds to a dirty set. -/
def newlyDirty (s : Subscription P) : TableOp η ν → List AttributePath
  | noteChange path => if s.covers path then [path] else []
  | noteClusterChange endpoint cluster =>
    s.paths.toList.filterMap (intersectCluster endpoint cluster)
  | _ => []

/-- A call finds a series under way that it does not start over: there are more new paths than the
dirty set has room for, or it is `reprimeAll`, and the cursor is not at the start. -/
def Strands (op : TableOp η ν) (s : Subscription P) : Prop :=
  s.dirty.mustReprime = false ∧ s.cursor ≠ .start ∧
    (op = .reprimeAll ∨
      dirtyPaths < s.dirty.paths.toList.length +
        ((op.newlyDirty s).toFinset \ s.dirty.paths.toList.toFinset).card)

end TableOp

/-! ## Overflow -/

namespace DirtySet

variable {M : ℕ}

lemma insert_of_overflowed {d : DirtySet M} (h : d.overflowed = true) (path : AttributePath) :
    d.insert path = d := by
  unfold insert
  rw [if_pos (.inl h)]

lemma foldl_insert_of_overflowed {d : DirtySet M} (h : d.overflowed = true)
    (l : List AttributePath) : l.foldl insert d = d := by
  induction l with
  | nil => rfl
  | cons path l ih => rw [List.foldl_cons, insert_of_overflowed h, ih]

/-- Inserting paths overflows a set exactly when it has not room for those that are new. -/
lemma overflowed_foldl_insert {d : DirtySet M} (h : d.overflowed = false) (l : List AttributePath) :
    (l.foldl insert d).overflowed = true ↔
      M < d.paths.toList.length + (l.toFinset \ d.paths.toList.toFinset).card := by
  induction l generalizing d with
  | nil =>
    have := d.paths.length_le
    simp only [List.foldl_nil, h, List.toFinset_nil, Finset.empty_sdiff, Finset.card_empty,
      Bool.false_eq_true, false_iff]
    omega
  | cons path l ih =>
    rw [List.foldl_cons, List.toFinset_cons]
    by_cases hmem : path ∈ d.paths.toList
    · have hsame : d.insert path = d := by
        unfold insert
        rw [if_pos (.inr hmem)]
      rw [hsame, ih h, Finset.insert_sdiff_of_mem _ (List.mem_toFinset.mpr hmem)]
    · have hnew : path ∉ d.paths.toList.toFinset := fun hp => hmem (List.mem_toFinset.mp hp)
      have hcard : (Insert.insert path l.toFinset \ d.paths.toList.toFinset).card =
          (l.toFinset \ (d.paths.toList ++ [path]).toFinset).card + 1 := by
        rw [Finset.insert_sdiff_of_notMem _ hnew, ← Finset.card_insert_of_notMem
          (s := l.toFinset \ (d.paths.toList ++ [path]).toFinset) (a := path) (by simp)]
        congr 1
        ext x
        simp only [Finset.mem_insert, Finset.mem_sdiff, List.mem_toFinset, List.mem_append,
          List.mem_singleton]
        by_cases hx : x = path
        · simp [hx]
        · simp [hx]
      rcases hpush : d.paths.push path with _ | paths
      · have hfull : d.paths.toList.length = M := BoundedVec.push_eq_none_iff.mp hpush
        have hover : d.insert path = ⟨.empty, true⟩ := by
          unfold insert
          rw [if_neg (by simp [h, hmem])]
          simp only [hpush]
        rw [hover, foldl_insert_of_overflowed rfl, hcard]
        simp only [true_iff]
        omega
      · obtain ⟨-, hpaths⟩ := BoundedVec.push_eq_some_iff.mp hpush
        have hkept : d.insert path = { d with paths := paths } := by
          unfold insert
          rw [if_neg (by simp [h, hmem])]
          simp only [hpush]
        rw [hkept, ih (d := { d with paths := paths }) h, hcard]
        show M < paths.toList.length + (l.toFinset \ paths.toList.toFinset).card ↔ _
        rw [hpaths, List.length_append, List.length_singleton]
        omega

end DirtySet

/-! ## One call -/

lemma reportChunk_dirty (srv : Server η ν) (h : η) (v : ν) (s : Subscription P)
    (reason : ReportReason) (ctx : InteractionContext) (scratch buf : Slice) :
    (srv.reportChunk h v s reason ctx scratch buf).subscription.dirty = s.dirty := by
  unfold Server.reportChunk
  cases reason with
  | keepAlive => rfl
  | data =>
    simp only
    generalize exec (srv.serveChunkWithEvents h _ _ ctx _ scratch buf) _ = served
    rcases served with ⟨_ | _, _⟩
    · rfl
    · rfl

namespace TableOp

variable {op : TableOp η ν} {s : Subscription P} {t : SubscriptionTable N P}
  {Q : SubscriptionTable N P → TableOp η ν → Prop}

/-- A call that leaves the dirty set alone switches nothing, and one that clears it neither. -/
lemma not_switches (h : (op.onSub s).dirty = s.dirty ∨ (op.onSub s).dirty = s.dirty.clear) :
    ¬ op.Switches s := by
  rintro ⟨hbefore, hafter⟩
  rcases h with h | h
  · rw [h, hbefore] at hafter
    cases hafter
  · rw [h] at hafter
    cases hafter

/-- A call that adds nothing to the dirty set strands nothing. -/
lemma not_strands (hop : op ≠ .reprimeAll) (h : op.newlyDirty s = []) : ¬ op.Strands s := by
  rintro ⟨-, -, hall | hover⟩
  · exact hop hall
  · have hroom := s.dirty.paths.length_le
    rw [h, List.toFinset_nil, Finset.empty_sdiff, Finset.card_empty] at hover
    omega

/-- A call switches a subscription without starting its series over exactly when it strands it. -/
lemma switches_iff (op : TableOp η ν) (s : Subscription P) :
    op.Switches s ∧ (op.onSub s).cursor ≠ .start ↔ op.Strands s := by
  have hnone : (op.Switches s → (op.onSub s).cursor = .start) → ¬ op.Strands s →
      (op.Switches s ∧ (op.onSub s).cursor ≠ .start ↔ op.Strands s) := by
    intro hswitch hstrand
    constructor
    · rintro ⟨h, hcursor⟩
      exact absurd (hswitch h) hcursor
    · intro h
      exact absurd h hstrand
  have hover := fun h => DirtySet.overflowed_foldl_insert (d := s.dirty) h
  cases op with
  | subscribe config request now =>
    exact hnone (fun h => absurd h (not_switches (.inl rfl))) (not_strands nofun rfl)
  | noteChange path =>
    by_cases hcovers : s.covers path = true
    · unfold Switches Strands
      simp only [onSub, newlyDirty, Subscription.noteChange, if_pos hcovers, reduceCtorEq,
        false_or, and_assoc]
      refine and_congr_right fun hdirty => ?_
      rw [and_comm]
      exact and_congr_right fun _ => hover hdirty [path]
    · have hkept : s.noteChange path = s := if_neg hcovers
      exact hnone (fun h => absurd h (not_switches (.inl (congrArg _ hkept))))
        (not_strands nofun (if_neg hcovers))
  | noteClusterChange endpoint cluster =>
    unfold Switches Strands
    simp only [onSub, newlyDirty, Subscription.noteClusterChange, reduceCtorEq, false_or, and_assoc]
    refine and_congr_right fun hdirty => ?_
    rw [and_comm]
    exact and_congr_right fun _ => hover hdirty _
  | reprimeAll =>
    unfold Switches Strands
    simp only [onSub, DirtySet.reprime, DirtySet.mustReprime, true_or, and_true]
  | reprime id =>
    apply hnone _ (not_strands nofun rfl)
    intro h
    by_cases hid : s.id = id
    · simp only [onSub, if_pos hid]
      rfl
    · exact absurd h (not_switches (.inl (by simp only [onSub, if_neg hid])))
  | reportChunk id srv h v reason ctx scratch buf =>
    apply hnone _ (not_strands nofun rfl)
    intro hswitch
    refine absurd hswitch (not_switches (.inl ?_))
    by_cases hid : s.id = id
    · simp only [onSub, if_pos hid, reportChunk_dirty]
    · simp only [onSub, if_neg hid]
  | reported id now =>
    apply hnone _ (not_strands nofun rfl)
    intro hswitch
    refine absurd hswitch (not_switches ?_)
    by_cases hid : s.id = id
    · exact .inr (by simp only [onSub, if_pos hid, Subscription.reported])
    · exact .inl (by simp only [onSub, if_neg hid])

/-- A subscription that a call strands is there after the call. -/
lemma onSub_mem_step (hmem : s ∈ t.subscriptions.toList) (h : op.Strands s) :
    op.onSub s ∈ (op.step t).subscriptions.toList := by
  cases op with
  | noteChange path | noteClusterChange endpoint cluster | reprimeAll => exact List.mem_map_of_mem hmem
  | subscribe config request now | reprime id | reportChunk id srv h' v reason ctx scratch buf
  | reported id now => exact absurd h (not_strands nofun rfl)

/-- A call starts the series of every subscription it switches over exactly when it strands none. -/
lemma restarts_iff (op : TableOp η ν) (t : SubscriptionTable N P) :
    op.Restarts t ↔ ∀ s ∈ t.subscriptions.toList, ¬ op.Strands s := by
  constructor
  · intro h s hmem hstrand
    obtain ⟨hswitch, hcursor⟩ := (op.switches_iff s).mpr hstrand
    exact hcursor (h s hmem hswitch (onSub_mem_step hmem hstrand))
  · intro h s hmem hswitch _
    by_contra hcursor
    exact h s hmem ((op.switches_iff s).mp ⟨hswitch, hcursor⟩)

/-! ## Runs -/

/-- Every call of a run has a property of the table it is made on. -/
def Throughout (Q : SubscriptionTable N P → TableOp η ν → Prop) :
    SubscriptionTable N P → List (TableOp η ν) → Prop
  | _, [] => True
  | t, op :: ops => Q t op ∧ Throughout Q (op.step t) ops

lemma throughout_congr {Q R : SubscriptionTable N P → TableOp η ν → Prop}
    (h : ∀ t op, Q t op ↔ R t op) (t : SubscriptionTable N P) (ops : List (TableOp η ν)) :
    Throughout Q t ops ↔ Throughout R t ops := by
  induction ops generalizing t with
  | nil => rfl
  | cons op ops ih =>
    unfold Throughout
    rw [h t op, ih (op.step t)]

/-- In a run of calls on a new table, the cursor of a subscription is at the start whenever its report
source becomes its full path list, exactly when no call of the run finds a series under way and
overflows its dirty set or is `reprimeAll`. -/
theorem run_restarts_iff (ops : List (TableOp η ν)) :
    Throughout (fun (t : SubscriptionTable N P) op => op.Restarts t) .new ops ↔
      Throughout (fun (t : SubscriptionTable N P) op => ∀ s ∈ t.subscriptions.toList,
        ¬ op.Strands s) .new ops :=
  throughout_congr (fun t op => op.restarts_iff t) .new ops

lemma throughout_append {ops : List (TableOp η ν)} (h : Throughout Q t (ops ++ [op])) :
    Q (ops.foldl step t) op := by
  induction ops generalizing t with
  | nil => exact h.1
  | cons first ops ih => exact ih h.2

/-- A subscription to the two attributes of a lamp, a change of both, and one message of the report,
which has room for one of them. -/
def halfReported : List (TableOp Lamp (DataVersions 4)) :=
  [.subscribe ⟨5, 3⟩ ⟨none, some ⟨1⟩, none, false, true, 0, 10, [.ofIds 1 6 0, .ofIds 1 6 1], [], 0⟩
      ⟨0⟩,
    .noteChange (.ofIds 1 6 0),
    .noteChange (.ofIds 1 6 1),
    .reportChunk 1 (Lamp.server 1) {} (.new 0) .data {} (Lamp.room 64 Lamp.room_64)
      (Lamp.room 128 Lamp.room_128)]

/-- Re-priming the whole table in the middle of a report leaves the cursor where it was. -/
theorem reprimeAll_strands_half_reported :
    ¬ Throughout (fun (t : SubscriptionTable 15 3) op => op.Restarts t) .new
      (halfReported ++ [.reprimeAll]) := by
  intro h
  have hlast := throughout_append h
  have hunder : (halfReported.foldl step (SubscriptionTable.new : SubscriptionTable 15 3)
      ).subscriptions.toList.any
        (fun s => !s.dirty.mustReprime && decide (s.cursor ≠ .start)) = true := by
    decide +kernel
  obtain ⟨s, hmem, hs⟩ := List.any_eq_true.mp hunder
  simp only [Bool.and_eq_true, Bool.not_eq_true', decide_eq_true_eq] at hs
  exact hs.2 (hlast s hmem ⟨hs.1, rfl⟩ (List.mem_map_of_mem hmem))

end TableOp

end MatterKit.Im
