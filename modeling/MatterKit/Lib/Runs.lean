import Mathlib.Tactic

/-!
# Runs of a step function

A run is a list of operations, taken one after the other from a state by a step function. A condition
on single steps holds `Throughout` a run if each of its steps meets it where it is taken, and what
every such step preserves holds at the end of the run (`Throughout.invariant`).
-/

namespace MatterKit.Lib

variable {σ ο : Type}

/-- Every step of a run meets a condition in the state it is taken from. -/
def Throughout (step : σ → ο → σ) (Q : σ → ο → Prop) : σ → List ο → Prop
  | _, [] => True
  | s, op :: ops => Q s op ∧ Throughout step Q (step s op) ops

instance Throughout.instDecidable (step : σ → ο → σ) (Q : σ → ο → Prop)
    [∀ s op, Decidable (Q s op)] : ∀ s ops, Decidable (Throughout step Q s ops)
  | _, [] => .isTrue trivial
  | s, op :: ops =>
    have := instDecidable step Q (step s op) ops
    inferInstanceAs (Decidable (_ ∧ _))

/-- What every step with an allowed operation preserves, a run of allowed operations preserves. -/
lemma foldl_invariant {step : σ → ο → σ} {W : ο → Prop} {I : σ → Prop}
    (hstep : ∀ s op, W op → I s → I (step s op)) {s : σ} {ops : List ο} (hops : ∀ op ∈ ops, W op)
    (hs : I s) : I (ops.foldl step s) := by
  induction ops generalizing s with
  | nil => exact hs
  | cons op ops ih =>
    exact ih (fun op' hop' => hops op' (List.mem_cons_of_mem _ hop'))
      (hstep s op (hops op List.mem_cons_self) hs)

namespace Throughout

variable {step : σ → ο → σ} {Q : σ → ο → Prop}

variable {I : σ → Prop} {s : σ} {ops : List ο} {R : σ → ο → Prop} {W : ο → Prop}

/-- What every step that meets the condition preserves, the run preserves. -/
lemma invariant (hstep : ∀ s op, I s → Q s op → I (step s op)) (hs : I s)
    (hrun : Throughout step Q s ops) : I (ops.foldl step s) := by
  induction ops generalizing s with
  | nil => exact hs
  | cons op ops ih => exact ih (hstep s op hs hrun.1) hrun.2

/-- A condition that follows from another wherever a run can get to holds throughout the same runs. -/
lemma mono (h : ∀ s op, I s → Q s op → R s op) (hstep : ∀ s op, I s → Q s op → I (step s op))
    (hs : I s) (hrun : Throughout step Q s ops) : Throughout step R s ops := by
  induction ops generalizing s with
  | nil => exact trivial
  | cons op ops ih => exact ⟨h s op hs hrun.1, ih (hstep s op hs hrun.1) hrun.2⟩

/-- A run that is one step longer. -/
lemma append_singleton_iff {op : ο} :
    Throughout step Q s (ops ++ [op]) ↔ Throughout step Q s ops ∧ Q (ops.foldl step s) op := by
  induction ops generalizing s with
  | nil => exact ⟨fun h => ⟨trivial, h.1⟩, fun h => ⟨h.2, trivial⟩⟩
  | cons first ops ih =>
    rw [List.cons_append]
    exact (and_congr_right fun _ => ih).trans and_assoc.symm

/-- A run that goes on from where another ends. -/
lemma append_iff {ops rest : List ο} : Throughout step Q s (ops ++ rest) ↔
      Throughout step Q s ops ∧ Throughout step Q (ops.foldl step s) rest := by
  induction ops generalizing s with
  | nil => exact (iff_of_eq (true_and _)).symm
  | cons first ops ih =>
    rw [List.cons_append]
    exact (and_congr_right fun _ => ih).trans and_assoc.symm

/-- A condition that holds throughout a run holds of each of its steps. -/
lemma iff_forall_step : Throughout step Q s ops ↔
      ∀ before op, before ++ [op] <+: ops → Q (before.foldl step s) op := by
  induction ops generalizing s with
  | nil => exact iff_of_true trivial fun before op h => absurd (List.prefix_nil.mp h) (by simp)
  | cons first ops ih =>
    constructor
    · rintro ⟨hfirst, hrun⟩ before op hbefore
      rcases before with _ | ⟨op', before⟩
      · obtain ⟨rfl, -⟩ := List.cons_prefix_cons.mp hbefore
        exact hfirst
      · obtain ⟨rfl, htail⟩ := List.cons_prefix_cons.mp hbefore
        exact ih.mp hrun before op htail
    · intro h
      refine ⟨h [] first (by simp), ih.mpr fun before op hbefore => ?_⟩
      exact h (first :: before) op (List.cons_prefix_cons.mpr ⟨rfl, hbefore⟩)

/-- A condition on the operations alone, beside one on the steps. -/
lemma and_of_forall (hrun : Throughout step Q s ops) (hops : ∀ op ∈ ops, W op) :
    Throughout step (fun s op => W op ∧ Q s op) s ops := by
  induction ops generalizing s with
  | nil => exact trivial
  | cons op ops ih =>
    obtain ⟨hop, hrest⟩ := List.forall_mem_cons.mp hops
    exact ⟨⟨hop, hrun.1⟩, ih hrun.2 hrest⟩

/-- Where the condition on a step says exactly that a property holds after it, it holds throughout a run
exactly when the property holds in every state of the run. The invariant is what makes it say so, and is
kept by the steps that meet the condition. -/
lemma iff_forall_isPrefix_of {P I : σ → Prop} (hs : I s) (hP : ∀ s, I s → P s)
    (hstep : ∀ s op, I s → Q s op → I (step s op)) (hiff : ∀ s op, I s → (Q s op ↔ P (step s op))) :
    Throughout step Q s ops ↔ ∀ before, before <+: ops → P (before.foldl step s) := by
  induction ops generalizing s with
  | nil =>
    refine iff_of_true trivial ?_
    intro before hbefore
    rw [List.prefix_nil.mp hbefore]
    exact hP s hs
  | cons op ops ih =>
    constructor
    · rintro ⟨hop, hrun⟩ before hbefore
      rcases before with _ | ⟨first, before⟩
      · exact hP s hs
      · obtain ⟨rfl, htail⟩ := List.cons_prefix_cons.mp hbefore
        exact (ih (hstep s first hs hop)).mp hrun before htail
    · intro h
      have hop : Q s op := (hiff s op hs).mpr (h [op] (by simp))
      refine ⟨hop, (ih (hstep s op hs hop)).mpr ?_⟩
      intro before hbefore
      exact h (op :: before) (List.cons_prefix_cons.mpr ⟨rfl, hbefore⟩)

/-- Where the condition on a step says exactly that the step keeps a property, it holds throughout a
run exactly when the property holds in every state of the run. -/
lemma iff_forall_isPrefix (hs : I s) (hstep : ∀ s op, I s → (Q s op ↔ I (step s op))) :
    Throughout step Q s ops ↔ ∀ before, before <+: ops → I (before.foldl step s) :=
  iff_forall_isPrefix_of hs (fun _ h => h) (fun s op h => (hstep s op h).mp) hstep

/-- Conditions that agree wherever a run can get to hold throughout the same runs. -/
lemma congr (h : ∀ s op, I s → (Q s op ↔ R s op)) (hstep : ∀ s op, I s → I (step s op)) (hs : I s) :
    Throughout step Q s ops ↔ Throughout step R s ops := by
  induction ops generalizing s with
  | nil => exact Iff.rfl
  | cons op ops ih => exact and_congr (h s op hs) (ih (hstep s op hs))

/-- Conditions that agree wherever a run of allowed operations that meets them can get to hold
throughout the same runs. -/
lemma congr_of_allowed (h : ∀ s op, W op → I s → (Q s op ↔ R s op))
    (hstep : ∀ s op, W op → I s → Q s op → I (step s op)) (hs : I s) (hops : ∀ op ∈ ops, W op) :
    Throughout step Q s ops ↔ Throughout step R s ops := by
  induction ops generalizing s with
  | nil => exact Iff.rfl
  | cons op ops ih =>
    obtain ⟨hop, hrest⟩ := List.forall_mem_cons.mp hops
    rw [Throughout, Throughout, ← h s op hop hs]
    apply and_congr_right
    intro hq
    exact ih (hstep s op hop hs hq) hrest

end Throughout

end MatterKit.Lib
