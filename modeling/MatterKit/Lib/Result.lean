import Mathlib.Tactic

/-!
# Fallible computations

The three facts about `Except` that reasoning about a decoder needs: a sequence succeeds exactly
when both halves do (`bind_eq_ok`), a success or a failure of the first half decides what is
left (`ok_bind`, `error_bind`), and a check that either passes or raises a given error (`ensure`).
`Raises P` is what is known about the errors of a computation, taken apart in the same way.
-/

namespace MatterKit.Lib

variable {ε α β : Type}

/-- Raises `e` unless `p` holds. -/
def ensure (p : Prop) [Decidable p] (e : ε) : Except ε Unit := if p then .ok () else .error e

/-- The value of an `Option`, or the error `e`. -/
def okOr (o : Option α) (e : ε) : Except ε α :=
  match o with
  | some a => .ok a
  | none => .error e

@[simp] lemma ok_bind (a : α) (f : α → Except ε β) : (Except.ok a >>= f) = f a := rfl

@[simp] lemma error_bind (e : ε) (f : α → Except ε β) :
    ((Except.error e : Except ε α) >>= f) = .error e := rfl

@[simp] lemma pure_eq_ok (a : α) : (pure a : Except ε α) = .ok a := rfl

lemma bind_eq_ok {x : Except ε α} {f : α → Except ε β} {b : β} :
    (x >>= f) = .ok b ↔ ∃ a, x = .ok a ∧ f a = .ok b := by
  cases x with
  | error e => simp
  | ok a => simp

/-- What is behind a pair that a computation ends with. -/
lemma bind_pair_eq_ok {γ : Type} {x : Except ε α} {f : α → β} {g : α → γ} {b : β} {c : γ}
    (h : (x >>= fun a => pure (f a, g a)) = .ok (b, c)) : ∃ a, x = .ok a ∧ f a = b := by
  obtain ⟨a, hx, hpair⟩ := bind_eq_ok.mp h
  exact ⟨a, hx, (Prod.mk.inj (Except.ok.inj hpair)).1⟩

/-- A computation has one result. -/
lemma ok_pair_inj {x : Except ε (α × β)} {a a' : α} {b b' : β} (h : x = .ok (a, b))
    (h' : x = .ok (a', b')) : a = a' ∧ b = b' := by
  rw [h] at h'
  simpa using h'

@[simp] lemma ensure_eq_ok {p : Prop} [Decidable p] {e : ε} {u : Unit} : ensure p e = .ok u ↔ p := by
  unfold ensure
  split <;> simp_all

@[simp] lemma ensure_of {p : Prop} [Decidable p] (h : p) (e : ε) : ensure p e = .ok () :=
  if_pos h

@[simp] lemma okOr_some (a : α) (e : ε) : okOr (some a) e = .ok a := rfl

@[simp] lemma okOr_none (e : ε) : okOr (none : Option α) e = .error e := rfl

@[simp] lemma okOr_eq_ok {o : Option α} {e : ε} {a : α} : okOr o e = .ok a ↔ o = some a := by
  cases o <;> simp [okOr]

lemma mapError_eq_ok {ε' : Type} {x : Except ε α} {f : ε → ε'} {a : α} :
    x.mapError f = .ok a ↔ x = .ok a := by
  cases x with
  | error e => simp [Except.mapError]
  | ok b => simp [Except.mapError]

lemma exists_of_isOk {x : Except ε α} (h : x.isOk = true) : ∃ a, x = .ok a := by
  cases x with
  | error e => cases h
  | ok a => exact ⟨a, rfl⟩

/-! ## Errors -/

/-- Every error of a computation satisfies `P`. -/
def Raises (P : ε → Prop) (x : Except ε α) : Prop := ∀ e, x = .error e → P e

namespace Raises

variable {P : ε → Prop}

lemma ok (a : α) : Raises P (.ok a : Except ε α) := fun _ h => nomatch h

variable {x : Except ε α} {f : α → Except ε β}

lemma bind (hx : Raises P x) (hf : ∀ a, Raises P (f a)) : Raises P (x >>= f) := by
  intro e h
  cases x with
  | error e' => exact hx e (Except.error.inj h ▸ rfl)
  | ok a => exact hf a e h

/-- What comes after a result is only run on a result that there is. -/
lemma bind_of (hx : Raises P x) (hf : ∀ a, x = .ok a → Raises P (f a)) : Raises P (x >>= f) := by
  intro e h
  cases x with
  | error e' => exact hx e (Except.error.inj h ▸ rfl)
  | ok a => exact hf a rfl e h

/-- A computation that succeeds raises nothing. -/
lemma of_ok {a : α} (h : x = .ok a) : Raises P x := h ▸ ok a

lemma ensure {p : Prop} [Decidable p] {e : ε} (h : P e) : Raises P (Lib.ensure p e) := by
  intro e' he
  unfold Lib.ensure at he
  split_ifs at he with hp
  exact Except.error.inj he ▸ h

lemma okOr {o : Option α} {e : ε} (h : P e) : Raises P (Lib.okOr o e) := by
  intro e' he
  cases o with
  | none => exact Except.error.inj he ▸ h
  | some a => cases he

lemma mapError {ε' : Type} {x : Except ε' α} {f : ε' → ε} (h : Raises (fun e => P (f e)) x) :
    Raises P (x.mapError f) := by
  intro e he
  cases x with
  | error e' => exact Except.error.inj he ▸ h e' rfl
  | ok a => cases he

end Raises

end MatterKit.Lib
