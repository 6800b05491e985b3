import MatterKit.Lib.Result

/-!
# Fallible computations on a state

`Machine σ ε α` is a computation that reads and writes a state `σ` and returns an `α` or fails with an
`ε`; the state it leaves is there in both cases. Running one is `exec`, and the rules below are how a
run is taken apart.

Four judgements carry what holds of whole computations: `Moves R`, along which relation every run,
failed ones too, takes the state, `Ensures P Q`, what a successful run ends with, `Throws P`, which
errors a run can fail with, and `Blind R`, that two runs from related states cannot be told apart.
-/

namespace MatterKit.Lib

variable {σ ε α β : Type}

/-- A fallible computation on a state. -/
abbrev Machine (σ ε α : Type) := ExceptT ε (StateM σ) α

namespace Machine

/-- Runs a computation. -/
def exec (x : Machine σ ε α) (s : σ) : Except ε α × σ := StateT.run (ExceptT.run x) s

/-- Fails with `e` unless `p` holds. -/
def require (p : Prop) [Decidable p] (e : ε) : Machine σ ε Unit :=
  if p then pure () else throw e

/-- A computation that does not look at the state. -/
def ofResult (x : Except ε α) : Machine σ ε α := ExceptT.mk (pure x)

@[simp] lemma exec_pure (a : α) (s : σ) : exec (pure a : Machine σ ε α) s = (.ok a, s) := rfl

@[simp] lemma exec_throw (e : ε) (s : σ) : exec (throw e : Machine σ ε α) s = (.error e, s) := rfl

@[simp] lemma exec_get (s : σ) : exec (get : Machine σ ε σ) s = (.ok s, s) := rfl

@[simp] lemma exec_modify (f : σ → σ) (s : σ) : exec (modify f : Machine σ ε PUnit) s = (.ok (), f s) := rfl

@[simp] lemma exec_set (s s' : σ) : exec (set s' : Machine σ ε PUnit) s = (.ok (), s') := rfl

@[simp] lemma exec_ofResult (x : Except ε α) (s : σ) : exec (ofResult x : Machine σ ε α) s = (x, s) := rfl

variable {p : Prop} {x : Machine σ ε α}

lemma exec_require_of [Decidable p] (h : p) (e : ε) (s : σ) : exec (require p e) s = (.ok (), s) := by
  unfold require
  rw [if_pos h]
  rfl

lemma exec_require_eq_ok [Decidable p] {e : ε} {s s' : σ} {u : Unit} :
    exec (require p e) s = (.ok u, s') ↔ p ∧ s' = s := by
  unfold require
  split
  · rename_i h
    simp [h, eq_comm]
  · rename_i h
    simp [h]

/-- A sequence runs its second part where its first part has led. -/
lemma exec_bind (x : Machine σ ε α) (f : α → Machine σ ε β) (s : σ) : exec (x >>= f) s =
      match exec x s with
      | (.ok a, s') => exec (f a) s'
      | (.error e, s') => (.error e, s') := by
  show StateT.run (ExceptT.run (x >>= f)) s = _
  unfold exec
  rw [ExceptT.run_bind, StateT.run_bind]
  rcases h : StateT.run (ExceptT.run x) s with ⟨a | a, s'⟩
  · rfl
  · rfl

lemma exec_bind_ok {s s' : σ} {a : α} (h : exec x s = (.ok a, s')) (f : α → Machine σ ε β) :
    exec (x >>= f) s = exec (f a) s' := by
  rw [exec_bind, h]

lemma exec_bind_error {s s' : σ} {e : ε} (h : exec x s = (.error e, s')) (f : α → Machine σ ε β)
    : exec (x >>= f) s = (.error e, s') := by
  rw [exec_bind, h]

/-- A sequence that starts with a step that cannot fail goes on from where that leads. -/
lemma exec_get_bind (f : σ → Machine σ ε β) (s : σ) : exec (get >>= f) s = exec (f s) s := rfl

lemma exec_modify_bind (g : σ → σ) (f : PUnit → Machine σ ε β) (s : σ) :
    exec (modify g >>= f) s = exec (f ()) (g s) := rfl

lemma exec_set_bind (f : PUnit → Machine σ ε β) (s s' : σ) : exec (set s' >>= f) s = exec (f ()) s' := rfl

lemma exec_require_bind [Decidable p] (h : p) {e : ε} (f : Unit → Machine σ ε β) (s : σ) :
    exec (require p e >>= f) s = exec (f ()) s := exec_bind_ok (exec_require_of h e s) f

/-- A sequence succeeds exactly when its parts do, one after the other. -/
lemma exec_bind_eq_ok {f : α → Machine σ ε β} {s s'' : σ} {b : β} : exec (x >>= f) s = (.ok b, s'') ↔
      ∃ a s', exec x s = (.ok a, s') ∧ exec (f a) s' = (.ok b, s'') := by
  rw [exec_bind]
  rcases exec x s with ⟨e | a, s'⟩
  · simp
  · simp

/-- A sequence that starts with a check succeeds exactly when the check passes and the rest does. -/
lemma exec_require_bind_eq_ok [Decidable p] {e : ε} {f : Unit → Machine σ ε β} {s s' : σ}
    {b : β} : exec (require p e >>= f) s = (.ok b, s') ↔ p ∧ exec (f ()) s = (.ok b, s') := by
  rw [exec_bind_eq_ok]
  constructor
  · rintro ⟨_, _, hcheck, hrest⟩
    obtain ⟨hp, rfl⟩ := exec_require_eq_ok.mp hcheck
    exact ⟨hp, hrest⟩
  · rintro ⟨hp, hrest⟩
    exact ⟨(), s, exec_require_of hp e s, hrest⟩

/-! ## What every run does to the state -/

/-- Every run of a computation, failed ones too, moves the state along a relation. -/
def Moves (R : σ → σ → Prop) (x : Machine σ ε α) : Prop := ∀ s, R s (exec x s).2

namespace Moves

variable {R : σ → σ → Prop}

lemma pure [Std.Refl R] (a : α) : Moves R (Pure.pure a : Machine σ ε α) := fun s => Std.Refl.refl s

lemma throw [Std.Refl R] (e : ε) : Moves R (MonadExcept.throw e : Machine σ ε α) :=
  fun s => Std.Refl.refl s

lemma ofResult [Std.Refl R] (x : Except ε α) : Moves R (Machine.ofResult x : Machine σ ε α) :=
  fun s => Std.Refl.refl s

lemma require [Std.Refl R] (p : Prop) [Decidable p] (e : ε) :
    Moves R (Machine.require p e : Machine σ ε Unit) := by
  unfold Machine.require
  split_ifs
  · exact fun s => Std.Refl.refl s
  · exact fun s => Std.Refl.refl s

lemma modify {f : σ → σ} (h : ∀ s, R s (f s)) : Moves R (modify f : Machine σ ε PUnit) := h

variable {x : Machine σ ε α} {f : α → Machine σ ε β}

lemma bind [IsTrans σ R] (hx : Moves R x) (hf : ∀ a, Moves R (f a)) : Moves R (x >>= f) := by
  intro s
  have hfirst := hx s
  rw [exec_bind]
  rcases h : exec x s with ⟨e | a, s'⟩
  · rw [h] at hfirst
    exact hfirst
  · rw [h] at hfirst
    exact IsTrans.trans _ _ _ hfirst (hf a s')

lemma mono {R' : σ → σ → Prop} (h : ∀ s s', R s s' → R' s s') (hx : Moves R x) :
    Moves R' x := fun s => h _ _ (hx s)

lemma ofResult_bind [Std.Refl R] {x : Except ε α} (hf : ∀ a, x = .ok a → Moves R (f a)) :
    Moves R (Machine.ofResult x >>= f) := by
  cases x with
  | error e => exact fun s => Std.Refl.refl s
  | ok a => exact hf a rfl

/-- A computation that starts by looking at the state moves as what it goes on with there. -/
lemma get {f : σ → Machine σ ε β} (hf : ∀ s, R s (exec (f s) s).2) : Moves R (MonadState.get >>= f) := by
  intro s
  rw [exec_get_bind]
  exact hf s

end Moves

/-! ## What a successful run ends with -/

/-- Every successful run from a state with `P` ends with `Q` of its result and its state. -/
def Ensures (P : σ → Prop) (x : Machine σ ε α) (Q : α → σ → Prop) : Prop :=
  ∀ s, P s → ∀ a s', exec x s = (.ok a, s') → Q a s'

namespace Ensures

variable {P : σ → Prop} {Q : α → σ → Prop} {Q' : β → σ → Prop}

lemma pure {a : α} (h : ∀ s, P s → Q a s) : Ensures P (Pure.pure a : Machine σ ε α) Q := by
  intro s hs _ _ hrun
  cases hrun
  exact h s hs

lemma throw (e : ε) : Ensures P (MonadExcept.throw e : Machine σ ε α) Q := by
  intro _ _ _ _ hrun
  cases hrun

lemma modify {f : σ → σ} {Q : PUnit → σ → Prop} (h : ∀ s, P s → Q () (f s)) :
    Ensures P (modify f : Machine σ ε PUnit) Q := by
  intro s hs _ _ hrun
  cases hrun
  exact h s hs

variable {x : Machine σ ε α} {f : α → Machine σ ε β}

lemma bind (hx : Ensures P x Q) (hf : ∀ a, Ensures (Q a) (f a) Q') : Ensures P (x >>= f) Q' := by
  intro s hs b s'' hrun
  obtain ⟨a, s', hfirst, hsecond⟩ := exec_bind_eq_ok.mp hrun
  exact hf a s' (hx s hs a s' hfirst) b s'' hsecond

/-- What comes after a computation decides, whatever that ends with. -/
lemma of_rest (hf : ∀ a, Ensures (fun _ => True) (f a) Q') : Ensures P (x >>= f) Q' :=
  bind (Q := fun _ _ => True) (fun _ _ _ _ _ => trivial) hf

lemma ofResult_bind {x : Except ε α} (hf : ∀ a, x = .ok a → Ensures P (f a) Q') :
    Ensures P (Machine.ofResult x >>= f) Q' := by
  cases x with
  | error e => exact fun _ _ _ _ hrun => nomatch (Prod.mk.inj hrun).1
  | ok a => exact hf a rfl

/-- A computation that starts by looking at the state ends as what it goes on with there. -/
lemma get {f : σ → Machine σ ε β} (hf : ∀ s, Ensures (fun s' => s' = s ∧ P s') (f s) Q') :
    Ensures P (MonadState.get >>= f) Q' := by
  intro s hs b s' hrun
  rw [exec_get_bind] at hrun
  exact hf s s ⟨rfl, hs⟩ b s' hrun

lemma weaken {P' : σ → Prop} {Q' : α → σ → Prop} (hx : Ensures P x Q) (hpre : ∀ s, P' s → P s)
    (hpost : ∀ a s, Q a s → Q' a s) : Ensures P' x Q' :=
  fun s hs a s' hrun => hpost a s' (hx s (hpre s hs) a s' hrun)

end Ensures

/-! ## What a failing run ends with -/

/-- Every error a run can fail with satisfies `P`. -/
def Throws (P : ε → Prop) (x : Machine σ ε α) : Prop := ∀ s, Raises P (exec x s).1

namespace Throws

variable {P : ε → Prop}

lemma pure (a : α) : Throws P (Pure.pure a : Machine σ ε α) := fun _ => .ok a

lemma throw {e : ε} (h : P e) : Throws P (MonadExcept.throw e : Machine σ ε α) :=
  fun _ _ he => Except.error.inj he ▸ h

lemma ofResult {x : Except ε α} (h : Raises P x) : Throws P (Machine.ofResult x : Machine σ ε α) :=
  fun _ => h

lemma require {p : Prop} [Decidable p] {e : ε} (h : P e) :
    Throws P (Machine.require p e : Machine σ ε Unit) := by
  unfold Machine.require
  split_ifs
  · exact pure ()
  · exact throw h

lemma get : Throws P (MonadState.get : Machine σ ε σ) := fun s => .ok s

lemma modify (f : σ → σ) : Throws P (modify f : Machine σ ε PUnit) := fun _ => .ok _

lemma bind {x : Machine σ ε α} {f : α → Machine σ ε β} (hx : Throws P x) (hf : ∀ a, Throws P (f a)) :
    Throws P (x >>= f) := by
  intro s
  have hfirst := hx s
  rw [exec_bind]
  rcases h : exec x s with ⟨e | a, s'⟩
  · rw [h] at hfirst
    exact fun e' he => hfirst e' (Except.error.inj he ▸ rfl)
  · exact hf a s'

/-- What comes after a result is only run on a result that there is. -/
lemma ofResult_bind {x : Except ε α} {f : α → Machine σ ε β} (hx : Raises P x)
    (hf : ∀ a, x = .ok a → Throws P (f a)) : Throws P (Machine.ofResult x >>= f) := by
  cases x with
  | error e => exact fun _ e' he => hx e' (Except.error.inj he ▸ rfl)
  | ok a => exact hf a rfl

end Throws

/-! ## Two runs side by side -/

/-- Where `R` relates two states, a computation returns the same from both and leads to related
states: it is blind to what `R` leaves open. -/
def Blind (R : σ → σ → Prop) (x : Machine σ ε α) : Prop :=
  ∀ s s', R s s' → (exec x s).1 = (exec x s').1 ∧ R (exec x s).2 (exec x s').2

namespace Blind

variable {R : σ → σ → Prop}

lemma pure (a : α) : Blind R (Pure.pure a : Machine σ ε α) := fun _ _ h => ⟨rfl, h⟩

lemma throw (e : ε) : Blind R (MonadExcept.throw e : Machine σ ε α) := fun _ _ h => ⟨rfl, h⟩

lemma ofResult (x : Except ε α) : Blind R (Machine.ofResult x : Machine σ ε α) :=
  fun _ _ h => ⟨rfl, h⟩

lemma require (p : Prop) [Decidable p] (e : ε) : Blind R (Machine.require p e : Machine σ ε Unit) := by
  unfold Machine.require
  split_ifs
  · exact pure ()
  · exact throw e

lemma modify {f : σ → σ} (h : ∀ s s', R s s' → R (f s) (f s')) :
    Blind R (modify f : Machine σ ε PUnit) := fun s s' hs => ⟨rfl, h s s' hs⟩

lemma bind {x : Machine σ ε α} {f : α → Machine σ ε β} (hx : Blind R x)
    (hf : ∀ a, Blind R (f a)) : Blind R (x >>= f) := by
  intro s s' h
  obtain ⟨hresult, hstates⟩ := hx s s' h
  rw [exec_bind, exec_bind]
  rcases hs : exec x s with ⟨r, t⟩
  rcases hs' : exec x s' with ⟨r', t'⟩
  rw [hs, hs'] at hresult hstates
  obtain rfl : r = r' := hresult
  cases r with
  | error e => exact ⟨rfl, hstates⟩
  | ok a => exact hf a t t' hstates

/-- A computation that starts by looking at the state is blind when it goes on alike from related
states. -/
lemma get {f : σ → Machine σ ε β} (hf : ∀ s, Blind R (f s))
    (hsame : ∀ s s', R s s' → f s = f s') : Blind R (MonadState.get >>= f) := by
  intro s s' h
  rw [exec_get_bind, exec_get_bind, ← hsame s s' h]
  exact hf s s s' h

end Blind

end Machine

end MatterKit.Lib
