import MatterKit.Dm.Meta

/-!
# Conformance

`dm/conformance.rs`: whether the specification says that an element must, may or must not be there. A rule is a
chain of clauses, each with a condition, and the first clause whose condition holds decides (`Conform.verdict`).

A condition is evaluated in three values, because a device may not be able to answer a named condition. What is
evaluated to true or false stays so when more is answered (`Condition.eval_le`), and where everything is answered
the value is the one of two-valued logic (`Condition.eval_eq_holds`).
-/

namespace MatterKit.Dm

/-! ## Rules -/

/-- Source: `Conformance`. -/
inductive Conformance
  | mandatory
  | optional
  | provisional
  | deprecated
  | disallowed
  | described
  deriving DecidableEq

/-- Source: `Condition`. -/
inductive Condition
  | always
  | feature (bit : UInt8)
  | attribute (id : AttributeId)
  | command (id : CommandId)
  | event (id : EventId)
  | cluster (id : ClusterId)
  | named (name : String)
  | not (inner : Condition)
  | all (terms : List Condition)
  | any (terms : List Condition)
  | exactlyOne (terms : List Condition)

/-- Source: `Clause`. -/
structure Clause where
  verdict : Conformance
  when : Condition

/-- Source: `Conform`. -/
structure Conform where
  clauses : List Clause

/-- What a device says it supports; a named condition it cannot answer is `none`.
Source: `Supports`. -/
structure Supports where
  featureMap : UInt32
  hasAttribute : AttributeId → Bool
  hasCommand : CommandId → Bool
  hasEvent : EventId → Bool
  hasCluster : ClusterId → Bool
  named : String → Option Bool

/-! ## Evaluation -/

/-- Source: `Truth`. -/
inductive Truth
  | true
  | false
  | unknown

/-- Source: `Truth::not`. -/
def Truth.not : Truth → Truth
  | .true => .false
  | .false => .true
  | .unknown => .unknown

/-- Source: `Truth::from`. -/
def Truth.ofBool (value : Bool) : Truth := if value then .true else .false

/-- Source: `Condition::eval`, its arm for a feature. -/
def Supports.hasFeature (device : Supports) (bit : UInt8) : Bool :=
  if 32 ≤ bit then false else device.featureMap &&& (1 <<< bit.toUInt32) != 0

namespace Condition

mutual

/-- Source: `Condition::eval`. -/
def eval (device : Supports) : Condition → Truth
  | .always => .true
  | .feature bit => .ofBool (device.hasFeature bit)
  | .attribute id => .ofBool (device.hasAttribute id)
  | .command id => .ofBool (device.hasCommand id)
  | .event id => .ofBool (device.hasEvent id)
  | .cluster id => .ofBool (device.hasCluster id)
  | .named name => (device.named name).elim .unknown .ofBool
  | .not inner => (inner.eval device).not
  | .all terms => evalAll device Bool.false terms
  | .any terms => evalAny device Bool.false terms
  | .exactlyOne terms => evalExactlyOne device 0 terms

/-- Source: `Condition::eval`, the loop over the terms of `All`. -/
def evalAll (device : Supports) (unknown : Bool) : List Condition → Truth
  | [] => if unknown then .unknown else .true
  | term :: terms =>
    match term.eval device with
    | .false => .false
    | .unknown => evalAll device Bool.true terms
    | .true => evalAll device unknown terms

/-- Source: `Condition::eval`, the loop over the terms of `Any`. -/
def evalAny (device : Supports) (unknown : Bool) : List Condition → Truth
  | [] => if unknown then .unknown else .false
  | term :: terms =>
    match term.eval device with
    | .true => .true
    | .unknown => evalAny device Bool.true terms
    | .false => evalAny device unknown terms

/-- Source: `Condition::eval`, the loop over the terms of `ExactlyOne`. -/
def evalExactlyOne (device : Supports) (count : ℕ) : List Condition → Truth
  | [] => .ofBool (count == 1)
  | term :: terms =>
    match term.eval device with
    | .true => evalExactlyOne device (count + 1) terms
    | .unknown => .unknown
    | .false => evalExactlyOne device count terms

end

end Condition

/-- The loop of `Conform::verdict`. -/
def verdictOf (device : Supports) : List Clause → Conformance
  | [] => .disallowed
  | clause :: clauses =>
    match clause.when.eval device with
    | .true => clause.verdict
    | .unknown => .described
    | .false => verdictOf device clauses

/-- Source: `Conform::verdict`. -/
def Conform.verdict (c : Conform) (device : Supports) : Conformance := verdictOf device c.clauses

/-! ## More answers -/

/-- The second value says all that the first one does. -/
def Truth.Le (a b : Truth) : Prop := a = .unknown ∨ a = b

/-- The second device is as the first, and answers every named condition that the first does, and in the same
way. -/
structure Supports.Informs (device device' : Supports) : Prop where
  featureMap_eq : device'.featureMap = device.featureMap
  hasAttribute_eq : device'.hasAttribute = device.hasAttribute
  hasCommand_eq : device'.hasCommand = device.hasCommand
  hasEvent_eq : device'.hasEvent = device.hasEvent
  hasCluster_eq : device'.hasCluster = device.hasCluster
  named_of : ∀ name value, device.named name = some value → device'.named name = some value

namespace Truth.Le

variable {a b : Truth}

lemma refl (a : Truth) : a.Le a := .inr rfl

lemma unknown_left (b : Truth) : Truth.unknown.Le b := .inl rfl

lemma not (h : a.Le b) : a.not.Le b.not := by
  rcases h with rfl | rfl
  · exact unknown_left _
  · exact refl _

end Truth.Le

namespace Condition

variable {device device' : Supports}

/-- A loop that has met an unknown term ends with false or with unknown. -/
lemma evalAll_unknown (terms : List Condition) :
    evalAll device Bool.true terms = .false ∨ evalAll device Bool.true terms = .unknown := by
  induction terms with
  | nil => exact .inr rfl
  | cons term terms ih =>
    rw [evalAll]
    cases term.eval device with
    | true => exact ih
    | false => exact .inl rfl
    | unknown => exact ih

lemma evalAny_unknown (terms : List Condition) :
    evalAny device Bool.true terms = .true ∨ evalAny device Bool.true terms = .unknown := by
  induction terms with
  | nil => exact .inr rfl
  | cons term terms ih =>
    rw [evalAny]
    cases term.eval device with
    | true => exact .inl rfl
    | false => exact ih
    | unknown => exact ih

mutual

/-- More answers change no value that is known. -/
lemma eval_le (h : device.Informs device') : ∀ c : Condition, (c.eval device).Le (c.eval device')
  | .always => .refl _
  | .feature bit => by
    rw [eval, eval, Supports.hasFeature, Supports.hasFeature, h.featureMap_eq]
    exact .refl _
  | .attribute id => by
    rw [eval, eval, h.hasAttribute_eq]
    exact .refl _
  | .command id => by
    rw [eval, eval, h.hasCommand_eq]
    exact .refl _
  | .event id => by
    rw [eval, eval, h.hasEvent_eq]
    exact .refl _
  | .cluster id => by
    rw [eval, eval, h.hasCluster_eq]
    exact .refl _
  | .named name => by
    rw [eval, eval]
    cases hnamed : device.named name with
    | none => exact .unknown_left _
    | some value =>
      rw [h.named_of name value hnamed]
      exact .refl _
  | .not inner => by
    rw [eval, eval]
    exact (eval_le h inner).not
  | .all terms => by
    rw [eval, eval]
    exact evalAll_le h terms id
  | .any terms => by
    rw [eval, eval]
    exact evalAny_le h terms id
  | .exactlyOne terms => by
    rw [eval, eval]
    exact evalExactlyOne_le h terms 0

/-- The second device may have met fewer unknown terms so far. -/
lemma evalAll_le (h : device.Informs device') : ∀ (terms : List Condition) {unknown unknown' : Bool},
    (unknown' = Bool.true → unknown = Bool.true) →
    (evalAll device unknown terms).Le (evalAll device' unknown' terms)
  | [], unknown, unknown', hle => by
    cases unknown with
    | true => exact .unknown_left _
    | false =>
      rw [Bool.eq_false_iff.mpr fun hmet => Bool.false_ne_true (hle hmet)]
      exact .refl _
  | term :: terms, unknown, unknown', hle => by
    rw [evalAll, evalAll]
    rcases eval_le h term with hunknown | hsame
    · rw [hunknown]
      cases term.eval device' with
      | true => exact evalAll_le h terms fun _ => rfl
      | false => exact (evalAll_unknown terms).symm
      | unknown => exact evalAll_le h terms id
    · rw [← hsame]
      cases term.eval device with
      | true => exact evalAll_le h terms hle
      | false => exact .refl _
      | unknown => exact evalAll_le h terms id

lemma evalAny_le (h : device.Informs device') : ∀ (terms : List Condition) {unknown unknown' : Bool},
    (unknown' = Bool.true → unknown = Bool.true) →
    (evalAny device unknown terms).Le (evalAny device' unknown' terms)
  | [], unknown, unknown', hle => by
    cases unknown with
    | true => exact .unknown_left _
    | false =>
      rw [Bool.eq_false_iff.mpr fun hmet => Bool.false_ne_true (hle hmet)]
      exact .refl _
  | term :: terms, unknown, unknown', hle => by
    rw [evalAny, evalAny]
    rcases eval_le h term with hunknown | hsame
    · rw [hunknown]
      cases term.eval device' with
      | true => exact (evalAny_unknown terms).symm
      | false => exact evalAny_le h terms fun _ => rfl
      | unknown => exact evalAny_le h terms id
    · rw [← hsame]
      cases term.eval device with
      | true => exact .refl _
      | false => exact evalAny_le h terms hle
      | unknown => exact evalAny_le h terms id

lemma evalExactlyOne_le (h : device.Informs device') : ∀ (terms : List Condition) (count : ℕ),
    (evalExactlyOne device count terms).Le (evalExactlyOne device' count terms)
  | [], _ => .refl _
  | term :: terms, count => by
    rw [evalExactlyOne, evalExactlyOne]
    rcases eval_le h term with hunknown | hsame
    · rw [hunknown]
      exact .unknown_left _
    · rw [← hsame]
      cases term.eval device with
      | true => exact evalExactlyOne_le h terms (count + 1)
      | false => exact evalExactlyOne_le h terms count
      | unknown => exact .refl _

end

end Condition

/-- What is not left to prose is settled, and more answers do not change it. -/
lemma verdictOf_informs {device device' : Supports} (h : device.Informs device') {clauses : List Clause}
    (hknown : verdictOf device clauses ≠ .described) : verdictOf device' clauses = verdictOf device clauses := by
  induction clauses with
  | nil => rfl
  | cons clause clauses ih =>
    rw [verdictOf] at hknown
    rw [verdictOf, verdictOf]
    rcases Condition.eval_le h clause.when with hunknown | hsame
    · rw [hunknown] at hknown
      exact absurd rfl hknown
    · rw [← hsame]
      cases hvalue : clause.when.eval device with
      | true => rfl
      | unknown => rfl
      | false =>
        rw [hvalue] at hknown
        exact ih hknown

/-! ## Two values -/

/-- Whether a condition holds of a device, where a named condition that is not answered does not. -/
def Condition.holds (device : Supports) : Condition → Bool
  | .always => true
  | .feature bit => device.hasFeature bit
  | .attribute id => device.hasAttribute id
  | .command id => device.hasCommand id
  | .event id => device.hasEvent id
  | .cluster id => device.hasCluster id
  | .named name => device.named name == some true
  | .not inner => !inner.holds device
  | .all terms => (terms.map fun term => term.holds device).all id
  | .any terms => (terms.map fun term => term.holds device).any id
  | .exactlyOne terms => (terms.map fun term => term.holds device).count true == 1

/-- The verdict of the first clause whose condition holds. -/
def Conform.firstHolding (c : Conform) (device : Supports) : Conformance :=
  (c.clauses.find? fun clause => clause.when.holds device).elim .disallowed Clause.verdict

/-- The device answers every named condition. -/
def Supports.AnswersAll (device : Supports) : Prop := ∀ name, ∃ value, device.named name = some value

namespace Condition

variable {device : Supports}

mutual

lemma eval_eq_holds (h : device.AnswersAll) : ∀ c : Condition, c.eval device = .ofBool (c.holds device)
  | .always | .feature _ | .attribute _ | .command _ | .event _ | .cluster _ => by
    simp [eval, holds, Truth.ofBool]
  | .named name => by
    obtain ⟨value, hvalue⟩ := h name
    simp [eval, holds, hvalue]
  | .not inner => by
    rw [eval, eval_eq_holds h inner, holds]
    cases inner.holds device <;> rfl
  | .all terms => by
    rw [eval, evalAll_eq_holds h terms, holds]
  | .any terms => by
    rw [eval, evalAny_eq_holds h terms, holds]
  | .exactlyOne terms => by
    rw [eval, evalExactlyOne_eq_holds h terms 0, holds, Nat.zero_add]

lemma evalAll_eq_holds (h : device.AnswersAll) : ∀ terms : List Condition,
    evalAll device Bool.false terms = .ofBool ((terms.map fun term => term.holds device).all id)
  | [] => rfl
  | term :: terms => by
    rw [evalAll, eval_eq_holds h term, List.map_cons]
    cases term.holds device with
    | true => exact evalAll_eq_holds h terms
    | false => rfl

lemma evalAny_eq_holds (h : device.AnswersAll) : ∀ terms : List Condition,
    evalAny device Bool.false terms = .ofBool ((terms.map fun term => term.holds device).any id)
  | [] => rfl
  | term :: terms => by
    rw [evalAny, eval_eq_holds h term, List.map_cons]
    cases term.holds device with
    | true => rfl
    | false => exact evalAny_eq_holds h terms

lemma evalExactlyOne_eq_holds (h : device.AnswersAll) : ∀ (terms : List Condition) (count : ℕ),
    evalExactlyOne device count terms =
      .ofBool (count + (terms.map fun term => term.holds device).count true == 1)
  | [], _ => rfl
  | term :: terms, count => by
    rw [evalExactlyOne, eval_eq_holds h term, List.map_cons]
    cases term.holds device with
    | true =>
      rw [List.count_cons_self, Nat.add_comm (List.count _ _) 1, ← Nat.add_assoc]
      exact evalExactlyOne_eq_holds h terms (count + 1)
    | false =>
      rw [List.count_cons_of_ne Bool.false_ne_true]
      exact evalExactlyOne_eq_holds h terms count

end

end Condition

lemma verdict_eq_firstHolding {device : Supports} (h : device.AnswersAll) (c : Conform) :
    c.verdict device = c.firstHolding device := by
  obtain ⟨clauses⟩ := c
  simp only [Conform.verdict, Conform.firstHolding]
  induction clauses with
  | nil => rfl
  | cons clause clauses ih =>
    rw [verdictOf, Condition.eval_eq_holds h, List.find?_cons]
    cases clause.when.holds device with
    | true => rfl
    | false => exact ih

/-- **A verdict does not guess**: a device that answers more named conditions has the same verdict unless it was
left to prose, and one that answers them all has that of the first clause whose condition holds. -/
theorem verdict_never_guesses (c : Conform) : (∀ device device' : Supports, device.Informs device' →
      c.verdict device ≠ .described → c.verdict device' = c.verdict device) ∧
    ∀ device : Supports, device.AnswersAll → c.verdict device = c.firstHolding device :=
  ⟨fun _ _ h hknown => verdictOf_informs h hknown, fun _ h => verdict_eq_firstHolding h c⟩

end MatterKit.Dm
