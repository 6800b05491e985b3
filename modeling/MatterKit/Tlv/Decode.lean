import MatterKit.Tlv.RoundTrip
import MatterKit.Tlv.Validate
import MatterKit.Tlv.Emit

/-!
# Decoding what was encoded

The encoders of the repository are sequences of writer calls, and its decoders take one element after
the other. So a round trip has two halves that meet at a list of elements: an encoder that is a list
of calls (`runAll`) is read back as the elements of the calls, and a decoder that `Decodes` those
elements ends with the value they were written from. `Takes` is the second half for the members of a
container, which `eachMember` goes through one by one.
-/

namespace MatterKit.Tlv

open Lib Machine

/-! ## Decoders over elements -/

section Decodes

variable {α β : Type}

/-- On every reader that yields `elements` the computation succeeds with `a`, and leaves the reader
after them. -/
def Decodes (x : Reading α) (elements : List Element) (a : α) : Prop :=
  ∀ r r', Yields r elements r' → exec x r = (.ok a, r')

lemma Yields.of_append {es fs : List Element} {r r' : TlvReader} (h : Yields r (es ++ fs) r') :
    ∃ r₁, Yields r es r₁ ∧ Yields r₁ fs r' := by
  induction es generalizing r with
  | nil => exact ⟨r, .nil r, h⟩
  | cons e es ih =>
    cases h with
    | cons first others =>
      obtain ⟨r₁, hes, hfs⟩ := ih others
      exact ⟨r₁, .cons first hes, hfs⟩

/-- An element takes at least an octet. -/
lemma Yields.length_le {es : List Element} {r r' : TlvReader} (h : Yields r es r') :
    es.length ≤ r.buf.length - r.pos := by
  induction h with
  | nil r => exact Nat.zero_le _
  | cons first _ ih =>
    have := nextElement_progress first
    rw [List.length_cons]
    omega

namespace Decodes

lemma pure (a : α) : Decodes (Pure.pure a) [] a := by
  intro r r' h
  cases h
  rfl

lemma ofResult {x : Except ErrorCode α} {a : α} (h : x = .ok a) : Decodes (Machine.ofResult x) [] a := by
  intro r r' hy
  cases hy
  rw [h]
  rfl

lemma bind {x : Reading α} {f : α → Reading β} {es fs : List Element} {a : α} {b : β}
    (hx : Decodes x es a) (hf : Decodes (f a) fs b) : Decodes (x >>= f) (es ++ fs) b := by
  intro r r' h
  obtain ⟨r₁, hes, hfs⟩ := h.of_append
  rw [exec_bind_ok (hx r r₁ hes)]
  exact hf r₁ r' hfs

lemma bind_pure {x : Reading α} {f : α → β} {es : List Element} {a : α} (hx : Decodes x es a) :
    Decodes (do let a ← x; Pure.pure (f a)) es (f a) := by
  have h := hx.bind (f := fun a => Pure.pure (f a)) (pure (f a))
  rwa [List.append_nil] at h

end Decodes

/-! ## The members of a container -/

/-- The members in `elements`, each with what is inside it, take a decoder's accumulator from one
value to another. -/
inductive Takes (s : ℕ → Element → β → Reading β) : List Element → β → β → Prop
  | nil (acc : β) : Takes s [] acc acc
  | cons {e : Element} {inner others : List Element} {acc acc₁ acc' : β}
      (member : e.value ≠ .endOfContainer)
      (first : ∀ start, Decodes (s start e acc) inner acc₁)
      (rest : Takes s others acc₁ acc') : Takes s (e :: (inner ++ others)) acc acc'

namespace Takes

variable {s : ℕ → Element → β → Reading β}

/-- One member that has nothing inside. -/
lemma single {e : Element} {acc acc' : β} (member : e.value ≠ .endOfContainer)
    (h : ∀ start, Decodes (s start e acc) [] acc') : Takes s [e] acc acc' :=
  @Takes.cons β s e [] [] acc acc' acc' member h (.nil acc')

lemma append {es fs : List Element} {acc acc₁ acc' : β} (h : Takes s es acc acc₁)
    (h' : Takes s fs acc₁ acc') : Takes s (es ++ fs) acc acc' := by
  induction h with
  | nil acc => exact h'
  | cons member first _ ih =>
    rw [List.cons_append, List.append_assoc]
    exact .cons member first (ih h')

/-- One member after another, for each entry of a list. -/
lemma flatMap {γ : Type} {es : γ → List Element} (acc : List γ → β) (l : List γ)
    (h : ∀ before c after, l = before ++ c :: after →
      Takes s (es c) (acc before) (acc (before ++ [c]))) : Takes s (l.flatMap es) (acc []) (acc l) := by
  suffices hsuffix : ∀ after before, l = before ++ after →
      Takes s (after.flatMap es) (acc before) (acc l) from hsuffix l [] rfl
  intro after
  induction after with
  | nil =>
    intro before hl
    rw [hl, List.append_nil]
    exact .nil _
  | cons c after ih =>
    intro before hl
    rw [List.flatMap_cons]
    refine (h before c after hl).append (ih (before ++ [c]) ?_)
    rw [hl, List.append_assoc]
    rfl

lemma exec_eachMemberFrom {es : List Element} {acc acc' : β} (h : Takes s es acc acc')
    {tag : Tag} {r r' : TlvReader} (hy : Yields r (es ++ [⟨tag, .endOfContainer⟩]) r')
    {rounds : ℕ} (hrounds : es.length < rounds) :
    exec (eachMemberFrom s rounds acc) r = (.ok acc', r') := by
  induction h generalizing r rounds with
  | nil acc =>
    rcases rounds with _ | rounds
    · omega
    cases hy with
    | cons first others =>
      cases others
      have hpos : exec position r = (.ok r.pos, r) := rfl
      rw [eachMemberFrom, exec_bind_ok hpos, exec_bind_ok first]
      simp only [if_pos]
      rfl
  | @cons e inner others acc acc₁ acc' member hstep hrest ih =>
    rcases rounds with _ | rounds
    · omega
    rw [List.cons_append, List.append_assoc] at hy
    cases hy with
    | @cons _ r₁ _ _ _ first rest =>
      obtain ⟨r₂, hinner, hothers⟩ := rest.of_append
      have hpos : exec position r = (.ok r.pos, r) := rfl
      rw [eachMemberFrom, exec_bind_ok hpos, exec_bind_ok first]
      simp only [if_neg member]
      rw [exec_bind_ok (hstep r.pos r₁ r₂ hinner)]
      refine ih hothers ?_
      simp only [List.length_cons, List.length_append] at hrounds
      omega

/-- The members, and the end of the container after them. -/
lemma decodes_eachMember {es : List Element} {acc acc' : β} (h : Takes s es acc acc') (tag : Tag) :
    Decodes (eachMember s acc) (es ++ [⟨tag, .endOfContainer⟩]) acc' := by
  intro r r' hy
  have hlen := hy.length_le
  rw [List.length_append, List.length_singleton] at hlen
  rw [eachMember, exec_get_bind]
  exact h.exec_eachMemberFrom hy (by omega)

end Takes

end Decodes

/-! ## Encoders that are lists of calls -/

namespace WriterCall

lemma runAll_append (before after : List WriterCall) :
    runAll (before ++ after) = (do runAll before; runAll after) := by
  induction before with
  | nil => rfl
  | cons call before ih =>
    rw [List.cons_append, runAll, ih, runAll, bind_assoc]

end WriterCall

/-- Calls that a writer at one nesting makes room permitting, and that leave it at another. -/
def Lays (calls : List WriterCall) (n n' : Nesting) : Prop :=
  ∃ size, Emits (WriterCall.runAll calls) n n' size

namespace Lays

variable {n n₁ n' : Nesting} {before after : List WriterCall}

lemma nil (n : Nesting) : Lays [] n n := ⟨0, Emits.pure n⟩

lemma single {call : WriterCall} {size : ℕ} (h : Emits call.run n n' size) : Lays [call] n n' :=
  ⟨size + 0, h.seq (Emits.pure n')⟩

lemma append (h : Lays before n n₁) (h' : Lays after n₁ n') : Lays (before ++ after) n n' := by
  obtain ⟨a, ha⟩ := h
  obtain ⟨b, hb⟩ := h'
  refine ⟨a + b, ?_⟩
  rw [WriterCall.runAll_append]
  exact ha.seq hb

lemma cons {call : WriterCall} {size : ℕ} (h : Emits call.run n n₁ size) (h' : Lays after n₁ n') :
    Lays (call :: after) n n' := (single h).append h'

lemma flatMap {γ : Type} {calls : γ → List WriterCall} (l : List γ)
    (h : ∀ c ∈ l, Lays (calls c) n n) : Lays (l.flatMap calls) n n := by
  induction l with
  | nil => exact nil n
  | cons c l ih =>
    exact (h c List.mem_cons_self).append (ih fun c' hc' => h c' (List.mem_cons_of_mem _ hc'))

/-- A call that is made if there is a value for it. -/
lemma option {γ : Type} {size : ℕ} {call : γ → WriterCall} (field : Option γ)
    (h : ∀ v, Emits (call v).run n n size) : Lays (field.toList.map call) n n := by
  cases field with
  | none => exact nil n
  | some v => exact single (h v)

/-- On a new writer the calls are all made, or there is no room for them. -/
lemma exec_new {calls : List WriterCall} (h : Lays calls ⟨[], false⟩ n') (buf : Slice) :
    (∃ w, exec (WriterCall.runAll calls) (.new buf) = (.ok (), w) ∧ w.Sound ∧ w.nesting = n' ∧
        w.startedInside = false) ∨
      ∃ w, exec (WriterCall.runAll calls) (.new buf) = (.error .bufferTooSmall, w) := by
  obtain ⟨size, bytes, -, hfollows⟩ := h
  have hsound : (TlvWriter.new buf).Sound := ⟨Nat.zero_le _, Nat.zero_le _⟩
  have hnesting : (TlvWriter.new buf).nesting = ⟨[], false⟩ := rfl
  by_cases hfits : (TlvWriter.new buf).Fits bytes
  · obtain ⟨w, hrun, hwrote⟩ := (hfollows _ hsound hnesting).1 hfits
    exact .inl ⟨w, hrun, hwrote.sound, hwrote.nesting_eq, hwrote.startedInside_eq⟩
  · obtain ⟨w, hrun, -⟩ := (hfollows _ hsound hnesting).2 hfits
    exact .inr ⟨w, hrun⟩

end Lays

/-- A sound writer that has written an element at the top level finishes. -/
lemma TlvWriter.finish_of_nesting {w : TlvWriter} (hsound : w.Sound)
    (hn : w.nesting = ⟨[], true⟩) (htop : w.startedInside = false) : w.finish = .ok w.written := by
  have hdepth : w.depth = 0 := by
    have hlen := congrArg (List.length ∘ Nesting.containers) hn
    simp only [Function.comp_apply, nesting, List.length_take, Vector.length_toList,
      List.length_nil] at hlen
    have := hsound.depth_le
    omega
  exact (finish_eq_ok htop).mpr ⟨hdepth, congrArg Nesting.topLevelDone hn, hsound.pos_le, rfl⟩

end MatterKit.Tlv
