import MatterKit.Tlv.Elements

/-!
# What is left of the open containers

A cursor inside containers has still to read what is left of each of them: a `OpenFrame` for every open
one, innermost first. `Place.At` says that a cursor has certain frames in front of it, at a place given
by the outer containers and the octets after the frames; the next element and where it leads are read
off the first frame (`next_end`, `next_tree`).

A decoder that stays inside its container cannot tell what surrounds it. `Uniform` says so: its result
is one and the same at every `Place` where it starts with the same frames in front of it.
-/

namespace MatterKit.Tlv

open Lib Machine

/-! ## Frames -/

/-- What is left of an open container: the members not read yet, and its end. -/
structure OpenFrame where
  kind : ContainerKind
  left : Members

/-- The octets of what is left of the open containers. -/
def framesOctets : List OpenFrame → List UInt8
  | [] => []
  | f :: fs => f.left.octets ++ endOctet :: framesOctets fs

/-- What is left is legal where it stands, and with `outer` more containers around it not too
deep. -/
def LegalFrames (outer : ℕ) : List OpenFrame → Prop
  | [] => True
  | f :: fs => f.left.LegalIn f.kind ∧ f.left.depth + (outer + fs.length + 1) ≤ maxDepth ∧
      LegalFrames outer fs

/-- The element an element of an encoding is read as. -/
def Tree.head : Tree → Element
  | .primitive tag value => ⟨tag.tag, value.value⟩
  | .container tag kind _ => ⟨tag.tag, .container kind⟩

/-- The frame that reading the start of an element opens. -/
def Tree.inner : Tree → List OpenFrame
  | .primitive _ _ => []
  | .container _ kind members => [⟨kind, members⟩]

/-- The token that an element of an encoding starts with. -/
def Tree.token : Tree → Token
  | .primitive tag value => .primitive tag value
  | .container tag kind _ => .opening tag kind

lemma Tree.element_token (t : Tree) : t.token.element = t.head := by
  cases t with
  | primitive tag value | container tag kind members => rfl

lemma Tree.octets_eq_token (t : Tree) : t.octets = t.token.octets ++ framesOctets t.inner := by
  cases t with
  | primitive tag value => exact (List.append_nil _).symm
  | container tag kind members => rfl

lemma Value.IsPlain.container?_eq_none {v : Value} (h : v.IsPlain) : v.container? = none := by
  cases v with
  | container kind | endOfContainer => exact h.elim
  | _ => rfl

lemma Tree.head_ne_end (t : Tree) : t.head.value ≠ .endOfContainer := by
  cases t with
  | primitive tag value =>
    have hplain := value.value_spec.2.1
    intro h
    rw [show value.value = .endOfContainer from h] at hplain
    exact hplain
  | container tag kind members => simp [head]

lemma framesOctets_append (fs gs : List OpenFrame) :
    framesOctets (fs ++ gs) = framesOctets fs ++ framesOctets gs := by
  induction fs with
  | nil => rfl
  | cons f fs ih =>
    rw [List.cons_append, framesOctets, ih, framesOctets, List.append_assoc, List.cons_append]

lemma legalFrames_append_iff (outer : ℕ) (fs gs : List OpenFrame) :
    LegalFrames outer (fs ++ gs) ↔ LegalFrames (outer + gs.length) fs ∧ LegalFrames outer gs := by
  induction fs with
  | nil => exact (and_iff_right trivial).symm
  | cons f fs ih =>
    rw [List.cons_append, LegalFrames, LegalFrames, ih, List.length_append]
    have hlen : outer + (fs.length + gs.length) + 1 = outer + gs.length + fs.length + 1 := by omega
    rw [hlen]
    tauto

/-! ## Members listed -/

/-- The elements as the members of a container. -/
def Members.ofList : List Tree → Members
  | [] => .nil
  | t :: ts => .cons t (ofList ts)

namespace Members

lemma exists_ofList (ms : Members) : ∃ ts, ms = ofList ts := by
  cases ms with
  | nil => exact ⟨[], rfl⟩
  | cons t ms =>
    obtain ⟨ts, hts⟩ := exists_ofList ms
    exact ⟨t :: ts, congrArg (Members.cons t) hts⟩

lemma octets_ofList (ts : List Tree) : (ofList ts).octets = (ts.map Tree.octets).flatten := by
  induction ts with
  | nil => rfl
  | cons t ts ih => rw [ofList, octets, ih, List.map_cons, List.flatten_cons]

lemma legalIn_ofList_iff {ts : List Tree} {kind : ContainerKind} :
    (ofList ts).LegalIn kind ↔ ∀ t ∈ ts, t.LegalIn (some kind) := by
  induction ts with
  | nil => simp [ofList, LegalIn]
  | cons t ts ih => rw [ofList, LegalIn, ih, List.forall_mem_cons]

lemma depth_ofList_le_iff {ts : List Tree} {n : ℕ} : (ofList ts).depth ≤ n ↔ ∀ t ∈ ts, t.depth ≤ n := by
  induction ts with
  | nil => simp [ofList, depth]
  | cons t ts ih => rw [ofList, depth, max_le_iff, ih, List.forall_mem_cons]

/-- Every member takes an octet. -/
lemma length_lt_of_cons {u : Tree} {ms : Members} {rounds : ℕ}
    (hrounds : (Members.cons u ms).octets.length < rounds + 1) : ms.octets.length < rounds := by
  have htoken := List.length_pos_iff.mpr u.token.octets_ne_nil
  simp only [Members.octets, u.octets_eq_token, List.length_append] at hrounds
  omega

end Members

/-! ## A cursor in front of frames -/

/-- Where a cursor stands apart from the frames it is in front of: the containers around them, the
octets after them, and the octets and the depth it started with. -/
structure Place where
  outer : List ContainerKind
  rest : List UInt8
  buf : List UInt8
  base : ℕ

/-- The cursor is at the place and has the frames in front of it. -/
structure Place.At (p : Place) (fs : List OpenFrame) (r : TlvReader) : Prop where
  buf_eq : r.buf = p.buf
  base_eq : r.baseDepth = p.base
  faces : r.Faces (framesOctets fs ++ p.rest)
  within : r.Within (fs.map (·.kind) ++ p.outer)
  legal : LegalFrames p.outer.length fs
  base_le : p.base ≤ p.outer.length

lemma Token.baseDepth_after (t : Token) (r : TlvReader) : (t.after r).baseDepth = r.baseDepth := by
  unfold TlvReader.baseDepth
  rw [t.startedInside_after]

variable {r : TlvReader} {kind : ContainerKind} {ms : Members} {stack : List ContainerKind}
  {bytes : List UInt8}

/-- The containers the cursor is within after a token, by what the token does. -/
lemma TlvReader.Within.after {stack stack' : List ContainerKind} (h : r.Within stack) {t : Token}
    (hmoves : t.Moves stack stack') : (t.after r).Within stack' := by
  cases hmoves with
  | primitive hallowed => exact (h.advance _).mark
  | opening hallowed hroom => exact ((h.advance _).enter hroom).mark
  | closing => exact (h.advance 1).leave.mark

namespace Place.At

variable {p : Place} {r : TlvReader} {f : OpenFrame} {fs : List OpenFrame}

lemma depth_eq (h : p.At fs r) : r.depth = fs.length + p.outer.length := by
  rw [h.within.depth_eq, List.length_append, List.length_map]

lemma readable (h : p.At (f :: fs) r) : r.Open := by
  have hbase := h.base_le
  have hdepth := h.depth_eq
  rw [← h.base_eq] at hbase
  rw [List.length_cons] at hdepth
  exact open_of_lt (by omega)

/-- The position of a cursor in front of frames. -/
lemma pos_eq (h : p.At fs r) : r.pos = p.buf.length - (framesOctets fs ++ p.rest).length := by
  have hlen := h.faces.length_eq
  rw [h.buf_eq] at hlen
  omega

lemma remaining_eq (h : p.At fs r) : r.buf.length - r.pos = (framesOctets fs ++ p.rest).length := by
  have hlen := h.faces.length_eq
  omega

/-- A token leads to the frames it leaves. -/
lemma after {fs' : List OpenFrame} {t : Token} (h : p.At fs r)
    (hoctets : framesOctets fs = t.octets ++ framesOctets fs')
    (hmoves : t.Moves (fs.map (·.kind) ++ p.outer) (fs'.map (·.kind) ++ p.outer))
    (hlegal : LegalFrames p.outer.length fs') : p.At fs' (t.after r) where
  buf_eq := (t.buf_after r).trans h.buf_eq
  base_eq := (t.baseDepth_after r).trans h.base_eq
  faces := by
    have hfaces := h.faces
    rw [hoctets, List.append_assoc] at hfaces
    exact hfaces.after
  within := h.within.after hmoves
  legal := hlegal
  base_le := h.base_le

/-- Past the last member comes the end of the container. -/
lemma next_end {kind : ContainerKind} (h : p.At (⟨kind, .nil⟩ :: fs) r) :
    ∃ r', exec nextElement r = (.ok (some ⟨.anonymous, .endOfContainer⟩), r') ∧ p.At fs r' := by
  have hfits : Token.closing.FitsIn r := by
    have hbase := h.base_le
    have hdepth := h.depth_eq
    rw [← h.base_eq] at hbase
    rw [List.length_cons] at hdepth
    show r.baseDepth < r.depth
    omega
  exact ⟨_, nextElement_of_token (t := .closing) h.faces h.readable hfits,
    h.after rfl .closing h.legal.2.2⟩

/-- A member is read as its first element, and the cursor is inside it then. -/
lemma next_tree {kind : ContainerKind} {t : Tree} {ms : Members} (h : p.At (⟨kind, .cons t ms⟩ :: fs) r) :
    ∃ r', exec nextElement r = (.ok (some t.head), r') ∧ p.At (t.inner ++ ⟨kind, ms⟩ :: fs) r' := by
  obtain ⟨⟨hlegal, hothers⟩, hdepth, hframes⟩ := h.legal
  simp only [Members.depth] at hdepth
  have hoctets : framesOctets (⟨kind, .cons t ms⟩ :: fs) =
      t.token.octets ++ framesOctets (t.inner ++ ⟨kind, ms⟩ :: fs) := by
    rw [framesOctets_append]
    simp only [framesOctets, Members.octets, t.octets_eq_token, List.append_assoc]
  have hfaces := h.faces
  rw [hoctets, List.append_assoc] at hfaces
  have hplace : r.currentContainer = some kind := h.within.currentContainer_eq
  have hat := h.depth_eq
  rw [List.length_cons] at hat
  have hrest : LegalFrames p.outer.length (⟨kind, ms⟩ :: fs) :=
    ⟨hothers, (by simp only; omega), hframes⟩
  rw [← t.element_token]
  cases t with
  | primitive tag value =>
    have hfits : (Token.primitive tag value).FitsIn r := by
      show tag.AllowedIn r.currentContainer
      rw [hplace]
      exact hlegal
    exact ⟨_, nextElement_of_token hfaces h.readable hfits, h.after hoctets (.primitive hlegal) hrest⟩
  | container tag inner members =>
    simp only [Tree.depth] at hdepth
    have hroom : r.depth < maxDepth := by omega
    have hfits : (Token.opening tag inner).FitsIn r := by
      refine ⟨?_, hroom⟩
      rw [hplace]
      exact hlegal.1
    have hmoves : (Token.opening tag inner).Moves
        (((⟨kind, .cons (.container tag inner members) ms⟩ : OpenFrame) :: fs).map (·.kind) ++ p.outer)
        (inner :: (kind :: fs.map (·.kind)) ++ p.outer) := by
      apply Token.Moves.opening hlegal.1
      rw [← h.within.depth_eq]
      exact hroom
    have hopened : LegalFrames p.outer.length (⟨inner, members⟩ :: ⟨kind, ms⟩ :: fs) := by
      refine ⟨hlegal.2, ?_, hrest⟩
      show members.depth + (p.outer.length + (fs.length + 1) + 1) ≤ maxDepth
      omega
    exact ⟨_, nextElement_of_token hfaces h.readable hfits, h.after hoctets hmoves hopened⟩

/-- Skipping goes to the end of the frames it is to skip. -/
lemma skipTo {gs : List OpenFrame} {rounds : ℕ} (hrounds : (framesOctets fs).length < rounds)
    (h : p.At (fs ++ gs) r) :
    ∃ r', exec (Tlv.skipTo (gs.length + p.outer.length) rounds) r = (.ok (), r') ∧ p.At gs r' := by
  induction rounds generalizing fs r with
  | zero => exact absurd hrounds (Nat.not_lt_zero _)
  | succ rounds ih =>
    have hdepth := h.depth_eq
    rw [List.length_append] at hdepth
    unfold Tlv.skipTo
    rw [exec_get_bind]
    cases fs with
    | nil =>
      rw [if_neg (by rw [hdepth, List.length_nil]; omega)]
      exact ⟨r, rfl, h⟩
    | cons f fs =>
      rw [if_pos (by rw [hdepth, List.length_cons]; omega)]
      obtain ⟨kind, left⟩ := f
      cases left with
      | nil =>
        obtain ⟨r₁, hnext, hat⟩ := h.next_end
        rw [exec_bind_ok hnext]
        apply ih _ hat
        simp only [framesOctets, Members.octets, List.length_append, List.length_cons] at hrounds
        omega
      | cons t ms =>
        obtain ⟨r₁, hnext, hat⟩ := h.next_tree
        have hat' : p.At ((t.inner ++ ⟨kind, ms⟩ :: fs) ++ gs) r₁ := by
          rw [List.append_assoc]
          exact hat
        rw [exec_bind_ok hnext]
        apply ih _ hat'
        have htoken := List.length_pos_iff.mpr t.token.octets_ne_nil
        simp only [framesOctets, Members.octets, t.octets_eq_token, List.length_append, List.length_cons]
          at hrounds
        rw [framesOctets_append]
        simp only [framesOctets, List.length_append, List.length_cons]
        omega

/-- Skipping an element leads behind it. -/
lemma skipValue {t : Tree} {gs : List OpenFrame} (h : p.At (t.inner ++ gs) r) :
    ∃ r', exec (Tlv.skipValue t.head) r = (.ok (), r') ∧ p.At gs r' := by
  cases t with
  | primitive tag value =>
    have hplain : value.value.container? = none := value.value_spec.2.1.container?_eq_none
    unfold Tlv.skipValue
    rw [if_neg (by simp [Tree.head, hplain])]
    exact ⟨r, rfl, h⟩
  | container tag kind members =>
    have hdepth := h.depth_eq
    have hrounds := h.remaining_eq
    have hinner : (Tree.container tag kind members).inner = [⟨kind, members⟩] := rfl
    rw [hinner, List.length_append, List.length_singleton] at hdepth
    rw [framesOctets_append, List.append_assoc, List.length_append] at hrounds
    have htarget : r.depth - 1 = gs.length + p.outer.length := by omega
    have hopens : (Tree.container tag kind members).head.value.container?.isSome = true := rfl
    unfold Tlv.skipValue skipContainer
    rw [if_pos hopens, exec_get_bind, exec_require_bind (by omega), htarget]
    exact h.skipTo (by omega)

end Place.At

/-! ## Decoders that stay inside -/

lemma exec_require_of_not {σ ε : Type} {q : Prop} [Decidable q] (h : ¬ q) (e : ε) (s : σ) :
    exec (require q e : Machine σ ε Unit) s = (.error e, s) := by
  unfold require
  rw [if_neg h]
  rfl

namespace Place

/-- The same place seen from further inside: what `gs` are in front of is around the cursor. -/
def under (p : Place) (gs : List OpenFrame) : Place where
  outer := gs.map (·.kind) ++ p.outer
  rest := framesOctets gs ++ p.rest
  buf := p.buf
  base := p.base

/-- The position in front of an element that is the last thing before what follows the place. -/
def start (p : Place) (t : Tree) : ℕ := p.buf.length - (t.octets.length + p.rest.length)

lemma At.under {p : Place} {fs gs : List OpenFrame} {r : TlvReader} (h : p.At (fs ++ gs) r) :
    (p.under gs).At fs r where
  buf_eq := h.buf_eq
  base_eq := h.base_eq
  faces := by
    have hfaces := h.faces
    rw [framesOctets_append, List.append_assoc] at hfaces
    exact hfaces
  within := by
    have hwithin := h.within
    rw [List.map_append, List.append_assoc] at hwithin
    exact hwithin
  legal := by
    have hlegal := ((legalFrames_append_iff _ _ _).mp h.legal).1
    rw [Place.under, List.length_append, List.length_map, Nat.add_comm]
    exact hlegal
  base_le := by
    have hbase := h.base_le
    rw [Place.under, List.length_append]
    exact hbase.trans (Nat.le_add_left _ _)

/-- Out of what was looked into, the frames around it are next. -/
lemma At.out {p : Place} {fs gs : List OpenFrame} {r r' : TlvReader} (h : p.At (fs ++ gs) r)
    (h' : (p.under gs).At [] r') : p.At gs r' where
  buf_eq := h'.buf_eq
  base_eq := h'.base_eq
  faces := h'.faces
  within := h'.within
  legal := ((legalFrames_append_iff _ _ _).mp h.legal).2
  base_le := h.base_le

end Place

/-- The octets in front of the place end with those of the element. -/
def Place.Holds (p : Place) (t : Tree) : Prop := ∃ seen, p.buf = seen ++ (t.octets ++ p.rest)

/-- Behind an element its octets can be taken. -/
lemma Place.At.sliceFrom {p : Place} {t : Tree} (h : p.At [] r) (hp : p.Holds t) :
    exec (Tlv.sliceFrom (p.start t)) r = (.ok t.octets, r) := by
  obtain ⟨seen, hseen⟩ := hp
  have hpos := h.pos_eq
  simp only [framesOctets, List.nil_append] at hpos
  have hlen := congrArg List.length hseen
  simp only [List.length_append] at hlen
  have hstart : p.start t = seen.length := by
    unfold Place.start
    omega
  have hend : r.pos = (seen ++ t.octets).length := by
    rw [List.length_append]
    omega
  have hfits : seen.length ≤ r.pos ∧ r.pos ≤ r.buf.length := by
    rw [h.buf_eq, hend, List.length_append]
    omega
  unfold Tlv.sliceFrom
  rw [hstart, exec_get_bind, exec_require_bind hfits, exec_pure,
    h.buf_eq, hseen, ← List.append_assoc, hend, List.take_left, List.drop_left]

/-- In front of a member, the cursor goes into it, and from behind it on to the others. -/
lemma Place.At.member {p : Place} {u : Tree} (h : p.At [⟨kind, .cons u ms⟩] r) :
    ∃ r', exec position r = (.ok ((p.under [⟨kind, ms⟩]).start u), r) ∧
      exec nextElement r = (.ok (some u.head), r') ∧ (p.under [⟨kind, ms⟩]).Holds u ∧
      (p.under [⟨kind, ms⟩]).At u.inner r' ∧
      ∀ r'', (p.under [⟨kind, ms⟩]).At [] r'' → p.At [⟨kind, ms⟩] r'' := by
  obtain ⟨r', hnext, hat⟩ := h.next_tree
  have hfaces : r.Faces (u.octets ++ (p.under [⟨kind, ms⟩]).rest) := by
    have hfront := h.faces
    simp only [framesOctets, Members.octets, List.append_assoc] at hfront
    simp only [Place.under, framesOctets, List.append_assoc]
    exact hfront
  have hholds : (p.under [⟨kind, ms⟩]).Holds u := by
    obtain ⟨seen, hbuf, -⟩ := hfaces
    exact ⟨seen, h.buf_eq.symm.trans hbuf⟩
  have hposition : exec position r = (.ok ((p.under [⟨kind, ms⟩]).start u), r) := by
    have hlen := hfaces.length_eq
    rw [h.buf_eq, List.length_append] at hlen
    have hpos : (p.under [⟨kind, ms⟩]).start u = r.pos := by
      unfold Place.start
      show p.buf.length - _ = _
      omega
    rw [hpos]
    rfl
  exact ⟨r', hposition, hnext, hholds, hat.under, fun r'' => hat.out⟩

/-- Into a container that stands in front of a cursor. -/
lemma Place.At.of_opening {tag : WireTag} {rest : List UInt8}
    (hfaces : r.Faces ((Tree.container tag kind ms).octets ++ rest)) (hwithin : r.Within stack)
    (hopen : r.Open) (hbase : r.baseDepth ≤ stack.length)
    (hlegal : (Tree.container tag kind ms).LegalIn stack.head?)
    (hdepth : ms.depth + (stack.length + 1) ≤ maxDepth) :
    ∃ r', exec nextElement r = (.ok (some ⟨tag.tag, .container kind⟩), r') ∧
      (Place.mk stack rest r.buf r.baseDepth).At [⟨kind, ms⟩] r' := by
  have hroom : stack.length < maxDepth := by omega
  have hfront : r.Faces ((Token.opening tag kind).octets ++ (framesOctets [⟨kind, ms⟩] ++ rest)) := by
    rw [Tree.octets_eq_token, List.append_assoc] at hfaces
    exact hfaces
  have hfits : (Token.opening tag kind).FitsIn r := by
    refine ⟨?_, hwithin.depth_eq.trans_lt hroom⟩
    rw [hwithin.currentContainer_eq]
    exact hlegal.1
  refine ⟨_, nextElement_of_token hfront hopen hfits, ?_⟩
  exact
    { buf_eq := (Token.opening tag kind).buf_after r
      base_eq := (Token.opening tag kind).baseDepth_after r
      faces := hfront.after
      within := hwithin.after (.opening hlegal.1 hroom)
      legal := ⟨hlegal.2, (by simpa using hdepth), trivial⟩
      base_le := hbase }

/-- Wherever it starts in front of the frames, which are what is left of the element, the computation
has the same result, and a success leaves the cursor behind them. -/
def Uniform {α : Type} (t : Tree) (x : Place → Reading α) (fs : List OpenFrame) : Prop :=
  ∃ res : Except ErrorCode α, ∀ (p : Place) (r : TlvReader), p.Holds t → p.At fs r →
    ∃ r', exec (x p) r = (res, r') ∧ ∀ a, res = .ok a → p.At [] r'

namespace Uniform

variable {α β : Type} {t : Tree}

lemma pure (a : α) : Uniform t (fun _ => Pure.pure a) [] :=
  ⟨.ok a, fun _ r _ h => ⟨r, rfl, fun _ _ => h⟩⟩

lemma ofResult (y : Except ErrorCode α) : Uniform t (fun _ => Machine.ofResult y) [] :=
  ⟨y, fun _ r _ h => ⟨r, rfl, fun _ _ => h⟩⟩

variable {f : Place → α → Reading β} {fs : List OpenFrame} {step : ℕ → Element → β → Reading β}

/-- What stays inside is followed by what does not move. -/
lemma bind {x : Place → Reading α} (hx : Uniform t x fs) (hf : ∀ a, Uniform t (fun p => f p a) []) :
    Uniform t (fun p => x p >>= f p) fs := by
  obtain ⟨res, hx⟩ := hx
  cases res with
  | error e =>
    refine ⟨.error e, fun p r hp h => ?_⟩
    obtain ⟨r', hrun, -⟩ := hx p r hp h
    exact ⟨r', exec_bind_error hrun _, fun _ ha => absurd ha (by simp)⟩
  | ok a =>
    obtain ⟨res, hf⟩ := hf a
    refine ⟨res, fun p r hp h => ?_⟩
    obtain ⟨r', hrun, hat⟩ := hx p r hp h
    obtain ⟨r'', hrun', hat'⟩ := hf p r' hp (hat a rfl)
    exact ⟨r'', (exec_bind_ok hrun _).trans hrun', hat'⟩

/-- A result that is known beforehand. -/
lemma ofResult_bind {y : Except ErrorCode α} (hf : ∀ a, y = .ok a → Uniform t (fun p => f p a) fs) :
    Uniform t (fun p => Machine.ofResult y >>= f p) fs := by
  cases y with
  | error e =>
    refine ⟨.error e, fun p r _ _ => ⟨r, ?_, fun _ ha => absurd ha (by simp)⟩⟩
    exact exec_bind_error (exec_ofResult _ _) _
  | ok a =>
    obtain ⟨res, hf⟩ := hf a rfl
    refine ⟨res, fun p r hp h => ?_⟩
    obtain ⟨r', hrun, hat⟩ := hf p r hp h
    exact ⟨r', (exec_bind_ok (exec_ofResult _ _) _).trans hrun, hat⟩

/-- A check of what is known beforehand. -/
lemma require_bind {q : Prop} [Decidable q] {e : ErrorCode} {f : Place → Unit → Reading β}
    (hf : q → Uniform t (fun p => f p ()) fs) : Uniform t (fun p => require q e >>= f p) fs := by
  by_cases hq : q
  · obtain ⟨res, hf⟩ := hf hq
    refine ⟨res, fun p r hp h => ?_⟩
    obtain ⟨r', hrun, hat⟩ := hf p r hp h
    exact ⟨r', (exec_bind_ok (exec_require_of hq e r) _).trans hrun, hat⟩
  · refine ⟨.error e, fun p r _ _ => ⟨r, ?_, fun _ ha => absurd ha (by simp)⟩⟩
    exact exec_bind_error (exec_require_of_not hq e r) _

lemma skipValue (t : Tree) : Uniform t (fun _ => Tlv.skipValue t.head) t.inner := by
  refine ⟨.ok (), fun p r _ h => ?_⟩
  have hat : p.At (t.inner ++ []) r := by rwa [List.append_nil]
  obtain ⟨r', hrun, hat⟩ := hat.skipValue
  exact ⟨r', hrun, fun _ _ => hat⟩

lemma sliceFrom (t : Tree) : Uniform t (fun p => Tlv.sliceFrom (p.start t)) [] :=
  ⟨.ok t.octets, fun _ r hp h => ⟨r, h.sliceFrom hp, fun _ _ => h⟩⟩

/-- Members, each taken in a way that does not depend on where they are, are taken so together. -/
lemma exists_eachMemberFrom
    (hstep : ∀ (u : Tree) (acc : β), Uniform u (fun p => step (p.start u) u.head acc) u.inner)
    (kind : ContainerKind) : ∀ (ms : Members) (acc : β), ∃ res : Except ErrorCode β,
      ∀ (p : Place) (r : TlvReader) (rounds : ℕ), ms.octets.length < rounds →
        p.At [⟨kind, ms⟩] r →
        ∃ r', exec (eachMemberFrom step rounds acc) r = (res, r') ∧ ∀ a, res = .ok a → p.At [] r'
  | .nil, acc => by
    refine ⟨.ok acc, fun p r rounds hrounds h => ?_⟩
    rcases rounds with _ | rounds
    · omega
    obtain ⟨r', hnext, hat⟩ := h.next_end
    have hposition : exec position r = (.ok r.pos, r) := rfl
    refine ⟨r', ?_, fun _ _ => hat⟩
    rw [eachMemberFrom, exec_bind_ok hposition, exec_bind_ok hnext]
    simp only [if_pos]
    rfl
  | .cons u ms, acc => by
    obtain ⟨res, hfirst⟩ := hstep u acc
    have hrun : ∀ (p : Place) (r : TlvReader) (rounds : ℕ), p.At [⟨kind, .cons u ms⟩] r →
        ∃ r₁ r₂, exec (step ((p.under [⟨kind, ms⟩]).start u) u.head acc) r₁ = (res, r₂) ∧
          (∀ a, res = .ok a → p.At [⟨kind, ms⟩] r₂) ∧
          exec (eachMemberFrom step (rounds + 1) acc) r =
            exec (step ((p.under [⟨kind, ms⟩]).start u) u.head acc >>= eachMemberFrom step rounds) r₁ := by
      intro p r rounds h
      obtain ⟨r₁, hposition, hnext, hholds, hat, hout⟩ := h.member
      obtain ⟨r₂, hrun₂, hat₂⟩ := hfirst _ r₁ hholds hat
      refine ⟨r₁, r₂, hrun₂, fun a ha => hout r₂ (hat₂ a ha), ?_⟩
      rw [eachMemberFrom, exec_bind_ok hposition, exec_bind_ok hnext]
      simp only [if_neg u.head_ne_end]
    cases res with
    | error e =>
      refine ⟨.error e, fun p r rounds hrounds h => ?_⟩
      rcases rounds with _ | rounds
      · omega
      obtain ⟨r₁, r₂, hrun₂, -, hwhole⟩ := hrun p r rounds h
      exact ⟨r₂, hwhole.trans (exec_bind_error hrun₂ _), fun _ ha => absurd ha (by simp)⟩
    | ok acc' =>
      obtain ⟨res, hrest⟩ := exists_eachMemberFrom hstep kind ms acc'
      refine ⟨res, fun p r rounds hrounds h => ?_⟩
      rcases rounds with _ | rounds
      · omega
      obtain ⟨r₁, r₂, hrun₂, hat₂, hwhole⟩ := hrun p r rounds h
      have hshorter := Members.length_lt_of_cons hrounds
      obtain ⟨r₃, hrun₃, hat₃⟩ := hrest p r₂ rounds hshorter (hat₂ acc' rfl)
      exact ⟨r₃, (hwhole.trans (exec_bind_ok hrun₂ _)).trans hrun₃, hat₃⟩

/-- The loop of a decoder of a container. -/
lemma eachMember (hstep : ∀ (u : Tree) (acc : β), Uniform u (fun p => step (p.start u) u.head acc) u.inner)
    (kind : ContainerKind) (ms : Members) (init : β) :
    Uniform t (fun _ => Tlv.eachMember step init) [⟨kind, ms⟩] := by
  obtain ⟨res, hloop⟩ := exists_eachMemberFrom hstep kind ms init
  refine ⟨res, fun p r _ h => ?_⟩
  have hremaining := h.remaining_eq
  simp only [framesOctets, List.length_append] at hremaining
  unfold Tlv.eachMember
  rw [exec_get_bind]
  exact hloop p r _ (by omega) h

end Uniform

/-! ## What has been skipped over -/

lemma exists_openFrame {fs : List OpenFrame} {kinds : List ContainerKind}
    (h : fs.map (·.kind) = kind :: kinds) :
    ∃ left fs', fs = ⟨kind, left⟩ :: fs' ∧ fs'.map (·.kind) = kinds := by
  obtain ⟨⟨_, left⟩, fs', rfl, rfl, hrest⟩ := List.map_eq_cons_iff.mp h
  exact ⟨left, fs', rfl, hrest⟩

/-- What skipping went over is what was left of the containers it came out of. -/
lemma frames_of_skipTo {outer : List ContainerKind} {rounds : ℕ} :
    ∀ {r r' : TlvReader} {kinds : List ContainerKind} {bytes : List UInt8},
      exec (skipTo outer.length rounds) r = (.ok (), r') → r.Faces bytes → r.Within (kinds ++ outer) →
      ∃ fs rest, fs.map (·.kind) = kinds ∧ bytes = framesOctets fs ++ rest ∧
        LegalFrames outer.length fs ∧ r'.Faces rest ∧ r'.Within outer ∧ r'.buf = r.buf ∧
        r'.startedInside = r.startedInside := by
  induction rounds with
  | zero =>
    intro r r' kinds bytes hrun
    exact absurd (Prod.mk.inj hrun).1 (by simp)
  | succ rounds ih =>
    intro r r' kinds bytes hrun hfaces hwithin
    have hdepth := hwithin.depth_eq
    rw [List.length_append] at hdepth
    unfold skipTo at hrun
    rw [exec_get_bind] at hrun
    by_cases hinside : outer.length < r.depth
    · rw [if_pos hinside] at hrun
      obtain ⟨o, r₁, hnext, hskip⟩ := exec_bind_eq_ok.mp hrun
      cases o with
      | none => exact absurd (Prod.mk.inj hskip).1 (by simp)
      | some e =>
        obtain ⟨kind, kinds, rfl⟩ : ∃ kind kinds', kinds = kind :: kinds' := by
          cases kinds with
          | nil =>
            rw [List.length_nil] at hdepth
            omega
          | cons kind kinds => exact ⟨kind, kinds, rfl⟩
        obtain ⟨-, token, rest, rfl, hfits, rfl, -⟩ := token_of_yield hfaces hnext
        obtain ⟨stack', hmoves, hwithin'⟩ := hwithin.moves hfits
        have hbuf := token.buf_after r
        have hstarted := token.startedInside_after r
        cases hmoves with
        | @primitive tag value _ hallowed =>
          obtain ⟨fs, rest', hkinds, rfl, hlegal, hend⟩ := ih hskip hfaces.after hwithin'
          rw [hbuf, hstarted] at hend
          obtain ⟨left, fs, rfl, rfl⟩ := exists_openFrame hkinds
          refine ⟨⟨kind, .cons (.primitive tag value) left⟩ :: fs, rest', rfl, ?_, ?_, hend⟩
          · simp only [framesOctets, Members.octets, Tree.octets, Token.octets, List.append_assoc]
          · refine ⟨⟨hallowed, hlegal.1⟩, ?_, hlegal.2.2⟩
            have hroom := hlegal.2.1
            simp only [Members.depth, Tree.depth] at hroom ⊢
            omega
        | @opening tag inner _ hallowed hroom =>
          have hinner : ((Token.opening tag inner).after r).Within ((inner :: kind :: kinds) ++ outer) :=
            hwithin'
          obtain ⟨fs, rest', hkinds, rfl, hlegal, hend⟩ := ih hskip hfaces.after hinner
          rw [hbuf, hstarted] at hend
          obtain ⟨within, others, rfl, hothers⟩ := exists_openFrame hkinds
          obtain ⟨left, fs, rfl, rfl⟩ := exists_openFrame hothers
          obtain ⟨hwithinLegal, hdeep, hleft, hroom', hframes⟩ := hlegal
          refine ⟨⟨kind, .cons (.container tag inner within) left⟩ :: fs, rest', rfl, ?_, ?_, hend⟩
          · simp [framesOctets, Members.octets, Tree.octets, Token.octets]
          · refine ⟨⟨⟨hallowed, hwithinLegal⟩, hleft⟩, ?_, hframes⟩
            simp only [Members.depth, Tree.depth, List.length_cons] at hdeep hroom' ⊢
            omega
        | closing =>
          have hleave : (Token.closing.after r).Within (kinds ++ outer) := hwithin'
          obtain ⟨fs, rest', hkinds, rfl, hlegal, hend⟩ := ih hskip hfaces.after hleave
          rw [hbuf, hstarted] at hend
          refine ⟨⟨kind, .nil⟩ :: fs, rest', ?_, rfl, ⟨trivial, ?_, hlegal⟩, hend⟩
          · rw [List.map_cons, hkinds]
          · have hbound := hwithin.bounded
            rw [List.cons_append, List.length_cons, List.length_append, ← hkinds, List.length_map]
              at hbound
            simp only [Members.depth]
            omega
    · rw [if_neg hinside] at hrun
      obtain rfl : r = r' := (Prod.mk.inj hrun).2
      obtain rfl : kinds = [] := List.length_eq_zero_iff.mp (by omega)
      exact ⟨[], bytes, rfl, rfl, trivial, hfaces, hwithin, rfl, rfl⟩

/-- What has been read and skipped over is a legal tree. -/
lemma tree_of_skipValue {r r₁ r₂ : TlvReader} {e : Element} (hfaces : r.Faces bytes)
    (hwithin : r.Within stack) (hnext : exec nextElement r = (.ok (some e), r₁))
    (hend : e.value ≠ .endOfContainer) (hskip : exec (skipValue e) r₁ = (.ok (), r₂)) :
    ∃ (t : Tree) (rest : List UInt8), bytes = t.octets ++ rest ∧ t.head = e ∧ t.LegalIn stack.head? ∧
      (t.depth = 0 ∨ t.depth + stack.length ≤ maxDepth) ∧ r₂.Faces rest ∧ r₂.Within stack ∧
      r₂.buf = r.buf ∧ r₂.startedInside = r.startedInside := by
  obtain ⟨-, token, rest, rfl, hfits, rfl, rfl⟩ := token_of_yield hfaces hnext
  obtain ⟨stack', hmoves, hwithin'⟩ := hwithin.moves hfits
  have hbuf := token.buf_after r
  have hstarted := token.startedInside_after r
  cases hmoves with
  | @primitive tag value _ hallowed =>
    have hplain : value.value.container? = none := value.value_spec.2.1.container?_eq_none
    unfold skipValue at hskip
    rw [if_neg (by simp [Token.element, hplain])] at hskip
    obtain rfl : (Token.primitive tag value).after r = r₂ := (Prod.mk.inj hskip).2
    exact ⟨.primitive tag value, rest, rfl, rfl, hallowed, .inl rfl, hfaces.after, hwithin', hbuf, hstarted⟩
  | @opening tag kind _ hallowed hroom =>
    have hcontainer : (Token.opening tag kind).element.value.container?.isSome = true := rfl
    unfold skipValue skipContainer at hskip
    rw [if_pos hcontainer, exec_get_bind] at hskip
    obtain ⟨-, hskip⟩ := exec_require_bind_eq_ok.mp hskip
    rw [hwithin'.depth_eq, List.length_cons, Nat.add_sub_cancel] at hskip
    have hinner : ((Token.opening tag kind).after r).Within ([kind] ++ stack) := hwithin'
    obtain ⟨fs, rest', hkinds, rfl, hlegal, hend⟩ := frames_of_skipTo hskip hfaces.after hinner
    rw [hbuf, hstarted] at hend
    obtain ⟨members, fs, rfl, hnil⟩ := exists_openFrame hkinds
    obtain rfl := List.map_eq_nil_iff.mp hnil
    refine ⟨.container tag kind members, rest', ?_, rfl, ⟨hallowed, hlegal.1⟩, .inr ?_, hend⟩
    · simp [Tree.octets, Token.octets, framesOctets]
    · have hroom' := hlegal.2.1
      simp only [List.length_nil] at hroom'
      simp only [Tree.depth]
      omega
  | closing => exact absurd rfl hend

/-- The octets between two positions of a cursor. -/
lemma octets_of_sliceFrom {r r' : TlvReader} {bytes rest slice : List UInt8}
    (hfaces : r.Faces (bytes ++ rest)) (hfaces' : r'.Faces rest) (hbuf : r'.buf = r.buf)
    (h : exec (sliceFrom r.pos) r' = (.ok slice, r')) : slice = bytes := by
  obtain ⟨seen, hseen, hpos⟩ := hfaces
  obtain ⟨seen', hseen', hpos'⟩ := hfaces'
  obtain rfl : seen' = seen ++ bytes := by
    rw [hbuf, hseen, ← List.append_assoc] at hseen'
    exact (List.append_cancel_right hseen').symm
  unfold sliceFrom at h
  rw [exec_get_bind] at h
  obtain ⟨-, hcut⟩ := exec_require_bind_eq_ok.mp h
  rw [← Except.ok.inj (Prod.mk.inj hcut).1, hpos', hseen', hpos, List.take_left, List.drop_left]

/-- Reading the start of a container is a step into it. -/
lemma within_of_opening {r r' : TlvReader} {e : Element} (hfaces : r.Faces bytes)
    (hwithin : r.Within stack) (hnext : exec nextElement r = (.ok (some e), r'))
    (hkind : e.value.container? = some kind) : (∃ rest, r'.Faces rest) ∧ r'.Within (kind :: stack) := by
  obtain ⟨-, token, rest, rfl, hfits, rfl, rfl⟩ := token_of_yield hfaces hnext
  obtain ⟨stack', hmoves, hwithin'⟩ := hwithin.moves hfits
  cases hmoves with
  | @primitive tag value _ hallowed =>
    exact absurd (value.value_spec.2.1.container?_eq_none.symm.trans hkind) (by simp)
  | @opening tag inner _ hallowed hroom =>
    obtain rfl : inner = kind := Option.some.inj hkind
    exact ⟨⟨rest, hfaces.after⟩, hwithin'⟩
  | closing => exact absurd hkind (by simp [Token.element, Value.container?])

end MatterKit.Tlv
