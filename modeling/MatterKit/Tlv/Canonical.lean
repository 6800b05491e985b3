import MatterKit.Tlv.Elements

/-!
# Encodings in canonical form

`validate_canonical` reads an encoding once and keeps, for each depth, the last tag seen there and
whether the level is a structure's. It accepts exactly the encodings that `validate` accepts in which
the members of every structure, at every depth, ascend by tag (`validateCanonical_eq_ok_iff`).

The two arrays are as long as the stack may be deep, and are never cleared as a whole; what is right
about them at any time is a list of frames, one for each open container, innermost first
(`Levels.Holds`).
-/

namespace MatterKit.Tlv

open Lib Machine TlvReader

/-! ## The order of tags -/

/-- Source: `tlv/types.rs`, `COMMON_PROFILE`. -/
def commonProfile : UInt16 := 0x0000

namespace Tag

/-- Source: `Tag::canonical_cmp`, `key`. -/
def key : Tag → ℕ ×ₗ ℕ ×ₗ ℕ ×ₗ ℕ
  | .anonymous => toLex (0, toLex (0, toLex (0, 0)))
  | .context n => toLex (1, toLex (0, toLex (0, n.toNat)))
  | .common n => toLex (2, toLex (commonProfile.toNat, toLex (0, n.toNat)))
  | .implicit n => toLex (3, toLex (0, toLex (0, n.toNat)))
  | .fullyQualified vendor profile number =>
    toLex (4, toLex (vendor.toNat, toLex (profile.toNat, number.toNat)))

/-- Source: `Tag::canonical_cmp`. -/
def canonicalCmp (tag other : Tag) : Ordering := compare tag.key other.key

lemma canonicalCmp_eq_lt_iff {tag other : Tag} : tag.canonicalCmp other = .lt ↔ tag.key < other.key :=
  compare_lt_iff_lt

lemma canonicalCmp_eq_gt_iff {tag other : Tag} : tag.canonicalCmp other = .gt ↔ other.key < tag.key :=
  compare_gt_iff_gt

end Tag

/-! ## The check -/

/-- What is kept for each depth: whether the level is a structure's, and the last tag seen there.
Source: `validate_canonical`, `is_struct` and `last`. -/
structure Levels where
  isStruct : Vector Bool maxDepth
  last : Vector (Option Tag) maxDepth

namespace Levels

/-- Source: `validate_canonical`, before the `while`. -/
def new : Levels := ⟨Vector.replicate maxDepth false, Vector.replicate maxDepth none⟩

/-- Whether a member may come next at a level: in a structure, only above the one before.
Source: `validate_canonical`, the condition of `bail!(TlvInvalidTag)`, negated. -/
def inOrder (levels : Levels) (level : ℕ) (tag : Tag) : Bool :=
  if level = 0 then true
  else match levels.isStruct[level - 1]?, levels.last[level - 1]? with
    | some true, some (some previous) => decide (tag.canonicalCmp previous = .gt)
    | _, _ => true

/-- Notes a member's tag for its level.
Source: `validate_canonical`, `*slot = Some(element.tag)`. -/
def note (levels : Levels) (level : ℕ) (tag : Tag) : Levels :=
  if level = 0 then levels
  else { levels with last := levels.last.setIfInBounds (level - 1) (some tag) }

/-- Notes what kind of container a level is, with no member yet.
Source: `validate_canonical`, `*slot = matches!(kind, ContainerKind::Structure)` and what follows. -/
def enter (levels : Levels) (level : ℕ) (kind : ContainerKind) : Levels :=
  { isStruct := levels.isStruct.setIfInBounds level (decide (kind = .struct))
    last := levels.last.setIfInBounds level none }

/-- What is kept after an element, with the reader's depth behind it.
Source: `validate_canonical`, the body of the `while`. -/
def step (levels : Levels) (depth : ℕ) (element : Element) : Except ErrorCode Levels :=
  match element.value with
  | .endOfContainer => pure { levels with last := levels.last.setIfInBounds depth none }
  | .container kind => do
    ensure (levels.inOrder (depth - 1) element.tag = true) .tlvInvalidTag
    pure ((levels.note (depth - 1) element.tag).enter (depth - 1) kind)
  | _ => do
    ensure (levels.inOrder depth element.tag = true) .tlvInvalidTag
    pure (levels.note depth element.tag)

end Levels

/-- The loop of `validate_canonical`, from a cursor, what is kept and the elements counted so far.
Source: `validate_canonical`, the `while`, `finish` and the result. -/
def validateCanonicalFrom (r : TlvReader) (levels : Levels) (count : UInt64) :
    Except ErrorCode UInt64 :=
  match _hrun : exec nextElement r with
  | (.error e, _) => .error e
  | (.ok none, r') => do
    r'.finish
    pure count
  | (.ok (some element), r') =>
    match levels.step r'.depth element with
    | .error e => .error e
    | .ok levels => validateCanonicalFrom r' levels (satAdd count 1)
termination_by r.buf.length - r.pos
decreasing_by exact nextElement_progress _hrun

/-- Source: `validate_canonical`. -/
def validateCanonical (buf : List UInt8) : Except ErrorCode UInt64 :=
  validateCanonicalFrom (.new buf) .new 0

/-! ## Canonical trees -/

/-- The tag of an element. -/
def Tree.tag : Tree → Tag
  | .primitive field _ | .container field _ _ => field.tag

/-- The tags of the members of a container. -/
def Members.tags : Members → List Tag
  | .nil => []
  | .cons first others => first.tag :: others.tags

/-- Strictly increasing tags. -/
def Increasing (tags : List Tag) : Prop := tags.Pairwise fun a b => a.canonicalCmp b = .lt

mutual

/-- In every structure of the element, at every depth, the member tags are strictly increasing. -/
def Tree.Canonical : Tree → Prop
  | .primitive _ _ => True
  | .container _ kind members => (kind = .struct → Increasing members.tags) ∧ members.Canonical

/-- In every structure of the members the member tags are strictly increasing. -/
def Members.Canonical : Members → Prop
  | .nil => True
  | .cons first others => first.Canonical ∧ others.Canonical

end

/-! ## Frames -/

/-- What is kept for an open container: whether it is a structure, and the last member's tag. -/
abbrev Frame := Bool × Option Tag

/-- Whether a member may come next in the innermost container. -/
def frameInOrder : List Frame → Tag → Bool
  | (true, some previous) :: _, tag => decide (tag.canonicalCmp previous = .gt)
  | _, _ => true

/-- The frames after a member of the innermost container. -/
def noted : List Frame → Tag → List Frame
  | (isStruct, _) :: outer, tag => (isStruct, some tag) :: outer
  | [], _ => []

/-- Whether an element may come next. -/
def allows (frames : List Frame) (e : Element) : Bool :=
  match e.value with
  | .endOfContainer => true
  | _ => frameInOrder frames e.tag

/-- The frames after an element. -/
def framesAfter (frames : List Frame) (e : Element) : List Frame :=
  match e.value with
  | .endOfContainer => frames.tail
  | .container kind => (decide (kind = .struct), none) :: noted frames e.tag
  | _ => noted frames e.tag

/-- Whether every member comes in order, from the frames of the open containers. -/
def orderly : List Frame → List Element → Bool
  | _, [] => true
  | frames, e :: es => allows frames e && orderly (framesAfter frames e) es

/-- What is kept is right for the open containers, innermost first. -/
def Levels.Holds (levels : Levels) (frames : List Frame) : Prop :=
  ∀ (i : ℕ) (frame : Frame), frames.reverse[i]? = some frame →
    levels.isStruct[i]? = some frame.1 ∧ levels.last[i]? = some frame.2

lemma length_noted (frames : List Frame) (tag : Tag) : (noted frames tag).length = frames.length := by
  cases frames <;> rfl

variable {outer : List Frame} {levels : Levels} {r : TlvReader} {tags : List Tag}
  {last : Option Tag}

/-- The frame of a container stands behind those of the containers around it. -/
lemma reverse_cons_getElem? {frame : Frame} {i : ℕ} {found : Frame}
    (h : (frame :: outer).reverse[i]? = some found) :
    (i < outer.length ∧ outer.reverse[i]? = some found) ∨ (i = outer.length ∧ frame = found) := by
  rw [List.reverse_cons] at h
  rcases Nat.lt_trichotomy i outer.length with hlt | heq | hgt
  · rw [List.getElem?_append_left (by rw [List.length_reverse]; exact hlt)] at h
    exact .inl ⟨hlt, h⟩
  · rw [heq, List.getElem?_append_right (by simp), List.length_reverse, Nat.sub_self] at h
    exact .inr ⟨heq, Option.some.inj h⟩
  · have hnone : (outer.reverse ++ [frame])[i]? = none := by
      rw [List.getElem?_eq_none_iff, List.length_append, List.length_reverse]
      exact hgt
    rw [hnone] at h
    cases h

namespace Levels

variable {levels : Levels} {frames outer : List Frame} {frame : Frame}

lemma holds_nil (levels : Levels) : levels.Holds [] := by
  intro i frame h
  simp at h

lemma Holds.innermost (h : levels.Holds (frame :: outer)) :
    levels.isStruct[outer.length]? = some frame.1 ∧ levels.last[outer.length]? = some frame.2 := by
  apply h
  rw [List.reverse_cons, List.getElem?_append_right (by simp), List.length_reverse, Nat.sub_self]
  rfl

lemma Holds.leave (h : levels.Holds (frame :: outer)) : levels.Holds outer := by
  intro i found hfound
  apply h
  have hlt : i < outer.reverse.length := (List.getElem?_eq_some_iff.mp hfound).1
  rw [List.reverse_cons, List.getElem?_append_left hlt, hfound]

/-- What is kept lets a member come next exactly when the frames do. -/
lemma Holds.inOrder_eq (h : levels.Holds frames) (tag : Tag) :
    levels.inOrder frames.length tag = frameInOrder frames tag := by
  cases frames with
  | nil => rfl
  | cons frame outer =>
    obtain ⟨hstruct, hlast⟩ := h.innermost
    obtain ⟨isStruct, last⟩ := frame
    unfold inOrder
    rw [if_neg (by simp), List.length_cons, Nat.add_sub_cancel, hstruct, hlast]
    cases isStruct <;> cases last <;> rfl

/-- A slot behind those of the open containers is free to be set. -/
lemma Holds.set_last (h : levels.Holds frames) {i : ℕ} (hi : frames.length ≤ i)
    (found : Option Tag) : Holds { levels with last := levels.last.setIfInBounds i found } frames := by
  intro j frame hframe
  have hlt : j < frames.length := by
    have := (List.getElem?_eq_some_iff.mp hframe).1
    rwa [List.length_reverse] at this
  obtain ⟨hstruct, hlast⟩ := h j frame hframe
  refine ⟨hstruct, ?_⟩
  rw [Vector.getElem?_setIfInBounds_ne (by omega)]
  exact hlast

lemma Holds.note (h : levels.Holds frames) (tag : Tag) :
    (levels.note frames.length tag).Holds (noted frames tag) := by
  cases frames with
  | nil => exact holds_nil _
  | cons frame outer =>
    have hslot := (List.getElem?_eq_some_iff (l := levels.last.toList)).mp (by
      rw [Vector.getElem?_toList]
      exact h.innermost.2)
    obtain ⟨hlt, -⟩ := hslot
    rw [Vector.length_toList] at hlt
    unfold Levels.note
    rw [if_neg (by simp), List.length_cons, Nat.add_sub_cancel]
    intro i found hfound
    rcases reverse_cons_getElem? hfound with ⟨hi, houter⟩ | ⟨rfl, rfl⟩
    · exact (h.leave.set_last (Nat.le_refl _) (some tag)) i found houter
    · refine ⟨h.innermost.1, ?_⟩
      rw [Vector.getElem?_setIfInBounds_self]
      simp [hlt]

lemma Holds.enter (h : levels.Holds frames) (hroom : frames.length < maxDepth) (kind : ContainerKind) :
    (levels.enter frames.length kind).Holds ((decide (kind = .struct), none) :: frames) := by
  intro i found hfound
  rcases reverse_cons_getElem? hfound with ⟨hi, houter⟩ | ⟨rfl, rfl⟩
  · obtain ⟨hstruct, hlast⟩ := (h.set_last (Nat.le_refl _) none) i found houter
    refine ⟨?_, hlast⟩
    show (levels.isStruct.setIfInBounds frames.length _)[i]? = _
    rw [Vector.getElem?_setIfInBounds_ne (by omega)]
    exact hstruct
  · refine ⟨?_, ?_⟩
    · show (levels.isStruct.setIfInBounds frames.length _)[frames.length]? = _
      rw [Vector.getElem?_setIfInBounds_self]
      simp [hroom]
    · show (levels.last.setIfInBounds frames.length _)[frames.length]? = _
      rw [Vector.getElem?_setIfInBounds_self]
      simp [hroom]

end Levels

/-- A plain element is one more member of the innermost container. -/
lemma Value.IsPlain.canonical {v : Value} (h : v.IsPlain) (tag : Tag) (levels : Levels) (depth : ℕ)
    (frames : List Frame) : levels.step depth ⟨tag, v⟩ = (do
        ensure (levels.inOrder depth tag = true) .tlvInvalidTag
        pure (levels.note depth tag)) ∧
      allows frames ⟨tag, v⟩ = frameInOrder frames tag ∧
      framesAfter frames ⟨tag, v⟩ = noted frames tag := by
  cases v with
  | container kind | endOfContainer => exact h.elim
  | _ => exact ⟨rfl, rfl, rfl⟩

/-- So is the start of a container, which opens a level of its own. -/
lemma canonical_container (tag : Tag) (kind : ContainerKind) (levels : Levels) (level : ℕ)
    (frames : List Frame) : levels.step (level + 1) ⟨tag, .container kind⟩ = (do
        ensure (levels.inOrder level tag = true) .tlvInvalidTag
        pure ((levels.note level tag).enter level kind)) ∧
      allows frames ⟨tag, .container kind⟩ = frameInOrder frames tag ∧
      framesAfter frames ⟨tag, .container kind⟩ =
        (decide (kind = .struct), none) :: noted frames tag :=
  ⟨rfl, rfl, rfl⟩

/-- The end of a container closes a level. -/
lemma canonical_end (levels : Levels) (depth : ℕ) (frames : List Frame) :
    levels.step depth ⟨.anonymous, .endOfContainer⟩ =
        .ok { levels with last := levels.last.setIfInBounds depth none } ∧
      allows frames ⟨.anonymous, .endOfContainer⟩ = true ∧
      framesAfter frames ⟨.anonymous, .endOfContainer⟩ = frames.tail :=
  ⟨rfl, rfl, rfl⟩

/-- One element of the loop: what is kept lets it pass exactly when the frames do, and is right for
the frames after it. -/
lemma Levels.Holds.step {r r' : TlvReader} {e : Element} {levels : Levels} {frames : List Frame}
    (h : levels.Holds frames) (hlen : frames.length = r.depth)
    (hrun : exec nextElement r = (.ok (some e), r')) : (framesAfter frames e).length = r'.depth ∧
      if allows frames e = true then
        ∃ levels', levels.step r'.depth e = .ok levels' ∧ levels'.Holds (framesAfter frames e)
      else levels.step r'.depth e = .error .tlvInvalidTag := by
  obtain ⟨bytes, hfaces⟩ := faces_of_yield hrun
  obtain ⟨-, t, rest, -, hfits, rfl, rfl⟩ := token_of_yield hfaces hrun
  obtain ⟨hdepth, -⟩ := Token.depth_after hfits
  cases t with
  | primitive tag value =>
    obtain ⟨hstep, hallows, hafter⟩ :=
      value.value_spec.2.1.canonical tag.tag levels r.depth frames
    have hsame : (Token.after r (.primitive tag value)).depth = r.depth := depth_mark _
    rw [show Token.element (.primitive tag value) = ⟨tag.tag, value.value⟩ from rfl, hsame, hallows,
      hafter, hstep, length_noted, ← hlen, h.inOrder_eq]
    refine ⟨rfl, ?_⟩
    split_ifs with hin
    · exact ⟨_, by rw [ensure_of hin]; rfl, h.note tag.tag⟩
    · rw [ensure, if_neg hin]
      rfl
  | opening tag kind =>
    have hroom : frames.length < maxDepth := by
      rw [hlen]
      exact hfits.2
    have hsame : (Token.after r (.opening tag kind)).depth = frames.length + 1 := by
      rw [hlen]
      exact depth_mark _
    have hnote := length_noted frames tag.tag
    have hdown := h.note tag.tag
    obtain ⟨hstep, hallows, hafter⟩ := canonical_container tag.tag kind levels frames.length frames
    rw [show Token.element (.opening tag kind) = ⟨tag.tag, .container kind⟩ from rfl, hsame, hallows,
      hafter, hstep, List.length_cons, hnote, h.inOrder_eq]
    refine ⟨rfl, ?_⟩
    split_ifs with hin
    · refine ⟨_, by rw [ensure_of hin]; rfl, ?_⟩
      have hentered := hdown.enter (by rw [hnote]; exact hroom) kind
      rw [hnote] at hentered
      exact hentered
    · rw [ensure, if_neg hin]
      rfl
  | closing =>
    have hsame : (Token.after r .closing).depth = frames.length - 1 := by
      rw [hlen]
      exact depth_mark _
    obtain ⟨hstep, hallows, hafter⟩ := canonical_end levels (frames.length - 1) frames
    rw [show Token.element .closing = ⟨.anonymous, .endOfContainer⟩ from rfl, hsame, hallows, hafter,
      hstep, if_pos rfl]
    refine ⟨List.length_tail, _, rfl, ?_⟩
    cases frames with
    | nil => exact Levels.holds_nil _
    | cons frame outer => exact h.leave.set_last (Nat.le_refl _) none

/-! ## The loop -/

lemma validateCanonicalFrom_cons {r r' : TlvReader} {e : Element} {levels levels' : Levels}
    (h : exec nextElement r = (.ok (some e), r')) (hstep : levels.step r'.depth e = .ok levels')
    (count : UInt64) :
    validateCanonicalFrom r levels count = validateCanonicalFrom r' levels' (satAdd count 1) := by
  rw [validateCanonicalFrom]
  split
  · simp_all
  · simp_all
  · simp_all

lemma validateCanonicalFrom_error {r r' : TlvReader} {e : Element} {error : ErrorCode}
    (h : exec nextElement r = (.ok (some e), r')) (hstep : levels.step r'.depth e = .error error)
    (count : UInt64) : validateCanonicalFrom r levels count = .error error := by
  rw [validateCanonicalFrom]
  split
  · simp_all
  · simp_all
  · simp_all

lemma validateCanonicalFrom_end (h : r.finish = .ok ()) (levels : Levels) (count : UInt64) :
    validateCanonicalFrom r levels count = .ok count := by
  have hend : exec nextElement r = (.ok none, r) := by
    unfold nextElement
    rw [exec_get_bind, if_pos (finish_eq_ok_iff.mp h).2.2, exec_pure]
  rw [validateCanonicalFrom]
  split
  · simp_all
  · rename_i r' hrun
    obtain rfl : r = r' := (Prod.mk.inj (hend.symm.trans hrun)).2
    rw [h]
    rfl
  · simp_all

/-- What the loop accepts `validate` accepts, with the same count. -/
lemma validateFrom_of_canonical {count n : UInt64}
    (h : validateCanonicalFrom r levels count = .ok n) : validateFrom r count = .ok n := by
  induction hlen : r.buf.length - r.pos using Nat.strong_induction_on generalizing r levels count with
  | _ len ih =>
  rw [validateCanonicalFrom] at h
  split at h
  · exact absurd h (by simp)
  · rename_i r' hrun
    rw [validateFrom]
    split
    · simp_all
    · simp_all
    · simp_all
  · rename_i e r' hrun
    have hprogress := nextElement_progress hrun
    split at h
    · exact absurd h (by simp)
    · rw [validateFrom_cons hrun]
      exact ih _ (by omega) h rfl

/-- Of what is read to the end the loop accepts what comes in order. -/
lemma validateCanonicalFrom_of_yields {r r' : TlvReader} {es : List Element} (h : Yields r es r')
    (hfinish : r'.finish = .ok ()) :
    ∀ {levels : Levels} {frames : List Frame}, levels.Holds frames → frames.length = r.depth →
      ∀ count, (∃ n, validateCanonicalFrom r levels count = .ok n) ↔ orderly frames es = true := by
  induction h with
  | nil r =>
    intro levels frames hholds hlen count
    exact ⟨fun _ => rfl, fun _ => ⟨count, validateCanonicalFrom_end hfinish levels count⟩⟩
  | cons first others ih =>
    intro levels frames hholds hlen count
    obtain ⟨hlen', hstep⟩ := hholds.step hlen first
    rw [orderly, Bool.and_eq_true]
    split_ifs at hstep with hallows
    · obtain ⟨levels', hlevels, hholds'⟩ := hstep
      rw [validateCanonicalFrom_cons first hlevels, ih hfinish hholds' hlen']
      exact ⟨fun h => ⟨hallows, h⟩, fun h => h.2⟩
    · rw [validateCanonicalFrom_error first hstep]
      constructor
      · rintro ⟨n, hn⟩
        cases hn
      · rintro ⟨h, -⟩
        exact absurd h hallows

/-! ## Order and canonical trees -/

instance : IsTrans Tag fun a b => a.canonicalCmp b = .lt := by
  refine ⟨fun a b c hab hbc => ?_⟩
  rw [Tag.canonicalCmp_eq_lt_iff] at *
  exact hab.trans hbc

/-- Tags that ascend from each to the next are strictly increasing. -/
lemma increasing_iff_isChain : Increasing tags ↔ tags.IsChain fun a b => a.canonicalCmp b = .lt :=
  List.isChain_iff_pairwise.symm

/-- In a structure a member may come next that is above the one before. -/
lemma frameInOrder_cons_iff {isStruct : Bool} {tag : Tag} :
    frameInOrder ((isStruct, last) :: outer) tag = true ↔
      (isStruct = true → ∀ previous ∈ last, previous.canonicalCmp tag = .lt) := by
  cases isStruct with
  | false => simp [frameInOrder]
  | true =>
    cases last with
    | none => simp [frameInOrder]
    | some previous =>
      simp only [frameInOrder, decide_eq_true_eq, Option.mem_some_iff, forall_eq', true_imp_iff]
      rw [Tag.canonicalCmp_eq_gt_iff, Tag.canonicalCmp_eq_lt_iff]

lemma isChain_toList_append_cons_iff {tag : Tag} :
    (last.toList ++ tag :: tags).IsChain (fun a b => a.canonicalCmp b = .lt) ↔
      (∀ previous ∈ last, previous.canonicalCmp tag = .lt) ∧
        (tag :: tags).IsChain fun a b => a.canonicalCmp b = .lt := by
  cases last with
  | none => simp
  | some previous => simp [List.isChain_cons_cons]

mutual

/-- The elements of a tree come in order exactly when the tree's tag does and the tree is
canonical. -/
lemma Tree.orderly_append_iff : ∀ (t : Tree) (frames : List Frame) (es : List Element),
    orderly frames (t.elements ++ es) = true ↔
      frameInOrder frames t.tag = true ∧ t.Canonical ∧ orderly (noted frames t.tag) es = true
  | .primitive field value, frames, es => by
    obtain ⟨-, hallows, hafter⟩ := value.value_spec.2.1.canonical field.tag .new 0 frames
    rw [Tree.elements, List.singleton_append, orderly, hallows, hafter, Bool.and_eq_true]
    simp only [Tree.Canonical, true_and, Tree.tag]
  | .container field kind members, frames, es => by
    obtain ⟨-, hallows, hafter⟩ := canonical_container field.tag kind .new 0 frames
    rw [Tree.elements, List.cons_append, List.append_assoc, orderly, hallows, hafter,
      Bool.and_eq_true, List.singleton_append, members.orderly_append_iff]
    simp only [Tree.Canonical, Tree.tag, decide_eq_true_eq, Option.toList_none, List.nil_append,
      increasing_iff_isChain, and_assoc]

/-- The elements of the members of a container come in order exactly when, in a structure, their
tags ascend from the last one on, and each member is canonical. -/
lemma Members.orderly_append_iff : ∀ (ms : Members) (isStruct : Bool) (last : Option Tag)
    (outer : List Frame) (es : List Element),
    orderly ((isStruct, last) :: outer) (ms.elements ++ ⟨.anonymous, .endOfContainer⟩ :: es) = true ↔
      (isStruct = true →
        (last.toList ++ ms.tags).IsChain fun a b => a.canonicalCmp b = .lt) ∧
        ms.Canonical ∧ orderly outer es = true
  | .nil, isStruct, last, outer, es => by
    obtain ⟨-, hallows, hafter⟩ := canonical_end .new 0 ((isStruct, last) :: outer)
    rw [Members.elements, List.nil_append, orderly, hallows, hafter, Bool.true_and, List.tail_cons]
    cases last <;> simp [Members.tags, Members.Canonical]
  | .cons first others, isStruct, last, outer, es => by
    rw [Members.elements, List.append_assoc, first.orderly_append_iff, frameInOrder_cons_iff, noted,
      others.orderly_append_iff, Members.tags, isChain_toList_append_cons_iff, Members.Canonical]
    simp only [Option.toList_some, List.singleton_append]
    tauto

end

/-- A tree's elements come in order from the start exactly when it is canonical. -/
lemma Tree.orderly_iff (t : Tree) : orderly [] t.elements = true ↔ t.Canonical := by
  have h := t.orderly_append_iff [] []
  rw [List.append_nil] at h
  rw [h]
  simp [frameInOrder, orderly]

/-- **`validate_canonical` accepts exactly the canonical encodings.** It returns a count exactly when
`validate` returns it and the octets are those of a tree in which the members of every structure, at
every depth, strictly increase by `canonical_cmp`, and so are distinct; the members of lists and
arrays are under no such condition. -/
theorem validateCanonical_eq_ok_iff (buf : List UInt8) (n : UInt64) : validateCanonical buf = .ok n ↔
      validate buf = .ok n ∧ ∀ t : Tree, t.octets = buf → t.Canonical := by
  constructor
  · intro h
    have hvalid : validate buf = .ok n := validateFrom_of_canonical h
    refine ⟨hvalid, ?_⟩
    rintro t rfl
    obtain ⟨es, hreads, -⟩ := validate_eq_ok_iff_readsAs.mp hvalid
    obtain ⟨t', hoctets, -, -, rfl⟩ := exists_tree_of_new hreads
    obtain rfl := Tree.octets_inj hoctets
    obtain ⟨r', hyields, hfinish⟩ := hreads
    exact t'.orderly_iff.mp
      ((validateCanonicalFrom_of_yields hyields hfinish (Levels.holds_nil _) rfl 0).mp ⟨n, h⟩)
  · rintro ⟨hvalid, hcanonical⟩
    obtain ⟨es, hreads, -⟩ := validate_eq_ok_iff_readsAs.mp hvalid
    obtain ⟨t, hoctets, -, -, rfl⟩ := exists_tree_of_new hreads
    obtain ⟨r', hyields, hfinish⟩ := hreads
    obtain ⟨m, hm⟩ := (validateCanonicalFrom_of_yields hyields hfinish
      (Levels.holds_nil .new) rfl 0).mpr (t.orderly_iff.mpr (hcanonical t hoctets))
    have hsame : validate buf = .ok m := validateFrom_of_canonical hm
    obtain rfl : n = m := Except.ok.inj (hvalid.symm.trans hsame)
    exact hm

end MatterKit.Tlv
