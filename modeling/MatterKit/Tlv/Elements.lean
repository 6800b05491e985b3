import MatterKit.Tlv.Validate
import MatterKit.Tlv.Raw
import MatterKit.Tlv.RoundTrip

/-!
# Trees and the elements they are read as

The reader yields elements one at a time and never sees a tree; a caller that checks an element by
reading over it (`raw_element`, `validate_canonical`) relies on the two saying the same.

* What a cursor yields is determined by where it stands (`Yields.split`, `ReadsAs.unique`).
* A tree that may stand where a cursor stands, and whose containers open no deeper than a cursor may go
  (`fitsDepth`), is read there as its elements (`Tree.yields`), and what is read is never deeper
  (`Yields.fitsDepth`).
* What is read whole, from the start of an encoding or as a fragment for a container, is a tree
  (`exists_tree_of_readsAs`).
-/

namespace MatterKit.Tlv

open Lib Machine TlvReader

/-! ## What a cursor yields is determined -/

/-- Of two readings from one cursor the longer goes on where the shorter ends. -/
lemma Yields.split {r r' r'' : TlvReader} {es fs : List Element} (h : Yields r es r')
    (h' : Yields r fs r'') (hle : es.length ≤ fs.length) :
    ∃ more, fs = es ++ more ∧ Yields r' more r'' := by
  induction h generalizing fs with
  | nil r => exact ⟨fs, rfl, h'⟩
  | @cons r r₁ r' e es first others ih =>
    cases h' with
    | nil => simp at hle
    | @cons _ r₂ _ f fs first' others' =>
      rw [first] at first'
      obtain ⟨hsome, rfl⟩ := Prod.mk.inj first'
      obtain rfl : e = f := Option.some.inj (Except.ok.inj hsome)
      obtain ⟨more, rfl, hmore⟩ := ih others' (by simpa using hle)
      exact ⟨more, rfl, hmore⟩

variable {r r' : TlvReader} {es : List Element} {bytes : List UInt8} {e : Element}

/-- Every element takes an octet at least. -/
lemma Yields.progress (h : Yields r es r') : r'.buf.length - r'.pos + es.length ≤ r.buf.length - r.pos := by
  induction h with
  | nil r => simp
  | cons first others ih =>
    have hstep := nextElement_progress first
    rw [List.length_cons]
    omega

/-- The cursor reads an encoding, or a fragment of one, to its end as `elements`. -/
def TlvReader.ReadsAs (r : TlvReader) (elements : List Element) : Prop :=
  ∃ r', Yields r elements r' ∧ r'.finish = .ok ()

/-- A cursor that finishes is at the end, closed and with something read. -/
lemma finish_eq_ok_iff : r.finish = .ok () ↔
      r.depth = r.baseDepth ∧ r.topLevelDone = true ∧ r.isEmpty = true := by
  simp [TlvReader.finish, bind_eq_ok, ensure_eq_ok]

/-- At the end nothing more is read. -/
lemma Yields.eq_nil_of_isEmpty (hempty : r.isEmpty = true) (h : Yields r es r') : es = [] ∧ r' = r := by
  cases h with
  | nil => exact ⟨rfl, rfl⟩
  | cons first others =>
    unfold nextElement at first
    rw [exec_get_bind, if_pos hempty, exec_pure] at first
    exact absurd (Except.ok.inj (Prod.mk.inj first).1) (by simp)

/-- What is read to the end is determined. -/
lemma TlvReader.ReadsAs.unique {es fs : List Element} (h : r.ReadsAs es) (h' : r.ReadsAs fs) : es = fs := by
  obtain ⟨r₁, hes, hfinish⟩ := h
  obtain ⟨r₂, hfs, hfinish'⟩ := h'
  rcases Nat.le_total es.length fs.length with hle | hle
  · obtain ⟨more, rfl, hmore⟩ := hes.split hfs hle
    rw [(hmore.eq_nil_of_isEmpty (finish_eq_ok_iff.mp hfinish).2.2).1, List.append_nil]
  · obtain ⟨more, rfl, hmore⟩ := hfs.split hes hle
    rw [(hmore.eq_nil_of_isEmpty (finish_eq_ok_iff.mp hfinish').2.2).1, List.append_nil]

/-! ## How deep elements go -/

/-- From a depth on, no element opens a container where the stack is full. -/
def fitsDepth : ℕ → List Element → Bool
  | _, [] => true
  | depth, e :: es =>
    match e.value with
    | .container _ => decide (depth < maxDepth) && fitsDepth (depth + 1) es
    | .endOfContainer => fitsDepth (depth - 1) es
    | _ => fitsDepth depth es

/-- The depth behind an element.
Source: `TlvReader::next_element`, what becomes of `self.depth`. -/
def depthAfter (depth : ℕ) (e : Element) : ℕ :=
  match e.value with
  | .container _ => depth + 1
  | .endOfContainer => depth - 1
  | _ => depth

/-- Whether an element may be read at a depth, as far as the stack goes. -/
def hasRoom (depth : ℕ) (e : Element) : Bool := !e.value.container?.isSome || decide (depth < maxDepth)

lemma fitsDepth_cons (depth : ℕ) (e : Element) (es : List Element) :
    fitsDepth depth (e :: es) = (hasRoom depth e && fitsDepth (depthAfter depth e) es) := by
  obtain ⟨tag, v⟩ := e
  cases v <;> simp [fitsDepth, hasRoom, depthAfter, Value.container?]

/-- What a plain value is not. -/
lemma Value.IsPlain.of_element {v : Value} (h : v.IsPlain) (tag : Tag) (depth : ℕ) :
    depthAfter depth ⟨tag, v⟩ = depth ∧ hasRoom depth ⟨tag, v⟩ = true := by
  cases v with
  | container kind | endOfContainer => exact h.elim
  | _ => exact ⟨rfl, rfl⟩

namespace TlvReader

lemma depth_mark (r : TlvReader) : r.mark.depth = r.depth := by
  unfold mark
  split <;> rfl

/-- Back where it started, a cursor notes that its element is complete. -/
lemma topLevelDone_mark {r : TlvReader} (h : r.depth = r.baseDepth) : r.mark.topLevelDone = true := by
  unfold mark
  rw [if_pos h]

end TlvReader

/-- A token moves the depth as its element says. -/
lemma Token.depth_after {t : Token} (hfits : t.FitsIn r) :
    (t.after r).depth = depthAfter r.depth t.element ∧ hasRoom r.depth t.element = true := by
  cases t with
  | primitive tag value =>
    obtain ⟨hdepth, hroom⟩ := value.value_spec.2.1.of_element tag.tag r.depth
    exact ⟨(depth_mark _).trans hdepth.symm, hroom⟩
  | opening tag kind => exact ⟨depth_mark _, decide_eq_true hfits.2⟩
  | closing => exact ⟨depth_mark _, rfl⟩

/-- What is read is a token that fits, and its element. -/
lemma token_of_yield (h : r.Faces bytes) (hrun : exec nextElement r = (.ok (some e), r')) :
    r.Open ∧ ∃ (t : Token) (rest : List UInt8), bytes = t.octets ++ rest ∧ t.FitsIn r ∧
      r' = t.after r ∧ e = t.element := by
  have hbytes : bytes ≠ [] := by
    rintro rfl
    rw [nextElement_none h] at hrun
    exact absurd (Except.ok.inj (Prod.mk.inj hrun).1) (by simp)
  obtain ⟨-, t, rest, rfl, hfits, rfl⟩ := token_of_nextElement h hbytes hrun
  obtain ⟨control, tail, hcons⟩ := List.exists_cons_of_ne_nil hbytes
  rw [hcons] at h
  obtain ⟨hopen, -⟩ := nextElement_cons_inv h hrun
  rw [← hcons] at h
  refine ⟨hopen, t, rest, rfl, hfits, rfl, ?_⟩
  rw [nextElement_of_token h hopen hfits] at hrun
  exact (Option.some.inj (Except.ok.inj (Prod.mk.inj hrun).1)).symm

/-- Every cursor stands in front of something, or behind the end. -/
lemma faces_of_yield (hrun : exec nextElement r = (.ok (some e), r')) : ∃ bytes, r.Faces bytes := by
  have hprogress := nextElement_progress hrun
  have hmore : r.pos < r.buf.length := by omega
  refine ⟨r.buf.drop r.pos, r.buf.take r.pos, (List.take_append_drop _ _).symm, ?_⟩
  rw [List.length_take, Nat.min_eq_left hmore.le]

/-- What a cursor has read was never deeper than its stack. -/
lemma Yields.fitsDepth (h : Yields r es r') : fitsDepth r.depth es = true := by
  induction h with
  | nil r => rfl
  | cons first others ih =>
    obtain ⟨bytes, hfaces⟩ := faces_of_yield first
    obtain ⟨-, t, rest, -, hfits, rfl, rfl⟩ := token_of_yield hfaces first
    obtain ⟨hdepth, hroom⟩ := Token.depth_after hfits
    rw [hdepth] at ih
    rw [fitsDepth_cons, hroom, ih]
    rfl

/-! ## The elements of a tree -/

mutual

/-- The elements a tree is read as. -/
def Tree.elements : Tree → List Element
  | .primitive tag value => [⟨tag.tag, value.value⟩]
  | .container tag kind members =>
    ⟨tag.tag, .container kind⟩ :: (members.elements ++ [⟨.anonymous, .endOfContainer⟩])

/-- The elements the members of a container are read as. -/
def Members.elements : Members → List Element
  | .nil => []
  | .cons first others => first.elements ++ others.elements

end

mutual

/-- Behind an element the depth is what it was before. -/
lemma Tree.fitsDepth_append_iff : ∀ (t : Tree) (depth : ℕ) (es : List Element),
    fitsDepth depth (t.elements ++ es) = true ↔
      (depth + t.depth ≤ maxDepth ∨ t.depth = 0) ∧ fitsDepth depth es = true
  | .primitive tag value, depth, es => by
    obtain ⟨hdepth, hroom⟩ := value.value_spec.2.1.of_element tag.tag depth
    rw [Tree.elements, List.singleton_append, fitsDepth_cons, hdepth, hroom]
    simp [Tree.depth]
  | .container tag kind members, depth, es => by
    have hopen : hasRoom depth ⟨tag.tag, .container kind⟩ = true ↔ depth < maxDepth := by
      simp [hasRoom, Value.container?]
    have hclose : hasRoom (depth + 1) ⟨.anonymous, .endOfContainer⟩ = true := rfl
    rw [Tree.elements, List.cons_append, List.append_assoc, fitsDepth_cons, Bool.and_eq_true, hopen,
      show depthAfter depth ⟨tag.tag, .container kind⟩ = depth + 1 from rfl,
      members.fitsDepth_append_iff, List.singleton_append, fitsDepth_cons, hclose, Bool.true_and,
      show depthAfter (depth + 1) ⟨.anonymous, .endOfContainer⟩ = depth from rfl, Tree.depth,
      ← and_assoc]
    exact and_congr_left fun _ => by omega

lemma Members.fitsDepth_append_iff : ∀ (ms : Members) (depth : ℕ) (es : List Element),
    fitsDepth depth (ms.elements ++ es) = true ↔
      (depth + ms.depth ≤ maxDepth ∨ ms.depth = 0) ∧ fitsDepth depth es = true
  | .nil, depth, es => by simp [Members.elements, Members.depth]
  | .cons first others, depth, es => by
    rw [Members.elements, List.append_assoc, first.fitsDepth_append_iff,
      others.fitsDepth_append_iff, Members.depth, ← and_assoc]
    exact and_congr_left fun _ => by omega

end

/-- A tree goes no deeper than its elements do. -/
lemma Tree.fitsDepth_iff (t : Tree) (depth : ℕ) :
    fitsDepth depth t.elements = true ↔ depth + t.depth ≤ maxDepth ∨ t.depth = 0 := by
  have h := t.fitsDepth_append_iff depth []
  rw [List.append_nil] at h
  exact h.trans (and_iff_left rfl)

lemma Members.fitsDepth_iff (ms : Members) (depth : ℕ) :
    fitsDepth depth ms.elements = true ↔ depth + ms.depth ≤ maxDepth ∨ ms.depth = 0 := by
  have h := ms.fitsDepth_append_iff depth []
  rw [List.append_nil] at h
  exact h.trans (and_iff_left rfl)

/-! ## A tree is read as its elements -/

/-- The second cursor stands where the first does, as far as the containers go. -/
structure TlvReader.Stays (r r' : TlvReader) : Prop where
  depth_eq : r'.depth = r.depth
  stack_eq : r'.stack.toList.take r.depth = r.stack.toList.take r.depth
  startedInside_eq : r'.startedInside = r.startedInside
  many_eq : r'.many = r.many

namespace TlvReader.Stays

variable {r r' r'' : TlvReader}

lemma refl (r : TlvReader) : r.Stays r := ⟨rfl, rfl, rfl, rfl⟩

lemma trans (h : r.Stays r') (h' : r'.Stays r'') : r.Stays r'' := by
  refine ⟨h'.depth_eq.trans h.depth_eq, ?_, h'.startedInside_eq.trans h.startedInside_eq,
    h'.many_eq.trans h.many_eq⟩
  have hstack := h'.stack_eq
  rw [h.depth_eq] at hstack
  exact hstack.trans h.stack_eq

lemma baseDepth_eq (h : r.Stays r') : r'.baseDepth = r.baseDepth := by
  unfold TlvReader.baseDepth
  rw [h.startedInside_eq]

lemma currentContainer_eq (h : r.Stays r') : r'.currentContainer = r.currentContainer := by
  unfold TlvReader.currentContainer
  rw [h.depth_eq]
  split_ifs with hdepth
  · rfl
  · have hlt : r.depth - 1 < r.depth := by omega
    have hat := congrArg (fun l => l[r.depth - 1]?) h.stack_eq
    simp only [List.getElem?_take_of_lt hlt, Vector.getElem?_toList] at hat
    exact hat

lemma advance (r : TlvReader) (n : ℕ) : r.Stays (r.advance n) := ⟨rfl, rfl, rfl, rfl⟩

lemma mark (r : TlvReader) : r.Stays r.mark := by
  unfold TlvReader.mark
  split
  · exact ⟨rfl, rfl, rfl, rfl⟩
  · exact refl r

/-- Out of a container that was entered the cursor stands where it did. -/
lemma leave_enter {kind : ContainerKind} (h : (r.enter kind).Stays r') : r.Stays r'.leave := by
  refine ⟨?_, ?_, h.startedInside_eq, h.many_eq⟩
  · show r'.depth - 1 = r.depth
    rw [h.depth_eq]
    exact Nat.add_sub_cancel _ _
  · have hstack : r'.stack.toList.take (r.depth + 1) =
        (r.stack.setIfInBounds r.depth kind).toList.take (r.depth + 1) := h.stack_eq
    have hcut := congrArg (List.take r.depth) hstack
    rw [List.take_take, List.take_take, Nat.min_eq_left (Nat.le_succ _),
      Vector.toList_setIfInBounds, List.take_set_of_le (Nat.le_refl _)] at hcut
    exact hcut

end TlvReader.Stays

/-- Inside a container, the innermost one is the one entered last. -/
lemma TlvReader.currentContainer_enter (hroom : r.depth < maxDepth) (kind : ContainerKind) :
    (r.enter kind).currentContainer = some kind := by
  show (if r.depth + 1 = 0 then none else (r.stack.setIfInBounds r.depth kind)[r.depth + 1 - 1]?) = _
  rw [if_neg (Nat.succ_ne_zero _), Nat.add_sub_cancel, Vector.getElem?_setIfInBounds_self]
  simp [hroom]

/-- Past where it started a cursor may always go on. -/
lemma open_of_lt (h : r.baseDepth < r.depth) : r.Open :=
  fun hdone => Nat.lt_irrefl _ (hdone.2.2 ▸ h)

/-- A cursor that has read the start of a container is inside it. -/
structure TlvReader.Entered (r : TlvReader) (kind : ContainerKind) (r' : TlvReader) : Prop where
  place_eq : r'.currentContainer = some kind
  depth_eq : r'.depth = r.depth + 1
  baseDepth_eq : r'.baseDepth = r.baseDepth
  out : ∀ r'', r'.Stays r'' → r.Stays r''.leave

lemma entered_opening (hbase : r.baseDepth ≤ r.depth) (hroom : r.depth < maxDepth) (tag : WireTag)
    (kind : ContainerKind) : r.Entered kind ((Token.opening tag kind).after r) := by
  -- no element is complete by going in
  have hentered : (Token.opening tag kind).after r =
      (r.advance (tag.head kind.elementType).length).enter kind := by
    apply if_neg
    show r.depth + 1 ≠ r.baseDepth
    omega
  rw [hentered]
  refine ⟨currentContainer_enter hroom kind, rfl, rfl, ?_⟩
  intro r'' hstays
  exact (Stays.advance r _).trans (Stays.leave_enter hstays)

mutual

/-- **A tree is read as its elements**, where it may stand and there is room for its containers; and
the cursor is behind it then, where it was. -/
lemma Tree.yields : ∀ (t : Tree) (r : TlvReader) (rest : List UInt8), r.Faces (t.octets ++ rest) →
    r.Open → r.baseDepth ≤ r.depth → t.LegalIn r.currentContainer → fitsDepth r.depth t.elements = true →
    ∃ r', Yields r t.elements r' ∧ r'.Faces rest ∧ r.Stays r' ∧
      (r.depth = r.baseDepth → r'.topLevelDone = true)
  | .primitive tag value, r, rest, hfaces, hopen, hbase, hlegal, hdepth => by
    have hfront : r.Faces ((Token.primitive tag value).octets ++ rest) := hfaces
    have hread := nextElement_of_token hfront hopen hlegal
    refine ⟨_, .cons hread (.nil _), hfront.after, (Stays.advance r _).trans (.mark _), ?_⟩
    intro hat
    exact topLevelDone_mark (r := r.advance _) hat
  | .container tag kind members, r, rest, hfaces, hopen, hbase, ⟨hallowed, hlegal⟩, hdepth => by
    rw [Tree.elements, fitsDepth_cons, Bool.and_eq_true] at hdepth
    obtain ⟨hroom, hinner⟩ := hdepth
    have hlt : r.depth < maxDepth := by simpa [hasRoom, Value.container?] using hroom
    obtain ⟨hmembers, -⟩ := (members.fitsDepth_append_iff _ _).mp hinner
    have hfront : r.Faces ((Token.opening tag kind).octets ++ (members.octets ++ endOctet :: rest)) := by
      simp only [Tree.octets, List.append_assoc, List.singleton_append] at hfaces
      exact hfaces
    have hread := nextElement_of_token hfront hopen ⟨hallowed, hlt⟩
    have hin := entered_opening hbase hlt tag kind
    have hbelow : r.baseDepth < r.depth + 1 := Nat.lt_succ_of_le hbase
    obtain ⟨r₂, hyields, hfaces₂, hstays⟩ := members.yields _ kind _ hfront.after
      (by rw [hin.depth_eq, hin.baseDepth_eq]; exact hbelow) hin.place_eq hlegal
      (by rw [hin.depth_eq]; exact (members.fitsDepth_iff _).mpr hmembers)
    have hclosing : Token.closing.FitsIn r₂ := by
      show r₂.baseDepth < r₂.depth
      rw [hstays.baseDepth_eq, hstays.depth_eq, hin.depth_eq, hin.baseDepth_eq]
      exact hbelow
    have hlast := nextElement_of_token (t := .closing) hfaces₂ (open_of_lt hclosing) hclosing
    have hfaces₃ : (Token.closing.after r₂).Faces rest := Faces.after (t := .closing) hfaces₂
    have hout := hin.out (r₂.advance 1) (hstays.trans (.advance r₂ 1))
    refine ⟨Token.closing.after r₂, .cons hread (hyields.append (.cons hlast (.nil _))), hfaces₃,
      hout.trans (.mark _), ?_⟩
    intro hat
    apply topLevelDone_mark
    rw [hout.depth_eq, hout.baseDepth_eq, hat]

/-- The members of a container are read as their elements. -/
lemma Members.yields : ∀ (ms : Members) (r : TlvReader) (kind : ContainerKind) (rest : List UInt8),
    r.Faces (ms.octets ++ rest) → r.baseDepth < r.depth → r.currentContainer = some kind →
    ms.LegalIn kind → fitsDepth r.depth ms.elements = true →
    ∃ r', Yields r ms.elements r' ∧ r'.Faces rest ∧ r.Stays r'
  | .nil, r, kind, rest, hfaces, hbase, hplace, hlegal, hdepth =>
    ⟨r, .nil r, hfaces, .refl r⟩
  | .cons first others, r, kind, rest, hfaces, hbase, hplace, ⟨hfirst, hothers⟩, hdepth => by
    rw [Members.octets, List.append_assoc] at hfaces
    rw [Members.elements, first.fitsDepth_append_iff] at hdepth
    obtain ⟨hin, hrest⟩ := hdepth
    obtain ⟨r₁, hyields₁, hfaces₁, hstays₁, -⟩ := first.yields r _ hfaces (open_of_lt hbase)
      hbase.le (by rw [hplace]; exact hfirst) ((first.fitsDepth_iff _).mpr hin)
    obtain ⟨r₂, hyields₂, hfaces₂, hstays₂⟩ := others.yields r₁ kind rest hfaces₁
      (by rw [hstays₁.baseDepth_eq, hstays₁.depth_eq]; exact hbase)
      (by rw [hstays₁.currentContainer_eq]; exact hplace) hothers
      (by rw [hstays₁.depth_eq]; exact hrest)
    exact ⟨r₂, hyields₁.append hyields₂, hfaces₂, hstays₁.trans hstays₂⟩

end

/-! ## What is read whole is a tree -/

/-- A token that fits moves the containers the cursor is within. -/
lemma TlvReader.Within.moves {stack : List ContainerKind} (h : r.Within stack) {t : Token}
    (hfits : t.FitsIn r) : ∃ stack', t.Moves stack stack' ∧ (t.after r).Within stack' := by
  cases t with
  | primitive tag value =>
    have hallowed : tag.AllowedIn r.currentContainer := hfits
    rw [h.currentContainer_eq] at hallowed
    exact ⟨stack, .primitive hallowed, (h.advance _).mark⟩
  | opening tag kind =>
    obtain ⟨hallowed, hroom⟩ := hfits
    rw [h.currentContainer_eq] at hallowed
    rw [h.depth_eq] at hroom
    exact ⟨kind :: stack, .opening hallowed hroom, ((h.advance _).enter hroom).mark⟩
  | closing =>
    have hinside : r.baseDepth < r.depth := hfits
    rw [h.depth_eq] at hinside
    cases stack with
    | nil => exact absurd hinside (by simp)
    | cons kind stack => exact ⟨stack, .closing, (h.advance 1).leave.mark⟩

lemma Token.startedInside_after (t : Token) (r : TlvReader) :
    (t.after r).startedInside = r.startedInside := by
  have hmark : ∀ r : TlvReader, r.mark.startedInside = r.startedInside := by
    intro r
    unfold TlvReader.mark
    split <;> rfl
  cases t with
  | primitive tag value | opening tag kind | closing => exact hmark _

/-- A fragment that is read to its end closes every container but the one it is for: with the octet
that ends that one behind it, it closes them all. -/
lemma closes_of_yields (h : Yields r es r') (hfinish : r'.finish = .ok ()) :
    ∀ {stack : List ContainerKind} {bytes : List UInt8},
    r.Within stack → r.startedInside = true → stack ≠ [] → r.Faces bytes →
    ∃ n, Closes stack (bytes ++ [endOctet]) n := by
  induction h with
  | nil r =>
    intro stack bytes hwithin hstarted hne hfaces
    obtain ⟨hdepth, -, hempty⟩ := finish_eq_ok_iff.mp hfinish
    obtain rfl := hfaces.isEmpty_eq.mp hempty
    rw [hwithin.depth_eq, TlvReader.baseDepth, if_pos hstarted] at hdepth
    obtain ⟨kind, rfl⟩ := List.length_eq_one_iff.mp hdepth
    exact ⟨1, Closes.closing (by decide) ⟨rfl, rfl⟩⟩
  | cons first others ih =>
    intro stack bytes hwithin hstarted hne hfaces
    obtain ⟨-, t, rest, rfl, hfits, rfl, rfl⟩ := token_of_yield hfaces first
    obtain ⟨stack', hmoves, hwithin'⟩ := hwithin.moves hfits
    have hne' : stack' ≠ [] := by
      rintro rfl
      cases hmoves with
      | primitive hallowed => exact hne rfl
      | closing =>
        have hinside : _ < _ := hfits
        rw [hwithin.depth_eq, TlvReader.baseDepth, if_pos hstarted] at hinside
        simp at hinside
    obtain ⟨n, hcloses⟩ := ih hfinish hwithin' ((t.startedInside_after _).trans hstarted) hne'
      hfaces.after
    obtain ⟨kind, outer, rfl⟩ := List.exists_cons_of_ne_nil hne
    refine ⟨n + 1, (closes_cons_iff hwithin.bounded).mpr ⟨t, stack', _, n, hmoves, ?_, hcloses, rfl⟩⟩
    rw [List.append_assoc]

/-- A tree by itself is read as its elements and nothing more. -/
lemma Tree.readsAs {t : Tree} (hfaces : r.Faces t.octets) (hopen : r.Open)
    (hbase : r.depth = r.baseDepth) (hlegal : t.LegalIn r.currentContainer)
    (hdepth : Tlv.fitsDepth r.depth t.elements = true) : r.ReadsAs t.elements := by
  have hfront : r.Faces (t.octets ++ []) := by rwa [List.append_nil]
  obtain ⟨r', hyields, hend, hstays, hdone⟩ := t.yields r [] hfront hopen hbase.ge hlegal hdepth
  refine ⟨r', hyields, finish_eq_ok_iff.mpr ⟨?_, hdone hbase, hend.isEmpty_eq.mpr rfl⟩⟩
  rw [hstays.depth_eq, hstays.baseDepth_eq, hbase]

/-- What is read to its end behind a complete element is nothing. -/
lemma Yields.eq_nil_of_done (hdone : ¬ r.Open) (h : Yields r es r') : es = [] ∧ r' = r := by
  cases h with
  | nil => exact ⟨rfl, rfl⟩
  | cons first others =>
    obtain ⟨bytes, hfaces⟩ := faces_of_yield first
    exact absurd (token_of_yield hfaces first).1 hdone

lemma within_newIn (bytes : List UInt8) (kind : ContainerKind) : (newIn bytes kind).Within [kind] := by
  refine ⟨rfl, ?_, by simp [maxDepth]⟩
  show (Vector.replicate maxDepth kind).toList.take 1 = [kind]
  simp [maxDepth]

/-- **A fragment that is read whole is one tree** that may stand in the container it is for. -/
lemma exists_tree_of_newIn {kind : ContainerKind} (h : (newIn bytes kind).ReadsAs es) :
    ∃ t : Tree, t.octets = bytes ∧ t.LegalIn (some kind) ∧ t.elements = es := by
  obtain ⟨r', hyields, hfinish⟩ := h
  have hfaces : (newIn bytes kind).Faces bytes := ⟨[], rfl, rfl⟩
  obtain ⟨n, ms, rest, m, hbytes, hlegal, hdepth, ⟨rfl, -⟩, -⟩ :=
    closes_of_yields hyields hfinish (within_newIn bytes kind) rfl (by simp) hfaces
  obtain rfl : bytes = ms.octets := List.append_cancel_right hbytes
  cases ms with
  | nil =>
    have hnothing := hyields.eq_nil_of_isEmpty (hfaces.isEmpty_eq.mpr rfl)
    rw [hnothing.2] at hfinish
    exact absurd (finish_eq_ok_iff.mp hfinish).2.1 (by simp [newIn, new])
  | cons t others =>
    have hroom : t.depth + 1 ≤ maxDepth := by
      simp only [Members.depth, List.length_nil] at hdepth
      omega
    obtain ⟨r₁, hfirst, hbehind, hstays, hdone⟩ := t.yields _ _ hfaces (by simp [Open, newIn, new])
      (Nat.le_refl _) hlegal.1 ((t.fitsDepth_iff _).mpr (.inl (by rw [Nat.add_comm]; exact hroom)))
    -- behind the first member the element is complete, so it was all that was read
    have hclosed : ¬ r₁.Open := by
      rw [not_not]
      refine ⟨hdone rfl, hstays.many_eq, ?_⟩
      rw [hstays.depth_eq, hstays.baseDepth_eq]
      rfl
    have hall : t.elements = es ∧ r' = r₁ := by
      rcases Nat.le_total t.elements.length es.length with hle | hle
      · obtain ⟨more, rfl, hmore⟩ := hfirst.split hyields hle
        obtain ⟨rfl, hr⟩ := hmore.eq_nil_of_done hclosed
        exact ⟨(List.append_nil _).symm, hr⟩
      · obtain ⟨more, hmore, hrest⟩ := hyields.split hfirst hle
        obtain ⟨rfl, hr⟩ := hrest.eq_nil_of_isEmpty (finish_eq_ok_iff.mp hfinish).2.2
        exact ⟨hmore.trans (List.append_nil _), hr.symm⟩
    obtain ⟨helements, rfl⟩ := hall
    have hothers := hbehind.isEmpty_eq.mp (finish_eq_ok_iff.mp hfinish).2.2
    refine ⟨t, ?_, hlegal.1, helements⟩
    rw [Members.octets, hothers, List.append_nil]

/-! ## The loop of `validate` -/

lemma validateFrom_cons (h : exec nextElement r = (.ok (some e), r')) (count : UInt64) :
    validateFrom r count = validateFrom r' (satAdd count 1) := by
  rw [validateFrom]
  split
  · simp_all
  · simp_all
  · simp_all

lemma validateFrom_end (h : r.finish = .ok ()) (count : UInt64) : validateFrom r count = .ok count := by
  have hend : exec nextElement r = (.ok none, r) := by
    unfold nextElement
    rw [exec_get_bind, if_pos (finish_eq_ok_iff.mp h).2.2, exec_pure]
  rw [validateFrom]
  split
  · simp_all
  · rename_i r' hrun
    obtain rfl : r = r' := (Prod.mk.inj (hend.symm.trans hrun)).2
    rw [h]
    rfl
  · simp_all

/-- Octets that are read to their end are accepted, and what is read is counted. -/
lemma validateFrom_of_yields (h : Yields r es r') (hfinish : r'.finish = .ok ()) (count : UInt64) :
    ∃ n, validateFrom r count = .ok n ∧ n.toNat = min (count.toNat + es.length) (2 ^ 64 - 1) := by
  induction h generalizing count with
  | nil r =>
    have hcount := count.toNat_lt
    refine ⟨count, validateFrom_end hfinish count, ?_⟩
    rw [List.length_nil, Nat.add_zero, Nat.min_eq_left (by omega)]
  | cons first others ih =>
    obtain ⟨n, hrun, hn⟩ := ih hfinish (satAdd count 1)
    refine ⟨n, (validateFrom_cons first count).trans hrun, ?_⟩
    rw [hn, min_satAdd_one, List.length_cons]

/-- Octets that are accepted are read to their end. -/
lemma readsAs_of_validateFrom {count n : UInt64} (h : validateFrom r count = .ok n) :
    ∃ es, r.ReadsAs es := by
  induction hlen : r.buf.length - r.pos using Nat.strong_induction_on generalizing r count with
  | _ len ih =>
  rw [validateFrom] at h
  split at h
  · exact absurd h (by simp)
  · rename_i r' hrun
    obtain ⟨_, hfinish, -⟩ := bind_eq_ok.mp h
    have hsame : r' = r := by
      by_cases hempty : r.isEmpty = true
      · unfold nextElement at hrun
        rw [exec_get_bind, if_pos hempty, exec_pure] at hrun
        exact (Prod.mk.inj hrun).2.symm
      · have hmore : r.pos < r.buf.length := by
          rw [TlvReader.isEmpty, decide_eq_true_iff] at hempty
          omega
        have hfaces : r.Faces r.remaining := by
          refine ⟨r.buf.take r.pos, (List.take_append_drop _ _).symm, ?_⟩
          rw [List.length_take, Nat.min_eq_left hmore.le]
        have hne : r.remaining ≠ [] := by
          rw [TlvReader.remaining, Ne, List.drop_eq_nil_iff]
          omega
        exact absurd (token_of_nextElement hfaces hne hrun).1 (by simp)
    subst hsame
    exact ⟨[], r', .nil r', hfinish⟩
  · rename_i e r' hrun
    have hprogress := nextElement_progress hrun
    obtain ⟨es, r'', hyields, hfinish⟩ := ih _ (by omega) h rfl
    exact ⟨e :: es, r'', .cons hrun hyields, hfinish⟩

/-- `validate` accepts exactly what is read to its end, and counts what is read. -/
lemma validate_eq_ok_iff_readsAs {buf : List UInt8} {n : UInt64} : validate buf = .ok n ↔
      ∃ es, (TlvReader.new buf).ReadsAs es ∧ n.toNat = min es.length (2 ^ 64 - 1) := by
  constructor
  · intro h
    obtain ⟨es, r', hyields, hfinish⟩ := readsAs_of_validateFrom h
    obtain ⟨m, hm, hcount⟩ := validateFrom_of_yields hyields hfinish 0
    obtain rfl : n = m := Except.ok.inj (h.symm.trans hm)
    refine ⟨es, ⟨r', hyields, hfinish⟩, ?_⟩
    rw [hcount, UInt64.toNat_zero, Nat.zero_add]
  · rintro ⟨es, ⟨r', hyields, hfinish⟩, hn⟩
    obtain ⟨m, hm, hcount⟩ := validateFrom_of_yields hyields hfinish 0
    rw [UInt64.toNat_zero, Nat.zero_add] at hcount
    obtain rfl : m = n := UInt64.toNat_inj.mp (hcount.trans hn.symm)
    exact hm

/-- **An encoding that is read whole is one tree** that may stand outermost. -/
lemma exists_tree_of_new (h : (new bytes).ReadsAs es) :
    ∃ t : Tree, t.octets = bytes ∧ t.LegalIn none ∧ t.depth ≤ maxDepth ∧ t.elements = es := by
  obtain ⟨r', hyields, hfinish⟩ := h
  obtain ⟨n, hn, -⟩ := validateFrom_of_yields hyields hfinish 0
  obtain ⟨m, ⟨t, hoctets, hlegal, hdepth, -⟩, -⟩ := (validate_eq_ok_iff_min bytes n).mp hn
  have hfaces : (new bytes).Faces t.octets := by
    rw [hoctets]
    exact faces_new bytes
  have htree : (new bytes).ReadsAs t.elements :=
    Tree.readsAs hfaces (by simp [Open, new]) rfl hlegal
      ((t.fitsDepth_iff _).mpr (.inl ((Nat.zero_add _).trans_le hdepth)))
  exact ⟨t, hoctets, hlegal, hdepth, htree.unique ⟨r', hyields, hfinish⟩⟩

/-! ## The check of an element carried whole -/

/-- Skipping over a container reads what is in it. -/
lemma yields_of_skipTo {target rounds : ℕ} (h : exec (skipTo target rounds) r = (.ok (), r')) :
    ∃ es, Yields r es r' := by
  induction rounds generalizing r with
  | zero => exact absurd (Prod.mk.inj h).1 (by simp)
  | succ rounds ih =>
    unfold skipTo at h
    rw [exec_get_bind] at h
    split_ifs at h
    · obtain ⟨o, r₁, hfirst, hrest⟩ := exec_bind_eq_ok.mp h
      cases o with
      | none => exact absurd (Prod.mk.inj hrest).1 (by simp)
      | some e =>
        obtain ⟨es, hyields⟩ := ih hrest
        exact ⟨e :: es, .cons hfirst hyields⟩
    · obtain rfl : r = r' := (Prod.mk.inj h).2
      exact ⟨[], .nil r⟩

lemma yields_of_skipValue (h : exec (skipValue e) r = (.ok (), r')) : ∃ es, Yields r es r' := by
  unfold skipValue at h
  split_ifs at h
  · unfold skipContainer at h
    rw [exec_get_bind] at h
    exact yields_of_skipTo (exec_require_bind_eq_ok.mp h).2
  · obtain rfl : r = r' := (Prod.mk.inj h).2
    exact ⟨[], .nil r⟩

/-- Octets that are checked to be one element are read to their end, that element first. -/
lemma readsAs_of_rawCheck {first : Element} (h : rawCheck r = .ok first) :
    ∃ es, r.ReadsAs (first :: es) := by
  unfold rawCheck at h
  obtain ⟨o, r₁, hfirst, hrest⟩ := exec_bind_eq_ok.mp (Prod.ext h rfl)
  cases o with
  | none => exact absurd (Prod.mk.inj hrest).1 (by simp)
  | some e =>
    obtain ⟨_, r₂, hskip, hrest⟩ := exec_bind_eq_ok.mp hrest
    rw [exec_get_bind] at hrest
    obtain ⟨_, r₃, hfinish, hpure⟩ := exec_bind_eq_ok.mp hrest
    rw [exec_ofResult] at hfinish
    obtain ⟨hdone, rfl⟩ := Prod.mk.inj hfinish
    rw [exec_pure] at hpure
    obtain rfl : e = first := Except.ok.inj (Prod.mk.inj hpure).1
    obtain ⟨es, hyields⟩ := yields_of_skipValue hskip
    exact ⟨es, r₂, .cons hfirst hyields, hdone⟩

end MatterKit.Tlv
