import MatterKit.Tlv.Reader

/-!
# The grammar of an encoding

What a TLV encoding is, said without a reader: a tree of elements (`Tree`), each written with any tag
form and any width its octets fill, and its octets one after the other. A tree is legal (`Tree.LegalIn`)
when every tag may stand where it stands, and `Tree.depth` is how many of its containers are open at
once.

A reader goes through the octets from the front, and the containers it is inside are a stack, the
innermost first. What such a stack still asks of the octets is `Closes`: the rest of the members of each
container, and the octet that ends it. One token at a time (`Token`, `Token.Moves`) is enough to know
it: `closes_cons_iff`.
-/

namespace MatterKit.Tlv

open Lib

/-! ## Tags and values as they are written -/

/-- A tag as it stands in an encoding: one of the eight forms, in the octets that form takes. -/
structure WireTag where
  control : TagControl
  octets : List UInt8
  length_eq : octets.length = control.octets

namespace WireTag

/-- Where a tag of this form may stand: no context-specific tag outermost, no anonymous member of a
structure, no other member of an array. -/
def AllowedIn (tag : WireTag) : Option ContainerKind → Prop
  | none => tag.control ≠ .contextSpecific
  | some .struct => tag.control ≠ .anonymous
  | some .array => tag.control = .anonymous
  | some .list => True

/-- The octets of a control octet and a tag. -/
def head (tag : WireTag) (ty : ElementType) : List UInt8 :=
  (tag.control.bits <<< 5 ||| ty.bits) :: tag.octets

end WireTag

/-- The octets of a value of a primitive type, after the tag: as many as the type takes, or a length
field and that many octets, which are UTF-8 in a character string. -/
inductive PrimitiveBody : ElementType → List UInt8 → Prop
  | signedInt {w : Width} {body : List UInt8} (length_eq : body.length = w.octets) :
      PrimitiveBody (.signedInt w) body
  | unsignedInt {w : Width} {body : List UInt8} (length_eq : body.length = w.octets) :
      PrimitiveBody (.unsignedInt w) body
  | bool (v : Bool) : PrimitiveBody (.bool v) []
  | float {body : List UInt8} (length_eq : body.length = 4) : PrimitiveBody .float body
  | double {body : List UInt8} (length_eq : body.length = 8) : PrimitiveBody .double body
  | utf8 {w : Width} {field content : List UInt8} (length_eq : field.length = w.octets)
      (counts : ofLe field = content.length)
      (valid : ByteArray.IsValidUTF8 ⟨content.toArray⟩) :
      PrimitiveBody (.utf8 w) (field ++ content)
  | octets {w : Width} {field content : List UInt8} (length_eq : field.length = w.octets)
      (counts : ofLe field = content.length) : PrimitiveBody (.octets w) (field ++ content)
  | null : PrimitiveBody .null []

/-- A primitive value as it stands in an encoding. -/
structure Primitive where
  type : ElementType
  body : List UInt8
  legal : PrimitiveBody type body

/-- The octet that ends a container. -/
def endOctet : UInt8 := 0x18

/-! ## Trees -/

mutual

/-- An element: a primitive one, or a container with its members. -/
inductive Tree
  | primitive (tag : WireTag) (value : Primitive)
  | container (tag : WireTag) (kind : ContainerKind) (members : Members)

/-- The members of a container, in order. -/
inductive Members
  | nil
  | cons (first : Tree) (others : Members)

end

mutual

/-- The octets of an element, a container's up to the octet that ends it. -/
def Tree.octets : Tree → List UInt8
  | .primitive tag value => tag.head value.type ++ value.body
  | .container tag kind members => tag.head kind.elementType ++ (members.octets ++ [endOctet])

/-- The octets of the members of a container. -/
def Members.octets : Members → List UInt8
  | .nil => []
  | .cons first others => first.octets ++ others.octets

end

mutual

/-- How many elements an element is, each end of a container counted as one. -/
def Tree.count : Tree → ℕ
  | .primitive _ _ => 1
  | .container _ _ members => 1 + (members.count + 1)

/-- How many elements the members of a container are. -/
def Members.count : Members → ℕ
  | .nil => 0
  | .cons first others => first.count + others.count

end

mutual

/-- How many containers of an element are open at once, at most. -/
def Tree.depth : Tree → ℕ
  | .primitive _ _ => 0
  | .container _ _ members => members.depth + 1

/-- How many containers among the members are open at once, at most. -/
def Members.depth : Members → ℕ
  | .nil => 0
  | .cons first others => max first.depth others.depth

end

mutual

/-- Every tag in the element may stand where it stands. -/
def Tree.LegalIn : Tree → Option ContainerKind → Prop
  | .primitive tag _, place => tag.AllowedIn place
  | .container tag kind members, place => tag.AllowedIn place ∧ members.LegalIn kind

/-- Every tag among the members of a container of this kind may stand where it stands. -/
def Members.LegalIn : Members → ContainerKind → Prop
  | .nil, _ => True
  | .cons first others, kind => first.LegalIn (some kind) ∧ others.LegalIn kind

end

mutual

/-- Each element counted has an octet of its own. -/
lemma Tree.count_le_length : ∀ t : Tree, t.count ≤ t.octets.length
  | .primitive tag value => by
    simp only [Tree.count, Tree.octets, WireTag.head, List.cons_append, List.length_cons]
    omega
  | .container tag kind members => by
    have hmembers := members.count_le_length
    simp only [Tree.count, Tree.octets, WireTag.head, List.cons_append, List.length_cons,
      List.length_append, List.length_nil]
    omega

lemma Members.count_le_length : ∀ ms : Members, ms.count ≤ ms.octets.length
  | .nil => le_rfl
  | .cons first others => by
    have hfirst := first.count_le_length
    have hothers := others.count_le_length
    simp only [Members.count, Members.octets, List.length_append]
    omega

end

/-! ## Tokens -/

/-- What one call of the reader takes off the octets. -/
inductive Token
  | primitive (tag : WireTag) (value : Primitive)
  | opening (tag : WireTag) (kind : ContainerKind)
  | closing

/-- The octets of a token. -/
def Token.octets : Token → List UInt8
  | .primitive tag value => tag.head value.type ++ value.body
  | .opening tag kind => tag.head kind.elementType
  | .closing => [endOctet]

/-- A token may stand inside the open containers `stack`, and leaves those open that the last
argument says. -/
inductive Token.Moves : Token → List ContainerKind → List ContainerKind → Prop
  | primitive {tag : WireTag} {value : Primitive} {stack : List ContainerKind}
      (allowed : tag.AllowedIn stack.head?) : Moves (.primitive tag value) stack stack
  | opening {tag : WireTag} {kind : ContainerKind} {stack : List ContainerKind}
      (allowed : tag.AllowedIn stack.head?) (room : stack.length < maxDepth) :
      Moves (.opening tag kind) stack (kind :: stack)
  | closing {kind : ContainerKind} {stack : List ContainerKind} :
      Moves .closing (kind :: stack) stack

lemma Token.octets_ne_nil (t : Token) : t.octets ≠ [] := by
  cases t with
  | primitive tag value | opening tag kind => simp [octets, WireTag.head]
  | closing => simp [octets]

/-! ## What a stack of open containers asks for -/

/-- The octets close the open containers, innermost first: each has the rest of its members, legal
and not too deep where it stands, and its end; `n` elements in all, and nothing after them. -/
def Closes : List ContainerKind → List UInt8 → ℕ → Prop
  | [], bytes, n => bytes = [] ∧ n = 0
  | kind :: stack, bytes, n =>
    ∃ (ms : Members) (rest : List UInt8) (m : ℕ), bytes = ms.octets ++ endOctet :: rest ∧
      ms.LegalIn kind ∧ ms.depth + (stack.length + 1) ≤ maxDepth ∧ Closes stack rest m ∧
      n = ms.count + (1 + m)

section Closes

variable {kind : ContainerKind} {stack : List ContainerKind} {bytes rest : List UInt8} {m : ℕ}

lemma closes_nil_iff {n : ℕ} : Closes [] bytes n ↔ bytes = [] ∧ n = 0 := Iff.rfl

/-- A container may end. -/
lemma Closes.closing (hdepth : stack.length < maxDepth) (h : Closes stack rest m) :
    Closes (kind :: stack) (endOctet :: rest) (m + 1) := by
  refine ⟨.nil, rest, m, rfl, trivial, ?_, h, ?_⟩
  · simp only [Members.depth]
    omega
  · simp only [Members.count]
    omega

/-- A container may have one more primitive member. -/
lemma Closes.primitive {tag : WireTag} {value : Primitive} (hallowed : tag.AllowedIn (some kind))
    (h : Closes (kind :: stack) rest m) :
    Closes (kind :: stack) (tag.head value.type ++ value.body ++ rest) (m + 1) := by
  obtain ⟨ms, after, m', rfl, hlegal, hdepth, hstack, rfl⟩ := h
  refine ⟨.cons (.primitive tag value) ms, after, m', ?_, ⟨hallowed, hlegal⟩, ?_, hstack, ?_⟩
  · simp only [Members.octets, Tree.octets, List.append_assoc]
  · simp only [Members.depth, Tree.depth]
    omega
  · simp only [Members.count, Tree.count]
    omega

/-- A container may have one more container in it. -/
lemma Closes.opening {tag : WireTag} {inner : ContainerKind} (hallowed : tag.AllowedIn (some kind))
    (h : Closes (inner :: kind :: stack) rest m) :
    Closes (kind :: stack) (tag.head inner.elementType ++ rest) (m + 1) := by
  obtain ⟨ms, _, _, rfl, hlegal, hdepth, ⟨ms', after, m', rfl, hlegal', hdepth', hstack, rfl⟩, rfl⟩ := h
  refine ⟨.cons (.container tag inner ms) ms', after, m', ?_, ⟨⟨hallowed, hlegal⟩, hlegal'⟩, ?_,
    hstack, ?_⟩
  · simp [Members.octets, Tree.octets]
  · simp only [Members.depth, Tree.depth, List.length_cons] at hdepth ⊢
    omega
  · simp only [Members.count, Tree.count]
    omega

/-- What closes a stack of open containers starts with a token that may stand there, and what
follows closes the stack the token leaves. -/
lemma closes_cons_iff {n : ℕ} (hdepth : (kind :: stack).length ≤ maxDepth) :
    Closes (kind :: stack) bytes n ↔
      ∃ (t : Token) (stack' : List ContainerKind) (rest : List UInt8) (m : ℕ),
        t.Moves (kind :: stack) stack' ∧ bytes = t.octets ++ rest ∧ Closes stack' rest m ∧
          n = m + 1 := by
  constructor
  · rintro ⟨ms, rest, m, rfl, hlegal, hroom, hstack, rfl⟩
    cases ms with
    | nil =>
      refine ⟨.closing, stack, rest, m, .closing, rfl, hstack, ?_⟩
      simp only [Members.count]
      omega
    | cons first others =>
      obtain ⟨hfirst, hothers⟩ := hlegal
      simp only [Members.depth] at hroom
      cases first with
      | primitive tag value =>
        refine ⟨.primitive tag value, _, _, others.count + (1 + m), .primitive hfirst, ?_,
          ⟨others, rest, m, rfl, hothers, by omega, hstack, rfl⟩, ?_⟩
        · simp only [Members.octets, Tree.octets, Token.octets, List.append_assoc]
        · simp only [Members.count, Tree.count]
          omega
      | container tag inner members =>
        obtain ⟨hallowed, hmembers⟩ := hfirst
        simp only [Tree.depth] at hroom
        have hrest : Closes (kind :: stack) (others.octets ++ endOctet :: rest)
            (others.count + (1 + m)) :=
          ⟨others, rest, m, rfl, hothers, by omega, hstack, rfl⟩
        have hinner : (kind :: stack).length < maxDepth := by
          rw [List.length_cons]
          omega
        refine ⟨.opening tag inner, _, _, members.count + (1 + (others.count + (1 + m))),
          .opening hallowed hinner, ?_, ⟨members, _, _, rfl, hmembers, ?_, hrest, rfl⟩, ?_⟩
        · simp [Members.octets, Tree.octets, Token.octets]
        · rw [List.length_cons]
          omega
        · simp only [Members.count, Tree.count]
          omega
  · rintro ⟨t, stack', rest, m, hmoves, rfl, hrest, rfl⟩
    rw [List.length_cons] at hdepth
    cases hmoves with
    | primitive hallowed => exact hrest.primitive hallowed
    | opening hallowed => exact hrest.opening hallowed
    | closing => exact hrest.closing (by omega)

/-- A legal tree starts with a token that may stand outermost, and what follows closes what the token
leaves open; and so does nothing else. -/
lemma exists_tree_iff {n : ℕ} :
    (∃ t : Tree, t.octets = bytes ∧ t.LegalIn none ∧ t.depth ≤ maxDepth ∧ t.count = n) ↔
      ∃ (t : Token) (stack' : List ContainerKind) (rest : List UInt8) (m : ℕ),
        t.Moves [] stack' ∧ bytes = t.octets ++ rest ∧ Closes stack' rest m ∧ n = m + 1 := by
  constructor
  · rintro ⟨t, rfl, hlegal, hdepth, rfl⟩
    cases t with
    | primitive tag value =>
      refine ⟨.primitive tag value, [], [], 0, .primitive hlegal, ?_, ⟨rfl, rfl⟩, rfl⟩
      simp only [Tree.octets, Token.octets, List.append_nil]
    | container tag kind members =>
      refine ⟨.opening tag kind, [kind], members.octets ++ [endOctet], members.count + (1 + 0),
        .opening hlegal.1 (by decide), rfl, ⟨members, [], 0, rfl, hlegal.2, hdepth, ⟨rfl, rfl⟩, rfl⟩,
        ?_⟩
      simp only [Tree.count]
      omega
  · rintro ⟨t, stack', rest, m, hmoves, rfl, hrest, rfl⟩
    cases hmoves with
    | @primitive tag value _ hallowed =>
      obtain ⟨rfl, rfl⟩ := hrest
      refine ⟨.primitive tag value, ?_, hallowed, Nat.zero_le _, rfl⟩
      simp only [Tree.octets, Token.octets, List.append_nil]
    | @opening tag kind _ hallowed hroom =>
      obtain ⟨ms, after, m', rfl, hlegal, hdepth, ⟨rfl, rfl⟩, rfl⟩ := hrest
      refine ⟨.container tag kind ms, rfl, ⟨hallowed, hlegal⟩, hdepth, ?_⟩
      simp only [Tree.count]
      omega

end Closes

/-! ## One tree at most -/

lemma ContainerKind.elementType_ne_endOfContainer (kind : ContainerKind) :
    kind.elementType ≠ .endOfContainer := by
  cases kind <;> simp [ContainerKind.elementType]

lemma ContainerKind.elementType_inj {kind kind' : ContainerKind}
    (h : kind.elementType = kind'.elementType) : kind = kind' := by
  cases kind <;> cases kind' <;> simp_all [ContainerKind.elementType]

lemma PrimitiveBody.ne_elementType {ty : ElementType} {body : List UInt8} (h : PrimitiveBody ty body)
    (kind : ContainerKind) : ty ≠ kind.elementType := by
  cases h <;> cases kind <;> simp [ContainerKind.elementType]

lemma PrimitiveBody.ne_endOfContainer {ty : ElementType} {body : List UInt8}
    (h : PrimitiveBody ty body) : ty ≠ .endOfContainer := by
  cases h <;> simp

/-- A control octet and a tag say which tag and which type they are of, and where they end. -/
lemma WireTag.head_append_inj {f g : WireTag} {ty ty' : ElementType} {x y : List UInt8}
    (h : f.head ty ++ x = g.head ty' ++ y) : f = g ∧ ty = ty' ∧ x = y := by
  obtain ⟨hcontrol, hrest⟩ := List.cons.inj h
  obtain ⟨hty, hform⟩ := fromBits_or_bits f.control ty
  obtain ⟨hty', hform'⟩ := fromBits_or_bits g.control ty'
  rw [hcontrol] at hty hform
  have hsame : f.control = g.control := hform.symm.trans hform'
  have hlen : f.octets.length = g.octets.length := by rw [f.length_eq, g.length_eq, hsame]
  obtain ⟨hoctets, hxy⟩ := List.append_inj hrest hlen
  refine ⟨?_, Except.ok.inj (hty.symm.trans hty'), hxy⟩
  cases f
  cases g
  simp_all

/-- No element starts with the octet that ends a container. -/
lemma WireTag.head_ne_end {f : WireTag} {ty : ElementType} {x y : List UInt8}
    (hty : ty ≠ .endOfContainer) : f.head ty ++ x ≠ endOctet :: y := by
  intro h
  have hread := (fromBits_or_bits f.control ty).1
  rw [(List.cons.inj h).1] at hread
  exact hty (Except.ok.inj hread).symm

lemma Tree.octets_append_ne_end (t : Tree) (x y : List UInt8) : t.octets ++ x ≠ endOctet :: y := by
  cases t with
  | primitive f p =>
    rw [Tree.octets, List.append_assoc]
    exact WireTag.head_ne_end p.legal.ne_endOfContainer
  | container f kind ms =>
    rw [Tree.octets, List.append_assoc]
    exact WireTag.head_ne_end kind.elementType_ne_endOfContainer

/-- A string's length field says where the string ends. -/
lemma string_append_inj {w : Width} {field field' content content' x y : List UInt8}
    (hfield : field.length = w.octets) (hfield' : field'.length = w.octets)
    (hcounts : ofLe field = content.length) (hcounts' : ofLe field' = content'.length)
    (h : field ++ content ++ x = field' ++ content' ++ y) :
    field ++ content = field' ++ content' ∧ x = y := by
  rw [List.append_assoc, List.append_assoc] at h
  obtain ⟨rfl, hrest⟩ := List.append_inj h (hfield.trans hfield'.symm)
  obtain ⟨rfl, rfl⟩ := List.append_inj hrest (hcounts.symm.trans hcounts')
  exact ⟨rfl, rfl⟩

/-- A primitive value of a type says where it ends. -/
lemma PrimitiveBody.append_inj {ty : ElementType} {body body' x y : List UInt8}
    (h : PrimitiveBody ty body) (h' : PrimitiveBody ty body') (hxy : body ++ x = body' ++ y) :
    body = body' ∧ x = y := by
  cases h with
  | signedInt hlen =>
    cases h' with
    | signedInt hlen' => exact List.append_inj hxy (hlen.trans hlen'.symm)
  | unsignedInt hlen =>
    cases h' with
    | unsignedInt hlen' => exact List.append_inj hxy (hlen.trans hlen'.symm)
  | bool v =>
    cases h'
    exact ⟨rfl, hxy⟩
  | float hlen =>
    cases h' with
    | float hlen' => exact List.append_inj hxy (hlen.trans hlen'.symm)
  | double hlen =>
    cases h' with
    | double hlen' => exact List.append_inj hxy (hlen.trans hlen'.symm)
  | utf8 hfield hcounts hvalid =>
    cases h' with
    | utf8 hfield' hcounts' hvalid' => exact string_append_inj hfield hfield' hcounts hcounts' hxy
  | octets hfield hcounts =>
    cases h' with
    | octets hfield' hcounts' => exact string_append_inj hfield hfield' hcounts hcounts' hxy
  | null =>
    cases h'
    exact ⟨rfl, hxy⟩

mutual

/-- Octets start with one tree at most. -/
lemma Tree.octets_append_inj :
    ∀ (t u : Tree) {x y : List UInt8}, t.octets ++ x = u.octets ++ y → t = u ∧ x = y
  | .primitive f p, .primitive g q, x, y, h => by
    simp only [Tree.octets, List.append_assoc] at h
    obtain ⟨rfl, hty, hrest⟩ := WireTag.head_append_inj h
    obtain ⟨ty, body, legal⟩ := p
    obtain ⟨ty', body', legal'⟩ := q
    obtain rfl : ty = ty' := hty
    obtain ⟨hbody, rfl⟩ := legal.append_inj legal' hrest
    obtain rfl : body = body' := hbody
    exact ⟨rfl, rfl⟩
  | .primitive f p, .container g kind ns, x, y, h => by
    simp only [Tree.octets, List.append_assoc] at h
    exact absurd (WireTag.head_append_inj h).2.1 (p.legal.ne_elementType kind)
  | .container f kind ms, .primitive g q, x, y, h => by
    simp only [Tree.octets, List.append_assoc] at h
    exact absurd (WireTag.head_append_inj h).2.1.symm (q.legal.ne_elementType kind)
  | .container f kind ms, .container g kind' ns, x, y, h => by
    simp only [Tree.octets, List.append_assoc] at h
    obtain ⟨rfl, hkind, hrest⟩ := WireTag.head_append_inj h
    obtain rfl := ContainerKind.elementType_inj hkind
    obtain ⟨rfl, rfl⟩ := ms.octets_append_inj ns hrest
    exact ⟨rfl, rfl⟩

/-- The members of a container end where it ends. -/
lemma Members.octets_append_inj : ∀ (ms ns : Members) {x y : List UInt8},
    ms.octets ++ endOctet :: x = ns.octets ++ endOctet :: y → ms = ns ∧ x = y
  | .nil, .nil, x, y, h => ⟨rfl, (List.cons.inj h).2⟩
  | .nil, .cons u others, x, y, h => by
    simp only [Members.octets, List.append_assoc] at h
    exact absurd h.symm (u.octets_append_ne_end _ _)
  | .cons t others, .nil, x, y, h => by
    simp only [Members.octets, List.append_assoc] at h
    exact absurd h (t.octets_append_ne_end _ _)
  | .cons t others, .cons u others', x, y, h => by
    simp only [Members.octets, List.append_assoc] at h
    obtain ⟨rfl, hrest⟩ := t.octets_append_inj u h
    obtain ⟨rfl, rfl⟩ := others.octets_append_inj others' hrest
    exact ⟨rfl, rfl⟩

end

/-- Octets are those of one tree at most. -/
lemma Tree.octets_inj {t u : Tree} (h : t.octets = u.octets) : t = u := by
  have happend : t.octets ++ [] = u.octets ++ [] := by rw [h]
  exact (t.octets_append_inj u happend).1

end MatterKit.Tlv
