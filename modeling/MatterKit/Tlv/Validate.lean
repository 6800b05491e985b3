import MatterKit.Tlv.Grammar

/-!
# What the reader accepts

`TlvReader::validate` reads an encoding to its end and counts its elements. It accepts exactly the
grammar (`validate_eq_ok_iff`): the octets of one legal tree, at most `maxDepth` containers deep.

One call of `next_element` takes one token off the front (`token_of_nextElement`,
`nextElement_of_token`), whatever the token's tag form and widths are. The containers the cursor is
inside are then a stack that the token moves (`Inside.moves`), and the loop succeeds exactly when the
octets close that stack (`validateFrom_eq_ok_iff`).
-/

namespace MatterKit.Tlv

open Lib Machine TlvReader

/-! ## Tags and control octets of any form -/

lemma readLeU32_of_length (src : List UInt8) (h : src.length ≤ 4) :
    ∃ number, readLeU32 src = .ok number := by
  have hbound : ofLe src < 2 ^ 32 := by
    calc ofLe src < 256 ^ src.length := ofLe_lt src
      _ ≤ 256 ^ 4 := Nat.pow_le_pow_right (by decide) h
      _ = 2 ^ 32 := by norm_num
  have hword : (UInt64.ofNat (ofLe src)).toNat < 2 ^ 32 := by
    rw [UInt64.toNat_ofNat', Nat.mod_eq_of_lt (by omega)]
    exact hbound
  refine ⟨(UInt64.ofNat (ofLe src)).toUInt32, ?_⟩
  unfold readLeU32
  rw [readLeU64_eq (by omega), ok_bind, ensure_of hword, ok_bind, pure_eq_ok]

/-- The decoded tag has the form of its control octet. -/
def Tag.HasForm (tag : Tag) (control : TagControl) : Prop :=
  (tag.isAnonymous = true ↔ control = .anonymous) ∧
    (tag.isContext = true ↔ control = .contextSpecific)

variable {c control : UInt8} {body buf bytes rest : List UInt8} {field : WireTag} {r r' : TlvReader}
  {o : Option Element} {stack : List ContainerKind} {count n : UInt64}

/-- A tag field that is all there is read as a tag of its form. -/
lemma decode_of_le (h : (TagControl.fromBits c).octets ≤ buf.length) :
    ∃ tag, Tag.decode c buf = .ok (tag, (TagControl.fromBits c).octets) ∧
      tag.HasForm (TagControl.fromBits c) := by
  have hlen : (buf.take (TagControl.fromBits c).octets).length = (TagControl.fromBits c).octets := by
    rw [List.length_take, Nat.min_eq_left h]
  unfold Tag.decode
  simp only [ensure_of h, ok_bind]
  generalize hsrc : buf.take (TagControl.fromBits c).octets = src at hlen ⊢
  generalize TagControl.fromBits c = control at hlen ⊢
  have hshort : ∀ n, n ≤ 4 → src.length = n → ∃ number, readLeU32 src = .ok number := by
    intro n hn hsrc
    exact readLeU32_of_length src (by omega)
  obtain ⟨vendor, hvendor⟩ := readLeU32_of_length (src.take 2) (by simp)
  obtain ⟨profile, hprofile⟩ := readLeU32_of_length ((src.drop 2).take 2) (by simp)
  cases control with
  | anonymous => exact ⟨.anonymous, rfl, by simp [Tag.HasForm, Tag.isAnonymous, Tag.isContext]⟩
  | contextSpecific =>
    obtain ⟨b, src', rfl⟩ : ∃ b src', src = b :: src' := by
      cases src with
      | nil => simp [TagControl.octets] at hlen
      | cons b src' => exact ⟨b, src', rfl⟩
    exact ⟨.context b, rfl, by simp [Tag.HasForm, Tag.isAnonymous, Tag.isContext]⟩
  | commonProfile2 =>
    obtain ⟨number, hnumber⟩ := hshort 2 (by decide) hlen
    refine ⟨.common number, ?_, by simp [Tag.HasForm, Tag.isAnonymous, Tag.isContext]⟩
    simp [hnumber]
  | commonProfile4 =>
    obtain ⟨number, hnumber⟩ := hshort 4 (by decide) hlen
    refine ⟨.common number, ?_, by simp [Tag.HasForm, Tag.isAnonymous, Tag.isContext]⟩
    simp [hnumber]
  | implicitProfile2 =>
    obtain ⟨number, hnumber⟩ := hshort 2 (by decide) hlen
    refine ⟨.implicit number, ?_, by simp [Tag.HasForm, Tag.isAnonymous, Tag.isContext]⟩
    simp [hnumber]
  | implicitProfile4 =>
    obtain ⟨number, hnumber⟩ := hshort 4 (by decide) hlen
    refine ⟨.implicit number, ?_, by simp [Tag.HasForm, Tag.isAnonymous, Tag.isContext]⟩
    simp [hnumber]
  | fullyQualified6 | fullyQualified8 =>
    obtain ⟨number, hnumber⟩ := readLeU32_of_length (src.drop 4) (by
      rw [List.length_drop, hlen]
      decide)
    refine ⟨.fullyQualified vendor.toUInt16 profile.toUInt16 number, ?_,
      by simp [Tag.HasForm, Tag.isAnonymous, Tag.isContext]⟩
    simp [hvendor, hprofile, hnumber]

/-- A tag that is decoded was all there, and has the form of its control octet. -/
lemma decode_eq_ok {tag : Tag} {n : ℕ} (h : Tag.decode c buf = .ok (tag, n)) :
    n = (TagControl.fromBits c).octets ∧ n ≤ buf.length ∧ tag.HasForm (TagControl.fromBits c) := by
  have hle : (TagControl.fromBits c).octets ≤ buf.length := by
    unfold Tag.decode at h
    simp only [bind_eq_ok, ensure_eq_ok] at h
    obtain ⟨_, hle, -⟩ := h
    exact hle
  obtain ⟨tag', htag', hform⟩ := decode_of_le hle
  obtain ⟨rfl, rfl⟩ := ok_pair_inj h htag'
  exact ⟨rfl, hle, hform⟩

/-- A tag is decoded from its form and the octets the form takes, and from nothing else. -/
lemma decode_congr {c c' : UInt8} {buf buf' : List UInt8}
    (hc : TagControl.fromBits c = TagControl.fromBits c')
    (hbuf : (TagControl.fromBits c').octets ≤ buf.length)
    (hbuf' : (TagControl.fromBits c').octets ≤ buf'.length)
    (htake : buf.take (TagControl.fromBits c').octets = buf'.take (TagControl.fromBits c').octets) :
    Tag.decode c buf = Tag.decode c' buf' := by
  unfold Tag.decode
  simp only [hc, ensure_of hbuf, ensure_of hbuf', ok_bind, htake]

namespace WireTag

/-- The tag that a tag field says.
Source: `Tag::decode`. -/
def tag (field : WireTag) : Tag :=
  match Tag.decode (field.control.bits <<< 5) field.octets with
  | .ok (tag, _) => tag
  | .error _ => .anonymous

lemma fromBits_shift (control : TagControl) : TagControl.fromBits (control.bits <<< 5) = control := by
  cases control <;> rfl

lemma decode_octets (field : WireTag) :
    Tag.decode (field.control.bits <<< 5) field.octets = .ok (field.tag, field.control.octets) ∧
      field.tag.HasForm field.control := by
  have hshift := fromBits_shift field.control
  have hle : (TagControl.fromBits (field.control.bits <<< 5)).octets ≤ field.octets.length := by
    rw [hshift, field.length_eq]
  obtain ⟨tag, htag, hform⟩ := decode_of_le hle
  rw [hshift] at htag hform
  have hsame : field.tag = tag := by
    unfold WireTag.tag
    rw [htag]
  rw [hsame]
  exact ⟨htag, hform⟩

/-- A tag field is decoded as its tag, whatever follows it. -/
lemma decode_append (field : WireTag) {c : UInt8} (hc : TagControl.fromBits c = field.control)
    (rest : List UInt8) : Tag.decode c (field.octets ++ rest) = .ok (field.tag, field.control.octets) := by
  rw [← (decode_octets field).1]
  apply decode_congr
  · rw [hc, fromBits_shift]
  · rw [fromBits_shift, List.length_append, field.length_eq]
    exact Nat.le_add_right _ _
  · rw [fromBits_shift, field.length_eq]
  · rw [fromBits_shift, ← field.length_eq, List.take_left, List.take_length]

end WireTag

/-- Where a decoded tag may stand is where its form may. -/
lemma Tag.HasForm.allowedIn_iff {tag : Tag} (h : tag.HasForm field.control)
    (place : Option ContainerKind) : tag.allowedIn place = true ↔ field.AllowedIn place := by
  obtain ⟨hanonymous, hcontext⟩ := h
  rcases place with _ | _ | _ | _
  · rw [WireTag.AllowedIn, Tag.allowedIn, Ne, ← hcontext]
    simp
  · rw [WireTag.AllowedIn, Tag.allowedIn, Ne, ← hanonymous]
    simp
  · rw [WireTag.AllowedIn, Tag.allowedIn, ← hanonymous]
  · simp [WireTag.AllowedIn, Tag.allowedIn]

/-- A control octet is made of the element type and the tag form that are read from it. -/
lemma control_eq {ty : ElementType} (h : ElementType.fromBits c = .ok ty) :
    c = (TagControl.fromBits c).bits <<< 5 ||| ty.bits := by
  have hall : ∀ n < 256, (ElementType.fromBits (UInt8.ofNat n)).toOption.all (fun ty =>
      UInt8.ofNat n == (TagControl.fromBits (UInt8.ofNat n)).bits <<< 5 ||| ty.bits) = true := by
    decide +kernel
  have hc := hall c.toNat c.toNat_lt
  rw [UInt8.ofNat_toNat, h] at hc
  exact eq_of_beq hc

/-! ## Which octets a value can have come from -/

/-- Whenever the computation succeeds, what it took off the front satisfies `P`, and nothing else of
the cursor has changed. -/
def Consumes {α : Type} (x : Reading α) (P : List UInt8 → α → Prop) : Prop :=
  ∀ (r r' : TlvReader) (bytes : List UInt8) (a : α), r.Faces bytes → exec x r = (.ok a, r') →
    ∃ body rest, bytes = body ++ rest ∧ P body a ∧ r' = r.advance body.length

section Consumes

variable {α β : Type} {x : Reading α} {f : α → Reading β} {P : List UInt8 → α → Prop}
  {Q : α → List UInt8 → β → Prop} {R : List UInt8 → β → Prop}

lemma Consumes.bind (hx : Consumes x P) (hf : ∀ a, Consumes (f a) (Q a))
    (h : ∀ body₁ body₂ a b, P body₁ a → Q a body₂ b → R (body₁ ++ body₂) b) : Consumes (x >>= f) R := by
  intro r r' bytes b hfaces hrun
  obtain ⟨a, r₁, hfirst, hsecond⟩ := exec_bind_eq_ok.mp hrun
  obtain ⟨body₁, rest₁, rfl, hP, rfl⟩ := hx r r₁ bytes a hfaces hfirst
  obtain ⟨body₂, rest₂, rfl, hQ, rfl⟩ := hf a _ r' rest₁ b hfaces.advance hsecond
  refine ⟨body₁ ++ body₂, rest₂, ?_, h body₁ body₂ a b hP hQ, ?_⟩
  · rw [List.append_assoc]
  · rw [advance_add, List.length_append]

lemma Consumes.mono {P' : List UInt8 → α → Prop} (hx : Consumes x P)
    (h : ∀ body a, P body a → P' body a) : Consumes x P' := by
  intro r r' bytes a hfaces hrun
  obtain ⟨body, rest, hbytes, hP, hr'⟩ := hx r r' bytes a hfaces hrun
  exact ⟨body, rest, hbytes, h body a hP, hr'⟩

lemma consumes_pure (a : α) : Consumes (pure a) (fun body a' => body = [] ∧ a' = a) := by
  intro r r' bytes a' _ hrun
  rw [exec_pure, Prod.mk.injEq, Except.ok.injEq] at hrun
  obtain ⟨rfl, rfl⟩ := hrun
  exact ⟨[], bytes, rfl, ⟨rfl, rfl⟩, rfl⟩

lemma consumes_ofResult (y : Except ErrorCode α) :
    Consumes (ofResult y) (fun body a => body = [] ∧ y = .ok a) := by
  intro r r' bytes a _ hrun
  rw [exec_ofResult, Prod.mk.injEq] at hrun
  obtain ⟨hy, rfl⟩ := hrun
  exact ⟨[], bytes, rfl, ⟨rfl, hy⟩, rfl⟩

lemma consumes_require (p : Prop) [Decidable p] (e : ErrorCode) :
    Consumes (require p e) (fun body _ => body = [] ∧ p) := by
  intro r r' bytes u _ hrun
  obtain ⟨hp, rfl⟩ := exec_require_eq_ok.mp hrun
  exact ⟨[], bytes, rfl, ⟨rfl, hp⟩, rfl⟩

end Consumes

lemma consumes_take (n : ℕ) : Consumes (take n) (fun body b => b = body ∧ body.length = n) := by
  intro r r' bytes b hfaces hrun
  have hremaining := hfaces.remaining_eq
  have hlength := hfaces.length_eq
  unfold take at hrun
  rw [exec_get_bind] at hrun
  obtain ⟨hfits, hrun⟩ := exec_require_bind_eq_ok.mp hrun
  rw [exec_modify_bind, exec_pure, Prod.mk.injEq, Except.ok.injEq] at hrun
  obtain ⟨rfl, rfl⟩ := hrun
  have htaken : (bytes.take n).length = n := by
    rw [List.length_take, Nat.min_eq_left (by omega)]
  refine ⟨bytes.take n, bytes.drop n, (List.take_append_drop n bytes).symm, ⟨?_, htaken⟩, ?_⟩
  · rw [hremaining]
  · rw [htaken]

/-- A string is a length field and as many octets as it says. -/
lemma consumes_takeString (w : Width) :
    Consumes (takeString w) (fun body content => ∃ field, body = field ++ content ∧
      field.length = w.octets ∧ ofLe field = content.length) := by
  apply (consumes_take w.octets).bind
    (Q := fun field body content => ∃ len, readLeU64 field = .ok len ∧ content = body ∧
      body.length = len.toNat)
  · intro field
    apply (consumes_ofResult (readLeU64 field)).bind (fun len => consumes_take len.toNat)
    rintro _ body len content ⟨rfl, hlen⟩ ⟨rfl, hbody⟩
    exact ⟨len, hlen, rfl, hbody⟩
  · rintro _ _ field content ⟨rfl, hfield⟩ ⟨len, hlen, rfl, hcontent⟩
    have hshort : field.length ≤ 8 := by
      rw [hfield]
      exact w.octets_le
    rw [readLeU64_eq hshort, Except.ok.injEq] at hlen
    refine ⟨field, rfl, hfield, ?_⟩
    rw [hcontent, ← hlen, UInt64.toNat_ofNat', Nat.mod_eq_of_lt]
    calc ofLe field < 256 ^ field.length := ofLe_lt field
      _ ≤ 256 ^ 8 := Nat.pow_le_pow_right (by decide) hshort
      _ = 2 ^ 64 := by norm_num

/-- The types whose value is not a container's start or end. -/
def ElementType.IsPrimitive : ElementType → Prop
  | .struct | .array | .list | .endOfContainer => False
  | _ => True

/-- A primitive value that is read has come from a body of its type. -/
lemma consumes_primitive {ty : ElementType} (h : ty.IsPrimitive) :
    Consumes (readValue ty) (fun body _ => PrimitiveBody ty body) := by
  cases ty with
  | signedInt w =>
    apply (consumes_take w.octets).bind (Q := fun _ body _ => body = [])
    · intro b
      apply (consumes_ofResult _).bind (fun v => consumes_pure _)
      rintro _ _ _ _ ⟨rfl, -⟩ ⟨rfl, -⟩
      rfl
    · rintro body _ _ _ ⟨rfl, hlen⟩ rfl
      rw [List.append_nil]
      exact .signedInt hlen
  | unsignedInt w =>
    apply (consumes_take w.octets).bind (Q := fun _ body _ => body = [])
    · intro b
      apply (consumes_ofResult _).bind (fun v => consumes_pure _)
      rintro _ _ _ _ ⟨rfl, -⟩ ⟨rfl, -⟩
      rfl
    · rintro body _ _ _ ⟨rfl, hlen⟩ rfl
      rw [List.append_nil]
      exact .unsignedInt hlen
  | bool v =>
    apply (consumes_pure _).mono
    rintro _ _ ⟨rfl, -⟩
    exact .bool v
  | float =>
    apply (consumes_take 4).bind (Q := fun _ body _ => body = [])
    · intro b
      apply (consumes_ofResult _).bind (Q := fun _ body _ => body = [])
      · intro raw
        apply (consumes_require _ _).bind (fun _ => consumes_pure _)
        rintro _ _ _ _ ⟨rfl, -⟩ ⟨rfl, -⟩
        rfl
      · rintro _ _ _ _ ⟨rfl, -⟩ rfl
        rfl
    · rintro body _ _ _ ⟨rfl, hlen⟩ rfl
      rw [List.append_nil]
      exact .float hlen
  | double =>
    apply (consumes_take 8).bind (Q := fun _ body _ => body = [])
    · intro b
      apply (consumes_ofResult _).bind (fun v => consumes_pure _)
      rintro _ _ _ _ ⟨rfl, -⟩ ⟨rfl, -⟩
      rfl
    · rintro body _ _ _ ⟨rfl, hlen⟩ rfl
      rw [List.append_nil]
      exact .double hlen
  | utf8 w =>
    apply (consumes_takeString w).bind
      (Q := fun content body _ => body = [] ∧ ∃ s, fromUtf8 content = some s)
    · intro content
      apply (consumes_ofResult _).bind (fun v => consumes_pure _)
      rintro _ _ s _ ⟨rfl, hs⟩ ⟨rfl, -⟩
      exact ⟨rfl, s, okOr_eq_ok.mp hs⟩
    · rintro _ _ content _ ⟨field, rfl, hfield, hcounts⟩ ⟨rfl, s, hs⟩
      rw [List.append_nil]
      refine .utf8 hfield hcounts ?_
      by_contra hvalid
      rw [fromUtf8, String.fromUTF8?, dif_neg hvalid] at hs
      exact absurd hs (by simp)
  | octets w =>
    apply (consumes_takeString w).bind (fun content => consumes_pure _)
    rintro _ _ content _ ⟨field, rfl, hfield, hcounts⟩ ⟨rfl, -⟩
    rw [List.append_nil]
    exact .octets hfield hcounts
  | null =>
    apply (consumes_pure _).mono
    rintro _ _ ⟨rfl, -⟩
    exact .null
  | struct | array | list | endOfContainer => exact h.elim

/-! ## Every body is read -/

lemma reads_takeString_of {w : Width} {field content : List UInt8} (hfield : field.length = w.octets)
    (hcounts : ofLe field = content.length) : Reads (takeString w) (field ++ content) content := by
  have hshort : field.length ≤ 8 := by
    rw [hfield]
    exact w.octets_le
  have hlt : ofLe field < 2 ^ 64 := by
    calc ofLe field < 256 ^ field.length := ofLe_lt field
      _ ≤ 256 ^ 8 := Nat.pow_le_pow_right (by decide) hshort
      _ = 2 ^ 64 := by norm_num
  apply Reads.bind (reads_take hfield)
  have hread := reads_ofResult (readLeU64_eq hshort)
  change Reads _ ([] ++ content) content
  refine hread.bind ?_
  rw [UInt64.toNat_ofNat', Nat.mod_eq_of_lt hlt, hcounts]
  exact reads_take rfl

lemma exists_readLeI64 (src : List UInt8) (h : src.length ≤ 8) : ∃ v, readLeI64 src = .ok v := by
  unfold readLeI64
  rw [readLeU64_eq h, ok_bind]
  simp only
  split
  · exact ⟨_, rfl⟩
  · exact ⟨_, rfl⟩

/-- A value that is neither a container's start nor the end of one. -/
def Value.IsPlain : Value → Prop
  | .container _ | .endOfContainer => False
  | _ => True

/-- How many octets a body of a type takes that is read as a value. -/
def bodyLength : ElementType → Value → ℕ
  | .signedInt w, _ | .unsignedInt w, _ => w.octets
  | .float, _ => 4
  | .double, _ => 8
  | .utf8 w, .utf8 s => w.octets + (asBytes s).length
  | .octets w, .octets v => w.octets + v.length
  | _, _ => 0

/-- Every body of a primitive type is read as some value, which says how long the body is. -/
lemma exists_reads {ty : ElementType} (h : PrimitiveBody ty body) :
    ∃ v, Reads (readValue ty) body v ∧ v.IsPlain ∧ body.length = bodyLength ty v := by
  cases h with
  | @signedInt w body hlen =>
    obtain ⟨v, hv⟩ := exists_readLeI64 body (by rw [hlen]; exact w.octets_le)
    refine ⟨.signed v, Reads.bind_pure (reads_take hlen) ?_, trivial, hlen⟩
    exact (reads_ofResult hv).bind_pure reads_pure
  | @unsignedInt w body hlen =>
    refine ⟨.unsigned (.ofNat (ofLe body)), Reads.bind_pure (reads_take hlen) ?_, trivial, hlen⟩
    exact (reads_ofResult (readLeU64_eq (by rw [hlen]; exact w.octets_le))).bind_pure reads_pure
  | bool v => exact ⟨_, reads_pure, trivial, rfl⟩
  | float hlen =>
    have hlt : (UInt64.ofNat (ofLe body)).toNat < 2 ^ 32 := by
      have hbody := ofLe_lt body
      rw [hlen] at hbody
      rw [UInt64.toNat_ofNat', Nat.mod_eq_of_lt (by omega)]
      omega
    refine ⟨.float (UInt64.ofNat (ofLe body)).toUInt32, Reads.bind_pure (reads_take hlen) ?_, trivial,
      hlen⟩
    apply (reads_ofResult (readLeU64_eq (by omega))).bind_pure
    exact (reads_require hlt).bind_pure reads_pure
  | double hlen =>
    refine ⟨.double (.ofNat (ofLe body)), Reads.bind_pure (reads_take hlen) ?_, trivial, hlen⟩
    exact (reads_ofResult (readLeU64_eq (by omega))).bind_pure reads_pure
  | @utf8 w field content hfield hcounts hvalid =>
    have hs := fromUtf8_of_valid hvalid
    have hread := congrArg (okOr · ErrorCode.tlvInvalidUtf8) hs
    refine ⟨.utf8 (String.fromUTF8 _ hvalid), (reads_takeString_of hfield hcounts).bind_pure ?_,
      trivial, ?_⟩
    · exact (reads_ofResult hread).bind_pure reads_pure
    · rw [bodyLength, asBytes_of_fromUtf8 hs, List.length_append, hfield]
  | @octets w field content hfield hcounts =>
    refine ⟨.octets content, (reads_takeString_of hfield hcounts).bind_pure reads_pure, trivial, ?_⟩
    rw [bodyLength, List.length_append, hfield]
  | null => exact ⟨_, reads_pure, trivial, rfl⟩

namespace Primitive

/-- The value that the octets of a primitive value are read as.
Source: `TlvReader::next_element`, `match element_type`. -/
def value (p : Primitive) : Value :=
  match (exec (readValue p.type) (.new p.body)).1 with
  | .ok v => v
  | .error _ => .null

/-- The octets of a primitive value are read as its value, which says how many they are. -/
lemma value_spec (p : Primitive) : Reads (readValue p.type) p.body p.value ∧ p.value.IsPlain ∧
    p.body.length = bodyLength p.type p.value := by
  obtain ⟨v, hv, hplain, hlength⟩ := exists_reads p.legal
  have hfront : (TlvReader.new p.body).Faces (p.body ++ []) := by
    rw [List.append_nil]
    exact faces_new p.body
  have hsame : p.value = v := by
    unfold value
    rw [hv _ [] hfront]
  rw [hsame]
  exact ⟨hv, hplain, hlength⟩

lemma reads (p : Primitive) : Reads (readValue p.type) p.body p.value := p.value_spec.1

end Primitive

/-! ## One token at a time -/

namespace Token

/-- The element a token is read as. -/
def element : Token → Element
  | .primitive tag value => ⟨tag.tag, value.value⟩
  | .opening tag kind => ⟨tag.tag, .container kind⟩
  | .closing => ⟨.anonymous, .endOfContainer⟩

/-- Where a cursor that reads the token is afterwards. -/
def after (r : TlvReader) : Token → TlvReader
  | .primitive tag value => (r.advance (tag.head value.type ++ value.body).length).mark
  | .opening tag kind => ((r.advance (tag.head kind.elementType).length).enter kind).mark
  | .closing => (r.advance 1).leave.mark

/-- The token may stand where the cursor is. -/
def FitsIn (r : TlvReader) : Token → Prop
  | .primitive tag _ => tag.AllowedIn r.currentContainer
  | .opening tag _ => tag.AllowedIn r.currentContainer ∧ r.depth < maxDepth
  | .closing => r.baseDepth < r.depth

end Token

/-- An element with a tag of any form is read when its value is. -/
lemma nextElement_wire {ty : ElementType} {v : Value} (hty : ty ≠ .endOfContainer)
    (h : r.Faces (field.head ty ++ rest)) (hopen : r.Open) (hallowed : field.AllowedIn r.currentContainer)
    (hvalue : exec (readValue ty) (r.advance (field.head ty).length) = (.ok v, r')) :
    exec nextElement r = (.ok (some ⟨field.tag, v⟩), r'.mark) := by
  obtain ⟨hread, hform⟩ := fromBits_or_bits field.control ty
  have hfront : r.Faces ([field.control.bits <<< 5 ||| ty.bits] ++ (field.octets ++ rest)) := h
  have hafter : (r.advance 1).Faces (field.octets ++ rest) := hfront.advance
  have htag := field.decode_append hform rest
  have hthere : field.tag.allowedIn (r.advance (1 + field.control.octets)).currentContainer = true :=
    (field.decode_octets.2.allowedIn_iff _).mpr hallowed
  have hhead : (field.head ty).length = 1 + field.control.octets := by
    rw [WireTag.head, List.length_cons, field.length_eq, Nat.add_comm]
  rw [hhead] at hvalue
  rw [nextElement_control h hopen hread, if_neg hty]
  unfold taggedElement
  rw [exec_get_bind, hafter.remaining_eq, htag, exec_bind_ok (exec_ofResult _ _),
    exec_modify_bind, exec_get_bind, advance_add,
    exec_require_bind hthere, exec_bind_ok hvalue,
    exec_modify_bind, exec_pure]

lemma ContainerKind.readValue_elementType (kind : ContainerKind) :
    readValue kind.elementType = openContainer kind := by
  cases kind <;> rfl

lemma PrimitiveBody.isPrimitive {ty : ElementType} (h : PrimitiveBody ty body) : ty.IsPrimitive := by
  cases h <;> trivial

lemma ElementType.IsPrimitive.ne_endOfContainer {ty : ElementType} (h : ty.IsPrimitive) :
    ty ≠ .endOfContainer := by
  rintro rfl
  exact h

/-- A token that may stand where the cursor is is read as its element, and leads where it leads. -/
lemma nextElement_of_token {t : Token} (h : r.Faces (t.octets ++ rest)) (hopen : r.Open)
    (hfits : t.FitsIn r) : exec nextElement r = (.ok (some t.element), t.after r) := by
  cases t with
  | primitive tag value =>
    rw [Token.octets, List.append_assoc] at h
    have hvalue := value.reads _ rest h.advance
    rw [advance_add, ← List.length_append] at hvalue
    exact nextElement_wire value.legal.isPrimitive.ne_endOfContainer h hopen hfits hvalue
  | opening tag kind =>
    have hroom : (r.advance (tag.head kind.elementType).length).depth < maxDepth := hfits.2
    have hvalue : exec (readValue kind.elementType) (r.advance (tag.head kind.elementType).length) =
        (.ok (.container kind), (r.advance (tag.head kind.elementType).length).enter kind) := by
      rw [kind.readValue_elementType]
      unfold openContainer
      rw [exec_get_bind, exec_require_bind hroom, exec_modify_bind, exec_pure]
    have hty : kind.elementType ≠ .endOfContainer := by
      cases kind <;> simp [ContainerKind.elementType]
    exact nextElement_wire hty h hopen hfits.1 hvalue
  | closing => exact nextElement_end h hopen hfits

/-- An element type is primitive, opens a container or ends one. -/
lemma ElementType.cases_kind (ty : ElementType) :
    ty.IsPrimitive ∨ (∃ kind : ContainerKind, ty = kind.elementType) ∨ ty = .endOfContainer := by
  cases ty with
  | struct => exact .inr (.inl ⟨.struct, rfl⟩)
  | array => exact .inr (.inl ⟨.array, rfl⟩)
  | list => exact .inr (.inl ⟨.list, rfl⟩)
  | endOfContainer => exact .inr (.inr rfl)
  | _ => exact .inl trivial

/-- `nextElement` succeeds in front of a control octet only if the reader is open and the octet has
an element type. -/
lemma nextElement_cons_inv (h : r.Faces (control :: rest)) (hrun : exec nextElement r = (.ok o, r')) :
    r.Open ∧ ∃ ty, ElementType.fromBits control = .ok ty := by
  have hmore : ¬ r.isEmpty = true := by
    rw [h.isEmpty_eq]
    simp
  unfold nextElement at hrun
  rw [exec_get_bind, if_neg hmore] at hrun
  obtain ⟨hopen, hrun⟩ := exec_require_bind_eq_ok.mp hrun
  have htake : Reads (take 1) [control] [control] := reads_take rfl
  rw [exec_bind_ok (htake _ rest h)] at hrun
  obtain ⟨ty, _, hty, -⟩ := exec_bind_eq_ok.mp hrun
  rw [exec_ofResult, Prod.mk.injEq] at hty
  exact ⟨hopen, ty, hty.1⟩

/-- What is read as the end of a container is its token. -/
lemma token_of_end (hrun : exec (endElement control) (r.advance 1) = (.ok o, r')) :
    o.isSome = true ∧ control = endOctet ∧ r.baseDepth < r.depth ∧ r' = (r.advance 1).leave.mark := by
  unfold endElement at hrun
  obtain ⟨hcontrol, hrun⟩ := exec_require_bind_eq_ok.mp hrun
  rw [exec_get_bind] at hrun
  obtain ⟨hdepth, hrun⟩ := exec_require_bind_eq_ok.mp hrun
  obtain ⟨hbase, hrun⟩ := exec_require_bind_eq_ok.mp hrun
  rw [exec_modify_bind, exec_pure, Prod.mk.injEq, Except.ok.injEq] at hrun
  obtain ⟨rfl, rfl⟩ := hrun
  refine ⟨rfl, hcontrol, ?_, rfl⟩
  have hne : r.depth ≠ 0 := hdepth
  have hle : r.baseDepth ≤ r.depth - 1 := hbase
  omega

/-- What is read as an element with a tag has a tag of the form in its control octet, and a value
that is read after it. -/
lemma wire_of_tagged {ty : ElementType} (h : (r.advance 1).Faces rest)
    (hrun : exec (taggedElement control ty) (r.advance 1) = (.ok o, r')) :
    o.isSome = true ∧ ∃ (field : WireTag) (rest' : List UInt8) (v : Value) (r₁ : TlvReader),
      field.control = TagControl.fromBits control ∧ rest = field.octets ++ rest' ∧
        field.AllowedIn r.currentContainer ∧
        exec (readValue ty) (r.advance (1 + field.octets.length)) = (.ok v, r₁) ∧ r' = r₁.mark := by
  unfold taggedElement at hrun
  rw [exec_get_bind, h.remaining_eq] at hrun
  obtain ⟨⟨tag, n⟩, _, htag, hrun⟩ := exec_bind_eq_ok.mp hrun
  rw [exec_ofResult, Prod.mk.injEq] at htag
  obtain ⟨htag, rfl⟩ := htag
  obtain ⟨hn, hle, hform⟩ := decode_eq_ok htag
  have hlen : (rest.take n).length = n := by
    rw [List.length_take, Nat.min_eq_left hle]
  rw [exec_modify_bind, exec_get_bind] at hrun
  obtain ⟨hallowed, hrun⟩ := exec_require_bind_eq_ok.mp hrun
  obtain ⟨v, r₁, hvalue, hrun⟩ := exec_bind_eq_ok.mp hrun
  rw [exec_modify_bind, exec_pure, Prod.mk.injEq, Except.ok.injEq] at hrun
  obtain ⟨rfl, rfl⟩ := hrun
  let field : WireTag := ⟨TagControl.fromBits control, rest.take n, by rw [hlen, hn]⟩
  refine ⟨rfl, field, rest.drop n, v, r₁, rfl, (List.take_append_drop n rest).symm, ?_, ?_, rfl⟩
  · exact (Tag.HasForm.allowedIn_iff (show tag.HasForm field.control from hform) _).mp hallowed
  · show exec (readValue ty) (r.advance (1 + (rest.take n).length)) = _
    rw [hlen, ← advance_add]
    exact hvalue

/-- What is read in front of octets is an element, and a token that may stand where the cursor
is. -/
lemma token_of_nextElement (h : r.Faces bytes) (hbytes : bytes ≠ [])
    (hrun : exec nextElement r = (.ok o, r')) :
    o.isSome = true ∧ ∃ (t : Token) (rest : List UInt8), bytes = t.octets ++ rest ∧ t.FitsIn r ∧
      r' = t.after r := by
  obtain ⟨control, rest, rfl⟩ := List.exists_cons_of_ne_nil hbytes
  obtain ⟨hopen, ty, hty⟩ := nextElement_cons_inv h hrun
  have hfront : r.Faces ([control] ++ rest) := h
  have hafter : (r.advance 1).Faces rest := hfront.advance
  rw [nextElement_control h hopen hty] at hrun
  split at hrun
  · obtain ⟨hsome, rfl, hinside, rfl⟩ := token_of_end hrun
    exact ⟨hsome, .closing, rest, rfl, hinside, rfl⟩
  · rename_i hne
    obtain ⟨hsome, field, rest', v, r₁, hfield, rfl, hallowed, hvalue, rfl⟩ :=
      wire_of_tagged hafter hrun
    refine ⟨hsome, ?_⟩
    have hhead : control :: (field.octets ++ rest') = field.head ty ++ rest' := by
      rw [WireTag.head, hfield, ← control_eq hty]
      rfl
    have hlen : 1 + field.octets.length = (field.head ty).length := by
      rw [WireTag.head, List.length_cons, Nat.add_comm]
    rw [hhead] at h ⊢
    rw [hlen] at hvalue
    rcases ty.cases_kind with hprim | ⟨kind, rfl⟩ | rfl
    · obtain ⟨body, rest, rfl, hbody, rfl⟩ := consumes_primitive hprim _ _ _ _ h.advance hvalue
      refine ⟨.primitive field ⟨ty, body, hbody⟩, rest, ?_, hallowed, ?_⟩
      · rw [Token.octets, List.append_assoc]
      · rw [advance_add, ← List.length_append]
        rfl
    · rw [kind.readValue_elementType] at hvalue
      unfold openContainer at hvalue
      rw [exec_get_bind] at hvalue
      obtain ⟨hroom, hvalue⟩ := exec_require_bind_eq_ok.mp hvalue
      rw [exec_modify_bind, exec_pure, Prod.mk.injEq] at hvalue
      refine ⟨.opening field kind, rest', rfl, ⟨hallowed, hroom⟩, ?_⟩
      rw [← hvalue.2]
      rfl
    · exact absurd rfl hne

/-- A token that is read is taken off the front. -/
lemma TlvReader.Faces.after {t : Token} (h : r.Faces (t.octets ++ rest)) : (t.after r).Faces rest := by
  have hadvance := h.advance
  cases t with
  | primitive tag value => exact hadvance.mark
  | opening tag kind =>
    have hentered : ((r.advance (tag.head kind.elementType).length).enter kind).Faces rest :=
      hadvance
    exact hentered.mark
  | closing =>
    have hleft : (r.advance 1).leave.Faces rest := hadvance
    exact hleft.mark

/-- The octets stay, whatever is read of them. -/
lemma Token.buf_after (t : Token) (r : TlvReader) : (t.after r).buf = r.buf := by
  have hmark : ∀ r : TlvReader, r.mark.buf = r.buf := by
    intro r
    unfold TlvReader.mark
    split <;> rfl
  cases t with
  | primitive tag value | opening tag kind | closing => exact hmark _

/-- The cursor never goes back, and an element takes at least an octet. -/
lemma nextElement_progress {e : Element} (hrun : exec nextElement r = (.ok (some e), r')) :
    r'.buf.length - r'.pos < r.buf.length - r.pos := by
  have hmore : r.pos < r.buf.length := by
    by_contra hend
    have hempty : r.isEmpty = true := by
      rw [isEmpty, decide_eq_true_iff]
      omega
    unfold nextElement at hrun
    rw [exec_get_bind, if_pos hempty, exec_pure] at hrun
    exact absurd hrun (by simp)
  have hfaces : r.Faces r.remaining := by
    refine ⟨r.buf.take r.pos, (List.take_append_drop _ _).symm, ?_⟩
    rw [List.length_take, Nat.min_eq_left hmore.le]
  have hne : r.remaining ≠ [] := by
    rw [remaining, Ne, List.drop_eq_nil_iff]
    omega
  obtain ⟨-, t, rest, hbytes, -, rfl⟩ := token_of_nextElement hfaces hne hrun
  rw [hbytes] at hfaces
  have hlen := hfaces.length_eq
  have hlen' := hfaces.after.length_eq
  have hpos := List.length_pos_iff.mpr t.octets_ne_nil
  rw [t.buf_after, List.length_append] at *
  omega

/-! ## The whole encoding -/

/-- The loop of `validate`, from a cursor and the elements counted so far.
Source: `TlvReader::validate`, the `while`, `finish` and the result. -/
def validateFrom (r : TlvReader) (count : UInt64) : Except ErrorCode UInt64 :=
  match _hrun : exec nextElement r with
  | (.error e, _) => .error e
  | (.ok none, r') => do
    r'.finish
    pure count
  | (.ok (some _), r') => validateFrom r' (satAdd count 1)
termination_by r.buf.length - r.pos
decreasing_by exact nextElement_progress _hrun

/-- Source: `TlvReader::validate`. -/
def validate (buf : List UInt8) : Except ErrorCode UInt64 := validateFrom (.new buf) 0

/-- The cursor is inside the containers `stack`, the innermost first, wherever it started. -/
structure TlvReader.Within (r : TlvReader) (stack : List ContainerKind) : Prop where
  depth_eq : r.depth = stack.length
  open_eq : r.stack.toList.take stack.length = stack.reverse
  bounded : stack.length ≤ maxDepth

namespace TlvReader.Within

variable {r : TlvReader} {stack : List ContainerKind} {kind : ContainerKind}

lemma currentContainer_eq (h : r.Within stack) : r.currentContainer = stack.head? := by
  rw [currentContainer, h.depth_eq]
  cases stack with
  | nil => rfl
  | cons kind stack =>
    have hopen := h.open_eq
    rw [List.length_cons, List.reverse_cons] at hopen
    have hlast : (r.stack.toList.take (stack.length + 1))[stack.length]? = some kind := by
      rw [hopen, List.getElem?_append_right (by simp)]
      simp
    rw [List.getElem?_take_of_lt (Nat.lt_succ_self _)] at hlast
    rw [if_neg (by simp), List.length_cons, Nat.add_sub_cancel, List.head?_cons,
      ← Vector.getElem?_toList]
    exact hlast

lemma advance (h : r.Within stack) (n : ℕ) : (r.advance n).Within stack :=
  ⟨h.depth_eq, h.open_eq, h.bounded⟩

lemma mark (h : r.Within stack) : r.mark.Within stack := by
  unfold TlvReader.mark
  split
  · exact ⟨h.depth_eq, h.open_eq, h.bounded⟩
  · exact h

lemma enter (h : r.Within stack) (hroom : stack.length < maxDepth) :
    (r.enter kind).Within (kind :: stack) := by
  refine ⟨?_, ?_, hroom⟩
  · show r.depth + 1 = stack.length + 1
    rw [h.depth_eq]
  · show (r.stack.setIfInBounds r.depth kind).toList.take (stack.length + 1) = _
    have hlen : stack.length < r.stack.toList.length := by
      rw [Vector.length_toList]
      exact hroom
    rw [h.depth_eq, Vector.toList_setIfInBounds, List.take_set, List.take_succ_eq_append_getElem hlen,
      h.open_eq, List.reverse_cons, List.set_append_right _ _ (by simp)]
    simp

lemma leave (h : r.Within (kind :: stack)) : r.leave.Within stack := by
  have hopen := h.open_eq
  rw [List.length_cons, List.reverse_cons] at hopen
  refine ⟨?_, ?_, Nat.le_of_succ_le h.bounded⟩
  · show r.depth - 1 = stack.length
    rw [h.depth_eq, List.length_cons, Nat.add_sub_cancel]
  · show r.stack.toList.take stack.length = stack.reverse
    have hcut := congrArg (List.take stack.length) hopen
    rw [List.take_take, Nat.min_eq_left (Nat.le_succ _), List.take_left' (by simp)] at hcut
    exact hcut

end TlvReader.Within

/-- The cursor is inside the containers `stack`, the innermost first, of an encoding that is read
from its start. -/
structure TlvReader.Inside (r : TlvReader) (stack : List ContainerKind) : Prop where
  depth_eq : r.depth = stack.length
  open_eq : r.stack.toList.take stack.length = stack.reverse
  bounded : stack.length ≤ maxDepth
  single : r.many = false
  outermost : r.startedInside = false

namespace TlvReader.Inside

variable {r : TlvReader} {stack stack' : List ContainerKind} {kind : ContainerKind}

lemma within (h : r.Inside stack) : r.Within stack := ⟨h.depth_eq, h.open_eq, h.bounded⟩

lemma of_within {r' : TlvReader} (h : r.Inside stack) (hwithin : r'.Within stack')
    (hmany : r'.many = r.many) (hstarted : r'.startedInside = r.startedInside) : r'.Inside stack' :=
  ⟨hwithin.depth_eq, hwithin.open_eq, hwithin.bounded, hmany.trans h.single,
    hstarted.trans h.outermost⟩

lemma baseDepth_eq (h : r.Inside stack) : r.baseDepth = 0 := by
  rw [baseDepth, h.outermost]
  rfl

lemma currentContainer_eq (h : r.Inside stack) : r.currentContainer = stack.head? :=
  h.within.currentContainer_eq

lemma advance (h : r.Inside stack) (n : ℕ) : (r.advance n).Inside stack :=
  h.of_within (h.within.advance n) rfl rfl

lemma mark (h : r.Inside stack) : r.mark.Inside stack := by
  refine h.of_within h.within.mark ?_ ?_
  · unfold TlvReader.mark
    split <;> rfl
  · unfold TlvReader.mark
    split <;> rfl

lemma enter (h : r.Inside stack) (hroom : stack.length < maxDepth) :
    (r.enter kind).Inside (kind :: stack) :=
  h.of_within (h.within.enter hroom) rfl rfl

lemma leave (h : r.Inside (kind :: stack)) : r.leave.Inside stack :=
  h.of_within h.within.leave rfl rfl

/-- A token fits exactly when it may stand inside the open containers. -/
lemma fitsIn_iff (h : r.Inside stack) (t : Token) : t.FitsIn r ↔ ∃ stack', t.Moves stack stack' := by
  cases t with
  | primitive tag value =>
    rw [Token.FitsIn, h.currentContainer_eq]
    constructor
    · intro hallowed
      exact ⟨stack, .primitive hallowed⟩
    · rintro ⟨_, hmoves⟩
      cases hmoves
      assumption
  | opening tag kind =>
    rw [Token.FitsIn, h.currentContainer_eq, h.depth_eq]
    constructor
    · rintro ⟨hallowed, hroom⟩
      exact ⟨kind :: stack, .opening hallowed hroom⟩
    · rintro ⟨_, hmoves⟩
      cases hmoves with
      | opening hallowed hroom => exact ⟨hallowed, hroom⟩
  | closing =>
    rw [Token.FitsIn, h.baseDepth_eq, h.depth_eq]
    cases stack with
    | nil =>
      constructor
      · intro hpos
        exact absurd hpos (by simp)
      · rintro ⟨_, hmoves⟩
        cases hmoves
    | cons kind stack =>
      constructor
      · intro _
        exact ⟨stack, .closing⟩
      · intro _
        exact Nat.succ_pos _

/-- A token that is read moves the open containers. -/
lemma moves (h : r.Inside stack) {t : Token} (hmoves : t.Moves stack stack') :
    (t.after r).Inside stack' := by
  cases hmoves with
  | primitive hallowed => exact (h.advance _).mark
  | opening hallowed hroom => exact ((h.advance _).enter hroom).mark
  | closing => exact ((h.advance 1).leave).mark

/-- The single element is complete when a token leads out of every container. -/
lemma topLevelDone_after (h : r.Inside stack) {t : Token} (hmoves : t.Moves stack stack')
    (hdone : r.topLevelDone = false) : (t.after r).topLevelDone = true ↔ stack' = [] := by
  have hmark : ∀ r' : TlvReader, r'.Inside stack' → r'.topLevelDone = false →
      (r'.mark.topLevelDone = true ↔ stack' = []) := by
    intro r' hr' hnot
    have hdepth : r'.depth = r'.baseDepth ↔ stack' = [] := by
      rw [hr'.baseDepth_eq, hr'.depth_eq, List.length_eq_zero_iff]
    unfold TlvReader.mark
    split
    · simp_all
    · simp_all
  cases hmoves with
  | primitive hallowed => exact hmark _ (h.advance _) hdone
  | opening hallowed hroom => exact hmark _ ((h.advance _).enter hroom) hdone
  | closing => exact hmark _ ((h.advance 1).leave) hdone

end TlvReader.Inside

/-- The loop succeeds from in front of octets exactly when they start with a token that may stand
there, and it succeeds from behind that. -/
lemma validateFrom_token_iff (hfaces : r.Faces bytes) (hinside : r.Inside stack)
    (hbytes : bytes ≠ []) (hdone : r.topLevelDone = false) : validateFrom r count = .ok n ↔
      ∃ (t : Token) (stack' : List ContainerKind) (rest : List UInt8), t.Moves stack stack' ∧
        bytes = t.octets ++ rest ∧ validateFrom (t.after r) (satAdd count 1) = .ok n := by
  have hopen : r.Open := by
    rw [Open, hdone]
    simp
  constructor
  · intro h
    rw [validateFrom] at h
    split at h
    · exact absurd h (by simp)
    · rename_i r' hrun
      obtain ⟨hsome, -⟩ := token_of_nextElement hfaces hbytes hrun
      exact absurd hsome (by simp)
    · rename_i e r' hrun
      obtain ⟨-, t, rest, hrest, hfits, rfl⟩ := token_of_nextElement hfaces hbytes hrun
      obtain ⟨stack', hmoves⟩ := (hinside.fitsIn_iff t).mp hfits
      exact ⟨t, stack', rest, hmoves, hrest, h⟩
  · rintro ⟨t, stack', rest, hmoves, rfl, h⟩
    have hrun := nextElement_of_token hfaces hopen ((hinside.fitsIn_iff t).mpr ⟨_, hmoves⟩)
    rw [validateFrom]
    split
    · simp_all
    · simp_all
    · simp_all

/-- At the end of the octets the loop has counted them all, if the single element is complete. -/
lemma validateFrom_nil_iff (hfaces : r.Faces []) (hinside : r.Inside stack) :
    validateFrom r count = .ok n ↔ stack = [] ∧ r.topLevelDone = true ∧ n = count := by
  have hempty : r.isEmpty = true := hfaces.isEmpty_eq.mpr rfl
  have hrun := nextElement_none hfaces
  rw [validateFrom]
  split
  · simp_all
  · rename_i r' hrun'
    rw [hrun, Prod.mk.injEq] at hrun'
    rw [← hrun'.2, finish, hinside.baseDepth_eq, hinside.depth_eq, hempty]
    simp only [bind_eq_ok, ensure_eq_ok, List.length_eq_zero_iff, pure_eq_ok, Except.ok.injEq]
    constructor
    · rintro ⟨_, ⟨_, hstack, _, hdone, -⟩, rfl⟩
      exact ⟨hstack, hdone, rfl⟩
    · rintro ⟨hstack, hdone, rfl⟩
      exact ⟨(), ⟨(), hstack, (), hdone, trivial⟩, rfl⟩
  · simp_all

/-- Behind the single element there is nothing more to read. -/
lemma validateFrom_ne_ok (hfaces : r.Faces bytes) (hinside : r.Inside []) (hbytes : bytes ≠ [])
    (hdone : r.topLevelDone = true) : validateFrom r count ≠ .ok n := by
  intro h
  obtain ⟨o, r', hrun⟩ : ∃ o r', exec nextElement r = (.ok o, r') := by
    rw [validateFrom] at h
    split at h
    · exact absurd h (by simp)
    · rename_i r' hrun
      exact ⟨none, r', hrun⟩
    · rename_i e r' hrun
      exact ⟨some e, r', hrun⟩
  obtain ⟨control, rest, rfl⟩ := List.exists_cons_of_ne_nil hbytes
  obtain ⟨hopen, -⟩ := nextElement_cons_inv hfaces hrun
  apply hopen
  refine ⟨hdone, hinside.single, ?_⟩
  rw [hinside.baseDepth_eq, hinside.depth_eq]
  rfl

/-- The count after one element more. -/
lemma min_satAdd_one (count : UInt64) (m : ℕ) :
    min ((satAdd count 1).toNat + m) (2 ^ 64 - 1) = min (count.toNat + (m + 1)) (2 ^ 64 - 1) := by
  rw [toNat_satAdd]
  have hone : (1 : UInt64).toNat = 1 := rfl
  omega

/-- From inside open containers, or behind the single element, the loop succeeds exactly when the
octets close the containers, and counts what closes them. -/
lemma validateFrom_eq_ok_iff (hfaces : r.Faces bytes) (hinside : r.Inside stack)
    (hdone : r.topLevelDone = true ↔ stack = []) : validateFrom r count = .ok n ↔
      ∃ m, Closes stack bytes m ∧ n.toNat = min (count.toNat + m) (2 ^ 64 - 1) := by
  -- every token takes an octet at least, so the induction is on how many there are
  induction hlen : bytes.length using Nat.strong_induction_on generalizing r stack bytes count with
  | _ len ih =>
  have hcount := count.toNat_lt
  by_cases hbytes : bytes = []
  · subst hbytes
    rw [validateFrom_nil_iff hfaces hinside]
    cases stack with
    | nil =>
      simp only [closes_nil_iff, true_and, exists_eq_left, hdone, Nat.add_zero]
      rw [← UInt64.toNat_inj, Nat.min_eq_left (by omega)]
    | cons kind stack =>
      constructor
      · rintro ⟨hstack, -⟩
        exact absurd hstack (by simp)
      · rintro ⟨m, ⟨ms, rest, _, hbytes, -⟩, -⟩
        exact absurd hbytes (by simp)
  · cases stack with
    | nil =>
      constructor
      · intro h
        exact absurd h (validateFrom_ne_ok hfaces hinside hbytes (hdone.mpr rfl))
      · rintro ⟨m, ⟨hnil, -⟩, -⟩
        exact absurd hnil hbytes
    | cons kind stack =>
      have hnot : r.topLevelDone = false := by
        rw [← Bool.not_eq_true, hdone]
        simp
      have hstep : ∀ (t : Token) (stack' : List ContainerKind) (rest : List UInt8),
          t.Moves (kind :: stack) stack' → bytes = t.octets ++ rest →
          (validateFrom (t.after r) (satAdd count 1) = .ok n ↔
            ∃ m, Closes stack' rest m ∧ n.toNat = min (count.toNat + (m + 1)) (2 ^ 64 - 1)) := by
        intro t stack' rest hmoves hrest
        have hshorter : rest.length < len := by
          have := List.length_pos_iff.mpr t.octets_ne_nil
          rw [← hlen, hrest, List.length_append]
          omega
        rw [hrest] at hfaces
        rw [ih _ hshorter hfaces.after (hinside.moves hmoves)
          (hinside.topLevelDone_after hmoves hnot) rfl]
        simp only [min_satAdd_one]
      rw [validateFrom_token_iff hfaces hinside hbytes hnot]
      simp only [closes_cons_iff hinside.bounded]
      constructor
      · rintro ⟨t, stack', rest, hmoves, hrest, h⟩
        obtain ⟨m, hcloses, hn⟩ := (hstep t stack' rest hmoves hrest).mp h
        exact ⟨m + 1, ⟨t, stack', rest, m, hmoves, hrest, hcloses, rfl⟩, hn⟩
      · rintro ⟨_, ⟨t, stack', rest, m, hmoves, hrest, hcloses, rfl⟩, hn⟩
        exact ⟨t, stack', rest, hmoves, hrest, (hstep t stack' rest hmoves hrest).mpr ⟨m, hcloses, hn⟩⟩

lemma inside_new (buf : List UInt8) : (new buf).Inside [] :=
  ⟨rfl, by simp, Nat.zero_le _, rfl, rfl⟩

/-- What `validate` accepts and counts, for octets of any length: the count stops at the largest
number there is. -/
lemma validate_eq_ok_iff_min (buf : List UInt8) (n : UInt64) : validate buf = .ok n ↔
      ∃ m, (∃ t : Tree, t.octets = buf ∧ t.LegalIn none ∧ t.depth ≤ maxDepth ∧ t.count = m) ∧
        n.toNat = min m (2 ^ 64 - 1) := by
  simp only [exists_tree_iff]
  unfold validate
  by_cases hempty : buf = []
  · subst hempty
    rw [validateFrom_nil_iff (faces_new []) (inside_new [])]
    constructor
    · rintro ⟨-, hdone, -⟩
      exact absurd hdone (by simp [new])
    · rintro ⟨_, ⟨t, _, _, _, -, hnil, -⟩, -⟩
      exact absurd (List.append_eq_nil_iff.mp hnil.symm).1 t.octets_ne_nil
  · have hfirst : ∀ (t : Token) (stack' : List ContainerKind) (rest : List UInt8),
        t.Moves [] stack' → buf = t.octets ++ rest →
        (validateFrom (t.after (new buf)) (satAdd 0 1) = .ok n ↔
          ∃ m, Closes stack' rest m ∧ n.toNat = min (m + 1) (2 ^ 64 - 1)) := by
      intro t stack' rest hmoves hrest
      have hfaces := faces_new buf
      rw [hrest] at hfaces
      rw [hrest, validateFrom_eq_ok_iff hfaces.after ((inside_new _).moves hmoves)
        ((inside_new _).topLevelDone_after hmoves rfl)]
      simp only [min_satAdd_one, UInt64.toNat_zero, Nat.zero_add]
    rw [validateFrom_token_iff (faces_new buf) (inside_new buf) hempty rfl]
    constructor
    · rintro ⟨t, stack', rest, hmoves, hrest, h⟩
      obtain ⟨m, hcloses, hn⟩ := (hfirst t stack' rest hmoves hrest).mp h
      exact ⟨m + 1, ⟨t, stack', rest, m, hmoves, hrest, hcloses, rfl⟩, hn⟩
    · rintro ⟨_, ⟨t, stack', rest, m, hmoves, hrest, hcloses, rfl⟩, hn⟩
      exact ⟨t, stack', rest, hmoves, hrest, (hfirst t stack' rest hmoves hrest).mpr ⟨m, hcloses, hn⟩⟩

/-- `validate` accepts exactly the octets of one legal tree that is at most `maxDepth` containers
deep, and counts its elements, the ends of containers among them. -/
theorem validate_eq_ok_iff (buf : List UInt8) (hbuf : buf.length < 2 ^ 63) (n : UInt64) :
    validate buf = .ok n ↔
      ∃ t : Tree, t.octets = buf ∧ t.LegalIn none ∧ t.depth ≤ maxDepth ∧ t.count = n.toNat := by
  rw [validate_eq_ok_iff_min]
  constructor
  · rintro ⟨m, ⟨t, rfl, hlegal, hdepth, rfl⟩, hn⟩
    have hshort := t.count_le_length
    exact ⟨t, rfl, hlegal, hdepth, by omega⟩
  · rintro ⟨t, rfl, hlegal, hdepth, hn⟩
    have hshort := t.count_le_length
    exact ⟨t.count, ⟨t, rfl, hlegal, hdepth, rfl⟩, by omega⟩

/-- A structure with the member `true` under the context tag 1. -/
theorem validate_flag : validate [0x15, 0x29, 0x01, 0x18] = .ok 3 := by
  apply (validate_eq_ok_iff [0x15, 0x29, 0x01, 0x18] (by decide) 3).mpr
  exact ⟨.container ⟨.anonymous, [], rfl⟩ .struct
      (.cons (.primitive ⟨.contextSpecific, [1], rfl⟩ ⟨.bool true, [], .bool true⟩) .nil),
    by decide, by simp [Tree.LegalIn, Members.LegalIn, WireTag.AllowedIn], by decide, rfl⟩

end MatterKit.Tlv
