import MatterKit.Tlv.Canonical
import MatterKit.Tlv.Splice

/-!
# Encodings that are as narrow as can be

`re_encode_is_identical` of `tlv/canonical.rs`: an encoding is decoded and written back element by
element, and compared with what came out. A decoded element no longer says which width its number, its
length or its tag was written in, so the writer chooses anew; what is compared is the choice.

An encoding is a sequence of tokens (`Tree.tokens`), and writing one back gives the token that says the
same in the narrowest widths (`Token.narrow`), which is never longer. So there is room for what is
written, and since tokens say where they end, the octets are the same exactly if every token was narrow
(`reEncodeIsIdentical_iff`).
-/

namespace MatterKit.Tlv

open Lib Machine TlvReader

/-! ## The check -/

/-- The call that writes an element.
Source: `re_encode_is_identical`, `match element.value`. -/
def writeBack (element : Element) : Writing Unit :=
  match element.value with
  | .signed v => signed element.tag v
  | .unsigned v => unsigned element.tag v
  | .bool v => Tlv.bool element.tag v
  | .float v => float element.tag v
  | .double v => double element.tag v
  | .utf8 v => utf8 element.tag v
  | .octets v => Tlv.octets element.tag v
  | .null => null element.tag
  | .container kind => start element.tag kind
  | .endOfContainer => endContainer

/-- The loop, from a reader and a writer to where it leaves them.
Source: `re_encode_is_identical`, the `while`. -/
def reEncodeFrom (r : TlvReader) (w : TlvWriter) : Except ErrorCode (TlvReader × TlvWriter) :=
  match _hrun : exec nextElement r with
  | (.error e, _) => .error e
  | (.ok none, r') => .ok (r', w)
  | (.ok (some element), r') =>
    match exec (writeBack element) w with
    | (.error e, _) => .error e
    | (.ok (), w') => reEncodeFrom r' w'
termination_by r.buf.length - r.pos
decreasing_by exact nextElement_progress _hrun

/-- Source: `re_encode_is_identical`. -/
def reEncodeIsIdentical (buf : List UInt8) (out : Slice) : Except ErrorCode Bool := do
  let (r, w) ← reEncodeFrom (.new buf) (.new out)
  r.finish
  let written ← w.finish
  pure (decide (written = buf))

/-! ## What narrow means -/

namespace Width

/-- A number fits in as many octets. -/
def Holds (w : Width) (n : ℕ) : Prop := n < 256 ^ w.octets

/-- A number and its sign fit in as many octets. -/
def HoldsSigned (w : Width) (v : ℤ) : Prop :=
  -2 ^ (8 * w.octets - 1) ≤ v ∧ v < 2 ^ (8 * w.octets - 1)

/-- No width that would do is narrower. -/
def Narrowest (w : Width) (does : Width → Prop) : Prop := ∀ w', does w' → w.octets ≤ w'.octets

end Width

/-- A profile tag's number takes four octets only if two do not hold it. -/
def WireTag.Narrowest (field : WireTag) : Prop :=
  match field.control, field.tag with
  | .commonProfile4, .common n => ¬ Width.two.Holds n.toNat
  | .implicitProfile4, .implicit n => ¬ Width.two.Holds n.toNat
  | .fullyQualified8, .fullyQualified _ _ n => ¬ Width.two.Holds n.toNat
  | _, _ => True

/-- An integer, or the length of a string, is written in the narrowest width that holds it. -/
def Primitive.Narrowest (p : Primitive) : Prop :=
  match p.type, p.value with
  | .signedInt w, .signed v => w.Narrowest (·.HoldsSigned v.toInt)
  | .unsignedInt w, .unsigned v => w.Narrowest (·.Holds v.toNat)
  | .utf8 w, .utf8 s => w.Narrowest (·.Holds (asBytes s).length)
  | .octets w, .octets v => w.Narrowest (·.Holds v.length)
  | _, _ => True

/-- Everything in the token that has a width has its narrowest. -/
def Token.Narrowest : Token → Prop
  | .primitive tag value => tag.Narrowest ∧ value.Narrowest
  | .opening tag _ => tag.Narrowest
  | .closing => True

mutual

/-- The tokens of an element, a container's up to the one that ends it. -/
def Tree.tokens : Tree → List Token
  | .primitive tag value => [.primitive tag value]
  | .container tag kind members => .opening tag kind :: (members.tokens ++ [.closing])

/-- The tokens of the members of a container. -/
def Members.tokens : Members → List Token
  | .nil => []
  | .cons first others => first.tokens ++ others.tokens

end

/-- Every integer, every string length and every profile tag number in the element is written in its
narrowest width. -/
def Tree.Narrowest (t : Tree) : Prop := ∀ token ∈ t.tokens, token.Narrowest

/-- The octets of tokens, one behind the other. -/
def tokensOctets (tokens : List Token) : List UInt8 := (tokens.map Token.octets).flatten

mutual

lemma Tree.tokens_spec : ∀ t : Tree, tokensOctets t.tokens = t.octets ∧
    t.tokens.map Token.element = t.elements
  | .primitive tag value => ⟨List.append_nil _, rfl⟩
  | .container tag kind members => by
    obtain ⟨hoctets, helements⟩ := members.tokens_spec
    constructor
    · simp only [tokensOctets] at hoctets
      simp [tokensOctets, Tree.tokens, Tree.octets, Token.octets, hoctets]
    · simp [Tree.tokens, Tree.elements, helements, Token.element]

lemma Members.tokens_spec : ∀ ms : Members, tokensOctets ms.tokens = ms.octets ∧
    ms.tokens.map Token.element = ms.elements
  | .nil => ⟨rfl, rfl⟩
  | .cons first others => by
    obtain ⟨hfirst, hfirst'⟩ := first.tokens_spec
    obtain ⟨hothers, hothers'⟩ := others.tokens_spec
    constructor
    · simp only [tokensOctets] at hfirst hothers
      simp [tokensOctets, Members.tokens, Members.octets, hfirst, hothers]
    · simp [Members.tokens, Members.elements, hfirst', hothers']

end

/-! ## Widths and tags -/

namespace Width

lemma octets_inj {w w' : Width} (h : w.octets = w'.octets) : w = w' := by
  revert h
  cases w <;> cases w' <;> decide

/-- A width that does is the one that is chosen exactly if it is the narrowest. -/
lemma eq_iff_narrowest {does : Width → Prop} {chosen w : Width} (hdoes : does chosen)
    (hle : chosen.Narrowest does) (hw : does w) : chosen = w ↔ w.Narrowest does := by
  constructor
  · rintro rfl
    exact hle
  · intro hnarrow
    exact octets_inj (Nat.le_antisymm (hle w hw) (hnarrow chosen hdoes))

lemma forUnsigned_narrowest (value : UInt64) : (forUnsigned value).Narrowest (·.Holds value.toNat) := by
  intro w hw
  unfold forUnsigned
  simp only [UInt64.le_iff_toNat_le]
  have h₁ : (255 : UInt64).toNat = 255 := rfl
  have h₂ : (65535 : UInt64).toNat = 65535 := rfl
  have h₃ : (4294967295 : UInt64).toNat = 4294967295 := rfl
  rw [h₁, h₂, h₃]
  unfold Holds at hw
  cases w <;> simp only [octets] at hw ⊢ <;> split_ifs <;> first | omega | simp

lemma forSigned_narrowest (value : Int64) : (forSigned value).Narrowest (·.HoldsSigned value.toInt) := by
  intro w hw
  unfold forSigned
  unfold HoldsSigned at hw
  cases w <;> simp only [octets] at hw ⊢ <;> split_ifs <;> first | omega | simp

end Width

variable {body buf src : List UInt8} {number : UInt32} {n : Nesting} {w w' : TlvWriter} {tag : Tag}

/-- A number that was read is written in as many octets as it was. -/
lemma writeLe_of_readLeU32 {n : ℕ} (hlen : src.length = n) (hn : n ≤ 4)
    (h : readLeU32 src = .ok number) : writeLe number.toUInt64 n = src := by
  have hnumber := toNat_readLeU32 (by omega) h
  rw [writeLe_eq _ (by omega), UInt32.toNat_toUInt64, hnumber, ← hlen, leBytes_ofLe]

lemma writeLe_of_readLeU32_two (hlen : src.length = 2) (h : readLeU32 src = .ok number) :
    writeLe number.toUInt16.toUInt64 2 = src := by
  have hnumber := toNat_readLeU32 (by omega) h
  have hlt := ofLe_lt src
  rw [hlen] at hlt
  have hsame : number.toUInt16.toUInt64.toNat = ofLe src := by
    rw [UInt16.toNat_toUInt64, UInt32.toNat_toUInt16, hnumber, Nat.mod_eq_of_lt (by omega)]
  rw [writeLe_eq _ (by decide), hsame, ← hlen, leBytes_ofLe]

namespace WireTag

lemma eq_iff {f g : WireTag} : f = g ↔ f.control = g.control ∧ f.octets = g.octets := by
  cases f
  cases g
  simp

/-- A tag is written as it was read, if it is given the form it had. -/
lemma StandsFor.encode_eq {control : TagControl} {octets : List UInt8} {tag : Tag}
    (h : StandsFor control octets tag) (hcontrol : tag.control = control) : tag.encode = octets := by
  cases h with
  | anonymous | contextSpecific b => rfl
  | common2 hlen hread | common4 hlen hread | implicit2 hlen hread | implicit4 hlen hread =>
    simp only [Tag.encode, Tag.encodedLen, hcontrol]
    exact writeLe_of_readLeU32 hlen (by decide) hread
  | qualified6 hv hp hlen hvendor hprofile hread | qualified8 hv hp hlen hvendor hprofile hread =>
    simp only [Tag.encode, Tag.encodedLen, hcontrol]
    rw [writeLe_of_readLeU32_two hv hvendor, writeLe_of_readLeU32_two hp hprofile]
    exact congrArg _ (writeLe_of_readLeU32 hlen (by decide) hread)

lemma holds_two_iff (n : UInt32) : Width.two.Holds n.toNat ↔ n < 0x10000 := Iff.rfl

/-- The form a tag would be given is the one it has exactly if that is the narrowest. -/
lemma control_eq_iff (f : WireTag) : f.tag.control = f.control ↔ f.Narrowest := by
  have h := f.standsFor
  unfold Narrowest
  generalize f.control = control at h ⊢
  generalize f.octets = octets at h
  generalize f.tag = tag at h ⊢
  cases h with
  | anonymous | contextSpecific b => simp [Tag.control]
  | common2 hlen hread => simp [Tag.control, lt_of_readLeU32_two hlen hread]
  | common4 hlen hread => simp [Tag.control, holds_two_iff]
  | implicit2 hlen hread => simp [Tag.control, lt_of_readLeU32_two hlen hread]
  | implicit4 hlen hread => simp [Tag.control, holds_two_iff]
  | qualified6 hv hp hlen hvendor hprofile hread =>
    simp [Tag.control, lt_of_readLeU32_two hlen hread]
  | qualified8 hv hp hlen hvendor hprofile hread => simp [Tag.control, holds_two_iff]

/-- A tag is written back as it was exactly if its number was narrow. -/
lemma wire_eq_iff (f : WireTag) : f.tag.wire = f ↔ f.Narrowest := by
  rw [eq_iff, ← f.control_eq_iff]
  constructor
  · rintro ⟨hcontrol, -⟩
    exact hcontrol
  · intro hcontrol
    exact ⟨hcontrol, f.standsFor.encode_eq hcontrol⟩

end WireTag

/-! ## Values -/

/-- A signed number and its word are the same but for multiples of the word size. -/
lemma toUInt64_emod (v : Int64) : (v.toUInt64.toNat : ℤ) % 2 ^ 64 = v.toInt % 2 ^ 64 := by
  show (v.toBitVec.toNat : ℤ) % 2 ^ 64 = v.toBitVec.toInt % 2 ^ 64
  rw [BitVec.toInt_eq_toNat_bmod]
  exact (Int.bmod_emod (x := v.toBitVec.toNat) (m := 2 ^ 64)).symm

/-- Octets of a width are those of one signed number, which the width holds. -/
lemma exists_signed {w : Width} (h : body.length = w.octets) :
    ∃ v : Int64, readLeI64 body = .ok v ∧ w.HoldsSigned v.toInt ∧
      writeLe v.toUInt64 w.octets = body := by
  have hlt := ofLe_lt body
  rw [h] at hlt
  obtain ⟨x, hx⟩ : ∃ x : ℤ, x = (ofLe body : ℤ).bmod (256 ^ w.octets) := ⟨_, rfl⟩
  have hholds : w.HoldsSigned x := by
    have hlo := Int.le_bmod (x := (ofLe body : ℤ)) (m := 256 ^ w.octets) (by positivity)
    have hhi := Int.bmod_lt (x := (ofLe body : ℤ)) (m := 256 ^ w.octets) (by positivity)
    rw [← hx] at hlo hhi
    unfold Width.HoldsSigned
    cases w <;> simp only [Width.octets] at hlo hhi ⊢ <;> norm_num at hlo hhi ⊢ <;> omega
  have hwide : -2 ^ 63 ≤ x ∧ x < 2 ^ 63 := by
    unfold Width.HoldsSigned at hholds
    cases w <;> simp only [Width.octets] at hholds <;> norm_num at hholds ⊢ <;> omega
  have hv : (Int64.ofInt x).toInt = x := Int64.toInt_ofInt_of_le hwide.1 hwide.2
  have hword := toUInt64_emod (.ofInt x)
  rw [hv] at hword
  -- the low octets of the word are those of the remainder
  have hlow : (Int64.ofInt x).toUInt64.toNat % 256 ^ w.octets = ofLe body := by
    have hdvd : ((256 : ℤ) ^ w.octets) ∣ 2 ^ 64 := by
      cases w <;> simp only [Width.octets] <;> decide
    have hmod : ((Int64.ofInt x).toUInt64.toNat : ℤ) % 256 ^ w.octets = ofLe body := by
      rw [← Int.emod_emod_of_dvd _ hdvd, hword, Int.emod_emod_of_dvd _ hdvd, hx]
      have hbmod := Int.bmod_emod (x := (ofLe body : ℤ)) (m := 256 ^ w.octets)
      push_cast at hbmod
      rw [hbmod]
      exact_mod_cast Nat.mod_eq_of_lt hlt
    exact_mod_cast hmod
  have hbody : writeLe (Int64.ofInt x).toUInt64 w.octets = body := by
    have hcut := leBytes_ofLe (leBytes w.octets (Int64.ofInt x).toUInt64.toNat)
    rw [length_leBytes, ofLe_leBytes, hlow] at hcut
    rw [writeLe_eq _ w.octets_le, ← hcut, ← h, leBytes_ofLe]
  refine ⟨.ofInt x, ?_, by rwa [hv], hbody⟩
  rw [← hbody]
  rw [← hv] at hholds
  exact readLeI64_writeLe _ w hholds.1 hholds.2

lemma toNat_ofLe (h : body.length ≤ 8) : (UInt64.ofNat (ofLe body)).toNat = ofLe body := by
  have hlt : ofLe body < 2 ^ 64 := by
    calc ofLe body < 256 ^ body.length := ofLe_lt body
      _ ≤ 256 ^ 8 := Nat.pow_le_pow_right (by decide) h
      _ = 2 ^ 64 := by norm_num
  rw [UInt64.toNat_ofNat', Nat.mod_eq_of_lt hlt]

/-- The element type a value is written with. -/
def Value.spelledType : Value → ElementType
  | .signed v => .signedInt (.forSigned v)
  | .unsigned v => .unsignedInt (.forUnsigned v)
  | .bool v => .bool v
  | .float _ => .float
  | .double _ => .double
  | .utf8 s => .utf8 (.forUnsigned (.ofNat (asBytes s).length))
  | .octets v => .octets (.forUnsigned (.ofNat v.length))
  | .null => .null
  | .container kind => kind.elementType
  | .endOfContainer => .endOfContainer

/-- The octets a value is written with, after the tag. -/
def Value.spelledBody : Value → List UInt8
  | .signed v => writeLe v.toUInt64 (Width.forSigned v).octets
  | .unsigned v => writeLe v (Width.forUnsigned v).octets
  | .float bits => writeLe bits.toUInt64 4
  | .double bits => writeLe bits 8
  | .utf8 s =>
    writeLe (.ofNat (asBytes s).length) (Width.forUnsigned (.ofNat (asBytes s).length)).octets ++
      asBytes s
  | .octets v => writeLe (.ofNat v.length) (Width.forUnsigned (.ofNat v.length)).octets ++ v
  | _ => []

namespace Primitive

lemma value_eq_of_reads {p : Primitive} {v : Value} (h : Reads (readValue p.type) p.body v) :
    p.value = v := by
  have hfront : (TlvReader.new p.body).Faces (p.body ++ []) := by
    rw [List.append_nil]
    exact faces_new p.body
  unfold value
  rw [h _ [] hfront]

/-- What becomes of a value that is read and written back: a body that is not longer, of the same type
exactly if that was narrow, and then the same. -/
structure Respells (p : Primitive) : Prop where
  legal : PrimitiveBody p.value.spelledType p.value.spelledBody
  length_le : p.value.spelledBody.length ≤ p.body.length
  type_iff : p.value.spelledType = p.type ↔ p.Narrowest
  body_eq : p.value.spelledType = p.type → p.value.spelledBody = p.body

/-- A string is written back with the shortest length field. -/
lemma string_spec {w : Width} {field content : List UInt8} (hfield : field.length = w.octets)
    (hcounts : ofLe field = content.length) : content.length < 2 ^ 64 ∧ w.Holds content.length ∧
      (writeLe (.ofNat content.length) (Width.forUnsigned (.ofNat content.length)).octets ++
        content).length ≤ (field ++ content).length ∧
      (Width.forUnsigned (.ofNat content.length) = w ↔ w.Narrowest (·.Holds content.length)) ∧
      (Width.forUnsigned (.ofNat content.length) = w →
        writeLe (.ofNat content.length) (Width.forUnsigned (.ofNat content.length)).octets ++ content =
          field ++ content) := by
  have hlt := ofLe_lt field
  rw [hfield, hcounts] at hlt
  have hshort : content.length < 2 ^ 64 := by
    calc content.length < 256 ^ w.octets := hlt
      _ ≤ 256 ^ 8 := Nat.pow_le_pow_right (by decide) w.octets_le
      _ = 2 ^ 64 := by norm_num
  have hcount : (UInt64.ofNat content.length).toNat = content.length := by
    rw [UInt64.toNat_ofNat', Nat.mod_eq_of_lt hshort]
  have hdoes := Width.forUnsigned_holds (.ofNat content.length)
  have hnarrow := Width.forUnsigned_narrowest (.ofNat content.length)
  rw [hcount] at hdoes hnarrow
  refine ⟨hshort, hlt, ?_, Width.eq_iff_narrowest hdoes hnarrow hlt, ?_⟩
  · rw [List.length_append, List.length_append, length_writeLe, hfield]
    exact Nat.add_le_add_right (hnarrow w hlt) _
  · intro hw
    rw [hw, writeLe_eq _ w.octets_le, hcount, ← hcounts, ← hfield, leBytes_ofLe]

lemma Respells.of_value {p : Primitive} {v : Value} (hvalue : p.value = v)
    (hlegal : PrimitiveBody v.spelledType v.spelledBody) (hlength : v.spelledBody.length ≤ p.body.length)
    (htype : v.spelledType = p.type ↔ p.Narrowest)
    (hbody : v.spelledType = p.type → v.spelledBody = p.body) : p.Respells := by
  subst hvalue
  exact ⟨hlegal, hlength, htype, hbody⟩

/-- A value that has no width is written back as it was. -/
lemma Respells.of_body {p : Primitive} {v : Value} (hvalue : p.value = v) (htype : v.spelledType = p.type)
    (hbody : v.spelledBody = p.body) (hnarrow : p.Narrowest) : p.Respells := by
  refine .of_value hvalue ?_ (congrArg List.length hbody).le (iff_of_true htype hnarrow) fun _ => hbody
  rw [htype, hbody]
  exact p.legal

/-- A value is written back as it was exactly if its width was the narrowest. -/
lemma respells (p : Primitive) : p.Respells := by
  obtain ⟨type, body, legal⟩ := p
  cases legal with
  | @signedInt w body hlen =>
    obtain ⟨v, hread, hholds, hbody⟩ := exists_signed hlen
    have hvalue : Primitive.value ⟨.signedInt w, body, .signedInt hlen⟩ = .signed v :=
      value_eq_of_reads (Reads.bind_pure (reads_take hlen)
        ((reads_ofResult hread).bind_pure reads_pure))
    have hnarrow := Width.forSigned_narrowest v
    have hiff := Width.eq_iff_narrowest (Width.forSigned_holds v) hnarrow hholds
    refine .of_value hvalue (.signedInt (length_writeLe _ _)) ?_ ?_ fun htype => ?_
    · simp only [Value.spelledBody, length_writeLe, hlen]
      exact hnarrow w hholds
    · unfold Narrowest
      rw [hvalue]
      simpa [Value.spelledType] using hiff
    · obtain rfl := ElementType.signedInt.inj htype
      exact hbody
  | @unsignedInt w body hlen =>
    have hshort : body.length ≤ 8 := by
      rw [hlen]
      exact w.octets_le
    have hvalue : Primitive.value ⟨.unsignedInt w, body, .unsignedInt hlen⟩ =
        .unsigned (.ofNat (ofLe body)) :=
      value_eq_of_reads (Reads.bind_pure (reads_take hlen)
        ((reads_ofResult (readLeU64_eq hshort)).bind_pure reads_pure))
    have hword := toNat_ofLe hshort
    have hholds : w.Holds (UInt64.ofNat (ofLe body)).toNat := by
      rw [Width.Holds, hword, ← hlen]
      exact ofLe_lt body
    have hnarrow := Width.forUnsigned_narrowest (.ofNat (ofLe body))
    have hiff := Width.eq_iff_narrowest (Width.forUnsigned_holds _) hnarrow hholds
    refine .of_value hvalue (.unsignedInt (length_writeLe _ _)) ?_ ?_ fun htype => ?_
    · simp only [Value.spelledBody, length_writeLe, hlen]
      exact hnarrow w hholds
    · unfold Narrowest
      rw [hvalue]
      simpa [Value.spelledType] using hiff
    · have hw := ElementType.unsignedInt.inj htype
      simp only [Value.spelledBody]
      rw [hw, writeLe_eq _ w.octets_le, hword, ← hlen, leBytes_ofLe]
  | bool v =>
    have hvalue : Primitive.value ⟨.bool v, [], .bool v⟩ = .bool v := value_eq_of_reads reads_pure
    exact .of_body hvalue rfl rfl (by simp [Narrowest])
  | @float body hlen =>
    obtain ⟨bits, hbits⟩ : ∃ bits : UInt32, writeLe bits.toUInt64 4 = body := by
      obtain ⟨number, hread⟩ := readLeU32_of_length body (by omega)
      exact ⟨number, writeLe_of_readLeU32 hlen (by decide) hread⟩
    have hvalue : Primitive.value ⟨.float, body, .float hlen⟩ = .float bits := by
      apply value_eq_of_reads
      have hreads := reads_float bits
      rwa [hbits] at hreads
    exact .of_body hvalue rfl hbits (by simp [Narrowest])
  | @double body hlen =>
    have hbits : writeLe (.ofNat (ofLe body)) 8 = body := by
      rw [writeLe_eq _ (by decide), toNat_ofLe (by omega), ← hlen, leBytes_ofLe]
    have hvalue : Primitive.value ⟨.double, body, .double hlen⟩ = .double (.ofNat (ofLe body)) := by
      apply value_eq_of_reads
      have hreads := reads_double (.ofNat (ofLe body))
      rwa [hbits] at hreads
    exact .of_body hvalue rfl hbits (by simp [Narrowest])
  | @utf8 w field content hfield hcounts hvalid =>
    have hs := fromUtf8_of_valid hvalid
    have hread := congrArg (okOr · ErrorCode.tlvInvalidUtf8) hs
    have hvalue : Primitive.value ⟨.utf8 w, field ++ content, .utf8 hfield hcounts hvalid⟩ =
        .utf8 (String.fromUTF8 _ hvalid) :=
      value_eq_of_reads ((reads_takeString_of hfield hcounts).bind_pure
        ((reads_ofResult hread).bind_pure reads_pure))
    have hbytes := asBytes_of_fromUtf8 hs
    obtain ⟨hshort, hholds, hlen, hiff, heq⟩ := string_spec hfield hcounts
    refine .of_value hvalue ?_ ?_ ?_ ?_
    · simp only [Value.spelledType, Value.spelledBody, hbytes]
      exact .utf8 (length_writeLe _ _) (counts_writeLe hshort) hvalid
    · simp only [Value.spelledBody, hbytes]
      exact hlen
    · unfold Narrowest
      rw [hvalue]
      simp only [Value.spelledType, hbytes, ElementType.utf8.injEq]
      exact hiff
    · simp only [Value.spelledType, Value.spelledBody, hbytes, ElementType.utf8.injEq]
      exact heq
  | @octets w field content hfield hcounts =>
    have hvalue : Primitive.value ⟨.octets w, field ++ content, .octets hfield hcounts⟩ =
        .octets content :=
      value_eq_of_reads ((reads_takeString_of hfield hcounts).bind_pure reads_pure)
    obtain ⟨hshort, hholds, hlen, hiff, heq⟩ := string_spec hfield hcounts
    refine .of_value hvalue (.octets (length_writeLe _ _) (counts_writeLe hshort)) hlen ?_ ?_
    · unfold Narrowest
      rw [hvalue]
      simp only [Value.spelledType, ElementType.octets.injEq]
      exact hiff
    · simp only [Value.spelledType, Value.spelledBody, ElementType.octets.injEq]
      exact heq
  | null =>
    have hvalue : Primitive.value ⟨.null, [], .null⟩ = .null := value_eq_of_reads reads_pure
    exact .of_body hvalue rfl rfl (by simp [Narrowest])

end Primitive

/-! ## Tokens -/

namespace Token

/-- The token that says the same in the narrowest widths. -/
def narrow : Token → Token
  | .primitive tag p => .primitive tag.tag.wire ⟨_, _, p.respells.legal⟩
  | .opening tag kind => .opening tag.tag.wire kind
  | .closing => .closing

lemma narrow_eq_iff (t : Token) : t.narrow = t ↔ t.Narrowest := by
  cases t with
  | primitive tag p =>
    simp only [narrow, primitive.injEq, Narrowest, WireTag.wire_eq_iff]
    rw [← p.respells.type_iff]
    obtain ⟨type, body, legal⟩ := p
    simp only [Primitive.mk.injEq]
    exact ⟨fun h => ⟨h.1, h.2.1⟩, fun h => ⟨h.1, h.2, (Primitive.respells ⟨type, body, legal⟩).body_eq h.2⟩⟩
  | opening tag kind => simp [narrow, Narrowest, WireTag.wire_eq_iff]
  | closing => simp [narrow, Narrowest]

/-- Said in the narrowest widths, a token is not longer. -/
lemma length_narrow_le (t : Token) : t.narrow.octets.length ≤ t.octets.length := by
  have htag : ∀ (f : WireTag) (ty ty' : ElementType),
      (f.tag.wire.head ty).length ≤ (f.head ty').length := by
    intro f ty ty'
    have hle := f.encodedLen_le
    have hlen := f.tag.wire.length_eq
    simp only [WireTag.head, List.length_cons, Tag.encodedLen] at hle ⊢
    rw [hlen]
    exact Nat.succ_le_succ hle
  cases t with
  | primitive tag p =>
    simp only [narrow, octets, List.length_append]
    exact Nat.add_le_add (htag _ _ _) p.respells.length_le
  | opening tag kind => exact htag _ _ _
  | closing => exact Nat.le_refl _

/-- Octets start with one token at most. -/
lemma octets_append_inj {t u : Token} {x y : List UInt8} (h : t.octets ++ x = u.octets ++ y) :
    t = u ∧ x = y := by
  cases t with
  | primitive f p =>
    cases u with
    | primitive g q =>
      simp only [octets, List.append_assoc] at h
      obtain ⟨rfl, hty, hrest⟩ := WireTag.head_append_inj h
      obtain ⟨ty, body, legal⟩ := p
      obtain ⟨ty', body', legal'⟩ := q
      obtain rfl : ty = ty' := hty
      obtain ⟨hbody, rfl⟩ := legal.append_inj legal' hrest
      obtain rfl : body = body' := hbody
      exact ⟨rfl, rfl⟩
    | opening g kind =>
      simp only [octets, List.append_assoc] at h
      exact absurd (WireTag.head_append_inj h).2.1 (p.legal.ne_elementType kind)
    | closing =>
      rw [octets, List.append_assoc] at h
      exact absurd h (WireTag.head_ne_end p.legal.ne_endOfContainer)
  | opening f kind =>
    cases u with
    | primitive g q =>
      simp only [octets, List.append_assoc] at h
      exact absurd (WireTag.head_append_inj h).2.1.symm (q.legal.ne_elementType kind)
    | opening g kind' =>
      obtain ⟨rfl, hkind, rfl⟩ := WireTag.head_append_inj h
      obtain rfl := ContainerKind.elementType_inj hkind
      exact ⟨rfl, rfl⟩
    | closing => exact absurd h (WireTag.head_ne_end kind.elementType_ne_endOfContainer)
  | closing =>
    cases u with
    | primitive g q =>
      have h' := h.symm
      rw [octets, List.append_assoc] at h'
      exact absurd h' (WireTag.head_ne_end q.legal.ne_endOfContainer)
    | opening g kind => exact absurd h.symm (WireTag.head_ne_end kind.elementType_ne_endOfContainer)
    | closing => exact ⟨rfl, (List.cons.inj h).2⟩

end Token

lemma tokensOctets_append (ts us : List Token) :
    tokensOctets (ts ++ us) = tokensOctets ts ++ tokensOctets us := by
  simp [tokensOctets]

/-- Octets are those of one sequence of tokens at most. -/
lemma tokensOctets_inj {ts us : List Token} (h : tokensOctets ts = tokensOctets us) : ts = us := by
  induction ts generalizing us with
  | nil =>
    cases us with
    | nil => rfl
    | cons u us => exact absurd (List.append_eq_nil_iff.mp h.symm).1 u.octets_ne_nil
  | cons t ts ih =>
    cases us with
    | nil => exact absurd (List.append_eq_nil_iff.mp h).1 t.octets_ne_nil
    | cons u us =>
      obtain ⟨rfl, hrest⟩ := Token.octets_append_inj h
      rw [ih hrest]

/-- Tokens are written back as they were exactly if all of them were narrow. -/
lemma tokensOctets_narrow_eq_iff (ts : List Token) :
    tokensOctets (ts.map Token.narrow) = tokensOctets ts ↔ ∀ t ∈ ts, t.Narrowest := by
  have hmap : ts.map Token.narrow = ts ↔ ∀ t ∈ ts, t.narrow = t := by
    induction ts with
    | nil => simp
    | cons t ts ih => simp [ih]
  constructor
  · intro h t ht
    exact t.narrow_eq_iff.mp (hmap.mp (tokensOctets_inj h) t ht)
  · intro h
    rw [hmap.mpr fun t ht => t.narrow_eq_iff.mpr (h t ht)]

lemma length_tokensOctets_narrow_le (ts : List Token) :
    (tokensOctets (ts.map Token.narrow)).length ≤ (tokensOctets ts).length := by
  induction ts with
  | nil => exact Nat.le_refl _
  | cons t ts ih =>
    simp only [tokensOctets, List.map_cons, List.flatten_cons, List.length_append] at ih ⊢
    exact Nat.add_le_add t.length_narrow_le ih

/-! ## Writing back -/

/-- The calls that write elements, one after the other. -/
def writeAll : List Element → Writing Unit
  | [] => pure ()
  | e :: es => do
    writeBack e
    writeAll es

section Follows

variable {n n' : Nesting}

lemma follows_value {tag : Tag} (h : n.check tag = .ok ()) (ty : ElementType) (body : List UInt8) :
    Follows (value tag ty body) n ⟨tag.wire.head ty ++ body, .ok (), n.mark⟩ :=
  (follows_head h ty).bind (f := fun _ => emit body) (follows_emit body n.mark)

/-- A primitive value is written back in its narrowest widths. -/
lemma follows_writeBack {tag : Tag} {v : Value} (hv : v.IsPlain) (h : n.check tag = .ok ()) :
    Follows (writeBack ⟨tag, v⟩) n ⟨tag.wire.head v.spelledType ++ v.spelledBody, .ok (), n.mark⟩ := by
  have hhead : ∀ ty, Follows (head tag ty) n ⟨tag.wire.head ty ++ [], .ok (), n.mark⟩ := by
    intro ty
    rw [List.append_nil]
    exact follows_head h ty
  have hstring : ∀ (ty : ElementType) (field content : List UInt8),
      Follows (do head tag ty; emit field; emit content) n
        ⟨tag.wire.head ty ++ (field ++ content), .ok (), n.mark⟩ := by
    intro ty field content
    have hbody := (follows_emit field n.mark).bind (f := fun _ => emit content)
      (follows_emit content n.mark)
    exact (follows_head h ty).bind (f := fun _ => do emit field; emit content) hbody
  cases v with
  | signed v | unsigned v => exact follows_value h _ _
  | bool v => exact hhead _
  | float bits | double bits => exact follows_value h _ _
  | utf8 s | octets v => exact hstring _ _ _
  | null => exact hhead _
  | container kind | endOfContainer => exact hv.elim

lemma follows_writeAll_nil (n : Nesting) : Follows (writeAll []) n ⟨[], .ok (), n⟩ :=
  Follows.of_still fun _ _ _ => rfl

lemma follows_writeAll_cons {e : Element} {es : List Element} {a : List UInt8} {script : Script Unit}
    (h : Follows (writeBack e) n ⟨a, .ok (), n'⟩) (h' : Follows (writeAll es) n' script) :
    Follows (writeAll (e :: es)) n ⟨a ++ script.bytes, script.result, script.after⟩ :=
  h.bind (f := fun _ => writeAll es) h'

end Follows

lemma Nesting.check_of_allowedIn (hn : n.topLevelDone = false) {field : WireTag}
    (h : field.AllowedIn n.containers.getLast?) : n.check field.tag = .ok () := by
  have hallowed := (field.decode_octets.2.allowedIn_iff _).mpr h
  unfold Nesting.check
  rw [if_neg (by simp [hn]), if_pos hallowed]

lemma Nesting.leave_enter (hn : n.topLevelDone = false) (kind : ContainerKind) :
    (n.enter kind).leave = n := by
  unfold Nesting.enter Nesting.leave
  rw [List.dropLast_concat, ← hn]

mutual

/-- **A tree that may stand where the writer is is written back token by token**, each in its narrowest
widths, and whatever is written behind it follows. -/
lemma Tree.follows_writeAll : ∀ (t : Tree) {n : Nesting} {es : List Element} {script : Script Unit},
    n.topLevelDone = false → t.LegalIn n.containers.getLast? →
    n.containers.length + t.depth ≤ maxDepth → Follows (writeAll es) n.mark script →
    Follows (writeAll (t.elements ++ es)) n
      ⟨tokensOctets (t.tokens.map Token.narrow) ++ script.bytes, script.result, script.after⟩
  | .primitive tag p, n, es, script, hn, hlegal, hdepth, hrest => by
    have hwrite := follows_writeBack p.value_spec.2.1 (Nesting.check_of_allowedIn hn hlegal)
    have hall := follows_writeAll_cons hwrite hrest
    simpa [Tree.elements, Tree.tokens, tokensOctets, Token.narrow, Token.octets] using hall
  | .container tag kind members, n, es, script, hn, ⟨hallowed, hlegal⟩, hdepth, hrest => by
    rw [Tree.depth] at hdepth
    have hstart : Follows (writeBack ⟨tag.tag, .container kind⟩) n
        ⟨tag.tag.wire.head kind.elementType, .ok (), n.enter kind⟩ :=
      follows_start_ok (by omega) (Nesting.check_of_allowedIn hn hallowed) kind
    have hend : Follows (writeBack ⟨.anonymous, .endOfContainer⟩) (n.enter kind)
        ⟨[0x18], .ok (), n.mark⟩ := by
      have h := follows_endContainer_of (n := n.enter kind) (Nesting.Inside.enter kind).1
      rwa [Nesting.leave_enter hn] at h
    have hinner : (n.enter kind).containers.length = n.containers.length + 1 := by
      simp [Nesting.enter]
    have hmembers := members.follows_writeAll (n := n.enter kind) (Nesting.Inside.enter kind)
      (by simp [Nesting.enter]) hlegal (by omega) (follows_writeAll_cons hend hrest)
    have hall := follows_writeAll_cons hstart hmembers
    simpa [Tree.elements, Tree.tokens, tokensOctets, Token.narrow, Token.octets, endOctet] using hall

lemma Members.follows_writeAll : ∀ (ms : Members) {n : Nesting} {kind : ContainerKind}
    {es : List Element} {script : Script Unit}, n.Inside → n.containers.getLast? = some kind →
    ms.LegalIn kind → n.containers.length + ms.depth ≤ maxDepth → Follows (writeAll es) n script →
    Follows (writeAll (ms.elements ++ es)) n
      ⟨tokensOctets (ms.tokens.map Token.narrow) ++ script.bytes, script.result, script.after⟩
  | .nil, n, kind, es, script, hn, hkind, hlegal, hdepth, hrest => hrest
  | .cons first others, n, kind, es, script, hn, hkind, ⟨hfirst, hothers⟩, hdepth, hrest => by
    rw [Members.depth] at hdepth
    have hrest' := others.follows_writeAll hn hkind hothers (by omega) hrest
    rw [← hn.mark] at hrest'
    have hall := first.follows_writeAll hn.2 (by rw [hkind]; exact hfirst) (by omega) hrest'
    simpa [Members.elements, Members.tokens, tokensOctets, List.append_assoc] using hall

end

/-! ## The loop -/

lemma reEncodeFrom_cons {r r' : TlvReader} {e : Element}
    (h : exec nextElement r = (.ok (some e), r')) (hw : exec (writeBack e) w = (.ok (), w')) :
    reEncodeFrom r w = reEncodeFrom r' w' := by
  rw [reEncodeFrom]
  split
  · simp_all
  · simp_all
  · simp_all

/-- The loop writes back the elements that are read, as far as there are any. -/
lemma reEncodeFrom_of_yields {r r' : TlvReader} {es : List Element} (h : Yields r es r') :
    ∀ {w w' : TlvWriter}, exec (writeAll es) w = (.ok (), w') →
      reEncodeFrom r w = reEncodeFrom r' w' := by
  induction h with
  | nil r =>
    intro w w' hw
    obtain ⟨-, rfl⟩ := Prod.mk.inj hw
    rfl
  | cons first others ih =>
    intro w w' hw
    obtain ⟨_, w₁, hfirst, hrest⟩ := exec_bind_eq_ok.mp hw
    rw [reEncodeFrom_cons first hfirst, ih hrest]

lemma reEncodeFrom_end {r : TlvReader} (h : r.isEmpty = true) (w : TlvWriter) :
    reEncodeFrom r w = .ok (r, w) := by
  have hrun : exec nextElement r = (.ok none, r) := by
    unfold nextElement
    rw [exec_get_bind, if_pos h, exec_pure]
  rw [reEncodeFrom]
  split
  · simp_all
  · simp_all
  · simp_all

lemma TlvWriter.Wrote.written_eq {bytes : List UInt8} (hfits : w.Fits bytes)
    (h : w.Wrote bytes n w') : w'.written = w.written ++ bytes := by
  rw [← TlvWriter.written_put hfits]
  unfold TlvWriter.written
  rw [h.buf_eq, h.pos_eq]
  rfl

/-- An encoding of one tree is compared with the same tokens in their narrowest widths, if there is as
much room as it takes. -/
lemma reEncodeIsIdentical_tree {t : Tree} {out : Slice} (hlegal : t.LegalIn none)
    (hdepth : t.depth ≤ maxDepth) (hroom : t.octets.length ≤ out.octets.length) :
    reEncodeIsIdentical t.octets out =
      .ok (decide (tokensOctets (t.tokens.map Token.narrow) = t.octets)) := by
  have hnew : (TlvReader.new t.octets).currentContainer = none := rfl
  obtain ⟨r', hyields, hfinish⟩ : (TlvReader.new t.octets).ReadsAs t.elements := by
    apply Tree.readsAs (faces_new _) _ rfl hlegal
    · exact (t.fitsDepth_iff 0).mpr (.inl (by omega))
    · rintro ⟨hdone, -⟩
      cases hdone
  have hfollows := t.follows_writeAll (n := ⟨[], false⟩) rfl hlegal (by simpa using hdepth)
    (follows_writeAll_nil _)
  rw [List.append_nil, List.append_nil] at hfollows
  have hfits : (TlvWriter.new out).Fits (tokensOctets (t.tokens.map Token.narrow)) := by
    have hshort := length_tokensOctets_narrow_le t.tokens
    rw [t.tokens_spec.1] at hshort
    show 0 + _ ≤ out.octets.length
    omega
  obtain ⟨w', hwrite, hwrote⟩ := (hfollows _ (TlvWriter.sound_new out) (TlvWriter.nesting_new out)).1
    hfits
  have hdone : w'.nesting = ⟨[], true⟩ := hwrote.nesting_eq
  have hwritten := hwrote.written_eq hfits
  have hempty : (TlvWriter.new out).written = [] := by
    simp [TlvWriter.written, TlvWriter.new]
  rw [hempty, List.nil_append] at hwritten
  have hfinish' : w'.finish = .ok (tokensOctets (t.tokens.map Token.narrow)) := by
    apply (TlvWriter.finish_eq_ok hwrote.startedInside_eq).mpr
    refine ⟨(TlvWriter.containers_eq_nil_iff hwrote.sound).mp (by rw [hdone]), ?_,
      hwrote.sound.pos_le, hwritten⟩
    exact congrArg Nesting.topLevelDone hdone
  unfold reEncodeIsIdentical
  rw [reEncodeFrom_of_yields hyields hwrite, reEncodeFrom_end (finish_eq_ok_iff.mp hfinish).2.2, ok_bind]
  dsimp only
  rw [hfinish, ok_bind, hfinish', ok_bind]
  rfl

/-- An encoding that is accepted is compared with itself in its narrowest widths. -/
lemma reEncodeIsIdentical_of_legal {out : Slice} (hlegal : Legal buf)
    (hroom : buf.length ≤ out.octets.length) :
    ∃ (t : Tree) (same : Bool), t.octets = buf ∧ reEncodeIsIdentical buf out = .ok same ∧
      (same = true ↔ t.Narrowest) := by
  obtain ⟨t, rfl, hplace, hdepth⟩ := hlegal
  refine ⟨t, _, rfl, reEncodeIsIdentical_tree hplace hdepth hroom, ?_⟩
  rw [decide_eq_true_iff]
  conv_lhs => rw [← t.tokens_spec.1]
  exact tokensOctets_narrow_eq_iff t.tokens

/-- What `validate` accepts are the octets of a legal tree. -/
lemma legal_of_validate {n : UInt64} (h : validate buf = .ok n) : Legal buf := by
  obtain ⟨m, ⟨t, hoctets, hlegal, hdepth, -⟩, -⟩ := (validate_eq_ok_iff_min buf n).mp h
  exact ⟨t, hoctets, hlegal, hdepth⟩

/-! ## What the writer writes by itself -/

/-- The second writer has written one more token, in its narrowest widths. -/
def TlvWriter.WritesToken (w w' : TlvWriter) : Prop :=
  ∃ k : Token, k.Narrowest ∧ w'.written = w.written ++ k.octets

lemma writesToken_of_value {v : Value} (hlegal : PrimitiveBody v.spelledType v.spelledBody)
    (hreads : Reads (readValue v.spelledType) v.spelledBody v)
    (h : exec (value tag v.spelledType v.spelledBody) w = (.ok (), w')) : w.WritesToken w' := by
  obtain ⟨-, hfits, rfl⟩ := value_eq_ok.mp h
  have hvalue : Primitive.value ⟨_, _, hlegal⟩ = v := Primitive.value_eq_of_reads hreads
  refine ⟨.primitive tag.wire ⟨_, _, hlegal⟩, ⟨?_, ?_⟩, ?_⟩
  · rw [← WireTag.wire_eq_iff, tag.tag_wire]
  · rw [← (Primitive.respells ⟨_, _, hlegal⟩).type_iff, hvalue]
  · rw [TlvWriter.written_mark, TlvWriter.written_put hfits]
    rfl

lemma writesToken_of_string {v : Value} {field content : List UInt8}
    (hbody : v.spelledBody = field ++ content)
    (hlegal : content.length < 2 ^ 64 → PrimitiveBody v.spelledType v.spelledBody)
    (hreads : content.length < 2 ^ 64 → Reads (readValue v.spelledType) v.spelledBody v)
    (h : exec (do head tag v.spelledType; emit field; emit content) w = (.ok (), w')) :
    w.WritesToken w' := by
  have hvalue := value_of_pieces h
  have hlen := length_lt_of_value hvalue
  rw [← hbody] at hvalue
  exact writesToken_of_value (hlegal hlen) (hreads hlen) hvalue

lemma writesToken_of_octets {v : List UInt8} (h : exec (Tlv.octets tag v) w = (.ok (), w')) :
    w.WritesToken w' := by
  apply writesToken_of_string (v := .octets v) rfl
  · intro hlen
    exact .octets (length_writeLe _ _) (counts_writeLe hlen)
  · exact reads_octets
  · exact h

/-- Every call of the writer's own that succeeds writes a token in its narrowest widths. -/
lemma WriterCall.writesToken {c : WriterCall} (h : exec c.run w = (.ok (), w')) : w.WritesToken w' := by
  cases c with
  | signed tag v =>
    exact writesToken_of_value (v := .signed v) (.signedInt (length_writeLe _ _)) (reads_signed v) h
  | unsigned tag v =>
    exact writesToken_of_value (v := .unsigned v) (.unsignedInt (length_writeLe _ _))
      (reads_unsigned v) h
  | bool tag v => exact writesToken_of_value (v := .bool v) (.bool v) reads_pure (value_of_head h)
  | null tag => exact writesToken_of_value (v := .null) .null reads_pure (value_of_head h)
  | float tag bits =>
    exact writesToken_of_value (v := .float bits)
      (.float (Tag.length_writeLe_of_le _ (by decide))) (reads_float bits) h
  | double tag bits =>
    exact writesToken_of_value (v := .double bits)
      (.double (Tag.length_writeLe_of_le _ (by decide))) (reads_double bits) h
  | utf8 tag v =>
    apply writesToken_of_string (v := .utf8 v) rfl
    · intro hlen
      exact .utf8 (length_writeLe _ _) (counts_writeLe hlen) (isValidUTF8_asBytes v)
    · exact reads_utf8
    · exact h
  | octets tag v => exact writesToken_of_octets h
  | octetsFill tag len byte =>
    rw [WriterCall.run, octetsFill_eq] at h
    exact writesToken_of_octets h
  | start tag kind =>
    obtain ⟨-, -, hfits, rfl⟩ := start_eq_ok.mp h
    refine ⟨.opening tag.wire kind, ?_, ?_⟩
    · rw [Token.Narrowest, ← WireTag.wire_eq_iff, tag.tag_wire]
    · have hoctets : elementOctets tag kind.elementType [] = tag.wire.head kind.elementType :=
        List.append_nil _
      rw [Token.octets, ← hoctets, ← TlvWriter.written_put hfits]
      exact TlvWriter.written_mark _
  | endContainer =>
    obtain ⟨-, hfits, rfl⟩ := endContainer_eq_ok.mp h
    refine ⟨.closing, trivial, ?_⟩
    rw [TlvWriter.written_mark]
    exact TlvWriter.written_put hfits

/-- The calls that do not copy octets somebody else has written. -/
def Call.Own (c : Call) : Prop := ∃ call, c = .own call

/-- A writer that has copied nothing has written tokens in their narrowest widths. -/
lemma Reached.narrowest {buf : Slice} (h : Reached (fun _ c => c.Own) buf w) :
    ∃ ks : List Token, w.written = tokensOctets ks ∧ ∀ k ∈ ks, k.Narrowest := by
  induction h with
  | new =>
    refine ⟨[], ?_, by simp⟩
    simp [TlvWriter.written, TlvWriter.new, tokensOctets]
  | call before hown hrun ih =>
    obtain ⟨ks, hwritten, hnarrow⟩ := ih
    obtain ⟨c, rfl⟩ := hown
    obtain ⟨k, hk, hmore⟩ := c.writesToken hrun
    refine ⟨ks ++ [k], ?_, ?_⟩
    · rw [hmore, hwritten, tokensOctets_append]
      simp [tokensOctets]
    · intro k' hk'
      rcases List.mem_append.mp hk' with hmem | hmem
      · exact hnarrow k' hmem
      · rw [List.mem_singleton.mp hmem]
        exact hk
  | takenBack actions before ih =>
    obtain ⟨-, hwritten⟩ := ((Packing.since_self _).actAll actions).forward.rollback
    rw [hwritten]
    exact ih

lemma Reached.composes {buf : Slice} (h : Reached (fun _ c => c.Own) buf w) :
    Reached (fun w c => c.Composes w) buf w := by
  induction h with
  | new => exact .new
  | call before hown hrun ih =>
    obtain ⟨c, rfl⟩ := hown
    have hok : ∀ w, (Call.own c).Composes w := fun _ => trivial
    exact ih.call (hok _) hrun
  | takenBack actions before ih => exact ih.takenBack actions

/-- **Re-encoding decides minimality.** Whatever `validate` accepts is re-encoded into any buffer that
is as long, and comes out the same exactly if every integer, every string length and every profile tag
number in it was written in its narrowest width; and so does whatever a writer finishes without having
copied an element. -/
theorem reEncodeIsIdentical_iff :
    (∀ (buf : List UInt8) (out : Slice) (n : UInt64), validate buf = .ok n →
      buf.length ≤ out.octets.length →
        ∃ (t : Tree) (same : Bool), t.octets = buf ∧ reEncodeIsIdentical buf out = .ok same ∧
          (same = true ↔ t.Narrowest)) ∧
    ∀ (buf out : Slice) (w : TlvWriter) (bytes : List UInt8), Reached (fun _ c => c.Own) buf w →
      w.finish = .ok bytes → bytes.length ≤ out.octets.length →
        reEncodeIsIdentical bytes out = .ok true := by
  constructor
  · intro buf out n hvalid hroom
    exact reEncodeIsIdentical_of_legal (legal_of_validate hvalid) hroom
  · intro buf out w bytes hreached hfinish hroom
    have hspelled := hreached.composes.spelled
    obtain ⟨t, same, rfl, hsame, hiff⟩ :=
      reEncodeIsIdentical_of_legal (hspelled.finish hfinish) hroom
    obtain ⟨ks, hwritten, hnarrow⟩ := hreached.narrowest
    have hbytes := ((TlvWriter.finish_eq_ok hspelled.atTop).mp hfinish).2.2.2
    have htokens : t.tokens = ks := by
      apply tokensOctets_inj
      rw [t.tokens_spec.1, ← hbytes, hwritten]
    rw [hsame, hiff.mpr (by rw [Tree.Narrowest, htokens]; exact hnarrow)]

/-- A writer that has been given 42. -/
def fortyTwo : TlvWriter := (exec (Call.own (.signed .anonymous 42)).run (.new ⟨[0, 0], by decide⟩)).2

/-- 42 in two octets comes out as something else, since one holds it; what the writer makes of it does
not. -/
theorem reEncodeIsIdentical_iff_wide :
    (∃ (t : Tree) (same : Bool), t.octets = [0x01, 0x2A, 0x00] ∧
      reEncodeIsIdentical [0x01, 0x2A, 0x00] ⟨[0, 0, 0], by decide⟩ = .ok same ∧
        (same = true ↔ t.Narrowest)) ∧
      fortyTwo.finish = .ok [0x00, 0x2A] ∧
        reEncodeIsIdentical [0x00, 0x2A] ⟨[0, 0], by decide⟩ = .ok true := by
  have hvalid : validate [0x01, 0x2A, 0x00] = .ok 1 := by
    apply (validate_eq_ok_iff_min _ _).mpr
    exact ⟨1, ⟨.primitive ⟨.anonymous, [], rfl⟩ ⟨.signedInt .two, [0x2A, 0x00], .signedInt rfl⟩, rfl,
      by simp [Tree.LegalIn, WireTag.AllowedIn], Nat.zero_le _, rfl⟩, rfl⟩
  have hfinish : fortyTwo.finish = .ok [0x00, 0x2A] := by decide +kernel
  have hrun : (exec (Call.own (.signed .anonymous 42)).run (.new ⟨[0, 0], by decide⟩)).1 = .ok () := by
    decide +kernel
  exact ⟨reEncodeIsIdentical_iff.1 _ _ 1 hvalid (by decide), hfinish,
    reEncodeIsIdentical_iff.2 _ _ fortyTwo _ (.step .new ⟨_, rfl⟩ hrun) hfinish (by decide)⟩

/-- **Encodings that follow one another are told apart.** Octets are a sequence of accepted encodings in
one way at most. -/
theorem validated_flatten_inj {as bs : List (List UInt8)} (ha : ∀ a ∈ as, ∃ n, validate a = .ok n)
    (hb : ∀ b ∈ bs, ∃ n, validate b = .ok n) (h : as.flatten = bs.flatten) : as = bs := by
  have hne : ∀ {c : List UInt8} {n : UInt64}, validate c = .ok n → c ≠ [] := by
    rintro _ n hc rfl
    obtain ⟨t, hnil, -⟩ := legal_of_validate hc
    have hcount := t.count_le_length
    have hpos : 0 < t.count := by cases t <;> simp [Tree.count]
    rw [hnil, List.length_nil] at hcount
    omega
  induction as generalizing bs with
  | nil =>
    cases bs with
    | nil => rfl
    | cons b bs =>
      obtain ⟨n, hn⟩ := hb b List.mem_cons_self
      exact absurd (List.append_eq_nil_iff.mp h.symm).1 (hne hn)
  | cons a as ih =>
    obtain ⟨n, hn⟩ := ha a List.mem_cons_self
    cases bs with
    | nil => exact absurd (List.append_eq_nil_iff.mp h).1 (hne hn)
    | cons b bs =>
      obtain ⟨m, hm⟩ := hb b List.mem_cons_self
      obtain ⟨t, rfl, -⟩ := legal_of_validate hn
      obtain ⟨u, rfl, -⟩ := legal_of_validate hm
      obtain ⟨rfl, hrest⟩ := Tree.octets_append_inj t u h
      rw [ih (fun c hc => ha c (List.mem_cons_of_mem _ hc))
        (fun c hc => hb c (List.mem_cons_of_mem _ hc)) hrest]

/-- Two numbers, and the encodings that four octets are cut into two by two. -/
theorem validated_flatten_inj_numbers :
    let as : List (List UInt8) := [[0x00, 0x2A], [0x00, 0x2B]]
    let bs := [0x2A, 0x2B].map fun number => [0x00, number]
    (∀ a ∈ as, ∃ n, validate a = .ok n) ∧ (∀ b ∈ bs, ∃ n, validate b = .ok n) ∧
      as.flatten = bs.flatten ∧ as = bs := by
  have hvalid : ∀ a ∈ ([[0x00, 0x2A], [0x00, 0x2B]] : List (List UInt8)), ∃ n, validate a = .ok n :=
    List.forall_mem_cons.mpr ⟨⟨1, by decide +kernel⟩, List.forall_mem_singleton.mpr ⟨1, by decide +kernel⟩⟩
  exact ⟨hvalid, hvalid, rfl, validated_flatten_inj hvalid hvalid rfl⟩

end MatterKit.Tlv
