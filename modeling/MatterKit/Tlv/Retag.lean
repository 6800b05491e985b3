import MatterKit.Tlv.Elements

/-!
# An element under another tag

`TlvWriter::raw_element_retagged` puts a new control octet and tag in front of an element's value, and
finds the value by skipping as many octets as the old tag takes. The length is that of the tag as the
writer would encode it; the sender may have used a wider form.

* Where the sender's form is the writer's own, what is appended is the element under its new tag: the
  same tree (`Tree.retag`).
* A number below `0x10000` in a four-octet field leaves two octets of the old tag in front of the value
  (`WireTag.drop_encodedLen`).

`retagged_reads_iff` says that this, and a position too deep for the element, is all that can go wrong.
-/

namespace MatterKit.Tlv

open Lib Machine TlvReader

/-! ## Tags as this writer writes them -/

/-- A tag in the form the writer chooses for it. -/
def Tag.wire (tag : Tag) : WireTag := ⟨tag.control, tag.encode, tag.length_encode⟩

lemma Tag.tag_wire (tag : Tag) : tag.wire.tag = tag := by
  have hread := tag.wire.decode_append (TagControl.fromBits_controlOctet tag .null) []
  have hown := tag.decode_append .null []
  obtain ⟨hsame, -⟩ := Prod.mk.inj (Except.ok.inj (hread.symm.trans hown))
  exact hsame

lemma Tag.wire_allowedIn_iff (tag : Tag) (place : Option ContainerKind) :
    tag.wire.AllowedIn place ↔ tag.allowedIn place = true := by
  have h := tag.wire.decode_octets.2.allowedIn_iff place
  rw [tag.tag_wire] at h
  exact h.symm

variable {rest src : List UInt8} {number : UInt32} {t : Tree} {e : Element} {es : List Element}
  {tag : Tag} {w : TlvWriter} {r : TlvReader} {kind : ContainerKind} {f : WireTag}

/-- A number that is read is the number the octets stand for. -/
lemma toNat_readLeU32 (hlen : src.length ≤ 4) (h : readLeU32 src = .ok number) :
    number.toNat = ofLe src := by
  have hbound : ofLe src < 2 ^ 32 := by
    calc ofLe src < 256 ^ src.length := ofLe_lt src
      _ ≤ 256 ^ 4 := Nat.pow_le_pow_right (by decide) hlen
      _ = 2 ^ 32 := by norm_num
  unfold readLeU32 at h
  rw [readLeU64_eq (by omega), ok_bind] at h
  obtain ⟨_, -, hnumber⟩ := bind_eq_ok.mp h
  rw [pure_eq_ok, Except.ok.injEq] at hnumber
  rw [← hnumber, UInt64.toNat_toUInt32, UInt64.toNat_ofNat']
  omega

/-- A number in two octets is below `0x10000`. -/
lemma lt_of_readLeU32_two (hlen : src.length = 2) (h : readLeU32 src = .ok number) : number < 0x10000 := by
  have hnumber := toNat_readLeU32 (by omega) h
  have hlt := ofLe_lt src
  rw [hlen] at hlt
  show number.toNat < 65536
  omega

/-- A number in four octets is below `0x10000` when the upper two are zero. -/
lemma drop_of_readLeU32_four (hlen : src.length = 4) (h : readLeU32 src = .ok number)
    (hsmall : number < 0x10000) : src.drop 2 = [0, 0] := by
  have hnumber := toNat_readLeU32 (by omega) h
  have hlt : number.toNat < 65536 := hsmall
  obtain ⟨a, b, c, d, rfl⟩ : ∃ a b c d, src = [a, b, c, d] := by
    rcases src with _ | ⟨a, _ | ⟨b, _ | ⟨c, _ | ⟨d, _ | ⟨x, src⟩⟩⟩⟩⟩
    · simp at hlen
    · simp at hlen
    · simp at hlen
    · simp at hlen
    · exact ⟨a, b, c, d, rfl⟩
    · simp at hlen
  simp only [ofLe] at hnumber
  have ha := a.toNat_lt
  have hc : c.toNat = 0 := by omega
  have hd : d.toNat = 0 := by omega
  obtain rfl : c = 0 := UInt8.toNat_inj.mp hc
  obtain rfl : d = 0 := UInt8.toNat_inj.mp hd
  rfl

/-- The tag that octets of a form stand for. -/
inductive WireTag.StandsFor : TagControl → List UInt8 → Tag → Prop
  | anonymous : StandsFor .anonymous [] .anonymous
  | contextSpecific (b : UInt8) : StandsFor .contextSpecific [b] (.context b)
  | common2 {src : List UInt8} {n : UInt32} (length_eq : src.length = 2)
      (reads : readLeU32 src = .ok n) : StandsFor .commonProfile2 src (.common n)
  | common4 {src : List UInt8} {n : UInt32} (length_eq : src.length = 4)
      (reads : readLeU32 src = .ok n) : StandsFor .commonProfile4 src (.common n)
  | implicit2 {src : List UInt8} {n : UInt32} (length_eq : src.length = 2)
      (reads : readLeU32 src = .ok n) : StandsFor .implicitProfile2 src (.implicit n)
  | implicit4 {src : List UInt8} {n : UInt32} (length_eq : src.length = 4)
      (reads : readLeU32 src = .ok n) : StandsFor .implicitProfile4 src (.implicit n)
  | qualified6 {v p src : List UInt8} {vendor profile n : UInt32} (vendor_eq : v.length = 2)
      (profile_eq : p.length = 2) (length_eq : src.length = 2) (reads_vendor : readLeU32 v = .ok vendor)
      (reads_profile : readLeU32 p = .ok profile) (reads : readLeU32 src = .ok n) :
      StandsFor .fullyQualified6 (v ++ p ++ src) (.fullyQualified vendor.toUInt16 profile.toUInt16 n)
  | qualified8 {v p src : List UInt8} {vendor profile n : UInt32} (vendor_eq : v.length = 2)
      (profile_eq : p.length = 2) (length_eq : src.length = 4) (reads_vendor : readLeU32 v = .ok vendor)
      (reads_profile : readLeU32 p = .ok profile) (reads : readLeU32 src = .ok n) :
      StandsFor .fullyQualified8 (v ++ p ++ src) (.fullyQualified vendor.toUInt16 profile.toUInt16 n)

/-- A tag field says its tag. -/
lemma WireTag.standsFor (f : WireTag) : WireTag.StandsFor f.control f.octets f.tag := by
  have hdecode := f.decode_octets.1
  obtain ⟨control, octets, hlen⟩ := f
  generalize WireTag.tag ⟨control, octets, hlen⟩ = tag at hdecode
  have htake : octets.take control.octets = octets := by
    rw [← hlen, List.take_length]
  unfold Tag.decode at hdecode
  simp only [fromBits_shift, htake, bind_eq_ok, pure_eq_ok] at hdecode
  obtain ⟨_, -, hdecode⟩ := hdecode
  have hparts : octets = octets.take 2 ++ (octets.drop 2).take 2 ++ octets.drop 4 := by
    have hdrop : octets.drop 4 = (octets.drop 2).drop 2 := by rw [List.drop_drop]
    rw [hdrop, List.append_assoc, List.take_append_drop, List.take_append_drop]
  cases control with
  | anonymous =>
    obtain rfl := (Prod.mk.inj (Except.ok.inj hdecode)).1
    obtain rfl : octets = [] := List.length_eq_zero_iff.mp hlen
    exact .anonymous
  | contextSpecific =>
    obtain ⟨b, hb, rfl⟩ := bind_pair_eq_ok hdecode
    obtain ⟨b', rfl⟩ := List.length_eq_one_iff.mp hlen
    obtain rfl := Option.some.inj (okOr_eq_ok.mp hb)
    exact .contextSpecific b'
  | commonProfile2 =>
    obtain ⟨number, hread, rfl⟩ := bind_pair_eq_ok hdecode
    exact .common2 hlen hread
  | commonProfile4 =>
    obtain ⟨number, hread, rfl⟩ := bind_pair_eq_ok hdecode
    exact .common4 hlen hread
  | implicitProfile2 =>
    obtain ⟨number, hread, rfl⟩ := bind_pair_eq_ok hdecode
    exact .implicit2 hlen hread
  | implicitProfile4 =>
    obtain ⟨number, hread, rfl⟩ := bind_pair_eq_ok hdecode
    exact .implicit4 hlen hread
  | fullyQualified6 =>
    obtain ⟨vendor, hvendor, hdecode⟩ := bind_eq_ok.mp hdecode
    obtain ⟨profile, hprofile, hdecode⟩ := bind_eq_ok.mp hdecode
    obtain ⟨number, hread, rfl⟩ := bind_pair_eq_ok hdecode
    have hsix : octets.length = 6 := hlen
    dsimp only
    rw [hparts]
    exact .qualified6 (by rw [List.length_take]; omega)
      (by rw [List.length_take, List.length_drop]; omega) (by rw [List.length_drop]; omega)
      hvendor hprofile hread
  | fullyQualified8 =>
    obtain ⟨vendor, hvendor, hdecode⟩ := bind_eq_ok.mp hdecode
    obtain ⟨profile, hprofile, hdecode⟩ := bind_eq_ok.mp hdecode
    obtain ⟨number, hread, rfl⟩ := bind_pair_eq_ok hdecode
    have height : octets.length = 8 := hlen
    dsimp only
    rw [hparts]
    exact .qualified8 (by rw [List.length_take]; omega)
      (by rw [List.length_take, List.length_drop]; omega) (by rw [List.length_drop]; omega)
      hvendor hprofile hread

/-- Behind as many octets of a tag field as its tag would take, there are none left of it when its
form is the one the tag would be given, and two zero octets otherwise. -/
lemma WireTag.drop_encodedLen (f : WireTag) :
    f.octets.drop f.tag.encodedLen = if f.control = f.tag.control then [] else [0, 0] := by
  have h := f.standsFor
  generalize f.control = control, f.octets = octets, f.tag = tag at h ⊢
  cases h with
  | anonymous => rfl
  | contextSpecific b => rfl
  | common2 hlen hread | implicit2 hlen hread =>
    have hsmall := lt_of_readLeU32_two hlen hread
    simp [Tag.encodedLen, Tag.control, TagControl.octets, hsmall, hlen]
  | @common4 _ number hlen hread | @implicit4 _ number hlen hread =>
    by_cases hsmall : number < 0x10000
    · simp [Tag.encodedLen, Tag.control, hsmall, TagControl.octets,
        drop_of_readLeU32_four hlen hread hsmall]
    · simp [Tag.encodedLen, Tag.control, TagControl.octets, hsmall, hlen]
  | qualified6 hvendor hprofile hlen _ _ hread =>
    have hsmall := lt_of_readLeU32_two hlen hread
    simp [Tag.encodedLen, Tag.control, TagControl.octets, hsmall, hvendor, hprofile, hlen]
  | @qualified8 _ _ _ _ _ number hvendor hprofile hlen _ _ hread =>
    by_cases hsmall : number < 0x10000
    · have hzeros := drop_of_readLeU32_four hlen hread hsmall
      have hpast : ∀ {l : List UInt8} {n : ℕ}, l.length = 2 → 2 ≤ n → l.drop n = [] :=
        fun hlen hle => List.drop_of_length_le (hlen.trans_le hle)
      simp [Tag.encodedLen, Tag.control, TagControl.octets, hsmall, List.drop_append, hvendor, hprofile,
        hzeros, hpast]
    · simp [Tag.encodedLen, Tag.control, TagControl.octets, hsmall, hvendor, hprofile, hlen]

/-- A tag never takes more octets than the field it was read from. -/
lemma WireTag.encodedLen_le (f : WireTag) : f.tag.encodedLen ≤ f.octets.length := by
  have hdrop := f.drop_encodedLen
  split_ifs at hdrop with hform
  · rw [Tag.encodedLen, ← hform, f.length_eq]
  · have hlen := congrArg List.length hdrop
    rw [List.length_drop] at hlen
    simp at hlen
    omega

/-! ## Trees under another tag -/

namespace Tree

/-- The tag field an element starts with. -/
def field : Tree → WireTag
  | .primitive tag _ | .container tag _ _ => tag

/-- The element type in an element's control octet. -/
def type : Tree → ElementType
  | .primitive _ value => value.type
  | .container _ kind _ => kind.elementType

/-- What follows an element's tag. -/
def content : Tree → List UInt8
  | .primitive _ value => value.body
  | .container _ _ members => members.octets ++ [endOctet]

/-- The same element under another tag. -/
def retag (tag : WireTag) : Tree → Tree
  | .primitive _ value => .primitive tag value
  | .container _ kind members => .container tag kind members

lemma octets_eq (t : Tree) : t.octets = t.field.head t.type ++ t.content := by
  cases t <;> rfl

lemma octets_retag (t : Tree) (tag : WireTag) : (t.retag tag).octets = tag.head t.type ++ t.content := by
  cases t <;> rfl

lemma LegalIn.retag {t : Tree} {place place' : Option ContainerKind} {tag : WireTag}
    (h : t.LegalIn place) (hallowed : tag.AllowedIn place') : (t.retag tag).LegalIn place' := by
  cases t with
  | primitive f value => exact hallowed
  | container f kind members => exact ⟨hallowed, h.2⟩

/-- Under another tag an element is read as before, but for the tag. -/
lemma elements_retag {t : Tree} {e : Element} {es : List Element} (h : t.elements = e :: es)
    (tag : WireTag) : (t.retag tag).elements = ⟨tag.tag, e.value⟩ :: es := by
  cases t with
  | primitive f value | container f kind members =>
    obtain ⟨rfl, rfl⟩ := List.cons.inj h
    rfl

lemma tag_of_elements {t : Tree} {e : Element} {es : List Element} (h : t.elements = e :: es) :
    e.tag = t.field.tag := by
  cases t with
  | primitive f value | container f kind members => rw [← (List.cons.inj h).1, field]

end Tree

/-! ## What is appended -/

/-- The low five bits of a control octet are the element type. -/
lemma control_and_type (control : TagControl) (ty : ElementType) :
    (control.bits <<< 5 ||| ty.bits) &&& 0x1F = ty.bits := by
  rcases ty with (_ | _ | _ | _) | (_ | _ | _ | _) | (_ | _) | _ | _ | (_ | _ | _ | _) |
    (_ | _ | _ | _) | _ | _ | _ | _ | _ <;> cases control <;> rfl

/-- What is appended for an element that is put under another tag: its value, and in front of it two
octets of the old tag when that took a wider form than its tag would be given. -/
def retagged (t : Tree) (tag : Tag) : List UInt8 :=
  tag.wire.head t.type ++ ((if t.field.control = t.field.tag.control then [] else [0, 0]) ++ t.content)

/-- An element that is retagged may stand where the writer is, and is appended so. -/
lemma rawElementRetagged_of_ok {w w' : TlvWriter}
    (helements : (newIn t.octets .list).ReadsAs (e :: es)) (htag : e.tag = t.field.tag)
    (h : exec (rawElementRetagged t.octets tag) w = (.ok (), w')) :
    w.Admits tag ∧ w.Fits (retagged t tag) ∧ w' = (w.put (retagged t tag)).mark := by
  unfold rawElementRetagged at h
  obtain ⟨first, w₁, hcheck, h₁⟩ := exec_bind_eq_ok.mp h
  rw [exec_ofResult] at hcheck
  obtain ⟨hraw, rfl⟩ := Prod.mk.inj hcheck
  obtain ⟨fs, hfirst⟩ := readsAs_of_rawCheck hraw
  obtain ⟨rfl, -⟩ := List.cons.inj (helements.unique hfirst)
  obtain ⟨control, w₂, hcontrol, h₂⟩ := exec_bind_eq_ok.mp h₁
  rw [exec_ofResult] at hcontrol
  obtain ⟨hhead, rfl⟩ := Prod.mk.inj hcontrol
  obtain ⟨hle, h₃⟩ := exec_require_bind_eq_ok.mp h₂
  obtain ⟨_, w₃, hallowed, h₄⟩ := exec_bind_eq_ok.mp h₃
  obtain ⟨hadmits, hsame⟩ := checkTag_eq_ok.mp hallowed
  obtain ⟨_, w₄, hemit, hmark⟩ := exec_bind_eq_ok.mp h₄
  rw [exec_modify] at hmark
  have hcut : (tag.controlBits ||| (control &&& 0x1F)) :: tag.encode ++
      t.octets.drop (e.tag.encodedLen + 1) = retagged t tag := by
    have hcontrol : control = t.field.control.bits <<< 5 ||| t.type.bits := by
      rw [t.octets_eq] at hhead
      exact (Option.some.inj (okOr_eq_ok.mp hhead)).symm
    have hdrop : t.octets.drop (e.tag.encodedLen + 1) =
        t.field.octets.drop t.field.tag.encodedLen ++ t.content := by
      rw [t.octets_eq, htag, WireTag.head, List.cons_append, List.drop_succ_cons,
        List.drop_append_of_le_length t.field.encodedLen_le]
    rw [hdrop, hcontrol, control_and_type, t.field.drop_encodedLen]
    rfl
  rw [hcut, hsame] at hemit
  obtain ⟨hfits, rfl⟩ := emit_eq_ok.mp hemit
  exact ⟨hadmits, hfits, (Prod.mk.inj hmark).2.symm⟩

/-! ## What it is read as -/

/-- A cursor stands where the writer stands: as deep, and in the same container. -/
structure StandsAt (w : TlvWriter) (r : TlvReader) : Prop where
  depth_eq : r.depth = w.depth
  place_eq : r.currentContainer = w.currentContainer
  base_le : r.baseDepth ≤ r.depth
  isOpen : r.Open

/-- In the writer's own form the element is read under its new tag, if the position is not too
deep. -/
lemma yields_retagged (hlegal : t.LegalIn (some .list)) (helements : t.elements = e :: es)
    (hadmits : w.Admits tag) (hstands : StandsAt w r)
    (hform : t.field.control = t.field.tag.control) (hfaces : r.Faces (retagged t tag ++ rest))
    (hdepth : fitsDepth w.depth (e :: es) = true) :
    ∃ r', Yields r (⟨tag, e.value⟩ :: es) r' ∧ r'.Faces rest := by
  have hallowed : tag.wire.AllowedIn r.currentContainer := by
    rw [tag.wire_allowedIn_iff, hstands.place_eq]
    exact hadmits.allowed
  have helements' : (t.retag tag.wire).elements = ⟨tag, e.value⟩ :: es := by
    rw [Tree.elements_retag helements, tag.tag_wire]
  have hfront : r.Faces ((t.retag tag.wire).octets ++ rest) := by
    rw [Tree.octets_retag]
    unfold retagged at hfaces
    rwa [if_pos hform, List.nil_append] at hfaces
  obtain ⟨r', hyields, hbehind, -⟩ := (t.retag tag.wire).yields r rest hfront hstands.isOpen
    hstands.base_le (hlegal.retag hallowed) (by
      rw [helements', hstands.depth_eq]
      exact hdepth)
  rw [helements'] at hyields
  exact ⟨r', hyields, hbehind⟩

/-- Two readings from one cursor that leave the same octets are the same. -/
lemma Yields.eq_of_faces {r r₁ r₂ : TlvReader} {es fs : List Element} (h : Yields r es r₁)
    (h' : Yields r fs r₂) (hfaces : r₁.Faces rest) (hfaces' : r₂.Faces rest) : es = fs := by
  have hl := hfaces.length_eq
  have hl' := hfaces'.length_eq
  rcases Nat.le_total es.length fs.length with hle | hle
  · obtain ⟨more, rfl, hmore⟩ := h.split h' hle
    have hprogress := hmore.progress
    obtain rfl : more = [] := List.length_eq_zero_iff.mp (by omega)
    exact (List.append_nil _).symm
  · obtain ⟨more, rfl, hmore⟩ := h'.split h hle
    have hprogress := hmore.progress
    obtain rfl : more = [] := List.length_eq_zero_iff.mp (by omega)
    exact List.append_nil _

/-- The members of a container and its end are read, and the cursor is behind them. -/
lemma Members.yields_end {ms : Members} (hfaces : r.Faces (ms.octets ++ endOctet :: rest))
    (hinside : r.baseDepth < r.depth) (hplace : r.currentContainer = some kind)
    (hlegal : ms.LegalIn kind) (hdepth : fitsDepth r.depth ms.elements = true) :
    ∃ r', Yields r (ms.elements ++ [⟨.anonymous, .endOfContainer⟩]) r' ∧ r'.Faces rest := by
  obtain ⟨r₁, hyields, hfaces₁, hstays⟩ := ms.yields r kind _ hfaces hinside hplace hlegal hdepth
  have hclosing : Token.closing.FitsIn r₁ := by
    show r₁.baseDepth < r₁.depth
    rw [hstays.baseDepth_eq, hstays.depth_eq]
    exact hinside
  have hlast := nextElement_of_token (t := .closing) hfaces₁ (open_of_lt hclosing) hclosing
  exact ⟨_, hyields.append (.cons hlast (.nil _)), Faces.after (t := .closing) hfaces₁⟩

/-- A primitive token is the only one that starts with its tag and type. -/
lemma Token.primitive_of_octets {ty : ElementType} {body rest rest' : List UInt8}
    (hbody : PrimitiveBody ty body) {k : Token} (h : f.head ty ++ body ++ rest = k.octets ++ rest') :
    ∃ p : Primitive, k = .primitive f p ∧ p.type = ty ∧ body ++ rest = p.body ++ rest' := by
  rw [List.append_assoc] at h
  cases k with
  | primitive g p =>
    rw [Token.octets, List.append_assoc] at h
    obtain ⟨rfl, rfl, hrest⟩ := WireTag.head_append_inj h
    exact ⟨p, rfl, rfl, hrest⟩
  | opening g kind => exact absurd (WireTag.head_append_inj h).2.1 (hbody.ne_elementType kind)
  | closing => exact absurd h (WireTag.head_ne_end hbody.ne_endOfContainer)

/-- The start of a container is the only token that starts with its tag and type. -/
lemma Token.opening_of_octets {rest rest' : List UInt8} {k : Token}
    (h : f.head kind.elementType ++ rest = k.octets ++ rest') : k = .opening f kind ∧ rest = rest' := by
  cases k with
  | primitive g p =>
    rw [Token.octets, List.append_assoc] at h
    exact absurd (WireTag.head_append_inj h).2.1.symm (p.legal.ne_elementType kind)
  | opening g kind' =>
    obtain ⟨rfl, hkind, rfl⟩ := WireTag.head_append_inj h
    obtain rfl := ContainerKind.elementType_inj hkind
    exact ⟨rfl, rfl⟩
  | closing => exact absurd h (WireTag.head_ne_end kind.elementType_ne_endOfContainer)

/-- A primitive value is not read with two octets in front of it: the type and the value say how many
octets there are. -/
lemma not_yields_shifted {v : Primitive} {r r' : TlvReader}
    (hfaces : r.Faces (f.head v.type ++ ([0, 0] ++ v.body) ++ rest)) (hyields : Yields r [e] r')
    (hbehind : r'.Faces rest) : e.value ≠ v.value := by
  intro hvalue
  cases hyields with
  | cons first others =>
    cases others
    obtain ⟨-, k, rest', hbytes, hfits, rfl, rfl⟩ := token_of_yield hfaces first
    rw [hbytes] at hfaces
    obtain rfl : rest = rest' := by
      rw [← hbehind.remaining_eq, hfaces.after.remaining_eq]
    have hoctets := List.append_cancel_right hbytes
    cases k with
    | primitive g p =>
      obtain ⟨-, htype, hbody⟩ := WireTag.head_append_inj hoctets
      have hlen := p.value_spec.2.2
      have hlen' := v.value_spec.2.2
      rw [← hbody, ← htype, show p.value = v.value from hvalue, ← hlen'] at hlen
      simp only [List.length_append, List.length_cons, List.length_nil] at hlen
      omega
    | opening g kind =>
      have hoctets' : f.head v.type ++ ([0, 0] ++ v.body) = g.head kind.elementType ++ [] := by
        rw [hoctets, List.append_nil]
        rfl
      exact v.legal.ne_elementType kind (WireTag.head_append_inj hoctets').2.1
    | closing => exact WireTag.head_ne_end v.legal.ne_endOfContainer hoctets

/-- Two zero octets are read as an anonymous number, if anything is read from them. -/
lemma yields_zeros {r r' : TlvReader} (hfaces : r.Faces ([0, 0] ++ rest))
    (hrun : exec nextElement r = (.ok (some e), r')) : r'.Faces rest ∧ r.Stays r' := by
  obtain ⟨-, k, rest', hbytes, -, rfl, -⟩ := token_of_yield hfaces hrun
  have hzero : PrimitiveBody (.signedInt .one) [0] := .signedInt rfl
  have hfront : WireTag.head ⟨.anonymous, [], rfl⟩ (.signedInt .one) ++ [0] ++ rest =
      k.octets ++ rest' := hbytes
  obtain ⟨p, rfl, htype, hbody⟩ := Token.primitive_of_octets hzero hfront
  have hlegal := p.legal
  rw [htype] at hlegal
  obtain ⟨-, rfl⟩ := hzero.append_inj hlegal hbody
  rw [hbytes] at hfaces
  exact ⟨hfaces.after, (Stays.advance r _).trans (.mark _)⟩

/-- Behind a wider form two zero octets are read as part of the value, and it is not the element any
more. -/
lemma not_yields_retagged {r r' : TlvReader} (hlegal : t.LegalIn (some .list))
    (helements : t.elements = e :: es) (hstands : StandsAt w r)
    (hform : t.field.control ≠ t.field.tag.control) (hfaces : r.Faces (retagged t tag ++ rest))
    (hyields : Yields r (⟨tag, e.value⟩ :: es) r') (hbehind : r'.Faces rest) : False := by
  unfold retagged at hfaces
  rw [if_neg hform] at hfaces
  cases t with
  | primitive f v =>
    obtain ⟨rfl, rfl⟩ := List.cons.inj helements
    exact not_yields_shifted hfaces hyields hbehind rfl
  | container f kind ms =>
    obtain ⟨rfl, rfl⟩ := List.cons.inj helements
    have hdepth := hyields.fitsDepth
    rw [fitsDepth_cons, Bool.and_eq_true] at hdepth
    have hroom : r.depth < maxDepth := by simpa [hasRoom, Value.container?] using hdepth.1
    cases hyields with
    | cons first others =>
      obtain ⟨-, k, inside, hbytes, -, rfl, -⟩ := token_of_yield hfaces first
      rw [List.append_assoc] at hbytes
      obtain ⟨rfl, rfl⟩ := Token.opening_of_octets hbytes
      have hin := entered_opening hstands.base_le hroom tag.wire kind
      rw [List.append_assoc] at hfaces
      have hfaces₁ := Faces.after (t := .opening tag.wire kind) hfaces
      -- the two octets are read as a first member that was not there
      obtain ⟨e₁, es₁, hcons⟩ : ∃ e₁ es₁, ms.elements ++ [⟨.anonymous, .endOfContainer⟩] =
          e₁ :: es₁ := List.exists_cons_of_ne_nil (by simp)
      have hread := others
      rw [hcons] at hread
      cases hread with
      | @cons _ r₂ _ _ _ first₁ others₁ =>
        obtain ⟨hfaces₂, hstays⟩ := yields_zeros hfaces₁ first₁
        have hinner := others.fitsDepth
        rw [ms.fitsDepth_append_iff] at hinner
        have hmembers : (ms.octets ++ [endOctet]) ++ rest = ms.octets ++ endOctet :: rest := by
          rw [List.append_assoc]
          rfl
        have hfront : r₂.Faces (ms.octets ++ endOctet :: rest) := by
          rw [← hmembers]
          exact hfaces₂
        obtain ⟨r₄, hyields₄, hbehind₄⟩ := ms.yields_end hfront
          (by
            rw [hstays.baseDepth_eq, hstays.depth_eq, hin.depth_eq, hin.baseDepth_eq]
            exact Nat.lt_succ_of_le hstands.base_le)
          (hstays.currentContainer_eq.trans hin.place_eq) hlegal.2
          (by rw [hstays.depth_eq]; exact (ms.fitsDepth_iff _).mpr hinner.1)
        have hsame := others₁.eq_of_faces hyields₄ hbehind hbehind₄
        rw [hcons] at hsame
        exact absurd (congrArg List.length hsame) (by simp)

/-- **When an element that is retagged keeps its value.** What a successful call appends for an element
of a list is read where the writer stands as the same elements under the new tag, exactly when the tag
was in the form this writer gives it and the element's containers fit below the bound from there. -/
theorem retagged_reads_iff {bytes : List UInt8} {tag : Tag} {e : Element} {es : List Element}
    {w w' : TlvWriter} (hone : (newIn bytes .list).ReadsAs (e :: es))
    (hrun : exec (rawElementRetagged bytes tag) w = (.ok (), w')) :
    ∃ appended, w'.written = w.written ++ appended ∧
      ∀ (r : TlvReader) (rest : List UInt8), StandsAt w r → r.Faces (appended ++ rest) →
        ((∃ r', Yields r (⟨tag, e.value⟩ :: es) r' ∧ r'.Faces rest) ↔
          TagControl.fromBits (bytes.headD 0) = e.tag.control ∧ fitsDepth w.depth (e :: es) = true) := by
  obtain ⟨t, rfl, hlegal, helements⟩ := exists_tree_of_newIn hone
  have htag := Tree.tag_of_elements helements
  obtain ⟨hadmits, hfits, rfl⟩ := rawElementRetagged_of_ok hone htag hrun
  have hform : TagControl.fromBits (t.octets.headD 0) = t.field.control := by
    rw [t.octets_eq]
    exact (fromBits_or_bits t.field.control t.type).2
  refine ⟨retagged t tag, ?_, fun r rest hstands hfaces => ?_⟩
  · rw [TlvWriter.written_mark, TlvWriter.written_put hfits]
  · rw [hform, htag]
    constructor
    · rintro ⟨r', hyields, hbehind⟩
      refine ⟨?_, ?_⟩
      · by_contra hwide
        exact not_yields_retagged hlegal helements hstands hwide hfaces hyields hbehind
      · have hdepth := hyields.fitsDepth
        rw [hstands.depth_eq] at hdepth
        exact hdepth
    · rintro ⟨hnarrow, hdepth⟩
      exact yields_retagged hlegal helements hadmits hstands hnarrow hfaces hdepth

/-- A writer inside an array. -/
def arrayWriter : TlvWriter := .newIn ⟨List.replicate 16 0, Slice.length_replicate (by decide)⟩ .array

/-- The number 42 under the common profile tag 1 with its number in two octets. -/
def narrowNumber : List UInt8 := [0x44, 0x01, 0x00, 0x2A]

/-- The number 42 under the common profile tag 1 with its number in four octets. -/
def wideNumber : List UInt8 := [0x64, 0x01, 0x00, 0x00, 0x00, 0x2A]

lemma narrowNumber_readsAs : (newIn narrowNumber .list).ReadsAs [⟨.common 1, .unsigned 42⟩] := by
  have hfirst : (exec nextElement (newIn narrowNumber .list)).1 =
      .ok (some ⟨.common 1, .unsigned 42⟩) := by
    decide +kernel
  have hfinish : (exec nextElement (newIn narrowNumber .list)).2.finish = .ok () := by
    decide +kernel
  exact ⟨_, .cons (Prod.ext hfirst rfl) (.nil _), hfinish⟩

lemma wideNumber_readsAs : (newIn wideNumber .list).ReadsAs [⟨.common 1, .unsigned 42⟩] := by
  have hfirst : (exec nextElement (newIn wideNumber .list)).1 =
      .ok (some ⟨.common 1, .unsigned 42⟩) := by
    decide +kernel
  have hfinish : (exec nextElement (newIn wideNumber .list)).2.finish = .ok () := by
    decide +kernel
  exact ⟨_, .cons (Prod.ext hfirst rfl) (.nil _), hfinish⟩

/-- In the narrow form the number is read back from an array it was put into. -/
theorem retagged_reads_iff_narrow :
    ∃ w' appended, exec (rawElementRetagged narrowNumber .anonymous) arrayWriter = (.ok (), w') ∧
      w'.written = arrayWriter.written ++ appended ∧
      ∀ (r : TlvReader) (rest : List UInt8), StandsAt arrayWriter r → r.Faces (appended ++ rest) →
        ∃ r', Yields r [⟨.anonymous, .unsigned 42⟩] r' ∧ r'.Faces rest := by
  have hok : (exec (rawElementRetagged narrowNumber .anonymous) arrayWriter).1 = .ok () := by
    decide +kernel
  obtain ⟨appended, hwritten, hreads⟩ :=
    retagged_reads_iff narrowNumber_readsAs (Prod.ext hok rfl)
  refine ⟨_, appended, Prod.ext hok rfl, hwritten, fun r rest hstands hfaces => ?_⟩
  exact (hreads r rest hstands hfaces).mpr ⟨rfl, rfl⟩

/-- In the wide form it is not: the call succeeds, and a cursor where the writer stands reads the
number 0 from what it appends. -/
theorem retagged_value_lost : (newIn wideNumber .list).ReadsAs [⟨.common 1, .unsigned 42⟩] ∧
      (exec (rawElementRetagged wideNumber .anonymous) arrayWriter).1 = .ok () ∧
      (exec (rawElementRetagged wideNumber .anonymous) arrayWriter).2.written =
        arrayWriter.written ++ [0x04, 0x00, 0x00, 0x2A] ∧
      StandsAt arrayWriter (newIn [0x04, 0x00, 0x00, 0x2A] .array) ∧
      ¬ ∃ r', Yields (newIn [0x04, 0x00, 0x00, 0x2A] .array) [⟨.anonymous, .unsigned 42⟩] r' := by
  have hfirst : (exec nextElement (newIn [0x04, 0x00, 0x00, 0x2A] .array)).1 =
      .ok (some ⟨.anonymous, .unsigned 0⟩) := by
    decide +kernel
  refine ⟨wideNumber_readsAs, by decide +kernel, by decide +kernel,
    ⟨rfl, rfl, Nat.le_refl _, by simp [Open, newIn, new]⟩, ?_⟩
  rintro ⟨r', hyields⟩
  cases hyields with
  | cons first others =>
    rw [first] at hfirst
    simp at hfirst

end MatterKit.Tlv
