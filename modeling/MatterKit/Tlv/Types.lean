import MatterKit.Bytes

/-!
# Element types and tags

The vocabulary of a TLV encoding, `tlv/types.rs`: a control octet carries an element type in its low
five bits and a tag form in its high three; integers and lengths take one, two, four or eight octets.

* A control octet gives back the element type and the tag form it was made of
  (`ElementType.fromBits_controlOctet`, `Tag.decode_append`).
* A number is read back from the low octets it was written in, at any width that holds it
  (`readLeU64_writeLe`), and so is a signed one, by sign extension (`readLeI64_writeLe`).
-/

namespace MatterKit.Tlv

open Lib Cursor

/-! ## Element types -/

/-- How many octets a length or integer field occupies.
Source: `Width`. -/
inductive Width
  | one
  | two
  | four
  | eight
  deriving DecidableEq

namespace Width

/-- The two bits a width is packed into.
Source: `Width`, its discriminants. -/
def bits : Width → UInt8
  | .one => 0
  | .two => 1
  | .four => 2
  | .eight => 3

/-- Source: `Width::octets`. -/
def octets : Width → ℕ
  | .one => 1
  | .two => 2
  | .four => 4
  | .eight => 8

/-- Source: `Width::from_bits`. -/
def fromBits (bits : UInt8) : Width :=
  if bits &&& 3 = 0 then .one
  else if bits &&& 3 = 1 then .two
  else if bits &&& 3 = 2 then .four
  else .eight

/-- The narrowest width that holds `value` as an unsigned integer.
Source: `Width::for_unsigned`. -/
def forUnsigned (value : UInt64) : Width :=
  if value ≤ 0xFF then .one
  else if value ≤ 0xFFFF then .two
  else if value ≤ 0xFFFFFFFF then .four
  else .eight

/-- The narrowest width that holds `value` as a two's-complement integer.
Source: `Width::for_signed`. -/
def forSigned (value : Int64) : Width :=
  let v := value.toInt
  if -2 ^ 7 ≤ v ∧ v ≤ 2 ^ 7 - 1 then .one
  else if -2 ^ 15 ≤ v ∧ v ≤ 2 ^ 15 - 1 then .two
  else if -2 ^ 31 ≤ v ∧ v ≤ 2 ^ 31 - 1 then .four
  else .eight

lemma octets_le (w : Width) : w.octets ≤ 8 := by
  cases w <;> decide

/-- The narrowest unsigned width holds its value. -/
lemma forUnsigned_holds (value : UInt64) : value.toNat < 256 ^ (forUnsigned value).octets := by
  have hmax := value.toNat_lt
  unfold forUnsigned
  simp only [UInt64.le_iff_toNat_le]
  split_ifs with h₁ h₂ h₃
  · have : value.toNat ≤ 255 := h₁
    simp only [octets]
    omega
  · have : value.toNat ≤ 65535 := h₂
    simp only [octets]
    omega
  · have : value.toNat ≤ 4294967295 := h₃
    simp only [octets]
    omega
  · simp only [octets]
    omega

/-- The narrowest signed width holds its value and its sign. -/
lemma forSigned_holds (value : Int64) : -2 ^ (8 * (forSigned value).octets - 1) ≤ value.toInt ∧
      value.toInt < 2 ^ (8 * (forSigned value).octets - 1) := by
  have hmin := value.le_toInt
  have hmax := value.toInt_lt
  unfold forSigned
  simp only
  split_ifs with h₁ h₂ h₃
  · simp only [octets]
    omega
  · simp only [octets]
    omega
  · simp only [octets]
    omega
  · simp only [octets]
    omega

end Width

/-- Which of the three container types an element opens; `struct` is `Structure`.
Source: `ContainerKind`. -/
inductive ContainerKind
  | struct
  | array
  | list
  deriving DecidableEq

/-- The element type field, the low five bits of a control octet.
Source: `ElementType`. -/
inductive ElementType
  | signedInt (w : Width)
  | unsignedInt (w : Width)
  | bool (value : Bool)
  | float
  | double
  | utf8 (w : Width)
  | octets (w : Width)
  | null
  | struct
  | array
  | list
  | endOfContainer
  deriving DecidableEq

/-- The element type that opens a container.
Source: `ContainerKind::element_type`. -/
def ContainerKind.elementType : ContainerKind → ElementType
  | .struct => .struct
  | .array => .array
  | .list => .list

namespace ElementType

/-- Reads the low five bits of a control octet; the types from `0x19` on are reserved.
Source: `ElementType::from_bits`. -/
def fromBits (bits : UInt8) : Except ErrorCode ElementType :=
  let t := bits &&& 0x1F
  if t ≤ 0x03 then .ok (.signedInt (.fromBits t))
  else if t ≤ 0x07 then .ok (.unsignedInt (.fromBits t))
  else if t = 0x08 then .ok (.bool false)
  else if t = 0x09 then .ok (.bool true)
  else if t = 0x0A then .ok .float
  else if t = 0x0B then .ok .double
  else if t ≤ 0x0F then .ok (.utf8 (.fromBits t))
  else if t ≤ 0x13 then .ok (.octets (.fromBits t))
  else if t = 0x14 then .ok .null
  else if t = 0x15 then .ok .struct
  else if t = 0x16 then .ok .array
  else if t = 0x17 then .ok .list
  else if t = 0x18 then .ok .endOfContainer
  else .error .tlvInvalidControl

/-- The low five bits a type encodes as.
Source: `ElementType::bits`. -/
def bits : ElementType → UInt8
  | .signedInt w => w.bits
  | .unsignedInt w => 0x04 ||| w.bits
  | .bool false => 0x08
  | .bool true => 0x09
  | .float => 0x0A
  | .double => 0x0B
  | .utf8 w => 0x0C ||| w.bits
  | .octets w => 0x10 ||| w.bits
  | .null => 0x14
  | .struct => 0x15
  | .array => 0x16
  | .list => 0x17
  | .endOfContainer => 0x18

end ElementType

/-! ## Numbers -/

/-- The low `n` octets of `value`.
Source: `write_le`. -/
def writeLe (value : UInt64) (n : ℕ) : List UInt8 := (leU64 value).take n

/-- The loop of `read_le_u64`, at the octet of index `i`. -/
def readLeLoop (out : UInt64) (i : ℕ) : List UInt8 → UInt64
  | [] => out
  | b :: src => readLeLoop (out ||| (b.toUInt64 <<< (8 * UInt64.ofNat i))) (i + 1) src

/-- Source: `read_le_u64`. -/
def readLeU64 (src : List UInt8) : Except ErrorCode UInt64 := do
  ensure (src.length ≤ 8) .tlvOutOfRange
  pure (readLeLoop 0 0 src)

/-- Source: `read_le_u32`. -/
def readLeU32 (src : List UInt8) : Except ErrorCode UInt32 := do
  let v ← readLeU64 src
  ensure (v.toNat < 2 ^ 32) .tlvOutOfRange
  pure v.toUInt32

/-- Sign-extends a two's-complement integer: shifted to the top, then back arithmetically.
Source: `read_le_i64`. -/
def readLeI64 (src : List UInt8) : Except ErrorCode Int64 := do
  let raw ← readLeU64 src
  let bits := 8 * src.length
  if bits = 0 ∨ 64 ≤ bits then pure raw.toInt64
  else
    let shift := UInt64.ofNat (64 - bits)
    pure ((raw <<< shift).toInt64 >>> shift.toInt64)

lemma writeLe_eq (value : UInt64) {n : ℕ} (hn : n ≤ 8) : writeLe value n = leBytes n value.toNat :=
  take_leBytes 8 value.toNat hn

@[simp] lemma length_writeLe (value : UInt64) (w : Width) : (writeLe value w.octets).length = w.octets := by
  rw [writeLe_eq value w.octets_le, length_leBytes]

/-- What the loop of `read_le_u64` has gathered: each octet at its place. -/
lemma toNat_readLeLoop (src : List UInt8) (out : UInt64) (i : ℕ) (hout : out.toNat < 256 ^ i)
    (hi : i + src.length ≤ 8) : (readLeLoop out i src).toNat = out.toNat + 256 ^ i * ofLe src := by
  induction src generalizing out i with
  | nil => simp [readLeLoop, ofLe]
  | cons b src ih =>
    rw [List.length_cons] at hi
    have hb : b.toNat < 256 := b.toNat_lt
    have hpow : (2 : ℕ) ^ (8 * i) = 256 ^ i := by rw [pow_mul]; norm_num
    have hshift : (8 * UInt64.ofNat i).toNat = 8 * i := by
      rw [UInt64.toNat_mul, UInt64.toNat_ofNat', Nat.mod_eq_of_lt (show i < 2 ^ 64 by omega)]
      show 8 * i % 2 ^ 64 = 8 * i
      omega
    have hfit : b.toNat * 256 ^ i < 2 ^ 64 := by
      calc b.toNat * 256 ^ i < 256 * 256 ^ i := by
            exact Nat.mul_lt_mul_of_pos_right hb (by positivity)
        _ = 256 ^ (i + 1) := by rw [pow_succ']
        _ ≤ 256 ^ 8 := Nat.pow_le_pow_right (by decide) (by omega)
        _ = 2 ^ 64 := by norm_num
    have hoctet : (b.toUInt64 <<< (8 * UInt64.ofNat i)).toNat = b.toNat <<< (8 * i) := by
      rw [UInt64.toNat_shiftLeft, hshift, Nat.mod_eq_of_lt (show 8 * i < 64 by omega),
        UInt8.toNat_toUInt64, Nat.mod_eq_of_lt]
      rw [Nat.shiftLeft_eq, hpow]
      exact hfit
    have hnext : (out ||| (b.toUInt64 <<< (8 * UInt64.ofNat i))).toNat =
        out.toNat + 256 ^ i * b.toNat := by
      rw [UInt64.toNat_or, hoctet, Nat.or_comm,
        ← Nat.shiftLeft_add_eq_or_of_lt (by rw [hpow]; exact hout), Nat.shiftLeft_eq, hpow]
      ring
    unfold readLeLoop
    rw [ih _ (i + 1) ?_ (by omega), hnext]
    · simp only [ofLe]
      ring
    · rw [hnext, pow_succ]
      nlinarith

/-- Source octets are read as the number they stand for. -/
lemma readLeU64_eq {src : List UInt8} (h : src.length ≤ 8) :
    readLeU64 src = .ok (UInt64.ofNat (ofLe src)) := by
  have hloop := toNat_readLeLoop src 0 0 (by simp) (by omega)
  unfold readLeU64
  rw [ensure_of h, ok_bind, pure_eq_ok, ← UInt64.ofNat_toNat (x := readLeLoop 0 0 src), hloop]
  simp

/-- A number is read back from any width that holds it. -/
lemma readLeU64_writeLe {value : UInt64} {n : ℕ} (hn : n ≤ 8) (h : value.toNat < 256 ^ n) :
    readLeU64 (writeLe value n) = .ok value := by
  rw [writeLe_eq value hn, readLeU64_eq (by simpa using hn), ofLe_leBytes_of_lt h, UInt64.ofNat_toNat]

/-! ## Sign extension -/

/-- Shifting a word to the top and arithmetically back. -/
lemma toInt_shift_up_down (raw : UInt64) {s : ℕ} (hs : s < 64) :
    ((raw <<< UInt64.ofNat s).toInt64 >>> (UInt64.ofNat s).toInt64).toInt =
      (raw.toNat * 2 ^ s : ℤ).bmod (2 ^ 64) / 2 ^ s := by
  have hword : (UInt64.ofNat s).toNat = s := by
    rw [UInt64.toNat_ofNat', Nat.mod_eq_of_lt (by omega)]
  have hup : (raw <<< UInt64.ofNat s).toInt64.toInt = (raw.toNat * 2 ^ s : ℤ).bmod (2 ^ 64) := by
    show (raw <<< UInt64.ofNat s).toBitVec.toInt = _
    rw [BitVec.toInt_eq_toNat_bmod]
    have htoNat : (raw <<< UInt64.ofNat s).toBitVec.toNat = raw.toNat * 2 ^ s % 2 ^ 64 := by
      have := UInt64.toNat_shiftLeft raw (UInt64.ofNat s)
      rw [hword, Nat.mod_eq_of_lt hs, Nat.shiftLeft_eq] at this
      exact this
    have hbmod := Int.emod_bmod (raw.toNat * 2 ^ s : ℤ) (2 ^ 64)
    rw [← hbmod, htoNat]
    push_cast
    rfl
  have hamount : ((UInt64.ofNat s).toInt64.toBitVec.smod 64).toNat = s := by
    have hall : ∀ s < 64, ((UInt64.ofNat s).toInt64.toBitVec.smod 64).toNat = s := by
      decide +kernel
    exact hall s hs
  have hdown : ∀ a : Int64, (a >>> (UInt64.ofNat s).toInt64).toInt = a.toInt / 2 ^ s := by
    intro a
    show (a.toBitVec.sshiftRight ((UInt64.ofNat s).toInt64.toBitVec.smod 64).toNat).toInt = _
    rw [hamount, BitVec.toInt_sshiftRight, Int.shiftRight_eq_div_pow]
    rfl
  rw [hdown, hup]

/-- An integer that fits `64 - s` bits with its sign survives being cut to them and extended
again. -/
lemma signExtend_cut (value : Int64) {s : ℕ} (hs : s < 64) (hlo : -2 ^ (63 - s) ≤ value.toInt)
    (hhi : value.toInt < 2 ^ (63 - s)) {raw : UInt64}
    (hraw : raw.toNat = value.toUInt64.toNat % 2 ^ (64 - s)) :
    (raw <<< UInt64.ofNat s).toInt64 >>> (UInt64.ofNat s).toInt64 = value := by
  have hword : (value.toUInt64.toNat : ℤ) % 2 ^ 64 = value.toInt % 2 ^ 64 := by
    show (value.toBitVec.toNat : ℤ) % 2 ^ 64 = value.toBitVec.toInt % 2 ^ 64
    rw [BitVec.toInt_eq_toNat_bmod]
    exact (Int.bmod_emod (x := value.toBitVec.toNat) (m := 2 ^ 64)).symm
  have hsplit : (2 : ℤ) ^ 64 = 2 ^ s * 2 ^ (64 - s) := by
    rw [← pow_add, Nat.add_sub_cancel' hs.le]
  -- both products have the same remainder, because `s` and `64 - s` bits make a word
  have hcongr : (raw.toNat * 2 ^ s : ℤ) % 2 ^ 64 = (value.toInt * 2 ^ s) % 2 ^ 64 := by
    have hlow : (raw.toNat : ℤ) % 2 ^ (64 - s) = value.toInt % 2 ^ (64 - s) := by
      have hdvd : (2 : ℤ) ^ (64 - s) ∣ 2 ^ 64 := pow_dvd_pow 2 (by omega)
      rw [hraw]
      push_cast
      rw [Int.emod_emod_of_dvd _ (dvd_refl _), ← Int.emod_emod_of_dvd _ hdvd, hword,
        Int.emod_emod_of_dvd _ hdvd]
    rw [mul_comm, mul_comm value.toInt, hsplit, Int.mul_emod_mul_of_pos _ _ (by positivity), hlow,
      Int.mul_emod_mul_of_pos _ _ (by positivity)]
  have hbmod : (raw.toNat * 2 ^ s : ℤ).bmod (2 ^ 64) = value.toInt * 2 ^ s := by
    have hhalf : (2 : ℤ) ^ (63 - s) * 2 ^ s = 2 ^ 63 := by
      rw [← pow_add, Nat.sub_add_cancel (by omega)]
    have hpos : (0 : ℤ) < 2 ^ s := by positivity
    have hlo' : -2 ^ 63 ≤ value.toInt * 2 ^ s := by
      rw [← hhalf, ← neg_mul]
      exact mul_le_mul_of_nonneg_right hlo hpos.le
    have hhi' : value.toInt * 2 ^ s < 2 ^ 63 := by
      rw [← hhalf]
      exact mul_lt_mul_of_pos_right hhi hpos
    rw [Int.bmod_eq_iff (by positivity)]
    refine ⟨?_, ?_, ?_⟩
    · norm_num
      omega
    · norm_num
      omega
    · exact_mod_cast Int.ModEq.dvd hcongr
  apply Int64.toInt.inj
  rw [toInt_shift_up_down raw hs, hbmod]
  exact Int.mul_ediv_cancel _ (by positivity)

/-- A signed number is read back from any width that holds it with its sign. -/
lemma readLeI64_writeLe (value : Int64) (w : Width)
    (hlo : -2 ^ (8 * w.octets - 1) ≤ value.toInt) (hhi : value.toInt < 2 ^ (8 * w.octets - 1)) :
    readLeI64 (writeLe value.toUInt64 w.octets) = .ok value := by
  have hpos : 0 < w.octets := by cases w <;> decide
  have hle := w.octets_le
  have hraw : readLeU64 (writeLe value.toUInt64 w.octets) =
      .ok (UInt64.ofNat (value.toUInt64.toNat % 256 ^ w.octets)) := by
    rw [writeLe_eq _ hle, readLeU64_eq (by simpa using hle), ofLe_leBytes]
  unfold readLeI64
  rw [hraw, ok_bind, length_writeLe]
  by_cases hfull : 64 ≤ 8 * w.octets
  · have height : w.octets = 8 := by omega
    have hall : value.toUInt64.toNat % 256 ^ w.octets = value.toUInt64.toNat := by
      rw [height]
      exact Nat.mod_eq_of_lt value.toUInt64.toNat_lt
    rw [hall, UInt64.ofNat_toNat]
    simp only [hfull, or_true, if_true]
    rfl
  · have hneither : ¬ (8 * w.octets = 0 ∨ 64 ≤ 8 * w.octets) := by omega
    simp only [hneither, if_false]
    rw [pure_eq_ok]
    have h63 : 63 - (64 - 8 * w.octets) = 8 * w.octets - 1 := by omega
    have h64 : 64 - (64 - 8 * w.octets) = 8 * w.octets := by omega
    have hpow : (256 : ℕ) ^ w.octets = 2 ^ (8 * w.octets) := by
      rw [pow_mul]
      norm_num
    congr 1
    apply signExtend_cut value (by omega)
    · rw [h63]
      exact hlo
    · rw [h63]
      exact hhi
    · rw [h64, ← hpow, UInt64.toNat_ofNat', Nat.mod_eq_of_lt]
      exact lt_of_le_of_lt (Nat.mod_le _ _) value.toUInt64.toNat_lt

/-! ## Tags -/

/-- The tag control field, the high three bits of a control octet.
Source: `TagControl`. -/
inductive TagControl
  | anonymous
  | contextSpecific
  | commonProfile2
  | commonProfile4
  | implicitProfile2
  | implicitProfile4
  | fullyQualified6
  | fullyQualified8
  deriving DecidableEq

namespace TagControl

/-- Source: `TagControl`, its discriminants. -/
def bits : TagControl → UInt8
  | .anonymous => 0
  | .contextSpecific => 1
  | .commonProfile2 => 2
  | .commonProfile4 => 3
  | .implicitProfile2 => 4
  | .implicitProfile4 => 5
  | .fullyQualified6 => 6
  | .fullyQualified8 => 7

/-- Source: `TagControl::from_bits`. -/
def fromBits (bits : UInt8) : TagControl :=
  let t := bits >>> 5
  if t = 0 then .anonymous
  else if t = 1 then .contextSpecific
  else if t = 2 then .commonProfile2
  else if t = 3 then .commonProfile4
  else if t = 4 then .implicitProfile2
  else if t = 5 then .implicitProfile4
  else if t = 6 then .fullyQualified6
  else .fullyQualified8

/-- Source: `TagControl::octets`. -/
def octets : TagControl → ℕ
  | .anonymous => 0
  | .contextSpecific => 1
  | .commonProfile2 | .implicitProfile2 => 2
  | .commonProfile4 | .implicitProfile4 => 4
  | .fullyQualified6 => 6
  | .fullyQualified8 => 8

end TagControl

/-- An element's tag.
Source: `Tag`. -/
inductive Tag
  | anonymous
  | context (n : UInt8)
  | common (n : UInt32)
  | implicit (n : UInt32)
  | fullyQualified (vendor profile : UInt16) (number : UInt32)
  deriving DecidableEq

namespace Tag

/-- Source: `Tag::is_anonymous`. -/
def isAnonymous (tag : Tag) : Bool := decide (tag = .anonymous)

/-- Whether this is a context-specific tag.
Source: `Tag::context`, `is_some` of it. -/
def isContext : Tag → Bool
  | .context _ => true
  | _ => false

/-- The tag form, given the width the number needs.
Source: `Tag::control`. -/
def control : Tag → TagControl
  | .anonymous => .anonymous
  | .context _ => .contextSpecific
  | .common n => if n < 0x10000 then .commonProfile2 else .commonProfile4
  | .implicit n => if n < 0x10000 then .implicitProfile2 else .implicitProfile4
  | .fullyQualified _ _ n => if n < 0x10000 then .fullyQualified6 else .fullyQualified8

/-- Source: `Tag::encoded_len`. -/
def encodedLen (tag : Tag) : ℕ := tag.control.octets

/-- Source: `Tag::control_bits`. -/
def controlBits (tag : Tag) : UInt8 := tag.control.bits <<< 5

/-- The tag octets.
Source: `Tag::encode`. -/
def encode (tag : Tag) : List UInt8 :=
  match tag with
  | .anonymous => []
  | .context t => [t]
  | .common number | .implicit number => writeLe number.toUInt64 tag.encodedLen
  | .fullyQualified vendor profile number =>
    writeLe vendor.toUInt64 2 ++ writeLe profile.toUInt64 2 ++
      writeLe number.toUInt64 (tag.encodedLen - 4)

/-- Reads a tag of the form named by `controlBits`, with the number of octets it took.
Source: `Tag::decode`. -/
def decode (controlBits : UInt8) (buf : List UInt8) : Except ErrorCode (Tag × ℕ) := do
  let control := TagControl.fromBits controlBits
  let n := control.octets
  ensure (n ≤ buf.length) .tlvTruncated
  let src := buf.take n
  let tag ← match control with
    | .anonymous => pure .anonymous
    | .contextSpecific => do
      let b ← okOr src.head? .tlvTruncated
      pure (.context b)
    | .commonProfile2 | .commonProfile4 => do
      let number ← readLeU32 src
      pure (.common number)
    | .implicitProfile2 | .implicitProfile4 => do
      let number ← readLeU32 src
      pure (.implicit number)
    | .fullyQualified6 | .fullyQualified8 => do
      let vendor ← readLeU32 (src.take 2)
      let profile ← readLeU32 ((src.drop 2).take 2)
      let number ← readLeU32 (src.drop 4)
      pure (.fullyQualified vendor.toUInt16 profile.toUInt16 number)
  pure (tag, n)

/-- Which tag forms a position admits: no context-specific tag at the top level, no anonymous member
in a structure, nothing else in an array.
Source: the `match` that `TlvReader::check_tag` and `TlvWriter::check_tag` share. -/
def allowedIn (tag : Tag) : Option ContainerKind → Bool
  | none => !tag.isContext
  | some .struct => !tag.isAnonymous
  | some .array => tag.isAnonymous
  | some .list => true

/-- The control octet of an element with this tag and type.
Source: `TlvWriter::head`, `*control`. -/
def controlOctet (tag : Tag) (ty : ElementType) : UInt8 := tag.controlBits ||| ty.bits

end Tag

/-! ## Control octets and tags read back -/

/-- The two fields of a control octet do not overlap. -/
lemma fromBits_or_bits (control : TagControl) (ty : ElementType) :
    ElementType.fromBits (control.bits <<< 5 ||| ty.bits) = .ok ty ∧
      TagControl.fromBits (control.bits <<< 5 ||| ty.bits) = control := by
  rcases ty with (_ | _ | _ | _) | (_ | _ | _ | _) | (_ | _) | _ | _ | (_ | _ | _ | _) |
    (_ | _ | _ | _) | _ | _ | _ | _ | _ <;> cases control <;> exact ⟨rfl, rfl⟩

lemma ElementType.fromBits_controlOctet (tag : Tag) (ty : ElementType) :
    ElementType.fromBits (tag.controlOctet ty) = .ok ty :=
  (fromBits_or_bits tag.control ty).1

lemma TagControl.fromBits_controlOctet (tag : Tag) (ty : ElementType) :
    TagControl.fromBits (tag.controlOctet ty) = tag.control :=
  (fromBits_or_bits tag.control ty).2

/-- A 32-bit number is read back from any width that holds it. -/
lemma readLeU32_writeLe {number : UInt32} {n : ℕ} (hn : n ≤ 8) (h : number.toNat < 256 ^ n) :
    readLeU32 (writeLe number.toUInt64 n) = .ok number := by
  unfold readLeU32
  rw [readLeU64_writeLe hn (by simpa using h), ok_bind, ensure_of (by simpa using number.toNat_lt)]
  simp

/-- A 16-bit number is read back from two octets. -/
lemma readLeU32_writeLe_two (v : UInt16) : readLeU32 (writeLe v.toUInt64 2) = .ok v.toUInt32 := by
  have hv := v.toNat_lt
  have hread : readLeU32 (writeLe v.toUInt32.toUInt64 2) = .ok v.toUInt32 :=
    readLeU32_writeLe (by decide) (by simpa using hv)
  rw [UInt16.toUInt64_toUInt32] at hread
  exact hread

namespace Tag

/-- A tag number takes two octets below `0x10000` and four from there on, and is read back from
them. -/
lemma readLeU32_number (number : UInt32) {n : ℕ} (hn : n = if number < 0x10000 then 2 else 4) :
    readLeU32 (writeLe number.toUInt64 n) = .ok number := by
  have hmax := number.toNat_lt
  subst hn
  split
  · rename_i h
    have hlt : number.toNat < 65536 := h
    exact readLeU32_writeLe (by decide) (by omega)
  · exact readLeU32_writeLe (by decide) (by omega)

lemma length_writeLe_of_le (value : UInt64) {n : ℕ} (hn : n ≤ 8) : (writeLe value n).length = n := by
  rw [writeLe_eq value hn, length_leBytes]

lemma length_encode (tag : Tag) : tag.encode.length = tag.encodedLen := by
  cases tag with
  | anonymous | context n => rfl
  | common n | implicit n =>
    apply length_writeLe_of_le
    simp only [encodedLen, control]
    split <;> decide
  | fullyQualified vendor profile number =>
    simp only [encode, List.length_append]
    rw [length_writeLe_of_le _ (by decide), length_writeLe_of_le _ (by decide), length_writeLe_of_le]
    · simp only [encodedLen, control]
      split <;> rfl
    · simp only [encodedLen, control]
      split <;> decide

/-- A tag is read back, whatever follows it. -/
lemma decode_append (tag : Tag) (ty : ElementType) (rest : List UInt8) :
    decode (tag.controlOctet ty) (tag.encode ++ rest) = .ok (tag, tag.encodedLen) := by
  have hlen := length_encode tag
  have hfits : tag.control.octets ≤ (tag.encode ++ rest).length := by
    rw [List.length_append, hlen]
    exact Nat.le_add_right _ _
  have hsrc : (tag.encode ++ rest).take tag.control.octets = tag.encode := by
    rw [List.take_append_of_le_length (by rw [hlen]; exact le_rfl), List.take_of_length_le]
    rw [hlen]
    exact le_rfl
  unfold decode
  simp only [TagControl.fromBits_controlOctet, ensure_of hfits, ok_bind, hsrc]
  cases tag with
  | anonymous | context n => rfl
  | common n =>
    have hread : readLeU32 (encode (.common n)) = .ok n := by
      apply readLeU32_number
      simp only [encodedLen, control]
      split <;> rfl
    by_cases hn : n < 0x10000
    · simp [control, encodedLen, hn, hread]
    · simp [control, encodedLen, hn, hread]
  | implicit n =>
    have hread : readLeU32 (encode (.implicit n)) = .ok n := by
      apply readLeU32_number
      simp only [encodedLen, control]
      split <;> rfl
    by_cases hn : n < 0x10000
    · simp [control, encodedLen, hn, hread]
    · simp [control, encodedLen, hn, hread]
  | fullyQualified vendor profile number =>
    have hvendor : (encode (.fullyQualified vendor profile number)).take 2 =
        writeLe vendor.toUInt64 2 := by
      simp [encode, length_writeLe_of_le]
    have hprofile : ((encode (.fullyQualified vendor profile number)).drop 2).take 2 =
        writeLe profile.toUInt64 2 := by
      simp [encode, length_writeLe_of_le]
    have hnumber : readLeU32 ((encode (.fullyQualified vendor profile number)).drop 4) =
        .ok number := by
      have hdrop : (encode (.fullyQualified vendor profile number)).drop 4 =
          writeLe number.toUInt64 (encodedLen (.fullyQualified vendor profile number) - 4) := by
        simp [encode, length_writeLe_of_le, List.drop_append]
      rw [hdrop]
      apply readLeU32_number
      simp only [encodedLen, control]
      split <;> rfl
    by_cases hn : number < 0x10000
    · simp [control, encodedLen, hn, hvendor, hprofile, hnumber, readLeU32_writeLe_two]
    · simp [control, encodedLen, hn, hvendor, hprofile, hnumber, readLeU32_writeLe_two]

end Tag

end MatterKit.Tlv
