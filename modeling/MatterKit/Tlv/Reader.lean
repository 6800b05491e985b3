import MatterKit.Lib.Machine
import MatterKit.Tlv.Types

/-!
# The TLV reader

`TlvReader` of `tlv/reader.rs`: a cursor over an octet string that yields one element at a time, with a
fixed stack of the containers it is inside. `nextElement` is written in the stages of the source: the
control octet, then the end of a container or a tag and a value.

What the reader makes of an encoding is stated from the front of what it has not read yet
(`TlvReader.Faces`): `nextElement_value` for an element whose octets are a control octet, a tag and a
body that its type reads as a value (`Reads`), `nextElement_container` for the start of a container and
`nextElement_end` for its end.
-/

namespace MatterKit.Tlv

open Lib Machine

/-! ## Elements -/

/-- A decoded value; a float is its bit pattern, and a container is its start.
Source: `Value`. -/
inductive Value
  | signed (v : Int64)
  | unsigned (v : UInt64)
  | bool (v : Bool)
  | float (bits : UInt32)
  | double (bits : UInt64)
  | utf8 (v : String)
  | octets (v : List UInt8)
  | null
  | container (kind : ContainerKind)
  | endOfContainer
  deriving DecidableEq

/-- Source: `Element`. -/
structure Element where
  tag : Tag
  value : Value
  deriving DecidableEq

/-- Source: Rust `core::str::from_utf8`. -/
def fromUtf8 (bytes : List UInt8) : Option String := String.fromUTF8? ⟨bytes.toArray⟩

/-- Source: Rust `str::as_bytes`. -/
def asBytes (s : String) : List UInt8 := s.toByteArray.data.toList

/-- The octets of a string are that string in UTF-8. -/
lemma toByteArray_asBytes (s : String) : (⟨(asBytes s).toArray⟩ : ByteArray) = s.toByteArray := by
  simp [asBytes]

lemma isValidUTF8_asBytes (s : String) : ByteArray.IsValidUTF8 ⟨(asBytes s).toArray⟩ := by
  rw [toByteArray_asBytes]
  exact s.isValidUTF8

lemma fromUtf8_asBytes (s : String) : fromUtf8 (asBytes s) = some s := by
  unfold fromUtf8 String.fromUTF8?
  rw [toByteArray_asBytes, dif_pos s.isValidUTF8]
  rfl

variable {body bytes rest : List UInt8} {tag : Tag}

/-- Valid octets are those of a string. -/
lemma fromUtf8_of_valid (hvalid : ByteArray.IsValidUTF8 ⟨bytes.toArray⟩) :
    fromUtf8 bytes = some (String.fromUTF8 _ hvalid) := by
  rw [fromUtf8, String.fromUTF8?, dif_pos hvalid]

lemma asBytes_of_fromUtf8 {s : String} (h : fromUtf8 bytes = some s) : asBytes s = bytes := by
  unfold fromUtf8 String.fromUTF8? at h
  split at h
  · cases h
    rfl
  · cases h

/-! ## The reader -/

/-- How deeply containers may nest.
Source: `MAX_DEPTH`. -/
def maxDepth : ℕ := 16

/-- A cursor over an encoding.
Source: `TlvReader`. -/
structure TlvReader where
  buf : List UInt8
  pos : ℕ
  stack : Vector ContainerKind maxDepth
  depth : ℕ
  topLevelDone : Bool
  many : Bool
  startedInside : Bool
  deriving DecidableEq

/-- A computation on a reader. -/
abbrev Reading (α : Type) := Machine TlvReader ErrorCode α

namespace TlvReader

/-- Source: `TlvReader::new`. -/
def new (buf : List UInt8) : TlvReader where
  buf := buf
  pos := 0
  stack := Vector.replicate maxDepth .struct
  depth := 0
  topLevelDone := false
  many := false
  startedInside := false

/-- Starts reading as though inside a container.
Source: `TlvReader::new_in`. -/
def newIn (buf : List UInt8) (container : ContainerKind) : TlvReader :=
  { new buf with stack := Vector.replicate maxDepth container, depth := 1, startedInside := true }

/-- Source: `TlvReader::remaining`. -/
def remaining (r : TlvReader) : List UInt8 := r.buf.drop r.pos

/-- Source: `TlvReader::is_empty`. -/
def isEmpty (r : TlvReader) : Bool := decide (r.buf.length ≤ r.pos)

/-- The depth the cursor started at.
Source: `TlvReader::base_depth`. -/
def baseDepth (r : TlvReader) : ℕ := if r.startedInside then 1 else 0

/-- The container the cursor is directly inside.
Source: `TlvReader::current_container`. -/
def currentContainer (r : TlvReader) : Option ContainerKind :=
  if r.depth = 0 then none else r.stack[r.depth - 1]?

/-- The same cursor `n` octets further. -/
def advance (r : TlvReader) (n : ℕ) : TlvReader := { r with pos := r.pos + n }

/-- Notes that the top-level element is complete, if the cursor is back where it started.
Source: `TlvReader::next_element`, `self.top_level_done = true`. -/
def mark (r : TlvReader) : TlvReader :=
  if r.depth = r.baseDepth then { r with topLevelDone := true } else r

/-- The same cursor inside one more container. -/
def enter (r : TlvReader) (kind : ContainerKind) : TlvReader :=
  { r with stack := r.stack.setIfInBounds r.depth kind, depth := r.depth + 1 }

/-- The same cursor out of the innermost container. -/
def leave (r : TlvReader) : TlvReader := { r with depth := r.depth - 1 }

end TlvReader

open TlvReader

/-- Source: `TlvReader::take`. -/
def take (n : ℕ) : Reading (List UInt8) := do
  let r ← get
  require (r.pos + n ≤ r.buf.length) .tlvTruncated
  modify fun r => r.advance n
  pure (r.remaining.take n)

/-- A length field and then that many octets.
Source: `TlvReader::take_string`. -/
def takeString (w : Width) : Reading (List UInt8) := do
  let field ← take w.octets
  let len ← ofResult (readLeU64 field)
  take len.toNat

/-- Source: `TlvReader::next_element`, the container branch of `match element_type`. -/
def openContainer (kind : ContainerKind) : Reading Value := do
  let r ← get
  require (r.depth < maxDepth) .tlvDepthExceeded
  modify fun r => r.enter kind
  pure (.container kind)

/-- Source: `TlvReader::next_element`, `match element_type`. -/
def readValue : ElementType → Reading Value
  | .signedInt w => do
    let v ← ofResult (readLeI64 (← take w.octets))
    pure (.signed v)
  | .unsignedInt w => do
    let v ← ofResult (readLeU64 (← take w.octets))
    pure (.unsigned v)
  | .bool v => pure (.bool v)
  | .float => do
    let raw ← ofResult (readLeU64 (← take 4))
    require (raw.toNat < 2 ^ 32) .tlvOutOfRange
    pure (.float raw.toUInt32)
  | .double => do
    let raw ← ofResult (readLeU64 (← take 8))
    pure (.double raw)
  | .utf8 w => do
    let s ← ofResult (okOr (fromUtf8 (← takeString w)) .tlvInvalidUtf8)
    pure (.utf8 s)
  | .octets w => do
    let bytes ← takeString w
    pure (.octets bytes)
  | .null => pure .null
  | .struct => openContainer .struct
  | .array => openContainer .array
  | .list => openContainer .list
  | .endOfContainer => throw .tlvInvalidControl

/-- The end of a container: control octet `0x18` exactly, and never out of where the cursor started.
Source: `TlvReader::next_element`, the end-of-container branch. -/
def endElement (control : UInt8) : Reading (Option Element) := do
  require (control = 0x18) .tlvInvalidControl
  let r ← get
  require (r.depth ≠ 0) .tlvContainerMismatch
  require (r.baseDepth ≤ r.depth - 1) .tlvContainerMismatch
  modify fun r => r.leave.mark
  pure (some ⟨.anonymous, .endOfContainer⟩)

/-- An element with a tag and a value, after its control octet.
Source: `TlvReader::next_element`, from `Tag::decode`. -/
def taggedElement (control : UInt8) (elementType : ElementType) : Reading (Option Element) := do
  let r ← get
  let (tag, tagLen) ← ofResult (Tag.decode control r.remaining)
  modify fun r => r.advance tagLen
  let r ← get
  require (tag.allowedIn r.currentContainer = true) .tlvInvalidTag
  let value ← readValue elementType
  modify mark
  pure (some ⟨tag, value⟩)

/-- Reads the next element, or nothing at the end of the octets.
Source: `TlvReader::next_element`. -/
def nextElement : Reading (Option Element) := do
  let r ← get
  if r.isEmpty then pure none
  else do
    require (¬ (r.topLevelDone = true ∧ r.many = false ∧ r.depth = r.baseDepth)) .tlvContainerMismatch
    let control ← take 1
    let control := control.headD 0
    let elementType ← ofResult (ElementType.fromBits control)
    if elementType = .endOfContainer then endElement control
    else taggedElement control elementType

/-- Source: `TlvReader::finish`. -/
def TlvReader.finish (r : TlvReader) : Except ErrorCode Unit := do
  ensure (r.depth = r.baseDepth) .tlvContainerMismatch
  ensure (r.topLevelDone = true) .tlvTruncated
  ensure (r.isEmpty = true) .tlvContainerMismatch

/-! ## Reading from the front -/

/-- The cursor stands in front of `bytes`, which is all there is left. -/
def TlvReader.Faces (r : TlvReader) (bytes : List UInt8) : Prop :=
  ∃ seen, r.buf = seen ++ bytes ∧ r.pos = seen.length

namespace TlvReader

lemma faces_new (buf : List UInt8) : (new buf).Faces buf := ⟨[], rfl, rfl⟩

variable {r : TlvReader} {bytes : List UInt8}

lemma Faces.remaining_eq (h : r.Faces bytes) : r.remaining = bytes := by
  obtain ⟨seen, hbuf, hpos⟩ := h
  unfold remaining
  rw [hbuf, hpos, List.drop_left]

lemma Faces.length_eq (h : r.Faces bytes) : r.buf.length = r.pos + bytes.length := by
  obtain ⟨seen, hbuf, hpos⟩ := h
  rw [hbuf, hpos, List.length_append]

lemma Faces.advance {body rest : List UInt8} (h : r.Faces (body ++ rest)) :
    (r.advance body.length).Faces rest := by
  obtain ⟨seen, hbuf, hpos⟩ := h
  refine ⟨seen ++ body, ?_, ?_⟩
  · show r.buf = seen ++ body ++ rest
    rw [hbuf, List.append_assoc]
  · show r.pos + body.length = (seen ++ body).length
    rw [hpos, List.length_append]

lemma Faces.mark (h : r.Faces bytes) : r.mark.Faces bytes := by
  unfold TlvReader.mark
  split
  · exact h
  · exact h

lemma Faces.isEmpty_eq (h : r.Faces bytes) : r.isEmpty = true ↔ bytes = [] := by
  rw [isEmpty, decide_eq_true_iff, h.length_eq, ← List.length_eq_zero_iff]
  omega

lemma advance_add (r : TlvReader) (m n : ℕ) : (r.advance m).advance n = r.advance (m + n) := by
  simp only [advance, Nat.add_assoc]

end TlvReader

/-- A computation that reads `body` as `a` wherever it stands in front of it, and consumes just
that. -/
def Reads {α : Type} (x : Reading α) (body : List UInt8) (a : α) : Prop :=
  ∀ (r : TlvReader) (rest : List UInt8), r.Faces (body ++ rest) →
    exec x r = (.ok a, r.advance body.length)

section Reads

variable {α β : Type} {x : Reading α} {f : α → Reading β} {a : α} {b : β} {body : List UInt8}

lemma Reads.bind {body₁ body₂ : List UInt8} (hx : Reads x body₁ a) (hf : Reads (f a) body₂ b) :
    Reads (x >>= f) (body₁ ++ body₂) b := by
  intro r rest h
  rw [List.append_assoc] at h
  rw [exec_bind_ok (hx r _ h), hf _ rest h.advance, advance_add, ← List.length_append]

/-- A reading whose second part consumes nothing. -/
lemma Reads.bind_pure (hx : Reads x body a) (hf : Reads (f a) [] b) : Reads (x >>= f) body b := by
  have h := hx.bind hf
  rw [List.append_nil] at h
  exact h

lemma reads_pure : Reads (pure a) [] a := by
  intro r rest _
  rfl

lemma reads_ofResult {y : Except ErrorCode α} (h : y = .ok a) : Reads (ofResult y) [] a := by
  intro r rest _
  rw [exec_ofResult, h]
  rfl

lemma reads_require {p : Prop} [Decidable p] (h : p) {e : ErrorCode} : Reads (require p e) [] () := by
  intro r rest _
  rw [exec_require_of h]
  rfl

end Reads

lemma reads_take {n : ℕ} (hn : body.length = n) : Reads (take n) body body := by
  intro r rest h
  have hfits : r.pos + n ≤ r.buf.length := by
    rw [h.length_eq, List.length_append]
    omega
  unfold take
  rw [exec_get_bind, exec_require_bind hfits,
    exec_modify_bind, exec_pure, h.remaining_eq, ← hn, List.take_left]

/-- A length field and that many octets are read as the octets. -/
lemma reads_takeString (h : bytes.length < 2 ^ 64) : Reads (takeString (.forUnsigned (.ofNat bytes.length)))
      (writeLe (.ofNat bytes.length) (Width.forUnsigned (.ofNat bytes.length)).octets ++ bytes)
      bytes := by
  have hlen : (UInt64.ofNat bytes.length).toNat = bytes.length := by
    rw [UInt64.toNat_ofNat', Nat.mod_eq_of_lt h]
  have hholds := Width.forUnsigned_holds (.ofNat bytes.length)
  apply Reads.bind (reads_take (length_writeLe _ _))
  apply Reads.bind (reads_ofResult (readLeU64_writeLe (Width.octets_le _) hholds))
  rw [hlen]
  exact reads_take rfl

/-! ## Values -/

lemma reads_signed (value : Int64) : Reads (readValue (.signedInt (.forSigned value)))
      (writeLe value.toUInt64 (Width.forSigned value).octets) (.signed value) := by
  obtain ⟨hlo, hhi⟩ := Width.forSigned_holds value
  apply Reads.bind_pure (reads_take (length_writeLe _ _))
  exact (reads_ofResult (readLeI64_writeLe value _ hlo hhi)).bind_pure reads_pure

lemma reads_unsigned (value : UInt64) : Reads (readValue (.unsignedInt (.forUnsigned value)))
      (writeLe value (Width.forUnsigned value).octets) (.unsigned value) := by
  have hholds := Width.forUnsigned_holds value
  apply Reads.bind_pure (reads_take (length_writeLe _ _))
  exact (reads_ofResult (readLeU64_writeLe (Width.octets_le _) hholds)).bind_pure reads_pure

lemma reads_float (bits : UInt32) : Reads (readValue .float) (writeLe bits.toUInt64 4) (.float bits) := by
  have hlt : bits.toUInt64.toNat < 256 ^ 4 := by simpa using bits.toNat_lt
  apply Reads.bind_pure (reads_take (Tag.length_writeLe_of_le _ (by decide)))
  apply Reads.bind_pure (reads_ofResult (readLeU64_writeLe (by decide) hlt))
  apply Reads.bind_pure (reads_require (by simpa using hlt))
  rw [UInt32.toUInt32_toUInt64]
  exact reads_pure

lemma reads_double (bits : UInt64) : Reads (readValue .double) (writeLe bits 8) (.double bits) := by
  apply Reads.bind_pure (reads_take (Tag.length_writeLe_of_le _ (by decide)))
  exact (reads_ofResult (readLeU64_writeLe (by decide) bits.toNat_lt)).bind_pure reads_pure

lemma reads_utf8 {value : String} (h : (asBytes value).length < 2 ^ 64) :
    Reads (readValue (.utf8 (.forUnsigned (.ofNat (asBytes value).length))))
      (writeLe (.ofNat (asBytes value).length)
        (Width.forUnsigned (.ofNat (asBytes value).length)).octets ++ asBytes value) (.utf8 value) := by
  have hvalid : okOr (fromUtf8 (asBytes value)) ErrorCode.tlvInvalidUtf8 = .ok value := by
    rw [fromUtf8_asBytes]
    rfl
  apply (reads_takeString h).bind_pure
  exact (reads_ofResult hvalid).bind_pure reads_pure

lemma reads_octets {value : List UInt8} (h : value.length < 2 ^ 64) :
    Reads (readValue (.octets (.forUnsigned (.ofNat value.length))))
      (writeLe (.ofNat value.length) (Width.forUnsigned (.ofNat value.length)).octets ++ value)
      (.octets value) :=
  (reads_takeString h).bind_pure reads_pure

/-! ## Elements -/

/-- A top-level element may still be read. -/
abbrev TlvReader.Open (r : TlvReader) : Prop :=
  ¬ (r.topLevelDone = true ∧ r.many = false ∧ r.depth = r.baseDepth)

variable {r : TlvReader}

/-- In front of a control octet, `nextElement` branches on the element type in it. -/
lemma nextElement_control {control : UInt8} {ty : ElementType} (h : r.Faces (control :: rest))
    (hopen : r.Open) (hty : ElementType.fromBits control = .ok ty) : exec nextElement r =
      exec (if ty = .endOfContainer then endElement control else taggedElement control ty)
        (r.advance 1) := by
  have hmore : ¬ r.isEmpty = true := by
    rw [h.isEmpty_eq]
    simp
  have htake : Reads (take 1) [control] [control] := reads_take rfl
  have hcontrol : exec (take 1) r = (.ok [control], r.advance 1) := htake r rest h
  unfold nextElement
  rw [exec_get_bind, if_neg hmore, exec_require_bind hopen, exec_bind_ok hcontrol]
  show exec (ofResult (ElementType.fromBits control) >>= _) (r.advance 1) = _
  rw [hty, exec_bind_ok (exec_ofResult _ _)]
  rfl

/-- An element with a tag is read as the tag and whatever its value is read as. -/
lemma nextElement_tagged {r r' : TlvReader} {ty : ElementType} {v : Value}
    (hty : ty ≠ .endOfContainer) (h : r.Faces (tag.controlOctet ty :: (tag.encode ++ rest)))
    (hopen : r.Open) (hallowed : tag.allowedIn r.currentContainer = true)
    (hvalue : exec (readValue ty) (r.advance (1 + tag.encode.length)) = (.ok v, r')) :
    exec nextElement r = (.ok (some ⟨tag, v⟩), r'.mark) := by
  have hfront : r.Faces ([tag.controlOctet ty] ++ (tag.encode ++ rest)) := h
  have hafter : (r.advance 1).Faces (tag.encode ++ rest) := hfront.advance
  have htag : Tag.decode (tag.controlOctet ty) (r.advance 1).remaining =
      .ok (tag, tag.encode.length) := by
    rw [hafter.remaining_eq, Tag.decode_append, Tag.length_encode]
  have hthere : tag.allowedIn (r.advance (1 + tag.encode.length)).currentContainer = true :=
    hallowed
  rw [nextElement_control h hopen (ElementType.fromBits_controlOctet tag ty), if_neg hty]
  unfold taggedElement
  rw [exec_get_bind, htag, exec_bind_ok (exec_ofResult _ _),
    exec_modify_bind, exec_get_bind, advance_add,
    exec_require_bind hthere, exec_bind_ok hvalue,
    exec_modify_bind, exec_pure]

/-- A primitive element is read as its tag and its value. -/
lemma nextElement_value {ty : ElementType} {v : Value} (hty : ty ≠ .endOfContainer)
    (hbody : Reads (readValue ty) body v)
    (h : r.Faces (tag.controlOctet ty :: tag.encode ++ body ++ rest)) (hopen : r.Open)
    (hallowed : tag.allowedIn r.currentContainer = true) : exec nextElement r =
      (.ok (some ⟨tag, v⟩), (r.advance (tag.controlOctet ty :: tag.encode ++ body).length).mark) := by
  have hhead : (tag.controlOctet ty :: tag.encode).length = 1 + tag.encode.length := by
    rw [List.length_cons, Nat.add_comm]
  rw [List.append_assoc] at h
  have hafter := h.advance
  have hvalue := hbody _ rest hafter
  rw [hhead] at hvalue
  rw [nextElement_tagged hty h hopen hallowed hvalue, advance_add, ← hhead, ← List.length_append]

/-- The start of a container is read as its tag and its kind, and the cursor goes inside. -/
lemma nextElement_container {kind : ContainerKind}
    (h : r.Faces (tag.controlOctet kind.elementType :: tag.encode ++ rest)) (hopen : r.Open)
    (hallowed : tag.allowedIn r.currentContainer = true) (hdepth : r.depth < maxDepth) :
    exec nextElement r = (.ok (some ⟨tag, .container kind⟩),
        ((r.advance (tag.controlOctet kind.elementType :: tag.encode).length).enter kind).mark) := by
  have hhead : (tag.controlOctet kind.elementType :: tag.encode).length = 1 + tag.encode.length := by
    rw [List.length_cons, Nat.add_comm]
  have hvalue : exec (readValue kind.elementType) (r.advance (1 + tag.encode.length)) =
      (.ok (.container kind), (r.advance (1 + tag.encode.length)).enter kind) := by
    have hkind : readValue kind.elementType = openContainer kind := by
      cases kind <;> rfl
    have hroom : (r.advance (1 + tag.encode.length)).depth < maxDepth := hdepth
    rw [hkind]
    unfold openContainer
    rw [exec_get_bind, exec_require_bind hroom, exec_modify_bind, exec_pure]
  rw [hhead]
  apply nextElement_tagged _ h hopen hallowed hvalue
  cases kind <;> simp [ContainerKind.elementType]

/-- The end of a container takes the cursor out of it, unless that is where the cursor started. -/
lemma nextElement_end (h : r.Faces (0x18 :: rest)) (hopen : r.Open) (hinside : r.baseDepth < r.depth) :
    exec nextElement r = (.ok (some ⟨.anonymous, .endOfContainer⟩), (r.advance 1).leave.mark) := by
  have hne : (r.advance 1).depth ≠ 0 := Nat.ne_of_gt (Nat.lt_of_le_of_lt (Nat.zero_le _) hinside)
  have hbase : (r.advance 1).baseDepth ≤ (r.advance 1).depth - 1 := Nat.le_sub_one_of_lt hinside
  have hty : ElementType.fromBits 0x18 = .ok .endOfContainer := rfl
  rw [nextElement_control h hopen hty, if_pos rfl]
  unfold endElement
  rw [exec_require_bind rfl, exec_get_bind, exec_require_bind hne, exec_require_bind hbase,
    exec_modify_bind, exec_pure]

/-- At the end of the octets there is no element, and the cursor stays. -/
lemma nextElement_none (h : r.Faces []) : exec nextElement r = (.ok none, r) := by
  have hempty : r.isEmpty = true := h.isEmpty_eq.mpr rfl
  unfold nextElement
  rw [exec_get_bind, if_pos hempty, exec_pure]

/-- Reading from `r` yields `elements`, one call of `next_element` each, and leads to `r'`. -/
inductive Yields : TlvReader → List Element → TlvReader → Prop
  | nil (r : TlvReader) : Yields r [] r
  | cons {r r₁ r' : TlvReader} {e : Element} {elements : List Element}
      (first : exec nextElement r = (.ok (some e), r₁)) (others : Yields r₁ elements r') :
      Yields r (e :: elements) r'

end MatterKit.Tlv
