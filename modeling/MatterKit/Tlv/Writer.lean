import MatterKit.Tlv.Reader

/-!
# The TLV writer

`TlvWriter` of `tlv/writer.rs`: it fills a buffer it was given, with the same stack of open containers
as the reader. A call that fails leaves the writer as far as it had got, which is why the operations
return the writer also with an error.

* Octets go out one way only, at the position and if there is room (`emit`); a successful one appends
  them to what is written (`emit_eq_ok`).
-/

namespace MatterKit.Tlv

open Lib Machine

/-- A buffer; its length fits an `isize`, as that of every Rust allocation does. -/
structure Slice where
  octets : List UInt8
  length_lt : octets.length < 2 ^ 63

lemma Slice.length_replicate {n : ℕ} (h : n < 2 ^ 63) : (List.replicate n (0 : UInt8)).length < 2 ^ 63 := by
  rwa [List.length_replicate]

/-- Replaces the octets from `pos` on; nothing happens where they do not fit.
Source: Rust `copy_from_slice` on `buf.get_mut(pos..end)`. -/
def Slice.overwrite (s : Slice) (pos : ℕ) (bytes : List UInt8) : Slice :=
  if h : pos + bytes.length ≤ s.octets.length then
    { octets := s.octets.take pos ++ bytes ++ s.octets.drop (pos + bytes.length)
      length_lt := by
        have hlt := s.length_lt
        simp only [List.length_append, List.length_take, List.length_drop]
        omega }
  else s

/-- Source: `tlv/writer.rs`, `TlvWriter`. -/
structure TlvWriter where
  buf : Slice
  pos : ℕ
  stack : Vector ContainerKind maxDepth
  depth : ℕ
  topLevelDone : Bool
  startedInside : Bool

/-- A computation on a writer. -/
abbrev Writing (α : Type) := Machine TlvWriter ErrorCode α

namespace TlvWriter

/-- Source: `TlvWriter::new`. -/
def new (buf : Slice) : TlvWriter where
  buf := buf
  pos := 0
  stack := Vector.replicate maxDepth .struct
  depth := 0
  topLevelDone := false
  startedInside := false

/-- Starts writing as though inside a container.
Source: `TlvWriter::new_in`. -/
def newIn (buf : Slice) (container : ContainerKind) : TlvWriter :=
  { new buf with stack := Vector.replicate maxDepth container, depth := 1, startedInside := true }

/-- Source: `TlvWriter::written`. -/
def written (w : TlvWriter) : List UInt8 :=
  if w.pos ≤ w.buf.octets.length then w.buf.octets.take w.pos else []

/-- The container the writer is directly inside.
Source: `TlvWriter::current_container`. -/
def currentContainer (w : TlvWriter) : Option ContainerKind :=
  if w.depth = 0 then none else w.stack[w.depth - 1]?

/-- The same writer with `bytes` written at its position.
Source: `TlvWriter::room`, the write into it and `TlvWriter::advance`. -/
def put (w : TlvWriter) (bytes : List UInt8) : TlvWriter :=
  { w with buf := w.buf.overwrite w.pos bytes, pos := w.pos + bytes.length }

/-- Notes that the top-level element is complete, at the top level.
Source: `TlvWriter::head` and `end_container`, `self.top_level_done = true`. -/
def mark (w : TlvWriter) : TlvWriter := if w.depth = 0 then { w with topLevelDone := true } else w

/-- The same writer inside one more container, whose end is still to come.
Source: `TlvWriter::start`, after `head`. -/
def enter (w : TlvWriter) (kind : ContainerKind) : TlvWriter :=
  { w with
    stack := w.stack.setIfInBounds w.depth kind
    depth := w.depth + 1
    topLevelDone := false }

/-- The same writer out of the innermost container. -/
def leave (w : TlvWriter) : TlvWriter := { w with depth := w.depth - 1 }

/-- Checks that the encoding is complete and returns it.
Source: `TlvWriter::finish`. -/
def finish (w : TlvWriter) : Except ErrorCode (List UInt8) := do
  ensure (w.depth = if w.startedInside then 1 else 0) .tlvContainerMismatch
  if w.startedInside then ensure (w.pos ≠ 0) .invalidState
  else ensure (w.topLevelDone = true) .invalidState
  ensure (w.pos ≤ w.buf.octets.length) .bufferTooSmall
  pure w.written

end TlvWriter

open TlvWriter

/-! ## Writing -/

/-- Writes octets if there is room for them all.
Source: `TlvWriter::room`, the write into it and `TlvWriter::advance`. -/
def emit (bytes : List UInt8) : Writing Unit := do
  let w ← get
  require (w.pos + bytes.length ≤ w.buf.octets.length) .bufferTooSmall
  modify fun w => w.put bytes

/-- One top-level element, and only the tag forms the position admits.
Source: `TlvWriter::check_tag`. -/
def checkTag (tag : Tag) : Writing Unit := do
  let w ← get
  require (¬ (w.depth = 0 ∧ w.topLevelDone = true)) .invalidState
  require (tag.allowedIn w.currentContainer = true) .tlvInvalidTag

/-- A control octet and its tag.
Source: `TlvWriter::head`. -/
def head (tag : Tag) (ty : ElementType) : Writing Unit := do
  checkTag tag
  emit (tag.controlOctet ty :: tag.encode)
  modify mark

/-- Source: `TlvWriter::signed`. -/
def signed (tag : Tag) (value : Int64) : Writing Unit := do
  let w := Width.forSigned value
  head tag (.signedInt w)
  emit (writeLe value.toUInt64 w.octets)

/-- Source: `TlvWriter::unsigned`. -/
def unsigned (tag : Tag) (value : UInt64) : Writing Unit := do
  let w := Width.forUnsigned value
  head tag (.unsignedInt w)
  emit (writeLe value w.octets)

/-- Source: `TlvWriter::bool`. -/
def bool (tag : Tag) (value : Bool) : Writing Unit := head tag (.bool value)

/-- Source: `TlvWriter::null`. -/
def null (tag : Tag) : Writing Unit := head tag .null

/-- Source: `TlvWriter::float`, by the bit pattern of its argument. -/
def float (tag : Tag) (bits : UInt32) : Writing Unit := do
  head tag .float
  emit (writeLe bits.toUInt64 4)

/-- Source: `TlvWriter::double`, by the bit pattern of its argument. -/
def double (tag : Tag) (bits : UInt64) : Writing Unit := do
  head tag .double
  emit (writeLe bits 8)

/-- Source: `TlvWriter::string`. -/
def string (tag : Tag) (value : List UInt8) (utf8 : Bool) : Writing Unit := do
  let len := UInt64.ofNat value.length
  let w := Width.forUnsigned len
  head tag (if utf8 then .utf8 w else .octets w)
  emit (writeLe len w.octets)
  emit value

/-- Source: `TlvWriter::utf8`. -/
def utf8 (tag : Tag) (value : String) : Writing Unit := string tag (asBytes value) true

/-- Source: `TlvWriter::octets`. -/
def octets (tag : Tag) (value : List UInt8) : Writing Unit := string tag value false

/-- Source: `TlvWriter::octets_fill`. -/
def octetsFill (tag : Tag) (len : ℕ) (byte : UInt8) : Writing Unit := do
  let length := UInt64.ofNat len
  let w := Width.forUnsigned length
  head tag (.octets w)
  emit (writeLe length w.octets)
  emit (List.replicate len byte)

/-- Source: `TlvWriter::start`. -/
def start (tag : Tag) (kind : ContainerKind) : Writing Unit := do
  let w ← get
  require (w.depth < maxDepth) .tlvDepthExceeded
  head tag kind.elementType
  modify fun w => w.enter kind

/-- Source: `TlvWriter::end_container`. -/
def endContainer : Writing Unit := do
  let w ← get
  require (w.depth ≠ 0) .tlvContainerMismatch
  emit [0x18]
  modify fun w => w.leave.mark

/-! ## What a successful call has written -/

/-- There is room for `bytes` at the writer's position. -/
abbrev TlvWriter.Fits (w : TlvWriter) (bytes : List UInt8) : Prop :=
  w.pos + bytes.length ≤ w.buf.octets.length

namespace Slice

variable {s : Slice} {pos : ℕ} {bytes : List UInt8}

lemma octets_overwrite (h : pos + bytes.length ≤ s.octets.length) : (s.overwrite pos bytes).octets =
      s.octets.take pos ++ bytes ++ s.octets.drop (pos + bytes.length) := by
  unfold overwrite
  rw [dif_pos h]

lemma length_overwrite (s : Slice) (pos : ℕ) (bytes : List UInt8) :
    (s.overwrite pos bytes).octets.length = s.octets.length := by
  unfold overwrite
  split
  · simp only [List.length_append, List.length_take, List.length_drop]
    omega
  · rfl

/-- What is overwritten is there, after what was before it. -/
lemma take_overwrite (h : pos + bytes.length ≤ s.octets.length) :
    (s.overwrite pos bytes).octets.take (pos + bytes.length) = s.octets.take pos ++ bytes := by
  have hlen : (s.octets.take pos ++ bytes).length = pos + bytes.length := by
    rw [List.length_append, List.length_take]
    omega
  rw [octets_overwrite h, ← hlen, List.take_left]

/-- What follows stays as it was. -/
lemma drop_overwrite (h : pos + bytes.length ≤ s.octets.length) :
    (s.overwrite pos bytes).octets.drop (pos + bytes.length) = s.octets.drop (pos + bytes.length) := by
  have hlen : (s.octets.take pos ++ bytes).length = pos + bytes.length := by
    rw [List.length_append, List.length_take]
    omega
  rw [octets_overwrite h, ← hlen, List.drop_left]

/-- Two pieces written one after the other are one piece. -/
lemma overwrite_overwrite {a b : List UInt8} (h : pos + (a ++ b).length ≤ s.octets.length) :
    (s.overwrite pos a).overwrite (pos + a.length) b = s.overwrite pos (a ++ b) := by
  have hsum : (a ++ b).length = a.length + b.length := List.length_append
  have ha : pos + a.length ≤ s.octets.length := by omega
  have hb : pos + a.length + b.length ≤ (s.overwrite pos a).octets.length := by
    rw [length_overwrite]
    omega
  have hdrop : (s.overwrite pos a).octets.drop (pos + a.length + b.length) =
      s.octets.drop (pos + (a ++ b).length) := by
    rw [← List.drop_drop, drop_overwrite ha, List.drop_drop]
    congr 1
    omega
  have hoctets : ((s.overwrite pos a).overwrite (pos + a.length) b).octets =
      (s.overwrite pos (a ++ b)).octets := by
    rw [octets_overwrite hb, take_overwrite ha, hdrop, octets_overwrite h, List.append_assoc _ a b]
  cases hl : (s.overwrite pos a).overwrite (pos + a.length) b
  cases hr : s.overwrite pos (a ++ b)
  rw [hl, hr] at hoctets
  simpa using hoctets

end Slice

namespace TlvWriter

variable {w : TlvWriter} {bytes : List UInt8}

lemma written_put (h : w.Fits bytes) : (w.put bytes).written = w.written ++ bytes := by
  have hbefore : w.pos ≤ w.buf.octets.length := by omega
  have hafter : (w.put bytes).pos ≤ (w.put bytes).buf.octets.length := by
    show w.pos + bytes.length ≤ (w.buf.overwrite w.pos bytes).octets.length
    rw [Slice.length_overwrite]
    exact h
  unfold written
  rw [if_pos hbefore, if_pos hafter]
  exact Slice.take_overwrite h

lemma written_mark (w : TlvWriter) : w.mark.written = w.written := by
  unfold mark
  split
  · rfl
  · rfl

lemma put_put {a b : List UInt8} (h : w.Fits (a ++ b)) : (w.put a).put b = w.put (a ++ b) := by
  have hbuf := Slice.overwrite_overwrite h
  unfold put
  simp only [hbuf, List.length_append, Nat.add_assoc]

lemma put_mark (w : TlvWriter) (bytes : List UInt8) : w.mark.put bytes = (w.put bytes).mark := by
  unfold mark
  by_cases h : w.depth = 0
  · rw [if_pos h, if_pos (show (w.put bytes).depth = 0 from h)]
    rfl
  · rw [if_neg h, if_neg (show (w.put bytes).depth ≠ 0 from h)]

lemma fits_mark : w.mark.Fits bytes ↔ w.Fits bytes := by
  unfold mark
  split
  · rfl
  · rfl

lemma fits_put {a b : List UInt8} : (w.put a).Fits b ↔ w.Fits (a ++ b) := by
  show w.pos + a.length + b.length ≤ (w.buf.overwrite w.pos a).octets.length ↔
    w.pos + (a ++ b).length ≤ w.buf.octets.length
  rw [Slice.length_overwrite, List.length_append, Nat.add_assoc]

end TlvWriter

variable {bytes : List UInt8} {w w' : TlvWriter} {tag : Tag}

lemma emit_eq_ok : exec (emit bytes) w = (.ok (), w') ↔ w.Fits bytes ∧ w' = w.put bytes := by
  unfold emit
  rw [exec_get_bind, exec_bind_eq_ok]
  constructor
  · rintro ⟨u, w₁, hroom, hput⟩
    obtain ⟨hfits, rfl⟩ := exec_require_eq_ok.mp hroom
    rw [exec_modify] at hput
    exact ⟨hfits, (Prod.mk.inj hput).2.symm⟩
  · rintro ⟨hfits, rfl⟩
    exact ⟨(), w, exec_require_of hfits _ w, exec_modify _ w⟩

/-- The position admits one more element with this tag. -/
structure TlvWriter.Admits (w : TlvWriter) (tag : Tag) : Prop where
  notDone : ¬ (w.depth = 0 ∧ w.topLevelDone = true)
  allowed : tag.allowedIn w.currentContainer = true

lemma checkTag_eq_ok : exec (checkTag tag) w = (.ok (), w') ↔ w.Admits tag ∧ w' = w := by
  unfold checkTag
  rw [exec_get_bind, exec_bind_eq_ok]
  constructor
  · rintro ⟨u, w₁, hone, htag⟩
    obtain ⟨hnotDone, rfl⟩ := exec_require_eq_ok.mp hone
    obtain ⟨hallowed, rfl⟩ := exec_require_eq_ok.mp htag
    exact ⟨⟨hnotDone, hallowed⟩, rfl⟩
  · rintro ⟨hadmits, rfl⟩
    exact ⟨(), w', exec_require_of hadmits.notDone _ _, exec_require_of hadmits.allowed _ _⟩

/-- A head is written exactly where its tag is admitted and fits. -/
lemma head_eq_ok {ty : ElementType} : exec (head tag ty) w = (.ok (), w') ↔
      w.Admits tag ∧ w.Fits (tag.controlOctet ty :: tag.encode) ∧
        w' = (w.put (tag.controlOctet ty :: tag.encode)).mark := by
  unfold head
  constructor
  · intro h
    obtain ⟨_, w₁, hcheck, hrest⟩ := exec_bind_eq_ok.mp h
    obtain ⟨hadmits, rfl⟩ := checkTag_eq_ok.mp hcheck
    obtain ⟨_, w₂, hemit, hmark⟩ := exec_bind_eq_ok.mp hrest
    obtain ⟨hfits, rfl⟩ := emit_eq_ok.mp hemit
    rw [exec_modify] at hmark
    exact ⟨hadmits, hfits, (Prod.mk.inj hmark).2.symm⟩
  · rintro ⟨hadmits, hfits, rfl⟩
    rw [exec_bind_ok (checkTag_eq_ok.mpr ⟨hadmits, rfl⟩),
      exec_bind_ok (emit_eq_ok.mpr ⟨hfits, rfl⟩), exec_modify]

/-! ## Primitive elements -/

/-- A head and a body: what every primitive call comes to. -/
def value (tag : Tag) (ty : ElementType) (body : List UInt8) : Writing Unit := do
  head tag ty
  emit body

/-- The octets of an element with a tag. -/
def elementOctets (tag : Tag) (ty : ElementType) (body : List UInt8) : List UInt8 :=
  tag.controlOctet ty :: tag.encode ++ body

/-- A primitive element is written exactly where its tag is admitted and it fits. -/
lemma value_eq_ok {ty : ElementType} {body : List UInt8} : exec (value tag ty body) w = (.ok (), w') ↔
      w.Admits tag ∧ w.Fits (elementOctets tag ty body) ∧
        w' = (w.put (elementOctets tag ty body)).mark := by
  unfold value elementOctets
  constructor
  · intro h
    obtain ⟨_, w₁, hhead, hbody⟩ := exec_bind_eq_ok.mp h
    obtain ⟨hadmits, _, rfl⟩ := head_eq_ok.mp hhead
    obtain ⟨hfits, rfl⟩ := emit_eq_ok.mp hbody
    rw [fits_mark, fits_put] at hfits
    refine ⟨hadmits, hfits, ?_⟩
    rw [put_mark, put_put hfits]
  · rintro ⟨hadmits, hfits, rfl⟩
    have hhead : w.Fits (tag.controlOctet ty :: tag.encode) := by
      unfold Fits at hfits ⊢
      rw [List.length_append] at hfits
      omega
    rw [exec_bind_ok (head_eq_ok.mpr ⟨hadmits, hhead, rfl⟩)]
    apply emit_eq_ok.mpr
    refine ⟨?_, ?_⟩
    · rw [fits_mark, fits_put]
      exact hfits
    · rw [put_mark, put_put hfits]

/-- What fits the buffer is shorter than a 64-bit length can say. -/
lemma TlvWriter.Fits.length_lt (h : w.Fits bytes) : bytes.length < 2 ^ 64 := by
  have hbuf := w.buf.length_lt
  unfold Fits at h
  omega

/-- A head alone is an element with an empty body. -/
lemma value_of_head {ty : ElementType} (h : exec (head tag ty) w = (.ok (), w')) :
    exec (value tag ty []) w = (.ok (), w') := by
  obtain ⟨hadmits, hfits, rfl⟩ := head_eq_ok.mp h
  apply value_eq_ok.mpr
  unfold elementOctets
  rw [List.append_nil]
  exact ⟨hadmits, hfits, rfl⟩

/-- A body written in two pieces is written in one. -/
lemma value_of_pieces {ty : ElementType} {field content : List UInt8}
    (h : exec (do head tag ty; emit field; emit content) w = (.ok (), w')) :
    exec (value tag ty (field ++ content)) w = (.ok (), w') := by
  obtain ⟨_, w₁, hhead, hrest⟩ := exec_bind_eq_ok.mp h
  obtain ⟨_, w₂, hfield, hcontent⟩ := exec_bind_eq_ok.mp hrest
  obtain ⟨_, rfl⟩ := emit_eq_ok.mp hfield
  obtain ⟨hfits, rfl⟩ := emit_eq_ok.mp hcontent
  unfold value
  rw [exec_bind_ok hhead]
  apply emit_eq_ok.mpr
  rw [fits_put] at hfits
  exact ⟨hfits, put_put hfits⟩

/-- What is written is shorter than a buffer can be. -/
lemma length_lt_of_value {ty : ElementType} {field content : List UInt8}
    (h : exec (value tag ty (field ++ content)) w = (.ok (), w')) : content.length < 2 ^ 64 := by
  have hfits := (value_eq_ok.mp h).2.1.length_lt
  unfold elementOctets at hfits
  simp only [List.length_append] at hfits
  omega

/-- Filling is writing an octet string of copies. -/
lemma octetsFill_eq (tag : Tag) (len : ℕ) (byte : UInt8) :
    octetsFill tag len byte = octets tag (List.replicate len byte) := by
  unfold octetsFill octets string
  rw [List.length_replicate]
  rfl

/-! ## Containers -/

lemma start_eq_ok {kind : ContainerKind} : exec (start tag kind) w = (.ok (), w') ↔
      w.depth < maxDepth ∧ w.Admits tag ∧ w.Fits (elementOctets tag kind.elementType []) ∧
        w' = ((w.put (elementOctets tag kind.elementType [])).mark).enter kind := by
  unfold start elementOctets
  rw [List.append_nil, exec_get_bind]
  constructor
  · intro h
    obtain ⟨_, w₁, hroom, hrest⟩ := exec_bind_eq_ok.mp h
    obtain ⟨hdepth, rfl⟩ := exec_require_eq_ok.mp hroom
    obtain ⟨_, w₂, hhead, henter⟩ := exec_bind_eq_ok.mp hrest
    obtain ⟨hadmits, hfits, rfl⟩ := head_eq_ok.mp hhead
    rw [exec_modify] at henter
    exact ⟨hdepth, hadmits, hfits, (Prod.mk.inj henter).2.symm⟩
  · rintro ⟨hdepth, hadmits, hfits, rfl⟩
    rw [exec_require_bind hdepth, exec_bind_ok (head_eq_ok.mpr ⟨hadmits, hfits, rfl⟩), exec_modify]

lemma endContainer_eq_ok : exec endContainer w = (.ok (), w') ↔
      w.depth ≠ 0 ∧ w.Fits [0x18] ∧ w' = (w.put [0x18]).leave.mark := by
  unfold endContainer
  rw [exec_get_bind]
  constructor
  · intro h
    obtain ⟨_, w₁, hinside, hrest⟩ := exec_bind_eq_ok.mp h
    obtain ⟨hdepth, rfl⟩ := exec_require_eq_ok.mp hinside
    obtain ⟨_, w₂, hemit, hleave⟩ := exec_bind_eq_ok.mp hrest
    obtain ⟨hfits, rfl⟩ := emit_eq_ok.mp hemit
    rw [exec_modify] at hleave
    exact ⟨hdepth, hfits, (Prod.mk.inj hleave).2.symm⟩
  · rintro ⟨hdepth, hfits, rfl⟩
    rw [exec_require_bind hdepth, exec_bind_ok (emit_eq_ok.mpr ⟨hfits, rfl⟩), exec_modify]

/-- A finished encoding is all that was written, and complete. -/
lemma TlvWriter.finish_eq_ok (h : w.startedInside = false) : w.finish = .ok bytes ↔
      w.depth = 0 ∧ w.topLevelDone = true ∧ w.pos ≤ w.buf.octets.length ∧ w.written = bytes := by
  unfold finish
  simp only [h, Bool.false_eq_true, if_false, bind_eq_ok, ensure_eq_ok, pure_eq_ok,
    Except.ok.injEq, exists_const]

end MatterKit.Tlv
