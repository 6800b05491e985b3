import MatterKit.Tlv.Writer

/-!
# What the writer writes, the reader reads back

The writer and the reader keep the same stack of open containers, each on its own. `InStep` says the
two agree; a successful call appends octets to what is written, and a reader that agrees with the
writer before the call and stands in front of those octets yields the call's element and agrees with
the writer after it (`ReadBack`, one lemma for each kind of call). By induction over the calls a
whole sequence is read back (`runAll_read_back`), and a finished encoding is read as the elements it
was written from, then nothing, and the reader finishes too (`written_reads_back`).
-/

namespace MatterKit.Tlv

open Lib Machine

/-! ## Calls -/

/-- A call on a writer with its arguments; floats are bit patterns. -/
inductive WriterCall
  | signed (tag : Tag) (value : Int64)
  | unsigned (tag : Tag) (value : UInt64)
  | bool (tag : Tag) (value : Bool)
  | null (tag : Tag)
  | float (tag : Tag) (bits : UInt32)
  | double (tag : Tag) (bits : UInt64)
  | utf8 (tag : Tag) (value : String)
  | octets (tag : Tag) (value : List UInt8)
  | octetsFill (tag : Tag) (len : ℕ) (byte : UInt8)
  | start (tag : Tag) (kind : ContainerKind)
  | endContainer

namespace WriterCall

/-- Makes the call. -/
def run : WriterCall → Writing Unit
  | .signed tag value => Tlv.signed tag value
  | .unsigned tag value => Tlv.unsigned tag value
  | .bool tag value => Tlv.bool tag value
  | .null tag => Tlv.null tag
  | .float tag bits => Tlv.float tag bits
  | .double tag bits => Tlv.double tag bits
  | .utf8 tag value => Tlv.utf8 tag value
  | .octets tag value => Tlv.octets tag value
  | .octetsFill tag len byte => Tlv.octetsFill tag len byte
  | .start tag kind => Tlv.start tag kind
  | .endContainer => Tlv.endContainer

/-- The element the call is to write. -/
def element : WriterCall → Element
  | .signed tag value => ⟨tag, .signed value⟩
  | .unsigned tag value => ⟨tag, .unsigned value⟩
  | .bool tag value => ⟨tag, .bool value⟩
  | .null tag => ⟨tag, .null⟩
  | .float tag bits => ⟨tag, .float bits⟩
  | .double tag bits => ⟨tag, .double bits⟩
  | .utf8 tag value => ⟨tag, .utf8 value⟩
  | .octets tag value => ⟨tag, .octets value⟩
  | .octetsFill tag len byte => ⟨tag, .octets (List.replicate len byte)⟩
  | .start tag kind => ⟨tag, .container kind⟩
  | .endContainer => ⟨.anonymous, .endOfContainer⟩

/-- Makes the calls one after the other, until one fails. -/
def runAll : List WriterCall → Writing Unit
  | [] => pure ()
  | call :: calls => do
    call.run
    runAll calls

end WriterCall

/-! ## Writer and reader in step -/

/-- A writer at the top level and a reader of one encoding that stand at the same place of it. -/
structure InStep (w : TlvWriter) (r : TlvReader) : Prop where
  stack_eq : r.stack = w.stack
  depth_eq : r.depth = w.depth
  done_eq : r.topLevelDone = w.topLevelDone
  one : r.many = false
  readerAtTop : r.startedInside = false
  writerAtTop : w.startedInside = false
  inside : w.depth ≠ 0 → w.topLevelDone = false

namespace InStep

variable {w : TlvWriter} {r : TlvReader}

lemma new (buf : Slice) (bytes : List UInt8) : InStep (.new buf) (.new bytes) where
  stack_eq := rfl
  depth_eq := rfl
  done_eq := rfl
  one := rfl
  readerAtTop := rfl
  writerAtTop := rfl
  inside := fun _ => rfl

lemma baseDepth_eq (h : InStep w r) : r.baseDepth = 0 := by
  unfold TlvReader.baseDepth
  rw [h.readerAtTop]
  rfl

lemma currentContainer_eq (h : InStep w r) : r.currentContainer = w.currentContainer := by
  unfold TlvReader.currentContainer TlvWriter.currentContainer
  rw [h.depth_eq, h.stack_eq]

/-- Where the writer admits an element the reader still expects one. -/
lemma readable (h : InStep w r) (hw : ¬ (w.depth = 0 ∧ w.topLevelDone = true)) : r.Open := by
  rintro ⟨hdone, _, hdepth⟩
  apply hw
  rw [h.baseDepth_eq, h.depth_eq] at hdepth
  rw [h.done_eq] at hdone
  exact ⟨hdepth, hdone⟩

lemma advance (h : InStep w r) (bytes : List UInt8) (n : ℕ) : InStep (w.put bytes) (r.advance n) :=
  ⟨h.stack_eq, h.depth_eq, h.done_eq, h.one, h.readerAtTop, h.writerAtTop, h.inside⟩

lemma mark (h : InStep w r) : InStep w.mark r.mark := by
  have hbase := h.baseDepth_eq
  unfold TlvWriter.mark TlvReader.mark
  by_cases hdepth : w.depth = 0
  · rw [if_pos hdepth, if_pos (by rw [h.depth_eq, hbase, hdepth])]
    exact ⟨h.stack_eq, h.depth_eq, rfl, h.one, h.readerAtTop, h.writerAtTop,
      fun hinside => absurd hdepth hinside⟩
  · rw [if_neg hdepth, if_neg (by rw [h.depth_eq, hbase]; exact hdepth)]
    exact h

/-- Both go into a container; the reader has not concluded anything, and the writer takes back what
its head concluded. -/
lemma enter {kind : ContainerKind} (h : InStep w r)
    (hw : ¬ (w.depth = 0 ∧ w.topLevelDone = true)) : InStep (w.mark.enter kind) (r.enter kind).mark := by
  have hfalse : w.topLevelDone = false := by
    by_cases hdepth : w.depth = 0
    · exact Bool.eq_false_of_not_eq_true fun hdone => hw ⟨hdepth, hdone⟩
    · exact h.inside hdepth
  have hmarked : (w.mark.enter kind) = w.enter kind := by
    unfold TlvWriter.mark
    split
    · rfl
    · rfl
  have hdeep : (r.enter kind).mark = r.enter kind := by
    apply if_neg
    show r.depth + 1 ≠ r.baseDepth
    rw [h.baseDepth_eq]
    exact Nat.succ_ne_zero _
  rw [hmarked, hdeep]
  refine ⟨?_, ?_, ?_, h.one, h.readerAtTop, h.writerAtTop, fun _ => rfl⟩
  · show r.stack.setIfInBounds r.depth kind = w.stack.setIfInBounds w.depth kind
    rw [h.stack_eq, h.depth_eq]
  · show r.depth + 1 = w.depth + 1
    rw [h.depth_eq]
  · show r.topLevelDone = false
    rw [h.done_eq, hfalse]

/-- Both go out of a container. -/
lemma leave (h : InStep w r) (hinside : w.depth ≠ 0) : InStep w.leave r.leave := by
  refine ⟨h.stack_eq, ?_, h.done_eq, h.one, h.readerAtTop, h.writerAtTop, fun _ => h.inside hinside⟩
  show r.depth - 1 = w.depth - 1
  rw [h.depth_eq]

/-- A reader in step with a complete writer, with nothing left, finishes. -/
lemma finish (h : InStep w r) (hend : r.Faces []) (hdepth : w.depth = 0)
    (hdone : w.topLevelDone = true) : r.finish = .ok () := by
  have hclosed : r.depth = r.baseDepth := by rw [h.depth_eq, h.baseDepth_eq, hdepth]
  have hread : r.topLevelDone = true := by rw [h.done_eq, hdone]
  have hempty : r.isEmpty = true := hend.isEmpty_eq.mpr rfl
  unfold TlvReader.finish
  rw [ensure_of hclosed, ok_bind, ensure_of hread, ok_bind, ensure_of hempty]

end InStep

/-! ## One call -/

/-- The writer went from `w` to `w'` by writing octets that any reader in step with it reads as
`elements`, one after the other, staying in step. -/
def ReadBack (w : TlvWriter) (elements : List Element) (w' : TlvWriter) : Prop :=
  ∃ bytes, w'.written = w.written ++ bytes ∧
    ∀ (r : TlvReader) (rest : List UInt8), InStep w r → r.Faces (bytes ++ rest) →
      ∃ r', Yields r elements r' ∧ r'.Faces rest ∧ InStep w' r'

lemma Yields.single {r r' : TlvReader} {e : Element} (h : exec nextElement r = (.ok (some e), r')) :
    Yields r [e] r' :=
  .cons h (.nil r')

variable {tag : Tag} {w w' : TlvWriter}

/-- A primitive element is read back as the value its body is read as. -/
lemma value_read_back {ty : ElementType} {body : List UInt8} {v : Value}
    (hrun : exec (value tag ty body) w = (.ok (), w')) (hty : ty ≠ .endOfContainer)
    (hbody : Reads (readValue ty) body v) : ReadBack w [⟨tag, v⟩] w' := by
  obtain ⟨hadmits, hfits, rfl⟩ := value_eq_ok.mp hrun
  refine ⟨elementOctets tag ty body, ?_, ?_⟩
  · rw [TlvWriter.written_mark, TlvWriter.written_put hfits]
  · intro r rest hstep hfaces
    have hallowed : tag.allowedIn r.currentContainer = true := by
      rw [hstep.currentContainer_eq]
      exact hadmits.allowed
    have hnext := nextElement_value hty hbody hfaces (hstep.readable hadmits.notDone) hallowed
    exact ⟨_, Yields.single hnext, hfaces.advance.mark, (hstep.advance _ _).mark⟩

/-- The start of a container is read back. -/
lemma start_read_back {kind : ContainerKind} (hrun : exec (start tag kind) w = (.ok (), w')) :
    ReadBack w [⟨tag, .container kind⟩] w' := by
  obtain ⟨hdepth, hadmits, hfits, rfl⟩ := start_eq_ok.mp hrun
  refine ⟨elementOctets tag kind.elementType [], ?_, ?_⟩
  · rw [← TlvWriter.written_put hfits]
    exact TlvWriter.written_mark _
  · intro r rest hstep hfaces
    have hallowed : tag.allowedIn r.currentContainer = true := by
      rw [hstep.currentContainer_eq]
      exact hadmits.allowed
    have hroom : r.depth < maxDepth := by
      rw [hstep.depth_eq]
      exact hdepth
    unfold elementOctets at hfaces
    rw [List.append_nil] at hfaces
    have hnext := nextElement_container hfaces (hstep.readable hadmits.notDone) hallowed hroom
    refine ⟨_, Yields.single hnext, ?_, (hstep.advance _ _).enter hadmits.notDone⟩
    apply TlvReader.Faces.mark
    exact hfaces.advance

/-- The end of a container is read back. -/
lemma endContainer_read_back (hrun : exec endContainer w = (.ok (), w')) :
    ReadBack w [⟨.anonymous, .endOfContainer⟩] w' := by
  obtain ⟨hdepth, hfits, rfl⟩ := endContainer_eq_ok.mp hrun
  refine ⟨[0x18], ?_, ?_⟩
  · rw [← TlvWriter.written_put hfits]
    exact TlvWriter.written_mark _
  · intro r rest hstep hfaces
    have hinside : r.baseDepth < r.depth := by
      rw [hstep.baseDepth_eq, hstep.depth_eq]
      exact Nat.pos_of_ne_zero hdepth
    have hopen : r.Open := hstep.readable fun h => hdepth h.1
    have hnext := nextElement_end hfaces hopen hinside
    refine ⟨_, Yields.single hnext, ?_, ((hstep.advance [0x18] 1).leave hdepth).mark⟩
    apply TlvReader.Faces.mark
    exact TlvReader.Faces.advance hfaces

/-- A string is read back, when its element type reads a length field and the octets as it. -/
lemma string_read_back {bytes : List UInt8} {ty : ElementType} {v : Value} (hrun : exec (do
      head tag ty
      emit (writeLe (.ofNat bytes.length) (Width.forUnsigned (.ofNat bytes.length)).octets)
      emit bytes) w = (.ok (), w')) (hty : ty ≠ .endOfContainer)
    (hbody : bytes.length < 2 ^ 64 → Reads (readValue ty)
      (writeLe (.ofNat bytes.length) (Width.forUnsigned (.ofNat bytes.length)).octets ++ bytes) v) :
    ReadBack w [⟨tag, v⟩] w' := by
  have hvalue := value_of_pieces hrun
  have hlen := length_lt_of_value hvalue
  exact value_read_back hvalue hty (hbody hlen)

/-- Every successful call is read back as its element. -/
lemma WriterCall.run_read_back {call : WriterCall} (hrun : exec call.run w = (.ok (), w')) :
    ReadBack w [call.element] w' := by
  cases call with
  | signed tag value => exact value_read_back hrun (by simp) (reads_signed value)
  | unsigned tag value => exact value_read_back hrun (by simp) (reads_unsigned value)
  | bool tag value | null tag => exact value_read_back (value_of_head hrun) (by simp) reads_pure
  | float tag bits => exact value_read_back hrun (by simp) (reads_float bits)
  | double tag bits => exact value_read_back hrun (by simp) (reads_double bits)
  | utf8 tag value => exact string_read_back hrun (by simp) reads_utf8
  | octets tag value => exact string_read_back hrun (by simp) reads_octets
  | octetsFill tag len byte =>
    rw [WriterCall.run, octetsFill_eq] at hrun
    exact string_read_back hrun (by simp) reads_octets
  | start tag kind => exact start_read_back hrun
  | endContainer => exact endContainer_read_back hrun

/-! ## Sequences of calls -/

lemma ReadBack.refl (w : TlvWriter) : ReadBack w [] w := by
  refine ⟨[], (List.append_nil _).symm, ?_⟩
  intro r rest hstep hfaces
  exact ⟨r, .nil r, hfaces, hstep⟩

lemma Yields.append {r r₁ r' : TlvReader} {es fs : List Element} (h : Yields r es r₁)
    (h' : Yields r₁ fs r') : Yields r (es ++ fs) r' := by
  induction h with
  | nil r => exact h'
  | cons first _ ih => exact .cons first (ih h')

lemma ReadBack.trans {w w₁ w' : TlvWriter} {es fs : List Element} (h : ReadBack w es w₁)
    (h' : ReadBack w₁ fs w') : ReadBack w (es ++ fs) w' := by
  obtain ⟨bytes₁, hwritten₁, hread₁⟩ := h
  obtain ⟨bytes₂, hwritten₂, hread₂⟩ := h'
  refine ⟨bytes₁ ++ bytes₂, ?_, ?_⟩
  · rw [hwritten₂, hwritten₁, List.append_assoc]
  · intro r rest hstep hfaces
    rw [List.append_assoc] at hfaces
    obtain ⟨r₁, hyields₁, hfaces₁, hstep₁⟩ := hread₁ r _ hstep hfaces
    obtain ⟨r', hyields₂, hfaces₂, hstep₂⟩ := hread₂ r₁ rest hstep₁ hfaces₁
    exact ⟨r', hyields₁.append hyields₂, hfaces₂, hstep₂⟩

/-- Calls that all succeed are read back as their elements. -/
lemma runAll_read_back {calls : List WriterCall} (hrun : exec (WriterCall.runAll calls) w = (.ok (), w')) :
    ReadBack w (calls.map WriterCall.element) w' := by
  induction calls generalizing w with
  | nil =>
    obtain ⟨-, rfl⟩ := Prod.mk.inj hrun
    exact ReadBack.refl w
  | cons call calls ih =>
    obtain ⟨_, w₁, hcall, hcalls⟩ := exec_bind_eq_ok.mp hrun
    exact call.run_read_back hcall |>.trans (ih hcalls)

/-- **What the writer writes, the reader reads back.** When every call of a sequence succeeds on a
new writer over any buffer and the writer finishes with `bytes`, a new reader over `bytes` yields
exactly the elements of the calls, then nothing more, and finishes too. -/
theorem written_reads_back {buf : Slice} {calls : List WriterCall} {w : TlvWriter}
    {bytes : List UInt8} (hrun : exec (WriterCall.runAll calls) (.new buf) = (.ok (), w))
    (hfinish : w.finish = .ok bytes) : ∃ r, Yields (.new bytes) (calls.map WriterCall.element) r ∧
      exec nextElement r = (.ok none, r) ∧ r.finish = .ok () := by
  obtain ⟨octets, hwritten, hread⟩ := runAll_read_back hrun
  have hall : w.written = octets := by
    rw [hwritten]
    show (if 0 ≤ buf.octets.length then buf.octets.take 0 else []) ++ octets = octets
    simp
  have hfaces : (TlvReader.new octets).Faces (octets ++ []) := by
    rw [List.append_nil]
    exact TlvReader.faces_new octets
  obtain ⟨r, hyields, hend, hstep⟩ := hread _ [] (InStep.new buf octets) hfaces
  obtain ⟨hdepth, hdone, -, hbytes⟩ := (TlvWriter.finish_eq_ok hstep.writerAtTop).mp hfinish
  have hsame : bytes = octets := by rw [← hbytes, hall]
  subst hsame
  exact ⟨r, hyields, nextElement_none hend, hstep.finish hend hdepth hdone⟩

/-- A structure with a nested list, a profile tag and a negative number. -/
def sampleCalls : List WriterCall :=
  [.start .anonymous .struct, .signed (.context 1) (-300), .utf8 (.context 2) "hi",
    .start (.context 3) .list, .unsigned (.fullyQualified 0xFFF1 2 0x12345) 70000,
    .octetsFill .anonymous 3 7, .endContainer, .double (.common 5) 0x3FF0000000000000,
    .endContainer]

/-- A buffer of 64 octets. -/
def sampleBuffer : Slice := ⟨List.replicate 64 0, by decide⟩

/-- The writer after the sample. -/
def sampleWriter : TlvWriter := (exec (WriterCall.runAll sampleCalls) (.new sampleBuffer)).2

theorem written_reads_back_sample : sampleWriter.written.length = 43 ∧
      ∃ r, Yields (.new sampleWriter.written) (sampleCalls.map WriterCall.element) r ∧
        exec nextElement r = (.ok none, r) ∧ r.finish = .ok () := by
  have hok : (exec (WriterCall.runAll sampleCalls) (.new sampleBuffer)).1 = .ok () := by
    decide +kernel
  have hrun : exec (WriterCall.runAll sampleCalls) (.new sampleBuffer) = (.ok (), sampleWriter) :=
    Prod.ext hok rfl
  have hfinish : sampleWriter.finish = .ok sampleWriter.written := by
    decide +kernel
  have hlength : sampleWriter.written.length = 43 := by
    decide +kernel
  exact ⟨hlength, written_reads_back hrun hfinish⟩

end MatterKit.Tlv
