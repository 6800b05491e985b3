import MatterKit.Tlv.Decode

/-!
# How long an encoding is

An encoder that is a list of calls writes a number of octets that the calls determine (`lengths`), whatever
the buffer. Where the calls may follow one another is a matter of the containers they are made in, and can be
looked up without making them (`Nesting.after?`, `Nesting.afterAll?`). So a list of calls that makes one
element is written into a buffer exactly when the buffer is long enough, and there is only one way it can fail
(`finish_runAll`, `runAll_short`).
-/

namespace MatterKit.Tlv

open Lib Machine

/-! ## The length of a call -/

/-- How many octets a head takes. -/
def Tag.headLength (tag : Tag) : ℕ := 1 + tag.encodedLen

/-- How many octets a string takes after its head. -/
def stringLength (content : ℕ) : ℕ := (Width.forUnsigned (UInt64.ofNat content)).octets + content

/-- How many octets a call writes. -/
def WriterCall.length : WriterCall → ℕ
  | .signed tag value => tag.headLength + (Width.forSigned value).octets
  | .unsigned tag value => tag.headLength + (Width.forUnsigned value).octets
  | .bool tag _ | .null tag => tag.headLength
  | .float tag _ => tag.headLength + 4
  | .double tag _ => tag.headLength + 8
  | .utf8 tag value => tag.headLength + stringLength (asBytes value).length
  | .octets tag value => tag.headLength + stringLength value.length
  | .octetsFill tag len _ => tag.headLength + stringLength len
  | .start tag _ => tag.headLength
  | .endContainer => 1

/-- How many octets some calls write. -/
def lengths (calls : List WriterCall) : ℕ := (calls.map WriterCall.length).sum

@[simp] lemma lengths_nil : lengths [] = 0 := rfl

@[simp] lemma lengths_cons (call : WriterCall) (calls : List WriterCall) :
    lengths (call :: calls) = call.length + lengths calls := List.sum_cons

@[simp] lemma lengths_append (before after : List WriterCall) :
    lengths (before ++ after) = lengths before + lengths after := by
  rw [lengths, List.map_append, List.sum_append, lengths, lengths]

@[simp] lemma headLength_anonymous : Tag.headLength .anonymous = 1 := rfl

@[simp] lemma headLength_context (n : UInt8) : Tag.headLength (.context n) = 2 := rfl

/-- A string of at most 255 octets has its length in one. -/
lemma stringLength_of_lt {n : ℕ} (h : n < 256) : stringLength n = 1 + n := by
  have hshort : UInt64.ofNat n ≤ 0xFF := by
    rw [UInt64.le_iff_toNat_le, UInt64.toNat_ofNat_of_lt' (by rw [UInt64.size]; omega)]
    exact Nat.le_of_lt_succ h
  rw [stringLength, Width.forUnsigned, if_pos hshort]
  rfl

/-- A string of at most 65535 octets has its length in two at most. -/
lemma stringLength_le {n : ℕ} (h : n < 65536) : stringLength n ≤ 2 + n := by
  have hshort : UInt64.ofNat n ≤ 0xFFFF := by
    rw [UInt64.le_iff_toNat_le, UInt64.toNat_ofNat_of_lt' (by rw [UInt64.size]; omega)]
    exact Nat.le_of_lt_succ h
  rw [stringLength, Width.forUnsigned, if_pos hshort]
  split_ifs <;> simp only [Width.octets] <;> omega

/-! ## Where a call may be made -/

/-- The nesting after a call, if it may be made. -/
def Nesting.after? (n : Nesting) : WriterCall → Option Nesting
  | .start tag kind =>
    if n.containers.length < maxDepth ∧ (n.check tag).isOk then some (n.enter kind) else none
  | .endContainer => if n.containers.isEmpty then none else some n.leave.mark
  | call => if (n.check call.element.tag).isOk then some n.mark else none

/-- The nesting after some calls, if they may be made one after the other. -/
def Nesting.afterAll? : Nesting → List WriterCall → Option Nesting
  | n, [] => some n
  | n, call :: calls => (n.after? call).bind fun n => n.afterAll? calls

variable {n : Nesting} {tag : Tag}

lemma Nesting.check_of_isOk (h : (n.check tag).isOk = true) : n.check tag = .ok () := by
  cases hcheck : n.check tag with
  | error e => rw [hcheck] at h; cases h
  | ok u => rfl

/-- A head and a body of so many octets. -/
lemma follows_sized (h : (n.check tag).isOk = true) (ty : ElementType) (body : List UInt8) :
    ∃ bytes, bytes.length = tag.headLength + body.length ∧
      Follows (value tag ty body) n ⟨bytes, .ok (), n.mark⟩ := by
  refine ⟨_, ?_, (follows_head (Nesting.check_of_isOk h) ty).bind
    (f := fun _ => emit body) (follows_emit body n.mark)⟩
  simp only [List.length_append, List.length_cons, Tag.length_encode, Tag.headLength]
  omega

/-- A head, a length field and a content. -/
lemma follows_pieces (h : (n.check tag).isOk = true) (ty : ElementType) (field content : List UInt8) :
    ∃ bytes, bytes.length = tag.headLength + (field.length + content.length) ∧
      Follows (do head tag ty; emit field; emit content) n ⟨bytes, .ok (), n.mark⟩ := by
  have hbody := (follows_emit field n.mark).bind (f := fun _ => emit content)
    (follows_emit content n.mark)
  refine ⟨_, ?_, (follows_head (Nesting.check_of_isOk h) ty).bind
    (f := fun _ => do emit field; emit content) hbody⟩
  simp only [List.length_append, List.length_cons, Tag.length_encode, Tag.headLength]
  omega

/-- A call that may be made writes as many octets as its length says. -/
lemma follows_call {n n' : Nesting} {call : WriterCall} (h : n.after? call = some n') :
    ∃ bytes, bytes.length = call.length ∧ Follows call.run n ⟨bytes, .ok (), n'⟩ := by
  have hplain : ∀ tag : Tag, (if (n.check tag).isOk then some n.mark else none) = some n' →
      (n.check tag).isOk = true ∧ n.mark = n' := by
    intro tag hafter
    obtain ⟨htag, heq⟩ := Option.ite_none_right_eq_some.mp hafter
    exact ⟨htag, Option.some.inj heq⟩
  cases call with
  | start tag kind =>
    obtain ⟨⟨hdepth, htag⟩, heq⟩ := Option.ite_none_right_eq_some.mp h
    obtain rfl := Option.some.inj heq
    refine ⟨_, ?_, follows_start_ok hdepth (Nesting.check_of_isOk htag) kind⟩
    rw [List.length_cons, Tag.length_encode, WriterCall.length, Tag.headLength]
    omega
  | endContainer =>
    obtain ⟨hopen, heq⟩ := Option.ite_none_left_eq_some.mp h
    obtain rfl := Option.some.inj heq
    exact ⟨[0x18], rfl, follows_endContainer_of (by simpa using hopen)⟩
  | signed tag v =>
    obtain ⟨htag, rfl⟩ := hplain tag h
    obtain ⟨bytes, hlength, hfollows⟩ := follows_sized htag (.signedInt (Width.forSigned v))
      (writeLe v.toUInt64 (Width.forSigned v).octets)
    exact ⟨bytes, by rw [hlength, length_writeLe]; rfl, hfollows⟩
  | unsigned tag v =>
    obtain ⟨htag, rfl⟩ := hplain tag h
    obtain ⟨bytes, hlength, hfollows⟩ := follows_sized htag (.unsignedInt (Width.forUnsigned v))
      (writeLe v (Width.forUnsigned v).octets)
    exact ⟨bytes, by rw [hlength, length_writeLe]; rfl, hfollows⟩
  | bool tag v =>
    obtain ⟨htag, rfl⟩ := hplain tag h
    refine ⟨_, ?_, follows_head (Nesting.check_of_isOk htag) (.bool v)⟩
    rw [List.length_cons, Tag.length_encode, WriterCall.length, Tag.headLength]
    omega
  | null tag =>
    obtain ⟨htag, rfl⟩ := hplain tag h
    refine ⟨_, ?_, follows_head (Nesting.check_of_isOk htag) .null⟩
    rw [List.length_cons, Tag.length_encode, WriterCall.length, Tag.headLength]
    omega
  | float tag bits =>
    obtain ⟨htag, rfl⟩ := hplain tag h
    obtain ⟨bytes, hlength, hfollows⟩ := follows_sized htag .float (writeLe bits.toUInt64 4)
    exact ⟨bytes, hlength, hfollows⟩
  | double tag bits =>
    obtain ⟨htag, rfl⟩ := hplain tag h
    obtain ⟨bytes, hlength, hfollows⟩ := follows_sized htag .double (writeLe bits 8)
    exact ⟨bytes, hlength, hfollows⟩
  | utf8 tag v =>
    obtain ⟨htag, rfl⟩ := hplain tag h
    obtain ⟨bytes, hlength, hfollows⟩ := follows_pieces htag
      (.utf8 (Width.forUnsigned (UInt64.ofNat (asBytes v).length)))
      (writeLe (UInt64.ofNat (asBytes v).length) _) (asBytes v)
    exact ⟨bytes, by rw [hlength, length_writeLe]; rfl, hfollows⟩
  | octets tag v =>
    obtain ⟨htag, rfl⟩ := hplain tag h
    obtain ⟨bytes, hlength, hfollows⟩ := follows_pieces htag
      (.octets (Width.forUnsigned (UInt64.ofNat v.length))) (writeLe (UInt64.ofNat v.length) _) v
    exact ⟨bytes, by rw [hlength, length_writeLe]; rfl, hfollows⟩
  | octetsFill tag len byte =>
    obtain ⟨htag, rfl⟩ := hplain tag h
    obtain ⟨bytes, hlength, hfollows⟩ := follows_pieces htag
      (.octets (Width.forUnsigned (UInt64.ofNat len))) (writeLe (UInt64.ofNat len) _)
      (List.replicate len byte)
    exact ⟨bytes, by rw [hlength, length_writeLe, List.length_replicate]; rfl, hfollows⟩

/-- Calls that may be made one after the other write as many octets as their lengths say. -/
lemma follows_runAll {n n' : Nesting} {calls : List WriterCall} (h : n.afterAll? calls = some n') :
    ∃ bytes, bytes.length = lengths calls ∧ Follows (WriterCall.runAll calls) n ⟨bytes, .ok (), n'⟩ := by
  induction calls generalizing n with
  | nil =>
    obtain rfl := Option.some.inj h
    exact ⟨[], rfl, Follows.of_still fun _ _ _ => rfl⟩
  | cons call calls ih =>
    obtain ⟨n₁, hfirst, hrest⟩ := Option.bind_eq_some_iff.mp h
    obtain ⟨bytes, hlength, hfollows⟩ := follows_call hfirst
    obtain ⟨bytes', hlength', hfollows'⟩ := ih hrest
    refine ⟨bytes ++ bytes', ?_, hfollows.bind (f := fun _ => WriterCall.runAll calls) hfollows'⟩
    rw [List.length_append, hlength, hlength', lengths_cons]

/-! ## One element in a buffer -/

/-- Some calls that make one element. -/
abbrev MakesOne (calls : List WriterCall) : Prop :=
  (⟨[], false⟩ : Nesting).afterAll? calls = some ⟨[], true⟩

variable {calls : List WriterCall}

/-- Into a buffer that is long enough the element is written. -/
lemma finish_runAll (h : MakesOne calls) {buf : Slice} (hfits : lengths calls ≤ buf.octets.length) :
    ∃ w bytes, exec (WriterCall.runAll calls) (.new buf) = (.ok (), w) ∧ w.finish = .ok bytes ∧
      bytes.length = lengths calls := by
  obtain ⟨bytes, hlength, hfollows⟩ := follows_runAll h
  have hroom : (TlvWriter.new buf).Fits bytes := by
    show 0 + bytes.length ≤ buf.octets.length
    omega
  obtain ⟨w, hrun, hwrote⟩ :=
    (hfollows _ (TlvWriter.sound_new buf) (TlvWriter.nesting_new buf)).1 hroom
  refine ⟨w, w.written, hrun,
    TlvWriter.finish_of_nesting hwrote.sound hwrote.nesting_eq hwrote.startedInside_eq, ?_⟩
  have hpos : w.pos = lengths calls := by
    rw [hwrote.pos_eq, hlength]
    exact Nat.zero_add _
  rw [TlvWriter.written, if_pos hwrote.sound.pos_le, List.length_take, hpos]
  exact Nat.min_eq_left (hpos ▸ hwrote.sound.pos_le)

/-- Into one that is not, it is not. -/
lemma runAll_short (h : MakesOne calls) {buf : Slice} (hshort : buf.octets.length < lengths calls) :
    ∃ w, exec (WriterCall.runAll calls) (.new buf) = (.error .bufferTooSmall, w) := by
  obtain ⟨bytes, hlength, hfollows⟩ := follows_runAll h
  have hroom : ¬(TlvWriter.new buf).Fits bytes := by
    show ¬(0 + bytes.length ≤ buf.octets.length)
    omega
  obtain ⟨w, hrun, -⟩ :=
    (hfollows _ (TlvWriter.sound_new buf) (TlvWriter.nesting_new buf)).2 hroom
  exact ⟨w, hrun⟩

end MatterKit.Tlv
