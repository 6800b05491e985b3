import MatterKit.Tlv.RoundTrip
import MatterKit.Tlv.Emit

/-!
# A block that is taken back

`TlvWriter::checkpoint` and `rollback` are what packs a message to its last octet: a block is tried, and
taken back when it does not fit.

* No call writes in front of where it starts, whether it succeeds or fails (`Forward`, `Call.forward`),
  so no run after a checkpoint touches the octets before it (`Action.forward`).
* Two writers that differ in what their buffers hold and in nothing else cannot be told apart by any run
  (`Twin`, `Action.blind`).
* So a writer that is taken back is the one it was: same octets written, same depth, same stack, and
  every run from it comes out the same (`rollback_erases`).
-/

namespace MatterKit.Tlv

open Lib Machine

/-! ## What is done with a writer -/

/-- Every call on a writer that may fail: the ones that write an element of their own, and the two
that copy one. -/
inductive Call
  | own (call : WriterCall)
  | rawElement (bytes : List UInt8)
  | rawElementRetagged (bytes : List UInt8) (tag : Tag)

/-- Makes the call. -/
def Call.run : Call → Writing Unit
  | .own call => call.run
  | .rawElement bytes => Tlv.rawElement bytes
  | .rawElementRetagged bytes tag => Tlv.rawElementRetagged bytes tag

/-- A writer and the checkpoints taken of it so far. -/
structure Packing where
  writer : TlvWriter
  taken : List Checkpoint

/-- One thing done with a writer: a call, a checkpoint, or going back to one of those taken. -/
inductive Action
  | call (call : Call)
  | checkpoint
  | rollback (index : ℕ)

namespace Action

/-- What is done, and what it returns.
Source: the calls of `TlvWriter`, `TlvWriter::checkpoint` and `TlvWriter::rollback`. -/
def act (p : Packing) : Action → Except ErrorCode Unit × Packing
  | .call c =>
    let (result, writer) := exec c.run p.writer
    (result, { p with writer := writer })
  | .checkpoint => (.ok (), { p with taken := p.taken ++ [p.writer.checkpoint] })
  | .rollback index =>
    match p.taken[index]? with
    | some saved => (.ok (), { p with writer := p.writer.rollback saved })
    | none => (.ok (), p)

/-- Where a run of actions leads, whatever each of them returns. -/
def actAll (p : Packing) : List Action → Packing
  | [] => p
  | action :: actions => actAll (action.act p).2 actions

/-- What each action of a run returns. -/
def results (p : Packing) : List Action → List (Except ErrorCode Unit)
  | [] => []
  | action :: actions => (action.act p).1 :: results (action.act p).2 actions

end Action

/-! ## Nothing is written in front of where a call starts -/

namespace Slice

/-- What is in front of the octets that are overwritten stays. -/
lemma take_overwrite_of_le (s : Slice) {n pos : ℕ} (bytes : List UInt8) (h : n ≤ pos) :
    (s.overwrite pos bytes).octets.take n = s.octets.take n := by
  unfold overwrite
  split
  · rename_i hfits
    have hn : n ≤ (s.octets.take pos).length := by
      rw [List.length_take]
      omega
    show (s.octets.take pos ++ bytes ++ s.octets.drop (pos + bytes.length)).take n = _
    rw [List.append_assoc, List.take_append_of_le_length hn, List.take_take, Nat.min_eq_left h]
  · rfl

end Slice

/-- The second writer has come from the first without writing in front of it. -/
structure TlvWriter.Forward (w w' : TlvWriter) : Prop where
  pos_le : w.pos ≤ w'.pos
  length_eq : w'.buf.octets.length = w.buf.octets.length
  before_eq : w'.buf.octets.take w.pos = w.buf.octets.take w.pos
  startedInside_eq : w'.startedInside = w.startedInside

namespace TlvWriter.Forward

lemma refl (w : TlvWriter) : w.Forward w := ⟨Nat.le_refl _, rfl, rfl, rfl⟩

lemma trans {w₁ w₂ w₃ : TlvWriter} (h : w₁.Forward w₂) (h' : w₂.Forward w₃) : w₁.Forward w₃ := by
  refine ⟨h.pos_le.trans h'.pos_le, h'.length_eq.trans h.length_eq, ?_,
    h'.startedInside_eq.trans h.startedInside_eq⟩
  have hcut := congrArg (List.take w₁.pos) h'.before_eq
  rw [List.take_take, List.take_take, Nat.min_eq_left h.pos_le] at hcut
  rw [hcut, h.before_eq]

instance : Std.Refl TlvWriter.Forward := ⟨refl⟩

instance : IsTrans TlvWriter TlvWriter.Forward := ⟨fun _ _ _ => trans⟩

lemma put (w : TlvWriter) (bytes : List UInt8) : w.Forward (w.put bytes) where
  pos_le := Nat.le_add_right _ _
  length_eq := Slice.length_overwrite _ _ _
  before_eq := Slice.take_overwrite_of_le _ _ (Nat.le_refl _)
  startedInside_eq := rfl

/-- A writer whose buffer and position stay goes forward. -/
lemma of_eq {w w' : TlvWriter} (hbuf : w'.buf = w.buf) (hpos : w'.pos = w.pos)
    (hstarted : w'.startedInside = w.startedInside) : w.Forward w' := by
  refine ⟨Nat.le_of_eq hpos.symm, ?_, ?_, hstarted⟩
  · rw [hbuf]
  · rw [hbuf]

lemma mark (w : TlvWriter) : w.Forward w.mark := by
  unfold TlvWriter.mark
  split_ifs
  · exact of_eq rfl rfl rfl
  · exact refl w

end TlvWriter.Forward

section Forward

open TlvWriter (Forward)

lemma emit_forward (bytes : List UInt8) : Moves Forward (emit bytes) :=
  Moves.get fun w => (Moves.require _ _).bind (fun _ => Moves.modify fun w => .put w bytes) w

variable (tag : Tag)

lemma checkTag_forward : Moves Forward (checkTag tag) :=
  Moves.get fun w => (Moves.require _ _).bind (fun _ => Moves.require _ _) w

lemma mark_forward : Moves Forward (modify TlvWriter.mark : Writing PUnit) :=
  Moves.modify Forward.mark

lemma head_forward (ty : ElementType) : Moves Forward (head tag ty) :=
  (checkTag_forward tag).bind fun _ => (emit_forward _).bind fun _ => mark_forward

lemma value_forward (ty : ElementType) (body : List UInt8) : Moves Forward (value tag ty body) :=
  (head_forward tag ty).bind fun _ => emit_forward body

lemma string_forward (bytes : List UInt8) (utf8 : Bool) : Moves Forward (string tag bytes utf8) :=
  (head_forward tag _).bind fun _ => (emit_forward _).bind fun _ => emit_forward bytes

lemma start_forward (kind : ContainerKind) : Moves Forward (start tag kind) := by
  refine Moves.get fun w => (Moves.require _ _).bind (fun _ => ?_) w
  exact (head_forward tag _).bind fun _ => Moves.modify fun w => .of_eq rfl rfl rfl

lemma endContainer_forward : Moves Forward endContainer := by
  refine Moves.get fun w => (Moves.require _ _).bind (fun _ => ?_) w
  refine (emit_forward _).bind fun _ => Moves.modify fun w => ?_
  have hleave : w.Forward w.leave := .of_eq rfl rfl rfl
  exact hleave.trans (.mark w.leave)

/-- No call writes in front of where it starts, and no call that fails does. -/
lemma WriterCall.forward (call : WriterCall) : Moves Forward call.run := by
  cases call with
  | signed tag v | unsigned tag v => exact value_forward tag _ _
  | bool tag v | null tag => exact head_forward tag _
  | float tag bits | double tag bits => exact value_forward tag _ _
  | utf8 tag v | octets tag v => exact string_forward tag _ _
  | octetsFill tag len byte =>
    show Moves Forward (Tlv.octetsFill tag len byte)
    rw [octetsFill_eq]
    exact string_forward tag _ _
  | start tag kind => exact start_forward tag kind
  | endContainer => exact endContainer_forward

lemma copy_forward (bytes : List UInt8) :
    Moves Forward (do checkTag tag; emit bytes; modify TlvWriter.mark : Writing PUnit) :=
  (checkTag_forward tag).bind fun _ => (emit_forward bytes).bind fun _ => mark_forward

lemma checkRaw_forward (bytes : List UInt8) : Moves Forward (checkRaw bytes) :=
  Moves.get fun w => Moves.ofResult _ w

lemma Call.forward (call : Call) : Moves Forward call.run := by
  cases call with
  | own call => exact call.forward
  | rawElement bytes =>
    show Moves Forward (Tlv.rawElement bytes)
    rw [rawElement_eq]
    exact (checkRaw_forward bytes).bind fun first => copy_forward first.tag bytes
  | rawElementRetagged bytes tag =>
    exact (Moves.ofResult _).bind fun first => (Moves.ofResult _).bind fun control =>
      (Moves.require _ _).bind fun _ => copy_forward tag _

end Forward

/-! ## A run after a checkpoint -/

/-- Since `s`, nothing has been written in front of it, and every checkpoint taken is behind it. -/
structure Packing.Since (s : TlvWriter) (p : Packing) : Prop where
  forward : s.Forward p.writer
  taken_le : ∀ checkpoint ∈ p.taken, s.pos ≤ checkpoint.pos

lemma Packing.since_self (s : TlvWriter) : Packing.Since s ⟨s, []⟩ :=
  ⟨.refl s, by simp⟩

/-- Every action keeps what is in front of an earlier writer. -/
lemma Packing.Since.act {s : TlvWriter} {p : Packing} (h : p.Since s) (action : Action) :
    (action.act p).2.Since s := by
  cases action with
  | call c => exact ⟨h.forward.trans (c.forward p.writer), h.taken_le⟩
  | checkpoint =>
    refine ⟨h.forward, ?_⟩
    intro checkpoint hmem
    rcases List.mem_append.mp hmem with hold | hnew
    · exact h.taken_le checkpoint hold
    · rw [List.mem_singleton.mp hnew]
      exact h.forward.pos_le
  | rollback index =>
    rcases htaken : p.taken[index]? with _ | checkpoint
    · simp only [Action.act, htaken]
      exact h
    · have hle := h.taken_le checkpoint (List.mem_of_getElem? htaken)
      simp only [Action.act, htaken]
      exact ⟨⟨hle, h.forward.length_eq, h.forward.before_eq, h.forward.startedInside_eq⟩,
        h.taken_le⟩

lemma Packing.Since.actAll {s : TlvWriter} {p : Packing} (h : p.Since s) (actions : List Action) :
    (Action.actAll p actions).Since s := by
  induction actions generalizing p with
  | nil => exact h
  | cons action actions ih => exact ih (h.act action)

/-! ## Writers that differ in their buffers only -/

/-- Two writers are the same but for what their buffers hold. -/
structure TlvWriter.Twin (w w' : TlvWriter) : Prop where
  length_eq : w'.buf.octets.length = w.buf.octets.length
  pos_eq : w'.pos = w.pos
  stack_eq : w'.stack = w.stack
  depth_eq : w'.depth = w.depth
  topLevelDone_eq : w'.topLevelDone = w.topLevelDone
  startedInside_eq : w'.startedInside = w.startedInside

namespace TlvWriter.Twin

variable {w w' : TlvWriter}

lemma currentContainer_eq (h : w.Twin w') : w'.currentContainer = w.currentContainer := by
  unfold TlvWriter.currentContainer
  rw [h.depth_eq, h.stack_eq]

lemma checkpoint_eq (h : w.Twin w') : w'.checkpoint = w.checkpoint := by
  unfold TlvWriter.checkpoint
  rw [h.pos_eq, h.stack_eq, h.depth_eq, h.topLevelDone_eq]

lemma put (h : w.Twin w') (bytes : List UInt8) : (w.put bytes).Twin (w'.put bytes) := by
  refine ⟨?_, ?_, h.stack_eq, h.depth_eq, h.topLevelDone_eq, h.startedInside_eq⟩
  · show (w'.buf.overwrite w'.pos bytes).octets.length = (w.buf.overwrite w.pos bytes).octets.length
    rw [Slice.length_overwrite, Slice.length_overwrite, h.length_eq]
  · show w'.pos + bytes.length = w.pos + bytes.length
    rw [h.pos_eq]

lemma mark (h : w.Twin w') : w.mark.Twin w'.mark := by
  unfold TlvWriter.mark
  by_cases hdepth : w.depth = 0
  · rw [if_pos hdepth, if_pos (h.depth_eq.trans hdepth)]
    exact ⟨h.length_eq, h.pos_eq, h.stack_eq, h.depth_eq, rfl, h.startedInside_eq⟩
  · rw [if_neg hdepth, if_neg (by rw [h.depth_eq]; exact hdepth)]
    exact h

lemma enter (h : w.Twin w') (kind : ContainerKind) : (w.enter kind).Twin (w'.enter kind) := by
  refine ⟨h.length_eq, h.pos_eq, ?_, ?_, rfl, h.startedInside_eq⟩
  · show w'.stack.setIfInBounds w'.depth kind = w.stack.setIfInBounds w.depth kind
    rw [h.stack_eq, h.depth_eq]
  · show w'.depth + 1 = w.depth + 1
    rw [h.depth_eq]

lemma leave (h : w.Twin w') : w.leave.Twin w'.leave := by
  refine ⟨h.length_eq, h.pos_eq, h.stack_eq, ?_, h.topLevelDone_eq, h.startedInside_eq⟩
  show w'.depth - 1 = w.depth - 1
  rw [h.depth_eq]

lemma rollback (h : w.Twin w') (checkpoint : Checkpoint) :
    (w.rollback checkpoint).Twin (w'.rollback checkpoint) :=
  ⟨h.length_eq, rfl, rfl, rfl, rfl, h.startedInside_eq⟩

/-- Twins finish alike, but for the octets. -/
lemma finish (h : w.Twin w') : w'.finish.map (fun _ => ()) = w.finish.map fun _ => () := by
  unfold TlvWriter.finish
  rw [h.length_eq, h.pos_eq, h.depth_eq, h.topLevelDone_eq, h.startedInside_eq]
  unfold ensure
  split_ifs <;> rfl

end TlvWriter.Twin

section Blind

open TlvWriter (Twin)

lemma emit_blind (bytes : List UInt8) : Blind Twin (emit bytes) := by
  refine Blind.get (fun w => (Blind.require _ _).bind fun _ => Blind.modify fun w w' h => h.put bytes)
    fun w w' h => ?_
  rw [h.pos_eq, h.length_eq]

variable (tag : Tag)

lemma checkTag_blind : Blind Twin (checkTag tag) := by
  refine Blind.get (fun w => (Blind.require _ _).bind fun _ => Blind.require _ _) fun w w' h => ?_
  rw [h.depth_eq, h.topLevelDone_eq, h.currentContainer_eq]

lemma mark_blind : Blind Twin (modify TlvWriter.mark : Writing PUnit) :=
  Blind.modify fun _ _ h => h.mark

lemma head_blind (ty : ElementType) : Blind Twin (head tag ty) :=
  (checkTag_blind tag).bind fun _ => (emit_blind _).bind fun _ => mark_blind

lemma value_blind (ty : ElementType) (body : List UInt8) : Blind Twin (value tag ty body) :=
  (head_blind tag ty).bind fun _ => emit_blind body

lemma string_blind (bytes : List UInt8) (utf8 : Bool) : Blind Twin (string tag bytes utf8) :=
  (head_blind tag _).bind fun _ => (emit_blind _).bind fun _ => emit_blind bytes

lemma start_blind (kind : ContainerKind) : Blind Twin (start tag kind) := by
  refine Blind.get (fun w => (Blind.require _ _).bind fun _ => (head_blind tag _).bind fun _ =>
    Blind.modify fun _ _ h => h.enter kind) fun w w' h => ?_
  rw [h.depth_eq]

lemma endContainer_blind : Blind Twin endContainer := by
  refine Blind.get (fun w => (Blind.require _ _).bind fun _ => (emit_blind _).bind fun _ =>
    Blind.modify fun _ _ h => h.leave.mark) fun w w' h => ?_
  rw [h.depth_eq]

/-- Twins take every call alike. -/
lemma WriterCall.blind (call : WriterCall) : Blind Twin call.run := by
  cases call with
  | signed tag v | unsigned tag v => exact value_blind tag _ _
  | bool tag v | null tag => exact head_blind tag _
  | float tag bits | double tag bits => exact value_blind tag _ _
  | utf8 tag v | octets tag v => exact string_blind tag _ _
  | octetsFill tag len byte =>
    show Blind Twin (Tlv.octetsFill tag len byte)
    rw [octetsFill_eq]
    exact string_blind tag _ _
  | start tag kind => exact start_blind tag kind
  | endContainer => exact endContainer_blind

lemma copy_blind (bytes : List UInt8) :
    Blind Twin (do checkTag tag; emit bytes; modify TlvWriter.mark : Writing PUnit) :=
  (checkTag_blind tag).bind fun _ => (emit_blind bytes).bind fun _ => mark_blind

lemma checkRaw_blind (bytes : List UInt8) : Blind Twin (checkRaw bytes) := by
  refine Blind.get (fun w => Blind.ofResult _) fun w w' h => ?_
  rw [h.currentContainer_eq]

lemma Call.blind (call : Call) : Blind Twin call.run := by
  cases call with
  | own call => exact call.blind
  | rawElement bytes =>
    show Blind Twin (Tlv.rawElement bytes)
    rw [rawElement_eq]
    exact (checkRaw_blind bytes).bind fun first => copy_blind first.tag bytes
  | rawElementRetagged bytes tag =>
    exact (Blind.ofResult _).bind fun first => (Blind.ofResult _).bind fun control =>
      (Blind.require _ _).bind fun _ => copy_blind tag _

/-- Twins take every action alike, with the same checkpoints taken. -/
lemma Action.blind (action : Action) {p p' : Packing} (h : p.writer.Twin p'.writer)
    (htaken : p'.taken = p.taken) : (action.act p').1 = (action.act p).1 ∧
      (action.act p).2.writer.Twin (action.act p').2.writer ∧
        (action.act p').2.taken = (action.act p).2.taken := by
  cases action with
  | call c =>
    obtain ⟨hresult, htwin⟩ := c.blind _ _ h
    exact ⟨hresult.symm, htwin, htaken⟩
  | checkpoint =>
    refine ⟨rfl, h, ?_⟩
    show p'.taken ++ [p'.writer.checkpoint] = p.taken ++ [p.writer.checkpoint]
    rw [htaken, h.checkpoint_eq]
  | rollback index =>
    rcases hindex : p.taken[index]? with _ | checkpoint
    · simp only [act, htaken, hindex]
      exact ⟨trivial, h, trivial⟩
    · simp only [act, htaken, hindex]
      exact ⟨trivial, h.rollback checkpoint, trivial⟩

/-- Twins take every run of actions alike. -/
lemma Action.blind_all (actions : List Action) {p p' : Packing} (h : p.writer.Twin p'.writer)
    (htaken : p'.taken = p.taken) : results p' actions = results p actions ∧
      (actAll p actions).writer.Twin (actAll p' actions).writer := by
  induction actions generalizing p p' with
  | nil => exact ⟨rfl, h⟩
  | cons action actions ih =>
    obtain ⟨hresult, htwin, hsame⟩ := action.blind h htaken
    obtain ⟨hresults, hend⟩ := ih htwin hsame
    refine ⟨?_, hend⟩
    unfold results
    rw [hresult, hresults]

end Blind

/-! ## Taken back -/

/-- A writer that is taken back to where nothing has been written in front of since is a twin of the
one it was, and has written the same octets. -/
lemma TlvWriter.Forward.rollback {s w : TlvWriter} (h : s.Forward w) :
    s.Twin (w.rollback s.checkpoint) ∧ (w.rollback s.checkpoint).written = s.written := by
  refine ⟨⟨h.length_eq, rfl, rfl, rfl, rfl, h.startedInside_eq⟩, ?_⟩
  show (if s.pos ≤ w.buf.octets.length then w.buf.octets.take s.pos else []) =
    if s.pos ≤ s.buf.octets.length then s.buf.octets.take s.pos else []
  rw [h.length_eq, h.before_eq]

/-- **A block that is taken back has left no trace.** From any writer, after any actions, the rollback
to its checkpoint gives back what was written, the depth, the stack and what `finish` returns; and every
later run is answered call by call as it would have been. -/
theorem rollback_erases (s : TlvWriter) (actions : List Action) :
    let back := (Action.actAll ⟨s, []⟩ actions).writer.rollback s.checkpoint
    back.written = s.written ∧ back.depth = s.depth ∧ back.stack = s.stack ∧
      back.finish = s.finish ∧
      ∀ (taken : List Checkpoint) (later : List Action),
        Action.results ⟨back, taken⟩ later = Action.results ⟨s, taken⟩ later ∧
          (Action.actAll ⟨back, taken⟩ later).writer.finish.map (fun _ => ()) =
            (Action.actAll ⟨s, taken⟩ later).writer.finish.map fun _ => () := by
  have hsince := (Packing.since_self s).actAll actions
  obtain ⟨htwin, hwritten⟩ := hsince.forward.rollback
  refine ⟨hwritten, rfl, rfl, ?_, fun taken later => ?_⟩
  · unfold TlvWriter.finish
    rw [hwritten, htwin.length_eq, htwin.pos_eq, htwin.depth_eq, htwin.topLevelDone_eq,
      htwin.startedInside_eq]
  · have hsame : (Packing.mk s taken).writer.Twin (Packing.mk _ taken).writer := htwin
    obtain ⟨hresults, hend⟩ := Action.blind_all later hsame rfl
    exact ⟨hresults, hend.finish⟩

end MatterKit.Tlv
