import MatterKit.Tlv.Writer

/-!
# Elements carried whole

A layer that does not know an element's schema carries it as octets: it skips over it with the reader
(`skipValue`, `sliceFrom`) and hands it to a writer that checks it is one element before copying it
(`rawElement`), with its own tag or with another one (`rawElementRetagged`).

The two loops over a reader, `skipContainer` here and `eachMember` for the decoders, are written with as
many rounds as there are octets left and one more: every round reads an element, and an element takes at
least an octet (`nextElement_progress`).
-/

namespace MatterKit.Tlv

open Lib Machine

/-! ## Looking at an element -/

/-- Source: `Value::container`. -/
def Value.container? : Value → Option ContainerKind
  | .container kind => some kind
  | _ => none

/-- Source: `Tag::context`. -/
def Tag.context? : Tag → Option UInt8
  | .context n => some n
  | _ => none

/-- Source: `Element::unsigned`. -/
def Element.unsigned (e : Element) : Except ErrorCode UInt64 :=
  match e.value with
  | .unsigned v => .ok v
  | _ => .error .tlvWrongType

/-- Source: `Element::bool`. -/
def Element.bool (e : Element) : Except ErrorCode Bool :=
  match e.value with
  | .bool v => .ok v
  | _ => .error .tlvWrongType

/-! ## Skipping and capturing -/

/-- Source: `TlvReader::position`. -/
def position : Reading ℕ := do
  let r ← get
  pure r.pos

/-- The octets from `start` to the cursor.
Source: `TlvReader::slice_from`. -/
def sliceFrom (start : ℕ) : Reading (List UInt8) := do
  let r ← get
  require (start ≤ r.pos ∧ r.pos ≤ r.buf.length) .tlvTruncated
  pure ((r.buf.take r.pos).drop start)

/-- The loop of `skip_container`: elements are read until the depth is back at `target`. -/
def skipTo (target : ℕ) : ℕ → Reading Unit
  | 0 => throw .tlvContainerMismatch
  | rounds + 1 => do
    let r ← get
    if target < r.depth then
      match ← nextElement with
      | none => throw .tlvContainerMismatch
      | some _ => skipTo target rounds
    else pure ()

/-- Source: `TlvReader::skip_container`. -/
def skipContainer : Reading Unit := do
  let r ← get
  require (r.depth ≠ 0) .tlvContainerMismatch
  skipTo (r.depth - 1) (r.buf.length - r.pos + 1)

/-- Source: `TlvReader::skip_value`. -/
def skipValue (e : Element) : Reading Unit :=
  if e.value.container?.isSome then skipContainer else pure ()

/-- The loop of every decoder of a structure or list: each member goes to `step` with the position
before it, up to the end of the container.
Source: the `loop` of the `decode` functions of `im/path.rs`, `im/ib.rs` and `im/message.rs`. -/
def eachMemberFrom {β : Type} (step : ℕ → Element → β → Reading β) : ℕ → β → Reading β
  | 0, _ => throw .tlvTruncated
  | rounds + 1, acc => do
    let start ← position
    match ← nextElement with
    | none => throw .tlvTruncated
    | some e =>
      if e.value = .endOfContainer then pure acc
      else do
        let acc ← step start e acc
        eachMemberFrom step rounds acc

/-- The members of the container the cursor has just entered. -/
def eachMember {β : Type} (step : ℕ → Element → β → Reading β) (init : β) : Reading β := do
  let r ← get
  eachMemberFrom step (r.buf.length - r.pos + 1) init

/-! ## Writing an element as it is -/

/-- Checks that octets are one element as it may stand where `r` starts, and returns it.
Source: `TlvWriter::raw_element` and `raw_element_retagged`, up to `r.finish()?`. -/
def rawCheck (r : TlvReader) : Except ErrorCode Element := do
  let check : Reading Element := do
    let some first ← nextElement | throw .invalidArgument
    skipValue first
    let r ← get
    ofResult r.finish
    pure first
  (exec check r).1

/-- Copies an encoded element in, after checking it where it is to stand.
Source: `TlvWriter::raw_element`. -/
def rawElement (bytes : List UInt8) : Writing Unit := do
  let w ← get
  let r := match w.currentContainer with
    | some kind => TlvReader.newIn bytes kind
    | none => TlvReader.new bytes
  let first ← ofResult (rawCheck r)
  checkTag first.tag
  emit bytes
  modify TlvWriter.mark

/-- Copies an encoded element in under another tag.
Source: `TlvWriter::raw_element_retagged`. -/
def rawElementRetagged (bytes : List UInt8) (tag : Tag) : Writing Unit := do
  let first ← ofResult (rawCheck (TlvReader.newIn bytes .list))
  let control ← ofResult (okOr bytes.head? .invalidArgument)
  require (first.tag.encodedLen + 1 ≤ bytes.length) .invalidArgument
  checkTag tag
  emit ((tag.controlBits ||| (control &&& 0x1F)) :: tag.encode ++
    bytes.drop (first.tag.encodedLen + 1))
  modify TlvWriter.mark

/-! ## Taking a block back -/

/-- A writer's position.
Source: `tlv/writer.rs`, `Checkpoint`. -/
structure Checkpoint where
  pos : ℕ
  stack : Vector ContainerKind maxDepth
  depth : ℕ
  topLevelDone : Bool

namespace TlvWriter

/-- Source: `TlvWriter::checkpoint`. -/
def checkpoint (w : TlvWriter) : Checkpoint := ⟨w.pos, w.stack, w.depth, w.topLevelDone⟩

/-- Source: `TlvWriter::rollback`. -/
def rollback (w : TlvWriter) (checkpoint : Checkpoint) : TlvWriter :=
  { w with
    pos := checkpoint.pos
    stack := checkpoint.stack
    depth := checkpoint.depth
    topLevelDone := checkpoint.topLevelDone }

end TlvWriter

end MatterKit.Tlv
