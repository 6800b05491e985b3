import MatterKit.Lib.Result
import MatterKit.Platform

/-!
# Bulk data transfers

`bdx/transfer.rs`: how the two ends of a transfer settle its parameters (`negotiate`, `fromSendAccept`,
`fromReceiveAccept`), and the two halves that hold each other to them. The `Sender` moves a cursor
through the file and counts the octets it has put into blocks; the `Receiver` counts those it has got.
In receiver drive a block answers a query, and a query may skip a part of the file.
-/

namespace MatterKit.Bdx

open Lib

/-- Source: `bdx/mod.rs`, `StatusCode`, those that the transfer itself gives. -/
inductive StatusCode
  | lengthTooLarge
  | lengthTooShort
  | lengthMismatch
  | lengthRequired
  | badMessageContents
  | badBlockCounter
  | unexpectedMessage
  | responderBusy
  | transferMethodNotSupported
  | startOffsetNotSupported
  | versionNotSupported
  deriving DecidableEq

/-- Source: `bdx/mod.rs`, `Rejected`. -/
abbrev Rejected := Except StatusCode

/-! ## What is agreed on -/

/-- Source: `bdx/message.rs`, `TransferControl`. -/
structure TransferControl where
  version : UInt8
  senderDrive : Bool
  receiverDrive : Bool
  asynchronous : Bool
  deriving DecidableEq

/-- Source: `TransferControl::is_decided`. -/
def TransferControl.isDecided (c : TransferControl) : Bool := c.senderDrive ^^ c.receiverDrive

/-- The file designator and the metadata are not read by anything here.
Source: `bdx/message.rs`, `Init`. -/
structure Init where
  control : TransferControl
  maxBlockSize : UInt16
  startOffset : Option UInt64
  definiteLength : Option UInt64

/-- Source: `bdx/message.rs`, `SendAccept`. -/
structure SendAccept where
  control : TransferControl
  maxBlockSize : UInt16

/-- Source: `bdx/message.rs`, `ReceiveAccept`. -/
structure ReceiveAccept where
  control : TransferControl
  maxBlockSize : UInt16
  length : Option UInt64

/-- Source: `Direction`. -/
inductive Direction
  | upload
  | download

/-- Source: `Limits`. -/
structure Limits where
  maxBlockSize : UInt16
  maxLength : Option UInt64
  minLength : Option UInt64
  requireDefiniteLength : Bool
  allowStartOffset : Bool
  available : Option UInt64
  busy : Bool

/-- Source: `Parameters`. -/
structure Parameters where
  control : TransferControl
  maxBlockSize : UInt16
  startOffset : UInt64
  length : Option UInt64
  deriving DecidableEq

/-- Source: `check_accepted`. -/
def checkAccepted (proposed accepted : TransferControl) : Rejected TransferControl :=
  if accepted.version > proposed.version then .error .versionNotSupported
  else if accepted.asynchronous || !accepted.isDecided then .error .transferMethodNotSupported
  else if !((accepted.senderDrive && proposed.senderDrive) ||
      (accepted.receiverDrive && proposed.receiverDrive)) then .error .transferMethodNotSupported
  else .ok accepted

/-- Source: `check_block_size`. -/
def checkBlockSize (proposed accepted : UInt16) : Rejected UInt16 :=
  if accepted = 0 || accepted > proposed then .error .badMessageContents else .ok accepted

namespace Parameters

/-- Source: `Parameters::from_send_accept`. -/
def fromSendAccept (proposed : Init) (accept : SendAccept) : Rejected Parameters := do
  let control ← checkAccepted proposed.control accept.control
  let maxBlockSize ← checkBlockSize proposed.maxBlockSize accept.maxBlockSize
  pure ⟨control, maxBlockSize, proposed.startOffset.getD 0, proposed.definiteLength⟩

/-- Source: `Parameters::from_receive_accept`, its check of the length. -/
def offersMore (proposed : Init) (accept : ReceiveAccept) : Bool :=
  match proposed.definiteLength, accept.length with
  | some asked, some offered => offered > asked
  | _, _ => false

/-- Source: `Parameters::from_receive_accept`. -/
def fromReceiveAccept (proposed : Init) (accept : ReceiveAccept) : Rejected Parameters := do
  let control ← checkAccepted proposed.control accept.control
  ensure (offersMore proposed accept = false) .lengthTooLarge
  let maxBlockSize ← checkBlockSize proposed.maxBlockSize accept.maxBlockSize
  pure ⟨control, maxBlockSize, proposed.startOffset.getD 0, accept.length⟩

end Parameters

/-- Source: `negotiate`, `let start_offset`. -/
def startOffsetOf (init : Init) (limits : Limits) : Rejected UInt64 :=
  match init.startOffset with
  | some offset => if !limits.allowStartOffset then .error .startOffsetNotSupported else .ok offset
  | none => .ok 0

/-- Source: `negotiate`, what it does about `init.definite_length` before it chooses one. -/
def checkLength (init : Init) (limits : Limits) : Rejected Unit :=
  match init.definiteLength with
  | some length =>
    if limits.maxLength.any fun max => length > max then .error .lengthTooLarge
    else if limits.minLength.any fun min => length < min then .error .lengthTooShort
    else .ok ()
  | none => if limits.requireDefiniteLength then .error .lengthRequired else .ok ()

/-- Source: `negotiate`, `let length`. -/
def lengthOf (direction : Direction) (init : Init) (limits : Limits) : Option UInt64 :=
  match direction with
  | .upload => init.definiteLength
  | .download =>
    match init.definiteLength, limits.available with
    | some asked, some available => some (min asked available)
    | some asked, none => some asked
    | none, available => available

/-- Source: `negotiate`. -/
def negotiate (direction : Direction) (init : Init) (limits : Limits) : Rejected Parameters := do
  ensure (limits.busy = false) .responderBusy
  ensure (init.maxBlockSize ≠ 0) .badMessageContents
  ensure (init.control.senderDrive || init.control.receiverDrive) .transferMethodNotSupported
  let startOffset ← startOffsetOf init limits
  checkLength init limits
  pure
    { control :=
        { version := 0
          senderDrive := init.control.senderDrive
          receiverDrive := init.control.receiverDrive && !init.control.senderDrive
          asynchronous := false }
      maxBlockSize := min init.maxBlockSize limits.maxBlockSize
      startOffset := startOffset
      length := lengthOf direction init limits }

/-- Parameters that a responder has settled on, or that an initiator has taken from the answer. -/
inductive Agreed (p : Parameters) : Prop
  | negotiated (direction : Direction) (init : Init) (limits : Limits)
      (h : negotiate direction init limits = .ok p)
  | sendAccepted (proposed : Init) (accept : SendAccept)
      (h : Parameters.fromSendAccept proposed accept = .ok p)
  | receiveAccepted (proposed : Init) (accept : ReceiveAccept)
      (h : Parameters.fromReceiveAccept proposed accept = .ok p)

/-! ## The two halves -/

/-- Source: Rust `u64::try_from(len).unwrap_or(u64::MAX)`. -/
def toU64 (len : ℕ) : UInt64 := UInt64.ofNat (min len (2 ^ 64 - 1))

/-- Source: Rust `u64::checked_add`. -/
def checkedAdd (a b : UInt64) : Option UInt64 :=
  if a.toNat + b.toNat < 2 ^ 64 then some (a + b) else none

/-- The counter behind the last one; the first is 0.
Source: `Sender::next_counter` and `Receiver::next_counter`, with `FIRST_COUNTER`. -/
def nextCounter : Option UInt32 → UInt32
  | some last => last + 1
  | none => 0

/-- A block is not too long, and empty only at the end.
Source: the check of `len` in `Sender::block` and `Receiver::on_block`. -/
def fitsBlock (p : Parameters) (len : ℕ) (eof : Bool) : Bool :=
  !(len > p.maxBlockSize.toNat || (len == 0 && !eof))

/-- The octets fit the agreed length, and at the end they are all of it.
Source: the check of `total` in `Sender::block` and `Receiver::on_block`. -/
def fitsLength (p : Parameters) (total : UInt64) (eof : Bool) : Bool :=
  match p.length with
  | some length => !(total > length || (eof && total != length))
  | none => true

/-- Source: `Sender`. -/
structure Sender where
  params : Parameters
  cursor : UInt64
  sent : UInt64
  counter : Option UInt32
  queried : Bool
  finished : Bool
  complete : Bool
  deriving DecidableEq

namespace Sender

/-- Source: `Sender::new`. -/
def new (params : Parameters) : Sender := ⟨params, params.startOffset, 0, none, false, false, false⟩

/-- Source: `Sender::may_send`. -/
def maySend (s : Sender) : Bool :=
  if s.finished || s.complete then false else s.params.control.senderDrive || s.queried

/-- Source: `Sender::room`. -/
def room (s : Sender) : ℕ :=
  match s.params.length with
  | some length => min (satSub length s.sent).toNat s.params.maxBlockSize.toNat
  | none => s.params.maxBlockSize.toNat

/-- Source: `Sender::on_query_with_skip`. -/
def onQueryWithSkip (s : Sender) (counter : UInt32) (bytesToSkip : UInt64) : Rejected (UInt64 × Sender) :=
  if s.finished || s.complete then .error .unexpectedMessage
  else if !s.params.control.receiverDrive then .error .unexpectedMessage
  else if s.queried then .error .unexpectedMessage
  else if counter ≠ nextCounter s.counter then .error .badBlockCounter
  else
    let cursor := satAdd s.cursor bytesToSkip
    .ok (cursor, { s with queried := true, cursor := cursor })

/-- Source: `Sender::block`. -/
def block (s : Sender) (len : ℕ) (eof : Bool) : Rejected (UInt32 × Sender) :=
  if !s.maySend then .error .unexpectedMessage
  else if !fitsBlock s.params len eof then .error .badMessageContents
  else
    match checkedAdd s.sent (toU64 len) with
    | none => .error .lengthTooLarge
    | some total =>
      if !fitsLength s.params total eof then .error .lengthMismatch
      else
        .ok (nextCounter s.counter,
          { s with
            counter := some (nextCounter s.counter)
            sent := total
            cursor := satAdd s.cursor (toU64 len)
            queried := false
            finished := eof })

/-- Source: `Sender::on_ack`. -/
def onAck (s : Sender) (counter : UInt32) (eof : Bool) : Rejected Sender :=
  match s.counter with
  | none => .error .unexpectedMessage
  | some last =>
    if s.complete then .error .unexpectedMessage
    else if eof ≠ s.finished then .error .unexpectedMessage
    else if counter ≠ last then .error .badBlockCounter
    else .ok { s with complete := eof }

end Sender

/-- Source: `Receiver`. -/
structure Receiver where
  params : Parameters
  received : UInt64
  counter : Option UInt32
  nextQuery : UInt32
  pending : Bool
  finished : Bool
  complete : Bool

namespace Receiver

/-- Source: `Receiver::new`. -/
def new (params : Parameters) : Receiver := ⟨params, 0, none, 0, false, false, false⟩

/-- Source: `Receiver::awaiting`. -/
def awaiting (r : Receiver) : Bool :=
  match r.counter with
  | some last => r.nextQuery != last + 1
  | none => r.nextQuery != 0

/-- Source: `Receiver::query`. -/
def query (r : Receiver) : Rejected (UInt32 × Receiver) :=
  if !r.params.control.receiverDrive || r.finished || r.complete then .error .unexpectedMessage
  else if r.awaiting then .error .unexpectedMessage
  else .ok (r.nextQuery, { r with pending := false, nextQuery := r.nextQuery + 1 })

/-- Source: `Receiver::on_block`. -/
def onBlock (r : Receiver) (counter : UInt32) (len : ℕ) (eof : Bool) : Rejected Receiver :=
  if r.finished || r.complete then .error .unexpectedMessage
  else if r.params.control.receiverDrive && !r.awaiting then .error .unexpectedMessage
  else if counter ≠ nextCounter r.counter then .error .badBlockCounter
  else if !fitsBlock r.params len eof then .error .badMessageContents
  else
    match checkedAdd r.received (toU64 len) with
    | none => .error .lengthTooLarge
    | some total =>
      if !fitsLength r.params total eof then .error .lengthMismatch
      else
        .ok
          { r with
            received := total
            counter := some counter
            pending := true
            finished := eof }

/-- The acknowledgement of the block just taken: whether it ends the session, and its counter.
Source: `Receiver::ack`. -/
def ack (r : Receiver) : Rejected ((Bool × UInt32) × Receiver) :=
  match r.counter, r.pending with
  | some counter, true =>
    .ok ((r.finished, counter), { r with pending := false, complete := r.finished })
  | _, _ => .error .unexpectedMessage

end Receiver

end MatterKit.Bdx
