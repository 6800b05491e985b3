import MatterKit.Msg.Header

/-!
# The Bluetooth Transport Protocol

`transport/btp.rs`: a session cuts a message into segments, numbers its packets modulo 256, and sends no
more of them unacknowledged than the other end has room for. An acknowledgement rides on the next
packet, or goes alone when its timer is due or when the session's own window is nearly full.

Packets come and go as octets; a session that fails is closed with the code of the failure.
-/

namespace MatterKit.Btp

open Lib Cursor

/-! ## Frames -/

/-- The control flags of a packet.
Source: `Flags`. -/
structure Flags where
  beginning : Bool
  continuing : Bool
  ending : Bool
  ack : Bool
  management : Bool
  handshake : Bool
  deriving DecidableEq

namespace Flags

/-- The octet of a set of flags.
Source: `Flags::bits`. -/
def bits (f : Flags) : UInt8 :=
  (if f.beginning then 0x01 else 0) ||| (if f.continuing then 0x02 else 0) |||
    (if f.ending then 0x04 else 0) ||| (if f.ack then 0x08 else 0) |||
    (if f.management then 0x20 else 0) ||| (if f.handshake then 0x40 else 0)

/-- The flags of an octet, its reserved bits ignored.
Source: `Flags::from_bits_truncate`. -/
def fromBitsTruncate (b : UInt8) : Flags where
  beginning := containsFlag b 0x01
  continuing := containsFlag b 0x02
  ending := containsFlag b 0x04
  ack := containsFlag b 0x08
  management := containsFlag b 0x20
  handshake := containsFlag b 0x40

lemma fromBitsTruncate_bits (f : Flags) : fromBitsTruncate f.bits = f := by
  obtain ⟨b, c, e, a, m, h⟩ := f
  cases b <;> cases c <;> cases e <;> cases a <;> cases m <;> cases h <;> decide

end Flags

/-- One data frame.
Source: `Frame`. -/
structure Frame where
  flags : Flags
  ack : Option UInt8
  sequence : UInt8
  messageLength : Option UInt16
  payload : List UInt8

namespace Frame

/-- Source: `Frame::decode`, the Ack Number. -/
def decodeAck (flags : Flags) (r : List UInt8) : Except ErrorCode (Option UInt8 × List UInt8) :=
  if flags.ack then do
    let (ack, r) ← readU8 .btpMalformed r
    pure (some ack, r)
  else pure (none, r)

/-- Source: `Frame::decode`, the Message Length. -/
def decodeLength (flags : Flags) (r : List UInt8) :
    Except ErrorCode (Option UInt16 × List UInt8) :=
  if flags.beginning then do
    let (length, r) ← readU16 .btpMalformed r
    pure (some length, r)
  else pure (none, r)

/-- Reads a data frame.
Source: `Frame::decode`. -/
def decode (buf : List UInt8) : Except ErrorCode Frame := do
  let (bits, r) ← readU8 .btpMalformed buf
  let flags := Flags.fromBitsTruncate bits
  ensure (flags.handshake = false ∧ flags.management = false) .btpMalformed
  let (ack, r) ← decodeAck flags r
  let (sequence, r) ← readU8 .btpMalformed r
  let (messageLength, r) ← decodeLength flags r
  pure ⟨flags, ack, sequence, messageLength, r⟩

/-- How many octets a header with these fields occupies.
Source: `Frame::header_len`. -/
def headerLen (ack beginning : Bool) : ℕ := 2 + (if ack then 1 else 0) + if beginning then 2 else 0

/-- The Ack Number field, when there is one. -/
def ackField (f : Frame) : List UInt8 := (f.ack.map leU8).getD []

/-- The Message Length field, when there is one. -/
def lengthField (f : Frame) : List UInt8 := (f.messageLength.map leU16).getD []

/-- The fields of the header in the order they are written. -/
def fields (f : Frame) : List (List UInt8) :=
  [leU8 f.flags.bits, f.ackField, leU8 f.sequence, f.lengthField]

/-- The octets of a frame. -/
def octets (f : Frame) : List UInt8 := f.fields.flatten ++ f.payload

/-- The flags say what the frame has: an acknowledgement, a message length, and nothing of a
handshake. -/
structure WellFormed (f : Frame) : Prop where
  ack : f.flags.ack = f.ack.isSome
  beginning : f.flags.beginning = f.messageLength.isSome
  management : f.flags.management = false
  handshake : f.flags.handshake = false

/-- A frame that says what it has is read back. -/
lemma decode_octets {f : Frame} (h : f.WellFormed) : decode f.octets = .ok f := by
  obtain ⟨flags, ack, sequence, messageLength, payload⟩ := f
  obtain ⟨hack, hbeginning, hmanagement, hhandshake⟩ := h
  dsimp only at hack hbeginning hmanagement hhandshake
  have hdecodeAck : ∀ r, decodeAck flags ((ack.map leU8).getD [] ++ r) = .ok (ack, r) := by
    intro r
    rw [decodeAck, hack]
    cases ack <;> simp
  have hdecodeLength : ∀ r, decodeLength flags ((messageLength.map leU16).getD [] ++ r) =
      .ok (messageLength, r) := by
    intro r
    rw [decodeLength, hbeginning]
    cases messageLength <;> simp
  simp [decode, octets, fields, ackField, lengthField, Flags.fromBitsTruncate_bits, hmanagement,
    hhandshake, hdecodeAck, hdecodeLength]

/-- The header of a frame is as long as its flags say. -/
lemma length_fields {f : Frame} (h : f.WellFormed) :
    f.fields.flatten.length = headerLen f.ack.isSome f.flags.beginning := by
  rw [h.beginning]
  simp only [fields, ackField, lengthField, headerLen]
  cases f.ack <;> cases f.messageLength <;> simp

end Frame

/-! ## The handshake's two numbers -/

/-- Source: `VERSION`. -/
def version : UInt8 := 4

/-- Source: `MIN_ATT_MTU`. -/
def minAttMtu : UInt16 := 23

/-- Source: `GATT_HEADER`. -/
def gattHeader : UInt16 := 3

/-- Source: `MAX_SEGMENT`. -/
def maxSegment : UInt16 := 244

/-- Source: `HandshakeRequest`. -/
structure HandshakeRequest where
  versions : Vector UInt8 8
  attMtu : UInt16
  window : UInt8

/-- Source: `HandshakeRequest::best_version`. -/
def HandshakeRequest.bestVersion (r : HandshakeRequest) : Option UInt8 :=
  r.versions.toList.find? fun v => decide (v ≠ 0) && decide (v ≤ version)

/-- Source: `HandshakeResponse`. -/
structure HandshakeResponse where
  version : UInt8
  attMtu : UInt16
  window : UInt8
  deriving DecidableEq

/-- What a session needs from a handshake.
Source: `SessionParams`. -/
structure SessionParams where
  segmentSize : ℕ
  window : UInt8

/-- Source: `HandshakeResponse::segment_size`. -/
def HandshakeResponse.segmentSize (r : HandshakeResponse) : ℕ :=
  let mtu := if r.attMtu < minAttMtu then minAttMtu else r.attMtu
  let usable := mtu - gattHeader
  (if maxSegment < usable then maxSegment else usable).toNat

/-- Source: `HandshakeResponse::params`. -/
def HandshakeResponse.params (r : HandshakeResponse) : SessionParams := ⟨r.segmentSize, r.window⟩

/-- What a server answers a handshake request with.
Source: `negotiate`. -/
def negotiate (request : HandshakeRequest) (ownAttMtu : UInt16) (ownWindow : UInt8) :
    Except ErrorCode HandshakeResponse :=
  match request.bestVersion with
  | none => .error .unsupportedVersion
  | some version => do
    let requested := if request.attMtu = 0 then ownAttMtu else min request.attMtu ownAttMtu
    let window := min request.window ownWindow
    ensure (window ≠ 0) .btpMalformed
    pure ⟨version, max requested minAttMtu, window⟩

/-! ## Sessions -/

/-- Source: `ACK_TIMEOUT`. -/
def ackTimeout : Duration := .fromSecs 15

/-- Source: `SEND_ACK_TIMEOUT`. -/
def sendAckTimeout : Duration := .fromSecs 5

/-- Source: `Role`. -/
inductive Role
  | client
  | server
  deriving DecidableEq

/-- Source: `Received`. -/
inductive Received
  | message
  | part
  | ack
  deriving DecidableEq

/-- One session, for messages of at most `N` octets. The buffers are the octets in use: `rx` what has been
reassembled, `tx` the message being sent.
Source: `Session`. -/
structure Session (N : ℕ) where
  role : Role
  segmentSize : ℕ
  maxWindow : UInt8
  txSequence : UInt8
  txAcked : UInt8
  rxSequence : UInt8
  rxAcked : UInt8
  pendingAck : Option UInt8
  sendAckAt : Option Instant
  ackDeadline : Option Instant
  lastData : Instant
  closed : Option ErrorCode
  rx : List UInt8
  rxExpected : Option UInt16
  tx : List UInt8
  txSent : ℕ
  txActive : Bool

namespace Session

variable {N : ℕ}

/-- A session over a completed handshake. The response to it was the server's packet zero.
Source: `Session::new`. -/
def new (role : Role) (params : SessionParams) (now : Instant) : Session N where
  role := role
  segmentSize := params.segmentSize
  maxWindow := params.window
  txSequence := match role with
    | .client => 0
    | .server => 1
  txAcked := 255
  rxSequence := match role with
    | .client => 0
    | .server => 255
  rxAcked := 255
  pendingAck := match role with
    | .client => some 0
    | .server => none
  sendAckAt := match role with
    | .client => some (now.saturatingAdd sendAckTimeout)
    | .server => none
  ackDeadline := match role with
    | .client => none
    | .server => some (now.saturatingAdd ackTimeout)
  lastData := now
  closed := none
  rx := []
  rxExpected := none
  tx := []
  txSent := 0
  txActive := false

variable (s : Session N)

/-- Source: `Session::in_flight`. -/
def inFlight : UInt8 := s.txSequence - s.txAcked - 1

/-- Source: `Session::remote_window`. -/
def remoteWindow : ℕ := s.maxWindow.toNat - s.inFlight.toNat

/-- Source: `Session::own_window_free`. -/
def ownWindowFree : ℕ := s.maxWindow.toNat - (s.rxSequence - s.rxAcked).toNat

/-- Queues a message.
Source: `Session::send`. -/
def send (sdu : List UInt8) : Except ErrorCode Unit × Session N :=
  match s.closed with
  | some code => (.error code, s)
  | none =>
    if s.txActive then (.error .busy, s)
    else if sdu = [] then (.error .invalidArgument, s)
    else if N < sdu.length then (.error .bufferTooSmall, s)
    else (.ok (), { s with tx := sdu, txSent := 0, txActive := true })

/-- Whether a packet may go out.
Source: `Session::can_send`. -/
def canSend : Bool :=
  if s.remoteWindow = 0 then false
  else if s.remoteWindow = 1 then s.pendingAck.isSome
  else true

/-- The frame of the next packet, its payload aside.
Source: `Session::write_header`, `flags` and the fields. -/
def header (beginning ending : Bool) (payloadLen : ℕ) : Frame where
  flags :=
    { beginning := beginning
      continuing := !beginning && decide (0 < payloadLen)
      ending := ending
      ack := s.pendingAck.isSome
      management := false
      handshake := false }
  ack := s.pendingAck
  sequence := s.txSequence
  messageLength := if beginning then some (UInt16.ofNat s.tx.length) else none
  payload := []

/-- The session once a packet has gone out: its number is taken, and with it the acknowledgement.
Source: `Session::write_header`, after the fields. -/
def sentPacket (now : Instant) : Session N :=
  { s with
    txSequence := s.txSequence + 1
    rxAcked := s.pendingAck.getD s.rxAcked
    pendingAck := none
    sendAckAt := if s.pendingAck.isSome then none else s.sendAckAt
    ackDeadline := s.ackDeadline.or (some (now.saturatingAdd ackTimeout)) }

/-- Writes one packet's header into a buffer of so many octets.
Source: `Session::write_header`. -/
def writeHeader (now : Instant) (beginning ending : Bool) (payloadLen outLen : ℕ) :
    Except ErrorCode (List UInt8) × Session N :=
  if beginning = true ∧ 65535 < s.tx.length then (.error .bufferTooSmall, s)
  else
    match putAll outLen [] (s.header beginning ending payloadLen).fields with
    | .error e => (.error e, s)
    | .ok octets => (.ok octets, s.sentPacket now)

/-- Whether a pending acknowledgement is to go out now.
Source: `Session::poll_send_inner`, `ack_due`. -/
def ackDue (now : Instant) : Bool :=
  decide (s.ownWindowFree ≤ 2) || s.sendAckAt.any fun deadline => decide (deadline ≤ now)

/-- The session once a segment has gone out.
Source: `Session::poll_send_inner`, after the segment is copied. -/
def sentSegment (sentTo : ℕ) (ending : Bool) (now : Instant) : Session N :=
  if ending then { s with tx := [], txSent := 0, txActive := false, lastData := now }
  else { s with txSent := sentTo, lastData := now }

/-- The octets that go into the next segment.
Source: `Session::poll_send_inner`, `room`. -/
def room : ℕ := s.segmentSize - Frame.headerLen s.pendingAck.isSome (decide (s.txSent = 0))

/-- Source: `Session::poll_send_inner`. -/
def pollSendInner (now : Instant) (outLen : ℕ) :
    Except ErrorCode (Option (List UInt8)) × Session N :=
  if s.canSend = false then (.ok none, s)
  else if s.txActive = false then
    if s.pendingAck.isSome && s.ackDue now then
      match s.writeHeader now false false 0 outLen with
      | (.error e, s) => (.error e, s)
      | (.ok octets, s) => (.ok (some octets), s)
    else (.ok none, s)
  else if s.room = 0 then (.error .bufferTooSmall, s)
  else
    let remaining := s.tx.length - s.txSent
    let take := min remaining s.room
    let ending := decide (take = remaining)
    match s.writeHeader now (decide (s.txSent = 0)) ending take outLen with
    | (.error e, s) => (.error e, s)
    | (.ok octets, s) =>
      if outLen < octets.length + take ∨ N < s.txSent + take then
        (.error .bufferTooSmall, s)
      else (.ok (some (octets ++ (s.tx.drop s.txSent).take take)),
        s.sentSegment (s.txSent + take) ending now)

/-- Latches a failure.
Source: `Session::fail`. -/
def fail {α : Type} : Except ErrorCode α × Session N → Except ErrorCode α × Session N
  | (.error e, s) => (.error e, { s with closed := some e })
  | (.ok a, s) => (.ok a, s)

/-- Writes the next packet into a buffer of so many octets, if there is one to write.
Source: `Session::poll_send`. -/
def pollSend (now : Instant) (outLen : ℕ) : Except ErrorCode (Option (List UInt8)) × Session N :=
  match s.closed with
  | some code => (.error code, s)
  | none => fail (s.pollSendInner now outLen)

/-- The session once it has taken note of a packet.
Source: `Session::receive_inner`, `pending_ack` and `send_ack_at`. -/
def noted (sequence : UInt8) (now : Instant) : Session N :=
  { s with
    rxSequence := sequence
    pendingAck := some sequence
    sendAckAt := s.sendAckAt.or (some (now.saturatingAdd sendAckTimeout)) }

/-- Takes an acknowledgement.
Source: `Session::receive_inner`, `if let Some(acked)`. -/
def takeAck (ack : Option UInt8) (now : Instant) : Except ErrorCode Unit × Session N :=
  match ack with
  | none => (.ok (), s)
  | some acked =>
    let outstanding := s.inFlight
    let newly := acked - s.txAcked
    if newly = 0 ∨ outstanding < newly then (.error .btpSequence, s)
    else (.ok (),
      { s with
        txAcked := acked
        ackDeadline := if newly = outstanding then none
          else some (now.saturatingAdd ackTimeout) })

/-- Begins a message, or refuses a segment of none.
Source: `Session::receive_inner`, the `BEGINNING` branch. -/
def beginMessage (frame : Frame) : Except ErrorCode Unit × Session N :=
  if frame.flags.beginning then
    if s.rxExpected.isSome then (.error .btpMalformed, s)
    else
      match frame.messageLength with
      | none => (.error .btpMalformed, s)
      | some length =>
        if N < length.toNat then (.error .bufferTooSmall, s)
        else (.ok (), { s with rxExpected := some length, rx := [] })
  else if s.rxExpected = none then (.error .btpMalformed, s)
  else (.ok (), s)

/-- Appends a segment, and checks the length of a message that is whole.
Source: `Session::receive_inner`, from `end` on. -/
def appendSegment (frame : Frame) : Except ErrorCode Received × Session N :=
  if N < s.rx.length + frame.payload.length then (.error .bufferTooSmall, s)
  else
    let s := { s with rx := s.rx ++ frame.payload }
    if frame.flags.ending = false then (.ok .part, s)
    else
      match s.rxExpected with
      | none => (.error .btpMalformed, s)
      | some expected =>
        let s := { s with rxExpected := none }
        if expected.toNat ≠ s.rx.length then (.error .btpMalformed, s) else (.ok .message, s)

/-- Takes the segment of a frame that carries one.
Source: `Session::receive_inner`, after `last_data`. -/
def takeSegment (frame : Frame) : Except ErrorCode Received × Session N :=
  match s.beginMessage frame with
  | (.error e, s) => (.error e, s)
  | (.ok (), s) => s.appendSegment frame

/-- Source: `Session::receive_inner`. -/
def receiveInner (bytes : List UInt8) (now : Instant) : Except ErrorCode Received × Session N :=
  match Frame.decode bytes with
  | .error e => (.error e, s)
  | .ok frame =>
    if frame.sequence ≠ s.rxSequence + 1 then (.error .btpSequence, s)
    else if s.maxWindow < frame.sequence - s.rxAcked then
      (.error .btpSequence, { s with rxSequence := frame.sequence })
    else
      match (s.noted frame.sequence now).takeAck frame.ack now with
      | (.error e, s) => (.error e, s)
      | (.ok (), s) =>
        if frame.payload = [] ∧ frame.flags.beginning = false then (.ok .ack, s)
        else ({ s with lastData := now } : Session N).takeSegment frame

/-- Takes one arriving packet.
Source: `Session::receive`. -/
def receive (bytes : List UInt8) (now : Instant) : Except ErrorCode Received × Session N :=
  match s.closed with
  | some code => (.error code, s)
  | none => fail (s.receiveInner bytes now)

/-- The reassembled message.
Source: `Session::message`. -/
def message : List UInt8 := s.rx

/-- Source: `Session::take_message`. -/
def takeMessage : Session N := { s with rx := [], rxExpected := none }

end Session

end MatterKit.Btp
