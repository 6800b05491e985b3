import MatterKit.Transport.Btp
import MatterKit.Lib.Segments

/-!
# What one call of a session does

A session that is open and has room for at least one octet in a segment is `Sound`. Such a session
writes a packet exactly when it is `ready`, and `Sent` says what goes out and what is left of it
(`pollSend_of_ready`, `pollSend_of_not_ready`). It takes a packet that has the next number, is within
its window, acknowledges something outstanding and carries what can be put together, and `Got` says what
comes of that (`receive_of_fits`).
-/

namespace MatterKit.Btp

open Lib Cursor

variable {N : ℕ}

/-- The segment of a message that a frame carries, if it carries one. -/
def Frame.segment (f : Frame) : Option (Segment UInt8) :=
  if f.payload = [] ∧ f.flags.beginning = false then none
  else some ⟨f.messageLength.map UInt16.toNat, f.payload, f.flags.ending⟩

namespace Session

/-- How far a session has come with the message it sends. -/
def progress (s : Session N) : Segment.Progress UInt8 :=
  if s.txActive then some (s.tx, s.txSent) else none

/-- What a session has put together of the message it receives. -/
def assembly (s : Session N) : Segment.Partial UInt8 := s.rxExpected.map fun e => (e.toNat, s.rx)

/-- A session in working order. -/
structure Sound (s : Session N) : Prop where
  opened : s.closed = none
  segmentSize : 6 ≤ s.segmentSize
  timer : s.sendAckAt.isSome = s.pendingAck.isSome
  fits : s.txActive = true → s.tx.length ≤ N ∧ s.tx.length ≤ 65535 ∧ s.txSent < s.tx.length

/-- A new session is in working order. -/
lemma sound_new (role : Role) {params : SessionParams} (hsize : 6 ≤ params.segmentSize)
    (now : Instant) : (new role params now : Session N).Sound := by
  refine ⟨rfl, hsize, ?_, fun h => absurd h (by simp [new])⟩
  cases role <;> rfl

/-! ## Sending -/

/-- Whether a session has a packet to write. -/
def ready (s : Session N) (now : Instant) : Bool :=
  s.canSend && (s.txActive || (s.pendingAck.isSome && s.ackDue now))

/-- A session sends a frame and becomes another. -/
structure Sent (s s' : Session N) (f : Frame) : Prop where
  wellFormed : f.WellFormed
  sequence : f.sequence = s.txSequence
  ack : f.ack = s.pendingAck
  sound : s'.Sound
  maxWindow : s'.maxWindow = s.maxWindow
  segmentSize : s'.segmentSize = s.segmentSize
  txSequence : s'.txSequence = s.txSequence + 1
  txAcked : s'.txAcked = s.txAcked
  rxSequence : s'.rxSequence = s.rxSequence
  rxAcked : s'.rxAcked = s.pendingAck.getD s.rxAcked
  pendingAck : s'.pendingAck = none
  rx : s'.rx = s.rx
  rxExpected : s'.rxExpected = s.rxExpected
  progress : f.segment = none ∧ s'.progress = s.progress ∧ s.txActive = false ∨
    ∃ message sent count, s.progress = some (message, sent) ∧ message.length ≤ N ∧ 0 < count ∧
      sent + count ≤ message.length ∧ f.segment = some (Segment.next message sent count) ∧
      s'.progress = Segment.advance message sent count

variable {s : Session N}

variable {s' : Session N} {f : Frame} {now : Instant} {seg : Segment UInt8}
  {p : Segment.Partial UInt8} {done : Option (List UInt8)} {r : Received}

/-- A session without a message to send has none after it. -/
lemma Sent.idle (h : s.Sent s' f) (hidle : s.txActive = false) : s'.txActive = false := by
  have hprogress : s.progress = none := by simp [Session.progress, hidle]
  rcases h.progress with ⟨-, hsame, -⟩ | ⟨message, sent, count, hat, -⟩
  · rw [hprogress, Session.progress] at hsame
    split at hsame
    case isTrue => cases hsame
    case isFalse hnot => exact Bool.eq_false_of_not_eq_true hnot
  · rw [hprogress] at hat
    cases hat

/-- A session that is not ready writes nothing and stays as it is. -/
lemma pollSend_of_not_ready (h : s.closed = none) (hready : s.ready now = false) (outLen : ℕ) :
    s.pollSend now outLen = (.ok none, s) := by
  have hinner : s.pollSendInner now outLen = (.ok none, s) := by
    rw [ready, Bool.and_eq_false_iff] at hready
    rw [pollSendInner]
    rcases hready with hcan | hidle
    · rw [if_pos hcan]
    · obtain ⟨hactive, hdue⟩ := Bool.or_eq_false_iff.mp hidle
      rw [if_pos hactive, hdue]
      simp
  simp only [pollSend, h, hinner, fail]

/-- The header of the next packet fits into a segment. -/
lemma headerLen_lt (hsize : 6 ≤ s.segmentSize) (ack beginning : Bool) :
    Frame.headerLen ack beginning < s.segmentSize := by
  rw [Frame.headerLen]
  cases ack <;> cases beginning <;> simp <;> omega

lemma header_wellFormed (beginning ending : Bool) (payloadLen : ℕ) :
    (s.header beginning ending payloadLen).WellFormed := by
  refine ⟨rfl, ?_, rfl, rfl⟩
  cases beginning <;> rfl

/-- A header is written into a buffer that it fits into. -/
lemma writeHeader_of_fits (now : Instant) {beginning : Bool} (ending : Bool) (payloadLen : ℕ)
    {outLen : ℕ} (hlong : beginning = true → s.tx.length ≤ 65535)
    (hfits : Frame.headerLen s.pendingAck.isSome beginning ≤ outLen) :
    s.writeHeader now beginning ending payloadLen outLen =
        (.ok (s.header beginning ending payloadLen).fields.flatten, s.sentPacket now) ∧
      (s.header beginning ending payloadLen).fields.flatten.length =
        Frame.headerLen s.pendingAck.isSome beginning := by
  have hlength : (s.header beginning ending payloadLen).fields.flatten.length =
      Frame.headerLen s.pendingAck.isSome beginning :=
    Frame.length_fields (header_wellFormed (s := s) beginning ending payloadLen)
  have hshort : ¬(beginning = true ∧ 65535 < s.tx.length) := by
    rintro ⟨hbeginning, hlt⟩
    exact absurd (hlong hbeginning) (by omega)
  refine ⟨?_, hlength⟩
  rw [writeHeader, if_neg hshort, putAll_eq _ _ _ (Nat.zero_le _), List.length_nil, hlength,
    Nat.zero_add, if_pos hfits, List.nil_append]

/-- A stand-alone acknowledgement. -/
lemma pollSend_ack (hs : s.Sound) (hcan : s.canSend = true) (hactive : s.txActive = false)
    (hdue : (s.pendingAck.isSome && s.ackDue now) = true) :
    ∃ f, s.pollSend now s.segmentSize = (.ok (some f.octets), s.sentPacket now) ∧
      s.Sent (s.sentPacket now) f := by
  have hlong : false = true → s.tx.length ≤ 65535 := nofun
  obtain ⟨hwrite, -⟩ := writeHeader_of_fits now false 0 hlong (headerLen_lt hs.segmentSize _ _).le
  have hinner : s.pollSendInner now s.segmentSize =
      (.ok (some (s.header false false 0).octets), s.sentPacket now) := by
    rw [pollSendInner, if_neg (by simp [hcan]), if_pos hactive, if_pos hdue, hwrite, Frame.octets]
    simp [header]
  have hpending : s.pendingAck.isSome = true := (Bool.and_eq_true_iff.mp hdue).1
  refine ⟨s.header false false 0, ?_, ?_⟩
  · simp only [pollSend, hs.opened, hinner, fail]
  · exact
      { wellFormed := header_wellFormed false false 0
        sequence := rfl
        ack := rfl
        sound := ⟨hs.opened, hs.segmentSize, by simp [sentPacket, hpending], hs.fits⟩
        maxWindow := rfl
        segmentSize := rfl
        txSequence := rfl
        txAcked := rfl
        rxSequence := rfl
        rxAcked := rfl
        pendingAck := rfl
        rx := rfl
        rxExpected := rfl
        progress := .inl ⟨rfl, rfl, hactive⟩ }

/-- How many octets go into the next segment. -/
def count (s : Session N) : ℕ := min (s.tx.length - s.txSent) s.room

/-- The frame of the next segment. -/
def segmentFrame (s : Session N) : Frame :=
  { s.header (decide (s.txSent = 0)) (decide (s.count = s.tx.length - s.txSent)) s.count with
    payload := (s.tx.drop s.txSent).take s.count }

/-- The session once the next segment has gone out. -/
def afterSegment (s : Session N) (now : Instant) : Session N :=
  (s.sentPacket now).sentSegment (s.txSent + s.count) (decide (s.count = s.tx.length - s.txSent)) now

/-- There is something in the next segment, and it fits in. -/
lemma count_bounds (hs : s.Sound) (hactive : s.txActive = true) :
    0 < s.count ∧ s.txSent + s.count ≤ s.tx.length ∧
      Frame.headerLen s.pendingAck.isSome (decide (s.txSent = 0)) + s.count ≤ s.segmentSize := by
  obtain ⟨-, -, hsent⟩ := hs.fits hactive
  have hheader := headerLen_lt hs.segmentSize s.pendingAck.isSome (decide (s.txSent = 0))
  have hroom : s.room = s.segmentSize -
    Frame.headerLen s.pendingAck.isSome (decide (s.txSent = 0)) := rfl
  rw [count]
  omega

/-- The next frame carries the next segment. -/
lemma segment_segmentFrame (hs : s.Sound) (hactive : s.txActive = true) :
    s.segmentFrame.segment = some (Segment.next s.tx s.txSent s.count) := by
  obtain ⟨-, hshort, hsent⟩ := hs.fits hactive
  obtain ⟨hcount, hle, -⟩ := count_bounds hs hactive
  have hpayload : s.segmentFrame.payload ≠ [] := by
    intro hnil
    have hlength : s.segmentFrame.payload.length = s.count := by
      rw [segmentFrame, List.length_take, List.length_drop]
      omega
    rw [hnil, List.length_nil] at hlength
    omega
  have hending : decide (s.count = s.tx.length - s.txSent) =
      decide (s.txSent + s.count = s.tx.length) := by
    congr 1
    rw [eq_iff_iff]
    omega
  have htotal : (UInt16.ofNat s.tx.length).toNat = s.tx.length :=
    UInt16.toNat_ofNat_of_lt' (by rw [UInt16.size]; omega)
  rw [Frame.segment, if_neg (fun h => hpayload h.1), segmentFrame, header, hending, Segment.next]
  dsimp only
  by_cases hzero : s.txSent = 0
  · simp [hzero, htotal]
  · simp [hzero]

/-- How far the session has come after it. -/
lemma progress_afterSegment (hs : s.Sound) (hactive : s.txActive = true) (now : Instant) :
    (s.afterSegment now).progress = Segment.advance s.tx s.txSent s.count := by
  obtain ⟨-, -, hsent⟩ := hs.fits hactive
  obtain ⟨-, hle, -⟩ := count_bounds hs hactive
  by_cases hlast : s.txSent + s.count = s.tx.length
  · have hending : s.count = s.tx.length - s.txSent := by omega
    simp [afterSegment, sentSegment, progress, Segment.advance, hending, hsent.le]
  · have hending : s.count ≠ s.tx.length - s.txSent := by omega
    simp [afterSegment, sentSegment, progress, Segment.advance, hlast, hending, sentPacket, hactive]

lemma sound_afterSegment (hs : s.Sound) (hactive : s.txActive = true) (now : Instant) :
    (s.afterSegment now).Sound := by
  obtain ⟨hN, hshort, hsent⟩ := hs.fits hactive
  obtain ⟨-, hle, -⟩ := count_bounds hs hactive
  have htimer : (s.sentPacket now).sendAckAt.isSome = (s.sentPacket now).pendingAck.isSome := by
    have hboth := hs.timer
    rw [sentPacket]
    cases hpending : s.pendingAck <;> simp_all
  by_cases hending : s.count = s.tx.length - s.txSent
  · have hafter : s.afterSegment now =
        { s.sentPacket now with tx := [], txSent := 0, txActive := false, lastData := now } := by
      rw [afterSegment, sentSegment, if_pos (decide_eq_true hending)]
    rw [hafter]
    exact ⟨hs.opened, hs.segmentSize, htimer, fun h => absurd h Bool.false_ne_true⟩
  · have hafter : s.afterSegment now =
        { s.sentPacket now with txSent := s.txSent + s.count, lastData := now } := by
      rw [afterSegment, sentSegment, if_neg (by simpa using hending)]
    rw [hafter]
    exact ⟨hs.opened, hs.segmentSize, htimer, fun _ => ⟨hN, hshort, by dsimp [sentPacket]; omega⟩⟩

/-- Sending a segment changes nothing but the message that is being sent. -/
lemma afterSegment_eq (s : Session N) (now : Instant) : ∃ tx txSent txActive, s.afterSegment now =
      { s.sentPacket now with
        tx := tx, txSent := txSent, txActive := txActive, lastData := now } := by
  rw [afterSegment, sentSegment]
  split
  · exact ⟨[], 0, false, rfl⟩
  · exact ⟨s.tx, s.txSent + s.count, s.txActive, rfl⟩

/-- A segment of the message that is being sent. -/
lemma pollSend_segment (hs : s.Sound) (now : Instant) (hcan : s.canSend = true)
    (hactive : s.txActive = true) :
    s.pollSend now s.segmentSize = (.ok (some s.segmentFrame.octets), s.afterSegment now) ∧
      s.Sent (s.afterSegment now) s.segmentFrame := by
  obtain ⟨hN, hshort, hsent⟩ := hs.fits hactive
  obtain ⟨hcount, hle, hfits⟩ := count_bounds hs hactive
  have hlong : decide (s.txSent = 0) = true → s.tx.length ≤ 65535 := fun _ => hshort
  have hheader : Frame.headerLen s.pendingAck.isSome (decide (s.txSent = 0)) ≤ s.segmentSize := by
    omega
  obtain ⟨hwrite, hlength⟩ := writeHeader_of_fits now
    (decide (s.count = s.tx.length - s.txSent)) s.count hlong hheader
  have hroom : s.room ≠ 0 := by
    have hmin : s.count ≤ s.room := Nat.min_le_right _ _
    omega
  have hinner : s.pollSendInner now s.segmentSize =
      (.ok (some s.segmentFrame.octets), s.afterSegment now) := by
    rw [pollSendInner, if_neg (by simp [hcan]), if_neg (by simp [hactive]), if_neg hroom]
    dsimp only
    rw [← count, hwrite]
    dsimp only
    rw [hlength, if_neg]
    · rfl
    · change ¬(s.segmentSize < _ + s.count ∨ N < s.txSent + s.count)
      omega
  refine ⟨by simp only [pollSend, hs.opened, hinner, fail], ?_⟩
  obtain ⟨tx, txSent, txActive, hafter⟩ := afterSegment_eq s now
  have hheader := header_wellFormed (s := s) (decide (s.txSent = 0))
    (decide (s.count = s.tx.length - s.txSent)) s.count
  exact
    { wellFormed := ⟨hheader.ack, hheader.beginning, rfl, rfl⟩
      sequence := rfl
      ack := rfl
      sound := sound_afterSegment hs hactive now
      maxWindow := by rw [hafter]; rfl
      segmentSize := by rw [hafter]; rfl
      txSequence := by rw [hafter]; rfl
      txAcked := by rw [hafter]; rfl
      rxSequence := by rw [hafter]; rfl
      rxAcked := by rw [hafter]; rfl
      pendingAck := by rw [hafter]; rfl
      rx := by rw [hafter]; rfl
      rxExpected := by rw [hafter]; rfl
      progress := .inr ⟨s.tx, s.txSent, s.count, if_pos hactive, hN, hcount, hle,
        segment_segmentFrame hs hactive, progress_afterSegment hs hactive now⟩ }

/-- A session that is ready writes a packet. -/
lemma pollSend_of_ready (hs : s.Sound) (hready : s.ready now = true) :
    ∃ f s', s.pollSend now s.segmentSize = (.ok (some f.octets), s') ∧ s.Sent s' f := by
  obtain ⟨hcan, hwork⟩ := Bool.and_eq_true_iff.mp hready
  cases hactive : s.txActive with
  | true =>
    obtain ⟨hpoll, hsent⟩ := pollSend_segment hs now hcan hactive
    exact ⟨_, _, hpoll, hsent⟩
  | false =>
    rw [hactive, Bool.false_or] at hwork
    obtain ⟨f, hpoll, hsent⟩ := pollSend_ack hs hcan hactive hwork
    exact ⟨f, _, hpoll, hsent⟩

/-! ## Receiving -/

/-- A session receives a frame and becomes another. -/
structure Got (s s' : Session N) (f : Frame) (now : Instant) (r : Received) : Prop where
  sound : s'.Sound
  maxWindow : s'.maxWindow = s.maxWindow
  segmentSize : s'.segmentSize = s.segmentSize
  txSequence : s'.txSequence = s.txSequence
  txAcked : s'.txAcked = f.ack.getD s.txAcked
  rxSequence : s'.rxSequence = f.sequence
  rxAcked : s'.rxAcked = s.rxAcked
  pendingAck : s'.pendingAck = some f.sequence
  sendAckAt : s'.sendAckAt = s.sendAckAt.or (some (now.saturatingAdd sendAckTimeout))
  txActive : s'.txActive = s.txActive
  progress : s'.progress = s.progress
  body : ∃ done, Segment.acceptBody N s.assembly f.segment = some (s'.assembly, done) ∧
    (done = none ∧ r ≠ .message ∨ done = some s'.rx ∧ r = .message ∧ s'.rxExpected = none)

/-- What a session needs of a frame to take it: the next number, a place in its window, and an
acknowledgement of something outstanding, if of anything. -/
structure Fits (s : Session N) (f : Frame) : Prop where
  wellFormed : f.WellFormed
  sequence : f.sequence = s.rxSequence + 1
  window : f.sequence - s.rxAcked ≤ s.maxWindow
  ack : ∀ a ∈ f.ack, a - s.txAcked ≠ 0 ∧ a - s.txAcked ≤ s.inFlight

/-- An acknowledgement of something outstanding is taken. -/
lemma takeAck_of_outstanding {ack : Option UInt8} (now : Instant)
    (h : ∀ a ∈ ack, a - s.txAcked ≠ 0 ∧ a - s.txAcked ≤ s.inFlight) : ∃ deadline, s.takeAck ack now =
      (.ok (), { s with txAcked := ack.getD s.txAcked, ackDeadline := deadline }) := by
  cases ack with
  | none => exact ⟨s.ackDeadline, rfl⟩
  | some a =>
    obtain ⟨hnew, hle⟩ := h a rfl
    have hvalid : ¬(a - s.txAcked = 0 ∨ s.inFlight < a - s.txAcked) := by
      rintro (hzero | hlt)
      · exact hnew hzero
      · exact UInt8.not_lt.mpr hle hlt
    exact ⟨_, by rw [takeAck]; exact if_neg hvalid⟩

/-- A frame whose segment goes on with the message begun, or begins one, is prepared for. -/
lemma beginMessage_of_extend {total : ℕ} {items : List UInt8} (hf : f.WellFormed)
    (hseg : f.segment = some seg) (h : seg.extend N s.assembly = some (total, items)) :
    ∃ expected start, s.beginMessage f =
        (.ok (), { s with rxExpected := some expected, rx := start }) ∧
      expected.toNat = total ∧ start ++ f.payload = items := by
  rw [Frame.segment] at hseg
  split at hseg
  case isTrue => cases hseg
  case isFalse =>
    cases hseg
    rw [beginMessage, hf.beginning]
    cases hlength : f.messageLength with
    | none =>
      cases hexpected : s.rxExpected with
      | none => simp [Segment.extend, assembly, hexpected, hlength] at h
      | some expected =>
        simp only [Segment.extend, assembly, hexpected, hlength, Option.map_some, Option.map_none,
          Option.some.injEq, Prod.mk.injEq] at h
        have hself : ({ s with rxExpected := some expected, rx := s.rx } : Session N) = s := by
          rw [← hexpected]
        refine ⟨expected, s.rx, ?_, h.1, h.2⟩
        rw [hself]
        rfl
    | some length =>
      cases hexpected : s.rxExpected with
      | some expected => simp [Segment.extend, assembly, hexpected, hlength] at h
      | none =>
        simp only [Segment.extend, assembly, hexpected, hlength, Option.map_some, Option.map_none]
          at h
        split at h
        case isFalse => cases h
        case isTrue hfits =>
          obtain ⟨rfl, rfl⟩ := Prod.mk.inj (Option.some.inj h)
          exact ⟨length, [], by simp [Nat.not_lt.mpr hfits], rfl, rfl⟩

/-- A segment that can be appended to what there is. -/
lemma appendSegment_of_accept {expected : UInt16} (hbegun : s.rxExpected = some expected)
    (h : (if N < (s.rx ++ f.payload).length then none
      else if f.flags.ending = false then some (some (expected.toNat, s.rx ++ f.payload), none)
      else if expected.toNat = (s.rx ++ f.payload).length then some (none, some (s.rx ++ f.payload))
      else none) = some (p, done)) :
    ∃ r rx rxExpected, s.appendSegment f =
        (.ok r, { s with rx := rx, rxExpected := rxExpected }) ∧
      rxExpected.map (fun e => (e.toNat, rx)) = p ∧
      (done = none ∧ r ≠ .message ∨ done = some rx ∧ r = .message ∧ rxExpected = none) := by
  rw [List.length_append] at h
  split at h
  case isTrue => cases h
  case isFalse hfits =>
    rw [appendSegment, if_neg hfits]
    dsimp only
    split at h
    case isTrue hmore =>
      obtain ⟨rfl, rfl⟩ := Prod.mk.inj (Option.some.inj h)
      rw [if_pos hmore]
      exact ⟨.part, s.rx ++ f.payload, some expected, by rw [← hbegun], rfl,
        .inl ⟨rfl, by decide⟩⟩
    case isFalse hlast =>
      split at h
      case isFalse => cases h
      case isTrue hlength =>
        obtain ⟨rfl, rfl⟩ := Prod.mk.inj (Option.some.inj h)
        rw [if_neg hlast, hbegun]
        dsimp only
        rw [if_neg (by rw [List.length_append]; exact not_not.mpr hlength)]
        exact ⟨.message, s.rx ++ f.payload, none, rfl, rfl, .inr ⟨rfl, rfl, rfl⟩⟩

/-- A segment that can be put together with what there is, is taken. -/
lemma takeSegment_of_accept (hf : f.WellFormed) (hseg : f.segment = some seg)
    (haccept : seg.accept N s.assembly = some (p, done)) : ∃ r rx rxExpected, s.takeSegment f =
        (.ok r, { s with rx := rx, rxExpected := rxExpected }) ∧
      rxExpected.map (fun e => (e.toNat, rx)) = p ∧
      (done = none ∧ r ≠ .message ∨ done = some rx ∧ r = .message ∧ rxExpected = none) := by
  obtain ⟨-, hending⟩ : seg.items = f.payload ∧ seg.last = f.flags.ending := by
    rw [Frame.segment] at hseg
    split at hseg
    case isTrue => cases hseg
    case isFalse =>
      cases hseg
      exact ⟨rfl, rfl⟩
  rw [Segment.accept] at haccept
  obtain ⟨⟨total, items⟩, hextend, hrest⟩ := Option.bind_eq_some_iff.mp haccept
  obtain ⟨expected, start, hbegin, rfl, rfl⟩ := beginMessage_of_extend hf hseg hextend
  rw [hending] at hrest
  rw [takeSegment, hbegin]
  exact appendSegment_of_accept (s := { s with rxExpected := some expected, rx := start }) rfl hrest

/-- What comes of a call that does not fail. -/
lemma receive_of_ok (h : s.closed = none) {bytes : List UInt8}
    (hinner : s.receiveInner bytes now = (.ok r, s')) : s.receive bytes now = (.ok r, s') := by
  simp only [receive, h, hinner, fail]

/-- The session once it has taken note of a frame and its acknowledgement. -/
def accounted (s : Session N) (f : Frame) (now : Instant) (deadline : Option Instant) : Session N :=
  { s.noted f.sequence now with txAcked := f.ack.getD s.txAcked, ackDeadline := deadline }

/-- What a frame changes, when what it does to the message being received is known. -/
lemma got_accounted (hs : s.Sound) {now lastData : Instant} {deadline : Option Instant}
    {rx : List UInt8} {rxExpected : Option UInt16} (hbody : Segment.acceptBody N s.assembly f.segment =
      some (rxExpected.map (fun e => (e.toNat, rx)), done))
    (hdone : done = none ∧ r ≠ .message ∨ done = some rx ∧ r = .message ∧ rxExpected = none) :
    s.Got { s.accounted f now deadline with
      lastData := lastData, rx := rx, rxExpected := rxExpected } f now r where
  sound := ⟨hs.opened, hs.segmentSize, by simp [accounted, noted], hs.fits⟩
  maxWindow := rfl
  segmentSize := rfl
  txSequence := rfl
  txAcked := rfl
  rxSequence := rfl
  rxAcked := rfl
  pendingAck := rfl
  sendAckAt := rfl
  txActive := rfl
  progress := rfl
  body := ⟨done, hbody, hdone⟩

/-- A frame that fits, and whose segment can be put together with what there is, is taken. -/
lemma receive_of_fits (hs : s.Sound) (hfits : s.Fits f) (now : Instant)
    (haccept : Segment.acceptBody N s.assembly f.segment = some (p, done)) :
    ∃ r s', s.receive f.octets now = (.ok r, s') ∧ s.Got s' f now r ∧ s'.assembly = p := by
  obtain ⟨deadline, hack⟩ := takeAck_of_outstanding (s := s.noted f.sequence now) now hfits.ack
  have hsequence : ¬f.sequence ≠ s.rxSequence + 1 := not_not.mpr hfits.sequence
  have hwindow : ¬s.maxWindow < f.sequence - s.rxAcked := UInt8.not_lt.mpr hfits.window
  cases hseg : f.segment with
  | none =>
    have hempty : f.payload = [] ∧ f.flags.beginning = false := by
      rw [Frame.segment] at hseg
      split at hseg
      case isTrue h => exact h
      case isFalse => cases hseg
    have hinner : s.receiveInner f.octets now = (.ok .ack, s.accounted f now deadline) := by
      rw [receiveInner, Frame.decode_octets hfits.wellFormed]
      dsimp only
      rw [if_neg hsequence, if_neg hwindow, hack]
      exact if_pos hempty
    have hbody : Segment.acceptBody N s.assembly f.segment = some (s.assembly, none) := by
      rw [hseg, Segment.acceptBody]
    refine ⟨.ack, _, receive_of_ok hs.opened hinner,
      got_accounted hs hbody (.inl ⟨rfl, by decide⟩), ?_⟩
    rw [hbody] at haccept
    exact (Prod.mk.inj (Option.some.inj haccept)).1
  | some seg =>
    have hfull : ¬(f.payload = [] ∧ f.flags.beginning = false) := by
      intro hempty
      rw [Frame.segment, if_pos hempty] at hseg
      cases hseg
    have haccept' : seg.accept N s.assembly = some (p, done) := by rwa [hseg] at haccept
    obtain ⟨r, rx, rxExpected, htake, hassembly, hdone⟩ :=
      takeSegment_of_accept (s := { s.accounted f now deadline with lastData := now })
        hfits.wellFormed hseg haccept'
    have hinner : s.receiveInner f.octets now =
        (.ok r, { s.accounted f now deadline with
          lastData := now, rx := rx, rxExpected := rxExpected }) := by
      rw [receiveInner, Frame.decode_octets hfits.wellFormed]
      dsimp only
      rw [if_neg hsequence, if_neg hwindow, hack]
      dsimp only
      rw [if_neg hfull]
      exact htake
    refine ⟨r, _, receive_of_ok hs.opened hinner, got_accounted hs ?_ hdone, hassembly⟩
    rw [hassembly]
    exact haccept

end Session

end MatterKit.Btp
