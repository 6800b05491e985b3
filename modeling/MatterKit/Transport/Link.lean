import MatterKit.Transport.BtpCalls
import MatterKit.Lib.Duplex
import MatterKit.Lib.Runs

/-!
# Two sessions over a lossless link

A client's session and a server's, with the same parameters, and a queue of packets from each to the
other. Whoever drives a session may at any time hand it a message, ask it for a packet, give it the
packet that is first in the queue towards it, and take the message it has put together; a message that
is whole is taken before the next packet is given.

`Models` relates such a link to the link with unbounded numbers of `Lib.Duplex`.
-/

namespace MatterKit.Btp

open Lib TwoSided

variable {N : ℕ}

instance : TwoSided Role where
  other r := match r with
    | .client => .server
    | .server => .client
  other_other r := by cases r <;> rfl
  other_ne r := by cases r <;> decide
  eq_or r q := by cases r <;> cases q <;> simp

/-- Two sessions, the packets each has under way, and what has come of it: whether an end has a whole
message waiting, the messages it was given and has taken, and how many packets it has received and
acknowledged, the handshake response among them. -/
structure Link (N : ℕ) where
  session : Role → Session N
  wire : Role → List (List UInt8)
  whole : Role → Bool
  accepted : Role → List (List UInt8)
  taken : Role → List (List UInt8)
  received : Role → ℕ
  acknowledged : Role → ℕ

namespace Link

/-- What is done to a link. -/
inductive Act
  | send (r : Role) (sdu : List UInt8)
  | pollSend (r : Role) (now : Instant)
  | receive (r : Role) (now : Instant)
  | takeMessage (r : Role)

/-- A link over a completed handshake. The response was a packet, which the client has received. -/
def new (params : SessionParams) (now : Role → Instant) : Link N where
  session r := .new r params (now r)
  wire _ := []
  whole _ := false
  accepted _ := []
  taken _ := []
  received r := match r with
    | .client => 1
    | .server => 0
  acknowledged _ := 0

variable (l : Link N)

/-- A session becomes another. -/
def setSession (r : Role) (s : Session N) : Link N :=
  { l with session := Function.update l.session r s }

/-- A session that was handed a message. -/
def send (r : Role) (sdu : List UInt8) : Link N :=
  match (l.session r).send sdu with
  | (.error _, s) => l.setSession r s
  | (.ok (), s) =>
    { l.setSession r s with accepted := Function.update l.accepted r (l.accepted r ++ [sdu]) }

/-- A session was asked for a packet. What it has acknowledged is what it had received, if the packet
carries an acknowledgement. -/
def pollSend (r : Role) (now : Instant) : Link N :=
  match (l.session r).pollSend now (l.session r).segmentSize with
  | (.error _, s) => l.setSession r s
  | (.ok none, s) => l.setSession r s
  | (.ok (some packet), s) =>
    { l.setSession r s with
      wire := Function.update l.wire r (l.wire r ++ [packet])
      acknowledged := Function.update l.acknowledged r
        (if (l.session r).pendingAck.isSome then l.received r else l.acknowledged r) }

/-- A session was given the first packet in the queue towards it, if there is one. -/
def receive (r : Role) (now : Instant) : Link N :=
  match l.wire (other r) with
  | [] => l
  | packet :: rest =>
    let l := { l with wire := Function.update l.wire (other r) rest }
    match (l.session r).receive packet now with
    | (.error _, s) => l.setSession r s
    | (.ok result, s) =>
      { l.setSession r s with
        whole := Function.update l.whole r (decide (result = .message))
        received := Function.update l.received r (l.received r + 1) }

/-- A session's message was taken. -/
def takeMessage (r : Role) : Link N :=
  { l.setSession r (l.session r).takeMessage with
    whole := Function.update l.whole r false
    taken := Function.update l.taken r (l.taken r ++ [(l.session r).message]) }

/-- What a link becomes. -/
def step : Act → Link N
  | .send r sdu => l.send r sdu
  | .pollSend r now => l.pollSend r now
  | .receive r now => l.receive r now
  | .takeMessage r => l.takeMessage r

/-- What may be done: hand over a message that is not empty and is not longer than a session takes, take a
message that is whole, and give a session a packet when there is none. -/
def Legal : Act → Prop
  | .send _ sdu => sdu ≠ [] ∧ sdu.length ≤ min N 65535
  | .pollSend _ _ => True
  | .receive r _ => l.whole r = false
  | .takeMessage r => l.whole r = true

instance Legal.instDecidable (l : Link N) : ∀ a, Decidable (l.Legal a)
  | .send _ sdu => inferInstanceAs (Decidable (sdu ≠ [] ∧ sdu.length ≤ min N 65535))
  | .pollSend _ _ => .isTrue trivial
  | .receive r _ => inferInstanceAs (Decidable (l.whole r = false))
  | .takeMessage r => inferInstanceAs (Decidable (l.whole r = true))

/-- Whether a link can come of a handshake. -/
def Reachable (params : SessionParams) : Prop :=
  ∃ now acts, Throughout step Legal (new params now : Link N) acts ∧
    acts.foldl step (new params now) = l

end Link

/-! ## The numbers -/

/-- The difference of two numbers that are less than 256 apart is kept modulo 256. -/
lemma toNat_ofNat_sub_ofNat {a b : ℕ} (hle : b ≤ a) (hlt : a - b < 256) :
    (UInt8.ofNat a - UInt8.ofNat b).toNat = a - b := by
  have hsum : UInt8.ofNat a = UInt8.ofNat b + UInt8.ofNat (a - b) := by
    rw [← UInt8.ofNat_add, Nat.add_sub_cancel' hle]
  have hdiff : UInt8.ofNat a - UInt8.ofNat b = UInt8.ofNat (a - b) := by
    rw [hsum]
    grind
  rw [hdiff, UInt8.toNat_ofNat_of_lt' (by rw [UInt8.size]; omega)]

/-- A packet of a link with unbounded numbers, and its body a segment or nothing. -/
abbrev Packet := Duplex.Packet (Option (Segment UInt8))

/-- An end of such a link. -/
abbrev Party := Duplex.Party (Option (Segment UInt8))

/-- The sequence number of the last of so many packets. -/
def lastOf (count : ℕ) : UInt8 := UInt8.ofNat count - 1

/-- The numbers of a session are an end's, modulo 256. -/
structure Numbers (s : Session N) (p : Party) (sent : ℕ) : Prop where
  txSequence : s.txSequence = UInt8.ofNat sent
  txAcked : s.txAcked = lastOf p.known
  rxSequence : s.rxSequence = lastOf p.received
  rxAcked : s.rxAcked = lastOf p.acknowledged
  pendingAck : s.pendingAck = p.pendingAck.map lastOf

/-- The octets of a packet. -/
def Encodes (packet : Packet) (octets : List UInt8) : Prop :=
  ∃ f : Frame, octets = f.octets ∧ f.WellFormed ∧ f.sequence = UInt8.ofNat packet.number ∧
    f.ack = packet.ack.map lastOf ∧ f.segment = packet.body

namespace Numbers

variable {s : Session N} {d : Role → Party} {r : Role}

/-- A session owes an acknowledgement when the end does. -/
lemma pendingAck_isSome (h : Numbers s (d r) (Duplex.sent d r)) :
    s.pendingAck.isSome = true ↔ (d r).acknowledged < (d r).received := by
  rw [h.pendingAck, Option.isSome_map, Duplex.Party.pendingAck]
  split <;> simp_all

variable (h : Numbers s (d r) (Duplex.sent d r)) (hok : ∀ q, Duplex.Ok s.maxWindow.toNat d q)
include h hok

/-- The packets a session counts as in flight are those it does not know to be acknowledged. -/
lemma toNat_inFlight : s.inFlight.toNat = Duplex.sent d r - (d r).known := by
  have hwindow := (hok r).window
  have hlt := s.maxWindow.toNat_lt
  have hknown := Duplex.known_le hok r
  have hle := (hok (other r)).acknowledged_le
  have hsent : (d (other r)).received ≤ Duplex.sent d r := Nat.le_add_right _ _
  have hdiff : s.inFlight = UInt8.ofNat (Duplex.sent d r) - UInt8.ofNat (d r).known := by
    rw [Session.inFlight, h.txSequence, h.txAcked, lastOf]
    grind
  rw [hdiff, toNat_ofNat_sub_ofNat (by omega) (by omega)]

/-- A session may send exactly when the end may. -/
lemma canSend_iff : s.canSend = true ↔ Duplex.CanSend s.maxWindow.toNat d r := by
  have hflight := toNat_inFlight h hok
  have hpending := h.pendingAck_isSome
  have hremote : s.remoteWindow = s.maxWindow.toNat - (Duplex.sent d r - (d r).known) := by
    rw [Session.remoteWindow, hflight]
  have hwindow := (hok r).window
  have hknown := Duplex.known_le hok r
  have hle := (hok (other r)).acknowledged_le
  have hsent : (d (other r)).received ≤ Duplex.sent d r := Nat.le_add_right _ _
  rw [Session.canSend, Duplex.CanSend, ← hpending]
  split
  case isTrue hzero =>
    refine iff_of_false Bool.false_ne_true ?_
    omega
  case isFalse hfree =>
    split
    case isTrue hone =>
      constructor
      · intro hsome
        exact ⟨by omega, .inl hsome⟩
      · rintro ⟨-, hsome | hlt⟩
        · exact hsome
        · omega
    case isFalse hmore =>
      refine iff_of_true rfl ⟨?_, .inr ?_⟩ <;> omega

/-- The places a session counts as free in its own window are those without a packet to acknowledge. -/
lemma ownWindowFree_eq : s.ownWindowFree = s.maxWindow.toNat - ((d r).received - (d r).acknowledged) := by
  have hle := (hok r).acknowledged_le
  have hreceived := Duplex.received_le hok r
  have hlt := s.maxWindow.toNat_lt
  have hdiff : s.rxSequence - s.rxAcked =
      UInt8.ofNat (d r).received - UInt8.ofNat (d r).acknowledged := by
    rw [h.rxSequence, h.rxAcked, lastOf, lastOf]
    grind
  rw [Session.ownWindowFree, hdiff, toNat_ofNat_sub_ofNat hle (by omega)]

end Numbers

/-! ## The invariant -/

/-- The messages an end has taken, and the one it has whole, if it has. -/
def Link.held (l : Link N) (r : Role) : List (List UInt8) :=
  l.taken r ++ if l.whole r then [(l.session r).message] else []

/-- What one end of a link has to do with one of the link with unbounded numbers. -/
structure EndModels (l : Link N) (d : Role → Party) (r : Role) : Prop where
  sound : (l.session r).Sound
  numbers : Numbers (l.session r) (d r) (Duplex.sent d r)
  wire : List.Forall₂ Encodes (d r).underWay (l.wire r)
  received : l.received r = (d r).received
  acknowledged : l.acknowledged r = (d r).acknowledged
  whole : l.whole r = true → (l.session r).rxExpected = none

/-- What a link has to do with one with unbounded numbers, and what holds of that one. -/
structure Models (params : SessionParams) (l : Link N) (d : Role → Party) : Prop where
  window : ∀ r, (l.session r).maxWindow = params.window
  segmentSize : ∀ r, (l.session r).segmentSize = params.segmentSize
  ok : ∀ r, Duplex.Ok params.window.toNat d r
  moving : Duplex.Moving d
  spare : Duplex.Open params.window.toNat d
  ends : ∀ r, EndModels l d r
  flow : ∀ r, Segment.Flow N (l.accepted r) (l.session r).progress
    ((d r).underWay.map Duplex.Packet.body).reduceOption (l.session (other r)).assembly
    (l.held (other r))

namespace Models

variable {params : SessionParams} {l : Link N} {d : Role → Party}

/-- The end a new link begins with: a client has received the handshake response. -/
def initial (r : Role) : Party where
  known := 0
  received := match r with
    | .client => 1
    | .server => 0
  acknowledged := 0
  underWay := []

/-- A new link. -/
lemma new (hwindow : params.window ≠ 0) (hsize : 6 ≤ params.segmentSize) (now : Role → Instant) :
    Models params (Link.new params now : Link N) initial := by
  have hpos : 0 < params.window.toNat := by
    rw [Nat.pos_iff_ne_zero]
    exact fun h => hwindow (UInt8.toNat_inj.mp h)
  refine ⟨fun r => rfl, fun r => rfl, ?_, ⟨.server, by decide⟩, ⟨.client, ?_⟩, ?_, fun r => .init⟩
  · intro r
    refine ⟨rfl, rfl, Nat.zero_le _, ?_⟩
    cases r
    · exact Nat.zero_le _
    · exact hpos.trans_eq (Nat.zero_add _).symm
  · exact hpos.trans_eq (Nat.zero_add _).symm
  · intro r
    refine ⟨Session.sound_new r hsize _, ?_, .nil, ?_, rfl, nofun⟩
    · cases r <;> exact ⟨rfl, rfl, rfl, rfl, rfl⟩
    · cases r <;> rfl

/-- Handing a session a message. -/
lemma send (h : Models params l d) (r : Role) {sdu : List UInt8} (hne : sdu ≠ [])
    (hfits : sdu.length ≤ min N 65535) : Models params (l.send r sdu) d := by
  have hself : l.setSession r (l.session r) = l := by
    rw [Link.setSession, Function.update_eq_self]
  have hsound := (h.ends r).sound
  cases hactive : (l.session r).txActive with
  | true =>
    have hbusy : (l.session r).send sdu = (.error .busy, l.session r) := by
      simp [Session.send, hsound.opened, hactive]
    rw [Link.send, hbusy]
    dsimp only
    rwa [hself]
  | false =>
    have hsend : (l.session r).send sdu =
        (.ok (), { l.session r with tx := sdu, txSent := 0, txActive := true }) := by
      have hshort : ¬N < sdu.length := by omega
      simp [Session.send, hsound.opened, hactive, hne, hshort]
    have hprogress : (l.session r).progress = none := by simp [Session.progress, hactive]
    rw [Link.send, hsend]
    dsimp only
    refine ⟨?_, ?_, h.ok, h.moving, h.spare, ?_, ?_⟩
    · intro q
      rcases eq_or r q with rfl | rfl
      · simpa [Link.setSession] using h.window q
      · simpa [Link.setSession] using h.window (other r)
    · intro q
      rcases eq_or r q with rfl | rfl
      · simpa [Link.setSession] using h.segmentSize q
      · simpa [Link.setSession] using h.segmentSize (other r)
    · intro q
      obtain ⟨hsound', hnumbers, hwire, hreceived, hacknowledged, hwhole⟩ := h.ends q
      rcases eq_or r q with rfl | rfl
      · have hlength : 0 < sdu.length := List.length_pos_iff.mpr hne
        refine ⟨?_, ?_, hwire, hreceived, hacknowledged, ?_⟩
        · simp only [Link.setSession, Function.update_self]
          exact ⟨hsound'.opened, hsound'.segmentSize, hsound'.timer,
            fun _ => ⟨by dsimp only; omega, by dsimp only; omega, hlength⟩⟩
        · simp only [Link.setSession, Function.update_self]
          exact ⟨hnumbers.txSequence, hnumbers.txAcked, hnumbers.rxSequence, hnumbers.rxAcked,
            hnumbers.pendingAck⟩
        · simpa [Link.setSession] using hwhole
      · refine ⟨?_, ?_, hwire, hreceived, hacknowledged, ?_⟩
        · simpa [Link.setSession] using hsound'
        · simpa [Link.setSession] using hnumbers
        · simpa [Link.setSession] using hwhole
    · intro q
      have hflow := h.flow q
      rcases eq_or r q with rfl | rfl
      · rw [hprogress] at hflow
        simpa [Link.setSession, Session.progress, Link.held] using hflow.give sdu
      · simpa [Link.setSession, Session.assembly, Session.message, Link.held,
          Function.update_of_ne (other_ne r)] using hflow

variable {r : Role} {now : Instant} {rest : List Packet}

/-- Taking a message that is whole. -/
lemma takeMessage (h : Models params l d) (hwhole : l.whole r = true) :
    Models params (l.takeMessage r) d := by
  have hnone : (l.session r).rxExpected = none := (h.ends r).whole hwhole
  refine ⟨?_, ?_, h.ok, h.moving, h.spare, ?_, ?_⟩
  · intro q
    rcases eq_or r q with rfl | rfl
    · simpa [Link.takeMessage, Link.setSession, Session.takeMessage] using h.window q
    · simpa [Link.takeMessage, Link.setSession] using h.window (other r)
  · intro q
    rcases eq_or r q with rfl | rfl
    · simpa [Link.takeMessage, Link.setSession, Session.takeMessage] using h.segmentSize q
    · simpa [Link.takeMessage, Link.setSession] using h.segmentSize (other r)
  · intro q
    obtain ⟨hsound, hnumbers, hwire, hreceived, hacknowledged, hwhole'⟩ := h.ends q
    rcases eq_or r q with rfl | rfl
    · refine ⟨?_, ?_, hwire, hreceived, hacknowledged, ?_⟩
      · simp only [Link.takeMessage, Link.setSession, Function.update_self]
        exact ⟨hsound.opened, hsound.segmentSize, hsound.timer, hsound.fits⟩
      · simp only [Link.takeMessage, Link.setSession, Function.update_self]
        exact ⟨hnumbers.txSequence, hnumbers.txAcked, hnumbers.rxSequence, hnumbers.rxAcked,
          hnumbers.pendingAck⟩
      · simp [Link.takeMessage]
    · refine ⟨?_, ?_, hwire, hreceived, hacknowledged, ?_⟩
      · simpa [Link.takeMessage, Link.setSession] using hsound
      · simpa [Link.takeMessage, Link.setSession] using hnumbers
      · simpa [Link.takeMessage, Link.setSession] using hwhole'
  · intro q
    have hflow := h.flow q
    rcases eq_or r q with rfl | rfl
    · simpa [Link.takeMessage, Link.setSession, Link.held, Session.takeMessage, Session.progress,
        Function.update_of_ne (other_ne q)] using hflow
    · simpa [Link.takeMessage, Link.setSession, Link.held, Session.takeMessage, Session.assembly,
        Function.update_of_ne (other_ne r), hwhole, hnone] using hflow

/-- A packet goes out when a session has one to write. -/
lemma pollSend_of_ready (h : Models params l d) (hready : (l.session r).ready now = true) :
    ∃ (f : Frame) (s' : Session N),
      (l.session r).pollSend now (l.session r).segmentSize = (.ok (some f.octets), s') ∧
      (l.session r).Sent s' f ∧ (l.pollSend r now).session = Function.update l.session r s' ∧
      (l.pollSend r now).whole = l.whole ∧
      Models params (l.pollSend r now) (Duplex.emit d r f.segment) := by
  obtain ⟨f, s', hpoll, hsent⟩ := Session.pollSend_of_ready (h.ends r).sound hready
  have hcan : Duplex.CanSend params.window.toNat d r := by
    have hiff := (h.ends r).numbers.canSend_iff (by rw [h.window r]; exact h.ok)
    rw [h.window r] at hiff
    exact hiff.mp (Bool.and_eq_true_iff.mp hready).1
  refine ⟨f, s', hpoll, hsent, by rw [Link.pollSend, hpoll]; rfl, by rw [Link.pollSend, hpoll]; rfl,
    ?_⟩
  rw [Link.pollSend, hpoll]
  dsimp only
  refine ⟨?_, ?_, Duplex.Ok.emit h.ok hcan.1 _, Duplex.Moving.emit h.ok r _,
    Duplex.Open.emit h.ok hcan _, ?_, ?_⟩
  · intro q
    rcases eq_or r q with rfl | rfl
    · simpa [Link.setSession, hsent.maxWindow] using h.window q
    · simpa [Link.setSession] using h.window (other r)
  · intro q
    rcases eq_or r q with rfl | rfl
    · simpa [Link.setSession, hsent.segmentSize] using h.segmentSize q
    · simpa [Link.setSession] using h.segmentSize (other r)
  · intro q
    obtain ⟨hsound, hnumbers, hwire, hreceived, hacknowledged, hwhole⟩ := h.ends q
    rcases eq_or r q with rfl | rfl
    · have hpending := hnumbers.pendingAck
      have hacked : lastOf (d q).received =
          (l.session q).pendingAck.getD (l.session q).rxAcked := by
        have hgetD := Duplex.pendingAck_getD (h.ok q)
        rw [hpending, hnumbers.rxAcked, Option.getD_map, hgetD]
      refine ⟨?_, ?_, ?_, ?_, ?_, ?_⟩
      · simpa [Link.setSession] using hsent.sound
      · simp only [Link.setSession, Function.update_self, Duplex.emit_self, Duplex.sent_emit_self]
        refine ⟨?_, ?_, ?_, ?_, ?_⟩
        · rw [hsent.txSequence, hnumbers.txSequence]
          exact (UInt8.ofNat_add _ 1).symm
        · rw [hsent.txAcked, hnumbers.txAcked]
        · rw [hsent.rxSequence, hnumbers.rxSequence]
        · rw [hsent.rxAcked, hacked]
        · rw [hsent.pendingAck, Duplex.Party.pendingAck]
          simp
      · simp only [Function.update_self, Duplex.emit_self]
        refine List.rel_append hwire (.cons ⟨f, rfl, hsent.wellFormed, ?_, ?_, rfl⟩ .nil)
        · rw [hsent.sequence, hnumbers.txSequence]
        · rw [hsent.ack, hpending]
      · simpa [Link.setSession] using hreceived
      · simp only [Function.update_self, Duplex.emit_self]
        split
        case isTrue => exact hreceived
        case isFalse hnone =>
          have hle := (h.ok q).acknowledged_le
          have hlt := mt hnumbers.pendingAck_isSome.mpr hnone
          rw [hacknowledged]
          omega
      · simpa [Link.setSession, hsent.rxExpected] using hwhole
    · refine ⟨?_, ?_, ?_, ?_, ?_, ?_⟩
      · simpa [Link.setSession] using hsound
      · simpa [Link.setSession] using hnumbers
      · simpa [Function.update_of_ne (other_ne r)] using hwire
      · simpa [Link.setSession] using hreceived
      · simpa [Function.update_of_ne (other_ne r)] using hacknowledged
      · simpa [Link.setSession] using hwhole
  · intro q
    have hflow := h.flow q
    rcases eq_or r q with rfl | rfl
    · have hheld : l.held (other q) = l.taken (other q) ++
        if l.whole (other q) then [(l.session (other q)).message] else [] := rfl
      rcases hsent.progress with ⟨hseg, hsame, -⟩ | ⟨message, sent, count, hat, hN, hcount, hle,
        hseg, hadvance⟩
      · simpa [Link.setSession, Link.held, hsame, hseg, List.reduceOption_append,
          Function.update_of_ne (other_ne q)] using hflow
      · rw [hat] at hflow
        simpa [Link.setSession, Link.held, hadvance, hseg, List.reduceOption_append,
          Function.update_of_ne (other_ne q)] using hflow.send hN hcount hle
    · simpa [Link.setSession, Link.held, Session.assembly, Session.message, hsent.rx,
        hsent.rxExpected, Function.update_of_ne (other_ne r)] using hflow

/-- Nothing happens when a session has no packet to write. -/
lemma pollSend_of_not_ready (h : Models params l d) (hready : (l.session r).ready now = false) :
    l.pollSend r now = l := by
  have hpoll := Session.pollSend_of_not_ready (h.ends r).sound.opened hready (l.session r).segmentSize
  rw [Link.pollSend, hpoll]
  dsimp only
  rw [Link.setSession, Function.update_eq_self]

/-- The first packet in a queue fits: it has the next number, there is a place for it in the window, and
what it acknowledges is outstanding. -/
lemma fits (h : Models params l d) {p : Packet} (hqueue : (d r).underWay = p :: rest) {f : Frame}
    (hf : f.WellFormed) (hsequence : f.sequence = UInt8.ofNat p.number)
    (hack : f.ack = p.ack.map lastOf) : (l.session (other r)).Fits f := by
  have hok := h.ok r
  have hnumbers := (h.ends (other r)).numbers
  have hnumber := hok.number_eq hqueue
  obtain ⟨hgrows, hacks⟩ : Duplex.Acks (d (other r)).known (d r).acknowledged (p :: rest) :=
    hqueue ▸ hok.acks
  have hlt := params.window.toNat_lt
  refine ⟨hf, ?_, ?_, ?_⟩
  · rw [hsequence, hnumber, hnumbers.rxSequence, lastOf]
    grind
  · have hroom : (d (other r)).received + 1 ≤ (d r).known + params.window.toNat := by
      have hwindow := hok.window
      rw [Duplex.sent, hqueue, List.length_cons] at hwindow
      omega
    have hknown := Duplex.known_le h.ok r
    have hle := (h.ok (other r)).acknowledged_le
    have hdiff : f.sequence - (l.session (other r)).rxAcked =
        UInt8.ofNat ((d (other r)).received + 1) - UInt8.ofNat (d (other r)).acknowledged := by
      rw [hsequence, hnumber, hnumbers.rxAcked, lastOf, UInt8.ofNat_add]
      grind
    rw [h.window, hdiff, UInt8.le_iff_toNat_le, toNat_ofNat_sub_ofNat (by omega) (by omega)]
    omega
  · intro a ha
    rw [hack] at ha
    obtain ⟨count, hcount, rfl⟩ := Option.mem_map.mp ha
    have hgrow := hgrows count hcount
    have hle := hacks.le
    rw [Option.mem_def.mp hcount, Option.getD_some] at hle
    have hbound : (d r).acknowledged - (d (other r)).known ≤ params.window.toNat := by
      have hwindow := (h.ok (other r)).window
      have hle' := (h.ok r).acknowledged_le
      rw [Duplex.sent, other_other] at hwindow
      omega
    have hdiff : lastOf count - (l.session (other r)).txAcked =
        UInt8.ofNat count - UInt8.ofNat (d (other r)).known := by
      rw [hnumbers.txAcked, lastOf, lastOf]
      grind
    have hnew : (lastOf count - (l.session (other r)).txAcked).toNat =
        count - (d (other r)).known := by
      rw [hdiff, toNat_ofNat_sub_ofNat hgrow.le (by omega)]
    have hflight := hnumbers.toNat_inFlight (by rw [h.window]; exact h.ok)
    have hsent : (d r).received ≤ Duplex.sent d (other r) := by
      rw [Duplex.sent, other_other]
      exact Nat.le_add_right _ _
    have hle' := (h.ok r).acknowledged_le
    constructor
    · intro hzero
      rw [hzero] at hnew
      change 0 = _ at hnew
      omega
    · rw [UInt8.le_iff_toNat_le, hnew, hflight]
      omega

/-- A session takes the packet that is first in the queue towards it. -/
lemma receive_of_cons (h : Models params l d) {p : Packet} (hqueue : (d r).underWay = p :: rest)
    (hwhole : l.whole (other r) = false) (now : Instant) :
    ∃ f s' result, (l.session (other r)).receive f.octets now = (.ok result, s') ∧
      (l.session (other r)).Got s' f now result ∧
      (l.receive (other r) now).session = Function.update l.session (other r) s' ∧
      (l.receive (other r) now).whole = Function.update l.whole (other r) (decide (result = .message)) ∧
      Models params (l.receive (other r) now) (Duplex.arrive d r p rest) := by
  obtain ⟨hsound, hnumbers, -, hreceived, hacknowledged, -⟩ := h.ends (other r)
  have hnumber := (h.ok r).number_eq hqueue
  have hwire := (h.ends r).wire
  rw [hqueue] at hwire
  obtain ⟨octets, restOctets, ⟨f, rfl, hf, hsequence, hack, hbody⟩, hrest, hqueue'⟩ :=
    List.forall₂_cons_left_iff.mp hwire
  have hfits := h.fits hqueue hf hsequence hack
  -- its segment, if it has one, goes on with what has been put together
  have hflow := h.flow r
  rw [hqueue, List.map_cons] at hflow
  obtain ⟨assembly, done, haccept, hflow'⟩ := hflow.deliver
  rw [← hbody] at haccept
  obtain ⟨result, s', hreceive, hgot, rfl⟩ := Session.receive_of_fits hsound hfits now haccept
  obtain ⟨done', haccept', hdone⟩ := hgot.body
  obtain rfl : done = done' := by
    rw [haccept] at haccept'
    exact (Prod.mk.inj (Option.some.inj haccept')).2
  have hlink : l.receive (other r) now =
      { ({ l with wire := Function.update l.wire r restOctets } : Link N).setSession (other r) s' with
        whole := Function.update l.whole (other r) (decide (result = .message))
        received := Function.update l.received (other r) (l.received (other r) + 1) } := by
    rw [Link.receive, other_other, hqueue']
    dsimp only
    rw [hreceive]
  refine ⟨f, s', result, hreceive, hgot, by rw [hlink]; rfl, by rw [hlink], ?_⟩
  rw [hlink]
  refine ⟨?_, ?_, Duplex.Ok.arrive h.ok hqueue, h.moving.arrive hqueue, h.spare.arrive hqueue,
    ?_, ?_⟩
  · intro q
    rcases eq_or r q with rfl | rfl
    · simpa [Link.setSession, Function.update_of_ne (other_ne q).symm] using h.window q
    · simpa [Link.setSession, hgot.maxWindow] using h.window (other r)
  · intro q
    rcases eq_or r q with rfl | rfl
    · simpa [Link.setSession, Function.update_of_ne (other_ne q).symm] using h.segmentSize q
    · simpa [Link.setSession, hgot.segmentSize] using h.segmentSize (other r)
  · intro q
    rcases eq_or r q with rfl | rfl
    · obtain ⟨hsound', hnumbers', -, hreceived', hacknowledged', hwhole'⟩ := h.ends q
      refine ⟨?_, ?_, ?_, ?_, ?_, ?_⟩
      · simpa [Link.setSession, Function.update_of_ne (other_ne q).symm] using hsound'
      · rw [Duplex.sent_arrive_self hqueue]
        simp only [Link.setSession, Function.update_of_ne (other_ne q).symm, Duplex.arrive_self]
        exact ⟨hnumbers'.txSequence, hnumbers'.txAcked, hnumbers'.rxSequence, hnumbers'.rxAcked,
          hnumbers'.pendingAck⟩
      · simpa [Link.setSession] using hrest
      · simpa [Link.setSession, Function.update_of_ne (other_ne q).symm] using hreceived'
      · simpa [Link.setSession] using hacknowledged'
      · simpa [Link.setSession, Function.update_of_ne (other_ne q).symm] using hwhole'
    · refine ⟨?_, ?_, ?_, ?_, ?_, ?_⟩
      · simpa [Link.setSession] using hgot.sound
      · simp only [Link.setSession, Function.update_self, Duplex.arrive_other, Duplex.sent_arrive_other]
        have hnext : f.sequence = lastOf ((d (other r)).received + 1) := by
          rw [hsequence, hnumber, lastOf, UInt8.ofNat_add]
          grind
        refine ⟨?_, ?_, ?_, ?_, ?_⟩
        · rw [hgot.txSequence, hnumbers.txSequence]
        · rw [hgot.txAcked, hack, hnumbers.txAcked, Option.getD_map]
        · rw [hgot.rxSequence, hnext]
        · rw [hgot.rxAcked, hnumbers.rxAcked]
        · have hle := (h.ok (other r)).acknowledged_le
          rw [hgot.pendingAck, hnext, Duplex.Party.pendingAck, if_pos (by dsimp only; omega)]
          rfl
      · simpa [Link.setSession, Function.update_of_ne (other_ne r)] using (h.ends (other r)).wire
      · simpa [Link.setSession] using hreceived
      · simpa [Link.setSession] using hacknowledged
      · intro hmessage
        simp only [Function.update_self, decide_eq_true_eq] at hmessage
        simp only [Link.setSession, Function.update_self]
        rcases hdone with ⟨-, hother⟩ | ⟨-, -, hnone⟩
        · exact absurd hmessage hother
        · exact hnone
  · intro q
    rcases eq_or r q with rfl | rfl
    · have hheld : l.held (other q) = l.taken (other q) := by simp [Link.held, hwhole]
      rw [hheld] at hflow'
      rcases hdone with ⟨rfl, hother⟩ | ⟨rfl, rfl, -⟩
      · simpa [Link.setSession, Link.held, hother, Function.update_of_ne (other_ne q).symm] using hflow'
      · simpa [Link.setSession, Link.held, Session.message,
          Function.update_of_ne (other_ne q).symm] using hflow'
    · have hflow₂ := h.flow (other r)
      simpa [Link.setSession, Link.held, hgot.progress,
        Function.update_of_ne (other_ne r).symm] using hflow₂

/-- An end whose queue is empty gets nothing. -/
lemma receive_of_nil (hqueue : l.wire (other r) = []) (now : Instant) : l.receive r now = l := by
  rw [Link.receive, hqueue]

/-- The two links have the same packets under way. -/
lemma wire_eq_nil_iff (h : Models params l d) (r : Role) : l.wire r = [] ↔ (d r).underWay = [] := by
  have hwire := (h.ends r).wire
  constructor
  · intro hnil
    rw [hnil] at hwire
    exact List.forall₂_nil_right_iff.mp hwire
  · intro hnil
    rw [hnil] at hwire
    exact List.forall₂_nil_left_iff.mp hwire

/-- Whatever is done to a link, it goes on as one with unbounded numbers does. -/
lemma step (h : Models params l d) {a : Link.Act} (hlegal : l.Legal a) :
    ∃ d', Models params (l.step a) d' := by
  cases a with
  | send r sdu => exact ⟨d, h.send r hlegal.1 hlegal.2⟩
  | pollSend r now =>
    cases hready : (l.session r).ready now with
    | true =>
      obtain ⟨f, -, -, -, -, -, hmodels⟩ := h.pollSend_of_ready hready
      exact ⟨_, hmodels⟩
    | false =>
      refine ⟨d, ?_⟩
      rw [Link.step, h.pollSend_of_not_ready hready]
      exact h
  | receive r now =>
    cases hqueue : (d (other r)).underWay with
    | nil =>
      refine ⟨d, ?_⟩
      rw [Link.step, receive_of_nil ((h.wire_eq_nil_iff _).mpr hqueue)]
      exact h
    | cons p rest =>
      have hwhole : l.whole (other (other r)) = false := by
        rw [other_other]
        exact hlegal
      obtain ⟨-, -, -, -, -, -, -, hmodels⟩ := h.receive_of_cons hqueue hwhole now
      rw [other_other] at hmodels
      exact ⟨_, hmodels⟩
  | takeMessage r => exact ⟨d, h.takeMessage hlegal⟩

end Models

/-- A link that can come of a handshake goes as one with unbounded numbers does. -/
lemma Link.Reachable.models {params : SessionParams} (hwindow : params.window ≠ 0)
    (hsize : 6 ≤ params.segmentSize) {l : Link N} (h : l.Reachable params) : ∃ d, Models params l d := by
  obtain ⟨now, acts, hrun, rfl⟩ := h
  have hstep : ∀ (l : Link N) a, (∃ d, Models params l d) → l.Legal a →
      ∃ d, Models params (l.step a) d := by
    rintro l a ⟨d, hmodels⟩ hlegal
    exact hmodels.step hlegal
  exact hrun.invariant hstep ⟨_, Models.new hwindow hsize now⟩

/-- However two sessions and the queues between them are driven, neither session closes, an end has taken
what the other was given, each message once and in order, and it holds at most a window of packets that
it has received and not acknowledged. -/
theorem in_order {params : SessionParams} (hwindow : params.window ≠ 0)
    (hsize : 6 ≤ params.segmentSize) {l : Link N} (h : l.Reachable params) (r : Role) :
    (l.session r).closed = none ∧ l.taken (other r) <+: l.accepted r ∧
      l.received r ≤ l.acknowledged r + params.window.toNat := by
  obtain ⟨d, hmodels⟩ := h.models hwindow hsize
  refine ⟨(hmodels.ends r).sound.opened, ?_, ?_⟩
  · exact (List.prefix_append _ _).trans (hmodels.flow r).isPrefix
  · rw [(hmodels.ends r).received, (hmodels.ends r).acknowledged]
    exact Duplex.received_le hmodels.ok r

/-- A client's message goes out in two segments, the first of which acknowledges the handshake response,
and the server takes it. -/
def twoSegments : List Link.Act :=
  [.send .client [1, 2, 3], .pollSend .client ⟨0⟩, .pollSend .client ⟨0⟩, .receive .server ⟨7⟩,
    .receive .server ⟨7⟩, .takeMessage .server]

/-- A message that has been taken whole, on the smallest segments. -/
theorem two_segments_are_in_order :
    (twoSegments.foldl Link.step (Link.new ⟨6, 3⟩ fun _ => ⟨0⟩ : Link 8)).taken .server = [[1, 2, 3]] ∧
      (twoSegments.foldl Link.step (Link.new ⟨6, 3⟩ fun _ => ⟨0⟩ : Link 8)).taken .server <+:
        (twoSegments.foldl Link.step (Link.new ⟨6, 3⟩ fun _ => ⟨0⟩ : Link 8)).accepted .client :=
  ⟨by decide, (in_order (by decide) (by decide) ⟨fun _ => ⟨0⟩, twoSegments, by decide, rfl⟩
    .client).2.1⟩

end MatterKit.Btp
