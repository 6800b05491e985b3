import MatterKit.Messaging.Receive
import MatterKit.Messaging.Run

/-!
# The first message of a new initiator

Every initiator draws its first counter at random, so a window that has seen nothing of it "must
accept whatever counter arrives first". On the unsecured session the context is replaced when a
new ephemeral id appears, but the window is not: one window judges the counters of every initiator
that ever spoke. A new initiator's first message is therefore delivered exactly when its random
counter happens to be new to that window, and there is room for its exchange
(`new_initiator_delivered_iff`).
-/

namespace MatterKit

open Lib

variable {S X : ℕ}

namespace Messaging

/-- Whether the upper layer is handed a message. -/
def Delivers (r : Except ErrorCode Received) : Prop :=
  ∃ exchange header needsAck payload, r = .ok (.message exchange header needsAck payload)

/-- Delivery hands up exactly the messages that are new, are not standalone acknowledgements and
do not close the session. -/
lemma delivers_outcome_iff {key : ExchangeKey} {header : MessageHeader} {ph : ProtocolHeader}
    {body : List UInt8} {duplicate : Bool} :
    Delivers (.ok (outcome key header ph body duplicate)) ↔ duplicate = false ∧
      isStandaloneAck ph = false ∧ ¬ (header.isUnsecured = false ∧ isCloseReport ph body = true) := by
  unfold Delivers
  simp only [Except.ok.injEq, outcome_eq_message_iff]
  constructor
  · rintro ⟨_, _, _, _, hup, -⟩
    exact hup
  · intro hup
    exact ⟨key, ph, ph.reliability, body, hup, rfl, rfl, rfl, rfl⟩

/-- What is handed up of a message that was authenticated: it is processed without an error, it is
new, and it is neither a standalone acknowledgement nor the end of the session. -/
lemma delivers_receive_iff {c : Crypto} {m : Messaging S X} {buf : List UInt8} {sid : SessionId}
    {header : MessageHeader} {payload : List UInt8}
    (hauth : m.authenticate c buf = .ok (.message sid header payload)) (peer : Peer) (now : Instant) :
    Delivers (m.receive c buf peer now).1 ↔ ∃ ph body, ProtocolHeader.decode payload = .ok (ph, body) ∧
        m.outOfContext header = false ∧ m.verdict header = .new ∧
        m.Routable header.sessionId ph false now ∧ isStandaloneAck ph = false ∧
        ¬ (header.isUnsecured = false ∧ isCloseReport ph body = true) := by
  rw [receive_message hauth]
  rcases process_cases (m.judged header peer now) header payload (m.verdict header) peer now with
    ⟨err, hdec, heq⟩ | ⟨ph, body, hdec, hcase⟩
  · rw [heq]
    constructor
    · intro ⟨_, _, _, _, h⟩
      simp at h
    · intro ⟨_, _, hdec', _⟩
      rw [hdec] at hdec'
      simp at hdec'
  · rw [outOfContext_judged, routable_judged] at hcase
    rcases hcase with ⟨hout, heq⟩ | ⟨hctx, hnot, err, heq⟩ | ⟨hctx, hroutable, routed, hroute, heq⟩
    · rw [heq]
      constructor
      · intro ⟨_, _, _, _, h⟩
        simp at h
      · intro ⟨_, _, _, hctx, _⟩
        rw [hctx] at hout
        simp at hout
    · rw [heq]
      constructor
      · intro ⟨_, _, _, _, h⟩
        simp at h
      · intro ⟨ph', body', hdec', _, hnew, hroutable, _⟩
        obtain ⟨rfl, rfl⟩ := ok_pair_inj hdec hdec'
        rw [hnew] at hnot
        exact absurd hroutable hnot
    · obtain ⟨-, e, he⟩ := find_of_route hroute
      obtain ⟨m', hdeliver, -⟩ := deliver_open he header ph body
        (decide (m.verdict header = .duplicate)) peer now
      rw [heq, hdeliver, delivers_outcome_iff]
      constructor
      · intro ⟨hdup, hack, hclose⟩
        rw [hdup] at hroutable
        exact ⟨ph, body, hdec, hctx, Verdict.decide_eq_duplicate.mp hdup, hroutable, hack, hclose⟩
      · intro ⟨ph', body', hdec', _, hnew, _, hack, hclose⟩
        obtain ⟨rfl, rfl⟩ := ok_pair_inj hdec hdec'
        exact ⟨by simp [hnew], hack, hclose⟩

/-- **A new initiator is delivered exactly when** its counter is new to the one unsecured window,
there is room for its exchange, and its message is not a standalone acknowledgement. -/
theorem new_initiator_delivered_iff {c : Crypto} {m : Messaging S X} {buf : List UInt8}
    {header : MessageHeader} {payload : List UInt8} {source : NodeId} {ph : ProtocolHeader}
    {body : List UInt8} (hauth : m.authenticate c buf = .ok (.message .unsecured header payload))
    (hsource : header.source = some source)
    (hdec : ProtocolHeader.decode payload = .ok (ph, body)) (hinit : ph.initiator = true)
    (hregistered : m.protocols.contains ph.protocol = true)
    (hunused : m.exchanges.find (messageKey .unsecured ph) = none) (peer : Peer) (now : Instant) :
    Delivers (m.receive c buf peer now).1 ↔ m.unsecuredWindow.wouldAccept header.messageCounter = .new ∧
        m.exchanges.HasRoom now ∧ isStandaloneAck ph = false := by
  obtain ⟨hsid, hcase⟩ := authenticate_message hauth
  have hunsec : header.isUnsecured = true := by
    rcases hcase with ⟨-, hunsec, -⟩ | ⟨hne, -⟩
    · exact hunsec
    · exact absurd rfl hne
  have hverdict : m.verdict header = m.unsecuredWindow.wouldAccept header.messageCounter := by
    unfold verdict
    rw [if_pos hunsec]
  have hctx : m.outOfContext header = false := by
    unfold outOfContext
    simp [hsource]
  have hroutable : m.Routable .unsecured ph false now ↔ m.exchanges.HasRoom now := by
    unfold Routable mayRoute
    simp [hunused, hinit, hregistered]
  rw [delivers_receive_iff hauth, hsid, hverdict]
  constructor
  · intro ⟨ph', body', hdec', _, hnew, hr, hack, _⟩
    obtain ⟨rfl, rfl⟩ := ok_pair_inj hdec hdec'
    exact ⟨hnew, hroutable.mp hr, hack⟩
  · intro ⟨hnew, hroom, hack⟩
    exact ⟨ph, body, hdec, hctx, hnew, hroutable.mpr hroom, hack, by simp [hunsec]⟩

/-- A node that has heard initiator 1, whose random first counter was 1000. -/
def nodeAfterHello : Messaging 2 2 :=
  (Messaging.new 1 1 0).after .tagByKey (.receive (hello 1 1000 9) (udpPeer 5540) ⟨0⟩)

/-- Initiator 2, never heard of before, starts its own exchange with counter 100: there is room, the
protocol is registered, and it is answered as a replay. -/
theorem new_initiator_taken_for_replay : Reachable .tagByKey nodeAfterHello ∧
      nodeAfterHello.unsecuredPeer.map UnsecuredPeer.ephemeralInitiator = some ⟨1⟩ ∧
      nodeAfterHello.protocols.contains .secureChannel = true ∧
      nodeAfterHello.exchanges.find ⟨.unsecured, ⟨10⟩, .responder⟩ = none ∧
      nodeAfterHello.exchanges.len < 2 ∧
      (nodeAfterHello.receive .tagByKey (hello 2 100 10) (udpPeer 5541) ⟨1⟩).1 =
        .ok (.duplicate ⟨.unsecured, ⟨10⟩, .responder⟩ true) := by
  refine ⟨?_, by decide +kernel, by decide +kernel, by decide +kernel, by decide +kernel,
    by decide +kernel⟩
  exact (Reachable.new 1 1 0).step (.receive (hello 1 1000 9) (udpPeer 5540) ⟨0⟩) trivial

/-- With a counter the window has not passed, the same initiator is delivered. -/
theorem new_initiator_delivered_ahead :
    Delivers (nodeAfterHello.receive .tagByKey (hello 2 2000 10) (udpPeer 5541) ⟨1⟩).1 := by
  let ph : ProtocolHeader :=
    { initiator := true
      acknowledgedCounter := none
      reliability := true
      exchangeId := ⟨10⟩
      protocol := .secureChannel
      opcode := 0x20 }
  obtain ⟨hauth, hdec⟩ := authenticate_unsecuredDatagram .tagByKey nodeAfterHello
    { messageCounter := 2000, source := some ⟨2⟩ } rfl ph []
  exact (new_initiator_delivered_iff hauth rfl hdec rfl (by decide +kernel) (by decide +kernel)
    (udpPeer 5541) ⟨1⟩).mpr ⟨by decide +kernel, .inl (by decide +kernel), by decide +kernel⟩

end Messaging

end MatterKit
