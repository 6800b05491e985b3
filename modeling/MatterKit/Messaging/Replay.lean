import MatterKit.Messaging.Consistency

/-!
# A replayed datagram and the peer's address

`SecureSession::peer` is documented as "where the peer was when it last sent on this session", and
a datagram that somebody captured and replays is not the peer sending. `receive` records the
source address before it has looked at the counter, and again on the exchange after it has: so a
duplicate moves both. `duplicate_keeps_peers_iff` says exactly when a duplicate leaves the
addresses alone, which is when it comes from where they already point.
-/

namespace MatterKit

open Lib

variable {S X : ℕ}

namespace Messaging

/-! ## What a duplicate on a secure session does -/

section duplicate

variable {c : Crypto} {m : Messaging S X} {buf : List UInt8} {header : MessageHeader}
  {payload : List UInt8} {s : SecureSession}

/-- A secure message is never out of the unsecured context, and never changes it. -/
lemma recordContext_of_secure (hunsec : header.isUnsecured = false) :
    m.outOfContext header = false ∧ m.recordContext header = m := by
  unfold outOfContext recordContext
  simp [hunsec]

/-- Processing a duplicate either fails and touches nothing, or lets the exchange of the message
hear it; the exchange may have been opened for that. -/
lemma process_duplicate (m : Messaging S X) (hunsec : header.isUnsecured = false)
    (payload : List UInt8) (peer : Peer) (now : Instant) :
    let m' := (m.process header payload .duplicate peer now).2
    m'.sessions = m.sessions ∧
      ((m'.exchanges = m.exchanges ∧ ∀ ph body, ProtocolHeader.decode payload = .ok (ph, body) →
          m.exchanges.find (messageKey header.sessionId ph) = none) ∨
        ∃ ph body routed, ProtocolHeader.decode payload = .ok (ph, body) ∧
          m.route header.sessionId ph true now =
            (.ok (messageKey header.sessionId ph), routed) ∧
          m'.exchanges = routed.exchanges.modify (messageKey header.sessionId ph) fun e =>
            e.hear header.messageCounter ph peer now) := by
  obtain ⟨hctx, hkeep⟩ := recordContext_of_secure (m := m) hunsec
  intro m'
  rcases process_cases m header payload .duplicate peer now with
    ⟨err, hdec, heq⟩ | ⟨ph, body, hdec, hcase⟩
  · have hm' : m' = m := congrArg Prod.snd heq
    refine ⟨by rw [hm'], .inl ⟨by rw [hm'], ?_⟩⟩
    intro ph body hdec'
    rw [hdec] at hdec'
    simp at hdec'
  · rw [hkeep] at hcase
    rcases hcase with ⟨hout, -⟩ | ⟨-, hnot, err, heq⟩ | ⟨-, -, routed, hroute, heq⟩
    · rw [hctx] at hout
      simp at hout
    · have hm' : m' = m := congrArg Prod.snd heq
      refine ⟨by rw [hm'], .inl ⟨by rw [hm'], ?_⟩⟩
      intro ph' body' hdec'
      obtain ⟨rfl, rfl⟩ := ok_pair_inj hdec hdec'
      by_contra hsome
      obtain ⟨e, he⟩ := Option.ne_none_iff_exists'.mp hsome
      exact hnot (.inl ⟨e, he⟩)
    · obtain ⟨-, e, he⟩ := find_of_route hroute
      obtain ⟨final, hdeliver, hstate⟩ := deliver_open he header ph body true peer now
      have hm' : m' = routed.updateExchange (messageKey header.sessionId ph) fun e =>
          e.hear header.messageCounter ph peer now := by
        rcases hstate with ⟨hfinal, -⟩ | ⟨-, hclosed⟩
        · rw [← hfinal]
          calc m' = (routed.deliver (messageKey header.sessionId ph) header ph body true peer
                now).2 := congrArg Prod.snd heq
            _ = final := congrArg Prod.snd hdeliver
        · simp [outcome] at hclosed
      have hsessions : routed.sessions = m.sessions := by
        rw [← sessions_route m header.sessionId ph (decide (Verdict.duplicate = .duplicate)) now, hroute]
      refine ⟨?_, .inr ⟨ph, body, routed, hdec, hroute, ?_⟩⟩
      · rw [hm']
        exact hsessions
      · rw [hm']
        rfl

/-- An exchange that was open before routing is the same exchange after it. -/
lemma find_route_of_open {routed : Messaging S X} {session : SessionId} {ph : ProtocolHeader}
    {now : Instant} {k key : ExchangeKey} {e e' : Exchange} (hu : m.exchanges.Unique)
    (hroute : m.route session ph true now = (.ok k, routed))
    (he : m.exchanges.find key = some e) (he' : routed.exchanges.find key = some e') : e' = e := by
  obtain ⟨hmem, hkey⟩ := ExchangeTable.find_eq_some he
  rcases route_cases m session ph true now with
    ⟨-, -, hr⟩ | ⟨hfree, -, -, t, hentries, hr⟩ | ⟨-, -, err, hr⟩
  · have hsame : routed.exchanges = m.exchanges :=
      congrArg (fun p => p.2.exchanges) (hroute.symm.trans hr)
    rw [hsame, he] at he'
    exact (Option.some.inj he').symm
  · have ht : routed.exchanges = t := congrArg (fun p => p.2.exchanges) (hroute.symm.trans hr)
    rw [ht] at he'
    obtain ⟨hmem', hkey'⟩ := ExchangeTable.find_eq_some he'
    rw [hentries, List.mem_append, List.mem_singleton] at hmem'
    rcases hmem' with hold | rfl
    · refine hu.eq_of_key_eq ?_ hmem (hkey'.trans hkey.symm)
      exact (ExchangeTable.makeRoom_sublist m.exchanges now).subset hold
    · have hnone := ExchangeTable.find_eq_none_iff.mp hfree e hmem
      exact absurd (hkey.trans hkey'.symm) hnone
  · rw [hroute] at hr
    simp at hr

/-- What a duplicate leaves of an exchange that was already open: the exchange itself, unless it
is the one the message belongs to, which hears it. -/
lemma find_process_duplicate (hu : m.exchanges.Unique) (hunsec : header.isUnsecured = false)
    {peer : Peer} {now : Instant} {key : ExchangeKey} {e e' : Exchange} (he : m.exchanges.find key = some e)
    (he' : (m.process header payload .duplicate peer now).2.exchanges.find key = some e') :
    e' = e ∨ ∃ ph body, ProtocolHeader.decode payload = .ok (ph, body) ∧
      key = messageKey header.sessionId ph ∧ e' = e.hear header.messageCounter ph peer now := by
  rcases (process_duplicate m hunsec payload peer now).2 with
    ⟨hsame, -⟩ | ⟨ph, body, routed, hdec, hroute, hmodify⟩
  · left
    rw [hsame, he] at he'
    exact (Option.some.inj he').symm
  · rw [hmodify, ExchangeTable.find_modify _ _ _ fun e => e.key_hear _ _ _ _] at he'
    by_cases hkey : key = messageKey header.sessionId ph
    · right
      rw [if_pos hkey, Option.map_eq_some_iff] at he'
      obtain ⟨e₁, he₁, rfl⟩ := he'
      exact ⟨ph, body, hdec, hkey, by rw [find_route_of_open hu hroute he he₁]⟩
    · left
      rw [if_neg hkey] at he'
      exact find_route_of_open hu hroute he he'

/-- The open exchange a duplicate belongs to hears it. -/
lemma find_process_duplicate_self (hunsec : header.isUnsecured = false) (peer : Peer)
    (now : Instant) {ph : ProtocolHeader} {body : List UInt8} {e : Exchange}
    (hdec : ProtocolHeader.decode payload = .ok (ph, body))
    (he : m.exchanges.find (messageKey header.sessionId ph) = some e) :
    (m.process header payload .duplicate peer now).2.exchanges.find
      (messageKey header.sessionId ph) = some (e.hear header.messageCounter ph peer now) := by
  rcases (process_duplicate m hunsec payload peer now).2 with
    ⟨-, hnone⟩ | ⟨ph', body', routed, hdec', hroute, hmodify⟩
  · rw [hnone ph body hdec] at he
    simp at he
  · obtain ⟨rfl, rfl⟩ := ok_pair_inj hdec hdec'
    rw [hmodify, ExchangeTable.find_modify _ _ _ fun e => e.key_hear _ _ _ _, if_pos rfl]
    rcases route_cases m header.sessionId ph true now with
      ⟨-, -, hr⟩ | ⟨hfree, -⟩ | ⟨hfree, -⟩
    · have hsame : routed.exchanges = m.exchanges :=
        congrArg (fun p => p.2.exchanges) (hroute.symm.trans hr)
      rw [hsame, he]
      rfl
    · rw [hfree] at he
      simp at he
    · rw [hfree] at he
      simp at he

end duplicate

/-! ## The peer's address -/

/-- The session's peer, and the peer of every exchange that was already open on it and still is,
are in `m'` what they were in `m`. -/
def PeersKept (m m' : Messaging S X) (sid : SessionId) : Prop :=
  (m'.sessions.find sid).map SecureSession.peer = (m.sessions.find sid).map SecureSession.peer ∧
    ∀ key e e', key.session = sid → m.exchanges.find key = some e →
      m'.exchanges.find key = some e' → e'.peer = e.peer

/-- **A duplicate moves no peer exactly when** it comes from where the session's peer and the peer
of the exchange it belongs to already are. -/
theorem duplicate_keeps_peers_iff {c : Crypto} {m : Messaging S X} (hr : Reachable c m)
    {buf : List UInt8} {sid : SessionId} {header : MessageHeader} {payload : List UInt8}
    (hauth : m.authenticate c buf = .ok (.message sid header payload)) (hsid : sid ≠ .unsecured)
    {s : SecureSession} (hs : m.sessions.find sid = some s)
    (hdup : s.window.wouldAccept header.messageCounter = .duplicate) (peer : Peer) (now : Instant) :
    m.PeersKept (m.receive c buf peer now).2 sid ↔
      s.peer = some peer ∧ ∀ ph body e, ProtocolHeader.decode payload = .ok (ph, body) →
        m.exchanges.find (messageKey sid ph) = some e → e.peer = some peer := by
  obtain ⟨hheader, hcase⟩ := authenticate_message hauth
  have hunsec : header.isUnsecured = false := by
    rcases hcase with ⟨hzero, -, -⟩ | ⟨-, hunsec, -⟩
    · exact absurd hzero hsid
    · exact hunsec
  subst hheader
  have hu : (m.judged header peer now).exchanges.Unique := by
    rw [exchanges_judged]
    exact hr.consistent.exchanges_unique
  have hreceive : m.receive c buf peer now =
      (m.judged header peer now).process header payload .duplicate peer now := by
    rw [receive_message hauth, verdict_of_find hunsec hs, hdup]
  have hsession : ((m.receive c buf peer now).2.sessions.find header.sessionId).map
      SecureSession.peer = some (some peer) := by
    rw [hreceive, (process_duplicate _ hunsec payload peer now).1, find_judged hunsec hs]
    rfl
  unfold PeersKept
  rw [hsession, hs]
  simp only [Option.map_some, Option.some.injEq]
  constructor
  · intro ⟨hpeer, hexchanges⟩
    refine ⟨hpeer.symm, ?_⟩
    intro ph body e hdec he
    have he₁ : (m.judged header peer now).exchanges.find (messageKey header.sessionId ph) =
        some e := by rw [exchanges_judged, he]
    have hheard := find_process_duplicate_self hunsec peer now hdec he₁
    rw [← hreceive] at hheard
    exact (hexchanges _ e _ rfl he hheard).symm
  · intro ⟨hpeer, hexchange⟩
    refine ⟨hpeer.symm, ?_⟩
    intro key e e' _ he he'
    have he₁ : (m.judged header peer now).exchanges.find key = some e := by
      rw [exchanges_judged, he]
    rw [hreceive] at he'
    rcases find_process_duplicate hu hunsec he₁ he' with rfl | ⟨ph, body, hdec, rfl, rfl⟩
    · rfl
    · exact (hexchange ph body e hdec he).symm

/-- A new message on the sample session 7, as its peer frames it with the stand-in primitives. -/
def sampleDatagram (counter : UInt32) : List UInt8 :=
  MessageHeader.octets { sessionId := ⟨7⟩, messageCounter := counter } ++ ProtocolHeader.octets
      { initiator := true
        acknowledgedCounter := none
        reliability := true
        exchangeId := ⟨9⟩
        protocol := .interactionModel
        opcode := 2 } ++
    List.replicate 16 1

/-- A node with the sample session, after it has heard counter 3 from port 5540. -/
def sampleNode : Messaging 2 2 :=
  ((Messaging.new 7 1 0).after .tagByKey (.installSession (sampleSession 7) ⟨0⟩ 0 64 64)).after
    .tagByKey (.receive (sampleDatagram 3) (udpPeer 5540) ⟨10⟩)

lemma reachable_sampleNode : Reachable .tagByKey sampleNode :=
  ((Reachable.new 7 1 0).step (.installSession (sampleSession 7) ⟨0⟩ 0 64 64) trivial).step
    (.receive (sampleDatagram 3) (udpPeer 5540) ⟨10⟩) trivial

/-- The same datagram again, from port 6666: it is judged a duplicate, and the session and the
exchange now point at port 6666. -/
theorem duplicate_moves_peer :
    let key : ExchangeKey := ⟨⟨7⟩, ⟨9⟩, .responder⟩
    let after := sampleNode.receive .tagByKey (sampleDatagram 3) (udpPeer 6666) ⟨20⟩
    Reachable .tagByKey sampleNode ∧
      after.1 = .ok (.duplicate key true) ∧
      ((sampleNode.sessions.find ⟨7⟩).bind SecureSession.peer = some (udpPeer 5540) ∧
        (after.2.sessions.find ⟨7⟩).bind SecureSession.peer = some (udpPeer 6666)) ∧
      (sampleNode.exchanges.find key).bind Exchange.peer = some (udpPeer 5540) ∧
        (after.2.exchanges.find key).bind Exchange.peer = some (udpPeer 6666) := by
  intro key after
  exact ⟨reachable_sampleNode, by decide +kernel, by decide +kernel, by decide +kernel,
    by decide +kernel⟩

/-- From the address the peer is at, the replay moves nothing. -/
theorem duplicate_keeps_peers_sampleNode : sampleNode.PeersKept
      (sampleNode.receive .tagByKey (sampleDatagram 3) (udpPeer 5540) ⟨20⟩).2 ⟨7⟩ := by
  let header : MessageHeader := { sessionId := ⟨7⟩, messageCounter := 3 }
  let payload := ProtocolHeader.octets
    { initiator := true
      acknowledgedCounter := none
      reliability := true
      exchangeId := ⟨9⟩
      protocol := .interactionModel
      opcode := 2 }
  have hauth : sampleNode.authenticate .tagByKey (sampleDatagram 3) =
      .ok (.message ⟨7⟩ header payload) := by decide +kernel
  have hs : ∃ s, sampleNode.sessions.find ⟨7⟩ = some s ∧
      s.window.wouldAccept header.messageCounter = .duplicate ∧ s.peer = some (udpPeer 5540) :=
    ⟨((sampleSession 7).hear 3 (udpPeer 5540) ⟨10⟩).2, by decide +kernel, by decide +kernel,
      by decide +kernel⟩
  obtain ⟨s, hfind, hdup, hpeer⟩ := hs
  refine (duplicate_keeps_peers_iff reachable_sampleNode hauth (by decide) hfind hdup
    (udpPeer 5540) ⟨20⟩).mpr ⟨hpeer, ?_⟩
  intro ph body e _ he
  have hall : ∀ e ∈ sampleNode.exchanges.entries, e.peer = some (udpPeer 5540) := by
    decide +kernel
  exact hall e (ExchangeTable.find_eq_some he).1

end Messaging

end MatterKit
