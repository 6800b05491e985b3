import MatterKit.Messaging.Consistency
import MatterKit.Messaging.Handshake

/-!
# What reaches the upper layer

A message for a protocol that is not registered "SHALL be dropped", and the ephemeral exchange that
carries its acknowledgement exists so that "the message SHALL NOT be forwarded to the upper layer".
`route` opens the ephemeral exchange, but `receive` does not look at the flag when it hands the message
up, and a message that finds an exchange open is not checked against the registered protocols at all.
`Leaks` names the messages for which that matters, and `only_registered_delivered_iff` says that they
are exactly the ones that break the rule.

The other half of the rule holds without condition (`receive_adds_at_most_one`).
-/

namespace MatterKit

open Lib

variable {S X : ℕ}

namespace Messaging

/-- Whether no exchange of `m` has the key of `e`. -/
def IsNew (m : Messaging S X) (e : Exchange) : Prop := ∀ x ∈ m.exchanges.entries, x.key ≠ e.key

/-- Every message handed up is of a registered protocol and on an exchange that is not
ephemeral. -/
def OnlyRegistered (m : Messaging S X) (r : Except ErrorCode Received) (m' : Messaging S X) :
    Prop :=
  ∀ key ph needsAck body, r = .ok (.message key ph needsAck body) →
    m.protocols.contains ph.protocol = true ∧
      ∃ e, m'.exchanges.find key = some e ∧ e.ephemeral = false

/-- At most one exchange is opened, and only by a message from an initiator that is new and of a
registered protocol or asks for an acknowledgement. -/
def AddsAtMostOne (c : Crypto) (m : Messaging S X) (buf : List UInt8) (m' : Messaging S X) :
    Prop :=
  (∀ e₁ ∈ m'.exchanges.entries, ∀ e₂ ∈ m'.exchanges.entries,
      m.IsNew e₁ → m.IsNew e₂ → e₁ = e₂) ∧
    ∀ e ∈ m'.exchanges.entries, m.IsNew e → ∃ sid header payload ph body,
      m.authenticate c buf = .ok (.message sid header payload) ∧
        ProtocolHeader.decode payload = .ok (ph, body) ∧ ph.initiator = true ∧
        ((m.verdict header = .new ∧ m.protocols.contains ph.protocol = true) ∨
          ph.reliability = true)

/-- The messages that should not be handed up and have an exchange to go to: an open one, when it
is ephemeral or the protocol is not registered; or the ephemeral one that an unregistered, reliable
message of an initiator opens for itself. -/
def Leaks (m : Messaging S X) (session : SessionId) (ph : ProtocolHeader) (now : Instant) : Prop :=
  (∃ e, m.exchanges.find (messageKey session ph) = some e ∧
      (e.ephemeral = true ∨ m.protocols.contains ph.protocol = false)) ∨
    (m.exchanges.find (messageKey session ph) = none ∧
      m.protocols.contains ph.protocol = false ∧ ph.initiator = true ∧ ph.reliability = true ∧
      m.exchanges.HasRoom now)

/-! ## What one datagram opens -/

variable {session : SessionId} {ph : ProtocolHeader} {now : Instant} {key : ExchangeKey}
  {e e' : Exchange} {c : Crypto} {m : Messaging S X} {body buf : List UInt8}
  {header : MessageHeader}

/-- Routing opens at most the exchange of the message. -/
lemma isNew_route {m routed : Messaging S X} {duplicate : Bool}
    (hroute : m.route session ph duplicate now = (.ok key, routed))
    (he : e ∈ routed.exchanges.entries) (hnew : m.IsNew e) :
    e.key = messageKey session ph ∧ m.mayRoute ph duplicate := by
  rcases route_cases m session ph duplicate now with
    ⟨-, -, hr⟩ | ⟨-, hmay, -, t, hentries, hr⟩ | ⟨-, -, err, hr⟩
  · have hsame : routed.exchanges = m.exchanges :=
      congrArg (fun p => p.2.exchanges) (hroute.symm.trans hr)
    rw [hsame] at he
    exact absurd rfl (hnew e he)
  · have ht : routed.exchanges = t := congrArg (fun p => p.2.exchanges) (hroute.symm.trans hr)
    rw [ht, hentries, List.mem_append, List.mem_singleton] at he
    rcases he with hold | rfl
    · exact absurd rfl (hnew e ((ExchangeTable.makeRoom_sublist _ _).subset hold))
    · exact ⟨rfl, hmay⟩
  · rw [hroute] at hr
    simp at hr

/-- Delivery opens nothing. -/
lemma deliver_within (m : Messaging S X) (key : ExchangeKey) (header : MessageHeader)
    (ph : ProtocolHeader) (body : List UInt8) (duplicate : Bool) (peer : Peer) (now : Instant) :
    (m.deliver key header ph body duplicate peer now).2.exchanges.Within m.exchanges := by
  rcases hfind : m.exchanges.find key with _ | e
  · unfold deliver
    rw [hfind]
    exact .refl _
  · have hheard : (m.updateExchange key fun e =>
        e.hear header.messageCounter ph peer now).exchanges.Within m.exchanges :=
      .modify _ _ fun e => e.key_hear _ _ _ _
    obtain ⟨m', hdeliver, hstate⟩ := deliver_open hfind header ph body duplicate peer now
    rw [hdeliver]
    rcases hstate with ⟨rfl, -⟩ | ⟨rfl, -⟩
    · exact hheard
    · exact (ExchangeTable.Within.closeSession _ _).trans hheard

/-- An exchange that is open after reception and was not before is that of the message, which was
allowed to open it. -/
lemma isNew_receive {peer : Peer} (he : e ∈ (m.receive c buf peer now).2.exchanges.entries)
    (hnew : m.IsNew e) : ∃ sid header payload ph body,
      m.authenticate c buf = .ok (.message sid header payload) ∧
        ProtocolHeader.decode payload = .ok (ph, body) ∧ e.key = messageKey header.sessionId ph ∧
        m.mayRoute ph (decide (m.verdict header = .duplicate)) := by
  rcases hauth : m.authenticate c buf with err | ⟨sid⟩ | ⟨sid, header, payload⟩
  · unfold receive at he
    rw [hauth] at he
    exact absurd rfl (hnew e he)
  · unfold receive at he
    rw [hauth] at he
    exact absurd rfl (hnew e he)
  · rw [receive_message hauth] at he
    rcases process_cases (m.judged header peer now) header payload (m.verdict header) peer now with
      ⟨err, -, heq⟩ | ⟨ph, body, hdec, hcase⟩
    · rw [heq, exchanges_judged] at he
      exact absurd rfl (hnew e he)
    · rcases hcase with ⟨-, heq⟩ | ⟨-, -, err, heq⟩ | ⟨-, -, routed, hroute, heq⟩
      · rw [heq, exchanges_judged] at he
        exact absurd rfl (hnew e he)
      · rw [heq, exchanges_recordContext, exchanges_judged] at he
        exact absurd rfl (hnew e he)
      · rw [heq] at he
        obtain ⟨e₁, he₁, hkey⟩ := (deliver_within _ _ _ _ _ _ _ _).keys e he
        have hnew₁ : ((m.judged header peer now).recordContext header).IsNew e₁ := by
          intro x hx
          rw [exchanges_recordContext, exchanges_judged] at hx
          rw [hkey]
          exact hnew x hx
        obtain ⟨hmine, hmay⟩ := isNew_route hroute he₁ hnew₁
        refine ⟨sid, header, payload, ph, body, rfl, hdec, hkey.symm.trans hmine, ?_⟩
        simpa [mayRoute] using hmay

/-- One datagram opens at most one exchange, and only for a message that may open one. -/
lemma receive_adds_at_most_one (hc : m.Consistent) (buf : List UInt8) (peer : Peer) (now : Instant) :
    AddsAtMostOne c m buf (m.receive c buf peer now).2 := by
  have hafter : (m.receive c buf peer now).2.Consistent :=
    have hkeeps : m.Keeps (m.receive c buf peer now).2 [] := .receive c m buf peer now
    hkeeps.consistent hc
  constructor
  · intro e₁ he₁ e₂ he₂ hnew₁ hnew₂
    obtain ⟨_, header₁, _, ph₁, _, hauth₁, hdec₁, hkey₁, -⟩ := isNew_receive he₁ hnew₁
    obtain ⟨_, header₂, _, ph₂, _, hauth₂, hdec₂, hkey₂, -⟩ := isNew_receive he₂ hnew₂
    rw [hauth₁] at hauth₂
    simp only [Except.ok.injEq, Arrival.message.injEq] at hauth₂
    obtain ⟨-, rfl, rfl⟩ := hauth₂
    obtain ⟨rfl, -⟩ := ok_pair_inj hdec₁ hdec₂
    exact hafter.exchanges_unique.eq_of_key_eq he₁ he₂ (hkey₁.trans hkey₂.symm)
  · intro e he hnew
    obtain ⟨sid, header, payload, ph, body, hauth, hdec, -, hinit, hmay⟩ := isNew_receive he hnew
    refine ⟨sid, header, payload, ph, body, hauth, hdec, hinit, ?_⟩
    rcases hmay with ⟨hdup, hreg⟩ | hrel
    · exact .inl ⟨Verdict.decide_eq_duplicate.mp hdup, hreg⟩
    · exact .inr hrel

/-! ## What one datagram hands up -/

/-- The exchange a new message is routed to: the open one, or one that is ephemeral exactly when the
protocol is not registered. -/
lemma ephemeral_of_route {m routed : Messaging S X}
    (hroute : m.route session ph false now = (.ok key, routed))
    (he : routed.exchanges.find (messageKey session ph) = some e') :
    (∃ e, m.exchanges.find (messageKey session ph) = some e ∧ e'.ephemeral = e.ephemeral) ∨
      (m.exchanges.find (messageKey session ph) = none ∧
        e'.ephemeral = !m.protocols.contains ph.protocol) := by
  rcases route_cases m session ph false now with
    ⟨e, -, hr⟩ | ⟨hfree, -, -, t, hentries, hr⟩ | ⟨-, -, err, hr⟩
  · have hsame : routed.exchanges = m.exchanges :=
      congrArg (fun p => p.2.exchanges) (hroute.symm.trans hr)
    rw [hsame] at he
    exact .inl ⟨e', he, rfl⟩
  · have ht : routed.exchanges = t := congrArg (fun p => p.2.exchanges) (hroute.symm.trans hr)
    refine .inr ⟨hfree, ?_⟩
    obtain ⟨hmem, hkey⟩ := ExchangeTable.find_eq_some he
    rw [ht, hentries, List.mem_append, List.mem_singleton] at hmem
    rcases hmem with hold | rfl
    · have hbefore := (ExchangeTable.makeRoom_sublist _ _).subset hold
      exact absurd hkey (ExchangeTable.find_eq_none_iff.mp hfree e' hbefore)
    · simp [opening]
  · rw [hroute] at hr
    simp at hr

/-- An open exchange hands a new message up and stays, having heard it. -/
lemma deliver_message (he : m.exchanges.find key = some e) (hack : isStandaloneAck ph = false)
    (hclose : ¬ (header.isUnsecured = false ∧ isCloseReport ph body = true)) (peer : Peer) (now : Instant) :
    ∃ m', m.deliver key header ph body false peer now = (.ok (.message key ph ph.reliability body), m') ∧
      m'.exchanges.find key = some (e.hear header.messageCounter ph peer now) := by
  obtain ⟨m', hdeliver, hstate⟩ := deliver_open he header ph body false peer now
  have houtcome : outcome key header ph body false = .message key ph ph.reliability body :=
    outcome_eq_message_iff.mpr ⟨⟨rfl, hack, hclose⟩, rfl, rfl, rfl, rfl⟩
  rw [houtcome] at hdeliver hstate
  refine ⟨m', hdeliver, ?_⟩
  have hfind := ExchangeTable.find_modify m.exchanges key key
    (f := fun e => e.hear header.messageCounter ph peer now) fun e => e.key_hear _ _ _ _
  rw [if_pos rfl, he] at hfind
  rcases hstate with ⟨rfl, -⟩ | ⟨-, hclosed⟩
  · exact hfind
  · simp at hclosed

/-- The exchange of a message that is handed up: the open one, or the one that was opened for it,
which is ephemeral exactly when the protocol is not registered. -/
lemma receive_delivers {sid : SessionId} {payload : List UInt8}
    (hauth : m.authenticate c buf = .ok (.message sid header payload))
    (hdec : ProtocolHeader.decode payload = .ok (ph, body)) (hctx : m.outOfContext header = false)
    (hnew : m.verdict header = .new) (hroutable : m.Routable header.sessionId ph false now)
    (hack : isStandaloneAck ph = false)
    (hclose : ¬ (header.isUnsecured = false ∧ isCloseReport ph body = true)) (peer : Peer) :
    ∃ m' e', m.receive c buf peer now =
        (.ok (.message (messageKey header.sessionId ph) ph ph.reliability body), m') ∧
      m'.exchanges.find (messageKey header.sessionId ph) = some e' ∧
      ((∃ e, m.exchanges.find (messageKey header.sessionId ph) = some e ∧ e'.ephemeral = e.ephemeral) ∨
        (m.exchanges.find (messageKey header.sessionId ph) = none ∧
          e'.ephemeral = !m.protocols.contains ph.protocol)) := by
  have hfirst : decide (m.verdict header = .duplicate) = false := by simp [hnew]
  rw [← hfirst] at hroutable
  obtain ⟨routed, hroute, heq⟩ := receive_routed hauth hdec hctx hroutable peer
  rw [hfirst] at hroute heq
  obtain ⟨-, e₁, he₁⟩ := find_of_route hroute
  obtain ⟨m', hdeliver, hfind⟩ := deliver_message he₁ hack hclose peer now
  refine ⟨m', e₁.hear header.messageCounter ph peer now, heq.trans hdeliver, hfind, ?_⟩
  have hflag := ephemeral_of_route hroute he₁
  rw [exchanges_recordContext, exchanges_judged, protocols_recordContext, protocols_judged] at hflag
  rw [Exchange.ephemeral_hear]
  exact hflag

/-- A message that leaks has an exchange to go to. -/
lemma Leaks.routable (h : m.Leaks session ph now) : m.Routable session ph false now := by
  rcases h with ⟨e, he, -⟩ | ⟨-, -, hinit, hrel, hroom⟩
  · exact .inl ⟨e, he⟩
  · exact .inr ⟨⟨hinit, .inr hrel⟩, hroom⟩

/-- What is handed up is of a registered protocol and on a lasting exchange exactly when it does not
leak. -/
lemma proper_iff_not_leaks (hroutable : m.Routable session ph false now)
    (hflag : (∃ e, m.exchanges.find (messageKey session ph) = some e ∧ e'.ephemeral = e.ephemeral) ∨
      (m.exchanges.find (messageKey session ph) = none ∧
        e'.ephemeral = !m.protocols.contains ph.protocol)) :
    (m.protocols.contains ph.protocol = true ∧ e'.ephemeral = false) ↔ ¬ m.Leaks session ph now := by
  unfold Leaks
  rcases hflag with ⟨e, he, heq⟩ | ⟨hnone, heq⟩
  · simp [he, heq, and_comm]
  · rcases hroutable with ⟨e, he⟩ | ⟨⟨hinit, hmay⟩, hroom⟩
    · rw [hnone] at he
      simp at he
    · by_cases hreg : m.protocols.contains ph.protocol = true
      · simp [hnone, heq, hreg]
      · have hrel : ph.reliability = true := by
          rcases hmay with ⟨-, hreg'⟩ | hrel
          · exact absurd hreg' hreg
          · exact hrel
        simp [hnone, hreg, hinit, hrel, hroom]

/-- **Only registered traffic reaches the upper layer exactly when** the datagram does not carry an
authentic new message that leaks: one that is handed up although its protocol is not registered or
its exchange is ephemeral. -/
theorem only_registered_delivered_iff {c : Crypto} {m : Messaging S X} (hr : Reachable c m)
    (buf : List UInt8) (peer : Peer) (now : Instant) :
    (m.OnlyRegistered (m.receive c buf peer now).1 (m.receive c buf peer now).2 ∧
        AddsAtMostOne c m buf (m.receive c buf peer now).2) ↔
      ∀ sid header payload ph body, m.authenticate c buf = .ok (.message sid header payload) →
        ProtocolHeader.decode payload = .ok (ph, body) → m.outOfContext header = false →
        m.verdict header = .new → isStandaloneAck ph = false →
        ¬ (header.isUnsecured = false ∧ isCloseReport ph body = true) →
        ¬ m.Leaks header.sessionId ph now := by
  constructor
  · intro ⟨honly, _⟩ sid header payload ph body hauth hdec hctx hnew hack hclose hleak
    obtain ⟨m', e', hreceive, he', hflag⟩ :=
      receive_delivers hauth hdec hctx hnew hleak.routable hack hclose peer
    rw [hreceive] at honly
    obtain ⟨hreg, e, he, hsteady⟩ := honly _ _ _ _ rfl
    rw [he'] at he
    obtain rfl := Option.some.inj he
    exact (proper_iff_not_leaks hleak.routable hflag).mp ⟨hreg, hsteady⟩ hleak
  · intro hsafe
    refine ⟨?_, receive_adds_at_most_one hr.consistent buf peer now⟩
    intro key ph needsAck body hmsg
    obtain ⟨sid, header, payload, hauth⟩ := authenticate_of_receive_message hmsg
    obtain ⟨ph', body', hdec, hctx, hnew, hroutable, hack, hclose⟩ :=
      (delivers_receive_iff hauth peer now).mp ⟨key, ph, needsAck, body, hmsg⟩
    obtain ⟨m', e', hreceive, he', hflag⟩ :=
      receive_delivers hauth hdec hctx hnew hroutable hack hclose peer
    rw [hreceive] at hmsg ⊢
    simp only [Except.ok.injEq, Received.message.injEq] at hmsg
    obtain ⟨rfl, rfl, -, -⟩ := hmsg
    have hkept := hsafe sid header payload ph' body' hauth hdec hctx hnew hack hclose
    obtain ⟨hreg, hsteady⟩ := (proper_iff_not_leaks hroutable hflag).mpr hkept
    exact ⟨hreg, e', he', hsteady⟩

/-- A node has answered a stranger's first message, on the Secure Channel. A message for BDX, which is
not registered, is handed up because it is sent on the exchange that is open. -/
theorem unregistered_message_delivered :
    let m : Messaging 2 2 :=
      ((.new 1 1 0 : Messaging 2 2).receive .tagByKey (hello 77 5 9) (udpPeer 5540) ⟨0⟩).2
    let ph : ProtocolHeader :=
      { initiator := true
        acknowledgedCounter := none
        reliability := false
        exchangeId := ⟨9⟩
        protocol := .bdx
        opcode := 1 }
    let buf := unsecuredDatagram { messageCounter := 6, source := some ⟨77⟩ } ph []
    let key : ExchangeKey := ⟨.unsecured, ⟨9⟩, .responder⟩
    let r := m.receive .tagByKey buf (udpPeer 5540) ⟨0⟩
    Reachable .tagByKey m ∧ (m.exchanges.find key).map Exchange.ephemeral = some false ∧
      r.1 = .ok (.message key ph false []) ∧ ¬ m.OnlyRegistered r.1 r.2 := by
  intro m ph buf key r
  have hdelivered : r.1 = .ok (.message key ph false []) := by decide +kernel
  have hunregistered : m.protocols.contains ph.protocol = false := by decide +kernel
  refine ⟨(Reachable.new 1 1 0).step (.receive (hello 77 5 9) (udpPeer 5540) ⟨0⟩) trivial,
    by decide +kernel, hdelivered, fun honly => ?_⟩
  obtain ⟨hregistered, -⟩ := honly _ _ _ _ hdelivered
  rw [hunregistered] at hregistered
  cases hregistered

/-- A stranger's message for the Secure Channel, which is registered, respects the rule. -/
theorem only_registered_delivered_hello :
    let m : Messaging 2 2 := .new 1 1 0
    m.OnlyRegistered (m.receive .tagByKey (hello 77 5 9) (udpPeer 5540) ⟨0⟩).1
        (m.receive .tagByKey (hello 77 5 9) (udpPeer 5540) ⟨0⟩).2 ∧
      AddsAtMostOne .tagByKey m (hello 77 5 9)
        (m.receive .tagByKey (hello 77 5 9) (udpPeer 5540) ⟨0⟩).2 := by
  intro m
  refine (only_registered_delivered_iff (.new 1 1 0) (hello 77 5 9) (udpPeer 5540) ⟨0⟩).mpr ?_
  intro sid header payload ph body hauth hdec _ _ _ _ hleak
  obtain ⟨hauth', hdec'⟩ := authenticate_unsecuredDatagram .tagByKey m
    { messageCounter := 5, source := some ⟨77⟩ } rfl
    { initiator := true
      acknowledgedCounter := none
      reliability := true
      exchangeId := ⟨9⟩
      protocol := .secureChannel
      opcode := 0x20 } []
  have hsame := hauth.symm.trans hauth'
  simp only [Except.ok.injEq, Arrival.message.injEq] at hsame
  obtain ⟨rfl, rfl, rfl⟩ := hsame
  obtain ⟨rfl, rfl⟩ := ok_pair_inj hdec' hdec
  rcases hleak with ⟨e, he, -⟩ | ⟨-, hunreg, -⟩
  · exact absurd (ExchangeTable.find_eq_some he).1 (by simp [new])
  · exact absurd hunreg (by decide +kernel)

end Messaging

end MatterKit
