import MatterKit.Messaging

/-!
# What receiving a datagram can do

The stages of `receive`, inverted: for each of them one lemma that lists its outcomes with their guards
and the state they leave.

* `authenticate_message`: an authenticated message is on the session its header names, which is the
  unsecured one or is in the table.
* `judge_message`: its counter is always judged, and `verdict` is the judgement.
* `route_cases`: it belongs to an open exchange, or opens one, or is refused and nothing moves.
* `deliver_open`: an open exchange always takes it, with one of four outcomes.
* `process_cases`: the four ways processing ends after the judgement, three of them errors.
-/

namespace MatterKit

open Lib

variable {S X : ℕ}

namespace Messaging

/-! ## Authentication -/

variable {c : Crypto} {m : Messaging S X} {body buf payload : List UInt8} {session sid : SessionId}
  {header : MessageHeader} {s : SecureSession} {peer : Peer} {now : Instant} {ph : ProtocolHeader}
  {duplicate needsAck : Bool} {key : ExchangeKey}

/-- An authenticated message carries the session id that was used to look its key up, and that id
is zero exactly for the unsecured session. -/
lemma authenticate_message (h : m.authenticate c buf = .ok (.message sid header payload)) :
    header.sessionId = sid ∧ ((sid = .unsecured ∧ header.isUnsecured = true ∧
          MessageHeader.decode buf = .ok (header, payload)) ∨
        (sid ≠ .unsecured ∧ header.isUnsecured = false ∧ ∃ s, m.sessions.find sid = some s ∧
          unprotect c buf (s.keys.receiving s.role) s.recvNonceSource = .ok (header, payload))) := by
  unfold authenticate at h
  obtain ⟨head, hhead, h⟩ := bind_eq_ok.mp h
  split at h
  · simp at h
  · split at h
    · rename_i hzero
      obtain ⟨⟨header', rest⟩, hdecode, h⟩ := bind_eq_ok.mp h
      obtain ⟨_, hens, h⟩ := bind_eq_ok.mp h
      have hunsec := ensure_eq_ok.mp hens
      simp only [pure_eq_ok, Except.ok.injEq, Arrival.message.injEq] at h
      obtain ⟨rfl, rfl, rfl⟩ := h
      refine ⟨?_, .inl ⟨hzero, hunsec, hdecode⟩⟩
      have hpreview := preview_of_decode hdecode
      rw [hhead] at hpreview
      simp only [Except.ok.injEq] at hpreview
      rw [hpreview]
    · rename_i hzero
      obtain ⟨s, hs, h⟩ := bind_eq_ok.mp h
      obtain ⟨⟨header', payload'⟩, hun, h⟩ := bind_eq_ok.mp h
      simp only [pure_eq_ok, Except.ok.injEq, Arrival.message.injEq] at h
      obtain ⟨rfl, rfl, rfl⟩ := h
      obtain ⟨_, _, _, _, _, -, -, hunsec, -⟩ := unprotect_eq_ok hun
      refine ⟨?_, .inr ⟨hzero, hunsec, s, okOr_eq_ok.mp hs, hun⟩⟩
      have hpreview := unprotect_preview hun
      rw [hhead] at hpreview
      simp only [Except.ok.injEq] at hpreview
      rw [hpreview]

/-! ## The verdict -/

/-- What the replay window that is responsible for a message says about its counter. -/
def verdict (m : Messaging S X) (header : MessageHeader) : Verdict :=
  if header.isUnsecured then m.unsecuredWindow.wouldAccept header.messageCounter
  else
    match m.sessions.find header.sessionId with
    | some s => s.window.wouldAccept header.messageCounter
    | none => .duplicate

/-- The state in which a message's counter has been judged and nothing else has happened. -/
def judged (m : Messaging S X) (header : MessageHeader) (peer : Peer) (now : Instant) :
    Messaging S X :=
  if header.isUnsecured then
    { m with unsecuredWindow := (m.unsecuredWindow.accept header.messageCounter).2 }
  else
    m.updateSession header.sessionId fun s => (s.hear header.messageCounter peer now).2

/-- The counter of an authenticated message is always judged. -/
lemma judge_message (h : m.authenticate c buf = .ok (.message sid header payload)) (peer : Peer)
    (now : Instant) : m.judge sid header peer now = (.ok (m.verdict header), m.judged header peer now) := by
  obtain ⟨hsid, hcase⟩ := authenticate_message h
  unfold judge verdict judged
  rcases hcase with ⟨-, hunsec, -⟩ | ⟨-, hunsec, s, hs, -⟩
  · simp [hunsec, CounterWindow.wouldAccept]
  · rw [hsid, hs]
    simp [hunsec, SecureSession.hear, SecureSession.acceptCounter, CounterWindow.wouldAccept]

/-- Reception of an authenticated message is its processing after the judgement. -/
lemma receive_message (h : m.authenticate c buf = .ok (.message sid header payload)) (peer : Peer)
    (now : Instant) : m.receive c buf peer now =
      (m.judged header peer now).process header payload (m.verdict header) peer now := by
  unfold receive
  rw [h]
  simp only [judge_message h]

@[simp] lemma exchanges_judged (m : Messaging S X) (header : MessageHeader) (peer : Peer)
    (now : Instant) : (m.judged header peer now).exchanges = m.exchanges := by
  unfold judged
  split <;> rfl

@[simp] lemma protocols_judged (m : Messaging S X) (header : MessageHeader) (peer : Peer)
    (now : Instant) : (m.judged header peer now).protocols = m.protocols := by
  unfold judged
  split <;> rfl

@[simp] lemma unsecuredPeer_judged (m : Messaging S X) (header : MessageHeader) (peer : Peer)
    (now : Instant) : (m.judged header peer now).unsecuredPeer = m.unsecuredPeer := by
  unfold judged
  split <;> rfl

/-- The verdict on a message of a secure session is that of the session's window. -/
lemma verdict_of_find (hunsec : header.isUnsecured = false)
    (hs : m.sessions.find header.sessionId = some s) :
    m.verdict header = s.window.wouldAccept header.messageCounter := by
  unfold verdict
  rw [if_neg (by simp [hunsec]), hs]

/-- The session hears the message, whatever its verdict. -/
lemma find_judged (hunsec : header.isUnsecured = false)
    (hs : m.sessions.find header.sessionId = some s) (peer : Peer) (now : Instant) :
    (m.judged header peer now).sessions.find header.sessionId =
      some (s.hear header.messageCounter peer now).2 := by
  unfold judged
  rw [if_neg (by simp [hunsec])]
  have hfind := SessionTable.find_modify m.sessions header.sessionId header.sessionId
    (f := fun s => (s.hear header.messageCounter peer now).2) fun _ => rfl
  rw [if_pos rfl, hs] at hfind
  exact hfind

/-! ## The unsecured context -/

/-- Recording the context touches nothing but the context. -/
lemma recordContext_eq (m : Messaging S X) (header : MessageHeader) :
    ∃ context, m.recordContext header = { m with unsecuredPeer := context } := by
  unfold recordContext
  split
  · split
    · exact ⟨_, rfl⟩
    · exact ⟨m.unsecuredPeer, rfl⟩
  · exact ⟨m.unsecuredPeer, rfl⟩

@[simp] lemma exchanges_recordContext (m : Messaging S X) (header : MessageHeader) :
    (m.recordContext header).exchanges = m.exchanges := by
  obtain ⟨context, h⟩ := recordContext_eq m header
  rw [h]

@[simp] lemma sessions_recordContext (m : Messaging S X) (header : MessageHeader) :
    (m.recordContext header).sessions = m.sessions := by
  obtain ⟨context, h⟩ := recordContext_eq m header
  rw [h]

@[simp] lemma protocols_recordContext (m : Messaging S X) (header : MessageHeader) :
    (m.recordContext header).protocols = m.protocols := by
  obtain ⟨context, h⟩ := recordContext_eq m header
  rw [h]

@[simp] lemma outOfContext_judged (m : Messaging S X) (header : MessageHeader) (peer : Peer)
    (now : Instant) : (m.judged header peer now).outOfContext header = m.outOfContext header := by
  unfold outOfContext addressedToContext
  rw [unsecuredPeer_judged]

/-! ## Routing -/

/-- The key of the exchange a message belongs to. -/
def messageKey (session : SessionId) (header : ProtocolHeader) : ExchangeKey :=
  ⟨session, header.exchangeId, ExchangeTable.roleForMessage header.initiator⟩

/-- Whether an unsolicited message may open an exchange: it is from an initiator, and is new and of
a registered protocol, or asks for an acknowledgement. -/
def mayRoute (m : Messaging S X) (header : ProtocolHeader) (duplicate : Bool) : Prop :=
  header.initiator = true ∧
    ((duplicate = false ∧ m.protocols.contains header.protocol = true) ∨ header.reliability = true)

/-- The exchange an unsolicited message opens: an ephemeral one unless it is new and registered. -/
def opening (m : Messaging S X) (session : SessionId) (header : ProtocolHeader)
    (duplicate : Bool) (now : Instant) : Exchange :=
  { Exchange.new (messageKey session header) header.protocol (m.mrpParams session) now with
    ephemeral := !decide (duplicate = false ∧ m.protocols.contains header.protocol = true) }

/-- Whether a message finds an exchange: an open one, or one it may open and for which there is
room. -/
def Routable (m : Messaging S X) (session : SessionId) (header : ProtocolHeader)
    (duplicate : Bool) (now : Instant) : Prop :=
  (∃ e, m.exchanges.find (messageKey session header) = some e) ∨
    (m.mayRoute header duplicate ∧ m.exchanges.HasRoom now)

@[simp] lemma routable_judged : (m.judged header peer now).Routable session ph duplicate now ↔
      m.Routable session ph duplicate now := by
  simp [Routable, mayRoute]

section route

variable {m : Messaging S X} {session : SessionId} {header : ProtocolHeader} {duplicate : Bool}
  {now : Instant}

/-- An open exchange is found. -/
lemma route_of_find {e : Exchange} (he : m.exchanges.find (messageKey session header) = some e) :
    m.route session header duplicate now = (.ok (messageKey session header), m) := by
  have hfind : m.exchanges.findForMessage session header.exchangeId header.initiator = some e := he
  unfold route
  simp only [hfind, (ExchangeTable.find_eq_some he).2]

/-- With no open exchange, a message that may not open one is refused. -/
lemma route_of_not_mayRoute (hfind : m.exchanges.find (messageKey session header) = none)
    (hnot : ¬ m.mayRoute header duplicate) :
    m.route session header duplicate now = (.error .noExchange, m) := by
  have hnone : m.exchanges.findForMessage session header.exchangeId header.initiator = none := hfind
  unfold route
  simp only [hnone]
  by_cases hinit : header.initiator = true
  · have hreg : ¬ (duplicate = false ∧ m.protocols.contains header.protocol = true) :=
      fun h => hnot ⟨hinit, .inl h⟩
    have hrel : ¬ header.reliability = true := fun h => hnot ⟨hinit, .inr h⟩
    rw [if_neg (by simp [hinit]), if_neg hreg, if_neg hrel]
  · rw [if_pos (by simpa using hinit)]

/-- With no open exchange, a message that may open one opens it if there is room. -/
lemma route_of_mayRoute (hfind : m.exchanges.find (messageKey session header) = none)
    (hmay : m.mayRoute header duplicate) : (m.exchanges.HasRoom now ∧ ∃ t, t.entries =
        (m.exchanges.makeRoom now).entries ++ [m.opening session header duplicate now] ∧
      m.route session header duplicate now =
        (.ok (messageKey session header), { m with exchanges := t })) ∨
    (¬ m.exchanges.HasRoom now ∧
      m.route session header duplicate now = (.error .noSpace, m)) := by
  obtain ⟨hinit, hwhy⟩ := hmay
  have hkey : messageKey session header = ⟨session, header.exchangeId, .responder⟩ := by
    simp [messageKey, ExchangeTable.roleForMessage, hinit]
  have hfree := hfind
  rw [hkey] at hfree
  have hnone : m.exchanges.findForMessage session header.exchangeId header.initiator = none := hfind
  unfold route opening
  simp only [hnone]
  rw [if_neg (by simp [hinit]), hkey]
  by_cases hreg : duplicate = false ∧ m.protocols.contains header.protocol = true
  · rw [if_pos hreg, decide_eq_true hreg]
    rcases ExchangeTable.openResponder_cases hfree header.protocol (m.mrpParams session) now with
      ⟨hroom, t, hopen, happ⟩ | ⟨hroom, hopen⟩
    · exact .inl ⟨hroom, t, happ, by rw [hopen]⟩
    · exact .inr ⟨hroom, by rw [hopen]⟩
  · rw [if_neg hreg, if_pos (hwhy.resolve_left hreg), decide_eq_false hreg]
    rcases ExchangeTable.openEphemeral_cases hfree header.protocol (m.mrpParams session) now with
      ⟨hroom, t, hopen, happ⟩ | ⟨hroom, hopen⟩
    · exact .inl ⟨hroom, t, happ, by rw [hopen]⟩
    · exact .inr ⟨hroom, by rw [hopen]⟩

end route

/-- Routing finds the open exchange, or opens one where that is allowed and there is room, or
refuses the message and changes nothing. -/
lemma route_cases (m : Messaging S X) (session : SessionId) (header : ProtocolHeader)
    (duplicate : Bool) (now : Instant) : (∃ e, m.exchanges.find (messageKey session header) = some e ∧
      m.route session header duplicate now = (.ok (messageKey session header), m)) ∨
    (m.exchanges.find (messageKey session header) = none ∧ m.mayRoute header duplicate ∧
      m.exchanges.HasRoom now ∧ ∃ t, t.entries =
          (m.exchanges.makeRoom now).entries ++ [m.opening session header duplicate now] ∧
        m.route session header duplicate now =
          (.ok (messageKey session header), { m with exchanges := t })) ∨
    (m.exchanges.find (messageKey session header) = none ∧
      ¬ (m.mayRoute header duplicate ∧ m.exchanges.HasRoom now) ∧
      ∃ err, m.route session header duplicate now = (.error err, m)) := by
  rcases hfind : m.exchanges.find (messageKey session header) with _ | e
  · right
    by_cases hmay : m.mayRoute header duplicate
    · rcases route_of_mayRoute hfind hmay with ⟨hroom, t, happ, hroute⟩ | ⟨hroom, hroute⟩
      · exact .inl ⟨rfl, hmay, hroom, t, happ, hroute⟩
      · exact .inr ⟨rfl, fun h => hroom h.2, .noSpace, hroute⟩
    · exact .inr ⟨rfl, fun h => hmay h.1, .noExchange, route_of_not_mayRoute hfind hmay⟩
  · left
    exact ⟨e, rfl, route_of_find hfind⟩

/-- A routed message finds its exchange open. -/
lemma find_of_route {m m' : Messaging S X} {header : ProtocolHeader}
    (h : m.route session header duplicate now = (.ok key, m')) :
    key = messageKey session header ∧ ∃ e, m'.exchanges.find key = some e := by
  rcases route_cases m session header duplicate now with
    ⟨e, hfind, hroute⟩ | ⟨hfind, -, -, t, happ, hroute⟩ | ⟨-, -, err, hroute⟩
  · rw [h] at hroute
    simp only [Prod.mk.injEq, Except.ok.injEq] at hroute
    obtain ⟨rfl, rfl⟩ := hroute
    exact ⟨rfl, e, hfind⟩
  · rw [h] at hroute
    simp only [Prod.mk.injEq, Except.ok.injEq] at hroute
    obtain ⟨rfl, rfl⟩ := hroute
    refine ⟨rfl, ?_⟩
    rw [← Option.ne_none_iff_exists']
    intro hnone
    have hmem : m.opening session header duplicate now ∈ t.entries := by simp [happ]
    exact ExchangeTable.find_eq_none_iff.mp hnone _ hmem rfl
  · rw [h] at hroute
    simp at hroute

/-- Routing leaves the sessions alone. -/
lemma sessions_route (m : Messaging S X) (session : SessionId) (header : ProtocolHeader)
    (duplicate : Bool) (now : Instant) :
    (m.route session header duplicate now).2.sessions = m.sessions := by
  rcases route_cases m session header duplicate now with
    ⟨e, -, hroute⟩ | ⟨-, -, -, t, -, hroute⟩ | ⟨-, -, err, hroute⟩
  · rw [hroute]
  · rw [hroute]
  · rw [hroute]

/-! ## Delivery -/

/-- The outcome of delivery to an open exchange. -/
def outcome (key : ExchangeKey) (header : MessageHeader) (protocolHeader : ProtocolHeader)
    (body : List UInt8) (duplicate : Bool) : Received :=
  if duplicate then .duplicate key protocolHeader.reliability
  else if isStandaloneAck protocolHeader then .acknowledged key
  else if !header.isUnsecured && isCloseReport protocolHeader body then
    .sessionClosed header.sessionId
  else .message key protocolHeader protocolHeader.reliability body

/-- A message is handed up exactly when it is new, is not a standalone acknowledgement and does not
close the session. -/
lemma outcome_eq_message_iff {key key' : ExchangeKey} {ph ph' : ProtocolHeader} {body body' : List UInt8} :
    outcome key header ph body duplicate = .message key' ph' needsAck body' ↔
      (duplicate = false ∧ isStandaloneAck ph = false ∧
        ¬ (header.isUnsecured = false ∧ isCloseReport ph body = true)) ∧
      key' = key ∧ ph' = ph ∧ needsAck = ph.reliability ∧ body' = body := by
  have hnot : (!header.isUnsecured && isCloseReport ph body) = true ↔
      header.isUnsecured = false ∧ isCloseReport ph body = true := by simp
  unfold outcome
  by_cases hdup : duplicate = true
  · simp [hdup]
  · rw [if_neg hdup]
    by_cases hack : isStandaloneAck ph = true
    · simp [hack]
    · rw [if_neg hack]
      by_cases hclose : header.isUnsecured = false ∧ isCloseReport ph body = true
      · rw [if_pos (hnot.mpr hclose)]
        simp [hclose]
      · rw [if_neg (mt hnot.mp hclose), Received.message.injEq]
        have hup : duplicate = false ∧ isStandaloneAck ph = false ∧
            ¬ (header.isUnsecured = false ∧ isCloseReport ph body = true) :=
          ⟨by simpa using hdup, by simpa using hack, hclose⟩
        constructor
        · rintro ⟨rfl, rfl, rfl, rfl⟩
          exact ⟨hup, rfl, rfl, rfl, rfl⟩
        · rintro ⟨-, rfl, rfl, rfl, rfl⟩
          exact ⟨rfl, rfl, rfl, rfl⟩

/-- An open exchange takes the message; a close-session report then takes the session away. -/
lemma deliver_open {e : Exchange} (h : m.exchanges.find key = some e) (header : MessageHeader)
    (protocolHeader : ProtocolHeader) (body : List UInt8) (duplicate : Bool) (peer : Peer) (now : Instant) :
    ∃ m', m.deliver key header protocolHeader body duplicate peer now =
        (.ok (outcome key header protocolHeader body duplicate), m') ∧
      let heard := m.updateExchange key fun e =>
        e.hear header.messageCounter protocolHeader peer now
      ((m' = heard ∧
          outcome key header protocolHeader body duplicate ≠ .sessionClosed header.sessionId) ∨
        (m' = heard.closeSession header.sessionId ∧
          outcome key header protocolHeader body duplicate =
            .sessionClosed header.sessionId)) := by
  unfold deliver outcome
  rw [h]
  simp only
  split
  · exact ⟨_, rfl, .inl ⟨rfl, by simp⟩⟩
  · split
    · exact ⟨_, rfl, .inl ⟨rfl, by simp⟩⟩
    · split
      · exact ⟨_, rfl, .inr ⟨rfl, rfl⟩⟩
      · exact ⟨_, rfl, .inl ⟨rfl, by simp⟩⟩

/-! ## Processing -/

/-- A message that is routed succeeds, and one that is not changes nothing. -/
lemma route_of_routable {header : ProtocolHeader} (h : m.Routable session header duplicate now) :
    ∃ m', m.route session header duplicate now = (.ok (messageKey session header), m') := by
  rcases route_cases m session header duplicate now with
    ⟨e, -, hroute⟩ | ⟨-, -, -, t, -, hroute⟩ | ⟨hfind, hnot, -⟩
  · exact ⟨m, hroute⟩
  · exact ⟨_, hroute⟩
  · rcases h with ⟨e, he⟩ | hmay
    · rw [hfind] at he
      simp at he
    · exact absurd hmay hnot

lemma route_of_not_routable {header : ProtocolHeader} (h : ¬ m.Routable session header duplicate now) :
    ∃ err, m.route session header duplicate now = (.error err, m) := by
  rcases route_cases m session header duplicate now with
    ⟨e, hfind, -⟩ | ⟨-, hmay, hroom, -⟩ | ⟨-, -, herr⟩
  · exact absurd (.inl ⟨e, hfind⟩) h
  · exact absurd (.inr ⟨hmay, hroom⟩) h
  · exact herr

/-- What processing does after the counter has been judged. It fails on a malformed protocol
header, outside every unsecured context, or without an exchange to go to; otherwise the exchange
it was routed to takes the message. -/
lemma process_cases (m : Messaging S X) (header : MessageHeader) (payload : List UInt8)
    (v : Verdict) (peer : Peer) (now : Instant) : (∃ err, ProtocolHeader.decode payload = .error err ∧
      m.process header payload v peer now = (.error err, m)) ∨
    (∃ ph body, ProtocolHeader.decode payload = .ok (ph, body) ∧ ((m.outOfContext header = true ∧
          m.process header payload v peer now = (.error .noSession, m)) ∨
        (m.outOfContext header = false ∧ ¬ m.Routable header.sessionId ph (decide (v = .duplicate)) now ∧
          ∃ err, m.process header payload v peer now = (.error err, m.recordContext header)) ∨
        (m.outOfContext header = false ∧ m.Routable header.sessionId ph (decide (v = .duplicate)) now ∧
          ∃ routed, (m.recordContext header).route header.sessionId ph
              (decide (v = .duplicate)) now = (.ok (messageKey header.sessionId ph), routed) ∧
            m.process header payload v peer now =
              routed.deliver (messageKey header.sessionId ph) header ph body
                (decide (v = .duplicate)) peer now))) := by
  unfold process
  rcases hdec : ProtocolHeader.decode payload with err | ⟨ph, body⟩
  · left
    exact ⟨err, rfl, rfl⟩
  · right
    refine ⟨ph, body, rfl, ?_⟩
    have hcongr : (m.recordContext header).Routable header.sessionId ph (decide (v = .duplicate))
        now ↔ m.Routable header.sessionId ph (decide (v = .duplicate)) now := by
      simp [Routable, mayRoute]
    by_cases hout : m.outOfContext header = true
    · left
      exact ⟨hout, by simp [hout]⟩
    · right
      have hfalse : m.outOfContext header = false := by simpa using hout
      by_cases hroutable : m.Routable header.sessionId ph (decide (v = .duplicate)) now
      · right
        obtain ⟨routed, hroute⟩ := route_of_routable (hcongr.mpr hroutable)
        refine ⟨hfalse, hroutable, routed, hroute, ?_⟩
        simp [hfalse, hroute]
      · left
        obtain ⟨err, hroute⟩ := route_of_not_routable (mt hcongr.mp hroutable)
        refine ⟨hfalse, hroutable, err, ?_⟩
        simp [hfalse, hroute]

/-- After the judgement a session can only be removed, and only the one the message is on. -/
lemma sessions_process (m : Messaging S X) (header : MessageHeader) (payload : List UInt8)
    (v : Verdict) (peer : Peer) (now : Instant) :
    (m.process header payload v peer now).2.sessions = m.sessions ∨
      (m.process header payload v peer now).2.sessions = m.sessions.remove header.sessionId := by
  rcases process_cases m header payload v peer now with ⟨err, -, h⟩ | ⟨ph, body, -, hcase⟩
  · rw [h]
    exact .inl rfl
  · rcases hcase with ⟨-, h⟩ | ⟨-, -, err, h⟩ | ⟨-, -, routed, hroute, h⟩
    · rw [h]
      exact .inl rfl
    · rw [h]
      exact .inl (sessions_recordContext m header)
    · have hsessions := sessions_route (m.recordContext header) header.sessionId ph
        (decide (v = .duplicate)) now
      rw [hroute, sessions_recordContext] at hsessions
      obtain ⟨-, e, he⟩ := find_of_route hroute
      obtain ⟨m', hdeliver, hstate⟩ :=
        deliver_open he header ph body (decide (v = .duplicate)) peer now
      rw [h, hdeliver, ← hsessions]
      rcases hstate with ⟨rfl, -⟩ | ⟨rfl, -⟩
      · exact .inl rfl
      · exact .inr rfl

/-- Only an authentic message is handed up. -/
lemma authenticate_of_receive_message
    (h : (m.receive c buf peer now).1 = .ok (.message key ph needsAck body)) :
    ∃ sid header payload, m.authenticate c buf = .ok (.message sid header payload) := by
  unfold receive at h
  rcases hauth : m.authenticate c buf with err | ⟨sid⟩ | ⟨sid, header, payload⟩
  · simp [hauth] at h
  · simp [hauth] at h
  · exact ⟨sid, header, payload, rfl⟩

/-- An authentic message in context with an exchange to go to is delivered to that exchange. -/
lemma receive_routed (hauth : m.authenticate c buf = .ok (.message sid header payload))
    (hdec : ProtocolHeader.decode payload = .ok (ph, body)) (hctx : m.outOfContext header = false)
    (hroutable : m.Routable header.sessionId ph (decide (m.verdict header = .duplicate)) now)
    (peer : Peer) : ∃ routed, ((m.judged header peer now).recordContext header).route header.sessionId ph
          (decide (m.verdict header = .duplicate)) now = (.ok (messageKey header.sessionId ph), routed) ∧
      m.receive c buf peer now = routed.deliver (messageKey header.sessionId ph) header ph body
        (decide (m.verdict header = .duplicate)) peer now := by
  rw [receive_message hauth]
  rcases process_cases (m.judged header peer now) header payload (m.verdict header) peer now with
    ⟨err, herr, -⟩ | ⟨ph', body', hdec', hcase⟩
  · rw [hdec] at herr
    simp at herr
  · obtain ⟨rfl, rfl⟩ := ok_pair_inj hdec hdec'
    rw [outOfContext_judged, routable_judged] at hcase
    rcases hcase with ⟨hout, -⟩ | ⟨-, hnot, -⟩ | ⟨-, -, hrouted⟩
    · rw [hctx] at hout
      simp at hout
    · exact absurd hroutable hnot
    · exact hrouted

/-- A message that is handed up was authentic and new, and its protocol header is the one its
payload begins with. -/
lemma receive_eq_message {m m' : Messaging S X}
    (h : m.receive c buf peer now = (.ok (.message key ph needsAck body), m')) :
    ∃ sid header payload, m.authenticate c buf = .ok (.message sid header payload) ∧
      ProtocolHeader.decode payload = .ok (ph, body) ∧ m.verdict header = .new ∧
      key = messageKey header.sessionId ph ∧ m'.sessions = (m.judged header peer now).sessions := by
  obtain ⟨sid, header, payload, hauth⟩ := authenticate_of_receive_message (congrArg Prod.fst h)
  rw [receive_message hauth] at h
  refine ⟨sid, header, payload, hauth, ?_⟩
  rcases process_cases (m.judged header peer now) header payload (m.verdict header) peer now with
    ⟨err, -, heq⟩ | ⟨ph', body', hdec, hcase⟩
  · rw [heq] at h
    simp at h
  · rcases hcase with ⟨-, heq⟩ | ⟨-, -, err, heq⟩ | ⟨-, -, routed, hroute, heq⟩
    · rw [heq] at h
      simp at h
    · rw [heq] at h
      simp at h
    · have hsessions := sessions_route ((m.judged header peer now).recordContext header)
        header.sessionId ph' (decide (m.verdict header = .duplicate)) now
      rw [hroute, sessions_recordContext] at hsessions
      obtain ⟨-, e, he⟩ := find_of_route hroute
      obtain ⟨final, hdeliver, hstate⟩ :=
        deliver_open he header ph' body' (decide (m.verdict header = .duplicate)) peer now
      rw [heq, hdeliver] at h
      obtain ⟨hmsg, rfl⟩ : _ ∧ _ := by simpa using h
      obtain ⟨⟨hdup, -, -⟩, rfl, rfl, -, rfl⟩ := outcome_eq_message_iff.mp hmsg
      refine ⟨hdec, Verdict.decide_eq_duplicate.mp hdup, rfl, ?_⟩
      rcases hstate with ⟨rfl, -⟩ | ⟨-, hclosed⟩
      · exact hsessions
      · rw [hmsg] at hclosed
        simp at hclosed

/-! ## Unsecured datagrams -/

/-- The octets of an unsecured message, as a peer frames it. -/
def unsecuredDatagram (header : MessageHeader) (ph : ProtocolHeader) (body : List UInt8) :
    List UInt8 :=
  header.octets ++ (ph.octets ++ body)

/-- A framed unsecured message is authenticated as what it is. -/
lemma authenticate_unsecuredDatagram (c : Crypto) (m : Messaging S X) (header : MessageHeader)
    (h : header.isUnsecured = true) (ph : ProtocolHeader) (body : List UInt8) :
    m.authenticate c (unsecuredDatagram header ph body) =
        .ok (.message .unsecured header (ph.octets ++ body)) ∧
      ProtocolHeader.decode (ph.octets ++ body) = .ok (ph, body) := by
  refine ⟨?_, ProtocolHeader.decode_octets_append ph body⟩
  have hdecode : MessageHeader.decode (unsecuredDatagram header ph body) =
      .ok (header, ph.octets ++ body) := MessageHeader.decode_octets_append header _
  obtain ⟨htype, hid⟩ : header.sessionType = .unicast ∧ header.sessionId.val = 0 := by
    simpa [MessageHeader.isUnsecured] using h
  have hsid : header.sessionId = .unsecured := by
    rcases hs : header.sessionId with ⟨v⟩
    rw [hs] at hid
    exact congrArg SessionId.mk hid
  unfold authenticate
  rw [preview_of_decode hdecode]
  simp [htype, hsid, hdecode, h]

/-- A stranger's first message: unsecured, from an initiator, reliable, on the Secure Channel. -/
def hello (source : UInt64) (counter : UInt32) (exchangeId : UInt16) : List UInt8 :=
  unsecuredDatagram { messageCounter := counter, source := some ⟨source⟩ }
    { initiator := true
      acknowledgedCounter := none
      reliability := true
      exchangeId := ⟨exchangeId⟩
      protocol := .secureChannel
      opcode := 0x20 } []

/-- A peer on the local host. -/
def udpPeer (port : UInt16) : Peer := .udp ⟨Vector.replicate 16 0, port, 0⟩

end Messaging

end MatterKit
