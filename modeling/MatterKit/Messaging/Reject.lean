import MatterKit.Messaging.Receive
import MatterKit.Messaging.Run

/-!
# What a rejected datagram leaves behind

The documentation of `receive` promises that on any failure "nothing in this node's state has moved".
The replay window, the peer's address and the timestamps move right after authentication, and the
unsecured context before routing; the protocol header, the context check and the routing can still fail
after that. So the promise holds exactly when nothing fails after authentication or nothing was left to
record (`receive_error_unchanged_iff`).
-/

namespace MatterKit

open Lib

variable {S X : ℕ}

namespace Messaging

/-- Whether a message goes all the way: its protocol header is well formed, it belongs to a context
and it finds an exchange. -/
def Accepted (m : Messaging S X) (header : MessageHeader) (payload : List UInt8)
    (now : Instant) : Prop :=
  ∃ ph body, ProtocolHeader.decode payload = .ok (ph, body) ∧ m.outOfContext header = false ∧
    m.Routable header.sessionId ph (decide (m.verdict header = .duplicate)) now

/-- Whether the judgement of a message has nothing to record: its counter is a duplicate and, on a
secure session, the peer was last heard from at that address and at that very instant. -/
def NothingToRecord (m : Messaging S X) (header : MessageHeader) (peer : Peer) (now : Instant) : Prop :=
  if header.isUnsecured then m.unsecuredWindow.wouldAccept header.messageCounter = .duplicate
  else
    ∀ s, m.sessions.find header.sessionId = some s →
      s.window.wouldAccept header.messageCounter = .duplicate ∧ s.peer = some peer ∧
        s.sessionTimestamp = now ∧ s.activeTimestamp = now

/-- Whether the unsecured context already is that of the message, if it is unsecured and names a
source. -/
def ContextKept (m : Messaging S X) (header : MessageHeader) : Prop :=
  header.isUnsecured = true → ∀ source, header.source = some source →
    ∃ context, m.unsecuredPeer = some context ∧ context.ephemeralInitiator = source

variable {peer : Peer} {now : Instant} {m : Messaging S X} {header : MessageHeader}
  {buf payload : List UInt8} {sid : SessionId}

/-- Hearing a message leaves a session as it was exactly when there is nothing to record. -/
lemma hear_eq_self_iff {s : SecureSession} {counter : UInt32} :
    (s.hear counter peer now).2 = s ↔ s.window.wouldAccept counter = .duplicate ∧
      s.peer = some peer ∧ s.sessionTimestamp = now ∧ s.activeTimestamp = now := by
  rw [← CounterWindow.accept_snd_eq_self_iff]
  unfold SecureSession.hear SecureSession.acceptCounter
  constructor
  · intro h
    refine ⟨congrArg SecureSession.window h, ?_, ?_, ?_⟩
    · exact (congrArg SecureSession.peer h).symm
    · exact (congrArg SecureSession.sessionTimestamp h).symm
    · exact (congrArg SecureSession.activeTimestamp h).symm
  · intro ⟨hwindow, hpeer, hsession, hactive⟩
    obtain ⟨a, b, c, d, e, f, g, h, i, j, k, l, o, p, q⟩ := s
    simp_all

/-- The judgement leaves the state as it was exactly when there is nothing to record. -/
lemma judged_eq_self_iff : m.judged header peer now = m ↔ m.NothingToRecord header peer now := by
  unfold judged NothingToRecord
  by_cases hunsec : header.isUnsecured = true
  · rw [if_pos hunsec, if_pos hunsec, ← CounterWindow.accept_snd_eq_self_iff]
    constructor
    · intro h
      exact congrArg Messaging.unsecuredWindow h
    · intro h
      rw [h]
  · rw [if_neg hunsec, if_neg hunsec]
    constructor
    · intro h s hs
      have hentries : modifyFirst (fun s => decide (s.localSessionId = header.sessionId))
          (fun s => (s.hear header.messageCounter peer now).2) m.sessions.entries =
            m.sessions.entries := congrArg (fun m => m.sessions.entries) h
      exact hear_eq_self_iff.mp (modifyFirst_eq_self_iff.mp hentries s hs)
    · intro h
      have hentries := modifyFirst_eq_self_iff.mpr fun s hs => hear_eq_self_iff.mpr (h s hs)
      obtain ⟨⟨⟨l, hl⟩, next⟩, rest⟩ := m
      simpa [updateSession, SessionTable.modify, BoundedVec.update, SessionTable.entries] using hentries

/-- Recording the context leaves it as it was exactly when it is already that of the message. -/
lemma recordContext_eq_self_iff : m.recordContext header = m ↔ m.ContextKept header := by
  unfold recordContext ContextKept
  rcases hunsec : header.isUnsecured with _ | _
  · simp
  · rcases hsource : header.source with _ | source
    · simp
    · rcases hcontext : m.unsecuredPeer with _ | context
      · simp only [Option.all_none, if_true]
        constructor
        · intro h
          have hpeer := congrArg Messaging.unsecuredPeer h
          rw [hcontext] at hpeer
          simp at hpeer
        · intro h
          obtain ⟨context, hsome, -⟩ := h trivial source rfl
          simp at hsome
      · by_cases hsame : context.ephemeralInitiator = source
        · simp [hsame]
        · simp only [Option.all_some, hsame, ne_eq, not_false_eq_true, decide_true, if_true]
          constructor
          · intro h
            have hpeer := congrArg Messaging.unsecuredPeer h
            rw [hcontext] at hpeer
            simp only [Option.some.injEq] at hpeer
            exact absurd (congrArg UnsecuredPeer.ephemeralInitiator hpeer.symm) hsame
          · intro h
            obtain ⟨context', hsome, hsource'⟩ := h trivial source rfl
            simp only [Option.some.injEq] at hsome
            rw [← hsome] at hsource'
            exact absurd hsource' hsame

/-- The judgement and the context record touch different fields, so that neither undoes the
other. -/
lemma recordContext_judged_eq_self_iff : (m.judged header peer now).recordContext header = m ↔
      m.NothingToRecord header peer now ∧ m.ContextKept header := by
  rw [← judged_eq_self_iff, ← recordContext_eq_self_iff]
  constructor
  · intro h
    have hjudged : m.judged header peer now = m := by
      obtain ⟨context, hrecord⟩ := recordContext_eq (m.judged header peer now) header
      rw [hrecord] at h
      calc m.judged header peer now
          = { m.judged header peer now with unsecuredPeer := m.unsecuredPeer } := by
            rw [← unsecuredPeer_judged m header peer now]
        _ = { ({ m.judged header peer now with unsecuredPeer := context } : Messaging S X) with
              unsecuredPeer := m.unsecuredPeer } := rfl
        _ = m := by rw [h]
    rw [hjudged] at h
    exact ⟨hjudged, h⟩
  · intro ⟨hjudged, hrecord⟩
    rw [hjudged, hrecord]

/-- An accepted message is not an error. -/
lemma receive_of_accepted {c : Crypto} (h : m.authenticate c buf = .ok (.message sid header payload))
    (ha : m.Accepted header payload now) (peer : Peer) :
    ∃ r m', m.receive c buf peer now = (.ok r, m') := by
  obtain ⟨ph, body, hdec, hctx, hroutable⟩ := ha
  obtain ⟨routed, hroute, heq⟩ := receive_routed h hdec hctx hroutable peer
  obtain ⟨-, e, he⟩ := find_of_route hroute
  obtain ⟨m', hdeliver, -⟩ := deliver_open he header ph body
    (decide (m.verdict header = .duplicate)) peer now
  exact ⟨_, _, heq.trans hdeliver⟩

/-- A message that is not accepted is an error, and leaves exactly what was recorded before it was
found out: the judgement and, once the protocol header has been read, the context. -/
lemma receive_of_not_accepted {c : Crypto} (h : m.authenticate c buf = .ok (.message sid header payload))
    (ha : ¬ m.Accepted header payload now) (peer : Peer) : ∃ err, m.receive c buf peer now = (.error err,
      match ProtocolHeader.decode payload with
      | .error _ => m.judged header peer now
      | .ok _ => (m.judged header peer now).recordContext header) := by
  rw [receive_message h]
  rcases process_cases (m.judged header peer now) header payload (m.verdict header) peer now with
    ⟨err, hdec, heq⟩ | ⟨ph, body, hdec, hcase⟩
  · exact ⟨err, by rw [heq, hdec]⟩
  · rw [outOfContext_judged, routable_judged] at hcase
    rcases hcase with ⟨hout, heq⟩ | ⟨-, -, err, heq⟩ | ⟨hctx, hroutable, -⟩
    · refine ⟨.noSession, ?_⟩
      have hsource : header.source = none := by
        unfold outOfContext at hout
        simp only [Bool.and_eq_true, Option.isNone_iff_eq_none] at hout
        exact hout.1.2
      have hkeep : (m.judged header peer now).recordContext header = m.judged header peer now := by
        rw [recordContext_eq_self_iff]
        intro _ source hsome
        rw [hsource] at hsome
        simp at hsome
      rw [heq, hdec, hkeep]
    · exact ⟨err, by rw [heq, hdec]⟩
    · exact absurd ⟨ph, body, hdec, hctx, hroutable⟩ ha

/-- **A rejected datagram changes nothing exactly when** every message it can carry is accepted, or
there is nothing to record about it: the judgement has nothing to record, and the context is kept
unless the protocol header is too malformed to get that far. -/
theorem receive_error_unchanged_iff (c : Crypto) (m : Messaging S X) (buf : List UInt8)
    (peer : Peer) (now : Instant) :
    (∀ e, (m.receive c buf peer now).1 = .error e → (m.receive c buf peer now).2 = m) ↔
      ∀ sid header payload, m.authenticate c buf = .ok (.message sid header payload) →
        m.Accepted header payload now ∨ (m.NothingToRecord header peer now ∧
            (m.ContextKept header ∨ ∀ r, ProtocolHeader.decode payload ≠ .ok r)) := by
  constructor
  · intro hkeep sid header payload hauth
    by_cases ha : m.Accepted header payload now
    · exact .inl ha
    · right
      obtain ⟨err, heq⟩ := receive_of_not_accepted hauth ha peer
      rw [heq] at hkeep
      have hsame := hkeep err rfl
      rcases hdec : ProtocolHeader.decode payload with e | r
      · rw [hdec] at hsame
        exact ⟨judged_eq_self_iff.mp hsame, .inr fun r => by simp⟩
      · rw [hdec] at hsame
        obtain ⟨hrecord, hctx⟩ := recordContext_judged_eq_self_iff.mp hsame
        exact ⟨hrecord, .inl hctx⟩
  · intro hcond e herr
    rcases hauth : m.authenticate c buf with err | ⟨sid⟩ | ⟨sid, header, payload⟩
    · unfold receive
      rw [hauth]
    · unfold receive
      rw [hauth]
    · rcases hcond sid header payload hauth with ha | ⟨hrecord, hctx⟩
      · obtain ⟨r, m', heq⟩ := receive_of_accepted hauth ha peer
        rw [heq] at herr
        simp at herr
      · by_cases ha : m.Accepted header payload now
        · obtain ⟨r, m', heq⟩ := receive_of_accepted hauth ha peer
          rw [heq] at herr
          simp at herr
        · obtain ⟨err, heq⟩ := receive_of_not_accepted hauth ha peer
          rw [heq]
          rcases hdec : ProtocolHeader.decode payload with err' | r
          · exact judged_eq_self_iff.mpr hrecord
          · rcases hctx with hctx | hnone
            · exact recordContext_judged_eq_self_iff.mpr ⟨hrecord, hctx⟩
            · exact absurd hdec (hnone r)

/-- A datagram that ends after its message header is refused, and yet its counter is taken: the
window of a fresh node has moved. -/
theorem receive_error_moves_window :
    let m : Messaging 2 2 := .new 1 1 0
    let buf := MessageHeader.octets { messageCounter := 5, source := some ⟨77⟩ }
    Reachable .tagByKey m ∧
      (m.receive .tagByKey buf (udpPeer 5540) ⟨0⟩).1 = .error .messageTruncated ∧
      (m.receive .tagByKey buf (udpPeer 5540) ⟨0⟩).2.unsecuredWindow ≠ m.unsecuredWindow := by
  intro m buf
  exact ⟨.new 1 1 0, by decide +kernel, by decide +kernel⟩

end Messaging

end MatterKit
