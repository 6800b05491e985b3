import MatterKit.Messaging.Receive
import MatterKit.Messaging.Run

/-!
# The acknowledgement a timer asks for

When the acknowledgement timer of an exchange fires, `poll` answers `Due::Acknowledge` and its
documentation says that "`Messaging::acknowledge` writes it". The counter to acknowledge is owned by the
exchange's `Mrp`, and `on_timeout` clears it as it reports it; `poll` drops the report. So the following
`acknowledge` finds nothing owed: it succeeds with an empty datagram, on every state, and the peer is
never acknowledged (`acknowledge_after_poll`).
-/

namespace MatterKit

open Lib

variable {S X : ℕ}

/-- A timeout that asks for an acknowledgement has just forgotten which. -/
lemma Mrp.onTimeout_sendStandaloneAck {m m' : Mrp} {now : Instant} {r counter : UInt32}
    (h : m.onTimeout now r = (.sendStandaloneAck counter, m')) :
    ∃ ack, m.pendingAck = some ack ∧ ack.deadline ≤ now ∧ ack.counter = counter ∧
      m'.pendingAck = none := by
  by_cases hdue : m.due now
  · rcases onTimeout_cases hdue r with
      ⟨ack, hsome, hle, heq⟩ | ⟨tx, -, -, -, heq⟩ | ⟨tx, at', -, -, -, heq⟩
    · rw [heq] at h
      simp only [Prod.mk.injEq, OnTimeout.sendStandaloneAck.injEq] at h
      obtain ⟨rfl, rfl⟩ := h
      exact ⟨ack, hsome, hle, rfl, rfl⟩
    · rw [heq] at h
      simp at h
    · rw [heq] at h
      simp at h
  · rw [onTimeout_of_not_due hdue] at h
    simp at h

namespace Messaging

/-- A `poll` that asks for an acknowledgement found an exchange that owes one, and leaves it owing
none. -/
lemma poll_acknowledge {m m' : Messaging S X} {now : Instant} {r : UInt32} {key : ExchangeKey}
    (h : m.poll now r = (some (.acknowledge key), m')) : (∃ e ∈ m.exchanges.entries, e.key = key ∧
        ∃ ack, e.mrp.pendingAck = some ack ∧ ack.deadline ≤ now) ∧
      ∃ e', m'.exchanges.find key = some e' ∧ e'.mrp.pendingAck = none := by
  unfold poll at h
  simp only at h
  split at h
  · simp at h
  · rename_i first hfirst
    split at h
    · simp at h
    · rename_i e he
      obtain ⟨hmem, hkey⟩ := ExchangeTable.find_eq_some he
      rcases htimeout : e.mrp.onTimeout now r with ⟨action, mrp⟩
      rw [htimeout] at h
      cases action with
      | sendStandaloneAck counter =>
        simp only [Prod.mk.injEq, Option.some.injEq, Due.acknowledge.injEq] at h
        obtain ⟨rfl, rfl⟩ := h
        obtain ⟨ack, hack, hle, -, hnone⟩ := Mrp.onTimeout_sendStandaloneAck htimeout
        refine ⟨⟨e, List.mem_of_mem_filter hmem, hkey, ack, hack, hle⟩, ?_⟩
        refine ⟨{ e with mrp := mrp }, ?_, hnone⟩
        have hfind := ExchangeTable.find_modify (m.reap now).exchanges first.key first.key
          (f := fun e' => { e' with mrp := mrp }) fun _ => rfl
        rw [if_pos rfl, he] at hfind
        exact hfind
      | retransmit counter attempt | giveUp counter | nothing => simp at h

/-- On an exchange that owes nothing `acknowledge` writes nothing. -/
lemma acknowledge_of_pendingAck_none (c : Crypto) {m : Messaging S X} {key : ExchangeKey}
    {e : Exchange} (hfind : m.exchanges.find key = some e) (hnone : e.mrp.pendingAck = none)
    (now : Instant) (outLen : ℕ) :
    m.acknowledge c key now outLen = (.ok [], m.closeIfEphemeral key e.ephemeral) := by
  unfold acknowledge
  rw [hfind]
  simp only [Mrp.takePiggyback, hnone, Option.map_none]

/-- **The owed acknowledgement is never sent.** Whenever `poll` returns `Due::Acknowledge`, an
exchange of the state before it does owe an acknowledgement, and the following `acknowledge` on
that exchange, at any time and with any buffer, returns `Ok(0)`. -/
theorem acknowledge_after_poll (c : Crypto) {m m' : Messaging S X} {now : Instant} {r : UInt32}
    {key : ExchangeKey} (h : m.poll now r = (some (.acknowledge key), m')) :
    (∃ e ∈ m.exchanges.entries, e.key = key ∧ ∃ ack, e.mrp.pendingAck = some ack ∧ ack.deadline ≤ now) ∧
      ∀ (at' : Instant) (outLen : ℕ), (m'.acknowledge c key at' outLen).1 = .ok [] := by
  obtain ⟨howed, e', hfind, hnone⟩ := poll_acknowledge h
  refine ⟨howed, ?_⟩
  intro at' outLen
  rw [acknowledge_of_pendingAck_none c hfind hnone]

/-- A reliable message arrives, its acknowledgement timer fires 200 ms later, and nothing is left
for `acknowledge` to send: the peer waiting on counter 5 gets an empty datagram. -/
theorem acknowledge_lost_at_deadline :
    let m : Messaging 2 2 := (Messaging.new 1 1 0).after .tagByKey
      (.receive (hello 77 5 9) (udpPeer 5540) ⟨0⟩)
    let key : ExchangeKey := ⟨.unsecured, ⟨9⟩, .responder⟩
    Reachable .tagByKey m ∧
      ((m.exchanges.find key).bind fun e => e.mrp.pendingAck) = some ⟨5, ⟨200000⟩⟩ ∧
      (m.poll ⟨200000⟩ 0).1 = some (.acknowledge key) ∧
      ((m.poll ⟨200000⟩ 0).2.acknowledge .tagByKey key ⟨200000⟩ 1280).1 = .ok [] := by
  refine ⟨?_, by decide +kernel, by decide +kernel, by decide +kernel⟩
  exact (Reachable.new 1 1 0).step _ trivial

/-- The theorem above at that state. -/
theorem acknowledge_after_poll_hello :
    let m : Messaging 2 2 := ((Messaging.new 1 1 0).receive .tagByKey (hello 77 5 9) (udpPeer 5540) ⟨0⟩).2
    let key : ExchangeKey := ⟨.unsecured, ⟨9⟩, .responder⟩
    (∃ e ∈ m.exchanges.entries, e.key = key ∧
        ∃ ack, e.mrp.pendingAck = some ack ∧ ack.deadline ≤ ⟨200000⟩) ∧
      ∀ (at' : Instant) (outLen : ℕ),
        ((m.poll ⟨200000⟩ 0).2.acknowledge .tagByKey key at' outLen).1 = .ok [] := by
  intro m key
  have hpoll : (m.poll ⟨200000⟩ 0).1 = some (.acknowledge key) := by decide +kernel
  exact acknowledge_after_poll .tagByKey (Prod.ext hpoll rfl)

end Messaging

end MatterKit
