import MatterKit.Lib.Result
import MatterKit.Platform

/-!
# The Message Reliability Protocol

One exchange's reliability state, `Mrp` of `exchange/mrp.rs`: at most one message awaiting
acknowledgement and at most one acknowledgement owed.

* **Deadlines** (`due_iff`): a timer is due at `now` exactly when the acknowledgement or the
  retransmission is.
* **A due timer always does something** (`onTimeout_cases`): `onTimeout` releases the owed
  acknowledgement, or counts one more transmission, or gives up.
* **The ladder is finite** (`pendingWork_clear_ack`, `pendingWork_retransmit`): every timeout that does
  not give up strictly lowers `pendingWork`, whatever the peer's intervals are, zero included.
-/

namespace MatterKit

/-! ## Parameters -/

/-- Source: `MRP_MAX_TRANSMISSIONS`. -/
def mrpMaxTransmissions : UInt32 := 5

/-- Source: `MRP_BACKOFF_THRESHOLD`. -/
def mrpBackoffThreshold : ℕ := 1

/-- Source: `MRP_STANDALONE_ACK_TIMEOUT`. -/
def mrpStandaloneAckTimeout : Duration := .fromMillis 200

/-- The peer's retry parameters.
Source: `MrpParams`. -/
structure MrpParams where
  idleInterval : Duration
  activeInterval : Duration
  activeThreshold : Duration
  deriving DecidableEq

namespace MrpParams

/-- Source: `MrpParams::default`. -/
def default : MrpParams := ⟨.fromMillis 500, .fromMillis 300, .fromMillis 4000⟩

/-- Source: `MrpParams::clamped`. -/
def clamped (p : MrpParams) : MrpParams where
  idleInterval := min p.idleInterval (.fromMillis 3600000)
  activeInterval := min p.activeInterval (.fromMillis 3600000)
  activeThreshold := min p.activeThreshold (.fromMillis 65535)

/-- Source: `MrpParams::base_interval`. -/
def baseInterval (p : MrpParams) (peerActive : Bool) : Duration :=
  (if peerActive then p.activeInterval else p.idleInterval).mulRatio 11 10

end MrpParams

/-- The retransmission timeout for the `n`-th attempt, without jitter.
Source: `backoff`. -/
def backoff (baseInterval : Duration) (n : UInt32) : Duration :=
  (fun d : Duration => d.mulRatio 16 10)^[n.toNat - mrpBackoffThreshold] baseInterval

/-- Source: `with_jitter`. -/
def withJitter (backoff : Duration) (randomness : UInt32) : Duration :=
  backoff.saturatingAdd (backoff.mulRatio (randomness.toUInt64 % 65536) (65536 * 4))

/-! ## The state machine -/

/-- A message awaiting acknowledgement; `sent` is one after the original transmission.
Source: `PendingTx`. -/
structure PendingTx where
  counter : UInt32
  sent : UInt32
  deadline : Instant
  deriving DecidableEq

/-- An acknowledgement owed to the peer.
Source: `PendingAck`. -/
structure PendingAck where
  counter : UInt32
  deadline : Instant
  deriving DecidableEq

/-- Source: `OnTimeout`. -/
inductive OnTimeout
  | retransmit (counter attempt : UInt32)
  | sendStandaloneAck (counter : UInt32)
  | giveUp (counter : UInt32)
  | nothing
  deriving DecidableEq

/-- One exchange's reliability state.
Source: `Mrp`. -/
structure Mrp where
  params : MrpParams
  pendingTx : Option PendingTx
  pendingAck : Option PendingAck
  lastHeard : Option Instant
  deriving DecidableEq

namespace Mrp

/-- Source: `Mrp::new`. -/
def new (params : MrpParams) : Mrp := ⟨params.clamped, none, none, none⟩

/-- Source: `Mrp::is_awaiting_ack`. -/
def isAwaitingAck (m : Mrp) : Bool := m.pendingTx.isSome

/-- Source: `Mrp::peer_active`. -/
def peerActive (m : Mrp) (now : Instant) : Bool :=
  match m.lastHeard with
  | some t => decide (now.saturatingDurationSince t < m.params.activeThreshold)
  | none => false

/-- Source: `Mrp::note_peer_activity`. -/
def notePeerActivity (m : Mrp) (now : Instant) : Mrp := { m with lastHeard := some now }

/-- When the timer of the transmission made after `n` earlier ones expires: the computation that
`on_send` and `on_timeout` share. -/
def retryAt (m : Mrp) (n : UInt32) (now : Instant) (randomness : UInt32) : Instant :=
  let base := m.params.baseInterval (m.peerActive now)
  now.saturatingAdd (withJitter (backoff base n) randomness)

/-- Records a reliable message that has just been sent; only one may be pending.
Source: `Mrp::on_send`. -/
def onSend (m : Mrp) (counter : UInt32) (now : Instant) (randomness : UInt32) :
    Except ErrorCode Mrp :=
  if m.pendingTx.isSome then .error .busy
  else .ok { m with pendingTx := some ⟨counter, 1, m.retryAt 0 now randomness⟩ }

/-- The counter to piggyback on the next outbound message, which clears it.
Source: `Mrp::take_piggyback`. -/
def takePiggyback (m : Mrp) : Option UInt32 × Mrp :=
  (m.pendingAck.map (·.counter), { m with pendingAck := none })

/-- Records an arriving reliable message, duplicate or not.
Source: `Mrp::on_reliable_received`. -/
def onReliableReceived (m : Mrp) (counter : UInt32) (now : Instant) : Mrp :=
  { m.notePeerActivity now with
    pendingAck := some ⟨counter, now.saturatingAdd mrpStandaloneAckTimeout⟩ }

/-- Records an acknowledgement from the peer.
Source: `Mrp::on_ack`. -/
def onAck (m : Mrp) (counter : UInt32) (now : Instant) : Mrp :=
  let m := m.notePeerActivity now
  match m.pendingTx with
  | some tx => if tx.counter = counter then { m with pendingTx := none } else m
  | none => m

/-- The next instant at which `onTimeout` has something to do.
Source: `Mrp::poll_deadline`. -/
def pollDeadline (m : Mrp) : Option Instant :=
  match m.pendingTx, m.pendingAck with
  | some tx, some ack => some (min tx.deadline ack.deadline)
  | some tx, none => some tx.deadline
  | none, some ack => some ack.deadline
  | none, none => none

/-- The retransmission half of `onTimeout`. Where it counts a transmission, fewer than five have
been made, so the saturating addition of the source is an addition.
Source: `Mrp::on_timeout`, from `if let Some(tx) = self.pending_tx`. -/
def onTimeoutTx (m : Mrp) (now : Instant) (randomness : UInt32) : OnTimeout × Mrp :=
  match m.pendingTx with
  | some tx =>
    if tx.deadline.isElapsedAt now then
      if mrpMaxTransmissions ≤ tx.sent then
        (.giveUp tx.counter, { m with pendingTx := none })
      else
        (.retransmit tx.counter tx.sent,
          { m with
            pendingTx := some ⟨tx.counter, tx.sent + 1, m.retryAt tx.sent now randomness⟩ })
    else (.nothing, m)
  | none => (.nothing, m)

/-- Handles a deadline that has passed: the owed acknowledgement first.
Source: `Mrp::on_timeout`. -/
def onTimeout (m : Mrp) (now : Instant) (randomness : UInt32) : OnTimeout × Mrp :=
  match m.pendingAck with
  | some ack =>
    if ack.deadline.isElapsedAt now then
      (.sendStandaloneAck ack.counter, { m with pendingAck := none })
    else m.onTimeoutTx now randomness
  | none => m.onTimeoutTx now randomness

/-! ## What a timeout can do -/

/-- Whether some timer of the exchange has expired. -/
def due (m : Mrp) (now : Instant) : Prop := ∃ t, m.pollDeadline = some t ∧ t ≤ now

variable {m : Mrp} {now : Instant}

/-- A timer is due exactly when the acknowledgement or the retransmission is. -/
lemma due_iff : m.due now ↔ (∃ ack, m.pendingAck = some ack ∧ ack.deadline ≤ now) ∨
      (∃ tx, m.pendingTx = some tx ∧ tx.deadline ≤ now) := by
  unfold due pollDeadline
  rcases m.pendingTx with _ | tx <;> rcases m.pendingAck with _ | ack <;> simp [or_comm]

/-- The three things a due timer can cause, each with its guard. -/
lemma onTimeout_cases (h : m.due now) (r : UInt32) : (∃ ack, m.pendingAck = some ack ∧ ack.deadline ≤ now ∧
      m.onTimeout now r = (.sendStandaloneAck ack.counter, { m with pendingAck := none })) ∨
    (∃ tx, m.pendingTx = some tx ∧ tx.deadline ≤ now ∧ mrpMaxTransmissions ≤ tx.sent ∧
      m.onTimeout now r = (.giveUp tx.counter, { m with pendingTx := none })) ∨
    (∃ tx at', m.pendingTx = some tx ∧ tx.deadline ≤ now ∧ ¬ mrpMaxTransmissions ≤ tx.sent ∧
      m.onTimeout now r = (.retransmit tx.counter tx.sent,
        { m with pendingTx := some ⟨tx.counter, tx.sent + 1, at'⟩ })) := by
  by_cases hack : ∃ ack, m.pendingAck = some ack ∧ ack.deadline ≤ now
  · obtain ⟨ack, hsome, hle⟩ := hack
    left
    exact ⟨ack, hsome, hle, by simp [onTimeout, hsome, Instant.isElapsedAt, hle]⟩
  · obtain ⟨tx, hsome, hle⟩ := (due_iff.mp h).resolve_left hack
    have hskip : m.onTimeout now r = m.onTimeoutTx now r := by
      unfold onTimeout
      rcases hp : m.pendingAck with _ | ack
      · rfl
      · have hnot : ¬ ack.deadline ≤ now := fun hle' => hack ⟨ack, hp, hle'⟩
        simp [Instant.isElapsedAt, hnot]
    right
    by_cases hmax : mrpMaxTransmissions ≤ tx.sent
    · left
      refine ⟨tx, hsome, hle, hmax, ?_⟩
      rw [hskip]
      simp [onTimeoutTx, hsome, Instant.isElapsedAt, hle, hmax]
    · right
      refine ⟨tx, m.retryAt tx.sent now r, hsome, hle, hmax, ?_⟩
      rw [hskip]
      simp [onTimeoutTx, hsome, Instant.isElapsedAt, hle, hmax]

/-- Without a due timer nothing happens. -/
lemma onTimeout_of_not_due (h : ¬ m.due now) (r : UInt32) : m.onTimeout now r = (.nothing, m) := by
  rw [due_iff, not_or] at h
  obtain ⟨hack, htx⟩ := h
  have htx' : m.onTimeoutTx now r = (.nothing, m) := by
    unfold onTimeoutTx
    rcases hp : m.pendingTx with _ | tx
    · rfl
    · have hnot : ¬ tx.deadline ≤ now := fun hle => htx ⟨tx, hp, hle⟩
      simp [Instant.isElapsedAt, hnot]
  unfold onTimeout
  rcases hp : m.pendingAck with _ | ack
  · exact htx'
  · have hnot : ¬ ack.deadline ≤ now := fun hle => hack ⟨ack, hp, hle⟩
    simpa [Instant.isElapsedAt, hnot] using htx'

/-! ## The ladder is finite -/

/-- How many timeouts the exchange can still produce without hearing from anybody: one for an
owed acknowledgement, and one for each transmission a pending message has left. -/
def pendingWork (m : Mrp) : ℕ :=
  m.pendingAck.toList.length +
    (m.pendingTx.elim 0 fun tx => mrpMaxTransmissions.toNat + 1 - tx.sent.toNat)

lemma pendingWork_clear_ack {ack : PendingAck} (h : m.pendingAck = some ack) :
    ({ m with pendingAck := none } : Mrp).pendingWork < m.pendingWork := by
  simp [pendingWork, h]

lemma pendingWork_retransmit {tx : PendingTx} (h : m.pendingTx = some tx)
    (hmax : ¬ mrpMaxTransmissions ≤ tx.sent) (at' : Instant) :
    ({ m with pendingTx := some ⟨tx.counter, tx.sent + 1, at'⟩ } : Mrp).pendingWork <
      m.pendingWork := by
  have hlt : tx.sent.toNat < 5 := by
    have := UInt32.not_le.mp hmax
    exact UInt32.lt_iff_toNat_lt.mp this
  have hsucc : (tx.sent + 1).toNat = tx.sent.toNat + 1 := by
    rw [UInt32.toNat_add]
    have : (1 : UInt32).toNat = 1 := rfl
    omega
  simp only [pendingWork, h, Option.elim_some, hsucc]
  have : mrpMaxTransmissions.toNat = 5 := rfl
  omega

end Mrp

end MatterKit
