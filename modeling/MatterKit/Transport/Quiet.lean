import MatterKit.Transport.Link

/-!
# Progress on a link, and rest

What a link does with nothing but its own two sessions to drive it. As long as an end has a message to
send, the link does not lock up: with nothing under way some session has a packet to write, at any
instant (`never_stuck`). When neither end has a message left, what goes on is acknowledgements of
acknowledgements. At one instant that comes to an end exactly when the window is at least four and there
is an instant after it (`settles_iff`).

An exchange is a sequence of packets written and packets taken at one instant, with messages that are
whole taken on the way.
-/

namespace MatterKit.Btp

open Lib TwoSided

variable {N : ℕ} {params : SessionParams} {l : Link N} {d : Role → Party}

namespace Models

/-- An end that owes an acknowledgement and may send has a packet to write when its own window has two
free places at most, or its timer is due. -/
lemma ready_of_pending (h : Models params l d) {r : Role} {now : Instant}
    (hpending : (d r).acknowledged < (d r).received) (hcan : Duplex.CanSend params.window.toNat d r)
    (hdue : params.window.toNat ≤ (d r).received - (d r).acknowledged + 2 ∨
      ((l.session r).sendAckAt.any fun deadline => decide (deadline ≤ now)) = true) :
    (l.session r).ready now = true := by
  have hnumbers := (h.ends r).numbers
  have hok : ∀ q, Duplex.Ok (l.session r).maxWindow.toNat d q := by rw [h.window r]; exact h.ok
  have hsend : (l.session r).canSend = true := by
    rw [hnumbers.canSend_iff hok, h.window r]
    exact hcan
  have hsome : (l.session r).pendingAck.isSome = true := hnumbers.pendingAck_isSome.mpr hpending
  have hack : (l.session r).ackDue now = true := by
    rw [Session.ackDue, Bool.or_eq_true, decide_eq_true_iff, hnumbers.ownWindowFree_eq hok, h.window r]
    refine hdue.imp ?_ id
    omega
  simp [Session.ready, hsend, hsome, hack]

/-- An end without a message to send that has a packet to write owes an acknowledgement, and either its
own window has two free places at most or its timer is due. -/
lemma pending_of_ready (h : Models params l d) {r : Role} {now : Instant}
    (hidle : (l.session r).txActive = false) (hready : (l.session r).ready now = true) :
    (d r).acknowledged < (d r).received ∧
      (params.window.toNat ≤ (d r).received - (d r).acknowledged + 2 ∨
        ((l.session r).sendAckAt.any fun deadline => decide (deadline ≤ now)) = true) := by
  have hnumbers := (h.ends r).numbers
  have hok : ∀ q, Duplex.Ok (l.session r).maxWindow.toNat d q := by rw [h.window r]; exact h.ok
  obtain ⟨-, hwork⟩ := Bool.and_eq_true_iff.mp hready
  rw [hidle, Bool.false_or] at hwork
  obtain ⟨hsome, hack⟩ := Bool.and_eq_true_iff.mp hwork
  refine ⟨hnumbers.pendingAck_isSome.mp hsome, ?_⟩
  rw [Session.ackDue, Bool.or_eq_true, decide_eq_true_iff, hnumbers.ownWindowFree_eq hok,
    h.window r] at hack
  refine hack.imp ?_ id
  omega

end Models

/-! ## Progress -/

/-- While an end has a message to send and nothing is under way, some session has a packet to write. -/
theorem never_stuck (hwindow : params.window ≠ 0) (hsize : 6 ≤ params.segmentSize)
    (h : l.Reachable params) (hquiet : ∀ r, l.wire r = []) {a : Role}
    (hactive : (l.session a).txActive = true) (now : Instant) :
    ∃ r packet, ((l.session r).pollSend now (l.session r).segmentSize).1 = .ok (some packet) := by
  obtain ⟨d, hmodels⟩ := h.models hwindow hsize
  have hempty : ∀ r, (d r).underWay = [] := fun r => (hmodels.wire_eq_nil_iff r).mp (hquiet r)
  have hsome : ∃ r, (l.session r).ready now = true := by
    rcases Duplex.exists_canSend_of_quiet hmodels.ok hempty hmodels.moving hmodels.spare a with
      hcan | ⟨r, hpending, hcan, hfree⟩
    · have hok : ∀ q, Duplex.Ok (l.session a).maxWindow.toNat d q := by
        rw [hmodels.window a]
        exact hmodels.ok
      have hsend : (l.session a).canSend = true := by
        rw [(hmodels.ends a).numbers.canSend_iff hok, hmodels.window a]
        exact hcan
      exact ⟨a, by simp [Session.ready, hsend, hactive]⟩
    · exact ⟨r, hmodels.ready_of_pending hpending hcan (.inl hfree)⟩
  obtain ⟨r, hready⟩ := hsome
  obtain ⟨f, s', hpoll, -⟩ := hmodels.pollSend_of_ready hready
  exact ⟨r, f.octets, by rw [hpoll]⟩

/-- On a window of one, a message and nothing under way: the client may send, for it owes the
acknowledgement of the handshake response. -/
theorem single_slot_is_not_stuck : ∃ r packet,
      ((((Link.new ⟨6, 1⟩ fun _ => ⟨0⟩ : Link 8).step (.send .client [1])).session r).pollSend ⟨0⟩
        (((Link.new ⟨6, 1⟩ fun _ => ⟨0⟩ : Link 8).step (.send .client [1])).session r).segmentSize).1 =
          .ok (some packet) :=
  have hreachable : ((Link.new ⟨6, 1⟩ fun _ => ⟨0⟩ : Link 8).step (.send .client [1])).Reachable
      ⟨6, 1⟩ :=
    ⟨fun _ => ⟨0⟩, [.send .client [1]], by decide, rfl⟩
  have hactive : (((Link.new ⟨6, 1⟩ fun _ => ⟨0⟩ : Link 8).step (.send .client [1])).session
      .client).txActive = true := by decide
  never_stuck (by decide) (by decide) hreachable (fun r => by cases r <;> rfl) hactive ⟨0⟩

/-! ## Rest -/

namespace Link

/-- Neither end has a message to send. -/
def Idle (l : Link N) : Prop := ∀ r, (l.session r).txActive = false

/-- A packet is written, or the first one in a queue is taken, or a message that is whole is. -/
inductive Exchange (now : Instant) (l : Link N) : Link N → Prop
  | pollSend (r : Role) (packet : List UInt8)
      (h : ((l.session r).pollSend now (l.session r).segmentSize).1 = .ok (some packet)) :
      Exchange now l (l.pollSend r now)
  | receive (r : Role) (hwire : l.wire (other r) ≠ []) (hwhole : l.whole r = false) :
      Exchange now l (l.receive r now)
  | takeMessage (r : Role) (hwhole : l.whole r = true) : Exchange now l (l.takeMessage r)

/-- Every exchange at an instant comes to an end. -/
def Settles (now : Instant) (l : Link N) : Prop := Acc (fun l' l => Exchange now l l') l

/-- Whether an end's timer is due. -/
def timerDue (now : Instant) (l : Link N) (r : Role) : Bool :=
  (l.session r).sendAckAt.any fun deadline => decide (deadline ≤ now)

/-- What an end has to give to an exchange: the packets it has not acknowledged, those it has under way,
its message and its timer. -/
def weight (now : Instant) (l : Link N) (r : Role) : ℕ :=
  4 * (l.received r - l.acknowledged r) + 6 * (l.wire r).length + (l.whole r).toNat +
    4 * (l.timerDue now r).toNat

/-- What both ends have to give. -/
def total (now : Instant) (l : Link N) : ℕ := l.weight now .client + l.weight now .server

lemma total_eq (now : Instant) (l : Link N) (r : Role) :
    l.total now = l.weight now r + l.weight now (other r) := by
  cases r
  · rfl
  · exact Nat.add_comm _ _

end Link

/-- The last instant of the clock. -/
def lastInstant : Instant := ⟨UInt64.ofNat (2 ^ 64 - 1)⟩

/-- A timer that is started is not due at once, unless the clock has stopped. -/
lemma not_due_of_started {now : Instant} (hnow : now ≠ lastInstant) :
    ¬now.saturatingAdd sendAckTimeout ≤ now := by
  have hlt := now.micros.toNat_lt
  have hne : now.micros.toNat ≠ 2 ^ 64 - 1 := by
    intro heq
    apply hnow
    exact Instant.micros_toNat_injective heq
  have htimeout : sendAckTimeout.micros.toNat = 5000000 := by decide
  rw [Instant.le_def, Instant.toNat_saturatingAdd, htimeout]
  omega

/-- Every timer is due when the clock has stopped. -/
lemma le_lastInstant (deadline : Instant) : deadline ≤ lastInstant := by
  have hlt := deadline.micros.toNat_lt
  have hlast : lastInstant.micros.toNat = 2 ^ 64 - 1 := by decide
  rw [Instant.le_def, hlast]
  omega

namespace Models

/-- The weight of an end in the numbers that are not bounded. -/
lemma weight_eq (h : Models params l d) (now : Instant) (r : Role) :
    l.weight now r = 4 * ((d r).received - (d r).acknowledged) + 6 * (d r).underWay.length +
      (l.whole r).toNat + 4 * (l.timerDue now r).toNat := by
  rw [Link.weight, (h.ends r).received, (h.ends r).acknowledged, (h.ends r).wire.length_eq]

variable {r : Role} {now : Instant}

/-- Only a session that is ready writes a packet. -/
lemma ready_of_packet (h : Models params l d) {packet : List UInt8}
    (hpoll : ((l.session r).pollSend now (l.session r).segmentSize).1 = .ok (some packet)) :
    (l.session r).ready now = true := by
  by_contra hnot
  rw [Session.pollSend_of_not_ready (h.ends r).sound.opened (Bool.eq_false_of_not_eq_true hnot)]
    at hpoll
  cases hpoll

/-- A packet that is written. An acknowledgement that the window forces out stands for two packets at
least, and one that the timer does, for the timer. -/
lemma exchange_pollSend (h : Models params l d) (hidle : l.Idle) (hready : (l.session r).ready now = true) :
    ∃ d', Models params (l.pollSend r now) d' ∧ (l.pollSend r now).Idle ∧
      (4 ≤ params.window.toNat → (l.pollSend r now).total now < l.total now) := by
  obtain ⟨hpending, hdue⟩ := h.pending_of_ready (hidle r) hready
  obtain ⟨f, s', -, hsent, hsession, hwhole, hmodels⟩ := h.pollSend_of_ready hready
  have hself : (l.pollSend r now).session r = s' := by rw [hsession, Function.update_self]
  have hother : (l.pollSend r now).session (other r) = l.session (other r) := by
    rw [hsession, Function.update_of_ne (other_ne r)]
  refine ⟨_, hmodels, ?_, ?_⟩
  · intro q
    rcases eq_or r q with rfl | rfl
    · rw [hself]
      exact hsent.idle (hidle q)
    · rw [hother]
      exact hidle (other r)
  · intro hwide
    have htimer : (l.pollSend r now).timerDue now r = false := by
      have hnone : s'.sendAckAt = none := by
        have hboth := hsent.sound.timer
        rw [hsent.pendingAck] at hboth
        exact Option.not_isSome_iff_eq_none.mp (by rw [hboth]; decide)
      rw [Link.timerDue, hself, hnone]
      rfl
    have htimer' : (l.pollSend r now).timerDue now (other r) = l.timerDue now (other r) := by
      rw [Link.timerDue, hother, Link.timerDue]
    have hdue' : params.window.toNat ≤ (d r).received - (d r).acknowledged + 2 ∨
        (l.timerDue now r).toNat = 1 := hdue.imp id fun hdue => by rw [Link.timerDue, hdue]; rfl
    rw [Link.total_eq _ _ r, Link.total_eq _ _ r, hmodels.weight_eq, hmodels.weight_eq, h.weight_eq,
      h.weight_eq, htimer, htimer', hwhole]
    simp only [Duplex.emit_self, Duplex.emit_other, List.length_append, List.length_singleton,
      Bool.toNat_false]
    omega

/-- A packet that is taken. It is one less under way, and one more to acknowledge. -/
lemma exchange_receive (h : Models params l d) (hidle : l.Idle) (now : Instant)
    (hwire : l.wire r ≠ []) (hwhole : l.whole (other r) = false) :
    ∃ d', Models params (l.receive (other r) now) d' ∧ (l.receive (other r) now).Idle ∧
      (now ≠ lastInstant → (l.receive (other r) now).total now < l.total now) := by
  obtain ⟨p, rest, hqueue⟩ := List.exists_cons_of_ne_nil (mt (h.wire_eq_nil_iff r).mpr hwire)
  obtain ⟨f, s', result, -, hgot, hsession, hwhole', hmodels⟩ :=
    h.receive_of_cons hqueue hwhole now
  have hself : (l.receive (other r) now).session (other r) = s' := by
    rw [hsession, Function.update_self]
  have hother : (l.receive (other r) now).session r = l.session r := by
    rw [hsession, Function.update_of_ne (other_ne r).symm]
  refine ⟨_, hmodels, ?_, ?_⟩
  · intro q
    rcases eq_or r q with rfl | rfl
    · rw [hother]
      exact hidle q
    · rw [hself, hgot.txActive]
      exact hidle (other r)
  · intro hnow
    have htimer : (l.receive (other r) now).timerDue now r = l.timerDue now r := by
      rw [Link.timerDue, hother, Link.timerDue]
    have htimer' : (l.receive (other r) now).timerDue now (other r) = l.timerDue now (other r) := by
      rw [Link.timerDue, hself, hgot.sendAckAt, Link.timerDue]
      cases (l.session (other r)).sendAckAt with
      | some deadline => rfl
      | none =>
        rw [Option.none_or, Option.any_some, Option.any_none]
        exact decide_eq_false (not_due_of_started hnow)
    have hmessage : ((l.receive (other r) now).whole (other r)).toNat ≤ 1 := Bool.toNat_le _
    have hsame : (l.receive (other r) now).whole r = l.whole r := by
      rw [hwhole', Function.update_of_ne (other_ne r).symm]
    have hle := (h.ok (other r)).acknowledged_le
    rw [Link.total_eq _ _ r, Link.total_eq _ _ r, hmodels.weight_eq, hmodels.weight_eq, h.weight_eq,
      h.weight_eq, htimer, htimer', hsame]
    simp only [Duplex.arrive_self, Duplex.arrive_other, hqueue, List.length_cons, hwhole,
      Bool.toNat_false]
    omega

/-- A message that is taken. -/
lemma exchange_takeMessage (h : Models params l d) (hidle : l.Idle) (now : Instant)
    (hwhole : l.whole r = true) : Models params (l.takeMessage r) d ∧ (l.takeMessage r).Idle ∧
      (l.takeMessage r).total now < l.total now := by
  have hmodels := h.takeMessage hwhole
  have hself : (l.takeMessage r).session r = (l.session r).takeMessage := by
    simp [Link.takeMessage, Link.setSession]
  have hother : (l.takeMessage r).session (other r) = l.session (other r) := by
    simp [Link.takeMessage, Link.setSession]
  refine ⟨hmodels, ?_, ?_⟩
  · intro q
    rcases eq_or r q with rfl | rfl
    · rw [hself]
      exact hidle q
    · rw [hother]
      exact hidle (other r)
  · have htimer : (l.takeMessage r).timerDue now r = l.timerDue now r := by
      rw [Link.timerDue, hself]
      rfl
    have htimer' : (l.takeMessage r).timerDue now (other r) = l.timerDue now (other r) := by
      rw [Link.timerDue, hother, Link.timerDue]
    have htaken : (l.takeMessage r).whole r = false := by simp [Link.takeMessage]
    have hsame : (l.takeMessage r).whole (other r) = l.whole (other r) := by
      simp [Link.takeMessage]
    rw [Link.total_eq _ _ r, Link.total_eq _ _ r, hmodels.weight_eq, hmodels.weight_eq, h.weight_eq,
      h.weight_eq, htimer, htimer', htaken, hsame, hwhole, Bool.toNat_false, Bool.toNat_true]
    omega

/-- What an exchange does to a link without messages to send. -/
lemma exchange (h : Models params l d) (hidle : l.Idle) {l' : Link N} (hstep : l.Exchange now l') :
    ∃ d', Models params l' d' ∧ l'.Idle ∧
      (4 ≤ params.window.toNat → now ≠ lastInstant → l'.total now < l.total now) := by
  cases hstep with
  | pollSend r packet hpoll =>
    obtain ⟨d', hmodels, hidle', hless⟩ := h.exchange_pollSend hidle (h.ready_of_packet hpoll)
    exact ⟨d', hmodels, hidle', fun hwide _ => hless hwide⟩
  | receive r hwire hwhole =>
    rw [← other_other r] at hwhole ⊢
    obtain ⟨d', hmodels, hidle', hless⟩ := h.exchange_receive hidle now hwire hwhole
    exact ⟨d', hmodels, hidle', fun _ hnow => hless hnow⟩
  | takeMessage r hwhole =>
    obtain ⟨hmodels, hidle', hless⟩ := h.exchange_takeMessage hidle now hwhole
    exact ⟨d, hmodels, hidle', fun _ _ => hless⟩

/-- With a window of three or less, or a clock that has stopped, there is always something to do. -/
lemma exists_exchange (h : Models params l d)
    (hendless : params.window.toNat ≤ 3 ∨ now = lastInstant) : ∃ l', l.Exchange now l' := by
  by_cases hquiet : ∀ r, l.wire r = []
  · have hempty : ∀ r, (d r).underWay = [] := fun r => (h.wire_eq_nil_iff r).mp (hquiet r)
    obtain ⟨r, hpending, hcan⟩ := Duplex.exists_pending_of_quiet h.ok hempty h.moving h.spare
    have hdue : params.window.toNat ≤ (d r).received - (d r).acknowledged + 2 ∨
        ((l.session r).sendAckAt.any fun deadline => decide (deadline ≤ now)) = true := by
      rcases hendless with hnarrow | rfl
      · exact .inl (by omega)
      · right
        have hsome : (l.session r).sendAckAt.isSome = true := by
          rw [(h.ends r).sound.timer]
          exact (h.ends r).numbers.pendingAck_isSome.mpr hpending
        obtain ⟨deadline, hdeadline⟩ := Option.isSome_iff_exists.mp hsome
        rw [hdeadline, Option.any_some]
        exact decide_eq_true (le_lastInstant deadline)
    obtain ⟨f, s', hpoll, -⟩ := h.pollSend_of_ready (h.ready_of_pending hpending hcan hdue)
    exact ⟨_, .pollSend r f.octets (by rw [hpoll])⟩
  · obtain ⟨r, hwire⟩ := not_forall.mp hquiet
    cases hwhole : l.whole (other r) with
    | true => exact ⟨_, .takeMessage (other r) hwhole⟩
    | false => exact ⟨_, .receive (other r) (by rwa [other_other]) hwhole⟩

/-- With a window of four at least, while the clock runs, every exchange comes to an end. -/
lemma settles (h : Models params l d) (hidle : l.Idle) (hwide : 4 ≤ params.window.toNat)
    (hnow : now ≠ lastInstant) : l.Settles now := by
  induction hn : l.total now using Nat.strong_induction_on generalizing l d with
  | _ n ih =>
    constructor
    intro l' hstep
    obtain ⟨d', hmodels, hidle', hless⟩ := h.exchange hidle hstep
    exact ih _ (hn ▸ hless hwide hnow) hmodels hidle' rfl

/-- Otherwise none does. -/
lemma not_settles (h : Models params l d) (hidle : l.Idle)
    (hendless : params.window.toNat ≤ 3 ∨ now = lastInstant) : ¬l.Settles now := by
  intro hsettles
  induction hsettles generalizing d with
  | intro l _ ih =>
    obtain ⟨l', hstep⟩ := h.exists_exchange hendless
    obtain ⟨d', hmodels, hidle', -⟩ := h.exchange hidle hstep
    exact ih l' hstep hmodels hidle'

end Models

/-- When neither end has a message to send, what is exchanged at an instant comes to an end exactly when
the window is four at least and the instant is not the last of the clock. -/
theorem settles_iff (hwindow : params.window ≠ 0) (hsize : 6 ≤ params.segmentSize)
    (h : l.Reachable params) (hidle : l.Idle) (now : Instant) :
    l.Settles now ↔ 4 ≤ params.window.toNat ∧ now ≠ lastInstant := by
  obtain ⟨d, hmodels⟩ := h.models hwindow hsize
  constructor
  · intro hsettles
    by_contra hnot
    refine hmodels.not_settles hidle ?_ hsettles
    rcases not_and_or.mp hnot with hnarrow | hlast
    · exact .inl (by omega)
    · exact .inr (not_not.mp hlast)
  · rintro ⟨hwide, hnow⟩
    exact hmodels.settles hidle hwide hnow

/-- A new link with a window of four. -/
theorem window_of_four_settles : (Link.new ⟨6, 4⟩ fun _ => ⟨0⟩ : Link 8).Settles ⟨0⟩ :=
  (settles_iff (by decide) (by decide) ⟨fun _ => ⟨0⟩, [], trivial, rfl⟩
    (fun r => by cases r <;> rfl) ⟨0⟩).mpr ⟨by decide, by decide⟩

/-- A server with room for three packets agrees to a window of three, and the new link never comes to
rest. -/
theorem window_of_three_floods : negotiate ⟨#v[4, 0, 0, 0, 0, 0, 0, 0], 247, 6⟩ 247 3 = .ok ⟨4, 247, 3⟩ ∧
      (Link.new (HandshakeResponse.params ⟨4, 247, 3⟩) fun _ => ⟨0⟩ : Link 1280).Idle ∧
      ¬(Link.new (HandshakeResponse.params ⟨4, 247, 3⟩) fun _ => ⟨0⟩ : Link 1280).Settles ⟨0⟩ := by
  have hwindow : (HandshakeResponse.params ⟨4, 247, 3⟩).window ≠ 0 := by decide
  have hsize : 6 ≤ (HandshakeResponse.params ⟨4, 247, 3⟩).segmentSize := by decide
  have hmodels := Models.new (N := 1280) hwindow hsize fun _ => ⟨0⟩
  have hidle : (Link.new (HandshakeResponse.params ⟨4, 247, 3⟩) fun _ => ⟨0⟩ : Link 1280).Idle := by
    intro r
    rfl
  exact ⟨by decide, hidle, hmodels.not_settles hidle (.inl (by decide))⟩

/-! ## What is delivered, and what is under way -/

/-- With nothing under way from an end, every message it was given is with the other end, but for the one
it is sending; and if it is sending none, the other end has begun none. -/
theorem delivered_of_quiet (hwindow : params.window ≠ 0) (hsize : 6 ≤ params.segmentSize)
    (h : l.Reachable params) {r : Role} (hwire : l.wire r = []) :
    l.accepted r = l.held (other r) ++ (if (l.session r).txActive then [(l.session r).tx] else []) ∧
      ((l.session r).txActive = false → (l.session (other r)).rxExpected = none) := by
  obtain ⟨d, hmodels⟩ := h.models hwindow hsize
  have hflow := hmodels.flow r
  rw [(hmodels.wire_eq_nil_iff r).mp hwire] at hflow
  obtain ⟨p, done, hall, hmatches, hgiven⟩ := hflow
  obtain ⟨rfl, rfl⟩ : (l.session (other r)).assembly = p ∧ [] = done := by
    simpa [Segment.acceptAll] using hall
  rw [List.append_nil] at hgiven
  cases hactive : (l.session r).txActive with
  | false =>
    have hprogress : (l.session r).progress = none := by simp [Session.progress, hactive]
    rw [hprogress] at hgiven hmatches
    refine ⟨hgiven, fun _ => ?_⟩
    simpa [Segment.Matches, Session.assembly] using hmatches
  | true =>
    have hprogress : (l.session r).progress = some ((l.session r).tx, (l.session r).txSent) := by
      simp [Session.progress, hactive]
    rw [hprogress] at hgiven
    exact ⟨hgiven, Bool.noConfusion⟩

/-- The message of two segments is with the server. -/
theorem delivered_of_quiet_twoSegments :
    let l := twoSegments.foldl Link.step (Link.new ⟨6, 3⟩ fun _ => ⟨0⟩ : Link 8)
    l.accepted .client = l.held .server ++
      (if (l.session .client).txActive then [(l.session .client).tx] else []) :=
  (delivered_of_quiet (r := .client) (by decide) (by decide)
    ⟨fun _ => ⟨0⟩, twoSegments, by decide, rfl⟩ (by decide)).1

/-- The segments of an agreed handshake fit in the smallest MTU and in the largest packet. -/
lemma segmentSize_mem (r : HandshakeResponse) : 20 ≤ r.segmentSize ∧ r.segmentSize ≤ 244 := by
  have hmtu : ∀ mtu : UInt16, 23 ≤ mtu →
      20 ≤ (if 244 < mtu - 3 then 244 else mtu - 3 : UInt16).toNat ∧
        (if 244 < mtu - 3 then 244 else mtu - 3 : UInt16).toNat ≤ 244 := by
    intro mtu hle
    have husable : (mtu - 3).toNat = mtu.toNat - 3 :=
      UInt16.toNat_sub_of_le mtu 3 (UInt16.le_trans (by decide) hle)
    have hnat : 23 ≤ mtu.toNat := UInt16.le_iff_toNat_le.mp hle
    split_ifs with hlarge
    · decide
    · have hsmall : (mtu - 3).toNat ≤ 244 := UInt16.le_iff_toNat_le.mp (UInt16.not_lt.mp hlarge)
      omega
  unfold HandshakeResponse.segmentSize
  refine hmtu _ ?_
  split_ifs with hsmall
  · decide
  · exact UInt16.not_lt.mp hsmall

lemma window_of_negotiate {request : HandshakeRequest} {mtu : UInt16} {window : UInt8}
    {response : HandshakeResponse} (h : negotiate request mtu window = .ok response) :
    response.window ≠ 0 ∧ response.window ≤ request.window ∧ response.window ≤ window := by
  unfold negotiate at h
  split at h
  · cases h
  · obtain ⟨_, hnonzero, h⟩ := bind_eq_ok.mp h
    cases h
    exact ⟨ensure_eq_ok.mp hnonzero, Std.min_le_left, Std.min_le_right⟩

/-- A link over an agreed handshake: its window is within both that were offered, its segments have 20 to
244 octets, and the packets of an end that the other has not acknowledged, those under way among them,
are within the window. -/
theorem window_kept {request : HandshakeRequest} {mtu : UInt16} {window : UInt8}
    {response : HandshakeResponse} (hagreed : negotiate request mtu window = .ok response)
    (h : l.Reachable response.params) (r : Role) :
    response.window ≤ request.window ∧ response.window ≤ window ∧
      20 ≤ response.segmentSize ∧ response.segmentSize ≤ 244 ∧ l.received (other r) + (l.wire r).length ≤
        l.acknowledged (other r) + response.window.toNat := by
  obtain ⟨hmin, hmax⟩ := segmentSize_mem response
  obtain ⟨hnonzero, hrequest, hown⟩ := window_of_negotiate hagreed
  obtain ⟨d, hmodels⟩ := h.models hnonzero (le_trans (by decide) hmin)
  refine ⟨hrequest, hown, hmin, hmax, ?_⟩
  have hsent : _ ≤ _ + response.window.toNat := (hmodels.ok r).window
  have hknown := Duplex.known_le hmodels.ok r
  rw [(hmodels.ends (other r)).received, (hmodels.ends (other r)).acknowledged,
    ← (hmodels.ends r).wire.length_eq]
  rw [Duplex.sent] at hsent
  omega

/-- Both ends of an agreed link have a message, and have sent the first packet of it. -/
def bothSend : List Link.Act :=
  [.send .client [1, 2, 3], .send .server [4], .pollSend .client ⟨0⟩, .pollSend .server ⟨0⟩]

/-- A packet is under way from each end. -/
theorem window_kept_bothSend :
    let l := bothSend.foldl Link.step (Link.new (HandshakeResponse.params ⟨4, 247, 3⟩) fun _ => ⟨0⟩ : Link 8)
    (l.wire .client).length = 1 ∧ (l.wire .server).length = 1 ∧ (3 : UInt8) ≤ 6 ∧ (3 : UInt8) ≤ 3 ∧
      20 ≤ HandshakeResponse.segmentSize ⟨4, 247, 3⟩ ∧ HandshakeResponse.segmentSize ⟨4, 247, 3⟩ ≤ 244 ∧
      l.received .server + (l.wire .client).length ≤ l.acknowledged .server + 3 :=
  ⟨by decide, by decide, window_kept (r := .client)
    (show negotiate ⟨#v[4, 0, 0, 0, 0, 0, 0, 0], 247, 6⟩ 247 3 = .ok ⟨4, 247, 3⟩ by decide)
    ⟨fun _ => ⟨0⟩, bothSend, by decide, rfl⟩⟩

end MatterKit.Btp
