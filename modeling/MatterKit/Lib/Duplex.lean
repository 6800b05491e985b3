import Mathlib.Data.List.Basic
import Mathlib.Tactic

/-!
# Two ends that acknowledge each other

Two ends send each other packets over two lossless queues. A packet has a number, the next one of its
direction, and may acknowledge everything its sender has received. An end has at most `W` packets out
that it does not know to be acknowledged, and the last of these places is kept for a packet that carries
an acknowledgement.

`Ok` is the invariant of one direction, and `emit` and `arrive` keep it (`Ok.emit`, `Ok.arrive`). Two
facts about both directions together come from the reserved place: there is always a packet that has not
been acknowledged (`Moving`), and the two directions are never full at once (`Open`).
-/

namespace MatterKit.Lib

/-- A type of two ends. -/
class TwoSided (ι : Type) where
  other : ι → ι
  other_other : ∀ r, other (other r) = r
  other_ne : ∀ r, other r ≠ r
  eq_or : ∀ r q, q = r ∨ q = other r

namespace Duplex

open TwoSided

attribute [simp] other_other other_ne

variable {ι β : Type} [TwoSided ι]

/-- A packet under way. -/
structure Packet (β : Type) where
  number : ℕ
  /-- How many packets of the other end it acknowledges, all in all, if it does. -/
  ack : Option ℕ
  body : β

/-- What there is to know about an end: how many of its packets it knows to be acknowledged, how many it
has received and acknowledged, and the packets it has sent that have not arrived. -/
structure Party (β : Type) where
  known : ℕ
  received : ℕ
  acknowledged : ℕ
  underWay : List (Packet β)

/-- The acknowledgement an end owes, if it does. -/
def Party.pendingAck (p : Party β) : Option ℕ :=
  if p.acknowledged < p.received then some p.received else none

/-- The packets an end has sent, those received and those under way. -/
def sent (d : ι → Party β) (r : ι) : ℕ := (d (other r)).received + (d r).underWay.length

/-! ## One direction -/

/-- The acknowledgements under way grow from what is known to what has been acknowledged. -/
def Acks : ℕ → ℕ → List (Packet β) → Prop
  | known, acknowledged, [] => known = acknowledged
  | known, acknowledged, p :: rest =>
    (∀ a ∈ p.ack, known < a) ∧ Acks (p.ack.getD known) acknowledged rest

namespace Acks

variable {known acknowledged : ℕ} {l : List (Packet β)} {p : Packet β}

lemma le (h : Acks known acknowledged l) : known ≤ acknowledged := by
  induction l generalizing known with
  | nil => exact h.le
  | cons p rest ih =>
    obtain ⟨hlt, hrest⟩ := h
    have hle := ih hrest
    cases hack : p.ack with
    | none => rwa [hack] at hle
    | some a =>
      rw [hack, Option.getD_some] at hle
      exact (hlt a hack).le.trans hle

/-- One more acknowledgement is sent, of more than before. -/
lemma append (h : Acks known acknowledged l) (hp : ∀ a ∈ p.ack, acknowledged < a) :
    Acks known (p.ack.getD acknowledged) (l ++ [p]) := by
  induction l generalizing known with
  | nil =>
    obtain rfl : known = acknowledged := h
    exact ⟨hp, rfl⟩
  | cons q rest ih => exact ⟨h.1, ih h.2⟩

end Acks

/-- What holds of the packets an end sends. -/
structure Ok (W : ℕ) (d : ι → Party β) (r : ι) : Prop where
  numbered : (d r).underWay.map Packet.number =
    List.range' (d (other r)).received (d r).underWay.length
  acks : Acks (d (other r)).known (d r).acknowledged (d r).underWay
  acknowledged_le : (d r).acknowledged ≤ (d r).received
  window : sent d r ≤ (d r).known + W

variable {W : ℕ} {d : ι → Party β}

/-- An end knows no more of its packets to be acknowledged than have been. -/
lemma known_le (h : ∀ q, Ok W d q) (r : ι) : (d r).known ≤ (d (other r)).acknowledged := by
  have hacks := (h (other r)).acks.le
  rwa [other_other] at hacks

/-- With nothing under way it knows all of them. -/
lemma known_eq (h : ∀ q, Ok W d q) (hquiet : ∀ q, (d q).underWay = []) (r : ι) :
    (d r).known = (d (other r)).acknowledged := by
  have hacks := (h (other r)).acks
  rwa [hquiet, other_other] at hacks

/-- No end has more than a window of packets that it has received and not acknowledged. -/
lemma received_le (h : ∀ q, Ok W d q) (r : ι) : (d r).received ≤ (d r).acknowledged + W := by
  have hwindow := (h (other r)).window
  have hknown := known_le h (other r)
  rw [sent, other_other] at hwindow
  rw [other_other] at hknown
  omega

variable {r : ι}

/-- The packet at the head of the queue has the number its receiver expects. -/
lemma Ok.number_eq (h : Ok W d r) {p : Packet β} {rest : List (Packet β)}
    (hwire : (d r).underWay = p :: rest) : p.number = (d (other r)).received := by
  have hnumbered := h.numbered
  rw [hwire, List.map_cons, List.length_cons, List.range'_succ] at hnumbered
  exact (List.cons.inj hnumbered).1

/-- What an end has acknowledged once it has sent the acknowledgement it owes. -/
lemma pendingAck_getD (h : Ok W d r) : (d r).pendingAck.getD (d r).acknowledged = (d r).received := by
  have hle := h.acknowledged_le
  rw [Party.pendingAck]
  split
  · rfl
  · rw [Option.getD_none]
    omega

/-! ## Both directions together -/

/-- Whether an end may send: there is a place for its packet, which is not the last one or is for an
acknowledgement. -/
def CanSend (W : ℕ) (d : ι → Party β) (r : ι) : Prop :=
  sent d r < (d r).known + W ∧
    ((d r).acknowledged < (d r).received ∨ sent d r + 1 < (d r).known + W)

/-- Some packet has not been acknowledged. -/
def Moving (d : ι → Party β) : Prop := ∃ r, (d (other r)).acknowledged < sent d r

/-- Some direction has fewer packets than a window that have not been acknowledged. -/
def Open (W : ℕ) (d : ι → Party β) : Prop := ∃ r, sent d r < (d (other r)).acknowledged + W

/-- With nothing under way an end has sent what the other has received. -/
lemma sent_eq_of_quiet (hquiet : ∀ q, (d q).underWay = []) (r : ι) : sent d r = (d (other r)).received := by
  rw [sent, hquiet, List.length_nil, Nat.add_zero]

section Quiet

variable (h : ∀ q, Ok W d q) (hquiet : ∀ q, (d q).underWay = [])
include h hquiet

/-- With nothing under way some end owes an acknowledgement and may send it. -/
lemma exists_pending_of_quiet (hmoving : Moving d) (hopen : Open W d) :
    ∃ r, (d r).acknowledged < (d r).received ∧ CanSend W d r := by
  obtain ⟨q, hq⟩ := hmoving
  obtain ⟨r, hr⟩ := hopen
  rw [sent_eq_of_quiet hquiet] at hq
  have hknown := known_eq h hquiet
  by_cases hroom : sent d (other q) < (d q).acknowledged + W
  · refine ⟨other q, hq, ?_, .inl hq⟩
    rwa [hknown, other_other]
  · -- the direction towards `q` is full, so `q` owes an acknowledgement and the other way is open
    have hpending : (d q).acknowledged < (d q).received := by
      have hsent := sent_eq_of_quiet hquiet (other q)
      have hpositive : 0 < W := by
        have hle := (h (other r)).acknowledged_le
        have hsent' := sent_eq_of_quiet hquiet r
        omega
      rw [other_other] at hsent
      omega
    refine ⟨q, hpending, ?_, .inl hpending⟩
    rw [hknown]
    rcases eq_or q r with rfl | rfl
    · exact hr
    · rw [other_other] at hr
      exact absurd hr hroom

/-- With nothing under way, an end may send, or one that may send owes an acknowledgement and has at most
two places left of its own window. -/
lemma exists_canSend_of_quiet (hmoving : Moving d) (hopen : Open W d) (a : ι) : CanSend W d a ∨
      ∃ r, (d r).acknowledged < (d r).received ∧ CanSend W d r ∧
        W ≤ (d r).received - (d r).acknowledged + 2 := by
  obtain ⟨q, hpending, hcan⟩ := exists_pending_of_quiet h hquiet hmoving hopen
  rcases eq_or a q with rfl | rfl
  · exact .inl hcan
  · by_cases hroom : sent d a + 1 < (d a).known + W
    · exact .inl ⟨by omega, .inr hroom⟩
    · -- `a` has at most one place left, so the other end has all its packets but that to acknowledge
      refine .inr ⟨other a, hpending, hcan, ?_⟩
      have hsent := sent_eq_of_quiet hquiet a
      have hknown := known_eq h hquiet a
      omega

end Quiet

/-! ## Sending and receiving -/

variable [DecidableEq ι]

/-- An end sends a packet, and with it the acknowledgement it owes. -/
def emit (d : ι → Party β) (r : ι) (body : β) : ι → Party β :=
  Function.update d r
    { d r with
      acknowledged := (d r).received
      underWay := (d r).underWay ++ [⟨sent d r, (d r).pendingAck, body⟩] }

/-- The first packet an end has under way arrives. -/
def arrive (d : ι → Party β) (r : ι) (p : Packet β) (rest : List (Packet β)) : ι → Party β :=
  Function.update (Function.update d r { d r with underWay := rest }) (other r)
    { d (other r) with
      received := (d (other r)).received + 1
      known := p.ack.getD (d (other r)).known }

@[simp] lemma emit_self (r : ι) (body : β) : emit d r body r = { d r with
      acknowledged := (d r).received
      underWay := (d r).underWay ++ [⟨sent d r, (d r).pendingAck, body⟩] } :=
  Function.update_self ..

@[simp] lemma emit_other (r : ι) (body : β) : emit d r body (other r) = d (other r) :=
  Function.update_of_ne (other_ne r) ..

@[simp] lemma sent_emit_self (r : ι) (body : β) : sent (emit d r body) r = sent d r + 1 := by
  simp [sent, Nat.add_assoc]

@[simp] lemma sent_emit_other (r : ι) (body : β) : sent (emit d r body) (other r) = sent d (other r) := by
  simp [sent]

variable {p : Packet β} {rest : List (Packet β)}

@[simp] lemma arrive_self (r : ι) : arrive d r p rest r = { d r with underWay := rest } := by
  rw [arrive, Function.update_of_ne (other_ne r).symm, Function.update_self]

@[simp] lemma arrive_other (r : ι) : arrive d r p rest (other r) = { d (other r) with
      received := (d (other r)).received + 1
      known := p.ack.getD (d (other r)).known } :=
  Function.update_self ..

lemma sent_arrive_self (hwire : (d r).underWay = p :: rest) : sent (arrive d r p rest) r = sent d r := by
  simp [sent, hwire]
  omega

@[simp] lemma sent_arrive_other (r : ι) : sent (arrive d r p rest) (other r) = sent d (other r) := by
  simp [sent]

/-- A packet sent while there is room in the window keeps both directions in order. -/
lemma Ok.emit (h : ∀ q, Ok W d q) (hroom : sent d r < (d r).known + W) (body : β) (q : ι) :
    Ok W (emit d r body) q := by
  rcases eq_or r q with rfl | rfl
  · refine ⟨?_, ?_, ?_, ?_⟩
    · rw [emit_self, emit_other]
      dsimp only
      rw [List.map_append, (h q).numbered, List.length_append, List.length_singleton,
        List.range'_concat, Nat.one_mul]
      rfl
    · have hacks : Acks (d (other q)).known ((d q).pendingAck.getD (d q).acknowledged)
          ((d q).underWay ++ [⟨sent d q, (d q).pendingAck, body⟩]) := by
        refine Acks.append (p := ⟨sent d q, (d q).pendingAck, body⟩) (h q).acks ?_
        intro a ha
        change a ∈ (d q).pendingAck at ha
        rw [Party.pendingAck] at ha
        split at ha
        case isTrue hlt =>
          cases ha
          exact hlt
        case isFalse => cases ha
      rw [pendingAck_getD (h q)] at hacks
      simpa using hacks
    · simp
    · have hself : (Duplex.emit d q body q).known = (d q).known := by simp
      rw [sent_emit_self, hself]
      omega
  · have hother := h (other r)
    refine ⟨?_, ?_, ?_, ?_⟩
    · have hnumbered := hother.numbered
      simpa using hnumbered
    · have hacks := hother.acks
      simpa using hacks
    · have hle := hother.acknowledged_le
      simpa using hle
    · rw [sent_emit_other, emit_other]
      exact hother.window

/-- An arriving packet keeps both directions in order. -/
lemma Ok.arrive (h : ∀ q, Ok W d q) (hwire : (d r).underWay = p :: rest) (q : ι) :
    Ok W (arrive d r p rest) q := by
  obtain ⟨hlt, hacks⟩ : Acks (d (other r)).known (d r).acknowledged (p :: rest) :=
    hwire ▸ (h r).acks
  rcases eq_or r q with rfl | rfl
  · refine ⟨?_, ?_, ?_, ?_⟩
    · have hnumbered := (h q).numbered
      rw [hwire, List.map_cons, List.length_cons, List.range'_succ] at hnumbered
      simpa using (List.cons.inj hnumbered).2
    · simpa using hacks
    · have hle := (h q).acknowledged_le
      simpa using hle
    · have hself : (Duplex.arrive d q p rest q).known = (d q).known := by simp
      rw [sent_arrive_self hwire, hself]
      exact (h q).window
  · have hother := h (other r)
    refine ⟨?_, ?_, ?_, ?_⟩
    · have hnumbered := hother.numbered
      simpa using hnumbered
    · have hacks' := hother.acks
      simpa using hacks'
    · have hle := hother.acknowledged_le
      simpa using hle.trans (Nat.le_succ _)
    · have hwindow := hother.window
      have hknown : (d (other r)).known ≤ p.ack.getD (d (other r)).known := by
        cases hack : p.ack with
        | none => rfl
        | some a => exact (hlt a hack).le
      rw [sent_arrive_other, arrive_other]
      exact hwindow.trans (Nat.add_le_add_right hknown W)

/-- The packet that is sent has not been acknowledged. -/
lemma Moving.emit (h : ∀ q, Ok W d q) (r : ι) (body : β) : Moving (emit d r body) := by
  refine ⟨r, ?_⟩
  have hle := (h (other r)).acknowledged_le
  rw [sent_emit_self, emit_other, sent]
  omega

lemma Moving.arrive (h : Moving d) (hwire : (d r).underWay = p :: rest) : Moving (arrive d r p rest) := by
  obtain ⟨q, hq⟩ := h
  refine ⟨q, ?_⟩
  rcases eq_or r q with rfl | rfl
  · rw [sent_arrive_self hwire, arrive_other]
    exact hq
  · rw [sent_arrive_other, other_other, arrive_self]
    rwa [other_other] at hq

/-- A packet in the last place carries an acknowledgement, which opens the other direction; any other
leaves a place in its own. -/
lemma Open.emit (h : ∀ q, Ok W d q) (hcan : CanSend W d r) (body : β) : Open W (emit d r body) := by
  obtain ⟨-, hpending | hroom⟩ := hcan
  · refine ⟨other r, ?_⟩
    have hwindow := (h (other r)).window
    have hknown := known_le h (other r)
    rw [other_other] at hknown
    rw [sent_emit_other, other_other, emit_self]
    dsimp only
    omega
  · refine ⟨r, ?_⟩
    have hknown := known_le h r
    rw [sent_emit_self, emit_other]
    omega

lemma Open.arrive (h : Open W d) (hwire : (d r).underWay = p :: rest) : Open W (arrive d r p rest) := by
  obtain ⟨q, hq⟩ := h
  refine ⟨q, ?_⟩
  rcases eq_or r q with rfl | rfl
  · rw [sent_arrive_self hwire, arrive_other]
    exact hq
  · rw [sent_arrive_other, other_other, arrive_self]
    rwa [other_other] at hq

end Duplex

end MatterKit.Lib
