import MatterKit.Exchange.Mrp

/-!
# What becomes of one reliable message

The calls of `Mrp` come in any order and at any times. Between one accepted `onSend` and the next at
most one message is pending, and every call does one of four things to it (`step_cases`): nothing, one
more transmission, giving up, settling it by an acknowledgement; `close` drops it. So the answers that
concern it are its retransmissions in order and at most one settlement after them (`pending_answers`),
and the fourth retransmission is the last (`onSend_settled_once`).

The timer of a transmission runs for the backoff and at most a quarter of it more.
-/

namespace MatterKit

/-! ## The jitter -/

/-- A factor below one, with both its terms small, is exact division rounded down. -/
lemma Duration.toNat_mulRatio_of_lt {d : Duration} {numerator denominator : UInt64}
    (hlt : numerator.toNat < denominator.toNat) (hsmall : denominator.toNat < 2 ^ 32) :
    (d.mulRatio numerator denominator).micros.toNat =
      d.micros.toNat * numerator.toNat / denominator.toNat := by
  have hpos : 0 < denominator.toNat := Nat.zero_lt_of_lt hlt
  have hne : denominator ≠ 0 := by
    rintro rfl
    exact absurd hpos (Nat.lt_irrefl 0)
  have hd := d.micros.toNat_lt
  -- with `d = whole * denominator + rest`, neither product reaches the largest value
  have hsplit := Nat.div_add_mod d.micros.toNat denominator.toNat
  have hrest := Nat.mod_lt d.micros.toNat hpos
  set whole := d.micros.toNat / denominator.toNat
  set rest := d.micros.toNat % denominator.toNat
  have hwhole : whole * numerator.toNat ≤ denominator.toNat * whole := by
    rw [Nat.mul_comm denominator.toNat]
    exact Nat.mul_le_mul_left _ hlt.le
  have hfraction : rest * numerator.toNat < 2 ^ 64 := by
    calc rest * numerator.toNat < 2 ^ 32 * 2 ^ 32 := Nat.mul_lt_mul'' (hrest.trans hsmall) (hlt.trans hsmall)
      _ = 2 ^ 64 := by norm_num
  have hfloor : d.micros.toNat * numerator.toNat / denominator.toNat =
      whole * numerator.toNat + rest * numerator.toNat / denominator.toNat := by
    rw [← hsplit, Nat.add_mul, Nat.mul_assoc, Nat.mul_add_div hpos]
  have hle : rest * numerator.toNat / denominator.toNat ≤ rest :=
    Nat.div_le_of_le_mul (by rw [Nat.mul_comm denominator.toNat]; exact Nat.mul_le_mul_left _ hlt.le)
  rw [mulRatio, if_neg hne, hfloor, toNat_satAdd, toNat_satMul, UInt64.toNat_div, UInt64.toNat_div,
    toNat_satMul, UInt64.toNat_mod]
  show min (min (whole * numerator.toNat) _ + min (rest * numerator.toNat) _ / denominator.toNat) _ = _
  rw [Nat.min_eq_left (Nat.le_sub_one_of_lt hfraction), Nat.min_eq_left (by omega), Nat.min_eq_left]
  omega

/-- The jitter adds less than a quarter. -/
lemma toNat_withJitter (b : Duration) (randomness : UInt32) : (withJitter b randomness).micros.toNat =
      min (b.micros.toNat + b.micros.toNat * (randomness.toNat % 65536) / 262144) (2 ^ 64 - 1) := by
  have hdenominator : ((65536 : UInt64) * 4).toNat = 262144 := by decide
  have hdraw : (randomness.toUInt64 % 65536).toNat = randomness.toNat % 65536 := by
    rw [UInt64.toNat_mod, UInt32.toNat_toUInt64]
    rfl
  have hlt : randomness.toNat % 65536 < 65536 := Nat.mod_lt _ (by norm_num)
  rw [withJitter, Duration.saturatingAdd, toNat_satAdd,
    Duration.toNat_mulRatio_of_lt (by rw [hdraw, hdenominator]; omega) (by rw [hdenominator]; norm_num),
    hdraw, hdenominator]

lemma withJitter_bounds (b : Duration) (randomness : UInt32) :
    b.micros.toNat ≤ (withJitter b randomness).micros.toNat ∧
      (withJitter b randomness).micros.toNat ≤ 5 * b.micros.toNat / 4 := by
  have hb := b.micros.toNat_lt
  have hlt : randomness.toNat % 65536 < 65536 := Nat.mod_lt _ (by norm_num)
  have hquarter : b.micros.toNat * (randomness.toNat % 65536) / 262144 ≤ b.micros.toNat / 4 := by
    calc b.micros.toNat * (randomness.toNat % 65536) / 262144
        ≤ b.micros.toNat * 65536 / 262144 :=
          Nat.div_le_div_right (Nat.mul_le_mul_left _ hlt.le)
      _ = b.micros.toNat / 4 := by omega
  rw [toNat_withJitter]
  omega

namespace Mrp

/-! ## Runs -/

/-- What `onAck` answers: whether it acknowledges the pending message.
Source: `Mrp::on_ack`, its result. -/
def acknowledges (m : Mrp) (counter : UInt32) : Bool :=
  match m.pendingTx with
  | some tx => tx.counter = counter
  | none => false

/-- Abandons everything pending.
Source: `Mrp::close`. -/
def close (m : Mrp) : Mrp := { m with pendingTx := none, pendingAck := none }

/-- A call that can change the state. -/
inductive Event
  | send (counter : UInt32) (now : Instant) (randomness : UInt32)
  | ack (counter : UInt32) (now : Instant)
  | reliableReceived (counter : UInt32) (now : Instant)
  | takePiggyback
  | timeout (now : Instant) (randomness : UInt32)
  | peerActivity (now : Instant)
  | close

/-- What a call answers. -/
inductive Answer
  | sent (counter : UInt32)
  | refused (code : ErrorCode)
  | acked (pending : Bool)
  | piggyback (counter : Option UInt32)
  | timedOut (outcome : OnTimeout)
  | done
  deriving DecidableEq

/-- The time a call is made at, for those that are told it. -/
def Event.time : Event → Option Instant
  | .send _ now _ | .ack _ now | .reliableReceived _ now | .timeout now _ | .peerActivity now => some now
  | .takePiggyback | .close => none

/-- One call. -/
def step (m : Mrp) : Event → Answer × Mrp
  | .send counter now randomness =>
    match m.onSend counter now randomness with
    | .ok m' => (.sent counter, m')
    | .error code => (.refused code, m)
  | .ack counter now => (.acked (m.acknowledges counter), m.onAck counter now)
  | .reliableReceived counter now => (.done, m.onReliableReceived counter now)
  | .takePiggyback => (.piggyback m.takePiggyback.1, m.takePiggyback.2)
  | .timeout now randomness =>
    (.timedOut (m.onTimeout now randomness).1, (m.onTimeout now randomness).2)
  | .peerActivity now => (.done, m.notePeerActivity now)
  | .close => (.done, m.close)

/-- The state after a run of calls. -/
def run (m : Mrp) (events : List Event) : Mrp := events.foldl (fun m e => (m.step e).2) m

/-- What the calls of a run answer. -/
def answers : Mrp → List Event → List Answer
  | _, [] => []
  | m, e :: events => (m.step e).1 :: answers (m.step e).2 events

/-- A reliable message was accepted for sending. -/
def Answer.isSent : Answer → Bool
  | .sent _ => true
  | _ => false

/-- The answers that say what became of the pending message. -/
def Answer.concernsPending : Answer → Bool
  | .acked pending => pending
  | .timedOut (.retransmit _ _) | .timedOut (.giveUp _) => true
  | _ => false

/-- The retransmissions asked for: the counter and the attempt of each. -/
def retransmissions (as : List Answer) : List (UInt32 × UInt32) :=
  as.filterMap fun
    | .timedOut (.retransmit counter attempt) => some (counter, attempt)
    | _ => none

/-- The counters given up. -/
def giveUps (as : List Answer) : List UInt32 :=
  as.filterMap fun
    | .timedOut (.giveUp counter) => some counter
    | _ => none

/-- How often an acknowledgement settled a message. -/
def settlements (as : List Answer) : ℕ := as.count (.acked true)

lemma retransmissions_filter (as : List Answer) :
    retransmissions (as.filter Answer.concernsPending) = retransmissions as := by
  unfold retransmissions
  rw [List.filterMap_filter]
  congr 1
  funext a
  rcases a with _ | _ | b | _ | o | _
  · rfl
  · rfl
  · cases b
    · rfl
    · rfl
  · rfl
  · cases o
    · rfl
    · rfl
    · rfl
    · rfl
  · rfl

lemma giveUps_filter (as : List Answer) : giveUps (as.filter Answer.concernsPending) = giveUps as := by
  unfold giveUps
  rw [List.filterMap_filter]
  congr 1
  funext a
  rcases a with _ | _ | b | _ | o | _
  · rfl
  · rfl
  · cases b
    · rfl
    · rfl
  · rfl
  · cases o
    · rfl
    · rfl
    · rfl
    · rfl
  · rfl

lemma settlements_filter (as : List Answer) :
    settlements (as.filter Answer.concernsPending) = settlements as :=
  List.count_filter rfl

/-! ## One call -/

/-- A timeout asks for a retransmission or gives up only for the pending message. -/
lemma onTimeoutTx_cases (m : Mrp) (now : Instant) (r : UInt32) : m.onTimeoutTx now r = (.nothing, m) ∨
    (∃ tx, m.pendingTx = some tx ∧ mrpMaxTransmissions ≤ tx.sent ∧
      m.onTimeoutTx now r = (.giveUp tx.counter, { m with pendingTx := none })) ∨
    (∃ tx, m.pendingTx = some tx ∧ ¬ mrpMaxTransmissions ≤ tx.sent ∧
      m.onTimeoutTx now r = (.retransmit tx.counter tx.sent,
        { m with pendingTx := some ⟨tx.counter, tx.sent + 1, m.retryAt tx.sent now r⟩ })) := by
  unfold onTimeoutTx
  rcases hp : m.pendingTx with _ | tx
  · exact .inl rfl
  · by_cases hdue : tx.deadline.isElapsedAt now = true
    · by_cases hmax : mrpMaxTransmissions ≤ tx.sent
      · right
        left
        exact ⟨tx, rfl, hmax, by simp [hdue, hmax]⟩
      · right
        right
        exact ⟨tx, rfl, hmax, by simp [hdue, hmax]⟩
    · left
      simp [hdue]

/-- A timeout either takes the owed acknowledgement, or is about the pending message. -/
lemma onTimeout_eq (m : Mrp) (now : Instant) (r : UInt32) : m.onTimeout now r = m.onTimeoutTx now r ∨
      ∃ ack, m.onTimeout now r = (.sendStandaloneAck ack, { m with pendingAck := none }) := by
  unfold onTimeout
  rcases m.pendingAck with _ | ack
  · exact .inl rfl
  · by_cases hdue : ack.deadline.isElapsedAt now = true
    · right
      exact ⟨ack.counter, by simp [hdue]⟩
    · left
      simp [hdue]

/-- What a call does to the pending message, if it does not send another one. -/
inductive Settles (m : Mrp) (a : Answer) (m' : Mrp) : Prop
  | keeps (hanswer : a.concernsPending = false) (hkept : m'.pendingTx = m.pendingTx)
  | drops (hanswer : a.concernsPending = false) (hnone : m'.pendingTx = none)
  | retransmits (tx : PendingTx) (deadline : Instant) (hsome : m.pendingTx = some tx)
      (hleft : ¬ mrpMaxTransmissions ≤ tx.sent)
      (hanswer : a = .timedOut (.retransmit tx.counter tx.sent))
      (hnext : m'.pendingTx = some ⟨tx.counter, tx.sent + 1, deadline⟩)
  | givesUp (tx : PendingTx) (hsome : m.pendingTx = some tx) (hspent : mrpMaxTransmissions ≤ tx.sent)
      (hanswer : a = .timedOut (.giveUp tx.counter)) (hnone : m'.pendingTx = none)
  | acknowledged (tx : PendingTx) (hsome : m.pendingTx = some tx) (hanswer : a = .acked true)
      (hnone : m'.pendingTx = none)

lemma step_timeout_settles (m : Mrp) (now : Instant) (r : UInt32) :
    Settles m (.timedOut (m.onTimeout now r).1) (m.onTimeout now r).2 := by
  rcases onTimeout_eq m now r with heq | ⟨ack, heq⟩
  · rw [heq]
    rcases onTimeoutTx_cases m now r with h | ⟨tx, hsome, hmax, h⟩ | ⟨tx, hsome, hmax, h⟩
    · rw [h]
      exact .keeps rfl rfl
    · rw [h]
      exact .givesUp tx hsome hmax rfl rfl
    · rw [h]
      exact .retransmits tx (m.retryAt tx.sent now r) hsome hmax rfl rfl
  · rw [heq]
    exact .keeps rfl rfl

lemma step_ack_settles (m : Mrp) (counter : UInt32) (now : Instant) :
    Settles m (.acked (m.acknowledges counter)) (m.onAck counter now) := by
  unfold acknowledges onAck notePeerActivity
  rcases hp : m.pendingTx with _ | tx
  · exact .keeps rfl hp.symm
  · by_cases hc : tx.counter = counter
    · simp only [hc, decide_true, if_true]
      exact .acknowledged tx hp rfl rfl
    · simp only [hc, decide_false, if_false]
      exact .keeps rfl hp.symm

variable {m : Mrp} {events : List Event} {tx : PendingTx} {c counter : UInt32}

/-- Every call that does not send does one of five things to the pending message. -/
lemma step_settles {e : Event} (hsend : (m.step e).1.isSent = false) :
    Settles m (m.step e).1 (m.step e).2 := by
  cases e with
  | send counter now r =>
    simp only [step] at hsend ⊢
    rcases hres : m.onSend counter now r with code | m'
    · exact .keeps rfl rfl
    · rw [hres] at hsend
      exact absurd hsend (by simp [Answer.isSent])
  | ack counter now => exact step_ack_settles m counter now
  | reliableReceived counter now | takePiggyback => exact .keeps rfl rfl
  | timeout now r => exact step_timeout_settles m now r
  | peerActivity now => exact .keeps rfl rfl
  | close => exact .drops rfl rfl

/-! ## Runs without another message -/

lemma answers_append (m : Mrp) (before after : List Event) :
    m.answers (before ++ after) = m.answers before ++ (m.run before).answers after := by
  induction before generalizing m with
  | nil => rfl
  | cons e before ih =>
    show (m.step e).1 :: (m.step e).2.answers (before ++ after) = _
    rw [ih]
    rfl

/-- With nothing pending, nothing is said about a pending message. -/
lemma answers_of_none (hnone : m.pendingTx = none) (hnext : ∀ a ∈ m.answers events, a.isSent = false) :
    (m.answers events).filter Answer.concernsPending = [] := by
  induction events generalizing m with
  | nil => rfl
  | cons e events ih =>
    obtain ⟨hsend, hrest⟩ := List.forall_mem_cons.mp hnext
    cases step_settles hsend with
    | keeps hanswer hkept =>
      rw [answers, List.filter_cons_of_neg (by simp [hanswer])]
      exact ih (hkept.trans hnone) hrest
    | drops hanswer hnone' =>
      rw [answers, List.filter_cons_of_neg (by simp [hanswer])]
      exact ih hnone' hrest
    | retransmits tx _ hsome => exact absurd (hnone.symm.trans hsome) (by simp)
    | givesUp tx hsome | acknowledged tx hsome => exact absurd (hnone.symm.trans hsome) (by simp)

/-- The answers about a pending message: the retransmissions it has left, from the next one on, and
then at most one settlement. -/
lemma pending_answers (hsome : m.pendingTx = some tx) (hsent : tx.sent.toNat ≤ 5)
    (hnext : ∀ a ∈ m.answers events, a.isSent = false) : ∃ k tail, tx.sent.toNat + k ≤ 5 ∧
      (m.answers events).filter Answer.concernsPending = (List.range' tx.sent.toNat k).map
          (fun n => .timedOut (.retransmit tx.counter (UInt32.ofNat n))) ++ tail ∧
      (tail = [] ∨ tail = [.timedOut (.giveUp tx.counter)] ∨ tail = [.acked true]) := by
  induction events generalizing m tx with
  | nil => exact ⟨0, [], by omega, rfl, .inl rfl⟩
  | cons e events ih =>
    obtain ⟨hsend, hrest⟩ := List.forall_mem_cons.mp hnext
    cases step_settles hsend with
    | keeps hanswer hkept =>
      rw [answers, List.filter_cons_of_neg (by simp [hanswer])]
      exact ih (hkept.trans hsome) hsent hrest
    | drops hanswer hnone =>
      refine ⟨0, [], by omega, ?_, .inl rfl⟩
      rw [answers, List.filter_cons_of_neg (by simp [hanswer])]
      exact answers_of_none hnone hrest
    | retransmits tx' deadline hsome' hleft hanswer hnext' =>
      obtain rfl : tx' = tx := Option.some.inj (hsome'.symm.trans hsome)
      have hlt : tx'.sent.toNat < 5 := UInt32.lt_iff_toNat_lt.mp (UInt32.not_le.mp hleft)
      have hsucc : (tx'.sent + 1).toNat = tx'.sent.toNat + 1 := by
        have hone : (1 : UInt32).toNat = 1 := rfl
        rw [UInt32.toNat_add]
        omega
      obtain ⟨k, tail, hk, hfilter, htail⟩ := ih hnext' (by simp only [hsucc]; omega) hrest
      simp only [hsucc] at hk hfilter
      refine ⟨k + 1, tail, by omega, ?_, htail⟩
      rw [answers, List.filter_cons_of_pos (by simp [hanswer, Answer.concernsPending]), hfilter,
        hanswer, List.range'_succ, List.map_cons, UInt32.ofNat_toNat]
      rfl
    | givesUp tx' hsome' hspent hanswer hnone =>
      obtain rfl : tx' = tx := Option.some.inj (hsome'.symm.trans hsome)
      refine ⟨0, [.timedOut (.giveUp tx'.counter)], by omega, ?_, .inr (.inl rfl)⟩
      rw [answers, List.filter_cons_of_pos (by simp [hanswer, Answer.concernsPending]),
        answers_of_none hnone hrest, hanswer]
      rfl
    | acknowledged tx' hsome' hanswer hnone =>
      refine ⟨0, [.acked true], by omega, ?_, .inr (.inr rfl)⟩
      rw [answers, List.filter_cons_of_pos (by simp [hanswer, Answer.concernsPending]),
        answers_of_none hnone hrest, hanswer]
      rfl

/-! ## Deadlines -/

/-- A deadline set at `now` for the attempt `n`: the backoff later, and at most a quarter of it more. -/
def Timely (m : Mrp) (n : UInt32) (now deadline : Instant) : Prop :=
  let wait := backoff (m.params.baseInterval (m.peerActive now)) n
  now.saturatingAdd wait ≤ deadline ∧
    deadline.micros.toNat ≤ min (now.micros.toNat + 5 * wait.micros.toNat / 4) (2 ^ 64 - 1)

/-- A call leaves the pending message's deadline alone, or it is the call that sends it, as attempt
zero, or the call that asks for its retransmission, and sets a timely deadline. -/
def SetsTimely (m : Mrp) (e : Event) : Prop :=
  ∀ tx, (m.step e).2.pendingTx = some tx → m.pendingTx = some tx ∨
    ∃ n now, e.time = some now ∧
      ((m.step e).1 = .sent tx.counter ∧ n = 0 ∨
        (m.step e).1 = .timedOut (.retransmit tx.counter n)) ∧
      m.Timely n now tx.deadline

lemma retryAt_timely (m : Mrp) (n : UInt32) (now : Instant) (r : UInt32) :
    m.Timely n now (m.retryAt n now r) := by
  obtain ⟨hlow, hhigh⟩ :=
    withJitter_bounds (backoff (m.params.baseInterval (m.peerActive now)) n) r
  unfold Timely retryAt
  simp only [Instant.le_def, Instant.toNat_saturatingAdd]
  omega

lemma timeout_setsTimely (m : Mrp) (now : Instant) (r : UInt32) : m.SetsTimely (.timeout now r) := by
  intro tx htx
  simp only [step] at htx ⊢
  rcases onTimeout_eq m now r with heq | ⟨ack, heq⟩
  · rw [heq] at htx ⊢
    rcases onTimeoutTx_cases m now r with h | ⟨tx', -, -, h⟩ | ⟨tx', -, -, h⟩
    · rw [h] at htx
      exact .inl htx
    · rw [h] at htx
      exact absurd htx (by simp)
    · rw [h] at htx ⊢
      obtain rfl := Option.some.inj htx
      right
      exact ⟨tx'.sent, now, rfl, .inr rfl, retryAt_timely m tx'.sent now r⟩
  · rw [heq] at htx
    exact .inl htx

/-- Whatever is called, in whatever state. -/
lemma step_setsTimely (m : Mrp) (e : Event) : m.SetsTimely e := by
  cases e with
  | send counter now r =>
    intro tx htx
    simp only [step] at htx ⊢
    unfold onSend at htx ⊢
    by_cases hbusy : m.pendingTx.isSome = true
    · rw [if_pos hbusy] at htx
      exact .inl htx
    · rw [if_neg hbusy] at htx ⊢
      obtain rfl := Option.some.inj htx
      right
      exact ⟨0, now, rfl, .inl ⟨rfl, rfl⟩, retryAt_timely m 0 now r⟩
  | ack counter now =>
    intro tx htx
    left
    cases step_ack_settles m counter now with
    | keeps _ hkept => exact hkept.symm.trans htx
    | drops _ hnone => exact absurd (hnone.symm.trans htx) (by simp)
    | retransmits _ _ _ _ hanswer | givesUp _ _ _ hanswer => exact absurd hanswer (by simp)
    | acknowledged _ _ _ hnone => exact absurd (hnone.symm.trans htx) (by simp)
  | reliableReceived counter now | takePiggyback => exact fun tx htx => .inl htx
  | timeout now r => exact timeout_setsTimely m now r
  | peerActivity now => exact fun tx htx => .inl htx
  | close => exact fun tx htx => absurd htx (by simp [step, Mrp.close])

/-! ## The message is settled at most once -/

lemma onSend_eq_ok {m m' : Mrp} {now : Instant} {r : UInt32} (h : m.onSend counter now r = .ok m') :
    m'.pendingTx = some ⟨counter, 1, m.retryAt 0 now r⟩ := by
  unfold onSend at h
  split at h
  · exact absurd h (by simp)
  · rw [← Except.ok.inj h]

/-- The ladder of a message: its attempts in order, then at most one settlement. -/
lemma ladder {k : ℕ} (hk : 1 + k ≤ 5) (c : UInt32) :
    (List.range' 1 k).map (fun n => (c, UInt32.ofNat n)) <+: [(c, 1), (c, 2), (c, 3), (c, 4)] := by
  have hprefix : List.range' 1 k <+: List.range' 1 4 := by
    obtain ⟨rest, hrest⟩ := Nat.exists_eq_add_of_le (show k ≤ 4 by omega)
    rw [hrest, ← List.range'_append_1]
    exact List.prefix_append _ _
  exact hprefix.map _

lemma retransmissions_ladder {ns : List ℕ} {tail : List Answer}
    (htail : tail = [] ∨ tail = [.timedOut (.giveUp c)] ∨ tail = [.acked true]) :
    retransmissions (ns.map (fun n => .timedOut (.retransmit c (UInt32.ofNat n))) ++ tail) =
      ns.map fun n => (c, UInt32.ofNat n) := by
  induction ns with
  | nil =>
    rcases htail with rfl | rfl | rfl
    · rfl
    · rfl
    · rfl
  | cons n ns ih => exact congrArg ((c, UInt32.ofNat n) :: ·) ih

lemma giveUps_ladder (ns : List ℕ) (tail : List Answer) :
    giveUps (ns.map (fun n => .timedOut (.retransmit c (UInt32.ofNat n))) ++ tail) = giveUps tail := by
  induction ns with
  | nil => rfl
  | cons n ns ih => exact ih

lemma settlements_ladder (ns : List ℕ) (tail : List Answer) :
    settlements (ns.map (fun n => .timedOut (.retransmit c (UInt32.ofNat n))) ++ tail) =
      settlements tail := by
  induction ns with
  | nil => rfl
  | cons n ns ih =>
    rw [List.map_cons, List.cons_append, settlements, List.count_cons_of_ne (by simp)]
    exact ih

lemma run_append_singleton (m : Mrp) (events : List Event) (e : Event) :
    m.run (events ++ [e]) = ((m.run events).step e).2 := by
  unfold run
  rw [List.foldl_append]
  rfl

/-- An acknowledgement that settles is of the pending counter, and leaves nothing pending. -/
lemma acknowledges_clears (h : m.acknowledges counter = true) (now : Instant) :
    (∃ tx, m.pendingTx = some tx ∧ tx.counter = counter) ∧ (m.onAck counter now).pendingTx = none := by
  unfold acknowledges at h
  unfold onAck notePeerActivity
  rcases hp : m.pendingTx with _ | tx
  · rw [hp] at h
    exact absurd h (by simp)
  · rw [hp] at h
    have hcounter : tx.counter = counter := of_decide_eq_true h
    exact ⟨⟨tx, rfl, hcounter⟩, by simp only [hcounter, if_true]⟩

/-- The pending message stays the same one. -/
lemma run_counter (hsome : m.pendingTx = some tx) (hnext : ∀ a ∈ m.answers events, a.isSent = false)
    {tx' : PendingTx} (hsome' : (m.run events).pendingTx = some tx') : tx'.counter = tx.counter := by
  induction events using List.reverseRecOn generalizing tx' with
  | nil => rw [Option.some.inj (hsome'.symm.trans hsome)]
  | append_singleton events e ih =>
    rw [answers_append] at hnext
    obtain ⟨hbefore, hlast⟩ := List.forall_mem_append.mp hnext
    rw [run_append_singleton] at hsome'
    cases step_settles (hlast _ List.mem_cons_self) with
    | keeps _ hkept => exact ih hbefore (hkept.symm.trans hsome')
    | drops _ hnone => exact absurd (hnone.symm.trans hsome') (by simp)
    | retransmits tx'' _ hpending _ _ hset =>
      have hcounter := congrArg PendingTx.counter (Option.some.inj (hset.symm.trans hsome'))
      have hkept := ih hbefore hpending
      exact hcounter.symm.trans hkept
    | givesUp _ _ _ _ hnone | acknowledged _ _ _ hnone => exact absurd (hnone.symm.trans hsome') (by simp)

/-- Between a message that is accepted and the next one, at most four retransmissions of it are asked
for, as attempts one to four in order; it is settled at most once, by giving up or by an acknowledgement
of its counter, and nothing more is heard of it after that; and every deadline is timely. -/
theorem onSend_settled_once {m m' : Mrp} {c : UInt32} {now : Instant} {r : UInt32}
    (hsend : m.onSend c now r = .ok m') {events : List Event}
    (hnext : ∀ a ∈ m'.answers events, a.isSent = false) :
    retransmissions (m'.answers events) <+: [(c, 1), (c, 2), (c, 3), (c, 4)] ∧
    giveUps (m'.answers events) <+: [c] ∧
    (giveUps (m'.answers events)).length + settlements (m'.answers events) ≤ 1 ∧
    (∀ before d at' after, events = before ++ .ack d at' :: after →
      (m'.run before).acknowledges d = true →
        d = c ∧ retransmissions ((m'.run (before ++ [.ack d at'])).answers after) = [] ∧
        giveUps ((m'.run (before ++ [.ack d at'])).answers after) = []) ∧
    (∀ before e after, .send c now r :: events = before ++ e :: after →
      (m.run before).SetsTimely e) := by
  obtain ⟨k, tail, hk, hfilter, htail⟩ :=
    pending_answers (onSend_eq_ok hsend) (show (1 : UInt32).toNat ≤ 5 by decide) hnext
  have hfirst : (1 : UInt32).toNat = 1 := rfl
  simp only [hfirst] at hk hfilter
  refine ⟨?_, ?_, ?_, ?_, ?_⟩
  · rw [← retransmissions_filter, hfilter, retransmissions_ladder htail]
    exact ladder hk c
  · rw [← giveUps_filter, hfilter, giveUps_ladder]
    rcases htail with rfl | rfl | rfl
    · exact List.nil_prefix
    · exact List.prefix_rfl
    · exact List.nil_prefix
  · rw [← giveUps_filter, ← settlements_filter, hfilter, giveUps_ladder, settlements_ladder]
    rcases htail with rfl | rfl | rfl
    · exact Nat.zero_le 1
    · exact Nat.le_refl 1
    · exact Nat.le_refl 1
  · rintro before d at' after rfl hacked
    rw [answers_append] at hnext
    obtain ⟨hbefore, hafter⟩ := List.forall_mem_append.mp hnext
    obtain ⟨-, hafter⟩ := List.forall_mem_cons.mp hafter
    obtain ⟨hcounter, hnone⟩ := acknowledges_clears hacked at'
    have hsilent := answers_of_none hnone hafter
    rw [run_append_singleton]
    refine ⟨?_, ?_, ?_⟩
    · obtain ⟨tx, hsome, rfl⟩ := hcounter
      exact run_counter (onSend_eq_ok hsend) hbefore hsome
    · rw [← retransmissions_filter, step, hsilent]
      rfl
    · rw [← giveUps_filter, step, hsilent]
      rfl
  · exact fun before e after _ => step_setsTimely _ _

/-- A peer with zero intervals, one message, and the acknowledgement after the third retransmission. -/
theorem onSend_settled_once_acked :
    let m := new ⟨.fromMillis 0, .fromMillis 0, .fromMillis 0⟩
    let m' : Mrp := { m with pendingTx := some ⟨7, 1, ⟨5⟩⟩ }
    let events : List Event :=
      [.timeout ⟨5⟩ 1, .send 8 ⟨6⟩ 0, .timeout ⟨6⟩ 2, .ack 6 ⟨6⟩, .timeout ⟨6⟩ 3, .ack 7 ⟨7⟩,
        .timeout ⟨8⟩ 4]
    retransmissions (m'.answers events) = [(7, 1), (7, 2), (7, 3)] ∧
      retransmissions (m'.answers events) <+: [(7, 1), (7, 2), (7, 3), (7, 4)] :=
  have hsend : (new ⟨.fromMillis 0, .fromMillis 0, .fromMillis 0⟩).onSend 7 ⟨5⟩ 0 =
      .ok { new ⟨.fromMillis 0, .fromMillis 0, .fromMillis 0⟩ with
        pendingTx := some ⟨7, 1, ⟨5⟩⟩ } := by decide +kernel
  ⟨by decide +kernel, (onSend_settled_once hsend (by decide +kernel)).1⟩

end Mrp

end MatterKit
