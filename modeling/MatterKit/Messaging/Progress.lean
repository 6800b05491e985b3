import MatterKit.Messaging.Acknowledge
import MatterKit.Messaging.Consistency

/-!
# Driving the timers

A driver sleeps until `wake_at`, polls until nothing is due, and answers what `poll` asks for: `settle`
is that loop. It always ends (`settle_isSome`), because every round either uses up one of the finitely
many timeouts an exchange can produce or closes the exchange, whatever the intervals the peer announced.

Whether the driver then may sleep is another matter. An exchange is reclaimed when it has been idle for
*longer* than the timeout, but the deadline `wake_at` computes for it is the instant at which it has
been idle for *exactly* that long. At that instant `poll` finds nothing to do and `wake_at` does not
move.
-/

namespace MatterKit

open Lib

variable {S X : ℕ}

/-! ## Exchanges that cannot be reclaimed yet -/

/-- At `now` the exchange is at the deadline `reap_deadline` computes for it, not past it, and
nothing that `poll` still has to serve will close it. -/
def Exchange.Stuck (e : Exchange) (now : Instant) : Prop :=
  e.mrp.pendingTx = none ∧ e.lastActivity.saturatingAdd exchangeIdleTimeout = now ∧
    ¬ (e.ephemeral = true ∧ ∃ ack, e.mrp.pendingAck = some ack ∧ ack.deadline ≤ now)

namespace Exchange

lemma not_stuck_of_pendingTx {e : Exchange} {tx : PendingTx} (h : e.mrp.pendingTx = some tx)
    (now : Instant) : ¬ e.Stuck now := by
  intro hstuck
  have hnone := hstuck.1
  rw [h] at hnone
  cases hnone

/-- An exchange at its deadline is not abandoned: it has been idle for exactly the timeout. -/
lemma Stuck.not_abandoned {e : Exchange} {now : Instant} (h : e.Stuck now) :
    e.isAbandoned now exchangeIdleTimeout = false := by
  rw [Bool.eq_false_iff]
  intro hab
  obtain ⟨-, hlt⟩ := isAbandoned_eq_true_iff.mp hab
  have hdeadline := Instant.toNat_saturatingAdd e.lastActivity exchangeIdleTimeout
  rw [h.2.1] at hdeadline
  omega

/-- An exchange that is neither retransmitting nor abandoned has its deadline in the future, or is
at it. -/
lemma deadline_of_not_abandoned {e : Exchange} {now : Instant} (htx : e.mrp.pendingTx = none)
    (h : e.isAbandoned now exchangeIdleTimeout = false) :
    now ≤ e.lastActivity.saturatingAdd exchangeIdleTimeout := by
  rw [Bool.eq_false_iff, ne_eq, isAbandoned_eq_true_iff, not_and] at h
  have hidle := h htx
  have hnow := now.micros.toNat_lt
  rw [Instant.le_def, Instant.toNat_saturatingAdd]
  omega

end Exchange

namespace ExchangeTable

variable {N : ℕ}

/-- Whether some open exchange is at its deadline. -/
def Stuck (t : ExchangeTable N) (now : Instant) : Prop := ∃ e ∈ t.entries, e.Stuck now

lemma stuck_reap_iff (t : ExchangeTable N) (now : Instant) :
    (t.reap now exchangeIdleTimeout).Stuck now ↔ t.Stuck now := by
  constructor
  · intro ⟨e, he, hstuck⟩
    exact ⟨e, List.mem_of_mem_filter he, hstuck⟩
  · intro ⟨e, he, hstuck⟩
    refine ⟨e, List.mem_filter.mpr ⟨he, ?_⟩, hstuck⟩
    rw [hstuck.not_abandoned]
    rfl

variable {t : ExchangeTable N} {e : Exchange} {f : Exchange → Exchange} {now : Instant}
  {key : ExchangeKey}

/-- An update that neither frees nor blocks its exchange. -/
lemma stuck_modify_iff (hu : t.Unique) (he : e ∈ t.entries) (hf : (f e).Stuck now ↔ e.Stuck now) :
    (t.modify e.key f).Stuck now ↔ t.Stuck now := by
  constructor
  · intro ⟨x, hx, hstuck⟩
    rcases (mem_modify_iff hu).mp hx with ⟨hx, -⟩ | ⟨y, hy, hkey, rfl⟩
    · exact ⟨x, hx, hstuck⟩
    · obtain rfl : y = e := KeysUnique.eq_of_key_eq hu hy he hkey
      exact ⟨y, hy, hf.mp hstuck⟩
  · intro ⟨x, hx, hstuck⟩
    by_cases hkey : x.key = e.key
    · obtain rfl : x = e := KeysUnique.eq_of_key_eq hu hx he hkey
      exact ⟨f x, (mem_modify_iff hu).mpr (.inr ⟨x, hx, rfl, rfl⟩), hf.mpr hstuck⟩
    · exact ⟨x, (mem_modify_iff hu).mpr (.inl ⟨hx, hkey⟩), hstuck⟩

/-- Updating and closing an exchange that is not stuck. -/
lemma stuck_modify_close_iff (hu : t.Unique) (he : e ∈ t.entries) (hkey : ∀ x, (f x).key = x.key)
    (hnot : ¬ e.Stuck now) : ((t.modify e.key f).close e.key).Stuck now ↔ t.Stuck now := by
  have hu' : (t.modify e.key f).Unique := (Within.modify t e.key hkey).unique hu
  constructor
  · intro ⟨x, hx, hstuck⟩
    obtain ⟨hx, hne⟩ := (mem_close_iff hu').mp hx
    rcases (mem_modify_iff hu).mp hx with ⟨hx, -⟩ | ⟨y, hy, hykey, rfl⟩
    · exact ⟨x, hx, hstuck⟩
    · rw [hkey] at hne
      exact absurd hykey hne
  · intro ⟨x, hx, hstuck⟩
    have hne : x.key ≠ e.key := by
      intro heq
      obtain rfl : x = e := KeysUnique.eq_of_key_eq hu hx he heq
      exact hnot hstuck
    exact ⟨x, (mem_close_iff hu').mpr ⟨(mem_modify_iff hu).mpr (.inl ⟨hx, hne⟩), hne⟩, hstuck⟩

/-! ## How much is left to do -/

/-- One for every open exchange and one for every timeout it can still produce. -/
def work (t : ExchangeTable N) : ℕ := (t.entries.map fun e => e.mrp.pendingWork + 1).sum

lemma work_reap_le (t : ExchangeTable N) (now : Instant) (idle : Duration) :
    (t.reap now idle).work ≤ t.work := by
  unfold work
  rw [entries_reap]
  exact (List.filter_sublist.map _).sum_le_sum fun _ _ => Nat.zero_le _

lemma work_modify (hfind : t.find key = some e) (f : Exchange → Exchange) :
    (t.modify key f).work + e.mrp.pendingWork = t.work + (f e).mrp.pendingWork := by
  have hsum := sum_map_modifyFirst (f := f) (fun x : Exchange => x.mrp.pendingWork + 1) hfind
  unfold work
  rw [entries_modify]
  omega

/-- Closing an open exchange leaves less to do. -/
lemma work_close_lt (hfind : t.find key = some e) : (t.close key).work < t.work := by
  obtain ⟨he, hkey⟩ := find_eq_some hfind
  unfold close
  rcases hr : t.openExchanges.removeFirst fun e => decide (e.key = key) with _ | v
  · have hnone := BoundedVec.removeFirst_eq_none_iff.mp hr e he
    simp [hkey] at hnone
  · obtain ⟨a, -, -, hsum⟩ :=
      BoundedVec.sum_map_removeFirst (fun x : Exchange => x.mrp.pendingWork + 1) hr
    show (v.toList.map _).sum < (t.openExchanges.toList.map _).sum
    omega

lemma work_modify_close_lt (hfind : t.find key = some e) (hkey : ∀ x, (f x).key = x.key)
    (hle : (f e).mrp.pendingWork ≤ e.mrp.pendingWork) : ((t.modify key f).close key).work < t.work := by
  have hmod := work_modify hfind f
  have hfind' : (t.modify key f).find key = some (f e) := by
    rw [find_modify _ _ _ hkey, if_pos rfl, hfind]
    rfl
  have hclose := work_close_lt hfind'
  omega

/-- What serving one timer does to the table: less is left to do, and what was stuck still is. -/
structure Served (t' t : ExchangeTable N) (now : Instant) : Prop where
  unique : t'.Unique
  work : t'.work < t.work
  stuck : t'.Stuck now ↔ t.Stuck now

namespace Served

variable {t : ExchangeTable N} {e : Exchange} {mrp : Mrp} {now : Instant}

lemma setMrp (hu : t.Unique) (he : e ∈ t.entries) (hwork : mrp.pendingWork < e.mrp.pendingWork)
    (hstuck : { e with mrp := mrp }.Stuck now ↔ e.Stuck now) :
    (t.modify e.key fun x => { x with mrp := mrp }).Served t now where
  unique := (Within.modify t e.key (f := fun x => { x with mrp := mrp }) fun _ => rfl).unique hu
  work := by
    have hmod := work_modify ((find_eq_some_iff hu).mpr ⟨he, rfl⟩) fun x => { x with mrp := mrp }
    simp only at hmod
    omega
  stuck := stuck_modify_iff hu he hstuck

lemma setMrp_close (hu : t.Unique) (he : e ∈ t.entries)
    (hwork : mrp.pendingWork ≤ e.mrp.pendingWork) (hnot : ¬ e.Stuck now) :
    ((t.modify e.key fun x => { x with mrp := mrp }).close e.key).Served t now where
  unique := (Within.close _ _).unique
    ((Within.modify t e.key (f := fun x => { x with mrp := mrp }) fun _ => rfl).unique hu)
  work := work_modify_close_lt ((find_eq_some_iff hu).mpr ⟨he, rfl⟩) (fun _ => rfl) hwork
  stuck := stuck_modify_close_iff hu he (f := fun x => { x with mrp := mrp }) (fun _ => rfl) hnot

end Served

end ExchangeTable

namespace Messaging

/-! ## The driver's loop -/

/-- How the owner answers what `poll` asked for: it acknowledges, or it sends the octets of the
message again, which changes nothing here. -/
def answer (c : Crypto) (m : Messaging S X) (due : Due) (now : Instant) (outLen : ℕ) :
    Messaging S X :=
  match due with
  | .acknowledge exchange => (m.acknowledge c exchange now outLen).2
  | .retransmit _ _ | .abandoned _ => m

/-- Polls at `now` until nothing is due, answering every time; `none` when `n` rounds were not
enough. The randomness of each round is arbitrary. -/
def settle (c : Crypto) (draws : ℕ → UInt32) (now : Instant) (outLen : ℕ) :
    ℕ → Messaging S X → Option (Messaging S X)
  | 0, _ => none
  | n + 1, m =>
    match m.poll now (draws n) with
    | (none, m) => some m
    | (some due, m) => settle c draws now outLen n (m.answer c due now outLen)

/-! ## One round -/

variable {now : Instant} {e : Exchange} {m : Messaging S X}

lemma expired_eq_true_iff : expired now e = true ↔ e.mrp.due now := by
  unfold expired Mrp.due
  rcases e.mrp.pollDeadline with _ | t
  · simp
  · simp

/-- What `poll` does where keys are unique: nothing is due and it only reclaims, or the first
exchange with an expired timer is served, in one of three ways. -/
lemma poll_cases (hu : m.exchanges.Unique) (now : Instant) (r : UInt32) :
    ((∀ e ∈ (m.reap now).exchanges.entries, ¬ e.mrp.due now) ∧
      m.poll now r = (none, m.reap now)) ∨
    (∃ e ∈ (m.reap now).exchanges.entries, ∃ ack, e.mrp.pendingAck = some ack ∧
      ack.deadline ≤ now ∧ m.poll now r = (some (.acknowledge e.key),
        (m.reap now).updateExchange e.key fun x =>
          { x with mrp := { e.mrp with pendingAck := none } })) ∨
    (∃ e ∈ (m.reap now).exchanges.entries, ∃ tx, e.mrp.pendingTx = some tx ∧
      m.poll now r = (some (.abandoned e.key),
        ((m.reap now).updateExchange e.key fun x =>
          { x with mrp := { e.mrp with pendingTx := none } }).close e.key)) ∨
    (∃ e ∈ (m.reap now).exchanges.entries, ∃ tx at', e.mrp.pendingTx = some tx ∧
      ¬ mrpMaxTransmissions ≤ tx.sent ∧
      m.poll now r = (some (.retransmit e.key tx.counter),
        (m.reap now).updateExchange e.key fun x =>
          { x with mrp :=
            { e.mrp with pendingTx := some ⟨tx.counter, tx.sent + 1, at'⟩ } })) := by
  have hu' : (m.reap now).exchanges.Unique := (ExchangeTable.Within.reap _ _ _).unique hu
  unfold poll
  rcases hfirst : (m.reap now).exchanges.entries.find? (expired now) with _ | e
  · left
    refine ⟨?_, by simp only [hfirst]⟩
    intro e he hdue
    exact List.find?_eq_none.mp hfirst e he (expired_eq_true_iff.mpr hdue)
  · right
    have he : e ∈ (m.reap now).exchanges.entries := List.mem_of_find?_eq_some hfirst
    have hdue : e.mrp.due now := expired_eq_true_iff.mp (List.find?_some hfirst)
    have hfind : (m.reap now).exchanges.find e.key = some e :=
      (ExchangeTable.find_eq_some_iff hu').mpr ⟨he, rfl⟩
    rcases Mrp.onTimeout_cases hdue r with
      ⟨ack, hack, hle, heq⟩ | ⟨tx, htx, -, -, heq⟩ | ⟨tx, at', htx, -, hmax, heq⟩
    · left
      refine ⟨e, he, ack, hack, hle, ?_⟩
      simp only [hfirst, hfind, heq]
    · right
      left
      refine ⟨e, he, tx, htx, ?_⟩
      simp only [hfirst, hfind, heq]
    · right
      right
      refine ⟨e, he, tx, at', htx, hmax, ?_⟩
      simp only [hfirst, hfind, heq]

/-- Answering a request to acknowledge: the acknowledgement is gone by then, so all it does is close
what was open for it. -/
lemma answer_acknowledge (c : Crypto) {key : ExchangeKey} (hfind : m.exchanges.find key = some e)
    (hnone : e.mrp.pendingAck = none) (now : Instant) (outLen : ℕ) :
    m.answer c (.acknowledge key) now outLen = m.closeIfEphemeral key e.ephemeral := by
  show (m.acknowledge c key now outLen).2 = m.closeIfEphemeral key e.ephemeral
  rw [acknowledge_of_pendingAck_none c hfind hnone]

/-- One round: `poll` reclaims and serves a timer, and what it asked for is answered. -/
lemma served_of_poll (c : Crypto) {m m' : Messaging S X} (hu : m.exchanges.Unique) {r : UInt32}
    {due : Due} (h : m.poll now r = (some due, m')) (outLen : ℕ) :
    (m'.answer c due now outLen).exchanges.Served (m.reap now).exchanges now := by
  have hu' : (m.reap now).exchanges.Unique := (ExchangeTable.Within.reap _ _ _).unique hu
  rcases poll_cases hu now r with
    ⟨-, heq⟩ | ⟨e, he, ack, hack, hle, heq⟩ | ⟨e, he, tx, htx, heq⟩ | ⟨e, he, tx, at', htx, hmax, heq⟩
  · rw [heq] at h
    simp at h
  · rw [heq] at h
    obtain ⟨rfl, rfl⟩ : _ ∧ _ := by simpa using h
    have hclear := Mrp.pendingWork_clear_ack hack
    have hfind : ((m.reap now).updateExchange e.key fun x =>
        { x with mrp := { e.mrp with pendingAck := none } }).exchanges.find e.key =
          some { e with mrp := { e.mrp with pendingAck := none } } := by
      have hmod := ExchangeTable.find_modify (m.reap now).exchanges e.key e.key
        (f := fun x => { x with mrp := { e.mrp with pendingAck := none } }) fun _ => rfl
      rw [if_pos rfl, (ExchangeTable.find_eq_some_iff hu').mpr ⟨he, rfl⟩] at hmod
      exact hmod
    rw [answer_acknowledge c hfind rfl]
    unfold closeIfEphemeral
    split
    · rename_i heph
      apply ExchangeTable.Served.setMrp_close hu' he hclear.le
      intro hstuck
      exact hstuck.2.2 ⟨heph, ack, hack, hle⟩
    · rename_i heph
      have heph' : ¬ e.ephemeral = true := heph
      apply ExchangeTable.Served.setMrp hu' he hclear
      simp [Exchange.Stuck, heph']
  · rw [heq] at h
    obtain ⟨rfl, rfl⟩ : _ ∧ _ := by simpa using h
    apply ExchangeTable.Served.setMrp_close hu' he
    · simp [Mrp.pendingWork]
    · exact Exchange.not_stuck_of_pendingTx htx now
  · rw [heq] at h
    obtain ⟨rfl, rfl⟩ : _ ∧ _ := by simpa using h
    apply ExchangeTable.Served.setMrp hu' he
    · exact Mrp.pendingWork_retransmit htx hmax at'
    · exact iff_of_false (Exchange.not_stuck_of_pendingTx rfl now)
        (Exchange.not_stuck_of_pendingTx htx now)

/-! ## When the driver may sleep -/

/-- The earliest of a list of instants is later than `now` when all are. -/
lemma min?_later_iff {l : List Instant} : (∀ t, l.min? = some t → now < t) ↔ ∀ t ∈ l, now < t := by
  constructor
  · intro h t ht
    rcases hmin : l.min? with _ | a
    · rw [List.min?_eq_none_iff] at hmin
      rw [hmin] at ht
      cases ht
    · exact lt_of_lt_of_le (h a hmin) ((List.min?_eq_some_iff.mp hmin).2 t ht)
  · intro h t ht
    exact h t (List.min?_mem ht)

/-- The next deadline is later exactly if no exchange has anything to do by now. -/
lemma wakeAt_later_iff : (m.wakeAt = none ∨ ∃ t, m.wakeAt = some t ∧ now < t) ↔
      ∀ e ∈ m.exchanges.entries, ¬ e.mrp.due now ∧
        (e.mrp.pendingTx = none → now < e.lastActivity.saturatingAdd exchangeIdleTimeout) := by
  have hsplit : (m.wakeAt = none ∨ ∃ t, m.wakeAt = some t ∧ now < t) ↔
      (∀ t, m.exchanges.pollDeadline = some t → now < t) ∧
        (∀ t, m.exchanges.reapDeadline exchangeIdleTimeout = some t → now < t) := by
    unfold wakeAt
    rcases m.exchanges.pollDeadline with _ | a <;>
      rcases m.exchanges.reapDeadline exchangeIdleTimeout with _ | b <;> simp
    split
    · rename_i hab
      exact ⟨fun h => ⟨h, h.trans_le hab⟩, And.left⟩
    · rename_i hab
      exact ⟨fun h => ⟨h.trans (not_le.mp hab), h⟩, And.right⟩
  rw [hsplit]
  unfold ExchangeTable.pollDeadline ExchangeTable.reapDeadline
  rw [min?_later_iff, min?_later_iff]
  constructor
  · intro ⟨hpoll, hreap⟩ e he
    refine ⟨?_, ?_⟩
    · intro ⟨t, ht, hle⟩
      exact absurd (hpoll t (List.mem_filterMap.mpr ⟨e, he, ht⟩)) (not_lt.mpr hle)
    · intro htx
      apply hreap
      refine List.mem_map.mpr ⟨e, List.mem_filter.mpr ⟨he, ?_⟩, rfl⟩
      simp [Mrp.isAwaitingAck, htx]
  · intro h
    refine ⟨?_, ?_⟩
    · intro t ht
      obtain ⟨e, he, hdeadline⟩ := List.mem_filterMap.mp ht
      exact not_le.mp fun hle => (h e he).1 ⟨t, hdeadline, hle⟩
    · intro t ht
      obtain ⟨e, he, rfl⟩ := List.mem_map.mp ht
      obtain ⟨he, hawait⟩ := List.mem_filter.mp he
      exact (h e he).2 (by simpa [Mrp.isAwaitingAck] using hawait)

/-- Where no timer is due and everything abandoned has been reclaimed, only a stuck exchange keeps
`wakeAt` from moving on. -/
lemma wakeAt_reap_later_iff (hquiet : ∀ e ∈ (m.reap now).exchanges.entries, ¬ e.mrp.due now) :
    ((m.reap now).wakeAt = none ∨ ∃ t, (m.reap now).wakeAt = some t ∧ now < t) ↔
      ¬ (m.reap now).exchanges.Stuck now := by
  rw [wakeAt_later_iff]
  constructor
  · intro h ⟨e, he, htx, hdeadline, _⟩
    have hlater := (h e he).2 htx
    rw [hdeadline] at hlater
    exact lt_irrefl _ hlater
  · intro h e he
    refine ⟨hquiet e he, ?_⟩
    intro htx
    have hkept : e.isAbandoned now exchangeIdleTimeout = false := by
      have := (List.mem_filter.mp he).2
      simpa using this
    refine lt_of_le_of_ne (Exchange.deadline_of_not_abandoned htx hkept) ?_
    intro hdeadline
    apply h
    refine ⟨e, he, htx, hdeadline.symm, ?_⟩
    rintro ⟨-, hack⟩
    exact hquiet e he (Mrp.due_iff.mpr (.inl hack))

/-! ## The loop -/

/-- The loop ends: `work` bounds the number of rounds. -/
lemma settle_isSome (c : Crypto) (draws : ℕ → UInt32) (now : Instant) (outLen n : ℕ)
    (hu : m.exchanges.Unique) (hn : m.exchanges.work < n) : (settle c draws now outLen n m).isSome := by
  induction n generalizing m with
  | zero => omega
  | succ n ih =>
    unfold settle
    split
    · rfl
    · rename_i due m' hpoll
      have hserved := served_of_poll c hu hpoll outLen
      have hreap : (m.reap now).exchanges.work ≤ m.exchanges.work :=
        ExchangeTable.work_reap_le _ _ _
      have hless := hserved.work
      exact ih hserved.unique (by omega)

/-- Where the loop ends: no timer is due, everything abandoned is gone, and what was stuck still
is. -/
lemma settle_eq_some (c : Crypto) (draws : ℕ → UInt32) (now : Instant) (outLen n : ℕ)
    {m m' : Messaging S X} (hu : m.exchanges.Unique) (h : settle c draws now outLen n m = some m') :
    (m'.wakeAt = none ∨ ∃ t, m'.wakeAt = some t ∧ now < t) ↔ ¬ m.exchanges.Stuck now := by
  induction n generalizing m with
  | zero => cases h
  | succ n ih =>
    unfold settle at h
    split at h
    · rename_i m₁ hpoll
      obtain rfl := Option.some.inj h
      rcases poll_cases hu now (draws n) with
        ⟨hquiet, heq⟩ | ⟨e, _, ack, _, _, heq⟩ | ⟨e, _, tx, _, heq⟩ | ⟨e, _, tx, at', _, _, heq⟩
      · rw [hpoll] at heq
        obtain rfl := (Prod.mk.inj heq).2
        rw [wakeAt_reap_later_iff hquiet]
        exact not_congr (ExchangeTable.stuck_reap_iff _ _)
      all_goals
        rw [hpoll] at heq
        simp at heq
    · rename_i due m₁ hpoll
      have hserved := served_of_poll c hu hpoll outLen
      rw [ih hserved.unique h, hserved.stuck]
      exact not_congr (ExchangeTable.stuck_reap_iff _ _)

/-- **When honouring `wake_at` makes progress.** Polling at `now` until nothing is due comes to an end,
and then `wake_at` is none or later than `now` exactly when no exchange was stuck at `now`: idle for
exactly the timeout, with no retransmission pending and no acknowledgement that would close it. -/
theorem settle_advances_iff {c : Crypto} {m : Messaging S X} (h : Reachable c m)
    (draws : ℕ → UInt32) (now : Instant) (outLen : ℕ) : (∃ n, (settle c draws now outLen n m).isSome) ∧
      ∀ n m', settle c draws now outLen n m = some m' →
        ((m'.wakeAt = none ∨ ∃ t, m'.wakeAt = some t ∧ now < t) ↔
          ∀ e ∈ m.exchanges.entries, ¬ e.Stuck now) := by
  have hu : m.exchanges.Unique := h.consistent.exchanges_unique
  refine ⟨⟨_, settle_isSome c draws now outLen _ hu (Nat.lt_succ_self _)⟩, ?_⟩
  intro n m' hsettle
  rw [settle_eq_some c draws now outLen n hu hsettle]
  unfold ExchangeTable.Stuck
  push Not
  rfl

/-- A node that has opened one exchange and then heard nothing. -/
def idleNode : Messaging 2 2 :=
  (Messaging.new 1 1 0).after .tagByKey (.openUnsecured .secureChannel ⟨0⟩ 1)

lemma reachable_idleNode : Reachable .tagByKey idleNode := (Reachable.new 1 1 0).step _ trivial

/-- It is to be woken after sixty seconds, finds nothing due, and is to be woken at the same
instant again. -/
theorem settle_spins_at_deadline : Reachable .tagByKey idleNode ∧ idleNode.wakeAt = some ⟨60000000⟩ ∧
      (idleNode.poll ⟨60000000⟩ 0).1 = none ∧ (idleNode.poll ⟨60000000⟩ 0).2.wakeAt = some ⟨60000000⟩ :=
  ⟨reachable_idleNode, by decide +kernel, by decide +kernel, by decide +kernel⟩

/-- A node that owes an acknowledgement, on the other hand, is woken for it and then sleeps on. -/
theorem settle_advances_hello :
    let m : Messaging 2 2 := (Messaging.new 1 1 0).after .tagByKey
      (.receive (hello 77 5 9) (udpPeer 5540) ⟨0⟩)
    m.wakeAt = some ⟨200000⟩ ∧
      ∀ n m', settle .tagByKey (fun _ => 0) ⟨200000⟩ 1280 n m = some m' →
        m'.wakeAt = none ∨ ∃ t, m'.wakeAt = some t ∧ ⟨200000⟩ < t := by
  intro m
  refine ⟨by decide +kernel, ?_⟩
  intro n m' h
  have hm : Reachable .tagByKey m := (Reachable.new 1 1 0).step _ trivial
  apply ((settle_advances_iff hm (fun _ => 0) ⟨200000⟩ 1280).2 n m' h).mpr
  have hentries : m.exchanges.entries.all fun e =>
      decide (e.lastActivity.saturatingAdd exchangeIdleTimeout ≠ ⟨200000⟩) := by decide +kernel
  intro e he hstuck
  have hne := List.all_eq_true.mp hentries e he
  exact of_decide_eq_true hne hstuck.2.1

end Messaging

end MatterKit
