import MatterKit.Bdx.Transfer
import MatterKit.Lib.Runs

/-!
# Transfers with skips

`bdx/transfer.rs`, the two halves of a transfer in receiver drive, each query and each block handed to
the other half (`Transfer.step`). The halves stay in step (`Synced`): a block that the sender may send
is one that the receiver takes.

A query that skips moves the cursor and not the count of octets sent, and it is the count alone that the
end of a definite length is judged by. So a transfer whose cursor has come to the end may not be able to
end, and `room` may offer more than is left.
-/

namespace MatterKit.Bdx

open Lib

/-- Both halves of a transfer. -/
structure Transfer where
  sender : Sender
  receiver : Receiver

/-- What the application of one end has its half do; the message goes to the other half. -/
inductive Op
  | query (skip : UInt64)
  | block (len : ℕ) (eof : Bool)
  | ack

/-- A block that the sender may send: it is its turn, and the block passes both checks. -/
def Sender.takes (s : Sender) (len : ℕ) (eof : Bool) : Bool :=
  s.maySend && fitsBlock s.params len eof &&
    (checkedAdd s.sent (toU64 len)).any fun total => fitsLength s.params total eof

namespace Transfer

/-- Both ends have agreed on the parameters. -/
def start (p : Parameters) : Transfer := ⟨.new p, .new p⟩

/-- One message. What a half refuses to send is not sent. -/
def step (t : Transfer) : Op → Transfer
  | .query skip =>
    match t.receiver.query with
    | .error _ => t
    | .ok (counter, receiver) =>
      match t.sender.onQueryWithSkip counter skip with
      | .error _ => { t with receiver := receiver }
      | .ok (_, sender) => ⟨sender, receiver⟩
  | .block len eof =>
    match t.sender.block len eof with
    | .error _ => t
    | .ok (counter, sender) =>
      match t.receiver.onBlock counter len eof with
      | .error _ => { t with sender := sender }
      | .ok receiver => ⟨sender, receiver⟩
  | .ack =>
    match t.receiver.ack with
    | .error _ => t
    | .ok ((eof, counter), receiver) =>
      match t.sender.onAck counter eof with
      | .error _ => { t with receiver := receiver }
      | .ok sender => ⟨sender, receiver⟩

/-- The sender sends an empty last block, and the receiver takes it. -/
def TakesEof (t : Transfer) : Prop :=
  ∃ counter sender receiver, t.sender.block 0 true = .ok (counter, sender) ∧
    t.receiver.onBlock counter 0 true = .ok receiver

/-- A query at or past the end of the agreed range can be answered with an empty last block, and the room
for the next block does not reach beyond that end. Without a length there is no end. -/
def Ends (t : Transfer) : Prop :=
  (t.sender.queried = true →
    (∀ length, t.sender.params.length = some length →
      t.sender.params.startOffset.toNat + length.toNat ≤ t.sender.cursor.toNat) → t.TakesEof) ∧
  ∀ length, t.sender.params.length = some length →
    t.sender.room ≤ t.sender.params.startOffset.toNat + length.toNat - t.sender.cursor.toNat

/-- The cursor is not ahead of the octets sent, or they have all been sent, or a block that starts at the
cursor ends within the agreed range. -/
def inReach (p : Parameters) (cursor sent : UInt64) : Bool :=
  match p.length with
  | none => true
  | some length =>
    decide (cursor.toNat ≤ p.startOffset.toNat + sent.toNat) || sent == length ||
      decide (cursor.toNat + p.maxBlockSize.toNat ≤ p.startOffset.toNat + length.toNat ∧
        cursor.toNat < p.startOffset.toNat + length.toNat)

/-- What the message leaves is in reach, if it is one that can be sent. -/
def spares (t : Transfer) : Op → Bool
  | .query skip =>
    t.sender.queried || t.sender.finished ||
      inReach t.sender.params (satAdd t.sender.cursor skip) t.sender.sent
  | .block len eof =>
    !t.sender.takes len eof ||
      inReach t.sender.params (satAdd t.sender.cursor (toU64 len)) (t.sender.sent + toU64 len)
  | .ack => true

/-- The two halves agree on what has been asked, sent and ended. -/
structure Synced (p : Parameters) (t : Transfer) : Prop where
  ofSender : t.sender.params = p
  ofReceiver : t.receiver.params = p
  counter : t.receiver.counter = t.sender.counter
  received : t.receiver.received = t.sender.sent
  finished : t.receiver.finished = t.sender.finished
  senderEnds : t.sender.complete = true → t.sender.finished = true
  receiverEnds : t.receiver.complete = true → t.receiver.finished = true
  asked : t.receiver.nextQuery = nextCounter t.sender.counter + if t.sender.queried then 1 else 0
  unfinished : t.sender.queried = true → t.sender.finished = false
  within : ∀ length, p.length = some length → t.sender.sent ≤ length
  /-- Where no block fits, nothing comes after a query that skips. -/
  resting : p.maxBlockSize = 0 → t.sender.queried = false →
    t.sender.cursor.toNat ≤ p.startOffset.toNat + t.sender.sent.toNat ∨
      ∀ length, p.length = some length → t.sender.sent = length

/-! ## What a half does -/

section halves

variable {p : Parameters} {t : Transfer}

lemma toNat_toU64 (len : ℕ) : (toU64 len).toNat = min len (2 ^ 64 - 1) := by
  rw [toU64, UInt64.toNat_ofNat']
  omega

lemma checkedAdd_eq_some_iff {a b total : UInt64} :
    checkedAdd a b = some total ↔ a.toNat + b.toNat < 2 ^ 64 ∧ a + b = total := by
  rw [checkedAdd, Option.ite_none_right_eq_some, Option.some.injEq]

/-- A query has not been answered if it is not the one that belongs to the last block. -/
lemma awaiting_eq (r : Receiver) : r.awaiting = decide (r.nextQuery ≠ nextCounter r.counter) := by
  rw [Receiver.awaiting]
  cases r.counter with
  | none => exact (decide_not ..).symm
  | some last => exact (decide_not ..).symm

/-- What the sender does about a block. -/
lemma block_cases (s : Sender) (len : ℕ) (eof : Bool) :
    (s.takes len eof = true ∧ ∃ total, checkedAdd s.sent (toU64 len) = some total ∧
      fitsBlock s.params len eof = true ∧ fitsLength s.params total eof = true ∧
      s.block len eof = .ok (nextCounter s.counter,
        { s with
          counter := some (nextCounter s.counter)
          sent := total
          cursor := satAdd s.cursor (toU64 len)
          queried := false
          finished := eof })) ∨
    (s.takes len eof = false ∧ ∃ e, s.block len eof = .error e) := by
  rw [Sender.block, Sender.takes]
  cases hsend : s.maySend with
  | false => exact .inr ⟨by simp, .unexpectedMessage, by simp⟩
  | true =>
    cases hblock : fitsBlock s.params len eof with
    | false => exact .inr ⟨by simp, .badMessageContents, by simp⟩
    | true =>
      cases hadd : checkedAdd s.sent (toU64 len) with
      | none => exact .inr ⟨by simp, .lengthTooLarge, by simp⟩
      | some total =>
        cases hlength : fitsLength s.params total eof with
        | false => exact .inr ⟨by simp [hlength], .lengthMismatch, by simp [hlength]⟩
        | true => exact .inl ⟨by simp [hlength], total, rfl, rfl, hlength, by simp [hlength]⟩

end halves

section synced

variable {p : Parameters} {t : Transfer}

namespace Synced

/-- For a sender that has not finished the transfer is not complete. -/
lemma senderOpen (h : Synced p t) (hunfinished : t.sender.finished = false) :
    t.sender.complete = false := by
  rw [← Bool.not_eq_true]
  intro hcomplete
  rw [h.senderEnds hcomplete] at hunfinished
  cases hunfinished

/-- Nor is it for the receiver. -/
lemma receiverOpen (h : Synced p t) (hunfinished : t.sender.finished = false) :
    t.receiver.complete = false := by
  rw [← Bool.not_eq_true]
  intro hcomplete
  rw [← h.finished, h.receiverEnds hcomplete] at hunfinished
  cases hunfinished

lemma awaiting (h : Synced p t) : t.receiver.awaiting = t.sender.queried := by
  rw [awaiting_eq, h.asked, h.counter]
  cases t.sender.queried with
  | false => simp
  | true =>
    simp only [if_true, decide_eq_true_eq]
    grind

lemma maySend (h : Synced p t) (hdrive : p.control.senderDrive = false) :
    t.sender.maySend = t.sender.queried := by
  rw [Sender.maySend, h.ofSender, hdrive, Bool.false_or]
  cases hqueried : t.sender.queried with
  | false => simp
  | true =>
    have hunfinished := h.unfinished hqueried
    simp [hunfinished, h.senderOpen hunfinished]

/-- The receiver takes what the sender sends. -/
lemma onBlock (h : Synced p t) (hdrive : p.control.senderDrive = false) {len : ℕ} {eof : Bool}
    {total : UInt64} (htakes : t.sender.takes len eof = true)
    (hadd : checkedAdd t.sender.sent (toU64 len) = some total)
    (hblock : fitsBlock t.sender.params len eof = true)
    (hlength : fitsLength t.sender.params total eof = true) :
    t.receiver.onBlock (nextCounter t.sender.counter) len eof =
      .ok
        { t.receiver with
          received := total
          counter := some (nextCounter t.sender.counter)
          pending := true
          finished := eof } := by
  rw [Sender.takes, h.maySend hdrive, Bool.and_eq_true, Bool.and_eq_true] at htakes
  have hqueried := htakes.1.1
  have hfinished : t.receiver.finished = false := h.finished.trans (h.unfinished hqueried)
  have hcomplete := h.receiverOpen (h.unfinished hqueried)
  have hparams : t.receiver.params = t.sender.params := h.ofReceiver.trans h.ofSender.symm
  rw [Receiver.onBlock, hfinished, hcomplete, h.awaiting, hqueried, h.counter, h.received, hadd, hparams,
    hblock]
  simp [hlength, hparams, hcomplete]

end Synced

/-- An empty last block can be sent exactly when all octets have been. -/
lemma takesEof_iff (h : Synced p t) (hdrive : p.control.senderDrive = false)
    (hqueried : t.sender.queried = true) :
    t.TakesEof ↔ ∀ length, p.length = some length → t.sender.sent = length := by
  have hadd : checkedAdd t.sender.sent (toU64 0) = some t.sender.sent := by
    have hlt := t.sender.sent.toNat_lt
    refine checkedAdd_eq_some_iff.mpr ⟨by rw [toNat_toU64]; omega, ?_⟩
    rw [← UInt64.toNat_inj, UInt64.toNat_add, toNat_toU64]
    omega
  have hblock : fitsBlock t.sender.params 0 true = true := by simp [fitsBlock]
  have hlength : fitsLength t.sender.params t.sender.sent true = true ↔
      ∀ length, p.length = some length → t.sender.sent = length := by
    rw [fitsLength, h.ofSender]
    cases hp : p.length with
    | none => simp
    | some length =>
      have hle := h.within length hp
      simp [hle]
  have htakes : t.sender.takes 0 true = true ↔ fitsLength t.sender.params t.sender.sent true = true := by
    rw [Sender.takes, h.maySend hdrive, hqueried, hblock, hadd]
    simp
  rw [← hlength, ← htakes]
  constructor
  · rintro ⟨counter, sender, receiver, hsent, -⟩
    rcases block_cases t.sender 0 true with ⟨htakes, -⟩ | ⟨-, e, herror⟩
    · exact htakes
    · rw [herror] at hsent
      cases hsent
  · intro htakes'
    rcases block_cases t.sender 0 true with ⟨-, total, hadd', hblock', hlength', hsent⟩ | ⟨hrefuses, -⟩
    · exact ⟨_, _, _, hsent, h.onBlock hdrive htakes' hadd' hblock' hlength'⟩
    · rw [htakes'] at hrefuses
      cases hrefuses

/-- What `Ends` comes to. -/
lemma ends_iff_inReach (h : Synced p t) (hdrive : p.control.senderDrive = false) :
    t.Ends ↔ inReach p t.sender.cursor t.sender.sent = true := by
  rw [Ends, inReach, Sender.room, h.ofSender]
  cases hp : p.length with
  | none =>
    refine iff_of_true ⟨fun hqueried _ => (takesEof_iff h hdrive hqueried).mpr ?_, by simp⟩ rfl
    simp [hp]
  | some length =>
    have hwithin := UInt64.le_iff_toNat_le.mp (h.within length hp)
    have heof : t.sender.queried = true → (t.TakesEof ↔ t.sender.sent = length) := by
      intro hqueried
      rw [takesEof_iff h hdrive hqueried, hp]
      simp
    have hresting := h.resting
    have hall : t.sender.sent = length ↔ t.sender.sent.toNat = length.toNat := UInt64.toNat_inj.symm
    simp only [Option.some.injEq, forall_eq', toNat_satSub, Bool.or_eq_true, decide_eq_true_eq,
      beq_iff_eq, hp] at hresting ⊢
    constructor
    · rintro ⟨hend, hroom⟩
      by_cases hzero : p.maxBlockSize = 0
      · have hsize : p.maxBlockSize.toNat = 0 := by rw [hzero]; rfl
        cases hqueried : t.sender.queried with
        | false =>
          rcases hresting hzero hqueried with hle | hsent
          · exact .inl (.inl hle)
          · exact .inl (.inr hsent)
        | true =>
          by_cases hpast : p.startOffset.toNat + length.toNat ≤ t.sender.cursor.toNat
          · exact .inl (.inr ((heof hqueried).mp (hend hqueried hpast)))
          · exact .inr ⟨by omega, by omega⟩
      · have hsize : 0 < p.maxBlockSize.toNat := by
          rw [Nat.pos_iff_ne_zero]
          exact fun hsize => hzero (UInt16.toNat_inj.mp hsize)
        rw [hall]
        omega
    · rw [hall]
      intro hreach
      refine ⟨fun hqueried hpast => (heof hqueried).mpr (hall.mpr ?_), ?_⟩
      · omega
      · omega

/-! ## Runs -/

lemma synced_start (p : Parameters) : Synced p (start p) where
  ofSender := rfl
  ofReceiver := rfl
  counter := rfl
  received := rfl
  finished := rfl
  senderEnds := id
  receiverEnds := id
  asked := rfl
  unfinished := fun _ => rfl
  within := fun _ _ => UInt64.le_iff_toNat_le.mpr (Nat.zero_le _)
  resting := fun _ _ => .inl (Nat.le_add_right _ _)

/-- A query goes out where the last one has been answered and the end has not been reached. -/
lemma step_query_cases (h : Synced p t) (hdrive : p.control.receiverDrive = true) (skip : UInt64) :
    ((t.sender.queried = true ∨ t.sender.finished = true) ∧ t.step (.query skip) = t) ∨
    (t.sender.queried = false ∧ t.sender.finished = false ∧ t.step (.query skip) =
      ⟨{ t.sender with queried := true, cursor := satAdd t.sender.cursor skip },
        { t.receiver with pending := false, nextQuery := t.receiver.nextQuery + 1 }⟩) := by
  rw [step]
  cases hfinished : t.sender.finished with
  | true => exact .inl ⟨.inr rfl, by simp [Receiver.query, h.finished, hfinished]⟩
  | false =>
    have hreceiver := h.receiverOpen hfinished
    have hsender := h.senderOpen hfinished
    cases hqueried : t.sender.queried with
    | true =>
      refine .inl ⟨.inl rfl, ?_⟩
      simp [Receiver.query, h.ofReceiver, hdrive, h.finished, hfinished, hreceiver, h.awaiting, hqueried]
    | false =>
      have hasked : t.receiver.nextQuery = nextCounter t.sender.counter := by
        rw [h.asked, hqueried]
        simp
      refine .inr ⟨rfl, rfl, ?_⟩
      simp [Receiver.query, h.ofReceiver, hdrive, h.finished, hfinished, hreceiver, h.awaiting, hqueried,
        Sender.onQueryWithSkip, hsender, h.ofSender, hasked]

/-- A block goes out where it is the sender's turn, and is then taken. -/
lemma step_block_cases (h : Synced p t) (hdrive : p.control.senderDrive = false) (len : ℕ) (eof : Bool) :
    (t.sender.takes len eof = false ∧ t.step (.block len eof) = t) ∨
    (t.sender.takes len eof = true ∧ ∃ total, checkedAdd t.sender.sent (toU64 len) = some total ∧
      fitsBlock p len eof = true ∧ fitsLength p total eof = true ∧ t.step (.block len eof) =
        ⟨{ t.sender with
            counter := some (nextCounter t.sender.counter)
            sent := total
            cursor := satAdd t.sender.cursor (toU64 len)
            queried := false
            finished := eof },
          { t.receiver with
            received := total
            counter := some (nextCounter t.sender.counter)
            pending := true
            finished := eof }⟩) := by
  rcases block_cases t.sender len eof with ⟨htakes, total, hadd, hblock, hlength, hsent⟩ | ⟨hrefuses, e, herror⟩
  · refine .inr ⟨htakes, total, hadd, h.ofSender ▸ hblock, h.ofSender ▸ hlength, ?_⟩
    rw [step, hsent]
    simp only [h.onBlock hdrive htakes hadd hblock hlength]
  · refine .inl ⟨hrefuses, ?_⟩
    rw [step, herror]

lemma ack_of_ok {r r' : Receiver} {message : Bool × UInt32} (h : r.ack = .ok (message, r')) :
    r' = { r with pending := false, complete := r.finished } := by
  rw [Receiver.ack] at h
  cases hcounter : r.counter with
  | none => simp [hcounter] at h
  | some counter =>
    cases hpending : r.pending with
    | false => simp [hcounter, hpending] at h
    | true =>
      simp only [hcounter, hpending, Except.ok.injEq, Prod.mk.injEq] at h
      rw [← h.2, ← hcounter]

lemma onAck_of_ok {s s' : Sender} {counter : UInt32} {eof : Bool} (h : s.onAck counter eof = .ok s') :
    s' = { s with complete := s.finished } := by
  rw [Sender.onAck] at h
  cases hcounter : s.counter with
  | none => simp [hcounter] at h
  | some last =>
    simp only [hcounter] at h
    split_ifs at h with hcomplete hother hcount
    have heof : eof = s.finished := not_not.mp hother
    rw [← Except.ok.inj h, heof, ← hcounter]

/-- An acknowledgement moves nothing but what is owed and whether the session is over. -/
lemma step_ack (h : Synced p t) : ∃ senderComplete receiverComplete pending,
    t.step .ack = ⟨{ t.sender with complete := senderComplete },
      { t.receiver with pending := pending, complete := receiverComplete }⟩ ∧
    (senderComplete = true → t.sender.finished = true) ∧
    (receiverComplete = true → t.receiver.finished = true) := by
  rw [step]
  cases hack : t.receiver.ack with
  | error e => exact ⟨_, _, _, rfl, h.senderEnds, h.receiverEnds⟩
  | ok acked =>
    obtain ⟨⟨eof, counter⟩, receiver⟩ := acked
    obtain rfl := ack_of_ok hack
    cases honAck : t.sender.onAck counter eof with
    | error e =>
      simp only [honAck]
      exact ⟨_, _, _, rfl, h.senderEnds, id⟩
    | ok sender =>
      obtain rfl := onAck_of_ok honAck
      simp only [honAck]
      exact ⟨_, _, _, rfl, id, id⟩

/-- The halves stay in step. -/
lemma Synced.step (h : Synced p t) (hreceiver : p.control.receiverDrive = true)
    (hsender : p.control.senderDrive = false) (op : Op) : Synced p (t.step op) := by
  cases op with
  | query skip =>
    rcases step_query_cases h hreceiver skip with ⟨-, hstep⟩ | ⟨hqueried, hfinished, hstep⟩
    · rwa [hstep]
    · rw [hstep]
      have hasked : t.receiver.nextQuery = nextCounter t.sender.counter := by
        rw [h.asked, hqueried]
        simp
      exact
        { ofSender := h.ofSender
          ofReceiver := h.ofReceiver
          counter := h.counter
          received := h.received
          finished := h.finished
          senderEnds := h.senderEnds
          receiverEnds := h.receiverEnds
          asked := congrArg (· + 1) hasked
          unfinished := fun _ => hfinished
          within := h.within
          resting := fun _ hresting => absurd hresting (by simp) }
  | block len eof =>
    rcases step_block_cases h hsender len eof with ⟨-, hstep⟩ | ⟨htakes, total, hadd, hblock, hlength, hstep⟩
    · rwa [hstep]
    · rw [hstep]
      rw [Sender.takes, h.maySend hsender, Bool.and_eq_true, Bool.and_eq_true] at htakes
      have hqueried := htakes.1.1
      have hunfinished := h.unfinished hqueried
      have hasked : t.receiver.nextQuery = nextCounter t.sender.counter + 1 := by
        rw [h.asked, hqueried, if_pos rfl]
      exact
        { ofSender := h.ofSender
          ofReceiver := h.ofReceiver
          counter := rfl
          received := rfl
          finished := rfl
          senderEnds := fun hcomplete => absurd hcomplete (by simp [h.senderOpen hunfinished])
          receiverEnds := fun hcomplete => absurd hcomplete (by simp [h.receiverOpen hunfinished])
          asked := by
            rw [if_neg Bool.false_ne_true, hasked]
            exact (UInt32.add_zero _).symm
          unfinished := fun hqueried => absurd hqueried (by simp)
          within := by
            intro length hp
            rw [fitsLength, hp] at hlength
            simp only [Bool.not_eq_true', Bool.or_eq_false_iff, decide_eq_false_iff_not] at hlength
            exact UInt64.not_lt.mp hlength.1
          resting := by
            intro hzero _
            right
            intro length hp
            have hempty : eof = true := by
              rw [fitsBlock, hzero] at hblock
              cases eof with
              | true => rfl
              | false => simp at hblock
            rw [fitsLength, hp, hempty] at hlength
            simp only [Bool.not_eq_true', Bool.or_eq_false_iff, Bool.true_and, bne_eq_false_iff_eq] at hlength
            exact hlength.2 }
  | ack =>
    obtain ⟨senderComplete, receiverComplete, pending, hstep, hsenderEnds, hreceiverEnds⟩ := step_ack h
    rw [hstep]
    exact
      { ofSender := h.ofSender
        ofReceiver := h.ofReceiver
        counter := h.counter
        received := h.received
        finished := h.finished
        senderEnds := hsenderEnds
        receiverEnds := hreceiverEnds
        asked := h.asked
        unfinished := h.unfinished
        within := h.within
        resting := h.resting }

/-- The condition on a message says what the transfer can do behind it. -/
lemma spares_iff (h : Synced p t) (hends : t.Ends) (hreceiver : p.control.receiverDrive = true)
    (hsender : p.control.senderDrive = false) (op : Op) : t.spares op = true ↔ (t.step op).Ends := by
  have hstep := h.step hreceiver hsender op
  have hreach := (ends_iff_inReach h hsender).mp hends
  rw [ends_iff_inReach hstep hsender]
  cases op with
  | query skip =>
    rw [spares, h.ofSender]
    rcases step_query_cases h hreceiver skip with ⟨hrefused, hsame⟩ | ⟨hqueried, hfinished, hsame⟩
    · rw [hsame]
      refine iff_of_true ?_ hreach
      rcases hrefused with hqueried | hfinished
      · simp [hqueried]
      · simp [hfinished]
    · rw [hsame, hqueried, hfinished, Bool.false_or, Bool.false_or]
  | block len eof =>
    rw [spares, h.ofSender]
    rcases step_block_cases h hsender len eof with ⟨hrefuses, hsame⟩ | ⟨htakes, total, hadd, -, -, hsame⟩
    · rw [hsame, hrefuses]
      exact iff_of_true rfl hreach
    · rw [hsame, htakes, Bool.not_true, Bool.false_or, (checkedAdd_eq_some_iff.mp hadd).2]
  | ack =>
    obtain ⟨senderComplete, receiverComplete, pending, hsame, -, -⟩ := step_ack h
    rw [hsame]
    exact iff_of_true rfl hreach

end synced

/-- An agreed transfer has one driver. -/
lemma isDecided_of_agreed {p : Parameters} (h : Agreed p) : p.control.isDecided = true := by
  have haccepted : ∀ {proposed accepted control : TransferControl},
      checkAccepted proposed accepted = .ok control → control.isDecided = true := by
    intro proposed accepted control hcheck
    rw [checkAccepted] at hcheck
    split_ifs at hcheck with hversion hmode hoffered
    rw [← Except.ok.inj hcheck]
    rw [Bool.or_eq_true, not_or, Bool.not_eq_true', Bool.not_eq_false] at hmode
    exact hmode.2
  cases h with
  | negotiated direction init limits h =>
    obtain ⟨-, -, h⟩ := bind_eq_ok.mp h
    obtain ⟨-, -, h⟩ := bind_eq_ok.mp h
    obtain ⟨driven, hdriven, h⟩ := bind_eq_ok.mp h
    obtain ⟨startOffset, -, h⟩ := bind_eq_ok.mp h
    obtain ⟨-, -, h⟩ := bind_eq_ok.mp h
    rw [ensure_eq_ok] at hdriven
    rw [← Except.ok.inj h, TransferControl.isDecided]
    cases hsender : init.control.senderDrive with
    | true => simp
    | false =>
      rw [hsender, Bool.false_or] at hdriven
      simp [hdriven]
  | sendAccepted proposed accept h =>
    obtain ⟨control, hcontrol, hrest⟩ := bind_eq_ok.mp h
    obtain ⟨size, -, hp⟩ := bind_eq_ok.mp hrest
    rw [← Except.ok.inj hp]
    exact haccepted hcontrol
  | receiveAccepted proposed accept h =>
    obtain ⟨control, hcontrol, hrest⟩ := bind_eq_ok.mp h
    obtain ⟨-, -, hrest⟩ := bind_eq_ok.mp hrest
    obtain ⟨size, -, hp⟩ := bind_eq_ok.mp hrest
    rw [← Except.ok.inj hp]
    exact haccepted hcontrol

/-- In every run of a transfer in receiver drive, each message leaves the cursor in reach exactly when in
every state a query that has come to the end of the agreed range can be answered with an empty last block,
and the room for the next block ends within that range. -/
theorem spares_iff_ends {p : Parameters} (hagreed : Agreed p) (hdrive : p.control.receiverDrive = true)
    (ops : List Op) : Throughout step (fun t op => t.spares op = true) (start p) ops ↔
      ∀ before, before <+: ops → (before.foldl step (start p)).Ends := by
  have hsender : p.control.senderDrive = false := by
    have hdecided := isDecided_of_agreed hagreed
    rw [TransferControl.isDecided, hdrive] at hdecided
    simpa using hdecided
  have hstart : (start p).Ends := by
    rw [ends_iff_inReach (synced_start p) hsender, inReach]
    cases p.length with
    | none => rfl
    | some length => simp [start, Sender.new]
  have hkept : ∀ t op, Synced p t ∧ t.Ends → t.spares op = true → Synced p (t.step op) ∧ (t.step op).Ends := by
    rintro t op ⟨hsynced, hends⟩ hspares
    exact ⟨hsynced.step hdrive hsender op, (spares_iff hsynced hends hdrive hsender op).mp hspares⟩
  refine Throughout.iff_forall_isPrefix_of (I := fun t => Synced p t ∧ t.Ends) ⟨synced_start p, hstart⟩
    (fun t ht => ht.2) hkept ?_
  rintro t op ⟨hsynced, hends⟩
  exact spares_iff hsynced hends hdrive hsender op

/-- Blocks of 16 octets, 100 octets in all, in receiver drive. -/
def hundred : Parameters := ⟨⟨0, false, true, false⟩, 16, 0, some 100⟩

lemma agreed_hundred : Agreed hundred :=
  .receiveAccepted ⟨⟨0, true, true, false⟩, 16, none, some 100⟩ ⟨⟨0, false, true, false⟩, 16, some 100⟩
    rfl

/-- Without skips all of it is in reach. -/
theorem spares_iff_ends_hundred : Throughout step (fun t op => t.spares op = true) (start hundred)
      [.query 0, .block 16 false, .query 0, .block 16 false, .ack] ∧
      ∀ before, before <+: [.query 0, .block 16 false, .query 0, .block 16 false, .ack] →
        (before.foldl step (start hundred)).Ends := by
  have hspares : Throughout step (fun t op => t.spares op = true) (start hundred)
      [.query 0, .block 16 false, .query 0, .block 16 false, .ack] := by decide +kernel
  exact ⟨hspares, (spares_iff_ends agreed_hundred rfl _).mp hspares⟩

/-- A query that skips all 100 octets: the empty last block is refused, and the room is 16. -/
theorem stranded_by_skip : ((start hundred).step (.query 100)).sender.cursor = 100 ∧
      ((start hundred).step (.query 100)).sender.queried = true ∧
      ((start hundred).step (.query 100)).sender.room = 16 ∧
      ((start hundred).step (.query 100)).sender.block 0 true = .error .lengthMismatch ∧
      ¬ ((start hundred).step (.query 100)).Ends := by
  have hroom : ((start hundred).step (.query 100)).sender.room = 16 := by decide +kernel
  refine ⟨by decide +kernel, by decide +kernel, hroom, by decide +kernel, ?_⟩
  intro hends
  have hle := hends.2 100 (by decide +kernel)
  rw [hroom] at hle
  revert hle
  decide +kernel

end Transfer

end MatterKit.Bdx
