import Mathlib.Data.List.ReduceOption
import Mathlib.Tactic

/-!
# Messages cut into segments

A message that is too long for one packet goes out in segments: the first says how long the message is,
the last says that it is the last. A receiver that holds at most `N` items puts them together again, one
message at a time, and refuses a segment that does not fit in.

`Matches` relates what a receiver has got to how far its sender has come, and `accept_segment` is the
one fact about them: the next segment is accepted, whatever its length, the two still match, and the
last segment completes the message. So what a receiver has completed is, in order, what the sender has
cut up (`Flow`).
-/

namespace MatterKit.Lib

variable {α : Type} {N : ℕ}

/-- A piece of a message. -/
structure Segment (α : Type) where
  /-- How long the message is, on its first segment. -/
  total : Option ℕ
  items : List α
  last : Bool

namespace Segment

/-- What has been put together of a message, and how long it is to be. -/
abbrev Partial (α : Type) := Option (ℕ × List α)

/-- What a segment makes of the message begun: the items so far, if it fits in. -/
def extend (N : ℕ) (p : Partial α) (s : Segment α) : Option (ℕ × List α) :=
  match p, s.total with
  | none, some total => if total ≤ N then some (total, s.items) else none
  | some (total, items), none => some (total, items ++ s.items)
  | none, none => none
  | some _, some _ => none

/-- Takes a segment: what has been put together after it, and the message it completes, if it does. -/
def accept (N : ℕ) (p : Partial α) (s : Segment α) : Option (Partial α × Option (List α)) :=
  (s.extend N p).bind fun (total, items) =>
    if N < items.length then none
    else if s.last = false then some (some (total, items), none)
    else if total = items.length then some (none, some items)
    else none

/-- Takes segments in order: what has been put together after them, and the messages completed. -/
def acceptAll (N : ℕ) : Partial α → List (Segment α) → Option (Partial α × List (List α))
  | p, [] => some (p, [])
  | p, s :: rest =>
    (accept N p s).bind fun (p, done) =>
      (acceptAll N p rest).map fun (p, more) => (p, done.toList ++ more)

/-- Takes a packet, which may carry no segment. -/
def acceptBody (N : ℕ) (p : Partial α) : Option (Segment α) → Option (Partial α × Option (List α))
  | none => some (p, none)
  | some s => accept N p s

/-- A run that goes on. -/
lemma acceptAll_append {p : Partial α} {l m : List (Segment α)} :
    acceptAll N p (l ++ m) = (acceptAll N p l).bind fun (p, done) =>
      (acceptAll N p m).map fun (p, more) => (p, done ++ more) := by
  induction l generalizing p with
  | nil =>
    cases h : acceptAll N p m <;> simp [acceptAll, h]
  | cons s l ih =>
    rw [List.cons_append, acceptAll, acceptAll]
    cases accept N p s with
    | none => rfl
    | some r =>
      obtain ⟨p', done⟩ := r
      simp only [Option.bind_some, ih]
      cases acceptAll N p' l with
      | none => rfl
      | some r' =>
        obtain ⟨p'', more⟩ := r'
        simp only [Option.bind_some, Option.map_some]
        cases acceptAll N p'' m <;> simp

/-- How far a sender has come with a message: the message, and how much of it is out. -/
abbrev Progress (α : Type) := Option (List α × ℕ)

/-- The next segment of a message, of so many items. -/
def next (message : List α) (sent count : ℕ) : Segment α where
  total := if sent = 0 then some message.length else none
  items := (message.drop sent).take count
  last := decide (sent + count = message.length)

/-- How far the sender has come after it. -/
def advance (message : List α) (sent count : ℕ) : Progress α :=
  if sent + count = message.length then none else some (message, sent + count)

/-- What a receiver has put together is what is out of the sender's message. -/
def Matches (p : Partial α) : Progress α → Prop
  | none => p = none
  | some (message, sent) =>
    p = if sent = 0 then none else some (message.length, message.take sent)

/-- The next segment of a message that fits is accepted, and completes the message if it is the last. -/
lemma accept_segment {p : Partial α} {message : List α} {sent count : ℕ}
    (h : Matches p (some (message, sent))) (hfits : message.length ≤ N) (hcount : 0 < count)
    (hle : sent + count ≤ message.length) : ∃ p', accept N p (next message sent count) =
        some (p', if sent + count = message.length then some message else none) ∧
      Matches p' (advance message sent count) := by
  have hitems : message.take sent ++ (message.drop sent).take count =
      message.take (sent + count) := List.take_add.symm
  have hlength : (message.take (sent + count)).length = sent + count := by
    rw [List.length_take, Nat.min_eq_left hle]
  have hextend : (next message sent count).extend N p =
      some (message.length, message.take (sent + count)) := by
    rw [Matches] at h
    subst h
    by_cases hzero : sent = 0
    · have htotal : (next message sent count).total = some message.length := if_pos hzero
      have hfirst : (next message sent count).items = message.take (sent + count) := by
        rw [← hitems, hzero]
        rfl
      simp only [extend, if_pos hzero, htotal, hfirst, if_pos hfits]
    · have htotal : (next message sent count).total = none := if_neg hzero
      simp only [extend, if_neg hzero, htotal]
      rw [next, hitems]
  rw [accept, hextend, Option.bind_some]
  dsimp only
  rw [hlength, if_neg (by omega)]
  by_cases hlast : sent + count = message.length
  · have hflag : (next message sent count).last = true := decide_eq_true hlast
    refine ⟨none, ?_, ?_⟩
    · rw [hflag, if_neg (by decide), if_pos hlast.symm, if_pos hlast, hlast, List.take_length]
    · rw [advance, if_pos hlast, Matches]
  · have hflag : (next message sent count).last = false := decide_eq_false hlast
    refine ⟨some (message.length, message.take (sent + count)), ?_, ?_⟩
    · rw [hflag, if_pos rfl, if_neg hlast]
    · rw [advance, if_neg hlast, Matches, if_neg (by omega)]

/-! ## Sender, segments under way and receiver -/

/-- The message a sender is at, if it is at one. -/
def current : Progress α → List (List α)
  | none => []
  | some (message, _) => [message]

/-- Everything that was given to the sender is either with the receiver's user, or completed by the
segments under way, or what the sender is at. -/
def Flow (N : ℕ) (given : List (List α)) (progress : Progress α) (underWay : List (Segment α))
    (p : Partial α) (taken : List (List α)) : Prop :=
  ∃ p' done, acceptAll N p underWay = some (p', done) ∧ Matches p' progress ∧
    given = taken ++ done ++ current progress

namespace Flow

variable {given taken : List (List α)} {progress : Progress α} {underWay : List (Segment α)}
  {p : Partial α}

lemma init : Flow N ([] : List (List α)) none [] none [] := ⟨none, [], rfl, rfl, rfl⟩

/-- What has been taken is, in order, what was given first. -/
lemma isPrefix (h : Flow N given progress underWay p taken) : taken <+: given := by
  obtain ⟨p', done, -, -, rfl⟩ := h
  rw [List.append_assoc]
  exact List.prefix_append _ _

/-- A sender that is at nothing is given a message. -/
lemma give (h : Flow N given none underWay p taken) (message : List α) :
    Flow N (given ++ [message]) (some (message, 0)) underWay p taken := by
  obtain ⟨p', done, hall, hmatches, rfl⟩ := h
  refine ⟨p', done, hall, ?_, ?_⟩
  · rw [Matches, if_pos rfl]
    exact hmatches
  · simp [current]

/-- A sender sends the next segment. -/
lemma send {message : List α} {sent count : ℕ}
    (h : Flow N given (some (message, sent)) underWay p taken) (hfits : message.length ≤ N)
    (hcount : 0 < count) (hle : sent + count ≤ message.length) :
    Flow N given (advance message sent count) (underWay ++ [next message sent count]) p taken := by
  obtain ⟨p', done, hall, hmatches, rfl⟩ := h
  obtain ⟨p'', haccept, hmatches'⟩ := accept_segment hmatches hfits hcount hle
  by_cases hlast : sent + count = message.length
  · refine ⟨p'', done ++ [message], ?_, hmatches', ?_⟩
    · rw [acceptAll_append, hall]
      simp [acceptAll, haccept, hlast]
    · simp [advance, hlast, current]
  · refine ⟨p'', done, ?_, hmatches', ?_⟩
    · rw [acceptAll_append, hall]
      simp [acceptAll, haccept, hlast]
    · simp [advance, hlast, current]

/-- The first packet under way is accepted, and the message it completes, if it does, is taken. -/
lemma deliver {body : Option (Segment α)} {bodies : List (Option (Segment α))}
    (h : Flow N given progress (body :: bodies).reduceOption p taken) :
    ∃ p' done, acceptBody N p body = some (p', done) ∧
      Flow N given progress bodies.reduceOption p' (taken ++ done.toList) := by
  cases body with
  | none =>
    rw [List.reduceOption_cons_of_none] at h
    refine ⟨p, none, rfl, ?_⟩
    rwa [Option.toList_none, List.append_nil]
  | some s =>
    rw [List.reduceOption_cons_of_some] at h
    obtain ⟨p'', all, hall, hmatches, rfl⟩ := h
    rw [acceptAll] at hall
    obtain ⟨⟨p', done⟩, haccept, hrest⟩ := Option.bind_eq_some_iff.mp hall
    obtain ⟨⟨p₃, more⟩, hmore, heq⟩ := Option.map_eq_some_iff.mp hrest
    obtain ⟨rfl, rfl⟩ := Prod.mk.inj heq
    refine ⟨p', done, haccept, p₃, more, hmore, hmatches, ?_⟩
    simp

end Flow

end Segment

end MatterKit.Lib
