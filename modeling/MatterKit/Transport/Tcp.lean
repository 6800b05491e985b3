import MatterKit.Bytes
import MatterKit.Lib.KeyedVec

/-!
# Messages over a stream

A stream has no boundaries of its own, so each message stands behind its length in four octets
(`frame`), and a framer puts the messages together again from whatever pieces the stream arrives in.

`Split` says what a stream holds without mentioning a framer: a run of well-formed frames and what comes
after the last of them. The octets that a framer has taken since the last message it gave out are
`held`, and each call is read through them.
-/

namespace MatterKit.Tcp

open Lib Cursor

/-- Source: `transport/tcp.rs`, `LENGTH_PREFIX`. -/
def lengthPrefix : ℕ := 4

/-- Source: `Framed`. -/
inductive Framed
  | message (octets : List UInt8)
  | incomplete (needed : ℕ)

/-- Source: `Framer`; `lead` is its field `prefix`. -/
structure Framer (N : ℕ) where
  body : BoundedVec UInt8 N
  lead : BoundedVec UInt8 lengthPrefix
  expecting : Option ℕ
  failed : Bool
  taken : Bool
  deriving DecidableEq

variable {N : ℕ}

namespace Framer

/-- Source: `Framer::new`. -/
def new : Framer N where
  body := .empty
  lead := .empty
  expecting := none
  failed := false
  taken := false

/-- Drops the message that the last call gave out.
Source: `Framer::drain`. -/
def drain (f : Framer N) : Framer N :=
  if f.taken then { f with taken := false, body := .empty, expecting := none } else f

/-- Source: `Framer::take_body`. -/
def takeBody (f : Framer N) (bytes : List UInt8) (length : ℕ) : Except ErrorCode ℕ × Framer N :=
  let take := min (length - f.body.toList.length) bytes.length
  match BoundedVec.ofList? N (f.body.toList ++ bytes.take take) with
  | none => (.error .bufferTooSmall, f)
  | some body => (.ok take, { f with body := body })

/-- Source: `Framer::take_prefix`. -/
def takePrefix (f : Framer N) (bytes : List UInt8) : Except ErrorCode ℕ × Framer N :=
  let take := min (lengthPrefix - f.lead.toList.length) bytes.length
  match BoundedVec.ofList? lengthPrefix (f.lead.toList ++ bytes.take take) with
  | none => (.error .bufferTooSmall, f)
  | some lead =>
    if lead.toList.length < lengthPrefix then (.ok take, { f with lead := lead })
    else
      let length := ofLe lead.toList
      let f := { f with lead := .empty }
      if length = 0 ∨ N < length then (.error .messageTooLarge, { f with failed := true })
      else (.ok take, { f with expecting := some length })

/-- Source: `Framer::push`, the call that its loop makes. -/
def takeSome (f : Framer N) (rest : List UInt8) : Except ErrorCode ℕ × Framer N :=
  match f.expecting with
  | none => f.takePrefix rest
  | some length => f.takeBody rest length

/-- Source: `Framer::push`, its loop. -/
def pushLoop (f : Framer N) (rest : List UInt8) (consumed : ℕ) : Except ErrorCode ℕ × Framer N :=
  if rest = [] then (.ok consumed, f)
  else
    match f.takeSome rest with
    | (.error e, f) => (.error e, f)
    | (.ok took, f) =>
      if took = 0 then (.ok consumed, f)
      else pushLoop f (rest.drop took) (consumed + took)
  termination_by rest.length
  decreasing_by
    rename_i hrest htook
    have := List.length_pos_of_ne_nil hrest
    rw [List.length_drop]
    omega

/-- Source: `Framer::push`. -/
def push (f : Framer N) (bytes : List UInt8) : Except ErrorCode ℕ × Framer N :=
  if f.failed then (.error .messageTooLarge, f) else f.drain.pushLoop bytes 0

/-- Source: `Framer::poll`. -/
def poll (f : Framer N) : Except ErrorCode Framed × Framer N :=
  if f.failed then (.error .messageTooLarge, f)
  else
    let f := f.drain
    match f.expecting with
    | none => (.ok (.incomplete (lengthPrefix - f.lead.toList.length)), f)
    | some length =>
      if f.body.toList.length < length then (.ok (.incomplete (length - f.body.toList.length)), f)
      else (.ok (.message f.body.toList), { f with taken := true })

end Framer

/-- Writes a message behind its length into a buffer of `room` octets.
Source: `transport/tcp.rs`, `frame`. -/
def frame (message : List UInt8) (room : ℕ) : Except ErrorCode (List UInt8) := do
  ensure (lengthPrefix + message.length ≤ room) .bufferTooSmall
  ensure (message.length < 2 ^ 32) .messageTooLarge
  pure (leU32 (UInt32.ofNat message.length) ++ message)

/-! ## What a stream holds -/

/-- A message that a frame can carry to a node that takes up to `N` octets. -/
def Fits (N : ℕ) (message : List UInt8) : Prop :=
  0 < message.length ∧ message.length ≤ N ∧ message.length < 2 ^ 32

/-- A message behind its length. -/
def octets (message : List UInt8) : List UInt8 := leBytes lengthPrefix message.length ++ message

/-- A stream holds the frames of some messages and then something that does not start with another
well-formed frame. -/
structure Split (N : ℕ) (stream : List UInt8) (messages : List (List UInt8)) (rest : List UInt8) :
    Prop where
  stream : stream = (messages.map octets).flatten ++ rest
  fits : ∀ message ∈ messages, Fits N message
  longest : ∀ message, Fits N message → ¬ octets message <+: rest

/-- Octets that start with the length of a message that nobody can take. -/
def Refused (N : ℕ) (rest : List UInt8) : Prop :=
  ∃ lead, lead <+: rest ∧ lead.length = lengthPrefix ∧ (ofLe lead = 0 ∨ N < ofLe lead)

lemma length_octets (message : List UInt8) : (octets message).length = lengthPrefix + message.length := by
  rw [octets, List.length_append, length_leBytes]

/-- What frame writes is the octets of the message. -/
lemma frame_eq_ok_iff {message wire : List UInt8} {room : ℕ} : frame message room = .ok wire ↔
      lengthPrefix + message.length ≤ room ∧ message.length < 2 ^ 32 ∧ wire = octets message := by
  unfold frame
  simp only [bind_eq_ok, ensure_eq_ok, pure_eq_ok, Except.ok.injEq]
  constructor
  · rintro ⟨-, hroom, -, hlength, rfl⟩
    refine ⟨hroom, hlength, ?_⟩
    rw [octets, leU32, UInt32.toNat_ofNat', Nat.mod_eq_of_lt hlength]
    rfl
  · rintro ⟨hroom, hlength, rfl⟩
    refine ⟨(), hroom, (), hlength, ?_⟩
    rw [octets, leU32, UInt32.toNat_ofNat', Nat.mod_eq_of_lt hlength]
    rfl

/-- A frame starts with the length of its message. -/
lemma ofLe_lead {message lead rest : List UInt8} (hlength : message.length < 2 ^ 32)
    (hlead : lead.length = lengthPrefix) (h : octets message <+: lead ++ rest) :
    ofLe lead = message.length := by
  obtain ⟨tail, htail⟩ := h
  rw [octets, List.append_assoc] at htail
  have hlengths : (leBytes lengthPrefix message.length).length = lead.length := by
    rw [length_leBytes, hlead]
  rw [← (List.append_inj htail hlengths).1]
  exact ofLe_leBytes_of_lt hlength

variable {rest : List UInt8} {f : Framer N}

/-- What is refused starts no frame. -/
lemma Refused.longest (h : Refused N rest) (message : List UInt8) (hfits : Fits N message) :
    ¬ octets message <+: rest := by
  obtain ⟨lead, ⟨tail, rfl⟩, hlead, hbad⟩ := h
  intro hframe
  rw [ofLe_lead hfits.2.2 hlead hframe] at hbad
  obtain ⟨hpos, hle, -⟩ := hfits
  omega

/-- A stream holds one run of frames only. -/
lemma Split.unique {stream rest rest' : List UInt8} {messages messages' : List (List UInt8)}
    (h : Split N stream messages rest) (h' : Split N stream messages' rest') :
    messages = messages' ∧ rest = rest' := by
  induction messages generalizing stream messages' with
  | nil =>
    obtain ⟨rfl, -, hlongest⟩ := h
    cases messages' with
    | nil => exact ⟨rfl, h'.stream⟩
    | cons message messages' =>
      refine absurd ?_ (hlongest message (h'.fits message List.mem_cons_self))
      have hstream := h'.stream
      rw [List.map_cons, List.flatten_cons, List.append_assoc] at hstream
      rw [hstream]
      exact List.prefix_append _ _
  | cons message messages ih =>
    cases messages' with
    | nil =>
      refine absurd ?_ (h'.longest message (h.fits message List.mem_cons_self))
      have hstream := h'.stream
      rw [List.map_nil, List.flatten_nil, List.nil_append] at hstream
      rw [← hstream, h.stream, List.map_cons, List.flatten_cons, List.append_assoc]
      exact List.prefix_append _ _
    | cons message' messages' =>
      have hsame := h.stream.symm.trans h'.stream
      rw [List.map_cons, List.flatten_cons, List.append_assoc, List.map_cons, List.flatten_cons,
        List.append_assoc] at hsame
      have hframe : octets message <+: leBytes lengthPrefix message'.length ++
          (message' ++ ((messages'.map octets).flatten ++ rest')) := by
        rw [← List.append_assoc, ← octets, ← hsame]
        exact List.prefix_append _ _
      have hlength : message.length = message'.length := by
        have hlead := ofLe_lead (h.fits message List.mem_cons_self).2.2
          (length_leBytes lengthPrefix message'.length) hframe
        rw [ofLe_leBytes_of_lt (h'.fits message' List.mem_cons_self).2.2] at hlead
        exact hlead.symm
      have hlengths : (octets message).length = (octets message').length := by
        rw [length_octets, length_octets, hlength]
      obtain ⟨hoctets, htail⟩ := List.append_inj hsame hlengths
      have hmessage : message = message' :=
        (List.append_inj hoctets (by rw [length_leBytes, length_leBytes])).2
      have hsplit : Split N ((messages.map octets).flatten ++ rest) messages rest :=
        ⟨rfl, fun m hm => h.fits m (List.mem_cons_of_mem _ hm), h.longest⟩
      have hsplit' : Split N ((messages.map octets).flatten ++ rest) messages' rest' :=
        ⟨htail, fun m hm => h'.fits m (List.mem_cons_of_mem _ hm), h'.longest⟩
      obtain ⟨rfl, rfl⟩ := ih hsplit hsplit'
      exact ⟨by rw [hmessage], rfl⟩

/-! ## What a framer holds -/

namespace Framer

/-- The octets taken since the last message that was given out. -/
def held (f : Framer N) : List UInt8 :=
  if f.taken then []
  else match f.expecting with
    | none => f.lead.toList
    | some length => leBytes lengthPrefix length ++ f.body.toList

/-- Whether a whole message is waiting. -/
def whole (f : Framer N) : Bool :=
  !f.taken && f.expecting.any fun length => decide (length ≤ f.body.toList.length)

/-- A framer of a stream that has not failed: it waits for a length, for the rest of a message, or for
the message to be given out. -/
inductive Sound : Framer N → Prop
  | lead (lead : BoundedVec UInt8 lengthPrefix) (h : lead.toList.length < lengthPrefix) :
      Sound ⟨.empty, lead, none, false, false⟩
  | body (body : BoundedVec UInt8 N) (length : ℕ) (hpos : 0 < length) (hN : length ≤ N)
      (hwidth : length < 2 ^ 32) (h : body.toList.length ≤ length) :
      Sound ⟨body, .empty, some length, false, false⟩
  | taken (body : BoundedVec UInt8 N) (length : ℕ) : Sound ⟨body, .empty, some length, false, true⟩

lemma sound_new : (new : Framer N).Sound := .lead .empty (by decide)

variable {f : Framer N}

lemma Sound.notFailed (h : f.Sound) : f.failed = false := by
  cases h <;> rfl

lemma Sound.drain (h : f.Sound) : f.drain.Sound ∧ f.drain.taken = false ∧ f.drain.held = f.held := by
  cases h with
  | lead lead h => exact ⟨.lead lead h, rfl, rfl⟩
  | body body length hpos hN hwidth h => exact ⟨.body body length hpos hN hwidth h, rfl, rfl⟩
  | taken body length => exact ⟨.lead .empty (by decide), rfl, rfl⟩

/-- What one call of the loop comes to: the length that was read is of a message nobody can take, or
what was taken is held, and something was unless a message is whole. -/
lemma Sound.takeSome_cases (h : f.Sound) (hopen : f.taken = false) {rest : List UInt8} (hrest : rest ≠ []) :
    (∃ f', f.takeSome rest = (.error .messageTooLarge, f') ∧ f'.failed = true ∧
      Refused N (f.held ++ rest)) ∨
    ∃ took f', f.takeSome rest = (.ok took, f') ∧ took ≤ rest.length ∧ f'.Sound ∧
      f'.taken = false ∧ f'.held = f.held ++ rest.take took ∧ (took = 0 → f' = f ∧ f.whole = true) := by
  have hpos := List.length_pos_of_ne_nil hrest
  cases h with
  | lead lead hlead =>
    have hfit : (lead.toList ++ rest.take (min (lengthPrefix - lead.toList.length) rest.length)).length ≤
        lengthPrefix := by
      rw [List.length_append, List.length_take]
      omega
    simp only [takeSome, takePrefix, BoundedVec.ofList?, dif_pos hfit]
    split_ifs with hshort hbad
    · refine .inr ⟨_, _, rfl, min_le_right _ _, .lead _ hshort, rfl, rfl, ?_⟩
      omega
    · refine .inl ⟨_, rfl, rfl, _, ?_, ?_, hbad⟩
      · exact List.prefix_append_right_inj _ |>.mpr (List.take_prefix _ _)
      · exact le_antisymm hfit (not_lt.mp hshort)
    · push Not at hbad
      have hlength : (lead.toList ++ rest.take (min (lengthPrefix - lead.toList.length) rest.length)).length =
          lengthPrefix := le_antisymm hfit (not_lt.mp hshort)
      refine .inr ⟨_, _, rfl, min_le_right _ _, ?_, rfl, ?_, ?_⟩
      · refine .body .empty _ (Nat.pos_of_ne_zero hbad.1) hbad.2 ?_ (Nat.zero_le _)
        have hlt := ofLe_lt
          (lead.toList ++ rest.take (min (lengthPrefix - lead.toList.length) rest.length))
        rw [hlength] at hlt
        exact hlt
      · have hback := leBytes_ofLe
          (lead.toList ++ rest.take (min (lengthPrefix - lead.toList.length) rest.length))
        rw [hlength] at hback
        simp only [held, Bool.false_eq_true, if_false]
        rw [hback]
        exact List.append_nil _
      · omega
  | body body length hlengthPos hN hwidth hbody =>
    have hfit : (body.toList ++ rest.take (min (length - body.toList.length) rest.length)).length ≤ N := by
      rw [List.length_append, List.length_take]
      omega
    simp only [takeSome, takeBody, BoundedVec.ofList?, dif_pos hfit]
    refine .inr ⟨_, _, rfl, min_le_right _ _, ?_, rfl, ?_, ?_⟩
    · refine .body _ length hlengthPos hN hwidth ?_
      rw [List.length_append, List.length_take]
      omega
    · exact List.append_assoc _ _ _ |>.symm ▸ rfl
    · intro hzero
      have hfull : length ≤ body.toList.length := by omega
      refine ⟨?_, by simpa [whole] using hfull⟩
      simp only [hzero, List.take_zero, List.append_nil]
  | taken body length => cases hopen

/-- What the loop comes to: the stream fails, or what was taken is held, which is everything unless a
message is whole. -/
lemma Sound.pushLoop_cases (h : f.Sound) (hopen : f.taken = false) (rest : List UInt8) (consumed : ℕ) :
    (∃ f', f.pushLoop rest consumed = (.error .messageTooLarge, f') ∧ f'.failed = true ∧
      Refused N (f.held ++ rest)) ∨
    ∃ took f', f.pushLoop rest consumed = (.ok (consumed + took), f') ∧ took ≤ rest.length ∧
      f'.Sound ∧ f'.taken = false ∧ f'.held = f.held ++ rest.take took ∧
      (took < rest.length → f'.whole = true) ∧ (took = 0 → f' = f) := by
  induction hn : rest.length using Nat.strong_induction_on generalizing f rest consumed with
  | _ n ih =>
  subst hn
  rw [pushLoop]
  split_ifs with hrest
  · subst hrest
    exact .inr ⟨0, f, rfl, le_rfl, h, hopen, by simp, fun hlt => absurd hlt (lt_irrefl _), fun _ => rfl⟩
  · rcases h.takeSome_cases hopen hrest with ⟨f', hsome, hfailed, hrefused⟩ |
      ⟨took, f', hsome, hle, hsound, hopen', hheld, hzero⟩
    · rw [hsome]
      exact .inl ⟨f', rfl, hfailed, hrefused⟩
    · rw [hsome]
      dsimp only
      split_ifs with htook
      · obtain ⟨rfl, hwhole⟩ := hzero htook
        exact .inr ⟨0, f', rfl, Nat.zero_le _, h, hopen, by simp, fun _ => hwhole, fun _ => rfl⟩
      · have hpos := List.length_pos_of_ne_nil hrest
        have hdrop : (rest.drop took).length = rest.length - took := List.length_drop
        have hwhole : f'.held ++ rest.drop took = f.held ++ rest := by
          rw [hheld, List.append_assoc, List.take_append_drop]
        rcases ih _ (by omega) hsound hopen' (rest.drop took) (consumed + took) rfl with
          ⟨f'', hloop, hfailed, hrefused⟩ | ⟨took', f'', hloop, hle', hsound', hopen'', hheld', hmore, -⟩
        · exact .inl ⟨f'', hloop, hfailed, hwhole ▸ hrefused⟩
        · refine .inr ⟨took + took', f'', ?_, by omega, hsound', hopen'', ?_, ?_, by omega⟩
          · rw [hloop, Nat.add_assoc]
          · rw [hheld', hheld, List.append_assoc, List.take_add]
          · intro hlt
            exact hmore (by omega)

/-- **A push.** The stream fails, or what was taken is held, which is everything unless a message is
whole. -/
lemma Sound.push_cases (h : f.Sound) (bytes : List UInt8) :
    (∃ f', f.push bytes = (.error .messageTooLarge, f') ∧ f'.failed = true ∧
      Refused N (f.held ++ bytes)) ∨
    ∃ took f', f.push bytes = (.ok took, f') ∧ took ≤ bytes.length ∧ f'.Sound ∧ f'.taken = false ∧
      f'.held = f.held ++ bytes.take took ∧ (took < bytes.length → f'.whole = true) ∧
      (took = 0 → f' = f.drain) := by
  obtain ⟨hsound, hopen, hheld⟩ := h.drain
  have hloop := hsound.pushLoop_cases hopen bytes 0
  simp only [hheld, Nat.zero_add] at hloop
  rwa [push, h.notFailed, if_neg Bool.false_ne_true]

/-- **A poll.** A whole message is given out, and its octets are held no longer; otherwise nothing
changes. -/
lemma Sound.poll_cases (h : f.Sound) :
    (∃ message f', f.poll = (.ok (.message message), f') ∧ f'.Sound ∧ Fits N message ∧
      f.held = octets message ∧ f'.held = [] ∧ f'.whole = false) ∨
    ∃ needed, f.poll = (.ok (.incomplete needed), f.drain) ∧ f.drain.whole = false := by
  rw [poll, h.notFailed, if_neg Bool.false_ne_true]
  cases h with
  | lead lead h => exact .inr ⟨_, rfl, rfl⟩
  | body body length hpos hN hwidth h =>
    simp only [Framer.drain, Bool.false_eq_true, if_false]
    split_ifs with hshort
    · exact .inr ⟨_, rfl, by simpa [whole] using hshort⟩
    · have hlength : body.toList.length = length := le_antisymm h (not_lt.mp hshort)
      refine .inl ⟨_, _, rfl, .taken body length, ?_, ?_, rfl, rfl⟩
      · rw [Fits, hlength]
        exact ⟨hpos, hN, hwidth⟩
      · rw [octets, hlength]
        rfl
  | taken body length => exact .inr ⟨_, rfl, rfl⟩

/-- What is held is no frame unless a message is whole. -/
lemma Sound.longest (h : f.Sound) (hopen : f.taken = false) (hwhole : f.whole = false)
    (message : List UInt8) (hfits : Fits N message) : ¬ octets message <+: f.held := by
  intro hframe
  have hle := hframe.length_le
  rw [length_octets] at hle
  cases h with
  | lead lead h =>
    simp only [held, Bool.false_eq_true, if_false] at hle
    omega
  | body body length hpos hN hwidth h =>
    have hlead := ofLe_lead hfits.2.2 (length_leBytes lengthPrefix length) hframe
    rw [ofLe_leBytes_of_lt hwidth] at hlead
    simp only [held, Bool.false_eq_true, if_false, List.length_append, length_leBytes] at hle
    simp only [whole, Bool.not_false, Bool.true_and, Option.any_some, decide_eq_false_iff_not] at hwhole
    omega
  | taken body length => cases hopen

/-- Nothing is ever given out of a stream that has failed. -/
lemma failed_push (h : f.failed = true) (bytes : List UInt8) :
    f.push bytes = (.error .messageTooLarge, f) := if_pos h

lemma failed_poll (h : f.failed = true) : f.poll = (.error .messageTooLarge, f) :=
  if_pos h

end Framer

/-! ## Reading a stream -/

/-- Polls until no message is whole.
Source: `Framer`, the loop around `poll` in its example. -/
def pollAll : ℕ → Framer N → Option (List (List UInt8) × Framer N)
  | 0, _ => none
  | fuel + 1, f =>
    match f.poll with
    | (.ok (.message message), f) => (pollAll fuel f).map fun (got, f) => (message :: got, f)
    | (_, f) => some ([], f)

/-- Pushes a piece of the stream and polls, then pushes what of it was not taken, until all of it was or
the stream fails. What comes out is the messages, and the octets that were never taken.
Source: `Framer`, the loop around `push` in its example. -/
def offer : ℕ → Framer N → List UInt8 → Option (List (List UInt8) × List UInt8 × Framer N)
  | 0, _, _ => none
  | fuel + 1, f, rest =>
    if rest = [] then some ([], [], f)
    else
      match f.push rest with
      | (.error _, f) => some ([], rest, f)
      | (.ok taken, f) =>
        (pollAll (fuel + 2) f).bind fun (got, f) =>
          (offer fuel f (rest.drop taken)).map fun (more, left, f) => (got ++ more, left, f)

/-- The same with the pieces of a stream, one after the other. -/
def offerAll (fuel : ℕ) :
    Framer N → List (List UInt8) → Option (List (List UInt8) × List UInt8 × Framer N)
  | f, [] => some ([], [], f)
  | f, chunk :: chunks =>
    (offer fuel f chunk).bind fun (got, left, f) =>
      (offerAll fuel f chunks).map fun (more, later, f) => (got ++ more, left ++ later, f)

/-- A framer of a stream that has not failed, with no message to give out. -/
structure Ready (f : Framer N) : Prop where
  sound : f.Sound
  notTaken : f.taken = false
  notWhole : f.whole = false

lemma ready_new : Ready (Framer.new : Framer N) := ⟨Framer.sound_new, rfl, rfl⟩

/-- The octets `before` are those of messages that fit, and then `after`. -/
def Gives (N : ℕ) (before : List UInt8) (messages : List (List UInt8)) (after : List UInt8) : Prop :=
  before = (messages.map octets).flatten ++ after ∧ ∀ message ∈ messages, Fits N message

namespace Gives

variable {a b c : List UInt8} {ms ms' : List (List UInt8)}

lemma refl (a : List UInt8) : Gives N a [] a := ⟨rfl, by simp⟩

lemma append (h : Gives N a ms b) (tail : List UInt8) : Gives N (a ++ tail) ms (b ++ tail) :=
  ⟨by rw [h.1, List.append_assoc], h.2⟩

lemma trans (h : Gives N a ms b) (h' : Gives N b ms' c) : Gives N a (ms ++ ms') c := by
  refine ⟨?_, fun m hm => (List.mem_append.mp hm).elim (h.2 m) (h'.2 m)⟩
  rw [h.1, h'.1, List.map_append, List.flatten_append, List.append_assoc]

end Gives

/-- Polling gives out the message that is whole, if one is. -/
lemma pollAll_eq (h : f.Sound) (fuel : ℕ) :
    ∃ messages f', pollAll (fuel + 2) f = some (messages, f') ∧ Ready f' ∧
      Gives N f.held messages f'.held := by
  rcases h.poll_cases with ⟨message, f', hpoll, hsound, hfits, hheld, hheld', -⟩ |
    ⟨needed, hpoll, hwhole⟩
  · rcases hsound.poll_cases with ⟨message', f'', -, -, -, hheld'', -⟩ | ⟨needed, hpoll', hwhole⟩
    · rw [hheld', octets] at hheld''
      have hlength := congrArg List.length hheld''
      rw [List.length_append, length_leBytes, List.length_nil, lengthPrefix] at hlength
      omega
    · obtain ⟨hsound', hopen, hsame⟩ := hsound.drain
      refine ⟨[message], f'.drain, ?_, ⟨hsound', hopen, hwhole⟩, ?_, by simpa using hfits⟩
      · rw [pollAll, hpoll]
        dsimp only
        rw [pollAll, hpoll']
        rfl
      · rw [hsame, hheld, hheld']
        simp
  · obtain ⟨hsound, hopen, hsame⟩ := h.drain
    refine ⟨[], f.drain, ?_, ⟨hsound, hopen, hwhole⟩, hsame ▸ .refl _⟩
    rw [pollAll, hpoll]

/-- A piece of a stream is taken whole, or the stream fails in it. -/
lemma offer_cases (h : Ready f) {fuel : ℕ} (hfuel : rest.length < fuel) :
    ∃ messages left f', offer fuel f rest = some (messages, left, f') ∧
      (left = [] ∧ Ready f' ∧ Gives N (f.held ++ rest) messages f'.held ∨
        f'.failed = true ∧ ∃ bad, Gives N (f.held ++ rest) messages bad ∧ Refused N bad) := by
  induction fuel generalizing f rest with
  | zero => exact absurd hfuel (Nat.not_lt_zero _)
  | succ fuel ih =>
    rw [offer]
    split_ifs with hrest
    · subst hrest
      exact ⟨[], [], f, rfl, .inl ⟨rfl, h, by rw [List.append_nil]; exact .refl _⟩⟩
    rcases h.sound.push_cases rest with ⟨f', hpush, hfailed, hrefused⟩ |
      ⟨took, pushed, hpush, hle, hsound, hopen, hheld, hmore, hzero⟩
    · rw [hpush]
      exact ⟨[], rest, f', rfl, .inr ⟨hfailed, _, .refl _, hrefused⟩⟩
    · have hpos := List.length_pos_of_ne_nil hrest
      -- Nothing is taken only where a message waits, and here none does.
      have htook : took ≠ 0 := by
        intro htook
        have hsame : pushed = f := by
          rw [hzero htook, Framer.drain, h.notTaken, if_neg Bool.false_ne_true]
        have hwhole := hmore (by omega)
        rw [hsame, h.notWhole] at hwhole
        exact Bool.false_ne_true hwhole
      obtain ⟨messages, polled, hpoll, hready, hgives⟩ := pollAll_eq hsound fuel
      have hdrop : (rest.drop took).length < fuel := by
        rw [List.length_drop]
        omega
      obtain ⟨more, left, f', hoffer, hcases⟩ := ih hready hdrop
      have hall : Gives N (f.held ++ rest) messages (polled.held ++ rest.drop took) := by
        have := hgives.append (rest.drop took)
        rwa [hheld, List.append_assoc, List.take_append_drop] at this
      refine ⟨messages ++ more, left, f', ?_, ?_⟩
      · rw [hpush]
        dsimp only
        rw [hpoll, Option.bind_some, hoffer, Option.map_some]
      · rcases hcases with ⟨hleft, hready', hgives'⟩ | ⟨hfailed, bad, hgives', hrefused⟩
        · exact .inl ⟨hleft, hready', hall.trans hgives'⟩
        · exact .inr ⟨hfailed, bad, hall.trans hgives', hrefused⟩

/-- A stream that has failed gives nothing and takes nothing. -/
lemma offerAll_of_failed (h : f.failed = true) (fuel : ℕ) (chunks : List (List UInt8)) :
    ∃ left, offerAll (fuel + 1) f chunks = some ([], left, f) := by
  induction chunks with
  | nil => exact ⟨[], rfl⟩
  | cons chunk chunks ih =>
    obtain ⟨later, hlater⟩ := ih
    have hoffer : ∃ left, offer (fuel + 1) f chunk = some ([], left, f) := by
      rw [offer]
      split_ifs with hempty
      · exact ⟨[], rfl⟩
      · rw [Framer.failed_push h]
        exact ⟨chunk, rfl⟩
    obtain ⟨left, hleft⟩ := hoffer
    refine ⟨left ++ later, ?_⟩
    rw [offerAll, hleft, Option.bind_some]
    dsimp only
    rw [hlater]
    rfl

/-- A stream is taken whole, or it fails. -/
lemma offerAll_cases (h : Ready f) {chunks : List (List UInt8)} {fuel : ℕ}
    (hfuel : chunks.flatten.length ≤ fuel) :
    ∃ messages left f', offerAll (fuel + 1) f chunks = some (messages, left, f') ∧
      (left = [] ∧ Ready f' ∧ Gives N (f.held ++ chunks.flatten) messages f'.held ∨
        f'.failed = true ∧ ∃ bad, Gives N (f.held ++ chunks.flatten) messages bad ∧ Refused N bad) := by
  induction chunks generalizing f with
  | nil => exact ⟨[], [], f, rfl, .inl ⟨rfl, h, (List.append_nil f.held).symm ▸ .refl _⟩⟩
  | cons chunk chunks ih =>
    rw [List.flatten_cons, List.length_append] at hfuel
    have hchunk : chunk.length < fuel + 1 := by omega
    obtain ⟨messages, left, f', hoffer, hcases⟩ := offer_cases h hchunk
    rw [offerAll, hoffer, Option.bind_some]
    dsimp only
    rcases hcases with ⟨rfl, hready, hgives⟩ | ⟨hfailed, bad, hgives, hrefused⟩
    · obtain ⟨more, later, f'', hrest, hcases⟩ := ih hready (by omega)
      have hall : Gives N (f.held ++ (chunk :: chunks).flatten) messages (f'.held ++ chunks.flatten) := by
        rw [List.flatten_cons, ← List.append_assoc]
        exact hgives.append _
      refine ⟨messages ++ more, later, f'', by rw [hrest]; rfl, ?_⟩
      rcases hcases with ⟨hlater, hready', hgives'⟩ | ⟨hfailed, bad, hgives', hrefused⟩
      · exact .inl ⟨hlater, hready', hall.trans hgives'⟩
      · exact .inr ⟨hfailed, bad, hall.trans hgives', hrefused⟩
    · obtain ⟨later, hlater⟩ := offerAll_of_failed hfailed fuel chunks
      refine ⟨messages, left ++ later, f', by rw [hlater]; simp, .inr ⟨hfailed, bad ++ chunks.flatten, ?_, ?_⟩⟩
      · rw [List.flatten_cons, ← List.append_assoc]
        exact hgives.append _
      · obtain ⟨lead, hlead, hwidth, hbad⟩ := hrefused
        exact ⟨lead, hlead.trans (List.prefix_append _ _), hwidth, hbad⟩

/-- Frames that were written are what a stream of them holds. -/
lemma split_of_frames {messages wires : List (List UInt8)}
    (hfits : ∀ message ∈ messages, 1 ≤ message.length ∧ message.length ≤ N)
    (hframes : List.Forall₂ (fun message wire => ∃ room, frame message room = .ok wire) messages wires) :
    Split N wires.flatten messages [] := by
  have hnil : ∀ message, Fits N message → ¬ octets message <+: [] := by
    intro message _ hframe
    have hlength := hframe.length_le
    rw [length_octets, List.length_nil, lengthPrefix] at hlength
    omega
  induction hframes with
  | nil => exact ⟨rfl, by simp, hnil⟩
  | @cons message wire messages wires hframe _ ih =>
    obtain ⟨room, hframe⟩ := hframe
    obtain ⟨-, hwidth, rfl⟩ := frame_eq_ok_iff.mp hframe
    obtain ⟨hfirst, hrest⟩ := List.forall_mem_cons.mp hfits
    have htail := ih hrest
    refine ⟨?_, List.forall_mem_cons.mpr ⟨⟨hfirst.1, hfirst.2, hwidth⟩, htail.fits⟩, hnil⟩
    rw [List.flatten_cons, htail.stream, List.map_cons, List.flatten_cons, List.append_assoc]

/-- What a framer that is ready holds is not refused. -/
lemma Ready.not_refused (h : Ready f) : ¬ Refused N f.held := by
  obtain ⟨hsound, hopen, -⟩ := h
  rintro ⟨lead, hprefix, hlead, hbad⟩
  have hle := hprefix.length_le
  cases hsound with
  | lead lead' h =>
    simp only [Framer.held, Bool.false_eq_true, if_false] at hle
    omega
  | body body length hpos hN hwidth h =>
    simp only [Framer.held, Bool.false_eq_true, if_false] at hprefix
    have hsame : lead = leBytes lengthPrefix length := by
      have hwidths : lead.length = (leBytes lengthPrefix length).length := by
        rw [hlead, length_leBytes]
      obtain ⟨tail, htail⟩ := hprefix
      exact (List.append_inj htail hwidths).1
    rw [hsame, ofLe_leBytes_of_lt hwidth] at hbad
    omega
  | taken body length => cases hopen

/-- **Messages over a stream.** However a stream is cut, pushing its pieces and polling comes to an end
with the messages of its frames, up to the first length that is zero or too large. If there is such a
length the stream has failed for good; otherwise every octet has been taken. -/
theorem reassembles (N : ℕ) (chunks : List (List UInt8)) :
    ∃ messages rest left f, Split N chunks.flatten messages rest ∧
      offerAll (chunks.flatten.length + 1) (Framer.new : Framer N) chunks = some (messages, left, f) ∧
      (Refused N rest → f.failed = true ∧ f.poll = (.error .messageTooLarge, f) ∧
        ∀ bytes, f.push bytes = (.error .messageTooLarge, f)) ∧
      (¬ Refused N rest → f.failed = false ∧ left = []) ∧ ∀ messages' wires : List (List UInt8),
        (∀ message ∈ messages', 1 ≤ message.length ∧ message.length ≤ N) →
        List.Forall₂ (fun message wire => ∃ room, frame message room = .ok wire) messages' wires →
        chunks.flatten = wires.flatten → messages = messages' ∧ left = [] ∧ f.failed = false := by
  obtain ⟨messages, left, f, hrun, hcases⟩ :=
    offerAll_cases (ready_new : Ready (Framer.new : Framer N)) (le_refl chunks.flatten.length)
  have hstart : (Framer.new : Framer N).held ++ chunks.flatten = chunks.flatten := rfl
  rw [hstart] at hcases
  rcases hcases with ⟨hleft, hready, hgives⟩ | ⟨hfailed, bad, hgives, hrefused⟩
  · have hsplit : Split N chunks.flatten messages f.held :=
      ⟨hgives.1, hgives.2, hready.sound.longest hready.notTaken hready.notWhole⟩
    refine ⟨messages, f.held, left, f, hsplit, hrun, fun hrefused => absurd hrefused hready.not_refused,
      fun _ => ⟨hready.sound.notFailed, hleft⟩, ?_⟩
    intro messages' wires hfits hframes hstream
    have hwhole := split_of_frames hfits hframes
    rw [← hstream] at hwhole
    exact ⟨(hsplit.unique hwhole).1, hleft, hready.sound.notFailed⟩
  · have hsplit : Split N chunks.flatten messages bad := ⟨hgives.1, hgives.2, hrefused.longest⟩
    refine ⟨messages, bad, left, f, hsplit, hrun,
      fun _ => ⟨hfailed, Framer.failed_poll hfailed, Framer.failed_push hfailed⟩,
      fun hnot => absurd hrefused hnot, ?_⟩
    intro messages' wires hfits hframes hstream
    have hwhole := split_of_frames hfits hframes
    rw [← hstream] at hwhole
    obtain ⟨lead, hlead, hwidth, -⟩ := hrefused
    rw [(hsplit.unique hwhole).2] at hlead
    rw [List.prefix_nil.mp hlead, List.length_nil] at hwidth
    exact absurd hwidth (by decide)

/-- Two frames, cut in the length of the second. -/
theorem two_frames_cut_in_three :
    ∃ f, offerAll 12 (Framer.new : Framer 8) [[2, 0, 0, 0, 7], [8, 1, 0], [0, 0, 9]] =
      some ([[7, 8], [9]], [], f) := by
  obtain ⟨messages, rest, left, f, -, hrun, -, -, hframes⟩ :=
    reassembles 8 [[2, 0, 0, 0, 7], [8, 1, 0], [0, 0, 9]]
  have hwritten : List.Forall₂ (fun message wire => ∃ room, frame message room = .ok wire)
      [[7, 8], [9]] [[2, 0, 0, 0, 7, 8], [1, 0, 0, 0, 9]] :=
    .cons ⟨6, rfl⟩ (.cons ⟨5, rfl⟩ .nil)
  obtain ⟨rfl, rfl, -⟩ := hframes [[7, 8], [9]] _ (by decide) hwritten rfl
  exact ⟨f, hrun⟩

end MatterKit.Tcp
