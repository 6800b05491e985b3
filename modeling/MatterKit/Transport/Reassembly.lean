import MatterKit.Transport.Btp
import MatterKit.Lib.Runs

/-!
# What a session reassembles

A session is called in any order: packets are given to it, messages taken from it and sent through it,
and its timer is looked at.

* `receive_ok` is what a packet that was taken can have done: nothing to the message (an acknowledgement
  alone), begun one, gone on with one, or ended one.
* `Heard` holds of every session that is still open: the packets given to it were all read as frames,
  their numbers follow one another, and what it has put together is what the frames since the last
  Beginning Segment carried.
* `reassembles_whole` puts the two together.
-/

namespace MatterKit.Btp

open Lib

variable {N : ℕ}

/-! ## Calls -/

/-- A call of a session. -/
inductive Call
  | receive (bytes : List UInt8) (now : Instant)
  | takeMessage
  | send (sdu : List UInt8)
  | pollSend (now : Instant) (outLen : ℕ)
  | pollTimeout (now : Instant)

namespace Session

variable (s : Session N)

/-- Fails once the acknowledgement-received timer has expired.
Source: `Session::poll_timeout`. -/
def pollTimeout (now : Instant) : Except ErrorCode Unit × Session N :=
  match s.closed with
  | some code => (.error code, s)
  | none =>
    if s.ackDeadline.any fun deadline => decide (deadline ≤ now) then
      (.error .btpTimeout, { s with closed := some .btpTimeout })
    else (.ok (), s)

/-- Whether a call fails, and the session after it. -/
def call : Call → Except ErrorCode Unit × Session N
  | .receive bytes now => Prod.map (Except.map fun _ => ()) id (s.receive bytes now)
  | .takeMessage => (.ok (), s.takeMessage)
  | .send sdu => s.send sdu
  | .pollSend now outLen => Prod.map (Except.map fun _ => ()) id (s.pollSend now outLen)
  | .pollTimeout now => s.pollTimeout now

/-- The session after a call. -/
def step (c : Call) : Session N := (s.call c).2

end Session

/-- The packets given to a session by a call. -/
def Call.packets : Call → List (List UInt8)
  | .receive bytes _ => [bytes]
  | _ => []

/-! ## Messages and the frames they came in -/

/-- A data segment begins a message or carries octets of one. A packet that does neither only
acknowledges. -/
def Frame.isSegment (f : Frame) : Bool := decide (f.payload ≠ []) || f.flags.beginning

/-- The payloads of the data segments among some frames, one after the other. -/
def Frame.carried (frames : List Frame) : List UInt8 :=
  (frames.filter Frame.isSegment).flatMap Frame.payload

/-- The number of a packet is the one after another's, modulo 256. -/
def Frame.Follows (f g : Frame) : Prop := g.sequence = f.sequence + 1

/-- Some frames, the first of them the most recent Beginning Segment: the length it declared, and the octets
the data segments carried since. -/
structure Begun (frames : List Frame) (first : Frame) (rest : List Frame) (total : UInt16)
    (octets : List UInt8) : Prop where
  isSuffix : first :: rest <:+ frames
  beginning : first.flags.beginning = true
  continuing : ∀ f ∈ rest, f.flags.beginning = false
  declared : first.messageLength = some total
  octets_eq : octets = Frame.carried (first :: rest)

/-- A message is all that the data segments carried since the most recent Beginning Segment, which declared
its length; the last of them carried the Ending flag, and no packet is missing in between. -/
def Whole (frames : List Frame) (message : List UInt8) : Prop :=
  ∃ first rest total last, Begun frames first rest total message ∧ total.toNat = message.length ∧
    ((first :: rest).filter Frame.isSegment).getLast? = some last ∧ last.flags.ending = true ∧
    (first :: rest).IsChain Frame.Follows

lemma Frame.carried_append (l m : List Frame) : carried (l ++ m) = carried l ++ carried m := by
  simp [carried]

lemma Frame.carried_of_isSegment {f : Frame} (h : f.isSegment = true) : carried [f] = f.payload := by
  simp [carried, h]

lemma Frame.carried_of_not {f : Frame} (h : f.isSegment = false) : carried [f] = [] := by
  simp [carried, h]

namespace Begun

variable {frames rest : List Frame} {first f : Frame} {total : UInt16} {octets : List UInt8}

/-- A Beginning Segment that has just come. -/
lemma start (hbeginning : f.flags.beginning = true) (hdeclared : f.messageLength = some total) :
    Begun (frames ++ [f]) f [] total f.payload where
  isSuffix := List.suffix_append frames [f]
  beginning := hbeginning
  continuing := by simp
  declared := hdeclared
  octets_eq := (Frame.carried_of_isSegment (by simp [Frame.isSegment, hbeginning])).symm

/-- Another packet after it. -/
lemma snoc (h : Begun frames first rest total octets) (hf : f.flags.beginning = false) :
    Begun (frames ++ [f]) first (rest ++ [f]) total (octets ++ Frame.carried [f]) where
  isSuffix := by
    obtain ⟨earlier, rfl⟩ := h.isSuffix
    exact ⟨earlier, by simp⟩
  beginning := h.beginning
  continuing := by
    intro g hg
    rcases List.mem_append.mp hg with hrest | hlast
    · exact h.continuing g hrest
    · rw [List.mem_singleton.mp hlast]
      exact hf
  declared := h.declared
  octets_eq := by rw [h.octets_eq, ← Frame.carried_append, List.cons_append]

end Begun

namespace Session

variable {s s' : Session N}

/-! ## One packet -/

/-- What a segment that was taken did to the message: `total` is the length declared for it, `before` what
had been put together. -/
structure Took (s s' : Session N) (f : Frame) (r : Received) (total : UInt16) (before : List UInt8) :
    Prop where
  goesOn : f.flags.beginning = true ∧ f.messageLength = some total ∧ before = [] ∨
    f.flags.beginning = false ∧ s.rxExpected = some total ∧ before = s.rx
  rx : s'.rx = before ++ f.payload
  result : r = .part ∧ s'.rxExpected = some total ∨
    r = .message ∧ s'.rxExpected = none ∧ f.flags.ending = true ∧ total.toNat = s'.rx.length

/-- A packet that was taken is a frame with the next number. It carried no segment, or one. -/
structure Accepted (s s' : Session N) (f : Frame) (r : Received) : Prop where
  opened : s.closed = none
  stillOpen : s'.closed = none
  next : f.sequence = s.rxSequence + 1
  rxSequence : s'.rxSequence = f.sequence
  body : f.isSegment = false ∧ r = .ack ∧ s'.rx = s.rx ∧ s'.rxExpected = s.rxExpected ∨
    f.isSegment = true ∧ ∃ total before, Took s s' f r total before

variable {now : Instant} {f : Frame} {r : Received} {bytes : List UInt8} {code : ErrorCode}

/-- An acknowledgement has no part in the message. -/
lemma takeAck_ok {ack : Option UInt8} (h : s.takeAck ack now = (.ok (), s')) :
    s'.closed = s.closed ∧ s'.rxSequence = s.rxSequence ∧ s'.rx = s.rx ∧
      s'.rxExpected = s.rxExpected := by
  cases ack with
  | none =>
    cases h
    exact ⟨rfl, rfl, rfl, rfl⟩
  | some acked =>
    rw [takeAck] at h
    split at h
    case isTrue => cases h
    case isFalse =>
      cases h
      exact ⟨rfl, rfl, rfl, rfl⟩

/-- A segment begins a message, with nothing of it put together yet, or goes on with one. -/
lemma beginMessage_ok (h : s.beginMessage f = (.ok (), s')) :
    ∃ total before, s' = { s with rxExpected := some total, rx := before } ∧
      (f.flags.beginning = true ∧ f.messageLength = some total ∧ before = [] ∨
        f.flags.beginning = false ∧ s.rxExpected = some total ∧ before = s.rx) := by
  rw [beginMessage] at h
  split at h
  case isTrue hbeginning =>
    split at h
    case isTrue => cases h
    case isFalse =>
      cases hlength : f.messageLength with
      | none =>
        rw [hlength] at h
        cases h
      | some length =>
        rw [hlength] at h
        dsimp only at h
        split at h
        case isTrue => cases h
        case isFalse =>
          cases h
          exact ⟨length, [], rfl, .inl ⟨hbeginning, rfl, rfl⟩⟩
  case isFalse hbeginning =>
    split at h
    case isTrue => cases h
    case isFalse hbegun =>
      obtain ⟨total, htotal⟩ := Option.ne_none_iff_exists'.mp hbegun
      cases h
      refine ⟨total, s.rx, ?_, .inr ⟨Bool.eq_false_of_not_eq_true hbeginning, htotal, rfl⟩⟩
      rw [← htotal]

/-- A segment is appended, and the message is whole only if it has the length that was declared. -/
lemma appendSegment_ok {total : UInt16} (hbegun : s.rxExpected = some total)
    (h : s.appendSegment f = (.ok r, s')) :
    s'.closed = s.closed ∧ s'.rxSequence = s.rxSequence ∧ s'.rx = s.rx ++ f.payload ∧
      (r = .part ∧ s'.rxExpected = some total ∨
        r = .message ∧ s'.rxExpected = none ∧ f.flags.ending = true ∧ total.toNat = s'.rx.length) := by
  rw [appendSegment] at h
  split at h
  case isTrue => cases h
  case isFalse =>
    dsimp only at h
    split at h
    case isTrue =>
      cases h
      exact ⟨rfl, rfl, rfl, .inl ⟨rfl, hbegun⟩⟩
    case isFalse hending =>
      rw [hbegun] at h
      dsimp only at h
      split at h
      case isTrue => cases h
      case isFalse hlength =>
        cases h
        exact ⟨rfl, rfl, rfl,
          .inr ⟨rfl, rfl, Bool.eq_true_of_not_eq_false hending, not_not.mp hlength⟩⟩

/-- What a segment that was taken did. -/
lemma takeSegment_ok (h : s.takeSegment f = (.ok r, s')) :
    s'.closed = s.closed ∧ s'.rxSequence = s.rxSequence ∧
      ∃ total before, Took s s' f r total before := by
  rw [takeSegment] at h
  rcases hbegin : s.beginMessage f with ⟨_ | _, s₁⟩
  · rw [hbegin] at h
    cases h
  · rw [hbegin] at h
    obtain ⟨total, before, rfl, hgoesOn⟩ := beginMessage_ok hbegin
    have hbegun : ({ s with rxExpected := some total, rx := before } : Session N).rxExpected =
      some total := rfl
    obtain ⟨hclosed, hsequence, hrx, hresult⟩ := appendSegment_ok hbegun h
    exact ⟨hclosed, hsequence, total, before, hgoesOn, hrx, hresult⟩

/-- What a packet that was taken did. -/
lemma receive_ok (h : s.receive bytes now = (.ok r, s')) :
    ∃ f, Frame.decode bytes = .ok f ∧ s.Accepted s' f r := by
  cases hopen : s.closed with
  | some code =>
    rw [receive, hopen] at h
    cases h
  | none =>
    have hinner : s.receiveInner bytes now = (.ok r, s') := by
      rw [receive, hopen] at h
      rcases hx : s.receiveInner bytes now with ⟨_ | _, _⟩
      · rw [hx] at h
        cases h
      · rw [hx] at h
        exact h
    rw [receiveInner] at hinner
    split at hinner
    · cases hinner
    rename_i f hdecode
    refine ⟨f, hdecode, ?_⟩
    split at hinner
    case isTrue => cases hinner
    case isFalse hnext =>
      split at hinner
      case isTrue => cases hinner
      case isFalse =>
        rcases hack : (s.noted f.sequence now).takeAck f.ack now with ⟨_ | _, s₁⟩
        · rw [hack] at hinner
          cases hinner
        · rw [hack] at hinner
          obtain ⟨hclosed, hsequence, hrx, hexpected⟩ := takeAck_ok hack
          dsimp only at hinner
          split at hinner
          case isTrue hempty =>
            cases hinner
            refine ⟨hopen, hclosed.trans hopen, not_not.mp hnext, hsequence,
              .inl ⟨?_, rfl, hrx, hexpected⟩⟩
            simp [Frame.isSegment, hempty]
          case isFalse hfull =>
            obtain ⟨hclosed', hsequence', total, before, htook⟩ := takeSegment_ok hinner
            refine ⟨hopen, hclosed'.trans (hclosed.trans hopen), not_not.mp hnext,
              hsequence'.trans hsequence, .inr ⟨?_, total, before, ?_⟩⟩
            · rw [Frame.isSegment, Bool.or_eq_true, decide_eq_true_eq]
              by_contra hnot
              exact hfull ⟨not_not.mp fun h => hnot (.inl h),
                Bool.eq_false_of_not_eq_true fun h => hnot (.inr h)⟩
            · exact
                { goesOn := by
                    rcases htook.goesOn with hbegins | ⟨hnot, htotal, hbefore⟩
                    · exact .inl hbegins
                    · exact .inr ⟨hnot, htotal.symm ▸ hexpected.symm, hbefore.trans hrx⟩
                  rx := htook.rx
                  result := htook.result }

/-! ## Sending -/

/-- Nothing of the receiving half has changed, and the session is as open as it was. -/
structure SameReceiving (s s' : Session N) : Prop where
  closed : s'.closed = s.closed
  rxSequence : s'.rxSequence = s.rxSequence
  rx : s'.rx = s.rx
  rxExpected : s'.rxExpected = s.rxExpected

lemma SameReceiving.refl (s : Session N) : s.SameReceiving s := ⟨rfl, rfl, rfl, rfl⟩

lemma writeHeader_sameReceiving {beginning ending : Bool} {payloadLen outLen : ℕ}
    {x : Except ErrorCode (List UInt8)}
    (h : s.writeHeader now beginning ending payloadLen outLen = (x, s')) : s.SameReceiving s' := by
  rw [writeHeader] at h
  split at h
  · cases h
    exact .refl s
  · split at h
    · cases h
      exact .refl s
    · cases h
      exact ⟨rfl, rfl, rfl, rfl⟩

lemma pollSendInner_sameReceiving {outLen : ℕ} {x : Except ErrorCode (Option (List UInt8))}
    (h : s.pollSendInner now outLen = (x, s')) : s.SameReceiving s' := by
  rw [pollSendInner] at h
  split at h
  · cases h
    exact .refl s
  split at h
  · split at h
    · split at h <;> rename_i hwrite <;> cases h <;> exact writeHeader_sameReceiving hwrite
    · cases h
      exact .refl s
  split at h
  · cases h
    exact .refl s
  dsimp only at h
  split at h <;> rename_i s₁ hwrite
  · cases h
    exact writeHeader_sameReceiving hwrite
  have hwritten := writeHeader_sameReceiving hwrite
  split at h
  · cases h
    exact hwritten
  · cases h
    rw [sentSegment]
    split
    · exact ⟨hwritten.closed, hwritten.rxSequence, hwritten.rx, hwritten.rxExpected⟩
    · exact ⟨hwritten.closed, hwritten.rxSequence, hwritten.rx, hwritten.rxExpected⟩

/-- A call that gives no packet and takes no message changes nothing of the receiving half, unless it
closes the session. -/
lemma step_sameReceiving {c : Call} (hpackets : c.packets = []) (hc : c ≠ .takeMessage)
    (hopen : (s.step c).closed = none) : s.SameReceiving (s.step c) := by
  cases c with
  | receive bytes now => cases hpackets
  | takeMessage => exact absurd rfl hc
  | send sdu =>
    rw [step, call, send]
    split
    · exact .refl s
    split
    · exact .refl s
    split
    · exact .refl s
    split
    · exact .refl s
    · exact ⟨rfl, rfl, rfl, rfl⟩
  | pollSend now outLen =>
    rw [step, call] at hopen ⊢
    rcases hinner : s.pollSendInner now outLen with ⟨_ | _, s₁⟩
    · rw [pollSend, hinner] at hopen ⊢
      split at hopen
      · exact .refl s
      · cases hopen
    · rw [pollSend, hinner]
      split
      · exact .refl s
      · exact pollSendInner_sameReceiving hinner
  | pollTimeout now =>
    rw [step, call, pollTimeout] at hopen ⊢
    cases hclosed : s.closed with
    | some code =>
      exact .refl s
    | none =>
      rw [hclosed] at hopen
      dsimp only at hopen ⊢
      split at hopen
      case isTrue => cases hopen
      case isFalse hrunning =>
        rw [if_neg hrunning]
        exact .refl s

/-! ## Runs -/

/-- What is known of a session that is still open, and the packets that were given to it. -/
structure Heard (s : Session N) (packets : List (List UInt8)) (frames : List Frame) : Prop where
  read : packets.map Frame.decode = frames.map .ok
  chain : frames.IsChain Frame.Follows
  last : ∀ f ∈ frames.getLast?, f.sequence = s.rxSequence
  begun : ∀ total ∈ s.rxExpected, ∃ first rest, Begun frames first rest total s.rx

lemma heard_new (role : Role) (params : SessionParams) (now : Instant) :
    Heard (new role params now : Session N) [] [] where
  read := rfl
  chain := .nil
  last := by simp
  begun := by simp [new]

namespace Heard

variable {packets : List (List UInt8)} {frames : List Frame}

/-- What a session keeps of the receiving half, it keeps of what it has heard. -/
lemma keep (h : s.Heard packets frames) (hsame : s.SameReceiving s') : s'.Heard packets frames where
  read := h.read
  chain := h.chain
  last := by
    rw [hsame.rxSequence]
    exact h.last
  begun := by
    rw [hsame.rxExpected, hsame.rx]
    exact h.begun

/-- A message is taken, or what there is of one given up. -/
lemma takeMessage (h : s.Heard packets frames) : s.takeMessage.Heard packets frames where
  read := h.read
  chain := h.chain
  last := h.last
  begun := by simp [Session.takeMessage]

variable {f : Frame} {r : Received} {bytes : List UInt8}

/-- A segment that was taken is of the message begun last. -/
lemma begun_of_took (h : s.Heard packets frames) {total : UInt16} {before : List UInt8}
    (hsegment : f.isSegment = true) (htook : s.Took s' f r total before) :
    ∃ first rest, Begun (frames ++ [f]) first rest total s'.rx := by
  rw [htook.rx]
  rcases htook.goesOn with ⟨hbeginning, hdeclared, rfl⟩ | ⟨hcontinuing, hexpected, rfl⟩
  · exact ⟨f, [], .start hbeginning hdeclared⟩
  · obtain ⟨first, rest, hbegun⟩ := h.begun total hexpected
    refine ⟨first, rest ++ [f], ?_⟩
    rw [← Frame.carried_of_isSegment hsegment]
    exact hbegun.snoc hcontinuing

/-- A packet that was taken is heard. -/
lemma accept (h : s.Heard packets frames) (hdecode : Frame.decode bytes = .ok f)
    (haccept : s.Accepted s' f r) : s'.Heard (packets ++ [bytes]) (frames ++ [f]) where
  read := by simp [h.read, hdecode]
  chain := by
    refine List.isChain_append.mpr ⟨h.chain, .singleton f, ?_⟩
    intro last hlast g hg
    rw [List.head?_cons, Option.mem_some_iff] at hg
    rw [Frame.Follows, ← hg, haccept.next, h.last last hlast]
  last := by simp [haccept.rxSequence]
  begun := by
    intro total htotal
    rcases haccept.body with ⟨hnot, -, hrx, hexpected⟩ | ⟨hsegment, total', before, htook⟩
    · obtain ⟨first, rest, hbegun⟩ := h.begun total (hexpected ▸ htotal)
      have hcontinuing : f.flags.beginning = false := (Bool.or_eq_false_iff.mp hnot).2
      refine ⟨first, rest ++ [f], ?_⟩
      rw [hrx, ← List.append_nil s.rx, ← Frame.carried_of_not hnot]
      exact hbegun.snoc hcontinuing
    · rcases htook.result with ⟨-, hgoesOn⟩ | ⟨-, hdone, -⟩
      · obtain rfl : total' = total := Option.some.inj (hgoesOn.symm.trans htotal)
        exact h.begun_of_took hsegment htook
      · rw [hdone] at htotal
        cases htotal

/-- A packet that completes a message completes a whole one. -/
lemma whole (h : s.Heard packets frames) (hdecode : Frame.decode bytes = .ok f)
    (haccept : s.Accepted s' f .message) : Whole (frames ++ [f]) s'.message := by
  rcases haccept.body with ⟨-, hack, -⟩ | ⟨hsegment, total, before, htook⟩
  · cases hack
  rcases htook.result with ⟨hpart, -⟩ | ⟨-, -, hending, hlength⟩
  · cases hpart
  obtain ⟨first, rest, hbegun⟩ := h.begun_of_took hsegment htook
  have hchain : (first :: rest).IsChain Frame.Follows :=
    (h.accept hdecode haccept).chain.suffix hbegun.isSuffix
  refine ⟨first, rest, total, f, hbegun, hlength, ?_, hending, hchain⟩
  rcases List.suffix_concat_iff.mp hbegun.isSuffix with hnil | ⟨earlier, heq, -⟩
  · cases hnil
  · rw [heq, List.filter_append, List.filter_cons_of_pos hsegment, List.filter_nil, List.getLast?_concat]

end Heard

/-- While a session is open it has heard all that it was given. -/
def Hears (s : Session N) (packets : List (List UInt8)) : Prop :=
  s.closed = none → ∃ frames, s.Heard packets frames

/-- A session that has failed stays closed, for the same reason. -/
lemma step_closed (h : s.closed = some code) (c : Call) : (s.step c).closed = some code := by
  cases c with
  | takeMessage => exact h
  | receive bytes now => simp [step, call, receive, h]
  | send sdu => simp [step, call, send, h]
  | pollSend now outLen => simp [step, call, pollSend, h]
  | pollTimeout now => simp [step, call, pollTimeout, h]

/-- A session that has failed refuses every call that can be refused. -/
lemma call_closed (h : s.closed = some code) {c : Call} (hc : c ≠ .takeMessage) :
    (s.call c).1 = .error code := by
  cases c with
  | takeMessage => exact absurd rfl hc
  | receive bytes now => simp only [call, receive, h, Prod.map, Except.map]
  | send sdu => simp only [call, send, h]
  | pollSend now outLen => simp only [call, pollSend, h, Prod.map, Except.map]
  | pollTimeout now => simp only [call, pollTimeout, h]

/-- A packet that is refused closes the session. -/
lemma receive_error {e : ErrorCode} (h : s.receive bytes now = (.error e, s')) : s'.closed = some e := by
  rw [receive] at h
  split at h
  case h_1 hclosed =>
    cases h
    exact hclosed
  case h_2 =>
    rcases hinner : s.receiveInner bytes now with ⟨_ | _, _⟩
    · rw [hinner] at h
      cases h
      rfl
    · rw [hinner] at h
      cases h

/-- One call more. -/
lemma Hears.step {packets : List (List UInt8)} (h : s.Hears packets) (c : Call) :
    (s.step c).Hears (packets ++ c.packets) := by
  intro hopen
  have hwas : s.closed = none := by
    by_contra hclosed
    obtain ⟨code, hcode⟩ := Option.ne_none_iff_exists'.mp hclosed
    rw [step_closed hcode] at hopen
    cases hopen
  obtain ⟨frames, hheard⟩ := h hwas
  have hother : c.packets = [] → c ≠ .takeMessage →
      ∃ frames, (s.step c).Heard (packets ++ c.packets) frames := by
    intro hpackets hc
    refine ⟨frames, ?_⟩
    rw [hpackets, List.append_nil]
    exact hheard.keep (step_sameReceiving hpackets hc hopen)
  cases c with
  | receive bytes now =>
    rw [Session.step, call] at hopen ⊢
    rcases hreceive : s.receive bytes now with ⟨e | r, s'⟩
    · rw [hreceive] at hopen
      cases (receive_error hreceive).symm.trans hopen
    · obtain ⟨f, hdecode, haccept⟩ := receive_ok hreceive
      exact ⟨frames ++ [f], hheard.accept hdecode haccept⟩
  | takeMessage =>
    refine ⟨frames, ?_⟩
    rw [show Call.takeMessage.packets = [] from rfl, List.append_nil]
    exact hheard.takeMessage
  | send sdu | pollSend now outLen | pollTimeout now => exact hother rfl (by simp)

/-- Any number of calls more. -/
lemma Hears.run {packets : List (List UInt8)} (h : s.Hears packets) (calls : List Call) :
    (calls.foldl Session.step s).Hears (packets ++ calls.flatMap Call.packets) := by
  induction calls generalizing s packets with
  | nil => simpa using h
  | cons c calls ih =>
    rw [List.flatMap_cons, ← List.append_assoc]
    exact ih (h.step c)

/-- Whatever packets a session is given and whatever else is asked of it, a message that it reports is
whole: all that the data segments since the last Beginning Segment carried, of the length that segment
declared, with no packet missing. After the first packet it refuses it refuses every call. -/
theorem reassembles_whole (role : Role) (params : SessionParams) (now : Instant) (calls : List Call)
    (bytes : List UInt8) (time : Instant) :
    (∀ s', (calls.foldl step (new role params now : Session N)).receive bytes time = (.ok .message, s') →
      ∃ frames, (calls.flatMap Call.packets ++ [bytes]).map Frame.decode = frames.map .ok ∧
        Whole frames s'.message) ∧
    ∀ e s', (calls.foldl step (new role params now : Session N)).receive bytes time = (.error e, s') →
      ∀ (later : List Call) (c : Call), c ≠ .takeMessage →
        ((later.foldl step s').call c).1 = .error e := by
  constructor
  · intro s' hreceive
    obtain ⟨f, hdecode, haccept⟩ := receive_ok hreceive
    have hnew : (new role params now : Session N).Hears [] := fun _ => ⟨[], heard_new role params now⟩
    obtain ⟨frames, hheard⟩ := hnew.run calls haccept.opened
    exact ⟨frames ++ [f], (hheard.accept hdecode haccept).read, hheard.whole hdecode haccept⟩
  · intro e s' hreceive later c hc
    have hclosed : (later.foldl step s').closed = some e :=
      foldl_invariant (I := fun s : Session N => s.closed = some e) (W := fun _ => True)
        (fun s op _ h => step_closed h op) (fun _ _ => trivial) (receive_error hreceive)
    exact call_closed hclosed hc

/-- A message in two segments, with an acknowledgement alone between them. -/
theorem reassembles_whole_twoSegments :
    ∃ frames, ([[0x01, 0, 3, 0, 0xAA, 0xBB], [0x08, 0, 1], [0x06, 2, 0xCC]] : List (List UInt8)).map
        Frame.decode = frames.map .ok ∧ Whole frames [0xAA, 0xBB, 0xCC] :=
  (reassembles_whole (N := 16) .server ⟨20, 4⟩ ⟨0⟩
    [.receive [0x01, 0, 3, 0, 0xAA, 0xBB] ⟨1⟩, .receive [0x08, 0, 1] ⟨2⟩] [0x06, 2, 0xCC] ⟨3⟩).1 _ rfl

end Session

end MatterKit.Btp
