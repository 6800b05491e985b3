import MatterKit.Sc.CaseFabric

/-!
# Runs of the secure channel: what comes between Sigma1 and Sigma3

A channel has one slot for CASE, and any initiator's messages go to it: a Sigma1 takes it, or empties it
if it cannot be answered, and a Sigma3 that is not taken empties it.

`caseSlot_run` is the run: operations that are neither keep what a Sigma1 has put into the slot, so that
its own Sigma3 is taken however many of them come first (`sigma3_establishes_of_spared`). One message of
a stranger that is refused, and that Sigma3 is not answered any more (`sigma3_silent`).
-/

namespace MatterKit.Sc

open Lib Machine Tlv Commissioning

open CaseHistory

variable {S X N : ℕ} {K : Type}

/-- An operation that leaves the slot of CASE alone: a message that is neither a Sigma3 nor a Sigma1 for
which there is randomness, or no message. -/
def GateOp.Spares : GateOp S X N K → Prop
  | .message m => m.opcode ≠ opcodeSigma3 ∧
      (m.opcode = opcodeSigma1 → ∃ e, ChannelNode.sigma1Draws m = .error e)
  | _ => True

namespace ChannelNode

variable {p : Primitives} {store : KeyStore K} {s : ChannelNode S X K} {m : ChannelMessage N}

/-! ## What leaves the slot alone -/

/-- The slot of CASE: the responder, its session id and its fabric. -/
def caseSlot (s : ChannelNode S X K) : Option CaseResponder × SessionId × FabricIndex :=
  (s.channel.case, s.channel.caseLocal, s.channel.caseFabric)

lemma caseSlot_pbkdfParamRequest (s : ChannelNode S X K) (m : ChannelMessage N) :
    (pbkdfParamRequest p s m).2.caseSlot = s.caseSlot := by
  rw [pbkdfParamRequest]
  dsimp only
  split
  · rw [startPase]
    split
    · rfl
    · split
      · rfl
      · rfl
  · split
    · rfl
    · rfl

lemma caseSlot_pake1 (s : ChannelNode S X K) (m : ChannelMessage N) :
    (pake1 p s m).2.caseSlot = s.caseSlot := by
  rw [pake1]
  split
  · rfl
  · split
    · rfl
    · split
      · rfl
      · rfl

lemma caseSlot_pake3 (s : ChannelNode S X K) (m : ChannelMessage N) :
    (pake3 p s m).2.caseSlot = s.caseSlot := by
  rw [pake3]
  split
  · rfl
  · split
    · rfl
    · rw [finishPase]
      split
      · rfl
      · dsimp only
        split
        · rfl
        · rfl

/-- A message that spares the slot leaves it alone. -/
lemma caseSlot_onMessage (h : m.opcode ≠ opcodeSigma3)
    (hdraws : m.opcode = opcodeSigma1 → ∃ e, sigma1Draws m = .error e) :
    (onMessage p store s m).2.caseSlot = s.caseSlot := by
  rw [onMessage]
  by_cases hrequest : m.opcode = opcodePbkdfParamRequest
  · rw [if_pos hrequest]
    exact caseSlot_pbkdfParamRequest s m
  rw [if_neg hrequest]
  by_cases hpake1 : m.opcode = opcodePake1
  · rw [if_pos hpake1]
    exact caseSlot_pake1 s m
  rw [if_neg hpake1]
  by_cases hpake3 : m.opcode = opcodePake3
  · rw [if_pos hpake3]
    exact caseSlot_pake3 s m
  rw [if_neg hpake3]
  by_cases hsigma1 : m.opcode = opcodeSigma1
  · obtain ⟨e, he⟩ := hdraws hsigma1
    rw [if_pos hsigma1, sigma1, he]
  · rw [if_neg hsigma1, if_neg h]

lemma caseSlot_step {op : GateOp S X N K} (h : op.Spares) :
    (s.step p store op).2.caseSlot = s.caseSlot := by
  cases op with
  | message m => exact caseSlot_onMessage h.1 h.2
  | poll now =>
    rw [step, poll]
    dsimp only
    split
    · rfl
    · rfl
  | closed session =>
    rw [step, closed]
    dsimp only
    split
    · rfl
    · rfl
  | release | reopen | outside window keys stack => rfl

/-- The node after a run. -/
def run (p : Primitives) (store : KeyStore K) (s : ChannelNode S X K) (ops : List (GateOp S X N K)) :
    ChannelNode S X K :=
  ops.foldl (fun s op => (s.step p store op).2) s

/-- **What spares the slot** does so along whole runs. -/
lemma caseSlot_run {ops : List (GateOp S X N K)} (h : ∀ op ∈ ops, op.Spares) :
    (s.run p store ops).caseSlot = s.caseSlot :=
  foldl_invariant (I := fun s' : ChannelNode S X K => s'.caseSlot = s.caseSlot)
    (fun _ _ hop hslot => (caseSlot_step hop).trans hslot) h rfl

/-! ## The Sigma3 of the handshake -/

/-- A Sigma3 that belongs to the handshake in the slot, of a peer on a fabric that is there: the responder
takes it. -/
structure Matches (p : Primitives) (s : ChannelNode S X K) (m : ChannelMessage N)
    (outcome : CaseOutcome) (fabric : Fabric) : Prop where
  opcode : m.opcode = opcodeSigma3
  taken : ∀ responder, s.channel.case = some responder → ∃ responder' reply,
    acceptedSigma3 p m responder s.channel.caseFabric = .ok (outcome, responder', reply)
  present : fabricOf m outcome = some fabric

/-- The session of the handshake can be installed. -/
def HasRoom (p : Primitives) (s : ChannelNode S X K) (m : ChannelMessage N) (outcome : CaseOutcome)
    (fabric : Fabric) : Prop :=
  ∃ counter randomness evicted, sessionDraws m = .ok (counter, randomness) ∧
    (s.stack.installSession p.case.aead (outcome.intoSession s.channel.caseLocal fabric counter m.now)
      m.now randomness m.frameLen m.evictLen).1 = .ok evicted

/-- Whether a Sigma3 belongs to the handshake is decided by the slot. -/
lemma Matches.of_caseSlot {s' : ChannelNode S X K} {outcome : CaseOutcome} {fabric : Fabric}
    (h : Matches p s m outcome fabric) (hslot : s'.caseSlot = s.caseSlot) :
    Matches p s' m outcome fabric := by
  obtain ⟨hcase, hrest⟩ := Prod.mk.inj hslot
  obtain ⟨-, hfabric⟩ := Prod.mk.inj hrest
  exact ⟨h.opcode, by rw [hcase, hfabric]; exact h.taken, h.present⟩

lemma onMessage_sigma3 (h : m.opcode = opcodeSigma3) : onMessage p store s m = sigma3 p s m := by
  rw [onMessage, h]
  rfl

lemma onMessage_sigma1 (h : m.opcode = opcodeSigma1) : onMessage p store s m = sigma1 p store s m := by
  rw [onMessage, h]
  rfl

/-- The Sigma3 of the handshake in the slot establishes its session. -/
lemma caseOf_of_matches {responder : CaseResponder} {outcome : CaseOutcome} {fabric : Fabric}
    (hcase : s.channel.case = some responder) (h : Matches p s m outcome fabric)
    (hroom : HasRoom p s m outcome fabric) : caseOf (onMessage p store s m).1 =
      some ⟨s.channel.caseLocal, .caseSession, fabric.index, none⟩ := by
  obtain ⟨responder', reply, haccepted⟩ := h.taken responder hcase
  obtain ⟨counter, randomness, evicted, hdraws, hinstall⟩ := hroom
  rw [onMessage_sigma3 h.opcode, sigma3, hcase]
  dsimp only
  rw [haccepted]
  dsimp only
  rw [h.present]
  dsimp only
  rw [finishCase, hdraws]
  dsimp only
  generalize s.stack.installSession _ _ _ _ _ _ = installed at hinstall ⊢
  obtain ⟨result, stack⟩ := installed
  obtain rfl : result = .ok evicted := hinstall
  rfl

/-- A message that is refused and empties the slot: a Sigma1 that gets no Sigma2, or a Sigma3 that the
responder in the slot does not take. -/
def Evicts (p : Primitives) (store : KeyStore K) (s : ChannelNode S X K) (m : ChannelMessage N) : Prop :=
  (m.opcode = opcodeSigma1 ∧ (∃ draws, sigma1Draws m = .ok draws) ∧
    answersSigma1 (some (onMessage p store s m).1) = false) ∨
  (m.opcode = opcodeSigma3 ∧ ∀ responder, s.channel.case = some responder →
    ∃ e, acceptedSigma3 p m responder s.channel.caseFabric = .error e)

lemma case_of_evicts (h : Evicts p store s m) : (onMessage p store s m).2.channel.case = none := by
  rcases h with ⟨hsigma1, ⟨⟨sessionId, randomness⟩, hdraws⟩, hanswer⟩ | ⟨hsigma3, hrefused⟩
  · rw [onMessage_sigma1 hsigma1, sigma1, hdraws] at hanswer ⊢
    dsimp only at hanswer ⊢
    generalize exec (acceptedSigma1 p store m sessionId randomness) s.keys = accepted at hanswer ⊢
    obtain ⟨e | ⟨responder, fabric, reply⟩, keys⟩ := accepted
    · dsimp only
      split
      · rfl
      · rfl
    · exact absurd hanswer (by simp [answersSigma1, ChannelReply.answer])
  · rw [onMessage_sigma3 hsigma3, sigma3]
    cases hcase : s.channel.case with
    | none => exact hcase
    | some responder =>
      obtain ⟨e, he⟩ := hrefused responder hcase
      dsimp only
      rw [he]

/-- After it the Sigma3 of the handshake is not answered. -/
lemma sigma3_silent (h : m.opcode = opcodeSigma3) (hcase : s.channel.case = none) :
    (onMessage p store s m).1 = .ok .silent := by
  rw [onMessage_sigma3 h, sigma3, hcase]

/-- **A handshake that nobody steps into.** After a Sigma1 that is answered with a Sigma2 and any run of
operations that spare the slot, the Sigma3 of that handshake establishes its session, if there is room
for it; after one message that is refused and empties the slot, it is met with silence. -/
theorem sigma3_establishes_of_spared (p : Primitives) (store : KeyStore K) (s : ChannelNode S X K)
    (m₁ : ChannelMessage N) (hsigma1 : m₁.opcode = opcodeSigma1)
    (hanswered : answersSigma1 (some (onMessage p store s m₁).1) = true)
    (ops : List (GateOp S X N K)) (hops : ∀ op ∈ ops, op.Spares) (m₃ : ChannelMessage N)
    (outcome : CaseOutcome) (fabric : Fabric)
    (hmatches : Matches p (onMessage p store s m₁).2 m₃ outcome fabric) :
    let s₁ := (onMessage p store s m₁).2
    (HasRoom p (s₁.run p store ops) m₃ outcome fabric →
      caseOf ((s₁.run p store ops).onMessage p store m₃).1 =
        some ⟨s₁.channel.caseLocal, .caseSession, fabric.index, none⟩) ∧
    ∀ m : ChannelMessage N, Evicts p store (s₁.run p store ops) m →
      (((s₁.run p store ops).onMessage p store m).2.onMessage p store m₃).1 = .ok .silent := by
  intro s₁
  have hslot : (s₁.run p store ops).caseSlot = s₁.caseSlot := caseSlot_run hops
  have hlocal : (s₁.run p store ops).channel.caseLocal = s₁.channel.caseLocal :=
    (Prod.mk.inj (Prod.mk.inj hslot).2).1
  constructor
  · intro hroom
    obtain ⟨responder, hcase⟩ : ∃ responder, s₁.channel.case = some responder := by
      have hown : s₁ = (sigma1 p store s m₁).2 := congrArg Prod.snd (onMessage_sigma1 hsigma1)
      rw [onMessage_sigma1 hsigma1] at hanswered
      rcases (sigma1_cases p store s m₁).2 with ⟨hnone, -⟩ | ⟨-, _, _, responder, _, -, -, hcase, -⟩
      · exact absurd (hanswered.symm.trans hnone) (by simp)
      · exact ⟨responder, hown ▸ hcase⟩
    have hsame : (s₁.run p store ops).channel.case = some responder :=
      (Prod.mk.inj hslot).1.trans hcase
    rw [caseOf_of_matches hsame (hmatches.of_caseSlot hslot) hroom, hlocal]
  · exact fun m hevicts => sigma3_silent hmatches.opcode (case_of_evicts hevicts)

lemma eq_ok_of_toOption {ε α : Type} {x : Except ε α} {a : α} (h : x.toOption = some a) : x = .ok a := by
  cases x with
  | error e => exact absurd h (by simp [Except.toOption])
  | ok b => exact congrArg Except.ok (Option.some.inj h)

/-- The sample node after a Sigma1 for its first fabric. -/
def Sample.answered : ChannelNode 2 2 Unit :=
  (onMessage Sample.casePrimitives Sample.allKeys Sample.start (Sample.sigma1 0)).2

/-- A Pake1 and a Pake3 come before the Sigma3, and it establishes session 9. -/
theorem sigma3_establishes_after_pase : caseOf ((Sample.answered.run Sample.casePrimitives Sample.allKeys
      [.message (Sample.pake1 ⟨0⟩), .message (Sample.pake3 ⟨0⟩)]).onMessage Sample.casePrimitives
        Sample.allKeys (Sample.sigma3 0x15)).1 = some ⟨⟨9⟩, .caseSession, ⟨1⟩, none⟩ := by
  generalize hops : [GateOp.message (S := 2) (X := 2) (K := Unit) (Sample.pake1 ⟨0⟩),
    .message (Sample.pake3 ⟨0⟩)] = ops
  have hspares : ∀ op ∈ ops, op.Spares := by
    intro op hop
    rw [← hops, List.mem_cons, List.mem_singleton] at hop
    rcases hop with rfl | rfl
    · exact ⟨by decide, fun h => absurd h (by decide)⟩
    · exact ⟨by decide, fun h => absurd h (by decide)⟩
  -- what the responder makes of the Sigma3, and what becomes of its session
  have hchecked : (do
      let responder ← Sample.answered.channel.case
      let accepted ← (acceptedSigma3 Sample.casePrimitives (Sample.sigma3 0x15) responder
        Sample.answered.channel.caseFabric).toOption
      let fabric ← fabricOf (Sample.sigma3 0x15) accepted.1
      let draws ← (sessionDraws (Sample.sigma3 0x15)).toOption
      let evicted ← ((Sample.answered.run Sample.casePrimitives Sample.allKeys ops).stack.installSession
        Sample.casePrimitives.case.aead
        (accepted.1.intoSession (Sample.answered.run Sample.casePrimitives Sample.allKeys
          ops).channel.caseLocal fabric draws.1 (Sample.sigma3 0x15).now) (Sample.sigma3 0x15).now
        draws.2 (Sample.sigma3 0x15).frameLen (Sample.sigma3 0x15).evictLen).1.toOption
      some fabric.index) = some ⟨1⟩ := by
    rw [← hops]
    decide +kernel
  simp only [Option.bind_eq_bind, Option.bind_eq_some_iff, Option.some.injEq] at hchecked
  obtain ⟨responder, hcase, ⟨outcome, responder', reply⟩, haccepted, fabric, hfabric, draws, hdraws,
    evicted, hevicted, hindex⟩ := hchecked
  have hmatches : Matches Sample.casePrimitives Sample.answered (Sample.sigma3 0x15) outcome fabric := by
    refine ⟨rfl, fun other hother => ⟨responder', reply, ?_⟩, hfabric⟩
    obtain rfl := Option.some.inj (hcase.symm.trans hother)
    exact eq_ok_of_toOption haccepted
  have hroom : HasRoom Sample.casePrimitives
      (Sample.answered.run Sample.casePrimitives Sample.allKeys ops) (Sample.sigma3 0x15) outcome fabric :=
    ⟨draws.1, draws.2, evicted, eq_ok_of_toOption hdraws, eq_ok_of_toOption hevicted⟩
  have hanswered : answersSigma1 (some (onMessage Sample.casePrimitives Sample.allKeys Sample.start
      (Sample.sigma1 0)).1) = true := by decide +kernel
  have hlocal : Sample.answered.channel.caseLocal = ⟨9⟩ := by decide +kernel
  rw [show Sample.answered = (onMessage Sample.casePrimitives Sample.allKeys Sample.start
    (Sample.sigma1 0)).2 from rfl] at hmatches hroom hlocal ⊢
  have hsession := (sigma3_establishes_of_spared Sample.casePrimitives Sample.allKeys Sample.start
    (Sample.sigma1 0) rfl hanswered ops hspares (Sample.sigma3 0x15) outcome fabric hmatches).1 hroom
  rw [hlocal, hindex] at hsession
  exact hsession

/-- **A stranger aborts a handshake**: between a Sigma1 that has been answered and its Sigma3, which would
establish session 9, comes a Sigma1 for a fabric that is not there. It is answered that no roots are
shared, not that the node is busy, and the Sigma3 is met with silence. -/
theorem stranger_aborts_handshake :
    caseOf ((Sample.afterSigma1 0).node.onMessage Sample.casePrimitives Sample.allKeys
        (Sample.sigma3 0x15)).1 = some ⟨⟨9⟩, .caseSession, ⟨1⟩, none⟩ ∧
      ((Sample.afterSigma1 0).node.onMessage Sample.casePrimitives Sample.allKeys
        (Sample.sigma1 7)).1.toOption.bind ChannelReply.reply =
          ((StatusReport.secureChannel .noSharedTrustRoots).encode 512).toOption.map
            (fun octets => (opcodeStatusReport, octets)) ∧
      caseOf (((Sample.afterSigma1 0).node.run Sample.casePrimitives Sample.allKeys
        [.message (Sample.sigma1 7)]).onMessage Sample.casePrimitives Sample.allKeys
          (Sample.sigma3 0x15)).1 = none := by
  decide +kernel

end ChannelNode

end MatterKit.Sc
