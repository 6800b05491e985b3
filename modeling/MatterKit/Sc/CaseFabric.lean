import MatterKit.Sc.Gate

/-!
# Runs of the secure channel: the fabric of a CASE session

A node resolves the fabric of a CASE handshake twice. Sigma1 names it by a destination identifier, and
the chain in Sigma3 is verified against the root of the fabric that matched. But the session is then put
on the first fabric in the table with the 64-bit fabric id of the peer, and fabric ids are unique only
together with a root.

`case_session_fabric_iff` says exactly when a session that is installed is on the fabric it was
negotiated on: when no other fabric with the same id comes earlier in the table. It covers every
installation in every run, since it is about the next message after any run.
-/

namespace MatterKit.Sc

open Lib Machine Tlv Commissioning

variable {S X N : ℕ} {K : Type}

/-! ## The history of a run -/

/-- Whether an answer is a Sigma2. -/
def answersSigma1 : Option (Except ErrorCode ChannelReply) → Bool
  | some (.ok r) => r.reply.any fun reply => decide (reply.1 = opcodeSigma2)
  | _ => false

/-- The CASE session an answer announces. -/
def caseOf : Except ErrorCode ChannelReply → Option Established
  | .ok r => r.established.filter fun e => decide (e.kind = .caseSession)
  | .error _ => none

/-- A node with the last Sigma1 that it answered. -/
structure CaseHistory (S X N : ℕ) (K : Type) where
  node : ChannelNode S X K
  sigma1 : Option (ChannelMessage N) := none

namespace CaseHistory

/-- The history of a node with a new channel. -/
def new (start : ChannelNode S X K) : CaseHistory S X N K := { node := { start with channel := {} } }

/-- The history after an operation. -/
def after (p : Primitives) (store : KeyStore K) (h : CaseHistory S X N K) (op : GateOp S X N K) :
    CaseHistory S X N K :=
  let (out, node) := h.node.step p store op
  { node := node
    sigma1 :=
      match op with
      | .message m => if answersSigma1 out then some m else h.sigma1
      | _ => h.sigma1 }

/-- The history after a run. -/
def run (p : Primitives) (store : KeyStore K) (h : CaseHistory S X N K) (ops : List (GateOp S X N K)) :
    CaseHistory S X N K :=
  ops.foldl (after p store) h

end CaseHistory

/-- Every message of a run finds this table of fabrics. -/
def GateOp.Finds (table : FabricTable N) : GateOp S X N K → Prop
  | .message m => m.fabrics = table
  | _ => True

/-! ## A concrete node on two fabrics -/

namespace Sample

/-- Stand-in primitives: a destination identifier is the key of its root, and a chain is good if it is
the certificate of the root. -/
def casePrimitives : Primitives where
  spake := primitives.spake
  case :=
    { kdf := fun _ _ _ length => .ok (List.replicate length 7)
      hmac := fun _ message => .ok ((message.drop 32).take 32)
      aead := .tagByKey
      hash := fun octets => octets.take 32
      verify := fun _ _ _ => .ok true
      decodeCertificate := fun octets => .ok ⟨octets, ⟨.replicate 65 0⟩⟩
      verifyChain := fun noc _ root _ =>
        if noc.encoded = root.encoded then .ok ⟨⟨5⟩, ⟨1⟩, ⟨[], by decide⟩⟩
        else .error .certPathInvalid }

/-- A key store that always has the key it is asked for. -/
def allKeys : KeyStore Unit where
  generate := fun keys _ _ => (.ok (⟨1⟩, ⟨.replicate 65 4⟩), keys)
  publicKey := fun _ _ => .ok ⟨.replicate 65 4⟩
  sign := fun _ _ _ => .ok (List.replicate 64 6)
  ecdh := fun _ _ _ => .ok (List.replicate 32 8)
  remove := fun keys _ => (.ok (), keys)

/-- Two fabrics with the same fabric id under different roots. -/
def twoRoots : FabricTable 5 :=
  ⟨⟨[FabricTable.sample ⟨1⟩,
      { FabricTable.sample ⟨2⟩ with
        nodeId := ⟨2⟩
        rootPublicKey := ⟨.replicate 65 9⟩
        compressed := ⟨2⟩
        credentials := { noc := [0x16], rcac := [0x16] } }], by decide⟩, ⟨2⟩⟩

/-- A message of CASE to that node. -/
def caseMessage (opcode : UInt8) (body : List UInt8) : ChannelMessage 5 :=
  { message opcode body ⟨0⟩ with fabrics := twoRoots, reply := zeros 512 zeros_512 }

/-- A Sigma1 for the fabric whose root has such a key. -/
def sigma1 (root : UInt8) : ChannelMessage 5 :=
  caseMessage opcodeSigma1
    ([0x15, 0x30, 0x01, 0x20] ++ List.replicate 32 5 ++ [0x25, 0x02, 0x0A, 0x00, 0x30, 0x03, 0x20] ++
      List.replicate 32 root ++ [0x30, 0x04, 0x41] ++ List.replicate 65 6 ++ [0x18])

/-- A Sigma3 with such a chain. -/
def sigma3 (noc : UInt8) : ChannelMessage 5 :=
  caseMessage opcodeSigma3
    ([0x15, 0x30, 0x01, 0x59, 0x15, 0x30, 0x01, 0x01, noc, 0x30, 0x03, 0x40] ++ List.replicate 64 6 ++
      [0x18] ++ List.replicate 16 7 ++ [0x18])

/-- The history after a Sigma1. -/
def afterSigma1 (root : UInt8) : CaseHistory 2 2 5 Unit :=
  .run casePrimitives allKeys (.new start) [.message (sigma1 root)]

end Sample

/-! ## What a step does to CASE -/

namespace ChannelNode

variable {p : Primitives} {store : KeyStore K} {s : ChannelNode S X K} {m : ChannelMessage N}

/-- The parts of a node that CASE works on. -/
def caseView (s : ChannelNode S X K) : Option CaseResponder × FabricIndex :=
  (s.channel.case, s.channel.caseFabric)

/-- What a message of PASE leaves alone, and what it does not answer. -/
structure LeavesCase (v : Option CaseResponder × FabricIndex)
    (result : Except ErrorCode ChannelReply × ChannelNode S X K) : Prop where
  view : result.2.caseView = v
  answer : answersSigma1 (some result.1) = false
  session : caseOf result.1 = none

lemma leavesCase_startPase (s : ChannelNode S X K) (m : ChannelMessage N) :
    LeavesCase s.caseView (startPase p s m) := by
  rw [startPase]
  split
  · exact ⟨rfl, rfl, rfl⟩
  · split
    · exact ⟨rfl, rfl, rfl⟩
    · exact ⟨rfl, rfl, rfl⟩

lemma leavesCase_pbkdfParamRequest (s : ChannelNode S X K) (m : ChannelMessage N) :
    LeavesCase s.caseView (pbkdfParamRequest p s m) := by
  rw [pbkdfParamRequest]
  dsimp only
  split
  · have hstart := leavesCase_startPase (p := p)
      { s with
        channel :=
          { s.channel with admission := (s.channel.admission.admitRequest true m.now).2 } } m
    exact ⟨hstart.view, hstart.answer, hstart.session⟩
  · split
    · exact ⟨rfl, rfl, rfl⟩
    · exact ⟨rfl, rfl, rfl⟩

lemma leavesCase_pake1 (s : ChannelNode S X K) (m : ChannelMessage N) :
    LeavesCase s.caseView (pake1 p s m) := by
  rw [pake1]
  split
  · exact ⟨rfl, rfl, rfl⟩
  · split
    · exact ⟨rfl, rfl, rfl⟩
    · split
      · exact ⟨rfl, rfl, rfl⟩
      · exact ⟨rfl, rfl, rfl⟩

lemma leavesCase_pake3 (s : ChannelNode S X K) (m : ChannelMessage N) :
    LeavesCase s.caseView (pake3 p s m) := by
  rw [pake3]
  split
  · exact ⟨rfl, rfl, rfl⟩
  · split
    · exact ⟨rfl, rfl, rfl⟩
    · rw [finishPase]
      split
      · exact ⟨rfl, rfl, rfl⟩
      · dsimp only
        split
        · exact ⟨rfl, rfl, rfl⟩
        · exact ⟨rfl, rfl, rfl⟩

/-- What a Sigma1 does: it is answered on a fabric, or there is no new responder. -/
lemma sigma1_cases (p : Primitives) (store : KeyStore K) (s : ChannelNode S X K) (m : ChannelMessage N) :
    caseOf (sigma1 p store s m).1 = none ∧ ((answersSigma1 (some (sigma1 p store s m).1) = false ∧
        ((sigma1 p store s m).2.caseView = s.caseView ∨ (sigma1 p store s m).2.channel.case = none)) ∨
      (answersSigma1 (some (sigma1 p store s m).1) = true ∧
        ∃ request fabric responder pending, Sigma1.decode m.body = .ok request ∧
          m.fabrics.findByDestinationIdentifier p.case.toKeyDerivation request.initiatorRandom
            request.destinationId = .ok (some fabric) ∧
          (sigma1 p store s m).2.channel.case = some responder ∧
          (sigma1 p store s m).2.channel.caseFabric = fabric.index ∧
          responder.state = .awaitingSigma3 pending ∧ pending.fabricId = fabric.fabricId)) := by
  rw [sigma1]
  cases sigma1Draws m with
  | error e => exact ⟨rfl, .inl ⟨rfl, .inl rfl⟩⟩
  | ok draws =>
    obtain ⟨sessionId, randomness⟩ := draws
    dsimp only
    split
    · rename_i responder index reply keys haccepted
      rw [acceptedSigma1] at haccepted
      simp only [exec_bind_eq_ok, exec_ofResult, Prod.mk.injEq] at haccepted
      obtain ⟨request, _, ⟨hdecode, rfl⟩, haccept⟩ := haccepted
      obtain ⟨fabric, pending, hfabric, rfl, hstate, hanswers⟩ := acceptSigma1_ok haccept
      exact ⟨rfl, .inr ⟨rfl, request, fabric, responder, pending, hdecode, hfabric, rfl, rfl, hstate,
        hanswers.fabricId⟩⟩
    · cases (StatusReport.secureChannel .noSharedTrustRoots).encode m.reply.octets.length with
      | ok reply => exact ⟨rfl, .inl ⟨rfl, .inr rfl⟩⟩
      | error e => exact ⟨rfl, .inl ⟨rfl, .inr rfl⟩⟩

/-- What a Sigma3 does: the responder in the slot stays, goes or is done, on the same fabric; and if a
session is installed, the responder took the Sigma3 and the session is on the first fabric with the
peer's fabric id. -/
lemma sigma3_cases (p : Primitives) (s : ChannelNode S X K) (m : ChannelMessage N) :
    answersSigma1 (some (sigma3 p s m).1) = false ∧
    (sigma3 p s m).2.channel.caseFabric = s.channel.caseFabric ∧
    ((sigma3 p s m).2.channel.case = s.channel.case ∨ (sigma3 p s m).2.channel.case = none ∨
      ∃ responder, (sigma3 p s m).2.channel.case = some responder ∧ responder.state = .done) ∧
    ∀ e, caseOf (sigma3 p s m).1 = some e →
      ∃ responder responder' outcome reply fabric session, s.channel.case = some responder ∧
        acceptedSigma3 p m responder s.channel.caseFabric = .ok (outcome, responder', reply) ∧
        fabricOf m outcome = some fabric ∧
        (sigma3 p s m).2.stack.sessions.find e.session = some session ∧
        session.fabricIndex = fabric.index ∧ session.localNodeId = fabric.nodeId ∧
        e.fabric = fabric.index := by
  rw [sigma3]
  cases hcase : s.channel.case with
  | none => exact ⟨rfl, rfl, .inl hcase, fun e he => by cases he⟩
  | some responder =>
    dsimp only
    split
    · exact ⟨rfl, rfl, .inr (.inl rfl), fun e he => by cases he⟩
    · rename_i outcome responder' reply haccepted
      have hdone : responder'.state = .done := by
        simp only [acceptedSigma3, bind_eq_ok] at haccepted
        obtain ⟨sigma3, -, haccept⟩ := haccepted
        obtain ⟨_, _, -, -, hhandled⟩ := CaseResponder.acceptSigma3_ok haccept
        obtain ⟨_, _, _, _, -, -, -, -, -, -, -, hstate⟩ := CaseResponder.handleSigma3_ok hhandled
        exact hstate
      split
      · exact ⟨rfl, rfl, .inr (.inl rfl), fun e he => by cases he⟩
      · rename_i fabric hfabric
        rw [finishCase]
        split
        · exact ⟨rfl, rfl, .inr (.inr ⟨_, rfl, hdone⟩), fun e he => by cases he⟩
        · dsimp only
          split
          · exact ⟨rfl, rfl, .inr (.inr ⟨_, rfl, hdone⟩), fun e he => by cases he⟩
          · rename_i evicted stack hinstall
            refine ⟨rfl, rfl, .inr (.inl rfl), ?_⟩
            intro e he
            obtain rfl := Option.some.inj he
            exact ⟨responder, responder', outcome, reply, fabric, _, rfl, haccepted, hfabric,
              Messaging.find_installSession hinstall, rfl, rfl, rfl⟩

/-- A message is one of CASE, or leaves CASE alone. -/
lemma onMessage_cases (p : Primitives) (store : KeyStore K) (s : ChannelNode S X K) (m : ChannelMessage N) :
    LeavesCase s.caseView (onMessage p store s m) ∨ onMessage p store s m = sigma1 p store s m ∨
      onMessage p store s m = sigma3 p s m := by
  rw [onMessage]
  by_cases hrequest : m.opcode = opcodePbkdfParamRequest
  · rw [if_pos hrequest]
    exact .inl (leavesCase_pbkdfParamRequest s m)
  rw [if_neg hrequest]
  by_cases hpake1 : m.opcode = opcodePake1
  · rw [if_pos hpake1]
    exact .inl (leavesCase_pake1 s m)
  rw [if_neg hpake1]
  by_cases hpake3 : m.opcode = opcodePake3
  · rw [if_pos hpake3]
    exact .inl (leavesCase_pake3 s m)
  rw [if_neg hpake3]
  by_cases hsigma1 : m.opcode = opcodeSigma1
  · rw [if_pos hsigma1]
    exact .inr (.inl rfl)
  rw [if_neg hsigma1]
  by_cases hsigma3 : m.opcode = opcodeSigma3
  · rw [if_pos hsigma3]
    exact .inr (.inr rfl)
  · rw [if_neg hsigma3]
    exact .inl ⟨rfl, rfl, rfl⟩

end ChannelNode

/-! ## The fabric of the responder in the slot -/

namespace CaseHistory

variable {p : Primitives} {store : KeyStore K} {table : FabricTable N} {h : CaseHistory S X N K}
  {op : GateOp S X N K}

/-- A responder that waits for a Sigma3 belongs to the fabric that the last answered Sigma1 matched. -/
def Resolved (p : Primitives) (table : FabricTable N) (h : CaseHistory S X N K) : Prop :=
  ∀ responder pending, h.node.channel.case = some responder →
    responder.state = .awaitingSigma3 pending →
    ∃ m request fabric, h.sigma1 = some m ∧ Sigma1.decode m.body = .ok request ∧
      table.findByDestinationIdentifier p.case.toKeyDerivation request.initiatorRandom
        request.destinationId = .ok (some fabric) ∧
      h.node.channel.caseFabric = fabric.index ∧ pending.fabricId = fabric.fabricId

lemma resolved_of_same (hresolved : h.Resolved p table) {h' : CaseHistory S X N K}
    (hview : h'.node.caseView = h.node.caseView) (hsigma1 : h'.sigma1 = h.sigma1) :
    h'.Resolved p table := by
  obtain ⟨hcase, hfabric⟩ := Prod.mk.inj hview
  intro responder pending hslot hstate
  rw [hsigma1, hfabric]
  exact hresolved responder pending (hcase ▸ hslot) hstate

/-- A message leaves in the slot a responder on the fabric of its Sigma1. -/
lemma resolved_after_message {m : ChannelMessage N} (hm : m.fabrics = table)
    (hresolved : h.Resolved p table) : (after p store h (.message m)).Resolved p table := by
  have hafter : after p store h (.message m) =
      { node := (h.node.onMessage p store m).2
        sigma1 := if answersSigma1 (some (h.node.onMessage p store m).1) then some m
          else h.sigma1 } := rfl
  rw [hafter]
  rcases ChannelNode.onMessage_cases p store h.node m with hleaves | hone | hthree
  · refine resolved_of_same hresolved hleaves.view ?_
    rw [hleaves.answer]
    rfl
  · rw [hone]
    obtain ⟨-, ⟨hanswer, hview | hnone⟩ | ⟨hanswer, request, fabric, responder, pending, hdecode, hfabric,
      hcase, hindex, hstate, hid⟩⟩ := ChannelNode.sigma1_cases p store h.node m
    · refine resolved_of_same hresolved hview ?_
      rw [hanswer]
      rfl
    · intro responder pending hslot
      cases hnone.symm.trans hslot
    · intro responder' pending' hslot hstate'
      obtain rfl := Option.some.inj (hcase.symm.trans hslot)
      obtain rfl := ResponderState.awaitingSigma3.inj (hstate.symm.trans hstate')
      refine ⟨m, request, fabric, ?_, hdecode, hm ▸ hfabric, hindex, hid⟩
      dsimp only
      rw [hanswer]
      rfl
  · rw [hthree]
    obtain ⟨hanswer, hindex, hslots, -⟩ := ChannelNode.sigma3_cases p h.node m
    rcases hslots with hsame | hnone | ⟨responder, hcase, hdone⟩
    · refine resolved_of_same hresolved (Prod.ext hsame hindex) ?_
      rw [hanswer]
      rfl
    · intro responder pending hslot
      cases hnone.symm.trans hslot
    · intro responder' pending' hslot hstate'
      obtain rfl := Option.some.inj (hcase.symm.trans hslot)
      cases hdone.symm.trans hstate'

lemma resolved_after (hop : op.Finds table) (hresolved : h.Resolved p table) :
    (after p store h op).Resolved p table := by
  cases op with
  | message m => exact resolved_after_message hop hresolved
  | poll now =>
    refine resolved_of_same hresolved ?_ rfl
    rw [after, ChannelNode.step, ChannelNode.poll]
    dsimp only
    split
    · rfl
    · rfl
  | closed session =>
    refine resolved_of_same hresolved ?_ rfl
    rw [after, ChannelNode.step, ChannelNode.closed]
    dsimp only
    split
    · rfl
    · rfl
  | release | reopen | outside window keys stack => exact resolved_of_same hresolved rfl rfl

lemma resolved_run (start : ChannelNode S X K) (ops : List (GateOp S X N K))
    (hops : ∀ op ∈ ops, op.Finds table) : (run p store (new start) ops).Resolved p table := by
  rw [run]
  refine foldl_invariant (W := GateOp.Finds table) ?_ hops ?_
  · intro h op hop hprev
    exact resolved_after hop hprev
  · intro responder pending hslot
    cases hslot

/-- The fabric a handshake was negotiated on: the one in the table whose destination identifier its
Sigma1 has, and whose root the peer's chain was verified against. -/
structure Negotiated (p : Primitives) (table : FabricTable N) (sigma1 : ChannelMessage N)
    (fabric : Fabric) : Prop where
  mem : fabric ∈ table.fabrics.toList
  matched : ∃ request, Sigma1.decode sigma1.body = .ok request ∧
    fabric.destinationIdentifier p.case.toKeyDerivation request.initiatorRandom =
      .ok request.destinationId
  verified : ∃ root tbe signer peer identity,
    p.case.decodeCertificate fabric.credentials.rcac = .ok root ∧
    verifyPeer p.case tbe root none fabric.fabricId none signer peer = .ok identity

/-- A CASE session that a message installs was negotiated on a fabric, by the last Sigma1 that was
answered and the root of that fabric; and it is put on this fabric exactly when it is the first in the
table with its fabric id. -/
theorem case_session_fabric_iff (p : Primitives) (store : KeyStore K) (table : FabricTable N)
    (hunique : (table.fabrics.toList.map Fabric.index).Nodup) (start : ChannelNode S X K)
    (ops : List (GateOp S X N K)) (hops : ∀ op ∈ ops, op.Finds table) (m : ChannelMessage N)
    (hm : m.fabrics = table) (e : Established)
    (he : caseOf ((run p store (new start) ops).node.onMessage p store m).1 = some e) :
    ∃ sigma1 fabric session, (run p store (new start) ops).sigma1 = some sigma1 ∧
      Negotiated p table sigma1 fabric ∧
      ((run p store (new start) ops).node.onMessage p store m).2.stack.sessions.find e.session =
        some session ∧ (session.fabricIndex = fabric.index ∧ session.localNodeId = fabric.nodeId ↔
        table.fabrics.toList.find? (fun f => decide (f.fabricId = fabric.fabricId)) = some fabric) := by
  have hresolved : (run p store (new start) ops).Resolved p table :=
    resolved_run start ops hops
  generalize run p store (new start) ops = h at hresolved he
  rcases ChannelNode.onMessage_cases p store h.node m with hleaves | hone | hthree
  · cases hleaves.session.symm.trans he
  · rw [hone] at he
    cases (ChannelNode.sigma1_cases p store h.node m).1.symm.trans he
  · rw [hthree] at he ⊢
    obtain ⟨-, -, -, hsession⟩ := ChannelNode.sigma3_cases p h.node m
    obtain ⟨responder, responder', outcome, reply, put, session, hslot, haccepted, hput, hfind, hindex,
      hnode, -⟩ := hsession e he
    simp only [ChannelNode.acceptedSigma3, bind_eq_ok] at haccepted
    obtain ⟨sigma3, -, haccept⟩ := haccepted
    obtain ⟨found, root, hfound, hroot, hhandled⟩ := CaseResponder.acceptSigma3_ok haccept
    obtain ⟨pending, s3k, plaintext, tbe, hstate, -, -, -, hpeer, -, -, -⟩ :=
      CaseResponder.handleSigma3_ok hhandled
    obtain ⟨sigma1, request, fabric, hsigma1, hdecode, hmatch, hcase, hid⟩ :=
      hresolved responder pending hslot hstate
    obtain ⟨hmem, hdestination⟩ := FabricTable.findByDestinationIdentifier_some hmatch
    have hsame : found = fabric := by
      rw [hm, hcase, FabricTable.find_of_nodup hunique hmem] at hfound
      exact (Option.some.inj hfound).symm
    rw [hsame] at hroot
    rw [hid] at hpeer
    obtain ⟨_, _, _, -, -, -, hpeerId, -⟩ := verifyPeer_ok hpeer
    rw [ChannelNode.fabricOf, hm, hpeerId] at hput
    refine ⟨sigma1, fabric, session, hsigma1,
      ⟨hmem, ⟨request, hdecode, hdestination⟩, root, tbe, _, _, _, hroot, hpeer⟩, hfind, ?_⟩
    rw [hput, hindex, hnode]
    constructor
    · rintro ⟨hputIndex, -⟩
      have hputMem := List.mem_of_find?_eq_some hput
      rw [List.inj_on_of_nodup_map hunique hputMem hmem hputIndex]
    · intro hsame
      obtain rfl := Option.some.inj hsame
      exact ⟨rfl, rfl⟩

/-- A handshake on the first of two fabrics with the same id installs session 9 on that fabric. -/
theorem case_session_fabric_first :
    let h := Sample.afterSigma1 0
    let result := h.node.onMessage Sample.casePrimitives Sample.allKeys (Sample.sigma3 0x15)
    caseOf result.1 = some ⟨⟨9⟩, .caseSession, ⟨1⟩, none⟩ ∧
      ∃ sigma1 fabric session, h.sigma1 = some sigma1 ∧
        Negotiated Sample.casePrimitives Sample.twoRoots sigma1 fabric ∧
        result.2.stack.sessions.find ⟨9⟩ = some session ∧
        (session.fabricIndex = fabric.index ∧ session.localNodeId = fabric.nodeId ↔
          Sample.twoRoots.fabrics.toList.find? (fun f => decide (f.fabricId = fabric.fabricId)) =
            some fabric) := by
  have hops : ∀ op ∈ [GateOp.message (S := 2) (X := 2) (K := Unit) (Sample.sigma1 0)],
      op.Finds Sample.twoRoots := by
    intro op hop
    rw [List.mem_singleton.mp hop]
    rfl
  have hsession : caseOf ((Sample.afterSigma1 0).node.onMessage Sample.casePrimitives Sample.allKeys
      (Sample.sigma3 0x15)).1 = some ⟨⟨9⟩, .caseSession, ⟨1⟩, none⟩ := by
    decide +kernel
  have hfabric : (Sample.sigma3 0x15).fabrics = Sample.twoRoots := rfl
  have hnegotiated := case_session_fabric_iff Sample.casePrimitives Sample.allKeys Sample.twoRoots
    (by decide) Sample.start [.message (Sample.sigma1 0)] hops (Sample.sigma3 0x15) hfabric
    ⟨⟨9⟩, .caseSession, ⟨1⟩, none⟩ hsession
  rw [show run Sample.casePrimitives Sample.allKeys (new Sample.start)
    [.message (Sample.sigma1 0)] = Sample.afterSigma1 0 from rfl] at hnegotiated
  generalize hresult : (Sample.afterSigma1 0).node.onMessage Sample.casePrimitives Sample.allKeys
    (Sample.sigma3 0x15) = result at hsession hnegotiated
  dsimp only
  rw [hresult]
  exact ⟨hsession, hnegotiated⟩

/-- The same handshake on the second fabric: its Sigma1 matches fabric 2 and its chain is verified
against the root of fabric 2, and session 9 is installed on fabric 1 as node 1. -/
theorem case_session_on_other_fabric :
    let h := Sample.afterSigma1 9
    let result := h.node.onMessage Sample.casePrimitives Sample.allKeys (Sample.sigma3 0x16)
    (Sample.twoRoots.fabrics.toList.map Fabric.index).Nodup ∧
      (Sample.twoRoots.findByDestinationIdentifier Sample.casePrimitives.case.toKeyDerivation
        (List.replicate 32 5) (List.replicate 32 9)).map (Option.map Fabric.index) =
          .ok (some ⟨2⟩) ∧
      h.node.channel.caseFabric = ⟨2⟩ ∧ (caseOf result.1).map Established.session = some ⟨9⟩ ∧
      (result.2.stack.sessions.find ⟨9⟩).map (fun s => (s.fabricIndex, s.localNodeId)) =
        some (⟨1⟩, ⟨1⟩) := by
  decide +kernel

end CaseHistory

end MatterKit.Sc
