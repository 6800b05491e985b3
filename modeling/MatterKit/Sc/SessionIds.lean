import MatterKit.Messaging.Displaced
import MatterKit.Sc.CaseFabric

/-!
# The id of a session to come

A handshake offers the id of the session it is to establish in its first answer, and the session is
installed under that id messages later. The id is drawn at random, without a look at the session table,
and `install_session` makes room before it finds out whether the id is free.

An installation that fails takes nothing with it unless it clashes: the table is full, a session can be
taken out, and the id belongs to one that stays (`Messaging.Clashes`). And along a run of the channel
every offered id is free, and still free when its handshake is done, as long as no draw hits a live id
or the id of the other handshake (`ChannelNode.Clear`).
-/

namespace MatterKit

open Lib

variable {S X : ℕ}

/-! ## An installation that fails -/

namespace Messaging

/-- Every session and every exchange is still there. -/
def StillHas (m m' : Messaging S X) : Prop :=
  (∀ s ∈ m.sessions.entries, s ∈ m'.sessions.entries) ∧
    ∀ e ∈ m.exchanges.entries, e ∈ m'.exchanges.entries

/-- The table is full, a session can be taken out of it, and the id of the new session belongs to
another. -/
def Clashes (m : Messaging S X) (session : SecureSession) : Prop :=
  m.sessions.len = S ∧ ∃ victim, m.sessions.leastRecentlyUsed = some victim ∧ m.CanOpen victim ∧
    ∃ other ∈ m.sessions.entries, other.localSessionId = session.localSessionId ∧
      other.localSessionId ≠ victim

/-- An installation that fails takes nothing with it, exactly unless it clashes. -/
lemma stillHas_iff {c : Crypto} {m : Messaging S X} (hu : m.sessions.Unique)
    (session : SecureSession) (now : Instant) (randomness : UInt32) (scratchLen outLen : ℕ) :
    (∀ e m', m.installSession c session now randomness scratchLen outLen = (.error e, m') →
      m.StillHas m') ↔ ¬ m.Clashes session := by
  constructor
  · rintro hkeeps ⟨hfull, victim, hvictim, hcan, hclash⟩
    rcases installSession_cases_of_full c hu hfull hvictim session now randomness scratchLen outLen with
      ⟨hcannot, -⟩ | ⟨-, hfree, -⟩ | ⟨-, -, m', hinstall, hmem⟩
    · exact hcannot hcan
    · obtain ⟨other, hother, hsame, hne⟩ := hclash
      exact hne (hfree other hother hsame)
    · obtain ⟨s, hs, hid, -⟩ := SessionTable.leastRecentlyUsed_eq_some hvictim
      have hstill := (hkeeps _ m' hinstall).1 s hs
      exact ((hmem s).mp hstill).2 hid
  · intro hfree e m' hinstall
    by_cases hroom : m.sessions.len < S
    · rw [installSession, if_pos hroom] at hinstall
      rcases SessionTable.insert_cases m.sessions session with ⟨-, -, t, hinsert, -⟩ | ⟨e', hinsert⟩
      · rw [hinsert] at hinstall
        cases hinstall
      · rw [hinsert] at hinstall
        cases hinstall
        exact ⟨fun s hs => hs, fun e he => he⟩
    · have hfull : m.sessions.len = S := le_antisymm m.sessions.len_le (not_lt.mp hroom)
      cases hvictim : m.sessions.leastRecentlyUsed with
      | none =>
        rw [installSession, if_neg hroom, hvictim] at hinstall
        cases hinstall
        exact ⟨fun s hs => hs, fun e he => he⟩
      | some victim =>
        rcases installSession_cases_of_full c hu hfull hvictim session now randomness scratchLen
          outLen with ⟨-, e', m₁, hfailed, hsessions, hexchanges⟩ | ⟨-, -, evicted, m₁, hok, -⟩ |
            ⟨hcan, hclash, -⟩
        · cases hfailed.symm.trans hinstall
          rw [StillHas, hsessions, hexchanges]
          exact ⟨fun s hs => hs, fun e he => he⟩
        · cases hok.symm.trans hinstall
        · exact absurd ⟨hfull, victim, hvictim, hcan, hclash⟩ hfree

/-- An id that is free stays free when a session is installed under another. -/
lemma find_installSession_of_free {c : Crypto} {m : Messaging S X} {session : SecureSession}
    {now : Instant} {randomness : UInt32} {scratchLen outLen : ℕ} {id : SessionId}
    (hfree : m.sessions.find id = none) (hne : id ≠ session.localSessionId) :
    (m.installSession c session now randomness scratchLen outLen).2.sessions.find id = none := by
  rw [SessionTable.find_eq_none_iff] at hfree ⊢
  intro s hs hid
  have hids := (Keeps.installSession c m session now randomness scratchLen outLen).ids
    s.localSessionId (List.mem_map_of_mem hs)
  rcases hids with hold | hnew
  · obtain ⟨s', hs', hid'⟩ := List.mem_map.mp hold
    exact hfree s' hs' (hid'.trans hid)
  · exact hne (hid.symm.trans (List.mem_singleton.mp hnew))

end Messaging

namespace Sc

open Machine Tlv Commissioning

variable {N : ℕ} {K : Type}

/-! ## The ids a channel has offered -/

/-- The session id that a request is answered with.
Source: `Channel::pbkdf_param_request` and `Channel::sigma1`, `SessionId(ctx.rng.next_u32()? as u16 | 1)`. -/
def ChannelMessage.draws (m : ChannelMessage N) (id : SessionId) : Prop :=
  ∃ draw, m.rng.nextU32 0 = .ok draw ∧ id = ⟨draw.toUInt16 ||| 1⟩

namespace ChannelNode

/-- A PASE handshake is under way. -/
def paseAwaits (s : ChannelNode S X K) : Prop :=
  ∃ r, s.channel.pase = some r ∧ r.state ≠ .established

/-- A CASE handshake is under way. -/
def caseAwaits (s : ChannelNode S X K) : Prop :=
  ∃ r, s.channel.case = some r ∧ r.state ≠ .done

/-- An id that no session has. -/
def IsFree (s : ChannelNode S X K) (id : SessionId) : Prop := s.stack.sessions.find id = none

/-- The ids of the handshakes under way are free, and different. -/
structure IdsFree (s : ChannelNode S X K) : Prop where
  pase : s.paseAwaits → s.IsFree s.channel.paseLocal
  case : s.caseAwaits → s.IsFree s.channel.caseLocal
  distinct : s.paseAwaits → s.caseAwaits → s.channel.paseLocal ≠ s.channel.caseLocal

/-- A step on which no id is taken twice: the id drawn for a handshake is neither that of a live session
nor that of the other handshake, and what the rest of the node does to the sessions leaves the ids of
the handshakes under way free. -/
def Clear (s : ChannelNode S X K) : GateOp S X N K → Prop
  | .message m => ∀ id, m.draws id →
      (m.opcode = opcodePbkdfParamRequest →
        s.IsFree id ∧ (s.caseAwaits → id ≠ s.channel.caseLocal)) ∧
      (m.opcode = opcodeSigma1 → s.IsFree id ∧ (s.paseAwaits → id ≠ s.channel.paseLocal))
  | .outside _ _ stack =>
    (s.paseAwaits → stack.sessions.find s.channel.paseLocal = none) ∧
      (s.caseAwaits → stack.sessions.find s.channel.caseLocal = none)
  | _ => True

/-- A step on which no handshake meets a live id: the id that a PBKDFParamResponse or a Sigma2 offers,
and that its handshake goes on under, is free, and so is the id under which a Pake3 or a Sigma3 that
verifies is installed. -/
structure NoCollision (p : Primitives) (store : KeyStore K) (s : ChannelNode S X K)
    (op : GateOp S X N K) : Prop where
  pbkdf : ∀ reply octets, (s.step p store op).1 = some (.ok reply) →
    reply.reply = some (opcodePbkdfParamResponse, octets) →
    ∃ (response : PbkdfParamResponse) (out : Slice), written response.encode out = .ok octets ∧
      response.responderSessionId = (s.step p store op).2.channel.paseLocal ∧
      s.IsFree response.responderSessionId
  sigma2 : ∀ reply octets, (s.step p store op).1 = some (.ok reply) →
    reply.reply = some (opcodeSigma2, octets) →
    ∃ (sigma2 : Sigma2) (out : Slice), written sigma2.encode out = .ok octets ∧
      sigma2.responderSessionId = (s.step p store op).2.channel.caseLocal ∧
      s.IsFree sigma2.responderSessionId
  pake3 : ∀ m r result, op = .message m → m.opcode = opcodePake3 → s.channel.pase = some r →
    r.onPake3 m.body m.reply = .ok result → s.IsFree s.channel.paseLocal
  sigma3 : ∀ m r result, op = .message m → m.opcode = opcodeSigma3 → s.channel.case = some r →
    acceptedSigma3 p m r s.channel.caseFabric = .ok result → s.IsFree s.channel.caseLocal

/-! ## What a step does to the ids -/

section steps

variable {p : Primitives} {store : KeyStore K} {s s' : ChannelNode S X K} {m : ChannelMessage N}

/-- A handshake that was under way is, under the same id, or is not any more; and no id is taken. -/
structure Settles (s s' : ChannelNode S X K) : Prop where
  pase : s'.paseAwaits → s.paseAwaits ∧ s'.channel.paseLocal = s.channel.paseLocal
  case : s'.caseAwaits → s.caseAwaits ∧ s'.channel.caseLocal = s.channel.caseLocal
  free : ∀ id, s.IsFree id → s'.IsFree id

lemma Settles.refl (s : ChannelNode S X K) : s.Settles s :=
  ⟨fun h => ⟨h, rfl⟩, fun h => ⟨h, rfl⟩, fun _ h => h⟩

/-- A handshake is dropped, or the gate changes. -/
lemma Settles.of_slots (hpase : s'.channel.pase = none ∨ s'.channel.pase = s.channel.pase)
    (hcase : s'.channel.case = none ∨ s'.channel.case = s.channel.case)
    (hpaseLocal : s'.channel.paseLocal = s.channel.paseLocal)
    (hcaseLocal : s'.channel.caseLocal = s.channel.caseLocal)
    (hstack : s'.stack = s.stack) : s.Settles s' where
  pase := by
    rintro ⟨r, hr, hstate⟩
    rcases hpase with hnone | hsame
    · cases hnone.symm.trans hr
    · exact ⟨⟨r, hsame ▸ hr, hstate⟩, hpaseLocal⟩
  case := by
    rintro ⟨r, hr, hstate⟩
    rcases hcase with hnone | hsame
    · cases hnone.symm.trans hr
    · exact ⟨⟨r, hsame ▸ hr, hstate⟩, hcaseLocal⟩
  free := by
    intro id hid
    rw [IsFree, hstack]
    exact hid

lemma IdsFree.settles (h : s.IdsFree) (hs : s.Settles s') : s'.IdsFree where
  pase := by
    intro hawaits
    obtain ⟨hold, hlocal⟩ := hs.pase hawaits
    rw [hlocal]
    exact hs.free _ (h.pase hold)
  case := by
    intro hawaits
    obtain ⟨hold, hlocal⟩ := hs.case hawaits
    rw [hlocal]
    exact hs.free _ (h.case hold)
  distinct := by
    intro hpase hcase
    obtain ⟨holdPase, hpaseLocal⟩ := hs.pase hpase
    obtain ⟨holdCase, hcaseLocal⟩ := hs.case hcase
    rw [hpaseLocal, hcaseLocal]
    exact h.distinct holdPase holdCase

/-- An answer that offers no session id. -/
def NoOffer (result : Except ErrorCode ChannelReply) : Prop :=
  ∀ reply, result = .ok reply → ∀ answer ∈ reply.reply,
    answer.1 ≠ opcodePbkdfParamResponse ∧ answer.1 ≠ opcodeSigma2

lemma noOffer_error (e : ErrorCode) : NoOffer (.error e) := nofun

lemma noOffer_silent : NoOffer (.ok .silent) := by
  intro reply hreply answer hanswer
  obtain rfl := Except.ok.inj hreply
  cases hanswer

variable {reply : ChannelReply} {opcode : UInt8} {octets : List UInt8} {op : GateOp S X N K}

lemma noOffer_of_opcode (h : reply.reply = some (opcode, octets))
    (hpbkdf : opcode ≠ opcodePbkdfParamResponse) (hsigma2 : opcode ≠ opcodeSigma2) :
    NoOffer (.ok reply) := by
  intro reply' hreply answer hanswer
  obtain rfl := Except.ok.inj hreply
  rw [h] at hanswer
  obtain rfl := Option.some.inj hanswer
  exact ⟨hpbkdf, hsigma2⟩

/-- What a message can do to the ids. -/
inductive IdChange (s : ChannelNode S X K) (m : ChannelMessage N) (s' : ChannelNode S X K) :
    Except ErrorCode ChannelReply → Prop
  /-- The handshakes stay under way or are dropped. -/
  | settled {out : Except ErrorCode ChannelReply} (hsettles : s.Settles s') (hanswer : NoOffer out) :
      IdChange s m s' out
  /-- A PASE handshake begins under an id that was drawn and is offered. -/
  | paseOffered {id : SessionId} {octets : List UInt8} (response : PbkdfParamResponse) (out : Slice)
      (hm : m.opcode = opcodePbkdfParamRequest) (hdrawn : m.draws id)
      (hreply : written response.encode out = .ok octets) (hoffered : response.responderSessionId = id)
      (hlocal : s'.channel.paseLocal = id) (hcase : s'.channel.case = s.channel.case)
      (hcaseLocal : s'.channel.caseLocal = s.channel.caseLocal) (hstack : s'.stack = s.stack) :
      IdChange s m s' (.ok (.answer opcodePbkdfParamResponse octets))
  /-- A CASE handshake begins under an id that was drawn and is offered. -/
  | caseOffered {id : SessionId} {octets : List UInt8} (sigma2 : Sigma2) (out : Slice)
      (hm : m.opcode = opcodeSigma1) (hdrawn : m.draws id)
      (hreply : written sigma2.encode out = .ok octets) (hoffered : sigma2.responderSessionId = id)
      (hlocal : s'.channel.caseLocal = id) (hpase : s'.channel.pase = s.channel.pase)
      (hpaseLocal : s'.channel.paseLocal = s.channel.paseLocal) (hstack : s'.stack = s.stack) :
      IdChange s m s' (.ok (.answer opcodeSigma2 octets))
  /-- The PASE handshake is done, and its session may be installed. -/
  | paseDone {out : Except ErrorCode ChannelReply} (hanswer : NoOffer out) (hawaits : s.paseAwaits)
      (hdone : ¬ s'.paseAwaits) (hcase : s'.channel.case = s.channel.case)
      (hcaseLocal : s'.channel.caseLocal = s.channel.caseLocal)
      (hfree : ∀ id, s.IsFree id → id ≠ s.channel.paseLocal → s'.IsFree id) : IdChange s m s' out
  /-- The CASE handshake is done, and its session may be installed. -/
  | caseDone {out : Except ErrorCode ChannelReply} (hanswer : NoOffer out) (hawaits : s.caseAwaits)
      (hdone : ¬ s'.caseAwaits) (hpase : s'.channel.pase = s.channel.pase)
      (hpaseLocal : s'.channel.paseLocal = s.channel.paseLocal)
      (hfree : ∀ id, s.IsFree id → id ≠ s.channel.caseLocal → s'.IsFree id) : IdChange s m s' out

/-- A PBKDFParamRequest offers the id it has drawn, or none. -/
lemma pbkdfParamRequest_ids (p : Primitives) (s : ChannelNode S X K)
    (hm : m.opcode = opcodePbkdfParamRequest) :
    IdChange s m (pbkdfParamRequest p s m).2 (pbkdfParamRequest p s m).1 := by
  rw [pbkdfParamRequest]
  dsimp only
  split
  · rw [startPase]
    cases hdraws : newResponder p.spake s.window m with
    | error e => exact .settled (.of_slots (.inr rfl) (.inr rfl) rfl rfl rfl) (noOffer_error e)
    | ok found =>
      obtain ⟨responder, random⟩ := found
      dsimp only
      cases hanswer : responder.onPbkdfParamRequest m.body random m.reply with
      | error e => exact .settled (.of_slots (.inl rfl) (.inr rfl) rfl rfl rfl) (noOffer_error e)
      | ok answer =>
        obtain ⟨reply, responder'⟩ := answer
        obtain ⟨hlocal, response, hoffered, hreply⟩ :=
          PaseResponder.localSessionId_onPbkdfParamRequest hanswer
        have hdrawn : m.draws responder.localSessionId := by
          simp only [newResponder, bind_eq_ok, pure_eq_ok, Except.ok.injEq, Prod.mk.injEq] at hdraws
          obtain ⟨draw, hdraw, -, -, hresponder, -⟩ := hdraws
          exact ⟨draw, hdraw, by rw [← hresponder]⟩
        exact .paseOffered response m.reply hm hdrawn hreply hoffered hlocal rfl rfl rfl
  · split
    · exact .settled (.of_slots (.inr rfl) (.inr rfl) rfl rfl rfl)
        (noOffer_of_opcode rfl (by decide) (by decide))
    · exact .settled (.of_slots (.inr rfl) (.inr rfl) rfl rfl rfl) (noOffer_error _)

lemma pake1_ids (p : Primitives) (s : ChannelNode S X K) (m : ChannelMessage N) :
    IdChange s m (pake1 p s m).2 (pake1 p s m).1 := by
  rw [pake1]
  cases hpase : s.channel.pase with
  | none => exact .settled (.refl s) noOffer_silent
  | some responder =>
    dsimp only
    cases m.rng.fill 0 32 with
    | error e => exact .settled (.refl s) (noOffer_error e)
    | ok random =>
      dsimp only
      cases hanswer : responder.onPake1 p.spake m.body random m.reply with
      | error e => exact .settled (.of_slots (.inl rfl) (.inr rfl) rfl rfl rfl) (noOffer_error e)
      | ok answer =>
        obtain ⟨reply, responder'⟩ := answer
        have hawaits : s.paseAwaits := by
          refine ⟨responder, hpase, ?_⟩
          rw [(PaseResponder.onPake1_ok hanswer).1]
          decide
        exact .settled ⟨fun _ => ⟨hawaits, rfl⟩, fun h => ⟨h, rfl⟩, fun _ h => h⟩
          (noOffer_of_opcode rfl (by decide) (by decide))

/-- A Pake3 installs under the id of its handshake, or changes no id. -/
lemma pake3_ids (p : Primitives) (s : ChannelNode S X K) (m : ChannelMessage N) :
    IdChange s m (pake3 p s m).2 (pake3 p s m).1 := by
  rw [pake3]
  cases hpase : s.channel.pase with
  | none => exact .settled (.refl s) noOffer_silent
  | some responder =>
    dsimp only
    cases hanswer : responder.onPake3 m.body m.reply with
    | error e => exact .settled (.of_slots (.inl rfl) (.inr rfl) rfl rfl rfl) (noOffer_error e)
    | ok answer =>
      obtain ⟨reply, keys, responder'⟩ := answer
      obtain ⟨hstate, -, hnext⟩ := PaseResponder.onPake3_ok hanswer
      have hawaits : s.paseAwaits := by
        refine ⟨responder, hpase, ?_⟩
        rw [hstate]
        decide
      have hdone : responder'.state = .established := by rw [hnext]
      dsimp only
      rw [finishPase]
      cases sessionDraws m with
      | error e =>
        refine .paseDone (noOffer_error e) hawaits ?_ rfl rfl fun _ h _ => h
        rintro ⟨r, hr, hother⟩
        obtain rfl := Option.some.inj hr
        exact hother hdone
      | ok draws =>
        obtain ⟨counter, randomness⟩ := draws
        dsimp only
        generalize hinstalled : s.stack.installSession p.case.aead _ _ _ _ _ = installed
        have hfree : ∀ id, s.IsFree id → id ≠ s.channel.paseLocal →
            installed.2.sessions.find id = none := by
          intro id hid hne
          rw [← hinstalled]
          exact Messaging.find_installSession_of_free hid hne
        obtain ⟨e | evicted, stack⟩ := installed
        · refine .paseDone (noOffer_error e) hawaits ?_ rfl rfl hfree
          rintro ⟨r, hr, -⟩
          cases hr
        · refine .paseDone (noOffer_of_opcode rfl (by decide) (by decide)) hawaits ?_ rfl rfl hfree
          rintro ⟨r, hr, hother⟩
          obtain rfl := Option.some.inj hr
          exact hother hdone

/-- A Sigma1 offers the id it has drawn, or none. -/
lemma sigma1_ids (p : Primitives) (store : KeyStore K) (s : ChannelNode S X K)
    (hm : m.opcode = opcodeSigma1) : IdChange s m (sigma1 p store s m).2 (sigma1 p store s m).1 := by
  rw [sigma1]
  cases hdraws : sigma1Draws m with
  | error e => exact .settled (.refl s) (noOffer_error e)
  | ok draws =>
    obtain ⟨id, randomness⟩ := draws
    dsimp only
    split
    · rename_i responder index reply keys haccepted
      rw [acceptedSigma1] at haccepted
      simp only [exec_bind_eq_ok, exec_ofResult, Prod.mk.injEq] at haccepted
      obtain ⟨request, _, ⟨-, rfl⟩, haccept⟩ := haccepted
      obtain ⟨sigma2, hoffered, hreply⟩ := acceptSigma1_offers haccept
      have hdrawn : m.draws id := by
        simp only [sigma1Draws, bind_eq_ok, pure_eq_ok, Except.ok.injEq, Prod.mk.injEq] at hdraws
        obtain ⟨draw, hdraw, -, -, -, -, -, -, hid, -⟩ := hdraws
        exact ⟨draw, hdraw, hid.symm⟩
      exact .caseOffered sigma2 m.reply hm hdrawn hreply hoffered rfl rfl rfl rfl
    · cases (StatusReport.secureChannel .noSharedTrustRoots).encode m.reply.octets.length with
      | ok reply =>
        exact .settled (.of_slots (.inr rfl) (.inl rfl) rfl rfl rfl)
          (noOffer_of_opcode rfl (by decide) (by decide))
      | error e => exact .settled (.of_slots (.inr rfl) (.inl rfl) rfl rfl rfl) (noOffer_error e)

/-- A Sigma3 installs under the id of its handshake, or changes no id. -/
lemma sigma3_ids (p : Primitives) (s : ChannelNode S X K) (m : ChannelMessage N) :
    IdChange s m (sigma3 p s m).2 (sigma3 p s m).1 := by
  rw [sigma3]
  cases hcase : s.channel.case with
  | none => exact .settled (.refl s) noOffer_silent
  | some responder =>
    dsimp only
    cases hanswer : acceptedSigma3 p m responder s.channel.caseFabric with
    | error e => exact .settled (.of_slots (.inr rfl) (.inl rfl) rfl rfl rfl) (noOffer_error e)
    | ok answer =>
      obtain ⟨outcome, responder', reply⟩ := answer
      simp only [acceptedSigma3, bind_eq_ok] at hanswer
      obtain ⟨request, -, haccept⟩ := hanswer
      obtain ⟨_, _, -, -, hhandled⟩ := CaseResponder.acceptSigma3_ok haccept
      obtain ⟨pending, _, _, _, hstate, -, -, -, -, -, -, hdone⟩ :=
        CaseResponder.handleSigma3_ok hhandled
      have hawaits : s.caseAwaits := by
        refine ⟨responder, hcase, ?_⟩
        rw [hstate]
        rintro ⟨⟩
      dsimp only
      cases fabricOf m outcome with
      | none =>
        exact .settled (.of_slots (.inr rfl) (.inl rfl) rfl rfl rfl)
          (noOffer_of_opcode rfl (by decide) (by decide))
      | some fabric =>
        dsimp only
        rw [finishCase]
        cases sessionDraws m with
        | error e =>
          refine .caseDone (noOffer_error e) hawaits ?_ rfl rfl fun _ h _ => h
          rintro ⟨r, hr, hother⟩
          obtain rfl := Option.some.inj hr
          exact hother hdone
        | ok draws =>
          obtain ⟨counter, randomness⟩ := draws
          dsimp only
          generalize hinstalled : s.stack.installSession p.case.aead _ _ _ _ _ = installed
          have hfree : ∀ id, s.IsFree id → id ≠ s.channel.caseLocal →
              installed.2.sessions.find id = none := by
            intro id hid hne
            rw [← hinstalled]
            exact Messaging.find_installSession_of_free hid hne
          obtain ⟨e | evicted, stack⟩ := installed
          · refine .caseDone (noOffer_error e) hawaits ?_ rfl rfl hfree
            rintro ⟨r, hr, hother⟩
            obtain rfl := Option.some.inj hr
            exact hother hdone
          · refine .caseDone (noOffer_of_opcode rfl (by decide) (by decide)) hawaits ?_ rfl rfl hfree
            rintro ⟨r, hr, -⟩
            cases hr

/-- A message does one of these things. -/
lemma onMessage_ids (p : Primitives) (store : KeyStore K) (s : ChannelNode S X K)
    (m : ChannelMessage N) : IdChange s m (onMessage p store s m).2 (onMessage p store s m).1 := by
  rw [onMessage]
  by_cases hrequest : m.opcode = opcodePbkdfParamRequest
  · rw [if_pos hrequest]
    exact pbkdfParamRequest_ids p s hrequest
  rw [if_neg hrequest]
  by_cases hpake1 : m.opcode = opcodePake1
  · rw [if_pos hpake1]
    exact pake1_ids p s m
  rw [if_neg hpake1]
  by_cases hpake3 : m.opcode = opcodePake3
  · rw [if_pos hpake3]
    exact pake3_ids p s m
  rw [if_neg hpake3]
  by_cases hsigma1 : m.opcode = opcodeSigma1
  · rw [if_pos hsigma1]
    exact sigma1_ids p store s hsigma1
  rw [if_neg hsigma1]
  by_cases hsigma3 : m.opcode = opcodeSigma3
  · rw [if_pos hsigma3]
    exact sigma3_ids p s m
  · rw [if_neg hsigma3]
    exact .settled (.refl s) noOffer_silent

/-- A message on which no id is taken twice keeps the ids free. -/
lemma IdsFree.message (h : s.IdsFree) {out : Except ErrorCode ChannelReply}
    (hclear : s.Clear (.message m)) (hchange : IdChange s m s' out) : s'.IdsFree := by
  cases hchange with
  | settled hsettles hanswer => exact h.settles hsettles
  | paseOffered response out hm hdrawn hreply hoffered hlocal hcase hcaseLocal hstack =>
    obtain ⟨hfree, hother⟩ := (hclear _ hdrawn).1 hm
    have hawaits : s'.caseAwaits → s.caseAwaits := by
      rintro ⟨r, hr, hstate⟩
      exact ⟨r, hcase ▸ hr, hstate⟩
    refine ⟨fun _ => ?_, fun hcase => ?_, fun _ hcase => ?_⟩
    · rw [IsFree, hlocal, hstack]
      exact hfree
    · rw [IsFree, hcaseLocal, hstack]
      exact h.case (hawaits hcase)
    · rw [hlocal, hcaseLocal]
      exact hother (hawaits hcase)
  | caseOffered sigma2 out hm hdrawn hreply hoffered hlocal hpase hpaseLocal hstack =>
    obtain ⟨hfree, hother⟩ := (hclear _ hdrawn).2 hm
    have hawaits : s'.paseAwaits → s.paseAwaits := by
      rintro ⟨r, hr, hstate⟩
      exact ⟨r, hpase ▸ hr, hstate⟩
    refine ⟨fun hpase => ?_, fun _ => ?_, fun hpase _ => ?_⟩
    · rw [IsFree, hpaseLocal, hstack]
      exact h.pase (hawaits hpase)
    · rw [IsFree, hlocal, hstack]
      exact hfree
    · rw [hlocal, hpaseLocal]
      exact (hother (hawaits hpase)).symm
  | paseDone hanswer hawaits hdone hcase hcaseLocal hfree =>
    refine ⟨fun hpase => absurd hpase hdone, ?_, fun hpase => absurd hpase hdone⟩
    rintro ⟨r, hr, hstate⟩
    have hother : s.caseAwaits := ⟨r, hcase ▸ hr, hstate⟩
    rw [hcaseLocal]
    exact hfree _ (h.case hother) (h.distinct hawaits hother).symm
  | caseDone hanswer hawaits hdone hpase hpaseLocal hfree =>
    refine ⟨?_, fun hcase => absurd hcase hdone, fun _ hcase => absurd hcase hdone⟩
    rintro ⟨r, hr, hstate⟩
    have hother : s.paseAwaits := ⟨r, hpase ▸ hr, hstate⟩
    rw [hpaseLocal]
    exact hfree _ (h.pase hother) (h.distinct hother hawaits)

lemma IdsFree.step (h : s.IdsFree) {op : GateOp S X N K} (hclear : s.Clear op) :
    (s.step p store op).2.IdsFree := by
  cases op with
  | message m => exact h.message hclear (onMessage_ids p store s m)
  | poll now =>
    refine h.settles ?_
    simp only [ChannelNode.step, ChannelNode.poll]
    split
    · exact .of_slots (.inl rfl) (.inr rfl) rfl rfl rfl
    · exact .refl s
  | closed session =>
    refine h.settles ?_
    simp only [ChannelNode.step, ChannelNode.closed]
    split_ifs
    · exact .of_slots (.inl rfl) (.inr rfl) rfl rfl rfl
    · exact .refl s
  | release => exact h.settles (.of_slots (.inl rfl) (.inr rfl) rfl rfl rfl)
  | reopen => exact h.settles (.of_slots (.inr rfl) (.inr rfl) rfl rfl rfl)
  | outside window keys stack => exact ⟨hclear.1, hclear.2, h.distinct⟩

/-- An answer that offers an id offers one that was drawn and is free. -/
lemma offers_of_clear (hclear : s.Clear op) (hanswer : (s.step p store op).1 = some (.ok reply))
    (hreply : reply.reply = some (opcode, octets)) :
    (opcode = opcodePbkdfParamResponse → ∃ (response : PbkdfParamResponse) (out : Slice),
      written response.encode out = .ok octets ∧
      response.responderSessionId = (s.step p store op).2.channel.paseLocal ∧
      s.IsFree response.responderSessionId) ∧ (opcode = opcodeSigma2 → ∃ (sigma2 : Sigma2) (out : Slice),
      written sigma2.encode out = .ok octets ∧
      sigma2.responderSessionId = (s.step p store op).2.channel.caseLocal ∧
      s.IsFree sigma2.responderSessionId) := by
  cases op with
  | message m =>
    have hchange := onMessage_ids p store s m
    rw [show (onMessage p store s m).1 = .ok reply from Option.some.inj hanswer] at hchange
    have hnone (h : NoOffer (.ok reply)) := h reply rfl (opcode, octets) hreply
    generalize hresult : (Except.ok reply : Except ErrorCode ChannelReply) = result at hchange hnone
    cases hchange with
    | settled hsettles hoffer =>
      exact ⟨fun hpbkdf => absurd hpbkdf (hnone hoffer).1, fun hsigma2 => absurd hsigma2 (hnone hoffer).2⟩
    | paseOffered response out hm hdrawn hencoded hoffered hlocal hcase hcaseLocal hstack =>
      obtain rfl := Except.ok.inj hresult
      obtain ⟨rfl, rfl⟩ := Prod.mk.inj (Option.some.inj hreply)
      refine ⟨fun _ => ⟨response, out, hencoded, hoffered.trans hlocal.symm, ?_⟩,
        fun h => absurd h (by decide)⟩
      rw [hoffered]
      exact ((hclear _ hdrawn).1 hm).1
    | caseOffered sigma2 out hm hdrawn hencoded hoffered hlocal hpase hpaseLocal hstack =>
      obtain rfl := Except.ok.inj hresult
      obtain ⟨rfl, rfl⟩ := Prod.mk.inj (Option.some.inj hreply)
      refine ⟨fun h => absurd h (by decide),
        fun _ => ⟨sigma2, out, hencoded, hoffered.trans hlocal.symm, ?_⟩⟩
      rw [hoffered]
      exact ((hclear _ hdrawn).2 hm).1
    | paseDone hoffer | caseDone hoffer =>
      exact ⟨fun hpbkdf => absurd hpbkdf (hnone hoffer).1, fun hsigma2 => absurd hsigma2 (hnone hoffer).2⟩
  | _ => cases hanswer

/-- A step on which no id is taken twice is one on which no handshake meets a live id. -/
lemma IdsFree.noCollision (h : s.IdsFree) (hclear : s.Clear op) : NoCollision p store s op where
  pbkdf reply octets hanswer hreply := (offers_of_clear hclear hanswer hreply).1 rfl
  sigma2 reply octets hanswer hreply := (offers_of_clear hclear hanswer hreply).2 rfl
  pake3 := by
    intro m r result _ _ hpase hverified
    obtain ⟨reply, keys, r'⟩ := result
    refine h.pase ⟨r, hpase, ?_⟩
    rw [(PaseResponder.onPake3_ok hverified).1]
    decide
  sigma3 := by
    intro m r result _ _ hcase hverified
    obtain ⟨outcome, r', reply⟩ := result
    simp only [acceptedSigma3, bind_eq_ok] at hverified
    obtain ⟨request, -, haccept⟩ := hverified
    obtain ⟨_, _, -, -, hhandled⟩ := CaseResponder.acceptSigma3_ok haccept
    obtain ⟨pending, _, _, _, hstate, -⟩ := CaseResponder.handleSigma3_ok hhandled
    refine h.case ⟨r, hcase, ?_⟩
    rw [hstate]
    rintro ⟨⟩

end steps

/-- **A failed installation and a drawn id.** An installation that fails leaves every session and every
exchange where it was if and only if it does not clash. And along every run of a channel whose steps are
all clear, every id that is offered is free, and every Pake3 or Sigma3 that verifies finds its id free.
-/
theorem installed_unless_clash (p : Primitives) (store : KeyStore K) :
    (∀ (c : Crypto) (m : Messaging S X), Reachable c m → ∀ (session : SecureSession) (now : Instant)
      (randomness : UInt32) (scratchLen outLen : ℕ),
      (∀ e m', m.installSession c session now randomness scratchLen outLen = (.error e, m') →
        m.StillHas m') ↔ ¬ m.Clashes session) ∧
    ∀ (start : ChannelNode S X K) (ops : List (GateOp S X N K)),
      Throughout (fun s op => (s.step p store op).2) Clear { start with channel := {} } ops →
        Throughout (fun s op => (s.step p store op).2) (NoCollision p store)
          { start with channel := {} } ops := by
  constructor
  · intro c m hr session now randomness scratchLen outLen
    exact Messaging.stillHas_iff hr.consistent.sessions_unique session now randomness scratchLen outLen
  · intro start ops hclear
    have hstart : IdsFree { start with channel := {} } := by
      constructor
      · rintro ⟨r, hr, -⟩
        cases hr
      · rintro ⟨r, hr, -⟩
        cases hr
      · rintro ⟨r, hr, -⟩
        cases hr
    exact hclear.mono (I := IdsFree) (fun s op hs hop => hs.noCollision hop)
      (fun s op hs hop => hs.step hop) hstart

/-! ## A session id on concrete values -/

/-- A Sigma2 that offers a live id. -/
lemma not_noCollision {p : Primitives} {store : KeyStore K} {s : ChannelNode S X K}
    {m : ChannelMessage N} {id : SessionId}
    (hopcode : ((s.onMessage p store m).1.toOption.bind ChannelReply.reply).map Prod.fst =
      some opcodeSigma2) (hlocal : (s.onMessage p store m).2.channel.caseLocal = id)
    (hlive : s.stack.sessions.find id ≠ none) : ¬ NoCollision p store s (.message m) := by
  intro hfree
  obtain ⟨answer, hanswer, hfirst⟩ := Option.map_eq_some_iff.mp hopcode
  obtain ⟨reply, hreply, hsome⟩ := Option.bind_eq_some_iff.mp hanswer
  have hok : (s.step p store (.message m)).1 = some (.ok reply) := by
    rw [step]
    cases hresult : (s.onMessage p store m).1 with
    | error e =>
      rw [hresult] at hreply
      cases hreply
    | ok found =>
      rw [hresult] at hreply
      exact congrArg (fun r => some (Except.ok r)) (Option.some.inj hreply)
  obtain ⟨sigma2, out, -, hoffered, hisFree⟩ := hfree.sigma2 reply answer.2 hok (by rw [hsome, ← hfirst])
  rw [hoffered] at hisFree
  exact hlive (hlocal ▸ hisFree)

/-- What an answer failed with. -/
def failureOf : Except ErrorCode ChannelReply → Option ErrorCode
  | .error e => some e
  | .ok _ => none

/-- The node after some messages of CASE. -/
def afterCase (messages : List (ChannelMessage 5)) : ChannelNode 2 2 Unit :=
  (messages.map fun m => GateOp.message m).foldl
    (fun s op => (s.step Sample.casePrimitives Sample.allKeys op).2) Sample.start

/-- A full table with the sessions 1 and 2. -/
def fullStack : Messaging 2 2 :=
  [Call.installSession (sampleSession 1) ⟨0⟩ 0 64 64,
    Call.installSession (sampleSession 2) ⟨0⟩ 0 64 64].foldl (Messaging.after .tagByKey)
    (.new 1 1 0)

lemma reachable_fullStack : Reachable .tagByKey fullStack := by
  apply (Reachable.new 1 1 0).calls
  intro call hcall m
  rcases List.mem_cons.mp hcall with rfl | hcall
  · trivial
  · rw [List.mem_singleton.mp hcall]
    trivial

/-- A handshake under an id that no session has is clear, and meets none. -/
theorem free_id_is_installed :
    Throughout (fun s op => (s.step Sample.casePrimitives Sample.allKeys op).2) Clear
        { Sample.start with channel := {} }
        [GateOp.message (Sample.sigma1 0), .message (Sample.sigma3 0x15)] ∧
      Throughout (fun s op => (s.step Sample.casePrimitives Sample.allKeys op).2)
        (NoCollision Sample.casePrimitives Sample.allKeys) { Sample.start with channel := {} }
        [GateOp.message (Sample.sigma1 0), .message (Sample.sigma3 0x15)] := by
  have hclear : Throughout (fun s op => (s.step Sample.casePrimitives Sample.allKeys op).2) Clear
      { Sample.start with channel := {} }
      [GateOp.message (Sample.sigma1 0), .message (Sample.sigma3 0x15)] := by
    refine ⟨?_, ?_, trivial⟩
    · rintro id ⟨draw, hdraw, rfl⟩
      obtain rfl := Except.ok.inj hdraw
      refine ⟨fun h => absurd h (by decide), fun _ => ⟨rfl, ?_⟩⟩
      rintro ⟨r, hr, -⟩
      cases hr
    · intro id _
      exact ⟨fun h => absurd h (by decide), fun h => absurd h (by decide)⟩
  exact ⟨hclear, (installed_unless_clash Sample.casePrimitives Sample.allKeys).2 Sample.start _ hclear⟩

/-- Installing a second session 2 into a full table fails, and session 1 is gone. And after a handshake
has installed session 9, the next Sigma2 offers 9 again, and its Sigma3 verifies and is lost. -/
theorem drawn_id_is_taken : (Reachable .tagByKey fullStack ∧
      (fullStack.installSession .tagByKey (sampleSession 2) ⟨1⟩ 0 64 64).1 = .error .invalidState ∧
      ¬ fullStack.StillHas (fullStack.installSession .tagByKey (sampleSession 2) ⟨1⟩ 0 64 64).2) ∧
    ¬ NoCollision Sample.casePrimitives Sample.allKeys
        (afterCase [Sample.sigma1 0, Sample.sigma3 0x15]) (.message (Sample.sigma1 0)) ∧
    failureOf ((afterCase [Sample.sigma1 0, Sample.sigma3 0x15, Sample.sigma1 0]).onMessage
      Sample.casePrimitives Sample.allKeys (Sample.sigma3 0x15)).1 = some .invalidState := by
  have hinstall : (fullStack.installSession .tagByKey (sampleSession 2) ⟨1⟩ 0 64 64).1 =
        .error .invalidState ∧
      sampleSession 1 ∈ fullStack.sessions.entries ∧
      sampleSession 1 ∉ (fullStack.installSession .tagByKey (sampleSession 2)
        ⟨1⟩ 0 64 64).2.sessions.entries := by decide +kernel
  -- the state with session 9, what a Sigma1 is answered there, and the id it is answered under
  have hoffer : (((afterCase [Sample.sigma1 0, Sample.sigma3 0x15]).onMessage Sample.casePrimitives
        Sample.allKeys (Sample.sigma1 0)).1.toOption.bind ChannelReply.reply).map Prod.fst =
          some opcodeSigma2 ∧
      ((afterCase [Sample.sigma1 0, Sample.sigma3 0x15]).onMessage Sample.casePrimitives
        Sample.allKeys (Sample.sigma1 0)).2.channel.caseLocal = ⟨9⟩ ∧
      (afterCase [Sample.sigma1 0, Sample.sigma3 0x15]).stack.sessions.find ⟨9⟩ ≠ none := by
    decide +kernel
  have hlost : failureOf ((afterCase [Sample.sigma1 0, Sample.sigma3 0x15, Sample.sigma1 0]).onMessage
      Sample.casePrimitives Sample.allKeys (Sample.sigma3 0x15)).1 = some .invalidState := by
    decide +kernel
  refine ⟨⟨reachable_fullStack, hinstall.1, fun hstill => ?_⟩, ?_, hlost⟩
  · exact hinstall.2.2 (hstill.1 _ hinstall.2.1)
  · exact not_noCollision hoffer.1 hoffer.2.1 hoffer.2.2

end ChannelNode

end Sc

end MatterKit
