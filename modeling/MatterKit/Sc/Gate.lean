import MatterKit.Lib.Runs
import MatterKit.Sc.Channel

/-!
# Runs of the secure channel: the gate on PASE

What a channel lets happen over PASE, whatever messages reach it and whatever its owner calls. A run is
a list of `GateOp`s from a new channel, and a `GateHistory` reads the calls and their answers.

One inversion carries every proof: `PaseChange` lists what a step can do to the parts of the channel
that PASE works on.

Two laws are stated here, and neither holds in every run. `commissioned_needs_window`: a commissioned
node runs PASE only while a window is open, which fails because the gate is asked with `true` in place
of the node's state. `one_session_at_a_time`: a session holds the channel until it is closed, which
fails because a finished responder stays in its slot, where a stray message makes it fail. Each is
proved for the runs whose steps stay clear of the slip.
-/

namespace MatterKit.Sc

open Lib Machine Tlv Commissioning

variable {S X N : ℕ} {K : Type}

/-! ## Operations -/

/-- One thing that happens to a channel: a call of its owner, or a change of what is around it by the
rest of the node. -/
inductive GateOp (S X N : ℕ) (K : Type)
  | message (m : ChannelMessage N)
  | poll (now : Instant)
  | closed (session : SessionId)
  | release
  | reopen
  | outside (window : CommissioningWindow) (keys : K) (stack : Messaging S X)

/-- The PBKDFParamRequest an operation is, if it is one. -/
def GateOp.request : GateOp S X N K → Option (ChannelMessage N)
  | .message m => if m.opcode = opcodePbkdfParamRequest then some m else none
  | _ => none

namespace ChannelNode

/-- The answer of an operation, if it has one, and the node after it. -/
def step (p : Primitives) (store : KeyStore K) (s : ChannelNode S X K) :
    GateOp S X N K → Option (Except ErrorCode ChannelReply) × ChannelNode S X K
  | .message m => (some (onMessage p store s m).1, (onMessage p store s m).2)
  | .poll now => (none, s.poll now)
  | .closed session => (none, s.closed session)
  | .release => (none, s.release)
  | .reopen => (none, s.reopen)
  | .outside window keys stack => (none, { s with window := window, keys := keys, stack := stack })

end ChannelNode

/-- Whether an answer is a PBKDFParamResponse. -/
def answersRequest : Option (Except ErrorCode ChannelReply) → Bool
  | some (.ok r) => r.reply.any fun reply => decide (reply.1 = opcodePbkdfParamResponse)
  | _ => false

/-- The PASE session an answer announces. -/
def paseOf : Option (Except ErrorCode ChannelReply) → Option Established
  | some (.ok r) => r.established.filter fun e => decide (e.kind = .paseSession)
  | _ => none

/-! ## What a step does to PASE -/

/-- The parts of a node that PASE works on. -/
structure PaseView where
  admission : PaseAdmission
  pase : Option PaseResponder
  paseLocal : SessionId
  window : CommissioningWindow

/-- What PASE sees of a node. -/
def ChannelNode.view (s : ChannelNode S X K) : PaseView :=
  ⟨s.channel.admission, s.channel.pase, s.channel.paseLocal, s.window⟩

namespace PaseView

variable (v : PaseView)

/-- After a request has been let in. -/
def admitted (now : Instant) : PaseView :=
  { v with
    admission :=
      { (v.admission.expire now).2 with
        channel := .establishing (now.saturatingAdd paseEstablishmentTimeout) } }

/-- After a failed attempt. -/
def fail : PaseView :=
  { v with
    admission := v.admission.failed
    pase := none
    window := if v.admission.failed.isExhausted then v.window.close else v.window }

/-- Whether a responder in the middle of a handshake is in the slot. -/
def isLive : Bool := v.pase.any fun r => decide (r.state ≠ .established)

end PaseView

/-- The answer to a request that the gate has refused. -/
def refusal (a : PaseAdmission) (m : ChannelMessage N) : Except ErrorCode ChannelReply := do
  let code := if a.isExhausted then SecureChannelCode.invalidParameter else .busy
  let reply ← (StatusReport.secureChannel code).encode m.reply.octets.length
  pure (.answer opcodeStatusReport reply)

/-- Whether an operation is none of those that change what PASE sees by themselves. -/
def GateOp.isIdle (v : PaseView) : GateOp S X N K → Bool
  | .message m => decide (m.opcode ≠ opcodePbkdfParamRequest)
  | .poll now => !v.admission.hasLapsed now
  | .closed session => decide (session ≠ v.paseLocal)
  | _ => false

/-- What a step can do to PASE: the operation, its answer and the view after it. -/
inductive PaseChange (p : Primitives) (v : PaseView) :
    GateOp S X N K → Option (Except ErrorCode ChannelReply) → PaseView → Prop
  /-- Nothing of PASE is touched. -/
  | kept {op : GateOp S X N K} {out : Option (Except ErrorCode ChannelReply)}
      (hop : op.isIdle v = true) (hanswer : answersRequest out = false) (hsession : paseOf out = none) :
      PaseChange p v op out v
  /-- The rest of the node has changed the window. -/
  | outside {window : CommissioningWindow} {keys : K} {stack : Messaging S X} :
      PaseChange p v (.outside window keys stack) none { v with window := window }
  /-- The gate refuses a request, having given up a handshake that has lapsed. -/
  | refused {m : ChannelMessage N} (hm : m.opcode = opcodePbkdfParamRequest)
      (hgate : v.admission.admits m.now = false) :
      PaseChange p v (.message m) (some (refusal (v.admission.expire m.now).2 m))
        { v with admission := (v.admission.expire m.now).2 }
  /-- A request is let in and the random draws for its answer fail. -/
  | stalled {m : ChannelMessage N} {e : ErrorCode} (hm : m.opcode = opcodePbkdfParamRequest)
      (hgate : v.admission.admits m.now = true)
      (hdraws : ChannelNode.newResponder p.spake v.window m = .error e) :
      PaseChange p v (.message m) (some (.error e)) (v.admitted m.now)
  /-- A request is let in and its responder does not take it. -/
  | malformed {m : ChannelMessage N} {e : ErrorCode} {r : PaseResponder} {random : List UInt8}
      (hm : m.opcode = opcodePbkdfParamRequest) (hgate : v.admission.admits m.now = true)
      (hdraws : ChannelNode.newResponder p.spake v.window m = .ok (r, random)) :
      PaseChange p v (.message m) (some (.error e)) (v.admitted m.now).fail
  /-- A request is let in and answered. -/
  | begun {m : ChannelMessage N} {r r' : PaseResponder} {random reply : List UInt8}
      (hm : m.opcode = opcodePbkdfParamRequest) (hgate : v.admission.admits m.now = true)
      (hdraws : ChannelNode.newResponder p.spake v.window m = .ok (r, random))
      (hresponder : r.onPbkdfParamRequest m.body random m.reply = .ok (reply, r')) :
      PaseChange p v (.message m) (some (.ok (.answer opcodePbkdfParamResponse reply)))
        { v.admitted m.now with pase := some r', paseLocal := r'.localSessionId }
  /-- A Pake1 is taken. -/
  | proved {m : ChannelMessage N} {r r' : PaseResponder} {scalar reply : List UInt8}
      (hm : m.opcode = opcodePake1) (hpase : v.pase = some r)
      (hresponder : r.onPake1 p.spake m.body scalar m.reply = .ok (reply, r')) :
      PaseChange p v (.message m) (some (.ok (.answer opcodePake2 reply))) { v with pase := some r' }
  /-- A Pake1 or a Pake3 ends the attempt, or there is no room for its session. -/
  | rejected {m : ChannelMessage N} {e : ErrorCode} {r : PaseResponder}
      (hm : m.opcode = opcodePake1 ∧ (∃ scalar, m.rng.fill 0 32 = .ok scalar) ∨
        m.opcode = opcodePake3)
      (hpase : v.pase = some r) :
      PaseChange p v (.message m) (some (.error e)) v.fail
  /-- A Pake3 is taken and the random draws for its session fail. -/
  | undrawn {m : ChannelMessage N} {e : ErrorCode} {r r' : PaseResponder} {reply : List UInt8}
      {keys : EstablishedKeys} (hm : m.opcode = opcodePake3) (hpase : v.pase = some r)
      (hresponder : r.onPake3 m.body m.reply = .ok (reply, keys, r')) :
      PaseChange p v (.message m) (some (.error e)) { v with pase := some r' }
  /-- A Pake3 is taken and its session is installed. -/
  | established {m : ChannelMessage N} {r r' : PaseResponder} {reply : List UInt8}
      {keys : EstablishedKeys} {answer : ChannelReply} (hm : m.opcode = opcodePake3)
      (hpase : v.pase = some r) (hresponder : r.onPake3 m.body m.reply = .ok (reply, keys, r'))
      (hanswer : answersRequest (some (.ok answer)) = false)
      (hsession : paseOf (some (.ok answer)) =
        some ⟨v.paseLocal, .paseSession, .none, some keys.attestationChallenge⟩) :
      PaseChange p v (.message m) (some (.ok answer))
        { v with pase := some r', admission := v.admission.established }
  /-- The owner's poll gives up a handshake that has lapsed. -/
  | lapsed {now : Instant} (h : v.admission.hasLapsed now = true) :
      PaseChange p v (.poll now) none v.fail
  /-- The session that holds the channel is closed. -/
  | closed {session : SessionId} (h : session = v.paseLocal) :
      PaseChange p v (.closed session) none
        { v with admission := v.admission.closed, pase := none }
  | released :
      PaseChange p v .release none { v with admission := v.admission.closed, pase := none }
  | reopened : PaseChange p v .reopen none { v with admission := v.admission.reset }

namespace ChannelNode

variable {p : Primitives} {store : KeyStore K} {s : ChannelNode S X K} {m : ChannelMessage N}

lemma paseChange_pbkdfParamRequest (hm : m.opcode = opcodePbkdfParamRequest) :
    PaseChange (S := S) (X := X) (K := K) p s.view (.message m)
      (some (pbkdfParamRequest p s m).1) (pbkdfParamRequest p s m).2.view := by
  cases hgate : s.channel.admission.admits m.now with
  | false =>
    have hstep : pbkdfParamRequest p s m =
        (refusal (s.channel.admission.expire m.now).2 m,
          { s with
            channel := { s.channel with admission := (s.channel.admission.expire m.now).2 } }) := by
      rw [pbkdfParamRequest, PaseAdmission.admitRequest_of_not_admits hgate, refusal]
      cases (s.channel.admission.expire m.now).2.isExhausted with
      | true =>
        cases hencode : (StatusReport.secureChannel .invalidParameter).encode
          m.reply.octets.length <;> simp [hencode]
      | false =>
        cases hencode : (StatusReport.secureChannel .busy).encode
          m.reply.octets.length <;> simp [hencode]
    rw [hstep]
    exact .refused hm hgate
  | true =>
    rw [pbkdfParamRequest, PaseAdmission.admitRequest_of_admits hgate]
    dsimp only
    rw [startPase]
    cases hdraws : newResponder p.spake s.window m with
    | error e => exact .stalled hm hgate hdraws
    | ok drawn =>
      obtain ⟨r, random⟩ := drawn
      dsimp only
      cases hresponder : r.onPbkdfParamRequest m.body random m.reply with
      | error e => exact .malformed hm hgate hdraws
      | ok answer => exact .begun hm hgate hdraws hresponder

lemma paseChange_pake1 (hm : m.opcode = opcodePake1) :
    PaseChange (S := S) (X := X) (K := K) p s.view (.message m) (some (pake1 p s m).1)
      (pake1 p s m).2.view := by
  have hop : (GateOp.message (S := S) (X := X) (K := K) m).isIdle s.view = true := by
    rw [GateOp.isIdle, hm]
    rfl
  rw [pake1]
  cases hpase : s.channel.pase with
  | none => exact .kept hop rfl rfl
  | some r =>
    dsimp only
    cases hdraw : m.rng.fill 0 32 with
    | error e => exact .kept hop rfl rfl
    | ok scalar =>
      dsimp only
      cases hresponder : r.onPake1 p.spake m.body scalar m.reply with
      | error e => exact .rejected (.inl ⟨hm, scalar, hdraw⟩) hpase
      | ok answer => exact .proved hm hpase hresponder

lemma paseChange_pake3 (hm : m.opcode = opcodePake3) :
    PaseChange (S := S) (X := X) (K := K) p s.view (.message m) (some (pake3 p s m).1)
      (pake3 p s m).2.view := by
  have hop : (GateOp.message (S := S) (X := X) (K := K) m).isIdle s.view = true := by
    rw [GateOp.isIdle, hm]
    rfl
  rw [pake3]
  cases hpase : s.channel.pase with
  | none => exact .kept hop rfl rfl
  | some r =>
    dsimp only
    cases hresponder : r.onPake3 m.body m.reply with
    | error e => exact .rejected (.inr hm) hpase
    | ok answer =>
      obtain ⟨reply, keys, r'⟩ := answer
      dsimp only
      rw [finishPase]
      cases hdraws : sessionDraws m with
      | error e => exact .undrawn hm hpase hresponder
      | ok draws =>
        obtain ⟨counter, randomness⟩ := draws
        dsimp only
        split
        · exact .rejected (.inr hm) hpase
        · exact .established hm hpase hresponder rfl rfl

/-- The messages of CASE do not touch PASE. -/
lemma view_sigma1 (p : Primitives) (store : KeyStore K) (s : ChannelNode S X K)
    (m : ChannelMessage N) : (sigma1 p store s m).2.view = s.view ∧
    answersRequest (some (sigma1 p store s m).1) = false ∧ paseOf (some (sigma1 p store s m).1) = none := by
  rw [sigma1]
  cases sigma1Draws m with
  | error e => exact ⟨rfl, rfl, rfl⟩
  | ok draws =>
    obtain ⟨sessionId, randomness⟩ := draws
    dsimp only
    split
    · exact ⟨rfl, rfl, rfl⟩
    · cases (StatusReport.secureChannel .noSharedTrustRoots).encode m.reply.octets.length with
      | ok reply => exact ⟨rfl, rfl, rfl⟩
      | error e => exact ⟨rfl, rfl, rfl⟩

lemma view_sigma3 (p : Primitives) (s : ChannelNode S X K) (m : ChannelMessage N) :
    (sigma3 p s m).2.view = s.view ∧
    answersRequest (some (sigma3 p s m).1) = false ∧ paseOf (some (sigma3 p s m).1) = none := by
  rw [sigma3]
  cases s.channel.case with
  | none => exact ⟨rfl, rfl, rfl⟩
  | some responder =>
    dsimp only
    split
    · exact ⟨rfl, rfl, rfl⟩
    · split
      · exact ⟨rfl, rfl, rfl⟩
      · rw [finishCase]
        cases sessionDraws m with
        | error e => exact ⟨rfl, rfl, rfl⟩
        | ok draws =>
          dsimp only
          split <;> exact ⟨rfl, rfl, rfl⟩

lemma paseChange_onMessage (s : ChannelNode S X K) (m : ChannelMessage N) :
    PaseChange (S := S) (X := X) (K := K) p s.view (.message m) (some (onMessage p store s m).1)
      (onMessage p store s m).2.view := by
  rw [onMessage]
  by_cases hrequest : m.opcode = opcodePbkdfParamRequest
  · rw [if_pos hrequest]
    exact paseChange_pbkdfParamRequest hrequest
  have hop : (GateOp.message (S := S) (X := X) (K := K) m).isIdle s.view = true :=
    decide_eq_true hrequest
  rw [if_neg hrequest]
  by_cases hpake1 : m.opcode = opcodePake1
  · rw [if_pos hpake1]
    exact paseChange_pake1 hpake1
  rw [if_neg hpake1]
  by_cases hpake3 : m.opcode = opcodePake3
  · rw [if_pos hpake3]
    exact paseChange_pake3 hpake3
  rw [if_neg hpake3]
  by_cases hsigma1 : m.opcode = opcodeSigma1
  · rw [if_pos hsigma1]
    obtain ⟨hview, hanswer, hsession⟩ := view_sigma1 p store s m
    rw [hview]
    exact .kept hop hanswer hsession
  rw [if_neg hsigma1]
  by_cases hsigma3 : m.opcode = opcodeSigma3
  · rw [if_pos hsigma3]
    obtain ⟨hview, hanswer, hsession⟩ := view_sigma3 p s m
    rw [hview]
    exact .kept hop hanswer hsession
  · rw [if_neg hsigma3]
    exact .kept hop rfl rfl

/-- Every step does one of the things listed to PASE. -/
lemma paseChange_step (p : Primitives) (store : KeyStore K) (s : ChannelNode S X K) (op : GateOp S X N K) :
    PaseChange p s.view op (step p store s op).1 (step p store s op).2.view := by
  cases op with
  | message m => exact paseChange_onMessage s m
  | poll now =>
    rw [step, poll, PaseAdmission.poll]
    cases hlapsed : s.channel.admission.hasLapsed now with
    | true =>
      rw [PaseAdmission.expire_of_lapsed hlapsed]
      exact .lapsed hlapsed
    | false =>
      rw [PaseAdmission.expire_of_not_lapsed hlapsed]
      exact .kept (by simp [GateOp.isIdle, view, hlapsed]) rfl rfl
  | closed session =>
    rw [step, closed]
    by_cases hsession : session = s.channel.paseLocal
    · rw [if_pos hsession]
      exact .closed hsession
    · rw [if_neg hsession]
      exact .kept (decide_eq_true hsession) rfl rfl
  | release => exact .released
  | reopen => exact .reopened
  | outside window keys stack => exact .outside

end ChannelNode

/-! ## The history of a run -/

/-- A request that was answered with a PBKDFParamResponse, and the window it found. -/
structure PaseRequest (N : ℕ) where
  message : ChannelMessage N
  window : CommissioningWindow

/-- A PASE session that was established: the request of its handshake, what its responder ran against,
and when it was established. -/
structure PaseSession (N : ℕ) where
  request : Option (PaseRequest N)
  config : Option ResponderConfig
  time : Instant

/-- A node with what has been seen of its PASE: the requests answered and the sessions established, the
latest first, the session that holds the channel, the attempts lost since the last session or `reopen`,
and whether a window has been put up since the last of them. -/
structure GateHistory (S X N : ℕ) (K : Type) where
  node : ChannelNode S X K
  answered : List (PaseRequest N) := []
  sessions : List (PaseSession N) := []
  held : Option SessionId := none
  failedIn : ℕ := 0
  newWindow : Bool := false

namespace GateOp

/-- Whether an operation ends the hold of a session on the channel. -/
def letsGo (session : SessionId) : GateOp S X N K → Bool
  | .closed other => decide (other = session)
  | .release | .reopen => true
  | _ => false

/-- Whether the handshake in flight is found to have run out of time. -/
def timesOut (v : PaseView) : GateOp S X N K → Bool
  | .poll now => v.admission.hasLapsed now
  | .message m => decide (m.opcode = opcodePbkdfParamRequest) && v.admission.hasLapsed m.now
  | _ => false

/-- Whether a message ends an attempt: a request that was let in and left nothing in flight, or a
later message that took the responder away. -/
def endsAttempt (v v' : PaseView) : GateOp S X N K → Bool
  | .message m =>
    if m.opcode = opcodePbkdfParamRequest then
      v.admission.admits m.now && decide (v'.admission.channel = .idle)
    else v.pase.isSome && v'.pase.isNone
  | _ => false

/-- How many attempts have failed or run out of time in a step. -/
def lost (v v' : PaseView) (op : GateOp S X N K) : ℕ :=
  (op.timesOut v).toNat + (op.endsAttempt v v').toNat

/-- The sessions after a step that had this answer. -/
def sessionsAfter (h : GateHistory S X N K) (session : Option Established) :
    GateOp S X N K → List (PaseSession N)
  | .message m =>
    if session.isSome then
      ⟨h.answered.head?, h.node.channel.pase.map PaseResponder.config, m.now⟩ :: h.sessions
    else h.sessions
  | _ => h.sessions

/-- The attempts lost in a row after a step that had this answer. -/
def failedAfter (h : GateHistory S X N K) (session : Option Established) (v' : PaseView) :
    GateOp S X N K → ℕ
  | .reopen => 0
  | op => if session.isSome then 0 else h.failedIn + op.lost h.node.view v'

/-- Whether the window after a step is a new one. -/
def newWindowAfter (h : GateHistory S X N K) (v' : PaseView) : GateOp S X N K → Bool
  | .outside window _ _ => window.installed.isSome
  | op => h.newWindow && decide (op.lost h.node.view v' = 0)

end GateOp

namespace GateHistory

/-- The history of a node with a new channel. -/
def new (start : ChannelNode S X K) : GateHistory S X N K := { node := { start with channel := {} } }

/-- The history after an operation. -/
def after (p : Primitives) (store : KeyStore K) (h : GateHistory S X N K) (op : GateOp S X N K) :
    GateHistory S X N K :=
  let (out, node) := h.node.step p store op
  { node := node
    answered :=
      if answersRequest out then (op.request.map (⟨·, h.node.window⟩)).toList ++ h.answered
      else h.answered
    sessions := op.sessionsAfter h (paseOf out)
    held :=
      match paseOf out with
      | some established => some established.session
      | none => h.held.filter fun session => !op.letsGo session
    failedIn := op.failedAfter h (paseOf out) node.view
    newWindow := op.newWindowAfter h node.view }

/-- The history after a run. -/
def run (p : Primitives) (store : KeyStore K) (h : GateHistory S X N K) (ops : List (GateOp S X N K)) :
    GateHistory S X N K :=
  ops.foldl (after p store) h

variable {p : Primitives} {store : KeyStore K} {h : GateHistory S X N K} {op : GateOp S X N K}

@[simp] lemma run_cons (ops : List (GateOp S X N K)) :
    run p store h (op :: ops) = run p store (after p store h op) ops := rfl

/-- What an operation does to PASE, and what the history takes from its answer. -/
lemma after_cases (p : Primitives) (store : KeyStore K) (h : GateHistory S X N K) (op : GateOp S X N K) :
    ∃ out v', PaseChange p h.node.view op out v' ∧ (after p store h op).node.view = v' ∧
      (after p store h op).answered =
        (if answersRequest out then (op.request.map (⟨·, h.node.window⟩)).toList ++ h.answered
          else h.answered) ∧
      (after p store h op).sessions = op.sessionsAfter h (paseOf out) ∧
      (after p store h op).held = ((paseOf out).map Established.session).orElse
        (fun _ => h.held.filter fun session => !op.letsGo session) ∧
      (after p store h op).failedIn = op.failedAfter h (paseOf out) v' ∧
      (after p store h op).newWindow = op.newWindowAfter h v' := by
  refine ⟨_, _, ChannelNode.paseChange_step p store h.node op, rfl, rfl, rfl, ?_, rfl, rfl⟩
  rw [after]
  dsimp only
  cases paseOf (h.node.step p store op).1 <;> rfl

end GateHistory

@[simp] lemma answersRequest_refusal (a : PaseAdmission) (m : ChannelMessage N) :
    answersRequest (some (refusal a m)) = false := by
  rw [refusal]
  cases (StatusReport.secureChannel
    (if a.isExhausted then SecureChannelCode.invalidParameter else .busy)).encode
      m.reply.octets.length <;> rfl

@[simp] lemma paseOf_refusal (a : PaseAdmission) (m : ChannelMessage N) :
    paseOf (some (refusal a m)) = none := by
  rw [refusal]
  cases (StatusReport.secureChannel
    (if a.isExhausted then SecureChannelCode.invalidParameter else .busy)).encode
      m.reply.octets.length <;> rfl

@[simp] lemma paseOf_error (e : ErrorCode) : paseOf (some (.error e)) = none := rfl

@[simp] lemma paseOf_answer (opcode : UInt8) (reply : List UInt8) :
    paseOf (some (.ok (.answer opcode reply))) = none := rfl

@[simp] lemma answersRequest_answer (opcode : UInt8) (reply : List UInt8) :
    answersRequest (some (.ok (.answer opcode reply))) = decide (opcode = opcodePbkdfParamResponse) := by
  rw [answersRequest, ChannelReply.answer, Option.any_some]

@[simp] lemma paseOf_none : paseOf none = none := rfl

/-! ## Which request a responder answers -/

/-- What a request is run against. -/
def PaseRequest.config (p : Primitives) (request : PaseRequest N) : ResponderConfig :=
  let (verifier, parameters) := ChannelNode.chooseVerifier p.spake request.window request.message
  ⟨verifier, parameters, some .default⟩

/-- What is to hold of a request that was answered: on a commissioned node a window is open, and an
Enhanced one gives the verifier. -/
def PaseRequest.InWindow (p : Primitives) (request : PaseRequest N) : Prop :=
  (request.message.fabrics.isEmpty = false →
    ∃ window, request.window.openAt request.message.now = some window) ∧
  ∀ e, request.window.ephemeral request.message.now = some e →
    p.spake.fromBytes e.verifier.toList = .ok (request.config p).verifier ∧
    PbkdfParameters.new e.iterations e.salt = .ok (request.config p).parameters

lemma newResponder_ok {spake : Spake2p} {window : CommissioningWindow} {m : ChannelMessage N}
    {r : PaseResponder} {random : List UInt8}
    (h : ChannelNode.newResponder spake window m = .ok (r, random)) : r.state = .awaitingRequest ∧
      r.config = ⟨(ChannelNode.chooseVerifier spake window m).1,
        (ChannelNode.chooseVerifier spake window m).2, some .default⟩ := by
  rw [ChannelNode.newResponder] at h
  simp only [bind_eq_ok, pure_eq_ok, Except.ok.injEq, Prod.mk.injEq] at h
  obtain ⟨draw, -, octets, -, rfl, -⟩ := h
  exact ⟨rfl, rfl⟩

namespace GateHistory

variable {p : Primitives} {store : KeyStore K} {h : GateHistory S X N K} {op : GateOp S X N K}

/-- The responder in the slot is the one of the latest request that was answered, and every session
was established by the responder of a request that was answered. -/
structure Begun (p : Primitives) (h : GateHistory S X N K) : Prop where
  slot : ∀ r, h.node.view.pase = some r →
    ∃ request, h.answered.head? = some request ∧ r.config = request.config p
  sessions : ∀ session ∈ h.sessions, ∃ request ∈ h.answered,
    session.request = some request ∧ session.config = some (request.config p)

/-- The responder in the slot is that of the last request that was answered. -/
lemma slot_after (hbegun : h.Begun p) : ∀ r, (after p store h op).node.view.pase = some r →
    ∃ request, (after p store h op).answered.head? = some request ∧ r.config = request.config p := by
  obtain ⟨out, v', hchange, hview, hanswered, -, -, -, -⟩ := after_cases p store h op
  rw [hview, hanswered]
  intro r hr
  cases hchange with
  | kept hop hanswer hsession =>
    rw [hanswer]
    exact hbegun.slot r hr
  | outside => exact hbegun.slot r hr
  | refused hm hgate =>
    rw [answersRequest_refusal]
    exact hbegun.slot r hr
  | stalled hm hgate hdraws => exact hbegun.slot r hr
  | malformed hm hgate hdraws => cases hr
  | @begun m r₀ r' random reply hm hgate hdraws hresponder =>
    obtain rfl : r' = r := Option.some.inj hr
    have hrequest : (GateOp.message (S := S) (X := X) (K := K) m).request = some m := by
      rw [GateOp.request, if_pos hm]
    refine ⟨⟨m, h.node.window⟩, ?_, ?_⟩
    · simp [hrequest]
    · rw [(PaseResponder.onPbkdfParamRequest_ok hresponder).2, (newResponder_ok hdraws).2]
      rfl
  | @proved m r₀ r' scalar reply hm hpase hresponder =>
    obtain rfl : r' = r := Option.some.inj hr
    obtain ⟨request, hrequest, hconfig⟩ := hbegun.slot r₀ hpase
    refine ⟨request, ?_, ?_⟩
    · simpa [opcodePake2, opcodePbkdfParamResponse] using hrequest
    · rw [(PaseResponder.onPake1_ok hresponder).2.2, hconfig]
  | rejected hm hpase => cases hr
  | @undrawn m e r₀ r' reply keys hm hpase hresponder =>
    obtain rfl : r' = r := Option.some.inj hr
    obtain ⟨-, -, rfl⟩ := PaseResponder.onPake3_ok hresponder
    exact hbegun.slot r₀ hpase
  | @established m r₀ r' reply keys answer hm hpase hresponder hanswer hsession =>
    obtain rfl : r' = r := Option.some.inj hr
    obtain ⟨-, -, rfl⟩ := PaseResponder.onPake3_ok hresponder
    rw [hanswer]
    exact hbegun.slot r₀ hpase
  | lapsed hlapsed | closed hclosed | released => cases hr
  | reopened => exact hbegun.slot r hr

lemma sessionsAfter_none (h : GateHistory S X N K) (op : GateOp S X N K) :
    op.sessionsAfter h none = h.sessions := by
  cases op <;> rfl

/-- A session is established only by a Pake3 that the responder in the slot takes. -/
lemma sessions_after (p : Primitives) (store : KeyStore K) (h : GateHistory S X N K) (op : GateOp S X N K) :
    (after p store h op).sessions = h.sessions ∨
      ∃ m r reply keys r', op = .message m ∧ h.node.view.pase = some r ∧
        r.onPake3 m.body m.reply = .ok (reply, keys, r') ∧ m.opcode = opcodePake3 ∧
        (after p store h op).sessions = ⟨h.answered.head?, some r.config, m.now⟩ :: h.sessions := by
  obtain ⟨out, v', hchange, -, -, hsessions, -, -, -⟩ := after_cases p store h op
  rw [hsessions]
  cases hchange with
  | @established m r r' reply keys answer hm hpase hresponder hanswer hsession =>
    refine .inr ⟨m, r, reply, keys, r', rfl, hpase, hresponder, hm, ?_⟩
    rw [hsession, GateOp.sessionsAfter, Option.isSome_some, if_pos rfl,
      show h.node.channel.pase = some r from hpase]
    rfl
  | kept hop hanswer hsession =>
    rw [hsession]
    exact .inl (sessionsAfter_none h _)
  | refused hm hgate =>
    rw [paseOf_refusal]
    exact .inl (sessionsAfter_none h _)
  | _ => exact .inl (sessionsAfter_none h _)

lemma answered_after (p : Primitives) (store : KeyStore K) (h : GateHistory S X N K) (op : GateOp S X N K) :
    (after p store h op).answered = h.answered ∨
      ∃ m, op = .message m ∧ m.opcode = opcodePbkdfParamRequest ∧
        h.node.view.admission.admits m.now = true ∧
        (after p store h op).answered = ⟨m, h.node.window⟩ :: h.answered := by
  obtain ⟨out, v', hchange, -, hanswered, -, -, -, -⟩ := after_cases p store h op
  rw [hanswered]
  cases hchange with
  | @begun m r r' random reply hm hgate hdraws hresponder =>
    refine .inr ⟨m, rfl, hm, hgate, ?_⟩
    rw [GateOp.request, if_pos hm]
    rfl
  | kept hop hanswer hsession => exact .inl (by rw [hanswer]; rfl)
  | refused hm hgate => exact .inl (by rw [answersRequest_refusal]; rfl)
  | established hm hpase hresponder hanswer hsession => exact .inl (by rw [hanswer]; rfl)
  | _ => exact .inl rfl

lemma mem_answered_after {request : PaseRequest N} (hmem : request ∈ h.answered) :
    request ∈ (after p store h op).answered := by
  rcases answered_after p store h op with hsame | ⟨m, -, -, -, hnew⟩
  · rwa [hsame]
  · rw [hnew]
    exact List.mem_cons_of_mem _ hmem

lemma Begun.after (hbegun : h.Begun p) : (after p store h op).Begun p := by
  refine ⟨slot_after hbegun, ?_⟩
  intro session hmem
  rcases sessions_after p store h op with hsame | ⟨m, r, reply, keys, r', -, hpase, -, -, hnew⟩
  · rw [hsame] at hmem
    obtain ⟨request, hrequest, heq⟩ := hbegun.sessions session hmem
    exact ⟨request, mem_answered_after hrequest, heq⟩
  · rw [hnew] at hmem
    rcases List.mem_cons.mp hmem with rfl | hmem
    · obtain ⟨request, hrequest, hconfig⟩ := hbegun.slot r hpase
      exact ⟨request, mem_answered_after (List.mem_of_mem_head? hrequest), hrequest,
        congrArg some hconfig⟩
    · obtain ⟨request, hrequest, heq⟩ := hbegun.sessions session hmem
      exact ⟨request, mem_answered_after hrequest, heq⟩

lemma begun_run (p : Primitives) (store : KeyStore K) (start : ChannelNode S X K)
    (ops : List (GateOp S X N K)) : (run p store (new start) ops).Begun p := by
  refine foldl_invariant (W := fun _ => True) (fun h op _ hbegun => hbegun.after)
    (fun _ _ => trivial) ⟨?_, ?_⟩
  · intro r hr
    cases hr
  · intro session hmem
    cases hmem

end GateHistory

/-! ## A concrete channel -/

namespace Sample

/-- Stand-in primitives: a confirmation is part of the share it answers. -/
def primitives : Primitives where
  spake :=
    { kdf := fun _ _ _ length => .ok (List.replicate length 7)
      hmac := fun _ _ => .ok (List.replicate 32 7)
      fromBytes := fun octets => .ok ⟨octets⟩
      verifier := fun data scalar => .ok ⟨data, scalar⟩
      pb := fun _ => List.replicate 65 4
      finish := fun _ pa _ => .ok (pa.take 32, pa.drop 33, pa.take 16)
      context := fun request response => request ++ response }
  case :=
    { kdf := fun _ _ _ length => .ok (List.replicate length 7)
      hmac := fun _ _ => .ok (List.replicate 32 7)
      aead := .tagByKey
      hash := fun octets => octets.take 32
      verify := fun _ _ _ => .ok true
      decodeCertificate := fun _ => .error .certInvalid
      verifyChain := fun _ _ _ _ => .error .certPathInvalid }

/-- A key store with no keys. -/
def noKeys : KeyStore Unit where
  generate := fun keys _ _ => (.error .noSpace, keys)
  publicKey := fun _ _ => .error .invalidArgument
  sign := fun _ _ _ => .error .invalidArgument
  ecdh := fun _ _ _ => .error .invalidArgument
  remove := fun keys _ => (.error .invalidArgument, keys)

/-- A node with room for two sessions and no window. -/
def start : ChannelNode 2 2 Unit := ⟨{}, {}, (), .new 7 1 0⟩

/-- The table of a node that has been commissioned into one fabric. -/
def commissioned : FabricTable 5 := ⟨⟨[FabricTable.sample ⟨1⟩], by decide⟩, ⟨1⟩⟩

/-- A message to a commissioned node, with random octets that can be drawn. -/
def message (opcode : UInt8) (body : List UInt8) (now : Instant) : ChannelMessage 5 where
  opcode := opcode
  body := body
  fabrics := commissioned
  rng := ⟨fun call => .ok (UInt32.ofNat (call + 8)), fun _ octets => .ok (List.replicate octets 3)⟩
  verifier := ⟨List.replicate 97 1⟩
  parameters := ⟨1000, List.replicate 16 2⟩
  now := now
  reply := zeros 256 zeros_256
  frameLen := 64
  evictLen := 64

/-- A PBKDFParamRequest for session 9 and passcode 0. -/
def request (now : Instant) : ChannelMessage 5 :=
  message opcodePbkdfParamRequest
    ([0x15, 0x30, 0x01, 0x20] ++ List.replicate 32 5 ++
      [0x25, 0x02, 0x09, 0x00, 0x24, 0x03, 0x00, 0x28, 0x04, 0x18]) now

/-- A Pake1 with a share of 65 octets. -/
def pake1 (now : Instant) : ChannelMessage 5 :=
  message opcodePake1 ([0x15, 0x30, 0x01, 0x41] ++ List.replicate 65 6 ++ [0x18]) now

/-- A Pake3 with the confirmation of that share. -/
def pake3 (now : Instant) : ChannelMessage 5 :=
  message opcodePake3 ([0x15, 0x30, 0x01, 0x20] ++ List.replicate 32 6 ++ [0x18]) now

/-- The three messages of a handshake, the last of them at another time. -/
def handshake (now last : Instant) : List (GateOp 2 2 5 Unit) :=
  [.message (request now), .message (pake1 now), .message (pake3 last)]

/-- The history of a run of that node. -/
def after (ops : List (GateOp 2 2 5 Unit)) : GateHistory 2 2 5 Unit :=
  .run primitives noKeys (.new start) ops

/-- An Enhanced window that is open until second 900. -/
def window : CommissioningWindow :=
  ⟨some
    { status := .enhancedOpen
      expiresAt := ⟨900000000⟩
      adminFabric := some ⟨1⟩
      adminVendor := some ⟨0xFFF1⟩
      discriminator := 3840
      ephemeral := some ⟨.replicate 97 8, 2000, List.replicate 16 9⟩ }⟩

end Sample

namespace GateHistory

variable {p : Primitives} {store : KeyStore K} {h : GateHistory S X N K} {op : GateOp S X N K}

/-! ## Only while a window is open -/

/-- Whether the verifier and the parameters of an Enhanced window can be read, which the cluster that
opens it has checked.
Source: `Channel::pbkdf_param_request`, `ephemeral`. -/
def isReadable (p : Primitives) (e : EphemeralVerifier) : Bool :=
  (p.spake.fromBytes e.verifier.toList).isOk && (PbkdfParameters.new e.iterations e.salt).isOk

/-- A request that finds a commissioned node without an open window finds the gate shut too, and an
Enhanced window has a verifier that can be read. -/
def KeepsToWindow (p : Primitives) (h : GateHistory S X N K) : GateOp S X N K → Prop
  | .message m => m.opcode = opcodePbkdfParamRequest →
      (m.fabrics.isEmpty = false → h.node.window.openAt m.now = none →
        h.node.channel.admission.admits m.now = false) ∧
      ∀ e ∈ h.node.window.ephemeral m.now, isReadable p e = true
  | _ => True

instance KeepsToWindow.instDecidable (p : Primitives) (h : GateHistory S X N K) :
    (op : GateOp S X N K) → Decidable (KeepsToWindow p h op)
  | .message _ => inferInstanceAs (Decidable (_ → _))
  | .poll _ | .closed _ | .release | .reopen | .outside _ _ _ => .isTrue trivial

lemma config_of_isReadable {request : PaseRequest N} {e : EphemeralVerifier}
    (he : request.window.ephemeral request.message.now = some e) (hreadable : isReadable p e = true) :
    p.spake.fromBytes e.verifier.toList = .ok (request.config p).verifier ∧
      PbkdfParameters.new e.iterations e.salt = .ok (request.config p).parameters := by
  rw [isReadable] at hreadable
  rw [PaseRequest.config, ChannelNode.chooseVerifier, he]
  dsimp only
  cases hverifier : p.spake.fromBytes e.verifier.toList with
  | error code => simp [hverifier, Except.isOk, Except.toBool] at hreadable
  | ok verifier =>
    cases hparameters : PbkdfParameters.new e.iterations e.salt with
    | error code => simp [hparameters, Except.isOk, Except.toBool] at hreadable
    | ok parameters => exact ⟨rfl, rfl⟩

lemma inWindow_after (hop : KeepsToWindow p h op)
    (hanswered : ∀ request ∈ h.answered, PaseRequest.InWindow p request) :
    ∀ request ∈ (after p store h op).answered, PaseRequest.InWindow p request := by
  rcases answered_after p store h op with hsame | ⟨m, rfl, hm, hgate, hnew⟩
  · rwa [hsame]
  · intro request hmem
    rw [hnew] at hmem
    rcases List.mem_cons.mp hmem with rfl | hmem
    · obtain ⟨hwindow, hreadable⟩ := hop hm
      refine ⟨?_, fun e he => config_of_isReadable he (hreadable e he)⟩
      intro hfabrics
      by_contra hnone
      have hclosed : h.node.window.openAt m.now = none := by
        rw [Option.eq_none_iff_forall_ne_some]
        exact not_exists.mp hnone
      have hshut : h.node.view.admission.admits m.now = false := hwindow hfabrics hclosed
      exact Bool.false_ne_true (hshut.symm.trans hgate)
    · exact hanswered request hmem

/-- A request that the gate does not let in is answered with a refusal. -/
lemma step_of_not_admits {m : ChannelMessage N} (hm : m.opcode = opcodePbkdfParamRequest)
    (hgate : h.node.channel.admission.admits m.now = false) : (h.node.step p store (.message m)).1 =
      some (refusal (h.node.channel.admission.expire m.now).2 m) := by
  have hchange := ChannelNode.paseChange_step p store h.node (.message m)
  generalize h.node.step p store (.message m) = result at hchange
  obtain ⟨out, node⟩ := result
  dsimp only at hchange ⊢
  generalize node.view = v' at hchange
  cases hchange with
  | kept hop hanswer hsession => simp [GateOp.isIdle, hm] at hop
  | refused hm' hgate' => rfl
  | stalled hm' hgate' hdraws => exact absurd hgate' (by simp [ChannelNode.view, hgate])
  | malformed hm' hgate' hdraws => exact absurd hgate' (by simp [ChannelNode.view, hgate])
  | begun hm' hgate' hdraws hresponder => exact absurd hgate' (by simp [ChannelNode.view, hgate])
  | proved hm' hpase hresponder => exact absurd (hm.symm.trans hm') (by decide)
  | rejected hm' hpase =>
    rcases hm' with ⟨hm', -⟩ | hm' <;> exact absurd (hm.symm.trans hm') (by decide)
  | undrawn hm' hpase hresponder => exact absurd (hm.symm.trans hm') (by decide)
  | established hm' hpase hresponder hanswer hsession =>
    exact absurd (hm.symm.trans hm') (by decide)

/-- In a run in which a request that finds a commissioned node without an open window finds the gate
shut: every request that is answered finds a window open if the node is commissioned, and is run against
the verifier of an Enhanced window; every PASE session comes from such a request. -/
theorem commissioned_needs_window (p : Primitives) (store : KeyStore K) (start : ChannelNode S X K)
    (ops : List (GateOp S X N K))
    (hrun : Throughout (after p store) (KeepsToWindow p) (new start) ops) :
    let h := run p store (new start) ops
    (∀ request ∈ h.answered, PaseRequest.InWindow p request) ∧
    (∀ session ∈ h.sessions, ∃ request, session.request = some request ∧
      PaseRequest.InWindow p request ∧ session.config = some (request.config p)) ∧
    ∀ m : ChannelMessage N, m.opcode = opcodePbkdfParamRequest → m.fabrics.isEmpty = false →
      h.node.window.openAt m.now = none → KeepsToWindow p h (.message m) →
      (h.node.step p store (.message m)).1 =
        some (refusal (h.node.channel.admission.expire m.now).2 m) := by
  have hbegun : (run p store (new start) ops).Begun p := begun_run p store start ops
  have hanswered : ∀ request ∈ (run p store (new start) ops).answered,
      PaseRequest.InWindow p request :=
    hrun.invariant (I := fun h => ∀ request ∈ h.answered, PaseRequest.InWindow p request)
      (fun h op hprev hop => inWindow_after hop hprev) (fun request hmem => by cases hmem)
  refine ⟨hanswered, ?_, ?_⟩
  · intro session hmem
    obtain ⟨request, hrequest, heq, hconfig⟩ := hbegun.sessions session hmem
    exact ⟨request, heq, hanswered request hrequest, hconfig⟩
  · intro m hm hfabrics hclosed hop
    exact step_of_not_admits hm ((hop hm).1 hfabrics hclosed)

/-- An Enhanced window is put up on a commissioned node, and a handshake runs: the session is
established against the verifier of that window. -/
theorem commissioned_needs_window_enhanced :
    let ops := .outside Sample.window () (.new 7 1 0) :: Sample.handshake ⟨0⟩ ⟨0⟩
    Throughout (after Sample.primitives Sample.noKeys) (KeepsToWindow Sample.primitives)
        (new Sample.start) ops ∧
      (Sample.after ops).sessions.length = 1 ∧
      ∀ session ∈ (Sample.after ops).sessions, ∃ request, session.request = some request ∧
        PaseRequest.InWindow Sample.primitives request ∧
        session.config = some (request.config Sample.primitives) := by
  have hrun : Throughout (after Sample.primitives Sample.noKeys) (KeepsToWindow Sample.primitives)
      (new Sample.start) (.outside Sample.window () (.new 7 1 0) :: Sample.handshake ⟨0⟩ ⟨0⟩) := by
    decide +kernel
  exact ⟨hrun, by decide +kernel,
    (commissioned_needs_window Sample.primitives Sample.noKeys Sample.start _ hrun).2.1⟩

/-- A commissioned node with no window, and a handshake: the request is let in, and a PASE session is
established against the factory verifier. -/
theorem commissioned_pase_without_window :
    ∃ session ∈ (Sample.after (Sample.handshake ⟨0⟩ ⟨0⟩)).sessions, ∃ request,
      session.request = some request ∧ request.message.fabrics.isEmpty = false ∧
      request.window.openAt request.message.now = none ∧
      session.config.map ResponderConfig.verifier = some request.message.verifier := by
  have hany : ((Sample.after (Sample.handshake ⟨0⟩ ⟨0⟩)).sessions.any fun session =>
      session.request.any fun request =>
        decide (request.message.fabrics.isEmpty = false ∧
          request.window.openAt request.message.now = none ∧
          session.config.map ResponderConfig.verifier = some request.message.verifier)) = true := by
    decide +kernel
  obtain ⟨session, hmem, hrequest⟩ := List.any_eq_true.mp hany
  obtain ⟨request, heq, hbad⟩ := (Option.any_eq_true _ _).mp hrequest
  exact ⟨session, hmem, request, heq, of_decide_eq_true hbad⟩

/-! ## One session at a time -/

/-- While a session holds the channel no Pake3 is processed, and no Pake1 for which random octets can
be drawn. -/
def NoStray (h : GateHistory S X N K) : GateOp S X N K → Prop
  | .message m => h.node.channel.admission.isEstablished = true →
      m.opcode ≠ opcodePake3 ∧ (m.opcode = opcodePake1 → (m.rng.fill 0 32).isOk = false)
  | _ => True

instance NoStray.instDecidable (h : GateHistory S X N K) :
    (op : GateOp S X N K) → Decidable (NoStray h op)
  | .message _ => inferInstanceAs (Decidable (_ → _))
  | .poll _ | .closed _ | .release | .reopen | .outside _ _ _ => .isTrue trivial

/-- The session that holds the channel is what the gate and the slot say. -/
structure Holding (v : PaseView) (session : SessionId) : Prop where
  channel : v.admission.channel = .established
  failures : v.admission.failures = 0
  paseLocal : v.paseLocal = session
  slot : ∃ r, v.pase = some r ∧ r.state = .established

namespace Holding

variable {v : PaseView} {session : SessionId} {now : Instant}

lemma hasLapsed (hholding : Holding v session) : v.admission.hasLapsed now = false := by
  rw [PaseAdmission.hasLapsed, hholding.channel]

lemma expire (hholding : Holding v session) : (v.admission.expire now).2 = v.admission := by
  rw [PaseAdmission.expire_of_not_lapsed hholding.hasLapsed]

lemma admits (hholding : Holding v session) : v.admission.admits now = false := by
  simp [PaseAdmission.admits, hholding.expire, hholding.channel]

lemma slot_state (hholding : Holding v session) {r : PaseResponder} (hpase : v.pase = some r) :
    r.state = .established := by
  obtain ⟨r', hr', hstate⟩ := hholding.slot
  obtain rfl : r' = r := Option.some.inj (hr'.symm.trans hpase)
  exact hstate

end Holding

/-- Without strays a session that holds the channel goes on holding it. -/
lemma holding_after (hop : NoStray h op)
    (hholding : ∀ session, h.held = some session → Holding h.node.view session) :
    ∀ session, (after p store h op).held = some session →
      Holding (after p store h op).node.view session := by
  obtain ⟨out, v', hchange, hview, -, -, hheld, -, -⟩ := after_cases p store h op
  rw [hview, hheld]
  intro session hsome
  -- Where the step establishes no session, the one held is held from before it.
  have hprev : paseOf out = none →
      Holding h.node.view session ∧ op.letsGo session = false := by
    intro hnone
    rw [hnone] at hsome
    obtain ⟨hmem, hkept⟩ := Option.filter_eq_some_iff.mp hsome
    exact ⟨hholding session hmem, by simpa using hkept⟩
  cases hchange with
  | kept hop hanswer hsession => exact (hprev hsession).1
  | outside =>
    obtain ⟨hheld, -⟩ := hprev rfl
    exact ⟨hheld.channel, hheld.failures, hheld.paseLocal, hheld.slot⟩
  | refused hm hgate =>
    obtain ⟨hheld, -⟩ := hprev (paseOf_refusal _ _)
    rw [hheld.expire]
    exact hheld
  | stalled hm hgate hdraws => exact absurd hgate (by simp [(hprev rfl).1.admits])
  | malformed hm hgate hdraws => exact absurd hgate (by simp [(hprev rfl).1.admits])
  | begun hm hgate hdraws hresponder => exact absurd hgate (by simp [(hprev rfl).1.admits])
  | proved hm hpase hresponder =>
    have hstate := (hprev rfl).1.slot_state hpase
    rw [(PaseResponder.onPake1_ok hresponder).1] at hstate
    cases hstate
  | rejected hm hpase =>
    have hestablished : h.node.channel.admission.isEstablished = true :=
      decide_eq_true (hprev rfl).1.channel
    obtain ⟨hpake3, hpake1⟩ := hop hestablished
    rcases hm with ⟨hm, scalar, hdraw⟩ | hm
    · have hok := hpake1 hm
      rw [hdraw] at hok
      cases hok
    · exact absurd hm hpake3
  | undrawn hm hpase hresponder =>
    have hstate := (hprev rfl).1.slot_state hpase
    rw [(PaseResponder.onPake3_ok hresponder).1] at hstate
    cases hstate
  | established hm hpase hresponder hanswer hsession =>
    rw [hsession] at hsome
    obtain rfl := Option.some.inj hsome
    obtain ⟨-, -, rfl⟩ := PaseResponder.onPake3_ok hresponder
    exact ⟨rfl, rfl, rfl, _, rfl, rfl⟩
  | lapsed hlapsed => exact absurd hlapsed (by simp [(hprev rfl).1.hasLapsed])
  | closed hclosed =>
    obtain ⟨hheld, hkept⟩ := hprev rfl
    simp [GateOp.letsGo, hclosed, hheld.paseLocal] at hkept
  | released | reopened => exact absurd (hprev rfl).2 (by simp [GateOp.letsGo])

/-- The answer "not now".
Source: `Channel::pbkdf_param_request`, `SecureChannelCode::Busy`. -/
def busyAnswer (m : ChannelMessage N) : Except ErrorCode ChannelReply := do
  let reply ← (StatusReport.secureChannel .busy).encode m.reply.octets.length
  pure (.answer opcodeStatusReport reply)

/-- A step that is taken while a session holds the channel establishes none. -/
lemma paseOf_step_of_holding {session : SessionId} (hholding : Holding h.node.view session) :
    paseOf (h.node.step p store op).1 = none := by
  have hchange := ChannelNode.paseChange_step p store h.node op
  generalize h.node.step p store op = result at hchange
  obtain ⟨out, node⟩ := result
  dsimp only at hchange ⊢
  generalize node.view = v' at hchange
  cases hchange with
  | kept hop hanswer hsession => exact hsession
  | refused hm hgate => exact paseOf_refusal _ _
  | established hm hpase hresponder hanswer hsession =>
    have hstate := hholding.slot_state hpase
    rw [(PaseResponder.onPake3_ok hresponder).1] at hstate
    cases hstate
  | _ => rfl

/-- In a run from a new channel in which no Pake1 and no Pake3 strays in while a session holds the
channel: as long as one does, that is until it is closed or the channel is released or reopened, every
PBKDFParamRequest is answered Busy and no other PASE session is established. -/
theorem one_session_at_a_time (p : Primitives) (store : KeyStore K) (start : ChannelNode S X K)
    (ops : List (GateOp S X N K)) (hrun : Throughout (after p store) NoStray (new start) ops)
    (session : SessionId) (hheld : (run p store (new start) ops).held = some session)
    (op : GateOp S X N K) :
    let h := run p store (new start) ops
    paseOf (h.node.step p store op).1 = none ∧
      ∀ m, op.request = some m → (h.node.step p store op).1 = some (busyAnswer m) := by
  have hholding : Holding (run p store (new start) ops).node.view session :=
    hrun.invariant (I := fun h => ∀ session, h.held = some session → Holding h.node.view session)
      (fun h op hprev hop => holding_after hop hprev) (fun session hnone => by cases hnone)
      session hheld
  refine ⟨paseOf_step_of_holding hholding, ?_⟩
  intro m hrequest
  generalize run p store (new start) ops = h at hholding
  obtain ⟨rfl, hm⟩ : op = .message m ∧ m.opcode = opcodePbkdfParamRequest := by
    cases op with
    | message m' =>
      by_cases hm : m'.opcode = opcodePbkdfParamRequest
      · rw [GateOp.request, if_pos hm] at hrequest
        obtain rfl := Option.some.inj hrequest
        exact ⟨rfl, hm⟩
      · rw [GateOp.request, if_neg hm] at hrequest
        cases hrequest
    | _ => cases hrequest
  rw [step_of_not_admits hm hholding.admits]
  have hroom : (h.node.channel.admission.expire m.now).2.isExhausted = false := by
    rw [show h.node.channel.admission = h.node.view.admission from rfl, hholding.expire,
      PaseAdmission.isExhausted, hholding.failures]
    rfl
  rw [refusal, hroom]
  rfl

/-- A handshake leaves session 9 holding the channel, and the next request is answered Busy. -/
theorem one_session_at_a_time_next : (Sample.after (Sample.handshake ⟨0⟩ ⟨0⟩)).held = some ⟨9⟩ ∧
      ((Sample.after (Sample.handshake ⟨0⟩ ⟨0⟩)).node.step Sample.primitives Sample.noKeys
        (.message (Sample.request ⟨1⟩))).1 = some (busyAnswer (Sample.request ⟨1⟩)) := by
  have hrun : Throughout (after Sample.primitives Sample.noKeys) NoStray (new Sample.start)
      (Sample.handshake ⟨0⟩ ⟨0⟩) := by
    decide +kernel
  have hheld : (Sample.after (Sample.handshake ⟨0⟩ ⟨0⟩)).held = some ⟨9⟩ := by decide +kernel
  exact ⟨hheld, (one_session_at_a_time Sample.primitives Sample.noKeys Sample.start _ hrun ⟨9⟩ hheld
    (.message (Sample.request ⟨1⟩))).2 _ rfl⟩

/-- A second copy of the last Pake3 reaches the channel while session 9 holds it: the responder that
has finished refuses it, the gate is free, and the next request is answered with a PBKDFParamResponse
though session 9 has not been closed and the channel was neither released nor reopened. -/
theorem stray_pake3_frees_channel :
    let h := Sample.after (Sample.handshake ⟨0⟩ ⟨0⟩ ++ [.message (Sample.pake3 ⟨0⟩)])
    h.held = some ⟨9⟩ ∧
      answersRequest (h.node.step Sample.primitives Sample.noKeys
        (.message (Sample.request ⟨1⟩))).1 = true := by
  decide +kernel

end GateHistory

end MatterKit.Sc
