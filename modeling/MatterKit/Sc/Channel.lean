import MatterKit.Messaging
import MatterKit.Sc.Case

/-!
# The secure channel of a node

`sc/channel.rs`: the one place that answers the messages of both handshakes, behind the gate on PASE,
and installs the sessions they produce. A `Channel` has a slot for one PASE responder and one for a CASE
responder. Its methods work on what is around it too, which is collected in `ChannelNode`: the
commissioning window, the key store and the message layer.
-/

namespace MatterKit.Sc

open Lib Machine Tlv Commissioning

variable {S X N : ℕ} {K : Type}

/-! ## Opcodes -/

/-- Source: `sc/mod.rs`, `opcode::PBKDF_PARAM_REQUEST`. -/
def opcodePbkdfParamRequest : UInt8 := 0x20

/-- Source: `sc/mod.rs`, `opcode::PBKDF_PARAM_RESPONSE`. -/
def opcodePbkdfParamResponse : UInt8 := 0x21

/-- Source: `sc/mod.rs`, `opcode::PAKE1`. -/
def opcodePake1 : UInt8 := 0x22

/-- Source: `sc/mod.rs`, `opcode::PAKE2`. -/
def opcodePake2 : UInt8 := 0x23

/-- Source: `sc/mod.rs`, `opcode::PAKE3`. -/
def opcodePake3 : UInt8 := 0x24

/-- Source: `sc/mod.rs`, `opcode::SIGMA1`. -/
def opcodeSigma1 : UInt8 := 0x30

/-- Source: `sc/mod.rs`, `opcode::SIGMA2`. -/
def opcodeSigma2 : UInt8 := 0x31

/-- Source: `sc/mod.rs`, `opcode::SIGMA3`. -/
def opcodeSigma3 : UInt8 := 0x32

/-! ## The channel and what it works on -/

/-- Source: `sc/channel.rs`, `Channel`. -/
structure Channel where
  admission : PaseAdmission := {}
  pase : Option PaseResponder := none
  paseLocal : SessionId := ⟨0⟩
  case : Option CaseResponder := none
  caseLocal : SessionId := ⟨0⟩
  caseFabric : FabricIndex := .none
  challenge : Option SymmetricKey := none

/-- A channel with the window, the keys and the message layer of its node. -/
structure ChannelNode (S X : ℕ) (K : Type) where
  channel : Channel
  window : CommissioningWindow
  keys : K
  stack : Messaging S X

/-- The draws of one call: the successive results of `next_u32`, and of `fill` with so many octets.
Source: `platform/mod.rs`, `Rng`. -/
structure Rng where
  nextU32 : (call : ℕ) → Except ErrorCode UInt32
  fill : (call octets : ℕ) → Except ErrorCode (List UInt8)

/-- A message with the context and the buffers of the call that handles it.
Source: `sc/channel.rs`, the arguments of `Channel::on_message`. -/
structure ChannelMessage (N : ℕ) where
  opcode : UInt8
  body : List UInt8
  fabrics : FabricTable N
  rng : Rng
  verifier : Spake2pVerifierData
  parameters : PbkdfParameters
  now : Instant
  reply : Slice
  frameLen : ℕ
  evictLen : ℕ

/-- Source: `sc/channel.rs`, `Established`. -/
structure Established where
  session : SessionId
  kind : SessionKind
  fabric : FabricIndex
  challenge : Option SymmetricKey
  deriving DecidableEq

/-- Source: `sc/channel.rs`, `ChannelReply`. -/
structure ChannelReply where
  reply : Option (UInt8 × List UInt8)
  established : Option Established := none
  evicted : Option Evicted := none

namespace ChannelReply

/-- Source: `ChannelReply::SILENT`. -/
def silent : ChannelReply := { reply := none }

/-- Source: `ChannelReply::answer`. -/
def answer (opcode : UInt8) (octets : List UInt8) : ChannelReply := { reply := some (opcode, octets) }

end ChannelReply

/-- What the channel is built from. -/
structure Primitives where
  spake : Spake2p
  case : CaseCrypto

namespace ChannelNode

variable (p : Primitives) (store : KeyStore K)

/-! ## The failure path -/

/-- Source: `Channel::fail`. -/
def fail (s : ChannelNode S X K) : ChannelNode S X K :=
  let admission := s.channel.admission.failed
  { s with
    channel := { s.channel with pase := none, admission := admission }
    window := if admission.isExhausted then s.window.close else s.window }

/-! ## PASE -/

/-- The verifier and parameters a request is answered with: the open window's own, if it has any that
can be read.
Source: `Channel::pbkdf_param_request`, `ephemeral` and the `match` on it. -/
def chooseVerifier (spake : Spake2p) (window : CommissioningWindow) (m : ChannelMessage N) :
    Spake2pVerifierData × PbkdfParameters :=
  match window.ephemeral m.now with
  | none => (m.verifier, m.parameters)
  | some e =>
    match spake.fromBytes e.verifier.toList, PbkdfParameters.new e.iterations e.salt with
    | .ok verifier, .ok parameters => (verifier, parameters)
    | _, _ => (m.verifier, m.parameters)

/-- The responder for a request and the octets it draws, before it has looked at the request.
Source: `Channel::pbkdf_param_request`, from `PaseResponder::new` to `ctx.rng.fill`. -/
def newResponder (spake : Spake2p) (window : CommissioningWindow) (m : ChannelMessage N) :
    Except ErrorCode (PaseResponder × List UInt8) := do
  let (verifier, parameters) := chooseVerifier spake window m
  let draw ← m.rng.nextU32 0
  let random ← m.rng.fill 0 32
  pure
    ({ config := ⟨verifier, parameters, some .default⟩
       localSessionId := ⟨draw.toUInt16 ||| 1⟩ }, random)

/-- Answers a request that the gate has admitted.
Source: `Channel::pbkdf_param_request`, past the gate. -/
def startPase (s : ChannelNode S X K) (m : ChannelMessage N) :
    Except ErrorCode ChannelReply × ChannelNode S X K :=
  match newResponder p.spake s.window m with
  | .error e => (.error e, s)
  | .ok (responder, random) =>
    match responder.onPbkdfParamRequest m.body random m.reply with
    | .ok (reply, responder) =>
      (.ok (.answer opcodePbkdfParamResponse reply),
        { s with
          channel :=
            { s.channel with
              paseLocal := responder.localSessionId
              pase := some responder } })
    | .error e => (.error e, s.fail)

/-- Source: `Channel::pbkdf_param_request`. -/
def pbkdfParamRequest (s : ChannelNode S X K) (m : ChannelMessage N) :
    Except ErrorCode ChannelReply × ChannelNode S X K :=
  let (verdict, admission) := s.channel.admission.admitRequest true m.now
  let s := { s with channel := { s.channel with admission := admission } }
  match verdict with
  | .admitted => startPase p s m
  | refusal =>
    let code := if refusal = .busy then SecureChannelCode.busy else .invalidParameter
    match (StatusReport.secureChannel code).encode m.reply.octets.length with
    | .ok reply => (.ok (.answer opcodeStatusReport reply), s)
    | .error e => (.error e, s)

/-- Source: `Channel::pake1`. -/
def pake1 (s : ChannelNode S X K) (m : ChannelMessage N) :
    Except ErrorCode ChannelReply × ChannelNode S X K :=
  match s.channel.pase with
  | none => (.ok .silent, s)
  | some responder =>
    match m.rng.fill 0 32 with
    | .error e => (.error e, s)
    | .ok random =>
      match responder.onPake1 p.spake m.body random m.reply with
      | .ok (reply, responder) =>
        (.ok (.answer opcodePake2 reply),
          { s with channel := { s.channel with pase := some responder } })
      | .error e => (.error e, s.fail)

/-- The two draws for a session: its first counter, and the randomness of its installation. -/
def sessionDraws (m : ChannelMessage N) : Except ErrorCode (UInt32 × UInt32) := do
  let counter ← m.rng.nextU32 0
  let randomness ← m.rng.nextU32 1
  pure (counter, randomness)

/-- Installs the session of a PASE handshake that has succeeded.
Source: `Channel::pake3`, after `on_pake3`. -/
def finishPase (s : ChannelNode S X K) (m : ChannelMessage N) (responder : PaseResponder)
    (reply : List UInt8) (keys : EstablishedKeys) :
    Except ErrorCode ChannelReply × ChannelNode S X K :=
  match sessionDraws m with
  | .error e => (.error e, s)
  | .ok (counter, randomness) =>
    let session := SecureSession.new s.channel.paseLocal responder.peerSessionId .paseSession
      .responder keys counter m.now
    match s.stack.installSession p.case.aead session m.now randomness m.frameLen m.evictLen with
    | (.error e, stack) => (.error e, { s with stack := stack }.fail)
    | (.ok evicted, stack) =>
      let challenge := keys.attestationChallenge
      (.ok
        { reply := some (opcodeStatusReport, reply)
          established := some ⟨s.channel.paseLocal, .paseSession, .none, some challenge⟩
          evicted := evicted },
        { s with
          stack := stack
          channel :=
            { s.channel with
              challenge := some challenge
              admission := s.channel.admission.established } })

/-- Source: `Channel::pake3`. -/
def pake3 (s : ChannelNode S X K) (m : ChannelMessage N) :
    Except ErrorCode ChannelReply × ChannelNode S X K :=
  match s.channel.pase with
  | none => (.ok .silent, s)
  | some responder =>
    match responder.onPake3 m.body m.reply with
    | .error e => (.error e, s.fail)
    | .ok (reply, keys, responder) =>
      finishPase p { s with channel := { s.channel with pase := some responder } } m responder
        reply keys

/-! ## CASE -/

/-- The draws for an answer to a Sigma1.
Source: `Channel::sigma1`, up to `Sigma1::decode`. -/
def sigma1Draws (m : ChannelMessage N) : Except ErrorCode (SessionId × Sigma2Randomness) := do
  let draw ← m.rng.nextU32 0
  let responder ← m.rng.fill 0 32
  let ephemeral ← m.rng.fill 1 32
  let resumption ← m.rng.fill 2 16
  pure (⟨draw.toUInt16 ||| 1⟩, ⟨ephemeral, responder, resumption⟩)

/-- Decodes a Sigma1 and answers it.
Source: `Channel::sigma1`, `accepted`. -/
def acceptedSigma1 (m : ChannelMessage N) (sessionId : SessionId) (randomness : Sigma2Randomness) :
    Machine K ErrorCode (CaseResponder × FabricIndex × List UInt8) := do
  let sigma1 ← ofResult (Sigma1.decode m.body)
  acceptSigma1 p.case store sigma1 m.fabrics sessionId (some .default) randomness m.reply

/-- Source: `Channel::sigma1`. -/
def sigma1 (s : ChannelNode S X K) (m : ChannelMessage N) :
    Except ErrorCode ChannelReply × ChannelNode S X K :=
  match sigma1Draws m with
  | .error e => (.error e, s)
  | .ok (sessionId, randomness) =>
    match exec (acceptedSigma1 p store m sessionId randomness) s.keys with
    | (.ok (responder, fabric, reply), keys) =>
      (.ok (.answer opcodeSigma2 reply),
        { s with
          keys := keys
          channel :=
            { s.channel with
              caseLocal := sessionId
              caseFabric := fabric
              case := some responder } })
    | (.error _, keys) =>
      let s := { s with keys := keys, channel := { s.channel with case := none } }
      match (StatusReport.secureChannel .noSharedTrustRoots).encode m.reply.octets.length with
      | .ok reply => (.ok (.answer opcodeStatusReport reply), s)
      | .error e => (.error e, s)

/-- Decodes a Sigma3 and accepts it on the fabric its Sigma1 was resolved to.
Source: `Channel::sigma3`, `accepted`. -/
def acceptedSigma3 (m : ChannelMessage N) (responder : CaseResponder) (fabric : FabricIndex) :
    Except ErrorCode (CaseOutcome × CaseResponder × List UInt8) := do
  let sigma3 ← Sigma3.decode m.body
  responder.acceptSigma3 p.case sigma3 m.fabrics fabric none m.reply

/-- Installs the session of a CASE handshake that has succeeded, on a fabric.
Source: `Channel::sigma3`, from `outcome.into_session`. -/
def finishCase (s : ChannelNode S X K) (m : ChannelMessage N) (outcome : CaseOutcome)
    (fabric : Fabric) (reply : List UInt8) : Except ErrorCode ChannelReply × ChannelNode S X K :=
  match sessionDraws m with
  | .error e => (.error e, s)
  | .ok (counter, randomness) =>
    let session := outcome.intoSession s.channel.caseLocal fabric counter m.now
    match s.stack.installSession p.case.aead session m.now randomness m.frameLen m.evictLen with
    | (.error e, stack) => (.error e, { s with stack := stack })
    | (.ok evicted, stack) =>
      (.ok
        { reply := some (opcodeStatusReport, reply)
          established := some ⟨s.channel.caseLocal, .caseSession, fabric.index, none⟩
          evicted := evicted },
        { s with stack := stack, channel := { s.channel with case := none } })

/-- The fabric a session is put on: the first with the fabric id of the peer.
Source: `Channel::sigma3`, `ctx.fabrics.borrow().iter().find(..)`. -/
def fabricOf (m : ChannelMessage N) (outcome : CaseOutcome) : Option Fabric :=
  m.fabrics.fabrics.toList.find? fun f => decide (f.fabricId = outcome.peer.fabricId)

/-- Source: `Channel::sigma3`. -/
def sigma3 (s : ChannelNode S X K) (m : ChannelMessage N) :
    Except ErrorCode ChannelReply × ChannelNode S X K :=
  match s.channel.case with
  | none => (.ok .silent, s)
  | some responder =>
    match acceptedSigma3 p m responder s.channel.caseFabric with
    | .error e => (.error e, { s with channel := { s.channel with case := none } })
    | .ok (outcome, responder, reply) =>
      match fabricOf m outcome with
      | none =>
        (.ok (.answer opcodeStatusReport reply),
          { s with channel := { s.channel with case := none } })
      | some fabric =>
        finishCase p { s with channel := { s.channel with case := some responder } } m outcome
          fabric reply

/-! ## The calls of a channel -/

/-- Source: `Channel::on_message`. -/
def onMessage (s : ChannelNode S X K) (m : ChannelMessage N) :
    Except ErrorCode ChannelReply × ChannelNode S X K :=
  if m.opcode = opcodePbkdfParamRequest then pbkdfParamRequest p s m
  else if m.opcode = opcodePake1 then pake1 p s m
  else if m.opcode = opcodePake3 then pake3 p s m
  else if m.opcode = opcodeSigma1 then sigma1 p store s m
  else if m.opcode = opcodeSigma3 then sigma3 p s m
  else (.ok .silent, s)

/-- Source: `Channel::poll`. -/
def poll (s : ChannelNode S X K) (now : Instant) : ChannelNode S X K :=
  let (lapsed, admission) := s.channel.admission.poll now
  if lapsed then
    { s with
      channel := { s.channel with pase := none, admission := admission }
      window := if admission.isExhausted then s.window.close else s.window }
  else s

/-- Source: `Channel::closed`. -/
def closed (s : ChannelNode S X K) (session : SessionId) : ChannelNode S X K :=
  if session = s.channel.paseLocal then
    { s with
      channel :=
        { s.channel with admission := s.channel.admission.closed, pase := none, challenge := none } }
  else s

/-- Source: `Channel::release`. -/
def release (s : ChannelNode S X K) : ChannelNode S X K :=
  { s with channel := { s.channel with admission := s.channel.admission.closed, pase := none } }

/-- Source: `Channel::reopen`. -/
def reopen (s : ChannelNode S X K) : ChannelNode S X K :=
  { s with channel := { s.channel with admission := s.channel.admission.reset } }

end ChannelNode

end MatterKit.Sc
