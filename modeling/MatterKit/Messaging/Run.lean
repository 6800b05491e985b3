import MatterKit.Messaging

/-!
# Runs of the message layer

The system the operations of `Messaging` form. `Call` is one use of the interface with all its
arguments, `after` the state it leaves, and `Run` a finite sequence of calls that starts at
`Messaging.new`. The only condition on the caller (`Admissible`) is that an exchange is opened on the
unsecured session or on a session that is there.

`Reachable.invariant` is the rule the invariants of the layer are proved with.
-/

namespace MatterKit

variable {S X : ℕ}

/-- One use of the interface of `Messaging`. -/
inductive Call
  | allocateId
  | installSession (session : SecureSession) (now : Instant) (randomness : UInt32)
      (scratchLen outLen : ℕ)
  | setFabric (session : SessionId) (fabric : FabricIndex)
  | closeSession (session : SessionId)
  | removeFabric (fabric : FabricIndex)
  | openExchange (session : SessionId) (protocol : ProtocolId) (now : Instant)
  | openTo (session : SessionId) (protocol : ProtocolId) (peer : Peer) (now : Instant)
  | openUnsecured (protocol : ProtocolId) (now : Instant) (randomness : UInt64)
  | openUnsecuredTo (protocol : ProtocolId) (peer : Peer) (now : Instant) (randomness : UInt64)
  | openUnsecuredAsInitiator (ephemeral : NodeId)
  | closeUnsecured
  | close (exchange : ExchangeKey)
  | register (protocols : Protocols)
  | setPrivacy (privacy : Bool)
  | receive (buf : List UInt8) (peer : Peer) (now : Instant)
  | send (exchange : ExchangeKey) (opcode : UInt8) (reliable : Bool) (payload : List UInt8)
      (now : Instant) (randomness : UInt32) (scratchLen outLen : ℕ)
  | acknowledge (exchange : ExchangeKey) (now : Instant) (outLen : ℕ)
  | poll (now : Instant) (randomness : UInt32)

namespace Messaging

/-- The state a call leaves, whatever its result. `setFabric` is the one thing callers do through
`sessions_mut` beyond allocating an id: they bind a session to its fabric. -/
def after (c : Crypto) (m : Messaging S X) : Call → Messaging S X
  | .allocateId => { m with sessions := m.sessions.allocateId.2 }
  | .installSession session now randomness scratchLen outLen =>
    (m.installSession c session now randomness scratchLen outLen).2
  | .setFabric session fabric => m.updateSession session fun s => { s with fabricIndex := fabric }
  | .closeSession session => m.closeSession session
  | .removeFabric fabric => m.removeFabric fabric
  | .openExchange session protocol now => (m.openExchange session protocol now).2
  | .openTo session protocol peer now => (m.openTo session protocol peer now).2
  | .openUnsecured protocol now randomness => (m.openUnsecured protocol now randomness).2
  | .openUnsecuredTo protocol peer now randomness =>
    (m.openUnsecuredTo protocol peer now randomness).2
  | .openUnsecuredAsInitiator ephemeral => (m.openUnsecuredAsInitiator ephemeral).2
  | .closeUnsecured => m.closeUnsecured
  | .close exchange => m.close exchange
  | .register protocols => m.register protocols
  | .setPrivacy privacy => m.setPrivacy privacy
  | .receive buf peer now => (m.receive c buf peer now).2
  | .send exchange opcode reliable payload now randomness scratchLen outLen =>
    (m.send c exchange opcode reliable payload now randomness scratchLen outLen).2
  | .acknowledge exchange now outLen => (m.acknowledge c exchange now outLen).2
  | .poll now randomness => (m.poll now randomness).2

/-- Whether a session is the unsecured one or is in the table. -/
def Live (m : Messaging S X) (session : SessionId) : Prop :=
  session = .unsecured ∨ ∃ s ∈ m.sessions.entries, s.localSessionId = session

/-- An exchange is only opened on the unsecured session or on one that is there. -/
def Admissible (m : Messaging S X) : Call → Prop
  | .openExchange session _ _ | .openTo session _ _ _ => m.Live session
  | _ => True

/-- The session ids a call hands out. -/
def issues (m : Messaging S X) : Call → List SessionId
  | .allocateId =>
    match m.sessions.allocateId.1 with
    | .ok id => [id]
    | .error _ => []
  | _ => []

end Messaging

/-- The local ids of the sessions a call asks to install. -/
def Call.installs : Call → List SessionId
  | .installSession session _ _ _ _ => [session.localSessionId]
  | _ => []

/-- The states that finitely many calls can lead to, with the ids issued and the ids installed on
the way. -/
inductive Run (c : Crypto) : Messaging S X → List SessionId → List SessionId → Prop
  | new (firstSessionId firstExchangeId : UInt16) (initialCounter : UInt32) :
      Run c (.new firstSessionId firstExchangeId initialCounter) [] []
  | step {m : Messaging S X} {issued installed : List SessionId} (call : Call)
      (run : Run c m issued installed) (admissible : m.Admissible call) :
      Run c (m.after c call) (issued ++ m.issues call) (installed ++ call.installs)

/-- A state some run leads to. -/
def Reachable (c : Crypto) (m : Messaging S X) : Prop :=
  ∃ issued installed, Run c m issued installed

namespace Reachable

variable {c : Crypto}

lemma new (firstSessionId firstExchangeId : UInt16) (initialCounter : UInt32) :
    Reachable c (.new firstSessionId firstExchangeId initialCounter : Messaging S X) :=
  ⟨_, _, .new _ _ _⟩

lemma step {m : Messaging S X} (h : Reachable c m) (call : Call) (ha : m.Admissible call) :
    Reachable c (m.after c call) := by
  obtain ⟨issued, installed, run⟩ := h
  exact ⟨_, _, .step call run ha⟩

/-- Calls that any state admits lead from a reachable state to a reachable one. -/
lemma calls {m : Messaging S X} (h : Reachable c m) (calls : List Call)
    (ha : ∀ call ∈ calls, ∀ m : Messaging S X, m.Admissible call) :
    Reachable c (calls.foldl (Messaging.after c) m) := by
  induction calls generalizing m with
  | nil => exact h
  | cons call calls ih =>
    refine ih (h.step call ?_) ?_
    · exact ha call List.mem_cons_self m
    · intro call' hcall'
      exact ha call' (List.mem_cons_of_mem _ hcall')

/-- The invariant rule: what holds at the start and is kept by every admissible call holds in every
reachable state. -/
lemma invariant {P : Messaging S X → Prop} (start : ∀ s x n, P (.new s x n))
    (keep : ∀ m call, P m → m.Admissible call → P (m.after c call))
    {m : Messaging S X} (h : Reachable c m) : P m := by
  obtain ⟨issued, installed, run⟩ := h
  induction run with
  | new s x n => exact start s x n
  | step call _ ha ih => exact keep _ call ih ha

end Reachable

end MatterKit
