import MatterKit.Clusters.Contexts

/-!
# Completing a commissioning

`CommissioningComplete` is for CASE sessions of the fabric that the fail-safe context belongs to. The
command is not told the kind of the session it came on: it is told the accessing fabric, and takes there
being one for CASE. But an `AddNOC` over PASE has the device put the new fabric on the PASE session
itself, and from then on that session has an accessing fabric too, the very one the context has adopted.

Along every run `CommissioningComplete` is answered OK over CASE alone exactly when it is never sent on
a PASE session that is bound to the context's fabric (`completes_over_case_iff`).
-/

namespace MatterKit.Clusters

open Lib Machine Dm Im Commissioning OperationalCredentials

/-- The accessing fabric of a session.
Source: `examples/light.rs`, `accessing_fabric`. -/
def accessingFabric (session : SecureSession) : Option FabricIndex :=
  if session.fabricIndex.isSome then some session.fabricIndex else none

/-- The context of a command on a session.
Source: `examples/light.rs`, `SubscriptionContext` and the context `dispatch_one` makes of it. -/
def contextOn (session : SecureSession) (now : Instant) (challenge : Option (List UInt8)) :
    InteractionContext :=
  { fabricIndex := accessingFabric session
    session := some session.localSessionId
    now := now
    attestationChallenge := challenge }

/-- A node with its sessions, and with the fabrics that were joined: on which session, and under which
index. -/
structure Commissioner (N M : ℕ) (K : Type) where
  node : CommissioningNode N K
  sessions : SessionTable M
  joined : List (SessionId × FabricIndex) := []

/-- Sessions come and go, commands arrive on them, and the device looks at its timer. -/
inductive CommissionerOp
  | install (session : SecureSession)
  | close (id : SessionId)
  | armFailSafe (id : SessionId) (seconds : UInt16) (breadcrumb : UInt64) (now : Instant)
  | credential (id : SessionId) (command : CredentialCommand) (now : Instant)
      (challenge : Option (List UInt8)) (random : Except ErrorCode (List UInt8))
  | commissioningComplete (id : SessionId) (now : Instant)
  | expire (now : Instant)

namespace Commissioner

variable {N M : ℕ} {K : Type} (c : CredentialCrypto K) (store : KeyStore K)

/-- The device takes the change that a command on a session has left, and follows it.
Source: `examples/light.rs`, `opcreds.take_change`. -/
def follow (d : Commissioner N M K) (id : SessionId) : Commissioner N M K :=
  match d.node.change with
  | some (.added index _ true) =>
    { d with
      node := { d.node with change := none }
      sessions := d.sessions.modify id fun session => { session with fabricIndex := index } }
  | some (.removed index _ _) =>
    { d with
      node := { d.node with change := none }
      sessions := d.sessions.removeFabric index }
  | _ => { d with node := { d.node with change := none } }

/-- The answer to a `CommissioningComplete`. -/
def completion (d : Commissioner N M K) (session : SecureSession) (now : Instant) :
    CommissioningError :=
  (GeneralCommissioning.commissioningComplete d.node (contextOn session now none)).1.1

/-- A command on a session that is there. -/
def command (d : Commissioner N M K) (session : SecureSession) :
    CommissionerOp → Commissioner N M K
  | .armFailSafe _ seconds breadcrumb now =>
    { d with
      node := (GeneralCommissioning.armFailSafe d.node seconds breadcrumb
        (contextOn session now none)).2 }
  | .credential _ command now challenge random =>
    let ctx := contextOn session now challenge
    let before := reap store now d.node
    let after := (exec (OperationalCredentials.perform c store command ctx random) before).2
    { d with
      node := after
      joined := d.joined ++ (addedFabric before.fabrics after.fabrics).toList.map
        fun index => (session.localSessionId, index) }
  | .commissioningComplete _ now =>
    { d with
      node := (GeneralCommissioning.commissioningComplete d.node (contextOn session now none)).2 }
  | _ => d

/-- A command on the session with an id; on one that is not there it is not dispatched. -/
def dispatch (d : Commissioner N M K) (id : SessionId) (op : CommissionerOp) : Commissioner N M K :=
  match d.sessions.find id with
  | none => d
  | some session => (command c store d session op).follow id

/-- One step. -/
def step (d : Commissioner N M K) (op : CommissionerOp) : Commissioner N M K :=
  match op with
  | .install session => { d with sessions := (d.sessions.insert session).2 }
  | .close id => { d with sessions := d.sessions.remove id }
  | .armFailSafe id _ _ _ | .credential id _ _ _ _ | .commissioningComplete id _ =>
    dispatch c store d id op
  | .expire now => { d with node := { d.node with failSafe := (d.node.failSafe.expire now).2 } }

/-- A run of a device. -/
def run (d : Commissioner N M K) (ops : List CommissionerOp) : Commissioner N M K :=
  ops.foldl (step c store) d

/-- A `CommissioningComplete` that is answered OK has come on a CASE session of the fabric that the
fail-safe context belongs to. -/
def CompletesOverCase (d : Commissioner N M K) : CommissionerOp → Prop
  | .commissioningComplete id now => ∀ session, d.sessions.find id = some session →
      d.completion session now = .ok → session.kind = .caseSession ∧
        (d.node.failSafe.armedAt now).map Armed.fabricIndex = some (some session.fabricIndex)
  | _ => True

/-- A `CommissioningComplete` does not come on a PASE session that is bound to the fabric of the
fail-safe context. -/
def NotOnBoundPase (d : Commissioner N M K) : CommissionerOp → Prop
  | .commissioningComplete id now => ∀ session, d.sessions.find id = some session →
      session.kind = .paseSession → session.fabricIndex.isSome = true →
        (d.node.failSafe.armedAt now).map Armed.fabricIndex ≠ some (some session.fabricIndex)
  | _ => True

/-- A completion is answered OK exactly when the accessing fabric is that of a live context. -/
lemma completion_eq_ok_iff {d : Commissioner N M K} {session : SecureSession} {now : Instant} :
    d.completion session now = .ok ↔ session.fabricIndex.isSome = true ∧
      (d.node.failSafe.armedAt now).map Armed.fabricIndex = some (some session.fabricIndex) := by
  have hcompletion : d.completion session now = (d.node.failSafe.complete
      (accessingFabric session).isSome (accessingFabric session) now).1.error := by
    unfold completion GeneralCommissioning.commissioningComplete
    rfl
  rw [hcompletion]
  constructor
  · intro hok
    obtain ⟨armed, hlive, hcase, -, hsame, -⟩ := complete_of_ok hok
    unfold accessingFabric at hcase hsame
    split_ifs at hcase hsame with hsome
    · exact ⟨hsome, by rw [hlive, Option.map_some, ← hsame]⟩
    · cases hcase
  · rintro ⟨hsome, hfabric⟩
    obtain ⟨armed, hlive, hsame⟩ := Option.map_eq_some_iff.mp hfabric
    have haccessing : accessingFabric session = some session.fabricIndex := if_pos hsome
    rw [FailSafe.complete_eq, FailSafe.expire_of_live hlive, FailSafe.completeLive_of_live hlive,
      haccessing, if_pos ⟨rfl, nofun, hsame.symm⟩]

/-- What a step is asked for and what it is given. -/
lemma completesOverCase_iff (d : Commissioner N M K) (op : CommissionerOp) :
    CompletesOverCase d op ↔ NotOnBoundPase d op := by
  cases op with
  | commissioningComplete id now =>
    refine forall₂_congr fun session hsession => ?_
    rw [completion_eq_ok_iff]
    constructor
    · intro hcase hpase hsome hfabric
      have hkind := (hcase ⟨hsome, hfabric⟩).1
      rw [hpase] at hkind
      cases hkind
    · rintro hpase ⟨hsome, hfabric⟩
      refine ⟨?_, hfabric⟩
      cases hkind : session.kind with
      | paseSession => exact absurd hfabric (hpase hkind hsome)
      | caseSession => rfl
  | _ => exact Iff.rfl

/-- `CommissioningComplete` succeeds over CASE alone: along every run, from any state of the device,
each one that is answered OK has come on a CASE session of the fabric that the live context belongs to,
if and only if none is sent on a PASE session that is bound to that fabric. -/
theorem completes_over_case_iff (d : Commissioner N M K) (ops : List CommissionerOp) :
    Throughout (step c store) CompletesOverCase d ops ↔ Throughout (step c store) NotOnBoundPase d ops :=
  Throughout.congr (I := fun _ => True) (fun d op _ => completesOverCase_iff d op)
    (fun _ _ _ => trivial) trivial

end Commissioner

/-! ## A run on concrete values -/

namespace Sample

/-- A PASE session of a commissioner. -/
def paseSession : SecureSession :=
  .new ⟨7⟩ ⟨8⟩ .paseSession .responder
    ⟨⟨⟨.replicate 16 1⟩, ⟨.replicate 16 2⟩⟩, ⟨⟨.replicate 16 3⟩, ⟨.replicate 16 4⟩⟩,
      ⟨.replicate 16 5⟩⟩ 0 ⟨0⟩

/-- A node on two fabrics that has just been paired with. -/
def paired : Commissioner 5 4 Keys where
  node := onTwoFabrics
  sessions := ⟨⟨[paseSession], by decide⟩, 1⟩

/-- A fabric is joined over the PASE session. -/
def joiningOverPase : List CommissionerOp :=
  [.armFailSafe ⟨7⟩ 60 0 ⟨1000000⟩,
   .credential ⟨7⟩ (.csrRequest (.replicate 32 0) false) ⟨2000000⟩ (some [0]) (.ok []),
   .credential ⟨7⟩ (.addTrustedRoot [9, 9]) ⟨3000000⟩ (some [0]) (.ok []),
   .credential ⟨7⟩ (.addNoc ⟨[3, 5], none, .replicate 16 0, 1, ⟨0xFFF1⟩⟩) ⟨4000000⟩ (some [0]) (.ok [])]

end Sample

namespace Commissioner

open Sample

/-- The fabric is joined over PASE, the device binds the session to it, and `CommissioningComplete` on
that PASE session is answered OK. -/
theorem pase_session_completes : (run crypto keyStore paired joiningOverPase).joined = [(⟨7⟩, ⟨3⟩)] ∧
      (∃ session ∈ (run crypto keyStore paired joiningOverPase).sessions.find ⟨7⟩,
        session.kind = .paseSession ∧
          (run crypto keyStore paired joiningOverPase).completion session ⟨5000000⟩ = .ok) ∧
      ¬ CompletesOverCase (run crypto keyStore paired joiningOverPase)
        (.commissioningComplete ⟨7⟩ ⟨5000000⟩) := by
  have hjoined : (run crypto keyStore paired joiningOverPase).joined = [(⟨7⟩, ⟨3⟩)] ∧
      ∃ session ∈ (run crypto keyStore paired joiningOverPase).sessions.find ⟨7⟩,
        session.kind = .paseSession ∧
          (run crypto keyStore paired joiningOverPase).completion session ⟨5000000⟩ = .ok := by
    decide +kernel
  refine ⟨hjoined.1, hjoined.2, fun hcase => ?_⟩
  obtain ⟨session, hfind, hpase, hok⟩ := hjoined.2
  exact nomatch hpase.symm.trans (hcase session hfind hok).1

end Commissioner

end MatterKit.Clusters
