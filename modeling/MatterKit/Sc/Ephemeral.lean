import MatterKit.Clusters.Contexts
import MatterKit.Clusters.Rollback
import MatterKit.Sc.Sizes

/-!
# The ephemeral keys of a handshake

An initiator draws a key when it starts and destroys it when the exchange is over; a responder draws and
destroys one within a call. Here a handshake is a run of calls on one party and a key store, and its
keys are accounted for (`Accounted`) while the store holds what it held before and the key of a party
that waits for an answer.

No call of a responder leaves a key behind. An initiator does where it fails with its key still in the
store. `CaseInitiator.Tidy` says for a call that it is none of these, and a handshake leaves no key
exactly where each of its calls is tidy.
-/

namespace MatterKit

open Lib

/-- What a key store does to its keys: generating adds one handle or changes nothing, and removing deletes
one.
Source: `crypto/mod.rs`, `KeyStore::generate` and `KeyStore::remove`. -/
structure KeyStore.Exact {K : Type} (store : KeyStore K) : Prop where
  fresh : ∀ keys purpose random key publicKey,
    (store.generate keys purpose random).1 = .ok (key, publicKey) → ¬ store.Holds keys key
  generated : ∀ keys purpose random key publicKey,
    (store.generate keys purpose random).1 = .ok (key, publicKey) → ∀ other,
      (store.Holds (store.generate keys purpose random).2 other ↔ store.Holds keys other ∨ other = key)
  refused : ∀ keys purpose random e, (store.generate keys purpose random).1 = .error e → ∀ other,
    (store.Holds (store.generate keys purpose random).2 other ↔ store.Holds keys other)
  removed : ∀ keys key other,
    store.Holds (store.remove keys key).2 other ↔ store.Holds keys other ∧ other ≠ key
  removes : ∀ keys key, store.Holds keys key → (store.remove keys key).1 = .ok ()

/-- Two states of a key store hold the same keys. -/
def KeyStore.SameKeys {K : Type} (store : KeyStore K) (keys keys' : K) : Prop :=
  ∀ key, store.Holds keys key ↔ store.Holds keys' key

namespace Sc

open Machine Tlv

/-! ## Handshakes -/

/-- A party of a handshake and the key store, after a call that has failed or not. -/
structure Handshake (P K : Type) where
  party : P
  keys : K
  failed : Bool := false

/-- A handshake after another call. -/
def Handshake.call {P K α : Type} (h : Handshake P K) (x : Machine (P × K) ErrorCode α) :
    Handshake P K where
  party := (exec x (h.party, h.keys)).2.1
  keys := (exec x (h.party, h.keys)).2.2
  failed := !(exec x (h.party, h.keys)).1.isOk

/-- So many octets. -/
abbrev Octets (n : ℕ) := {bytes : List UInt8 // bytes.length = n}

/-- A session that may be resumed, with an id of its length. -/
abbrev Resumable := {previous : ResumptionState // previous.resumptionId.length = 16}

/-- The calls of an initiator.
Source: `sc/case.rs`, the methods of `CaseInitiator` that return a `Result`. -/
inductive InitiatorCall
  | start (fabric : Fabric) (peerNodeId : NodeId) (random : Octets 32) (ephemeral : List UInt8)
      (out : Slice)
  | startResumption (fabric : Fabric) (peerNodeId : NodeId) (previous : Resumable) (random : Octets 32)
      (ephemeral : List UInt8) (out : Slice)
  | handleSigma2 (sigma2 : Sigma2) (fabric : Fabric) (root : MatterCertificate) (noc : List UInt8)
      (icac : Option (List UInt8)) (epochS : Option UInt32) (out : Slice)
  | acceptFinished (report : List UInt8)
  | acceptResume (message : Sigma2Resume) (previous : Resumable)

/-- The calls of a responder.
Source: `sc/case.rs`, the methods of `CaseResponder` that return a `Result`. -/
inductive ResponderCall
  | handleSigma1 (sigma1 : Sigma1) (fabric : Fabric) (noc : List UInt8) (icac : Option (List UInt8))
      (randomness : Sigma2Randomness) (out : Slice)
  | handleSigma1Resumption (sigma1 : Sigma1) (previous : Resumable) (random : List UInt8) (out : Slice)
  | handleSigma3 (sigma3 : Sigma3) (root : MatterCertificate) (epochS : Option UInt32)
  | finished (out : Slice)

section Calls

variable {K : Type} (c : CaseCrypto) (store : KeyStore K)

/-- An initiator's handshake after a call. -/
def InitiatorCall.after (h : Handshake CaseInitiator K) : InitiatorCall → Handshake CaseInitiator K
  | .start fabric peerNodeId random ephemeral out =>
    h.call (CaseInitiator.start c store fabric peerNodeId random.val ephemeral out)
  | .startResumption fabric peerNodeId previous random ephemeral out =>
    h.call (CaseInitiator.startResumption c store fabric peerNodeId previous.val random.val ephemeral out)
  | .handleSigma2 sigma2 fabric root noc icac epochS out =>
    h.call (CaseInitiator.handleSigma2 c store sigma2 fabric root noc icac epochS out)
  | .acceptFinished report => h.call (CaseInitiator.acceptFinished report)
  | .acceptResume message previous => h.call (CaseInitiator.acceptResume c store message previous.val)

/-- A responder's handshake after a call. -/
def ResponderCall.after (h : Handshake CaseResponder K) : ResponderCall → Handshake CaseResponder K
  | .handleSigma1 sigma1 fabric noc icac randomness out =>
    h.call (CaseResponder.handleSigma1 c store sigma1 fabric noc icac randomness out)
  | .handleSigma1Resumption sigma1 previous random out =>
    h.call (CaseResponder.handleSigma1Resumption c sigma1 previous.val random out)
  | .handleSigma3 sigma3 root epochS => h.call (CaseResponder.takeSigma3 c sigma3 root epochS)
  | .finished out => h.call (CaseResponder.finished out)

end Calls

/-! ## Tidy calls -/

namespace CaseInitiator

/-- The handle of the key an initiator waits with. -/
def pendingKey (i : CaseInitiator) : Option KeyHandle :=
  match i.state with
  | .awaitingSigma2 pending => some pending.ephHandle
  | _ => none

/-- How many octets the first message takes. -/
def sigma1Octets (i : CaseInitiator) : ℕ :=
  142 + valueOctets i.sessionId.val.toUInt64 + paramsOctets i.sessionParams

/-- How many octets it takes where it asks for a resumption. -/
def resumingOctets (i : CaseInitiator) : ℕ :=
  180 + valueOctets i.sessionId.val.toUInt64 +
    paramsOctets (i.sessionParams.map SessionParams.announced)

end CaseInitiator

/-- A call that, if it fails, does not fail with the key of the handshake still in the store. -/
def InitiatorCall.Tidy {K : Type} (c : CaseCrypto) (store : KeyStore K)
    (h : Handshake CaseInitiator K) : InitiatorCall → Prop
  | .start fabric peerNodeId random ephemeral out =>
    h.party.pendingKey = none ∧ (h.party.state = .start →
      (c.destinationIdentifier fabric.ipk random.val fabric.rootPublicKey fabric.fabricId
        peerNodeId).isOk = true →
      (store.generate h.keys .ephemeral ephemeral).1.isOk = true →
        h.party.sigma1Octets ≤ out.octets.length)
  | .startResumption fabric peerNodeId previous random ephemeral out =>
    h.party.pendingKey = none ∧ (h.party.state = .start →
      (c.destinationIdentifier fabric.ipk random.val fabric.rootPublicKey fabric.fabricId
        peerNodeId).isOk = true →
      (store.generate h.keys .ephemeral ephemeral).1.isOk = true →
        h.party.resumingOctets ≤ maxSigma1 ∧ max h.party.sigma1Octets h.party.resumingOctets ≤
          out.octets.length ∧
        ∃ s1rk mic, c.sigma1ResumeKey previous.val.sharedSecret random.val previous.val.resumptionId =
          .ok s1rk ∧ c.sealIn 16 s1rk resume1Nonce [] = .ok mic)
  | .handleSigma2 .. => True
  | .acceptFinished report =>
    h.party.pendingKey = none ∨ ∃ r, StatusReport.decode report = .ok r ∧ r.isFinished = true
  | .acceptResume message previous =>
    ∀ pending, h.party.state = .awaitingSigma2 pending →
      ∃ s2rk, c.sigma2ResumeKey previous.val.sharedSecret pending.initiatorRandom
          message.resumptionId = .ok s2rk ∧
        ((c.openIn 16 s2rk resume2Nonce message.sigma2ResumeMic).isOk = true →
          (c.resumptionSessionKeys previous.val.sharedSecret pending.initiatorRandom
            message.resumptionId).isOk = true)

/-! ## Accounts -/

section Accounts

variable {K : Type} {c : CaseCrypto} {store : KeyStore K} {base : K}

/-- The store holds what it held at first, and the key an initiator waits with, which is none of these. -/
structure Accounted (store : KeyStore K) (base : K) (s : CaseInitiator × K) : Prop where
  fresh : ∀ key ∈ s.1.pendingKey, ¬ store.Holds base key
  holds : ∀ key, store.Holds s.2 key ↔ store.Holds base key ∨ key ∈ s.1.pendingKey

variable {s : CaseInitiator × K} {i : CaseInitiator} {key : KeyHandle}
  {h : Handshake CaseInitiator K}

lemma Accounted.same_iff (h : Accounted store base s) :
    store.SameKeys s.2 base ↔ s.1.pendingKey = none := by
  constructor
  · intro hsame
    rw [Option.eq_none_iff_forall_not_mem]
    intro key hkey
    exact h.fresh key hkey ((hsame key).mp ((h.holds key).mpr (.inr hkey)))
  · intro hnone key
    rw [h.holds key, hnone]
    exact or_iff_left (Option.not_mem_none key)

/-- Another initiator that waits with no key, or with the same one. -/
lemma Accounted.of_pendingKey (h : Accounted store base s) (hi : i.pendingKey = s.1.pendingKey) :
    Accounted store base (i, s.2) :=
  ⟨fun key hkey => h.fresh key (hi ▸ hkey), fun key => by rw [h.holds key, hi]⟩

lemma Accounted.of_same {keys : K} (hi : i.pendingKey = none) (h : store.SameKeys keys base) :
    Accounted store base (i, keys) where
  fresh := fun key hkey => by simp [hi] at hkey
  holds := fun key => by rw [h key, hi, or_iff_left (Option.not_mem_none key)]

/-- What a call that is tidy, or is not, ends with. -/
structure Settles {α : Type} (store : KeyStore K) (base : K) (tidy : Prop)
    (result : Except ErrorCode α × (CaseInitiator × K)) : Prop where
  kept : tidy → Accounted store base result.2 ∧
    (result.1.isOk = false → result.2.1.pendingKey = none)
  left : ¬ tidy → result.1.isOk = false ∧ ¬ store.SameKeys result.2.2 base

namespace Settles

variable {α : Type} {tidy : Prop}

/-- A call that is refused with the store as it was. -/
lemma refused {s : CaseInitiator × K} (h : Accounted store base s) {i : CaseInitiator} {keys : K}
    (hi : i.pendingKey = s.1.pendingKey) (hkeys : store.SameKeys keys s.2)
    (htidy : tidy ↔ s.1.pendingKey = none) (e : ErrorCode) :
    Settles store base tidy ((.error e : Except ErrorCode α), (i, keys)) where
  kept := fun ht =>
    ⟨⟨fun key hkey => h.fresh key (hi ▸ hkey), fun key => by rw [hkeys key, h.holds key, hi]⟩,
      fun _ => hi.trans (htidy.mp ht)⟩
  left := fun ht => ⟨rfl, fun hsame => ht (htidy.mpr (h.same_iff.mp fun key =>
    (hkeys key).symm.trans (hsame key)))⟩

/-- A tidy call that is taken, or fails with no key to wait with. -/
lemma taken {result : Except ErrorCode α × (CaseInitiator × K)} (ht : tidy)
    (h : Accounted store base result.2) (hfailed : result.1.isOk = false → result.2.1.pendingKey = none) :
    Settles store base tidy result where
  kept := fun _ => ⟨h, hfailed⟩
  left := fun hnot => absurd ht hnot

/-- A call that fails and waits with a key. -/
lemma waits {s : CaseInitiator × K} (hnot : ¬ tidy) (h : Accounted store base s)
    (hkey : s.1.pendingKey ≠ none) (e : ErrorCode) :
    Settles store base tidy ((.error e : Except ErrorCode α), s) where
  kept := fun ht => absurd ht hnot
  left := fun _ => ⟨rfl, fun hsame => hkey (h.same_iff.mp hsame)⟩

end Settles

section Generated

variable {s : CaseInitiator × K} {ephemeral : List UInt8} {handle : KeyHandle} {own : PublicKey}

/-- An initiator that waits with the key it has drawn. -/
lemma Accounted.generated (hstore : store.Exact) (h : Accounted store base s)
    (hnone : s.1.pendingKey = none)
    (hgenerate : (store.generate s.2 .ephemeral ephemeral).1 = .ok (handle, own)) {i : CaseInitiator}
    (hi : i.pendingKey = some handle) :
    Accounted store base (i, (store.generate s.2 .ephemeral ephemeral).2) where
  fresh := by
    intro key hkey
    obtain rfl : handle = key := Option.some.inj (hi ▸ hkey)
    exact fun hheld => hstore.fresh _ _ _ _ _ hgenerate ((h.holds handle).mpr (.inl hheld))
  holds := by
    intro key
    rw [hstore.generated _ _ _ _ _ hgenerate key, h.holds key, hnone, hi,
      or_iff_left (Option.not_mem_none key), Option.mem_some, eq_comm]

/-- One that does not wait with it has left it. -/
lemma Accounted.not_same_generated (hstore : store.Exact) (h : Accounted store base s)
    (hgenerate : (store.generate s.2 .ephemeral ephemeral).1 = .ok (handle, own)) :
    ¬ store.SameKeys (store.generate s.2 .ephemeral ephemeral).2 base := by
  intro hsame
  have hheld : store.Holds (store.generate s.2 .ephemeral ephemeral).2 handle :=
    (hstore.generated _ _ _ _ _ hgenerate handle).mpr (.inr rfl)
  exact hstore.fresh _ _ _ _ _ hgenerate ((h.holds handle).mpr (.inl ((hsame handle).mp hheld)))

end Generated

/-- The key an initiator waits with is destroyed. -/
lemma Accounted.removed (hstore : store.Exact) (h : Accounted store base s)
    (hkey : s.1.pendingKey = some key) (hi : i.pendingKey = none) :
    Accounted store base (i, (store.remove s.2 key).2) := by
  refine .of_same hi fun other => ?_
  rw [hstore.removed, h.holds other, hkey, Option.mem_some]
  constructor
  · rintro ⟨hheld | rfl, hne⟩
    · exact hheld
    · exact absurd rfl hne
  · intro hheld
    refine ⟨.inl hheld, ?_⟩
    rintro rfl
    exact h.fresh other (hkey ▸ rfl) hheld

lemma Accounted.abandon (hstore : store.Exact) (h : Accounted store base s) :
    Accounted store base (CaseInitiator.abandon store s) := by
  obtain ⟨⟨id, params, state⟩, keys⟩ := s
  cases state with
  | awaitingSigma2 pending => exact h.removed hstore (i := ⟨id, params, .failed⟩) rfl rfl
  | start | done | failed => exact h.of_pendingKey (i := ⟨id, params, .failed⟩) rfl

lemma pendingKey_abandon (store : KeyStore K) (s : CaseInitiator × K) :
    (CaseInitiator.abandon store s).1.pendingKey = none := by
  obtain ⟨⟨id, params, state⟩, keys⟩ := s
  cases state <;> rfl

/-! ## Starting -/

section Start

variable {fabric : Fabric} {peerNodeId : NodeId} {random : Octets 32} {ephemeral : List UInt8}
  {s : CaseInitiator × K}

lemma pendingKey_of_start {i : CaseInitiator} (h : i.state = .start) : i.pendingKey = none := by
  rw [CaseInitiator.pendingKey, h]

/-- An initiator that draws no key is left as it was. -/
lemma exec_start_refused (out : Slice) (hstore : store.Exact)
    (h : s.1.state = .start → (c.destinationIdentifier fabric.ipk random.val fabric.rootPublicKey
      fabric.fabricId peerNodeId).isOk = true →
        (store.generate s.2 .ephemeral ephemeral).1.isOk = false) :
    ∃ e keys, exec (CaseInitiator.start c store fabric peerNodeId random.val ephemeral out) s =
      (.error e, (s.1, keys)) ∧ store.SameKeys keys s.2 := by
  rw [CaseInitiator.start, exec_get_bind]
  dsimp only
  by_cases hstate : s.1.state = .start
  · rw [exec_require_bind hstate]
    cases hdestination : c.destinationIdentifier fabric.ipk random.val fabric.rootPublicKey
        fabric.fabricId peerNodeId with
    | error e => exact ⟨e, s.2, rfl, fun _ => Iff.rfl⟩
    | ok destinationId =>
      have hrefused := h hstate (by rw [hdestination]; rfl)
      cases hgenerate : (store.generate s.2 .ephemeral ephemeral).1 with
      | ok generated => rw [hgenerate] at hrefused; cases hrefused
      | error e =>
        have hrun : exec (onKeys (ExceptT.mk fun keys => store.generate keys .ephemeral ephemeral)) s =
            (.error e, (s.1, (store.generate s.2 .ephemeral ephemeral).2)) := by
          rw [exec_onKeys]
          exact congrArg (·, _) hgenerate
        refine ⟨e, _, ?_, hstore.refused _ _ _ _ hgenerate⟩
        rw [exec_bind_ok (exec_ofResult _ _), exec_bind_error hrun]
  · refine ⟨.invalidState, s.2, ?_, fun _ => Iff.rfl⟩
    rw [require, if_neg hstate, exec_bind_error (exec_throw _ _)]

variable {destinationId : List UInt8} {own : PublicKey} {h : Handshake CaseInitiator K}

/-- One that draws a key waits with it, if there is room for the message. -/
lemma exec_start_drawn (out : Slice)
    (hlength : ∀ key message mac, c.hmac key message = .ok mac → mac.length = 32)
    (hstate : s.1.state = .start)
    (hdestination : c.destinationIdentifier fabric.ipk random.val fabric.rootPublicKey
      fabric.fabricId peerNodeId = .ok destinationId) {handle : KeyHandle}
    (hgenerate : (store.generate s.2 .ephemeral ephemeral).1 = .ok (handle, own)) :
    (s.1.sigma1Octets ≤ out.octets.length → ∃ encoded pending,
      exec (CaseInitiator.start c store fabric peerNodeId random.val ephemeral out) s =
        (.ok encoded, ({ s.1 with state := .awaitingSigma2 pending },
          (store.generate s.2 .ephemeral ephemeral).2)) ∧
      pending.ephHandle = handle ∧
      written (s.1.sigma1 random.val destinationId own).encode out = .ok encoded) ∧
    (out.octets.length < s.1.sigma1Octets →
      exec (CaseInitiator.start c store fabric peerNodeId random.val ephemeral out) s =
        (.error .bufferTooSmall, (s.1, (store.generate s.2 .ephemeral ephemeral).2))) := by
  have hsized := sized_sigma1 hlength s.1 random.property hdestination own
  have hsize : lengths (messageCalls (s.1.sigma1 random.val destinationId own).memberCalls) =
      s.1.sigma1Octets := by
    rw [Sigma1.lengths_calls hsized]
    rfl
  have hdrawn : exec (onKeys (ExceptT.mk fun keys => store.generate keys .ephemeral ephemeral)) s =
      (.ok (handle, own), (s.1, (store.generate s.2 .ephemeral ephemeral).2)) := by
    rw [exec_onKeys]
    exact congrArg (·, _) hgenerate
  obtain ⟨hfits, hshort⟩ := written_runAll (Sigma1.encode_eq_calls _)
    (Sigma1.makesOne (s.1.sigma1 random.val destinationId own)) out
  rw [hsize] at hfits hshort
  rw [CaseInitiator.start, exec_get_bind]
  dsimp only
  rw [exec_require_bind hstate, hdestination, exec_bind_ok (exec_ofResult _ _), exec_bind_ok hdrawn]
  constructor
  · intro hle
    obtain ⟨encoded, hwritten, -⟩ := hfits hle
    dsimp only
    rw [hwritten, exec_bind_ok (exec_ofResult _ _)]
    exact ⟨encoded, _, rfl, rfl, rfl⟩
  · intro hlt
    dsimp only
    rw [hshort hlt, exec_bind_error (exec_ofResult _ _)]

/-- An initiator that may draw a key is one that does, or one that is left as it was. -/
lemma drawn_or_refused (c : CaseCrypto) (store : KeyStore K) (fabric : Fabric) (peerNodeId : NodeId)
    (random : Octets 32) (ephemeral : List UInt8) (s : CaseInitiator × K) :
    (∃ destinationId handle own, s.1.state = .start ∧
      c.destinationIdentifier fabric.ipk random.val fabric.rootPublicKey fabric.fabricId peerNodeId =
        .ok destinationId ∧ (store.generate s.2 .ephemeral ephemeral).1 = .ok (handle, own)) ∨
    (s.1.state = .start → (c.destinationIdentifier fabric.ipk random.val fabric.rootPublicKey
      fabric.fabricId peerNodeId).isOk = true →
        (store.generate s.2 .ephemeral ephemeral).1.isOk = false) := by
  by_cases h : s.1.state = .start ∧ (c.destinationIdentifier fabric.ipk random.val fabric.rootPublicKey
      fabric.fabricId peerNodeId).isOk = true ∧ (store.generate s.2 .ephemeral ephemeral).1.isOk = true
  · obtain ⟨hstate, hdestination, hgenerate⟩ := h
    obtain ⟨destinationId, hdestination⟩ := exists_of_isOk hdestination
    obtain ⟨⟨handle, own⟩, hgenerate⟩ := exists_of_isOk hgenerate
    exact .inl ⟨destinationId, handle, own, hstate, hdestination, hgenerate⟩
  · refine .inr fun hstate hdestination => Bool.eq_false_of_not_eq_true fun hgenerate => ?_
    exact h ⟨hstate, hdestination, hgenerate⟩

/-- An initiator that cannot write its Sigma1 fails with the key it has drawn. -/
lemma settles_start (hstore : store.Exact)
    (hlength : ∀ key message mac, c.hmac key message = .ok mac → mac.length = 32)
    (hacc : Accounted store base (h.party, h.keys)) (fabric : Fabric) (peerNodeId : NodeId)
    (random : Octets 32) (ephemeral : List UInt8) (out : Slice) :
    Settles store base ((InitiatorCall.start fabric peerNodeId random ephemeral out).Tidy c store h)
      (exec (CaseInitiator.start c store fabric peerNodeId random.val ephemeral out)
        (h.party, h.keys)) := by
  rw [InitiatorCall.Tidy]
  rcases drawn_or_refused c store fabric peerNodeId random ephemeral (h.party, h.keys) with
    ⟨destinationId, handle, own, hstate, hdestination, hgenerate⟩ | hrefused
  · have hnone := pendingKey_of_start hstate
    obtain ⟨hfits, hshort⟩ := exec_start_drawn out hlength hstate hdestination hgenerate
    rcases Nat.lt_or_ge out.octets.length h.party.sigma1Octets with hlt | hle
    · rw [hshort hlt]
      refine ⟨fun htidy => ?_, fun _ => ⟨rfl, hacc.not_same_generated hstore hgenerate⟩⟩
      have := htidy.2 hstate (by rw [hdestination]; rfl) (by rw [hgenerate]; rfl)
      omega
    · obtain ⟨encoded, pending, hrun, hhandle, -⟩ := hfits hle
      rw [hrun]
      exact .taken ⟨hnone, fun _ _ _ => hle⟩
        (hacc.generated hstore hnone hgenerate (congrArg some hhandle)) fun hfailed => by cases hfailed
  · obtain ⟨e, keys, hrun, hsame⟩ := exec_start_refused out hstore hrefused
    rw [hrun]
    refine .refused hacc rfl hsame ⟨And.left, fun hnone => ⟨hnone, ?_⟩⟩ e
    intro hstate hdestination hgenerate
    rw [hrefused hstate hdestination] at hgenerate
    cases hgenerate

lemma pendingKey_restarted (i : CaseInitiator) (encoded : List UInt8) :
    (i.restarted encoded).pendingKey = i.pendingKey := by
  obtain ⟨id, params, state⟩ := i
  cases state <;> rfl

/-- What a resumption needs besides a key: its own key and MIC, and room for the longer message. -/
def Resumes (c : CaseCrypto) (i : CaseInitiator) (previous : Resumable) (random : Octets 32)
    (out : Slice) : Prop :=
  i.resumingOctets ≤ maxSigma1 ∧ i.resumingOctets ≤ out.octets.length ∧
    ∃ s1rk mic, c.sigma1ResumeKey previous.val.sharedSecret random.val previous.val.resumptionId =
      .ok s1rk ∧ c.sealIn 16 s1rk resume1Nonce [] = .ok mic

/-- An initiator that has started waits with its key, whether or not it then asks for a resumption. -/
lemma exec_startResumption_started (previous : Resumable) {out : Slice} {first : List UInt8}
    {s₁ : CaseInitiator × K} (hsized : (s.1.sigma1 random.val destinationId own).Sized)
    (hwritten : written (s.1.sigma1 random.val destinationId own).encode out = .ok first)
    (hstarted : exec (CaseInitiator.start c store fabric peerNodeId random.val ephemeral out) s =
      (.ok first, s₁)) : (Resumes c s.1 previous random out → ∃ encoded,
      exec (CaseInitiator.startResumption c store fabric peerNodeId previous.val random.val ephemeral
        out) s = (.ok encoded, (s₁.1.restarted encoded, s₁.2))) ∧
    (¬ Resumes c s.1 previous random out → ∃ e,
      exec (CaseInitiator.startResumption c store fabric peerNodeId previous.val random.val ephemeral
        out) s = (.error e, s₁)) := by
  rw [CaseInitiator.startResumption, exec_bind_ok hstarted]
  cases hs1rk : c.sigma1ResumeKey previous.val.sharedSecret random.val previous.val.resumptionId with
  | error e =>
    refine ⟨?_, fun _ => ⟨e, exec_bind_error (exec_ofResult _ _) _⟩⟩
    rintro ⟨-, -, s1rk, mic, hkey, -⟩
    rw [hs1rk] at hkey
    cases hkey
  | ok s1rk =>
  rw [exec_bind_ok (exec_ofResult _ _)]
  cases hmic : c.sealIn 16 s1rk resume1Nonce [] with
  | error e =>
    refine ⟨?_, fun _ => ⟨e, exec_bind_error (exec_ofResult _ _) _⟩⟩
    rintro ⟨-, -, s1rk', mic, hkey, hsealed⟩
    obtain rfl := Except.ok.inj (hs1rk.symm.trans hkey)
    rw [hmic] at hsealed
    cases hsealed
  | ok mic =>
  rw [exec_bind_ok (exec_ofResult _ _), Sigma1.decode_written hsized hwritten,
    exec_bind_ok (exec_ofResult _ _)]
  have hresized : Sigma1.Sized (Sigma1.resuming { s.1.sigma1 random.val destinationId own with
      sessionParams := (s.1.sigma1 random.val destinationId own).sessionParams.map
        SessionParams.announced
      encoded := first } previous.val.resumptionId mic) :=
    ⟨hsized.initiatorRandom, hsized.destinationId, fun _ h => Option.some.inj h ▸ previous.property,
      fun _ h => Option.some.inj h ▸ (length_sealIn hmic).1⟩
  have hsize := (Sigma1.lengths_resuming hresized rfl rfl).trans (rfl : _ = s.1.resumingOctets)
  obtain ⟨hfits, hshort⟩ := written_runAll (Sigma1.encode_eq_calls _) (Sigma1.makesOne _)
    (zeros maxSigma1 maxSigma1_lt)
  rw [hsize, length_zeros] at hfits hshort
  constructor
  · rintro ⟨hbound, hroom, -⟩
    obtain ⟨encoded, hencoded, hlength⟩ := hfits hbound
    rw [hencoded, exec_bind_ok (exec_ofResult _ _), exec_require_bind (hlength.trans_le hroom)]
    exact ⟨encoded, rfl⟩
  · intro hnot
    rcases Nat.lt_or_ge maxSigma1 s.1.resumingOctets with hlt | hbound
    · rw [hshort hlt]
      exact ⟨_, exec_bind_error (exec_ofResult _ _) _⟩
    obtain ⟨encoded, hencoded, hlength⟩ := hfits hbound
    have hroom : ¬ encoded.length ≤ out.octets.length := fun hle =>
      hnot ⟨hbound, hlength ▸ hle, s1rk, mic, hs1rk, hmic⟩
    refine ⟨.bufferTooSmall, ?_⟩
    rw [hencoded, exec_bind_ok (exec_ofResult _ _), require, if_neg hroom,
      exec_bind_error (exec_throw _ _)]

/-- An initiator that asks for a resumption fails with its key where it cannot. -/
lemma settles_startResumption (hstore : store.Exact)
    (hlength : ∀ key message mac, c.hmac key message = .ok mac → mac.length = 32)
    (hacc : Accounted store base (h.party, h.keys)) (fabric : Fabric) (peerNodeId : NodeId)
    (previous : Resumable) (random : Octets 32) (ephemeral : List UInt8) (out : Slice) : Settles store base
      ((InitiatorCall.startResumption fabric peerNodeId previous random ephemeral out).Tidy c store h)
      (exec (CaseInitiator.startResumption c store fabric peerNodeId previous.val random.val ephemeral
        out) (h.party, h.keys)) := by
  have htidy : (InitiatorCall.startResumption fabric peerNodeId previous random ephemeral out).Tidy c
      store h ↔ h.party.pendingKey = none ∧ (h.party.state = .start →
        (c.destinationIdentifier fabric.ipk random.val fabric.rootPublicKey fabric.fabricId
          peerNodeId).isOk = true → (store.generate h.keys .ephemeral ephemeral).1.isOk = true →
            h.party.sigma1Octets ≤ out.octets.length ∧ Resumes c h.party previous random out) := by
    rw [InitiatorCall.Tidy]
    simp only [Resumes, Nat.max_le]
    tauto
  rcases drawn_or_refused c store fabric peerNodeId random ephemeral (h.party, h.keys) with
    ⟨destinationId, handle, own, hstate, hdestination, hgenerate⟩ | hrefused
  · have hnone := pendingKey_of_start hstate
    have hneeds := fun ht => (htidy.mp ht).2 hstate (by rw [hdestination]; rfl) (by rw [hgenerate]; rfl)
    obtain ⟨hfits, hshort⟩ := exec_start_drawn out hlength hstate hdestination hgenerate
    rcases Nat.lt_or_ge out.octets.length h.party.sigma1Octets with hlt | hle
    · rw [CaseInitiator.startResumption, exec_bind_error (hshort hlt)]
      refine ⟨fun ht => ?_, fun _ => ⟨rfl, hacc.not_same_generated hstore hgenerate⟩⟩
      have := (hneeds ht).1
      omega
    · obtain ⟨first, pending, hrun, hhandle, hwritten⟩ := hfits hle
      have hsized := sized_sigma1 hlength h.party random.property hdestination own
      obtain ⟨hresumes, hfails⟩ := exec_startResumption_started previous hsized hwritten hrun
      have hwaits : ∀ i : CaseInitiator, i.pendingKey = some pending.ephHandle →
          Accounted store base (i, (store.generate h.keys .ephemeral ephemeral).2) :=
        fun i hi => hacc.generated hstore hnone hgenerate (hi.trans (congrArg some hhandle))
      by_cases hall : Resumes c h.party previous random out
      · obtain ⟨encoded, hrun'⟩ := hresumes hall
        rw [hrun']
        exact .taken (htidy.mpr ⟨hnone, fun _ _ _ => ⟨hle, hall⟩⟩)
          (hwaits _ (pendingKey_restarted _ encoded)) fun hfailed => by cases hfailed
      · obtain ⟨e, hrun'⟩ := hfails hall
        rw [hrun']
        exact .waits (fun ht => hall (hneeds ht).2)
          (hwaits { h.party with state := .awaitingSigma2 pending } rfl) (Option.some_ne_none _) e
  · obtain ⟨e, keys, hrun, hsame⟩ := exec_start_refused out hstore hrefused
    rw [CaseInitiator.startResumption, exec_bind_error hrun]
    refine .refused hacc rfl hsame (htidy.trans ⟨And.left, fun hnone => ⟨hnone, ?_⟩⟩) e
    intro hstate hdestination hgenerate
    rw [hrefused hstate hdestination] at hgenerate
    cases hgenerate

end Start

/-! ## The answers -/

/-- A report that does not finish the handshake leaves the key of a party that waits. -/
lemma settles_acceptFinished (hacc : Accounted store base (h.party, h.keys)) (report : List UInt8) :
    Settles store base ((InitiatorCall.acceptFinished report).Tidy c store h)
      (exec (CaseInitiator.acceptFinished report) (h.party, h.keys)) := by
  rw [InitiatorCall.Tidy, CaseInitiator.acceptFinished]
  cases hreport : StatusReport.decode report with
  | error e =>
    rw [exec_bind_error (exec_ofResult _ _)]
    exact .refused hacc rfl (fun _ => Iff.rfl) (or_iff_left (by simp)) e
  | ok r =>
    rw [exec_bind_ok (exec_ofResult _ _), exec_onFailure]
    by_cases hfinished : r.isFinished = true
    · rw [exec_require_of hfinished]
      exact .taken (.inr ⟨r, rfl, hfinished⟩) hacc fun hfailed => by cases hfailed
    · rw [require, if_neg hfinished, exec_throw]
      have htidy : (h.party.pendingKey = none ∨ ∃ r', (Except.ok r : Except ErrorCode StatusReport) =
          .ok r' ∧ r'.isFinished = true) ↔ h.party.pendingKey = none := by
        refine or_iff_left ?_
        rintro ⟨r', hr', hyes⟩
        exact hfinished (Except.ok.inj hr' ▸ hyes)
      rw [htidy]
      -- The initiator fails and no longer knows of a key it waited with.
      refine ⟨fun hnone => ⟨?_, fun _ => rfl⟩, fun hwaits => ⟨rfl, fun hsame => ?_⟩⟩
      · exact .of_same rfl (hacc.same_iff.mpr hnone)
      · exact hwaits (hacc.same_iff.mp hsame)

/-- The key an initiator waits with is removed without an error. -/
lemma Accounted.exec_remove (hstore : store.Exact) (h : Accounted store base s)
    (hkey : s.1.pendingKey = some key) : exec (onKeys (ExceptT.mk fun keys => store.remove keys key)) s =
      (.ok (), (s.1, (store.remove s.2 key).2)) := by
  rw [exec_onKeys]
  exact congrArg (·, _) (hstore.removes _ _ ((h.holds key).mpr (.inr hkey)))

/-- What is sealed for a resumption is opened and gives the keys, or the initiator gives up. -/
lemma settles_acceptResume (hstore : store.Exact) (hacc : Accounted store base (h.party, h.keys))
    (message : Sigma2Resume) (previous : Resumable) :
    Settles store base ((InitiatorCall.acceptResume message previous).Tidy c store h)
      (exec (CaseInitiator.acceptResume c store message previous.val) (h.party, h.keys)) := by
  rw [InitiatorCall.Tidy, CaseInitiator.acceptResume, exec_get_bind]
  dsimp only
  cases hstate : h.party.state with
  | awaitingSigma2 pending =>
    have hkey : h.party.pendingKey = some pending.ephHandle := by rw [CaseInitiator.pendingKey, hstate]
    have hne : h.party.pendingKey ≠ none := hkey ▸ Option.some_ne_none _
    simp only [InitiatorState.awaitingSigma2.injEq, forall_eq']
    cases hs2rk : c.sigma2ResumeKey previous.val.sharedSecret pending.initiatorRandom
        message.resumptionId with
    | error e =>
      rw [exec_bind_error (exec_ofResult _ _)]
      exact .waits (by simp) hacc hne e
    | ok s2rk =>
    simp only [Except.ok.injEq, exists_eq_left']
    rw [exec_bind_ok (exec_ofResult _ _)]
    cases hopen : c.openIn 16 s2rk resume2Nonce message.sigma2ResumeMic with
    | error e =>
      have hfailed : exec (onFailure (ofResult (Except.error e : Except ErrorCode (List UInt8)))
          (CaseInitiator.abandon store)) (h.party, h.keys) =
          (.error e, CaseInitiator.abandon store (h.party, h.keys)) := rfl
      rw [exec_bind_error hfailed]
      exact .taken (by simp [Except.isOk, Except.toBool]) (hacc.abandon hstore)
        fun _ => pendingKey_abandon store (h.party, h.keys)
    | ok opened =>
    have hopened : exec (onFailure (ofResult (Except.ok opened : Except ErrorCode (List UInt8)))
        (CaseInitiator.abandon store)) (h.party, h.keys) = (.ok opened, (h.party, h.keys)) := rfl
    rw [exec_bind_ok hopened]
    cases hsession : c.resumptionSessionKeys previous.val.sharedSecret pending.initiatorRandom
        message.resumptionId with
    | error e =>
      rw [exec_bind_error (exec_ofResult _ _)]
      exact .waits (by simp [Except.isOk, Except.toBool]) hacc hne e
    | ok session =>
      rw [exec_bind_ok (exec_ofResult _ _), exec_bind_ok (hacc.exec_remove hstore hkey),
        exec_bind_ok (exec_setParty _ _)]
      exact .taken (fun _ => rfl) (hacc.removed hstore hkey rfl) fun hfailed => by cases hfailed
  | _ =>
    refine .refused hacc rfl (fun _ => Iff.rfl) (iff_of_true ?_ ?_) .invalidState
    · exact fun pending hpending => by cases hpending
    · rw [CaseInitiator.pendingKey, hstate]

/-- The answer is built with the key, which is then destroyed, or nothing happens. -/
lemma exec_buildSigma3 (hstore : store.Exact) (hacc : Accounted store base s) (sigma2 : Sigma2)
    (fabric : Fabric) (root : MatterCertificate) (noc : List UInt8) (icac : Option (List UInt8))
    (epochS : Option UInt32) (out : Slice) :
    (∃ e, exec (CaseInitiator.buildSigma3 c store sigma2 fabric root noc icac epochS out) s =
      (.error e, s)) ∨
    ∃ answer key, s.1.pendingKey = some key ∧
      exec (CaseInitiator.buildSigma3 c store sigma2 fabric root noc icac epochS out) s =
        (.ok answer, ({ s.1 with state := .done }, (store.remove s.2 key).2)) := by
  rw [CaseInitiator.buildSigma3, exec_get_bind]
  dsimp only
  cases hstate : s.1.state with
  | awaitingSigma2 pending =>
    have hkey : s.1.pendingKey = some pending.ephHandle := by rw [CaseInitiator.pendingKey, hstate]
    dsimp only
    cases store.ecdh s.2 pending.ephHandle sigma2.responderEphPubKey with
    | error e => exact .inl ⟨e, exec_bind_error (exec_ofResult _ _) _⟩
    | ok sharedSecret =>
    rw [exec_bind_ok (exec_ofResult _ _)]
    cases CaseInitiator.sigma3 c store pending sharedSecret sigma2 fabric root noc icac s.2 epochS out with
    | error e => exact .inl ⟨e, exec_bind_error (exec_ofResult _ _) _⟩
    | ok answer =>
      refine .inr ⟨answer, pending.ephHandle, hkey, ?_⟩
      rw [exec_bind_ok (exec_ofResult _ _), exec_bind_ok (hacc.exec_remove hstore hkey),
        exec_bind_ok (exec_setParty _ _)]
      rfl
  | _ => exact .inl ⟨.invalidState, rfl⟩

/-- Whatever becomes of an answer, the key is destroyed. -/
lemma settles_handleSigma2 (hstore : store.Exact) (hacc : Accounted store base (h.party, h.keys))
    (sigma2 : Sigma2) (fabric : Fabric) (root : MatterCertificate) (noc : List UInt8)
    (icac : Option (List UInt8)) (epochS : Option UInt32) (out : Slice) : Settles store base
      ((InitiatorCall.handleSigma2 sigma2 fabric root noc icac epochS out).Tidy c store h)
      (exec (CaseInitiator.handleSigma2 c store sigma2 fabric root noc icac epochS out)
        (h.party, h.keys)) := by
  rw [CaseInitiator.handleSigma2, exec_onFailure]
  rcases exec_buildSigma3 hstore hacc sigma2 fabric root noc icac epochS out with
    ⟨e, hrun⟩ | ⟨answer, key, hkey, hrun⟩
  · rw [hrun]
    exact .taken trivial (hacc.abandon hstore) fun _ => pendingKey_abandon store (h.party, h.keys)
  · rw [hrun]
    exact .taken trivial (hacc.removed hstore hkey rfl) fun hfailed => by cases hfailed

/-! ## Runs of an initiator -/

/-- A call that fails, and a handshake that is done, leave the store with the keys it held at first. -/
structure KeepsKeys {P : Type} (store : KeyStore K) (base : K) (done : P → Prop) (h : Handshake P K) :
    Prop where
  failed : h.failed = true → store.SameKeys h.keys base
  ended : done h.party → store.SameKeys h.keys base

/-- What a call settles is said of the handshake after it. -/
lemma Settles.of_call {α : Type} {tidy : Prop} {x : Machine (CaseInitiator × K) ErrorCode α}
    (hsettles : Settles store base tidy (exec x (h.party, h.keys))) :
    (tidy → Accounted store base ((h.call x).party, (h.call x).keys)) ∧
      (tidy ↔ KeepsKeys store base (fun i => i.state = .done) (h.call x)) := by
  have hnone : ∀ i : CaseInitiator, i.state = .done → i.pendingKey = none := by
    intro i hdone
    rw [CaseInitiator.pendingKey, hdone]
  refine ⟨fun ht => (hsettles.kept ht).1, fun ht => ?_, fun hkeeps => ?_⟩
  · obtain ⟨hacc, hfailed⟩ := hsettles.kept ht
    refine ⟨fun hfail => ?_, fun hdone => hacc.same_iff.mpr (hnone _ hdone)⟩
    exact hacc.same_iff.mpr (hfailed (by simpa [Handshake.call] using hfail))
  · by_contra hnot
    obtain ⟨hfailed, hleft⟩ := hsettles.left hnot
    exact hleft (hkeeps.failed (by rw [Handshake.call, hfailed]; rfl))

/-- After a tidy call the keys are accounted for, and a call is tidy exactly where it keeps them. -/
lemma tidy_iff (hstore : store.Exact)
    (hlength : ∀ key message mac, c.hmac key message = .ok mac → mac.length = 32)
    (hacc : Accounted store base (h.party, h.keys)) (call : InitiatorCall) : (call.Tidy c store h →
      Accounted store base ((call.after c store h).party, (call.after c store h).keys)) ∧
    (call.Tidy c store h ↔ KeepsKeys store base (fun i => i.state = .done) (call.after c store h)) := by
  cases call with
  | start fabric peerNodeId random ephemeral out =>
    exact (settles_start hstore hlength hacc fabric peerNodeId random ephemeral out).of_call
  | startResumption fabric peerNodeId previous random ephemeral out =>
    exact (settles_startResumption hstore hlength hacc fabric peerNodeId previous random ephemeral
      out).of_call
  | handleSigma2 sigma2 fabric root noc icac epochS out =>
    exact (settles_handleSigma2 hstore hacc sigma2 fabric root noc icac epochS out).of_call
  | acceptFinished report => exact (settles_acceptFinished hacc report).of_call
  | acceptResume message previous => exact (settles_acceptResume hstore hacc message previous).of_call

/-! ## Runs of a responder -/

/-- The second state of a store holds the keys of the first. -/
def Kept (store : KeyStore K) (keys keys' : K) : Prop := store.SameKeys keys' keys

instance (store : KeyStore K) : Std.Refl (Kept store) := ⟨fun _ _ => Iff.rfl⟩

instance (store : KeyStore K) : IsTrans K (Kept store) :=
  ⟨fun _ _ _ h h' key => (h' key).trans (h key)⟩

/-- The same of a party with its store. -/
def PartyKept {P : Type} (store : KeyStore K) (s s' : P × K) : Prop := Kept store s.2 s'.2

instance {P : Type} (store : KeyStore K) : Std.Refl (PartyKept store (P := P)) :=
  ⟨fun _ _ => Iff.rfl⟩

instance {P : Type} (store : KeyStore K) : IsTrans (P × K) (PartyKept store (P := P)) :=
  ⟨fun _ _ _ h h' key => (h' key).trans (h key)⟩

lemma moves_setParty {P : Type} (store : KeyStore K) (p : P) : Moves (PartyKept store) (setParty (K := K) p) :=
  .modify fun _ _ => Iff.rfl

lemma moves_onKeys {P α : Type} {x : Machine K ErrorCode α} (h : Moves (Kept store) x) :
    Moves (PartyKept store) (onKeys x : Machine (P × K) ErrorCode α) := fun s => h s.2

lemma moves_onFailure {P α : Type} {x : Machine (P × K) ErrorCode α} (h : Moves (PartyKept store) x)
    {cleanUp : P × K → P × K} (hclean : ∀ s, (cleanUp s).2 = s.2) :
    Moves (PartyKept store) (onFailure x cleanUp) := by
  intro s
  have hfirst := h s
  rw [exec_onFailure]
  rcases hrun : exec x s with ⟨e | a, s'⟩
  · rw [hrun] at hfirst
    rw [PartyKept, hclean]
    exact hfirst
  · rw [hrun] at hfirst
    exact hfirst

/-- The key a responder draws is destroyed, whether or not there is a secret. -/
lemma moves_agree (hstore : store.Exact) (ephemeral : List UInt8) (peer : PublicKey) :
    Moves (Kept store) (CaseResponder.agree store ephemeral peer) := by
  intro keys
  rw [CaseResponder.agree]
  cases hgenerate : (store.generate keys .ephemeral ephemeral).1 with
  | error e =>
    have hrun : exec (ExceptT.mk fun keys => store.generate keys .ephemeral ephemeral) keys =
        (.error e, (store.generate keys .ephemeral ephemeral).2) := congrArg (·, _) hgenerate
    rw [exec_bind_error hrun]
    exact hstore.refused _ _ _ _ hgenerate
  | ok generated =>
    obtain ⟨handle, own⟩ := generated
    have hrun : exec (ExceptT.mk fun keys => store.generate keys .ephemeral ephemeral) keys =
        (.ok (handle, own), (store.generate keys .ephemeral ephemeral).2) := congrArg (·, _) hgenerate
    have hfresh := hstore.fresh _ _ _ _ _ hgenerate
    have hkept : Kept store keys (store.remove (store.generate keys .ephemeral ephemeral).2 handle).2 := by
      intro key
      rw [hstore.removed, hstore.generated _ _ _ _ _ hgenerate]
      constructor
      · rintro ⟨hheld | rfl, hne⟩
        · exact hheld
        · exact absurd rfl hne
      · intro hheld
        refine ⟨.inl hheld, ?_⟩
        rintro rfl
        exact hfresh hheld
    rw [exec_bind_ok hrun, exec_get_bind]
    dsimp only
    have hrest : Moves (Kept store) (do
        let sharedSecret ← ofResult
          (store.ecdh (store.generate keys .ephemeral ephemeral).2 handle peer)
        pure (sharedSecret, own) : Machine K ErrorCode (List UInt8 × PublicKey)) :=
      .bind (.ofResult _) fun _ => .pure _
    rw [exec_bind]
    rcases hremove : store.remove (store.generate keys .ephemeral ephemeral).2 handle with ⟨e | u, keys'⟩
    · have hrun' : exec (ExceptT.mk fun keys => store.remove keys handle)
          (store.generate keys .ephemeral ephemeral).2 = (.error e, keys') := hremove
      rw [hrun']
      rw [hremove] at hkept
      exact hkept
    · have hrun' : exec (ExceptT.mk fun keys => store.remove keys handle)
          (store.generate keys .ephemeral ephemeral).2 = (.ok u, keys') := hremove
      rw [hrun']
      rw [hremove] at hkept
      exact IsTrans.trans _ _ _ hkept (hrest keys')

lemma moves_buildSigma2 (hstore : store.Exact) (r : CaseResponder) (sigma1 : Sigma1) (fabric : Fabric)
    (randomness : Sigma2Randomness) (out : Slice) :
    Moves (Kept store) (r.buildSigma2 c store sigma1 fabric randomness out) :=
  .bind (.ofResult _) fun _ => .bind (.require _ _) fun _ => .bind (moves_agree hstore _ _) fun _ =>
    .bind (.ofResult _) fun _ => .bind (.ofResult _) fun _ => .get fun _ =>
      (Moves.bind (.ofResult _) fun _ => .bind (.ofResult _) fun _ => .bind (.ofResult _) fun _ =>
        .bind (.ofResult _) fun _ => .pure _) _

/-- No call of a responder changes which keys the store holds. -/
lemma moves_responder (hstore : store.Exact) (h : Handshake CaseResponder K) (call : ResponderCall) :
    Kept store h.keys (call.after c store h).keys := by
  cases call with
  | handleSigma1 sigma1 fabric noc icac randomness out =>
    refine (Moves.get fun s => ?_ :
      Moves (PartyKept store) (CaseResponder.handleSigma1 c store sigma1 fabric noc icac randomness out))
        (h.party, h.keys)
    obtain ⟨r, keys⟩ := s
    refine (?_ : Moves (PartyKept store) _) (r, keys)
    exact moves_onFailure (.bind (.require _ _) fun _ =>
      .bind (moves_onKeys (moves_buildSigma2 hstore r sigma1 _ randomness out)) fun _ =>
        .bind (moves_setParty store _) fun _ => .pure _) fun _ => rfl
  | handleSigma1Resumption sigma1 previous random out =>
    refine (Moves.get fun s => ?_ :
      Moves (PartyKept store) (CaseResponder.handleSigma1Resumption c sigma1 previous.val random out))
        (h.party, h.keys)
    obtain ⟨r, keys⟩ := s
    refine (?_ : Moves (PartyKept store) _) (r, keys)
    exact .bind (.require _ _) fun _ => .bind (.ofResult _) fun _ => .bind (.ofResult _) fun _ =>
      .bind (.require _ _) fun _ => .bind (.ofResult _) fun _ => .bind (.ofResult _) fun _ =>
        .bind (.ofResult _) fun _ => .bind (.ofResult _) fun _ => .bind (.ofResult _) fun _ =>
          .bind (.ofResult _) fun _ => .bind (moves_setParty store _) fun _ => .pure _
  | handleSigma3 sigma3 root epochS =>
    refine (Moves.get fun s => ?_ :
      Moves (PartyKept store) (CaseResponder.takeSigma3 c sigma3 root epochS)) (h.party, h.keys)
    obtain ⟨r, keys⟩ := s
    refine (?_ : Moves (PartyKept store) _) (r, keys)
    exact .bind (moves_onFailure (.ofResult _) fun _ => rfl) fun _ =>
      .bind (moves_setParty store _) fun _ => .pure _
  | finished out =>
    refine (Moves.get fun s => ?_ :
      Moves (PartyKept store) (CaseResponder.finished out)) (h.party, h.keys)
    obtain ⟨r, keys⟩ := s
    refine (?_ : Moves (PartyKept store) _) (r, keys)
    exact .bind (.require _ _) fun _ => .ofResult _

end Accounts

/-! ## Handshakes and the keys they leave -/

/-- A responder leaves no key in any run, and an initiator leaves none exactly in the runs of tidy calls. -/
theorem leaves_no_keys {K : Type} (c : CaseCrypto) (store : KeyStore K) (hstore : store.Exact)
    (hlength : ∀ key message mac, c.hmac key message = .ok mac → mac.length = 32) (base : K) :
    (∀ i : CaseInitiator, i.state = .start → ∀ calls : List InitiatorCall,
      (Throughout (fun h call => call.after c store h) (fun h call => call.Tidy c store h) ⟨i, base, false⟩
          calls ↔ ∀ before, before <+: calls → KeepsKeys store base (fun i => i.state = .done)
          (before.foldl (fun h call => InitiatorCall.after c store h call) ⟨i, base, false⟩))) ∧
    ∀ r : CaseResponder, r.state = .awaitingSigma1 → ∀ calls : List ResponderCall,
      KeepsKeys store base (fun r => r.state = .done)
        (calls.foldl (fun h call => ResponderCall.after c store h call) ⟨r, base, false⟩) := by
  have hsame : store.SameKeys base base := fun _ => Iff.rfl
  constructor
  · intro i hstart calls
    have hfirst : Accounted store base (i, base) := .of_same (pendingKey_of_start hstart) hsame
    have hkeeps : KeepsKeys store base (fun i => i.state = .done) (⟨i, base, false⟩ : Handshake _ K) :=
      ⟨fun _ => hsame, fun _ => hsame⟩
    refine Throughout.iff_forall_isPrefix_of
      (I := fun h => Accounted store base (h.party, h.keys) ∧
        KeepsKeys store base (fun i => i.state = .done) h)
      ⟨hfirst, hkeeps⟩ (fun _ hh => hh.2) ?_ ?_
    · intro h call hh htidy
      obtain ⟨hacc, hiff⟩ := tidy_iff hstore hlength hh.1 call
      exact ⟨hacc htidy, hiff.mp htidy⟩
    · exact fun h call hh => (tidy_iff hstore hlength hh.1 call).2
  · intro r _ calls
    have hkept : Kept store base
        (calls.foldl (fun h call => ResponderCall.after c store h call) ⟨r, base, false⟩).keys :=
      foldl_invariant (W := fun _ => True) (I := fun h => Kept store base h.keys)
        (fun h call _ hh => IsTrans.trans _ _ _ hh (moves_responder hstore h call)) (fun _ _ => trivial)
        (Std.Refl.refl base)
    exact ⟨fun _ => hkept, fun _ => hkept⟩

namespace Sample

open Clusters.Sample (keyStore)

lemma holds_keyStore (keys : Clusters.Sample.Keys) (key : KeyHandle) :
    keyStore.Holds keys key ↔ key.val ∈ keys.present := by
  simp only [KeyStore.Holds, keyStore]
  split_ifs with h
  · exact iff_of_true rfl h
  · exact iff_of_false (by simp [Except.isOk, Except.toBool]) h

/-- The store that numbers its keys adds and deletes them one by one. -/
lemma exact_keyStore : keyStore.Exact where
  fresh := by
    intro keys purpose random key publicKey h
    rw [holds_keyStore]
    simp only [keyStore] at h
    split_ifs at h with hused
    · obtain ⟨rfl, -⟩ := Prod.mk.inj (Except.ok.inj h)
      exact hused
  generated := by
    intro keys purpose random key publicKey h other
    rw [holds_keyStore, holds_keyStore]
    simp only [keyStore] at h ⊢
    split_ifs at h ⊢ with hused
    · obtain ⟨rfl, -⟩ := Prod.mk.inj (Except.ok.inj h)
      obtain ⟨number⟩ := other
      simp
  refused := by
    intro keys purpose random e h other
    rw [holds_keyStore, holds_keyStore]
    simp only [keyStore] at h ⊢
    split_ifs at h ⊢ with hused
    · exact Iff.rfl
  removed := by
    intro keys key other
    rw [holds_keyStore, holds_keyStore]
    obtain ⟨number⟩ := other
    obtain ⟨number'⟩ := key
    simp [keyStore]
  removes := fun _ _ _ => rfl

lemma length_hmac : ∀ key message mac, roomyCrypto.hmac key message = .ok mac → mac.length = 32 :=
  roomy_crypto.hmac_length

/-- An initiator that has not been started. -/
def initiator : CaseInitiator := ⟨⟨1⟩, none, .start⟩

lemma random_32 : (List.replicate 32 (6 : UInt8)).length = 32 := List.length_replicate

/-- It is started with room for its message. -/
def startCall : InitiatorCall :=
  .start (FabricTable.sample ⟨1⟩) ⟨5⟩ ⟨List.replicate 32 6, random_32⟩ [] (zeros maxSigma1 maxSigma1_lt)

/-- A report that says there is no root of trust to share.
Source: `sc/status.rs`, `SecureChannelCode::NoSharedTrustRoots`. -/
def refusal : List UInt8 := [1, 0, 0, 0, 0, 0, 1, 0]

end Sample

theorem leaves_no_keys_started : KeepsKeys Clusters.Sample.keyStore ⟨1, []⟩ (fun i => i.state = .done)
      ([Sample.startCall].foldl
        (fun h call => InitiatorCall.after Sample.roomyCrypto Clusters.Sample.keyStore h call)
        ⟨Sample.initiator, ⟨1, []⟩, false⟩) :=
  ((leaves_no_keys Sample.roomyCrypto Clusters.Sample.keyStore Sample.exact_keyStore Sample.length_hmac
    ⟨1, []⟩).1 Sample.initiator rfl [Sample.startCall]).mp
      ⟨⟨rfl, fun _ _ _ => by decide +kernel⟩, trivial⟩ _ List.prefix_rfl

/-- An initiator whose Sigma1 is answered by a refusal fails and leaves its key. -/
theorem leaves_key_refused : ¬ KeepsKeys Clusters.Sample.keyStore ⟨1, []⟩ (fun i => i.state = .done)
      ([Sample.startCall, .acceptFinished Sample.refusal].foldl
        (fun h call => InitiatorCall.after Sample.roomyCrypto Clusters.Sample.keyStore h call)
        ⟨Sample.initiator, ⟨1, []⟩, false⟩) := by
  intro h
  have hheld := (h.failed (by decide +kernel) ⟨1⟩).mp (by decide +kernel)
  exact absurd hheld (by decide +kernel)

end Sc

end MatterKit
