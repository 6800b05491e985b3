import MatterKit.Messaging.Run

/-!
# What sending a message can do

`send` and `acknowledge` both stamp a message (the owed acknowledgement is cleared, a counter is taken)
and frame it. On the session table this leaves at most one trace, a counter taken from the session of
the exchange, and it does so whether or not the framing succeeds: `sessions_send`,
`sessions_acknowledge`.

On a secure session the framing makes one AEAD call. `encrypted` names the message a call of the
interface encrypts, with that AEAD call (`encrypted_eq_some`).
-/

namespace MatterKit

open Lib

variable {S X : ℕ}

namespace Messaging

/-- Stamping does to the sessions what taking a counter does. -/
lemma sessions_stamp (m : Messaging S X) (key : ExchangeKey) (header : ProtocolHeader)
    (payload : List UInt8) (now : Instant) : (m.stamp key header payload now).2.sessions =
      (m.nextCounter key.session now).2.sessions := by
  have hsame : ((m.updateExchange key fun e => { e with mrp := e.mrp.takePiggyback.2 }).nextCounter
      key.session now).2.sessions = (m.nextCounter key.session now).2.sessions := by
    unfold nextCounter updateExchange
    split
    · rfl
    · simp only
      split
      · rfl
      · rfl
  rw [← hsame]
  unfold stamp
  simp only
  split
  · rename_i h
    rw [h]
  · rename_i h
    rw [h]

lemma sessions_recordSend (m : Messaging S X) (key : ExchangeKey) (counter : UInt32)
    (now : Instant) (randomness : UInt32) :
    (m.recordSend key counter now randomness).2.sessions = m.sessions := by
  unfold recordSend
  split
  · rfl
  · split
    · rfl
    · rfl

/-- A message on an open exchange takes a counter from its session; on any other it is refused. -/
lemma sessions_send (c : Crypto) (m : Messaging S X) (key : ExchangeKey) (opcode : UInt8)
    (reliable : Bool) (payload : List UInt8) (now : Instant) (randomness : UInt32) (scratchLen outLen : ℕ) :
    (m.send c key opcode reliable payload now randomness scratchLen outLen).2.sessions =
      if (m.exchanges.find key).isSome then (m.nextCounter key.session now).2.sessions
      else m.sessions := by
  unfold send
  rcases hfind : m.exchanges.find key with _ | e
  · rfl
  · simp only [Option.isSome_some, if_true]
    rw [← sessions_stamp m key
      (sendHeader key e opcode (reliable && !e.isTransportReliable)) payload now]
    split
    · rename_i h
      rw [h]
    · rename_i o m₁ h
      rw [h]
      have hrecord := sessions_recordSend m₁ key o.counter now randomness
      split
      · rfl
      · split
        · split
          · rename_i h'
            rw [h'] at hrecord
            exact hrecord
          · rename_i h'
            rw [h'] at hrecord
            exact hrecord
        · rfl

lemma sessions_closeIfEphemeral (m : Messaging S X) (key : ExchangeKey) (ephemeral : Bool) :
    (m.closeIfEphemeral key ephemeral).sessions = m.sessions := by
  unfold closeIfEphemeral
  split
  · rfl
  · rfl

/-- An acknowledgement that is owed takes a counter from its session. -/
lemma sessions_acknowledge (c : Crypto) (m : Messaging S X) (key : ExchangeKey) (now : Instant)
    (outLen : ℕ) : (m.acknowledge c key now outLen).2.sessions =
      if ((m.exchanges.find key).bind fun e => e.mrp.pendingAck).isSome then
        (m.nextCounter key.session now).2.sessions
      else m.sessions := by
  unfold acknowledge
  rcases hfind : m.exchanges.find key with _ | e
  · rfl
  · rcases hack : e.mrp.pendingAck with _ | ack
    · simp only [Mrp.takePiggyback, hack, Option.map_none, Option.bind_some, Option.isSome_none,
        Bool.false_eq_true, if_false]
      exact sessions_closeIfEphemeral m key e.ephemeral
    · simp only [Mrp.takePiggyback, hack, Option.map_some, Option.bind_some, Option.isSome_some, if_true]
      rw [← sessions_stamp m key (standaloneAckHeader key ack.counter) [] now]
      split
      · rename_i h
        rw [h]
      · rename_i o m₁ h
        rw [h]
        split
        · rfl
        · exact sessions_closeIfEphemeral m₁ key e.ephemeral

/-- Taking a counter touches at most the session it is taken from. -/
lemma sessions_nextCounter (m : Messaging S X) (session : SessionId) (now : Instant) :
    (m.nextCounter session now).2.sessions = m.sessions ∨ (m.nextCounter session now).2.sessions =
        m.sessions.modify session fun s => (s.nextCounter now).2 := by
  unfold nextCounter
  split
  · exact .inl rfl
  · split
    · exact .inl rfl
    · exact .inr rfl

/-! ## The counter a message goes out with -/

variable {m m' : Messaging S X} {now : Instant} {o : Outgoing} {aead : AeadCall} {call : Call}

/-- On a secure session the counter is the session's next one, and the session has spent it. -/
lemma nextCounter_eq_ok {session : SessionId} {counter : UInt32}
    (h : m.nextCounter session now = (.ok counter, m')) (hsecure : session ≠ .unsecured) :
    ∃ s, m.sessions.find session = some s ∧ counter.toNat = s.counter.bound ∧
      (s.nextCounter now).2.counter.bound = s.counter.bound + 1 ∧
      m'.sessions = m.sessions.modify session fun s => (s.nextCounter now).2 := by
  unfold nextCounter at h
  rw [if_neg hsecure] at h
  split at h
  · simp at h
  · rename_i s hs
    obtain ⟨hcounter, rfl⟩ := Prod.mk.inj h
    have htake : s.counter.take = (.ok counter, s.counter.take.2) := Prod.ext hcounter rfl
    obtain ⟨hat, hspent⟩ := MessageCounter.take_eq_ok htake
    exact ⟨s, hs, hat, hspent, rfl⟩

/-- Stamping a message; on a secure session it carries the session's next counter. -/
lemma stamp_eq_ok {key : ExchangeKey} {header : ProtocolHeader} {payload : List UInt8}
    (h : m.stamp key header payload now = (.ok o, m')) :
    o.session = key.session ∧ o.header = header ∧ o.payload = payload ∧
      (key.session ≠ .unsecured → ∃ s, m.sessions.find key.session = some s ∧
        o.counter.toNat = s.counter.bound ∧ (s.nextCounter now).2.counter.bound = s.counter.bound + 1 ∧
        m'.sessions = m.sessions.modify key.session fun s => (s.nextCounter now).2) := by
  unfold stamp at h
  simp only at h
  split at h
  · simp at h
  · rename_i counter m₁ hnext
    obtain ⟨rfl, rfl⟩ : _ ∧ _ := by simpa using h
    refine ⟨rfl, rfl, rfl, ?_⟩
    intro hsecure
    have hspent := nextCounter_eq_ok hnext hsecure
    exact hspent

/-! ## What a call encrypts -/

/-- The AEAD call that `frame` makes for a message on a secure session, or the error that stops it
first. -/
def frameCall (m : Messaging S X) (o : Outgoing) (scratchLen outLen : ℕ) :
    Except ErrorCode AeadCall := do
  let body ← joinBody o.header o.payload scratchLen
  ensure (o.session ≠ .unsecured) .invalidState
  let found ← okOr (m.sessions.find o.session) .noSession
  protectCall (m.secureHeader found o.counter) found.sendNonceSource body
    (found.keys.sending found.role) outLen

/-- What a call hands to `frame`: the message, the state it is framed in, and the sizes of the two
buffers. -/
def stamped (m : Messaging S X) : Call → Option (Outgoing × Messaging S X × ℕ × ℕ)
  | .send exchange opcode reliable payload now _ scratchLen outLen =>
    match m.exchanges.find exchange with
    | none => none
    | some e =>
      let reliable := reliable && !e.isTransportReliable
      match m.stamp exchange (sendHeader exchange e opcode reliable) payload now with
      | (.error _, _) => none
      | (.ok o, m) => some (o, m, scratchLen, outLen)
  | .acknowledge exchange now outLen =>
    match (m.exchanges.find exchange).bind fun e => e.mrp.takePiggyback.1 with
    | none => none
    | some acknowledged =>
      match m.stamp exchange (standaloneAckHeader exchange acknowledged) [] now with
      | (.error _, _) => none
      | (.ok o, m) => some (o, m, protocolHeaderMax, outLen)
  | _ => none

/-- The message a call encrypts, with the AEAD call it makes for it. -/
def encrypted (m : Messaging S X) (call : Call) : Option (Outgoing × AeadCall) :=
  match m.stamped call with
  | none => none
  | some (o, m, scratchLen, outLen) =>
    match m.frameCall o scratchLen outLen with
    | .error _ => none
    | .ok aead => some (o, aead)

/-- What the AEAD call of a framed message is made of. -/
lemma frameCall_eq_ok {scratchLen outLen : ℕ} (h : m.frameCall o scratchLen outLen = .ok aead) :
    o.session ≠ .unsecured ∧ ∃ s, m.sessions.find o.session = some s ∧
      aead.key = (s.keys.sending s.role).encryption ∧ aead.aad = (m.secureHeader s o.counter).octets ∧
      aead.plaintext = o.header.octets ++ o.payload := by
  unfold frameCall at h
  obtain ⟨body, hbody, h⟩ := bind_eq_ok.mp h
  obtain ⟨_, hsecure, h⟩ := bind_eq_ok.mp h
  obtain ⟨s, hs, h⟩ := bind_eq_ok.mp h
  refine ⟨ensure_eq_ok.mp hsecure, s, okOr_eq_ok.mp hs, ?_⟩
  have hjoined : body = o.header.octets ++ o.payload := by
    unfold joinBody at hbody
    obtain ⟨head, hhead, hbody⟩ := bind_eq_ok.mp hbody
    obtain ⟨_, -, hbody⟩ := bind_eq_ok.mp hbody
    rw [ProtocolHeader.encode_eq] at hhead
    split at hhead
    · cases hhead
      cases hbody
      rfl
    · cases hhead
  unfold protectCall at h
  obtain ⟨_, -, h⟩ := bind_eq_ok.mp h
  obtain ⟨_, -, h⟩ := bind_eq_ok.mp h
  obtain ⟨aad, haad, h⟩ := bind_eq_ok.mp h
  obtain ⟨source, -, h⟩ := bind_eq_ok.mp h
  obtain ⟨_, -, h⟩ := bind_eq_ok.mp h
  obtain ⟨_, -, h⟩ := bind_eq_ok.mp h
  cases h
  rw [MessageHeader.encode_eq] at haad
  split at haad
  · cases haad
    exact ⟨rfl, rfl, hjoined⟩
  · cases haad

/-- A call that stamps a message does nothing to the sessions beyond that. -/
lemma stamped_eq_some {scratchLen outLen : ℕ} (h : m.stamped call = some (o, m', scratchLen, outLen)) :
    ∃ key header payload now, m.stamp key header payload now = (.ok o, m') ∧
      ∀ c, (m.after c call).sessions = m'.sessions := by
  cases call with
  | send exchange opcode reliable payload now randomness scratchLen' outLen' =>
    simp only [stamped] at h
    split at h
    · cases h
    · rename_i e he
      split at h
      · cases h
      · rename_i o' m₁ hstamp
        cases h
        refine ⟨_, _, _, _, hstamp, ?_⟩
        intro c
        show (m.send c exchange opcode reliable payload now randomness scratchLen outLen).2.sessions =
          m'.sessions
        have hsessions := congrArg (fun p => p.2.sessions) hstamp
        rw [sessions_stamp] at hsessions
        rw [sessions_send, he, ← hsessions]
        rfl
  | acknowledge exchange now outLen' =>
    simp only [stamped] at h
    split at h
    · cases h
    · rename_i acknowledged hack
      split at h
      · cases h
      · rename_i o' m₁ hstamp
        cases h
        refine ⟨_, _, _, _, hstamp, ?_⟩
        intro c
        show (m.acknowledge c exchange now outLen).2.sessions = m'.sessions
        have hsessions := congrArg (fun p => p.2.sessions) hstamp
        rw [sessions_stamp] at hsessions
        have howed : ((m.exchanges.find exchange).bind fun e => e.mrp.pendingAck).isSome := by
          rw [Option.bind_eq_some_iff] at hack
          obtain ⟨e, he, hpiggy⟩ := hack
          rw [Mrp.takePiggyback, Option.map_eq_some_iff] at hpiggy
          obtain ⟨ack, hack, -⟩ := hpiggy
          simp [he, hack]
        rw [sessions_acknowledge, if_pos howed, ← hsessions]
  | _ => cases h

/-- **What a call encrypts.** The message is on a secure session and carries its next counter; the
AEAD call is made with the session's key, over a header with that counter and over the message; and
the session has spent the counter afterwards, whatever the call returned. -/
lemma encrypted_eq_some (h : m.encrypted call = some (o, aead)) :
    ∃ (s : SecureSession) (now : Instant) (header : MessageHeader), m.sessions.find o.session = some s ∧
      aead.key = (s.keys.sending s.role).encryption ∧
      aead.aad = header.octets ∧ header.messageCounter = o.counter ∧
      aead.plaintext = o.header.octets ++ o.payload ∧ o.counter.toNat = s.counter.bound ∧
      (s.nextCounter now).2.counter.bound = s.counter.bound + 1 ∧ ∀ c, (m.after c call).sessions =
        m.sessions.modify o.session fun s => (s.nextCounter now).2 := by
  unfold encrypted at h
  split at h
  · cases h
  · rename_i o' m' scratchLen outLen hstamped
    split at h
    · cases h
    · rename_i aead' hframe
      cases h
      obtain ⟨hsecure, s', hs', hkey, haad, hplain⟩ := frameCall_eq_ok hframe
      obtain ⟨key, header, payload, now, hstamp, hafter⟩ := stamped_eq_some hstamped
      obtain ⟨hsession, -, -, hspent⟩ := stamp_eq_ok hstamp
      rw [← hsession] at hspent
      obtain ⟨s, hs, hcounter, hbound, hsessions⟩ := hspent hsecure
      rw [hsessions, SessionTable.find_modify _ _ _ fun s => s.localSessionId_nextCounter now,
        if_pos rfl, hs] at hs'
      obtain rfl : (s.nextCounter now).2 = s' := Option.some.inj hs'
      refine ⟨s, now, m'.secureHeader (s.nextCounter now).2 o.counter, hs, hkey, haad, rfl, hplain,
        hcounter, hbound, ?_⟩
      intro c
      rw [hafter c, hsessions]

/-- The session of an encrypted message has spent its counter. -/
lemma spent_of_encrypted {c : Crypto} (h : m.encrypted call = some (o, aead))
    (hu : m.sessions.Unique) {s' : SecureSession} (hs' : s' ∈ (m.after c call).sessions.entries)
    (hid' : s'.localSessionId = o.session) : o.counter.toNat < s'.counter.bound := by
  obtain ⟨s, now, _, hs, -, -, -, -, hcounter, hbound, hafter⟩ := encrypted_eq_some h
  obtain ⟨hmem, hid⟩ := SessionTable.find_eq_some hs
  rw [hafter] at hs'
  rcases (SessionTable.mem_modify_iff hu).mp hs' with ⟨-, hne⟩ | ⟨s₀, hs₀, hid₀, rfl⟩
  · exact absurd hid' hne
  · obtain rfl : s₀ = s := KeysUnique.eq_of_key_eq hu hs₀ hmem (hid₀.trans hid.symm)
    omega

end Messaging

end MatterKit
