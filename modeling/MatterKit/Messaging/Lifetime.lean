import MatterKit.Messaging.Receive
import MatterKit.Messaging.Run
import MatterKit.Messaging.Send

/-!
# A session only moves forward

Between its installation and its removal a session keeps its id, its keys and its role; what moves
is its outgoing counter, which only grows, and its replay window, which forgets nothing it has
accepted. `SecureSession.Later` is this relation between a session and itself at a later time, and
`later_after` says that every session after a call that installs none is a later state of a session
before it. Replay protection and nonce uniqueness both rest on this one fact.
-/

namespace MatterKit

open Lib

variable {S X : ℕ}

/-! ## Sessions -/

/-- `s'` is `s` at a later time. -/
structure SecureSession.Later (s' s : SecureSession) : Prop where
  localSessionId : s'.localSessionId = s.localSessionId
  keys : s'.keys = s.keys
  role : s'.role = s.role
  /-- No counter that was handed out is handed out again. -/
  bound : s.counter.bound ≤ s'.counter.bound
  kind : s'.window.kind = s.window.kind
  /-- No counter that was accepted is accepted again. -/
  remembers : s.window.kind = .secureUnicast → ∀ n, s.window.Remembers n → s'.window.Remembers n

namespace SecureSession.Later

lemma refl (s : SecureSession) : s.Later s := ⟨rfl, rfl, rfl, le_rfl, rfl, fun _ _ h => h⟩

lemma trans {s₁ s₂ s₃ : SecureSession} (h₁ : s₁.Later s₂) (h₂ : s₂.Later s₃) : s₁.Later s₃ where
  localSessionId := h₁.localSessionId.trans h₂.localSessionId
  keys := h₁.keys.trans h₂.keys
  role := h₁.role.trans h₂.role
  bound := h₂.bound.trans h₁.bound
  kind := h₁.kind.trans h₂.kind
  remembers := fun hk n hn => h₁.remembers (h₂.kind.trans hk) n (h₂.remembers hk n hn)

lemma nextCounter (s : SecureSession) (now : Instant) : (s.nextCounter now).2.Later s where
  localSessionId := rfl
  keys := rfl
  role := rfl
  bound := by
    show s.counter.bound ≤ s.counter.take.2.bound
    rcases h : s.counter.take with ⟨e | v, counter⟩
    · rw [MessageCounter.take_eq_error h]
    · have hnext := (MessageCounter.take_eq_ok h).2
      show s.counter.bound ≤ counter.bound
      omega
  kind := rfl
  remembers := fun _ _ h => h

lemma hear (s : SecureSession) (counter : UInt32) (peer : Peer) (now : Instant) :
    (s.hear counter peer now).2.Later s where
  localSessionId := rfl
  keys := rfl
  role := rfl
  bound := le_rfl
  kind := CounterWindow.accept_kind s.window counter
  remembers := fun hk _ hn => hn.accept hk counter

end SecureSession.Later

/-! ## Tables -/

/-- Every session of `t'` is a later state of a session of `t`, and ids are still unique. -/
structure SessionTable.Later {N : ℕ} (t' t : SessionTable N) : Prop where
  unique : t.Unique → t'.Unique
  sessions : ∀ s' ∈ t'.entries, ∃ s ∈ t.entries, s'.Later s

namespace SessionTable.Later

variable {N : ℕ}

variable (t : SessionTable N)

lemma refl : t.Later t := ⟨id, fun s hs => ⟨s, hs, .refl s⟩⟩

lemma of_entries_eq {t' t : SessionTable N} (h : t'.entries = t.entries) : t'.Later t where
  unique := by
    unfold SessionTable.Unique
    rw [h]
    exact id
  sessions := by
    intro s hs
    rw [h] at hs
    exact ⟨s, hs, .refl s⟩

lemma trans {t₁ t₂ t₃ : SessionTable N} (h₁ : t₁.Later t₂) (h₂ : t₂.Later t₃) : t₁.Later t₃ where
  unique := fun hu => h₁.unique (h₂.unique hu)
  sessions := by
    intro s₁ hs₁
    obtain ⟨s₂, hs₂, h₁₂⟩ := h₁.sessions s₁ hs₁
    obtain ⟨s₃, hs₃, h₂₃⟩ := h₂.sessions s₂ hs₂
    exact ⟨s₃, hs₃, h₁₂.trans h₂₃⟩

lemma modify (id : SessionId) {f : SecureSession → SecureSession} (hf : ∀ s, (f s).Later s) :
    (t.modify id f).Later t where
  unique := fun hu => hu.modify id fun s => (hf s).localSessionId
  sessions := by
    intro s' hs'
    rcases mem_modifyFirst hs' with hs | ⟨s, hs, -, rfl⟩
    · exact ⟨s', hs, .refl s'⟩
    · exact ⟨s, hs, hf s⟩

lemma remove (id : SessionId) : (t.remove id).Later t where
  unique := fun hu => hu.remove id
  sessions := fun s hs => ⟨s, mem_of_mem_remove hs, .refl s⟩

lemma removeFabric (fabric : FabricIndex) : (t.removeFabric fabric).Later t where
  unique := fun hu => KeysUnique.filter hu _
  sessions := fun s hs => ⟨s, List.mem_of_mem_filter hs, .refl s⟩

end SessionTable.Later

/-! ## Every call -/

namespace Messaging

variable (m : Messaging S X)

lemma later_nextCounter (session : SessionId) (now : Instant) :
    (m.nextCounter session now).2.sessions.Later m.sessions := by
  rcases sessions_nextCounter m session now with h | h
  · rw [h]
    exact .refl _
  · rw [h]
    exact .modify _ _ fun s => .nextCounter s now

lemma later_judged (header : MessageHeader) (peer : Peer) (now : Instant) :
    (m.judged header peer now).sessions.Later m.sessions := by
  unfold judged
  split
  · exact .refl _
  · exact .modify _ _ fun s => .hear s header.messageCounter peer now

lemma later_receive (c : Crypto) (m : Messaging S X) (buf : List UInt8) (peer : Peer)
    (now : Instant) : (m.receive c buf peer now).2.sessions.Later m.sessions := by
  rcases h : m.authenticate c buf with err | ⟨sid⟩ | ⟨sid, header, payload⟩
  · unfold receive
    rw [h]
    exact .refl _
  · unfold receive
    rw [h]
    exact .refl _
  · rw [receive_message h]
    have hjudged := later_judged m header peer now
    rcases sessions_process (m.judged header peer now) header payload (m.verdict header) peer now
      with hsame | hremoved
    · rw [hsame]
      exact hjudged
    · rw [hremoved]
      exact (SessionTable.Later.remove _ _).trans hjudged

/-- Opening an exchange leaves the sessions alone. -/
lemma sessions_openUnsecuredWith (protocol : ProtocolId) (peer : Option Peer) (now : Instant)
    (randomness : UInt64) :
    (m.openUnsecuredWith protocol peer now randomness).2.sessions = m.sessions := by
  unfold openUnsecuredWith openUnsecuredAsInitiator
  split
  · rename_i h
    split at h
    · cases h
    · cases h
      rfl
  · rename_i h
    split at h
    · cases h
      rfl
    · cases h

lemma sessions_poll (now : Instant) (randomness : UInt32) :
    (m.poll now randomness).2.sessions = m.sessions := by
  unfold poll
  simp only
  split
  · rfl
  · split
    · rfl
    · split <;> rfl

/-- **A session only moves forward**: after a call that installs none, every session is a later
state of one that was there. -/
lemma later_after (c : Crypto) (m : Messaging S X) {call : Call} (h : call.installs = []) :
    (m.after c call).sessions.Later m.sessions := by
  cases call with
  | allocateId => exact .of_entries_eq (SessionTable.entries_allocateIdLoop 65536 m.sessions)
  | installSession session now randomness scratchLen outLen => simp [Call.installs] at h
  | setFabric session fabric =>
    exact .modify _ _ fun s => ⟨rfl, rfl, rfl, le_rfl, rfl, fun _ _ hn => hn⟩
  | closeSession session => exact .remove _ _
  | removeFabric fabric => exact .removeFabric _ _
  | openExchange session protocol now =>
    show (m.openExchange session protocol now).2.sessions.Later m.sessions
    unfold openExchange
    split <;> exact .refl _
  | openTo session protocol peer now =>
    show (m.openTo session protocol peer now).2.sessions.Later m.sessions
    unfold openTo
    split <;> exact .refl _
  | openUnsecured protocol now randomness =>
    exact .of_entries_eq (congrArg _ (sessions_openUnsecuredWith m protocol none now randomness))
  | openUnsecuredTo protocol peer now randomness =>
    exact .of_entries_eq (congrArg _ (sessions_openUnsecuredWith m protocol (some peer) now randomness))
  | openUnsecuredAsInitiator ephemeral =>
    show (m.openUnsecuredAsInitiator ephemeral).2.sessions.Later m.sessions
    unfold openUnsecuredAsInitiator
    split <;> exact .refl _
  | closeUnsecured | close exchange | register protocols | setPrivacy privacy => exact .refl _
  | receive buf peer now => exact later_receive c m buf peer now
  | send exchange opcode reliable payload now randomness scratchLen outLen =>
    unfold after
    rw [sessions_send]
    split
    · exact later_nextCounter m exchange.session now
    · exact .refl _
  | acknowledge exchange now outLen =>
    unfold after
    rw [sessions_acknowledge]
    split
    · exact later_nextCounter m exchange.session now
    · exact .refl _
  | poll now randomness => exact .of_entries_eq (congrArg _ (sessions_poll m now randomness))

end Messaging

end MatterKit
