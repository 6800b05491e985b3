import MatterKit.Lib.Runs
import MatterKit.Messaging.Delivery

/-!
# Nonces

An AEAD call is made with a key and a nonce, and a node must never make two with the same of both. The
nonce of a message is made of its security flags, its counter and a node id; two messages of a session
differ in the counter, which the session spends, and two sessions differ in the key. An installation
makes a call too: it reports to the peer of the session it evicts, with that session's key.
-/

namespace MatterKit

open Lib

variable {S X : ℕ} {c : Crypto}

/-- Nonces tell counters apart. -/
lemma nonce_counter_inj {flags flags' : UInt8} {counter counter' : UInt32} {source source' : NodeId}
    (h : nonce flags counter source = nonce flags' counter' source') : counter = counter' := by
  rw [nonce, nonce, List.append_assoc, List.append_assoc] at h
  obtain ⟨-, hrest⟩ := List.append_inj h (by simp)
  obtain ⟨hcounter, -⟩ := List.append_inj hrest (by simp)
  have hnat := congrArg ofLe hcounter
  rw [Cursor.leU32, Cursor.leU32, ofLe_leBytes_of_lt counter.toNat_lt, ofLe_leBytes_of_lt counter'.toNat_lt] at hnat
  exact UInt32.toNat_inj.mp hnat

/-- The nonce of a message has its counter. -/
lemma Messaging.nonce_of_encrypted {m : Messaging S X} {call : Call} {o : Outgoing} {aead : AeadCall}
    (h : m.encrypted call = some (o, aead)) : ∃ flags source, aead.nonce = nonce flags o.counter source := by
  unfold encrypted at h
  split at h
  · cases h
  · rename_i o' m' scratchLen outLen _
    split at h
    · cases h
    · rename_i aead' hframe
      cases h
      unfold frameCall protectCall at hframe
      simp only [bind_eq_ok, pure_eq_ok, Except.ok.injEq] at hframe
      obtain ⟨_, -, _, -, s, -, _, -, _, -, _, -, source, -, _, -, _, -, rfl⟩ := hframe
      exact ⟨_, source, rfl⟩

/-- The key a session encrypts with. -/
def SecureSession.encryptionKey (s : SecureSession) : SymmetricKey := (s.keys.sending s.role).encryption

lemma SecureSession.Later.encryptionKey {s s' : SecureSession} (h : s'.Later s) :
    s'.encryptionKey = s.encryptionKey := by
  rw [SecureSession.encryptionKey, h.keys, h.role, SecureSession.encryptionKey]

namespace Messaging

/-- The calls with which an installation makes room: a report to the session that has to go, and its end.
Source: `Messaging::install_session`, up to `self.sessions.insert`. -/
def makesRoom (m : Messaging S X) (now : Instant) (randomness : UInt32) (scratchLen outLen : ℕ) : List Call :=
  if m.sessions.len < S then []
  else
    match m.sessions.leastRecentlyUsed with
    | none => []
    | some victim =>
      .openExchange victim .secureChannel now ::
        match (m.openExchange victim .secureChannel now).1 with
        | .error _ => []
        | .ok exchange =>
          [.send exchange opcodeStatusReport false [0, 0, 0, 0, 0, 0, 3, 0] now randomness scratchLen outLen,
            .closeSession victim]

/-- An installation makes room, and then inserts the session or does not come to that. -/
lemma sessions_installSession (c : Crypto) (m : Messaging S X) (session : SecureSession) (now : Instant)
    (randomness : UInt32) (scratchLen outLen : ℕ) :
    let m' := (m.makesRoom now randomness scratchLen outLen).foldl (after c) m
    let installed := (m.installSession c session now randomness scratchLen outLen).2.sessions
    installed = m'.sessions ∨ installed = (m'.sessions.insert session).2 := by
  unfold makesRoom installSession
  split_ifs
  · right
    rcases hinsert : m.sessions.insert session with ⟨_ | _, t⟩ <;> simp [hinsert]
  · rcases m.sessions.leastRecentlyUsed with _ | victim
    · exact .inl rfl
    · rcases hopen : m.openExchange victim .secureChannel now with ⟨_ | exchange, m₁⟩
      · left
        simp only [StatusReport.closeSession_encode, List.foldl_cons, List.foldl_nil, after, hopen]
      · right
        simp only [StatusReport.closeSession_encode, List.foldl_cons, List.foldl_nil, after, hopen]
        split
        · rename_i hinsert
          rw [hinsert]
        · rename_i hinsert
          rw [hinsert]

end Messaging

/-- A node, and the AEAD calls it has made. -/
structure Encrypting (S X : ℕ) where
  node : Messaging S X
  log : List AeadCall

namespace Encrypting

/-- One call of the interface that is no installation. -/
def plain (c : Crypto) (e : Encrypting S X) (call : Call) : Encrypting S X where
  node := e.node.after c call
  log := e.log ++ ((e.node.encrypted call).map Prod.snd).toList

/-- One call of the interface. -/
def step (c : Crypto) (e : Encrypting S X) : Call → Encrypting S X
  | .installSession session now randomness scratchLen outLen =>
    { ((e.node.makesRoom now randomness scratchLen outLen).foldl (plain c) e) with
      node := e.node.after c (.installSession session now randomness scratchLen outLen) }
  | call => e.plain c call

/-- A key that no session encrypts with, and no call was made with. -/
structure Unused (e : Encrypting S X) (key : SymmetricKey) : Prop where
  sessions : ∀ s ∈ e.node.sessions.entries, s.encryptionKey ≠ key
  log : ∀ a ∈ e.log, a.key ≠ key

/-- No two sessions share an id or a key, no two calls key and nonce, and a session has spent the counter
of every call with its key. -/
structure Fresh (e : Encrypting S X) : Prop where
  ids : e.node.sessions.Unique
  keys : ∀ s ∈ e.node.sessions.entries, ∀ t ∈ e.node.sessions.entries,
    s.encryptionKey = t.encryptionKey → s.localSessionId = t.localSessionId
  spent : ∀ a ∈ e.log, ∃ flags counter source, a.nonce = nonce flags counter source ∧
    ∀ s ∈ e.node.sessions.entries, s.encryptionKey = a.key → counter.toNat < s.counter.bound
  nodup : (e.log.map fun a => (a.key, a.nonce)).Nodup

variable {e : Encrypting S X} {call : Call} {key : SymmetricKey} {session : SecureSession}

lemma Unused.plain (h : e.Unused key) (hcall : call.installs = []) : (e.plain c call).Unused key := by
  refine ⟨?_, ?_⟩
  · intro s hs
    obtain ⟨s₀, hs₀, hlater⟩ := (Messaging.later_after c e.node hcall).sessions s hs
    rw [hlater.encryptionKey]
    exact h.sessions s₀ hs₀
  · intro a ha
    rcases List.mem_append.mp ha with hold | hnew
    · exact h.log a hold
    · obtain ⟨⟨o, a'⟩, henc, rfl⟩ := Option.map_eq_some_iff.mp (Option.mem_toList.mp hnew)
      obtain ⟨s, -, -, hs, hkey, -⟩ := Messaging.encrypted_eq_some henc
      exact fun hsame => h.sessions s (SessionTable.find_eq_some hs).1 (hkey.symm.trans hsame)

/-- What is spent stays spent. -/
lemma Fresh.later (h : e.Fresh) {m : Messaging S X} (hm : m.sessions.Later e.node.sessions) :
    (⟨m, e.log⟩ : Encrypting S X).Fresh := by
  refine ⟨hm.unique h.ids, ?_, ?_, h.nodup⟩
  · intro s hs t ht hkey
    obtain ⟨s₀, hs₀, hslater⟩ := hm.sessions s hs
    obtain ⟨t₀, ht₀, htlater⟩ := hm.sessions t ht
    rw [hslater.encryptionKey, htlater.encryptionKey] at hkey
    rw [hslater.localSessionId, htlater.localSessionId]
    exact h.keys s₀ hs₀ t₀ ht₀ hkey
  · intro a ha
    obtain ⟨flags, counter, source, hnonce, hspent⟩ := h.spent a ha
    refine ⟨flags, counter, source, hnonce, ?_⟩
    intro s hs hkey
    obtain ⟨s₀, hs₀, hlater⟩ := hm.sessions s hs
    rw [hlater.encryptionKey] at hkey
    exact lt_of_lt_of_le (hspent s₀ hs₀ hkey) hlater.bound

/-- A call that installs no session spends the counter it encrypts with, if it encrypts. -/
lemma Fresh.plain (h : e.Fresh) (hcall : call.installs = []) : (e.plain c call).Fresh := by
  have hlater := Messaging.later_after c e.node hcall
  have hkept := h.later hlater
  unfold Encrypting.plain
  cases henc : e.node.encrypted call with
  | none => simpa using hkept
  | some p =>
    obtain ⟨o, aead⟩ := p
    obtain ⟨s, now, header, hs, hkey, -, -, -, hcounter, -, -⟩ := Messaging.encrypted_eq_some henc
    obtain ⟨flags, source, hnonce⟩ := Messaging.nonce_of_encrypted henc
    obtain ⟨hmem, hid⟩ := SessionTable.find_eq_some hs
    refine ⟨hkept.ids, hkept.keys, ?_, ?_⟩
    · intro a ha
      rcases List.mem_append.mp ha with hold | hnew
      · exact hkept.spent a hold
      · obtain rfl : a = aead := by simpa using hnew
        refine ⟨flags, o.counter, source, hnonce, ?_⟩
        intro s' hs' hkey'
        obtain ⟨s₀, hs₀, hslater⟩ := hlater.sessions s' hs'
        rw [hslater.encryptionKey] at hkey'
        have hsame := h.keys s₀ hs₀ s hmem (hkey'.trans hkey)
        exact Messaging.spent_of_encrypted henc h.ids hs' (hslater.localSessionId.trans (hsame.trans hid))
    · rw [Option.map_some, Option.toList_some]
      refine KeysUnique.append_singleton h.nodup ?_
      intro a ha heq
      obtain ⟨hkeys, hnonces⟩ := Prod.mk.inj heq
      obtain ⟨flags', counter, source', hnonce', hspent⟩ := h.spent a ha
      rw [hnonce', hnonce] at hnonces
      have hlt := hspent s hmem (hkey.symm.trans hkeys.symm)
      rw [nonce_counter_inj hnonces] at hlt
      omega

/-- A session with a key of its own spends nothing that was spent before. -/
lemma Fresh.insert (h : e.Fresh) (hkey : e.Unused session.encryptionKey) {m : Messaging S X}
    (hm : m.sessions = (e.node.sessions.insert session).2) : (⟨m, e.log⟩ : Encrypting S X).Fresh := by
  rcases e.node.sessions.insert_cases session with ⟨-, hfree, t, hinsert, hentries⟩ | ⟨_, hinsert⟩
  · rw [hinsert] at hm
    have hmem : ∀ s ∈ t.entries, s ∈ e.node.sessions.entries ∨ s = session := by
      intro s hs
      rwa [hentries, List.mem_append, List.mem_singleton] at hs
    refine ⟨?_, ?_, ?_, h.nodup⟩
    · rw [SessionTable.Unique, hm, hentries]
      exact KeysUnique.append_singleton h.ids (SessionTable.find_eq_none_iff.mp hfree)
    · intro s hs s' hs' hsame
      rw [hm] at hs hs'
      rcases hmem s hs with hs | rfl <;> rcases hmem s' hs' with hs' | rfl
      · exact h.keys s hs s' hs' hsame
      · exact absurd hsame (hkey.sessions s hs)
      · exact absurd hsame.symm (hkey.sessions s' hs')
      · rfl
    · intro a ha
      obtain ⟨flags, counter, source, hnonce, hspent⟩ := h.spent a ha
      refine ⟨flags, counter, source, hnonce, ?_⟩
      intro s hs hsame
      rw [hm] at hs
      rcases hmem s hs with hs | rfl
      · exact hspent s hs hsame
      · exact absurd hsame.symm (hkey.log a ha)
  · rw [hinsert] at hm
    exact h.later (.of_entries_eq (congrArg _ hm))

/-- An installed session has a key that has not been used. -/
def BringsKey (e : Encrypting S X) : Call → Prop
  | .installSession session _ _ _ _ => e.Unused session.encryptionKey
  | _ => True

/-- A call that brings a key of its own leaves every nonce to come unused. -/
lemma Fresh.step (h : e.Fresh) (hcall : e.BringsKey call) : (e.step c call).Fresh := by
  cases call with
  | installSession session now randomness scratchLen outLen =>
    have hroom : ∀ call ∈ e.node.makesRoom now randomness scratchLen outLen, call.installs = [] := by
      unfold Messaging.makesRoom
      split_ifs
      · simp
      · split
        · simp
        · split <;> simp [Call.installs]
    obtain ⟨hfresh, hunused⟩ := foldl_invariant (W := fun call : Call => call.installs = [])
      (I := fun e : Encrypting S X => e.Fresh ∧ e.Unused session.encryptionKey)
      (fun _ _ hcall h => ⟨h.1.plain (c := c) hcall, h.2.plain hcall⟩) hroom ⟨h, hcall⟩
    have hnode : (e.node.makesRoom now randomness scratchLen outLen).foldl (Messaging.after c) e.node =
        ((e.node.makesRoom now randomness scratchLen outLen).foldl (Encrypting.plain c) e).node :=
      List.foldl_hom Encrypting.node fun _ _ => rfl
    have hsessions := e.node.sessions_installSession c session now randomness scratchLen outLen
    rw [hnode] at hsessions
    rcases hsessions with hsame | hinsert
    · exact hfresh.later (.of_entries_eq (congrArg _ hsame))
    · exact hfresh.insert hunused hinsert
  | _ => exact h.plain rfl

/-- **No nonce is used twice.** In every run of a node whose installed sessions bring keys that have not
been used, no two AEAD calls are made with the same key and nonce, whatever the calls return. -/
theorem nonces_differ {s x : UInt16} {n : UInt32} {calls : List Call}
    (hcalls : Throughout (step c) BringsKey (⟨.new s x n, []⟩ : Encrypting S X) calls) :
    ((calls.foldl (step c) (⟨.new s x n, []⟩ : Encrypting S X)).log.map fun a => (a.key, a.nonce)).Nodup := by
  have hstart : (⟨.new s x n, []⟩ : Encrypting S X).Fresh :=
    ⟨List.nodup_nil, by simp [Messaging.new], by simp, List.nodup_nil⟩
  exact (Throughout.invariant (fun _ _ h hcall => h.step hcall) hstart hcalls).nodup

/-- A session and the same message on it, twice. -/
def twoSends : List Call :=
  let key : ExchangeKey := ⟨⟨1⟩, ⟨1⟩, .initiator⟩
  [.installSession sampleInitiator ⟨0⟩ 0 64 64, .openExchange ⟨1⟩ .interactionModel ⟨0⟩,
    .send key 2 true [1] ⟨0⟩ 0 64 64, .send key 2 false [1] ⟨0⟩ 0 64 64]

/-- The two have different nonces. -/
theorem nonces_differ_twoSends :
    let log := (twoSends.foldl (step .tagByKey) ⟨.new 1 1 0, []⟩ : Encrypting 2 2).log
    log.length = 2 ∧ (log.map fun a => (a.key, a.nonce)).Nodup :=
  ⟨by decide +kernel, nonces_differ ⟨⟨by simp [Messaging.new], by simp⟩, trivial, trivial, trivial, trivial⟩⟩

end Encrypting

end MatterKit
