import MatterKit.Fabric
import MatterKit.Messaging.Eviction

/-!
# Whose session makes way

`SessionTable` advertises a number of sessions that each fabric is guaranteed, its share of the table.
A full table makes room by taking out the session that has been unused longest, on whatever fabric it
is. `keeps_shares_iff`: an installation takes nothing from another fabric's share exactly when the
session unused longest is on the fabric of the new one, or on none, or on a fabric that holds more than
its share, or when no session can be taken out at all.
-/

namespace MatterKit

variable {S X : ℕ}

namespace SessionTable

/-- The sessions a table guarantees to each of so many fabrics.
Source: `session.rs`, `SessionTable::PER_FABRIC`. -/
def perFabric (capacity fabrics : ℕ) : ℕ := capacity / fabrics

/-- The sessions on a fabric. -/
def onFabric (t : SessionTable S) (fabric : FabricIndex) : List SecureSession :=
  t.entries.filter fun s => decide (s.fabricIndex = fabric)

end SessionTable

namespace Messaging

/-- A session that is on a fabric other than the new session's is only lost if that fabric held more
than its share. -/
def KeepsShares (fabrics : ℕ) (session : SecureSession) (m m' : Messaging S X) : Prop :=
  ∀ s ∈ m.sessions.entries, s ∉ m'.sessions.entries → s.fabricIndex.isSome = true →
    s.fabricIndex ≠ session.fabricIndex →
    SessionTable.perFabric S fabrics < (m.sessions.onFabric s.fabricIndex).length

instance (fabrics : ℕ) (session : SecureSession) (m m' : Messaging S X) :
    Decidable (m.KeepsShares fabrics session m') :=
  inferInstanceAs (Decidable (∀ s ∈ m.sessions.entries, _))

/-- The session that would be taken out, if an exchange can be opened on it, is on the fabric of the
new session, on none, or on one that holds more than its share. -/
def SparesShares (fabrics : ℕ) (session : SecureSession) (m : Messaging S X) : Prop :=
  ∀ s ∈ m.sessions.entries, m.sessions.leastRecentlyUsed = some s.localSessionId →
    m.CanOpen s.localSessionId → s.fabricIndex.isSome = true →
    s.fabricIndex ≠ session.fabricIndex →
    SessionTable.perFabric S fabrics < (m.sessions.onFabric s.fabricIndex).length

/-- An installation into a full table: without an exchange for the report it fails and changes neither
table; with one the session unused longest goes, and the new one comes unless its id is taken. -/
lemma installSession_cases_of_full (c : Crypto) {m : Messaging S X} (hu : m.sessions.Unique)
    (hfull : m.sessions.len = S) {victim : SessionId}
    (hvictim : m.sessions.leastRecentlyUsed = some victim) (session : SecureSession) (now : Instant)
    (randomness : UInt32) (scratchLen outLen : ℕ) : (¬ m.CanOpen victim ∧ ∃ e m',
      m.installSession c session now randomness scratchLen outLen = (.error e, m') ∧
      m'.sessions = m.sessions ∧ m'.exchanges.entries = m.exchanges.entries) ∨ (m.CanOpen victim ∧
      (∀ s ∈ m.sessions.entries, s.localSessionId = session.localSessionId → s.localSessionId = victim) ∧
      ∃ evicted m',
        m.installSession c session now randomness scratchLen outLen = (.ok (some evicted), m') ∧
        ∀ s, s ∈ m'.sessions.entries ↔
          (s ∈ m.sessions.entries ∧ s.localSessionId ≠ victim) ∨ s = session) ∨ (m.CanOpen victim ∧
      (∃ s ∈ m.sessions.entries, s.localSessionId = session.localSessionId ∧ s.localSessionId ≠ victim) ∧
      ∃ m', m.installSession c session now randomness scratchLen outLen = (.error .invalidState, m') ∧
        ∀ s, s ∈ m'.sessions.entries ↔ s ∈ m.sessions.entries ∧ s.localSessionId ≠ victim) := by
  rcases openExchange_cases m victim .secureChannel now with
    ⟨hcan, id, m₁, hopen, h₁⟩ | ⟨hcannot, e, m₁, hopen, h₁, hentries⟩
  · have hmem (s : SecureSession) : s ∈ (m₁.farewell c victim ⟨victim, id, .initiator⟩ now randomness
        scratchLen outLen).sessions.entries ↔ s ∈ m.sessions.entries ∧ s.localSessionId ≠ victim := by
      rw [mem_sessions_farewell (h₁ ▸ hu), h₁]
    by_cases hclash : ∃ s ∈ m.sessions.entries,
        s.localSessionId = session.localSessionId ∧ s.localSessionId ≠ victim
    · obtain ⟨other, hother, hsame, hne⟩ := hclash
      exact .inr (.inr ⟨hcan, ⟨other, hother, hsame, hne⟩, _,
        installSession_of_clash hu hfull hother hsame hne hvictim hopen h₁, hmem⟩)
    · push Not at hclash
      obtain ⟨evicted, t, -, happ, hinstall⟩ :=
        installSession_of_fresh hu hfull hclash hvictim hopen h₁
      refine .inr (.inl ⟨hcan, hclash, evicted, _, hinstall, fun s => ?_⟩)
      show s ∈ t.entries ↔ _
      rw [happ, List.mem_append, List.mem_singleton, hmem]
  · exact .inl ⟨hcannot, e, m₁, installSession_of_not_opened hfull hvictim hopen, h₁, hentries⟩

/-- Each fabric keeps its guaranteed sessions when a session is installed into a full table, if and only
if the session unused longest can be spared. -/
theorem keeps_shares_iff {c : Crypto} {m : Messaging S X} (hr : Reachable c m)
    (hfull : m.sessions.len = S) (fabrics : ℕ) (session : SecureSession) (now : Instant)
    (randomness : UInt32) (scratchLen outLen : ℕ) :
    m.KeepsShares fabrics session (m.installSession c session now randomness scratchLen outLen).2 ↔
      m.SparesShares fabrics session := by
  have hu : m.sessions.Unique := hr.consistent.sessions_unique
  constructor
  · intro hkeeps s hs hvictim hcan hsome hne
    refine hkeeps s hs (fun hstill => ?_) hsome hne
    rcases installSession_cases_of_full c hu hfull hvictim session now randomness scratchLen outLen with
      ⟨hcannot, -⟩ | ⟨-, -, evicted, m', hinstall, hmem⟩ | ⟨-, -, m', hinstall, hmem⟩
    · exact hcannot hcan
    · rw [hinstall, hmem] at hstill
      rcases hstill with ⟨-, hother⟩ | rfl
      · exact hother rfl
      · exact hne rfl
    · rw [hinstall, hmem] at hstill
      exact hstill.2 rfl
  · intro hspares s hs hlost hsome hne
    obtain ⟨victim, hvictim⟩ := SessionTable.leastRecentlyUsed_isSome (List.length_pos_of_mem hs)
    rcases installSession_cases_of_full c hu hfull hvictim session now randomness scratchLen outLen with
      ⟨-, e, m', hinstall, hsame, -⟩ | ⟨hcan, -, evicted, m', hinstall, hmem⟩ |
        ⟨hcan, -, m', hinstall, hmem⟩
    · rw [hinstall, hsame] at hlost
      exact absurd hs hlost
    · rw [hinstall, hmem] at hlost
      obtain rfl : s.localSessionId = victim := by
        by_contra hother
        exact hlost (.inl ⟨hs, hother⟩)
      exact hspares s hs hvictim hcan hsome hne
    · rw [hinstall, hmem] at hlost
      obtain rfl : s.localSessionId = victim := by
        by_contra hother
        exact hlost ⟨hs, hother⟩
      exact hspares s hs hvictim hcan hsome hne

/-- A node with a full table: so many sessions on fabric 1, the others, which were used later, on
fabric 2. -/
def sharedNode (first : ℕ) : Messaging 16 4 :=
  ((List.range 16).map fun i =>
    Call.installSession
      { sampleSession (UInt16.ofNat (i + 1)) with
        fabricIndex := if i < first then ⟨1⟩ else ⟨2⟩
        sessionTimestamp := ⟨if i < first then 0 else 1⟩ } ⟨0⟩ 0 64 64).foldl
    (Messaging.after .tagByKey) (.new 1 1 0)

lemma reachable_sharedNode (first : ℕ) : Reachable .tagByKey (sharedNode first) := by
  apply (Reachable.new 1 1 0).calls
  intro call hcall m
  rw [List.mem_map] at hcall
  obtain ⟨i, -, rfl⟩ := hcall
  trivial

/-- A session of fabric 2 that is to be installed. -/
def latecomer : SecureSession := { sampleSession 17 with fabricIndex := ⟨2⟩ }

/-- A fabric with four sessions can spare one: of sixteen sessions each of five fabrics has three. -/
theorem fourth_session_is_spared :
    Reachable .tagByKey (sharedNode 4) ∧ (sharedNode 4).sessions.len = 16 ∧
      (sharedNode 4).KeepsShares 5 latecomer
        ((sharedNode 4).installSession .tagByKey latecomer ⟨2⟩ 0 1280 1280).2 := by
  have hfull : (sharedNode 4).sessions.len = 16 ∧ ∀ s ∈ (sharedNode 4).sessions.entries,
      s.fabricIndex ≠ latecomer.fabricIndex →
        SessionTable.perFabric 16 5 < ((sharedNode 4).sessions.onFabric s.fabricIndex).length := by
    decide +kernel
  refine ⟨reachable_sharedNode 4, hfull.1, ?_⟩
  refine (keeps_shares_iff (reachable_sharedNode 4) hfull.1 5 latecomer ⟨2⟩ 0 1280 1280).mpr ?_
  intro s hs _ _ _ hne
  exact hfull.2 s hs hne

/-- A fabric with its three sessions loses one of them to another fabric's fourteenth. -/
theorem third_session_is_taken : Reachable .tagByKey (sharedNode 3) ∧ (sharedNode 3).sessions.len = 16 ∧
      ((sharedNode 3).sessions.onFabric ⟨1⟩).length = 3 ∧
      (((sharedNode 3).installSession .tagByKey latecomer ⟨2⟩ 0 1280 1280).2.sessions.onFabric
        ⟨1⟩).length = 2 ∧ ¬ (sharedNode 3).KeepsShares 5 latecomer
        ((sharedNode 3).installSession .tagByKey latecomer ⟨2⟩ 0 1280 1280).2 := by
  refine ⟨reachable_sharedNode 3, ?_⟩
  decide +kernel

end Messaging

end MatterKit
