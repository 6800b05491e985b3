import MatterKit.Messaging.Consistency
import MatterKit.Messaging.Send

/-!
# Installing a session into a full table

A full session table evicts its least recently used session and tells the peer with a close-session
report. Failing to frame that report "is not a reason to abandon the eviction", but the exchange the
report would be framed on is opened first, and an exchange table with no room makes `install_session`
return its error: no session is evicted, and the new one is not installed.

`install_evicts_iff`: into a full table the installation does what it should exactly when an exchange
can be opened on the victim.
-/

namespace MatterKit

open Lib

variable {S X : ℕ}

namespace Messaging

/-! ## Opening an exchange on the victim -/

/-- Whether an exchange can be opened on the session: the exchange table has room, an id is free,
and an unsecured session has its context. -/
def CanOpen (m : Messaging S X) (session : SessionId) : Prop :=
  m.mayOpen session ∧ m.exchanges.len < X ∧
    ∃ id, m.exchanges.find ⟨session, id, .initiator⟩ = none

/-- Opening succeeds exactly when it can, and leaves the sessions alone; where it fails it leaves the
exchanges alone too. -/
lemma openExchange_cases (m : Messaging S X) (session : SessionId) (protocol : ProtocolId) (now : Instant) :
    (m.CanOpen session ∧ ∃ id m', m.openExchange session protocol now =
        (.ok ⟨session, id, .initiator⟩, m') ∧ m'.sessions = m.sessions) ∨
    (¬ m.CanOpen session ∧ ∃ e m', m.openExchange session protocol now = (.error e, m') ∧
      m'.sessions = m.sessions ∧ m'.exchanges.entries = m.exchanges.entries) := by
  unfold CanOpen
  by_cases hmay : m.mayOpen session
  · have hiff := ExchangeTable.openInitiator_isOk_iff m.exchanges session protocol
      (m.mrpParams session) ((m.sessions.find session).bind (·.peer)) now
    unfold openExchange openInitiator
    rw [if_pos hmay]
    rcases ExchangeTable.openInitiator_cases m.exchanges session protocol (m.mrpParams session)
      ((m.sessions.find session).bind (·.peer)) now with
      ⟨e, t, hopen, hentries⟩ | ⟨id, t, hopen, -, -⟩
    · right
      refine ⟨?_, e, { m with exchanges := t }, by rw [hopen], rfl, hentries⟩
      intro hcan
      obtain ⟨key, t', hok⟩ := hiff.mpr hcan.2
      rw [hopen] at hok
      simp at hok
    · left
      exact ⟨⟨hmay, hiff.mp ⟨_, _, hopen⟩⟩, id, { m with exchanges := t }, by rw [hopen], rfl⟩
  · right
    refine ⟨fun hcan => hmay hcan.1, .invalidState, m, ?_, rfl, rfl⟩
    unfold openExchange
    rw [if_neg hmay]

/-! ## The sessions after an eviction -/

/-- The node after the close-session report to the victim's peer, framed or not, and the removal of
the victim. -/
def farewell (c : Crypto) (m : Messaging S X) (victim : SessionId) (exchange : ExchangeKey)
    (now : Instant) (randomness : UInt32) (scratchLen outLen : ℕ) : Messaging S X :=
  (m.send c exchange opcodeStatusReport false [0, 0, 0, 0, 0, 0, 3, 0] now randomness scratchLen
    outLen).2.closeSession victim

section Farewell

variable {c : Crypto} {m : Messaging S X} {victim : SessionId} {id : ExchangeId} {now : Instant}
  {randomness : UInt32} {scratchLen outLen : ℕ}

variable (c m victim id now randomness scratchLen outLen) in
/-- The report costs the victim's session at most a counter before it goes. -/
lemma sessions_farewell : ∃ t : SessionTable S,
      (t = m.sessions ∨ t = m.sessions.modify victim fun s => (s.nextCounter now).2) ∧
      (m.farewell c victim ⟨victim, id, .initiator⟩ now randomness scratchLen outLen).sessions =
        t.remove victim := by
  refine ⟨_, ?_, rfl⟩
  rw [sessions_send]
  split
  · exact sessions_nextCounter m victim now
  · exact .inl rfl

/-- The other sessions are there unchanged, and nothing else is. -/
lemma mem_sessions_farewell (hu : m.sessions.Unique) {s : SecureSession} :
    s ∈ (m.farewell c victim ⟨victim, id, .initiator⟩ now randomness scratchLen
        outLen).sessions.entries ↔ s ∈ m.sessions.entries ∧ s.localSessionId ≠ victim := by
  obtain ⟨t, ht, hfarewell⟩ :=
    sessions_farewell c m victim id now randomness scratchLen outLen
  rw [hfarewell]
  rcases ht with rfl | rfl
  · exact SessionTable.mem_remove_iff hu
  · have hu' : (m.sessions.modify victim fun s => (s.nextCounter now).2).Unique :=
      hu.modify victim fun s => s.localSessionId_nextCounter now
    rw [SessionTable.mem_remove_iff hu', SessionTable.mem_modify_iff hu]
    constructor
    · intro ⟨hcase, hne⟩
      rcases hcase with hother | ⟨x, -, hx, rfl⟩
      · exact hother
      · exact absurd hx hne
    · intro h
      exact ⟨.inl h, h.2⟩

/-- The victim's removal leaves room for one session. -/
lemma len_sessions_farewell {s : SecureSession} (hs : s ∈ m.sessions.entries)
    (hid : s.localSessionId = victim) :
    (m.farewell c victim ⟨victim, id, .initiator⟩ now randomness scratchLen outLen).sessions.len <
      S := by
  obtain ⟨t, ht, hfarewell⟩ :=
    sessions_farewell c m victim id now randomness scratchLen outLen
  have hids : t.entries.map SecureSession.localSessionId =
      m.sessions.entries.map SecureSession.localSessionId := by
    rcases ht with rfl | rfl
    · rfl
    · exact SessionTable.ids_modify _ _ fun s => s.localSessionId_nextCounter now
  have hmem : s.localSessionId ∈ t.entries.map SecureSession.localSessionId := by
    rw [hids]
    exact List.mem_map_of_mem hs
  obtain ⟨s₂, hs₂, hid₂⟩ := List.mem_map.mp hmem
  have hlt := SessionTable.len_remove_lt hs₂
  rw [hid₂, hid] at hlt
  rw [hfarewell]
  exact lt_of_lt_of_le hlt t.len_le

/-- No exchange of the victim remains. -/
lemma session_ne_of_mem_farewell {exchange : ExchangeKey} {e : Exchange}
    (h : e ∈ (m.farewell c victim exchange now randomness scratchLen outLen).exchanges.entries) :
    e.key.session ≠ victim := by
  unfold farewell closeSession at h
  simp at h
  exact h.2

end Farewell

/-! ## The installation -/

/-- What installing a session into a full table should do: the session with the smallest timestamp
is evicted, the new one is there, every other one is there unchanged, and no exchange of the evicted
one remains. -/
def Evicts (m : Messaging S X) (session : SecureSession)
    (r : Except ErrorCode (Option Evicted)) (m' : Messaging S X) : Prop :=
  ∃ evicted, r = .ok (some evicted) ∧
    (∃ s ∈ m.sessions.entries, s.localSessionId = evicted.session ∧
      ∀ s' ∈ m.sessions.entries, s.sessionTimestamp ≤ s'.sessionTimestamp) ∧
    (∀ s, s ∈ m'.sessions.entries ↔
      s = session ∨ (s ∈ m.sessions.entries ∧ s.localSessionId ≠ evicted.session)) ∧
    ∀ e ∈ m'.exchanges.entries, e.key.session ≠ evicted.session

section Full

variable {c : Crypto} {m m₁ : Messaging S X} {session : SecureSession} {victim : SessionId}
  {now : Instant} {randomness : UInt32} {scratchLen outLen : ℕ}

/-- With no exchange for the report, the installation fails. -/
lemma installSession_of_not_opened {e : ErrorCode} (hfull : m.sessions.len = S)
    (hvictim : m.sessions.leastRecentlyUsed = some victim)
    (hopen : m.openExchange victim .secureChannel now = (.error e, m₁)) :
    m.installSession c session now randomness scratchLen outLen = (.error e, m₁) := by
  unfold installSession
  rw [if_neg (by omega), hvictim]
  simp only [StatusReport.closeSession_encode, hopen]

/-- With an exchange for the report, the new session goes where the victim was. -/
lemma installSession_of_opened {exchange : ExchangeKey} {t : SessionTable S}
    (hfull : m.sessions.len = S) (hvictim : m.sessions.leastRecentlyUsed = some victim)
    (hopen : m.openExchange victim .secureChannel now = (.ok exchange, m₁))
    (hins : (m₁.farewell c victim exchange now randomness scratchLen outLen).sessions.insert session
      = (.ok (), t)) :
    ∃ evicted, evicted.session = victim ∧
      m.installSession c session now randomness scratchLen outLen = (.ok (some evicted),
        { m₁.farewell c victim exchange now randomness scratchLen outLen with sessions := t }) := by
  unfold farewell at hins ⊢
  unfold installSession
  rw [if_neg (by omega), hvictim]
  simp only [StatusReport.closeSession_encode, hopen, hins]
  exact ⟨_, rfl, rfl⟩

/-- With an exchange for the report, and the id of the new session free but for the victim, the new
session goes where the victim was. -/
lemma installSession_of_fresh {id : ExchangeId} (hu : m.sessions.Unique) (hfull : m.sessions.len = S)
    (hfresh : ∀ s ∈ m.sessions.entries, s.localSessionId = session.localSessionId →
      s.localSessionId = victim)
    (hvictim : m.sessions.leastRecentlyUsed = some victim)
    (hopen : m.openExchange victim .secureChannel now = (.ok ⟨victim, id, .initiator⟩, m₁))
    (h₁ : m₁.sessions = m.sessions) :
    ∃ evicted t, evicted.session = victim ∧
      t.entries = (m₁.farewell c victim ⟨victim, id, .initiator⟩ now randomness scratchLen
        outLen).sessions.entries ++ [session] ∧
      m.installSession c session now randomness scratchLen outLen = (.ok (some evicted),
        { m₁.farewell c victim ⟨victim, id, .initiator⟩ now randomness scratchLen outLen with
          sessions := t }) := by
  obtain ⟨s, hs, hid, -⟩ := SessionTable.leastRecentlyUsed_eq_some hvictim
  rw [← h₁] at hu hs hfresh
  have hfree : (m₁.farewell c victim ⟨victim, id, .initiator⟩ now randomness scratchLen
      outLen).sessions.find session.localSessionId = none := by
    rw [SessionTable.find_eq_none_iff]
    intro x hx hsame
    obtain ⟨hold, hother⟩ := (mem_sessions_farewell hu).mp hx
    exact hother (hfresh x hold hsame)
  obtain ⟨t, hins, happ⟩ := SessionTable.insert_eq_ok (len_sessions_farewell hs hid) hfree
  obtain ⟨evicted, hevicted, hinstall⟩ := installSession_of_opened hfull hvictim hopen hins
  exact ⟨evicted, t, hevicted, happ, hinstall⟩

/-- Then the installation does what it should. -/
lemma evicts_of_opened {id : ExchangeId} (hu : m.sessions.Unique) (hfull : m.sessions.len = S)
    (hfresh : ∀ s ∈ m.sessions.entries, s.localSessionId = session.localSessionId →
      s.localSessionId = victim) (hvictim : m.sessions.leastRecentlyUsed = some victim)
    (hopen : m.openExchange victim .secureChannel now = (.ok ⟨victim, id, .initiator⟩, m₁))
    (h₁ : m₁.sessions = m.sessions) :
    m.Evicts session (m.installSession c session now randomness scratchLen outLen).1
      (m.installSession c session now randomness scratchLen outLen).2 := by
  obtain ⟨s, hs, hid, hleast⟩ := SessionTable.leastRecentlyUsed_eq_some hvictim
  obtain ⟨evicted, t, hevicted, happ, hinstall⟩ :=
    installSession_of_fresh hu hfull hfresh hvictim hopen h₁
  rw [hinstall]
  refine ⟨evicted, rfl, ⟨s, hs, ?_, hleast⟩, ?_, ?_⟩
  · rw [hevicted]
    exact hid
  · intro x
    show x ∈ t.entries ↔ _
    rw [happ, List.mem_append, List.mem_singleton, mem_sessions_farewell (h₁ ▸ hu), hevicted, h₁]
    exact or_comm
  · intro x hx
    rw [hevicted]
    exact session_ne_of_mem_farewell hx

/-- With an exchange for the report, and the id of the new session taken by a session other than the
victim, the victim goes and nothing comes. -/
lemma installSession_of_clash {id : ExchangeId} {other : SecureSession} (hu : m.sessions.Unique)
    (hfull : m.sessions.len = S) (hother : other ∈ m.sessions.entries)
    (hsame : other.localSessionId = session.localSessionId) (hne : other.localSessionId ≠ victim)
    (hvictim : m.sessions.leastRecentlyUsed = some victim)
    (hopen : m.openExchange victim .secureChannel now = (.ok ⟨victim, id, .initiator⟩, m₁))
    (h₁ : m₁.sessions = m.sessions) : m.installSession c session now randomness scratchLen outLen =
      (.error .invalidState,
        m₁.farewell c victim ⟨victim, id, .initiator⟩ now randomness scratchLen outLen) := by
  rw [← h₁] at hu hother
  have htaken : (m₁.farewell c victim ⟨victim, id, .initiator⟩ now randomness scratchLen
      outLen).sessions.find session.localSessionId ≠ none := by
    rw [Ne, SessionTable.find_eq_none_iff]
    intro hfree
    exact hfree other ((mem_sessions_farewell hu).mpr ⟨hother, hne⟩) hsame
  have hins := SessionTable.insert_of_taken htaken
  unfold farewell at hins ⊢
  unfold installSession
  rw [if_neg (by omega), hvictim]
  simp only [StatusReport.closeSession_encode, hopen, hins]

end Full

/-- **A full table admits the next session exactly when** an exchange can be opened on its least
recently used one. -/
theorem install_evicts_iff {c : Crypto} {m : Messaging S X} (hr : Reachable c m)
    (hS : 0 < S) (hfull : m.sessions.len = S) {session : SecureSession}
    (hfresh : m.sessions.find session.localSessionId = none) (now : Instant)
    (randomness : UInt32) (scratchLen outLen : ℕ) :
    m.Evicts session (m.installSession c session now randomness scratchLen outLen).1
        (m.installSession c session now randomness scratchLen outLen).2 ↔
      ∀ victim, m.sessions.leastRecentlyUsed = some victim → m.CanOpen victim := by
  have hu : m.sessions.Unique := hr.consistent.sessions_unique
  have hsome : 0 < m.sessions.len := by rw [hfull]; exact hS
  obtain ⟨victim, hvictim⟩ := SessionTable.leastRecentlyUsed_isSome hsome
  rcases openExchange_cases m victim .secureChannel now with
    ⟨hcan, id, m₁, hopen, h₁⟩ | ⟨hcannot, e, m₁, hopen, -⟩
  · constructor
    · intro _ victim' hvictim'
      rw [hvictim] at hvictim'
      obtain rfl := Option.some.inj hvictim'
      exact hcan
    · intro _
      refine evicts_of_opened hu hfull (fun s hs hsame => ?_) hvictim hopen h₁
      exact absurd hsame (SessionTable.find_eq_none_iff.mp hfresh s hs)
  · constructor
    · intro ⟨evicted, hok, _⟩
      rw [installSession_of_not_opened hfull hvictim hopen] at hok
      simp at hok
    · intro hall
      exact absurd (hall victim hvictim) hcannot

/-- The calls that install sessions 1 to 16, and then receive one unsecured message each from `n`
strangers' exchanges. -/
def fillCalls (n : ℕ) : List Call :=
  (List.range 16).map (fun i =>
      .installSession (sampleSession (UInt16.ofNat (i + 1))) ⟨0⟩ 0 64 64) ++
    (List.range n).map fun i =>
      .receive (hello 77 (UInt32.ofNat (i + 1)) (UInt16.ofNat i)) (udpPeer 5540) ⟨0⟩

/-- A node with a full session table and room for four exchanges, after `n` messages from
strangers. -/
def filledNode (n : ℕ) : Messaging 16 4 :=
  (fillCalls n).foldl (Messaging.after .tagByKey) (.new 1 1 0)

lemma reachable_filledNode (n : ℕ) : Reachable .tagByKey (filledNode n) := by
  apply (Reachable.new 1 1 0).calls
  intro call hcall m
  unfold fillCalls at hcall
  rw [List.mem_append, List.mem_map, List.mem_map] at hcall
  rcases hcall with ⟨i, -, rfl⟩ | ⟨i, -, rfl⟩
  · trivial
  · trivial

/-- Four datagrams from strangers fill the exchange table, and the next handshake is refused: the
session table is what it was, without the new session. -/
theorem install_refused_without_exchange :
    Reachable .tagByKey (filledNode 4) ∧ (filledNode 4).sessions.len = 16 ∧
      (filledNode 4).sessions.find (sampleSession 17).localSessionId = none ∧
      ((filledNode 4).installSession .tagByKey (sampleSession 17) ⟨1⟩ 0 1280 1280).1 = .error .noSpace ∧
      ((filledNode 4).installSession .tagByKey (sampleSession 17) ⟨1⟩ 0 1280 1280).2.sessions =
        (filledNode 4).sessions := by
  refine ⟨reachable_filledNode 4, ?_, ?_, ?_, ?_⟩
  · decide +kernel
  · decide +kernel
  · decide +kernel
  · decide +kernel

/-- With one exchange to spare, the oldest session makes way. -/
theorem install_evicts_filledNode : (filledNode 2).Evicts (sampleSession 17)
      ((filledNode 2).installSession .tagByKey (sampleSession 17) ⟨1⟩ 0 1280 1280).1
      ((filledNode 2).installSession .tagByKey (sampleSession 17) ⟨1⟩ 0 1280 1280).2 := by
  refine (install_evicts_iff (reachable_filledNode 2) (by decide) (by decide +kernel)
    (by decide +kernel) ⟨1⟩ 0 1280 1280).mpr ?_
  intro victim hvictim
  have hone : (filledNode 2).sessions.leastRecentlyUsed = some ⟨1⟩ := by decide +kernel
  rw [hone] at hvictim
  obtain rfl := Option.some.inj hvictim
  exact ⟨by decide +kernel, by decide +kernel, ⟨0⟩, by decide +kernel⟩

end Messaging

end MatterKit
