import MatterKit.Messaging.Receive
import MatterKit.Messaging.Run

/-!
# The two tables stay consistent

The sessions and the exchanges of a node are two tables with one lifetime between them: an exchange
whose session is gone can never be answered on. `Consistent` says that no two exchanges share a key, no
two sessions share a local id, and every exchange is on the unsecured session or on a session that is in
the table.

Most operations neither install nor remove a session and open no exchange; they are `Quiet`, and a quiet
step keeps the invariant (`Consistent.quiet`). What is left is one lemma for each way the tables really
change. `keeps_after` puts them together over every call, and `tables_consistent` over every run.
-/

namespace MatterKit

open Lib

variable {S X : ℕ}

namespace Messaging

/-- The local ids of the sessions, oldest first. -/
def sessionIds (m : Messaging S X) : List SessionId :=
  m.sessions.entries.map SecureSession.localSessionId

lemma live_iff {m : Messaging S X} {session : SessionId} :
    m.Live session ↔ session = .unsecured ∨ session ∈ m.sessionIds := by
  unfold Live sessionIds
  rw [List.mem_map]

/-- No two exchanges share a key, no two sessions share an id, and every exchange is on a session
that is there. -/
structure Consistent (m : Messaging S X) : Prop where
  exchanges_unique : m.exchanges.Unique
  sessions_unique : m.sessions.Unique
  exchanges_live : ∀ e ∈ m.exchanges.entries, m.Live e.key.session

/-! ## Quiet steps -/

/-- No session was installed or removed, and no exchange was opened. -/
structure Quiet (m m' : Messaging S X) : Prop where
  ids : m'.sessionIds = m.sessionIds
  exchanges : m'.exchanges.Within m.exchanges

namespace Quiet

variable (m : Messaging S X)

lemma refl : m.Quiet m := ⟨rfl, .refl _⟩

lemma trans {m₁ m₂ m₃ : Messaging S X} (h₁ : m₁.Quiet m₂) (h₂ : m₂.Quiet m₃) : m₁.Quiet m₃ :=
  ⟨h₂.ids.trans h₁.ids, h₂.exchanges.trans h₁.exchanges⟩

lemma live {m m' : Messaging S X} (h : m.Quiet m') {session : SessionId} (hl : m.Live session) :
    m'.Live session := by
  rw [live_iff] at hl ⊢
  rw [h.ids]
  exact hl

/-- A step that touches the exchange table only, and opens nothing in it. -/
lemma of_within {m : Messaging S X} {t : ExchangeTable X} (h : t.Within m.exchanges) :
    m.Quiet { m with exchanges := t } := ⟨rfl, h⟩

variable (key : ExchangeKey)

lemma updateExchange {f : Exchange → Exchange} (hf : ∀ e, (f e).key = e.key) :
    m.Quiet (m.updateExchange key f) :=
  of_within (.modify _ _ hf)

lemma updateSession (id : SessionId) {f : SecureSession → SecureSession}
    (hf : ∀ s, (f s).localSessionId = s.localSessionId) : m.Quiet (m.updateSession id f) :=
  ⟨SessionTable.ids_modify _ _ hf, .refl _⟩

lemma close : m.Quiet (m.close key) :=
  of_within (.close _ _)

lemma closeIfEphemeral (ephemeral : Bool) : m.Quiet (m.closeIfEphemeral key ephemeral) := by
  unfold Messaging.closeIfEphemeral
  split
  · exact close m key
  · exact refl m

lemma nextCounter (session : SessionId) (now : Instant) : m.Quiet (m.nextCounter session now).2 := by
  unfold Messaging.nextCounter
  split
  · exact ⟨rfl, .refl _⟩
  · split
    · exact refl m
    · exact updateSession m session fun _ => rfl

lemma stamp (header : ProtocolHeader) (payload : List UInt8) (now : Instant) :
    m.Quiet (m.stamp key header payload now).2 := by
  have htake := updateExchange m key (f := fun e => { e with mrp := e.mrp.takePiggyback.2 })
    fun _ => rfl
  have hnext := htake.trans (nextCounter _ key.session now)
  unfold Messaging.stamp
  simp only
  split
  · rename_i h
    rw [h] at hnext
    exact hnext
  · rename_i h
    rw [h] at hnext
    exact hnext

lemma recordSend (counter : UInt32) (now : Instant) (randomness : UInt32) :
    m.Quiet (m.recordSend key counter now randomness).2 := by
  unfold Messaging.recordSend
  split
  · exact refl m
  · split
    · exact refl m
    · exact updateExchange m key fun _ => rfl

/-- Sending opens nothing and installs nothing, whether it succeeds or not. -/
lemma send (c : Crypto) (m : Messaging S X) (key : ExchangeKey) (opcode : UInt8)
    (reliable : Bool) (payload : List UInt8) (now : Instant) (randomness : UInt32) (scratchLen outLen : ℕ) :
    m.Quiet (m.send c key opcode reliable payload now randomness scratchLen outLen).2 := by
  unfold Messaging.send
  split
  · exact refl m
  · rename_i e _
    have hstamp := stamp m key
      (sendHeader key e opcode (reliable && !e.isTransportReliable)) payload now
    simp only
    split
    · rename_i h
      rw [h] at hstamp
      exact hstamp
    · rename_i o m₁ h
      rw [h] at hstamp
      have hrecord := hstamp.trans (recordSend m₁ key o.counter now randomness)
      split
      · exact hstamp
      · split
        · split
          · rename_i h'
            rw [h'] at hrecord
            exact hrecord
          · rename_i h'
            rw [h'] at hrecord
            exact hrecord
        · exact hstamp

/-- So does acknowledging. -/
lemma acknowledge (c : Crypto) (m : Messaging S X) (key : ExchangeKey) (now : Instant)
    (outLen : ℕ) : m.Quiet (m.acknowledge c key now outLen).2 := by
  unfold Messaging.acknowledge
  split
  · exact refl m
  · rename_i e _
    split
    · exact closeIfEphemeral m key e.ephemeral
    · rename_i acknowledged _
      have hstamp := stamp m key (standaloneAckHeader key acknowledged) [] now
      split
      · rename_i h
        rw [h] at hstamp
        exact hstamp
      · rename_i h
        rw [h] at hstamp
        split
        · exact hstamp
        · exact hstamp.trans (closeIfEphemeral _ key e.ephemeral)

/-- So does driving the timers. -/
lemma poll (now : Instant) (randomness : UInt32) : m.Quiet (m.poll now randomness).2 := by
  have hreap : m.Quiet (m.reap now) := of_within (.reap _ _ _)
  unfold Messaging.poll
  simp only
  split
  · exact hreap
  · rename_i first _
    split
    · exact hreap
    · rename_i e _
      have hserved := hreap.trans (updateExchange _ first.key
        (f := fun e' => { e' with mrp := (e.mrp.onTimeout now randomness).2 }) fun _ => rfl)
      split
      · exact hserved
      · exact hserved
      · exact hserved.trans (close _ first.key)
      · exact hserved

lemma judged (header : MessageHeader) (peer : Peer) (now : Instant) :
    m.Quiet (m.judged header peer now) := by
  unfold Messaging.judged
  split
  · exact ⟨rfl, .refl _⟩
  · exact updateSession m _ fun _ => rfl

lemma recordContext (header : MessageHeader) : m.Quiet (m.recordContext header) := by
  obtain ⟨context, h⟩ := recordContext_eq m header
  rw [h]
  exact ⟨rfl, .refl _⟩

end Quiet

/-! ## Steps that change the tables -/

namespace Consistent

lemma new (firstSessionId firstExchangeId : UInt16) (initialCounter : UInt32) :
    (Messaging.new firstSessionId firstExchangeId initialCounter : Messaging S X).Consistent where
  exchanges_unique := KeysUnique.nil
  sessions_unique := KeysUnique.nil
  exchanges_live := by
    intro e he
    simp [Messaging.new] at he

/-- A quiet step keeps the invariant. -/
lemma quiet {m m' : Messaging S X} (h : m.Consistent) (hq : m.Quiet m') : m'.Consistent where
  exchanges_unique := hq.exchanges.unique h.exchanges_unique
  sessions_unique := by
    have hids := h.sessions_unique
    unfold SessionTable.Unique KeysUnique at hids ⊢
    have heq : m'.sessions.entries.map SecureSession.localSessionId =
        m.sessions.entries.map SecureSession.localSessionId := hq.ids
    rw [heq]
    exact hids
  exchanges_live := by
    intro e' he'
    obtain ⟨e, he, hkey⟩ := hq.exchanges.keys e' he'
    rw [← hkey]
    exact hq.live (h.exchanges_live e he)

variable {e : Exchange} {m : Messaging S X}

/-- Opening one exchange on a live session, under a key that is not in use, keeps it. -/
lemma opened {m m' : Messaging S X} {base : ExchangeTable X} (h : m.Consistent)
    (hids : m'.sessionIds = m.sessionIds) (hbase : base.Within m.exchanges)
    (hentries : m'.exchanges.entries = base.entries ++ [e]) (hfree : m.exchanges.find e.key = none)
    (hlive : m.Live e.key.session) : m'.Consistent := by
  have hq : m.Quiet { m' with exchanges := base } := ⟨hids, hbase⟩
  have hb := h.quiet hq
  refine ⟨?_, hb.sessions_unique, ?_⟩
  · unfold ExchangeTable.Unique
    rw [hentries]
    apply KeysUnique.append_singleton hb.exchanges_unique
    intro b hb' heq
    obtain ⟨b₀, hb₀, hkey⟩ := hbase.keys b hb'
    exact ExchangeTable.find_eq_none_iff.mp hfree b₀ hb₀ (hkey.trans heq)
  · intro e' he'
    rw [hentries, List.mem_append, List.mem_singleton] at he'
    rcases he' with hold | rfl
    · exact hb.exchanges_live e' hold
    · exact hq.live hlive

/-- Closing a session takes its exchanges with it. -/
lemma closeSession (h : m.Consistent) (session : SessionId) : (m.closeSession session).Consistent where
  exchanges_unique := (ExchangeTable.Within.closeSession _ _).unique h.exchanges_unique
  sessions_unique := h.sessions_unique.remove session
  exchanges_live := by
    intro e he
    have hmem : e ∈ m.exchanges.entries ∧ e.key.session ≠ session := by
      simpa [Messaging.closeSession] using he
    rcases h.exchanges_live e hmem.1 with hunsec | ⟨s, hs, hid⟩
    · exact .inl hunsec
    · refine .inr ⟨s, ?_, hid⟩
      refine (SessionTable.mem_remove_iff h.sessions_unique).mpr ⟨hs, ?_⟩
      rw [hid]
      exact hmem.2

/-- The exchanges that survive the closing of several sessions are on none of them. -/
lemma mem_foldl_closeSession {doomed : List SessionId} {t : ExchangeTable X} :
    e ∈ (doomed.foldl (fun t session => t.closeSession session) t).entries ↔
      e ∈ t.entries ∧ e.key.session ∉ doomed := by
  induction doomed generalizing t with
  | nil => simp
  | cons d doomed ih =>
    rw [List.foldl_cons, ih]
    simp [and_assoc]

lemma foldl_closeSession_within (doomed : List SessionId) (t : ExchangeTable X) :
    (doomed.foldl (fun t session => t.closeSession session) t).Within t := by
  induction doomed generalizing t with
  | nil => exact .refl t
  | cons d doomed ih => exact (ih _).trans (.closeSession t d)

/-- Removing a fabric takes the exchanges of all its sessions with it. -/
lemma removeFabric (h : m.Consistent) (fabric : FabricIndex) : (m.removeFabric fabric).Consistent where
  exchanges_unique := (foldl_closeSession_within _ _).unique h.exchanges_unique
  sessions_unique := KeysUnique.filter h.sessions_unique _
  exchanges_live := by
    intro e he
    obtain ⟨hold, hnot⟩ := mem_foldl_closeSession.mp he
    rcases h.exchanges_live e hold with hunsec | ⟨s, hs, hid⟩
    · exact .inl hunsec
    · refine .inr ⟨s, ?_, hid⟩
      have hfabric : s.fabricIndex ≠ fabric := by
        intro heq
        apply hnot
        rw [← hid]
        exact List.mem_map_of_mem (List.mem_filter.mpr ⟨hs, by simp [heq]⟩)
      exact List.mem_filter.mpr ⟨hs, by simp [hfabric]⟩

/-- Installing a session keeps the invariant: an id in use is refused. -/
lemma installed (h : m.Consistent) (session : SecureSession) :
    ({ m with sessions := (m.sessions.insert session).2 } : Messaging S X).Consistent := by
  rcases SessionTable.insert_cases m.sessions session with ⟨-, hfree, t, hins, happ⟩ | ⟨e, hins⟩
  · rw [hins]
    refine ⟨h.exchanges_unique, ?_, ?_⟩
    · unfold SessionTable.Unique
      rw [happ]
      exact KeysUnique.append_singleton h.sessions_unique (SessionTable.find_eq_none_iff.mp hfree)
    · intro e he
      rcases h.exchanges_live e he with hunsec | ⟨s, hs, hid⟩
      · exact .inl hunsec
      · refine .inr ⟨s, ?_, hid⟩
        change s ∈ t.entries
        rw [happ]
        exact List.mem_append_left _ hs
  · rw [hins]
    exact h

end Consistent

/-! ## Every call -/

/-- What every call does to the tables: the invariant is kept, and a session id is new only if the
call was asked to install it. -/
structure Keeps (m m' : Messaging S X) (installs : List SessionId) : Prop where
  consistent : m.Consistent → m'.Consistent
  ids : ∀ id ∈ m'.sessionIds, id ∈ m.sessionIds ∨ id ∈ installs

namespace Keeps

variable {installs : List SessionId}

lemma of_quiet {m m' : Messaging S X} (h : m.Quiet m') : m.Keeps m' installs where
  consistent := fun hc => hc.quiet h
  ids := by
    intro id hid
    rw [h.ids] at hid
    exact .inl hid

lemma trans {m₁ m₂ m₃ : Messaging S X} (h₁ : m₁.Keeps m₂ installs) (h₂ : m₂.Keeps m₃ installs) :
    m₁.Keeps m₃ installs where
  consistent := fun hc => h₂.consistent (h₁.consistent hc)
  ids := by
    intro id hid
    rcases h₂.ids id hid with hmid | hnew
    · exact h₁.ids id hmid
    · exact .inr hnew

variable (m : Messaging S X)

lemma closeSession (session : SessionId) : m.Keeps (m.closeSession session) installs where
  consistent := fun hc => hc.closeSession session
  ids := by
    intro id hid
    obtain ⟨s, hs, rfl⟩ := List.mem_map.mp hid
    exact .inl (List.mem_map_of_mem (SessionTable.mem_of_mem_remove hs))

lemma removeFabric (fabric : FabricIndex) : m.Keeps (m.removeFabric fabric) installs where
  consistent := fun hc => hc.removeFabric fabric
  ids := by
    intro id hid
    obtain ⟨s, hs, rfl⟩ := List.mem_map.mp hid
    exact .inl (List.mem_map_of_mem (List.mem_of_mem_filter hs))

lemma insert (session : SecureSession) :
    m.Keeps { m with sessions := (m.sessions.insert session).2 } [session.localSessionId] where
  consistent := fun hc => hc.installed session
  ids := by
    intro id hid
    rcases SessionTable.insert_cases m.sessions session with ⟨-, -, t, hins, happ⟩ | ⟨e, hins⟩
    · have hid' : id ∈ t.entries.map SecureSession.localSessionId := by
        simpa [sessionIds, hins] using hid
      rw [happ, List.map_append, List.mem_append] at hid'
      exact hid'
    · left
      simpa [sessionIds, hins] using hid

variable {m : Messaging S X} {session : SessionId}

lemma openInitiator (hlive : m.Live session) (protocol : ProtocolId) (peer : Option Peer)
    (now : Instant) : m.Keeps (m.openInitiator session protocol peer now).2 installs := by
  refine ⟨?_, fun id hid => .inl hid⟩
  intro hc
  unfold Messaging.openInitiator
  rcases ExchangeTable.openInitiator_cases m.exchanges session protocol (m.mrpParams session) peer
    now with ⟨e, t, hopen, hentries⟩ | ⟨id, t, hopen, hfree, hentries⟩
  · rw [hopen]
    refine hc.quiet (.of_within ?_)
    exact .of_sublist (by rw [hentries])
  · rw [hopen]
    exact hc.opened rfl (.refl _) hentries hfree hlive

lemma openExchange (hlive : m.Live session) (protocol : ProtocolId) (now : Instant) :
    m.Keeps (m.openExchange session protocol now).2 installs := by
  unfold Messaging.openExchange
  split
  · exact openInitiator hlive protocol _ now
  · exact of_quiet (.refl m)

lemma openTo (hlive : m.Live session) (protocol : ProtocolId) (peer : Peer) (now : Instant) :
    m.Keeps (m.openTo session protocol peer now).2 installs := by
  unfold Messaging.openTo
  split
  · exact openInitiator hlive protocol _ now
  · exact of_quiet (.refl m)

lemma openUnsecuredAsInitiator (m : Messaging S X) (ephemeral : NodeId) :
    m.Keeps (m.openUnsecuredAsInitiator ephemeral).2 installs := by
  unfold Messaging.openUnsecuredAsInitiator
  split
  · exact of_quiet ⟨rfl, .refl _⟩
  · exact of_quiet (.refl m)

lemma openUnsecuredWith (m : Messaging S X) (protocol : ProtocolId) (peer : Option Peer)
    (now : Instant) (randomness : UInt64) :
    m.Keeps (m.openUnsecuredWith protocol peer now randomness).2 installs := by
  have hcontext : m.Keeps (m.openUnsecuredAsInitiator (.ephemeral randomness)).2 installs :=
    openUnsecuredAsInitiator m _
  unfold Messaging.openUnsecuredWith
  split
  · rename_i h
    rw [h] at hcontext
    exact hcontext
  · rename_i h
    rw [h] at hcontext
    exact hcontext.trans (openInitiator (.inl rfl) protocol peer now)

/-- Routing opens at most one exchange, on the session of the message. -/
lemma route (hlive : m.Live session) (header : ProtocolHeader) (duplicate : Bool) (now : Instant) :
    m.Keeps (m.route session header duplicate now).2 installs := by
  rcases route_cases m session header duplicate now with
    ⟨e, -, hroute⟩ | ⟨hfree, -, -, t, hentries, hroute⟩ | ⟨-, -, err, hroute⟩
  · rw [hroute]
    exact of_quiet (.refl m)
  · rw [hroute]
    refine ⟨?_, fun id hid => .inl hid⟩
    intro hc
    exact hc.opened rfl (.makeRoom _ _) hentries hfree hlive
  · rw [hroute]
    exact of_quiet (.refl m)

lemma deliver (m : Messaging S X) (key : ExchangeKey) (header : MessageHeader)
    (ph : ProtocolHeader) (body : List UInt8) (duplicate : Bool) (peer : Peer) (now : Instant) :
    m.Keeps (m.deliver key header ph body duplicate peer now).2 installs := by
  rcases hfind : m.exchanges.find key with _ | e
  · unfold Messaging.deliver
    rw [hfind]
    exact of_quiet (.refl m)
  · have hheard : m.Keeps (m.updateExchange key fun e =>
        e.hear header.messageCounter ph peer now) installs :=
      of_quiet (.updateExchange m key fun _ => rfl)
    obtain ⟨m', hdeliver, hstate⟩ := deliver_open hfind header ph body duplicate peer now
    rw [hdeliver]
    rcases hstate with ⟨rfl, -⟩ | ⟨rfl, -⟩
    · exact hheard
    · exact hheard.trans (closeSession _ header.sessionId)

/-- A message is processed on a live session. -/
lemma process {header : MessageHeader} (hlive : m.Live header.sessionId) (payload : List UInt8)
    (v : Verdict) (peer : Peer) (now : Instant) :
    m.Keeps (m.process header payload v peer now).2 installs := by
  have hcontext : m.Quiet (m.recordContext header) := .recordContext m header
  rcases process_cases m header payload v peer now with ⟨err, -, h⟩ | ⟨ph, body, -, hcase⟩
  · rw [h]
    exact of_quiet (.refl m)
  · rcases hcase with ⟨-, h⟩ | ⟨-, -, err, h⟩ | ⟨-, -, routed, hroute, h⟩
    · rw [h]
      exact of_quiet (.refl m)
    · rw [h]
      exact of_quiet hcontext
    · rw [h]
      have hrouted : (m.recordContext header).Keeps ((m.recordContext header).route
          header.sessionId ph (decide (v = .duplicate)) now).2 installs :=
        route (hcontext.live hlive) ph _ now
      rw [hroute] at hrouted
      exact ((of_quiet hcontext).trans hrouted).trans (deliver _ _ _ _ _ _ _ _)

lemma receive (c : Crypto) (m : Messaging S X) (buf : List UInt8) (peer : Peer) (now : Instant) :
    m.Keeps (m.receive c buf peer now).2 installs := by
  rcases h : m.authenticate c buf with err | ⟨sid⟩ | ⟨sid, header, payload⟩
  · unfold Messaging.receive
    rw [h]
    exact of_quiet (.refl m)
  · unfold Messaging.receive
    rw [h]
    exact of_quiet (.refl m)
  · rw [receive_message h]
    have hjudged : m.Quiet (m.judged header peer now) := .judged m header peer now
    have hlive : m.Live header.sessionId := by
      obtain ⟨hsid, hcase⟩ := authenticate_message h
      rw [hsid]
      rcases hcase with ⟨hzero, -, -⟩ | ⟨-, -, s, hs, -⟩
      · exact .inl hzero
      · obtain ⟨hmem, hid⟩ := SessionTable.find_eq_some hs
        exact .inr ⟨s, hmem, hid⟩
    exact (of_quiet hjudged).trans (process (hjudged.live hlive) payload _ peer now)

/-- Eviction opens an exchange on the victim, sends on it, and closes it with its session before
the new session goes in. -/
lemma installSession (c : Crypto) (m : Messaging S X) (session : SecureSession) (now : Instant)
    (randomness : UInt32) (scratchLen outLen : ℕ) :
    m.Keeps (m.installSession c session now randomness scratchLen outLen).2
      [session.localSessionId] := by
  unfold Messaging.installSession
  split
  · have hinsert := insert m session
    split
    · rename_i h
      rw [h] at hinsert
      exact hinsert
    · rename_i h
      rw [h] at hinsert
      exact hinsert
  · split
    · exact of_quiet (.refl m)
    · rename_i victim hvictim
      obtain ⟨s, hs, hid, -⟩ := SessionTable.leastRecentlyUsed_eq_some hvictim
      have hopened : m.Keeps (m.openExchange victim .secureChannel now).2 [session.localSessionId] :=
        openExchange (.inr ⟨s, hs, hid⟩) .secureChannel now
      simp only
      split
      · exact of_quiet (.refl m)
      · rename_i body _
        split
        · rename_i h
          rw [h] at hopened
          exact hopened
        · rename_i exchange m₁ h
          rw [h] at hopened
          have hclosed := (hopened.trans (of_quiet (.send c m₁ exchange opcodeStatusReport false
            body now randomness scratchLen outLen))).trans (closeSession _ victim)
          have hinserted := hclosed.trans (insert _ session)
          split
          · rename_i h'
            rw [h'] at hinserted
            exact hinserted
          · rename_i h'
            rw [h'] at hinserted
            exact hinserted

end Keeps

/-- Every admissible call keeps the tables consistent. -/
lemma keeps_after (c : Crypto) {m : Messaging S X} {call : Call} (ha : m.Admissible call) :
    m.Keeps (m.after c call) call.installs := by
  cases call with
  | allocateId =>
    refine .of_quiet ⟨?_, .refl _⟩
    exact congrArg (List.map SecureSession.localSessionId)
      (SessionTable.entries_allocateIdLoop 65536 m.sessions)
  | installSession session now randomness scratchLen outLen =>
    exact .installSession c m session now randomness scratchLen outLen
  | setFabric session fabric => exact .of_quiet (.updateSession m session fun _ => rfl)
  | closeSession session => exact .closeSession m session
  | removeFabric fabric => exact .removeFabric m fabric
  | openExchange session protocol now => exact .openExchange ha protocol now
  | openTo session protocol peer now => exact .openTo ha protocol peer now
  | openUnsecured protocol now randomness => exact .openUnsecuredWith m protocol none now randomness
  | openUnsecuredTo protocol peer now randomness =>
    exact .openUnsecuredWith m protocol (some peer) now randomness
  | openUnsecuredAsInitiator ephemeral => exact .openUnsecuredAsInitiator m ephemeral
  | closeUnsecured => exact .of_quiet ⟨rfl, .refl _⟩
  | close exchange => exact .of_quiet (.close m exchange)
  | register protocols | setPrivacy privacy => exact .of_quiet ⟨rfl, .refl _⟩
  | receive buf peer now => exact .receive c m buf peer now
  | send exchange opcode reliable payload now randomness scratchLen outLen =>
    exact .of_quiet (.send c m exchange opcode reliable payload now randomness scratchLen outLen)
  | acknowledge exchange now outLen => exact .of_quiet (.acknowledge c m exchange now outLen)
  | poll now randomness => exact .of_quiet (.poll m now randomness)

end Messaging

/-! ## Every run -/

variable {c : Crypto} {m : Messaging S X} {installed issued : List SessionId}

/-- Every reachable state is consistent. -/
lemma Reachable.consistent (h : Reachable c m) : m.Consistent :=
  h.invariant Messaging.Consistent.new fun _ _ hm ha => (Messaging.keeps_after c ha).consistent hm

/-- Every session of a reachable state was installed on the way. -/
lemma Run.ids_installed (h : Run c m issued installed) : ∀ id ∈ m.sessionIds, id ∈ installed := by
  induction h with
  | new s x n =>
    intro id hid
    simp [Messaging.sessionIds, Messaging.new] at hid
  | step call _ ha ih =>
    intro id hid
    rw [List.mem_append]
    rcases (Messaging.keeps_after c ha).ids id hid with hold | hnew
    · exact .inl (ih id hold)
    · exact .inr hnew

/-- No id that `allocate_id` ever handed out is that of the unsecured session. -/
lemma Run.issued_ne_unsecured (h : Run c m issued installed) : ∀ id ∈ issued, id ≠ .unsecured := by
  induction h with
  | new s x n => simp
  | @step m _ _ call _ ha ih =>
    intro id hid
    rw [List.mem_append] at hid
    rcases hid with hold | hnew
    · exact ih id hold
    · cases call with
      | allocateId =>
        unfold Messaging.issues at hnew
        simp only at hnew
        split at hnew
        · rename_i id' hok
          obtain rfl := List.mem_singleton.mp hnew
          have hpair : m.sessions.allocateId = (.ok id, m.sessions.allocateId.2) :=
            Prod.ext hok rfl
          exact (SessionTable.allocateId_eq_ok hpair).1
        · simp at hnew
      | _ => simp [Messaging.issues] at hnew

/-- **The tables stay consistent.** Along every run of admissible calls no two exchanges have the same
key, no two sessions the same local id, every exchange is on the unsecured session or on one in the
table, and, with ids from `allocate_id`, no session has the unsecured session's id. -/
theorem tables_consistent {c : Crypto} {m : Messaging S X} {issued installed : List SessionId}
    (run : Run c m issued installed) : (m.exchanges.entries.map Exchange.key).Nodup ∧
      (m.sessions.entries.map SecureSession.localSessionId).Nodup ∧ ((∀ id ∈ installed, id ∈ issued) →
        ∀ s ∈ m.sessions.entries, s.localSessionId ≠ .unsecured) ∧
      ∀ e ∈ m.exchanges.entries, e.key.session = .unsecured ∨
        ∃ s ∈ m.sessions.entries, s.localSessionId = e.key.session := by
  have hc : m.Consistent := Reachable.consistent ⟨issued, installed, run⟩
  refine ⟨hc.exchanges_unique, hc.sessions_unique, ?_, hc.exchanges_live⟩
  intro hissued s hs
  apply run.issued_ne_unsecured
  apply hissued
  exact run.ids_installed _ (List.mem_map_of_mem hs)

/-- A session as a handshake leaves it, for concrete runs. -/
def sampleSession (id : UInt16) : SecureSession :=
  let key : SessionKeys := ⟨⟨Vector.replicate 16 1⟩, ⟨Vector.replicate 16 2⟩⟩
  .new ⟨id⟩ ⟨id + 100⟩ .paseSession .responder ⟨key, key, ⟨Vector.replicate 16 3⟩⟩ 0 ⟨0⟩

/-- A run that allocates an id, installs a session under it and opens an exchange on it. -/
theorem tables_consistent_open :
    let m₀ : Messaging 2 2 := .new 7 1 0
    let m₁ := m₀.after .tagByKey .allocateId
    let m₂ := m₁.after .tagByKey (.installSession (sampleSession 7) ⟨0⟩ 0 64 64)
    let m₃ := m₂.after .tagByKey (.openExchange ⟨7⟩ .interactionModel ⟨5⟩)
    m₃.sessions.len = 1 ∧ m₃.exchanges.len = 1 ∧
      (m₃.exchanges.entries.map Exchange.key).Nodup ∧
      (m₃.sessions.entries.map SecureSession.localSessionId).Nodup ∧
      (∀ s ∈ m₃.sessions.entries, s.localSessionId ≠ .unsecured) ∧
      ∀ e ∈ m₃.exchanges.entries, e.key.session = .unsecured ∨
        ∃ s ∈ m₃.sessions.entries, s.localSessionId = e.key.session := by
  intro m₀ m₁ m₂ m₃
  have run₂ : Run .tagByKey m₂ [⟨7⟩] [⟨7⟩] :=
    .step (.installSession (sampleSession 7) ⟨0⟩ 0 64 64)
      (.step .allocateId (.new 7 1 0) trivial) trivial
  have live : m₂.Live ⟨7⟩ := .inr ⟨sampleSession 7, by decide +kernel, rfl⟩
  have run₃ : Run .tagByKey m₃ [⟨7⟩] [⟨7⟩] :=
    .step (.openExchange ⟨7⟩ .interactionModel ⟨5⟩) run₂ live
  obtain ⟨hkeys, hids, hzero, hlive⟩ := tables_consistent run₃
  exact ⟨by decide +kernel, by decide +kernel, hkeys, hids, hzero (by simp), hlive⟩

end MatterKit
