import MatterKit.Messaging.Lifetime
import MatterKit.Msg.Ideal

/-!
# At-most-once authentic delivery

Two nodes hold the two ends of one secure session, and a network between them drops, reorders,
duplicates and invents datagrams. What the receiver hands up on that session is what the sender
encrypted on it, each message at most once (`delivered_at_most_once`).

The primitives are idealised in one respect. An `IdealAead` decrypts relative to the log of the calls of
`aead_encrypt_in_place` made so far, and only what one of them produced.

The associated data binds the counter, so an authentic datagram carries the counter of the call that
produced it (`delivered_was_sent`); the sender never repeats a counter (`encrypted_eq_some`, and
`Later.bound` between calls); the receiver's window never accepts one twice (`Later.remembers`).
-/

namespace MatterKit

open Lib

variable {S X S' X' : ℕ}

/-! ## The system -/

/-- A message as the session carries it. -/
structure SecureMessage where
  counter : UInt32
  header : ProtocolHeader
  payload : List UInt8

namespace Messaging

/-- The counter of an authentic datagram. -/
def counterOf (c : Crypto) (m : Messaging S X) (buf : List UInt8) : UInt32 :=
  match m.authenticate c buf with
  | .ok (.message _ header _) => header.messageCounter
  | _ => 0

/-- The message that a call hands up on a session. -/
def handedUp (c : Crypto) (m : Messaging S X) (session : SessionId) : Call → Option SecureMessage
  | .receive buf peer now =>
    match (m.receive c buf peer now).1 with
    | .ok (.message key header _ payload) =>
      if key.session = session then some ⟨m.counterOf c buf, header, payload⟩ else none
    | _ => none
  | _ => none

end Messaging

/-- Two nodes, the AEAD calls the sender has made, the messages it has encrypted on the session, and
the messages the receiver has handed up from it. -/
structure Link (S X S' X' : ℕ) where
  sender : Messaging S X
  receiver : Messaging S' X'
  log : List AeadCall
  sent : List SecureMessage
  delivered : List SecureMessage

/-- What happens next: one of the two nodes is called. What the network does shows in the datagrams
that the receiver is called with. -/
inductive LinkEvent
  | sender (call : Call)
  | receiver (call : Call)

namespace LinkEvent

/-- No session is installed, and the receiver encrypts nothing. -/
def Allowed : LinkEvent → Prop
  | .sender call => call.installs = []
  | .receiver call => call.installs = [] ∧
      match call with
      | .send .. | .acknowledge .. => False
      | _ => True

end LinkEvent

namespace Link

/-- The link before anything has been encrypted. -/
def start (a : Messaging S X) (b : Messaging S' X') : Link S X S' X' := ⟨a, b, [], [], []⟩

/-- One event, on the session that is `ida` at the sender and `idb` at the receiver. -/
def step (aead : IdealAead) (ida idb : SessionId) (l : Link S X S' X') :
    LinkEvent → Link S X S' X'
  | .sender call =>
    let sender := l.sender.after (aead.toCrypto l.log) call
    match l.sender.encrypted call with
    | none => { l with sender := sender }
    | some (o, aeadCall) =>
      { l with
        sender := sender
        log := l.log ++ [aeadCall]
        sent := if o.session = ida then l.sent ++ [⟨o.counter, o.header, o.payload⟩]
          else l.sent }
  | .receiver call =>
    { l with
      receiver := l.receiver.after (aead.toCrypto l.log) call
      delivered := l.delivered ++
        (l.receiver.handedUp (aead.toCrypto l.log) idb call).toList }

/-- A finite run. -/
def run (aead : IdealAead) (ida idb : SessionId) (l : Link S X S' X')
    (events : List LinkEvent) : Link S X S' X' :=
  events.foldl (step aead ida idb) l

end Link

/-- The nodes `a` and `b` hold the two ends `sa` and `sb` of one session: the same keys, opposite
roles, matching ids. Local ids are unique, the receiver's is not that of the unsecured session, and
the key `a` encrypts with is this session's alone. -/
structure TwoEnds (a : Messaging S X) (b : Messaging S' X') (sa sb : SecureSession) : Prop where
  at_a : a.sessions.find sa.localSessionId = some sa
  at_b : b.sessions.find sb.localSessionId = some sb
  unique_a : a.sessions.Unique
  unique_b : b.sessions.Unique
  kind : sb.kind = sa.kind
  keys : sb.keys = sa.keys
  roles : sb.role = sa.role.other
  sessionIds : sa.peerSessionId = sb.localSessionId ∧ sb.peerSessionId = sa.localSessionId
  nodeIds : sa.peerNodeId = sb.localNodeId ∧ sb.peerNodeId = sa.localNodeId
  window : sb.window.kind = .secureUnicast
  secure : sb.localSessionId ≠ .unsecured
  key_own : ∀ s ∈ a.sessions.entries,
    (s.keys.sending s.role).encryption = (sa.keys.sending sa.role).encryption →
      s.localSessionId = sa.localSessionId

/-! ## The invariant -/

/-- What every run keeps, for the session `ida` at the sender and `idb` at the receiver with the key
`key` between them. -/
structure Link.Invariant (l : Link S X S' X') (ida idb : SessionId) (key : SymmetricKey) :
    Prop where
  unique_sender : l.sender.sessions.Unique
  unique_receiver : l.receiver.sessions.Unique
  /-- The key is that of one session, which has spent the counters of everything sent. -/
  sender : ∀ s ∈ l.sender.sessions.entries,
    ((s.keys.sending s.role).encryption = key → s.localSessionId = ida) ∧
      (s.localSessionId = ida → ∀ x ∈ l.sent, x.counter.toNat < s.counter.bound)
  /-- The receiver decrypts with the key, and its window knows everything delivered. -/
  receiver : ∀ s ∈ l.receiver.sessions.entries, s.localSessionId = idb →
    (s.keys.receiving s.role).encryption = key ∧ s.window.kind = .secureUnicast ∧
      ∀ x ∈ l.delivered, s.window.Remembers x.counter.toNat
  /-- A call under the key encrypted a message that was sent, under a header with its counter. -/
  log : ∀ call ∈ l.log, call.key = key → ∃ x ∈ l.sent, ∃ header : MessageHeader,
    call.aad = header.octets ∧ header.messageCounter = x.counter ∧
      call.plaintext = x.header.octets ++ x.payload
  sent_once : (l.sent.map SecureMessage.counter).Nodup
  delivered_once : (l.delivered.map SecureMessage.counter).Nodup
  delivered_sent : ∀ x ∈ l.delivered, x ∈ l.sent

namespace Link.Invariant

variable {ida idb : SessionId} {key : SymmetricKey}

lemma start {a : Messaging S X} {b : Messaging S' X'} {sa sb : SecureSession} (h : TwoEnds a b sa sb) :
    (Link.start a b).Invariant sa.localSessionId sb.localSessionId
      (sa.keys.sending sa.role).encryption where
  unique_sender := h.unique_a
  unique_receiver := h.unique_b
  sender := fun s hs => ⟨h.key_own s hs, fun _ x hx => by cases hx⟩
  receiver := by
    intro s hs hid
    have hfind := (SessionTable.find_eq_some_iff h.unique_b).mpr ⟨hs, hid⟩
    rw [h.at_b] at hfind
    obtain rfl := Option.some.inj hfind
    refine ⟨?_, h.window, fun x hx => by cases hx⟩
    rw [h.keys, h.roles, EstablishedKeys.receiving_other]
  log := fun call hcall => by cases hcall
  sent_once := List.nodup_nil
  delivered_once := List.nodup_nil
  delivered_sent := fun x hx => by cases hx

/-! ## The sender's half -/

variable {l : Link S X S' X'}

/-- The sessions of the sender after a call, as far as it has not encrypted anything new. -/
lemma sender_later (h : l.Invariant ida idb key) {t : SessionTable S} (ht : t.Later l.sender.sessions) :
    ∀ s ∈ t.entries, ((s.keys.sending s.role).encryption = key → s.localSessionId = ida) ∧
      (s.localSessionId = ida → ∀ x ∈ l.sent, x.counter.toNat < s.counter.bound) := by
  intro s' hs'
  obtain ⟨s, hs, hlater⟩ := ht.sessions s' hs'
  obtain ⟨hkey, hspent⟩ := h.sender s hs
  rw [hlater.keys, hlater.role, hlater.localSessionId]
  refine ⟨hkey, ?_⟩
  intro hid x hx
  exact lt_of_lt_of_le (hspent hid x hx) hlater.bound

/-- A call of the sender. If it encrypts a message on the session, the counter is one that nothing
sent before carries, and the session has spent it. -/
lemma sender_step (h : l.Invariant ida idb key) (aead : IdealAead) {call : Call}
    (hcall : call.installs = []) : (l.step aead ida idb (.sender call)).Invariant ida idb key := by
  have hlater := Messaging.later_after (aead.toCrypto l.log) l.sender hcall
  unfold Link.step
  simp only
  split
  · exact { h with
      unique_sender := hlater.unique h.unique_sender
      sender := h.sender_later hlater }
  · rename_i o aeadCall henc
    obtain ⟨s, now, header, hs, hkey, haad, hheader, hplain, hcounter, -, -⟩ :=
      Messaging.encrypted_eq_some henc
    obtain ⟨hmem, hid⟩ := SessionTable.find_eq_some hs
    have hgrow : ∀ x ∈ l.sent, x ∈ (if o.session = ida then
        l.sent ++ [⟨o.counter, o.header, o.payload⟩] else l.sent) := by
      intro x hx
      split
      · exact List.mem_append_left _ hx
      · exact hx
    refine ⟨hlater.unique h.unique_sender, h.unique_receiver, ?_, h.receiver, ?_, ?_,
      h.delivered_once, fun x hx => hgrow x (h.delivered_sent x hx)⟩
    · intro s' hs'
      obtain ⟨hown, hspent⟩ := h.sender_later hlater s' hs'
      refine ⟨hown, ?_⟩
      intro hid' x hx
      split at hx
      · rename_i hsession
        rcases List.mem_append.mp hx with hold | hnew
        · exact hspent hid' x hold
        · obtain rfl := List.mem_singleton.mp hnew
          exact Messaging.spent_of_encrypted henc h.unique_sender hs' (hid'.trans hsession.symm)
      · exact hspent hid' x hx
    · intro call hmem' hcallkey
      rcases List.mem_append.mp hmem' with hold | hnew
      · obtain ⟨x, hx, hrest⟩ := h.log call hold hcallkey
        exact ⟨x, hgrow x hx, hrest⟩
      · obtain rfl := List.mem_singleton.mp hnew
        have hsession : o.session = ida := by
          rw [← hid]
          exact (h.sender s hmem).1 (hkey.symm.trans hcallkey)
        refine ⟨⟨o.counter, o.header, o.payload⟩, ?_, header, haad, hheader, hplain⟩
        rw [if_pos hsession]
        exact List.mem_append_right _ List.mem_cons_self
    · split
      · rename_i hsession
        apply KeysUnique.append_singleton h.sent_once
        intro x hx heq
        have hlt := (h.sender s hmem).2 (hid.trans hsession) x hx
        have hsame := congrArg UInt32.toNat heq
        simp only at hsame
        omega
      · exact h.sent_once

/-! ## The receiver's half -/

/-- **An authentic message was sent.** What is authenticated on the session carries the counter, the
protocol header and the payload of a message that was encrypted on it. -/
lemma delivered_was_sent (h : l.Invariant ida idb key) (hsecure : idb ≠ .unsecured)
    {aead : IdealAead} {buf payload body : List UInt8} {header : MessageHeader} {ph : ProtocolHeader}
    (hauth : l.receiver.authenticate (aead.toCrypto l.log) buf = .ok (.message idb header payload))
    (hdec : ProtocolHeader.decode payload = .ok (ph, body)) :
    ⟨header.messageCounter, ph, body⟩ ∈ l.sent := by
  obtain ⟨-, hcase⟩ := Messaging.authenticate_message hauth
  obtain ⟨-, -, s, hs, hun⟩ := hcase.resolve_left fun hzero => hsecure hzero.1
  obtain ⟨hmem, hid⟩ := SessionTable.find_eq_some hs
  obtain ⟨clear, rest, n, ciphertext, tag, -, hdecode, -, hopen⟩ := unprotect_eq_ok hun
  rw [(h.receiver s hmem hid).1] at hopen
  obtain ⟨hlog, -⟩ := aead.authentic hopen
  obtain ⟨x, hx, header', haad, hcounter, hplain⟩ := h.log _ hlog rfl
  -- the octets that were authenticated are the header that was decoded, and no other
  have hclear : clear = header'.octets ++ clear.drop (clear.length - rest.length) := by
    rw [← haad]
    exact (List.take_append_drop _ _).symm
  have hheader : header = header' := by
    rw [hclear, MessageHeader.decode_octets_append] at hdecode
    simp only [Except.ok.injEq, Prod.mk.injEq] at hdecode
    exact hdecode.1.symm
  have hpayload : payload = x.header.octets ++ x.payload := hplain
  rw [hpayload, ProtocolHeader.decode_octets_append] at hdec
  simp only [Except.ok.injEq, Prod.mk.injEq] at hdec
  obtain ⟨rfl, rfl⟩ := hdec
  rw [hheader, hcounter]
  exact hx

/-- A call of the receiver that hands nothing up from the session. -/
lemma receiver_later (h : l.Invariant ida idb key) {t : SessionTable S'}
    (ht : t.Later l.receiver.sessions) : ∀ s ∈ t.entries, s.localSessionId = idb →
      (s.keys.receiving s.role).encryption = key ∧ s.window.kind = .secureUnicast ∧
        ∀ x ∈ l.delivered, s.window.Remembers x.counter.toNat := by
  intro s' hs' hid
  obtain ⟨s, hs, hlater⟩ := ht.sessions s' hs'
  obtain ⟨hkey, hkind, hknown⟩ := h.receiver s hs (hlater.localSessionId.symm.trans hid)
  rw [hlater.keys, hlater.role, hlater.kind]
  exact ⟨hkey, hkind, fun x hx => hlater.remembers hkind _ (hknown x hx)⟩

end Link.Invariant

/-- A call that hands a message up from a session received a datagram that authenticates on it as
new. -/
lemma Messaging.handedUp_eq_some {c : Crypto} {m : Messaging S X} {session : SessionId} {call : Call}
    {x : SecureMessage} (h : m.handedUp c session call = some x) :
    ∃ buf peer now header payload, call = .receive buf peer now ∧
      m.authenticate c buf = .ok (.message session header payload) ∧
      ProtocolHeader.decode payload = .ok (x.header, x.payload) ∧
      x.counter = header.messageCounter ∧ header.sessionId = session ∧ m.verdict header = .new ∧
      (m.after c call).sessions = (m.judged header peer now).sessions := by
  cases call with
  | receive buf peer now =>
    simp only [handedUp] at h
    split at h
    · rename_i key ph needsAck body hmsg
      split at h
      · rename_i hsession
        obtain rfl := Option.some.inj h
        obtain ⟨sid, header, payload, hauth, hdec, hnew, rfl, hsessions⟩ :=
          receive_eq_message (Prod.ext hmsg rfl)
        have hsid : header.sessionId = session := hsession
        obtain ⟨hsame, -⟩ := authenticate_message hauth
        rw [← hsame, hsid] at hauth
        refine ⟨buf, peer, now, header, payload, rfl, hauth, hdec, ?_, hsid, hnew, hsessions⟩
        unfold counterOf
        rw [hauth]
      · cases h
    · cases h
  | _ => cases h

namespace Link.Invariant

variable {ida idb : SessionId} {key : SymmetricKey}

/-- A call of the receiver. A message it hands up is one that was sent, and its counter is one that
nothing delivered before carries. -/
lemma receiver_step {l : Link S X S' X'} (h : l.Invariant ida idb key)
    (hsecure : idb ≠ .unsecured) (aead : IdealAead) {call : Call} (hcall : call.installs = []) :
    (l.step aead ida idb (.receiver call)).Invariant ida idb key := by
  have hlater := Messaging.later_after (aead.toCrypto l.log) l.receiver hcall
  have hunique := hlater.unique h.unique_receiver
  unfold Link.step
  rcases hup : l.receiver.handedUp (aead.toCrypto l.log) idb call with _ | x
  · simp only [hup, Option.toList_none, List.append_nil]
    exact { h with
      unique_receiver := hunique
      receiver := h.receiver_later hlater }
  · simp only [hup, Option.toList_some]
    obtain ⟨buf, peer, now, header, payload, rfl, hauth, hdec, hcounter, hsid, hnew, hsessions⟩ :=
      Messaging.handedUp_eq_some hup
    have hsent := h.delivered_was_sent hsecure hauth hdec
    obtain ⟨-, hcase⟩ := Messaging.authenticate_message hauth
    obtain ⟨-, hunsec, s, hs, -⟩ := hcase.resolve_left fun hzero => hsecure hzero.1
    obtain ⟨hmem, hid⟩ := SessionTable.find_eq_some hs
    obtain ⟨-, hkind, hknown⟩ := h.receiver s hmem hid
    rw [← hsid] at hs
    rw [Messaging.verdict_of_find hunsec hs] at hnew
    have hunknown : ¬ s.window.Remembers x.counter.toNat := by
      rw [hcounter, ← CounterWindow.accept_eq_duplicate_iff hkind]
      unfold CounterWindow.wouldAccept at hnew
      rw [hnew]
      simp
    refine ⟨h.unique_sender, hunique, h.sender, ?_, h.log, h.sent_once, ?_, ?_⟩
    · intro s' hs' hid'
      obtain ⟨hkey', hkind', hold⟩ := h.receiver_later hlater s' hs' hid'
      refine ⟨hkey', hkind', ?_⟩
      intro y hy
      rcases List.mem_append.mp hy with hy | hy
      · exact hold y hy
      · obtain rfl := List.mem_singleton.mp hy
        -- the session that has heard the message is the only one with its id
        have hfind := (SessionTable.find_eq_some_iff hunique).mpr ⟨hs', hid'⟩
        rw [hsessions, ← hsid, Messaging.find_judged hunsec hs] at hfind
        obtain rfl := Option.some.inj hfind
        rw [hcounter]
        exact CounterWindow.remembers_accept_self hkind header.messageCounter
    · apply KeysUnique.append_singleton h.delivered_once
      intro y hy heq
      apply hunknown
      rw [← heq]
      exact hknown y hy
    · intro y hy
      rcases List.mem_append.mp hy with hy | hy
      · exact h.delivered_sent y hy
      · obtain rfl := List.mem_singleton.mp hy
        rw [← hcounter] at hsent
        exact hsent

lemma step {l : Link S X S' X'} (h : l.Invariant ida idb key) (hsecure : idb ≠ .unsecured)
    (aead : IdealAead) {event : LinkEvent} (hevent : event.Allowed) :
    (l.step aead ida idb event).Invariant ida idb key := by
  cases event with
  | sender call => exact h.sender_step aead hevent
  | receiver call => exact h.receiver_step hsecure aead hevent.1

lemma run {l : Link S X S' X'} (h : l.Invariant ida idb key) (hsecure : idb ≠ .unsecured)
    (aead : IdealAead) {events : List LinkEvent} (hevents : ∀ event ∈ events, event.Allowed) :
    (l.run aead ida idb events).Invariant ida idb key := by
  induction events generalizing l with
  | nil => exact h
  | cons event events ih =>
    apply ih
    · exact h.step hsecure aead (hevents event List.mem_cons_self)
    · intro event' hevent'
      exact hevents event' (List.mem_cons_of_mem _ hevent')

end Link.Invariant

/-! ## Every run -/

/-- **At-most-once authentic delivery.** In every run of a sender and a receiver that hold the two ends
of a session, over an ideal AEAD and any network: everything handed up was sent, counter, protocol
header and payload; and no two messages sent, and no two handed up, carry the same counter. -/
theorem delivered_at_most_once (aead : IdealAead) {a : Messaging S X} {b : Messaging S' X'}
    {sa sb : SecureSession} (ends : TwoEnds a b sa sb) (events : List LinkEvent)
    (hevents : ∀ event ∈ events, event.Allowed) :
    let l := (Link.start a b).run aead sa.localSessionId sb.localSessionId events
    (∀ x ∈ l.delivered, x ∈ l.sent) ∧ (l.sent.map SecureMessage.counter).Nodup ∧
      (l.delivered.map SecureMessage.counter).Nodup := by
  have h := (Link.Invariant.start ends).run ends.secure aead hevents
  exact ⟨h.delivered_sent, h.sent_once, h.delivered_once⟩

/-- The keys of a session for concrete runs, different in the two directions. -/
def sampleKeys : EstablishedKeys :=
  let key (n : UInt8) : SymmetricKey := ⟨Vector.replicate 16 n⟩
  ⟨⟨key 1, key 2⟩, ⟨key 3, key 4⟩, key 5⟩

/-- The initiator's end of a session. -/
def sampleInitiator : SecureSession :=
  { SecureSession.new ⟨1⟩ ⟨2⟩ .caseSession .initiator sampleKeys 0 ⟨0⟩ with
    localNodeId := ⟨10⟩, peerNodeId := ⟨20⟩ }

/-- The responder's end of the same session. -/
def sampleResponder : SecureSession :=
  { SecureSession.new ⟨2⟩ ⟨1⟩ .caseSession .responder sampleKeys 0 ⟨0⟩ with
    localNodeId := ⟨20⟩, peerNodeId := ⟨10⟩ }

/-- A node with one session. -/
def nodeWith (s : SecureSession) : Messaging 2 2 :=
  (Messaging.new 1 1 0).after .tagByKey (.installSession s ⟨0⟩ 0 64 64)

lemma twoEnds_sample : TwoEnds (nodeWith sampleInitiator) (nodeWith sampleResponder)
    sampleInitiator sampleResponder where
  at_a := by decide +kernel
  at_b := by decide +kernel
  unique_a := by
    show (List.map _ _).Nodup
    decide +kernel
  unique_b := by
    show (List.map _ _).Nodup
    decide +kernel
  kind := rfl
  keys := rfl
  roles := rfl
  sessionIds := ⟨rfl, rfl⟩
  nodeIds := ⟨rfl, rfl⟩
  window := rfl
  secure := by decide
  key_own := by decide +kernel

/-- One message is sent and arrives twice: it is handed up once. -/
theorem delivered_at_most_once_replayed :
    let a := nodeWith sampleInitiator
    let b := nodeWith sampleResponder
    let c := IdealAead.lookup.toCrypto []
    let open' : Call := .openExchange ⟨1⟩ .interactionModel ⟨0⟩
    let send : Call := .send ⟨⟨1⟩, ⟨1⟩, .initiator⟩ 2 true [1, 2, 3] ⟨0⟩ 0 64 64
    let datagram := match ((a.after c open').send c ⟨⟨1⟩, ⟨1⟩, .initiator⟩ 2 true [1, 2, 3] ⟨0⟩ 0
        64 64).1 with
      | .ok (datagram, _) => datagram
      | .error _ => []
    let arrives : LinkEvent := .receiver (.receive datagram (Messaging.udpPeer 5540) ⟨0⟩)
    let l := (Link.start a b).run .lookup ⟨1⟩ ⟨2⟩ [.sender open', .sender send, arrives, arrives]
    l.sent.length = 1 ∧ l.delivered.length = 1 ∧ (∀ x ∈ l.delivered, x ∈ l.sent) ∧
      (l.sent.map SecureMessage.counter).Nodup ∧ (l.delivered.map SecureMessage.counter).Nodup := by
  intro a b c open' send datagram arrives l
  have hallowed : ∀ event ∈ [LinkEvent.sender open', .sender send, arrives, arrives],
      event.Allowed := by
    intro event hevent
    simp only [List.mem_cons, List.not_mem_nil, or_false, or_self] at hevent
    rcases hevent with rfl | rfl | rfl
    · exact rfl
    · exact rfl
    · exact ⟨rfl, trivial⟩
  refine ⟨by decide +kernel, by decide +kernel, ?_⟩
  exact delivered_at_most_once .lookup twoEnds_sample _ hallowed

end MatterKit
