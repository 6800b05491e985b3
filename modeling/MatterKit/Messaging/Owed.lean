import MatterKit.Messaging.Acknowledge
import MatterKit.Messaging.Consistency

/-!
# Acknowledgements and failed sends

`send` and `acknowledge` take the acknowledgement an exchange owes before they take a counter, frame the
message, encrypt it and, for a reliable one, record it, and each of these can fail. Nothing puts the
acknowledgement back. So a call that fails loses it (`exchanges_send_of_error`,
`exchanges_acknowledge_of_error`), and the acknowledgements owed survive every failure of a call exactly
if the call cannot fail while there is something to lose.

Whether it can is decided by the state before it.
-/

namespace MatterKit

open Lib

variable {S X : ℕ}

/-! ## When a message is framed -/

/-- The header of a message on a secure session has no node ids. -/
lemma Messaging.length_octets_secureHeader (m : Messaging S X) (s : SecureSession)
    (counter : UInt32) : (m.secureHeader s counter).octets.length = 8 := by
  simp [Messaging.secureHeader, MessageHeader.octets, MessageHeader.fields,
    MessageHeader.sourceField, MessageHeader.destinationField]

lemma xorHeader_of_le (c : Crypto) (key : SymmetricKey) (n : List UInt8) {len : ℕ} (e : ErrorCode)
    {buf : List UInt8} (hlen : len ≤ 24) (hfits : privacyOffset + len ≤ buf.length) :
    ∃ out, xorHeader c key n len e buf = .ok out := by
  have hblocks : (((buf.drop privacyOffset).take len).length + 15) / 16 ≤ 65536 := by
    rw [List.length_take, List.length_drop]
    omega
  unfold xorHeader privacyXor
  rw [ensure_of hfits, ensure_of hblocks]
  exact ⟨_, rfl⟩

/-- The cipher takes a message from the session. -/
def SecureSession.Encrypts (c : Crypto) (s : SecureSession) (header : MessageHeader)
    (plaintext : List UInt8) : Prop :=
  ∃ source, s.sendNonceSource.resolve header = .ok source ∧
    (c.aeadEncrypt (s.keys.sending s.role).encryption
      (nonce header.securityFlags header.messageCounter source) header.octets plaintext).isSome

/-- Only a message that is still pending refuses another one. -/
lemma Mrp.onSend_of_none {m : Mrp} (h : m.pendingTx = none) (counter : UInt32) (now : Instant)
    (randomness : UInt32) : ∃ m', m.onSend counter now randomness = .ok m' := by
  unfold Mrp.onSend
  rw [h]
  exact ⟨_, rfl⟩

lemma Mrp.onSend_of_pending {m : Mrp} (h : m.pendingTx ≠ none) (counter : UInt32) (now : Instant)
    (randomness : UInt32) : m.onSend counter now randomness = .error .busy :=
  if_pos (Option.isSome_iff_ne_none.mpr h)

namespace Messaging

/-- The message fits the scratch and the output buffer and, on a secure session, is encrypted: its
tag takes sixteen more octets. -/
def Fits (c : Crypto) (m : Messaging S X) (o : Outgoing) (scratchLen outLen : ℕ) : Prop :=
  let body := o.header.octets ++ o.payload
  body.length ≤ scratchLen ∧
    (o.session = .unsecured →
      (m.unsecuredHeader o.counter).octets.length + body.length ≤ outLen) ∧
    (o.session ≠ .unsecured → ∃ s, m.sessions.find o.session = some s ∧
      s.peerSessionId.val ≠ 0 ∧ s.Encrypts c (m.secureHeader s o.counter) body ∧
      (m.secureHeader s o.counter).octets.length + body.length + micLength ≤ outLen)

variable {header : ProtocolHeader} {outLen scratchLen : ℕ} {c : Crypto} {m m' : Messaging S X}
  {key : ExchangeKey} {e : Exchange} {payload : List UInt8}

/-- Joining succeeds exactly when the scratch is long enough. -/
lemma joinBody_eq_ok_iff {payload body : List UInt8} : joinBody header payload scratchLen = .ok body ↔
      body = header.octets ++ payload ∧ body.length ≤ scratchLen := by
  unfold joinBody
  rw [ProtocolHeader.encode_eq]
  constructor
  · intro h
    obtain ⟨head, hhead, hrest⟩ := bind_eq_ok.mp h
    obtain ⟨_, hfits, hbody⟩ := bind_eq_ok.mp hrest
    split at hhead
    · cases hhead
      cases hbody
      exact ⟨rfl, by rw [List.length_append]; exact ensure_eq_ok.mp hfits⟩
    · cases hhead
  · rintro ⟨rfl, hfits⟩
    rw [List.length_append] at hfits
    rw [if_pos (by omega), ok_bind, ensure_of hfits]
    rfl

/-- Encrypting a message of a secure session succeeds exactly when the cipher takes it and the buffer
holds it with its tag. -/
lemma protect_secure_iff (c : Crypto) (m : Messaging S X) (s : SecureSession) (counter : UInt32)
    (body : List UInt8) (outLen : ℕ) :
    (∃ datagram, protect c (m.secureHeader s counter) s.sendNonceSource body
        (s.keys.sending s.role) outLen = .ok datagram) ↔
      s.peerSessionId.val ≠ 0 ∧ s.Encrypts c (m.secureHeader s counter) body ∧
        (m.secureHeader s counter).octets.length + body.length + micLength ≤ outLen := by
  have hlength := m.length_octets_secureHeader s counter
  have hunsecured : (m.secureHeader s counter).isUnsecured = false ↔ s.peerSessionId.val ≠ 0 := by
    simp [secureHeader, MessageHeader.isUnsecured]
  constructor
  · rintro ⟨datagram, h⟩
    unfold protect at h
    obtain ⟨call, hcall, h₁⟩ := bind_eq_ok.mp h
    obtain ⟨⟨ciphertext, tag⟩, hcipher, h₂⟩ := bind_eq_ok.mp h₁
    obtain ⟨_, hfits, -⟩ := bind_eq_ok.mp h₂
    unfold protectCall at hcall
    obtain ⟨_, hsecure, hcall₁⟩ := bind_eq_ok.mp hcall
    obtain ⟨_, -, hcall₂⟩ := bind_eq_ok.mp hcall₁
    obtain ⟨aad, haad, hcall₃⟩ := bind_eq_ok.mp hcall₂
    obtain ⟨source, hsource, hcall₄⟩ := bind_eq_ok.mp hcall₃
    obtain ⟨_, -, hcall₅⟩ := bind_eq_ok.mp hcall₄
    obtain ⟨_, -, hcall₆⟩ := bind_eq_ok.mp hcall₅
    cases hcall₆
    rw [MessageHeader.encode_eq] at haad
    split at haad
    · cases haad
      refine ⟨hunsecured.mp (ensure_eq_ok.mp hsecure), ⟨source, hsource, ?_⟩,
        ensure_eq_ok.mp hfits⟩
      rw [okOr_eq_ok.mp hcipher]
      rfl
    · cases haad
  · rintro ⟨hpeer, ⟨source, hsource, hcipher⟩, hfits⟩
    obtain ⟨⟨ciphertext, tag⟩, hsome⟩ := Option.isSome_iff_exists.mp hcipher
    have hmic : micLength = 16 := rfl
    have hgroup : ¬ ((m.secureHeader s counter).sessionType = .group ∧
        (m.secureHeader s counter).source = none) := by
      simp [secureHeader]
    have hcall : protectCall (m.secureHeader s counter) s.sendNonceSource body
        (s.keys.sending s.role) outLen = .ok
          { key := (s.keys.sending s.role).encryption
            nonce := nonce (m.secureHeader s counter).securityFlags
              (m.secureHeader s counter).messageCounter source
            aad := (m.secureHeader s counter).octets
            plaintext := body } := by
      unfold protectCall
      rw [ensure_of (hunsecured.mpr hpeer), ensure_of hgroup, MessageHeader.encode_eq,
        if_pos (by omega), hsource]
      simp only [ok_bind, hlength]
      rw [ensure_of (by decide), ensure_of (by omega)]
      rfl
    obtain ⟨hct, htag⟩ := c.length_encrypt hsome
    unfold protect
    rw [hcall, ok_bind, hsome, okOr_some, ok_bind]
    simp only
    rw [ensure_of hfits, ok_bind]
    split
    · have hclear : privacyLen (m.secureHeader s counter) = 4 := by
        simp [privacyLen, secureHeader, MessageHeader.sourceField, MessageHeader.destinationField]
      rw [hclear]
      apply xorHeader_of_le
      · norm_num
      · rw [List.length_append, List.length_append, hlength]
        unfold privacyOffset
        omega
    · exact ⟨_, rfl⟩

/-- Framing succeeds exactly on the messages that fit. -/
lemma frame_isOk_iff (c : Crypto) (m : Messaging S X) (o : Outgoing) (scratchLen outLen : ℕ) :
    (∃ datagram, m.frame c o scratchLen outLen = .ok datagram) ↔ m.Fits c o scratchLen outLen := by
  constructor
  · rintro ⟨datagram, h⟩
    unfold frame at h
    obtain ⟨body, hbody, h₁⟩ := bind_eq_ok.mp h
    obtain ⟨rfl, hscratch⟩ := joinBody_eq_ok_iff.mp hbody
    split at h₁
    · rename_i hsession
      obtain ⟨header, hheader, h₂⟩ := bind_eq_ok.mp h₁
      obtain ⟨_, hfits, -⟩ := bind_eq_ok.mp h₂
      rw [MessageHeader.encode_eq] at hheader
      split at hheader
      · cases hheader
        exact ⟨hscratch, fun _ => ensure_eq_ok.mp hfits, fun hne => absurd hsession hne⟩
      · cases hheader
    · rename_i hsession
      obtain ⟨s, hs, h₂⟩ := bind_eq_ok.mp h₁
      have hprotect := (protect_secure_iff c m s o.counter _ outLen).mp ⟨datagram, h₂⟩
      exact ⟨hscratch, fun heq => absurd heq hsession, fun _ => ⟨s, okOr_eq_ok.mp hs, hprotect⟩⟩
  · rintro ⟨hscratch, hunsecured, hsecure⟩
    unfold frame
    rw [joinBody_eq_ok_iff.mpr ⟨rfl, hscratch⟩, ok_bind]
    split
    · rename_i hsession
      have hfits := hunsecured hsession
      rw [MessageHeader.encode_eq, if_pos (by omega), ok_bind, ensure_of hfits]
      exact ⟨_, rfl⟩
    · rename_i hsession
      obtain ⟨s, hs, hprotect⟩ := hsecure hsession
      rw [hs, okOr_some, ok_bind]
      exact (protect_secure_iff c m s o.counter _ outLen).mpr hprotect

/-! ## When a message has a counter -/

/-- The counter the next message of a session takes, if there is one left. -/
def nextValue (m : Messaging S X) (session : SessionId) : Option UInt32 :=
  if session = .unsecured then
    if m.unsecuredCounter.exhausted then none else some m.unsecuredCounter.next
  else
    (m.sessions.find session).bind fun s => if s.counter.exhausted then none else some s.counter.next

/-- A message that has a counter to take and fits with it. -/
def Sendable (c : Crypto) (m : Messaging S X) (session : SessionId) (header : ProtocolHeader)
    (payload : List UInt8) (scratchLen outLen : ℕ) : Prop :=
  ∃ counter, m.nextValue session = some counter ∧
    m.Fits c ⟨session, counter, header, payload⟩ scratchLen outLen

lemma nextCounter_fst (m : Messaging S X) (session : SessionId) (now : Instant) (counter : UInt32) :
    (m.nextCounter session now).1 = .ok counter ↔ m.nextValue session = some counter := by
  unfold nextCounter nextValue
  by_cases hsession : session = .unsecured
  · rw [if_pos hsession, if_pos hsession]
    unfold MessageCounter.take
    split_ifs <;> simp
  · rw [if_neg hsession, if_neg hsession]
    rcases m.sessions.find session with _ | s
    · simp
    · simp only [SecureSession.nextCounter, MessageCounter.take, Option.bind_some]
      split_ifs <;> simp

/-- What a message fits is the same after its counter has been taken. -/
lemma fits_congr {o : Outgoing} (now : Instant) (hpeer : m'.unsecuredPeer = m.unsecuredPeer)
    (hprivacy : m'.privacy = m.privacy) (hfind : o.session ≠ .unsecured → m'.sessions.find o.session =
      (m.sessions.find o.session).map fun s => (s.nextCounter now).2) :
    m'.Fits c o scratchLen outLen ↔ m.Fits c o scratchLen outLen := by
  have hheader : m'.unsecuredHeader o.counter = m.unsecuredHeader o.counter := by
    unfold unsecuredHeader
    rw [hpeer]
  have hsecure (s : SecureSession) :
      m'.secureHeader (s.nextCounter now).2 o.counter = m.secureHeader s o.counter := by
    unfold secureHeader
    rw [hprivacy]
    rfl
  have hencrypts (s : SecureSession) (header : MessageHeader) (body : List UInt8) :
      (s.nextCounter now).2.Encrypts c header body ↔ s.Encrypts c header body := Iff.rfl
  unfold Fits
  simp only [hheader]
  refine and_congr_right fun _ => and_congr_right fun _ => forall_congr' fun hne => ?_
  rw [hfind hne]
  constructor
  · rintro ⟨s', hs', hid, hcipher, hlen⟩
    obtain ⟨s, hs, rfl⟩ := Option.map_eq_some_iff.mp hs'
    rw [hsecure] at hcipher hlen
    exact ⟨s, hs, hid, (hencrypts s _ _).mp hcipher, hlen⟩
  · rintro ⟨s, hs, hid, hcipher, hlen⟩
    refine ⟨(s.nextCounter now).2, ?_, hid, ?_, ?_⟩
    · rw [hs]
      rfl
    · rw [hsecure]
      exact (hencrypts s _ _).mpr hcipher
    · rw [hsecure]
      exact hlen

/-! ## What stamping leaves -/

/-- The exchange table once the acknowledgement of an exchange has been taken. -/
def withoutAck (m : Messaging S X) (key : ExchangeKey) : ExchangeTable X :=
  m.exchanges.modify key fun e => { e with mrp := e.mrp.takePiggyback.2 }

lemma exchanges_nextCounter (m : Messaging S X) (session : SessionId) (now : Instant) :
    (m.nextCounter session now).2.exchanges = m.exchanges := by
  unfold nextCounter
  split
  · rfl
  · split
    · rfl
    · rfl

/-- Stamping fails exactly when there is no counter, and the acknowledgement is gone either way. -/
lemma stamp_cases (c : Crypto) (m : Messaging S X) (key : ExchangeKey) (header : ProtocolHeader)
    (payload : List UInt8) (now : Instant) :
    (m.nextValue key.session = none ∧ ∃ err m', m.stamp key header payload now = (.error err, m') ∧
      m'.exchanges = m.withoutAck key) ∨ (∃ counter m', m.nextValue key.session = some counter ∧
      m.stamp key header payload now = (.ok ⟨key.session, counter, header, payload⟩, m') ∧
      m'.exchanges = m.withoutAck key ∧
      ∀ scratchLen outLen, m'.Fits c ⟨key.session, counter, header, payload⟩ scratchLen outLen ↔
        m.Fits c ⟨key.session, counter, header, payload⟩ scratchLen outLen) := by
  set m₀ := m.updateExchange key fun e => { e with mrp := e.mrp.takePiggyback.2 } with hm₀
  have hvalue : m₀.nextValue key.session = m.nextValue key.session := rfl
  have hexchanges : (m₀.nextCounter key.session now).2.exchanges = m.withoutAck key :=
    exchanges_nextCounter m₀ key.session now
  rcases hnext : m₀.nextCounter key.session now with ⟨err | counter, m'⟩
  · left
    refine ⟨?_, err, m', ?_, ?_⟩
    · rw [Option.eq_none_iff_forall_ne_some]
      intro counter hcounter
      have hok := (nextCounter_fst m₀ key.session now counter).mpr (hvalue.trans hcounter)
      rw [hnext] at hok
      exact absurd hok (by simp)
    · unfold stamp
      simp only [← hm₀, hnext]
    · rw [hnext] at hexchanges
      exact hexchanges
  · right
    have hcounter := (nextCounter_fst m₀ key.session now counter).mp (by rw [hnext])
    refine ⟨counter, m', hvalue.symm.trans hcounter, ?_, ?_, ?_⟩
    · unfold stamp
      simp only [← hm₀, hnext]
    · rw [hnext] at hexchanges
      exact hexchanges
    · intro scratchLen outLen
      obtain rfl : (m₀.nextCounter key.session now).2 = m' := congrArg Prod.snd hnext
      unfold nextCounter
      by_cases hsession : key.session = .unsecured
      · rw [if_pos hsession]
        exact fits_congr now rfl rfl fun hne => absurd hsession hne
      · rw [if_neg hsession]
        split
        · exact Iff.rfl
        · have hfind := (SessionTable.find_modify m.sessions key.session key.session
            fun s => s.localSessionId_nextCounter now).trans (if_pos rfl)
          exact fits_congr now rfl rfl fun _ => hfind

/-! ## What a failed call leaves -/

/-- Every acknowledgement that was owed still is, on its exchange. -/
def KeepsOwed (m m' : Messaging S X) : Prop :=
  ∀ e ∈ m.exchanges.entries, ∀ ack, e.mrp.pendingAck = some ack →
    ∃ e' ∈ m'.exchanges.entries, e'.key = e.key ∧ e'.mrp.pendingAck = some ack

lemma keepsOwed_of_eq (h : m'.exchanges = m.exchanges) : m.KeepsOwed m' := by
  intro e he ack hack
  exact ⟨e, h ▸ he, rfl, hack⟩

/-- Taking the acknowledgement of an exchange keeps what is owed only if it owed none. -/
lemma keepsOwed_withoutAck_iff (hu : m.exchanges.Unique) (hfind : m.exchanges.find key = some e)
    (h : m'.exchanges = m.withoutAck key) : m.KeepsOwed m' ↔ e.mrp.pendingAck = none := by
  obtain ⟨he, hkey⟩ := (ExchangeTable.find_eq_some_iff hu).mp hfind
  constructor
  · intro hkeeps
    rcases hack : e.mrp.pendingAck with _ | ack
    · rfl
    · obtain ⟨e', he', hkey', hack'⟩ := hkeeps e he ack hack
      rw [h, withoutAck, ExchangeTable.mem_modify_iff hu] at he'
      rcases he' with ⟨-, hne⟩ | ⟨x, -, -, rfl⟩
      · exact absurd (hkey'.trans hkey) hne
      · exact absurd hack' (by simp [Mrp.takePiggyback])
  · intro hnone e' he' ack hack
    rw [h, withoutAck]
    by_cases hkey' : e'.key = key
    · obtain rfl : e' = e := KeysUnique.eq_of_key_eq hu he' he (hkey'.trans hkey.symm)
      exact absurd (hnone.symm.trans hack) (by simp)
    · exact ⟨e', (ExchangeTable.mem_modify_iff hu).mpr (.inl ⟨he', hkey'⟩), rfl, hack⟩

/-- Remembering a message that was stamped fails exactly when another is pending. -/
lemma recordSend_withoutAck (hfind : m.exchanges.find key = some e)
    (h : m'.exchanges = m.withoutAck key) (counter : UInt32) (now : Instant) (randomness : UInt32) :
    (e.mrp.pendingTx = none ∧ ∃ m'', m'.recordSend key counter now randomness = (.ok (), m'')) ∨
      (e.mrp.pendingTx ≠ none ∧ m'.recordSend key counter now randomness = (.error .busy, m')) := by
  have hfind' : m'.exchanges.find key = some { e with mrp := e.mrp.takePiggyback.2 } := by
    rw [h, withoutAck, ExchangeTable.find_modify, if_pos rfl, hfind]
    · rfl
    · exact fun _ => rfl
  unfold recordSend
  rw [hfind']
  by_cases htx : e.mrp.pendingTx = none
  · obtain ⟨mrp, hmrp⟩ := Mrp.onSend_of_none (m := e.mrp.takePiggyback.2) htx counter now randomness
    left
    simp only [hmrp]
    exact ⟨htx, _, rfl⟩
  · have hbusy := Mrp.onSend_of_pending (m := e.mrp.takePiggyback.2) htx counter now randomness
    right
    simp only [hbusy]
    exact ⟨htx, trivial⟩

/-- What a call on an open exchange that owes an acknowledgement can do: it fails, having taken the
acknowledgement, exactly when `possible` is false. -/
def Takes {α : Type} (m : Messaging S X) (key : ExchangeKey) (possible : Prop)
    (result : Except ErrorCode α × Messaging S X) : Prop :=
  (possible ∧ ∃ a, result.1 = .ok a) ∨
    (¬ possible ∧ (∃ err, result.1 = .error err) ∧ result.2.exchanges = m.withoutAck key)

/-- Such a call keeps what is owed when it fails exactly if it owes nothing or cannot fail. -/
lemma Takes.keepsOwed_iff {α : Type} (hu : m.exchanges.Unique)
    (hfind : m.exchanges.find key = some e) {possible : Prop}
    {result : Except ErrorCode α × Messaging S X} (h : m.Takes key possible result) :
    (∀ err, result.1 = .error err → m.KeepsOwed result.2) ↔ (e.mrp.pendingAck ≠ none → possible) := by
  rcases h with ⟨hpossible, a, hok⟩ | ⟨himpossible, ⟨err, herr⟩, hafter⟩
  · refine iff_of_true (fun err herr => ?_) fun _ => hpossible
    exact absurd (hok.symm.trans herr) (by simp)
  · have hkeeps := keepsOwed_withoutAck_iff hu hfind hafter
    constructor
    · intro hall howes
      exact absurd (hkeeps.mp (hall err herr)) howes
    · intro hnothing _ _
      exact hkeeps.mpr (not_not.mp fun howes => himpossible (hnothing howes))

/-- A message is sendable from the state it was stamped in exactly if it is framed there. -/
lemma sendable_iff_framed {counter : UInt32} (hsome : m.nextValue key.session = some counter)
    (hfits : m'.Fits c ⟨key.session, counter, header, payload⟩ scratchLen outLen ↔
      m.Fits c ⟨key.session, counter, header, payload⟩ scratchLen outLen) :
    m.Sendable c key.session header payload scratchLen outLen ↔
      ∃ datagram, m'.frame c ⟨key.session, counter, header, payload⟩ scratchLen outLen =
        .ok datagram := by
  rw [frame_isOk_iff, hfits]
  constructor
  · rintro ⟨counter', hcounter', hfits'⟩
    rwa [Option.some.inj (hsome.symm.trans hcounter')]
  · exact fun hfits' => ⟨counter, hsome, hfits'⟩

lemma not_sendable_of_none {session : SessionId} (hnone : m.nextValue session = none) :
    ¬ m.Sendable c session header payload scratchLen outLen := by
  rintro ⟨counter, hcounter, -⟩
  exact absurd (hnone.symm.trans hcounter) (by simp)

/-- A message on an open exchange fails unless it can be sent and nothing is in the way of remembering
it. -/
lemma send_takes (c : Crypto) (hfind : m.exchanges.find key = some e) (opcode : UInt8)
    (reliable : Bool) (payload : List UInt8) (now : Instant) (randomness : UInt32) (scratchLen outLen : ℕ) :
    m.Takes key
      (m.Sendable c key.session (sendHeader key e opcode (reliable && !e.isTransportReliable)) payload
          scratchLen outLen ∧ ((reliable && !e.isTransportReliable) = true → e.mrp.pendingTx = none))
      (m.send c key opcode reliable payload now randomness scratchLen outLen) := by
  unfold send
  simp only [hfind]
  generalize (reliable && !e.isTransportReliable) = carried
  rcases stamp_cases c m key (sendHeader key e opcode carried) payload now with
    ⟨hnone, err, m', hstamp, hafter⟩ | ⟨counter, m', hsome, hstamp, hafter, hfits⟩
  · rw [hstamp]
    exact .inr ⟨fun h => not_sendable_of_none hnone h.1, ⟨err, rfl⟩, hafter⟩
  · have hsendable := sendable_iff_framed hsome (hfits scratchLen outLen)
    rw [hsendable, hstamp]
    rcases hframe : m'.frame c ⟨key.session, counter, sendHeader key e opcode carried, payload⟩ scratchLen
        outLen with err | datagram
    · right
      simp only [hframe]
      exact ⟨by simp, ⟨err, rfl⟩, hafter⟩
    · simp only [hframe]
      cases carried with
      | false => exact .inl ⟨⟨⟨datagram, rfl⟩, by simp⟩, _, rfl⟩
      | true =>
        rcases recordSend_withoutAck hfind hafter counter now randomness with
          ⟨htx, m'', hrecord⟩ | ⟨htx, hrecord⟩
        · left
          rw [if_pos rfl, hrecord]
          exact ⟨⟨⟨datagram, rfl⟩, fun _ => htx⟩, _, rfl⟩
        · right
          rw [if_pos rfl, hrecord]
          exact ⟨fun h => htx (h.2 rfl), ⟨_, rfl⟩, hafter⟩

/-- So does an acknowledgement that is owed. -/
lemma acknowledge_takes (c : Crypto) (hfind : m.exchanges.find key = some e) {ack : PendingAck}
    (hack : e.mrp.pendingAck = some ack) (now : Instant) (outLen : ℕ) : m.Takes key
      (m.Sendable c key.session (standaloneAckHeader key ack.counter) [] protocolHeaderMax outLen)
      (m.acknowledge c key now outLen) := by
  unfold acknowledge
  simp only [hfind, Mrp.takePiggyback, hack, Option.map_some]
  rcases stamp_cases c m key (standaloneAckHeader key ack.counter) [] now with
    ⟨hnone, err, m', hstamp, hafter⟩ | ⟨counter, m', hsome, hstamp, hafter, hfits⟩
  · rw [hstamp]
    exact .inr ⟨not_sendable_of_none hnone, ⟨err, rfl⟩, hafter⟩
  · have hsendable := sendable_iff_framed hsome (hfits protocolHeaderMax outLen)
    rw [hsendable, hstamp]
    rcases hframe : m'.frame c ⟨key.session, counter, standaloneAckHeader key ack.counter, []⟩
        protocolHeaderMax outLen with err | datagram
    · right
      simp only [hframe]
      exact ⟨by simp, ⟨err, rfl⟩, hafter⟩
    · left
      simp only [hframe]
      exact ⟨⟨datagram, rfl⟩, datagram, rfl⟩

/-- **Owed acknowledgements and failures.** In every reachable state the acknowledgements owed survive a
`send` that fails, or an `acknowledge` that fails, exactly if the call cannot fail while its exchange
owes one. -/
theorem owed_kept_iff {c : Crypto} {m : Messaging S X} (h : Reachable c m) (key : ExchangeKey) :
    (∀ opcode reliable payload now randomness scratchLen outLen,
      (∀ err, (m.send c key opcode reliable payload now randomness scratchLen outLen).1 = .error err →
        m.KeepsOwed (m.send c key opcode reliable payload now randomness scratchLen outLen).2) ↔
      ∀ e, m.exchanges.find key = some e → e.mrp.pendingAck ≠ none →
        m.Sendable c key.session (sendHeader key e opcode (reliable && !e.isTransportReliable)) payload
            scratchLen outLen ∧ ((reliable && !e.isTransportReliable) = true → e.mrp.pendingTx = none)) ∧
    (∀ now outLen, (∀ err, (m.acknowledge c key now outLen).1 = .error err →
        m.KeepsOwed (m.acknowledge c key now outLen).2) ↔
      ∀ e ack, m.exchanges.find key = some e → e.mrp.pendingAck = some ack →
        m.Sendable c key.session (standaloneAckHeader key ack.counter) [] protocolHeaderMax outLen) := by
  have hu := h.consistent.exchanges_unique
  rcases hfind : m.exchanges.find key with _ | e
  · constructor
    · intro opcode reliable payload now randomness scratchLen outLen
      refine iff_of_true (fun err _ => keepsOwed_of_eq ?_) (by simp)
      unfold send
      rw [hfind]
    · intro now outLen
      refine iff_of_true (fun err _ => keepsOwed_of_eq ?_) (by simp)
      unfold acknowledge
      rw [hfind]
  · constructor
    · intro opcode reliable payload now randomness scratchLen outLen
      rw [(send_takes c hfind opcode reliable payload now randomness scratchLen outLen).keepsOwed_iff hu
        hfind]
      constructor
      · intro hpossible e' he'
        obtain rfl := Option.some.inj he'
        exact hpossible
      · exact fun hall => hall e rfl
    · intro now outLen
      rcases hack : e.mrp.pendingAck with _ | ack
      · refine iff_of_true (fun err herr => ?_) ?_
        · rw [acknowledge_of_pendingAck_none c hfind hack] at herr
          exact absurd herr (by simp)
        · rintro e' ack he' hack'
          obtain rfl := Option.some.inj he'
          exact absurd (hack.symm.trans hack') (by simp)
      · rw [(acknowledge_takes c hfind hack now outLen).keepsOwed_iff hu hfind]
        constructor
        · rintro hpossible e' ack' he' hack'
          obtain rfl := Option.some.inj he'
          obtain rfl := Option.some.inj (hack.symm.trans hack')
          exact hpossible (by simp [hack])
        · exact fun hall _ => hall e ack rfl hack

/-- A stranger has sent one message and been answered reliably, and sends another: the second
acknowledgement is owed while the answer is outstanding. -/
def answeredNode : Messaging 2 2 :=
  [Call.receive (hello 77 5 9) (udpPeer 5540) ⟨0⟩,
    .send ⟨.unsecured, ⟨9⟩, .responder⟩ 0x21 true [1] ⟨0⟩ 0 1280 1280,
    .receive (hello 77 6 9) (udpPeer 5540) ⟨1⟩].foldl (after .tagByKey) (.new 1 1 0)

lemma reachable_answeredNode : Reachable .tagByKey answeredNode := by
  have hheard : Reachable .tagByKey ((Messaging.new 1 1 0 : Messaging 2 2).after .tagByKey _) :=
    (Reachable.new 1 1 0).step (.receive (hello 77 5 9) (udpPeer 5540) ⟨0⟩) trivial
  have hanswered := hheard.step
    (.send ⟨.unsecured, ⟨9⟩, .responder⟩ 0x21 true [1] ⟨0⟩ 0 1280 1280) trivial
  exact hanswered.step (.receive (hello 77 6 9) (udpPeer 5540) ⟨1⟩) trivial

/-- A reliable answer to the second message is refused because the first is outstanding, and the
acknowledgement of counter 6 is forgotten. -/
theorem send_busy_forgets :
    let key : ExchangeKey := ⟨.unsecured, ⟨9⟩, .responder⟩
    let result := answeredNode.send .tagByKey key 0x21 true [1] ⟨2⟩ 0 1280 1280
    Reachable .tagByKey answeredNode ∧ result.1 = .error .busy ∧
      (answeredNode.exchanges.find key).bind (·.mrp.pendingAck) = some ⟨6, ⟨200001⟩⟩ ∧
      (result.2.exchanges.find key).bind (·.mrp.pendingAck) = none ∧
      ¬ answeredNode.KeepsOwed result.2 := by
  intro key result
  have howed : (answeredNode.exchanges.find key).bind (·.mrp.pendingAck) = some ⟨6, ⟨200001⟩⟩ := by
    decide +kernel
  have hforgotten : ∀ e ∈ result.2.exchanges.entries, e.mrp.pendingAck = none := by decide +kernel
  refine ⟨reachable_answeredNode, by decide +kernel, howed, by decide +kernel, ?_⟩
  intro hkeeps
  obtain ⟨e, hfind, hack⟩ := Option.bind_eq_some_iff.mp howed
  obtain ⟨e', he', -, hack'⟩ := hkeeps e (ExchangeTable.find_eq_some hfind).1 _ hack
  exact absurd ((hforgotten e' he').symm.trans hack') (by simp)

/-- At that state an answer that is not reliable forgets nothing: it cannot fail. -/
theorem owed_kept_unreliable :
    let result := answeredNode.send .tagByKey ⟨.unsecured, ⟨9⟩, .responder⟩ 0x21 false [1] ⟨2⟩ 0 1280 1280
    ∀ err, result.1 = .error err → answeredNode.KeepsOwed result.2 := by
  have hcounter : answeredNode.nextValue .unsecured = some 2 := by decide +kernel
  have hheader : (answeredNode.unsecuredHeader 2).octets.length = 16 := by decide +kernel
  refine ((owed_kept_iff reachable_answeredNode ⟨.unsecured, ⟨9⟩, .responder⟩).1 0x21 false [1] ⟨2⟩ 0 1280
    1280).mpr ?_
  intro e _ _
  set header := sendHeader ⟨.unsecured, ⟨9⟩, .responder⟩ e 0x21 (false && !e.isTransportReliable)
  have hbody : (header.octets ++ [1]).length ≤ 17 := by
    rw [List.length_append]
    exact Nat.add_le_add_right header.length_octets_le 1
  refine ⟨⟨2, hcounter, hbody.trans (by norm_num), ?_, ?_⟩, by simp⟩
  · intro _
    exact (Nat.add_le_add hheader.le hbody).trans (by norm_num)
  · exact fun hne => absurd rfl hne

end Messaging

end MatterKit
