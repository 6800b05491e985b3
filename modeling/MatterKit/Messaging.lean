import MatterKit.Exchange.Table
import MatterKit.Sc.Status
import MatterKit.Session

/-!
# Message processing

`Messaging` of `messaging.rs`: the session table, the exchange table and the framing between them.
Caller-supplied buffers appear as their lengths, and a function that fills one returns the octets it
wrote.

`receive` is the composition of the stages of the source, one definition each: `authenticate` reads no
counter and changes nothing, `judge` moves the replay window, `recordContext` the unsecured context,
`route` the exchange table, and `deliver` the exchange the message belongs to. `send` and `acknowledge`
share `frame`; what they hand to it is an `Outgoing` message.
-/

namespace MatterKit

open Lib

/-! ## What arrives, what is due -/

/-- What arrived, once the message has been authenticated and routed.
Source: `Received`. -/
inductive Received
  | group (sessionId : SessionId) (peer : Peer)
  | sessionClosed (session : SessionId)
  | message (exchange : ExchangeKey) (header : ProtocolHeader) (needsAck : Bool)
      (payload : List UInt8)
  | duplicate (exchange : ExchangeKey) (needsAck : Bool)
  | acknowledged (exchange : ExchangeKey)
  deriving DecidableEq

/-- What a timer expiry asks the caller to do.
Source: `Due`. -/
inductive Due
  | retransmit (exchange : ExchangeKey) (counter : UInt32)
  | acknowledge (exchange : ExchangeKey)
  | abandoned (exchange : ExchangeKey)
  deriving DecidableEq

/-- A session that was evicted to make room, with the octets of the close-session report owed to
its peer: none if the report could not be framed.
Source: `Evicted`; the length of `report` is its `len`. -/
structure Evicted where
  session : SessionId
  peer : Option Peer
  report : List UInt8
  deriving DecidableEq

/-- Which protocols the upper layer will accept, one bit each.
Source: `Protocols`. -/
structure Protocols where
  bits : UInt8

namespace Protocols

/-- Secure Channel and the Interaction Model.
Source: `Protocols::DEVICE`. -/
def device : Protocols := ⟨3⟩

/-- Source: `Protocols::bit`. -/
def bit (protocol : ProtocolId) : Option UInt8 :=
  if protocol.vendor ≠ 0 then none
  else if protocol.id ≤ 4 then some (1 <<< protocol.id.toUInt8) else none

/-- Source: `Protocols::contains`. -/
def contains (p : Protocols) (protocol : ProtocolId) : Bool :=
  match bit protocol with
  | some b => decide (p.bits &&& b ≠ 0)
  | none => false

end Protocols

/-- The unsecured session context.
Source: `UnsecuredPeer`. -/
structure UnsecuredPeer where
  ephemeralInitiator : NodeId
  weInitiated : Bool

/-- A message whose counter and protocol header are settled and which is still to be framed: the
arguments of `frame`. -/
structure Outgoing where
  session : SessionId
  counter : UInt32
  header : ProtocolHeader
  payload : List UInt8

/-- A node's message processing.
Source: `Messaging`. -/
structure Messaging (S X : ℕ) where
  sessions : SessionTable S
  exchanges : ExchangeTable X
  unsecuredCounter : MessageCounter
  unsecuredWindow : CounterWindow
  unsecuredPeer : Option UnsecuredPeer
  privacy : Bool
  protocols : Protocols

/-- What a message that arrives on an exchange does to it: it is used, its peer is followed, the
acknowledgement it carries is taken, and the one it asks for is owed.
Source: `Messaging::receive`, from `exchange.touch` to `on_reliable_received`. -/
def Exchange.hear (e : Exchange) (counter : UInt32) (header : ProtocolHeader) (peer : Peer)
    (now : Instant) : Exchange :=
  let mrp := e.mrp.notePeerActivity now
  let mrp := match header.acknowledgedCounter with
    | some acknowledged => mrp.onAck acknowledged now
    | none => mrp
  let mrp := if header.reliability then mrp.onReliableReceived counter now else mrp
  { e.touch now with peer := some peer, mrp := mrp }

@[simp] lemma Exchange.key_hear (e : Exchange) (counter : UInt32) (header : ProtocolHeader)
    (peer : Peer) (now : Instant) : (e.hear counter header peer now).key = e.key := rfl

@[simp] lemma Exchange.ephemeral_hear (e : Exchange) (counter : UInt32) (header : ProtocolHeader)
    (peer : Peer) (now : Instant) : (e.hear counter header peer now).ephemeral = e.ephemeral := rfl

/-- What an authenticated message does to its session: the peer's address is followed, then the
counter is judged.
Source: `Messaging::receive`, from `session.peer = Some(from)`. -/
def SecureSession.hear (s : SecureSession) (counter : UInt32) (peer : Peer) (now : Instant) :
    Verdict × SecureSession :=
  { s with peer := some peer }.acceptCounter counter now

namespace Messaging

variable {S X : ℕ}

/-- Source: `Messaging::new`. -/
def new (firstSessionId firstExchangeId : UInt16) (initialCounter : UInt32) : Messaging S X where
  sessions := .new firstSessionId
  exchanges := .new firstExchangeId
  unsecuredCounter := .new initialCounter
  unsecuredWindow := .new .rollover
  unsecuredPeer := none
  privacy := false
  protocols := .device

/-- Source: `Messaging::register`. -/
def register (m : Messaging S X) (protocols : Protocols) : Messaging S X :=
  { m with protocols := protocols }

/-- Source: `Messaging::set_privacy`. -/
def setPrivacy (m : Messaging S X) (privacy : Bool) : Messaging S X := { m with privacy := privacy }

/-- Source: `Messaging::mrp_params`. -/
def mrpParams (m : Messaging S X) (session : SessionId) : MrpParams :=
  match m.sessions.find session with
  | some s => s.mrp
  | none => .default

/-- Updates an open exchange in place. -/
def updateExchange (m : Messaging S X) (key : ExchangeKey) (f : Exchange → Exchange) :
    Messaging S X :=
  { m with exchanges := m.exchanges.modify key f }

/-- Updates a session in place. -/
def updateSession (m : Messaging S X) (id : SessionId) (f : SecureSession → SecureSession) :
    Messaging S X :=
  { m with sessions := m.sessions.modify id f }

/-! ## Opening and closing -/

/-- Source: `Messaging::open_unsecured_as_initiator`. -/
def openUnsecuredAsInitiator (m : Messaging S X) (ephemeral : NodeId) :
    Except ErrorCode Unit × Messaging S X :=
  if ephemeral.isOperational then
    (.ok (), { m with unsecuredPeer := some ⟨ephemeral, true⟩ })
  else (.error .invalidArgument, m)

/-- The call of `ExchangeTable::open_initiator` that the four opening functions end with. -/
def openInitiator (m : Messaging S X) (session : SessionId) (protocol : ProtocolId)
    (peer : Option Peer) (now : Instant) : Except ErrorCode ExchangeKey × Messaging S X :=
  let (r, exchanges) := m.exchanges.openInitiator session protocol (m.mrpParams session) peer now
  (r, { m with exchanges := exchanges })

/-- Opens an unsecured context and an exchange on it, to a peer that may already be known: the
body the next two share. -/
def openUnsecuredWith (m : Messaging S X) (protocol : ProtocolId) (peer : Option Peer)
    (now : Instant) (randomness : UInt64) : Except ErrorCode ExchangeKey × Messaging S X :=
  match m.openUnsecuredAsInitiator (.ephemeral randomness) with
  | (.error e, m) => (.error e, m)
  | (.ok (), m) => m.openInitiator .unsecured protocol peer now

/-- Source: `Messaging::open_unsecured`. -/
def openUnsecured (m : Messaging S X) (protocol : ProtocolId) (now : Instant)
    (randomness : UInt64) : Except ErrorCode ExchangeKey × Messaging S X :=
  m.openUnsecuredWith protocol none now randomness

/-- Source: `Messaging::open_unsecured_to`. -/
def openUnsecuredTo (m : Messaging S X) (protocol : ProtocolId) (peer : Peer) (now : Instant)
    (randomness : UInt64) : Except ErrorCode ExchangeKey × Messaging S X :=
  m.openUnsecuredWith protocol (some peer) now randomness

/-- Source: `Messaging::close_unsecured`. -/
def closeUnsecured (m : Messaging S X) : Messaging S X := { m with unsecuredPeer := none }

/-- Whether an exchange may be opened on the session: the unsecured one needs a context.
Source: `Messaging::open` and `Messaging::open_to`, their first `if`. -/
def mayOpen (m : Messaging S X) (session : SessionId) : Prop :=
  ¬ (session = .unsecured ∧ m.unsecuredPeer = none)

instance (m : Messaging S X) (session : SessionId) : Decidable (m.mayOpen session) :=
  inferInstanceAs (Decidable (¬ _))

/-- Opens an exchange to wherever the session's peer last was.
Source: `Messaging::open`. -/
def openExchange (m : Messaging S X) (session : SessionId) (protocol : ProtocolId)
    (now : Instant) : Except ErrorCode ExchangeKey × Messaging S X :=
  if m.mayOpen session then
    m.openInitiator session protocol ((m.sessions.find session).bind (·.peer)) now
  else (.error .invalidState, m)

/-- Opens an exchange to a peer that has already been found.
Source: `Messaging::open_to`. -/
def openTo (m : Messaging S X) (session : SessionId) (protocol : ProtocolId) (peer : Peer)
    (now : Instant) : Except ErrorCode ExchangeKey × Messaging S X :=
  if m.mayOpen session then m.openInitiator session protocol (some peer) now
  else (.error .invalidState, m)

/-- Source: `Messaging::close`. -/
def close (m : Messaging S X) (exchange : ExchangeKey) : Messaging S X :=
  { m with exchanges := m.exchanges.close exchange }

/-- Removes a session and its exchanges.
Source: `Messaging::close_session`. -/
def closeSession (m : Messaging S X) (session : SessionId) : Messaging S X :=
  { m with
    exchanges := m.exchanges.closeSession session
    sessions := m.sessions.remove session }

/-- Removes every session on a fabric, and their exchanges.
Source: `Messaging::remove_fabric`. -/
def removeFabric (m : Messaging S X) (fabric : FabricIndex) : Messaging S X :=
  let doomed := (m.sessions.entries.filter fun s => decide (s.fabricIndex = fabric)).map
    (·.localSessionId)
  { m with
    exchanges := doomed.foldl (fun t session => t.closeSession session) m.exchanges
    sessions := m.sessions.removeFabric fabric }

/-! ## Receiving -/

/-- What authentication makes of a datagram: a group message that belongs to no session, or a
message on the session `sessionId` with its header and its clear payload. -/
inductive Arrival
  | group (sessionId : SessionId)
  | message (sessionId : SessionId) (header : MessageHeader) (payload : List UInt8)
  deriving DecidableEq

/-- Reads, and on a secure session decrypts, one datagram. Nothing moves.
Source: `Messaging::receive`, up to "Authenticated. Only now may any counter move". -/
def authenticate (c : Crypto) (m : Messaging S X) (buf : List UInt8) :
    Except ErrorCode Arrival := do
  let head ← preview buf
  match head.sessionType with
  | .group => pure (.group head.sessionId)
  | .unicast =>
    if head.sessionId = .unsecured then do
      let (header, rest) ← MessageHeader.decode buf
      ensure (header.isUnsecured = true) .messageReserved
      pure (.message head.sessionId header rest)
    else do
      let session ← okOr (m.sessions.find head.sessionId) .noSession
      let (header, payload) ← unprotect c buf (session.keys.receiving session.role)
        session.recvNonceSource
      pure (.message head.sessionId header payload)

/-- Judges the counter of an authenticated message, which moves the window it belongs to; on a
secure session the peer's address and the timestamps move with it.
Source: `Messaging::receive`, `let verdict`. -/
def judge (m : Messaging S X) (sessionId : SessionId) (header : MessageHeader) (peer : Peer)
    (now : Instant) : Except ErrorCode Verdict × Messaging S X :=
  if header.isUnsecured then
    let (verdict, window) := m.unsecuredWindow.accept header.messageCounter
    (.ok verdict, { m with unsecuredWindow := window })
  else
    match m.sessions.find sessionId with
    | none => (.error .noSession, m)
    | some session =>
      (.ok (session.hear header.messageCounter peer now).1,
        m.updateSession sessionId fun s => (s.hear header.messageCounter peer now).2)

/-- Whether a message names the ephemeral id of the current unsecured context as its destination.
Source: `Messaging::receive`, `addressed_to_our_context`. -/
def addressedToContext (m : Messaging S X) (header : MessageHeader) : Bool :=
  match m.unsecuredPeer, header.destination with
  | some peer, .node id => decide (peer.ephemeralInitiator = id)
  | _, _ => false

/-- Whether the message belongs to no unsecured context and can start none.
Source: `Messaging::receive`, the condition of `bail!(NoSession)`. -/
def outOfContext (m : Messaging S X) (header : MessageHeader) : Bool :=
  header.isUnsecured && header.source.isNone && !m.addressedToContext header

/-- Replaces the unsecured context when an unsecured message names another source.
Source: `Messaging::receive`, `self.unsecured_peer = Some(..)`. -/
def recordContext (m : Messaging S X) (header : MessageHeader) : Messaging S X :=
  match header.isUnsecured, header.source with
  | true, some source =>
    if m.unsecuredPeer.all fun peer => decide (peer.ephemeralInitiator ≠ source) then
      { m with unsecuredPeer := some ⟨source, false⟩ }
    else m
  | _, _ => m

/-- Finds or opens the exchange a message belongs to.
Source: `Messaging::route`. -/
def route (m : Messaging S X) (session : SessionId) (header : ProtocolHeader) (duplicate : Bool)
    (now : Instant) : Except ErrorCode ExchangeKey × Messaging S X :=
  match m.exchanges.findForMessage session header.exchangeId header.initiator with
  | some exchange => (.ok exchange.key, m)
  | none =>
    if header.initiator = false then (.error .noExchange, m)
    else if duplicate = false ∧ m.protocols.contains header.protocol = true then
      let (r, exchanges) := m.exchanges.openResponder session header.exchangeId header.protocol
        (m.mrpParams session) now
      (r, { m with exchanges := exchanges })
    else if header.reliability then
      let (r, exchanges) := m.exchanges.openEphemeral session header.exchangeId header.protocol
        (m.mrpParams session) now
      (r, { m with exchanges := exchanges })
    else (.error .noExchange, m)

/-- Source: `Messaging::receive`, the test for a standalone acknowledgement. -/
def isStandaloneAck (header : ProtocolHeader) : Bool :=
  decide (header.protocol = .secureChannel ∧ header.opcode = opcodeMrpStandaloneAck)

/-- Source: `Messaging::receive`, the test for a close-session status report. -/
def isCloseReport (header : ProtocolHeader) (body : List UInt8) : Bool :=
  decide (header.protocol = .secureChannel ∧ header.opcode = opcodeStatusReport) &&
    match StatusReport.decode body with
    | .ok report => report.isCloseSession
    | .error _ => false

/-- Hands a routed message to its exchange and says what became of it.
Source: `Messaging::receive`, after `route`. -/
def deliver (m : Messaging S X) (key : ExchangeKey) (header : MessageHeader)
    (protocolHeader : ProtocolHeader) (body : List UInt8) (duplicate : Bool) (peer : Peer)
    (now : Instant) : Except ErrorCode Received × Messaging S X :=
  match m.exchanges.find key with
  | none => (.error .noExchange, m)
  | some _ =>
    let m := m.updateExchange key fun e => e.hear header.messageCounter protocolHeader peer now
    if duplicate then (.ok (.duplicate key protocolHeader.reliability), m)
    else if isStandaloneAck protocolHeader then (.ok (.acknowledged key), m)
    else if !header.isUnsecured && isCloseReport protocolHeader body then
      (.ok (.sessionClosed header.sessionId), m.closeSession header.sessionId)
    else (.ok (.message key protocolHeader protocolHeader.reliability body), m)

/-- What happens to a message once its counter has been judged.
Source: `Messaging::receive`, after `let verdict`. -/
def process (m : Messaging S X) (header : MessageHeader) (payload : List UInt8)
    (verdict : Verdict) (peer : Peer) (now : Instant) :
    Except ErrorCode Received × Messaging S X :=
  match ProtocolHeader.decode payload with
  | .error e => (.error e, m)
  | .ok (protocolHeader, body) =>
    if m.outOfContext header then (.error .noSession, m)
    else
      let duplicate := decide (verdict = .duplicate)
      match (m.recordContext header).route header.sessionId protocolHeader duplicate now with
      | (.error e, m) => (.error e, m)
      | (.ok key, m) => m.deliver key header protocolHeader body duplicate peer now

/-- Processes one arriving datagram.
Source: `Messaging::receive`. -/
def receive (c : Crypto) (m : Messaging S X) (buf : List UInt8) (peer : Peer) (now : Instant) :
    Except ErrorCode Received × Messaging S X :=
  match m.authenticate c buf with
  | .error e => (.error e, m)
  | .ok (.group sessionId) => (.ok (.group sessionId peer), m)
  | .ok (.message sessionId header payload) =>
    match m.judge sessionId header peer now with
    | (.error e, m) => (.error e, m)
    | (.ok verdict, m) => m.process header payload verdict peer now

/-! ## Sending -/

/-- Takes the next message counter for a session.
Source: `Messaging::next_counter`. -/
def nextCounter (m : Messaging S X) (session : SessionId) (now : Instant) :
    Except ErrorCode UInt32 × Messaging S X :=
  if session = .unsecured then
    let (r, counter) := m.unsecuredCounter.take
    (r, { m with unsecuredCounter := counter })
  else
    match m.sessions.find session with
    | none => (.error .noSession, m)
    | some s =>
      ((s.nextCounter now).1,
        m.updateSession session fun s => (s.nextCounter now).2)

/-- The protocol header and the payload, joined in a scratch buffer of `scratchLen` octets.
Source: `Messaging::frame`, `let body`. -/
def joinBody (header : ProtocolHeader) (payload : List UInt8) (scratchLen : ℕ) :
    Except ErrorCode (List UInt8) := do
  let head ← header.encode scratchLen
  ensure (head.length + payload.length ≤ scratchLen) .bufferTooSmall
  pure (head ++ payload)

/-- The message header of an unsecured message: the ephemeral id is its source or its destination,
by which end of the context this node is.
Source: `Messaging::frame`, the unsecured `header`. -/
def unsecuredHeader (m : Messaging S X) (counter : UInt32) : MessageHeader where
  sessionId := .unsecured
  messageCounter := counter
  source := m.unsecuredPeer.bind fun peer =>
    if peer.weInitiated then some peer.ephemeralInitiator else none
  destination := match m.unsecuredPeer with
    | some peer => if peer.weInitiated then .none else .node peer.ephemeralInitiator
    | none => .none

/-- The message header of a message on a secure session.
Source: `Messaging::frame`, the secure `header`. -/
def secureHeader (m : Messaging S X) (found : SecureSession) (counter : UInt32) :
    MessageHeader where
  sessionId := found.peerSessionId
  messageCounter := counter
  source := none
  destination := .none
  privacy := m.privacy && decide (found.kind = .caseSession)

/-- Frames a message into a buffer of `outLen` octets, and encrypts it when the session is secure.
Source: `Messaging::frame`. -/
def frame (c : Crypto) (m : Messaging S X) (o : Outgoing) (scratchLen outLen : ℕ) :
    Except ErrorCode (List UInt8) := do
  let body ← joinBody o.header o.payload scratchLen
  if o.session = .unsecured then do
    let header ← (m.unsecuredHeader o.counter).encode outLen
    ensure (header.length + body.length ≤ outLen) .bufferTooSmall
    pure (header ++ body)
  else do
    let found ← okOr (m.sessions.find o.session) .noSession
    protect c (m.secureHeader found o.counter) found.sendNonceSource body
      (found.keys.sending found.role) outLen

/-- Clears the acknowledgement an exchange owes, which the header now carries, and takes the
counter the message goes out with.
Source: `Messaging::send` and `Messaging::acknowledge`, from `take_piggyback` to `next_counter`. -/
def stamp (m : Messaging S X) (exchange : ExchangeKey) (header : ProtocolHeader)
    (payload : List UInt8) (now : Instant) : Except ErrorCode Outgoing × Messaging S X :=
  let m := m.updateExchange exchange fun e => { e with mrp := e.mrp.takePiggyback.2 }
  match m.nextCounter exchange.session now with
  | (.error err, m) => (.error err, m)
  | (.ok counter, m) => (.ok ⟨exchange.session, counter, header, payload⟩, m)

/-- The protocol header of a message on an exchange, with the acknowledgement it can carry.
Source: `Messaging::send`, `protocol_header`. -/
def sendHeader (exchange : ExchangeKey) (e : Exchange) (opcode : UInt8) (reliable : Bool) :
    ProtocolHeader where
  initiator := exchange.role.isInitiator
  acknowledgedCounter := e.mrp.takePiggyback.1
  reliability := reliable
  exchangeId := exchange.id
  protocol := e.protocol
  opcode := opcode

/-- Remembers a reliable message for retransmission.
Source: `Messaging::send`, the call of `on_send`. -/
def recordSend (m : Messaging S X) (exchange : ExchangeKey) (counter : UInt32) (now : Instant)
    (randomness : UInt32) : Except ErrorCode Unit × Messaging S X :=
  match m.exchanges.find exchange with
  | none => (.ok (), m)
  | some e =>
    match e.mrp.onSend counter now randomness with
    | .error err => (.error err, m)
    | .ok mrp =>
      (.ok (), m.updateExchange exchange fun e => { e with mrp := mrp })

/-- Builds an outgoing message on an exchange: the datagram and its counter.
Source: `Messaging::send`. -/
def send (c : Crypto) (m : Messaging S X) (exchange : ExchangeKey) (opcode : UInt8)
    (reliable : Bool) (payload : List UInt8) (now : Instant) (randomness : UInt32)
    (scratchLen outLen : ℕ) : Except ErrorCode (List UInt8 × UInt32) × Messaging S X :=
  match m.exchanges.find exchange with
  | none => (.error .noExchange, m)
  | some e =>
    let reliable := reliable && !e.isTransportReliable
    match m.stamp exchange (sendHeader exchange e opcode reliable) payload now with
    | (.error err, m) => (.error err, m)
    | (.ok o, m) =>
      match m.frame c o scratchLen outLen with
      | .error err => (.error err, m)
      | .ok datagram =>
        if reliable then
          match m.recordSend exchange o.counter now randomness with
          | (.error err, m) => (.error err, m)
          | (.ok (), m) => (.ok (datagram, o.counter), m)
        else (.ok (datagram, o.counter), m)

/-- The scratch a standalone acknowledgement is joined in.
Source: `PROTOCOL_HEADER_MAX`. -/
def protocolHeaderMax : ℕ := 16

/-- The protocol header of a standalone acknowledgement.
Source: `Messaging::acknowledge`, `protocol_header`. -/
def standaloneAckHeader (exchange : ExchangeKey) (acknowledged : UInt32) : ProtocolHeader where
  initiator := exchange.role.isInitiator
  acknowledgedCounter := some acknowledged
  reliability := false
  exchangeId := exchange.id
  protocol := .secureChannel
  opcode := opcodeMrpStandaloneAck

/-- Closes the exchange if it existed only to carry an acknowledgement. -/
def closeIfEphemeral (m : Messaging S X) (exchange : ExchangeKey) (ephemeral : Bool) :
    Messaging S X :=
  if ephemeral then m.close exchange else m

/-- Sends the standalone acknowledgement an exchange owes; the empty datagram when it owes none.
Source: `Messaging::acknowledge`. -/
def acknowledge (c : Crypto) (m : Messaging S X) (exchange : ExchangeKey) (now : Instant)
    (outLen : ℕ) : Except ErrorCode (List UInt8) × Messaging S X :=
  match m.exchanges.find exchange with
  | none => (.error .noExchange, m)
  | some e =>
    match e.mrp.takePiggyback.1 with
    | none => (.ok [], m.closeIfEphemeral exchange e.ephemeral)
    | some acknowledged =>
      match m.stamp exchange (standaloneAckHeader exchange acknowledged) [] now with
      | (.error err, m) => (.error err, m)
      | (.ok o, m) =>
        match m.frame c o protocolHeaderMax outLen with
        | .error err => (.error err, m)
        | .ok datagram => (.ok datagram, m.closeIfEphemeral exchange e.ephemeral)

/-! ## Installing a session -/

/-- Installs the session a handshake produced, evicting the least recently used one if there is no
room.
Source: `Messaging::install_session`. -/
def installSession (c : Crypto) (m : Messaging S X) (session : SecureSession) (now : Instant)
    (randomness : UInt32) (scratchLen outLen : ℕ) :
    Except ErrorCode (Option Evicted) × Messaging S X :=
  if m.sessions.len < S then
    match m.sessions.insert session with
    | (.error e, sessions) => (.error e, { m with sessions := sessions })
    | (.ok (), sessions) => (.ok none, { m with sessions := sessions })
  else
    match m.sessions.leastRecentlyUsed with
    | none => (.error .noSpace, m)
    | some victim =>
      let peer := (m.sessions.find victim).bind (·.peer)
      match StatusReport.closeSession.encode 16 with
      | .error e => (.error e, m)
      | .ok body =>
        match m.openExchange victim .secureChannel now with
        | (.error e, m) => (.error e, m)
        | (.ok exchange, m) =>
          let (framed, m) := m.send c exchange opcodeStatusReport false body now randomness
            scratchLen outLen
          let m := m.closeSession victim
          let report := match framed with
            | .ok (datagram, _) => datagram
            | .error _ => []
          match m.sessions.insert session with
          | (.error e, sessions) => (.error e, { m with sessions := sessions })
          | (.ok (), sessions) =>
            (.ok (some ⟨victim, peer, report⟩), { m with sessions := sessions })

/-- A session that has been installed is found under its id. -/
lemma find_installSession {c : Crypto} {m m' : Messaging S X} {session : SecureSession} {now : Instant}
    {randomness : UInt32} {scratchLen outLen : ℕ} {evicted : Option Evicted}
    (h : m.installSession c session now randomness scratchLen outLen = (.ok evicted, m')) :
    m'.sessions.find session.localSessionId = some session := by
  rw [installSession] at h
  split at h
  · split at h
    · cases h
    · rename_i sessions hinsert
      cases h
      exact SessionTable.find_insert hinsert
  · split at h
    · cases h
    · split at h
      · cases h
      · split at h
        · cases h
        · dsimp only at h
          split at h
          · cases h
          · rename_i sessions hinsert
            cases h
            exact SessionTable.find_insert hinsert

/-! ## Timers -/

/-- When `poll` next needs to be called.
Source: `Messaging::wake_at`. -/
def wakeAt (m : Messaging S X) : Option Instant :=
  match m.exchanges.pollDeadline, m.exchanges.reapDeadline exchangeIdleTimeout with
  | some a, some b => some (if a ≤ b then a else b)
  | some a, none => some a
  | none, b => b

/-- Source: `Messaging::poll`, the predicate of its `find`. -/
def expired (now : Instant) (e : Exchange) : Bool :=
  e.mrp.pollDeadline.any fun t => decide (t ≤ now)

/-- Reclaims abandoned exchanges.
Source: `Messaging::poll`, its first statement. -/
def reap (m : Messaging S X) (now : Instant) : Messaging S X :=
  { m with exchanges := m.exchanges.reap now exchangeIdleTimeout }

/-- Reclaims abandoned exchanges, then serves the first expired timer.
Source: `Messaging::poll`. -/
def poll (m : Messaging S X) (now : Instant) (randomness : UInt32) : Option Due × Messaging S X :=
  let m := m.reap now
  match m.exchanges.entries.find? (expired now) with
  | none => (none, m)
  | some first =>
    match m.exchanges.find first.key with
    | none => (none, m)
    | some e =>
      let (action, mrp) := e.mrp.onTimeout now randomness
      let m := m.updateExchange first.key fun e => { e with mrp := mrp }
      match action with
      | .retransmit counter _ => (some (.retransmit first.key counter), m)
      | .sendStandaloneAck _ => (some (.acknowledge first.key), m)
      | .giveUp _ => (some (.abandoned first.key), m.close first.key)
      | .nothing => (none, m)

end Messaging

end MatterKit
