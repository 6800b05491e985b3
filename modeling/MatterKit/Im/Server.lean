import MatterKit.Platform
import MatterKit.Dm.Events
import MatterKit.Dm.Node
import MatterKit.Dm.Version

/-!
# The server: reads

The read half of `im/server.rs`. A report is packed block by block: a block that does not fit is taken
back, the message is closed where it stands, and a cursor keeps the place (`ReadCursor`).

The device behind a server is its state `η`, which the access control and the clusters read and a write
or a command changes, and the state `ν` of its table of data versions.

What is written goes to the writer, and `Packed.blocks` keeps beside it which blocks were written there
and not taken back: every statement about what a message carries is about that list.
-/

namespace MatterKit.Im

open Lib Machine Tlv Dm

/-! ## What a server is given -/

/-- Source: `Outcome`. -/
inductive Outcome
  | granted
  | denied
  | restricted
  deriving DecidableEq

/-- Source: `Outcome::status`. -/
def Outcome.status : Outcome → Option Status
  | granted => none
  | denied => some .unsupportedAccess
  | restricted => some .accessRestricted

/-- Source: `WriteOp`. -/
inductive WriteOp
  | replace
  | append
  deriving DecidableEq

/-- Source: `WriteOp::of`. -/
def WriteOp.of (path : AttributePath) : Option WriteOp :=
  match path.listIndex with
  | none => some .replace
  | some .append => some .append
  | some (.at _) => none

/-- Source: `im/atomic.rs`, `ClaimRef`. -/
structure ClaimRef where
  endpoint : EndpointId
  cluster : ClusterId
  attributes : List AttributeId

/-- Source: `ClaimRef::covers`. -/
def ClaimRef.covers (c : ClaimRef) (endpoint : EndpointId) (cluster : ClusterId)
    (attributeId : AttributeId) : Bool :=
  c.endpoint == endpoint && c.cluster == cluster && c.attributes.contains attributeId

/-- Source: `InteractionContext`. -/
structure InteractionContext where
  timed : Bool := false
  fabricIndex : Option FabricIndex := none
  largeMessages : Bool := false
  fabricFiltered : Bool := false
  now : Instant := ⟨0⟩
  vendorIdVerified : Bool := false
  session : Option SessionId := none
  atomic : Option ClaimRef := none
  peerNodeId : Option NodeId := none
  attestationChallenge : Option (List UInt8) := none
  privilege : Option Privilege := none
  group : Option GroupId := none
  eventFilters : Option (List UInt8) := none
  dataVersionFilters : Option (List UInt8) := none

/-- A server, with the access control and the clusters of its device as functions on the device's
state.
Source: `Server`, `AccessControl` and `ClusterHandler`. -/
structure Server (η ν : Type) where
  node : Node
  allows : η → AttributePath → Privilege → Outcome
  read : η → Resolved → InteractionContext → TlvWriter → Tag → Except Status Unit × TlvWriter
  dataVersion : η → Resolved → Option UInt32
  write : η → Resolved → List UInt8 → WriteOp → InteractionContext → Except Status Unit × η
  invoke : η → ResolvedCommand → Option (List UInt8) → InteractionContext → TlvWriter → Tag →
    Except StatusIb (Option CommandId) × TlvWriter × η
  limit : ℕ
  versions : Option (DataVersionSource ν)
  events : Option (EventPath → Option FabricIndex → UInt64 → List EventRecord)

/-! ## Packing -/

/-- A message being packed: the writer, how many blocks are in it, and which.
Source: `Chunk`, and the `w` and `responses` of `put_block`. -/
structure Packed (β : Type) where
  w : TlvWriter
  responses : ℕ
  blocks : List β

/-- Writes one block, or takes it back where it does not fit.
Source: `put_block`. -/
def putBlock {β : Type} (limit : ℕ) (encode : β → Writing Unit) (b : β) :
    Machine (Packed β) ErrorCode Bool := do
  let p ← get
  if p.responses ≥ limit then pure false
  else
    match exec (encode b) p.w with
    | (.ok _, w') => do
      set { p with w := w', responses := p.responses + 1, blocks := p.blocks ++ [b] }
      pure true
    | (.error e, w') =>
      if e = .bufferTooSmall then do
        set { p with w := w'.rollback p.w.checkpoint }
        pure false
      else do
        set { p with w := w' }
        throw e

/-- A block of a report. The last kind is one item of a list that is sent in pieces; it is written out
by hand in the source.
Source: `AttributeReport`, `EventReport` and `Server::write_list_in_chunks`. -/
inductive Block
  | attribute (report : AttributeReport)
  | item (dataVersion : Option UInt32) (path : AttributePath) (bytes : List UInt8)
  | event (report : EventReport)
  deriving DecidableEq

/-- Writes a block.
Source: `AttributeReport::encode`, `EventReport::encode`, and `Server::write_list_in_chunks`, the
closure of its second `chunk.put`. -/
def Block.encode : Block → Writing Unit
  | .attribute report => report.encode
  | .item dataVersion path bytes => do
    start .anonymous .struct
    start (.context 1) .struct
    whenSome dataVersion fun version => unsigned (.context 0) version.toUInt64
    { path with listIndex := some .append }.encode (.context 1)
    rawElementRetagged bytes (.context 2)
    endContainer
    endContainer
  | .event report => report.encode

/-! ## Cursors -/

/-- Source: `ReadCursor`. -/
structure ReadCursor where
  path : ℕ
  expansion : ExpandCursor
  list : Option UInt32
  eventPath : ℕ
  eventFrom : UInt64
  done : Bool
  deriving DecidableEq

/-- Source: `ReadCursor::START`. -/
def ReadCursor.start : ReadCursor := ⟨0, .start, none, 0, 0, false⟩

/-- Source: `ReadOutcome`. -/
structure ReadOutcome where
  reports : ℕ
  truncated : Bool
  eventsThrough : UInt64
  deriving DecidableEq

/-- What serving a message of a read works on. -/
structure ReadState (ν : Type) where
  packed : Packed Block
  cursor : ReadCursor
  versions : ν

/-- A step of serving a read. -/
abbrev Serving (ν α : Type) := Machine (ReadState ν) ErrorCode α

namespace Serving

variable {ν : Type}

/-- A step of the writer. -/
def writing (x : Writing Unit) : Serving ν Unit := do
  let s ← get
  let (result, w) := exec x s.packed.w
  set { s with packed := { s.packed with w := w } }
  ofResult result

/-- Moves the cursor. -/
def moveCursor (f : ReadCursor → ReadCursor) : Serving ν Unit :=
  modify fun s => { s with cursor := f s.cursor }

end Serving

/-! ## Values -/

/-- The members of an encoded list, each as its own element.
Source: `ListItems::next`. -/
def listNext : Reading (Option (List UInt8)) := do
  let start ← position
  match ← nextElement with
  | none => pure none
  | some e =>
    if e.value = .endOfContainer then pure none
    else do
      skipValue e
      let item ← sliceFrom start
      pure (some item)

/-- The results of the calls of the iterator, at most as many as are given.
Source: `ListItems::next`, with the calls that follow it. -/
def listItemsFrom : ℕ → TlvReader → List (Except ErrorCode (List UInt8))
  | 0, _ => []
  | calls + 1, r =>
    match exec listNext r with
    | (.error e, _) => [.error e]
    | (.ok none, _) => []
    | (.ok (some item), r') => .ok item :: listItemsFrom calls r'

/-- The items of an encoded element that is a list.
Source: `ListItems::new` and the iteration over it. -/
def listItems (encoded : List UInt8) : Option (List (Except ErrorCode (List UInt8))) :=
  match exec nextElement (TlvReader.newIn encoded .struct) with
  | (.ok (some first), r) =>
    if first.value.container? = some .array then some (listItemsFrom (encoded.length + 1) r)
    else none
  | _ => none

/-- The empty array in the `Data` field of a block.
Source: `Server::write_list_in_chunks`, `let empty = v.finish()?`. -/
def emptyArray : List UInt8 := [0x36, 0x02, 0x18]

example : (exec (do start (.context 2) .array; endContainer)
    (TlvWriter.newIn ⟨[0, 0, 0, 0], by decide⟩ .struct)).2.finish = .ok emptyArray := by
  decide

/-- The status of a path that stops at a level, with that of its leaf.
Source: `Missing::status`, `MissingCommand::status`, and the `match missing` of
`Server::serve_event_path`. -/
def missingStatus (leaf : Status) : Missing → Status
  | .endpoint => .unsupportedEndpoint
  | .cluster => .unsupportedCluster
  | .leaf => leaf

namespace Server

variable {η ν : Type}

/-- An attribute's value, encoded beside the message, or the status its cluster answers with. Writing
a global attribute into a buffer too small for it is an error of the read.
Source: `Server::write_data`, from `let mut value` to `let Ok(encoded) = value.finish()`. -/
def encodeValue (srv : Server η ν) (h : η) (resolved : Resolved) (ctx : InteractionContext)
    (scratch : Slice) : Except ErrorCode (Except Status (List UInt8)) :=
  let finish (w : TlvWriter) : Except Status (List UInt8) :=
    match w.finish with
    | .ok encoded => .ok encoded
    | .error _ => .error .failure
  match exec (Global.encode resolved.cluster resolved.attributeId (.context 2))
      (TlvWriter.newIn scratch .struct) with
  | (.error e, _) => .error e
  | (.ok true, w) => .ok (finish w)
  | (.ok false, w) =>
    match srv.read h resolved ctx w (.context 2) with
    | (.error status, _) => .ok (.error status)
    | (.ok (), w) => .ok (finish w)

/-- The version a report gives a cluster instance: its own, or the table's.
Source: `Server::write_data`, `let data_version`. -/
def reportedVersion (srv : Server η ν) (h : η) (resolved : Resolved) (v : ν) :
    Option UInt32 × ν :=
  match srv.dataVersion h resolved with
  | some version => (some version, v)
  | none =>
    match srv.versions with
    | none => (none, v)
    | some versions =>
      let (version, v) := versions.version resolved.endpoint resolved.cluster.id v
      (some version, v)

/-- Whether a filter is about a cluster instance.
Source: `Server::already_held`, the condition of `continue`. -/
def filterMatches (resolved : Resolved) (entry : DataVersionFilter) : Bool :=
  entry.path.endpoint.all (· == resolved.endpoint) && entry.path.cluster.all (· == resolved.cluster.id)

/-- The loop of `already_held`: every entry that matches has the version, and one does.
Source: `Server::already_held`, `for entry in entries`. -/
def allHeld (resolved : Resolved) (version : UInt32) :
    Bool → List (Except ErrorCode DataVersionFilter) → Bool
  | matched, [] => matched
  | _, .error _ :: _ => false
  | matched, .ok entry :: entries =>
    if filterMatches resolved entry then
      if entry.dataVersion = version then allHeld resolved version true entries else false
    else allHeld resolved version matched entries

/-- Whether the requester already has a cluster's data.
Source: `Server::already_held`. -/
def alreadyHeld (resolved : Resolved) (ctx : InteractionContext) (dataVersion : Option UInt32) :
    Bool :=
  match ctx.dataVersionFilters, dataVersion with
  | some filters, some version =>
    match arrayIter filters .struct DataVersionFilter.decode with
    | .ok entries => allHeld resolved version false entries
    | .error _ => false
  | _, _ => false

/-! ## Attribute paths -/

/-- Packs a block into the message.
Source: `Chunk::put`. -/
def put (srv : Server η ν) (b : Block) : Serving ν Bool := do
  let s ← get
  let (result, packed) := exec (putBlock srv.limit Block.encode b) s.packed
  set { s with packed := packed }
  ofResult result

/-- Source: `Server::write_status`. -/
def writeStatus (srv : Server η ν) (path : AttributePath) (status : Status) : Serving ν Bool :=
  srv.put (.attribute (.status ⟨path, .new status⟩))

/-- The items of a list from one on, a block each.
Source: `Server::write_list_in_chunks`, `for (index, item)` and what follows it. -/
def writeItems (srv : Server η ν) (path : AttributePath) (dataVersion : Option UInt32) :
    ℕ → List (Except ErrorCode (List UInt8)) → Serving ν Bool
  | _, [] => do
    Serving.moveCursor fun c => { c with list := none }
    pure true
  | index, item :: items => do
    let item ← ofResult item
    if ← srv.put (.item dataVersion path item) then writeItems srv path dataVersion (index + 1) items
    else do
      let s ← get
      if s.packed.responses = 0 then do
        Serving.moveCursor fun c => { c with list := none }
        srv.writeStatus path .resourceExhausted
      else do
        Serving.moveCursor fun c => { c with list := some (UInt32.ofNat (min index (2 ^ 32 - 1))) }
        pure false

/-- Sends a list in pieces: the empty list once, then its items.
Source: `Server::write_list_in_chunks`. -/
def writeListInChunks (srv : Server η ν) (path : AttributePath) (dataVersion : Option UInt32)
    (encoded : List UInt8) : Serving ν Bool :=
  match listItems encoded with
  | none => do
    Serving.moveCursor fun c => { c with list := none }
    srv.writeStatus path .resourceExhausted
  | some items => do
    let s ← get
    match s.cursor.list with
    | some sent => srv.writeItems path dataVersion sent.toNat (items.drop sent.toNat)
    | none =>
      if ← srv.put (.attribute (.data ⟨dataVersion, path, emptyArray⟩)) then do
        Serving.moveCursor fun c => { c with list := some 0 }
        srv.writeItems path dataVersion 0 items
      else pure false

/-- Packs an attribute's value, whole where that fits.
Source: `Server::write_data`, from `if cursor.list.is_none()`. -/
def writeValue (srv : Server η ν) (path : AttributePath) (dataVersion : Option UInt32)
    (encoded : List UInt8) : Serving ν Bool := do
  let s ← get
  if s.cursor.list = none then
    if ← srv.put (.attribute (.data ⟨dataVersion, path, encoded⟩)) then pure true
    else do
      let s ← get
      if s.packed.responses = 0 then srv.writeListInChunks path dataVersion encoded
      else pure false
  else srv.writeListInChunks path dataVersion encoded

/-- Source: `Server::write_data`. -/
def writeData (srv : Server η ν) (h : η) (resolved : Resolved) (ctx : InteractionContext)
    (scratch : Slice) : Serving ν Bool := do
  let s ← get
  let (dataVersion, versions) := srv.reportedVersion h resolved s.versions
  set { s with versions := versions }
  if alreadyHeld resolved ctx dataVersion then pure true
  else
    match ← ofResult (srv.encodeValue h resolved ctx scratch) with
    | .error status => srv.writeStatus resolved.path status
    | .ok encoded => srv.writeValue resolved.path dataVersion encoded

/-- Source: `Server::serve_concrete`. -/
def serveConcrete (srv : Server η ν) (h : η) (path : AttributePath)
    (concrete : EndpointId × ClusterId × AttributeId) (ctx : InteractionContext) (scratch : Slice) :
    Serving ν Bool :=
  match (srv.allows h path .view).status with
  | some status => srv.writeStatus path status
  | none =>
    match srv.node.resolve concrete.1 concrete.2.1 concrete.2.2 with
    | .error missing => srv.writeStatus path (missingStatus .unsupportedAttribute missing)
    | .ok resolved =>
      match resolved.cluster.attribute? concrete.2.2 with
      | none => srv.writeStatus path .unsupportedAttribute
      | some descriptor =>
        match descriptor.access.read with
        | none => srv.writeStatus path .unsupportedRead
        | some required =>
          match (srv.allows h path required).status with
          | some status => srv.writeStatus path status
          | none => srv.writeData h resolved ctx scratch

/-- Whether an expanded attribute is served: it is readable, and the subject may read it.
Source: `Server::serve_path_chunked`, the conditions of `continue`. -/
def readable (srv : Server η ν) (h : η) (resolved : Resolved) : Bool :=
  match resolved.cluster.attribute? resolved.attributeId with
  | none => false
  | some descriptor =>
    match descriptor.access.read with
    | none => false
    | some required => srv.allows h resolved.path required = .granted

/-- The attributes of an expansion, each with the cursor in front of it.
Source: `Server::serve_path_chunked`, `loop`. -/
def serveExpanded (srv : Server η ν) (h : η) (ctx : InteractionContext) (scratch : Slice) :
    List (ExpandCursor × Resolved) → Serving ν Bool
  | [] => do
    Serving.moveCursor fun c => { c with expansion := .start }
    pure true
  | (resume, resolved) :: entries =>
    if srv.readable h resolved then do
      if ← srv.writeData h resolved ctx scratch then serveExpanded srv h ctx scratch entries
      else do
        Serving.moveCursor fun c => { c with expansion := resume }
        pure false
    else serveExpanded srv h ctx scratch entries

/-- Source: `Server::serve_path_chunked`. -/
def servePathChunked (srv : Server η ν) (h : η) (path : AttributePath) (ctx : InteractionContext)
    (scratch : Slice) : Serving ν Bool := do
  if path.enableTagCompression then
    if path.concrete.isSome then srv.writeStatus path .invalidAction else pure true
  else
    match path.concrete with
    | some concrete => srv.serveConcrete h path concrete ctx scratch
    | none => do
      let s ← get
      srv.serveExpanded h ctx scratch (srv.node.expandFrom path s.cursor.expansion)

/-! ## Event paths -/

/-- Source: `Server::write_event_status`. -/
def writeEventStatus (srv : Server η ν) (path : EventPath) (status : Status) : Serving ν Bool :=
  srv.put (.event (.status ⟨path, .new status⟩))

/-- The loop of `event_floor`: the highest minimum among the entries without a node; an entry that
does not decode makes it zero.
Source: `Server::event_floor`, `for entry in entries`. -/
def floorOf : UInt64 → List (Except ErrorCode EventFilter) → UInt64
  | floor, [] => floor
  | _, .error _ :: _ => 0
  | floor, .ok entry :: entries =>
    if entry.node.isNone then floorOf (max floor entry.eventMin) entries
    else floorOf floor entries

/-- Source: `Server::event_floor`. -/
def eventFloor (ctx : InteractionContext) : UInt64 :=
  match ctx.eventFilters with
  | none => 0
  | some filters =>
    match arrayIter filters .struct EventFilter.decode with
    | .ok entries => floorOf 0 entries
    | .error _ => 0

/-- The block of a record; its timestamp is relative where the record before it has one of the same
kind that is not later.
Source: `Server::serve_event_path`, `let data`. -/
def eventData (previous : Option Timestamp) (record : EventRecord) : EventData where
  path := .ofIds record.endpoint record.cluster record.event
  number := record.number
  priority := record.priority.toUInt8
  timestamp := (previous.bind record.timestamp.deltaFrom).getD record.timestamp.absolute
  data := record.data.toList

/-- Packs records up to the first that cannot be, and returns whether all were and the number behind
the last one. A record that fails to encode ends the run like one that does not fit, and its error is
dropped.
Source: `Server::serve_event_path`, the closure of `each_matching`. -/
def serveRecords (srv : Server η ν) :
    Option Timestamp → UInt64 → List EventRecord → Serving ν (Bool × UInt64)
  | _, next, [] => pure (true, next)
  | previous, next, record :: records => do
    let s ← get
    let (result, s') := exec (srv.put (.event (.data (eventData previous record)))) s
    set s'
    match result with
    | .ok true => serveRecords srv (some record.timestamp) (satAdd record.number 1) records
    | _ => pure (false, next)

/-- What a concrete event path is refused with, if it is.
Source: `Server::serve_event_path`, `if let Some(((endpoint, cluster), event)) = concrete`. -/
def eventRefusal (srv : Server η ν) (h : η) (path : EventPath) : Option Status :=
  match path.concrete with
  | none => none
  | some (endpoint, cluster, event) =>
    match srv.node.resolveEvent endpoint cluster event with
    | .error missing => some (missingStatus .unsupportedEvent missing)
    | .ok resolved =>
      match resolved.event.access.read with
      | none => none
      | some required => (srv.allows h (.ofIds endpoint cluster 0) required).status

/-- Serves one event path from a number on, and returns whether it was served to the end and the
number to carry on from.
Source: `Server::serve_event_path`. -/
def serveEventPath (srv : Server η ν) (h : η) (path : EventPath) (ctx : InteractionContext)
    (since : UInt64) : Serving ν (Bool × UInt64) :=
  match srv.eventRefusal h path with
  | some status => do
    let fitted ← srv.writeEventStatus path status
    pure (fitted, since)
  | none =>
    match srv.events with
    | none => pure (true, since)
    | some matching =>
      let floor := max since (eventFloor ctx)
      srv.serveRecords none floor (matching path ctx.fabricIndex floor)

/-! ## Messages -/

/-- The paths from an index on; true when the message filled first. Those in front of `first` are
passed over.
Source: `Server::serve_chunk_with_events`, `for (index, path) in paths`. -/
def servePaths (srv : Server η ν) (h : η) (ctx : InteractionContext) (scratch : Slice)
    (first : ℕ) : ℕ → List (Except ErrorCode AttributePath) → Serving ν Bool
  | _, [] => pure false
  | index, path :: paths => do
    let path ← ofResult path
    if index < first then servePaths srv h ctx scratch first (index + 1) paths
    else do
      Serving.moveCursor fun c => { c with path := index }
      if ← srv.servePathChunked h path ctx scratch then do
        Serving.moveCursor fun c => { c with path := index + 1, expansion := .start, list := none }
        servePaths srv h ctx scratch first (index + 1) paths
      else pure true

/-- Where the event half of a message stands. -/
structure EventProgress where
  opened : Bool := false
  truncated : Bool := false
  through : UInt64 := 0

/-- Opens the array of events, once.
Source: `Server::serve_chunk_with_events`, `if !opened`. -/
def openEvents (opened : Bool) : Serving ν Unit :=
  if opened then pure () else Serving.writing (start (.context 2) .array)

/-- One event path of the array of events, which is opened for the first of them.
Source: `Server::serve_chunk_with_events`, from `if !opened` to `cursor.event_from = from`. -/
def serveEventAt (srv : Server η ν) (h : η) (ctx : InteractionContext) (index : ℕ) (opened : Bool)
    (path : EventPath) : Serving ν (Bool × UInt64) := do
  openEvents opened
  Serving.moveCursor fun c => { c with eventPath := index }
  let s ← get
  let served ← srv.serveEventPath h path ctx s.cursor.eventFrom
  Serving.moveCursor fun c => { c with eventFrom := served.2 }
  pure served

/-- The event paths from an index on.
Source: `Server::serve_chunk_with_events`, `for (index, path) in events`. -/
def serveEvents (srv : Server η ν) (h : η) (ctx : InteractionContext) :
    ℕ → EventProgress → List (Except ErrorCode EventPath) → Serving ν EventProgress
  | _, progress, [] => pure progress
  | index, progress, path :: paths => do
    let path ← ofResult path
    let s ← get
    if index < s.cursor.eventPath then serveEvents srv h ctx (index + 1) progress paths
    else do
      let served ← srv.serveEventAt h ctx index progress.opened path
      let through := max progress.through served.2
      if served.1 then do
        Serving.moveCursor fun c => { c with eventPath := index + 1, eventFrom := 0 }
        serveEvents srv h ctx (index + 1) { progress with opened := true, through := through } paths
      else pure { opened := true, truncated := true, through := through }

/-- Source: `im/message.rs`, `REVISION_TAG`. -/
def revisionTag : UInt8 := 0xFF

/-- Source: `im/message.rs`, `INTERACTION_MODEL_REVISION`. -/
def interactionModelRevision : UInt16 := 13

/-- The head of a report.
Source: `Server::serve_chunk_with_events`, up to `w.start_array(Tag::Context(1))?`. -/
def reportHead (subscriptionId : Option UInt32) : Writing Unit := do
  start .anonymous .struct
  whenSome subscriptionId fun id => unsigned (.context 0) id.toUInt64
  start (.context 1) .array

/-- What is still to be written behind the blocks of a report.
Source: `Server::serve_chunk_with_events`, from `if !events_closed`. -/
def reportTail (eventsClosed truncated : Bool) : Writing Unit := do
  whenTrue (!eventsClosed) endContainer
  whenTrue truncated (Tlv.bool (.context 3) true)
  unsigned (.context revisionTag) interactionModelRevision.toUInt64
  endContainer

/-- The event half of a message, which a message whose attribute half filled it does not have.
Source: `Server::serve_chunk_with_events`, `if !truncated`. -/
def serveEventHalf (srv : Server η ν) (h : η) (events : List (Except ErrorCode EventPath))
    (ctx : InteractionContext) : Serving ν EventProgress := do
  Serving.writing endContainer
  let progress ← srv.serveEvents h ctx 0 {} events
  Serving.writing (whenTrue progress.opened endContainer)
  pure progress

/-- The blocks of a message: whether its attribute half filled it, and where its event half stands.
Source: `Server::serve_chunk_with_events`, up to `if truncated && reports == 0`. -/
def serveReports (srv : Server η ν) (h : η)
    (paths : List (Except ErrorCode AttributePath)) (events : List (Except ErrorCode EventPath))
    (ctx : InteractionContext) (subscriptionId : Option UInt32) (scratch : Slice) :
    Serving ν (Bool × EventProgress) := do
  Serving.writing (reportHead subscriptionId)
  let s ← get
  let stopped ← srv.servePaths h ctx scratch s.cursor.path 0 paths
  let progress ← if stopped then pure { truncated := true } else srv.serveEventHalf h events ctx
  pure (stopped, progress)

/-- Notes that the read is over, if it is.
Source: `Server::serve_chunk_with_events`, `cursor.done = true`. -/
def markDone (truncated : Bool) : Serving ν Unit :=
  if truncated then pure () else Serving.moveCursor fun c => { c with done := true }

/-- Ends a message, which fails if there is more to say and nothing was said.
Source: `Server::serve_chunk_with_events`, from `if truncated && reports == 0`. -/
def closeReport (stopped : Bool) (progress : EventProgress) : Serving ν (List UInt8 × ReadOutcome) := do
  let s ← get
  require (¬ (progress.truncated = true ∧ s.packed.responses = 0)) .bufferTooSmall
  markDone progress.truncated
  Serving.writing (reportTail (!stopped) progress.truncated)
  let s ← get
  let bytes ← ofResult s.packed.w.finish
  pure (bytes, ⟨s.packed.responses, progress.truncated, progress.through⟩)

/-- Serves one message of a read.
Source: `Server::serve_chunk_with_events`. -/
def serveChunkWithEvents (srv : Server η ν) (h : η)
    (paths : List (Except ErrorCode AttributePath)) (events : List (Except ErrorCode EventPath))
    (ctx : InteractionContext) (subscriptionId : Option UInt32) (scratch buf : Slice) :
    Serving ν (List UInt8 × ReadOutcome) := do
  modify fun s => { s with packed := ⟨TlvWriter.new buf, 0, []⟩ }
  let (stopped, progress) ← srv.serveReports h paths events ctx subscriptionId scratch
  closeReport stopped progress

end Server

/-! ## A small device -/

/-- The state of a lamp: the values of its two attributes. -/
structure Lamp where
  onOff : UInt8 := 0
  level : UInt8 := 0
  deriving DecidableEq

namespace Lamp

/-- The cluster of a lamp: attributes 0 and 1, a command, and an event that takes an
administrator. -/
def cluster : ClusterDescriptor where
  id := 6
  revision := 1
  featureMap := 0
  attributes := [.readWrite 0, .readWrite 1]
  acceptedCommands := [.new 0]
  generatedCommands := []
  events := [⟨0, .readOnly .administer⟩]

/-- The node of a lamp: its cluster on endpoint 1. -/
def node : Node := ⟨[⟨1, [cluster], []⟩]⟩

/-- The value of an attribute. -/
def value (l : Lamp) (id : AttributeId) : UInt64 :=
  if id = 0 then l.onOff.toUInt64 else l.level.toUInt64

/-- A server of a lamp: everyone may do everything that takes less than an administrator, every write
sets the attribute to 1 and the command sets both. -/
def server (limit : ℕ) : Server Lamp (DataVersions 4) where
  node := node
  allows := fun _ _ required => if required = .administer then .denied else .granted
  read := fun l resolved _ w tag =>
    match exec (unsigned tag (l.value resolved.attributeId)) w with
    | (.ok (), w) => (.ok (), w)
    | (.error _, w) => (.error .resourceExhausted, w)
  dataVersion := fun _ _ => none
  write := fun l resolved _ _ _ =>
    (.ok (), if resolved.attributeId = 0 then { l with onOff := 1 } else { l with level := 1 })
  invoke := fun _ _ _ _ w _ => (.ok none, w, ⟨1, 1⟩)
  limit := limit
  versions := some (DataVersions.source 4)
  events := none

/-- A buffer of a number of octets. -/
def room (n : ℕ) (h : n < 2 ^ 63) : Slice := ⟨List.replicate n 0, Slice.length_replicate h⟩

lemma room_64 : 64 < 2 ^ 63 := by decide

lemma room_96 : 96 < 2 ^ 63 := by decide

lemma room_128 : 128 < 2 ^ 63 := by decide

lemma room_256 : 256 < 2 ^ 63 := by decide

end Lamp

end MatterKit.Im
