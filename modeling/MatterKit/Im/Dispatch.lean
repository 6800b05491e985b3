import MatterKit.Im.Invoke

/-!
# The dispatcher: writes and commands

`im/timed.rs`, the write and invoke requests of `im/message.rs`, and the two functions of
`im/dispatch.rs` that turn such a request into a response. The elements of a request are decoded while
they are served: an array is captured when the request is decoded, and walked later.

`DispatchState.calls` keeps the calls of the clusters that a dispatch has made.
-/

namespace MatterKit.Im

open Lib Machine Tlv Dm

/-! ## Timed windows -/

/-- Source: `im/timed.rs`, `Window`. -/
structure TimedWindow where
  session : Option SessionId
  exchange : ExchangeId
  deadline : Instant

/-- Source: `im/timed.rs`, `TimedWindows`. -/
structure TimedWindows (W : ℕ) where
  windows : Vector (Option TimedWindow) W

namespace TimedWindows

variable {W : ℕ}

/-- Source: `TimedWindows::new`. -/
def new : TimedWindows W := ⟨Vector.replicate W none⟩

/-- The first window of an exchange, and where it is.
Source: `TimedWindows::slot_for`. -/
def slotFor (t : TimedWindows W) (session : Option SessionId) (exchange : ExchangeId) :
    Option (ℕ × TimedWindow) :=
  let isIts (slot : Option TimedWindow) : Bool :=
    slot.any fun window => window.session == session && window.exchange == exchange
  (t.windows.toList.findIdx? isIts).bind fun i => (t.windows[i]?.join).map fun window => (i, window)

/-- Whether a request is timed, or the status it is refused with; its window is used up.
Source: `TimedWindows::check`. -/
def check (t : TimedWindows W) (session : Option SessionId) (exchange : ExchangeId)
    (timedRequest : Bool) (now : Instant) : Except Status Bool × TimedWindows W :=
  match t.slotFor session exchange with
  | none => (if timedRequest then .error .timedRequestMismatch else .ok false, t)
  | some (i, window) =>
    let t : TimedWindows W := ⟨t.windows.setIfInBounds i none⟩
    if window.deadline < now then (.error .timeout, t)
    else if timedRequest then (.ok true, t)
    else (.error .timedRequestMismatch, t)

end TimedWindows

/-! ## Requests -/

/-- Opens a message: an anonymous structure.
Source: `open`. -/
def openMessage : Reading Unit := do
  match ← nextElement with
  | none => throw .tlvTruncated
  | some head =>
    require (head.value.container? = some .struct ∧ head.tag.isAnonymous = true) .tlvWrongType

/-- Captures an array.
Source: `take_array`. -/
def takeArray (e : Element) (start : ℕ) : Reading (List UInt8) := do
  require (e.value.container? = some .array) .tlvWrongType
  skipValue e
  sliceFrom start

/-- The fields a request has, as far as they have been met. The two requests differ in what is under
tag 3, which only the write request knows. -/
structure RequestFields where
  suppressResponse : Option Bool := none
  timedRequest : Option Bool := none
  requests : Option (List UInt8) := none
  moreChunked : Option Bool := none
  revision : Option UInt16 := none

/-- Source: `InvokeRequest::decode`, `match element.tag.context()`. -/
def decodeInvokeField (start : ℕ) (e : Element) (f : RequestFields) : Reading RequestFields :=
  match e.tag.context? with
  | some 0 => do
    let v ← setField f.suppressResponse e.bool
    pure { f with suppressResponse := v }
  | some 1 => do
    let v ← setField f.timedRequest e.bool
    pure { f with timedRequest := v }
  | some 2 => do
    let requests ← takeArray e start
    let v ← setField f.requests (.ok requests)
    pure { f with requests := v }
  | some 0xFF => do
    let v ← setField f.revision (e.unsigned >>= narrow16)
    pure { f with revision := v }
  | _ => do
    skipValue e
    pure f

/-- Source: `WriteRequest::decode`, `match element.tag.context()`. -/
def decodeWriteField (start : ℕ) (e : Element) (f : RequestFields) : Reading RequestFields :=
  if e.tag.context? = some 3 then do
    let v ← setField f.moreChunked e.bool
    pure { f with moreChunked := v }
  else decodeInvokeField start e f

/-- A whole message decoded by its fields.
Source: `WriteRequest::decode` and `InvokeRequest::decode`. -/
def decodeRequest (field : ℕ → Element → RequestFields → Reading RequestFields)
    (payload : List UInt8) : Except ErrorCode (RequestFields × List UInt8) :=
  let run : Reading (RequestFields × List UInt8) := do
    openMessage
    let f ← eachMember field {}
    let r ← get
    ofResult r.finish
    let requests ← ofResult (okOr f.requests .tlvNotFound)
    pure (f, requests)
  (exec run (TlvReader.new payload)).1

/-- Source: `WriteRequest`. -/
structure WriteRequest where
  suppressResponse : Bool
  timedRequest : Bool
  writeRequests : List UInt8
  moreChunkedMessages : Bool

/-- Source: `WriteRequest::decode`. -/
def WriteRequest.decode (payload : List UInt8) : Except ErrorCode WriteRequest := do
  let (f, requests) ← decodeRequest decodeWriteField payload
  pure ⟨f.suppressResponse.getD false, f.timedRequest.getD false, requests,
    f.moreChunked.getD false⟩

/-- Source: `WriteRequest::writes`. -/
def WriteRequest.writes (r : WriteRequest) :
    Except ErrorCode (List (Except ErrorCode AttributeData)) :=
  arrayIter r.writeRequests .struct AttributeData.decode

/-- Source: `InvokeRequest`. -/
structure InvokeRequest where
  suppressResponse : Bool
  timedRequest : Bool
  invokeRequests : List UInt8

/-- Source: `InvokeRequest::decode`. -/
def InvokeRequest.decode (payload : List UInt8) : Except ErrorCode InvokeRequest := do
  let (f, requests) ← decodeRequest decodeInvokeField payload
  pure ⟨f.suppressResponse.getD false, f.timedRequest.getD false, requests⟩

/-- Source: `InvokeRequest::commands`. -/
def InvokeRequest.commands (r : InvokeRequest) :
    Except ErrorCode (List (Except ErrorCode CommandData)) :=
  arrayIter r.invokeRequests .struct CommandData.decode

/-! ## Dispatching -/

/-- The two requests dispatched here, by their opcodes.
Source: `opcode::WRITE_REQUEST` and `opcode::INVOKE_REQUEST`. -/
inductive RequestKind
  | write
  | invoke

/-- Source: `im/dispatch.rs`, `Request`. -/
structure Request where
  kind : RequestKind
  payload : List UInt8
  session : Option SessionId
  exchange : ExchangeId
  groupcast : Bool

/-- What came of a request: a status response, the response of its kind, or nothing to send. A reply
has the octets that the source leaves in the buffer.
Source: `im/dispatch.rs`, `Served`. -/
inductive Served
  | statusReply (status : Status) (bytes : List UInt8)
  | reply (bytes : List UInt8)
  | silent

/-- What a dispatch works on: the windows of the dispatcher, the device, and the calls made. -/
structure DispatchState (W : ℕ) (η ν : Type) where
  timed : TimedWindows W
  handler : η
  versions : ν
  calls : List Call

/-- A step of a dispatch. -/
abbrev Dispatching (W : ℕ) (η ν α : Type) := Machine (DispatchState W η ν) ErrorCode α

namespace Dispatching

variable {W : ℕ} {η ν : Type}

/-- Source: `StatusResponse::encode`, what it writes. -/
def statusBody (status : Status) : Writing Unit := do
  start .anonymous .struct
  unsigned (.context 0) status.value.toUInt64
  unsigned (.context Server.revisionTag) Server.interactionModelRevision.toUInt64
  endContainer

/-- Source: `im/dispatch.rs`, `status_reply`. -/
def statusReply (status : Status) (buf : Slice) : Dispatching W η ν Served :=
  match exec (statusBody status) (TlvWriter.new buf) with
  | (.error e, _) => throw e
  | (.ok (), w) => do
    let bytes ← ofResult w.finish
    pure (.statusReply status bytes)

/-- Uses up the window of a request.
Source: `Dispatcher::write` and `invoke`, `self.timed.check(..)`. -/
def checkTimed (request : Request) (timedRequest : Bool) (now : Instant) :
    Dispatching W η ν (Except Status Bool) := do
  let s ← get
  let (result, timed) := s.timed.check request.session request.exchange timedRequest now
  set { s with timed := timed }
  pure result

/-- Serves an action on the device. -/
def acting {β α : Type} (buf : Slice) (x : Acting η ν β α) : Dispatching W η ν α := do
  let s ← get
  let (result, act) := exec x
    { packed := ⟨TlvWriter.new buf, 0, []⟩
      handler := s.handler
      versions := s.versions
      action := {}
      calls := s.calls }
  set { s with handler := act.handler, versions := act.versions, calls := act.calls }
  ofResult result

end Dispatching

/-- Source: `im/dispatch.rs`, `Dispatcher`, less its windows, which a dispatch changes. -/
structure Dispatcher where
  maxPathsPerInvoke : UInt16

/-- How many commands decode before the first that does not.
Source: `Dispatcher::invoke`, `for command in invoke.commands()?`, less the comparison. -/
def decodable (commands : List (Except ErrorCode CommandData)) : ℕ :=
  (commands.takeWhile Except.isOk).length

namespace Dispatcher

variable {W : ℕ} {η ν : Type}

/-- Source: `Dispatcher::write`. -/
def write (srv : Server η ν) (request : Request) (ctx : InteractionContext) (buf : Slice) :
    Dispatching W η ν Served := do
  let write ← ofResult (WriteRequest.decode request.payload)
  match ← Dispatching.checkTimed request write.timedRequest ctx.now with
  | .error status => Dispatching.statusReply status buf
  | .ok timed => do
    let writes ← ofResult write.writes
    let (bytes, _) ← Dispatching.acting buf
      (srv.serveWrite writes { ctx with timed := timed } write.moreChunkedMessages buf)
    if request.groupcast || write.suppressResponse then pure .silent else pure (.reply bytes)

/-- Source: `Dispatcher::invoke`. -/
def invoke (d : Dispatcher) (srv : Server η ν) (request : Request) (ctx : InteractionContext)
    (scratch buf : Slice) : Dispatching W η ν Served := do
  let invoke ← ofResult (InvokeRequest.decode request.payload)
  match ← Dispatching.checkTimed request invoke.timedRequest ctx.now with
  | .error status => Dispatching.statusReply status buf
  | .ok timed => do
    let commands ← ofResult invoke.commands
    if decodable commands > d.maxPathsPerInvoke.toNat then
      Dispatching.statusReply .invalidAction buf
    else do
      let (bytes, _) ← Dispatching.acting buf
        (srv.serveInvoke commands { ctx with timed := timed } invoke.suppressResponse scratch buf)
      if request.groupcast then pure .silent else pure (.reply bytes)

/-- Source: `Dispatcher::dispatch`, its arms for these two requests. -/
def dispatch (d : Dispatcher) (srv : Server η ν) (request : Request) (ctx : InteractionContext)
    (scratch buf : Slice) : Dispatching W η ν Served :=
  match request.kind with
  | .write => write srv request ctx buf
  | .invoke => d.invoke srv request ctx scratch buf

end Dispatcher

end MatterKit.Im
