import MatterKit.Im.Server

/-!
# The server: writes

The write half of `im/server.rs`. Every path of a write request is answered with a status, which is
packed into the response like a block of a report; the write itself has been made by then.

`ActState.calls` keeps which calls of the clusters were made and what they returned, and a
`WriteBlock` which element of the request it answers, beside what the source has.
-/

namespace MatterKit.Im

open Lib Machine Tlv Dm

/-- A call of a cluster that may change it, and whether it returned `Ok`. -/
inductive Call
  | write (resolved : Resolved) (op : WriteOp) (ok : Bool)
  | invoke (resolved : ResolvedCommand) (ok : Bool)
  deriving DecidableEq

/-- The access decision a write request has already taken.
Source: `im/server.rs`, `WriteAction`. -/
structure WriteAction where
  granted : Option (EndpointId × ClusterId × AttributeId) := none

namespace WriteAction

/-- Source: `WriteAction::already_granted`. -/
def alreadyGranted (a : WriteAction) (path : EndpointId × ClusterId × AttributeId) : Bool :=
  a.granted == some path

/-- Source: `WriteAction::grant`. -/
def grant (path : EndpointId × ClusterId × AttributeId) : WriteAction := ⟨some path⟩

end WriteAction

/-- What serving a write or an invoke request works on. -/
structure ActState (η ν β : Type) where
  packed : Packed β
  handler : η
  versions : ν
  action : WriteAction
  calls : List Call

/-- A step of serving a write or an invoke request. -/
abbrev Acting (η ν β α : Type) := Machine (ActState η ν β) ErrorCode α

namespace Acting

variable {η ν β : Type}

/-- A step of the writer. -/
def writing (x : Writing Unit) : Acting η ν β Unit := do
  let s ← get
  let (result, w) := exec x s.packed.w
  set { s with packed := { s.packed with w := w } }
  ofResult result

/-- Packs a block into the response.
Source: the calls of `put_block`. -/
def put (limit : ℕ) (encode : β → Writing Unit) (b : β) : Acting η ν β Bool := do
  let s ← get
  let (result, packed) := exec (putBlock limit encode b) s.packed
  set { s with packed := packed }
  ofResult result

/-- Moves the version of a cluster instance, if the node keeps a table.
Source: `Server::write_concrete` and `run_command`, `versions.touch(..)`. -/
def touch (versions : Option (DataVersionSource ν)) (endpoint : EndpointId) (cluster : ClusterId) :
    Acting η ν β Unit :=
  match versions with
  | none => pure ()
  | some source => modify fun s => { s with versions := source.touch endpoint cluster s.versions }

end Acting

/-- A status of a write response, and the element of the request it answers. -/
structure WriteBlock where
  element : ℕ
  status : AttributeStatus
  deriving DecidableEq

/-- Source: `Server::write_response_status`, the closure of `put_block`. -/
def WriteBlock.encode (b : WriteBlock) : Writing Unit := b.status.encode .anonymous

namespace Server

variable {η ν : Type}

/-- Source: `Server::write_response_status`. -/
def writeResponseStatus (srv : Server η ν) (element : ℕ) (path : AttributePath) (status : Status) :
    Acting η ν WriteBlock Bool :=
  Acting.put srv.limit WriteBlock.encode ⟨element, path, .new status⟩

/-- A call of `handler.write`. -/
def callWrite (srv : Server η ν) (resolved : Resolved) (data : List UInt8) (op : WriteOp)
    (ctx : InteractionContext) : Acting η ν WriteBlock (Except Status Unit) := do
  let s ← get
  let (result, h) := srv.write s.handler resolved data op ctx
  set { s with handler := h, calls := s.calls ++ [Call.write resolved op result.isOk] }
  pure result

/-! ## Concrete paths -/

/-- Existence and access, in the order a concrete path is answered; a path the action has been granted
before is not asked about again.
Source: `Server::write_concrete`, steps b.i to b.iii. -/
def checkAccess (srv : Server η ν) (h : η) (carried : Bool) (path : AttributePath)
    (concrete : EndpointId × ClusterId × AttributeId) :
    Except Status (Resolved × AttributeDescriptor) :=
  let denied (required : Privilege) : Option Status :=
    if carried then none else (srv.allows h path required).status
  match denied .view with
  | some status => .error status
  | none =>
    match srv.node.resolve concrete.1 concrete.2.1 concrete.2.2 with
    | .error missing => .error (missingStatus .unsupportedAttribute missing)
    | .ok resolved =>
      match resolved.cluster.attribute? concrete.2.2 with
      | none => .error .unsupportedAttribute
      | some descriptor =>
        match descriptor.access.write with
        | none => .error .unsupportedWrite
        | some required =>
          match denied required with
          | some status => .error status
          | none => .ok (resolved, descriptor)

/-- An atomic attribute that is not claimed.
Source: `Server::write_concrete` and `serve_write_path`, the condition on
`AttributeQualities::ATOMIC`. -/
def unclaimed (ctx : InteractionContext) (resolved : Resolved) (descriptor : AttributeDescriptor) :
    Bool :=
  descriptor.qualities.contains .atomic && !ctx.atomic.any fun claim =>
      claim.covers resolved.endpoint resolved.cluster.id resolved.attributeId

/-- Whether the version a write was computed against is not the cluster's own.
Source: `Server::write_concrete`, step b.vi. -/
def stale (srv : Server η ν) (h : η) (expected : Option UInt32) (resolved : Resolved) : Bool :=
  match expected, srv.dataVersion h resolved with
  | some expected, some actual => expected != actual
  | _, _ => false

/-- What else a concrete write is refused for.
Source: `Server::write_concrete`, from the claim check to step b.vi. -/
def checkWrite (srv : Server η ν) (h : η) (ctx : InteractionContext) (expected : Option UInt32)
    (resolved : Resolved) (descriptor : AttributeDescriptor) : Option Status :=
  if unclaimed ctx resolved descriptor then some .invalidInState
  else if descriptor.access.needsTimed && !ctx.timed then some .needsTimedInteraction
  else if descriptor.access.isFabricScoped && ctx.fabricIndex.isNone then some .unsupportedAccess
  else if srv.stale h expected resolved then some .dataVersionMismatch
  else none

/-- The status of a concrete write, which is made if nothing refuses it.
Source: `Server::write_concrete`, the status every branch of it passes to
`write_response_status`. -/
def concreteStatus (srv : Server η ν) (data : AttributeData)
    (concrete : EndpointId × ClusterId × AttributeId) (op : WriteOp) (ctx : InteractionContext) :
    Acting η ν WriteBlock Status := do
  let s ← get
  match srv.checkAccess s.handler (s.action.alreadyGranted concrete) data.path concrete with
  | .error status => pure status
  | .ok (resolved, descriptor) => do
    modify fun s => { s with action := .grant concrete }
    match srv.checkWrite s.handler ctx data.dataVersion resolved descriptor with
    | some status => pure status
    | none => do
      match ← srv.callWrite resolved data.data op ctx with
      | .error status => pure status
      | .ok () => do
        Acting.touch srv.versions resolved.endpoint resolved.cluster.id
        pure .success

/-- Source: `Server::write_concrete`. -/
def writeConcrete (srv : Server η ν) (element : ℕ) (data : AttributeData)
    (concrete : EndpointId × ClusterId × AttributeId) (op : WriteOp) (ctx : InteractionContext) :
    Acting η ν WriteBlock Bool := do
  let status ← srv.concreteStatus data concrete op ctx
  srv.writeResponseStatus element data.path status

/-! ## Expanded paths -/

/-- Whether an expanded attribute is written.
Source: `Server::serve_write_path`, the conditions of `continue`. -/
def writable (srv : Server η ν) (h : η) (ctx : InteractionContext) (resolved : Resolved) : Bool :=
  match resolved.cluster.attribute? resolved.attributeId with
  | none => false
  | some descriptor =>
    match descriptor.access.write with
    | none => false
    | some required =>
      decide (srv.allows h resolved.path required = .granted) &&
        !(descriptor.access.needsTimed && !ctx.timed) && !unclaimed ctx resolved descriptor

/-- The status of a result. -/
def resultStatus : Except Status Unit → Status
  | .ok () => .success
  | .error status => status

/-- Source: `Server::serve_write_path`, `for resolved in self.node.expand(&path)`. -/
def writeExpanded (srv : Server η ν) (element : ℕ) (data : List UInt8) (op : WriteOp)
    (ctx : InteractionContext) : List Resolved → Acting η ν WriteBlock Bool
  | [] => pure true
  | resolved :: rest => do
    let s ← get
    if srv.writable s.handler ctx resolved then do
      let result ← srv.callWrite resolved data op ctx
      if ← srv.writeResponseStatus element resolved.path (resultStatus result) then
        writeExpanded srv element data op ctx rest
      else pure false
    else writeExpanded srv element data op ctx rest

/-- Refuses a path that is not understood, by its name if it has one.
Source: `Server::serve_write_path`, its first two `return`s. -/
def refusePath (srv : Server η ν) (element : ℕ) (path : AttributePath) :
    Acting η ν WriteBlock Bool :=
  if path.concrete.isSome then srv.writeResponseStatus element path .invalidAction else pure true

/-- Source: `Server::serve_write_path`. -/
def serveWritePath (srv : Server η ν) (element : ℕ) (data : AttributeData)
    (ctx : InteractionContext) : Acting η ν WriteBlock Bool :=
  if data.path.enableTagCompression then srv.refusePath element data.path
  else
    match WriteOp.of data.path with
    | none => srv.refusePath element data.path
    | some op =>
      match data.path.concrete with
      | some concrete => srv.writeConcrete element data concrete op ctx
      | none => srv.writeExpanded element data.data op ctx (srv.node.expand data.path)

/-! ## The response -/

/-- The elements of a write request, up to the one the response is full at.
Source: `Server::serve_write`, `for data in writes`. -/
def serveWrites (srv : Server η ν) (ctx : InteractionContext) :
    ℕ → List (Except ErrorCode AttributeData) → Acting η ν WriteBlock Bool
  | _, [] => pure false
  | element, data :: rest => do
    let data ← ofResult data
    if ← srv.serveWritePath element data ctx then serveWrites srv ctx (element + 1) rest
    else pure true

/-- Source: `Server::serve_write`, up to `w.start_array(Tag::Context(0))?`. -/
def writeHead : Writing Unit := do
  start .anonymous .struct
  start (.context 0) .array

/-- Source: `Server::serve_write`, from the first `w.end_container()?`. -/
def writeTail : Writing Unit := do
  endContainer
  unsigned (.context revisionTag) interactionModelRevision.toUInt64
  endContainer

/-- Serves a whole write request.
Source: `Server::serve_write`. -/
def serveWrite (srv : Server η ν) (writes : List (Except ErrorCode AttributeData))
    (ctx : InteractionContext) (moreChunked : Bool) (buf : Slice) :
    Acting η ν WriteBlock (List UInt8 × ReadOutcome) := do
  require (¬ (moreChunked = true ∧ ctx.timed = true)) .invalidAction
  modify fun s => { s with packed := ⟨TlvWriter.new buf, 0, []⟩, action := {} }
  Acting.writing writeHead
  let truncated ← srv.serveWrites ctx 0 writes
  Acting.writing writeTail
  let s ← get
  let bytes ← ofResult s.packed.w.finish
  pure (bytes, ⟨s.packed.responses, truncated, 0⟩)

end Server

end MatterKit.Im
