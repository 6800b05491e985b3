import MatterKit.Im.Write

/-!
# The server: commands

The invoke half of `im/server.rs`. A command is run before its response is known to fit; a response
that does not is replaced by a status.

Serving a request touches the device's clusters through `invoke` alone, so that what every `invoke`
keeps of their state, a whole message keeps (`serveInvoke_keeps`).
-/

namespace MatterKit.Im

open Lib Machine Tlv Dm

/-- A command's path as the access control sees it.
Source: `im/server.rs`, `command_as_attribute_path`. -/
def commandAsAttributePath (path : CommandPath) : AttributePath :=
  { endpoint := path.endpoint, cluster := path.cluster }

namespace Server

variable {η ν : Type}

/-- Source: `Server::command_status`. -/
def commandStatus (srv : Server η ν) (path : CommandPath) (status : StatusIb)
    (commandRef : Option UInt16) : Acting η ν InvokeResponse Bool :=
  Acting.put srv.limit InvokeResponse.encode (.status ⟨path, status, commandRef⟩)

/-- A call of `handler.invoke`, with the writer its response fields are in.
Source: `Server::run_command`, `let outcome`. -/
def callInvoke (srv : Server η ν) (resolved : ResolvedCommand) (fields : Option (List UInt8))
    (ctx : InteractionContext) (scratch : Slice) :
    Acting η ν InvokeResponse (Except StatusIb (Option CommandId) × TlvWriter) := do
  let s ← get
  let (result, w, h) :=
    srv.invoke s.handler resolved fields ctx (TlvWriter.newIn scratch .struct) (.context 1)
  set { s with handler := h, calls := s.calls ++ [Call.invoke resolved result.isOk] }
  pure (result, w)

/-- What is answered for a command that has run.
Source: `Server::run_command`, `match outcome`. -/
def answerCommand (srv : Server η ν) (resolved : ResolvedCommand) (command : CommandData)
    (result : Except StatusIb (Option CommandId)) (fields : TlvWriter) :
    Acting η ν InvokeResponse Bool :=
  let status (status : StatusIb) := srv.commandStatus resolved.path status command.commandRef
  match result with
  | .error e => status e
  | .ok none => status (.new .success)
  | .ok (some responseId) =>
    match fields.finish with
    | .error _ => status (.new .failure)
    | .ok encoded => do
      let response : CommandData :=
        ⟨.ofIds resolved.endpoint resolved.cluster.id responseId, some encoded,
          command.commandRef⟩
      if ← Acting.put srv.limit InvokeResponse.encode (.command response) then pure true
      else status (.new .resourceExhausted)

/-- Source: `Server::run_command`. -/
def runCommand (srv : Server η ν) (resolved : ResolvedCommand) (command : CommandData)
    (ctx : InteractionContext) (scratch : Slice) : Acting η ν InvokeResponse Bool := do
  let s ← get
  if s.packed.responses ≥ srv.limit then pure false
  else do
    let (result, fields) ← srv.callInvoke resolved command.fields ctx scratch
    if result.isOk then Acting.touch srv.versions resolved.endpoint resolved.cluster.id else pure ()
    srv.answerCommand resolved command result fields

/-- What a concrete command is refused with, or the command.
Source: `Server::invoke_concrete`, up to `self.run_command`. -/
def checkCommand (srv : Server η ν) (h : η) (path : CommandPath)
    (concrete : EndpointId × ClusterId × CommandId) (ctx : InteractionContext) :
    Except Status ResolvedCommand :=
  match (srv.allows h (commandAsAttributePath path) .operate).status with
  | some status => .error status
  | none =>
    match srv.node.resolveCommand concrete.1 concrete.2.1 concrete.2.2 with
    | .error missing => .error (missingStatus .unsupportedCommand missing)
    | .ok resolved =>
      match resolved.command.access.invoke with
      | none => .error .unsupportedCommand
      | some required =>
        match (srv.allows h (commandAsAttributePath path) required).status with
        | some status => .error status
        | none =>
          if resolved.command.access.needsLargeMessages && !ctx.largeMessages then
            .error .invalidTransportType
          else if resolved.command.access.isFabricScoped && ctx.fabricIndex.isNone then
            .error .unsupportedAccess
          else if resolved.command.access.needsTimed && !ctx.timed then
            .error .needsTimedInteraction
          else .ok resolved

/-- Source: `Server::invoke_concrete`. -/
def invokeConcrete (srv : Server η ν) (command : CommandData)
    (concrete : EndpointId × ClusterId × CommandId) (ctx : InteractionContext) (scratch : Slice) :
    Acting η ν InvokeResponse Bool := do
  let s ← get
  match srv.checkCommand s.handler command.path concrete ctx with
  | .error status => srv.commandStatus command.path (.new status) command.commandRef
  | .ok resolved => srv.runCommand resolved command ctx scratch

/-- Whether an expanded command is run.
Source: `Server::serve_invoke_command`, the conditions of `continue`. -/
def invokable (srv : Server η ν) (h : η) (ctx : InteractionContext) (resolved : ResolvedCommand) :
    Bool :=
  match resolved.command.access.invoke with
  | none => false
  | some required =>
    decide (srv.allows h (commandAsAttributePath resolved.path) required = .granted) &&
      !(resolved.command.access.needsLargeMessages && !ctx.largeMessages) &&
      !(resolved.command.access.isFabricScoped && ctx.fabricIndex.isNone) &&
      !(resolved.command.access.needsTimed && !ctx.timed)

/-- Source: `Server::serve_invoke_command`, `for resolved in self.node.expand_commands(&path)`. -/
def invokeExpanded (srv : Server η ν) (command : CommandData) (ctx : InteractionContext)
    (scratch : Slice) : List ResolvedCommand → Acting η ν InvokeResponse Bool
  | [] => pure true
  | resolved :: rest => do
    let s ← get
    if srv.invokable s.handler ctx resolved then do
      if ← srv.runCommand resolved command ctx scratch then
        invokeExpanded srv command ctx scratch rest
      else pure false
    else invokeExpanded srv command ctx scratch rest

/-- Source: `Server::serve_invoke_command`. -/
def serveInvokeCommand (srv : Server η ν) (command : CommandData) (ctx : InteractionContext)
    (scratch : Slice) : Acting η ν InvokeResponse Bool :=
  match command.path.concrete with
  | some concrete => srv.invokeConcrete command concrete ctx scratch
  | none => srv.invokeExpanded command ctx scratch (srv.node.expandCommands command.path)

/-- The commands of an invoke request, up to the one the response is full at.
Source: `Server::serve_invoke`, `for command in commands`. -/
def serveCommands (srv : Server η ν) (ctx : InteractionContext) (scratch : Slice) :
    List (Except ErrorCode CommandData) → Acting η ν InvokeResponse Bool
  | [] => pure false
  | command :: rest => do
    let command ← ofResult command
    if ← srv.serveInvokeCommand command ctx scratch then serveCommands srv ctx scratch rest
    else pure true

/-- Source: `Server::serve_invoke`, up to `w.start_array(Tag::Context(1))?`. -/
def invokeHead (suppressResponse : Bool) : Writing Unit := do
  start .anonymous .struct
  Tlv.bool (.context 0) suppressResponse
  start (.context 1) .array

/-- Source: `Server::serve_invoke`, from the first `w.end_container()?`. -/
def invokeTail (truncated : Bool) : Writing Unit := do
  endContainer
  if truncated then Tlv.bool (.context 2) true else pure ()
  unsigned (.context revisionTag) interactionModelRevision.toUInt64
  endContainer

/-- Serves a whole invoke request.
Source: `Server::serve_invoke`. -/
def serveInvoke (srv : Server η ν) (commands : List (Except ErrorCode CommandData))
    (ctx : InteractionContext) (suppressResponse : Bool) (scratch buf : Slice) :
    Acting η ν InvokeResponse (List UInt8 × ReadOutcome) := do
  modify fun s => { s with packed := ⟨TlvWriter.new buf, 0, []⟩ }
  Acting.writing (invokeHead suppressResponse)
  let truncated ← srv.serveCommands ctx scratch commands
  Acting.writing (invokeTail truncated)
  let s ← get
  let bytes ← ofResult s.packed.w.finish
  pure (bytes, ⟨s.packed.responses, truncated, 0⟩)

/-! ## What a message keeps -/

/-- A property of the clusters' state is kept. -/
def Keeps {β : Type} (I : η → Prop) (s s' : ActState η ν β) : Prop := I s.handler → I s'.handler

instance {β : Type} (I : η → Prop) : Std.Refl (Keeps (ν := ν) (β := β) I) where
  refl _ := id

instance {β : Type} (I : η → Prop) : IsTrans (ActState η ν β) (Keeps I) where
  trans _ _ _ h h' := h' ∘ h

section keeps

variable {I : η → Prop} {srv : Server η ν}

lemma writing_keeps {β : Type} (x : Writing Unit) :
    Moves (Keeps I) (Acting.writing x : Acting η ν β Unit) := fun _ => id

lemma commandStatus_keeps (path : CommandPath) (status : StatusIb) (commandRef : Option UInt16) :
    Moves (Keeps I) (srv.commandStatus path status commandRef) := fun _ => id

lemma touch_keeps {β : Type} (versions : Option (DataVersionSource ν)) (endpoint : EndpointId)
    (cluster : ClusterId) :
    Moves (Keeps I) (Acting.touch versions endpoint cluster : Acting η ν β Unit) := by
  cases versions with
  | none => exact Moves.pure ()
  | some source => exact Moves.modify fun _ => id

lemma answerCommand_keeps (resolved : ResolvedCommand) (command : CommandData)
    (result : Except StatusIb (Option CommandId)) (fields : TlvWriter) :
    Moves (Keeps I) (srv.answerCommand resolved command result fields) := by
  unfold answerCommand
  rcases result with e | responseId | responseId
  · exact commandStatus_keeps _ _ _
  · exact commandStatus_keeps _ _ _
  · dsimp only
    cases fields.finish with
    | error e => exact commandStatus_keeps _ _ _
    | ok encoded =>
      refine Moves.bind (fun _ => id) fun fitted => ?_
      cases fitted with
      | true => exact Moves.pure true
      | false => exact commandStatus_keeps _ _ _

variable (hinvoke : ∀ h resolved fields ctx w tag, I h → I (srv.invoke h resolved fields ctx w tag).2.2)

include hinvoke

lemma callInvoke_keeps (resolved : ResolvedCommand) (fields : Option (List UInt8))
    (ctx : InteractionContext) (scratch : Slice) :
    Moves (Keeps I) (srv.callInvoke resolved fields ctx scratch) :=
  fun s => hinvoke s.handler resolved fields ctx _ _

lemma runCommand_keeps (resolved : ResolvedCommand) (command : CommandData)
    (ctx : InteractionContext) (scratch : Slice) :
    Moves (Keeps I) (srv.runCommand resolved command ctx scratch) := by
  refine Moves.get fun s => ?_
  split_ifs
  · exact id
  · refine Moves.bind (R := Keeps I) (callInvoke_keeps hinvoke _ _ _ _) (fun answer => ?_) s
    obtain ⟨result, fields⟩ := answer
    dsimp only
    split_ifs
    · exact Moves.bind (touch_keeps _ _ _) fun _ => answerCommand_keeps _ _ _ _
    · exact answerCommand_keeps _ _ _ _

lemma invokeExpanded_keeps (command : CommandData) (ctx : InteractionContext) (scratch : Slice)
    (expanded : List ResolvedCommand) :
    Moves (Keeps I) (srv.invokeExpanded command ctx scratch expanded) := by
  induction expanded with
  | nil => exact Moves.pure true
  | cons resolved rest ih =>
    refine Moves.get fun s => ?_
    split_ifs
    · refine Moves.bind (R := Keeps I) (runCommand_keeps hinvoke _ _ _ _) (fun more => ?_) s
      cases more with
      | true => exact ih
      | false => exact Moves.pure false
    · exact ih s

lemma serveInvokeCommand_keeps (command : CommandData) (ctx : InteractionContext) (scratch : Slice) :
    Moves (Keeps I) (srv.serveInvokeCommand command ctx scratch) := by
  unfold serveInvokeCommand
  cases command.path.concrete with
  | none => exact invokeExpanded_keeps hinvoke _ _ _ _
  | some concrete =>
    refine Moves.get fun s => ?_
    cases srv.checkCommand s.handler command.path concrete ctx with
    | error status => exact commandStatus_keeps _ _ _ s
    | ok resolved => exact runCommand_keeps hinvoke _ _ _ _ s

lemma serveCommands_keeps (ctx : InteractionContext) (scratch : Slice)
    (commands : List (Except ErrorCode CommandData)) :
    Moves (Keeps I) (srv.serveCommands ctx scratch commands) := by
  induction commands with
  | nil => exact Moves.pure false
  | cons command rest ih =>
    refine Moves.ofResult_bind fun command _ => ?_
    refine Moves.bind (serveInvokeCommand_keeps hinvoke _ _ _) fun more => ?_
    cases more with
    | true => exact ih
    | false => exact Moves.pure true

/-- What every `invoke` keeps of the clusters' state, serving a whole message keeps. -/
theorem serveInvoke_keeps (commands : List (Except ErrorCode CommandData)) (ctx : InteractionContext)
    (suppressResponse : Bool) (scratch buf : Slice) :
    Moves (Keeps I) (srv.serveInvoke commands ctx suppressResponse scratch buf) := by
  refine Moves.bind (Moves.modify fun _ => id) fun _ => ?_
  refine Moves.bind (writing_keeps _) fun _ => ?_
  refine Moves.bind (serveCommands_keeps hinvoke _ _ _) fun truncated => ?_
  refine Moves.bind (writing_keeps _) fun _ => Moves.get fun s => ?_
  exact Moves.ofResult_bind (R := Keeps I) (fun _ _ => Moves.pure _) s

end keeps

end Server

end MatterKit.Im
