import MatterKit.Clusters.AccessControl
import MatterKit.Commissioning.Admission
import MatterKit.Commissioning.FailSafe
import MatterKit.Im.Server

/-!
# The General Commissioning cluster

`clusters/general_commissioning.rs`: `ArmFailSafe`, `SetRegulatoryConfig` and `CommissioningComplete`.
The fail-safe belongs to the node and is shared with the Operational Credentials cluster
(`Clusters/OperationalCredentials.lean`), so both clusters work on one `CommissioningNode`: what they
share, and the cells each of them keeps. What a command leaves for the device to do is put in a cell,
`aftermath` here and `change` there, that the device empties after a message.
-/

namespace MatterKit.Clusters

open Lib Machine Tlv Dm Im Commissioning

/-! ## What the clusters share -/

/-- Source: `RegulatoryLocation`. -/
inductive RegulatoryLocation
  | indoor
  | outdoor
  | indoorOutdoor
  deriving DecidableEq

/-- Source: `RegulatoryLocation::from_value`. -/
def RegulatoryLocation.fromValue (value : UInt8) : Option RegulatoryLocation :=
  if value = 0 then some .indoor
  else if value = 1 then some .outdoor
  else if value = 2 then some .indoorOutdoor
  else none

/-- What a command of General Commissioning left for the device to do.
Source: `Aftermath`. -/
inductive Aftermath
  | rollback (cleanup : Cleanup)
  | commissioned

/-- A key pair that a `CSRRequest` has generated and no NOC command has used.
Source: `clusters/operational_credentials.rs`, `PendingCsr`. -/
structure PendingCsr where
  session : Option SessionId
  key : KeyHandle
  publicKey : PublicKey
  forUpdate : Bool
  deriving DecidableEq

/-- What an `AddNOC`, `UpdateNOC` or `RemoveFabric` left for the device to do.
Source: `clusters/operational_credentials.rs`, `FabricChange`. -/
inductive FabricChange
  | added (index : FabricIndex) (caseAdminSubject : UInt64) (bindPaseSession : Bool)
  | updated (index : FabricIndex)
  | removed (index : FabricIndex) (wasLast wasAccessing : Bool)
  deriving DecidableEq

/-- The fabric a change is about.
Source: `OperationalCredentials::changed_index`. -/
def FabricChange.index : FabricChange → FabricIndex
  | .added index _ _ | .updated index | .removed index _ _ => index

/-- The node's state that commissioning works on.
Source: the fields of `GeneralCommissioning` and `OperationalCredentials`, of which the fabrics, the
keys, the fail-safe, the window and the location are shared cells. -/
structure CommissioningNode (N : ℕ) (K : Type) where
  fabrics : FabricTable N
  keys : K
  failSafe : FailSafe
  window : CommissioningWindow
  locationCapability : RegulatoryLocation
  regulatoryConfig : RegulatoryLocation
  location : List UInt8
  aftermath : Option Aftermath := none
  pendingRoot : Option (List UInt8) := none
  pendingCsr : Option PendingCsr := none
  change : Option FabricChange := none

/-- A command that answers with a status. -/
abbrev Commanding (N : ℕ) (K : Type) (α : Type) := Machine (CommissioningNode N K) Status α

/-! ## Reading and answering -/

/-- Source: Rust `map_err(|_| status)`. -/
def orElse {α : Type} (x : Except ErrorCode α) (status : Status) : Except Status α :=
  x.mapError fun _ => status

@[simp] lemma orElse_ok {α : Type} (a : α) (status : Status) : orElse (.ok a) status = .ok a := rfl

@[simp] lemma orElse_error {α : Type} (e : ErrorCode) (status : Status) :
    orElse (.error e : Except ErrorCode α) status = .error status := rfl

/-- Fills a field: `set_once(&mut slot, value?).map_err(|_| Status::InvalidCommand)?`. -/
def fieldOnce {α : Type} (slot : Option α) (value : Except Status α) : Except Status (Option α) := do
  let v ← value
  orElse (setOnce slot v) .invalidCommand

/-- Source: the loop of `walk_fields`. -/
def walkFrom {β : Type} (onField : UInt8 → Element → β → Except Status (Option β)) (depth : ℕ) :
    ℕ → β → Decoding β
  | 0, _ => throw .invalidCommand
  | rounds + 1, acc => do
    match ← orStatus nextElement .invalidCommand with
    | none => throw .invalidCommand
    | some e => do
      let r ← get
      if r.depth < depth then pure acc
      else
        match e.tag.context? with
        | none => do
          orStatus (skipValue e) .invalidCommand
          walkFrom onField depth rounds acc
        | some number => do
          match ← ofResult (onField number e acc) with
          | some acc => walkFrom onField depth rounds acc
          | none => do
            orStatus (skipValue e) .invalidCommand
            walkFrom onField depth rounds acc

/-- Reads the members of a command's fields; a member that `onField` does not take is passed over.
Source: `clusters/operational_credentials.rs`, `walk_fields`, and the loops of
`ArmFailSafeRequest::decode` and `SetRegulatoryConfigRequest::decode`. -/
def walkFields {β : Type} (onField : UInt8 → Element → β → Except Status (Option β)) (init : β)
    (fields : Option (List UInt8)) : Except Status β :=
  let read : Decoding β := do
    let some first ← orStatus nextElement .invalidCommand | throw .invalidCommand
    require (first.value.container? = some .struct) .invalidCommand
    let r ← get
    walkFrom onField r.depth (r.buf.length - r.pos + 1) init
  match fields with
  | none => .error .invalidCommand
  | some octets => (exec read (.newIn octets .struct)).1

/-- A response command: its id, and its fields under a tag. -/
structure Response where
  id : CommandId
  write : Tag → Writing Unit

/-- Writes the response of a command that has run. -/
def respond (result : Except Status (Option Response)) (w : TlvWriter) (tag : Tag) :
    Except StatusIb (Option CommandId) × TlvWriter :=
  match result with
  | .error status => (.error (.new status), w)
  | .ok none => (.ok none, w)
  | .ok (some response) =>
    match exec (response.write tag) w with
    | (.ok _, w) => (.ok (some response.id), w)
    | (.error _, w) => (.error (.new .resourceExhausted), w)

namespace GeneralCommissioning

/-- Source: `ID`. -/
def clusterId : ClusterId := 0x0030

/-- Source: `ARM_FAIL_SAFE`. -/
def armFailSafeCommand : CommandId := 0x00

/-- Source: `SET_REGULATORY_CONFIG`. -/
def setRegulatoryConfigCommand : CommandId := 0x02

/-- Source: `COMMISSIONING_COMPLETE`. -/
def commissioningCompleteCommand : CommandId := 0x04

/-- Source: `CommissioningError::value`. -/
def errorValue : CommissioningError → UInt8
  | .ok => 0
  | .valueOutsideRange => 1
  | .invalidAuthentication => 2
  | .noFailSafe => 3
  | .busyWithOtherAdmin => 4
  | .requiredTcNotAccepted => 5
  | .tcAcknowledgementsNotReceived => 6
  | .tcMinVersionNotMet => 7

/-- Source: `write_error_response`. -/
def errorResponse (id : CommandId) (error : CommissioningError) : Response where
  id := id
  write tag := do
    start tag .struct
    unsigned (.context 0) (errorValue error).toUInt64
    utf8 (.context 1) ""
    endContainer

/-! ## Fields -/

/-- Source: `ArmFailSafeRequest`. -/
structure ArmFailSafeRequest where
  expiryLengthSeconds : UInt16
  breadcrumb : UInt64

/-- Source: `ArmFailSafeRequest::decode`, the body of its loop. -/
def ArmFailSafeRequest.onField (number : UInt8) (e : Element)
    (f : Option UInt16 × Option UInt64) : Except Status (Option (Option UInt16 × Option UInt64)) :=
  match number with
  | 0 => do
    let value ← orElse e.unsigned .invalidCommand
    let seconds ← fieldOnce f.1 (orElse (narrow16 value) .constraintError)
    pure (some (seconds, f.2))
  | 1 => do
    let breadcrumb ← fieldOnce f.2 (orElse e.unsigned .invalidCommand)
    pure (some (f.1, breadcrumb))
  | _ => pure none

/-- Source: `ArmFailSafeRequest::decode`. -/
def ArmFailSafeRequest.decode (fields : Option (List UInt8)) : Except Status ArmFailSafeRequest := do
  let (seconds, breadcrumb) ← walkFields onField (none, none) fields
  let breadcrumb ← Lib.okOr breadcrumb .invalidCommand
  pure ⟨seconds.getD 900, breadcrumb⟩

/-- Source: `SetRegulatoryConfigRequest`. -/
structure SetRegulatoryConfigRequest where
  newConfig : RegulatoryLocation
  countryCode : List UInt8
  breadcrumb : UInt64

/-- The variables of `SetRegulatoryConfigRequest::decode`. -/
structure SetRegulatoryConfigRequest.Fields where
  newConfig : Option RegulatoryLocation := none
  countryCode : Option (List UInt8) := none
  breadcrumb : Option UInt64 := none

/-- The octets of a text.
Source: `Element::utf8`. -/
def textOf (e : Element) : Except ErrorCode (List UInt8) :=
  match e.value with
  | .utf8 v => .ok (asBytes v)
  | _ => .error .tlvWrongType

/-- Source: `SetRegulatoryConfigRequest::decode`, the body of its loop. -/
def SetRegulatoryConfigRequest.onField (number : UInt8) (e : Element) (f : Fields) :
    Except Status (Option Fields) :=
  match number with
  | 0 => do
    let value ← orElse e.unsigned .invalidCommand
    let value ← orElse (narrow8 value) .constraintError
    let newConfig ← fieldOnce f.newConfig (Lib.okOr (RegulatoryLocation.fromValue value)
      .constraintError)
    pure (some { f with newConfig := newConfig })
  | 1 => do
    let countryCode ← fieldOnce f.countryCode (orElse (textOf e) .invalidCommand)
    pure (some { f with countryCode := countryCode })
  | 2 => do
    let breadcrumb ← fieldOnce f.breadcrumb (orElse e.unsigned .invalidCommand)
    pure (some { f with breadcrumb := breadcrumb })
  | _ => pure none

/-- Source: `SetRegulatoryConfigRequest::decode`. -/
def SetRegulatoryConfigRequest.decode (fields : Option (List UInt8)) :
    Except Status SetRegulatoryConfigRequest := do
  let f ← walkFields onField {} fields
  let newConfig ← Lib.okOr f.newConfig .invalidCommand
  let countryCode ← Lib.okOr f.countryCode .invalidCommand
  let breadcrumb ← Lib.okOr f.breadcrumb .invalidCommand
  pure ⟨newConfig, countryCode, breadcrumb⟩

/-! ## Commands -/

section commands

variable {N : ℕ} {K : Type}

/-- Source: `GeneralCommissioning::arm_fail_safe`; whether it came over CASE is read off the accessing
fabric, as its caller does. -/
def armFailSafe (s : CommissioningNode N K) (seconds : UInt16) (breadcrumb : UInt64)
    (ctx : InteractionContext) : (CommissioningError × Option Cleanup) × CommissioningNode N K :=
  let windowOpen := (s.window.openAt ctx.now).isSome
  let (result, failSafe) := s.failSafe.arm seconds breadcrumb ctx.fabricIndex ctx.now
    (windowOpen && ctx.fabricIndex.isSome)
  ((result.outcome.errorCode, result.cleanup), { s with failSafe := failSafe })

/-- Source: `GeneralCommissioning::set_regulatory_config`, with `Location::set`. -/
def setRegulatoryConfig (s : CommissioningNode N K) (request : SetRegulatoryConfigRequest) :
    CommissioningError × CommissioningNode N K :=
  if request.countryCode.length = 2 ∧ request.countryCode.all (· < 128) then
    let s := { s with location := request.countryCode }
    if s.locationCapability ≠ .indoorOutdoor ∧ request.newConfig ≠ s.locationCapability then
      (.valueOutsideRange, s)
    else
      (.ok,
        { s with
          regulatoryConfig := request.newConfig
          failSafe := { s.failSafe with breadcrumb := request.breadcrumb } })
  else (.valueOutsideRange, s)

/-- Source: `GeneralCommissioning::commissioning_complete`; whether it came over CASE is read off the
accessing fabric, as its caller does. -/
def commissioningComplete (s : CommissioningNode N K) (ctx : InteractionContext) :
    (CommissioningError × Option Cleanup) × CommissioningNode N K :=
  let (result, failSafe) := s.failSafe.complete ctx.fabricIndex.isSome ctx.fabricIndex ctx.now
  let s := { s with failSafe := failSafe }
  ((result.error, result.cleanup),
    if result.error = .ok then { s with window := s.window.close } else s)

/-- Source: `GeneralCommissioning::invoke`, `ARM_FAIL_SAFE`. -/
def runArmFailSafe (fields : Option (List UInt8)) (ctx : InteractionContext) :
    Commanding N K (Option Response) := do
  let request ← ofResult (ArmFailSafeRequest.decode fields)
  let s ← get
  let ((error, cleanup), s) := armFailSafe s request.expiryLengthSeconds request.breadcrumb ctx
  set { s with aftermath := (cleanup.map Aftermath.rollback).or s.aftermath }
  pure (some (errorResponse 0x01 error))

/-- Source: `GeneralCommissioning::invoke`, `SET_REGULATORY_CONFIG`. -/
def runSetRegulatoryConfig (fields : Option (List UInt8)) : Commanding N K (Option Response) := do
  let request ← ofResult (SetRegulatoryConfigRequest.decode fields)
  let s ← get
  let (error, s) := setRegulatoryConfig s request
  set s
  pure (some (errorResponse 0x03 error))

/-- Source: `GeneralCommissioning::invoke`, `COMMISSIONING_COMPLETE`. -/
def runCommissioningComplete (ctx : InteractionContext) : Commanding N K (Option Response) := do
  let s ← get
  let ((error, cleanup), s) := commissioningComplete s ctx
  let left := (cleanup.map Aftermath.rollback).or (if error = .ok then some .commissioned else none)
  set { s with aftermath := left.or s.aftermath }
  pure (some (errorResponse 0x05 error))

/-- Runs a command.
Source: `GeneralCommissioning::invoke`. -/
def run (command : CommandId) (fields : Option (List UInt8)) (ctx : InteractionContext) :
    Commanding N K (Option Response) :=
  if command = armFailSafeCommand then runArmFailSafe fields ctx
  else if command = setRegulatoryConfigCommand then runSetRegulatoryConfig fields
  else if command = commissioningCompleteCommand then runCommissioningComplete ctx
  else throw .unsupportedCommand

end commands

end GeneralCommissioning

end MatterKit.Clusters
