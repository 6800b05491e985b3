import MatterKit.Im.Path

/-!
# Status codes and information blocks

The status codes of `im/status.rs`, the information blocks of `im/ib.rs` and the lazy array iterator of
`im/message.rs`. What a node sends is only written here (`encode`), and what a request carries only
read (`decode`); the other direction of each is the client's.

An iterator over an array that is decoded as it is walked is the list of what its `next` returns
(`arrayIter`): it ends at the end of the container, or with its first error.
-/

namespace MatterKit.Im

open Lib Machine Tlv Dm

/-! ## Status codes -/

/-- Source: `im/status.rs`, `Status`. -/
inductive Status
  | success
  | failure
  | invalidSubscription
  | unsupportedAccess
  | unsupportedEndpoint
  | invalidAction
  | unsupportedCommand
  | invalidCommand
  | unsupportedAttribute
  | constraintError
  | unsupportedWrite
  | resourceExhausted
  | notFound
  | unreportableAttribute
  | invalidDataType
  | unsupportedRead
  | dataVersionMismatch
  | timeout
  | unsupportedNode
  | busy
  | accessRestricted
  | unsupportedCluster
  | noUpstreamSubscription
  | needsTimedInteraction
  | unsupportedEvent
  | pathsExhausted
  | timedRequestMismatch
  | failsafeRequired
  | invalidInState
  | noCommandResponse
  | termsAndConditionsChanged
  | maintenanceRequired
  | dynamicConstraintError
  | alreadyExists
  | invalidTransportType
  | reserved (value : UInt8)
  deriving DecidableEq

/-- Source: `Status::value`. -/
def Status.value : Status → UInt8
  | success => 0x00
  | failure => 0x01
  | invalidSubscription => 0x7D
  | unsupportedAccess => 0x7E
  | unsupportedEndpoint => 0x7F
  | invalidAction => 0x80
  | unsupportedCommand => 0x81
  | invalidCommand => 0x85
  | unsupportedAttribute => 0x86
  | constraintError => 0x87
  | unsupportedWrite => 0x88
  | resourceExhausted => 0x89
  | notFound => 0x8B
  | unreportableAttribute => 0x8C
  | invalidDataType => 0x8D
  | unsupportedRead => 0x8F
  | dataVersionMismatch => 0x92
  | timeout => 0x94
  | unsupportedNode => 0x9B
  | busy => 0x9C
  | accessRestricted => 0x9D
  | unsupportedCluster => 0xC3
  | noUpstreamSubscription => 0xC5
  | needsTimedInteraction => 0xC6
  | unsupportedEvent => 0xC7
  | pathsExhausted => 0xC8
  | timedRequestMismatch => 0xC9
  | failsafeRequired => 0xCA
  | invalidInState => 0xCB
  | noCommandResponse => 0xCC
  | termsAndConditionsChanged => 0xCD
  | maintenanceRequired => 0xCE
  | dynamicConstraintError => 0xCF
  | alreadyExists => 0xD0
  | invalidTransportType => 0xD1
  | reserved value => value

/-- Source: `StatusIb`. -/
structure StatusIb where
  status : Status
  clusterStatus : Option UInt8
  deriving DecidableEq

namespace StatusIb

/-- Source: `StatusIb::new`, and `From<Status>`. -/
def new (status : Status) : StatusIb := ⟨status, none⟩

/-- Source: `StatusIb::encode`. -/
def encode (s : StatusIb) (tag : Tag) : Writing Unit := do
  start tag .struct
  unsigned (.context 0) s.status.value.toUInt64
  whenSome s.clusterStatus fun clusterStatus => unsigned (.context 1) clusterStatus.toUInt64
  endContainer

end StatusIb

/-! ## Attributes -/

/-- An attribute's value under its path; the value is one encoded element.
Source: `AttributeData`. -/
structure AttributeData where
  dataVersion : Option UInt32
  path : AttributePath
  data : List UInt8
  deriving DecidableEq

namespace AttributeData

/-- Source: `AttributeData::encode`. -/
def encode (d : AttributeData) (tag : Tag) : Writing Unit := do
  start tag .struct
  whenSome d.dataVersion fun version => unsigned (.context 0) version.toUInt64
  d.path.encode (.context 1)
  rawElement d.data
  endContainer

/-- The fields `decode` has met so far. -/
structure Fields where
  dataVersion : Option UInt32 := none
  path : Option AttributePath := none
  data : Option (List UInt8) := none

/-- Source: `AttributeData::decode`, `match element.tag.context()`. -/
def decodeField (start : ℕ) (e : Element) (f : Fields) : Reading Fields :=
  match e.tag.context? with
  | some 0 => do
    let v ← setField f.dataVersion (e.unsigned >>= narrow32)
    pure { f with dataVersion := v }
  | some 1 => do
    require (e.value.container? = some .list) .tlvWrongType
    let path ← AttributePath.decode
    let v ← setField f.path (.ok path)
    pure { f with path := v }
  | some 2 => do
    skipValue e
    let data ← sliceFrom start
    let v ← setField f.data (.ok data)
    pure { f with data := v }
  | _ => do
    skipValue e
    pure f

/-- Source: `AttributeData::decode`. -/
def decode : Reading AttributeData := do
  let f ← eachMember decodeField {}
  let path ← ofResult (okOr f.path .tlvNotFound)
  let data ← ofResult (okOr f.data .tlvNotFound)
  pure ⟨f.dataVersion, path, data⟩

end AttributeData

/-- Source: `AttributeStatus`. -/
structure AttributeStatus where
  path : AttributePath
  status : StatusIb
  deriving DecidableEq

/-- Source: `AttributeStatus::encode`. -/
def AttributeStatus.encode (s : AttributeStatus) (tag : Tag) : Writing Unit := do
  start tag .struct
  s.path.encode (.context 0)
  s.status.encode (.context 1)
  endContainer

/-- Source: `AttributeReport`. -/
inductive AttributeReport
  | status (status : AttributeStatus)
  | data (data : AttributeData)
  deriving DecidableEq

/-- Source: `AttributeReport::encode`. -/
def AttributeReport.encode (r : AttributeReport) : Writing Unit := do
  start .anonymous .struct
  match r with
  | .status s => s.encode (.context 0)
  | .data d => d.encode (.context 1)
  endContainer

/-! ## Filters -/

/-- Source: `DataVersionFilter`. -/
structure DataVersionFilter where
  path : ClusterPath
  dataVersion : UInt32

namespace DataVersionFilter

/-- The fields `decode` has met so far. -/
structure Fields where
  path : Option ClusterPath := none
  dataVersion : Option UInt32 := none

/-- Source: `DataVersionFilter::decode`, `match element.tag.context()`. -/
def decodeField (_ : ℕ) (e : Element) (f : Fields) : Reading Fields :=
  match e.tag.context? with
  | some 0 => do
    require (e.value.container? = some .list) .tlvWrongType
    let path ← ClusterPath.decode
    let v ← setField f.path (.ok path)
    pure { f with path := v }
  | some 1 => do
    let v ← setField f.dataVersion (e.unsigned >>= narrow32)
    pure { f with dataVersion := v }
  | _ => do
    skipValue e
    pure f

/-- Source: `DataVersionFilter::decode`. -/
def decode : Reading DataVersionFilter := do
  let f ← eachMember decodeField {}
  let path ← ofResult (okOr f.path .tlvNotFound)
  let dataVersion ← ofResult (okOr f.dataVersion .tlvNotFound)
  pure ⟨path, dataVersion⟩

end DataVersionFilter

/-- Source: `EventFilter`. -/
structure EventFilter where
  node : Option UInt64
  eventMin : UInt64

namespace EventFilter

/-- The fields `decode` has met so far. -/
structure Fields where
  node : Option UInt64 := none
  eventMin : Option UInt64 := none

/-- Source: `EventFilter::decode`, `match element.tag.context()`. -/
def decodeField (_ : ℕ) (e : Element) (f : Fields) : Reading Fields :=
  match e.tag.context? with
  | some 0 => do
    let v ← setField f.node e.unsigned
    pure { f with node := v }
  | some 1 => do
    let v ← setField f.eventMin e.unsigned
    pure { f with eventMin := v }
  | _ => do
    skipValue e
    pure f

/-- Source: `EventFilter::decode`. -/
def decode : Reading EventFilter := do
  let f ← eachMember decodeField {}
  let eventMin ← ofResult (okOr f.eventMin .tlvNotFound)
  pure ⟨f.node, eventMin⟩

end EventFilter

/-! ## Commands -/

/-- Source: `CommandData`. -/
structure CommandData where
  path : CommandPath
  fields : Option (List UInt8)
  commandRef : Option UInt16

namespace CommandData

/-- Source: `CommandData::decode`, `match element.tag.context()`. -/
def decodeField (start : ℕ) (e : Element)
    (f : Option CommandPath × Option (List UInt8) × Option UInt16) :
    Reading (Option CommandPath × Option (List UInt8) × Option UInt16) :=
  match e.tag.context? with
  | some 0 => do
    require (e.value.container? = some .list) .tlvWrongType
    let path ← CommandPath.decode
    let v ← setField f.1 (.ok path)
    pure (v, f.2)
  | some 1 => do
    skipValue e
    let fields ← sliceFrom start
    let v ← setField f.2.1 (.ok fields)
    pure (f.1, v, f.2.2)
  | some 2 => do
    let v ← setField f.2.2 (e.unsigned >>= narrow16)
    pure (f.1, f.2.1, v)
  | _ => do
    skipValue e
    pure f

/-- Source: `CommandData::decode`. -/
def decode : Reading CommandData := do
  let f ← eachMember decodeField (none, none, none)
  let path ← ofResult (okOr f.1 .tlvNotFound)
  pure ⟨path, f.2.1, f.2.2⟩

end CommandData

/-- Source: `CommandStatus`. -/
structure CommandStatus where
  path : CommandPath
  status : StatusIb
  commandRef : Option UInt16

/-- Source: `CommandStatus::encode`. -/
def CommandStatus.encode (s : CommandStatus) (tag : Tag) : Writing Unit := do
  start tag .struct
  s.path.encode (.context 0)
  s.status.encode (.context 1)
  whenSome s.commandRef fun commandRef => unsigned (.context 2) commandRef.toUInt64
  endContainer

/-- Source: `InvokeResponse`. -/
inductive InvokeResponse
  | command (command : CommandData)
  | status (status : CommandStatus)

/-- Source: `InvokeResponse::encode`. -/
def InvokeResponse.encode (r : InvokeResponse) : Writing Unit := do
  start .anonymous .struct
  match r with
  | .command c =>
    start (.context 0) .struct
    c.path.encode (.context 0)
    whenSome c.fields fun fields => rawElement fields
    whenSome c.commandRef fun commandRef => unsigned (.context 2) commandRef.toUInt64
    endContainer
  | .status s => s.encode (.context 1)
  endContainer

/-! ## Events -/

/-- Source: `EventTimestamp`. -/
inductive EventTimestamp
  | epoch (value : UInt64)
  | system (value : UInt64)
  | deltaEpoch (value : UInt64)
  | deltaSystem (value : UInt64)
  deriving DecidableEq

namespace EventTimestamp

/-- Source: `EventTimestamp::tag`. -/
def tag : EventTimestamp → UInt8
  | epoch _ => 3
  | system _ => 4
  | deltaEpoch _ => 5
  | deltaSystem _ => 6

/-- Source: `EventTimestamp::value`. -/
def value : EventTimestamp → UInt64
  | epoch v | system v | deltaEpoch v | deltaSystem v => v

end EventTimestamp

/-- Source: `EventData`. -/
structure EventData where
  path : EventPath
  number : UInt64
  priority : UInt8
  timestamp : EventTimestamp
  data : List UInt8
  deriving DecidableEq

/-- Source: `EventData::encode`. -/
def EventData.encode (d : EventData) (tag : Tag) : Writing Unit := do
  start tag .struct
  d.path.encode (.context 0)
  unsigned (.context 1) d.number
  unsigned (.context 2) d.priority.toUInt64
  unsigned (.context d.timestamp.tag) d.timestamp.value
  rawElement d.data
  endContainer

/-- Source: `EventStatus`. -/
structure EventStatus where
  path : EventPath
  status : StatusIb
  deriving DecidableEq

/-- Source: `EventStatus::encode`. -/
def EventStatus.encode (s : EventStatus) (tag : Tag) : Writing Unit := do
  start tag .struct
  s.path.encode (.context 0)
  s.status.encode (.context 1)
  endContainer

/-- Source: `EventReport`. -/
inductive EventReport
  | status (status : EventStatus)
  | data (data : EventData)
  deriving DecidableEq

/-- Source: `EventReport::encode`. -/
def EventReport.encode (r : EventReport) : Writing Unit := do
  start .anonymous .struct
  match r with
  | .status s => s.encode (.context 0)
  | .data d => d.encode (.context 1)
  endContainer

/-! ## Arrays decoded as they are walked -/

/-- What one call of the iterator comes to: the end, or a member.
Source: `ArrayIter::next`. -/
def arrayNext {α : Type} (member : ContainerKind) (decode : Reading α) : Reading (Option α) := do
  match ← nextElement with
  | none => pure none
  | some e =>
    if e.value = .endOfContainer then pure none
    else do
      require (e.value.container? = some member ∧ e.tag.isAnonymous = true) .tlvWrongType
      let out ← decode
      pure (some out)

/-- The results of the calls of the iterator from where a reader stands, at most as many as are
given.
Source: `ArrayIter::next`, with the calls that follow it. -/
def arrayItems {α : Type} (member : ContainerKind) (decode : Reading α) :
    ℕ → TlvReader → List (Except ErrorCode α)
  | 0, _ => []
  | calls + 1, r =>
    match exec (arrayNext member decode) r with
    | (.error e, _) => [.error e]
    | (.ok none, _) => []
    | (.ok (some a), r') => .ok a :: arrayItems member decode calls r'

/-- The members of an array that was captured inside a structure; every call of the iterator but the
last reads an element, so there are no more of them than octets.
Source: `ArrayIter::new` and the iteration over it. -/
def arrayIter {α : Type} (bytes : List UInt8) (member : ContainerKind) (decode : Reading α) :
    Except ErrorCode (List (Except ErrorCode α)) :=
  match exec nextElement (TlvReader.newIn bytes .struct) with
  | (.error e, _) => .error e
  | (.ok none, _) => .error .tlvTruncated
  | (.ok (some head), r) => do
    ensure (head.value.container? = some .array) .tlvWrongType
    pure (arrayItems member decode (bytes.length + 1) r)

end MatterKit.Im
