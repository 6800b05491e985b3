import MatterKit.Dm.Meta

/-!
# Paths

The four kinds of path of `im/path.rs`, which a request names things with and a report answers
under: attributes, clusters, events and commands. Each is written as a list of the fields it has, and
read back from one, a field at most once.
-/

namespace MatterKit.Im

open Lib Machine Tlv Dm

/-! ## Fields of a decoder -/

/-- Source: `tlv/mod.rs`, `set_once`. -/
def setOnce {α : Type} (slot : Option α) (value : α) : Except ErrorCode (Option α) :=
  if slot.isSome then .error .tlvDuplicateTag else .ok (some value)

/-- Fills a field from an element: `set_once(&mut slot, value?)?`. -/
def setField {α : Type} (slot : Option α) (value : Except ErrorCode α) : Reading (Option α) :=
  ofResult (value >>= setOnce slot)

/-- Source: `im/ib.rs`, `narrow8`. -/
def narrow8 (value : UInt64) : Except ErrorCode UInt8 := do
  ensure (value.toNat < 2 ^ 8) .tlvOutOfRange
  pure value.toUInt8

/-- Source: `narrow`, and `im/ib.rs` and `im/message.rs`, `narrow16`. -/
def narrow16 (value : UInt64) : Except ErrorCode UInt16 := do
  ensure (value.toNat < 2 ^ 16) .tlvOutOfRange
  pure value.toUInt16

/-- Source: `im/ib.rs` and `im/message.rs`, `narrow32`. -/
def narrow32 (value : UInt64) : Except ErrorCode UInt32 := do
  ensure (value.toNat < 2 ^ 32) .tlvOutOfRange
  pure value.toUInt32

/-- Writes a field if it is there: `if let Some(v) = field { .. }`. -/
def whenSome {α : Type} (field : Option α) (write : α → Writing Unit) : Writing Unit :=
  match field with
  | some v => write v
  | none => pure ()

/-- Writes if a flag is set: `if flag { .. }`. -/
def whenTrue (flag : Bool) (write : Writing Unit) : Writing Unit :=
  if flag then write else pure ()

/-! ## Attribute paths -/

/-- Source: `ListIndex`. -/
inductive ListIndex
  | at (index : UInt16)
  | append
  deriving DecidableEq

/-- A path to attributes; `attributeId` is its field `attribute`, and the wildcard flags are their
bits.
Source: `AttributePath`. -/
structure AttributePath where
  enableTagCompression : Bool := false
  node : Option UInt64 := none
  endpoint : Option EndpointId := none
  cluster : Option ClusterId := none
  attributeId : Option AttributeId := none
  listIndex : Option ListIndex := none
  wildcardPathFlags : Option UInt32 := none
  wildcardFilterConfigurationVersion : Option UInt32 := none
  deriving DecidableEq

namespace AttributePath

/-- Source: `AttributePath::attribute`. -/
def ofIds (endpoint : EndpointId) (cluster : ClusterId) (attributeId : AttributeId) :
    AttributePath :=
  { endpoint := some endpoint, cluster := some cluster, attributeId := some attributeId }

/-- Source: `AttributePath::wildcard`. -/
def wildcard : AttributePath := {}

/-- Source: `AttributePath::concrete`. -/
def concrete (p : AttributePath) : Option (EndpointId × ClusterId × AttributeId) :=
  match p.endpoint, p.cluster, p.attributeId with
  | some e, some c, some a => some (e, c, a)
  | _, _, _ => none

/-- Source: `AttributePath::encode`. -/
def encode (p : AttributePath) (tag : Tag) : Writing Unit := do
  start tag .list
  whenTrue p.enableTagCompression (Tlv.bool (.context 0) true)
  whenSome p.node fun node => unsigned (.context 1) node
  whenSome p.endpoint fun endpoint => unsigned (.context 2) endpoint.toUInt64
  whenSome p.cluster fun cluster => unsigned (.context 3) cluster.toUInt64
  whenSome p.attributeId fun id => unsigned (.context 4) id.toUInt64
  whenSome p.listIndex fun index =>
    match index with
    | .at index => unsigned (.context 5) index.toUInt64
    | .append => null (.context 5)
  whenSome p.wildcardPathFlags fun flags => unsigned (.context 6) flags.toUInt64
  whenSome p.wildcardFilterConfigurationVersion fun version =>
    unsigned (.context 7) version.toUInt64
  endContainer

/-- The fields `decode` has met so far. -/
structure Fields where
  enableTagCompression : Option Bool := none
  path : AttributePath := {}

/-- What `decode` makes of one member.
Source: `AttributePath::decode`, `match element.tag.context()`. -/
def decodeField (_ : ℕ) (e : Element) (f : Fields) : Reading Fields :=
  match e.tag.context? with
  | some 0 => do
    let v ← setField f.enableTagCompression e.bool
    pure { f with enableTagCompression := v }
  | some 1 => do
    let v ← setField f.path.node e.unsigned
    pure { f with path := { f.path with node := v } }
  | some 2 => do
    let v ← setField f.path.endpoint (e.unsigned >>= narrow16)
    pure { f with path := { f.path with endpoint := v } }
  | some 3 => do
    let v ← setField f.path.cluster (e.unsigned >>= narrow32)
    pure { f with path := { f.path with cluster := v } }
  | some 4 => do
    let v ← setField f.path.attributeId (e.unsigned >>= narrow32)
    pure { f with path := { f.path with attributeId := v } }
  | some 5 => do
    let index : Except ErrorCode ListIndex := match e.value with
      | .null => .ok .append
      | .unsigned v => ListIndex.at <$> narrow16 v
      | _ => .error .tlvWrongType
    let v ← setField f.path.listIndex index
    pure { f with path := { f.path with listIndex := v } }
  | some 6 => do
    let v ← setField f.path.wildcardPathFlags (e.unsigned >>= narrow32)
    pure { f with path := { f.path with wildcardPathFlags := v } }
  | some 7 => do
    let v ← setField f.path.wildcardFilterConfigurationVersion (e.unsigned >>= narrow32)
    pure { f with path := { f.path with wildcardFilterConfigurationVersion := v } }
  | _ => do
    skipValue e
    pure f

/-- Source: `AttributePath::decode`. -/
def decode : Reading AttributePath := do
  let f ← eachMember decodeField {}
  pure { f.path with enableTagCompression := f.enableTagCompression.getD false }

end AttributePath

/-! ## Cluster paths -/

/-- Source: `ClusterPath`. -/
structure ClusterPath where
  node : Option UInt64 := none
  endpoint : Option EndpointId := none
  cluster : Option ClusterId := none

namespace ClusterPath

/-- Source: `ClusterPath::decode`, `match element.tag.context()`. -/
def decodeField (_ : ℕ) (e : Element) (p : ClusterPath) : Reading ClusterPath :=
  match e.tag.context? with
  | some 0 => do
    let v ← setField p.node e.unsigned
    pure { p with node := v }
  | some 1 => do
    let v ← setField p.endpoint (e.unsigned >>= narrow16)
    pure { p with endpoint := v }
  | some 2 => do
    let v ← setField p.cluster (e.unsigned >>= narrow32)
    pure { p with cluster := v }
  | _ => do
    skipValue e
    pure p

/-- Source: `ClusterPath::decode`. -/
def decode : Reading ClusterPath := eachMember decodeField {}

end ClusterPath

/-! ## Event paths -/

/-- Source: `EventPath`. -/
structure EventPath where
  node : Option UInt64 := none
  endpoint : Option EndpointId := none
  cluster : Option ClusterId := none
  event : Option EventId := none
  isUrgent : Option Bool := none
  deriving DecidableEq

namespace EventPath

/-- Source: `EventPath::event`. -/
def ofIds (endpoint : EndpointId) (cluster : ClusterId) (event : EventId) : EventPath :=
  { endpoint := some endpoint, cluster := some cluster, event := some event }

/-- The three identifiers, if all are there.
Source: `Server::serve_event_path`, `path.endpoint.zip(path.cluster).zip(path.event)`. -/
def concrete (p : EventPath) : Option (EndpointId × ClusterId × EventId) :=
  match p.endpoint, p.cluster, p.event with
  | some e, some c, some v => some (e, c, v)
  | _, _, _ => none

/-- Source: `EventPath::encode`. -/
def encode (p : EventPath) (tag : Tag) : Writing Unit := do
  start tag .list
  whenSome p.node fun node => unsigned (.context 0) node
  whenSome p.endpoint fun endpoint => unsigned (.context 1) endpoint.toUInt64
  whenSome p.cluster fun cluster => unsigned (.context 2) cluster.toUInt64
  whenSome p.event fun event => unsigned (.context 3) event.toUInt64
  whenSome p.isUrgent fun urgent => Tlv.bool (.context 4) urgent
  endContainer

/-- Source: `EventPath::decode`, `match element.tag.context()`. -/
def decodeField (_ : ℕ) (e : Element) (p : EventPath) : Reading EventPath :=
  match e.tag.context? with
  | some 0 => do
    let v ← setField p.node e.unsigned
    pure { p with node := v }
  | some 1 => do
    let v ← setField p.endpoint (e.unsigned >>= narrow16)
    pure { p with endpoint := v }
  | some 2 => do
    let v ← setField p.cluster (e.unsigned >>= narrow32)
    pure { p with cluster := v }
  | some 3 => do
    let v ← setField p.event (e.unsigned >>= narrow32)
    pure { p with event := v }
  | some 4 => do
    let v ← setField p.isUrgent e.bool
    pure { p with isUrgent := v }
  | _ => do
    skipValue e
    pure p

/-- Source: `EventPath::decode`. -/
def decode : Reading EventPath := eachMember decodeField {}

end EventPath

/-! ## Command paths -/

/-- Source: `CommandPath`. -/
structure CommandPath where
  endpoint : Option EndpointId := none
  cluster : Option ClusterId := none
  command : Option CommandId := none

namespace CommandPath

/-- Source: `CommandPath::command`. -/
def ofIds (endpoint : EndpointId) (cluster : ClusterId) (command : CommandId) : CommandPath :=
  ⟨some endpoint, some cluster, some command⟩

/-- Source: `CommandPath::concrete`. -/
def concrete (p : CommandPath) : Option (EndpointId × ClusterId × CommandId) :=
  match p.endpoint, p.cluster, p.command with
  | some e, some c, some cmd => some (e, c, cmd)
  | _, _, _ => none

/-- Source: `CommandPath::encode`. -/
def encode (p : CommandPath) (tag : Tag) : Writing Unit := do
  start tag .list
  whenSome p.endpoint fun endpoint => unsigned (.context 0) endpoint.toUInt64
  whenSome p.cluster fun cluster => unsigned (.context 1) cluster.toUInt64
  whenSome p.command fun command => unsigned (.context 2) command.toUInt64
  endContainer

/-- Source: `CommandPath::decode`, `match element.tag.context()`. -/
def decodeField (_ : ℕ) (e : Element) (p : CommandPath) : Reading CommandPath :=
  match e.tag.context? with
  | some 0 => do
    let v ← setField p.endpoint (e.unsigned >>= narrow16)
    pure { p with endpoint := v }
  | some 1 => do
    let v ← setField p.cluster (e.unsigned >>= narrow32)
    pure { p with cluster := v }
  | some 2 => do
    let v ← setField p.command (e.unsigned >>= narrow32)
    pure { p with command := v }
  | _ => do
    skipValue e
    pure p

/-- Source: `CommandPath::decode`. -/
def decode : Reading CommandPath := eachMember decodeField {}

end CommandPath

end MatterKit.Im
