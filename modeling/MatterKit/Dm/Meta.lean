import MatterKit.Msg.Header
import MatterKit.Tlv.Raw

/-!
# What a cluster is

The descriptors a node is built from: `dm/access.rs` (privileges and access), `dm/meta.rs` (attributes,
commands, events and clusters) and `dm/global.rs` (the global attributes every cluster instance serves,
which are not in its list).

Descriptors are found by binary search, that of the standard library (`binarySearchByKey`).
-/

namespace MatterKit.Dm

open Lib Machine Tlv

/-- Source: `im/path.rs`, `EndpointId`. -/
abbrev EndpointId := UInt16

/-- Source: `im/path.rs`, `ClusterId`. -/
abbrev ClusterId := UInt32

/-- Source: `im/path.rs`, `AttributeId`. -/
abbrev AttributeId := UInt32

/-- Source: `im/path.rs`, `EventId`. -/
abbrev EventId := UInt32

/-- Source: `im/path.rs`, `CommandId`. -/
abbrev CommandId := UInt32

/-! ## Searching a slice -/

/-- The loop of `binary_search_by`, with the rounds the size allows; `base` is where the part still
searched starts. -/
def binarySearchLoop {α : Type} (greater : α → Bool) (l : List α) : ℕ → ℕ → ℕ → ℕ
  | 0, base, _ => base
  | rounds + 1, base, size =>
    if 1 < size then
      let half := size / 2
      let mid := base + half
      let base' := if (l[mid]?.map greater).getD false then base else mid
      binarySearchLoop greater l rounds base' (size - half)
    else base

/-- The index of an element with this key, if the search ends at one.
Source: Rust `slice::binary_search_by_key`, `ok()` of it. -/
def binarySearchByKey {α : Type} (key : α → UInt32) (k : UInt32) (l : List α) : Option ℕ :=
  let base := binarySearchLoop (fun a => decide (k < key a)) l l.length 0 l.length
  match l[base]? with
  | some a => if key a = k then some base else none
  | none => none

/-- The element the search finds.
Source: `binary_search_by_key(..).ok().and_then(|index| self.attributes.get(index))` and the like. -/
def searchByKey {α : Type} (key : α → UInt32) (k : UInt32) (l : List α) : Option α :=
  (binarySearchByKey key k l).bind fun index => l[index]?

lemma searchByKey_spec {α : Type} {key : α → UInt32} {k : UInt32} {l : List α} {a : α}
    (h : searchByKey key k l = some a) : a ∈ l ∧ key a = k := by
  unfold searchByKey binarySearchByKey at h
  simp only at h
  generalize binarySearchLoop (fun a => decide (k < key a)) l l.length 0 l.length = base at h
  rcases hbase : l[base]? with _ | b
  · simp [hbase] at h
  · by_cases hkey : key b = k
    · simp only [hbase, hkey, if_true, Option.bind_some, Option.some.injEq] at h
      subst h
      exact ⟨List.mem_of_getElem? hbase, hkey⟩
    · simp [hbase, hkey] at h

/-! ## Access -/

/-- Source: `dm/access.rs`, `Privilege`. -/
inductive Privilege
  | proxyView
  | view
  | operate
  | manage
  | administer
  deriving DecidableEq

namespace Privilege

/-- Source: Rust `privilege as u8`. -/
def toUInt8 : Privilege → UInt8
  | proxyView => 0
  | view => 1
  | operate => 2
  | manage => 3
  | administer => 4

/-- Whether holding a privilege grants another; `proxyView` is outside the chain.
Source: `Privilege::grants`. -/
def grants : Privilege → Privilege → Bool
  | proxyView, proxyView => true
  | proxyView, _ => false
  | _, proxyView => false
  | p, required => required.toUInt8 ≤ p.toUInt8

end Privilege

/-- A set of access qualities, by its bits.
Source: `dm/access.rs`, `AccessQualities`. -/
structure AccessQualities where
  bits : UInt8
  deriving DecidableEq

namespace AccessQualities

/-- Source: `bitflags`, `contains`. -/
def contains (q other : AccessQualities) : Bool := q.bits &&& other.bits == other.bits

/-- Source: `AccessQualities::FABRIC_SCOPED`. -/
def fabricScoped : AccessQualities := ⟨1⟩

/-- Source: `AccessQualities::TIMED`. -/
def timed : AccessQualities := ⟨4⟩

/-- Source: `AccessQualities::LARGE`. -/
def large : AccessQualities := ⟨8⟩

end AccessQualities

/-- Source: `dm/access.rs`, `Access`. -/
structure Access where
  read : Option Privilege
  write : Option Privilege
  invoke : Option Privilege
  qualities : AccessQualities
  deriving DecidableEq

namespace Access

/-- Source: `Access::read_only`. -/
def readOnly (privilege : Privilege) : Access := ⟨some privilege, none, none, ⟨0⟩⟩

/-- Source: `Access::read_write`. -/
def readWrite : Access := ⟨some .view, some .operate, none, ⟨0⟩⟩

/-- Source: `Access::invoke`. -/
def invokeAt (privilege : Privilege) : Access := ⟨none, none, some privilege, ⟨0⟩⟩

/-- Source: `Access::needs_timed`. -/
def needsTimed (a : Access) : Bool := a.qualities.contains .timed

/-- Source: `Access::is_fabric_scoped`. -/
def isFabricScoped (a : Access) : Bool := a.qualities.contains .fabricScoped

/-- Source: `Access::needs_large_messages`. -/
def needsLargeMessages (a : Access) : Bool := a.qualities.contains .large

end Access

/-! ## Descriptors -/

/-- A set of attribute qualities, by its bits.
Source: `dm/meta.rs`, `AttributeQualities`. -/
structure AttributeQualities where
  bits : UInt8
  deriving DecidableEq

namespace AttributeQualities

/-- Source: `bitflags`, `contains`. -/
def contains (q other : AttributeQualities) : Bool := q.bits &&& other.bits == other.bits

/-- Source: `AttributeQualities::FIXED`. -/
def fixed : AttributeQualities := ⟨4⟩

/-- Source: `AttributeQualities::ATOMIC`. -/
def atomic : AttributeQualities := ⟨8⟩

end AttributeQualities

/-- An attribute. What its reports are to follow is not read by anything here.
Source: `dm/meta.rs`, `AttributeDescriptor`. -/
structure AttributeDescriptor where
  id : AttributeId
  access : Access
  qualities : AttributeQualities
  deriving DecidableEq

/-- Source: `AttributeDescriptor::read_only`. -/
def AttributeDescriptor.readOnly (id : AttributeId) : AttributeDescriptor :=
  ⟨id, .readOnly .view, ⟨0⟩⟩

/-- Source: `AttributeDescriptor::read_write`. -/
def AttributeDescriptor.readWrite (id : AttributeId) : AttributeDescriptor :=
  ⟨id, .readWrite, ⟨0⟩⟩

/-- Source: `dm/meta.rs`, `CommandDescriptor`. -/
structure CommandDescriptor where
  id : CommandId
  access : Access
  response : Option CommandId
  deriving DecidableEq

/-- Source: `CommandDescriptor::new`. -/
def CommandDescriptor.new (id : CommandId) : CommandDescriptor := ⟨id, .invokeAt .operate, none⟩

/-- An event. Its default priority is not read by anything here: a record has its own.
Source: `dm/meta.rs`, `EventDescriptor`. -/
structure EventDescriptor where
  id : EventId
  access : Access
  deriving DecidableEq

/-- Source: `dm/meta.rs`, `ClusterDescriptor`. -/
structure ClusterDescriptor where
  id : ClusterId
  revision : UInt16
  featureMap : UInt32
  attributes : List AttributeDescriptor
  acceptedCommands : List CommandDescriptor
  generatedCommands : List CommandId
  events : List EventDescriptor
  deriving DecidableEq

/-! ## Global attributes -/

namespace Global

/-- Source: `CLUSTER_REVISION`. -/
def clusterRevision : AttributeId := 0xFFFD

/-- Source: `FEATURE_MAP`. -/
def featureMap : AttributeId := 0xFFFC

/-- Source: `ATTRIBUTE_LIST`. -/
def attributeList : AttributeId := 0xFFFB

/-- Source: `EVENT_LIST`. -/
def eventList : AttributeId := 0xFFFA

/-- Source: `ACCEPTED_COMMAND_LIST`. -/
def acceptedCommandList : AttributeId := 0xFFF9

/-- Source: `GENERATED_COMMAND_LIST`. -/
def generatedCommandList : AttributeId := 0xFFF8

/-- Source: `ATTRIBUTE_IDS`. -/
def attributeIds : List AttributeId :=
  [generatedCommandList, acceptedCommandList, attributeList, featureMap, clusterRevision]

/-- Source: `is_global`. -/
def isGlobal (id : AttributeId) : Bool :=
  id == generatedCommandList || id == acceptedCommandList || id == eventList ||
    id == attributeList || id == featureMap || id == clusterRevision

/-- Source: `descriptor`. -/
def descriptor (id : AttributeId) : Option AttributeDescriptor :=
  if !isGlobal id || id == eventList then none
  else some ⟨id, .readOnly .view, .fixed⟩

end Global

namespace ClusterDescriptor

/-- A global attribute, or one of the cluster's own.
Source: `ClusterDescriptor::attribute`. -/
def attribute? (c : ClusterDescriptor) (id : AttributeId) : Option AttributeDescriptor :=
  match Global.descriptor id with
  | some global => some global
  | none => searchByKey AttributeDescriptor.id id c.attributes

/-- Source: `ClusterDescriptor::accepted_command`. -/
def acceptedCommand (c : ClusterDescriptor) (id : CommandId) : Option CommandDescriptor :=
  searchByKey CommandDescriptor.id id c.acceptedCommands

/-- The cluster's own attributes, then the global ones.
Source: `ClusterDescriptor::attribute_ids`. -/
def attributeIds (c : ClusterDescriptor) : List AttributeId :=
  c.attributes.map AttributeDescriptor.id ++ Global.attributeIds

/-- Source: `ClusterDescriptor::generated_command_ids`. -/
def generatedCommandIds (c : ClusterDescriptor) : List CommandId :=
  c.acceptedCommands.filterMap CommandDescriptor.response ++ c.generatedCommands

end ClusterDescriptor

/-- An array of numbers.
Source: `encode`, the three list arms. -/
def encodeIds (tag : Tag) (ids : List UInt32) : Writing Unit := do
  start tag .array
  ids.forM fun id => unsigned .anonymous id.toUInt64
  endContainer

/-- Writes a global attribute, and says whether it was one.
Source: `encode`. -/
def Global.encode (cluster : ClusterDescriptor) (id : AttributeId) (tag : Tag) : Writing Bool := do
  if id = clusterRevision then
    unsigned tag cluster.revision.toUInt64
    pure true
  else if id = featureMap then
    unsigned tag cluster.featureMap.toUInt64
    pure true
  else if id = attributeList then
    encodeIds tag cluster.attributeIds
    pure true
  else if id = acceptedCommandList then
    encodeIds tag (cluster.acceptedCommands.map CommandDescriptor.id)
    pure true
  else if id = generatedCommandList then
    encodeIds tag cluster.generatedCommandIds
    pure true
  else pure false

end MatterKit.Dm
