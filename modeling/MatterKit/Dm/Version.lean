import MatterKit.Lib.KeyedVec
import MatterKit.Im.Path

/-!
# Data versions

`dm/version.rs`: the table a node keeps of the data versions of its cluster instances. A version is
made up when it is first asked for and kept if the table has room; from then on it is moved only by
`touch`.
-/

namespace MatterKit.Dm

open Lib

/-- A source of data versions on a state of its own.
Source: `DataVersionSource`. -/
structure DataVersionSource (ν : Type) where
  version : EndpointId → ClusterId → ν → UInt32 × ν
  touch : EndpointId → ClusterId → ν → ν

namespace DataVersions

/-- Source: `Entry`. -/
structure Entry where
  endpoint : EndpointId
  cluster : ClusterId
  version : UInt32

/-- `|e| e.endpoint == endpoint && e.cluster == cluster`. -/
def Entry.isFor (endpoint : EndpointId) (cluster : ClusterId) (e : Entry) : Bool :=
  e.endpoint == endpoint && e.cluster == cluster

end DataVersions

/-- Source: `DataVersions`. -/
structure DataVersions (N : ℕ) where
  entries : BoundedVec DataVersions.Entry N
  seed : UInt32
  changed : BoundedVec (EndpointId × ClusterId) N

namespace DataVersions

variable {N : ℕ}

/-- Source: `DataVersions::new`. -/
def new (seed : UInt32) : DataVersions N := ⟨.empty, seed, .empty⟩

/-- Source: `DataVersions::version`, with `next_seed`. -/
def version (endpoint : EndpointId) (cluster : ClusterId) (v : DataVersions N) :
    UInt32 × DataVersions N :=
  match v.entries.toList.find? (Entry.isFor endpoint cluster) with
  | some e => (e.version, v)
  | none =>
    let seed := v.seed + 0x9E3779B9
    (seed, { v with
      seed := seed
      entries := (v.entries.push ⟨endpoint, cluster, seed⟩).getD v.entries })

/-- Source: `DataVersions::touch`. -/
def touch (endpoint : EndpointId) (cluster : ClusterId) (v : DataVersions N) : DataVersions N :=
  { v with
    changed :=
      if (endpoint, cluster) ∈ v.changed.toList then v.changed
      else (v.changed.push (endpoint, cluster)).getD v.changed
    entries := v.entries.update (Entry.isFor endpoint cluster)
      fun e => { e with version := e.version + 1 } }

/-- The recorded changes, and the table without them.
Source: `DataVersions::drain_changes`. -/
def drainChanges (v : DataVersions N) : BoundedVec (EndpointId × ClusterId) N × DataVersions N :=
  (v.changed, { v with changed := .empty })

/-- The table as a source.
Source: `impl DataVersionSource for DataVersions`. -/
def source (N : ℕ) : DataVersionSource (DataVersions N) := ⟨version, touch⟩

end DataVersions

end MatterKit.Dm
