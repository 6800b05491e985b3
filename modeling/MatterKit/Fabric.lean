import MatterKit.Lib.KeyedVec
import MatterKit.Lib.LittleEndian
import MatterKit.Lib.Result
import MatterKit.Lib.Runs
import MatterKit.Msg.Security

/-!
# Fabrics

`Fabric` and `FabricTable` of `fabric.rs`. A fabric index is local to the node and everything that is
scoped to a fabric is keyed by it, so an index that has been given up must not come back soon:
`allocate_index` takes the next free one after the last it handed out, round the cycle of `1..=254`.

Two allocations of one index are at least a whole round apart (`index_recycled_last`).
-/

namespace MatterKit

open Lib

/-! ## Names of a fabric -/

/-- Source: `msg/ids.rs`, `FabricId`. -/
structure FabricId where
  val : UInt64
  deriving DecidableEq

/-- Source: `msg/ids.rs`, `FabricIndex::is_some`. -/
def FabricIndex.isSome (i : FabricIndex) : Bool := i.val != 0

/-- Source: `msg/ids.rs`, `VendorId`. -/
structure VendorId where
  val : UInt16
  deriving DecidableEq

/-- An uncompressed point: 65 octets.
Source: `crypto/mod.rs`, `PublicKey`. -/
structure PublicKey where
  bytes : Vector UInt8 65
  deriving DecidableEq

/-- Names a private key in the key store.
Source: `crypto/mod.rs`, `KeyHandle`. -/
structure KeyHandle where
  val : UInt32
  deriving DecidableEq

/-- Source: `crypto/mod.rs`, `KeyPurpose`. -/
inductive KeyPurpose
  | deviceAttestation
  | operational
  | ephemeral

/-- Custody of private keys, in a store of type `K`. Nothing returns a private key.
Source: `crypto/mod.rs`, `KeyStore`. -/
structure KeyStore (K : Type) where
  generate : K → KeyPurpose → (random : List UInt8) → Except ErrorCode (KeyHandle × PublicKey) × K
  publicKey : K → KeyHandle → Except ErrorCode PublicKey
  sign : K → KeyHandle → (message : List UInt8) → Except ErrorCode (List UInt8)
  ecdh : K → KeyHandle → (peer : PublicKey) → Except ErrorCode (List UInt8)
  remove : K → KeyHandle → Except ErrorCode Unit × K

/-- Source: `CompressedFabricId`. -/
structure CompressedFabricId where
  val : UInt64
  deriving DecidableEq

/-- The primitives a fabric's derived values are computed with.
Source: `crypto/mod.rs`, `kdf` with an output of so many octets, and `hmac`. -/
structure KeyDerivation where
  kdf : (inputKey salt info : List UInt8) → (length : ℕ) → Except ErrorCode (List UInt8)
  hmac : (key message : List UInt8) → Except ErrorCode (List UInt8)

/-- The octets of a 64-bit number, most significant first.
Source: Rust `u64::to_be_bytes`. -/
def beBytes64 (v : UInt64) : List UInt8 := (leBytes 8 v.toNat).reverse

/-- The 64-bit number of its octets, most significant first.
Source: Rust `u64::from_be_bytes`. -/
def ofBeBytes64 (bytes : List UInt8) : UInt64 := UInt64.ofNat (ofLe bytes.reverse)

/-- A key of its first sixteen octets.
Source: `SymmetricKey::new` and `SymmetricKey::from_slice`. -/
def SymmetricKey.ofList (bytes : List UInt8) : SymmetricKey := ⟨Vector.ofFn fun i => bytes.getD i 0⟩

namespace KeyDerivation

variable (kd : KeyDerivation)

/-- The octets of `"CompressedFabric"`.
Source: `COMPRESSED_FABRIC_INFO`. -/
def compressedFabricInfo : List UInt8 :=
  [0x43, 0x6f, 0x6d, 0x70, 0x72, 0x65, 0x73, 0x73, 0x65, 0x64, 0x46, 0x61, 0x62, 0x72, 0x69, 0x63]

/-- The octets of `"GroupKey v1.0"`.
Source: `GROUP_KEY_INFO`. -/
def groupKeyInfo : List UInt8 :=
  [0x47, 0x72, 0x6f, 0x75, 0x70, 0x4b, 0x65, 0x79, 0x20, 0x76, 0x31, 0x2e, 0x30]

/-- Source: `compressed_fabric_id`. -/
def compressedFabricId (rootPublicKey : PublicKey) (fabricId : FabricId) :
    Except ErrorCode CompressedFabricId := do
  let out ← kd.kdf (rootPublicKey.bytes.toList.drop 1) (beBytes64 fabricId.val) compressedFabricInfo 8
  pure ⟨ofBeBytes64 out⟩

/-- Source: `crypto/rustcrypto.rs`, `kdf_key`. -/
def kdfKey (inputKey salt info : List UInt8) : Except ErrorCode SymmetricKey := do
  let out ← kd.kdf inputKey salt info 16
  pure (.ofList out)

/-- Source: `operational_group_key`. -/
def operationalGroupKey (epochKey : SymmetricKey) (compressed : CompressedFabricId) :
    Except ErrorCode SymmetricKey :=
  kd.kdfKey epochKey.bytes.toList (beBytes64 compressed.val) groupKeyInfo

/-- Source: `destination_identifier`. -/
def destinationIdentifier (ipk : SymmetricKey) (initiatorRandom : List UInt8)
    (rootPublicKey : PublicKey) (fabricId : FabricId) (nodeId : NodeId) :
    Except ErrorCode (List UInt8) :=
  kd.hmac ipk.bytes.toList
    (initiatorRandom ++ rootPublicKey.bytes.toList ++ leBytes 8 fabricId.val.toNat ++
      leBytes 8 nodeId.val.toNat)

end KeyDerivation

/-! ## One fabric -/

/-- A fabric's certificate chain, as it was sent.
Source: `Credentials`. -/
structure Credentials where
  noc : List UInt8
  icac : Option (List UInt8) := none
  rcac : List UInt8
  vvsc : Option (List UInt8) := none
  deriving DecidableEq

/-- Source: `Credentials::is_valid`. -/
def Credentials.isValid (c : Credentials) : Bool :=
  !c.noc.isEmpty && !c.rcac.isEmpty && !(c.icac.isSome && c.vvsc.isSome)

/-- Source: `FabricIdentity`. -/
structure FabricIdentity where
  fabricId : FabricId
  nodeId : NodeId
  rootPublicKey : PublicKey
  adminVendorId : VendorId

/-- Source: `Fabric`. -/
structure Fabric where
  index : FabricIndex
  fabricId : FabricId
  nodeId : NodeId
  rootPublicKey : PublicKey
  compressed : CompressedFabricId
  ipk : SymmetricKey
  adminVendorId : VendorId
  label : String := ""
  operationalKey : KeyHandle
  credentials : Credentials
  vidVerificationStatement : Option (Vector UInt8 85) := none
  deriving DecidableEq

namespace Fabric

/-- Source: `Fabric::new`. -/
def new (kd : KeyDerivation) (index : FabricIndex) (identity : FabricIdentity)
    (ipkEpochKey : SymmetricKey) (operationalKey : KeyHandle) (credentials : Credentials) :
    Except ErrorCode Fabric := do
  ensure (index.isSome = true) .invalidArgument
  ensure (identity.fabricId.val ≠ 0) .invalidArgument
  ensure (identity.nodeId.isOperational = true) .invalidArgument
  ensure (credentials.isValid = true) .invalidArgument
  let compressed ← kd.compressedFabricId identity.rootPublicKey identity.fabricId
  let ipk ← kd.operationalGroupKey ipkEpochKey compressed
  pure
    { index := index
      fabricId := identity.fabricId
      nodeId := identity.nodeId
      rootPublicKey := identity.rootPublicKey
      compressed := compressed
      ipk := ipk
      adminVendorId := identity.adminVendorId
      operationalKey := operationalKey
      credentials := credentials }

/-- Source: `Fabric::destination_identifier`. -/
def destinationIdentifier (kd : KeyDerivation) (f : Fabric) (initiatorRandom : List UInt8) :
    Except ErrorCode (List UInt8) :=
  kd.destinationIdentifier f.ipk initiatorRandom f.rootPublicKey f.fabricId f.nodeId

end Fabric

/-! ## The table -/

/-- Source: `FabricTable`. -/
structure FabricTable (N : ℕ) where
  fabrics : BoundedVec Fabric N
  lastIndex : UInt8
  deriving DecidableEq

namespace FabricTable

variable {N : ℕ}

/-- Source: `FabricTable::new`. -/
def new : FabricTable N := ⟨.empty, 0⟩

/-- Source: `FabricTable::len`. -/
def len (t : FabricTable N) : ℕ := t.fabrics.toList.length

/-- Source: `FabricTable::is_empty`. -/
def isEmpty (t : FabricTable N) : Bool := t.fabrics.toList.isEmpty

/-- Source: `FabricTable::find`. -/
def find (t : FabricTable N) (index : FabricIndex) : Option Fabric :=
  t.fabrics.toList.find? fun f => decide (f.index = index)

/-- The candidate after another one: `1` after `254`.
Source: the loop of `FabricTable::allocate_index`. -/
def nextCandidate (candidate : UInt8) : UInt8 := if candidate ≥ 254 then 1 else candidate + 1

/-- The first candidate that is not in use, among so many.
Source: the loop of `FabricTable::allocate_index`. -/
def scan (t : FabricTable N) : ℕ → UInt8 → Option UInt8
  | 0, _ => none
  | rounds + 1, last =>
    let candidate := nextCandidate last
    if t.find ⟨candidate⟩ = none then some candidate else scan t rounds candidate

/-- Source: `FabricTable::allocate_index`. -/
def allocateIndex (t : FabricTable N) : Except ErrorCode FabricIndex × FabricTable N :=
  match t.scan 254 t.lastIndex with
  | some candidate => (.ok ⟨candidate⟩, { t with lastIndex := candidate })
  | none => (.error .noSpace, t)

/-- Source: `FabricTable::insert`. -/
def insert (t : FabricTable N) (fabric : Fabric) : Except ErrorCode (FabricTable N) :=
  if (t.find fabric.index).isSome then .error .invalidState
  else if t.fabrics.toList.any fun f =>
      decide (f.compressed = fabric.compressed) && decide (f.nodeId = fabric.nodeId) then
    .error .alreadyExists
  else
    match t.fabrics.push fabric with
    | some fabrics => .ok { t with fabrics := fabrics }
    | none => .error .noSpace

/-- Changes the fabric with an index.
Source: `FabricTable::find_mut` and what its callers write through it. -/
def update (t : FabricTable N) (index : FabricIndex) (f : Fabric → Fabric) : FabricTable N :=
  { t with fabrics := t.fabrics.update (fun fabric => decide (fabric.index = index)) f }

/-- The last of the listed fabrics whose destination identifier is the given one; every one of them
is tried.
Source: the loop of `FabricTable::find_by_destination_identifier`. -/
def matchDestination (kd : KeyDerivation) (initiatorRandom destinationId : List UInt8) :
    List Fabric → Option Fabric → Except ErrorCode (Option Fabric)
  | [], found => .ok found
  | fabric :: fabrics, found => do
    let candidate ← fabric.destinationIdentifier kd initiatorRandom
    matchDestination kd initiatorRandom destinationId fabrics
      (if candidate = destinationId then some fabric else found)

/-- Source: `FabricTable::find_by_destination_identifier`. -/
def findByDestinationIdentifier (kd : KeyDerivation) (t : FabricTable N)
    (initiatorRandom destinationId : List UInt8) : Except ErrorCode (Option Fabric) :=
  matchDestination kd initiatorRandom destinationId t.fabrics.toList none

/-- Source: `FabricTable::remove`. -/
def remove (t : FabricTable N) (index : FabricIndex) : Option (Fabric × FabricTable N) :=
  match t.find index, t.fabrics.removeFirst fun f => decide (f.index = index) with
  | some fabric, some fabrics => some (fabric, { t with fabrics := fabrics })
  | _, _ => none

/-! ## Lookup -/

variable {t : FabricTable N} {index : FabricIndex}

/-- The index belongs to a fabric of the table. -/
def InUse (t : FabricTable N) (index : FabricIndex) : Prop := ∃ f ∈ t.fabrics.toList, f.index = index

instance (t : FabricTable N) (index : FabricIndex) : Decidable (t.InUse index) :=
  inferInstanceAs (Decidable (∃ f ∈ t.fabrics.toList, f.index = index))

lemma find_eq_none_iff : t.find index = none ↔ ¬ t.InUse index := by
  simp [find, InUse]

variable {fabric : Fabric} {kd : KeyDerivation} {destinationId initiatorRandom : List UInt8}
  {rounds : ℕ} {t' : FabricTable N}

lemma find_of_nodup (hunique : (t.fabrics.toList.map Fabric.index).Nodup)
    (hmem : fabric ∈ t.fabrics.toList) : t.find fabric.index = some fabric :=
  (find?_key_eq_some_iff hunique).mpr ⟨hmem, rfl⟩

lemma matchDestination_some : ∀ {fabrics : List Fabric} {found : Option Fabric},
      matchDestination kd initiatorRandom destinationId fabrics found = .ok (some fabric) →
      found = some fabric ∨ fabric ∈ fabrics ∧
        fabric.destinationIdentifier kd initiatorRandom = .ok destinationId
  | [], found, h => .inl (Except.ok.inj h)
  | first :: rest, found, h => by
    rw [matchDestination, bind_eq_ok] at h
    obtain ⟨candidate, hcandidate, hrest⟩ := h
    rcases matchDestination_some hrest with hfound | ⟨hmem, hmatch⟩
    · by_cases heq : candidate = destinationId
      · rw [if_pos heq] at hfound
        obtain rfl := Option.some.inj hfound
        exact .inr ⟨List.mem_cons_self, heq ▸ hcandidate⟩
      · rw [if_neg heq] at hfound
        exact .inl hfound
    · exact .inr ⟨List.mem_cons_of_mem _ hmem, hmatch⟩

/-- The fabric that a destination identifier is resolved to is in the table and has it. -/
lemma findByDestinationIdentifier_some
    (h : t.findByDestinationIdentifier kd initiatorRandom destinationId = .ok (some fabric)) :
    fabric ∈ t.fabrics.toList ∧ fabric.destinationIdentifier kd initiatorRandom = .ok destinationId := by
  rcases matchDestination_some h with hnone | hsome
  · cases hnone
  · exact hsome

/-! ## The cycle of candidates -/

lemma toNat_nextCandidate (c : UInt8) :
    (nextCandidate c).toNat = if 254 ≤ c.toNat then 1 else c.toNat + 1 := by
  have hlt := c.toNat_lt
  by_cases hc : 254 ≤ c.toNat
  · have hge : c ≥ 254 := UInt8.le_iff_toNat_le.mpr hc
    rw [nextCandidate, if_pos hge, if_pos hc]
    rfl
  · have hge : ¬ c ≥ 254 := fun h => hc (UInt8.le_iff_toNat_le.mp h)
    rw [nextCandidate, if_neg hge, if_neg hc, UInt8.toNat_add]
    have hone : (1 : UInt8).toNat = 1 := rfl
    rw [hone]
    omega

/-- After so many rounds the candidate has moved on so far round the cycle. -/
lemma toNat_iterate_nextCandidate {c : UInt8} (hc : c.toNat ≤ 254) (k : ℕ) :
    (nextCandidate^[k + 1] c).toNat = (c.toNat + k) % 254 + 1 := by
  induction k with
  | zero =>
    rw [Function.iterate_one, toNat_nextCandidate]
    split_ifs with h
    · have heq : c.toNat = 254 := by omega
      rw [heq]
    · rw [Nat.add_zero, Nat.mod_eq_of_lt (by omega)]
  | succ k ih =>
    rw [Function.iterate_succ_apply', toNat_nextCandidate, ih]
    split_ifs with h
    · omega
    · omega

/-- Every index is a candidate within one round. -/
lemma exists_iterate_eq {c : UInt8} (hc : c.toNat ≤ 254) {j : UInt8} (hpos : 1 ≤ j.toNat)
    (hle : j.toNat ≤ 254) : ∃ k < 254, nextCandidate^[k + 1] c = j := by
  refine ⟨(j.toNat + 253 + 254 - c.toNat) % 254, Nat.mod_lt _ (by decide), ?_⟩
  refine UInt8.toNat_inj.mp ?_
  rw [toNat_iterate_nextCandidate hc]
  omega

/-! ## Allocation -/

/-- A scan that finds a candidate has passed over those in use. -/
lemma scan_eq_some {last candidate : UInt8} (h : t.scan rounds last = some candidate) :
    ∃ k < rounds, candidate = nextCandidate^[k + 1] last ∧ ¬ t.InUse ⟨candidate⟩ ∧
      ∀ k' < k, t.InUse ⟨nextCandidate^[k' + 1] last⟩ := by
  induction rounds generalizing last with
  | zero => cases h
  | succ rounds ih =>
    rw [scan] at h
    split_ifs at h with hfree
    · obtain rfl := Option.some.inj h
      exact ⟨0, Nat.succ_pos _, rfl, find_eq_none_iff.mp hfree, by simp⟩
    · obtain ⟨k, hk, rfl, hunused, hpassed⟩ := ih h
      refine ⟨k + 1, by omega, rfl, hunused, ?_⟩
      intro k' hk'
      cases k' with
      | zero => exact not_not.mp (mt find_eq_none_iff.mpr hfree)
      | succ k' => exact hpassed k' (by omega)

lemma scan_eq_none {last : UInt8} (h : t.scan rounds last = none) :
    ∀ k < rounds, t.InUse ⟨nextCandidate^[k + 1] last⟩ := by
  induction rounds generalizing last with
  | zero => simp
  | succ rounds ih =>
    rw [scan] at h
    split_ifs at h with hfree
    intro k hk
    cases k with
    | zero => exact not_not.mp (mt find_eq_none_iff.mpr hfree)
    | succ k => exact ih h k (by omega)

lemma allocateIndex_of_ok (h : t.allocateIndex.1 = .ok index) :
    t.allocateIndex.2 = { t with lastIndex := index.val } ∧
      ∃ k < 254, index.val = nextCandidate^[k + 1] t.lastIndex ∧ ¬ t.InUse index ∧
        ∀ k' < k, t.InUse ⟨nextCandidate^[k' + 1] t.lastIndex⟩ := by
  rw [allocateIndex] at h ⊢
  cases hscan : t.scan 254 t.lastIndex with
  | none =>
    rw [hscan] at h
    cases h
  | some candidate =>
    rw [hscan] at h
    obtain rfl := Except.ok.inj h
    exact ⟨rfl, scan_eq_some hscan⟩

lemma allocateIndex_of_error {e : ErrorCode} (h : t.allocateIndex.1 = .error e) :
    t.allocateIndex.2 = t ∧ ∀ k < 254, t.InUse ⟨nextCandidate^[k + 1] t.lastIndex⟩ := by
  rw [allocateIndex] at h ⊢
  cases hscan : t.scan 254 t.lastIndex with
  | none => exact ⟨rfl, scan_eq_none hscan⟩
  | some candidate =>
    rw [hscan] at h
    cases h

/-- An allocation fails only in a table with all 254 indices in use. -/
lemma exists_allocateIndex (hlast : t.lastIndex.toNat ≤ 254) (hroom : t.len < 254) :
    ∃ index, t.allocateIndex.1 = .ok index := by
  cases h : t.allocateIndex.1 with
  | ok index => exact ⟨index, rfl⟩
  | error e =>
    exfalso
    have hused := (allocateIndex_of_error h).2
    have hsubset : Finset.Icc 1 254 ⊆ (t.fabrics.toList.map fun f => f.index.val.toNat).toFinset := by
      intro n hn
      obtain ⟨hpos, hle⟩ := Finset.mem_Icc.mp hn
      have hofNat : (UInt8.ofNat n).toNat = n := by
        rw [UInt8.toNat_ofNat']
        omega
      obtain ⟨k, hk, hcandidate⟩ := exists_iterate_eq (j := UInt8.ofNat n) hlast (by omega) (by omega)
      obtain ⟨f, hf, hindex⟩ := hused k hk
      refine List.mem_toFinset.mpr (List.mem_map.mpr ⟨f, hf, ?_⟩)
      rw [hindex, hcandidate, hofNat]
    have hcard := (Finset.card_le_card hsubset).trans (List.toFinset_card_le _)
    rw [Nat.card_Icc, List.length_map] at hcard
    exact absurd hroom (by rw [len]; omega)

lemma insert_of_ok (h : t.insert fabric = .ok t') : ¬ t.InUse fabric.index ∧
      (∀ f ∈ t.fabrics.toList, (f.compressed, f.nodeId) ≠ (fabric.compressed, fabric.nodeId)) ∧
      t'.fabrics.toList = t.fabrics.toList ++ [fabric] ∧ t'.lastIndex = t.lastIndex := by
  rw [insert] at h
  split_ifs at h with hused htwice
  cases hpush : t.fabrics.push fabric with
  | none =>
    rw [hpush] at h
    cases h
  | some fabrics =>
    rw [hpush] at h
    obtain rfl := Except.ok.inj h
    refine ⟨?_, ?_, (BoundedVec.push_eq_some_iff.mp hpush).2, rfl⟩
    · rw [← find_eq_none_iff]
      simpa using hused
    · simpa using htwice

lemma remove_eq_some (h : t.remove index = some (fabric, t')) :
    t.find index = some fabric ∧ t'.lastIndex = t.lastIndex ∧
      t.fabrics.removeFirst (fun f => decide (f.index = index)) = some t'.fabrics := by
  rw [remove] at h
  cases hfind : t.find index with
  | none => simp [hfind] at h
  | some found =>
    cases hremove : t.fabrics.removeFirst fun f => decide (f.index = index) with
    | none => simp [hfind, hremove] at h
    | some fabrics =>
      simp only [hfind, hremove, Option.some.injEq, Prod.mk.injEq] at h
      obtain ⟨rfl, rfl⟩ := h
      exact ⟨rfl, rfl, rfl⟩

lemma remove_eq_none_iff : t.remove index = none ↔ t.find index = none := by
  constructor
  · intro h
    by_contra hfind
    obtain ⟨fabric, hfabric⟩ := Option.ne_none_iff_exists'.mp hfind
    obtain ⟨hmem, hindex⟩ := find?_key_eq_some hfabric
    cases hremove : t.fabrics.removeFirst fun f => decide (f.index = index) with
    | none =>
      have hother := BoundedVec.removeFirst_eq_none_iff.mp hremove fabric hmem
      exact of_decide_eq_false hother hindex
    | some fabrics => simp [remove, hfabric, hremove] at h
  · intro h
    simp [remove, h]

/-- A removal makes the table shorter. -/
lemma len_lt_of_remove (h : t.remove index = some (fabric, t')) : t'.len < t.len := by
  obtain ⟨-, -, hremove⟩ := remove_eq_some h
  obtain ⟨i, hi, -, hperm⟩ := BoundedVec.removeFirst_eq_some hremove
  rw [len, hperm.length_eq, List.length_eraseIdx_of_lt hi]
  exact Nat.sub_lt (Nat.zero_lt_of_lt hi) Nat.one_pos

/-- The fabric that was added last can be removed, and the others stay as they are. -/
lemma remove_of_last {l : List Fabric} (h : t.fabrics.toList = l ++ [fabric])
    (hl : ∀ f ∈ l, f.index ≠ fabric.index) :
    ∃ t', t.remove fabric.index = some (fabric, t') ∧ t'.fabrics.toList = l := by
  have hfind : t.find fabric.index = some fabric := by
    have hnone : l.find? (fun f => decide (f.index = fabric.index)) = none :=
      find?_key_eq_none_iff.mpr hl
    rw [find, h, List.find?_append, hnone]
    simp
  obtain ⟨fabrics, hremove, hfabrics⟩ := BoundedVec.removeFirst_of_last
    (p := fun f : Fabric => decide (f.index = fabric.index)) h (by simpa using hl) (by simp)
  refine ⟨{ t with fabrics := fabrics }, ?_, hfabrics⟩
  rw [remove, hfind, hremove]

/-! ## Runs -/

/-- An operation of the table. -/
inductive Op
  | allocate
  | insert (fabric : Fabric)
  | remove (index : FabricIndex)

/-- One operation, on the table and the indices handed out so far. -/
def step (s : FabricTable N × List FabricIndex) : Op → FabricTable N × List FabricIndex
  | .allocate =>
    match s.1.allocateIndex with
    | (.ok index, t) => (t, s.2 ++ [index])
    | (.error _, t) => (t, s.2)
  | .insert fabric =>
    match s.1.insert fabric with
    | .ok t => (t, s.2)
    | .error _ => s
  | .remove index =>
    match s.1.remove index with
    | some (_, t) => (t, s.2)
    | none => s

/-- A run of operations. -/
def run (s : FabricTable N × List FabricIndex) (ops : List Op) : FabricTable N × List FabricIndex :=
  ops.foldl step s

/-- A fabric is inserted under an index that was allocated. -/
def UsesAllocated (s : FabricTable N × List FabricIndex) : Op → Prop
  | .insert fabric => fabric.index ∈ s.2
  | _ => True

instance (s : FabricTable N × List FabricIndex) : ∀ op, Decidable (UsesAllocated s op)
  | .allocate => .isTrue trivial
  | .insert fabric => inferInstanceAs (Decidable (fabric.index ∈ s.2))
  | .remove _ => .isTrue trivial

section step

variable {allocated : List FabricIndex}

lemma step_allocate_of_ok (h : t.allocateIndex.1 = .ok index) :
    step (t, allocated) .allocate = ({ t with lastIndex := index.val }, allocated ++ [index]) := by
  have htable := (allocateIndex_of_ok h).1
  simp only [step]
  generalize t.allocateIndex = result at h htable
  obtain ⟨r, t'⟩ := result
  obtain rfl : r = .ok index := h
  obtain rfl : t' = _ := htable
  rfl

lemma step_allocate_of_error {e : ErrorCode} (h : t.allocateIndex.1 = .error e) :
    step (t, allocated) .allocate = (t, allocated) := by
  have htable := (allocateIndex_of_error h).1
  simp only [step]
  generalize t.allocateIndex = result at h htable
  obtain ⟨r, t'⟩ := result
  obtain rfl : r = .error e := h
  obtain rfl : t' = t := htable
  rfl

/-- What one operation can do. -/
lemma step_cases (t : FabricTable N) (allocated : List FabricIndex) (op : Op) :
    step (t, allocated) op = (t, allocated) ∨
      (∃ index, op = .allocate ∧ t.allocateIndex.1 = .ok index ∧
        step (t, allocated) op = ({ t with lastIndex := index.val }, allocated ++ [index])) ∨
      (∃ fabric t', op = .insert fabric ∧ t.insert fabric = .ok t' ∧
        step (t, allocated) op = (t', allocated)) ∨
      ∃ index fabric t', op = .remove index ∧ t.remove index = some (fabric, t') ∧
        step (t, allocated) op = (t', allocated) := by
  cases op with
  | allocate =>
    cases h : t.allocateIndex.1 with
    | ok index => exact .inr (.inl ⟨index, rfl, rfl, step_allocate_of_ok h⟩)
    | error e => exact .inl (step_allocate_of_error h)
  | insert fabric =>
    cases h : t.insert fabric with
    | ok t' => exact .inr (.inr (.inl ⟨fabric, t', rfl, h, by rw [step, h]⟩))
    | error e => exact .inl (by rw [step, h])
  | remove index =>
    cases h : t.remove index with
    | none => exact .inl (by rw [step, h])
    | some removed =>
      obtain ⟨fabric, t'⟩ := removed
      exact .inr (.inr (.inr ⟨index, fabric, t', rfl, h, by rw [step, h]⟩))

end step

/-- Indices are allocated from `1..=254`, and the fabrics of the table have distinct ones of them and
distinct names. -/
structure WellIndexed (s : FabricTable N × List FabricIndex) : Prop where
  last : s.1.lastIndex.toNat ≤ 254
  allocated : ∀ index ∈ s.2, 1 ≤ index.val.toNat ∧ index.val.toNat ≤ 254
  index : ∀ f ∈ s.1.fabrics.toList, f.index ∈ s.2
  unique : KeysUnique Fabric.index s.1.fabrics.toList
  named : KeysUnique (fun f : Fabric => (f.compressed, f.nodeId)) s.1.fabrics.toList

namespace WellIndexed

lemma new : WellIndexed ((FabricTable.new : FabricTable N), []) where
  last := Nat.zero_le _
  allocated := by simp
  index := by simp [FabricTable.new, BoundedVec.empty]
  unique := .nil
  named := .nil

lemma step {s : FabricTable N × List FabricIndex} (hs : WellIndexed s) (op : Op)
    (hop : UsesAllocated s op) : WellIndexed (FabricTable.step s op) := by
  obtain ⟨t, allocated⟩ := s
  obtain hsame | ⟨index, rfl, hok, heq⟩ | ⟨fabric, t', rfl, hok, heq⟩ |
    ⟨index, fabric, t', rfl, hsome, heq⟩ := step_cases t allocated op
  · rwa [hsame]
  · obtain ⟨-, k, hk, hindex, -⟩ := allocateIndex_of_ok hok
    have hnat : index.val.toNat = (t.lastIndex.toNat + k) % 254 + 1 := by
      rw [hindex, toNat_iterate_nextCandidate hs.last]
    rw [heq]
    refine ⟨by dsimp only; omega, ?_, fun f hf => List.mem_append_left _ (hs.index f hf),
      hs.unique, hs.named⟩
    intro i hi
    rcases List.mem_append.mp hi with hi | hi
    · exact hs.allocated i hi
    · obtain rfl := List.mem_singleton.mp hi
      omega
  · obtain ⟨hunused, hnamed, hfabrics, hlast⟩ := insert_of_ok hok
    rw [heq]
    refine ⟨hlast ▸ hs.last, hs.allocated, ?_, ?_, ?_⟩
    · intro f hf
      rw [hfabrics] at hf
      rcases List.mem_append.mp hf with hf | hf
      · exact hs.index f hf
      · obtain rfl := List.mem_singleton.mp hf
        exact hop
    · rw [hfabrics]
      exact hs.unique.append_singleton fun f hf hindex => hunused ⟨f, hf, hindex⟩
    · rw [hfabrics]
      exact hs.named.append_singleton hnamed
  · obtain ⟨-, hlast, hremove⟩ := remove_eq_some hsome
    rw [heq]
    exact ⟨hlast ▸ hs.last, hs.allocated,
      fun f hf => hs.index f (BoundedVec.mem_of_removeFirst hremove hf),
      hs.unique.removeFirst hremove, hs.named.removeFirst hremove⟩

end WellIndexed

/-- Somewhere along a run an index is in use, or is allocated. -/
def Met (s : FabricTable N × List FabricIndex) (ops : List Op) (index : FabricIndex) : Prop :=
  ∃ before after, ops = before ++ after ∧
    ((run s before).1.InUse index ∨
      ∃ rest, after = .allocate :: rest ∧ (run s before).1.allocateIndex.1 = .ok index)

lemma Met.cons {s : FabricTable N × List FabricIndex} {op : Op} {ops : List Op}
    (h : Met (step s op) ops index) : Met s (op :: ops) index := by
  obtain ⟨before, after, rfl, hmet⟩ := h
  exact ⟨op :: before, after, rfl, hmet⟩

/-- A run moves the last index on by so many rounds, and meets every candidate on the way. -/
lemma exists_advance (s : FabricTable N × List FabricIndex) (ops : List Op) :
    ∃ n, (run s ops).1.lastIndex = nextCandidate^[n] s.1.lastIndex ∧
      ∀ k < n, Met s ops ⟨nextCandidate^[k + 1] s.1.lastIndex⟩ := by
  induction ops generalizing s with
  | nil => exact ⟨0, rfl, by simp⟩
  | cons op ops ih =>
    obtain ⟨n, hlast, hmet⟩ := ih (step s op)
    obtain ⟨t, allocated⟩ := s
    have hkept : (step (t, allocated) op).1.lastIndex = t.lastIndex →
        ∃ n, (run (t, allocated) (op :: ops)).1.lastIndex = nextCandidate^[n] t.lastIndex ∧
          ∀ k < n, Met (t, allocated) (op :: ops) ⟨nextCandidate^[k + 1] t.lastIndex⟩ := by
      intro hsame
      rw [hsame] at hlast hmet
      exact ⟨n, hlast, fun k hk => (hmet k hk).cons⟩
    obtain hsame | ⟨index, rfl, hok, heq⟩ | ⟨fabric, t', rfl, hok, heq⟩ |
      ⟨index, fabric, t', rfl, hsome, heq⟩ := step_cases t allocated op
    · exact hkept (by rw [hsame])
    · obtain ⟨-, m, -, hindex, -, hpassed⟩ := allocateIndex_of_ok hok
      have hmoved : (step (t, allocated) .allocate).1.lastIndex =
          nextCandidate^[m + 1] t.lastIndex := by
        rw [heq]
        exact hindex
      rw [hmoved] at hlast hmet
      refine ⟨n + (m + 1), ?_, ?_⟩
      · rw [Function.iterate_add_apply]
        exact hlast
      · intro k hk
        rcases Nat.lt_trichotomy k m with hlt | rfl | hgt
        · exact ⟨[], .allocate :: ops, rfl, .inl (hpassed k hlt)⟩
        · exact ⟨[], .allocate :: ops, rfl, .inr ⟨ops, rfl, by rw [← hindex]; exact hok⟩⟩
        · have hlater := (hmet (k - (m + 1)) (by omega)).cons
          rw [← Function.iterate_add_apply] at hlater
          have hsum : k - (m + 1) + 1 + (m + 1) = k + 1 := by omega
          rwa [hsum] at hlater
    · exact hkept (by rw [heq]; exact (insert_of_ok hok).2.2.2)
    · exact hkept (by rw [heq]; exact (remove_eq_some hsome).2.1)

/-- Between two allocations of one index the scan has gone round at least once. -/
lemma met_of_allocated_again {s : FabricTable N × List FabricIndex} {between : List Op}
    (hlast : s.1.lastIndex = index.val) (hle : index.val.toNat ≤ 254)
    (hagain : (run s between).1.allocateIndex.1 = .ok index)
    {other : FabricIndex} (hopos : 1 ≤ other.val.toNat) (hole : other.val.toNat ≤ 254)
    (hne : other ≠ index) : Met s between other := by
  obtain ⟨n, hreached, hmet⟩ := exists_advance s between
  obtain ⟨-, m, -, hindex, -, hpassed⟩ := allocateIndex_of_ok hagain
  rw [hreached, hlast] at hindex hpassed
  rw [hlast] at hmet
  -- The scan is back at `index` after `n + m + 1` candidates.
  have hround : index.val = nextCandidate^[n + m + 1] index.val := by
    rw [← Function.iterate_add_apply] at hindex
    have hsum : m + 1 + n = n + m + 1 := by omega
    rwa [hsum] at hindex
  have hfull : 253 ≤ n + m := by
    have hnat := congrArg UInt8.toNat hround
    rw [toNat_iterate_nextCandidate hle] at hnat
    omega
  obtain ⟨k, hk, hcandidate⟩ := exists_iterate_eq (c := index.val) hle hopos hole
  obtain rfl : other = ⟨nextCandidate^[k + 1] index.val⟩ := by rw [hcandidate]
  by_cases hbefore : k < n
  · exact hmet k hbefore
  · -- The candidate was passed over by the last scan, since it is not `index` itself.
    have hkm : k - n < m := by
      by_contra hge
      have hlast : k = n + m := by omega
      exact hne (by rw [hlast, ← hround])
    have hused := hpassed (k - n) hkm
    rw [← Function.iterate_add_apply] at hused
    have hsum : k - n + 1 + n = k + 1 := by omega
    rw [hsum] at hused
    exact ⟨between, [], (List.append_nil _).symm, .inl hused⟩

/-- Fabric indices are not recycled early. After any run the indices in the table are distinct ones of
`1..=254`, an allocation succeeds while there are fewer than 254 fabrics, and if it returns the index of
an earlier allocation, every other index was in use or allocated in between. -/
theorem index_recycled_last (ops : List Op)
    (hops : Throughout step UsesAllocated ((new : FabricTable N), []) ops) :
    let t := (run ((new : FabricTable N), []) ops).1
    (∀ f ∈ t.fabrics.toList, 1 ≤ f.index.val.toNat ∧ f.index.val.toNat ≤ 254) ∧
    (t.fabrics.toList.map Fabric.index).Nodup ∧
    (t.fabrics.toList.map fun f => (f.compressed, f.nodeId)).Nodup ∧
    (t.len < 254 → ∃ index, t.allocateIndex.1 = .ok index) ∧
    (∀ index, t.allocateIndex.1 = .ok index →
      t.find index = none ∧ 1 ≤ index.val.toNat ∧ index.val.toNat ≤ 254) ∧
    ∀ before between index, ops = before ++ .allocate :: between →
      (run ((new : FabricTable N), []) before).1.allocateIndex.1 = .ok index →
      t.allocateIndex.1 = .ok index →
      ∀ other : FabricIndex, 1 ≤ other.val.toNat → other.val.toNat ≤ 254 → other ≠ index →
        Met (run ((new : FabricTable N), []) (before ++ [.allocate])) between other := by
  have hwell : WellIndexed (run ((new : FabricTable N), []) ops) :=
    hops.invariant (fun _ op hs hop => hs.step op hop) .new
  have hrange : ∀ index, (run ((new : FabricTable N), []) ops).1.allocateIndex.1 = .ok index →
      1 ≤ index.val.toNat ∧ index.val.toNat ≤ 254 := by
    intro index hok
    obtain ⟨-, k, -, hindex, -⟩ := allocateIndex_of_ok hok
    have hnat := congrArg UInt8.toNat hindex
    rw [toNat_iterate_nextCandidate hwell.last] at hnat
    omega
  refine ⟨fun f hf => hwell.allocated _ (hwell.index f hf), hwell.unique, hwell.named,
    exists_allocateIndex hwell.last, ?_, ?_⟩
  · intro index hok
    obtain ⟨-, k, -, -, hunused, -⟩ := allocateIndex_of_ok hok
    exact ⟨find_eq_none_iff.mpr hunused, hrange index hok⟩
  · intro before between index hsplit hfirst hagain other hopos hole hne
    obtain ⟨-, hle⟩ := hrange index hagain
    have hstart : (run ((new : FabricTable N), []) (before ++ [.allocate])).1.lastIndex =
        index.val := by
      rw [run, List.foldl_concat]
      exact congrArg (fun s : FabricTable N × List FabricIndex => s.1.lastIndex)
        (step_allocate_of_ok hfirst)
    refine met_of_allocated_again hstart hle ?_ hopos hole hne
    rw [run, run, ← List.foldl_append, List.append_assoc, List.singleton_append, ← hsplit]
    exact hagain

/-- A fabric with an index, for a run on concrete values. -/
def sample (index : FabricIndex) : Fabric where
  index := index
  fabricId := ⟨1⟩
  nodeId := ⟨1⟩
  rootPublicKey := ⟨.replicate 65 0⟩
  compressed := ⟨1⟩
  ipk := ⟨.replicate 16 0⟩
  adminVendorId := ⟨0xFFF1⟩
  operationalKey := ⟨0⟩
  credentials := { noc := [0x15], rcac := [0x15] }

/-- The index of a fabric that has been removed is not the next one to be allocated: with one fabric
added under index 1 and removed again, an allocation succeeds, and it returns 2. -/
theorem removed_index_not_next :
    let ops := [Op.allocate, .insert (sample ⟨1⟩), .remove ⟨1⟩]
    Throughout step UsesAllocated ((new : FabricTable 5), []) ops ∧
      (∃ index, (run ((new : FabricTable 5), []) ops).1.allocateIndex.1 = .ok index) ∧
      (run ((new : FabricTable 5), []) ops).1.allocateIndex.1 = .ok ⟨2⟩ := by
  have hops : Throughout step UsesAllocated ((new : FabricTable 5), [])
      [Op.allocate, .insert (sample ⟨1⟩), .remove ⟨1⟩] := by decide +kernel
  have hnext : (run ((new : FabricTable 5), [])
      [Op.allocate, .insert (sample ⟨1⟩), .remove ⟨1⟩]).1.allocateIndex.1 = .ok ⟨2⟩ := by
    decide +kernel
  exact ⟨hops, (index_recycled_last _ hops).2.2.2.1 (by decide +kernel), hnext⟩

end FabricTable

end MatterKit
