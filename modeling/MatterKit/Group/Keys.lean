import MatterKit.Im.Ib
import MatterKit.Lib.Quota
import MatterKit.Lib.Runs
import MatterKit.Fabric

/-!
# Group key sets and the map from a group to one

`group/keys.rs`: the two tables an administrator writes through the Group Key Management cluster.

`Coherent` is what the two tables are to be at all times: keys unique, no mapping to a key set that is
not there, every fabric within its quotas. All operations keep it, but for one case of the bulk
replacement, which copies the list it is given: a group that the list names twice is mapped twice
(`replaceMap_coherent_iff`).
-/

namespace MatterKit.Group

open Lib Im

variable {K M : ℕ}

/-! ## The tables -/

/-- Source: `KeySetId`. -/
abbrev KeySetId := UInt16

/-- Source: `IPK_KEY_SET`. -/
def ipkKeySet : KeySetId := 0

/-- Source: `MAX_EPOCH_KEYS`. -/
def maxEpochKeys : ℕ := 3

/-- Source: `GroupKeySecurityPolicy`. -/
inductive GroupKeySecurityPolicy
  | trustFirst
  | cacheAndSync
  deriving DecidableEq

/-- An epoch key and when a sender starts to use it.
Source: `EpochKey`. -/
structure EpochKey where
  key : SymmetricKey
  startTimeUs : UInt64

/-- Source: `EpochKey::DISABLED`. -/
def EpochKey.disabled : UInt64 := 0xFFFFFFFFFFFFFFFF

/-- Source: `EpochKey::is_enabled`. -/
def EpochKey.isEnabled (k : EpochKey) : Bool := decide (k.startTimeUs ≠ EpochKey.disabled)

/-- Source: `GroupKeySet`. -/
structure GroupKeySet where
  fabricIndex : FabricIndex
  id : KeySetId
  policy : GroupKeySecurityPolicy
  epochKeys : BoundedVec EpochKey maxEpochKeys

/-- What a key set is found by. -/
def GroupKeySet.name (s : GroupKeySet) : FabricIndex × KeySetId := (s.fabricIndex, s.id)

/-- An entry of the `GroupKeyMap`.
Source: `GroupKeys`, an entry of `map`. -/
structure GroupMapping where
  fabricIndex : FabricIndex
  group : GroupId
  keySet : KeySetId

/-- What a mapping is found by. -/
def GroupMapping.name (m : GroupMapping) : FabricIndex × GroupId := (m.fabricIndex, m.group)

/-- The key set a mapping refers to. -/
def GroupMapping.target (m : GroupMapping) : FabricIndex × KeySetId := (m.fabricIndex, m.keySet)

/-- The figures of a node's configuration that size the two tables.
Source: `config.rs`, `Config`. -/
structure GroupConfig where
  fabrics : ℕ
  groupKeysPerFabric : ℕ
  groupsPerFabric : ℕ

/-- Source: `GroupKeys`. -/
structure GroupKeys (K M : ℕ) where
  sets : BoundedVec GroupKeySet K
  map : BoundedVec GroupMapping M

namespace GroupKeys

/-- What is asserted of the capacities when a table is built.
Source: `GroupKeys::CHECK`. -/
structure Check (c : GroupConfig) (K M : ℕ) : Prop where
  sets : c.groupKeysPerFabric * c.fabrics ≤ K
  map : c.groupsPerFabric * c.fabrics ≤ M

/-- Source: `GroupKeys::new`. -/
def new : GroupKeys K M := ⟨.empty, .empty⟩

/-- Source: `GroupKeys::key_set`. -/
def keySet (t : GroupKeys K M) (fabric : FabricIndex) (id : KeySetId) : Option GroupKeySet :=
  t.sets.toList.find? fun s => decide (s.name = (fabric, id))

/-- Source: `GroupKeys::count_sets`. -/
def countSets (t : GroupKeys K M) (fabric : FabricIndex) : ℕ :=
  held GroupKeySet.fabricIndex t.sets.toList fabric

/-- Source: `GroupKeys::count_groups`. -/
def countGroups (t : GroupKeys K M) (fabric : FabricIndex) : ℕ :=
  held GroupMapping.fabricIndex t.map.toList fabric

/-- Source: `GroupKeys::write_key_set`. -/
def writeKeySet (c : GroupConfig) (t : GroupKeys K M) (set : GroupKeySet) :
    Except Status Unit × GroupKeys K M :=
  if set.epochKeys.toList = [] then (.error .invalidCommand, t)
  else if (t.keySet set.fabricIndex set.id).isSome then
    (.ok (), { t with sets := t.sets.update (fun s => decide (s.name = set.name)) (fun _ => set) })
  else if c.groupKeysPerFabric ≤ t.countSets set.fabricIndex then (.error .resourceExhausted, t)
  else
    match t.sets.push set with
    | some sets => (.ok (), { t with sets := sets })
    | none => (.error .resourceExhausted, t)

/-- Source: `GroupKeys::remove_key_set`. -/
def removeKeySet (t : GroupKeys K M) (fabric : FabricIndex) (id : KeySetId) :
    Except Status Unit × GroupKeys K M :=
  if id = ipkKeySet then (.error .invalidCommand, t)
  else if t.keySet fabric id = none then (.error .notFound, t)
  else (.ok (),
    { sets := t.sets.retain fun s => !decide (s.name = (fabric, id))
      map := t.map.retain fun m => !decide (m.target = (fabric, id)) })

/-- Source: `GroupKeys::map_group`. -/
def mapGroup (c : GroupConfig) (t : GroupKeys K M) (fabric : FabricIndex) (group : GroupId)
    (keySet : KeySetId) : Except Status Unit × GroupKeys K M :=
  if t.keySet fabric keySet = none then (.error .notFound, t)
  else if (t.map.toList.find? fun m => decide (m.name = (fabric, group))).isSome then
    let map := t.map.update (fun m => decide (m.name = (fabric, group))) fun m =>
      { m with keySet := keySet }
    (.ok (), { t with map := map })
  else if c.groupsPerFabric ≤ t.countGroups fabric then (.error .resourceExhausted, t)
  else
    match t.map.push ⟨fabric, group, keySet⟩ with
    | some map => (.ok (), { t with map := map })
    | none => (.error .resourceExhausted, t)

/-- Appends the entries one by one and stops at the first that finds no room.
Source: `GroupKeys::replace_map`, the loop over `entries`. -/
def pushAll (map : BoundedVec GroupMapping M) :
    List GroupMapping → Except Status Unit × BoundedVec GroupMapping M
  | [] => (.ok (), map)
  | m :: rest =>
    match map.push m with
    | some map => pushAll map rest
    | none => (.error .resourceExhausted, map)

/-- Source: `GroupKeys::replace_map`. -/
def replaceMap (c : GroupConfig) (t : GroupKeys K M) (fabric : FabricIndex)
    (entries : List (GroupId × KeySetId)) : Except Status Unit × GroupKeys K M :=
  if c.groupsPerFabric < entries.length then (.error .resourceExhausted, t)
  else if entries.any fun e => decide (t.keySet fabric e.2 = none) then (.error .notFound, t)
  else
    let others := t.map.retain fun m => !decide (m.fabricIndex = fabric)
    let (result, map) := pushAll others (entries.map fun e => ⟨fabric, e.1, e.2⟩)
    (result, { t with map := map })

/-- Source: `GroupKeys::remove_fabric`. -/
def removeFabric (t : GroupKeys K M) (fabric : FabricIndex) : GroupKeys K M :=
  { sets := t.sets.retain fun s => !decide (s.fabricIndex = fabric)
    map := t.map.retain fun m => !decide (m.fabricIndex = fabric) }

/-! ## Operations and runs -/

/-- An operation on the tables. -/
inductive Op
  | writeKeySet (set : GroupKeySet)
  | removeKeySet (fabric : FabricIndex) (id : KeySetId)
  | mapGroup (fabric : FabricIndex) (group : GroupId) (keySet : KeySetId)
  | replaceMap (fabric : FabricIndex) (entries : List (GroupId × KeySetId))
  | removeFabric (fabric : FabricIndex)

/-- The fabric an operation is for. -/
def Op.fabric : Op → FabricIndex
  | .writeKeySet set => set.fabricIndex
  | .removeKeySet fabric _ | .mapGroup fabric _ _ | .replaceMap fabric _ | .removeFabric fabric => fabric

/-- The answer to an operation, and the tables after it. -/
def perform (c : GroupConfig) (t : GroupKeys K M) : Op → Except Status Unit × GroupKeys K M
  | .writeKeySet set => t.writeKeySet c set
  | .removeKeySet fabric id => t.removeKeySet fabric id
  | .mapGroup fabric group keySet => t.mapGroup c fabric group keySet
  | .replaceMap fabric entries => t.replaceMap c fabric entries
  | .removeFabric fabric => (.ok (), t.removeFabric fabric)

/-- The tables after an operation. -/
def step (c : GroupConfig) (t : GroupKeys K M) (op : Op) : GroupKeys K M := (t.perform c op).2

/-- The operation asks for more than its fabric's quota. -/
def AtQuota (c : GroupConfig) (t : GroupKeys K M) : Op → Prop
  | .writeKeySet set => c.groupKeysPerFabric ≤ t.countSets set.fabricIndex
  | .mapGroup fabric _ _ => c.groupsPerFabric ≤ t.countGroups fabric
  | .replaceMap _ entries => c.groupsPerFabric < entries.length
  | _ => False

/-- What the two tables are to be at all times. -/
structure Coherent (c : GroupConfig) (t : GroupKeys K M) : Prop where
  sets_unique : KeysUnique GroupKeySet.name t.sets.toList
  map_unique : KeysUnique GroupMapping.name t.map.toList
  target : ∀ m ∈ t.map.toList, ∃ s ∈ t.sets.toList, s.name = m.target
  sets_within : ∀ fabric, t.countSets fabric ≤ c.groupKeysPerFabric
  map_within : ∀ fabric, t.countGroups fabric ≤ c.groupsPerFabric

/-- What an operation is to do: leave the tables coherent, change nothing when it fails, and fail for
lack of space only when it asks for more than its fabric's quota. -/
structure Sound (c : GroupConfig) (t : GroupKeys K M) (op : Op) : Prop where
  coherent : (t.step c op).Coherent c
  unchanged : ∀ e, (t.perform c op).1 = .error e → t.step c op = t
  room : (t.perform c op).1 = .error .resourceExhausted → t.AtQuota c op

/-- A replacement that names a group twice is refused: it is too long, or refers to a key set that is
not there. -/
def NoRepeats (c : GroupConfig) (t : GroupKeys K M) : Op → Prop
  | .replaceMap fabric entries =>
    (entries.map Prod.fst).Nodup ∨ c.groupsPerFabric < entries.length ∨
      ∃ e ∈ entries, t.keySet fabric e.2 = none
  | _ => True

/-! ## Room -/

/-- All entries belong to the fabrics of a set. -/
structure Over (F : Finset FabricIndex) (t : GroupKeys K M) : Prop where
  sets : ∀ s ∈ t.sets.toList, s.fabricIndex ∈ F
  map : ∀ m ∈ t.map.toList, m.fabricIndex ∈ F

section room

variable {c : GroupConfig} {F : Finset FabricIndex} {t : GroupKeys K M}

/-- A fabric below its quota finds room for a key set. -/
lemma Coherent.sets_room (h : t.Coherent c) (hcheck : Check c K M) (hF : F.card ≤ c.fabrics)
    (hover : t.Over F) {fabric : FabricIndex} (hfabric : fabric ∈ F)
    (hlt : t.countSets fabric < c.groupKeysPerFabric) : t.sets.toList.length < K := by
  apply length_lt_of_claimed_le hover.sets _ hfabric hlt
  calc claimed GroupKeySet.fabricIndex F c.groupKeysPerFabric t.sets.toList
      = F.card * c.groupKeysPerFabric := claimed_of_held_le fun k _ => h.sets_within k
    _ ≤ c.groupKeysPerFabric * c.fabrics := by
        rw [Nat.mul_comm]
        exact Nat.mul_le_mul_left _ hF
    _ ≤ K := hcheck.sets

/-- A fabric below its quota finds room for a mapping. -/
lemma Coherent.map_room (h : t.Coherent c) (hcheck : Check c K M) (hF : F.card ≤ c.fabrics)
    (hover : t.Over F) {fabric : FabricIndex} (hfabric : fabric ∈ F)
    (hlt : t.countGroups fabric < c.groupsPerFabric) : t.map.toList.length < M := by
  apply length_lt_of_claimed_le hover.map _ hfabric hlt
  calc claimed GroupMapping.fabricIndex F c.groupsPerFabric t.map.toList
      = F.card * c.groupsPerFabric := claimed_of_held_le fun k _ => h.map_within k
    _ ≤ c.groupsPerFabric * c.fabrics := by
        rw [Nat.mul_comm]
        exact Nat.mul_le_mul_left _ hF
    _ ≤ M := hcheck.map

/-- The entries of a replacement, as mappings of a fabric. -/
def mappings (fabric : FabricIndex) (entries : List (GroupId × KeySetId)) : List GroupMapping :=
  entries.map fun e => ⟨fabric, e.1, e.2⟩

lemma fabricIndex_of_mem_mappings {fabric : FabricIndex} {entries : List (GroupId × KeySetId)}
    {m : GroupMapping} (hm : m ∈ mappings fabric entries) : m.fabricIndex = fabric := by
  obtain ⟨e, -, rfl⟩ := List.mem_map.mp hm
  rfl

lemma held_mappings (fabric k : FabricIndex) (entries : List (GroupId × KeySetId)) :
    held GroupMapping.fabricIndex (mappings fabric entries) k =
      if fabric = k then entries.length else 0 := by
  by_cases h : fabric = k
  · rw [if_pos h, held, List.filter_eq_self.mpr]
    · exact List.length_map _
    · intro m hm
      rw [fabricIndex_of_mem_mappings hm]
      exact decide_eq_true h
  · rw [if_neg h, held, List.length_eq_zero_iff, List.filter_eq_nil_iff]
    intro m hm
    rw [fabricIndex_of_mem_mappings hm]
    simpa using h

/-- The map after a replacement, as a list. -/
def replaced (t : GroupKeys K M) (fabric : FabricIndex) (entries : List (GroupId × KeySetId)) :
    List GroupMapping :=
  (t.map.toList.filter fun m => !decide (m.fabricIndex = fabric)) ++ mappings fabric entries

lemma held_replaced (t : GroupKeys K M) (fabric k : FabricIndex) (entries : List (GroupId × KeySetId)) :
    held GroupMapping.fabricIndex (t.replaced fabric entries) k =
      if fabric = k then entries.length else t.countGroups k := by
  rw [replaced, held_append, held_mappings, held, List.filter_filter]
  by_cases h : fabric = k
  · subst h
    simp
  · rw [if_neg h, if_neg h, Nat.add_zero, countGroups, held]
    congr 1
    apply List.filter_congr
    intro m _
    by_cases hm : m.fabricIndex = k
    · simp [hm, Ne.symm h]
    · simp [hm]

/-- A replacement within the quota fits. -/
lemma Coherent.replaced_fits (h : t.Coherent c) (hcheck : Check c K M) (hF : F.card ≤ c.fabrics)
    (hover : t.Over F) {fabric : FabricIndex} (hfabric : fabric ∈ F)
    {entries : List (GroupId × KeySetId)} (hle : entries.length ≤ c.groupsPerFabric) :
    (t.replaced fabric entries).length ≤ M := by
  have howners : ∀ m ∈ t.replaced fabric entries, m.fabricIndex ∈ F := by
    intro m hm
    rcases List.mem_append.mp hm with hm | hm
    · exact hover.map m (List.mem_of_mem_filter hm)
    · rw [fabricIndex_of_mem_mappings hm]
      exact hfabric
  calc (t.replaced fabric entries).length
      ≤ F.card * c.groupsPerFabric := by
        apply length_le_of_held_le howners
        intro k _
        rw [held_replaced]
        split_ifs
        · exact hle
        · exact h.map_within k
    _ ≤ c.groupsPerFabric * c.fabrics := by
        rw [Nat.mul_comm]
        exact Nat.mul_le_mul_left _ hF
    _ ≤ M := hcheck.map

end room

/-! ## What an operation can do -/

variable {c : GroupConfig} {t : GroupKeys K M}

variable {id : KeySetId} {map : BoundedVec GroupMapping M}

lemma keySet_eq_none_iff {fabric : FabricIndex} :
    t.keySet fabric id = none ↔ ∀ s ∈ t.sets.toList, s.name ≠ (fabric, id) :=
  find?_key_eq_none_iff

lemma exists_of_keySet_ne_none {fabric : FabricIndex} (h : t.keySet fabric id ≠ none) :
    ∃ s ∈ t.sets.toList, s.name = (fabric, id) := by
  rw [ne_eq, keySet_eq_none_iff] at h
  push Not at h
  exact h

/-- A written key set is refused, takes the place of the one with its name, or is appended. -/
lemma writeKeySet_cases (c : GroupConfig) (t : GroupKeys K M) (set : GroupKeySet) :
    (∃ e, t.writeKeySet c set = (.error e, t) ∧
      (e = .resourceExhausted → c.groupKeysPerFabric ≤ t.countSets set.fabricIndex ∨
        t.sets.toList.length = K)) ∨
    t.writeKeySet c set = (.ok (),
      ⟨t.sets.update (fun s => decide (s.name = set.name)) fun _ => set, t.map⟩) ∨
    ((∀ s ∈ t.sets.toList, s.name ≠ set.name) ∧
      t.countSets set.fabricIndex < c.groupKeysPerFabric ∧
      ∃ sets, sets.toList = t.sets.toList ++ [set] ∧
        t.writeKeySet c set = (.ok (), { t with sets := sets })) := by
  unfold writeKeySet
  split_ifs with hempty hhas hquota
  · exact .inl ⟨_, rfl, fun h => nomatch h⟩
  · exact .inr (.inl rfl)
  · exact .inl ⟨_, rfl, fun _ => .inl hquota⟩
  · rw [Option.not_isSome_iff_eq_none, keySet_eq_none_iff] at hhas
    cases hpush : t.sets.push set with
    | none => exact .inl ⟨_, rfl, fun _ => .inr (BoundedVec.push_eq_none_iff.mp hpush)⟩
    | some sets =>
      obtain ⟨-, hsets⟩ := BoundedVec.push_eq_some_iff.mp hpush
      exact .inr (.inr ⟨hhas, not_le.mp hquota, sets, hsets, rfl⟩)

/-- A key set is not removed, or goes with every mapping that refers to it. -/
lemma removeKeySet_cases (t : GroupKeys K M) (fabric : FabricIndex) (id : KeySetId) :
    (∃ e, t.removeKeySet fabric id = (.error e, t) ∧ e ≠ .resourceExhausted) ∨
    t.removeKeySet fabric id = (.ok (), {
        sets := t.sets.retain fun s => !decide (s.name = (fabric, id))
        map := t.map.retain fun m => !decide (m.target = (fabric, id)) }) := by
  unfold removeKeySet
  split_ifs
  · exact .inl ⟨_, rfl, fun h => nomatch h⟩
  · exact .inl ⟨_, rfl, fun h => nomatch h⟩
  · exact .inr rfl

/-- A group is not mapped, its mapping is redirected, or a mapping is appended. -/
lemma mapGroup_cases (c : GroupConfig) (t : GroupKeys K M) (fabric : FabricIndex) (group : GroupId)
    (keySet : KeySetId) : (∃ e, t.mapGroup c fabric group keySet = (.error e, t) ∧
      (e = .resourceExhausted → c.groupsPerFabric ≤ t.countGroups fabric ∨
        t.map.toList.length = M)) ∨
    (∃ s ∈ t.sets.toList, s.name = (fabric, keySet)) ∧
      (t.mapGroup c fabric group keySet = (.ok (),
        ⟨t.sets, t.map.update (fun m => decide (m.name = (fabric, group)))
          fun m => { m with keySet := keySet }⟩) ∨
      ((∀ m ∈ t.map.toList, m.name ≠ (fabric, group)) ∧
        t.countGroups fabric < c.groupsPerFabric ∧
        ∃ map, map.toList = t.map.toList ++ [⟨fabric, group, keySet⟩] ∧
          t.mapGroup c fabric group keySet = (.ok (), { t with map := map }))) := by
  unfold mapGroup
  split_ifs with hmissing hhas hquota
  · exact .inl ⟨_, rfl, fun h => nomatch h⟩
  · exact .inr ⟨exists_of_keySet_ne_none hmissing, .inl rfl⟩
  · exact .inl ⟨_, rfl, fun _ => .inl hquota⟩
  · rw [Option.not_isSome_iff_eq_none, find?_key_eq_none_iff] at hhas
    cases hpush : t.map.push ⟨fabric, group, keySet⟩ with
    | none => exact .inl ⟨_, rfl, fun _ => .inr (BoundedVec.push_eq_none_iff.mp hpush)⟩
    | some map =>
      obtain ⟨-, hmap⟩ := BoundedVec.push_eq_some_iff.mp hpush
      exact .inr ⟨exists_of_keySet_ne_none hmissing,
        .inr ⟨hhas, not_le.mp hquota, map, hmap, rfl⟩⟩

/-- Entries for which there is room are all appended. -/
lemma pushAll_of_fits {entries : List GroupMapping} (h : (map.toList ++ entries).length ≤ M) :
    pushAll map entries = (.ok (), ⟨_, h⟩) := by
  induction entries generalizing map with
  | nil => simp [pushAll]
  | cons m rest ih =>
    have hroom : map.toList.length < M := by
      simp only [List.length_append, List.length_cons] at h
      omega
    have happend : map.toList ++ m :: rest = (map.toList ++ [m]) ++ rest := by simp
    have hpush : map.push m = some ⟨map.toList ++ [m], by simpa using hroom⟩ := by
      rw [BoundedVec.push, dif_pos hroom]
    rw [pushAll, hpush]
    dsimp only
    rw [ih (by rwa [happend] at h)]
    simp

/-- A replacement that fits is refused, or leaves the fabric exactly the mappings of the list. -/
lemma replaceMap_cases (c : GroupConfig) (t : GroupKeys K M) (fabric : FabricIndex)
    (entries : List (GroupId × KeySetId))
    (hfits : entries.length ≤ c.groupsPerFabric → (t.replaced fabric entries).length ≤ M) :
    (c.groupsPerFabric < entries.length ∧
      t.replaceMap c fabric entries = (.error .resourceExhausted, t)) ∨
    ((∃ e ∈ entries, t.keySet fabric e.2 = none) ∧
      t.replaceMap c fabric entries = (.error .notFound, t)) ∨
    (entries.length ≤ c.groupsPerFabric ∧ (∀ e ∈ entries, t.keySet fabric e.2 ≠ none) ∧
      ∃ map, map.toList = t.replaced fabric entries ∧
        t.replaceMap c fabric entries = (.ok (), { t with map := map })) := by
  unfold replaceMap
  split_ifs with hlong hmissing
  · exact .inl ⟨hlong, rfl⟩
  · exact .inr (.inl ⟨by simpa using hmissing, rfl⟩)
  · rw [not_lt] at hlong
    refine .inr (.inr ⟨hlong, by simpa using hmissing, ⟨_, hfits hlong⟩, rfl, ?_⟩)
    have hpush : pushAll (t.map.retain fun m => !decide (m.fabricIndex = fabric))
        (mappings fabric entries) = (.ok (), ⟨_, hfits hlong⟩) := pushAll_of_fits _
    rw [mappings] at hpush
    dsimp only
    rw [hpush]

/-! ## What each operation keeps -/

lemma coherent_new (c : GroupConfig) : (new : GroupKeys K M).Coherent c where
  sets_unique := .nil
  map_unique := .nil
  target := fun _ hm => absurd hm List.not_mem_nil
  sets_within := fun _ => Nat.zero_le _
  map_within := fun _ => Nat.zero_le _

/-- Taking entries out keeps the tables coherent if the mappings to a key set go with it. -/
lemma Coherent.retain (h : t.Coherent c) (p : GroupKeySet → Bool) (r : GroupMapping → Bool)
    (hgo : ∀ s m, s.name = m.target → r m = true → p s = true) :
    Coherent c (⟨t.sets.retain p, t.map.retain r⟩ : GroupKeys K M) where
  sets_unique := h.sets_unique.filter p
  map_unique := h.map_unique.filter r
  target := by
    intro m hm
    obtain ⟨hm, hr⟩ := List.mem_filter.mp hm
    obtain ⟨s, hs, hname⟩ := h.target m hm
    exact ⟨s, List.mem_filter.mpr ⟨hs, hgo s m hname hr⟩, hname⟩
  sets_within := fun fabric => (held_filter_le p fabric).trans (h.sets_within fabric)
  map_within := fun fabric => (held_filter_le r fabric).trans (h.map_within fabric)

/-- Entries that were not there and fit the quota of their fabric keep the tables coherent. -/
lemma Coherent.append_set (h : t.Coherent c) {set : GroupKeySet} {sets : BoundedVec GroupKeySet K}
    (hsets : sets.toList = t.sets.toList ++ [set]) (hnew : ∀ s ∈ t.sets.toList, s.name ≠ set.name)
    (hlt : t.countSets set.fabricIndex < c.groupKeysPerFabric) : Coherent c { t with sets := sets } where
  sets_unique := by
    rw [hsets]
    exact h.sets_unique.append_singleton hnew
  map_unique := h.map_unique
  target := by
    intro m hm
    obtain ⟨s, hs, hname⟩ := h.target m hm
    refine ⟨s, ?_, hname⟩
    rw [hsets]
    exact List.mem_append_left _ hs
  sets_within := by
    intro fabric
    have hle := h.sets_within fabric
    rw [countSets, hsets, held_append_singleton]
    rw [countSets] at hle hlt
    split_ifs with heq
    · subst heq
      exact hlt
    · exact hle
  map_within := h.map_within

/-- A key set that takes the place of the one with its name keeps the tables coherent. -/
lemma Coherent.update_set (h : t.Coherent c) (set : GroupKeySet) :
    Coherent c (⟨t.sets.update (fun s => decide (s.name = set.name)) fun _ => set, t.map⟩ :
      GroupKeys K M) := by
  have hname : ∀ s : GroupKeySet, decide (s.name = set.name) = true → set.name = s.name := by
    intro s hs
    exact (of_decide_eq_true hs).symm
  have hnames : ((t.sets.update (fun s => decide (s.name = set.name)) fun _ => set).toList.map
      GroupKeySet.name) = t.sets.toList.map GroupKeySet.name := map_modifyFirst_of_match hname _
  refine ⟨h.sets_unique.modifyFirst_of_match hname, h.map_unique, ?_, ?_, h.map_within⟩
  · intro m hm
    obtain ⟨s, hs, hsname⟩ := h.target m hm
    have hmem : m.target ∈ t.sets.toList.map GroupKeySet.name := List.mem_map.mpr ⟨s, hs, hsname⟩
    rw [← hnames] at hmem
    exact List.mem_map.mp hmem
  · intro fabric
    have howner : ∀ s : GroupKeySet, decide (s.name = set.name) = true →
        set.fabricIndex = s.fabricIndex := fun s hs => congrArg Prod.fst (hname s hs)
    exact (held_congr (map_modifyFirst_of_match howner _) fabric).trans_le (h.sets_within fabric)

/-- A group that was not mapped, mapped to a key set that is there. -/
lemma Coherent.append_mapping (h : t.Coherent c) {m : GroupMapping}
    (hmap : map.toList = t.map.toList ++ [m]) (hnew : ∀ m' ∈ t.map.toList, m'.name ≠ m.name)
    (htarget : ∃ s ∈ t.sets.toList, s.name = m.target)
    (hlt : t.countGroups m.fabricIndex < c.groupsPerFabric) : Coherent c { t with map := map } where
  sets_unique := h.sets_unique
  map_unique := by
    rw [hmap]
    exact h.map_unique.append_singleton hnew
  target := by
    intro m' hm'
    rw [hmap] at hm'
    rcases List.mem_append.mp hm' with hm' | hm'
    · exact h.target m' hm'
    · rw [List.mem_singleton.mp hm']
      exact htarget
  sets_within := h.sets_within
  map_within := by
    intro fabric
    have hle := h.map_within fabric
    rw [countGroups, hmap, held_append_singleton]
    rw [countGroups] at hle hlt
    split_ifs with heq
    · subst heq
      exact hlt
    · exact hle

/-- A mapping redirected to a key set that is there. -/
lemma Coherent.update_mapping (h : t.Coherent c) {fabric : FabricIndex} (group : GroupId)
    {keySet : KeySetId} (htarget : ∃ s ∈ t.sets.toList, s.name = (fabric, keySet)) :
    Coherent c (⟨t.sets, t.map.update (fun m => decide (m.name = (fabric, group)))
      fun m => { m with keySet := keySet }⟩ : GroupKeys K M) where
  sets_unique := h.sets_unique
  map_unique := h.map_unique.modifyFirst fun _ => rfl
  target := by
    intro m hm
    rcases mem_modifyFirst hm with hm | ⟨m, -, hname, rfl⟩
    · exact h.target m hm
    · have hfabric : m.fabricIndex = fabric := congrArg Prod.fst (of_decide_eq_true hname)
      rw [GroupMapping.target, hfabric]
      exact htarget
  sets_within := h.sets_within
  map_within := by
    intro fabric
    have howner : ∀ m : GroupMapping, ({ m with keySet := keySet } : GroupMapping).fabricIndex =
        m.fabricIndex := fun _ => rfl
    exact (held_congr (map_modifyFirst howner _) fabric).trans_le (h.map_within fabric)

/-- A replacement leaves the tables coherent exactly if it names no group twice. -/
lemma replaceMap_coherent_iff (h : t.Coherent c) {fabric : FabricIndex}
    {entries : List (GroupId × KeySetId)} (hmap : map.toList = t.replaced fabric entries)
    (hle : entries.length ≤ c.groupsPerFabric) (hthere : ∀ e ∈ entries, t.keySet fabric e.2 ≠ none) :
    Coherent c { t with map := map } ↔ (entries.map Prod.fst).Nodup := by
  have hnames : (mappings fabric entries).map GroupMapping.name =
      (entries.map Prod.fst).map (Prod.mk fabric) := by
    simp [mappings, GroupMapping.name]
  have hinjective : Function.Injective (Prod.mk fabric : GroupId → FabricIndex × GroupId) :=
    Prod.mk_right_injective fabric
  constructor
  · intro hcoherent
    have hunique := hcoherent.map_unique
    rw [KeysUnique, hmap, replaced, List.map_append, hnames] at hunique
    exact ((List.nodup_append.mp hunique).2.1).of_map _
  · intro hnodup
    refine ⟨h.sets_unique, ?_, ?_, h.sets_within, ?_⟩
    · rw [KeysUnique, hmap, replaced, List.map_append, hnames, List.nodup_append]
      refine ⟨h.map_unique.filter _, hnodup.map hinjective, ?_⟩
      intro name hother name' hown heq
      obtain ⟨m, hm, rfl⟩ := List.mem_map.mp hother
      obtain ⟨group, -, rfl⟩ := List.mem_map.mp hown
      have hne : m.fabricIndex ≠ fabric := by simpa using (List.mem_filter.mp hm).2
      exact hne (congrArg Prod.fst heq)
    · intro m hm
      rw [hmap] at hm
      rcases List.mem_append.mp hm with hm | hm
      · exact h.target m (List.mem_of_mem_filter hm)
      · obtain ⟨e, he, rfl⟩ := List.mem_map.mp hm
        exact exists_of_keySet_ne_none (hthere e he)
    · intro k
      rw [countGroups, hmap, held_replaced]
      split_ifs
      · exact hle
      · exact h.map_within k

/-! ## Runs -/

section runs

variable {F : Finset FabricIndex}

/-- An operation of a fabric in the set leaves all entries with the fabrics in the set. -/
lemma Over.step (h : t.Over F) (hcoherent : t.Coherent c) (hcheck : Check c K M)
    (hF : F.card ≤ c.fabrics) {op : Op} (hop : op.fabric ∈ F) : (t.step c op).Over F := by
  cases op with
  | writeKeySet set =>
    rw [GroupKeys.step, perform]
    rcases writeKeySet_cases c t set with ⟨e, hw, -⟩ | hw | ⟨-, -, sets, hsets, hw⟩
    · rw [hw]
      exact h
    · rw [hw]
      refine ⟨?_, h.map⟩
      intro s hs
      rcases mem_modifyFirst hs with hs | ⟨-, -, -, rfl⟩
      · exact h.sets s hs
      · exact hop
    · rw [hw]
      refine ⟨?_, h.map⟩
      intro s hs
      rw [hsets] at hs
      rcases List.mem_append.mp hs with hs | hs
      · exact h.sets s hs
      · rw [List.mem_singleton.mp hs]
        exact hop
  | removeKeySet fabric id =>
    rw [GroupKeys.step, perform]
    rcases removeKeySet_cases t fabric id with ⟨e, hr, -⟩ | hr
    · rw [hr]
      exact h
    · rw [hr]
      exact ⟨fun s hs => h.sets s (List.mem_of_mem_filter hs),
        fun m hm => h.map m (List.mem_of_mem_filter hm)⟩
  | mapGroup fabric group keySet =>
    rw [GroupKeys.step, perform]
    rcases mapGroup_cases c t fabric group keySet with
      ⟨e, hm, -⟩ | ⟨-, hm | ⟨-, -, map, hmap, hm⟩⟩
    · rw [hm]
      exact h
    · rw [hm]
      refine ⟨h.sets, ?_⟩
      intro m hm
      rcases mem_modifyFirst hm with hm | ⟨m', hm', -, rfl⟩
      · exact h.map m hm
      · exact h.map m' hm'
    · rw [hm]
      refine ⟨h.sets, ?_⟩
      intro m hm
      rw [hmap] at hm
      rcases List.mem_append.mp hm with hm | hm
      · exact h.map m hm
      · rw [List.mem_singleton.mp hm]
        exact hop
  | replaceMap fabric entries =>
    rw [GroupKeys.step, perform]
    rcases replaceMap_cases c t fabric entries (hcoherent.replaced_fits hcheck hF h hop) with
      ⟨-, hr⟩ | ⟨-, hr⟩ | ⟨-, -, map, hmap, hr⟩
    · rw [hr]
      exact h
    · rw [hr]
      exact h
    · rw [hr]
      refine ⟨h.sets, ?_⟩
      intro m hm
      rw [hmap] at hm
      rcases List.mem_append.mp hm with hm | hm
      · exact h.map m (List.mem_of_mem_filter hm)
      · rw [fabricIndex_of_mem_mappings hm]
        exact hop
  | removeFabric fabric =>
    exact ⟨fun s hs => h.sets s (List.mem_of_mem_filter hs),
      fun m hm => h.map m (List.mem_of_mem_filter hm)⟩

/-- A refused operation is sound if it is refused for lack of space only at the quota. -/
lemma Sound.of_error (h : t.Coherent c) {op : Op} {e : Status} (hop : t.perform c op = (.error e, t))
    (hroom : e = .resourceExhausted → t.AtQuota c op) : Sound c t op where
  coherent := by
    rw [step, hop]
    exact h
  unchanged := by
    intro e' _
    rw [step, hop]
  room := by
    intro hexhausted
    rw [hop] at hexhausted
    cases hexhausted
    exact hroom rfl

/-- An operation that is carried out is sound if it leaves the tables coherent. -/
lemma Sound.of_ok {op : Op} {t' : GroupKeys K M} (hop : t.perform c op = (.ok (), t'))
    (h : t'.Coherent c) : Sound c t op where
  coherent := by
    rw [step, hop]
    exact h
  unchanged := by
    intro e herror
    rw [hop] at herror
    cases herror
  room := by
    intro hexhausted
    rw [hop] at hexhausted
    cases hexhausted

/-- An operation on coherent tables is sound exactly if it is not a replacement that names a group
twice and is carried out. -/
lemma sound_iff (h : t.Coherent c) (hcheck : Check c K M) (hF : F.card ≤ c.fabrics)
    (hover : t.Over F) {op : Op} (hop : op.fabric ∈ F) : Sound c t op ↔ t.NoRepeats c op := by
  cases op with
  | writeKeySet set =>
    refine iff_of_true ?_ trivial
    rcases writeKeySet_cases c t set with ⟨e, hw, hroom⟩ | hw | ⟨hnew, hlt, sets, hsets, hw⟩
    · refine .of_error h hw ?_
      intro he
      rcases hroom he with hquota | hfull
      · exact hquota
      · by_contra hbelow
        exact absurd hfull (h.sets_room hcheck hF hover hop (not_le.mp hbelow)).ne
    · exact .of_ok hw (h.update_set set)
    · exact .of_ok hw (h.append_set hsets hnew hlt)
  | removeKeySet fabric id =>
    refine iff_of_true ?_ trivial
    rcases removeKeySet_cases t fabric id with ⟨e, hr, hne⟩ | hr
    · exact .of_error h hr fun he => absurd he hne
    · refine .of_ok hr (h.retain _ _ ?_)
      intro s m hname hm
      rw [hname]
      exact hm
  | mapGroup fabric group keySet =>
    refine iff_of_true ?_ trivial
    rcases mapGroup_cases c t fabric group keySet with
      ⟨e, hm, hroom⟩ | ⟨htarget, hm | ⟨hnew, hlt, map, hmap, hm⟩⟩
    · refine .of_error h hm ?_
      intro he
      rcases hroom he with hquota | hfull
      · exact hquota
      · by_contra hbelow
        exact absurd hfull (h.map_room hcheck hF hover hop (not_le.mp hbelow)).ne
    · exact .of_ok hm (h.update_mapping group htarget)
    · exact .of_ok hm (h.append_mapping hmap hnew htarget hlt)
  | replaceMap fabric entries =>
    rcases replaceMap_cases c t fabric entries (h.replaced_fits hcheck hF hover hop) with
      ⟨hlong, hr⟩ | ⟨hmissing, hr⟩ | ⟨hle, hthere, map, hmap, hr⟩
    · exact iff_of_true (.of_error h hr fun _ => hlong) (.inr (.inl hlong))
    · exact iff_of_true (.of_error h hr fun he => nomatch he) (.inr (.inr hmissing))
    · constructor
      · intro hsound
        have hcoherent := hsound.coherent
        rw [step, perform, hr] at hcoherent
        exact .inl ((replaceMap_coherent_iff h hmap hle hthere).mp hcoherent)
      · rintro (hnodup | hlong | ⟨e, he, hmissing⟩)
        · exact .of_ok hr ((replaceMap_coherent_iff h hmap hle hthere).mpr hnodup)
        · exact absurd hle (not_le.mpr hlong)
        · exact absurd hmissing (hthere e he)
  | removeFabric fabric =>
    refine iff_of_true (.of_ok rfl (h.retain _ _ ?_)) trivial
    intro s m hname hm
    have hfabric : s.fabricIndex = m.fabricIndex := congrArg Prod.fst hname
    rw [hfabric]
    exact hm

/-- Over every run of the operations for as many fabrics as the node has, the tables are coherent in
every state, no operation of a fabric within its quota fails for lack of space and a refused one changes
nothing, exactly if no replacement that is carried out names a group twice. -/
theorem coherent_iff_no_repeats (hcheck : Check c K M) (hF : F.card ≤ c.fabrics) {ops : List Op}
    (hops : ∀ op ∈ ops, op.fabric ∈ F) : Throughout (step c) (Sound c) (new : GroupKeys K M) ops ↔
      Throughout (step c) (NoRepeats c) (new : GroupKeys K M) ops := by
  refine Throughout.congr_of_allowed (W := fun op => op.fabric ∈ F)
    (I := fun t => t.Coherent c ∧ t.Over F) ?_ ?_ ?_ hops
  · rintro t op hop ⟨hcoherent, hover⟩
    exact sound_iff hcoherent hcheck hF hover hop
  · rintro t op hop ⟨hcoherent, hover⟩ hsound
    exact ⟨hsound.coherent, hover.step hcoherent hcheck hF hop⟩
  · exact ⟨coherent_new c, fun _ hs => absurd hs List.not_mem_nil,
      fun _ hm => absurd hm List.not_mem_nil⟩

end runs

/-! ## Fabrics apart -/

section apart

variable {other fabric : FabricIndex}

/-- What the tables hold of a fabric. -/
def ofFabric (t : GroupKeys K M) (fabric : FabricIndex) : List GroupKeySet × List GroupMapping :=
  (t.sets.toList.filter fun s => decide (s.fabricIndex = fabric),
    t.map.toList.filter fun m => decide (m.fabricIndex = fabric))

/-- Mappings of another fabric, appended as far as they fit. -/
lemma filter_pushAll (hne : other ≠ fabric) (entries : List (GroupId × KeySetId))
    (map : BoundedVec GroupMapping M) :
    (pushAll map (mappings other entries)).2.toList.filter (fun m => decide (m.fabricIndex = fabric)) =
      map.toList.filter fun m => decide (m.fabricIndex = fabric) := by
  induction entries generalizing map with
  | nil => rfl
  | cons e entries ih =>
    rw [mappings, List.map_cons, pushAll]
    cases hpush : map.push ⟨other, e.1, e.2⟩ with
    | none => rfl
    | some map' =>
      dsimp only
      rw [← mappings, ih, (BoundedVec.push_eq_some_iff.mp hpush).2]
      simp [hne]

/-- What one fabric does leaves what the tables hold of another, whether it is refused, done or given up
half-way for lack of room. -/
lemma ofFabric_step (t : GroupKeys K M) {op : Op} (hne : op.fabric ≠ fabric) :
    (t.step c op).ofFabric fabric = t.ofFabric fabric := by
  cases op with
  | writeKeySet set =>
    change set.fabricIndex ≠ fabric at hne
    change (t.writeKeySet c set).2.ofFabric fabric = _
    rcases writeKeySet_cases c t set with ⟨e, hset, -⟩ | hset | ⟨-, -, sets, hsets, hset⟩
    · rw [hset]
    · rw [hset]
      refine Prod.ext (filter_modifyFirst fun s hname => ?_) rfl
      have hfabric : s.fabricIndex = set.fabricIndex := congrArg Prod.fst (of_decide_eq_true hname)
      simp [hfabric, hne]
    · simp [hset, ofFabric, hsets, hne]
  | removeKeySet other id =>
    change other ≠ fabric at hne
    change (t.removeKeySet other id).2.ofFabric fabric = _
    rcases removeKeySet_cases t other id with ⟨e, hset, -⟩ | hset
    · rw [hset]
    · rw [hset]
      refine Prod.ext (filter_filter_of_imp fun s hs => ?_) (filter_filter_of_imp fun m hm => ?_)
      · simp [GroupKeySet.name, of_decide_eq_true hs, hne.symm]
      · simp [GroupMapping.target, of_decide_eq_true hm, hne.symm]
  | mapGroup other group keySet =>
    change other ≠ fabric at hne
    change (t.mapGroup c other group keySet).2.ofFabric fabric = _
    rcases mapGroup_cases c t other group keySet with ⟨e, hmap, -⟩ | ⟨-, hmap | ⟨-, -, map, hmaps, hmap⟩⟩
    · rw [hmap]
    · rw [hmap]
      refine Prod.ext rfl (filter_modifyFirst fun m hname => ?_)
      have hfabric : m.fabricIndex = other := congrArg Prod.fst (of_decide_eq_true hname)
      simp [hfabric, hne]
    · simp [hmap, ofFabric, hmaps, hne]
  | replaceMap other entries =>
    change other ≠ fabric at hne
    change (t.replaceMap c other entries).2.ofFabric fabric = _
    unfold replaceMap
    split_ifs
    · rfl
    · rfl
    · refine Prod.ext rfl ((filter_pushAll hne entries _).trans (filter_filter_of_imp fun m hm => ?_))
      simp [of_decide_eq_true hm, hne.symm]
  | removeFabric other =>
    change other ≠ fabric at hne
    refine Prod.ext (filter_filter_of_imp fun s hs => ?_) (filter_filter_of_imp fun m hm => ?_)
    · simp [of_decide_eq_true hs, hne.symm]
    · simp [of_decide_eq_true hm, hne.symm]

/-- **Fabrics are apart.** Over every run of operations of other fabrics, a fabric keeps its key sets and
its mappings, in their order. -/
theorem others_leave_fabric (t : GroupKeys K M) {ops : List Op} (hops : ∀ op ∈ ops, op.fabric ≠ fabric) :
    (ops.foldl (step c) t).ofFabric fabric = t.ofFabric fabric := by
  induction ops generalizing t with
  | nil => rfl
  | cons op ops ih =>
    obtain ⟨hop, hops⟩ := List.forall_mem_cons.mp hops
    exact (ih (t.step c op) hops).trans (t.ofFabric_step hop)

end apart

/-! ## Runs on concrete values -/

namespace Sample

/-- A node of five fabrics, with the least quotas there are. -/
def config : GroupConfig := ⟨5, 3, 4⟩

def fabric : FabricIndex := ⟨1⟩

/-- A key set with one epoch key. -/
def keySet (id : KeySetId) : GroupKeySet :=
  ⟨fabric, id, .trustFirst, ⟨[⟨⟨Vector.replicate 16 7⟩, 0⟩], by decide⟩⟩

/-- Two key sets, and a group mapped to each of them. -/
def twoGroups : List Op :=
  [.writeKeySet (keySet 1), .writeKeySet (keySet 2), .replaceMap fabric [(⟨1⟩, 1), (⟨2⟩, 2)]]

/-- Fabric 2 writes the same key set, maps a group to it and is removed. -/
def otherFabric : List Op :=
  [.writeKeySet { keySet 1 with fabricIndex := ⟨2⟩ }, .mapGroup ⟨2⟩ ⟨1⟩ 1, .removeFabric ⟨2⟩]

/-- Two key sets, and one group mapped to both of them. -/
def oneGroupTwice : List Op :=
  [.writeKeySet (keySet 1), .writeKeySet (keySet 2), .replaceMap fabric [(⟨1⟩, 1), (⟨1⟩, 2)]]

end Sample

/-- Two groups are mapped and everything is as it is to be. -/
theorem two_groups_are_mapped :
    Check Sample.config 15 20 ∧ (∀ op ∈ Sample.twoGroups, op.fabric ∈ ({Sample.fabric} : Finset _)) ∧
    Throughout (step Sample.config) (Sound Sample.config) (new : GroupKeys 15 20) Sample.twoGroups := by
  have hcheck : Check Sample.config 15 20 := ⟨by decide, by decide⟩
  have hops : ∀ op ∈ Sample.twoGroups, op.fabric ∈ ({Sample.fabric} : Finset _) := by
    simp [Sample.twoGroups, Op.fabric, Sample.keySet]
  refine ⟨hcheck, hops, (coherent_iff_no_repeats hcheck (by decide) hops).mpr ?_⟩
  exact ⟨trivial, trivial, .inl (by decide), trivial⟩

/-- The fabric has two key sets and two groups, and another one comes and goes. -/
theorem others_leave_fabric_twoGroups :
    let t := Sample.twoGroups.foldl (step Sample.config) (new : GroupKeys 15 20)
    (t.ofFabric Sample.fabric).1.length = 2 ∧ (t.ofFabric Sample.fabric).2.length = 2 ∧
      (Sample.otherFabric.foldl (step Sample.config) t).ofFabric Sample.fabric = t.ofFabric Sample.fabric :=
  ⟨by decide +kernel, by decide +kernel, others_leave_fabric _ (by decide)⟩

/-- A replacement that names a group twice is carried out, and the group has two mappings. -/
theorem group_is_mapped_twice : Check Sample.config 15 20 ∧
    (∀ op ∈ Sample.oneGroupTwice, op.fabric ∈ ({Sample.fabric} : Finset _)) ∧
    ((Sample.oneGroupTwice.foldl (step Sample.config) (new : GroupKeys 15 20)).map.toList.map
      GroupMapping.name) = [(Sample.fabric, ⟨1⟩), (Sample.fabric, ⟨1⟩)] ∧
    ¬ Throughout (step Sample.config) (Sound Sample.config) (new : GroupKeys 15 20)
      Sample.oneGroupTwice := by
  have hmap : ((Sample.oneGroupTwice.foldl (step Sample.config)
      (new : GroupKeys 15 20)).map.toList.map GroupMapping.name) =
      [(Sample.fabric, ⟨1⟩), (Sample.fabric, ⟨1⟩)] := by decide +kernel
  refine ⟨⟨by decide, by decide⟩, ?_, hmap, ?_⟩
  · simp [Sample.oneGroupTwice, Op.fabric, Sample.keySet]
  · rintro ⟨-, -, hsound, -⟩
    have hunique := hsound.coherent.map_unique
    rw [KeysUnique] at hunique
    have hnodup : [(Sample.fabric, (⟨1⟩ : GroupId)), (Sample.fabric, ⟨1⟩)].Nodup := hmap ▸ hunique
    exact absurd hnodup (by decide)

end GroupKeys

end MatterKit.Group
