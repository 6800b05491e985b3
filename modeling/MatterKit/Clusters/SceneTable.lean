import MatterKit.Lib.KeyedVec
import MatterKit.Im.Ib
import MatterKit.Tlv.Reader

/-!
# The Scene Table

`clusters/scenes.rs`, the table that Scenes Management and Groups share: the scenes of every fabric, at
most half of the table for any one of them, and for each fabric the scene it recalled or stored last and
whether the endpoint still matches it.

A table is read through the keys of its entries. `keys` is what invariants of it are about, and `lookup`
what is stored under a key; `put_cases` and the lemmas after it say what each operation does to the two.
-/

namespace MatterKit.Scenes

open Lib Tlv

/-- Source: `NAME_MAX`. -/
def nameMax : ℕ := 16

/-- Source: `SCENE_MAX`. -/
def sceneMax : UInt8 := 254

/-- Source: `TRANSITION_MAX`. -/
def transitionMax : UInt32 := 60000000

/-- Source: `CAPACITY_MAX`. -/
def capacityMax : UInt8 := 253

/-- What names a scene: the three fields that `SceneTable::find` compares. -/
structure SceneKey where
  fabric : FabricIndex
  group : GroupId
  scene : UInt8
  deriving DecidableEq

/-- One row of the table. The name is the octets in use.
Source: `Entry`. -/
structure Entry (EFS : ℕ) extends SceneKey where
  nameOctets : BoundedVec UInt8 nameMax
  transition : UInt32
  fields : BoundedVec UInt8 EFS

/-- Source: `Entry::name`. -/
def Entry.name {EFS : ℕ} (e : Entry EFS) : String := (fromUtf8 e.nameOctets.toList).getD ""

/-- Source: `FabricInfo`. -/
structure FabricInfo where
  fabric : FabricIndex
  currentScene : UInt8
  currentGroup : GroupId
  valid : Bool

/-- The scene that is current. -/
def FabricInfo.key (i : FabricInfo) : SceneKey := ⟨i.fabric, i.currentGroup, i.currentScene⟩

/-- `N` entries across every fabric, `EFS` octets of field sets in each, and `F` fabrics whose current
scene is kept. `names` is the SceneNames feature.
Source: `SceneTable`. -/
structure SceneTable (N EFS F : ℕ) where
  entries : BoundedVec (Entry EFS) N
  info : BoundedVec FabricInfo F
  names : Bool

/-- What a scene is, apart from its key. -/
structure Scene where
  name : String
  transition : UInt32
  fields : List UInt8

/-- What an entry stores. -/
def Entry.content {EFS : ℕ} (e : Entry EFS) : Scene := ⟨e.name, e.transition, e.fields.toList⟩

namespace SceneTable

variable {N EFS F : ℕ}

/-- Source: `SceneTable::new`. -/
def new (names : Bool) : SceneTable N EFS F := ⟨.empty, .empty, names⟩

variable (t : SceneTable N EFS F)

/-- Source: `SceneTable::per_fabric`. -/
def perFabric (_ : SceneTable N EFS F) : ℕ :=
  if capacityMax.toNat < N / 2 then capacityMax.toNat else N / 2

/-- Source: `SceneTable::len_of_fabric`. -/
def lenOfFabric (fabric : FabricIndex) : ℕ :=
  t.entries.toList.countP fun e => decide (e.fabric = fabric)

/-- Source: `SceneTable::capacity`. -/
def capacity (fabric : FabricIndex) : UInt8 :=
  let mine := t.perFabric - t.lenOfFabric fabric
  let whole := N - t.entries.toList.length
  UInt8.ofNat (min (min mine whole) capacityMax.toNat)

/-- Source: `SceneTable::find`, with the entry in place of its index. -/
def find (key : SceneKey) : Option (Entry EFS) :=
  t.entries.toList.find? fun e => decide (e.toSceneKey = key)

/-- Source: `SceneTable::contains`. -/
def contains (key : SceneKey) : Bool := (t.find key).isSome

/-- Source: `SceneTable::invalidate`. -/
def invalidate : SceneTable N EFS F :=
  { t with info := t.info.map fun i => { i with valid := false } }

/-- A fabric has just recalled or stored a scene.
Source: `SceneTable::note`. -/
def note (key : SceneKey) : SceneTable N EFS F :=
  let info := t.info.map fun i =>
    if i.fabric = key.fabric then
      { i with currentScene := key.scene, currentGroup := key.group, valid := true }
    else { i with valid := false }
  if info.toList.any fun i => decide (i.fabric = key.fabric) then { t with info := info }
  else { t with info := (info.push ⟨key.fabric, key.scene, key.group, true⟩).getD info }

/-- The octets of a name that are stored.
Source: `SceneTable::put`, `stored`. -/
def storedName (name : String) : BoundedVec UInt8 nameMax :=
  .ofTake nameMax (asBytes (if t.names then name else ""))

/-- Adds or replaces a scene.
Source: `SceneTable::put`. -/
def put (key : SceneKey) (name : String) (transition : UInt32) (fields : List UInt8) :
    Im.Status × SceneTable N EFS F :=
  match BoundedVec.ofList? EFS fields with
  | none => (.resourceExhausted, t)
  | some fields =>
    if t.contains key then
      (.success, { t with
        entries := t.entries.update (fun e => decide (e.toSceneKey = key)) fun e =>
          { e with nameOctets := t.storedName name, transition := transition, fields := fields } })
    else if t.perFabric ≤ t.lenOfFabric key.fabric then (.resourceExhausted, t)
    else
      match t.entries.push
        { key with
          nameOctets := t.storedName name, transition := transition, fields := fields } with
      | some entries => (.success, { t with entries := entries })
      | none => (.resourceExhausted, t)

/-- Source: `SceneTable::remove_fabric`. -/
def removeFabric (fabric : FabricIndex) : SceneTable N EFS F :=
  { t with
    entries := t.entries.retain fun e => decide (e.fabric ≠ fabric)
    info := t.info.retain fun i => decide (i.fabric ≠ fabric) }

/-- Keeps the scenes whose keys satisfy a condition. -/
def retainKeys (p : SceneKey → Bool) : SceneTable N EFS F :=
  { t with entries := t.entries.retain fun e => p e.toSceneKey }

/-- Source: `ScenePurge::remove_group_scenes`. -/
def removeGroupScenes (fabric : FabricIndex) (group : GroupId) : SceneTable N EFS F :=
  t.retainKeys fun k => !(decide (k.fabric = fabric) && decide (k.group = group))

/-- Source: `ScenePurge::remove_grouped_scenes`. -/
def removeGroupedScenes (fabric : FabricIndex) : SceneTable N EFS F :=
  t.retainKeys fun k => !(decide (k.fabric = fabric) && decide (k.group.val ≠ 0))

/-! ## Keys and contents -/

/-- The keys of the entries. -/
def keys : List SceneKey := t.entries.toList.map Entry.toSceneKey

/-- What is stored under a key. -/
def lookup (key : SceneKey) : Option Scene := (t.find key).map Entry.content

/-- Every scene once, and no fabric over its share. -/
structure Bounded : Prop where
  nodup : t.keys.Nodup
  share : ∀ fabric, t.lenOfFabric fabric ≤ t.perFabric

/-- A key is current for its fabric. -/
def Current (key : SceneKey) : Prop := ∃ i ∈ t.info.toList, i.valid = true ∧ i.key = key

variable {t}

lemma contains_iff {key : SceneKey} : t.contains key = true ↔ key ∈ t.keys := by
  simp [contains, find, keys]

lemma lookup_isSome {key : SceneKey} : (t.lookup key).isSome = true ↔ key ∈ t.keys := by
  rw [lookup, Option.isSome_map, ← contains_iff, contains]

/-- How many scenes a fabric holds is a matter of the keys. -/
lemma lenOfFabric_eq (fabric : FabricIndex) :
    t.lenOfFabric fabric = t.keys.countP fun k => decide (k.fabric = fabric) := by
  rw [keys, List.countP_map]
  rfl

/-- What an operation may do to the keys: leave some out, or append one that is new to a fabric with room
for it. -/
inductive Rekeyed (t t' : SceneTable N EFS F) : Prop
  | sublist (h : t'.keys.Sublist t.keys)
  | append (key : SceneKey) (h : t'.keys = t.keys ++ [key]) (hnew : key ∉ t.keys)
      (hroom : t.lenOfFabric key.fabric < t.perFabric)

/-- So every scene stays there once, and every fabric keeps to its share. -/
lemma Bounded.rekeyed {t' : SceneTable N EFS F} (h : t.Bounded) (hkeys : Rekeyed t t') : t'.Bounded := by
  have hshare : t'.perFabric = t.perFabric := rfl
  cases hkeys with
  | sublist hsub =>
    refine ⟨h.nodup.sublist hsub, fun fabric => ?_⟩
    rw [hshare, lenOfFabric_eq]
    exact (hsub.countP_le).trans ((lenOfFabric_eq fabric).symm.trans_le (h.share fabric))
  | append key heq hnew hroom =>
    refine ⟨?_, fun fabric => ?_⟩
    · rw [heq]
      exact List.nodup_append.mpr ⟨h.nodup, List.nodup_singleton _, by
        rintro a ha b hb rfl
        rw [List.mem_singleton] at hb
        exact hnew (hb ▸ ha)⟩
    · have hold := h.share fabric
      rw [lenOfFabric_eq] at hold hroom
      rw [hshare, lenOfFabric_eq, heq, List.countP_append, List.countP_singleton]
      split
      case isTrue hfabric =>
        obtain rfl := of_decide_eq_true hfabric
        omega
      case isFalse => omega

/-- What a name that is stored reads as. -/
def readName (t : SceneTable N EFS F) (name : String) : String :=
  (fromUtf8 (t.storedName name).toList).getD ""

/-- A name that fits reads as it was given, where names are supported. -/
lemma readName_of_fits {name : String} (h : t.names = true → (asBytes name).length ≤ nameMax) :
    t.readName name = if t.names then name else "" := by
  have hlength : (asBytes (if t.names then name else "")).length ≤ nameMax := by
    split
    case isTrue hnames => exact h hnames
    case isFalse => decide
  have hstored : (t.storedName name).toList = asBytes (if t.names then name else "") :=
    List.take_of_length_le hlength
  rw [readName, hstored, fromUtf8_asBytes, Option.getD_some]

/-- The two things that come of putting a scene into the table. -/
lemma put_cases (t : SceneTable N EFS F) (key : SceneKey) (name : String) (transition : UInt32)
    (fields : List UInt8) : (t.put key name transition fields).2 = t ∧
        (t.put key name transition fields).1 = .resourceExhausted ∧
        (fields.length ≤ EFS → key ∉ t.keys ∧ (t.perFabric ≤ t.lenOfFabric key.fabric ∨
          t.entries.toList.length = N)) ∨
      (t.put key name transition fields).1 = .success ∧
        Rekeyed t (t.put key name transition fields).2 ∧
        (t.put key name transition fields).2.info = t.info ∧
        (t.put key name transition fields).2.names = t.names ∧
        (t.put key name transition fields).2.keys =
          (if key ∈ t.keys then t.keys else t.keys ++ [key]) ∧
        (t.put key name transition fields).2.lookup =
          Function.update t.lookup key (some ⟨t.readName name, transition, fields⟩) := by
  rw [put]
  cases hfields : BoundedVec.ofList? EFS fields with
  | none =>
    refine .inl ⟨rfl, rfl, fun hle => ?_⟩
    rw [BoundedVec.ofList?, dif_pos hle] at hfields
    cases hfields
  | some kept =>
    have hkept : kept.toList = fields := by
      rw [BoundedVec.ofList?] at hfields
      split at hfields
      · cases hfields
        rfl
      · cases hfields
    dsimp only
    by_cases hmem : key ∈ t.keys
    · let replaced (e : Entry EFS) : Entry EFS :=
        { e with nameOctets := t.storedName name, transition := transition, fields := kept }
      have hkeys : (t.entries.update (fun e => decide (e.toSceneKey = key)) replaced).toList.map
          Entry.toSceneKey = t.keys :=
        map_modifyFirst (g := Entry.toSceneKey) (f := replaced) (fun _ => rfl) _
      rw [if_pos (contains_iff.mpr hmem)]
      refine .inr ⟨rfl, .sublist (by rw [keys, hkeys]), rfl, rfl, ?_, ?_⟩
      · rw [if_pos hmem, keys, hkeys]
      · funext key'
        rw [lookup, find]
        simp only [BoundedVec.update]
        rw [find?_key_modifyFirst (k := Entry.toSceneKey) (f := replaced) (fun _ => rfl)]
        by_cases hkey : key' = key
        · subst hkey
          obtain ⟨e, he⟩ := Option.isSome_iff_exists.mp (contains_iff.mpr hmem)
          rw [find] at he
          rw [if_pos rfl, he, Function.update_self, Option.map_some, Option.map_some, ← hkept]
          rfl
        · rw [if_neg hkey, Function.update_of_ne hkey]
          rfl
    · rw [if_neg (mt contains_iff.mp hmem)]
      by_cases hshare : t.perFabric ≤ t.lenOfFabric key.fabric
      · rw [if_pos hshare]
        exact .inl ⟨rfl, rfl, fun _ => ⟨hmem, .inl hshare⟩⟩
      · rw [if_neg hshare]
        cases hpush : t.entries.push
          { key with
            nameOctets := t.storedName name, transition := transition, fields := kept } with
        | none => exact .inl ⟨rfl, rfl, fun _ => ⟨hmem, .inr (BoundedVec.push_eq_none_iff.mp hpush)⟩⟩
        | some entries =>
          obtain ⟨-, hentries⟩ := BoundedVec.push_eq_some_iff.mp hpush
          have hkeys : entries.toList.map Entry.toSceneKey = t.keys ++ [key] := by
            rw [hentries, List.map_append]
            rfl
          refine .inr ⟨rfl, .append key hkeys hmem (Nat.lt_of_not_le hshare), rfl, rfl, ?_, ?_⟩
          · rw [if_neg hmem]
            exact hkeys
          · funext key'
            rw [lookup, find]
            dsimp only
            rw [hentries, List.find?_append]
            by_cases hkey : key' = key
            · subst hkey
              have hnone : t.entries.toList.find? (fun e => decide (e.toSceneKey = key')) = none :=
                Option.not_isSome_iff_eq_none.mp (mt contains_iff.mp hmem)
              rw [hnone, Function.update_self, Option.none_or, ← hkept]
              simp [Entry.content, Entry.name, readName]
            · have hlast : ([{ key with
                  nameOctets := t.storedName name, transition := transition, fields := kept }] :
                    List (Entry EFS)).find? (fun e => decide (e.toSceneKey = key')) = none := by
                simp [Ne.symm hkey]
              rw [hlast, Option.or_none, Function.update_of_ne hkey]
              rfl

/-- What is kept by a condition on the keys. -/
lemma keys_retainKeys (t : SceneTable N EFS F) (p : SceneKey → Bool) :
    (t.retainKeys p).keys = t.keys.filter p := by
  rw [keys, keys, List.filter_map]
  rfl

lemma lookup_retainKeys (t : SceneTable N EFS F) (p : SceneKey → Bool) (key : SceneKey) :
    (t.retainKeys p).lookup key = if p key then t.lookup key else none := by
  have hfind := find?_key_filter (k := Entry.toSceneKey) (l := t.entries.toList) p key
  rw [lookup, find]
  change ((t.entries.toList.filter fun e => p e.toSceneKey).find? _).map _ = _
  rw [hfind]
  split
  case isTrue => rfl
  case isFalse => rfl

/-- Under unique keys, erasing a scene keeps those with another key. -/
lemma eraseFirst_eq (h : t.keys.Nodup) (key : SceneKey) :
    t.entries.eraseFirst (fun e => decide (e.toSceneKey = key)) =
      t.entries.retain fun e => decide (e.toSceneKey ≠ key) := by
  have hlist := eraseP_key_eq_filter (k := Entry.toSceneKey) (l := t.entries.toList) h key
  rw [BoundedVec.eraseFirst, BoundedVec.retain, BoundedVec.mk.injEq]
  exact hlist

/-- Once a fabric has noted a scene, no other scene is current for any fabric. -/
lemma current_note {t : SceneTable N EFS F} {key key' : SceneKey}
    (h : (t.note key).Current key') : key' = key := by
  have hmap : ∀ i ∈ (t.info.map fun i =>
      if i.fabric = key.fabric then
        { i with currentScene := key.scene, currentGroup := key.group, valid := true }
      else { i with valid := false }).toList, i.valid = true → i.key = key := by
    intro i hi hvalid
    obtain ⟨j, -, rfl⟩ := List.mem_map.mp hi
    split at hvalid
    case isTrue hfabric =>
      rw [if_pos hfabric, FabricInfo.key, hfabric]
    case isFalse => cases hvalid
  obtain ⟨i, hi, hvalid, rfl⟩ := h
  rw [note] at hi
  split at hi
  case isTrue => exact hmap i hi hvalid
  case isFalse =>
    rw [BoundedVec.push] at hi
    split at hi
    case isTrue =>
      rcases List.mem_append.mp hi with hold | hnew
      · exact hmap i hold hvalid
      · rw [List.mem_singleton] at hnew
        rw [hnew, FabricInfo.key]
    case isFalse => exact hmap i hi hvalid

@[simp] lemma entries_note (key : SceneKey) : (t.note key).entries = t.entries := by
  rw [note]
  split <;> rfl

/-- Noting a scene leaves the scenes alone. -/
lemma keys_note (key : SceneKey) : (t.note key).keys = t.keys := by rw [keys, entries_note, keys]

lemma lookup_note (key : SceneKey) : (t.note key).lookup = t.lookup := by
  funext key'
  rw [lookup, find, entries_note, lookup, find]

/-- Nothing is current once everything has been invalidated. -/
lemma not_current_invalidate (key : SceneKey) : ¬t.invalidate.Current key := by
  rintro ⟨i, hi, hvalid, -⟩
  obtain ⟨j, -, rfl⟩ := List.mem_map.mp hi
  cases hvalid

end SceneTable

end MatterKit.Scenes
