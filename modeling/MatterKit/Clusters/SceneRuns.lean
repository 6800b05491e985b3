import MatterKit.Clusters.Scenes

/-!
# What a scene table remembers

Over any run of commands and purges, by any fabrics, every scene is in the table once and no fabric
holds more than half of it. What else one would want of the table is lost to one kind of step each. An
identifier is out of range only after a copy to it (`Command.InRange`). A current scene is missing only
after one was removed while it was current (`Op.KeepsCurrent`). A scene is not as it was stored last
only after a name that is too long, or a copy of a group for which there is no room (`Op.Exact`); and
such a copy, or a response that is not written, is all that changes the table for a request that is
refused (`coherent`).
-/

namespace MatterKit.Scenes

open Lib Tlv

variable {N EFS F : ℕ}

/-! ## The map of what was stored last -/

/-- What was stored last, by key. -/
abbrev Stored := SceneKey → Option Scene

/-- A name, where names are supported. -/
def keptName (names : Bool) (name : String) : String := if names then name else ""

/-- What a copy of a scene is. -/
def Scene.copied (names : Bool) (s : Scene) : Scene := { s with name := keptName names s.name }

/-- What a copy stores under a key, if anything. -/
def Stored.copied (stored : Stored) (names : Bool) (fabric : FabricIndex) (mode : UInt8)
    (groupFrom : GroupId) (sceneFrom : UInt8) (groupTo : GroupId) (sceneTo : UInt8) : Stored :=
  fun key =>
    if key.fabric = fabric ∧ key.group = groupTo then
      if containsFlag mode copyAllScenes then
        (stored ⟨fabric, groupFrom, key.scene⟩).map (Scene.copied names)
      else if key.scene = sceneTo then
        (stored ⟨fabric, groupFrom, sceneFrom⟩).map (Scene.copied names)
      else none
    else none

/-- What a command that comes to success stores, replaces or removes. -/
def Command.remember (names : Bool) (stored : Stored) (r : Request) (fabric : FabricIndex) :
    Command → Stored
  | .addScene group scene transition name sets =>
    Function.update stored ⟨fabric, group, scene⟩ (some ⟨keptName names name, transition, sets⟩)
  | .viewScene _ _ => stored
  | .removeScene group scene => Function.update stored ⟨fabric, group, scene⟩ none
  | .removeAllScenes group =>
    fun key => if key.fabric = fabric ∧ key.group = group then none else stored key
  | .storeScene group scene =>
    match r.captured with
    | none => stored
    | some captured =>
      let key : SceneKey := ⟨fabric, group, scene⟩
      Function.update stored key (some { (stored key).getD ⟨"", 0, []⟩ with fields := captured })
  | .recallScene _ _ _ | .getSceneMembership _ => stored
  | .copyScene mode groupFrom sceneFrom groupTo sceneTo =>
    fun key =>
      (stored.copied names fabric mode groupFrom sceneFrom groupTo sceneTo key).or (stored key)

/-! ## What a table is to be -/

namespace SceneTable

/-- Every scene once and no fabric over its share; and as far as it is asked for, identifiers in range,
current scenes present, and under each key what was stored there last. -/
structure Sound (ranged kept exact : Prop) (t : SceneTable N EFS F) (stored : Stored) : Prop where
  bounded : t.Bounded
  inRange : ranged → ∀ key ∈ t.keys, key.scene ≤ sceneMax
  current : kept → ∀ key, t.Current key → key ∈ t.keys
  lookup : exact → t.lookup = stored

variable {ranged kept exact : Prop}

/-- An empty table. -/
lemma sound_new (names : Bool) : Sound ranged kept exact (new names : SceneTable N EFS F) fun _ => none := by
  refine ⟨⟨List.nodup_nil, fun _ => Nat.zero_le _⟩, fun _ => nofun, ?_, fun _ => rfl⟩
  rintro - key ⟨i, hi, -⟩
  cases hi

variable {t : SceneTable N EFS F} {stored : Stored}

/-- What was stored last does not matter where it is not asked for. -/
lemma Sound.forget (h : t.Sound ranged kept False stored) (hexact : ¬exact) (stored' : Stored) :
    t.Sound ranged kept exact stored' :=
  ⟨h.bounded, h.inRange, h.current, fun hasked => absurd hasked hexact⟩

/-- A table that has been purged of scenes none of which was current. -/
lemma Sound.retainKeys (h : t.Sound ranged kept exact stored) {p : SceneKey → Bool}
    (hcurrent : kept → ∀ key, t.Current key → p key = true) :
    (t.retainKeys p).Sound ranged kept exact fun key => if p key then stored key else none := by
  have hsub : (t.retainKeys p).keys.Sublist t.keys := by
    rw [keys_retainKeys]
    exact List.filter_sublist
  refine ⟨h.bounded.rekeyed (.sublist hsub), fun hasked key hkey => h.inRange hasked key (hsub.subset hkey),
    fun hasked key hkey => ?_, fun hasked => ?_⟩
  · rw [keys_retainKeys]
    exact List.mem_filter.mpr ⟨h.current hasked key hkey, hcurrent hasked key hkey⟩
  · funext key
    rw [lookup_retainKeys, h.lookup hasked]

variable {key : SceneKey} {fabric : FabricIndex} {group : GroupId}

/-- A table in which a scene that it has is noted. -/
lemma Sound.note (h : t.Sound ranged kept exact stored) (hkey : key ∈ t.keys) :
    (t.note key).Sound ranged kept exact stored := by
  refine ⟨h.bounded.rekeyed (.sublist (by rw [keys_note])), ?_, ?_, ?_⟩
  · rw [keys_note]
    exact h.inRange
  · intro _ key' hcurrent
    rw [keys_note, current_note hcurrent]
    exact hkey
  · rw [lookup_note]
    exact h.lookup

/-- A scene is put into the table, or the table stays as it is. -/
lemma Sound.put (h : t.Sound ranged kept exact stored) (hrange : ranged → key.scene ≤ sceneMax) (name : String)
    (transition : UInt32) (fields : List UInt8) : (t.put key name transition fields).1 ≠ .success ∧
        (t.put key name transition fields).2 = t ∨ (t.put key name transition fields).1 = .success ∧
        key ∈ (t.put key name transition fields).2.keys ∧
        (t.put key name transition fields).2.Sound ranged kept exact
          (Function.update stored key (some ⟨t.readName name, transition, fields⟩)) := by
  rcases put_cases t key name transition fields with ⟨hsame, hstatus, -⟩ | ⟨hstatus, hkeyed, hinfo,
    -, hkeys, hlookup⟩
  · exact .inl ⟨by rw [hstatus]; decide, hsame⟩
  · have hmem : ∀ key', key' ∈ (t.put key name transition fields).2.keys ↔
        key' ∈ t.keys ∨ key' = key := by
      intro key'
      rw [hkeys]
      split
      case isTrue hold =>
        refine ⟨.inl, ?_⟩
        rintro (hmem | rfl)
        · exact hmem
        · exact hold
      case isFalse => rw [List.mem_append, List.mem_singleton]
    refine .inr ⟨hstatus, (hmem key).mpr (.inr rfl), h.bounded.rekeyed hkeyed, ?_, ?_, ?_⟩
    · intro hasked key' hkey'
      rcases (hmem key').mp hkey' with hold | rfl
      · exact h.inRange hasked key' hold
      · exact hrange hasked
    · rintro hasked key' ⟨i, hi, hvalid, rfl⟩
      rw [hinfo] at hi
      exact (hmem _).mpr (.inl (h.current hasked _ ⟨i, hi, hvalid, rfl⟩))
    · intro hasked
      rw [hlookup, h.lookup hasked]

/-- The name of an entry is short enough to be stored again. -/
lemma readName_name (t : SceneTable N EFS F) (e : Entry EFS) :
    t.readName e.name = keptName t.names e.name := by
  refine readName_of_fits fun _ => ?_
  rw [Entry.name]
  cases hname : fromUtf8 e.nameOctets.toList with
  | none => decide
  | some name =>
    rw [Option.getD_some, asBytes_of_fromUtf8 hname]
    exact e.nameOctets.length_le

/-- How many of the entries go under a key that the table does not have. -/
def newKeys (t : SceneTable N EFS F) (target : Entry EFS → SceneKey) (es : List (Entry EFS)) : ℕ :=
  es.countP fun e => decide (target e ∉ t.keys)

/-- There is room for the entries that go under a new key. -/
def RoomFor (t : SceneTable N EFS F) (fabric : FabricIndex) (target : Entry EFS → SceneKey)
    (es : List (Entry EFS)) : Prop :=
  t.lenOfFabric fabric + t.newKeys target es ≤ t.perFabric ∧ t.keys.length + t.newKeys target es ≤ N

/-- Room for a list of entries is room for the first and, once it is there, for the others. -/
lemma RoomFor.cons {fabric : FabricIndex} {target : Entry EFS → SceneKey} {e : Entry EFS}
    {es : List (Entry EFS)} {t' : SceneTable N EFS F} (h : t.RoomFor fabric target (e :: es))
    (hfabric : (target e).fabric = fabric) (hnew : target e ∉ es.map target)
    (hkeys : t'.keys = if target e ∈ t.keys then t.keys else t.keys ++ [target e]) :
    t'.RoomFor fabric target es := by
  have hrest : t'.newKeys target es = t.newKeys target es := by
    refine List.countP_congr fun e' he' => ?_
    have hne : target e' ≠ target e := fun heq => hnew (heq ▸ List.mem_map_of_mem he')
    rw [decide_eq_true_iff, decide_eq_true_iff, hkeys]
    split
    · rfl
    · simp [hne]
  obtain ⟨hshare, hlength⟩ := h
  rw [newKeys, List.countP_cons] at hshare hlength
  change t.lenOfFabric fabric + (t.newKeys target es + _) ≤ _ at hshare
  change _ + (t.newKeys target es + _) ≤ _ at hlength
  rw [RoomFor, hrest, lenOfFabric_eq, hkeys]
  rw [lenOfFabric_eq] at hshare
  have hsame : t'.perFabric = t.perFabric := rfl
  by_cases hmem : target e ∈ t.keys
  · rw [if_pos hmem]
    omega
  · rw [if_pos (decide_eq_true hmem)] at hshare hlength
    rw [if_neg hmem, List.countP_append, List.countP_singleton, if_pos (decide_eq_true hfabric),
      List.length_append, List.length_singleton]
    omega

/-- Entries for which there is room are put into the table, the last under each key to stay. -/
lemma Sound.putEntries {target : Entry EFS → SceneKey} {es : List (Entry EFS)}
    (h : t.Sound ranged kept exact stored) (hnodup : (es.map target).Nodup)
    (hfabric : ∀ e ∈ es, (target e).fabric = fabric)
    (hrange : ranged → ∀ e ∈ es, (target e).scene ≤ sceneMax) (hroom : t.RoomFor fabric target es) :
    (putEntries target t es).1 = .success ∧ (putEntries target t es).2.Sound ranged kept exact fun key =>
        ((es.find? fun e => decide (target e = key)).map fun e => e.content.copied t.names).or
          (stored key) := by
  induction es generalizing t stored with
  | nil => exact ⟨rfl, h⟩
  | cons e es ih =>
    obtain ⟨hnew, hnodup'⟩ := List.nodup_cons.mp hnodup
    obtain ⟨hfabric', hfabrics⟩ := List.forall_mem_cons.mp hfabric
    have hranges : ranged → _ := fun hasked => (List.forall_mem_cons.mp (hrange hasked)).2
    rcases put_cases t (target e) e.name e.transition e.fields.toList with ⟨-, -, hfull⟩ |
      ⟨hstatus, -, -, hnames, hkeys, -⟩
    · -- there is room for it
      obtain ⟨hmem, hfull⟩ := hfull e.fields.length_le
      obtain ⟨hshare, hlength⟩ := hroom
      rw [newKeys, List.countP_cons, if_pos (decide_eq_true hmem)] at hshare hlength
      rw [hfabric'] at hfull
      rw [keys, List.length_map] at hlength
      omega
    · obtain ⟨hfailed, -⟩ | ⟨-, -, hsound⟩ := h.put (fun hasked => hrange hasked e List.mem_cons_self)
        e.name e.transition e.fields.toList
      · exact absurd hstatus hfailed
      · obtain ⟨hsuccess, hrest⟩ := ih hsound hnodup' hfabrics hranges (hroom.cons hfabric' hnew hkeys)
        rw [SceneTable.putEntries, if_pos hstatus]
        refine ⟨hsuccess, ?_⟩
        convert hrest using 1
        funext key
        by_cases hkey : target e = key
        · subst hkey
          have hnone : es.find? (fun e' => decide (target e' = target e)) = none := by
            rw [List.find?_eq_none]
            intro e' he' heq
            exact hnew (List.mem_map.mpr ⟨e', he', of_decide_eq_true heq⟩)
          have hfirst : (e :: es).find? (fun e' => decide (target e' = target e)) = some e :=
            List.find?_cons_of_pos (p := fun e' => decide (target e' = target e)) (decide_eq_true rfl)
          rw [hfirst, hnone, Function.update_self, readName_name]
          rfl
        · have hothers : (e :: es).find? (fun e' => decide (target e' = key)) =
              es.find? fun e' => decide (target e' = key) :=
            List.find?_cons_of_neg (p := fun e' => decide (target e' = key)) (by simp [hkey])
          rw [hothers, Function.update_of_ne (Ne.symm hkey), hnames]

/-- Entries are put into the table as far as there is room. -/
lemma Sound.putEntries_room {target : Entry EFS → SceneKey} {es : List (Entry EFS)}
    (h : t.Sound ranged kept False stored) (hrange : ranged → ∀ e ∈ es, (target e).scene ≤ sceneMax) :
    (SceneTable.putEntries target t es).2.Sound ranged kept False stored := by
  induction es generalizing t with
  | nil => exact h
  | cons e es ih =>
    rw [SceneTable.putEntries]
    rcases h.put (fun hasked => hrange hasked e List.mem_cons_self) e.name e.transition e.fields.toList with
      ⟨hfailed, hsame⟩ | ⟨hstatus, -, hsound⟩
    · rw [if_neg hfailed, hsame]
      exact h
    · rw [if_pos hstatus]
      exact ih (hsound.forget id stored) fun hasked e' he' => hrange hasked e' (List.mem_cons_of_mem _ he')

/-! ## What a command comes to -/

/-- The keys stay when the field sets of a scene are replaced. -/
lemma keys_update_fields (t : SceneTable N EFS F) (key : SceneKey) (fields : BoundedVec UInt8 EFS) :
    ({ t with entries := t.entries.update (fun e => decide (e.toSceneKey = key)) fun e =>
      { e with fields := fields } } : SceneTable N EFS F).keys = t.keys :=
  map_modifyFirst (g := Entry.toSceneKey) (f := fun e : Entry EFS => { e with fields := fields })
    (fun _ => rfl) _

/-- The scene to be stored is put into the table, or the table stays as it is. -/
lemma Sound.storeCaptured (h : t.Sound ranged kept exact stored) (hrange : key.scene ≤ sceneMax)
    (captured : List UInt8) : (t.storeCaptured key captured).1 ≠ .success ∧ (t.storeCaptured key captured).2 = t ∨
      (t.storeCaptured key captured).1 = .success ∧ key ∈ (t.storeCaptured key captured).2.keys ∧
        (t.storeCaptured key captured).2.Sound ranged kept exact (Function.update stored key
          (some { (stored key).getD ⟨"", 0, []⟩ with fields := captured })) := by
  rw [SceneTable.storeCaptured]
  by_cases hmem : key ∈ t.keys
  · rw [if_pos (contains_iff.mpr hmem)]
    cases hfields : BoundedVec.ofList? EFS captured with
    | none => exact .inl ⟨nofun, rfl⟩
    | some fields =>
      have hcaptured : fields.toList = captured := by
        rw [BoundedVec.ofList?] at hfields
        split at hfields
        · cases hfields
          rfl
        · cases hfields
      have hkeys := keys_update_fields t key fields
      refine .inr ⟨rfl, by dsimp only; rwa [hkeys], h.bounded.rekeyed (.sublist (by rw [hkeys])), ?_,
        ?_, ?_⟩
      · dsimp only
        rw [hkeys]
        exact h.inRange
      · intro hasked key' hcurrent
        dsimp only
        rw [hkeys]
        exact h.current hasked key' hcurrent
      · intro hasked
        funext key'
        let replaced (e : Entry EFS) : Entry EFS := { e with fields := fields }
        have hfind := find?_key_modifyFirst (k := Entry.toSceneKey) (f := replaced)
          (l := t.entries.toList) (fun _ => rfl) key key'
        change ((modifyFirst _ replaced t.entries.toList).find? _).map Entry.content = _
        rw [hfind]
        by_cases hkey : key' = key
        · subst hkey
          obtain ⟨e, he⟩ := Option.isSome_iff_exists.mp (contains_iff.mpr hmem)
          have hstored : stored key' = some e.content := by
            rw [← h.lookup hasked, SceneTable.lookup, he, Option.map_some]
          rw [find] at he
          rw [if_pos rfl, he, Function.update_self, hstored, ← hcaptured]
          rfl
        · rw [if_neg hkey, Function.update_of_ne hkey, ← h.lookup hasked]
          rfl
  · rw [if_neg (mt contains_iff.mp hmem)]
    have hnone : exact → stored key = none := by
      intro hasked
      rw [← h.lookup hasked]
      exact Option.not_isSome_iff_eq_none.mp (mt lookup_isSome.mp hmem)
    have hname : t.readName "" = "" := by
      rw [readName_of_fits (fun _ => by decide)]
      split <;> rfl
    rcases h.put (fun _ => hrange) "" 0 captured with hfailed | ⟨hstatus, hkey, hsound⟩
    · exact .inl hfailed
    · rw [hname] at hsound
      refine .inr ⟨hstatus, hkey, hsound.bounded, hsound.inRange, hsound.current, fun hasked => ?_⟩
      rw [hnone hasked]
      exact hsound.lookup hasked

/-- A scene that is not current is removed, or there is none to remove. -/
lemma Sound.removeScene (h : t.Sound ranged kept exact stored) (r : Request) {scene : UInt8}
    (hcurrent : kept → r.groupKnown fabric group = true → ¬t.Current ⟨fabric, group, scene⟩) :
    (t.removeScene r fabric group scene).1 ≠ .success ∧ (t.removeScene r fabric group scene).2 = t ∨
      (t.removeScene r fabric group scene).1 = .success ∧
        (t.removeScene r fabric group scene).2.Sound ranged kept exact
          (Function.update stored ⟨fabric, group, scene⟩ none) := by
  rw [SceneTable.removeScene]
  split_ifs with hunknown habsent
  · exact .inl ⟨nofun, rfl⟩
  · exact .inl ⟨nofun, rfl⟩
  · have hknown : r.groupKnown fabric group = true := by simpa using hunknown
    have hkept : kept → ∀ key, t.Current key →
        decide (key ≠ (⟨fabric, group, scene⟩ : SceneKey)) = true := by
      intro hasked key hkey
      refine decide_eq_true ?_
      rintro rfl
      exact hcurrent hasked hknown hkey
    have hforgotten : Function.update stored (⟨fabric, group, scene⟩ : SceneKey) none =
        fun key => if decide (key ≠ ⟨fabric, group, scene⟩) then stored key else none := by
      funext key
      by_cases hkey : key = ⟨fabric, group, scene⟩
      · simp [hkey]
      · simp [hkey]
    refine .inr ⟨rfl, ?_⟩
    dsimp only
    rw [eraseFirst_eq h.bounded.nodup, hforgotten]
    exact h.retainKeys hkept

/-- A group none of whose scenes is current is cleared, or it is not known. -/
lemma Sound.removeAllScenes (h : t.Sound ranged kept exact stored) (r : Request)
    (hcurrent : kept → r.groupKnown fabric group = true → ∀ scene, ¬t.Current ⟨fabric, group, scene⟩) :
    (t.removeAllScenes r fabric group).1 ≠ .success ∧ (t.removeAllScenes r fabric group).2 = t ∨
      (t.removeAllScenes r fabric group).1 = .success ∧
        (t.removeAllScenes r fabric group).2.Sound ranged kept exact fun key =>
          if key.fabric = fabric ∧ key.group = group then none else stored key := by
  rw [SceneTable.removeAllScenes]
  split_ifs with hknown
  · have hkept : kept → ∀ key, t.Current key →
        (!(decide (key.fabric = fabric) && decide (key.group = group))) = true := by
      rintro hasked ⟨f, g, scene⟩ hkey
      by_contra hnot
      obtain ⟨rfl, rfl⟩ : f = fabric ∧ g = group := by simpa using hnot
      exact hcurrent hasked hknown scene hkey
    refine .inr ⟨rfl, ?_⟩
    convert h.retainKeys hkept using 1
    funext key
    by_cases hfabric : key.fabric = fabric <;> by_cases hgroup : key.group = group <;>
      simp [hfabric, hgroup]
  · exact .inl ⟨nofun, rfl⟩

/-- The endpoint's state is stored, or the table stays as it is. -/
lemma Sound.store (h : t.Sound ranged kept exact stored) (r : Request) (fabric : FabricIndex) (group : GroupId)
    (scene : UInt8) : (t.store r fabric group scene).1 ≠ .success ∧ (t.store r fabric group scene).2 = t ∨
      (t.store r fabric group scene).1 = .success ∧
        (t.store r fabric group scene).2.Sound ranged kept exact
          ((Command.storeScene group scene).remember t.names stored r fabric) := by
  rw [SceneTable.store, Command.remember]
  split_ifs with hunknown hrange
  · exact .inl ⟨nofun, rfl⟩
  · exact .inl ⟨nofun, rfl⟩
  · cases r.captured with
    | none => exact .inl ⟨nofun, rfl⟩
    | some captured =>
      dsimp only
      have hscene : (⟨fabric, group, scene⟩ : SceneKey).scene ≤ sceneMax := UInt8.not_lt.mp hrange
      rcases h.storeCaptured hscene captured with
        ⟨hfailed, hsame⟩ | ⟨hstatus, hkey, hsound⟩
      · rw [if_neg hfailed]
        exact .inl ⟨hfailed, hsame⟩
      · rw [if_pos hstatus]
        exact .inr ⟨hstatus, hsound.note hkey⟩

/-- A scene is added, or the table stays as it is. -/
lemma Sound.addScene (h : t.Sound ranged kept exact stored) (r : Request) (fabric : FabricIndex)
    (group : GroupId) (scene : UInt8) (transition : UInt32) {name : String} (sets : List UInt8)
    (hname : exact → t.names = true → (asBytes name).length ≤ nameMax) :
    (t.addScene r fabric group scene transition name sets).1 ≠ .success ∧
        (t.addScene r fabric group scene transition name sets).2 = t ∨
      (t.addScene r fabric group scene transition name sets).1 = .success ∧
        (t.addScene r fabric group scene transition name sets).2.Sound ranged kept exact
          (Function.update stored ⟨fabric, group, scene⟩
            (some ⟨keptName t.names name, transition, sets⟩)) := by
  rw [SceneTable.addScene]
  split_ifs with hunknown hconstraint hinvalid
  · exact .inl ⟨nofun, rfl⟩
  · exact .inl ⟨nofun, rfl⟩
  · exact .inl ⟨nofun, rfl⟩
  · have hrange : (⟨fabric, group, scene⟩ : SceneKey).scene ≤ sceneMax :=
      UInt8.not_lt.mp fun hlt => hconstraint (.inl hlt)
    rcases h.put (fun _ => hrange) name transition sets with hfailed | ⟨hstatus, -, hsound⟩
    · exact .inl hfailed
    · refine .inr ⟨hstatus, hsound.bounded, hsound.inRange, hsound.current, fun hasked => ?_⟩
      rw [hsound.lookup hasked, readName_of_fits (hname hasked)]
      rfl

/-- What is copied goes under an identifier in range. -/
lemma Sound.range_target (h : t.Sound ranged kept exact stored) {mode sceneFrom sceneTo : UInt8}
    {groupFrom groupTo : GroupId} (hone : ranged → containsFlag mode copyAllScenes = false → sceneTo ≤ sceneMax)
    (hasked : ranged) : ∀ e ∈ t.copySource fabric mode groupFrom sceneFrom,
      (copyTarget fabric mode groupTo sceneTo e).scene ≤ sceneMax := by
  intro e he
  change (if containsFlag mode copyAllScenes then e.scene else sceneTo) ≤ sceneMax
  split_ifs with hmode
  · exact h.inRange hasked e.toSceneKey (List.mem_map_of_mem (List.mem_filter.mp he).1)
  · exact hone hasked (Bool.eq_false_iff.mpr hmode)

/-- Scenes are copied as far as there is room. -/
lemma Sound.copy_room (h : t.Sound ranged kept False stored) (r : Request) (fabric : FabricIndex)
    (mode : UInt8) (groupFrom : GroupId) (sceneFrom : UInt8) (groupTo : GroupId) (sceneTo : UInt8)
    (hone : ranged → containsFlag mode copyAllScenes = false → sceneTo ≤ sceneMax) :
    (t.copy r fabric mode groupFrom sceneFrom groupTo sceneTo).2.Sound ranged kept False stored := by
  rw [SceneTable.copy]
  split_ifs
  · exact h
  · exact h
  · exact h.putEntries_room (h.range_target hone)

/-- Scenes are copied, or the table stays as it is: all of a group if there is room. -/
lemma Sound.copy (h : t.Sound ranged kept exact stored) (r : Request) (fabric : FabricIndex) (mode : UInt8)
    (groupFrom : GroupId) (sceneFrom : UInt8) (groupTo : GroupId) (sceneTo : UInt8)
    (hall : containsFlag mode copyAllScenes = true →
      t.RoomFor fabric (copyTarget fabric mode groupTo sceneTo)
        (t.copySource fabric mode groupFrom sceneFrom))
    (hone : ranged → containsFlag mode copyAllScenes = false → sceneTo ≤ sceneMax) :
    (t.copy r fabric mode groupFrom sceneFrom groupTo sceneTo).1 ≠ .success ∧
        (t.copy r fabric mode groupFrom sceneFrom groupTo sceneTo).2 = t ∨
      (t.copy r fabric mode groupFrom sceneFrom groupTo sceneTo).1 = .success ∧
        (t.copy r fabric mode groupFrom sceneFrom groupTo sceneTo).2.Sound ranged kept exact fun key =>
          (stored.copied t.names fabric mode groupFrom sceneFrom groupTo sceneTo key).or
            (stored key) := by
  have hunique : KeysUnique Entry.toSceneKey t.entries.toList := h.bounded.nodup
  rw [SceneTable.copy]
  split_ifs with hunknown habsent
  · exact .inl ⟨nofun, rfl⟩
  · exact .inl ⟨nofun, rfl⟩
  · cases hmode : containsFlag mode copyAllScenes with
    | true =>
      -- the scenes of the group have distinct identifiers, and keep them
      have hsource : ∀ e ∈ t.copySource fabric mode groupFrom sceneFrom,
          e ∈ t.entries.toList ∧ e.toSceneKey = ⟨fabric, groupFrom, e.scene⟩ := by
        intro e he
        obtain ⟨hmem, hkey⟩ := List.mem_filter.mp he
        simp only [Bool.and_eq_true, decide_eq_true_eq] at hkey
        obtain ⟨⟨rfl, rfl⟩, -⟩ := hkey
        exact ⟨hmem, rfl⟩
      have htarget : ∀ e : Entry EFS, copyTarget fabric mode groupTo sceneTo e =
          ⟨fabric, groupTo, e.scene⟩ := by
        intro e
        rw [copyTarget, if_pos hmode]
      have hnodup : ((t.copySource fabric mode groupFrom sceneFrom).map
          (copyTarget fabric mode groupTo sceneTo)).Nodup := by
        refine List.Nodup.map_on ?_ ((List.Nodup.of_map _ hunique).filter _)
        intro e he e' he' heq
        rw [htarget, htarget, SceneKey.mk.injEq] at heq
        obtain ⟨hmem, hkey⟩ := hsource e he
        obtain ⟨hmem', hkey'⟩ := hsource e' he'
        exact hunique.eq_of_key_eq hmem hmem' (by rw [hkey, hkey', heq.2.2])
      obtain ⟨hstatus, hsound⟩ := h.putEntries hnodup (fun _ _ => rfl) (h.range_target hone) (hall hmode)
      refine .inr ⟨hstatus, hsound.bounded, hsound.inRange, hsound.current, fun hasked => ?_⟩
      rw [hsound.lookup hasked]
      funext key
      congr 1
      rw [Stored.copied]
      by_cases hkey : key.fabric = fabric ∧ key.group = groupTo
      · have hfind : (t.copySource fabric mode groupFrom sceneFrom).find?
            (fun e => decide (copyTarget fabric mode groupTo sceneTo e = key)) =
              t.find ⟨fabric, groupFrom, key.scene⟩ := by
          rw [copySource, List.find?_filter, find]
          congr 1
          funext e
          obtain ⟨⟨f, g, i⟩, -, -, -⟩ := e
          obtain ⟨f', g', i'⟩ := key
          obtain ⟨rfl, rfl⟩ := hkey
          simp [copyTarget, hmode, and_assoc]
        rw [if_pos hkey, if_pos hmode, hfind, ← h.lookup hasked, SceneTable.lookup, Option.map_map]
        rfl
      · have hnone : (t.copySource fabric mode groupFrom sceneFrom).find?
            (fun e => decide (copyTarget fabric mode groupTo sceneTo e = key)) = none := by
          rw [List.find?_eq_none]
          intro e _ heq
          rw [decide_eq_true_iff] at heq
          exact hkey ⟨by rw [← heq]; rfl, by rw [← heq]; rfl⟩
        rw [if_neg hkey, hnone, Option.map_none]
    | false =>
      -- the scene that is copied is the only one under its key
      obtain ⟨e, he⟩ : ∃ e, t.find ⟨fabric, groupFrom, sceneFrom⟩ = some e := by
        refine Option.isSome_iff_exists.mp ?_
        by_contra hnone
        exact habsent ⟨hmode, by simpa [contains] using hnone⟩
      have hsource : t.copySource fabric mode groupFrom sceneFrom = [e] := by
        have hfilter := filter_key_eq_toList hunique (⟨fabric, groupFrom, sceneFrom⟩ : SceneKey)
        rw [find] at he
        rw [he, Option.toList_some] at hfilter
        rw [← hfilter, copySource]
        congr 1
        funext e'
        obtain ⟨⟨f, g, i⟩, -, -, -⟩ := e'
        simp [hmode, Bool.and_assoc]
      have htarget : copyTarget fabric mode groupTo sceneTo e = ⟨fabric, groupTo, sceneTo⟩ := by
        rw [copyTarget, hmode, if_neg (by decide)]
      have hstored : exact → stored ⟨fabric, groupFrom, sceneFrom⟩ = some e.content := by
        intro hasked
        rw [← h.lookup hasked, SceneTable.lookup, he, Option.map_some]
      rw [hsource, SceneTable.putEntries, htarget]
      have hrange : ranged → (⟨fabric, groupTo, sceneTo⟩ : SceneKey).scene ≤ sceneMax := fun hasked =>
        hone hasked hmode
      rcases h.put hrange e.name e.transition e.fields.toList with ⟨hfailed, hsame⟩ | ⟨hstatus, -, hsound⟩
      · rw [if_neg hfailed]
        exact .inl ⟨hfailed, hsame⟩
      · rw [if_pos hstatus, SceneTable.putEntries]
        rw [readName_name] at hsound
        refine .inr ⟨rfl, hsound.bounded, hsound.inRange, hsound.current, fun hasked => ?_⟩
        rw [hsound.lookup hasked]
        funext key
        rw [Stored.copied, hmode, hstored hasked]
        simp only [Bool.false_eq_true, if_false]
        by_cases hkey : key = ⟨fabric, groupTo, sceneTo⟩
        · subst hkey
          simp [Scene.copied, Entry.content]
        · have hnot : ¬((key.fabric = fabric ∧ key.group = groupTo) ∧ key.scene = sceneTo) := by
            rintro ⟨⟨rfl, rfl⟩, rfl⟩
            exact hkey rfl
          rw [Function.update_of_ne hkey]
          split_ifs with hgroup hscene
          · exact absurd ⟨hgroup, hscene⟩ hnot
          · rfl
          · rfl

end SceneTable

/-! ## Runs -/

/-- A copy of one scene goes to an identifier in range. -/
def Command.InRange : Command → Prop
  | .copyScene mode _ _ _ sceneTo => containsFlag mode copyAllScenes = false → sceneTo ≤ sceneMax
  | _ => True

/-- What is removed is not current. -/
def Command.KeepsCurrent (t : SceneTable N EFS F) (r : Request) (fabric : FabricIndex) : Command → Prop
  | .removeScene group scene =>
    r.groupKnown fabric group = true → ¬t.Current ⟨fabric, group, scene⟩
  | .removeAllScenes group =>
    r.groupKnown fabric group = true → ∀ scene, ¬t.Current ⟨fabric, group, scene⟩
  | _ => True

/-- There is room for a copy of a whole group. -/
def Command.HasRoom (t : SceneTable N EFS F) (fabric : FabricIndex) : Command → Prop
  | .copyScene mode groupFrom sceneFrom groupTo sceneTo => containsFlag mode copyAllScenes = true →
    t.RoomFor fabric (SceneTable.copyTarget fabric mode groupTo sceneTo)
      (t.copySource fabric mode groupFrom sceneFrom)
  | _ => True

/-- A name is short enough, where names are supported. -/
def Command.FitsName (t : SceneTable N EFS F) : Command → Prop
  | .addScene _ _ _ name _ => t.names = true → (asBytes name).length ≤ nameMax
  | _ => True

/-- What happens to a table. -/
inductive Op
  | invoke (r : Request)
  | removeGroupScenes (fabric : FabricIndex) (group : GroupId)
  | removeGroupedScenes (fabric : FabricIndex)
  | removeFabric (fabric : FabricIndex)
  | invalidate

/-- The command of a request meets a condition, if it has one. -/
def Request.Meets (P : FabricIndex → Command → Prop) (r : Request) : Prop :=
  ∀ fabric command, r.fabric = some fabric → r.command = .ok command → P fabric command

/-- A copy of one scene goes to an identifier in range. -/
def Op.InRange : Op → Prop
  | .invoke r => r.Meets fun _ => Command.InRange
  | _ => True

/-- What is removed is not current; what goes with its fabric is forgotten there as well. -/
def Op.KeepsCurrent (t : SceneTable N EFS F) : Op → Prop
  | .invoke r => r.Meets (Command.KeepsCurrent t r)
  | .removeGroupScenes fabric group => ∀ scene, ¬t.Current ⟨fabric, group, scene⟩
  | .removeGroupedScenes fabric => ∀ key, t.Current key → key.fabric = fabric → key.group.val = 0
  | .removeFabric _ | .invalidate => True

/-- A name is short enough, and there is room for a copy of a whole group. -/
def Op.Exact (t : SceneTable N EFS F) : Op → Prop
  | .invoke r => r.Meets fun fabric c => c.HasRoom t fabric ∧ c.FitsName t
  | _ => True

namespace SceneTable

/-- What becomes of a table. -/
def step (copyScene : Bool) (t : SceneTable N EFS F) : Op → SceneTable N EFS F
  | .invoke r => (t.invoke copyScene r).table
  | .removeGroupScenes fabric group => t.removeGroupScenes fabric group
  | .removeGroupedScenes fabric => t.removeGroupedScenes fabric
  | .removeFabric fabric => t.removeFabric fabric
  | .invalidate => t.invalidate

end SceneTable

/-- What a request changes about what was stored last: nothing, unless it comes to success. -/
def Request.remember (names : Bool) (stored : Stored) (status : Im.Status) (r : Request) : Stored :=
  match r.fabric, r.command with
  | some fabric, .ok command =>
    if status = .success then command.remember names stored r fabric else stored
  | _, _ => stored

/-- A table and what was stored last, after one more operation. -/
def record (copyScene : Bool) (s : SceneTable N EFS F × Stored) (op : Op) :
    SceneTable N EFS F × Stored :=
  (s.1.step copyScene op,
    match op with
    | .invoke r => r.remember s.1.names s.2 (s.1.invoke copyScene r).status
    | .removeGroupScenes fabric group =>
      fun key => if key.fabric = fabric ∧ key.group = group then none else s.2 key
    | .removeGroupedScenes fabric =>
      fun key => if key.fabric = fabric ∧ key.group.val ≠ 0 then none else s.2 key
    | .removeFabric fabric => fun key => if key.fabric = fabric then none else s.2 key
    | .invalidate => s.2)

namespace SceneTable

variable {t : SceneTable N EFS F} {stored : Stored} {ranged kept exact : Prop}

/-- What a command comes to that there is room for: the table stays as it is, or is what is remembered. -/
lemma Sound.run (h : t.Sound ranged kept exact stored) (copyScene : Bool) (r : Request) (fabric : FabricIndex)
    {c : Command} (hrange : ranged → c.InRange) (hkept : kept → c.KeepsCurrent t r fabric)
    (hname : exact → c.FitsName t) (hroom : c.HasRoom t fabric) :
    (t.run copyScene r fabric c).status ≠ .success ∧ (t.run copyScene r fabric c).table = t ∨
      (t.run copyScene r fabric c).status = .success ∧
        (t.run copyScene r fabric c).table.Sound ranged kept exact (c.remember t.names stored r fabric) := by
  cases c with
  | addScene group scene transition name sets => exact h.addScene r _ _ _ _ _ hname
  | viewScene group scene => exact (ne_or_eq _ _).imp (fun hne => ⟨hne, rfl⟩) fun heq => ⟨heq, h⟩
  | removeScene group scene => exact h.removeScene r hkept
  | removeAllScenes group => exact h.removeAllScenes r hkept
  | storeScene group scene => exact h.store r fabric group scene
  | recallScene group scene transition =>
    rw [SceneTable.run]
    cases hrecall : t.recallScene r fabric group scene with
    | error status =>
      refine .inl ⟨?_, rfl⟩
      rw [recallScene] at hrecall
      rintro rfl
      split at hrecall
      · cases hrecall
      · split at hrecall <;> cases hrecall
    | ok entry =>
      refine .inr ⟨rfl, h.note (contains_iff.mp ?_)⟩
      rw [recallScene] at hrecall
      split at hrecall
      · cases hrecall
      · split at hrecall
        case h_1 => cases hrecall
        case h_2 hfind => rw [contains, hfind, Option.isSome_some]
  | getSceneMembership group =>
    exact (ne_or_eq _ _).imp (fun hne => ⟨hne, rfl⟩) fun heq => ⟨heq, h⟩
  | copyScene mode groupFrom sceneFrom groupTo sceneTo =>
    rw [SceneTable.run]
    split_ifs
    · exact h.copy r _ _ _ _ _ _ hroom hrange
    · exact .inl ⟨by simp, rfl⟩

/-- A command for which there is no room does no more than put scenes into the table. -/
lemma Sound.run_of_not_hasRoom (h : t.Sound ranged kept False stored) (copyScene : Bool) (r : Request)
    {fabric : FabricIndex} {c : Command} (hrange : ranged → c.InRange) (hroom : ¬c.HasRoom t fabric) :
    (t.run copyScene r fabric c).table.Sound ranged kept False stored := by
  cases c with
  | copyScene mode groupFrom sceneFrom groupTo sceneTo =>
    rw [SceneTable.run]
    split_ifs
    · exact h.copy_room r _ _ _ _ _ _ hrange
    · exact h
  | _ => exact absurd trivial hroom

/-- A table keeps of what is asked for what a request does. -/
lemma Sound.invoke (h : t.Sound ranged kept exact stored) (copyScene : Bool) {r : Request}
    (hrange : ranged → (Op.invoke r).InRange) (hkept : kept → (Op.invoke r).KeepsCurrent t)
    (hexact : exact → (Op.invoke r).Exact t) : (t.invoke copyScene r).table.Sound ranged kept exact
      (r.remember t.names stored (t.invoke copyScene r).status) := by
  rw [SceneTable.invoke, Request.remember]
  cases hfabric : r.fabric with
  | none => exact h
  | some fabric =>
    cases hcommand : r.command with
    | error status => exact h
    | ok command =>
      dsimp only
      have hrange' := fun hasked => hrange hasked fabric command hfabric hcommand
      by_cases hroom : command.HasRoom t fabric
      · rcases h.run copyScene r fabric hrange' (fun hasked => hkept hasked fabric command hfabric hcommand)
          (fun hasked => (hexact hasked fabric command hfabric hcommand).2) hroom with
          ⟨hfailed, hsame⟩ | ⟨hstatus, hsound⟩
        · rwa [if_neg hfailed, hsame]
        · rwa [if_pos hstatus]
      · have hnot : ¬exact := fun hasked => hroom (hexact hasked fabric command hfabric hcommand).1
        have hpart : t.Sound ranged kept False stored := ⟨h.bounded, h.inRange, h.current, False.elim⟩
        exact (hpart.run_of_not_hasRoom copyScene r hrange' hroom).forget hnot _

/-- A table keeps of what is asked for whatever operation there is. -/
lemma Sound.record (h : t.Sound ranged kept exact stored) (copyScene : Bool) {op : Op}
    (hrange : ranged → op.InRange) (hkeeps : kept → op.KeepsCurrent t) (hexact : exact → op.Exact t) :
    (record copyScene (t, stored) op).1.Sound ranged kept exact (record copyScene (t, stored) op).2 := by
  cases op with
  | invoke r => exact h.invoke copyScene hrange hkeeps hexact
  | removeGroupScenes fabric group =>
    have hkept : kept → ∀ key, t.Current key →
        (!(decide (key.fabric = fabric) && decide (key.group = group))) = true := by
      rintro hasked ⟨f, g, scene⟩ hkey
      by_contra hnot
      obtain ⟨rfl, rfl⟩ : f = fabric ∧ g = group := by simpa using hnot
      exact hkeeps hasked scene hkey
    change (t.removeGroupScenes fabric group).Sound _ _ _ _
    rw [removeGroupScenes]
    convert h.retainKeys hkept using 1
    funext key
    by_cases hfabric : key.fabric = fabric <;> by_cases hgroup : key.group = group <;>
      simp [Scenes.record, hfabric, hgroup]
  | removeGroupedScenes fabric =>
    have hkept : kept → ∀ key, t.Current key →
        (!(decide (key.fabric = fabric) && decide (key.group.val ≠ 0))) = true := by
      intro hasked key hkey
      by_contra hnot
      obtain ⟨hfabric, hgroup⟩ : key.fabric = fabric ∧ ¬key.group.val = 0 := by simpa using hnot
      exact hgroup (hkeeps hasked key hkey hfabric)
    change (t.removeGroupedScenes fabric).Sound _ _ _ _
    rw [removeGroupedScenes]
    convert h.retainKeys hkept using 1
    funext key
    by_cases hfabric : key.fabric = fabric <;> by_cases hgroup : key.group.val = 0 <;>
      simp [Scenes.record, hfabric, hgroup]
  | removeFabric fabric =>
    have hsub : (t.removeFabric fabric).keys = t.keys.filter fun k => decide (k.fabric ≠ fabric) :=
      keys_retainKeys t fun k => decide (k.fabric ≠ fabric)
    refine ⟨h.bounded.rekeyed (.sublist (hsub ▸ List.filter_sublist)), ?_, ?_, ?_⟩
    · intro hasked key hkey
      rw [Scenes.record, step, hsub] at hkey
      exact h.inRange hasked key (List.mem_filter.mp hkey).1
    · rintro hasked key ⟨i, hi, hvalid, rfl⟩
      obtain ⟨hold, hfabric⟩ := List.mem_filter.mp hi
      rw [Scenes.record, step, hsub]
      exact List.mem_filter.mpr ⟨h.current hasked _ ⟨i, hold, hvalid, rfl⟩, hfabric⟩
    · intro hasked
      funext key
      have hlookup := lookup_retainKeys t (fun k => decide (k.fabric ≠ fabric)) key
      change (t.retainKeys fun k => decide (k.fabric ≠ fabric)).lookup key = _
      rw [hlookup, h.lookup hasked]
      by_cases hfabric : key.fabric = fabric <;> simp [Scenes.record, hfabric]
  | invalidate =>
    refine ⟨h.bounded.rekeyed (.sublist (List.Sublist.refl _)), h.inRange, ?_, h.lookup⟩
    intro _ key hkey
    exact absurd hkey (not_current_invalidate key)

end SceneTable

/-- Whether a command was answered with a status other than SUCCESS. -/
def Outcome.Refused (o : Outcome N EFS F) : Prop :=
  (∃ status, o.answer = .error status) ∨
    ∃ response, o.answer = .ok (some response) ∧ response.status ≠ .success

/-- A response that is written is refused for its own status. -/
lemma Request.status_of_refused {r : Request} {response : Response} (hwritten : r.written = true)
    (h : (∃ status, r.answer response = .error status) ∨
      ∃ response', r.answer response = .ok (some response') ∧ response'.status ≠ .success) :
    response.status ≠ .success := by
  rw [Request.answer, hwritten] at h
  split at h
  · rcases h with ⟨_, h⟩ | ⟨_, h, -⟩ <;> cases h
  · rcases h with ⟨_, h⟩ | ⟨_, h, hstatus⟩
    · cases h
    · cases h
      exact hstatus

namespace SceneTable

variable {t : SceneTable N EFS F} {stored : Stored}

/-- A command that is refused did not come to success. -/
lemma status_of_refused {copyScene : Bool} {r : Request} (hwritten : r.written = true)
    (fabric : FabricIndex) (c : Command) (h : (t.run copyScene r fabric c).Refused) :
    (t.run copyScene r fabric c).status ≠ .success := by
  cases c with
  | addScene => exact Request.status_of_refused hwritten h
  | viewScene | removeScene | removeAllScenes | storeScene => exact Request.status_of_refused hwritten h
  | recallScene group scene transition =>
    rw [SceneTable.run] at h ⊢
    cases hrecall : t.recallScene r fabric group scene with
    | error status =>
      rintro rfl
      rw [recallScene] at hrecall
      split at hrecall
      · cases hrecall
      · split at hrecall <;> cases hrecall
    | ok entry =>
      rw [hrecall] at h
      rcases h with ⟨_, h⟩ | ⟨_, h, -⟩ <;> cases h
  | getSceneMembership => exact Request.status_of_refused hwritten h
  | copyScene mode groupFrom sceneFrom groupTo sceneTo =>
    rw [SceneTable.run] at h ⊢
    split_ifs at h ⊢
    · exact Request.status_of_refused hwritten h
    · nofun

/-- A request that is refused leaves the table as it was. -/
lemma Bounded.table_of_refused (h : t.Bounded) {copyScene : Bool} {r : Request}
    (hwritten : r.written = true) (hroom : r.Meets fun fabric c => c.HasRoom t fabric)
    (hrefused : (t.invoke copyScene r).Refused) : (t.invoke copyScene r).table = t := by
  rw [SceneTable.invoke] at hrefused ⊢
  cases hfabric : r.fabric with
  | none => rfl
  | some fabric =>
    rw [hfabric] at hrefused
    cases hcommand : r.command with
    | error status => rfl
    | ok command =>
      rw [hcommand] at hrefused
      dsimp only at hrefused ⊢
      have hfailed := status_of_refused hwritten fabric command hrefused
      have hsound : t.Sound False False False fun _ => none := ⟨h, False.elim, False.elim, False.elim⟩
      rcases hsound.run copyScene r fabric False.elim False.elim False.elim
        (hroom fabric command hfabric hcommand) with ⟨-, hsame⟩ | ⟨hstatus, -⟩
      · exact hsame
      · exact absurd hstatus hfailed

/-- Viewing a scene shows what is stored under its key. -/
lemma viewScene_answer (t : SceneTable N EFS F) (copyScene : Bool) {r : Request}
    {fabric : FabricIndex} {group : GroupId} {scene : UInt8} (hfabric : r.fabric = some fabric)
    (hcommand : r.command = .ok (.viewScene group scene))
    (hknown : r.groupKnown fabric group = true) (hcast : r.groupcast = false)
    (hwritten : r.written = true) : (t.invoke copyScene r).answer = .ok (some (.viewScene
      (if (t.lookup ⟨fabric, group, scene⟩).isSome then .success else .notFound) group scene
      ((t.lookup ⟨fabric, group, scene⟩).map (·.transition))
      ((t.lookup ⟨fabric, group, scene⟩).map (·.name))
      ((t.lookup ⟨fabric, group, scene⟩).map (·.fields)))) := by
  rw [SceneTable.invoke, hfabric, hcommand]
  dsimp only
  have hview : t.viewScene r fabric group scene =
      (if (t.lookup ⟨fabric, group, scene⟩).isSome then .success else .notFound,
        t.find ⟨fabric, group, scene⟩) := by
    rw [viewScene, if_neg (by simp [hknown]), lookup]
    cases hfind : t.find ⟨fabric, group, scene⟩ <;> simp
  rw [SceneTable.run, hview]
  simp only [lookup, Option.map_map, Request.answer, hcast, hwritten]
  rfl

end SceneTable

/-- A table that began empty, and what was stored last, after a run. -/
def history (copyScene names : Bool) (ops : List Op) : SceneTable N EFS F × Stored :=
  ops.foldl (record copyScene) (SceneTable.new names, fun _ => none)

/-- A table keeps of what is asked for over a run. -/
lemma sound_history (ranged kept exact : Prop) {copyScene names : Bool} {ops : List Op}
    (hrange : ranged → ∀ op ∈ ops, op.InRange) (hkept : kept → Throughout (record copyScene)
      (fun (s : SceneTable N EFS F × Stored) op => op.KeepsCurrent s.1) (.new names, fun _ => none) ops)
    (hexact : exact → Throughout (record copyScene)
      (fun (s : SceneTable N EFS F × Stored) op => op.Exact s.1) (.new names, fun _ => none) ops) :
    SceneTable.Sound ranged kept exact (history copyScene names ops : SceneTable N EFS F × Stored).1
      (history copyScene names ops : SceneTable N EFS F × Stored).2 := by
  have hall : ∀ (s : SceneTable N EFS F × Stored), s.1.Sound ranged kept exact s.2 →
      (kept → Throughout (record copyScene) (fun s op => op.KeepsCurrent s.1) s ops) →
      (exact → Throughout (record copyScene) (fun s op => op.Exact s.1) s ops) →
      (ops.foldl (record copyScene) s).1.Sound ranged kept exact (ops.foldl (record copyScene) s).2 := by
    clear hkept hexact
    induction ops with
    | nil => exact fun s h _ _ => h
    | cons op ops ih =>
      intro s h hkept hexact
      refine ih (fun hasked op' hop' => hrange hasked op' (List.mem_cons_of_mem _ hop')) _ ?_
        (fun hasked => (hkept hasked).2) fun hasked => (hexact hasked).2
      exact h.record copyScene (fun hasked => hrange hasked op List.mem_cons_self)
        (fun hasked => (hkept hasked).1) fun hasked => (hexact hasked).1
  exact hall _ (SceneTable.sound_new names) hkept hexact

/-- After any run every scene is in the table once, and no fabric holds more than half of it, nor more
than 253. Identifiers are in range if no copy of one scene goes to one that is not; what is current is
in the table if no scene is removed while it is; viewing a scene shows what was stored last if no name
is too long and copies of whole groups have room. A request that is refused leaves the table as it was,
if its response is written and it is no copy of a whole group without room. -/
theorem coherent (copyScene names : Bool) (ops : List Op) :
    let start : SceneTable N EFS F × Stored := (.new names, fun _ => none)
    let after := ops.foldl (record copyScene) start
    (after.1.keys.Nodup ∧ ∀ fabric, after.1.lenOfFabric fabric ≤ min (N / 2) 253) ∧
    ((∀ op ∈ ops, op.InRange) → ∀ key ∈ after.1.keys, key.scene ≤ sceneMax) ∧
    (Throughout (record copyScene) (fun s op => op.KeepsCurrent s.1) start ops →
      ∀ i ∈ after.1.info.toList, i.valid = true → i.key ∈ after.1.keys) ∧
    (Throughout (record copyScene) (fun s op => op.Exact s.1) start ops →
      ∀ (r : Request) (fabric : FabricIndex) (group : GroupId) (scene : UInt8),
        r.fabric = some fabric → r.command = .ok (.viewScene group scene) →
        r.groupKnown fabric group = true → r.groupcast = false → r.written = true →
        let stored := after.2 ⟨fabric, group, scene⟩
        (after.1.invoke copyScene r).answer =
          .ok (some (.viewScene (if stored.isSome then .success else .notFound) group scene
            (stored.map (·.transition)) (stored.map (·.name)) (stored.map (·.fields))))) ∧
    ∀ r : Request, r.written = true → (r.Meets fun fabric c => c.HasRoom after.1 fabric) →
      (after.1.invoke copyScene r).Refused → (after.1.invoke copyScene r).table = after.1 := by
  intro start after
  have hbounded : after.1.Bounded :=
    (sound_history False False False False.elim False.elim False.elim).bounded
  refine ⟨⟨hbounded.nodup, fun fabric => (hbounded.share fabric).trans ?_⟩, fun hrange => ?_, fun hkept => ?_,
    fun hexact => ?_, fun r hwritten hroom hrefused => hbounded.table_of_refused hwritten hroom hrefused⟩
  · have hmax : capacityMax.toNat = 253 := rfl
    rw [SceneTable.perFabric, hmax]
    split <;> omega
  · exact (sound_history True False False (fun _ => hrange) False.elim False.elim).inRange trivial
  · intro i hi hvalid
    exact (sound_history False True False False.elim (fun _ => hkept) False.elim).current trivial _
      ⟨i, hi, hvalid, rfl⟩
  · intro r fabric group scene hfabric hcommand hknown hcast hwritten stored
    have hlookup := (sound_history False False True False.elim False.elim fun _ => hexact).lookup trivial
    have hanswer := SceneTable.viewScene_answer after.1 copyScene hfabric hcommand hknown hcast hwritten
    rw [hanswer, show after.1.lookup = after.2 from hlookup]

/-- A unicast request of the first fabric, for the group of none, with its response written. -/
def Command.request (c : Command) : Request where
  fabric := some ⟨1⟩
  groupcast := false
  command := .ok c
  isGroupMember := fun _ _ => false
  validSets := fun _ => true
  captured := some []
  written := true

/-- A scene that was added is viewed. -/
theorem added_scene_is_viewed :
    ((history false true [.invoke (Command.addScene ⟨0⟩ 7 1500 "Movie" [0x15, 0x18]).request] :
        SceneTable 16 64 2 × Stored).1.invoke false (Command.viewScene ⟨0⟩ 7).request).answer =
      .ok (some (.viewScene .success ⟨0⟩ 7 (some 1500) (some "Movie") (some [0x15, 0x18]))) := by
  have hexact : (Op.invoke (Command.addScene ⟨0⟩ 7 1500 "Movie" [0x15, 0x18]).request).Exact
      (SceneTable.new true : SceneTable 16 64 2) := by
    rintro fabric command - hcommand
    cases hcommand
    exact ⟨trivial, fun _ => by decide⟩
  have hview := (@coherent 16 64 2 false true
    [.invoke (Command.addScene ⟨0⟩ 7 1500 "Movie" [0x15, 0x18]).request]).2.2.2.1
      ⟨hexact, trivial⟩ (Command.viewScene ⟨0⟩ 7).request ⟨1⟩ ⟨0⟩ 7 rfl rfl rfl rfl rfl
  exact hview

/-- A table of six after a run in which every group is known, with names. -/
def sixScenes (ops : List Command) : SceneTable 6 64 2 × Stored :=
  history true true (ops.map fun c => .invoke { c.request with isGroupMember := fun _ _ => true })

/-- A fabric that has eight scenes in a table of sixteen; a copy of a scene to the identifier that means none;
a current scene that is removed; a name of seventeen octets; a copy of two scenes for which there is room for
one, which is refused; and an answer that is not written. -/
theorem eight_of_sixteen_and_scene_255 :
    ¬(history true false ([0, 1, 2, 3, 4, 5, 6, 7].map fun scene =>
        .invoke (Command.addScene ⟨0⟩ scene 0 "" []).request) :
          SceneTable 16 64 2 × Stored).1.lenOfFabric ⟨1⟩ < 16 / 2 ∧
    (⟨⟨1⟩, ⟨0⟩, 255⟩ : SceneKey) ∈
      (sixScenes [.addScene ⟨0⟩ 7 0 "" [], .copyScene 0 ⟨0⟩ 7 ⟨0⟩ 255]).1.keys ∧
    (sixScenes [.storeScene ⟨0⟩ 7, .removeScene ⟨0⟩ 7]).1.info.toList.map
        (fun i => (i.valid, i.key)) = [(true, ⟨⟨1⟩, ⟨0⟩, 7⟩)] ∧
      (sixScenes [.storeScene ⟨0⟩ 7, .removeScene ⟨0⟩ 7]).1.keys = [] ∧
    ((sixScenes [.addScene ⟨0⟩ 7 0 "seventeen letters" []]).1.lookup ⟨⟨1⟩, ⟨0⟩, 7⟩).map (·.name) =
      some "seventeen letter" ∧
    let two := (sixScenes [.addScene ⟨0⟩ 1 0 "" [], .addScene ⟨0⟩ 2 0 "" []]).1
    let copyAll := { (Command.copyScene 1 ⟨0⟩ 0 ⟨1⟩ 0).request with isGroupMember := fun _ _ => true }
    ((two.invoke true copyAll).Refused ∧ (two.invoke true copyAll).table.keys ≠ two.keys) ∧
    let unwritten := { (Command.addScene ⟨0⟩ 3 0 "" []).request with written := false }
    (two.invoke true unwritten).Refused ∧ (two.invoke true unwritten).table.keys ≠ two.keys := by
  refine ⟨by decide, by decide, by decide, by decide, by decide, ⟨.inr ⟨_, rfl, ?_⟩, by decide⟩,
    .inl ⟨_, rfl⟩, by decide⟩
  decide

end MatterKit.Scenes
