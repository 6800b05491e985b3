import MatterKit.Tlv.Decode
import MatterKit.Im.Persist
import MatterKit.Im.Reprime
import MatterKit.Im.Shares

/-!
# Subscriptions across a reboot

A record of `im/persist.rs` is a structure of a few fields and two arrays of paths. Each encoder is
shown to be a list of writer calls and each decoder to read the elements of those calls back, so that
`restore` goes through what `save` wrote record by record (`restoreFrom_eq`).

It inserts every record if the ids are distinct and each subscription is over something. Both hold along
every run of calls whose requests find unused ids (`storable_run`), and `survives_reboot` puts the two
together. The counter of ids goes on from the largest restored one, but it wraps, and an id whose
subscription has been removed may then come again (`removed_id_comes_again`).
-/

namespace MatterKit.Im

open Lib Machine Tlv Dm

variable {N P : ℕ}

/-! ## Fields, written and read -/

lemma narrow8_toUInt64 (v : UInt8) : narrow8 v.toUInt64 = .ok v := by
  have hlt : v.toUInt64.toNat < 2 ^ 8 := by
    rw [UInt8.toNat_toUInt64]
    exact v.toNat_lt
  rw [narrow8, ensure_of hlt, ok_bind]
  exact congrArg Except.ok (UInt8.toUInt8_toUInt64 v)

lemma narrow16_toUInt64 (v : UInt16) : narrow16 v.toUInt64 = .ok v := by
  have hlt : v.toUInt64.toNat < 2 ^ 16 := by
    rw [UInt16.toNat_toUInt64]
    exact v.toNat_lt
  rw [narrow16, ensure_of hlt, ok_bind]
  exact congrArg Except.ok (UInt16.toUInt16_toUInt64 v)

lemma narrow32_toUInt64 (v : UInt32) : narrow32 v.toUInt64 = .ok v := by
  have hlt : v.toUInt64.toNat < 2 ^ 32 := by
    rw [UInt32.toNat_toUInt64]
    exact v.toNat_lt
  rw [narrow32, ensure_of hlt, ok_bind]
  exact congrArg Except.ok (UInt32.toUInt32_toUInt64 v)

/-- A field that is written if it is there is a list of at most one call. -/
lemma whenSome_eq_runAll {α : Type} (field : Option α) (call : α → WriterCall) :
    whenSome field (fun v => (call v).run) = WriterCall.runAll (field.toList.map call) := by
  cases field with
  | none => rfl
  | some v => exact (bind_pure_unit (x := (call v).run)).symm

lemma whenTrue_eq_runAll (flag : Bool) (call : WriterCall) :
    whenTrue flag call.run = WriterCall.runAll (if flag then [call] else []) := by
  cases flag with
  | false => rfl
  | true => exact (bind_pure_unit (x := call.run)).symm

lemma writeEach_eq_runAll {α : Type} {write : α → Writing Unit} {calls : α → List WriterCall}
    (h : ∀ a, write a = WriterCall.runAll (calls a)) (l : List α) :
    writeEach write l = WriterCall.runAll (l.flatMap calls) := by
  induction l with
  | nil => rfl
  | cons a l ih => rw [writeEach, h, ih, List.flatMap_cons, WriterCall.runAll_append]

section takes

variable {β γ : Type} {s : ℕ → Element → β → Reading β}

/-- A field that is always written. -/
lemma takes_one {element : Element} {acc acc' : β} (hmember : element.value ≠ .endOfContainer)
    (hstep : ∀ start r, exec (s start element acc) r = (.ok acc', r)) : Takes s [element] acc acc' := by
  refine .single hmember fun start r r' h => ?_
  cases h
  exact hstep start r

/-- A field that was written if it was there is filled if its element is there. -/
lemma takes_field (field : Option γ) (element : γ → Element) (acc : Option γ → β)
    (hmember : ∀ v, (element v).value ≠ .endOfContainer)
    (hstep : ∀ v start r, exec (s start (element v) (acc none)) r = (.ok (acc (some v)), r)) :
    Takes s (field.toList.map element) (acc none) (acc field) := by
  cases field with
  | none => exact .nil _
  | some v => exact takes_one (hmember v) (hstep v)

/-- A field is set to the value of its element. -/
lemma exec_ofResult_bind {value : Except ErrorCode γ} {v : γ} (h : value = .ok v)
    (f : γ → Reading β) (r : TlvReader) : exec (ofResult value >>= f) r = exec (f v) r := by
  rw [h]
  rfl

/-- A field that was not there is filled by the value of its element. -/
lemma exec_setField {value : Except ErrorCode γ} {v : γ} (h : value = .ok v)
    (f : Option γ → Reading β) (r : TlvReader) :
    exec (setField none value >>= f) r = exec (f (some v)) r := by
  rw [h]
  rfl

end takes

/-! ## Paths -/

/-- The call of `AttributePath::encode` for a list index. -/
def ListIndex.call : ListIndex → WriterCall
  | .at index => .unsigned (.context 5) index.toUInt64
  | .append => .null (.context 5)

namespace AttributePath

/-- The calls of `encode` for the fields of a path. -/
def fieldCalls (p : AttributePath) : List WriterCall :=
  (if p.enableTagCompression then [WriterCall.bool (.context 0) true] else []) ++
    (p.node.toList.map fun v => WriterCall.unsigned (.context 1) v) ++
    (p.endpoint.toList.map fun v => WriterCall.unsigned (.context 2) v.toUInt64) ++
    (p.cluster.toList.map fun v => WriterCall.unsigned (.context 3) v.toUInt64) ++
    (p.attributeId.toList.map fun v => WriterCall.unsigned (.context 4) v.toUInt64) ++
    (p.listIndex.toList.map ListIndex.call) ++
    (p.wildcardPathFlags.toList.map fun v => WriterCall.unsigned (.context 6) v.toUInt64) ++
    (p.wildcardFilterConfigurationVersion.toList.map fun v => WriterCall.unsigned (.context 7) v.toUInt64)

/-- The calls of `encode`. -/
def calls (tag : Tag) (p : AttributePath) : List WriterCall :=
  .start tag .list :: (p.fieldCalls ++ [.endContainer])

lemma encode_eq_runAll (tag : Tag) (p : AttributePath) :
    p.encode tag = WriterCall.runAll (calls tag p) := by
  obtain ⟨compressed, node, endpoint, cluster, attributeId, index, flags, version⟩ := p
  simp only [calls, fieldCalls, List.append_assoc, WriterCall.runAll, WriterCall.runAll_append,
    ← whenSome_eq_runAll, ← whenTrue_eq_runAll, bind_pure_unit]
  rcases index with _ | (index | _)
  · rfl
  · rfl
  · rfl

/-- The fields of a path, read from where there are none. -/
lemma takes_fieldCalls (p : AttributePath) : Takes decodeField (p.fieldCalls.map WriterCall.element) {}
      ⟨if p.enableTagCompression then some true else none,
        { p with enableTagCompression := false }⟩ := by
  obtain ⟨compressed, node, endpoint, cluster, attributeId, index, flags, version⟩ := p
  simp only [fieldCalls, List.map_append, List.map_map]
  generalize hfirst : (if compressed then some true else none) = first
  have hcompressed : Takes decodeField
      ((if compressed then [WriterCall.bool (.context 0) true] else []).map WriterCall.element)
      {} ⟨first, {}⟩ := by
    subst hfirst
    cases compressed with
    | false => exact .nil _
    | true => exact takes_one nofun fun start r => rfl
  have hnode := takes_field (s := decodeField) node (fun v => ⟨.context 1, .unsigned v⟩)
    (fun v => ⟨first, { node := v }⟩) nofun fun v start r => rfl
  have hendpoint := takes_field (s := decodeField) endpoint
    (fun v => ⟨.context 2, .unsigned v.toUInt64⟩)
    (fun v => ⟨first, { node := node, endpoint := v }⟩) nofun
    fun v start r => exec_setField (narrow16_toUInt64 v) _ r
  have hcluster := takes_field (s := decodeField) cluster (fun v => ⟨.context 3, .unsigned v.toUInt64⟩)
    (fun v => ⟨first, { node := node, endpoint := endpoint, cluster := v }⟩) nofun
    fun v start r => exec_setField (narrow32_toUInt64 v) _ r
  have hattribute := takes_field (s := decodeField) attributeId
    (fun v => ⟨.context 4, .unsigned v.toUInt64⟩)
    (fun v => ⟨first, ⟨false, node, endpoint, cluster, v, none, none, none⟩⟩) nofun
    fun v start r => exec_setField (narrow32_toUInt64 v) _ r
  have hindex := takes_field (s := decodeField) index (WriterCall.element ∘ ListIndex.call)
    (fun v => ⟨first, ⟨false, node, endpoint, cluster, attributeId, v, none, none⟩⟩)
    (fun v => by cases v <;> nofun) fun v start r => by
      cases v with
      | «at» i =>
        exact exec_setField (congrArg (ListIndex.at <$> ·) (narrow16_toUInt64 i)) _ r
      | append => rfl
  have hflags := takes_field (s := decodeField) flags (fun v => ⟨.context 6, .unsigned v.toUInt64⟩)
    (fun v => ⟨first, ⟨false, node, endpoint, cluster, attributeId, index, v, none⟩⟩) nofun
    fun v start r => exec_setField (narrow32_toUInt64 v) _ r
  have hversion := takes_field (s := decodeField) version (fun v => ⟨.context 7, .unsigned v.toUInt64⟩)
    (fun v => ⟨first, ⟨false, node, endpoint, cluster, attributeId, index, flags, v⟩⟩) nofun
    fun v start r => exec_setField (narrow32_toUInt64 v) _ r
  exact hcompressed.append hnode |>.append hendpoint |>.append hcluster |>.append hattribute
    |>.append hindex |>.append hflags |>.append hversion

/-- A path that was written is read as it was. -/
lemma decodes_decode (p : AttributePath) :
    Decodes decode ((p.fieldCalls ++ [WriterCall.endContainer]).map WriterCall.element) p := by
  have h := (p.takes_fieldCalls.decodes_eachMember .anonymous).bind_pure
    (f := fun f : Fields => { f.path with enableTagCompression := f.enableTagCompression.getD false })
  obtain ⟨compressed, node, endpoint, cluster, attributeId, index, flags, version⟩ := p
  rw [List.map_append]
  cases compressed with
  | false => exact h
  | true => exact h

end AttributePath

namespace EventPath

/-- The calls of `encode` for the fields of a path. -/
def fieldCalls (p : EventPath) : List WriterCall :=
  (p.node.toList.map fun v => WriterCall.unsigned (.context 0) v) ++
    (p.endpoint.toList.map fun v => WriterCall.unsigned (.context 1) v.toUInt64) ++
    (p.cluster.toList.map fun v => WriterCall.unsigned (.context 2) v.toUInt64) ++
    (p.event.toList.map fun v => WriterCall.unsigned (.context 3) v.toUInt64) ++
    (p.isUrgent.toList.map fun v => WriterCall.bool (.context 4) v)

/-- The calls of `encode`. -/
def calls (tag : Tag) (p : EventPath) : List WriterCall :=
  .start tag .list :: (p.fieldCalls ++ [.endContainer])

lemma encode_eq_runAll (tag : Tag) (p : EventPath) : p.encode tag = WriterCall.runAll (calls tag p) := by
  simp only [calls, fieldCalls, List.append_assoc, WriterCall.runAll, WriterCall.runAll_append,
    ← whenSome_eq_runAll, bind_pure_unit]
  rfl

/-- A path that was written is read as it was. -/
lemma decodes_decode (p : EventPath) :
    Decodes decode ((p.fieldCalls ++ [WriterCall.endContainer]).map WriterCall.element) p := by
  obtain ⟨node, endpoint, cluster, event, isUrgent⟩ := p
  simp only [fieldCalls, List.map_append, List.map_map]
  have hnode := takes_field (s := decodeField) node (fun v => ⟨.context 0, .unsigned v⟩)
    (fun v => { node := v }) nofun fun v start r => rfl
  have hendpoint := takes_field (s := decodeField) endpoint
    (fun v => ⟨.context 1, .unsigned v.toUInt64⟩)
    (fun v => { node := node, endpoint := v }) nofun
    fun v start r => exec_setField (narrow16_toUInt64 v) _ r
  have hcluster := takes_field (s := decodeField) cluster (fun v => ⟨.context 2, .unsigned v.toUInt64⟩)
    (fun v => { node := node, endpoint := endpoint, cluster := v }) nofun
    fun v start r => exec_setField (narrow32_toUInt64 v) _ r
  have hevent := takes_field (s := decodeField) event (fun v => ⟨.context 3, .unsigned v.toUInt64⟩)
    (fun v => ⟨node, endpoint, cluster, v, none⟩) nofun
    fun v start r => exec_setField (narrow32_toUInt64 v) _ r
  have hurgent := takes_field (s := decodeField) isUrgent (fun v => ⟨.context 4, .bool v⟩)
    (fun v => ⟨node, endpoint, cluster, event, v⟩) nofun fun v start r => rfl
  exact hnode.append hendpoint |>.append hcluster |>.append hevent |>.append hurgent
    |>.decodes_eachMember .anonymous

end EventPath

/-! ## Records -/

/-- A list cut to what a vector holds. -/
def BoundedVec.cut {α : Type} (l : List α) : BoundedVec α P := ⟨l.take P, by simp⟩

/-- The entries of an array of paths, read one by one into an empty vector. -/
lemma decodes_entries {α : Type} {decode : Reading α} {fieldCalls : α → List WriterCall}
    (hdecode : ∀ a, Decodes decode
      ((fieldCalls a ++ [WriterCall.endContainer]).map WriterCall.element) a) (v : BoundedVec α P) :
    Decodes (eachMember (Persist.decodeEntry decode) (.empty : BoundedVec α P))
      ((v.toList.flatMap (fun a =>
        WriterCall.start .anonymous .list :: (fieldCalls a ++ [WriterCall.endContainer])) ++
          [WriterCall.endContainer]).map WriterCall.element) v := by
  have hentry : ∀ before a after, v.toList = before ++ a :: after →
      Takes (Persist.decodeEntry decode)
        ((WriterCall.start .anonymous .list :: (fieldCalls a ++ [WriterCall.endContainer])).map
          WriterCall.element)
        (BoundedVec.cut before : BoundedVec α P) (BoundedVec.cut (before ++ [a])) := by
    intro before a after hv
    have hlen : before.length + 1 ≤ P := by
      have := v.length_le
      rw [hv, List.length_append, List.length_cons] at this
      omega
    have hpush : (BoundedVec.cut before : BoundedVec α P).push a =
        some (BoundedVec.cut (before ++ [a])) := by
      rw [BoundedVec.push_eq_some_iff]
      simp only [BoundedVec.cut]
      rw [List.take_of_length_le (by omega), List.take_of_length_le (by simpa using hlen)]
      exact ⟨by omega, rfl⟩
    have hfirst : ∀ start, Decodes (Persist.decodeEntry decode start
        ⟨.anonymous, .container .list⟩ (BoundedVec.cut before : BoundedVec α P))
        ((fieldCalls a ++ [WriterCall.endContainer]).map WriterCall.element)
        (BoundedVec.cut (before ++ [a])) := by
      intro start
      have h := (hdecode a).bind
        (f := fun a => ofResult (okOr ((BoundedVec.cut before : BoundedVec α P).push a) .noSpace))
        (Decodes.ofResult (okOr_eq_ok.mpr hpush))
      rwa [List.append_nil] at h
    have hlist : (⟨.anonymous, .container .list⟩ : Element).value ≠ .endOfContainer := by simp
    have h := Takes.cons hlist hfirst (.nil _)
    rwa [List.append_nil] at h
  have hall := Takes.flatMap (fun l => (BoundedVec.cut l : BoundedVec α P)) v.toList hentry
  rw [List.map_append, List.map_flatMap]
  have hend : (BoundedVec.cut v.toList : BoundedVec α P) = v := by
    obtain ⟨l, hl⟩ := v
    simp only [BoundedVec.cut, List.take_of_length_le hl]
  have hstart : (BoundedVec.cut [] : BoundedVec α P) = .empty := by
    simp only [BoundedVec.cut, List.take_nil]
    rfl
  rw [hend, hstart] at hall
  exact hall.decodes_eachMember .anonymous

namespace Persist

/-- The calls of `encode_one` for the fields of a subscription. -/
def fieldCalls (s : Subscription P) : List WriterCall :=
  [WriterCall.unsigned (.context 0) s.id.toUInt64] ++
    (s.fabricIndex.toList.map fun v => WriterCall.unsigned (.context 1) v.val.toUInt64) ++
    (s.peerNodeId.toList.map fun v => WriterCall.unsigned (.context 2) v.val) ++
    [WriterCall.bool (.context 3) s.fabricFiltered] ++
    [WriterCall.unsigned (.context 4) s.minIntervalS.toUInt64] ++
    [WriterCall.unsigned (.context 5) s.maxIntervalS.toUInt64] ++
    [WriterCall.unsigned (.context 6) s.nextEventNumber] ++
    (WriterCall.start (.context 7) .array ::
      (s.paths.toList.flatMap (AttributePath.calls .anonymous) ++ [WriterCall.endContainer])) ++
    (WriterCall.start (.context 8) .array ::
      (s.eventPaths.toList.flatMap (EventPath.calls .anonymous) ++ [WriterCall.endContainer]))

/-- The calls of `encode_one`. -/
def calls (s : Subscription P) : List WriterCall :=
  .start .anonymous .struct :: (fieldCalls s ++ [.endContainer])

lemma encodeOne_eq_runAll (s : Subscription P) : encodeOne s = WriterCall.runAll (calls s) := by
  unfold encodeOne
  rw [writeEach_eq_runAll (AttributePath.encode_eq_runAll .anonymous),
    writeEach_eq_runAll (EventPath.encode_eq_runAll .anonymous)]
  simp only [calls, fieldCalls, List.append_assoc, List.cons_append, List.nil_append,
    WriterCall.runAll, WriterCall.runAll_append, ← whenSome_eq_runAll, bind_pure_unit]
  rfl

/-- What `decode_one` meets in the record of a subscription. -/
def fieldsOf (s : Subscription P) : Fields P :=
  ⟨some s.id, s.fabricIndex, s.peerNodeId, s.fabricFiltered, s.minIntervalS, s.maxIntervalS,
    s.nextEventNumber, s.paths, s.eventPaths⟩

lemma takes_paths (f f' : Fields P) (tag : Tag) {es : List Element}
    (h : ∀ start, Decodes (decodeField start ⟨tag, .container .array⟩ f) es f') :
    Takes decodeField (⟨tag, .container .array⟩ :: es) f f' := by
  have hmember : (⟨tag, .container .array⟩ : Element).value ≠ .endOfContainer := nofun
  have h := Takes.cons hmember h (.nil f')
  rwa [List.append_nil] at h

/-- The record of a subscription, read field by field. -/
lemma takes_fieldCalls (s : Subscription P) :
    Takes decodeField ((fieldCalls s).map WriterCall.element) {} (fieldsOf s) := by
  obtain ⟨id, -, fabric, peer, filtered, min, max, paths, -, eventPaths, -, next, -, -, -⟩ := s
  simp only [fieldCalls, List.map_append, List.map_map]
  have hid : Takes decodeField [⟨.context 0, .unsigned id.toUInt64⟩] {}
      ({ id := some id } : Fields P) :=
    takes_one nofun fun start r => exec_ofResult_bind (narrow32_toUInt64 id) _ r
  have hfabric := takes_field (s := decodeField) fabric
    (fun v => ⟨.context 1, .unsigned v.val.toUInt64⟩)
    (fun v => ({ id := some id, fabricIndex := v } : Fields P)) nofun
    fun v start r => exec_ofResult_bind (narrow8_toUInt64 v.val) _ r
  have hpeer := takes_field (s := decodeField) peer (fun v => ⟨.context 2, .unsigned v.val⟩)
    (fun v => ({ id := some id, fabricIndex := fabric, peerNodeId := v } : Fields P)) nofun
    fun v start r => rfl
  have hfiltered : Takes decodeField [⟨.context 3, .bool filtered⟩]
      ({ id := some id, fabricIndex := fabric, peerNodeId := peer } : Fields P)
      (⟨some id, fabric, peer, filtered, 0, 0, 0, .empty, .empty⟩ : Fields P) :=
    takes_one nofun fun start r => rfl
  have hmin : Takes decodeField [⟨.context 4, .unsigned min.toUInt64⟩]
      (⟨some id, fabric, peer, filtered, 0, 0, 0, .empty, .empty⟩ : Fields P)
      (⟨some id, fabric, peer, filtered, min, 0, 0, .empty, .empty⟩ : Fields P) :=
    takes_one nofun fun start r => exec_ofResult_bind (narrow16_toUInt64 min) _ r
  have hmax : Takes decodeField [⟨.context 5, .unsigned max.toUInt64⟩]
      (⟨some id, fabric, peer, filtered, min, 0, 0, .empty, .empty⟩ : Fields P)
      (⟨some id, fabric, peer, filtered, min, max, 0, .empty, .empty⟩ : Fields P) :=
    takes_one nofun fun start r => exec_ofResult_bind (narrow16_toUInt64 max) _ r
  have hnext : Takes decodeField [⟨.context 6, .unsigned next⟩]
      (⟨some id, fabric, peer, filtered, min, max, 0, .empty, .empty⟩ : Fields P)
      (⟨some id, fabric, peer, filtered, min, max, next, .empty, .empty⟩ : Fields P) :=
    takes_one nofun fun start r => rfl
  have hpaths := takes_paths ⟨some id, fabric, peer, filtered, min, max, next, .empty, .empty⟩
    ⟨some id, fabric, peer, filtered, min, max, next, paths, .empty⟩ (.context 7) fun start =>
      (decodes_entries AttributePath.decodes_decode paths).bind_pure
        (f := fun v => (⟨some id, fabric, peer, filtered, min, max, next, v, .empty⟩ : Fields P))
  have heventPaths := takes_paths ⟨some id, fabric, peer, filtered, min, max, next, paths, .empty⟩
    ⟨some id, fabric, peer, filtered, min, max, next, paths, eventPaths⟩ (.context 8) fun start =>
      (decodes_entries EventPath.decodes_decode eventPaths).bind_pure
        (f := fun v => (⟨some id, fabric, peer, filtered, min, max, next, paths, v⟩ : Fields P))
  exact hid.append hfabric |>.append hpeer |>.append hfiltered |>.append hmin |>.append hmax
    |>.append hnext |>.append hpaths |>.append heventPaths

end Persist

/-! ## Records, written -/

/-- Inside the array that `save` writes. -/
def inSave : Nesting := ⟨[.array], false⟩

/-- Inside the record of a subscription. -/
def inSaved : Nesting := ⟨[.array, .struct], false⟩

/-- Inside one of the arrays of a record. -/
def inPaths : Nesting := ⟨[.array, .struct, .array], false⟩

/-- Inside a path of a record. -/
def inPath : Nesting := ⟨[.array, .struct, .array, .list], false⟩

lemma check_inPath (t : UInt8) : inPath.check (.context t) = .ok () := rfl

lemma check_inSaved (t : UInt8) : inSaved.check (.context t) = .ok () := rfl

lemma lays_path {fields : List WriterCall} (h : Lays fields inPath inPath) :
    Lays (.start .anonymous .list :: (fields ++ [.endContainer])) inPaths inPaths :=
  .cons (emits_start (by decide) (by decide) .list)
    (h.append (.single (emits_endContainer (by decide))))

lemma AttributePath.lays_fieldCalls (p : AttributePath) : Lays p.fieldCalls inPath inPath := by
  have hinside : inPath.Inside := by decide
  have hunsigned : ∀ t v, Emits (WriterCall.unsigned (.context t) v).run inPath inPath 10 :=
    fun t v => emits_unsigned hinside (check_inPath t) v
  have hcompressed : Lays (if p.enableTagCompression then [.bool (.context 0) true] else [])
      inPath inPath := by
    split_ifs
    · exact .single (emits_bool hinside (check_inPath 0) true)
    · exact .nil _
  have hindex : ∀ v : ListIndex, Emits v.call.run inPath inPath 10 := by
    intro v
    cases v with
    | «at» index => exact hunsigned 5 index.toUInt64
    | append => exact (emits_head hinside (check_inPath 5) .null).mono (by decide)
  exact hcompressed.append (.option p.node (hunsigned 1))
    |>.append (.option p.endpoint fun v => hunsigned 2 v.toUInt64)
    |>.append (.option p.cluster fun v => hunsigned 3 v.toUInt64)
    |>.append (.option p.attributeId fun v => hunsigned 4 v.toUInt64)
    |>.append (.option p.listIndex hindex)
    |>.append (.option p.wildcardPathFlags fun v => hunsigned 6 v.toUInt64)
    |>.append (.option p.wildcardFilterConfigurationVersion fun v => hunsigned 7 v.toUInt64)

lemma EventPath.lays_fieldCalls (p : EventPath) : Lays p.fieldCalls inPath inPath := by
  have hinside : inPath.Inside := by decide
  have hunsigned : ∀ t v, Emits (WriterCall.unsigned (.context t) v).run inPath inPath 10 :=
    fun t v => emits_unsigned hinside (check_inPath t) v
  exact (Lays.option p.node (hunsigned 0)).append (.option p.endpoint fun v => hunsigned 1 v.toUInt64)
    |>.append (.option p.cluster fun v => hunsigned 2 v.toUInt64)
    |>.append (.option p.event fun v => hunsigned 3 v.toUInt64)
    |>.append (.option p.isUrgent fun v => emits_bool hinside (check_inPath 4) v)

namespace Persist

lemma lays_calls (s : Subscription P) : Lays (calls s) inSave inSave := by
  have hinside : inSaved.Inside := by decide
  have hunsigned : ∀ t v, Emits (WriterCall.unsigned (.context t) v).run inSaved inSaved 10 :=
    fun t v => emits_unsigned hinside (check_inSaved t) v
  have hbool : Emits (WriterCall.bool (.context 3) s.fabricFiltered).run inSaved inSaved 2 :=
    emits_bool hinside (check_inSaved 3) s.fabricFiltered
  have harray : ∀ t entries, Lays entries inPaths inPaths →
      Lays (.start (.context t) .array :: (entries ++ [.endContainer])) inSaved inSaved :=
    fun t entries h => .cons (emits_start (by decide) (check_inSaved t) .array)
      (h.append (.single (emits_endContainer (by decide))))
  have hfields : Lays (fieldCalls s) inSaved inSaved :=
    (Lays.single (hunsigned 0 s.id.toUInt64))
      |>.append (.option s.fabricIndex fun v => hunsigned 1 v.val.toUInt64)
      |>.append (.option s.peerNodeId fun v => hunsigned 2 v.val)
      |>.append (.single hbool)
      |>.append (.single (hunsigned 4 s.minIntervalS.toUInt64))
      |>.append (.single (hunsigned 5 s.maxIntervalS.toUInt64))
      |>.append (.single (hunsigned 6 s.nextEventNumber))
      |>.append (harray 7 _ (.flatMap _ fun p _ => lays_path p.lays_fieldCalls))
      |>.append (harray 8 _ (.flatMap _ fun p _ => lays_path p.lays_fieldCalls))
  exact .cons (emits_start (by decide) (by decide) .struct)
    (hfields.append (.single (emits_endContainer (by decide))))

end Persist

/-! ## What is kept -/

namespace Subscription

/-- A subscription that can be found again by its subscriber.
Source: `save`, `if subscription.fabric_index.is_none() || ..`. -/
def rebindable (s : Subscription P) : Bool := s.fabricIndex.isSome && s.peerNodeId.isSome

/-- A subscription after a reboot: it has no session and is to be primed in full. -/
def rebooted (now : Instant) (s : Subscription P) : Subscription P :=
  { s with
    session := none
    lastReport := now
    dirty := ⟨.empty, true⟩
    urgent := false
    reportedThrough := 0
    cursor := .start }

/-- A subscription is over something. -/
def Named (s : Subscription P) : Prop := ¬(s.paths.toList = [] ∧ s.eventPaths.toList = [])

end Subscription

namespace Persist

open Subscription

/-- The record of a subscription is read as what `fromDurable` makes the subscription of. -/
lemma decodes_decodeOne {s : Subscription P} (hbind : s.rebindable = true) (hnamed : s.Named)
    (now : Instant) : ∃ durable, SubscriptionTable.fromDurable durable now = s.rebooted now ∧
      Decodes decodeOne
        ((fieldCalls s ++ [WriterCall.endContainer]).map WriterCall.element) durable := by
  have hread := (takes_fieldCalls s).decodes_eachMember .anonymous
  obtain ⟨id, session, fabric, peer, filtered, min, max, paths, last, eventPaths, dirty, next, urgent,
    through, cursor⟩ := s
  obtain ⟨hfabric, hpeer⟩ : fabric.isSome = true ∧ peer.isSome = true := by
    simpa [rebindable] using hbind
  obtain ⟨fabric, rfl⟩ := Option.isSome_iff_exists.mp hfabric
  obtain ⟨peer, rfl⟩ := Option.isSome_iff_exists.mp hpeer
  have hempty : (paths.toList.isEmpty && eventPaths.toList.isEmpty) = false := by
    rw [Bool.eq_false_iff]
    intro h
    rw [Bool.and_eq_true, List.isEmpty_iff, List.isEmpty_iff] at h
    exact hnamed h
  refine ⟨⟨id, fabric, peer, filtered, min, max, next, paths, eventPaths⟩, rfl, ?_⟩
  rw [List.map_append]
  have hclose : (⟨some id, some fabric, some peer, filtered, min, max, next, paths, eventPaths⟩ :
      Fields P).close =
        .ok ⟨id, fabric, peer, filtered, min, max, next, paths, eventPaths⟩ := by
    simp only [Fields.close, hempty]
    rfl
  have h := hread.bind (f := fun f => ofResult f.close) (Decodes.ofResult hclose)
  rwa [List.append_nil] at h

/-- `save` writes the records of the rebindable subscriptions and counts them. -/
lemma saveEach_eq (l : List (Subscription P)) (kept : ℕ) : saveEach l kept = (do
      WriterCall.runAll ((l.filter rebindable).flatMap calls)
      pure (kept + (l.filter rebindable).length)) := by
  induction l generalizing kept with
  | nil => rfl
  | cons s l ih =>
    have hskip : (s.fabricIndex.isNone || s.peerNodeId.isNone) = !s.rebindable := by
      rw [rebindable, Bool.not_and, Option.not_isSome, Option.not_isSome]
    rw [saveEach, hskip]
    cases hbind : s.rebindable with
    | false =>
      rw [ih, List.filter_cons_of_neg (by simp [hbind])]
      rfl
    | true =>
      rw [List.filter_cons_of_pos hbind, List.flatMap_cons, List.length_cons,
        WriterCall.runAll_append, bind_assoc, encodeOne_eq_runAll]
      simp only [Bool.not_true, Bool.false_eq_true, if_false, ih]
      rw [Nat.add_assoc, Nat.add_comm 1]

/-- The calls of `save`. -/
def saveCalls (t : SubscriptionTable N P) (tag : Tag) : List WriterCall :=
  .start tag .array ::
    ((t.subscriptions.toList.filter rebindable).flatMap calls ++ [.endContainer])

lemma save_eq (t : SubscriptionTable N P) (tag : Tag) : save t tag = (do
      WriterCall.runAll (saveCalls t tag)
      pure (t.subscriptions.toList.filter rebindable).length) := by
  simp only [save, saveCalls, saveEach_eq, WriterCall.runAll, WriterCall.runAll_append, bind_assoc,
    pure_bind, Nat.zero_add]
  rfl

end Persist

namespace SubscriptionTable

@[simp] lemma reserveId_subscriptions (t : SubscriptionTable N P) (id : UInt32) :
    (t.reserveId id).subscriptions = t.subscriptions := by
  unfold reserveId
  split_ifs
  · rfl
  · rfl

lemma reserveId_lastId (t : SubscriptionTable N P) (id : UInt32) :
    (t.reserveId id).lastId = if id > t.lastId then id else t.lastId := by
  unfold reserveId
  split_ifs
  · rfl
  · rfl

/-- A record is inserted where its id is free and there is room. -/
lemma insertRestored_eq {t : SubscriptionTable N P} {durable : Durable P}
    (hfresh : ∀ s ∈ t.subscriptions.toList, s.id ≠ durable.id)
    (hroom : t.subscriptions.toList.length < N) (now : Instant) :
    ∃ t', t.insertRestored durable now = .ok t' ∧
      t'.subscriptions.toList = t.subscriptions.toList ++ [fromDurable durable now] ∧
      t'.lastId = t.lastId := by
  have hfind : (t.find durable.id).isSome = false := by
    rw [find, Option.isSome_eq_false_iff, Option.isNone_iff_eq_none, List.find?_eq_none]
    intro s hs
    simpa using hfresh s hs
  have hpush := BoundedVec.push_eq_some_iff.mpr
    ⟨hroom, (rfl : (⟨t.subscriptions.toList ++ [fromDurable durable now], by
      simpa using hroom⟩ : BoundedVec (Subscription P) N).toList = _)⟩
  unfold insertRestored
  rw [if_neg (by simp [hfind]), hpush]
  exact ⟨_, rfl, rfl, rfl⟩

/-- A record that is inserted was free and is appended. -/
lemma insertRestored_of_ok {t t' : SubscriptionTable N P} {durable : Durable P} {now : Instant}
    (h : t.insertRestored durable now = .ok t') : (∀ s ∈ t.subscriptions.toList, s.id ≠ durable.id) ∧
      t'.subscriptions.toList = t.subscriptions.toList ++ [fromDurable durable now] ∧
      t'.lastId = t.lastId := by
  unfold insertRestored at h
  split_ifs at h with hfind
  refine ⟨?_, ?_⟩
  · intro s hs heq
    apply hfind
    rw [find, List.find?_isSome]
    exact ⟨s, hs, beq_iff_eq.mpr heq⟩
  · rcases hpush : t.subscriptions.push (fromDurable durable now) with _ | subscriptions
    · rw [hpush] at h
      cases h
    · rw [hpush] at h
      cases h
      exact ⟨(BoundedVec.push_eq_some_iff.mp hpush).2, rfl⟩

end SubscriptionTable

namespace Persist

open Subscription

/-- The ids that a table has reserved after those of `l`. -/
def reserved (last : UInt32) (l : List (Subscription P)) : UInt32 :=
  l.foldl (fun last s => if s.id > last then s.id else last) last

variable {t : SubscriptionTable N P} {tag : Tag} {w : TlvWriter}

/-- Records that are read into a table with room for them and without their ids. -/
lemma restoreFrom_eq (now : Instant) (l : List (Subscription P))
    (hl : ∀ s ∈ l, s.rebindable = true ∧ s.Named) {r r' : TlvReader} (rounds restored : ℕ)
    (hrounds : (l.flatMap calls).length < rounds)
    (hy : Yields r ((l.flatMap calls ++ [WriterCall.endContainer]).map WriterCall.element) r')
    (hroom : t.subscriptions.toList.length + l.length ≤ N)
    (hids : KeysUnique Subscription.id (t.subscriptions.toList ++ l)) : ∃ t' : SubscriptionTable N P,
      restoreFrom now rounds restored r t = (.ok (restored + l.length), t') ∧
      t'.subscriptions.toList = t.subscriptions.toList ++ l.map (rebooted now) ∧
      t'.lastId = reserved t.lastId l := by
  induction l generalizing r t rounds restored with
  | nil =>
    rcases rounds with _ | rounds
    · omega
    cases hy with
    | cons first _ =>
      refine ⟨t, ?_, (List.append_nil _).symm, rfl⟩
      rw [restoreFrom, first]
      rfl
  | cons s l ih =>
    rcases rounds with _ | rounds
    · omega
    obtain ⟨hbind, hnamed⟩ := hl s List.mem_cons_self
    obtain ⟨durable, hsub, hdecodes⟩ := decodes_decodeOne hbind hnamed now
    rw [List.flatMap_cons, calls, List.cons_append, List.cons_append, List.map_cons,
      List.append_assoc, List.map_append] at hy
    cases hy with
    | @cons _ r₁ _ _ _ first rest =>
      obtain ⟨r₂, hrecord, hothers⟩ := rest.of_append
      have hid : durable.id = s.id := congrArg Subscription.id hsub
      have hfresh : ∀ s' ∈ (t.reserveId durable.id).subscriptions.toList, s'.id ≠ durable.id := by
        rw [SubscriptionTable.reserveId_subscriptions, hid]
        intro s' hs' heq
        rw [KeysUnique, List.map_append, List.nodup_append] at hids
        exact hids.2.2 s'.id (List.mem_map_of_mem hs') s.id (List.mem_map_of_mem List.mem_cons_self) heq
      rw [List.length_cons] at hroom
      obtain ⟨t₁, hinsert, hlist, hlast⟩ := SubscriptionTable.insertRestored_eq hfresh
        (by rw [SubscriptionTable.reserveId_subscriptions]; omega) now
      rw [SubscriptionTable.reserveId_subscriptions, hsub] at hlist
      rw [SubscriptionTable.reserveId_lastId, hid] at hlast
      have hids₁ : KeysUnique Subscription.id (t₁.subscriptions.toList ++ l) := by
        rw [KeysUnique] at hids ⊢
        simpa [hlist, rebooted] using hids
      rw [List.flatMap_cons, List.length_append] at hrounds
      obtain ⟨t', hrest, hlist', hlast'⟩ := ih (fun s' hs' => hl s' (List.mem_cons_of_mem _ hs')) rounds (restored + 1)
        (by have : 0 < (calls s).length := Nat.succ_pos _; omega) hothers
        (by rw [hlist, List.length_append, List.length_singleton]; omega) hids₁
      refine ⟨t', ?_, ?_, ?_⟩
      · rw [restoreFrom, first]
        simp only [WriterCall.element, reduceCtorEq, if_false, Value.container?, ne_eq, not_true]
        rw [hdecodes r₁ r₂ hrecord]
        simp only [hinsert]
        rw [hrest, List.length_cons, Nat.add_assoc, Nat.add_comm 1]
      · rw [hlist', hlist, List.append_assoc]
        rfl
      · rw [hlast', hlast]
        rfl

lemma le_reserved (last : UInt32) (l : List (Subscription P)) :
    last ≤ reserved last l ∧ ∀ s ∈ l, s.id ≤ reserved last l := by
  induction l generalizing last with
  | nil => exact ⟨UInt32.le_refl last, fun s hs => absurd hs List.not_mem_nil⟩
  | cons s l ih =>
    obtain ⟨hlast, hl⟩ := ih (if s.id > last then s.id else last)
    have hmax : last ≤ (if s.id > last then s.id else last) ∧
        s.id ≤ (if s.id > last then s.id else last) := by
      split_ifs with h
      · exact ⟨UInt32.le_of_lt h, UInt32.le_refl _⟩
      · exact ⟨UInt32.le_refl _, UInt32.not_lt.mp h⟩
    refine ⟨UInt32.le_trans hmax.1 hlast, ?_⟩
    intro s' hs'
    rcases List.mem_cons.mp hs' with rfl | hs'
    · exact UInt32.le_trans hmax.2 hlast
    · exact hl s' hs'

/-- Under a tag that may stand at the top level, the calls of `save` end with a complete element. -/
lemma lays_saveCalls (t : SubscriptionTable N P) (htag : tag.isContext = false) :
    Lays (saveCalls t tag) ⟨[], false⟩ ⟨[], true⟩ := by
  have hcheck : (⟨[], false⟩ : Nesting).check tag = .ok () := by
    simp [Nesting.check, Tag.allowedIn, htag]
  exact .cons (emits_start (by decide) hcheck .array)
    ((Lays.flatMap _ fun s _ => lays_calls s).append (.single (emits_endContainer (by decide))))

/-- A new writer takes the calls of `save` only under a tag that may stand at the top level. -/
lemma isContext_of_saveCalls {buf : Slice}
    (h : exec (WriterCall.runAll (saveCalls t tag)) (.new buf) = (.ok (), w)) : tag.isContext = false := by
  obtain ⟨_, w₁, hstart, -⟩ := exec_bind_eq_ok.mp h
  have hallowed := (start_eq_ok.mp hstart).2.1.allowed
  exact Bool.eq_false_of_not_eq_true' hallowed

/-- What a table with distinct ids saves, an empty table restores. -/
lemma restore_save {t t₀ : SubscriptionTable N P} (hids : KeysUnique Subscription.id t.subscriptions.toList)
    (hnamed : ∀ s ∈ t.subscriptions.toList, s.Named) (hempty : t₀.subscriptions.toList = [])
    {buf : Slice} (hsave : exec (WriterCall.runAll (saveCalls t tag)) (.new buf) = (.ok (), w))
    (now : Instant) : ∃ t', restore t₀ w.written now =
        (.ok (t.subscriptions.toList.filter rebindable).length, t') ∧
      t'.subscriptions.toList = (t.subscriptions.toList.filter rebindable).map (rebooted now) ∧
      t'.lastId = reserved t₀.lastId (t.subscriptions.toList.filter rebindable) := by
  generalize hl : t.subscriptions.toList.filter rebindable = l at *
  have hcalls : saveCalls t tag = .start tag .array :: (l.flatMap calls ++ [.endContainer]) := by
    rw [saveCalls, hl]
  have hkept : ∀ s ∈ l, s.rebindable = true ∧ s.Named := by
    intro s hs
    rw [← hl, List.mem_filter] at hs
    exact ⟨hs.2, hnamed s hs.1⟩
  have hroom : l.length ≤ N := by
    rw [← hl]
    exact (List.length_filter_le _ _).trans t.subscriptions.length_le
  have hunique : KeysUnique Subscription.id (t₀.subscriptions.toList ++ l) := by
    rw [hempty, List.nil_append, ← hl]
    exact hids.filter _
  obtain ⟨bytes, hwritten, hread⟩ := runAll_read_back hsave
  have hbytes : w.written = bytes := by
    rw [hwritten]
    show (if 0 ≤ buf.octets.length then buf.octets.take 0 else []) ++ bytes = bytes
    simp
  have hfaces : (TlvReader.new bytes).Faces (bytes ++ []) := by
    rw [List.append_nil]
    exact TlvReader.faces_new bytes
  obtain ⟨r', hyields, -, -⟩ := hread _ [] (InStep.new buf bytes) hfaces
  rw [hcalls, List.map_cons] at hyields
  cases hyields with
  | @cons _ r₁ _ _ _ first others =>
    have hlen := others.length_le
    rw [List.length_map, List.length_append, List.length_singleton] at hlen
    obtain ⟨t', hrestore, hlist, hlast⟩ := restoreFrom_eq now l hkept
      (r₁.buf.length - r₁.pos + 1) 0 (by omega) others
      (by rw [hempty, List.length_nil, Nat.zero_add]; exact hroom) hunique
    refine ⟨t', ?_, by rw [hlist, hempty, List.nil_append], hlast⟩
    rw [hbytes, restore, first]
    simp only [WriterCall.element, Value.container?, ne_eq, not_true, if_false]
    rw [hrestore, Nat.zero_add]

end Persist

/-! ## Runs -/

variable {η ν : Type}

/-- A call on a table: one of `TableOp`, one that ends subscriptions, one for an event, or one of
`im/persist.rs`. -/
inductive StoreOp (η ν : Type)
  | onTable (op : TableOp η ν)
  | remove (id : UInt32)
  | removeForSession (session : Option SessionId)
  | removeForFabric (fabric : FabricIndex)
  | noteEvent (endpoint : EndpointId) (cluster : ClusterId) (event : EventId)
  | restore (bytes : List UInt8) (now : Instant)
  | rebind (fabric : FabricIndex) (peer : NodeId) (session : SessionId) (now : Instant)

namespace StoreOp

/-- The table after a call. -/
def step (t : SubscriptionTable N P) : StoreOp η ν → SubscriptionTable N P
  | onTable op => op.step t
  | remove id => t.remove id
  | removeForSession session => t.removeForSession session
  | removeForFabric fabric => t.removeForFabric fabric
  | noteEvent endpoint cluster event => t.noteEvent endpoint cluster event
  | restore bytes now => (Persist.restore t bytes now).2
  | rebind fabric peer session now => Persist.rebind t fabric peer session now

/-- A request that is admitted finds an unused id. -/
def FindsId (t : SubscriptionTable N P) : StoreOp η ν → Prop
  | onTable (.subscribe config request now) => (ShareOp.subscribe request now).FindsId config t
  | _ => True

/-- The counter of ids does not wrap. -/
def Advances (t : SubscriptionTable N P) (op : StoreOp η ν) : Prop := t.lastId ≤ (op.step t).lastId

end StoreOp

/-! ## What runs keep -/

/-- What no call changes of a subscription. -/
def Subscription.core (s : Subscription P) : UInt32 × List AttributePath × List EventPath :=
  (s.id, s.paths.toList, s.eventPaths.toList)

namespace SubscriptionTable

/-- The ids of a table are distinct, and its subscriptions are over something. -/
structure Storable (t : SubscriptionTable N P) : Prop where
  unique : KeysUnique Subscription.id t.subscriptions.toList
  named : ∀ s ∈ t.subscriptions.toList, s.Named

namespace Storable

variable {t t' : SubscriptionTable N P}

lemma new : Storable (new : SubscriptionTable N P) :=
  ⟨.nil, fun _ hs => absurd hs List.not_mem_nil⟩

lemma of_sublist (h : t.Storable)
    (hsub : t'.subscriptions.toList.Sublist t.subscriptions.toList) : t'.Storable :=
  ⟨h.unique.sublist (hsub.map _), fun s hs => h.named s (hsub.subset hs)⟩

lemma of_core (h : t.Storable) (hcore : t'.subscriptions.toList.map Subscription.core =
    t.subscriptions.toList.map Subscription.core) : t'.Storable := by
  constructor
  · have hids := congrArg (List.map Prod.fst) hcore
    rw [List.map_map, List.map_map] at hids
    show (t'.subscriptions.toList.map (Prod.fst ∘ Subscription.core)).Nodup
    rw [hids]
    exact h.unique
  · intro s hs
    have hmem : s.core ∈ t.subscriptions.toList.map Subscription.core := by
      rw [← hcore]
      exact List.mem_map_of_mem hs
    obtain ⟨s', hs', heq⟩ := List.mem_map.mp hmem
    have hpaths : s'.paths.toList = s.paths.toList := congrArg (·.2.1) heq
    have hevents : s'.eventPaths.toList = s.eventPaths.toList := congrArg (·.2.2) heq
    have hnamed := h.named s' hs'
    rw [Subscription.Named, hpaths, hevents] at hnamed
    exact hnamed

lemma append (h : t.Storable) {sub : Subscription P}
    (hlist : t'.subscriptions.toList = t.subscriptions.toList ++ [sub])
    (hfresh : ∀ s ∈ t.subscriptions.toList, s.id ≠ sub.id) (hnamed : sub.Named) : t'.Storable := by
  constructor
  · rw [hlist]
    exact h.unique.append_singleton hfresh
  · intro s hs
    rw [hlist, List.mem_append, List.mem_singleton] at hs
    rcases hs with hs | rfl
    · exact h.named s hs
    · exact hnamed

end Storable

variable {t : SubscriptionTable N P} {f : Subscription P → Subscription P}

/-- A change of one subscription that leaves its core. -/
lemma Storable.modifyId (h : t.Storable) (id : UInt32) (hf : ∀ s, (f s).core = s.core) :
    (t.modifyId id f).Storable :=
  h.of_core (map_modifyFirst (fun s => hf s) _)

/-- A change of every subscription that leaves its core. -/
lemma Storable.modifyAll (h : t.Storable) (hf : ∀ s, (f s).core = s.core) : (t.modifyAll f).Storable := by
  refine h.of_core ?_
  rw [show (t.modifyAll f).subscriptions.toList = t.subscriptions.toList.map f from rfl, List.map_map]
  exact List.map_congr_left fun s _ => hf s

end SubscriptionTable

namespace Subscription

lemma core_noteChange (s : Subscription P) (path : AttributePath) : (s.noteChange path).core = s.core := by
  unfold noteChange
  split_ifs
  · rfl
  · rfl

lemma core_noteEvent (s : Subscription P) (endpoint : EndpointId) (cluster : ClusterId)
    (event : EventId) : (s.noteEvent endpoint cluster event).core = s.core := by
  unfold noteEvent
  split_ifs
  · rfl
  · rfl

lemma core_rebindOne (fabric : FabricIndex) (peer : NodeId) (session : SessionId) (now : Instant)
    (s : Subscription P) : (Persist.rebindOne fabric peer session now s).core = s.core := by
  unfold Persist.rebindOne
  split_ifs
  · rfl
  · rfl

lemma core_reportChunk (srv : Server η ν) (h : η) (v : ν) (reason : ReportReason)
    (ctx : InteractionContext) (scratch buf : Slice) (s : Subscription P) :
    (srv.reportChunk h v s reason ctx scratch buf).subscription.core = s.core := by
  cases reason with
  | keepAlive => rfl
  | data =>
    unfold Server.reportChunk
    simp only
    split
    · rfl
    · rfl

end Subscription

namespace Persist

open SubscriptionTable

/-- A record that is read is over something. -/
lemma named_of_decodeOne {r r' : TlvReader} {durable : Durable P}
    (h : exec decodeOne r = (.ok durable, r')) (now : Instant) : (fromDurable durable now).Named := by
  obtain ⟨f, r₁, -, hclose⟩ := exec_bind_eq_ok.mp h
  rw [exec_ofResult] at hclose
  have hok : f.close = .ok durable := (Prod.mk.inj hclose).1
  unfold Fields.close at hok
  split at hok
  · split_ifs at hok with hempty
    cases hok
    intro hnone
    apply hempty
    rw [Bool.and_eq_true, List.isEmpty_iff, List.isEmpty_iff]
    exact hnone
  · cases hok

/-- Whatever the octets, a table stays as it should be. -/
lemma storable_restoreFrom (now : Instant) (rounds restored : ℕ) (r : TlvReader)
    {t : SubscriptionTable N P} (h : t.Storable) : (restoreFrom now rounds restored r t).2.Storable := by
  induction rounds generalizing restored r t with
  | zero => exact h
  | succ rounds ih =>
    unfold restoreFrom
    split
    · exact h
    · exact h
    · rename_i item r₁ _
      split_ifs
      · exact h
      · exact h
      · split
        · exact h
        · rename_i durable r₂ hdecode
          have hreserved : (t.reserveId durable.id).Storable :=
            h.of_core (by rw [reserveId_subscriptions])
          simp only
          split
          · exact hreserved
          · rename_i t₁ hinsert
            obtain ⟨hfresh, hlist, -⟩ := insertRestored_of_ok hinsert
            exact ih _ _ (hreserved.append hlist hfresh (named_of_decodeOne hdecode now))

lemma storable_restore {t : SubscriptionTable N P} (h : t.Storable) (bytes : List UInt8)
    (now : Instant) : (restore t bytes now).2.Storable := by
  unfold restore
  split
  · exact h
  · exact h
  · split_ifs
    · exact h
    · exact storable_restoreFrom now _ 0 _ h

end Persist

namespace StoreOp

open SubscriptionTable

variable {t : SubscriptionTable N P} {ops : List (StoreOp η ν)}

/-- A call leaves a table as it should be if it finds an id where it needs one. -/
lemma storable_step (h : t.Storable) (op : StoreOp η ν) (hop : op.FindsId t) : (op.step t).Storable := by
  cases op with
  | onTable op =>
    cases op with
    | subscribe config r now =>
      have hforget : (t.forget r).Storable := h.of_sublist (t.forget_sublist r)
      show (t.subscribe config r now).2.Storable
      rcases t.subscribe_cases config r now with
        ⟨hadmitted, sub, hid, -, -, hpaths, hevents, -, hlist, -⟩ | ⟨-, e, heq⟩
      · have hunused := (unused_allocateId_iff _).mpr (hop hadmitted)
        refine hforget.append hlist ?_ ?_
        · rw [hid]
          exact hunused.2
        · rw [Subscription.Named, hpaths, hevents]
          exact hadmitted.1.1
      · rw [heq]
        exact hforget
    | noteChange path => exact h.modifyAll fun s => s.core_noteChange path
    | noteClusterChange endpoint cluster | reprimeAll => exact h.modifyAll fun _ => rfl
    | reprime id => exact h.modifyId id fun _ => rfl
    | reportChunk id srv d v reason ctx scratch buf =>
      exact h.modifyId id fun s => s.core_reportChunk srv d v reason ctx scratch buf
    | reported id now => exact h.modifyId id fun _ => rfl
  | remove id => exact h.of_sublist List.eraseP_sublist
  | removeForSession session | removeForFabric fabric => exact h.of_sublist List.filter_sublist
  | noteEvent endpoint cluster event =>
    exact h.modifyAll fun s => s.core_noteEvent endpoint cluster event
  | restore bytes now => exact Persist.storable_restore h bytes now
  | rebind fabric peer session now =>
    exact h.modifyAll fun s => s.core_rebindOne fabric peer session now

/-- Along a run whose requests find unused ids, the table stays as it should be. -/
lemma storable_run (h : t.Storable) (hops : Throughout step FindsId t ops) : (ops.foldl step t).Storable :=
  Throughout.invariant (I := Storable) (fun _ op h hop => storable_step h op hop) h hops

/-- While the counter of ids does not wrap, it stays above what it was. -/
lemma lastId_le_run (hops : Throughout step Advances t ops) : t.lastId ≤ (ops.foldl step t).lastId :=
  Throughout.invariant (I := fun t' : SubscriptionTable N P => t.lastId ≤ t'.lastId)
    (fun _ _ h hop => UInt32.le_trans h hop) (UInt32.le_refl _) hops

/-- An id is some way ahead of the last. -/
lemma allocateIdIn_eq (t : SubscriptionTable N P) (rounds : ℕ) (last : UInt32) :
    ∃ k ≤ rounds, t.allocateIdIn rounds last = last + UInt32.ofNat k ∧ (rounds ≠ 0 → k ≠ 0) := by
  induction rounds generalizing last with
  | zero => exact ⟨0, le_refl _, (UInt32.add_zero last).symm, fun h => absurd rfl h⟩
  | succ rounds ih =>
    rw [allocateIdIn]
    split_ifs
    · exact ⟨1, by omega, rfl, fun _ => one_ne_zero⟩
    · obtain ⟨k, hk, heq, -⟩ := ih (last + 1)
      refine ⟨k + 1, by omega, ?_, fun _ => Nat.succ_ne_zero k⟩
      rw [heq, UInt32.ofNat_add, UInt32.add_assoc, UInt32.add_comm 1]
      rfl

lemma allocateId_ne_lastId (t : SubscriptionTable N P) : t.allocateId ≠ t.lastId := by
  obtain ⟨k, hk, heq, hne⟩ := allocateIdIn_eq t (2 ^ 16) t.lastId
  intro h
  rw [allocateId, heq] at h
  have hnat := congrArg UInt32.toNat h
  have hpos : k ≠ 0 := hne (by norm_num)
  have hlt := t.lastId.toNat_lt
  rw [UInt32.toNat_add, UInt32.toNat_ofNat'] at hnat
  norm_num at hk
  omega

/-- An id that a request finds is not in use, and if the counter did not wrap it is above all that
were. -/
lemma subscribe_id {config : SubscriptionConfig} {r : NewSubscription} {now : Instant} {id : UInt32}
    (hfinds : (onTable (.subscribe config r now) : StoreOp η ν).FindsId t)
    (hok : (t.subscribe config r now).1 = .ok id) : (∀ s ∈ (t.forget r).subscriptions.toList, s.id ≠ id) ∧
      ((onTable (.subscribe config r now) : StoreOp η ν).Advances t → t.lastId < id) := by
  rcases t.subscribe_cases config r now with
    ⟨hadmitted, sub, hid, -, -, -, -, hfound, -, hlast⟩ | ⟨-, e, heq⟩
  · rw [hfound] at hok
    obtain rfl : (t.forget r).allocateId = id := Except.ok.inj hok
    refine ⟨((unused_allocateId_iff _).mpr (hfinds hadmitted)).2, ?_⟩
    intro hadvances
    have hle : t.lastId ≤ (t.forget r).allocateId := by
      rw [← hlast]
      exact hadvances
    have hne := allocateId_ne_lastId (t.forget r)
    have hsame : (t.forget r).lastId = t.lastId := by
      unfold forget
      split_ifs
      · rfl
      · rfl
    rw [hsame] at hne
    exact UInt32.lt_of_le_of_ne hle hne.symm
  · rw [heq] at hok
    cases hok

/-- From a table that a run has led to, what `save` writes is restored into an empty table: the
rebindable subscriptions, in order, without a session and to be primed in full. An id that is handed out
after that is not in use, and none of the restored ids as long as the counter has not wrapped. -/
theorem survives_reboot (ops : List (StoreOp η ν))
    (hops : Throughout step FindsId (new : SubscriptionTable N P) ops)
    (t₀ : SubscriptionTable N P) (hempty : t₀.subscriptions.toList = []) (buf : Slice) (tag : Tag)
    (now : Instant) :
    (∀ e, (exec (Persist.save (ops.foldl step (new : SubscriptionTable N P)) tag) (.new buf)).1 =
        .error e → tag.isContext = true ∨ e = .bufferTooSmall) ∧
      ∀ kept w, exec (Persist.save (ops.foldl step (new : SubscriptionTable N P)) tag) (.new buf) =
          (.ok kept, w) →
        ∃ bytes t', w.finish = .ok bytes ∧ Persist.restore t₀ bytes now = (.ok kept, t') ∧
          t'.subscriptions.toList =
            ((ops.foldl step (new : SubscriptionTable N P)).subscriptions.toList.filter
              Subscription.rebindable).map (Subscription.rebooted now) ∧
          ∀ (later : List (StoreOp η ν)) config request now' id,
            Throughout step FindsId t' (later ++ [onTable (.subscribe config request now')]) →
            ((later.foldl step t').subscribe config request now').1 = .ok id →
            (∀ s ∈ ((later.foldl step t').forget request).subscriptions.toList, s.id ≠ id) ∧
              (Throughout step Advances t' (later ++ [onTable (.subscribe config request now')]) →
                ∀ s ∈ t'.subscriptions.toList, s.id ≠ id) := by
  have hstorable := storable_run Storable.new hops
  generalize ops.foldl step (new : SubscriptionTable N P) = t at hstorable ⊢
  rw [Persist.save_eq]
  constructor
  · intro e he
    rw [or_iff_not_imp_left, Bool.not_eq_true]
    intro htag
    rcases (Persist.lays_saveCalls t htag).exec_new buf with ⟨w, hrun, -, -⟩ | ⟨w, hrun⟩
    · rw [exec_bind_ok hrun] at he
      cases he
    · rw [exec_bind_error hrun] at he
      exact (Except.error.inj he).symm
  · intro kept w hsave
    obtain ⟨_, w, hrun, hcount⟩ := exec_bind_eq_ok.mp hsave
    cases hcount
    have htag := Persist.isContext_of_saveCalls hrun
    obtain ⟨t', hrestore, hlist, hlast⟩ :=
      Persist.restore_save hstorable.unique hstorable.named hempty hrun now
    have hfinish : w.finish = .ok w.written := by
      rcases (Persist.lays_saveCalls t htag).exec_new buf with
        ⟨w', hrun', hsound, hnesting, htop⟩ | ⟨w', hrun'⟩
      · rw [hrun] at hrun'
        cases hrun'
        exact TlvWriter.finish_of_nesting hsound hnesting htop
      · rw [hrun] at hrun'
        cases hrun'
    refine ⟨w.written, t', hfinish, hrestore, hlist, ?_⟩
    intro later config request now' id hfinds hok
    rw [Throughout.append_singleton_iff] at hfinds
    obtain ⟨hunused, habove⟩ := subscribe_id hfinds.2 hok
    refine ⟨hunused, ?_⟩
    intro hadvances s hs heq
    rw [Throughout.append_singleton_iff] at hadvances
    have hle : s.id ≤ t'.lastId := by
      rw [hlist] at hs
      obtain ⟨s', hs', rfl⟩ := List.mem_map.mp hs
      rw [hlast]
      exact (Persist.le_reserved _ _).2 s' hs'
    have hlt := UInt32.lt_of_le_of_lt (UInt32.le_trans hle (lastId_le_run hadvances.1))
      (habove hadvances.2)
    rw [heq] at hlt
    exact UInt32.lt_irrefl _ hlt

/-- A subscriber's request, with a path of each kind. -/
def asking : NewSubscription :=
  ⟨some ⟨7⟩, some ⟨1⟩, some ⟨9⟩, true, true, 0, 60,
    [.ofIds 1 6 0, { cluster := some 6, listIndex := some .append, enableTagCompression := true }],
    [{ endpoint := some 1, isUrgent := some true }], 5⟩

/-- The octets that `save` writes of a table. -/
def stored (t : SubscriptionTable N P) : List UInt8 :=
  (exec (Persist.save t .anonymous) (.new (Lamp.room 256 Lamp.room_256))).2.written

/-- Two subscriptions are made, one of them of no fabric. -/
def twoMade : List (StoreOp Unit Unit) :=
  [.onTable (.subscribe ⟨5, 3⟩ asking ⟨0⟩),
    .onTable (.subscribe ⟨5, 3⟩ { asking with fabricIndex := none } ⟨0⟩)]

/-- The one with a fabric is there after a reboot. -/
theorem first_of_two_survives : ∃ bytes, ∃ t' : SubscriptionTable 16 3,
      Persist.restore (new : SubscriptionTable 16 3) bytes ⟨3⟩ = (.ok 1, t') ∧ t'.subscriptions.toList =
        ((twoMade.foldl step (new : SubscriptionTable 16 3)).subscriptions.toList.filter
          Subscription.rebindable).map (Subscription.rebooted ⟨3⟩) := by
  have hfinds : Throughout step FindsId (new : SubscriptionTable 16 3) twoMade :=
    ⟨ShareOp.findsId_of_lt (by decide) (.subscribe asking ⟨0⟩),
      ShareOp.findsId_of_lt (by decide) (.subscribe { asking with fabricIndex := none } ⟨0⟩), trivial⟩
  have hsave : (exec (Persist.save (twoMade.foldl step (new : SubscriptionTable 16 3)) .anonymous)
      (.new (Lamp.room 256 (by decide)))).1 = .ok 1 := by decide +kernel
  have h := (survives_reboot twoMade hfinds new rfl (Lamp.room 256 (by decide)) .anonymous ⟨3⟩).2
  generalize exec (Persist.save (twoMade.foldl step (new : SubscriptionTable 16 3)) .anonymous)
    (.new (Lamp.room 256 (by decide))) = run at hsave h
  obtain ⟨result, w⟩ := run
  obtain rfl : result = .ok 1 := hsave
  obtain ⟨bytes, t', -, hrestore, hlist, -⟩ := h 1 w rfl
  exact ⟨bytes, t', hrestore, hlist⟩

/-- A store that holds the first and the last of all ids. -/
def farApart : SubscriptionTable 16 3 :=
  (twoMade.foldl step (new : SubscriptionTable 16 3)).modifyAll fun s =>
    { s with id := if s.id = 2 then 0xFFFFFFFF else s.id, fabricIndex := some ⟨1⟩ }

/-- A table that is read from that store. -/
def reread : List (StoreOp Unit Unit) := [.restore (stored farApart) ⟨0⟩]

/-- That table is saved and restored, and then its first id is removed. The next request is given
it. -/
theorem removed_id_comes_again :
    ¬∀ (ops later : List (StoreOp Unit Unit)) (request : NewSubscription) (kept : ℕ) (id : UInt32)
        (t' : SubscriptionTable 16 3),
      (exec (Persist.save (ops.foldl step (new : SubscriptionTable 16 3)) .anonymous)
        (.new (Lamp.room 256 (by decide)))).1 = .ok kept →
      Persist.restore new (stored (ops.foldl step (new : SubscriptionTable 16 3))) ⟨0⟩ = (.ok kept, t') →
      ((later.foldl step t').subscribe ⟨5, 3⟩ request ⟨0⟩).1 = .ok id →
      ∀ s ∈ t'.subscriptions.toList, s.id ≠ id := by
  intro h
  have hrun : (exec (Persist.save (reread.foldl step (new : SubscriptionTable 16 3)) .anonymous)
        (.new (Lamp.room 256 (by decide)))).1 = .ok 2 ∧
      (Persist.restore (new : SubscriptionTable 16 3)
        (stored (reread.foldl step (new : SubscriptionTable 16 3))) ⟨0⟩).1 = .ok 2 ∧
      ((Persist.restore (new : SubscriptionTable 16 3)
        (stored (reread.foldl step (new : SubscriptionTable 16 3))) ⟨0⟩).2.remove 1
          |>.subscribe ⟨5, 3⟩ asking ⟨0⟩).1 = .ok 1 ∧
      ((Persist.restore (new : SubscriptionTable 16 3)
        (stored (reread.foldl step (new : SubscriptionTable 16 3))) ⟨0⟩).2.subscriptions.toList.any
          fun s => s.id == 1) = true := by
    decide +kernel
  obtain ⟨hsave, hok, hagain, hmem⟩ := hrun
  have hid := h reread [.remove 1] asking 2 1
  generalize Persist.restore (new : SubscriptionTable 16 3)
    (stored (reread.foldl step (new : SubscriptionTable 16 3))) ⟨0⟩ = run at hok hagain hmem hid
  obtain ⟨result, t'⟩ := run
  obtain rfl : result = .ok 2 := hok
  obtain ⟨s, hs, heq⟩ := List.any_eq_true.mp hmem
  exact hid t' hsave rfl hagain s hs (beq_iff_eq.mp heq)

end StoreOp

end MatterKit.Im
