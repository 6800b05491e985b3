import MatterKit.Acl
import MatterKit.Im.Write

/-!
# The Access Control cluster

`clusters/access_control.rs`: the writes of the `ACL` attribute, and the record of each change to it.

A replacement can be refused part way, by an entry that is not well formed or beyond the fabric's share,
and the list then stays as far as it was rebuilt (`Rebuilt`). The records come after that point, so such
a write leaves none. `Audited` says of a write what the records are for: applied to the fabric's list
before the write they give its list after it, they name the fabric and the administrator, and no other
fabric's entries change.
-/

namespace MatterKit.Clusters

open Lib Machine Tlv Dm Im

/-! ## Records -/

/-- Source: `ChangeType`. -/
inductive ChangeType
  | changed
  | added
  | removed

/-- Source: `PENDING`. -/
def pendingCapacity : ℕ := 8

/-- Source: `EntryChanged`. -/
structure EntryChanged (S T : ℕ) where
  adminNodeId : Option NodeId
  adminPasscodeId : Option UInt16
  changeType : ChangeType
  latestValue : Option (Entry S T)
  fabricIndex : FabricIndex

/-- Source: `EntryChanged::for_session`. -/
def EntryChanged.forSession {S T : ℕ} (ctx : InteractionContext) (changeType : ChangeType)
    (latestValue : Option (Entry S T)) : EntryChanged S T :=
  let fabricIndex := ctx.fabricIndex.getD ⟨0⟩
  match ctx.peerNodeId with
  | some nodeId => ⟨some nodeId, none, changeType, latestValue, fabricIndex⟩
  | none => ⟨none, some 0, changeType, latestValue, fabricIndex⟩

/-! ## Decoding -/

/-- A decoder that answers with a status. -/
abbrev Decoding (α : Type) := Machine TlvReader Status α

/-- Source: Rust `map_err(|_| status)`. -/
def orStatus {α : Type} (x : Reading α) (status : Status) : Decoding α :=
  ExceptT.mk do
    match ← ExceptT.run x with
    | .ok a => pure (.ok a)
    | .error _ => pure (.error status)

/-- The loop of every decoder here: each member goes to `step`, up to the end of the container.
Source: the `loop`s of `decode_entry`, `decode_target` and `AccessControl::write`. -/
def membersFrom {β : Type} (step : Element → β → Decoding β) : ℕ → β → Decoding β
  | 0, _ => throw .invalidAction
  | rounds + 1, acc => do
    match ← orStatus nextElement .invalidAction with
    | none => throw .invalidAction
    | some e =>
      if e.value = .endOfContainer then pure acc
      else do
        let acc ← step e acc
        membersFrom step rounds acc

/-- The members of the container the cursor has just entered; each takes an octet at least. -/
def members {β : Type} (step : Element → β → Decoding β) (init : β) : Decoding β := do
  let r ← get
  membersFrom step (r.buf.length - r.pos + 1) init

/-- Source: Rust `ok_or(status)`. -/
def okOr {α : Type} (x : Option α) (status : Status) : Decoding α :=
  match x with
  | some a => pure a
  | none => throw status

/-- Source: `privilege_from_value`. -/
def privilegeFromValue (value : UInt64) : Option Privilege :=
  if value = 1 then some .view
  else if value = 2 then some .proxyView
  else if value = 3 then some .operate
  else if value = 4 then some .manage
  else if value = 5 then some .administer
  else none

/-- Source: `acl.rs`, `AuthMode::from_value`. -/
def authModeFromValue (value : UInt8) : Option AuthMode :=
  if value = 1 then some .pase
  else if value = 2 then some .case
  else if value = 3 then some .group
  else none

/-- Source: `decode_target`, the body of its loop. -/
def decodeTargetField (e : Element) (target : Target) : Decoding Target :=
  if e.value = .null then pure target
  else do
    let value ← orStatus (ofResult e.unsigned) .constraintError
    match e.tag.context? with
    | some 0 => do
      let id ← orStatus (ofResult (narrow32 value)) .constraintError
      pure { target with cluster := some id }
    | some 1 => do
      let id ← orStatus (ofResult (narrow16 value)) .constraintError
      pure { target with endpoint := some id }
    | some 2 => do
      let id ← orStatus (ofResult (narrow32 value)) .constraintError
      pure { target with deviceType := some id }
    | _ => pure target

/-- Source: `decode_target`. -/
def decodeTarget : Decoding Target := do
  let target ← members decodeTargetField {}
  if target.isValid then pure target else throw .constraintError

section entries

variable {N S T : ℕ}

/-- Source: `decode_entry`, its variables. -/
structure EntryFields (S T : ℕ) where
  privilege : Option Privilege
  authMode : Option AuthMode
  subjects : BoundedVec NodeId S
  targets : BoundedVec Target T

/-- Source: `decode_entry`, the loop of `Some(3)`. -/
def decodeSubject (item : Element) (subjects : BoundedVec NodeId S) :
    Decoding (BoundedVec NodeId S) := do
  let id ← orStatus (ofResult item.unsigned) .constraintError
  okOr (subjects.push ⟨id⟩) .resourceExhausted

/-- Source: `decode_entry`, the loop of `Some(4)`. -/
def decodeTargetItem (item : Element) (targets : BoundedVec Target T) :
    Decoding (BoundedVec Target T) := do
  require (item.value.container? = some .struct) .invalidAction
  let target ← decodeTarget
  okOr (targets.push target) .resourceExhausted

/-- Source: `decode_entry`, `match element.tag.context()`. -/
def decodeEntryField (e : Element) (f : EntryFields S T) : Decoding (EntryFields S T) :=
  match e.tag.context? with
  | some 1 => do
    let value ← orStatus (ofResult e.unsigned) .constraintError
    let privilege ← okOr (privilegeFromValue value) .constraintError
    pure { f with privilege := some privilege }
  | some 2 => do
    let value ← orStatus (ofResult e.unsigned) .constraintError
    let narrowed ← orStatus (ofResult (narrow8 value)) .constraintError
    let authMode ← okOr (authModeFromValue narrowed) .constraintError
    pure { f with authMode := some authMode }
  | some 3 =>
    if e.value = .null then pure f
    else do
      require (e.value.container? = some .array) .invalidAction
      let subjects ← members decodeSubject f.subjects
      pure { f with subjects := subjects }
  | some 4 =>
    if e.value = .null then pure f
    else do
      require (e.value.container? = some .array) .invalidAction
      let targets ← members decodeTargetItem f.targets
      pure { f with targets := targets }
  | _ => do
    orStatus (skipValue e) .invalidAction
    pure f

/-- Source: `decode_entry`. -/
def decodeEntry (fabricIndex : FabricIndex) : Decoding (Entry S T) := do
  let f ← members decodeEntryField ⟨none, none, .empty, .empty⟩
  let privilege ← okOr f.privilege .invalidAction
  let authMode ← okOr f.authMode .invalidAction
  pure ⟨fabricIndex, privilege, authMode, f.subjects, f.targets⟩

/-- Source: `AccessControl::write`, the loop of `WriteOp::Replace`. -/
def decodeItem (fabricIndex : FabricIndex) (item : Element) (replacement : BoundedVec (Entry S T) N) :
    Decoding (BoundedVec (Entry S T) N) := do
  require (item.value.container? = some .struct) .invalidAction
  let entry ← decodeEntry fabricIndex
  okOr (replacement.push entry) .resourceExhausted

/-- The element a write begins with.
Source: `AccessControl::write`, `let element`. -/
def firstElement : Decoding Element := do
  let e ← orStatus nextElement .invalidAction
  okOr e .invalidAction

/-- The entries a replacement writes.
Source: `AccessControl::write`, `WriteOp::Replace` up to `let removed`. -/
def decodeReplacement (fabricIndex : FabricIndex) (data : List UInt8) :
    Except Status (BoundedVec (Entry S T) N) :=
  let decode : Decoding (BoundedVec (Entry S T) N) := do
    let e ← firstElement
    require (e.value.container? = some .array) .invalidAction
    members (decodeItem fabricIndex) .empty
  (exec decode (TlvReader.newIn data .struct)).1

/-- The entry an addition writes.
Source: `AccessControl::write`, `WriteOp::Append` up to `let recorded`. -/
def decodeAddition (fabricIndex : FabricIndex) (data : List UInt8) : Except Status (Entry S T) :=
  let decode : Decoding (Entry S T) := do
    let e ← firstElement
    require (e.value.container? = some .struct) .invalidAction
    decodeEntry fabricIndex
  (exec decode (TlvReader.newIn data .struct)).1

end entries

/-! ## The cluster -/

/-- Source: `AccessControl`. -/
structure AccessControl (N S T : ℕ) where
  acl : Acl N S T
  pending : BoundedVec (EntryChanged S T) pendingCapacity

/-- Source: `ACL`. -/
def aclAttribute : AttributeId := 0x0000

/-- The old and the new list, position by position.
Source: `AccessControl::write`, the last loop of `WriteOp::Replace`. -/
def changes {α : Type} : List α → List α → List (ChangeType × α)
  | entry :: new, _ :: old => (.changed, entry) :: changes new old
  | entry :: new, [] => (.added, entry) :: changes new []
  | [], old => old.map fun entry => (.removed, entry)

namespace AccessControl

variable {N S T : ℕ}

/-- The records without the oldest, when there is no room for one more.
Source: `AccessControl::record`, `if pending.is_full()`. -/
def makeRoom (c : AccessControl N S T) : List (EntryChanged S T) :=
  if c.pending.toList.length = pendingCapacity then c.pending.toList.drop 1 else c.pending.toList

lemma length_makeRoom_lt (c : AccessControl N S T) : c.makeRoom.length < pendingCapacity := by
  have := c.pending.length_le
  unfold makeRoom
  split_ifs with hfull
  · rw [List.length_drop, hfull]
    decide
  · omega

/-- Source: `AccessControl::record`. -/
def record (c : AccessControl N S T) (change : EntryChanged S T) : AccessControl N S T :=
  { c with pending := ⟨c.makeRoom ++ [change], by
      rw [List.length_append]
      exact c.length_makeRoom_lt⟩ }

/-- Source: `AccessControl::take_changes`. -/
def takeChanges (c : AccessControl N S T) : List (EntryChanged S T) × AccessControl N S T :=
  (c.pending.toList, { c with pending := .empty })

/-- Source: `AccessControl::write`, `WriteOp::Replace` from `let removed` on. -/
def replaceEntries (c : AccessControl N S T) (config : AclConfig) (ctx : InteractionContext)
    (fabric : FabricIndex) (replacement : List (Entry S T)) :
    Except Status Unit × AccessControl N S T :=
  let removed := (c.acl.ofFabric fabric).take pendingCapacity
  match c.acl.replaceFabric config fabric replacement with
  | (.error _, acl) => (.error .constraintError, { c with acl := acl })
  | (.ok (), acl) =>
    let added := (acl.ofFabric fabric).take pendingCapacity
    (.ok (), (changes added removed).foldl
      (fun c change => c.record (.forSession ctx change.1 (some change.2))) { c with acl := acl })

/-- Source: `AccessControl::write`, `WriteOp::Append` from `let recorded` on. -/
def appendEntry (c : AccessControl N S T) (config : AclConfig) (ctx : InteractionContext)
    (entry : Entry S T) : Except Status Unit × AccessControl N S T :=
  match c.acl.add config entry with
  | (.error .noSpace, acl) => (.error .resourceExhausted, { c with acl := acl })
  | (.error _, acl) => (.error .constraintError, { c with acl := acl })
  | (.ok (), acl) => (.ok (), { c with acl := acl }.record (.forSession ctx .added (some entry)))

/-- Source: `AccessControl::write`. -/
def write (c : AccessControl N S T) (config : AclConfig) (attributeId : AttributeId)
    (data : List UInt8) (op : WriteOp) (ctx : InteractionContext) :
    Except Status Unit × AccessControl N S T :=
  if attributeId ≠ aclAttribute then (.error .unsupportedWrite, c)
  else
    match ctx.fabricIndex with
    | none => (.error .unsupportedAccess, c)
    | some fabric =>
      match op with
      | .replace =>
        match (decodeReplacement fabric data : Except Status (BoundedVec (Entry S T) N)) with
        | .error status => (.error status, c)
        | .ok replacement => c.replaceEntries config ctx fabric replacement.toList
      | .append =>
        match (decodeAddition fabric data : Except Status (Entry S T)) with
        | .error status => (.error status, c)
        | .ok entry => c.appendEntry config ctx entry

end AccessControl

/-! ## What records are for -/

section replay

variable {S T : ℕ}

/-- What a record does to a list that is gone through by it: a changed entry takes the place of the
next position, an added one goes to the end, and a removed one is taken from there. -/
def applyChange (at' : ℕ × List (Entry S T)) (record : EntryChanged S T) : ℕ × List (Entry S T) :=
  match record.changeType, record.latestValue with
  | .changed, some entry => (at'.1 + 1, at'.2.set at'.1 entry)
  | .added, some entry => (at'.1, at'.2 ++ [entry])
  | .removed, _ => (at'.1, at'.2.dropLast)
  | _, none => at'

/-- The list that a list and the records of a change to it come to. -/
def applyChanges (records : List (EntryChanged S T)) (old : List (Entry S T)) : List (Entry S T) :=
  (records.foldl applyChange (0, old)).2

/-- The record of a change.
Source: `AccessControl::write`, `EntryChanged::for_session(ctx, change_type, Some(entry))`. -/
def recordOf (ctx : InteractionContext) (change : ChangeType × Entry S T) : EntryChanged S T :=
  .forSession ctx change.1 (some change.2)

variable (ctx : InteractionContext)

lemma applyChange_recordOf (pos : ℕ) (l : List (Entry S T)) (entry : Entry S T) :
    applyChange (pos, l) (recordOf ctx (.changed, entry)) = (pos + 1, l.set pos entry) ∧
      applyChange (pos, l) (recordOf ctx (.added, entry)) = (pos, l ++ [entry]) ∧
      applyChange (pos, l) (recordOf ctx (.removed, entry)) = (pos, l.dropLast) := by
  unfold recordOf EntryChanged.forSession
  rcases ctx.peerNodeId with _ | nodeId <;> exact ⟨rfl, rfl, rfl⟩

lemma foldl_applyChange_added (new : List (Entry S T)) (pos : ℕ) (l : List (Entry S T)) :
    ((changes new []).map (recordOf ctx)).foldl applyChange (pos, l) = (pos, l ++ new) := by
  induction new generalizing l with
  | nil => simp [changes]
  | cons entry new ih =>
    rw [changes, List.map_cons, List.foldl_cons, (applyChange_recordOf ctx pos l entry).2.1, ih,
      List.append_assoc]
    rfl

lemma foldl_applyChange_removed (old : List (Entry S T)) (pos : ℕ)
    (l : List (Entry S T)) : ((changes [] old).map (recordOf ctx)).foldl applyChange (pos, l) =
      (pos, l.take (l.length - old.length)) := by
  unfold changes
  induction old generalizing l with
  | nil => simp
  | cons entry old ih =>
    rw [List.map_cons, List.map_cons, List.foldl_cons, (applyChange_recordOf ctx pos l entry).2.2, ih,
      List.length_dropLast, List.dropLast_eq_take, List.take_take, List.length_cons]
    congr 2
    omega

/-- The records of two lists, gone through from the first, lead to the second. -/
lemma foldl_applyChange_changes (new old front : List (Entry S T)) :
    (((changes new old).map (recordOf ctx)).foldl applyChange (front.length, front ++ old)).2 =
      front ++ new := by
  induction new generalizing old front with
  | nil =>
    rw [foldl_applyChange_removed]
    simp
  | cons entry new ih =>
    rcases old with _ | ⟨first, old⟩
    · rw [foldl_applyChange_added]
      simp
    · rw [changes, List.map_cons, List.foldl_cons, (applyChange_recordOf ctx _ _ entry).1]
      have := ih old (front ++ [entry])
      simpa using this

lemma applyChanges_changes (new old : List (Entry S T)) :
    applyChanges ((changes new old).map (recordOf ctx)) old = new :=
  foldl_applyChange_changes ctx new old []

lemma length_changes {α : Type} (new old : List α) :
    (changes new old).length = max new.length old.length := by
  induction new generalizing old with
  | nil => simp [changes]
  | cons entry new ih =>
    rcases old with _ | ⟨first, old⟩
    · simpa [changes] using ih []
    · simpa [changes] using ih old

end replay

/-! ## How far a list is rebuilt -/

section rebuilt

variable {N S T : ℕ} {config : AclConfig}

/-- The entries up to the first that is refused, with `others` entries of other fabrics in a list of
`N` and `held` of the fabric so far: one that is not well formed, or for which the fabric has no share or
the list no room left. -/
def accepted (N : ℕ) (config : AclConfig) (others : ℕ) :
    ℕ → List (Entry S T) → List (Entry S T)
  | _, [] => []
  | held, entry :: entries =>
    if entry.isWellFormed = true ∧ held < config.entriesPerFabric ∧ others + held < N then
      entry :: accepted N config others (held + 1) entries
    else []

lemma accepted_isPrefix (others held : ℕ) (entries : List (Entry S T)) :
    accepted N config others held entries <+: entries := by
  induction entries generalizing held with
  | nil => exact List.prefix_refl _
  | cons entry entries ih =>
    unfold accepted
    split_ifs
    · exact List.cons_prefix_cons.mpr ⟨rfl, ih _⟩
    · exact List.nil_prefix

lemma length_accepted_le (others held : ℕ) (entries : List (Entry S T))
    (hheld : held ≤ config.entriesPerFabric) :
    held + (accepted N config others held entries).length ≤ config.entriesPerFabric := by
  induction entries generalizing held with
  | nil => simpa [accepted] using hheld
  | cons entry entries ih =>
    unfold accepted
    split_ifs with h
    · have := ih (held + 1) h.2.1
      rw [List.length_cons]
      omega
    · simpa using hheld

variable {fabric : FabricIndex} {entries : List (Entry S T)}

/-- Entries of one fabric are added as far as they are accepted. -/
lemma addAll_eq (config : AclConfig) (a : Acl N S T) {others held : ℕ}
    (hentries : ∀ e ∈ entries, e.fabricIndex = fabric) (hheld : a.lenOfFabric fabric = held)
    (hlength : a.entries.toList.length = others + held) : (a.addAll config entries).2.entries.toList =
        a.entries.toList ++ accepted N config others held entries ∧
      ((a.addAll config entries).1 = .ok () ↔ accepted N config others held entries = entries) := by
  induction entries generalizing a held with
  | nil => simp [Acl.addAll, accepted]
  | cons entry entries ih =>
    have hfabric : entry.fabricIndex = fabric := hentries entry List.mem_cons_self
    unfold Acl.addAll accepted
    rcases a.add_cases config entry with ⟨hok, hresult, hlist⟩ | ⟨hnot, e, heq⟩
    · rw [hfabric, hheld, hlength] at hok
      rw [if_pos hok]
      rcases hadd : a.add config entry with ⟨result, a'⟩
      rw [hadd] at hresult hlist
      simp only at hresult hlist
      subst hresult
      have hheld' : a'.lenOfFabric fabric = held + 1 := by
        have hold : (a.entries.toList.filter fun e => e.fabricIndex == fabric).length = held := hheld
        unfold Acl.lenOfFabric Acl.ofFabric
        rw [hlist, List.filter_append, List.length_append, hold]
        simp [hfabric]
      have hlength' : a'.entries.toList.length = others + (held + 1) := by
        rw [hlist, List.length_append, hlength, List.length_singleton, Nat.add_assoc]
      obtain ⟨hentries', hiff⟩ := ih a' (fun e he => hentries e (List.mem_cons_of_mem _ he)) hheld'
        hlength'
      refine ⟨?_, ?_⟩
      · simp only
        rw [hentries', hlist, List.append_assoc]
        rfl
      · rw [List.cons.injEq, and_iff_right rfl]
        exact hiff
    · rw [hfabric, hheld, hlength] at hnot
      rw [if_neg hnot, heq]
      simp

/-- How far a replacement of a fabric's entries gets. -/
def rebuilt (config : AclConfig) (a : Acl N S T) (fabric : FabricIndex)
    (entries : List (Entry S T)) : List (Entry S T) :=
  accepted N config (a.removeFabric fabric).entries.toList.length 0 entries

lemma length_rebuilt_le (config : AclConfig) (a : Acl N S T) (fabric : FabricIndex)
    (entries : List (Entry S T)) : (rebuilt config a fabric entries).length ≤ config.entriesPerFabric := by
  have := length_accepted_le (N := N) (a.removeFabric fabric).entries.toList.length 0 entries
    (Nat.zero_le config.entriesPerFabric)
  rwa [Nat.zero_add] at this

lemma ofFabric_removeFabric (a : Acl N S T) (fabric other : FabricIndex) :
    (a.removeFabric fabric).ofFabric other = if other = fabric then [] else a.ofFabric other := by
  unfold Acl.ofFabric Acl.removeFabric BoundedVec.retain
  simp only [List.filter_filter]
  split_ifs with h
  · subst h
    simp
  · refine List.filter_congr fun e _ => ?_
    by_cases he : e.fabricIndex = other
    · simp [he, h]
    · simp [he]

/-- A replacement leaves the fabric with what could be rebuilt, and the others with what they had; it
succeeds if everything could. -/
lemma replaceFabric_eq (config : AclConfig) (a : Acl N S T)
    (hentries : ∀ e ∈ entries, e.fabricIndex = fabric) :
    (∀ other, (a.replaceFabric config fabric entries).2.ofFabric other =
        if other = fabric then rebuilt config a fabric entries else a.ofFabric other) ∧
      ((a.replaceFabric config fabric entries).1 = .ok () ↔
        rebuilt config a fabric entries = entries) := by
  have hheld : (a.removeFabric fabric).lenOfFabric fabric = 0 := by
    unfold Acl.lenOfFabric
    rw [ofFabric_removeFabric, if_pos rfl, List.length_nil]
  obtain ⟨hlist, hiff⟩ := addAll_eq config (a.removeFabric fabric) hentries hheld rfl
  change _ = _ ++ rebuilt config a fabric entries at hlist
  refine ⟨?_, hiff⟩
  intro other
  have hmem : ∀ e ∈ rebuilt config a fabric entries, e.fabricIndex = fabric :=
    fun e he => hentries e ((accepted_isPrefix _ _ _).subset he)
  have hold := ofFabric_removeFabric a fabric other
  unfold Acl.ofFabric at hold
  unfold Acl.replaceFabric Acl.ofFabric
  rw [hlist, List.filter_append, hold]
  split_ifs with h
  · rw [List.nil_append, List.filter_eq_self]
    intro e he
    simp [hmem e he, h]
  · rw [List.append_right_eq_self, List.filter_eq_nil_iff]
    intro e he
    simpa [hmem e he] using fun heq => h heq.symm

end rebuilt

/-! ## What is decoded belongs to the accessing fabric -/

section decoded

variable {N S T : ℕ}

lemma membersFrom_ensures {β : Type} {step : Element → β → Decoding β} {I : β → Prop}
    (hstep : ∀ e acc, I acc → Ensures (fun _ => True) (step e acc) fun acc _ => I acc) (rounds : ℕ)
    {acc : β} (hacc : I acc) :
    Ensures (fun _ => True) (membersFrom step rounds acc) fun acc _ => I acc := by
  induction rounds generalizing acc with
  | zero => exact Ensures.throw _
  | succ rounds ih =>
    refine Ensures.of_rest ?_
    rintro (_ | e)
    · exact Ensures.throw _
    · simp only
      split_ifs
      · exact Ensures.pure fun _ _ => hacc
      · refine Ensures.bind (hstep e acc hacc) fun acc' => ?_
        intro s hs a s' hrun
        exact ih hs s trivial a s' hrun

lemma members_ensures {β : Type} {step : Element → β → Decoding β} {I : β → Prop}
    (hstep : ∀ e acc, I acc → Ensures (fun _ => True) (step e acc) fun acc _ => I acc) {init : β}
    (hinit : I init) : Ensures (fun _ => True) (members step init) fun acc _ => I acc :=
  Ensures.get fun _ => (membersFrom_ensures hstep _ hinit).weaken (fun _ _ => trivial) fun _ _ h => h

lemma okOr_ensures {α : Type} (x : Option α) (status : Status) :
    Ensures (fun _ => True) (okOr x status) fun a _ => x = some a := by
  rcases x with _ | a
  · exact Ensures.throw _
  · exact Ensures.pure fun _ _ => rfl

lemma decodeEntry_ensures (fabric : FabricIndex) :
    Ensures (fun _ => True) (decodeEntry fabric : Decoding (Entry S T))
      fun e _ => e.fabricIndex = fabric := by
  refine Ensures.of_rest fun f => ?_
  refine Ensures.of_rest fun privilege => ?_
  refine Ensures.of_rest fun authMode => ?_
  exact Ensures.pure fun _ _ => rfl

variable {replacement : BoundedVec (Entry S T) N} {fabric : FabricIndex} {data : List UInt8}

lemma decodeItem_ensures (fabric : FabricIndex) (item : Element)
    (h : ∀ e ∈ replacement.toList, e.fabricIndex = fabric) :
    Ensures (fun _ => True) (decodeItem fabric item replacement)
      fun replacement _ => ∀ e ∈ replacement.toList, e.fabricIndex = fabric := by
  refine Ensures.of_rest fun _ => ?_
  refine Ensures.bind (decodeEntry_ensures fabric) fun entry => ?_
  intro s hentry pushed s' hrun e he
  have hpush := okOr_ensures (replacement.push entry) .resourceExhausted s trivial pushed s' hrun
  rw [(BoundedVec.push_eq_some_iff.mp hpush).2, List.mem_append, List.mem_singleton] at he
  rcases he with he | rfl
  · exact h e he
  · exact hentry

lemma fabricIndex_of_decodeReplacement (h : decodeReplacement fabric data = .ok replacement) :
    ∀ e ∈ replacement.toList, e.fabricIndex = fabric := by
  have hensures : Ensures (fun _ => True)
      (do
        let e ← firstElement
        require (e.value.container? = some .array) .invalidAction
        members (decodeItem fabric) .empty : Decoding (BoundedVec (Entry S T) N))
      fun replacement _ => ∀ e ∈ replacement.toList, e.fabricIndex = fabric := by
    refine Ensures.of_rest fun e => ?_
    refine Ensures.of_rest fun _ => ?_
    exact members_ensures (fun e acc hacc => decodeItem_ensures fabric e hacc)
      fun e he => absurd he List.not_mem_nil
  exact hensures _ trivial _ _ (Prod.ext h rfl)

lemma fabricIndex_of_decodeAddition {entry : Entry S T} (h : decodeAddition fabric data = .ok entry)
    : entry.fabricIndex = fabric := by
  have hensures : Ensures (fun _ => True)
      (do
        let e ← firstElement
        require (e.value.container? = some .struct) .invalidAction
        decodeEntry fabric : Decoding (Entry S T)) fun e _ => e.fabricIndex = fabric := by
    refine Ensures.of_rest fun e => ?_
    refine Ensures.of_rest fun _ => ?_
    exact decodeEntry_ensures fabric
  exact hensures _ trivial _ _ (Prod.ext h rfl)

end decoded

/-! ## Writes -/

/-- A write of the `ACL` attribute. -/
structure AclWrite where
  data : List UInt8
  op : WriteOp
  ctx : InteractionContext

namespace AclWrite

variable {N S T : ℕ} {config : AclConfig} {c : AccessControl N S T} {w : AclWrite}

/-- The answer to a write, and the cluster after it. -/
def outcome (config : AclConfig) (c : AccessControl N S T) (w : AclWrite) :
    Except Status Unit × AccessControl N S T :=
  c.write config aclAttribute w.data w.op w.ctx

/-- The cluster after a write whose records have been taken. -/
def step (config : AclConfig) (c : AccessControl N S T) (w : AclWrite) : AccessControl N S T :=
  (w.outcome config c).2.takeChanges.2

/-- A write is refused before anything of the list is touched, adds an entry that it decodes, or
replaces the fabric's entries by those that it decodes. -/
lemma outcome_cases (config : AclConfig) (c : AccessControl N S T) (w : AclWrite) :
    ((w.op = .replace → ∀ fabric, w.ctx.fabricIndex = some fabric →
        ∀ entries : BoundedVec (Entry S T) N, decodeReplacement fabric w.data ≠ .ok entries) ∧
      ∃ e, w.outcome config c = (.error e, c)) ∨
    (w.op = .append ∧ ∃ fabric entry, w.ctx.fabricIndex = some fabric ∧
      entry.fabricIndex = fabric ∧ w.outcome config c = c.appendEntry config w.ctx entry) ∨
    (w.op = .replace ∧ ∃ fabric, ∃ entries : BoundedVec (Entry S T) N,
      w.ctx.fabricIndex = some fabric ∧ decodeReplacement fabric w.data = .ok entries ∧
      w.outcome config c = c.replaceEntries config w.ctx fabric entries.toList) := by
  obtain ⟨data, op, ctx⟩ := w
  have hout : outcome config c ⟨data, op, ctx⟩ = c.write config aclAttribute data op ctx := rfl
  unfold AccessControl.write at hout
  rw [if_neg (not_not.mpr rfl)] at hout
  rcases hfabric : ctx.fabricIndex with _ | fabric
  · rw [hfabric] at hout
    refine .inl ⟨?_, _, hout⟩
    intro _ fabric hnone
    cases hnone
  rw [hfabric] at hout
  cases op with
  | replace =>
    rcases hdecode : (decodeReplacement fabric data : Except Status (BoundedVec (Entry S T) N)) with
      status | entries
    · simp only [hdecode] at hout
      refine .inl ⟨?_, _, hout⟩
      intro _ fabric' hfabric' entries h
      obtain rfl := Option.some.inj hfabric'
      rw [hdecode] at h
      cases h
    · simp only [hdecode] at hout
      exact .inr (.inr ⟨rfl, fabric, entries, rfl, hdecode, hout⟩)
  | append =>
    rcases hdecode : (decodeAddition fabric data : Except Status (Entry S T)) with status | entry
    · simp only [hdecode] at hout
      exact .inl ⟨nofun, _, hout⟩
    · simp only [hdecode] at hout
      exact .inr (.inl ⟨rfl, fabric, entry, rfl, fabricIndex_of_decodeAddition hdecode, hout⟩)

lemma appendEntry_cases (c : AccessControl N S T) (config : AclConfig) (ctx : InteractionContext)
    (entry : Entry S T) : (∃ acl, c.acl.lenOfFabric entry.fabricIndex < config.entriesPerFabric ∧
      acl.entries.toList = c.acl.entries.toList ++ [entry] ∧
      c.appendEntry config ctx entry =
        (.ok (), { c with acl := acl }.record (recordOf ctx (.added, entry)))) ∨
    ∃ e, c.appendEntry config ctx entry = (.error e, c) := by
  unfold AccessControl.appendEntry
  rcases c.acl.add_cases config entry with ⟨⟨-, hshare, -⟩, hok, hlist⟩ | ⟨-, e, heq⟩
  · rcases hadd : c.acl.add config entry with ⟨result, acl⟩
    rw [hadd] at hok hlist
    simp only at hok hlist
    subst hok
    exact .inl ⟨acl, hshare, hlist, rfl⟩
  · rw [heq]
    right
    cases e <;> exact ⟨_, rfl⟩

lemma replaceEntries_cases (c : AccessControl N S T) (config : AclConfig) (ctx : InteractionContext)
    (fabric : FabricIndex) (entries : List (Entry S T)) :
    ((c.acl.replaceFabric config fabric entries).1 = .ok () ∧
      c.replaceEntries config ctx fabric entries = (.ok (),
        (changes (((c.acl.replaceFabric config fabric entries).2.ofFabric fabric).take
            pendingCapacity) ((c.acl.ofFabric fabric).take pendingCapacity)).foldl
          (fun c change => c.record (recordOf ctx change))
          { c with acl := (c.acl.replaceFabric config fabric entries).2 })) ∨
    ((c.acl.replaceFabric config fabric entries).1 ≠ .ok () ∧
      c.replaceEntries config ctx fabric entries = (.error .constraintError,
        { c with acl := (c.acl.replaceFabric config fabric entries).2 })) := by
  unfold AccessControl.replaceEntries
  rcases c.acl.replaceFabric config fabric entries with ⟨e | ⟨⟨⟩⟩, acl⟩
  · exact .inr ⟨nofun, rfl⟩
  · exact .inl ⟨rfl, rfl⟩

/-- The cluster as it is between writes: every record taken, no fabric above its share. -/
structure Ready (config : AclConfig) (c : AccessControl N S T) : Prop where
  drained : c.pending.toList = []
  share : ∀ fabric, c.acl.lenOfFabric fabric ≤ config.entriesPerFabric

/-- What the records of a write are for: applied to the fabric's list they give its new list, they name
the fabric and the administrator, other fabrics' entries stay, and a replacement that succeeds leaves
what it wrote. -/
structure Audited (config : AclConfig) (c : AccessControl N S T) (w : AclWrite) : Prop where
  replays : ∀ fabric, w.ctx.fabricIndex = some fabric →
    applyChanges (w.outcome config c).2.takeChanges.1 (c.acl.ofFabric fabric) =
      (w.outcome config c).2.acl.ofFabric fabric
  names : ∀ record ∈ (w.outcome config c).2.takeChanges.1,
    some record.fabricIndex = w.ctx.fabricIndex ∧ record.adminNodeId = w.ctx.peerNodeId ∧
      record.adminPasscodeId = if w.ctx.peerNodeId.isSome then none else some 0
  others : ∀ other, w.ctx.fabricIndex ≠ some other →
    (w.outcome config c).2.acl.ofFabric other = c.acl.ofFabric other
  written : (w.outcome config c).1 = .ok () → w.op = .replace →
    ∃ fabric, ∃ entries : BoundedVec (Entry S T) N, w.ctx.fabricIndex = some fabric ∧
      decodeReplacement fabric w.data = .ok entries ∧
      (w.outcome config c).2.acl.ofFabric fabric = entries.toList

/-- A replacement gets through, or stops where the list is as it was before. -/
def Through (config : AclConfig) (c : AccessControl N S T) (w : AclWrite) : Prop :=
  w.op = .replace → ∀ fabric, w.ctx.fabricIndex = some fabric →
    ∀ entries : BoundedVec (Entry S T) N, decodeReplacement fabric w.data = .ok entries →
      rebuilt config c.acl fabric entries.toList = entries.toList ∨
        rebuilt config c.acl fabric entries.toList = c.acl.ofFabric fabric

variable {fabric : FabricIndex} {entry : Entry S T}

lemma names_recordOf {ctx : InteractionContext} (hfabric : ctx.fabricIndex = some fabric)
    (change : ChangeType × Entry S T) : some (recordOf ctx change).fabricIndex = ctx.fabricIndex ∧
      (recordOf ctx change).adminNodeId = ctx.peerNodeId ∧
      (recordOf ctx change).adminPasscodeId = if ctx.peerNodeId.isSome then none else some 0 := by
  unfold recordOf EntryChanged.forSession
  rcases ctx.peerNodeId with _ | nodeId
  · exact ⟨by simp [hfabric], rfl, rfl⟩
  · exact ⟨by simp [hfabric], rfl, rfl⟩

lemma pending_record {c : AccessControl N S T} (h : c.pending.toList.length < pendingCapacity)
    (change : EntryChanged S T) : (c.record change).pending.toList = c.pending.toList ++ [change] := by
  show c.makeRoom ++ [change] = _
  unfold AccessControl.makeRoom
  rw [if_neg h.ne]

/-- Records leave the list as it is. -/
lemma acl_foldl_record (c : AccessControl N S T) (ctx : InteractionContext)
    (cs : List (ChangeType × Entry S T)) :
    (cs.foldl (fun c change => c.record (recordOf ctx change)) c).acl = c.acl := by
  induction cs generalizing c with
  | nil => rfl
  | cons change cs ih => exact ih (c.record (recordOf ctx change))

variable (ctx : InteractionContext)

/-- As many records as there is room for are all kept. -/
lemma pending_foldl_record {c : AccessControl N S T}
    (cs : List (ChangeType × Entry S T)) (h : c.pending.toList.length + cs.length ≤ pendingCapacity) :
    (cs.foldl (fun c change => c.record (recordOf ctx change)) c).pending.toList =
      c.pending.toList ++ cs.map (recordOf ctx) := by
  induction cs generalizing c with
  | nil => simp
  | cons change cs ih =>
    rw [List.length_cons] at h
    have hrecord := pending_record (show c.pending.toList.length < pendingCapacity by omega)
      (recordOf ctx change)
    rw [List.foldl_cons, ih, hrecord, List.append_assoc]
    · rfl
    · rw [hrecord, List.length_append, List.length_singleton]
      omega

lemma acl_replaceEntries (c : AccessControl N S T) (config : AclConfig) (ctx : InteractionContext)
    (fabric : FabricIndex) (entries : List (Entry S T)) :
    (c.replaceEntries config ctx fabric entries).2.acl =
      (c.acl.replaceFabric config fabric entries).2 := by
  rcases replaceEntries_cases c config ctx fabric entries with ⟨-, heq⟩ | ⟨-, heq⟩
  · rw [heq]
    exact acl_foldl_record _ _ _
  · rw [heq]

/-- A write that leaves the cluster as it was is audited. -/
lemma audited_of_unchanged (hc : Ready config c) {e : Status}
    (hout : w.outcome config c = (.error e, c)) : Audited config c w := by
  have hnone : (w.outcome config c).2.takeChanges.1 = [] := by
    rw [hout]
    exact hc.drained
  refine ⟨?_, ?_, ?_, ?_⟩
  · intro fabric _
    rw [hnone, hout]
    rfl
  · rw [hnone]
    exact fun _ h => absurd h List.not_mem_nil
  · intro other _
    rw [hout]
  · rw [hout]
    exact nofun

lemma ofFabric_append {a a' : Acl N S T} (h : a'.entries.toList = a.entries.toList ++ [entry])
    (fabric : FabricIndex) :
    a'.ofFabric fabric = a.ofFabric fabric ++ if entry.fabricIndex = fabric then [entry] else [] := by
  unfold Acl.ofFabric
  rw [h, List.filter_append]
  by_cases hfabric : entry.fabricIndex = fabric <;> simp [hfabric]

lemma audited_of_appended (hc : Ready config c) {acl : Acl N S T}
    (hfabric : w.ctx.fabricIndex = some fabric) (hentry : entry.fabricIndex = fabric)
    (hlist : acl.entries.toList = c.acl.entries.toList ++ [entry]) (hop : w.op = .append)
    (hout : w.outcome config c =
      (.ok (), { c with acl := acl }.record (recordOf w.ctx (.added, entry)))) :
    Audited config c w := by
  have hpending : (w.outcome config c).2.takeChanges.1 = [recordOf w.ctx (.added, entry)] := by
    rw [hout]
    show ({ c with acl := acl }.record (recordOf w.ctx (.added, entry))).pending.toList = _
    rw [pending_record]
    · show c.pending.toList ++ _ = _
      rw [hc.drained, List.nil_append]
    · show c.pending.toList.length < pendingCapacity
      rw [hc.drained]
      exact Nat.zero_lt_succ _
  have hacl : (w.outcome config c).2.acl = acl := by
    rw [hout]
    rfl
  refine ⟨?_, ?_, ?_, ?_⟩
  · intro fabric' hfabric'
    obtain rfl := Option.some.inj (hfabric.symm.trans hfabric')
    rw [hpending, hacl, ofFabric_append hlist, if_pos hentry]
    unfold applyChanges
    rw [List.foldl_cons, List.foldl_nil, (applyChange_recordOf _ _ _ _).2.1]
  · rw [hpending]
    intro record hrecord
    rw [List.mem_singleton.mp hrecord]
    exact names_recordOf hfabric _
  · intro other hother
    rw [hacl, ofFabric_append hlist, if_neg, List.append_nil]
    rintro rfl
    exact hother (hentry ▸ hfabric)
  · intro _ hreplace
    rw [hop] at hreplace
    cases hreplace

/-- A replacement is audited exactly if it gets through, or stops where the list is as it was. -/
lemma audited_replace_iff (hper : config.entriesPerFabric ≤ pendingCapacity) (hc : Ready config c)
    {entries : BoundedVec (Entry S T) N} (hfabric : w.ctx.fabricIndex = some fabric)
    (hdecode : decodeReplacement fabric w.data = .ok entries)
    (hout : w.outcome config c = c.replaceEntries config w.ctx fabric entries.toList) :
    Audited config c w ↔ (rebuilt config c.acl fabric entries.toList = entries.toList ∨
      rebuilt config c.acl fabric entries.toList = c.acl.ofFabric fabric) := by
  obtain ⟨hlists, hok⟩ := replaceFabric_eq config c.acl (fabricIndex_of_decodeReplacement hdecode)
  have hnew := hlists fabric
  rw [if_pos rfl] at hnew
  have hacl : (w.outcome config c).2.acl =
      (c.acl.replaceFabric config fabric entries.toList).2 := by
    rw [hout, acl_replaceEntries]
  have hothers : ∀ other, w.ctx.fabricIndex ≠ some other →
      (c.acl.replaceFabric config fabric entries.toList).2.ofFabric other = c.acl.ofFabric other := by
    intro other hother
    rw [hlists, if_neg]
    rintro rfl
    exact hother hfabric
  rcases replaceEntries_cases c config w.ctx fabric entries.toList with ⟨hres, heq⟩ | ⟨hres, heq⟩
  · -- everything was rebuilt, and the records are made
    have hall := hok.mp hres
    refine iff_of_true ?_ (.inl hall)
    have hlength := length_rebuilt_le config c.acl fabric entries.toList
    have hlength' : (c.acl.ofFabric fabric).length ≤ config.entriesPerFabric := hc.share fabric
    rw [hnew, List.take_of_length_le (hlength.trans hper),
      List.take_of_length_le (hlength'.trans hper)] at heq
    have hrecords := pending_foldl_record (c := { c with
        acl := (c.acl.replaceFabric config fabric entries.toList).2 }) w.ctx
      (changes (rebuilt config c.acl fabric entries.toList) (c.acl.ofFabric fabric)) (by
        show c.pending.toList.length + _ ≤ _
        rw [hc.drained, length_changes, List.length_nil, Nat.zero_add]
        exact max_le (hlength.trans hper) (hlength'.trans hper))
    have hpending : (w.outcome config c).2.takeChanges.1 =
        (changes (rebuilt config c.acl fabric entries.toList) (c.acl.ofFabric fabric)).map
          (recordOf w.ctx) := by
      rw [hout, heq]
      refine hrecords.trans ?_
      show c.pending.toList ++ _ = _
      rw [hc.drained, List.nil_append]
    refine ⟨?_, ?_, ?_, ?_⟩
    · intro fabric' hfabric'
      obtain rfl := Option.some.inj (hfabric.symm.trans hfabric')
      rw [hpending, hacl, hnew, applyChanges_changes]
    · rw [hpending]
      intro record hrecord
      obtain ⟨change, -, rfl⟩ := List.mem_map.mp hrecord
      exact names_recordOf hfabric change
    · intro other hother
      rw [hacl]
      exact hothers other hother
    · intro _ _
      exact ⟨fabric, entries, hfabric, hdecode, by rw [hacl, hnew, hall]⟩
  · -- the list was cut short, and there are no records
    have hpending : (w.outcome config c).2.takeChanges.1 = [] := by
      rw [hout, heq]
      exact hc.drained
    rw [or_iff_right (mt hok.mpr hres)]
    constructor
    · intro haudited
      have hreplays := haudited.replays fabric hfabric
      rw [hpending, hacl, hnew] at hreplays
      exact hreplays.symm
    · intro hsame
      refine ⟨?_, ?_, ?_, ?_⟩
      · intro fabric' hfabric'
        obtain rfl := Option.some.inj (hfabric.symm.trans hfabric')
        rw [hpending, hacl, hnew, hsame]
        rfl
      · rw [hpending]
        exact fun _ h => absurd h List.not_mem_nil
      · intro other hother
        rw [hacl]
        exact hothers other hother
      · rw [hout, heq]
        exact nofun

lemma audited_iff_through (hper : config.entriesPerFabric ≤ pendingCapacity) (hc : Ready config c)
    (w : AclWrite) : Audited config c w ↔ Through config c w := by
  rcases outcome_cases config c w with
    ⟨hdecode, e, hout⟩ | ⟨hop, fabric, entry, hfabric, hentry, hout⟩ |
      ⟨hop, fabric, entries, hfabric, hdecode, hout⟩
  · refine iff_of_true (audited_of_unchanged hc hout) ?_
    intro hop fabric hfabric entries h
    exact absurd h (hdecode hop fabric hfabric entries)
  · refine iff_of_true ?_ fun hreplace => nomatch hop.symm.trans hreplace
    rcases appendEntry_cases c config w.ctx entry with ⟨acl, -, hlist, heq⟩ | ⟨e, heq⟩
    · exact audited_of_appended hc hfabric hentry hlist hop (hout.trans heq)
    · exact audited_of_unchanged hc (hout.trans heq)
  · rw [audited_replace_iff hper hc hfabric hdecode hout]
    constructor
    · intro h _ fabric' hfabric' entries' hdecode'
      obtain rfl := Option.some.inj (hfabric.symm.trans hfabric')
      obtain rfl := Except.ok.inj (hdecode.symm.trans hdecode')
      exact h
    · intro h
      exact h hop fabric hfabric entries hdecode

/-- Every write leaves the cluster, once its records are taken, as writes expect it. -/
lemma ready_step (hc : Ready config c) (w : AclWrite) : Ready config (w.step config c) := by
  refine ⟨rfl, ?_⟩
  intro other
  show (w.outcome config c).2.acl.lenOfFabric other ≤ _
  rcases outcome_cases config c w with
    ⟨-, e, hout⟩ | ⟨-, fabric, entry, -, hentry, hout⟩ | ⟨-, fabric, entries, -, hdecode, hout⟩
  · rw [hout]
    exact hc.share other
  · rw [hout]
    rcases appendEntry_cases c config w.ctx entry with ⟨acl, hshare, hlist, heq⟩ | ⟨e, heq⟩
    · rw [heq]
      show acl.lenOfFabric other ≤ _
      unfold Acl.lenOfFabric at hshare ⊢
      rw [ofFabric_append hlist, List.length_append]
      split_ifs with h
      · rw [← h]
        exact hshare
      · exact hc.share other
    · rw [heq]
      exact hc.share other
  · obtain ⟨hlists, -⟩ := replaceFabric_eq config c.acl (fabricIndex_of_decodeReplacement hdecode)
    rw [hout, acl_replaceEntries]
    unfold Acl.lenOfFabric
    rw [hlists]
    split_ifs
    · exact length_rebuilt_le config c.acl fabric entries.toList
    · exact hc.share other

/-- Along a run of writes whose records are taken after each, from any list with no fabric above its
share, every write is audited exactly if every replacement gets through or stops where the list is as
it was. -/
theorem audited_iff (hper : config.entriesPerFabric ≤ pendingCapacity) (a : Acl N S T)
    (ha : ∀ fabric, a.lenOfFabric fabric ≤ config.entriesPerFabric) (ws : List AclWrite) :
    Throughout (step config) (Audited config) ⟨a, .empty⟩ ws ↔
      Throughout (step config) (Through config) ⟨a, .empty⟩ ws :=
  Throughout.congr (I := Ready config) (fun _ w hc => audited_iff_through hper hc w)
    (fun _ w hc => ready_step hc w) ⟨rfl, ha⟩

/-- A list with the administrator of one fabric. -/
def oneAdministrator : Acl 20 4 3 := AclOp.run ⟨4, false⟩ [.addAdminForFabric ⟨1⟩ ⟨0x1234⟩]

/-- A replacement by an entry for View over CASE. -/
def viewOnly : AclWrite :=
  ⟨[0x36, 0x02, 0x15, 0x24, 0x01, 0x01, 0x24, 0x02, 0x02, 0x18, 0x18], .replace,
    { fabricIndex := some ⟨1⟩, peerNodeId := some ⟨0x1234⟩ }⟩

/-- A replacement by the same entry and one for View over PASE, which no list may hold. -/
def viewAndPase : AclWrite :=
  ⟨[0x36, 0x02, 0x15, 0x24, 0x01, 0x01, 0x24, 0x02, 0x02, 0x18, 0x15, 0x24, 0x01, 0x01, 0x24, 0x02,
      0x01, 0x18, 0x18], .replace,
    { fabricIndex := some ⟨1⟩, peerNodeId := some ⟨0x1234⟩ }⟩

/-- A replacement that gets through is audited. -/
theorem audited_viewOnly :
    Throughout (step ⟨4, false⟩) (Audited ⟨4, false⟩) ⟨oneAdministrator, .empty⟩ [viewOnly] := by
  refine (audited_iff (by decide) oneAdministrator ?_ [viewOnly]).mpr ⟨?_, trivial⟩
  · intro fabric
    exact (List.length_filter_le _ _).trans (by decide +kernel)
  · rintro - fabric ⟨⟩ entries hdecode
    have hentries : decodeReplacement ⟨1⟩ viewOnly.data =
        .ok (⟨[.case ⟨1⟩ .view], by decide⟩ : BoundedVec (Entry 4 3) 20) := by
      rfl
    obtain rfl := Except.ok.inj (hentries.symm.trans hdecode)
    left
    decide +kernel

/-- The administrator's entry is gone after the replacement is refused, and no record says so. -/
theorem unaudited_viewAndPase :
    ¬Throughout (step ⟨4, false⟩) (Audited ⟨4, false⟩) ⟨oneAdministrator, .empty⟩ [viewAndPase] := by
  rintro ⟨haudited, -⟩
  have hreplays := haudited.replays ⟨1⟩ rfl
  revert hreplays
  decide +kernel

end AclWrite

end MatterKit.Clusters
