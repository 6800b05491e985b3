import MatterKit.Im.Server
import MatterKit.Lib.Runs

/-!
# Access control

`acl.rs`: the entries of an access control list, and the decision over them. `Acl.granted` walks the
entries in order, collects the privileges of those that match, stops at the first set that contains
Administer, and withholds everything from a group that would have got it.

The walk comes to a union (`has_grantedFrom_iff`). So an access is granted exactly if the subject is a
commissioner or one entry of its own fabric grants it (`allows_iff`), whatever the order of the entries
and whatever the other fabrics hold.
-/

namespace MatterKit

open Lib Dm Im

/-! ## Entries -/

/-- Source: `AuthMode`. -/
inductive AuthMode
  | pase
  | case
  | group
  deriving DecidableEq

namespace Mei

/-- Source: `dm/mei.rs`, `prefix`. -/
def prefixOf (mei : UInt32) : UInt16 := (mei >>> 16).toUInt16

/-- Source: `dm/mei.rs`, `suffix`. -/
def suffixOf (mei : UInt32) : UInt16 := mei.toUInt16

/-- Source: `dm/mei.rs`, `prefix_is_defined`. -/
def prefixIsDefined (mei : UInt32) : Bool := prefixOf mei ≤ 0xFFF4

/-- Source: `dm/mei.rs`, `is_standard`. -/
def isStandard (mei : UInt32) : Bool := prefixOf mei == 0

/-- Source: `dm/mei.rs`, `cluster_is_valid`. -/
def clusterIsValid (cluster : ClusterId) : Bool :=
  if !prefixIsDefined cluster then false
  else if isStandard cluster then suffixOf cluster ≤ 0x7FFF
  else 0xFC00 ≤ suffixOf cluster && suffixOf cluster ≤ 0xFFFE

/-- Source: `dm/mei.rs`, `device_type_is_valid`. -/
def deviceTypeIsValid (deviceType : UInt32) : Bool :=
  prefixIsDefined deviceType && suffixOf deviceType ≤ 0xBFFF

end Mei

/-- Source: `Target`. -/
structure Target where
  cluster : Option ClusterId := none
  endpoint : Option EndpointId := none
  deviceType : Option UInt32 := none
  deriving DecidableEq

namespace Target

/-- Source: `Target::is_valid`. -/
def isValid (t : Target) : Bool :=
  let named := t.cluster.isSome || t.endpoint.isSome || t.deviceType.isSome
  let bothPlaces := t.endpoint.isSome && t.deviceType.isSome
  if !named || bothPlaces then false
  else if t.cluster.any fun cluster => !Mei.clusterIsValid cluster then false
  else if t.deviceType.any fun deviceType => !Mei.deviceTypeIsValid deviceType then false
  else !t.endpoint.any fun endpoint => endpoint == 0xFFFF

/-- Source: `Target::matches`. -/
def isMatch (t : Target) (node : Node) (endpoint : EndpointId) (cluster : ClusterId) : Bool :=
  if t.cluster.any (· != cluster) then false
  else if t.endpoint.any (· != endpoint) then false
  else
    match t.deviceType with
    | none => true
    | some wanted =>
      match node.endpoint endpoint with
      | none => false
      | some endpoint => endpoint.hasDeviceType wanted

end Target

/-- Source: `Entry`. -/
structure Entry (S T : ℕ) where
  fabricIndex : FabricIndex
  privilege : Privilege
  authMode : AuthMode
  subjects : BoundedVec NodeId S
  targets : BoundedVec Target T
  deriving DecidableEq

namespace Entry

variable {S T : ℕ}

/-- Source: `Entry::case`. -/
def case (fabricIndex : FabricIndex) (privilege : Privilege) : Entry S T :=
  ⟨fabricIndex, privilege, .case, .empty, .empty⟩

/-- Source: `Entry::with_subject`. -/
def withSubject (e : Entry S T) (subject : NodeId) : Except ErrorCode (Entry S T) :=
  match e.subjects.push subject with
  | some subjects => .ok { e with subjects := subjects }
  | none => .error .noSpace

/-- Source: `Entry::subject_is_valid`. -/
def subjectIsValid (e : Entry S T) (subject : NodeId) : Bool :=
  match e.authMode with
  | .case =>
    match subject.kind with
    | .operational => true
    | .caseAuthenticatedTag => (CaseAuthenticatedTag.fromNodeId subject).any fun cat => cat.isValid
    | _ => false
  | .group => subject.val != 0 && subject.val ≤ 0xFFFF
  | .pase => false

/-- Source: `Entry::is_well_formed`. -/
def isWellFormed (e : Entry S T) : Bool :=
  if e.authMode = .pase then false
  else if e.privilege = .administer ∧ e.authMode ≠ .case then false
  else if e.subjects.toList = [] ∧ e.authMode ≠ .case ∧ e.authMode ≠ .group then false
  else if e.fabricIndex.val = 0 then false
  else if !e.subjects.toList.all e.subjectIsValid then false
  else e.targets.toList.all Target.isValid

lemma authMode_of_isWellFormed {e : Entry S T} (h : e.isWellFormed = true) :
    e.authMode ≠ .pase ∧ (e.privilege = .administer → e.authMode = .case) := by
  unfold isWellFormed at h
  split_ifs at h with hpase hadmin
  refine ⟨hpase, fun hprivilege => ?_⟩
  by_contra hmode
  exact hadmin ⟨hprivilege, hmode⟩

end Entry

/-! ## Sets of privileges -/

/-- A set of privileges, by its bits.
Source: `Granted`. -/
structure Granted where
  bits : UInt8

namespace Granted

/-- Source: `Granted::NONE`. -/
def none : Granted := ⟨0⟩

/-- Source: `Granted::bit`. -/
def bit (privilege : Privilege) : UInt8 := 1 <<< privilege.toUInt8

/-- What a privilege brings with it.
Source: `Granted::add`, `match privilege`. -/
def below : Privilege → UInt8
  | .operate => bit .view
  | .manage => bit .operate ||| bit .view
  | .administer => bit .manage ||| bit .operate ||| bit .view
  | .proxyView | .view => 0

/-- Source: `Granted::add`. -/
def add (g : Granted) (privilege : Privilege) : Granted :=
  ⟨g.bits ||| bit privilege ||| below privilege⟩

/-- Source: `Granted::has`. -/
def has (g : Granted) (privilege : Privilege) : Bool := g.bits &&& bit privilege != 0

lemma has_none (privilege : Privilege) : none.has privilege = false := by
  cases privilege <;> decide

/-- Only Administer grants Administer. -/
lemma eq_administer_of_grants {privilege : Privilege} (h : privilege.grants .administer = true) :
    privilege = .administer := by
  cases privilege <;> first | rfl | exact absurd h (by decide)

lemma administer_grants {required : Privilege} (h : required ≠ .proxyView) :
    Privilege.administer.grants required = true := by
  cases required <;> first | rfl | exact absurd rfl h

lemma or_and_eq_zero_iff {a b c : UInt8} : (a ||| b) &&& c = 0 ↔ a &&& c = 0 ∧ b &&& c = 0 := by
  have hdistrib : (a ||| b) &&& c = (a &&& c) ||| (b &&& c) := by
    apply UInt8.toNat.inj
    simp only [UInt8.toNat_and, UInt8.toNat_or, Nat.and_or_distrib_right]
  rw [hdistrib, UInt8.or_eq_zero_iff]

/-- Adding a privilege adds what it grants. -/
lemma has_add_iff {g : Granted} {privilege required : Privilege} : (g.add privilege).has required = true ↔
      g.has required = true ∨ privilege.grants required = true := by
  have hclosed : ((bit privilege ||| below privilege) &&& bit required ≠ 0) ↔
      privilege.grants required = true := by
    cases privilege <;> cases required <;> decide
  unfold add has
  simp only [bne_iff_ne, ← hclosed, UInt8.or_assoc]
  rw [ne_eq, or_and_eq_zero_iff, not_and_or]

end Granted

/-! ## Subjects -/

/-- Source: `SubjectDescriptor`. -/
structure SubjectDescriptor where
  isCommissioning : Bool
  authMode : Option AuthMode
  subjects : BoundedVec NodeId 4
  fabricIndex : FabricIndex

/-- Source: `subject_matches`. -/
def subjectMatches (aclSubject isdSubject : NodeId) : Bool :=
  if aclSubject = isdSubject then true
  else
    match CaseAuthenticatedTag.fromNodeId aclSubject, CaseAuthenticatedTag.fromNodeId isdSubject with
    | some acl, some isd => acl.identifier == isd.identifier && acl.version ≤ isd.version
    | _, _ => false

/-! ## The list -/

/-- What an access control list is dimensioned for.
Source: `config.rs`, `Config::ACL_ENTRIES_PER_FABRIC` and `Config::ACL_AUXILIARY`. -/
structure AclConfig where
  entriesPerFabric : ℕ
  auxiliary : Bool

/-- Source: `Acl`. -/
structure Acl (N S T : ℕ) where
  entries : BoundedVec (Entry S T) N

namespace Acl

variable {N S T : ℕ}

/-- Source: `Acl::new`. -/
def new : Acl N S T := ⟨.empty⟩

/-- Source: `Acl::of_fabric`. -/
def ofFabric (a : Acl N S T) (fabric : FabricIndex) : List (Entry S T) :=
  a.entries.toList.filter fun e => e.fabricIndex == fabric

/-- Source: `Acl::len_of_fabric`. -/
def lenOfFabric (a : Acl N S T) (fabric : FabricIndex) : ℕ := (a.ofFabric fabric).length

/-- Source: `Acl::add`. -/
def add (a : Acl N S T) (config : AclConfig) (entry : Entry S T) :
    Except ErrorCode Unit × Acl N S T :=
  if !entry.isWellFormed then (.error .invalidArgument, a)
  else if config.entriesPerFabric ≤ a.lenOfFabric entry.fabricIndex then (.error .noSpace, a)
  else
    match a.entries.push entry with
    | some entries => (.ok (), ⟨entries⟩)
    | none => (.error .noSpace, a)

/-- Source: `Acl::add_admin_for_fabric`. -/
def addAdminForFabric (a : Acl N S T) (config : AclConfig) (fabric : FabricIndex)
    (subject : NodeId) : Except ErrorCode Unit × Acl N S T :=
  if subject.kind ≠ .operational ∧ subject.kind ≠ .caseAuthenticatedTag then
    (.error .invalidArgument, a)
  else
    match (Entry.case fabric .administer : Entry S T).withSubject subject with
    | .ok entry => a.add config entry
    | .error e => (.error e, a)

/-- Source: `Acl::remove_fabric`. -/
def removeFabric (a : Acl N S T) (fabric : FabricIndex) : Acl N S T :=
  ⟨a.entries.retain fun e => e.fabricIndex != fabric⟩

/-- The loop of `replace_fabric`: entries are added up to the first that is refused.
Source: `Acl::replace_fabric`, `for entry in entries`. -/
def addAll (a : Acl N S T) (config : AclConfig) :
    List (Entry S T) → Except ErrorCode Unit × Acl N S T
  | [] => (.ok (), a)
  | entry :: entries =>
    match a.add config entry with
    | (.ok (), a) => addAll a config entries
    | (.error e, a) => (.error e, a)

/-- Source: `Acl::replace_fabric`. -/
def replaceFabric (a : Acl N S T) (config : AclConfig) (fabric : FabricIndex)
    (entries : List (Entry S T)) : Except ErrorCode Unit × Acl N S T :=
  (a.removeFabric fabric).addAll config entries

/-- Whether an entry applies to an access.
Source: `Acl::granted`, the body of its loop up to `granted.add`. -/
def applies (config : AclConfig) (node : Node) (subject : SubjectDescriptor) (endpoint : EndpointId)
    (cluster : ClusterId) (e : Entry S T) : Bool :=
  if e.fabricIndex.val = 0 ∨ e.fabricIndex ≠ subject.fabricIndex then false
  else if some e.authMode ≠ subject.authMode then false
  else if !e.subjects.toList.isEmpty &&
      !e.subjects.toList.any (fun aclSubject =>
        subject.subjects.toList.any fun isd => subjectMatches aclSubject isd) then false
  else if e.targets.toList.isEmpty then
    !(decide (e.authMode = .group) && config.auxiliary && endpoint == 0)
  else e.targets.toList.any fun target => target.isMatch node endpoint cluster

/-- Source: `Acl::granted`, `for entry in &self.entries`. -/
def grantedFrom (config : AclConfig) (node : Node) (subject : SubjectDescriptor)
    (endpoint : EndpointId) (cluster : ClusterId) : List (Entry S T) → Granted → Granted
  | [], granted => granted
  | e :: entries, granted =>
    if granted.has .administer then granted
    else if applies config node subject endpoint cluster e then
      grantedFrom config node subject endpoint cluster entries (granted.add e.privilege)
    else grantedFrom config node subject endpoint cluster entries granted

/-- Source: `Acl::granted`. -/
def granted (a : Acl N S T) (config : AclConfig) (node : Node) (subject : SubjectDescriptor)
    (endpoint : EndpointId) (cluster : ClusterId) : Granted :=
  let initial :=
    if subject.authMode = some .pase ∧ subject.isCommissioning then Granted.none.add .administer
    else Granted.none
  let granted := grantedFrom config node subject endpoint cluster a.entries.toList initial
  if subject.authMode = some .group ∧ granted.has .administer then Granted.none else granted

/-- Source: `Acl::allows`. -/
def allows (a : Acl N S T) (config : AclConfig) (node : Node) (subject : SubjectDescriptor)
    (endpoint : EndpointId) (cluster : ClusterId) (required : Privilege) : Outcome :=
  if (a.granted config node subject endpoint cluster).has required then .granted else .denied

/-! ## Decisions -/

section decisions

variable {config : AclConfig} {node : Node} {subject : SubjectDescriptor} {endpoint : EndpointId}
  {cluster : ClusterId} {required : Privilege}

/-- An Administer in a set comes with the three privileges below it. -/
def Closed (g : Granted) : Prop :=
  g.has .administer = true → ∀ required ≠ .proxyView, g.has required = true

lemma Closed.none : Closed Granted.none := by
  intro h
  rw [Granted.has_none] at h
  cases h

lemma Closed.add {g : Granted} (h : Closed g) (privilege : Privilege) : Closed (g.add privilege) := by
  intro hadmin required hrequired
  rw [Granted.has_add_iff] at hadmin ⊢
  rcases hadmin with hadmin | hadmin
  · exact .inl (h hadmin required hrequired)
  · obtain rfl := Granted.eq_administer_of_grants hadmin
    exact .inr (Granted.administer_grants hrequired)

/-- The walk over the entries comes to the union of what the matching ones grant: it stops early only
with everything there is to have. -/
lemma has_grantedFrom_iff {entries : List (Entry S T)} {g : Granted} (hg : Closed g)
    (hrequired : required ≠ .proxyView) :
    (grantedFrom config node subject endpoint cluster entries g).has required = true ↔
      g.has required = true ∨ ∃ e ∈ entries,
        applies config node subject endpoint cluster e = true ∧ e.privilege.grants required = true := by
  induction entries generalizing g with
  | nil => simp [grantedFrom]
  | cons e entries ih =>
    unfold grantedFrom
    simp only [List.exists_mem_cons_iff]
    split_ifs with hadmin happlies
    · exact iff_of_true (hg hadmin required hrequired) (.inl (hg hadmin required hrequired))
    · rw [ih (hg.add _), Granted.has_add_iff, or_assoc]
      simp only [happlies, true_and]
    · rw [ih hg]
      simp [happlies]

/-- A subject of an entry takes in a subject that is presented: they are the same, or tags with one
identifier of which the presented one is at least as recent. -/
def TakesIn (aclSubject isdSubject : NodeId) : Prop :=
  aclSubject = isdSubject ∨ ∃ acl isd, CaseAuthenticatedTag.fromNodeId aclSubject = some acl ∧
    CaseAuthenticatedTag.fromNodeId isdSubject = some isd ∧ acl.identifier = isd.identifier ∧
    acl.version ≤ isd.version

/-- A target covers a cluster of an endpoint: what it names, the access has. -/
structure Covers (node : Node) (endpoint : EndpointId) (cluster : ClusterId) (t : Target) :
    Prop where
  inCluster : ∀ wanted, t.cluster = some wanted → wanted = cluster
  atEndpoint : ∀ wanted, t.endpoint = some wanted → wanted = endpoint
  ofDeviceType : ∀ wanted, t.deviceType = some wanted →
    ∃ e, node.endpoint endpoint = some e ∧ e.hasDeviceType wanted = true

/-- An entry matches an access: it is of the subject's fabric and mode, its subjects and its targets
take the access in or there are none; but with the Auxiliary feature a group needs a target on the root
endpoint. -/
structure Matches (config : AclConfig) (node : Node) (subject : SubjectDescriptor)
    (endpoint : EndpointId) (cluster : ClusterId) (e : Entry S T) : Prop where
  fabric : e.fabricIndex = subject.fabricIndex
  fabric_ne_zero : e.fabricIndex.val ≠ 0
  mode : subject.authMode = some e.authMode
  subjects : e.subjects.toList = [] ∨
    ∃ s ∈ e.subjects.toList, ∃ isd ∈ subject.subjects.toList, TakesIn s isd
  targets : (e.targets.toList = [] ∧ ¬(e.authMode = .group ∧ config.auxiliary = true ∧ endpoint = 0)) ∨
    ∃ t ∈ e.targets.toList, Covers node endpoint cluster t

lemma subjectMatches_iff {aclSubject isdSubject : NodeId} :
    subjectMatches aclSubject isdSubject = true ↔ TakesIn aclSubject isdSubject := by
  unfold subjectMatches TakesIn
  split_ifs with heq
  · exact iff_of_true rfl (.inl heq)
  · rcases CaseAuthenticatedTag.fromNodeId aclSubject with _ | acl <;>
      rcases CaseAuthenticatedTag.fromNodeId isdSubject with _ | isd <;>
      simp [heq]

lemma isMatch_iff {t : Target} : t.isMatch node endpoint cluster = true ↔
    Covers node endpoint cluster t := by
  obtain ⟨c, e, d⟩ := t
  have hcovers : Covers node endpoint cluster ⟨c, e, d⟩ ↔
      (∀ wanted, c = some wanted → wanted = cluster) ∧
      (∀ wanted, e = some wanted → wanted = endpoint) ∧
      ∀ wanted, d = some wanted →
        ∃ e, node.endpoint endpoint = some e ∧ e.hasDeviceType wanted = true :=
    ⟨fun h => ⟨h.inCluster, h.atEndpoint, h.ofDeviceType⟩, fun h => ⟨h.1, h.2.1, h.2.2⟩⟩
  rw [hcovers]
  unfold Target.isMatch
  rcases c with _ | c <;> rcases e with _ | e <;> rcases d with _ | d <;>
    rcases node.endpoint endpoint with _ | found <;> simp

variable {e : Entry S T} {a : Acl N S T}

lemma subjects_iff : (!e.subjects.toList.isEmpty && !e.subjects.toList.any (fun aclSubject =>
        subject.subjects.toList.any fun isd => subjectMatches aclSubject isd)) = false ↔
      (e.subjects.toList = [] ∨
        ∃ s ∈ e.subjects.toList, ∃ isd ∈ subject.subjects.toList, TakesIn s isd) := by
  rw [Bool.and_eq_false_iff, Bool.not_eq_false', Bool.not_eq_false', List.isEmpty_iff, List.any_eq_true]
  simp only [List.any_eq_true, subjectMatches_iff]

lemma targets_iff : (if e.targets.toList.isEmpty then
        !(decide (e.authMode = .group) && config.auxiliary && endpoint == 0)
      else e.targets.toList.any fun target => target.isMatch node endpoint cluster) = true ↔
      (e.targets.toList = [] ∧
          ¬(e.authMode = .group ∧ config.auxiliary = true ∧ endpoint = 0)) ∨
        ∃ t ∈ e.targets.toList, Covers node endpoint cluster t := by
  rcases e.targets.toList with _ | ⟨target, targets⟩
  · rw [List.isEmpty_nil, if_pos rfl, Bool.not_eq_true', Bool.and_eq_false_iff, Bool.and_eq_false_iff]
    simp only [decide_eq_false_iff_not, beq_eq_false_iff_ne, List.not_mem_nil, false_and, exists_false,
      or_false, true_and, not_and_or, Bool.not_eq_true, or_assoc]
  · simp [isMatch_iff]

/-- The code's test of an entry is that it matches. -/
lemma applies_iff : applies config node subject endpoint cluster e = true ↔
    Matches config node subject endpoint cluster e := by
  unfold applies
  constructor
  · intro h
    by_cases hfabric : e.fabricIndex.val = 0 ∨ e.fabricIndex ≠ subject.fabricIndex
    · rw [if_pos hfabric] at h
      cases h
    by_cases hmode : some e.authMode ≠ subject.authMode
    · rw [if_neg hfabric, if_pos hmode] at h
      cases h
    rw [if_neg hfabric, if_neg hmode] at h
    push Not at hfabric
    rcases hsubjects : (!e.subjects.toList.isEmpty && !e.subjects.toList.any (fun aclSubject =>
        subject.subjects.toList.any fun isd => subjectMatches aclSubject isd)) with _ | _
    · rw [hsubjects, if_neg Bool.false_ne_true] at h
      exact ⟨hfabric.2, hfabric.1, (not_not.mp hmode).symm, subjects_iff.mp hsubjects,
        targets_iff.mp h⟩
    · rw [hsubjects, if_pos rfl] at h
      cases h
  · intro h
    rw [if_neg (by rintro (hzero | hne)
                   · exact h.fabric_ne_zero hzero
                   · exact hne h.fabric),
      if_neg (not_not.mpr h.mode.symm), subjects_iff.mpr h.subjects, if_neg Bool.false_ne_true]
    exact targets_iff.mpr h.targets

/-- No entry gives Administer to a group, and none is for a commissioner. -/
def Kept (a : Acl N S T) : Prop := ∀ e ∈ a.entries.toList, e.isWellFormed = true

/-- A group is no commissioner, and no entry grants it Administer. -/
lemma Kept.not_group_administer (ha : a.Kept) (hgroup : subject.authMode = some .group) :
    ¬((subject.authMode = some .pase ∧ subject.isCommissioning = true) ∨
      ∃ e ∈ a.entries.toList, Matches config node subject endpoint cluster e ∧
        e.privilege.grants .administer = true) := by
  rintro (⟨hpase, -⟩ | ⟨e, he, hmatches, hgrants⟩)
  · rw [hgroup] at hpase
    cases hpase
  · have hcase := (Entry.authMode_of_isWellFormed (ha e he)).2 (Granted.eq_administer_of_grants hgrants)
    have hmode := hmatches.mode
    rw [hgroup, hcase] at hmode
    cases hmode

/-- Only the entries of the subject's own fabric can match. -/
lemma exists_matches_iff {P : Entry S T → Prop} :
    (∃ e ∈ a.entries.toList, Matches config node subject endpoint cluster e ∧ P e) ↔
      ∃ e ∈ a.ofFabric subject.fabricIndex, Matches config node subject endpoint cluster e ∧ P e := by
  refine exists_congr fun e => ⟨?_, ?_⟩
  · rintro ⟨he, hmatches, hP⟩
    exact ⟨List.mem_filter.mpr ⟨he, by simp [hmatches.fabric]⟩, hmatches, hP⟩
  · rintro ⟨he, hmatches, hP⟩
    exact ⟨List.mem_of_mem_filter he, hmatches, hP⟩

/-- An access is granted exactly to a commissioner and to whom an entry grants it. -/
lemma allows_iff (ha : a.Kept) (hrequired : required ≠ .proxyView) :
    a.allows config node subject endpoint cluster required = .granted ↔
      (subject.authMode = some .pase ∧ subject.isCommissioning = true) ∨
      ∃ e ∈ a.entries.toList, Matches config node subject endpoint cluster e ∧
        e.privilege.grants required = true := by
  set initial := if subject.authMode = some .pase ∧ subject.isCommissioning = true then
    Granted.none.add .administer else Granted.none with hinitial
  have hclosed : Closed initial := by
    rw [hinitial]
    split_ifs
    · exact Closed.none.add _
    · exact Closed.none
  have hhas : ∀ p ≠ Privilege.proxyView, initial.has p = true ↔
      (subject.authMode = some .pase ∧ subject.isCommissioning = true) := by
    intro p hp
    rw [hinitial]
    split_ifs with hpase
    · rw [Granted.has_add_iff]
      exact iff_of_true (.inr (Granted.administer_grants hp)) hpase
    · rw [Granted.has_none]
      exact iff_of_false Bool.false_ne_true hpase
  have hwalk : ∀ p ≠ Privilege.proxyView,
      (grantedFrom config node subject endpoint cluster a.entries.toList initial).has p = true ↔
        (subject.authMode = some .pase ∧ subject.isCommissioning = true) ∨
        ∃ e ∈ a.entries.toList, Matches config node subject endpoint cluster e ∧
          e.privilege.grants p = true := by
    intro p hp
    rw [has_grantedFrom_iff hclosed hp, hhas p hp]
    simp only [applies_iff]
  -- a group is given Administer by no entry, so the guard at the end is never taken
  have hguard : ¬(subject.authMode = some .group ∧
      (grantedFrom config node subject endpoint cluster a.entries.toList initial).has
        .administer = true) := by
    rintro ⟨hgroup, hadmin⟩
    rw [hwalk .administer (by decide)] at hadmin
    exact ha.not_group_administer hgroup hadmin
  unfold allows granted
  simp only
  rw [← hinitial, if_neg hguard, ← hwalk required hrequired]
  split_ifs with h
  · exact iff_of_true rfl h
  · exact iff_of_false nofun h

end decisions

/-! ## Runs -/

lemma kept_new : (new : Acl N S T).Kept := fun _ he => absurd he List.not_mem_nil

/-- An entry is appended if it is well formed, its fabric below its share and the list not full, and
refused otherwise. -/
lemma add_cases (a : Acl N S T) (config : AclConfig) (entry : Entry S T) :
    ((entry.isWellFormed = true ∧ a.lenOfFabric entry.fabricIndex < config.entriesPerFabric ∧
        a.entries.toList.length < N) ∧ (a.add config entry).1 = .ok () ∧
        (a.add config entry).2.entries.toList = a.entries.toList ++ [entry]) ∨
      (¬(entry.isWellFormed = true ∧ a.lenOfFabric entry.fabricIndex < config.entriesPerFabric ∧
        a.entries.toList.length < N) ∧ ∃ e, a.add config entry = (.error e, a)) := by
  unfold add
  rcases hformed : entry.isWellFormed with _ | _
  · exact .inr ⟨fun h => Bool.false_ne_true h.1, _, rfl⟩
  simp only [Bool.not_true, Bool.false_eq_true, if_false]
  by_cases hshare : config.entriesPerFabric ≤ a.lenOfFabric entry.fabricIndex
  · rw [if_pos hshare]
    exact .inr ⟨fun h => absurd h.2.1 (not_lt.mpr hshare), _, rfl⟩
  rw [if_neg hshare]
  unfold BoundedVec.push
  by_cases hroom : a.entries.toList.length < N
  · rw [dif_pos hroom]
    exact .inl ⟨⟨trivial, not_le.mp hshare, hroom⟩, rfl, rfl⟩
  · rw [dif_neg hroom]
    exact .inr ⟨fun h => hroom h.2.2, _, rfl⟩

lemma Kept.add {a : Acl N S T} (h : a.Kept) (config : AclConfig) (entry : Entry S T) :
    (a.add config entry).2.Kept := by
  rcases a.add_cases config entry with ⟨⟨hformed, -, -⟩, -, hentries⟩ | ⟨-, e, heq⟩
  · intro e he
    rw [hentries, List.mem_append, List.mem_singleton] at he
    rcases he with he | rfl
    · exact h e he
    · exact hformed
  · rw [heq]
    exact h

lemma Kept.removeFabric {a : Acl N S T} (h : a.Kept) (fabric : FabricIndex) :
    (a.removeFabric fabric).Kept := fun e he => h e (List.mem_of_mem_filter he)

lemma Kept.addAll {a : Acl N S T} (h : a.Kept) (config : AclConfig) (entries : List (Entry S T)) :
    (a.addAll config entries).2.Kept := by
  induction entries generalizing a with
  | nil => exact h
  | cons entry entries ih =>
    have hadd := h.add config entry
    unfold Acl.addAll
    rcases hres : a.add config entry with ⟨e | ⟨⟨⟩⟩, a'⟩
    · rw [hres] at hadd
      exact hadd
    · rw [hres] at hadd
      exact ih hadd

end Acl

/-- A call that changes an access control list. -/
inductive AclOp (S T : ℕ)
  | add (entry : Entry S T)
  | addAdminForFabric (fabric : FabricIndex) (subject : NodeId)
  | removeFabric (fabric : FabricIndex)
  | replaceFabric (fabric : FabricIndex) (entries : List (Entry S T))

namespace AclOp

variable {N S T : ℕ}

/-- The list after a call. -/
def step (config : AclConfig) (a : Acl N S T) : AclOp S T → Acl N S T
  | add entry => (a.add config entry).2
  | addAdminForFabric fabric subject => (a.addAdminForFabric config fabric subject).2
  | removeFabric fabric => a.removeFabric fabric
  | replaceFabric fabric entries => (a.replaceFabric config fabric entries).2

/-- The list after a run of calls on an empty one. -/
def run (config : AclConfig) (ops : List (AclOp S T)) : Acl N S T := ops.foldl (step config) .new

lemma kept_step {a : Acl N S T} (h : a.Kept) (config : AclConfig) (op : AclOp S T) :
    (op.step config a).Kept := by
  cases op with
  | add entry => exact h.add config entry
  | addAdminForFabric fabric subject =>
    show (a.addAdminForFabric config fabric subject).2.Kept
    unfold Acl.addAdminForFabric
    split_ifs
    · exact h
    · rcases (Entry.case fabric .administer : Entry S T).withSubject subject with e | entry
      · exact h
      · exact h.add config entry
  | removeFabric fabric => exact h.removeFabric fabric
  | replaceFabric fabric entries => exact (h.removeFabric fabric).addAll config entries

lemma kept_run (config : AclConfig) (ops : List (AclOp S T)) : (run config ops : Acl N S T).Kept := by
  unfold run
  exact foldl_invariant (W := fun _ => True) (I := Acl.Kept) (fun _ op _ h => kept_step h config op)
    (fun _ _ => trivial) Acl.kept_new

/-- After every run of calls, an access that needs View, Operate, Manage or Administer is granted
exactly to a commissioner and to whom an entry of its own fabric grants it. The answer is that of any
other list with the same entries of the subject's fabric, in any order, and Administer is never granted
to a group. -/
theorem allows_run_iff (config : AclConfig) (ops : List (AclOp S T)) (node : Node)
    (subject : SubjectDescriptor) (endpoint : EndpointId) (cluster : ClusterId)
    (required : Privilege) (hrequired : required ≠ .proxyView) :
    ((run config ops : Acl N S T).allows config node subject endpoint cluster required = .granted ↔
      (subject.authMode = some .pase ∧ subject.isCommissioning = true) ∨
      ∃ e ∈ (run config ops : Acl N S T).entries.toList,
        Acl.Matches config node subject endpoint cluster e ∧ e.privilege.grants required = true) ∧
    (∀ others : List (AclOp S T), ((run config others : Acl N S T).ofFabric subject.fabricIndex).Perm
          ((run config ops : Acl N S T).ofFabric subject.fabricIndex) →
        (run config others : Acl N S T).allows config node subject endpoint cluster required =
          (run config ops : Acl N S T).allows config node subject endpoint cluster required) ∧
    (subject.authMode = some .group →
      (run config ops : Acl N S T).allows config node subject endpoint cluster .administer ≠
        .granted) := by
  have hkept := kept_run (N := N) config ops
  refine ⟨Acl.allows_iff hkept hrequired, ?_, ?_⟩
  · intro others hperm
    have hsame : (run config others : Acl N S T).allows config node subject endpoint cluster
          required = .granted ↔
        (run config ops : Acl N S T).allows config node subject endpoint cluster required =
          .granted := by
      rw [Acl.allows_iff hkept hrequired, Acl.allows_iff (kept_run config others) hrequired,
        Acl.exists_matches_iff, Acl.exists_matches_iff]
      simp only [hperm.mem_iff]
    unfold Acl.allows at hsame ⊢
    split_ifs at hsame ⊢ <;> first | rfl | simp at hsame
  · intro hgroup hgranted
    exact hkept.not_group_administer hgroup ((Acl.allows_iff hkept (by decide)).mp hgranted)

/-- The administrator of a new fabric may operate any cluster. -/
theorem allows_new_administrator :
    (run ⟨4, false⟩ [.addAdminForFabric ⟨1⟩ ⟨0x1234⟩] : Acl 20 4 3).allows ⟨4, false⟩ ⟨[]⟩
      ⟨false, some .case, ⟨[⟨0x1234⟩], by decide⟩, ⟨1⟩⟩ 1 6 .operate = .granted :=
  (allows_run_iff ⟨4, false⟩ _ ⟨[]⟩ _ 1 6 .operate (by decide)).1.mpr <| .inr
    ⟨⟨⟨1⟩, .administer, .case, ⟨[⟨0x1234⟩], by decide⟩, .empty⟩, by decide,
      ⟨rfl, by decide, rfl, .inr ⟨⟨0x1234⟩, by decide, ⟨0x1234⟩, by decide, .inl rfl⟩,
        .inl ⟨rfl, by decide⟩⟩, rfl⟩

end AclOp

end MatterKit
