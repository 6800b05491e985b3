import MatterKit.Im.Server
import MatterKit.Lib.Runs

/-!
# Atomic writes

`im/atomic.rs`: the claims that clients hold on sets of attributes while they write them together.
`begin` refuses an empty list, a list with repeats, a second claim of a client on a cluster instance and
an attribute that is claimed already, and so the claims of a table always are `Exclusive`.

`finish` compares the claimed list with the given one by length and containment. A given list that
repeats an attribute is refused, even if it names the attributes of the claim and no others
(`finish_refuses_repeats`).
-/

namespace MatterKit.Im

open Lib Machine Tlv Dm

/-! ## Claims -/

/-- Source: `Writer`. -/
structure Writer where
  node : NodeId
  fabric : FabricIndex
  deriving DecidableEq

/-- Source: `Claim`. -/
structure Claim (A : ℕ) where
  endpoint : EndpointId
  cluster : ClusterId
  writer : Writer
  attributes : BoundedVec AttributeId A
  deadline : Instant

/-- Source: `AtomicWrites`. -/
structure AtomicWrites (N A : ℕ) where
  claims : BoundedVec (Claim A) N

/-- Some attribute occurs again further on.
Source: `AtomicWrites::begin`, `for (index, id) in attributes.iter().enumerate()`. -/
def repeats : List AttributeId → Bool
  | [] => false
  | id :: rest => rest.contains id || repeats rest

/-- Source: `same_set`. -/
def sameSet (held asked : List AttributeId) : Bool :=
  held.length == asked.length && held.all fun id => asked.contains id

namespace AtomicWrites

variable {N A : ℕ}

/-- Source: `AtomicWrites::new`. -/
def new : AtomicWrites N A := ⟨.empty⟩

/-- Source: `AtomicWrites::find`. -/
def find (t : AtomicWrites N A) (endpoint : EndpointId) (cluster : ClusterId) (writer : Writer) :
    Option (Claim A) :=
  t.claims.toList.find? fun c =>
    c.endpoint == endpoint && c.cluster == cluster && c.writer == writer

/-- Source: `AtomicWrites::holder`. -/
def holder (t : AtomicWrites N A) (endpoint : EndpointId) (cluster : ClusterId)
    (attributeId : AttributeId) : Option Writer :=
  (t.claims.toList.find? fun c => c.endpoint == endpoint && c.cluster == cluster &&
    c.attributes.toList.contains attributeId).map Claim.writer

/-- Source: `AtomicWrites::check_write`. -/
def checkWrite (t : AtomicWrites N A) (endpoint : EndpointId) (cluster : ClusterId)
    (writer : Option Writer) (attributeId : AttributeId) : Except Status Unit :=
  match writer with
  | none => .error .invalidInState
  | some writer =>
    match t.find endpoint cluster writer with
    | some claim =>
      if claim.attributes.toList.contains attributeId then .ok () else .error .invalidInState
    | none => .error .invalidInState

/-- Source: `AtomicWrites::begin`. -/
def begin (t : AtomicWrites N A) (endpoint : EndpointId) (cluster : ClusterId) (writer : Writer)
    (attributes : List AttributeId) (timeout : Duration) (now : Instant) :
    Except Status Unit × AtomicWrites N A :=
  if attributes = [] then (.error .invalidCommand, t)
  else if repeats attributes then (.error .invalidCommand, t)
  else if (t.find endpoint cluster writer).isSome then (.error .invalidInState, t)
  else if attributes.any fun id => (t.holder endpoint cluster id).isSome then (.error .busy, t)
  else if h : attributes.length ≤ A then
    match t.claims.push ⟨endpoint, cluster, writer, ⟨attributes, h⟩, now.saturatingAdd timeout⟩ with
    | some claims => (.ok (), ⟨claims⟩)
    | none => (.error .resourceExhausted, t)
  else (.error .resourceExhausted, t)

/-- Source: `AtomicWrites::finish`. -/
def finish (t : AtomicWrites N A) (endpoint : EndpointId) (cluster : ClusterId) (writer : Writer)
    (attributes : List AttributeId) : Except Status Unit × AtomicWrites N A :=
  match t.find endpoint cluster writer with
  | none => (.error .invalidInState, t)
  | some claim =>
    if sameSet claim.attributes.toList attributes then
      match t.claims.removeFirst fun c =>
          c.endpoint == endpoint && c.cluster == cluster && c.writer == writer with
      | some claims => (.ok (), ⟨claims⟩)
      | none => (.ok (), t)
    else (.error .invalidInState, t)

/-- Source: `AtomicWrites::reap`. -/
def reap (t : AtomicWrites N A) (now : Instant) : AtomicWrites N A :=
  ⟨t.claims.retain fun c => now.micros < c.deadline.micros⟩

/-- Source: `AtomicWrites::remove_fabric`. -/
def removeFabric (t : AtomicWrites N A) (fabric : FabricIndex) : AtomicWrites N A :=
  ⟨t.claims.retain fun c => c.writer.fabric != fabric⟩

end AtomicWrites

/-! ## Lists as sets -/

lemma repeats_eq_false_iff {l : List AttributeId} : repeats l = false ↔ l.Nodup := by
  induction l with
  | nil => simp [repeats]
  | cons id rest ih => simp [repeats, ih]

/-- Against a list without repeats, length and containment decide equality up to order. -/
lemma sameSet_iff_perm {held asked : List AttributeId} (hheld : held.Nodup) :
    sameSet held asked = true ↔ held.Perm asked := by
  unfold sameSet
  rw [Bool.and_eq_true, beq_iff_eq, List.all_eq_true]
  constructor
  · rintro ⟨hlength, hall⟩
    have hsubset : held ⊆ asked := fun id hid => List.contains_iff_mem.mp (hall id hid)
    exact (List.Nodup.subperm hheld hsubset).perm_of_length_le hlength.ge
  · intro hperm
    exact ⟨hperm.length_eq, fun id hid => List.contains_iff_mem.mpr (hperm.subset hid)⟩

/-! ## Exclusion -/

/-- What a claim is looked up by. -/
def Claim.key {A : ℕ} (c : Claim A) : EndpointId × ClusterId × Writer :=
  (c.endpoint, c.cluster, c.writer)

namespace AtomicWrites

variable {N A : ℕ} {t t' : AtomicWrites N A} {endpoint : EndpointId} {cluster : ClusterId}
  {writer : Writer} {attributes : List AttributeId} {timeout : Duration} {now : Instant}

/-- A writer holds one claim on a cluster instance at most, every claim is on some attributes, each
once, and the claims of two writers on a cluster instance have no attribute in common. -/
structure Exclusive (t : AtomicWrites N A) : Prop where
  one_each : KeysUnique Claim.key t.claims.toList
  some_attribute : ∀ c ∈ t.claims.toList, c.attributes.toList ≠ []
  nodup : ∀ c ∈ t.claims.toList, c.attributes.toList.Nodup
  disjoint : ∀ c ∈ t.claims.toList, ∀ d ∈ t.claims.toList, c.endpoint = d.endpoint →
    c.cluster = d.cluster → c.writer ≠ d.writer →
      List.Disjoint c.attributes.toList d.attributes.toList

lemma mem_of_find {claim : Claim A} (h : t.find endpoint cluster writer = some claim) :
    claim ∈ t.claims.toList ∧ claim.key = (endpoint, cluster, writer) := by
  have hkey := List.find?_some h
  simp only [Bool.and_eq_true, beq_iff_eq] at hkey
  exact ⟨List.mem_of_find?_eq_some h, by rw [Claim.key, hkey.1.1, hkey.1.2, hkey.2]⟩

variable {c : Claim A} {id : AttributeId}

lemma find_eq_none (h : t.find endpoint cluster writer = none) (hc : c ∈ t.claims.toList) :
    c.key ≠ (endpoint, cluster, writer) := by
  intro hkey
  rw [Claim.key, Prod.mk.injEq, Prod.mk.injEq] at hkey
  have := List.find?_eq_none.mp h c hc
  simp [hkey.1, hkey.2.1, hkey.2.2] at this

/-- A claim is found by its key. -/
lemma Exclusive.find_key (h : t.Exclusive) (hc : c ∈ t.claims.toList) :
    t.find c.endpoint c.cluster c.writer = some c := by
  rcases hfind : t.find c.endpoint c.cluster c.writer with _ | d
  · exact absurd rfl (find_eq_none hfind hc)
  · obtain ⟨hd, hkey⟩ := mem_of_find hfind
    rw [h.one_each.eq_of_key_eq hd hc hkey]

lemma exclusive_new : (new : AtomicWrites N A).Exclusive :=
  ⟨KeysUnique.nil, fun _ hc => absurd hc List.not_mem_nil, fun _ hc => absurd hc List.not_mem_nil,
    fun _ hc => absurd hc List.not_mem_nil⟩

/-- Ending claims keeps the others exclusive. -/
lemma Exclusive.of_subperm (h : t.Exclusive)
    (hsub : t'.claims.toList.Subperm t.claims.toList) : t'.Exclusive := by
  refine ⟨?_, ?_, ?_, ?_⟩
  · obtain ⟨l, hperm, hl⟩ := hsub
    exact KeysUnique.perm (List.Nodup.sublist (hl.map _) h.one_each) hperm.symm
  · intro c hc
    exact h.some_attribute c (hsub.subset hc)
  · intro c hc
    exact h.nodup c (hsub.subset hc)
  · intro c hc d hd
    exact h.disjoint c (hsub.subset hc) d (hsub.subset hd)

/-- `begin` adds the claim it was asked for, on attributes that nobody holds, or changes nothing. -/
lemma begin_cases (t : AtomicWrites N A) (endpoint : EndpointId) (cluster : ClusterId)
    (writer : Writer) (attributes : List AttributeId) (timeout : Duration) (now : Instant) :
    ((t.begin endpoint cluster writer attributes timeout now).1 = .ok () ∧
      attributes ≠ [] ∧ attributes.Nodup ∧ t.find endpoint cluster writer = none ∧
      (∀ id ∈ attributes, t.holder endpoint cluster id = none) ∧
      ∃ claim : Claim A, claim.key = (endpoint, cluster, writer) ∧ claim.attributes.toList = attributes ∧
        (t.begin endpoint cluster writer attributes timeout now).2.claims.toList =
          t.claims.toList ++ [claim]) ∨
      ∃ e, t.begin endpoint cluster writer attributes timeout now = (.error e, t) := by
  unfold begin
  by_cases hnil : attributes = []
  · rw [if_pos hnil]
    exact .inr ⟨_, rfl⟩
  rw [if_neg hnil]
  rcases hrepeats : repeats attributes with _ | _
  swap
  · exact .inr ⟨_, rfl⟩
  rcases hfind : t.find endpoint cluster writer with _ | claim
  swap
  · exact .inr ⟨_, rfl⟩
  rcases hheld : attributes.any (fun id => (t.holder endpoint cluster id).isSome) with _ | _
  swap
  · exact .inr ⟨_, rfl⟩
  simp only [Bool.false_eq_true, if_false, Option.isSome_none]
  have hfree : ∀ id ∈ attributes, t.holder endpoint cluster id = none := by
    intro id hid
    simpa using List.any_eq_false.mp hheld id hid
  split_ifs with hlength
  swap
  · exact .inr ⟨_, rfl⟩
  unfold BoundedVec.push
  split_ifs with hroom
  · exact .inl ⟨rfl, hnil, repeats_eq_false_iff.mp hrepeats, trivial, hfree, _, rfl, rfl, rfl⟩
  · exact .inr ⟨_, rfl⟩

/-- An attribute that nobody holds is in no claim. -/
lemma notMem_of_holder (h : t.holder endpoint cluster id = none) (hc : c ∈ t.claims.toList)
    (hendpoint : c.endpoint = endpoint) (hcluster : c.cluster = cluster) : id ∉ c.attributes.toList := by
  unfold holder at h
  rw [Option.map_eq_none_iff, List.find?_eq_none] at h
  simpa [hendpoint, hcluster] using h c hc

/-- A `begin` takes attributes that no other writer has claimed. -/
lemma Exclusive.begin (h : t.Exclusive) :
    (t.begin endpoint cluster writer attributes timeout now).2.Exclusive := by
  rcases t.begin_cases endpoint cluster writer attributes timeout now with
    ⟨-, hnil, hnodup, hfind, hfree, claim, hkey, hattributes, hclaims⟩ | ⟨e, heq⟩
  swap
  · rw [heq]
    exact h
  rw [Claim.key, Prod.mk.injEq, Prod.mk.injEq] at hkey
  have hapart : ∀ c ∈ t.claims.toList, c.endpoint = endpoint → c.cluster = cluster →
      List.Disjoint c.attributes.toList claim.attributes.toList := by
    intro c hc hendpoint hcluster id hid hid'
    rw [hattributes] at hid'
    exact notMem_of_holder (hfree id hid') hc hendpoint hcluster hid
  refine ⟨?_, ?_, ?_, ?_⟩
  · rw [hclaims]
    refine h.one_each.append_singleton ?_
    intro c hc
    rw [show claim.key = (endpoint, cluster, writer) by rw [Claim.key, hkey.1, hkey.2.1, hkey.2.2]]
    exact find_eq_none hfind hc
  · intro c hc
    rw [hclaims, List.mem_append, List.mem_singleton] at hc
    rcases hc with hc | rfl
    · exact h.some_attribute c hc
    · rwa [hattributes]
  · intro c hc
    rw [hclaims, List.mem_append, List.mem_singleton] at hc
    rcases hc with hc | rfl
    · exact h.nodup c hc
    · rwa [hattributes]
  · intro c hc d hd hendpoint hcluster hwriter
    rw [hclaims, List.mem_append, List.mem_singleton] at hc hd
    rcases hc with hc | rfl <;> rcases hd with hd | rfl
    · exact h.disjoint c hc d hd hendpoint hcluster hwriter
    · exact hapart c hc (hendpoint.trans hkey.1) (hcluster.trans hkey.2.1)
    · exact (hapart d hd (hendpoint.symm.trans hkey.1) (hcluster.symm.trans hkey.2.1)).symm
    · exact absurd rfl hwriter

/-- `finish` ends the claim it finds if the lists agree, and changes nothing otherwise. -/
lemma finish_cases (t : AtomicWrites N A) (endpoint : EndpointId) (cluster : ClusterId)
    (writer : Writer) (attributes : List AttributeId) :
    ((∃ claim, t.find endpoint cluster writer = some claim ∧
        sameSet claim.attributes.toList attributes = true) ∧
      (t.finish endpoint cluster writer attributes).1 = .ok () ∧
      (t.finish endpoint cluster writer attributes).2.claims.toList.Subperm t.claims.toList) ∨
    ((∀ claim, t.find endpoint cluster writer = some claim →
        sameSet claim.attributes.toList attributes = false) ∧
      t.finish endpoint cluster writer attributes = (.error .invalidInState, t)) := by
  unfold finish
  rcases t.find endpoint cluster writer with _ | claim
  · exact .inr ⟨nofun, rfl⟩
  simp only
  rcases hsame : sameSet claim.attributes.toList attributes with _ | _
  · refine .inr ⟨?_, by rw [if_neg Bool.false_ne_true]⟩
    rintro _ ⟨⟩
    exact hsame
  · rw [if_pos rfl]
    refine .inl ⟨⟨claim, rfl, hsame⟩, ?_⟩
    split
    · rename_i claims hremove
      obtain ⟨i, -, -, hperm⟩ := BoundedVec.removeFirst_eq_some hremove
      exact ⟨rfl, _, hperm.symm, List.eraseIdx_sublist _ _⟩
    · exact ⟨rfl, List.Subperm.refl _⟩

lemma Exclusive.finish (h : t.Exclusive) : (t.finish endpoint cluster writer attributes).2.Exclusive := by
  rcases t.finish_cases endpoint cluster writer attributes with ⟨-, -, hsub⟩ | ⟨-, heq⟩
  · exact h.of_subperm hsub
  · rw [heq]
    exact h

/-- `finish` succeeds exactly for a list that names the attributes of the writer's claim, each once. -/
lemma Exclusive.finish_eq_ok_iff (h : t.Exclusive) :
    (t.finish endpoint cluster writer attributes).1 = .ok () ↔
      ∃ claim ∈ t.claims.toList, claim.key = (endpoint, cluster, writer) ∧ attributes.Nodup ∧
        ∀ id, id ∈ claim.attributes.toList ↔ id ∈ attributes := by
  constructor
  · intro hok
    rcases t.finish_cases endpoint cluster writer attributes with
      ⟨⟨claim, hfind, hsame⟩, -, -⟩ | ⟨-, heq⟩
    · obtain ⟨hmem, hkey⟩ := mem_of_find hfind
      have hperm := (sameSet_iff_perm (h.nodup claim hmem)).mp hsame
      exact ⟨claim, hmem, hkey, hperm.nodup_iff.mp (h.nodup claim hmem), fun id => hperm.mem_iff⟩
    · rw [heq] at hok
      cases hok
  · rintro ⟨claim, hmem, hkey, hnodup, hsame⟩
    rw [Claim.key, Prod.mk.injEq, Prod.mk.injEq] at hkey
    obtain ⟨rfl, rfl, rfl⟩ := hkey
    have hperm := (List.perm_ext_iff_of_nodup (h.nodup claim hmem) hnodup).mpr hsame
    rcases t.finish_cases claim.endpoint claim.cluster claim.writer attributes with
      ⟨-, hok, -⟩ | ⟨hnot, -⟩
    · exact hok
    · rw [← sameSet_iff_perm (h.nodup claim hmem), hnot claim (h.find_key hmem)] at hperm
      cases hperm

lemma mem_of_checkWrite (h : t.checkWrite endpoint cluster (some writer) id = .ok ()) :
    ∃ claim ∈ t.claims.toList, claim.key = (endpoint, cluster, writer) ∧
      id ∈ claim.attributes.toList := by
  unfold checkWrite at h
  simp only at h
  rcases hfind : t.find endpoint cluster writer with _ | claim
  · rw [hfind] at h
    cases h
  · rw [hfind] at h
    simp only at h
    split_ifs at h with hmem
    obtain ⟨hclaim, hkey⟩ := mem_of_find hfind
    exact ⟨claim, hclaim, hkey, List.contains_iff_mem.mp hmem⟩

/-- An attribute is writable for one writer at most. -/
lemma Exclusive.eq_of_checkWrite (h : t.Exclusive) {other : Writer}
    (hwriter : t.checkWrite endpoint cluster (some writer) id = .ok ())
    (hother : t.checkWrite endpoint cluster (some other) id = .ok ()) : writer = other := by
  obtain ⟨c, hc, hckey, hcid⟩ := mem_of_checkWrite hwriter
  obtain ⟨d, hd, hdkey, hdid⟩ := mem_of_checkWrite hother
  rw [Claim.key, Prod.mk.injEq, Prod.mk.injEq] at hckey hdkey
  by_contra hne
  refine h.disjoint c hc d hd ?_ ?_ ?_ hcid hdid
  · rw [hckey.1, hdkey.1]
  · rw [hckey.2.1, hdkey.2.1]
  · rw [hckey.2.2, hdkey.2.2]
    exact hne

end AtomicWrites

/-! ## Runs -/

/-- A call on the claims of a node. -/
inductive AtomicOp
  | begin (endpoint : EndpointId) (cluster : ClusterId) (writer : Writer)
      (attributes : List AttributeId) (timeout : Duration) (now : Instant)
  | finish (endpoint : EndpointId) (cluster : ClusterId) (writer : Writer)
      (attributes : List AttributeId)
  | reap (now : Instant)
  | removeFabric (fabric : FabricIndex)

namespace AtomicOp

open AtomicWrites

variable {N A : ℕ}

/-- The claims after a call. -/
def step (t : AtomicWrites N A) : AtomicOp → AtomicWrites N A
  | begin endpoint cluster writer attributes timeout now =>
    (t.begin endpoint cluster writer attributes timeout now).2
  | finish endpoint cluster writer attributes => (t.finish endpoint cluster writer attributes).2
  | reap now => t.reap now
  | removeFabric fabric => t.removeFabric fabric

/-- The claims after a run of calls on a node that held none. -/
def run (ops : List AtomicOp) : AtomicWrites N A := ops.foldl step new

lemma exclusive_step {t : AtomicWrites N A} (h : t.Exclusive) (op : AtomicOp) : (op.step t).Exclusive := by
  cases op with
  | begin endpoint cluster writer attributes timeout now => exact h.begin
  | finish endpoint cluster writer attributes => exact h.finish
  | reap now | removeFabric fabric => exact h.of_subperm List.filter_sublist.subperm

lemma exclusive_run (ops : List AtomicOp) : (run ops : AtomicWrites N A).Exclusive := by
  unfold run
  exact foldl_invariant (W := fun _ => True) (I := Exclusive) (fun _ op _ h => exclusive_step h op)
    (fun _ _ => trivial) exclusive_new

/-- After every run the claims exclude each other: they are exclusive, an attribute is writable for one
writer at most, a `begin` or a `finish` that fails changes nothing, and a `finish` succeeds exactly for
a list that names the attributes of the writer's claim, each once. -/
theorem claims_exclude (ops : List AtomicOp) : (run ops : AtomicWrites N A).Exclusive ∧
    (∀ endpoint cluster id writer other,
      (run ops : AtomicWrites N A).checkWrite endpoint cluster (some writer) id = .ok () →
      (run ops : AtomicWrites N A).checkWrite endpoint cluster (some other) id = .ok () →
        writer = other) ∧ (∀ endpoint cluster writer attributes timeout now,
      ((run ops : AtomicWrites N A).begin endpoint cluster writer attributes timeout now).1 ≠ .ok () →
      ((run ops : AtomicWrites N A).begin endpoint cluster writer attributes timeout now).2 = run ops) ∧
    ∀ endpoint cluster writer attributes,
      (((run ops : AtomicWrites N A).finish endpoint cluster writer attributes).1 ≠ .ok () →
        ((run ops : AtomicWrites N A).finish endpoint cluster writer attributes).2 = run ops) ∧
      (((run ops : AtomicWrites N A).finish endpoint cluster writer attributes).1 = .ok () ↔
        ∃ claim ∈ (run ops : AtomicWrites N A).claims.toList,
          claim.key = (endpoint, cluster, writer) ∧ attributes.Nodup ∧
            ∀ id, id ∈ claim.attributes.toList ↔ id ∈ attributes) := by
  have h := exclusive_run (N := N) (A := A) ops
  refine ⟨h, ?_, ?_, ?_⟩
  · intro endpoint cluster id writer other hwriter hother
    exact h.eq_of_checkWrite hwriter hother
  · intro endpoint cluster writer attributes timeout now hfail
    rcases (run ops).begin_cases endpoint cluster writer attributes timeout now with
      ⟨hok, -⟩ | ⟨e, heq⟩
    · exact absurd hok hfail
    · rw [heq]
  · intro endpoint cluster writer attributes
    refine ⟨?_, h.finish_eq_ok_iff⟩
    intro hfail
    rcases (run ops).finish_cases endpoint cluster writer attributes with ⟨-, hok, -⟩ | ⟨-, heq⟩
    · exact absurd hok hfail
    · rw [heq]

/-- A client that has claimed two attributes and commits a list that names one of them twice. -/
theorem finish_refuses_repeats :
    (∃ claim ∈ (run [.begin 1 0x201 ⟨⟨0x1111⟩, ⟨1⟩⟩ [0x12, 0x11] ⟨1000000⟩ ⟨0⟩] :
        AtomicWrites 4 4).claims.toList, claim.key = (1, 0x201, ⟨⟨0x1111⟩, ⟨1⟩⟩) ∧
        claim.attributes.toList.toFinset = [0x12, 0x11, 0x11].toFinset) ∧
    ((run [.begin 1 0x201 ⟨⟨0x1111⟩, ⟨1⟩⟩ [0x12, 0x11] ⟨1000000⟩ ⟨0⟩] : AtomicWrites 4 4).finish
      1 0x201 ⟨⟨0x1111⟩, ⟨1⟩⟩ [0x12, 0x11, 0x11]).1 = .error .invalidInState := by
  refine ⟨⟨⟨1, 0x201, ⟨⟨0x1111⟩, ⟨1⟩⟩, ⟨[0x12, 0x11], by decide⟩, ⟨1000000⟩⟩, ?_, rfl, by decide⟩, ?_⟩
  · exact List.mem_singleton.mpr rfl
  · rfl

end AtomicOp

end MatterKit.Im
