import MatterKit.Dm.Node
import Mathlib.Data.List.Nodup

/-!
# What a wildcard stands for

`dm/node.rs`: a node is looked through in two ways. A concrete path is resolved by binary search, level
by level; a wildcard is expanded by a walk over the same slices. `Node.validate` checks, once at
start-up, that the slices are in strictly ascending order.

In a slice in this order the search finds exactly what is there (`searchByKey_eq_some_iff`). A walk
yields, from wherever it stands, the leaves of the lists behind it that its filters let through
(`Walk.items_eq`), so from the start it yields a filtered list of all leaves (`Walk.items_start`), in
which no path occurs twice.
-/

namespace MatterKit.Dm

open Lib Im

/-! ## Slices in order -/

/-- Source: `slice.windows(2).all(|w| matches!(w, [a, b] if a < b))`, and `ascending` in
`ClusterDescriptor::is_well_formed`. -/
def ascending {K : Type} [LT K] [DecidableLT K] (keys : List K) : Bool :=
  (keys.zip keys.tail).all fun w => decide (w.1 < w.2)

/-- Keys in ascending order stay so when they are read as numbers. -/
lemma pairwise_of_ascending {K : Type} [LT K] [DecidableLT K] {toNat : K → ℕ}
    (hlt : ∀ {a b : K}, a < b → toNat a < toNat b) {keys : List K} (h : ascending keys = true) :
    (keys.map toNat).Pairwise (· < ·) := by
  rw [← List.isChain_iff_pairwise]
  induction keys with
  | nil => exact .nil
  | cons a rest ih =>
    cases rest with
    | nil => exact .singleton _
    | cons b rest =>
      rw [ascending, List.tail_cons, List.zip_cons_cons, List.all_cons, Bool.and_eq_true] at h
      exact .cons_cons (hlt (of_decide_eq_true h.1)) (ih h.2)

lemma nodup_of_ascending {K : Type} [LT K] [DecidableLT K] {toNat : K → ℕ}
    (hlt : ∀ {a b : K}, a < b → toNat a < toNat b) {keys : List K} (h : ascending keys = true) :
    keys.Nodup :=
  List.Pairwise.of_map toNat (fun _ _ hbefore heq => hbefore.ne (congrArg toNat heq))
    (pairwise_of_ascending hlt h)

section search

variable {α : Type} {key : α → UInt32} {k : UInt32} {l : List α}

/-- The search keeps the place it looks for in the part that is still searched, until nothing else is. -/
lemma binarySearchLoop_eq (hl : (l.map fun a => (key a).toNat).Pairwise (· < ·)) {j : ℕ}
    (hj : j < l.length) {rounds base size : ℕ} (hrounds : size ≤ rounds + 1)
    (hlength : base + size ≤ l.length) (hbase : base ≤ j) (hsize : j < base + size) :
    binarySearchLoop (fun a => decide (key l[j] < key a)) l rounds base size = j := by
  have hlt : ∀ a b (ha : a < l.length) (hb : b < l.length), a < b →
      (key l[a]).toNat < (key l[b]).toNat := by
    intro a b ha hb hab
    have hpair := List.pairwise_iff_getElem.mp hl a b (by simpa using ha) (by simpa using hb) hab
    rwa [List.getElem_map, List.getElem_map] at hpair
  induction rounds generalizing base size with
  | zero =>
    rw [binarySearchLoop]
    omega
  | succ rounds ih =>
    rw [binarySearchLoop]
    by_cases hmore : 1 < size
    · rw [if_pos hmore]
      have hmid : base + size / 2 < l.length := by omega
      simp only [List.getElem?_eq_getElem hmid, Option.map_some, Option.getD_some]
      by_cases hgreater : key l[j] < key l[base + size / 2]
      · rw [if_pos (decide_eq_true hgreater)]
        have hbefore : j < base + size / 2 := by
          rw [UInt32.lt_iff_toNat_lt] at hgreater
          rcases Nat.lt_trichotomy j (base + size / 2) with hbefore | heq | hafter
          · exact hbefore
          · simp only [heq, lt_irrefl] at hgreater
          · exact absurd (hlt _ _ hmid hj hafter) (lt_asymm hgreater)
        exact ih (by omega) (by omega) hbase (by omega)
      · rw [if_neg (by simpa using hgreater)]
        have hafter : base + size / 2 ≤ j := by
          by_contra hle
          exact hgreater (UInt32.lt_iff_toNat_lt.mpr (hlt _ _ hj hmid (not_le.mp hle)))
        exact ih (by omega) (by omega) hafter (by omega)
    · rw [if_neg hmore]
      omega

/-- In a slice in ascending order the search finds exactly what is there. -/
lemma searchByKey_eq_some_iff (hl : ascending (l.map key) = true) {a : α} :
    searchByKey key k l = some a ↔ a ∈ l ∧ key a = k := by
  refine ⟨searchByKey_spec, ?_⟩
  rintro ⟨hmem, rfl⟩
  obtain ⟨j, hj, rfl⟩ := List.mem_iff_getElem.mp hmem
  have hpairwise := pairwise_of_ascending (fun {a b : UInt32} => UInt32.lt_iff_toNat_lt.mp) hl
  rw [List.map_map] at hpairwise
  have hloop : binarySearchLoop (fun a => decide (key l[j] < key a)) l l.length 0 l.length = j :=
    binarySearchLoop_eq hpairwise hj (by omega) (by omega) (by omega) (by omega)
  rw [searchByKey, binarySearchByKey]
  simp only [hloop, List.getElem?_eq_getElem hj, if_true, Option.bind_some]

end search

/-! ## Nodes that are accepted -/

/-- Source: `dm/node.rs`, `Malformed`. -/
inductive Malformed
  | endpoints
  | clusters (endpoint : EndpointId)
  | cluster (endpoint : EndpointId) (cluster : ClusterId)
  deriving DecidableEq

/-- Source: `ClusterDescriptor::is_well_formed`. -/
def ClusterDescriptor.isWellFormed (c : ClusterDescriptor) : Bool :=
  ascending (c.attributes.map AttributeDescriptor.id) &&
    ascending (c.acceptedCommands.map CommandDescriptor.id) &&
    ascending (c.events.map EventDescriptor.id) &&
    !c.attributes.any fun a => Global.isGlobal a.id

/-- Source: `Node::validate`, the body of its loop. -/
def Endpoint.validate (e : Endpoint) : Except Malformed Unit := do
  if !ascending (e.clusters.map ClusterDescriptor.id) then throw (.clusters e.id)
  e.clusters.forM fun c => if !c.isWellFormed then throw (.cluster e.id c.id) else pure ()

/-- Source: `Node::validate`. -/
def Node.validate (n : Node) : Except Malformed Unit := do
  if !ascending (n.endpoints.map Endpoint.id) then throw .endpoints
  n.endpoints.forM Endpoint.validate

lemma forM_eq_ok_iff {α ε : Type} {f : α → Except ε Unit} {l : List α} :
    l.forM f = .ok () ↔ ∀ a ∈ l, f a = .ok () := by
  induction l with
  | nil => simp [pure, Except.pure]
  | cons a rest ih =>
    have hcons : (a :: rest).forM f = (f a >>= fun _ => rest.forM f) := rfl
    rw [hcons, List.forall_mem_cons, ← ih]
    cases f a with
    | error e => simp
    | ok u => simp

/-- What `validate` has looked at. -/
structure Node.Ordered (n : Node) : Prop where
  endpoints : ascending (n.endpoints.map Endpoint.id) = true
  clusters : ∀ e ∈ n.endpoints, ascending (e.clusters.map ClusterDescriptor.id) = true
  attributes : ∀ e ∈ n.endpoints, ∀ c ∈ e.clusters,
    ascending (c.attributes.map AttributeDescriptor.id) = true
  commands : ∀ e ∈ n.endpoints, ∀ c ∈ e.clusters,
    ascending (c.acceptedCommands.map CommandDescriptor.id) = true
  own : ∀ e ∈ n.endpoints, ∀ c ∈ e.clusters, ∀ a ∈ c.attributes, Global.isGlobal a.id = false

/-- What `validate` has looked at is in order at every level. -/
lemma Node.ordered_of_validate {n : Node} (h : n.validate = .ok ()) : n.Ordered := by
  rw [Node.validate] at h
  by_cases hendpoints : ascending (n.endpoints.map Endpoint.id) = true
  · rw [hendpoints] at h
    have heach := forM_eq_ok_iff.mp h
    have hclusters : ∀ e ∈ n.endpoints, ascending (e.clusters.map ClusterDescriptor.id) = true ∧
        ∀ c ∈ e.clusters, c.isWellFormed = true := by
      intro e he
      have hendpoint := heach e he
      rw [Endpoint.validate] at hendpoint
      by_cases hascending : ascending (e.clusters.map ClusterDescriptor.id) = true
      · simp only [hascending] at hendpoint
        refine ⟨hascending, fun c hc => ?_⟩
        have hcluster := forM_eq_ok_iff.mp hendpoint c hc
        cases hwell : c.isWellFormed with
        | true => rfl
        | false =>
          rw [hwell] at hcluster
          cases hcluster
      · rw [Bool.not_eq_true] at hascending
        rw [hascending] at hendpoint
        cases hendpoint
    have hwell : ∀ e ∈ n.endpoints, ∀ c ∈ e.clusters,
        (ascending (c.attributes.map AttributeDescriptor.id) = true ∧
          ascending (c.acceptedCommands.map CommandDescriptor.id) = true) ∧
        ∀ a ∈ c.attributes, Global.isGlobal a.id = false := by
      intro e he c hc
      have hformed := (hclusters e he).2 c hc
      rw [ClusterDescriptor.isWellFormed, Bool.and_eq_true, Bool.and_eq_true, Bool.and_eq_true] at hformed
      refine ⟨hformed.1.1, fun a ha => ?_⟩
      have hnone := hformed.2
      rw [Bool.not_eq_true', List.any_eq_false] at hnone
      simpa using hnone a ha
    exact
      { endpoints := hendpoints
        clusters := fun e he => (hclusters e he).1
        attributes := fun e he c hc => (hwell e he c hc).1.1
        commands := fun e he c hc => (hwell e he c hc).1.2
        own := fun e he c hc => (hwell e he c hc).2 }
  · rw [Bool.not_eq_true] at hendpoints
    rw [hendpoints] at h
    cases h

section resolve

variable {n : Node} {endpoint : EndpointId} {c : ClusterDescriptor}

/-- An endpoint has one place, and it is found there. -/
lemma Node.endpoint_eq_some_iff (hn : n.Ordered) {e : Endpoint} :
    n.endpoint endpoint = some e ↔ e ∈ n.endpoints ∧ e.id = endpoint := by
  have hkeys : ascending (n.endpoints.map fun e => e.id.toUInt32) = true := by
    have hids := hn.endpoints
    rw [ascending, ← List.map_tail, List.zip_map, List.all_map] at hids ⊢
    simp only [List.all_eq_true, Function.comp_apply, decide_eq_true_eq, Prod.map_fst, Prod.map_snd] at hids ⊢
    intro w hw
    rw [UInt32.lt_iff_toNat_lt, UInt16.toNat_toUInt32, UInt16.toNat_toUInt32]
    exact UInt16.lt_iff_toNat_lt.mp (hids w hw)
  rw [Node.endpoint, searchByKey_eq_some_iff hkeys]
  refine and_congr_right fun _ => ⟨fun h => ?_, fun h => by rw [h]⟩
  exact UInt16.toUInt32_inj.mp h

/-- A cluster instance that is on an endpoint is the one its ids resolve to, and no other is. -/
lemma Node.resolveCluster_eq_ok_iff (hn : n.Ordered) {cluster : ClusterId} :
    n.resolveCluster endpoint cluster = .ok c ↔
      ∃ e ∈ n.endpoints, e.id = endpoint ∧ c ∈ e.clusters ∧ c.id = cluster := by
  have hcluster : ∀ e ∈ n.endpoints, (e.cluster cluster = some c ↔ c ∈ e.clusters ∧ c.id = cluster) :=
    fun e he => searchByKey_eq_some_iff (hn.clusters e he)
  rw [Node.resolveCluster]
  cases hendpoint : n.endpoint endpoint with
  | none =>
    refine iff_of_false (by simp) ?_
    rintro ⟨e, he, hid, -⟩
    rw [(Node.endpoint_eq_some_iff hn).mpr ⟨he, hid⟩] at hendpoint
    cases hendpoint
  | some e =>
    obtain ⟨he, hid⟩ := (Node.endpoint_eq_some_iff hn).mp hendpoint
    have hfound : (∃ e ∈ n.endpoints, e.id = endpoint ∧ c ∈ e.clusters ∧ c.id = cluster) ↔
        e.cluster cluster = some c := by
      rw [hcluster e he]
      refine ⟨?_, fun h => ⟨e, he, hid, h⟩⟩
      rintro ⟨e', he', hid', h⟩
      have heq := (Node.endpoint_eq_some_iff hn).mpr ⟨he', hid'⟩
      rw [hendpoint] at heq
      rwa [Option.some.inj heq]
    simp only [hfound]
    cases e.cluster cluster with
    | none => simp
    | some c' => simp

/-- An attribute id is one of a cluster instance's ids exactly where it names an attribute. -/
lemma ClusterDescriptor.mem_attributeIds_iff
    (hc : ascending (c.attributes.map AttributeDescriptor.id) = true) {id : AttributeId} :
    id ∈ c.attributeIds ↔ c.attribute? id ≠ none := by
  have hglobal : id ∈ Global.attributeIds ↔ Global.descriptor id ≠ none := by
    simp only [Global.attributeIds, Global.descriptor, Global.isGlobal]
    grind [Global.generatedCommandList, Global.acceptedCommandList, Global.attributeList,
      Global.eventList, Global.featureMap, Global.clusterRevision]
  have hfound : id ∈ c.attributes.map AttributeDescriptor.id ↔
      searchByKey AttributeDescriptor.id id c.attributes ≠ none := by
    rw [List.mem_map, Option.ne_none_iff_exists']
    exact exists_congr fun a => (searchByKey_eq_some_iff hc).symm
  rw [ClusterDescriptor.attributeIds, List.mem_append, hfound, hglobal, ClusterDescriptor.attribute?]
  cases Global.descriptor id with
  | none => simp
  | some d => simp

end resolve

/-! ## What a walk yields -/

/-- A filter lets an id through: there is none, or it is the one wanted. -/
def Lets {K : Type} (filter : Option K) (id : K) : Prop := filter = none ∨ filter = some id

lemma rejects_eq_false_iff {K : Type} [DecidableEq K] {filter : Option K} {id : K} :
    Walk.rejects filter id = false ↔ Lets filter id := by
  cases filter with
  | none => simp [Walk.rejects, Lets]
  | some wanted => simp [Walk.rejects, Lets]

namespace Walk

variable {α : Type} (w : Walk α)

/-- What is still to come. -/
def items : List (Leaf α) := w.entries.map Prod.snd

/-- The leaves that the filter lets through. -/
def leafItems (endpoint : Endpoint) (cluster : ClusterDescriptor) (leaves : List α) : List (Leaf α) :=
  (leaves.filter fun leaf => !rejects w.leafFilter (w.leafId leaf)).map (Leaf.mk endpoint.id cluster)

/-- The leaves of the clusters that the filters let through. -/
def clusterItems (endpoint : Endpoint) (clusters : List ClusterDescriptor) : List (Leaf α) :=
  (clusters.filter fun cluster => !rejects w.clusterFilter cluster.id).flatMap fun cluster =>
    w.leafItems endpoint cluster (w.leaves cluster)

/-- The leaves of the endpoints that the filters let through. -/
def endpointItems (endpoints : List Endpoint) : List (Leaf α) :=
  (endpoints.filter fun endpoint => !rejects w.endpointFilter endpoint.id).flatMap fun endpoint =>
    w.clusterItems endpoint endpoint.clusters

/-- The leaves of the clusters if the first has been walked up to a leaf. -/
def clusterItemsFrom (endpoint : Endpoint) (leaf : ℕ) : List ClusterDescriptor → List (Leaf α)
  | [] => []
  | cluster :: clusters =>
    (if rejects w.clusterFilter cluster.id then []
      else w.leafItems endpoint cluster ((w.leaves cluster).drop leaf)) ++
      w.clusterItems endpoint clusters

/-- The leaves of the endpoints if the first has been walked up to a cluster and a leaf. -/
def endpointItemsFrom (cluster leaf : ℕ) : List Endpoint → List (Leaf α)
  | [] => []
  | endpoint :: endpoints =>
    (if rejects w.endpointFilter endpoint.id then []
      else w.clusterItemsFrom endpoint leaf (endpoint.clusters.drop cluster)) ++
      w.endpointItems endpoints

/-- What is behind the cursor. -/
def behind : List (Leaf α) :=
  w.endpointItemsFrom w.cursor.cluster w.cursor.leaf (w.endpoints.drop w.cursor.endpoint)

/-- In a cluster that is still to be entered every leaf counts. -/
lemma clusterItemsFrom_zero (endpoint : Endpoint) (clusters : List ClusterDescriptor) :
    w.clusterItemsFrom endpoint 0 clusters = w.clusterItems endpoint clusters := by
  cases clusters with
  | nil => rfl
  | cons cluster clusters =>
    rw [clusterItemsFrom, List.drop_zero, clusterItems, clusterItems, List.filter_cons]
    by_cases hrejects : rejects w.clusterFilter cluster.id = true
    · simp [hrejects]
    · simp [hrejects]

lemma endpointItemsFrom_zero (endpoints : List Endpoint) :
    w.endpointItemsFrom 0 0 endpoints = w.endpointItems endpoints := by
  cases endpoints with
  | nil => rfl
  | cons endpoint endpoints =>
    rw [endpointItemsFrom, List.drop_zero, clusterItemsFrom_zero, endpointItems, endpointItems,
      List.filter_cons]
    by_cases hrejects : rejects w.endpointFilter endpoint.id = true
    · simp [hrejects]
    · simp [hrejects]

variable {w}

lemma behind_of_none (h : w.endpoints[w.cursor.endpoint]? = none) : w.behind = [] := by
  rw [behind, List.drop_eq_nil_of_le (List.getElem?_eq_none_iff.mp h), endpointItemsFrom]

variable {endpoint : Endpoint} {w' : Walk α} {item : Leaf α}

lemma behind_of_endpoint (h : w.endpoints[w.cursor.endpoint]? = some endpoint) :
    w.behind = (if rejects w.endpointFilter endpoint.id then []
      else w.clusterItemsFrom endpoint w.cursor.leaf (endpoint.clusters.drop w.cursor.cluster)) ++
        w.nextEndpoint.behind := by
  obtain ⟨hlt, rfl⟩ := List.getElem?_eq_some_iff.mp h
  have hnext : w.nextEndpoint.behind = w.endpointItems (w.endpoints.drop (w.cursor.endpoint + 1)) :=
    w.endpointItemsFrom_zero _
  rw [hnext, behind, List.drop_eq_getElem_cons hlt, endpointItemsFrom]

/-- What is behind a cluster on the endpoint that is being walked. -/
lemma behind_of_cluster {cluster : ClusterDescriptor} (h : w.endpoints[w.cursor.endpoint]? = some endpoint)
    (hendpoint : rejects w.endpointFilter endpoint.id = false)
    (hcluster : endpoint.clusters[w.cursor.cluster]? = some cluster) :
    w.behind = (if rejects w.clusterFilter cluster.id then []
      else w.leafItems endpoint cluster ((w.leaves cluster).drop w.cursor.leaf)) ++
        w.nextCluster.behind := by
  obtain ⟨hlt, rfl⟩ := List.getElem?_eq_some_iff.mp hcluster
  have hnext := behind_of_endpoint (w := w.nextCluster) h
  have hsame : rejects w.nextCluster.endpointFilter endpoint.id = false := hendpoint
  have hrest : w.nextCluster.clusterItemsFrom endpoint w.nextCluster.cursor.leaf
      (endpoint.clusters.drop w.nextCluster.cursor.cluster) =
        w.clusterItems endpoint (endpoint.clusters.drop (w.cursor.cluster + 1)) :=
    w.clusterItemsFrom_zero endpoint _
  rw [hsame, if_neg Bool.false_ne_true, hrest] at hnext
  rw [hnext, behind_of_endpoint h, hendpoint, if_neg Bool.false_ne_true,
    List.drop_eq_getElem_cons hlt, clusterItemsFrom, List.append_assoc]
  rfl

lemma items_finished (h : w.turn = .finished) : w.items = [] := by
  rw [items, entries_of_none (by rw [next_eq, h]; rfl), List.map_nil]

lemma items_onward (h : w.turn = .onward w') : w.items = w'.items := by
  have hnext : w.next = w'.next := by rw [next_eq, h]; rfl
  rw [items, items]
  cases hw' : w'.next with
  | none => rw [entries_of_none hw', entries_of_none (hnext.trans hw')]
  | some found =>
    rw [entries_of_some hw', entries_of_some (hnext.trans hw'), List.map_cons, List.map_cons]

lemma items_yields (h : w.turn = .yields item w') : w.items = item :: w'.items := by
  have hnext : w.next = some (item, w') := by rw [next_eq, h]; rfl
  rw [items, entries_of_some hnext, List.map_cons, items]

/-- What a round of the loop comes to, against what is behind the cursor. -/
def Turn.Agrees (w : Walk α) : Turn α → Prop
  | .finished => w.behind = []
  | .onward w' => w.behind = w'.behind
  | .yields item w' => w.behind = item :: w'.behind

/-- One turn of a walk yields the first leaf of what is left, or nothing. -/
lemma turn_agrees (w : Walk α) : w.turn.Agrees w := by
  rw [turn]
  cases hendpoint : w.endpoints[w.cursor.endpoint]? with
  | none => exact behind_of_none hendpoint
  | some endpoint =>
    by_cases hother : rejects w.endpointFilter endpoint.id = true
    · simp only [if_pos hother]
      rw [Turn.Agrees, behind_of_endpoint hendpoint, if_pos hother, List.nil_append]
    · simp only [if_neg hother]
      rw [Bool.not_eq_true] at hother
      cases hcluster : endpoint.clusters[w.cursor.cluster]? with
      | none =>
        simp only []
        rw [Turn.Agrees, behind_of_endpoint hendpoint, hother, if_neg Bool.false_ne_true,
          List.drop_eq_nil_of_le (List.getElem?_eq_none_iff.mp hcluster), clusterItemsFrom,
          List.nil_append]
      | some cluster =>
        have hbehind := behind_of_cluster hendpoint hother hcluster
        by_cases hskip : rejects w.clusterFilter cluster.id = true
        · simp only [if_pos hskip]
          rw [Turn.Agrees, hbehind, if_pos hskip, List.nil_append]
        · simp only [if_neg hskip]
          rw [if_neg hskip] at hbehind
          cases hleaf : (w.leaves cluster)[w.cursor.leaf]? with
          | none =>
            simp only []
            rw [Turn.Agrees, hbehind, List.drop_eq_nil_of_le (List.getElem?_eq_none_iff.mp hleaf), leafItems,
              List.filter_nil, List.map_nil, List.nil_append]
          | some leaf =>
            obtain ⟨hlt, rfl⟩ := List.getElem?_eq_some_iff.mp hleaf
            have hnext := behind_of_cluster (w := w.nextLeaf) hendpoint hother hcluster
            have hsame : ¬ rejects w.nextLeaf.clusterFilter cluster.id = true := hskip
            rw [if_neg hsame] at hnext
            rw [List.drop_eq_getElem_cons hlt] at hbehind
            by_cases hpass : rejects w.leafFilter (w.leafId (w.leaves cluster)[w.cursor.leaf]) = true
            · simp only [if_pos hpass]
              rw [Turn.Agrees, hbehind, hnext, leafItems, List.filter_cons, hpass]
              rfl
            · simp only [if_neg hpass]
              rw [Bool.not_eq_true] at hpass
              rw [Turn.Agrees, hbehind, hnext, leafItems, List.filter_cons, hpass]
              rfl

/-- A walk yields what is behind its cursor. -/
lemma items_eq (w : Walk α) : w.items = w.behind := by
  generalize hn : w.rounds = n
  induction n using Nat.strong_induction_on generalizing w with
  | _ n ih =>
    have hagrees := w.turn_agrees
    cases hturn : w.turn with
    | finished =>
      rw [hturn] at hagrees
      exact (items_finished hturn).trans hagrees.symm
    | onward w' =>
      have hlt : w'.rounds < w.rounds := rounds_turn (by rw [hturn]; rfl)
      rw [hturn] at hagrees
      rw [items_onward hturn, ih w'.rounds (hn ▸ hlt) w' rfl]
      exact hagrees.symm
    | yields item w' =>
      have hlt : w'.rounds < w.rounds := rounds_turn (by rw [hturn]; rfl)
      rw [hturn] at hagrees
      rw [items_yields hturn, ih w'.rounds (hn ▸ hlt) w' rfl]
      exact hagrees.symm

/-- A leaf that all three filters let through. -/
def lets (w : Walk α) (item : Leaf α) : Bool :=
  !rejects w.endpointFilter item.endpoint && !rejects w.clusterFilter item.cluster.id &&
    !rejects w.leafFilter (w.leafId item.leaf)

lemma lets_iff : w.lets item = true ↔ Lets w.endpointFilter item.endpoint ∧
    Lets w.clusterFilter item.cluster.id ∧ Lets w.leafFilter (w.leafId item.leaf) := by
  rw [lets, Bool.and_eq_true, Bool.and_eq_true, Bool.not_eq_true', Bool.not_eq_true', Bool.not_eq_true',
    rejects_eq_false_iff, rejects_eq_false_iff, rejects_eq_false_iff, and_assoc]

end Walk

/-- All leaves of a node: endpoint after endpoint, cluster after cluster, each with its leaves in order. -/
def Node.allLeaves {α : Type} (n : Node) (leaves : ClusterDescriptor → List α) : List (Leaf α) :=
  n.endpoints.flatMap fun e => e.clusters.flatMap fun c => (leaves c).map (Leaf.mk e.id c)

/-- Passing over an element is as good as passing over all that it stands for. -/
lemma flatMap_filter_eq {α β : Type} {p : β → Bool} {q : α → Bool} {f g : α → List β} {l : List α}
    (h : ∀ a, (f a).filter p = if q a then g a else []) :
    (l.filter q).flatMap g = (l.flatMap f).filter p := by
  induction l with
  | nil => rfl
  | cons a rest ih =>
    rw [List.flatMap_cons, List.filter_append, h a, ← ih, List.filter_cons]
    by_cases hq : q a = true
    · simp [hq]
    · simp [hq]

namespace Walk

variable {α : Type} {w : Walk α}

/-- From the start, a walk yields of all leaves those that its filters let through, in their order. -/
lemma items_start {n : Node} (hn : w.endpoints = n.endpoints) (hstart : w.cursor = .start) :
    w.items = (n.allLeaves w.leaves).filter w.lets := by
  have hleaves (e : Endpoint) (c : ClusterDescriptor) :
      ((w.leaves c).map (Leaf.mk e.id c)).filter w.lets =
        if !rejects w.endpointFilter e.id && !rejects w.clusterFilter c.id then
          w.leafItems e c (w.leaves c) else [] := by
    rw [List.filter_map, leafItems]
    cases hendpoint : rejects w.endpointFilter e.id with
    | true => simp [Function.comp_def, lets, hendpoint]
    | false =>
      cases hcluster : rejects w.clusterFilter c.id with
      | true => simp [Function.comp_def, lets, hcluster]
      | false => simp [Function.comp_def, lets, hendpoint, hcluster]
  have hclusters (e : Endpoint) :
      (e.clusters.flatMap fun c => (w.leaves c).map (Leaf.mk e.id c)).filter w.lets =
        if !rejects w.endpointFilter e.id then w.clusterItems e e.clusters else [] := by
    cases hendpoint : rejects w.endpointFilter e.id with
    | true =>
      rw [← flatMap_filter_eq (q := fun _ => false) (g := fun _ => []) fun c => by
        rw [hleaves e c, hendpoint]
        rfl]
      simp
    | false =>
      rw [Bool.not_false, if_pos rfl, clusterItems]
      exact (flatMap_filter_eq fun c => by
        rw [hleaves e c, hendpoint, Bool.not_false, Bool.true_and]).symm
  rw [items_eq, behind, hstart, hn, Node.allLeaves]
  exact (w.endpointItemsFrom_zero n.endpoints).trans (flatMap_filter_eq hclusters)

/-! ### Starting again -/

/-- Where the loop leaves the walk, for as many rounds as are given. -/
def stopIn : ℕ → Walk α → Walk α
  | 0, w => w
  | rounds + 1, w =>
    match w.turn with
    | .finished => w
    | .onward w' => stopIn rounds w'
    | .yields _ w' => w'

/-- The walk after one `next`, whether that has found a leaf or not.
Source: `Expand::next`, what it leaves of `self`. -/
def advance (w : Walk α) : Walk α := stopIn (w.rounds + 1) w

lemma items_stopIn {rounds : ℕ} (h : w.rounds < rounds) : (stopIn rounds w).items = w.items.tail := by
  induction rounds generalizing w with
  | zero => omega
  | succ rounds ih =>
    rw [stopIn]
    cases hturn : w.turn with
    | finished => rw [items_finished hturn, List.tail_nil]
    | onward w' =>
      have hlt : w'.rounds < w.rounds := rounds_turn (by rw [hturn]; rfl)
      rw [items_onward hturn]
      exact ih (by omega)
    | yields item w' => rw [items_yields hturn, List.tail_cons]

lemma from_stopIn (rounds : ℕ) (w : Walk α) (c : ExpandCursor) : (stopIn rounds w).from c = w.from c := by
  induction rounds generalizing w with
  | zero => rfl
  | succ rounds ih =>
    rw [stopIn]
    cases hturn : w.turn with
    | finished => rfl
    | onward w' => exact (ih w').trans (turn_from (by rw [hturn]; rfl) c)
    | yields item w' => exact turn_from (by rw [hturn]; rfl) c

/-- After `k` times `next`, a new walk from the same cursor yields the rest. -/
lemma items_resume (w : Walk α) (k : ℕ) : (w.from (advance^[k] w).cursor).items = w.items.drop k := by
  have hsame : w.from (advance^[k] w).cursor = advance^[k] w := by
    induction k generalizing w with
    | zero => rfl
    | succ k ih =>
      rw [Function.iterate_succ_apply, ← from_stopIn (w.rounds + 1) w]
      exact ih w.advance
  rw [hsame]
  clear hsame
  induction k generalizing w with
  | zero => rfl
  | succ k ih =>
    rw [Function.iterate_succ_apply, ih, advance, items_stopIn (Nat.lt_succ_self _), List.drop_tail]

end Walk

/-! ## Expansions -/

/-- A list is what satisfies `P`, each once by its key, in the order of `all`. -/
structure Enumerates {ρ κ : Type} (list all : List ρ) (key : ρ → κ) (P : ρ → Prop) : Prop where
  mem_iff : ∀ r, r ∈ list ↔ P r
  nodup : (list.map key).Nodup
  sublist : list.Sublist all

lemma Enumerates.map {ρ ρ' κ : Type} {list all : List ρ} {key : ρ → κ} {key' : ρ' → κ} {P : ρ → Prop}
    {P' : ρ' → Prop} {f : ρ → ρ'} (h : Enumerates list all key P) (hkey : ∀ r, key' (f r) = key r)
    (hP : ∀ r', P' r' ↔ ∃ r, P r ∧ f r = r') : Enumerates (list.map f) (all.map f) key' P' where
  mem_iff r' := by
    rw [List.mem_map, hP]
    exact exists_congr fun r => and_congr_left' (h.mem_iff r)
  nodup := by
    rw [List.map_map, show key' ∘ f = key from funext hkey]
    exact h.nodup
  sublist := h.sublist.map f

namespace Node

variable {n : Node} {α : Type} {leaves : ClusterDescriptor → List α}

/-- A leaf is there where its cluster instance is the one its ids resolve to. -/
lemma mem_allLeaves_iff (hn : n.Ordered) {item : Leaf α} : item ∈ n.allLeaves leaves ↔
    n.resolveCluster item.endpoint item.cluster.id = .ok item.cluster ∧
      item.leaf ∈ leaves item.cluster := by
  rw [resolveCluster_eq_ok_iff hn, allLeaves]
  simp only [List.mem_flatMap, List.mem_map]
  constructor
  · rintro ⟨e, he, c, hc, leaf, hleaf, rfl⟩
    exact ⟨⟨e, he, rfl, hc, trivial⟩, hleaf⟩
  · rintro ⟨⟨e, he, hid, hc, -⟩, hleaf⟩
    exact ⟨e, he, item.cluster, hc, item.leaf, hleaf, by rw [hid]⟩

/-- No path names two leaves. -/
lemma nodup_allLeaves (hn : n.Ordered) {leafId : α → UInt32}
    (hleaves : ∀ e ∈ n.endpoints, ∀ c ∈ e.clusters, ((leaves c).map leafId).Nodup) :
    ((n.allLeaves leaves).map fun item => (item.endpoint, item.cluster.id, leafId item.leaf)).Nodup := by
  have hids : (n.endpoints.map Endpoint.id).Nodup :=
    nodup_of_ascending (fun {a b : UInt16} => UInt16.lt_iff_toNat_lt.mp) hn.endpoints
  rw [allLeaves, List.map_flatMap, List.nodup_flatMap]
  refine ⟨fun e he => ?_, ?_⟩
  · have hclusterIds : (e.clusters.map ClusterDescriptor.id).Nodup :=
      nodup_of_ascending (fun {a b : UInt32} => UInt32.lt_iff_toNat_lt.mp) (hn.clusters e he)
    rw [List.map_flatMap, List.nodup_flatMap]
    refine ⟨fun c hc => ?_, ?_⟩
    · rw [List.map_map]
      exact List.Nodup.of_map (fun path => path.2.2) (by
        rw [List.map_map]
        exact hleaves e he c hc)
    · refine (List.pairwise_map.mp hclusterIds).imp fun {c d} hne => ?_
      intro path hc hd
      simp only [List.map_map, List.mem_map, Function.comp_apply] at hc hd
      obtain ⟨leaf, -, rfl⟩ := hc
      obtain ⟨other, -, heq⟩ := hd
      exact hne (Prod.mk.inj (Prod.mk.inj heq).2).1.symm
  · refine (List.pairwise_map.mp hids).imp fun {e f} hne => ?_
    intro path he hf
    simp only [List.map_flatMap, List.map_map, List.mem_flatMap, List.mem_map, Function.comp_apply] at he hf
    obtain ⟨c, -, leaf, -, rfl⟩ := he
    obtain ⟨d, -, other, -, heq⟩ := hf
    exact hne (Prod.mk.inj heq).1.symm

/-- A walk from the start yields what its filters let through, each leaf once. -/
lemma enumerates_items (hn : n.Ordered) {w : Walk α} (hw : w.endpoints = n.endpoints)
    (hstart : w.cursor = .start)
    (hleaves : ∀ e ∈ n.endpoints, ∀ c ∈ e.clusters, ((w.leaves c).map w.leafId).Nodup) :
    Enumerates w.items (n.allLeaves w.leaves)
      (fun item => (item.endpoint, item.cluster.id, w.leafId item.leaf))
      (fun item => (n.resolveCluster item.endpoint item.cluster.id = .ok item.cluster ∧
        item.leaf ∈ w.leaves item.cluster) ∧ w.lets item = true) where
  mem_iff item := by rw [Walk.items_start hw hstart, List.mem_filter, mem_allLeaves_iff hn]
  nodup := by
    rw [Walk.items_start hw hstart]
    exact (nodup_allLeaves hn hleaves).sublist (List.filter_sublist.map _)
  sublist := by
    rw [Walk.items_start hw hstart]
    exact List.filter_sublist

/-- A global attribute id is no attribute of the cluster's own. -/
lemma nodup_attributeIds (hn : n.Ordered) {e : Endpoint} (he : e ∈ n.endpoints) {c : ClusterDescriptor}
    (hc : c ∈ e.clusters) : c.attributeIds.Nodup := by
  have hglobals : ∀ id ∈ Global.attributeIds, Global.isGlobal id = true :=
    List.all_eq_true.mp (by decide)
  rw [ClusterDescriptor.attributeIds, List.nodup_append]
  refine ⟨nodup_of_ascending (fun {a b : UInt32} => UInt32.lt_iff_toNat_lt.mp)
    (hn.attributes e he c hc), by decide, ?_⟩
  intro id hid other hother heq
  obtain ⟨a, ha, rfl⟩ := List.mem_map.mp hid
  have hown := hn.own e he c hc a ha
  rw [heq, hglobals other hother] at hown
  cases hown

lemma resolve_eq_ok_iff {endpoint : EndpointId} {cluster : ClusterId} {attributeId : AttributeId}
    {r : Resolved} : n.resolve endpoint cluster attributeId = .ok r ↔
      ∃ c, n.resolveCluster endpoint cluster = .ok c ∧ c.attribute? attributeId ≠ none ∧
        r = ⟨endpoint, c, attributeId⟩ := by
  rw [resolve, bind_eq_ok]
  refine exists_congr fun c => and_congr_right fun _ => ?_
  cases c.attribute? attributeId with
  | none => simp
  | some d => simp [eq_comm]

lemma resolveCommand_eq_ok_iff {endpoint : EndpointId} {cluster : ClusterId} {command : CommandId}
    {r : ResolvedCommand} : n.resolveCommand endpoint cluster command = .ok r ↔
      ∃ c d, n.resolveCluster endpoint cluster = .ok c ∧ c.acceptedCommand command = some d ∧
        r = ⟨endpoint, c, d⟩ := by
  rw [resolveCommand, bind_eq_ok]
  refine exists_congr fun c => ?_
  cases c.acceptedCommand command with
  | none => simp
  | some d => simp [eq_comm]

/-- The attributes of a node, endpoint after endpoint, cluster after cluster, the cluster's own attributes
before the global ones. -/
def attributes (n : Node) : List Resolved :=
  (n.allLeaves ClusterDescriptor.attributeIds).map resolvedLeaf

/-- The commands of a node, endpoint after endpoint and cluster after cluster. -/
def commands (n : Node) : List ResolvedCommand :=
  (n.allLeaves ClusterDescriptor.acceptedCommands).map fun leaf => ⟨leaf.endpoint, leaf.cluster, leaf.leaf⟩

/-- Where an expansion stands after `k` attributes have been asked for.
Source: `Expand::cursor` after `k` times `Expand::next`. -/
def cursorAfter (n : Node) (path : AttributePath) (k : ℕ) : ExpandCursor :=
  (Walk.advance^[k] (n.expandWalk path .start)).cursor

lemma expandFrom_eq_items (path : AttributePath) (cursor : ExpandCursor) :
    (n.expandFrom path cursor).map Prod.snd = (n.expandWalk path cursor).items.map resolvedLeaf := by
  rw [expandFrom, Walk.items, List.map_map, List.map_map]
  rfl

lemma enumerates_expand (hn : n.Ordered) (path : AttributePath) :
    Enumerates (n.expand path) n.attributes (fun r => (r.endpoint, r.cluster.id, r.attributeId))
      (fun r => ∃ endpoint cluster attributeId, n.resolve endpoint cluster attributeId = .ok r ∧
        Lets path.endpoint endpoint ∧ Lets path.cluster cluster ∧
        Lets path.attributeId attributeId) := by
  have hitems := enumerates_items hn (w := n.expandWalk path .start) rfl rfl
    fun e he c hc => (List.map_id _).symm ▸ nodup_attributeIds hn he hc
  rw [expand, expandFrom_eq_items]
  refine hitems.map (fun item => rfl) fun r => ?_
  constructor
  · rintro ⟨endpoint, cluster, attributeId, hresolve, hlets⟩
    obtain ⟨c, hcluster, hattribute, rfl⟩ := resolve_eq_ok_iff.mp hresolve
    have hid := id_of_resolveCluster hcluster
    obtain ⟨e, he, -, hc, -⟩ := (resolveCluster_eq_ok_iff hn).mp hcluster
    refine ⟨⟨endpoint, c, attributeId⟩, ⟨⟨?_, ?_⟩, Walk.lets_iff.mpr ?_⟩, rfl⟩
    · rwa [hid]
    · exact (ClusterDescriptor.mem_attributeIds_iff (hn.attributes e he c hc)).mpr hattribute
    · rwa [hid]
  · rintro ⟨item, ⟨⟨hcluster, hleaf⟩, hlets⟩, rfl⟩
    obtain ⟨e, he, -, hc, -⟩ := (resolveCluster_eq_ok_iff hn).mp hcluster
    have hattribute := (ClusterDescriptor.mem_attributeIds_iff (hn.attributes e he _ hc)).mp hleaf
    exact ⟨item.endpoint, item.cluster.id, item.leaf,
      resolve_eq_ok_iff.mpr ⟨item.cluster, hcluster, hattribute, rfl⟩, Walk.lets_iff.mp hlets⟩

lemma enumerates_expandCommands (hn : n.Ordered) (path : CommandPath) :
    Enumerates (n.expandCommands path) n.commands (fun r => (r.endpoint, r.cluster.id, r.command.id))
      (fun r => ∃ endpoint cluster command, n.resolveCommand endpoint cluster command = .ok r ∧
        Lets path.endpoint endpoint ∧ Lets path.cluster cluster ∧ Lets path.command command) := by
  have hfound : ∀ e ∈ n.endpoints, ∀ c ∈ e.clusters, ∀ {id d},
      (c.acceptedCommand id = some d ↔ d ∈ c.acceptedCommands ∧ d.id = id) :=
    fun e he c hc => searchByKey_eq_some_iff (hn.commands e he c hc)
  let walk : Walk CommandDescriptor :=
    { endpoints := n.endpoints
      endpointFilter := path.endpoint
      clusterFilter := path.cluster
      leafFilter := path.command
      leaves := ClusterDescriptor.acceptedCommands
      leafId := CommandDescriptor.id
      cursor := .start }
  have hitems := enumerates_items hn (w := walk) rfl rfl fun e he c hc =>
    nodup_of_ascending (fun {a b : UInt32} => UInt32.lt_iff_toNat_lt.mp) (hn.commands e he c hc)
  have hmap : n.expandCommands path = walk.items.map fun leaf => ⟨leaf.endpoint, leaf.cluster, leaf.leaf⟩ := by
    rw [Walk.items, List.map_map]
    rfl
  rw [hmap]
  refine hitems.map (fun item => rfl) fun r => ?_
  constructor
  · rintro ⟨endpoint, cluster, command, hresolve, hlets⟩
    obtain ⟨c, d, hcluster, hcommand, rfl⟩ := resolveCommand_eq_ok_iff.mp hresolve
    have hid := id_of_resolveCluster hcluster
    obtain ⟨e, he, -, hc, -⟩ := (resolveCluster_eq_ok_iff hn).mp hcluster
    obtain ⟨hmem, rfl⟩ := (hfound e he c hc).mp hcommand
    refine ⟨⟨endpoint, c, d⟩, ⟨⟨?_, hmem⟩, Walk.lets_iff.mpr ?_⟩, rfl⟩
    · rwa [hid]
    · rwa [hid]
  · rintro ⟨item, ⟨⟨hcluster, hleaf⟩, hlets⟩, rfl⟩
    obtain ⟨e, he, -, hc, -⟩ := (resolveCluster_eq_ok_iff hn).mp hcluster
    exact ⟨item.endpoint, item.cluster.id, item.leaf.id,
      resolveCommand_eq_ok_iff.mpr
        ⟨item.cluster, item.leaf, hcluster, (hfound e he _ hc).mpr ⟨hleaf, rfl⟩, rfl⟩,
      Walk.lets_iff.mp hlets⟩

/-- On a node that `validate` accepts, an expansion yields what the paths that its filters let through
resolve to: all of it, each path once, endpoint by endpoint, cluster by cluster, a cluster's own
attributes before the global ones; from a cursor the rest. So for commands, but for the cursor. -/
theorem expand_complete {n : Node} (hn : n.validate = .ok ()) : (∀ path : AttributePath,
      Enumerates (n.expand path) n.attributes (fun r => (r.endpoint, r.cluster.id, r.attributeId))
        (fun r => ∃ endpoint cluster attributeId, n.resolve endpoint cluster attributeId = .ok r ∧
          Lets path.endpoint endpoint ∧ Lets path.cluster cluster ∧ Lets path.attributeId attributeId) ∧
      ∀ k, (n.expandFrom path (n.cursorAfter path k)).map Prod.snd = (n.expand path).drop k) ∧
    ∀ path : CommandPath,
      Enumerates (n.expandCommands path) n.commands (fun r => (r.endpoint, r.cluster.id, r.command.id))
        (fun r => ∃ endpoint cluster command, n.resolveCommand endpoint cluster command = .ok r ∧
          Lets path.endpoint endpoint ∧ Lets path.cluster cluster ∧ Lets path.command command) := by
  have hordered := ordered_of_validate hn
  refine ⟨fun path => ⟨enumerates_expand hordered path, fun k => ?_⟩,
    fun path => enumerates_expandCommands hordered path⟩
  rw [expand, expandFrom_eq_items, expandFrom_eq_items, ← List.map_drop]
  exact congrArg (List.map resolvedLeaf) (Walk.items_resume (n.expandWalk path .start) k)

/-- A node with the descriptor cluster on its root and an on-off cluster on its first endpoint. -/
def smallNode : Node where
  endpoints :=
    [⟨0, [⟨0x1D, 2, 0, [.readOnly 0, .readOnly 1], [], [], []⟩], []⟩,
      ⟨1, [⟨0x06, 6, 0, [.readOnly 0], [.new 0, .new 1, .new 2], [], []⟩], []⟩]

/-- Nothing is filtered out: the node has thirteen attributes, and after eight of them five are left. -/
theorem expand_complete_smallNode : (smallNode.expand .wildcard).length = 13 ∧
      (smallNode.expandFrom .wildcard
        (smallNode.cursorAfter .wildcard 8)).map Prod.snd = (smallNode.expand .wildcard).drop 8 :=
  ⟨by decide +kernel, ((expand_complete (n := smallNode) (by decide +kernel)).1 _).2 8⟩

end Node

end MatterKit.Dm
