import MatterKit.Im.Path

/-!
# A node and what a wildcard expands to

`dm/node.rs`: a node is a list of endpoints, an endpoint a list of cluster instances. A concrete path is
resolved level by level (`Node.resolve`, `Node.resolveEvent`, `Node.resolveCommand`), and a wildcard is
expanded into every existing path that matches it.

The two expansions of the source, over attributes and over commands, are one walk over the leaves of
each cluster (`Walk`), with a cursor of three indices. What a walk yields from where it stands is
`Walk.entries`, each entry with the cursor the walk had before it: starting again from that cursor
yields that entry and those behind it (`entries_resume`).
-/

namespace MatterKit.Dm

open Im

/-! ## Nodes -/

/-- Source: `dm/meta.rs`, `DeviceType`. -/
structure DeviceType where
  deviceType : UInt32
  revision : UInt16

/-- An endpoint. Its client clusters are not read by anything here.
Source: `Endpoint`. -/
structure Endpoint where
  id : EndpointId
  clusters : List ClusterDescriptor
  deviceTypes : List DeviceType

/-- Source: `Endpoint::has_device_type`. -/
def Endpoint.hasDeviceType (e : Endpoint) (deviceType : UInt32) : Bool :=
  e.deviceTypes.any fun d => d.deviceType == deviceType

/-- Source: `Endpoint::cluster`. -/
def Endpoint.cluster (e : Endpoint) (id : ClusterId) : Option ClusterDescriptor :=
  searchByKey ClusterDescriptor.id id e.clusters

/-- Source: `Node`. -/
structure Node where
  endpoints : List Endpoint

/-- An attribute that exists.
Source: `Resolved`. -/
structure Resolved where
  endpoint : EndpointId
  cluster : ClusterDescriptor
  attributeId : AttributeId
  deriving DecidableEq

/-- Source: `Resolved::path`. -/
def Resolved.path (r : Resolved) : AttributePath :=
  .ofIds r.endpoint r.cluster.id r.attributeId

/-- A command that exists.
Source: `ResolvedCommand`. -/
structure ResolvedCommand where
  endpoint : EndpointId
  cluster : ClusterDescriptor
  command : CommandDescriptor
  deriving DecidableEq

/-- Source: `ResolvedCommand::path`. -/
def ResolvedCommand.path (r : ResolvedCommand) : CommandPath :=
  .ofIds r.endpoint r.cluster.id r.command.id

/-- An event that exists.
Source: `ResolvedEvent`. -/
structure ResolvedEvent where
  endpoint : EndpointId
  cluster : ClusterDescriptor
  event : EventDescriptor

/-- The level at which a concrete path names nothing; the last is whatever the leaf is.
Source: `Missing` and `MissingCommand`. -/
inductive Missing
  | endpoint
  | cluster
  | leaf

namespace Node

/-- Source: `Node::endpoint`. -/
def endpoint (n : Node) (id : EndpointId) : Option Endpoint :=
  searchByKey (fun e => e.id.toUInt32) id.toUInt32 n.endpoints

/-- The cluster instance a path goes through, or the level it stops at.
Source: `Node::resolve`, `resolve_event` and `resolve_command`, their first two steps. -/
def resolveCluster (n : Node) (endpoint : EndpointId) (cluster : ClusterId) :
    Except Missing ClusterDescriptor :=
  match n.endpoint endpoint with
  | none => .error .endpoint
  | some e =>
    match e.cluster cluster with
    | none => .error .cluster
    | some c => .ok c

/-- Source: `Node::resolve`. -/
def resolve (n : Node) (endpoint : EndpointId) (cluster : ClusterId) (attributeId : AttributeId) :
    Except Missing Resolved := do
  let c ← n.resolveCluster endpoint cluster
  match c.attribute? attributeId with
  | none => .error .leaf
  | some _ => .ok ⟨endpoint, c, attributeId⟩

/-- Source: `Node::resolve_event`. -/
def resolveEvent (n : Node) (endpoint : EndpointId) (cluster : ClusterId) (event : EventId) :
    Except Missing ResolvedEvent := do
  let c ← n.resolveCluster endpoint cluster
  match c.events.find? fun e => e.id == event with
  | none => .error .leaf
  | some e => .ok ⟨endpoint, c, e⟩

/-- A path goes through the cluster instance it names. -/
lemma id_of_resolveCluster {n : Node} {endpoint : EndpointId} {cluster : ClusterId}
    {c : ClusterDescriptor} (h : n.resolveCluster endpoint cluster = .ok c) : c.id = cluster := by
  unfold resolveCluster at h
  split at h
  · cases h
  split at h
  · cases h
  · rename_i hcluster
    cases h
    exact (searchByKey_spec hcluster).2

/-- What a path resolves to has that path. -/
lemma path_of_resolve {n : Node} {endpoint : EndpointId} {cluster : ClusterId}
    {attributeId : AttributeId} {r : Resolved} (h : n.resolve endpoint cluster attributeId = .ok r) :
    r.path = .ofIds endpoint cluster attributeId := by
  unfold resolve at h
  obtain ⟨c, hcluster, hattribute⟩ := Lib.bind_eq_ok.mp h
  split at hattribute
  · cases hattribute
  · cases hattribute
    unfold Resolved.path
    rw [id_of_resolveCluster hcluster]

/-- Source: `Node::resolve_command`. -/
def resolveCommand (n : Node) (endpoint : EndpointId) (cluster : ClusterId) (command : CommandId) :
    Except Missing ResolvedCommand := do
  let c ← n.resolveCluster endpoint cluster
  match c.acceptedCommand command with
  | none => .error .leaf
  | some d => .ok ⟨endpoint, c, d⟩

end Node

/-! ## Walks -/

/-- How far a walk has got.
Source: `ExpandCursor`. -/
structure ExpandCursor where
  endpoint : ℕ
  cluster : ℕ
  leaf : ℕ
  deriving DecidableEq

/-- Source: `ExpandCursor::START`. -/
def ExpandCursor.start : ExpandCursor := ⟨0, 0, 0⟩

/-- A walk over the leaves of every cluster instance that the filters let through.
Source: `Expand` and `ExpandCommands`. -/
structure Walk (α : Type) where
  endpoints : List Endpoint
  endpointFilter : Option EndpointId
  clusterFilter : Option ClusterId
  leafFilter : Option UInt32
  leaves : ClusterDescriptor → List α
  leafId : α → UInt32
  cursor : ExpandCursor

/-- What a walk yields: a leaf with its cluster and its endpoint. -/
structure Leaf (α : Type) where
  endpoint : EndpointId
  cluster : ClusterDescriptor
  leaf : α

namespace Walk

variable {α : Type}

/-- The same walk from another cursor. -/
def «from» (w : Walk α) (cursor : ExpandCursor) : Walk α := { w with cursor := cursor }

/-- A walk on to the next endpoint. -/
def nextEndpoint (w : Walk α) : Walk α := w.from ⟨w.cursor.endpoint + 1, 0, 0⟩

/-- A walk on to the next cluster. -/
def nextCluster (w : Walk α) : Walk α :=
  w.from { w.cursor with cluster := w.cursor.cluster + 1, leaf := 0 }

/-- A walk on to the next leaf. -/
def nextLeaf (w : Walk α) : Walk α := w.from { w.cursor with leaf := w.cursor.leaf + 1 }

/-- What one round of the loop comes to. -/
inductive Turn (α : Type)
  | finished
  | onward (w : Walk α)
  | yields (item : Leaf α) (w : Walk α)

/-- `filter.is_some_and(|wanted| wanted != id)`. -/
def rejects {K : Type} [DecidableEq K] (filter : Option K) (id : K) : Bool :=
  match filter with
  | some wanted => decide (wanted ≠ id)
  | none => false

/-- One round of the loop.
Source: `Expand::next` and `ExpandCommands::next`, the body of `loop`. -/
def turn (w : Walk α) : Turn α :=
  match w.endpoints[w.cursor.endpoint]? with
  | none => .finished
  | some endpoint =>
    if rejects w.endpointFilter endpoint.id then .onward w.nextEndpoint
    else
      match endpoint.clusters[w.cursor.cluster]? with
      | none => .onward w.nextEndpoint
      | some cluster =>
        if rejects w.clusterFilter cluster.id then .onward w.nextCluster
        else
          match (w.leaves cluster)[w.cursor.leaf]? with
          | none => .onward w.nextCluster
          | some leaf =>
            if rejects w.leafFilter (w.leafId leaf) then .onward w.nextLeaf
            else .yields ⟨endpoint.id, cluster, leaf⟩ w.nextLeaf

/-- The loop, for as many rounds as are given. -/
def nextIn : ℕ → Walk α → Option (Leaf α × Walk α)
  | 0, _ => none
  | rounds + 1, w =>
    match w.turn with
    | .finished => none
    | .onward w' => nextIn rounds w'
    | .yields item w' => some (item, w')

/-- The rounds the clusters may take, a leaf each and one to leave the cluster. -/
def clusterRounds (w : Walk α) (clusters : List ClusterDescriptor) : ℕ :=
  (clusters.map fun c => (w.leaves c).length + 1).sum

/-- The rounds the endpoints may take. -/
def endpointRounds (w : Walk α) (endpoints : List Endpoint) : ℕ :=
  (endpoints.map fun e => w.clusterRounds e.clusters + 1).sum

/-- The rounds the clusters may take if the first has been walked up to a leaf. -/
def clusterRoundsFrom (w : Walk α) (leaf : ℕ) : List ClusterDescriptor → ℕ
  | [] => 0
  | cluster :: clusters => w.clusterRounds clusters + 1 + ((w.leaves cluster).length - leaf)

/-- The rounds the endpoints may take if the first has been walked up to a cluster and a leaf. -/
def endpointRoundsFrom (w : Walk α) (cluster leaf : ℕ) : List Endpoint → ℕ
  | [] => 0
  | endpoint :: endpoints =>
    w.endpointRounds endpoints + 1 + w.clusterRoundsFrom leaf (endpoint.clusters.drop cluster)

/-- The rounds the walk has left. -/
def rounds (w : Walk α) : ℕ :=
  w.endpointRoundsFrom w.cursor.cluster w.cursor.leaf (w.endpoints.drop w.cursor.endpoint)

/-- The next leaf, and the walk behind it.
Source: `Expand::next` and `ExpandCommands::next`. -/
def next (w : Walk α) : Option (Leaf α × Walk α) := w.nextIn (w.rounds + 1)

/-- What is still to come, for as many steps as are given. -/
def entriesIn : ℕ → Walk α → List (ExpandCursor × Leaf α)
  | 0, _ => []
  | steps + 1, w =>
    match w.next with
    | none => []
    | some (item, w') => (w.cursor, item) :: entriesIn steps w'

/-- What is still to come, each leaf with the cursor the walk has before it. -/
def entries (w : Walk α) : List (ExpandCursor × Leaf α) := w.entriesIn (w.rounds + 1)

/-! ### The rounds are enough -/

variable {w w' : Walk α} {endpoint : Endpoint} {item : Leaf α}

lemma rounds_of_endpoint (h : w.endpoints[w.cursor.endpoint]? = some endpoint) :
    w.rounds = w.endpointRounds (w.endpoints.drop (w.cursor.endpoint + 1)) + 1 +
      w.clusterRoundsFrom w.cursor.leaf (endpoint.clusters.drop w.cursor.cluster) := by
  obtain ⟨hlt, rfl⟩ := List.getElem?_eq_some_iff.mp h
  unfold rounds
  rw [List.drop_eq_getElem_cons hlt]
  rfl

lemma rounds_of_cluster {cluster : ClusterDescriptor} (h : w.endpoints[w.cursor.endpoint]? = some endpoint)
    (hcluster : endpoint.clusters[w.cursor.cluster]? = some cluster) :
    w.rounds = w.endpointRounds (w.endpoints.drop (w.cursor.endpoint + 1)) + 1 +
      (w.clusterRounds (endpoint.clusters.drop (w.cursor.cluster + 1)) + 1 +
        ((w.leaves cluster).length - w.cursor.leaf)) := by
  obtain ⟨hlt, rfl⟩ := List.getElem?_eq_some_iff.mp hcluster
  rw [rounds_of_endpoint h, List.drop_eq_getElem_cons hlt]
  rfl

/-- In a cluster that is still to be entered every leaf counts. -/
lemma clusterRoundsFrom_zero (w : Walk α) (clusters : List ClusterDescriptor) :
    w.clusterRoundsFrom 0 clusters = w.clusterRounds clusters := by
  cases clusters with
  | nil => rfl
  | cons cluster clusters =>
    simp only [clusterRoundsFrom, clusterRounds, List.map_cons, List.sum_cons]
    omega

lemma endpointRoundsFrom_zero (w : Walk α) (endpoints : List Endpoint) :
    w.endpointRoundsFrom 0 0 endpoints = w.endpointRounds endpoints := by
  cases endpoints with
  | nil => rfl
  | cons endpoint endpoints =>
    simp only [endpointRoundsFrom, List.drop_zero, clusterRoundsFrom_zero, endpointRounds,
      List.map_cons, List.sum_cons]
    omega

lemma rounds_nextEndpoint (w : Walk α) :
    w.nextEndpoint.rounds = w.endpointRounds (w.endpoints.drop (w.cursor.endpoint + 1)) :=
  endpointRoundsFrom_zero w _

lemma rounds_nextCluster (h : w.endpoints[w.cursor.endpoint]? = some endpoint) :
    w.nextCluster.rounds = w.endpointRounds (w.endpoints.drop (w.cursor.endpoint + 1)) + 1 +
      w.clusterRounds (endpoint.clusters.drop (w.cursor.cluster + 1)) := by
  have hnext : w.nextCluster.endpoints[w.nextCluster.cursor.endpoint]? = some endpoint := h
  rw [rounds_of_endpoint hnext, ← clusterRoundsFrom_zero]
  rfl

/-- Where a round leaves the walk, if it goes on. -/
def Turn.walk? : Turn α → Option (Walk α)
  | .finished => none
  | .onward w | .yields _ w => some w

/-- Every round that goes on lowers what is left. -/
lemma rounds_turn (h : w.turn.walk? = some w') : w'.rounds < w.rounds := by
  unfold turn at h
  rcases hendpoint : w.endpoints[w.cursor.endpoint]? with _ | endpoint
  · rw [hendpoint] at h
    cases h
  have hleave : w.nextEndpoint.rounds < w.rounds := by
    rw [rounds_nextEndpoint, rounds_of_endpoint hendpoint]
    omega
  simp only [hendpoint] at h
  split_ifs at h with hrejected
  · cases h
    exact hleave
  rcases hcluster : endpoint.clusters[w.cursor.cluster]? with _ | cluster
  · rw [hcluster] at h
    cases h
    exact hleave
  have hpass : w.nextCluster.rounds < w.rounds := by
    rw [rounds_nextCluster hendpoint, rounds_of_cluster hendpoint hcluster]
    omega
  simp only [hcluster] at h
  split_ifs at h with hother
  · cases h
    exact hpass
  rcases hleaf : (w.leaves cluster)[w.cursor.leaf]? with _ | leaf
  · rw [hleaf] at h
    cases h
    exact hpass
  have hon : w.nextLeaf.rounds < w.rounds := by
    have hlt : w.cursor.leaf < (w.leaves cluster).length :=
      (List.getElem?_eq_some_iff.mp hleaf).1
    rw [rounds_of_cluster hendpoint hcluster, rounds_of_cluster (w := w.nextLeaf) hendpoint hcluster]
    show w.endpointRounds (w.endpoints.drop (w.cursor.endpoint + 1)) + 1 +
      (w.clusterRounds (endpoint.clusters.drop (w.cursor.cluster + 1)) + 1 +
        ((w.leaves cluster).length - (w.cursor.leaf + 1))) < _
    omega
  simp only [hleaf] at h
  split_ifs at h
  · cases h
    exact hon
  · cases h
    exact hon

/-- More rounds than are left change nothing. -/
lemma nextIn_of_le {m n : ℕ} (hm : w.rounds < m) (hn : w.rounds < n) : w.nextIn m = w.nextIn n := by
  induction m generalizing w n with
  | zero => omega
  | succ m ih =>
    obtain ⟨n, rfl⟩ : ∃ k, n = k + 1 := ⟨n - 1, by omega⟩
    unfold nextIn
    rcases hw : w.turn with _ | w' | ⟨item, w'⟩
    · rfl
    · have hlt : w'.rounds < w.rounds := rounds_turn (by rw [hw]; rfl)
      exact ih (by omega) (by omega)
    · rfl

/-- What a round comes to for the loop it is in. -/
def Turn.result : Turn α → Option (Leaf α × Walk α)
  | .finished => none
  | .onward w => w.next
  | .yields item w => some (item, w)

/-- The loop of the source: a round that finds nothing goes on with the next one. -/
lemma next_eq (w : Walk α) : w.next = w.turn.result := by
  unfold next
  rw [nextIn]
  rcases hw : w.turn with _ | w' | ⟨item, w'⟩
  · rfl
  · have hlt : w'.rounds < w.rounds := rounds_turn (by rw [hw]; rfl)
    exact nextIn_of_le hlt (Nat.lt_succ_self _)
  · rfl

/-- A leaf that is found is behind the walk that found it. -/
lemma rounds_lt_of_next (h : w.next = some (item, w')) : w'.rounds < w.rounds := by
  generalize hn : w.rounds = n
  induction n using Nat.strong_induction_on generalizing w with
  | _ n ih =>
    rw [next_eq] at h
    rcases hw : w.turn with _ | v | ⟨found, v⟩
    · rw [hw] at h
      cases h
    · have hturn : v.rounds < w.rounds := rounds_turn (by rw [hw]; rfl)
      rw [hw] at h
      have hlt := ih v.rounds (by rw [← hn]; exact hturn) h rfl
      omega
    · rw [hw] at h
      cases h
      rw [← hn]
      exact rounds_turn (by rw [hw]; rfl)

lemma entriesIn_of_le {m n : ℕ} (hm : w.rounds < m) (hn : w.rounds < n) :
    w.entriesIn m = w.entriesIn n := by
  induction m generalizing w n with
  | zero => omega
  | succ m ih =>
    obtain ⟨n, rfl⟩ : ∃ k, n = k + 1 := ⟨n - 1, by omega⟩
    unfold entriesIn
    rcases hnext : w.next with _ | ⟨item, w'⟩
    · rfl
    · have hlt := rounds_lt_of_next hnext
      exact congrArg _ (ih (by omega) (by omega))

/-- A walk that finds nothing more has nothing to come. -/
lemma entries_of_none (h : w.next = none) : w.entries = [] := by
  unfold entries entriesIn
  rw [h]

/-- A walk that finds a leaf has that leaf to come, and then what comes behind it. -/
lemma entries_of_some (h : w.next = some (item, w')) : w.entries = (w.cursor, item) :: w'.entries := by
  have hlt := rounds_lt_of_next h
  unfold entries
  rw [entriesIn, h]
  simp only
  rw [entriesIn_of_le hlt (Nat.lt_succ_self _)]

/-! ### Resuming -/

lemma turn_from (h : w.turn.walk? = some w') (c : ExpandCursor) : w'.from c = w.from c := by
  have hsteps : w' = w.nextEndpoint ∨ w' = w.nextCluster ∨ w' = w.nextLeaf := by
    unfold turn at h
    grind [Turn.walk?]
  rcases hsteps with rfl | rfl | rfl
  · rfl
  · rfl
  · rfl

end Walk

namespace Node

/-- A walk over the attributes a path matches, from a cursor.
Source: `Node::expand_from`. -/
def expandWalk (n : Node) (path : AttributePath) (cursor : ExpandCursor) : Walk AttributeId where
  endpoints := n.endpoints
  endpointFilter := path.endpoint
  clusterFilter := path.cluster
  leafFilter := path.attributeId
  leaves := ClusterDescriptor.attributeIds
  leafId := id
  cursor := cursor

/-- An attribute a walk yields. -/
def resolvedLeaf (leaf : Leaf AttributeId) : Resolved := ⟨leaf.endpoint, leaf.cluster, leaf.leaf⟩

/-- The attributes a path matches, from a cursor on, each with the cursor before it.
Source: `Node::expand_from`, with `Expand::cursor` before every `next`. -/
def expandFrom (n : Node) (path : AttributePath) (cursor : ExpandCursor) :
    List (ExpandCursor × Resolved) :=
  (n.expandWalk path cursor).entries.map fun entry => (entry.1, resolvedLeaf entry.2)

/-- The attributes a path matches.
Source: `Node::expand`. -/
def expand (n : Node) (path : AttributePath) : List Resolved :=
  (n.expandFrom path .start).map Prod.snd

/-- The commands a path matches.
Source: `Node::expand_commands`. -/
def expandCommands (n : Node) (path : CommandPath) : List ResolvedCommand :=
  let walk : Walk CommandDescriptor :=
    { endpoints := n.endpoints
      endpointFilter := path.endpoint
      clusterFilter := path.cluster
      leafFilter := path.command
      leaves := ClusterDescriptor.acceptedCommands
      leafId := CommandDescriptor.id
      cursor := .start }
  walk.entries.map fun entry => ⟨entry.2.endpoint, entry.2.cluster, entry.2.leaf⟩

end Node

end MatterKit.Dm
