import MatterKit.Group.Keys
import MatterKit.Msg.Counter

/-!
# The group peer state table

`group/peers.rs`: a group message has no handshake that would agree a first counter, so a receiver keeps
a window for each sender, one for data messages and one for control messages.

The table is to give each fabric ten data entries and two control entries, to answer a counter with
`process` once, and to wait for a synchronisation only where the key asks for it. The entries are one
pool without a quota, so a fabric can take those that another counts on. `Orderly` is the condition on a
step that none of these happens, and `reliable_of_orderly` is what holds over every run of such steps.
-/

namespace MatterKit.Group

open Lib

variable {D C : ℕ}

/-! ## The table -/

/-- Source: `Admitted`. -/
inductive Admitted
  | process
  | duplicate
  | needsSync
  | untracked
  deriving DecidableEq

/-- One peer's state for one counter space.
Source: `PeerState`. -/
structure PeerState where
  fabricIndex : FabricIndex
  node : NodeId
  control : Bool
  window : CounterWindow
  synchronized : Bool
  deriving DecidableEq

/-- What an entry is found by, within its counter space. -/
def PeerState.name (p : PeerState) : FabricIndex × NodeId := (p.fabricIndex, p.node)

/-- The entry once its window has judged a counter.
Source: `PeerTable::admit`, `peer.window.accept`. -/
def PeerState.judge (counter : UInt32) (p : PeerState) : PeerState :=
  { p with window := (p.window.accept counter).2 }

/-- The entry once it has been synchronised.
Source: `PeerTable::synchronize`, the two assignments. -/
def PeerState.prime (counter : UInt32) (p : PeerState) : PeerState :=
  { p with window := .primedAt .rollover counter, synchronized := true }

lemma PeerState.name_judge (counter : UInt32) (p : PeerState) : (p.judge counter).name = p.name := rfl

lemma PeerState.name_prime (counter : UInt32) (p : PeerState) : (p.prime counter).name = p.name := rfl

/-- Source: `MIN_DATA_PEERS_PER_FABRIC` and `MIN_CONTROL_PEERS_PER_FABRIC`. -/
def minPeersPerFabric (control : Bool) : ℕ := if control then 2 else 10

/-- Source: `PeerTable`. -/
structure PeerTable (D C : ℕ) where
  data : BoundedVec PeerState D
  control : BoundedVec PeerState C

namespace PeerTable

/-- Source: `PeerTable::new`. -/
def new : PeerTable D C := ⟨.empty, .empty⟩

/-- Source: `PeerTable::space`. -/
def space (t : PeerTable D C) (control : Bool) : List PeerState :=
  if control then t.control.toList else t.data.toList

/-- Source: `PeerTable::peer`. -/
def peer (t : PeerTable D C) (fabric : FabricIndex) (node : NodeId) (control : Bool) :
    Option PeerState :=
  (t.space control).find? fun p => decide (p.name = (fabric, node))

/-- Changes an entry in place.
Source: what is done through `PeerTable::find_mut`. -/
def modify (t : PeerTable D C) (fabric : FabricIndex) (node : NodeId) (control : Bool)
    (f : PeerState → PeerState) : PeerTable D C :=
  if control then { t with control := t.control.update (fun p => decide (p.name = (fabric, node))) f }
  else { t with data := t.data.update (fun p => decide (p.name = (fabric, node))) f }

/-- Source: `PeerTable::push`. -/
def push (t : PeerTable D C) (state : PeerState) (control : Bool) : Option (PeerTable D C) :=
  if control then (t.control.push state).map fun control => { t with control := control }
  else (t.data.push state).map fun data => { t with data := data }

/-- Source: `PeerTable::admit`, the answer to a verdict of the window. -/
def ofVerdict : Verdict → Admitted
  | .new => .process
  | .duplicate => .duplicate

/-- Judges an authenticated group message.
Source: `PeerTable::admit`. -/
def admitMessage (t : PeerTable D C) (fabric : FabricIndex) (node : NodeId) (control : Bool)
    (counter : UInt32) (policy : GroupKeySecurityPolicy) : Admitted × PeerTable D C :=
  match t.peer fabric node control with
  | some p =>
    if p.synchronized = false then (.needsSync, t)
    else (ofVerdict (p.window.accept counter).1, t.modify fabric node control (.judge counter))
  | none =>
    let trustFirst := control || decide (policy = .trustFirst)
    match t.push ⟨fabric, node, control, .primedAt .rollover counter, trustFirst⟩ control with
    | none => (.untracked, t)
    | some t => (if trustFirst then .process else .needsSync, t)

/-- Records the counter that a synchronisation response carried.
Source: `PeerTable::synchronize`. -/
def synchronize (t : PeerTable D C) (fabric : FabricIndex) (node : NodeId) (counter : UInt32) :
    Bool × PeerTable D C :=
  match t.peer fabric node false with
  | none => (false, t)
  | some _ => (true, t.modify fabric node false (.prime counter))

/-- Source: `PeerTable::remove_fabric`. -/
def removeFabric (t : PeerTable D C) (fabric : FabricIndex) : PeerTable D C :=
  { data := t.data.retain fun p => !decide (p.fabricIndex = fabric)
    control := t.control.retain fun p => !decide (p.fabricIndex = fabric) }

/-! ## Operations and runs -/

/-- An operation on the table. -/
inductive Op
  | message (fabric : FabricIndex) (node : NodeId) (control : Bool) (counter : UInt32)
      (policy : GroupKeySecurityPolicy)
  | synchronize (fabric : FabricIndex) (node : NodeId) (counter : UInt32)
  | removeFabric (fabric : FabricIndex)
  deriving DecidableEq

/-- The fabric an operation is for. -/
def Op.fabric : Op → FabricIndex
  | .message fabric _ _ _ _ | .synchronize fabric _ _ | .removeFabric fabric => fabric

/-- The table after an operation. -/
def step (t : PeerTable D C) : Op → PeerTable D C
  | .message fabric node control counter policy =>
    (t.admitMessage fabric node control counter policy).2
  | .synchronize fabric node counter => (t.synchronize fabric node counter).2
  | .removeFabric fabric => t.removeFabric fabric

/-- The table after a run. -/
def after (D C : ℕ) (ops : List Op) : PeerTable D C := ops.foldl step new

/-- The number of entries a counter space has room for. -/
def capacity (D C : ℕ) (control : Bool) : ℕ := if control then C else D

/-- The number of peers of a fabric that are tracked in a counter space. -/
def tracked (t : PeerTable D C) (fabric : FabricIndex) (control : Bool) : ℕ :=
  held PeerState.fabricIndex (t.space control) fabric

/-- The window of a peer moves forward, and so far that a counter that was behind it is ahead of it
again: the peer's counter has rolled over. -/
def RollsPast (t t' : PeerTable D C) (fabric : FabricIndex) (node : NodeId) (control : Bool)
    (counter : UInt32) : Prop :=
  ∃ p p', t.peer fabric node control = some p ∧ t'.peer fabric node control = some p' ∧
    (p'.window.max = p.window.max ∨ p.window.ahead p'.window.max = true) ∧
    p.window.ahead counter = false ∧ p'.window.ahead counter = true

/-- What is to hold of a run. -/
structure Reliable (D C : ℕ) (ops : List Op) : Prop where
  /-- No counter is processed twice while its fabric stays, unless the counter has rolled over. -/
  once : ∀ before between fabric node control counter policy policy',
    ops = before ++ .message fabric node control counter policy ::
      (between ++ [.message fabric node control counter policy']) →
    ((after D C before).admitMessage fabric node control counter policy).1 = .process →
    .removeFabric fabric ∉ between →
    Throughout step (fun t op => ¬ t.RollsPast (t.step op) fabric node control counter)
      (after D C (before ++ [.message fabric node control counter policy])) between →
    ((after D C (before ++ .message fabric node control counter policy :: between)).admitMessage
      fabric node control counter policy').1 ≠ .process
  /-- A tracked peer stays tracked while its fabric stays. -/
  keeps : ∀ before between fabric node control, ops = before ++ between →
    ((after D C before).peer fabric node control).isSome = true →
    .removeFabric fabric ∉ between →
    ((after D C ops).peer fabric node control).isSome = true
  /-- A fabric that tracks fewer peers than its share gets the next one tracked. -/
  tracks : ∀ before fabric node control counter policy,
    ops = before ++ [.message fabric node control counter policy] →
    (after D C before).tracked fabric control < minPeersPerFabric control →
    ((after D C before).admitMessage fabric node control counter policy).1 ≠ .untracked
  /-- A trust-first message and a control message never wait. -/
  trusts : ∀ before fabric node control counter policy,
    ops = before ++ [.message fabric node control counter policy] →
    control = true ∨ policy = .trustFirst →
    ((after D C before).admitMessage fabric node control counter policy).1 ≠ .needsSync

/-- A step does not reach what is left to chance: a new peer is of a fabric below its share, or leaves
room for the shares of all fabrics; a trust-first message does not find an unsynchronised entry; and a
synchronised window is not set back. -/
def Orderly (F : Finset FabricIndex) (t : PeerTable D C) : Op → Prop
  | .message fabric node control _ policy =>
    (t.peer fabric node control = none → t.tracked fabric control < minPeersPerFabric control ∨
      claimed PeerState.fabricIndex F (minPeersPerFabric control) (t.space control) <
        capacity D C control) ∧
    (policy = .trustFirst → control = false → ∀ p ∈ t.peer fabric node false,
      p.synchronized = true)
  | .synchronize fabric node counter =>
    ∀ p ∈ t.peer fabric node false, p.synchronized = true →
      counter = p.window.max ∨ p.window.ahead counter = true
  | .removeFabric _ => True

instance (F : Finset FabricIndex) (t : PeerTable D C) (op : Op) : Decidable (t.Orderly F op) :=
  match op with
  | .message _ _ _ _ _ => inferInstanceAs (Decidable ((_ → _ ∨ _ < _) ∧ (_ → _ → ∀ _ ∈ _, _)))
  | .synchronize _ _ _ => inferInstanceAs (Decidable (∀ _ ∈ _, _ → _ ∨ _))
  | .removeFabric _ => inferInstanceAs (Decidable True)

/-! ## What each change does to the entries -/

section entries

variable {t t' : PeerTable D C} {fabric : FabricIndex} {node : NodeId} {control : Bool}

lemma space_modify (f : PeerState → PeerState) (control' : Bool) :
    (t.modify fabric node control f).space control' =
      if control' = control then
        modifyFirst (fun p => decide (p.name = (fabric, node))) f (t.space control)
      else t.space control' := by
  cases control <;> cases control' <;> rfl

lemma push_eq_some {state : PeerState} (h : t.push state control = some t') :
    (t.space control).length < capacity D C control ∧ ∀ control', t'.space control' =
      if control' = control then t.space control ++ [state] else t.space control' := by
  cases control with
  | true =>
    obtain ⟨v, hv, rfl⟩ := Option.map_eq_some_iff.mp h
    obtain ⟨hroom, hv⟩ := BoundedVec.push_eq_some_iff.mp hv
    refine ⟨hroom, ?_⟩
    intro control'
    cases control'
    · rfl
    · exact hv
  | false =>
    obtain ⟨v, hv, rfl⟩ := Option.map_eq_some_iff.mp h
    obtain ⟨hroom, hv⟩ := BoundedVec.push_eq_some_iff.mp hv
    refine ⟨hroom, ?_⟩
    intro control'
    cases control'
    · exact hv
    · rfl

lemma length_of_push_eq_none {state : PeerState} (h : t.push state control = none) :
    (t.space control).length = capacity D C control := by
  cases control with
  | true => exact BoundedVec.push_eq_none_iff.mp (Option.map_eq_none_iff.mp h)
  | false => exact BoundedVec.push_eq_none_iff.mp (Option.map_eq_none_iff.mp h)

lemma space_removeFabric (t : PeerTable D C) (fabric : FabricIndex) (control : Bool) :
    (t.removeFabric fabric).space control =
      (t.space control).filter fun p => !decide (p.fabricIndex = fabric) := by
  cases control <;> rfl

lemma peer_eq_some {p : PeerState} (h : t.peer fabric node control = some p) :
    p ∈ t.space control ∧ p.name = (fabric, node) :=
  find?_key_eq_some h

/-- A change that keeps the names is seen under the name it is made to, and nowhere else. -/
lemma peer_modify {f : PeerState → PeerState} (hf : ∀ p, (f p).name = p.name)
    (fabric' : FabricIndex) (node' : NodeId) (control' : Bool) :
    (t.modify fabric node control f).peer fabric' node' control' =
      if control' = control ∧ (fabric', node') = (fabric, node) then
        (t.peer fabric node control).map f
      else t.peer fabric' node' control' := by
  rw [peer, space_modify]
  by_cases hc : control' = control
  · subst hc
    rw [if_pos rfl, find?_key_modifyFirst hf]
    by_cases hname : (fabric', node') = (fabric, node)
    · rw [if_pos hname, if_pos ⟨rfl, hname⟩, hname]
      rfl
    · rw [if_neg hname, if_neg fun h => hname h.2]
      rfl
  · rw [if_neg hc, if_neg fun h => hc h.1]
    rfl

/-- A new entry hides nothing that was there. -/
lemma peer_push {state : PeerState} (h : t.push state control = some t')
    (fabric' : FabricIndex) (node' : NodeId) (control' : Bool) :
    t'.peer fabric' node' control' = (t.peer fabric' node' control').or
      (if control' = control ∧ state.name = (fabric', node') then some state else none) := by
  obtain ⟨-, hspace⟩ := push_eq_some h
  rw [peer, peer, hspace control']
  by_cases hc : control' = control
  · subst hc
    rw [if_pos rfl, List.find?_append, List.find?_singleton]
    simp
  · rw [if_neg hc, if_neg fun h => hc h.1, Option.or_none]

/-- Peers of the other fabrics are where they were. -/
lemma peer_removeFabric {fabric' : FabricIndex} (hne : fabric ≠ fabric') :
    (t.removeFabric fabric').peer fabric node control = t.peer fabric node control := by
  rw [peer, peer, space_removeFabric, List.find?_filter]
  congr 1
  funext p
  by_cases hname : p.name = (fabric, node)
  · have hfabric : p.fabricIndex = fabric := congrArg Prod.fst hname
    simp [hname, hfabric, hne]
  · simp [hname]

end entries

/-! ## What an operation can do -/

/-- A message finds an unsynchronised entry and waits, is judged by the window of its entry, finds no
room, or makes an entry. -/
lemma admitMessage_cases (t : PeerTable D C) (fabric : FabricIndex) (node : NodeId) (control : Bool)
    (counter : UInt32) (policy : GroupKeySecurityPolicy) :
    (∃ p, t.peer fabric node control = some p ∧ p.synchronized = false ∧
      t.admitMessage fabric node control counter policy = (.needsSync, t)) ∨
    (∃ p, t.peer fabric node control = some p ∧ p.synchronized = true ∧
      t.admitMessage fabric node control counter policy =
        (ofVerdict (p.window.accept counter).1, t.modify fabric node control (.judge counter))) ∨
    (t.peer fabric node control = none ∧ (t.space control).length = capacity D C control ∧
      t.admitMessage fabric node control counter policy = (.untracked, t)) ∨
    (∃ t', t.peer fabric node control = none ∧
      t.push ⟨fabric, node, control, .primedAt .rollover counter,
        control || decide (policy = .trustFirst)⟩ control = some t' ∧
      t.admitMessage fabric node control counter policy =
        (if control || decide (policy = .trustFirst) then .process else .needsSync, t')) := by
  unfold admitMessage
  cases hpeer : t.peer fabric node control with
  | some p =>
    cases hsync : p.synchronized with
    | false => exact .inl ⟨p, rfl, hsync, if_pos hsync⟩
    | true =>
      refine .inr (.inl ⟨p, rfl, hsync, ?_⟩)
      simp [hsync]
  | none =>
    dsimp only
    cases hpush : t.push ⟨fabric, node, control, .primedAt .rollover counter,
        control || decide (policy = .trustFirst)⟩ control with
    | none => exact .inr (.inr (.inl ⟨rfl, length_of_push_eq_none hpush, rfl⟩))
    | some t' => exact .inr (.inr (.inr ⟨t', rfl, rfl, rfl⟩))

/-- A synchronisation response finds no entry and changes nothing, or sets the window of the entry. -/
lemma synchronize_cases (t : PeerTable D C) (fabric : FabricIndex) (node : NodeId) (counter : UInt32) :
    (t.peer fabric node false = none ∧ (t.synchronize fabric node counter).2 = t) ∨
    (∃ p, t.peer fabric node false = some p ∧
      (t.synchronize fabric node counter).2 = t.modify fabric node false (.prime counter)) := by
  unfold synchronize
  cases hpeer : t.peer fabric node false with
  | none => exact .inl ⟨rfl, rfl⟩
  | some p => exact .inr ⟨p, rfl, rfl⟩

/-! ## What every orderly run keeps -/

/-- What holds of the table at all times: windows roll over, control entries are synchronised, and the
entries and the shares of the fabrics fit in each counter space. -/
structure Kept (F : Finset FabricIndex) (t : PeerTable D C) : Prop where
  rollover : ∀ control, ∀ p ∈ t.space control, p.window.kind = .rollover
  synchronized : ∀ p ∈ t.space true, p.synchronized = true
  owners : ∀ control, ∀ p ∈ t.space control, p.fabricIndex ∈ F
  room : ∀ control, claimed PeerState.fabricIndex F (minPeersPerFabric control) (t.space control) ≤
    capacity D C control

section runs

variable {F : Finset FabricIndex} {t t' : PeerTable D C} {fabric : FabricIndex} {node : NodeId}
  {control : Bool}

lemma kept_new {fabrics : ℕ} (hF : F.card ≤ fabrics) (hD : minPeersPerFabric false * fabrics ≤ D)
    (hC : minPeersPerFabric true * fabrics ≤ C) : Kept F (new : PeerTable D C) := by
  have hspace : ∀ control, (new : PeerTable D C).space control = [] := by
    intro control
    cases control <;> rfl
  refine ⟨?_, ?_, ?_, ?_⟩
  · intro control p hp
    rw [hspace] at hp
    cases hp
  · intro p hp
    cases hp
  · intro control p hp
    rw [hspace] at hp
    cases hp
  · intro control
    have hshares : F.card * minPeersPerFabric control ≤ minPeersPerFabric control * fabrics := by
      rw [Nat.mul_comm]
      exact Nat.mul_le_mul_left _ hF
    rw [hspace, claimed_nil]
    cases control with
    | false => exact hshares.trans hD
    | true => exact hshares.trans hC

/-- A change of an entry in place keeps what holds if the window still rolls over and a synchronised
entry stays synchronised. -/
lemma Kept.modify (h : Kept F t) {f : PeerState → PeerState} (hname : ∀ p, (f p).name = p.name)
    (hkind : ∀ p, p.window.kind = .rollover → (f p).window.kind = .rollover)
    (hsync : ∀ p, p.synchronized = true → (f p).synchronized = true) :
    Kept F (t.modify fabric node control f) := by
  have howner : ∀ p, (f p).fabricIndex = p.fabricIndex := fun p => congrArg Prod.fst (hname p)
  -- An entry of the changed table is an entry of the old one, or the change of one.
  have hmem : ∀ control', ∀ p ∈ (t.modify fabric node control f).space control',
      p ∈ t.space control' ∨ ∃ q ∈ t.space control', p = f q := by
    intro control' p hp
    rw [space_modify] at hp
    split_ifs at hp with hc
    · subst hc
      rcases mem_modifyFirst hp with hp | ⟨q, hq, -, rfl⟩
      · exact .inl hp
      · exact .inr ⟨q, hq, rfl⟩
    · exact .inl hp
  refine ⟨?_, ?_, ?_, ?_⟩
  · intro control' p hp
    rcases hmem control' p hp with hp | ⟨q, hq, rfl⟩
    · exact h.rollover control' p hp
    · exact hkind q (h.rollover control' q hq)
  · intro p hp
    rcases hmem true p hp with hp | ⟨q, hq, rfl⟩
    · exact h.synchronized p hp
    · exact hsync q (h.synchronized q hq)
  · intro control' p hp
    rcases hmem control' p hp with hp | ⟨q, hq, rfl⟩
    · exact h.owners control' p hp
    · rw [howner]
      exact h.owners control' q hq
  · intro control'
    rw [space_modify]
    split_ifs with hc
    · subst hc
      rw [claimed_congr (map_modifyFirst howner _)]
      exact h.room control'
    · exact h.room control'

/-- A new entry keeps what holds if its fabric is below its share or the shares leave room. -/
lemma Kept.push (h : Kept F t) {state : PeerState} (hpush : t.push state control = some t')
    (hkind : state.window.kind = .rollover) (hsync : control = true → state.synchronized = true)
    (howner : state.fabricIndex ∈ F)
    (hroom : t.tracked state.fabricIndex control < minPeersPerFabric control ∨
      claimed PeerState.fabricIndex F (minPeersPerFabric control) (t.space control) <
        capacity D C control) : Kept F t' := by
  obtain ⟨-, hspace⟩ := push_eq_some hpush
  have hmem : ∀ control', ∀ p ∈ t'.space control',
      p ∈ t.space control' ∨ control' = control ∧ p = state := by
    intro control' p hp
    rw [hspace] at hp
    split_ifs at hp with hc
    · subst hc
      rcases List.mem_append.mp hp with hp | hp
      · exact .inl hp
      · exact .inr ⟨rfl, List.mem_singleton.mp hp⟩
    · exact .inl hp
  refine ⟨?_, ?_, ?_, ?_⟩
  · intro control' p hp
    rcases hmem control' p hp with hp | ⟨-, rfl⟩
    · exact h.rollover control' p hp
    · exact hkind
  · intro p hp
    rcases hmem true p hp with hp | ⟨hc, rfl⟩
    · exact h.synchronized p hp
    · exact hsync hc.symm
  · intro control' p hp
    rcases hmem control' p hp with hp | ⟨-, rfl⟩
    · exact h.owners control' p hp
    · exact howner
  · intro control'
    have hle := h.room control'
    rw [hspace]
    split_ifs with hc
    · subst hc
      rw [claimed_append_singleton howner]
      rw [tracked] at hroom
      split_ifs with hlt
      · exact hle
      · exact hroom.resolve_left hlt
    · exact hle

/-- Every orderly step keeps what holds of the table. -/
lemma Kept.step (h : Kept F t) {op : Op} (hop : op.fabric ∈ F) (horderly : t.Orderly F op) :
    Kept F (t.step op) := by
  cases op with
  | message fabric node control counter policy =>
    rw [PeerTable.step]
    rcases admitMessage_cases t fabric node control counter policy with
      ⟨p, -, -, hverdict⟩ | ⟨p, -, -, hverdict⟩ | ⟨-, -, hverdict⟩ | ⟨t', hnone, hpush, hverdict⟩
    · rw [hverdict]
      exact h
    · rw [hverdict]
      refine h.modify (PeerState.name_judge counter) ?_ fun _ hp => hp
      intro p hp
      rw [PeerState.judge, CounterWindow.accept_kind]
      exact hp
    · rw [hverdict]
      exact h
    · rw [hverdict]
      refine h.push hpush rfl ?_ hop (horderly.1 hnone)
      intro hcontrol
      rw [hcontrol]
      rfl
  | synchronize fabric node counter =>
    rw [PeerTable.step]
    rcases synchronize_cases t fabric node counter with ⟨-, hsync⟩ | ⟨p, -, hsync⟩
    · rw [hsync]
      exact h
    · rw [hsync]
      exact h.modify (PeerState.name_prime counter) (fun _ _ => rfl) fun _ _ => rfl
  | removeFabric fabric =>
    rw [PeerTable.step]
    refine ⟨?_, ?_, ?_, ?_⟩
    · intro control p hp
      rw [space_removeFabric] at hp
      exact h.rollover control p (List.mem_of_mem_filter hp)
    · intro p hp
      rw [space_removeFabric] at hp
      exact h.synchronized p (List.mem_of_mem_filter hp)
    · intro control p hp
      rw [space_removeFabric] at hp
      exact h.owners control p (List.mem_of_mem_filter hp)
    · intro control
      rw [space_removeFabric]
      exact (claimed_filter_le _).trans (h.room control)

/-- No step but the removal of its fabric takes an entry away. -/
lemma isSome_peer_step (hpeer : (t.peer fabric node control).isSome = true) {op : Op}
    (hop : op ≠ .removeFabric fabric) : ((t.step op).peer fabric node control).isSome = true := by
  cases op with
  | message fabric' node' control' counter policy =>
    rw [step]
    rcases admitMessage_cases t fabric' node' control' counter policy with
      ⟨p, -, -, hverdict⟩ | ⟨p, -, -, hverdict⟩ | ⟨-, -, hverdict⟩ | ⟨t', -, hpush, hverdict⟩
    · rw [hverdict]
      exact hpeer
    · rw [hverdict, peer_modify (PeerState.name_judge counter)]
      split_ifs with hsame
      · obtain ⟨rfl, hname⟩ := hsame
        cases hname
        rw [Option.isSome_map]
        exact hpeer
      · exact hpeer
    · rw [hverdict]
      exact hpeer
    · rw [hverdict, peer_push hpush, Option.isSome_or, hpeer, Bool.true_or]
  | synchronize fabric' node' counter =>
    rw [step]
    rcases synchronize_cases t fabric' node' counter with ⟨-, hsync⟩ | ⟨p, -, hsync⟩
    · rw [hsync]
      exact hpeer
    · rw [hsync, peer_modify (PeerState.name_prime counter)]
      split_ifs with hsame
      · obtain ⟨rfl, hname⟩ := hsame
        cases hname
        rw [Option.isSome_map]
        exact hpeer
      · exact hpeer
  | removeFabric fabric' =>
    rw [step, peer_removeFabric]
    · exact hpeer
    · rintro rfl
      exact hop rfl

/-- The peer's window has seen the counter. -/
def Remembers (t : PeerTable D C) (fabric : FabricIndex) (node : NodeId) (control : Bool)
    (counter : UInt32) : Prop :=
  ∃ p, t.peer fabric node control = some p ∧ p.synchronized = true ∧ p.window.Seen counter

variable {counter : UInt32}

/-- What is processed is remembered. -/
lemma remembers_of_process {policy : GroupKeySecurityPolicy}
    (h : (t.admitMessage fabric node control counter policy).1 = .process) :
    (t.step (.message fabric node control counter policy)).Remembers fabric node control counter := by
  rw [step]
  rcases admitMessage_cases t fabric node control counter policy with
    ⟨p, -, -, hverdict⟩ | ⟨p, hpeer, hsync, hverdict⟩ | ⟨-, -, hverdict⟩ | ⟨t', hnone, hpush, hverdict⟩
  · rw [hverdict] at h
    cases h
  · have hnew : (p.window.accept counter).1 = .new := by
      rw [hverdict] at h
      cases hverdict : (p.window.accept counter).1 with
      | new => rfl
      | duplicate =>
        rw [hverdict] at h
        cases h
    refine ⟨p.judge counter, ?_, hsync, CounterWindow.seen_of_accept_eq_new hnew⟩
    rw [hverdict, peer_modify (PeerState.name_judge counter), if_pos ⟨rfl, rfl⟩, hpeer, Option.map_some]
  · rw [hverdict] at h
    cases h
  · have htrust : (control || decide (policy = .trustFirst)) = true := by
      by_contra hnot
      rw [hverdict, if_neg hnot] at h
      cases h
    have hseen : (CounterWindow.primedAt .rollover counter).Seen counter :=
      CounterWindow.seen_primedAt (CounterWindow.not_ahead_max (.primedAt .rollover counter))
    refine ⟨⟨fabric, node, control, .primedAt .rollover counter,
      control || decide (policy = .trustFirst)⟩, ?_, htrust, hseen⟩
    rw [hverdict, peer_push hpush, hnone, Option.none_or]
    exact if_pos ⟨rfl, rfl⟩

/-- What is remembered is not processed. -/
lemma Remembers.not_process (h : t.Remembers fabric node control counter)
    (policy : GroupKeySecurityPolicy) :
    (t.admitMessage fabric node control counter policy).1 ≠ .process := by
  obtain ⟨p, hpeer, hsync, hseen⟩ := h
  rcases admitMessage_cases t fabric node control counter policy with
    ⟨q, -, -, hverdict⟩ | ⟨q, hq, -, hverdict⟩ | ⟨hnone, -, -⟩ | ⟨t', hnone, -, -⟩
  · rw [hverdict]
    exact nofun
  · obtain rfl : p = q := Option.some_inj.mp (hpeer.symm.trans hq)
    rw [hverdict, hseen.accept_eq_duplicate]
    exact nofun
  · rw [hpeer] at hnone
    cases hnone
  · rw [hpeer] at hnone
    cases hnone

/-- What is remembered stays remembered while the fabric stays, until the counter rolls over. -/
lemma Remembers.step (h : t.Remembers fabric node control counter) (hkept : Kept F t) {op : Op}
    (horderly : t.Orderly F op) (hop : op ≠ .removeFabric fabric)
    (hrolls : ¬ t.RollsPast (t.step op) fabric node control counter) :
    (t.step op).Remembers fabric node control counter := by
  obtain ⟨p, hpeer, hsync, hseen⟩ := h
  have hkind := hkept.rollover control p (peer_eq_some hpeer).1
  cases op with
  | message fabric' node' control' counter' policy =>
    rw [PeerTable.step] at hrolls ⊢
    rcases admitMessage_cases t fabric' node' control' counter' policy with
      ⟨q, -, -, hverdict⟩ | ⟨q, -, -, hverdict⟩ | ⟨-, -, hverdict⟩ | ⟨t', -, hpush, hverdict⟩
    · rw [hverdict]
      exact ⟨p, hpeer, hsync, hseen⟩
    · rw [hverdict] at hrolls ⊢
      by_cases hsame : control = control' ∧ (fabric, node) = (fabric', node')
      · obtain ⟨rfl, hname⟩ := hsame
        cases hname
        have hpeer' : (t.modify fabric node control (.judge counter')).peer fabric node control =
            some (p.judge counter') := by
          rw [peer_modify (PeerState.name_judge counter'), if_pos ⟨rfl, rfl⟩, hpeer, Option.map_some]
        refine ⟨_, hpeer', hsync, hseen.accept hkind ?_⟩
        by_contra hahead
        rw [Bool.not_eq_false] at hahead
        refine hrolls ⟨p, _, hpeer, hpeer', ?_, hseen.2.1, hahead⟩
        exact CounterWindow.accept_moves_forward hseen.1 counter'
      · refine ⟨p, ?_, hsync, hseen⟩
        rw [peer_modify (PeerState.name_judge counter'), if_neg hsame]
        exact hpeer
    · rw [hverdict]
      exact ⟨p, hpeer, hsync, hseen⟩
    · rw [hverdict]
      refine ⟨p, ?_, hsync, hseen⟩
      rw [peer_push hpush, hpeer, Option.some_or]
  | synchronize fabric' node' counter' =>
    rw [PeerTable.step] at hrolls ⊢
    rcases synchronize_cases t fabric' node' counter' with ⟨-, hset⟩ | ⟨q, -, hset⟩
    · rw [hset]
      exact ⟨p, hpeer, hsync, hseen⟩
    · rw [hset] at hrolls ⊢
      by_cases hsame : control = false ∧ (fabric, node) = (fabric', node')
      · obtain ⟨rfl, hname⟩ := hsame
        cases hname
        have hpeer' : (t.modify fabric node false (.prime counter')).peer fabric node false =
            some (p.prime counter') := by
          rw [peer_modify (PeerState.name_prime counter'), if_pos ⟨rfl, rfl⟩, hpeer, Option.map_some]
        refine ⟨_, hpeer', rfl, CounterWindow.seen_primedAt ?_⟩
        by_contra hahead
        rw [Bool.not_eq_false] at hahead
        exact hrolls ⟨p, _, hpeer, hpeer', horderly p hpeer hsync, hseen.2.1, hahead⟩
      · refine ⟨p, ?_, hsync, hseen⟩
        rw [peer_modify (PeerState.name_prime counter'), if_neg hsame]
        exact hpeer
  | removeFabric fabric' =>
    rw [PeerTable.step]
    refine ⟨p, ?_, hsync, hseen⟩
    rw [peer_removeFabric]
    · exact hpeer
    · rintro rfl
      exact hop rfl

/-- A message of a fabric below its share finds room. -/
lemma Kept.not_untracked (h : Kept F t) (hfabric : fabric ∈ F)
    (hlt : t.tracked fabric control < minPeersPerFabric control) (policy : GroupKeySecurityPolicy) :
    (t.admitMessage fabric node control counter policy).1 ≠ .untracked := by
  have hroom := length_lt_of_claimed_le (h.owners control) (h.room control) hfabric hlt
  rcases admitMessage_cases t fabric node control counter policy with
    ⟨p, -, -, hverdict⟩ | ⟨p, -, -, hverdict⟩ | ⟨-, hfull, -⟩ | ⟨t', -, -, hverdict⟩
  · rw [hverdict]
    exact nofun
  · rw [hverdict]
    cases (p.window.accept counter).1 <;> exact nofun
  · exact absurd hfull hroom.ne
  · rw [hverdict]
    split_ifs <;> exact nofun

/-- A message that is trusted on first contact does not wait, unless it is a data message that finds an
unsynchronised entry. -/
lemma Kept.not_needsSync (h : Kept F t) {policy : GroupKeySecurityPolicy}
    (htrust : control = true ∨ policy = .trustFirst)
    (horderly : t.Orderly F (.message fabric node control counter policy)) :
    (t.admitMessage fabric node control counter policy).1 ≠ .needsSync := by
  rcases admitMessage_cases t fabric node control counter policy with
    ⟨p, hpeer, hsync, -⟩ | ⟨p, -, -, hverdict⟩ | ⟨-, -, hverdict⟩ | ⟨t', -, -, hverdict⟩
  · have htrue : p.synchronized = true := by
      cases control with
      | true => exact h.synchronized p (peer_eq_some hpeer).1
      | false => exact horderly.2 (htrust.resolve_left nofun) rfl p hpeer
    rw [hsync] at htrue
    cases htrue
  · rw [hverdict]
    cases (p.window.accept counter).1 <;> exact nofun
  · rw [hverdict]
    exact nofun
  · have hfirst : (control || decide (policy = .trustFirst)) = true := by
      rcases htrust with htrue | hpolicy
      · rw [htrue, Bool.true_or]
      · rw [decide_eq_true hpolicy, Bool.or_true]
    rw [hverdict, if_pos hfirst]
    exact nofun

lemma after_append (before rest : List Op) :
    after D C (before ++ rest) = rest.foldl step (after D C before) :=
  List.foldl_append

/-- Every orderly run keeps what holds of the table, up to every point of it. -/
lemma kept_after {fabrics : ℕ} (hF : F.card ≤ fabrics) (hD : minPeersPerFabric false * fabrics ≤ D)
    (hC : minPeersPerFabric true * fabrics ≤ C) {before rest : List Op}
    (hops : ∀ op ∈ before ++ rest, op.fabric ∈ F)
    (horderly : Throughout step (Orderly F) (new : PeerTable D C) (before ++ rest)) :
    Kept F (after D C before) ∧ Throughout step (Orderly F) (after D C before) rest := by
  obtain ⟨hbefore, hrest⟩ := Throughout.append_iff.mp horderly
  refine ⟨?_, hrest⟩
  have hboth : Throughout step (fun t op => op.fabric ∈ F ∧ t.Orderly F op) (new : PeerTable D C)
      before :=
    hbefore.and_of_forall fun op hop => hops op (List.mem_append_left _ hop)
  exact hboth.invariant (fun t op hkept hop => hkept.step hop.1 hop.2) (kept_new hF hD hC)

/-- What is remembered is remembered after any orderly run in which the fabric stays and the counter
does not roll over. -/
lemma Remembers.run {ops : List Op} (h : t.Remembers fabric node control counter) (hkept : Kept F t)
    (hops : ∀ op ∈ ops, op.fabric ∈ F) (horderly : Throughout PeerTable.step (Orderly F) t ops)
    (hstays : .removeFabric fabric ∉ ops) (hrolls : Throughout PeerTable.step
      (fun t op => ¬ t.RollsPast (t.step op) fabric node control counter) t ops) :
    (ops.foldl PeerTable.step t).Remembers fabric node control counter := by
  induction ops generalizing t with
  | nil => exact h
  | cons op ops ih =>
    obtain ⟨hop, hrest⟩ := List.forall_mem_cons.mp hops
    obtain ⟨hne, hstays⟩ := not_or.mp (List.mem_cons.not.mp hstays)
    exact ih (h.step hkept horderly.1 (Ne.symm hne) hrolls.1) (hkept.step hop horderly.1) hrest
      horderly.2 hstays hrolls.2

/-- Over every run for as many fabrics as the table is sized for whose steps are orderly, no counter is
processed twice while its fabric stays, a tracked peer stays tracked, a fabric below its share is never
refused and a message that is to be trusted never waits. -/
theorem reliable_of_orderly {fabrics : ℕ} (hF : F.card ≤ fabrics)
    (hD : minPeersPerFabric false * fabrics ≤ D) (hC : minPeersPerFabric true * fabrics ≤ C)
    {ops : List Op} (hops : ∀ op ∈ ops, op.fabric ∈ F)
    (horderly : Throughout step (Orderly F) (new : PeerTable D C) ops) : Reliable D C ops where
  once := by
    rintro before between fabric node control counter policy policy' rfl hprocess hstays hrolls
    obtain ⟨hkept, hfirst, hrest⟩ := kept_after hF hD hC hops horderly
    have hfabric : fabric ∈ F := hops _ (List.mem_append_right _ List.mem_cons_self)
    have hbetween : ∀ op ∈ between, op.fabric ∈ F := by
      intro op hop
      apply hops
      simp [hop]
    have hremembers := remembers_of_process hprocess
    rw [after_append] at hrolls
    have hrun := Remembers.run hremembers (hkept.step hfabric hfirst) hbetween
      (Throughout.append_iff.mp hrest).1 hstays hrolls
    rw [after_append]
    exact hrun.not_process policy'
  keeps := by
    rintro before between fabric node control rfl hpeer hstays
    have hother : ∀ op ∈ between, op ≠ Op.removeFabric fabric := by
      rintro op hop rfl
      exact hstays hop
    rw [after_append]
    exact foldl_invariant (W := fun op => op ≠ Op.removeFabric fabric)
      (I := fun t : PeerTable D C => (t.peer fabric node control).isSome = true)
      (fun t op hop ht => isSome_peer_step ht hop) hother hpeer
  tracks := by
    rintro before fabric node control counter policy rfl hlt
    obtain ⟨hkept, -⟩ := kept_after hF hD hC hops horderly
    have hfabric : fabric ∈ F := hops _ (List.mem_append_right _ List.mem_cons_self)
    exact hkept.not_untracked hfabric hlt policy
  trusts := by
    rintro before fabric node control counter policy rfl htrust
    obtain ⟨hkept, hlast, -⟩ := kept_after hF hD hC hops horderly
    exact hkept.not_needsSync htrust hlast

end runs

/-! ## Runs on concrete values -/

namespace Sample

def first : FabricIndex := ⟨1⟩

def second : FabricIndex := ⟨2⟩

def fabrics : Finset FabricIndex := {first, second}

def node : NodeId := ⟨0x1111⟩

/-- A peer that is trusted at once, one that is synchronised first, and the end of their fabric. -/
def orderly : List Op :=
  [.message first node false 5000 .trustFirst, .message first ⟨0x2222⟩ false 9 .cacheAndSync,
    .synchronize first ⟨0x2222⟩ 12, .message first ⟨0x2222⟩ false 13 .cacheAndSync,
    .message second node true 7 .cacheAndSync, .removeFabric first]

/-- Twenty nodes of one fabric. -/
def crowd : List Op :=
  (List.range 20).map fun i => .message first ⟨UInt64.ofNat (i + 1)⟩ false 1 .trustFirst

/-- A node whose window is set back. -/
def setBack : List Op :=
  [.message first node false 100 .trustFirst, .synchronize first node 90]

end Sample

/-- An orderly run of two fabrics on a table of the least size for them. -/
theorem orderly_run_is_reliable :
    Sample.fabrics.card ≤ 2 ∧ minPeersPerFabric false * 2 ≤ 20 ∧ minPeersPerFabric true * 2 ≤ 4 ∧
    (∀ op ∈ Sample.orderly, op.fabric ∈ Sample.fabrics) ∧ Reliable 20 4 Sample.orderly := by
  have hops : ∀ op ∈ Sample.orderly, op.fabric ∈ Sample.fabrics := by decide
  refine ⟨by decide, by decide, by decide, hops, ?_⟩
  have hshares : Sample.fabrics.card ≤ 2 := by decide
  exact reliable_of_orderly hshares (by decide) (by decide) hops (by decide +kernel)

/-- The three ways out of order. One fabric takes all entries, and the first message of another is
refused; an entry that waits for a synchronisation makes a trust-first message wait; and a window that
is set back lets a counter through that has been processed. -/
theorem shares_and_windows_are_lost :
    Sample.fabrics.card ≤ 2 ∧ minPeersPerFabric false * 2 ≤ 20 ∧ minPeersPerFabric true * 2 ≤ 4 ∧
    (∀ op ∈ Sample.crowd ++ [.message Sample.second Sample.node false 7 .trustFirst],
      op.fabric ∈ Sample.fabrics) ∧
    ¬ Reliable 20 4 (Sample.crowd ++ [.message Sample.second Sample.node false 7 .trustFirst]) ∧
    ¬ Reliable 20 4 ([.message Sample.first Sample.node false 5 .cacheAndSync] ++
      [.message Sample.first Sample.node false 6 .trustFirst]) ∧
    ¬ Reliable 20 4 (Sample.setBack ++ [.message Sample.first Sample.node false 100 .trustFirst]) := by
  refine ⟨by decide, by decide, by decide, by decide +kernel, ?_, ?_, ?_⟩
  · intro h
    exact h.tracks Sample.crowd _ _ _ _ _ rfl (by decide +kernel) (by decide +kernel)
  · intro h
    exact h.trusts [.message Sample.first Sample.node false 5 .cacheAndSync] _ _ _ _ _ rfl (.inr rfl)
      (by decide +kernel)
  · intro h
    have hprimed : ∀ counter, PeerState.window ⟨Sample.first, Sample.node, false,
        .primedAt .rollover counter, true⟩ = .primedAt .rollover counter := fun _ => rfl
    have hbefore : (after 20 4 [.message Sample.first Sample.node false 100 .trustFirst]).peer
        Sample.first Sample.node false =
        some ⟨Sample.first, Sample.node, false, .primedAt .rollover 100, true⟩ := by
      decide +kernel
    have hafter : ((after 20 4 [.message Sample.first Sample.node false 100 .trustFirst]).step
        (.synchronize Sample.first Sample.node 90)).peer Sample.first Sample.node false =
        some ⟨Sample.first, Sample.node, false, .primedAt .rollover 90, true⟩ := by
      decide +kernel
    refine h.once [] [.synchronize Sample.first Sample.node 90] _ _ _ _ _ _ rfl (by decide +kernel)
      (by decide) ⟨?_, trivial⟩ (by decide +kernel)
    rintro ⟨p, p', hp, hp', hforward, -, -⟩
    obtain rfl := Option.some_inj.mp (hp.symm.trans hbefore)
    obtain rfl := Option.some_inj.mp (hp'.symm.trans hafter)
    rw [hprimed, hprimed] at hforward
    revert hforward
    decide

end PeerTable

end MatterKit.Group
