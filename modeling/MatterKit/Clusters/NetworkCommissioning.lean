import MatterKit.Clusters.GeneralCommissioning

/-!
# The Network Commissioning cluster

`clusters/network_commissioning.rs`. One instance manages one interface: it keeps the list of networks
the interface may join, and a driver keeps their credentials, which the list never holds. All commands
need the fail-safe armed. Before it changes anything a command calls `record_change`, which takes a
snapshot of the list unless the fail-safe says that the networks have been changed in this context, and
then tells the fail-safe so. An expired fail-safe gives the list back, a completed one drops the
snapshot.

The fail-safe is the node's, the list and its snapshot are the instance's.
-/

namespace MatterKit.Clusters

open Lib Machine Tlv Dm Im Commissioning

/-! ## Networks -/

/-- Source: `NetworkStatus`. -/
inductive NetworkStatus
  | success
  | outOfRange
  | boundsExceeded
  | networkIdNotFound
  | duplicateNetworkId
  | networkNotFound
  | regulatoryError
  | authFailure
  | unsupportedSecurity
  | otherConnectionFailure
  | ipv6Failed
  | ipBindFailed
  | unknownError
  deriving DecidableEq

/-- Source: `NetworkStatus::value`. -/
def NetworkStatus.value : NetworkStatus → UInt8
  | .success => 0
  | .outOfRange => 1
  | .boundsExceeded => 2
  | .networkIdNotFound => 3
  | .duplicateNetworkId => 4
  | .networkNotFound => 5
  | .regulatoryError => 6
  | .authFailure => 7
  | .unsupportedSecurity => 8
  | .otherConnectionFailure => 9
  | .ipv6Failed => 10
  | .ipBindFailed => 11
  | .unknownError => 12

/-- Source: `NetworkStatus::is_success`. -/
def NetworkStatus.isSuccess (status : NetworkStatus) : Bool := decide (status = .success)

/-- Source: `NetworkKind`. -/
inductive NetworkKind
  | wiFi
  | thread
  | ethernet
  deriving DecidableEq

/-- Source: `NETWORK_ID_MAX`. -/
def networkIdMax : ℕ := 32

/-- Source: `NetworkInfo`. -/
structure NetworkInfo where
  id : List UInt8
  connected : Bool := false
  deriving DecidableEq

/-- Source: `copy_id`. -/
def copyId (id : List UInt8) : Except NetworkStatus (List UInt8) :=
  if id.isEmpty ∨ id.length > networkIdMax then .error .outOfRange else .ok id

/-- Source: `index_of`. -/
def indexOf (index : ℕ) : Except NetworkStatus UInt8 :=
  if index < 256 then .ok (UInt8.ofNat index) else .error .outOfRange

/-! ### The list -/

/-- The entry at `i` is taken out and put in at `j`. -/
def moved (l : List NetworkInfo) (i j : ℕ) : List NetworkInfo :=
  match l[i]? with
  | none => l
  | some entry => if j < l.length then (l.eraseIdx i).insertIdx j entry else l

/-- The entries that are connected are those that `p` names. -/
def connecting (p : NetworkInfo → Bool) (l : List NetworkInfo) : List NetworkInfo :=
  l.map fun n => { n with connected := p n }

section list

variable {l : List NetworkInfo} {i j : ℕ} {p : NetworkInfo → Bool}

lemma moved_of_lt (hi : i < l.length) (hj : j < l.length) :
    moved l i j = (l.eraseIdx i).insertIdx j l[i] := by
  rw [moved, List.getElem?_eq_getElem hi]
  exact if_pos hj

lemma moved_perm (l : List NetworkInfo) (i j : ℕ) : (moved l i j).Perm l := by
  by_cases hi : i < l.length
  · by_cases hj : j < l.length
    · rw [moved_of_lt hi hj]
      have hroom : j ≤ (l.eraseIdx i).length := by
        rw [List.length_eraseIdx_of_lt hi]
        omega
      exact (List.perm_insertIdx _ _ hroom).trans (List.getElem_cons_eraseIdx_perm hi)
    · rw [moved, List.getElem?_eq_getElem hi]
      exact .of_eq (if_neg hj)
  · rw [moved, List.getElem?_eq_none (not_lt.mp hi)]

lemma getElem?_moved (hi : i < l.length) (hj : j < l.length) : (moved l i j)[j]? = l[i]? := by
  rw [moved_of_lt hi hj, List.getElem?_insertIdx_self, List.length_eraseIdx_of_lt hi,
    if_pos (Nat.le_sub_one_of_lt hj), List.getElem?_eq_getElem hi]

lemma map_id_connecting (p : NetworkInfo → Bool) (l : List NetworkInfo) :
    (connecting p l).map NetworkInfo.id = l.map NetworkInfo.id := by
  rw [connecting, List.map_map]
  rfl

lemma connecting_eq_self_iff : connecting p l = l ↔ ∀ n ∈ l, n.connected = p n := by
  have hmap : connecting p l = l ↔
      l.map (fun n => { n with connected := p n }) = l.map fun n => n := by
    rw [connecting, List.map_id']
  rw [hmap, List.map_inj_left]
  refine forall₂_congr fun n _ => ?_
  cases n
  simp [eq_comm]

end list

/-- The networks of an interface, the first is preferred: as many as there is room for, and no id twice.
Source: `NetworkStore::networks`. -/
structure Networks (N : ℕ) where
  entries : List NetworkInfo
  length_le : entries.length ≤ N
  unique : KeysUnique NetworkInfo.id entries

namespace Networks

variable {N : ℕ}

lemma length_nil : ([] : List NetworkInfo).length ≤ N := Nat.zero_le N

/-- Source: Rust `heapless::Vec::new`. -/
def empty : Networks N := ⟨[], length_nil, KeysUnique.nil⟩

/-- There is room for a network that is not listed. -/
def Takes (l : Networks N) (info : NetworkInfo) : Prop :=
  l.entries.length < N ∧ l.entries.all (fun n => decide (n.id ≠ info.id)) = true

instance (l : Networks N) (info : NetworkInfo) : Decidable (l.Takes info) :=
  inferInstanceAs (Decidable (_ ∧ _))

variable {l : Networks N} {info : NetworkInfo} {id : List UInt8}

lemma length_push (h : l.Takes info) : (l.entries ++ [info]).length ≤ N := by
  rw [List.length_append]
  exact h.1

lemma unique_push (h : l.Takes info) : KeysUnique NetworkInfo.id (l.entries ++ [info]) := by
  refine l.unique.append_singleton fun n hn => ?_
  have hother := h.2
  rw [List.all_eq_true] at hother
  exact of_decide_eq_true (hother n hn)

/-- Source: Rust `heapless::Vec::push`, of a network that is not listed. -/
def push (l : Networks N) (info : NetworkInfo) : Option (Networks N) :=
  if h : l.Takes info then some ⟨l.entries ++ [info], length_push h, unique_push h⟩ else none

lemma length_eraseIdx (l : Networks N) (i : ℕ) : (l.entries.eraseIdx i).length ≤ N :=
  (l.entries.eraseIdx_sublist i).length_le.trans l.length_le

lemma unique_eraseIdx (l : Networks N) (i : ℕ) : KeysUnique NetworkInfo.id (l.entries.eraseIdx i) :=
  List.Nodup.sublist ((l.entries.eraseIdx_sublist i).map _) l.unique

/-- Source: Rust `heapless::Vec::remove`. -/
def removeAt (l : Networks N) (i : ℕ) : Networks N :=
  ⟨l.entries.eraseIdx i, l.length_eraseIdx i, l.unique_eraseIdx i⟩

lemma length_moved (l : Networks N) (i j : ℕ) : (moved l.entries i j).length ≤ N :=
  (moved_perm l.entries i j).length_eq.trans_le l.length_le

lemma unique_moved (l : Networks N) (i j : ℕ) : KeysUnique NetworkInfo.id (moved l.entries i j) :=
  l.unique.perm (moved_perm l.entries i j)

/-- Source: the `remove` and `insert` of `NetworkStore::reorder`. -/
def move (l : Networks N) (i j : ℕ) : Networks N :=
  ⟨moved l.entries i j, l.length_moved i j, l.unique_moved i j⟩

lemma length_connecting (l : Networks N) (p : NetworkInfo → Bool) :
    (connecting p l.entries).length ≤ N := by
  rw [connecting, List.length_map]
  exact l.length_le

lemma unique_connecting (l : Networks N) (p : NetworkInfo → Bool) :
    KeysUnique NetworkInfo.id (connecting p l.entries) := by
  rw [KeysUnique, map_id_connecting]
  exact l.unique

/-- Source: the loops of `NetworkStore::set_connected` and `NetworkStore::set_all_disconnected`. -/
def connect (l : Networks N) (p : NetworkInfo → Bool) : Networks N :=
  ⟨connecting p l.entries, l.length_connecting p, l.unique_connecting p⟩

/-- Source: `NetworkStore::position`. -/
def position (l : Networks N) (id : List UInt8) : Option ℕ :=
  l.entries.findIdx? fun n => decide (n.id = id)

lemma position_eq_none_iff : l.position id = none ↔ ∀ n ∈ l.entries, n.id ≠ id := by
  rw [position, List.findIdx?_eq_none_iff]
  exact forall₂_congr fun n _ => decide_eq_false_iff_not

lemma position_eq_some {i : ℕ} (h : l.position id = some i) :
    ∃ hi : i < l.entries.length, l.entries[i].id = id := by
  obtain ⟨hi, hid, -⟩ := List.findIdx?_eq_some_iff_getElem.mp h
  exact ⟨hi, of_decide_eq_true hid⟩

end Networks

/-! ### The store -/

/-- An interface's networks, and the networks it goes back to.
Source: `NetworkStore`. -/
structure NetworkStore (N : ℕ) where
  networks : Networks N
  saved : Option (Networks N) := none

namespace NetworkStore

variable {N : ℕ}

/-- Source: `NetworkStore::new`. -/
def new : NetworkStore N := { networks := .empty }

/-- Source: `NetworkStore::add_or_update`. -/
def addOrUpdate (s : NetworkStore N) (id : List UInt8) :
    Except NetworkStatus UInt8 × NetworkStore N :=
  match copyId id with
  | .error status => (.error status, s)
  | .ok id =>
    match s.networks.position id with
    | some index => (indexOf index, s)
    | none =>
      match s.networks.push { id := id } with
      | none => (.error .boundsExceeded, s)
      | some networks => (indexOf (networks.entries.length - 1), { s with networks := networks })

/-- Source: `NetworkStore::remove`. -/
def remove (s : NetworkStore N) (id : List UInt8) : Except NetworkStatus UInt8 × NetworkStore N :=
  match s.networks.position id with
  | none => (.error .networkIdNotFound, s)
  | some index => (indexOf index, { s with networks := s.networks.removeAt index })

/-- Source: `NetworkStore::reorder`. -/
def reorder (s : NetworkStore N) (id : List UInt8) (index : UInt8) :
    Except NetworkStatus UInt8 × NetworkStore N :=
  match s.networks.position id with
  | none => (.error .networkIdNotFound, s)
  | some old =>
    if s.networks.entries.length ≤ index.toNat then (.error .outOfRange, s)
    else if old = index.toNat then (.ok index, s)
    else (.ok index, { s with networks := s.networks.move old index.toNat })

/-- Source: `NetworkStore::set_connected`. -/
def setConnected (s : NetworkStore N) (id : List UInt8) : Except NetworkStatus Unit × NetworkStore N :=
  match s.networks.position id with
  | none => (.error .networkIdNotFound, s)
  | some _ => (.ok (), { s with networks := s.networks.connect fun n => decide (n.id = id) })

/-- Source: `NetworkStore::set_all_disconnected`. -/
def setAllDisconnected (s : NetworkStore N) : NetworkStore N :=
  { s with networks := s.networks.connect fun _ => false }

/-- Source: `NetworkStore::snapshot`. -/
def snapshot (s : NetworkStore N) : NetworkStore N := { s with saved := s.saved.or (some s.networks) }

/-- Source: `NetworkStore::restore`. -/
def restore (s : NetworkStore N) : NetworkStore N := ⟨s.saved.getD s.networks, none⟩

/-- Source: `NetworkStore::commit`. -/
def commit (s : NetworkStore N) : NetworkStore N := { s with saved := none }

end NetworkStore

/-! ### Thread datasets -/

/-- Source: the loop of `thread_extended_pan_id`. -/
def extendedPanIdFrom (dataset : List UInt8) : ℕ → ℕ → Option (List UInt8)
  | 0, _ => none
  | rounds + 1, pos => do
    let kind ← dataset[pos]?
    let short ← dataset[pos + 1]?
    let (header, len) ←
      if short = 0xFF then do
        let hi ← dataset[pos + 2]?
        let lo ← dataset[pos + 3]?
        pure (4, hi.toNat * 256 + lo.toNat)
      else pure (2, short.toNat)
    let stop := pos + header + len
    if dataset.length < stop then none
    else if kind = 2 then
      if len = 8 then some ((dataset.drop (pos + header)).take len) else none
    else if dataset.length ≤ stop then none
    else extendedPanIdFrom dataset rounds stop

/-- The Extended PAN ID of a Thread dataset, its first element of type 2; every round takes two octets
at least.
Source: `thread_extended_pan_id`. -/
def threadExtendedPanId (dataset : List UInt8) : Option (List UInt8) :=
  extendedPanIdFrom dataset (dataset.length + 1) 0

/-! ## The driver -/

/-- Source: `ConnectOutcome`. -/
structure ConnectOutcome where
  status : NetworkStatus
  errorValue : Option Int32 := none

/-- Source: `ConnectOutcome::failed`. -/
def ConnectOutcome.failed (status : NetworkStatus) : ConnectOutcome := { status := status }

/-- A driver that remembers the credentials it is given and takes, by network, until it is told to
forget them. How it answers is up to the radio, and comes with each command.
Source: `NetworkDriver` and `EthernetDriver`. -/
structure Radio where
  kind : NetworkKind
  credentials : List UInt8 → Option (List UInt8) := fun _ => none

namespace Radio

/-- Source: `NetworkDriver::add_or_update_wifi` and `NetworkDriver::add_or_update_thread`. -/
def remember (radio : Radio) (id credentials : List UInt8) (answer : NetworkStatus) : Radio :=
  if answer = .success then
    { radio with credentials := Function.update radio.credentials id (some credentials) }
  else radio

/-- The driver of a wire has nothing to forget.
Source: `NetworkDriver::forget`. -/
def forget (radio : Radio) (id : List UInt8) : Radio :=
  if radio.kind = .ethernet then radio
  else { radio with credentials := Function.update radio.credentials id none }

end Radio

/-! ## The cluster -/

/-- One instance of the cluster, for one interface.
Source: `NetworkCommissioning`. -/
structure NetworkCommissioning where
  driver : Radio
  capacity : ℕ
  store : NetworkStore capacity
  lastStatus : Option NetworkStatus := none
  lastNetworkId : Option (List UInt8) := none
  lastConnectError : Option Int32 := none

/-- A command of an instance, with the node's fail-safe beside it. -/
abbrev Networking (α : Type) := Machine (NetworkCommissioning × FailSafe) Status α

/-- Source: `write_config_response`. -/
def configResponse (status : NetworkStatus) (index : Option UInt8) : Response where
  id := 0x05
  write tag := do
    start tag .struct
    unsigned (.context 0) status.value.toUInt64
    match index with
    | some index => unsigned (.context 2) index.toUInt64
    | none => pure ()
    endContainer

/-- Source: `write_connect_response`. -/
def connectResponse (outcome : ConnectOutcome) : Response where
  id := 0x07
  write tag := do
    start tag .struct
    unsigned (.context 0) outcome.status.value.toUInt64
    match outcome.errorValue with
    | some value => signed (.context 2) value.toInt64
    | none => null (.context 2)
    endContainer

namespace NetworkCommissioning

/-- Source: `NetworkCommissioning::new`. -/
def new (driver : Radio) (N : ℕ) : NetworkCommissioning :=
  { driver := driver, capacity := N, store := .new }

/-- Source: `NetworkCommissioning::record_outcome`; an id that is too long for the attribute is not
kept. -/
def recordOutcome (nc : NetworkCommissioning) (status : NetworkStatus) (id : Option (List UInt8))
    (error : Option Int32) : NetworkCommissioning :=
  { nc with
    lastStatus := some status
    lastNetworkId :=
      match id with
      | some id => if id.length ≤ networkIdMax then some id else none
      | none => nc.lastNetworkId
    lastConnectError := error }

/-- Changes the instance. -/
def update (f : NetworkCommissioning → NetworkCommissioning) : Networking Unit :=
  modify fun s => (f s.1, s.2)

/-- Changes the list, and says what came of it. -/
def editing {α : Type} (f : ∀ {N : ℕ}, NetworkStore N → Except NetworkStatus α × NetworkStore N) :
    Networking (Except NetworkStatus α) := do
  let s ← get
  let (outcome, store) := f s.1.store
  set ({ s.1 with store := store }, s.2)
  pure outcome

/-- Source: `NetworkCommissioning::require_fail_safe`. -/
def requireFailSafe (now : Instant) : Networking Unit := do
  let s ← get
  require (s.2.isArmed now = true) .failsafeRequired

/-- The fail-safe says that the networks have been changed in this context. -/
def already (failSafe : FailSafe) (now : Instant) : Bool :=
  (failSafe.armedAt now).any fun armed => armed.progress.changedNetworks

/-- Source: `NetworkCommissioning::record_change`. -/
def recordChange (now : Instant) : Networking Unit :=
  modify fun s =>
    ({ s.1 with store := if already s.2 now then s.1.store else s.1.store.snapshot },
      (s.2.record now fun p => { p with changedNetworks := true }).2)

/-- Source: `NetworkCommissioning::set_breadcrumb`. -/
def setBreadcrumb (breadcrumb : Option UInt64) (status : NetworkStatus) : Networking Unit :=
  modify fun s =>
    (s.1, if status.isSuccess then { s.2 with breadcrumb := breadcrumb.getD s.2.breadcrumb } else s.2)

/-- Source: the head of `NetworkCommissioning::finish_config`. -/
def configStatus : Except NetworkStatus UInt8 → NetworkStatus × Option UInt8
  | .ok index => (.success, some index)
  | .error status => (status, none)

/-- Source: `NetworkCommissioning::finish_config`. -/
def finishConfig (outcome : Except NetworkStatus UInt8) (id : List UInt8)
    (breadcrumb : Option UInt64) : Networking Response := do
  update fun nc => nc.recordOutcome (configStatus outcome).1 (some id) none
  setBreadcrumb breadcrumb (configStatus outcome).1
  pure (configResponse (configStatus outcome).1 (configStatus outcome).2)

/-- The driver is given a network's credentials, and lists the network if it takes them.
Source: the `match` of `NetworkCommissioning::add_or_update_wifi` and `add_or_update_thread`. -/
def listTaken (id credentials : List UInt8) (breadcrumb : Option UInt64) (answer : NetworkStatus) :
    Networking Response := do
  update fun nc => { nc with driver := nc.driver.remember id credentials answer }
  let outcome ←
    if answer = .success then editing fun store => store.addOrUpdate id else pure (.error answer)
  finishConfig outcome id breadcrumb

/-- Source: `NetworkCommissioning::add_or_update_wifi`; `answer` is the driver's. -/
def addOrUpdateWifi (ssid credentials : List UInt8) (breadcrumb : Option UInt64)
    (answer : NetworkStatus) (now : Instant) : Networking Response := do
  requireFailSafe now
  let s ← get
  require (s.1.driver.kind = .wiFi) .unsupportedCommand
  recordChange now
  listTaken ssid credentials breadcrumb answer

/-- Source: `NetworkCommissioning::add_or_update_thread`; `answer` is the driver's. -/
def addOrUpdateThread (dataset : List UInt8) (breadcrumb : Option UInt64) (answer : NetworkStatus)
    (now : Instant) : Networking Response := do
  requireFailSafe now
  let s ← get
  require (s.1.driver.kind = .thread) .unsupportedCommand
  recordChange now
  match threadExtendedPanId dataset with
  | none => do
    update fun nc => nc.recordOutcome .outOfRange none none
    pure (configResponse .outOfRange none)
  | some xpan => listTaken xpan dataset breadcrumb answer

/-- A network is taken from the list, and forgotten by the driver.
Source: `NetworkCommissioning::remove_network`, after `record_change`. -/
def removeListed (id : List UInt8) (breadcrumb : Option UInt64) : Networking Response := do
  let outcome ← editing fun store => store.remove id
  if outcome.isOk then update fun nc => { nc with driver := nc.driver.forget id }
  finishConfig outcome id breadcrumb

/-- Source: `NetworkCommissioning::remove_network`. -/
def removeNetwork (id : List UInt8) (breadcrumb : Option UInt64) (now : Instant) :
    Networking Response := do
  requireFailSafe now
  recordChange now
  removeListed id breadcrumb

/-- A network gets another place in the list.
Source: `NetworkCommissioning::reorder_network`, after `record_change`. -/
def reorderListed (id : List UInt8) (index : UInt8) (breadcrumb : Option UInt64) :
    Networking Response := do
  let outcome ← editing fun store => store.reorder id index
  finishConfig outcome id breadcrumb

/-- Source: `NetworkCommissioning::reorder_network`. -/
def reorderNetwork (id : List UInt8) (index : UInt8) (breadcrumb : Option UInt64) (now : Instant) :
    Networking Response := do
  requireFailSafe now
  recordChange now
  reorderListed id index breadcrumb

/-- The list after an attempt to connect.
Source: the block of `NetworkCommissioning::connect_network` after `driver.connect`. -/
def connected {N : ℕ} (store : NetworkStore N) (id : List UInt8) (outcome : ConnectOutcome) :
    NetworkStore N :=
  if outcome.status.isSuccess then (store.setConnected id).2 else store.setAllDisconnected

/-- A listed network is connected to, or not.
Source: `NetworkCommissioning::connect_network`, after `record_change`. -/
def connectListed (id : List UInt8) (breadcrumb : Option UInt64) (outcome : ConnectOutcome) :
    Networking Response := do
  let s ← get
  if s.1.store.networks.position id = none then do
    update fun nc => nc.recordOutcome .networkIdNotFound (some id) none
    pure (connectResponse (.failed .networkIdNotFound))
  else do
    update fun nc => { nc with store := connected nc.store id outcome }
    update fun nc => nc.recordOutcome outcome.status (some id) outcome.errorValue
    setBreadcrumb breadcrumb outcome.status
    pure (connectResponse outcome)

/-- Source: `NetworkCommissioning::connect_network`; `outcome` is what the driver's `connect` gives. -/
def connectNetwork (id : List UInt8) (breadcrumb : Option UInt64) (outcome : ConnectOutcome)
    (now : Instant) : Networking Response := do
  requireFailSafe now
  recordChange now
  connectListed id breadcrumb outcome

end NetworkCommissioning

/-- A command as it arrives, its fields read, with what the driver will answer. -/
inductive NetworkCommand
  | addOrUpdateWifi (ssid credentials : List UInt8) (breadcrumb : Option UInt64)
      (answer : NetworkStatus)
  | addOrUpdateThread (dataset : List UInt8) (breadcrumb : Option UInt64) (answer : NetworkStatus)
  | removeNetwork (id : List UInt8) (breadcrumb : Option UInt64)
  | reorderNetwork (id : List UInt8) (index : UInt8) (breadcrumb : Option UInt64)
  | connectNetwork (id : List UInt8) (breadcrumb : Option UInt64) (outcome : ConnectOutcome)

namespace NetworkCommissioning

/-- Source: `NetworkCommissioning::invoke`, once the fields are read. -/
def perform (command : NetworkCommand) (now : Instant) : Networking Response :=
  match command with
  | .addOrUpdateWifi ssid credentials breadcrumb answer =>
    addOrUpdateWifi ssid credentials breadcrumb answer now
  | .addOrUpdateThread dataset breadcrumb answer => addOrUpdateThread dataset breadcrumb answer now
  | .removeNetwork id breadcrumb => removeNetwork id breadcrumb now
  | .reorderNetwork id index breadcrumb => reorderNetwork id index breadcrumb now
  | .connectNetwork id breadcrumb outcome => connectNetwork id breadcrumb outcome now

end NetworkCommissioning

/-- What happens to the node that its clusters are told of.
Source: `im/server.rs`, `Lifecycle`. -/
inductive Lifecycle
  | fabricRemoved (fabric : FabricIndex)
  | failSafeExpired (fabric : Option FabricIndex)
  | commissioningComplete (fabric : FabricIndex)
  deriving DecidableEq

/-- Source: `NetworkCommissioning::on_lifecycle`, with `on_fail_safe_expired` and
`on_commissioning_complete`. -/
def NetworkCommissioning.onLifecycle (nc : NetworkCommissioning) : Lifecycle → NetworkCommissioning
  | .failSafeExpired _ => { nc with store := nc.store.restore }
  | .commissioningComplete _ => { nc with store := nc.store.commit }
  | .fabricRemoved _ => nc

end MatterKit.Clusters
