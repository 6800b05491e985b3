import MatterKit.Clusters.NetworkCommissioning

/-!
# What a command does to an interface

Five commands change the networks of an interface. Each of them is followed to the driver and the store
it leaves (`Leaves`), and from there to what it means for the interface (`Effect`): whether the list is
another one, whether a snapshot has been taken, and what the driver knows now. `perform_effect` says this
of every command that runs. All that is said of whole runs in `Clusters/NetworkRollback.lean` follows
from it.
-/

namespace MatterKit.Clusters

open Lib Machine Dm Im Commissioning

/-! ## What a command is about to do -/

namespace NetworkCommissioning

/-- The list as it is. -/
def entries (nc : NetworkCommissioning) : List NetworkInfo := nc.store.networks.entries

/-- The snapshot. -/
def savedEntries (nc : NetworkCommissioning) : Option (List NetworkInfo) :=
  nc.store.saved.map Networks.entries

/-- The list that an expired fail-safe would leave. -/
def goesBackTo (nc : NetworkCommissioning) : List NetworkInfo := nc.savedEntries.getD nc.entries

/-- An id that is not listed would be. -/
def lists (nc : NetworkCommissioning) (id : List UInt8) : Bool :=
  (copyId id).isOk && (nc.store.networks.position id).isNone &&
    decide (nc.entries.length < nc.capacity)

/-- The driver is an interface's that has credentials. -/
def keepsCredentials (nc : NetworkCommissioning) : Bool := decide (nc.driver.kind ≠ .ethernet)

end NetworkCommissioning

namespace NetworkCommand

/-- The command is one that this kind of interface has. -/
def fits : NetworkCommand → NetworkKind → Bool
  | .addOrUpdateWifi _ _ _ _, kind => decide (kind = .wiFi)
  | .addOrUpdateThread _ _ _, kind => decide (kind = .thread)
  | .removeNetwork _ _, _ => true
  | .reorderNetwork _ _ _, _ => true
  | .connectNetwork _ _ _, _ => true

/-- The credentials for a network that the driver is given and takes. -/
def given (command : NetworkCommand) (nc : NetworkCommissioning) (id : List UInt8) :
    Option (List UInt8) :=
  match command with
  | .addOrUpdateWifi ssid credentials _ answer =>
    if nc.driver.kind = .wiFi ∧ answer = .success ∧ ssid = id then some credentials else none
  | .addOrUpdateThread dataset _ answer =>
    if nc.driver.kind = .thread ∧ answer = .success ∧ threadExtendedPanId dataset = some id then
      some dataset
    else none
  | _ => none

/-- The driver is told to forget a network. -/
def forgets (command : NetworkCommand) (nc : NetworkCommissioning) (id : List UInt8) : Bool :=
  match command with
  | .removeNetwork named _ =>
    decide (named = id) && nc.keepsCredentials &&
      (nc.store.networks.position named).any fun index => decide (index < 256)
  | _ => false

/-- The command changes the list. -/
def changes (command : NetworkCommand) (nc : NetworkCommissioning) : Bool :=
  match command with
  | .addOrUpdateWifi ssid _ _ answer =>
    decide (nc.driver.kind = .wiFi) && decide (answer = .success) && nc.lists ssid
  | .addOrUpdateThread dataset _ answer =>
    decide (nc.driver.kind = .thread) && decide (answer = .success) &&
      (threadExtendedPanId dataset).any nc.lists
  | .removeNetwork id _ => (nc.store.networks.position id).isSome
  | .reorderNetwork id index _ =>
    (nc.store.networks.position id).any fun old =>
      decide (index.toNat < nc.entries.length) && decide (old ≠ index.toNat)
  | .connectNetwork id _ outcome =>
    (nc.store.networks.position id).isSome && nc.entries.any fun n =>
        decide (n.connected ≠ (outcome.status.isSuccess && decide (n.id = id)))

end NetworkCommand

/-! ## The store -/

namespace NetworkStore

variable {N : ℕ} (s : NetworkStore N) (id : List UInt8)

/-- What an operation of the store leaves alone. -/
lemma saved_addOrUpdate : (s.addOrUpdate id).2.saved = s.saved := by
  rw [addOrUpdate]
  repeat' split
  all_goals rfl

lemma saved_remove : (s.remove id).2.saved = s.saved := by
  rw [remove]
  split
  · rfl
  · rfl

lemma saved_reorder (index : UInt8) : (s.reorder id index).2.saved = s.saved := by
  rw [reorder]
  repeat' split
  all_goals rfl

lemma saved_setConnected : (s.setConnected id).2.saved = s.saved := by
  rw [setConnected]
  split
  · rfl
  · rfl

/-- A network is listed when its id is good, not listed yet, and there is room. -/
lemma entries_addOrUpdate_eq_iff : (s.addOrUpdate id).2.networks.entries = s.networks.entries ↔
      ¬ ((copyId id).isOk = true ∧ s.networks.position id = none ∧ s.networks.entries.length < N) := by
  rw [addOrUpdate]
  by_cases hid : id.isEmpty ∨ id.length > networkIdMax
  · have hcopy : copyId id = .error .outOfRange := if_pos hid
    rw [hcopy]
    exact iff_of_true rfl fun h => Bool.false_ne_true h.1
  · have hcopy : copyId id = .ok id := if_neg hid
    rw [hcopy]
    dsimp only
    cases hposition : s.networks.position id with
    | some index => exact iff_of_true rfl fun h => Option.some_ne_none index h.2.1
    | none =>
      have habsent : s.networks.entries.all (fun n => decide (n.id ≠ id)) = true := by
        rw [List.all_eq_true]
        exact fun n hn => decide_eq_true (Networks.position_eq_none_iff.mp hposition n hn)
      by_cases hroom : s.networks.entries.length < N
      · have hpush : s.networks.push { id := id } = some _ := dif_pos ⟨hroom, habsent⟩
        rw [hpush]
        refine iff_of_false ?_ fun h => h ⟨rfl, rfl, hroom⟩
        intro heq
        have hlength := congrArg List.length heq
        simp at hlength
      · have hpush : s.networks.push { id := id } = none := dif_neg fun h => hroom h.1
        rw [hpush]
        exact iff_of_true rfl fun h => hroom h.2.2

lemma entries_remove_eq_iff : (s.remove id).2.networks.entries = s.networks.entries ↔
      s.networks.position id = none := by
  rw [remove]
  cases hposition : s.networks.position id with
  | none => exact iff_of_true rfl rfl
  | some index =>
    obtain ⟨hindex, -⟩ := Networks.position_eq_some hposition
    refine iff_of_false ?_ (Option.some_ne_none index)
    intro heq
    have hlength := congrArg List.length heq
    have hshorter := List.length_eraseIdx_of_lt hindex
    have hfewer : s.networks.entries.length - 1 = s.networks.entries.length :=
      hshorter.symm.trans hlength
    omega

lemma entries_reorder_eq_iff (index : UInt8) :
    (s.reorder id index).2.networks.entries = s.networks.entries ↔
      ¬ ∃ old, s.networks.position id = some old ∧ index.toNat < s.networks.entries.length ∧
        old ≠ index.toNat := by
  rw [reorder]
  cases hposition : s.networks.position id with
  | none => exact iff_of_true rfl fun ⟨old, h, _⟩ => Option.some_ne_none old h.symm
  | some old =>
    obtain ⟨hold, -⟩ := Networks.position_eq_some hposition
    dsimp only
    by_cases hroom : s.networks.entries.length ≤ index.toNat
    · rw [if_pos hroom]
      exact iff_of_true rfl fun ⟨_, _, hlt, _⟩ => absurd hlt (not_lt.mpr hroom)
    · rw [if_neg hroom]
      by_cases hsame : old = index.toNat
      · rw [if_pos hsame]
        exact iff_of_true rfl fun ⟨_, hother, _, hne⟩ => hne (Option.some.inj hother ▸ hsame)
      · rw [if_neg hsame]
        refine iff_of_false ?_ fun h => h ⟨old, rfl, not_le.mp hroom, hsame⟩
        intro heq
        have hmoved : moved s.networks.entries old index.toNat = s.networks.entries := heq
        have hentry := getElem?_moved hold (not_le.mp hroom)
        rw [hmoved] at hentry
        have hnodup : s.networks.entries.Nodup := List.Nodup.of_map _ s.networks.unique
        exact hsame ((List.getElem?_inj hold hnodup).mp hentry.symm)

lemma entries_connected_eq_iff (outcome : ConnectOutcome) (hlisted : s.networks.position id ≠ none) :
    (NetworkCommissioning.connected s id outcome).networks.entries = s.networks.entries ↔
      ∀ n ∈ s.networks.entries, n.connected = (outcome.status.isSuccess && decide (n.id = id)) := by
  obtain ⟨index, hposition⟩ := Option.ne_none_iff_exists'.mp hlisted
  rw [NetworkCommissioning.connected]
  cases outcome.status.isSuccess with
  | true =>
    have hset : (s.setConnected id).2.networks.entries =
        connecting (fun n => decide (n.id = id)) s.networks.entries := by
      rw [setConnected, hposition]
      rfl
    exact (Eq.congr_left hset).trans connecting_eq_self_iff
  | false => exact connecting_eq_self_iff

lemma saved_connected (outcome : ConnectOutcome) :
    (NetworkCommissioning.connected s id outcome).saved = s.saved := by
  rw [NetworkCommissioning.connected]
  split_ifs
  · exact s.saved_setConnected id
  · rfl

variable {n : NetworkInfo}

/-- Connecting leaves the ids as they are. -/
lemma mem_connected {outcome : ConnectOutcome}
    (h : n ∈ (NetworkCommissioning.connected s id outcome).networks.entries) :
    ∃ m ∈ s.networks.entries, m.id = n.id := by
  have hids : (NetworkCommissioning.connected s id outcome).networks.entries.map NetworkInfo.id =
      s.networks.entries.map NetworkInfo.id := by
    rw [NetworkCommissioning.connected]
    split_ifs
    · rw [setConnected]
      split
      · rfl
      · exact map_id_connecting _ _
    · exact map_id_connecting _ _
  have hmem : n.id ∈ List.map NetworkInfo.id _ := List.mem_map_of_mem h
  rw [hids] at hmem
  exact List.mem_map.mp hmem

/-- Only the network that is added comes to the list. -/
lemma mem_addOrUpdate (h : n ∈ (s.addOrUpdate id).2.networks.entries) :
    n ∈ s.networks.entries ∨ n.id = id := by
  rw [addOrUpdate] at h
  by_cases hid : id.isEmpty ∨ id.length > networkIdMax
  · have hcopy : copyId id = .error .outOfRange := if_pos hid
    rw [hcopy] at h
    exact .inl h
  · have hcopy : copyId id = .ok id := if_neg hid
    rw [hcopy] at h
    dsimp only at h
    cases hposition : s.networks.position id with
    | some index =>
      rw [hposition] at h
      exact .inl h
    | none =>
      rw [hposition] at h
      by_cases htakes : s.networks.Takes { id := id }
      · have hpush : s.networks.push { id := id } = some _ := dif_pos htakes
        rw [hpush] at h
        rcases List.mem_append.mp h with h | h
        · exact .inl h
        · exact .inr (congrArg NetworkInfo.id (List.mem_singleton.mp h))
      · have hpush : s.networks.push { id := id } = none := dif_neg htakes
        rw [hpush] at h
        exact .inl h

/-- A network that is removed is no longer listed. -/
lemma mem_remove (h : n ∈ (s.remove id).2.networks.entries) : n ∈ s.networks.entries ∧ n.id ≠ id := by
  rw [remove] at h
  cases hposition : s.networks.position id with
  | none =>
    rw [hposition] at h
    exact ⟨h, Networks.position_eq_none_iff.mp hposition n h⟩
  | some index =>
    rw [hposition] at h
    have hmem : n ∈ s.networks.entries.eraseIdx index := h
    refine ⟨List.mem_of_mem_eraseIdx hmem, ?_⟩
    intro hid
    obtain ⟨hindex, hthere⟩ := Networks.position_eq_some hposition
    have hnodup : s.networks.entries.Nodup := List.Nodup.of_map _ s.networks.unique
    have hsame : n = s.networks.entries[index] :=
      s.networks.unique.eq_of_key_eq (List.mem_of_mem_eraseIdx hmem) (List.getElem_mem hindex)
        (hid.trans hthere.symm)
    obtain ⟨other, hother, hentry⟩ := List.mem_eraseIdx_iff_getElem?.mp hmem
    have hplace : s.networks.entries[index]? = some n := by
      rw [List.getElem?_eq_getElem hindex, hsame]
    exact hother ((List.getElem?_inj hindex hnodup).mp (hplace.trans hentry.symm)).symm

lemma mem_reorder {index : UInt8} (h : n ∈ (s.reorder id index).2.networks.entries) :
    n ∈ s.networks.entries := by
  rw [reorder] at h
  cases hposition : s.networks.position id with
  | none =>
    rw [hposition] at h
    exact h
  | some old =>
    rw [hposition] at h
    dsimp only at h
    split_ifs at h
    · exact h
    · exact h
    · exact (moved_perm _ _ _).mem_iff.mp h

end NetworkStore

/-! ## The state a command leaves -/

namespace NetworkCommissioning

variable {nc : NetworkCommissioning} {fs : FailSafe} {armed : Armed} {now : Instant}

/-- A command ends in this driver and this store, with an outcome recorded and perhaps a breadcrumb
set. -/
def Leaves (x : Networking Response) (nc : NetworkCommissioning) (fs : FailSafe) (driver : Radio)
    (store : NetworkStore nc.capacity) : Prop :=
  ∃ status id error breadcrumb, (exec x (nc, fs)).2 =
    (recordOutcome { nc with driver := driver, store := store } status id error,
      { fs with breadcrumb := breadcrumb })

lemma exec_requireFailSafe_of_live (h : fs.armedAt now = some armed) :
    exec (requireFailSafe now) (nc, fs) = (.ok (), (nc, fs)) := by
  rw [requireFailSafe, exec_get_bind]
  exact exec_require_of (FailSafe.isArmed_iff.mpr ⟨armed, h⟩) _ _

/-- The fail-safe after the networks have been changed in its context. -/
def changing (fs : FailSafe) (armed : Armed) : FailSafe :=
  { fs with
    armed := some { armed with progress := { armed.progress with changedNetworks := true } } }

/-- The store after the command has looked for a snapshot; `already` is the fail-safe's flag. -/
def noted (already : Bool) (nc : NetworkCommissioning) : NetworkStore nc.capacity :=
  if already then nc.store else nc.store.snapshot

lemma exec_recordChange_of_live (h : fs.armedAt now = some armed) : exec (recordChange now) (nc, fs) =
      (.ok (), ({ nc with store := noted armed.progress.changedNetworks nc }, changing fs armed)) := by
  have halready : already fs now = armed.progress.changedNetworks := by
    rw [already, h]
    rfl
  rw [recordChange, exec_modify, halready, FailSafe.record, FailSafe.updateLive_of_live h]
  rfl

lemma exec_update (f : NetworkCommissioning → NetworkCommissioning) :
    exec (update f) (nc, fs) = (.ok (), (f nc, fs)) := rfl

lemma exec_editing {α : Type} (f : ∀ {N : ℕ}, NetworkStore N → Except NetworkStatus α × NetworkStore N) :
    exec (editing f) (nc, fs) = (.ok (f nc.store).1, ({ nc with store := (f nc.store).2 }, fs)) := rfl

lemma exec_setBreadcrumb (nc : NetworkCommissioning) (fs : FailSafe) (breadcrumb : Option UInt64)
    (status : NetworkStatus) : ∃ value, exec (setBreadcrumb breadcrumb status) (nc, fs) =
      (.ok (), (nc, { fs with breadcrumb := value })) := by
  rw [setBreadcrumb, exec_modify]
  cases status.isSuccess with
  | true => exact ⟨breadcrumb.getD fs.breadcrumb, rfl⟩
  | false => exact ⟨fs.breadcrumb, rfl⟩

lemma leaves_finishConfig (nc : NetworkCommissioning) (fs : FailSafe)
    (outcome : Except NetworkStatus UInt8) (id : List UInt8) (breadcrumb : Option UInt64) :
    Leaves (finishConfig outcome id breadcrumb) nc fs nc.driver nc.store := by
  obtain ⟨value, hbreadcrumb⟩ := exec_setBreadcrumb
    (nc.recordOutcome (configStatus outcome).1 (some id) none) fs breadcrumb
    (configStatus outcome).1
  refine ⟨(configStatus outcome).1, some id, none, value, ?_⟩
  rw [finishConfig, exec_bind_ok (exec_update _), exec_bind_ok hbreadcrumb, exec_pure]

lemma leaves_listTaken (nc : NetworkCommissioning) (fs : FailSafe) (id credentials : List UInt8)
    (breadcrumb : Option UInt64) (answer : NetworkStatus) :
    Leaves (listTaken id credentials breadcrumb answer) nc fs (nc.driver.remember id credentials answer)
      (if answer = .success then (nc.store.addOrUpdate id).2 else nc.store) := by
  by_cases hanswer : answer = .success
  · obtain ⟨status, id', error, value, hfinish⟩ := leaves_finishConfig
      { nc with
        driver := nc.driver.remember id credentials answer
        store := (nc.store.addOrUpdate id).2 } fs
      (nc.store.addOrUpdate id).1 id breadcrumb
    refine ⟨status, id', error, value, ?_⟩
    rw [listTaken, exec_bind_ok (exec_update _), if_pos hanswer, if_pos hanswer,
      exec_bind_ok (exec_editing _)]
    exact hfinish
  · obtain ⟨status, id', error, value, hfinish⟩ := leaves_finishConfig
      { nc with driver := nc.driver.remember id credentials answer } fs
      (.error answer) id breadcrumb
    refine ⟨status, id', error, value, ?_⟩
    rw [listTaken, exec_bind_ok (exec_update _), if_neg hanswer, if_neg hanswer,
      exec_bind_ok (exec_pure _ _)]
    exact hfinish

/-- What a command makes of an instance. -/
structure Effect (command : NetworkCommand) (already : Bool) (nc nc' : NetworkCommissioning) :
    Prop where
  kind : nc'.driver.kind = nc.driver.kind
  credentials : ∀ id, nc'.driver.credentials id =
    if command.forgets nc id then none else (command.given nc id).or (nc.driver.credentials id)
  saved : nc'.savedEntries = if already then nc.savedEntries else nc.savedEntries.or (some nc.entries)
  entries : nc'.entries = nc.entries ↔ command.changes nc = false
  listed : ∀ n ∈ nc'.entries, (command.given nc n.id).isSome = true ∨
    (∃ m ∈ nc.entries, m.id = n.id) ∧ command.forgets nc n.id = false

lemma networks_noted (already : Bool) (nc : NetworkCommissioning) :
    (noted already nc).networks = nc.store.networks := by
  cases already with
  | true => rfl
  | false => rfl

lemma saved_noted (already : Bool) (nc : NetworkCommissioning) :
    (noted already nc).saved.map Networks.entries =
      if already then nc.savedEntries else nc.savedEntries.or (some nc.entries) := by
  cases already with
  | true => rfl
  | false =>
    show (nc.store.saved.or (some nc.store.networks)).map Networks.entries = _
    rw [savedEntries]
    cases nc.store.saved with
    | none => rfl
    | some saved => rfl

variable {x : Networking Response} {already : Bool} {command : NetworkCommand}

/-- The effect of a command is that on the driver and on the store. -/
lemma Leaves.effect {driver : Radio} {store : NetworkStore nc.capacity}
    (hleaves : Leaves x { nc with store := noted already nc } fs driver store)
    (hkind : driver.kind = nc.driver.kind) (hcredentials : ∀ id, driver.credentials id =
      if command.forgets nc id then none else (command.given nc id).or (nc.driver.credentials id))
    (hsaved : store.saved = (noted already nc).saved)
    (hentries : store.networks.entries = nc.entries ↔ command.changes nc = false)
    (hlisted : ∀ n ∈ store.networks.entries, (command.given nc n.id).isSome = true ∨
      (∃ m ∈ nc.entries, m.id = n.id) ∧ command.forgets nc n.id = false) :
    Effect command already nc (exec x ({ nc with store := noted already nc }, fs)).2.1 ∧
      (exec x ({ nc with store := noted already nc }, fs)).2.2.armed = fs.armed := by
  obtain ⟨status, id, error, value, hafter⟩ := hleaves
  rw [hafter]
  refine ⟨⟨hkind, hcredentials, ?_, hentries, hlisted⟩, rfl⟩
  exact (congrArg (Option.map Networks.entries) hsaved).trans (saved_noted already nc)

lemma kind_remember (radio : Radio) (id credentials : List UInt8) (answer : NetworkStatus) :
    (radio.remember id credentials answer).kind = radio.kind := by
  rw [Radio.remember]
  split_ifs
  · rfl
  · rfl

lemma credentials_remember (radio : Radio) (id credentials : List UInt8) (answer : NetworkStatus)
    (other : List UInt8) : (radio.remember id credentials answer).credentials other =
      if answer = .success ∧ id = other then some credentials else radio.credentials other := by
  rw [Radio.remember]
  by_cases hanswer : answer = .success
  · rw [if_pos hanswer]
    by_cases hid : id = other
    · rw [if_pos ⟨hanswer, hid⟩, ← hid]
      exact Function.update_self _ _ _
    · rw [if_neg fun h => hid h.2]
      exact Function.update_of_ne (Ne.symm hid) _ _
  · rw [if_neg hanswer, if_neg fun h => hanswer h.1]

/-- Handing credentials to the driver, and listing the network if it takes them. -/
lemma effect_listTaken {id credentials : List UInt8} {answer : NetworkStatus} (already : Bool)
    (nc : NetworkCommissioning) (fs : FailSafe) (breadcrumb : Option UInt64)
    (hgiven : ∀ other, command.given nc other =
      if answer = .success ∧ id = other then some credentials else none)
    (hforgets : ∀ other, command.forgets nc other = false)
    (hchanges : command.changes nc = (decide (answer = .success) && nc.lists id)) :
    let after := exec (listTaken id credentials breadcrumb answer)
      ({ nc with store := noted already nc }, fs)
    Effect command already nc after.2.1 ∧ after.2.2.armed = fs.armed := by
  have hleaves := leaves_listTaken { nc with store := noted already nc } fs id credentials breadcrumb
    answer
  have hnetworks := networks_noted already nc
  refine hleaves.effect (kind_remember _ _ _ _) ?_ ?_ ?_ ?_
  · intro other
    rw [hforgets, credentials_remember, hgiven, if_neg Bool.false_ne_true]
    split_ifs
    · rfl
    · rfl
  · split_ifs
    · exact NetworkStore.saved_addOrUpdate _ _
    · rfl
  · rw [hchanges]
    by_cases hanswer : answer = .success
    · rw [if_pos hanswer, decide_eq_true hanswer, Bool.true_and, entries, ← hnetworks,
        NetworkStore.entries_addOrUpdate_eq_iff, hnetworks, lists, ← Bool.not_eq_true,
        Bool.and_eq_true, Bool.and_eq_true, decide_eq_true_iff, Option.isNone_iff_eq_none, entries]
      tauto
    · rw [if_neg hanswer, decide_eq_false hanswer, Bool.false_and, hnetworks]
      exact iff_of_true rfl rfl
  · intro n hn
    by_cases hanswer : answer = .success
    · rw [if_pos hanswer] at hn
      rcases NetworkStore.mem_addOrUpdate _ _ hn with hn | hn
      · rw [hnetworks] at hn
        exact .inr ⟨⟨n, hn, rfl⟩, hforgets _⟩
      · refine .inl ?_
        rw [hgiven, if_pos ⟨hanswer, hn.symm⟩]
        rfl
    · rw [if_neg hanswer, hnetworks] at hn
      exact .inr ⟨⟨n, hn, rfl⟩, hforgets _⟩

/-- A command that touches neither the driver nor the list. -/
lemma effect_of_same
    (hleaves : Leaves x { nc with store := noted already nc } fs nc.driver (noted already nc))
    (hgiven : ∀ other, command.given nc other = none)
    (hforgets : ∀ other, command.forgets nc other = false) (hchanges : command.changes nc = false) :
    let after := exec x ({ nc with store := noted already nc }, fs)
    Effect command already nc after.2.1 ∧ after.2.2.armed = fs.armed := by
  have hnetworks := networks_noted already nc
  refine hleaves.effect rfl ?_ rfl ?_ ?_
  · intro other
    rw [hforgets, hgiven, if_neg Bool.false_ne_true]
    rfl
  · rw [hnetworks]
    exact iff_of_true rfl hchanges
  · intro n hn
    rw [hnetworks] at hn
    exact .inr ⟨⟨n, hn, rfl⟩, hforgets _⟩

lemma effect_addOrUpdateWifi (h : fs.armedAt now = some armed) (hkind : nc.driver.kind = .wiFi)
    (ssid credentials : List UInt8) (breadcrumb : Option UInt64) (answer : NetworkStatus) :
    let after := exec (addOrUpdateWifi ssid credentials breadcrumb answer now) (nc, fs)
    Effect (.addOrUpdateWifi ssid credentials breadcrumb answer) armed.progress.changedNetworks nc
      after.2.1 ∧ after.2.2.armed = (changing fs armed).armed := by
  rw [addOrUpdateWifi, exec_bind_ok (exec_requireFailSafe_of_live h), exec_get_bind,
    exec_require_bind hkind, exec_bind_ok (exec_recordChange_of_live h)]
  refine effect_listTaken _ nc _ breadcrumb ?_ (fun _ => rfl) ?_
  · intro other
    rw [NetworkCommand.given, hkind]
    simp
  · rw [NetworkCommand.changes, hkind]
    simp

lemma effect_addOrUpdateThread (h : fs.armedAt now = some armed) (hkind : nc.driver.kind = .thread)
    (dataset : List UInt8) (breadcrumb : Option UInt64) (answer : NetworkStatus) :
    let after := exec (addOrUpdateThread dataset breadcrumb answer now) (nc, fs)
    Effect (.addOrUpdateThread dataset breadcrumb answer) armed.progress.changedNetworks nc
      after.2.1 ∧ after.2.2.armed = (changing fs armed).armed := by
  rw [addOrUpdateThread, exec_bind_ok (exec_requireFailSafe_of_live h),
    exec_get_bind, exec_require_bind hkind,
    exec_bind_ok (exec_recordChange_of_live h)]
  cases hxpan : threadExtendedPanId dataset with
  | none =>
    refine effect_of_same ⟨.outOfRange, none, none, (changing fs armed).breadcrumb, rfl⟩ ?_
      (fun _ => rfl) ?_
    · intro other
      rw [NetworkCommand.given, hxpan]
      simp
    · rw [NetworkCommand.changes, hxpan]
      simp
  | some xpan =>
    refine effect_listTaken _ nc _ breadcrumb ?_ (fun _ => rfl) ?_
    · intro other
      rw [NetworkCommand.given, hkind, hxpan]
      simp
    · rw [NetworkCommand.changes, hkind, hxpan]
      simp

lemma isOk_remove {N : ℕ} (store : NetworkStore N) (id : List UInt8) :
    (store.remove id).1.isOk = (store.networks.position id).any fun index => decide (index < 256) := by
  rw [NetworkStore.remove]
  cases store.networks.position id with
  | none => rfl
  | some index =>
    show (indexOf index).isOk = decide (index < 256)
    rw [indexOf]
    split_ifs with hindex
    · exact (decide_eq_true hindex).symm
    · exact (decide_eq_false hindex).symm

lemma credentials_forget (radio : Radio) (id other : List UInt8) : (radio.forget id).credentials other =
      if radio.kind ≠ .ethernet ∧ id = other then none else radio.credentials other := by
  rw [Radio.forget]
  by_cases hkind : radio.kind = .ethernet
  · rw [if_pos hkind, if_neg fun h => h.1 hkind]
  · rw [if_neg hkind]
    by_cases hid : id = other
    · rw [if_pos ⟨hkind, hid⟩, ← hid]
      exact Function.update_self _ _ _
    · rw [if_neg fun h => hid h.2]
      exact Function.update_of_ne (Ne.symm hid) _ _

lemma kind_forget (radio : Radio) (id : List UInt8) : (radio.forget id).kind = radio.kind := by
  rw [Radio.forget]
  split_ifs
  · rfl
  · rfl

/-- The driver of an instance that a network is removed from. -/
def forgetting (already : Bool) (nc : NetworkCommissioning) (id : List UInt8) : Radio :=
  if ((noted already nc).remove id).1.isOk then nc.driver.forget id else nc.driver

lemma leaves_removeListed (already : Bool) (nc : NetworkCommissioning) (fs : FailSafe)
    (id : List UInt8) (breadcrumb : Option UInt64) :
    Leaves (removeListed id breadcrumb) { nc with store := noted already nc } fs
      (forgetting already nc id) ((noted already nc).remove id).2 := by
  rw [forgetting, Leaves, removeListed, exec_bind_ok (exec_editing _)]
  cases hisOk : ((noted already nc).remove id).1.isOk with
  | true =>
    rw [if_pos rfl, if_pos rfl, exec_bind_ok (exec_update _)]
    exact leaves_finishConfig { nc with
      driver := nc.driver.forget id
      store := ((noted already nc).remove id).2 } fs _ id breadcrumb
  | false =>
    rw [if_neg Bool.false_ne_true, if_neg Bool.false_ne_true]
    exact leaves_finishConfig { nc with store := ((noted already nc).remove id).2 } fs _ id breadcrumb

/-- A removal takes a network off the list and out of the driver. -/
lemma effect_removeNetwork (h : fs.armedAt now = some armed) (id : List UInt8)
    (breadcrumb : Option UInt64) :
    let after := exec (removeNetwork id breadcrumb now) (nc, fs)
    Effect (.removeNetwork id breadcrumb) armed.progress.changedNetworks nc after.2.1 ∧
      after.2.2.armed = (changing fs armed).armed := by
  have hnetworks := networks_noted armed.progress.changedNetworks nc
  have hok := isOk_remove (noted armed.progress.changedNetworks nc) id
  rw [hnetworks] at hok
  rw [removeNetwork, exec_bind_ok (exec_requireFailSafe_of_live h),
    exec_bind_ok (exec_recordChange_of_live h)]
  refine (leaves_removeListed _ nc _ id breadcrumb).effect ?_ ?_ (NetworkStore.saved_remove _ _) ?_ ?_
  · rw [forgetting]
    split_ifs
    · exact kind_forget _ _
    · rfl
  · intro other
    rw [forgetting, hok, NetworkCommand.forgets, keepsCredentials]
    cases (nc.store.networks.position id).any fun index => decide (index < 256) with
    | true =>
      rw [if_pos rfl, credentials_forget, Bool.and_true]
      by_cases hforgets : nc.driver.kind ≠ .ethernet ∧ id = other
      · rw [if_pos hforgets, if_pos]
        simpa using hforgets.symm
      · rw [if_neg hforgets, if_neg]
        · rfl
        · simpa [and_comm] using hforgets
    | false =>
      rw [if_neg Bool.false_ne_true, Bool.and_false, if_neg Bool.false_ne_true]
      rfl
  · rw [entries, ← hnetworks, NetworkStore.entries_remove_eq_iff, hnetworks,
      NetworkCommand.changes, Option.isSome_eq_false_iff, Option.isNone_iff_eq_none]
  · intro n hn
    obtain ⟨hmem, hid⟩ := NetworkStore.mem_remove _ _ hn
    rw [hnetworks] at hmem
    refine .inr ⟨⟨n, hmem, rfl⟩, ?_⟩
    rw [NetworkCommand.forgets, decide_eq_false (Ne.symm hid)]
    rfl

/-- A reordering moves a network, and takes none off. -/
lemma effect_reorderNetwork (h : fs.armedAt now = some armed) (id : List UInt8) (index : UInt8)
    (breadcrumb : Option UInt64) :
    let after := exec (reorderNetwork id index breadcrumb now) (nc, fs)
    Effect (.reorderNetwork id index breadcrumb) armed.progress.changedNetworks nc after.2.1 ∧
      after.2.2.armed = (changing fs armed).armed := by
  have hnetworks := networks_noted armed.progress.changedNetworks nc
  have hleaves : Leaves (reorderListed id index breadcrumb)
      { nc with store := noted armed.progress.changedNetworks nc } (changing fs armed) nc.driver
      ((noted armed.progress.changedNetworks nc).reorder id index).2 := by
    rw [Leaves, reorderListed, exec_bind_ok (exec_editing _)]
    exact leaves_finishConfig { nc with
      store := ((noted armed.progress.changedNetworks nc).reorder id index).2 } _ _ id breadcrumb
  rw [reorderNetwork, exec_bind_ok (exec_requireFailSafe_of_live h),
    exec_bind_ok (exec_recordChange_of_live h)]
  refine hleaves.effect rfl (fun _ => rfl) (NetworkStore.saved_reorder _ _ _) ?_ ?_
  · rw [entries, ← hnetworks, NetworkStore.entries_reorder_eq_iff, hnetworks,
      NetworkCommand.changes, ← Bool.not_eq_true, Option.any_eq_true]
    simp only [Bool.and_eq_true, decide_eq_true_iff]
    rfl
  · intro n hn
    have hmem := NetworkStore.mem_reorder _ _ hn
    rw [hnetworks] at hmem
    exact .inr ⟨⟨n, hmem, rfl⟩, rfl⟩

lemma leaves_connectListed {id : List UInt8}
    (hlisted : (noted already nc).networks.position id ≠ none) (fs : FailSafe)
    (breadcrumb : Option UInt64) (outcome : ConnectOutcome) :
    Leaves (connectListed id breadcrumb outcome) { nc with store := noted already nc } fs nc.driver
      (connected (noted already nc) id outcome) := by
  obtain ⟨value, hbreadcrumb⟩ := exec_setBreadcrumb
    (recordOutcome { nc with store := connected (noted already nc) id outcome } outcome.status
      (some id) outcome.errorValue) fs breadcrumb outcome.status
  refine ⟨outcome.status, some id, outcome.errorValue, value, ?_⟩
  rw [connectListed, exec_get_bind, if_neg hlisted, exec_bind_ok (exec_update _),
    exec_bind_ok (exec_update _), exec_bind_ok hbreadcrumb, exec_pure]

/-- A connection marks one network as connected, and no other. -/
lemma effect_connectNetwork (h : fs.armedAt now = some armed) (id : List UInt8)
    (breadcrumb : Option UInt64) (outcome : ConnectOutcome) :
    let after := exec (connectNetwork id breadcrumb outcome now) (nc, fs)
    Effect (.connectNetwork id breadcrumb outcome) armed.progress.changedNetworks nc after.2.1 ∧
      after.2.2.armed = (changing fs armed).armed := by
  have hnetworks := networks_noted armed.progress.changedNetworks nc
  rw [connectNetwork, exec_bind_ok (exec_requireFailSafe_of_live h),
    exec_bind_ok (exec_recordChange_of_live h)]
  by_cases hlisted : (noted armed.progress.changedNetworks nc).networks.position id = none
  · have hleaves : Leaves (connectListed id breadcrumb outcome)
        { nc with store := noted armed.progress.changedNetworks nc } (changing fs armed) nc.driver
        (noted armed.progress.changedNetworks nc) := by
      refine ⟨.networkIdNotFound, some id, none, (changing fs armed).breadcrumb, ?_⟩
      rw [connectListed, exec_get_bind, if_pos hlisted]
      rfl
    refine effect_of_same hleaves (fun _ => rfl) (fun _ => rfl) ?_
    rw [hnetworks] at hlisted
    rw [NetworkCommand.changes, hlisted]
    rfl
  · refine (leaves_connectListed hlisted _ breadcrumb outcome).effect rfl (fun _ => rfl)
      (NetworkStore.saved_connected _ _ _) ?_ ?_
    · have hsome := hlisted
      rw [hnetworks, ← ne_eq, ← Option.isSome_iff_ne_none] at hsome
      rw [entries, ← hnetworks, NetworkStore.entries_connected_eq_iff _ _ _ hlisted, hnetworks,
        NetworkCommand.changes, hsome, Bool.true_and, List.any_eq_false]
      refine forall₂_congr fun n _ => ?_
      rw [decide_eq_true_iff, ne_eq, not_not]
    · intro n hn
      obtain ⟨m, hm, hid⟩ := NetworkStore.mem_connected _ _ hn
      rw [hnetworks] at hm
      exact .inr ⟨⟨m, hm, hid⟩, rfl⟩

/-- What a command of the interface does while the fail-safe is armed. -/
theorem perform_effect (h : fs.armedAt now = some armed) (command : NetworkCommand)
    (hfits : command.fits nc.driver.kind = true) :
    let after := exec (perform command now) (nc, fs)
    Effect command armed.progress.changedNetworks nc after.2.1 ∧
      after.2.2.armed = (changing fs armed).armed := by
  cases command with
  | addOrUpdateWifi ssid credentials breadcrumb answer =>
    exact effect_addOrUpdateWifi h (of_decide_eq_true hfits) ssid credentials breadcrumb answer
  | addOrUpdateThread dataset breadcrumb answer =>
    exact effect_addOrUpdateThread h (of_decide_eq_true hfits) dataset breadcrumb answer
  | removeNetwork id breadcrumb => exact effect_removeNetwork h id breadcrumb
  | reorderNetwork id index breadcrumb => exact effect_reorderNetwork h id index breadcrumb
  | connectNetwork id breadcrumb outcome => exact effect_connectNetwork h id breadcrumb outcome

/-- A command that the interface does not have is refused. -/
lemma perform_of_not_fits (h : fs.armedAt now = some armed) (hfits : command.fits nc.driver.kind = false) :
    exec (perform command now) (nc, fs) = (.error .unsupportedCommand, (nc, fs)) := by
  cases command with
  | addOrUpdateWifi ssid credentials breadcrumb answer =>
    rw [perform, addOrUpdateWifi, exec_bind_ok (exec_requireFailSafe_of_live h),
      exec_get_bind, require, if_neg (of_decide_eq_false hfits)]
    rfl
  | addOrUpdateThread dataset breadcrumb answer =>
    rw [perform, addOrUpdateThread, exec_bind_ok (exec_requireFailSafe_of_live h),
      exec_get_bind, require, if_neg (of_decide_eq_false hfits)]
    rfl
  | removeNetwork id breadcrumb | reorderNetwork id index breadcrumb
  | connectNetwork id breadcrumb outcome => cases hfits

/-- Without an armed fail-safe, every command is refused. -/
lemma perform_of_not_live (h : fs.armedAt now = none) (command : NetworkCommand) :
    exec (perform command now) (nc, fs) = (.error .failsafeRequired, (nc, fs)) := by
  have hrefused : exec (requireFailSafe now) (nc, fs) = (.error .failsafeRequired, (nc, fs)) := by
    have hnot : ¬ fs.isArmed now = true := by
      intro harmed
      obtain ⟨armed, hlive⟩ := FailSafe.isArmed_iff.mp harmed
      exact Option.some_ne_none armed (hlive.symm.trans h)
    rw [requireFailSafe, exec_get_bind, require, if_neg hnot]
    rfl
  cases command with
  | addOrUpdateWifi ssid credentials breadcrumb answer | addOrUpdateThread dataset breadcrumb answer
  | removeNetwork id breadcrumb | reorderNetwork id index breadcrumb
  | connectNetwork id breadcrumb outcome => exact exec_bind_error hrefused _

end NetworkCommissioning

end MatterKit.Clusters
