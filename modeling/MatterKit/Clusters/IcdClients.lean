import MatterKit.Clusters.IcdManagement
import MatterKit.Lib.Quota
import MatterKit.Tlv.Splice

/-!
# What a command does to the registrations

The commands of `clusters/icd_management.rs` against the table of clients. A command leaves the table as
it is or does one of three things to it (`ClientChange`, `invoke_change`), each to an entry of the
caller's own fabric, and to an entry that is there only where the caller may change it.

Room and responses are settled here as well. A fabric that has not taken its share is refused for want
of room only by a table that is full (`invoke_ne_exhausted`). A command that is answered with an error
has left the table alone, but for a registration whose response does not fit (`undone_iff`).
-/

namespace MatterKit.Clusters

open Lib Machine Tlv Dm Im Sc

/-! ## Entries that are changed -/

section lists

variable {α : Type} {p q : α → Bool} {f : α → α} {l : List α} {a : α}

/-- What an update leaves no trace of is the first match. -/
lemma find?_of_not_mem_modifyFirst (h : a ∈ l) (h' : a ∉ modifyFirst p f l) : l.find? p = some a := by
  induction l with
  | nil => cases h
  | cons x l ih =>
    unfold modifyFirst at h'
    by_cases hx : p x = true
    · rw [if_pos hx] at h'
      rw [List.find?_cons_of_pos hx]
      rcases List.mem_cons.mp h with rfl | hrest
      · rfl
      · exact absurd (List.mem_cons_of_mem _ hrest) h'
    · rw [if_neg hx] at h'
      obtain ⟨hne, hrest⟩ := not_or.mp (mt List.mem_cons.mpr h')
      rw [List.find?_cons_of_neg hx]
      exact ih ((List.mem_cons.mp h).resolve_left hne) hrest

/-- So is what an erasure takes out. -/
lemma find?_of_not_mem_eraseP (h : a ∈ l) (h' : a ∉ l.eraseP p) : l.find? p = some a := by
  induction l with
  | nil => cases h
  | cons x l ih =>
    by_cases hx : p x = true
    · rw [List.eraseP_cons_of_pos hx] at h'
      rw [List.find?_cons_of_pos hx]
      rcases List.mem_cons.mp h with rfl | hrest
      · rfl
      · exact absurd hrest h'
    · rw [List.eraseP_cons_of_neg hx] at h'
      obtain ⟨hne, hrest⟩ := not_or.mp (mt List.mem_cons.mpr h')
      rw [List.find?_cons_of_neg hx]
      exact ih ((List.mem_cons.mp h).resolve_left hne) hrest

/-- An erasure of an entry that is not looked at. -/
lemma filter_eraseP (h : ∀ x, p x = true → q x = false) : (l.eraseP p).filter q = l.filter q := by
  induction l with
  | nil => rfl
  | cons x l ih =>
    by_cases hx : p x = true
    · rw [List.eraseP_cons_of_pos hx, List.filter_cons_of_neg (by simp [h x hx])]
    · rw [List.eraseP_cons_of_neg hx, List.filter_cons, List.filter_cons, ih]

end lists

/-! ## Statuses that a decoder never answers -/

/-- Every failure of the computation is a status of which `E` holds. -/
def FailsWith {σ α : Type} (E : Status → Prop) (x : Machine σ Status α) : Prop :=
  ∀ s e s', exec x s = (.error e, s') → E e

namespace FailsWith

variable {σ α β : Type} {E : Status → Prop}

lemma pure (a : α) : FailsWith E (Pure.pure a : Machine σ Status α) :=
  fun _ _ _ h => absurd (Prod.mk.inj h).1 (by simp)

lemma throw {e : Status} (h : E e) : FailsWith E (MonadExcept.throw e : Machine σ Status α) := by
  intro s e' s' hrun
  obtain rfl := Except.error.inj (Prod.mk.inj hrun).1
  exact h

lemma ofResult {x : Except Status α} (h : ∀ e, x = .error e → E e) :
    FailsWith E (Machine.ofResult x : Machine σ Status α) := by
  intro s e s' hrun
  exact h e (Prod.mk.inj hrun).1

lemma bind {x : Machine σ Status α} {f : α → Machine σ Status β} (hx : FailsWith E x)
    (hf : ∀ a, FailsWith E (f a)) : FailsWith E (x >>= f) := by
  intro s e s' hrun
  rw [exec_bind] at hrun
  rcases hfirst : exec x s with ⟨e' | a, s₁⟩
  · rw [hfirst] at hrun
    obtain rfl := Except.error.inj (Prod.mk.inj hrun).1
    exact hx s e' s₁ hfirst
  · rw [hfirst] at hrun
    exact hf a s₁ e s' hrun

lemma get : FailsWith E (MonadState.get : Machine σ Status σ) :=
  fun _ _ _ h => absurd (Prod.mk.inj h).1 (by simp)

lemma require {p : Prop} [Decidable p] {e : Status} (h : E e) :
    FailsWith E (Machine.require p e : Machine σ Status Unit) := by
  unfold Machine.require
  split
  · exact pure _
  · exact throw h

end FailsWith

variable {E : Status → Prop} {status : Status}

lemma failsWith_orStatus {α : Type} {x : Reading α} (h : E status) : FailsWith E (orStatus x status) := by
  intro r e r' hrun
  have hexec : exec (orStatus x status) r =
      match exec x r with
      | (.ok a, r') => (.ok a, r')
      | (.error _, r') => (.error status, r') := by
    unfold orStatus exec
    rcases hx : StateT.run (ExceptT.run x) r with ⟨e' | a, r₁⟩
    · simp only [ExceptT.run_mk, StateT.run_bind, hx]
      rfl
    · simp only [ExceptT.run_mk, StateT.run_bind, hx]
      rfl
  rw [hexec] at hrun
  split at hrun
  · cases hrun
  · cases hrun
    exact h

lemma failsWith_okOr {α : Type} {x : Option α} (h : E status) : FailsWith E (okOr x status) := by
  unfold okOr
  split
  · exact .pure _
  · exact .throw h

lemma failsWith_members {β : Type} {step : Element → β → Decoding β} {init : β}
    (hstep : ∀ e acc, FailsWith E (step e acc)) (h : E .invalidAction) :
    FailsWith E (members step init) := by
  have hloop : ∀ (rounds : ℕ) (acc : β), FailsWith E (membersFrom step rounds acc) := by
    intro rounds
    induction rounds with
    | zero => exact fun acc => .throw h
    | succ rounds ih =>
      intro acc
      refine (failsWith_orStatus h).bind fun o => ?_
      cases o with
      | none => exact .throw h
      | some e =>
        dsimp only
        split
        · exact .pure _
        · exact (hstep e acc).bind ih
  exact FailsWith.get.bind fun _ => hloop _ _

namespace IcdManagement

variable {N : ℕ} {s s' : IcdManagement N}

/-! ## What a response takes -/

/-- The octets of a response of one number. -/
def responseOctets (tag : Tag) (value : UInt32) : List UInt8 :=
  elementOctets tag ContainerKind.struct.elementType [] ++
    (elementOctets (.context 0) (.unsignedInt (Width.forUnsigned value.toUInt64))
      (writeLe value.toUInt64 (Width.forUnsigned value.toUInt64).octets) ++ [0x18])

/-- A writer in which a response of one number fits. -/
structure HasRoom (w : TlvWriter) (tag : Tag) (value : UInt32) : Prop where
  nests : w.depth < maxDepth
  admits : w.Admits tag
  fits : w.Fits (responseOctets tag value)

variable {w : TlvWriter} {f : RegisterFields} {fabric : FabricIndex} {administrator : Bool}
  {fields : Option (List UInt8)} {ctx : InteractionContext} {start : UInt32} {command : CommandId}

lemma admits_enter_struct (h : w.depth < maxDepth) : (w.enter .struct).Admits (.context 0) := by
  refine ⟨fun hdone => absurd hdone.1 (Nat.succ_ne_zero w.depth), ?_⟩
  have hinner : (w.enter .struct).currentContainer = some .struct := by
    unfold TlvWriter.currentContainer TlvWriter.enter
    simp [h]
  rw [hinner]
  rfl

/-- A response of one number is written exactly where there is room for all of it. -/
lemma write_numberResponse_iff {id : CommandId} {tag : Tag} {value : UInt32} :
    (exec ((numberResponse id value).write tag) w).1 = .ok () ↔ HasRoom w tag value := by
  have hpieces : ∀ a b c : List UInt8,
      ((((w.put a).mark.enter .struct).put b).mark).Fits c ↔ w.Fits (a ++ (b ++ c)) := by
    intro a b c
    rw [TlvWriter.fits_mark, TlvWriter.fits_put]
    show ((w.put a).mark).Fits (b ++ c) ↔ _
    rw [TlvWriter.fits_mark, TlvWriter.fits_put]
  constructor
  · intro h
    have hrun : exec ((numberResponse id value).write tag) w =
        (.ok (), (exec ((numberResponse id value).write tag) w).2) := Prod.ext h rfl
    obtain ⟨_, w₁, hstart, hrest⟩ := exec_bind_eq_ok.mp hrun
    obtain ⟨hdepth, hadmits, _, rfl⟩ := start_eq_ok.mp hstart
    obtain ⟨_, w₂, hnumber, hend⟩ := exec_bind_eq_ok.mp hrest
    obtain ⟨_, _, rfl⟩ := value_eq_ok.mp hnumber
    obtain ⟨_, hfits, _⟩ := endContainer_eq_ok.mp hend
    exact ⟨hdepth, hadmits, (hpieces _ _ _).mp hfits⟩
  · rintro ⟨hdepth, hadmits, hfits⟩
    have hend := (hpieces _ _ _).mpr hfits
    have hstart : w.Fits (elementOctets tag ContainerKind.struct.elementType []) :=
      hfits.left
    have hnumber : ((w.put (elementOctets tag ContainerKind.struct.elementType [])).mark.enter
        .struct).Fits (elementOctets (.context 0) (.unsignedInt (Width.forUnsigned value.toUInt64))
          (writeLe value.toUInt64 (Width.forUnsigned value.toUInt64).octets)) := by
      rw [TlvWriter.fits_mark, TlvWriter.fits_put] at hend
      exact hend.left
    have hinside : ((w.put (elementOctets tag ContainerKind.struct.elementType [])).mark).depth
        < maxDepth := by
      rw [TlvWriter.depth_mark]
      exact hdepth
    have hdeep : (((w.put (elementOctets tag ContainerKind.struct.elementType [])).mark.enter
        .struct).put (elementOctets (.context 0) (.unsignedInt (Width.forUnsigned value.toUInt64))
          (writeLe value.toUInt64 (Width.forUnsigned value.toUInt64).octets))).mark.depth ≠ 0 := by
      rw [TlvWriter.depth_mark]
      exact Nat.succ_ne_zero _
    have hfirst : exec (start tag .struct) w = (.ok (), _) :=
      start_eq_ok.mpr ⟨hdepth, hadmits, hstart, rfl⟩
    have hsecond : exec (unsigned (.context 0) value.toUInt64) _ = (.ok (), _) :=
      value_eq_ok.mpr ⟨admits_enter_struct hinside, hnumber, rfl⟩
    have hlast := endContainer_eq_ok.mpr ⟨hdeep, hend, rfl⟩
    have hwritten : exec ((numberResponse id value).write tag) w = (.ok (), _) :=
      exec_bind_eq_ok.mpr ⟨(), _, hfirst, exec_bind_eq_ok.mpr ⟨(), _, hsecond, hlast⟩⟩
    rw [hwritten]

/-! ## What a command does to the table -/

/-- What a registration is told apart by. -/
def entryKey (c : MonitoringRegistration) : FabricIndex × NodeId := (c.fabricIndex, c.checkInNodeId)

/-- The entry that a request is for.
Source: `IcdManagement::register`, `Registration::new`, and the fields it sets on an entry. -/
def RegisterFields.entry (f : RegisterFields) (fabric : FabricIndex) : MonitoringRegistration :=
  ⟨f.checkInNodeId, f.monitoredSubject, f.clientType, fabric, f.key⟩

/-- What a command of a caller on `fabric` does to the table where it does something. `allowed` says of
an entry's key whether the caller may change or delete it. -/
inductive ClientChange (perFabric : ℕ) (fabric : FabricIndex) (allowed : SymmetricKey → Prop)
    (l : List MonitoringRegistration) : List MonitoringRegistration → Prop
  | modified (f : RegisterFields) (entry : MonitoringRegistration)
      (found : l.find? (isEntry fabric f.checkInNodeId) = some entry) (may : allowed entry.key) :
      ClientChange perFabric fabric allowed l
        (modifyFirst (isEntry fabric f.checkInNodeId) (fun c => { c with
          monitoredSubject := f.monitoredSubject, clientType := f.clientType, key := f.key }) l)
  | added (f : RegisterFields) (new : l.find? (isEntry fabric f.checkInNodeId) = none)
      (share : held MonitoringRegistration.fabricIndex l fabric < perFabric) :
      ClientChange perFabric fabric allowed l (l ++ [f.entry fabric])
  | removed (node : NodeId) (entry : MonitoringRegistration)
      (found : l.find? (isEntry fabric node) = some entry) (may : allowed entry.key) :
      ClientChange perFabric fabric allowed l (l.eraseP (isEntry fabric node))

namespace ClientChange

variable {perFabric : ℕ} {fabric : FabricIndex} {allowed : SymmetricKey → Prop}
  {l l' : List MonitoringRegistration}

lemma unique (h : ClientChange perFabric fabric allowed l l') (hl : KeysUnique entryKey l) :
    KeysUnique entryKey l' := by
  cases h with
  | modified f entry found may => exact hl.modifyFirst fun _ => rfl
  | added f new share =>
    apply hl.append_singleton
    intro c hc hkey
    obtain ⟨hfabric, hnode⟩ := Prod.mk.inj hkey
    exact List.find?_eq_none.mp new c hc (decide_eq_true ⟨hfabric, hnode⟩)
  | removed node entry found may => exact List.Nodup.sublist (List.eraseP_sublist.map _) hl

lemma quota (h : ClientChange perFabric fabric allowed l l')
    (hl : ∀ g, held MonitoringRegistration.fabricIndex l g ≤ perFabric) (g : FabricIndex) :
    held MonitoringRegistration.fabricIndex l' g ≤ perFabric := by
  cases h with
  | modified f entry found may =>
    refine (held_congr ?_ g).trans_le (hl g)
    apply map_modifyFirst
    intro c
    rfl
  | added f new share =>
    rw [held_append_singleton]
    split_ifs with hg
    · obtain rfl : fabric = g := hg
      exact share
    · exact hl g
  | removed node entry found may => exact (List.eraseP_sublist.filter _).length_le.trans (hl g)

lemma mem_fabrics (h : ClientChange perFabric fabric allowed l l') {F : List FabricIndex}
    (hfabric : fabric ∈ F) (hl : ∀ c ∈ l, c.fabricIndex ∈ F) {c : MonitoringRegistration}
    (hc : c ∈ l') : c.fabricIndex ∈ F := by
  cases h with
  | modified f entry found may =>
    rcases mem_modifyFirst hc with hold | ⟨old, hold, -, rfl⟩
    · exact hl c hold
    · exact hl old hold
  | added f new share =>
    rcases List.mem_append.mp hc with hold | hnew
    · exact hl c hold
    · rw [List.mem_singleton.mp hnew]
      exact hfabric
  | removed node entry found may => exact hl c (List.mem_of_mem_eraseP hc)

/-- An entry that is no longer there as it was is one that the caller might change. -/
lemma allowed_of_not_mem (h : ClientChange perFabric fabric allowed l l')
    {c : MonitoringRegistration} (hc : c ∈ l) (hc' : c ∉ l') : allowed c.key := by
  cases h with
  | modified f entry found may =>
    have hfirst := find?_of_not_mem_modifyFirst hc hc'
    obtain rfl := Option.some.inj (found.symm.trans hfirst)
    exact may
  | added f new share => exact absurd (List.mem_append_left _ hc) hc'
  | removed node entry found may =>
    have hfirst := find?_of_not_mem_eraseP hc hc'
    obtain rfl := Option.some.inj (found.symm.trans hfirst)
    exact may

/-- The entries of the other fabrics stay what and where they were. -/
lemma isolated (h : ClientChange perFabric fabric allowed l l') {g : FabricIndex} (hg : g ≠ fabric) :
    (l'.filter fun c => decide (c.fabricIndex = g)) = l.filter fun c => decide (c.fabricIndex = g) := by
  have hother : ∀ (node : NodeId) (c : MonitoringRegistration), isEntry fabric node c = true →
      ¬ c.fabricIndex = g := by
    intro node c hentry heq
    exact hg (heq.symm.trans (of_decide_eq_true hentry).1)
  cases h with
  | modified f entry found may =>
    apply filter_modifyFirst
    intro c hentry
    exact ⟨decide_eq_false (hother _ c hentry), decide_eq_false (hother _ c hentry)⟩
  | added f new share =>
    rw [List.filter_append, List.filter_singleton]
    have hnew : decide ((f.entry fabric).fabricIndex = g) = false := decide_eq_false hg.symm
    simp [hnew]
  | removed node entry found may =>
    apply filter_eraseP
    intro c hentry
    exact decide_eq_false (hother _ c hentry)

end ClientChange

/-! ## The changes of a command -/

/-- The key that a command's fields present.
Source: `RegisterFields::verification_key`, and the second part of what `decode_unregister` returns. -/
def presentedKey (command : CommandId) (fields : Option (List UInt8)) : Option SymmetricKey :=
  match fields with
  | none => none
  | some octets =>
    if command = registerClientCommand then
      match decodeRegister octets with
      | .ok f => f.verificationKey
      | .error _ => none
    else if command = unregisterClientCommand then
      match decodeUnregister octets with
      | .ok f => f.2
      | .error _ => none
    else none

/-- The caller may change or delete an entry of this key. -/
def MayChange (command : CommandId) (fields : Option (List UInt8)) (ctx : InteractionContext)
    (key : SymmetricKey) : Prop :=
  isAdministrator ctx = true ∨ presentedKey command fields = some key

/-- A registration does what its effect says, and nothing else. -/
lemma register_change (h : s.register f fabric administrator = .ok s') :
    ClientChange s.clientsPerFabric fabric
        (fun key => administrator = true ∨ f.verificationKey = some key)
        s.clients.toList s'.clients.toList ∧
      s' = { s with clients := s'.clients } := by
  unfold register at h
  split at h
  · rename_i entry hfound
    split_ifs at h with hmay
    cases h
    exact ⟨.modified f entry hfound hmay, rfl⟩
  · rename_i hnew
    obtain ⟨_, hshare, h⟩ := bind_eq_ok.mp h
    obtain ⟨clients, hpush, hdone⟩ := bind_eq_ok.mp h
    cases hdone
    rw [ensure_eq_ok, List.countP_eq_length_filter] at hshare
    obtain ⟨_, hclients⟩ := BoundedVec.push_eq_some_iff.mp (okOr_eq_ok.mp hpush)
    refine ⟨?_, rfl⟩
    show ClientChange _ _ _ _ clients.toList
    rw [hclients]
    exact .added f hnew hshare

lemma registerClient_change (h : s.registerClient fields ctx = .ok (start, s')) :
    (∃ fabric, ctx.fabricIndex = some fabric ∧
      ClientChange s.clientsPerFabric fabric (MayChange registerClientCommand fields ctx)
        s.clients.toList s'.clients.toList) ∧
      s' = { s with clients := s'.clients } := by
  obtain ⟨_, _, h⟩ := bind_eq_ok.mp h
  obtain ⟨fabric, hfabric, h⟩ := bind_eq_ok.mp h
  obtain ⟨octets, hoctets, h⟩ := bind_eq_ok.mp h
  obtain ⟨request, hrequest, h⟩ := bind_eq_ok.mp h
  obtain ⟨registered, hregister, hdone⟩ := bind_eq_ok.mp h
  cases hdone
  obtain ⟨hchange, hrest⟩ := register_change hregister
  refine ⟨⟨fabric, okOr_eq_ok.mp hfabric, ?_⟩, hrest⟩
  have hkey : presentedKey registerClientCommand fields = request.verificationKey := by
    rw [okOr_eq_ok.mp hoctets]
    unfold presentedKey
    simp only [if_pos, hrequest]
  unfold MayChange
  rw [hkey]
  exact hchange

lemma unregisterClient_change (h : s.unregisterClient fields ctx = .ok s') :
    (∃ fabric, ctx.fabricIndex = some fabric ∧
      ClientChange s.clientsPerFabric fabric (MayChange unregisterClientCommand fields ctx)
        s.clients.toList s'.clients.toList) ∧
      s' = { s with clients := s'.clients } := by
  obtain ⟨_, _, h⟩ := bind_eq_ok.mp h
  obtain ⟨fabric, hfabric, h⟩ := bind_eq_ok.mp h
  obtain ⟨octets, hoctets, h⟩ := bind_eq_ok.mp h
  obtain ⟨⟨node, verificationKey⟩, hrequest, h⟩ := bind_eq_ok.mp h
  obtain ⟨entry, hfound, h⟩ := bind_eq_ok.mp h
  obtain ⟨_, hmay, hdone⟩ := bind_eq_ok.mp h
  cases hdone
  refine ⟨⟨fabric, okOr_eq_ok.mp hfabric, ?_⟩, rfl⟩
  have hkey : presentedKey unregisterClientCommand fields = verificationKey := by
    rw [okOr_eq_ok.mp hoctets]
    have hother : unregisterClientCommand ≠ registerClientCommand := by decide
    unfold presentedKey
    simp only [if_neg hother, if_pos, hrequest]
  unfold MayChange
  rw [hkey]
  exact .removed node entry (okOr_eq_ok.mp hfound) (ensure_eq_ok.mp hmay)

/-- A command leaves the cluster as it is or does one thing to the table. -/
lemma run_change {response : Option Response} (h : s.run command fields ctx = .ok (response, s')) :
    s' = s ∨ (∃ fabric, ctx.fabricIndex = some fabric ∧
      ClientChange s.clientsPerFabric fabric (MayChange command fields ctx)
        s.clients.toList s'.clients.toList) ∧
      s' = { s with clients := s'.clients } := by
  unfold run at h
  split_ifs at h with hregister hunregister
  · obtain ⟨⟨start, registered⟩, hrun, hdone⟩ := bind_eq_ok.mp h
    cases hdone
    rw [hregister]
    exact .inr (registerClient_change hrun)
  · obtain ⟨removed, hrun, hdone⟩ := bind_eq_ok.mp h
    cases hdone
    rw [hunregister]
    exact .inr (unregisterClient_change hrun)
  · obtain ⟨promised, _, hdone⟩ := bind_eq_ok.mp h
    cases hdone
    exact .inl rfl

/-- So does the cluster's answer to it, whether or not the response can be written. -/
lemma invoke_change (command : CommandId) (fields : Option (List UInt8)) (ctx : InteractionContext)
    (w : TlvWriter) (tag : Tag) : (s.invoke command fields ctx w tag).2 = s ∨
      (∃ fabric, ctx.fabricIndex = some fabric ∧
        ClientChange s.clientsPerFabric fabric (MayChange command fields ctx) s.clients.toList
          (s.invoke command fields ctx w tag).2.clients.toList) ∧
      (s.invoke command fields ctx w tag).2 =
        { s with clients := (s.invoke command fields ctx w tag).2.clients } := by
  unfold invoke
  split
  · exact .inl rfl
  · rename_i hrun
    exact run_change hrun
  · rename_i hrun
    split
    · exact run_change hrun
    · exact run_change hrun

/-! ## What is refused for want of room -/

/-- A status other than the one for want of room. -/
abbrev NotExhausted (e : Status) : Prop := e ≠ .resourceExhausted

lemma failsWith_decodeKey (e : Element) : FailsWith NotExhausted (decodeKey e) := by
  refine (failsWith_orStatus (by decide)).bind fun bytes => .ofResult ?_
  intro status h
  unfold keyField at h
  split_ifs at h
  cases h
  decide

lemma raises_clientType (value : UInt64) : Raises NotExhausted (ClientType.fromValue value) := by
  intro status h
  unfold ClientType.fromValue at h
  split_ifs at h
  cases h
  decide

lemma failsWith_decodeRegisterField (e : Element) (f : RegisterVariables) :
    FailsWith NotExhausted (decodeRegisterField e f) := by
  unfold decodeRegisterField
  split
  · exact (failsWith_orStatus (by decide)).bind fun _ => .pure _
  · exact (failsWith_orStatus (by decide)).bind fun _ => .pure _
  · exact (failsWith_decodeKey e).bind fun _ => .pure _
  · exact (failsWith_decodeKey e).bind fun _ => .pure _
  · exact (failsWith_orStatus (by decide)).bind fun value =>
      (FailsWith.ofResult (raises_clientType value)).bind fun _ => .pure _
  · exact (failsWith_orStatus (by decide)).bind fun _ => .pure _

lemma failsWith_decodeUnregisterField (e : Element) (f : Option NodeId × Option SymmetricKey) :
    FailsWith NotExhausted (decodeUnregisterField e f) := by
  unfold decodeUnregisterField
  split
  · exact (failsWith_orStatus (by decide)).bind fun _ => .pure _
  · exact (failsWith_decodeKey e).bind fun _ => .pure _
  · exact (failsWith_orStatus (by decide)).bind fun _ => .pure _

lemma failsWith_decodeStayActiveField (e : Element) (duration : Option UInt32) :
    FailsWith NotExhausted (decodeStayActiveField e duration) := by
  unfold decodeStayActiveField
  split
  · exact (failsWith_orStatus (by decide)).bind fun _ =>
      (failsWith_orStatus (by decide)).bind fun _ => .pure _
  · exact (failsWith_orStatus (by decide)).bind fun _ => .pure _

lemma raises_decodeFields {β : Type} {step : Element → β → Decoding β} {init : β}
    (hstep : ∀ e acc, FailsWith NotExhausted (step e acc)) (octets : List UInt8) :
    Raises NotExhausted (decodeFields step init octets) := by
  have hfirst : FailsWith NotExhausted firstElement :=
    (failsWith_orStatus (by decide)).bind fun _ => failsWith_okOr (by decide)
  have hdecode : FailsWith NotExhausted (do
      let e ← firstElement
      require (e.value.container? = some .struct) .invalidAction
      members step init : Decoding β) :=
    hfirst.bind fun _ => (FailsWith.require (by decide)).bind fun _ =>
      failsWith_members hstep (by decide)
  intro status h
  exact hdecode _ status _ (Prod.ext h rfl)

lemma raises_decodeRegister (octets : List UInt8) : Raises NotExhausted (decodeRegister octets) :=
  (raises_decodeFields failsWith_decodeRegisterField octets).bind fun _ =>
    (Raises.okOr (by decide)).bind fun _ => (Raises.okOr (by decide)).bind fun _ =>
      (Raises.okOr (by decide)).bind fun _ => (Raises.okOr (by decide)).bind fun _ => .ok _

lemma raises_decodeUnregister (octets : List UInt8) : Raises NotExhausted (decodeUnregister octets) :=
  (raises_decodeFields failsWith_decodeUnregisterField octets).bind fun _ =>
    (Raises.okOr (by decide)).bind fun _ => .ok _

lemma raises_decodeStayActive (octets : List UInt8) : Raises NotExhausted (decodeStayActive octets) :=
  (raises_decodeFields failsWith_decodeStayActiveField octets).bind fun _ => .okOr (by decide)

/-- A fabric that has not taken its share is given an entry while the table has room. -/
lemma raises_register
    (hshare : held MonitoringRegistration.fabricIndex s.clients.toList fabric < s.clientsPerFabric)
    (hroom : s.clients.toList.length < N) : Raises NotExhausted (s.register f fabric administrator) := by
  unfold register
  split
  · intro status h
    split_ifs at h
    cases h
    decide
  · have hused : (s.clients.toList.countP fun c => decide (c.fabricIndex = fabric)) <
        s.clientsPerFabric := by
      rw [List.countP_eq_length_filter]
      exact hshare
    dsimp only
    rw [ensure_of hused, ok_bind]
    refine Raises.bind ?_ fun _ => .ok _
    intro status h
    cases hpush : s.clients.push ⟨f.checkInNodeId, f.monitoredSubject, f.clientType, fabric, f.key⟩ with
    | none => exact absurd (BoundedVec.push_eq_none_iff.mp hpush) hroom.ne
    | some clients =>
      rw [hpush] at h
      cases h

/-- No command of a fabric that has not taken its share is refused for want of room. -/
lemma raises_run (hfabric : ctx.fabricIndex = some fabric)
    (hshare : held MonitoringRegistration.fabricIndex s.clients.toList fabric < s.clientsPerFabric)
    (hroom : s.clients.toList.length < N) : Raises NotExhausted (s.run command fields ctx) := by
  have hregister : Raises NotExhausted (s.registerClient fields ctx) := by
    unfold registerClient
    simp only [hfabric, okOr_some, ok_bind]
    exact (Raises.ensure (by decide)).bind fun _ => (Raises.okOr (by decide)).bind fun octets =>
      (raises_decodeRegister octets).bind fun f => (raises_register hshare hroom).bind fun _ => .ok _
  have hunregister : Raises NotExhausted (s.unregisterClient fields ctx) := by
    unfold unregisterClient unregister
    exact (Raises.ensure (by decide)).bind fun _ => (Raises.okOr (by decide)).bind fun _ =>
      (Raises.okOr (by decide)).bind fun octets => (raises_decodeUnregister octets).bind fun _ =>
        (Raises.okOr (by decide)).bind fun _ => (Raises.ensure (by decide)).bind fun _ => .ok _
  have hstay : Raises NotExhausted (s.stayActiveRequest fields) := by
    unfold stayActiveRequest
    exact (Raises.ensure (by decide)).bind fun _ => (Raises.okOr (by decide)).bind fun octets =>
      (raises_decodeStayActive octets).bind fun _ => .ok _
  unfold run
  split_ifs
  · exact hregister.bind fun _ => .ok _
  · exact hunregister.bind fun _ => .ok _
  · exact hstay.bind fun _ => .ok _
  · intro status h
    cases h
    decide

lemma invoke_ne_exhausted (w : TlvWriter) (tag : Tag) (hfabric : ctx.fabricIndex = some fabric)
    (hshare : held MonitoringRegistration.fabricIndex s.clients.toList fabric < s.clientsPerFabric)
    (hroom : s.clients.toList.length < N) :
    (s.invoke command fields ctx w tag).1.1 ≠ .error (.new .resourceExhausted) := by
  unfold invoke
  intro h
  split at h
  · rename_i status hrun
    have hne := raises_run hfabric hshare hroom status hrun
    exact hne (congrArg StatusIb.status (Except.error.inj h))
  · cases h
  · split at h
    · cases h
    · exact absurd (congrArg StatusIb.status (Except.error.inj h)) (by decide)

/-! ## What is changed although it is answered with an error -/

/-- A request that changes the table where it is taken.
Source: `IcdManagement::register`, its checks. -/
def AltersEntry (s : IcdManagement N) (f : RegisterFields) (fabric : FabricIndex)
    (administrator : Bool) : Prop :=
  match s.clients.toList.find? (isEntry fabric f.checkInNodeId) with
  | some entry =>
    (administrator = true ∨ f.verificationKey = some entry.key) ∧ f.entry fabric ≠ entry
  | none => held MonitoringRegistration.fabricIndex s.clients.toList fabric < s.clientsPerFabric

/-- A `RegisterClient` that is taken and changes the table. -/
def Alters (s : IcdManagement N) (fields : Option (List UInt8)) (ctx : InteractionContext) : Prop :=
  s.features &&& checkInProtocolSupport ≠ 0 ∧
    ∃ fabric octets f, ctx.fabricIndex = some fabric ∧ fields = some octets ∧
      decodeRegister octets = .ok f ∧ s.AltersEntry f fabric (isAdministrator ctx)

lemma update_eq_self_iff {α : Type} {M : ℕ} {v : BoundedVec α M} {p : α → Bool} {f : α → α} :
    v.update p f = v ↔ ∀ a, v.toList.find? p = some a → f a = a := by
  rw [← modifyFirst_eq_self_iff]
  constructor
  · exact fun h => congrArg BoundedVec.toList h
  · intro h
    cases v
    unfold BoundedVec.update
    simpa using h

/-- With room for the fabric's share, a registration alters the table exactly if it changes an entry. -/
lemma altersEntry_iff
    (hroom : held MonitoringRegistration.fabricIndex s.clients.toList fabric < s.clientsPerFabric →
      s.clients.toList.length < N) : s.AltersEntry f fabric administrator ↔
      ∃ s', s.register f fabric administrator = .ok s' ∧ s'.clients ≠ s.clients := by
  unfold AltersEntry
  cases hfind : s.clients.toList.find? (isEntry fabric f.checkInNodeId) with
  | some entry =>
    have hmatch : isEntry fabric f.checkInNodeId entry = true := List.find?_some hfind
    obtain ⟨hfabric, hnode⟩ := of_decide_eq_true hmatch
    have hchanged : s.clients.update (isEntry fabric f.checkInNodeId) (fun c => { c with
        monitoredSubject := f.monitoredSubject, clientType := f.clientType, key := f.key })
        = s.clients ↔ f.entry fabric = entry := by
      rw [update_eq_self_iff]
      have hentry : f.entry fabric = { entry with
          monitoredSubject := f.monitoredSubject, clientType := f.clientType, key := f.key } := by
        rw [← hfabric, RegisterFields.entry, hnode]
      rw [hentry]
      simp [hfind]
    unfold register
    rw [hfind]
    dsimp only
    constructor
    · rintro ⟨hmay, hne⟩
      exact ⟨_, if_pos hmay, mt hchanged.mp hne⟩
    · rintro ⟨s', hrun, hne⟩
      split_ifs at hrun with hmay
      cases hrun
      exact ⟨hmay, mt hchanged.mpr hne⟩
  | none =>
    have hused : (s.clients.toList.countP fun c => decide (c.fabricIndex = fabric)) =
        held MonitoringRegistration.fabricIndex s.clients.toList fabric :=
      List.countP_eq_length_filter
    unfold register
    rw [hfind]
    dsimp only
    rw [hused]
    constructor
    · intro hshare
      rw [ensure_of hshare, ok_bind]
      cases hpush : s.clients.push
          ⟨f.checkInNodeId, f.monitoredSubject, f.clientType, fabric, f.key⟩ with
      | none => exact absurd (BoundedVec.push_eq_none_iff.mp hpush) (hroom hshare).ne
      | some clients =>
        refine ⟨_, rfl, ?_⟩
        intro hsame
        obtain ⟨_, hclients⟩ := BoundedVec.push_eq_some_iff.mp hpush
        have hlonger := congrArg (fun v => v.toList.length) hsame
        simp [hclients] at hlonger
    · rintro ⟨s', hrun, _⟩
      obtain ⟨_, hshare, _⟩ := bind_eq_ok.mp hrun
      exact ensure_eq_ok.mp hshare

lemma alters_iff (hroom : ∀ fabric, ctx.fabricIndex = some fabric →
      held MonitoringRegistration.fabricIndex s.clients.toList fabric < s.clientsPerFabric →
        s.clients.toList.length < N) : s.Alters fields ctx ↔
      ∃ start s', s.registerClient fields ctx = .ok (start, s') ∧ s'.clients ≠ s.clients := by
  constructor
  · rintro ⟨hfeature, fabric, octets, f, hfabric, hoctets, hdecode, halters⟩
    obtain ⟨s', hregister, hne⟩ := (altersEntry_iff (hroom fabric hfabric)).mp halters
    refine ⟨s'.counter, s', ?_, hne⟩
    unfold registerClient
    rw [ensure_of hfeature, ok_bind, hfabric, okOr_some, ok_bind, hoctets, okOr_some, ok_bind,
      hdecode, ok_bind, hregister, ok_bind]
    rfl
  · rintro ⟨start, s', hrun, hne⟩
    obtain ⟨_, hfeature, hrun⟩ := bind_eq_ok.mp hrun
    obtain ⟨fabric, hfabric, hrun⟩ := bind_eq_ok.mp hrun
    obtain ⟨octets, hoctets, hrun⟩ := bind_eq_ok.mp hrun
    obtain ⟨f, hdecode, hrun⟩ := bind_eq_ok.mp hrun
    obtain ⟨registered, hregister, hdone⟩ := bind_eq_ok.mp hrun
    cases hdone
    rw [okOr_eq_ok] at hfabric hoctets
    have halters := (altersEntry_iff (hroom fabric hfabric)).mpr ⟨_, hregister, hne⟩
    exact ⟨ensure_eq_ok.mp hfeature, fabric, octets, f, hfabric, hoctets, hdecode, halters⟩

/-- How a `RegisterClient` is answered once it has been taken.
Source: `IcdManagement::invoke`, `REGISTER_CLIENT`. -/
lemma invoke_registerClient (hrun : s.registerClient fields ctx = .ok (start, s')) (w : TlvWriter)
    (tag : Tag) : (s.invoke registerClientCommand fields ctx w tag).2 = s' ∧
      ((∃ e, (s.invoke registerClientCommand fields ctx w tag).1.1 = .error e) ↔
        ¬ HasRoom w tag s.counter) := by
  obtain ⟨rfl, _⟩ := registerClient_eq_ok hrun
  have hdone : s.run registerClientCommand fields ctx =
      .ok (some (numberResponse registerClientResponseId s.counter), s') := by
    unfold run
    rw [if_pos rfl, hrun]
    rfl
  rw [← write_numberResponse_iff]
  unfold invoke
  rw [hdone]
  dsimp only
  rcases hwrite : exec ((numberResponse registerClientResponseId s.counter).write tag) w with
    ⟨e | u, w'⟩
  · simp
  · simp

/-- The other commands leave the table as it is where they are answered with an error. -/
lemma clients_of_error {tag : Tag} {e : StatusIb} (hcommand : command ≠ registerClientCommand)
    (h : (s.invoke command fields ctx w tag).1.1 = .error e) :
    (s.invoke command fields ctx w tag).2.clients = s.clients := by
  have hsilent : ∀ response s', s.run command fields ctx = .ok (some response, s') → s' = s := by
    intro response s' hrun
    unfold run at hrun
    rw [if_neg hcommand] at hrun
    split_ifs at hrun
    · obtain ⟨removed, _, hdone⟩ := bind_eq_ok.mp hrun
      cases hdone
    · obtain ⟨promised, _, hdone⟩ := bind_eq_ok.mp hrun
      cases hdone
      rfl
  unfold invoke at h ⊢
  split
  · rfl
  · rename_i hrun
    rw [hrun] at h
    cases h
  · rename_i response s' hrun
    rw [hsilent response s' hrun]
    split
    · rfl
    · rfl

/-- A command that is answered with an error has changed the table exactly if it is a `RegisterClient`
that was taken and whose response did not fit. -/
lemma undone_iff (command : CommandId) (fields : Option (List UInt8)) (w : TlvWriter) (tag : Tag)
    (hroom : ∀ fabric, ctx.fabricIndex = some fabric →
      held MonitoringRegistration.fabricIndex s.clients.toList fabric < s.clientsPerFabric →
        s.clients.toList.length < N) : (∀ e, (s.invoke command fields ctx w tag).1.1 = .error e →
        (s.invoke command fields ctx w tag).2.clients = s.clients) ↔
      ¬ (command = registerClientCommand ∧ s.Alters fields ctx ∧ ¬ HasRoom w tag s.counter) := by
  by_cases hcommand : command = registerClientCommand
  · subst hcommand
    rw [alters_iff hroom]
    rcases hrun : s.registerClient fields ctx with status | ⟨start, s'⟩
    · have hrefused : s.run registerClientCommand fields ctx = .error status := by
        unfold run
        rw [if_pos rfl, hrun]
        rfl
      unfold invoke
      rw [hrefused]
      simp
    · obtain ⟨hstate, hanswer⟩ := invoke_registerClient hrun w tag
      rw [hstate]
      constructor
      · rintro hundone ⟨_, ⟨start', s'', hrun', hne⟩, hfull⟩
        obtain ⟨e, he⟩ := hanswer.mpr hfull
        cases hrun'
        exact hne (hundone e he)
      · intro hspared e he
        by_contra hne
        exact hspared ⟨rfl, ⟨start, s', rfl, hne⟩, hanswer.mp ⟨e, he⟩⟩
  · refine iff_of_true ?_ fun h => hcommand h.1
    intro e he
    exact clients_of_error hcommand he

/-- No command moves what the cluster was built with. -/
lemma clientsPerFabric_invoke (command : CommandId) (fields : Option (List UInt8))
    (ctx : InteractionContext) (w : TlvWriter) (tag : Tag) :
    (s.invoke command fields ctx w tag).2.clientsPerFabric = s.clientsPerFabric := by
  rcases s.invoke_change command fields ctx w tag with hsame | ⟨_, hrest⟩
  · rw [hsame]
  · rw [hrest]

end IcdManagement

end MatterKit.Clusters
