import MatterKit.Im.Subscription
import MatterKit.Lib.Runs

/-!
# Every fabric's share of the subscriptions

`SubscriptionTable::subscribe` admits a request of a fabric while the fabric holds less than its share,
and a request of no fabric from what is promised to none. `Promised` is the invariant behind both.

`allocate_id` looks at the `2 ^ 16` ids after the last one and then gives up, returning the last it
looked at. `FindsId` says that a request which is admitted finds an unused id among them. Along a run
the table is `Served` in every state exactly when each of its requests finds one (`served_iff`), which
is always the case when fewer than `2 ^ 16 - 1` other subscriptions can be held (`findsId_of_lt`).
-/

namespace MatterKit.Im

open Lib Machine Tlv Dm

/-! ## Requests -/

/-- A request that names something, and no more than a subscription can carry. -/
def NewSubscription.WellFormed (P : ℕ) (r : NewSubscription) : Prop :=
  ¬(r.paths = [] ∧ r.eventPaths = []) ∧ r.paths.length ≤ P ∧ r.eventPaths.length ≤ P

namespace SubscriptionTable

variable {N P : ℕ}

/-- The table a request is held against: without the subscriptions of its session, unless it asks to
keep them.
Source: `SubscriptionTable::subscribe`, `if !request.keep_subscriptions`. -/
def forget (t : SubscriptionTable N P) (r : NewSubscription) : SubscriptionTable N P :=
  if r.keepSubscriptions then t else t.removeForSession r.session

/-- What `subscribe` checks of a request before it allocates an id. -/
def Admitted (t : SubscriptionTable N P) (config : SubscriptionConfig) (r : NewSubscription) : Prop :=
  r.WellFormed P ∧ t.subscriptions.toList.length < N ∧ t.admits config r.fabricIndex = .ok ()

/-- An id that is not zero and not in use. -/
def Unused (t : SubscriptionTable N P) (id : UInt32) : Prop :=
  id ≠ 0 ∧ ∀ s ∈ t.subscriptions.toList, s.id ≠ id

lemma unused_iff {t : SubscriptionTable N P} {id : UInt32} : t.Unused id ↔ id ≠ 0 ∧ (t.find id).isNone := by
  unfold Unused find
  simp

variable (t : SubscriptionTable N P)

/-- A request that is admitted is appended with an id of `allocate_id`; any other leaves what it was
held against. -/
lemma subscribe_cases (config : SubscriptionConfig) (r : NewSubscription) (now : Instant) :
    ((t.forget r).Admitted config r ∧ ∃ sub : Subscription P,
        sub.id = (t.forget r).allocateId ∧ sub.session = r.session ∧ sub.fabricIndex = r.fabricIndex ∧
        sub.paths.toList = r.paths ∧ sub.eventPaths.toList = r.eventPaths ∧
        (t.subscribe config r now).1 = .ok (t.forget r).allocateId ∧
        (t.subscribe config r now).2.subscriptions.toList = (t.forget r).subscriptions.toList ++ [sub] ∧
        (t.subscribe config r now).2.lastId = (t.forget r).allocateId) ∨
      (¬(t.forget r).Admitted config r ∧ ∃ e, t.subscribe config r now = (.error e, t.forget r)) := by
  unfold subscribe
  simp only
  rw [show (if r.keepSubscriptions = true then t else t.removeForSession r.session) = t.forget r
    from rfl]
  generalize t.forget r = t
  by_cases hnone : r.paths = [] ∧ r.eventPaths = []
  · rw [if_pos hnone]
    exact .inr ⟨fun h => h.1.1 hnone, _, rfl⟩
  rw [if_neg hnone]
  by_cases hpaths : r.paths.length ≤ P
  swap
  · rw [show (bounded r.paths : Option (BoundedVec AttributePath P)) = none from dif_neg hpaths]
    exact .inr ⟨fun h => hpaths h.1.2.1, _, rfl⟩
  rw [show (bounded r.paths : Option (BoundedVec AttributePath P)) = some ⟨r.paths, hpaths⟩ from
    dif_pos hpaths]
  by_cases hevents : r.eventPaths.length ≤ P
  swap
  · rw [show (bounded r.eventPaths : Option (BoundedVec EventPath P)) = none from dif_neg hevents]
    exact .inr ⟨fun h => hevents h.1.2.2, _, rfl⟩
  rw [show (bounded r.eventPaths : Option (BoundedVec EventPath P)) = some ⟨r.eventPaths, hevents⟩
    from dif_pos hevents]
  simp only
  by_cases hfull : t.subscriptions.toList.length ≥ N
  · rw [if_pos hfull]
    exact .inr ⟨fun h => absurd h.2.1 (not_lt.mpr hfull), _, rfl⟩
  rw [if_neg hfull]
  rcases hadmits : t.admits config r.fabricIndex with e | ⟨⟨⟩⟩
  · refine .inr ⟨fun h => ?_, e, rfl⟩
    rw [h.2.2] at hadmits
    cases hadmits
  · refine .inl ⟨⟨⟨hnone, hpaths, hevents⟩, not_le.mp hfull, hadmits⟩, ?_⟩
    unfold BoundedVec.push
    rw [dif_pos (not_le.mp hfull)]
    exact ⟨_, rfl, rfl, rfl, rfl, rfl, rfl, rfl, rfl⟩

/-! ## Runs -/

end SubscriptionTable

/-- A call that adds or ends subscriptions. -/
inductive ShareOp
  | subscribe (request : NewSubscription) (now : Instant)
  | remove (id : UInt32)
  | removeForSession (session : Option SessionId)
  | removeForFabric (fabric : FabricIndex)

namespace ShareOp

variable {N P : ℕ}

/-- The table after a call. -/
def step (config : SubscriptionConfig) (t : SubscriptionTable N P) : ShareOp → SubscriptionTable N P
  | subscribe request now => (t.subscribe config request now).2
  | remove id => t.remove id
  | removeForSession session => t.removeForSession session
  | removeForFabric fabric => t.removeForFabric fabric

/-- The request of a call is of no fabric or of one of `F`. -/
def Within (F : Finset FabricIndex) : ShareOp → Prop
  | subscribe request _ => ∀ f, request.fabricIndex = some f → f ∈ F
  | _ => True

/-- A request that is admitted finds an unused id among the `2 ^ 16` after the last. -/
def FindsId (config : SubscriptionConfig) (t : SubscriptionTable N P) : ShareOp → Prop
  | subscribe request _ => (t.forget request).Admitted config request →
      ∃ k : ℕ, 1 ≤ k ∧ k ≤ 2 ^ 16 ∧
        (t.forget request).Unused ((t.forget request).lastId + UInt32.ofNat k)
  | _ => True

end ShareOp

namespace SubscriptionTable

variable {N P : ℕ}

/-! ## Ids -/

variable (t : SubscriptionTable N P)

/-- The loop finds an unused id if there is one among those it looks at, and only then. -/
lemma unused_allocateIdIn_iff (rounds : ℕ) (last : UInt32) : t.Unused (t.allocateIdIn (rounds + 1) last) ↔
      ∃ k : ℕ, 1 ≤ k ∧ k ≤ rounds + 1 ∧ t.Unused (last + UInt32.ofNat k) := by
  induction rounds generalizing last with
  | zero =>
    have hlast : t.allocateIdIn 1 last = last + 1 := by
      unfold allocateIdIn
      simp only [allocateIdIn, ite_self]
    rw [hlast]
    constructor
    · intro h
      exact ⟨1, le_rfl, le_rfl, h⟩
    · rintro ⟨k, hk, hk', h⟩
      obtain rfl : k = 1 := le_antisymm hk' hk
      exact h
  | succ rounds ih =>
    rw [allocateIdIn]
    by_cases hnext : t.Unused (last + 1)
    · rw [if_pos (unused_iff.mp hnext)]
      exact ⟨fun h => ⟨1, le_rfl, by omega, h⟩, fun _ => hnext⟩
    · rw [if_neg (mt unused_iff.mpr hnext), ih]
      constructor
      · rintro ⟨k, hk, hk', h⟩
        refine ⟨k + 1, by omega, by omega, ?_⟩
        rwa [UInt32.ofNat_add, UInt32.add_comm (UInt32.ofNat k), ← UInt32.add_assoc]
      · rintro ⟨k, hk, hk', h⟩
        obtain ⟨k, rfl⟩ := Nat.exists_eq_add_of_le hk
        rcases Nat.eq_zero_or_pos k with rfl | hpos
        · exact absurd h hnext
        · refine ⟨k, hpos, by omega, ?_⟩
          rwa [UInt32.ofNat_add, ← UInt32.add_assoc] at h

lemma unused_allocateId_iff : t.Unused t.allocateId ↔
      ∃ k : ℕ, 1 ≤ k ∧ k ≤ 2 ^ 16 ∧ t.Unused (t.lastId + UInt32.ofNat k) := by
  obtain ⟨rounds, hrounds⟩ : ∃ rounds, 2 ^ 16 = rounds + 1 := ⟨65535, rfl⟩
  unfold allocateId
  rw [hrounds]
  exact t.unused_allocateIdIn_iff rounds t.lastId

/-- Two ids less than `2 ^ 32` apart differ. -/
lemma ofNat_add_injOn (last : UInt32) :
    Set.InjOn (fun k : ℕ => last + UInt32.ofNat k) (Finset.Icc 1 (2 ^ 16)) := by
  intro a ha b hb hab
  rw [Finset.coe_Icc, Set.mem_Icc] at ha hb
  have := congrArg UInt32.toNat ((UInt32.add_right_inj last).mp hab)
  rwa [UInt32.toNat_ofNat_of_lt' (by have := ha.2; simp only [UInt32.size]; omega),
    UInt32.toNat_ofNat_of_lt' (by have := hb.2; simp only [UInt32.size]; omega)] at this

/-- A table of fewer than `2 ^ 16 - 1` subscriptions leaves an unused id among any `2 ^ 16` in a row:
at most one of them is zero, and at most that many are in use. -/
lemma exists_unused (hlen : t.subscriptions.toList.length < 2 ^ 16 - 1) :
    ∃ k : ℕ, 1 ≤ k ∧ k ≤ 2 ^ 16 ∧ t.Unused (t.lastId + UInt32.ofNat k) := by
  by_contra hnone
  push Not at hnone
  let taken : Finset UInt32 := insert 0 (t.subscriptions.toList.map Subscription.id).toFinset
  have hsub : (Finset.Icc 1 (2 ^ 16)).image (fun k : ℕ => t.lastId + UInt32.ofNat k) ⊆ taken := by
    intro id hid
    obtain ⟨k, hk, rfl⟩ := Finset.mem_image.mp hid
    rw [Finset.mem_Icc] at hk
    have hbad := hnone k hk.1 hk.2
    unfold Unused at hbad
    push Not at hbad
    rw [Finset.mem_insert, List.mem_toFinset, List.mem_map]
    by_cases hzero : t.lastId + UInt32.ofNat k = 0
    · exact .inl hzero
    · exact .inr (hbad hzero)
  have hcard := Finset.card_le_card hsub
  rw [Finset.card_image_of_injOn (ofNat_add_injOn t.lastId), Nat.card_Icc] at hcard
  have htaken : taken.card ≤ t.subscriptions.toList.length + 1 := by
    refine (Finset.card_insert_le _ _).trans ?_
    have := List.toFinset_card_le (t.subscriptions.toList.map Subscription.id)
    rw [List.length_map] at this
    omega
  omega

/-! ## Shares -/

/-- The subscriptions that belong to a fabric, counted fabric by fabric. -/
lemma length_filter_isSome_eq_sum (F : Finset FabricIndex) {l : List (Subscription P)}
    (hF : ∀ s ∈ l, ∀ f, s.fabricIndex = some f → f ∈ F) : (l.filter fun s => s.fabricIndex.isSome).length =
      ∑ f ∈ F, (l.filter fun s => s.fabricIndex == some f).length := by
  induction l with
  | nil => simp
  | cons s l ih =>
    have ih := ih fun s hs => hF s (List.mem_cons_of_mem _ hs)
    have hcons : ∀ f, ((s :: l).filter fun s => s.fabricIndex == some f).length =
        (l.filter fun s => s.fabricIndex == some f).length +
          if s.fabricIndex = some f then 1 else 0 := by
      intro f
      rw [List.filter_cons]
      by_cases h : s.fabricIndex = some f <;> simp [h]
    simp only [hcons, Finset.sum_add_distrib, ← ih]
    rcases hs : s.fabricIndex with _ | f
    · simp [hs]
    · have hmem : f ∈ F := hF s List.mem_cons_self f hs
      simp [hs, hmem]

/-- What the admission of requests keeps: the subscriptions of no fabric leave room for every share,
and no fabric, all of them in `F`, exceeds its own. -/
structure Promised (config : SubscriptionConfig) (F : Finset FabricIndex)
    (t : SubscriptionTable N P) : Prop where
  room : t.lenOfFabric none + config.fabrics * config.perFabric ≤ N
  share : ∀ f, t.lenOfFabric (some f) ≤ config.perFabric
  known : ∀ s ∈ t.subscriptions.toList, ∀ f, s.fabricIndex = some f → f ∈ F

/-- The subscriptions of some fabric. -/
def claimed (t : SubscriptionTable N P) : ℕ :=
  (t.subscriptions.toList.filter fun s => s.fabricIndex.isSome).length

lemma length_eq_add_claimed : t.subscriptions.toList.length = t.lenOfFabric none + t.claimed := by
  unfold lenOfFabric claimed
  rw [List.length_eq_length_filter_add fun s => s.fabricIndex == none]
  congr 3
  funext s
  cases s.fabricIndex <;> rfl

namespace Promised

variable {config : SubscriptionConfig} {F : Finset FabricIndex} {t t' : SubscriptionTable N P}

lemma claimed_le (h : Promised config F t) (hF : F.card ≤ config.fabrics) :
    t.claimed ≤ config.fabrics * config.perFabric := by
  unfold claimed
  rw [length_filter_isSome_eq_sum F h.known]
  calc ∑ f ∈ F, t.lenOfFabric (some f)
      ≤ F.card * config.perFabric := Finset.sum_le_card_nsmul F _ _ fun f _ => h.share f
    _ ≤ config.fabrics * config.perFabric := Nat.mul_le_mul_right _ hF

/-- While a fabric of `F` is below its share, the promises are not used up. -/
lemma claimed_lt (h : Promised config F t) (hF : F.card ≤ config.fabrics) {f : FabricIndex}
    (hf : f ∈ F) (hbelow : t.lenOfFabric (some f) < config.perFabric) :
    t.claimed < config.fabrics * config.perFabric := by
  unfold claimed
  rw [length_filter_isSome_eq_sum F h.known]
  calc ∑ f ∈ F, t.lenOfFabric (some f)
      < ∑ _f ∈ F, config.perFabric :=
        Finset.sum_lt_sum (fun f _ => h.share f) ⟨f, hf, hbelow⟩
    _ = F.card * config.perFabric := by rw [Finset.sum_const, smul_eq_mul]
    _ ≤ config.fabrics * config.perFabric := Nat.mul_le_mul_right _ hF

/-- Ending subscriptions keeps the promises. -/
lemma of_sublist (h : Promised config F t)
    (hsub : t'.subscriptions.toList.Sublist t.subscriptions.toList) : Promised config F t' := by
  have hlen : ∀ fabric, t'.lenOfFabric fabric ≤ t.lenOfFabric fabric :=
    fun fabric => (hsub.filter _).length_le
  refine ⟨?_, ?_, ?_⟩
  · have := hlen none
    have := h.room
    omega
  · intro f
    exact (hlen (some f)).trans (h.share f)
  · intro s hs
    exact h.known s (hsub.subset hs)

lemma new (hN : config.fabrics * config.perFabric ≤ N) : Promised config F (new : SubscriptionTable N P) :=
  ⟨by simpa [lenOfFabric, SubscriptionTable.new, BoundedVec.empty] using hN,
    by simp [lenOfFabric, SubscriptionTable.new, BoundedVec.empty],
    by simp [SubscriptionTable.new, BoundedVec.empty]⟩

/-- A subscription of no fabric is admitted from what is promised to none, one of a fabric while the
fabric is below its share. -/
lemma append (h : Promised config F t) (hF : F.card ≤ config.fabrics) {fabric : Option FabricIndex}
    (hmem : ∀ f, fabric = some f → f ∈ F) (hadmits : t.admits config fabric = .ok ())
    {sub : Subscription P} (hsub : sub.fabricIndex = fabric)
    (ht' : t'.subscriptions.toList = t.subscriptions.toList ++ [sub]) : Promised config F t' := by
  have hlen : ∀ other, t'.lenOfFabric other =
      t.lenOfFabric other + if fabric = other then 1 else 0 := by
    intro other
    unfold lenOfFabric
    rw [ht', List.filter_append, List.length_append]
    by_cases h : fabric = other <;> simp [hsub, h]
  have hknown : ∀ s ∈ t'.subscriptions.toList, ∀ f, s.fabricIndex = some f → f ∈ F := by
    intro s hs f hf
    rw [ht', List.mem_append, List.mem_singleton] at hs
    rcases hs with hs | rfl
    · exact h.known s hs f hf
    · exact hmem f (hsub.symm.trans hf)
  unfold admits at hadmits
  rcases fabric with _ | g
  · have howed : config.fabrics * config.perFabric - t.claimed < N - t.subscriptions.toList.length := by
      simpa only [claimed, Option.isSome_none, Bool.false_eq_true, if_false, ensure_eq_ok] using hadmits
    rw [length_eq_add_claimed] at howed
    have hclaimed := h.claimed_le hF
    refine ⟨?_, ?_, hknown⟩
    · rw [hlen, if_pos rfl]
      omega
    · intro f
      rw [hlen, if_neg nofun]
      exact h.share f
  · have hbelow : t.lenOfFabric (some g) < config.perFabric := by
      simpa only [Option.isSome_some, if_true, ensure_eq_ok] using hadmits
    refine ⟨?_, ?_, hknown⟩
    · rw [hlen, if_neg nofun]
      exact h.room
    · intro f
      rw [hlen]
      split_ifs with hfg
      · rw [← hfg]
        exact hbelow
      · exact h.share f

end Promised

lemma forget_sublist (r : NewSubscription) :
    (t.forget r).subscriptions.toList.Sublist t.subscriptions.toList := by
  unfold forget
  split_ifs
  · exact List.Sublist.refl _
  · exact List.filter_sublist

/-- A well-formed request of a fabric below its share is accepted. -/
lemma subscribe_of_below_share {config : SubscriptionConfig} {F : Finset FabricIndex}
    {t : SubscriptionTable N P} (h : Promised config F t) (hF : F.card ≤ config.fabrics)
    {f : FabricIndex} (hf : f ∈ F) (hbelow : t.lenOfFabric (some f) < config.perFabric)
    {r : NewSubscription} (hr : r.WellFormed P) (hfabric : r.fabricIndex = some f) (now : Instant) :
    ∃ id, (t.subscribe config r now).1 = .ok id := by
  have hforget := h.of_sublist (t.forget_sublist r)
  have hbelow : (t.forget r).lenOfFabric (some f) < config.perFabric :=
    lt_of_le_of_lt (((t.forget_sublist r).filter _).length_le) hbelow
  have hlen : (t.forget r).subscriptions.toList.length < N := by
    have := hforget.claimed_lt hF hf hbelow
    have := hforget.room
    rw [length_eq_add_claimed]
    omega
  have hadmits : (t.forget r).admits config r.fabricIndex = .ok () := by
    unfold admits
    rw [hfabric, Option.isSome_some, if_pos rfl, ensure_eq_ok]
    exact hbelow
  rcases t.subscribe_cases config r now with ⟨-, sub, -, -, -, -, -, hok, -⟩ | ⟨hnot, -⟩
  · exact ⟨_, hok⟩
  · exact absurd ⟨hr, hlen, hadmits⟩ hnot

/-! ## Runs -/

/-- The ids of a table are distinct, and none is zero. -/
structure Identified (t : SubscriptionTable N P) : Prop where
  unique : KeysUnique Subscription.id t.subscriptions.toList
  ne_zero : ∀ s ∈ t.subscriptions.toList, s.id ≠ 0

namespace Identified

variable {t t' : SubscriptionTable N P}

lemma new : Identified (new : SubscriptionTable N P) :=
  ⟨KeysUnique.nil, by simp [SubscriptionTable.new, BoundedVec.empty]⟩

lemma of_sublist (h : t.Identified)
    (hsub : t'.subscriptions.toList.Sublist t.subscriptions.toList) : t'.Identified :=
  ⟨List.Nodup.sublist (hsub.map _) h.unique, fun s hs => h.ne_zero s (hsub.subset hs)⟩

/-- The ids stay good when a subscription is added exactly if its id was unused. -/
lemma append_iff (h : t.Identified) {sub : Subscription P}
    (ht' : t'.subscriptions.toList = t.subscriptions.toList ++ [sub]) :
    t'.Identified ↔ t.Unused sub.id := by
  constructor
  · intro h'
    refine ⟨h'.ne_zero sub (by simp [ht']), ?_⟩
    intro s hs heq
    have hunique := h'.unique
    rw [ht', KeysUnique, List.map_append, List.nodup_append] at hunique
    exact hunique.2.2 s.id (List.mem_map_of_mem hs) sub.id (by simp) heq
  · intro hunused
    refine ⟨?_, ?_⟩
    · rw [ht']
      exact h.unique.append_singleton hunused.2
    · intro s hs
      rw [ht', List.mem_append, List.mem_singleton] at hs
      rcases hs with hs | rfl
      · exact h.ne_zero s hs
      · exact hunused.1

end Identified

/-- What a table owes its fabrics, all of them in `F`: none holds more than its share, the ids are
distinct and not zero, and a well-formed request of a fabric below its share is accepted. -/
structure Served (config : SubscriptionConfig) (F : Finset FabricIndex)
    (t : SubscriptionTable N P) : Prop where
  share : ∀ f, t.lenOfFabric (some f) ≤ config.perFabric
  ids : t.Identified
  accepts : ∀ f ∈ F, t.lenOfFabric (some f) < config.perFabric → ∀ r : NewSubscription,
    r.WellFormed P → r.fabricIndex = some f → ∀ now, ∃ id, (t.subscribe config r now).1 = .ok id

end SubscriptionTable

namespace ShareOp

open SubscriptionTable

variable {N P : ℕ} {config : SubscriptionConfig} {F : Finset FabricIndex}
  {t : SubscriptionTable N P}

/-- A call that is not a request only ends subscriptions. -/
lemma step_sublist (t : SubscriptionTable N P) {op : ShareOp} (hop : ∀ r now, op ≠ .subscribe r now) :
    (op.step config t).subscriptions.toList.Sublist t.subscriptions.toList := by
  cases op with
  | subscribe r now => exact absurd rfl (hop r now)
  | remove id => exact List.eraseP_sublist
  | removeForSession session | removeForFabric fabric => exact List.filter_sublist

lemma promised_step (hF : F.card ≤ config.fabrics) {op : ShareOp} (hop : op.Within F)
    (h : Promised config F t) : Promised config F (op.step config t) := by
  cases op with
  | subscribe r now =>
    have hforget := h.of_sublist (t.forget_sublist r)
    show Promised config F (t.subscribe config r now).2
    rcases t.subscribe_cases config r now with
      ⟨hadmitted, sub, -, -, hfabric, -, -, -, hlist, -⟩ | ⟨-, e, heq⟩
    · exact hforget.append hF hop hadmitted.2.2 hfabric hlist
    · rw [heq]
      exact hforget
  | remove id => exact h.of_sublist (step_sublist t nofun)
  | removeForSession session | removeForFabric fabric => exact h.of_sublist (step_sublist t nofun)

/-- A call leaves the ids good exactly if it finds an id where it needs one. -/
lemma identified_step_iff (h : t.Identified) (op : ShareOp) :
    op.FindsId config t ↔ (op.step config t).Identified := by
  cases op with
  | subscribe r now =>
    have hforget := h.of_sublist (t.forget_sublist r)
    show ((t.forget r).Admitted config r → _) ↔ (t.subscribe config r now).2.Identified
    rcases t.subscribe_cases config r now with
      ⟨hadmitted, sub, hid, -, -, -, -, -, hlist, -⟩ | ⟨hnot, e, heq⟩
    · rw [hforget.append_iff hlist, hid, unused_allocateId_iff]
      exact ⟨fun h => h hadmitted, fun h _ => h⟩
    · rw [heq]
      exact ⟨fun _ => hforget, fun _ h => absurd h hnot⟩
  | remove id => exact iff_of_true trivial (h.of_sublist (step_sublist t nofun))
  | removeForSession session => exact iff_of_true trivial (h.of_sublist (step_sublist t nofun))
  | removeForFabric fabric => exact iff_of_true trivial (h.of_sublist (step_sublist t nofun))

/-- A table of fewer than `2 ^ 16` subscriptions always finds an id. -/
theorem findsId_of_lt (hN : N < 2 ^ 16) (op : ShareOp) : op.FindsId config t := by
  cases op with
  | subscribe r now =>
    intro hadmitted
    have := hadmitted.2.1
    exact (t.forget r).exists_unused (by omega)
  | remove id | removeForSession session | removeForFabric fabric => trivial

/-- Along a run in which the requests are of no fabric or of one of `F`, with room for a share of
each, every state is as its fabrics are owed exactly when each request that is admitted finds an unused
id among the `2 ^ 16` after the last. -/
theorem served_iff (hN : config.fabrics * config.perFabric ≤ N) (hF : F.card ≤ config.fabrics)
    (ops : List ShareOp) (hops : ∀ op ∈ ops, op.Within F) : (∀ before, before <+: ops →
      Served config F (before.foldl (step config) (new : SubscriptionTable N P))) ↔
      Throughout (step config) (fun t op => op.FindsId config t) (new : SubscriptionTable N P) ops := by
  rw [Throughout.iff_forall_isPrefix Identified.new fun t op h => identified_step_iff h op]
  refine forall₂_congr fun before hbefore => ⟨fun h => h.ids, fun hids => ?_⟩
  have hpromised : Promised config F (before.foldl (step config) (new : SubscriptionTable N P)) :=
    foldl_invariant (fun t op => promised_step hF) (fun op hop => hops op (hbefore.subset hop))
      (Promised.new hN)
  refine ⟨hpromised.share, hids, ?_⟩
  intro f hf hbelow r hr hfabric now
  exact subscribe_of_below_share hpromised hF hf hbelow hr hfabric now

/-- A table of the smallest dimensions, after the request of one fabric. -/
theorem served_one_fabric : Served ⟨5, 3⟩ {⟨1⟩}
      ([.subscribe ⟨none, some ⟨1⟩, none, false, true, 0, 10, [.ofIds 1 6 0], [], 0⟩ ⟨0⟩].foldl
        (step ⟨5, 3⟩) (new : SubscriptionTable 15 3)) := by
  have hserved : ∀ before, before <+: [.subscribe ⟨none, some ⟨1⟩, none, false, true, 0, 10,
      [.ofIds 1 6 0], [], 0⟩ ⟨0⟩] →
      Served ⟨5, 3⟩ {⟨1⟩} (before.foldl (step ⟨5, 3⟩) (new : SubscriptionTable 15 3)) :=
    (served_iff (by decide) (by decide) _ (by simp [Within])).mpr ⟨findsId_of_lt (by decide) _, trivial⟩
  exact hserved _ List.prefix_rfl

/-! ## A run that exhausts the search -/

/-- A request of no fabric, over one path. -/
def wanting (session : Option SessionId) : NewSubscription :=
  ⟨session, none, none, false, true, 0, 10, [.ofIds 1 6 0], [], 0⟩

/-- The table holds the ids from one to `n`, of no fabric and no session, and has handed out `m`. -/
structure Filled (n m : ℕ) (t : SubscriptionTable 65551 3) : Prop where
  ids : t.subscriptions.toList.map Subscription.id = (List.range' 1 n).map UInt32.ofNat
  fabric : ∀ s ∈ t.subscriptions.toList, s.fabricIndex = none
  session : ∀ s ∈ t.subscriptions.toList, s.session = none
  last : t.lastId = UInt32.ofNat m

namespace Filled

variable {n m : ℕ} {t : SubscriptionTable 65551 3}

lemma length_eq (h : Filled n m t) : t.subscriptions.toList.length = n := by
  have := congrArg List.length h.ids
  simpa using this

lemma admitted (h : Filled n m t) (hn : n ≤ 65535) (session : Option SessionId) :
    (t.forget (wanting session)).Admitted ⟨5, 3⟩ (wanting session) := by
  show t.Admitted ⟨5, 3⟩ (wanting session)
  have hclaimed : (t.subscriptions.toList.filter fun s => s.fabricIndex.isSome) = [] := by
    rw [List.filter_eq_nil_iff]
    intro s hs
    simp [h.fabric s hs]
  refine ⟨⟨fun hnone => List.cons_ne_nil _ _ hnone.1, by simp [wanting], by simp [wanting]⟩, ?_, ?_⟩
  · rw [h.length_eq]
    omega
  · show ensure (5 * 3 - (t.subscriptions.toList.filter fun s => s.fabricIndex.isSome).length <
      65551 - t.subscriptions.toList.length) _ = _
    rw [hclaimed, h.length_eq, ensure_eq_ok]
    simp only [List.length_nil]
    omega

lemma mem_ids_iff (h : Filled n m t) {id : UInt32} :
    (∃ s ∈ t.subscriptions.toList, s.id = id) ↔ ∃ k, 1 ≤ k ∧ k ≤ n ∧ UInt32.ofNat k = id := by
  rw [← List.mem_map, h.ids, List.mem_map]
  simp only [List.mem_range'_1]
  constructor
  · rintro ⟨k, hk, rfl⟩
    exact ⟨k, hk.1, by omega, rfl⟩
  · rintro ⟨k, hk, hk', rfl⟩
    exact ⟨k, ⟨hk, by omega⟩, rfl⟩

lemma identified (h : Filled n m t) (hn : n < 2 ^ 32) : t.Identified := by
  have hval : ∀ k ∈ List.range' 1 n, (UInt32.ofNat k).toNat = k := by
    intro k hk
    rw [List.mem_range'_1] at hk
    exact UInt32.toNat_ofNat_of_lt' (by simp only [UInt32.size]; omega)
  refine ⟨?_, ?_⟩
  · rw [KeysUnique, h.ids]
    refine List.Nodup.map_on ?_ List.nodup_range'
    intro a ha b hb hab
    rw [← hval a ha, ← hval b hb, hab]
  · intro s hs hzero
    obtain ⟨k, hk, hk', hid⟩ := h.mem_ids_iff.mp ⟨s, hs, hzero⟩
    have := hval k (List.mem_range'_1.mpr ⟨hk, by omega⟩)
    rw [hid] at this
    exact absurd this (by simp only [UInt32.toNat_zero]; omega)

/-- The id after the last is handed out, as long as the counter does not wrap. -/
lemma allocateId_eq (h : Filled n m t) (hnm : n ≤ m) (hm : m + 1 < 2 ^ 32) :
    t.allocateId = UInt32.ofNat (m + 1) := by
  have hnext : t.lastId + 1 = UInt32.ofNat (m + 1) := by
    rw [h.last, UInt32.ofNat_add]
    rfl
  have hunused : t.Unused (t.lastId + 1) := by
    have hval : (UInt32.ofNat (m + 1)).toNat = m + 1 := UInt32.toNat_ofNat_of_lt' hm
    refine ⟨?_, ?_⟩
    · intro hzero
      rw [hnext] at hzero
      rw [hzero] at hval
      exact absurd hval (by simp)
    · intro s hs hid
      obtain ⟨k, -, hk, heq⟩ := h.mem_ids_iff.mp ⟨s, hs, hid⟩
      have := congrArg UInt32.toNat heq
      rw [hnext, hval, UInt32.toNat_ofNat_of_lt' (show k < UInt32.size by
        simp only [UInt32.size]; omega)] at this
      omega
  obtain ⟨rounds, hrounds⟩ : ∃ rounds, 2 ^ 16 = rounds + 1 := ⟨65535, rfl⟩
  unfold allocateId
  rw [hrounds, allocateIdIn, if_pos (unused_iff.mp hunused), hnext]

lemma subscribe (h : Filled n n t) (hn : n < 65535) (now : Instant) :
    Filled (n + 1) (n + 1) (t.subscribe ⟨5, 3⟩ (wanting none) now).2 := by
  rcases t.subscribe_cases ⟨5, 3⟩ (wanting none) now with
    ⟨-, sub, hid, hsession, hfabric, -, -, -, hlist, hlast⟩ | ⟨hnot, -⟩
  · rw [show t.forget (wanting none) = t from rfl] at hid hlist hlast
    rw [h.allocateId_eq le_rfl (by omega)] at hid hlast
    refine ⟨?_, ?_, ?_, hlast⟩
    · rw [hlist, List.map_append, h.ids, List.range'_1_concat, List.map_append]
      simp [hid, Nat.add_comm]
    · intro s hs
      rw [hlist, List.mem_append, List.mem_singleton] at hs
      rcases hs with hs | rfl
      · exact h.fabric s hs
      · exact hfabric
    · intro s hs
      rw [hlist, List.mem_append, List.mem_singleton] at hs
      rcases hs with hs | rfl
      · exact h.session s hs
      · exact hsession
  · exact absurd (h.admitted hn.le none) hnot

/-- A subscription that comes and goes moves the counter and nothing else. -/
lemma subscribe_remove (h : Filled n m t) (hn : n ≤ 65535) (hnm : n ≤ m) (hm : m + 1 < 2 ^ 32)
    (now : Instant) :
    Filled n (m + 1) ((t.subscribe ⟨5, 3⟩ (wanting (some ⟨1⟩)) now).2.removeForSession (some ⟨1⟩)) := by
  rcases t.subscribe_cases ⟨5, 3⟩ (wanting (some ⟨1⟩)) now with
    ⟨-, sub, -, hsession, -, -, -, -, hlist, hlast⟩ | ⟨hnot, -⟩
  · rw [show t.forget (wanting (some ⟨1⟩)) = t from rfl] at hlist hlast
    rw [h.allocateId_eq hnm hm] at hlast
    have hsame : ((t.subscribe ⟨5, 3⟩ (wanting (some ⟨1⟩)) now).2.removeForSession
        (some ⟨1⟩)).subscriptions.toList = t.subscriptions.toList := by
      show List.filter _ (t.subscribe ⟨5, 3⟩ (wanting (some ⟨1⟩)) now).2.subscriptions.toList = _
      rw [hlist, List.filter_append, List.filter_eq_self.mpr]
      · simp [hsession, wanting]
      · intro s hs
        simp [h.session s hs]
    exact ⟨by rw [hsame]; exact h.ids, by rw [hsame]; exact h.fabric, by rw [hsame]; exact h.session,
      hlast⟩
  · exact absurd (h.admitted hn _) hnot

/-- With the counter about to wrap, every id it looks at is zero or in use. -/
lemma not_findsId (h : Filled 65535 (2 ^ 32 - 1) t) (now : Instant) :
    ¬(ShareOp.subscribe (wanting none) now).FindsId ⟨5, 3⟩ t := by
  intro hfinds
  obtain ⟨k, hk, hk', hunused⟩ := hfinds (h.admitted le_rfl none)
  have hid : t.lastId + UInt32.ofNat k = UInt32.ofNat (k - 1) := by
    rw [h.last, ← UInt32.ofNat_add]
    apply UInt32.toNat.inj
    simp only [UInt32.toNat_ofNat']
    omega
  rw [show t.forget (wanting none) = t from rfl, hid] at hunused
  rcases Nat.eq_zero_or_pos (k - 1) with hzero | hpos
  · exact hunused.1 (by rw [hzero]; rfl)
  · obtain ⟨s, hs, hsid⟩ := h.mem_ids_iff.mpr ⟨k - 1, hpos, by omega, rfl⟩
    exact hunused.2 s hs hsid

end Filled

/-- A table is filled up to `n`, and then a subscription comes and goes `m` times. -/
def filling (n m : ℕ) : List ShareOp :=
  List.replicate n (.subscribe (wanting none) ⟨0⟩) ++
    (List.replicate m
      [.subscribe (wanting (some ⟨1⟩)) ⟨0⟩, .removeForSession (some ⟨1⟩)]).flatten

lemma filled_filling {n m : ℕ} (hn : n ≤ 65535) (hm : n + m < 2 ^ 32) :
    Filled n (n + m) ((filling n m).foldl (step ⟨5, 3⟩) new) := by
  have hfill : ∀ n, n ≤ 65535 → Filled n n
      ((List.replicate n (.subscribe (wanting none) ⟨0⟩)).foldl (step ⟨5, 3⟩) new) := by
    intro n hn
    induction n with
    | zero =>
      exact ⟨rfl, fun s hs => absurd hs List.not_mem_nil, fun s hs => absurd hs List.not_mem_nil, rfl⟩
    | succ n ih =>
      rw [List.replicate_succ', List.foldl_append]
      exact (ih (by omega)).subscribe (by omega) ⟨0⟩
  unfold filling
  rw [List.foldl_append]
  induction m with
  | zero => exact hfill n hn
  | succ m ih =>
    rw [List.replicate_succ', List.flatten_append, List.foldl_append]
    exact (ih (by omega)).subscribe_remove hn (by omega) (by omega) ⟨0⟩

/-- The table holds `65535` subscriptions of no fabric and has handed out every id there is when one
more request comes. -/
def exhausting : List ShareOp :=
  filling 65535 (2 ^ 32 - 65536) ++ [.subscribe (wanting none) ⟨0⟩]

/-- The last request of the run is given an id that is in use. -/
theorem exhausting_repeats_id : (5 * 3 ≤ 65551 ∧ ∀ op ∈ exhausting, op.Within ∅) ∧
      ¬Served ⟨5, 3⟩ ∅ (exhausting.foldl (step ⟨5, 3⟩) (new : SubscriptionTable 65551 3)) := by
  have hwanting : ∀ session now, (ShareOp.subscribe (wanting session) now).Within ∅ :=
    fun session now f hf => nomatch hf
  refine ⟨⟨by decide, ?_⟩, ?_⟩
  · intro op hop
    simp only [exhausting, filling, List.mem_append, List.mem_replicate, List.mem_flatten,
      List.mem_singleton] at hop
    obtain (⟨-, rfl⟩ | ⟨l, ⟨-, rfl⟩, hop⟩) | rfl := hop
    · exact hwanting _ _
    · rw [List.mem_cons, List.mem_singleton] at hop
      rcases hop with rfl | rfl
      · exact hwanting _ _
      · trivial
    · exact hwanting _ _
  · intro hserved
    have hfilled := filled_filling (n := 65535) (m := 2 ^ 32 - 65536) le_rfl (by norm_num)
    rw [show 65535 + (2 ^ 32 - 65536) = 2 ^ 32 - 1 by norm_num] at hfilled
    have hids := hserved.ids
    rw [exhausting, List.foldl_append, List.foldl_cons, List.foldl_nil] at hids
    generalize (filling 65535 (2 ^ 32 - 65536)).foldl (step ⟨5, 3⟩) new = t at hfilled hids
    exact hfilled.not_findsId ⟨0⟩ ((identified_step_iff (hfilled.identified (by norm_num)) _).mpr hids)

end ShareOp

end MatterKit.Im
