import MatterKit.Im.Shares

/-!
# Whose subscriptions a new one ends

A subscriber that asks without `KeepSubscriptions` is "saying 'I have restarted, forget what you knew
about me'", and its subscriptions end. A subscriber is a node of a fabric, and a subscription carries
both; `subscribe` goes by the session instead, and ends what has the session of the request.

`endsItsOwn_iff` is when the two agree: the subscriptions in the table on the session of the request are
those of its subscriber.
-/

namespace MatterKit.Im

open Lib

variable {N P : ℕ}

/-- The subscription is of a node of a fabric. -/
def Subscription.OfSubscriber (s : Subscription P) (fabric : FabricIndex) (peer : NodeId) : Prop :=
  s.fabricIndex = some fabric ∧ s.peerNodeId = some peer

instance (s : Subscription P) (fabric : FabricIndex) (peer : NodeId) :
    Decidable (s.OfSubscriber fabric peer) := inferInstanceAs (Decidable (_ ∧ _))

namespace SubscriptionTable

/-- The subscriptions of a node of a fabric. -/
def ofSubscriber (t : SubscriptionTable N P) (fabric : FabricIndex) (peer : NodeId) :
    List (Subscription P) :=
  t.subscriptions.toList.filter fun s => s.OfSubscriber fabric peer

/-- From one table to another the node's subscriptions have become the one with an id, and everybody
else's are there as before. -/
def EndsItsOwn (t t' : SubscriptionTable N P) (fabric : FabricIndex) (peer : NodeId) (id : UInt32) :
    Prop :=
  (∃ sub, t'.ofSubscriber fabric peer = [sub] ∧ sub.id = id ∧
    t'.subscriptions.toList.getLast? = some sub) ∧
  ∀ s ∈ t.subscriptions.toList, ¬ s.OfSubscriber fabric peer → s ∈ t'.subscriptions.toList

/-- A subscription that is made is appended, with the id that is returned and the subscriber of the
request. -/
lemma subscribe_of_ok {t : SubscriptionTable N P} {config : SubscriptionConfig} {r : NewSubscription}
    {now : Instant} {id : UInt32} (h : (t.subscribe config r now).1 = .ok id) :
    ∃ sub : Subscription P, sub.id = id ∧ sub.fabricIndex = r.fabricIndex ∧
      sub.peerNodeId = r.peerNodeId ∧ (t.subscribe config r now).2.subscriptions.toList =
        (t.forget r).subscriptions.toList ++ [sub] := by
  unfold subscribe at h ⊢
  simp only at h ⊢
  rw [show (if r.keepSubscriptions = true then t else t.removeForSession r.session) = t.forget r
    from rfl] at h ⊢
  by_cases hnone : r.paths = [] ∧ r.eventPaths = []
  · rw [if_pos hnone] at h
    cases h
  rw [if_neg hnone] at h ⊢
  rcases hpaths : (bounded r.paths : Option (BoundedVec AttributePath P)) with _ | paths
  · rw [hpaths] at h
    cases h
  rcases hevents : (bounded r.eventPaths : Option (BoundedVec EventPath P)) with _ | eventPaths
  · rw [hpaths, hevents] at h
    cases h
  rw [hpaths, hevents] at h
  simp only at h ⊢
  by_cases hfull : (t.forget r).subscriptions.toList.length ≥ N
  · rw [if_pos hfull] at h
    cases h
  rw [if_neg hfull] at h ⊢
  rcases hadmits : (t.forget r).admits config r.fabricIndex with e | u
  · rw [hadmits] at h
    cases h
  rw [hadmits] at h
  simp only at h ⊢
  unfold BoundedVec.push at h ⊢
  rw [dif_pos (not_le.mp hfull)] at h ⊢
  exact ⟨_, Except.ok.inj h, rfl, rfl, rfl⟩

/-- **A new subscription ends its subscriber's others and nobody else's exactly if the subscriptions
on its session are its subscriber's.** -/
theorem endsItsOwn_iff (t : SubscriptionTable N P) (config : SubscriptionConfig)
    (r : NewSubscription) (now : Instant) (fabric : FabricIndex) (peer : NodeId) (id : UInt32)
    (hkeep : r.keepSubscriptions = false) (hfabric : r.fabricIndex = some fabric)
    (hpeer : r.peerNodeId = some peer) (hok : (t.subscribe config r now).1 = .ok id) :
    t.EndsItsOwn (t.subscribe config r now).2 fabric peer id ↔
      ∀ s ∈ t.subscriptions.toList, s.session = r.session ↔ s.OfSubscriber fabric peer := by
  obtain ⟨sub, hid, hsubFabric, hsubPeer, hlist⟩ := subscribe_of_ok hok
  have hown : sub.OfSubscriber fabric peer := ⟨hsubFabric.trans hfabric, hsubPeer.trans hpeer⟩
  have hleft : (t.forget r).subscriptions.toList =
      t.subscriptions.toList.filter fun s => s.session != r.session := by
    unfold forget
    rw [hkeep]
    rfl
  have hmem : ∀ s, s ∈ (t.forget r).subscriptions.toList ↔
      s ∈ t.subscriptions.toList ∧ s.session ≠ r.session := by
    intro s
    rw [hleft, List.mem_filter, bne_iff_ne]
  have hof : (t.subscribe config r now).2.ofSubscriber fabric peer =
      (t.forget r).subscriptions.toList.filter (fun s => decide (s.OfSubscriber fabric peer)) ++
        [sub] := by
    unfold ofSubscriber
    rw [hlist, List.filter_append, List.filter_singleton, decide_eq_true hown]
    rfl
  unfold EndsItsOwn
  rw [hof, hlist, List.getLast?_concat]
  constructor
  · rintro ⟨⟨new, hnew, -, -⟩, hothers⟩ s hs
    -- what is left of the subscriber is the new one, so nothing of it is on another session
    have hgone : (t.forget r).subscriptions.toList.filter
        (fun s => decide (s.OfSubscriber fabric peer)) = [] := by
      have hlength := congrArg List.length hnew
      rw [List.length_append, List.length_singleton] at hlength
      exact List.length_eq_zero_iff.mp (by simpa using hlength)
    constructor
    · intro hsession
      by_contra hother
      rcases List.mem_append.mp (hothers s hs hother) with hkept | hsub
      · exact ((hmem s).mp hkept).2 hsession
      · rw [List.mem_singleton] at hsub
        exact hother (hsub ▸ hown)
    · intro hof
      by_contra hsession
      have hnone := List.filter_eq_nil_iff.mp hgone s ((hmem s).mpr ⟨hs, hsession⟩)
      exact hnone (decide_eq_true hof)
  · intro hagree
    have hgone : (t.forget r).subscriptions.toList.filter
        (fun s => decide (s.OfSubscriber fabric peer)) = [] := by
      rw [List.filter_eq_nil_iff]
      intro s hs hof
      obtain ⟨hold, hsession⟩ := (hmem s).mp hs
      exact hsession ((hagree s hold).mpr (of_decide_eq_true hof))
    refine ⟨⟨sub, by rw [hgone, List.nil_append], hid, rfl⟩, fun s hs hother => ?_⟩
    refine List.mem_append_left _ ((hmem s).mpr ⟨hs, fun hsession => ?_⟩)
    exact hother ((hagree s hs).mp hsession)

/-! ## A subscriber that comes back -/

/-- What node 7 of fabric 1 asks for on a session. -/
def fromSeven (session : SessionId) : NewSubscription :=
  ⟨some session, some ⟨1⟩, some ⟨7⟩, true, false, 0, 60, [.wildcard], [], 0⟩

/-- The table after node 7 has subscribed on its first session. -/
def sevenSubscribed : SubscriptionTable 16 3 :=
  ((new : SubscriptionTable 16 3).subscribe ⟨5, 3⟩ (fromSeven ⟨3⟩) ⟨0⟩).2

/-- Node 7 subscribes again on the same session, and its first subscription is gone. -/
theorem endsItsOwn_iff_seven :
    sevenSubscribed.EndsItsOwn (sevenSubscribed.subscribe ⟨5, 3⟩ (fromSeven ⟨3⟩) ⟨9⟩).2 ⟨1⟩ ⟨7⟩ 2 ↔
      ∀ s ∈ sevenSubscribed.subscriptions.toList, s.session = some ⟨3⟩ ↔ s.OfSubscriber ⟨1⟩ ⟨7⟩ :=
  endsItsOwn_iff sevenSubscribed ⟨5, 3⟩ (fromSeven ⟨3⟩) ⟨9⟩ ⟨1⟩ ⟨7⟩ 2 rfl rfl rfl (by decide +kernel)

/-- Node 7 has restarted and subscribes on another session. It has two subscriptions then. -/
theorem not_endsItsOwn_restarted :
    ¬ ∀ (t : SubscriptionTable 16 3) (r : NewSubscription) (now : Instant) (fabric : FabricIndex)
        (peer : NodeId) (id : UInt32), r.keepSubscriptions = false → r.fabricIndex = some fabric →
      r.peerNodeId = some peer → (t.subscribe ⟨5, 3⟩ r now).1 = .ok id →
        t.EndsItsOwn (t.subscribe ⟨5, 3⟩ r now).2 fabric peer id := by
  intro hall
  obtain ⟨⟨sub, hone, -⟩, -⟩ :=
    hall sevenSubscribed (fromSeven ⟨4⟩) ⟨9⟩ ⟨1⟩ ⟨7⟩ 2 rfl rfl rfl (by decide +kernel)
  have htwo : ((sevenSubscribed.subscribe ⟨5, 3⟩ (fromSeven ⟨4⟩) ⟨9⟩).2.ofSubscriber ⟨1⟩ ⟨7⟩).length =
      2 := by
    decide +kernel
  rw [hone] at htwo
  exact absurd htwo (by simp)

end SubscriptionTable

end MatterKit.Im
