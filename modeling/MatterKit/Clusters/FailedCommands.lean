import MatterKit.Sc.Ephemeral

/-!
# Credential commands that fail half-way

`CSRRequest` and `SetVIDVerificationStatement` change the node before the last of their checks. A
`CSRRequest` destroys the key that waits and generates another one before it knows that it can build and
sign its answer, and before the answer has found room in the message; a `SetVIDVerificationStatement`
writes the statement before it looks at the VVSC.

`Unharmed` is what a command that fails should leave: the fabrics, the key that waits, and no key that
nobody refers to. Which requests it holds for is told by `CsrSafe` and `VidSafe`, exactly
(`failed_commands_unharmed_iff`).
-/

namespace MatterKit.Clusters

open Lib Machine Tlv Dm Im Commissioning

namespace OperationalCredentials

section unharmed

variable {N : ℕ} {K : Type} (c : CredentialCrypto K) (store : KeyStore K)

/-- A key of the store that belongs to no fabric and does not wait for a NOC command. -/
def Stray (s : CommissioningNode N K) (key : KeyHandle) : Prop :=
  store.Holds s.keys key ∧ (∀ f ∈ s.fabrics.fabrics.toList, f.operationalKey ≠ key) ∧
    ∀ pending, s.pendingCsr = some pending → pending.key ≠ key

/-- The fabrics are as before, the key that waited still waits and is as good as it was, and no key is
left that nobody refers to. -/
structure Unharmed (s s' : CommissioningNode N K) : Prop where
  fabrics : s'.fabrics = s.fabrics
  pending : ∀ pending, s.pendingCsr = some pending → s'.pendingCsr = some pending ∧
    (store.Holds s.keys pending.key → store.Holds s'.keys pending.key)
  strays : ∀ key, Stray store s' key → Stray store s key

/-- A `CSRRequest` with its response.
Source: `OperationalCredentials::csr_response`. -/
def answerCsr (nonce : List UInt8) (forUpdate : Bool) (ctx : InteractionContext)
    (random : List UInt8) (w : TlvWriter) (tag : Tag) (s : CommissioningNode N K) :
    Except StatusIb (Option CommandId) × CommissioningNode N K :=
  let (result, s) := exec (csrResponse c store nonce forUpdate ctx random) s
  ((respond (result.map fun signed => some (signedResponse 0x05 signed.1 signed.2)) w tag).1, s)

/-- The signed answer has room where it is to be written. -/
def Fits (signed : List UInt8 × List UInt8) (w : TlvWriter) (tag : Tag) : Prop :=
  (exec ((signedResponse 0x05 signed.1 signed.2).write tag) w).1.isOk = true

instance (signed : List UInt8 × List UInt8) (w : TlvWriter) (tag : Tag) :
    Decidable (Fits signed w tag) := inferInstanceAs (Decidable (_ = true))

/-- A `CSRRequest` that does no harm by failing: its checks refuse it; or no key waits, and none can be
generated, or the new one that cannot be signed over has a fabric's handle; or its answer has room or no
other key waits. -/
inductive CsrSafe (s : CommissioningNode N K) (nonce : List UInt8) (forUpdate : Bool)
    (ctx : InteractionContext) (random : List UInt8) (w : TlvWriter) (tag : Tag) : Prop
  | refused (status : Status) (hcheck : checkCsr s forUpdate ctx = .error status)
  | ungenerated {e : ErrorCode}
      (hgenerate : (store.generate (dropPendingKey store s).keys .operational random).1 = .error e)
      (hnone : s.pendingCsr = none)
  | unsigned {challenge : List UInt8} {key : KeyHandle} {publicKey : PublicKey} {e : ErrorCode}
      (hcheck : checkCsr s forUpdate ctx = .ok challenge)
      (hgenerate : (store.generate (dropPendingKey store s).keys .operational random).1 =
        .ok (key, publicKey))
      (hnocsr : c.nocsr (keyed store s random).keys key nonce challenge = .error e)
      (hnone : s.pendingCsr = none) (hknown : ∃ f ∈ s.fabrics.fabrics.toList, f.operationalKey = key)
  | signed {challenge : List UInt8} {key : KeyHandle} {publicKey : PublicKey}
      {signed : List UInt8 × List UInt8} (hcheck : checkCsr s forUpdate ctx = .ok challenge)
      (hgenerate : (store.generate (dropPendingKey store s).keys .operational random).1 =
        .ok (key, publicKey))
      (hnocsr : c.nocsr (keyed store s random).keys key nonce challenge = .ok signed)
      (hlast : Fits signed w tag ∨ s.pendingCsr = none ∨
        s.pendingCsr = some ⟨ctx.session, key, publicKey, forUpdate⟩)

/-- A `SetVIDVerificationStatement` gets to the VVSC it has, with a statement that is accepted. -/
structure Halfway (s : CommissioningNode N K) (statement vvsc : Option (List UInt8))
    (ctx : InteractionContext) (fabric : Fabric) (value : Option (Vector UInt8 85))
    (chain : List UInt8) : Prop where
  accessing : ctx.fabricIndex = some fabric.index
  found : s.fabrics.find fabric.index = some fabric
  statement : ∃ octets, statement = some octets ∧ statementOf octets = .ok value
  vvsc : vvsc = some chain

/-- A `SetVIDVerificationStatement` that does no harm by failing: if it gets so far, its VVSC is
accepted or its statement is the one that is set already. -/
def VidSafe (s : CommissioningNode N K) (statement vvsc : Option (List UInt8))
    (ctx : InteractionContext) : Prop :=
  ∀ fabric value chain, Halfway s statement vvsc ctx fabric value chain →
    (setVvsc fabric.credentials chain).isOk = true ∨ fabric.vidVerificationStatement = value

variable {c store} {s s' : CommissioningNode N K} {ctx : InteractionContext}

lemma Unharmed.refl (s : CommissioningNode N K) : Unharmed store s s where
  fabrics := rfl
  pending _ h := ⟨h, id⟩
  strays _ h := h

/-! ## A CSRRequest -/

/-- What is in the store once the key that waited is gone. -/
lemma holds_dropped_iff (hstore : store.Exact) (key : KeyHandle) :
    store.Holds (dropPendingKey store s).keys key ↔
      store.Holds s.keys key ∧ ∀ pending, s.pendingCsr = some pending → pending.key ≠ key := by
  unfold dropPendingKey
  cases hpending : s.pendingCsr with
  | none => simp
  | some pending =>
    rw [hstore.removed]
    constructor
    · rintro ⟨hheld, hne⟩
      refine ⟨hheld, fun pending' hsome => ?_⟩
      obtain rfl := Option.some.inj hsome
      exact hne.symm
    · rintro ⟨hheld, hother⟩
      exact ⟨hheld, (hother pending rfl).symm⟩

/-- A key that has just been generated is not yet the pending one. -/
lemma pendingCsr_keyed (random : List UInt8) : (keyed store s random).pendingCsr = none :=
  pendingCsr_dropPendingKey

/-- Where the key that waited is gone, it is harmless that none waited. -/
lemma Unharmed.none_of_none (h : Unharmed store s s') (hnone : s'.pendingCsr = none) :
    s.pendingCsr = none := by
  cases hpending : s.pendingCsr with
  | none => rfl
  | some pending => cases hnone.symm.trans (h.pending pending hpending).1

/-- A key could not be generated. -/
lemma unharmed_ungenerated_iff (hstore : store.Exact) {random : List UInt8} {e : ErrorCode}
    (hgenerate : (store.generate (dropPendingKey store s).keys .operational random).1 = .error e) :
    Unharmed store s (keyed store s random) ↔ s.pendingCsr = none := by
  refine ⟨fun h => h.none_of_none (pendingCsr_keyed random), fun hnone => ?_⟩
  refine ⟨dropPendingKey_fabrics store s, fun pending hsome => ?_, ?_⟩
  · cases hnone.symm.trans hsome
  · rintro key ⟨hheld, hfabrics, -⟩
    have hbefore := (hstore.refused _ _ _ _ hgenerate key).mp hheld
    rw [holds_dropped_iff hstore] at hbefore
    exact ⟨hbefore.1, by simpa [keyed] using hfabrics, hbefore.2⟩

section generated

variable {random : List UInt8} {key : KeyHandle} {publicKey : PublicKey}

/-- The new key, and what was in the store but for the key that waited. -/
lemma holds_keyed_iff (hstore : store.Exact)
    (hgenerate : (store.generate (dropPendingKey store s).keys .operational random).1 =
      .ok (key, publicKey)) (other : KeyHandle) : store.Holds (keyed store s random).keys other ↔
      store.Holds (dropPendingKey store s).keys other ∨ other = key :=
  hstore.generated _ _ _ _ _ hgenerate other

/-- The answer over the new key could not be signed. -/
lemma unharmed_unsigned_iff (hstore : store.Exact)
    (hgenerate : (store.generate (dropPendingKey store s).keys .operational random).1 =
      .ok (key, publicKey)) : Unharmed store s (keyed store s random) ↔
      s.pendingCsr = none ∧ ∃ f ∈ s.fabrics.fabrics.toList, f.operationalKey = key := by
  have hfresh := hstore.fresh _ _ _ _ _ hgenerate
  have hfabrics : (keyed store s random).fabrics = s.fabrics := dropPendingKey_fabrics store s
  constructor
  · intro h
    have hnone := h.none_of_none (pendingCsr_keyed random)
    refine ⟨hnone, ?_⟩
    by_contra hunknown
    push Not at hunknown
    -- the new key is in the store and nobody refers to it, and it was not there before
    have hstray : Stray store (keyed store s random) key := by
      refine ⟨(holds_keyed_iff hstore hgenerate key).mpr (.inr rfl), by rwa [hfabrics], ?_⟩
      intro pending hsome
      cases (pendingCsr_keyed random).symm.trans hsome
    refine hfresh ((holds_dropped_iff hstore key).mpr ⟨(h.strays key hstray).1, ?_⟩)
    intro pending hsome
    cases hnone.symm.trans hsome
  · rintro ⟨hnone, f, hf, hkey⟩
    refine ⟨hfabrics, fun pending hsome => ?_, ?_⟩
    · cases hnone.symm.trans hsome
    · rintro other ⟨hheld, hother, -⟩
      rw [hfabrics] at hother
      rcases (holds_keyed_iff hstore hgenerate other).mp hheld with hbefore | rfl
      · rw [holds_dropped_iff hstore] at hbefore
        exact ⟨hbefore.1, hother, hbefore.2⟩
      · exact absurd hkey (hother f hf)

/-- The answer is signed and the new key waits. -/
lemma unharmed_recorded_iff (hstore : store.Exact) (ctx : InteractionContext) (armed : Armed)
    (forUpdate : Bool) (hgenerate : (store.generate (dropPendingKey store s).keys .operational random).1 =
      .ok (key, publicKey)) :
    Unharmed store s
      (recorded
        { keyed store s random with pendingCsr := some ⟨ctx.session, key, publicKey, forUpdate⟩ }
        armed fun p => { p with csrRequested := true }) ↔
      s.pendingCsr = none ∨ s.pendingCsr = some ⟨ctx.session, key, publicKey, forUpdate⟩ := by
  have hfabrics : (keyed store s random).fabrics = s.fabrics := dropPendingKey_fabrics store s
  constructor
  · intro h
    cases hpending : s.pendingCsr with
    | none => exact .inl rfl
    | some pending => exact .inr (h.pending pending hpending).1.symm
  · intro h
    refine ⟨hfabrics, fun pending hsome => ?_, ?_⟩
    · rw [hsome] at h
      rcases h with hnone | hsame
      · cases hnone
      · obtain rfl := Option.some.inj hsame
        exact ⟨rfl, fun _ => (holds_keyed_iff hstore hgenerate key).mpr (.inr rfl)⟩
    · rintro other ⟨hheld, hother, hpending⟩
      rcases (holds_keyed_iff hstore hgenerate other).mp hheld with hbefore | rfl
      · rw [holds_dropped_iff hstore] at hbefore
        exact ⟨hbefore.1, fun f hf => hother f (hfabrics ▸ hf), hbefore.2⟩
      · exact absurd rfl (hpending _ rfl)

end generated

/-- An answer that is not the error of the request says whether it has room. -/
lemma respond_isOk_iff (signed : List UInt8 × List UInt8) (w : TlvWriter) (tag : Tag) :
    (respond (.ok (some (signedResponse 0x05 signed.1 signed.2))) w tag).1.isOk = true ↔
      Fits signed w tag := by
  unfold respond Fits
  dsimp only
  cases exec ((signedResponse 0x05 signed.1 signed.2).write tag) w with
  | mk result w' => cases result <;> simp [Except.isOk, Except.toBool]

/-- A `CSRRequest` that fails does no harm exactly where it is safe. -/
lemma csr_unharmed_iff (hstore : store.Exact) (s : CommissioningNode N K) (nonce : List UInt8)
    (forUpdate : Bool) (ctx : InteractionContext) (random : List UInt8) (w : TlvWriter) (tag : Tag) :
    ((answerCsr c store nonce forUpdate ctx random w tag s).1.isOk = false →
      Unharmed store s (answerCsr c store nonce forUpdate ctx random w tag s).2) ↔
    CsrSafe c store s nonce forUpdate ctx random w tag := by
  obtain ⟨status, hcheck, hrun⟩ | ⟨challenge, armed, hcheck, -, -, -, hcase⟩ :=
    csrResponse_cases c store s nonce forUpdate ctx random
  · rw [answerCsr, hrun]
    exact ⟨fun _ => .refused status hcheck, fun _ _ => .refl s⟩
  · obtain ⟨e, hgenerate, hrun⟩ | ⟨key, publicKey, hgenerate, ⟨e, hnocsr, hrun⟩ | ⟨signed, hnocsr, hrun⟩⟩ :=
      hcase
    · rw [answerCsr, hrun]
      have hiff := unharmed_ungenerated_iff hstore hgenerate
      constructor
      · exact fun h => .ungenerated hgenerate (hiff.mp (h rfl))
      · intro h _
        cases h with
        | refused _ h => cases hcheck.symm.trans h
        | ungenerated _ hnone => exact hiff.mpr hnone
        | unsigned _ h | signed _ h => cases hgenerate.symm.trans h
    · rw [answerCsr, hrun]
      have hiff := unharmed_unsigned_iff hstore hgenerate
      constructor
      · intro h
        obtain ⟨hnone, hknown⟩ := hiff.mp (h rfl)
        exact .unsigned hcheck hgenerate hnocsr hnone hknown
      · intro h _
        cases h with
        | refused _ h => cases hcheck.symm.trans h
        | ungenerated h => cases hgenerate.symm.trans h
        | unsigned _ h _ hnone hknown =>
          obtain ⟨rfl, -⟩ := Prod.mk.inj (Except.ok.inj (hgenerate.symm.trans h))
          exact hiff.mpr ⟨hnone, hknown⟩
        | signed hcheck' h hnocsr' =>
          obtain rfl := Except.ok.inj (hcheck.symm.trans hcheck')
          obtain ⟨rfl, -⟩ := Prod.mk.inj (Except.ok.inj (hgenerate.symm.trans h))
          cases hnocsr.symm.trans hnocsr'
    · rw [answerCsr, hrun]
      dsimp only
      rw [show Except.map _ (Except.ok signed : Except Status _) =
        .ok (some (signedResponse 0x05 signed.1 signed.2)) from rfl, ← Bool.not_eq_true,
        respond_isOk_iff]
      have hiff := unharmed_recorded_iff hstore ctx armed forUpdate hgenerate
      constructor
      · intro h
        refine .signed hcheck hgenerate hnocsr ?_
        by_cases hfits : Fits signed w tag
        · exact .inl hfits
        · exact .inr (hiff.mp (h hfits))
      · intro h hfits
        cases h with
        | refused _ h => cases hcheck.symm.trans h
        | ungenerated h => cases hgenerate.symm.trans h
        | unsigned hcheck' h hnocsr' =>
          obtain rfl := Except.ok.inj (hcheck.symm.trans hcheck')
          obtain ⟨rfl, -⟩ := Prod.mk.inj (Except.ok.inj (hgenerate.symm.trans h))
          cases hnocsr.symm.trans hnocsr'
        | signed hcheck' h hnocsr' hlast =>
          obtain rfl := Except.ok.inj (hcheck.symm.trans hcheck')
          obtain ⟨rfl, rfl⟩ := Prod.mk.inj (Except.ok.inj (hgenerate.symm.trans h))
          obtain rfl := Except.ok.inj (hnocsr.symm.trans hnocsr')
          exact hiff.mpr (hlast.resolve_left hfits)

/-! ## A SetVIDVerificationStatement -/

/-- An edit of a table changes nothing exactly when it changes nothing of the fabric it is made to. -/
lemma update_eq_self_iff {t : FabricTable N} {index : FabricIndex} {f : Fabric → Fabric} :
    t.update index f = t ↔ ∀ fabric, t.find index = some fabric → f fabric = fabric := by
  obtain ⟨⟨fabrics, hle⟩, lastIndex⟩ := t
  rw [FabricTable.update, FabricTable.mk.injEq, BoundedVec.update, BoundedVec.mk.injEq, and_iff_left rfl]
  exact modifyFirst_eq_self_iff

/-- The statement of a fabric is set. -/
def stated (s : CommissioningNode N K) (accessing : FabricIndex) (value : Option (Vector UInt8 85)) :
    CommissioningNode N K :=
  { s with
    fabrics := s.fabrics.update accessing fun f => { f with vidVerificationStatement := value } }

lemma Halfway.unique {statement vvsc : Option (List UInt8)} {fabric fabric' : Fabric}
    {value value' : Option (Vector UInt8 85)} {chain chain' : List UInt8}
    (h : Halfway s statement vvsc ctx fabric value chain)
    (h' : Halfway s statement vvsc ctx fabric' value' chain') : fabric = fabric' ∧ value = value' := by
  obtain ⟨hindex, hfound, ⟨octets, hstatement, hvalue⟩, -⟩ := h
  obtain ⟨hindex', hfound', ⟨octets', hstatement', hvalue'⟩, -⟩ := h'
  rw [← Option.some.inj (hindex.symm.trans hindex'), hfound] at hfound'
  obtain rfl := Option.some.inj (hstatement.symm.trans hstatement')
  exact ⟨Option.some.inj hfound', Except.ok.inj (hvalue.symm.trans hvalue')⟩

/-- From the VVSC on, a refusal of the VVSC is the only failure, and it changes nothing. -/
lemma exec_vvsc_cases (credentials : Credentials) {change : (Fabric → Fabric) → Commanding N K Unit}
    (hchange : ∀ f s, (exec (change f) s).1 = .ok ()) (vvsc : Option (List UInt8))
    (vendorId : Option VendorId) (s : CommissioningNode N K) :
    let rest : Commanding N K Unit := do
      whenGiven vvsc fun vvsc => do
        let credentials ← ofResult (setVvsc credentials vvsc)
        change fun f => { f with credentials := credentials }
      whenGiven vendorId fun vendorId => change fun f => { f with adminVendorId := vendorId }
    ((exec rest s).1 = .ok () ∧
      ∀ chain, vvsc = some chain → (setVvsc credentials chain).isOk = true) ∨
    ∃ chain status, vvsc = some chain ∧ setVvsc credentials chain = .error status ∧
      exec rest s = (.error status, s) := by
  intro rest
  have hlast : ∀ s : CommissioningNode N K,
      (exec (whenGiven vendorId fun vendorId => change fun f => { f with adminVendorId := vendorId })
        s).1 = .ok () := by
    intro s
    cases vendorId with
    | none => rfl
    | some vendorId => exact hchange _ s
  cases vvsc with
  | none =>
    refine .inl ⟨hlast s, fun chain hsome => ?_⟩
    cases hsome
  | some chain =>
    cases hset : setVvsc credentials chain with
    | error status =>
      refine .inr ⟨chain, status, rfl, hset, ?_⟩
      simp only [rest, whenGiven, hset]
      rfl
    | ok changed =>
      refine .inl ⟨?_, fun chain' hsome => ?_⟩
      · let edit : Commanding N K Unit := change fun f => { f with credentials := changed }
        have hedit : exec edit s = (.ok (), (exec edit s).2) := Prod.ext (hchange _ s) rfl
        have hgiven : exec (whenGiven (some chain) fun vvsc => do
            let credentials ← ofResult (setVvsc credentials vvsc)
            change fun f => { f with credentials := credentials }) s = (.ok (), (exec edit s).2) := by
          rw [whenGiven, hset, exec_bind_ok (exec_ofResult _ _)]
          exact hedit
        exact (congrArg Prod.fst (exec_bind_ok hgiven _)).trans (hlast _)
      · obtain rfl := Option.some.inj hsome
        rw [hset]
        rfl

/-- A `SetVIDVerificationStatement` succeeds, or fails and has changed nothing, or fails at its VVSC and
has set its statement; in the first two cases a VVSC that it gets to is accepted. -/
lemma setVidVerificationStatement_cases (s : CommissioningNode N K) (vendorId : Option VendorId)
    (statement vvsc : Option (List UInt8)) (ctx : InteractionContext) :
    (((exec (setVidVerificationStatement vendorId statement vvsc ctx) s).1 = .ok () ∨
        (exec (setVidVerificationStatement vendorId statement vvsc ctx) s).2 = s) ∧
      ∀ fabric value chain, Halfway s statement vvsc ctx fabric value chain →
        (setVvsc fabric.credentials chain).isOk = true) ∨
    ∃ fabric value chain status, Halfway s statement vvsc ctx fabric value chain ∧
      setVvsc fabric.credentials chain = .error status ∧
      exec (setVidVerificationStatement vendorId statement vvsc ctx) s =
        (.error status, stated s fabric.index value) := by
  by_cases hfields : ¬(vendorId.isNone ∧ statement.isNone ∧ vvsc.isNone)
  swap
  · refine .inl ⟨.inr ?_, ?_⟩
    · rw [setVidVerificationStatement, require, if_neg hfields]
      rfl
    · rintro fabric value chain ⟨-, -, ⟨octets, rfl, -⟩, -⟩
      simp at hfields
  rw [setVidVerificationStatement, exec_require_bind hfields]
  cases haccessing : ctx.fabricIndex with
  | none =>
    refine .inl ⟨.inr rfl, ?_⟩
    rintro fabric value chain ⟨hindex, -, -, -⟩
    cases haccessing.symm.trans hindex
  | some accessing =>
    rw [okOr_some, exec_bind_ok (exec_ofResult _ _), exec_get_bind]
    cases hfind : s.fabrics.find accessing with
    | none =>
      refine .inl ⟨.inr rfl, ?_⟩
      rintro fabric value chain ⟨hindex, hfound, -, -⟩
      obtain rfl := Option.some.inj (haccessing.symm.trans hindex)
      cases hfind.symm.trans hfound
    | some fabric =>
      obtain rfl : fabric.index = accessing := (find?_key_eq_some hfind).2
      have hsame : ∀ {fabric' : Fabric} {value : Option (Vector UInt8 85)} {chain : List UInt8},
          Halfway s statement vvsc ctx fabric' value chain → fabric' = fabric := by
        rintro fabric' value chain ⟨hindex, hfound, -, -⟩
        have hat := Option.some.inj (haccessing.symm.trans hindex)
        rw [← hat, hfind] at hfound
        exact (Option.some.inj hfound).symm
      rw [okOr_some, exec_bind_ok (exec_ofResult _ _)]
      let change (f : Fabric → Fabric) : Commanding N K Unit :=
        modify fun s => { s with fabrics := s.fabrics.update fabric.index f }
      have hchange : ∀ f s, (exec (change f) s).1 = .ok () := fun _ _ => rfl
      have hrest := exec_vvsc_cases fabric.credentials hchange vvsc vendorId
      cases statement with
      | none =>
        refine .inl ⟨?_, ?_⟩
        · obtain ⟨hok, -⟩ | ⟨chain, status, -, -, hrun⟩ := hrest s
          · exact .inl hok
          · exact .inr (congrArg Prod.snd hrun)
        · rintro fabric' value chain ⟨-, -, ⟨octets, hsome, -⟩, -⟩
          cases hsome
      | some octets =>
        cases hstatement : statementOf octets with
        | error status =>
          refine .inl ⟨.inr ?_, ?_⟩
          · simp only [whenGiven, hstatement]
            rfl
          · rintro fabric' value chain ⟨-, -, ⟨octets', hsome, haccepted⟩, -⟩
            obtain rfl := Option.some.inj hsome
            cases hstatement.symm.trans haccepted
        | ok value =>
          obtain ⟨hok, hvvsc⟩ | ⟨chain, status, hchain, hset, hrun⟩ :=
            hrest (stated s fabric.index value)
          · refine .inl ⟨.inl ?_, ?_⟩
            · simp only [whenGiven, hstatement]
              exact hok
            · intro fabric' value' chain hhalfway
              rw [hsame hhalfway]
              exact hvvsc chain hhalfway.vvsc
          · refine .inr ⟨fabric, value, chain, status, ⟨haccessing, hfind, ⟨octets, rfl, hstatement⟩,
              hchain⟩, hset, ?_⟩
            simp only [whenGiven, hstatement]
            exact hrun

/-- A `SetVIDVerificationStatement` that fails does no harm exactly where it is safe. -/
lemma vid_unharmed_iff (store : KeyStore K) (s : CommissioningNode N K) (vendorId : Option VendorId)
    (statement vvsc : Option (List UInt8)) (ctx : InteractionContext) :
    ((exec (setVidVerificationStatement vendorId statement vvsc ctx) s).1.isOk = false →
      Unharmed store s (exec (setVidVerificationStatement vendorId statement vvsc ctx) s).2) ↔
    VidSafe s statement vvsc ctx := by
  obtain ⟨hrun, haccepted⟩ | ⟨fabric, value, chain, status, hhalfway, hset, hrun⟩ :=
    setVidVerificationStatement_cases s vendorId statement vvsc ctx
  · constructor
    · exact fun _ fabric value chain hhalfway => .inl (haccepted fabric value chain hhalfway)
    · intro _ hfailed
      rcases hrun with hok | hsame
      · rw [hok] at hfailed
        cases hfailed
      · rw [hsame]
        exact .refl s
  · have hfound := hhalfway.found
    rw [hrun]
    constructor
    · intro h fabric' value' chain' hhalfway'
      have hupdate := update_eq_self_iff.mp (h rfl).fabrics fabric hfound
      obtain ⟨rfl, rfl⟩ := hhalfway'.unique hhalfway
      exact .inr (congrArg Fabric.vidVerificationStatement hupdate).symm
    · intro h _
      have hsame := (h fabric value chain hhalfway).resolve_left (by simp [hset, Except.isOk, Except.toBool])
      have hupdate : (s.fabrics.update fabric.index fun f => { f with vidVerificationStatement := value }) =
          s.fabrics := by
        refine update_eq_self_iff.mpr fun fabric' hfound' => ?_
        obtain rfl := Option.some.inj (hfound.symm.trans hfound')
        rw [← hsame]
      rw [stated, hupdate]
      exact .refl s

/-- A `CSRRequest` or `SetVIDVerificationStatement` that fails leaves the fabrics, the key that waits and
no key that nobody refers to, exactly where it is safe. -/
theorem failed_commands_unharmed_iff (c : CredentialCrypto K) (store : KeyStore K)
    (hstore : store.Exact) (s : CommissioningNode N K) (ctx : InteractionContext) :
    (∀ nonce forUpdate random w tag,
      ((answerCsr c store nonce forUpdate ctx random w tag s).1.isOk = false →
        Unharmed store s (answerCsr c store nonce forUpdate ctx random w tag s).2) ↔
      CsrSafe c store s nonce forUpdate ctx random w tag) ∧ ∀ vendorId statement vvsc,
      ((exec (setVidVerificationStatement vendorId statement vvsc ctx) s).1.isOk = false →
        Unharmed store s (exec (setVidVerificationStatement vendorId statement vvsc ctx) s).2) ↔
      VidSafe s statement vvsc ctx := by
  constructor
  · intro nonce forUpdate random w tag
    exact csr_unharmed_iff hstore s nonce forUpdate ctx random w tag
  · intro vendorId statement vvsc
    exact vid_unharmed_iff store s vendorId statement vvsc ctx

end unharmed

end OperationalCredentials

namespace Sample

/-- A node on a fabric whose chain has an intermediate. -/
def chained : CommissioningNode 5 Keys :=
  { onTwoFabrics with
    fabrics := onTwoFabrics.fabrics.update ⟨1⟩ fun f =>
      { f with credentials := { f.credentials with icac := some [0x15] } } }

/-- A node with a key that waits: a commissioner has armed the fail-safe and asked for it. -/
def keyWaiting : CommissioningNode 5 Keys :=
  runCredential crypto keyStore (GeneralCommissioning.armFailSafe onTwoFabrics 60 0 (on 1 none 1)).2
    ⟨.csrRequest (.replicate 32 0) false, on 1 none 2, .ok []⟩

lemma eight_lt : 8 < 2 ^ 63 := by decide

/-- What is left of a message that is nearly full. -/
def nearlyFull : TlvWriter := .new (Sc.zeros 8 eight_lt)

end Sample

open OperationalCredentials Sample

/-- A request that is refused by its checks does no harm, and neither does one that succeeds. -/
theorem failed_commands_unharmed_refused : Unharmed keyStore onTwoFabrics
        (answerCsr crypto keyStore (.replicate 32 0) false (on 1 none 1) [] nearlyFull .anonymous
          onTwoFabrics).2 ∧
      VidSafe onTwoFabrics (some (.replicate 85 1)) (some [0x15]) (on 1 (some ⟨1⟩) 3) := by
  have hiff := failed_commands_unharmed_iff crypto keyStore Sc.Sample.exact_keyStore onTwoFabrics
  refine ⟨((hiff (on 1 none 1)).1 (.replicate 32 0) false [] nearlyFull .anonymous).mpr ?_ (by decide +kernel),
    ((hiff (on 1 (some ⟨1⟩) 3)).2 none (some (.replicate 85 1)) (some [0x15])).mp ?_⟩
  · exact .refused .failsafeRequired (by decide +kernel)
  · intro hfailed
    exact absurd hfailed (by decide +kernel)

/-- A `SetVIDVerificationStatement` with a VVSC beside an intermediate is refused and has set its
statement, and a `CSRRequest` whose answer has no room has destroyed the key that waited. -/
theorem failed_commands_harm :
    ((exec (setVidVerificationStatement none (some (.replicate 85 1)) (some [0x15])
          (on 1 (some ⟨1⟩) 3)) chained).1 = .error .invalidCommand ∧ ¬ Unharmed keyStore chained
        (exec (setVidVerificationStatement none (some (.replicate 85 1)) (some [0x15])
          (on 1 (some ⟨1⟩) 3)) chained).2) ∧
    (answerCsr crypto keyStore (.replicate 32 0) false (on 1 none 3) [] nearlyFull .anonymous
        keyWaiting).1 = .error (.new .resourceExhausted) ∧ ¬ Unharmed keyStore keyWaiting
        (answerCsr crypto keyStore (.replicate 32 0) false (on 1 none 3) [] nearlyFull .anonymous
          keyWaiting).2 := by
  refine ⟨⟨by decide +kernel, fun h => ?_⟩, by decide +kernel, fun h => ?_⟩
  · exact absurd h.fabrics (by decide +kernel)
  · have hwaits : keyWaiting.pendingCsr = some ⟨some ⟨1⟩, ⟨3⟩, publicKeyOf 3, false⟩ := by decide +kernel
    exact absurd (h.pending _ hwaits).1 (by decide +kernel)

end MatterKit.Clusters
