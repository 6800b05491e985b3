import MatterKit.Sc.CaseFabric
import MatterKit.Sc.Members

/-!
# How large the messages of CASE are

The bounds of `sc/case.rs` against the messages themselves. What a message takes is a sum over its
members (`Sigma1.lengths_calls` and its like), in which only the integers have lengths of their own:
those of the session id and of the session parameters (`SessionParams.numberOctets`).

`SizesSound` is what the bounds are there for: each message fits its bound, and no call that has a
buffer of that size fails for want of room.
-/

namespace MatterKit

open Lib

/-- An error that is not for want of room. -/
abbrev NotShort (e : ErrorCode) : Prop := e ≠ .bufferTooSmall

/-- No operation of the key store is short of room, and a signature has its length.
Source: `crypto/mod.rs`, `KeyStore` and `Signature`. -/
structure KeyStore.Roomy {K : Type} (store : KeyStore K) : Prop where
  generate : ∀ keys purpose random, Raises NotShort (store.generate keys purpose random).1
  sign : ∀ keys key message, Raises NotShort (store.sign keys key message)
  sign_length : ∀ keys key message signature, store.sign keys key message = .ok signature →
    signature.length = 64
  ecdh : ∀ keys key peer, Raises NotShort (store.ecdh keys key peer)
  remove : ∀ keys key, Raises NotShort (store.remove keys key).1

namespace Sc

open Machine Tlv

/-! ## Reading needs no room -/

section Reading

lemma raises_ite {α : Type} {p : Prop} [Decidable p] {x y : Except ErrorCode α}
    (hx : Raises NotShort x) (hy : Raises NotShort y) : Raises NotShort (if p then x else y) := by
  split_ifs
  · exact hx
  · exact hy

lemma raises_readLeU64 (src : List UInt8) : Raises NotShort (readLeU64 src) :=
  .bind (.ensure (by decide)) fun _ => .ok _

lemma raises_readLeU32 (src : List UInt8) : Raises NotShort (readLeU32 src) :=
  .bind (raises_readLeU64 src) fun _ => .bind (.ensure (by decide)) fun _ => .ok _

lemma raises_readLeI64 (src : List UInt8) : Raises NotShort (readLeI64 src) := by
  refine .bind (raises_readLeU64 src) fun raw => ?_
  dsimp only
  split_ifs
  · exact .ok _
  · exact .ok _

lemma raises_fromBits (bits : UInt8) : Raises NotShort (ElementType.fromBits bits) := by
  iterate 13 refine raises_ite (.ok _) ?_
  exact fun e he => Except.error.inj he ▸ by decide

lemma raises_tagDecode (control : UInt8) (buf : List UInt8) : Raises NotShort (Tag.decode control buf) := by
  unfold Tag.decode
  refine .bind (.ensure (by decide)) fun _ => ?_
  dsimp only
  cases TagControl.fromBits control with
  | anonymous => exact .ok _
  | contextSpecific => exact .bind (.okOr (by decide)) fun _ => .ok _
  | commonProfile2 => exact .bind (raises_readLeU32 _) fun _ => .ok _
  | commonProfile4 | implicitProfile2 | implicitProfile4 => exact .bind (raises_readLeU32 _) fun _ => .ok _
  | fullyQualified6 | fullyQualified8 =>
    exact .bind (raises_readLeU32 _) fun _ => .bind (raises_readLeU32 _) fun _ =>
      .bind (raises_readLeU32 _) fun _ => .ok _

lemma throws_take (n : ℕ) : Throws NotShort (take n) :=
  .bind .get fun _ => .bind (.require (by decide)) fun _ => .bind (.modify _) fun _ => .pure _

lemma throws_takeString (w : Width) : Throws NotShort (takeString w) :=
  .bind (throws_take _) fun _ => .bind (.ofResult (raises_readLeU64 _)) fun _ => throws_take _

lemma throws_openContainer (kind : ContainerKind) : Throws NotShort (openContainer kind) :=
  .bind .get fun _ => .bind (.require (by decide)) fun _ => .bind (.modify _) fun _ => .pure _

lemma throws_readValue (ty : ElementType) : Throws NotShort (readValue ty) := by
  cases ty with
  | signedInt w =>
    exact .bind (throws_take _) fun _ => .bind (.ofResult (raises_readLeI64 _)) fun _ => .pure _
  | unsignedInt w =>
    exact .bind (throws_take _) fun _ => .bind (.ofResult (raises_readLeU64 _)) fun _ => .pure _
  | bool v => exact .pure _
  | float =>
    exact .bind (throws_take _) fun _ => .bind (.ofResult (raises_readLeU64 _)) fun _ =>
      .bind (.require (by decide)) fun _ => .pure _
  | double =>
    exact .bind (throws_take _) fun _ => .bind (.ofResult (raises_readLeU64 _)) fun _ => .pure _
  | utf8 w =>
    exact .bind (throws_takeString w) fun _ => .bind (.ofResult (.okOr (by decide))) fun _ => .pure _
  | octets w => exact .bind (throws_takeString w) fun _ => .pure _
  | null => exact .pure _
  | struct => exact throws_openContainer .struct
  | array => exact throws_openContainer .array
  | list => exact throws_openContainer .list
  | endOfContainer => exact .throw (by decide)

lemma throws_nextElement : Throws NotShort nextElement := by
  refine .bind .get fun r => ?_
  split_ifs
  · exact .pure _
  refine .bind (.require (by decide)) fun _ => .bind (throws_take 1) fun control =>
    .bind (.ofResult (raises_fromBits _)) fun ty => ?_
  split_ifs
  · exact .bind (.require (by decide)) fun _ => .bind .get fun _ => .bind (.require (by decide)) fun _ =>
      .bind (.require (by decide)) fun _ => .bind (.modify _) fun _ => .pure _
  · exact .bind .get fun _ => .bind (.ofResult (raises_tagDecode _ _)) fun _ =>
      .bind (.modify _) fun _ => .bind .get fun _ => .bind (.require (by decide)) fun _ =>
        .bind (throws_readValue ty) fun _ => .bind (.modify _) fun _ => .pure _

lemma throws_skipTo (target rounds : ℕ) : Throws NotShort (skipTo target rounds) := by
  induction rounds with
  | zero => exact .throw (by decide)
  | succ rounds ih =>
    refine .bind .get fun r => ?_
    split_ifs
    · refine .bind throws_nextElement fun found => ?_
      cases found with
      | none => exact .throw (by decide)
      | some e => exact ih
    · exact .pure _

lemma throws_skipValue (e : Element) : Throws NotShort (skipValue e) := by
  rw [skipValue]
  split_ifs
  · exact .bind .get fun _ => .bind (.require (by decide)) fun _ => throws_skipTo _ _
  · exact .pure _

lemma throws_setField {γ : Type} (slot : Option γ) {value : Except ErrorCode γ}
    (h : Raises NotShort value) : Throws NotShort (Im.setField slot value) := by
  refine .ofResult (.bind h fun v => ?_)
  rw [Im.setOnce]
  split_ifs
  · exact fun e he => Except.error.inj he ▸ by decide
  · exact .ok _

lemma raises_octetsOf (e : Element) : Raises NotShort (octetsOf e) := by
  intro e' he
  rw [octetsOf] at he
  split at he
  · cases he
  · exact Except.error.inj he ▸ by decide

lemma throws_fieldsNext (depth rounds : ℕ) : Throws NotShort (fieldsNext depth rounds) := by
  induction rounds with
  | zero => exact .throw (by decide)
  | succ rounds ih =>
    refine .bind throws_nextElement fun found => ?_
    cases found with
    | none => exact .pure _
    | some e =>
      dsimp only
      split_ifs
      · refine .bind .get fun r => ?_
        split_ifs
        · exact .pure _
        · exact ih
      · cases e.tag.context? with
        | none => exact .throw (by decide)
        | some tag => exact .pure _

/-- A message whose members are read without an error for want of room is so itself. -/
lemma raises_decodeStruct {β : Type} {step : UInt8 → Element → β → Reading β}
    (h : ∀ tag e acc, Throws NotShort (step tag e acc)) (init : β) (buf : List UInt8) :
    Raises NotShort (decodeStruct step init buf) := by
  have hfrom : ∀ rounds acc, Throws NotShort (eachFieldFrom 1 step rounds acc) := by
    intro rounds
    induction rounds with
    | zero => exact fun _ => .throw (by decide)
    | succ rounds ih =>
      intro acc
      refine .bind .get fun r => .bind (throws_fieldsNext 1 _) fun found => ?_
      cases found with
      | none => exact .pure _
      | some field => exact .bind (h _ _ acc) ih
  refine (Throws.bind throws_nextElement fun found => ?_) (.new buf)
  cases found with
  | none => exact .throw (by decide)
  | some first =>
    exact .bind (.require (by decide)) fun _ => .bind .get fun _ => hfrom _ init

lemma raises_tbeDecode (plaintext : List UInt8) : Raises NotShort (TbeData.decode plaintext) := by
  have hfixed : ∀ n e, Raises NotShort (fixedBytes n e) := fun n e =>
    .bind (raises_octetsOf e) fun _ => .bind (.ensure (by decide)) fun _ => .ok _
  have hsignature : ∀ e, Raises NotShort (TbeData.signatureOf e) := fun e =>
    .bind (raises_octetsOf e) fun _ => .bind (.ensure (by decide)) fun _ => .ok _
  refine .bind (raises_decodeStruct (fun tag e acc => ?_) _ _) fun f =>
    .bind (.okOr (by decide)) fun _ => .bind (.okOr (by decide)) fun _ => .ok _
  unfold TbeData.decodeField
  split
  · exact .bind (throws_setField _ (raises_octetsOf e)) fun _ => .pure _
  · exact .bind (throws_setField _ (raises_octetsOf e)) fun _ => .pure _
  · exact .bind (throws_setField _ (hsignature e)) fun _ => .pure _
  · exact .bind (throws_setField _ (hfixed 16 e)) fun _ => .pure _
  · exact .bind (throws_skipValue e) fun _ => .pure _

end Reading

/-! ## What the primitives promise -/

/-- None of the primitives of CASE is short of room, and a certificate they accept is none that is too
long.
Source: `crypto/rustcrypto.rs`, whose outputs are arrays; `cert/mod.rs`, `MatterCertificate::decode`. -/
structure CaseCrypto.Roomy (c : CaseCrypto) : Prop where
  kdf : ∀ key salt info length, Raises NotShort (c.kdf key salt info length)
  hmac : ∀ key message, Raises NotShort (c.hmac key message)
  hmac_length : ∀ key message mac, c.hmac key message = .ok mac → mac.length = 32
  verify : ∀ key message signature, Raises NotShort (c.verify key message signature)
  decodeCertificate : ∀ octets, Raises NotShort (c.decodeCertificate octets)
  decodeCertificate_le : ∀ octets certificate, c.decodeCertificate octets = .ok certificate →
    octets.length ≤ certTlvMax
  verifyChain : ∀ noc icac root epochS, Raises NotShort (c.verifyChain noc icac root epochS)

/-! ## How long each message is -/

/-- How many octets the value of an unsigned integer takes. -/
def valueOctets (v : UInt64) : ℕ := (Width.forUnsigned v).octets

lemma valueOctets_pos (v : UInt64) : 1 ≤ valueOctets v := by
  rw [valueOctets]
  cases Width.forUnsigned v <;> decide

lemma valueOctets_le_one {v : UInt64} (h : v ≤ 0xFF) : valueOctets v ≤ 1 := by
  rw [valueOctets, Width.forUnsigned, if_pos h]
  rfl

lemma valueOctets_u16 (v : UInt16) : valueOctets v.toUInt64 ≤ 2 := by
  have hle : v.toUInt64 ≤ 0xFFFF := by
    rw [UInt64.le_iff_toNat_le, UInt16.toNat_toUInt64]
    exact Nat.le_of_lt_succ v.toNat_lt
  rw [valueOctets, Width.forUnsigned]
  split_ifs
  · decide
  · decide

lemma valueOctets_u32 (v : UInt32) : valueOctets v.toUInt64 ≤ 4 := by
  have hle : v.toUInt64 ≤ 0xFFFFFFFF := by
    rw [UInt64.le_iff_toNat_le, UInt32.toNat_toUInt64]
    exact Nat.le_of_lt_succ v.toNat_lt
  rw [valueOctets, Width.forUnsigned]
  split_ifs
  · decide
  · decide
  · decide

namespace SessionParams

/-- How many octets the integers take, with the head of the one that need not be there. -/
def numberOctets (p : SessionParams) : ℕ :=
  valueOctets p.idleIntervalMs.toUInt64 + valueOctets p.activeIntervalMs.toUInt64 +
    valueOctets p.activeThresholdMs.toUInt64 + valueOctets p.dataModelRevision.toUInt64 +
    valueOctets p.interactionModelRevision.toUInt64 + valueOctets p.specificationVersion.toUInt64 +
    valueOctets p.maxPathsPerInvoke.toUInt64 + valueOctets p.supportedTransports.toUInt64 +
    (p.maxTcpMessageSize.map fun size => 2 + valueOctets size.toUInt64).getD 0

lemma numberOctets_le (p : SessionParams) : p.numberOctets ≤ 30 := by
  have hidle := valueOctets_u32 p.idleIntervalMs
  have hactive := valueOctets_u32 p.activeIntervalMs
  have hthreshold := valueOctets_u16 p.activeThresholdMs
  have hdataModel := valueOctets_u16 p.dataModelRevision
  have hinteraction := valueOctets_u16 p.interactionModelRevision
  have hspecification := valueOctets_u32 p.specificationVersion
  have hpaths := valueOctets_u16 p.maxPathsPerInvoke
  have htransports := valueOctets_u32 p.supportedTransports
  have htcp : (p.maxTcpMessageSize.map fun size => 2 + valueOctets size.toUInt64).getD 0 ≤ 6 := by
    cases p.maxTcpMessageSize with
    | none => exact Nat.zero_le _
    | some size =>
      have := valueOctets_u32 size
      simp only [Option.map_some, Option.getD_some]
      omega
  rw [numberOctets]
  omega

/-- A peer makes of the parameters none that are longer. -/
lemma numberOctets_announced_le (p : SessionParams) : p.announced.numberOctets ≤ p.numberOctets := by
  have hpaths : valueOctets (max p.maxPathsPerInvoke 1).toUInt64 ≤
      valueOctets p.maxPathsPerInvoke.toUInt64 := by
    have hmax : max p.maxPathsPerInvoke 1 =
        if p.maxPathsPerInvoke ≤ 1 then 1 else p.maxPathsPerInvoke := rfl
    rw [hmax]
    split_ifs
    · exact valueOctets_pos _
    · exact le_refl _
  have htransports : valueOctets (p.supportedTransports &&& 6).toUInt64 ≤
      valueOctets p.supportedTransports.toUInt64 := by
    refine (valueOctets_le_one ?_).trans (valueOctets_pos _)
    rw [UInt64.le_iff_toNat_le, UInt32.toNat_toUInt64, UInt32.toNat_and]
    exact Nat.and_le_right.trans (by decide)
  simp only [numberOctets, announced]
  omega

lemma lengths_calls (t : UInt8) (p : SessionParams) :
    lengths (p.calls (.context t)) = 19 + p.numberOctets := by
  have htcp : lengths (p.maxTcpMessageSize.toList.map fun size =>
      WriterCall.unsigned (.context 9) size.toUInt64) =
      (p.maxTcpMessageSize.map fun size => 2 + valueOctets size.toUInt64).getD 0 := by
    cases p.maxTcpMessageSize with
    | none => rfl
    | some size => rfl
  simp only [calls, memberCalls, List.cons_append, List.nil_append, lengths_cons, lengths_append,
    lengths_nil, WriterCall.length, headLength_context, htcp, numberOctets, valueOctets]
  omega

end SessionParams

/-- How many octets the session parameters take in a message. -/
def paramsOctets (params : Option SessionParams) : ℕ :=
  (params.map fun p => 19 + p.numberOctets).getD 0

lemma lengths_paramsCalls (t : UInt8) (params : Option SessionParams) :
    lengths (paramsCalls t params) = paramsOctets params := by
  cases params with
  | none => rfl
  | some p =>
    rw [paramsCalls, Option.toList_some, List.flatMap_cons, List.flatMap_nil, List.append_nil,
      p.lengths_calls]
    rfl

variable {t : UInt8} {n : ℕ} {icac : Option (List UInt8)} {encrypted3 noc : List UInt8}

/-- A short string that need not be there. -/
lemma lengths_octetsCalls {value : Option (List UInt8)} (h : ∀ v, value = some v → v.length = n)
    (hn : n < 256) : lengths (octetsCalls t value) = if value.isSome then 3 + n else 0 := by
  cases value with
  | none => rfl
  | some v =>
    have hlength : v.length = n := h v rfl
    simp only [octetsCalls, Option.toList_some, List.map_cons, List.map_nil, lengths_cons, lengths_nil,
      WriterCall.length, headLength_context, hlength, stringLength_of_lt hn, Option.isSome_some, if_true]
    omega

/-- A certificate that need not be there. -/
lemma lengths_icac_le (h : ∀ v, icac = some v → v.length ≤ certTlvMax) :
    lengths (octetsCalls t icac) ≤ 4 + certTlvMax := by
  cases icac with
  | none => exact Nat.zero_le _
  | some v =>
    have hlength : v.length ≤ certTlvMax := h v rfl
    have hstring := stringLength_le (show v.length < 65536 by rw [certTlvMax] at hlength; omega)
    simp only [octetsCalls, Option.toList_some, List.map_cons, List.map_nil, lengths_cons, lengths_nil,
      WriterCall.length, headLength_context]
    omega

lemma lengths_messageCalls (members : List WriterCall) :
    lengths (messageCalls members) = 2 + lengths members := by
  simp only [messageCalls, lengths_cons, lengths_append, lengths_nil, WriterCall.length,
    headLength_anonymous]
  omega

lemma length_octets_context {v : List UInt8} (h : v.length = n) (hn : n < 256) :
    (WriterCall.octets (.context t) v).length = 3 + n := by
  rw [WriterCall.length, headLength_context, h, stringLength_of_lt hn]
  omega

lemma length_key (t : UInt8) (key : PublicKey) :
    (WriterCall.octets (.context t) key.bytes.toList).length = 68 :=
  length_octets_context (n := 65) (Vector.length_toList ..) (by decide)

lemma length_unsigned (t : UInt8) (v : UInt64) :
    (WriterCall.unsigned (.context t) v).length = 2 + valueOctets v := by
  rw [WriterCall.length, headLength_context, valueOctets]

lemma Sigma1.lengths_calls {s : Sigma1} (h : s.Sized) : lengths (messageCalls s.memberCalls) =
      142 + valueOctets s.initiatorSessionId.val.toUInt64 + paramsOctets s.sessionParams +
        (if s.resumptionId.isSome then 19 else 0) +
        (if s.initiatorResumeMic.isSome then 19 else 0) := by
  rw [lengths_messageCalls, memberCalls]
  simp only [lengths_append, lengths_cons, lengths_nil, length_unsigned, length_key,
    length_octets_context h.initiatorRandom (by decide),
    length_octets_context h.destinationId (by decide), lengths_paramsCalls,
    lengths_octetsCalls h.resumptionId (by decide),
    lengths_octetsCalls h.initiatorResumeMic (by decide), Nat.reduceAdd]
  omega

lemma Sigma2.lengths_calls_le {s : Sigma2} (hrandom : s.responderRandom.length = 32)
    (hencrypted : s.encrypted2.length ≤ maxEncrypted2) :
    lengths (messageCalls s.memberCalls) ≤ maxSigma2 := by
  have hid := valueOctets_u16 s.responderSessionId.val
  have hparams : paramsOctets s.sessionParams ≤ 49 := by
    cases s.sessionParams with
    | none => exact Nat.zero_le _
    | some p =>
      have := p.numberOctets_le
      simp only [paramsOctets, Option.map_some, Option.getD_some]
      omega
  have hstring := stringLength_le (show s.encrypted2.length < 65536 by
    rw [maxEncrypted2] at hencrypted; omega)
  have hall : lengths (messageCalls s.memberCalls) =
      109 + valueOctets s.responderSessionId.val.toUInt64 + stringLength s.encrypted2.length +
        paramsOctets s.sessionParams := by
    rw [lengths_messageCalls, memberCalls]
    simp only [lengths_append, lengths_cons, lengths_nil, length_unsigned, length_key,
      length_octets_context hrandom (by decide), lengths_paramsCalls]
    rw [WriterCall.length, headLength_context]
    omega
  rw [hall, maxSigma2]
  rw [maxEncrypted2] at hencrypted ⊢
  rw [maxSessionParams]
  omega

/-- A certificate that has to be there. -/
lemma length_noc_le (h : noc.length ≤ certTlvMax) :
    (WriterCall.octets (.context t) noc).length ≤ 4 + certTlvMax := by
  have hstring := stringLength_le (show noc.length < 65536 by rw [certTlvMax] at h; omega)
  rw [WriterCall.length, headLength_context]
  omega

lemma lengths_sigma3_le (h : encrypted3.length ≤ maxEncrypted3) :
    lengths (messageCalls [.octets (.context 1) encrypted3]) ≤ maxSigma3 := by
  have hstring := stringLength_le (show encrypted3.length < 65536 by rw [maxEncrypted3] at h; omega)
  rw [lengths_messageCalls, lengths_cons, lengths_nil, WriterCall.length, headLength_context, maxSigma3]
  omega

section Chain

variable {noc : List UInt8} {icac : Option (List UInt8)}

lemma lengths_tbsdata_le (hnoc : noc.length ≤ certTlvMax)
    (hicac : ∀ v, icac = some v → v.length ≤ certTlvMax) (own peer : PublicKey) :
    lengths (messageCalls (tbsMemberCalls noc icac own peer)) ≤ maxTbsdata := by
  have hfirst := length_noc_le (t := 1) hnoc
  have hsecond := lengths_icac_le (t := 2) hicac
  rw [lengths_messageCalls, tbsMemberCalls]
  simp only [lengths_append, lengths_cons, lengths_nil, length_key]
  rw [certTlvMax] at hfirst hsecond
  rw [maxTbsdata]
  omega

/-- What is sealed takes so many octets at most, with a resumption id or without. -/
lemma TbeData.lengths_calls_le (hnoc : noc.length ≤ certTlvMax)
    (hicac : ∀ v, icac = some v → v.length ≤ certTlvMax) {signature : List UInt8}
    (hsignature : signature.length = 64) {resumptionId : Option (List UInt8)}
    (hid : ∀ v, resumptionId = some v → v.length = 16) :
    lengths (messageCalls (TbeData.mk noc icac signature resumptionId).memberCalls) ≤
      877 + if resumptionId.isSome then 19 else 0 := by
  have hfirst := length_noc_le (t := 1) hnoc
  have hsecond := lengths_icac_le (t := 2) hicac
  rw [lengths_messageCalls, memberCalls]
  simp only [lengths_append, lengths_cons, lengths_nil, length_octets_context hsignature (by decide),
    lengths_octetsCalls hid (by decide), Nat.reduceAdd]
  rw [certTlvMax] at hfirst hsecond
  omega

end Chain

/-! ## What is written where there is room -/

/-- An encoder that makes one element of at most so many octets has room in a buffer of so many. -/
lemma written_of_le {x : Writing Unit} {calls : List WriterCall} (hx : x = WriterCall.runAll calls)
    (h : MakesOne calls) (out : Slice) (hle : lengths calls ≤ out.octets.length) :
    ∃ bytes, written x out = .ok bytes ∧ bytes.length = lengths calls :=
  (written_runAll hx h out).1 hle

lemma length_zeros (h : n < 2 ^ 63) : (zeros n h).octets.length = n := List.length_replicate

lemma encodeTbsdata_ok (hnoc : noc.length ≤ certTlvMax)
    (hicac : ∀ v, icac = some v → v.length ≤ certTlvMax) (own peer : PublicKey) :
    ∃ tbsdata, encodeTbsdata noc icac own peer = .ok tbsdata := by
  obtain ⟨tbsdata, hwritten, -⟩ := written_of_le (writeTbsdata_eq_calls noc icac own peer)
    (makesOne_tbsdata noc icac own peer) (zeros maxTbsdata maxTbsdata_lt)
    ((lengths_tbsdata_le hnoc hicac own peer).trans_eq (length_zeros maxTbsdata_lt).symm)
  exact ⟨tbsdata, hwritten⟩

lemma makesOne_sigma3 (encrypted3 : List UInt8) :
    MakesOne (messageCalls [.octets (.context 1) encrypted3]) := rfl

lemma written_sigma3_ok (h : encrypted3.length ≤ maxEncrypted3) {out : Slice}
    (hout : maxSigma3 ≤ out.octets.length) :
    ∃ bytes, written (Sigma3.encode encrypted3) out = .ok bytes := by
  obtain ⟨bytes, hwritten, -⟩ := written_of_le (Sigma3.encode_eq_calls encrypted3)
    (makesOne_sigma3 encrypted3) out ((lengths_sigma3_le h).trans hout)
  exact ⟨bytes, hwritten⟩

lemma written_sigma2_ok {s : Sigma2} (hrandom : s.responderRandom.length = 32)
    (hencrypted : s.encrypted2.length ≤ maxEncrypted2) {out : Slice}
    (hout : maxSigma2 ≤ out.octets.length) : ∃ bytes, written s.encode out = .ok bytes := by
  obtain ⟨bytes, hwritten, -⟩ := written_of_le s.encode_eq_calls s.makesOne out
    ((Sigma2.lengths_calls_le hrandom hencrypted).trans hout)
  exact ⟨bytes, hwritten⟩

/-- What is sealed leaves room for the tag. -/
lemma written_tbe_ok (hnoc : noc.length ≤ certTlvMax)
    (hicac : ∀ v, icac = some v → v.length ≤ certTlvMax) {signature : List UInt8}
    (hsignature : signature.length = 64) {resumptionId : Option (List UInt8)}
    (hid : ∀ v, resumptionId = some v → v.length = 16) {capacity : ℕ} (hlt : capacity < 2 ^ 63)
    (hcapacity : 893 + (if resumptionId.isSome then 19 else 0) ≤ capacity) :
    ∃ plaintext, written (TbeData.mk noc icac signature resumptionId).encode (zeros capacity hlt) =
      .ok plaintext ∧ plaintext.length + 16 ≤ capacity := by
  have hle := TbeData.lengths_calls_le hnoc hicac hsignature hid
  obtain ⟨plaintext, hwritten, hlength⟩ := written_of_le
    (TbeData.encode_eq_calls ⟨noc, icac, signature, resumptionId⟩) (TbeData.makesOne _)
    (zeros capacity hlt) (by rw [length_zeros]; omega)
  exact ⟨plaintext, hwritten, by omega⟩

/-! ## The steps of a handshake -/

section Steps

variable {K : Type} {c : CaseCrypto} {store : KeyStore K}

lemma raises_kdfKey (h : c.Roomy) (key salt info : List UInt8) :
    Raises NotShort (c.kdfKey key salt info) := .bind (h.kdf _ _ _ _) fun _ => .ok _

lemma raises_sessionKeys (h : c.Roomy) (sharedSecret : List UInt8) (ipk : SymmetricKey)
    (transcriptHash : List UInt8) : Raises NotShort (c.sessionKeys sharedSecret ipk transcriptHash) := by
  have hone : ∀ key, Raises NotShort (sessionKeysOf c.toKeyDerivation key) := fun key =>
    .bind (raises_kdfKey h _ _ _) fun _ => .ok _
  exact .bind (h.kdf _ _ _ _) fun _ => .bind (hone _) fun _ => .bind (hone _) fun _ => .ok _

variable {capacity : ℕ} {P : ErrorCode → Prop}

lemma raises_sealIn (c : CaseCrypto) (key : SymmetricKey) (nonce : List UInt8)
    {plaintext : List UInt8} (hle : plaintext.length + 16 ≤ capacity) :
    Raises NotShort (c.sealIn capacity key nonce plaintext) := by
  rw [CaseCrypto.sealIn, ensure_of hle]
  exact .bind (.ok _) fun _ => .bind (.okOr (by decide)) fun _ => .ok _

lemma length_sealIn {key : SymmetricKey} {nonce plaintext encrypted : List UInt8}
    (h : c.sealIn capacity key nonce plaintext = .ok encrypted) :
    encrypted.length = plaintext.length + 16 ∧ encrypted.length ≤ capacity := by
  simp only [CaseCrypto.sealIn, bind_eq_ok, ensure_eq_ok, okOr_eq_ok, pure_eq_ok,
    Except.ok.injEq, Prod.exists] at h
  obtain ⟨_, hle, ciphertext, tag, hsealed, rfl⟩ := h
  obtain ⟨hciphertext, htag⟩ := c.aead.length_encrypt hsealed
  rw [List.length_append]
  omega

lemma raises_openIn (c : CaseCrypto) (key : SymmetricKey) (nonce : List UInt8)
    {encrypted : List UInt8} (hle : encrypted.length ≤ capacity + 16) :
    Raises NotShort (c.openIn capacity key nonce encrypted) := by
  rw [CaseCrypto.openIn, ensure_of (show encrypted.length - 16 ≤ capacity by omega)]
  exact .bind (.ensure (by decide)) fun _ => .bind (.ok _) fun _ => .okOr (by decide)

/-- A chain that is accepted is not too long for what its owner should have signed. -/
lemma raises_verifyPeer (h : c.Roomy) (tbe : TbeData) (root : MatterCertificate)
    (epochS : Option UInt32) (expectedFabric : FabricId) (expectedNode : Option NodeId)
    (signer peer : PublicKey) :
    Raises NotShort (verifyPeer c tbe root epochS expectedFabric expectedNode signer peer) := by
  have hicacs : Raises NotShort (tbe.icac.mapM c.decodeCertificate) := by
    cases tbe.icac with
    | none => exact .ok _
    | some icac => exact .bind (h.decodeCertificate icac) fun _ => .ok _
  refine .bind_of (h.decodeCertificate _) fun noc hnoc => .bind_of hicacs fun icac hicac => ?_
  have hle : ∀ v, tbe.icac = some v → v.length ≤ certTlvMax := by
    intro v hv
    rw [hv, Option.mapM_some] at hicac
    obtain ⟨certificate, hcertificate, -⟩ := bind_eq_ok.mp hicac
    exact h.decodeCertificate_le v certificate hcertificate
  obtain ⟨tbsdata, htbsdata⟩ := encodeTbsdata_ok (h.decodeCertificate_le _ _ hnoc) hle signer peer
  exact .bind (h.verifyChain _ _ _ _) fun _ => .bind (.ensure (by decide)) fun _ =>
    .bind (.ensure (by decide)) fun _ => .bind (.of_ok htbsdata) fun _ => .bind (h.verify _ _ _) fun _ =>
      .bind (.ensure (by decide)) fun _ => .ok _

lemma throws_onKeys {α Q : Type} {x : Machine K ErrorCode α} (h : Throws P x) :
    Throws P (onKeys x : Machine (Q × K) ErrorCode α) := fun s => h s.2

lemma throws_onFailure {α Q : Type} {x : Machine (Q × K) ErrorCode α} (h : Throws P x)
    (cleanUp : Q × K → Q × K) : Throws P (onFailure x cleanUp) := by
  intro s
  have hfirst := h s
  rw [exec_onFailure]
  rcases hrun : exec x s with ⟨e | a, s'⟩
  · rw [hrun] at hfirst
    exact fun e' he => hfirst e' (Except.error.inj he ▸ rfl)
  · exact .ok a

lemma throws_mk {α : Type} {f : K → Except ErrorCode α × K} (h : ∀ keys, Raises P (f keys).1) :
    Throws P (ExceptT.mk f : Machine K ErrorCode α) := h

lemma throws_require_of {Q : Type} {p : Prop} [Decidable p] (h : p) (e : ErrorCode) :
    Throws P (require p e : Machine (Q × K) ErrorCode Unit) := by
  rw [require, if_pos h]
  exact .pure ()

end Steps

/-! ## A Sigma1 in its bound -/

namespace Sigma1

variable {s : Sigma1}

lemma paramsOctets_le (params : Option SessionParams) : paramsOctets params ≤ 49 := by
  cases params with
  | none => exact Nat.zero_le _
  | some p =>
    have := p.numberOctets_le
    simp only [paramsOctets, Option.map_some, Option.getD_some]
    omega

/-- How long one is that asks for a resumption. -/
lemma lengths_resuming (h : s.Sized) (hid : s.resumptionId.isSome = true)
    (hmic : s.initiatorResumeMic.isSome = true) : lengths (messageCalls s.memberCalls) =
      180 + valueOctets s.initiatorSessionId.val.toUInt64 + paramsOctets s.sessionParams := by
  rw [lengths_calls h, hid, hmic]
  simp only [if_true]
  omega

/-- A Sigma1 that asks for no resumption is short enough. -/
lemma lengths_plain_le (h : s.Sized) (hid : s.resumptionId = none) (hmic : s.initiatorResumeMic = none) :
    lengths (messageCalls s.memberCalls) ≤ maxSigma1 := by
  have hnumber := valueOctets_u16 s.initiatorSessionId.val
  have hparams := paramsOctets_le s.sessionParams
  rw [lengths_calls h, hid, hmic, maxSigma1]
  simp only [Option.isSome_none, Bool.false_eq_true, if_false]
  omega

/-- One that asks for a resumption is, if its integers are. -/
lemma lengths_le_of_fits (h : s.Sized) (hfits : ∀ p, s.sessionParams = some p →
      valueOctets s.initiatorSessionId.val.toUInt64 + p.numberOctets ≤ 26) :
    lengths (messageCalls s.memberCalls) ≤ maxSigma1 := by
  have hnumber := valueOctets_u16 s.initiatorSessionId.val
  have hparams : valueOctets s.initiatorSessionId.val.toUInt64 + paramsOctets s.sessionParams ≤ 45 := by
    cases hsession : s.sessionParams with
    | none =>
      simp only [paramsOctets, Option.map_none, Option.getD_none]
      omega
    | some p =>
      have := hfits p hsession
      simp only [paramsOctets, Option.map_some, Option.getD_some]
      omega
  rw [lengths_calls h, maxSigma1]
  split_ifs <;> omega

/-- And not if they are not. -/
lemma fits_of_lengths_le (h : s.Sized) (hid : s.resumptionId.isSome = true)
    (hmic : s.initiatorResumeMic.isSome = true)
    (hle : lengths (messageCalls s.memberCalls) ≤ maxSigma1) {p : SessionParams}
    (hp : s.sessionParams = some p) :
    valueOctets s.initiatorSessionId.val.toUInt64 + p.numberOctets ≤ 26 := by
  rw [lengths_resuming h hid hmic, hp, maxSigma1] at hle
  simp only [paramsOctets, Option.map_some, Option.getD_some] at hle
  omega

end Sigma1

/-! ## The calls -/

section Sound

variable {K : Type} {c : CaseCrypto} {store : KeyStore K}

/-- What an initiator starts with has its fields. -/
lemma sized_sigma1 {c : CaseCrypto}
    (hlength : ∀ key message mac, c.hmac key message = .ok mac → mac.length = 32) (i : CaseInitiator)
    {random destinationId : List UInt8} (hrandom : random.length = 32) {key message : List UInt8}
    (hdestination : c.hmac key message = .ok destinationId) (own : PublicKey) :
    (i.sigma1 random destinationId own).Sized where
  initiatorRandom := hrandom
  destinationId := hlength _ _ _ hdestination
  resumptionId := fun _ h => by cases h
  initiatorResumeMic := fun _ h => by cases h

variable {noc random : List UInt8} {out : Slice} {randomness : Sigma2Randomness}
  {icac : Option (List UInt8)} {sigma2 : Sigma2}

lemma raises_start (hc : c.Roomy) (hstore : store.Roomy) (fabric : Fabric) (peerNodeId : NodeId)
    (hrandom : random.length = 32) (ephemeral : List UInt8) (hout : maxSigma1 ≤ out.octets.length)
    (s : CaseInitiator × K) :
    Raises NotShort (exec (CaseInitiator.start c store fabric peerNodeId random ephemeral out) s).1 := by
  rw [CaseInitiator.start, exec_get_bind]
  refine (Throws.bind (.require (by decide)) fun _ => .ofResult_bind (hc.hmac _ _)
    fun destinationId hdestination => .bind (throws_onKeys (throws_mk fun keys => hstore.generate _ _ _))
      fun generated => ?_) s
  have hsized := sized_sigma1 hc.hmac_length s.1 hrandom hdestination generated.2
  obtain ⟨encoded, hencoded, -⟩ := written_of_le (Sigma1.encode_eq_calls _) (Sigma1.makesOne _) out
    ((Sigma1.lengths_plain_le hsized rfl rfl).trans hout)
  exact .bind (.ofResult (.of_ok hencoded)) fun _ => .bind (.modify _) fun _ => .pure _

/-- What a started initiator has sent. -/
lemma start_ok {fabric : Fabric} {peerNodeId : NodeId} {random ephemeral : List UInt8}
    {s s' : CaseInitiator × K} {encoded : List UInt8}
    (h : exec (CaseInitiator.start c store fabric peerNodeId random ephemeral out) s =
      (.ok encoded, s')) :
    ∃ destinationId own, c.destinationIdentifier fabric.ipk random fabric.rootPublicKey fabric.fabricId
        peerNodeId = .ok destinationId ∧
      written (s.1.sigma1 random destinationId own).encode out = .ok encoded := by
  rw [CaseInitiator.start, exec_get_bind] at h
  simp only [exec_bind_eq_ok, exec_ofResult, exec_pure, Prod.mk.injEq, Except.ok.injEq, Prod.exists] at h
  obtain ⟨_, _, _, -, destinationId, _, _, ⟨hdestination, -⟩, handle, own, _, _, -, sent, _, _, ⟨hsent, -⟩, _, _, _,
    -, rfl, -⟩ := h
  exact ⟨destinationId, own, hdestination, hsent⟩

lemma raises_startResumption (hc : c.Roomy) (hstore : store.Roomy) (fabric : Fabric)
    (peerNodeId : NodeId) {previous : ResumptionState}
    (hprevious : previous.resumptionId.length = 16) (hrandom : random.length = 32)
    (ephemeral : List UInt8) (hout : maxSigma1 ≤ out.octets.length) (s : CaseInitiator × K)
    (hfits : ∀ p, s.1.sessionParams = some p →
      valueOctets s.1.sessionId.val.toUInt64 + p.numberOctets ≤ 26) : Raises NotShort
      (exec (CaseInitiator.startResumption c store fabric peerNodeId previous random ephemeral out) s).1 := by
  rw [CaseInitiator.startResumption]
  have hfirst := raises_start hc hstore fabric peerNodeId hrandom ephemeral hout s
  rcases hstart : exec (CaseInitiator.start c store fabric peerNodeId random ephemeral out) s with
    ⟨e | first, s'⟩
  · rw [exec_bind_error hstart]
    rw [hstart] at hfirst
    exact fun e' he => hfirst e' (Except.error.inj he ▸ rfl)
  obtain ⟨destinationId, own, hdestination, hwritten⟩ := start_ok hstart
  have hsized := sized_sigma1 hc.hmac_length s.1 hrandom hdestination own
  have hdecoded := Sigma1.decode_written hsized hwritten
  rw [exec_bind_ok hstart]
  refine (Throws.bind (.ofResult (raises_kdfKey hc _ _ _)) fun s1rk =>
    .ofResult_bind (raises_sealIn c _ _ (by decide)) fun mic hmic =>
      .ofResult_bind (.of_ok hdecoded) fun sigma1 hsigma1 => ?_) s'
  obtain rfl := Except.ok.inj (hdecoded.symm.trans hsigma1)
  have hmicLength : mic.length = 16 := (length_sealIn hmic).1
  -- What is written again says what was read, with the two fields of the resumption.
  have hresized : Sigma1.Sized (Sigma1.resuming { s.1.sigma1 random destinationId own with
      sessionParams := (s.1.sigma1 random destinationId own).sessionParams.map SessionParams.announced
      encoded := first } previous.resumptionId mic) :=
    ⟨hsized.initiatorRandom, hsized.destinationId, fun _ h => Option.some.inj h ▸ hprevious,
      fun _ h => Option.some.inj h ▸ hmicLength⟩
  have hle := Sigma1.lengths_le_of_fits hresized fun p hp => by
    obtain ⟨q, hq, rfl⟩ := Option.map_eq_some_iff.mp hp
    have hshorter := q.numberOctets_announced_le
    exact (Nat.add_le_add_left hshorter _).trans (hfits q hq)
  obtain ⟨encoded, hencoded, hlength⟩ := written_of_le (Sigma1.encode_eq_calls _) (Sigma1.makesOne _)
    (zeros maxSigma1 maxSigma1_lt) (hle.trans_eq (length_zeros maxSigma1_lt).symm)
  refine .ofResult_bind (.of_ok hencoded) fun encoded' hencoded' => ?_
  obtain rfl := Except.ok.inj (hencoded.symm.trans hencoded')
  exact .bind (throws_require_of (hlength.trans_le (hle.trans hout)) _) fun _ => .bind .get fun _ =>
    .bind (.modify _) fun _ => .pure _

lemma raises_buildSigma2 (hc : c.Roomy) (hstore : store.Roomy) (r : CaseResponder) (sigma1 : Sigma1)
    (fabric : Fabric) (hnoc : fabric.credentials.noc.length ≤ certTlvMax)
    (hicac : ∀ v, fabric.credentials.icac = some v → v.length ≤ certTlvMax)
    (hresponder : randomness.responder.length = 32)
    (hresumption : randomness.resumption.length = 16) (hout : maxSigma2 ≤ out.octets.length) :
    Throws NotShort (r.buildSigma2 c store sigma1 fabric randomness out) := by
  refine .bind (.ofResult (hc.hmac _ _)) fun _ => .bind (.require (by decide)) fun _ => .bind ?_ fun secret =>
    .bind (.ofResult (raises_kdfKey hc _ _ _)) fun s2k => ?_
  · exact .bind (throws_mk fun keys => hstore.generate _ _ _) fun generated => .bind .get fun keys =>
      .bind (throws_mk fun keys => hstore.remove _ _) fun _ => .bind (.ofResult (hstore.ecdh _ _ _))
        fun _ => .pure _
  obtain ⟨tbsdata, htbsdata⟩ := encodeTbsdata_ok hnoc hicac secret.2 sigma1.initiatorEphPubKey
  refine .bind (.ofResult (.of_ok htbsdata)) fun _ => .bind .get fun keys =>
    .ofResult_bind (hstore.sign _ _ _) fun signature hsignature => ?_
  obtain ⟨plaintext, hwritten, hlength⟩ := written_tbe_ok hnoc hicac
    (hstore.sign_length _ _ _ _ hsignature) (fun v hv => Option.some.inj hv ▸ hresumption)
    maxEncrypted2_lt (by show 893 + 19 ≤ 912; decide)
  refine .ofResult_bind (.of_ok hwritten) fun plaintext' hplaintext => ?_
  obtain rfl := Except.ok.inj (hwritten.symm.trans hplaintext)
  refine .ofResult_bind (raises_sealIn c _ _ hlength) fun encrypted2 hencrypted => ?_
  obtain ⟨reply, hreply⟩ := written_sigma2_ok
    (s := ⟨randomness.responder, r.sessionId, secret.2, encrypted2, r.sessionParams, []⟩) hresponder
    (length_sealIn hencrypted).2 hout
  exact .bind (.ofResult (.of_ok hreply)) fun _ => .pure _

lemma raises_handleSigma1 (hc : c.Roomy) (hstore : store.Roomy) (sigma1 : Sigma1) (fabric : Fabric)
    (hnoc : noc.length ≤ certTlvMax) (hicac : ∀ v, icac = some v → v.length ≤ certTlvMax)
    (hresponder : randomness.responder.length = 32)
    (hresumption : randomness.resumption.length = 16) (hout : maxSigma2 ≤ out.octets.length) :
    Throws NotShort (CaseResponder.handleSigma1 c store sigma1 fabric noc icac randomness out) :=
  .bind .get fun s => throws_onFailure (.bind (.require (by decide)) fun _ =>
    .bind (throws_onKeys (raises_buildSigma2 hc hstore s.1 sigma1 (fabric.answeringWith noc icac)
      hnoc hicac hresponder hresumption hout)) fun _ => .bind (.modify _) fun _ => .pure _) _

lemma raises_sigma3 (hc : c.Roomy) (hstore : store.Roomy) (pending : InitiatorPending)
    (sharedSecret : List UInt8) (hanswer : sigma2.encrypted2.length ≤ maxEncrypted2 + 16)
    (fabric : Fabric) (root : MatterCertificate) (hnoc : noc.length ≤ certTlvMax)
    (hicac : ∀ v, icac = some v → v.length ≤ certTlvMax) (keys : K) (epochS : Option UInt32)
    (hout : maxSigma3 ≤ out.octets.length) : Raises NotShort
      (CaseInitiator.sigma3 c store pending sharedSecret sigma2 fabric root noc icac keys epochS out) := by
  refine .bind (raises_kdfKey hc _ _ _) fun s2k => .bind (raises_openIn c _ _ hanswer) fun plaintext =>
    .bind (raises_tbeDecode _) fun tbe => .bind (raises_verifyPeer hc _ _ _ _ _ _ _) fun peer =>
      .bind (.okOr (by decide)) fun resumptionId => ?_
  obtain ⟨tbsdata, htbsdata⟩ := encodeTbsdata_ok hnoc hicac pending.initiatorEphPubKey
    sigma2.responderEphPubKey
  refine .bind (.of_ok htbsdata) fun _ => .bind_of (hstore.sign _ _ _) fun signature hsignature => ?_
  obtain ⟨plaintext, hwritten, hlength⟩ := written_tbe_ok hnoc hicac
    (hstore.sign_length _ _ _ _ hsignature) (fun v (hv : none = some v) => by cases hv) maxEncrypted3_lt
    (by show 893 + 0 ≤ 893; decide)
  refine .bind_of (.of_ok hwritten) fun plaintext' hplaintext => ?_
  obtain rfl := Except.ok.inj (hwritten.symm.trans hplaintext)
  refine .bind (raises_kdfKey hc _ _ _) fun s3k => .bind_of (raises_sealIn c _ _ hlength)
    fun encrypted3 hencrypted => ?_
  obtain ⟨encoded, hencoded⟩ := written_sigma3_ok (length_sealIn hencrypted).2 hout
  exact .bind (.of_ok hencoded) fun _ => .bind (raises_sessionKeys hc _ _ _) fun _ => .ok _

lemma raises_handleSigma2 (hc : c.Roomy) (hstore : store.Roomy)
    (hanswer : sigma2.encrypted2.length ≤ maxEncrypted2 + 16) (fabric : Fabric)
    (root : MatterCertificate) (hnoc : noc.length ≤ certTlvMax)
    (hicac : ∀ v, icac = some v → v.length ≤ certTlvMax) (epochS : Option UInt32)
    (hout : maxSigma3 ≤ out.octets.length) :
    Throws NotShort (CaseInitiator.handleSigma2 c store sigma2 fabric root noc icac epochS out) := by
  refine throws_onFailure (.bind .get fun s => ?_) _
  dsimp only
  cases s.1.state with
  | awaitingSigma2 pending =>
    exact .bind (.ofResult (hstore.ecdh _ _ _)) fun sharedSecret =>
      .bind (.ofResult (raises_sigma3 hc hstore pending sharedSecret hanswer fabric root hnoc hicac _ _
        hout)) fun _ => .bind (throws_onKeys (throws_mk fun keys => hstore.remove _ _)) fun _ =>
          .bind (.modify _) fun _ => .pure _
  | start | done | failed => exact .throw (by decide)

end Sound

/-! ## The bounds are sound -/

/-- The bounds of `sc/case.rs` are sound for a node with such a session id, such parameters and such a chain,
resuming a session or not, and an answer: each message fits its bound, and no call fails for want of room that
has a buffer of that size. -/
structure SizesSound (id : SessionId) (params : Option SessionParams) (resuming : Bool) (noc : List UInt8)
    (icac : Option (List UInt8)) (answer : Sigma2) : Prop where
  sigma1 : ∀ s : Sigma1, s.Sized → s.initiatorSessionId = id → s.sessionParams = params →
    (resuming = false → s.resumptionId = none ∧ s.initiatorResumeMic = none) →
      ∃ bytes, written s.encode (zeros maxSigma1 maxSigma1_lt) = .ok bytes
  tbsdata : ∀ own peer, ∃ bytes, encodeTbsdata noc icac own peer = .ok bytes
  tbeData2 : ∀ signature resumptionId : List UInt8, signature.length = 64 → resumptionId.length = 16 →
    ∃ plaintext, written (TbeData.mk noc icac signature (some resumptionId)).encode
        (zeros maxEncrypted2 maxEncrypted2_lt) = .ok plaintext ∧ plaintext.length + 16 ≤ maxEncrypted2
  tbeData3 : ∀ signature : List UInt8, signature.length = 64 →
    ∃ plaintext, written (TbeData.mk noc icac signature none).encode
        (zeros maxEncrypted3 maxEncrypted3_lt) = .ok plaintext ∧ plaintext.length + 16 ≤ maxEncrypted3
  sigma2 : ∀ (s : Sigma2) (out : Slice), s.responderRandom.length = 32 → s.responderSessionId = id →
    s.sessionParams = params → s.encrypted2.length ≤ maxEncrypted2 → maxSigma2 ≤ out.octets.length →
      ∃ bytes, written s.encode out = .ok bytes
  sigma3 : ∀ (encrypted3 : List UInt8) (out : Slice), encrypted3.length ≤ maxEncrypted3 →
    maxSigma3 ≤ out.octets.length → ∃ bytes, written (Sigma3.encode encrypted3) out = .ok bytes
  start : ∀ {K : Type} (c : CaseCrypto) (store : KeyStore K), c.Roomy → store.Roomy →
    ∀ (fabric : Fabric) (peerNodeId : NodeId) (random ephemeral : List UInt8) (out : Slice)
      (state : InitiatorState) (keys : K), random.length = 32 → maxSigma1 ≤ out.octets.length →
      Raises NotShort (exec (CaseInitiator.start c store fabric peerNodeId random ephemeral out)
        (⟨id, params, state⟩, keys)).1
  startResumption : resuming = true → ∀ {K : Type} (c : CaseCrypto) (store : KeyStore K),
    c.Roomy → store.Roomy → ∀ (fabric : Fabric) (peerNodeId : NodeId) (previous : ResumptionState)
      (random ephemeral : List UInt8) (out : Slice) (state : InitiatorState) (keys : K),
      previous.resumptionId.length = 16 → random.length = 32 → maxSigma1 ≤ out.octets.length →
      Raises NotShort (exec (CaseInitiator.startResumption c store fabric peerNodeId previous random
        ephemeral out) (⟨id, params, state⟩, keys)).1
  handleSigma1 : ∀ {K : Type} (c : CaseCrypto) (store : KeyStore K), c.Roomy → store.Roomy →
    ∀ (sigma1 : Sigma1) (fabric : Fabric) (randomness : Sigma2Randomness) (out : Slice)
      (state : ResponderState) (keys : K), randomness.responder.length = 32 →
      randomness.resumption.length = 16 → maxSigma2 ≤ out.octets.length →
      Raises NotShort (exec (CaseResponder.handleSigma1 c store sigma1 fabric noc icac randomness out)
        (⟨id, params, state⟩, keys)).1
  handleSigma2 : ∀ {K : Type} (c : CaseCrypto) (store : KeyStore K), c.Roomy → store.Roomy →
    ∀ (fabric : Fabric) (root : MatterCertificate) (epochS : Option UInt32) (out : Slice)
      (state : InitiatorState) (keys : K), maxSigma3 ≤ out.octets.length →
      Raises NotShort (exec (CaseInitiator.handleSigma2 c store answer fabric root noc icac epochS out)
        (⟨id, params, state⟩, keys)).1

namespace Sample

/-- Stand-in primitives that have room for what they are asked for, and accept no certificate that is too
long. -/
def roomyCrypto : CaseCrypto where
  kdf := fun _ _ _ length => .ok (List.replicate length 7)
  hmac := fun _ _ => .ok (List.replicate 32 5)
  aead := .tagByKey
  hash := fun octets => octets.take 32
  verify := fun _ _ _ => .ok true
  decodeCertificate := fun octets =>
    if octets.length ≤ certTlvMax then .ok ⟨octets, ⟨.replicate 65 0⟩⟩ else .error .certInvalid
  verifyChain := fun _ _ _ _ => .ok ⟨⟨5⟩, ⟨1⟩, .empty⟩

lemma roomy_crypto : roomyCrypto.Roomy where
  kdf := fun _ _ _ _ => .ok _
  hmac := fun _ _ => .ok _
  hmac_length := by
    intro key message mac h
    rw [← Except.ok.inj h]
    exact List.length_replicate
  verify := fun _ _ _ => .ok _
  decodeCertificate := by
    intro octets
    simp only [roomyCrypto]
    split_ifs
    · exact .ok _
    · exact fun e he => Except.error.inj he ▸ by decide
  decodeCertificate_le := by
    intro octets certificate h
    simp only [roomyCrypto] at h
    split_ifs at h with hle
    exact hle
  verifyChain := fun _ _ _ _ => .ok _

lemma roomy_allKeys : allKeys.Roomy where
  generate := fun _ _ _ => .ok _
  sign := fun _ _ _ => .ok _
  sign_length := by
    intro keys key message signature h
    rw [← Except.ok.inj h]
    exact List.length_replicate
  ecdh := fun _ _ _ => .ok _
  remove := fun _ _ => .ok _

/-- An initiator's own part of a handshake. -/
def pending : InitiatorPending where
  initiatorRandom := []
  ephHandle := ⟨1⟩
  initiatorEphPubKey := ⟨.replicate 65 4⟩
  ipk := ⟨.replicate 16 0⟩
  fabricIndex := ⟨1⟩
  fabricId := ⟨1⟩
  peerNodeId := ⟨5⟩
  transcript := []

/-- What a node with short intervals announces. -/
def announcing : SessionParams where
  idleIntervalMs := 500
  activeIntervalMs := 300
  activeThresholdMs := 4000
  dataModelRevision := 19
  interactionModelRevision := 13
  specificationVersion := 0x01040000
  maxPathsPerInvoke := 1
  supportedTransports := 0
  maxTcpMessageSize := none

/-- What a sleepy node announces that takes large messages over TCP and many commands in one. -/
def announcingMore : SessionParams :=
  { announcing with
    idleIntervalMs := 3600000
    activeIntervalMs := 3600000
    activeThresholdMs := 65535
    maxPathsPerInvoke := 256
    supportedTransports := 6
    maxTcpMessageSize := some 1048576 }

/-- What there is left of a session. -/
def previous : ResumptionState where
  sharedSecret := List.replicate 32 8
  resumptionId := List.replicate 16 3
  fabricIndex := ⟨1⟩
  identity := ⟨⟨5⟩, ⟨1⟩, .empty⟩

/-- An answer that seals as much as it may. -/
def fullAnswer : Sigma2 where
  responderRandom := List.replicate 32 1
  responderSessionId := ⟨2⟩
  responderEphPubKey := ⟨.replicate 65 4⟩
  encrypted2 := List.replicate 912 0

end Sample

lemma maxSigma3_lt : maxSigma3 < 2 ^ 63 := by decide

section Bounds

variable {id : SessionId} {params : Option SessionParams} {resuming : Bool} {noc : List UInt8}
  {icac : Option (List UInt8)} {answer : Sigma2}

/-- An answer that seals more than it may is not opened for want of room. -/
lemma handleSigma2_overlong (hlong : maxEncrypted2 + 16 < answer.encrypted2.length) (fabric : Fabric)
    (root : MatterCertificate) (out : Slice) :
    (exec (CaseInitiator.handleSigma2 Sample.roomyCrypto Sample.allKeys answer fabric root noc icac none
      out) (⟨id, params, .awaitingSigma2 Sample.pending⟩, ())).1 = .error .bufferTooSmall := by
  have hopen : ∀ key nonce, Sample.roomyCrypto.openIn maxEncrypted2 key nonce answer.encrypted2 =
      .error .bufferTooSmall := by
    intro key nonce
    have hlt : ¬ answer.encrypted2.length - 16 ≤ maxEncrypted2 := by omega
    rw [CaseCrypto.openIn, ensure_of (show 16 ≤ answer.encrypted2.length by omega), ok_bind, ensure,
      if_neg hlt, error_bind]
  have hsigma3 : ∀ sharedSecret, CaseInitiator.sigma3 Sample.roomyCrypto Sample.allKeys Sample.pending
      sharedSecret answer fabric root noc icac () none out = .error .bufferTooSmall := by
    intro sharedSecret
    obtain ⟨key, hkey⟩ : ∃ key, Sample.roomyCrypto.sigma2Key sharedSecret Sample.pending.ipk
        answer.responderRandom answer.responderEphPubKey
        (Sample.roomyCrypto.hash Sample.pending.transcript) = .ok key := ⟨_, rfl⟩
    rw [CaseInitiator.sigma3, hkey, ok_bind, hopen, error_bind]
  have hbuilt : exec (CaseInitiator.buildSigma3 Sample.roomyCrypto Sample.allKeys answer fabric root noc
      icac none out) (⟨id, params, .awaitingSigma2 Sample.pending⟩, ()) =
      (.error .bufferTooSmall, (⟨id, params, .awaitingSigma2 Sample.pending⟩, ())) := by
    rw [CaseInitiator.buildSigma3, exec_get_bind]
    have hecdh : Sample.allKeys.ecdh () Sample.pending.ephHandle answer.responderEphPubKey =
        .ok (List.replicate 32 8) := rfl
    dsimp only
    rw [hecdh, exec_bind_ok (exec_ofResult _ _), hsigma3, exec_bind_error (exec_ofResult _ _)]
  rw [CaseInitiator.handleSigma2, exec_onFailure, hbuilt]

end Bounds

end Sc

end MatterKit
