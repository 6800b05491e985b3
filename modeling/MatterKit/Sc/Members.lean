import MatterKit.Sc.Initiator
import MatterKit.Tlv.Elements
import MatterKit.Tlv.Sizes

/-!
# The handshake messages, written and read

Each message is a list of writer calls (`Sigma1.calls` and its like), so how long it is follows from its
fields (`written_runAll_iff`), and it is read back as the elements of those calls. A decoder goes
through these member by member at its own level: `Gathers` says what the members in a list of elements
make of its variables, and `decodeStruct_of_gathers` that the decoder ends with just that.

What a decoder makes of the session parameters is their `announced` form.
-/

namespace MatterKit.Sc

open Lib Machine Tlv

/-! ## Depths -/

/-- The depth behind some elements. -/
def depthAfterAll (depth : ℕ) (es : List Element) : ℕ := es.foldl depthAfter depth

/-- What is read moves the depth as its elements say. -/
lemma depth_of_yields {r r' : TlvReader} {es : List Element} (h : Yields r es r') :
    r'.depth = depthAfterAll r.depth es := by
  induction h with
  | nil r => rfl
  | cons first others ih =>
    obtain ⟨bytes, hfaces⟩ := faces_of_yield first
    obtain ⟨-, t, rest, -, hfits, rfl, rfl⟩ := token_of_yield hfaces first
    rw [ih, (Token.depth_after hfits).1, depthAfterAll, depthAfterAll, List.foldl_cons]

/-! ## Members at a level -/

section Gathers

variable {β : Type}

/-- The members in `elements`, each with what is inside it, take a decoder's variables at a level from one
value to another. -/
inductive Gathers (depth : ℕ) (step : UInt8 → Element → β → Reading β) :
    List Element → β → β → Prop
  | nil (acc : β) : Gathers depth step [] acc acc
  | cons {e : Element} {tag : UInt8} {inner others : List Element} {acc acc₁ acc' : β}
      (member : e.value ≠ .endOfContainer) (context : e.tag.context? = some tag)
      (level : depthAfterAll (depthAfter depth e) inner = depth)
      (first : ∀ r r', r.depth = depthAfter depth e → Yields r inner r' →
        exec (step tag e acc) r = (.ok acc₁, r'))
      (rest : Gathers depth step others acc₁ acc') : Gathers depth step (e :: (inner ++ others)) acc acc'

namespace Gathers

variable {depth : ℕ} {step : UInt8 → Element → β → Reading β}

variable {e : Element} {tag : UInt8} {r r' : TlvReader} {es : List Element}

/-- One member that has nothing inside. -/
lemma single {acc acc' : β} (member : e.value.IsPlain) (context : e.tag.context? = some tag)
    (h : ∀ r, exec (step tag e acc) r = (.ok acc', r)) : Gathers depth step [e] acc acc' := by
  have hend : e.value ≠ .endOfContainer := by
    intro heq
    rw [heq] at member
    exact member
  refine @Gathers.cons β depth step e tag [] [] acc acc' acc' hend context
    (member.of_element e.tag depth).1 ?_ (.nil acc')
  intro r r' _ hyields
  cases hyields
  exact h r

lemma append {es fs : List Element} {acc acc₁ acc' : β} (h : Gathers depth step es acc acc₁)
    (h' : Gathers depth step fs acc₁ acc') : Gathers depth step (es ++ fs) acc acc' := by
  induction h with
  | nil acc => exact h'
  | cons member context level first _ ih =>
    rw [List.cons_append, List.append_assoc]
    exact .cons member context level first (ih h')

/-- One member more, in front. -/
lemma step_cons {others : List Element} {acc acc₁ acc' : β} (member : e.value.IsPlain)
    (context : e.tag.context? = some tag) (first : ∀ r, exec (step tag e acc) r = (.ok acc₁, r))
    (rest : Gathers depth step others acc₁ acc') : Gathers depth step (e :: others) acc acc' :=
  (single member context first).append rest

/-- The next member, its end or the container's. -/
lemma fieldsNext_of_next (h : exec nextElement r = (.ok (some e), r'))
    (member : e.value ≠ .endOfContainer) (context : e.tag.context? = some tag) (rounds : ℕ) :
    exec (fieldsNext depth (rounds + 1)) r = (.ok (some (tag, e)), r') := by
  rw [fieldsNext, exec_bind_ok h]
  simp only [if_neg member, context]
  rfl

lemma fieldsNext_of_end {tag : Tag}
    (h : exec nextElement r = (.ok (some ⟨tag, .endOfContainer⟩), r')) (hdepth : r'.depth < depth)
    (rounds : ℕ) : exec (fieldsNext depth (rounds + 1)) r = (.ok none, r') := by
  rw [fieldsNext, exec_bind_ok h]
  simp only [if_true]
  rw [exec_get_bind, if_pos hdepth]
  rfl

lemma exec_eachFieldFrom {acc acc' : β} (h : Gathers depth step es acc acc') (hdepth : 0 < depth)
    {tag : Tag} (hr : r.depth = depth) (hy : Yields r (es ++ [⟨tag, .endOfContainer⟩]) r')
    {rounds : ℕ} (hrounds : es.length < rounds) :
    exec (eachFieldFrom depth step rounds acc) r = (.ok acc', r') := by
  induction h generalizing r rounds with
  | nil acc =>
    rcases rounds with _ | rounds
    · omega
    have hafter : r'.depth = r.depth - 1 := depth_of_yields hy
    cases hy with
    | cons first others =>
      cases others
      have hlt : r'.depth < depth := by omega
      rw [eachFieldFrom, exec_get_bind, exec_bind_ok (fieldsNext_of_end first hlt _)]
      rfl
  | @cons e tag' inner others acc acc₁ acc' member context level hstep hrest ih =>
    rcases rounds with _ | rounds
    · omega
    rw [List.cons_append, List.append_assoc] at hy
    cases hy with
    | @cons _ r₁ _ _ _ first rest =>
      obtain ⟨r₂, hinner, hothers⟩ := rest.of_append
      have hr₁ : r₁.depth = depthAfter depth e := by
        rw [depth_of_yields (.cons first (.nil r₁)), ← hr]
        rfl
      have hr₂ : r₂.depth = depth := by
        rw [depth_of_yields hinner, hr₁, level]
      rw [eachFieldFrom, exec_get_bind, exec_bind_ok (fieldsNext_of_next first member context _)]
      dsimp only
      rw [exec_bind_ok (hstep r₁ r₂ hr₁ hinner)]
      refine ih hr₂ hothers ?_
      simp only [List.length_cons, List.length_append] at hrounds
      omega

/-- The members of a container, and its end after them. -/
lemma exec_eachField {acc acc' : β} (h : Gathers depth step es acc acc') (hdepth : 0 < depth)
    {tag : Tag} (hr : r.depth = depth) (hy : Yields r (es ++ [⟨tag, .endOfContainer⟩]) r') :
    exec (eachField depth step acc) r = (.ok acc', r') := by
  have hlen := hy.length_le
  rw [List.length_append, List.length_singleton] at hlen
  rw [eachField, exec_get_bind]
  exact h.exec_eachFieldFrom hdepth hr hy (by omega)

end Gathers

/-- A message whose members are gathered is read as they say. -/
lemma decodeStruct_of_gathers {step : UInt8 → Element → β → Reading β} {init acc : β}
    {bytes : List UInt8} {es : List Element} {tag tag' : Tag} {r : TlvReader}
    (h : Gathers 1 step es init acc) (hy : Yields (.new bytes)
      (⟨tag, .container .struct⟩ :: (es ++ [⟨tag', .endOfContainer⟩])) r) :
    decodeStruct step init bytes = .ok acc := by
  cases hy with
  | @cons _ r₁ _ _ _ first rest =>
    have hr₁ : r₁.depth = 1 := depth_of_yields (.cons first (.nil r₁))
    have hrun := h.exec_eachField Nat.one_pos hr₁ rest
    rw [decodeStruct]
    rw [exec_bind_ok first]
    dsimp only
    rw [exec_require_bind (by rfl), hrun]

end Gathers

/-! ## Encoders that are lists of calls -/

section Calls

/-- A call that is made if there is a value for it. -/
lemma whenSome_eq_call {γ : Type} (field : Option γ) (call : γ → WriterCall) :
    Im.whenSome field (fun v => (call v).run) = WriterCall.runAll (field.toList.map call) := by
  cases field with
  | none => rfl
  | some v => exact (bind_pure_unit (x := (call v).run)).symm

/-- Calls that are made if there is a value for them. -/
lemma whenSome_eq_calls {γ : Type} (field : Option γ) (calls : γ → List WriterCall) :
    Im.whenSome field (fun v => WriterCall.runAll (calls v)) =
      WriterCall.runAll (field.toList.flatMap calls) := by
  cases field with
  | none => rfl
  | some v => simp [Im.whenSome]

variable {calls : List WriterCall}

/-- An encoder that makes one element writes it exactly where it fits, and fails in one way. -/
lemma written_runAll {x : Writing Unit} (hx : x = WriterCall.runAll calls) (h : MakesOne calls)
    (out : Slice) : (lengths calls ≤ out.octets.length → ∃ bytes, written x out = .ok bytes ∧
      bytes.length = lengths calls) ∧
    (out.octets.length < lengths calls → written x out = .error .bufferTooSmall) := by
  subst hx
  constructor
  · intro hfits
    obtain ⟨w, bytes, hrun, hfinish, hlength⟩ := finish_runAll h hfits
    refine ⟨bytes, ?_, hlength⟩
    rw [written, hrun]
    exact hfinish
  · intro hshort
    obtain ⟨w, hrun⟩ := runAll_short h hshort
    rw [written, hrun]

/-- It is written exactly where it fits. -/
lemma written_isOk_iff {x : Writing Unit} (hx : x = WriterCall.runAll calls) (h : MakesOne calls)
    (out : Slice) : (written x out).isOk = true ↔ lengths calls ≤ out.octets.length := by
  obtain ⟨hfits, hshort⟩ := written_runAll hx h out
  rcases Nat.lt_or_ge out.octets.length (lengths calls) with hlt | hle
  · rw [hshort hlt]
    exact iff_of_false (by simp [Except.isOk, Except.toBool]) (by omega)
  · obtain ⟨bytes, hbytes, -⟩ := hfits hle
    rw [hbytes]
    exact iff_of_true rfl hle

/-- What was written is read back as the elements of the calls. -/
lemma yields_of_written {x : Writing Unit} (hx : x = WriterCall.runAll calls) {out : Slice}
    {bytes : List UInt8} (h : written x out = .ok bytes) :
    ∃ r, Yields (.new bytes) (calls.map WriterCall.element) r := by
  subst hx
  rw [written] at h
  rcases hrun : exec (WriterCall.runAll calls) (.new out) with ⟨_ | _, w⟩
  · rw [hrun] at h
    cases h
  · rw [hrun] at h
    obtain ⟨r, hyields, -⟩ := written_reads_back hrun h
    exact ⟨r, hyields⟩

end Calls

/-! ## Session parameters -/

lemma saturatingU32_toUInt64 (v : UInt32) : SessionParams.saturatingU32 v.toUInt64 = v := by
  have hlt : v.toUInt64.toNat < 2 ^ 32 := by
    rw [UInt32.toNat_toUInt64]
    exact v.toNat_lt
  rw [SessionParams.saturatingU32, if_pos hlt]
  exact UInt32.toUInt32_toUInt64 v

lemma saturatingU16_toUInt64 (v : UInt16) : SessionParams.saturatingU16 v.toUInt64 = v := by
  have hlt : v.toUInt64.toNat < 2 ^ 16 := by
    rw [UInt16.toNat_toUInt64]
    exact v.toNat_lt
  rw [SessionParams.saturatingU16, if_pos hlt]
  exact UInt16.toUInt16_toUInt64 v

namespace SessionParams

/-- The members of `encode`. -/
def memberCalls (p : SessionParams) : List WriterCall :=
  [.unsigned (.context 1) p.idleIntervalMs.toUInt64,
    .unsigned (.context 2) p.activeIntervalMs.toUInt64,
    .unsigned (.context 3) p.activeThresholdMs.toUInt64,
    .unsigned (.context 4) p.dataModelRevision.toUInt64,
    .unsigned (.context 5) p.interactionModelRevision.toUInt64,
    .unsigned (.context 6) p.specificationVersion.toUInt64,
    .unsigned (.context 7) p.maxPathsPerInvoke.toUInt64,
    .unsigned (.context 8) p.supportedTransports.toUInt64] ++
    p.maxTcpMessageSize.toList.map fun size => WriterCall.unsigned (.context 9) size.toUInt64

/-- The calls of `encode`. -/
def calls (tag : Tag) (p : SessionParams) : List WriterCall :=
  .start tag .struct :: (p.memberCalls ++ [.endContainer])

lemma encode_eq_calls (tag : Tag) (p : SessionParams) : p.encode tag = WriterCall.runAll (p.calls tag) := by
  simp only [calls, memberCalls, List.cons_append, List.nil_append, WriterCall.runAll,
    WriterCall.runAll_append, ← whenSome_eq_call, bind_pure_unit]
  rfl

/-- What a peer makes of the parameters. -/
def announced (p : SessionParams) : SessionParams :=
  { p with
    maxPathsPerInvoke := max p.maxPathsPerInvoke 1
    supportedTransports := p.supportedTransports &&& 6 }

/-- The members that were written are read, from where there are none. -/
lemma gathers_memberCalls (p : SessionParams) (depth : ℕ) :
    ∃ seen, Gathers depth decodeField (p.memberCalls.map WriterCall.element) (legacyPeer, [])
      (p.announced, seen) := by
  obtain ⟨idle, active, threshold, dataModel, interactionModel, specification, paths, transports,
    tcp⟩ := p
  have hplain : ∀ (tag : Tag) (v : UInt64), (⟨tag, .unsigned v⟩ : Element).value.IsPlain :=
    fun _ _ => trivial
  have htcp : ∀ q : SessionParams, q.maxTcpMessageSize = none →
      Gathers depth decodeField
        ((tcp.toList.map fun size => WriterCall.unsigned (.context 9) size.toUInt64).map
          WriterCall.element) (q, [8, 7, 6, 5, 4, 3, 2, 1])
        (⟨q.idleIntervalMs, q.activeIntervalMs, q.activeThresholdMs, q.dataModelRevision,
          q.interactionModelRevision, q.specificationVersion, q.maxPathsPerInvoke,
          q.supportedTransports, tcp⟩,
          (tcp.toList.map fun _ => 9) ++ [8, 7, 6, 5, 4, 3, 2, 1]) := by
    intro q hq
    obtain ⟨idle, active, threshold, dataModel, interactionModel, specification, paths, transports,
      none'⟩ := q
    obtain rfl : none' = none := hq
    cases tcp with
    | none => exact .nil _
    | some size =>
      have hrun : ∀ r, exec (decodeField 9 ⟨.context 9, .unsigned size.toUInt64⟩
          (⟨idle, active, threshold, dataModel, interactionModel, specification, paths, transports,
            none⟩, [8, 7, 6, 5, 4, 3, 2, 1])) r =
          (.ok (⟨idle, active, threshold, dataModel, interactionModel, specification, paths,
            transports, some (saturatingU32 size.toUInt64)⟩, [9, 8, 7, 6, 5, 4, 3, 2, 1]), r) :=
        fun r => rfl
      rw [saturatingU32_toUInt64] at hrun
      exact .single (hplain _ _) rfl hrun
  refine ⟨(tcp.toList.map fun _ => 9) ++ [8, 7, 6, 5, 4, 3, 2, 1], ?_⟩
  simp only [memberCalls, List.map_cons, List.cons_append, List.nil_append]
  refine .step_cons (hplain _ _) rfl (fun r => rfl) ?_
  refine .step_cons (hplain _ _) rfl (fun r => rfl) ?_
  refine .step_cons (hplain _ _) rfl (fun r => rfl) ?_
  refine .step_cons (hplain _ _) rfl (fun r => rfl) ?_
  refine .step_cons (hplain _ _) rfl (fun r => rfl) ?_
  refine .step_cons (hplain _ _) rfl (fun r => rfl) ?_
  refine .step_cons (hplain _ _) rfl (fun r => rfl) ?_
  refine .step_cons (hplain _ _) rfl (fun r => rfl) ?_
  simp only [saturatingU32_toUInt64, saturatingU16_toUInt64]
  exact htcp _ rfl

/-- The parameters that were written inside a message are read as a peer makes them out. -/
lemma decode_of_yields (p : SessionParams) {r r' : TlvReader} (hr : r.depth = 2)
    (hy : Yields r ((p.memberCalls ++ [WriterCall.endContainer]).map WriterCall.element) r') :
    exec decode r = (.ok p.announced, r') := by
  obtain ⟨seen, hgathers⟩ := p.gathers_memberCalls 2
  rw [List.map_append] at hy
  rw [decode, exec_bind_ok (hgathers.exec_eachField Nat.two_pos hr hy)]
  rfl

/-- The level of the parameters is left again. -/
lemma depthAfterAll_memberCalls (p : SessionParams) (depth : ℕ) : depthAfterAll (depth + 1)
      ((p.memberCalls ++ [WriterCall.endContainer]).map WriterCall.element) = depth := by
  obtain ⟨idle, active, threshold, dataModel, interactionModel, specification, paths, transports,
    tcp⟩ := p
  cases tcp <;> rfl

end SessionParams

/-! ## Messages -/

/-- The calls that write a message with these members. -/
def messageCalls (members : List WriterCall) : List WriterCall :=
  .start .anonymous .struct :: (members ++ [.endContainer])

/-- The calls that write session parameters if there are any. -/
def paramsCalls (t : UInt8) (params : Option SessionParams) : List WriterCall :=
  params.toList.flatMap (SessionParams.calls (.context t))

/-- An octet string under a tag if there is one. -/
def octetsCalls (t : UInt8) (value : Option (List UInt8)) : List WriterCall :=
  value.toList.map (WriterCall.octets (.context t))

lemma whenSome_params (t : UInt8) (params : Option SessionParams) :
    Im.whenSome params (fun p => p.encode (.context t)) = WriterCall.runAll (paramsCalls t params) := by
  rw [paramsCalls, ← whenSome_eq_calls]
  simp only [SessionParams.encode_eq_calls]

lemma whenSome_octets (t : UInt8) (value : Option (List UInt8)) :
    Im.whenSome value (fun v => octets (.context t) v) = WriterCall.runAll (octetsCalls t value) := by
  rw [octetsCalls, ← whenSome_eq_call]
  rfl

/-! ## Fields -/

lemma fixedBytes_octets {n : ℕ} {tag : Tag} {v : List UInt8} (h : v.length = n) :
    fixedBytes n ⟨tag, .octets v⟩ = .ok v := by
  rw [fixedBytes, octetsOf, ok_bind, ensure_of h]
  rfl

lemma publicKeyOf_octets {tag : Tag} (key : PublicKey) :
    publicKeyOf ⟨tag, .octets key.bytes.toList⟩ = .ok key := by
  rw [publicKeyOf, octetsOf, ok_bind, dif_pos (by simp)]
  exact congrArg (fun v => Except.ok (PublicKey.mk v)) (Vector.toArray_inj.mp (Array.toArray_toList))

lemma sessionIdOf_unsigned {tag : Tag} (id : SessionId) :
    sessionIdOf ⟨tag, .unsigned id.val.toUInt64⟩ = .ok id := by
  have hlt : id.val.toUInt64.toNat < 2 ^ 16 := by
    rw [UInt16.toNat_toUInt64]
    exact id.val.toNat_lt
  rw [sessionIdOf, Element.unsigned, ok_bind, ensure_of hlt, ok_bind, UInt16.toUInt16_toUInt64]
  rfl

section Fields

variable {β γ : Type}

/-- A variable that is empty takes the value of its member. -/
lemma exec_setField {x : Except ErrorCode γ} {v : γ} (h : x = .ok v) (f : Option γ → β) (r : TlvReader) :
    exec (do let slot ← Im.setField none x; pure (f slot)) r = (.ok (f (some v)), r) := by
  rw [h]
  rfl

/-- An octet string that may be there. -/
lemma Gathers.octets (depth : ℕ) (step : UInt8 → Element → β → Reading β) (t : UInt8)
    (value : Option (List UInt8)) (acc : Option (List UInt8) → β) (h : ∀ v, value = some v → ∀ r,
      exec (step t ⟨.context t, .octets v⟩ (acc none)) r = (.ok (acc (some v)), r)) :
    Gathers depth step ((value.toList.map (WriterCall.octets (.context t))).map WriterCall.element)
      (acc none) (acc value) := by
  cases value with
  | none => exact .nil _
  | some v => exact .single trivial rfl (h v rfl)

/-- Session parameters that may be there, in a message. -/
lemma Gathers.params (step : UInt8 → Element → β → Reading β) (t : UInt8)
    (params : Option SessionParams) (acc : Option SessionParams → β)
    (h : ∀ e p r r', exec SessionParams.decode r = (.ok p, r') →
      exec (step t e (acc none)) r = (.ok (acc (some p)), r')) :
    Gathers 1 step ((paramsCalls t params).map WriterCall.element) (acc none)
      (acc (params.map SessionParams.announced)) := by
  cases params with
  | none => exact .nil _
  | some p =>
    have hmember : (⟨.context t, .container .struct⟩ : Element).value ≠ .endOfContainer := by simp
    have hfirst : ∀ r r', r.depth = depthAfter 1 ⟨.context t, .container .struct⟩ →
        Yields r ((p.memberCalls ++ [WriterCall.endContainer]).map WriterCall.element) r' →
        exec (step t ⟨.context t, .container .struct⟩ (acc none)) r =
          (.ok (acc (some p.announced)), r') :=
      fun r r' hr hy => h _ _ r r' (p.decode_of_yields hr hy)
    have hall := @Gathers.cons β 1 step _ t _ [] _ _ _ hmember rfl (p.depthAfterAll_memberCalls 1) hfirst (.nil _)
    simpa [paramsCalls, SessionParams.calls, WriterCall.element] using hall

end Fields

/-! ## The Sigma messages -/

namespace Sigma1

/-- The members of `encode`. -/
def memberCalls (s : Sigma1) : List WriterCall :=
  [.octets (.context 1) s.initiatorRandom,
    .unsigned (.context 2) s.initiatorSessionId.val.toUInt64,
    .octets (.context 3) s.destinationId,
    .octets (.context 4) s.initiatorEphPubKey.bytes.toList] ++
    paramsCalls 5 s.sessionParams ++ octetsCalls 6 s.resumptionId ++
    octetsCalls 7 s.initiatorResumeMic

lemma encode_eq_calls (s : Sigma1) : s.encode = WriterCall.runAll (messageCalls s.memberCalls) := by
  simp only [messageCalls, memberCalls, List.cons_append, List.nil_append, List.append_assoc,
    WriterCall.runAll, WriterCall.runAll_append, ← whenSome_params, ← whenSome_octets,
    bind_pure_unit]
  rfl

lemma makesOne (s : Sigma1) : MakesOne (messageCalls s.memberCalls) := by
  obtain ⟨random, id, destination, key, params, resumptionId, mic, encoded⟩ := s
  rcases params with _ | ⟨idle, active, threshold, dataModel, interactionModel, specification,
    paths, transports, _ | tcp⟩ <;> rcases resumptionId with _ | resumptionId <;>
    rcases mic with _ | mic <;> rfl

/-- The fields that have a fixed length have it. -/
structure Sized (s : Sigma1) : Prop where
  initiatorRandom : s.initiatorRandom.length = 32
  destinationId : s.destinationId.length = 32
  resumptionId : ∀ id, s.resumptionId = some id → id.length = 16
  initiatorResumeMic : ∀ mic, s.initiatorResumeMic = some mic → mic.length = 16

/-- What the message says is read from it. -/
lemma gathers_memberCalls {s : Sigma1} (h : s.Sized) :
    Gathers 1 decodeField (s.memberCalls.map WriterCall.element) {}
      { initiatorRandom := some s.initiatorRandom
        initiatorSessionId := some s.initiatorSessionId
        destinationId := some s.destinationId
        initiatorEphPubKey := some s.initiatorEphPubKey
        sessionParams := s.sessionParams.map SessionParams.announced
        resumptionId := s.resumptionId
        initiatorResumeMic := s.initiatorResumeMic } := by
  obtain ⟨random, id, destination, key, params, resumptionId, mic, encoded⟩ := s
  have hparams := Gathers.params decodeField 5 params
    (fun v => ⟨some random, some id, some destination, some key, v, none, none⟩)
    fun e p r r' hrun => by
      simp only [decodeField]
      rw [exec_bind_ok hrun]
      exact exec_setField rfl _ r'
  have hid := Gathers.octets 1 decodeField 6 resumptionId
    (fun v => ⟨some random, some id, some destination, some key,
      params.map SessionParams.announced, v, none⟩)
    fun v hv r => exec_setField (fixedBytes_octets (h.resumptionId v hv)) _ r
  have hmic := Gathers.octets 1 decodeField 7 mic
    (fun v => ⟨some random, some id, some destination, some key,
      params.map SessionParams.announced, resumptionId, v⟩)
    fun v hv r => exec_setField (fixedBytes_octets (h.initiatorResumeMic v hv)) _ r
  simp only [memberCalls, List.map_append, List.map_cons, List.cons_append, List.nil_append]
  refine .step_cons trivial rfl (exec_setField (fixedBytes_octets h.initiatorRandom) _) ?_
  refine .step_cons trivial rfl (exec_setField (sessionIdOf_unsigned id) _) ?_
  refine .step_cons trivial rfl (exec_setField (fixedBytes_octets h.destinationId) _) ?_
  refine .step_cons trivial rfl (exec_setField (publicKeyOf_octets key) _) ?_
  exact (hparams.append hid).append hmic

/-- A message that was written is read back, its session parameters as a peer makes them out. -/
lemma decode_written {s : Sigma1} (h : s.Sized) {out : Slice} {bytes : List UInt8}
    (hwritten : written s.encode out = .ok bytes) : decode bytes = .ok { s with
      sessionParams := s.sessionParams.map SessionParams.announced
      encoded := bytes } := by
  obtain ⟨r, hyields⟩ := yields_of_written s.encode_eq_calls hwritten
  rw [messageCalls, List.map_cons, List.map_append] at hyields
  rw [decode, decodeStruct_of_gathers (gathers_memberCalls h) hyields]
  rfl

end Sigma1

namespace Sigma2

/-- The members of `encode`. -/
def memberCalls (s : Sigma2) : List WriterCall :=
  [.octets (.context 1) s.responderRandom,
    .unsigned (.context 2) s.responderSessionId.val.toUInt64,
    .octets (.context 3) s.responderEphPubKey.bytes.toList,
    .octets (.context 4) s.encrypted2] ++ paramsCalls 5 s.sessionParams

lemma encode_eq_calls (s : Sigma2) : s.encode = WriterCall.runAll (messageCalls s.memberCalls) := by
  simp only [messageCalls, memberCalls, List.cons_append, List.nil_append, WriterCall.runAll,
    WriterCall.runAll_append, ← whenSome_params, bind_pure_unit]
  rfl

lemma makesOne (s : Sigma2) : MakesOne (messageCalls s.memberCalls) := by
  obtain ⟨random, id, key, encrypted2, params, encoded⟩ := s
  rcases params with _ | ⟨idle, active, threshold, dataModel, interactionModel, specification,
    paths, transports, _ | tcp⟩ <;> rfl

end Sigma2

/-! ## What is sealed, and what is signed -/

lemma Sigma3.encode_eq_calls (encrypted3 : List UInt8) : Sigma3.encode encrypted3 =
      WriterCall.runAll (messageCalls [.octets (.context 1) encrypted3]) := by
  simp only [messageCalls, List.cons_append, List.nil_append, WriterCall.runAll, bind_pure_unit]
  rfl

namespace TbeData

/-- The members of `encode`. -/
def memberCalls (t : TbeData) : List WriterCall :=
  [.octets (.context 1) t.noc] ++ octetsCalls 2 t.icac ++ [.octets (.context 3) t.signature] ++
    octetsCalls 4 t.resumptionId

lemma encode_eq_calls (t : TbeData) : t.encode = WriterCall.runAll (messageCalls t.memberCalls) := by
  simp only [messageCalls, memberCalls, List.cons_append, List.nil_append, List.append_assoc,
    WriterCall.runAll, WriterCall.runAll_append, ← whenSome_octets, bind_pure_unit]
  rfl

lemma makesOne (t : TbeData) : MakesOne (messageCalls t.memberCalls) := by
  obtain ⟨noc, icac, signature, resumptionId⟩ := t
  rcases icac with _ | icac <;> rcases resumptionId with _ | resumptionId <;> rfl

end TbeData

/-- The members of what is signed. -/
def tbsMemberCalls (noc : List UInt8) (icac : Option (List UInt8)) (own peer : PublicKey) :
    List WriterCall :=
  [.octets (.context 1) noc] ++ octetsCalls 2 icac ++
    [.octets (.context 3) own.bytes.toList, .octets (.context 4) peer.bytes.toList]

/-- The writer of what is signed.
Source: `sc/case.rs`, `encode_tbsdata`, before `finish`. -/
def writeTbsdata (noc : List UInt8) (icac : Option (List UInt8)) (own peer : PublicKey) :
    Writing Unit := do
  start .anonymous .struct
  octets (.context 1) noc
  Im.whenSome icac fun icac => octets (.context 2) icac
  octets (.context 3) own.bytes.toList
  octets (.context 4) peer.bytes.toList
  endContainer

lemma writeTbsdata_eq_calls (noc : List UInt8) (icac : Option (List UInt8)) (own peer : PublicKey) :
    writeTbsdata noc icac own peer =
      WriterCall.runAll (messageCalls (tbsMemberCalls noc icac own peer)) := by
  simp only [messageCalls, tbsMemberCalls, List.cons_append, List.nil_append, List.append_assoc,
    WriterCall.runAll, WriterCall.runAll_append, ← whenSome_octets, bind_pure_unit]
  rfl

lemma makesOne_tbsdata (noc : List UInt8) (icac : Option (List UInt8)) (own peer : PublicKey) :
    MakesOne (messageCalls (tbsMemberCalls noc icac own peer)) := by
  rcases icac with _ | icac <;> rfl

end MatterKit.Sc
