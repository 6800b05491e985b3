import MatterKit.Im.Dispatch
import MatterKit.Tlv.Frames

/-!
# What a client reads of a report

The client's half of the information blocks: `AttributeReport` and what is in it decoded, and
`ReportData`, the message that carries them. `ReportData.decode` captures the arrays and decodes nothing
of them; what `attributeReports` makes of a captured array is decided member by member.

A captured array is a legal tree of its own (`ReportData.exists_carries`).
-/

namespace MatterKit.Im

open Lib Machine Tlv Dm

/-! ## Blocks decoded -/

/-- Source: `Status::from_value`. -/
def Status.fromValue (value : UInt8) : Status :=
  match value with
  | 0x00 => .success
  | 0x01 => .failure
  | 0x7D => .invalidSubscription
  | 0x7E => .unsupportedAccess
  | 0x7F => .unsupportedEndpoint
  | 0x80 => .invalidAction
  | 0x81 => .unsupportedCommand
  | 0x85 => .invalidCommand
  | 0x86 => .unsupportedAttribute
  | 0x87 => .constraintError
  | 0x88 => .unsupportedWrite
  | 0x89 => .resourceExhausted
  | 0x8B => .notFound
  | 0x8C => .unreportableAttribute
  | 0x8D => .invalidDataType
  | 0x8F => .unsupportedRead
  | 0x92 => .dataVersionMismatch
  | 0x94 => .timeout
  | 0x9B => .unsupportedNode
  | 0x9C => .busy
  | 0x9D => .accessRestricted
  | 0xC3 => .unsupportedCluster
  | 0xC5 => .noUpstreamSubscription
  | 0xC6 => .needsTimedInteraction
  | 0xC7 => .unsupportedEvent
  | 0xC8 => .pathsExhausted
  | 0xC9 => .timedRequestMismatch
  | 0xCA => .failsafeRequired
  | 0xCB => .invalidInState
  | 0xCC => .noCommandResponse
  | 0xCD => .termsAndConditionsChanged
  | 0xCE => .maintenanceRequired
  | 0xCF => .dynamicConstraintError
  | 0xD0 => .alreadyExists
  | 0xD1 => .invalidTransportType
  | other => .reserved other

/-- What `decode` makes of one member, with the fields it has met so far.
Source: `StatusIb::decode`, `match element.tag.context()`. -/
def StatusIb.decodeField (_ : ℕ) (e : Element) (f : Option Status × Option UInt8) :
    Reading (Option Status × Option UInt8) :=
  if e.tag.context? = some 0 then do
    let v ← setField f.1 (Status.fromValue <$> (e.unsigned >>= narrow8))
    pure (v, f.2)
  else if e.tag.context? = some 1 then do
    let v ← setField f.2 (e.unsigned >>= narrow8)
    pure (f.1, v)
  else do
    skipValue e
    pure f

/-- Source: `StatusIb::decode`. -/
def StatusIb.decode : Reading StatusIb := do
  let f ← eachMember StatusIb.decodeField (none, none)
  let status ← ofResult (okOr f.1 .tlvNotFound)
  pure ⟨status, f.2⟩

/-- What `decode` makes of one member, with the fields it has met so far.
Source: `AttributeStatus::decode`, `match element.tag.context()`. -/
def AttributeStatus.decodeField (_ : ℕ) (e : Element) (f : Option AttributePath × Option StatusIb) :
    Reading (Option AttributePath × Option StatusIb) :=
  if e.tag.context? = some 0 then do
    require (e.value.container? = some .list) .tlvWrongType
    let path ← AttributePath.decode
    let v ← setField f.1 (.ok path)
    pure (v, f.2)
  else if e.tag.context? = some 1 then do
    require (e.value.container? = some .struct) .tlvWrongType
    let status ← StatusIb.decode
    let v ← setField f.2 (.ok status)
    pure (f.1, v)
  else do
    skipValue e
    pure f

/-- Source: `AttributeStatus::decode`. -/
def AttributeStatus.decode : Reading AttributeStatus := do
  let f ← eachMember AttributeStatus.decodeField (none, none)
  let path ← ofResult (okOr f.1 .tlvNotFound)
  let status ← ofResult (okOr f.2 .tlvNotFound)
  pure ⟨path, status⟩

/-- Source: `AttributeReport::decode`, `match element.tag.context()`. -/
def AttributeReport.decodeField (_ : ℕ) (e : Element) (out : Option AttributeReport) :
    Reading (Option AttributeReport) :=
  if e.tag.context? = some 0 then do
    require (e.value.container? = some .struct) .tlvWrongType
    let status ← AttributeStatus.decode
    setField out (.ok (.status status))
  else if e.tag.context? = some 1 then do
    require (e.value.container? = some .struct) .tlvWrongType
    let data ← AttributeData.decode
    setField out (.ok (.data data))
  else do
    skipValue e
    pure out

/-- Source: `AttributeReport::decode`. -/
def AttributeReport.decode : Reading AttributeReport := do
  let out ← eachMember AttributeReport.decodeField none
  ofResult (okOr out .tlvNotFound)

/-! ## The message -/

/-- A report as it has been received; the arrays are captured, tag and end included.
Source: `im/message.rs`, `ReportData`. -/
structure ReportData where
  subscriptionId : Option UInt32
  attributeReportsBytes : Option (List UInt8)
  eventReportsBytes : Option (List UInt8)
  moreChunkedMessages : Bool
  suppressResponse : Bool
  revision : Option UInt16
  deriving DecidableEq

namespace ReportData

/-- The fields `decode` has met so far. -/
structure Fields where
  subscriptionId : Option UInt32 := none
  attributeReports : Option (List UInt8) := none
  eventReports : Option (List UInt8) := none
  moreChunkedMessages : Option Bool := none
  suppressResponse : Option Bool := none
  revision : Option UInt16 := none

/-- Source: `ReportData::decode`, `match element.tag.context()`. -/
def decodeField (start : ℕ) (e : Element) (f : Fields) : Reading Fields :=
  match e.tag.context? with
  | some 0 => do
    let v ← setField f.subscriptionId (e.unsigned >>= narrow32)
    pure { f with subscriptionId := v }
  | some 1 => do
    let reports ← takeArray e start
    let v ← setField f.attributeReports (.ok reports)
    pure { f with attributeReports := v }
  | some 2 => do
    let reports ← takeArray e start
    let v ← setField f.eventReports (.ok reports)
    pure { f with eventReports := v }
  | some 3 => do
    let v ← setField f.moreChunkedMessages e.bool
    pure { f with moreChunkedMessages := v }
  | some 4 => do
    let v ← setField f.suppressResponse e.bool
    pure { f with suppressResponse := v }
  | some 0xFF => do
    let v ← setField f.revision (e.unsigned >>= narrow16)
    pure { f with revision := v }
  | _ => do
    skipValue e
    pure f

/-- The whole message, read from its first octet. -/
def read : Reading ReportData := do
  openMessage
  let f ← eachMember decodeField {}
  let r ← get
  ofResult r.finish
  pure { subscriptionId := f.subscriptionId
         attributeReportsBytes := f.attributeReports
         eventReportsBytes := f.eventReports
         moreChunkedMessages := f.moreChunkedMessages.getD false
         suppressResponse := f.suppressResponse.getD false
         revision := f.revision }

/-- Source: `ReportData::decode`. -/
def decode (buf : List UInt8) : Except ErrorCode ReportData := (exec read (.new buf)).1

/-- The attribute reports, each decoded on its own: none if the message has no array of them.
Source: `ReportData::attribute_reports`. -/
def attributeReports (r : ReportData) :
    Except ErrorCode (Option (List (Except ErrorCode AttributeReport))) :=
  match r.attributeReportsBytes with
  | none => .ok none
  | some bytes => some <$> arrayIter bytes .struct AttributeReport.decode

end ReportData

/-! ## A report is the same wherever it stands -/

/-- Only a primitive element is read as a number. -/
lemma inner_of_unsigned {t : Tree} {v : UInt64} (h : t.head.unsigned = .ok v) : t.inner = [] := by
  cases t with
  | primitive tag value => rfl
  | container tag kind members => exact absurd h (by simp [Tree.head, Element.unsigned])

lemma inner_of_bool {t : Tree} {v : Bool} (h : t.head.bool = .ok v) : t.inner = [] := by
  cases t with
  | primitive tag value => rfl
  | container tag kind members => exact absurd h (by simp [Tree.head, Element.bool])

/-- An element that starts a container of a kind has its members inside. -/
lemma inner_of_container {t : Tree} {kind : ContainerKind}
    (h : t.head.value.container? = some kind) : ∃ ms, t.inner = [⟨kind, ms⟩] := by
  cases t with
  | primitive tag value =>
    exact absurd (value.value_spec.2.1.container?_eq_none.symm.trans h) (by simp)
  | container tag kind' members =>
    obtain rfl : kind' = kind := Option.some.inj h
    exact ⟨members, rfl⟩

section Uniform

variable {α β : Type} {t : Tree}

variable {slot : Option α} {f : Place → Option α → Reading β}

/-- A field that only a primitive element fills. -/
lemma uniform_setField {value : Except ErrorCode α} (hvalue : ∀ v, value = .ok v → t.inner = [])
    (hf : ∀ a, Uniform t (fun p => f p a) []) :
    Uniform t (fun p => setField slot value >>= f p) t.inner := by
  apply Uniform.ofResult_bind
  intro a ha
  obtain ⟨v, hv, -⟩ := bind_eq_ok.mp ha
  rw [hvalue v hv]
  exact hf a

/-- A field that has its value already. -/
lemma uniform_setField_ok {value : α} (hf : ∀ a, Uniform t (fun p => f p a) []) :
    Uniform t (fun p => setField slot (.ok value) >>= f p) [] :=
  Uniform.ofResult_bind fun a _ => hf a

/-- A field of a structure or list that is a container itself, decoded by its own decoder. -/
lemma uniform_container {x : Reading α} {kind : ContainerKind} {e : ErrorCode} {f : Place → α → Reading β}
    (hx : ∀ (u : Tree) (ms : Members), Uniform u (fun _ => x) [⟨kind, ms⟩])
    (hf : ∀ a, Uniform t (fun p => f p a) []) :
    Uniform t (fun p => require (t.head.value.container? = some kind) e >>= fun _ => x >>= f p)
      t.inner := by
  apply Uniform.require_bind
  intro hkind
  obtain ⟨ms, hms⟩ := inner_of_container hkind
  rw [hms]
  exact (hx t ms).bind hf

lemma uniform_pathField (acc : AttributePath.Fields) :
    Uniform t (fun p => AttributePath.decodeField (p.start t) t.head acc) t.inner := by
  suffices h : ∀ x, x = AttributePath.decodeField 0 t.head acc → Uniform t (fun _ => x) t.inner from
    h _ rfl
  intro x hx
  unfold AttributePath.decodeField at hx
  split at hx <;> subst hx
  case h_1 => exact uniform_setField (fun v => inner_of_bool) fun a => .pure _
  case h_2 => exact uniform_setField (fun v => inner_of_unsigned) fun a => .pure _
  case h_6 =>
    refine uniform_setField (fun v hv => ?_) fun a => .pure _
    cases t with
    | primitive tag value => rfl
    | container tag kind members => exact absurd hv (by simp [Tree.head])
  case h_9 => exact (Uniform.skipValue t).bind fun _ => .pure _
  all_goals
    refine uniform_setField (fun v hv => ?_) fun a => .pure _
    obtain ⟨w, hw, -⟩ := bind_eq_ok.mp hv
    exact inner_of_unsigned hw

variable (kind : ContainerKind)

lemma uniform_attributePath (ms : Members) : Uniform t (fun _ => AttributePath.decode) [⟨kind, ms⟩] :=
  (Uniform.eachMember (fun _ => uniform_pathField) kind ms _).bind fun _ => .pure _

lemma uniform_statusIbField (acc : Option Status × Option UInt8) :
    Uniform t (fun p => StatusIb.decodeField (p.start t) t.head acc) t.inner := by
  suffices h : ∀ x, x = StatusIb.decodeField 0 t.head acc → Uniform t (fun _ => x) t.inner from h _ rfl
  intro x hx
  unfold StatusIb.decodeField at hx
  split_ifs at hx <;> subst hx
  · refine uniform_setField (fun v hv => ?_) fun a => .pure _
    cases hnarrow : t.head.unsigned >>= narrow8 with
    | error e =>
      rw [hnarrow] at hv
      exact absurd hv (by simp)
    | ok value =>
      obtain ⟨w, hw, -⟩ := bind_eq_ok.mp hnarrow
      exact inner_of_unsigned hw
  · refine uniform_setField (fun v hv => ?_) fun a => .pure _
    obtain ⟨w, hw, -⟩ := bind_eq_ok.mp hv
    exact inner_of_unsigned hw
  · exact (Uniform.skipValue t).bind fun _ => .pure _

lemma uniform_statusIb (ms : Members) : Uniform t (fun _ => StatusIb.decode) [⟨kind, ms⟩] :=
  (Uniform.eachMember (fun _ => uniform_statusIbField) kind ms _).bind fun _ =>
    Uniform.ofResult_bind fun _ _ => .pure _

lemma uniform_attributeStatusField (acc : Option AttributePath × Option StatusIb) :
    Uniform t (fun p => AttributeStatus.decodeField (p.start t) t.head acc) t.inner := by
  suffices h : ∀ x, x = AttributeStatus.decodeField 0 t.head acc → Uniform t (fun _ => x) t.inner from
    h _ rfl
  intro x hx
  unfold AttributeStatus.decodeField at hx
  split_ifs at hx <;> subst hx
  · exact uniform_container (fun _ => uniform_attributePath .list) fun a =>
      uniform_setField_ok fun v => .pure _
  · exact uniform_container (fun _ => uniform_statusIb .struct) fun a =>
      uniform_setField_ok fun v => .pure _
  · exact (Uniform.skipValue t).bind fun _ => .pure _

lemma uniform_attributeStatus (ms : Members) :
    Uniform t (fun _ => AttributeStatus.decode) [⟨kind, ms⟩] :=
  (Uniform.eachMember (fun _ => uniform_attributeStatusField) kind ms _).bind fun _ =>
    Uniform.ofResult_bind fun _ _ => Uniform.ofResult_bind fun _ _ => .pure _

lemma AttributeData.decodeField_value {e : Element} (h : e.tag.context? = some 2) (start : ℕ)
    (f : Fields) : AttributeData.decodeField start e f = (do
      skipValue e
      let data ← sliceFrom start
      let v ← setField f.data (.ok data)
      pure { f with data := v }) := by
  unfold AttributeData.decodeField
  rw [h]
  rfl

/-- Only for the value it matters where the member started. -/
lemma AttributeData.decodeField_of_ne {e : Element} (h : e.tag.context? ≠ some 2) (start : ℕ)
    (f : Fields) : AttributeData.decodeField start e f = AttributeData.decodeField 0 e f := by
  unfold AttributeData.decodeField
  split
  case h_3 hvalue => exact absurd hvalue h
  all_goals rfl

lemma uniform_attributeDataField (acc : AttributeData.Fields) :
    Uniform t (fun p => AttributeData.decodeField (p.start t) t.head acc) t.inner := by
  by_cases hvalue : t.head.tag.context? = some 2
  · rw [funext fun p : Place => AttributeData.decodeField_value hvalue (p.start t) acc]
    exact (Uniform.skipValue t).bind fun _ => (Uniform.sliceFrom t).bind fun data =>
      uniform_setField_ok fun v => .pure _
  · rw [funext fun p : Place => AttributeData.decodeField_of_ne hvalue (p.start t) acc]
    suffices h : ∀ x, x = AttributeData.decodeField 0 t.head acc → Uniform t (fun _ => x) t.inner from
      h _ rfl
    intro x hx
    unfold AttributeData.decodeField at hx
    split at hx <;> subst hx
    case h_1 =>
      refine uniform_setField (fun v hv => ?_) fun a => .pure _
      obtain ⟨w, hw, -⟩ := bind_eq_ok.mp hv
      exact inner_of_unsigned hw
    case h_2 =>
      exact uniform_container (fun _ => uniform_attributePath .list) fun a =>
        uniform_setField_ok fun v => .pure _
    case h_3 h => exact absurd h hvalue
    case h_4 => exact (Uniform.skipValue t).bind fun _ => .pure _

lemma uniform_attributeData (ms : Members) : Uniform t (fun _ => AttributeData.decode) [⟨kind, ms⟩] :=
  (Uniform.eachMember (fun _ => uniform_attributeDataField) kind ms _).bind fun _ =>
    Uniform.ofResult_bind fun _ _ => Uniform.ofResult_bind fun _ _ => .pure _

lemma uniform_attributeReportField (acc : Option AttributeReport) :
    Uniform t (fun p => AttributeReport.decodeField (p.start t) t.head acc) t.inner := by
  suffices h : ∀ x, x = AttributeReport.decodeField 0 t.head acc → Uniform t (fun _ => x) t.inner from
    h _ rfl
  intro x hx
  unfold AttributeReport.decodeField at hx
  split_ifs at hx <;> subst hx
  · exact uniform_container (fun _ => uniform_attributeStatus .struct) fun a => .ofResult _
  · exact uniform_container (fun _ => uniform_attributeData .struct) fun a => .ofResult _
  · exact (Uniform.skipValue t).bind fun _ => .pure _

lemma uniform_attributeReport (ms : Members) :
    Uniform t (fun _ => AttributeReport.decode) [⟨kind, ms⟩] :=
  (Uniform.eachMember (fun _ => uniform_attributeReportField) kind ms _).bind fun _ => .ofResult _

end Uniform

/-! ## What an array of reports comes to -/

section UptoError

variable {α : Type}

/-- The results up to the first that is an error. -/
def uptoError : List (Except ErrorCode α) → List (Except ErrorCode α)
  | [] => []
  | .ok a :: results => .ok a :: uptoError results
  | .error e :: _ => [.error e]

/-- Nothing after an error counts. -/
lemma uptoError_append_of_error {before : List (Except ErrorCode α)} {e : ErrorCode}
    (h : .error e ∈ uptoError before) (after : List (Except ErrorCode α)) :
    uptoError (before ++ after) = uptoError before := by
  induction before with
  | nil => simp [uptoError] at h
  | cons result before ih =>
    cases result with
    | error e => rfl
    | ok a =>
      simp only [uptoError, List.mem_cons, reduceCtorEq, false_or] at h
      rw [List.cons_append, uptoError, ih h, uptoError]

lemma uptoError_append_of_ok {before : List (Except ErrorCode α)}
    (h : ¬ ∃ e, .error e ∈ uptoError before) (after : List (Except ErrorCode α)) :
    uptoError (before ++ after) = uptoError before ++ uptoError after := by
  induction before with
  | nil => rfl
  | cons result before ih =>
    cases result with
    | error e => exact absurd ⟨e, List.mem_singleton_self _⟩ h
    | ok a =>
      rw [List.cons_append, uptoError, uptoError, List.cons_append, ih]
      rintro ⟨e, he⟩
      exact h ⟨e, List.mem_cons_of_mem _ he⟩

/-- Lists of results put together come to what they come to one by one, up to the first error, if and
only if nothing follows an error. -/
lemma uptoError_flatten_eq_iff (lists : List (List (Except ErrorCode α))) :
    uptoError lists.flatten = (lists.map uptoError).flatten ↔
      (lists.map uptoError).Pairwise fun earlier later => (∃ e, .error e ∈ earlier) → later = [] := by
  induction lists with
  | nil => simp [uptoError]
  | cons results lists ih =>
    rw [List.flatten_cons, List.map_cons, List.flatten_cons, List.pairwise_cons]
    by_cases herror : ∃ e, .error e ∈ uptoError results
    · obtain ⟨e, he⟩ := herror
      rw [uptoError_append_of_error he, List.self_eq_append_right, List.flatten_eq_nil_iff]
      refine ⟨fun hnil => ⟨fun later hlater _ => hnil later hlater, ?_⟩, fun h later hlater => ?_⟩
      · exact List.pairwise_of_forall_mem_list fun _ _ b hb _ => hnil b hb
      · exact h.1 later hlater ⟨e, he⟩
    · rw [uptoError_append_of_ok herror, List.append_cancel_left_eq, ih,
        and_iff_right fun later _ h => absurd h herror]

end UptoError

/-- The results of the calls of an iterator from where a reader stands, at most as many as are
given. -/
def iterate {α : Type} (next : Reading (Option α)) : ℕ → TlvReader → List (Except ErrorCode α)
  | 0, _ => []
  | calls + 1, r =>
    match exec next r with
    | (.error e, _) => [.error e]
    | (.ok none, _) => []
    | (.ok (some a), r') => .ok a :: iterate next calls r'

lemma arrayItems_eq_iterate {α : Type} (member : ContainerKind) (decode : Reading α) (calls : ℕ)
    (r : TlvReader) : arrayItems member decode calls r = iterate (arrayNext member decode) calls r := by
  induction calls generalizing r with
  | zero => rfl
  | succ calls ih =>
    rw [arrayItems, iterate]
    rcases exec (arrayNext member decode) r with ⟨e | a, r'⟩
    · rfl
    · cases a with
      | none => rfl
      | some a => exact congrArg (_ :: ·) (ih r')

/-- An iterator that takes each member of an array for what `f` says it is, wherever the array is. -/
structure TakesMembers {α : Type} (next : Reading (Option α)) (f : Tree → Except ErrorCode α) :
    Prop where
  done : ∀ (p : Place) (r : TlvReader), p.At [⟨.array, .nil⟩] r → ∃ r', exec next r = (.ok none, r')
  member : ∀ (p : Place) (t : Tree) (ms : Members) (r : TlvReader), p.At [⟨.array, .cons t ms⟩] r →
    ∃ r', exec next r = (some <$> f t, r') ∧ ∀ a, f t = .ok a → p.At [⟨.array, ms⟩] r'

lemma TakesMembers.iterate_eq {α : Type} {next : Reading (Option α)} {f : Tree → Except ErrorCode α}
    (h : TakesMembers next f) {p : Place} {ts : List Tree} :
    ∀ {r : TlvReader} {calls : ℕ}, p.At [⟨.array, .ofList ts⟩] r → ts.length < calls →
      iterate next calls r = uptoError (ts.map f) := by
  induction ts with
  | nil =>
    intro r calls hat hcalls
    rcases calls with _ | calls
    · omega
    obtain ⟨r', hnext⟩ := h.done p r hat
    simp only [iterate, hnext, List.map_nil, uptoError]
  | cons t ts ih =>
    intro r calls hat hcalls
    rw [List.length_cons] at hcalls
    rcases calls with _ | calls
    · omega
    obtain ⟨r', hnext, hrest⟩ := h.member p t (.ofList ts) r hat
    rw [List.map_cons]
    cases hresult : f t with
    | error e =>
      rw [hresult] at hnext
      have hfail : exec next r = (.error e, r') := hnext
      simp only [iterate, hfail, uptoError]
    | ok a =>
      rw [hresult] at hnext
      have hsome : exec next r = (.ok (some a), r') := hnext
      simp only [iterate, hsome, uptoError]
      rw [ih (hrest a hresult) (by omega)]

/-- What a member of an array of reports is taken for: a structure is decoded. -/
def takeReport (e : Element) : Reading AttributeReport := do
  require (e.value.container? = some .struct) .tlvWrongType
  AttributeReport.decode

/-- **A report is the same wherever it stands**: each element is one report, or the same error, at every
place. -/
lemma exists_report : ∃ report : Tree → Except ErrorCode AttributeReport,
    ∀ (t : Tree) (p : Place) (r : TlvReader), p.Holds t → p.At t.inner r →
      ∃ r', exec (takeReport t.head) r = (report t, r') ∧ ∀ a, report t = .ok a → p.At [] r' := by
  have huniform : ∀ t : Tree, Uniform t (fun _ => takeReport t.head) t.inner := by
    intro t
    apply Uniform.require_bind
    intro hstruct
    obtain ⟨ms, hms⟩ := inner_of_container hstruct
    rw [hms]
    exact uniform_attributeReport .struct ms
  choose report hreport using huniform
  exact ⟨report, hreport⟩

section Arrays

variable {p : Place} {t : Tree} {ms : Members} {r : TlvReader}

/-- In an array the members have no tags. -/
lemma head_isAnonymous (h : t.LegalIn (some .array)) : t.head.tag.isAnonymous = true := by
  cases t with
  | primitive tag value => exact (tag.decode_octets.2.allowedIn_iff (some .array)).mpr h
  | container tag kind members => exact (tag.decode_octets.2.allowedIn_iff (some .array)).mpr h.1

/-- A check that comes to whether the member is a structure, and the member decoded. -/
lemma exec_checked {e : Element} {q : Prop} [Decidable q] (hq : q ↔ e.value.container? = some .struct)
    {result : Except ErrorCode AttributeReport} {r' : TlvReader}
    (h : exec (takeReport e) r = (result, r')) : exec (do
      require q .tlvWrongType
      let out ← AttributeReport.decode
      pure (some out)) r = (some <$> result, r') := by
  unfold takeReport at h
  by_cases hstruct : e.value.container? = some .struct
  · rw [exec_require_bind hstruct] at h
    rw [exec_require_bind (hq.mpr hstruct)]
    cases result with
    | error e => exact exec_bind_error h _
    | ok out => exact exec_bind_ok h _
  · rw [exec_bind_error (exec_require_of_not hstruct _ r)] at h
    rw [exec_bind_error (exec_require_of_not (hq.not.mpr hstruct) _ r)]
    obtain ⟨rfl, rfl⟩ := Prod.mk.inj h
    rfl

/-- The iterator over the reports of a message. -/
lemma takesMembers_arrayNext {report : Tree → Except ErrorCode AttributeReport}
    (hreport : ∀ (t : Tree) (p : Place) (r : TlvReader), p.Holds t → p.At t.inner r →
      ∃ r', exec (takeReport t.head) r = (report t, r') ∧ ∀ a, report t = .ok a → p.At [] r') :
    TakesMembers (arrayNext .struct AttributeReport.decode) report where
  done p r h := by
    obtain ⟨r', hnext, -⟩ := h.next_end
    refine ⟨r', ?_⟩
    rw [arrayNext, exec_bind_ok hnext]
    simp only [if_pos, exec_pure]
  member p t ms r h := by
    obtain ⟨r₁, -, hnext, hholds, hat, hout⟩ := h.member
    obtain ⟨r₂, hrun, hat₂⟩ := hreport t _ r₁ hholds hat
    refine ⟨r₂, ?_, fun a ha => hout r₂ (hat₂ a ha)⟩
    rw [arrayNext, exec_bind_ok hnext]
    simp only [if_neg t.head_ne_end]
    exact exec_checked (and_iff_left (head_isAnonymous h.legal.1.1)) hrun

end Arrays

/-! ## Arrays captured -/

/-- The octets are an array with these members, as it may stand in a message. -/
def IsArray (bytes : List UInt8) (members : List Tree) : Prop :=
  ∃ tag : WireTag, tag.AllowedIn (some .struct) ∧
    bytes = (Tree.container tag .array (.ofList members)).octets ∧
      ∀ t ∈ members, t.LegalIn (some .array) ∧ t.depth + 2 ≤ maxDepth

namespace ReportData

/-- The members of the array of attribute reports, in order; none if the message has no such array. -/
def Carries (r : ReportData) (members : List Tree) : Prop :=
  match r.attributeReportsBytes with
  | none => members = []
  | some bytes => IsArray bytes members

/-- A field that is not there twice. -/
lemma exec_field_eq_ok {α β : Type} {slot : Option α} {value : Except ErrorCode α} {f : Option α → β}
    {r r' : TlvReader} {b : β} (h : exec (setField slot value >>= fun v => pure (f v)) r = (.ok b, r')) :
    r' = r ∧ ∃ w, value = .ok w ∧ b = f (some w) := by
  obtain ⟨v, r₁, hset, hpure⟩ := exec_bind_eq_ok.mp h
  obtain ⟨hvalue, rfl⟩ := Prod.mk.inj hset
  obtain ⟨hb, rfl⟩ := Prod.mk.inj hpure
  obtain ⟨w, hw, honce⟩ := bind_eq_ok.mp hvalue
  obtain rfl : some w = v := by
    unfold setOnce at honce
    split at honce
    · exact absurd honce (by simp)
    · exact Except.ok.inj honce
  exact ⟨rfl, w, hw, (Except.ok.inj hb).symm⟩

/-- A member is read over as it would be skipped, and only an array of attribute reports changes
which one has been captured. -/
lemma decodeField_spec {start : ℕ} {e : Element} {f f' : Fields} {r r' : TlvReader}
    (h : exec (decodeField start e f) r = (.ok f', r')) : exec (skipValue e) r = (.ok (), r') ∧
      (f'.attributeReports = f.attributeReports ∨ e.value.container? = some .array ∧
          ∃ bytes, exec (sliceFrom start) r' = (.ok bytes, r') ∧ f'.attributeReports = some bytes) := by
  have hfield : ∀ {α : Type} {slot : Option α} {value : Except ErrorCode α} {g : Option α → Fields},
      (∀ w, value = .ok w → e.value.container? = none) →
      exec (setField slot value >>= fun v => pure (g v)) r = (.ok f', r') →
      exec (skipValue e) r = (.ok (), r') ∧ ∃ v, f' = g v := by
    intro α slot value g hprimitive hrun
    obtain ⟨rfl, w, hw, rfl⟩ := exec_field_eq_ok hrun
    refine ⟨?_, _, rfl⟩
    unfold skipValue
    rw [if_neg (by simp [hprimitive w hw])]
    rfl
  have hunsigned : ∀ {α : Type} {narrow : UInt64 → Except ErrorCode α} (w : α),
      (e.unsigned >>= narrow) = .ok w → e.value.container? = none := by
    intro α narrow w hw
    obtain ⟨v, hv, -⟩ := bind_eq_ok.mp hw
    unfold Element.unsigned at hv
    split at hv <;> simp_all [Value.container?]
  have hbool : ∀ w, e.bool = .ok w → e.value.container? = none := by
    intro w hw
    unfold Element.bool at hw
    split at hw <;> simp_all [Value.container?]
  have harray : ∀ {slot : Option (List UInt8)} {g : Option (List UInt8) → Fields},
      exec (takeArray e start >>= fun reports => setField slot (.ok reports) >>= fun v => pure (g v)) r =
        (.ok f', r') →
      exec (skipValue e) r = (.ok (), r') ∧ e.value.container? = some .array ∧
        ∃ bytes, exec (sliceFrom start) r' = (.ok bytes, r') ∧ f' = g (some bytes) := by
    intro slot g hrun
    obtain ⟨bytes, r₁, htake, hset⟩ := exec_bind_eq_ok.mp hrun
    obtain ⟨rfl, _, hw, rfl⟩ := exec_field_eq_ok hset
    obtain ⟨hkind, htake⟩ := exec_require_bind_eq_ok.mp htake
    obtain ⟨_, r₂, hskip, hslice⟩ := exec_bind_eq_ok.mp htake
    obtain rfl : r₂ = r' := by
      obtain ⟨_, _, hget, hcut⟩ := exec_bind_eq_ok.mp hslice
      obtain ⟨-, rfl⟩ := Prod.mk.inj hget
      exact (Prod.mk.inj (exec_require_bind_eq_ok.mp hcut).2).2
    exact ⟨hskip, hkind, bytes, hslice, congrArg g (congrArg some (Except.ok.inj hw).symm)⟩
  unfold decodeField at h
  split at h
  case h_1 =>
    obtain ⟨hskip, v, rfl⟩ := hfield hunsigned h
    exact ⟨hskip, .inl rfl⟩
  case h_2 =>
    obtain ⟨hskip, hkind, bytes, hslice, rfl⟩ := harray h
    exact ⟨hskip, .inr ⟨hkind, bytes, hslice, rfl⟩⟩
  case h_3 =>
    obtain ⟨hskip, -, bytes, -, rfl⟩ := harray h
    exact ⟨hskip, .inl rfl⟩
  case h_4 =>
    obtain ⟨hskip, v, rfl⟩ := hfield hbool h
    exact ⟨hskip, .inl rfl⟩
  case h_5 =>
    obtain ⟨hskip, v, rfl⟩ := hfield hbool h
    exact ⟨hskip, .inl rfl⟩
  case h_6 =>
    obtain ⟨hskip, v, rfl⟩ := hfield hunsigned h
    exact ⟨hskip, .inl rfl⟩
  case h_7 =>
    obtain ⟨_, r₁, hskip, hpure⟩ := exec_bind_eq_ok.mp h
    obtain ⟨hsame, rfl⟩ := Prod.mk.inj hpure
    obtain rfl := Except.ok.inj hsame
    exact ⟨hskip, .inl rfl⟩

/-- What has been captured so far is an array with its members. -/
def Fields.Captured (f : Fields) : Prop :=
  ∀ bytes, f.attributeReports = some bytes → ∃ members, IsArray bytes members

/-- Whatever the message, what is captured of it is an array. -/
lemma captured_of_eachMember {f' : Fields} {rounds : ℕ} :
    ∀ {f : Fields} {r r' : TlvReader} {bytes : List UInt8}, f.Captured → r.Faces bytes →
      r.Within [.struct] → exec (eachMemberFrom decodeField rounds f) r = (.ok f', r') →
      f'.Captured := by
  induction rounds with
  | zero =>
    intro f r r' bytes _ _ _ hrun
    exact absurd (Prod.mk.inj hrun).1 (by simp)
  | succ rounds ih =>
    intro f r r' bytes hf hfaces hwithin hrun
    rw [eachMemberFrom] at hrun
    obtain ⟨start, r₀, hposition, hrun⟩ := exec_bind_eq_ok.mp hrun
    obtain ⟨hstart, rfl⟩ := Prod.mk.inj hposition
    obtain rfl := Except.ok.inj hstart
    obtain ⟨o, r₁, hnext, hrun⟩ := exec_bind_eq_ok.mp hrun
    cases o with
    | none => exact absurd (Prod.mk.inj hrun).1 (by simp)
    | some e =>
      by_cases hend : e.value = .endOfContainer
      · simp only [if_pos hend] at hrun
        rw [← Except.ok.inj (Prod.mk.inj hrun).1]
        exact hf
      · simp only [if_neg hend] at hrun
        obtain ⟨f₁, r₂, hfield, hrun⟩ := exec_bind_eq_ok.mp hrun
        obtain ⟨hskip, hcapture⟩ := decodeField_spec hfield
        obtain ⟨t, rest, rfl, hhead, hlegal, hdepth, hfaces', hwithin', hbuf, -⟩ :=
          tree_of_skipValue hfaces hwithin hnext hend hskip
        refine ih ?_ hfaces' hwithin' hrun
        rcases hcapture with hsame | ⟨hkind, slice, hslice, hfield⟩
        · intro captured hcaptured
          exact hf captured (hsame.symm.trans hcaptured)
        · intro captured hcaptured
          obtain rfl : slice = captured := Option.some.inj (hfield.symm.trans hcaptured)
          obtain rfl := octets_of_sliceFrom hfaces hfaces' hbuf hslice
          rw [← hhead] at hkind
          cases t with
          | primitive tag value =>
            exact absurd (value.value_spec.2.1.container?_eq_none.symm.trans hkind) (by simp)
          | container tag kind ms =>
            obtain rfl : kind = .array := Option.some.inj hkind
            obtain ⟨members, rfl⟩ := ms.exists_ofList
            refine ⟨members, tag, hlegal.1, rfl, fun t ht => ?_⟩
            simp only [Tree.depth, List.length_singleton] at hdepth
            have hmembers : (Members.ofList members).depth ≤ maxDepth - 2 := by omega
            have hroom := Members.depth_ofList_le_iff.mp hmembers t ht
            have htwo : 2 ≤ maxDepth := by decide
            exact ⟨Members.legalIn_ofList_iff.mp hlegal.2 t ht, by omega⟩

/-- **A decoded message has an array of reports with its members**, or none. -/
lemma exists_carries {buf : List UInt8} {report : ReportData} (h : decode buf = .ok report) :
    ∃ members, report.Carries members := by
  obtain ⟨r', hread⟩ : ∃ r', exec read (.new buf) = (.ok report, r') := ⟨_, Prod.ext h rfl⟩
  obtain ⟨_, r₁, hopen, hread⟩ := exec_bind_eq_ok.mp hread
  obtain ⟨f, r₂, hmembers, hread⟩ := exec_bind_eq_ok.mp hread
  obtain ⟨_, _, _, hread⟩ := exec_bind_eq_ok.mp hread
  obtain ⟨_, _, _, hread⟩ := exec_bind_eq_ok.mp hread
  have hreport := Except.ok.inj (Prod.mk.inj hread).1
  have hcaptured : f.Captured := by
    obtain ⟨o, r₀, hnext, hcheck⟩ := exec_bind_eq_ok.mp hopen
    cases o with
    | none => exact absurd (Prod.mk.inj hcheck).1 (by simp)
    | some head =>
      obtain ⟨⟨hkind, -⟩, rfl⟩ := exec_require_eq_ok.mp hcheck
      have hwithin : (TlvReader.new buf).Within [] := ⟨rfl, rfl, Nat.zero_le _⟩
      obtain ⟨⟨rest, hfaces⟩, hinside⟩ :=
        within_of_opening (TlvReader.faces_new buf) hwithin hnext hkind
      unfold eachMember at hmembers
      rw [exec_get_bind] at hmembers
      exact captured_of_eachMember (fun _ h => absurd h (by simp)) hfaces hinside hmembers
  rw [← hreport]
  unfold Carries
  cases hbytes : f.attributeReports with
  | none => exact ⟨[], rfl⟩
  | some bytes => exact hcaptured bytes hbytes

end ReportData

end MatterKit.Im
