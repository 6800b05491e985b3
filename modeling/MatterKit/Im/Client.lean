import MatterKit.Im.Report

/-!
# A chunked report put together

The client half of the interaction model: `ReportAssembler` takes the messages of an answer one by one
and copies the members of their arrays into one array of its own.

What `push` does is decided by the members the message carries (`exec_push_of_fits`,
`exec_push_of_not_fits`): the members are copied one after another as long as there is room, so that a
message that does not fit has been copied in part when it is refused, and the subscription it is of has
been noted. Of a whole answer, `pushAll` is the run; what it puts together is one array
(`pushAll_of_fits`), read as far as the first report that cannot be decoded (`reports_of_written`).
-/

namespace MatterKit.Im

open Lib Machine Tlv TlvReader

/-- Source: `im/client.rs`, `ANONYMOUS_ARRAY`. -/
def anonymousArray : UInt8 := 0x16

/-- Source: `im/client.rs`, `END_OF_CONTAINER`. -/
def endOfContainer : UInt8 := 0x18

/-- What has been put together so far; `written` is the part of the buffer that is in use.
Source: `im/client.rs`, `ReportAssembler`. -/
structure ReportAssembler (N : ℕ) where
  written : List UInt8
  written_le : written.length ≤ N
  subscriptionId : Option UInt32
  chunks : UInt64
  complete : Bool

/-- A computation on an assembler. -/
abbrev Assembling (N : ℕ) (α : Type) := Machine (ReportAssembler N) ErrorCode α

/-- The octets of the next member of an array, if there is one.
Source: `ReportAssembler::append_members`, the `loop` up to `slice_from`. -/
def readMember : Reading (Option (List UInt8)) := do
  let start ← position
  match ← nextElement with
  | none => pure none
  | some element =>
    if element.value = .endOfContainer then pure none
    else do
      skipValue element
      let member ← sliceFrom start
      pure (some member)

/-- Source: `Reports::next`. -/
def reportNext : Reading (Option AttributeReport) := do
  match ← nextElement with
  | none => pure none
  | some element =>
    if element.value = .endOfContainer then pure none
    else do
      require (element.value.container? = some .struct) .tlvWrongType
      let report ← AttributeReport.decode
      pure (some report)

namespace ReportAssembler

variable {N : ℕ}

/-- Source: `ReportAssembler::new`, and `reset`. -/
def new [NeZero N] : ReportAssembler N where
  written := [anonymousArray]
  written_le := NeZero.one_le
  subscriptionId := none
  chunks := 0
  complete := false

/-- Source: `ReportAssembler::assembled`. -/
def assembled (a : ReportAssembler N) : List UInt8 := a.written

/-- More octets behind those there are. -/
def extend (a : ReportAssembler N) (octets : List UInt8)
    (h : (a.written ++ octets).length ≤ N) : ReportAssembler N :=
  { a with written := a.written ++ octets, written_le := h }

variable {a : ReportAssembler N} {members ts : List Tree} {bytes member : List UInt8}
  {report : ReportData} {byte : UInt8} {takes : Tree → Except ErrorCode AttributeReport}
  {series : List ReportData}

lemma length_append_le {octets : List UInt8} (h : a.written.length + octets.length ≤ N) :
    (a.written ++ octets).length ≤ N := by
  rwa [List.length_append]

/-- Copies a member, which leaves an octet for the end of the array.
Source: `ReportAssembler::append_members`, from `let end`. -/
def append (member : List UInt8) : Assembling N Unit := do
  let a ← get
  if h : a.written.length + member.length < N then
    set (a.extend member (length_append_le h.le))
  else throw .noSpace

/-- Source: `ReportAssembler::append_members`, the `loop`. -/
def appendFrom : ℕ → TlvReader → Assembling N Unit
  | 0, _ => throw .tlvTruncated
  | rounds + 1, reader =>
    match exec readMember reader with
    | (.error e, _) => throw e
    | (.ok none, _) => pure ()
    | (.ok (some member), reader) => do
      append member
      appendFrom rounds reader

/-- Source: `ReportAssembler::append_members`. -/
def appendMembers (array : List UInt8) : Assembling N Unit :=
  match exec nextElement (.newIn array .struct) with
  | (.error e, _) => throw e
  | (.ok none, _) => throw .tlvTruncated
  | (.ok (some head), reader) => do
    require (head.value.container? = some .array) .tlvWrongType
    appendFrom (array.length + 1) reader

/-- Source: `ReportAssembler::push_byte`. -/
def pushByte (byte : UInt8) : Assembling N Unit := do
  let a ← get
  if h : a.written.length < N then set (a.extend [byte] (length_append_le h))
  else throw .noSpace

/-- The first message says which subscription the answer is of.
Source: `ReportAssembler::push`, `match (self.subscription_id, report.subscription_id)`. -/
def noteSubscription (id : Option UInt32) : Assembling N Unit := do
  let a ← get
  if a.subscriptionId = none ∧ a.chunks = 0 then set { a with subscriptionId := id }
  else require (a.subscriptionId = id) .invalidState

/-- Source: `ReportAssembler::push`, `if let Some(bytes)`. -/
def appendReports (report : ReportData) : Assembling N Unit :=
  match report.attributeReportsBytes with
  | some bytes => appendMembers bytes
  | none => pure ()

/-- Source: `ReportAssembler::push`, `if !report.more_chunked_messages`. -/
def endAnswer (more : Bool) : Assembling N Unit :=
  if more then pure ()
  else do
    pushByte endOfContainer
    modify fun a => { a with complete := true }

/-- Source: `ReportAssembler::push`, from `self.chunks`. -/
def countMessage (more : Bool) : Assembling N Bool := do
  modify fun a => { a with chunks := satAdd a.chunks 1 }
  endAnswer more
  let a ← get
  pure a.complete

/-- Source: `ReportAssembler::push`. -/
def push (report : ReportData) : Assembling N Bool := do
  let a ← get
  require (a.complete = false) .invalidState
  noteSubscription report.subscriptionId
  appendReports report
  countMessage report.moreChunkedMessages

/-- The reports of the assembled answer, each decoded on its own up to the first that cannot be.
Source: `ReportAssembler::reports`, and the iteration over it. -/
def reports (a : ReportAssembler N) : List (Except ErrorCode AttributeReport) :=
  match exec nextElement (.new a.assembled) with
  | (.ok (some element), reader) =>
    if element.value.container? = some .array then
      iterate reportNext (a.assembled.length + 1) reader
    else []
  | _ => []

/-- What the calls of `push` for a list of messages return, in order, and the assembler after them. -/
def pushAll : List ReportData → ReportAssembler N → List (Except ErrorCode Bool) × ReportAssembler N
  | [], a => ([], a)
  | report :: reports, a =>
    let pushed := exec (push report) a
    let others := pushAll reports pushed.2
    (pushed.1 :: others.1, others.2)

/-! ## What one message does -/

/-- The members one after another. -/
def appendAll : List Tree → Assembling N Unit
  | [] => pure ()
  | t :: ts => do
    append t.octets
    appendAll ts

/-- A member is read as its octets. -/
lemma exec_readMember {p : Place} {t : Tree} {ms : Members} {r : TlvReader}
    (h : p.At [⟨.array, .cons t ms⟩] r) :
    ∃ r', exec readMember r = (.ok (some t.octets), r') ∧ p.At [⟨.array, ms⟩] r' := by
  obtain ⟨r₁, hposition, hnext, hholds, hat, hout⟩ := h.member
  rw [← List.append_nil t.inner] at hat
  obtain ⟨r₂, hskip, hbehind⟩ := hat.skipValue
  refine ⟨r₂, ?_, hout r₂ hbehind⟩
  rw [readMember, exec_bind_ok hposition, exec_bind_ok hnext]
  simp only [if_neg t.head_ne_end]
  rw [exec_bind_ok hskip, exec_bind_ok (hbehind.sliceFrom hholds), exec_pure]

/-- Of the array of a message the members are copied, one after another. -/
lemma appendFrom_eq {p : Place} :
    ∀ {r : TlvReader} {rounds : ℕ}, p.At [⟨.array, .ofList ts⟩] r → ts.length < rounds →
      (appendFrom rounds r : Assembling N Unit) = appendAll ts := by
  induction ts with
  | nil =>
    intro r rounds hat hrounds
    rcases rounds with _ | rounds
    · omega
    obtain ⟨r', hnext, -⟩ := hat.next_end
    have hposition : exec position r = (.ok r.pos, r) := rfl
    have hnone : exec readMember r = (.ok none, r') := by
      rw [readMember, exec_bind_ok hposition, exec_bind_ok hnext]
      simp only [if_pos, exec_pure]
    simp only [appendFrom, hnone, appendAll]
  | cons t ts ih =>
    intro r rounds hat hrounds
    rw [List.length_cons] at hrounds
    rcases rounds with _ | rounds
    · omega
    obtain ⟨r', hmember, hrest⟩ := exec_readMember hat
    simp only [appendFrom, hmember, appendAll]
    rw [ih hrest (by omega)]

lemma octets_ne_nil (t : Tree) : t.octets ≠ [] := by
  rw [t.octets_eq_token]
  exact List.append_ne_nil_of_left_ne_nil t.token.octets_ne_nil _

/-- There are no more members than octets. -/
lemma length_le_octets (tag : WireTag) (kind : ContainerKind) (ts : List Tree) :
    ts.length ≤ (Tree.container tag kind (.ofList ts)).octets.length := by
  have hmembers : ts.length ≤ (Members.ofList ts).octets.length := by
    induction ts with
    | nil => exact Nat.zero_le _
    | cons t ts ih =>
      have hpos := List.length_pos_iff.mpr t.token.octets_ne_nil
      simp only [Members.ofList, Members.octets, t.octets_eq_token, List.length_cons, List.length_append]
      omega
  simp only [Tree.octets, List.length_append]
  omega

/-- A captured array is entered. -/
lemma at_of_isArray (h : IsArray bytes members) : ∃ (tag : Tag) (p : Place) (r : TlvReader),
      exec nextElement (newIn bytes .struct) = (.ok (some ⟨tag, .container .array⟩), r) ∧
        p.At [⟨.array, .ofList members⟩] r ∧ members.length ≤ bytes.length := by
  obtain ⟨tag, hallowed, rfl, hlegal⟩ := h
  have hdepth : (Members.ofList members).depth + (1 + 1) ≤ maxDepth := by
    have hmembers : (Members.ofList members).depth ≤ maxDepth - 2 :=
      Members.depth_ofList_le_iff.mpr fun t ht => by have := (hlegal t ht).2; omega
    have htwo : 2 ≤ maxDepth := by decide
    omega
  have hfaces : (newIn (Tree.container tag .array (.ofList members)).octets .struct).Faces
      ((Tree.container tag .array (.ofList members)).octets ++ []) := ⟨[], (List.append_nil _).symm, rfl⟩
  obtain ⟨r, hnext, hat⟩ := Place.At.of_opening hfaces (within_newIn _ _)
    (by simp [Open, newIn, TlvReader.new]) (Nat.le_refl 1)
    ⟨hallowed, Members.legalIn_ofList_iff.mpr fun t ht => (hlegal t ht).1⟩ hdepth
  exact ⟨tag.tag, _, r, hnext, hat, length_le_octets tag .array members⟩

lemma exec_appendMembers (h : IsArray bytes members) (a : ReportAssembler N) :
    exec (appendMembers bytes) a = exec (appendAll members) a := by
  obtain ⟨tag, p, r, hnext, hat, hlen⟩ := at_of_isArray h
  have harray : Value.container? (.container .array) = some .array := rfl
  unfold appendMembers
  simp only [hnext]
  rw [exec_require_bind harray, appendFrom_eq hat (by omega)]

/-- How many octets the elements take. -/
def octetCount (ts : List Tree) : ℕ := (ts.map Tree.octets).flatten.length

lemma sizeOf_cons (t : Tree) (ts : List Tree) : octetCount (t :: ts) = t.octets.length + octetCount ts := by
  simp only [octetCount, List.map_cons, List.flatten_cons, List.length_append]

lemma exec_append_of_lt (h : a.written.length + member.length < N) :
    exec (append member) a = (.ok (), a.extend member (length_append_le h.le)) := by
  unfold append
  rw [exec_get_bind, dif_pos h]
  rfl

lemma exec_append_of_le (h : N ≤ a.written.length + member.length) :
    exec (append member) a = (.error .noSpace, a) := by
  unfold append
  rw [exec_get_bind, dif_neg (Nat.not_lt.mpr h)]
  rfl

/-- Members that there is room for are all copied. -/
lemma exec_appendAll_of_lt : ∀ {a : ReportAssembler N} (h : a.written.length + octetCount ts < N),
      exec (appendAll ts) a =
        (.ok (), a.extend (ts.map Tree.octets).flatten (length_append_le h.le)) := by
  induction ts with
  | nil =>
    intro a h
    simp [appendAll, extend]
  | cons t ts ih =>
    intro a h
    rw [sizeOf_cons] at h
    have hfirst : a.written.length + t.octets.length < N := by omega
    have hrest : (a.extend t.octets (length_append_le hfirst.le)).written.length + octetCount ts < N := by
      simp only [extend, List.length_append]
      omega
    rw [appendAll, exec_bind_ok (exec_append_of_lt hfirst), ih hrest]
    simp [extend]

/-- Of members that there is no room for those are copied that there is room for; nothing else
changes. -/
lemma exec_appendAll_of_le (hne : ts ≠ []) :
    ∀ {a : ReportAssembler N}, N ≤ a.written.length + octetCount ts →
      ∃ (octets : List UInt8) (h : (a.written ++ octets).length ≤ N),
        exec (appendAll ts) a = (.error .noSpace, a.extend octets h) ∧
          (octets = [] ↔ ∃ t ts', ts = t :: ts' ∧ N ≤ a.written.length + t.octets.length) := by
  induction ts with
  | nil => exact absurd rfl hne
  | cons t ts ih =>
    intro a h
    rw [sizeOf_cons] at h
    by_cases hfirst : a.written.length + t.octets.length < N
    · have hne' : ts ≠ [] := by
        rintro rfl
        simp only [octetCount, List.map_nil, List.flatten_nil, List.length_nil] at h
        omega
      have hrest : N ≤ (a.extend t.octets (length_append_le hfirst.le)).written.length + octetCount ts := by
        simp only [extend, List.length_append]
        omega
      obtain ⟨octets, hroom, hrun, -⟩ := ih hne' hrest
      have hroom' : (a.written ++ (t.octets ++ octets)).length ≤ N := by
        rw [← List.append_assoc]
        exact hroom
      refine ⟨t.octets ++ octets, hroom', ?_, ?_⟩
      · rw [appendAll, exec_bind_ok (exec_append_of_lt hfirst), hrun]
        simp [extend]
      · refine iff_of_false ?_ ?_
        · rw [List.append_eq_nil_iff, not_and_or]
          exact .inl (octets_ne_nil t)
        · rintro ⟨_, _, hcons, hfull⟩
          obtain ⟨rfl, -⟩ := List.cons.inj hcons
          omega
    · have hfull : N ≤ a.written.length + t.octets.length := Nat.not_lt.mp hfirst
      refine ⟨[], by simpa using a.written_le, ?_, iff_of_true rfl ⟨t, ts, rfl, hfull⟩⟩
      rw [appendAll, exec_bind_error (exec_append_of_le hfull)]
      simp [extend]

/-- The report may be part of the answer that is put together: this is not complete, and of no
other subscription. -/
def Takes (a : ReportAssembler N) (id : Option UInt32) : Prop :=
  a.complete = false ∧ (a.subscriptionId = none ∧ a.chunks = 0 ∨ a.subscriptionId = id)

/-- There is room for the members and, after the last of the messages, for the end of the array. -/
def Fits (a : ReportAssembler N) (report : ReportData) (members : List Tree) : Prop :=
  a.written.length + octetCount members < N ∨ members = [] ∧ report.moreChunkedMessages = true

lemma exec_push_of_not_takes (h : ¬ a.Takes report.subscriptionId) :
    exec (push report) a = (.error .invalidState, a) := by
  unfold push
  rw [exec_get_bind]
  by_cases hcomplete : a.complete = false
  · obtain ⟨hnew, hother⟩ := not_or.mp fun hid => h ⟨hcomplete, hid⟩
    rw [exec_require_bind hcomplete]
    refine exec_bind_error ?_ _
    unfold noteSubscription
    rw [exec_get_bind, if_neg hnew]
    exact exec_require_of_not hother _ a
  · exact exec_bind_error (exec_require_of_not hcomplete _ a) _

/-- A message of the answer has its subscription noted and its members copied. -/
lemma exec_push_of_takes (h : a.Takes report.subscriptionId) (hcarries : report.Carries members) :
    exec (push report) a =
      exec (appendAll members >>= fun _ => countMessage report.moreChunkedMessages)
        { a with subscriptionId := report.subscriptionId } := by
  have hnote : exec (noteSubscription report.subscriptionId) a =
      (.ok (), { a with subscriptionId := report.subscriptionId }) := by
    unfold noteSubscription
    rw [exec_get_bind]
    by_cases hnew : a.subscriptionId = none ∧ a.chunks = 0
    · rw [if_pos hnew]
      rfl
    · have hsame : a.subscriptionId = report.subscriptionId := h.2.resolve_left hnew
      rw [if_neg hnew, exec_require_of hsame, ← hsame]
  have happend : ∀ a' : ReportAssembler N,
      exec (appendReports report) a' = exec (appendAll members) a' := by
    intro a'
    unfold ReportData.Carries at hcarries
    unfold appendReports
    cases hbytes : report.attributeReportsBytes with
    | none =>
      rw [hbytes] at hcarries
      rw [show members = [] from hcarries]
      rfl
    | some bytes =>
      rw [hbytes] at hcarries
      exact exec_appendMembers hcarries a'
  unfold push
  rw [exec_get_bind, exec_require_bind h.1, exec_bind_ok hnote, exec_bind, exec_bind, happend]

/-- The end of the array, after the last message. -/
def closing (more : Bool) : List UInt8 := if more then [] else [endOfContainer]

lemma exec_pushByte_of_lt (h : a.written.length < N) :
    exec (pushByte byte) a = (.ok (), a.extend [byte] (length_append_le h)) := by
  unfold pushByte
  rw [exec_get_bind, dif_pos h]
  rfl

lemma exec_pushByte_of_le (h : N ≤ a.written.length) : exec (pushByte byte) a = (.error .noSpace, a) := by
  unfold pushByte
  rw [exec_get_bind, dif_neg (Nat.not_lt.mpr h)]
  rfl

lemma exec_countMessage (a : ReportAssembler N) (more : Bool) : exec (countMessage more) a =
      exec (endAnswer more >>= fun _ => get >>= fun a => pure a.complete)
        { a with chunks := satAdd a.chunks 1 } := rfl

lemma exec_countMessage_of_lt {more : Bool} (hcomplete : a.complete = false)
    (h : a.written.length < N ∨ more = true) :
    ∃ a', exec (countMessage more) a = (.ok (!more), a') ∧ a'.written = a.written ++ closing more ∧
      a'.subscriptionId = a.subscriptionId ∧ a'.complete = !more := by
  rw [exec_countMessage]
  unfold endAnswer
  cases more with
  | true =>
    rw [if_pos rfl]
    exact ⟨_, Prod.ext (congrArg Except.ok hcomplete) rfl, (List.append_nil _).symm, rfl, hcomplete⟩
  | false =>
    have hroom : { a with chunks := satAdd a.chunks 1 }.written.length < N :=
      h.resolve_right (by simp)
    rw [if_neg (by simp), bind_assoc, exec_bind_ok (exec_pushByte_of_lt hroom)]
    exact ⟨_, rfl, rfl, rfl, rfl⟩

lemma exec_countMessage_of_le (h : N ≤ a.written.length) :
    exec (countMessage false) a = (.error .noSpace, { a with chunks := satAdd a.chunks 1 }) := by
  have hfull : N ≤ { a with chunks := satAdd a.chunks 1 }.written.length := h
  rw [exec_countMessage]
  unfold endAnswer
  rw [if_neg (by simp), bind_assoc]
  exact exec_bind_error (exec_pushByte_of_le hfull) _

/-- A message that there is room for is taken in whole. -/
lemma exec_push_of_fits (h : a.Takes report.subscriptionId) (hcarries : report.Carries members)
    (hfits : a.Fits report members) : ∃ a', exec (push report) a = (.ok (!report.moreChunkedMessages), a') ∧
      a'.written = a.written ++ (members.map Tree.octets).flatten ++ closing report.moreChunkedMessages ∧
      a'.subscriptionId = report.subscriptionId ∧ a'.complete = !report.moreChunkedMessages := by
  rw [exec_push_of_takes h hcarries]
  generalize hnoted : { a with subscriptionId := report.subscriptionId } = noted
  have hwritten : noted.written = a.written := by rw [← hnoted]
  have hid : noted.subscriptionId = report.subscriptionId := by rw [← hnoted]
  have hcomplete : noted.complete = false := by rw [← hnoted]; exact h.1
  rw [← hwritten, ← hid]
  rcases hfits with hroom | ⟨rfl, hmore⟩
  · rw [← hwritten] at hroom
    rw [exec_bind_ok (exec_appendAll_of_lt hroom)]
    refine exec_countMessage_of_lt hcomplete (.inl ?_)
    simp only [extend, List.length_append]
    exact hroom
  · rw [List.map_nil, List.flatten_nil, List.append_nil]
    exact exec_countMessage_of_lt hcomplete (.inr hmore)

/-- A message that there is no room for leaves the assembler as it was exactly if nothing has been
written down before the room was missing. -/
lemma exec_push_of_not_fits (h : a.Takes report.subscriptionId) (hcarries : report.Carries members)
    (hfits : ¬ a.Fits report members) : ∃ a', exec (push report) a = (.error .noSpace, a') ∧
      (a' = a ↔ a.subscriptionId = report.subscriptionId ∧
        ((∃ t ts, members = t :: ts ∧ N ≤ a.written.length + t.octets.length) ∨
          members = [] ∧ satAdd a.chunks 1 = a.chunks)) := by
  rw [exec_push_of_takes h hcarries]
  have hfull : N ≤ a.written.length + octetCount members := Nat.not_lt.mp fun hroom => hfits (.inl hroom)
  by_cases hnone : members = []
  · subst hnone
    have hlast : report.moreChunkedMessages = false :=
      Bool.eq_false_iff.mpr fun hmore => hfits (.inr ⟨rfl, hmore⟩)
    have hend : N ≤ { a with subscriptionId := report.subscriptionId }.written.length := hfull
    rw [hlast]
    refine ⟨_, exec_countMessage_of_le hend, ?_⟩
    constructor
    · intro hsame
      have hid := congrArg subscriptionId hsame
      have hchunks := congrArg chunks hsame
      exact ⟨hid.symm, .inr ⟨rfl, hchunks⟩⟩
    · rintro ⟨hid, ⟨t, ts, hcons, -⟩ | ⟨-, hchunks⟩⟩
      · exact absurd hcons (by simp)
      · simp only [hchunks, ← hid]
  · have hfull' : N ≤ { a with subscriptionId := report.subscriptionId }.written.length + octetCount members :=
      hfull
    obtain ⟨octets, hle, hrun, hnil⟩ := exec_appendAll_of_le hnone hfull'
    refine ⟨_, exec_bind_error hrun _, ?_⟩
    constructor
    · intro hsame
      have hid := congrArg subscriptionId hsame
      have hwritten : a.written ++ octets = a.written := congrArg written hsame
      exact ⟨hid.symm, .inl (hnil.mp (List.append_right_eq_self.mp hwritten))⟩
    · rintro ⟨hid, hfirst | ⟨hnil', -⟩⟩
      · obtain rfl := hnil.mpr hfirst
        simp only [extend, List.append_nil, ← hid]
      · exact absurd hnil' hnone

/-- The cases in which an error finds nothing changed: the message is not of the answer, or there is
room for all of it, or it is of the subscription that has been noted and not even its first member finds
room (or it has none, and the count of messages is at its end). -/
def Spared (a : ReportAssembler N) (report : ReportData) (members : List Tree) : Prop :=
  ¬ a.Takes report.subscriptionId ∨ a.Fits report members ∨
    a.subscriptionId = report.subscriptionId ∧
      ((∃ t ts, members = t :: ts ∧ N ≤ a.written.length + t.octets.length) ∨
        members = [] ∧ satAdd a.chunks 1 = a.chunks)

/-- Nothing of a refused message is kept exactly in those cases. -/
lemma push_error_unchanged_iff (hcarries : report.Carries members) :
    (∀ e a', exec (push report) a = (.error e, a') → a' = a) ↔ a.Spared report members := by
  unfold Spared
  by_cases htakes : a.Takes report.subscriptionId
  · rw [or_iff_right (not_not_intro htakes)]
    by_cases hfits : a.Fits report members
    · obtain ⟨a', hrun, -⟩ := exec_push_of_fits htakes hcarries hfits
      refine iff_of_true (fun e a'' hfail => ?_) (.inl hfits)
      exact absurd (Prod.mk.inj (hrun.symm.trans hfail)).1 (by simp)
    · obtain ⟨a', hrun, hsame⟩ := exec_push_of_not_fits htakes hcarries hfits
      rw [or_iff_right hfits, ← hsame]
      constructor
      · intro h
        exact h _ a' hrun
      · intro h e a'' hfail
        exact (Prod.mk.inj (hrun.symm.trans hfail)).2.symm.trans h
  · refine iff_of_true (fun e a' hfail => ?_) (.inl htakes)
    exact (Prod.mk.inj ((exec_push_of_not_takes htakes).symm.trans hfail)).2.symm

/-! ## What a whole answer comes to -/

/-- The results of the iterator over a message's reports: none if it has no array of them.
Source: `ReportData::attribute_reports`, and the iteration over it. -/
def reportsOf (report : ReportData) : List (Except ErrorCode AttributeReport) :=
  match report.attributeReports with
  | .ok (some results) => results
  | _ => []

/-- No message has reports after one with a report that cannot be decoded. -/
def Uninterrupted (series : List ReportData) : Prop :=
  (series.map reportsOf).Pairwise fun before after => (∃ e, .error e ∈ before) → after = []

/-- The reports of a captured array are its members, up to the first that cannot be decoded. -/
lemma reportsOf_of_carries (htakes : TakesMembers (arrayNext .struct AttributeReport.decode) takes)
    (h : report.Carries members) : reportsOf report = uptoError (members.map takes) := by
  unfold ReportData.Carries at h
  unfold reportsOf ReportData.attributeReports
  cases hbytes : report.attributeReportsBytes with
  | none =>
    rw [hbytes] at h
    rw [show members = [] from h]
    rfl
  | some bytes =>
    rw [hbytes] at h
    obtain ⟨tag, p, r, hnext, hat, hlen⟩ := at_of_isArray h
    have harray : Value.container? (.container .array) = some .array := rfl
    simp only [arrayIter, hnext]
    rw [ensure_of harray, ok_bind, arrayItems_eq_iterate, htakes.iterate_eq hat (by omega)]
    rfl

lemma octetCount_flatten_cons (ts : List Tree) (tss : List (List Tree)) :
    octetCount (ts :: tss).flatten = octetCount ts + octetCount tss.flatten := by
  simp only [octetCount, List.flatten_cons, List.map_append, List.flatten_append, List.length_append]

/-- The messages of an answer are taken in one after another, up to the last. -/
lemma pushAll_of_fits {id : Option UInt32} {last : ReportData} (hid : last.subscriptionId = id)
    (hlast : last.moreChunkedMessages = false) {earlier : List ReportData} :
    ∀ {members : List (List Tree)} {a : ReportAssembler N}, a.Takes id →
      (∀ report ∈ earlier, report.subscriptionId = id ∧ report.moreChunkedMessages = true) →
      List.Forall₂ ReportData.Carries (earlier ++ [last]) members →
      a.written.length + octetCount members.flatten < N → ∃ a', pushAll (earlier ++ [last]) a =
          (List.replicate earlier.length (.ok false) ++ [.ok true], a') ∧ a'.complete = true ∧
        a'.written = a.written ++ (members.flatten.map Tree.octets).flatten ++ [endOfContainer] := by
  induction earlier with
  | nil =>
    intro members a htakes _ hcarries hroom
    cases hcarries with
    | @cons _ ms _ _ hfirst hothers =>
      cases hothers
      subst hid
      rw [octetCount_flatten_cons] at hroom
      obtain ⟨a', hpush, hwritten, -, hcomplete⟩ :=
        exec_push_of_fits htakes hfirst (.inl ((Nat.le_add_right _ _).trans_lt
          ((Nat.add_assoc _ _ _).trans_lt hroom)))
      rw [hlast] at hpush hwritten hcomplete
      refine ⟨a', ?_, hcomplete, ?_⟩
      · rw [List.nil_append, pushAll, hpush]
        rfl
      · rw [List.flatten_cons, List.flatten_nil, List.append_nil]
        exact hwritten
  | cons report earlier ih =>
    intro members a htakes hseries hcarries hroom
    cases hcarries with
    | @cons _ ms _ mss hfirst hothers =>
      obtain ⟨⟨rfl, hmore⟩, hseries⟩ := List.forall_mem_cons.mp hseries
      rw [octetCount_flatten_cons] at hroom
      obtain ⟨a₁, hpush, hwritten, hsame, hcomplete⟩ :=
        exec_push_of_fits htakes hfirst (.inl (by omega))
      rw [hmore] at hpush hwritten hcomplete
      have hwritten₁ : a₁.written = a.written ++ (ms.map Tree.octets).flatten :=
        hwritten.trans (List.append_nil _)
      have hroom₁ : a₁.written.length + octetCount mss.flatten < N := by
        rw [hwritten₁, List.length_append]
        unfold octetCount at hroom ⊢
        omega
      obtain ⟨a₂, hrest, hcomplete₂, hwritten₂⟩ :=
        ih ⟨hcomplete, .inr hsame⟩ hseries hothers hroom₁
      refine ⟨a₂, ?_, hcomplete₂, ?_⟩
      · rw [List.cons_append, pushAll, hpush, hrest]
        rfl
      · rw [hwritten₂, hwritten₁, List.flatten_cons, List.map_append, List.flatten_append,
          List.append_assoc a.written]

/-- The array that elements are put together in. -/
def arrayOf (ts : List Tree) : Tree := .container ⟨.anonymous, [], rfl⟩ .array (.ofList ts)

lemma octets_arrayOf (ts : List Tree) :
    (arrayOf ts).octets = anonymousArray :: (ts.map Tree.octets).flatten ++ [endOfContainer] := by
  unfold arrayOf
  rw [Tree.octets, Members.octets_ofList]
  rfl

section Assembled

variable {ts : List Tree} (hlegal : ∀ t ∈ ts, t.LegalIn (some .array) ∧ t.depth + 2 ≤ maxDepth)
include hlegal

lemma legalIn_arrayOf : (arrayOf ts).LegalIn none :=
  ⟨by simp [WireTag.AllowedIn], Members.legalIn_ofList_iff.mpr fun t ht => (hlegal t ht).1⟩

lemma depth_arrayOf_le : (Members.ofList ts).depth + 1 ≤ maxDepth := by
  have hmembers : (Members.ofList ts).depth ≤ maxDepth - 1 :=
    Members.depth_ofList_le_iff.mpr fun t ht => by have := (hlegal t ht).2; omega
  have hone : 1 ≤ maxDepth := by decide
  omega

/-- Elements put together are one valid encoding. -/
lemma exists_validate_arrayOf : ∃ n, validate (arrayOf ts).octets = .ok n := by
  have hvalid := validate_eq_ok_iff_min (arrayOf ts).octets
    (UInt64.ofNat (min (arrayOf ts).count (2 ^ 64 - 1)))
  refine ⟨_, hvalid.mpr ⟨_, ⟨arrayOf ts, rfl, legalIn_arrayOf hlegal, depth_arrayOf_le hlegal, rfl⟩, ?_⟩⟩
  rw [UInt64.toNat_ofNat']
  omega

/-- The reports of an assembled answer are its members, up to the first that cannot be decoded. -/
lemma reports_of_written {takes : Tree → Except ErrorCode AttributeReport}
    (htakes : TakesMembers reportNext takes) {a : ReportAssembler N}
    (h : a.written = (arrayOf ts).octets) : a.reports = uptoError (ts.map takes) := by
  have hfaces : (TlvReader.new a.assembled).Faces ((arrayOf ts).octets ++ []) :=
    ⟨[], h.trans (List.append_nil _).symm, rfl⟩
  have hwithin : (TlvReader.new a.assembled).Within [] := ⟨rfl, rfl, Nat.zero_le _⟩
  obtain ⟨r, hnext, hat⟩ := Place.At.of_opening hfaces hwithin
    (by simp [Open, TlvReader.new]) (Nat.le_refl 0) (legalIn_arrayOf hlegal) (depth_arrayOf_le hlegal)
  have hlen : ts.length ≤ a.assembled.length := by
    rw [assembled, h]
    exact length_le_octets _ _ _
  have harray : Value.container? (.container .array) = some .array := rfl
  unfold reports
  simp only [hnext, if_pos harray]
  exact htakes.iterate_eq hat (by omega)

end Assembled

/-- Every decoded message has its members. -/
lemma exists_forall₂_carries (h : ∀ report ∈ series, ∃ buf, ReportData.decode buf = .ok report) :
    ∃ members, List.Forall₂ ReportData.Carries series members := by
  induction series with
  | nil => exact ⟨[], .nil⟩
  | cons report series ih =>
    obtain ⟨⟨buf, hbuf⟩, hothers⟩ := List.forall_mem_cons.mp h
    obtain ⟨ms, hms⟩ := ReportData.exists_carries hbuf
    obtain ⟨mss, hmss⟩ := ih hothers
    exact ⟨ms :: mss, .cons hms hmss⟩

lemma legal_of_carries (h : report.Carries members) :
    ∀ t ∈ members, t.LegalIn (some .array) ∧ t.depth + 2 ≤ maxDepth := by
  unfold ReportData.Carries at h
  cases hbytes : report.attributeReportsBytes with
  | none =>
    rw [hbytes] at h
    rw [show members = [] from h]
    exact fun t ht => absurd ht List.not_mem_nil
  | some bytes =>
    rw [hbytes] at h
    obtain ⟨_, _, _, hlegal⟩ := h
    exact hlegal

lemma legal_of_forall₂ {members : List (List Tree)} (h : List.Forall₂ ReportData.Carries series members) :
    ∀ t ∈ members.flatten, t.LegalIn (some .array) ∧ t.depth + 2 ≤ maxDepth := by
  induction h with
  | nil => exact fun t ht => absurd ht List.not_mem_nil
  | cons hfirst _ ih =>
    intro t ht
    rw [List.flatten_cons, List.mem_append] at ht
    exact ht.elim (legal_of_carries hfirst t) (ih t)

/-- The iterator over the reports of an assembled answer. -/
lemma takesMembers_reportNext {report : Tree → Except ErrorCode AttributeReport}
    (hreport : ∀ (t : Tree) (p : Place) (r : TlvReader), p.Holds t → p.At t.inner r →
      ∃ r', exec (takeReport t.head) r = (report t, r') ∧ ∀ a, report t = .ok a → p.At [] r') :
    TakesMembers reportNext report where
  done p r h := by
    obtain ⟨r', hnext, -⟩ := h.next_end
    refine ⟨r', ?_⟩
    rw [reportNext, exec_bind_ok hnext]
    simp only [if_pos, exec_pure]
  member p t ms r h := by
    obtain ⟨r₁, -, hnext, hholds, hat, hout⟩ := h.member
    obtain ⟨r₂, hrun, hat₂⟩ := hreport t _ r₁ hholds hat
    refine ⟨r₂, ?_, fun a ha => hout r₂ (hat₂ a ha)⟩
    rw [reportNext, exec_bind_ok hnext]
    simp only [if_neg t.head_ne_end]
    exact exec_checked Iff.rfl hrun

/-- The assembler has the whole answer: one valid array of the octets of every member, in order. -/
structure HoldsAnswer (a : ReportAssembler N) (members : List (List Tree)) : Prop where
  complete : a.complete = true
  assembled_eq : a.assembled =
    anonymousArray :: (members.flatten.map Tree.octets).flatten ++ [endOfContainer]
  valid : ∃ n, validate a.assembled = .ok n

/-- What the messages are read as, by their members. -/
lemma map_reportsOf (htakes : TakesMembers (arrayNext .struct AttributeReport.decode) takes)
    {members : List (List Tree)} (h : List.Forall₂ ReportData.Carries series members) :
    series.map reportsOf = (members.map fun ms => ms.map takes).map uptoError := by
  induction h with
  | nil => rfl
  | cons hfirst _ ih =>
    rw [List.map_cons, List.map_cons, List.map_cons, ih, reportsOf_of_carries htakes hfirst]

end ReportAssembler

open ReportAssembler

/-- **What the assembler keeps.** A series of messages of one answer that there is room for is put
together in one valid array, which is read as the messages are read one after another if and only if
none has a report that cannot be decoded while a later one has reports. And nothing of a message that is refused
is kept if and only if it is refused before anything has been noted or copied. -/
theorem reportAssembler_iff (N : ℕ) [NeZero N] :
    (∀ (earlier : List ReportData) (last : ReportData) (id : Option UInt32),
      (∀ report ∈ earlier ++ [last], (∃ buf, ReportData.decode buf = .ok report) ∧
        report.subscriptionId = id) →
      (∀ report ∈ earlier, report.moreChunkedMessages = true) → last.moreChunkedMessages = false →
      ∃ members, List.Forall₂ ReportData.Carries (earlier ++ [last]) members ∧
        (octetCount members.flatten + 2 ≤ N → ∃ a : ReportAssembler N, pushAll (earlier ++ [last]) .new =
              (List.replicate earlier.length (.ok false) ++ [.ok true], a) ∧ a.HoldsAnswer members ∧
            (a.reports = ((earlier ++ [last]).map reportsOf).flatten ↔
              Uninterrupted (earlier ++ [last])))) ∧
    (∀ (a : ReportAssembler N) (report : ReportData), (∃ buf, ReportData.decode buf = .ok report) →
      ∃ members, report.Carries members ∧
        ((∀ e a', exec (push report) a = (.error e, a') → a' = a) ↔ a.Spared report members)) := by
  constructor
  · intro earlier last id hseries hmore hlast
    obtain ⟨report, hreport⟩ := exists_report
    obtain ⟨members, hcarries⟩ := exists_forall₂_carries fun report hmem => (hseries report hmem).1
    refine ⟨members, hcarries, fun hroom => ?_⟩
    obtain ⟨hearlier, hid⟩ : (∀ r ∈ earlier, r.subscriptionId = id ∧ r.moreChunkedMessages = true) ∧
        last.subscriptionId = id :=
      ⟨fun r hr => ⟨(hseries r (List.mem_append_left _ hr)).2, hmore r hr⟩,
        (hseries last (List.mem_append_right _ (List.mem_singleton_self _))).2⟩
    have hstart : (new : ReportAssembler N).written.length + octetCount members.flatten < N := by
      show 1 + _ < N
      omega
    obtain ⟨a, hrun, hcomplete, hwritten⟩ :=
      pushAll_of_fits hid hlast ⟨rfl, .inl ⟨rfl, rfl⟩⟩ hearlier hcarries hstart
    have hlegal := legal_of_forall₂ hcarries
    have harray : a.written = (arrayOf members.flatten).octets :=
      hwritten.trans (octets_arrayOf _).symm
    have hwhole : a.reports = uptoError ((members.map fun ms => ms.map report).flatten) := by
      rw [reports_of_written hlegal (takesMembers_reportNext hreport) harray, List.map_flatten]
    have hparts := map_reportsOf (takesMembers_arrayNext hreport) hcarries
    refine ⟨a, hrun, ⟨hcomplete, hwritten, ?_⟩, ?_⟩
    · rw [assembled, harray]
      exact exists_validate_arrayOf hlegal
    · unfold Uninterrupted
      rw [hparts, ← uptoError_flatten_eq_iff, ← hwhole, ← hparts]
  · intro a report hdecoded
    obtain ⟨buf, hbuf⟩ := hdecoded
    obtain ⟨members, hcarries⟩ := ReportData.exists_carries hbuf
    exact ⟨members, hcarries, push_error_unchanged_iff hcarries⟩

/-- The report of attribute 0 of the On/Off cluster on endpoint 1. -/
def onOffReport : List UInt8 :=
  [0x15, 0x35, 0x01, 0x37, 0x01, 0x24, 0x02, 0x01, 0x24, 0x03, 0x06, 0x24, 0x04, 0x00, 0x18,
    0x24, 0x02, 0x01, 0x18, 0x18]

/-- A message with the report twice. -/
def twoReports : List UInt8 := [0x15, 0x36, 0x01] ++ onOffReport ++ onOffReport ++ [0x18, 0x18]

def twoReportsData : ReportData :=
  { subscriptionId := none
    attributeReportsBytes := some ([0x36, 0x01] ++ onOffReport ++ onOffReport ++ [0x18])
    eventReportsBytes := none
    moreChunkedMessages := false
    suppressResponse := false
    revision := none }

lemma decode_twoReports : ReportData.decode twoReports = .ok twoReportsData := by decide +kernel

/-- The message is put together in an assembler it fits, and into one it does not. -/
theorem reportAssembler_iff_twoReports :
    (∃ members, List.Forall₂ ReportData.Carries ([] ++ [twoReportsData]) members ∧
      (octetCount members.flatten + 2 ≤ 64 → ∃ a : ReportAssembler 64,
          pushAll ([] ++ [twoReportsData]) .new = (List.replicate 0 (.ok false) ++ [.ok true], a) ∧
          a.HoldsAnswer members ∧ (a.reports = (([] ++ [twoReportsData]).map reportsOf).flatten ↔
            Uninterrupted ([] ++ [twoReportsData])))) ∧ ∃ members, twoReportsData.Carries members ∧
      ((∀ e a', exec (push twoReportsData) (.new : ReportAssembler 64) = (.error e, a') → a' = .new) ↔
        (ReportAssembler.new : ReportAssembler 64).Spared twoReportsData members) := by
  refine ⟨(reportAssembler_iff 64).1 [] twoReportsData none ?_ ?_ rfl,
    (reportAssembler_iff 64).2 .new twoReportsData ⟨twoReports, decode_twoReports⟩⟩
  · intro report hreport
    obtain rfl : report = twoReportsData := by simpa using hreport
    exact ⟨⟨twoReports, decode_twoReports⟩, rfl⟩
  · exact fun report hreport => absurd hreport List.not_mem_nil

/-- **Part of a refused message is kept**: in 24 octets there is room for the first of two reports. -/
theorem push_keeps_part : ¬ ∀ (N : ℕ) [NeZero N] (a : ReportAssembler N) (report : ReportData),
      (∃ buf, ReportData.decode buf = .ok report) →
      ∀ e a', exec (push report) a = (.error e, a') → a' = a := by
  intro h
  have hrefused : (exec (push twoReportsData) (.new : ReportAssembler 24)).1 = .error .noSpace := by
    decide +kernel
  have hkept : (exec (push twoReportsData) (.new : ReportAssembler 24)).2.written =
      anonymousArray :: onOffReport := by
    decide +kernel
  rcases hrun : exec (push twoReportsData) (.new : ReportAssembler 24) with ⟨result, a'⟩
  rw [hrun] at hrefused hkept
  obtain rfl : result = .error .noSpace := hrefused
  have hsame := h 24 .new twoReportsData ⟨twoReports, decode_twoReports⟩ .noSpace a' hrun
  rw [hsame] at hkept
  exact absurd hkept (by decide)

end MatterKit.Im
