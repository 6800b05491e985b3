import Mathlib.Data.List.TakeWhile
import MatterKit.Im.Blocks

/-!
# Who may read the events of a report

A concrete event path is checked against its event's descriptor before the log is asked; a path with
a wildcard is not checked at all, and neither is a concrete one whose descriptor has no read
privilege. The log knows paths and fabrics, not privileges. So what a subject learns is what the log
yields, and `disclosed_iff` says exactly when that is within what it may read.
-/

namespace MatterKit.Im

open Lib Machine Tlv TlvWriter Dm

variable {η ν : Type} {C I D : ℕ}

/-- Source: `Server::with_events`, for an `EventStore`. -/
def Server.withEvents (srv : Server η ν) (store : EventStore C I D) : Server η ν :=
  { srv with events := some store.matching }

/-- The subject may read an event: it is one of the node's, its descriptor has a read privilege, and
the access control grants that on the event's endpoint and cluster. -/
def Server.mayRead (srv : Server η ν) (h : η) (endpoint : EndpointId) (cluster : ClusterId)
    (event : EventId) : Prop :=
  ∃ resolved required, srv.node.resolveEvent endpoint cluster event = .ok resolved ∧
    resolved.event.access.read = some required ∧
    srv.allows h (.ofIds endpoint cluster 0) required = .granted

/-- A record whose payload is one element as it may stand in a report.
Source: `EventData::encode`, `w.raw_element(self.data)?`. -/
def encodable (r : EventRecord) : Bool :=
  match rawCheck (TlvReader.newIn r.data.toList .struct) with
  | .ok first => first.tag.allowedIn (some .struct)
  | .error _ => false

lemma encodable_iff {r : EventRecord} : encodable r = true ↔
    ∃ first, rawCheck (TlvReader.newIn r.data.toList .struct) = .ok first ∧
      first.tag.allowedIn (some .struct) = true := by
  unfold encodable
  rcases rawCheck (TlvReader.newIn r.data.toList .struct) with e | first
  · simp
  · simp

/-! ## One record -/

/-- The block of a record. -/
abbrev recordBlock (previous : Option Timestamp) (r : EventRecord) : Block :=
  .event (.data (Server.eventData previous r))

lemma check_struct_iff {n : Nesting} (hn : n.Inside) (hlast : n.containers.getLast? = some .struct)
    (tag : Tag) : n.check tag = .ok () ↔ tag.allowedIn (some .struct) = true := by
  unfold Nesting.check
  rw [if_neg fun h => hn.1 h.1, hlast]
  split_ifs with htag
  · simp [htag]
  · simp [htag]

/-- Where the block of a record was written, the record's payload is an element. -/
lemma encodable_of_ok {previous : Option Timestamp} {r : EventRecord} {w w' : TlvWriter}
    (hsound : w.Sound) (h : exec (recordBlock previous r).encode w = (.ok (), w')) :
    encodable r = true := by
  obtain ⟨_, w₁, hopen, hrest⟩ := exec_bind_eq_ok.mp h
  obtain ⟨_, w₂, hdata, _⟩ := exec_bind_eq_ok.mp hrest
  obtain ⟨_, w₃, hstruct, hrest⟩ := exec_bind_eq_ok.mp hdata
  obtain ⟨_, w₄, hpath, hrest⟩ := exec_bind_eq_ok.mp hrest
  obtain ⟨_, w₅, hnumber, hrest⟩ := exec_bind_eq_ok.mp hrest
  obtain ⟨_, w₆, hpriority, hrest⟩ := exec_bind_eq_ok.mp hrest
  obtain ⟨_, w₇, htime, hrest⟩ := exec_bind_eq_ok.mp hrest
  obtain ⟨_, w₈, hraw, _⟩ := exec_bind_eq_ok.mp hrest
  obtain ⟨hsound₁, _⟩ := start_of_ok hsound hopen
  obtain ⟨hsound₃, hn₃⟩ := start_of_ok hsound₁ hstruct
  have hinside : w₃.nesting.Inside := hn₃ ▸ Nesting.Inside.enter _
  obtain ⟨hsound₄, hn₄, _⟩ := (balanced_eventPath _ _).of_ok hsound₃ hinside hpath
  obtain ⟨hsound₅, hn₅, _⟩ := (balanced_unsigned _ _).of_ok hsound₄ (hn₄ ▸ hinside) hnumber
  rw [hn₄] at hn₅
  obtain ⟨hsound₆, hn₆, _⟩ := (balanced_unsigned _ _).of_ok hsound₅ (hn₅ ▸ hinside) hpriority
  rw [hn₅] at hn₆
  obtain ⟨hsound₇, hn₇, _⟩ := (balanced_unsigned _ _).of_ok hsound₆ (hn₆ ▸ hinside) htime
  rw [hn₆] at hn₇
  obtain ⟨first, hcheck, htag⟩ := rawElement_of_ok hsound₇ hraw
  have hlast : w₇.nesting.containers.getLast? = some .struct := by
    rw [hn₇, hn₃]
    exact List.getLast?_concat
  rw [hlast] at hcheck
  rw [check_struct_iff (hn₇ ▸ hinside) hlast] at htag
  exact encodable_iff.mpr ⟨first, hcheck, htag⟩

/-- The most octets the block of a record takes. -/
def recordSize : ℕ := 250

lemma emits_eventPath (p : EventPath) {n : Nesting} (hdepth : n.containers.length < maxDepth)
    (hn : n.Inside) (t : UInt8) (htag : n.check (.context t) = .ok ()) :
    Emits (p.encode (.context t)) n n 52 := by
  have hinside := Nesting.Inside.enter (n := n) .list
  have hcheck : ∀ t : UInt8, (n.enter .list).check (.context t) = .ok () := by
    intro t
    unfold Nesting.check Nesting.enter
    rw [if_neg (fun h => hinside.1 h.1), List.getLast?_concat]
    rfl
  have hfield : ∀ {α : Type} (field : Option α) (t : UInt8) (value : α → UInt64),
      Emits (whenSome field fun a => unsigned (.context t) (value a)) (n.enter .list)
        (n.enter .list) 10 := by
    intro α field t value
    cases field with
    | none => exact (Emits.pure _).mono (by decide)
    | some a => exact emits_unsigned hinside (hcheck t) _
  have hurgent : Emits (whenSome p.isUrgent fun urgent => Tlv.bool (.context 4) urgent)
      (n.enter .list) (n.enter .list) 2 := by
    cases p.isUrgent with
    | none => exact (Emits.pure _).mono (by decide)
    | some urgent => exact emits_bool hinside (hcheck 4) _
  have hclose : Emits endContainer (n.enter .list) n 1 := by
    have h := emits_endContainer hinside.1
    rwa [hn.leave_enter] at h
  exact (emits_start hdepth htag .list).seq ((hfield p.node 0 id).seq
    ((hfield p.endpoint 1 UInt16.toUInt64).seq ((hfield p.cluster 2 UInt32.toUInt64).seq
      ((hfield p.event 3 UInt32.toUInt64).seq (hurgent.seq hclose)))))

/-- Inside one report of a message, and inside the data of one. -/
def inReport : Nesting := ⟨[.struct, .array, .struct], false⟩

@[inherit_doc inReport] def inRecord : Nesting := ⟨[.struct, .array, .struct, .struct], false⟩

/-- A record whose payload is an element is written where there is room. -/
lemma emits_record (previous : Option Timestamp) {r : EventRecord} (h : encodable r = true) :
    Emits (recordBlock previous r).encode inReports inReports recordSize := by
  obtain ⟨first, hcheck, htag⟩ := encodable_iff.mp h
  have hopen : Emits (start .anonymous .struct) inReports inReport 9 :=
    emits_start (by decide) (by decide) _
  have hdata : Emits (start (.context 1) .struct) inReport
      inRecord 9 := emits_start (by decide) (by decide) _
  have hpath := emits_eventPath (Server.eventData previous r).path
    (n := inRecord) (by decide) (by decide) 0 (by decide)
  have hfield : ∀ t v, Emits (unsigned (.context t) v) inRecord inRecord 10 := fun t v =>
    emits_unsigned (by decide) ((check_struct_iff (by decide) rfl _).mpr rfl) v
  have hraw : Emits (rawElement r.data.toList) inRecord inRecord 128 :=
    (emits_rawElement (n := inRecord) (by decide) hcheck
      ((check_struct_iff (by decide) rfl _).mpr htag)).mono r.data.length_le
  have hclose : Emits endContainer inRecord inReport 1 := emits_endContainer (by decide)
  have hend : Emits endContainer inReport inReports 1 :=
    emits_endContainer (by decide)
  have hbody : Emits ((Server.eventData previous r).encode (.context 1)) inReport inReport 220 :=
    hdata.seq (hpath.seq ((hfield 1 _).seq ((hfield 2 _).seq ((hfield _ _).seq
      (hraw.seq hclose)))))
  exact (hopen.seq (hbody.seq hend)).mono (by decide)

/-! ## What is written may be read -/

/-- The records in a message may be read. -/
def Permitted (srv : Server η ν) (h : η) (s : ReadState ν) : Prop :=
  ∀ d, .event (.data d) ∈ s.packed.blocks → ∃ endpoint cluster event,
    d.path = .ofIds endpoint cluster event ∧ srv.mayRead h endpoint cluster event

/-- Nothing a log yields for a path is beyond what the subject may read, up to where a payload is no
element. -/
def Server.Guarded (srv : Server η ν) (h : η) (records : List EventRecord) : Prop :=
  ∀ r ∈ records.takeWhile encodable, srv.mayRead h r.endpoint r.cluster r.event

namespace Server

variable (srv : Server η ν) (h : η) (ctx : InteractionContext)

/-- A block is packed, or nothing is. -/
lemma put_blocks (b : Block) (s : ReadState ν) :
    (exec (srv.put b) s).2.packed.blocks = s.packed.blocks ∧ (exec (srv.put b) s).1 ≠ .ok true ∨
      (exec (srv.put b) s).2.packed.blocks = s.packed.blocks ++ [b] ∧
        (exec (srv.put b) s).1 = .ok true ∧ ∃ w, exec b.encode s.packed.w = (.ok (), w) := by
  have hput := putResult srv.limit Block.encode b s.packed
  rw [srv.exec_put b s]
  show (exec (putBlock srv.limit Block.encode b) s.packed).2.blocks = _ ∧ _ ∨ _
  generalize (exec (putBlock srv.limit Block.encode b) s.packed).2 = p at hput ⊢
  generalize (exec (putBlock srv.limit Block.encode b) s.packed).1 = result at hput ⊢
  cases hput with
  | full hfull => exact .inl ⟨rfl, by simp⟩
  | packed hlimit hencode => exact .inr ⟨rfl, rfl, _, hencode⟩
  | tooBig hlimit hencode | failed hlimit hencode he => exact .inl ⟨rfl, by simp⟩

/-- A block that discloses nothing may be packed, also where packing fails. -/
lemma put_permitted {b : Block} {s : ReadState ν}
    (hb : ∀ d, b = .event (.data d) → (∃ w, exec b.encode s.packed.w = (.ok (), w)) →
      ∃ endpoint cluster event, d.path = .ofIds endpoint cluster event ∧
        srv.mayRead h endpoint cluster event)
    (hs : Permitted srv h s) : Permitted srv h (exec (srv.put b) s).2 := by
  intro d hd
  rcases srv.put_blocks b s with ⟨hblocks, _⟩ | ⟨hblocks, _, hencode⟩
  · rw [hblocks] at hd
    exact hs d hd
  · rw [hblocks] at hd
    rcases List.mem_append.mp hd with hd | hd
    · exact hs d hd
    · exact hb d (List.mem_singleton.mp hd).symm hencode

lemma steady_permitted : Steady srv fun s => s.Ready ∧ Permitted srv h s where
  put := by
    rintro b hb s ⟨hready, hs⟩ fitted s' hrun
    refine ⟨srv.put_ready b s hready fitted s' hrun, ?_⟩
    have hkept := srv.put_permitted h (b := b) (fun d hd _ => by rw [hd] at hb; cases hb) hs
    rwa [hrun] at hkept
  cursor := fun _ _ _ _ hs => ⟨⟨hs.1.sound, hs.1.inside⟩, hs.2⟩
  versions := fun _ _ hs => ⟨⟨hs.1.sound, hs.1.inside⟩, hs.2⟩

/-- Records are packed up to the first that is no element, so only those need be within what the
subject may read. Where a record fails, the writer is left inside it, and nothing more is packed. -/
lemma serveRecords_permitted (previous : Option Timestamp) (next : UInt64)
    {records : List EventRecord} (hrecords : srv.Guarded h records) :
    Ensures (fun s => s.Ready ∧ Permitted srv h s) (srv.serveRecords previous next records)
      fun served s => (served.1 = true → s.Ready) ∧ Permitted srv h s := by
  induction records generalizing previous next with
  | nil => exact Ensures.pure fun s hs => ⟨fun _ => hs.1, hs.2⟩
  | cons r records ih =>
    rintro s ⟨hready, hs⟩ served s'' hrun
    unfold serveRecords at hrun
    rw [exec_get_bind] at hrun
    rcases hput : exec (srv.put (recordBlock previous r)) s with ⟨result, s'⟩
    have hnow : encodable r = true → srv.mayRead h r.endpoint r.cluster r.event := by
      intro hr
      refine hrecords r ?_
      rw [List.takeWhile_cons_of_pos hr]
      exact List.mem_cons_self
    have hkept : Permitted srv h s' := by
      have hkept := srv.put_permitted h (b := recordBlock previous r) (s := s) (fun d hd hw => by
        obtain ⟨w, hw⟩ := hw
        cases hd
        exact ⟨_, _, _, rfl, hnow (encodable_of_ok hready.sound hw)⟩) hs
      rwa [hput] at hkept
    simp only [hput] at hrun
    rw [exec_set_bind] at hrun
    split at hrun
    · -- The record was packed, so it is an element, and the rest follows it in the log.
      have hr : encodable r = true := by
        rcases srv.put_blocks (recordBlock previous r) s with ⟨_, hnot⟩ | ⟨_, _, w, hw⟩
        · rw [hput] at hnot
          exact absurd rfl hnot
        · exact encodable_of_ok hready.sound hw
      refine ih _ _ (fun r' hr' => hrecords r' ?_) s'
        ⟨srv.put_ready _ s hready true s' hput, hkept⟩ served s'' hrun
      rw [List.takeWhile_cons_of_pos hr]
      exact List.mem_cons_of_mem _ hr'
    · cases hrun
      exact ⟨nofun, hkept⟩

/-- What a path may be asked for: where it is not refused, the log is guarded for it. -/
def PathGuarded (path : EventPath) : Prop :=
  srv.eventRefusal h path = none → ∀ matching, srv.events = some matching →
    ∀ since, eventFloor ctx ≤ since → srv.Guarded h (matching path ctx.fabricIndex since)

lemma serveEventPath_permitted {path : EventPath} (hpath : srv.PathGuarded h ctx path) (since : UInt64) :
    Ensures (fun s => s.Ready ∧ Permitted srv h s) (srv.serveEventPath h path ctx since)
      fun served s => (served.1 = true → s.Ready) ∧ Permitted srv h s := by
  unfold serveEventPath
  split
  · rename_i status _
    refine Ensures.bind (Q := fun _ s => s.Ready ∧ Permitted srv h s) ?_ fun _ =>
      Ensures.pure fun s hs => ⟨fun _ => hs.1, hs.2⟩
    rintro s ⟨hready, hs⟩ fitted s' hrun
    refine ⟨srv.put_ready _ s hready fitted s' hrun, ?_⟩
    have hkept := srv.put_permitted h (b := .event (.status ⟨path, .new status⟩))
      (fun d hd _ => nomatch hd) hs
    unfold writeEventStatus at hrun
    rwa [hrun] at hkept
  · rename_i hrefusal
    split
    · exact Ensures.pure fun s hs => ⟨fun _ => hs.1, hs.2⟩
    · rename_i matching hevents
      exact srv.serveRecords_permitted h none _
        (hpath hrefusal matching hevents _ (le_max_right_uint64 since (eventFloor ctx)))

end Server

lemma writing_permitted (srv : Server η ν) (h : η) (x : Writing Unit) :
    Ensures (Permitted srv h) (Serving.writing x : Serving ν Unit) fun _ => Permitted srv h := by
  intro s hs _ s' hrun
  rw [Serving.exec_writing] at hrun
  obtain ⟨_, rfl⟩ := Prod.mk.inj hrun
  exact hs

namespace Server

variable (srv : Server η ν) (h : η) (ctx : InteractionContext)

/-- The array of events is opened before the first block is packed into it. -/
lemma openEvents_ready (opened : Bool) :
    Ensures (fun s => (opened = true → s.Ready) ∧ s.packed.w.Sound ∧ Permitted srv h s)
      (openEvents opened : Serving ν Unit) fun _ s => s.Ready ∧ Permitted srv h s := by
  unfold openEvents
  split_ifs with hopened
  · exact Ensures.pure fun s hs => ⟨hs.1 hopened, hs.2.2⟩
  · rintro s ⟨_, hsound, hs⟩ _ s' hrun
    rw [Serving.exec_writing] at hrun
    obtain ⟨hresult, rfl⟩ := Prod.mk.inj hrun
    obtain ⟨hsound', hnesting⟩ := start_of_ok hsound (Prod.ext hresult rfl)
    exact ⟨⟨hsound', hnesting ▸ Nesting.Inside.enter _⟩, hs⟩

variable {path : EventPath} {events : List (Except ErrorCode EventPath)} {s : ReadState ν}
  {room : ℕ} {back front : List EventRecord}
  {matching : EventPath → Option FabricIndex → UInt64 → List EventRecord}

lemma serveEventAt_permitted (hpath : srv.PathGuarded h ctx path) (index : ℕ) (opened : Bool) :
    Ensures (fun s => (opened = true → s.Ready) ∧ s.packed.w.Sound ∧ Permitted srv h s)
      (srv.serveEventAt h ctx index opened path)
      fun served s => (served.1 = true → s.Ready) ∧ Permitted srv h s := by
  refine (srv.openEvents_ready h opened).bind fun _ => ?_
  refine Ensures.bind (Q := fun _ s => s.Ready ∧ Permitted srv h s) ?_ fun _ => ?_
  · exact Ensures.modify fun s hs => ⟨⟨hs.1.sound, hs.1.inside⟩, hs.2⟩
  apply Ensures.get
  intro s
  refine Ensures.bind ((srv.serveEventPath_permitted h ctx hpath s.cursor.eventFrom).weaken
    (fun _ hs => hs.2) fun _ _ hs => hs) fun served => ?_
  refine Ensures.bind (Q := fun _ s => (served.1 = true → s.Ready) ∧ Permitted srv h s) ?_ fun _ => ?_
  · exact Ensures.modify fun s hs => ⟨fun hserved => ⟨(hs.1 hserved).sound, (hs.1 hserved).inside⟩, hs.2⟩
  · exact Ensures.pure fun _ hs => hs

lemma serveEvents_permitted (hevents : ∀ path, .ok path ∈ events → srv.PathGuarded h ctx path)
    (index : ℕ) (progress : EventProgress) :
    Ensures (fun s => (progress.opened = true → s.Ready) ∧ s.packed.w.Sound ∧ Permitted srv h s)
      (srv.serveEvents h ctx index progress events) fun _ => Permitted srv h := by
  induction events generalizing index progress with
  | nil => exact Ensures.pure fun _ hs => hs.2.2
  | cons path events ih =>
    have hrest := ih fun p hp => hevents p (List.mem_cons_of_mem _ hp)
    apply Ensures.ofResult_bind
    rintro p rfl
    apply Ensures.get
    intro s
    refine Ensures.weaken (P := fun s => (progress.opened = true → s.Ready) ∧
      s.packed.w.Sound ∧ Permitted srv h s) ?_ (fun _ hs => hs.2) fun _ _ hs => hs
    split_ifs
    · exact hrest (index + 1) progress
    · refine (srv.serveEventAt_permitted h ctx (hevents p List.mem_cons_self) index
        progress.opened).bind fun served => ?_
      simp only
      split_ifs with hserved
      · refine Ensures.bind (Q := fun _ s => s.Ready ∧ Permitted srv h s) ?_ fun _ => ?_
        · exact Ensures.modify fun s hs =>
            ⟨⟨(hs.1 hserved).sound, (hs.1 hserved).inside⟩, hs.2⟩
        · exact (hrest _ _).weaken (fun s hs => ⟨fun _ => hs.1, hs.1.sound, hs.2⟩) fun _ _ hs => hs
      · exact Ensures.pure fun _ hs => hs.2

lemma closeReport_permitted (stopped : Bool) (progress : EventProgress) :
    Ensures (Permitted srv h) (closeReport stopped progress : Serving ν (List UInt8 × ReadOutcome))
      fun _ => Permitted srv h := by
  intro s hs _ s' hrun
  obtain ⟨new, hblocks, hnone⟩ :=
    closeReport_adds (P := fun _ => False) stopped progress s
  rw [hrun] at hblocks
  have hnew : new = [] := List.eq_nil_iff_forall_not_mem.mpr hnone
  rw [hnew, List.append_nil] at hblocks
  intro d hd
  rw [hblocks] at hd
  exact hs d hd

/-- A message discloses nothing beyond what the subject may read, if the log does not for any of its
paths. -/
lemma serveChunkWithEvents_permitted (paths : List (Except ErrorCode AttributePath))
    (hevents : ∀ path, .ok path ∈ events → srv.PathGuarded h ctx path)
    (subscriptionId : Option UInt32) (scratch buf : Slice) :
    Ensures (fun _ => True) (srv.serveChunkWithEvents h paths events ctx subscriptionId scratch buf)
      fun _ => Permitted srv h := by
  refine Ensures.bind (Q := fun _ s => s.packed = ⟨TlvWriter.new buf, 0, []⟩) ?_ fun _ => ?_
  · exact Ensures.modify fun _ _ => rfl
  refine Ensures.bind (Q := fun _ => Permitted srv h) ?_ fun r =>
    srv.closeReport_permitted h r.1 r.2
  refine Ensures.bind (Q := fun _ s => s.Ready ∧ Permitted srv h s) ?_ fun _ => ?_
  · rintro s hs _ s' hrun
    rw [Serving.exec_writing, hs] at hrun
    obtain ⟨hresult, rfl⟩ := Prod.mk.inj hrun
    obtain ⟨bytes, _, hhead⟩ := emits_reportHead subscriptionId
    obtain ⟨_, hwrote⟩ := hhead.of_ok (sound_new buf) (nesting_new buf) (Prod.ext hresult rfl)
    refine ⟨⟨hwrote.sound, ?_⟩, nofun⟩
    exact hwrote.nesting_eq ▸ (by decide : inReports.Inside)
  apply Ensures.get
  intro s
  refine Ensures.bind (((srv.steady_permitted h).servePaths h ctx scratch s.cursor.path 0 paths).weaken
    (fun _ hs => hs.2) fun _ _ hs => hs) fun stopped => ?_
  cases stopped with
  | true =>
    exact Ensures.bind (Q := fun _ => Permitted srv h) (Ensures.pure fun _ hs => hs.2) fun _ =>
      Ensures.pure fun _ hs => hs
  | false =>
    refine Ensures.bind (Q := fun _ => Permitted srv h) ?_ fun _ => Ensures.pure fun _ hs => hs
    refine Ensures.bind (Q := fun _ s => s.packed.w.Sound ∧ Permitted srv h s) ?_ fun _ => ?_
    · rintro s ⟨hready, hs⟩ _ s' hrun
      rw [Serving.exec_writing] at hrun
      obtain ⟨hresult, rfl⟩ := Prod.mk.inj hrun
      obtain ⟨_, hwrote⟩ := (follows_endContainer_of hready.inside.1).of_ok hready.sound rfl
        (Prod.ext hresult rfl)
      exact ⟨hwrote.sound, hs⟩
    refine Ensures.bind ((srv.serveEvents_permitted h ctx hevents 0 {}).weaken
      (fun s hs => ⟨nofun, hs⟩) fun _ _ hs => hs) fun progress => ?_
    exact (writing_permitted srv h _).bind fun _ => Ensures.pure fun _ hs => hs

/-! ## What the log yields is written -/

/-- A message with room for so many more octets stands at a nesting. -/
structure Roomy (s : ReadState ν) (n : Nesting) (room : ℕ) : Prop where
  sound : s.packed.w.Sound
  nesting_eq : s.packed.w.nesting = n
  room_le : s.packed.w.pos + room ≤ s.packed.w.buf.octets.length
  startedInside_eq : s.packed.w.startedInside = false

/-- A step of the writer takes of the room what it needs. -/
lemma writing_roomy {x : Writing Unit} {n n' : Nesting} {size room : ℕ} (hx : Emits x n n' size)
    (hs : Roomy s n (size + room)) : ∃ s', exec (Serving.writing x) s = (.ok (), s') ∧ Roomy s' n' room ∧
      s'.packed.blocks = s.packed.blocks ∧ s'.packed.responses = s.packed.responses ∧
      s'.cursor = s.cursor := by
  have hroom := hs.room_le
  obtain ⟨w', hrun, hsound, hn, hpos, hsame⟩ := hx.exec_eq_ok hs.sound hs.nesting_eq (by omega)
  refine ⟨{ s with packed := { s.packed with w := w' } }, ?_, ⟨hsound, hn, ?_, ?_⟩, rfl, rfl, rfl⟩
  · rw [Serving.exec_writing, hrun]
  · show w'.pos + room ≤ w'.buf.octets.length
    rw [hsame.length_eq]
    omega
  · exact hsame.startedInside_eq.trans hs.startedInside_eq

/-- A record that is an element is packed where there is room. -/
lemma put_roomy (previous : Option Timestamp) {r : EventRecord} (hr : encodable r = true)
    (hs : Roomy s inReports (recordSize + room)) (hlimit : s.packed.responses < srv.limit) :
    ∃ s', exec (srv.put (recordBlock previous r)) s = (.ok true, s') ∧ Roomy s' inReports room ∧
      s'.packed.blocks = s.packed.blocks ++ [recordBlock previous r] ∧
      s'.packed.responses = s.packed.responses + 1 ∧ s'.cursor = s.cursor := by
  have hroom := hs.room_le
  obtain ⟨w', hrun, hsound, hn, hpos, hsame⟩ :=
    (emits_record previous hr).exec_eq_ok hs.sound hs.nesting_eq (by omega)
  refine ⟨{ s with packed := ⟨w', s.packed.responses + 1,
    s.packed.blocks ++ [recordBlock previous r]⟩ }, ?_, ⟨hsound, hn, ?_, ?_⟩, rfl, rfl, rfl⟩
  · rw [srv.exec_put]
    unfold putBlock
    rw [exec_get_bind, if_neg (Nat.not_le.mpr hlimit), hrun]
    rfl
  · show w'.pos + room ≤ w'.buf.octets.length
    rw [hsame.length_eq]
    omega
  · exact hsame.startedInside_eq.trans hs.startedInside_eq

/-- Records that are elements are all packed, up to the limit. -/
lemma serveRecords_roomy (hfront : ∀ r ∈ front, encodable r = true) (back : List EventRecord)
    (previous : Option Timestamp) (next : UInt64)
    (hs : Roomy s inReports (front.length * recordSize + room))
    (hlimit : srv.limit = s.packed.responses + front.length) :
    ∃ served s', exec (srv.serveRecords previous next (front ++ back)) s = (.ok served, s') ∧
      Roomy s' inReports room ∧ s'.packed.responses = srv.limit ∧
      (∀ b ∈ s.packed.blocks, b ∈ s'.packed.blocks) ∧
      ∀ r ∈ front, ∃ before, recordBlock before r ∈ s'.packed.blocks := by
  induction front generalizing previous next s with
  | nil =>
    have hs' : Roomy s inReports room := by simpa using hs
    have hfull : srv.limit = s.packed.responses := hlimit
    cases back with
    | nil => exact ⟨_, s, rfl, hs', hfull.symm, fun _ hb => hb, nofun⟩
    | cons r back =>
      refine ⟨(false, next), s, ?_, hs', hfull.symm, fun _ hb => hb, nofun⟩
      rw [List.nil_append]
      unfold serveRecords
      rw [exec_get_bind, srv.put_full (Nat.le_of_eq hfull)]
      rfl
  | cons r front ih =>
    have hs' : Roomy s inReports (recordSize + (front.length * recordSize + room)) := by
      refine ⟨hs.sound, hs.nesting_eq, ?_, hs.startedInside_eq⟩
      have := hs.room_le
      rw [List.length_cons, Nat.succ_mul] at this
      omega
    have hmore : s.packed.responses < srv.limit := by
      rw [hlimit, List.length_cons]
      omega
    obtain ⟨s₁, hput, hs₁, hblocks₁, hresponses₁, _⟩ :=
      srv.put_roomy previous (hfront r List.mem_cons_self) hs' hmore
    obtain ⟨served, s₂, hrun, hs₂, hfull, hkept, hall⟩ :=
      ih (fun r' hr' => hfront r' (List.mem_cons_of_mem _ hr')) (some r.timestamp)
        (satAdd r.number 1) hs₁ (by rw [hlimit, hresponses₁, List.length_cons]; omega)
    refine ⟨served, s₂, ?_, hs₂, hfull, fun b hb => hkept b ?_, fun r' hr' => ?_⟩
    · rw [List.cons_append]
      unfold serveRecords
      rw [exec_get_bind, hput]
      exact hrun
    · rw [hblocks₁]
      exact List.mem_append_left _ hb
    · rcases List.mem_cons.mp hr' with rfl | hr'
      · refine ⟨previous, hkept _ ?_⟩
        rw [hblocks₁]
        exact List.mem_append_right _ List.mem_cons_self
      · exact hall r' hr'

lemma max_eq_left_uint64 {a b : UInt64} (hab : b ≤ a) : max a b = a := by
  apply UInt64.toNat_inj.mp
  rw [toNat_max]
  exact Nat.max_eq_left (UInt64.le_iff_toNat_le.mp hab)

/-- A path that is not refused is served from the number it is asked from, with what the log yields
there. -/
lemma serveEventAt_roomy (hrefusal : srv.eventRefusal h path = none)
    (hevents : srv.events = some matching) (hfloor : eventFloor ctx ≤ s.cursor.eventFrom)
    (hmatching : matching path ctx.fabricIndex s.cursor.eventFrom = front ++ back)
    (hfront : ∀ r ∈ front, encodable r = true)
    (hs : Roomy s inMessage (9 + (front.length * recordSize + room)))
    (hlimit : srv.limit = s.packed.responses + front.length) (index : ℕ) :
    ∃ served s', exec (srv.serveEventAt h ctx index false path) s = (.ok served, s') ∧
      Roomy s' inReports room ∧ s'.packed.responses = srv.limit ∧
      ∀ r ∈ front, ∃ before, recordBlock before r ∈ s'.packed.blocks := by
  have hopen : Emits (start (.context 2) .array) inMessage inReports 9 :=
    emits_start (by decide) (by decide) _
  obtain ⟨s₁, hopened, hs₁, _, hresponses₁, hcursor₁⟩ := writing_roomy hopen hs
  obtain ⟨served, s₂, hrun, hs₂, hfull, _, hall⟩ := srv.serveRecords_roomy hfront back none
    s.cursor.eventFrom (s := { s₁ with cursor := { s₁.cursor with eventPath := index } })
    ⟨hs₁.sound, hs₁.nesting_eq, hs₁.room_le, hs₁.startedInside_eq⟩
    (by rw [hlimit]; exact congrArg (· + front.length) hresponses₁.symm)
  refine ⟨served, { s₂ with cursor := { s₂.cursor with eventFrom := served.2 } }, ?_,
    ⟨hs₂.sound, hs₂.nesting_eq, hs₂.room_le, hs₂.startedInside_eq⟩, hfull, hall⟩
  have hpath : exec (srv.serveEventPath h path ctx s₁.cursor.eventFrom)
      { s₁ with cursor := { s₁.cursor with eventPath := index } } = (.ok served, s₂) := by
    unfold serveEventPath
    simp only [hrefusal, hevents]
    rw [hcursor₁] at hrun ⊢
    rw [max_eq_left_uint64 hfloor, hmatching]
    exact hrun
  unfold serveEventAt
  have hopened' : exec (openEvents false) s = (.ok (), s₁) := hopened
  rw [exec_bind_ok hopened', exec_bind_ok (Serving.exec_moveCursor _ _),
    exec_get_bind, exec_bind_ok hpath, exec_bind_ok (Serving.exec_moveCursor _ _)]
  rfl

/-- The event half of a message for one path. -/
lemma serveEventHalf_roomy (hrefusal : srv.eventRefusal h path = none)
    (hevents : srv.events = some matching) (hfirst : s.cursor.eventPath = 0)
    (hfloor : eventFloor ctx ≤ s.cursor.eventFrom)
    (hmatching : matching path ctx.fabricIndex s.cursor.eventFrom = front ++ back)
    (hfront : ∀ r ∈ front, encodable r = true)
    (hs : Roomy s inReports (1 + (9 + (front.length * recordSize + (1 + room)))))
    (hlimit : srv.limit = s.packed.responses + front.length) :
    ∃ progress s', exec (srv.serveEventHalf h [.ok path] ctx) s = (.ok progress, s') ∧
      Roomy s' inMessage room ∧ s'.packed.responses = srv.limit ∧
      ∀ r ∈ front, ∃ before, recordBlock before r ∈ s'.packed.blocks := by
  have hclose : Emits endContainer inReports inMessage 1 := emits_endContainer (by decide)
  obtain ⟨s₁, hclosed, hs₁, _, hresponses₁, hcursor₁⟩ := writing_roomy hclose hs
  rw [← hcursor₁] at hfloor hmatching hfirst
  rw [← hresponses₁] at hlimit
  obtain ⟨served, s₂, hrun, hs₂, hfull, hall⟩ := srv.serveEventAt_roomy h ctx hrefusal hevents
    hfloor hmatching hfront hs₁ hlimit 0
  have hserved : ∃ progress s₃, exec (srv.serveEvents h ctx 0 {} [.ok path]) s₁ = (.ok progress, s₃) ∧
      progress.opened = true ∧ s₃.packed = s₂.packed := by
    unfold serveEvents
    rw [exec_bind_ok (exec_ofResult _ _), exec_get_bind,
      if_neg (by rw [hfirst]; exact Nat.lt_irrefl 0), exec_bind_ok hrun]
    rcases hdone : served.1 with _ | _
    · exact ⟨_, s₂, rfl, rfl, rfl⟩
    · exact ⟨_, _, rfl, rfl, rfl⟩
  obtain ⟨progress, s₃, hrun₃, hopened, hpacked⟩ := hserved
  have hs₃ : Roomy s₃ inReports (1 + room) := by
    obtain ⟨hsound, hnesting, hroom, hinside⟩ := hs₂
    rw [← hpacked] at hsound hnesting hroom hinside
    exact ⟨hsound, hnesting, hroom, hinside⟩
  obtain ⟨s₄, hrun₄, hs₄, hblocks₄, hresponses₄, _⟩ := writing_roomy hclose hs₃
  refine ⟨progress, s₄, ?_, hs₄, ?_, ?_⟩
  · unfold serveEventHalf
    rw [exec_bind_ok hclosed, exec_bind_ok hrun₃, hopened]
    have hrun₄' : exec (Serving.writing (whenTrue true endContainer)) s₃ = (.ok (), s₄) := hrun₄
    rw [exec_bind_ok hrun₄']
    rfl
  · rw [hresponses₄, hpacked, hfull]
  · intro r hr
    rw [hblocks₄, hpacked]
    exact hall r hr

/-- A message that said something is closed where there is room for its tail. -/
lemma closeReport_roomy (progress : EventProgress) (hs : Roomy s inMessage 13)
    (hsaid : s.packed.responses ≠ 0) : ∃ r s', exec (closeReport false progress) s = (.ok r, s') ∧
      s'.packed.blocks = s.packed.blocks := by
  have hdone : ∃ s₁, exec (markDone progress.truncated) s = (.ok (), s₁) ∧ s₁.packed = s.packed := by
    unfold markDone
    split_ifs
    · exact ⟨s, rfl, rfl⟩
    · exact ⟨_, rfl, rfl⟩
  obtain ⟨s₁, hrun₁, hpacked⟩ := hdone
  have hs₁ : Roomy s₁ inMessage (13 + 0) := by
    obtain ⟨hsound, hnesting, hroom, hinside⟩ := hs
    rw [← hpacked] at hsound hnesting hroom hinside
    exact ⟨hsound, hnesting, hroom, hinside⟩
  obtain ⟨s₂, hrun₂, hs₂, hblocks₂, _, _⟩ := writing_roomy (emits_reportTail progress.truncated) hs₁
  have hfinish : s₂.packed.w.finish = .ok s₂.packed.w.written := by
    refine (TlvWriter.finish_eq_ok hs₂.startedInside_eq).mpr ⟨?_, ?_, hs₂.sound.pos_le, rfl⟩
    · exact (containers_eq_nil_iff hs₂.sound).mp (congrArg Nesting.containers hs₂.nesting_eq)
    · exact congrArg Nesting.topLevelDone hs₂.nesting_eq
  refine ⟨(s₂.packed.w.written, ⟨s₂.packed.responses, progress.truncated, progress.through⟩), s₂, ?_,
    hblocks₂.trans (congrArg Packed.blocks hpacked)⟩
  have hmay : ¬ (progress.truncated = true ∧ s.packed.responses = 0) := fun hnone => hsaid hnone.2
  unfold closeReport
  rw [exec_get_bind, exec_require_bind hmay, exec_bind_ok hrun₁]
  have hrun₂' : exec (Serving.writing (reportTail (!false) progress.truncated)) s₁ = (.ok (), s₂) :=
    hrun₂
  rw [exec_bind_ok hrun₂', exec_get_bind, hfinish]
  rfl

/-- The octets a message with so many records takes at most. -/
def messageSize (records : ℕ) : ℕ := 28 + (1 + (9 + (records * recordSize + (1 + 13))))

/-- A path that is not refused gets a message with what the log yields for it from any number on, up
to where a payload is no element. -/
lemma serveChunkWithEvents_roomy (hrefusal : srv.eventRefusal h path = none)
    (hevents : srv.events = some matching) {since : UInt64} (hfloor : eventFloor ctx ≤ since)
    (hmatching : matching path ctx.fabricIndex since = front ++ back)
    (hfront : ∀ r ∈ front, encodable r = true) (hsome : front ≠ [])
    (hlimit : srv.limit = front.length) (scratch buf : Slice)
    (hbuf : messageSize front.length ≤ buf.octets.length) {v : ν} :
    ∃ r s', exec (srv.serveChunkWithEvents h [] [.ok path] ctx none scratch buf)
        ⟨⟨TlvWriter.new buf, 0, []⟩, { ReadCursor.start with eventFrom := since }, v⟩ = (.ok r, s') ∧
      ∀ r ∈ front, ∃ before, recordBlock before r ∈ s'.packed.blocks := by
  have hs : Roomy (⟨⟨TlvWriter.new buf, 0, []⟩, { ReadCursor.start with eventFrom := since }, v⟩ :
      ReadState ν) ⟨[], false⟩ (28 + (1 + (9 + (front.length * recordSize + (1 + 13))))) := by
    refine ⟨sound_new buf, nesting_new buf, ?_, rfl⟩
    show 0 + _ ≤ _
    rw [Nat.zero_add]
    exact hbuf
  obtain ⟨s₁, hhead, hs₁, _, hresponses₁, hcursor₁⟩ := writing_roomy (emits_reportHead none) hs
  obtain ⟨progress, s₂, hhalf, hs₂, hfull, hall⟩ := srv.serveEventHalf_roomy h ctx hrefusal hevents
    (by rw [hcursor₁]; rfl) (by rw [hcursor₁]; exact hfloor) (by rw [hcursor₁]; exact hmatching)
    hfront hs₁ (by rw [hresponses₁, hlimit]; exact (Nat.zero_add _).symm)
  obtain ⟨r, s₃, hclose, hblocks⟩ := closeReport_roomy progress hs₂
    (by rw [hfull, hlimit]; exact fun h => hsome (List.length_eq_zero_iff.mp h))
  refine ⟨r, s₃, ?_, by rwa [hblocks]⟩
  have hreports : exec (srv.serveReports h [] [.ok path] ctx none scratch)
      ⟨⟨TlvWriter.new buf, 0, []⟩, { ReadCursor.start with eventFrom := since }, v⟩ =
        (.ok (false, progress), s₂) := by
    unfold serveReports
    rw [exec_bind_ok hhead, exec_get_bind]
    have hpaths : exec (srv.servePaths h ctx scratch s₁.cursor.path 0 []) s₁ = (.ok false, s₁) := rfl
    rw [exec_bind_ok hpaths, if_neg (by decide), exec_bind_ok hhalf]
    rfl
  unfold serveChunkWithEvents
  rw [exec_modify_bind, exec_bind_ok hreports]
  exact hclose

end Server

/-! ## The report and the log -/

/-- Every report for paths among `asked` keeps to what the subject may read: whatever the limit, the
buffers, the cursor and the rest of the request, a message that is built names only such events. -/
def Server.Disclosed (srv : Server η ν) (h : η) (v : ν) (ctx : InteractionContext)
    (asked : Set EventPath) : Prop :=
  ∀ (limit : ℕ) (paths : List (Except ErrorCode AttributePath))
    (events : List (Except ErrorCode EventPath)) (subscriptionId : Option UInt32)
    (scratch buf : Slice) (cursor : ReadCursor) (packed : Packed Block)
    (r : List UInt8 × ReadOutcome) (s' : ReadState ν),
    (∀ path, .ok path ∈ events → path ∈ asked) →
    exec ({ srv with limit := limit }.serveChunkWithEvents h paths events ctx subscriptionId scratch
      buf) ⟨packed, cursor, v⟩ = (.ok r, s') →
    Permitted srv h s'

lemma length_matching (store : EventStore C I D) (path : EventPath)
    (accessing : Option FabricIndex) (since : UInt64) :
    (store.matching path accessing since).length ≤ 64 := by
  unfold EventStore.matching
  rw [List.length_insertionSort, List.length_take]
  exact Nat.min_le_left _ _

/-- Reports keep to what the subject may read exactly when the log does, for the paths that are not
refused: a wildcard path is never refused, and a concrete one is not if its descriptor has no read
privilege. -/
theorem disclosed_iff (srv : Server η ν) (h : η) (v : ν) (ctx : InteractionContext)
    (store : EventStore C I D) (asked : Set EventPath) : (srv.withEvents store).Disclosed h v ctx asked ↔
      ∀ path ∈ asked, srv.eventRefusal h path = none → ∀ since, Server.eventFloor ctx ≤ since →
        ∀ r ∈ (store.matching path ctx.fabricIndex since).takeWhile encodable,
          srv.mayRead h r.endpoint r.cluster r.event := by
  constructor
  · intro hdisclosed path hpath hrefusal since hfloor r hr
    -- One message with room for all that the log yields is enough.
    have hlength : ((store.matching path ctx.fabricIndex since).takeWhile encodable).length ≤ 64 :=
      (List.takeWhile_prefix _).length_le.trans (length_matching store path ctx.fabricIndex since)
    obtain ⟨r', s', hrun, hall⟩ := Server.serveChunkWithEvents_roomy
      { srv.withEvents store with
        limit := ((store.matching path ctx.fabricIndex since).takeWhile encodable).length }
      h ctx hrefusal rfl (v := v) hfloor
      (List.takeWhile_append_dropWhile (p := encodable)).symm
      (fun r hr => List.mem_takeWhile_imp hr) (List.ne_nil_of_mem hr) rfl
      (Lamp.room 20000 (by decide)) (Lamp.room 20000 (by decide)) (by
        show Server.messageSize _ ≤ (List.replicate 20000 0).length
        rw [List.length_replicate]
        unfold Server.messageSize recordSize
        omega)
    obtain ⟨before, hblock⟩ := hall r hr
    have hasked : ∀ path', Except.ok path' ∈ [(.ok path : Except ErrorCode EventPath)] →
        path' ∈ asked := by
      intro path' hmem
      cases List.mem_singleton.mp hmem
      exact hpath
    obtain ⟨endpoint, cluster, event, hd, hmay⟩ :=
      hdisclosed _ _ _ _ _ _ _ _ _ _ hasked hrun _ hblock
    cases hd
    exact hmay
  · intro hguarded limit paths events subscriptionId scratch buf cursor packed r s' hasked hrun
    refine Server.serveChunkWithEvents_permitted { srv.withEvents store with limit := limit } h ctx
      paths ?_ subscriptionId scratch buf _ trivial r s' hrun
    intro path hmem hrefusal matching hmatching since hfloor
    cases hmatching
    exact hguarded path (hasked path hmem) hrefusal since hfloor

namespace Lamp

/-- The event of a lamp, without a payload. -/
def alarm : NewEvent := ⟨1, 6, 0, .critical, .system 0, none, [0x35, 0x07, 0x18]⟩

/-- A log that takes one event, before and after the lamp's. -/
def quiet : EventStore 1 0 0 := .new ⟨0, numberReservation⟩

@[inherit_doc quiet] def alarmed : EventStore 1 0 0 := (quiet.record alarm).2

/-- What a read of every event gets of a lamp's log. -/
def readEvents (log : EventStore 1 0 0) :
    Except ErrorCode (List UInt8 × ReadOutcome) × ReadState (DataVersions 4) :=
  exec (((server 4).withEvents log).serveChunkWithEvents {} [] [.ok {}] {} none
    (room 64 room_64) (room 64 room_64))
    ⟨⟨TlvWriter.new (room 64 room_64), 0, []⟩, .start, .new 0⟩

end Lamp

/-- A read of every event shows a subject the lamp's alarm, which takes an administrator, so that two
logs that differ only in it are told apart. -/
theorem wildcard_path_discloses : ¬ (Lamp.server 4).mayRead {} 1 6 0 ∧
      (Lamp.readEvents Lamp.alarmed).2.packed.blocks =
        [recordBlock none (Lamp.alarm.record 0 ⟨Lamp.alarm.data, by decide⟩)] ∧
      (Lamp.readEvents Lamp.alarmed).1.isOk = true ∧
      (Lamp.readEvents Lamp.alarmed).1 ≠ (Lamp.readEvents Lamp.quiet).1 := by
  refine ⟨?_, ?_, ?_, ?_⟩
  · rintro ⟨resolved, required, hresolve, hread, hgranted⟩
    cases hresolve
    cases hread
    cases hgranted
  · decide +kernel
  · decide +kernel
  · decide +kernel

end MatterKit.Im
