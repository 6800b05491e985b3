import MatterKit.Im.Disclosure
import MatterKit.Im.Pieces

/-!
# Whether a message can be closed

A message is closed behind its blocks: the array they are in ends, `MoreChunkedMessages` says that
there is more, and the revision and the end of the message follow. The room for that is not set aside.
Blocks are packed while they fit, so the last of them may leave too little, and then the whole call
fails for want of buffer.

`Packing.Settles` says by the sizes alone when the octets behind the blocks have a place, and
`serveChunkWithEvents_isOk_iff` that a message is built exactly then, for a buffer that holds the
first block.
-/

namespace MatterKit.Im

open Lib Machine Tlv TlvWriter Dm

variable {η ν : Type}

/-! ## What a message asks for -/

/-- The records of an event path, each as its block. -/
def recordPieces : Option Timestamp → List EventRecord → List Piece
  | _, [] => []
  | previous, record :: records =>
    .block (recordBlock previous record) :: recordPieces (some record.timestamp) records

namespace Server

variable (srv : Server η ν) (h : η) (ctx : InteractionContext) (scratch : Slice)

/-- What an event path asks for. -/
def eventPathPieces (path : EventPath) (since : UInt64) : List Piece :=
  match srv.eventRefusal h path with
  | some status => [.block (.event (.status ⟨path, .new status⟩))]
  | none =>
    match srv.events with
    | none => []
    | some matching =>
      recordPieces none (matching path ctx.fabricIndex (max since (eventFloor ctx)))

/-- What the event paths from an index on ask for, with the start of their array in front of the first
and its end behind the last. -/
def eventPieces : ℕ → ℕ → UInt64 → Bool → List (Except ErrorCode EventPath) → List Piece
  | _, _, _, opened, [] => if opened then [.frame 1] else []
  | _, _, _, _, .error _ :: _ => [.fault]
  | index, first, since, opened, .ok path :: paths =>
    if index < first then eventPieces (index + 1) first since opened paths
    else
      (if opened then [] else [.frame 2]) ++ (srv.eventPathPieces h ctx path since ++
        eventPieces (index + 1) (index + 1) 0 true paths)

/-- The octets in front of the blocks. -/
def headSize (subscriptionId : Option UInt32) : ℕ :=
  match subscriptionId with
  | none => 3
  | some id => 5 + (Width.forUnsigned id.toUInt64).octets

/-- What a message is to carry, up to its tail. -/
def outstanding (paths : List (Except ErrorCode AttributePath))
    (events : List (Except ErrorCode EventPath)) (subscriptionId : Option UInt32)
    (cursor : ReadCursor) (v : ν) : List Piece :=
  .frame (headSize subscriptionId) ::
    ((srv.attributePieces h ctx scratch cursor.path 0 cursor.expansion cursor.list v paths).pieces ++
      .frame 1 :: srv.eventPieces h ctx 0 cursor.eventPath cursor.eventFrom false events)

end Server

/-- The octets behind the blocks, where the message is full: the end of the array, that there is more,
the revision, and the end of the message. -/
def moreTail : ℕ := 1 + 2 + 3 + 1

/-- The octets behind the arrays, where there is no more. -/
def lastTail : ℕ := 3 + 1

/-- What is packed can be closed: something was said if there is more, and the tail has a place. -/
def Packing.Settles : Packing → Prop
  | .finished m => lastTail ≤ m.room
  | .full m => 0 < m.reports ∧ moreTail ≤ m.room
  | .fault => False

instance : (p : Packing) → Decidable p.Settles
  | .finished _ => inferInstanceAs (Decidable (_ ≤ _))
  | .full _ => inferInstanceAs (Decidable (_ ∧ _))
  | .fault => inferInstanceAs (Decidable False)

/-- The first block that is to be sent fits together with what is in front of it and behind it. -/
def FirstFits (buf : Slice) : ℕ → List Piece → Prop
  | room, [] => lastTail ≤ room
  | room, .frame octets :: pieces => octets ≤ room ∧ FirstFits buf (room - octets) pieces
  | _, .fault :: _ => True
  | room, .block b :: _ => b.Fits buf room ∧ b.size buf + moreTail ≤ room

instance FirstFits.instDecidable (buf : Slice) :
    (room : ℕ) → (pieces : List Piece) → Decidable (FirstFits buf room pieces)
  | _, [] => inferInstanceAs (Decidable (_ ≤ _))
  | room, .frame octets :: pieces =>
    have := instDecidable buf (room - octets) pieces
    inferInstanceAs (Decidable (_ ∧ _))
  | _, .fault :: _ => inferInstanceAs (Decidable True)
  | _, .block _ :: _ => inferInstanceAs (Decidable (_ ∧ _))

/-- Where the first block fits, a message is full with a block in it. -/
lemma some_of_full {limit : ℕ} (hlimit : 0 < limit) {buf : Slice} {room : ℕ} {pieces : List Piece}
    (hfirst : FirstFits buf room pieces) {m' : Meter}
    (hfull : pack limit buf ⟨room, 0⟩ pieces = .full m') : 0 < m'.reports := by
  induction pieces generalizing room with
  | nil => cases hfull
  | cons piece pieces ih =>
    cases piece with
    | block b =>
      rw [pack_block, if_pos ⟨hlimit, hfirst.1⟩] at hfull
      split_ifs at hfull
      exact Nat.lt_of_lt_of_le (Nat.zero_lt_one) (reports_le_of_full hfull)
    | frame octets =>
      rw [pack_frame, if_pos hfirst.1] at hfull
      exact ih hfirst.2 hfull
    | fault => cases hfull

/-! ## The octets around the blocks -/

/-- A step of the writer takes its octets of the room, or there is none for them. -/
lemma writing_metered {x : Writing Unit} {n n' : Nesting} {octets : ℕ} (hx : Costs x n n' octets)
    {buf : Slice} {s : ReadState ν} {m : Meter} (hs : Metered buf s n m) :
    (octets ≤ m.room → ∃ s', exec (Serving.writing x) s = (.ok (), s') ∧
      Metered buf s' n' { m with room := m.room - octets } ∧ Kept s s') ∧
    (¬ octets ≤ m.room → ∃ s', exec (Serving.writing x) s = (.error .bufferTooSmall, s')) := by
  obtain ⟨hfits, hfull⟩ := Filled.write hs hx
  refine ⟨fun hle => ?_, fun hnot => ?_⟩
  · obtain ⟨w', hrun, hs'⟩ := hfits hle
    refine ⟨{ s with packed := { s.packed with w := w' } }, ?_, hs', ⟨rfl, rfl⟩⟩
    rw [Serving.exec_writing, hrun]
  · obtain ⟨w', hrun⟩ := hfull hnot
    refine ⟨{ s with packed := { s.packed with w := w' } }, ?_⟩
    rw [Serving.exec_writing, hrun]

/-- The head of a message takes its size. -/
lemma costs_reportHead (subscriptionId : Option UInt32) :
    Costs (Server.reportHead subscriptionId) ⟨[], false⟩ inReports (Server.headSize subscriptionId) := by
  have hopen : Costs (start .anonymous .struct) ⟨[], false⟩ inMessage 1 :=
    ⟨_, rfl, follows_start_ok (by decide) rfl .struct⟩
  have harray : Costs (start (.context 1) .array) inMessage inReports 2 :=
    ⟨_, rfl, follows_start_ok (by decide) rfl .array⟩
  cases subscriptionId with
  | none => exact hopen.seq ((costs_nothing inMessage).seq harray)
  | some id =>
    have hid := costs_unsigned (n := inMessage) (t := 0) (by decide) rfl id.toUInt64
    have hall := hopen.seq (hid.seq harray)
    have hsize : 1 + (2 + (Width.forUnsigned id.toUInt64).octets + 2) = Server.headSize (some id) := by
      show _ = 5 + _
      omega
    exact hsize ▸ hall

/-- The octets of the tail of a message. -/
def tailSize (eventsClosed truncated : Bool) : ℕ :=
  (if eventsClosed then 0 else 1) + (if truncated then 2 else 0) + lastTail

/-- The tail of a message takes its size. -/
lemma costs_reportTail (eventsClosed truncated : Bool) : Costs (Server.reportTail eventsClosed truncated)
    (if eventsClosed then inMessage else inReports) ⟨[], true⟩ (tailSize eventsClosed truncated) := by
  have hclosed : Costs (whenTrue (!eventsClosed) endContainer)
      (if eventsClosed then inMessage else inReports) inMessage (if eventsClosed then 0 else 1) := by
    cases eventsClosed with
    | true => exact costs_nothing inMessage
    | false => exact ⟨[0x18], rfl, follows_endContainer_of (n := inReports) (by decide)⟩
  have hmore : Costs (whenTrue truncated (Tlv.bool (.context 3) true)) inMessage inMessage
      (if truncated then 2 else 0) := by
    cases truncated with
    | false => exact costs_nothing inMessage
    | true => exact ⟨_, rfl, follows_head (n := inMessage) rfl _⟩
  have hrevision := costs_unsigned (n := inMessage)
    (t := Server.revisionTag) (by decide) rfl Server.interactionModelRevision.toUInt64
  have hend : Costs endContainer inMessage ⟨[], true⟩ 1 :=
    ⟨[0x18], rfl, follows_endContainer_of (n := inMessage) (by decide)⟩
  have hall := hclosed.seq (hmore.seq (hrevision.seq hend))
  rw [tailSize, Nat.add_assoc]
  exact hall

namespace Server

variable {buf : Slice} {s : ReadState ν} {m : Meter} {x : Writing Unit} {r : EventRecord}

/-- A message is closed exactly if something was said, where there is more, and its tail fits. -/
lemma closeReport_isOk_iff (stopped : Bool) (progress : EventProgress)
    (hs : Metered buf s (if stopped then inReports else inMessage) m) :
    (exec (closeReport stopped progress) s).1.isOk = true ↔
      (progress.truncated = true → 0 < m.reports) ∧
        tailSize (!stopped) progress.truncated ≤ m.room := by
  have hreports := hs.reports_eq
  by_cases hsaid : progress.truncated = true ∧ s.packed.responses = 0
  · have hrun : (exec (closeReport stopped progress) s).1 = .error .bufferTooSmall := by
      unfold closeReport require
      rw [exec_get_bind, if_neg (not_not.mpr hsaid)]
      rfl
    rw [hrun]
    constructor
    · intro h
      cases h
    · rintro ⟨hsome, -⟩
      have := hsome hsaid.1
      omega
  have hdone : ∃ s₁, exec (markDone progress.truncated) s = (.ok (), s₁) ∧ s₁.packed = s.packed := by
    unfold markDone
    split_ifs
    · exact ⟨s, rfl, rfl⟩
    · exact ⟨_, rfl, rfl⟩
  obtain ⟨s₁, hrun₁, hpacked⟩ := hdone
  have hs₁ := hs.congr hpacked
  have htail := costs_reportTail (!stopped) progress.truncated
  have hthere : (if (!stopped) = true then inMessage else inReports) =
      if stopped = true then inReports else inMessage := by
    cases stopped <;> rfl
  rw [hthere] at htail
  obtain ⟨hfits, hfull⟩ := writing_metered htail hs₁
  have hmay : (progress.truncated = true → 0 < m.reports) := fun htruncated =>
    Nat.pos_of_ne_zero fun hnone => hsaid ⟨htruncated, hreports.trans hnone⟩
  unfold closeReport
  rw [exec_get_bind, exec_require_bind hsaid, exec_bind_ok hrun₁]
  by_cases hle : tailSize (!stopped) progress.truncated ≤ m.room
  · obtain ⟨s₂, hrun₂, hs₂, -⟩ := hfits hle
    rw [exec_bind_ok hrun₂, exec_get_bind, Filled.finish hs₂]
    exact iff_of_true rfl ⟨hmay, hle⟩
  · obtain ⟨s₂, hrun₂⟩ := hfull hle
    rw [exec_bind_error hrun₂]
    refine iff_of_false (fun h => ?_) fun h => hle h.2
    cases h

/-! ## The event half -/

/-- A message whose last record broke off inside: what was opened is not closed again. -/
structure Broken (s : ReadState ν) : Prop where
  sound : s.packed.w.Sound
  nesting_eq : s.packed.w.nesting = inRecord
  startedInside_eq : s.packed.w.startedInside = false

/-- From one nesting to another, an encoder fails. -/
def Fails (x : Writing Unit) (n n' : Nesting) : Prop :=
  ∃ bytes e, Follows x n ⟨bytes, .error e, n'⟩

lemma Fails.behind {f : Unit → Writing Unit} {n n' n'' : Nesting} {size : ℕ}
    (hx : Emits x n n' size) (hf : Fails (f ()) n' n'') : Fails (x >>= f) n n'' := by
  obtain ⟨bytes, -, hfollows⟩ := hx
  obtain ⟨bytes', e, hfails⟩ := hf
  exact ⟨_, e, hfollows.bind hfails⟩

lemma Fails.bind {n n' : Nesting} (hx : Fails x n n') (f : Unit → Writing Unit) : Fails (x >>= f) n n' := by
  obtain ⟨bytes, e, hfollows⟩ := hx
  exact ⟨bytes, e, hfollows.bind_error⟩

/-- An element that is none for where it is to stand is not begun. -/
lemma fails_rawElement (h : encodable r ≠ true) : Fails (rawElement r.data.toList) inRecord inRecord := by
  have hcheck := follows_checkRaw r.data.toList inRecord
  rw [rawElement_eq]
  rcases hraw : rawCheck (readerIn r.data.toList inRecord.containers.getLast?) with e | first
  · rw [hraw] at hcheck
    exact ⟨[], e, hcheck.bind_error⟩
  · rw [hraw] at hcheck
    have hnot : ¬ inRecord.check first.tag = .ok () := fun hok =>
      h (encodable_iff.mpr ⟨first, hraw, (check_struct_iff (by decide) rfl _).mp hok⟩)
    have htag := follows_checkTag first.tag inRecord
    rcases hresult : inRecord.check first.tag with e | u
    · rw [hresult] at htag
      exact ⟨_, e, hcheck.bind (f := copyRaw r.data.toList) htag.bind_error⟩
    · exact absurd hresult hnot

/-- The block of a record whose payload is no element breaks off inside. -/
lemma fails_record (previous : Option Timestamp) (h : encodable r ≠ true) :
    Fails (recordBlock previous r).encode inReports inRecord := by
  have hopen : Emits (start .anonymous .struct) inReports inReport 9 :=
    emits_start (by decide) (by decide) _
  have hdata : Emits (start (.context 1) .struct) inReport inRecord 9 :=
    emits_start (by decide) (by decide) _
  have hpath := emits_eventPath (eventData previous r).path (n := inRecord) (by decide) (by decide) 0
    (by decide)
  have hfield : ∀ t v, Emits (unsigned (.context t) v) inRecord inRecord 10 := fun t v =>
    emits_unsigned (by decide) ((check_struct_iff (by decide) rfl _).mpr rfl) v
  have hbody : Fails ((eventData previous r).encode (.context 1)) inReport inRecord :=
    .behind hdata (.behind hpath (.behind (hfield 1 _) (.behind (hfield 2 _)
      (.behind (hfield _ _) ((fails_rawElement h).bind _)))))
  exact .behind hopen (hbody.bind _)

/-- A record that is not packed for another reason than its room breaks off inside. -/
lemma broken_of_fault {previous : Option Timestamp} (hs : Metered buf s inReports m) {e : ErrorCode}
    {w' : TlvWriter} (hrun : exec (recordBlock previous r).encode s.packed.w = (.error e, w'))
    (he : e ≠ .bufferTooSmall) : Broken { s with packed := { s.packed with w := w' } } := by
  have hno : encodable r ≠ true := by
    intro hencodable
    obtain ⟨bytes, -, hfollows⟩ := emits_record previous hencodable
    by_cases hfits : s.packed.w.Fits bytes
    · obtain ⟨w, hwrite, -⟩ := (hfollows s.packed.w hs.sound hs.nesting_eq).1 hfits
      rw [hwrite] at hrun
      cases hrun
    · obtain ⟨w, hwrite, -⟩ := (hfollows s.packed.w hs.sound hs.nesting_eq).2 hfits
      rw [hwrite] at hrun
      exact he (Except.error.inj (Prod.mk.inj hrun).1).symm
  obtain ⟨bytes, e', hfollows⟩ := fails_record previous hno
  by_cases hfits : s.packed.w.Fits bytes
  · obtain ⟨w, hwrite, hwrote⟩ := (hfollows s.packed.w hs.sound hs.nesting_eq).1 hfits
    rw [hwrite] at hrun
    obtain rfl := (Prod.mk.inj hrun).2
    exact ⟨hwrote.sound, hwrote.nesting_eq, hwrote.startedInside_eq.trans hs.startedInside_eq⟩
  · obtain ⟨w, hwrite, -⟩ := (hfollows s.packed.w hs.sound hs.nesting_eq).2 hfits
    rw [hwrite] at hrun
    exact absurd (Except.error.inj (Prod.mk.inj hrun).1).symm he

/-- A message that broke off is not finished, whatever is closed behind it. -/
lemma Broken.close (hs : Broken s) (progress : EventProgress) (hopened : progress.opened = true)
    (htruncated : progress.truncated = true) : ∀ r, (exec (do
      Serving.writing (whenTrue progress.opened endContainer)
      closeReport false progress) s).1 ≠ .ok r := by
  intro r hresult
  rw [hopened] at hresult
  obtain ⟨_, s₁, hend, hclose⟩ := exec_bind_eq_ok.mp (Prod.ext hresult rfl)
  obtain ⟨hsame₁, hwrite₁⟩ := writing_of_ok hend
  obtain ⟨-, hwrote₁⟩ := (follows_endContainer_of (n := inRecord) (by decide)).of_ok hs.sound
    hs.nesting_eq hwrite₁
  unfold closeReport at hclose
  rw [exec_get_bind] at hclose
  obtain ⟨-, hclose⟩ := exec_require_bind_eq_ok.mp hclose
  have hdone : exec (markDone progress.truncated) s₁ = (.ok (), s₁) := by
    unfold markDone
    rw [if_pos htruncated]
    rfl
  rw [exec_bind_ok hdone, htruncated] at hclose
  obtain ⟨_, s₂, htail, hclose⟩ := exec_bind_eq_ok.mp hclose
  obtain ⟨-, hwrite₂⟩ := writing_of_ok htail
  -- the tail closes one container more, which leaves the message and its array open
  have hmore : Follows (Tlv.bool (.context 3) true) inReport ⟨_, .ok (), inReport⟩ :=
    follows_head (n := inReport) rfl _
  obtain ⟨_, -, hrevision⟩ := costs_unsigned (n := inReport) (t := revisionTag) (by decide) rfl
    interactionModelRevision.toUInt64
  have hend : Follows endContainer inReport ⟨[0x18], .ok (), inReports⟩ :=
    follows_endContainer_of (n := inReport) (by decide)
  have hnone : Follows (whenTrue (!!false) endContainer) inReport ⟨[], .ok (), inReport⟩ :=
    Follows.of_still fun _ _ _ => rfl
  have hall : Follows (reportTail (!false) true) inReport ⟨_, .ok (), inReports⟩ :=
    hnone.bind (f := fun _ => do
      whenTrue true (Tlv.bool (.context 3) true)
      unsigned (.context revisionTag) interactionModelRevision.toUInt64
      endContainer) (hmore.bind (f := fun _ => do
        unsigned (.context revisionTag) interactionModelRevision.toUInt64
        endContainer) (hrevision.bind (f := fun _ => endContainer) hend))
  obtain ⟨-, hwrote₂⟩ := hall.of_ok hwrote₁.sound hwrote₁.nesting_eq hwrite₂
  rw [exec_get_bind] at hclose
  obtain ⟨bytes, s₃, hfinish, -⟩ := exec_bind_eq_ok.mp hclose
  rw [exec_ofResult] at hfinish
  have hinside : s₂.packed.w.startedInside = false :=
    hwrote₂.startedInside_eq.trans (hwrote₁.startedInside_eq.trans hs.startedInside_eq)
  have hclosed := ((TlvWriter.finish_eq_ok hinside).mp (Prod.mk.inj hfinish).1).1
  have hdepth : s₂.packed.w.depth = 2 := by
    rw [← length_containers hwrote₂.sound, hwrote₂.nesting_eq]
    rfl
  omega

/-- Serving records packs them. A record that cannot be written breaks the message off. -/
structure Feeds (srv : Server η ν) (buf : Slice) (x : Serving ν (Bool × UInt64)) (s : ReadState ν)
    (pieces : List Piece) : Prop where
  finished : ∀ m m', Metered buf s inReports m → pack srv.limit buf m pieces = .finished m' →
    ∃ next s', exec x s = (.ok (true, next), s') ∧ Metered buf s' inReports m' ∧ Kept s s'
  full : ∀ m m', Metered buf s inReports m → pack srv.limit buf m pieces = .full m' →
    ∃ next s', exec x s = (.ok (false, next), s') ∧ Metered buf s' inReports m'
  fault : ∀ m, Metered buf s inReports m → pack srv.limit buf m pieces = .fault →
    (∀ a, (exec x s).1 ≠ .ok a) ∨ ∃ next s', exec x s = (.ok (false, next), s') ∧ Broken s'

variable (srv : Server η ν) (h : η) (ctx : InteractionContext) (scratch : Slice)

/-- The records of a path, by induction on them. -/
lemma serveRecords_feeds (previous : Option Timestamp) (next : UInt64) (records : List EventRecord)
    (s : ReadState ν) :
    Feeds srv buf (srv.serveRecords previous next records) s (recordPieces previous records) := by
  induction records generalizing previous next s with
  | nil =>
    constructor
    · intro m m' hs hpack
      cases hpack
      exact ⟨next, s, rfl, hs, ⟨rfl, rfl⟩⟩
    · intro m m' hs hpack
      cases hpack
    · intro m hs hpack
      cases hpack
  | cons record records ih =>
    have hexec : ∀ {result : Except ErrorCode Bool} {s' : ReadState ν},
        exec (srv.put (recordBlock previous record)) s = (result, s') →
        exec (srv.serveRecords previous next (record :: records)) s =
          if result = .ok true then
            exec (srv.serveRecords (some record.timestamp) (satAdd record.number 1) records) s'
          else (.ok (false, next), s') := by
      intro result s' hrun
      rw [serveRecords, exec_get_bind, hrun]
      rcases result with e | fitted
      · rfl
      · cases fitted
        · rfl
        · rfl
    constructor
    · intro m m' hs hpack
      cases puts srv hs hpack with
      | packed s' _ hfits hrun hs' hkept hpack =>
        obtain ⟨last, s'', hrest, hs'', hkept'⟩ := (ih _ _ s').finished _ _ hs' hpack
        refine ⟨last, s'', ?_, hs'', ⟨hkept'.cursor_eq.trans hkept.cursor_eq,
          hkept'.versions_eq.trans hkept.versions_eq⟩⟩
        rw [hexec hrun, if_pos rfl, hrest]
    · intro m m' hs hpack
      cases puts srv hs hpack with
      | packed s' _ hfits hrun hs' hkept hpack =>
        obtain ⟨last, s'', hrest, hs''⟩ := (ih _ _ s').full _ _ hs' hpack
        refine ⟨last, s'', ?_, hs''⟩
        rw [hexec hrun, if_pos rfl, hrest]
      | full s' hrun hs' hkept =>
        refine ⟨next, s', ?_, hs'⟩
        rw [hexec hrun, if_neg (fun h => nomatch h)]
    · intro m hs hpack
      cases puts srv hs hpack with
      | packed s' _ hfits hrun hs' hkept hpack =>
        rw [hexec hrun, if_pos rfl]
        exact (ih _ _ s').fault _ hs' hpack
      | fault e w' hfits hbad hwrite hrun =>
        refine .inr ⟨next, _, ?_, broken_of_fault hs hwrite fun he => hfits.2.1 (by rw [hbad, he])⟩
        rw [hexec hrun, if_neg (fun h => nomatch h)]

lemma serveEventPath_feeds (buf : Slice) (path : EventPath) (since : UInt64) (s : ReadState ν) :
    Feeds srv buf (srv.serveEventPath h path ctx since) s (srv.eventPathPieces h ctx path since) := by
  unfold serveEventPath eventPathPieces
  rcases srv.eventRefusal h path with _ | status
  · rcases srv.events with _ | matching
    · exact srv.serveRecords_feeds none since [] s
    · exact srv.serveRecords_feeds none _ _ s
  · have hexec : ∀ {fitted : Bool} {s' : ReadState ν},
        exec (srv.put (.event (.status ⟨path, .new status⟩))) s = (.ok fitted, s') →
        exec (do
          let fitted ← srv.writeEventStatus path status
          pure (fitted, since)) s = (.ok (fitted, since), s') := fun hrun =>
      exec_bind_ok hrun _
    constructor
    · intro m m' hs hpack
      cases puts srv hs hpack with
      | packed s' _ hfits hrun hs' hkept hpack =>
        cases hpack
        exact ⟨since, s', hexec hrun, hs', hkept⟩
    · intro m m' hs hpack
      cases puts srv hs hpack with
      | packed s' _ hfits hrun hs' hkept hpack => cases hpack
      | full s' hrun hs' hkept => exact ⟨since, s', hexec hrun, hs'⟩
    · intro m hs hpack
      cases puts srv hs hpack with
      | packed s' _ hfits hrun hs' hkept hpack => cases hpack
      | fault e w' hfits hbad hwrite hrun =>
        refine .inl fun a hresult => ?_
        rw [exec_bind_error (show exec (srv.writeEventStatus path status) s = _ from hrun)]
          at hresult
        cases hresult

/-- The end of the array of events, if there is one, and of the message. -/
def closeEvents (progress : EventProgress) : Serving ν (List UInt8 × ReadOutcome) := do
  Serving.writing (whenTrue progress.opened endContainer)
  closeReport false progress

/-- The array of events and the message are closed exactly if there is room for both, with something
said where there is more. -/
lemma closeEvents_isOk_iff (progress : EventProgress)
    (hs : Metered buf s (if progress.opened then inReports else inMessage) m) :
    (exec (closeEvents progress) s).1.isOk = true ↔ (progress.truncated = true → 0 < m.reports) ∧
      (if progress.opened then 1 else 0) + tailSize true progress.truncated ≤ m.room := by
  have hend : Costs (whenTrue progress.opened endContainer)
      (if progress.opened then inReports else inMessage) inMessage (if progress.opened then 1 else 0) := by
    cases progress.opened with
    | false => exact costs_nothing inMessage
    | true => exact ⟨[0x18], rfl, follows_endContainer_of (n := inReports) (by decide)⟩
  obtain ⟨hfits, hfull⟩ := writing_metered hend hs
  unfold closeEvents
  generalize (if progress.opened then 1 else 0) = octets at hfits hfull ⊢
  by_cases hle : octets ≤ m.room
  · obtain ⟨s₁, hrun, hs₁, -⟩ := hfits hle
    rw [exec_bind_ok hrun, closeReport_isOk_iff false progress hs₁]
    show _ ∧ tailSize true progress.truncated ≤ m.room - octets ↔ _
    constructor
    · rintro ⟨hsome, hroom⟩
      exact ⟨hsome, by omega⟩
    · rintro ⟨hsome, hroom⟩
      exact ⟨hsome, by omega⟩
  · obtain ⟨s₁, hrun⟩ := hfull hle
    rw [exec_bind_error hrun]
    refine iff_of_false (fun h => ?_) fun h => hle (by omega)
    cases h

/-- The array of events is opened where there is room for its start. -/
lemma openEvents_metered (limit : ℕ) (opened : Bool)
    (hs : Metered buf s (if opened then inReports else inMessage) m) :
    (∃ m' s', pack limit buf m (if opened then [] else [.frame 2]) = .finished m' ∧
      exec (openEvents opened) s = (.ok (), s') ∧ Metered buf s' inReports m' ∧ Kept s s') ∨
    (pack limit buf m (if opened then [] else [.frame 2]) = .fault ∧
      ∀ a, (exec (openEvents opened) s).1 ≠ .ok a) := by
  cases opened with
  | true => exact .inl ⟨m, s, rfl, rfl, hs, ⟨rfl, rfl⟩⟩
  | false =>
    have hopen : Costs (start (.context 2) .array) inMessage inReports 2 :=
      ⟨_, rfl, follows_start_ok (by decide) rfl .array⟩
    obtain ⟨hfits, hfull⟩ := writing_metered hopen hs
    by_cases hle : 2 ≤ m.room
    · obtain ⟨s', hrun, hs', hkept⟩ := hfits hle
      exact .inl ⟨_, s', if_pos hle, hrun, hs', hkept⟩
    · obtain ⟨s', hrun⟩ := hfull hle
      refine .inr ⟨if_neg hle, fun a hresult => ?_⟩
      have herror : (exec (openEvents false) s).1 = .error .bufferTooSmall := congrArg Prod.fst hrun
      rw [herror] at hresult
      cases hresult

/-- How serving an event path ends. -/
inductive Turns (srv : Server η ν) (buf : Slice) (x : Serving ν (Bool × UInt64)) (s : ReadState ν)
    (m : Meter) (pieces : List Piece) : Prop
  | finished (m' : Meter) (next : UInt64) (s' : ReadState ν)
      (hpack : pack srv.limit buf m pieces = .finished m') (hrun : exec x s = (.ok (true, next), s'))
      (hs' : Metered buf s' inReports m')
  | full (m' : Meter) (next : UInt64) (s' : ReadState ν)
      (hpack : pack srv.limit buf m pieces = .full m') (hrun : exec x s = (.ok (false, next), s'))
      (hs' : Metered buf s' inReports m')
  | failed (hpack : pack srv.limit buf m pieces = .fault) (hrun : ∀ a, (exec x s).1 ≠ .ok a)
  | broken (next : UInt64) (s' : ReadState ν) (hpack : pack srv.limit buf m pieces = .fault)
      (hrun : exec x s = (.ok (false, next), s')) (hs' : Broken s')

/-- One event path, with the start of the array in front of the first. -/
lemma serveEventAt_turns (index : ℕ) (opened : Bool) (path : EventPath)
    (hs : Metered buf s (if opened then inReports else inMessage) m) :
    Turns srv buf (srv.serveEventAt h ctx index opened path) s m
      ((if opened then [] else [.frame 2]) ++ srv.eventPathPieces h ctx path s.cursor.eventFrom) := by
  rcases openEvents_metered srv.limit opened hs with ⟨m₁, s₁, hpack₁, hopen, hs₁, hkept₁⟩ |
    ⟨hpack₁, hopen⟩
  swap
  · refine .failed (pack_append_of_fault hpack₁ _) fun a hresult => ?_
    obtain ⟨u, s₁, hrun, -⟩ := exec_bind_eq_ok.mp (Prod.ext hresult rfl)
    exact hopen u (congrArg Prod.fst hrun)
  have hpath := srv.serveEventPath_feeds h ctx buf path s.cursor.eventFrom
    { s₁ with cursor := { s₁.cursor with eventPath := index } }
  have hs₂ : Metered buf { s₁ with cursor := { s₁.cursor with eventPath := index } } inReports m₁ :=
    hs₁.congr rfl
  have hexec : exec (srv.serveEventAt h ctx index opened path) s = exec (do
      let served ← srv.serveEventPath h path ctx s.cursor.eventFrom
      Serving.moveCursor fun c => { c with eventFrom := served.2 }
      pure served) { s₁ with cursor := { s₁.cursor with eventPath := index } } := by
    unfold serveEventAt
    rw [exec_bind_ok hopen, exec_bind_ok (Serving.exec_moveCursor _ s₁), exec_get_bind]
    show exec (srv.serveEventPath h path ctx s₁.cursor.eventFrom >>= _) _ = _
    rw [hkept₁.cursor_eq]
  have hserved : ∀ {served : Bool × UInt64} {s' : ReadState ν},
      exec (srv.serveEventPath h path ctx s.cursor.eventFrom)
        { s₁ with cursor := { s₁.cursor with eventPath := index } } = (.ok served, s') →
      exec (srv.serveEventAt h ctx index opened path) s =
        (.ok served, { s' with cursor := { s'.cursor with eventFrom := served.2 } }) := by
    intro served s' hrun
    rw [hexec, exec_bind_ok hrun, exec_bind_ok (Serving.exec_moveCursor _ s')]
    rfl
  rcases hpack : pack srv.limit buf m₁ (srv.eventPathPieces h ctx path s.cursor.eventFrom) with
    m₂ | m₂ | _
  · obtain ⟨next, s₃, hrun, hs₃, -⟩ := hpath.finished m₁ m₂ hs₂ hpack
    exact .finished m₂ next _ ((pack_append_of_finished hpack₁ _).trans hpack) (hserved hrun)
      (hs₃.congr rfl)
  · obtain ⟨next, s₃, hrun, hs₃⟩ := hpath.full m₁ m₂ hs₂ hpack
    exact .full m₂ next _ ((pack_append_of_finished hpack₁ _).trans hpack) (hserved hrun)
      (hs₃.congr rfl)
  · rcases hpath.fault m₁ hs₂ hpack with hfailed | ⟨next, s₃, hrun, hs₃⟩
    · refine .failed ((pack_append_of_finished hpack₁ _).trans hpack) fun a hresult => ?_
      rw [hexec] at hresult
      obtain ⟨served, s₃, hrun, -⟩ := exec_bind_eq_ok.mp (Prod.ext hresult rfl)
      exact hfailed served (congrArg Prod.fst hrun)
    · exact .broken next _ ((pack_append_of_finished hpack₁ _).trans hpack) (hserved hrun)
        ⟨hs₃.sound, hs₃.nesting_eq, hs₃.startedInside_eq⟩

lemma exec_serveEvents_cons (index : ℕ) (progress : EventProgress) (path : EventPath)
    (events : List (Except ErrorCode EventPath)) (s : ReadState ν) :
    exec (srv.serveEvents h ctx index progress (.ok path :: events)) s =
      exec (if index < s.cursor.eventPath then srv.serveEvents h ctx (index + 1) progress events
        else do
          let served ← srv.serveEventAt h ctx index progress.opened path
          let through := max progress.through served.2
          if served.1 then do
            Serving.moveCursor fun c => { c with eventPath := index + 1, eventFrom := 0 }
            srv.serveEvents h ctx (index + 1) { progress with opened := true, through := through }
              events
          else pure { opened := true, truncated := true, through := through }) s := by
  rw [serveEvents, exec_bind_ok (exec_ofResult _ s), exec_get_bind]

/-- The rest of a message from its event paths on is built exactly if what they ask for can be closed
behind. -/
lemma serveEvents_isOk_iff (index : ℕ) (progress : EventProgress)
    (events : List (Except ErrorCode EventPath))
    (hs : Metered buf s (if progress.opened then inReports else inMessage) m)
    (hmore : progress.truncated = false) :
    (exec (srv.serveEvents h ctx index progress events >>= closeEvents) s).1.isOk = true ↔
      (pack srv.limit buf m (srv.eventPieces h ctx index s.cursor.eventPath s.cursor.eventFrom
        progress.opened events)).Settles := by
  induction events generalizing index progress s m with
  | nil =>
    rw [exec_bind_ok (show exec (srv.serveEvents h ctx index progress []) s = (.ok progress, s)
      from rfl), closeEvents_isOk_iff progress hs, hmore]
    unfold eventPieces
    cases progress.opened with
    | false =>
      show _ ∧ 0 + tailSize true false ≤ m.room ↔ lastTail ≤ m.room
      simp [tailSize]
    | true =>
      show _ ↔ (pack srv.limit buf m [.frame 1]).Settles
      rw [pack_frame]
      by_cases hle : 1 ≤ m.room
      · rw [if_pos hle]
        show _ ∧ 1 + tailSize true false ≤ m.room ↔ lastTail ≤ m.room - 1
        simp only [tailSize, lastTail]
        simp only [Bool.false_eq_true, false_implies, true_and, if_true, if_false]
        omega
      · rw [if_neg hle]
        show _ ∧ 1 + tailSize true false ≤ m.room ↔ False
        exact iff_of_false (fun h => hle (by omega)) id
  | cons path events ih =>
    cases path with
    | error e =>
      refine iff_of_false (fun h => ?_) id
      cases h
    | ok path =>
      rw [exec_bind, srv.exec_serveEvents_cons h ctx index progress path events s, ← exec_bind]
      rw [eventPieces]
      by_cases hskip : index < s.cursor.eventPath
      · rw [if_pos hskip, if_pos hskip]
        exact ih (index + 1) progress hs hmore
      rw [if_neg hskip, if_neg hskip, ← List.append_assoc]
      cases srv.serveEventAt_turns h ctx index progress.opened path hs with
      | finished m' next s' hpack hrun hs' =>
        rw [exec_bind, exec_bind_ok hrun, ← exec_bind, pack_append_of_finished hpack]
        have hnext := ih (index + 1)
          { progress with opened := true, through := max progress.through next }
          (s := { s' with cursor := { s'.cursor with eventPath := index + 1, eventFrom := 0 } })
          (m := m') (hs'.congr rfl) hmore
        exact hnext
      | full m' next s' hpack hrun hs' =>
        rw [exec_bind, exec_bind_ok hrun, ← exec_bind, pack_append_of_full hpack]
        have hclose := closeEvents_isOk_iff ⟨true, true, max progress.through next⟩ hs'
        refine hclose.trans ⟨fun hok => ⟨hok.1 rfl, hok.2⟩, fun hok => ⟨fun _ => hok.1, hok.2⟩⟩
      | failed hpack hrun =>
        rw [pack_append_of_fault hpack]
        refine iff_of_false (fun hok => ?_) id
        obtain ⟨a, hresult⟩ := exists_of_isOk hok
        obtain ⟨_, s₁, hfirst, -⟩ := exec_bind_eq_ok.mp (Prod.ext hresult rfl)
        obtain ⟨served, s₂, hserved, -⟩ := exec_bind_eq_ok.mp hfirst
        exact hrun served (congrArg Prod.fst hserved)
      | broken next s' hpack hrun hs' =>
        rw [exec_bind, exec_bind_ok hrun, ← exec_bind, pack_append_of_fault hpack]
        refine iff_of_false (fun hok => ?_) id
        obtain ⟨a, hresult⟩ := exists_of_isOk hok
        exact hs'.close ⟨true, true, max progress.through next⟩ rfl rfl a hresult

/-! ## Whole messages -/

/-- A server that may not pack any block packs none for attributes. -/
lemma steady_unreported (hlimit : srv.limit = 0) : Steady srv fun s => s.packed.responses = 0 where
  put := by
    intro b _ s hs fitted s' hrun
    rw [srv.put_blocked hlimit] at hrun
    cases hrun
    exact hs
  cursor := fun _ _ _ _ hs => hs
  versions := fun _ _ hs => hs

/-- What is left of a message behind its head. -/
lemma exec_serveChunkWithEvents (paths : List (Except ErrorCode AttributePath))
    (events : List (Except ErrorCode EventPath)) (subscriptionId : Option UInt32) (buf : Slice)
    {s s₁ : ReadState ν} (hhead : exec (Serving.writing (reportHead subscriptionId))
      { s with packed := ⟨TlvWriter.new buf, 0, []⟩ } = (.ok (), s₁)) :
    (exec (srv.serveChunkWithEvents h paths events ctx subscriptionId scratch buf) s).1 =
      (exec (do
        let going ← (do
          let stopped ← srv.servePaths h ctx scratch s₁.cursor.path 0 paths
          pure (!stopped))
        if going then do
          Serving.writing endContainer
          srv.serveEvents h ctx 0 {} events >>= closeEvents
        else closeReport true { truncated := true }) s₁).1 := by
  unfold serveChunkWithEvents serveReports serveEventHalf closeEvents
  simp only [bind_assoc, pure_bind]
  rw [exec_modify_bind, exec_bind_ok hhead, exec_get_bind]
  rcases hpaths : exec (srv.servePaths h ctx scratch s₁.cursor.path 0 paths) s₁ with ⟨e | stopped, s₂⟩
  · rw [exec_bind_error hpaths, exec_bind_error hpaths]
  · rw [exec_bind_ok hpaths, exec_bind_ok hpaths]
    cases stopped with
    | true => rfl
    | false => simp only [Bool.false_eq_true, Bool.not_false, if_false, if_true, bind_assoc, pure_bind]

/-- **A message is built exactly if what it packs can be closed.** -/
theorem serveChunkWithEvents_isOk_iff (srv : Server η ν) (h : η)
    (paths : List (Except ErrorCode AttributePath)) (events : List (Except ErrorCode EventPath))
    (ctx : InteractionContext) (subscriptionId : Option UInt32) (scratch buf : Slice) (s : ReadState ν)
    (hfirst : FirstFits buf buf.octets.length
      (srv.outstanding h ctx scratch paths events subscriptionId s.cursor s.versions)) :
    (exec (srv.serveChunkWithEvents h paths events ctx subscriptionId scratch buf) s).1.isOk = true ↔
      (pack srv.limit buf ⟨buf.octets.length, 0⟩
        (srv.outstanding h ctx scratch paths events subscriptionId s.cursor s.versions)).Settles := by
  have hs : Metered buf { s with packed := ⟨TlvWriter.new buf, 0, []⟩ } ⟨[], false⟩
      ⟨buf.octets.length, 0⟩ := .new buf
  obtain ⟨hle, hfirst'⟩ := hfirst
  obtain ⟨s₁, hrun₁, hs₁, hkept₁⟩ := (writing_metered (costs_reportHead subscriptionId) hs).1 hle
  have hcursor₁ : s₁.cursor = s.cursor := hkept₁.cursor_eq
  have hversions₁ : s₁.versions = s.versions := hkept₁.versions_eq
  rw [srv.exec_serveChunkWithEvents h ctx scratch paths events subscriptionId buf hrun₁, hcursor₁]
  unfold outstanding
  rw [pack_frame, if_pos hle]
  have hpaths : Fills srv buf _ s₁ _ :=
    srv.servePaths_fills h ctx scratch s.cursor.path 0 paths s₁
  rw [hcursor₁, hversions₁] at hpaths
  rcases hpack : pack srv.limit buf ⟨buf.octets.length - headSize subscriptionId, 0⟩
    (srv.attributePieces h ctx scratch s.cursor.path 0 s.cursor.expansion s.cursor.list s.versions
      paths).pieces with m₂ | m₂ | _
  · -- the attribute paths are served to the end, and the events follow
    obtain ⟨s₂, hrun₂, hs₂, hleaves⟩ := hpaths.finished _ m₂ hs₁ hpack
    rw [pack_append_of_finished hpack, exec_bind_ok hrun₂, if_pos rfl, pack_frame]
    have hclose : Costs endContainer inReports inMessage 1 :=
      ⟨[0x18], rfl, follows_endContainer_of (n := inReports) (by decide)⟩
    by_cases hroom : 1 ≤ m₂.room
    · obtain ⟨s₃, hrun₃, hs₃, hkept₃⟩ := (writing_metered hclose hs₂).1 hroom
      rw [exec_bind_ok hrun₃, if_pos hroom]
      have hevents := srv.serveEvents_isOk_iff h ctx 0 {} events hs₃ rfl
      rw [hkept₃.cursor_eq, hleaves.eventPath_eq, hleaves.eventFrom_eq, hcursor₁] at hevents
      exact hevents
    · obtain ⟨s₃, hrun₃⟩ := (writing_metered hclose hs₂).2 hroom
      rw [exec_bind_error hrun₃, if_neg hroom]
      refine iff_of_false (fun hok => ?_) id
      cases hok
  · rw [pack_append_of_full hpack]
    by_cases hsome : 0 < m₂.reports
    · -- the message is full with a block in it
      obtain ⟨s₂, hrun₂, hs₂⟩ := hpaths.full _ m₂ hs₁ hpack hsome
      rw [exec_bind_ok hrun₂, if_neg (fun h => nomatch h),
        closeReport_isOk_iff true { truncated := true } hs₂]
      exact ⟨fun hok => ⟨hok.1 rfl, hok.2⟩, fun hok => ⟨fun _ => hok.1, hok.2⟩⟩
    · -- no block is packed, so none may be
      have hlimit : srv.limit = 0 := by
        by_contra hlimit
        exact hsome (some_of_full (Nat.pos_of_ne_zero hlimit) hfirst' (pack_append_of_full hpack _))
      refine iff_of_false (fun hok => ?_) fun hok => hsome hok.1
      obtain ⟨a, hresult⟩ := exists_of_isOk hok
      obtain ⟨going, s₂, hrun₂, hrest⟩ := exec_bind_eq_ok.mp (Prod.ext hresult rfl)
      cases going with
      | true => exact hpaths.blocked hlimit _ m₂ hs₁ hpack (congrArg Prod.fst hrun₂)
      | false =>
        obtain ⟨stopped, s₃, hrun₃, hpure⟩ := exec_bind_eq_ok.mp hrun₂
        obtain rfl : s₃ = s₂ := (Prod.mk.inj hpure).2
        have hnone := (srv.steady_unreported hlimit).servePaths h ctx scratch s.cursor.path 0 paths
          s₁ hs₁.reports_eq stopped s₃ hrun₃
        obtain ⟨-, hsaid, -⟩ := closeReport_of_ok hrest
        exact hsaid rfl hnone
  · rw [pack_append_of_fault hpack]
    refine iff_of_false (fun hok => ?_) id
    obtain ⟨a, hresult⟩ := exists_of_isOk hok
    obtain ⟨going, s₂, hrun₂, -⟩ := exec_bind_eq_ok.mp (Prod.ext hresult rfl)
    exact hpaths.fault _ hs₁ hpack going (congrArg Prod.fst hrun₂)

end Server

/-! ## Two attributes of a lamp -/

namespace Lamp

/-- The paths of both attributes. -/
def bothAttributes : List (Except ErrorCode AttributePath) := [.ok (.ofIds 1 6 0), .ok (.ofIds 1 6 1)]

lemma room_none : 0 < 2 ^ 63 := by decide

lemma room_56 : 56 < 2 ^ 63 := by decide

/-- A read that begins. -/
def reading : ReadState (DataVersions 4) := ⟨⟨TlvWriter.new (room 0 room_none), 0, []⟩, .start, .new 1⟩

/-- A message for both attributes into a buffer. -/
def readBoth (buf : Slice) : Except ErrorCode (List UInt8 × ReadOutcome) :=
  (exec ((server 5).serveChunkWithEvents {} bothAttributes [] {} none (room 64 room_64) buf) reading).1

/-- What there is to be sent for both attributes. -/
def bothPieces : List Piece :=
  (server 5).outstanding {} {} (room 64 room_64) bothAttributes [] none .start (.new 1)

/-- 64 octets hold both blocks and what is around them. -/
theorem serveChunkWithEvents_isOk_iff_64 : (readBoth (room 64 room_64)).isOk = true :=
  (Server.serveChunkWithEvents_isOk_iff (server 5) {} bothAttributes [] {} none (room 64 room_64)
    (room 64 room_64) reading (by decide +kernel)).mpr (by decide +kernel)

/-- 56 octets hold the first block with all that can be around it, and the second block, but not what
is behind them. -/
theorem not_isOk_readBoth_56 : FirstFits (room 56 room_56) 56 bothPieces ∧
      readBoth (room 56 room_56) = .error .bufferTooSmall := by
  constructor
  · decide +kernel
  · decide +kernel

end Lamp

end MatterKit.Im
