import MatterKit.Im.Server

/-!
# Subscriptions

`im/subscription.rs`, and the report a server makes for a subscription. What has changed since the
last report is kept as a short list of paths (`DirtySet`); when it overflows, or when nothing is known
of what changed, the next report is over everything that is subscribed. The cursor of a report that
takes several messages is an index into whichever list is being reported.
-/

namespace MatterKit.Im

open Lib Machine Tlv Dm

/-! ## What has changed -/

/-- Source: `DirtySet`. -/
structure DirtySet (N : ℕ) where
  paths : BoundedVec AttributePath N
  overflowed : Bool

namespace DirtySet

variable {N : ℕ}

/-- Source: `DirtySet::new`. -/
def new : DirtySet N := ⟨.empty, false⟩

/-- Source: `DirtySet::insert`. -/
def insert (d : DirtySet N) (path : AttributePath) : DirtySet N :=
  if d.overflowed = true ∨ path ∈ d.paths.toList then d
  else
    match d.paths.push path with
    | some paths => { d with paths := paths }
    | none => ⟨.empty, true⟩

/-- Source: `DirtySet::is_dirty`. -/
def isDirty (d : DirtySet N) : Bool := d.overflowed || !d.paths.toList.isEmpty

/-- Source: `DirtySet::must_reprime`. -/
def mustReprime (d : DirtySet N) : Bool := d.overflowed

/-- Source: `DirtySet::clear`. -/
def clear (_ : DirtySet N) : DirtySet N := ⟨.empty, false⟩

/-- Source: `DirtySet::reprime`. -/
def reprime (_ : DirtySet N) : DirtySet N := ⟨.empty, true⟩

end DirtySet

/-- Source: `DIRTY_PATHS`. -/
def dirtyPaths : ℕ := 8

/-! ## A subscription -/

/-- Source: `Subscription`. -/
structure Subscription (P : ℕ) where
  id : UInt32
  session : Option SessionId
  fabricIndex : Option FabricIndex
  peerNodeId : Option NodeId
  fabricFiltered : Bool
  minIntervalS : UInt16
  maxIntervalS : UInt16
  paths : BoundedVec AttributePath P
  lastReport : Instant
  eventPaths : BoundedVec EventPath P
  dirty : DirtySet dirtyPaths
  nextEventNumber : UInt64
  urgent : Bool
  reportedThrough : UInt64
  cursor : ReadCursor

/-- Source: `ReportReason`. -/
inductive ReportReason
  | data
  | keepAlive

/-- Whether a subscribed path takes in another.
Source: `covers`. -/
def covers (subscribed path : AttributePath) : Bool :=
  subscribed.endpoint.all (fun wanted => path.endpoint == some wanted) &&
    subscribed.cluster.all (fun wanted => path.cluster == some wanted) &&
    subscribed.attributeId.all fun wanted => path.attributeId == some wanted

/-- The part of a subscribed path in a cluster instance.
Source: `intersect_cluster`. -/
def intersectCluster (endpoint : EndpointId) (cluster : ClusterId) (subscribed : AttributePath) :
    Option AttributePath :=
  if subscribed.endpoint.any (· != endpoint) then none
  else if subscribed.cluster.any (· != cluster) then none
  else some { subscribed with endpoint := some endpoint, cluster := some cluster }

namespace Subscription

variable {P : ℕ}

/-- Source: `Subscription::reprime`. -/
def reprime (s : Subscription P) : Subscription P :=
  { s with dirty := s.dirty.reprime, cursor := .start }

/-- The paths a report is over: everything subscribed, or what has changed.
Source: `Subscription::report_source`, `let source`. -/
def reportSource (s : Subscription P) : List AttributePath :=
  if s.dirty.mustReprime then s.paths.toList else s.dirty.paths.toList

/-- Source: `Subscription::has_pending`. -/
def hasPending (s : Subscription P) : Bool := s.dirty.isDirty || s.urgent

/-- Source: `Subscription::reported`. -/
def reported (s : Subscription P) (now : Instant) : Subscription P :=
  { s with
    lastReport := now
    dirty := s.dirty.clear
    cursor := .start
    urgent := false
    nextEventNumber := max s.nextEventNumber s.reportedThrough
    reportedThrough := 0 }

/-- Source: `Subscription::note_reported_through`. -/
def noteReportedThrough (s : Subscription P) (through : UInt64) : Subscription P :=
  { s with reportedThrough := max s.reportedThrough through }

/-- Source: `Subscription::covers`. -/
def covers (s : Subscription P) (path : AttributePath) : Bool :=
  s.paths.toList.any fun subscribed => Im.covers subscribed path

/-- Source: `Subscription::note_change`. -/
def noteChange (s : Subscription P) (path : AttributePath) : Subscription P :=
  if s.covers path then { s with dirty := s.dirty.insert path } else s

/-- Whether an event is asked for, and whether urgently.
Source: `Subscription::event_urgency`. -/
def eventUrgency (s : Subscription P) (endpoint : EndpointId) (cluster : ClusterId)
    (event : EventId) : Option Bool :=
  s.eventPaths.toList.foldl
    (fun urgent path =>
      if path.endpoint.all (· == endpoint) && path.cluster.all (· == cluster) &&
          path.event.all (· == event) then
        some (urgent.getD false || path.isUrgent.getD false)
      else urgent)
    none

/-- Source: `Subscription::note_event`. -/
def noteEvent (s : Subscription P) (endpoint : EndpointId) (cluster : ClusterId)
    (event : EventId) : Subscription P :=
  if s.eventUrgency endpoint cluster event = some true then { s with urgent := true } else s

/-- Source: `SubscriptionTable::note_cluster_change`, the body of its loop. -/
def noteClusterChange (s : Subscription P) (endpoint : EndpointId) (cluster : ClusterId) :
    Subscription P :=
  let overlaps := s.paths.toList.filterMap (intersectCluster endpoint cluster)
  { s with dirty := overlaps.foldl DirtySet.insert s.dirty }

end Subscription

/-! ## Reports -/

/-- What a report of a subscription leaves: its result, the subscription and the versions after it,
and the blocks of its message. -/
structure Report (P : ℕ) (ν : Type) where
  result : Except ErrorCode (List UInt8 × ReadOutcome)
  subscription : Subscription P
  versions : ν
  blocks : List Block

namespace Server

variable {η ν : Type} {P : ℕ}

/-- Source: `Server::empty_report`, what it writes. -/
def emptyReportBody (subscriptionId : UInt32) : Writing Unit := do
  start .anonymous .struct
  unsigned (.context 0) subscriptionId.toUInt64
  Tlv.bool (.context 4) true
  unsigned (.context revisionTag) interactionModelRevision.toUInt64
  endContainer

/-- Source: `Server::empty_report`. -/
def emptyReport (subscriptionId : UInt32) (buf : Slice) :
    Except ErrorCode (List UInt8 × ReadOutcome) :=
  match exec (emptyReportBody subscriptionId) (TlvWriter.new buf) with
  | (.error e, _) => .error e
  | (.ok (), w) => do
    let bytes ← w.finish
    pure (bytes, ⟨0, false, 0⟩)

/-- The cursor a report starts from: a series that is over starts again, and a series that starts
takes up the events at the bookmark.
Source: `Server::report_chunk`, `if cursor.is_done()` and `if *cursor == ReadCursor::START`. -/
def reportCursor (cursor : ReadCursor) (bookmark : UInt64) : ReadCursor :=
  let cursor := if cursor.done then .start else cursor
  if cursor = .start then { cursor with eventFrom := bookmark } else cursor

/-- One message of a subscription's report.
Source: `Server::report_chunk`. -/
def reportChunk (srv : Server η ν) (h : η) (v : ν) (sub : Subscription P) (reason : ReportReason)
    (ctx : InteractionContext) (scratch buf : Slice) : Report P ν :=
  match reason with
  | .keepAlive =>
    ⟨emptyReport sub.id buf, { sub with cursor := { sub.cursor with done := true } }, v, []⟩
  | .data =>
    let (result, s) := exec
      (srv.serveChunkWithEvents h (sub.reportSource.map .ok) (sub.eventPaths.toList.map .ok) ctx
        (some sub.id) scratch buf)
      { packed := ⟨TlvWriter.new buf, 0, []⟩
        cursor := reportCursor sub.cursor sub.nextEventNumber
        versions := v }
    let sub := { sub with cursor := s.cursor }
    match result with
    | .ok served =>
      ⟨.ok served, sub.noteReportedThrough served.2.eventsThrough, s.versions, s.packed.blocks⟩
    | .error e => ⟨.error e, sub, s.versions, s.packed.blocks⟩

/-- A message that is built is a message of a read, over the report's source and from its cursor. -/
lemma reportChunk_of_ok {srv : Server η ν} {h : η} {v : ν} {sub : Subscription P}
    {ctx : InteractionContext} {scratch buf : Slice}
    (hok : (srv.reportChunk h v sub .data ctx scratch buf).result.isOk = true) :
    ∃ served s, exec (srv.serveChunkWithEvents h (sub.reportSource.map .ok)
        (sub.eventPaths.toList.map .ok) ctx (some sub.id) scratch buf)
        ⟨⟨TlvWriter.new buf, 0, []⟩, reportCursor sub.cursor sub.nextEventNumber, v⟩ =
          (.ok served, s) ∧
      srv.reportChunk h v sub .data ctx scratch buf =
        ⟨.ok served, { sub with cursor := s.cursor }.noteReportedThrough served.2.eventsThrough,
          s.versions, s.packed.blocks⟩ := by
  unfold reportChunk at hok ⊢
  simp only at hok ⊢
  generalize exec (srv.serveChunkWithEvents h (sub.reportSource.map .ok)
    (sub.eventPaths.toList.map .ok) ctx (some sub.id) scratch buf)
    ⟨⟨TlvWriter.new buf, 0, []⟩, reportCursor sub.cursor sub.nextEventNumber, v⟩ = run at hok ⊢
  rcases run with ⟨e | served, s⟩
  · cases hok
  · exact ⟨served, s, rfl, rfl⟩

lemma reportCursor_eventPath {cursor : ReadCursor} (h : cursor.done = false) (bookmark : UInt64) :
    (reportCursor cursor bookmark).eventPath = cursor.eventPath ∧
      (reportCursor cursor bookmark).done = false := by
  unfold reportCursor
  rw [h]
  simp only [Bool.false_eq_true, if_false]
  split_ifs
  · exact ⟨rfl, h⟩
  · exact ⟨rfl, h⟩

/-- A series under way is taken up where it stands. -/
lemma reportCursor_of_ne {cursor : ReadCursor} (h : cursor.done = false) (hne : cursor ≠ .start)
    (bookmark : UInt64) : reportCursor cursor bookmark = cursor := by
  unfold reportCursor
  rw [h]
  simp only [Bool.false_eq_true, if_false]
  rw [if_neg hne]

end Server

/-! ## The table -/

/-- What a subscription table is dimensioned for.
Source: `config.rs`, `Config::FABRICS` and `Config::SUBSCRIPTIONS_PER_FABRIC`. -/
structure SubscriptionConfig where
  fabrics : ℕ
  perFabric : ℕ

/-- Source: `SubscriptionTable`. -/
structure SubscriptionTable (N P : ℕ) where
  subscriptions : BoundedVec (Subscription P) N
  lastId : UInt32

/-- Source: `SubscribeError`. -/
inductive SubscribeError
  | noPaths
  | tooManyPaths
  | full
  | fabricQuota
  deriving DecidableEq

/-- Source: `NewSubscription`. -/
structure NewSubscription where
  session : Option SessionId
  fabricIndex : Option FabricIndex
  peerNodeId : Option NodeId
  fabricFiltered : Bool
  keepSubscriptions : Bool
  minIntervalS : UInt16
  maxIntervalS : UInt16
  paths : List AttributePath
  eventPaths : List EventPath
  minEventNumber : UInt64

namespace SubscriptionTable

variable {N P : ℕ}

/-- Source: `SubscriptionTable::new`. -/
def new : SubscriptionTable N P := ⟨.empty, 0⟩

/-- Source: `SubscriptionTable::find`. -/
def find (t : SubscriptionTable N P) (id : UInt32) : Option (Subscription P) :=
  t.subscriptions.toList.find? fun s => s.id == id

/-- Changes the subscription with an id.
Source: `SubscriptionTable::find_mut`. -/
def modifyId (t : SubscriptionTable N P) (id : UInt32) (f : Subscription P → Subscription P) :
    SubscriptionTable N P :=
  { t with subscriptions := t.subscriptions.update (fun s => s.id == id) f }

/-- Changes every subscription.
Source: `for subscription in &mut self.subscriptions`. -/
def modifyAll (t : SubscriptionTable N P) (f : Subscription P → Subscription P) :
    SubscriptionTable N P :=
  { t with subscriptions := ⟨t.subscriptions.toList.map f, by
      rw [List.length_map]
      exact t.subscriptions.length_le⟩ }

/-- Source: `SubscriptionTable::remove`. -/
def remove (t : SubscriptionTable N P) (id : UInt32) : SubscriptionTable N P :=
  { t with subscriptions := ⟨t.subscriptions.toList.eraseP fun s => s.id == id,
      (List.length_eraseP_le).trans t.subscriptions.length_le⟩ }

/-- Source: `SubscriptionTable::remove_for_session`. -/
def removeForSession (t : SubscriptionTable N P) (session : Option SessionId) :
    SubscriptionTable N P :=
  { t with subscriptions := t.subscriptions.retain fun s => s.session != session }

/-- Source: `SubscriptionTable::remove_for_fabric`. -/
def removeForFabric (t : SubscriptionTable N P) (fabric : FabricIndex) : SubscriptionTable N P :=
  { t with subscriptions := t.subscriptions.retain fun s => s.fabricIndex != some fabric }

/-- Source: `SubscriptionTable::note_event`. -/
def noteEvent (t : SubscriptionTable N P) (endpoint : EndpointId) (cluster : ClusterId)
    (event : EventId) : SubscriptionTable N P :=
  t.modifyAll fun s => s.noteEvent endpoint cluster event

/-- Source: `SubscriptionTable::note_change`. -/
def noteChange (t : SubscriptionTable N P) (path : AttributePath) : SubscriptionTable N P :=
  t.modifyAll fun s => s.noteChange path

/-- Source: `SubscriptionTable::note_cluster_change`. -/
def noteClusterChange (t : SubscriptionTable N P) (endpoint : EndpointId) (cluster : ClusterId) :
    SubscriptionTable N P :=
  t.modifyAll fun s => s.noteClusterChange endpoint cluster

/-- Source: `SubscriptionTable::reprime_all`. -/
def reprimeAll (t : SubscriptionTable N P) : SubscriptionTable N P :=
  t.modifyAll fun s => { s with dirty := s.dirty.reprime }

/-- Source: `SubscriptionTable::len_of_fabric`. -/
def lenOfFabric (t : SubscriptionTable N P) (fabric : Option FabricIndex) : ℕ :=
  (t.subscriptions.toList.filter fun s => s.fabricIndex == fabric).length

/-- Source: `SubscriptionTable::admit`. -/
def admits (t : SubscriptionTable N P) (config : SubscriptionConfig)
    (fabric : Option FabricIndex) : Except SubscribeError Unit :=
  if fabric.isSome then
    ensure (t.lenOfFabric fabric < config.perFabric) .fabricQuota
  else
    let claimed := (t.subscriptions.toList.filter fun s => s.fabricIndex.isSome).length
    let stillOwed := config.fabrics * config.perFabric - claimed
    ensure (stillOwed < N - t.subscriptions.toList.length) .full

/-- The loop of `allocate_id`, for as many rounds as are given. -/
def allocateIdIn (t : SubscriptionTable N P) : ℕ → UInt32 → UInt32
  | 0, last => last
  | rounds + 1, last =>
    let last := last + 1
    if last ≠ 0 ∧ (t.find last).isNone then last else allocateIdIn t rounds last

/-- Source: `SubscriptionTable::allocate_id`. -/
def allocateId (t : SubscriptionTable N P) : UInt32 := t.allocateIdIn (2 ^ 16) t.lastId

/-- A list that fits a vector. -/
def bounded {α : Type} {M : ℕ} (l : List α) : Option (BoundedVec α M) :=
  if h : l.length ≤ M then some ⟨l, h⟩ else none

/-- Source: `SubscriptionTable::subscribe`. -/
def subscribe (t : SubscriptionTable N P) (config : SubscriptionConfig) (request : NewSubscription)
    (now : Instant) : Except SubscribeError UInt32 × SubscriptionTable N P :=
  let t := if request.keepSubscriptions then t else t.removeForSession request.session
  if request.paths = [] ∧ request.eventPaths = [] then (.error .noPaths, t)
  else
    match bounded request.paths, bounded request.eventPaths with
    | some paths, some eventPaths =>
      if t.subscriptions.toList.length ≥ N then (.error .full, t)
      else
        match t.admits config request.fabricIndex with
        | .error e => (.error e, t)
        | .ok () =>
          let id := t.allocateId
          let sub : Subscription P :=
            { id := id
              session := request.session
              fabricIndex := request.fabricIndex
              peerNodeId := request.peerNodeId
              fabricFiltered := request.fabricFiltered
              minIntervalS := request.minIntervalS
              maxIntervalS := request.maxIntervalS
              paths := paths
              lastReport := now
              eventPaths := eventPaths
              dirty := .new
              nextEventNumber := request.minEventNumber
              urgent := false
              reportedThrough := 0
              cursor := .start }
          match t.subscriptions.push sub with
          | some subscriptions => (.ok id, ⟨subscriptions, id⟩)
          | none => (.error .full, { t with lastId := id })
    | _, _ => (.error .tooManyPaths, t)

end SubscriptionTable

end MatterKit.Im
