import MatterKit.Im.Subscription

/-!
# Subscriptions in storage

`im/persist.rs`: what is kept of a subscription across a reboot (`Durable`), how a table's
subscriptions are written (`save`) and read into another table (`restore`), and how a restored
subscription gets a session again (`rebind`).
-/

namespace MatterKit.Im

open Lib Machine Tlv Dm

variable {N P : ℕ}

/-! ## Writing -/

/-- Writes the entries of a list one after the other: `for entry in list { .. }`. -/
def writeEach {α : Type} (write : α → Writing Unit) : List α → Writing Unit
  | [] => pure ()
  | a :: rest => do
    write a
    writeEach write rest

namespace Persist

/-- Source: `encode_one`, with the `TAG_` constants. -/
def encodeOne (s : Subscription P) : Writing Unit := do
  start .anonymous .struct
  unsigned (.context 0) s.id.toUInt64
  whenSome s.fabricIndex fun fabric => unsigned (.context 1) fabric.val.toUInt64
  whenSome s.peerNodeId fun peer => unsigned (.context 2) peer.val
  Tlv.bool (.context 3) s.fabricFiltered
  unsigned (.context 4) s.minIntervalS.toUInt64
  unsigned (.context 5) s.maxIntervalS.toUInt64
  unsigned (.context 6) s.nextEventNumber
  start (.context 7) .array
  writeEach (fun path : AttributePath => path.encode .anonymous) s.paths.toList
  endContainer
  start (.context 8) .array
  writeEach (fun path : EventPath => path.encode .anonymous) s.eventPaths.toList
  endContainer
  endContainer

/-- The loop of `save`: what has no fabric or no peer is passed over. -/
def saveEach : List (Subscription P) → ℕ → Writing ℕ
  | [], kept => pure kept
  | s :: rest, kept =>
    if s.fabricIndex.isNone || s.peerNodeId.isNone then saveEach rest kept
    else do
      encodeOne s
      saveEach rest (kept + 1)

/-- Source: `save`. -/
def save (t : SubscriptionTable N P) (tag : Tag) : Writing ℕ := do
  start tag .array
  let kept ← saveEach t.subscriptions.toList 0
  endContainer
  pure kept

end Persist

/-! ## Reading -/

/-- Source: `Durable`. -/
structure Durable (P : ℕ) where
  id : UInt32
  fabricIndex : FabricIndex
  peerNodeId : NodeId
  fabricFiltered : Bool
  minIntervalS : UInt16
  maxIntervalS : UInt16
  nextEventNumber : UInt64
  paths : BoundedVec AttributePath P
  eventPaths : BoundedVec EventPath P

namespace Persist

/-- The variables of `decode_one`. -/
structure Fields (P : ℕ) where
  id : Option UInt32 := none
  fabricIndex : Option FabricIndex := none
  peerNodeId : Option NodeId := none
  fabricFiltered : Bool := false
  minIntervalS : UInt16 := 0
  maxIntervalS : UInt16 := 0
  nextEventNumber : UInt64 := 0
  paths : BoundedVec AttributePath P := .empty
  eventPaths : BoundedVec EventPath P := .empty

/-- Reads an entry of a list of paths into a vector.
Source: `decode_one`, the bodies of its inner loops. -/
def decodeEntry {α : Type} (decode : Reading α) (_ : ℕ) (_ : Element) (v : BoundedVec α P) :
    Reading (BoundedVec α P) := do
  let a ← decode
  ofResult (okOr (v.push a) .noSpace)

/-- Source: `decode_one`, `match field.tag.context()`. -/
def decodeField (_ : ℕ) (e : Element) (f : Fields P) : Reading (Fields P) :=
  match e.tag.context? with
  | some 0 => do
    let id ← ofResult (e.unsigned >>= narrow32)
    pure { f with id := some id }
  | some 1 => do
    let fabric ← ofResult (e.unsigned >>= narrow8)
    pure { f with fabricIndex := some ⟨fabric⟩ }
  | some 2 => do
    let peer ← ofResult e.unsigned
    pure { f with peerNodeId := some ⟨peer⟩ }
  | some 3 => do
    let filtered ← ofResult e.bool
    pure { f with fabricFiltered := filtered }
  | some 4 => do
    let interval ← ofResult (e.unsigned >>= narrow16)
    pure { f with minIntervalS := interval }
  | some 5 => do
    let interval ← ofResult (e.unsigned >>= narrow16)
    pure { f with maxIntervalS := interval }
  | some 6 => do
    let number ← ofResult e.unsigned
    pure { f with nextEventNumber := number }
  | some 7 => do
    require (e.value.container? = some .array) .tlvWrongType
    let paths ← eachMember (decodeEntry AttributePath.decode) f.paths
    pure { f with paths := paths }
  | some 8 => do
    require (e.value.container? = some .array) .tlvWrongType
    let eventPaths ← eachMember (decodeEntry EventPath.decode) f.eventPaths
    pure { f with eventPaths := eventPaths }
  | _ => do
    skipValue e
    pure f

/-- What `decode_one` makes of the fields it has met.
Source: `decode_one`, after its `loop`. -/
def Fields.close (f : Fields P) : Except ErrorCode (Durable P) :=
  match f.id, f.fabricIndex, f.peerNodeId with
  | some id, some fabricIndex, some peerNodeId =>
    if f.paths.toList.isEmpty && f.eventPaths.toList.isEmpty then .error .invalidArgument
    else
      .ok
        { id := id
          fabricIndex := fabricIndex
          peerNodeId := peerNodeId
          fabricFiltered := f.fabricFiltered
          minIntervalS := f.minIntervalS
          maxIntervalS := f.maxIntervalS
          nextEventNumber := f.nextEventNumber
          paths := f.paths
          eventPaths := f.eventPaths }
  | _, _, _ => .error .tlvNotFound

/-- Source: `decode_one`. -/
def decodeOne : Reading (Durable P) := do
  let f ← eachMember decodeField {}
  ofResult f.close

end Persist

namespace SubscriptionTable

/-- Source: `SubscriptionTable::reserve_id`. -/
def reserveId (t : SubscriptionTable N P) (id : UInt32) : SubscriptionTable N P :=
  if id > t.lastId then { t with lastId := id } else t

/-- A subscription as it comes out of storage.
Source: `SubscriptionTable::insert_restored`, `let mut subscription` and `subscription.reprime()`. -/
def fromDurable (durable : Durable P) (now : Instant) : Subscription P :=
  let subscription : Subscription P :=
    { id := durable.id
      session := none
      fabricIndex := some durable.fabricIndex
      peerNodeId := some durable.peerNodeId
      fabricFiltered := durable.fabricFiltered
      minIntervalS := durable.minIntervalS
      maxIntervalS := durable.maxIntervalS
      paths := durable.paths
      lastReport := now
      eventPaths := durable.eventPaths
      dirty := .new
      nextEventNumber := durable.nextEventNumber
      urgent := false
      reportedThrough := 0
      cursor := .start }
  subscription.reprime

/-- Source: `SubscriptionTable::insert_restored`. -/
def insertRestored (t : SubscriptionTable N P) (durable : Durable P) (now : Instant) :
    Except ErrorCode (SubscriptionTable N P) :=
  if (t.find durable.id).isSome then .error .alreadyExists
  else
    match t.subscriptions.push (fromDurable durable now) with
    | some subscriptions => .ok { t with subscriptions := subscriptions }
    | none => .error .noSpace

end SubscriptionTable

namespace Persist

/-- The loop of `restore`, with as many rounds as `eachMember` has: a record is read, its id reserved
and its subscription inserted, until a record fails. What was inserted before stays. -/
def restoreFrom (now : Instant) :
    ℕ → ℕ → TlvReader → SubscriptionTable N P → Except ErrorCode ℕ × SubscriptionTable N P
  | 0, _, _, t => (.error .tlvTruncated, t)
  | rounds + 1, restored, r, t =>
    match exec nextElement r with
    | (.error e, _) => (.error e, t)
    | (.ok none, _) => (.error .tlvTruncated, t)
    | (.ok (some item), r) =>
      if item.value = .endOfContainer then (.ok restored, t)
      else if item.value.container? ≠ some .struct then (.error .tlvWrongType, t)
      else
        match exec decodeOne r with
        | (.error e, _) => (.error e, t)
        | (.ok durable, r) =>
          let t := t.reserveId durable.id
          match t.insertRestored durable now with
          | .error e => (.error e, t)
          | .ok t => restoreFrom now rounds (restored + 1) r t

/-- Source: `restore`. -/
def restore (t : SubscriptionTable N P) (bytes : List UInt8) (now : Instant) :
    Except ErrorCode ℕ × SubscriptionTable N P :=
  match exec nextElement (TlvReader.new bytes) with
  | (.error e, _) => (.error e, t)
  | (.ok none, _) => (.error .tlvTruncated, t)
  | (.ok (some head), r) =>
    if head.value.container? ≠ some .array then (.error .tlvWrongType, t)
    else restoreFrom now (r.buf.length - r.pos + 1) 0 r t

/-- Source: `rebind`, the body of its loop. -/
def rebindOne (fabric : FabricIndex) (peer : NodeId) (session : SessionId) (now : Instant)
    (s : Subscription P) : Subscription P :=
  if s.session.isSome || s.fabricIndex != some fabric || s.peerNodeId != some peer then s
  else { s with session := some session, lastReport := now }

/-- Source: `rebind`. -/
def rebind (t : SubscriptionTable N P) (fabric : FabricIndex) (peer : NodeId) (session : SessionId)
    (now : Instant) : SubscriptionTable N P :=
  t.modifyAll (rebindOne fabric peer session now)

end Persist

end MatterKit.Im
