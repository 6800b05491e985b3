import Mathlib.Data.List.MinMax
import MatterKit.Exchange.Mrp
import MatterKit.Lib.KeyedVec
import MatterKit.Msg.Counter
import MatterKit.Msg.Security

/-!
# Secure sessions

`SecureSession` and `SessionTable` of `session.rs`: a pair of directional keys, the outgoing
counter, the replay window for the peer's counters, and where the peer was last heard from. The
table is a `BoundedVec` looked up by the local session id.

As for the exchange table, each operation has one lemma that says what it does to the entries.
`allocateId_eq_ok` is the one with a security reading: the id it returns is not in use and is never
zero, which is how the unsecured session is written on the wire.
-/

namespace MatterKit

open Lib

/-! ## One session -/

/-- How a session was established.
Source: `SessionKind`. -/
inductive SessionKind
  | paseSession
  | caseSession
  deriving DecidableEq

/-- Which end of session establishment this node was.
Source: `Role`. -/
inductive SessionRole
  | initiator
  | responder
  deriving DecidableEq

/-- The opposite end. -/
def SessionRole.other : SessionRole → SessionRole
  | .initiator => .responder
  | .responder => .initiator

/-- Source: `EstablishedKeys`. -/
structure EstablishedKeys where
  i2r : SessionKeys
  r2i : SessionKeys
  attestationChallenge : SymmetricKey
  deriving DecidableEq

/-- The keys this node encrypts with.
Source: `EstablishedKeys::sending`. -/
def EstablishedKeys.sending (k : EstablishedKeys) : SessionRole → SessionKeys
  | .initiator => k.i2r
  | .responder => k.r2i

/-- The keys this node decrypts with.
Source: `EstablishedKeys::receiving`. -/
def EstablishedKeys.receiving (k : EstablishedKeys) : SessionRole → SessionKeys
  | .initiator => k.r2i
  | .responder => k.i2r

/-- What one end encrypts with, the other decrypts with. -/
lemma EstablishedKeys.receiving_other (k : EstablishedKeys) (r : SessionRole) :
    k.receiving r.other = k.sending r := by
  cases r <;> rfl

/-- One established secure session.
Source: `SecureSession`. -/
structure SecureSession where
  localSessionId : SessionId
  peerSessionId : SessionId
  kind : SessionKind
  role : SessionRole
  peerNodeId : NodeId
  peerCats : BoundedVec CaseAuthenticatedTag 3
  localNodeId : NodeId
  fabricIndex : FabricIndex
  keys : EstablishedKeys
  counter : MessageCounter
  window : CounterWindow
  mrp : MrpParams
  sessionTimestamp : Instant
  activeTimestamp : Instant
  peer : Option Peer
  deriving DecidableEq

namespace SecureSession

/-- Source: `SecureSession::new`. -/
def new (localSessionId peerSessionId : SessionId) (kind : SessionKind) (role : SessionRole)
    (keys : EstablishedKeys) (initialCounter : UInt32) (now : Instant) : SecureSession where
  localSessionId := localSessionId
  peerSessionId := peerSessionId
  kind := kind
  role := role
  peerNodeId := .unspecified
  peerCats := .empty
  localNodeId := .unspecified
  fabricIndex := .none
  keys := keys
  counter := .new initialCounter
  window := .new .secureUnicast
  mrp := .default
  sessionTimestamp := now
  activeTimestamp := now
  peer := none

/-- Source: `SecureSession::send_nonce_source`, and the same `match` in `Messaging::frame`. -/
def sendNonceSource (s : SecureSession) : NonceSource :=
  match s.kind with
  | .paseSession => .paseSession
  | .caseSession => .caseSession s.localNodeId

/-- Source: `SecureSession::recv_nonce_source`, and the same `match` in `Messaging::receive`. -/
def recvNonceSource (s : SecureSession) : NonceSource :=
  match s.kind with
  | .paseSession => .paseSession
  | .caseSession => .caseSession s.peerNodeId

/-- Takes the next outgoing counter and marks the session used, even when there is none left.
Source: `SecureSession::next_counter`. -/
def nextCounter (s : SecureSession) (now : Instant) : Except ErrorCode UInt32 × SecureSession :=
  let (r, counter) := s.counter.take
  (r, { s with sessionTimestamp := now, counter := counter })

@[simp] lemma localSessionId_nextCounter (s : SecureSession) (now : Instant) :
    (s.nextCounter now).2.localSessionId = s.localSessionId := rfl

/-- Judges an incoming counter; the timestamps move whatever the verdict.
Source: `SecureSession::accept_counter`. -/
def acceptCounter (s : SecureSession) (counter : UInt32) (now : Instant) :
    Verdict × SecureSession :=
  let (verdict, window) := s.window.accept counter
  (verdict, { s with window := window, sessionTimestamp := now, activeTimestamp := now })

end SecureSession

/-! ## The table -/

/-- Source: `SessionTable`. -/
structure SessionTable (N : ℕ) where
  sessions : BoundedVec SecureSession N
  nextId : UInt16
  deriving DecidableEq

namespace SessionTable

variable {N : ℕ}

/-- The sessions, oldest first.
Source: `SessionTable::iter`. -/
def entries (t : SessionTable N) : List SecureSession := t.sessions.toList

/-- Source: `SessionTable::new`. -/
def new (firstId : UInt16) : SessionTable N := ⟨.empty, firstId⟩

/-- Source: `SessionTable::len`. -/
def len (t : SessionTable N) : ℕ := t.entries.length

/-- Source: `SessionTable::find`. -/
def find (t : SessionTable N) (id : SessionId) : Option SecureSession :=
  t.entries.find? fun s => decide (s.localSessionId = id)

/-- Updates the session with this id, if there is one.
Source: what callers do through `SessionTable::find_mut`. -/
def modify (t : SessionTable N) (id : SessionId) (f : SecureSession → SecureSession) :
    SessionTable N :=
  { t with sessions := t.sessions.update (fun s => decide (s.localSessionId = id)) f }

/-- The loop of `allocateId`, with `n` ids still to try. -/
def allocateIdLoop : ℕ → SessionTable N → Except ErrorCode SessionId × SessionTable N
  | 0, t => (.error .noSpace, t)
  | n + 1, t =>
    let id : SessionId := ⟨t.nextId⟩
    let t := { t with nextId := t.nextId + 1 }
    if id.val ≠ 0 ∧ t.find id = none then (.ok id, t) else allocateIdLoop n t

/-- Allocates a local session id that no live session is using; never zero.
Source: `SessionTable::allocate_id`. -/
def allocateId (t : SessionTable N) : Except ErrorCode SessionId × SessionTable N :=
  allocateIdLoop 65536 t

/-- Installs a session.
Source: `SessionTable::insert`. -/
def insert (t : SessionTable N) (s : SecureSession) : Except ErrorCode Unit × SessionTable N :=
  match t.find s.localSessionId with
  | some _ => (.error .invalidState, t)
  | none =>
    match t.sessions.push s with
    | some v => (.ok (), { t with sessions := v })
    | none => (.error .noSpace, t)

/-- Removes a session, if there is one.
Source: `SessionTable::remove`. -/
def remove (t : SessionTable N) (id : SessionId) : SessionTable N :=
  match t.sessions.removeFirst fun s => decide (s.localSessionId = id) with
  | some v => { t with sessions := v }
  | none => t

/-- Removes every session on a fabric.
Source: `SessionTable::remove_fabric`. -/
def removeFabric (t : SessionTable N) (fabric : FabricIndex) : SessionTable N :=
  { t with sessions := t.sessions.retain fun s => decide (s.fabricIndex ≠ fabric) }

/-- The session that has gone unused longest; the oldest entry among equals.
Source: `SessionTable::least_recently_used`. -/
def leastRecentlyUsed (t : SessionTable N) : Option SessionId :=
  (t.entries.argmin SecureSession.sessionTimestamp).map (·.localSessionId)

/-! ## What each operation does to the entries -/

@[simp] lemma entries_new (firstId : UInt16) : (new firstId : SessionTable N).entries = [] := rfl

@[simp] lemma entries_modify (t : SessionTable N) (id : SessionId)
    (f : SecureSession → SecureSession) : (t.modify id f).entries =
      modifyFirst (fun s => decide (s.localSessionId = id)) f t.entries := rfl

@[simp] lemma entries_removeFabric (t : SessionTable N) (fabric : FabricIndex) :
    (t.removeFabric fabric).entries = t.entries.filter fun s => decide (s.fabricIndex ≠ fabric) := rfl

lemma len_le (t : SessionTable N) : t.len ≤ N := t.sessions.length_le

variable {t t' : SessionTable N} {id : SessionId} {s : SecureSession}
  {f : SecureSession → SecureSession}

lemma find_eq_none_iff : t.find id = none ↔ ∀ s ∈ t.entries, s.localSessionId ≠ id :=
  find?_key_eq_none_iff

lemma find_eq_some (h : t.find id = some s) : s ∈ t.entries ∧ s.localSessionId = id :=
  find?_key_eq_some h

/-- A lookup after an update sees the update under its id and nothing elsewhere. -/
lemma find_modify (t : SessionTable N) (id id' : SessionId)
    (hf : ∀ s, (f s).localSessionId = s.localSessionId) :
    (t.modify id f).find id' = if id' = id then (t.find id').map f else t.find id' :=
  find?_key_modifyFirst hf id id'

/-- The ids the allocator returns are unused, and never that of the unsecured session. -/
lemma allocateIdLoop_eq_ok {n : ℕ} (h : allocateIdLoop n t = (.ok id, t')) :
    id ≠ .unsecured ∧ t.find id = none := by
  induction n generalizing t with
  | zero => simp [allocateIdLoop] at h
  | succ n ih =>
    unfold allocateIdLoop at h
    simp only at h
    split at h
    · rename_i hgood
      simp only [Prod.mk.injEq, Except.ok.injEq] at h
      obtain ⟨rfl, -⟩ := h
      refine ⟨?_, hgood.2⟩
      intro hzero
      exact hgood.1 (congrArg SessionId.val hzero)
    · have hrest := ih h
      exact hrest

lemma entries_allocateIdLoop (n : ℕ) (t : SessionTable N) : (allocateIdLoop n t).2.entries = t.entries := by
  induction n generalizing t with
  | zero => rfl
  | succ n ih =>
    unfold allocateIdLoop
    simp only
    split
    · rfl
    · rw [ih]
      rfl

lemma allocateId_eq_ok (h : t.allocateId = (.ok id, t')) : id ≠ .unsecured ∧ t.find id = none :=
  allocateIdLoop_eq_ok h

/-- An insertion appends a session under an unused id, or changes nothing. -/
lemma insert_cases (t : SessionTable N) (s : SecureSession) : (t.len < N ∧ t.find s.localSessionId = none ∧
      ∃ t', t.insert s = (.ok (), t') ∧ t'.entries = t.entries ++ [s]) ∨
    (∃ e, t.insert s = (.error e, t)) := by
  unfold insert
  rcases hfind : t.find s.localSessionId with _ | s'
  · rcases hpush : t.sessions.push s with _ | v
    · right
      exact ⟨.noSpace, rfl⟩
    · left
      obtain ⟨hlen, hv⟩ := BoundedVec.push_eq_some_iff.mp hpush
      exact ⟨hlen, rfl, _, rfl, hv⟩
  · right
    exact ⟨.invalidState, rfl⟩

/-- An insertion succeeds exactly when there is room and the id is unused. -/
lemma insert_eq_ok (hroom : t.len < N) (hfree : t.find s.localSessionId = none) :
    ∃ t', t.insert s = (.ok (), t') ∧ t'.entries = t.entries ++ [s] := by
  unfold insert
  rw [hfree]
  rcases hpush : t.sessions.push s with _ | v
  · have hfull : t.len = N := BoundedVec.push_eq_none_iff.mp hpush
    omega
  · exact ⟨_, rfl, (BoundedVec.push_eq_some_iff.mp hpush).2⟩

/-- An insertion under an id that is taken is refused. -/
lemma insert_of_taken (h : t.find s.localSessionId ≠ none) : t.insert s = (.error .invalidState, t) := by
  obtain ⟨other, hother⟩ := Option.ne_none_iff_exists'.mp h
  rw [insert, hother]

/-- A session that has been inserted is found under its id. -/
lemma find_insert (h : t.insert s = (.ok (), t')) : t'.find s.localSessionId = some s := by
  rcases insert_cases t s with ⟨-, hfree, t₁, hinsert, hentries⟩ | ⟨e, hinsert⟩
  · obtain rfl : t₁ = t' := (Prod.mk.inj (hinsert.symm.trans h)).2
    have hskip : t.entries.find? (fun s' => decide (s'.localSessionId = s.localSessionId)) = none :=
      hfree
    rw [find, hentries, List.find?_append, hskip]
    simp
  · cases (Prod.mk.inj (hinsert.symm.trans h)).1

/-! ## Ids -/

/-- No two sessions share a local id. -/
def Unique (t : SessionTable N) : Prop := KeysUnique SecureSession.localSessionId t.entries

lemma Unique.modify (hu : t.Unique) (id : SessionId)
    (hf : ∀ s, (f s).localSessionId = s.localSessionId) : (t.modify id f).Unique :=
  KeysUnique.modifyFirst hu hf

/-- An update that keeps the local ids keeps the set of them. -/
lemma ids_modify (t : SessionTable N) (id : SessionId) (hf : ∀ s, (f s).localSessionId = s.localSessionId) :
    (t.modify id f).entries.map SecureSession.localSessionId =
      t.entries.map SecureSession.localSessionId :=
  map_modifyFirst hf t.entries

lemma Unique.remove (hu : t.Unique) (id : SessionId) : (t.remove id).Unique := by
  unfold SessionTable.remove
  rcases hr : t.sessions.removeFirst fun s => decide (s.localSessionId = id) with _ | v
  · exact hu
  · exact KeysUnique.removeFirst hu hr

lemma mem_of_mem_remove (h : s ∈ (t.remove id).entries) : s ∈ t.entries := by
  unfold SessionTable.remove at h
  split at h
  · rename_i hr
    exact BoundedVec.mem_of_removeFirst hr h
  · exact h

/-- Under unique ids, removing leaves exactly the other sessions. -/
lemma mem_remove_iff (hu : t.Unique) :
    s ∈ (t.remove id).entries ↔ s ∈ t.entries ∧ s.localSessionId ≠ id := by
  unfold remove
  rcases hr : t.sessions.removeFirst fun s => decide (s.localSessionId = id) with _ | v
  · have hnone := BoundedVec.removeFirst_eq_none_iff.mp hr
    constructor
    · intro hs
      exact ⟨hs, by simpa using hnone s hs⟩
    · intro hs
      exact hs.1
  · exact mem_removeFirst_key_iff hu hr

/-- Removing a session that is there makes room. -/
lemma len_remove_lt (hs : s ∈ t.entries) : (t.remove s.localSessionId).len < t.len := by
  unfold remove
  rcases hr : t.sessions.removeFirst fun s' => decide (s'.localSessionId = s.localSessionId) with _ | v
  · have hnone := BoundedVec.removeFirst_eq_none_iff.mp hr s hs
    simp at hnone
  · obtain ⟨i, hi, -, hperm⟩ := BoundedVec.removeFirst_eq_some hr
    have hlen : v.toList.length = t.sessions.toList.length - 1 := by
      rw [hperm.length_eq, List.length_eraseIdx_of_lt hi]
    change v.toList.length < t.sessions.toList.length
    omega

lemma find_eq_some_iff (hu : t.Unique) : t.find id = some s ↔ s ∈ t.entries ∧ s.localSessionId = id :=
  find?_key_eq_some_iff hu

lemma mem_modify_iff (hu : t.Unique) : s ∈ (t.modify id f).entries ↔
      (s ∈ t.entries ∧ s.localSessionId ≠ id) ∨ ∃ x ∈ t.entries, x.localSessionId = id ∧ s = f x :=
  mem_modifyFirst_key_iff hu

/-- The victim is a session of the table with the smallest timestamp. -/
lemma leastRecentlyUsed_eq_some (h : t.leastRecentlyUsed = some id) :
    ∃ s ∈ t.entries, s.localSessionId = id ∧
      ∀ s' ∈ t.entries, s.sessionTimestamp ≤ s'.sessionTimestamp := by
  unfold leastRecentlyUsed at h
  rw [Option.map_eq_some_iff] at h
  obtain ⟨s, hs, rfl⟩ := h
  exact ⟨s, List.argmin_mem hs, rfl, fun s' hs' => List.le_of_mem_argmin hs' hs⟩

/-- A table with a session has a victim. -/
lemma leastRecentlyUsed_isSome (h : 0 < t.len) : ∃ id, t.leastRecentlyUsed = some id := by
  unfold leastRecentlyUsed
  rcases hs : t.entries.argmin SecureSession.sessionTimestamp with _ | s
  · rw [List.argmin_eq_none] at hs
    unfold len at h
    rw [hs] at h
    exact absurd h (Nat.lt_irrefl 0)
  · exact ⟨_, rfl⟩

end SessionTable

end MatterKit
