import MatterKit.Exchange.Mrp
import MatterKit.Lib.KeyedVec
import MatterKit.Msg.Header

/-!
# The exchange table

`ExchangeTable` of `exchange/table.rs`: a fixed-capacity list of open exchanges, each identified by its
session, its id and the end this node is.

Every operation has one lemma that says what it can do to the list of entries (`openInitiator_cases`,
`openResponder_cases`, `openEphemeral_cases`, …); what the message layer proves about its tables is
derived from these. The id allocator tries every id once (`allocateId_isOk_iff`): it succeeds exactly
when some id is free on that session.
-/

namespace MatterKit

open Lib

/-! ## Exchanges -/

/-- Which end of an exchange a node is.
Source: `Role`. -/
inductive ExchangeRole
  | initiator
  | responder
  deriving DecidableEq

/-- Source: `Role::is_initiator`. -/
def ExchangeRole.isInitiator (r : ExchangeRole) : Bool := decide (r = .initiator)

/-- What identifies an exchange within a node.
Source: `ExchangeKey`. -/
structure ExchangeKey where
  session : SessionId
  id : ExchangeId
  role : ExchangeRole
  deriving DecidableEq

/-- One open exchange.
Source: `Exchange`. -/
structure Exchange where
  key : ExchangeKey
  protocol : ProtocolId
  mrp : Mrp
  peer : Option Peer
  opened : Instant
  lastActivity : Instant
  ephemeral : Bool
  deriving DecidableEq

namespace Exchange

/-- Source: `Exchange::new`. -/
def new (key : ExchangeKey) (protocol : ProtocolId) (params : MrpParams) (now : Instant) :
    Exchange where
  key := key
  protocol := protocol
  mrp := .new params
  peer := none
  opened := now
  lastActivity := now
  ephemeral := false

/-- Source: `Exchange::touch`. -/
def touch (e : Exchange) (now : Instant) : Exchange := { e with lastActivity := now }

/-- Whether nothing has used this exchange for longer than `idle` and no retransmission is
pending on it.
Source: `Exchange::is_abandoned`. -/
def isAbandoned (e : Exchange) (now : Instant) (idle : Duration) : Bool :=
  if e.mrp.isAwaitingAck then false
  else decide (idle.micros < satSub now.micros e.lastActivity.micros)

/-- Source: `Exchange::is_transport_reliable`. -/
def isTransportReliable (e : Exchange) : Bool := e.peer.any Peer.isReliable

lemma isAbandoned_eq_true_iff {e : Exchange} {now : Instant} {idle : Duration} :
    e.isAbandoned now idle = true ↔ e.mrp.pendingTx = none ∧
      idle.micros.toNat < now.micros.toNat - e.lastActivity.micros.toNat := by
  unfold isAbandoned Mrp.isAwaitingAck
  rcases e.mrp.pendingTx with _ | tx
  · simp [UInt64.lt_iff_toNat_lt]
  · simp

end Exchange

/-- How long an exchange may sit unused before it is reclaimed.
Source: `EXCHANGE_IDLE_TIMEOUT`. -/
def exchangeIdleTimeout : Duration := .fromSecs 60

/-! ## The table -/

/-- Source: `ExchangeTable`. -/
structure ExchangeTable (N : ℕ) where
  openExchanges : BoundedVec Exchange N
  nextId : UInt16
  deriving DecidableEq

namespace ExchangeTable

variable {N : ℕ}

/-- The open exchanges, oldest first. -/
def entries (t : ExchangeTable N) : List Exchange := t.openExchanges.toList

/-- Source: `ExchangeTable::new`. -/
def new (firstId : UInt16) : ExchangeTable N := ⟨.empty, firstId⟩

/-- Source: `ExchangeTable::len`. -/
def len (t : ExchangeTable N) : ℕ := t.entries.length

/-- Source: `ExchangeTable::find`. -/
def find (t : ExchangeTable N) (key : ExchangeKey) : Option Exchange :=
  t.entries.find? fun e => decide (e.key = key)

/-- Updates the exchange with this key, if it is open.
Source: what callers do through `ExchangeTable::find_mut`. -/
def modify (t : ExchangeTable N) (key : ExchangeKey) (f : Exchange → Exchange) :
    ExchangeTable N :=
  { t with openExchanges := t.openExchanges.update (fun e => decide (e.key = key)) f }

/-- Source: `ExchangeTable::reap`. -/
def reap (t : ExchangeTable N) (now : Instant) (idle : Duration) : ExchangeTable N :=
  { t with openExchanges := t.openExchanges.retain fun e => !e.isAbandoned now idle }

/-- Source: `ExchangeTable::insert`. -/
def insert (t : ExchangeTable N) (e : Exchange) : Except ErrorCode Unit × ExchangeTable N :=
  match t.openExchanges.push e with
  | some v => (.ok (), { t with openExchanges := v })
  | none => (.error .noSpace, t)

/-- Reclaims abandoned entries if the table is full.
Source: `ExchangeTable::insert_under_pressure`, its first statement. -/
def makeRoom (t : ExchangeTable N) (now : Instant) : ExchangeTable N :=
  if t.len = N then t.reap now exchangeIdleTimeout else t

/-- Inserts, reclaiming abandoned entries first if the table is full.
Source: `ExchangeTable::insert_under_pressure`. -/
def insertUnderPressure (t : ExchangeTable N) (e : Exchange) (now : Instant) :
    Except ErrorCode Unit × ExchangeTable N :=
  (t.makeRoom now).insert e

/-- The loop of `allocateId`, with `n` ids still to try. -/
def allocateIdLoop (session : SessionId) :
    ℕ → ExchangeTable N → Except ErrorCode ExchangeId × ExchangeTable N
  | 0, t => (.error .noSpace, t)
  | n + 1, t =>
    let id : ExchangeId := ⟨t.nextId⟩
    let t := { t with nextId := t.nextId + 1 }
    match t.find ⟨session, id, .initiator⟩ with
    | none => (.ok id, t)
    | some _ => allocateIdLoop session n t

/-- Tries every id once before giving up.
Source: `ExchangeTable::allocate_id`. -/
def allocateId (t : ExchangeTable N) (session : SessionId) :
    Except ErrorCode ExchangeId × ExchangeTable N :=
  allocateIdLoop session 65536 t

/-- Opens an exchange this node initiates, choosing an unused id.
Source: `ExchangeTable::open_initiator`. -/
def openInitiator (t : ExchangeTable N) (session : SessionId) (protocol : ProtocolId)
    (params : MrpParams) (peer : Option Peer) (now : Instant) :
    Except ErrorCode ExchangeKey × ExchangeTable N :=
  match t.allocateId session with
  | (.error e, t) => (.error e, t)
  | (.ok id, t) =>
    let key : ExchangeKey := ⟨session, id, .initiator⟩
    let exchange := { Exchange.new key protocol params now with peer := peer }
    match t.insert exchange with
    | (.error e, t) => (.error e, t)
    | (.ok (), t) => (.ok key, t)

/-- Opens an exchange the peer initiated; a live key is refused.
Source: `ExchangeTable::open_responder`. -/
def openResponder (t : ExchangeTable N) (session : SessionId) (id : ExchangeId)
    (protocol : ProtocolId) (params : MrpParams) (now : Instant) :
    Except ErrorCode ExchangeKey × ExchangeTable N :=
  let key : ExchangeKey := ⟨session, id, .responder⟩
  match t.find key with
  | some _ => (.error .invalidState, t)
  | none =>
    match t.insertUnderPressure (.new key protocol params now) now with
    | (.error e, t) => (.error e, t)
    | (.ok (), t) => (.ok key, t)

/-- Opens an exchange that exists only to carry a standalone acknowledgement.
Source: `ExchangeTable::open_ephemeral`. -/
def openEphemeral (t : ExchangeTable N) (session : SessionId) (id : ExchangeId)
    (protocol : ProtocolId) (params : MrpParams) (now : Instant) :
    Except ErrorCode ExchangeKey × ExchangeTable N :=
  let key : ExchangeKey := ⟨session, id, .responder⟩
  match t.find key with
  | some existing => (.ok existing.key, t)
  | none =>
    let exchange := { Exchange.new key protocol params now with ephemeral := true }
    match t.insertUnderPressure exchange now with
    | (.error e, t) => (.error e, t)
    | (.ok (), t) => (.ok key, t)

/-- When `reap` would next have something to do, as the table computes it.
Source: `ExchangeTable::reap_deadline`. -/
def reapDeadline (t : ExchangeTable N) (idle : Duration) : Option Instant :=
  ((t.entries.filter fun e => !e.mrp.isAwaitingAck).map
    fun e => e.lastActivity.saturatingAdd idle).min?

/-- The role this node has in the exchange of an arriving message: the opposite of its sender's.
Source: `ExchangeTable::find_for_message`, the role it computes. -/
def roleForMessage (fromInitiator : Bool) : ExchangeRole :=
  if fromInitiator then .responder else .initiator

/-- Source: `ExchangeTable::find_for_message`. -/
def findForMessage (t : ExchangeTable N) (session : SessionId) (id : ExchangeId)
    (fromInitiator : Bool) : Option Exchange :=
  t.find ⟨session, id, roleForMessage fromInitiator⟩

/-- Closes an exchange, if it is open; its reliability state goes with it.
Source: `ExchangeTable::close`. -/
def close (t : ExchangeTable N) (key : ExchangeKey) : ExchangeTable N :=
  match t.openExchanges.removeFirst fun e => decide (e.key = key) with
  | some v => { t with openExchanges := v }
  | none => t

/-- Closes every exchange on a session.
Source: `ExchangeTable::close_session`. -/
def closeSession (t : ExchangeTable N) (session : SessionId) : ExchangeTable N :=
  { t with openExchanges := t.openExchanges.retain fun e => decide (e.key.session ≠ session) }

/-- The earliest reliability deadline across the table.
Source: `ExchangeTable::poll_deadline`. -/
def pollDeadline (t : ExchangeTable N) : Option Instant :=
  (t.entries.filterMap fun e => e.mrp.pollDeadline).min?

/-! ## What each operation does to the entries -/

@[simp] lemma entries_new (firstId : UInt16) : (new firstId : ExchangeTable N).entries = [] := rfl

@[simp] lemma entries_modify (t : ExchangeTable N) (key : ExchangeKey) (f : Exchange → Exchange) :
    (t.modify key f).entries = modifyFirst (fun e => decide (e.key = key)) f t.entries := rfl

@[simp] lemma entries_reap (t : ExchangeTable N) (now : Instant) (idle : Duration) :
    (t.reap now idle).entries = t.entries.filter fun e => !e.isAbandoned now idle := rfl

@[simp] lemma entries_closeSession (t : ExchangeTable N) (session : SessionId) :
    (t.closeSession session).entries = t.entries.filter fun e => decide (e.key.session ≠ session) := rfl

lemma len_le (t : ExchangeTable N) : t.len ≤ N := t.openExchanges.length_le

variable {t t' : ExchangeTable N} {key : ExchangeKey} {e : Exchange} {f : Exchange → Exchange}
  {session : SessionId} {id : ExchangeId}

lemma find_eq_none_iff : t.find key = none ↔ ∀ e ∈ t.entries, e.key ≠ key :=
  find?_key_eq_none_iff

lemma find_eq_some (h : t.find key = some e) : e ∈ t.entries ∧ e.key = key :=
  find?_key_eq_some h

/-- A lookup after an update sees the update under its key and nothing elsewhere. -/
lemma find_modify (t : ExchangeTable N) (key key' : ExchangeKey) (hf : ∀ e, (f e).key = e.key) :
    (t.modify key f).find key' = if key' = key then (t.find key').map f else t.find key' :=
  find?_key_modifyFirst hf key key'

/-- An insertion appends, or refuses because the table is full. -/
lemma insert_cases (t : ExchangeTable N) (e : Exchange) :
    (t.len < N ∧ ∃ t', t.insert e = (.ok (), t') ∧ t'.entries = t.entries ++ [e] ∧
      t'.nextId = t.nextId) ∨ (t.len = N ∧ t.insert e = (.error .noSpace, t)) := by
  unfold insert
  rcases hpush : t.openExchanges.push e with _ | v
  · right
    exact ⟨BoundedVec.push_eq_none_iff.mp hpush, rfl⟩
  · left
    obtain ⟨hlen, hv⟩ := BoundedVec.push_eq_some_iff.mp hpush
    exact ⟨hlen, _, rfl, hv, rfl⟩

/-! ## Allocating an exchange id -/

lemma entries_allocateIdLoop (session : SessionId) (n : ℕ) (t : ExchangeTable N) :
    (allocateIdLoop session n t).2.entries = t.entries := by
  induction n generalizing t with
  | zero => rfl
  | succ n ih =>
    unfold allocateIdLoop
    simp only
    split
    · rfl
    · rw [ih]
      rfl

/-- The id that is handed out is not in use on the session. -/
lemma allocateIdLoop_eq_ok {n : ℕ} (h : allocateIdLoop session n t = (.ok id, t')) :
    t.find ⟨session, id, .initiator⟩ = none := by
  induction n generalizing t with
  | zero => simp [allocateIdLoop] at h
  | succ n ih =>
    unfold allocateIdLoop at h
    simp only at h
    split at h
    · rename_i hnone
      simp only [Prod.mk.injEq, Except.ok.injEq] at h
      obtain ⟨rfl, -⟩ := h
      exact hnone
    · have hrest := ih h
      exact hrest

/-- The loop fails only after it has met `n` ids in a row that are in use. -/
lemma allocateIdLoop_eq_error {n : ℕ} {e : ErrorCode} (h : allocateIdLoop session n t = (.error e, t')) :
    ∀ i < n, t.find ⟨session, ⟨t.nextId + UInt16.ofNat i⟩, .initiator⟩ ≠ none := by
  induction n generalizing t with
  | zero => simp
  | succ n ih =>
    unfold allocateIdLoop at h
    simp only at h
    split at h
    · simp at h
    · rename_i found hsome
      intro i hi
      cases i with
      | zero =>
        have hfind : t.find ⟨session, ⟨t.nextId⟩, .initiator⟩ = some found := hsome
        simp [hfind]
      | succ i =>
        have hrest := ih h i (by omega)
        have hshift : t.nextId + UInt16.ofNat (i + 1) = t.nextId + 1 + UInt16.ofNat i := by
          rw [UInt16.ofNat_add, UInt16.add_comm (UInt16.ofNat i), ← UInt16.add_assoc]
          rfl
        rw [hshift]
        exact hrest

lemma entries_of_allocateId {r : Except ErrorCode ExchangeId} (h : t.allocateId session = (r, t')) :
    t'.entries = t.entries := by
  have hkeep := entries_allocateIdLoop session 65536 t
  unfold allocateId at h
  rw [h] at hkeep
  exact hkeep

/-- The allocator succeeds exactly when some id is free on the session. -/
lemma allocateId_eq_error_iff : (∃ e t', t.allocateId session = (.error e, t')) ↔
      ∀ id, t.find ⟨session, id, .initiator⟩ ≠ none := by
  constructor
  · intro ⟨e, t', h⟩ id
    have hi := allocateIdLoop_eq_error h (id.val - t.nextId).toNat (UInt16.toNat_lt _)
    rw [UInt16.ofNat_toNat, UInt16.add_comm, UInt16.sub_add_cancel] at hi
    exact hi
  · intro hall
    rcases hr : t.allocateId session with ⟨_ | id, t'⟩
    · exact ⟨_, _, rfl⟩
    · exact absurd (allocateIdLoop_eq_ok hr) (hall id)

/-! ## Opening an exchange -/

/-- Opening as the initiator appends one exchange under an unused key, or fails and leaves the
entries alone. -/
lemma openInitiator_cases (t : ExchangeTable N) (session : SessionId) (protocol : ProtocolId)
    (params : MrpParams) (peer : Option Peer) (now : Instant) :
    (∃ e t', t.openInitiator session protocol params peer now = (.error e, t') ∧
      t'.entries = t.entries) ∨
    (∃ id t', t.openInitiator session protocol params peer now =
        (.ok ⟨session, id, .initiator⟩, t') ∧ t.find ⟨session, id, .initiator⟩ = none ∧
      t'.entries = t.entries ++
        [{ Exchange.new ⟨session, id, .initiator⟩ protocol params now with peer := peer }]) := by
  unfold openInitiator
  rcases hid : t.allocateId session with ⟨e | id, t₁⟩
  · left
    exact ⟨e, t₁, rfl, entries_of_allocateId hid⟩
  · have hentries : t₁.entries = t.entries := entries_of_allocateId hid
    simp only
    rcases insert_cases t₁ { Exchange.new ⟨session, id, .initiator⟩ protocol params now with
      peer := peer } with ⟨-, t₂, hins, happ, -⟩ | ⟨-, hins⟩
    · right
      refine ⟨id, t₂, ?_, allocateIdLoop_eq_ok hid, ?_⟩
      · rw [hins]
      · rw [happ, hentries]
    · left
      refine ⟨.noSpace, t₁, ?_, hentries⟩
      rw [hins]

/-- Opening as the initiator succeeds exactly when there is room and an id is free. -/
lemma openInitiator_isOk_iff (t : ExchangeTable N) (session : SessionId) (protocol : ProtocolId)
    (params : MrpParams) (peer : Option Peer) (now : Instant) :
    (∃ key t', t.openInitiator session protocol params peer now = (.ok key, t')) ↔
      t.len < N ∧ ∃ id, t.find ⟨session, id, .initiator⟩ = none := by
  constructor
  · intro ⟨key, t', h⟩
    rcases openInitiator_cases t session protocol params peer now with
      ⟨e, t'', herr, -⟩ | ⟨id, t'', hok, hfree, happ⟩
    · rw [h] at herr
      simp at herr
    · refine ⟨?_, id, hfree⟩
      have hle := len_le t''
      unfold len at hle
      rw [happ, List.length_append, List.length_singleton] at hle
      exact hle
  · intro ⟨hroom, id, hfree⟩
    unfold openInitiator
    rcases hid : t.allocateId session with ⟨e | id', t₁⟩
    · exact absurd hfree (allocateId_eq_error_iff.mp ⟨e, t₁, hid⟩ id)
    · have hentries : t₁.entries = t.entries := entries_of_allocateId hid
      simp only
      rcases insert_cases t₁ { Exchange.new ⟨session, id', .initiator⟩ protocol params now with
        peer := peer } with ⟨-, t₂, hins, -, -⟩ | ⟨hfull, -⟩
      · rw [hins]
        exact ⟨_, _, rfl⟩
      · unfold len at hfull hroom
        rw [hentries] at hfull
        omega

/-- Making room only ever drops abandoned entries. -/
lemma makeRoom_sublist (t : ExchangeTable N) (now : Instant) :
    (t.makeRoom now).entries.Sublist t.entries := by
  unfold makeRoom
  split
  · exact List.filter_sublist
  · exact List.Sublist.refl _

/-- Whether an insertion at `now` finds room: there is some, or an abandoned entry gives way. -/
def HasRoom (t : ExchangeTable N) (now : Instant) : Prop :=
  t.len < N ∨ ∃ e ∈ t.entries, e.isAbandoned now exchangeIdleTimeout = true

/-- An insertion under pressure appends after making room, or changes nothing at all. -/
lemma insertUnderPressure_cases (t : ExchangeTable N) (e : Exchange) (now : Instant) :
    (t.HasRoom now ∧ ∃ t', t.insertUnderPressure e now = (.ok (), t') ∧
      t'.entries = (t.makeRoom now).entries ++ [e]) ∨
    (¬ t.HasRoom now ∧ t.insertUnderPressure e now = (.error .noSpace, t)) := by
  unfold insertUnderPressure
  by_cases hfull : t.len = N
  · by_cases hold : ∃ x ∈ t.entries, x.isAbandoned now exchangeIdleTimeout = true
    · left
      refine ⟨.inr hold, ?_⟩
      obtain ⟨x, hx, hab⟩ := hold
      have hlt : (t.makeRoom now).len < N := by
        unfold makeRoom
        rw [if_pos hfull]
        refine lt_of_lt_of_eq ?_ hfull
        exact List.length_filter_lt_length_iff_exists.mpr ⟨x, hx, by simp [hab]⟩
      rcases insert_cases (t.makeRoom now) e with ⟨-, t', hins, happ, -⟩ | ⟨heq, -⟩
      · exact ⟨t', hins, happ⟩
      · omega
    · right
      refine ⟨?_, ?_⟩
      · intro hroom
        rcases hroom with hlt | hex
        · omega
        · exact hold hex
      · have hsame : t.makeRoom now = t := by
          unfold makeRoom
          rw [if_pos hfull]
          have hfilter : (t.entries.filter fun e => !e.isAbandoned now exchangeIdleTimeout) =
              t.entries := by
            rw [List.filter_eq_self]
            intro x hx
            simpa using fun hab => hold ⟨x, hx, hab⟩
          obtain ⟨⟨l, hl⟩, next⟩ := t
          simpa [reap, BoundedVec.retain, entries] using hfilter
        rw [hsame]
        rcases insert_cases t e with ⟨hlt, -⟩ | ⟨-, hins⟩
        · omega
        · exact hins
  · left
    have hlt : t.len < N := lt_of_le_of_ne t.len_le hfull
    refine ⟨.inl hlt, ?_⟩
    have hsame : t.makeRoom now = t := by
      unfold makeRoom
      rw [if_neg hfull]
    rw [hsame]
    rcases insert_cases t e with ⟨-, t', hins, happ, -⟩ | ⟨heq, -⟩
    · exact ⟨t', hins, happ⟩
    · omega

/-- Opening as the responder under an unused key appends one exchange, or changes nothing. -/
lemma openResponder_cases (hfree : t.find ⟨session, id, .responder⟩ = none) (protocol : ProtocolId)
    (params : MrpParams) (now : Instant) :
    (t.HasRoom now ∧ ∃ t', t.openResponder session id protocol params now =
        (.ok ⟨session, id, .responder⟩, t') ∧ t'.entries = (t.makeRoom now).entries ++
        [Exchange.new ⟨session, id, .responder⟩ protocol params now]) ∨ (¬ t.HasRoom now ∧
      t.openResponder session id protocol params now = (.error .noSpace, t)) := by
  unfold openResponder
  simp only [hfree]
  rcases insertUnderPressure_cases t (.new ⟨session, id, .responder⟩ protocol params now) now with
    ⟨hroom, t', hins, happ⟩ | ⟨hroom, hins⟩
  · left
    refine ⟨hroom, t', ?_, happ⟩
    rw [hins]
  · right
    refine ⟨hroom, ?_⟩
    rw [hins]

/-- Opening an ephemeral exchange under an unused key appends one exchange, or changes nothing. -/
lemma openEphemeral_cases (hfree : t.find ⟨session, id, .responder⟩ = none) (protocol : ProtocolId)
    (params : MrpParams) (now : Instant) :
    (t.HasRoom now ∧ ∃ t', t.openEphemeral session id protocol params now =
        (.ok ⟨session, id, .responder⟩, t') ∧
      t'.entries = (t.makeRoom now).entries ++
        [{ Exchange.new ⟨session, id, .responder⟩ protocol params now with
          ephemeral := true }]) ∨
    (¬ t.HasRoom now ∧
      t.openEphemeral session id protocol params now = (.error .noSpace, t)) := by
  unfold openEphemeral
  simp only [hfree]
  rcases insertUnderPressure_cases t
    { Exchange.new ⟨session, id, .responder⟩ protocol params now with ephemeral := true } now with
    ⟨hroom, t', hins, happ⟩ | ⟨hroom, hins⟩
  · left
    refine ⟨hroom, t', ?_, happ⟩
    rw [hins]
  · right
    refine ⟨hroom, ?_⟩
    rw [hins]

/-! ## Keys -/

/-- No two open exchanges share a key. -/
def Unique (t : ExchangeTable N) : Prop := KeysUnique Exchange.key t.entries

/-- Nothing was opened: every key of `t'` is a key of `t`, and `t'` repeats none that `t` does
not. -/
structure Within (t' t : ExchangeTable N) : Prop where
  unique : t.Unique → t'.Unique
  keys : ∀ e' ∈ t'.entries, ∃ e ∈ t.entries, e.key = e'.key

namespace Within

lemma of_sublist {t' t : ExchangeTable N} (h : t'.entries.Sublist t.entries) : t'.Within t where
  unique := fun hu => List.Nodup.sublist (h.map _) hu
  keys := fun e he => ⟨e, h.subset he, rfl⟩

lemma refl (t : ExchangeTable N) : t.Within t := of_sublist (List.Sublist.refl _)

lemma trans {t₁ t₂ t₃ : ExchangeTable N} (h₁ : t₁.Within t₂) (h₂ : t₂.Within t₃) : t₁.Within t₃ where
  unique := fun hu => h₁.unique (h₂.unique hu)
  keys := by
    intro e he
    obtain ⟨e₂, he₂, hk₂⟩ := h₁.keys e he
    obtain ⟨e₃, he₃, hk₃⟩ := h₂.keys e₂ he₂
    exact ⟨e₃, he₃, hk₃.trans hk₂⟩

lemma modify (t : ExchangeTable N) (key : ExchangeKey) {f : Exchange → Exchange}
    (hf : ∀ e, (f e).key = e.key) : (t.modify key f).Within t where
  unique := fun hu => KeysUnique.modifyFirst hu hf
  keys := by
    intro e he
    have hmem : e.key ∈ (t.modify key f).entries.map Exchange.key := List.mem_map_of_mem he
    rw [entries_modify, map_modifyFirst hf] at hmem
    exact List.mem_map.mp hmem

lemma reap (t : ExchangeTable N) (now : Instant) (idle : Duration) :
    (t.reap now idle).Within t := of_sublist List.filter_sublist

lemma makeRoom (t : ExchangeTable N) (now : Instant) : (t.makeRoom now).Within t :=
  of_sublist (makeRoom_sublist t now)

lemma closeSession (t : ExchangeTable N) (session : SessionId) :
    (t.closeSession session).Within t := of_sublist List.filter_sublist

lemma close (t : ExchangeTable N) (key : ExchangeKey) : (t.close key).Within t := by
  unfold ExchangeTable.close
  rcases hr : t.openExchanges.removeFirst fun e => decide (e.key = key) with _ | v
  · exact refl t
  · exact ⟨fun hu => KeysUnique.removeFirst hu hr,
      fun e he => ⟨e, BoundedVec.mem_of_removeFirst hr he, rfl⟩⟩

end Within

/-- Under unique keys, closing leaves exactly the other exchanges. -/
lemma mem_close_iff (hu : t.Unique) : e ∈ (t.close key).entries ↔ e ∈ t.entries ∧ e.key ≠ key := by
  unfold close
  rcases hr : t.openExchanges.removeFirst fun e => decide (e.key = key) with _ | v
  · have hnone := BoundedVec.removeFirst_eq_none_iff.mp hr
    constructor
    · intro he
      exact ⟨he, by simpa using hnone e he⟩
    · intro he
      exact he.1
  · exact mem_removeFirst_key_iff hu hr

/-- Under unique keys a lookup finds *the* exchange with the key. -/
lemma find_eq_some_iff (hu : t.Unique) : t.find key = some e ↔ e ∈ t.entries ∧ e.key = key :=
  find?_key_eq_some_iff hu

/-- Under unique keys an update changes the exchange with the key and no other. -/
lemma mem_modify_iff (hu : t.Unique) : e ∈ (t.modify key f).entries ↔
      (e ∈ t.entries ∧ e.key ≠ key) ∨ ∃ x ∈ t.entries, x.key = key ∧ e = f x :=
  mem_modifyFirst_key_iff hu

end ExchangeTable

end MatterKit
