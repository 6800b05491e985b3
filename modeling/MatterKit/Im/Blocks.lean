import MatterKit.Im.Serving
import MatterKit.Tlv.Emit

/-!
# Blocks and the room they take

Every block of a report opens what it closes (`balanced_block`), so a message that blocks are packed
into stays inside the array it was opened with, and one that does not fit is taken back without a
trace (`Packing`).
-/

namespace MatterKit.Im

open Lib Machine Tlv Dm

variable {η ν : Type}

/-! ## The encoders -/

lemma balanced_whenSome {α : Type} (field : Option α) {write : α → Writing Unit}
    (h : ∀ a, Balanced (write a)) : Balanced (whenSome field write) := by
  cases field with
  | none => exact Balanced.pure ()
  | some a => exact h a

lemma balanced_whenTrue (flag : Bool) {x : Writing Unit} (h : Balanced x) : Balanced (whenTrue flag x) := by
  cases flag with
  | false => exact Balanced.pure ()
  | true => exact h

lemma balanced_field {α : Type} (field : Option α) (t : UInt8) (value : α → UInt64) :
    Balanced (whenSome field fun a => unsigned (.context t) (value a)) :=
  balanced_whenSome field fun _ => balanced_unsigned _ _

lemma balanced_attributePath (p : AttributePath) (tag : Tag) : Balanced (p.encode tag) := by
  refine balanced_start tag .list ?_
  refine (balanced_whenTrue _ (balanced_bool _ _)).closes_bind fun _ => ?_
  refine (balanced_field p.node 1 id).closes_bind fun _ => ?_
  refine (balanced_field p.endpoint 2 UInt16.toUInt64).closes_bind fun _ => ?_
  refine (balanced_field p.cluster 3 UInt32.toUInt64).closes_bind fun _ => ?_
  refine (balanced_field p.attributeId 4 UInt32.toUInt64).closes_bind fun _ => ?_
  refine (balanced_whenSome p.listIndex fun index => ?_).closes_bind fun _ => ?_
  · cases index with
    | «at» i => exact balanced_unsigned _ _
    | append => exact balanced_null _
  refine (balanced_field p.wildcardPathFlags 6 UInt32.toUInt64).closes_bind fun _ => ?_
  refine (balanced_field p.wildcardFilterConfigurationVersion 7
    UInt32.toUInt64).closes_bind fun _ => ?_
  exact closes_endContainer .list

lemma balanced_eventPath (p : EventPath) (tag : Tag) : Balanced (p.encode tag) := by
  refine balanced_start tag .list ?_
  refine (balanced_field p.node 0 id).closes_bind fun _ => ?_
  refine (balanced_field p.endpoint 1 UInt16.toUInt64).closes_bind fun _ => ?_
  refine (balanced_field p.cluster 2 UInt32.toUInt64).closes_bind fun _ => ?_
  refine (balanced_field p.event 3 UInt32.toUInt64).closes_bind fun _ => ?_
  refine (balanced_whenSome p.isUrgent fun _ => balanced_bool _ _).closes_bind fun _ => ?_
  exact closes_endContainer .list

lemma balanced_statusIb (s : StatusIb) (tag : Tag) : Balanced (s.encode tag) := by
  refine balanced_start tag .struct ?_
  refine (balanced_unsigned _ _).closes_bind fun _ => ?_
  refine (balanced_field s.clusterStatus 1 UInt8.toUInt64).closes_bind fun _ => ?_
  exact closes_endContainer .struct

lemma balanced_attributeData (d : AttributeData) (tag : Tag) : Balanced (d.encode tag) := by
  refine balanced_start tag .struct ?_
  refine (balanced_field d.dataVersion 0 UInt32.toUInt64).closes_bind fun _ => ?_
  refine (balanced_attributePath d.path _).closes_bind fun _ => ?_
  refine (balanced_rawElement d.data).closes_bind fun _ => ?_
  exact closes_endContainer .struct

lemma balanced_attributeStatus (s : AttributeStatus) (tag : Tag) : Balanced (s.encode tag) := by
  refine balanced_start tag .struct ?_
  refine (balanced_attributePath s.path _).closes_bind fun _ => ?_
  refine (balanced_statusIb s.status _).closes_bind fun _ => ?_
  exact closes_endContainer .struct

lemma balanced_attributeReport (r : AttributeReport) : Balanced r.encode := by
  refine balanced_start .anonymous .struct ?_
  cases r with
  | status s =>
    refine (balanced_attributeStatus s _).closes_bind fun _ => ?_
    exact closes_endContainer .struct
  | data d =>
    refine (balanced_attributeData d _).closes_bind fun _ => ?_
    exact closes_endContainer .struct

lemma balanced_eventData (d : EventData) (tag : Tag) : Balanced (d.encode tag) := by
  refine balanced_start tag .struct ?_
  refine (balanced_eventPath d.path _).closes_bind fun _ => ?_
  refine (balanced_unsigned _ _).closes_bind fun _ => ?_
  refine (balanced_unsigned _ _).closes_bind fun _ => ?_
  refine (balanced_unsigned _ _).closes_bind fun _ => ?_
  refine (balanced_rawElement d.data).closes_bind fun _ => ?_
  exact closes_endContainer .struct

lemma balanced_eventStatus (s : EventStatus) (tag : Tag) : Balanced (s.encode tag) := by
  refine balanced_start tag .struct ?_
  refine (balanced_eventPath s.path _).closes_bind fun _ => ?_
  refine (balanced_statusIb s.status _).closes_bind fun _ => ?_
  exact closes_endContainer .struct

lemma balanced_eventReport (r : EventReport) : Balanced r.encode := by
  refine balanced_start .anonymous .struct ?_
  cases r with
  | status s =>
    refine (balanced_eventStatus s _).closes_bind fun _ => ?_
    exact closes_endContainer .struct
  | data d =>
    refine (balanced_eventData d _).closes_bind fun _ => ?_
    exact closes_endContainer .struct

/-- A block closes what it opens. -/
lemma balanced_block (b : Block) : Balanced b.encode := by
  cases b with
  | «attribute» report => exact balanced_attributeReport report
  | item dataVersion path bytes =>
    refine balanced_start .anonymous .struct ?_
    refine closes_start (.context 1) .struct ?_
    refine (balanced_field dataVersion 0 UInt32.toUInt64).closes_bind fun _ => ?_
    refine (balanced_attributePath _ _).closes_bind fun _ => ?_
    refine (balanced_rawElementRetagged bytes _).closes_bind fun _ => ?_
    exact closes_endContainer_bind (closes_endContainer .struct)
  | event report => exact balanced_eventReport report

/-! ## Packing -/

/-- A message stands inside the array its blocks go to. -/
structure ReadState.Ready (s : ReadState ν) : Prop where
  sound : s.packed.w.Sound
  inside : s.packed.w.nesting.Inside

namespace Server

/-- A message stays inside the array, whether a block fits or is taken back. -/
lemma put_ready (srv : Server η ν) (b : Block) :
    Ensures ReadState.Ready (srv.put b) fun _ s => s.Ready := by
  rintro s ⟨hsound, hinside⟩ fitted s' hrun
  have h := putResult srv.limit Block.encode b s.packed
  rw [srv.exec_put b s] at hrun
  obtain ⟨hresult, rfl⟩ := Prod.mk.inj hrun
  rw [hresult] at h
  show ReadState.Ready { s with packed := (exec (putBlock srv.limit Block.encode b) s.packed).2 }
  generalize (exec (putBlock srv.limit Block.encode b) s.packed).2 = p at h ⊢
  cases h with
  | full h => exact ⟨hsound, hinside⟩
  | packed hlimit h =>
    obtain ⟨hsound', hnesting, _⟩ := (balanced_block b).of_ok hsound hinside h
    exact ⟨hsound', hnesting ▸ hinside⟩
  | tooBig hlimit h =>
    have halike := (balanced_block b).alike_rollback hsound hinside h
    exact ⟨halike.sound', halike.nesting_eq ▸ hinside⟩

end Server

/-! ## The message around the blocks -/

/-- Inside the array of attribute reports, or of event reports, of a message. -/
def inReports : Nesting := ⟨[.struct, .array], false⟩

/-- Inside the message, between its arrays. -/
def inMessage : Nesting := ⟨[.struct], false⟩

lemma emits_reportHead (subscriptionId : Option UInt32) :
    Emits (Server.reportHead subscriptionId) ⟨[], false⟩ inReports 28 := by
  have hopen : Emits (start .anonymous .struct) ⟨[], false⟩ inMessage 9 :=
    emits_start (by decide) (by decide) _
  have hid : Emits (whenSome subscriptionId fun id => unsigned (.context 0) id.toUInt64)
      inMessage inMessage 10 := by
    cases subscriptionId with
    | none => exact (Emits.pure _).mono (by decide)
    | some id => exact emits_unsigned (by decide) (by decide) _
  have harray : Emits (start (.context 1) .array) inMessage inReports 9 :=
    emits_start (by decide) (by decide) _
  exact hopen.seq (hid.seq harray)

lemma emits_reportTail (truncated : Bool) :
    Emits (Server.reportTail true truncated) inMessage ⟨[], true⟩ 13 := by
  have hmore : Emits (whenTrue truncated (Tlv.bool (.context 3) true)) inMessage inMessage 2 := by
    cases truncated with
    | false => exact (Emits.pure _).mono (by decide)
    | true => exact emits_bool (by decide) (by decide) _
  have hrevision : Emits (unsigned (.context Server.revisionTag)
      Server.interactionModelRevision.toUInt64) inMessage inMessage 10 :=
    emits_unsigned (by decide) (by decide) _
  have hclose : Emits endContainer inMessage ⟨[], true⟩ 1 := emits_endContainer (by decide)
  exact (Emits.pure _).seq (hmore.seq (hrevision.seq hclose))

/-! ## What fits -/

/-- How many octets a message has room for, and how many blocks are in it. -/
structure Meter where
  room : ℕ
  reports : ℕ

/-- A writer of a buffer inside an array of reports, with nothing written. -/
def inside (buf : Slice) : TlvWriter := ((TlvWriter.new buf).enter .struct).enter .array

/-- What an encoder does in a buffer of its own. -/
def alone (x : Writing Unit) (buf : Slice) : Except ErrorCode Unit × TlvWriter := exec x (inside buf)

/-- What an encoder writes has a place in what room there is. -/
def FitsIn (x : Writing Unit) (buf : Slice) (room : ℕ) : Prop :=
  (alone x buf).1 ≠ .error .bufferTooSmall ∧ (alone x buf).2.pos ≤ room

instance (x : Writing Unit) (buf : Slice) (room : ℕ) : Decidable (FitsIn x buf room) :=
  inferInstanceAs (Decidable (_ ∧ _))

variable {β : Type}

/-- The message being packed into a buffer stands at a nesting, with the room and the blocks of a meter. -/
structure Filled (buf : Slice) (p : Packed β) (n : Nesting) (m : Meter) : Prop where
  sound : p.w.Sound
  nesting_eq : p.w.nesting = n
  room_eq : p.w.pos + m.room = p.w.buf.octets.length
  length_eq : p.w.buf.octets.length = buf.octets.length
  startedInside_eq : p.w.startedInside = false
  reports_eq : p.responses = m.reports

variable {buf : Slice} {m : Meter} {p : Packed β}

/-- An encoder writes what it writes alone, and runs out of buffer where that does not fit. -/
lemma exec_alone {x : Writing Unit} (hx : Balanced x) (hp : Filled buf p inReports m) :
    (FitsIn x buf m.room → ∃ w', exec x p.w = ((alone x buf).1, w') ∧ p.w.SameRoom w' ∧
      w'.pos = p.w.pos + (alone x buf).2.pos ∧
      ((alone x buf).1 = .ok () → w'.Sound ∧ w'.nesting = inReports)) ∧
    (¬ FitsIn x buf m.room → ∃ w', exec x p.w = (.error .bufferTooSmall, w')) := by
  obtain ⟨script, hfollows, hafter⟩ := hx inReports (by decide)
  have hhere := hfollows p.w hp.sound hp.nesting_eq
  have halone := hfollows (inside buf) ⟨Nat.zero_le _, (by decide : 2 ≤ maxDepth)⟩ rfl
  have hroom := hp.room_eq
  have hlength := hp.length_eq
  have hempty : (inside buf).pos = 0 := rfl
  have hbuf : (inside buf).buf = buf := rfl
  by_cases hfits : (inside buf).Fits script.bytes
  · obtain ⟨w₀, hrun₀, hwrote₀⟩ := halone.1 hfits
    have hresult : (alone x buf).1 = script.result := congrArg Prod.fst hrun₀
    have hsize : (alone x buf).2.pos = script.bytes.length := by
      have hpos : (alone x buf).2.pos = w₀.pos := congrArg (fun r => r.2.pos) hrun₀
      rw [hpos, hwrote₀.pos_eq, hempty, Nat.zero_add]
    have hiff : p.w.Fits script.bytes ↔ (alone x buf).2.pos ≤ m.room := by
      unfold TlvWriter.Fits
      omega
    constructor
    · rintro ⟨-, hle⟩
      obtain ⟨w', hrun, hwrote⟩ := hhere.1 (hiff.mpr hle)
      refine ⟨w', by rw [hrun, hresult], hwrote.sameRoom, by rw [hwrote.pos_eq, hsize], fun hok => ?_⟩
      exact ⟨hwrote.sound, hwrote.nesting_eq.trans (hafter () (hresult ▸ hok))⟩
    · intro hnot
      by_cases hle : (alone x buf).2.pos ≤ m.room
      · have hfull : (alone x buf).1 = .error .bufferTooSmall := by
          by_contra hother
          exact hnot ⟨hother, hle⟩
        obtain ⟨w', hrun, -⟩ := hhere.1 (hiff.mpr hle)
        exact ⟨w', by rw [hrun, ← hresult, hfull]⟩
      · obtain ⟨w', hrun, -⟩ := hhere.2 (mt hiff.mp hle)
        exact ⟨w', hrun⟩
  · obtain ⟨w₀, hrun₀, -⟩ := halone.2 hfits
    have hfull : (alone x buf).1 = .error .bufferTooSmall := congrArg Prod.fst hrun₀
    refine ⟨fun hb => absurd hfull hb.1, fun _ => ?_⟩
    obtain ⟨w', hrun, -⟩ := hhere.2 fun h => hfits (by
      unfold TlvWriter.Fits at h ⊢
      rw [hempty, hbuf]
      omega)
    exact ⟨w', hrun⟩

/-! ### What is written around the blocks -/

/-- From one nesting to another, an encoder succeeds with so many octets. -/
def Costs (x : Writing Unit) (n n' : Nesting) (octets : ℕ) : Prop :=
  ∃ bytes, bytes.length = octets ∧ Follows x n ⟨bytes, .ok (), n'⟩

/-- Encoders one after the other cost the sum. -/
lemma Costs.seq {x y : Writing Unit} {n n' n'' : Nesting} {k l : ℕ} (hx : Costs x n n' k)
    (hy : Costs y n' n'' l) : Costs (do x; y) n n'' (k + l) := by
  obtain ⟨bytes, rfl, hfirst⟩ := hx
  obtain ⟨bytes', rfl, hsecond⟩ := hy
  exact ⟨bytes ++ bytes', List.length_append, hfirst.bind (f := fun _ => y) hsecond⟩

lemma costs_nothing (n : Nesting) : Costs (pure ()) n n 0 := ⟨[], rfl, Follows.of_still fun _ _ _ => rfl⟩

lemma costs_unsigned {n : Nesting} {t : UInt8} (hn : n.Inside) (h : n.check (.context t) = .ok ())
    (v : UInt64) : Costs (unsigned (.context t) v) n n (2 + (Width.forUnsigned v).octets) := by
  have hhead := follows_head h (.unsignedInt (Width.forUnsigned v))
  rw [hn.mark] at hhead
  refine ⟨_, ?_, hhead.bind (f := fun _ => emit (writeLe v (Width.forUnsigned v).octets))
    (follows_emit _ n)⟩
  rw [List.length_append, length_writeLe]
  rfl

/-- A message into which nothing has been written. -/
lemma Filled.new (buf : Slice) :
    Filled buf (⟨TlvWriter.new buf, 0, []⟩ : Packed β) ⟨[], false⟩ ⟨buf.octets.length, 0⟩ :=
  ⟨TlvWriter.sound_new buf, TlvWriter.nesting_new buf, Nat.zero_add _, rfl, rfl, rfl⟩

/-- A step of the writer takes its octets of the room, or there is none for them. -/
lemma Filled.write {x : Writing Unit} {n n' : Nesting} {octets : ℕ} (hp : Filled buf p n m)
    (hx : Costs x n n' octets) : (octets ≤ m.room → ∃ w', exec x p.w = (.ok (), w') ∧
      Filled buf { p with w := w' } n' { m with room := m.room - octets }) ∧
    (¬ octets ≤ m.room → ∃ w', exec x p.w = (.error .bufferTooSmall, w')) := by
  obtain ⟨bytes, rfl, hfollows⟩ := hx
  have hroom := hp.room_eq
  have hfits : p.w.Fits bytes ↔ bytes.length ≤ m.room := by
    unfold TlvWriter.Fits
    omega
  constructor
  · intro hle
    obtain ⟨w', hrun, hwrote⟩ := (hfollows p.w hp.sound hp.nesting_eq).1 (hfits.mpr hle)
    have hsame := hwrote.sameRoom
    refine ⟨w', hrun, hwrote.sound, hwrote.nesting_eq, ?_, hsame.length_eq.trans hp.length_eq,
      hsame.startedInside_eq.trans hp.startedInside_eq, hp.reports_eq⟩
    show w'.pos + (m.room - bytes.length) = w'.buf.octets.length
    rw [hsame.length_eq, hwrote.pos_eq]
    show p.w.pos + bytes.length + _ = _
    omega
  · intro hnot
    obtain ⟨w', hrun, -⟩ := (hfollows p.w hp.sound hp.nesting_eq).2 (mt hfits.mp hnot)
    exact ⟨w', hrun⟩

/-- A message in which everything is closed is finished. -/
lemma Filled.finish (hp : Filled buf p ⟨[], true⟩ m) : p.w.finish = .ok p.w.written := by
  refine (TlvWriter.finish_eq_ok hp.startedInside_eq).mpr ⟨?_, ?_, hp.sound.pos_le, rfl⟩
  · exact (TlvWriter.containers_eq_nil_iff hp.sound).mp (congrArg Nesting.containers hp.nesting_eq)
  · exact congrArg Nesting.topLevelDone hp.nesting_eq

/-! ### Packing a block -/

/-- What packing a block comes to. -/
inductive Packs (limit : ℕ) (encode : β → Writing Unit) (buf : Slice) (b : β) (p : Packed β) (m : Meter) : Prop
  | packed (p' : Packed β) (hfits : m.reports < limit ∧ FitsIn (encode b) buf m.room)
      (hok : (alone (encode b) buf).1 = .ok ()) (hrun : exec (putBlock limit encode b) p = (.ok true, p'))
      (hp' : Filled buf p' inReports ⟨m.room - (alone (encode b) buf).2.pos, m.reports + 1⟩)
      (hblocks : p'.blocks = p.blocks ++ [b])
  | full (p' : Packed β) (hfull : ¬ (m.reports < limit ∧ FitsIn (encode b) buf m.room))
      (hrun : exec (putBlock limit encode b) p = (.ok false, p')) (hp' : Filled buf p' inReports m)
      (hblocks : p'.blocks = p.blocks)
  | fault (e : ErrorCode) (w' : TlvWriter) (hfits : m.reports < limit ∧ FitsIn (encode b) buf m.room)
      (hbad : (alone (encode b) buf).1 = .error e) (hwrite : exec (encode b) p.w = (.error e, w'))
      (hrun : exec (putBlock limit encode b) p = (.error e, { p with w := w' }))

/-- A block is packed, finds no room, or cannot be written. -/
lemma packs (limit : ℕ) {encode : β → Writing Unit} (hencode : ∀ b, Balanced (encode b)) (b : β)
    (hp : Filled buf p inReports m) : Packs limit encode buf b p m := by
  have hreports := hp.reports_eq
  have hroom := hp.room_eq
  by_cases hlimit : m.reports < limit
  swap
  · refine .full p (fun h => hlimit h.1) ?_ hp rfl
    unfold putBlock
    rw [exec_get_bind, if_pos (by omega)]
    rfl
  have hless : ¬ p.responses ≥ limit := by omega
  by_cases hfits : FitsIn (encode b) buf m.room
  · obtain ⟨w', hwrite, hsame, hpos, hafter⟩ := (exec_alone (hencode b) hp).1 hfits
    have hsize := hfits.2
    rcases hresult : (alone (encode b) buf).1 with e | u
    · rw [hresult] at hwrite
      refine .fault e w' ⟨hlimit, hfits⟩ hresult hwrite ?_
      have he : e ≠ .bufferTooSmall := fun he => hfits.1 (by rw [hresult, he])
      unfold putBlock
      rw [exec_get_bind, if_neg hless, hwrite]
      simp only [if_neg he]
      rfl
    · obtain ⟨hsound, hnesting⟩ := hafter hresult
      rw [hresult] at hwrite
      refine .packed ⟨w', p.responses + 1, p.blocks ++ [b]⟩ ⟨hlimit, hfits⟩ hresult ?_
        ⟨hsound, hnesting, ?_, hsame.length_eq.trans hp.length_eq,
          hsame.startedInside_eq.trans hp.startedInside_eq, congrArg (· + 1) hreports⟩ rfl
      · unfold putBlock
        rw [exec_get_bind, if_neg hless, hwrite]
        rfl
      · show w'.pos + (m.room - (alone (encode b) buf).2.pos) = w'.buf.octets.length
        rw [hsame.length_eq]
        omega
  · obtain ⟨w', hwrite⟩ := (exec_alone (hencode b) hp).2 hfits
    have hinside : p.w.nesting.Inside := by
      rw [hp.nesting_eq]
      decide
    have halike := (hencode b).alike_rollback hp.sound hinside hwrite
    refine .full { p with w := w'.rollback p.w.checkpoint } (fun h => hfits h.2) ?_
      ⟨halike.sound', halike.nesting_eq.trans hp.nesting_eq, ?_, halike.sameRoom.length_eq.trans hp.length_eq,
        halike.sameRoom.startedInside_eq.trans hp.startedInside_eq, hreports⟩ rfl
    · unfold putBlock
      rw [exec_get_bind, if_neg hless, hwrite]
      rfl
    · show (w'.rollback p.w.checkpoint).pos + m.room = _
      rw [halike.pos_eq, halike.sameRoom.length_eq]
      exact hroom

end MatterKit.Im
