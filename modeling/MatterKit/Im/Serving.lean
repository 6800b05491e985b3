import MatterKit.Im.Server

/-!
# What serving a read adds to a message

Serving packs blocks and takes none back that it has packed. `Adds P` says so of two states, with a
property of the blocks that come between; what each function of the server may pack is then one lemma
of the form `Moves (Adds P)`: blocks about the attribute it writes (`writeData_adds`), about the
readable attributes of an expansion (`serveExpanded_adds`), or the records of an event path
(`serveEventPath_adds`).
-/

namespace MatterKit.Im

open Lib Machine Tlv Dm

variable {η ν : Type}

/-! ## Single steps -/

namespace Serving

lemma exec_writing (x : Writing Unit) (s : ReadState ν) : exec (writing x) s =
      ((exec x s.packed.w).1, { s with packed := { s.packed with w := (exec x s.packed.w).2 } }) :=
  rfl

lemma exec_moveCursor (f : ReadCursor → ReadCursor) (s : ReadState ν) :
    exec (moveCursor f) s = (.ok (), { s with cursor := f s.cursor }) := rfl

end Serving

lemma Server.exec_put (srv : Server η ν) (b : Block) (s : ReadState ν) : exec (srv.put b) s =
      ((exec (putBlock srv.limit Block.encode b) s.packed).1,
        { s with packed := (exec (putBlock srv.limit Block.encode b) s.packed).2 }) := rfl

lemma Server.put_full (srv : Server η ν) {b : Block} {s : ReadState ν}
    (hlimit : srv.limit ≤ s.packed.responses) : exec (srv.put b) s = (.ok false, s) := by
  rw [srv.exec_put]
  unfold putBlock
  rw [exec_get_bind, if_pos hlimit]
  rfl

/-- What a call of `put_block` comes to. -/
inductive PutResult {β : Type} (limit : ℕ) (encode : β → Writing Unit) (b : β) (p : Packed β) :
    Except ErrorCode Bool → Packed β → Prop
  | full (h : limit ≤ p.responses) : PutResult limit encode b p (.ok false) p
  | packed {w : TlvWriter} (hlimit : p.responses < limit) (h : exec (encode b) p.w = (.ok (), w)) :
      PutResult limit encode b p (.ok true) ⟨w, p.responses + 1, p.blocks ++ [b]⟩
  | tooBig {w : TlvWriter} (hlimit : p.responses < limit)
      (h : exec (encode b) p.w = (.error .bufferTooSmall, w)) :
      PutResult limit encode b p (.ok false) { p with w := w.rollback p.w.checkpoint }
  | failed {w : TlvWriter} {e : ErrorCode} (hlimit : p.responses < limit)
      (h : exec (encode b) p.w = (.error e, w)) (he : e ≠ .bufferTooSmall) :
      PutResult limit encode b p (.error e) { p with w := w }

lemma putResult {β : Type} (limit : ℕ) (encode : β → Writing Unit) (b : β) (p : Packed β) :
    PutResult limit encode b p (exec (putBlock limit encode b) p).1
      (exec (putBlock limit encode b) p).2 := by
  unfold putBlock
  rw [exec_get_bind]
  split_ifs with hlimit
  · exact .full hlimit
  · have hroom : p.responses < limit := Nat.lt_of_not_le hlimit
    rcases h : exec (encode b) p.w with ⟨e | u, w⟩
    · simp only
      by_cases he : e = .bufferTooSmall
      · subst he
        rw [if_pos rfl]
        exact .tooBig hroom h
      · rw [if_neg he]
        exact .failed hroom h he
    · exact .packed hroom h

/-! ## Blocks are only added -/

/-- The path a block of an attribute report is about. -/
def Block.attributePath? : Block → Option AttributePath
  | .attribute (.status s) => some s.path
  | .attribute (.data d) => some d.path
  | .item _ path _ => some path
  | .event _ => none

/-- A block of an attribute report about a path. -/
def Block.About (path : AttributePath) (b : Block) : Prop := b.attributePath? = some path

/-- A block of an attribute report that a path is answered with: a status, or data with a version. -/
def Block.From (path : AttributePath) (dataVersion : Option UInt32) : Block → Prop
  | .attribute (.status s) => s.path = path
  | .attribute (.data d) => d.path = path ∧ d.dataVersion = dataVersion
  | .item version p _ => p = path ∧ version = dataVersion
  | .event _ => False

lemma Block.From.about {path : AttributePath} {dataVersion : Option UInt32} {b : Block}
    (h : b.From path dataVersion) : b.About path := by
  cases b with
  | «attribute» report =>
    cases report with
    | status s => exact congrArg some h
    | data d => exact congrArg some h.1
  | item version p bytes => exact congrArg some h.1
  | event report => exact h.elim

/-- The second state's message has the blocks of the first one's, and behind them only blocks with a
property. -/
def Adds (P : Block → Prop) (s s' : ReadState ν) : Prop :=
  ∃ new, s'.packed.blocks = s.packed.blocks ++ new ∧ ∀ b ∈ new, P b

namespace Adds

variable {P Q : Block → Prop}

lemma of_blocks_eq {s s' : ReadState ν} (h : s'.packed.blocks = s.packed.blocks) : Adds P s s' :=
  ⟨[], by rw [h, List.append_nil], by simp⟩

instance : Std.Refl (Adds P : ReadState ν → ReadState ν → Prop) where
  refl _ := of_blocks_eq rfl

instance : IsTrans (ReadState ν) (Adds P) where
  trans := by
    rintro s s' s'' ⟨new, h, hP⟩ ⟨new', h', hP'⟩
    refine ⟨new ++ new', by rw [h', h, List.append_assoc], ?_⟩
    intro b hb
    rcases List.mem_append.mp hb with hb | hb
    · exact hP b hb
    · exact hP' b hb

/-- A step that leaves the message alone may be taken first. -/
lemma of_packed_eq {s t s' : ReadState ν} (h : t.packed = s.packed) (hadds : Adds P t s') :
    Adds P s s' := by
  unfold Adds at hadds ⊢
  rwa [h] at hadds

lemma mono (h : ∀ b, P b → Q b) {s s' : ReadState ν} : Adds P s s' → Adds Q s s' := by
  rintro ⟨new, hblocks, hP⟩
  exact ⟨new, hblocks, fun b hb => h b (hP b hb)⟩

end Adds

variable {P Q : Block → Prop}

lemma adds_mono {α : Type} {x : Serving ν α} (h : ∀ b, P b → Q b) (hx : Moves (Adds P) x) :
    Moves (Adds Q) x := hx.mono fun _ _ => Adds.mono h

lemma writing_adds (x : Writing Unit) : Moves (Adds P) (Serving.writing x : Serving ν Unit) :=
  fun _ => Adds.of_blocks_eq rfl

lemma moveCursor_adds (f : ReadCursor → ReadCursor) :
    Moves (Adds P) (Serving.moveCursor f : Serving ν Unit) := fun _ => Adds.of_blocks_eq rfl

namespace Server

lemma put_adds (srv : Server η ν) {b : Block} (hb : P b) : Moves (Adds P) (srv.put b) := by
  intro s
  rw [srv.exec_put b s]
  show Adds P s { s with packed := (exec (putBlock srv.limit Block.encode b) s.packed).2 }
  have h := putResult srv.limit Block.encode b s.packed
  generalize (exec (putBlock srv.limit Block.encode b) s.packed).1 = result at h
  generalize (exec (putBlock srv.limit Block.encode b) s.packed).2 = p at h ⊢
  cases h with
  | full h => exact Adds.of_blocks_eq rfl
  | packed hlimit h => exact ⟨[b], rfl, by simpa using hb⟩
  | tooBig hlimit h | failed hlimit h he => exact Adds.of_blocks_eq rfl

variable (srv : Server η ν) (h : η) (ctx : InteractionContext) (scratch : Slice)

/-! ### Attributes -/

variable (path : AttributePath)

lemma writeStatus_adds (status : Status) (hstatus : P (.attribute (.status ⟨path, .new status⟩))) :
    Moves (Adds P) (srv.writeStatus path status) := srv.put_adds hstatus

variable (dataVersion : Option UInt32)

lemma writeItems_adds (index : ℕ) (items : List (Except ErrorCode (List UInt8))) :
    Moves (Adds (Block.From path dataVersion)) (srv.writeItems path dataVersion index items) := by
  induction items generalizing index with
  | nil => exact (moveCursor_adds _).bind fun _ => Moves.pure true
  | cons item items ih =>
    unfold writeItems
    refine (Moves.ofResult item).bind fun bytes => Moves.bind (srv.put_adds ?_) fun fitted => ?_
    · exact ⟨rfl, rfl⟩
    cases fitted with
    | true => exact ih (index + 1)
    | false =>
      apply Moves.get
      intro s
      split_ifs
      · have hstatus : Moves (Adds (Block.From path dataVersion))
            (srv.writeStatus path .resourceExhausted) := srv.writeStatus_adds path _ rfl
        exact ((moveCursor_adds _).bind fun _ => hstatus) s
      · exact ((moveCursor_adds _).bind fun _ => Moves.pure false) s

lemma writeListInChunks_adds (encoded : List UInt8) :
    Moves (Adds (Block.From path dataVersion)) (srv.writeListInChunks path dataVersion encoded) := by
  unfold writeListInChunks
  cases listItems encoded with
  | none => exact (moveCursor_adds _).bind fun _ => srv.writeStatus_adds path _ rfl
  | some items =>
    apply Moves.get
    intro s
    rcases s.cursor.list with _ | sent
    · refine Moves.bind (srv.put_adds ?_) (fun fitted => ?_) s
      · exact ⟨rfl, rfl⟩
      cases fitted with
      | true => exact (moveCursor_adds _).bind fun _ => srv.writeItems_adds path dataVersion 0 items
      | false => exact Moves.pure false
    · exact srv.writeItems_adds path dataVersion _ _ s

lemma writeValue_adds (encoded : List UInt8) :
    Moves (Adds (Block.From path dataVersion)) (srv.writeValue path dataVersion encoded) := by
  apply Moves.get
  intro s
  split_ifs
  · refine Moves.bind (srv.put_adds ?_) (fun fitted => ?_) s
    · exact ⟨rfl, rfl⟩
    cases fitted with
    | true => exact Moves.pure true
    | false =>
      apply Moves.get
      intro s
      split_ifs
      · exact srv.writeListInChunks_adds path dataVersion encoded s
      · exact Moves.pure false s
  · exact srv.writeListInChunks_adds path dataVersion encoded s

/-- The blocks of an attribute carry the version that is reported for it. -/
lemma writeData_from (resolved : Resolved) (s : ReadState ν) :
    Adds (Block.From resolved.path (srv.reportedVersion h resolved s.versions).1) s
      (exec (srv.writeData h resolved ctx scratch) s).2 := by
  unfold writeData
  rw [exec_get_bind]
  rcases srv.reportedVersion h resolved s.versions with ⟨dataVersion, versions⟩
  simp only
  rw [exec_set_bind]
  refine Adds.of_packed_eq (t := { s with versions := versions }) rfl ?_
  split_ifs
  · exact Moves.pure true _
  · refine ((Moves.ofResult _).bind fun value => ?_) _
    cases value with
    | error status => exact srv.writeStatus_adds resolved.path status rfl
    | ok encoded => exact srv.writeValue_adds resolved.path dataVersion encoded

lemma writeData_adds (resolved : Resolved) :
    Moves (Adds (Block.About resolved.path)) (srv.writeData h resolved ctx scratch) :=
  fun s => (srv.writeData_from h ctx scratch resolved s).mono fun _ => Block.From.about

/-- The blocks of a concrete path are statuses of that path, or those of the attribute it names. -/
lemma serveConcrete_adds {path : AttributePath} {concrete : EndpointId × ClusterId × AttributeId}
    (hstatus : ∀ status, P (.attribute (.status ⟨path, .new status⟩)))
    (hdata : ∀ resolved, srv.node.resolve concrete.1 concrete.2.1 concrete.2.2 = .ok resolved →
      Moves (Adds P) (srv.writeData h resolved ctx scratch)) :
    Moves (Adds P) (srv.serveConcrete h path concrete ctx scratch) := by
  unfold serveConcrete
  split
  · exact srv.writeStatus_adds path _ (hstatus _)
  split
  · exact srv.writeStatus_adds path _ (hstatus _)
  rename_i resolved hresolve
  split
  · exact srv.writeStatus_adds path _ (hstatus _)
  split
  · exact srv.writeStatus_adds path _ (hstatus _)
  split
  · exact srv.writeStatus_adds path _ (hstatus _)
  exact hdata resolved hresolve

/-- The blocks of an expansion are those of its readable attributes. -/
lemma serveExpanded_adds {entries : List (ExpandCursor × Resolved)}
    (hdata : ∀ entry ∈ entries, srv.readable h entry.2 = true →
      Moves (Adds P) (srv.writeData h entry.2 ctx scratch)) :
    Moves (Adds P) (srv.serveExpanded h ctx scratch entries) := by
  induction entries with
  | nil => exact (moveCursor_adds _).bind fun _ => Moves.pure true
  | cons entry entries ih =>
    obtain ⟨resume, resolved⟩ := entry
    have hrest := ih fun entry hmem => hdata entry (List.mem_cons_of_mem _ hmem)
    unfold serveExpanded
    split_ifs with hreadable
    · refine (hdata _ List.mem_cons_self hreadable).bind fun fitted => ?_
      cases fitted with
      | true => exact hrest
      | false => exact (moveCursor_adds _).bind fun _ => Moves.pure false
    · exact hrest

/-! ### Events -/

/-- Records are packed from the front, each as the block it makes behind the one before it. -/
lemma serveRecords_adds (previous : Option Timestamp) (next : UInt64) (records : List EventRecord) :
    Moves (Adds fun b => ∃ record ∈ records, ∃ before, b = .event (.data (eventData before record)))
      (srv.serveRecords previous next records) := by
  induction records generalizing previous next with
  | nil => exact Moves.pure _
  | cons record records ih =>
    apply Moves.get
    intro s
    have hput : Moves (Adds fun b => ∃ r ∈ record :: records, ∃ before,
        b = .event (.data (eventData before r)))
        (srv.put (.event (.data (eventData previous record)))) :=
      srv.put_adds ⟨record, List.mem_cons_self, previous, rfl⟩
    have hhead := hput s
    rcases hrun : exec (srv.put (.event (.data (eventData previous record)))) s with ⟨result, s'⟩
    rw [hrun] at hhead
    simp only
    rw [exec_set_bind]
    refine IsTrans.trans _ _ _ hhead ?_
    split
    · refine adds_mono ?_ (ih (some record.timestamp) (satAdd record.number 1)) s'
      rintro b ⟨r, hmem, hr⟩
      exact ⟨r, List.mem_cons_of_mem _ hmem, hr⟩
    · exact Moves.pure _ s'

/-- The blocks of an event path are a status, or the records its log has for it. -/
lemma serveEventPath_adds (path : EventPath) (since : UInt64) :
    Moves (Adds fun b => (∃ status, b = .event (.status status)) ∨
        ∃ matching, srv.events = some matching ∧ srv.eventRefusal h path = none ∧
          ∃ record ∈ matching path ctx.fabricIndex (max since (eventFloor ctx)),
            ∃ before, b = .event (.data (eventData before record)))
      (srv.serveEventPath h path ctx since) := by
  unfold serveEventPath
  split
  · refine Moves.bind (srv.put_adds (.inl ⟨_, rfl⟩)) fun fitted => Moves.pure _
  · rename_i hrefusal
    split
    · exact Moves.pure _
    · rename_i matching hevents
      refine adds_mono ?_ (srv.serveRecords_adds _ _ _)
      rintro b ⟨record, hmem, hb⟩
      exact .inr ⟨matching, hevents, hrefusal, record, hmem, hb⟩

/-! ### Messages -/

variable {paths : List (Except ErrorCode AttributePath)}
  {events : List (Except ErrorCode EventPath)}

lemma servePaths_adds
    (hpaths : ∀ path, .ok path ∈ paths → Moves (Adds P) (srv.servePathChunked h path ctx scratch))
    (first index : ℕ) : Moves (Adds P) (srv.servePaths h ctx scratch first index paths) := by
  induction paths generalizing index with
  | nil => exact Moves.pure false
  | cons path paths ih =>
    have hrest := ih fun p hp => hpaths p (List.mem_cons_of_mem _ hp)
    apply Moves.ofResult_bind
    rintro p rfl
    split_ifs
    · exact hrest (index + 1)
    · refine (moveCursor_adds _).bind fun _ =>
        (hpaths p List.mem_cons_self).bind fun finished => ?_
      cases finished with
      | true => exact (moveCursor_adds _).bind fun _ => hrest (index + 1)
      | false => exact Moves.pure true

lemma serveEventAt_adds {path : EventPath}
    (hpath : ∀ since, Moves (Adds P) (srv.serveEventPath h path ctx since)) (index : ℕ)
    (opened : Bool) : Moves (Adds P) (srv.serveEventAt h ctx index opened path) := by
  have hopen : Moves (Adds P) (openEvents opened : Serving ν Unit) := by
    unfold openEvents
    split_ifs
    · exact Moves.pure ()
    · exact writing_adds _
  refine hopen.bind fun _ => (moveCursor_adds _).bind fun _ => ?_
  apply Moves.get
  intro s
  exact ((hpath _).bind fun served => (moveCursor_adds _).bind fun _ => Moves.pure served) s

lemma serveEvents_adds {paths : List (Except ErrorCode EventPath)}
    (hpaths : ∀ path, .ok path ∈ paths → ∀ since, Moves (Adds P) (srv.serveEventPath h path ctx since))
    (index : ℕ) (progress : EventProgress) :
    Moves (Adds P) (srv.serveEvents h ctx index progress paths) := by
  induction paths generalizing index progress with
  | nil => exact Moves.pure progress
  | cons path paths ih =>
    have hrest := ih fun p hp => hpaths p (List.mem_cons_of_mem _ hp)
    apply Moves.ofResult_bind
    rintro p rfl
    apply Moves.get
    intro s
    split_ifs
    · exact hrest (index + 1) progress s
    · refine (Moves.bind (srv.serveEventAt_adds h ctx (hpaths p List.mem_cons_self) _ _)
        fun served => ?_) s
      simp only
      split_ifs
      · exact (moveCursor_adds _).bind fun _ => hrest _ _
      · exact Moves.pure _

lemma serveEventHalf_adds (hevents : ∀ path, .ok path ∈ events → ∀ since,
      Moves (Adds P) (srv.serveEventPath h path ctx since)) :
    Moves (Adds P) (srv.serveEventHalf h events ctx) := by
  refine (writing_adds _).bind fun _ =>
    (srv.serveEvents_adds h ctx hevents 0 {}).bind fun progress => ?_
  exact (writing_adds _).bind fun _ => Moves.pure progress

lemma serveReports_adds
    (hpaths : ∀ path, .ok path ∈ paths → Moves (Adds P) (srv.servePathChunked h path ctx scratch))
    (hevents : ∀ path, .ok path ∈ events → ∀ since,
      Moves (Adds P) (srv.serveEventPath h path ctx since)) (subscriptionId : Option UInt32) :
    Moves (Adds P) (srv.serveReports h paths events ctx subscriptionId scratch) := by
  refine (writing_adds _).bind fun _ => ?_
  apply Moves.get
  intro s
  refine (Moves.bind (srv.servePaths_adds h ctx scratch hpaths s.cursor.path 0) fun stopped => ?_) s
  cases stopped with
  | true => exact (Moves.pure _).bind fun progress => Moves.pure _
  | false => exact (srv.serveEventHalf_adds h ctx hevents).bind fun progress => Moves.pure _

lemma closeReport_adds (stopped : Bool) (progress : EventProgress) :
    Moves (Adds P) (closeReport stopped progress : Serving ν (List UInt8 × ReadOutcome)) := by
  apply Moves.get
  intro s
  have hdone : Moves (Adds P) (markDone progress.truncated : Serving ν Unit) := by
    unfold markDone
    split_ifs
    · exact Moves.pure ()
    · exact moveCursor_adds _
  refine Moves.bind ?_ (fun _ => hdone.bind fun _ => (writing_adds _).bind fun _ => ?_) s
  · exact Moves.require _ _
  apply Moves.get
  intro s
  exact ((Moves.ofResult _).bind fun bytes => Moves.pure _) s

/-- Every block of a message comes from one of its paths. -/
lemma serveChunkWithEvents_blocks
    (hpaths : ∀ path, .ok path ∈ paths → Moves (Adds P) (srv.servePathChunked h path ctx scratch))
    (hevents : ∀ path, .ok path ∈ events → ∀ since,
      Moves (Adds P) (srv.serveEventPath h path ctx since)) (subscriptionId : Option UInt32)
    (buf : Slice) (s : ReadState ν) :
    ∀ b ∈ (exec (srv.serveChunkWithEvents h paths events ctx subscriptionId scratch buf)
      s).2.packed.blocks, P b := by
  unfold serveChunkWithEvents
  rw [exec_modify_bind]
  obtain ⟨new, hblocks, hP⟩ := ((srv.serveReports_adds h ctx scratch hpaths hevents
    subscriptionId).bind fun r => closeReport_adds r.1 r.2)
    { s with packed := ⟨TlvWriter.new buf, 0, []⟩ }
  rw [show exec _ _ = _ from rfl, hblocks]
  exact hP

/-! ## What serving attributes keeps -/

/-- A property of states that packing a block of an attribute report keeps, wherever the cursor is in
the attributes and whatever the versions are. -/
structure Steady (srv : Server η ν) (I : ReadState ν → Prop) : Prop where
  put : ∀ b : Block, b.attributePath?.isSome = true → Ensures I (srv.put b) fun _ => I
  cursor : ∀ s path expansion list, I s →
    I { s with cursor := { s.cursor with path := path, expansion := expansion, list := list } }
  versions : ∀ s versions, I s → I { s with versions := versions }

/-- A move of the cursor among the attributes. -/
def AmongAttributes (f : ReadCursor → ReadCursor) : Prop :=
  ∀ c, ∃ path expansion list, f c = { c with path := path, expansion := expansion, list := list }

namespace Steady

variable {srv} {I : ReadState ν → Prop} (hI : Steady srv I)
include hI

lemma moveCursor {f : ReadCursor → ReadCursor} (hf : AmongAttributes f) :
    Ensures I (Serving.moveCursor f) fun _ => I := by
  refine Ensures.modify fun s hs => ?_
  obtain ⟨path, expansion, list, hc⟩ := hf s.cursor
  rw [hc]
  exact hI.cursor s path expansion list hs

lemma moveCursor_pure {α : Type} {f : ReadCursor → ReadCursor} (hf : AmongAttributes f) (a : α) :
    Ensures I (do Serving.moveCursor f; pure a) fun _ => I :=
  (hI.moveCursor hf).bind fun _ => Ensures.pure fun _ hs => hs

lemma writeStatus (status : Status) : Ensures I (srv.writeStatus path status) fun _ => I := hI.put _ rfl

variable (dataVersion : Option UInt32)

lemma writeItems (index : ℕ) (items : List (Except ErrorCode (List UInt8))) :
    Ensures I (srv.writeItems path dataVersion index items) fun _ => I := by
  induction items generalizing index with
  | nil => exact hI.moveCursor_pure (fun _ => ⟨_, _, _, rfl⟩) true
  | cons item items ih =>
    unfold Server.writeItems
    apply Ensures.ofResult_bind
    intro bytes _
    refine (hI.put _ rfl).bind fun fitted => ?_
    cases fitted with
    | true => exact ih (index + 1)
    | false =>
      apply Ensures.get
      intro s
      refine Ensures.weaken (P := I) ?_ (fun _ hs => hs.2) fun _ _ h => h
      split_ifs
      · exact (hI.moveCursor fun _ => ⟨_, _, _, rfl⟩).bind fun _ => hI.writeStatus path _
      · exact hI.moveCursor_pure (fun _ => ⟨_, _, _, rfl⟩) false

lemma writeListInChunks (encoded : List UInt8) :
    Ensures I (srv.writeListInChunks path dataVersion encoded) fun _ => I := by
  unfold Server.writeListInChunks
  cases listItems encoded with
  | none => exact (hI.moveCursor fun _ => ⟨_, _, _, rfl⟩).bind fun _ => hI.writeStatus path _
  | some items =>
    apply Ensures.get
    intro s
    refine Ensures.weaken (P := I) ?_ (fun _ hs => hs.2) fun _ _ h => h
    rcases s.cursor.list with _ | sent
    · refine (hI.put _ rfl).bind fun fitted => ?_
      cases fitted with
      | true => exact (hI.moveCursor fun _ => ⟨_, _, _, rfl⟩).bind fun _ => hI.writeItems path dataVersion 0 items
      | false => exact Ensures.pure fun _ hs => hs
    · exact hI.writeItems path dataVersion _ _

lemma writeValue (encoded : List UInt8) :
    Ensures I (srv.writeValue path dataVersion encoded) fun _ => I := by
  apply Ensures.get
  intro s
  refine Ensures.weaken (P := I) ?_ (fun _ hs => hs.2) fun _ _ h => h
  split_ifs
  · refine (hI.put _ rfl).bind fun fitted => ?_
    cases fitted with
    | true => exact Ensures.pure fun _ hs => hs
    | false =>
      apply Ensures.get
      intro s
      refine Ensures.weaken (P := I) ?_ (fun _ hs => hs.2) fun _ _ h => h
      split_ifs
      · exact hI.writeListInChunks path dataVersion encoded
      · exact Ensures.pure fun _ hs => hs
  · exact hI.writeListInChunks path dataVersion encoded

lemma writeData (resolved : Resolved) : Ensures I (srv.writeData h resolved ctx scratch) fun _ => I := by
  apply Ensures.get
  intro s
  rcases srv.reportedVersion h resolved s.versions with ⟨dataVersion, versions⟩
  refine Ensures.bind (Q := fun _ => I) ?_ fun _ => ?_
  · rintro _ ⟨rfl, hs⟩ _ _ hrun
    cases hrun
    exact hI.versions _ versions hs
  split_ifs
  · exact Ensures.pure fun _ hs => hs
  · apply Ensures.ofResult_bind
    intro value _
    cases value with
    | error status => exact hI.writeStatus resolved.path status
    | ok encoded => exact hI.writeValue resolved.path dataVersion encoded

lemma serveConcrete (concrete : EndpointId × ClusterId × AttributeId) :
    Ensures I (srv.serveConcrete h path concrete ctx scratch) fun _ => I := by
  unfold Server.serveConcrete
  split
  · exact hI.writeStatus path _
  split
  · exact hI.writeStatus path _
  split
  · exact hI.writeStatus path _
  split
  · exact hI.writeStatus path _
  split
  · exact hI.writeStatus path _
  exact hI.writeData h ctx scratch _

lemma serveExpanded (entries : List (ExpandCursor × Resolved)) :
    Ensures I (srv.serveExpanded h ctx scratch entries) fun _ => I := by
  induction entries with
  | nil => exact hI.moveCursor_pure (fun _ => ⟨_, _, _, rfl⟩) true
  | cons entry entries ih =>
    unfold Server.serveExpanded
    split_ifs
    · refine (hI.writeData h ctx scratch entry.2).bind fun fitted => ?_
      cases fitted with
      | true => exact ih
      | false => exact hI.moveCursor_pure (fun _ => ⟨_, _, _, rfl⟩) false
    · exact ih

lemma servePathChunked : Ensures I (srv.servePathChunked h path ctx scratch) fun _ => I := by
  unfold Server.servePathChunked
  split_ifs
  · exact hI.writeStatus path _
  · exact Ensures.pure fun _ hs => hs
  · split
    · exact hI.serveConcrete h ctx scratch path _
    · apply Ensures.get
      intro s
      exact (hI.serveExpanded h ctx scratch _).weaken (fun _ hs => hs.2) fun _ _ h => h

lemma servePaths (first index : ℕ) (paths : List (Except ErrorCode AttributePath)) :
    Ensures I (srv.servePaths h ctx scratch first index paths) fun _ => I := by
  induction paths generalizing index with
  | nil => exact Ensures.pure fun _ hs => hs
  | cons path paths ih =>
    apply Ensures.ofResult_bind
    intro p _
    split_ifs
    · exact ih (index + 1)
    · refine (hI.moveCursor fun _ => ⟨_, _, _, rfl⟩).bind fun _ => (hI.servePathChunked h ctx scratch p).bind fun done => ?_
      cases done with
      | true => exact (hI.moveCursor fun _ => ⟨_, _, _, rfl⟩).bind fun _ => ih (index + 1)
      | false => exact Ensures.pure fun _ hs => hs

end Steady

end Server

/-! ## The parts of a message -/

/-- The second state differs from the first in the writer only. -/
structure Rewritten (s s' : ReadState ν) : Prop where
  blocks_eq : s'.packed.blocks = s.packed.blocks
  responses_eq : s'.packed.responses = s.packed.responses
  cursor_eq : s'.cursor = s.cursor
  versions_eq : s'.versions = s.versions

lemma writing_of_ok {x : Writing Unit} {u : Unit} {s s' : ReadState ν}
    (hrun : exec (Serving.writing x) s = (.ok u, s')) :
    Rewritten s s' ∧ exec x s.packed.w = (.ok (), s'.packed.w) := by
  rw [Serving.exec_writing] at hrun
  obtain ⟨hresult, rfl⟩ := Prod.mk.inj hrun
  exact ⟨⟨rfl, rfl, rfl, rfl⟩, Prod.ext hresult rfl⟩

namespace Server

variable (srv : Server η ν) (h : η) (ctx : InteractionContext) (scratch : Slice)

variable {progress : EventProgress} {s s' : ReadState ν} {r : List UInt8 × ReadOutcome}
  {events : List (Except ErrorCode EventPath)}

/-- The end of a message leaves its blocks, and notes that the read is over if it is. -/
lemma closeReport_of_ok {stopped : Bool} (hrun : exec (closeReport stopped progress) s = (.ok r, s')) :
    r.2 = ⟨s.packed.responses, progress.truncated, progress.through⟩ ∧
      (progress.truncated = true → s.packed.responses ≠ 0) ∧
      Rewritten { s with cursor := { s.cursor with done := s.cursor.done || !progress.truncated } } s' := by
  rw [closeReport, exec_get_bind] at hrun
  obtain ⟨hsaid, hrun⟩ := exec_require_bind_eq_ok.mp hrun
  obtain ⟨_, s₁, hdone, hrun⟩ := exec_bind_eq_ok.mp hrun
  have hmark : s₁ = { s with cursor := { s.cursor with done := s.cursor.done || !progress.truncated } } := by
    unfold markDone at hdone
    split_ifs at hdone with htruncated
    · cases hdone
      rw [htruncated, Bool.not_true, Bool.or_false]
    · rw [Serving.exec_moveCursor] at hdone
      cases hdone
      rw [Bool.eq_false_iff.mpr htruncated, Bool.not_false, Bool.or_true]
  obtain ⟨_, s₂, hwriting, hrun⟩ := exec_bind_eq_ok.mp hrun
  obtain ⟨hsame, _⟩ := writing_of_ok hwriting
  rw [exec_get_bind] at hrun
  obtain ⟨bytes, s₃, hfinish, hrun⟩ := exec_bind_eq_ok.mp hrun
  rw [exec_ofResult] at hfinish
  obtain ⟨_, rfl⟩ := Prod.mk.inj hfinish
  cases hrun
  subst hmark
  refine ⟨?_, fun htruncated hnone => hsaid ⟨htruncated, hnone⟩, hsame⟩
  rw [hsame.responses_eq]

/-- A message that is built has a head, the attribute half, the event half if there is room for it,
and a tail. -/
lemma serveChunkWithEvents_of_ok {paths : List (Except ErrorCode AttributePath)}
    {subscriptionId : Option UInt32} {buf : Slice}
    (hrun : exec (srv.serveChunkWithEvents h paths events ctx subscriptionId scratch buf) s =
      (.ok r, s')) :
    ∃ stopped progress s₁ s₂ s₃,
      Rewritten { s with packed := ⟨TlvWriter.new buf, 0, []⟩ } s₁ ∧
      exec (reportHead subscriptionId) (TlvWriter.new buf) = (.ok (), s₁.packed.w) ∧
      exec (srv.servePaths h ctx scratch s.cursor.path 0 paths) s₁ = (.ok stopped, s₂) ∧
      (stopped = true → progress = { truncated := true } ∧ s₃ = s₂) ∧
      (stopped = false → exec (srv.serveEventHalf h events ctx) s₂ = (.ok progress, s₃)) ∧
      exec (closeReport stopped progress) s₃ = (.ok r, s') := by
  rw [serveChunkWithEvents, exec_modify_bind] at hrun
  obtain ⟨⟨stopped, progress⟩, s₃, hreports, hclose⟩ := exec_bind_eq_ok.mp hrun
  obtain ⟨_, s₁, hhead, hreports⟩ := exec_bind_eq_ok.mp hreports
  obtain ⟨hsame, hwrite⟩ := writing_of_ok hhead
  rw [exec_get_bind] at hreports
  obtain ⟨stopped', s₂, hpaths, hreports⟩ := exec_bind_eq_ok.mp hreports
  rw [hsame.cursor_eq] at hpaths
  cases stopped' with
  | true =>
    cases hreports
    exact ⟨true, _, s₁, s₃, s₃, hsame, hwrite, hpaths, fun _ => ⟨rfl, rfl⟩, nofun, hclose⟩
  | false =>
    obtain ⟨progress', s₄, hhalf, hreports⟩ := exec_bind_eq_ok.mp hreports
    cases hreports
    exact ⟨false, _, s₁, s₂, s₃, hsame, hwrite, hpaths, nofun, fun _ => hhalf, hclose⟩

/-- The event half of a message is its event paths, up to the writer. -/
lemma serveEventHalf_of_ok (hrun : exec (srv.serveEventHalf h events ctx) s = (.ok progress, s')) :
    ∃ s₁ s₂, Rewritten s s₁ ∧ exec (srv.serveEvents h ctx 0 {} events) s₁ = (.ok progress, s₂) ∧
      Rewritten s₂ s' := by
  obtain ⟨_, s₁, hend, hrun⟩ := exec_bind_eq_ok.mp hrun
  obtain ⟨progress', s₂, hserve, hrun⟩ := exec_bind_eq_ok.mp hrun
  obtain ⟨_, s₃, hlast, hrun⟩ := exec_bind_eq_ok.mp hrun
  cases hrun
  exact ⟨s₁, s₂, (writing_of_ok hend).1, hserve, (writing_of_ok hlast).1⟩

end Server

end MatterKit.Im
