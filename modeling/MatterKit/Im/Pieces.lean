import MatterKit.Im.Blocks

/-!
# What a message still has to carry

What a read has still to send does not depend on the message it goes into: it is laid out here, from the
request, the cursor and the device, as the pieces that are written in turn (`attributePieces`,
`eventPieces`). A piece is a block, so many octets around the blocks, or a fault: something of the
request or of a cluster that ends the call with an error.

`pack` says by the sizes alone how far a message gets with them: the blocks go in one after the other
while there is room, and the first that does not fit ends the message. That serving the attribute paths
does just this is `servePaths_fills`, put together from a lemma for each function of the server.
-/

namespace MatterKit.Im

open Lib Machine Tlv Dm

variable {η ν : Type}

/-! ## Pieces -/

/-- What is written next. -/
inductive Piece
  | block (b : Block)
  | frame (octets : ℕ)
  | fault

/-- How packing ends: with all pieces written, in front of a block that does not fit, or with an
error. -/
inductive Packing
  | finished (m : Meter)
  | full (m : Meter)
  | fault

/-- What becomes of a block in a buffer of its own. -/
def Block.alone (b : Block) (buf : Slice) : Except ErrorCode Unit × TlvWriter :=
  exec b.encode (inside buf)

/-- The octets of a block. -/
def Block.size (b : Block) (buf : Slice) : ℕ := (b.alone buf).2.pos

/-- A block has a place in what room there is. -/
def Block.Fits (b : Block) (buf : Slice) (room : ℕ) : Prop :=
  (b.alone buf).1 ≠ .error .bufferTooSmall ∧ b.size buf ≤ room

instance (b : Block) (buf : Slice) (room : ℕ) : Decidable (b.Fits buf room) :=
  inferInstanceAs (Decidable (_ ∧ _))

/-- Packs pieces into what room there is, blocks up to a limit. -/
def pack (limit : ℕ) (buf : Slice) : Meter → List Piece → Packing
  | m, [] => .finished m
  | m, .frame octets :: pieces =>
    if octets ≤ m.room then pack limit buf { m with room := m.room - octets } pieces else .fault
  | _, .fault :: _ => .fault
  | m, .block b :: pieces =>
    if m.reports < limit ∧ b.Fits buf m.room then
      if (b.alone buf).1 = .ok () then
        pack limit buf ⟨m.room - b.size buf, m.reports + 1⟩ pieces
      else .fault
    else .full m

section Pack

variable {limit : ℕ} {buf : Slice} {m m' : Meter} {pieces : List Piece}

lemma pack_block (b : Block) : pack limit buf m (.block b :: pieces) =
    if m.reports < limit ∧ b.Fits buf m.room then
      if (b.alone buf).1 = .ok () then pack limit buf ⟨m.room - b.size buf, m.reports + 1⟩ pieces
      else .fault
    else .full m := rfl

lemma pack_frame (octets : ℕ) : pack limit buf m (.frame octets :: pieces) =
    if octets ≤ m.room then pack limit buf { m with room := m.room - octets } pieces
    else .fault := rfl

/-- Pieces are packed part by part. -/
lemma pack_append (pieces rest : List Piece) : pack limit buf m (pieces ++ rest) =
    match pack limit buf m pieces with
    | .finished m' => pack limit buf m' rest
    | stopped => stopped := by
  induction pieces generalizing m with
  | nil => rfl
  | cons piece pieces ih =>
    rw [List.cons_append]
    cases piece with
    | block b =>
      rw [pack_block, pack_block]
      split_ifs
      · exact ih
      · rfl
      · rfl
    | frame octets =>
      rw [pack_frame, pack_frame]
      split_ifs
      · exact ih
      · rfl
    | fault => rfl

/-- How pieces that are followed by others are packed. -/
inductive Joined (limit : ℕ) (buf : Slice) (m : Meter) (pieces rest : List Piece) : Packing → Prop
  | finished (m' : Meter) (p : Packing) (hfirst : pack limit buf m pieces = .finished m')
      (hpack : pack limit buf m' rest = p) : Joined limit buf m pieces rest p
  | full (m' : Meter) (hfirst : pack limit buf m pieces = .full m') :
      Joined limit buf m pieces rest (.full m')
  | fault (hfirst : pack limit buf m pieces = .fault) : Joined limit buf m pieces rest .fault

lemma joined {rest : List Piece} {p : Packing} (hpack : pack limit buf m (pieces ++ rest) = p) :
    Joined limit buf m pieces rest p := by
  rw [pack_append] at hpack
  rcases hfirst : pack limit buf m pieces with m' | m' | _ <;> rw [hfirst] at hpack
  · exact .finished m' p hfirst hpack
  · exact hpack ▸ .full m' hfirst
  · exact hpack ▸ .fault hfirst

lemma pack_append_of_finished (h : pack limit buf m pieces = .finished m') (rest : List Piece) :
    pack limit buf m (pieces ++ rest) = pack limit buf m' rest := by
  rw [pack_append, h]

lemma pack_append_of_full (h : pack limit buf m pieces = .full m') (rest : List Piece) :
    pack limit buf m (pieces ++ rest) = .full m' := by
  rw [pack_append, h]

lemma pack_append_of_fault (h : pack limit buf m pieces = .fault) (rest : List Piece) :
    pack limit buf m (pieces ++ rest) = .fault := by
  rw [pack_append, h]

/-- Blocks that are packed are counted. -/
lemma reports_le_of_full (h : pack limit buf m pieces = .full m') : m.reports ≤ m'.reports := by
  induction pieces generalizing m with
  | nil => cases h
  | cons piece pieces ih =>
    cases piece with
    | block b =>
      rw [pack_block] at h
      split_ifs at h
      · exact (Nat.le_succ _).trans (ih h)
      · cases h
        exact Nat.le_refl _
    | frame octets =>
      rw [pack_frame] at h
      split_ifs at h
      have hle := ih h
      exact hle
    | fault => cases h

end Pack

/-! ## What attribute paths ask for -/

/-- What is to be written, and the place in a list and the versions behind it. -/
structure Outstanding (ν : Type) where
  pieces : List Piece
  list : Option UInt32
  versions : ν

/-- An item of a list that is sent in parts. -/
def itemPiece (dataVersion : Option UInt32) (path : AttributePath) :
    Except ErrorCode (List UInt8) → Piece
  | .error _ => .fault
  | .ok item => .block (.item dataVersion path item)

def statusPiece (path : AttributePath) (status : Status) : Piece :=
  .block (.attribute (.status ⟨path, .new status⟩))

/-- A value, or what is left of it behind a place in its list. -/
def valuePieces (path : AttributePath) (dataVersion : Option UInt32) (encoded : List UInt8) :
    Option UInt32 → List Piece
  | none => [.block (.attribute (.data ⟨dataVersion, path, encoded⟩))]
  | some sent =>
    match listItems encoded with
    | none => [statusPiece path .resourceExhausted]
    | some items => (items.drop sent.toNat).map (itemPiece dataVersion path)

namespace Server

variable (srv : Server η ν) (h : η) (ctx : InteractionContext) (scratch : Slice)

/-- What the attribute of a resolved path asks for. -/
def dataPieces (resolved : Resolved) (list : Option UInt32) (v : ν) : Outstanding ν :=
  let version := srv.reportedVersion h resolved v
  if alreadyHeld resolved ctx version.1 then ⟨[], list, version.2⟩
  else
    match srv.encodeValue h resolved ctx scratch with
    | .error _ => ⟨[.fault], list, version.2⟩
    | .ok (.error status) => ⟨[statusPiece resolved.path status], list, version.2⟩
    | .ok (.ok encoded) => ⟨valuePieces resolved.path version.1 encoded list, none, version.2⟩

/-- What a concrete path is answered with: a status, or the data of what it resolves to. -/
def concreteAnswer (path : AttributePath) (concrete : EndpointId × ClusterId × AttributeId) :
    Except Status Resolved :=
  match (srv.allows h path .view).status with
  | some status => .error status
  | none =>
    match srv.node.resolve concrete.1 concrete.2.1 concrete.2.2 with
    | .error missing => .error (missingStatus .unsupportedAttribute missing)
    | .ok resolved =>
      match resolved.cluster.attribute? concrete.2.2 with
      | none => .error .unsupportedAttribute
      | some descriptor =>
        match descriptor.access.read with
        | none => .error .unsupportedRead
        | some required =>
          match (srv.allows h path required).status with
          | some status => .error status
          | none => .ok resolved

/-- What a concrete path asks for. -/
def concretePieces (path : AttributePath) (concrete : EndpointId × ClusterId × AttributeId)
    (list : Option UInt32) (v : ν) : Outstanding ν :=
  match srv.concreteAnswer h path concrete with
  | .error status => ⟨[statusPiece path status], list, v⟩
  | .ok resolved => srv.dataPieces h ctx scratch resolved list v

/-- What the attributes of an expansion ask for. -/
def expandedPieces : List (ExpandCursor × Resolved) → Option UInt32 → ν → Outstanding ν
  | [], list, v => ⟨[], list, v⟩
  | (_, resolved) :: entries, list, v =>
    if srv.readable h resolved then
      let first := srv.dataPieces h ctx scratch resolved list v
      let others := expandedPieces entries first.list first.versions
      { others with pieces := first.pieces ++ others.pieces }
    else expandedPieces entries list v

/-- What an attribute path asks for. -/
def pathPieces (path : AttributePath) (expansion : ExpandCursor) (list : Option UInt32) (v : ν) :
    Outstanding ν :=
  if path.enableTagCompression then
    if path.concrete.isSome then ⟨[statusPiece path .invalidAction], list, v⟩ else ⟨[], list, v⟩
  else
    match path.concrete with
    | some concrete => srv.concretePieces h ctx scratch path concrete list v
    | none => srv.expandedPieces h ctx scratch (srv.node.expandFrom path expansion) list v

/-- What the attribute paths from an index on ask for. -/
def attributePieces (first : ℕ) :
    ℕ → ExpandCursor → Option UInt32 → ν → List (Except ErrorCode AttributePath) → Outstanding ν
  | _, _, list, v, [] => ⟨[], list, v⟩
  | _, _, list, v, .error _ :: _ => ⟨[.fault], list, v⟩
  | index, expansion, list, v, .ok path :: paths =>
    if index < first then attributePieces first (index + 1) expansion list v paths
    else
      let asked := srv.pathPieces h ctx scratch path expansion list v
      let others := attributePieces first (index + 1) .start none asked.versions paths
      { others with pieces := asked.pieces ++ others.pieces }

variable (path : AttributePath)

lemma serveConcrete_eq (concrete : EndpointId × ClusterId × AttributeId) :
    srv.serveConcrete h path concrete ctx scratch =
      match srv.concreteAnswer h path concrete with
      | .error status => srv.writeStatus path status
      | .ok resolved => srv.writeData h resolved ctx scratch := by
  unfold serveConcrete concreteAnswer
  rcases (srv.allows h path .view).status with _ | status
  · rcases srv.node.resolve concrete.1 concrete.2.1 concrete.2.2 with missing | resolved
    · rfl
    · simp only
      rcases resolved.cluster.attribute? concrete.2.2 with _ | descriptor
      · rfl
      · simp only
        rcases descriptor.access.read with _ | required
        · rfl
        · simp only
          rcases (srv.allows h path required).status with _ | status
          · rfl
          · rfl
  · rfl

end Server

/-! ## A message and its meter -/

/-- The message being packed into a buffer stands at a nesting, with the room and the blocks of a
meter. -/
abbrev Metered (buf : Slice) (s : ReadState ν) (n : Nesting) (m : Meter) : Prop := Filled buf s.packed n m

/-- The rest of the state is as before. -/
structure Kept (s s' : ReadState ν) : Prop where
  cursor_eq : s'.cursor = s.cursor
  versions_eq : s'.versions = s.versions

variable {buf : Slice} {m : Meter} {s : ReadState ν}

lemma Metered.congr {s s' : ReadState ν} {n : Nesting} (h : Metered buf s n m)
    (hpacked : s'.packed = s.packed) : Metered buf s' n m := by
  show Filled buf s'.packed n m
  rw [hpacked]
  exact h

/-- What packing a block comes to, and the pieces after it. -/
inductive Puts (srv : Server η ν) (buf : Slice) (b : Block) (rest : List Piece) (s : ReadState ν)
    (m : Meter) : Packing → Prop
  | packed (s' : ReadState ν) (p : Packing) (hfits : m.reports < srv.limit ∧ b.Fits buf m.room)
      (hrun : exec (srv.put b) s = (.ok true, s'))
      (hs' : Metered buf s' inReports ⟨m.room - b.size buf, m.reports + 1⟩) (hkept : Kept s s')
      (hpack : pack srv.limit buf ⟨m.room - b.size buf, m.reports + 1⟩ rest = p) :
      Puts srv buf b rest s m p
  | full (s' : ReadState ν) (hrun : exec (srv.put b) s = (.ok false, s'))
      (hs' : Metered buf s' inReports m) (hkept : Kept s s') : Puts srv buf b rest s m (.full m)
  | fault (e : ErrorCode) (w' : TlvWriter) (hfits : m.reports < srv.limit ∧ b.Fits buf m.room)
      (hbad : (b.alone buf).1 = .error e) (hwrite : exec b.encode s.packed.w = (.error e, w'))
      (hrun : exec (srv.put b) s = (.error e, { s with packed := { s.packed with w := w' } })) :
      Puts srv buf b rest s m .fault

lemma puts (srv : Server η ν) (hs : Metered buf s inReports m) {b : Block} {rest : List Piece} {p : Packing}
    (hpack : pack srv.limit buf m (.block b :: rest) = p) : Puts srv buf b rest s m p := by
  replace hpack : (if m.reports < srv.limit ∧ FitsIn b.encode buf m.room then
      if (alone b.encode buf).1 = .ok () then pack srv.limit buf ⟨m.room - b.size buf, m.reports + 1⟩ rest
      else .fault
    else .full m) = p := hpack
  cases packs srv.limit balanced_block b hs with
  | packed p' hfits hok hrun hp' =>
    rw [if_pos hfits, if_pos hok] at hpack
    exact .packed { s with packed := p' } p hfits (by rw [srv.exec_put, hrun]) hp' ⟨rfl, rfl⟩ hpack
  | full p' hfull hrun hp' =>
    rw [if_neg hfull] at hpack
    subst hpack
    exact .full { s with packed := p' } (by rw [srv.exec_put, hrun]) hp' ⟨rfl, rfl⟩
  | fault e w' hfits hbad hwrite hrun =>
    rw [if_pos hfits, if_neg (hbad ▸ fun h => nomatch h)] at hpack
    subst hpack
    exact .fault e w' hfits hbad hwrite (by rw [srv.exec_put, hrun])

/-! ## Serving attributes packs their pieces -/

/-- What has been served leaves the place in the list and the versions it should, and the events
alone. -/
structure Leaves (s s' : ReadState ν) (o : Outstanding ν) : Prop where
  list_eq : s'.cursor.list = o.list
  versions_eq : s'.versions = o.versions
  eventPath_eq : s'.cursor.eventPath = s.cursor.eventPath
  eventFrom_eq : s'.cursor.eventFrom = s.cursor.eventFrom

/-- A step of serving packs pieces. A message that is full without a block is left out, unless it may
not have any. -/
structure Fills (srv : Server η ν) (buf : Slice) (x : Serving ν Bool) (s : ReadState ν)
    (o : Outstanding ν) : Prop where
  finished : ∀ m m', Metered buf s inReports m → pack srv.limit buf m o.pieces = .finished m' →
    ∃ s', exec x s = (.ok true, s') ∧ Metered buf s' inReports m' ∧ Leaves s s' o
  full : ∀ m m', Metered buf s inReports m → pack srv.limit buf m o.pieces = .full m' →
    0 < m'.reports → ∃ s', exec x s = (.ok false, s') ∧ Metered buf s' inReports m'
  blocked : srv.limit = 0 → ∀ m m', Metered buf s inReports m →
    pack srv.limit buf m o.pieces = .full m' → (exec x s).1 ≠ .ok true
  fault : ∀ m, Metered buf s inReports m → pack srv.limit buf m o.pieces = .fault →
    ∀ a, (exec x s).1 ≠ .ok a

namespace Fills

variable {srv : Server η ν} {buf : Slice} {x y : Serving ν Bool} {s : ReadState ν}
  {o o' : Outstanding ν}

/-- A step that leaves the message and the events alone may be taken first. -/
lemma after {s' : ReadState ν} (hy : Fills srv buf y s' o) (hx : exec x s = exec y s')
    (hpacked : s'.packed = s.packed) (hpath : s'.cursor.eventPath = s.cursor.eventPath)
    (hfrom : s'.cursor.eventFrom = s.cursor.eventFrom) : Fills srv buf x s o := by
  have hthere : ∀ {m}, Metered buf s inReports m → Metered buf s' inReports m := fun hs =>
    hs.congr hpacked
  constructor
  · intro m m' hs hpack
    obtain ⟨s'', hrun, hs'', hleaves⟩ := hy.finished m m' (hthere hs) hpack
    rw [hx]
    exact ⟨s'', hrun, hs'', hleaves.list_eq, hleaves.versions_eq, hleaves.eventPath_eq.trans hpath,
      hleaves.eventFrom_eq.trans hfrom⟩
  · intro m m' hs hpack
    rw [hx]
    exact hy.full m m' (hthere hs) hpack
  · intro hlimit m m' hs hpack
    rw [hx]
    exact hy.blocked hlimit m m' (hthere hs) hpack
  · intro m hs hpack
    rw [hx]
    exact hy.fault m (hthere hs) hpack

lemma congr (hy : Fills srv buf y s o) (hx : exec x s = exec y s) : Fills srv buf x s o :=
  hy.after hx rfl rfl rfl

/-- What writes nothing. -/
lemma nothing {s' : ReadState ν} (hrun : exec x s = (.ok true, s')) (hpacked : s'.packed = s.packed)
    (hnone : o.pieces = []) (hleaves : Leaves s s' o) : Fills srv buf x s o := by
  obtain ⟨pieces, list, versions⟩ := o
  obtain rfl : pieces = [] := hnone
  constructor
  · intro m m' hs hpack
    cases hpack
    exact ⟨s', hrun, hs.congr hpacked, hleaves⟩
  · intro m m' hs hpack
    cases hpack
  · intro hlimit m m' hs hpack
    cases hpack
  · intro m hs hpack
    cases hpack

/-- What fails. -/
lemma failed {e : ErrorCode} {s' : ReadState ν} (hrun : exec x s = (.error e, s')) {rest : List Piece}
    (hfault : o.pieces = .fault :: rest) : Fills srv buf x s o := by
  obtain ⟨pieces, list, versions⟩ := o
  obtain rfl : pieces = .fault :: rest := hfault
  constructor
  · intro m m' hs hpack
    cases hpack
  · intro m m' hs hpack
    cases hpack
  · intro hlimit m m' hs hpack
    cases hpack
  · intro m hs hpack a hok
    rw [hrun] at hok
    cases hok

/-- A block, and the pieces after it. What is done where the block does not fit ends the message,
without another block if there may be none. -/
lemma put {b : Block} {y z : Serving ν Bool} (hy : ∀ s', Kept s s' → Fills srv buf y s' o)
    (hz : ∀ s', s'.packed.responses ≠ 0 → ∃ s'', exec z s' = (.ok false, s'') ∧ s''.packed = s'.packed)
    (hblocked : srv.limit = 0 → ∀ s', Kept s s' → (exec z s').1 ≠ .ok true) :
    Fills srv buf (do if ← srv.put b then y else z) s { o with pieces := .block b :: o.pieces } := by
  have hleaves : ∀ {s' s'' : ReadState ν}, Kept s s' → Leaves s' s'' o →
      Leaves s s'' { o with pieces := .block b :: o.pieces } := by
    rintro s' s'' ⟨hcursor, hversions⟩ ⟨hlist, hversions', hpath, hfrom⟩
    rw [hcursor] at hpath hfrom
    exact ⟨hlist, hversions', hpath, hfrom⟩
  constructor
  · intro m m' hs hpack
    cases puts srv hs hpack with
    | packed s' _ hfits hrun hs' hkept hpack =>
      obtain ⟨s'', hrest, hs'', hafter⟩ := (hy s' hkept).finished _ _ hs' hpack
      refine ⟨s'', ?_, hs'', hleaves hkept hafter⟩
      rw [exec_bind_ok hrun]
      exact hrest
  · intro m m' hs hpack hsome
    cases puts srv hs hpack with
    | packed s' _ hfits hrun hs' hkept hpack =>
      obtain ⟨s'', hrest, hs''⟩ := (hy s' hkept).full _ _ hs' hpack hsome
      refine ⟨s'', ?_, hs''⟩
      rw [exec_bind_ok hrun]
      exact hrest
    | full s' hrun hs' hkept =>
      obtain ⟨s'', hstop, hpacked⟩ := hz s' (by rw [hs'.reports_eq]; omega)
      refine ⟨s'', ?_, hs'.congr hpacked⟩
      rw [exec_bind_ok hrun]
      exact hstop
  · intro hlimit m m' hs hpack
    cases puts srv hs hpack with
    | packed s' _ hfits hrun hs' hkept hpack =>
      have hnone := hfits.1
      omega
    | full s' hrun hs' hkept =>
      rw [exec_bind_ok hrun]
      exact hblocked hlimit s' hkept
  · intro m hs hpack a
    cases puts srv hs hpack with
    | packed s' _ hfits hrun hs' hkept hpack =>
      rw [exec_bind_ok hrun]
      exact (hy s' hkept).fault _ hs' hpack a
    | fault e w' hfits hbad hwrite hrun =>
      rw [exec_bind, hrun]
      exact fun h => nomatch h

/-- What is served in whole is followed by the next. -/
lemma next {z : Serving ν Bool} (hx : Fills srv buf x s o)
    (hy : ∀ s', Leaves s s' o → Fills srv buf y s' o')
    (hz : ∀ s' : ReadState ν, ∃ s'', exec z s' = (.ok false, s'') ∧ s''.packed = s'.packed) :
    Fills srv buf (do if ← x then y else z) s { o' with pieces := o.pieces ++ o'.pieces } := by
  have hleaves : ∀ {s' s'' : ReadState ν}, Leaves s s' o → Leaves s' s'' o' →
      Leaves s s'' { o' with pieces := o.pieces ++ o'.pieces } := fun hfirst hrest =>
    ⟨hrest.list_eq, hrest.versions_eq, hrest.eventPath_eq.trans hfirst.eventPath_eq,
      hrest.eventFrom_eq.trans hfirst.eventFrom_eq⟩
  constructor
  · intro m m' hs hpack
    cases joined hpack with
    | finished m₁ _ hfirst hpack =>
      obtain ⟨s₁, hrun, hs₁, hafter⟩ := hx.finished m m₁ hs hfirst
      obtain ⟨s₂, hrest, hs₂, hafter'⟩ := (hy s₁ hafter).finished m₁ m' hs₁ hpack
      refine ⟨s₂, ?_, hs₂, hleaves hafter hafter'⟩
      rw [exec_bind_ok hrun]
      exact hrest
  · intro m m' hs hpack hsome
    cases joined hpack with
    | finished m₁ _ hfirst hpack =>
      obtain ⟨s₁, hrun, hs₁, hafter⟩ := hx.finished m m₁ hs hfirst
      obtain ⟨s₂, hrest, hs₂⟩ := (hy s₁ hafter).full m₁ m' hs₁ hpack hsome
      refine ⟨s₂, ?_, hs₂⟩
      rw [exec_bind_ok hrun]
      exact hrest
    | full _ hfirst =>
      obtain ⟨s₁, hrun, hs₁⟩ := hx.full m m' hs hfirst hsome
      obtain ⟨s₂, hstop, hpacked⟩ := hz s₁
      refine ⟨s₂, ?_, hs₁.congr hpacked⟩
      rw [exec_bind_ok hrun]
      exact hstop
  · intro hlimit m m' hs hpack
    cases joined hpack with
    | finished m₁ _ hfirst hpack =>
      obtain ⟨s₁, hrun, hs₁, hafter⟩ := hx.finished m m₁ hs hfirst
      rw [exec_bind_ok hrun]
      exact (hy s₁ hafter).blocked hlimit m₁ m' hs₁ hpack
    | full _ hfirst =>
      have hstop := hx.blocked hlimit m m' hs hfirst
      rw [exec_bind]
      rcases hrun : exec x s with ⟨e | fitted, s₁⟩
      · exact fun h => nomatch h
      · cases fitted with
        | true => exact absurd (by rw [hrun]) hstop
        | false =>
          obtain ⟨s₂, hend, -⟩ := hz s₁
          show (exec z s₁).1 ≠ _
          rw [hend]
          exact fun h => nomatch h
  · intro m hs hpack a
    cases joined hpack with
    | finished m₁ _ hfirst hpack =>
      obtain ⟨s₁, hrun, hs₁, hafter⟩ := hx.finished m m₁ hs hfirst
      rw [exec_bind_ok hrun]
      exact (hy s₁ hafter).fault m₁ hs₁ hpack a
    | fault hfirst =>
      have hbad := hx.fault m hs hfirst
      rw [exec_bind]
      rcases hrun : exec x s with ⟨e | fitted, s₁⟩
      · exact fun h => nomatch h
      · exact absurd (by rw [hrun]) (hbad fitted)

end Fills

namespace Server

variable (srv : Server η ν) (h : η) (ctx : InteractionContext) (scratch : Slice) {buf : Slice}

lemma put_blocked {b : Block} (hlimit : srv.limit = 0) (s : ReadState ν) :
    exec (srv.put b) s = (.ok false, s) := srv.put_full (by omega)

variable (path : AttributePath)

lemma writeStatus_fills (status : Status) (s : ReadState ν) : Fills srv buf (srv.writeStatus path status) s
      ⟨[statusPiece path status], s.cursor.list, s.versions⟩ := by
  have hput : Fills srv buf (do
      if ← srv.put (.attribute (.status ⟨path, .new status⟩)) then pure true else pure false) s
      ⟨[statusPiece path status], s.cursor.list, s.versions⟩ := by
    refine Fills.put (o := ⟨[], s.cursor.list, s.versions⟩) (fun s' hkept => ?_)
      (fun s' _ => ⟨s', rfl, rfl⟩) fun _ s' _ h => nomatch h
    refine .nothing rfl rfl rfl ⟨?_, hkept.versions_eq, rfl, rfl⟩
    rw [hkept.cursor_eq]
  refine hput.congr ?_
  unfold writeStatus
  rw [exec_bind]
  rcases exec (srv.put _) s with ⟨e | fitted, s'⟩
  · rfl
  · cases fitted <;> rfl

variable (dataVersion : Option UInt32)

/-- The items of a list are packed one by one. -/
lemma writeItems_fills (index : ℕ) (items : List (Except ErrorCode (List UInt8))) (s : ReadState ν) :
    Fills srv buf (srv.writeItems path dataVersion index items) s
      ⟨items.map (itemPiece dataVersion path), none, s.versions⟩ := by
  induction items generalizing index s with
  | nil => exact .nothing rfl rfl rfl ⟨rfl, rfl, rfl, rfl⟩
  | cons item items ih =>
    cases item with
    | error e => exact .failed rfl rfl
    | ok item =>
      refine Fills.put (o := ⟨items.map (itemPiece dataVersion path), none, s.versions⟩)
        (fun s' hkept => ?_) (fun s' hsome => ?_) fun hlimit s' _ => ?_
      · rw [← hkept.versions_eq]
        exact ih (index + 1) s'
      · rw [exec_get_bind, if_neg hsome]
        exact ⟨_, rfl, rfl⟩
      · rw [exec_get_bind]
        split_ifs
        · rw [exec_bind_ok (Serving.exec_moveCursor _ s')]
          unfold writeStatus
          rw [srv.put_blocked hlimit]
          exact fun h => nomatch h
        · exact fun h => nomatch h

/-- A list is packed from the place in it. -/
lemma writeListInChunks_fills (encoded : List UInt8) {s : ReadState ν} {sent : UInt32}
    (hsent : s.cursor.list = some sent) :
    Fills srv buf (srv.writeListInChunks path dataVersion encoded) s
      ⟨valuePieces path dataVersion encoded (some sent), none, s.versions⟩ := by
  unfold writeListInChunks valuePieces
  rcases listItems encoded with _ | items
  · exact (srv.writeStatus_fills path .resourceExhausted
      { s with cursor := { s.cursor with list := none } }).after
        (exec_bind_ok (Serving.exec_moveCursor _ s) _) rfl rfl rfl
  · refine (srv.writeItems_fills path dataVersion sent.toNat (items.drop sent.toNat) s).congr ?_
    simp only
    rw [exec_get_bind, hsent]

/-- A list of which nothing has been sent is not begun in a message that may have no blocks. -/
lemma writeListInChunks_blocked (encoded : List UInt8) (hlimit : srv.limit = 0) {s : ReadState ν}
    (hnone : s.cursor.list = none) :
    (exec (srv.writeListInChunks path dataVersion encoded) s).1 = .ok false := by
  unfold writeListInChunks
  rcases listItems encoded with _ | items
  · rw [exec_bind_ok (Serving.exec_moveCursor _ s)]
    unfold writeStatus
    rw [srv.put_blocked hlimit]
  · simp only
    rw [exec_get_bind, hnone]
    simp only
    rw [exec_bind_ok (srv.put_blocked hlimit s)]
    rfl

/-- A value in one block, or a list of them in several. -/
lemma writeValue_fills (encoded : List UInt8) (s : ReadState ν) :
    Fills srv buf (srv.writeValue path dataVersion encoded) s
      ⟨valuePieces path dataVersion encoded s.cursor.list, none, s.versions⟩ := by
  rcases hlist : s.cursor.list with _ | sent
  · have hput : Fills srv buf (do
        if ← srv.put (.attribute (.data ⟨dataVersion, path, encoded⟩)) then pure true
        else do
          let s ← get
          if s.packed.responses = 0 then srv.writeListInChunks path dataVersion encoded
          else pure false) s ⟨valuePieces path dataVersion encoded none, none, s.versions⟩ := by
      refine Fills.put (o := ⟨[], none, s.versions⟩) (fun s' hkept => ?_) (fun s' hsome => ?_)
        fun hlimit s' hkept => ?_
      · refine .nothing rfl rfl rfl ⟨?_, hkept.versions_eq, rfl, rfl⟩
        rw [hkept.cursor_eq, hlist]
      · rw [exec_get_bind, if_neg hsome]
        exact ⟨_, rfl, rfl⟩
      · rw [exec_get_bind]
        split_ifs
        · rw [srv.writeListInChunks_blocked path dataVersion encoded hlimit
            (by rw [hkept.cursor_eq, hlist])]
          exact fun h => nomatch h
        · exact fun h => nomatch h
    refine hput.congr ?_
    unfold writeValue
    rw [exec_get_bind, if_pos hlist]
  · refine (srv.writeListInChunks_fills path dataVersion encoded hlist).congr ?_
    unfold writeValue
    rw [exec_get_bind, if_neg (by rw [hlist]; exact fun h => nomatch h)]

/-- An attribute of a cluster, or the status it answers with. -/
lemma writeData_fills (resolved : Resolved) (s : ReadState ν) :
    Fills srv buf (srv.writeData h resolved ctx scratch) s
      (srv.dataPieces h ctx scratch resolved s.cursor.list s.versions) := by
  unfold dataPieces
  rcases hversion : srv.reportedVersion h resolved s.versions with ⟨dataVersion, versions⟩
  have hstart : ∀ {y : Serving ν Bool},
      exec (do
        set { s with versions := versions }
        y) s = exec y { s with versions := versions } := fun {y} => exec_bind_ok (exec_set _ _) _
  simp only
  by_cases hheld : alreadyHeld resolved ctx dataVersion = true
  · have hrun : exec (srv.writeData h resolved ctx scratch) s =
        (.ok true, { s with versions := versions }) := by
      unfold writeData
      rw [exec_get_bind, hversion]
      simp only
      rw [hstart, if_pos hheld]
      rfl
    rw [if_pos hheld]
    exact .nothing hrun rfl rfl ⟨rfl, rfl, rfl, rfl⟩
  have hrun : exec (srv.writeData h resolved ctx scratch) s =
      exec (ofResult (srv.encodeValue h resolved ctx scratch) >>= fun value =>
        value.casesOn (srv.writeStatus resolved.path) (srv.writeValue resolved.path dataVersion))
        { s with versions := versions } := by
    unfold writeData
    rw [exec_get_bind, hversion]
    simp only
    rw [hstart, if_neg hheld]
    rcases srv.encodeValue h resolved ctx scratch with e | status | encoded
    · rfl
    · rfl
    · rfl
  rw [if_neg hheld]
  rcases hvalue : srv.encodeValue h resolved ctx scratch with e | status | encoded
  · rw [hvalue] at hrun
    exact .failed hrun rfl
  · rw [hvalue] at hrun
    exact (srv.writeStatus_fills resolved.path status _).after hrun rfl rfl rfl
  · rw [hvalue] at hrun
    exact (srv.writeValue_fills resolved.path dataVersion encoded _).after hrun rfl rfl rfl

lemma serveConcrete_fills (concrete : EndpointId × ClusterId × AttributeId) (s : ReadState ν) :
    Fills srv buf (srv.serveConcrete h path concrete ctx scratch) s
      (srv.concretePieces h ctx scratch path concrete s.cursor.list s.versions) := by
  rw [serveConcrete_eq]
  unfold concretePieces
  rcases srv.concreteAnswer h path concrete with status | resolved
  · exact srv.writeStatus_fills path status s
  · exact srv.writeData_fills h ctx scratch resolved s

lemma serveExpanded_fills (entries : List (ExpandCursor × Resolved)) (s : ReadState ν) :
    Fills srv buf (srv.serveExpanded h ctx scratch entries) s
      (srv.expandedPieces h ctx scratch entries s.cursor.list s.versions) := by
  induction entries generalizing s with
  | nil => exact .nothing rfl rfl rfl ⟨rfl, rfl, rfl, rfl⟩
  | cons entry entries ih =>
    unfold serveExpanded expandedPieces
    split_ifs
    · refine (srv.writeData_fills h ctx scratch entry.2 s).next (fun s' hleaves => ?_)
        fun s' => ⟨_, rfl, rfl⟩
      rw [← hleaves.list_eq, ← hleaves.versions_eq]
      exact ih s'
    · exact ih s

lemma servePathChunked_fills (s : ReadState ν) : Fills srv buf (srv.servePathChunked h path ctx scratch) s
      (srv.pathPieces h ctx scratch path s.cursor.expansion s.cursor.list s.versions) := by
  unfold servePathChunked pathPieces
  split_ifs
  · exact srv.writeStatus_fills path _ s
  · exact .nothing rfl rfl rfl ⟨rfl, rfl, rfl, rfl⟩
  · rcases path.concrete with _ | concrete
    · refine (srv.serveExpanded_fills h ctx scratch _ s).congr ?_
      simp only
      rw [exec_get_bind]
    · exact srv.serveConcrete_fills h ctx scratch path concrete s

/-- Serving the attribute paths of a message packs what they ask for. -/
lemma servePaths_fills (first index : ℕ) (paths : List (Except ErrorCode AttributePath)) (s : ReadState ν) :
    Fills srv buf (do
        let stopped ← srv.servePaths h ctx scratch first index paths
        pure (!stopped)) s
      (srv.attributePieces h ctx scratch first index s.cursor.expansion s.cursor.list s.versions
        paths) := by
  induction paths generalizing index s with
  | nil => exact .nothing rfl rfl rfl ⟨rfl, rfl, rfl, rfl⟩
  | cons path paths ih =>
    cases path with
    | error e => exact .failed rfl rfl
    | ok path =>
      unfold servePaths attributePieces
      split_ifs with hskip
      · exact (ih (index + 1) s).congr rfl
      have hpath : Fills srv buf (srv.servePathChunked h path ctx scratch)
          { s with cursor := { s.cursor with path := index } }
          (srv.pathPieces h ctx scratch path s.cursor.expansion s.cursor.list s.versions) :=
        srv.servePathChunked_fills h ctx scratch path _
      -- behind a path that is done the cursor stands at the start of the next one
      have hrest : ∀ s', Leaves { s with cursor := { s.cursor with path := index } } s'
          (srv.pathPieces h ctx scratch path s.cursor.expansion s.cursor.list s.versions) →
          Fills srv buf (do
              Serving.moveCursor fun c =>
                { c with path := index + 1, expansion := .start, list := none }
              let stopped ← srv.servePaths h ctx scratch first (index + 1) paths
              pure (!stopped)) s'
            (srv.attributePieces h ctx scratch first (index + 1) .start none
              (srv.pathPieces h ctx scratch path s.cursor.expansion s.cursor.list
                s.versions).versions paths) := by
        intro s' hleaves
        rw [← hleaves.versions_eq]
        exact (ih (index + 1) { s' with cursor :=
          { s'.cursor with path := index + 1, expansion := .start, list := none } }).after
            (exec_bind_ok (Serving.exec_moveCursor _ s') _) rfl rfl rfl
      refine (hpath.next (z := pure false) hrest fun s' => ⟨s', rfl, rfl⟩).after ?_ rfl rfl rfl
      rw [exec_bind, exec_bind_ok (exec_ofResult _ s), exec_bind_ok (Serving.exec_moveCursor _ s)]
      rcases hrun : exec (srv.servePathChunked h path ctx scratch)
        { s with cursor := { s.cursor with path := index } } with ⟨e | fitted, s'⟩
      · rw [exec_bind_error hrun, exec_bind_error hrun]
      · rw [exec_bind_ok hrun, exec_bind_ok hrun]
        cases fitted with
        | true =>
          simp only [if_true]
          rw [exec_bind_ok (Serving.exec_moveCursor _ s'),
            exec_bind_ok (Serving.exec_moveCursor _ s'), exec_bind]
        | false => rfl

end Server

end MatterKit.Im
