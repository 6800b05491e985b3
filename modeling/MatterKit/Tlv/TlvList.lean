import MatterKit.Tlv.Frames
import MatterKit.Tlv.Minimal

/-!
# Lists read where they lie

`TlvList` of `tlv/codec.rs` keeps the encoded members of an array, "everything between the array's
opening element and its end-of-container", and decodes them when they are asked for.

`toTlv_fromTlv` is that a list forwards what it was read from: the members found in an encoding of an
array are the octets between its first and its last, and written to a new writer they make the same
encoding again.

`iter_ends` is about members of any octets. A call of the iterator that yields something, an error too,
has taken an octet at least (`next_progress`).
-/

namespace MatterKit.Tlv

open Lib Machine TlvReader

/-! ## Cursors only move forward -/

/-- The second cursor is the first one further on.
Source: `TlvReader`, whose methods never give `pos` back. -/
structure TlvReader.Forward (r r' : TlvReader) : Prop where
  buf_eq : r'.buf = r.buf
  many_eq : r'.many = r.many
  pos_le : r.pos ≤ r'.pos

namespace TlvReader.Forward

lemma refl (r : TlvReader) : r.Forward r := ⟨rfl, rfl, Nat.le_refl _⟩

instance : Std.Refl TlvReader.Forward := ⟨refl⟩

instance : IsTrans TlvReader TlvReader.Forward where
  trans _ _ _ h h' :=
    ⟨h'.buf_eq.trans h.buf_eq, h'.many_eq.trans h.many_eq, h.pos_le.trans h'.pos_le⟩

lemma advance (r : TlvReader) (n : ℕ) : r.Forward (r.advance n) := ⟨rfl, rfl, Nat.le_add_right _ _⟩

lemma mark (r : TlvReader) : r.Forward r.mark := by
  unfold TlvReader.mark
  split_ifs
  · exact ⟨rfl, rfl, Nat.le_refl _⟩
  · exact refl r

lemma enter (r : TlvReader) (kind : ContainerKind) : r.Forward (r.enter kind) :=
  ⟨rfl, rfl, Nat.le_refl _⟩

lemma leave (r : TlvReader) : r.Forward r.leave := ⟨rfl, rfl, Nat.le_refl _⟩

end TlvReader.Forward

section Forward

lemma forward_take (n : ℕ) : Moves Forward (take n) :=
  Moves.get fun r => ((Moves.require _ _).bind fun _ => (Moves.modify fun r => .advance r n).bind fun _ => Moves.pure _) r

lemma forward_takeString (w : Width) : Moves Forward (takeString w) :=
  (forward_take _).bind fun _ => (Moves.ofResult _).bind fun _ => forward_take _

lemma forward_openContainer (kind : ContainerKind) : Moves Forward (openContainer kind) :=
  Moves.get fun r => ((Moves.require _ _).bind fun _ => (Moves.modify fun r => .enter r kind).bind fun _ => Moves.pure _) r

lemma forward_readValue (ty : ElementType) : Moves Forward (readValue ty) := by
  cases ty with
  | signedInt w => exact (forward_take _).bind fun _ => (Moves.ofResult _).bind fun _ => Moves.pure _
  | unsignedInt w => exact (forward_take _).bind fun _ => (Moves.ofResult _).bind fun _ => Moves.pure _
  | bool v => exact Moves.pure _
  | float =>
    exact (forward_take _).bind fun _ => (Moves.ofResult _).bind fun _ => (Moves.require _ _).bind fun _ => Moves.pure _
  | double => exact (forward_take _).bind fun _ => (Moves.ofResult _).bind fun _ => Moves.pure _
  | utf8 w => exact (forward_takeString w).bind fun _ => (Moves.ofResult _).bind fun _ => Moves.pure _
  | octets w => exact (forward_takeString w).bind fun _ => Moves.pure _
  | null => exact Moves.pure _
  | struct | array | list => exact forward_openContainer _
  | endOfContainer => exact Moves.throw _

lemma forward_endElement (control : UInt8) : Moves Forward (endElement control) := by
  have hleave : ∀ r : TlvReader, r.Forward r.leave.mark := fun r =>
    IsTrans.trans _ _ _ (Forward.leave r) (Forward.mark _)
  refine (Moves.require _ _).bind fun _ => Moves.get fun r => ?_
  exact ((Moves.require _ _).bind fun _ => (Moves.require _ _).bind fun _ =>
    (Moves.modify hleave).bind fun _ => Moves.pure _) r

lemma forward_taggedElement (control : UInt8) (ty : ElementType) :
    Moves Forward (taggedElement control ty) := by
  refine Moves.get fun r => ((Moves.ofResult _).bind fun found => ?_ : Moves Forward _) r
  refine (Moves.modify fun r => .advance r _).bind fun _ => Moves.get fun r => ?_
  exact ((Moves.require _ _).bind fun _ => (forward_readValue ty).bind fun _ =>
    (Moves.modify Forward.mark).bind fun _ => Moves.pure _) r

/-- What comes of an element once its control octet is taken. -/
lemma forward_afterControl (control : List UInt8) : Moves Forward (do
      let control := control.headD 0
      let elementType ← Machine.ofResult (ElementType.fromBits control)
      if elementType = .endOfContainer then endElement control
      else taggedElement control elementType) := by
  refine (Moves.ofResult _).bind fun ty => ?_
  split_ifs
  · exact forward_endElement _
  · exact forward_taggedElement _ _

/-- Reading an element, whether there is one or not, moves the cursor forward. -/
lemma forward_nextElement : Moves Forward nextElement := by
  refine Moves.get fun r => ?_
  split_ifs
  · exact .refl r
  · exact ((Moves.require _ _).bind fun _ => (forward_take 1).bind forward_afterControl) r

lemma forward_skipTo (target rounds : ℕ) : Moves Forward (skipTo target rounds) := by
  induction rounds with
  | zero => exact Moves.throw _
  | succ rounds ih =>
    refine Moves.get fun r => ?_
    split_ifs
    · refine (forward_nextElement.bind fun found => ?_ : Moves Forward _) r
      cases found with
      | none => exact Moves.throw _
      | some e => exact ih
    · exact .refl r

lemma forward_skipValue (e : Element) : Moves Forward (skipValue e) := by
  unfold skipValue
  split_ifs
  · exact Moves.get fun r => ((Moves.require _ _).bind fun _ => forward_skipTo _ _) r
  · exact Moves.pure _

lemma forward_sliceFrom (start : ℕ) : Moves Forward (sliceFrom start) :=
  Moves.get fun r => ((Moves.require _ _).bind fun _ => Moves.pure _) r

end Forward

/-- A cursor over many elements takes an octet for every call that does not find it at the end. -/
lemma nextElement_takes {r r' : TlvReader} {res : Except ErrorCode (Option Element)}
    (hmany : r.many = true) (h : exec nextElement r = (res, r')) :
    (res = .ok none ∧ r' = r) ∨ r.Forward r' ∧ r.pos < r'.pos ∧ r.pos < r.buf.length := by
  unfold nextElement at h
  rw [exec_get_bind] at h
  by_cases hempty : r.isEmpty = true
  · rw [if_pos hempty] at h
    obtain ⟨rfl, rfl⟩ := Prod.mk.inj h
    exact .inl ⟨rfl, rfl⟩
  · have hmore : r.pos < r.buf.length := by
      rw [isEmpty, decide_eq_true_iff] at hempty
      omega
    have hopen : r.Open := by simp [hmany]
    have htake : exec (take 1) r = (.ok (r.remaining.take 1), r.advance 1) := by
      unfold take
      rw [exec_get_bind, exec_require_bind (by omega), exec_modify_bind, exec_pure]
    rw [if_neg hempty, exec_require_bind hopen, exec_bind_ok htake] at h
    have hafter := forward_afterControl (r.remaining.take 1) (r.advance 1)
    rw [h] at hafter
    exact .inr ⟨IsTrans.trans _ _ _ (Forward.advance r 1) hafter, hafter.pos_le, hmore⟩

/-! ## The list -/

/-- A cursor over the members of a container.
Source: `TlvReader::new_members`. -/
def TlvReader.newMembers (buf : List UInt8) (container : ContainerKind) : TlvReader :=
  { newIn buf container with many := true }

/-- The encoded members of an array.
Source: `tlv/codec.rs`, `TlvList`. -/
structure TlvList where
  members : List UInt8

namespace TlvList

/-- The loop that looks for the end of the container, with the position in front of it.
Source: `TlvList::from_tlv`, `let end = loop`. -/
def memberEnd : ℕ → Reading ℕ
  | 0 => throw .tlvTruncated
  | rounds + 1 => do
    let before ← position
    match ← nextElement with
    | none => throw .tlvTruncated
    | some member =>
      if member.value = .endOfContainer then pure before
      else do
        skipValue member
        memberEnd rounds

/-- Source: `TlvList::from_tlv`. -/
def fromTlv (element : Element) : Reading TlvList := do
  require (element.value.container? = some .array) .tlvWrongType
  let start ← position
  let r ← get
  let stop ← memberEnd (r.buf.length - r.pos + 1)
  let octets ← sliceFrom start
  require (stop - start ≤ octets.length) .tlvTruncated
  pure ⟨octets.take (stop - start)⟩

/-- One round of `to_tlv`: the octets of the next member, or nothing where the members end.
Source: `TlvList::to_tlv`, the `loop` up to `slice_from`. -/
def nextMember : Reading (Option (List UInt8)) := do
  let start ← position
  match ← nextElement with
  | none => pure none
  | some element =>
    if element.value = .endOfContainer then pure none
    else do
      skipValue element
      let octets ← sliceFrom start
      pure (some octets)

/-- Source: `TlvList::to_tlv`, the `loop`. -/
def writeMembers : ℕ → TlvReader → Writing Unit
  | 0, _ => throw .tlvTruncated
  | rounds + 1, reader => do
    let found ← ofResult (exec nextMember reader).1
    match found with
    | none => pure ()
    | some octets => do
      rawElement octets
      writeMembers rounds (exec nextMember reader).2

/-- Source: `TlvList::to_tlv`. -/
def toTlv (list : TlvList) (tag : Tag) : Writing Unit := do
  start tag .array
  writeMembers (list.members.length + 1) (.newMembers list.members .array)
  endContainer

section Iter

variable {T : Type} (entry : Element → Reading T)

/-- One call of the iterator, over entries that are decoded by `entry`: what it yields, and the cursor
it goes on with.
Source: `TlvList::iter`, the closure of `from_fn`. -/
def next (reader : TlvReader) : Option (Except ErrorCode T) × TlvReader :=
  match exec nextElement reader with
  | (.ok none, r) => (none, r)
  | (.ok (some element), r) =>
    if element.value = .endOfContainer then (none, r)
    else (some (exec (entry element) r).1, (exec (entry element) r).2)
  | (.error e, r) => (some (.error e), r)

/-- What the iterator yields up to its first `None`, if that comes within so many calls. -/
def itemsFrom : ℕ → TlvReader → Option (List (Except ErrorCode T))
  | 0, _ => none
  | calls + 1, reader =>
    match next entry reader with
    | (none, _) => some []
    | (some item, r) => (itemsFrom calls r).map (item :: ·)

/-- The items of `TlvList::iter`, if it ends within so many calls. -/
def iter (list : TlvList) (calls : ℕ) : Option (List (Except ErrorCode T)) :=
  itemsFrom entry calls (.newMembers list.members .array)

end Iter

end TlvList

/-! ## A cursor in front of an element -/

/-- Onto an element that stands in front of a cursor. -/
lemma Place.At.of_tree {r : TlvReader} {stack : List ContainerKind} {t : Tree} {rest : List UInt8}
    (hfaces : r.Faces (t.octets ++ rest)) (hwithin : r.Within stack) (hopen : r.Open)
    (hbase : r.baseDepth ≤ stack.length) (hlegal : t.LegalIn stack.head?)
    (hdepth : t.depth = 0 ∨ t.depth + stack.length ≤ maxDepth) :
    ∃ r', exec nextElement r = (.ok (some t.head), r') ∧
      (Place.mk stack rest r.buf r.baseDepth).At t.inner r' := by
  cases t with
  | primitive tag value =>
    have hfront : r.Faces ((Token.primitive tag value).octets ++ (framesOctets [] ++ rest)) := hfaces
    have hfits : (Token.primitive tag value).FitsIn r := by
      show tag.AllowedIn r.currentContainer
      rw [hwithin.currentContainer_eq]
      exact hlegal
    refine ⟨_, nextElement_of_token hfront hopen hfits, ?_⟩
    exact
      { buf_eq := (Token.primitive tag value).buf_after r
        base_eq := (Token.primitive tag value).baseDepth_after r
        faces := hfront.after
        within := hwithin.after (.primitive hlegal)
        legal := trivial
        base_le := hbase }
  | container tag kind members =>
    rw [Tree.depth] at hdepth
    exact Place.At.of_opening hfaces hwithin hopen hbase hlegal (by omega)

/-- An element that may stand in a container passes the check for it. -/
lemma rawCheck_newIn {t : Tree} {kind : ContainerKind} (hlegal : t.LegalIn (some kind))
    (hdepth : t.depth + 1 ≤ maxDepth) : rawCheck (newIn t.octets kind) = .ok t.head := by
  have hfaces : (newIn t.octets kind).Faces t.octets := ⟨[], rfl, rfl⟩
  have hfront : (newIn t.octets kind).Faces (t.octets ++ []) := by rwa [List.append_nil]
  have hopen : (newIn t.octets kind).Open := by simp [newIn, new]
  have hwithin := within_newIn t.octets kind
  obtain ⟨r₁, hnext, hat⟩ := Place.At.of_tree hfront hwithin hopen (Nat.le_refl 1) hlegal (.inr hdepth)
  rw [← List.append_nil t.inner] at hat
  obtain ⟨r₂, hskip, hend⟩ := hat.skipValue
  -- what is skipped over is all there is, so the cursor finishes
  have hfinish : r₂.finish = .ok () := by
    obtain ⟨es, hyields⟩ := yields_of_skipValue hskip
    obtain ⟨r', hwhole, hfinish⟩ : (newIn t.octets kind).ReadsAs t.elements := by
      apply Tree.readsAs hfaces hopen rfl
      · rw [hwithin.currentContainer_eq]
        exact hlegal
      · exact (t.fitsDepth_iff 1).mpr (.inl (by omega))
    have hread : Yields (newIn t.octets kind) (t.head :: es) r₂ := .cons hnext hyields
    have hempty : r₂.isEmpty = true := hend.faces.isEmpty_eq.mpr rfl
    rcases Nat.le_total (t.head :: es).length t.elements.length with hle | hle
    · obtain ⟨more, -, hmore⟩ := hread.split hwhole hle
      rwa [← (hmore.eq_nil_of_isEmpty hempty).2]
    · obtain ⟨more, -, hmore⟩ := hwhole.split hread hle
      rwa [(hmore.eq_nil_of_isEmpty (finish_eq_ok_iff.mp hfinish).2.2).2]
  unfold rawCheck
  simp only [exec_bind_ok hnext]
  rw [exec_bind_ok hskip, exec_get_bind, hfinish, exec_bind_ok (exec_ofResult _ r₂), exec_pure]

namespace TlvList

/-! ## The members are found -/

/-- In front of the members of a container, the loop goes over them and their end, and returns where
the end is. -/
lemma exec_memberEnd {kind : ContainerKind} : ∀ (ms : Members) {p : Place} {r : TlvReader} {rounds : ℕ},
    ms.octets.length < rounds → p.At [⟨kind, ms⟩] r →
    ∃ r', exec (memberEnd rounds) r = (.ok (p.buf.length - (1 + p.rest.length)), r') ∧ p.At [] r'
  | .nil, p, r, rounds, hrounds, h => by
    rcases rounds with _ | rounds
    · omega
    obtain ⟨r', hnext, hat⟩ := h.next_end
    have hposition : exec position r = (.ok r.pos, r) := rfl
    have hpos : r.pos = p.buf.length - (1 + p.rest.length) := by
      rw [h.pos_eq]
      simp [framesOctets, Members.octets, Nat.add_comm]
    refine ⟨r', ?_, hat⟩
    rw [memberEnd, exec_bind_ok hposition, exec_bind_ok hnext, ← hpos]
    simp only [if_pos]
    rfl
  | .cons u ms, p, r, rounds, hrounds, h => by
    rcases rounds with _ | rounds
    · omega
    have hposition : exec position r = (.ok r.pos, r) := rfl
    obtain ⟨r₁, hnext, hinside⟩ := h.next_tree
    obtain ⟨r₂, hskip, hrest⟩ := hinside.skipValue
    have hshorter := Members.length_lt_of_cons hrounds
    obtain ⟨r', hloop, hat⟩ := exec_memberEnd ms hshorter hrest
    refine ⟨r', ?_, hat⟩
    rw [memberEnd, exec_bind_ok hposition, exec_bind_ok hnext]
    simp only [if_neg u.head_ne_end]
    rw [exec_bind_ok hskip, hloop]

variable {r : TlvReader} {ms : Members}

/-- **The members of an array are its octets without the first and the last**, and the cursor is
behind the array when they are found. -/
lemma exec_fromTlv {p : Place} {e : Element} (hkind : e.value = .container .array)
    (h : p.At [⟨.array, ms⟩] r) : ∃ r', exec (fromTlv e) r = (.ok ⟨ms.octets⟩, r') ∧ p.At [] r' := by
  have hposition : exec position r = (.ok r.pos, r) := rfl
  have hremaining := h.remaining_eq
  have hfaces : r.Faces (ms.octets ++ (endOctet :: p.rest)) := by
    have hfront := h.faces
    simp only [framesOctets, List.append_assoc, List.cons_append, List.nil_append] at hfront
    exact hfront
  obtain ⟨seen, hbuf, hpos⟩ := hfaces
  simp only [framesOctets, List.length_append, List.length_cons, List.length_nil] at hremaining
  have hrounds : ms.octets.length < r.buf.length - r.pos + 1 := by omega
  obtain ⟨r', hloop, hat⟩ := exec_memberEnd ms hrounds h
  have hend : r'.buf = seen ++ (ms.octets ++ (endOctet :: p.rest)) :=
    (hat.buf_eq.trans h.buf_eq.symm).trans hbuf
  have hlength := congrArg List.length hbuf
  rw [h.buf_eq] at hlength
  simp only [List.length_append, List.length_cons] at hlength
  have hpos' : r'.pos = seen.length + ms.octets.length + 1 := by
    rw [hat.pos_eq]
    simp only [framesOctets, List.nil_append]
    omega
  have hslice : exec (sliceFrom r.pos) r' = (.ok (ms.octets ++ [endOctet]), r') := by
    have hfits : r.pos ≤ r'.pos ∧ r'.pos ≤ r'.buf.length := by
      rw [hend]
      simp only [List.length_append, List.length_cons]
      omega
    have hsplit : r'.buf = (seen ++ (ms.octets ++ [endOctet])) ++ p.rest := by
      rw [hend]
      simp
    have hwhole : r'.pos = (seen ++ (ms.octets ++ [endOctet])).length := by
      rw [hpos']
      simp [Nat.add_assoc]
    unfold sliceFrom
    rw [exec_get_bind, exec_require_bind hfits, exec_pure, hsplit,
      hwhole, List.take_left, hpos, List.drop_left]
  have hstop : p.buf.length - (1 + p.rest.length) - r.pos = ms.octets.length := by omega
  have hcut : p.buf.length - (1 + p.rest.length) - r.pos ≤ (ms.octets ++ [endOctet]).length := by
    rw [hstop, List.length_append]
    omega
  have hcontainer : e.value.container? = some .array := by rw [hkind]; rfl
  refine ⟨r', ?_, hat⟩
  unfold fromTlv
  rw [exec_require_bind hcontainer, exec_bind_ok hposition,
    exec_get_bind, exec_bind_ok hloop, exec_bind_ok hslice,
    exec_require_bind hcut, hstop, List.take_left, exec_pure]

/-! ## The members are written back -/

lemma forward_nextMember : Moves Forward nextMember := by
  refine Moves.get fun r => (forward_nextElement.bind fun found => ?_ : Moves Forward _) r
  cases found with
  | none => exact Moves.pure _
  | some e =>
    dsimp only
    split_ifs
    · exact Moves.pure _
    · exact (forward_skipValue e).bind fun _ => (forward_sliceFrom _).bind fun _ => Moves.pure _

/-- In front of an element, the next member is its octets. -/
lemma exec_nextMember {stack : List ContainerKind} {t : Tree} {rest : List UInt8}
    (hfaces : r.Faces (t.octets ++ rest)) (hwithin : r.Within stack) (hmany : r.many = true)
    (hbase : r.baseDepth ≤ stack.length) (hlegal : t.LegalIn stack.head?)
    (hdepth : t.depth = 0 ∨ t.depth + stack.length ≤ maxDepth) :
    ∃ r', exec nextMember r = (.ok (some t.octets), r') ∧ r'.Faces rest ∧ r'.Within stack ∧
      r'.many = true ∧ r'.baseDepth = r.baseDepth := by
  have hopen : r.Open := by simp [hmany]
  have hposition : exec position r = (.ok r.pos, r) := rfl
  obtain ⟨r₁, hnext, hat⟩ := Place.At.of_tree hfaces hwithin hopen hbase hlegal hdepth
  rw [← List.append_nil t.inner] at hat
  obtain ⟨r₂, hskip, hend⟩ := hat.skipValue
  obtain ⟨seen, hbuf, hpos⟩ := hfaces
  have hholds : (Place.mk stack rest r.buf r.baseDepth).Holds t := ⟨seen, hbuf⟩
  have hstart : (Place.mk stack rest r.buf r.baseDepth).start t = r.pos := by
    have hlen := congrArg List.length hbuf
    simp only [List.length_append] at hlen
    show r.buf.length - (t.octets.length + rest.length) = r.pos
    omega
  have hslice := hend.sliceFrom hholds
  rw [hstart] at hslice
  have hrun : exec nextMember r = (.ok (some t.octets), r₂) := by
    unfold nextMember
    rw [exec_bind_ok hposition, exec_bind_ok hnext]
    simp only [if_neg t.head_ne_end]
    rw [exec_bind_ok hskip, exec_bind_ok hslice, exec_pure]
  have hforward := forward_nextMember r
  rw [hrun] at hforward
  exact ⟨r₂, hrun, hend.faces, hend.within, hforward.many_eq.trans hmany, hend.base_eq⟩

/-- At the end of the octets there is no member. -/
lemma exec_nextMember_end (h : r.Faces []) : exec nextMember r = (.ok none, r) := by
  have hposition : exec position r = (.ok r.pos, r) := rfl
  unfold nextMember
  rw [exec_bind_ok hposition, exec_bind_ok (nextElement_none h)]
  rfl

/-- Members of an array are written into an array as they are. -/
lemma follows_writeMembers {n : Nesting} (hn : n.Inside) (hkind : n.containers.getLast? = some .array) :
    ∀ (ms : Members) {r : TlvReader} {rounds : ℕ}, ms.octets.length < rounds → r.Faces ms.octets →
      r.Within [.array] → r.many = true → r.baseDepth ≤ 1 → ms.LegalIn .array →
      ms.depth + 1 ≤ maxDepth → Follows (writeMembers rounds r) n ⟨ms.octets, .ok (), n⟩
  | .nil, r, rounds, hrounds, hfaces, hwithin, hmany, hbase, hlegal, hdepth => by
    rcases rounds with _ | rounds
    · omega
    have hend : writeMembers (rounds + 1) r = (do
        let found ← ofResult (.ok none)
        match found with
        | none => pure ()
        | some octets => do
          rawElement octets
          writeMembers rounds (exec nextMember r).2) := by
      rw [writeMembers, exec_nextMember_end hfaces]
    rw [hend]
    exact Follows.of_still fun _ _ _ => rfl
  | .cons u ms, r, rounds, hrounds, hfaces, hwithin, hmany, hbase, ⟨hfirst, hothers⟩, hdepth => by
    rcases rounds with _ | rounds
    · omega
    rw [Members.depth] at hdepth
    have hshorter := Members.length_lt_of_cons hrounds
    have hroom : u.depth = 0 ∨ u.depth + [ContainerKind.array].length ≤ maxDepth :=
      .inr (by rw [List.length_singleton]; omega)
    obtain ⟨r', hrun, hfaces', hwithin', hmany', hbase'⟩ :=
      exec_nextMember hfaces hwithin hmany hbase hfirst hroom
    have hround : writeMembers (rounds + 1) r = (do
        let found ← ofResult (.ok (some u.octets))
        match found with
        | none => pure ()
        | some octets => do
          rawElement octets
          writeMembers rounds r') := by
      rw [writeMembers, hrun]
    have hcheck : rawCheck (readerIn u.octets n.containers.getLast?) = .ok u.head := by
      rw [hkind]
      exact rawCheck_newIn hfirst (by omega)
    have htag : n.check u.head.tag = .ok () := by
      cases u with
      | primitive tag value => exact Nesting.check_of_allowedIn hn.2 (by rw [hkind]; exact hfirst)
      | container tag kind members =>
        exact Nesting.check_of_allowedIn hn.2 (by rw [hkind]; exact hfirst.1)
    have hrest := follows_writeMembers hn hkind ms hshorter hfaces' hwithin' hmany' (by omega) hothers
      (by omega)
    rw [hround]
    exact (follows_rawElement hn hcheck htag).bind (f := fun _ => writeMembers rounds r') hrest

/-- **Members that were found in an array are written as one**, wherever it may stand. -/
lemma follows_toTlv {n : Nesting} {tag : Tag} (hdepth : n.containers.length < maxDepth)
    (htag : n.check tag = .ok ()) (hlegal : ms.LegalIn .array) (hroom : ms.depth + 1 ≤ maxDepth) :
    Follows (toTlv ⟨ms.octets⟩ tag) n
      ⟨tag.controlOctet .array :: tag.encode ++ (ms.octets ++ [endOctet]), .ok (),
        (n.enter .array).leave.mark⟩ := by
  have hinside : (n.enter .array).Inside := .enter .array
  have hwithin : (newMembers ms.octets .array).Within [.array] := by
    have h := within_newIn ms.octets .array
    exact ⟨h.depth_eq, h.open_eq, h.bounded⟩
  have hmembers := follows_writeMembers hinside (by simp [Nesting.enter]) ms
    (Nat.lt_succ_self ms.octets.length) (r := newMembers ms.octets .array) ⟨[], rfl, rfl⟩ hwithin rfl
    (Nat.le_refl 1) hlegal hroom
  have hclose := hmembers.bind (f := fun _ => endContainer) (follows_endContainer_of hinside.1)
  exact (follows_start_ok hdepth htag .array).bind (f := fun _ => do
    writeMembers (ms.octets.length + 1) (newMembers ms.octets .array)
    endContainer) hclose

/-! ## The iterator ends -/

section Iter

variable {T : Type} {entry : Element → Reading T}

/-- A call that yields something has taken an octet. -/
lemma next_takes (hentry : ∀ e, Moves Forward (entry e)) {r r' : TlvReader}
    {item : Except ErrorCode T} (hmany : r.many = true) (h : next entry r = (some item, r')) :
    r.Forward r' ∧ r.pos < r'.pos ∧ r.pos < r.buf.length := by
  unfold next at h
  rcases hrun : exec nextElement r with ⟨e | found, r₁⟩
  · rw [hrun] at h
    obtain ⟨-, rfl⟩ := Prod.mk.inj h
    rcases nextElement_takes hmany hrun with ⟨hnone, -⟩ | htakes
    · exact absurd hnone (by simp)
    · exact htakes
  · rw [hrun] at h
    cases found with
    | none => exact absurd (Prod.mk.inj h).1 (by simp)
    | some e =>
      rcases nextElement_takes hmany hrun with ⟨hnone, -⟩ | ⟨hforward, hpos, hmore⟩
      · exact absurd hnone (by simp)
      · dsimp only at h
        split_ifs at h with hend
        · exact absurd (Prod.mk.inj h).1 (by simp)
        · obtain ⟨-, rfl⟩ := Prod.mk.inj h
          have hdecode := hentry e r₁
          exact ⟨IsTrans.trans _ _ _ hforward hdecode, hpos.trans_le hdecode.pos_le, hmore⟩

/-- The iterator yields no more items than there are octets before it ends. -/
lemma exists_itemsFrom (hentry : ∀ e, Moves Forward (entry e)) (left : ℕ) :
    ∀ r : TlvReader, r.many = true → r.buf.length - r.pos ≤ left →
      ∃ items, items.length ≤ left ∧ ∀ calls, left < calls → itemsFrom entry calls r = some items := by
  induction left with
  | zero =>
    intro r hmany hleft
    refine ⟨[], Nat.le_refl _, fun calls hcalls => ?_⟩
    rcases calls with _ | calls
    · omega
    rcases hnext : next entry r with ⟨_ | item, r'⟩
    · rw [itemsFrom, hnext]
    · have htakes := next_takes hentry hmany hnext
      omega
  | succ left ih =>
    intro r hmany hleft
    rcases hnext : next entry r with ⟨_ | item, r'⟩
    · refine ⟨[], Nat.zero_le _, fun calls hcalls => ?_⟩
      rcases calls with _ | calls
      · omega
      rw [itemsFrom, hnext]
    · obtain ⟨hforward, hpos, hmore⟩ := next_takes hentry hmany hnext
      obtain ⟨items, hlength, hitems⟩ := ih r' (hforward.many_eq.trans hmany) (by
        rw [hforward.buf_eq]
        omega)
      refine ⟨item :: items, Nat.succ_le_succ hlength, fun calls hcalls => ?_⟩
      rcases calls with _ | calls
      · omega
      rw [itemsFrom, hnext]
      simp only [hitems calls (by omega), Option.map_some]

end Iter

/-! ## A decoded list is what it was read from -/

lemma within_new (buf : List UInt8) : (new buf).Within [] := ⟨rfl, rfl, Nat.zero_le _⟩

/-- What is accepted and starts with an anonymous array is that array and nothing more. -/
lemma exists_members {buf : List UInt8} {n : UInt64} (hvalid : validate buf = .ok n)
    (hfirst : exec nextElement (new buf) = (.ok (some ⟨.anonymous, .container .array⟩), r)) :
    ∃ ms : Members, buf = 0x16 :: (ms.octets ++ [endOctet]) ∧ ms.LegalIn .array ∧
      ms.depth + 1 ≤ maxDepth ∧ (Place.mk [] [] buf 0).At [⟨.array, ms⟩] r := by
  obtain ⟨t, rfl, hlegal, hdepth⟩ := legal_of_validate hvalid
  have hfaces : (new t.octets).Faces (t.octets ++ []) := by
    rw [List.append_nil]
    exact faces_new t.octets
  have hopen : (new t.octets).Open := by simp [new]
  obtain ⟨r', hnext, hat⟩ := Place.At.of_tree hfaces (within_new _) hopen (Nat.le_refl 0) hlegal
    (.inr (by simpa using hdepth))
  rw [hfirst] at hnext
  obtain ⟨hhead, rfl⟩ := Prod.mk.inj hnext
  have hhead : t.head = ⟨.anonymous, .container .array⟩ := (Option.some.inj (Except.ok.inj hhead)).symm
  cases t with
  | primitive tag value =>
    have hplain := value.value_spec.2.1
    rw [show value.value = .container .array from congrArg Element.value hhead] at hplain
    exact hplain.elim
  | container tag kind ms =>
    obtain rfl : kind = .array := by simpa [Tree.head] using congrArg Element.value hhead
    have htag : tag.tag = .anonymous := congrArg Element.tag hhead
    have hcontrol : tag.control = .anonymous := by
      apply tag.decode_octets.2.1.mp
      rw [htag]
      rfl
    have hoctets : tag.octets = [] := by
      apply List.length_eq_zero_iff.mp
      rw [tag.length_eq, hcontrol]
      rfl
    refine ⟨ms, ?_, hlegal.2, hdepth, hat⟩
    simp only [Tree.octets, WireTag.head, hcontrol, hoctets]
    rfl

/-- **A decoded list is written as what it was read from, and its iterator ends.** The members of an
accepted encoding of an anonymous array are the octets between the first and the last, and written to a
new writer they make the same encoding; and over any octets the iterator yields no more items than
octets, if decoding an entry only moves the cursor forward. -/
theorem toTlv_fromTlv : (∀ (buf : List UInt8) (n : UInt64) (r : TlvReader), validate buf = .ok n →
      exec nextElement (new buf) = (.ok (some ⟨.anonymous, .container .array⟩), r) →
        ∃ (list : TlvList) (r' : TlvReader),
          exec (fromTlv ⟨.anonymous, .container .array⟩) r = (.ok list, r') ∧
          buf = 0x16 :: (list.members ++ [endOctet]) ∧ r'.buf = buf ∧ r'.pos = buf.length ∧
          r'.depth = 0 ∧ ∀ out : Slice, buf.length ≤ out.octets.length →
            ∃ w, exec (list.toTlv .anonymous) (.new out) = (.ok (), w) ∧ w.finish = .ok buf) ∧
    ∀ (T : Type) (entry : Element → Reading T), (∀ e, Moves Forward (entry e)) →
      ∀ list : TlvList, ∃ items : List (Except ErrorCode T), items.length ≤ list.members.length ∧
        ∀ calls, list.members.length < calls → list.iter entry calls = some items := by
  constructor
  · intro buf n r hvalid hfirst
    obtain ⟨ms, rfl, hlegal, hdepth, hat⟩ := exists_members hvalid hfirst
    obtain ⟨r', hrun, hend⟩ := exec_fromTlv (e := ⟨.anonymous, .container .array⟩) rfl hat
    refine ⟨⟨ms.octets⟩, r', hrun, rfl, hend.buf_eq, hend.pos_eq, hend.depth_eq, ?_⟩
    intro out hroom
    have hfree : (⟨[], false⟩ : Nesting).check .anonymous = .ok () := rfl
    have hshallow : (⟨[], false⟩ : Nesting).containers.length < maxDepth := Nat.zero_lt_succ 15
    have hfollows := follows_toTlv hshallow hfree hlegal hdepth
    have hfits : (TlvWriter.new out).Fits (0x16 :: (ms.octets ++ [endOctet])) := by
      show 0 + _ ≤ out.octets.length
      omega
    obtain ⟨w, hwrite, hwrote⟩ :=
      (hfollows _ (TlvWriter.sound_new out) (TlvWriter.nesting_new out)).1 hfits
    have hdone : w.nesting = ⟨[], true⟩ := hwrote.nesting_eq
    have hwritten := hwrote.written_eq hfits
    have hempty : (TlvWriter.new out).written = [] := by
      simp [TlvWriter.written, TlvWriter.new]
    rw [hempty, List.nil_append] at hwritten
    refine ⟨w, hwrite, (TlvWriter.finish_eq_ok hwrote.startedInside_eq).mpr ⟨?_, ?_, ?_, hwritten⟩⟩
    · exact (TlvWriter.containers_eq_nil_iff hwrote.sound).mp (by rw [hdone])
    · exact congrArg Nesting.topLevelDone hdone
    · exact hwrote.sound.pos_le
  · intro T entry hentry list
    exact exists_itemsFrom hentry list.members.length (newMembers list.members .array) rfl
      (Nat.sub_le _ _)

/-- An array of one member, and members that are no encoding at all. -/
theorem toTlv_fromTlv_one : (∃ (list : TlvList) (r' : TlvReader),
      exec (fromTlv ⟨.anonymous, .container .array⟩)
        (exec nextElement (new [0x16, 0x04, 0x07, 0x18])).2 = (.ok list, r') ∧
      [0x16, 0x04, 0x07, 0x18] = 0x16 :: (list.members ++ [endOctet]) ∧
      r'.buf = [0x16, 0x04, 0x07, 0x18] ∧ r'.pos = 4 ∧ r'.depth = 0 ∧
      ∀ out : Slice, 4 ≤ out.octets.length → ∃ w, exec (list.toTlv .anonymous) (.new out) = (.ok (), w) ∧
          w.finish = .ok [0x16, 0x04, 0x07, 0x18]) ∧
    ∃ items : List (Except ErrorCode UInt64), items.length ≤ 3 ∧
      ∀ calls, 3 < calls → iter (fun e => ofResult e.unsigned) ⟨[0xFF, 0x18, 0x2C]⟩ calls =
        some items := by
  have hvalid : validate [0x16, 0x04, 0x07, 0x18] = .ok 3 := by
    apply (validate_eq_ok_iff_min _ _).mpr
    exact ⟨3, ⟨.container ⟨.anonymous, [], rfl⟩ .array
      (.cons (.primitive ⟨.anonymous, [], rfl⟩ ⟨.unsignedInt .one, [0x07], .unsignedInt rfl⟩) .nil), rfl,
      by simp [Tree.LegalIn, Members.LegalIn, WireTag.AllowedIn],
      by simp [Tree.depth, Members.depth, maxDepth], rfl⟩, rfl⟩
  exact ⟨toTlv_fromTlv.1 _ 3 _ hvalid (by decide +kernel),
    toTlv_fromTlv.2 UInt64 (fun e => ofResult e.unsigned) (fun e => Moves.ofResult _)
      ⟨[0xFF, 0x18, 0x2C]⟩⟩

end TlvList

end MatterKit.Tlv
