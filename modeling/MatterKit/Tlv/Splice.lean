import MatterKit.Tlv.Retag
import MatterKit.Tlv.Rollback

/-!
# Elements that are spliced in

`TlvWriter::raw_element` copies an element that somebody else encoded, after checking it where it is to
stand. The check is made by a reader that starts inside one container, whatever the writer is inside; so
an element may nest too deep for where it goes, and is copied.

`Spelled` is what the octets of a writer are at any time: whatever closes the open containers makes them
a legal tree. Every call keeps it (`Spelled.call`), a copied element if its containers fit below the
bound from where the writer stands (`Call.Composes`), and so does a block that is taken back; so a
writer that finishes has written what `validate` accepts (`spliced_validates`).
-/

namespace MatterKit.Tlv

open Lib Machine TlvReader

/-! ## Runs of calls -/

/-- What is copied fits where it is copied to: the containers of the element stay within the stack
from where the writer stands, and an element that is put under another tag had its own tag in the
form this writer would give it. -/
def Call.Composes (w : TlvWriter) : Call → Prop
  | .own _ => True
  | .rawElement bytes =>
    ∀ es, (readerIn bytes w.currentContainer).ReadsAs es → fitsDepth w.depth es = true
  | .rawElementRetagged bytes _ =>
    ∀ e es, (newIn bytes .list).ReadsAs (e :: es) →
      TagControl.fromBits (bytes.headD 0) = e.tag.control ∧ fitsDepth w.depth (e :: es) = true

/-- The writers that are reached from a new one by successful calls, each of them allowed where it is
made, and by blocks tried in any way and taken back. -/
inductive Reached (allowed : TlvWriter → Call → Prop) (buf : Slice) : TlvWriter → Prop
  | new : Reached allowed buf (.new buf)
  | call {w w' : TlvWriter} {call : Call} (before : Reached allowed buf w) (ok : allowed w call)
      (run : exec call.run w = (.ok (), w')) : Reached allowed buf w'
  | takenBack {w : TlvWriter} (actions : List Action) (before : Reached allowed buf w) :
      Reached allowed buf ((Action.actAll ⟨w, []⟩ actions).writer.rollback w.checkpoint)

/-! ## What a call appends -/

/-- The containers that are open, the innermost first. -/
def TlvWriter.opened (w : TlvWriter) : List ContainerKind := w.nesting.containers.reverse

/-- The writer has appended a tree that may stand where it was. -/
structure TlvWriter.Appended (w : TlvWriter) (t : Tree) (w' : TlvWriter) : Prop where
  notDone : ¬ (w.depth = 0 ∧ w.topLevelDone = true)
  legal : t.LegalIn w.currentContainer
  room : w.depth + t.depth ≤ maxDepth ∨ t.depth = 0
  fits : w.Fits t.octets
  eq : w' = (w.put t.octets).mark

variable {tag : Tag} {w w' : TlvWriter} {bytes : List UInt8}

/-- An element of a primitive type is a tree. -/
lemma appended_of_value {ty : ElementType} {body : List UInt8} (hbody : PrimitiveBody ty body)
    (h : exec (value tag ty body) w = (.ok (), w')) :
    w.Appended (.primitive tag.wire ⟨ty, body, hbody⟩) w' := by
  obtain ⟨hadmits, hfits, rfl⟩ := value_eq_ok.mp h
  exact ⟨hadmits.notDone, (tag.wire_allowedIn_iff _).mpr hadmits.allowed, .inr rfl, hfits, rfl⟩

/-- A length field and as many octets as it says. -/
lemma counts_writeLe (h : bytes.length < 2 ^ 64) :
    ofLe (writeLe (.ofNat bytes.length) (Width.forUnsigned (.ofNat bytes.length)).octets) =
      bytes.length := by
  have hholds := Width.forUnsigned_holds (.ofNat bytes.length)
  have hle := (Width.forUnsigned (.ofNat bytes.length)).octets_le
  rw [writeLe_eq _ hle, ofLe_leBytes_of_lt hholds, UInt64.toNat_ofNat', Nat.mod_eq_of_lt h]

lemma string_of_ok {utf8 : Bool} (h : exec (string tag bytes utf8) w = (.ok (), w')) :
    ∃ field, field.length = (Width.forUnsigned (.ofNat bytes.length)).octets ∧
      ofLe field = bytes.length ∧
      exec (value tag (if utf8 then .utf8 (.forUnsigned (.ofNat bytes.length))
        else .octets (.forUnsigned (.ofNat bytes.length))) (field ++ bytes)) w = (.ok (), w') := by
  have hvalue := value_of_pieces h
  have hlen := length_lt_of_value hvalue
  exact ⟨_, length_writeLe _ _, counts_writeLe hlen, hvalue⟩

lemma octets_of_ok (h : exec (octets tag bytes) w = (.ok (), w')) : ∃ t, w.Appended t w' := by
  obtain ⟨field, hfield, hcounts, hvalue⟩ := string_of_ok h
  exact ⟨_, appended_of_value (.octets hfield hcounts) hvalue⟩

/-- A call that succeeds appends a tree, or the start or the end of a container. -/
lemma WriterCall.appended {c : WriterCall} (h : exec c.run w = (.ok (), w')) :
    (∃ t, w.Appended t w') ∨ (∃ tag kind, exec (Tlv.start tag kind) w = (.ok (), w')) ∨
      exec Tlv.endContainer w = (.ok (), w') := by
  cases c with
  | signed tag v => exact .inl ⟨_, appended_of_value (.signedInt (length_writeLe _ _)) h⟩
  | unsigned tag v => exact .inl ⟨_, appended_of_value (.unsignedInt (length_writeLe _ _)) h⟩
  | bool tag v => exact .inl ⟨_, appended_of_value (.bool v) (value_of_head h)⟩
  | null tag => exact .inl ⟨_, appended_of_value .null (value_of_head h)⟩
  | float tag bits =>
    exact .inl ⟨_, appended_of_value (.float (Tag.length_writeLe_of_le _ (by decide))) h⟩
  | double tag bits =>
    exact .inl ⟨_, appended_of_value (.double (Tag.length_writeLe_of_le _ (by decide))) h⟩
  | utf8 tag v =>
    obtain ⟨field, hfield, hcounts, hvalue⟩ := string_of_ok h
    exact .inl ⟨_, appended_of_value (.utf8 hfield hcounts (isValidUTF8_asBytes v)) hvalue⟩
  | octets tag v => exact .inl (octets_of_ok h)
  | octetsFill tag len byte =>
    rw [WriterCall.run, octetsFill_eq] at h
    exact .inl (octets_of_ok h)
  | start tag kind => exact .inr (.inl ⟨tag, kind, h⟩)
  | endContainer => exact .inr (.inr h)

/-- Where the writer stands, the reader of what is copied stands in the same container. -/
lemma exists_tree_of_readerIn {place : Option ContainerKind} {es : List Element}
    (h : (readerIn bytes place).ReadsAs es) :
    ∃ t : Tree, t.octets = bytes ∧ t.LegalIn place ∧ t.elements = es := by
  cases place with
  | none =>
    obtain ⟨t, hoctets, hlegal, -, helements⟩ := exists_tree_of_new h
    exact ⟨t, hoctets, hlegal, helements⟩
  | some kind => exact exists_tree_of_newIn h

/-- An element that is copied is appended as the tree it is. -/
lemma rawElement_appended (hfits : (Call.rawElement bytes).Composes w)
    (h : exec (rawElement bytes) w = (.ok (), w')) : ∃ t, w.Appended t w' := by
  rw [rawElement_eq] at h
  obtain ⟨first, w₁, hcheck, hcopy⟩ := exec_bind_eq_ok.mp h
  unfold checkRaw at hcheck
  rw [exec_get_bind, exec_ofResult] at hcheck
  obtain ⟨hraw, rfl⟩ := Prod.mk.inj hcheck
  obtain ⟨es, hreads⟩ := readsAs_of_rawCheck hraw
  obtain ⟨t, rfl, hlegal, helements⟩ := exists_tree_of_readerIn hreads
  have hroom := hfits _ hreads
  rw [← helements] at hroom
  unfold copyRaw at hcopy
  obtain ⟨_, w₂, htag, hrest⟩ := exec_bind_eq_ok.mp hcopy
  obtain ⟨hadmits, rfl⟩ := checkTag_eq_ok.mp htag
  obtain ⟨_, w₃, hemit, hmark⟩ := exec_bind_eq_ok.mp hrest
  obtain ⟨hspace, rfl⟩ := emit_eq_ok.mp hemit
  rw [exec_modify] at hmark
  exact ⟨t, hadmits.notDone, hlegal, (t.fitsDepth_iff _).mp hroom, hspace,
    (Prod.mk.inj hmark).2.symm⟩

/-- So is an element that is put under another tag. -/
lemma rawElementRetagged_appended (hfits : (Call.rawElementRetagged bytes tag).Composes w)
    (h : exec (rawElementRetagged bytes tag) w = (.ok (), w')) : ∃ t, w.Appended t w' := by
  have hcheck := h
  unfold rawElementRetagged at hcheck
  obtain ⟨first, w₁, hraw, -⟩ := exec_bind_eq_ok.mp hcheck
  rw [exec_ofResult] at hraw
  obtain ⟨es, hreads⟩ := readsAs_of_rawCheck (Prod.mk.inj hraw).1
  obtain ⟨hnarrow, hroom⟩ := hfits _ _ hreads
  obtain ⟨t, rfl, hlegal, helements⟩ := exists_tree_of_newIn hreads
  have htag := Tree.tag_of_elements helements
  obtain ⟨hadmits, hspace, rfl⟩ := rawElementRetagged_of_ok hreads htag h
  have hform : t.field.control = t.field.tag.control := by
    rw [← htag, ← hnarrow, t.octets_eq]
    exact (fromBits_or_bits t.field.control t.type).2.symm
  have hsame : retagged t tag = (t.retag tag.wire).octets := by
    rw [retagged, if_pos hform, List.nil_append, Tree.octets_retag]
  have hdepth : fitsDepth w.depth (t.retag tag.wire).elements = true := by
    rw [Tree.elements_retag helements]
    exact hroom
  rw [hsame] at hspace ⊢
  exact ⟨t.retag tag.wire, hadmits.notDone,
    hlegal.retag ((tag.wire_allowedIn_iff _).mpr hadmits.allowed),
    ((t.retag tag.wire).fitsDepth_iff _).mp hdepth, hspace, rfl⟩

/-- Every call that succeeds, and copies only what fits, appends a tree, or the start or the end of a
container. -/
lemma Call.appended {c : Call} (hfits : c.Composes w) (h : exec c.run w = (.ok (), w')) :
    (∃ t, w.Appended t w') ∨ (∃ tag kind, exec (start tag kind) w = (.ok (), w')) ∨
      exec endContainer w = (.ok (), w') := by
  cases c with
  | own c => exact c.appended h
  | rawElement bytes => exact .inl (rawElement_appended hfits h)
  | rawElementRetagged bytes tag => exact .inl (rawElementRetagged_appended hfits h)

/-! ## What the octets of a writer are -/

namespace TlvWriter

lemma depth_mark (w : TlvWriter) : w.mark.depth = w.depth := by
  unfold mark
  split_ifs <;> rfl

lemma startedInside_mark (w : TlvWriter) : w.mark.startedInside = w.startedInside := by
  unfold mark
  split_ifs <;> rfl

lemma containers_mark (w : TlvWriter) : w.mark.nesting.containers = w.nesting.containers := by
  unfold mark
  split_ifs <;> rfl

end TlvWriter

/-- Octets are those of one tree that `validate` accepts. -/
def Legal (bytes : List UInt8) : Prop :=
  ∃ t : Tree, t.octets = bytes ∧ t.LegalIn none ∧ t.depth ≤ maxDepth

/-- What the octets of a writer are: nothing yet, or octets that whatever closes the open containers
makes those of one tree. -/
structure Spelled (w : TlvWriter) : Prop where
  sound : w.Sound
  atTop : w.startedInside = false
  inside : w.depth ≠ 0 → w.topLevelDone = false
  fresh : w.depth = 0 → w.topLevelDone = false → w.written = []
  spells : w.depth ≠ 0 ∨ w.topLevelDone = true →
    ∀ rest n, Closes w.opened rest n → Legal (w.written ++ rest)

lemma Closes.tree {kind : ContainerKind} {stack : List ContainerKind} {rest : List UInt8} {m : ℕ}
    {t : Tree} (hlegal : t.LegalIn (some kind))
    (hroom : (kind :: stack).length + t.depth ≤ maxDepth ∨ t.depth = 0)
    (h : Closes (kind :: stack) rest m) : Closes (kind :: stack) (t.octets ++ rest) (t.count + m) := by
  obtain ⟨ms, after, m', rfl, hmembers, hdepth, hstack, rfl⟩ := h
  refine ⟨.cons t ms, after, m', ?_, ⟨hlegal, hmembers⟩, ?_, hstack, ?_⟩
  · rw [Members.octets, List.append_assoc]
  · rw [Members.depth]
    rw [List.length_cons] at hroom
    omega
  · rw [Members.count]
    omega

namespace Spelled

variable {w w' : TlvWriter}

lemma opened_length (h : Spelled w) : w.opened.length = w.depth := by
  rw [TlvWriter.opened, List.length_reverse, TlvWriter.length_containers h.sound]

lemma opened_head (h : Spelled w) : w.currentContainer = w.opened.head? := by
  rw [TlvWriter.opened, List.head?_reverse, TlvWriter.currentContainer_eq h.sound]

lemma exists_opened (h : Spelled w) (hdepth : w.depth ≠ 0) : ∃ kind stack, w.opened = kind :: stack := by
  apply List.exists_cons_of_ne_nil
  intro hnil
  rw [← h.opened_length, hnil] at hdepth
  exact hdepth rfl

lemma opened_eq_nil (h : Spelled w) (hdepth : w.depth = 0) : w.opened = [] := by
  rw [← List.length_eq_zero_iff, h.opened_length, hdepth]

/-- Where an element may start and none is open, nothing is written. -/
lemma written_eq_nil (h : Spelled w) (hdepth : w.depth = 0)
    (hmore : ¬ (w.depth = 0 ∧ w.topLevelDone = true)) : w.written = [] :=
  h.fresh hdepth (Bool.eq_false_of_not_eq_true fun hdone => hmore ⟨hdepth, hdone⟩)

lemma new (buf : Slice) : Spelled (.new buf) := by
  refine ⟨TlvWriter.sound_new buf, rfl, fun _ => rfl, fun _ _ => ?_, ?_⟩
  · simp [TlvWriter.written, TlvWriter.new]
  · rintro (hdepth | hdone)
    · exact absurd rfl hdepth
    · exact absurd hdone (by simp [TlvWriter.new])

lemma sound_put (h : w.Sound) {bytes : List UInt8} (hfits : w.Fits bytes) : (w.put bytes).Sound := by
  refine ⟨?_, h.depth_le⟩
  show w.pos + bytes.length ≤ (w.buf.overwrite w.pos bytes).octets.length
  rw [Slice.length_overwrite]
  exact hfits

/-- A tree that is appended keeps it. -/
lemma appended (h : Spelled w) {t : Tree} (ht : w.Appended t w') : Spelled w' := by
  obtain ⟨hmore, hlegal, hroom, hfits, rfl⟩ := ht
  have hsound := sound_put h.sound hfits
  have hwritten : (w.put t.octets).mark.written = w.written ++ t.octets := by
    rw [TlvWriter.written_mark, TlvWriter.written_put hfits]
  by_cases hdepth : w.depth = 0
  · -- the tree is all there is
    have hnil := h.written_eq_nil hdepth hmore
    have hmark : (w.put t.octets).mark = { w.put t.octets with topLevelDone := true } := if_pos hdepth
    rw [hnil, List.nil_append] at hwritten
    rw [hmark] at hwritten ⊢
    refine ⟨⟨hsound.pos_le, hsound.depth_le⟩, h.atTop, fun hne => absurd hdepth hne,
      fun _ hfalse => absurd hfalse (by simp), fun _ rest n hcloses => ?_⟩
    have hopened : TlvWriter.opened { w.put t.octets with topLevelDone := true } = [] :=
      h.opened_eq_nil hdepth
    rw [hopened] at hcloses
    obtain ⟨rfl, -⟩ := hcloses
    rw [h.opened_head, h.opened_eq_nil hdepth] at hlegal
    rw [hwritten, List.append_nil]
    exact ⟨t, rfl, hlegal, by omega⟩
  · -- the tree is one more member of the innermost container
    have hmark : (w.put t.octets).mark = w.put t.octets := if_neg hdepth
    rw [hmark] at hwritten ⊢
    refine ⟨hsound, h.atTop, h.inside, fun hzero => absurd hzero hdepth, fun _ rest n hcloses => ?_⟩
    have hopened : (w.put t.octets).opened = w.opened := rfl
    obtain ⟨kind, stack, hstack⟩ := h.exists_opened hdepth
    rw [hopened, hstack] at hcloses
    rw [h.opened_head, hstack, List.head?_cons] at hlegal
    rw [← h.opened_length, hstack] at hroom
    rw [hwritten, List.append_assoc]
    apply h.spells (.inl hdepth) _ (t.count + n)
    rw [hstack]
    exact hcloses.tree hlegal hroom

/-- The start of a container keeps it. -/
lemma start {tag : Tag} {kind : ContainerKind} (h : Spelled w)
    (hrun : exec (Tlv.start tag kind) w = (.ok (), w')) : Spelled w' := by
  obtain ⟨hroom, hadmits, hfits, rfl⟩ := start_eq_ok.mp hrun
  obtain ⟨hsound', hnesting⟩ := start_of_ok h.sound hrun
  have hlegal : tag.wire.AllowedIn w.opened.head? := by
    rw [← h.opened_head]
    exact (tag.wire_allowedIn_iff _).mpr hadmits.allowed
  have hoctets : elementOctets tag kind.elementType [] = tag.wire.head kind.elementType :=
    List.append_nil _
  have hwritten : ((w.put (elementOctets tag kind.elementType [])).mark.enter kind).written =
      w.written ++ tag.wire.head kind.elementType := by
    rw [← hoctets, ← TlvWriter.written_put hfits]
    exact TlvWriter.written_mark _
  have hopened : ((w.put (elementOctets tag kind.elementType [])).mark.enter kind).opened =
      kind :: w.opened := by
    rw [TlvWriter.opened, hnesting]
    exact List.reverse_concat
  refine ⟨hsound', ?_, fun _ => rfl, fun hzero => absurd hzero (Nat.succ_ne_zero _),
    fun _ rest n hcloses => ?_⟩
  · show (w.put _).mark.startedInside = false
    rw [TlvWriter.startedInside_mark]
    exact h.atTop
  rw [hopened] at hcloses
  rw [hwritten, List.append_assoc]
  by_cases hdepth : w.depth = 0
  · rw [h.opened_eq_nil hdepth] at hcloses hlegal
    rw [h.written_eq_nil hdepth hadmits.notDone, List.nil_append]
    obtain ⟨t, hoctets, hlegal, hdepth, -⟩ := exists_tree_iff.mpr
      ⟨.opening tag.wire kind, [kind], rest, n, .opening hlegal (by simp [maxDepth]), rfl, hcloses,
        rfl⟩
    exact ⟨t, hoctets, hlegal, hdepth⟩
  · obtain ⟨outer, stack, hstack⟩ := h.exists_opened hdepth
    rw [hstack] at hcloses hlegal
    apply h.spells (.inl hdepth) _ (n + 1)
    rw [hstack]
    exact hcloses.opening hlegal

/-- The end of a container keeps it. -/
lemma endContainer (h : Spelled w) (hrun : exec Tlv.endContainer w = (.ok (), w')) : Spelled w' := by
  obtain ⟨hdepth, hfits, rfl⟩ := endContainer_eq_ok.mp hrun
  have hput := sound_put h.sound hfits
  have hleft : (w.put [0x18]).leave.Sound := ⟨hput.pos_le, (Nat.sub_le _ _).trans hput.depth_le⟩
  have hwritten : (w.put [0x18]).leave.mark.written = w.written ++ [endOctet] := by
    rw [TlvWriter.written_mark]
    exact TlvWriter.written_put hfits
  obtain ⟨kind, stack, hstack⟩ := h.exists_opened hdepth
  have hopened : (w.put [0x18]).leave.mark.opened = stack := by
    have hcontainers : (w.put [0x18]).leave.mark.nesting.containers = w.nesting.containers.dropLast := by
      rw [TlvWriter.containers_mark, TlvWriter.nesting_leave hput]
      rfl
    rw [TlvWriter.opened, hcontainers, ← List.tail_reverse, ← TlvWriter.opened, hstack, List.tail_cons]
  have hroom : stack.length < maxDepth := by
    have hlen := h.opened_length
    rw [hstack, List.length_cons] at hlen
    have hle := h.sound.depth_le
    omega
  refine ⟨hleft.mark, ?_, ?_, ?_, fun _ rest n hcloses => ?_⟩
  · rw [TlvWriter.startedInside_mark]
    exact h.atTop
  · intro hne
    rw [TlvWriter.depth_mark] at hne
    have hmark : (w.put [0x18]).leave.mark = (w.put [0x18]).leave := if_neg hne
    rw [hmark]
    exact h.inside hdepth
  · intro hzero hfalse
    rw [TlvWriter.depth_mark] at hzero
    have hmark : (w.put [0x18]).leave.mark = { (w.put [0x18]).leave with topLevelDone := true } :=
      if_pos hzero
    rw [hmark] at hfalse
    exact absurd hfalse (by simp)
  · rw [hopened] at hcloses
    rw [hwritten, List.append_assoc]
    apply h.spells (.inl hdepth) _ (n + 1)
    rw [hstack]
    exact hcloses.closing hroom

lemma call {c : Call} (h : Spelled w) (hfits : c.Composes w) (hrun : exec c.run w = (.ok (), w')) :
    Spelled w' := by
  rcases c.appended hfits hrun with ⟨t, ht⟩ | ⟨tag, kind, hstart⟩ | hend
  · exact h.appended ht
  · exact h.start hstart
  · exact h.endContainer hend

/-- A twin that has written the same octets is spelled the same. -/
lemma twin (h : Spelled w) (htwin : w.Twin w') (hwritten : w'.written = w.written) : Spelled w' := by
  have hopened : w'.opened = w.opened := by
    unfold TlvWriter.opened TlvWriter.nesting
    rw [htwin.stack_eq, htwin.depth_eq]
  refine ⟨⟨?_, ?_⟩, ?_, ?_, ?_, ?_⟩
  · rw [htwin.pos_eq, htwin.length_eq]
    exact h.sound.pos_le
  · rw [htwin.depth_eq]
    exact h.sound.depth_le
  · rw [htwin.startedInside_eq]
    exact h.atTop
  · rw [htwin.depth_eq, htwin.topLevelDone_eq]
    exact h.inside
  · rw [htwin.depth_eq, htwin.topLevelDone_eq, hwritten]
    exact h.fresh
  · rw [htwin.depth_eq, htwin.topLevelDone_eq, hwritten, hopened]
    exact h.spells

/-- A writer that finishes has written one tree. -/
lemma finish {bytes : List UInt8} (h : Spelled w) (hfinish : w.finish = .ok bytes) : Legal bytes := by
  obtain ⟨hdepth, hdone, -, rfl⟩ := (TlvWriter.finish_eq_ok h.atTop).mp hfinish
  have hcloses : Closes w.opened [] 0 := by
    rw [h.opened_eq_nil hdepth]
    exact ⟨rfl, rfl⟩
  have hlegal := h.spells (.inr hdone) [] 0 hcloses
  rwa [List.append_nil] at hlegal

end Spelled

/-- Every writer of a run whose calls copy only what fits is spelled. -/
lemma Reached.spelled {buf : Slice} (h : Reached (fun w c => c.Composes w) buf w) : Spelled w := by
  induction h with
  | new => exact .new buf
  | call before hfits hrun ih => exact ih.call hfits hrun
  | takenBack actions before ih =>
    obtain ⟨htwin, hwritten⟩ := ((Packing.since_self _).actAll actions).forward.rollback
    exact ih.twin htwin hwritten

/-- **What is spliced in where it fits is read back.** In every run of successful calls on a new writer,
blocks taken back included, whose copied elements fit within the stack from where the writer stands (and
are put under another tag only from the form this writer gives their own), a writer that finishes has
written what `validate` accepts. -/
theorem spliced_validates {buf : Slice} {w : TlvWriter} {bytes : List UInt8}
    (h : Reached (fun w c => c.Composes w) buf w) (hfinish : w.finish = .ok bytes) :
    ∃ n, validate bytes = .ok n := by
  obtain ⟨t, hoctets, hlegal, hdepth⟩ := h.spelled.finish hfinish
  have hlt : min t.count (2 ^ 64 - 1) < 2 ^ 64 := by omega
  refine ⟨.ofNat (min t.count (2 ^ 64 - 1)), (validate_eq_ok_iff_min bytes _).mpr
    ⟨t.count, ⟨t, hoctets, hlegal, hdepth, rfl⟩, ?_⟩⟩
  rw [UInt64.toNat_ofNat', Nat.mod_eq_of_lt hlt]

/-- The number 42 under the context tag 1. -/
def spliceNumber : List UInt8 := [0x24, 0x01, 0x2A]

lemma spliceNumber_readsAs : (newIn spliceNumber .struct).ReadsAs [⟨.context 1, .unsigned 42⟩] := by
  have hfirst : (exec nextElement (newIn spliceNumber .struct)).1 =
      .ok (some ⟨.context 1, .unsigned 42⟩) := by
    decide +kernel
  have hfinish : (exec nextElement (newIn spliceNumber .struct)).2.finish = .ok () := by
    decide +kernel
  exact ⟨_, .cons (Prod.ext hfirst rfl) (.nil _), hfinish⟩

lemma Reached.step {allowed : TlvWriter → Call → Prop} {buf : Slice} {w : TlvWriter}
    (before : Reached allowed buf w) {c : Call} (ok : allowed w c)
    (h : (exec c.run w).1 = .ok ()) : Reached allowed buf (exec c.run w).2 :=
  .call before ok (Prod.ext h rfl)

/-- A writer over 64 octets inside a structure. -/
def structWriter : TlvWriter :=
  (exec (Call.own (.start .anonymous .struct)).run (.new sampleBuffer)).2

/-- A structure, and a number copied into it. -/
def numberWriter : TlvWriter :=
  (exec (Call.own .endContainer).run (exec (Call.rawElement spliceNumber).run structWriter).2).2

theorem spliced_validates_number : numberWriter.finish = .ok [0x15, 0x24, 0x01, 0x2A, 0x18] ∧
      ∃ n, validate [0x15, 0x24, 0x01, 0x2A, 0x18] = .ok n := by
  have hfinish : numberWriter.finish = .ok [0x15, 0x24, 0x01, 0x2A, 0x18] := by
    decide +kernel
  have hstart : (exec (Call.own (.start .anonymous .struct)).run (.new sampleBuffer)).1 = .ok () := by
    decide +kernel
  have hcopy : (exec (Call.rawElement spliceNumber).run structWriter).1 = .ok () := by
    decide +kernel
  have hend : (exec (Call.own .endContainer).run
      (exec (Call.rawElement spliceNumber).run structWriter).2).1 = .ok () := by
    decide +kernel
  have hplace : structWriter.currentContainer = some .struct := by
    decide +kernel
  have hfits : (Call.rawElement spliceNumber).Composes structWriter := by
    intro es hes
    rw [hplace] at hes
    obtain rfl := spliceNumber_readsAs.unique hes
    rfl
  have hinside : Reached (fun w c => c.Composes w) sampleBuffer structWriter :=
    Reached.step .new (show Call.Composes _ (.own _) from trivial) hstart
  have hreached : Reached (fun w c => c.Composes w) sampleBuffer numberWriter :=
    Reached.step (Reached.step hinside hfits hcopy) (show Call.Composes _ (.own _) from trivial) hend
  exact ⟨hfinish, spliced_validates hreached hfinish⟩

/-- Structures in one another, each under the context tag 1. -/
def nested : ℕ → Members
  | 0 => .nil
  | k + 1 => .cons (.container ⟨.contextSpecific, [1], rfl⟩ .struct (nested k)) .nil

lemma nested_depth (k : ℕ) : (nested k).depth = k := by
  induction k with
  | zero => rfl
  | succ k ih =>
    show max ((nested k).depth + 1) 0 = k + 1
    rw [ih]
    exact Nat.max_eq_left (Nat.zero_le _)

/-- Makes the calls one after the other, until one fails. -/
def Call.runAll : List Call → Writing Unit
  | [] => pure ()
  | call :: calls => do
    call.run
    runAll calls

lemma Reached.runAll {buf : Slice} {calls : List Call} (before : Reached (fun _ _ => True) buf w)
    (h : exec (Call.runAll calls) w = (.ok (), w')) : Reached (fun _ _ => True) buf w' := by
  induction calls generalizing w with
  | nil =>
    obtain ⟨-, rfl⟩ := Prod.mk.inj h
    exact before
  | cons call calls ih =>
    obtain ⟨_, w₁, hcall, hcalls⟩ := exec_bind_eq_ok.mp h
    exact ih (.call before trivial hcall) hcalls

/-- Two structures, fifteen of them in one another copied into the inner, and both closed. -/
def deepCalls : List Call :=
  [.own (.start .anonymous .struct), .own (.start (.context 1) .struct),
    .rawElement (nested 15).octets, .own .endContainer, .own .endContainer]

/-- The writer after them. -/
def deepWriter : TlvWriter := (exec (Call.runAll deepCalls) (.new sampleBuffer)).2

lemma untagged : ([] : List UInt8).length = TagControl.anonymous.octets := rfl

/-- Seventeen structures in one another are one more than the stack holds. -/
def deepTree : Tree := .container ⟨.anonymous, [], untagged⟩ .struct (nested 16)

/-- Every call succeeds, and so does `finish`; but the fifteen structures were checked as though they
were to stand one container deep, and the encoding is refused. -/
theorem spliced_too_deep : Reached (fun _ _ => True) sampleBuffer deepWriter ∧
      deepWriter.finish = .ok deepTree.octets ∧ ∀ n, validate deepTree.octets ≠ .ok n := by
  have hfinish : deepWriter.finish = .ok deepTree.octets := by
    decide +kernel
  have hok : (exec (Call.runAll deepCalls) (.new sampleBuffer)).1 = .ok () := by
    decide +kernel
  have hrun : exec (Call.runAll deepCalls) (.new sampleBuffer) = (.ok (), deepWriter) := by
    unfold deepWriter
    rw [← hok]
  refine ⟨Reached.new.runAll hrun, hfinish, ?_⟩
  intro n hn
  obtain ⟨m, ⟨t, hoctets, -, hdepth, -⟩, -⟩ := (validate_eq_ok_iff_min _ n).mp hn
  obtain rfl := Tree.octets_inj hoctets
  have hdeep : deepTree.depth = 17 := by
    show (nested 16).depth + 1 = 17
    rw [nested_depth]
  rw [hdeep] at hdepth
  exact absurd hdepth (by simp [maxDepth])

end MatterKit.Tlv
