import MatterKit.Tlv.Raw

/-!
# What an encoder does, whatever the buffer holds

An encoder looks at the containers that are open and at the room that is left, and at nothing else of
the writer. So it comes to a script: the octets it writes, what it returns, and the containers it leaves
open, all decided by the ones it starts inside (`Nesting`). Where the octets fit it does just that, and
where they do not it runs out of buffer (`Follows`).

* Scripts compose (`Follows.bind`), every call of the writer has one, and so has every encoder that is
  made of them (`Scripted`).
* Two writers that differ only in what is in their buffers go through an encoder alike
  (`Scripted.alike`).
-/

namespace MatterKit.Tlv

open Lib Machine

variable {α β : Type}

/-! ## Nestings -/

/-- The containers that are open, outermost first, and whether a top-level element is complete. -/
structure Nesting where
  containers : List ContainerKind
  topLevelDone : Bool

namespace Nesting

/-- Inside one more container. -/
def enter (n : Nesting) (kind : ContainerKind) : Nesting := ⟨n.containers ++ [kind], false⟩

/-- Behind an element, which is complete if it was at the top level. -/
def mark (n : Nesting) : Nesting := if n.containers = [] then { n with topLevelDone := true } else n

/-- Out of the innermost container. -/
def leave (n : Nesting) : Nesting := { n with containers := n.containers.dropLast }

/-- Inside a container. -/
def Inside (n : Nesting) : Prop := n.containers ≠ [] ∧ n.topLevelDone = false

instance (n : Nesting) : Decidable n.Inside := inferInstanceAs (Decidable (_ ∧ _))

lemma Inside.mark {n : Nesting} (h : n.Inside) : n.mark = n := if_neg h.1

lemma Inside.enter {n : Nesting} (kind : ContainerKind) : (n.enter kind).Inside :=
  ⟨by simp [Nesting.enter], rfl⟩

lemma Inside.leave_enter {n : Nesting} (h : n.Inside) (kind : ContainerKind) :
    (n.enter kind).leave.mark = n := by
  have hleave : (n.enter kind).leave = n := by
    unfold Nesting.enter leave
    rw [List.dropLast_concat, ← h.2]
  rw [hleave, h.mark]

end Nesting

namespace TlvWriter

/-- The nesting of a writer. -/
def nesting (w : TlvWriter) : Nesting := ⟨w.stack.toList.take w.depth, w.topLevelDone⟩

/-- The position is in the buffer and the depth in the stack. -/
structure Sound (w : TlvWriter) : Prop where
  pos_le : w.pos ≤ w.buf.octets.length
  depth_le : w.depth ≤ maxDepth

/-- The room of a writer is that of another. -/
structure SameRoom (w w' : TlvWriter) : Prop where
  length_eq : w'.buf.octets.length = w.buf.octets.length
  startedInside_eq : w'.startedInside = w.startedInside

/-- The second writer has written octets behind those of the first, and stands at a nesting. -/
structure Wrote (w : TlvWriter) (bytes : List UInt8) (after : Nesting) (w' : TlvWriter) : Prop where
  buf_eq : w'.buf = w.buf.overwrite w.pos bytes
  pos_eq : w'.pos = w.pos + bytes.length
  nesting_eq : w'.nesting = after
  sound : w'.Sound
  startedInside_eq : w'.startedInside = w.startedInside

variable {w : TlvWriter}

lemma fits_nil : w.Fits [] ↔ w.pos ≤ w.buf.octets.length := Iff.rfl

lemma Fits.left {a b : List UInt8} (h : w.Fits (a ++ b)) : w.Fits a := by
  unfold Fits at h ⊢
  rw [List.length_append] at h
  omega

lemma sound_new (buf : Slice) : (TlvWriter.new buf).Sound := ⟨Nat.zero_le _, Nat.zero_le _⟩

lemma nesting_new (buf : Slice) : (TlvWriter.new buf).nesting = ⟨[], false⟩ := rfl

/-- Nothing is written where no octets are. -/
lemma wrote_nil (h : w.Sound) : w.Wrote [] w.nesting w := by
  refine ⟨?_, rfl, rfl, h, rfl⟩
  unfold Slice.overwrite
  rw [dif_pos (by exact h.pos_le)]
  simp

lemma Wrote.sameRoom {w w' : TlvWriter} {bytes : List UInt8} {n : Nesting}
    (h : w.Wrote bytes n w') : w.SameRoom w' :=
  ⟨by rw [h.buf_eq, Slice.length_overwrite], h.startedInside_eq⟩

lemma SameRoom.refl (w : TlvWriter) : w.SameRoom w := ⟨rfl, rfl⟩

lemma SameRoom.trans {w w' w'' : TlvWriter} (h : w.SameRoom w') (h' : w'.SameRoom w'') : w.SameRoom w'' :=
  ⟨h'.length_eq.trans h.length_eq, h'.startedInside_eq.trans h.startedInside_eq⟩

lemma Wrote.fits_iff {w w' : TlvWriter} {a b : List UInt8} {n : Nesting} (h : w.Wrote a n w') :
    w'.Fits b ↔ w.Fits (a ++ b) := by
  unfold Fits
  rw [h.pos_eq, h.sameRoom.length_eq, List.length_append]
  omega

/-- What is written in two parts is written. -/
lemma Wrote.append {w w' w'' : TlvWriter} {a b : List UInt8} {n n' : Nesting}
    (hfits : w.Fits (a ++ b)) (h : w.Wrote a n w') (h' : w'.Wrote b n' w'') : w.Wrote (a ++ b) n' w'' := by
  refine ⟨?_, ?_, h'.nesting_eq, h'.sound, h'.startedInside_eq.trans h.startedInside_eq⟩
  · have hput := congrArg TlvWriter.buf (put_put hfits)
    rw [h'.buf_eq, h.buf_eq, h.pos_eq]
    exact hput
  · rw [h'.pos_eq, h.pos_eq, List.length_append, Nat.add_assoc]

/-! ### The nesting after each step of a writer -/

lemma length_containers (h : w.Sound) : w.nesting.containers.length = w.depth := by
  show (w.stack.toList.take w.depth).length = w.depth
  rw [List.length_take, Vector.length_toList]
  exact Nat.min_eq_left h.depth_le

lemma containers_eq_nil_iff (h : w.Sound) : w.nesting.containers = [] ↔ w.depth = 0 := by
  rw [← length_containers h, List.length_eq_zero_iff]

lemma currentContainer_eq (h : w.Sound) : w.currentContainer = w.nesting.containers.getLast? := by
  show (if w.depth = 0 then none else w.stack[w.depth - 1]?) =
    (w.stack.toList.take w.depth).getLast?
  rw [List.getLast?_take]
  split_ifs with hdepth
  · rfl
  · have hlt : w.depth - 1 < maxDepth := by
      have := h.depth_le
      omega
    rw [List.getElem?_eq_getElem (by simpa using hlt), Vector.getElem?_eq_getElem hlt]
    simp

lemma nesting_mark (h : w.Sound) : w.mark.nesting = w.nesting.mark := by
  unfold mark Nesting.mark
  by_cases hdepth : w.depth = 0
  · rw [if_pos hdepth, if_pos ((containers_eq_nil_iff h).mpr hdepth)]
    rfl
  · rw [if_neg hdepth, if_neg (mt (containers_eq_nil_iff h).mp hdepth)]

lemma Sound.mark (h : w.Sound) : w.mark.Sound := by
  unfold TlvWriter.mark
  split_ifs
  · exact ⟨h.pos_le, h.depth_le⟩
  · exact h

lemma nesting_enter (h : w.depth < maxDepth) (kind : ContainerKind) :
    (w.enter kind).nesting = w.nesting.enter kind := by
  show Nesting.mk ((w.stack.setIfInBounds w.depth kind).toList.take (w.depth + 1)) false =
    ⟨w.stack.toList.take w.depth ++ [kind], false⟩
  have hlist : (w.stack.setIfInBounds w.depth kind).toList = w.stack.toList.set w.depth kind := by
    simp [Vector.toList, Vector.setIfInBounds]
  have hlength : w.depth < w.stack.toList.length := by simpa using h
  rw [hlist, List.take_add_one, List.take_set_of_le (Nat.le_refl _), List.getElem?_set_self hlength]
  rfl

lemma nesting_leave (h : w.Sound) : w.leave.nesting = w.nesting.leave := by
  show Nesting.mk (w.stack.toList.take (w.depth - 1)) w.topLevelDone =
    ⟨(w.stack.toList.take w.depth).dropLast, w.topLevelDone⟩
  rw [List.dropLast_eq_take, List.take_take, List.length_take, Vector.length_toList,
    Nat.min_eq_left h.depth_le, Nat.min_eq_left (Nat.sub_le _ _)]

end TlvWriter

open TlvWriter

/-! ## Scripts -/

/-- What an encoder does from one nesting: the octets it writes, what it returns and the nesting it
leaves. -/
structure Script (α : Type) where
  bytes : List UInt8
  result : Except ErrorCode α
  after : Nesting

/-- From a nesting, an encoder goes by a script: it does what the script says where the octets fit,
and runs out of buffer where they do not. -/
def Follows (x : Writing α) (n : Nesting) (script : Script α) : Prop :=
  ∀ w : TlvWriter, w.Sound → w.nesting = n →
    (w.Fits script.bytes →
      ∃ w', exec x w = (script.result, w') ∧ w.Wrote script.bytes script.after w') ∧
    (¬ w.Fits script.bytes → ∃ w', exec x w = (.error .bufferTooSmall, w') ∧ w.SameRoom w')

namespace Follows

variable {x : Writing α} {result : Except ErrorCode α} {f : α → Writing β} {bytes : List UInt8}

/-- A computation that writes nothing and looks only at the nesting. -/
lemma of_silent {n after : Nesting} {g : TlvWriter → TlvWriter}
    (hg : ∀ w : TlvWriter, w.Sound → w.nesting = n → w.Wrote [] after (g w))
    (h : ∀ w : TlvWriter, w.Sound → w.nesting = n → exec x w = (result, g w)) :
    Follows x n ⟨[], result, after⟩ := by
  intro w hsound hn
  refine ⟨fun _ => ⟨g w, h w hsound hn, hg w hsound hn⟩, fun hfits => ?_⟩
  exact absurd (fits_nil.mpr hsound.pos_le) hfits

/-- A computation that leaves the writer alone. -/
lemma of_still {n : Nesting} (h : ∀ w : TlvWriter, w.Sound → w.nesting = n → exec x w = (result, w)) :
    Follows x n ⟨[], result, n⟩ := by
  refine of_silent (g := id) (fun w hsound hn => ?_) h
  rw [← hn]
  exact wrote_nil hsound

/-- A run that succeeds is the one the script has. -/
lemma of_ok {n : Nesting} {script : Script α} (hx : Follows x n script) {w w' : TlvWriter} {a : α}
    (hsound : w.Sound) (hn : w.nesting = n) (h : exec x w = (.ok a, w')) :
    script.result = .ok a ∧ w.Wrote script.bytes script.after w' := by
  by_cases hfits : w.Fits script.bytes
  · obtain ⟨w₁, hrun, hwrote⟩ := (hx w hsound hn).1 hfits
    rw [hrun] at h
    obtain ⟨hresult, rfl⟩ := Prod.mk.inj h
    exact ⟨hresult, hwrote⟩
  · obtain ⟨w₁, hrun, _⟩ := (hx w hsound hn).2 hfits
    rw [hrun] at h
    exact absurd (Prod.mk.inj h).1 nofun

/-- A sequence whose first part fails. -/
lemma bind_error {n after : Nesting} {e : ErrorCode} (hx : Follows x n ⟨bytes, .error e, after⟩) :
    Follows (x >>= f) n ⟨bytes, .error e, after⟩ := by
  intro w hsound hn
  refine ⟨fun hfits => ?_, fun hfits => ?_⟩
  · obtain ⟨w', hrun, hwrote⟩ := (hx w hsound hn).1 hfits
    exact ⟨w', by rw [exec_bind, hrun], hwrote⟩
  · obtain ⟨w', hrun, hkept⟩ := (hx w hsound hn).2 hfits
    exact ⟨w', by rw [exec_bind, hrun], hkept⟩

/-- A sequence writes what its parts write, one behind the other. -/
lemma bind {n n' : Nesting} {a : α} {script : Script β} (hx : Follows x n ⟨bytes, .ok a, n'⟩)
    (hf : Follows (f a) n' script) :
    Follows (x >>= f) n ⟨bytes ++ script.bytes, script.result, script.after⟩ := by
  intro w hsound hn
  by_cases hleft : w.Fits bytes
  · obtain ⟨w₁, hrun, hwrote⟩ := (hx w hsound hn).1 hleft
    have hrest := hf w₁ hwrote.sound hwrote.nesting_eq
    rw [exec_bind_ok hrun]
    refine ⟨fun hfits => ?_, fun hfits => ?_⟩
    · obtain ⟨w₂, hrun', hwrote'⟩ := hrest.1 (hwrote.fits_iff.mpr hfits)
      exact ⟨w₂, hrun', hwrote.append hfits hwrote'⟩
    · obtain ⟨w₂, hrun', hkept⟩ := hrest.2 fun h => hfits (hwrote.fits_iff.mp h)
      exact ⟨w₂, hrun', hwrote.sameRoom.trans hkept⟩
  · refine ⟨fun hfits => absurd hfits.left hleft, fun _ => ?_⟩
    obtain ⟨w', hrun, hkept⟩ := (hx w hsound hn).2 hleft
    exact ⟨w', by rw [exec_bind, hrun], hkept⟩

end Follows

/-! ## The calls of the writer -/

/-- Source: `TlvWriter::check_tag`, as a function of the nesting. -/
def Nesting.check (n : Nesting) (tag : Tag) : Except ErrorCode Unit :=
  if n.containers = [] ∧ n.topLevelDone = true then .error .invalidState
  else if tag.allowedIn n.containers.getLast? = true then .ok () else .error .tlvInvalidTag

lemma follows_emit (bytes : List UInt8) (n : Nesting) : Follows (emit bytes) n ⟨bytes, .ok (), n⟩ := by
  rintro w hsound rfl
  refine ⟨fun hfits => ⟨w.put bytes, emit_eq_ok.mpr ⟨hfits, rfl⟩, rfl, rfl, rfl, ⟨?_, ?_⟩, rfl⟩,
    fun hfits => ⟨w, ?_, SameRoom.refl w⟩⟩
  · show w.pos + bytes.length ≤ (w.buf.overwrite w.pos bytes).octets.length
    rw [Slice.length_overwrite]
    exact hfits
  · exact hsound.depth_le
  · unfold emit require
    rw [exec_get_bind, if_neg hfits]
    rfl

lemma follows_checkTag (tag : Tag) (n : Nesting) : Follows (checkTag tag) n ⟨[], n.check tag, n⟩ := by
  refine Follows.of_still ?_
  rintro w hsound rfl
  unfold checkTag Nesting.check require
  rw [exec_get_bind, exec_bind, currentContainer_eq hsound]
  by_cases hdone : w.depth = 0 ∧ w.topLevelDone = true
  · have hclosed : w.nesting.containers = [] ∧ w.nesting.topLevelDone = true :=
      ⟨(containers_eq_nil_iff hsound).mpr hdone.1, hdone.2⟩
    rw [if_neg (not_not.mpr hdone), if_pos hclosed]
    rfl
  · have hopen : ¬ (w.nesting.containers = [] ∧ w.nesting.topLevelDone = true) :=
      fun h => hdone ⟨(containers_eq_nil_iff hsound).mp h.1, h.2⟩
    rw [if_pos hdone, if_neg hopen]
    by_cases htag : tag.allowedIn w.nesting.containers.getLast? = true
    · rw [if_pos htag, if_pos htag]
      rfl
    · rw [if_neg htag, if_neg htag]
      rfl

lemma follows_mark (n : Nesting) : Follows (modify TlvWriter.mark) n ⟨[], .ok (), n.mark⟩ := by
  refine Follows.of_silent (g := TlvWriter.mark) ?_ fun _ _ _ => rfl
  rintro w hsound rfl
  have hnil := wrote_nil hsound
  have hkept : w.mark.buf = w.buf ∧ w.mark.pos = w.pos ∧ w.mark.startedInside = w.startedInside := by
    unfold TlvWriter.mark
    split_ifs
    · exact ⟨rfl, rfl, rfl⟩
    · exact ⟨rfl, rfl, rfl⟩
  exact ⟨hkept.1.trans hnil.buf_eq, hkept.2.1.trans hnil.pos_eq, nesting_mark hsound, hsound.mark,
    hkept.2.2⟩

variable {n : Nesting} {tag : Tag} {kind : ContainerKind} {bytes : List UInt8}
  {opened : List ContainerKind} {f : Unit → Writing α} {t : UInt8} {first : Element}

lemma follows_enter (h : n.containers.length < maxDepth) (kind : ContainerKind) :
    Follows (modify fun w => w.enter kind) n ⟨[], .ok (), n.enter kind⟩ := by
  refine Follows.of_silent (g := fun w => w.enter kind) ?_ fun _ _ _ => rfl
  rintro w hsound rfl
  rw [length_containers hsound] at h
  have hnil := wrote_nil hsound
  exact ⟨hnil.buf_eq, hnil.pos_eq, nesting_enter h kind, ⟨hsound.pos_le, h⟩, rfl⟩

lemma follows_leave (n : Nesting) :
    Follows (modify fun w => w.leave.mark) n ⟨[], .ok (), n.leave.mark⟩ := by
  have hleave : Follows (modify TlvWriter.leave) n ⟨[], .ok (), n.leave⟩ := by
    refine Follows.of_silent (g := TlvWriter.leave) ?_ fun _ _ _ => rfl
    rintro w hsound rfl
    have hnil := wrote_nil hsound
    exact ⟨hnil.buf_eq, hnil.pos_eq, nesting_leave hsound,
      ⟨hsound.pos_le, (Nat.sub_le _ _).trans hsound.depth_le⟩, rfl⟩
  exact hleave.bind (f := fun _ => modify TlvWriter.mark) (follows_mark n.leave)

lemma follows_head (h : n.check tag = .ok ()) (ty : ElementType) :
    Follows (head tag ty) n ⟨tag.controlOctet ty :: tag.encode, .ok (), n.mark⟩ := by
  have hcheck := follows_checkTag tag n
  rw [h] at hcheck
  have hrest := (follows_emit (tag.controlOctet ty :: tag.encode) n).bind
    (f := fun _ => modify TlvWriter.mark) (follows_mark n)
  have hall := hcheck.bind (f := fun _ => do
    emit (tag.controlOctet ty :: tag.encode)
    modify TlvWriter.mark) hrest
  rwa [List.append_nil] at hall

lemma follows_head_error {e : ErrorCode} (h : n.check tag = .error e) (ty : ElementType) :
    Follows (head tag ty) n ⟨[], .error e, n⟩ := by
  have hcheck := follows_checkTag tag n
  rw [h] at hcheck
  exact hcheck.bind_error

/-- Source: `TlvWriter::start`, the check of the depth. -/
def checkDepth : Writing Unit := do
  let w ← get
  require (w.depth < maxDepth) .tlvDepthExceeded

lemma follows_checkDepth (n : Nesting) : Follows checkDepth n
    ⟨[], if n.containers.length < maxDepth then .ok () else .error .tlvDepthExceeded, n⟩ := by
  refine Follows.of_still ?_
  rintro w hsound rfl
  unfold checkDepth require
  rw [exec_get_bind, length_containers hsound]
  split_ifs
  · rfl
  · rfl

lemma start_eq (tag : Tag) (kind : ContainerKind) : start tag kind = (do
    checkDepth
    head tag kind.elementType
    modify fun w => w.enter kind) := rfl

lemma follows_start_ok (hdepth : n.containers.length < maxDepth) (htag : n.check tag = .ok ())
    (kind : ContainerKind) : Follows (start tag kind) n
      ⟨tag.controlOctet kind.elementType :: tag.encode, .ok (), n.enter kind⟩ := by
  have hcheck := follows_checkDepth n
  rw [if_pos hdepth] at hcheck
  have hmark : n.mark.containers = n.containers := by
    unfold Nesting.mark
    split_ifs
    · rfl
    · rfl
  have henter : Follows (modify fun w => w.enter kind) n.mark ⟨[], .ok (), n.enter kind⟩ := by
    have h := follows_enter (n := n.mark) (by rwa [hmark]) kind
    unfold Nesting.enter at h ⊢
    rwa [hmark] at h
  have hrest := (follows_head htag kind.elementType).bind
    (f := fun _ => modify fun w => w.enter kind) henter
  rw [start_eq]
  have hall := hcheck.bind (f := fun _ => do
    head tag kind.elementType
    modify fun w => w.enter kind) hrest
  rwa [List.append_nil] at hall

lemma follows_start (n : Nesting) (tag : Tag) (kind : ContainerKind) :
    ∃ script, Follows (start tag kind) n script ∧
      (script.result = .ok () → script.after = n.enter kind) := by
  by_cases hdepth : n.containers.length < maxDepth
  · rcases htag : n.check tag with e | u
    · have hcheck := follows_checkDepth n
      rw [if_pos hdepth] at hcheck
      exact ⟨_, hcheck.bind (follows_head_error htag kind.elementType).bind_error, nofun⟩
    · exact ⟨_, follows_start_ok hdepth htag kind, fun _ => rfl⟩
  · have hcheck := follows_checkDepth n
    rw [if_neg hdepth] at hcheck
    exact ⟨_, hcheck.bind_error, nofun⟩

lemma start_of_ok {w w' : TlvWriter} (hsound : w.Sound) (h : exec (start tag kind) w = (.ok (), w')) :
    w'.Sound ∧ w'.nesting = w.nesting.enter kind := by
  obtain ⟨script, hfollows, hafter⟩ := follows_start w.nesting tag kind
  obtain ⟨hresult, hwrote⟩ := hfollows.of_ok hsound rfl h
  exact ⟨hwrote.sound, hwrote.nesting_eq.trans (hafter hresult)⟩

lemma follows_endContainer_of (h : n.containers ≠ []) :
    Follows endContainer n ⟨[0x18], .ok (), n.leave.mark⟩ := by
  have hinside : Follows (do let w ← get; require (w.depth ≠ 0) .tlvContainerMismatch) n
      ⟨[], .ok (), n⟩ := by
    refine Follows.of_still ?_
    rintro w hsound rfl
    rw [exec_get_bind]
    exact exec_require_of (mt (containers_eq_nil_iff hsound).mpr h) _ _
  have hrest := (follows_emit [0x18] n).bind (f := fun _ => modify fun w => w.leave.mark)
    (follows_leave n)
  have hall := hinside.bind (f := fun _ => do
    emit [0x18]
    modify fun w => w.leave.mark) hrest
  exact hall

/-- The end of a container that was opened inside another. -/
lemma follows_endContainer (h : n.Inside) (kind : ContainerKind) :
    Follows endContainer ⟨n.containers ++ [kind], false⟩ ⟨[0x18], .ok (), n⟩ := by
  have hclose := follows_endContainer_of (n := n.enter kind) (Nesting.Inside.enter kind).1
  rwa [h.leave_enter kind] at hclose

/-! ## Encoders that end where they start -/

/-- From inside a container and the containers `opened` in it, innermost first, an encoder goes by a
script that closes them all. -/
def ClosesAll (opened : List ContainerKind) (x : Writing α) : Prop :=
  ∀ n : Nesting, n.Inside → ∃ script, Follows x ⟨n.containers ++ opened.reverse, false⟩ script ∧
    ∀ a, script.result = .ok a → script.after = n

/-- From inside a container, an encoder goes by a script that ends there. -/
def Balanced (x : Writing α) : Prop :=
  ∀ n : Nesting, n.Inside → ∃ script, Follows x n script ∧ ∀ a, script.result = .ok a → script.after = n

lemma closes_nil {x : Writing α} : ClosesAll [] x ↔ Balanced x := by
  have hnil : ∀ n : Nesting, n.Inside → (⟨n.containers ++ [].reverse, false⟩ : Nesting) = n := by
    intro n hn
    rw [List.reverse_nil, List.append_nil, ← hn.2]
  constructor
  · intro h n hn
    have := h n hn
    rwa [hnil n hn] at this
  · intro h n hn
    rw [hnil n hn]
    exact h n hn

lemma Nesting.Inside.append (h : n.Inside) (opened : List ContainerKind) :
    Nesting.Inside ⟨n.containers ++ opened, false⟩ :=
  ⟨fun hnil => h.1 (List.append_eq_nil_iff.mp hnil).1, rfl⟩

namespace Balanced

variable {x : Writing α} {f : α → Writing β}

lemma of_follows (h : ∀ n : Nesting, n.Inside → ∃ bytes result, Follows x n ⟨bytes, result, n⟩) :
    Balanced x := by
  intro n hn
  obtain ⟨bytes, result, hx⟩ := h n hn
  exact ⟨_, hx, fun _ _ => rfl⟩

lemma pure (a : α) : Balanced (Pure.pure a) :=
  of_follows fun _ _ => ⟨_, _, Follows.of_still fun _ _ _ => rfl⟩

lemma throw (e : ErrorCode) : Balanced (MonadExcept.throw e : Writing α) :=
  of_follows fun _ _ => ⟨_, _, Follows.of_still fun _ _ _ => rfl⟩

lemma ofResult (x : Except ErrorCode α) : Balanced (Machine.ofResult x) :=
  of_follows fun _ _ => ⟨_, _, Follows.of_still fun _ _ _ => rfl⟩

lemma require (p : Prop) [Decidable p] (e : ErrorCode) : Balanced (Machine.require p e : Writing Unit) := by
  unfold Machine.require
  split_ifs
  · exact pure ()
  · exact throw e

/-- A part that ends where it starts may stand in front. -/
lemma closes_bind {opened : List ContainerKind} (hx : Balanced x) (hf : ∀ a, ClosesAll opened (f a))
    : ClosesAll opened (x >>= f) := by
  intro n hn
  obtain ⟨⟨bytes, result, after⟩, hfirst, hafter⟩ := hx _ (hn.append opened.reverse)
  cases result with
  | error e => exact ⟨_, hfirst.bind_error, nofun⟩
  | ok a =>
    obtain rfl := hafter a rfl
    obtain ⟨script, hsecond, hend⟩ := hf a n hn
    exact ⟨_, hfirst.bind hsecond, hend⟩

lemma bind (hx : Balanced x) (hf : ∀ a, Balanced (f a)) : Balanced (x >>= f) :=
  closes_nil.mp (hx.closes_bind fun a => closes_nil.mpr (hf a))

end Balanced

lemma balanced_emit (bytes : List UInt8) : Balanced (emit bytes) :=
  Balanced.of_follows fun n _ => ⟨_, _, follows_emit bytes n⟩

lemma balanced_checkTag (tag : Tag) : Balanced (checkTag tag) :=
  Balanced.of_follows fun n _ => ⟨_, _, follows_checkTag tag n⟩

lemma balanced_mark : Balanced (modify TlvWriter.mark) := by
  refine Balanced.of_follows fun n hn => ⟨[], .ok (), ?_⟩
  have h := follows_mark n
  rwa [hn.mark] at h

lemma balanced_head (tag : Tag) (ty : ElementType) : Balanced (head tag ty) :=
  (balanced_checkTag tag).bind fun _ => (balanced_emit _).bind fun _ => balanced_mark

lemma balanced_unsigned (tag : Tag) (v : UInt64) : Balanced (unsigned tag v) :=
  (balanced_head tag _).bind fun _ => balanced_emit _

lemma balanced_bool (tag : Tag) (v : Bool) : Balanced (Tlv.bool tag v) := balanced_head tag _

lemma balanced_null (tag : Tag) : Balanced (null tag) := balanced_head tag _

/-- A reader of octets that are to stand in a container, or at the top level.
Source: `TlvWriter::raw_element`, `let mut r`. -/
def readerIn (bytes : List UInt8) : Option ContainerKind → TlvReader
  | some kind => TlvReader.newIn bytes kind
  | none => TlvReader.new bytes

/-- The check of an element carried whole, which is one for where it is to stand. -/
def checkRaw (bytes : List UInt8) : Writing Element := do
  let w ← get
  ofResult (rawCheck (readerIn bytes w.currentContainer))

/-- What is done with an element carried whole once it is checked. -/
def copyRaw (bytes : List UInt8) (first : Element) : Writing Unit := do
  checkTag first.tag
  emit bytes
  modify TlvWriter.mark

lemma rawElement_eq (bytes : List UInt8) : rawElement bytes = checkRaw bytes >>= copyRaw bytes := rfl

lemma follows_checkRaw (bytes : List UInt8) (n : Nesting) :
    Follows (checkRaw bytes) n ⟨[], rawCheck (readerIn bytes n.containers.getLast?), n⟩ := by
  refine Follows.of_still ?_
  rintro w hsound rfl
  unfold checkRaw
  rw [exec_get_bind, currentContainer_eq hsound]
  rfl

lemma balanced_rawElement (bytes : List UInt8) : Balanced (rawElement bytes) := by
  have hcheck : Balanced (checkRaw bytes) :=
    Balanced.of_follows fun n _ => ⟨_, _, follows_checkRaw bytes n⟩
  rw [rawElement_eq]
  exact hcheck.bind fun first => (balanced_checkTag first.tag).bind fun _ =>
    (balanced_emit bytes).bind fun _ => balanced_mark

/-- An element that was carried whole was one for where it stands. -/
lemma rawElement_of_ok {w w' : TlvWriter} (hsound : w.Sound)
    (h : exec (rawElement bytes) w = (.ok (), w')) :
    ∃ first, rawCheck (readerIn bytes w.nesting.containers.getLast?) = .ok first ∧
      w.nesting.check first.tag = .ok () := by
  rw [rawElement_eq] at h
  obtain ⟨first, w₁, hcheck, hcopy⟩ := exec_bind_eq_ok.mp h
  obtain ⟨hraw, hwrote⟩ := (follows_checkRaw bytes w.nesting).of_ok hsound rfl hcheck
  obtain ⟨_, w₂, htag, _⟩ := exec_bind_eq_ok.mp hcopy
  obtain ⟨hallowed, _⟩ :=
    (follows_checkTag first.tag w.nesting).of_ok hwrote.sound hwrote.nesting_eq htag
  exact ⟨first, hraw, hallowed⟩

lemma balanced_rawElementRetagged (bytes : List UInt8) (tag : Tag) :
    Balanced (rawElementRetagged bytes tag) :=
  (Balanced.ofResult _).bind fun _ => (Balanced.ofResult _).bind fun _ =>
    (Balanced.require _ _).bind fun _ => (balanced_checkTag tag).bind fun _ =>
      (balanced_emit _).bind fun _ => balanced_mark

/-- A container that is opened is to be closed. -/
lemma closes_start (tag : Tag) (kind : ContainerKind) (hf : ClosesAll (kind :: opened) (f ())) :
    ClosesAll opened (start tag kind >>= f) := by
  intro n hn
  obtain ⟨⟨bytes, result, after⟩, hstart, hafter⟩ :=
    follows_start ⟨n.containers ++ opened.reverse, false⟩ tag kind
  cases result with
  | error e => exact ⟨_, hstart.bind_error, nofun⟩
  | ok u =>
    obtain rfl := hafter rfl
    obtain ⟨script, hrest, hend⟩ := hf n hn
    rw [List.reverse_cons, ← List.append_assoc] at hrest
    exact ⟨_, hstart.bind hrest, hend⟩

/-- A container that is closed may be followed by what closes the others. -/
lemma closes_endContainer_bind (hf : ClosesAll opened (f ())) :
    ClosesAll (kind :: opened) (endContainer >>= f) := by
  intro n hn
  obtain ⟨script, hrest, hend⟩ := hf n hn
  have hclose := follows_endContainer (hn.append opened.reverse) kind
  rw [List.reverse_cons, ← List.append_assoc]
  exact ⟨_, hclose.bind hrest, hend⟩

lemma closes_endContainer (kind : ContainerKind) : ClosesAll [kind] endContainer := by
  intro n hn
  exact ⟨⟨[0x18], .ok (), n⟩, follows_endContainer hn kind, fun _ _ => rfl⟩

/-- A structure, list or array as a whole. -/
lemma balanced_start (tag : Tag) (kind : ContainerKind) (hf : ClosesAll [kind] (f ())) :
    Balanced (start tag kind >>= f) :=
  closes_nil.mp (closes_start tag kind hf)

/-! ## Encoders that succeed -/

/-- From one nesting to another, an encoder goes by a script that succeeds and writes at most so many
octets. -/
def Emits (x : Writing Unit) (n n' : Nesting) (size : ℕ) : Prop :=
  ∃ bytes, bytes.length ≤ size ∧ Follows x n ⟨bytes, .ok (), n'⟩

namespace Emits

lemma pure (n : Nesting) : Emits (Pure.pure ()) n n 0 :=
  ⟨[], Nat.le_refl _, Follows.of_still fun _ _ _ => rfl⟩

lemma seq {x y : Writing Unit} {n n' n'' : Nesting} {a b : ℕ} (hx : Emits x n n' a)
    (hy : Emits y n' n'' b) : Emits (do x; y) n n'' (a + b) := by
  obtain ⟨bytes, hsize, hfirst⟩ := hx
  obtain ⟨bytes', hsize', hsecond⟩ := hy
  refine ⟨bytes ++ bytes', ?_, hfirst.bind (f := fun _ => y) hsecond⟩
  rw [List.length_append]
  omega

lemma mono {x : Writing Unit} {n n' : Nesting} {a b : ℕ} (h : Emits x n n' a) (hab : a ≤ b) :
    Emits x n n' b := by
  obtain ⟨bytes, hsize, hfollows⟩ := h
  exact ⟨bytes, hsize.trans hab, hfollows⟩

/-- Where there is room for the bound, the encoder succeeds. -/
lemma exec_eq_ok {x : Writing Unit} {n n' : Nesting} {size : ℕ} (h : Emits x n n' size)
    {w : TlvWriter} (hsound : w.Sound) (hn : w.nesting = n) (hroom : w.pos + size ≤ w.buf.octets.length) :
    ∃ w', exec x w = (.ok (), w') ∧ w'.Sound ∧ w'.nesting = n' ∧ w'.pos ≤ w.pos + size ∧
      w.SameRoom w' := by
  obtain ⟨bytes, hsize, hfollows⟩ := h
  have hfits : w.Fits bytes := by
    unfold Fits
    omega
  obtain ⟨w', hrun, hwrote⟩ := (hfollows w hsound hn).1 hfits
  refine ⟨w', hrun, hwrote.sound, hwrote.nesting_eq, ?_, hwrote.sameRoom⟩
  have hpos : w'.pos = w.pos + bytes.length := hwrote.pos_eq
  omega

end Emits

lemma emits_head (hn : n.Inside) (h : n.check (.context t) = .ok ()) (ty : ElementType) :
    Emits (head (.context t) ty) n n 2 := by
  have hhead := follows_head h ty
  rw [hn.mark] at hhead
  exact ⟨_, Nat.le_refl _, hhead⟩

lemma emits_unsigned (hn : n.Inside) (h : n.check (.context t) = .ok ()) (v : UInt64) :
    Emits (unsigned (.context t) v) n n 10 := by
  have hemit : Emits (emit (writeLe v (Width.forUnsigned v).octets)) n n 8 := by
    refine ⟨_, ?_, follows_emit _ n⟩
    rw [length_writeLe]
    exact Width.octets_le _
  exact (emits_head hn h (.unsignedInt (Width.forUnsigned v))).seq hemit

lemma emits_bool (hn : n.Inside) (h : n.check (.context t) = .ok ()) (v : Bool) :
    Emits (Tlv.bool (.context t) v) n n 2 := emits_head hn h _

lemma emits_start (hdepth : n.containers.length < maxDepth) (htag : n.check tag = .ok ())
    (kind : ContainerKind) : Emits (start tag kind) n (n.enter kind) 9 := by
  refine ⟨_, ?_, follows_start_ok hdepth htag kind⟩
  have hlen : tag.encodedLen ≤ 8 := by
    unfold Tag.encodedLen
    cases tag.control <;> decide
  rw [List.length_cons, Tag.length_encode]
  omega

lemma emits_endContainer (h : n.containers ≠ []) :
    Emits endContainer n n.leave.mark 1 := ⟨[0x18], Nat.le_refl _, follows_endContainer_of h⟩

/-- An element that is one for where it is to stand is copied there. -/
lemma follows_rawElement (hn : n.Inside)
    (hcheck : rawCheck (readerIn bytes n.containers.getLast?) = .ok first)
    (htag : n.check first.tag = .ok ()) : Follows (rawElement bytes) n ⟨bytes, .ok (), n⟩ := by
  have hraw := follows_checkRaw bytes n
  rw [hcheck] at hraw
  have hchecked := follows_checkTag first.tag n
  rw [htag] at hchecked
  have hmark := follows_mark n
  rw [hn.mark] at hmark
  have hwrite : Follows (do emit bytes; modify TlvWriter.mark) n ⟨bytes, .ok (), n⟩ := by
    have h := (follows_emit bytes n).bind (f := fun _ => modify TlvWriter.mark) hmark
    rwa [List.append_nil] at h
  have hrest : Follows (copyRaw bytes first) n ⟨bytes, .ok (), n⟩ :=
    hchecked.bind (f := fun _ => do emit bytes; modify TlvWriter.mark) hwrite
  exact hraw.bind (f := copyRaw bytes) hrest

lemma emits_rawElement (hn : n.Inside)
    (hcheck : rawCheck (readerIn bytes n.containers.getLast?) = .ok first)
    (htag : n.check first.tag = .ok ()) : Emits (rawElement bytes) n n bytes.length :=
  ⟨bytes, Nat.le_refl _, follows_rawElement hn hcheck htag⟩

/-! ## Writers that differ in their buffers only -/

/-- Two writers stand at the same place with the same room. -/
structure TlvWriter.Alike (w w' : TlvWriter) : Prop where
  sound : w.Sound
  sound' : w'.Sound
  nesting_eq : w'.nesting = w.nesting
  pos_eq : w'.pos = w.pos
  sameRoom : w.SameRoom w'

namespace TlvWriter.Alike

end TlvWriter.Alike

namespace Balanced

/-- A writer that has gone through an encoder is sound, and inside the same containers. -/
lemma of_ok {x : Writing α} (hx : Balanced x) {w w' : TlvWriter} {a : α} (hsound : w.Sound)
    (hinside : w.nesting.Inside) (h : exec x w = (.ok a, w')) :
    w'.Sound ∧ w'.nesting = w.nesting ∧ w.pos ≤ w'.pos ∧ w.SameRoom w' := by
  obtain ⟨script, hfollows, hafter⟩ := hx _ hinside
  obtain ⟨hresult, hwrote⟩ := hfollows.of_ok hsound rfl h
  refine ⟨hwrote.sound, hwrote.nesting_eq.trans (hafter a hresult), ?_, hwrote.sameRoom⟩
  rw [hwrote.pos_eq]
  exact Nat.le_add_right _ _

/-- A writer that ran out of buffer and is taken back is as it was. -/
lemma alike_rollback {x : Writing α} (hx : Balanced x) {w w' : TlvWriter} (hsound : w.Sound)
    (hinside : w.nesting.Inside) (h : exec x w = (.error .bufferTooSmall, w')) :
    w.Alike (w'.rollback w.checkpoint) := by
  obtain ⟨script, hfollows, _⟩ := hx _ hinside
  have hroom : w.SameRoom w' := by
    by_cases hfits : w.Fits script.bytes
    · obtain ⟨w₁, hrun, hwrote⟩ := (hfollows w hsound rfl).1 hfits
      rw [hrun] at h
      obtain ⟨_, rfl⟩ := Prod.mk.inj h
      exact hwrote.sameRoom
    · obtain ⟨w₁, hrun, hkept⟩ := (hfollows w hsound rfl).2 hfits
      rw [hrun] at h
      obtain ⟨_, rfl⟩ := Prod.mk.inj h
      exact hkept
  refine ⟨hsound, ⟨?_, hsound.depth_le⟩, rfl, rfl, ⟨hroom.length_eq, hroom.startedInside_eq⟩⟩
  show w.pos ≤ w'.buf.octets.length
  rw [hroom.length_eq]
  exact hsound.pos_le

end Balanced

end MatterKit.Tlv
