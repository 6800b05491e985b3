import MatterKit.Lib.KeyedVec
import MatterKit.Lib.Result
import MatterKit.Platform

/-!
# Names in a DNS message

`discovery/dns.rs`: a name is a run of labels that ends with an empty label or with a pointer to where
the name goes on. The reader compares a pointer with its own position, and with nothing else. But the
labels read after a jump move the cursor on, so a pointer may point at them again.

In the octets of a message a name lies in rows of labels, each led to by the pointer behind the one
before (`Row.Leads`). The targets decrease, and no label is read twice, exactly when the rows go down
(`GoesDown`, `name_descends_iff`): a row that a pointer leads to ends with a pointer in front of its own
beginning, if with one, and its labels end in front of every row before it.
-/

namespace MatterKit.Discovery

open Lib

/-! ## Names -/

/-- Source: `LABEL_MAX`. -/
def labelMax : ℕ := 63

/-- Source: `LABELS_MAX`. -/
def labelsMax : ℕ := 8

/-- Source: `POINTER_LIMIT`. -/
def pointerLimit : ℕ := 16

/-- Source: `Name`. -/
structure Name where
  labels : BoundedVec (List UInt8) labelsMax

/-- Source: `Name::push`. -/
def Name.push (name : Name) (label : List UInt8) : Except ErrorCode Name := do
  ensure (label ≠ [] ∧ label.length ≤ labelMax) .invalidArgument
  let labels ← okOr (name.labels.push label) .noSpace
  pure ⟨labels⟩

/-- The variables of the loop of `Name::decode`. -/
structure Walk where
  name : Name
  cursor : ℕ
  stop : Option ℕ
  jumps : ℕ

/-- What a turn of the loop comes to: it goes on, or it has found the name and the offset behind it. -/
inductive Turn
  | on (w : Walk)
  | done (name : Name) (after : ℕ)

/-- One turn of the loop of `Name::decode`. -/
def Walk.turn (buf : List UInt8) (w : Walk) : Except ErrorCode Turn := do
  let length ← okOr buf[w.cursor]? .dnsTruncated
  if length &&& 0xC0 = 0 then
    if length = 0 then pure (.done w.name (w.stop.getD (w.cursor + 1)))
    else
      let stop := w.cursor + 1 + length.toNat
      ensure (stop ≤ buf.length) .dnsTruncated
      let name ← w.name.push ((buf.drop (w.cursor + 1)).take length.toNat)
      pure (.on { w with name := name, cursor := stop })
  else if length &&& 0xC0 = 0xC0 then
    let low ← okOr buf[w.cursor + 1]? .dnsTruncated
    let target := (length &&& 0x3F).toNat * 256 + low.toNat
    ensure (target < w.cursor) .dnsMalformed
    ensure (w.jumps < pointerLimit) .dnsMalformed
    pure (.on { w with
      cursor := target
      stop := w.stop.or (some (w.cursor + 2))
      jumps := w.jumps + 1 })
  else .error .dnsMalformed

/-- The loop of `Name::decode`. -/
def decodeFrom (buf : List UInt8) : ℕ → Walk → Except ErrorCode (Name × ℕ)
  | 0, _ => .error .dnsMalformed
  | rounds + 1, w => do
    match ← w.turn buf with
    | .on w' => decodeFrom buf rounds w'
    | .done name after => pure (name, after)

/-- More turns than labels and pointers allow (`decodeFrom_succ`). -/
def maxTurns : ℕ := labelsMax + pointerLimit + 1

/-- The variables before the loop. -/
def Walk.begin (start : ℕ) : Walk := ⟨⟨.empty⟩, start, none, 0⟩

/-- Source: `Name::decode`. -/
def Name.decode (buf : List UInt8) (start : ℕ) : Except ErrorCode (Name × ℕ) :=
  decodeFrom buf maxTurns (.begin start)

/-- A label, with the octet of its length, lies between two offsets. -/
def LabelAt (buf : List UInt8) (start stop : ℕ) : Prop :=
  ∃ length : UInt8, buf[start]? = some length ∧ length ≠ 0 ∧ length &&& 0xC0 = 0 ∧
    stop = start + 1 + length.toNat ∧ stop ≤ buf.length

/-- A pointer at an offset points to one in front of it. -/
def PointerAt (buf : List UInt8) (start target : ℕ) : Prop :=
  ∃ high low : UInt8, buf[start]? = some high ∧ high &&& 0xC0 = 0xC0 ∧ buf[start + 1]? = some low ∧
    target = (high &&& 0x3F).toNat * 256 + low.toNat ∧ target < start

lemma LabelAt.lt {buf : List UInt8} {start stop : ℕ} (h : LabelAt buf start stop) : start < stop := by
  obtain ⟨length, -, -, -, rfl, -⟩ := h
  omega

lemma PointerAt.lt {buf : List UInt8} {start target : ℕ} (h : PointerAt buf start target) : target < start := by
  obtain ⟨-, -, -, -, -, -, hlt⟩ := h
  exact hlt

/-- No octet begins a label and a pointer. -/
lemma LabelAt.not_pointerAt {buf : List UInt8} {start stop target : ℕ} (h : LabelAt buf start stop) :
    ¬PointerAt buf start target := by
  obtain ⟨length, hget, -, hplain, -⟩ := h
  rintro ⟨high, low, hget', hpointer, -⟩
  obtain rfl := Option.some.inj (hget.symm.trans hget')
  rw [hplain] at hpointer
  exact absurd hpointer (by decide)

/-- What a turn that does not fail can do. -/
inductive Turned (buf : List UInt8) (w : Walk) : Turn → Prop
  | done (h : buf[w.cursor]? = some 0) : Turned buf w (.done w.name (w.stop.getD (w.cursor + 1)))
  | label {stop : ℕ} {name : Name} (h : LabelAt buf w.cursor stop)
      (hname : name.labels.toList.length = w.name.labels.toList.length + 1) :
      Turned buf w (.on { w with name := name, cursor := stop })
  | pointer {target : ℕ} (h : PointerAt buf w.cursor target) (hjumps : w.jumps < pointerLimit) :
      Turned buf w (.on { w with
        cursor := target
        stop := w.stop.or (some (w.cursor + 2))
        jumps := w.jumps + 1 })

variable {buf : List UInt8} {w : Walk} {rounds : ℕ}

lemma Walk.turned {turn : Turn} (h : w.turn buf = .ok turn) : Turned buf w turn := by
  obtain ⟨length, hlength, h⟩ := bind_eq_ok.mp h
  have hget := okOr_eq_ok.mp hlength
  split_ifs at h with hplain hroot hpointer
  · cases h
    exact .done (hroot ▸ hget)
  · obtain ⟨_, hstop, h⟩ := bind_eq_ok.mp h
    obtain ⟨name, hpush, h⟩ := bind_eq_ok.mp h
    cases h
    obtain ⟨_, -, hpush⟩ := bind_eq_ok.mp hpush
    obtain ⟨labels, hlabels, hname⟩ := bind_eq_ok.mp hpush
    cases hname
    obtain ⟨-, hlist⟩ := BoundedVec.push_eq_some_iff.mp (okOr_eq_ok.mp hlabels)
    exact .label ⟨length, hget, hroot, hplain, rfl, ensure_eq_ok.mp hstop⟩ (by simp [hlist])
  · obtain ⟨low, hlow, h⟩ := bind_eq_ok.mp h
    obtain ⟨_, htarget, h⟩ := bind_eq_ok.mp h
    obtain ⟨_, hjumps, h⟩ := bind_eq_ok.mp h
    cases h
    exact .pointer ⟨length, low, hget, hpointer, okOr_eq_ok.mp hlow, rfl, ensure_eq_ok.mp htarget⟩
      (ensure_eq_ok.mp hjumps)

/-- A label is read, if the name has room for it. -/
lemma Walk.turn_of_label {stop : ℕ} (h : LabelAt buf w.cursor stop)
    (hroom : w.name.labels.toList.length < labelsMax) :
    ∃ name : Name, w.turn buf = .ok (.on { w with name := name, cursor := stop }) ∧
      name.labels.toList.length = w.name.labels.toList.length + 1 := by
  obtain ⟨length, hget, hsome, hplain, rfl, hstop⟩ := h
  have hshort : length.toNat ≤ labelMax := by
    have hlow : ∀ n : Fin 256, n.val &&& 0xC0 = 0 → n.val ≤ 63 := by decide +kernel
    have htoNat := congrArg UInt8.toNat hplain
    rw [UInt8.toNat_and] at htoNat
    exact hlow ⟨_, length.toNat_lt⟩ htoNat
  have hpos : 0 < length.toNat := Nat.pos_of_ne_zero fun hzero => hsome (UInt8.toNat_inj.mp hzero)
  have hlength : ((buf.drop (w.cursor + 1)).take length.toNat).length = length.toNat := by
    rw [List.length_take, List.length_drop]
    omega
  have hlabel : (buf.drop (w.cursor + 1)).take length.toNat ≠ [] ∧
      ((buf.drop (w.cursor + 1)).take length.toNat).length ≤ labelMax :=
    ⟨List.ne_nil_of_length_pos (by omega), by omega⟩
  obtain ⟨labels, hpush⟩ : ∃ labels,
      w.name.labels.push ((buf.drop (w.cursor + 1)).take length.toNat) = some labels := by
    refine Option.ne_none_iff_exists'.mp fun hnone => ?_
    exact hroom.ne (BoundedVec.push_eq_none_iff.mp hnone)
  obtain ⟨-, hlist⟩ := BoundedVec.push_eq_some_iff.mp hpush
  refine ⟨⟨labels⟩, ?_, by simp [hlist]⟩
  simp only [Walk.turn, Name.push, hget, hplain, if_neg hsome, if_pos hstop, if_pos hlabel, hpush, ensure, okOr,
    bind, Except.bind, pure, Except.pure, if_true]

/-- A pointer is followed, if the name has room for it. -/
lemma Walk.turn_of_pointer {target : ℕ} (h : PointerAt buf w.cursor target) (hroom : w.jumps < pointerLimit) :
    w.turn buf = .ok (.on { w with
      cursor := target
      stop := w.stop.or (some (w.cursor + 2))
      jumps := w.jumps + 1 }) := by
  obtain ⟨high, low, hget, hpointer, hlow, rfl, htarget⟩ := h
  have hroot : ¬(0xC0 : UInt8) = 0 := by decide
  simp only [Walk.turn, hget, hpointer, hroot, hlow, htarget, hroom, ensure, okOr, bind, Except.bind, pure,
    Except.pure, if_true, if_false]

/-- The loop does not run out of turns. -/
lemma decodeFrom_succ (hjumps : w.jumps ≤ pointerLimit)
    (h : labelsMax + pointerLimit < w.name.labels.toList.length + w.jumps + rounds) :
    decodeFrom buf (rounds + 1) w = decodeFrom buf rounds w := by
  induction rounds generalizing w with
  | zero =>
    have hlabels := w.name.labels.length_le
    omega
  | succ rounds ih =>
    rw [decodeFrom, decodeFrom]
    cases hturn : w.turn buf with
    | error e => rfl
    | ok turn =>
      cases Walk.turned hturn with
      | done => rfl
      | label hlabel hname => exact ih hjumps (by simp only [hname]; omega)
      | pointer hpointer hlimit => exact ih hlimit (by simp only; omega)

/-! ## What is read of a name -/

/-- A label with the octet of its length, or what a pointer points to. -/
inductive Visit
  | label (start stop : ℕ)
  | pointer (target : ℕ)

/-- What a turn has read. -/
def Walk.visit (w w' : Walk) : Visit :=
  if w'.jumps = w.jumps then .label w.cursor w'.cursor else .pointer w'.cursor

/-- The labels that the loop reads and the pointers it follows, also where it fails in the end. -/
def visitsFrom (buf : List UInt8) : ℕ → Walk → List Visit
  | 0, _ => []
  | rounds + 1, w =>
    match w.turn buf with
    | .ok (.on w') => w.visit w' :: visitsFrom buf rounds w'
    | _ => []

/-- What `Name::decode` reads and follows. -/
def visits (buf : List UInt8) (start : ℕ) : List Visit := visitsFrom buf maxTurns (.begin start)

/-- The targets of the pointers. -/
def targets (vs : List Visit) : List ℕ :=
  vs.filterMap fun
    | .label _ _ => none
    | .pointer target => some target

/-- Where the labels are. -/
def labelsRead (vs : List Visit) : List (ℕ × ℕ) :=
  vs.filterMap fun
    | .label start stop => some (start, stop)
    | .pointer _ => none

/-- Two labels have no octet in common. -/
def Apart (a b : ℕ × ℕ) : Prop := a.2 ≤ b.1 ∨ b.2 ≤ a.1

instance (a b : ℕ × ℕ) : Decidable (Apart a b) := inferInstanceAs (Decidable (_ ∨ _))

/-- The targets decrease, and no octet is read in two labels. -/
def IsAcyclic (vs : List Visit) : Prop :=
  (targets vs).Pairwise (· > ·) ∧ (labelsRead vs).Pairwise Apart

/-- A pointer points in front of the labels before it if another pointer has led to them (`run`), and labels that
a pointer has led to end in front of those read before (`floor`); the labels of this run begin at `here`. -/
def Descends (run floor here : Option ℕ) : List Visit → Prop
  | [] => True
  | .label start stop :: vs => (∀ f ∈ floor, stop ≤ f) ∧ Descends run floor (here.or (some start)) vs
  | .pointer target :: vs => (∀ r ∈ run, target < r) ∧ Descends (some target) (here.or floor) none vs

/-- Labels follow one another, and a pointer points behind itself. -/
def Chained : ℕ → List Visit → Prop
  | _, [] => True
  | cursor, .label start stop :: vs => start = cursor ∧ cursor < stop ∧ Chained stop vs
  | cursor, .pointer target :: vs => target < cursor ∧ Chained target vs

lemma chained_visitsFrom (buf : List UInt8) (rounds : ℕ) (w : Walk) :
    Chained w.cursor (visitsFrom buf rounds w) := by
  induction rounds generalizing w with
  | zero => exact trivial
  | succ rounds ih =>
    unfold visitsFrom
    split
    · rename_i w' hturn
      cases Walk.turned hturn with
      | label hlabel hname =>
        rw [Walk.visit, if_pos rfl]
        exact ⟨rfl, hlabel.lt, ih _⟩
      | pointer hpointer hlimit =>
        rw [Walk.visit, if_neg (Nat.succ_ne_self _)]
        exact ⟨hpointer.lt, ih _⟩
    · exact trivial

/-- How the labels read so far lie: those of this run from its start to the cursor, the others from the floor on,
and what is between the floor and the start of the run is one of them. -/
structure Track (read : List (ℕ × ℕ)) (cursor start : ℕ) (floor here : Option ℕ) : Prop where
  fresh : here = none → cursor = start
  begun : ∀ h ∈ here, h = start ∧ start < cursor
  covered : ∀ o, start ≤ o → o < cursor → ∃ l ∈ read, l.1 ≤ o ∧ o < l.2
  split : ∀ l ∈ read, (∃ f ∈ floor, f ≤ l.1) ∨ here.isSome ∧ start ≤ l.1 ∧ l.2 ≤ cursor
  lowest : ∀ f ∈ floor, ∃ l ∈ read, l.1 = f ∧ f < l.2
  below : ∀ f ∈ floor, ∀ o ≤ start, f ≤ o → ∃ l ∈ read, l.1 ≤ o ∧ o < l.2
  under : ∀ f ∈ floor, here.isSome → cursor ≤ f

namespace Track

variable {read : List (ℕ × ℕ)} {cursor start : ℕ} {floor here : Option ℕ}

lemma begin (start : ℕ) : Track [] start start none none where
  fresh _ := rfl
  begun := by simp
  covered o hle hlt := absurd hle (Nat.not_le_of_lt hlt)
  split := by simp
  lowest := by simp
  below := by simp
  under := by simp

/-- A label is apart from those read so far exactly if it ends in front of the floor. -/
lemma apart_iff (ht : Track read cursor start floor here) {stop : ℕ} (hstop : cursor < stop) :
    (∀ l ∈ read, Apart l (cursor, stop)) ↔ ∀ f ∈ floor, stop ≤ f := by
  constructor
  · intro h f hf
    obtain ⟨l, hl, hlow, hwide⟩ := ht.lowest f hf
    rcases h l hl with hbefore | hbehind
    · -- the cursor is behind the floor, so it is on a label already
      have hcursor : f ≤ cursor := hwide.le.trans hbefore
      cases hhere : here with
      | none =>
        obtain ⟨l', hl', hle, hlt⟩ := ht.below f hf cursor (ht.fresh hhere).le hcursor
        rcases h l' hl' with h' | h' <;> simp only at h' <;> omega
      | some h' =>
        have := ht.under f hf (by rw [hhere]; rfl)
        omega
    · exact hlow ▸ hbehind
  · intro h l hl
    rcases ht.split l hl with ⟨f, hf, hle⟩ | ⟨-, -, hle⟩
    · exact .inr ((h f hf).trans hle)
    · exact .inl hle

lemma label (ht : Track read cursor start floor here) {stop : ℕ} (hstop : cursor < stop)
    (h : ∀ f ∈ floor, stop ≤ f) :
    Track ((cursor, stop) :: read) stop start floor (here.or (some cursor)) := by
  have hstart : start ≤ cursor := by
    cases hhere : here with
    | none => exact (ht.fresh hhere).ge
    | some h' => exact (ht.begun h' hhere).2.le
  refine ⟨by simp, fun h' hh' => ?_, fun o hle hlt => ?_, fun l hl => ?_, fun f hf => ?_,
    fun f hf o hle hfo => ?_, fun f hf _ => h f hf⟩
  · cases hhere : here with
    | none =>
      rw [hhere, Option.none_or, Option.mem_some_iff] at hh'
      have := ht.fresh hhere
      omega
    | some h'' =>
      rw [hhere, Option.some_or, Option.mem_some_iff] at hh'
      obtain ⟨heq, -⟩ := ht.begun h'' hhere
      exact ⟨hh' ▸ heq, hstart.trans_lt hstop⟩
  · rcases Nat.lt_or_ge o cursor with hlt' | hge
    · obtain ⟨l, hl, hcover⟩ := ht.covered o hle hlt'
      exact ⟨l, List.mem_cons_of_mem _ hl, hcover⟩
    · exact ⟨_, List.mem_cons_self, hge, hlt⟩
  · rcases List.mem_cons.mp hl with rfl | hl
    · exact .inr ⟨by simp, hstart, le_rfl⟩
    · exact (ht.split l hl).imp_right fun hrun => ⟨by simp, hrun.2.1, hrun.2.2.trans hstop.le⟩
  · obtain ⟨l, hl, hlow⟩ := ht.lowest f hf
    exact ⟨l, List.mem_cons_of_mem _ hl, hlow⟩
  · obtain ⟨l, hl, hcover⟩ := ht.below f hf o hle hfo
    exact ⟨l, List.mem_cons_of_mem _ hl, hcover⟩

lemma pointer (ht : Track read cursor start floor here) {target : ℕ} (htarget : target < cursor) :
    Track read target target (here.or floor) none := by
  cases hhere : here with
  | none =>
    have hcursor := ht.fresh hhere
    refine ⟨fun _ => rfl, by simp, fun o hle hlt => absurd hle (Nat.not_le_of_lt hlt), fun l hl => ?_,
      ht.lowest, fun f hf o hle => ht.below f hf o (by omega), by simp⟩
    rcases ht.split l hl with hold | ⟨hsome, -⟩
    · exact .inl hold
    · rw [hhere] at hsome
      cases hsome
  | some h =>
    obtain ⟨rfl, hlt⟩ := ht.begun h hhere
    have hunder : ∀ f ∈ floor, cursor ≤ f := fun f hf => ht.under f hf (by rw [hhere]; rfl)
    refine ⟨fun _ => rfl, by simp, fun o hle hlt => absurd hle (Nat.not_le_of_lt hlt), fun l hl => ?_,
      fun f hf => ?_, fun f hf o hle hfo => ?_, by simp⟩
    · refine .inl ⟨h, rfl, ?_⟩
      rcases ht.split l hl with ⟨f, hf, hle⟩ | ⟨-, hle, -⟩
      · exact (hlt.le.trans (hunder f hf)).trans hle
      · exact hle
    · obtain rfl := Option.mem_some_iff.mp hf
      obtain ⟨l, hl, hle, hwide⟩ := ht.covered h le_rfl hlt
      refine ⟨l, hl, hle.antisymm ?_, hwide⟩
      rcases ht.split l hl with ⟨f, hf, hle'⟩ | ⟨-, hge, -⟩
      · exact (hlt.le.trans (hunder f hf)).trans hle'
      · exact hge
    · obtain rfl := Option.mem_some_iff.mp hf
      exact ht.covered o hfo (by omega)

/-- What is still to be read is acyclic, and apart from what has been read, exactly if it descends. -/
lemma descends_iff {vs : List Visit} {run : Option ℕ} (ht : Track read cursor start floor here)
    (hchain : Chained cursor vs) :
    ((∀ r ∈ run, ∀ t ∈ targets vs, t < r) ∧ (∀ l ∈ read, ∀ l' ∈ labelsRead vs, Apart l l') ∧ IsAcyclic vs) ↔
      Descends run floor here vs := by
  induction vs generalizing read cursor start floor here run with
  | nil => simp [targets, labelsRead, IsAcyclic, Descends]
  | cons visit vs ih =>
    cases visit with
    | label start' stop =>
      obtain ⟨rfl, hstop, hchain⟩ := hchain
      have htargets : targets (.label start' stop :: vs) = targets vs := rfl
      have hlabels : labelsRead (.label start' stop :: vs) = (start', stop) :: labelsRead vs := rfl
      simp only [Descends, IsAcyclic, htargets, hlabels, List.pairwise_cons, List.forall_mem_cons]
      rw [← ht.apart_iff hstop]
      constructor
      · rintro ⟨hrun, hapart, hdecreasing, hthis, hrest⟩
        have hthese : ∀ l ∈ read, Apart l (start', stop) := fun l hl => (hapart l hl).1
        refine ⟨hthese, (ih (ht.label hstop ((ht.apart_iff hstop).mp hthese)) hchain).mp ?_⟩
        exact ⟨hrun, List.forall_mem_cons.mpr ⟨hthis, fun l hl => (hapart l hl).2⟩, hdecreasing, hrest⟩
      · rintro ⟨hthese, hrest⟩
        obtain ⟨hrun, hapart, hdecreasing, hrest⟩ :=
          (ih (ht.label hstop ((ht.apart_iff hstop).mp hthese)) hchain).mpr hrest
        obtain ⟨hthis, hapart⟩ := List.forall_mem_cons.mp hapart
        exact ⟨hrun, fun l hl => ⟨hthese l hl, hapart l hl⟩, hdecreasing, hthis, hrest⟩
    | pointer target =>
      obtain ⟨htarget, hchain⟩ := hchain
      have htargets : targets (.pointer target :: vs) = target :: targets vs := rfl
      have hlabels : labelsRead (.pointer target :: vs) = labelsRead vs := rfl
      simp only [Descends, IsAcyclic, htargets, hlabels, List.pairwise_cons, List.forall_mem_cons]
      rw [← ih (ht.pointer htarget) hchain]
      constructor
      · rintro ⟨hrun, hapart, ⟨hthis, hdecreasing⟩, hrest⟩
        refine ⟨fun r hr => (hrun r hr).1, fun r hr => ?_, hapart, hdecreasing, hrest⟩
        exact Option.mem_some_iff.mp hr ▸ hthis
      · rintro ⟨hrun, hthis, hapart, hdecreasing, hrest⟩
        have hthis' := hthis target rfl
        refine ⟨fun r hr => ⟨hrun r hr, fun t ht' => (hthis' t ht').trans (hrun r hr)⟩, hapart,
          ⟨hthis', hdecreasing⟩, hrest⟩

end Track

/-! ## Rows of labels -/

/-- Where a row of labels begins, and how many labels and pointers the name has in front of it. -/
structure Row where
  offset : ℕ
  labels : ℕ
  pointers : ℕ

/-- A row has a number of labels up to an offset, no more than a name may have. -/
inductive Row.Ends (buf : List UInt8) (r : Row) : ℕ → ℕ → Prop
  | nil : Row.Ends buf r 0 r.offset
  | label {n stop stop' : ℕ} (h : Row.Ends buf r n stop) (hlabel : LabelAt buf stop stop')
      (hroom : r.labels + n < labelsMax) : Row.Ends buf r (n + 1) stop'

/-- The pointer behind the labels of a row leads to the next one. -/
inductive Row.Leads (buf : List UInt8) : Row → Row → Prop
  | pointer {r : Row} {n stop target : ℕ} (h : r.Ends buf n stop) (hpointer : PointerAt buf stop target)
      (hroom : r.pointers < pointerLimit) : Row.Leads buf r ⟨target, r.labels + n, r.pointers + 1⟩

/-- A row has a label. -/
def Row.HasLabel (buf : List UInt8) (r : Row) : Prop := ∃ stop, r.Ends buf 1 stop

/-- The rows of the name at an offset. -/
def Row.Of (buf : List UInt8) (start : ℕ) (r : Row) : Prop :=
  Relation.ReflTransGen (Row.Leads buf) ⟨start, 0, 0⟩ r

/-- The rows of a name go down the message: a row that a pointer leads to does not lead behind its own
beginning, and its labels end in front of every row before it that has any. -/
structure GoesDown (buf : List UInt8) (start : ℕ) : Prop where
  pointers : ∀ r r' r'' : Row, r.Of buf start → r.Leads buf r' → r'.Leads buf r'' → r''.offset < r'.offset
  labels : ∀ (r r' : Row) (n stop : ℕ), r.Of buf start → r.HasLabel buf → Relation.TransGen (Row.Leads buf) r r' →
    r'.Ends buf (n + 1) stop → stop ≤ r.offset

namespace Row

variable {r r' : Row} {n stop : ℕ}

lemma Ends.le (h : r.Ends buf n stop) : r.offset ≤ stop := by
  induction h with
  | nil => exact le_rfl
  | label h hlabel hroom ih => exact ih.trans hlabel.lt.le

lemma Ends.hasLabel (h : r.Ends buf (n + 1) stop) : r.HasLabel buf := by
  induction n generalizing stop with
  | zero => exact ⟨stop, h⟩
  | succ n ih =>
    cases h with
    | label h => exact ih h

/-- The beginning of a row behind which a pointer leads on, if it has labels. -/
def here (r : Row) (n : ℕ) : Option ℕ := if n = 0 then none else some r.offset

lemma Ends.here_or (h : r.Ends buf n stop) : (r.here n).or (some stop) = r.here (n + 1) := by
  cases h with
  | nil => rfl
  | label => rfl

end Row

/-- What is read behind an offset descends, with so many labels and pointers in front of it. -/
def Reading (buf : List UInt8) (cursor labels pointers : ℕ) (run floor here : Option ℕ) : Prop :=
  ∃ rounds w, w.cursor = cursor ∧ w.name.labels.toList.length = labels ∧ w.jumps = pointers ∧
    pointers ≤ pointerLimit ∧ labels + pointers + rounds = maxTurns ∧
    Descends run floor here (visitsFrom buf rounds w)

namespace Reading

variable {cursor labels pointers target : ℕ} {run floor here : Option ℕ} {r r' : Row} {n stop : ℕ}

lemma label (h : Reading buf cursor labels pointers run floor here) (hlabel : LabelAt buf cursor stop)
    (hroom : labels < labelsMax) : (∀ f ∈ floor, stop ≤ f) ∧
      Reading buf stop (labels + 1) pointers run floor (here.or (some cursor)) := by
  obtain ⟨rounds, w, rfl, rfl, rfl, hpointers, hrounds, hdescends⟩ := h
  obtain ⟨name, hturn, hname⟩ := Walk.turn_of_label hlabel hroom
  rw [maxTurns] at hrounds
  obtain ⟨rounds, rfl⟩ : ∃ k, rounds = k + 1 := ⟨rounds - 1, by omega⟩
  rw [visitsFrom, hturn] at hdescends
  simp only [Walk.visit, if_true, Descends] at hdescends
  refine ⟨hdescends.1, rounds, { w with name := name, cursor := stop }, rfl, hname, rfl, hpointers, ?_,
    hdescends.2⟩
  rw [maxTurns]
  omega

lemma pointer (h : Reading buf cursor labels pointers run floor here) (hlabels : labels ≤ labelsMax)
    (hpointer : PointerAt buf cursor target) (hroom : pointers < pointerLimit) : (∀ r ∈ run, target < r) ∧
      Reading buf target labels (pointers + 1) (some target) (here.or floor) none := by
  obtain ⟨rounds, w, rfl, rfl, rfl, hpointers, hrounds, hdescends⟩ := h
  have hturn := Walk.turn_of_pointer hpointer hroom
  rw [maxTurns] at hrounds
  obtain ⟨rounds, rfl⟩ : ∃ k, rounds = k + 1 := ⟨rounds - 1, by omega⟩
  rw [visitsFrom, hturn] at hdescends
  simp only [Walk.visit, Nat.succ_ne_self, if_false, Descends] at hdescends
  refine ⟨hdescends.1, rounds, { w with
    cursor := target
    stop := w.stop.or (some (w.cursor + 2))
    jumps := w.jumps + 1 }, rfl, rfl, rfl, hroom, ?_, hdescends.2⟩
  rw [maxTurns]
  omega

/-- The labels of a row are read one after the other. -/
lemma ends (h : Reading buf r.offset r.labels r.pointers run floor none) (hends : r.Ends buf n stop) :
    (n ≠ 0 → ∀ f ∈ floor, stop ≤ f) ∧
      Reading buf stop (r.labels + n) r.pointers run floor (r.here n) := by
  induction hends with
  | nil => exact ⟨fun hne => absurd rfl hne, h⟩
  | @label n stop stop' hends hlabel hroom ih =>
    obtain ⟨hbelow, hreading⟩ := ih.2.label hlabel hroom
    exact ⟨fun _ => hbelow, hends.here_or ▸ hreading⟩

/-- A row leads to one that is read in front of what was read before. -/
lemma leads (h : Reading buf r.offset r.labels r.pointers run floor none) (hleads : r.Leads buf r') :
    (∀ f ∈ run, r'.offset < f) ∧ ∃ floor',
      Reading buf r'.offset r'.labels r'.pointers (some r'.offset) floor' none ∧
      (r.HasLabel buf → ∃ f ∈ floor', f ≤ r.offset) ∧
      ∀ o, (∃ f ∈ floor, f ≤ o) → ∃ f ∈ floor', f ≤ o := by
  cases hleads with
  | @pointer n stop target hends hpointer hroom =>
    obtain ⟨hbelow, hreading⟩ := h.ends hends
    have hlabels : r.labels + n ≤ labelsMax := by
      obtain ⟨_, w, -, hlength, -⟩ := hreading
      exact hlength ▸ w.name.labels.length_le
    obtain ⟨hrun, hnext⟩ := hreading.pointer hlabels hpointer hroom
    refine ⟨hrun, _, hnext, ?_, ?_⟩
    · rintro ⟨stop', hlabel⟩
      cases hends with
      | nil =>
        cases hlabel with
        | label hnil hlabel =>
          cases hnil
          exact absurd hpointer hlabel.not_pointerAt
      | label => exact ⟨r.offset, rfl, le_rfl⟩
    · rintro o ⟨f, hf, hle⟩
      rcases Nat.eq_zero_or_pos n with rfl | hpos
      · exact ⟨f, hf, hle⟩
      · rw [Row.here, if_neg hpos.ne']
        exact ⟨r.offset, rfl, (hends.le.trans (hbelow hpos.ne' f hf)).trans hle⟩

end Reading

/-- A name that descends has rows that go down. -/
lemma GoesDown.of_descends {start : ℕ} (h : Descends none none none (visits buf start)) :
    GoesDown buf start := by
  have hreading : ∀ {r : Row}, r.Of buf start →
      ∃ run floor, Reading buf r.offset r.labels r.pointers run floor none := by
    intro r hr
    induction hr with
    | refl => exact ⟨none, none, maxTurns, .begin start, rfl, rfl, rfl, Nat.zero_le _, rfl, h⟩
    | tail _ hleads ih =>
      obtain ⟨run, floor, hthis⟩ := ih
      obtain ⟨-, floor', hnext, -⟩ := hthis.leads hleads
      exact ⟨_, floor', hnext⟩
  constructor
  · intro r r' r'' hr hleads hleads'
    obtain ⟨run, floor, hthis⟩ := hreading hr
    obtain ⟨-, floor', hnext, -⟩ := hthis.leads hleads
    exact (hnext.leads hleads').1 _ rfl
  · intro r r' n stop hr hlabel htrans hends
    have hbelow : ∃ run floor, Reading buf r'.offset r'.labels r'.pointers run floor none ∧
        ∃ f ∈ floor, f ≤ r.offset := by
      clear hends
      induction htrans with
      | single hleads =>
        obtain ⟨run, floor, hthis⟩ := hreading hr
        obtain ⟨-, floor', hnext, hfloor, -⟩ := hthis.leads hleads
        exact ⟨_, floor', hnext, hfloor hlabel⟩
      | tail _ hleads ih =>
        obtain ⟨run, floor, hthis, hfloor⟩ := ih
        obtain ⟨-, floor', hnext, -, hkept⟩ := hthis.leads hleads
        exact ⟨_, floor', hnext, hkept _ hfloor⟩
    obtain ⟨run, floor, hthis, f, hf, hle⟩ := hbelow
    exact ((hthis.ends hends).1 (Nat.succ_ne_zero n) f hf).trans hle

/-- What is read of rows that go down descends. -/
lemma GoesDown.descends {start : ℕ} (h : GoesDown buf start) {r : Row} {n : ℕ} {run floor : Option ℕ}
    (hr : r.Of buf start) (hends : r.Ends buf n w.cursor)
    (hlabels : w.name.labels.toList.length = r.labels + n) (hjumps : w.jumps = r.pointers)
    (hrun : ∀ o ∈ run, o = r.offset ∧ ∃ r₀ : Row, r₀.Of buf start ∧ r₀.Leads buf r)
    (hfloor : ∀ f ∈ floor, ∃ r₀ : Row, r₀.Of buf start ∧ r₀.HasLabel buf ∧
      Relation.TransGen (Row.Leads buf) r₀ r ∧ r₀.offset = f) :
    Descends run floor (r.here n) (visitsFrom buf rounds w) := by
  induction rounds generalizing w r n run floor with
  | zero => exact trivial
  | succ rounds ih =>
    unfold visitsFrom
    split
    · rename_i w' hturn
      cases Walk.turned hturn with
      | @label stop name hlabel hname =>
        have hroom : r.labels + n < labelsMax := by
          have hle := name.labels.length_le
          omega
        have hmore := hends.label hlabel hroom
        rw [Walk.visit, if_pos rfl]
        refine ⟨fun f hf => ?_, ?_⟩
        · obtain ⟨r₀, hr₀, hlabel₀, htrans, rfl⟩ := hfloor f hf
          exact h.labels r₀ r n stop hr₀ hlabel₀ htrans hmore
        · rw [hends.here_or]
          exact ih hr hmore (by rw [hname, hlabels, Nat.add_assoc]) hjumps hrun hfloor
      | @pointer target hpointer hlimit =>
        have hleads : r.Leads buf ⟨target, r.labels + n, r.pointers + 1⟩ :=
          .pointer hends hpointer (hjumps ▸ hlimit)
        rw [Walk.visit, if_neg (Nat.succ_ne_self _)]
        refine ⟨fun o ho => ?_, ?_⟩
        · obtain ⟨rfl, r₀, hr₀, hleads₀⟩ := hrun o ho
          exact h.pointers r₀ r _ hr₀ hleads₀ hleads
        · refine ih (w := { w with
            cursor := target
            stop := w.stop.or (some (w.cursor + 2))
            jumps := w.jumps + 1 }) (hr.tail hleads) .nil hlabels (congrArg (· + 1) hjumps) ?_ ?_
          · intro o ho
            obtain rfl := Option.mem_some_iff.mp ho
            exact ⟨rfl, r, hr, hleads⟩
          · intro f hf
            rcases n with _ | n
            · obtain ⟨r₀, hr₀, hlabel₀, htrans, hoffset⟩ := hfloor f hf
              exact ⟨r₀, hr₀, hlabel₀, htrans.tail hleads, hoffset⟩
            · obtain rfl := Option.mem_some_iff.mp hf
              exact ⟨r, hr, hends.hasLabel, .single hleads, rfl⟩
    · exact trivial

/-! ## Names in a record -/

/-- Source: `RecordType`. -/
inductive RecordType
  | a
  | ptr
  | txt
  | aaaa
  | srv
  | nsec
  | any

/-- Source: `RecordType::from_value`. -/
def RecordType.fromValue (value : UInt16) : Option RecordType :=
  match value.toNat with
  | 1 => some .a
  | 12 => some .ptr
  | 16 => some .txt
  | 28 => some .aaaa
  | 33 => some .srv
  | 47 => some .nsec
  | 255 => some .any
  | _ => none

/-- Source: `CACHE_FLUSH`. -/
def cacheFlush : UInt16 := 0x8000

/-- Source: `Section`. -/
inductive Section
  | answer
  | authority
  | additional

/-- Source: `ReadData`. -/
inductive ReadData
  | ptr (target : Name)
  | srv (port : UInt16) (target : Name)
  | txt (bytes : List UInt8)
  | aaaa (address : List UInt8)
  | a (address : List UInt8)

/-- Source: `ReadRecord`. -/
structure ReadRecord where
  «section» : Section
  «class» : UInt16
  name : Name
  kind : Option RecordType
  ttl : UInt32
  cacheFlush : Bool
  data : Option ReadData

/-- Source: `ResourceRecords::read`, `be16`. -/
def be16 (buf : List UInt8) (start : ℕ) : Except ErrorCode UInt16 := do
  let high ← okOr buf[start]? .dnsTruncated
  let low ← okOr buf[start + 1]? .dnsTruncated
  pure (high.toUInt16 <<< 8 ||| low.toUInt16)

/-- What stands in front of the data of a record, and where these are. -/
structure RecordHead where
  name : Name
  kind : UInt16
  «class» : UInt16
  ttl : UInt32
  start : ℕ
  stop : ℕ

/-- Source: `ResourceRecords::read`, up to the data. -/
def readHead (buf : List UInt8) (start : ℕ) : Except ErrorCode RecordHead := do
  let (name, after) ← Name.decode buf start
  let kind ← be16 buf after
  let «class» ← be16 buf (after + 2)
  let high ← be16 buf (after + 4)
  let low ← be16 buf (after + 6)
  let length ← be16 buf (after + 8)
  let stop := after + 10 + length.toNat
  ensure (stop ≤ buf.length) .dnsTruncated
  pure ⟨name, kind, «class», high.toUInt32 <<< 16 ||| low.toUInt32, after + 10, stop⟩

/-- Source: `ResourceRecords::read`, the data. -/
def readData (buf : List UInt8) (h : RecordHead) : Except ErrorCode (Option ReadData) :=
  let rdata := (buf.drop h.start).take (h.stop - h.start)
  match RecordType.fromValue h.kind with
  | some .ptr => do
    let target ← Name.decode buf h.start
    pure (some (.ptr target.1))
  | some .srv => do
    let port ← be16 buf (h.start + 4)
    let target ← Name.decode buf (h.start + 6)
    pure (some (.srv port target.1))
  | some .txt => pure (some (.txt rdata))
  | some .aaaa => do
    ensure (rdata.length = 16) .dnsMalformed
    pure (some (.aaaa rdata))
  | some .a => do
    ensure (rdata.length = 4) .dnsMalformed
    pure (some (.a rdata))
  | _ => pure none

/-- Source: `ResourceRecords::read`; also the offset behind the record. -/
def readRecord (buf : List UInt8) («section» : Section) (start : ℕ) : Except ErrorCode (ReadRecord × ℕ) := do
  let h ← readHead buf start
  let data ← readData buf h
  pure (⟨«section», h.class &&& ~~~cacheFlush, h.name, RecordType.fromValue h.kind, h.ttl,
    h.class &&& cacheFlush != 0, data⟩, h.stop)

/-- Where the name in the data begins, of the records that have one. -/
def RecordHead.nameStart (h : RecordHead) : Option ℕ :=
  match RecordType.fromValue h.kind with
  | some .ptr => some h.start
  | some .srv => some (h.start + 6)
  | _ => none

/-- The octets of a name where it stands: labels up to an empty one or to a pointer. -/
inductive Spans (buf : List UInt8) : ℕ → ℕ → Prop
  | root {start : ℕ} (h : buf[start]? = some 0) : Spans buf start (start + 1)
  | pointer {start : ℕ} {length : UInt8} (h : buf[start]? = some length)
      (hpointer : length &&& 0xC0 = 0xC0) : Spans buf start (start + 2)
  | label {start stop : ℕ} {length : UInt8} (h : buf[start]? = some length) (hsome : length ≠ 0)
      (hplain : length &&& 0xC0 = 0) (rest : Spans buf (start + 1 + length.toNat) stop) : Spans buf start stop

lemma Spans.unique {start stop stop' : ℕ} (h : Spans buf start stop) (h' : Spans buf start stop') :
    stop = stop' := by
  have hroot : (0 : UInt8) &&& 0xC0 ≠ 0xC0 := by decide
  induction h with
  | root hget | pointer hget hpointer | label hget hsome hplain rest ih => cases h' <;> grind

/-- The offset behind a name is that behind its octets. -/
lemma spans_of_decodeFrom {name : Name} {after : ℕ} (h : decodeFrom buf rounds w = .ok (name, after)) :
    (∀ stop, w.stop = some stop → after = stop) ∧ (w.stop = none → Spans buf w.cursor after) := by
  induction rounds generalizing w with
  | zero => cases h
  | succ rounds ih =>
    obtain ⟨turn, hturn, h⟩ := bind_eq_ok.mp h
    cases Walk.turned hturn with
    | done hget =>
      cases h
      exact ⟨fun stop hstop => by rw [hstop]; rfl, fun hnone => by rw [hnone]; exact .root hget⟩
    | label hlabel hname =>
      obtain ⟨hfound, hopen⟩ := ih h
      obtain ⟨length, hget, hsome, hplain, rfl, -⟩ := hlabel
      exact ⟨hfound, fun hnone => .label hget hsome hplain (hopen hnone)⟩
    | pointer hpointer hlimit =>
      obtain ⟨hfound, -⟩ := ih h
      obtain ⟨length, low, hget, hpointer, -⟩ := hpointer
      refine ⟨fun stop hstop => hfound stop (by rw [hstop]; rfl), fun hnone => ?_⟩
      rw [hfound (w.cursor + 2) (by rw [hnone]; rfl)]
      exact .pointer hget hpointer

lemma decode_of_nameStart {h : RecordHead} {data : Option ReadData} {start : ℕ}
    (hdata : readData buf h = .ok data) (hstart : h.nameStart = some start) :
    ∃ name after, Name.decode buf start = .ok (name, after) := by
  unfold RecordHead.nameStart at hstart
  unfold readData at hdata
  split at hstart
  · rename_i hkind
    simp only [hkind] at hdata
    obtain ⟨found, hfound, -⟩ := bind_eq_ok.mp hdata
    cases hstart
    exact ⟨_, _, hfound⟩
  · rename_i hkind
    simp only [hkind] at hdata
    obtain ⟨port, -, hdata⟩ := bind_eq_ok.mp hdata
    obtain ⟨found, hfound, -⟩ := bind_eq_ok.mp hdata
    cases hstart
    exact ⟨_, _, hfound⟩
  · cases hstart

/-- **A name goes back and back where its rows go down.** The targets of the pointers that are followed
decrease and no octet is read in two labels exactly if the rows of labels at the offset go down; and the
name in the data of an accepted record ends with them exactly if their length is that of the name's
octets up to the first pointer or empty label. -/
theorem name_descends_iff (buf : List UInt8) :
    (∀ start, IsAcyclic (visits buf start) ↔ GoesDown buf start) ∧
    ∀ («section» : Section) (start after : ℕ) (record : ReadRecord) (h : RecordHead),
      readRecord buf «section» start = .ok (record, after) → readHead buf start = .ok h →
        ∀ at' ∈ h.nameStart, (∃ name, Name.decode buf at' = .ok (name, after)) ↔ Spans buf at' after := by
  refine ⟨fun start => ?_, fun «section» start after record h hread hhead at' hat => ?_⟩
  · have hchain : Chained start (visits buf start) := chained_visitsFrom buf maxTurns (.begin start)
    have hdescends : IsAcyclic (visits buf start) ↔ Descends none none none (visits buf start) := by
      rw [← (Track.begin start).descends_iff hchain]
      simp
    rw [hdescends]
    refine ⟨.of_descends, fun hdown => ?_⟩
    exact hdown.descends (w := .begin start) .refl .nil rfl rfl (by simp) (by simp)
  · obtain ⟨h', hhead', hread⟩ := bind_eq_ok.mp hread
    obtain rfl := Except.ok.inj (hhead'.symm.trans hhead)
    obtain ⟨data, hdata, hread⟩ := bind_eq_ok.mp hread
    obtain ⟨name, after', hdecode⟩ := decode_of_nameStart hdata hat
    have hspans := (spans_of_decodeFrom hdecode).2 rfl
    constructor
    · rintro ⟨name', hname'⟩
      exact (spans_of_decodeFrom hname').2 rfl
    · intro hafter
      exact ⟨name, hspans.unique hafter ▸ hdecode⟩

/-- A pointer to a label behind which a pointer leads into that label, a label inside another, and the name of the
root in three octets of data. -/
theorem name_not_acyclic : ((Name.decode [1, 0, 0xC0, 1, 0xC0, 0] 4).isOk = true ∧
      ¬ (targets (visits [1, 0, 0xC0, 1, 0xC0, 0] 4)).Pairwise (· > ·)) ∧
    ((Name.decode [3, 1, 97, 0, 0xC0, 1] 0).isOk = true ∧
      ¬ (labelsRead (visits [3, 1, 97, 0, 0xC0, 1] 0)).Pairwise Apart) ∧
    (readRecord [0, 0, 12, 0, 1, 0, 0, 0, 0, 0, 3, 0, 9, 9] .answer 0).toOption.map Prod.snd = some 14 ∧
      (Name.decode [0, 0, 12, 0, 1, 0, 0, 0, 0, 0, 3, 0, 9, 9] 11).toOption.map Prod.snd = some 12 := by
  decide +kernel

end MatterKit.Discovery
