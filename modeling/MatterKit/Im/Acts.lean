import MatterKit.Im.Blocks
import MatterKit.Im.Invoke

/-!
# What an action asks for, and what its response has room for

Serving a write or an invoke request goes through its elements while it packs the answers, and stops
where the response is full. What the elements ask for does not depend on the response: it is laid out
here as a plan, the list of the calls to be made and of the answers to each, with a malformed element in
its place. Serving a request then is performing its plan (`serveWrites_carries`,
`serveCommands_carries`).

`course` says by the sizes of the answers alone how far that gets, and `perform_course` that it is so.
An act of a write calls the cluster before its answer is known to fit; an act of a command first looks
at whether the response is full (`Act.early`).
-/

namespace MatterKit.Im

open Lib Machine Tlv Dm

variable {η ν β : Type}

/-! ## Acts -/

/-- One thing an action asks for: the call to be made, and the answers in the order they are tried. -/
structure Act (β : Type) where
  early : Bool
  call : Option Call
  answers : List β

/-- What the elements of a request ask for, in turn. -/
abbrev Plan (β : Type) := List (Except ErrorCode (Act β))

/-- Packs the first of some blocks that fits. -/
def putFirst (limit : ℕ) (encode : β → Writing Unit) : List β → Machine (Packed β) ErrorCode Bool
  | [] => pure false
  | b :: bs => do
    if ← putBlock limit encode b then pure true else putFirst limit encode bs

lemma exec_putFirst_singleton (limit : ℕ) (encode : β → Writing Unit) (b : β) (p : Packed β) :
    exec (putFirst limit encode [b]) p = exec (putBlock limit encode b) p := by
  unfold putFirst
  rw [exec_bind]
  rcases exec (putBlock limit encode b) p with ⟨e | answered, p'⟩
  · rfl
  · cases answered <;> rfl

section Perform

variable (limit : ℕ) (encode : β → Writing Unit)

/-- Makes the call of an act, and answers it. -/
def Act.perform (a : Act β) (p : Packed β) : Except ErrorCode Bool × Packed β × List Call :=
  if a.early = true ∧ p.responses ≥ limit then (.ok false, p, [])
  else
    let answered := exec (putFirst limit encode a.answers) p
    (answered.1, answered.2, a.call.toList)

/-- Performs a plan, up to what finds no room. -/
def perform : Plan β → Packed β → Except ErrorCode Bool × Packed β × List Call
  | [], p => (.ok true, p, [])
  | .error e :: _, p => (.error e, p, [])
  | .ok a :: rest, p =>
    match a.perform limit encode p with
    | (.ok true, p', calls) =>
      ((perform rest p').1, (perform rest p').2.1, calls ++ (perform rest p').2.2)
    | stopped => stopped

/-- An act is answered, its call made, or it stops the plan. -/
lemma Act.perform_cases (a : Act β) (p : Packed β) :
    (∃ p', a.perform limit encode p = (.ok true, p', a.call.toList)) ∨
      (a.perform limit encode p).1 ≠ .ok true := by
  by_cases hanswered : (a.perform limit encode p).1 = .ok true
  · left
    unfold Act.perform at hanswered ⊢
    split_ifs at hanswered ⊢
    · cases hanswered
    · exact ⟨_, Prod.ext hanswered rfl⟩
  · exact .inr hanswered

variable {a : Act β} {calls : List Call} {p : Packed β} {plan : Plan β}

lemma perform_cons_of_ok {p p' : Packed β} (h : a.perform limit encode p = (.ok true, p', calls))
    (rest : Plan β) : perform limit encode (.ok a :: rest) p =
      ((perform limit encode rest p').1, (perform limit encode rest p').2.1,
        calls ++ (perform limit encode rest p').2.2) := by
  rw [perform, h]

lemma perform_cons_of_stop (h : (a.perform limit encode p).1 ≠ .ok true) (rest : Plan β) :
    perform limit encode (.ok a :: rest) p = a.perform limit encode p := by
  rw [perform]
  rcases hrun : a.perform limit encode p with ⟨e | answered, p', calls⟩
  · rfl
  · cases answered with
    | false => rfl
    | true => exact absurd (by rw [hrun]) h

lemma perform_singleton (a : Act β) (p : Packed β) :
    perform limit encode [.ok a] p = a.perform limit encode p := by
  obtain ⟨p', hrun⟩ | hstop := a.perform_cases limit encode p
  · rw [perform_cons_of_ok limit encode hrun, hrun]
    simp [perform]
  · exact perform_cons_of_stop limit encode hstop []

/-- A plan is performed part by part. -/
lemma perform_append_of_ok {p p' : Packed β}
    (h : perform limit encode plan p = (.ok true, p', calls)) (rest : Plan β) :
    perform limit encode (plan ++ rest) p =
      ((perform limit encode rest p').1, (perform limit encode rest p').2.1,
        calls ++ (perform limit encode rest p').2.2) := by
  induction plan generalizing p calls with
  | nil =>
    cases h
    rfl
  | cons item plan ih =>
    cases item with
    | error e => cases h
    | ok a =>
      obtain ⟨p₁, hrun⟩ | hact := a.perform_cases limit encode p
      · rw [perform_cons_of_ok limit encode hrun] at h
        rw [List.cons_append, perform_cons_of_ok limit encode hrun]
        obtain ⟨hresult, hstate⟩ := Prod.mk.inj h
        obtain ⟨hpacked, rfl⟩ := Prod.mk.inj hstate
        rw [ih (Prod.ext hresult (Prod.ext hpacked rfl))]
        simp only [List.append_assoc]
      · rw [perform_cons_of_stop limit encode hact] at h
        exact absurd (by rw [h]) hact

lemma perform_append_of_stop (h : (perform limit encode plan p).1 ≠ .ok true) (rest : Plan β) :
    perform limit encode (plan ++ rest) p = perform limit encode plan p := by
  induction plan generalizing p with
  | nil => exact absurd rfl h
  | cons item plan ih =>
    cases item with
    | error e => rfl
    | ok a =>
      obtain ⟨p₁, hrun⟩ | hact := a.perform_cases limit encode p
      · rw [perform_cons_of_ok limit encode hrun] at h
        rw [List.cons_append, perform_cons_of_ok limit encode hrun, ih h,
          perform_cons_of_ok limit encode hrun]
      · rw [List.cons_append, perform_cons_of_stop limit encode hact,
          perform_cons_of_stop limit encode hact]

end Perform

/-! ## How far a plan gets -/

/-- How a plan ends, by the sizes of its answers: at its end, at an act that finds no room, at a malformed
element, or at an act with an answer that cannot be written for another reason than its room. -/
inductive Stop (β : Type)
  | finished (m : Meter)
  | full (m : Meter) (a : Act β)
  | malformed
  | fault (a : Act β)

/-- The acts of a plan that find room, each with the answer that fits, and how the plan ends. -/
structure Course (β : Type) where
  taken : List (Act β × β)
  stop : Stop β

/-- The first of some answers that fits. -/
inductive Choice (β : Type)
  | fits (b : β) (m : Meter)
  | full
  | fault

section Course

variable (limit : ℕ) (encode : β → Writing Unit) (buf : Slice)

/-- Tries some answers by their sizes. -/
def choose (m : Meter) : List β → Choice β
  | [] => .full
  | b :: bs =>
    if m.reports < limit ∧ FitsIn (encode b) buf m.room then
      if (alone (encode b) buf).1 = .ok () then
        .fits b ⟨m.room - (alone (encode b) buf).2.pos, m.reports + 1⟩
      else .fault
    else choose m bs

/-- Takes the acts of a plan by the sizes of their answers. -/
def course : Meter → Plan β → Course β
  | m, [] => ⟨[], .finished m⟩
  | _, .error _ :: _ => ⟨[], .malformed⟩
  | m, .ok a :: rest =>
    match choose limit encode buf m a.answers with
    | .fits b m' => { course m' rest with taken := (a, b) :: (course m' rest).taken }
    | .full => ⟨[], .full m a⟩
    | .fault => ⟨[], .fault a⟩

/-- The call that is made where a plan ends: that of an act which finds no room, unless it looked first. -/
def Stop.calls : Stop β → List Call
  | .full m a => if a.early = true ∧ limit ≤ m.reports then [] else a.call.toList
  | .fault a => a.call.toList
  | .finished _ | .malformed => []

/-- What a plan that ends so comes to. -/
def Stop.Yields (result : Except ErrorCode Bool) (p : Packed β) : Stop β → Prop
  | .finished m => result = .ok true ∧ Filled buf p inReports m
  | .full m _ => result = .ok false ∧ Filled buf p inReports m
  | .malformed | .fault _ => ∃ e, result = .error e

/-- What trying some answers comes to. -/
inductive Chosen (bs : List β) (p : Packed β) (m : Meter) : Choice β → Prop
  | fits {b : β} {m' : Meter} (p' : Packed β) (hmem : b ∈ bs)
      (hrun : exec (putFirst limit encode bs) p = (.ok true, p')) (hp' : Filled buf p' inReports m')
      (hblocks : p'.blocks = p.blocks ++ [b]) : Chosen bs p m (.fits b m')
  | full (p' : Packed β) (hrun : exec (putFirst limit encode bs) p = (.ok false, p'))
      (hp' : Filled buf p' inReports m) (hblocks : p'.blocks = p.blocks) : Chosen bs p m .full
  | fault (e : ErrorCode) (p' : Packed β) (hrun : exec (putFirst limit encode bs) p = (.error e, p')) :
      Chosen bs p m .fault

variable {limit encode buf} (hencode : ∀ b, Balanced (encode b)) {m : Meter} {p : Packed β}

include hencode in
/-- The answers of a request are packed up to the first without room. -/
lemma chosen (bs : List β) (hp : Filled buf p inReports m) :
    Chosen limit encode buf bs p m (choose limit encode buf m bs) := by
  induction bs generalizing p with
  | nil => exact .full p rfl hp rfl
  | cons b bs ih =>
    rw [choose]
    cases packs limit hencode b hp with
    | packed p' hfits hok hrun hp' hblocks =>
      rw [if_pos hfits, if_pos hok]
      exact .fits p' List.mem_cons_self (by rw [putFirst, exec_bind_ok hrun]; rfl) hp' hblocks
    | full p' hfull hrun hp' hblocks =>
      have hexec : exec (putFirst limit encode (b :: bs)) p = exec (putFirst limit encode bs) p' := by
        rw [putFirst, exec_bind_ok hrun]
        rfl
      rw [if_neg hfull]
      generalize hchoice : choose limit encode buf m bs = choice
      cases hchoice ▸ ih hp' with
      | fits p'' hmem hrest hp'' hadded =>
        exact .fits p'' (List.mem_cons_of_mem _ hmem) (hexec.trans hrest) hp'' (hblocks ▸ hadded)
      | full p'' hrest hp'' hkept => exact .full p'' (hexec.trans hrest) hp'' (hkept.trans hblocks)
      | fault e p'' hrest => exact .fault e p'' (hexec.trans hrest)
    | fault e w' hfits hbad hwrite hrun =>
      rw [if_pos hfits, if_neg (by rw [hbad]; exact nofun)]
      exact .fault e _ (by rw [putFirst, exec_bind, hrun])

/-- Answers are not tried where the response is full. -/
lemma choose_of_full (hfull : limit ≤ m.reports) (bs : List β) : choose limit encode buf m bs = .full := by
  induction bs with
  | nil => rfl
  | cons b bs ih => rw [choose, if_neg fun h => absurd h.1 (Nat.not_lt.mpr hfull), ih]

/-- What performing a plan comes to, in terms of its course. -/
structure Performed (limit : ℕ) (buf : Slice) (p : Packed β) (c : Course β)
    (r : Except ErrorCode Bool × Packed β × List Call) : Prop where
  calls : r.2.2 = c.taken.flatMap (fun t => t.1.call.toList) ++ c.stop.calls limit
  yields : c.stop.Yields buf r.1 r.2.1
  blocks : r.1.isOk = true → r.2.1.blocks = p.blocks ++ c.taken.map Prod.snd
  answers : ∀ t ∈ c.taken, t.2 ∈ t.1.answers

include hencode in
/-- Performing a plan gets as far as the sizes of its answers say. -/
lemma perform_course (plan : Plan β) (hp : Filled buf p inReports m) :
    Performed limit buf p (course limit encode buf m plan) (perform limit encode plan p) := by
  induction plan generalizing p m with
  | nil =>
    rw [course, perform]
    exact ⟨rfl, ⟨rfl, hp⟩, fun _ => (List.append_nil _).symm, by simp⟩
  | cons item rest ih =>
    cases item with
    | error e =>
      rw [course, perform]
      exact ⟨rfl, ⟨e, rfl⟩, (fun h => nomatch h), by simp⟩
    | ok a =>
      have hchosen : Chosen limit encode buf a.answers p m _ := chosen hencode a.answers hp
      have hskip : a.early = true ∧ p.responses ≥ limit →
          choose limit encode buf m a.answers = .full := fun h => choose_of_full (hp.reports_eq ▸ h.2) _
      rw [course]
      generalize choose limit encode buf m a.answers = choice at hchosen hskip ⊢
      cases hchosen with
      | @fits b m' p' hmem hrun hp' hblocks =>
        have hact : a.perform limit encode p = (.ok true, p', a.call.toList) := by
          rw [Act.perform, if_neg (fun h => nomatch hskip h), hrun]
        obtain ⟨hcalls, hyields, hadded, hanswers⟩ := ih hp'
        rw [perform_cons_of_ok limit encode hact]
        refine ⟨?_, hyields, fun hok => ?_, List.forall_mem_cons.mpr ⟨hmem, hanswers⟩⟩
        · rw [hcalls, List.flatMap_cons, List.append_assoc]
        · rw [hadded hok, hblocks, List.map_cons, List.append_assoc, List.singleton_append]
      | full p' hrun hp' hblocks =>
        have hact : a.perform limit encode p = (.ok false, (a.perform limit encode p).2.1,
            Stop.calls limit (.full m a)) ∧ Filled buf (a.perform limit encode p).2.1 inReports m ∧
            (a.perform limit encode p).2.1.blocks = p.blocks := by
          rw [Act.perform, Stop.calls, hp.reports_eq]
          split_ifs
          · exact ⟨rfl, hp, rfl⟩
          · rw [hrun]
            exact ⟨rfl, hp', hblocks⟩
        rw [perform_cons_of_stop limit encode (by rw [hact.1]; exact nofun), hact.1]
        exact ⟨rfl, ⟨rfl, hact.2.1⟩, fun _ => hact.2.2.trans (List.append_nil _).symm, by simp⟩
      | fault e p' hrun =>
        have hact : a.perform limit encode p = (.error e, p', a.call.toList) := by
          rw [Act.perform, if_neg (fun h => nomatch hskip h), hrun]
        rw [perform_cons_of_stop limit encode (by rw [hact]; exact nofun), hact]
        exact ⟨rfl, ⟨e, rfl⟩, (fun h => nomatch h), by simp⟩

/-- Where the course of a plan ends, the rest of the plan begins. -/
lemma course_plan (plan : Plan β) (m : Meter) :
    let c := course limit encode buf m plan
    plan = c.taken.map (fun t => .ok t.1) ++ plan.drop c.taken.length ∧
      match c.stop with
      | .finished _ => plan.drop c.taken.length = []
      | .full _ a | .fault a => ∃ rest, plan.drop c.taken.length = .ok a :: rest
      | .malformed => True := by
  induction plan generalizing m with
  | nil => exact ⟨rfl, rfl⟩
  | cons item rest ih =>
    cases item with
    | error e => exact ⟨rfl, trivial⟩
    | ok a =>
      dsimp only [course]
      rcases choose limit encode buf m a.answers with ⟨b, m'⟩ | _ | _
      · obtain ⟨hplan, hstop⟩ := ih m'
        exact ⟨congrArg (.ok a :: ·) hplan, hstop⟩
      · exact ⟨rfl, rest, rfl⟩
      · exact ⟨rfl, rest, rfl⟩

end Course

/-! ## Steps that perform a plan -/

/-- A step of serving performs a plan from a state, and leaves the device and the action as given where
all of it is answered. -/
structure Performs (limit : ℕ) (encode : β → Writing Unit) (x : Acting η ν β Bool) (s : ActState η ν β)
    (plan : Plan β) (h : η) (action : WriteAction) : Prop where
  result : (exec x s).1 = (perform limit encode plan s.packed).1
  packed : (exec x s).2.packed = (perform limit encode plan s.packed).2.1
  calls : (exec x s).2.calls = s.calls ++ (perform limit encode plan s.packed).2.2
  leaves : (exec x s).1 = .ok true → (exec x s).2.handler = h ∧ (exec x s).2.action = action

namespace Performs

variable {limit : ℕ} {encode : β → Writing Unit} {s : ActState η ν β} {plan plan' : Plan β} {h h' : η}
  {action action' : WriteAction}

lemma nothing (s : ActState η ν β) : Performs limit encode (pure true) s [] s.handler s.action where
  result := rfl
  packed := rfl
  calls := (List.append_nil _).symm
  leaves := fun _ => ⟨rfl, rfl⟩

variable {x y : Acting η ν β Bool}

lemma congr (hx : Performs limit encode x s plan h action) (hy : exec y s = exec x s) :
    Performs limit encode y s plan h action := by
  constructor
  · rw [hy, hx.result]
  · rw [hy, hx.packed]
  · rw [hy, hx.calls]
  · rw [hy]
    exact hx.leaves

/-- A step that is not answered in whole ends the plan. -/
lemma stopped (hx : Performs limit encode x s plan h action) (hstop : (exec x s).1 ≠ .ok true)
    (hy : exec y s = exec x s) (plan' : Plan β) (h' : η) (action' : WriteAction) :
    Performs limit encode y s (plan ++ plan') h' action' := by
  have hplan := perform_append_of_stop limit encode (hx.result ▸ hstop) plan'
  constructor
  · rw [hy, hx.result, hplan]
  · rw [hy, hx.packed, hplan]
  · rw [hy, hx.calls, hplan]
  · rw [hy]
    exact fun htrue => absurd htrue hstop

/-- What a step that is answered in whole leaves. -/
lemma answered (hx : Performs limit encode x s plan h action) {s' : ActState η ν β}
    (hrun : exec x s = (.ok true, s')) : (s'.handler = h ∧ s'.action = action) ∧
      s'.calls = s.calls ++ (perform limit encode plan s.packed).2.2 ∧
      perform limit encode plan s.packed =
        (.ok true, s'.packed, (perform limit encode plan s.packed).2.2) := by
  obtain ⟨hresult, hpacked, hcalls, hleaves⟩ := hx
  rw [hrun] at hresult hpacked hcalls hleaves
  exact ⟨hleaves rfl, hcalls, Prod.ext hresult.symm (Prod.ext hpacked.symm rfl)⟩

/-- A step that is answered in whole is followed by the next one. -/
lemma next (hx : Performs limit encode x s plan h action) (hy : ∀ s', s'.handler = h → s'.action = action →
      Performs limit encode y s' plan' h' action') :
    Performs limit encode (do if ← x then y else pure false) s (plan ++ plan') h' action' := by
  rcases hrun : exec x s with ⟨e | answered, s'⟩
  · refine hx.stopped ?_ ?_ plan' h' action'
    · simp [hrun]
    · rw [exec_bind, hrun]
  cases answered with
  | false =>
    refine hx.stopped ?_ ?_ plan' h' action'
    · simp [hrun]
    · rw [exec_bind_ok hrun, hrun]
      rfl
  | true =>
    obtain ⟨⟨hhandler, haction⟩, hcalls, hfirst⟩ := hx.answered hrun
    have hrest := hy s' hhandler haction
    have hexec : exec (do if ← x then y else pure false) s = exec y s' := exec_bind_ok hrun _
    constructor
    · rw [hexec, hrest.result, perform_append_of_ok limit encode hfirst]
    · rw [hexec, hrest.packed, perform_append_of_ok limit encode hfirst]
    · rw [hexec, hrest.calls, perform_append_of_ok limit encode hfirst, hcalls, List.append_assoc]
    · rw [hexec]
      exact hrest.leaves

/-- A step that performs one act. -/
lemma ofAct {s' : ActState η ν β} {a : Act β} {r : Except ErrorCode Bool × Packed β × List Call}
    (ha : a.perform limit encode s.packed = r) (hx : exec x s = (r.1, s')) (hpacked : s'.packed = r.2.1)
    (hcalls : s'.calls = s.calls ++ r.2.2) (hleaves : r.1 = .ok true → s'.handler = h ∧ s'.action = action) :
    Performs limit encode x s [.ok a] h action := by
  subst ha
  constructor
  · rw [hx, perform_singleton]
  · rw [hx, perform_singleton, hpacked]
  · rw [hx, perform_singleton, hcalls]
  · rw [hx]
    exact hleaves

/-- A step that makes a call and then packs the answer to it. -/
lemma ofPut {s' : ActState η ν β} {b : β} {call : Option Call}
    (hx : exec x s = exec (Acting.put limit encode b) s') (hpacked : s'.packed = s.packed)
    (hcalls : s'.calls = s.calls ++ call.toList) :
    Performs limit encode x s [.ok ⟨false, call, [b]⟩] s'.handler s'.action := by
  have hperform : (⟨false, call, [b]⟩ : Act β).perform limit encode s.packed =
      ((exec (putBlock limit encode b) s.packed).1, (exec (putBlock limit encode b) s.packed).2,
        call.toList) := by
    rw [Act.perform, if_neg (by simp), exec_putFirst_singleton]
  have hexec : exec x s = ((exec (putBlock limit encode b) s.packed).1,
      { s' with packed := (exec (putBlock limit encode b) s.packed).2 }) := by
    rw [hx, ← hpacked]
    rfl
  exact .ofAct hperform hexec rfl hcalls fun _ => ⟨rfl, rfl⟩

end Performs

/-! ## Writes -/

namespace Server

/-- An act that makes no call. -/
def statusAct (b : β) : Act β := ⟨false, none, [b]⟩

/-- A write, and the status of what it returned. -/
def writeAct (element : ℕ) (resolved : Resolved) (op : WriteOp) (path : AttributePath)
    (result : Except Status Unit) : Act WriteBlock :=
  ⟨false, some (.write resolved op result.isOk), [⟨element, path, .new (resultStatus result)⟩]⟩

/-- What a concrete write asks for, and the device and the action then. -/
def concreteAct (srv : Server η ν) (h : η) (action : WriteAction) (element : ℕ) (data : AttributeData)
    (concrete : EndpointId × ClusterId × AttributeId) (op : WriteOp) (ctx : InteractionContext) :
    Act WriteBlock × η × WriteAction :=
  match srv.checkAccess h (action.alreadyGranted concrete) data.path concrete with
  | .error status => (statusAct ⟨element, data.path, .new status⟩, h, action)
  | .ok (resolved, descriptor) =>
    match srv.checkWrite h ctx data.dataVersion resolved descriptor with
    | some status => (statusAct ⟨element, data.path, .new status⟩, h, .grant concrete)
    | none =>
      (writeAct element resolved op data.path (srv.write h resolved data.data op ctx).1,
        (srv.write h resolved data.data op ctx).2, .grant concrete)

/-- The attribute a concrete write is checked for is the one its path names. -/
lemma concrete_of_checkAccess {srv : Server η ν} {h : η} {carried : Bool} {path : AttributePath}
    {concrete : EndpointId × ClusterId × AttributeId} {resolved : Resolved}
    {descriptor : AttributeDescriptor} (hconcrete : path.concrete = some concrete)
    (haccess : srv.checkAccess h carried path concrete = .ok (resolved, descriptor)) :
    path.concrete = some (resolved.endpoint, resolved.cluster.id, resolved.attributeId) := by
  unfold checkAccess at haccess
  simp only at haccess
  split at haccess
  · cases haccess
  split at haccess
  · cases haccess
  rename_i found hresolve
  have hpath := Node.path_of_resolve hresolve
  split at haccess
  · cases haccess
  split at haccess
  · cases haccess
  split at haccess
  · cases haccess
  cases haccess
  rw [hconcrete]
  have hsame := congrArg AttributePath.concrete hpath
  exact hsame.symm

/-- What an expanded write asks for, and the device then. -/
def expandedActs (srv : Server η ν) (element : ℕ) (data : List UInt8) (op : WriteOp)
    (ctx : InteractionContext) : η → List Resolved → List (Act WriteBlock) × η
  | h, [] => ([], h)
  | h, resolved :: rest =>
    if srv.writable h ctx resolved then
      let others := expandedActs srv element data op ctx (srv.write h resolved data op ctx).2 rest
      (writeAct element resolved op resolved.path (srv.write h resolved data op ctx).1 :: others.1,
        others.2)
    else expandedActs srv element data op ctx h rest

/-- What a path that is not understood asks for. -/
def refusedActs (element : ℕ) (path : AttributePath) : List (Act WriteBlock) :=
  if path.concrete.isSome then [statusAct ⟨element, path, .new .invalidAction⟩] else []

/-- What an element of a write request asks for, and the device and the action then. -/
def writePathActs (srv : Server η ν) (h : η) (action : WriteAction) (element : ℕ)
    (data : AttributeData) (ctx : InteractionContext) : List (Act WriteBlock) × η × WriteAction :=
  if data.path.enableTagCompression then (refusedActs element data.path, h, action)
  else
    match WriteOp.of data.path with
    | none => (refusedActs element data.path, h, action)
    | some op =>
      match data.path.concrete with
      | some concrete =>
        let act := srv.concreteAct h action element data concrete op ctx
        ([act.1], act.2)
      | none =>
        let acts := srv.expandedActs element data.data op ctx h (srv.node.expand data.path)
        (acts.1, acts.2, action)

/-- What a write request asks for. -/
def writePlan (srv : Server η ν) (ctx : InteractionContext) :
    η → WriteAction → ℕ → List (Except ErrorCode AttributeData) → Plan WriteBlock
  | _, _, _, [] => []
  | h, action, element, .error e :: rest => .error e :: writePlan srv ctx h action (element + 1) rest
  | h, action, element, .ok data :: rest =>
    let acts := srv.writePathActs h action element data ctx
    acts.1.map .ok ++ writePlan srv ctx acts.2.1 acts.2.2 (element + 1) rest

variable (srv : Server η ν)

variable (element : ℕ)

lemma writeResponseStatus_performs (path : AttributePath) (status : Status)
    (s : ActState η ν WriteBlock) :
    Performs srv.limit WriteBlock.encode (srv.writeResponseStatus element path status) s
      [.ok (statusAct ⟨element, path, .new status⟩)] s.handler s.action :=
  .ofPut rfl rfl (List.append_nil _).symm

lemma exec_touch (versions : Option (DataVersionSource ν)) (endpoint : EndpointId)
    (cluster : ClusterId) (s : ActState η ν β) :
    ∃ v, exec (Acting.touch versions endpoint cluster) s = (.ok (), { s with versions := v }) := by
  cases versions with
  | none => exact ⟨s.versions, rfl⟩
  | some source => exact ⟨_, rfl⟩

/-- A call and the status of what it returned. -/
lemma performs_of_call {α : Type} {x : Acting η ν WriteBlock α}
    {s s' : ActState η ν WriteBlock} {a : α} (hx : exec x s = (.ok a, s')) (call : Option Call)
    (hpacked : s'.packed = s.packed) (hcalls : s'.calls = s.calls ++ call.toList) (element : ℕ)
    (path : AttributePath) (status : α → Status) : Performs srv.limit WriteBlock.encode
      (x >>= fun a => srv.writeResponseStatus element path (status a)) s
      [.ok ⟨false, call, [⟨element, path, .new (status a)⟩]⟩] s'.handler s'.action :=
  .ofPut (exec_bind_ok hx _) hpacked hcalls

lemma exec_callWrite (resolved : Resolved) (data : List UInt8) (op : WriteOp)
    (ctx : InteractionContext) (s : ActState η ν WriteBlock) : exec (srv.callWrite resolved data op ctx) s =
      (.ok (srv.write s.handler resolved data op ctx).1, { s with
        handler := (srv.write s.handler resolved data op ctx).2
        calls := s.calls ++
          [.write resolved op (srv.write s.handler resolved data op ctx).1.isOk] }) := rfl

/-- A concrete write makes the call of its act, and finds the status that answers it. -/
lemma exec_concreteStatus (element : ℕ) (data : AttributeData) (concrete : EndpointId × ClusterId × AttributeId)
    (op : WriteOp) (ctx : InteractionContext) (s : ActState η ν WriteBlock) :
    let act := srv.concreteAct s.handler s.action element data concrete op ctx
    ∃ status v, act.1 = ⟨false, act.1.call, [⟨element, data.path, .new status⟩]⟩ ∧
      exec (srv.concreteStatus data concrete op ctx) s = (.ok status, { s with
        handler := act.2.1, versions := v, action := act.2.2, calls := s.calls ++ act.1.call.toList }) := by
  unfold concreteAct concreteStatus
  rw [exec_get_bind]
  rcases srv.checkAccess s.handler (s.action.alreadyGranted concrete) data.path concrete
    with status | ⟨resolved, descriptor⟩
  · exact ⟨status, s.versions, rfl, by simp [statusAct]⟩
  simp only
  rw [exec_modify_bind]
  rcases srv.checkWrite s.handler ctx data.dataVersion resolved descriptor with _ | status
  · simp only
    rw [exec_bind_ok (exec_callWrite ..)]
    rcases srv.write s.handler resolved data.data op ctx with ⟨status | _, h⟩
    · exact ⟨status, s.versions, rfl, rfl⟩
    · obtain ⟨v, htouch⟩ := exec_touch srv.versions resolved.endpoint resolved.cluster.id
        ({ s with
          handler := h, action := .grant concrete
          calls := s.calls ++ [.write resolved op true] } : ActState η ν WriteBlock)
      exact ⟨.success, v, rfl, exec_bind_ok htouch _⟩
  · exact ⟨status, s.versions, rfl, by simp [statusAct]⟩

lemma writeConcrete_performs (element : ℕ) (data : AttributeData)
    (concrete : EndpointId × ClusterId × AttributeId) (op : WriteOp) (ctx : InteractionContext)
    (s : ActState η ν WriteBlock) :
    Performs srv.limit WriteBlock.encode (srv.writeConcrete element data concrete op ctx) s
      [.ok (srv.concreteAct s.handler s.action element data concrete op ctx).1]
      (srv.concreteAct s.handler s.action element data concrete op ctx).2.1
      (srv.concreteAct s.handler s.action element data concrete op ctx).2.2 := by
  obtain ⟨status, v, hact, hstatus⟩ := srv.exec_concreteStatus element data concrete op ctx s
  rw [hact]
  exact srv.performs_of_call hstatus _ rfl rfl element data.path id

/-- The attributes of an expansion, one after another. -/
lemma writeExpanded_performs (data : List UInt8) (op : WriteOp) (ctx : InteractionContext)
    (rest : List Resolved) (s : ActState η ν WriteBlock) :
    Performs srv.limit WriteBlock.encode (srv.writeExpanded element data op ctx rest) s
      ((srv.expandedActs element data op ctx s.handler rest).1.map .ok)
      (srv.expandedActs element data op ctx s.handler rest).2 s.action := by
  induction rest generalizing s with
  | nil => exact .nothing s
  | cons resolved rest ih =>
    by_cases hwritable : srv.writable s.handler ctx resolved = true
    · rw [expandedActs, if_pos hwritable]
      have hfirst : Performs srv.limit WriteBlock.encode (do
          let result ← srv.callWrite resolved data op ctx
          srv.writeResponseStatus element resolved.path (resultStatus result)) s
          [.ok (writeAct element resolved op resolved.path (srv.write s.handler resolved data op ctx).1)]
          (srv.write s.handler resolved data op ctx).2 s.action :=
        srv.performs_of_call (srv.exec_callWrite resolved data op ctx s) (some _) rfl rfl element
          resolved.path resultStatus
      have hexec : exec (srv.writeExpanded element data op ctx (resolved :: rest)) s =
          exec (do
            if ← (do
              let result ← srv.callWrite resolved data op ctx
              srv.writeResponseStatus element resolved.path (resultStatus result))
            then srv.writeExpanded element data op ctx rest else pure false) s := by
        rw [writeExpanded, exec_get_bind, if_pos hwritable, bind_assoc]
      have hall := hfirst.next fun s' hhandler haction => by
        have hrest := ih s'
        rw [hhandler, haction] at hrest
        exact hrest
      exact hall.congr hexec
    · have hexec : exec (srv.writeExpanded element data op ctx (resolved :: rest)) s =
          exec (srv.writeExpanded element data op ctx rest) s := by
        rw [writeExpanded, exec_get_bind, if_neg hwritable]
      rw [expandedActs, if_neg hwritable]
      exact (ih s).congr hexec

lemma refusePath_performs (path : AttributePath) (s : ActState η ν WriteBlock) :
    Performs srv.limit WriteBlock.encode (srv.refusePath element path) s
      ((refusedActs element path).map .ok) s.handler s.action := by
  unfold refusePath refusedActs
  split_ifs
  · exact srv.writeResponseStatus_performs element path _ s
  · exact .nothing s

lemma serveWritePath_performs (data : AttributeData) (ctx : InteractionContext)
    (s : ActState η ν WriteBlock) :
    Performs srv.limit WriteBlock.encode (srv.serveWritePath element data ctx) s
      ((srv.writePathActs s.handler s.action element data ctx).1.map .ok)
      (srv.writePathActs s.handler s.action element data ctx).2.1
      (srv.writePathActs s.handler s.action element data ctx).2.2 := by
  unfold serveWritePath writePathActs
  split_ifs
  · exact srv.refusePath_performs element data.path s
  cases WriteOp.of data.path with
  | none => exact srv.refusePath_performs element data.path s
  | some op =>
    cases data.path.concrete with
    | some concrete => exact srv.writeConcrete_performs element data concrete op ctx s
    | none => exact srv.writeExpanded_performs element data.data op ctx _ s

end Server

/-- Serving the elements of a request performs a plan; it returns whether something found no room. -/
structure Carries (limit : ℕ) (encode : β → Writing Unit) (x : Acting η ν β Bool) (s : ActState η ν β)
    (plan : Plan β) : Prop where
  result : (exec x s).1 = (perform limit encode plan s.packed).1.map (!·)
  packed : (exec x s).2.packed = (perform limit encode plan s.packed).2.1
  calls : (exec x s).2.calls = s.calls ++ (perform limit encode plan s.packed).2.2

namespace Carries

variable {limit : ℕ} {encode : β → Writing Unit} {s : ActState η ν β} {plan plan' : Plan β} {h : η}
  {action : WriteAction}

lemma nothing (s : ActState η ν β) : Carries limit encode (pure false) s [] :=
  ⟨rfl, rfl, (List.append_nil _).symm⟩

lemma malformed (e : ErrorCode) (s : ActState η ν β) (rest : Plan β) {x : Acting η ν β Bool}
    (hx : exec x s = (.error e, s)) : Carries limit encode x s (.error e :: rest) := by
  constructor
  · rw [hx]
    rfl
  · rw [hx]
    rfl
  · rw [hx]
    exact (List.append_nil _).symm

/-- An element that is not answered in whole ends the plan. -/
lemma stopped {x y : Acting η ν β Bool} (hx : Performs limit encode x s plan h action)
    (hstop : (exec x s).1 ≠ .ok true) (hy : exec y s = ((exec x s).1.map (!·), (exec x s).2))
    (plan' : Plan β) : Carries limit encode y s (plan ++ plan') := by
  have hplan := perform_append_of_stop limit encode (hx.result ▸ hstop) plan'
  constructor
  · rw [hy, hx.result, hplan]
  · rw [hy, hx.packed, hplan]
  · rw [hy, hx.calls, hplan]

/-- An element, and the elements after it. -/
lemma next {x y : Acting η ν β Bool} (hx : Performs limit encode x s plan h action)
    (hy : ∀ s', s'.handler = h → s'.action = action → Carries limit encode y s' plan') :
    Carries limit encode (do if ← x then y else pure true) s (plan ++ plan') := by
  rcases hrun : exec x s with ⟨e | answered, s'⟩
  · refine stopped hx ?_ ?_ plan'
    · simp [hrun]
    · rw [exec_bind, hrun]
      rfl
  cases answered with
  | false =>
    refine stopped hx ?_ ?_ plan'
    · simp [hrun]
    · rw [exec_bind_ok hrun, hrun]
      rfl
  | true =>
    obtain ⟨⟨hhandler, haction⟩, hcalls, hfirst⟩ := hx.answered hrun
    have hexec : exec (do if ← x then y else pure true) s = exec y s' := exec_bind_ok hrun _
    have hrest := hy s' hhandler haction
    constructor
    · rw [hexec, hrest.result, perform_append_of_ok limit encode hfirst]
    · rw [hexec, hrest.packed, perform_append_of_ok limit encode hfirst]
    · rw [hexec, hrest.calls, perform_append_of_ok limit encode hfirst, hcalls, List.append_assoc]

end Carries

namespace Server

variable (srv : Server η ν)

/-- Serving the elements of a write request performs what they ask for. -/
lemma serveWrites_carries (ctx : InteractionContext) (element : ℕ)
    (writes : List (Except ErrorCode AttributeData)) (s : ActState η ν WriteBlock) :
    Carries srv.limit WriteBlock.encode (srv.serveWrites ctx element writes) s
      (srv.writePlan ctx s.handler s.action element writes) := by
  induction writes generalizing element s with
  | nil => exact .nothing s
  | cons data writes ih =>
    cases data with
    | error e => exact .malformed e s _ rfl
    | ok data =>
      refine .next (srv.serveWritePath_performs element data ctx s) fun s' hhandler haction => ?_
      rw [← hhandler, ← haction]
      exact ih (element + 1) s'

/-! ## Commands -/

/-- The answers to a command that has run. -/
def commandAnswers (resolved : ResolvedCommand) (command : CommandData)
    (result : Except StatusIb (Option CommandId)) (fields : TlvWriter) : List InvokeResponse :=
  let status (status : StatusIb) : InvokeResponse := .status ⟨resolved.path, status, command.commandRef⟩
  match result with
  | .error e => [status e]
  | .ok none => [status (.new .success)]
  | .ok (some responseId) =>
    match fields.finish with
    | .error _ => [status (.new .failure)]
    | .ok encoded =>
      [.command ⟨.ofIds resolved.endpoint resolved.cluster.id responseId, some encoded,
        command.commandRef⟩, status (.new .resourceExhausted)]

/-- Running a command, and the device then. -/
def runAct (srv : Server η ν) (h : η) (resolved : ResolvedCommand) (command : CommandData)
    (ctx : InteractionContext) (scratch : Slice) : Act InvokeResponse × η :=
  let ran := srv.invoke h resolved command.fields ctx (TlvWriter.newIn scratch .struct) (.context 1)
  (⟨true, some (.invoke resolved ran.1.isOk), commandAnswers resolved command ran.1 ran.2.1⟩, ran.2.2)

/-- What a concrete command asks for, and the device then. -/
def concreteCommandAct (srv : Server η ν) (h : η) (command : CommandData)
    (concrete : EndpointId × ClusterId × CommandId) (ctx : InteractionContext) (scratch : Slice) :
    Act InvokeResponse × η :=
  match srv.checkCommand h command.path concrete ctx with
  | .error status => (statusAct (.status ⟨command.path, .new status, command.commandRef⟩), h)
  | .ok resolved => srv.runAct h resolved command ctx scratch

/-- What an expanded command asks for, and the device then. -/
def expandedCommandActs (srv : Server η ν) (command : CommandData) (ctx : InteractionContext)
    (scratch : Slice) : η → List ResolvedCommand → List (Act InvokeResponse) × η
  | h, [] => ([], h)
  | h, resolved :: rest =>
    if srv.invokable h ctx resolved then
      let act := srv.runAct h resolved command ctx scratch
      let others := expandedCommandActs srv command ctx scratch act.2 rest
      (act.1 :: others.1, others.2)
    else expandedCommandActs srv command ctx scratch h rest

/-- What an element of an invoke request asks for, and the device then. -/
def commandActs (srv : Server η ν) (h : η) (command : CommandData) (ctx : InteractionContext)
    (scratch : Slice) : List (Act InvokeResponse) × η :=
  match command.path.concrete with
  | some concrete =>
    let act := srv.concreteCommandAct h command concrete ctx scratch
    ([act.1], act.2)
  | none =>
    srv.expandedCommandActs command ctx scratch h (srv.node.expandCommands command.path)

/-- What an invoke request asks for. -/
def commandPlan (srv : Server η ν) (ctx : InteractionContext) (scratch : Slice) :
    η → List (Except ErrorCode CommandData) → Plan InvokeResponse
  | _, [] => []
  | h, .error e :: rest => .error e :: commandPlan srv ctx scratch h rest
  | h, .ok command :: rest =>
    let acts := srv.commandActs h command ctx scratch
    acts.1.map .ok ++ commandPlan srv ctx scratch acts.2 rest

lemma exec_actingPut (limit : ℕ) (encode : β → Writing Unit) (b : β) (s : ActState η ν β) :
    exec (Acting.put limit encode b) s =
      ((exec (putBlock limit encode b) s.packed).1,
        { s with packed := (exec (putBlock limit encode b) s.packed).2 }) := rfl

variable (resolved : ResolvedCommand)

/-- A command that has run is answered with the first of its answers that fits. -/
lemma exec_answerCommand (command : CommandData) (result : Except StatusIb (Option CommandId))
    (fields : TlvWriter) (s : ActState η ν InvokeResponse) :
    exec (srv.answerCommand resolved command result fields) s =
      ((exec (putFirst srv.limit InvokeResponse.encode
          (commandAnswers resolved command result fields)) s.packed).1,
        { s with packed := (exec (putFirst srv.limit InvokeResponse.encode
          (commandAnswers resolved command result fields)) s.packed).2 }) := by
  unfold answerCommand commandAnswers commandStatus
  rcases result with e | _ | responseId
  · rw [exec_putFirst_singleton]
    rfl
  · rw [exec_putFirst_singleton]
    rfl
  rcases fields.finish with e | encoded
  · rw [exec_putFirst_singleton]
    rfl
  -- The response itself comes first; it is replaced by a status if it does not fit.
  simp only
  rw [exec_bind, exec_actingPut, putFirst, exec_bind]
  rcases exec (putBlock srv.limit InvokeResponse.encode _) s.packed with ⟨e | answered, p⟩
  · rfl
  · cases answered with
    | true => rfl
    | false =>
      simp only [Bool.false_eq_true, if_false]
      rw [exec_putFirst_singleton]
      rfl

/-- A command is run where the response is not full, whatever its answer. -/
lemma exec_runCommand (resolved : ResolvedCommand) (command : CommandData)
    (ctx : InteractionContext) (scratch : Slice) (s : ActState η ν InvokeResponse)
    (hroom : ¬ s.packed.responses ≥ srv.limit) :
    let act := srv.runAct s.handler resolved command ctx scratch
    let answered := exec (putFirst srv.limit InvokeResponse.encode act.1.answers) s.packed
    ∃ v, exec (srv.runCommand resolved command ctx scratch) s = (answered.1, { s with
      packed := answered.2, handler := act.2, versions := v, calls := s.calls ++ act.1.call.toList }) := by
  unfold runCommand runAct
  rw [exec_get_bind, if_neg hroom]
  generalize hran : srv.invoke s.handler resolved command.fields ctx
    (TlvWriter.newIn scratch .struct) (.context 1) = ran
  have hcall : exec (srv.callInvoke resolved command.fields ctx scratch) s =
      (.ok (ran.1, ran.2.1), { s with
        handler := ran.2.2, calls := s.calls ++ [.invoke resolved ran.1.isOk] }) := by
    rw [← hran]
    rfl
  rw [exec_bind_ok hcall]
  by_cases hok : ran.1.isOk = true
  · obtain ⟨v, htouch⟩ := exec_touch srv.versions resolved.endpoint resolved.cluster.id
      ({ s with handler := ran.2.2, calls := s.calls ++ [.invoke resolved ran.1.isOk] } :
        ActState η ν InvokeResponse)
    refine ⟨v, ?_⟩
    simp only [if_pos hok]
    rw [exec_bind_ok htouch, exec_answerCommand]
    rfl
  · refine ⟨s.versions, ?_⟩
    simp only [if_neg hok]
    exact srv.exec_answerCommand resolved command ran.1 ran.2.1 _

lemma runCommand_performs (resolved : ResolvedCommand) (command : CommandData)
    (ctx : InteractionContext) (scratch : Slice) (s : ActState η ν InvokeResponse) :
    Performs srv.limit InvokeResponse.encode (srv.runCommand resolved command ctx scratch) s
      [.ok (srv.runAct s.handler resolved command ctx scratch).1]
      (srv.runAct s.handler resolved command ctx scratch).2 s.action := by
  by_cases hfull : s.packed.responses ≥ srv.limit
  · have hexec : exec (srv.runCommand resolved command ctx scratch) s = (.ok false, s) := by
      unfold runCommand
      rw [exec_get_bind, if_pos hfull]
      rfl
    exact .ofAct (if_pos ⟨rfl, hfull⟩) hexec rfl (List.append_nil _).symm fun htrue => nomatch htrue
  · obtain ⟨v, hexec⟩ := srv.exec_runCommand resolved command ctx scratch s hfull
    exact .ofAct (if_neg fun h => hfull h.2) hexec rfl rfl fun _ => ⟨rfl, rfl⟩

lemma commandStatus_performs (path : CommandPath) (status : StatusIb)
    (commandRef : Option UInt16) (s : ActState η ν InvokeResponse) :
    Performs srv.limit InvokeResponse.encode (srv.commandStatus path status commandRef) s
      [.ok (statusAct (.status ⟨path, status, commandRef⟩))] s.handler s.action :=
  .ofPut rfl rfl (List.append_nil _).symm

lemma invokeConcrete_performs (command : CommandData)
    (concrete : EndpointId × ClusterId × CommandId) (ctx : InteractionContext) (scratch : Slice)
    (s : ActState η ν InvokeResponse) :
    Performs srv.limit InvokeResponse.encode (srv.invokeConcrete command concrete ctx scratch) s
      [.ok (srv.concreteCommandAct s.handler command concrete ctx scratch).1]
      (srv.concreteCommandAct s.handler command concrete ctx scratch).2 s.action := by
  unfold concreteCommandAct
  rcases hcheck : srv.checkCommand s.handler command.path concrete ctx with status | resolved
  · refine (srv.commandStatus_performs command.path (.new status) command.commandRef s).congr ?_
    rw [invokeConcrete, exec_get_bind, hcheck]
  · refine (srv.runCommand_performs resolved command ctx scratch s).congr ?_
    rw [invokeConcrete, exec_get_bind, hcheck]

lemma invokeExpanded_performs (command : CommandData) (ctx : InteractionContext)
    (scratch : Slice) (rest : List ResolvedCommand) (s : ActState η ν InvokeResponse) :
    Performs srv.limit InvokeResponse.encode (srv.invokeExpanded command ctx scratch rest) s
      ((srv.expandedCommandActs command ctx scratch s.handler rest).1.map .ok)
      (srv.expandedCommandActs command ctx scratch s.handler rest).2 s.action := by
  induction rest generalizing s with
  | nil => exact .nothing s
  | cons resolved rest ih =>
    by_cases hinvokable : srv.invokable s.handler ctx resolved = true
    · rw [expandedCommandActs, if_pos hinvokable]
      have hall := (srv.runCommand_performs resolved command ctx scratch s).next
        fun s' hhandler haction => by
          have hrest := ih s'
          rw [hhandler, haction] at hrest
          exact hrest
      refine hall.congr ?_
      rw [invokeExpanded, exec_get_bind, if_pos hinvokable]
    · rw [expandedCommandActs, if_neg hinvokable]
      refine (ih s).congr ?_
      rw [invokeExpanded, exec_get_bind, if_neg hinvokable]

/-- Serving the elements of an invoke request performs what they ask for. -/
lemma serveCommands_carries (ctx : InteractionContext) (scratch : Slice)
    (commands : List (Except ErrorCode CommandData)) (s : ActState η ν InvokeResponse) :
    Carries srv.limit InvokeResponse.encode (srv.serveCommands ctx scratch commands) s
      (srv.commandPlan ctx scratch s.handler commands) := by
  induction commands generalizing s with
  | nil => exact .nothing s
  | cons command commands ih =>
    cases command with
    | error e => exact .malformed e s _ rfl
    | ok command =>
      have hfirst : Performs srv.limit InvokeResponse.encode
          (srv.serveInvokeCommand command ctx scratch) s
          ((srv.commandActs s.handler command ctx scratch).1.map .ok)
          (srv.commandActs s.handler command ctx scratch).2 s.action := by
        unfold serveInvokeCommand commandActs
        cases command.path.concrete with
        | some concrete => exact srv.invokeConcrete_performs command concrete ctx scratch s
        | none => exact srv.invokeExpanded_performs command ctx scratch _ s
      refine .next hfirst fun s' hhandler _ => ?_
      rw [← hhandler]
      exact ih s'

/-! ## The octets around the answers -/

/-- The octets of the head of a write response. -/
def writeHeadSize : ℕ := 3

/-- The octets of the tail of a write response. -/
def writeTailSize : ℕ := 5

/-- The octets of the head of an invoke response. -/
def invokeHeadSize : ℕ := 5

/-- The octets of the tail of an invoke response, which may say that there is more. -/
def invokeTailSize (truncated : Bool) : ℕ := if truncated then 7 else 5

lemma costs_open : Costs (start .anonymous .struct) ⟨[], false⟩ inMessage 1 :=
  ⟨_, rfl, follows_start_ok (by decide) rfl .struct⟩

lemma costs_array {t : UInt8} : Costs (start (.context t) .array) inMessage inReports 2 :=
  ⟨_, rfl, follows_start_ok (by decide) rfl .array⟩

lemma costs_bool {t : UInt8} (v : Bool) : Costs (Tlv.bool (.context t) v) inMessage inMessage 2 :=
  ⟨_, rfl, follows_head (n := inMessage) rfl _⟩

lemma costs_close : Costs endContainer inReports inMessage 1 :=
  ⟨_, rfl, follows_endContainer_of (n := inReports) (by decide)⟩

/-- The end of a message: the revision, and the end of its structure. -/
lemma costs_end : Costs (do
    unsigned (.context revisionTag) interactionModelRevision.toUInt64
    endContainer) inMessage ⟨[], true⟩ 4 :=
  (costs_unsigned (n := inMessage) (by decide) rfl _).seq
    ⟨_, rfl, follows_endContainer_of (n := inMessage) (by decide)⟩

lemma costs_writeHead : Costs writeHead ⟨[], false⟩ inReports writeHeadSize := costs_open.seq costs_array

lemma costs_writeTail : Costs writeTail inReports ⟨[], true⟩ writeTailSize := costs_close.seq costs_end

lemma costs_invokeHead (suppressResponse : Bool) :
    Costs (invokeHead suppressResponse) ⟨[], false⟩ inReports invokeHeadSize :=
  costs_open.seq ((costs_bool suppressResponse).seq costs_array)

lemma costs_invokeTail (truncated : Bool) :
    Costs (invokeTail truncated) inReports ⟨[], true⟩ (invokeTailSize truncated) := by
  cases truncated with
  | false => exact costs_close.seq ((costs_nothing inMessage).seq costs_end)
  | true => exact costs_close.seq ((costs_bool true).seq costs_end)

/-- A status of a write response closes what it opens. -/
lemma balanced_writeBlock (b : WriteBlock) : Balanced b.encode := balanced_attributeStatus b.status _

lemma balanced_commandPath (p : CommandPath) (tag : Tag) : Balanced (p.encode tag) := by
  refine balanced_start tag .list ?_
  refine (balanced_field p.endpoint 0 UInt16.toUInt64).closes_bind fun _ => ?_
  refine (balanced_field p.cluster 1 UInt32.toUInt64).closes_bind fun _ => ?_
  refine (balanced_field p.command 2 UInt32.toUInt64).closes_bind fun _ => ?_
  exact closes_endContainer .list

/-- A block of an invoke response closes what it opens. -/
lemma balanced_invokeResponse (r : InvokeResponse) : Balanced r.encode := by
  refine balanced_start .anonymous .struct ?_
  cases r with
  | command c =>
    refine closes_start (.context 0) .struct ?_
    refine (balanced_commandPath c.path _).closes_bind fun _ => ?_
    refine (balanced_whenSome c.fields fun _ => balanced_rawElement _).closes_bind fun _ => ?_
    refine (balanced_field c.commandRef 2 UInt16.toUInt64).closes_bind fun _ => ?_
    exact closes_endContainer_bind (closes_endContainer .struct)
  | status s =>
    have hstatus : Balanced (s.encode (.context 1)) := by
      refine balanced_start _ .struct ?_
      refine (balanced_commandPath s.path _).closes_bind fun _ => ?_
      refine (balanced_statusIb s.status _).closes_bind fun _ => ?_
      refine (balanced_field s.commandRef 2 UInt16.toUInt64).closes_bind fun _ => ?_
      exact closes_endContainer .struct
    exact hstatus.closes_bind fun _ => closes_endContainer .struct

end Server

end MatterKit.Im
