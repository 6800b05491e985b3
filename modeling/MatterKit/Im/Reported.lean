import MatterKit.Im.Acts
import MatterKit.Im.Existence

/-!
# Writes that took effect are reported

A write response has a status for every path that was written, and the source says so. The cluster is
called before its status is known to fit, though, and where it does not the response ends: the write has
been made and nothing says so, and the paths after it have no status either.

So what is reported is a matter of the sizes of the answers: `writes_reported_iff` says which of those
that a request asks for (`writePlan`) may have no room.
-/

namespace MatterKit.Im

open Lib Machine Tlv Dm

variable {η ν β : Type}

/-! ## What is reported -/

/-- A response has a status that says an attribute was written. -/
def SuccessFor (blocks : List WriteBlock) (resolved : Resolved) : Prop :=
  ∃ b ∈ blocks, b.status.status = .new .success ∧
    b.status.path.concrete = some (resolved.endpoint, resolved.cluster.id, resolved.attributeId)

/-- Every write that a cluster made is reported. -/
def WritesReported (calls : List Call) (blocks : List WriteBlock) : Prop :=
  ∀ resolved op, .write resolved op true ∈ calls → SuccessFor blocks resolved

/-- Whether an element of a write request is a concrete path. -/
def isConcrete : Except ErrorCode AttributeData → Bool
  | .ok data => data.path.concrete.isSome
  | .error _ => false

/-- Whether the element at a place of a write request is a concrete path. -/
def concreteAt (writes : List (Except ErrorCode AttributeData)) (element : ℕ) : Bool :=
  writes[element]?.any isConcrete

/-- The concrete paths of a write request, each with its place. -/
def concretePaths : ℕ → List (Except ErrorCode AttributeData) → List (ℕ × AttributePath)
  | _, [] => []
  | element, .error _ :: rest => concretePaths (element + 1) rest
  | element, .ok data :: rest =>
    if data.path.concrete.isSome then (element, data.path) :: concretePaths (element + 1) rest
    else concretePaths (element + 1) rest

/-- The statuses that answer concrete paths, each with the place of the path it answers. -/
def concreteAnswers (writes : List (Except ErrorCode AttributeData)) (blocks : List WriteBlock) :
    List (ℕ × AttributePath) :=
  (blocks.filter fun b => concreteAt writes b.element).map fun b => (b.element, b.status.path)

/-- The acts of a plan. -/
def planned (plan : Plan β) : List (Act β) := plan.filterMap Except.toOption

lemma planned_append (plan plan' : Plan β) : planned (plan ++ plan') = planned plan ++ planned plan' :=
  List.filterMap_append

lemma planned_ok (acts : List (Act β)) : planned (acts.map .ok) = acts := by
  unfold planned
  rw [List.filterMap_map]
  exact List.filterMap_some

/-- The acts of a plan are those that find room and those behind them. -/
lemma planned_course (limit : ℕ) (encode : β → Writing Unit) (buf : Slice) (m : Meter) (plan : Plan β) :
    planned plan = (course limit encode buf m plan).taken.map Prod.fst ++
      planned (plan.drop (course limit encode buf m plan).taken.length) := by
  rw [← planned_ok (List.map Prod.fst _), List.map_map, ← planned_append]
  exact congrArg planned (course_plan plan m).1

/-- A write that its cluster answers with success, of the attribute that another one is of. -/
def Act.Wrote (a : Act WriteBlock) (resolved : Resolved) : Prop :=
  ∃ element written op path result, a = Server.writeAct element written op path result ∧
    Server.resultStatus result = .success ∧ written.endpoint = resolved.endpoint ∧
    written.cluster.id = resolved.cluster.id ∧ written.attributeId = resolved.attributeId

/-- What a response has no room for, by the sizes of the statuses, are none of concrete paths, and the
first of it is not of a write that succeeds, unless there is room for one of the same attribute that is
answered with success. -/
def Server.LosesNothing (srv : Server η ν) (ctx : InteractionContext) (h : η)
    (writes : List (Except ErrorCode AttributeData)) (buf : Slice) : Prop :=
  let plan := srv.writePlan ctx h {} 0 writes
  let taken := (course srv.limit WriteBlock.encode buf
    ⟨buf.octets.length - Server.writeHeadSize, 0⟩ plan).taken
  let left := planned (plan.drop taken.length)
  (∀ a ∈ left, ∀ b ∈ a.answers, concreteAt writes b.element = false) ∧
    ∀ a ∈ left.head?, ∀ resolved op, a.call = some (.write resolved op true) →
      ∃ t ∈ taken, t.1.Wrote resolved

/-- With room for all nothing is lost. -/
lemma Server.LosesNothing.of_room {srv : Server η ν} {ctx : InteractionContext} {h : η}
    {writes : List (Except ErrorCode AttributeData)} {buf : Slice}
    (hall : planned ((srv.writePlan ctx h {} 0 writes).drop (course srv.limit WriteBlock.encode buf
      ⟨buf.octets.length - Server.writeHeadSize, 0⟩ (srv.writePlan ctx h {} 0 writes)).taken.length) = []) :
    srv.LosesNothing ctx h writes buf := by
  unfold LosesNothing
  simp only [hall]
  exact ⟨fun _ ha => (List.not_mem_nil ha).elim, fun _ hcut => nomatch hcut⟩

/-! ## What the acts of a write are -/

/-- An act of a write is a status that reports no success, or a write and the status of its result. -/
inductive Act.OfWrite : Act WriteBlock → WriteBlock → Prop
  | status {b : WriteBlock} (hstatus : b.status.status ≠ .new .success) :
      Act.OfWrite (Server.statusAct b) b
  | write {resolved : Resolved} {path : AttributePath} (element : ℕ) (op : WriteOp)
      (result : Except Status Unit)
      (hpath : path.concrete = some (resolved.endpoint, resolved.cluster.id, resolved.attributeId)) :
      Act.OfWrite (Server.writeAct element resolved op path result)
        ⟨element, path, .new (Server.resultStatus result)⟩

namespace Act.OfWrite

variable {a : Act WriteBlock} {b : WriteBlock}

lemma early (h : a.OfWrite b) : a.early = false := by
  cases h <;> rfl

lemma answers (h : a.OfWrite b) : a.answers = [b] := by
  cases h <;> rfl

/-- A write that is made answers with success. -/
lemma wrote (h : a.OfWrite b) {resolved : Resolved} {op : WriteOp}
    (hcall : a.call = some (.write resolved op true)) : a.Wrote resolved := by
  cases h with
  | status => cases hcall
  | write element op result hpath =>
    cases result with
    | error status => cases hcall
    | ok _ =>
      cases hcall
      exact ⟨element, resolved, op, _, .ok (), rfl, rfl, rfl, rfl, rfl⟩

/-- The answer of an act says that an attribute was written exactly if the act is a write of it that is
answered so. -/
lemma reports_iff (h : a.OfWrite b) (resolved : Resolved) :
    (b.status.status = .new .success ∧ b.status.path.concrete =
        some (resolved.endpoint, resolved.cluster.id, resolved.attributeId)) ↔ a.Wrote resolved := by
  cases h with
  | status hstatus =>
    constructor
    · exact fun hreports => absurd hreports.1 hstatus
    · rintro ⟨_, _, _, _, _, hact, -⟩
      cases hact
  | @write written path element op result hpath =>
    have hsuccess : StatusIb.new (Server.resultStatus result) = .new .success ↔
        Server.resultStatus result = .success := by
      simp [StatusIb.new]
    constructor
    · rintro ⟨hstatus, hsame⟩
      obtain ⟨hendpoint, hcluster, hattribute⟩ := by simpa [hpath] using hsame
      exact ⟨element, written, op, path, result, rfl, hsuccess.mp hstatus, hendpoint, hcluster, hattribute⟩
    · rintro ⟨_, _, _, _, _, hact, hstatus, hendpoint, hcluster, hattribute⟩
      obtain rfl := (Call.write.inj (Option.some.inj (congrArg Act.call hact))).1
      have hanswer := (List.cons.inj (congrArg Act.answers hact)).1
      have hsame : Server.resultStatus result = _ := congrArg (fun b => b.status.status.status) hanswer
      exact ⟨hsuccess.mpr (hsame.trans hstatus), by rw [hpath, hendpoint, hcluster, hattribute]⟩

end Act.OfWrite

namespace Server

/-- A path that may not be written is not answered with success. -/
lemma ne_success_of_checkAccess {srv : Server η ν} {h : η} {carried : Bool} {path : AttributePath}
    {concrete : EndpointId × ClusterId × AttributeId} {status : Status}
    (hrefused : srv.checkAccess h carried path concrete = .error status) : status ≠ .success := by
  have hdenied : ∀ required, (if carried then none else (srv.allows h path required).status) =
      some status → status ≠ .success := by
    intro required hstatus
    split_ifs at hstatus
    cases hallows : srv.allows h path required <;> rw [hallows] at hstatus <;> cases hstatus <;> decide
  unfold checkAccess at hrefused
  simp only at hrefused
  split at hrefused
  · rename_i hview
    cases hrefused
    exact hdenied _ hview
  split at hrefused
  · rename_i missing _
    cases hrefused
    cases missing <;> decide
  split at hrefused
  · cases hrefused
    decide
  split at hrefused
  · cases hrefused
    decide
  split at hrefused
  · rename_i hwrite
    cases hrefused
    exact hdenied _ hwrite
  · cases hrefused

/-- A write that is refused is not answered with success. -/
lemma ne_success_of_checkWrite {srv : Server η ν} {h : η} {ctx : InteractionContext}
    {expected : Option UInt32} {resolved : Resolved} {descriptor : AttributeDescriptor} {status : Status}
    (hrefused : srv.checkWrite h ctx expected resolved descriptor = some status) :
    status ≠ .success := by
  unfold checkWrite at hrefused
  split_ifs at hrefused <;> cases hrefused <;> decide

lemma ofWrite_refused {element : ℕ} {path : AttributePath} {status : Status} (h : status ≠ .success) :
    (statusAct (⟨element, path, .new status⟩ : WriteBlock)).OfWrite ⟨element, path, .new status⟩ :=
  .status fun hsame => h (congrArg StatusIb.status hsame)

variable {data : AttributeData} {writes : List (Except ErrorCode AttributeData)} {element : ℕ}

variable (srv : Server η ν)

lemma concreteAct_ofWrite (h : η) (action : WriteAction) (element : ℕ)
    {concrete : EndpointId × ClusterId × AttributeId}
    (hconcrete : data.path.concrete = some concrete) (op : WriteOp) (ctx : InteractionContext) :
    ∃ status, (srv.concreteAct h action element data concrete op ctx).1.OfWrite
      ⟨element, data.path, status⟩ := by
  unfold concreteAct
  split
  · rename_i haccess
    exact ⟨_, ofWrite_refused (ne_success_of_checkAccess haccess)⟩
  rename_i haccess
  split
  · rename_i hwrite
    exact ⟨_, ofWrite_refused (ne_success_of_checkWrite hwrite)⟩
  · exact ⟨_, .write element op _ (concrete_of_checkAccess hconcrete haccess)⟩

lemma expandedActs_ofWrite (element : ℕ) (data : List UInt8) (op : WriteOp)
    (ctx : InteractionContext) (h : η) (rest : List Resolved) :
    ∀ a ∈ (srv.expandedActs element data op ctx h rest).1, ∃ b, b.element = element ∧ a.OfWrite b := by
  induction rest generalizing h with
  | nil => simp [expandedActs]
  | cons resolved rest ih =>
    unfold expandedActs
    split_ifs
    · exact List.forall_mem_cons.mpr ⟨⟨_, rfl, .write element op _ rfl⟩, ih _⟩
    · exact ih h

/-- A concrete path asks for one answer, with its path. -/
lemma writePathActs_of_concrete (h : η) (action : WriteAction) (element : ℕ)
    (hconcrete : data.path.concrete.isSome = true) (ctx : InteractionContext) :
    ∃ a status, (srv.writePathActs h action element data ctx).1 = [a] ∧
      a.OfWrite ⟨element, data.path, status⟩ := by
  have hrefused : ∃ a status, refusedActs element data.path = [a] ∧
      a.OfWrite ⟨element, data.path, status⟩ := by
    unfold refusedActs
    rw [if_pos hconcrete]
    exact ⟨_, _, rfl, ofWrite_refused (by decide)⟩
  unfold writePathActs
  split_ifs
  · exact hrefused
  cases WriteOp.of data.path with
  | none => exact hrefused
  | some op =>
    obtain ⟨concrete, hsome⟩ := Option.isSome_iff_exists.mp hconcrete
    simp only [hsome]
    obtain ⟨status, hact⟩ := srv.concreteAct_ofWrite h action element hsome op ctx
    exact ⟨_, status, rfl, hact⟩

lemma writePathActs_ofWrite (h : η) (action : WriteAction) (element : ℕ)
    (data : AttributeData) (ctx : InteractionContext) :
    ∀ a ∈ (srv.writePathActs h action element data ctx).1, ∃ b, b.element = element ∧ a.OfWrite b := by
  by_cases hconcrete : data.path.concrete.isSome = true
  · obtain ⟨a, status, hacts, hact⟩ := srv.writePathActs_of_concrete h action element hconcrete ctx
    rw [hacts, List.forall_mem_singleton]
    exact ⟨_, rfl, hact⟩
  · have hnone : data.path.concrete = none := by
      simpa using hconcrete
    have hrefused : refusedActs element data.path = [] := by
      unfold refusedActs
      rw [if_neg hconcrete]
    unfold writePathActs
    split_ifs
    · simp [hrefused]
    cases WriteOp.of data.path with
    | none => simp [hrefused]
    | some op =>
      simp only [hnone]
      exact srv.expandedActs_ofWrite element data.data op ctx h _

/-- Every act of a write request is one of a write. -/
lemma writePlan_ofWrite (ctx : InteractionContext) (h : η) (action : WriteAction)
    (element : ℕ) (writes : List (Except ErrorCode AttributeData)) :
    ∀ a ∈ planned (srv.writePlan ctx h action element writes), ∃ b, a.OfWrite b := by
  induction writes generalizing h action element with
  | nil => simp [writePlan, planned]
  | cons data writes ih =>
    cases data with
    | error e => exact ih h action (element + 1)
    | ok data =>
      rw [writePlan, planned_append, planned_ok, List.forall_mem_append]
      refine ⟨fun a ha => ?_, ih _ _ _⟩
      obtain ⟨b, -, hb⟩ := srv.writePathActs_ofWrite h action element data ctx a ha
      exact ⟨b, hb⟩

/-- The answers an element asks for are those to its path, if that is concrete. -/
lemma concreteAnswers_writePathActs (h : η) (action : WriteAction)
    (data : AttributeData) (ctx : InteractionContext) (hat : writes[element]? = some (.ok data)) :
    concreteAnswers writes ((srv.writePathActs h action element data ctx).1.flatMap Act.answers) =
      if data.path.concrete.isSome then [(element, data.path)] else [] := by
  have hconcreteAt : concreteAt writes element = data.path.concrete.isSome := by
    unfold concreteAt
    rw [hat]
    rfl
  unfold concreteAnswers
  split_ifs with hconcrete
  · obtain ⟨a, status, hacts, hact⟩ := srv.writePathActs_of_concrete h action element hconcrete ctx
    rw [hacts, List.flatMap_singleton, hact.answers, List.filter_singleton, hconcreteAt, hconcrete]
    rfl
  · rw [List.map_eq_nil_iff, List.filter_eq_nil_iff]
    intro b hb
    obtain ⟨a, ha, hb⟩ := List.mem_flatMap.mp hb
    obtain ⟨b', helement, hact⟩ := srv.writePathActs_ofWrite h action element data ctx a ha
    rw [hact.answers, List.mem_singleton] at hb
    rw [hb, helement, hconcreteAt]
    exact hconcrete

lemma concreteAnswers_append (xs ys : List WriteBlock) :
    concreteAnswers writes (xs ++ ys) = concreteAnswers writes xs ++ concreteAnswers writes ys := by
  unfold concreteAnswers
  rw [List.filter_append, List.map_append]

/-- A write request asks for one answer to each of its concrete paths, in their order. -/
lemma concreteAnswers_writePlan (ctx : InteractionContext) (h : η)
    (action : WriteAction) {rest : List (Except ErrorCode AttributeData)}
    (hrest : writes.drop element = rest) :
    concreteAnswers writes ((planned (srv.writePlan ctx h action element rest)).flatMap Act.answers) =
      concretePaths element rest := by
  induction rest generalizing h action element with
  | nil => rfl
  | cons data rest ih =>
    have hat : writes[element]? = some data := by
      have hzero := congrArg (·[0]?) hrest
      simpa using hzero
    have hnext : writes.drop (element + 1) = rest := by
      rw [← List.drop_drop, hrest]
      rfl
    cases data with
    | error e => exact ih h action hnext
    | ok data =>
      rw [writePlan, planned_append, planned_ok, List.flatMap_append, concreteAnswers_append,
        srv.concreteAnswers_writePathActs h action data ctx hat, ih _ _ hnext, concretePaths]
      split_ifs
      · rfl
      · rfl

end Server

/-! ## What the response holds -/

/-- A step of the writer leaves the device. -/
lemma acting_writing_of_ok {x : Writing Unit} {u : Unit} {s s' : ActState η ν β}
    (hrun : exec (Acting.writing x) s = (.ok u, s')) : (exec x s.packed.w).1 = .ok u ∧
      s' = { s with packed := { s.packed with w := (exec x s.packed.w).2 } } := by
  have hexec : exec (Acting.writing x) s = ((exec x s.packed.w).1,
      { s with packed := { s.packed with w := (exec x s.packed.w).2 } }) := rfl
  rw [hexec] at hrun
  exact ⟨(Prod.mk.inj hrun).1, (Prod.mk.inj hrun).2.symm⟩

namespace Server

variable {srv : Server η ν} {writes : List (Except ErrorCode AttributeData)}
  {ctx : InteractionContext} {moreChunked : Bool} {s s' : ActState η ν WriteBlock}
  {result : List UInt8 × ReadOutcome} {buf : Slice}

/-- A write request that is served performs what it asks for, behind the head of its response. -/
lemma serveWrite_of_ok (hrun : exec (srv.serveWrite writes ctx moreChunked buf) s = (.ok result, s')) :
    ∃ p : Packed WriteBlock, Filled buf p inReports ⟨buf.octets.length - writeHeadSize, 0⟩ ∧ p.blocks = [] ∧
      ∃ answered, (perform srv.limit WriteBlock.encode (srv.writePlan ctx s.handler {} 0 writes) p).1 =
          .ok answered ∧ s'.packed.blocks =
          (perform srv.limit WriteBlock.encode (srv.writePlan ctx s.handler {} 0 writes) p).2.1.blocks ∧
        s'.calls = s.calls ++
          (perform srv.limit WriteBlock.encode (srv.writePlan ctx s.handler {} 0 writes) p).2.2 := by
  unfold serveWrite at hrun
  obtain ⟨-, hrun⟩ := exec_require_bind_eq_ok.mp hrun
  rw [exec_modify_bind] at hrun
  obtain ⟨_, s₁, hhead, hrun⟩ := exec_bind_eq_ok.mp hrun
  obtain ⟨hwrote, rfl⟩ := acting_writing_of_ok hhead
  obtain ⟨truncated, s₂, hloop, hrun⟩ := exec_bind_eq_ok.mp hrun
  obtain ⟨hresult, hpacked, hcalls⟩ := srv.serveWrites_carries ctx 0 writes _
  rw [hloop] at hresult hpacked hcalls
  obtain ⟨_, s₃, htail, hrun⟩ := exec_bind_eq_ok.mp hrun
  obtain ⟨-, rfl⟩ := acting_writing_of_ok htail
  rw [exec_get_bind] at hrun
  obtain ⟨bytes, s₄, hfinish, hrun⟩ := exec_bind_eq_ok.mp hrun
  rw [exec_ofResult] at hfinish
  obtain ⟨-, rfl⟩ := Prod.mk.inj hfinish
  cases hrun
  obtain ⟨hfits, hfull⟩ := (Filled.new (β := WriteBlock) buf).write costs_writeHead
  by_cases hle : writeHeadSize ≤ buf.octets.length
  swap
  · obtain ⟨w', hwrite⟩ := hfull hle
    simp only [hwrite] at hwrote
    cases hwrote
  obtain ⟨w', hwrite, hfilled⟩ := hfits hle
  simp only [hwrite] at hresult hpacked hcalls
  have hblocks := congrArg Packed.blocks hpacked
  refine ⟨_, hfilled, rfl, !truncated, ?_, hblocks, hcalls⟩
  generalize (perform srv.limit WriteBlock.encode _ _).1 = performed at hresult ⊢
  cases performed with
  | error e => cases hresult
  | ok answered =>
    cases hresult
    simp

/-- What a served write request leaves, by the sizes of its answers: the answers that have room, and the
calls of the acts they answer and of the first one that has none. -/
lemma served_of_ok {c : Course WriteBlock}
    (hcourse : course srv.limit WriteBlock.encode buf ⟨buf.octets.length - writeHeadSize, 0⟩
      (srv.writePlan ctx s.handler {} 0 writes) = c)
    (hrun : exec (srv.serveWrite writes ctx moreChunked buf) s = (.ok result, s')) :
    s'.packed.blocks = c.taken.map Prod.snd ∧ (∀ t ∈ c.taken, t.1.OfWrite t.2) ∧
      ∀ call, call ∈ s'.calls ↔ call ∈ s.calls ∨ (∃ t ∈ c.taken, t.1.call = some call) ∨
        ∃ a ∈ (planned ((srv.writePlan ctx s.handler {} 0 writes).drop c.taken.length)).head?,
          a.call = some call := by
  obtain ⟨p, hp, hempty, answered, hresult, hblocks, hcalls⟩ := serveWrite_of_ok hrun
  have hacts := srv.writePlan_ofWrite ctx s.handler {} 0 writes
  generalize srv.writePlan ctx s.handler {} 0 writes = plan at *
  have hperformed : Performed srv.limit buf p (course srv.limit WriteBlock.encode buf _ plan) _ :=
    perform_course balanced_writeBlock plan hp
  obtain ⟨-, hstop⟩ := course_plan plan ⟨buf.octets.length - writeHeadSize, 0⟩
  have hwhole := planned_course srv.limit WriteBlock.encode buf ⟨buf.octets.length - writeHeadSize, 0⟩ plan
  rw [hcourse] at hperformed hstop hwhole
  obtain ⟨hmade, hyields, hpacked, hanswers⟩ := hperformed
  rw [hwhole, List.forall_mem_append] at hacts
  have htaken : ∀ t ∈ c.taken, t.1.OfWrite t.2 := by
    intro t ht
    obtain ⟨b, hact⟩ := hacts.1 t.1 (List.mem_map_of_mem ht)
    have hanswer := hanswers t ht
    rw [hact.answers, List.mem_singleton] at hanswer
    exact hanswer ▸ hact
  -- Serving ended in order, so the plan is at its end or at an act that found no room.
  have hlast : ∀ call, call ∈ c.stop.calls srv.limit ↔
      ∃ a ∈ (planned (plan.drop c.taken.length)).head?, a.call = some call := by
    intro call
    rw [hresult] at hyields
    rcases hend : c.stop with m | ⟨m, a⟩ | _ | a <;> rw [hend] at hstop hyields
    · rw [hstop]
      exact ⟨fun h => (List.not_mem_nil h).elim, fun h => by simp [planned] at h⟩
    · obtain ⟨rest, hrest⟩ := hstop
      have hhead : planned (plan.drop c.taken.length) = a :: planned rest := by
        rw [hrest]
        rfl
      obtain ⟨b, hact⟩ := hacts.2 a (by rw [hhead]; exact List.mem_cons_self)
      rw [hhead, Stop.calls, if_neg (fun h => Bool.false_ne_true (hact.early.symm.trans h.1))]
      simp
    · obtain ⟨e, he⟩ := hyields
      cases he
    · obtain ⟨e, he⟩ := hyields
      cases he
  refine ⟨?_, htaken, fun call => ?_⟩
  · rw [hblocks, hpacked (by rw [hresult]; rfl), hempty, List.nil_append]
  · rw [hcalls, hmade, List.mem_append, List.mem_append, hlast]
    simp

/-- A served write request has a status for every write that a cluster made, and one for each of its
concrete paths in their order, exactly if the statuses that have no room are answers to wildcards, the
first of them not to a write that was made and is reported nowhere else. -/
theorem writes_reported_iff (srv : Server η ν) (writes : List (Except ErrorCode AttributeData))
    (ctx : InteractionContext) (moreChunked : Bool) (buf : Slice) (s s' : ActState η ν WriteBlock)
    (result : List UInt8 × ReadOutcome) (hcalls : s.calls = [])
    (hrun : exec (srv.serveWrite writes ctx moreChunked buf) s = (.ok result, s')) :
    WritesReported s'.calls s'.packed.blocks ∧
        concreteAnswers writes s'.packed.blocks = concretePaths 0 writes ↔
      srv.LosesNothing ctx s.handler writes buf := by
  obtain ⟨c, hcourse⟩ : ∃ c, course srv.limit WriteBlock.encode buf
    ⟨buf.octets.length - writeHeadSize, 0⟩ (srv.writePlan ctx s.handler {} 0 writes) = c := ⟨_, rfl⟩
  unfold LosesNothing
  simp only [hcourse]
  obtain ⟨hblocks, htaken, hmade⟩ := served_of_ok hcourse hrun
  have hwhole := planned_course srv.limit WriteBlock.encode buf ⟨buf.octets.length - writeHeadSize, 0⟩
    (srv.writePlan ctx s.handler {} 0 writes)
  have horder := srv.concreteAnswers_writePlan ctx s.handler {} (List.drop_zero (l := writes))
  rw [hcourse] at hwhole
  have hanswers : (c.taken.map Prod.fst).flatMap Act.answers = c.taken.map Prod.snd := by
    rw [List.flatMap_map, List.flatMap_congr fun t ht => (htaken t ht).answers]
    exact List.flatMap_pure_eq_map _ _
  rw [hwhole, List.flatMap_append, hanswers, concreteAnswers_append] at horder
  rw [hblocks, and_comm]
  refine and_congr ?_ ?_
  · -- The concrete paths are all answered exactly if the rest of the plan has no answer to one.
    rw [← horder, List.self_eq_append_right, concreteAnswers, List.map_eq_nil_iff, List.filter_eq_nil_iff]
    simp only [List.mem_flatMap, Bool.not_eq_true]
    constructor
    · intro hnone a ha b hb
      exact hnone b ⟨a, ha, hb⟩
    · rintro hnone b ⟨a, ha, hb⟩
      exact hnone a ha b hb
  · -- Every write that has room is reported; the one behind them only by another.
    have hreported : ∀ resolved, SuccessFor (c.taken.map Prod.snd) resolved ↔
        ∃ t ∈ c.taken, t.1.Wrote resolved := by
      intro resolved
      simp only [SuccessFor, List.mem_map, exists_exists_and_eq_and]
      exact exists_congr fun t => and_congr_right fun ht => (htaken t ht).reports_iff resolved
    constructor
    · intro hwrites a ha resolved op hcall
      exact (hreported resolved).mp (hwrites resolved op ((hmade _).mpr (.inr (.inr ⟨a, ha, hcall⟩))))
    · intro hlast resolved op hcall
      refine (hreported resolved).mpr ?_
      rcases (hmade _).mp hcall with hbefore | ⟨t, ht, hcall⟩ | ⟨a, ha, hcall⟩
      · rw [hcalls] at hbefore
        cases hbefore
      · exact ⟨t, ht, (htaken t ht).wrote hcall⟩
      · exact hlast a ha resolved op hcall

end Server

namespace Lamp

/-- A write of an attribute of a lamp. -/
def set (id : AttributeId) : Except ErrorCode AttributeData := .ok ⟨none, .ofIds 1 6 id, [0x24, 2, 1]⟩

/-- A lamp before a request. -/
def idle : ActState Lamp (DataVersions 4) WriteBlock :=
  ⟨⟨TlvWriter.new (room 96 room_96), 0, []⟩, {}, .new 0, {}, []⟩

/-- A write of both attributes of a lamp, with room for a number of statuses. -/
def setBoth (limit : ℕ) : Except ErrorCode (List UInt8 × ReadOutcome) ×
    ActState Lamp (DataVersions 4) WriteBlock :=
  exec ((server limit).serveWrite [set 0, set 1] {} false (room 96 room_96)) idle

end Lamp

/-- With room for two statuses a lamp that is written twice says so. -/
theorem writes_reported_lamp : WritesReported (Lamp.setBoth 2).2.calls (Lamp.setBoth 2).2.packed.blocks ∧
      concreteAnswers [Lamp.set 0, Lamp.set 1] (Lamp.setBoth 2).2.packed.blocks =
        concretePaths 0 [Lamp.set 0, Lamp.set 1] := by
  obtain ⟨result, hok⟩ : ∃ result, (Lamp.setBoth 2).1 = .ok result := by
    have hisOk : (Lamp.setBoth 2).1.isOk = true := by decide +kernel
    generalize (Lamp.setBoth 2).1 = run at hisOk
    cases run with
    | error e => cases hisOk
    | ok result => exact ⟨result, rfl⟩
  have hleft : (planned (((Lamp.server 2).writePlan {} {} {} 0 [Lamp.set 0, Lamp.set 1]).drop
      (course 2 WriteBlock.encode (Lamp.room 96 (by decide)) ⟨93, 0⟩
        ((Lamp.server 2).writePlan {} {} {} 0 [Lamp.set 0, Lamp.set 1])).taken.length)).length = 0 := by
    decide +kernel
  have hrun : Lamp.setBoth 2 = (.ok result, (Lamp.setBoth 2).2) := by
    rw [← hok]
  refine (Server.writes_reported_iff (Lamp.server 2) [Lamp.set 0, Lamp.set 1] {} false
    (Lamp.room 96 (by decide)) Lamp.idle (Lamp.setBoth 2).2 result rfl hrun).mpr ?_
  exact .of_room (List.length_eq_zero_iff.mp hleft)

/-- With room for one status the second write is made and nothing says so. -/
theorem second_write_unreported : (Lamp.setBoth 1).1.isOk = true ∧
      ¬ (WritesReported (Lamp.setBoth 1).2.calls (Lamp.setBoth 1).2.packed.blocks ∧
        concreteAnswers [Lamp.set 0, Lamp.set 1] (Lamp.setBoth 1).2.packed.blocks =
          concretePaths 0 [Lamp.set 0, Lamp.set 1]) ∧ (Lamp.setBoth 1).2.handler = ⟨1, 1⟩ := by
  refine ⟨by decide +kernel, ?_, by decide +kernel⟩
  rintro ⟨-, hanswers⟩
  revert hanswers
  decide +kernel

end MatterKit.Im
