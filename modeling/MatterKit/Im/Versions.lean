import MatterKit.Im.Acts
import MatterKit.Im.Serving

/-!
# Optimistic concurrency

A report gives a cluster's data version, and a write may carry the version it was computed against; it
is then refused if the cluster has another one by now. The check of a write asks the cluster only: of a
cluster in the table it takes every version, however old (`stale_write_accepted`).

For a cluster that keeps its own version and moves it with every success, the check is sound over any
interleaving of clients (`stale_write_refused`).
-/

namespace MatterKit.Im

open Lib Machine Tlv Dm

variable {η ν β : Type}

/-! ## What the calls of an action do -/

/-- A relation that a device is moved along by the calls of its clusters: it holds of the calls, and
of every step that makes none. -/
structure CallsMove (srv : Server η ν) (R : η × List Call → η × List Call → Prop) : Prop where
  refl : ∀ d, R d d
  trans : ∀ d₁ d₂ d₃, R d₁ d₂ → R d₂ d₃ → R d₁ d₃
  write : ∀ h calls resolved data op ctx,
    R (h, calls) ((srv.write h resolved data op ctx).2,
      calls ++ [.write resolved op (srv.write h resolved data op ctx).1.isOk])
  invoke : ∀ h calls resolved fields ctx w tag,
    R (h, calls) ((srv.invoke h resolved fields ctx w tag).2.2,
      calls ++ [.invoke resolved (srv.invoke h resolved fields ctx w tag).1.isOk])

/-- The relation on what an action works on. -/
def OnDevice (R : η × List Call → η × List Call → Prop) (s s' : ActState η ν β) : Prop :=
  R (s.handler, s.calls) (s'.handler, s'.calls)

namespace CallsMove

variable {srv : Server η ν} {R : η × List Call → η × List Call → Prop} (hR : CallsMove srv R)

include hR

lemma quiet {α : Type} {x : Acting η ν β α}
    (hx : ∀ s, (exec x s).2.handler = s.handler ∧ (exec x s).2.calls = s.calls) : Moves (OnDevice R) x := by
  intro s
  unfold OnDevice
  rw [(hx s).1, (hx s).2]
  exact hR.refl _

lemma bind {α γ : Type} {x : Acting η ν β α} {f : α → Acting η ν β γ} (hx : Moves (OnDevice R) x)
    (hf : ∀ a, Moves (OnDevice R) (f a)) : Moves (OnDevice R) (x >>= f) := by
  have : IsTrans (ActState η ν β) (OnDevice R) := ⟨fun s₁ s₂ s₃ => hR.trans _ _ _⟩
  exact Moves.bind hx hf

lemma pure {α : Type} (a : α) : Moves (OnDevice R) (Pure.pure a : Acting η ν β α) :=
  hR.quiet fun _ => ⟨rfl, rfl⟩

lemma writing (x : Writing Unit) : Moves (OnDevice R) (Acting.writing x : Acting η ν β Unit) :=
  hR.quiet fun _ => ⟨rfl, rfl⟩

lemma put (limit : ℕ) (encode : β → Writing Unit) (b : β) :
    Moves (OnDevice R) (Acting.put limit encode b : Acting η ν β Bool) :=
  hR.quiet fun _ => ⟨rfl, rfl⟩

lemma touch (versions : Option (DataVersionSource ν)) (endpoint : EndpointId) (cluster : ClusterId) :
    Moves (OnDevice R) (Acting.touch versions endpoint cluster : Acting η ν β Unit) := by
  refine hR.quiet fun s => ?_
  obtain ⟨v, hv⟩ := Server.exec_touch versions endpoint cluster s
  rw [hv]
  exact ⟨rfl, rfl⟩

lemma callWrite (resolved : Resolved) (data : List UInt8) (op : WriteOp) (ctx : InteractionContext) :
    Moves (OnDevice R) (srv.callWrite resolved data op ctx) :=
  fun s => hR.write s.handler s.calls resolved data op ctx

lemma callInvoke (resolved : ResolvedCommand) (fields : Option (List UInt8))
    (ctx : InteractionContext) (scratch : Slice) :
    Moves (OnDevice R) (srv.callInvoke resolved fields ctx scratch) :=
  fun s => hR.invoke s.handler s.calls resolved fields ctx _ _

lemma concreteStatus (data : AttributeData) (concrete : EndpointId × ClusterId × AttributeId)
    (op : WriteOp) (ctx : InteractionContext) :
    Moves (OnDevice R) (srv.concreteStatus data concrete op ctx) := by
  apply Moves.get
  intro s
  split
  · exact hR.pure _ s
  refine hR.bind (hR.quiet fun _ => ⟨rfl, rfl⟩) (fun _ => ?_) s
  split
  · exact hR.pure _
  refine hR.bind (hR.callWrite _ _ _ _) fun result => ?_
  cases result with
  | error status => exact hR.pure _
  | ok _ => exact hR.bind (hR.touch _ _ _) fun _ => hR.pure _

lemma writeExpanded (element : ℕ) (data : List UInt8) (op : WriteOp) (ctx : InteractionContext)
    (rest : List Resolved) : Moves (OnDevice R) (srv.writeExpanded element data op ctx rest) := by
  induction rest with
  | nil => exact hR.pure true
  | cons resolved rest ih =>
    apply Moves.get
    intro s
    split_ifs
    · refine hR.bind (hR.callWrite _ _ _ _) (fun result => hR.bind (hR.put _ _ _) fun fitted => ?_) s
      cases fitted with
      | true => exact ih
      | false => exact hR.pure false
    · exact ih s

lemma serveWritePath (element : ℕ) (data : AttributeData) (ctx : InteractionContext) :
    Moves (OnDevice R) (srv.serveWritePath element data ctx) := by
  have hrefused : Moves (OnDevice R) (srv.refusePath element data.path) := by
    unfold Server.refusePath
    split_ifs
    · exact hR.put _ _ _
    · exact hR.pure true
  unfold Server.serveWritePath
  split_ifs
  · exact hrefused
  split
  · exact hrefused
  split
  · exact hR.bind (hR.concreteStatus data _ _ ctx) fun status => hR.put _ _ _
  · exact hR.writeExpanded element _ _ ctx _

lemma serveWrites (ctx : InteractionContext) (element : ℕ)
    (writes : List (Except ErrorCode AttributeData)) :
    Moves (OnDevice R) (srv.serveWrites ctx element writes) := by
  induction writes generalizing element with
  | nil => exact hR.pure false
  | cons data writes ih =>
    refine hR.bind (hR.quiet fun _ => ⟨rfl, rfl⟩) fun d =>
      hR.bind (hR.serveWritePath element d ctx) fun fitted => ?_
    cases fitted with
    | true => exact ih (element + 1)
    | false => exact hR.pure true

lemma closing (truncated : Bool) : Moves (OnDevice R) (do
    let s ← get
    let bytes ← ofResult s.packed.w.finish
    Pure.pure (bytes, ⟨s.packed.responses, truncated, 0⟩) :
      Acting η ν β (List UInt8 × ReadOutcome)) := by
  apply Moves.get
  intro s
  exact hR.bind (hR.quiet fun _ => ⟨rfl, rfl⟩) (fun bytes => hR.pure _) s

lemma serveWrite (writes : List (Except ErrorCode AttributeData)) (ctx : InteractionContext)
    (moreChunked : Bool) (buf : Slice) :
    Moves (OnDevice R) (srv.serveWrite writes ctx moreChunked buf) := by
  have hcheck : Moves (OnDevice R) (require (¬ (moreChunked = true ∧ ctx.timed = true))
      ErrorCode.invalidAction : Acting η ν WriteBlock Unit) := by
    refine hR.quiet fun s => ?_
    unfold require
    split_ifs
    · exact ⟨rfl, rfl⟩
    · exact ⟨rfl, rfl⟩
  refine hR.bind hcheck fun _ => hR.bind (hR.quiet fun _ => ⟨rfl, rfl⟩) fun _ =>
    hR.bind (hR.writing _) fun _ => hR.bind (hR.serveWrites ctx 0 writes) fun truncated =>
    hR.bind (hR.writing _) fun _ => hR.closing truncated

lemma runCommand (resolved : ResolvedCommand) (command : CommandData) (ctx : InteractionContext)
    (scratch : Slice) : Moves (OnDevice R) (srv.runCommand resolved command ctx scratch) := by
  apply Moves.get
  intro s
  split_ifs
  · exact hR.pure false s
  refine hR.bind (hR.callInvoke _ _ _ _) (fun called => ?_) s
  have hanswer : Moves (OnDevice R) (srv.answerCommand resolved command called.1 called.2) := by
    refine hR.quiet fun s => ?_
    rw [srv.exec_answerCommand]
    exact ⟨rfl, rfl⟩
  simp only
  split_ifs
  · exact hR.bind (hR.touch _ _ _) fun _ => hanswer
  · exact hanswer

lemma invokeExpanded (command : CommandData) (ctx : InteractionContext) (scratch : Slice)
    (rest : List ResolvedCommand) : Moves (OnDevice R) (srv.invokeExpanded command ctx scratch rest) := by
  induction rest with
  | nil => exact hR.pure true
  | cons resolved rest ih =>
    apply Moves.get
    intro s
    split_ifs
    · refine hR.bind (hR.runCommand _ _ _ _) (fun fitted => ?_) s
      cases fitted with
      | true => exact ih
      | false => exact hR.pure false
    · exact ih s

lemma serveInvokeCommand (command : CommandData) (ctx : InteractionContext) (scratch : Slice) :
    Moves (OnDevice R) (srv.serveInvokeCommand command ctx scratch) := by
  unfold Server.serveInvokeCommand
  split
  · apply Moves.get
    intro s
    split
    · exact hR.put _ _ _ s
    · exact hR.runCommand _ _ _ _ s
  · exact hR.invokeExpanded command ctx scratch _

lemma serveInvoke (commands : List (Except ErrorCode CommandData)) (ctx : InteractionContext)
    (suppressResponse : Bool) (scratch buf : Slice) :
    Moves (OnDevice R) (srv.serveInvoke commands ctx suppressResponse scratch buf) := by
  have hcommands : Moves (OnDevice R) (srv.serveCommands ctx scratch commands) := by
    induction commands with
    | nil => exact hR.pure false
    | cons command commands ih =>
      refine hR.bind (hR.quiet fun _ => ⟨rfl, rfl⟩) fun c =>
        hR.bind (hR.serveInvokeCommand c ctx scratch) fun fitted => ?_
      cases fitted with
      | true => exact ih
      | false => exact hR.pure true
  exact hR.bind (hR.quiet fun _ => ⟨rfl, rfl⟩) fun _ => hR.bind (hR.writing _) fun _ =>
    hR.bind hcommands fun truncated => hR.bind (hR.writing _) fun _ => hR.closing truncated

end CallsMove

/-! ## Requests of clients -/

/-- A device, and the calls its clusters have had. -/
structure Device (η ν : Type) where
  handler : η
  versions : ν
  calls : List Call

/-- What a client asks a device for. -/
inductive Asked
  | read (paths : List (Except ErrorCode AttributePath)) (events : List (Except ErrorCode EventPath))
      (ctx : InteractionContext) (cursor : ReadCursor) (scratch buf : Slice)
  | write (writes : List (Except ErrorCode AttributeData)) (ctx : InteractionContext)
      (moreChunked : Bool) (buf : Slice)
  | invoke (commands : List (Except ErrorCode CommandData)) (ctx : InteractionContext)
      (suppressResponse : Bool) (scratch buf : Slice)

/-- A request of a client: what it may do, and what it asks for. -/
structure ClientRequest (η : Type) where
  allows : η → AttributePath → Privilege → Outcome
  asked : Asked

namespace Device

variable (srv : Server η ν)

/-- The state an action of a client starts in. -/
def acting (d : Device η ν) (buf : Slice) : ActState η ν β :=
  ⟨⟨TlvWriter.new buf, 0, []⟩, d.handler, d.versions, {}, d.calls⟩

/-- A message of a read. -/
def reading (d : Device η ν) (paths : List (Except ErrorCode AttributePath))
    (events : List (Except ErrorCode EventPath)) (ctx : InteractionContext) (cursor : ReadCursor)
    (scratch buf : Slice) : Except ErrorCode (List UInt8 × ReadOutcome) × ReadState ν :=
  exec (srv.serveChunkWithEvents d.handler paths events ctx none scratch buf)
    ⟨⟨TlvWriter.new buf, 0, []⟩, cursor, d.versions⟩

/-- Serves a request. -/
def serve (d : Device η ν) (r : ClientRequest η) : Device η ν :=
  let srv := { srv with allows := r.allows }
  match r.asked with
  | .read paths events ctx cursor scratch buf =>
    { d with versions := (d.reading srv paths events ctx cursor scratch buf).2.versions }
  | .write writes ctx moreChunked buf =>
    let s := (exec (srv.serveWrite writes ctx moreChunked buf) (d.acting buf)).2
    ⟨s.handler, s.versions, s.calls⟩
  | .invoke commands ctx suppressResponse scratch buf =>
    let s := (exec (srv.serveInvoke commands ctx suppressResponse scratch buf) (d.acting buf)).2
    ⟨s.handler, s.versions, s.calls⟩

variable {R : η × List Call → η × List Call → Prop}

/-- What holds of every call holds of every request. -/
lemma serve_moves (hR : ∀ allows, CallsMove { srv with allows := allows } R) (d : Device η ν)
    (r : ClientRequest η) :
    R (d.handler, d.calls) ((d.serve srv r).handler, (d.serve srv r).calls) := by
  unfold serve
  cases r.asked with
  | read paths events ctx cursor scratch buf => exact (hR r.allows).refl _
  | write writes ctx moreChunked buf =>
    exact (hR r.allows).serveWrite writes ctx moreChunked buf (d.acting buf)
  | invoke commands ctx suppressResponse scratch buf =>
    exact (hR r.allows).serveInvoke commands ctx suppressResponse scratch buf (d.acting buf)

lemma run_moves (hR : ∀ allows, CallsMove { srv with allows := allows } R) (d : Device η ν)
    (requests : List (ClientRequest η)) :
    R (d.handler, d.calls) ((requests.foldl (Device.serve srv) d).handler,
      (requests.foldl (Device.serve srv) d).calls) := by
  induction requests generalizing d with
  | nil => exact (hR srv.allows).refl _
  | cons r requests ih =>
    exact (hR srv.allows).trans _ _ _ (d.serve_moves srv hR r) (ih (d.serve srv r))

end Device

/-! ## Clusters that keep their version -/

/-- A call that succeeded on a cluster instance. -/
def Call.succeededOn (e : EndpointId) (c : ClusterId) : Call → Bool
  | .write resolved _ ok | .invoke resolved ok => ok && resolved.endpoint == e && resolved.cluster.id == c

/-- How many calls succeeded on a cluster instance. -/
def successes (e : EndpointId) (c : ClusterId) (calls : List Call) : ℕ :=
  calls.countP (Call.succeededOn e c)

/-- A cluster instance keeps its own data version: it reports one, every success on it moves it by one,
and nothing else does. -/
structure KeepsVersion (srv : Server η ν) (e : EndpointId) (c : ClusterId) (own : η → UInt32) :
    Prop where
  reported : ∀ h resolved, resolved.endpoint = e → resolved.cluster.id = c →
    srv.dataVersion h resolved = some (own h)
  write : ∀ h resolved data op ctx, own (srv.write h resolved data op ctx).2 = own h +
    if Call.succeededOn e c (.write resolved op (srv.write h resolved data op ctx).1.isOk) then 1 else 0
  invoke : ∀ h resolved fields ctx w tag, own (srv.invoke h resolved fields ctx w tag).2.2 = own h +
    if Call.succeededOn e c (.invoke resolved (srv.invoke h resolved fields ctx w tag).1.isOk) then 1
      else 0

/-- The version is moved by the successes among the calls. -/
def MovedBySuccesses (e : EndpointId) (c : ClusterId) (own : η → UInt32) (d d' : η × List Call) : Prop :=
  ∃ new, d'.2 = d.2 ++ new ∧ own d'.1 = own d.1 + UInt32.ofNat (successes e c new)

namespace KeepsVersion

variable {srv : Server η ν} {e : EndpointId} {c : ClusterId} {own : η → UInt32}

lemma callsMove (hkeeps : KeepsVersion srv e c own) (allows : η → AttributePath → Privilege → Outcome) :
    CallsMove { srv with allows := allows } (MovedBySuccesses e c own) where
  refl := fun d => ⟨[], (List.append_nil _).symm, by simp [successes]⟩
  trans := by
    rintro d₁ d₂ d₃ ⟨new, hcalls, hown⟩ ⟨new', hcalls', hown'⟩
    refine ⟨new ++ new', by rw [hcalls', hcalls, List.append_assoc], ?_⟩
    rw [hown', hown]
    unfold successes
    rw [List.countP_append, UInt32.ofNat_add, UInt32.add_assoc]
  write := by
    intro h calls resolved data op ctx
    refine ⟨_, rfl, ?_⟩
    rw [hkeeps.write h resolved data op ctx]
    unfold successes
    rw [List.countP_singleton]
    split_ifs
    · rfl
    · rfl
  invoke := by
    intro h calls resolved fields ctx w tag
    refine ⟨_, rfl, ?_⟩
    rw [hkeeps.invoke h resolved fields ctx w tag]
    unfold successes
    rw [List.countP_singleton]
    split_ifs
    · rfl
    · rfl

end KeepsVersion

/-! ## Reads -/

/-- A block that reports a version of a cluster instance. -/
def Block.Reports (e : EndpointId) (c : ClusterId) (v : UInt32) : Block → Prop
  | .attribute (.data d) => d.path.endpoint = some e ∧ d.path.cluster = some c ∧ d.dataVersion = some v
  | .item version path _ => path.endpoint = some e ∧ path.cluster = some c ∧ version = some v
  | _ => False

lemma Block.From.reports {resolved : Resolved} {dataVersion : Option UInt32} {b : Block}
    {e : EndpointId} {c : ClusterId} {v : UInt32} (hfrom : b.From resolved.path dataVersion)
    (hreports : b.Reports e c v) :
    resolved.endpoint = e ∧ resolved.cluster.id = c ∧ dataVersion = some v := by
  cases b with
  | «attribute» report =>
    cases report with
    | status s => exact hreports.elim
    | data d =>
      obtain ⟨he, hc, hv⟩ := hreports
      rw [hfrom.1] at he hc
      exact ⟨Option.some.inj he, Option.some.inj hc, hfrom.2 ▸ hv⟩
  | item version path bytes =>
    obtain ⟨he, hc, hv⟩ := hreports
    rw [hfrom.1] at he hc
    exact ⟨Option.some.inj he, Option.some.inj hc, hfrom.2 ▸ hv⟩
  | event report => exact hreports.elim

/-- A read reports the version that a cluster keeps. -/
lemma KeepsVersion.reported_of_read {srv : Server η ν} {e : EndpointId} {c : ClusterId}
    {own : η → UInt32} (hkeeps : KeepsVersion srv e c own)
    (allows : η → AttributePath → Privilege → Outcome) (d : Device η ν)
    {paths : List (Except ErrorCode AttributePath)} {events : List (Except ErrorCode EventPath)}
    {ctx : InteractionContext} {cursor : ReadCursor} {scratch buf : Slice} {b : Block} {v : UInt32}
    (hb : b ∈ (d.reading { srv with allows := allows } paths events ctx cursor scratch
      buf).2.packed.blocks) (hreports : b.Reports e c v) : v = own d.handler := by
  have hdata : ∀ resolved, Moves (Adds fun b => b.Reports e c v → v = own d.handler)
      (Server.writeData { srv with allows := allows } d.handler resolved ctx scratch) := by
    intro resolved s
    refine (Server.writeData_from { srv with allows := allows } d.handler ctx scratch resolved s).mono ?_
    intro b hfrom hreports
    obtain ⟨he, hc, hv⟩ := hfrom.reports hreports
    unfold Server.reportedVersion at hv
    simp only [hkeeps.reported d.handler resolved he hc] at hv
    exact (Option.some.inj hv).symm
  revert hreports
  refine Server.serveChunkWithEvents_blocks (P := fun b => b.Reports e c v → v = own d.handler)
    { srv with allows := allows } d.handler ctx scratch ?_ ?_ none buf _ b hb
  · intro path _
    unfold Server.servePathChunked
    split_ifs
    · exact Server.writeStatus_adds _ path _ fun h => h.elim
    · exact Moves.pure true
    · split
      · exact Server.serveConcrete_adds _ d.handler ctx scratch (fun _ h => h.elim)
          fun resolved _ => hdata resolved
      · apply Moves.get
        intro s
        exact Server.serveExpanded_adds _ d.handler ctx scratch (fun entry _ _ => hdata entry.2) s
  · intro path _ since
    refine adds_mono ?_ (Server.serveEventPath_adds { srv with allows := allows } d.handler ctx path since)
    rintro b (⟨status, rfl⟩ | ⟨_, -, -, _, -, _, rfl⟩) h
    · exact h.elim
    · exact h.elim

/-! ## Stale writes -/

/-- A concrete write that would be made if it carried no version. -/
structure Server.Admits (srv : Server η ν) (h : η) (action : WriteAction) (data : AttributeData)
    (ctx : InteractionContext) (named : EndpointId × ClusterId × AttributeId) : Prop where
  plain : data.path.enableTagCompression = false
  op : (WriteOp.of data.path).isSome = true
  concrete : data.path.concrete = some named
  access : ∃ resolved descriptor,
    srv.checkAccess h (action.alreadyGranted named) data.path named = .ok (resolved, descriptor) ∧
      srv.checkWrite h ctx none resolved descriptor = none

/-- A write whose version is not the cluster's is answered so, and not made. -/
lemma Server.Admits.refused {srv : Server η ν} {e : EndpointId} {c : ClusterId} {a : AttributeId}
    {own : η → UInt32} (hkeeps : KeepsVersion srv e c own) {s : ActState η ν WriteBlock}
    {data : AttributeData} {ctx : InteractionContext}
    (hadmits : srv.Admits s.handler s.action data ctx (e, c, a)) {v : UInt32}
    (hversion : data.dataVersion = some v) (hstale : v ≠ own s.handler) (element : ℕ) :
    exec (srv.serveWritePath element data ctx) s =
      exec (srv.writeResponseStatus element data.path .dataVersionMismatch)
        { s with action := .grant (e, c, a) } := by
  obtain ⟨hplain, hop, hconcrete, resolved, descriptor, haccess, hcheck⟩ := hadmits
  obtain ⟨op, hop⟩ := Option.isSome_iff_exists.mp hop
  have hids := Server.concrete_of_checkAccess hconcrete haccess
  rw [hconcrete] at hids
  obtain ⟨he, hc⟩ : e = resolved.endpoint ∧ c = resolved.cluster.id := by
    simpa using And.intro (congrArg (·.1) (Option.some.inj hids))
      (congrArg (·.2.1) (Option.some.inj hids))
  have hold : srv.stale s.handler data.dataVersion resolved = true := by
    unfold stale
    rw [hversion, hkeeps.reported s.handler resolved he.symm hc.symm]
    exact bne_iff_ne.mpr hstale
  have hmismatch : srv.checkWrite s.handler ctx data.dataVersion resolved descriptor =
      some .dataVersionMismatch := by
    unfold checkWrite at hcheck ⊢
    rw [if_pos hold]
    split_ifs at hcheck ⊢
    rfl
  unfold serveWritePath
  rw [if_neg (by simp [hplain]), hop, hconcrete]
  have hstatus : exec (srv.concreteStatus data (e, c, a) op ctx) s =
      (.ok .dataVersionMismatch, { s with action := .grant (e, c, a) }) := by
    unfold concreteStatus
    rw [exec_get_bind, haccess]
    simp only
    rw [exec_modify_bind, hmismatch]
    rfl
  exact exec_bind_ok hstatus _

/-- A cluster keeps its own version. A read reports it, any requests of any clients follow, and then a
write request carries it. If a write or a command succeeded on the cluster in between, and fewer than
the version has values, then the write is answered with a mismatch and the cluster is not called. -/
theorem stale_write_refused (srv : Server η ν) (e : EndpointId) (c : ClusterId) (a : AttributeId)
    (own : η → UInt32) (hkeeps : KeepsVersion srv e c own) (d : Device η ν)
    (reader writer : η → AttributePath → Privilege → Outcome)
    (paths : List (Except ErrorCode AttributePath)) (events : List (Except ErrorCode EventPath))
    (readCtx : InteractionContext) (cursor : ReadCursor) (scratch buf : Slice) (b : Block) (v : UInt32)
    (hb : b ∈ (d.reading { srv with allows := reader } paths events readCtx cursor scratch
      buf).2.packed.blocks) (hreports : b.Reports e c v) (requests : List (ClientRequest η))
    (d' : Device η ν)
    (hd' : d' = (⟨reader, .read paths events readCtx cursor scratch buf⟩ :: requests).foldl
      (Device.serve srv) d)
    (ctx : InteractionContext) (before : List (Except ErrorCode AttributeData)) (data : AttributeData)
    (s₀ s : ActState η ν WriteBlock) (hhandler : s₀.handler = d'.handler) (hcalls : s₀.calls = d'.calls)
    (hs : s = (exec (Server.serveWrites { srv with allows := writer } ctx 0 before) s₀).2)
    (hadmits : Server.Admits { srv with allows := writer } s.handler s.action data ctx (e, c, a))
    (hversion : data.dataVersion = some v)
    (hsome : 0 < successes e c (s.calls.drop d.calls.length))
    (hfew : successes e c (s.calls.drop d.calls.length) < 2 ^ 32) :
    exec (Server.serveWritePath { srv with allows := writer } before.length data ctx) s =
        exec (Server.writeResponseStatus { srv with allows := writer } before.length data.path
          .dataVersionMismatch) { s with action := .grant (e, c, a) } ∧
      (exec (Server.serveWritePath { srv with allows := writer } before.length data ctx) s).2.calls =
        s.calls := by
  have hrun := d.run_moves srv hkeeps.callsMove
    (⟨reader, .read paths events readCtx cursor scratch buf⟩ :: requests)
  rw [← hd'] at hrun
  have helements := (hkeeps.callsMove writer).serveWrites ctx 0 before s₀
  unfold OnDevice at helements
  rw [hhandler, hcalls, ← hs] at helements
  obtain ⟨new, hnew, hown⟩ := (hkeeps.callsMove writer).trans _ _ _ hrun helements
  simp only at hnew hown
  have hread := hkeeps.reported_of_read reader d hb hreports
  -- The version has moved by the successes since the read, and not all the way around.
  have hstale : v ≠ own s.handler := by
    intro hsame
    rw [hnew, List.drop_left] at hsome hfew
    rw [hread, hown] at hsame
    have hnat := congrArg UInt32.toNat hsame
    rw [UInt32.toNat_add, UInt32.toNat_ofNat_of_lt' hfew] at hnat
    have hbound := (own d.handler).toNat_lt
    omega
  have hkeeps' : KeepsVersion { srv with allows := writer } e c own :=
    ⟨hkeeps.reported, hkeeps.write, hkeeps.invoke⟩
  have hrefused := hadmits.refused hkeeps' hversion hstale before.length
  refine ⟨hrefused, ?_⟩
  rw [hrefused]
  rfl

namespace Lamp

/-- A lamp that keeps a data version and nothing else. -/
def versioned : Server UInt32 (DataVersions 4) where
  node := node
  allows := fun _ _ _ => .granted
  read := fun _ _ _ w tag =>
    match exec (unsigned tag 0) w with
    | (.ok (), w) => (.ok (), w)
    | (.error _, w) => (.error .resourceExhausted, w)
  dataVersion := fun v _ => some v
  write := fun v resolved _ _ _ =>
    (.ok (), if resolved.endpoint == 1 && resolved.cluster.id == 6 then v + 1 else v)
  invoke := fun v resolved _ _ w _ =>
    (.ok none, w, if resolved.endpoint == 1 && resolved.cluster.id == 6 then v + 1 else v)
  limit := 4
  versions := none
  events := none

lemma keepsVersion_versioned : KeepsVersion versioned 1 6 id where
  reported := fun _ _ _ _ => rfl
  write := by
    intro v resolved data op ctx
    simp only [versioned, Call.succeededOn, Except.isOk, Except.toBool, Bool.true_and, id]
    split_ifs
    · rfl
    · exact (UInt32.add_zero v).symm
  invoke := by
    intro v resolved fields ctx w tag
    simp only [versioned, Call.succeededOn, Except.isOk, Except.toBool, Bool.true_and, id]
    split_ifs
    · rfl
    · exact (UInt32.add_zero v).symm

/-- Everyone may do everything. -/
def anyone {η : Type} : η → AttributePath → Privilege → Outcome := fun _ _ _ => .granted

/-- A write of the lamp's level, by another client. -/
def dim {η : Type} : ClientRequest η :=
  ⟨anyone, .write [.ok ⟨none, .ofIds 1 6 1, [0x24, 2, 1]⟩] {} false (room 64 room_64)⟩

/-- A write of the lamp's switch against a version. -/
def switch (v : UInt32) : AttributeData := ⟨some v, .ofIds 1 6 0, [0x24, 2, 1]⟩

/-- A read of the lamp's switch. -/
def look {η : Type} : ClientRequest η :=
  ⟨anyone, .read [.ok (.ofIds 1 6 0)] [] {} .start (room 64 room_64) (room 64 room_64)⟩

/-- A lamp that one client has looked at and another has written. -/
def dimmed {η : Type} (srv : Server η (DataVersions 4)) (h : η) : Device η (DataVersions 4) :=
  [look, dim].foldl (Device.serve srv) ⟨h, .new 0, []⟩

/-- What a write request then starts in. -/
def late {η : Type} (srv : Server η (DataVersions 4)) (h : η) : ActState η (DataVersions 4) WriteBlock :=
  (dimmed srv h).acting (room 64 room_64)

lemma admits_switch (v h : UInt32) (action : WriteAction) :
    Server.Admits { versioned with allows := anyone } h action (switch v) {} (1, 6, 0) where
  plain := rfl
  op := rfl
  concrete := rfl
  access := by
    refine ⟨⟨1, cluster, 0⟩, .readWrite 0, ?_, rfl⟩
    cases action.alreadyGranted (1, 6, 0) with
    | false => rfl
    | true => rfl

end Lamp

/-- The lamp that keeps its version refuses a write against the one before the last write. -/
theorem stale_write_refused_lamp :
    (exec (Server.serveWritePath { Lamp.versioned with allows := Lamp.anyone } 0 (Lamp.switch 5) {})
      (Lamp.late Lamp.versioned 5)).2.calls = (Lamp.late Lamp.versioned 5).calls := by
  have hreported : Block.attribute (.data ⟨some 5, .ofIds 1 6 0, [0x24, 2, 0]⟩) ∈
      (Device.reading { Lamp.versioned with allows := Lamp.anyone } ⟨5, .new 0, []⟩
        [.ok (.ofIds 1 6 0)] [] {} .start (Lamp.room 64 (by decide))
        (Lamp.room 64 (by decide))).2.packed.blocks := by
    decide +kernel
  have hsuccesses : successes 1 6 (Lamp.late Lamp.versioned 5).calls = 1 := by decide +kernel
  have hnone : ∀ s : ActState UInt32 (DataVersions 4) WriteBlock,
      s = (exec (Server.serveWrites { Lamp.versioned with allows := Lamp.anyone } {} 0 []) s).2 :=
    fun _ => rfl
  refine (stale_write_refused Lamp.versioned 1 6 0 id Lamp.keepsVersion_versioned ⟨5, .new 0, []⟩
    Lamp.anyone Lamp.anyone [.ok (.ofIds 1 6 0)] [] {} .start (Lamp.room 64 (by decide))
    (Lamp.room 64 (by decide)) _ 5 hreported ⟨rfl, rfl, rfl⟩ [Lamp.dim] (Lamp.dimmed Lamp.versioned 5)
    rfl {} [] (Lamp.switch 5) (Lamp.late Lamp.versioned 5) (Lamp.late Lamp.versioned 5) ?_ ?_
    (hnone _) (Lamp.admits_switch 5 _ _) rfl ?_ ?_).2
  · unfold Lamp.late Device.acting
    rfl
  · unfold Lamp.late Device.acting
    rfl
  · rw [List.length_nil, List.drop_zero, hsuccesses]
    decide
  · rw [List.length_nil, List.drop_zero, hsuccesses]
    decide

/-- The lamp whose version is in the table reports it, and takes a write against it although another
write succeeded in between. -/
theorem stale_write_accepted :
    Block.attribute (.data ⟨some 0x9E3779B9, .ofIds 1 6 0, [0x24, 2, 0]⟩) ∈
        (Device.reading { Lamp.server 4 with allows := Lamp.anyone } ⟨{}, .new 0, []⟩
          [.ok (.ofIds 1 6 0)] [] {} .start (Lamp.room 64 (by decide))
          (Lamp.room 64 (by decide))).2.packed.blocks ∧
      successes 1 6 (Lamp.late (Lamp.server 4) {}).calls = 1 ∧
      (exec (Server.serveWritePath { Lamp.server 4 with allows := Lamp.anyone } 0
        (Lamp.switch 0x9E3779B9) {}) (Lamp.late (Lamp.server 4) {})).2.packed.blocks =
          [⟨0, .ofIds 1 6 0, .new .success⟩] ∧
      (exec (Server.serveWritePath { Lamp.server 4 with allows := Lamp.anyone } 0
        (Lamp.switch 0x9E3779B9) {}) (Lamp.late (Lamp.server 4) {})).2.calls ≠
          (Lamp.late (Lamp.server 4) {}).calls := by
  refine ⟨by decide +kernel, by decide +kernel, by decide +kernel, by decide +kernel⟩

end MatterKit.Im
