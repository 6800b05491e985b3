import MatterKit.Im.Acts
import MatterKit.Im.Dispatch

/-!
# Malformed actions

The elements of a request are decoded one at a time, while those before them are served. So a request
can turn out to be malformed when some of it has been carried out: the dispatcher then returns an error,
and the caller answers that the action was invalid. The same comes of a response that cannot be closed,
or of response fields that are no element.

`malformed_action_inert_iff` says when a rejected action has done nothing: no cluster is called up to
where serving stops, or nothing is at fault there.
-/

namespace MatterKit.Im

open Lib Machine Tlv Dm

variable {η ν β : Type}

/-! ## Responses -/

/-- A response: a head, the answers, and a tail that says whether something is missing.
Source: what `Server::serve_write` and `serve_invoke` have in common. -/
def respond (head : Writing Unit) (answer : Acting η ν β Bool) (tail : Bool → Writing Unit) :
    Acting η ν β (List UInt8 × ReadOutcome) := do
  Acting.writing head
  let truncated ← answer
  Acting.writing (tail truncated)
  let s ← get
  let bytes ← ofResult s.packed.w.finish
  pure (bytes, ⟨s.packed.responses, truncated, 0⟩)

/-- The rest of a message can be written, and closes it. -/
def Closes (tail : Writing Unit) (w : TlvWriter) : Prop :=
  (exec tail w).1 = .ok () ∧ (exec tail w).2.finish.isOk = true

/-- Up to where a plan ends no cluster is called. -/
def Course.Idle (limit : ℕ) (c : Course β) : Prop :=
  (∀ t ∈ c.taken, t.1.call = none) ∧ c.stop.calls limit = []

/-- Nothing is at fault where a plan ends: it is not at a malformed element, nor at an answer that cannot
be written for another reason than its room, and the tail has a place there. -/
def Stop.Settles (tailSize : Bool → ℕ) : Stop β → Prop
  | .finished m => tailSize false ≤ m.room
  | .full m _ => tailSize true ≤ m.room
  | .malformed | .fault _ => False

/-- As far as there is room for its answers behind the head, a plan calls no cluster, or it ends where
nothing is at fault. -/
def Harmless (limit : ℕ) (encode : β → Writing Unit) (headSize : ℕ) (tailSize : Bool → ℕ) (plan : Plan β)
    (buf : Slice) : Prop :=
  headSize ≤ buf.octets.length →
    (course limit encode buf ⟨buf.octets.length - headSize, 0⟩ plan).Idle limit ∨
      (course limit encode buf ⟨buf.octets.length - headSize, 0⟩ plan).stop.Settles tailSize

lemma exec_acting_writing (x : Writing Unit) (s : ActState η ν β) :
    exec (Acting.writing x) s = ((exec x s.packed.w).1,
      { s with packed := { s.packed with w := (exec x s.packed.w).2 } }) := rfl

/-- The end of a response. -/
def closeResponse (truncated : Bool) (tail : Writing Unit) : Acting η ν β (List UInt8 × ReadOutcome) := do
  Acting.writing tail
  let s ← get
  let bytes ← ofResult s.packed.w.finish
  pure (bytes, ⟨s.packed.responses, truncated, 0⟩)

/-- The end of a response makes no call, and succeeds if the message can be closed. -/
lemma exec_closeResponse (truncated : Bool) (tail : Writing Unit) (s : ActState η ν β) :
    (exec (closeResponse truncated tail) s).2.calls = s.calls ∧
      ((exec (closeResponse truncated tail) s).1.isOk = true ↔ Closes tail s.packed.w) := by
  unfold closeResponse Closes
  rw [exec_bind, exec_acting_writing]
  rcases (exec tail s.packed.w).1 with e | _
  · exact ⟨rfl, by simp [Except.isOk, Except.toBool]⟩
  simp only [true_and]
  rw [exec_get_bind, exec_bind, exec_ofResult]
  rcases hfinish : (exec tail s.packed.w).2.finish with e | bytes
  · exact ⟨rfl, Iff.rfl⟩
  · exact ⟨rfl, Iff.rfl⟩

variable {limit : ℕ} {encode : β → Writing Unit} {s : ActState η ν β} {plan : Plan β}
  {head : Writing Unit} {answer : Acting η ν β Bool}

/-- Serving fails where performing its plan does, and is told what found no room. -/
lemma Carries.result_cases {x : Acting η ν β Bool} (h : Carries limit encode x s plan) :
    (∃ e, (exec x s).1 = .error e ∧ (perform limit encode plan s.packed).1 = .error e) ∨
      ∃ answered, (exec x s).1 = .ok (!answered) ∧
        (perform limit encode plan s.packed).1 = .ok answered := by
  rw [h.result]
  rcases (perform limit encode plan s.packed).1 with e | answered
  · exact .inl ⟨e, rfl, rfl⟩
  · exact .inr ⟨answered, rfl, rfl⟩

/-- A response that has its head makes the calls of its answers, and succeeds if these do and it can be
closed. -/
lemma respond_of_head (tail : Bool → Writing Unit) (hhead : (exec head s.packed.w).1 = .ok ())
    (hanswer : ∀ s', s'.handler = s.handler → s'.action = s.action →
      Carries limit encode answer s' plan) {p : Packed β}
    (hp : p = { s.packed with w := (exec head s.packed.w).2 }) :
    (exec (respond head answer tail) s).2.calls = s.calls ++ (perform limit encode plan p).2.2 ∧
      ((exec (respond head answer tail) s).1.isOk = true ↔
        ∃ answered, (perform limit encode plan p).1 = .ok answered ∧
          Closes (tail !answered) (perform limit encode plan p).2.1.w) := by
  have hopen : exec (Acting.writing head) s = (.ok (), { s with packed := p }) := by
    rw [exec_acting_writing, hhead, hp]
  have hcarries := hanswer { s with packed := p } rfl rfl
  have hcalls := hcarries.calls
  have hpacked := hcarries.packed
  have hexec : exec (respond head answer tail) s =
      exec (answer >>= fun truncated => closeResponse truncated (tail truncated))
        { s with packed := p } := exec_bind_ok hopen _
  rw [hexec]
  rcases hcarries.result_cases with ⟨e, hrun, hplan⟩ | ⟨answered, hrun, hplan⟩
  · rw [exec_bind_error (Prod.ext hrun rfl)]
    refine ⟨hcalls, ?_⟩
    simp only at hplan
    simp [hplan, Except.isOk, Except.toBool]
  · rw [exec_bind_ok (Prod.ext hrun rfl)]
    obtain ⟨hsame, hok⟩ := exec_closeResponse (!answered) (tail !answered)
      (exec answer { s with packed := p }).2
    simp only at hplan
    refine ⟨hsame.trans hcalls, ?_⟩
    rw [hok, hpacked]
    simp [hplan]

lemma Course.idle_iff {c : Course β} : c.Idle limit ↔
    c.taken.flatMap (fun t => t.1.call.toList) ++ c.stop.calls limit = [] := by
  unfold Idle
  rw [List.append_eq_nil_iff, List.flatMap_eq_nil_iff]
  simp only [Option.toList_eq_nil_iff]

/-- A message inside its array can be closed exactly if there is room for the tail. -/
lemma closes_iff {buf : Slice} {p : Packed β} {m : Meter} (hp : Filled buf p inReports m)
    {tail : Writing Unit} {octets : ℕ} (htail : Costs tail inReports ⟨[], true⟩ octets) :
    Closes tail p.w ↔ octets ≤ m.room := by
  obtain ⟨hfits, hfull⟩ := hp.write htail
  unfold Closes
  by_cases hle : octets ≤ m.room
  · obtain ⟨w', hrun, hclosed⟩ := hfits hle
    rw [hrun, show w'.finish = _ from hclosed.finish]
    exact ⟨fun _ => hle, fun _ => ⟨rfl, rfl⟩⟩
  · obtain ⟨w', hrun⟩ := hfull hle
    rw [hrun]
    exact ⟨fun h => (nomatch h.1), fun h => absurd h hle⟩

/-- What a plan comes to is a response exactly if nothing is at fault where it ends. -/
lemma stop_settles_iff {buf : Slice} {result : Except ErrorCode Bool} {p : Packed β} {stop : Stop β}
    (hyields : stop.Yields buf result p) {tail : Bool → Writing Unit} {tailSize : Bool → ℕ}
    (htail : ∀ truncated, Costs (tail truncated) inReports ⟨[], true⟩ (tailSize truncated)) :
    (∃ answered, result = .ok answered ∧ Closes (tail !answered) p.w) ↔ stop.Settles tailSize := by
  have hfails : (∃ e, result = .error e) →
      ¬ ∃ answered, result = .ok answered ∧ Closes (tail !answered) p.w := by
    rintro ⟨e, rfl⟩ ⟨_, hok, -⟩
    cases hok
  cases stop with
  | finished m =>
    obtain ⟨rfl, hp⟩ := hyields
    simpa [Stop.Settles] using closes_iff hp (htail false)
  | full m a =>
    obtain ⟨rfl, hp⟩ := hyields
    simpa [Stop.Settles] using closes_iff hp (htail true)
  | malformed => exact iff_of_false (hfails hyields) id
  | fault a => exact iff_of_false (hfails hyields) id

/-- A response that fails has made no call exactly if its plan is harmless. -/
lemma respond_inert_iff {headSize : ℕ} {tail : Bool → Writing Unit} {tailSize : Bool → ℕ} {buf : Slice}
    (hencode : ∀ b, Balanced (encode b)) (hhead : Costs head ⟨[], false⟩ inReports headSize)
    (htail : ∀ truncated, Costs (tail truncated) inReports ⟨[], true⟩ (tailSize truncated))
    (hs : s.packed = ⟨TlvWriter.new buf, 0, []⟩)
    (hanswer : ∀ s', s'.handler = s.handler → s'.action = s.action →
      Carries limit encode answer s' plan) : ((exec (respond head answer tail) s).1.isOk = false →
        (exec (respond head answer tail) s).2.calls = s.calls) ↔
      Harmless limit encode headSize tailSize plan buf := by
  unfold Harmless
  obtain ⟨hfits, hfull⟩ := Filled.write (Filled.new (β := β) buf) hhead
  by_cases hle : headSize ≤ buf.octets.length
  · obtain ⟨w', hrun, hp⟩ := hfits hle
    have hopen : (exec head s.packed.w).1 = .ok () := by
      rw [hs, hrun]
    obtain ⟨hcalls, hok⟩ := respond_of_head tail hopen hanswer rfl
    rw [hs, hrun] at hcalls hok
    have hperformed : Performed limit buf _ (course limit encode buf _ plan) _ :=
      perform_course hencode plan hp
    rw [hcalls, List.append_right_eq_self, hperformed.calls, ← Course.idle_iff, ← Bool.not_eq_true, hok,
      stop_settles_iff hperformed.yields htail, imp_iff_right hle, or_iff_not_imp_right]
  · -- Without its head the response fails at once.
    obtain ⟨w', hrun⟩ := hfull hle
    have hfail : exec (Acting.writing head) s = (.error .bufferTooSmall,
        { s with packed := { s.packed with w := w' } }) := by
      rw [exec_acting_writing, hs, hrun]
    have hexec : (exec (respond head answer tail) s).2.calls = s.calls := by
      unfold respond
      rw [exec_bind_error hfail]
    exact ⟨fun _ hok => absurd hok hle, fun _ _ => hexec⟩

/-! ## Dispatching -/

/-- A dispatch that rejects its request: it fails, or replies that the action is invalid. -/
def Rejects (result : Except ErrorCode Served) : Prop :=
  (∃ e, result = .error e) ∨ ∃ bytes, result = .ok (.statusReply .invalidAction bytes)

namespace Dispatcher

variable {W : ℕ}

/-- What a write request asks for is harmless, where it is served at all. -/
def HarmlessWrite (srv : Server η ν) (request : Request) (ctx : InteractionContext) (buf : Slice)
    (s : DispatchState W η ν) : Prop :=
  ∀ write, WriteRequest.decode request.payload = .ok write →
    ∀ timed, (s.timed.check request.session request.exchange write.timedRequest ctx.now).1 = .ok timed →
    ∀ writes, write.writes = .ok writes → ¬ (write.moreChunkedMessages = true ∧ timed = true) →
    Harmless srv.limit WriteBlock.encode Server.writeHeadSize (fun _ => Server.writeTailSize)
      (srv.writePlan { ctx with timed := timed } s.handler {} 0 writes) buf

/-- What an invoke request asks for is harmless, where it is served at all. -/
def HarmlessInvoke (d : Dispatcher) (srv : Server η ν) (request : Request) (ctx : InteractionContext)
    (scratch buf : Slice) (s : DispatchState W η ν) : Prop :=
  ∀ invoke, InvokeRequest.decode request.payload = .ok invoke →
    ∀ timed, (s.timed.check request.session request.exchange invoke.timedRequest ctx.now).1 = .ok timed →
    ∀ commands, invoke.commands = .ok commands → decodable commands ≤ d.maxPathsPerInvoke.toNat →
    Harmless srv.limit InvokeResponse.encode Server.invokeHeadSize Server.invokeTailSize
      (srv.commandPlan { ctx with timed := timed } scratch s.handler commands) buf

/-- What a request asks for is harmless, where it is served at all. -/
def HarmlessRequest (d : Dispatcher) (srv : Server η ν) (request : Request) (ctx : InteractionContext)
    (scratch buf : Slice) (s : DispatchState W η ν) : Prop :=
  match request.kind with
  | .write => HarmlessWrite srv request ctx buf s
  | .invoke => d.HarmlessInvoke srv request ctx scratch buf s

/-- A status reply makes no call. -/
lemma statusReply_calls (status : Status) (buf : Slice) (s : DispatchState W η ν) :
    (exec (Dispatching.statusReply status buf) s).2 = s := by
  unfold Dispatching.statusReply
  split
  · rfl
  · rename_i w _
    rw [exec_bind, exec_ofResult]
    rcases w.finish with e | bytes
    · rfl
    · rfl

/-- The device as an action that is answered into the buffer finds it. -/
def actState (s : DispatchState W η ν) (buf : Slice) : ActState η ν β :=
  ⟨⟨TlvWriter.new buf, 0, []⟩, s.handler, s.versions, {}, s.calls⟩

/-- Serving an action on the device, with what it returned. -/
lemma exec_acting {α : Type} (buf : Slice) (x : Acting η ν β α) (s : DispatchState W η ν) :
    exec (Dispatching.acting buf x) s = ((exec x (actState s buf)).1,
      { s with
        handler := (exec x (actState s buf)).2.handler
        versions := (exec x (actState s buf)).2.versions
        calls := (exec x (actState s buf)).2.calls }) :=
  rfl

/-- A served action is rejected exactly if serving it fails, whichever answer is made of it. -/
lemma acting_inert_iff {α : Type} (buf : Slice) (x : Acting η ν β α) (s : DispatchState W η ν)
    (answer : α → Served) (hanswer : ∀ a bytes, answer a ≠ .statusReply .invalidAction bytes) :
    (Rejects (exec (Dispatching.acting buf x >>= fun a => pure (answer a)) s).1 →
        (exec (Dispatching.acting buf x >>= fun a => pure (answer a)) s).2.calls = s.calls) ↔
      ((exec x (actState s buf)).1.isOk = false → (exec x (actState s buf)).2.calls = s.calls) := by
  rw [exec_bind, exec_acting]
  rcases (exec x (actState s buf)).1 with e | a
  · simp only
    exact ⟨fun h _ => h (.inl ⟨e, rfl⟩), fun h _ => h rfl⟩
  · simp only
    refine ⟨fun _ h => (nomatch h), ?_⟩
    rintro - (⟨e, h⟩ | ⟨bytes, h⟩)
    · cases h
    · exact absurd (Except.ok.inj h) (hanswer a bytes)

/-- Serving a write request that may be chunked is answering it. -/
lemma serveWrite_inert_iff (srv : Server η ν) (writes : List (Except ErrorCode AttributeData))
    (ctx : InteractionContext) {moreChunked : Bool} {buf : Slice} {s : ActState η ν WriteBlock}
    (hs : s.packed = ⟨TlvWriter.new buf, 0, []⟩) (haction : s.action = {}) :
    ((exec (srv.serveWrite writes ctx moreChunked buf) s).1.isOk = false →
        (exec (srv.serveWrite writes ctx moreChunked buf) s).2.calls = s.calls) ↔
      (¬ (moreChunked = true ∧ ctx.timed = true) →
        Harmless srv.limit WriteBlock.encode Server.writeHeadSize (fun _ => Server.writeTailSize)
          (srv.writePlan ctx s.handler {} 0 writes) buf) := by
  by_cases htimed : moreChunked = true ∧ ctx.timed = true
  · have hexec : exec (srv.serveWrite writes ctx moreChunked buf) s = (.error .invalidAction, s) := by
      unfold Server.serveWrite Machine.require
      rw [if_neg (not_not.mpr htimed)]
      rfl
    rw [hexec]
    exact ⟨fun _ hnot => absurd htimed hnot, fun _ _ => rfl⟩
  · have hexec : exec (srv.serveWrite writes ctx moreChunked buf) s =
        exec (respond Server.writeHead (srv.serveWrites ctx 0 writes) fun _ => Server.writeTail) s := by
      unfold Server.serveWrite
      rw [exec_require_bind htimed, ← haction, ← hs]
      rfl
    rw [hexec, imp_iff_right htimed]
    apply respond_inert_iff Server.balanced_writeBlock Server.costs_writeHead (fun _ => Server.costs_writeTail) hs
    intro s' hhandler haction'
    have hcarries := srv.serveWrites_carries ctx 0 writes s'
    rw [hhandler, haction', haction] at hcarries
    exact hcarries

/-- Serving an invoke request is answering it. -/
lemma serveInvoke_inert_iff (srv : Server η ν) (commands : List (Except ErrorCode CommandData))
    (ctx : InteractionContext) (suppressResponse : Bool) (scratch : Slice) {buf : Slice}
    {s : ActState η ν InvokeResponse} (hs : s.packed = ⟨TlvWriter.new buf, 0, []⟩) :
    ((exec (srv.serveInvoke commands ctx suppressResponse scratch buf) s).1.isOk = false →
        (exec (srv.serveInvoke commands ctx suppressResponse scratch buf) s).2.calls = s.calls) ↔
      Harmless srv.limit InvokeResponse.encode Server.invokeHeadSize Server.invokeTailSize
        (srv.commandPlan ctx scratch s.handler commands) buf := by
  have hexec : exec (srv.serveInvoke commands ctx suppressResponse scratch buf) s =
      exec (respond (Server.invokeHead suppressResponse) (srv.serveCommands ctx scratch commands)
        Server.invokeTail) s := by
    unfold Server.serveInvoke
    rw [← hs]
    rfl
  rw [hexec]
  apply respond_inert_iff Server.balanced_invokeResponse (Server.costs_invokeHead _) Server.costs_invokeTail hs
  intro s' hhandler _
  have hcarries := srv.serveCommands_carries ctx scratch commands s'
  rw [hhandler] at hcarries
  exact hcarries

/-- The window of a request is used up and nothing else changes. -/
lemma exec_checkTimed (request : Request) (timedRequest : Bool) (now : Instant) (s : DispatchState W η ν) :
    exec (Dispatching.checkTimed request timedRequest now) s =
      (.ok (s.timed.check request.session request.exchange timedRequest now).1,
        { s with timed := (s.timed.check request.session request.exchange timedRequest now).2 }) := rfl

/-- A WriteRequest, by how far its elements get. -/
lemma write_inert_iff (srv : Server η ν) (request : Request) (ctx : InteractionContext) (buf : Slice)
    (s : DispatchState W η ν) : (Rejects (exec (write srv request ctx buf) s).1 →
        (exec (write srv request ctx buf) s).2.calls = s.calls) ↔
      HarmlessWrite srv request ctx buf s := by
  unfold write HarmlessWrite
  rcases hdecode : WriteRequest.decode request.payload with e | w
  · exact ⟨fun _ _ h => (nomatch h), fun _ _ => rfl⟩
  rw [exec_bind_ok (exec_ofResult _ s), exec_bind_ok (exec_checkTimed request _ ctx.now s)]
  simp only [Except.ok.injEq, forall_eq']
  rcases s.timed.check request.session request.exchange w.timedRequest ctx.now
    with ⟨status | timed, t⟩
  · simp only [statusReply_calls]
    exact ⟨fun _ _ h => (nomatch h), fun _ _ => trivial⟩
  simp only [Except.ok.injEq, forall_eq']
  rcases w.writes with e | writes
  · exact ⟨fun _ _ h => (nomatch h), fun _ _ => rfl⟩
  simp only [Except.ok.injEq, forall_eq']
  rw [exec_bind_ok (exec_ofResult _ _)]
  refine Iff.trans ?_ (serveWrite_inert_iff srv writes { ctx with timed := timed }
    (s := actState { s with timed := t } buf) rfl rfl)
  have hinert := acting_inert_iff buf
    (srv.serveWrite writes { ctx with timed := timed } w.moreChunkedMessages buf)
    { s with timed := t }
    (fun served => if (request.groupcast || w.suppressResponse) = true then .silent
      else .reply served.1)
    (by intro a bytes; split_ifs <;> simp)
  simpa only [apply_ite, actState] using hinert

/-- An InvokeRequest, by how far its commands get. -/
lemma invoke_inert_iff (d : Dispatcher) (srv : Server η ν) (request : Request)
    (ctx : InteractionContext) (scratch buf : Slice) (s : DispatchState W η ν) :
    (Rejects (exec (d.invoke srv request ctx scratch buf) s).1 →
        (exec (d.invoke srv request ctx scratch buf) s).2.calls = s.calls) ↔
      d.HarmlessInvoke srv request ctx scratch buf s := by
  unfold invoke HarmlessInvoke
  rcases hdecode : InvokeRequest.decode request.payload with e | i
  · exact ⟨fun _ _ h => (nomatch h), fun _ _ => rfl⟩
  rw [exec_bind_ok (exec_ofResult _ s), exec_bind_ok (exec_checkTimed request _ ctx.now s)]
  simp only [Except.ok.injEq, forall_eq']
  rcases s.timed.check request.session request.exchange i.timedRequest ctx.now
    with ⟨status | timed, t⟩
  · simp only [statusReply_calls]
    exact ⟨fun _ _ h => (nomatch h), fun _ _ => trivial⟩
  simp only [Except.ok.injEq, forall_eq']
  rcases i.commands with e | commands
  · exact ⟨fun _ _ h => (nomatch h), fun _ _ => rfl⟩
  simp only [Except.ok.injEq, forall_eq']
  rw [exec_bind_ok (exec_ofResult _ _)]
  by_cases hmany : decodable commands > d.maxPathsPerInvoke.toNat
  · rw [if_pos hmany, statusReply_calls]
    exact ⟨fun _ hfew => absurd hmany (Nat.not_lt.mpr hfew), fun _ _ => rfl⟩
  rw [if_neg hmany, imp_iff_right (Nat.le_of_not_lt hmany)]
  refine Iff.trans ?_ (serveInvoke_inert_iff srv commands { ctx with timed := timed } i.suppressResponse
    scratch (s := actState { s with timed := t } buf) rfl)
  have hinert := acting_inert_iff buf
    (srv.serveInvoke commands { ctx with timed := timed } i.suppressResponse scratch buf)
    { s with timed := t }
    (fun served => if request.groupcast = true then .silent else .reply served.1)
    (by intro a bytes; split_ifs <;> simp)
  simpa only [apply_ite, actState] using hinert

/-- A dispatch that rejects its request has called no cluster, exactly if what the request asks for is
harmless: as far as its answers have room no cluster is called, or nothing is at fault there. -/
theorem malformed_action_inert_iff (d : Dispatcher) (srv : Server η ν) (request : Request)
    (ctx : InteractionContext) (scratch buf : Slice) (s : DispatchState W η ν) :
    (Rejects (exec (d.dispatch srv request ctx scratch buf) s).1 →
        (exec (d.dispatch srv request ctx scratch buf) s).2.calls = s.calls) ↔
      d.HarmlessRequest srv request ctx scratch buf s := by
  unfold dispatch HarmlessRequest
  cases request.kind with
  | write => exact write_inert_iff srv request ctx buf s
  | invoke => exact d.invoke_inert_iff srv request ctx scratch buf s

end Dispatcher

namespace Lamp

/-- An invoke request with the lamp's command and, behind it, an element without a path. -/
def halfMalformed : Request where
  kind := .invoke
  payload := [0x15, 0x28, 0, 0x28, 1, 0x36, 2,
    0x15, 0x37, 0, 0x24, 0, 1, 0x24, 1, 6, 0x24, 2, 0, 0x18, 0x18,
    0x15, 0x18,
    0x18, 0x24, 0xFF, 12, 0x18]
  session := none
  exchange := ⟨0⟩
  groupcast := false

/-- What a lamp's dispatcher makes of a request. -/
def dispatched (request : Request) : Except ErrorCode Served × DispatchState 1 Lamp (DataVersions 4) :=
  exec (Dispatcher.dispatch ⟨10⟩ (server 4) request {} (room 64 room_64) (room 64 room_64))
    ⟨.new, {}, .new 0, []⟩

end Lamp

/-- The request is rejected, and the command before the malformed element has run. -/
theorem malformed_element_late : (Lamp.dispatched Lamp.halfMalformed).1.isOk = false ∧
      ¬ (Rejects (Lamp.dispatched Lamp.halfMalformed).1 →
        (Lamp.dispatched Lamp.halfMalformed).2.calls = []) ∧
      (Lamp.dispatched Lamp.halfMalformed).2.handler = ⟨1, 1⟩ := by
  have hrejected : (Lamp.dispatched Lamp.halfMalformed).1.isOk = false := by decide +kernel
  have hcalled : (Lamp.dispatched Lamp.halfMalformed).2.calls ≠ [] := by decide +kernel
  refine ⟨hrejected, fun hinert => hcalled (hinert (.inl ?_)), by decide +kernel⟩
  generalize (Lamp.dispatched Lamp.halfMalformed).1 = result at hrejected
  cases result with
  | error e => exact ⟨e, rfl⟩
  | ok served => cases hrejected

end MatterKit.Im
