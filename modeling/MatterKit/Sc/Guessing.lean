import MatterKit.Sc.Gate

/-!
# Runs of the secure channel: how often and how long one may guess

A PASE handshake has sixty seconds, and twenty attempts in a row may fail or run out of time before the
commissioning window is closed. That a handshake has run out of time is noticed in two places. `poll`
drops its responder and closes the window with the last attempt; the gate, when the next request
arrives, counts the attempt and does neither; and a Pake3 does not look at the time at all.

`guessing_is_bounded` is the law for the runs that are `OnTime`, which stay clear of what the second and
the third place leave undone.
-/

namespace MatterKit.Sc

open Lib Machine Tlv Commissioning

variable {S X N : ℕ} {K : Type}

namespace GateHistory

variable {p : Primitives} {store : KeyStore K} {h : GateHistory S X N K} {op : GateOp S X N K}

/-! ## Runs that are on time -/

/-- Whether the random draws for the answer to a request succeed. -/
def canDraw (m : ChannelMessage N) : Bool := (m.rng.nextU32 0).isOk && (m.rng.fill 0 32).isOk

/-- Once the handshake in flight has run out of time, a request that is processed before a `poll` does
not use up the attempts and can be answered, and a Pake3 does not carry the confirmation the responder
waits for; and the channel is not reopened in the middle of a handshake. -/
def OnTime (h : GateHistory S X N K) : GateOp S X N K → Prop
  | .message m => h.node.channel.admission.hasLapsed m.now = true →
      (m.opcode = opcodePbkdfParamRequest →
        (h.node.channel.admission.expire m.now).2.isExhausted = false ∧ canDraw m = true) ∧
      (m.opcode = opcodePake3 → (h.node.channel.pase.any fun r => r.isConfirmedBy m.body) = false)
  | .reopen => h.node.view.isLive = false
  | _ => True

instance OnTime.instDecidable (h : GateHistory S X N K) :
    (op : GateOp S X N K) → Decidable (OnTime h op)
  | .message _ => inferInstanceAs (Decidable (_ → _))
  | .reopen => inferInstanceAs (Decidable (_ = _))
  | .poll _ | .closed _ | .release | .outside _ _ _ => .isTrue trivial

/-- What the runs that are on time keep: a responder has the deadline of its own request; nothing is in
flight once the attempts are used up; the gate counts the attempts lost, as far as it goes; the window
is closed with the last; and every session is established within the time of its request. -/
structure Bounded (h : GateHistory S X N K) : Prop where
  live : ∀ r, h.node.view.pase = some r → r.state ≠ .established →
    ∃ request, h.answered.head? = some request ∧ h.node.view.admission.channel =
      .establishing (request.message.now.saturatingAdd paseEstablishmentTimeout)
  room : ∀ deadline, h.node.view.admission.channel = .establishing deadline →
    h.node.view.admission.isExhausted = false
  count : h.node.view.admission.failures.toNat = min h.failedIn 255
  shut : maxFailedAttempts.toNat ≤ h.failedIn → h.newWindow = false →
    h.node.view.window.installed = none
  inTime : ∀ session ∈ h.sessions, ∃ request, session.request = some request ∧
    session.time ≤ request.message.now.saturatingAdd paseEstablishmentTimeout

lemma toNat_oneMore (failures : UInt8) :
    (PaseAdmission.oneMore failures).toNat = min (failures.toNat + 1) 255 := by
  rw [PaseAdmission.oneMore]
  have hlt := failures.toNat_lt
  by_cases hmax : failures = 255
  · rw [if_pos hmax, hmax]
    rfl
  · have hne : failures.toNat ≠ 255 := fun h => hmax (UInt8.toNat_inj.mp h)
    rw [if_neg hmax, UInt8.toNat_add]
    simp only [UInt8.reduceToNat]
    omega

lemma toNat_failures_expire (a : PaseAdmission) (now : Instant) :
    (a.expire now).2.failures.toNat = min (a.failures.toNat + (a.hasLapsed now).toNat) 255 := by
  have hlt := a.failures.toNat_lt
  cases hlapsed : a.hasLapsed now with
  | true =>
    rw [PaseAdmission.expire_of_lapsed hlapsed]
    exact toNat_oneMore a.failures
  | false =>
    rw [PaseAdmission.expire_of_not_lapsed hlapsed]
    simp
    omega

lemma isExhausted_iff (a : PaseAdmission) :
    a.isExhausted = true ↔ maxFailedAttempts.toNat ≤ a.failures.toNat := by
  rw [PaseAdmission.isExhausted, decide_eq_true_iff]
  exact UInt8.le_iff_toNat_le

lemma failedAfter_of_none (hop : op ≠ .reopen) (v' : PaseView) :
    op.failedAfter h none v' = h.failedIn + op.lost h.node.view v' := by
  cases op with
  | reopen => exact absurd rfl hop
  | _ => rfl

variable {v : PaseView} {m : ChannelMessage N}

lemma lost_of_isIdle (hop : op.isIdle v = true) : op.lost v v = 0 := by
  cases op with
  | message m =>
    have hm : m.opcode ≠ opcodePbkdfParamRequest := of_decide_eq_true hop
    rw [GateOp.lost, GateOp.timesOut, GateOp.endsAttempt, if_neg hm, decide_eq_false hm]
    cases v.pase <;> rfl
  | poll now =>
    have hlapsed : v.admission.hasLapsed now = false := by simpa [GateOp.isIdle] using hop
    simp [GateOp.lost, GateOp.timesOut, GateOp.endsAttempt, hlapsed]
  | _ => rfl

lemma ne_reopen_of_isIdle (hop : op.isIdle v = true) : op ≠ .reopen := by
  rintro rfl
  cases hop

lemma lost_request (hm : m.opcode = opcodePbkdfParamRequest) (v v' : PaseView) :
    (GateOp.message (S := S) (X := X) (K := K) m).lost v v' = (v.admission.hasLapsed m.now).toNat +
      (v.admission.admits m.now && decide (v'.admission.channel = .idle)).toNat := by
  rw [GateOp.lost, GateOp.timesOut, GateOp.endsAttempt, if_pos hm, decide_eq_true hm, Bool.true_and]

lemma lost_reply (hm : m.opcode ≠ opcodePbkdfParamRequest) (v v' : PaseView) :
    (GateOp.message (S := S) (X := X) (K := K) m).lost v v' =
      (v.pase.isSome && v'.pase.isNone).toNat := by
  rw [GateOp.lost, GateOp.timesOut, GateOp.endsAttempt, if_neg hm, decide_eq_false hm,
    Bool.false_and, Bool.toNat_false, Nat.zero_add]

/-- The gate counts the attempts that are lost. -/
lemma count_after (p : Primitives) (store : KeyStore K) (op : GateOp S X N K)
    (hcount : h.node.view.admission.failures.toNat = min h.failedIn 255) :
    (after p store h op).node.view.admission.failures.toNat = min (after p store h op).failedIn 255 := by
  obtain ⟨out, v', hchange, hview, -, -, -, hfailed, -⟩ := after_cases p store h op
  rw [hview, hfailed]
  have hpake1 : opcodePake1 ≠ opcodePbkdfParamRequest := by decide
  have hpake3 : opcodePake3 ≠ opcodePbkdfParamRequest := by decide
  cases hchange with
  | kept hop hanswer hsession =>
    rw [hsession, failedAfter_of_none (ne_reopen_of_isIdle hop), lost_of_isIdle hop]
    exact hcount
  | outside => exact hcount
  | refused hm hgate =>
    rw [paseOf_refusal, failedAfter_of_none (by simp), lost_request hm, hgate]
    dsimp only
    rw [toNat_failures_expire, hcount, Bool.false_and, Bool.toNat_false]
    omega
  | @stalled m e hm hgate hdraws =>
    rw [paseOf_error, failedAfter_of_none (by simp), lost_request hm]
    have hidle : decide ((h.node.view.admitted m.now).admission.channel = .idle) = false :=
      decide_eq_false (by simp [PaseView.admitted])
    rw [hidle, Bool.and_false, Bool.toNat_false, show (h.node.view.admitted m.now).admission.failures =
        (h.node.view.admission.expire m.now).2.failures from rfl, toNat_failures_expire, hcount]
    omega
  | @malformed m e r random hm hgate hdraws =>
    rw [paseOf_error, failedAfter_of_none (by simp), lost_request hm, hgate]
    have hidle : decide ((h.node.view.admitted m.now).fail.admission.channel = .idle) = true :=
      decide_eq_true rfl
    rw [hidle, Bool.and_true, Bool.toNat_true,
      show (h.node.view.admitted m.now).fail.admission.failures =
        PaseAdmission.oneMore (h.node.view.admission.expire m.now).2.failures from rfl,
      toNat_oneMore, toNat_failures_expire, hcount]
    omega
  | @begun m r r' random reply hm hgate hdraws hresponder =>
    rw [paseOf_answer, failedAfter_of_none (by simp), lost_request hm]
    have hidle : decide ((h.node.view.admitted m.now).admission.channel = .idle) = false :=
      decide_eq_false (by simp [PaseView.admitted])
    dsimp only
    rw [hidle, Bool.and_false, Bool.toNat_false, show (h.node.view.admitted m.now).admission.failures =
        (h.node.view.admission.expire m.now).2.failures from rfl, toNat_failures_expire, hcount]
    omega
  | proved hm hpase hresponder =>
    rw [paseOf_answer, failedAfter_of_none (by simp), lost_reply (hm ▸ hpake1)]
    simpa using hcount
  | @rejected m e r hm hpase =>
    have hreply : m.opcode ≠ opcodePbkdfParamRequest := by
      rcases hm with ⟨hm, -⟩ | hm
      · rwa [hm]
      · rwa [hm]
    rw [paseOf_error, failedAfter_of_none (by simp), lost_reply hreply, hpase,
      show h.node.view.fail.admission.failures =
        PaseAdmission.oneMore h.node.view.admission.failures from rfl, toNat_oneMore, hcount]
    simp [PaseView.fail]
    omega
  | undrawn hm hpase hresponder =>
    rw [paseOf_error, failedAfter_of_none (by simp), lost_reply (hm ▸ hpake3)]
    simpa using hcount
  | established hm hpase hresponder hanswer hsession =>
    rw [hsession]
    rfl
  | lapsed hlapsed =>
    rw [paseOf_none, failedAfter_of_none (by simp), GateOp.lost, GateOp.timesOut, hlapsed,
      show h.node.view.fail.admission.failures =
        PaseAdmission.oneMore h.node.view.admission.failures from rfl, toNat_oneMore, hcount]
    simp [GateOp.endsAttempt]
    omega
  | closed hclosed | released => exact hcount
  | reopened => rfl

lemma isExhausted_of_admits {a : PaseAdmission} {now : Instant} (hgate : a.admits now = true) :
    (a.expire now).2.isExhausted = false ∧ (a.expire now).2.channel = .idle := by
  simpa [PaseAdmission.admits] using hgate

/-- A request that is on time and is refused finds no handshake that has run out of time. -/
lemma hasLapsed_of_refused (hm : m.opcode = opcodePbkdfParamRequest) (hop : OnTime h (.message m))
    (hgate : h.node.channel.admission.admits m.now = false) :
    h.node.channel.admission.hasLapsed m.now = false := by
  by_contra hlapsed
  rw [Bool.not_eq_false] at hlapsed
  have hroom := ((hop hlapsed).1 hm).1
  rw [PaseAdmission.admits, hroom, PaseAdmission.expire_of_lapsed hlapsed] at hgate
  simp at hgate

/-- A request that is on time and whose draws fail finds no handshake that has run out of time. -/
lemma hasLapsed_of_stalled {e : ErrorCode} (hm : m.opcode = opcodePbkdfParamRequest)
    (hop : OnTime h (.message m)) (hdraws : ChannelNode.newResponder p.spake h.node.window m = .error e) :
    h.node.channel.admission.hasLapsed m.now = false := by
  by_contra hlapsed
  rw [Bool.not_eq_false] at hlapsed
  have hdraw := ((hop hlapsed).1 hm).2
  rw [canDraw] at hdraw
  rw [ChannelNode.newResponder] at hdraws
  cases hsession : m.rng.nextU32 0 with
  | error code => simp [hsession, Except.isOk, Except.toBool] at hdraw
  | ok draw =>
    cases hrandom : m.rng.fill 0 32 with
    | error code => simp [hrandom, Except.isOk, Except.toBool] at hdraw
    | ok random => simp [hsession, hrandom] at hdraws

/-- A handshake in flight is that of the last request, with its deadline. -/
lemma live_after (hbounded : h.Bounded) (hop : OnTime h op) (r : PaseResponder)
    (hr : (after p store h op).node.view.pase = some r) (hlive : r.state ≠ .established) :
    ∃ request, (after p store h op).answered.head? = some request ∧
      (after p store h op).node.view.admission.channel =
        .establishing (request.message.now.saturatingAdd paseEstablishmentTimeout) := by
  obtain ⟨out, v', hchange, hview, hanswered, -, -, -, -⟩ := after_cases p store h op
  rw [hview] at hr
  rw [hview, hanswered]
  cases hchange with
  | kept hidle hanswer hsession =>
    rw [hanswer]
    exact hbounded.live r hr hlive
  | outside => exact hbounded.live r hr hlive
  | @refused m hm hgate =>
    have hexpire := PaseAdmission.expire_of_not_lapsed (hasLapsed_of_refused hm hop hgate)
    rw [answersRequest_refusal,
      show h.node.view.admission.expire m.now = (false, h.node.view.admission) from hexpire]
    exact hbounded.live r hr hlive
  | @stalled m e hm hgate hdraws =>
    have hexpire : h.node.view.admission.expire m.now = (false, h.node.view.admission) :=
      PaseAdmission.expire_of_not_lapsed (hasLapsed_of_stalled hm hop hdraws)
    obtain ⟨request, -, hchannel⟩ := hbounded.live r hr hlive
    have hidle := (isExhausted_of_admits hgate).2
    rw [hexpire] at hidle
    cases hidle.symm.trans hchannel
  | malformed hm hgate hdraws => cases hr
  | @begun m r₀ r' random reply hm hgate hdraws hresponder =>
    have hrequest : (GateOp.message (S := S) (X := X) (K := K) m).request = some m := by
      rw [GateOp.request, if_pos hm]
    exact ⟨⟨m, h.node.window⟩, by simp [hrequest], rfl⟩
  | proved hm hpase hresponder =>
    have hprev := (PaseResponder.onPake1_ok hresponder).1
    exact hbounded.live _ hpase (by rw [hprev]; simp)
  | rejected hm hpase => cases hr
  | undrawn hm hpase hresponder | established hm hpase hresponder hanswer hsession =>
    obtain ⟨-, -, rfl⟩ := PaseResponder.onPake3_ok hresponder
    obtain rfl := Option.some.inj hr
    exact absurd rfl hlive
  | lapsed hlapsed | closed hclosed | released => cases hr
  | reopened =>
    have hdead : h.node.view.isLive = false := hop
    have hpase : h.node.view.pase = some r := hr
    rw [PaseView.isLive, hpase] at hdead
    simp [hlive] at hdead

lemma room_after (hbounded : h.Bounded) (deadline : Instant)
    (hchannel : (after p store h op).node.view.admission.channel = .establishing deadline) :
    (after p store h op).node.view.admission.isExhausted = false := by
  obtain ⟨out, v', hchange, hview, -, -, -, -, -⟩ := after_cases p store h op
  rw [hview] at hchannel ⊢
  cases hchange with
  | kept hidle hanswer hsession | outside => exact hbounded.room deadline hchannel
  | @refused m hm hgate =>
    cases hlapsed : h.node.view.admission.hasLapsed m.now with
    | true =>
      rw [PaseAdmission.expire_of_lapsed hlapsed] at hchannel
      cases hchannel
    | false =>
      rw [PaseAdmission.expire_of_not_lapsed hlapsed] at hchannel ⊢
      exact hbounded.room deadline hchannel
  | stalled hm hgate hdraws | begun hm hgate hdraws hresponder => exact (isExhausted_of_admits hgate).1
  | proved hm hpase hresponder | undrawn hm hpase hresponder => exact hbounded.room deadline hchannel
  | _ => cases hchannel

lemma not_used_zero : ¬maxFailedAttempts.toNat ≤ 0 := by decide

/-- With the last attempt the window is closed. -/
lemma fail_window (h : maxFailedAttempts.toNat ≤ v.fail.admission.failures.toNat) :
    v.fail.window.installed = none := by
  have hexhausted : v.admission.failed.isExhausted = true := (isExhausted_iff _).mpr h
  rw [PaseView.fail]
  dsimp only
  rw [if_pos hexhausted]
  rfl

/-- The last attempt closes the window. -/
lemma shut_after (hbounded : h.Bounded) (hop : OnTime h op)
    (hused : maxFailedAttempts.toNat ≤ (after p store h op).failedIn)
    (hwindow : (after p store h op).newWindow = false) :
    (after p store h op).node.view.window.installed = none := by
  have hcount := count_after p store op hbounded.count
  have hexhausted : maxFailedAttempts.toNat ≤
      (after p store h op).node.view.admission.failures.toNat := by
    rw [hcount]
    exact le_min hused (by decide)
  obtain ⟨out, v', hchange, hview, -, -, -, hfailed, hnew⟩ := after_cases p store h op
  rw [hview] at hexhausted ⊢
  rw [hfailed] at hused
  rw [hnew] at hwindow
  -- A step in which no attempt is lost leaves the window and what is known of it.
  have hsame : op ≠ .reopen → paseOf out = none → op.lost h.node.view v' = 0 →
      op.newWindowAfter h v' = (h.newWindow && decide (op.lost h.node.view v' = 0)) →
      h.node.view.window.installed = none := by
    intro hreopen hnone hlost hnewWindow
    rw [hnone, failedAfter_of_none hreopen, hlost] at hused
    rw [hnewWindow, hlost] at hwindow
    exact hbounded.shut hused (by simpa using hwindow)
  cases hchange with
  | kept hidle hanswer hsession =>
    refine hsame (ne_reopen_of_isIdle hidle) hsession (lost_of_isIdle hidle) ?_
    cases op with
    | outside window keys stack => cases hidle
    | _ => rfl
  | outside => simpa [GateOp.newWindowAfter] using hwindow
  | @refused m hm hgate =>
    have hlapsed : h.node.view.admission.hasLapsed m.now = false := hasLapsed_of_refused hm hop hgate
    exact hsame (by simp) (paseOf_refusal _ _) (by rw [lost_request hm, hlapsed, hgate]; rfl) rfl
  | stalled hm hgate hdraws =>
    have hroom := (isExhausted_of_admits hgate).1
    exact absurd ((isExhausted_iff _).mpr hexhausted) (by rw [Bool.not_eq_true]; exact hroom)
  | malformed hm hgate hdraws => exact fail_window hexhausted
  | begun hm hgate hdraws hresponder =>
    have hroom := (isExhausted_of_admits hgate).1
    exact absurd ((isExhausted_iff _).mpr hexhausted) (by rw [Bool.not_eq_true]; exact hroom)
  | proved hm hpase hresponder =>
    refine hsame (by simp) rfl ?_ rfl
    rw [lost_reply (by rw [hm]; decide)]
    simp
  | rejected hm hpase => exact fail_window hexhausted
  | undrawn hm hpase hresponder =>
    refine hsame (by simp) rfl ?_ rfl
    rw [lost_reply (by rw [hm]; decide)]
    simp
  | established hm hpase hresponder hanswer hsession =>
    rw [hsession] at hused
    exact absurd hused not_used_zero
  | lapsed hlapsed => exact fail_window hexhausted
  | closed hclosed | released => exact hsame (by simp) rfl rfl rfl
  | reopened => exact absurd hused not_used_zero

/-- A Pake3 that is on time and establishes a session comes within the time of its request. -/
lemma inTime_after (hbounded : h.Bounded) (hop : OnTime h op) :
    ∀ session ∈ (after p store h op).sessions, ∃ request, session.request = some request ∧
      session.time ≤ request.message.now.saturatingAdd paseEstablishmentTimeout := by
  rcases sessions_after p store h op with hsame | ⟨m, r, reply, keys, r', rfl, hpase, hok, hm, hnew⟩
  · rw [hsame]
    exact hbounded.inTime
  · intro session hmem
    rw [hnew] at hmem
    rcases List.mem_cons.mp hmem with rfl | hmem
    · obtain ⟨hstate, hconfirmed, -⟩ := PaseResponder.onPake3_ok hok
      obtain ⟨request, hrequest, hchannel⟩ := hbounded.live r hpase (by rw [hstate]; simp)
      have hlapsed : h.node.channel.admission.hasLapsed m.now = false := by
        by_contra hlate
        rw [Bool.not_eq_false] at hlate
        have hnot := (hop hlate).2 hm
        rw [show h.node.channel.pase = some r from hpase, Option.any_some, hconfirmed] at hnot
        cases hnot
      exact ⟨request, hrequest, PaseAdmission.le_of_not_lapsed hchannel hlapsed⟩
    · exact hbounded.inTime session hmem

lemma Bounded.after (hbounded : h.Bounded) (hop : OnTime h op) : (after p store h op).Bounded where
  live := live_after hbounded hop
  room := room_after hbounded
  count := count_after p store op hbounded.count
  shut := shut_after hbounded hop
  inTime := inTime_after hbounded hop

lemma Bounded.new (start : ChannelNode S X K) : (new start : GateHistory S X N K).Bounded where
  live := fun r hr => by cases hr
  room := fun deadline hchannel => by cases hchannel
  count := rfl
  shut := fun hused => absurd hused not_used_zero
  inTime := fun session hmem => by cases hmem

/-- Once the attempts are used up, only `reopen` gives them back, and no session is established. -/
lemma used_after (p : Primitives) (store : KeyStore K) (hbounded : h.Bounded)
    (hused : maxFailedAttempts.toNat ≤ h.failedIn) (hreopen : op ≠ .reopen) :
    (after p store h op).sessions = h.sessions ∧
      maxFailedAttempts.toNat ≤ (after p store h op).failedIn := by
  have hexhausted : h.node.view.admission.isExhausted = true := by
    rw [isExhausted_iff, hbounded.count]
    exact le_min hused (by decide)
  obtain ⟨out, v', hchange, -, -, hsessions, -, hfailed, -⟩ := after_cases p store h op
  have hquiet : paseOf out = none → (GateHistory.after p store h op).sessions = h.sessions ∧
      maxFailedAttempts.toNat ≤ (GateHistory.after p store h op).failedIn := by
    intro hnone
    rw [hsessions, hfailed, hnone, failedAfter_of_none hreopen]
    exact ⟨sessionsAfter_none h op, hused.trans (Nat.le_add_right _ _)⟩
  cases hchange with
  | kept hidle hanswer hsession => exact hquiet hsession
  | refused hm hgate => exact hquiet (paseOf_refusal _ _)
  | established hm hpase hresponder hanswer hsession =>
    have hstate := (PaseResponder.onPake3_ok hresponder).1
    obtain ⟨request, -, hchannel⟩ := hbounded.live _ hpase (by rw [hstate]; simp)
    rw [hbounded.room _ hchannel] at hexhausted
    cases hexhausted
  | _ => exact hquiet rfl

lemma used_run (ops : List (GateOp S X N K)) : ∀ {h : GateHistory S X N K}, h.Bounded →
    maxFailedAttempts.toNat ≤ h.failedIn → GateOp.reopen ∉ ops →
    Throughout (after p store) OnTime h ops → (run p store h ops).sessions = h.sessions := by
  induction ops with
  | nil => intros; rfl
  | cons op ops ih =>
    intro h hbounded hused hreopen hrun
    rw [List.mem_cons, not_or] at hreopen
    obtain ⟨hsessions, hstill⟩ := used_after p store hbounded hused (Ne.symm hreopen.1)
    rw [run_cons, ih (hbounded.after hrun.1) hstill hreopen.2 hrun.2, hsessions]

/-- In a run from a new channel that is on time: every PASE session is established at most sixty seconds
after its request was let in; and once twenty attempts in a row are lost the window is closed, unless
another has been put up since, and no PASE session is established until the channel is reopened. -/
theorem guessing_is_bounded (p : Primitives) (store : KeyStore K) (start : ChannelNode S X K)
    (ops : List (GateOp S X N K)) (hrun : Throughout (after p store) OnTime (new start) ops) :
    let h := run p store (new start) ops
    (∀ session ∈ h.sessions, ∃ request ∈ h.answered, session.request = some request ∧
      session.config = some (request.config p) ∧
      session.time.micros.toNat ≤ request.message.now.micros.toNat + 60 * 1000000) ∧
    (maxFailedAttempts.toNat ≤ h.failedIn →
      (h.newWindow = false → h.node.window.installed = none) ∧
      ∀ more, GateOp.reopen ∉ more → Throughout (after p store) OnTime h more →
        (run p store h more).sessions = h.sessions) := by
  have hbounded : (run p store (new start) ops).Bounded :=
    hrun.invariant (I := Bounded) (fun h op hprev hop => hprev.after hop) (.new start)
  have hbegun := begun_run p store start ops
  refine ⟨?_, fun hused => ⟨hbounded.shut hused, fun more hreopen hmore =>
    used_run more hbounded hused hreopen hmore⟩⟩
  intro session hmem
  obtain ⟨request, hrequest, heq, hconfig⟩ := hbegun.sessions session hmem
  obtain ⟨request', heq', htime⟩ := hbounded.inTime session hmem
  obtain rfl : request = request' := Option.some.inj (heq.symm.trans heq')
  refine ⟨request, hrequest, heq, hconfig, ?_⟩
  have hle := Instant.le_def.mp htime
  rw [Instant.toNat_saturatingAdd] at hle
  exact hle.trans (min_le_left _ _)

/-- A handshake whose last message comes at second 59. -/
theorem guessing_is_bounded_in_time :
    let h := Sample.after (Sample.handshake ⟨0⟩ ⟨59000000⟩)
    Throughout (after Sample.primitives Sample.noKeys) OnTime (new Sample.start)
        (Sample.handshake ⟨0⟩ ⟨59000000⟩) ∧
      h.sessions.length = 1 ∧
      ∀ session ∈ h.sessions, ∃ request ∈ h.answered, session.request = some request ∧
        session.config = some (request.config Sample.primitives) ∧
        session.time.micros.toNat ≤ request.message.now.micros.toNat + 60 * 1000000 := by
  have hrun : Throughout (after Sample.primitives Sample.noKeys) OnTime (new Sample.start)
      (Sample.handshake ⟨0⟩ ⟨59000000⟩) := by
    decide +kernel
  exact ⟨hrun, by decide +kernel,
    (guessing_is_bounded Sample.primitives Sample.noKeys Sample.start _ hrun).1⟩

/-- The owner does not poll, and the last message of a handshake comes at second 61: its session is
established all the same. -/
theorem late_pake3_establishes :
    ∃ session ∈ (Sample.after (Sample.handshake ⟨0⟩ ⟨61000000⟩)).sessions, ∃ request,
      session.request = some request ∧
      request.message.now.micros.toNat + 60 * 1000000 < session.time.micros.toNat := by
  have hany : ((Sample.after (Sample.handshake ⟨0⟩ ⟨61000000⟩)).sessions.any fun session =>
      session.request.any fun request =>
        decide (request.message.now.micros.toNat + 60 * 1000000 < session.time.micros.toNat)) =
      true := by
    decide +kernel
  obtain ⟨session, hmem, hrequest⟩ := List.any_eq_true.mp hany
  obtain ⟨request, heq, hlate⟩ := (Option.any_eq_true _ _).mp hrequest
  exact ⟨session, hmem, request, heq, of_decide_eq_true hlate⟩

end GateHistory

end MatterKit.Sc
