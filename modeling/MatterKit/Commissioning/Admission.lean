import MatterKit.Fabric

/-!
# The commissioning window and the gate on PASE

`commissioning/window.rs` and `commissioning/admission.rs`. The window says which verifier a
commissioner runs PASE against and until when. The gate is the state of the one commissioning channel:
nothing in flight, a handshake that has until its deadline, or a session that has not been closed; and
how many attempts have failed.
-/

namespace MatterKit.Commissioning

/-! ## The window -/

/-- Source: `commissioning/window.rs`, `WindowStatus`. -/
inductive WindowStatus
  | notOpen
  | enhancedOpen
  | basicOpen

/-- The PAKE material an `OpenCommissioningWindow` installed.
Source: `commissioning/window.rs`, `EphemeralVerifier`. -/
structure EphemeralVerifier where
  verifier : Vector UInt8 97
  iterations : UInt32
  salt : List UInt8

/-- Source: `commissioning/window.rs`, `OpenWindow`. -/
structure OpenWindow where
  status : WindowStatus
  expiresAt : Instant
  adminFabric : Option FabricIndex
  adminVendor : Option VendorId
  discriminator : UInt16
  ephemeral : Option EphemeralVerifier

/-- Source: `commissioning/window.rs`, `CommissioningWindow`. -/
structure CommissioningWindow where
  installed : Option OpenWindow := none

namespace CommissioningWindow

/-- The window, if one is open as of `now`.
Source: `CommissioningWindow::open`. -/
def openAt (w : CommissioningWindow) (now : Instant) : Option OpenWindow :=
  w.installed.filter fun window => decide (now < window.expiresAt)

/-- Source: `CommissioningWindow::close`. -/
def close (_ : CommissioningWindow) : CommissioningWindow := ⟨none⟩

/-- The PAKE material a responder should use for this window.
Source: `CommissioningWindow::ephemeral`. -/
def ephemeral (w : CommissioningWindow) (now : Instant) : Option EphemeralVerifier :=
  (w.openAt now).bind OpenWindow.ephemeral

end CommissioningWindow

/-! ## The gate -/

/-- Source: `PASE_ESTABLISHMENT_TIMEOUT`. -/
def paseEstablishmentTimeout : Duration := .fromSecs 60

/-- Source: `MAX_FAILED_ATTEMPTS`. -/
def maxFailedAttempts : UInt8 := 20

/-- Source: `Admit`. -/
inductive Admit
  | admitted
  | busy
  | notCommissionable
  | attemptsExhausted
  deriving DecidableEq

/-- The state of the commissioning channel.
Source: `Channel`. -/
inductive ChannelState
  | idle
  | establishing (deadline : Instant)
  | established
  deriving DecidableEq

/-- Source: `PaseAdmission`. -/
structure PaseAdmission where
  channel : ChannelState := .idle
  failures : UInt8 := 0

namespace PaseAdmission

/-- One more failure, up to 255.
Source: Rust `u8::saturating_add`. -/
def oneMore (failures : UInt8) : UInt8 := if failures = 255 then 255 else failures + 1

/-- Whether the handshake in flight has run out of time.
Source: the condition of `PaseAdmission::expire`. -/
def hasLapsed (a : PaseAdmission) (now : Instant) : Bool :=
  match a.channel with
  | .establishing deadline => decide (deadline < now)
  | _ => false

/-- Gives up a handshake that has run out of time, counting it as a failure, and says whether it did.
Source: `PaseAdmission::expire`. -/
def expire (a : PaseAdmission) (now : Instant) : Bool × PaseAdmission :=
  if a.hasLapsed now then (true, { channel := .idle, failures := oneMore a.failures })
  else (false, a)

/-- Source: `PaseAdmission::admit`. -/
def admitRequest (a : PaseAdmission) (commissionable : Bool) (now : Instant) : Admit × PaseAdmission :=
  let (_, a) := a.expire now
  if a.failures ≥ maxFailedAttempts then (.attemptsExhausted, a)
  else if !commissionable then (.notCommissionable, a)
  else
    match a.channel with
    | .establishing _ | .established => (.busy, a)
    | .idle =>
      (.admitted,
        { a with channel := .establishing (now.saturatingAdd paseEstablishmentTimeout) })

/-- Source: `PaseAdmission::established`. -/
def established (_ : PaseAdmission) : PaseAdmission := { channel := .established, failures := 0 }

/-- Source: `Failure::exit_commissioning_mode` of `PaseAdmission::failed` and `PaseAdmission::poll`. -/
def isExhausted (a : PaseAdmission) : Bool := decide (a.failures ≥ maxFailedAttempts)

/-- Source: `PaseAdmission::failed`. Whether that was the last attempt is `isExhausted` of the
result. -/
def failed (a : PaseAdmission) : PaseAdmission :=
  { channel := .idle, failures := oneMore a.failures }

/-- Source: `PaseAdmission::closed`. -/
def closed (a : PaseAdmission) : PaseAdmission := { a with channel := .idle }

/-- Source: `PaseAdmission::reset`. -/
def reset (_ : PaseAdmission) : PaseAdmission := {}

/-- Whether a handshake has been given up, and the gate after it.
Source: `PaseAdmission::poll`. -/
def poll (a : PaseAdmission) (now : Instant) : Bool × PaseAdmission := a.expire now

/-- Source: `PaseAdmission::is_established`. -/
def isEstablished (a : PaseAdmission) : Bool := decide (a.channel = .established)

/-! ## What the gate answers -/

variable {a : PaseAdmission} {now : Instant}

lemma expire_of_not_lapsed (h : a.hasLapsed now = false) : a.expire now = (false, a) := by
  simp [expire, h]

lemma expire_of_lapsed (h : a.hasLapsed now = true) :
    a.expire now = (true, { channel := .idle, failures := oneMore a.failures }) := by
  simp [expire, h]

lemma le_of_not_lapsed {deadline : Instant} (hchannel : a.channel = .establishing deadline)
    (h : a.hasLapsed now = false) : now ≤ deadline := by
  rw [hasLapsed, hchannel, decide_eq_false_iff_not] at h
  exact not_lt.mp h

/-- Whether the gate lets a request in: once a lapsed handshake has been given up, nothing is in
flight and there are attempts left. -/
def admits (a : PaseAdmission) (now : Instant) : Bool :=
  !(a.expire now).2.isExhausted && decide ((a.expire now).2.channel = .idle)

lemma admitRequest_of_admits (h : a.admits now = true) : a.admitRequest true now = (.admitted,
      { (a.expire now).2 with
        channel := .establishing (now.saturatingAdd paseEstablishmentTimeout) }) := by
  obtain ⟨hroom, hidle⟩ : (a.expire now).2.isExhausted = false ∧ (a.expire now).2.channel = .idle := by
    simpa [admits] using h
  have hfailures : ¬(a.expire now).2.failures ≥ maxFailedAttempts := by
    simpa [isExhausted] using hroom
  rw [admitRequest]
  dsimp only
  rw [if_neg hfailures, hidle]
  rfl

lemma admitRequest_of_not_admits (h : a.admits now = false) : a.admitRequest true now =
      (if (a.expire now).2.isExhausted then .attemptsExhausted else .busy, (a.expire now).2) := by
  rw [admitRequest]
  dsimp only
  by_cases hfailures : (a.expire now).2.failures ≥ maxFailedAttempts
  · rw [if_pos hfailures, isExhausted, decide_eq_true hfailures, if_pos rfl]
  · have hroom : (a.expire now).2.isExhausted = false := by simp [isExhausted, hfailures]
    rw [if_neg hfailures, hroom]
    cases hchannel : (a.expire now).2.channel with
    | idle => simp [admits, hroom, hchannel] at h
    | establishing deadline | established => rfl

end PaseAdmission

end MatterKit.Commissioning
