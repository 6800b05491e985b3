import Mathlib.Tactic

/-!
# Errors, time and peer addresses

The vocabulary every layer shares: the error codes of `error.rs`, the saturating microsecond clock of
`platform/time.rs`, and the peer addresses of `platform/mod.rs`.

The arithmetic is defined on the machine word and every lemma about it is stated through `toNat`
(`Instant.toNat_saturatingAdd`, `Instant.toNat_saturatingDurationSince`), so that a comparison of
deadlines is a comparison of natural numbers with an explicit cap at `2 ^ 64 - 1`.
-/

namespace MatterKit

/-- What went wrong, locally.
Source: `error.rs`, `ErrorCode`. -/
inductive ErrorCode
  | tlvTruncated
  | tlvInvalidControl
  | tlvContainerMismatch
  | tlvWrongType
  | tlvInvalidUtf8
  | tlvInvalidTag
  | tlvDepthExceeded
  | tlvOutOfRange
  | tlvNotFound
  | tlvDuplicateTag
  | messageTruncated
  | unsupportedVersion
  | messageReserved
  | duplicateMessage
  | integrityCheckFailed
  | noExchange
  | noSession
  | mrpRetransmitExhausted
  | noSpace
  | busy
  | bufferTooSmall
  | invalidArgument
  | invalidState
  | alreadyExists
  | invalidAction
  | reportWouldChunk
  | certInvalid
  | certPathInvalid
  | certExpired
  | unsupported
  | derMalformed
  | attestationFailed
  | commissioningFailed
  | dnsTruncated
  | dnsMalformed
  | messageTooLarge
  | bdxAborted
  | btpMalformed
  | btpSequence
  | btpTimeout
  | platform
  deriving DecidableEq

/-! ## Saturating 64-bit arithmetic -/

/-- Addition that stops at the largest value.
Source: Rust `u64::saturating_add`. -/
def satAdd (a b : UInt64) : UInt64 := UInt64.ofNat (min (a.toNat + b.toNat) (2 ^ 64 - 1))

/-- Subtraction that stops at zero.
Source: Rust `u64::saturating_sub`. -/
def satSub (a b : UInt64) : UInt64 := UInt64.ofNat (a.toNat - b.toNat)

/-- Multiplication that stops at the largest value.
Source: Rust `u64::saturating_mul`. -/
def satMul (a b : UInt64) : UInt64 := UInt64.ofNat (min (a.toNat * b.toNat) (2 ^ 64 - 1))

variable (a b : UInt64)

@[simp] lemma toNat_satAdd : (satAdd a b).toNat = min (a.toNat + b.toNat) (2 ^ 64 - 1) := by
  unfold satAdd
  rw [UInt64.toNat_ofNat']
  omega

@[simp] lemma toNat_satSub : (satSub a b).toNat = a.toNat - b.toNat := by
  have := a.toNat_lt
  unfold satSub
  rw [UInt64.toNat_ofNat']
  omega

@[simp] lemma toNat_satMul : (satMul a b).toNat = min (a.toNat * b.toNat) (2 ^ 64 - 1) := by
  unfold satMul
  rw [UInt64.toNat_ofNat']
  omega

@[simp] lemma toNat_max : (max a b).toNat = max a.toNat b.toNat := by
  show (if a ≤ b then b else a).toNat = _
  split_ifs with h
  · exact (Nat.max_eq_right (UInt64.le_iff_toNat_le.mp h)).symm
  · exact (Nat.max_eq_left (Nat.le_of_not_le fun h' => h (UInt64.le_iff_toNat_le.mpr h'))).symm

lemma le_max_right_uint64 : b ≤ max a b := by
  rw [UInt64.le_iff_toNat_le, toNat_max]
  exact Nat.le_max_right _ _

/-! ## Durations and instants -/

/-- A span of time, in microseconds.
Source: `Duration`. -/
structure Duration where
  micros : UInt64
  deriving DecidableEq

/-- A point on a monotonic timeline, in microseconds since its origin.
Source: `Instant`. -/
structure Instant where
  micros : UInt64
  deriving DecidableEq

namespace Duration

/-- Source: `Duration::MAX`. -/
def max : Duration := ⟨UInt64.ofNat (2 ^ 64 - 1)⟩

/-- Source: `Duration::from_millis`. -/
def fromMillis (millis : UInt64) : Duration := ⟨satMul millis 1000⟩

/-- Source: `Duration::from_secs`. -/
def fromSecs (secs : UInt64) : Duration := ⟨satMul secs 1000000⟩

lemma toNat_fromSecs_le (secs : UInt64) : (fromSecs secs).micros.toNat ≤ secs.toNat * 1000000 := by
  have hmicros : (1000000 : UInt64).toNat = 1000000 := rfl
  rw [fromSecs, toNat_satMul, hmicros]
  exact Nat.min_le_left _ _

/-- Source: `Duration::saturating_add`. -/
def saturatingAdd (a b : Duration) : Duration := ⟨satAdd a.micros b.micros⟩

/-- Multiplication by `numerator / denominator`, split into whole and fractional parts; a zero
denominator is "never".
Source: `Duration::mul_ratio`. -/
def mulRatio (d : Duration) (numerator denominator : UInt64) : Duration :=
  if denominator = 0 then max
  else
    let whole := d.micros / denominator
    let rest := d.micros % denominator
    let fraction := satMul rest numerator / denominator
    ⟨satAdd (satMul whole numerator) fraction⟩

lemma micros_toNat_injective : Function.Injective fun d : Duration => d.micros.toNat := by
  rintro ⟨a⟩ ⟨b⟩ h
  exact congrArg Duration.mk (UInt64.toNat_inj.mp h)

instance : LinearOrder Duration := LinearOrder.lift' _ micros_toNat_injective

end Duration

namespace Instant

lemma micros_toNat_injective : Function.Injective fun i : Instant => i.micros.toNat := by
  rintro ⟨a⟩ ⟨b⟩ h
  exact congrArg Instant.mk (UInt64.toNat_inj.mp h)

instance : LinearOrder Instant := LinearOrder.lift' _ micros_toNat_injective

/-- Source: `Instant::saturating_add`. -/
def saturatingAdd (i : Instant) (d : Duration) : Instant := ⟨satAdd i.micros d.micros⟩

/-- How long from `earlier` to this instant; zero if this one is not later.
Source: `Instant::saturating_duration_since`. -/
def saturatingDurationSince (i earlier : Instant) : Duration := ⟨satSub i.micros earlier.micros⟩

/-- Whether this instant has been reached at `now`.
Source: `Instant::is_elapsed_at`. -/
def isElapsedAt (i now : Instant) : Bool := decide (i ≤ now)

lemma le_def {a b : Instant} : a ≤ b ↔ a.micros.toNat ≤ b.micros.toNat := Iff.rfl

lemma lt_def {a b : Instant} : a < b ↔ a.micros.toNat < b.micros.toNat := Iff.rfl

lemma toNat_saturatingAdd (i : Instant) (d : Duration) :
    (i.saturatingAdd d).micros.toNat = min (i.micros.toNat + d.micros.toNat) (2 ^ 64 - 1) :=
  toNat_satAdd _ _

end Instant

/-! ## Peers -/

/-- An IPv6 address, port and scope zone.
Source: `platform/mod.rs`, `PeerAddr`. -/
structure PeerAddr where
  addr : Vector UInt8 16
  port : UInt16
  scopeId : UInt32
  deriving DecidableEq

/-- Where a message came from, or goes to, whichever transport carried it.
Source: `platform/mod.rs`, `Peer`. -/
inductive Peer
  | udp (addr : PeerAddr)
  | ble (handle : UInt16)
  | tcp (addr : PeerAddr) (connection : UInt16)
  deriving DecidableEq

/-- Whether the transport is reliable on its own.
Source: `Peer::is_reliable`. -/
def Peer.isReliable : Peer → Bool
  | .udp _ => false
  | .ble _ | .tcp _ _ => true

end MatterKit
