import MatterKit.Fabric
import MatterKit.Msg.Ideal

/-!
# The Check-In message

`icd/checkin.rs`: how a device that has been asleep tells a client that it is awake. There is no
session, only a key that the client handed over when it registered, so the nonce is computed from the
key and a counter and goes out in front.

What `encrypt` makes and what `decrypt` accepts are the same octet strings, up to what the AEAD does
(`encrypt_eq_ok_iff`, `decrypt_eq_ok_iff`). A client's `Registration` remembers where the counter stood
and how far past it the latest message was, and `accept` takes what is further (`accept_isOk_iff`).
-/

namespace MatterKit.Icd

open Lib Cursor

/-! ## Messages -/

/-- Source: `crypto/mod.rs`, `AEAD_NONCE_LENGTH_BYTES`. -/
def nonceLength : ℕ := 13

/-- Source: `OVERHEAD`. -/
def overhead : ℕ := nonceLength + 4 + 16

/-- Source: `CheckIn`. -/
structure CheckIn where
  counter : UInt32
  applicationData : List UInt8

section messages

variable (c : Crypto) (kd : KeyDerivation)

/-- Source: `nonce`. -/
def nonce (key : SymmetricKey) (counter : UInt32) : Except ErrorCode (List UInt8) := do
  let digest ← kd.hmac key.bytes.toList (leU32 counter)
  ensure (nonceLength ≤ digest.length) .bufferTooSmall
  pure (digest.take nonceLength)

/-- Builds a message in a buffer of `room` octets.
Source: `encrypt`. -/
def encrypt (key : SymmetricKey) (counter : UInt32) (applicationData : List UInt8) (room : ℕ) :
    Except ErrorCode (List UInt8) := do
  let n ← nonce kd key counter
  ensure (overhead + applicationData.length ≤ room) .bufferTooSmall
  let (ciphertext, tag) ← okOr (c.aeadEncrypt key n [] (leU32 counter ++ applicationData))
    .integrityCheckFailed
  pure (n ++ ciphertext ++ tag)

/-- Source: `decrypt`. -/
def decrypt (key : SymmetricKey) (buf : List UInt8) : Except ErrorCode CheckIn := do
  ensure (overhead ≤ buf.length) .btpMalformed
  let received := buf.take nonceLength
  let rest := buf.drop nonceLength
  let bodyLen := rest.length - 16
  let body ← okOr (c.aeadDecrypt key received [] (rest.take bodyLen) (rest.drop bodyLen))
    .integrityCheckFailed
  ensure (4 ≤ body.length) .btpMalformed
  let counter := UInt32.ofNat (ofLe (body.take 4))
  let derived ← nonce kd key counter
  ensure (derived = received) .integrityCheckFailed
  pure ⟨counter, body.drop 4⟩

end messages

variable {c : Crypto} {kd : KeyDerivation} {key : SymmetricKey}

variable {counter : UInt32}

lemma length_nonce {n : List UInt8} (h : nonce kd key counter = .ok n) : n.length = nonceLength := by
  obtain ⟨digest, _, h⟩ := bind_eq_ok.mp h
  obtain ⟨_, hlength, h⟩ := bind_eq_ok.mp h
  have hle : nonceLength ≤ digest.length := ensure_eq_ok.mp hlength
  cases h
  exact List.length_take_of_le hle

/-- What `encrypt` makes. -/
lemma encrypt_eq_ok_iff {data buf : List UInt8} {room : ℕ} : encrypt c kd key counter data room = .ok buf ↔
      overhead + data.length ≤ room ∧ ∃ n ciphertext tag, nonce kd key counter = .ok n ∧
          c.aeadEncrypt key n [] (leU32 counter ++ data) = some (ciphertext, tag) ∧
          buf = n ++ ciphertext ++ tag := by
  unfold encrypt
  constructor
  · intro h
    obtain ⟨n, hn, h⟩ := bind_eq_ok.mp h
    obtain ⟨_, hroom, h⟩ := bind_eq_ok.mp h
    obtain ⟨⟨ciphertext, tag⟩, hseal, h⟩ := bind_eq_ok.mp h
    cases h
    exact ⟨ensure_eq_ok.mp hroom, n, ciphertext, tag, hn, okOr_eq_ok.mp hseal, rfl⟩
  · rintro ⟨hroom, n, ciphertext, tag, hn, hseal, rfl⟩
    rw [hn, ok_bind, ensure_of hroom, ok_bind, hseal]
    rfl

/-- The counter of a plaintext, and what comes after it. -/
lemma counter_of_plaintext {body data : List UInt8} (hbody : 4 ≤ body.length)
    (hcounter : UInt32.ofNat (ofLe (body.take 4)) = counter) (hdata : body.drop 4 = data) :
    body = leU32 counter ++ data := by
  subst hcounter hdata
  have hlength : (body.take 4).length = 4 := List.length_take_of_le hbody
  have hlt : ofLe (body.take 4) < 2 ^ 32 := by
    calc ofLe (body.take 4) < 256 ^ (body.take 4).length := ofLe_lt _
      _ = 2 ^ 32 := by rw [hlength]; rfl
  have htake : leU32 (UInt32.ofNat (ofLe (body.take 4))) = body.take 4 := by
    rw [leU32, UInt32.toNat_ofNat', Nat.mod_eq_of_lt hlt]
    calc leBytes 4 (ofLe (body.take 4)) = leBytes (body.take 4).length (ofLe (body.take 4)) := by
          rw [hlength]
      _ = body.take 4 := leBytes_ofLe _
  rw [htake, List.take_append_drop]

lemma ofLe_leU32 (counter : UInt32) : UInt32.ofNat (ofLe (leU32 counter)) = counter := by
  rw [leU32, ofLe_leBytes_of_lt counter.toNat_lt]
  exact UInt32.ofNat_toNat

/-- What `decrypt` accepts. -/
lemma decrypt_eq_ok_iff {buf data : List UInt8} : decrypt c kd key buf = .ok ⟨counter, data⟩ ↔
      ∃ n ciphertext tag, nonce kd key counter = .ok n ∧ tag.length = 16 ∧
        c.aeadDecrypt key n [] ciphertext tag = some (leU32 counter ++ data) ∧
        buf = n ++ ciphertext ++ tag := by
  unfold decrypt
  constructor
  · intro h
    obtain ⟨_, hlength, h⟩ := bind_eq_ok.mp h
    have hle : overhead ≤ buf.length := ensure_eq_ok.mp hlength
    obtain ⟨body, hopen, h⟩ := bind_eq_ok.mp h
    obtain ⟨_, hbody, h⟩ := bind_eq_ok.mp h
    obtain ⟨derived, hderived, h⟩ := bind_eq_ok.mp h
    obtain ⟨_, hsame, hdone⟩ := bind_eq_ok.mp h
    obtain rfl : derived = buf.take nonceLength := ensure_eq_ok.mp hsame
    obtain ⟨hcounter, hdata⟩ := CheckIn.mk.inj (Except.ok.inj hdone)
    rw [hcounter] at hderived
    have hplain := counter_of_plaintext (ensure_eq_ok.mp hbody) hcounter hdata
    rw [hplain] at hopen
    refine ⟨_, _, _, hderived, ?_, okOr_eq_ok.mp hopen, ?_⟩
    · simp only [overhead, nonceLength] at hle
      simp only [List.length_drop, nonceLength]
      omega
    · rw [List.append_assoc, List.take_append_drop, List.take_append_drop]
  · rintro ⟨n, ciphertext, tag, hn, htag, hopen, rfl⟩
    have hciphertext : ciphertext.length = 4 + data.length := by
      rw [← c.length_decrypt hopen, List.length_append, length_leU32]
    have hlength : n.length = nonceLength := length_nonce hn
    have hle : overhead ≤ (n ++ ciphertext ++ tag).length := by
      simp only [List.length_append, hlength, hciphertext, htag, overhead]
      omega
    have hrest : (n ++ ciphertext ++ tag).drop nonceLength = ciphertext ++ tag := by
      rw [List.append_assoc, ← hlength, List.drop_left]
    have hreceived : (n ++ ciphertext ++ tag).take nonceLength = n := by
      rw [List.append_assoc, ← hlength, List.take_left]
    have hbodyLen : (ciphertext ++ tag).length - 16 = ciphertext.length := by
      rw [List.length_append, htag, Nat.add_sub_cancel]
    have htake : (leU32 counter ++ data).take 4 = leU32 counter :=
      List.take_left' (length_leU32 counter)
    have hdrop : (leU32 counter ++ data).drop 4 = data := List.drop_left' (length_leU32 counter)
    rw [ensure_of hle, ok_bind, hrest, hreceived]
    dsimp only
    rw [hbodyLen, List.take_left, List.drop_left, hopen,
      okOr_some, ok_bind, ensure_of (by simp), ok_bind, htake, hdrop, ofLe_leU32, hn, ok_bind,
      ensure_of rfl]
    rfl

/-! ## What a client remembers -/

/-- Source: `Registration`. -/
structure Registration where
  key : SymmetricKey
  start : UInt32
  offset : UInt32

namespace Registration

/-- Source: `Registration::new`. -/
def new (key : SymmetricKey) (startCounter : UInt32) : Registration := ⟨key, startCounter, 0⟩

/-- Source: `Registration::is_fresh`. -/
def isFresh (r : Registration) (counter : UInt32) : Bool := r.offset < counter - r.start

/-- Opens a message and records its counter.
Source: `Registration::accept`. -/
def accept (c : Crypto) (kd : KeyDerivation) (r : Registration) (buf : List UInt8) :
    Except ErrorCode CheckIn × Registration :=
  match decrypt c kd r.key buf with
  | .error e => (.error e, r)
  | .ok message =>
    if r.isFresh message.counter then
      (.ok message, { r with offset := message.counter - r.start })
    else (.error .duplicateMessage, r)

variable {r : Registration} {buf : List UInt8} {message : CheckIn}

/-- A message is accepted if it opens and its counter is further than any before. -/
lemma accept_eq_ok_iff : (r.accept c kd buf).1 = .ok message ↔
      decrypt c kd r.key buf = .ok message ∧ r.offset < message.counter - r.start := by
  unfold accept isFresh
  cases decrypt c kd r.key buf with
  | error e => simp
  | ok opened =>
    by_cases hfresh : r.offset < opened.counter - r.start
    · simp only [decide_eq_true hfresh, if_true, Except.ok.injEq]
      constructor
      · rintro rfl
        exact ⟨rfl, hfresh⟩
      · exact And.left
    · simp only [hfresh, decide_false, Bool.false_eq_true, if_false, reduceCtorEq, false_iff,
        Except.ok.injEq]
      rintro ⟨rfl, h⟩
      exact hfresh h

/-- An accepted message moves the offset to its own. -/
lemma accept_of_ok (h : (r.accept c kd buf).1 = .ok message) :
    r.accept c kd buf = (.ok message, { r with offset := message.counter - r.start }) := by
  obtain ⟨hopen, hfresh⟩ := accept_eq_ok_iff.mp h
  unfold accept isFresh
  rw [hopen]
  exact if_pos (decide_eq_true hfresh)

/-- A refused message changes nothing. -/
lemma accept_of_error {e : ErrorCode} (h : (r.accept c kd buf).1 = .error e) :
    (r.accept c kd buf).2 = r := by
  revert h
  unfold accept
  cases decrypt c kd r.key buf with
  | error e' => exact fun _ => rfl
  | ok opened =>
    by_cases hfresh : r.isFresh opened.counter
    · simp [hfresh]
    · simp [hfresh]

end Registration

end MatterKit.Icd
