import MatterKit.Clusters.IcdManagement
import MatterKit.Icd.CheckIn
import MatterKit.Lib.Runs

/-!
# Check-Ins arrive in order, or not at all

A client has registered with a device, and keeps the counter it was answered with. From then on the
device sends Check-In messages, to this client and to others, all from one counter; it may reboot and
restore the counter to a value ahead of what it has used.

While the counter has not come round to where the client's count began, a delivered octet string is
accepted exactly if the device sent it under the client's key, later than every message that was
accepted before (`accepted_iff_sent_later`).

Restoring the counter to the value before the start leaves no message to send (`come_round_refused`).
-/

namespace MatterKit.Icd

open Lib Cursor Clusters Tlv Dm Im

/-! ## The system -/

/-- A message that the device has sent. -/
structure Sent where
  key : SymmetricKey
  counter : UInt32
  applicationData : List UInt8
  octets : List UInt8

/-- The device and the client, the AEAD calls that have been made, the messages the device has sent, and
what the client has accepted. -/
structure CheckIns (N : ℕ) where
  device : IcdManagement N
  client : Registration
  log : List AeadCall
  sent : List Sent
  accepted : List (List UInt8)

/-- What happens next: the device sends a message under the key of a client, restores its counter, serves
a command or loses a fabric, or an octet string reaches the client. -/
inductive Op
  | send (key : SymmetricKey) (applicationData : List UInt8) (room : ℕ)
  | restore (value : UInt32)
  | command (command : CommandId) (fields : Option (List UInt8)) (ctx : InteractionContext)
      (w : TlvWriter) (tag : Tag)
  | fabricRemoved (fabric : FabricIndex)
  | deliver (octets : List UInt8)

/-- Whether the device sends a message. -/
def Op.isSend : Op → Bool
  | .send .. => true
  | _ => false

/-- How far a counter is past another, in the counting of 32 bits. -/
def past (origin counter : UInt32) : ℕ := (counter - origin).toNat

namespace CheckIns

variable {N : ℕ}

/-- A client that has been answered with a counter. -/
def start (device : IcdManagement N) (key : SymmetricKey) (counter : UInt32) (log : List AeadCall) :
    CheckIns N := ⟨device, .new key counter, log, [], []⟩

/-- A message that cannot be made is not sent, and has spent its counter. -/
def send (aead : IdealAead) (kd : KeyDerivation) (s : CheckIns N) (key : SymmetricKey)
    (applicationData : List UInt8) (room : ℕ) : CheckIns N :=
  let (counter, device) := s.device.nextCheckInCounter
  match encrypt (aead.toCrypto s.log) kd key counter applicationData room with
  | .error _ => { s with device := device }
  | .ok octets =>
    { s with
      device := device
      log := s.log ++ [⟨key, octets.take nonceLength, [], leU32 counter ++ applicationData⟩]
      sent := s.sent ++ [⟨key, counter, applicationData, octets⟩] }

/-- An octet string reaches the client. -/
def deliver (aead : IdealAead) (kd : KeyDerivation) (s : CheckIns N) (octets : List UInt8) :
    CheckIns N :=
  match s.client.accept (aead.toCrypto s.log) kd octets with
  | (.error _, client) => { s with client := client }
  | (.ok _, client) => { s with client := client, accepted := s.accepted ++ [octets] }

/-- One step of the system. -/
def step (aead : IdealAead) (kd : KeyDerivation) (s : CheckIns N) : Op → CheckIns N
  | .send key applicationData room => s.send aead kd key applicationData room
  | .restore value => { s with device := s.device.restoreCounter value }
  | .command command fields ctx w tag =>
    { s with device := (s.device.invoke command fields ctx w tag).2 }
  | .fabricRemoved fabric => { s with device := s.device.removeFabric fabric }
  | .deliver octets => s.deliver aead kd octets

/-- The counter is restored only to values that no message sent so far is past, counted from `origin`. -/
def Ahead (origin : UInt32) (s : CheckIns N) : Op → Prop
  | .restore value => ∀ m ∈ s.sent, past origin m.counter ≤ past origin value
  | _ => True

instance (origin : UInt32) (s : CheckIns N) : ∀ op, Decidable (s.Ahead origin op)
  | .restore _ => List.decidableBAll _ _
  | .send .. | .command .. | .fabricRemoved _ | .deliver _ => .isTrue trivial

/-- And it is not advanced to `origin` itself: it stays less than `2 ^ 32` past it. -/
def Within (origin : UInt32) (s : CheckIns N) (op : Op) : Prop :=
  s.Ahead origin op ∧ (op.isSend → s.device.counter + 1 ≠ origin)

instance (origin : UInt32) (s : CheckIns N) (op : Op) : Decidable (s.Within origin op) :=
  inferInstanceAs (Decidable (_ ∧ _))

/-- An octet string is the message that was sent `i`-th, under a key. -/
def SentAt (s : CheckIns N) (key : SymmetricKey) (octets : List UInt8) (i : ℕ) : Prop :=
  ∃ m, s.sent[i]? = some m ∧ m.key = key ∧ m.octets = octets

/-- An octet string is a message under a key that was sent later than every message accepted so far. -/
def SentLater (s : CheckIns N) (key : SymmetricKey) (octets : List UInt8) : Prop :=
  ∃ i, s.SentAt key octets i ∧ ∀ earlier ∈ s.accepted, ∀ j, s.SentAt key earlier j → j < i

/-- The client accepts an octet string that reaches it now. -/
def Accepts (aead : IdealAead) (kd : KeyDerivation) (s : CheckIns N) (octets : List UInt8) : Prop :=
  ∃ message, (s.client.accept (aead.toCrypto s.log) kd octets).1 = .ok message

end CheckIns

/-! ## Counting from the start -/

/-- Places in a list whose values ascend are in the order of the values. -/
lemma index_lt_iff {α : Type} {f : α → ℕ} {l : List α} (hl : l.Pairwise fun a b => f a < f b)
    {i j : ℕ} {a b : α} (ha : l[i]? = some a) (hb : l[j]? = some b) : i < j ↔ f a < f b := by
  obtain ⟨hi, rfl⟩ := List.getElem?_eq_some_iff.mp ha
  obtain ⟨hj, rfl⟩ := List.getElem?_eq_some_iff.mp hb
  have hlt := List.pairwise_iff_getElem.mp hl
  constructor
  · exact hlt i j hi hj
  · intro h
    rcases Nat.lt_trichotomy i j with hij | rfl | hji
    · exact hij
    · exact absurd h (lt_irrefl _)
    · exact absurd h (lt_asymm (hlt j i hj hi hji))

/-- A counter that does not step onto the start is one further from it. -/
lemma past_succ {counter origin : UInt32} (h : counter + 1 ≠ origin) :
    past origin (counter + 1) = past origin counter + 1 := by
  have hne : (counter + 1).toNat ≠ origin.toNat := fun h' => h (UInt32.toNat_inj.mp h')
  have hcounter := counter.toNat_lt
  have horigin := origin.toNat_lt
  simp only [past, UInt32.toNat_sub, UInt32.toNat_add, UInt32.toNat_one] at hne ⊢
  omega

namespace CheckIns

section runs

variable {N : ℕ} {aead : IdealAead} {kd : KeyDerivation} {key : SymmetricKey} {origin : UInt32}
  {s : CheckIns N}

/-! ## The invariant -/

/-- The calls of the log hold the one that made a message. -/
def Sealed (aead : IdealAead) (kd : KeyDerivation) (log : List AeadCall) (m : Sent) : Prop :=
  ∃ n ciphertext tag, nonce kd m.key m.counter = .ok n ∧
    aead.encrypt m.key n [] (leU32 m.counter ++ m.applicationData) = some (ciphertext, tag) ∧
    m.octets = n ++ ciphertext ++ tag ∧
    ⟨m.key, n, [], leU32 m.counter ++ m.applicationData⟩ ∈ log

lemma Sealed.mono {log log' : List AeadCall} (hlog : log ⊆ log') {m : Sent}
    (h : Sealed aead kd log m) : Sealed aead kd log' m := by
  obtain ⟨n, ciphertext, tag, hn, hseal, hoctets, hmem⟩ := h
  exact ⟨n, ciphertext, tag, hn, hseal, hoctets, hlog hmem⟩

/-- What holds of every run: what was sent under the key is what the log has under it, the counters ascend
from the start up to the device's, and the client's offset is the largest that has arrived. -/
structure Invariant (aead : IdealAead) (kd : KeyDerivation) (key : SymmetricKey) (origin : UInt32)
    (s : CheckIns N) : Prop where
  registered : s.client.key = key ∧ s.client.start = origin
  sealed : ∀ m ∈ s.sent, Sealed aead kd s.log m
  logged : ∀ call ∈ s.log, call.key = key →
    ∃ m ∈ s.sent, m.key = key ∧ call.plaintext = leU32 m.counter ++ m.applicationData
  ascending : s.sent.Pairwise fun m m' => past origin m.counter < past origin m'.counter
  positive : ∀ m ∈ s.sent, 0 < past origin m.counter
  behind : ∀ m ∈ s.sent, past origin m.counter ≤ past origin s.device.counter
  arrived : ∀ octets ∈ s.accepted,
    ∃ m ∈ s.sent, m.key = key ∧ m.octets = octets ∧ past origin m.counter ≤ s.client.offset.toNat
  reached : s.client.offset = 0 ∨
    ∃ m ∈ s.sent, m.key = key ∧ m.octets ∈ s.accepted ∧ past origin m.counter = s.client.offset.toNat

namespace Invariant

lemma start (device : IcdManagement N) {log : List AeadCall} (hnew : ∀ call ∈ log, call.key ≠ key) :
    Invariant aead kd key origin (.start device key origin log) where
  registered := ⟨rfl, rfl⟩
  sealed := by simp [CheckIns.start]
  logged := fun call hcall hkey => absurd hkey (hnew call hcall)
  ascending := .nil
  positive := by simp [CheckIns.start]
  behind := by simp [CheckIns.start]
  arrived := by simp [CheckIns.start]
  reached := .inl rfl

/-- Under the key, what opens is what was sent. -/
lemma decrypt_eq_ok_iff (h : s.Invariant aead kd key origin) (hopens : aead.Opens)
    {octets data : List UInt8} {counter : UInt32} :
    decrypt (aead.toCrypto s.log) kd key octets = .ok ⟨counter, data⟩ ↔
      ∃ m ∈ s.sent, m.key = key ∧ m.octets = octets ∧ m.counter = counter ∧
        m.applicationData = data := by
  rw [Icd.decrypt_eq_ok_iff]
  constructor
  · rintro ⟨n, ciphertext, tag, hn, -, hopen, rfl⟩
    obtain ⟨hlog, hseal⟩ := hopens.decrypt_eq_some_iff.mp hopen
    obtain ⟨m, hm, hkey, hplain⟩ := h.logged _ hlog rfl
    obtain ⟨hcounter, hdata⟩ := List.append_inj hplain (by simp)
    have hcounter : m.counter = counter := by
      rw [← ofLe_leU32 m.counter, ← hcounter, ofLe_leU32]
    obtain ⟨n', ciphertext', tag', hn', hseal', hoctets, -⟩ := h.sealed m hm
    rw [hkey, hcounter] at hn'
    obtain rfl : n' = n := Except.ok.inj (hn'.symm.trans hn)
    rw [hkey, hcounter, ← hdata] at hseal'
    obtain ⟨rfl, rfl⟩ := Prod.mk.inj (Option.some.inj (hseal'.symm.trans hseal))
    exact ⟨m, hm, hkey, hoctets, hcounter, hdata.symm⟩
  · rintro ⟨m, hm, rfl, rfl, rfl, rfl⟩
    obtain ⟨n, ciphertext, tag, hn, hseal, hoctets, hlog⟩ := h.sealed m hm
    exact ⟨n, ciphertext, tag, hn, (aead.length_encrypt hseal).2, hopens hlog hseal, hoctets⟩

/-- A message under the key has one counter. -/
lemma counter_eq (h : s.Invariant aead kd key origin) (hopens : aead.Opens) {m m' : Sent}
    (hm : m ∈ s.sent) (hm' : m' ∈ s.sent) (hkey : m.key = key) (hkey' : m'.key = key)
    (hoctets : m.octets = m'.octets) : m.counter = m'.counter := by
  have hopened := (h.decrypt_eq_ok_iff hopens).mpr ⟨m, hm, hkey, hoctets, rfl, rfl⟩
  have hopened' := (h.decrypt_eq_ok_iff hopens).mpr ⟨m', hm', hkey', rfl, rfl, rfl⟩
  exact (CheckIn.mk.inj (Except.ok.inj (hopened.symm.trans hopened'))).1

/-- What the client accepts is a message under its key that is further than its offset. -/
lemma accepts_iff (h : s.Invariant aead kd key origin) (hopens : aead.Opens) {octets : List UInt8} :
    s.Accepts aead kd octets ↔
      ∃ m ∈ s.sent, m.key = key ∧ m.octets = octets ∧ s.client.offset.toNat < past origin m.counter := by
  obtain ⟨hkey, hstart⟩ := h.registered
  unfold Accepts
  simp only [Registration.accept_eq_ok_iff, hkey, hstart]
  constructor
  · rintro ⟨⟨counter, data⟩, hopen, hfresh⟩
    obtain ⟨m, hm, hmkey, hoctets, rfl, -⟩ := (h.decrypt_eq_ok_iff hopens).mp hopen
    exact ⟨m, hm, hmkey, hoctets, hfresh⟩
  · rintro ⟨m, hm, hmkey, hoctets, hfresh⟩
    exact ⟨⟨m.counter, m.applicationData⟩,
      (h.decrypt_eq_ok_iff hopens).mpr ⟨m, hm, hmkey, hoctets, rfl, rfl⟩, hfresh⟩

/-- Further than the offset is later than everything accepted. -/
lemma accepts_iff_sentLater (h : s.Invariant aead kd key origin) (hopens : aead.Opens)
    {octets : List UInt8} : s.Accepts aead kd octets ↔ s.SentLater key octets := by
  rw [h.accepts_iff hopens]
  constructor
  · rintro ⟨m, hm, hkey, hoctets, hfresh⟩
    obtain ⟨i, hi⟩ := List.mem_iff_getElem?.mp hm
    refine ⟨i, ⟨m, hi, hkey, hoctets⟩, ?_⟩
    rintro earlier hearlier j ⟨m', hj, hkey', rfl⟩
    obtain ⟨first, hfirst, hfirstKey, hsame, hle⟩ := h.arrived _ hearlier
    have hcounter : first.counter = m'.counter :=
      h.counter_eq hopens hfirst (List.mem_of_getElem? hj) hfirstKey hkey' hsame
    rw [hcounter] at hle
    exact (index_lt_iff h.ascending hj hi).mpr (lt_of_le_of_lt hle hfresh)
  · rintro ⟨i, ⟨m, hi, hkey, hoctets⟩, hlater⟩
    have hm : m ∈ s.sent := List.mem_of_getElem? hi
    refine ⟨m, hm, hkey, hoctets, ?_⟩
    rcases h.reached with hzero | ⟨last, hlast, hlastKey, hmem, hoffset⟩
    · rw [hzero]
      exact h.positive m hm
    · obtain ⟨j, hj⟩ := List.mem_iff_getElem?.mp hlast
      rw [← hoffset]
      exact (index_lt_iff h.ascending hj hi).mp (hlater _ hmem j ⟨last, hj, hlastKey, rfl⟩)

/-! ## Steps -/

/-- What the device does apart from sending keeps the invariant if no sent counter falls ahead of it. -/
lemma device (h : s.Invariant aead kd key origin) {device : IcdManagement N}
    (hbehind : ∀ m ∈ s.sent, past origin m.counter ≤ past origin device.counter) :
    Invariant aead kd key origin { s with device := device } :=
  { h with behind := hbehind }

/-- A message that is sent is the last, and the only one with its counter. -/
lemma send (h : s.Invariant aead kd key origin) {recipient : SymmetricKey} {data : List UInt8} {room : ℕ}
    (hwithin : s.device.counter + 1 ≠ origin) :
    Invariant aead kd key origin (s.send aead kd recipient data room) := by
  have hnext : ∀ m ∈ s.sent, past origin m.counter < past origin (s.device.counter + 1) := by
    intro m hm
    rw [past_succ hwithin]
    exact Nat.lt_succ_of_le (h.behind m hm)
  have hspent : Invariant aead kd key origin { s with device := s.device.nextCheckInCounter.2 } :=
    h.device fun m hm => (hnext m hm).le
  unfold CheckIns.send
  dsimp only [IcdManagement.nextCheckInCounter]
  split
  · exact hspent
  · rename_i octets hencrypt
    obtain ⟨-, n, ciphertext, tag, hn, hseal, rfl⟩ := encrypt_eq_ok_iff.mp hencrypt
    have htake : (n ++ ciphertext ++ tag).take nonceLength = n := by
      rw [List.append_assoc, ← length_nonce hn, List.take_left]
    exact
      { registered := h.registered
        sealed := by
          intro m hm
          rcases List.mem_append.mp hm with hold | hnew
          · exact (h.sealed m hold).mono (List.subset_append_left _ _)
          · obtain rfl := List.mem_singleton.mp hnew
            rw [htake]
            exact ⟨n, ciphertext, tag, hn, hseal, rfl, List.mem_append_right _ List.mem_cons_self⟩
        logged := by
          intro call hcall hkey
          rcases List.mem_append.mp hcall with hold | hnew
          · obtain ⟨m, hm, hmkey, hplain⟩ := h.logged call hold hkey
            exact ⟨m, List.mem_append_left _ hm, hmkey, hplain⟩
          · obtain rfl := List.mem_singleton.mp hnew
            exact ⟨_, List.mem_append_right _ List.mem_cons_self, hkey, rfl⟩
        ascending := by
          refine List.pairwise_append.mpr ⟨h.ascending, List.pairwise_singleton _ _, ?_⟩
          intro m hm m' hm'
          obtain rfl := List.mem_singleton.mp hm'
          exact hnext m hm
        positive := by
          intro m hm
          rcases List.mem_append.mp hm with hold | hnew
          · exact h.positive m hold
          · obtain rfl := List.mem_singleton.mp hnew
            exact (past_succ hwithin).symm ▸ Nat.succ_pos _
        behind := by
          intro m hm
          rcases List.mem_append.mp hm with hold | hnew
          · exact (hnext m hold).le
          · obtain rfl := List.mem_singleton.mp hnew
            exact le_rfl
        arrived := by
          intro octets hoctets
          obtain ⟨m, hm, hrest⟩ := h.arrived octets hoctets
          exact ⟨m, List.mem_append_left _ hm, hrest⟩
        reached := by
          rcases h.reached with hzero | ⟨m, hm, hrest⟩
          · exact .inl hzero
          · exact .inr ⟨m, List.mem_append_left _ hm, hrest⟩ }

/-- What is accepted is a message that was sent, later than those before. -/
lemma deliver (h : s.Invariant aead kd key origin) (hopens : aead.Opens) (octets : List UInt8) :
    Invariant aead kd key origin (s.deliver aead kd octets) := by
  unfold CheckIns.deliver
  rcases hresult : (s.client.accept (aead.toCrypto s.log) kd octets).1 with e | message
  · have hclient := Registration.accept_of_error hresult
    rw [← Prod.eta (s.client.accept (aead.toCrypto s.log) kd octets), hresult, hclient]
    exact h
  · obtain ⟨hkey, hstart⟩ := h.registered
    have hopened := (Registration.accept_eq_ok_iff.mp hresult)
    rw [hkey, hstart] at hopened
    obtain ⟨m, hm, hmkey, hoctets, hcounter, -⟩ := (h.decrypt_eq_ok_iff hopens).mp hopened.1
    rw [Registration.accept_of_ok hresult, hstart]
    dsimp only
    exact
      { registered := ⟨hkey, rfl⟩
        sealed := h.sealed
        logged := h.logged
        ascending := h.ascending
        positive := h.positive
        behind := h.behind
        arrived := by
          intro delivered hdelivered
          rcases List.mem_append.mp hdelivered with hold | hnew
          · obtain ⟨first, hfirst, hfirstKey, hsame, hle⟩ := h.arrived delivered hold
            exact ⟨first, hfirst, hfirstKey, hsame, (lt_of_le_of_lt hle hopened.2).le⟩
          · obtain rfl := List.mem_singleton.mp hnew
            exact ⟨m, hm, hmkey, hoctets, (congrArg (past origin) hcounter).le⟩
        reached := .inr ⟨m, hm, hmkey, by simp [hoctets], congrArg (past origin) hcounter⟩ }

lemma step (hopens : aead.Opens) (s : CheckIns N) (op : Op) (h : s.Invariant aead kd key origin)
    (hwithin : s.Within origin op) : Invariant aead kd key origin (s.step aead kd op) := by
  cases op with
  | send recipient data room => exact h.send (hwithin.2 rfl)
  | restore value => exact h.device hwithin.1
  | command command fields ctx w tag =>
    apply h.device
    rw [IcdManagement.counter_invoke]
    exact h.behind
  | fabricRemoved fabric => exact h.device h.behind
  | deliver octets => exact h.deliver hopens octets

end Invariant

/-! ## Main result -/

/-- A client registers under a key that nothing has been encrypted with. While the device's counter does
not come round to where it stood, a delivered octet string is accepted exactly if it was sent under the
key, later than every message accepted so far; so none is accepted twice, and the latest is accepted. -/
theorem accepted_iff_sent_later (hopens : aead.Opens) {icd icd' : IcdManagement N}
    {fields : Option (List UInt8)} {ctx : InteractionContext} {answered : UInt32}
    (hregister : icd.registerClient fields ctx = .ok (answered, icd')) {log : List AeadCall}
    (hnew : ∀ call ∈ log, call.key ≠ key) {ops : List Op}
    (hrun : Throughout (step aead kd) (Within icd.counter) (.start icd' key answered log) ops)
    (octets : List UInt8) :
    let s := ops.foldl (step aead kd) (.start icd' key answered log)
    (s.Accepts aead kd octets ↔ s.SentLater key octets) ∧
      (octets ∈ s.accepted → ¬ s.Accepts aead kd octets) ∧
      ∀ i, s.SentAt key octets i → (∀ j other, s.SentAt key other j → j ≤ i) →
        octets ∉ s.accepted → s.Accepts aead kd octets := by
  obtain ⟨rfl, -⟩ := IcdManagement.registerClient_eq_ok hregister
  have h : Invariant aead kd key icd.counter
      (ops.foldl (step aead kd) (.start icd' key icd.counter log)) :=
    hrun.invariant (Invariant.step hopens) (.start icd' hnew)
  have hiff : Accepts aead kd _ octets ↔ SentLater _ key octets := h.accepts_iff_sentLater hopens
  refine ⟨hiff, ?_, ?_⟩
  · intro haccepted haccepts
    obtain ⟨i, hi, hlater⟩ := hiff.mp haccepts
    exact absurd (hlater octets haccepted i hi) (Nat.lt_irrefl i)
  · intro i hi hlatest hnot
    refine hiff.mpr ⟨i, hi, ?_⟩
    intro earlier hearlier j hj
    rcases Nat.lt_or_eq_of_le (hlatest j earlier hj) with hlt | rfl
    · exact hlt
    · obtain ⟨m, hm, -, rfl⟩ := hi
      obtain ⟨m', hm', -, rfl⟩ := hj
      obtain rfl : m = m' := Option.some.inj (hm.symm.trans hm')
      exact absurd hearlier hnot

end runs

/-! ## A device and its client -/

namespace Sample

/-- The counter is the digest. -/
def digests : KeyDerivation where
  kdf := fun inputKey _ _ _ => .ok inputKey
  hmac := fun _ message => .ok (message ++ List.replicate 28 0)

def key : SymmetricKey := ⟨Vector.replicate 16 7⟩

/-- A device with room for one client, whose counter is about to wrap. -/
def icd : IcdManagement 1 := ⟨.empty, 0xFFFFFFFE, 1, 1, id⟩

def ctx : InteractionContext := { fabricIndex := some ⟨1⟩ }

/-- Node 11 registers itself, to be told while it is not subscribed, under `key`. -/
def fields : List UInt8 :=
  [0x35, 1, 0x24, 0, 11, 0x24, 1, 11, 0x30, 2, 16] ++ List.replicate 16 7 ++ [0x24, 4, 0, 0x18]

lemma length_registered : [(⟨⟨11⟩, 11, .permanent, ⟨1⟩, key⟩ : MonitoringRegistration)].length ≤ 1 :=
  le_rfl

/-- The device with the client registered. -/
def registered : IcdManagement 1 := { icd with clients := ⟨[⟨⟨11⟩, 11, .permanent, ⟨1⟩, key⟩], length_registered⟩ }

lemma decodeRegister_fields :
    IcdManagement.decodeRegister fields = .ok ⟨⟨11⟩, 11, key, none, .permanent⟩ := by
  decide +kernel

lemma registerClient_icd : icd.registerClient (some fields) ctx = .ok (0xFFFFFFFE, registered) := by
  unfold IcdManagement.registerClient
  rw [ensure_of (by decide), ok_bind, okOr_some]
  simp only [ctx, okOr_some, ok_bind, decodeRegister_fields]
  rfl

/-- The message that carries a counter. -/
def octets (counter : UInt32) : List UInt8 :=
  leU32 counter ++ List.replicate 9 0 ++ leU32 counter ++ List.replicate 16 0

/-- The system after a run. -/
def after (ops : List Op) : CheckIns 1 :=
  ops.foldl (step .lookup digests) (.start registered key 0xFFFFFFFE [])

end Sample

open Sample in
/-- Of two messages, one on each side of the wrap, the second arrives first: the first is late, and the
second is not accepted again. -/
theorem second_arrives_first :
    (after [.send key [] 33, .send key [] 33, .deliver (octets 0)]).accepted = [octets 0] ∧
      ∀ late ∈ [octets 0xFFFFFFFF, octets 0],
        (after [.send key [] 33, .send key [] 33, .deliver (octets 0)]).Accepts .lookup digests late ↔
          (after [.send key [] 33, .send key [] 33, .deliver (octets 0)]).SentLater key late :=
  ⟨by decide +kernel, fun late _ =>
    (accepted_iff_sent_later IdealAead.opens_lookup registerClient_icd
      (fun call hcall => absurd hcall List.not_mem_nil) (by decide +kernel) late).1⟩

open Sample in
/-- Restored to the value before the start, the counter goes on with the start itself, and the client
takes the message for the one it has counted from. -/
theorem come_round_refused :
    Throughout (step .lookup digests) (Ahead icd.counter) (.start registered key 0xFFFFFFFE [])
        [.restore 0xFFFFFFFD, .send key [] 33] ∧
      [Op.restore 0xFFFFFFFD, Op.send key [] 33].countP Op.isSend < 2 ^ 32 ∧
      icd.registerClient (some fields) ctx = .ok (0xFFFFFFFE, registered) ∧
      (after [.restore 0xFFFFFFFD, .send key [] 33]).SentLater key (octets 0xFFFFFFFE) ∧
      ¬ (after [.restore 0xFFFFFFFD, .send key [] 33]).Accepts .lookup digests (octets 0xFFFFFFFE) := by
  have hnone : ∀ earlier ∈ (after [.restore 0xFFFFFFFD, .send key [] 33]).accepted, ∀ j,
      (after [.restore 0xFFFFFFFD, .send key [] 33]).SentAt key earlier j → j < 0 :=
    fun earlier hearlier => absurd hearlier List.not_mem_nil
  refine ⟨by decide +kernel, by decide, registerClient_icd, ⟨0, ⟨_, rfl, rfl, rfl⟩, hnone⟩, ?_⟩
  rintro ⟨message, h⟩
  have hrefused : ((after [.restore 0xFFFFFFFD, .send key [] 33]).client.accept
      (IdealAead.lookup.toCrypto (after [.restore 0xFFFFFFFD, .send key [] 33]).log) digests
      (octets 0xFFFFFFFE)).1 = .error .duplicateMessage := by rfl
  cases h.symm.trans hrefused

open Sample in
/-- Registered under a key that has been encrypted with before, the client takes a message of that time,
which the device it counts from has not sent. -/
theorem replay_under_reused_key :
    let log := (after [.send key [] 33]).log
    (∃ call ∈ log, call.key = key) ∧
      (CheckIns.start registered key 0xFFFFFFFE log).Accepts .lookup digests (octets 0xFFFFFFFF) ∧
      ¬ (CheckIns.start registered key 0xFFFFFFFE log).SentLater key (octets 0xFFFFFFFF) := by
  refine ⟨⟨_, List.mem_singleton_self _, rfl⟩, ⟨_, rfl⟩, ?_⟩
  rintro ⟨i, ⟨m, hm, -⟩, -⟩
  cases hm

end CheckIns

end MatterKit.Icd
