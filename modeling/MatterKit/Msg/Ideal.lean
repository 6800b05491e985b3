import MatterKit.Msg.Security

/-!
# An ideal AEAD

What a message layer can hope for from its AEAD is that nothing opens but what was sealed. An
`IdealAead` decrypts relative to the log of the calls of its encryption made so far, and accepts only
what one of them produced; with the calls of a run recorded, it is an instance of the primitives at each
point of the run (`toCrypto`).
-/

namespace MatterKit

/-- An AEAD whose decryption knows which calls of its encryption have been made, and accepts only
what one of them produced. -/
structure IdealAead where
  encrypt : SymmetricKey → List UInt8 → List UInt8 → List UInt8 →
    Option (List UInt8 × List UInt8)
  decrypt : List AeadCall → SymmetricKey → List UInt8 → List UInt8 → List UInt8 → List UInt8 →
    Option (List UInt8)
  encryptBlock : SymmetricKey → List UInt8 → List UInt8
  /-- Encryption is in place and the tag has a fixed length. -/
  length_encrypt : ∀ {key nonce aad plaintext ciphertext tag},
    encrypt key nonce aad plaintext = some (ciphertext, tag) →
      ciphertext.length = plaintext.length ∧ tag.length = 16
  /-- Only what was encrypted decrypts. -/
  authentic : ∀ {log key nonce aad ciphertext tag plaintext},
    decrypt log key nonce aad ciphertext tag = some plaintext →
      ⟨key, nonce, aad, plaintext⟩ ∈ log ∧
        encrypt key nonce aad plaintext = some (ciphertext, tag)

namespace IdealAead

/-- The primitives at the point where the calls in `log` have been made. -/
def toCrypto (aead : IdealAead) (log : List AeadCall) : Crypto where
  aeadEncrypt := aead.encrypt
  aeadDecrypt := aead.decrypt log
  encryptBlock := aead.encryptBlock
  length_encrypt := aead.length_encrypt
  length_decrypt := fun h => (aead.length_encrypt (aead.authentic h).2).1.symm

/-- An ideal AEAD that runs: it does not hide the plaintext, and looks every ciphertext up in the
log. -/
def lookup : IdealAead where
  encrypt := fun _ _ _ plaintext => some (plaintext, List.replicate 16 0)
  decrypt := fun log key nonce aad ciphertext tag =>
    if tag = List.replicate 16 0 ∧ ⟨key, nonce, aad, ciphertext⟩ ∈ log then some ciphertext
    else none
  encryptBlock := fun key _ => key.bytes.toList
  length_encrypt := by
    intro key nonce aad plaintext ciphertext tag h
    cases h
    exact ⟨rfl, rfl⟩
  authentic := by
    intro log key nonce aad ciphertext tag plaintext h
    split at h
    · rename_i hlog
      cases h
      exact ⟨hlog.2, by rw [hlog.1]⟩
    · cases h

/-- What was encrypted decrypts, whoever encrypted it. -/
def Opens (aead : IdealAead) : Prop :=
  ∀ {log key nonce aad ciphertext tag plaintext},
    ⟨key, nonce, aad, plaintext⟩ ∈ log →
      aead.encrypt key nonce aad plaintext = some (ciphertext, tag) →
        aead.decrypt log key nonce aad ciphertext tag = some plaintext

/-- Under an AEAD that opens what it has sealed, decryption looks a call up. -/
lemma Opens.decrypt_eq_some_iff {aead : IdealAead} (hopens : aead.Opens) {log : List AeadCall}
    {key : SymmetricKey} {nonce aad ciphertext tag plaintext : List UInt8} :
    aead.decrypt log key nonce aad ciphertext tag = some plaintext ↔ ⟨key, nonce, aad, plaintext⟩ ∈ log ∧
        aead.encrypt key nonce aad plaintext = some (ciphertext, tag) :=
  ⟨aead.authentic, fun h => hopens h.1 h.2⟩

lemma opens_lookup : lookup.Opens := by
  intro log key nonce aad ciphertext tag plaintext hlog hencrypt
  cases hencrypt
  exact if_pos ⟨rfl, hlog⟩

end IdealAead

end MatterKit
