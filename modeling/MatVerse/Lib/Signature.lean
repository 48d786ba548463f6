import Mathlib.Data.List.Basic
import Mathlib.Tactic.Common

/-! Signature schemes: private keys with their public keys, signing, verification, and
what a user of a scheme relies on. -/

structure SignatureScheme where
  Key : Type
  publicKey : Key → ByteArray
  sign : Key → ByteArray → ByteArray
  /-- Of a public key, a signature and a message. -/
  verify : ByteArray → ByteArray → ByteArray → Bool

namespace SignatureScheme

/-- What a key signs verifies under its public key. -/
def Correct (s : SignatureScheme) : Prop := ∀ key message, s.verify (s.publicKey key) (s.sign key message) message =
    true

/-- A signature is good for no message but the one it was made for. -/
def Unforgeable (s : SignatureScheme) : Prop :=
  ∀ key message publicKey other, s.verify publicKey (s.sign key message) other = true → other = message

/-- Unforgeable among some messages, as signatures of one length can be. -/
def UnforgeableOn (s : SignatureScheme) (messages : ByteArray → Prop) : Prop :=
  ∀ key message publicKey other, messages message → messages other →
    s.verify publicKey (s.sign key message) other = true → other = message

/-- Signatures that spell out the key and the message. -/
def plain (size : Nat) : SignatureScheme where
  Key := { bytes : ByteArray // bytes.size = size }
  publicKey key := key.1
  sign key message := key.1 ++ message
  verify publicKey signature message := publicKey.size == size && (publicKey ++ message).data == signature.data

theorem plain_correct (size : Nat) : (plain size).Correct := by
  intro key message
  simp [plain, key.2]

theorem plain_unforgeable (size : Nat) : (plain size).Unforgeable := by
  rintro ⟨key, sized⟩ message publicKey other verified
  simp only [plain, Bool.and_eq_true, beq_iff_eq] at verified
  obtain ⟨length, same⟩ := verified
  have lists : publicKey.data.toList ++ other.data.toList = key.data.toList ++ message.data.toList := by
    simpa using congrArg Array.toList same
  have parts := List.append_inj lists (by simpa using length.trans sized.symm)
  exact ByteArray.ext (Array.toList_inj.mp parts.2)

end SignatureScheme
