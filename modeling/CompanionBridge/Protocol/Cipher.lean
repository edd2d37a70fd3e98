import CompanionBridge.State.PairedStore
import Mathlib.Algebra.Group.Nat.Defs

/-!
# The transport cipher

`Chacha20Cipher` counts the frames of each direction in its nonces. The AEAD
itself is a parameter.
-/

namespace CompanionBridge

/-- `ChaCha20Poly1305`: key, nonce, data and associated data. -/
structure Aead where
  encrypt : Bytes → Bytes → Bytes → Bytes → Bytes
  decrypt : Bytes → Bytes → Bytes → Bytes → Option Bytes

/-- What a result about two honest ends may assume of the primitive. -/
structure LawfulAead (aead : Aead) : Prop where
  roundTrip : ∀ key nonce data aad,
    aead.decrypt key nonce (aead.encrypt key nonce data aad) aad = some data
  length : ∀ key nonce data aad, (aead.encrypt key nonce data aad).length = data.length + 16

namespace Aead

def tagLength : Nat := 16

def tag (nonce aad : Bytes) : Bytes :=
  (nonce ++ aad ++ List.replicate tagLength 0).take tagLength

/-- A lawful primitive without secrecy: the data followed by the nonce and the
associated data, cut to a tag. -/
def tagged : Aead where
  encrypt _ nonce data aad := data ++ tag nonce aad
  decrypt _ nonce data aad :=
    let split := data.length - tagLength
    if data.drop split = tag nonce aad then some (data.take split) else none

theorem tag_length (nonce aad : Bytes) : (tag nonce aad).length = tagLength := by
  simp only [tag, tagLength, List.length_take, List.length_append, List.length_replicate]
  omega

theorem tagged_lawful : LawfulAead tagged where
  roundTrip key nonce data aad := by
    have hsplit : (data ++ tag nonce aad).length - tagLength = data.length := by
      rw [List.length_append, tag_length, Nat.add_sub_cancel]
    simp only [tagged, hsplit, List.drop_left, List.take_left, if_true]
  length key nonce data aad := by
    rw [tagged, List.length_append, tag_length, tagLength]

end Aead

def nonceLength : Nat := 12

/-- `int.to_bytes` in little-endian order, of a number that fits. -/
def littleEndian : Nat → Nat → Bytes
  | 0, _ => []
  | length + 1, value => UInt8.ofNat value :: littleEndian length (value / 256)

/-- Numbers that fit are written differently. -/
theorem littleEndian_injective (length : Nat) {first second : Nat} (hfirst : first < 256 ^ length)
    (hsecond : second < 256 ^ length)
    (hsame : littleEndian length first = littleEndian length second) : first = second := by
  induction length generalizing first second with
  | zero => omega
  | succ length ih =>
      rw [littleEndian, littleEndian, List.cons.injEq] at hsame
      rw [Nat.pow_succ] at hfirst hsecond
      have hhigh := ih (by omega) (by omega) hsame.2
      have hlow := congrArg UInt8.toNat hsame.1
      simp only [UInt8.toNat_ofNat'] at hlow
      omega

/-- `_pad_nonce`. -/
def padNonce (nonce : Bytes) : Bytes :=
  List.replicate (nonceLength - nonce.length) 0 ++ nonce

/-- The nonce of a counter; a counter beyond twelve bytes raises. -/
def counterNonce (counter : Nat) : Option Bytes :=
  if counter < 256 ^ nonceLength then some (littleEndian nonceLength counter) else none

theorem counterNonce_injective {first second : Nat} {nonce : Bytes}
    (hfirst : counterNonce first = some nonce) (hsecond : counterNonce second = some nonce) :
    first = second := by
  unfold counterNonce at hfirst hsecond
  split at hfirst
  · split at hsecond
    · rename_i hleft hright
      exact littleEndian_injective nonceLength hleft hright
        (Option.some.inj (hfirst.trans hsecond.symm))
    · exact absurd hsecond (by simp)
  · exact absurd hfirst (by simp)

/-- The cipher of an established connection, with twelve-byte counter nonces. -/
structure Chacha20Cipher where
  outKey : Bytes
  inKey : Bytes
  outCounter : Nat := 0
  inCounter : Nat := 0
  deriving DecidableEq, Repr

namespace Chacha20Cipher

/-- Encrypt with the next outbound nonce. -/
def encrypt (aead : Aead) (cipher : Chacha20Cipher) (data aad : Bytes) :
    Option (Bytes × Chacha20Cipher) :=
  (counterNonce cipher.outCounter).map fun nonce =>
    (aead.encrypt cipher.outKey nonce data aad,
      { cipher with outCounter := cipher.outCounter + 1 })

/-- Decrypt with the next inbound nonce, which is consumed also by a forged frame. -/
def decrypt (aead : Aead) (cipher : Chacha20Cipher) (data aad : Bytes) :
    Chacha20Cipher × Option Bytes :=
  match counterNonce cipher.inCounter with
  | none => (cipher, none)
  | some nonce =>
      ({ cipher with inCounter := cipher.inCounter + 1 }, aead.decrypt cipher.inKey nonce data aad)

end Chacha20Cipher

end CompanionBridge
