import Mathlib.Data.List.AList

/-!
# The paired-client store

The store maps a client's identifier to the hex text of its long-term public
key. Two recovery markers beside it suspend all the authority it grants.
-/

namespace CompanionBridge

abbrev Bytes := List UInt8

/-- `bytes.hex`: two lower-case digits a byte. -/
def Bytes.hex (bytes : Bytes) : String :=
  String.ofList (bytes.flatMap fun byte =>
    [Nat.digitChar (byte.toNat / 16), Nat.digitChar (byte.toNat % 16)])

theorem digitChar_injective {first second : Nat} (hfirst : first < 16) (hsecond : second < 16)
    (hsame : Nat.digitChar first = Nat.digitChar second) : first = second := by
  have htable : ∀ left < 16, ∀ right < 16, Nat.digitChar left = Nat.digitChar right →
      left = right := by decide
  exact htable first hfirst second hsecond hsame

/-- Bytes are known by their hexadecimal text. -/
theorem Bytes.hex_injective : Function.Injective Bytes.hex := by
  intro first second hsame
  have hchars := String.ofList_injective hsame
  clear hsame
  induction first generalizing second with
  | nil =>
      cases second with
      | nil => rfl
      | cons byte rest => exact absurd hchars (by simp)
  | cons byte rest ih =>
      cases second with
      | nil => exact absurd hchars (by simp)
      | cons other others =>
          simp only [List.flatMap_cons, List.cons_append, List.nil_append, List.cons.injEq]
            at hchars
          obtain ⟨hhigh, hlow, hrest⟩ := hchars
          have hbyte := byte.toNat_lt
          have hother := other.toNat_lt
          have hhigh := digitChar_injective (by omega) (by omega) hhigh
          have hlow := digitChar_injective (by omega) (by omega) hlow
          rw [ih hrest, UInt8.toNat_inj.mp (by omega : byte.toNat = other.toNat)]

/-- The identity a connection proved in pair-verify. -/
structure VerifiedClient where
  identifier : String
  ltpk : Bytes
  deriving DecidableEq, Repr

/-- Identifier to hex key: what `paired-clients.json` holds. -/
abbrev ClientMap := AList fun _ : String => String

/-- What the state directory grants at one moment. -/
structure AuthorityState where
  clients : ClientMap := ∅
  legacyClearAll : Bool := false
  identityReset : Bool := false
  /-- Whether the directory and its files can be read strictly. -/
  readable : Bool := true

namespace AuthorityState

def fenced (authority : AuthorityState) : Bool :=
  authority.legacyClearAll || authority.identityReset

/-- `PairedClients.authorizes` on the state it reads. -/
def authorizes (authority : AuthorityState) (identifier : String) (ltpk : Bytes) : Bool :=
  authority.readable && !authority.fenced && authority.clients.lookup identifier == some ltpk.hex

end AuthorityState

end CompanionBridge
