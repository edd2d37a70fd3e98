import CompanionBridge.Library.Json
import CompanionBridge.State.PairedStore

/-!
# Stored keys and the keys they authorize

A loaded store has two readings of the hex text it keeps for a client:
`ltpk` decodes it, and `authorizes` compares it as text. They agree on the
lower-case texts that `bytes.hex` writes, and on no others the validator accepts.
-/

namespace CompanionBridge

/-- What `bytes.fromhex` skips between two bytes. -/
def isAsciiSpace (point : Nat) : Bool :=
  point = 0x20 || (0x09 ≤ point && point ≤ 0x0d)

/-- `bytes.fromhex`: two digits of either case a byte. `none` is its `ValueError`. -/
def Bytes.fromHex : PyString → Option Bytes
  | [] => some []
  | [point] => if isAsciiSpace point then some [] else none
  | first :: second :: rest =>
      if isAsciiSpace first then Bytes.fromHex (second :: rest)
      else do
        let high ← Json.hexValue first
        let low ← Json.hexValue second
        let bytes ← Bytes.fromHex rest
        return UInt8.ofNat (16 * high + low) :: bytes

def maxPairedClients : Nat := 8

def ltpkBytes : Nat := 32

/-- One entry that `_is_valid_store` lets pass. -/
def isValidEntry : PyString × Json → Bool
  | (identifier, .string encodedKey) =>
      identifier ≠ [] && (Bytes.fromHex encodedKey).any fun key => key.length = ltpkBytes
  | _ => false

/-- `_is_valid_store`. -/
def isValidStore : Json → Bool
  | .object members =>
      (Json.dict members).length ≤ maxPairedClients && (Json.dict members).all isValidEntry
  | _ => false

/-- What can be raised out of a lookup besides `PairedClientsError`. -/
inductive LookupError where
  | valueError
  | typeError
  deriving DecidableEq, Repr

/-- `hmac.compare_digest` of two `str`, which have to be ASCII. -/
def compareDigest (first second : PyString) : Except LookupError Bool :=
  if first.all (· < 0x80) && second.all (· < 0x80) then .ok (first = second)
  else .error .typeError

/-- The store a `PairedClients` has loaded: only a valid one is. -/
structure LoadedStore where
  members : List (PyString × Json)
  valid : isValidStore (.object members) = true

namespace LoadedStore

/-- `_clients.get`. -/
def encodedKey (store : LoadedStore) (identifier : PyString) : Option PyString :=
  match Json.get store.members identifier with
  | some (.string encoded) => some encoded
  | _ => none

/-- `ltpk`. `reset` is what `_authority_reset_in_progress` returned, or `none` if it raised. -/
def ltpk (store : LoadedStore) (reset : Option Bool) (identifier : PyString) :
    Except LookupError (Option Bytes) :=
  match reset with
  | none | some true => .ok none
  | some false =>
      match store.encodedKey identifier with
      | none => .ok none
      | some value =>
          if value = [] then .ok none
          else
            match Bytes.fromHex value with
            | none => .error .valueError
            | some key => .ok (some key)

def authorizes (store : LoadedStore) (reset : Option Bool) (identifier : PyString)
    (ltpk : Bytes) : Except LookupError Bool :=
  match reset with
  | none | some true => .ok false
  | some false =>
      match store.encodedKey identifier with
      | none => .ok false
      | some expected => compareDigest expected (PyString.ofString ltpk.hex)

end LoadedStore

/-! ## Canonical texts -/

/-- A digit as `bytes.hex` writes it. -/
def isLowerHexDigit (point : Nat) : Bool :=
  (0x30 ≤ point && point ≤ 0x39) || (0x61 ≤ point && point ≤ 0x66)

theorem PyString.ofString_injective : Function.Injective PyString.ofString := by
  intro first second hsame
  have hchars : first.toList = second.toList :=
    List.map_injective_iff.mpr (fun left right hequal => Char.toNat_inj.mp hequal) hsame
  exact String.toList_inj.mp hchars

theorem hex_toList (bytes : Bytes) :
    PyString.ofString bytes.hex = bytes.flatMap fun byte =>
      [(Nat.digitChar (byte.toNat / 16)).toNat, (Nat.digitChar (byte.toNat % 16)).toNat] := by
  simp [PyString.ofString, Bytes.hex, List.map_flatMap]

theorem digitChar_lower {value : Nat} (hvalue : value < 16) :
    isLowerHexDigit (Nat.digitChar value).toNat = true := by
  have htable : ∀ digit < 16, isLowerHexDigit (Nat.digitChar digit).toNat = true := by decide
  exact htable value hvalue

/-- A lower-case digit is the one that is written for its value. -/
theorem digitChar_of_hexValue {point value : Nat} (hlower : isLowerHexDigit point = true)
    (hvalue : Json.hexValue point = some value) :
    value < 16 ∧ (Nat.digitChar value).toNat = point := by
  have hbound : point < 0x67 := by
    simp only [isLowerHexDigit, Bool.or_eq_true, Bool.and_eq_true, decide_eq_true_eq] at hlower
    omega
  have htable : ∀ digit < 0x67, isLowerHexDigit digit = true →
      ∀ found, Json.hexValue digit = some found →
        found < 16 ∧ (Nat.digitChar found).toNat = digit := by
    intro digit hdigit hlower found hfound
    obtain rfl : found = (Json.hexValue digit).getD 0 := by rw [hfound]; rfl
    clear hfound
    revert hlower
    revert digit
    decide
  exact htable point hbound hlower value hvalue

theorem hex_lower (bytes : Bytes) :
    (PyString.ofString bytes.hex).all isLowerHexDigit = true := by
  rw [hex_toList, List.all_eq_true]
  intro point hpoint
  obtain ⟨byte, -, hdigit⟩ := List.mem_flatMap.mp hpoint
  have hbyte := byte.toNat_lt
  rcases List.mem_pair.mp hdigit with rfl | rfl
  · exact digitChar_lower (by omega)
  · exact digitChar_lower (by omega)

/-- Two digits are one byte. -/
theorem fromHex_pair {first second : Nat} {rest : PyString} {bytes : Bytes}
    (hspace : isAsciiSpace first = false)
    (hdecoded : Bytes.fromHex (first :: second :: rest) = some bytes) :
    ∃ high low tail, Json.hexValue first = some high ∧ Json.hexValue second = some low ∧
      Bytes.fromHex rest = some tail ∧ bytes = UInt8.ofNat (16 * high + low) :: tail := by
  simp only [Bytes.fromHex, hspace, Bool.false_eq_true, if_false, Option.bind_eq_bind,
    Option.bind_eq_some_iff, Option.pure_def, Option.some.injEq] at hdecoded
  obtain ⟨high, hhigh, low, hlow, tail, htail, rfl⟩ := hdecoded
  exact ⟨high, low, tail, hhigh, hlow, htail, rfl⟩

theorem not_space_of_lower {point : Nat} (hlower : isLowerHexDigit point = true) :
    isAsciiSpace point = false := by
  simp only [isLowerHexDigit, Bool.or_eq_true, Bool.and_eq_true, decide_eq_true_eq] at hlower
  simp only [isAsciiSpace, Bool.or_eq_false_iff, Bool.and_eq_false_iff, decide_eq_false_iff_not]
  omega

/-- A lower-case text without spaces is the one its bytes are written as. -/
theorem eq_hex_of_lower {text : PyString} {bytes : Bytes}
    (hlower : text.all isLowerHexDigit = true) (hdecoded : Bytes.fromHex text = some bytes) :
    text = PyString.ofString bytes.hex := by
  induction text using Bytes.fromHex.induct generalizing bytes with
  | case1 =>
      obtain rfl := Option.some.inj hdecoded
      rfl
  | case2 point hspace =>
      simp only [List.all_cons, List.all_nil, Bool.and_true] at hlower
      rw [not_space_of_lower hlower] at hspace
      cases hspace
  | case3 point hspace =>
      rw [Bytes.fromHex, if_neg hspace] at hdecoded
      cases hdecoded
  | case4 first second rest hspace ih =>
      rw [List.all_cons, Bool.and_eq_true] at hlower
      rw [not_space_of_lower hlower.1] at hspace
      cases hspace
  | case5 first second rest hspace ih =>
      simp only [List.all_cons, Bool.and_eq_true] at hlower
      obtain ⟨high, low, tail, hhigh, hlow, htail, rfl⟩ :=
        fromHex_pair (not_space_of_lower hlower.1) hdecoded
      obtain ⟨hhighBound, hfirst⟩ := digitChar_of_hexValue hlower.1 hhigh
      obtain ⟨hlowBound, hsecond⟩ := digitChar_of_hexValue hlower.2.1 hlow
      have hbyte : (UInt8.ofNat (16 * high + low)).toNat = 16 * high + low := by
        rw [UInt8.toNat_ofNat']
        omega
      rw [hex_toList, List.flatMap_cons, ← hex_toList, ← ih hlower.2.2 htail, hbyte,
        show (16 * high + low) / 16 = high by omega, show (16 * high + low) % 16 = low by omega,
        hfirst, hsecond]
      rfl

theorem hexValue_ascii {point value : Nat} (hvalue : Json.hexValue point = some value) :
    point < 0x80 := by
  unfold Json.hexValue at hvalue
  split_ifs at hvalue <;> omega

theorem space_ascii {point : Nat} (hspace : isAsciiSpace point = true) : point < 0x80 := by
  simp only [isAsciiSpace, Bool.or_eq_true, Bool.and_eq_true, decide_eq_true_eq] at hspace
  omega

/-- What decodes is ASCII. -/
theorem fromHex_ascii {text : PyString} {bytes : Bytes}
    (hdecoded : Bytes.fromHex text = some bytes) : text.all (· < 0x80) = true := by
  induction text using Bytes.fromHex.induct generalizing bytes with
  | case1 => rfl
  | case2 point hspace => simp [space_ascii hspace]
  | case3 point hspace =>
      rw [Bytes.fromHex, if_neg hspace] at hdecoded
      cases hdecoded
  | case4 first second rest hspace ih =>
      rw [Bytes.fromHex, if_pos hspace] at hdecoded
      rw [List.all_cons, ih hdecoded, Bool.and_true, decide_eq_true_eq]
      exact space_ascii hspace
  | case5 first second rest hspace ih =>
      rw [Bool.not_eq_true] at hspace
      obtain ⟨high, low, tail, hhigh, hlow, htail, rfl⟩ := fromHex_pair hspace hdecoded
      simp only [List.all_cons, ih htail, Bool.and_true, Bool.and_eq_true, decide_eq_true_eq]
      exact ⟨hexValue_ascii hhigh, hexValue_ascii hlow⟩

/-! ## The two readings of a stored key -/

namespace LoadedStore

/-- A loaded store decodes every key it keeps, to 32 bytes. -/
theorem fromHex_encodedKey (store : LoadedStore) {identifier encoded : PyString}
    (hencoded : store.encodedKey identifier = some encoded) :
    ∃ key, Bytes.fromHex encoded = some key ∧ key.length = ltpkBytes := by
  have hvalid := store.valid
  simp only [isValidStore, Bool.and_eq_true, List.all_eq_true] at hvalid
  unfold encodedKey at hencoded
  split at hencoded
  · rename_i text hmember
    obtain rfl := Option.some.inj hencoded
    obtain ⟨before, after, hsplit, -⟩ := List.lookup_eq_some_iff.mp hmember
    have hentry := hvalid.2 (identifier, .string text) (by rw [hsplit]; simp)
    simp only [isValidEntry, Bool.and_eq_true, Option.any_eq_true, decide_eq_true_eq] at hentry
    exact hentry.2
  · cases hencoded

/-- The key of an identifier that is stored with a legible key. -/
theorem ltpk_eq (store : LoadedStore) {identifier encoded : PyString} {key : Bytes}
    (hencoded : store.encodedKey identifier = some encoded)
    (hkey : Bytes.fromHex encoded = some key) (hlength : key.length = ltpkBytes) :
    store.ltpk (some false) identifier = .ok (some key) := by
  have hnonempty : encoded ≠ [] := by
    rintro rfl
    obtain rfl := Option.some.inj hkey
    cases hlength
  simp only [ltpk, hencoded, if_neg hnonempty, hkey]

/-- The comparison never raises: a stored key is ASCII, and so is what `hex` writes. -/
theorem authorizes_eq (store : LoadedStore) {identifier encoded : PyString} {key : Bytes}
    (hencoded : store.encodedKey identifier = some encoded)
    (hkey : Bytes.fromHex encoded = some key) (offered : Bytes) :
    store.authorizes (some false) identifier offered =
      .ok (encoded = PyString.ofString offered.hex) := by
  have hoffered : (PyString.ofString offered.hex).all (· < 0x80) = true := by
    rw [List.all_eq_true]
    intro point hpoint
    have hlower := List.all_eq_true.mp (hex_lower offered) point hpoint
    simp only [isLowerHexDigit, Bool.or_eq_true, Bool.and_eq_true, decide_eq_true_eq] at hlower ⊢
    omega
  simp only [authorizes, hencoded, compareDigest, fromHex_ascii hkey, hoffered, Bool.and_self,
    if_true]

/-- With no fence present the key that `ltpk` returns is the one that is
authorized, exactly for the texts in lower case and without spaces. -/
theorem ltpk_iff_authorizes_iff (store : LoadedStore) (identifier : PyString) :
    (∀ key : Bytes, key.length = ltpkBytes →
      (store.ltpk (some false) identifier = .ok (some key) ↔
        store.authorizes (some false) identifier key = .ok true)) ↔
      ∀ encoded, store.encodedKey identifier = some encoded →
        encoded.all isLowerHexDigit = true := by
  constructor
  · intro hagree encoded hencoded
    obtain ⟨key, hkey, hlength⟩ := store.fromHex_encodedKey hencoded
    have hauthorized := (hagree key hlength).mp (store.ltpk_eq hencoded hkey hlength)
    rw [store.authorizes_eq hencoded hkey, Except.ok.injEq, decide_eq_true_eq] at hauthorized
    rw [hauthorized]
    exact hex_lower key
  · intro hlower key hlength
    cases hencoded : store.encodedKey identifier with
    | none => simp [ltpk, authorizes, hencoded]
    | some encoded =>
        obtain ⟨stored, hstored, hstoredLength⟩ := store.fromHex_encodedKey hencoded
        have hcanonical := eq_hex_of_lower (hlower encoded hencoded) hstored
        rw [store.ltpk_eq hencoded hstored hstoredLength, store.authorizes_eq hencoded hstored,
          hcanonical, Except.ok.injEq, Option.some.injEq, Except.ok.injEq, decide_eq_true_eq]
        constructor
        · rintro rfl
          rfl
        · intro hsame
          exact Bytes.hex_injective (PyString.ofString_injective hsame)

/-- A store whose one key was written in upper case. -/
def upperCase : LoadedStore where
  members := [(PyString.ofString "A", .string (List.replicate 64 0x41))]
  valid := by decide +kernel

/-- The client of that store passes pair-verify and is refused on its next frame. -/
theorem ltpk_without_authorizes :
    ¬∀ (store : LoadedStore) (identifier : PyString) (key : Bytes), key.length = ltpkBytes →
      (store.ltpk (some false) identifier = .ok (some key) ↔
        store.authorizes (some false) identifier key = .ok true) := by
  intro hagree
  have hupper := hagree upperCase (PyString.ofString "A") (List.replicate 32 0xAA) rfl
  revert hupper
  decide +kernel

end LoadedStore

end CompanionBridge
