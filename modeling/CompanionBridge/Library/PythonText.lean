import Mathlib.Data.List.DropRight
import Mathlib.Tactic.Common

/-!
# Texts in Python

`int` of a text or of bytes, `str` of an integer, `repr` of bytes, and `str.lower`. The first
and the last look into the Unicode tables of the interpreter: the decimal digits, here with
those of Unicode 15, and the mapping of case, of which only so much is asked as it satisfies
in any version.
-/

/-! ## Decimal digits -/

/-- The zeros of the decimal digits of every script, which `\d` matches. -/
def decimalZeros : List Nat :=
  [0x30, 0x660, 0x6F0, 0x7C0, 0x966, 0x9E6, 0xA66, 0xAE6, 0xB66, 0xBE6, 0xC66, 0xCE6, 0xD66, 0xDE6,
    0xE50, 0xED0, 0xF20, 0x1040, 0x1090, 0x17E0, 0x1810, 0x1946, 0x19D0, 0x1A80, 0x1A90, 0x1B50,
    0x1BB0, 0x1C40, 0x1C50, 0xA620, 0xA8D0, 0xA900, 0xA9D0, 0xA9F0, 0xAA50, 0xABF0, 0xFF10, 0x104A0,
    0x10D30, 0x11066, 0x110F0, 0x11136, 0x111D0, 0x112F0, 0x11450, 0x114D0, 0x11650, 0x116C0,
    0x11730, 0x118E0, 0x11950, 0x11C50, 0x11D50, 0x11DA0, 0x11F50, 0x16A60, 0x16AC0, 0x16B50,
    0x1D7CE, 0x1D7D8, 0x1D7E2, 0x1D7EC, 0x1D7F6, 0x1E140, 0x1E2F0, 0x1E4F0, 0x1E950, 0x1FBF0]

/-- The value of a decimal digit. -/
def decimalValue (char : Char) : Option Nat :=
  (decimalZeros.find? fun start => start ≤ char.toNat && char.toNat < start + 10).map fun start =>
    char.toNat - start

/-- White space beyond ASCII. -/
def isWideSpace (char : Char) : Bool :=
  char.toNat ∈ [0x85, 0xA0, 0x1680, 0x2028, 0x2029, 0x202F, 0x205F, 0x3000] ||
    (0x2000 ≤ char.toNat && char.toNat ≤ 0x200A)

/-- White space that the parser of a number skips. -/
def isNumberSpace (char : Char) : Bool :=
  char = ' ' || (0x09 ≤ char.toNat && char.toNat ≤ 0x0D)

/-- A character beyond ASCII as the parser of a number gets it: a digit in ASCII, a space,
or a question mark. -/
def asciiOf (decimal : Char → Option Nat) (char : Char) : Char :=
  if char.toNat < 127 then char
  else if isWideSpace char then ' '
  else
    match decimal char with
    | some value => Char.ofNat (0x30 + value)
    | none => '?'

/-- `sys.int_info.default_max_str_digits`. -/
def maxStrDigits : Nat := 4300

/-- `str` of an integer, which is not written with too many digits. -/
def strOfInt (value : Int) : Option String :=
  if (Nat.toDigits 10 value.natAbs).length ≤ maxStrDigits then some (toString value) else none

/-- Digits, of which two may have one underscore between them. `previous` is whether the last
character was a digit. -/
def parseDigits (previous : Bool) : List Char → Option (List Nat)
  | [] => if previous then some [] else none
  | '_' :: rest => if previous then parseDigits false rest else none
  | char :: rest =>
      if char.isDigit then (parseDigits true rest).map ((char.toNat - 0x30) :: ·) else none

/-- The natural number of decimal digits, the first one most significant. -/
def ofDecimalDigits (digits : List Nat) : Nat :=
  digits.foldl (fun value digit => 10 * value + digit) 0

/-- An unsigned number, which is not parsed with too many digits. -/
def parseMagnitude (text : List Char) : Option Nat :=
  (parseDigits false text).bind fun digits =>
    if digits.length ≤ maxStrDigits then some (ofDecimalDigits digits) else none

/-- The number of an ASCII text, with white space around it and a sign. -/
def parseAsciiInt (text : List Char) : Option Int :=
  match (text.dropWhile isNumberSpace).rdropWhile isNumberSpace with
  | '+' :: magnitude => (parseMagnitude magnitude).map Int.ofNat
  | '-' :: magnitude => (parseMagnitude magnitude).map fun value => -(value : Int)
  | magnitude => (parseMagnitude magnitude).map Int.ofNat

/-- `int(text)`, and `int(text, 10)`, where `decimal` has the digits. `none` is the
`ValueError`. -/
def intOfText (decimal : Char → Option Nat) (text : List Char) : Option Int :=
  parseAsciiInt (text.map (asciiOf decimal))

/-- `int(data)` of bytes. -/
def intOfBytes (data : List UInt8) : Option Int :=
  parseAsciiInt (data.map fun byte => Char.ofNat byte.toNat)

example : intOfText decimalValue " +1_000\n".toList = some 1000 := by decide +kernel

example : intOfText decimalValue "١٢".toList = some 12 := by decide +kernel

example : intOfText decimalValue "1__0".toList = none := by decide +kernel

/-! ## `repr` of bytes -/

def apostrophe : Char := Char.ofNat 0x27

def backslash : Char := Char.ofNat 0x5C

/-- One byte between quotes. -/
def reprOfByte (quote : Char) (byte : UInt8) : List Char :=
  let char := Char.ofNat byte.toNat
  if char = quote ∨ char = backslash then [backslash, char]
  else if byte = 0x09 then [backslash, 't']
  else if byte = 0x0A then [backslash, 'n']
  else if byte = 0x0D then [backslash, 'r']
  else if byte < 0x20 ∨ 0x7F ≤ byte then
    [backslash, 'x', (byte.toNat / 16).digitChar, (byte.toNat % 16).digitChar]
  else [char]

/-- `repr(data)`, in double quotes where it has an apostrophe and no double quote. -/
def reprOfBytes (data : List UInt8) : String :=
  let quote := if 0x27 ∈ data ∧ 0x22 ∉ data then Char.ofNat 0x22 else apostrophe
  String.ofList ('b' :: quote :: (data.flatMap (reprOfByte quote) ++ [quote]))

/-! ## `str.lower` -/

/-- The tables of the interpreter's Unicode database that `str.lower` looks into. -/
structure CaseTable where
  /-- A character in lower case. -/
  lowerCase : Char → List Char
  lowerCase_ne_nil : ∀ char, lowerCase char ≠ []
  isCased : Char → Bool
  isCaseIgnorable : Char → Bool

namespace CaseTable

/-- Whether a capital sigma ends a word: a cased character comes before it, and none after
it, past those that case ignores. `before` is what precedes it, backwards. -/
def isFinalSigma (table : CaseTable) (before after : List Char) : Bool :=
  (before.dropWhile table.isCaseIgnorable).head?.any table.isCased &&
    !(after.dropWhile table.isCaseIgnorable).head?.any table.isCased

def lowerChar (table : CaseTable) (before : List Char) (char : Char) (after : List Char) :
    List Char :=
  if char = 'Σ' then [if table.isFinalSigma before after then 'ς' else 'σ']
  else table.lowerCase char

/-- The rest of a text in lower case, after the characters `before`, backwards. -/
def lowerFrom (table : CaseTable) (before : List Char) : List Char → List Char
  | [] => []
  | char :: rest => table.lowerChar before char rest ++ table.lowerFrom (char :: before) rest

/-- `text.lower()`. -/
def lower (table : CaseTable) (text : String) : String :=
  String.ofList (table.lowerFrom [] text.toList)

theorem lowerChar_ne_nil (table : CaseTable) (before : List Char) (char : Char)
    (after : List Char) : table.lowerChar before char after ≠ [] := by
  unfold lowerChar
  split_ifs
  · exact List.cons_ne_nil _ _
  · exact List.cons_ne_nil _ _
  · exact table.lowerCase_ne_nil char

/-- By induction on the text, whatever stands before it. -/
theorem length_le_lowerFrom (table : CaseTable) (before text : List Char) :
    text.length ≤ (table.lowerFrom before text).length := by
  induction text generalizing before with
  | nil => exact Nat.le_refl 0
  | cons char rest ih =>
      have hchar := List.length_pos_iff.mpr (table.lowerChar_ne_nil before char rest)
      have hrest := ih (char :: before)
      rw [lowerFrom, List.length_append, List.length_cons]
      omega

/-- No character is lost in lower case. -/
theorem length_le_lower (table : CaseTable) (text : String) :
    text.length ≤ (table.lower text).length := by
  have hlength := table.length_le_lowerFrom [] text.toList
  rwa [String.length_toList, ← String.length_ofList] at hlength

/-- The letters of ASCII alone. -/
def ascii : CaseTable where
  lowerCase char := [char.toLower]
  lowerCase_ne_nil _ := List.cons_ne_nil _ _
  isCased _ := false
  isCaseIgnorable _ := false

end CaseTable
