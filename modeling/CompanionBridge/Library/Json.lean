import CompanionBridge.Library.Doubles

/-!
# JSON texts, as Python reads them

`loads` reads a text into a value. It raises `ValueError` for a text that is not
JSON and `RecursionError` for one nested deeper than the interpreter allows. What
it reads of an object is a `dict`: the last of two equal names counts.
-/

open Doubles

/-- The code points of a `str`. Unlike Lean's strings it may hold a lone surrogate. -/
abbrev PyString := List Nat

instance : LawfulBEq PyString := inferInstanceAs (LawfulBEq (List Nat))

def PyString.ofString (text : String) : PyString :=
  text.toList.map Char.toNat

inductive Json where
  | null
  | boolean (value : Bool)
  | integer (value : Int)
  | float (value : Double)
  | string (text : PyString)
  | array (items : List Json)
  | object (members : List (PyString × Json))

/-- Why a text is not read. -/
inductive JsonError where
  /-- `ValueError`. -/
  | invalid
  /-- `RecursionError`. -/
  | tooDeep
  deriving DecidableEq, Repr

namespace Json

/-- The `dict` of the members of an object. -/
def dict : List (PyString × Json) → List (PyString × Json)
  | [] => []
  | (name, value) :: rest =>
      if name ∈ rest.map Prod.fst then dict rest else (name, value) :: dict rest

/-- `dict.get`. -/
def get (members : List (PyString × Json)) (name : PyString) : Option Json :=
  (dict members).lookup name

/-- What reads an item off the front of a text. -/
abbrev Scanner (Item : Type) : Type := List Char → Except JsonError (Item × List Char)

def isSpace (char : Char) : Bool :=
  char = ' ' || char = '\t' || char = '\n' || char = '\r'

def skipSpace (text : List Char) : List Char :=
  text.dropWhile isSpace

/-! ## Strings -/

/-- The value of a hexadecimal digit of either case. -/
def hexValue (point : Nat) : Option Nat :=
  if 0x30 ≤ point ∧ point ≤ 0x39 then some (point - 0x30)
  else if 0x61 ≤ point ∧ point ≤ 0x66 then some (point - 0x61 + 10)
  else if 0x41 ≤ point ∧ point ≤ 0x46 then some (point - 0x41 + 10)
  else none

/-- The code unit that four digits of an escape stand for. -/
def codeUnit (first second third fourth : Char) : Option Nat := do
  let first ← hexValue first.toNat
  let second ← hexValue second.toNat
  let third ← hexValue third.toNat
  let fourth ← hexValue fourth.toNat
  return first * 0x1000 + second * 0x100 + third * 0x10 + fourth

/-- Escapes of one character. -/
def simpleEscape (char : Char) : Option Nat :=
  match char with
  | '"' => some 0x22
  | '\\' => some 0x5c
  | '/' => some 0x2f
  | 'b' => some 0x08
  | 'f' => some 0x0c
  | 'n' => some 0x0a
  | 'r' => some 0x0d
  | 't' => some 0x09
  | _ => none

/-- The characters and escapes up to the closing quote, each as one number. -/
def scanUnits : List Char → Option (List Nat × List Char)
  | [] => none
  | char :: rest =>
      if char = '"' then some ([], rest)
      else if char = '\\' then
        match rest with
        -- one code unit an escape: surrogates are joined after the whole string is read
        | 'u' :: first :: second :: third :: fourth :: rest => do
            let unit ← codeUnit first second third fourth
            let (units, rest) ← scanUnits rest
            return (unit :: units, rest)
        | escape :: rest => do
            let unit ← simpleEscape escape
            let (units, rest) ← scanUnits rest
            return (unit :: units, rest)
        | [] => none
      -- control characters are refused unless escaped
      else if char.toNat < 0x20 then none
      else do
        let (units, rest) ← scanUnits rest
        return (char.toNat :: units, rest)

def isHighSurrogate (unit : Nat) : Bool := 0xd800 ≤ unit && unit ≤ 0xdbff

def isLowSurrogate (unit : Nat) : Bool := 0xdc00 ≤ unit && unit ≤ 0xdfff

/-- Two escapes that form a surrogate pair are one code point. -/
def joinSurrogates : List Nat → PyString
  | [] => []
  | [unit] => [unit]
  | high :: low :: rest =>
      if isHighSurrogate high && isLowSurrogate low then
        (0x10000 + (high - 0xd800) * 0x400 + (low - 0xdc00)) :: joinSurrogates rest
      else high :: joinSurrogates (low :: rest)

/-- What follows an opening quote. -/
def scanString (text : List Char) : Except JsonError (PyString × List Char) :=
  match scanUnits text with
  | none => .error .invalid
  | some (units, rest) => .ok (joinSurrogates units, rest)

/-! ## Numbers and words -/

/-- `sys.get_int_max_str_digits`. -/
def maxIntegerDigits : Nat := 4300

/-- The digits of an integer: no leading zero, none at all if there is no integer. -/
def integerDigits (text : List Char) : List Char :=
  match text with
  | '0' :: _ => ['0']
  | _ => text.takeWhile Char.isDigit

def fractionPart (text : List Char) : List Char :=
  match text with
  | '.' :: digits =>
      if digits.takeWhile Char.isDigit = [] then [] else '.' :: digits.takeWhile Char.isDigit
  | _ => []

def exponentPart (text : List Char) : List Char :=
  match text with
  | mark :: sign :: rest =>
      if mark = 'e' || mark = 'E' then
        if sign.isDigit then mark :: (sign :: rest).takeWhile Char.isDigit
        else if (sign = '+' || sign = '-') && (rest.takeWhile Char.isDigit) ≠ [] then
          mark :: sign :: rest.takeWhile Char.isDigit
        else []
      else []
  | _ => []

def digitsValue (digits : List Char) : Nat :=
  digits.foldl (fun value digit => value * 10 + (digit.toNat - '0'.toNat)) 0

def exponentValue : List Char → ℤ
  | _ :: '+' :: digits => digitsValue digits
  | _ :: '-' :: digits => -digitsValue digits
  | _ :: digits => digitsValue digits
  | [] => 0

/-- The number that digits, a fraction and an exponent stand for. -/
def decimal (negative : Bool) (digits fraction exponent : List Char) : ℚ :=
  let places : ℤ := (fraction.drop 1).length
  let magnitude : ℚ :=
    digitsValue (digits ++ fraction.drop 1) * (10 : ℚ) ^ (exponentValue exponent - places)
  if negative then -magnitude else magnitude

def scanNumber (text : List Char) : Except JsonError (Json × List Char) :=
  let sign := if text.head? = some '-' then ['-'] else []
  let digits := integerDigits (text.drop sign.length)
  let fraction := fractionPart (text.drop (sign ++ digits).length)
  let exponent := exponentPart (text.drop (sign ++ digits ++ fraction).length)
  let literal := sign ++ digits ++ fraction ++ exponent
  let rest := text.drop literal.length
  if digits = [] then .error .invalid
  else if fraction ++ exponent ≠ [] then
    .ok (.float (nearest (decimal (sign ≠ []) digits fraction exponent)), rest)
  else if maxIntegerDigits < digits.length then .error .invalid
  else
    let magnitude : Int := digitsValue digits
    .ok (.integer (if sign = [] then magnitude else -magnitude), rest)

/-- The words that stand for a value. -/
def words : List (String × Json) :=
  [("null", .null), ("true", .boolean true), ("false", .boolean false), ("NaN", .float .nan),
    ("Infinity", .float (.infinite false)), ("-Infinity", .float (.infinite true))]

def scanWord (text : List Char) : Option (Json × List Char) :=
  words.findSome? fun (word, value) =>
    if text.take word.length = word.toList then some (value, text.drop word.length) else none

/-! ## Values -/

/-- Items with commas between them, up to a closing mark. -/
def scanSeparated {Item : Type} (closing : Char) (scanItem : Scanner Item) :
    Nat → List Char → Except JsonError (List Item × List Char)
  | 0, _ => .error .invalid
  | remaining + 1, text => do
      let (item, text) ← scanItem text
      match skipSpace text with
      | mark :: rest =>
          if mark = closing then return ([item], rest)
          else if mark = ',' then
            let (items, rest) ← scanSeparated closing scanItem remaining (skipSpace rest)
            return (item :: items, rest)
          else .error .invalid
      | [] => .error .invalid

/-- What follows an opening mark and the space after it. -/
def scanContainer {Item : Type} (closing : Char) (scanItem : Scanner Item)
    (text : List Char) : Except JsonError (List Item × List Char) :=
  if text.head? = some closing then .ok ([], text.drop 1)
  else scanSeparated closing scanItem text.length text

/-- A name, a colon and a value. -/
def scanMember (scanItem : Scanner Json) (text : List Char) :
    Except JsonError ((PyString × Json) × List Char) :=
  match text with
  | '"' :: text => do
      let (name, text) ← scanString text
      match skipSpace text with
      | ':' :: text => do
          let (value, rest) ← scanItem (skipSpace text)
          return ((name, value), rest)
      | _ => .error .invalid
  | _ => .error .invalid

/-- A value whose items, if it has any, are read by `scanItem`. -/
def scanWith (scanItem : Option (Scanner Json)) (text : List Char) :
    Except JsonError (Json × List Char) :=
  match text with
  | '"' :: text => do
      let (value, rest) ← scanString text
      return (.string value, rest)
  -- the nesting limit is met only where a container is opened
  | '[' :: text =>
      match scanItem with
      | none => .error .tooDeep
      | some scanItem => do
          let (items, rest) ← scanContainer ']' scanItem (skipSpace text)
          return (.array items, rest)
  | '\x7b' :: text =>
      match scanItem with
      | none => .error .tooDeep
      | some scanItem => do
          let (members, rest) ← scanContainer '\x7d' (scanMember scanItem) (skipSpace text)
          return (.object members, rest)
  | text =>
      match scanWord text with
      | some scanned => .ok scanned
      | none => scanNumber text

/-- A value nested at most `depth` deep. -/
def scanValue : Nat → Scanner Json
  | 0 => scanWith none
  | depth + 1 => scanWith (some (scanValue depth))

/-- `json.loads` of a text, with the nesting the interpreter allows. -/
def loads (depth : Nat) (text : List Char) : Except JsonError Json :=
  if text.head? = some '\ufeff' then .error .invalid
  else do
    let (value, rest) ← scanValue depth (skipSpace text)
    if skipSpace rest = [] then return value else .error .invalid

/-! ## Nesting -/

/-- One level more than the depth that is allowed raises. -/
theorem scanValue_nested (depth : Nat) :
    scanValue depth (List.replicate (depth + 1) '[') = .error .tooDeep := by
  induction depth with
  | zero => rfl
  | succ depth ih =>
      have hopen : List.replicate (depth + 2) '[' = '[' :: List.replicate (depth + 1) '[' := rfl
      have hspace : skipSpace (List.replicate (depth + 1) '[') = List.replicate (depth + 1) '[' := rfl
      have hcontainer : scanContainer ']' (scanValue depth) (List.replicate (depth + 1) '[') =
          .error .tooDeep := by
        rw [scanContainer, if_neg (by simp [List.replicate_succ]), List.length_replicate,
          scanSeparated, ih]
        rfl
      rw [hopen, scanValue]
      simp only [scanWith]
      rw [hspace, hcontainer]
      rfl

/-- One array too many exhausts the interpreter. -/
theorem loads_nested (depth : Nat) :
    loads depth (List.replicate (depth + 1) '[') = .error .tooDeep := by
  have hmark : (List.replicate (depth + 1) '[').head? ≠ some '\ufeff' := by
    rw [List.replicate_succ, List.head?_cons]
    decide
  have hspace : skipSpace (List.replicate (depth + 1) '[') = List.replicate (depth + 1) '[' := rfl
  rw [loads, if_neg hmark, hspace, scanValue_nested]
  rfl

end Json
