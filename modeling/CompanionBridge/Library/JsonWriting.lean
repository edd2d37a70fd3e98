import CompanionBridge.Library.Json
import CompanionBridge.Library.Outcomes
import Mathlib.Data.List.Chain

/-!
# Writing JSON, and reading it back

`dumps` writes a `dict` of strings as Python does: only ASCII, so that a string may
hold any code point, lone surrogates included. What it writes is read back, but for
strings with the two halves of a surrogate pair apart, which no reader returns.
-/

namespace Json

/-! ## Writing -/

def hexDigit (value : Nat) : Char :=
  Nat.digitChar (value % 16)

/-- An escape of a code unit. -/
def escapeUnit (unit : Nat) : List Char :=
  ['\\', 'u', hexDigit (unit / 0x1000), hexDigit (unit / 0x100), hexDigit (unit / 0x10),
    hexDigit unit]

/-- The code units of a code point. -/
def codeUnits (point : Nat) : List Nat :=
  if point < 0x10000 then [point]
  else [0xd800 + (point - 0x10000) / 0x400, 0xdc00 + (point - 0x10000) % 0x400]

def escapePoint (point : Nat) : List Char :=
  if point = 0x22 then ['\\', '"']
  else if point = 0x5c then ['\\', '\\']
  else if point = 0x0a then ['\\', 'n']
  else if point = 0x0d then ['\\', 'r']
  else if point = 0x09 then ['\\', 't']
  else if point = 0x0c then ['\\', 'f']
  else if point = 0x08 then ['\\', 'b']
  else if 0x20 ≤ point && point < 0x7f then [Char.ofNat point]
  else (codeUnits point).flatMap escapeUnit

def quote (text : PyString) : List Char :=
  '"' :: (text.flatMap escapePoint ++ ['"'])

/-- A value, and the text that it is written as. -/
structure Written where
  value : Json
  text : List Char

def Written.string (text : PyString) : Written where
  value := .string text
  text := quote text

/-- A member of an object, with `space` after the colon. -/
def dumpsMember (space : List Char) (member : PyString × Written) : List Char :=
  quote member.1 ++ ':' :: (space ++ member.2.text)

def dumpsMembers (space : List Char) : List (PyString × Written) → List Char
  | [] => []
  | [member] => dumpsMember space member
  | member :: next :: rest =>
      dumpsMember space member ++ ',' :: (space ++ dumpsMembers space (next :: rest))

/-- `json.dumps` of a `dict` of strings and numbers, with `space` after its separators. -/
def dumps (space : List Char) (members : List (PyString × Written)) : List Char :=
  '\x7b' :: (dumpsMembers space members ++ ['\x7d'])

/-! ## Code points -/

/-- A string that `joinSurrogates` has nothing to join in. -/
structure Joined (text : PyString) : Prop where
  bounded : ∀ point ∈ text, point < 0x110000
  apart : text.IsChain fun first second => ¬(isHighSurrogate first ∧ isLowSurrogate second)

theorem Joined.tail {point : Nat} {text : PyString} (hjoined : Joined (point :: text)) :
    Joined text :=
  ⟨fun other hother => hjoined.bounded other (List.mem_cons_of_mem _ hother), hjoined.apart.tail⟩

/-- A string of code points below the surrogates. -/
theorem joined_of_plain {text : PyString} (hplain : ∀ point ∈ text, point < 0xd800) :
    Joined text := by
  refine ⟨fun point hpoint => (hplain point hpoint).trans (by decide), ?_⟩
  induction text with
  | nil => exact .nil
  | cons point text ih =>
      have hlow := hplain point List.mem_cons_self
      refine (ih fun other hother => hplain other (List.mem_cons_of_mem _ hother)).cons ?_
      rintro next - ⟨hhigh, -⟩
      simp only [isHighSurrogate, Bool.and_eq_true, decide_eq_true_eq] at hhigh
      omega

/-- A unit that is no half of a pair is a point of its own. -/
theorem joinSurrogates_cons {unit : Nat} {units : List Nat}
    (hapart : ∀ next ∈ units.head?, ¬(isHighSurrogate unit ∧ isLowSurrogate next)) :
    joinSurrogates (unit :: units) = unit :: joinSurrogates units := by
  cases units with
  | nil => rfl
  | cons next rest =>
      have hnot : ¬((isHighSurrogate unit && isLowSurrogate next) = true) := by
        simpa using hapart next rfl
      rw [joinSurrogates, if_neg hnot]

/-- The halves of a code point beyond the basic plane are joined again. -/
theorem joinSurrogates_pair {point : Nat} (hlarge : 0x10000 ≤ point) (hbound : point < 0x110000)
    (units : List Nat) :
    joinSurrogates (codeUnits point ++ units) = point :: joinSurrogates units := by
  have hhigh : isHighSurrogate (0xd800 + (point - 0x10000) / 0x400) = true := by
    simp only [isHighSurrogate, Bool.and_eq_true, decide_eq_true_eq]
    omega
  have hlow : isLowSurrogate (0xdc00 + (point - 0x10000) % 0x400) = true := by
    simp only [isLowSurrogate, Bool.and_eq_true, decide_eq_true_eq]
    omega
  have hpoint : 0x10000 + (0xd800 + (point - 0x10000) / 0x400 - 0xd800) * 0x400 +
      (0xdc00 + (point - 0x10000) % 0x400 - 0xdc00) = point := by omega
  rw [codeUnits, if_neg (by omega), List.cons_append, List.cons_append, List.nil_append,
    joinSurrogates, if_pos (by rw [hhigh, hlow]; rfl), hpoint]

/-- The first code unit of a string is its first code point or a high surrogate. -/
theorem head_codeUnits {text : PyString} {unit : Nat}
    (hhead : (text.flatMap codeUnits).head? = some unit) (hlow : isLowSurrogate unit = true)
    (hbounded : ∀ point ∈ text, point < 0x110000) : text.head? = some unit := by
  cases text with
  | nil => exact absurd hhead (by simp)
  | cons point text =>
      have hbound := hbounded point List.mem_cons_self
      simp only [isLowSurrogate, Bool.and_eq_true, decide_eq_true_eq] at hlow
      by_cases hsmall : point < 0x10000
      · simpa [codeUnits, hsmall] using hhead
      · simp only [List.flatMap_cons, codeUnits, if_neg hsmall, List.cons_append, List.head?_cons,
          Option.some.injEq] at hhead
        omega

/-- Joining undoes splitting, for a text that has no pair left to join. -/
theorem joinSurrogates_codeUnits {text : PyString} (hjoined : Joined text) :
    joinSurrogates (text.flatMap codeUnits) = text := by
  induction text with
  | nil => rfl
  | cons point text ih =>
      have hrest := ih hjoined.tail
      have hbound := hjoined.bounded point List.mem_cons_self
      rw [List.flatMap_cons]
      by_cases hsmall : point < 0x10000
      · have hunits : codeUnits point = [point] := if_pos hsmall
        rw [hunits, List.singleton_append, joinSurrogates_cons, hrest]
        rintro unit hunit ⟨hhigh, hlow⟩
        have hnext := head_codeUnits hunit hlow hjoined.tail.bounded
        exact hjoined.apart.rel_head? hnext ⟨hhigh, hlow⟩
      · rw [joinSurrogates_pair (by omega) hbound, hrest]

/-- What joining leaves at the front of a string is not a low half unless it was there. -/
theorem head_joinSurrogates {units : List Nat} {point : Nat}
    (hhead : (joinSurrogates units).head? = some point) (hlow : isLowSurrogate point = true) :
    units.head? = some point := by
  match units with
  | [] => exact hhead
  | [unit] => exact hhead
  | high :: low :: rest =>
      rw [joinSurrogates] at hhead
      split at hhead
      · simp only [isLowSurrogate, Bool.and_eq_true, decide_eq_true_eq] at hlow
        simp only [List.head?_cons, Option.some.injEq] at hhead
        omega
      · exact hhead

/-- What the reader returns has none. -/
theorem joined_joinSurrogates (units : List Nat) (hbounded : ∀ unit ∈ units, unit < 0x110000) :
    Joined (joinSurrogates units) := by
  induction units using joinSurrogates.induct with
  | case1 => exact ⟨by simp [joinSurrogates], .nil⟩
  | case2 unit => exact ⟨by simpa [joinSurrogates] using hbounded, .singleton _⟩
  | case3 high low rest hpair ih =>
      have hrest := ih fun unit hunit => hbounded unit (by simp [hunit])
      obtain ⟨hhigh, hlow⟩ := Bool.and_eq_true_iff.mp hpair
      simp only [isHighSurrogate, isLowSurrogate, Bool.and_eq_true, decide_eq_true_eq] at hhigh hlow
      rw [joinSurrogates, if_pos hpair]
      generalize hpoint : 0x10000 + (high - 0xd800) * 0x400 + (low - 0xdc00) = point
      refine ⟨?_, hrest.apart.cons ?_⟩
      · intro other hother
        rcases List.mem_cons.mp hother with rfl | hmem
        · omega
        · exact hrest.bounded other hmem
      · rintro next - ⟨hfirst, -⟩
        simp only [isHighSurrogate, Bool.and_eq_true, decide_eq_true_eq] at hfirst
        omega
  | case4 high low rest hpair ih =>
      have hrest := ih fun unit hunit => hbounded unit (List.mem_cons_of_mem _ hunit)
      rw [joinSurrogates, if_neg hpair]
      refine ⟨?_, hrest.apart.cons ?_⟩
      · intro point hpoint
        rcases List.mem_cons.mp hpoint with rfl | hmem
        · exact hbounded point List.mem_cons_self
        · exact hrest.bounded point hmem
      · rintro next hnext ⟨hhigh, hlow⟩
        have hfirst := head_joinSurrogates hnext hlow
        simp only [List.head?_cons, Option.some.injEq] at hfirst
        exact hpair (by simp [hhigh, hfirst, hlow])

/-! ## Strings -/

theorem hexValue_digitChar :
    ∀ value < 16, hexValue (Nat.digitChar value).toNat = some value := by
  decide

/-- A digit that was written is read as its value. -/
theorem hexValue_hexDigit (value : Nat) : hexValue (hexDigit value).toNat = some (value % 16) :=
  hexValue_digitChar _ (Nat.mod_lt _ (by decide))

theorem scanUnits_escapeUnit {unit : Nat} (hbound : unit < 0x10000) (rest : List Char) :
    scanUnits (escapeUnit unit ++ rest) =
      (scanUnits rest).map fun scanned => (unit :: scanned.1, scanned.2) := by
  have hunit : codeUnit (hexDigit (unit / 0x1000)) (hexDigit (unit / 0x100))
      (hexDigit (unit / 0x10)) (hexDigit unit) = some unit := by
    simp only [codeUnit, hexValue_hexDigit]
    exact congrArg some (by omega)
  simp only [escapeUnit, List.cons_append, List.nil_append]
  rw [scanUnits, if_neg (by decide), if_pos rfl]
  simp only [hunit]
  cases scanUnits rest with
  | none => rfl
  | some scanned => rfl

/-- And so are several, one after the other. -/
theorem scanUnits_escapeUnits {units : List Nat} (hbounded : ∀ unit ∈ units, unit < 0x10000)
    (rest : List Char) :
    scanUnits (units.flatMap escapeUnit ++ rest) =
      (scanUnits rest).map fun scanned => (units ++ scanned.1, scanned.2) := by
  induction units with
  | nil => simp
  | cons unit units ih =>
      rw [List.flatMap_cons, List.append_assoc,
        scanUnits_escapeUnit (hbounded unit List.mem_cons_self),
        ih fun other hother => hbounded other (List.mem_cons_of_mem _ hother), Option.map_map]
      rfl

theorem codeUnits_lt {point : Nat} (hbound : point < 0x110000) :
    ∀ unit ∈ codeUnits point, unit < 0x10000 := by
  intro unit hunit
  unfold codeUnits at hunit
  split at hunit
  · simp only [List.mem_singleton] at hunit
    omega
  · simp only [List.mem_cons, List.not_mem_nil, or_false] at hunit
    omega

/-- An escape of one character. -/
theorem scanUnits_simpleEscape {escape : Char} {unit : Nat} (hnot : escape ≠ 'u')
    (hescape : simpleEscape escape = some unit) (rest : List Char) :
    scanUnits ('\\' :: escape :: rest) =
      (scanUnits rest).map fun scanned => (unit :: scanned.1, scanned.2) := by
  rw [scanUnits.eq_def]
  simp only [if_neg (show ¬ '\\' = '"' by decide), if_true]
  split
  · rename_i heq
    exact absurd (List.cons.inj heq).1 hnot
  · rename_i heq
    obtain ⟨rfl, rfl⟩ := List.cons.inj heq
    rw [hescape]
    cases scanUnits rest with
    | none => rfl
    | some scanned => rfl
  · rename_i heq
    exact absurd heq (by simp)

theorem scanUnits_plain {char : Char} (hquote : char ≠ '"') (hslash : char ≠ '\\')
    (hspace : 0x20 ≤ char.toNat) (rest : List Char) :
    scanUnits (char :: rest) =
      (scanUnits rest).map fun scanned => (char.toNat :: scanned.1, scanned.2) := by
  rw [scanUnits.eq_def]
  simp only [if_neg hquote, if_neg hslash, if_neg (Nat.not_lt.mpr hspace)]
  cases scanUnits rest with
  | none => rfl
  | some scanned => rfl

theorem toNat_ofNat_ascii : ∀ point < 0x80, (Char.ofNat point).toNat = point := by
  decide

/-- Whatever form a point is written in, its units are read. -/
theorem scanUnits_escapePoint {point : Nat} (hbound : point < 0x110000) (rest : List Char) :
    scanUnits (escapePoint point ++ rest) =
      (scanUnits rest).map fun scanned => (codeUnits point ++ scanned.1, scanned.2) := by
  -- the short escapes stand for one code unit each
  have hsimple : ∀ escape unit, escape ≠ 'u' → simpleEscape escape = some unit → unit < 0x10000 →
      scanUnits (['\\', escape] ++ rest) =
        (scanUnits rest).map fun scanned => (codeUnits unit ++ scanned.1, scanned.2) := by
    intro escape unit hnot hescape hsmall
    rw [codeUnits, if_pos hsmall]
    exact scanUnits_simpleEscape hnot hescape rest
  unfold escapePoint
  split
  · rename_i h
    subst h
    exact hsimple '"' _ (by decide) rfl (by decide)
  split
  · rename_i h
    subst h
    exact hsimple '\\' _ (by decide) rfl (by decide)
  split
  · rename_i h
    subst h
    exact hsimple 'n' _ (by decide) rfl (by decide)
  split
  · rename_i h
    subst h
    exact hsimple 'r' _ (by decide) rfl (by decide)
  split
  · rename_i h
    subst h
    exact hsimple 't' _ (by decide) rfl (by decide)
  split
  · rename_i h
    subst h
    exact hsimple 'f' _ (by decide) rfl (by decide)
  split
  · rename_i h
    subst h
    exact hsimple 'b' _ (by decide) rfl (by decide)
  split
  · rename_i hquote hslash _ _ _ _ _ hplain
    simp only [Bool.and_eq_true, decide_eq_true_eq] at hplain
    have hvalue : (Char.ofNat point).toNat = point :=
      toNat_ofNat_ascii point (by omega)
    have hne : ∀ char : Char, point ≠ char.toNat → Char.ofNat point ≠ char := by
      rintro char hother rfl
      exact hother hvalue.symm
    rw [List.singleton_append, scanUnits_plain (hne '"' hquote) (hne '\\' hslash) (by omega), hvalue,
      codeUnits, if_pos (by omega)]
    rfl
  · exact scanUnits_escapeUnits (codeUnits_lt hbound) rest

/-- The units of a whole string, up to its closing quote. -/
theorem scanUnits_quoted {text : PyString} (hbounded : ∀ point ∈ text, point < 0x110000)
    (rest : List Char) :
    scanUnits (text.flatMap escapePoint ++ '"' :: rest) =
      some (text.flatMap codeUnits, rest) := by
  induction text with
  | nil =>
      rw [List.flatMap_nil, List.nil_append, scanUnits.eq_def]
      rfl
  | cons point text ih =>
      rw [List.flatMap_cons, List.append_assoc,
        scanUnits_escapePoint (hbounded point List.mem_cons_self),
        ih fun other hother => hbounded other (List.mem_cons_of_mem _ hother)]
      rfl

theorem scanString_quoted {text : PyString} (hjoined : Joined text) (rest : List Char) :
    scanString (text.flatMap escapePoint ++ '"' :: rest) = .ok (text, rest) := by
  rw [scanString, scanUnits_quoted hjoined.bounded]
  exact congrArg Except.ok (congrArg (·, rest) (joinSurrogates_codeUnits hjoined))


/-! ## Strings that were read -/

theorem hexValue_lt {point value : Nat} (hvalue : hexValue point = some value) : value < 16 := by
  unfold hexValue at hvalue
  split_ifs at hvalue
  all_goals
    have hsome := Option.some.inj hvalue
    omega

theorem codeUnit_lt {first second third fourth : Char} {unit : Nat}
    (hunit : codeUnit first second third fourth = some unit) : unit < 0x10000 := by
  simp only [codeUnit, Option.bind_eq_bind, Option.bind_eq_some_iff, Option.pure_def,
    Option.some.injEq] at hunit
  obtain ⟨high, hhigh, second, hsecond, third, hthird, low, hlow, rfl⟩ := hunit
  have := hexValue_lt hhigh
  have := hexValue_lt hsecond
  have := hexValue_lt hthird
  have := hexValue_lt hlow
  omega

theorem simpleEscape_lt {char : Char} {unit : Nat} (hunit : simpleEscape char = some unit) :
    unit < 0x80 := by
  unfold simpleEscape at hunit
  split at hunit
  all_goals simp at hunit
  all_goals omega

theorem char_toNat_lt (char : Char) : char.toNat < 0x110000 := by
  have hvalid : char.toNat.isValidChar := char.valid
  rcases hvalid with hlow | ⟨-, hhigh⟩
  · omega
  · omega

/-- A scanned unit, in front of what is scanned after it. -/
theorem bounded_of_bind {unit : Option Nat} {scanned : Option (List Nat × List Char)}
    {units : List Nat} {rest : List Char}
    (hunit : ∀ value, unit = some value → value < 0x110000)
    (hrest : ∀ others left, scanned = some (others, left) → ∀ other ∈ others, other < 0x110000)
    (hscan : (do
      let unit ← unit
      let (units, rest) ← scanned
      return (unit :: units, rest)) = some (units, rest)) :
    ∀ value ∈ units, value < 0x110000 := by
  simp only [Option.bind_eq_bind, Option.bind_eq_some_iff, Option.pure_def, Option.some.injEq]
    at hscan
  obtain ⟨first, hfirst, ⟨others, left⟩, hothers, hsame⟩ := hscan
  cases hsame
  exact List.forall_mem_cons.mpr ⟨hunit first hfirst, hrest others left hothers⟩

/-- No unit that is read lies beyond the last code point. -/
theorem scanUnits_bounded (length : Nat) {text rest : List Char} {units : List Nat}
    (hlength : text.length ≤ length) (hscan : scanUnits text = some (units, rest)) :
    ∀ unit ∈ units, unit < 0x110000 := by
  induction length generalizing text rest units with
  | zero =>
      obtain rfl := List.length_eq_zero_iff.mp (Nat.le_zero.mp hlength)
      exact absurd hscan (by simp [scanUnits])
  | succ length ih =>
      unfold scanUnits at hscan
      split at hscan
      · exact absurd hscan (by simp)
      · rename_i char tail
        have htail : tail.length ≤ length := Nat.le_of_succ_le_succ hlength
        split_ifs at hscan with hquote hslash
        · cases hscan
          exact fun _ hunit => absurd hunit List.not_mem_nil
        · split at hscan
          · rename_i first second third fourth left
            refine bounded_of_bind (fun _ hunit => (codeUnit_lt hunit).trans (by decide)) ?_ hscan
            refine fun _ _ hrest => ih ?_ hrest
            simp only [List.length_cons] at htail
            omega
          · rename_i escape left _
            refine bounded_of_bind (fun _ hunit => (simpleEscape_lt hunit).trans (by decide)) ?_ hscan
            exact fun _ _ hrest => ih ((Nat.le_succ _).trans htail) hrest
          · exact absurd hscan (by simp)
        · exact @bounded_of_bind (some char.toNat) _ _ _
            (fun _ hunit => Option.some.inj hunit ▸ char_toNat_lt char)
            (fun _ _ hrest => ih htail hrest) hscan

/-- A string that was read has no surrogate pair in two halves. -/
theorem joined_of_scanString {text rest : List Char} {value : PyString}
    (hscan : scanString text = .ok (value, rest)) : Joined value := by
  unfold scanString at hscan
  split at hscan
  · exact absurd hscan (by simp)
  · rename_i hunits
    cases hscan
    exact joined_joinSurrogates _ (scanUnits_bounded _ le_rfl hunits)

/-- A value all of whose strings, names included, are joined. -/
inductive StringsJoined : Json → Prop
  | null : StringsJoined .null
  | boolean (value : Bool) : StringsJoined (.boolean value)
  | integer (value : Int) : StringsJoined (.integer value)
  | float (value : Doubles.Double) : StringsJoined (.float value)
  | string {text : PyString} (htext : Joined text) : StringsJoined (.string text)
  | array {items : List Json} (hitems : ∀ item ∈ items, StringsJoined item) :
      StringsJoined (.array items)
  | object {members : List (PyString × Json)} (hnames : ∀ member ∈ members, Joined member.1)
      (hvalues : ∀ member ∈ members, StringsJoined member.2) : StringsJoined (.object members)

/-- What a scanner reads has a property. -/
def Reads {Item : Type} (holds : Item → Prop) (scan : Scanner Item) : Prop :=
  ∀ text item rest, scan text = .ok (item, rest) → holds item

section Reads

variable {Item : Type} {holds : Item → Prop} {scanItem : Scanner Item} {closing : Char}

/-- If each item that is read has a property, all items of a container have it. -/
theorem scanSeparated_reads (hitem : Reads holds scanItem) (remaining : Nat) {text : List Char}
    {items : List Item} {rest : List Char}
    (hscan : scanSeparated closing scanItem remaining text = .ok (items, rest)) :
    ∀ item ∈ items, holds item := by
  induction remaining generalizing text items rest with
  | zero => exact absurd hscan (by simp [scanSeparated])
  | succ remaining ih =>
      obtain ⟨⟨item, left⟩, hfirst, hscan⟩ := Outcome.bind_eq_ok.mp hscan
      have hheld := hitem _ _ _ hfirst
      dsimp only at hscan
      split at hscan
      · split_ifs at hscan
        · cases hscan
          exact List.forall_mem_cons.mpr ⟨hheld, fun _ h => absurd h List.not_mem_nil⟩
        · obtain ⟨⟨others, _⟩, hothers, hsame⟩ := Outcome.bind_eq_ok.mp hscan
          cases hsame
          exact List.forall_mem_cons.mpr ⟨hheld, ih hothers⟩
      · exact absurd hscan (by simp)

theorem scanContainer_reads (hitem : Reads holds scanItem) {text : List Char} {items : List Item}
    {rest : List Char} (hscan : scanContainer closing scanItem text = .ok (items, rest)) :
    ∀ item ∈ items, holds item := by
  unfold scanContainer at hscan
  split_ifs at hscan
  · cases hscan
    exact fun _ h => absurd h List.not_mem_nil
  · exact scanSeparated_reads hitem _ hscan

theorem scanMember_reads {scanItem : Scanner Json} (hitem : Reads StringsJoined scanItem) :
    Reads (fun member : PyString × Json => Joined member.1 ∧ StringsJoined member.2)
      (scanMember scanItem) := by
  intro text member rest hscan
  unfold scanMember at hscan
  split at hscan
  · obtain ⟨⟨name, _⟩, hname, hscan⟩ := Outcome.bind_eq_ok.mp hscan
    dsimp only at hscan
    split at hscan
    · obtain ⟨⟨value, _⟩, hvalue, hsame⟩ := Outcome.bind_eq_ok.mp hscan
      cases hsame
      exact ⟨joined_of_scanString hname, hitem _ _ _ hvalue⟩
    · exact absurd hscan (by simp)
  · exact absurd hscan (by simp)

theorem scanWord_joined {text rest : List Char} {value : Json}
    (hscan : scanWord text = some (value, rest)) : StringsJoined value := by
  obtain ⟨⟨word, found⟩, hmem, hfound⟩ := List.exists_of_findSome?_eq_some hscan
  dsimp only at hfound
  split_ifs at hfound
  cases hfound
  simp only [words, List.mem_cons, Prod.mk.injEq, List.not_mem_nil, or_false] at hmem
  rcases hmem with ⟨-, rfl⟩ | ⟨-, rfl⟩ | ⟨-, rfl⟩ | ⟨-, rfl⟩ | ⟨-, rfl⟩ | ⟨-, rfl⟩
  all_goals constructor

theorem scanNumber_joined : Reads StringsJoined scanNumber := by
  intro text value rest hscan
  unfold scanNumber at hscan
  dsimp only at hscan
  split_ifs at hscan
  all_goals
    cases hscan
    constructor

/-- One case for each first character. -/
theorem scanWith_reads {scanItem : Option (Scanner Json)}
    (hitem : ∀ scan, scanItem = some scan → Reads StringsJoined scan) :
    Reads StringsJoined (scanWith scanItem) := by
  intro text value rest hscan
  unfold scanWith at hscan
  split at hscan
  · obtain ⟨⟨text, _⟩, htext, hsame⟩ := Outcome.bind_eq_ok.mp hscan
    cases hsame
    exact .string (joined_of_scanString htext)
  · split at hscan
    · exact absurd hscan (by simp)
    · obtain ⟨⟨items, _⟩, hitems, hsame⟩ := Outcome.bind_eq_ok.mp hscan
      cases hsame
      exact .array (scanContainer_reads (hitem _ rfl) hitems)
  · split at hscan
    · exact absurd hscan (by simp)
    · obtain ⟨⟨members, _⟩, hmembers, hsame⟩ := Outcome.bind_eq_ok.mp hscan
      cases hsame
      have hall := scanContainer_reads (scanMember_reads (hitem _ rfl)) hmembers
      exact .object (fun member h => (hall member h).1) fun member h => (hall member h).2
  · split at hscan
    · rename_i hword
      cases hscan
      exact scanWord_joined hword
    · exact scanNumber_joined _ _ _ hscan

theorem scanValue_reads (depth : Nat) : Reads StringsJoined (scanValue depth) := by
  induction depth with
  | zero => exact scanWith_reads fun _ h => absurd h (by simp)
  | succ depth ih => exact scanWith_reads fun _ h => Option.some.inj h ▸ ih

/-- No value that is read has a surrogate pair in two halves. -/
theorem loads_joined {depth : Nat} {text : List Char} {value : Json}
    (hloads : loads depth text = .ok value) : StringsJoined value := by
  unfold loads at hloads
  split_ifs at hloads
  obtain ⟨⟨found, rest⟩, hfound, hsame⟩ := Outcome.bind_eq_ok.mp hloads
  dsimp only at hsame
  split_ifs at hsame
  cases hsame
  exact scanValue_reads _ _ _ _ hfound

end Reads


theorem dict_subset (members : List (PyString × Json)) : dict members ⊆ members := by
  induction members with
  | nil => exact List.Subset.refl _
  | cons member rest ih =>
      rw [dict]
      split_ifs
      · exact List.Subset.trans ih (List.subset_cons_self _ _)
      · exact List.cons_subset_cons _ ih

theorem mem_of_get {members : List (PyString × Json)} {name : PyString} {value : Json}
    (hget : get members name = some value) : (name, value) ∈ members := by
  obtain ⟨before, after, hsplit, -⟩ := List.lookup_eq_some_iff.mp hget
  exact dict_subset members (hsplit ▸ by simp)

/-- The strings of a member are strings of the object. -/
theorem StringsJoined.get {members : List (PyString × Json)} {name : PyString} {value : Json}
    (hjoined : StringsJoined (.object members)) (hget : Json.get members name = some value) :
    StringsJoined value := by
  cases hjoined with
  | object hnames hvalues => exact hvalues _ (mem_of_get hget)

/-! ## Objects that were written -/

/-- The object of members that are written. -/
def ofWritten (members : List (PyString × Written)) : Json :=
  .object (members.map fun member => (member.1, member.2.value))

/-- A value that is read back from its text, where an object goes on or ends after it. -/
structure Written.ReadBy (written : Written) (scanItem : Scanner Json) : Prop where
  starts : ∃ char rest, written.text = char :: rest ∧ isSpace char = false
  scans : ∀ mark rest, mark = ',' ∨ mark = '\x7d' →
    scanItem (written.text ++ mark :: rest) = .ok (written.value, mark :: rest)

section Written

variable {space : List Char} {scanItem : Scanner Json}

/-- A string is read back whatever follows it. -/
theorem Written.string_readBy {text : PyString} (htext : Joined text) (depth : Nat) :
    (Written.string text).ReadBy (scanValue depth) where
  starts := ⟨'"', _, rfl, by decide⟩
  scans := by
    intro mark rest _
    have hquoted : quote text ++ mark :: rest =
        '"' :: (text.flatMap escapePoint ++ '"' :: (mark :: rest)) := by
      simp [quote]
    have hscan (scanItem : Option (Scanner Json)) :
        scanWith scanItem (quote text ++ mark :: rest) = .ok (.string text, mark :: rest) := by
      rw [hquoted]
      simp only [scanWith]
      rw [scanString_quoted htext]
      rfl
    cases depth with
    | zero => exact hscan none
    | succ depth => exact hscan (some (scanValue depth))

/-- No word starts with a digit. -/
theorem scanWord_digit {first : Char} (hfirst : first.isDigit = true) (more : List Char) :
    scanWord (first :: more) = none := by
  unfold scanWord
  rw [List.findSome?_eq_none_iff]
  rintro ⟨word, value⟩ hentry
  have hword : ∃ head rest, word.toList = head :: rest ∧ word.length = rest.length + 1 ∧
      head.isDigit = false := by
    simp only [words, List.mem_cons, Prod.mk.injEq, List.not_mem_nil, or_false] at hentry
    rcases hentry with ⟨rfl, -⟩ | ⟨rfl, -⟩ | ⟨rfl, -⟩ | ⟨rfl, -⟩ | ⟨rfl, -⟩ | ⟨rfl, -⟩
    all_goals exact ⟨_, _, rfl, rfl, by decide⟩
  obtain ⟨head, rest, hchars, hlength, hhead⟩ := hword
  refine if_neg ?_
  rw [hchars, hlength, List.take_succ_cons]
  intro hsame
  obtain ⟨rfl, -⟩ := List.cons.inj hsame
  exact absurd hfirst (by simp [hhead])

/-- A digit starts a number and nothing else. -/
theorem scanWith_digit {first : Char} (hfirst : first.isDigit = true) (more : List Char)
    (scanItem : Option (Scanner Json)) :
    scanWith scanItem (first :: more) = scanNumber (first :: more) := by
  have hne (mark : Char) (hmark : mark.isDigit = false) : first ≠ mark := by
    rintro rfl
    exact absurd hfirst (by simp [hmark])
  rw [scanWith.eq_def]
  split
  · rename_i heq
    exact absurd (List.cons.inj heq).1 (hne _ (by decide))
  · rename_i heq
    exact absurd (List.cons.inj heq).1 (hne _ (by decide))
  · rename_i heq
    exact absurd (List.cons.inj heq).1 (hne _ (by decide))
  · rw [scanWord_digit hfirst]

/-- A number is read back where it ends as numbers do. -/
theorem Written.number_readBy {written : Written} {first : Char} {more : List Char}
    (htext : written.text = first :: more) (hfirst : first.isDigit = true)
    (hnumber : ∀ mark rest, mark = ',' ∨ mark = '\x7d' →
      scanNumber (written.text ++ mark :: rest) = .ok (written.value, mark :: rest))
    (depth : Nat) : written.ReadBy (scanValue depth) where
  starts := by
    refine ⟨first, more, htext, ?_⟩
    rw [← Bool.not_eq_true]
    intro hspace
    simp only [isSpace, Bool.or_eq_true, decide_eq_true_eq] at hspace
    rcases hspace with ((rfl | rfl) | rfl) | rfl
    all_goals exact absurd hfirst (by decide)
  scans := by
    intro mark rest hmark
    rw [← hnumber mark rest hmark, htext, List.cons_append]
    cases depth with
    | zero => exact scanWith_digit hfirst _ none
    | succ depth => exact scanWith_digit hfirst _ (some (scanValue depth))

theorem takeWhile_digits {digits : List Char} {mark : Char} (rest : List Char)
    (hdigits : digits.all Char.isDigit = true) (hmark : mark.isDigit = false) :
    (digits ++ mark :: rest).takeWhile Char.isDigit = digits := by
  rw [List.takeWhile_append_of_pos (List.all_eq_true.mp hdigits), List.takeWhile_cons_of_neg]
  · exact List.append_nil digits
  · simp [hmark]

/-- A number without an exponent is read up to a mark. -/
theorem scanNumber_fixed {first mark : Char} {digits fraction : List Char} (rest : List Char)
    (hfirst : first.isDigit = true) (hnonzero : first ≠ '0')
    (hdigits : digits.all Char.isDigit = true) (hfraction : fraction.all Char.isDigit = true)
    (hsome : fraction ≠ []) (hmark : mark = ',' ∨ mark = '\x7d') :
    scanNumber (first :: digits ++ '.' :: fraction ++ mark :: rest) =
      .ok (.float (Doubles.nearest (decimal false (first :: digits) ('.' :: fraction) [])),
        mark :: rest) := by
  have hsign : first ≠ '-' := by
    rintro rfl
    exact absurd hfirst (by decide)
  have hstop : mark.isDigit = false ∧ mark ≠ 'e' ∧ mark ≠ 'E' := by
    rcases hmark with rfl | rfl <;> decide
  have hinteger : integerDigits (first :: digits ++ ('.' :: fraction ++ mark :: rest)) =
      first :: digits := by
    unfold integerDigits
    split
    · rename_i heq
      exact absurd (List.cons.inj heq).1 hnonzero
    · apply takeWhile_digits _ (List.all_cons ▸ Bool.and_eq_true_iff.mpr ⟨hfirst, hdigits⟩)
      rfl
  have hpoint : fractionPart ('.' :: fraction ++ mark :: rest) = '.' :: fraction := by
    rw [List.cons_append, fractionPart, takeWhile_digits _ hfraction hstop.1, if_neg hsome]
  have hexponent : exponentPart (mark :: rest) = [] := by
    cases rest with
    | nil => rfl
    | cons sign rest => simp [exponentPart, hstop.2.1, hstop.2.2]
  have hnoSign : ¬(first :: digits ++ ('.' :: fraction ++ mark :: rest)).head? = some '-' :=
    fun hhead => hsign (Option.some.inj hhead)
  have hrest : (first :: digits ++ ('.' :: fraction ++ mark :: rest)).drop
      (first :: digits ++ '.' :: fraction).length = mark :: rest := by
    rw [← List.append_assoc, List.drop_left]
  rw [List.append_assoc, scanNumber, if_neg hnoSign]
  simp only [List.nil_append, List.length_nil, List.drop_zero, hinteger, List.drop_left, hpoint,
    hrest, hexponent, List.append_nil]
  rfl

/-- The space before a value is skipped, and the value is not. -/
theorem skipSpace_written (hspace : space.all isSpace) {written : Written}
    (hread : written.ReadBy scanItem) (rest : List Char) :
    skipSpace (space ++ (written.text ++ rest)) = written.text ++ rest := by
  obtain ⟨char, more, htext, hchar⟩ := hread.starts
  rw [skipSpace, List.dropWhile_append_of_pos (List.all_eq_true.mp hspace), htext,
    List.cons_append, List.dropWhile_cons_of_neg (by simp [hchar])]

/-- A member that was written is read back. -/
theorem scanMember_dumps (hspace : space.all isSpace) {member : PyString × Written}
    (hname : Joined member.1) (hvalue : member.2.ReadBy scanItem) {mark : Char}
    (hmark : mark = ',' ∨ mark = '\x7d') (rest : List Char) :
    scanMember scanItem (dumpsMember space member ++ mark :: rest) =
      .ok ((member.1, member.2.value), mark :: rest) := by
  have hwritten : dumpsMember space member ++ mark :: rest =
      '"' :: (member.1.flatMap escapePoint ++
        '"' :: (':' :: (space ++ (member.2.text ++ mark :: rest)))) := by
    simp [dumpsMember, quote]
  have hcolon : skipSpace (':' :: (space ++ (member.2.text ++ mark :: rest))) =
      ':' :: (space ++ (member.2.text ++ mark :: rest)) :=
    List.dropWhile_cons_of_neg (by decide)
  rw [hwritten]
  simp only [scanMember]
  rw [scanString_quoted hname]
  simp only [bind, Except.bind, hcolon]
  rw [skipSpace_written hspace hvalue, hvalue.scans _ _ hmark]
  rfl

theorem length_dumpsMembers (members : List (PyString × Written)) :
    members.length ≤ (dumpsMembers space members).length := by
  induction members with
  | nil => exact Nat.le_refl _
  | cons member rest ih =>
      have hmember : 1 ≤ (dumpsMember space member).length := by
        simp only [dumpsMember, quote, List.cons_append, List.length_cons]
        omega
      cases rest with
      | nil => simpa [dumpsMembers] using hmember
      | cons next rest =>
          simp only [dumpsMembers, List.length_append, List.length_cons] at ih ⊢
          omega

/-- Members are read one by one, up to the end of the object. -/
theorem scanSeparated_dumps (hspace : space.all isSpace)
    {members : List (PyString × Written)} (hmembers : members ≠ [])
    (hread : ∀ member ∈ members, Joined member.1 ∧ member.2.ReadBy scanItem) {remaining : Nat}
    (hremaining : members.length ≤ remaining) (rest : List Char) :
    scanSeparated '\x7d' (scanMember scanItem) remaining
        (dumpsMembers space members ++ '\x7d' :: rest) =
      .ok (members.map fun member => (member.1, member.2.value), rest) := by
  -- every member but the last is followed by a comma
  induction members generalizing remaining with
  | nil => exact absurd rfl hmembers
  | cons member others ih =>
      obtain ⟨⟨hname, hvalue⟩, hothers⟩ := List.forall_mem_cons.mp hread
      cases remaining with
      | zero => exact absurd hremaining (by simp)
      | succ remaining =>
          cases others with
          | nil =>
              have hclosing : skipSpace ('\x7d' :: rest) = '\x7d' :: rest :=
                List.dropWhile_cons_of_neg (by decide)
              rw [dumpsMembers, scanSeparated, scanMember_dumps hspace hname hvalue (.inr rfl)]
              simp only [bind, Except.bind, hclosing]
              rfl
          | cons next others =>
              have hwritten : dumpsMembers space (member :: next :: others) ++ '\x7d' :: rest =
                  dumpsMember space member ++ ',' :: (space ++
                    (dumpsMembers space (next :: others) ++ '\x7d' :: rest)) := by
                simp [dumpsMembers]
              have hcomma (text : List Char) : skipSpace (',' :: text) = ',' :: text :=
                List.dropWhile_cons_of_neg (by decide)
              have hskip : skipSpace (space ++
                  (dumpsMembers space (next :: others) ++ '\x7d' :: rest)) =
                  dumpsMembers space (next :: others) ++ '\x7d' :: rest := by
                have hquote : isSpace '"' = false := by decide
                rw [skipSpace, List.dropWhile_append_of_pos (List.all_eq_true.mp hspace)]
                cases others with
                | nil => simp [dumpsMembers, dumpsMember, quote, hquote]
                | cons _ _ => simp [dumpsMembers, dumpsMember, quote, hquote]
              rw [hwritten, scanSeparated, scanMember_dumps hspace hname hvalue (.inl rfl)]
              simp only [bind, Except.bind, hcomma]
              rw [if_neg (by decide), if_pos True.intro, hskip,
                ih (by simp) hothers (Nat.le_of_succ_le_succ hremaining)]
              rfl

/-- What was written is read back. -/
theorem loads_dumps (hspace : space.all isSpace) {members : List (PyString × Written)}
    (hread : ∀ member ∈ members,
      Joined member.1 ∧ ∀ depth, member.2.ReadBy (scanValue depth)) {depth : Nat}
    (hdepth : 0 < depth) : loads depth (dumps space members) = .ok (ofWritten members) := by
  obtain ⟨depth, rfl⟩ := Nat.exists_eq_succ_of_ne_zero hdepth.ne'
  have hopening (text : List Char) : skipSpace ('\x7b' :: text) = '\x7b' :: text :=
    List.dropWhile_cons_of_neg (by decide)
  have hmark : (dumps space members).head? ≠ some '\ufeff' := by
    rw [dumps, List.head?_cons]
    decide
  have hcontainer : scanContainer '\x7d' (scanMember (scanValue depth))
      (skipSpace (dumpsMembers space members ++ ['\x7d'])) =
      .ok (members.map fun member => (member.1, member.2.value), []) := by
    cases members with
    | nil => rfl
    | cons member others =>
        have hquote : skipSpace (dumpsMembers space (member :: others) ++ ['\x7d']) =
            dumpsMembers space (member :: others) ++ ['\x7d'] := by
          have hspace : isSpace '"' = false := by decide
          cases others with
          | nil => simp [dumpsMembers, dumpsMember, quote, skipSpace, hspace]
          | cons _ _ => simp [dumpsMembers, dumpsMember, quote, skipSpace, hspace]
        have hhead : (dumpsMembers space (member :: others) ++ ['\x7d']).head? ≠ some '\x7d' := by
          cases others with
          | nil => simp [dumpsMembers, dumpsMember, quote]
          | cons _ _ => simp [dumpsMembers, dumpsMember, quote]
        have hlength := @length_dumpsMembers space (member :: others)
        rw [hquote, scanContainer, if_neg hhead]
        refine scanSeparated_dumps hspace (by simp)
          (fun member hmember => ⟨(hread member hmember).1, (hread member hmember).2 depth⟩) ?_ []
        rw [List.length_append]
        exact hlength.trans (Nat.le_add_right _ _)
  rw [loads, if_neg hmark, dumps, hopening, scanValue]
  simp only [scanWith]
  rw [hcontainer]
  rfl

end Written

/-! ## What is written is plain text -/

/-- A printable ASCII character. -/
def isPrintable (char : Char) : Bool :=
  0x20 ≤ char.toNat && char.toNat < 0x7f

theorem isPrintable_hexDigit (value : Nat) : isPrintable (hexDigit value) = true := by
  have htable : ∀ digit < 16, isPrintable (Nat.digitChar digit) = true := by decide
  exact htable _ (Nat.mod_lt _ (by decide))

theorem isPrintable_digit {char : Char} (hdigit : char.isDigit = true) :
    isPrintable char = true := by
  simp only [Char.isDigit, ge_iff_le, Bool.and_eq_true, decide_eq_true_eq] at hdigit
  obtain ⟨hlow, hhigh⟩ := hdigit
  have hfirst : 48 ≤ char.toNat := hlow
  have hlast : char.toNat ≤ 57 := hhigh
  simp only [isPrintable, Bool.and_eq_true, decide_eq_true_eq]
  omega

theorem escapeUnit_printable (unit : Nat) : (escapeUnit unit).all isPrintable = true := by
  have hslash : isPrintable '\\' = true := by decide
  have hmark : isPrintable 'u' = true := by decide
  simp [escapeUnit, isPrintable_hexDigit, hslash, hmark]

theorem escapePoint_printable (point : Nat) : (escapePoint point).all isPrintable = true := by
  unfold escapePoint
  split_ifs with _ _ _ _ _ _ _ hplain
  · decide
  · decide
  · decide
  · decide
  · decide
  · decide
  · decide
  · simp only [Bool.and_eq_true, decide_eq_true_eq] at hplain
    have hvalue : (Char.ofNat point).toNat = point := toNat_ofNat_ascii point (by omega)
    simp [isPrintable, hvalue, hplain]
  · rw [List.all_flatMap, List.all_eq_true]
    exact fun unit _ => escapeUnit_printable unit

/-- The writer escapes whatever is not printable ASCII. -/
theorem quote_printable (text : PyString) : (quote text).all isPrintable = true := by
  have hquote : isPrintable '"' = true := by decide
  simp [quote, hquote, escapePoint_printable]

/-- A value whose text is plain and is read back. -/
structure Written.Legible (written : Written) : Prop where
  readBy : ∀ depth, written.ReadBy (scanValue depth)
  printable : written.text.all isPrintable = true

theorem Written.Legible.string {text : PyString} (htext : Joined text) :
    (Written.string text).Legible :=
  ⟨string_readBy htext, quote_printable text⟩

/-- So a written object is printable if its values are. -/
theorem dumps_printable {space : List Char} (hspace : space.all isPrintable = true)
    {members : List (PyString × Written)}
    (hwritten : ∀ member ∈ members, member.2.text.all isPrintable = true) :
    (dumps space members).all isPrintable = true := by
  have hmember (member : PyString × Written) (hvalue : member.2.text.all isPrintable = true) :
      (dumpsMember space member).all isPrintable = true := by
    have hcolon : isPrintable ':' = true := by decide
    rw [dumpsMember, List.all_append, List.all_cons, List.all_append, quote_printable, hvalue,
      hcolon, hspace]
    rfl
  have hmembers : (dumpsMembers space members).all isPrintable = true := by
    induction members with
    | nil => rfl
    | cons member rest ih =>
        obtain ⟨hvalue, hrest⟩ := List.forall_mem_cons.mp hwritten
        have hcomma : isPrintable ',' = true := by decide
        cases rest with
        | nil => exact hmember member hvalue
        | cons next rest =>
            rw [dumpsMembers, List.all_append, List.all_cons, List.all_append, hmember _ hvalue,
              hcomma, hspace, ih hrest]
            rfl
  have hopening : isPrintable '\x7b' = true := by decide
  have hclosing : isPrintable '\x7d' = true := by decide
  simp [dumps, hmembers, hopening, hclosing]

end Json
