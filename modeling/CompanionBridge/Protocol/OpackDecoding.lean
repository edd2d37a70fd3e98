import CompanionBridge.Protocol.OpackForms

/-!
# Decoding a written form

The counted and the terminated loops of the decoder are one sequence of decoded
values. A reference with more than sixteen bits is written wider than it is
read: what is left of it starts with a zero, which no value does.
-/

namespace CompanionBridge

/-! ## One value -/

/-- What a table says of a decoded scalar. Only a scalar equal to itself is
decoded without being in it. -/
structure OpackDecoded.KnownIn (decoded : OpackDecoded) (objects : List OpackScalar) : Prop where
  found : ∀ index, decoded.object = some index →
    ∃ scalar, decoded.value = .scalar scalar ∧ objects[index]? = some scalar
  loose : decoded.object = none → ∀ scalar, decoded.value = .scalar scalar →
    scalar.pyEq scalar = true

/-- What decoding a value does to the data and to the table. -/
structure ReadsFrom (data : Bytes) (objects : List OpackScalar) (decoded : OpackDecoded) :
    Prop where
  length : decoded.remaining.length ≤ data.length
  grows : objects <+: decoded.objects
  known : decoded.KnownIn decoded.objects

/-- What every decoded value starts with, and what decoding it does. -/
structure Decodes (item : Bytes → List OpackScalar → Option OpackDecoded) : Prop where
  reads : ∀ {data objects decoded}, item data objects = some decoded →
    ∃ tag body, data = tag :: body ∧ tag ≠ 0 ∧ tag ≠ 3 ∧ ReadsFrom body objects decoded

/-- A value that equals any is equal to itself, so it is no NaN. -/
theorem OpackScalar.pyEq_self {first second : OpackScalar} (hequal : first.pyEq second = true) :
    second.pyEq second = true := by
  rw [pyEq] at hequal ⊢
  cases hnumber : second.number? with
  | some number => simp
  | none =>
      cases hfirst : first.number? with
      | some number => simp [hnumber, hfirst] at hequal
      | none =>
          simp only [hnumber, hfirst, Bool.and_eq_true, decide_eq_true_eq] at hequal
          rw [← hequal.2, hequal.1]
          simp

@[simp] theorem OpackDecoded.kept_remaining (value : OpackScalar) (remaining : Bytes)
    (objects : List OpackScalar) : (kept value remaining objects).remaining = remaining := by
  rw [kept]
  split_ifs <;> rfl

theorem OpackDecoded.referenced_remaining {index : Nat} {remaining : Bytes}
    {objects : List OpackScalar} {decoded : OpackDecoded}
    (hdecoded : referenced index remaining objects = some decoded) :
    decoded.remaining = remaining := by
  obtain ⟨value, _, rfl⟩ := Option.map_eq_some_iff.mp hdecoded
  rfl

/-- A scalar that is kept can be referred to from here on. -/
theorem readsFrom_kept {data : Bytes} (value : OpackScalar) {remaining : Bytes}
    (objects : List OpackScalar) (hlength : remaining.length ≤ data.length) :
    ReadsFrom data objects (.kept value remaining objects) := by
  refine ⟨by rwa [OpackDecoded.kept_remaining], ?_, ?_⟩
  · rw [OpackDecoded.kept]
    split_ifs
    · exact List.prefix_refl objects
    · exact List.prefix_append objects [value]
  · rw [OpackDecoded.kept]
    split_ifs with hany
    · obtain ⟨other, _, hequal⟩ := List.any_eq_true.mp hany
      refine ⟨fun index hobject => (by cases hobject), ?_⟩
      intro _ scalar hscalar
      cases hscalar
      exact OpackScalar.pyEq_self hequal
    · refine ⟨?_, fun hobject => by cases hobject⟩
      intro index hobject
      refine ⟨value, rfl, ?_⟩
      rw [← Option.some.inj hobject]
      exact List.getElem?_concat_length

/-- One that is not kept leaves the objects as they were. -/
theorem readsFrom_loose {data : Bytes} {value : OpackValue} {remaining : Bytes}
    (objects : List OpackScalar) (hlength : remaining.length ≤ data.length)
    (hself : ∀ scalar, value = .scalar scalar → scalar.pyEq scalar = true) :
    ReadsFrom data objects (.loose value remaining objects) :=
  ⟨hlength, List.prefix_refl objects, ⟨fun _ hobject => (by cases hobject), fun _ => hself⟩⟩

theorem readsFrom_referenced {data : Bytes} {index : Nat} {remaining : Bytes}
    {objects : List OpackScalar} {decoded : OpackDecoded} (hlength : remaining.length ≤ data.length)
    (hdecoded : OpackDecoded.referenced index remaining objects = some decoded) :
    ReadsFrom data objects decoded := by
  obtain ⟨value, hvalue, rfl⟩ := Option.map_eq_some_iff.mp hdecoded
  refine ⟨hlength, List.prefix_refl objects, ?_, fun hobject => by cases hobject⟩
  intro other hobject
  cases hobject
  exact ⟨value, rfl, hvalue⟩

/-- A result that reads from its data, if it is one. -/
def Reads (data : Bytes) (objects : List OpackScalar) (result : Option OpackDecoded) : Prop :=
  ∀ decoded, result = some decoded → ReadsFrom data objects decoded

section Scalars

variable {body : Bytes} {objects : List OpackScalar}

theorem reads_none : Reads body objects none := by
  intro decoded hdecoded
  cases hdecoded

theorem reads_kept (value : OpackScalar) (count : Nat) :
    Reads body objects (some (.kept value (body.drop count) objects)) := by
  intro decoded hdecoded
  cases hdecoded
  exact readsFrom_kept value objects (by rw [List.length_drop]; omega)

theorem reads_loose {value : OpackScalar} (hself : value.pyEq value = true) :
    Reads body objects (some (.loose (.scalar value) body objects)) := by
  intro decoded hdecoded
  cases hdecoded
  apply readsFrom_loose objects (Nat.le_refl _)
  intro scalar hscalar
  cases hscalar
  exact hself

theorem reads_text (text : Option String) (count : Nat) :
    Reads body objects
      (text.map fun text => .kept (.str text) (body.drop count) objects) := by
  cases text with
  | none => exact reads_none
  | some text => exact reads_kept (.str text) count

theorem reads_referenced (index count : Nat) :
    Reads body objects (OpackDecoded.referenced index (body.drop count) objects) := by
  intro decoded hdecoded
  exact readsFrom_referenced (by rw [List.length_drop]; omega) hdecoded

theorem reads_ite {condition : Prop} [Decidable condition] {first second : Option OpackDecoded}
    (hfirst : Reads body objects first) (hsecond : Reads body objects second) :
    Reads body objects (if condition then first else second) := by
  by_cases hcondition : condition
  · rwa [if_pos hcondition]
  · rwa [if_neg hcondition]

/-- Every tag of a scalar, one after the other. -/
theorem unpackScalar_reads (tag : Nat) : Reads body objects (unpackScalar tag body objects) := by
  unfold unpackScalar
  dsimp only
  repeat' apply reads_ite
  all_goals
    first
    | exact reads_none
    | exact reads_loose (by simp [OpackScalar.pyEq, OpackScalar.number?, OpackScalar.isFloat])
    | exact reads_kept _ _
    | exact reads_text _ _
    | exact reads_referenced _ _
    | exact reads_referenced _ 0
    | split
      · exact reads_kept _ _
      · exact reads_none

end Scalars

/-! ## Several values -/

/-- A sequence of values decoded one after another. -/
def DecodesAll (item : Bytes → List OpackScalar → Option OpackDecoded) :
    List OpackDecoded → Bytes → List OpackScalar → Bytes → List OpackScalar → Prop
  | [], data, objects, remaining, after => remaining = data ∧ after = objects
  | first :: rest, data, objects, remaining, after =>
      item data objects = some first ∧
        DecodesAll item rest first.remaining first.objects remaining after

/-- Decoded keys and values in pairs. -/
def pairUp : List OpackDecoded → List (OpackDecoded × OpackValue)
  | key :: value :: rest => (key, value.value) :: pairUp rest
  | _ => []

section Loops

variable {item : Bytes → List OpackScalar → Option OpackDecoded}

theorem valueStep_eq_some {data : Bytes} {objects : List OpackScalar}
    {result : OpackValue × Bytes × List OpackScalar} :
    valueStep item data objects = some result ↔
      ∃ decoded, item data objects = some decoded ∧
        result = (decoded.value, decoded.remaining, decoded.objects) := by
  simp only [valueStep, Option.map_eq_some_iff, @eq_comm _ result]

theorem entryStep_eq_some {data : Bytes} {objects : List OpackScalar}
    {result : (OpackDecoded × OpackValue) × Bytes × List OpackScalar} :
    entryStep item data objects = some result ↔
      ∃ key value, item data objects = some key ∧ item key.remaining key.objects = some value ∧
        result = ((key, value.value), value.remaining, value.objects) := by
  simp only [entryStep, Option.bind_eq_bind, Option.bind_eq_some_iff, Option.pure_def,
    Option.some.injEq]
  constructor
  · rintro ⟨key, hkey, value, hvalue, rfl⟩
    exact ⟨key, value, hkey, hvalue, rfl⟩
  · rintro ⟨key, value, hkey, hvalue, rfl⟩
    exact ⟨key, hkey, value, hvalue, rfl⟩

/-- Items of a counted list, each read where the one before it stopped. -/
theorem repeatStep_values {count : Nat} {data : Bytes} {objects : List OpackScalar}
    {values : List OpackValue} {remaining : Bytes} {after : List OpackScalar} :
    repeatStep (valueStep item) count data objects = some (values, remaining, after) ↔
      ∃ decoded, decoded.length = count ∧ values = decoded.map OpackDecoded.value ∧
        DecodesAll item decoded data objects remaining after := by
  induction count generalizing data objects values with
  | zero =>
      simp only [repeatStep, Option.some.injEq, Prod.mk.injEq, List.length_eq_zero_iff]
      constructor
      · rintro ⟨rfl, rfl, rfl⟩
        exact ⟨[], rfl, rfl, rfl, rfl⟩
      · rintro ⟨decoded, rfl, rfl, rfl, rfl⟩
        exact ⟨rfl, rfl, rfl⟩
  | succ count ih =>
      simp only [repeatStep, Option.bind_eq_bind, Option.bind_eq_some_iff, valueStep_eq_some]
      constructor
      · rintro ⟨_, ⟨first, hfirst, rfl⟩, ⟨rest, left, table⟩, hrest, hresult⟩
        cases hresult
        obtain ⟨decoded, hlength, rfl, hdecodes⟩ := ih.mp hrest
        exact ⟨first :: decoded, by rw [List.length_cons, hlength], rfl, hfirst, hdecodes⟩
      · rintro ⟨decoded, hlength, rfl, hdecodes⟩
        cases decoded with
        | nil => cases hlength
        | cons first rest =>
            have hrest := ih.mpr ⟨rest, Nat.succ.inj hlength, rfl, hdecodes.2⟩
            exact ⟨_, ⟨first, hdecodes.1, rfl⟩, _, hrest, rfl⟩

/-- Entries of a counted dictionary. -/
theorem repeatStep_entries {count : Nat} {data : Bytes} {objects : List OpackScalar}
    {pairs : List (OpackDecoded × OpackValue)} {remaining : Bytes} {after : List OpackScalar} :
    repeatStep (entryStep item) count data objects = some (pairs, remaining, after) ↔
      ∃ decoded, decoded.length = 2 * count ∧ pairs = pairUp decoded ∧
        DecodesAll item decoded data objects remaining after := by
  induction count generalizing data objects pairs with
  | zero =>
      simp only [repeatStep, Option.some.injEq, Prod.mk.injEq, Nat.mul_zero,
        List.length_eq_zero_iff]
      constructor
      · rintro ⟨rfl, rfl, rfl⟩
        exact ⟨[], rfl, rfl, rfl, rfl⟩
      · rintro ⟨decoded, rfl, rfl, rfl, rfl⟩
        exact ⟨rfl, rfl, rfl⟩
  | succ count ih =>
      simp only [repeatStep, Option.bind_eq_bind, Option.bind_eq_some_iff, entryStep_eq_some]
      constructor
      · rintro ⟨_, ⟨key, value, hkey, hvalue, rfl⟩, ⟨rest, left, table⟩, hrest, hresult⟩
        cases hresult
        obtain ⟨decoded, hlength, rfl, hdecodes⟩ := ih.mp hrest
        refine ⟨key :: value :: decoded, ?_, rfl, hkey, hvalue, hdecodes⟩
        rw [List.length_cons, List.length_cons, hlength]
        omega
      · rintro ⟨decoded, hlength, rfl, hdecodes⟩
        match decoded with
        | [] | [_] =>
            simp only [List.length_nil, List.length_singleton] at hlength
            omega
        | key :: value :: rest =>
            have hrest := ih.mpr ⟨rest, by simp at hlength; omega, rfl, hdecodes.2.2⟩
            exact ⟨_, ⟨key, value, hdecodes.1, hdecodes.2.1, rfl⟩, _, hrest, rfl⟩

/-- What a step of a terminated loop needs of the bytes it starts at. -/
theorem repeatUntil_step {Result : Type} {step : OpackStep Result} {fuel : Nat} {data : Bytes}
    {objects : List OpackScalar} (hdata : data ≠ []) (hhead : data.head? ≠ some 3) :
    repeatUntil step (fuel + 1) data objects =
      (step data objects).bind fun first =>
        (repeatUntil step fuel first.2.1 first.2.2).map fun rest =>
          (first.1 :: rest.1, rest.2) := by
  cases data with
  | nil => exact absurd rfl hdata
  | cons tag body =>
      have htag : tag ≠ 3 := fun heq => hhead (by rw [heq]; rfl)
      simp only [repeatUntil, if_neg htag, Option.bind_eq_bind]
      congr 1
      funext first
      cases repeatUntil step fuel first.2.1 first.2.2 <;> rfl

/-- A value is not empty and does not begin with the end marker. -/
theorem Decodes.not_end (hitem : Decodes item) {data : Bytes} {objects : List OpackScalar}
    {decoded : OpackDecoded} (hdecoded : item data objects = some decoded) :
    data ≠ [] ∧ data.head? ≠ some 3 ∧ decoded.remaining.length < data.length := by
  obtain ⟨tag, body, rfl, _, hthree, hreads⟩ := hitem.reads hdecoded
  refine ⟨List.cons_ne_nil tag body, ?_, ?_⟩
  · intro hhead
    exact hthree (Option.some.inj hhead)
  · have hlength := hreads.length
    rw [List.length_cons]
    omega

/-- Items up to the end marker; the fuel is the length of the data. -/
theorem repeatUntil_values (hitem : Decodes item) {fuel : Nat} {data : Bytes}
    {objects : List OpackScalar} {values : List OpackValue} {remaining : Bytes}
    {after : List OpackScalar} (hfuel : data.length < fuel) :
    repeatUntil (valueStep item) fuel data objects = some (values, remaining, after) ↔
      ∃ decoded, values = decoded.map OpackDecoded.value ∧
        DecodesAll item decoded data objects (3 :: remaining) after := by
  -- an item takes at least one byte, so the fuel outlasts the data
  induction fuel generalizing data objects values with
  | zero => omega
  | succ fuel ih =>
      constructor
      · intro hresult
        match data with
        | [] => cases hresult
        | tag :: body =>
            by_cases htag : tag = 3
            · subst htag
              cases hresult
              exact ⟨[], rfl, rfl, rfl⟩
            · have hhead : (tag :: body).head? ≠ some 3 := fun heq => htag (Option.some.inj heq)
              rw [repeatUntil_step (List.cons_ne_nil _ _) hhead, Option.bind_eq_some_iff] at hresult
              obtain ⟨result, hfirst, hresult⟩ := hresult
              obtain ⟨first, hitemFirst, rfl⟩ := valueStep_eq_some.mp hfirst
              obtain ⟨⟨others, left, table⟩, hrest, hresult⟩ := Option.map_eq_some_iff.mp hresult
              cases hresult
              have hlength : first.remaining.length < (tag :: body).length :=
                (hitem.not_end hitemFirst).2.2
              dsimp only at hrest
              obtain ⟨decoded, hvalues, hdecodes⟩ := (ih (by omega)).mp hrest
              refine ⟨first :: decoded, ?_, hitemFirst, hdecodes⟩
              rw [List.map_cons, hvalues]
      · rintro ⟨decoded, rfl, hdecodes⟩
        cases decoded with
        | nil =>
            obtain ⟨rfl, rfl⟩ := hdecodes
            rfl
        | cons first rest =>
            obtain ⟨hfirst, hrest⟩ := hdecodes
            obtain ⟨hdata, hhead, hlength⟩ := hitem.not_end hfirst
            have hrest := (ih (by omega)).mpr ⟨rest, rfl, hrest⟩
            rw [repeatUntil_step hdata hhead, valueStep_eq_some.mpr ⟨first, hfirst, rfl⟩,
              Option.bind_some, hrest]
            rfl

/-- Entries up to the end marker. -/
theorem repeatUntil_entries (hitem : Decodes item) {fuel : Nat} {data : Bytes}
    {objects : List OpackScalar} {pairs : List (OpackDecoded × OpackValue)} {remaining : Bytes}
    {after : List OpackScalar} (hfuel : data.length < fuel) :
    repeatUntil (entryStep item) fuel data objects = some (pairs, remaining, after) ↔
      ∃ decoded, decoded.length % 2 = 0 ∧ pairs = pairUp decoded ∧
        DecodesAll item decoded data objects (3 :: remaining) after := by
  induction fuel generalizing data objects pairs with
  | zero => omega
  | succ fuel ih =>
      constructor
      · intro hresult
        match data with
        | [] => cases hresult
        | tag :: body =>
            by_cases htag : tag = 3
            · subst htag
              cases hresult
              exact ⟨[], rfl, rfl, rfl, rfl⟩
            · have hhead : (tag :: body).head? ≠ some 3 := fun heq => htag (Option.some.inj heq)
              rw [repeatUntil_step (List.cons_ne_nil _ _) hhead, Option.bind_eq_some_iff] at hresult
              obtain ⟨result, hfirst, hresult⟩ := hresult
              obtain ⟨key, value, hkey, hvalue, rfl⟩ := entryStep_eq_some.mp hfirst
              obtain ⟨⟨others, left, table⟩, hrest, hresult⟩ := Option.map_eq_some_iff.mp hresult
              cases hresult
              have hkeyLength := (hitem.not_end hkey).2.2
              have hlength := (hitem.not_end hvalue).2.2
              dsimp only at hrest
              obtain ⟨decoded, heven, hpairs, hdecodes⟩ := (ih (by omega)).mp hrest
              refine ⟨key :: value :: decoded, ?_, ?_, hkey, hvalue, hdecodes⟩
              · rw [List.length_cons, List.length_cons]
                omega
              · rw [pairUp, hpairs]
      · rintro ⟨decoded, heven, rfl, hdecodes⟩
        match decoded with
        | [] =>
            obtain ⟨rfl, rfl⟩ := hdecodes
            rfl
        -- a key without a value is not a pair
        | [_] =>
            rw [List.length_singleton] at heven
            omega
        | key :: value :: rest =>
            obtain ⟨hkey, hvalue, hrest⟩ := hdecodes
            obtain ⟨hdata, hhead, hkeyLength⟩ := hitem.not_end hkey
            have hlength := (hitem.not_end hvalue).2.2
            rw [List.length_cons, List.length_cons] at heven
            have hrest := (ih (by omega)).mpr ⟨rest, by omega, rfl, hrest⟩
            rw [repeatUntil_step hdata hhead, entryStep_eq_some.mpr ⟨key, value, hkey, hvalue, rfl⟩,
              Option.bind_some, hrest]
            rfl

/-- The terminator of a container of fifteen items or more. -/
def closing (count : Nat) : Bytes :=
  if count = 0xF then [3] else []

/-- A list is read by its count, or up to the marker where the count says so. -/
theorem containerSteps_values (hitem : Decodes item) {count : Nat} {data : Bytes}
    {objects : List OpackScalar} {values : List OpackValue} {remaining : Bytes}
    {after : List OpackScalar} :
    containerSteps (valueStep item) count data objects = some (values, remaining, after) ↔
      ∃ decoded, (count = 0xF ∨ decoded.length = count) ∧
        values = decoded.map OpackDecoded.value ∧
        DecodesAll item decoded data objects (closing count ++ remaining) after := by
  rw [containerSteps, closing]
  by_cases hcount : count = 0xF
  · rw [if_pos hcount, if_pos hcount, repeatUntil_values hitem (Nat.lt_succ_self _)]
    simp only [hcount, true_or, true_and, List.singleton_append]
  · rw [if_neg hcount, if_neg hcount, repeatStep_values]
    simp only [hcount, false_or, List.nil_append]

theorem containerSteps_entries (hitem : Decodes item) {count : Nat} {data : Bytes}
    {objects : List OpackScalar} {pairs : List (OpackDecoded × OpackValue)} {remaining : Bytes}
    {after : List OpackScalar} :
    containerSteps (entryStep item) count data objects = some (pairs, remaining, after) ↔
      ∃ decoded, ((count = 0xF ∧ decoded.length % 2 = 0) ∨ decoded.length = 2 * count) ∧
        pairs = pairUp decoded ∧
        DecodesAll item decoded data objects (closing count ++ remaining) after := by
  rw [containerSteps, closing]
  by_cases hcount : count = 0xF
  · have heven : ∀ length : Nat,
        (count = 0xF ∧ length % 2 = 0 ∨ length = 2 * count) ↔ length % 2 = 0 := by
      omega
    rw [if_pos hcount, if_pos hcount, repeatUntil_entries hitem (Nat.lt_succ_self _)]
    simp only [heven, List.singleton_append]
  · rw [if_neg hcount, if_neg hcount, repeatStep_entries]
    simp only [hcount, false_and, false_or, List.nil_append]

/-- Items that were read take what they take off the data. -/
theorem DecodesAll.shorter (hitem : Decodes item) {decoded : List OpackDecoded} {data : Bytes}
    {objects : List OpackScalar} {remaining : Bytes} {after : List OpackScalar}
    (hdecodes : DecodesAll item decoded data objects remaining after) :
    remaining.length ≤ data.length := by
  induction decoded generalizing data objects with
  | nil => rw [hdecodes.1]
  | cons first rest ih =>
      have hlength := (hitem.not_end hdecodes.1).2.2
      have hrest := ih hdecodes.2
      omega

theorem OpackDecoded.KnownIn.mono {decoded : OpackDecoded} {objects after : List OpackScalar}
    (hknown : decoded.KnownIn objects) (hgrows : objects <+: after) : decoded.KnownIn after := by
  refine ⟨?_, hknown.loose⟩
  intro index hobject
  obtain ⟨scalar, hvalue, hindex⟩ := hknown.found index hobject
  refine ⟨scalar, hvalue, ?_⟩
  obtain ⟨added, rfl⟩ := hgrows
  rw [List.getElem?_append_left (List.getElem?_eq_some_iff.mp hindex).1, hindex]

/-- Reading items only appends to the objects. -/
theorem DecodesAll.grows (hitem : Decodes item) {decoded : List OpackDecoded} {data : Bytes}
    {objects : List OpackScalar} {remaining : Bytes} {after : List OpackScalar}
    (hdecodes : DecodesAll item decoded data objects remaining after) :
    objects <+: after ∧ ∀ value ∈ decoded, value.KnownIn after := by
  induction decoded generalizing data objects with
  | nil =>
      rw [hdecodes.2]
      exact ⟨List.prefix_refl objects, by simp⟩
  | cons first rest ih =>
      obtain ⟨_, _, _, _, _, hreads⟩ := hitem.reads hdecodes.1
      have hrest := ih hdecodes.2
      refine ⟨hreads.grows.trans hrest.1, ?_⟩
      intro value hmem
      obtain rfl | hmem := List.mem_cons.mp hmem
      · exact hreads.known.mono hrest.1
      · exact hrest.2 value hmem

end Loops

/-- Every value takes a byte, starts with neither zero nor the terminator and
only adds to the table. -/
theorem unpackWith_decodes (depth : Nat) : Decodes (unpackWith depth) := by
  induction depth with
  | zero => exact ⟨fun hdecoded => by cases hdecoded⟩
  | succ depth ih =>
      constructor
      intro data objects decoded hdecoded
      match data with
      | [] => cases hdecoded
      | tag :: body =>
          -- the tags of padding and of the end mark start no item
          suffices htag : tag.toNat ≠ 0 ∧ tag.toNat ≠ 3 ∧ ReadsFrom body objects decoded by
            refine ⟨tag, body, rfl, ?_, ?_, htag.2.2⟩
            · exact fun hzero => htag.1 (by rw [hzero]; rfl)
            · exact fun hthree => htag.2.1 (by rw [hthree]; rfl)
          rw [unpackWith] at hdecoded
          by_cases hlist : tag.toNat / 16 = 0xD
          · rw [if_pos hlist] at hdecoded
            simp only [Option.bind_eq_bind, Option.bind_eq_some_iff] at hdecoded
            obtain ⟨⟨values, remaining, after⟩, hsteps, hresult⟩ := hdecoded
            cases hresult
            obtain ⟨items, _, _, hdecodes⟩ := (containerSteps_values ih).mp hsteps
            have hlength := hdecodes.shorter ih
            rw [List.length_append] at hlength
            refine ⟨by omega, by omega, ?_, (hdecodes.grows ih).1, ?_⟩
            · dsimp only [OpackDecoded.loose]
              omega
            · exact ⟨fun _ hobject => (by cases hobject), fun _ _ hvalue => (by cases hvalue)⟩
          rw [if_neg hlist] at hdecoded
          by_cases hdict : tag.toNat / 32 = 7
          · rw [if_pos hdict] at hdecoded
            simp only [Option.bind_eq_bind, Option.bind_eq_some_iff] at hdecoded
            obtain ⟨⟨pairs, remaining, after⟩, hsteps, entries, _, hresult⟩ := hdecoded
            cases hresult
            obtain ⟨items, _, _, hdecodes⟩ := (containerSteps_entries ih).mp hsteps
            have hlength := hdecodes.shorter ih
            rw [List.length_append] at hlength
            refine ⟨by omega, by omega, ?_, (hdecodes.grows ih).1, ?_⟩
            · dsimp only [OpackDecoded.loose]
              omega
            · exact ⟨fun _ hobject => (by cases hobject), fun _ _ hvalue => (by cases hvalue)⟩
          rw [if_neg hdict] at hdecoded
          refine ⟨?_, ?_, unpackScalar_reads tag.toNat decoded hdecoded⟩
          · intro hzero
            rw [hzero] at hdecoded
            cases hdecoded
          · intro hthree
            rw [hthree] at hdecoded
            cases hdecoded

end CompanionBridge
