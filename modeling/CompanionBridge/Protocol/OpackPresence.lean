import CompanionBridge.Protocol.OpackItems

/-!
# What an accepted message contains

A payload is sliced out of the data, and a slice that ends early is shorter. The
item it belongs to is then the last one of all the containers around it.
-/

namespace CompanionBridge

open PrefixCodes

/-! ## A payload that ends early -/

/-- A payload that ends early and is taken for a shorter one. The lengths of
UUIDs and floats are checked; a text has to be UTF-8 as far as it goes and a
reference has to name an object. -/
def CutPayload (tag : Nat) (body : Bytes) (objects : List OpackScalar) : Prop :=
  if tag = 0x05 ∨ tag = 0x35 ∨ tag = 0x36 then False
  else if 0x40 ≤ tag ∧ tag ≤ 0x60 then (decodeUtf8 body).isSome = true
  else if 0x60 < tag ∧ tag ≤ 0x64 then (decodeUtf8 (body.drop (tag % 16))).isSome = true
  else if 0xC1 ≤ tag ∧ tag ≤ 0xC4 then fromLittleEndian body < objects.length
  else True

/-- Whether a payload with fewer bytes than declared is accepted. -/
def AcceptsCut (body : Bytes) (accepts : Prop) (size : Option Nat)
    (result : Option OpackDecoded) : Prop :=
  ∀ count, size = some count → body.length < count → (result.isSome ↔ accepts)

section Payloads

variable {tag : Nat} {body : Bytes} {objects : List OpackScalar} {accepts : Prop}

theorem acceptsCut_ite {condition : Prop} [Decidable condition] {first second : Option Nat}
    {result other : Option OpackDecoded}
    (hfirst : condition → AcceptsCut body accepts first result)
    (hsecond : ¬condition → AcceptsCut body accepts second other) :
    AcceptsCut body accepts (if condition then first else second)
      (if condition then result else other) := by
  by_cases hcondition : condition
  · rw [if_pos hcondition, if_pos hcondition]
    exact hfirst hcondition
  · rw [if_neg hcondition, if_neg hcondition]
    exact hsecond hcondition

theorem acceptsCut_none (result : Option OpackDecoded) :
    AcceptsCut body accepts none result :=
  fun _ hsize _ => by cases hsize

theorem acceptsCut_zero (result : Option OpackDecoded) :
    AcceptsCut body accepts (some 0) result := by
  intro count hsize hcut
  cases hsize
  omega

theorem acceptsCut_uuid (haccepts : ¬accepts) :
    AcceptsCut body accepts (some 16)
      (if hlength : (body.take 16).length = 16 then
        some (.kept (.uuid ⟨body.take 16, hlength⟩) (body.drop 16) objects)
      else none) := by
  intro size hsize hcut
  cases hsize
  rw [dif_neg (by rw [List.length_take]; omega)]
  simp [haccepts]

/-- A slice that is not checked is accepted, however short. -/
theorem acceptsCut_some (haccepts : accepts) (size : Option Nat) (decoded : OpackDecoded) :
    AcceptsCut body accepts size (some decoded) :=
  fun _ _ _ => ⟨fun _ => haccepts, fun _ => rfl⟩

/-- A length that is checked is never accepted short. -/
theorem acceptsCut_checked (haccepts : ¬accepts) (count : Nat) (decoded : OpackDecoded) :
    AcceptsCut body accepts (some count)
      (if (body.take count).length = count then some decoded else none) := by
  intro size hsize hcut
  cases hsize
  rw [if_neg (by rw [List.length_take]; omega)]
  simp [haccepts]

/-- A text that ends early is what is left of it. -/
theorem acceptsCut_text {count : Nat} {text : Bytes} (hwhole : body.length < count → text = body)
    (haccepts : accepts ↔ (decodeUtf8 body).isSome) (read : String → OpackDecoded) :
    AcceptsCut body accepts (some count) ((decodeUtf8 text).map read) := by
  intro size hsize hcut
  cases hsize
  rw [hwhole hcut, Option.isSome_map, haccepts]

/-- A text that is cut is accepted where the cut leaves UTF-8. -/
theorem acceptsCut_longText {width : Nat}
    (haccepts : accepts ↔ (decodeUtf8 (body.drop width)).isSome) (read : String → OpackDecoded) :
    AcceptsCut body accepts (some (width + fromLittleEndian (body.take width)))
      ((decodeUtf8 ((body.drop width).take (fromLittleEndian (body.take width)))).map read) := by
  intro size hsize hcut
  cases hsize
  have hwhole : (body.drop width).take (fromLittleEndian (body.take width)) = body.drop width := by
    apply List.take_of_length_le
    rw [List.length_drop]
    omega
  rw [hwhole, Option.isSome_map, haccepts]

/-- A reference that ends early names one of the first objects. -/
theorem acceptsCut_referenced {width : Nat}
    (haccepts : accepts ↔ fromLittleEndian body < objects.length) (remaining : Bytes) :
    AcceptsCut body accepts (some width)
      (OpackDecoded.referenced (fromLittleEndian (body.take width)) remaining objects) := by
  intro size hsize hcut
  cases hsize
  rw [List.take_of_length_le (Nat.le_of_lt hcut), OpackDecoded.referenced, Option.isSome_map,
    haccepts]
  simp

/-- Tags whose payload is a slice accept a cut one. -/
theorem cutPayload_plain (hchecked : tag ≠ 0x05 ∧ tag ≠ 0x35 ∧ tag ≠ 0x36)
    (htext : ¬(0x40 ≤ tag ∧ tag ≤ 0x64)) (hreference : ¬(0xC1 ≤ tag ∧ tag ≤ 0xC4)) :
    CutPayload tag body objects := by
  rw [CutPayload, if_neg (by omega), if_neg (by omega), if_neg (by omega), if_neg hreference]
  trivial

theorem cutPayload_checked (hchecked : tag = 0x05 ∨ tag = 0x35 ∨ tag = 0x36) :
    ¬CutPayload tag body objects := by
  rw [CutPayload, if_pos hchecked]
  exact not_false

/-- Short texts accept it where it is still UTF-8. -/
theorem cutPayload_shortText (htag : 0x40 ≤ tag ∧ tag ≤ 0x60) :
    CutPayload tag body objects ↔ (decodeUtf8 body).isSome := by
  rw [CutPayload, if_neg (by omega), if_pos htag]

/-- Long ones too, after their length. -/
theorem cutPayload_longText (htag : 0x60 < tag ∧ tag ≤ 0x64) :
    CutPayload tag body objects ↔ (decodeUtf8 (body.drop (tag % 16))).isSome := by
  rw [CutPayload, if_neg (by omega), if_neg (by omega), if_pos htag]

/-- A reference accepts it where the shorter index is one of an object. -/
theorem cutPayload_reference (htag : 0xC1 ≤ tag ∧ tag ≤ 0xC4) :
    CutPayload tag body objects ↔ fromLittleEndian body < objects.length := by
  rw [CutPayload, if_neg (by omega), if_neg (by omega), if_neg (by omega), if_pos htag]

/-- A payload that ends early is accepted exactly when it may be taken for a
shorter one. -/
theorem unpackScalar_cut :
    AcceptsCut body (CutPayload tag body objects) (scalarPayload tag body)
      (unpackScalar tag body objects) := by
  unfold scalarPayload unpackScalar
  dsimp only
  refine acceptsCut_ite (fun _ => acceptsCut_zero _) fun _ => ?_
  refine acceptsCut_ite (fun _ => acceptsCut_zero _) fun _ => ?_
  refine acceptsCut_ite (fun _ => acceptsCut_zero _) fun _ => ?_
  refine acceptsCut_ite (fun _ => acceptsCut_uuid (cutPayload_checked (by omega))) fun _ => ?_
  refine acceptsCut_ite (fun _ => acceptsCut_some (cutPayload_plain (by omega) (by omega)
    (by omega)) _ _) fun _ => ?_
  refine acceptsCut_ite (fun _ => acceptsCut_zero _) fun _ => ?_
  refine acceptsCut_ite (fun _ => acceptsCut_checked (cutPayload_checked (by omega)) _ _)
    fun _ => ?_
  refine acceptsCut_ite (fun _ => acceptsCut_checked (cutPayload_checked (by omega)) _ _)
    fun _ => ?_
  refine acceptsCut_ite (fun _ => acceptsCut_some (cutPayload_plain (by omega) (by omega)
    (by omega)) _ _) fun _ => ?_
  refine acceptsCut_ite (fun htag => acceptsCut_text
    (fun hcut => List.take_of_length_le (Nat.le_of_lt hcut)) (cutPayload_shortText htag) _) fun _ => ?_
  refine acceptsCut_ite (fun htag => acceptsCut_longText (cutPayload_longText htag) _) fun _ => ?_
  refine acceptsCut_ite (fun _ => acceptsCut_some (cutPayload_plain (by omega) (by omega)
    (by omega)) _ _) fun _ => ?_
  refine acceptsCut_ite (fun _ => acceptsCut_some (cutPayload_plain (by omega) (by omega)
    (by omega)) _ _) fun _ => ?_
  refine acceptsCut_ite (fun _ => acceptsCut_zero _) fun _ => ?_
  refine acceptsCut_ite (fun htag => acceptsCut_referenced (cutPayload_reference htag) _)
    fun _ => ?_
  exact acceptsCut_none _

end Payloads

/-! ## Containers -/

/-- The value of an opening and the items after it. -/
def containerValue (tag : Nat) (items : List OpackDecoded) : Option OpackValue :=
  if tag / 16 = 0xD then some (.list (items.map OpackDecoded.value))
  else (buildEntries [] (pairUp items)).map fun entries => .dict (entryPairs entries)

/-- The items of a container are as many as it declares, up to its end. -/
theorem unpackWith_container {depth : Nat} {tag : UInt8} {body : Bytes}
    {objects : List OpackScalar} {decoded : OpackDecoded}
    (htag : tag.toNat / 16 = 0xD ∨ tag.toNat / 32 = 7) :
    unpackWith (depth + 1) (tag :: body) objects = some decoded ↔
      ∃ items value remaining after, Declares tag.toNat items.length ∧
        DecodesAll (unpackWith depth) items body objects (closing (tag.toNat % 16) ++ remaining)
          after ∧
        containerValue tag.toNat items = some value ∧ decoded = .loose value remaining after := by
  rw [unpackWith]
  by_cases hlist : tag.toNat / 16 = 0xD
  · have hdict : ¬tag.toNat / 32 = 7 := by omega
    simp only [Option.bind_eq_bind, Option.bind_eq_some_iff, Option.pure_def,
      Option.some.injEq, Declares, hlist, hdict, true_and, false_and, or_false, containerValue,
      if_true]
    constructor
    · rintro ⟨⟨values, remaining, after⟩, hsteps, rfl⟩
      obtain ⟨items, hcount, rfl, hdecodes⟩ :=
        (containerSteps_values (unpackWith_decodes depth)).mp hsteps
      exact ⟨items, _, remaining, after, hcount, hdecodes, rfl, rfl⟩
    · rintro ⟨items, _, remaining, after, hcount, hdecodes, rfl, rfl⟩
      have hsteps := (containerSteps_values (unpackWith_decodes depth)).mpr
        ⟨items, hcount, rfl, hdecodes⟩
      exact ⟨_, hsteps, rfl⟩
  · have hdict : tag.toNat / 32 = 7 := htag.resolve_left hlist
    simp only [Option.bind_eq_bind, Option.bind_eq_some_iff, Option.pure_def,
      Option.some.injEq, Declares, hlist, hdict, true_and, false_and, false_or, containerValue,
      if_true, if_false, Option.map_eq_some_iff]
    constructor
    · rintro ⟨⟨pairs, remaining, after⟩, hsteps, entries, hentries, rfl⟩
      obtain ⟨items, hcount, rfl, hdecodes⟩ :=
        (containerSteps_entries (unpackWith_decodes depth)).mp hsteps
      exact ⟨items, _, remaining, after, hcount, hdecodes, ⟨entries, hentries, rfl⟩, rfl⟩
    · rintro ⟨items, _, remaining, after, hcount, hdecodes, ⟨entries, hentries, rfl⟩, rfl⟩
      have hsteps := (containerSteps_entries (unpackWith_decodes depth)).mpr
        ⟨items, hcount, rfl, hdecodes⟩
      exact ⟨_, hsteps, entries, hentries, rfl⟩

/-- Every second item, from the first on, may be a key. -/
def ScalarKeys : List OpackDecoded → Prop
  | [] => True
  | [key] => ∃ scalar, key.value = .scalar scalar
  | key :: _ :: rest => (∃ scalar, key.value = .scalar scalar) ∧ ScalarKeys rest

/-- The same items, whatever data follows each of them. -/
def SameItems (items others : List OpackDecoded) : Prop :=
  items.map (·.leaving []) = others.map (·.leaving [])

theorem SameItems.length {items others : List OpackDecoded} (hsame : SameItems items others) :
    items.length = others.length := by
  have hlength := congrArg List.length hsame
  rwa [List.length_map, List.length_map] at hlength

/-- A dictionary is built from its items, not from what follows them. -/
theorem buildEntries_leaving (entries : OpackEntries) : ∀ items : List OpackDecoded,
    buildEntries entries (pairUp (items.map (·.leaving []))) = buildEntries entries (pairUp items)
  | [] => rfl
  | [_] => rfl
  | key :: value :: rest => by
      rw [List.map_cons, List.map_cons, pairUp_cons, pairUp_cons, buildEntries, buildEntries]
      simp only [OpackDecoded.leaving_value, OpackDecoded.leaving_object]
      cases key.value with
      | scalar scalar => exact buildEntries_leaving _ rest
      | list items => rfl
      | dict entries => rfl

theorem SameItems.containerValue {items others : List OpackDecoded}
    (hsame : SameItems items others) (tag : Nat) :
    containerValue tag items = CompanionBridge.containerValue tag others := by
  have hvalues : items.map OpackDecoded.value = others.map OpackDecoded.value := by
    have hmapped := congrArg (List.map OpackDecoded.value) hsame
    simpa only [List.map_map, Function.comp_def, OpackDecoded.leaving_value] using hmapped
  have hentries : buildEntries [] (pairUp items) = buildEntries [] (pairUp others) := by
    rw [← buildEntries_leaving, hsame, buildEntries_leaving]
  rw [CompanionBridge.containerValue, CompanionBridge.containerValue, hvalues, hentries]

/-- Only a container as a key is refused. -/
theorem buildEntries_isSome : ∀ (entries : OpackEntries) (items : List OpackDecoded),
    items.length % 2 = 0 → ((buildEntries entries (pairUp items)).isSome ↔ ScalarKeys items)
  | entries, [], _ => by simp [pairUp, buildEntries, ScalarKeys]
  | entries, [_], heven => by cases heven
  | entries, key :: value :: rest, heven => by
      rw [List.length_cons, List.length_cons] at heven
      rw [pairUp_cons, buildEntries, ScalarKeys]
      cases hkey : key.value with
      | scalar scalar =>
          rw [buildEntries_isSome _ rest (by omega)]
          simp
      | list items => simp
      | dict entries => simp

theorem containerValue_isSome {tag : Nat} {items : List OpackDecoded}
    (hdeclares : Declares tag items.length) :
    (containerValue tag items).isSome ↔ (tag / 32 = 7 → ScalarKeys items) := by
  rw [containerValue]
  obtain ⟨hlist, _⟩ | ⟨hdict, hcount⟩ := hdeclares
  · have hother : tag / 32 ≠ 7 := by omega
    simp [hlist, hother]
  · have hother : tag / 16 ≠ 0xD := by omega
    rw [if_neg hother, Option.isSome_map, buildEntries_isSome [] items (by omega)]
    simp [hdict]

/-- The last item is the value of a key before it. -/
theorem scalarKeys_snoc (last : OpackDecoded) : ∀ items : List OpackDecoded,
    items.length % 2 = 1 → (ScalarKeys (items ++ [last]) ↔ ScalarKeys items)
  | [], hodd => by cases hodd
  | [_], _ => by simp [ScalarKeys]
  | _ :: _ :: rest, hodd => by
      rw [List.length_cons, List.length_cons] at hodd
      rw [List.cons_append, List.cons_append, ScalarKeys, ScalarKeys,
        scalarKeys_snoc last rest (by omega)]

/-! ## Data that ends inside an item -/

/-- The data ends inside a payload that is taken for a shorter one: of its only
item, or of the last item that a counted container declares. -/
inductive CutItem : Nat → Bytes → List OpackScalar → Prop where
  | payload {depth : Nat} {tag : UInt8} {body : Bytes} {objects : List OpackScalar} {size : Nat}
      (hsize : scalarPayload tag.toNat body = some size) (hcut : body.length < size)
      (hread : CutPayload tag.toNat body objects) : CutItem (depth + 1) (tag :: body) objects
  | last {depth : Nat} {tag : UInt8} {body data : Bytes} {objects table : List OpackScalar}
      {items : List OpackDecoded} (hcount : tag.toNat % 16 ≠ 0xF)
      (hdeclares : Declares tag.toNat (items.length + 1))
      (hitems : DecodesAll (unpackWith depth) items body objects data table)
      (hkeys : tag.toNat / 32 = 7 → ScalarKeys items)
      (hlast : CutItem depth data table) : CutItem (depth + 1) (tag :: body) objects

/-- The data starts with a whole item, which is read the same whatever follows it. -/
def ReadsWhole (depth : Nat) (data : Bytes) (objects : List OpackScalar)
    (decoded : OpackDecoded) : Prop :=
  ∃ item, WholeItem item ∧ data = item ++ decoded.remaining ∧
    ∀ rest, unpackWith depth (item ++ rest) objects = some (decoded.leaving rest)

/-- Several whole items. -/
def ReadAllWhole (depth : Nat) (decoded : List OpackDecoded) (data : Bytes)
    (objects : List OpackScalar) (remaining : Bytes) (after : List OpackScalar) : Prop :=
  ∃ items : List Bytes, items.length = decoded.length ∧ (∀ item ∈ items, WholeItem item) ∧
    data = items.flatten ++ remaining ∧
    ∀ rest, ∃ others, SameItems others decoded ∧
      DecodesAll (unpackWith depth) others (items.flatten ++ rest) objects rest after

/-- Only the last of several items is cut, and nothing is left after it. -/
theorem decodesAll_extent {depth : Nat} {decoded : List OpackDecoded} {data remaining : Bytes}
    {objects after : List OpackScalar}
    (hitem : ∀ data objects decoded, unpackWith depth data objects = some decoded →
      ReadsWhole depth data objects decoded ∨ decoded.remaining = [] ∧ CutItem depth data objects)
    (hdecodes : DecodesAll (unpackWith depth) decoded data objects remaining after) :
    ReadAllWhole depth decoded data objects remaining after ∨
      remaining = [] ∧ ∃ items last cut table, decoded = items ++ [last] ∧
        DecodesAll (unpackWith depth) items data objects cut table ∧ CutItem depth cut table := by
  induction decoded generalizing data objects with
  | nil =>
      obtain ⟨rfl, rfl⟩ := hdecodes
      exact .inl ⟨[], rfl, by simp, rfl, fun rest => ⟨[], rfl, rfl, rfl⟩⟩
  | cons first rest ih =>
      obtain ⟨hfirst, hrest⟩ := hdecodes
      obtain ⟨piece, hwhole, hdata, hread⟩ | ⟨hempty, hcut⟩ := hitem _ _ _ hfirst
      · obtain ⟨pieces, hlength, hpieces, hremaining, hreads⟩ |
          ⟨hempty, items, last, cut, table, rfl, hitems, hcut⟩ := ih hrest
        · refine .inl ⟨piece :: pieces, ?_, ?_, ?_, ?_⟩
          · rw [List.length_cons, List.length_cons, hlength]
          · intro item hmem
            obtain rfl | hmem := List.mem_cons.mp hmem
            · exact hwhole
            · exact hpieces item hmem
          · rw [hdata, hremaining, List.flatten_cons, List.append_assoc]
          · intro tail
            obtain ⟨others, hsame, hothers⟩ := hreads tail
            refine ⟨first.leaving (pieces.flatten ++ tail) :: others, ?_, ?_, hothers⟩
            · rw [SameItems, List.map_cons, List.map_cons, hsame, OpackDecoded.leaving_leaving]
            · rw [List.flatten_cons, List.append_assoc]
              exact hread _
        · exact .inr ⟨hempty, first :: items, last, cut, table, rfl, ⟨hfirst, hitems⟩, hcut⟩
      · rw [hempty] at hrest
        cases rest with
        | nil => exact .inr ⟨hrest.1, [], first, data, objects, rfl, ⟨rfl, rfl⟩, hcut⟩
        | cons second others =>
            exact absurd rfl ((unpackWith_decodes depth).not_end hrest.1).1

/-- A container whose last item is cut and that may be built all the same. -/
theorem cutItem_last {depth : Nat} {tag : UInt8} {body data : Bytes}
    {objects table : List OpackScalar} {items : List OpackDecoded} {last : OpackDecoded}
    (hclosing : closing (tag.toNat % 16) = []) (hdeclares : Declares tag.toNat (items.length + 1))
    (hitems : DecodesAll (unpackWith depth) items body objects data table)
    (hvalue : (containerValue tag.toNat (items ++ [last])).isSome)
    (hlast : CutItem depth data table) : CutItem (depth + 1) (tag :: body) objects := by
  have hcount : tag.toNat % 16 ≠ 0xF := by
    intro heq
    rw [closing, if_pos heq] at hclosing
    cases hclosing
  have hlength : Declares tag.toNat (items ++ [last]).length := by
    rwa [List.length_append, List.length_singleton]
  refine .last hcount hdeclares hitems ?_ hlast
  intro hdict
  rw [← scalarKeys_snoc last items]
  · exact (containerValue_isSome hlength).mp hvalue hdict
  · unfold Declares at hdeclares
    omega

/-- An accepted item is there as a whole, or the data ends inside it. -/
theorem unpackWith_extent (depth : Nat) (data : Bytes) (objects : List OpackScalar)
    (decoded : OpackDecoded) (hdecoded : unpackWith depth data objects = some decoded) :
    ReadsWhole depth data objects decoded ∨ decoded.remaining = [] ∧ CutItem depth data objects := by
  induction depth generalizing data objects decoded with
  | zero => cases hdecoded
  | succ depth ih =>
      cases data with
      | nil => cases hdecoded
      | cons tag body =>
          -- a container is cut in its last item, a scalar in its payload
          by_cases htag : tag.toNat / 16 = 0xD ∨ tag.toNat / 32 = 7
          · obtain ⟨items, value, remaining, after, hdeclares, hdecodes, hvalue, rfl⟩ :=
              (unpackWith_container htag).mp hdecoded
            obtain ⟨pieces, hlength, hpieces, hbody, hreads⟩ |
              ⟨hempty, items, last, cut, table, rfl, hitems, hcut⟩ := decodesAll_extent ih hdecodes
            · refine .inl ⟨_, .container (by rwa [hlength]) hpieces, ?_, ?_⟩
              · rw [hbody, List.cons_append, List.append_assoc]
                rfl
              · intro rest
                obtain ⟨others, hsame, hothers⟩ := hreads (closing (tag.toNat % 16) ++ rest)
                rw [List.cons_append, List.append_assoc, unpackWith_container htag]
                refine ⟨others, value, rest, after, ?_, hothers, ?_, rfl⟩
                · rwa [hsame.length]
                · rw [hsame.containerValue, hvalue]
            · obtain ⟨hclosing, hremaining⟩ := List.append_eq_nil_iff.mp hempty
              rw [List.length_append, List.length_singleton] at hdeclares
              exact .inr ⟨hremaining, cutItem_last hclosing hdeclares hitems
                (Option.isSome_of_eq_some hvalue) hcut⟩
          · have hlist : tag.toNat / 16 ≠ 0xD := fun heq => htag (.inl heq)
            have hdict : tag.toNat / 32 ≠ 7 := fun heq => htag (.inr heq)
            have hopen : ∀ data : Bytes, unpackWith (depth + 1) (tag :: data) objects =
                unpackScalar tag.toNat data objects := by
              intro data
              rw [unpackWith, if_neg hlist, if_neg hdict]
            rw [hopen] at hdecoded
            obtain ⟨size, hsize, hremaining⟩ := unpackScalar_remaining hdecoded
            by_cases hlength : size ≤ body.length
            · refine .inl ⟨tag :: body.take size, .scalar ?_, ?_, ?_⟩
              · have hlasting := scalarPayload_lasting tag.toNat size hsize hlength []
                rw [List.append_nil] at hlasting
                rw [hlasting, List.length_take, Nat.min_eq_left hlength]
              · rw [hremaining, List.cons_append, List.take_append_drop]
              · intro rest
                rw [List.cons_append, hopen]
                exact unpackScalar_extent hsize hlength hdecoded rest
            · have hcut : body.length < size := by omega
              have haccepts := (unpackScalar_cut size hsize hcut).mp
                (Option.isSome_of_eq_some hdecoded)
              refine .inr ⟨?_, .payload hsize hcut haccepts⟩
              rw [hremaining, List.drop_of_length_le (by omega)]

/-! ## Cut data is accepted -/

theorem DecodesAll.snoc {item : Bytes → List OpackScalar → Option OpackDecoded}
    {items : List OpackDecoded} {last : OpackDecoded} {data remaining : Bytes}
    {objects after : List OpackScalar} (hitems : DecodesAll item items data objects remaining after)
    (hlast : item remaining after = some last) :
    DecodesAll item (items ++ [last]) data objects last.remaining last.objects := by
  induction items generalizing data objects with
  | nil =>
      obtain ⟨rfl, rfl⟩ := hitems
      exact ⟨hlast, rfl, rfl⟩
  | cons first rest ih => exact ⟨hitems.1, ih hitems.2⟩

namespace CutItem

variable {depth : Nat} {data : Bytes} {objects : List OpackScalar}

/-- There is something to cut. -/
theorem ne_nil (hcut : CutItem depth data objects) : data ≠ [] := by
  cases hcut <;> exact List.cons_ne_nil _ _

/-- Data that ends inside an item is accepted to its end. -/
theorem accepted (hcut : CutItem depth data objects) :
    ∃ decoded, unpackWith depth data objects = some decoded ∧ decoded.remaining = [] := by
  induction hcut with
  | @payload depth tag body objects size hsize hcut hread =>
      obtain ⟨decoded, hdecoded⟩ := Option.isSome_iff_exists.mp
        ((unpackScalar_cut size hsize hcut).mpr hread)
      obtain ⟨other, hother, hremaining⟩ := unpackScalar_remaining hdecoded
      rw [hsize, Option.some.injEq] at hother
      subst hother
      have hscalar : ¬(tag.toNat / 16 = 0xD ∨ tag.toNat / 32 = 7) := by
        intro htag
        rw [scalarPayload_opening htag] at hsize
        cases hsize
      refine ⟨decoded, ?_, ?_⟩
      · rw [unpackWith, if_neg (fun htag => hscalar (.inl htag)),
          if_neg (fun htag => hscalar (.inr htag)), hdecoded]
      · rw [hremaining, List.drop_of_length_le (by omega)]
  | @last depth tag body data objects table items hcount hdeclares hitems hkeys hlast ih =>
      obtain ⟨last, hlast, hremaining⟩ := ih
      have hlength : Declares tag.toNat (items ++ [last]).length := by
        rwa [List.length_append, List.length_singleton]
      have hvalue : (containerValue tag.toNat (items ++ [last])).isSome := by
        rw [containerValue_isSome hlength]
        intro hdict
        rw [scalarKeys_snoc last items (by unfold Declares at hdeclares; omega)]
        exact hkeys hdict
      obtain ⟨value, hvalue⟩ := Option.isSome_iff_exists.mp hvalue
      have hdecodes := hitems.snoc hlast
      rw [hremaining] at hdecodes
      refine ⟨.loose value [] last.objects, ?_, rfl⟩
      rw [unpackWith_container hdeclares.opening]
      refine ⟨items ++ [last], value, [], last.objects, hlength, ?_, hvalue, rfl⟩
      rw [closing, if_neg hcount]
      exact hdecodes

/-- It is no whole item. -/
theorem not_wholeItem (hcut : CutItem depth data objects) : ¬WholeItem data := by
  induction hcut with
  | @payload depth tag body objects size hsize hcut hread =>
      intro hwhole
      cases hwhole with
      | scalar hother =>
          rw [hsize, Option.some.injEq] at hother
          omega
      | container hdeclares _ =>
          rw [scalarPayload_opening hdeclares.opening] at hsize
          cases hsize
  | @last depth tag body data objects table items hcount hdeclares hitems hkeys hlast ih =>
      intro hwhole
      generalize hbody : body = payload at hwhole
      cases hwhole with
      | scalar hsize =>
          rw [scalarPayload_opening hdeclares.opening] at hsize
          cases hsize
      | @container _ others hothers hwhole =>
          rw [closing, if_neg hcount] at hbody
          obtain ⟨pieces, hlength, hpieces, hdata, _⟩ | ⟨hempty, _⟩ :=
            decodesAll_extent (unpackWith_extent depth) hitems
          · have hmore : others.length = pieces.length + 1 := by
              unfold Declares at hdeclares hothers
              omega
            obtain ⟨more, rfl, htail⟩ := flatten_aligned
              (fun piece hmem => wholeItem_prefixCode piece (hpieces piece hmem)) hwhole
              (by omega) (hdata.symm.trans hbody)
            rw [List.length_append] at hmore
            obtain ⟨item, rfl⟩ := List.length_eq_one_iff.mp (by omega : more.length = 1)
            apply ih
            rw [htail, List.append_nil, List.flatten_singleton]
            exact hwhole item (by simp)
          · exact hlast.ne_nil hempty

end CutItem

end CompanionBridge
