import CompanionBridge.Protocol.OpackAlign

/-!
# Reading a written form back

When the decoder returns a value that was written and leaves nothing of it, the
value is aligned. Dictionaries come back whole when none of their keys replaced
another.
-/

namespace CompanionBridge

/-! ## The decoder keeps in step with the form -/

theorem unpackWith_list (depth : Nat) {count : Nat} (hcount : count ≤ 0xF) (body : Bytes)
    (objects : List OpackScalar) :
    unpackWith (depth + 1) ((OpackToken.list count).bytes ++ body) objects =
      (containerSteps (valueStep (unpackWith depth)) count body objects).map
        fun (items, remaining, objects) => .loose (.list items) remaining objects := by
  have hvalue := @OpackToken.toNat_ofNat (0xD0 + count) (by omega)
  have hlow : (0xD0 + count) % 16 = count := by omega
  rw [OpackToken.bytes, List.singleton_append, unpackWith, hvalue, if_pos (by omega), hlow]
  cases containerSteps (valueStep (unpackWith depth)) count body objects <;> rfl

theorem unpackWith_dict (depth : Nat) {count : Nat} (hcount : count ≤ 0xF) (body : Bytes)
    (objects : List OpackScalar) :
    unpackWith (depth + 1) ((OpackToken.dict count).bytes ++ body) objects =
      (containerSteps (entryStep (unpackWith depth)) count body objects).bind
        fun (pairs, remaining, objects) =>
          (buildEntries [] pairs).map fun entries =>
            .loose (.dict (entryPairs entries)) remaining objects := by
  have hvalue := @OpackToken.toNat_ofNat (0xE0 + count) (by omega)
  have hlow : (0xE0 + count) % 16 = count := by omega
  rw [OpackToken.bytes, List.singleton_append, unpackWith, hvalue, if_neg (by omega),
    if_pos (by omega), hlow]
  cases containerSteps (entryStep (unpackWith depth)) count body objects with
  | none => rfl
  | some result => cases hentries : buildEntries [] result.1 <;> simp [hentries]

/-- The opening, the items and the end, and then whatever follows. -/
theorem formBytes_container (opening : Nat → OpackToken) (count : Nat) (body : OpackForm)
    (rest : Bytes) :
    formBytes (containerForm opening count body) ++ rest =
      (opening (min count 0xF)).bytes ++
        (formBytes body ++ (closing (min count 0xF) ++ rest)) := by
  have hclosing : (min count 0xF = 0xF) ↔ 0xF ≤ count := by omega
  simp only [containerForm, List.cons_append, formBytes_cons, formBytes_append, closing, hclosing,
    List.append_assoc]
  split_ifs <;> rfl

/-- What is left of the data after a value: at most the end of a wide reference. -/
def Leaves (rest remaining : Bytes) : Prop :=
  remaining = rest ∨ remaining = 0 :: rest

/-- A repeated form leaves what a reference leaves. -/
theorem leaves_reference {depth index : Nat} (hindex : index < 2 ^ 24) {rest : Bytes}
    {objects : List OpackScalar} {decoded : OpackDecoded}
    (hdecoded :
      unpackWith (depth + 1) (formBytes [.reference index] ++ rest) objects = some decoded) :
    Leaves rest decoded.remaining := by
  by_cases hnarrow : index ≤ 0xFFFF
  · rw [unpackWith_reference depth hnarrow] at hdecoded
    exact .inl (OpackDecoded.referenced_remaining hdecoded)
  · exact .inr (unpackWith_wideReference (by omega) hindex hdecoded)

/-- The items of a container are decoded one for one. -/
theorem leaves_items {depth : Nat} {items : List OpackValue} {forms : List OpackForm}
    {decoded : List OpackDecoded} {tail remaining : Bytes} {objects after : List OpackScalar}
    (hitem : ∀ item ∈ items, ∀ forms rest objects decoded, ValidForms forms →
      (item.written forms).2.length ≤ 2 ^ 24 →
      unpackWith depth (formBytes (item.written forms).1 ++ rest) objects = some decoded →
        Leaves rest decoded.remaining)
    (hfits : EachItem OpackScalar.Fits items) (hforms : ValidForms forms)
    (hsmall : (writtenItems items forms).2.length ≤ 2 ^ 24)
    (hend : (∃ rest others, tail = 3 :: rest ∧ remaining = 3 :: others) ∨
      decoded.length = items.length)
    (hdecodes : DecodesAll (unpackWith depth) decoded
      (formBytes (writtenItems items forms).1 ++ tail) objects remaining after) :
    decoded.length = items.length ∧ Leaves tail remaining := by
  have hnone : ∀ {rest objects decoded}, unpackWith depth (0 :: rest) objects ≠ some decoded := by
    intro rest objects decoded hzero
    obtain ⟨tag, body, hdata, htag, _⟩ := (unpackWith_decodes depth).reads hzero
    exact htag (List.cons.inj hdata).1.symm
  -- a cut item leaves nothing that another item could be read from
  induction items generalizing forms decoded objects with
  | nil =>
      cases decoded with
      | nil => exact ⟨rfl, .inl hdecodes.1⟩
      | cons first rest =>
          obtain ⟨data, others, rfl, _⟩ | hlength := hend
          · obtain ⟨tag, body, hdata, _, htag, _⟩ := (unpackWith_decodes depth).reads hdecodes.1
            exact absurd (List.cons.inj hdata).1.symm htag
          · cases hlength
  | cons item items ih =>
      obtain ⟨hfirstFits, hrestFits⟩ := hfits
      have hvalid := (written_valid hfirstFits hforms).2
      have hlength := writtenItems_length items (item.written forms).2
      rw [writtenItems] at hsmall hdecodes
      dsimp only at hsmall hdecodes
      rw [formBytes_append, List.append_assoc] at hdecodes
      cases decoded with
      | nil =>
          obtain ⟨data, others, _, hothers⟩ | hempty := hend
          · have hdata := hdecodes.1.symm.trans hothers
            exact absurd hdata (written_not_end hfirstFits hforms _ _)
          · cases hempty
      | cons first rest =>
          obtain ⟨hfirst, hrest⟩ := hdecodes
          have hleaves := hitem item List.mem_cons_self forms _ _ _ hforms (by omega) hfirst
          obtain hremaining | hremaining := hleaves
          · rw [hremaining] at hrest
            have hnext := ih (fun item hmem => hitem item (List.mem_cons_of_mem _ hmem)) hrestFits
              hvalid hsmall (hend.imp_right fun heq => Nat.succ.inj heq) hrest
            exact ⟨by rw [List.length_cons, List.length_cons, hnext.1], hnext.2⟩
          · rw [hremaining] at hrest
            cases rest with
            | cons second others => exact absurd hrest.1 hnone
            | nil =>
                obtain ⟨data, others, _, hothers⟩ | hlast := hend
                · rw [hrest.1] at hothers
                  cases hothers
                · have hempty : items = [] :=
                    List.length_eq_zero_iff.mp (Nat.succ.inj hlast).symm
                  subst hempty
                  exact ⟨rfl, .inr hrest.1⟩

/-- What a container's steps leave. -/
theorem leaves_closing {count : Nat} {rest remaining : Bytes}
    (hleaves : Leaves (closing count ++ rest) (closing count ++ remaining)) :
    Leaves rest remaining := by
  rw [closing] at hleaves
  split_ifs at hleaves with hcount
  · obtain hsame | hzero := hleaves
    · exact .inl (List.append_cancel_left hsame)
    · cases hzero
  · exact hleaves

/-- A container that was written is read to its end, if its items are. -/
theorem leaves_container {depth count : Nat} {items : List OpackValue} {forms : List OpackForm}
    {decoded : List OpackDecoded} {rest remaining : Bytes} {objects after : List OpackScalar}
    (hitem : ∀ item ∈ items, ∀ forms rest objects decoded, ValidForms forms →
      (item.written forms).2.length ≤ 2 ^ 24 →
      unpackWith depth (formBytes (item.written forms).1 ++ rest) objects = some decoded →
        Leaves rest decoded.remaining)
    (hfits : EachItem OpackScalar.Fits items) (hforms : ValidForms forms)
    (hsmall : (writtenItems items forms).2.length ≤ 2 ^ 24)
    (hend : count = 0xF ∨ decoded.length = items.length)
    (hdecodes : DecodesAll (unpackWith depth) decoded
      (formBytes (writtenItems items forms).1 ++ (closing count ++ rest)) objects
      (closing count ++ remaining) after) :
    decoded.length = items.length ∧ Leaves rest remaining := by
  have hitems := leaves_items hitem hfits hforms hsmall
    (hend.imp_left fun hcount => ⟨rest, remaining, by simp [closing, hcount]⟩) hdecodes
  exact ⟨hitems.1, leaves_closing hitems.2⟩

/-- A form is new, too short to be kept, or a reference to where it stands. -/
theorem internForm_cases {form : OpackForm} {forms : List OpackForm}
    (hsmall : (internForm form forms).2.length ≤ 2 ^ 24) :
    (form ∈ forms ∧ forms.idxOf form < 2 ^ 24 ∧
        internForm form forms = ([.reference (forms.idxOf form)], forms)) ∨
      (form ∉ forms ∧ (internForm form forms).1 = form) := by
  rw [internForm] at hsmall ⊢
  by_cases hmem : form ∈ forms
  · rw [if_pos hmem] at hsmall ⊢
    have hindex := List.idxOf_lt_length_of_mem hmem
    dsimp only at hsmall
    rw [if_pos (by omega)]
    exact .inl ⟨hmem, by omega, rfl⟩
  · rw [if_neg hmem]
    refine .inr ⟨hmem, ?_⟩
    split_ifs <;> rfl

/-- The decoded items of a written list. -/
theorem unpackWith_listForm {depth count : Nat} {body : OpackForm} {rest : Bytes}
    {objects : List OpackScalar} {decoded : OpackDecoded} :
    unpackWith (depth + 1) (formBytes (containerForm .list count body) ++ rest) objects =
        some decoded ↔
      ∃ items, (min count 0xF = 0xF ∨ items.length = min count 0xF) ∧
        DecodesAll (unpackWith depth) items
          (formBytes body ++ (closing (min count 0xF) ++ rest)) objects
          (closing (min count 0xF) ++ decoded.remaining) decoded.objects ∧
        decoded =
          .loose (.list (items.map OpackDecoded.value)) decoded.remaining decoded.objects := by
  rw [formBytes_container, unpackWith_list depth (Nat.min_le_right _ _), Option.map_eq_some_iff]
  constructor
  · rintro ⟨⟨values, remaining, after⟩, hsteps, rfl⟩
    obtain ⟨items, hlength, rfl, hdecodes⟩ :=
      (containerSteps_values (unpackWith_decodes depth)).mp hsteps
    exact ⟨items, hlength, hdecodes, rfl⟩
  · rintro ⟨items, hlength, hdecodes, hdecoded⟩
    have hsteps := (containerSteps_values (unpackWith_decodes depth)).mpr
      ⟨items, hlength, rfl, hdecodes⟩
    exact ⟨_, hsteps, hdecoded.symm⟩

/-- The decoded keys and values of a written dictionary. -/
theorem unpackWith_dictForm {depth count : Nat} {body : OpackForm} {rest : Bytes}
    {objects : List OpackScalar} {decoded : OpackDecoded} :
    unpackWith (depth + 1) (formBytes (containerForm .dict count body) ++ rest) objects =
        some decoded ↔
      ∃ items entries,
        (min count 0xF = 0xF ∧ items.length % 2 = 0 ∨ items.length = 2 * min count 0xF) ∧
        DecodesAll (unpackWith depth) items
          (formBytes body ++ (closing (min count 0xF) ++ rest)) objects
          (closing (min count 0xF) ++ decoded.remaining) decoded.objects ∧
        buildEntries [] (pairUp items) = some entries ∧
        decoded = .loose (.dict (entryPairs entries)) decoded.remaining decoded.objects := by
  rw [formBytes_container, unpackWith_dict depth (Nat.min_le_right _ _), Option.bind_eq_some_iff]
  constructor
  · rintro ⟨⟨pairs, remaining, after⟩, hsteps, hentries⟩
    obtain ⟨entries, hbuild, rfl⟩ := Option.map_eq_some_iff.mp hentries
    obtain ⟨items, hlength, rfl, hdecodes⟩ :=
      (containerSteps_entries (unpackWith_decodes depth)).mp hsteps
    exact ⟨items, entries, hlength, hdecodes, hbuild, rfl⟩
  · rintro ⟨items, entries, hlength, hdecodes, hentries, hdecoded⟩
    have hsteps := (containerSteps_entries (unpackWith_decodes depth)).mpr
      ⟨items, hlength, rfl, hdecodes⟩
    exact ⟨_, hsteps, Option.map_eq_some_iff.mpr ⟨entries, hentries, hdecoded.symm⟩⟩

/-- Decoding a written value leaves what follows it, or that and a zero. -/
theorem unpackWith_leaves {depth : Nat} {value : OpackValue} {forms : List OpackForm}
    {rest : Bytes} {objects : List OpackScalar} {decoded : OpackDecoded} (hfits : value.Fits)
    (hforms : ValidForms forms) (hsmall : (value.written forms).2.length ≤ 2 ^ 24)
    (hdecoded :
      unpackWith depth (formBytes (value.written forms).1 ++ rest) objects = some decoded) :
    Leaves rest decoded.remaining := by
  induction depth generalizing value forms rest objects decoded with
  | zero => cases hdecoded
  | succ depth ih =>
      cases value with
      | scalar scalar =>
          rw [OpackValue.written] at hsmall hdecoded
          obtain ⟨_, hindex, hform⟩ | ⟨_, hform⟩ := internForm_cases hsmall
          · rw [hform] at hdecoded
            exact leaves_reference hindex hdecoded
          · rw [hform, unpackWith_scalar depth hfits, Option.some.injEq] at hdecoded
            rw [← hdecoded, OpackDecoded.fresh_remaining]
            exact .inl rfl
      -- a container that repeats an earlier one is written as a reference
      | list items =>
          rw [OpackValue.written] at hsmall hdecoded
          rw [OpackValue.Fits, OpackValue.Each] at hfits
          have hlength := internForm_length
            (containerForm .list items.length (writtenItems items forms).1)
            (writtenItems items forms).2
          obtain ⟨_, hindex, hform⟩ | ⟨_, hform⟩ := internForm_cases hsmall
          · rw [hform] at hdecoded
            exact leaves_reference hindex hdecoded
          · rw [hform, unpackWith_listForm] at hdecoded
            obtain ⟨decodedItems, hcount, hdecodes, _⟩ := hdecoded
            apply And.right
            refine leaves_container ?_ hfits hforms (by omega) (by omega) hdecodes
            intro item hmem forms rest objects decoded hforms hsmall hdecoded
            exact ih (eachItem_iff.mp hfits item hmem) hforms hsmall hdecoded
      | dict entries =>
          rw [OpackValue.written, writtenEntries_eq] at hsmall hdecoded
          rw [OpackValue.Fits, OpackValue.Each, eachEntry_iff] at hfits
          have hlength := internForm_length
            (containerForm .dict entries.length (writtenItems (flattenEntries entries) forms).1)
            (writtenItems (flattenEntries entries) forms).2
          obtain ⟨_, hindex, hform⟩ | ⟨_, hform⟩ := internForm_cases hsmall
          · rw [hform] at hdecoded
            exact leaves_reference hindex hdecoded
          · rw [hform, unpackWith_dictForm] at hdecoded
            obtain ⟨decodedItems, _, hcount, hdecodes, _⟩ := hdecoded
            have hflat := flattenEntries_length entries
            apply And.right
            refine leaves_container ?_ hfits hforms (by omega) (by omega) hdecodes
            intro item hmem forms rest objects decoded hforms hsmall hdecoded
            exact ih (eachItem_iff.mp hfits item hmem) hforms hsmall hdecoded

/-! ## Dictionaries are rebuilt -/

theorem pairUp_cons (key value : OpackDecoded) (rest : List OpackDecoded) :
    pairUp (key :: value :: rest) = (key, value.value) :: pairUp rest := rfl

/-- A key is appended or found, and a key that is found keeps its place. -/
theorem setEntry_cases (entries : OpackEntries) (key : OpackScalar) (object : Option Nat)
    (value : OpackValue) :
    (setEntry entries key object value = entries ++ [(key, object, value)] ∧
        ∀ entry ∈ entries, sameKey entry.1 key entry.2.1 object = false) ∨
      (setEntry entries key object value).length = entries.length := by
  induction entries with
  | nil => exact .inl ⟨rfl, by simp⟩
  | cons entry rest ih =>
      obtain ⟨held, heldObject, old⟩ := entry
      rw [setEntry]
      cases hsame : sameKey held key heldObject object with
      | true => exact .inr rfl
      | false =>
          rw [if_neg Bool.false_ne_true]
          obtain ⟨hset, hrest⟩ | hlength := ih
          · refine .inl ⟨by rw [hset, List.cons_append], ?_⟩
            intro entry hmem
            obtain rfl | hmem := List.mem_cons.mp hmem
            · exact hsame
            · exact hrest entry hmem
          · exact .inr (by rw [List.length_cons, List.length_cons, hlength])

/-- Two decoded keys that a dictionary keeps apart. -/
def DifferentKeys (first second : OpackDecoded) : Prop :=
  ∀ key other, first.value = .scalar key → second.value = .scalar other →
    sameKey key other first.object second.object = false

/-- The entries a dictionary holds are these keys and values, in order. -/
def EntriesOf (entries : OpackEntries) (pairs : List (OpackDecoded × OpackValue)) : Prop :=
  List.Forall₂ (fun entry pair => pair.1.value = .scalar entry.1 ∧ pair.1.object = entry.2.1 ∧
    pair.2 = entry.2.2) entries pairs

/-- Distinct keys in order, each of them a scalar. -/
def AllDifferent (pairs : List (OpackDecoded × OpackValue)) : Prop :=
  pairs.Pairwise fun first second => DifferentKeys first.1 second.1

/-- A key is new where it differs from all before it. -/
theorem EntriesOf.different {entries : OpackEntries} {pairs : List (OpackDecoded × OpackValue)}
    (hentries : EntriesOf entries pairs) {decoded : OpackDecoded} {key : OpackScalar}
    (hkey : decoded.value = .scalar key) :
    (∀ entry ∈ entries, sameKey entry.1 key entry.2.1 decoded.object = false) ↔
      ∀ pair ∈ pairs, DifferentKeys pair.1 decoded := by
  induction hentries with
  | nil => simp
  | @cons entry pair entries pairs hfirst _ ih =>
      obtain ⟨hvalue, hobject, _⟩ := hfirst
      simp only [List.forall_mem_cons, ih]
      apply and_congr_left'
      constructor
      · intro hsame first second hfirst hsecond
        rw [hvalue] at hfirst
        rw [hkey] at hsecond
        cases hfirst
        cases hsecond
        rw [hobject, hsame]
      · intro hdifferent
        rw [← hobject]
        exact hdifferent entry.1 key hvalue hkey

theorem EntriesOf.snoc {entries : OpackEntries} {pairs : List (OpackDecoded × OpackValue)}
    (hentries : EntriesOf entries pairs) {decoded : OpackDecoded} {key : OpackScalar}
    (hkey : decoded.value = .scalar key) (value : OpackValue) :
    EntriesOf (entries ++ [(key, decoded.object, value)]) (pairs ++ [(decoded, value)]) :=
  List.rel_append hentries (.cons ⟨hkey, rfl, rfl⟩ .nil)

theorem allDifferent_snoc {pairs : List (OpackDecoded × OpackValue)}
    {pair : OpackDecoded × OpackValue} :
    AllDifferent (pairs ++ [pair]) ↔
      AllDifferent pairs ∧ ∀ other ∈ pairs, DifferentKeys other.1 pair.1 := by
  rw [AllDifferent, List.pairwise_append]
  simp [AllDifferent]

/-- Keys that differ are all held, in the order they came. -/
theorem buildEntries_different {entries : OpackEntries}
    {pairs others : List (OpackDecoded × OpackValue)} (hentries : EntriesOf entries pairs)
    (hdifferent : AllDifferent (pairs ++ others))
    (hkeys : ∀ pair ∈ others, ∃ key, pair.1.value = .scalar key) :
    ∃ result, buildEntries entries others = some result ∧ EntriesOf result (pairs ++ others) := by
  induction others generalizing entries pairs with
  | nil => exact ⟨entries, rfl, by rwa [List.append_nil]⟩
  | cons pair others ih =>
      obtain ⟨key, hkey⟩ := hkeys pair List.mem_cons_self
      have happend : pairs ++ pair :: others = pairs ++ [pair] ++ others := by
        rw [List.append_assoc, List.singleton_append]
      rw [happend] at hdifferent
      have hsnoc := allDifferent_snoc.mp (List.pairwise_append.mp hdifferent).1
      have hsame := (hentries.different hkey).mpr hsnoc.2
      have hset : setEntry entries key pair.1.object pair.2 =
          entries ++ [(key, pair.1.object, pair.2)] := by
        clear hentries ih
        induction entries with
        | nil => rfl
        | cons entry rest ih =>
            have hfirst := hsame entry List.mem_cons_self
            rw [setEntry, hfirst, if_neg Bool.false_ne_true,
              ih fun entry hmem => hsame entry (List.mem_cons_of_mem _ hmem), List.cons_append]
      rw [happend]
      obtain ⟨result, hbuild, hresult⟩ := ih (hentries.snoc hkey pair.2) hdifferent
        (fun other hmem => hkeys other (List.mem_cons_of_mem _ hmem))
      exact ⟨result, by rw [buildEntries, hkey]; dsimp only; rw [hset, hbuild], hresult⟩

/-- Setting never adds more than one entry. -/
theorem buildEntries_length {entries result : OpackEntries}
    {pairs : List (OpackDecoded × OpackValue)} (hbuild : buildEntries entries pairs = some result) :
    result.length ≤ entries.length + pairs.length := by
  induction pairs generalizing entries with
  | nil =>
      cases hbuild
      exact Nat.le_refl _
  | cons pair pairs ih =>
      obtain ⟨decoded, value⟩ := pair
      rw [buildEntries] at hbuild
      cases hkey : decoded.value with
      | scalar key =>
          rw [hkey] at hbuild
          have hrest := ih hbuild
          have hset : (setEntry entries key decoded.object value).length ≤ entries.length + 1 := by
            obtain ⟨hset, _⟩ | hlength := setEntry_cases entries key decoded.object value
            · rw [hset, List.length_append, List.length_singleton]
            · omega
          rw [List.length_cons]
          omega
      | list items =>
          rw [hkey] at hbuild
          cases hbuild
      | dict entries =>
          rw [hkey] at hbuild
          cases hbuild

/-- When none was replaced, all the keys were different. -/
theorem buildEntries_full {entries result : OpackEntries}
    {pairs others : List (OpackDecoded × OpackValue)} (hentries : EntriesOf entries pairs)
    (hdifferent : AllDifferent pairs) (hbuild : buildEntries entries others = some result)
    (hlength : result.length = entries.length + others.length) :
    EntriesOf result (pairs ++ others) ∧ AllDifferent (pairs ++ others) ∧
      ∀ pair ∈ others, ∃ key, pair.1.value = .scalar key := by
  -- no key was replaced, so every key was new
  induction others generalizing entries pairs with
  | nil =>
      cases hbuild
      rw [List.append_nil]
      exact ⟨hentries, hdifferent, by simp⟩
  | cons pair others ih =>
      obtain ⟨decoded, value⟩ := pair
      rw [buildEntries] at hbuild
      cases hkey : decoded.value with
      | scalar key =>
          rw [hkey] at hbuild
          dsimp only at hbuild
          have hbound := buildEntries_length hbuild
          rw [List.length_cons] at hlength
          obtain ⟨hset, hsame⟩ | hreplaced := setEntry_cases entries key decoded.object value
          · rw [hset] at hbuild
            have happend : pairs ++ (decoded, value) :: others =
                pairs ++ [(decoded, value)] ++ others := by
              rw [List.append_assoc, List.singleton_append]
            have hnext := ih (hentries.snoc hkey value)
              (allDifferent_snoc.mpr ⟨hdifferent, (hentries.different hkey).mp hsame⟩) hbuild
              (by rw [List.length_append, List.length_singleton]; omega)
            rw [happend]
            refine ⟨hnext.1, hnext.2.1, ?_⟩
            intro pair hmem
            obtain rfl | hmem := List.mem_cons.mp hmem
            · exact ⟨key, hkey⟩
            · exact hnext.2.2 pair hmem
          · omega
      | list items =>
          rw [hkey] at hbuild
          cases hbuild
      | dict entries =>
          rw [hkey] at hbuild
          cases hbuild

theorem EntriesOf.pairs {entries : OpackEntries} {pairs : List (OpackDecoded × OpackValue)}
    (hentries : EntriesOf entries pairs) :
    entryPairs entries = pairs.map fun pair => (pair.1.value, pair.2) := by
  induction hentries with
  | nil => rfl
  | cons hfirst _ ih =>
      obtain ⟨hvalue, _, hrest⟩ := hfirst
      rw [entryPairs, List.map_cons, List.map_cons, hvalue, hrest, ← ih]
      rfl

theorem flattenEntries_pairUp : ∀ {decoded : List OpackDecoded}, decoded.length % 2 = 0 →
    flattenEntries ((pairUp decoded).map fun pair => (pair.1.value, pair.2)) =
      decoded.map OpackDecoded.value
  | [], _ => rfl
  | [_], heven => by
      rw [List.length_singleton] at heven
      omega
  | key :: value :: rest, heven => by
      rw [List.length_cons, List.length_cons] at heven
      rw [pairUp_cons, List.map_cons, flattenEntries_cons, flattenEntries_pairUp (by omega),
        List.map_cons, List.map_cons]

theorem pairUp_length : ∀ {decoded : List OpackDecoded}, decoded.length % 2 = 0 →
    2 * (pairUp decoded).length = decoded.length
  | [], _ => rfl
  | [_], heven => by
      rw [List.length_singleton] at heven
      omega
  | key :: value :: rest, heven => by
      rw [List.length_cons, List.length_cons] at heven
      have hrest := @pairUp_length rest (by omega)
      rw [pairUp_cons, List.length_cons, List.length_cons, List.length_cons]
      omega

/-! ## Contents -/

namespace OpackScalar

/-- A scalar carries its contents, whatever size it is written in. -/
theorem contents_of_carriedBy {first second : OpackScalar}
    (hcarried : first.carriedBy second = true) : first.contents = second.contents := by
  cases first with
  | int value size =>
      cases size <;> cases second <;> simp_all [carriedBy, contents]
  | _ => cases second <;> simp_all [carriedBy, contents]

theorem number?_contents (scalar : OpackScalar) : scalar.contents.number? = scalar.number? := by
  cases scalar <;> rfl

theorem pyEq_contents (first second : OpackScalar) :
    first.contents.pyEq second.contents = first.pyEq second := by
  rw [pyEq, pyEq, number?_contents, number?_contents]
  cases first <;> cases second <;> simp [number?, contents, isFloat]

/-- Two scalars with the same contents are equal, unless they are a NaN. -/
theorem pyEq_of_contents {first second : OpackScalar} (hself : second.pyEq second = true)
    (hcontents : first.contents = second.contents) : first.pyEq second = true := by
  rw [← pyEq_contents, hcontents, pyEq_contents, hself]

end OpackScalar

theorem scalar_of_carriedBy {scalar : OpackScalar} {value : OpackValue}
    (hcarried : (OpackValue.scalar scalar).CarriedBy value) :
    ∃ other, value = .scalar other ∧ scalar.carriedBy other = true := by
  cases value with
  | scalar other =>
      rw [OpackValue.CarriedBy] at hcarried
      exact ⟨other, rfl, hcarried⟩
  | list items =>
      rw [OpackValue.CarriedBy] at hcarried
      · exact hcarried.elim
      all_goals simp
  | dict entries =>
      rw [OpackValue.CarriedBy] at hcarried
      · exact hcarried.elim
      all_goals simp

theorem scalar_of_carries {value : OpackValue} {other : OpackScalar}
    (hcarried : value.CarriedBy (.scalar other)) :
    ∃ scalar, value = .scalar scalar ∧ scalar.carriedBy other = true := by
  cases value with
  | scalar scalar =>
      rw [OpackValue.CarriedBy] at hcarried
      exact ⟨scalar, rfl, hcarried⟩
  | list items =>
      rw [OpackValue.CarriedBy] at hcarried
      · exact hcarried.elim
      all_goals simp
  | dict entries =>
      rw [OpackValue.CarriedBy] at hcarried
      · exact hcarried.elim
      all_goals simp

/-! ## The decoder's table follows the encoder's -/

/-- The decoder holds nothing twice, and nothing the encoder has not numbered
except the empty texts. -/
structure Tracked (forms : List OpackForm) (objects : List OpackScalar) : Prop where
  nodup : objects.Nodup
  received : ∀ scalar ∈ objects, scalar.received = scalar
  numbered : ∀ scalar ∈ objects, scalar.isByte = true ∨ [OpackToken.scalar scalar] ∈ forms

theorem tracked_nil : Tracked [] [] :=
  ⟨List.nodup_nil, by simp, by simp⟩

theorem internForm_mem {form other : OpackForm} {forms : List OpackForm} (hmem : other ∈ forms) :
    other ∈ (internForm form forms).2 := by
  rw [internForm]
  split_ifs
  · exact hmem
  · exact hmem
  · exact hmem
  · exact List.mem_append_left [form] hmem

/-- Interning a form tracks no object it has not read. -/
theorem Tracked.intern {forms : List OpackForm} {objects : List OpackScalar}
    (htracked : Tracked forms objects) (form : OpackForm) :
    Tracked (internForm form forms).2 objects where
  nodup := htracked.nodup
  received := htracked.received
  numbered := fun scalar hmem => (htracked.numbered scalar hmem).imp_right internForm_mem

theorem OpackScalar.pyEq_of_byte {scalar : OpackScalar} (hbyte : scalar.isByte = true) :
    scalar.pyEq scalar = true := by
  cases scalar <;> simp_all [isByte, pyEq, number?, isFloat]

/-- A scalar that is aligned is tracked by its own form. -/
theorem tracked_scalar {scalar : OpackScalar} {forms : List OpackForm}
    {objects after : List OpackScalar} (htracked : Tracked forms objects)
    (halign : alignScalar scalar forms objects = some after) :
    Tracked ((OpackValue.scalar scalar).written forms).2 after := by
  rw [OpackValue.written]
  rw [alignScalar] at halign
  by_cases hmem : [OpackToken.scalar scalar.received] ∈ forms
  · rw [if_pos hmem] at halign
    dsimp only at halign
    split at halign
    · split at halign
      · cases halign
        exact htracked.intern _
      · cases halign
    · cases halign
  · rw [if_neg hmem] at halign
    split at halign
    · cases halign
      rw [keepObject]
      split
      next hkept =>
        simp only [Bool.and_eq_true, Bool.not_eq_true', List.any_eq_false] at hkept
        -- the reader keeps an object only when no equal one is kept already
        have hnot : scalar.received ∉ objects := by
          intro hheld
          obtain hbyte | hnumbered := htracked.numbered _ hheld
          · exact hkept.2 _ hheld (OpackScalar.pyEq_of_byte hbyte)
          · exact hmem hnumbered
        constructor
        · rw [List.nodup_append]
          refine ⟨htracked.nodup, List.nodup_singleton _, ?_⟩
          intro other hother last hlast
          rw [List.mem_singleton.mp hlast]
          rintro rfl
          exact hnot hother
        · intro other hother
          obtain hother | hother := List.mem_append.mp hother
          · exact htracked.received other hother
          · rw [List.mem_singleton.mp hother, OpackScalar.received_received]
        · intro other hother
          obtain hother | hother := List.mem_append.mp hother
          · exact (htracked.intern _).numbered other hother
          · rw [List.mem_singleton.mp hother, internForm, if_neg hmem]
            split
            next hbyte => exact .inl hbyte
            next => exact .inr (List.mem_append_right _ List.mem_cons_self)
      next => exact htracked.intern _
    · cases halign

mutual

/-- What is aligned is tracked, by induction on the value. -/
theorem tracked_of_align : ∀ {value : OpackValue} {forms : List OpackForm}
    {objects after : List OpackScalar}, Tracked forms objects →
    value.align forms objects = some after → Tracked (value.written forms).2 after
  | .scalar _, _, _, _, htracked, halign => by
      rw [OpackValue.align] at halign
      exact tracked_scalar htracked halign
  | .list items, forms, objects, after, htracked, halign => by
      rw [OpackValue.align] at halign
      rw [OpackValue.written]
      split at halign
      · cases halign
      · exact (trackedItems_of_align htracked halign).intern _
  | .dict entries, forms, objects, after, htracked, halign => by
      rw [OpackValue.align] at halign
      rw [OpackValue.written]
      split at halign
      · cases halign
      · exact (trackedEntries_of_align htracked halign).intern _

theorem trackedItems_of_align : ∀ {items : List OpackValue} {forms : List OpackForm}
    {objects after : List OpackScalar}, Tracked forms objects →
    alignItems items forms objects = some after → Tracked (writtenItems items forms).2 after
  | [], _, _, _, htracked, halign => by
      cases halign
      exact htracked
  | first :: rest, _, _, _, htracked, halign => by
      rw [alignItems, Option.bind_eq_some_iff] at halign
      obtain ⟨_, hfirst, hrest⟩ := halign
      rw [writtenItems]
      exact trackedItems_of_align (tracked_of_align htracked hfirst) hrest

theorem trackedEntries_of_align : ∀ {entries : List (OpackValue × OpackValue)}
    {forms : List OpackForm} {objects after : List OpackScalar}, Tracked forms objects →
    alignEntries entries forms objects = some after →
      Tracked (writtenEntries entries forms).2 after
  | [], _, _, _, htracked, halign => by
      cases halign
      exact htracked
  | (key, value) :: rest, _, _, _, htracked, halign => by
      rw [alignEntries, Option.bind_eq_some_iff] at halign
      obtain ⟨_, hkey, halign⟩ := halign
      rw [Option.bind_eq_some_iff] at halign
      obtain ⟨_, hvalue, hrest⟩ := halign
      rw [writtenEntries]
      exact trackedEntries_of_align
        (tracked_of_align (tracked_of_align htracked hkey) hvalue) hrest

end

/-! ## Keys kept apart -/

/-- A property goes over from one list to a related one. -/
theorem forall_of_forall₂ {First Second : Type} {relation : First → Second → Prop}
    {firsts : List First} {seconds : List Second} (hrelated : List.Forall₂ relation firsts seconds)
    {property : First → Prop} {other : Second → Prop}
    (hstep : ∀ first second, relation first second → other second → property first)
    (hother : ∀ second ∈ seconds, other second) : ∀ first ∈ firsts, property first := by
  induction hrelated with
  | nil => simp
  | cons hfirst _ ih =>
      rw [List.forall_mem_cons] at hother ⊢
      exact ⟨hstep _ _ hfirst hother.1, ih hother.2⟩

theorem pairwise_of_forall₂ {First Second : Type} {relation : First → Second → Prop}
    {firsts : List First} {seconds : List Second} (hrelated : List.Forall₂ relation firsts seconds)
    {apart : First → First → Prop} {different : Second → Second → Prop}
    (hstep : ∀ first second first' second', relation first second → relation first' second' →
      different second second' → apart first first')
    (hdifferent : seconds.Pairwise different) : firsts.Pairwise apart := by
  induction hrelated with
  | nil => exact List.Pairwise.nil
  | cons hfirst hrest ih =>
      rw [List.pairwise_cons] at hdifferent ⊢
      refine ⟨?_, ih hdifferent.2⟩
      exact forall_of_forall₂ hrest
        (fun first second hrelated hapart => hstep _ _ _ _ hfirst hrelated hapart) hdifferent.1

/-- A key and the decoded value it came back as. -/
structure KeyReadAs (objects : List OpackScalar) (entry : OpackValue × OpackValue)
    (pair : OpackDecoded × OpackValue) : Prop where
  carried : entry.1.CarriedBy pair.1.value
  known : pair.1.KnownIn objects

/-- Keys that differ are read as keys that differ. -/
theorem keysReadAs {objects : List OpackScalar} : ∀ {entries : List (OpackValue × OpackValue)}
    {decoded : List OpackDecoded},
    ItemsCarriedBy (flattenEntries entries) (decoded.map OpackDecoded.value) →
    (∀ value ∈ decoded, value.KnownIn objects) →
      List.Forall₂ (KeyReadAs objects) entries (pairUp decoded)
  | [], [], _, _ => .nil
  | [], _ :: _, hcarried, _ => hcarried.elim
  | (_, _) :: _, [], hcarried, _ => hcarried.elim
  | (_, _) :: _, [_], hcarried, _ => hcarried.2.elim
  | (_, _) :: _, _ :: _ :: _, hcarried, hknown => by
      rw [List.forall_mem_cons, List.forall_mem_cons] at hknown
      exact .cons ⟨hcarried.1, hknown.1⟩ (keysReadAs hcarried.2.2 hknown.2.2)

/-- Keys apart come back as different keys. -/
theorem differentKeys_of_apart {objects : List OpackScalar}
    {first second : OpackValue × OpackValue} {pair other : OpackDecoded × OpackValue}
    (hfirst : KeyReadAs objects first pair) (hsecond : KeyReadAs objects second other)
    (hapart : ApartKeys first.1 second.1) : DifferentKeys pair.1 other.1 := by
  intro key otherKey hkey hotherKey
  have hcarried := hfirst.carried
  have hotherCarried := hsecond.carried
  rw [hkey] at hcarried
  rw [hotherKey] at hotherCarried
  obtain ⟨scalar, hscalar, hkeyCarried⟩ := scalar_of_carries hcarried
  obtain ⟨otherScalar, hotherScalar, hotherKeyCarried⟩ := scalar_of_carries hotherCarried
  rw [hscalar, hotherScalar, ApartKeys] at hapart
  have hcontents := OpackScalar.contents_of_carriedBy hkeyCarried
  have hotherContents := OpackScalar.contents_of_carriedBy hotherKeyCarried
  have hequal : key.pyEq otherKey = false := by
    rw [← OpackScalar.pyEq_contents, ← hcontents, ← hotherContents, OpackScalar.pyEq_contents,
      hapart.1]
  rw [sameKey, hequal, Bool.false_or]
  cases hobject : pair.1.object with
  | none => rfl
  | some index =>
      apply decide_eq_false
      intro hsame
      -- one object holds one scalar, so the two keys have the same contents
      obtain ⟨found, hfound, hindex⟩ := hfirst.known.found index hobject
      obtain ⟨otherFound, hotherFound, hotherIndex⟩ := hsecond.known.found index hsame.symm
      rw [hkey, OpackValue.scalar.injEq] at hfound
      rw [hotherKey, OpackValue.scalar.injEq] at hotherFound
      rw [← hfound] at hindex
      rw [← hotherFound, hindex, Option.some.injEq] at hotherIndex
      apply hapart.2
      rw [hcontents, hotherContents, hotherIndex]

/-- Different keys were apart: what is equal to itself differs by equality, and a
NaN is held once. -/
theorem apart_of_differentKeys {objects : List OpackScalar} (hnodup : objects.Nodup)
    {first second : OpackValue × OpackValue} {pair other : OpackDecoded × OpackValue}
    {key otherKey : OpackScalar} (hfirst : KeyReadAs objects first pair)
    (hsecond : KeyReadAs objects second other) (hkey : pair.1.value = .scalar key)
    (hotherKey : other.1.value = .scalar otherKey) (hdifferent : DifferentKeys pair.1 other.1) :
    ApartKeys first.1 second.1 := by
  have hcarried := hfirst.carried
  have hotherCarried := hsecond.carried
  rw [hkey] at hcarried
  rw [hotherKey] at hotherCarried
  obtain ⟨scalar, hscalar, hkeyCarried⟩ := scalar_of_carries hcarried
  obtain ⟨otherScalar, hotherScalar, hotherKeyCarried⟩ := scalar_of_carries hotherCarried
  have hcontents := OpackScalar.contents_of_carriedBy hkeyCarried
  have hotherContents := OpackScalar.contents_of_carriedBy hotherKeyCarried
  have hsame := hdifferent key otherKey hkey hotherKey
  rw [sameKey, Bool.or_eq_false_iff] at hsame
  rw [hscalar, hotherScalar, ApartKeys]
  constructor
  · rw [← OpackScalar.pyEq_contents, hcontents, hotherContents, OpackScalar.pyEq_contents, hsame.1]
  · intro hequal
    have hkeys : key.contents = otherKey.contents := by rw [← hcontents, hequal, hotherContents]
    -- equal contents that are not equal can only be a NaN
    have hnan : otherKey.pyEq otherKey = false := by
      cases hself : otherKey.pyEq otherKey with
      | false => rfl
      | true =>
          rw [OpackScalar.pyEq_of_contents hself hkeys] at hsame
          exact hsame.1
    have hkeyNan : key.pyEq key = false := by
      rw [← OpackScalar.pyEq_contents, hkeys, OpackScalar.pyEq_contents, hnan]
    have hidentical : key = otherKey := by
      cases key <;> cases otherKey <;>
        simp_all [OpackScalar.contents, OpackScalar.pyEq, OpackScalar.number?]
    cases hobject : pair.1.object with
    | none =>
        have hself := hfirst.known.loose hobject key hkey
        rw [hkeyNan] at hself
        cases hself
    | some index =>
        cases hotherObject : other.1.object with
        | none =>
            have hself := hsecond.known.loose hotherObject otherKey hotherKey
            rw [hnan] at hself
            cases hself
        | some otherIndex =>
            obtain ⟨found, hfound, hindex⟩ := hfirst.known.found index hobject
            obtain ⟨otherFound, hotherFound, hotherIndex⟩ :=
              hsecond.known.found otherIndex hotherObject
            rw [hkey, OpackValue.scalar.injEq] at hfound
            rw [hotherKey, OpackValue.scalar.injEq] at hotherFound
            rw [← hfound] at hindex
            rw [← hotherFound, ← hidentical] at hotherIndex
            have hplace : index = otherIndex := by
              have hbound := (List.getElem?_eq_some_iff.mp hindex).1
              exact (List.getElem?_inj hbound hnodup).mp (hindex.trans hotherIndex.symm)
            rw [hobject, hotherObject, hplace] at hsame
            simp at hsame

/-! ## What is decoded is aligned -/

/-- What reading a value back tells of it. -/
structure ReadBack (depth : Nat) (value : OpackValue) (forms : List OpackForm)
    (objects after : List OpackScalar) : Prop where
  height : value.height ≤ depth
  aligned : value.align forms objects = some after
  keyed : Tracked forms objects → value.WellKeyed

structure ItemsReadBack (depth : Nat) (items : List OpackValue) (forms : List OpackForm)
    (objects after : List OpackScalar) : Prop where
  height : itemsHeight items ≤ depth
  aligned : alignItems items forms objects = some after
  keyed : Tracked forms objects → ItemsWellKeyed items

/-- Items that were written are read back, by induction on the list. -/
theorem readBack_items {depth : Nat} {items : List OpackValue} {forms : List OpackForm}
    {decoded : List OpackDecoded} {tail : Bytes} {objects after : List OpackScalar}
    (hitem : ∀ item ∈ items, ∀ forms rest objects decoded, ValidForms forms →
      (item.written forms).2.length ≤ 2 ^ 24 →
      unpackWith depth (formBytes (item.written forms).1 ++ rest) objects = some decoded →
      decoded.remaining = rest → item.CarriedBy decoded.value →
        ReadBack depth item forms objects decoded.objects)
    (hfits : EachItem OpackScalar.Fits items) (hforms : ValidForms forms)
    (hsmall : (writtenItems items forms).2.length ≤ 2 ^ 24)
    (hdecodes : DecodesAll (unpackWith depth) decoded
      (formBytes (writtenItems items forms).1 ++ tail) objects tail after)
    (hcarried : ItemsCarriedBy items (decoded.map OpackDecoded.value)) :
    ItemsReadBack depth items forms objects after := by
  induction items generalizing forms decoded objects with
  | nil =>
      cases decoded with
      | nil =>
          refine ⟨Nat.zero_le depth, ?_, fun _ => trivial⟩
          rw [alignItems, hdecodes.2]
      | cons first rest => exact hcarried.elim
  | cons item items ih =>
      cases decoded with
      | nil => exact hcarried.elim
      | cons first rest =>
          obtain ⟨hfirstFits, hrestFits⟩ := hfits
          obtain ⟨hfirstCarried, hrestCarried⟩ := hcarried
          have hvalid := (written_valid hfirstFits hforms).2
          have hlength := writtenItems_length items (item.written forms).2
          rw [writtenItems] at hsmall hdecodes
          dsimp only at hsmall hdecodes
          rw [formBytes_append, List.append_assoc] at hdecodes
          obtain ⟨hfirst, hrest⟩ := hdecodes
          have hremaining : first.remaining =
              formBytes (writtenItems items (item.written forms).2).1 ++ tail := by
            obtain hremaining | hremaining :=
              unpackWith_leaves hfirstFits hforms (by omega) hfirst
            · exact hremaining
            rw [hremaining] at hrest
            cases rest with
            | nil =>
                -- the zero would be left at the end, where nothing is
                have hitems := itemsCarriedBy_length hrestCarried
                rw [List.length_eq_zero_iff.mp hitems] at hrest
                exact absurd (congrArg List.length hrest.1) (by simp [writtenItems, formBytes])
            | cons second others =>
                obtain ⟨tag, body, hdata, htag, _⟩ := (unpackWith_decodes depth).reads hrest.1
                exact absurd (List.cons.inj hdata).1.symm htag
          rw [hremaining] at hrest
          have hnow := hitem item List.mem_cons_self forms _ _ _ hforms (by omega) hfirst
            hremaining hfirstCarried
          have hnext := ih (fun item hmem => hitem item (List.mem_cons_of_mem _ hmem)) hrestFits
            hvalid hsmall hrest hrestCarried
          constructor
          · rw [itemsHeight]
            exact Nat.max_le.mpr ⟨hnow.height, hnext.height⟩
          · rw [alignItems, hnow.aligned, Option.bind_some, hnext.aligned]
          · intro htracked
            exact ⟨hnow.keyed htracked, hnext.keyed (tracked_of_align htracked hnow.aligned)⟩

/-- A reference that leaves nothing of itself is narrow. -/
theorem referenced_of_remaining {depth index : Nat} (hindex : index < 2 ^ 24) {rest : Bytes}
    {objects : List OpackScalar} {decoded : OpackDecoded}
    (hdecoded :
      unpackWith (depth + 1) (formBytes [.reference index] ++ rest) objects = some decoded)
    (hremaining : decoded.remaining = rest) :
    index ≤ 0xFFFF ∧ ∃ scalar, objects[index]? = some scalar ∧
      decoded.value = .scalar scalar ∧ decoded.objects = objects := by
  by_cases hnarrow : index ≤ 0xFFFF
  · rw [unpackWith_reference depth hnarrow] at hdecoded
    obtain ⟨scalar, hscalar, rfl⟩ := Option.map_eq_some_iff.mp hdecoded
    exact ⟨hnarrow, scalar, hscalar, rfl, rfl⟩
  · have hwide := unpackWith_wideReference (by omega) hindex hdecoded
    rw [hremaining] at hwide
    exact absurd (congrArg List.length hwide) (by simp)

/-- A fresh scalar is kept if it is longer than a byte. -/
theorem OpackDecoded.fresh_objects (scalar : OpackScalar) (remaining : Bytes)
    (objects : List OpackScalar) :
    (fresh scalar remaining objects).objects = keepObject scalar objects := by
  rw [fresh, keepObject]
  cases hkept : scalar.isKept with
  | false => rfl
  | true =>
      rw [if_pos rfl, kept]
      cases objects.any fun other => other.pyEq scalar <;> rfl

theorem entriesCarriedBy_length {first second : List (OpackValue × OpackValue)}
    (hcarried : EntriesCarriedBy first second) : first.length = second.length := by
  have hlength := itemsCarriedBy_length ((entriesCarriedBy_iff first second).mp hcarried)
  rw [flattenEntries_length, flattenEntries_length] at hlength
  omega

/-- A dictionary that comes back with all its entries had different keys. -/
theorem buildEntries_carried {entries : List (OpackValue × OpackValue)}
    {decoded : List OpackDecoded} {built : OpackEntries}
    (hlength : decoded.length = (flattenEntries entries).length)
    (hbuild : buildEntries [] (pairUp decoded) = some built)
    (hcarried : EntriesCarriedBy entries (entryPairs built)) :
    ItemsCarriedBy (flattenEntries entries) (decoded.map OpackDecoded.value) ∧
      AllDifferent (pairUp decoded) ∧
        ∀ pair ∈ pairUp decoded, ∃ key, pair.1.value = .scalar key := by
  rw [flattenEntries_length] at hlength
  have heven : decoded.length % 2 = 0 := by omega
  have hpairs := pairUp_length heven
  have hbuilt : built.length = entries.length := by
    rw [entriesCarriedBy_length hcarried, entryPairs, List.length_map]
  obtain ⟨hentries, hdifferent, hkeys⟩ := @buildEntries_full [] built [] (pairUp decoded) .nil
    List.Pairwise.nil hbuild (by rw [List.length_nil]; omega)
  rw [List.nil_append] at hentries hdifferent
  rw [entriesCarriedBy_iff, hentries.pairs, flattenEntries_pairUp heven] at hcarried
  exact ⟨hcarried, hdifferent, hkeys⟩

/-- The keys of a dictionary that comes back are apart. -/
theorem keysApart_of_different {entries : List (OpackValue × OpackValue)}
    {decoded : List OpackDecoded} {objects : List OpackScalar}
    (hcarried : ItemsCarriedBy (flattenEntries entries) (decoded.map OpackDecoded.value))
    (hdifferent : AllDifferent (pairUp decoded))
    (hkeys : ∀ pair ∈ pairUp decoded, ∃ key, pair.1.value = .scalar key)
    (hknown : ∀ value ∈ decoded, value.KnownIn objects) (hnodup : objects.Nodup) :
    KeysApart entries := by
  have hread := keysReadAs hcarried hknown
  constructor
  · refine forall_of_forall₂ hread ?_ hkeys
    rintro entry pair hentry ⟨key, hkey⟩
    have hcarried := hentry.carried
    rw [hkey] at hcarried
    obtain ⟨scalar, hscalar, _⟩ := scalar_of_carries hcarried
    exact ⟨scalar, hscalar⟩
  · have hscalars : (pairUp decoded).Pairwise fun first second =>
        DifferentKeys first.1 second.1 ∧ (∃ key, first.1.value = .scalar key) ∧
          ∃ key, second.1.value = .scalar key := by
      refine hdifferent.imp_of_mem ?_
      intro first second hfirst hsecond hdifferent
      exact ⟨hdifferent, hkeys first hfirst, hkeys second hsecond⟩
    refine pairwise_of_forall₂ hread ?_ hscalars
    rintro first pair second other hfirst hsecond ⟨hdifferent, ⟨key, hkey⟩, otherKey, hotherKey⟩
    exact apart_of_differentKeys hnodup hfirst hsecond hkey hotherKey hdifferent

/-- A value whose written form is read back whole is aligned. -/
theorem readBack_of_unpackWith {depth : Nat} {value : OpackValue} {forms : List OpackForm}
    {rest : Bytes} {objects : List OpackScalar} {decoded : OpackDecoded} (hfits : value.Fits)
    (hforms : ValidForms forms) (hsmall : (value.written forms).2.length ≤ 2 ^ 24)
    (hdecoded :
      unpackWith depth (formBytes (value.written forms).1 ++ rest) objects = some decoded)
    (hremaining : decoded.remaining = rest) (hcarried : value.CarriedBy decoded.value) :
    ReadBack depth value forms objects decoded.objects := by
  induction depth generalizing value forms rest objects decoded with
  | zero => cases hdecoded
  | succ depth ih =>
      cases value with
      | scalar scalar =>
          rw [OpackValue.written] at hsmall hdecoded
          refine ⟨by rw [OpackValue.height]; omega, ?_, fun _ => by rw [OpackValue.WellKeyed]; trivial⟩
          rw [OpackValue.align, alignScalar]
          obtain ⟨other, hother, hscalar⟩ := scalar_of_carriedBy hcarried
          obtain ⟨hmem, hindex, hform⟩ | ⟨hmem, hform⟩ := internForm_cases hsmall
          · rw [hform] at hdecoded
            obtain ⟨hnarrow, found, hfound, hvalue, hobjects⟩ :=
              referenced_of_remaining hindex hdecoded hremaining
            rw [hother, OpackValue.scalar.injEq] at hvalue
            rw [hvalue] at hscalar
            simp only [if_pos hmem, hfound, hnarrow, hscalar, true_and, if_true, hobjects]
          · rw [hform, unpackWith_scalar depth hfits, Option.some.injEq] at hdecoded
            rw [← hdecoded, OpackDecoded.fresh_value, OpackValue.scalar.injEq] at hother
            rw [← hother] at hscalar
            rw [if_neg hmem, if_pos hscalar, ← hdecoded, OpackDecoded.fresh_objects]
      | list items =>
          rw [OpackValue.written] at hsmall hdecoded
          rw [OpackValue.Fits, OpackValue.Each] at hfits
          have hlength := internForm_length
            (containerForm .list items.length (writtenItems items forms).1)
            (writtenItems items forms).2
          obtain ⟨_, hindex, hform⟩ | ⟨hmem, hform⟩ := internForm_cases hsmall
          · rw [hform] at hdecoded
            -- references name scalars, so a repeated container is not read back
            obtain ⟨_, found, _, hvalue, _⟩ := referenced_of_remaining hindex hdecoded hremaining
            rw [hvalue, OpackValue.CarriedBy] at hcarried
            · exact hcarried.elim
            all_goals simp
          · rw [hform, unpackWith_listForm, hremaining] at hdecoded
            obtain ⟨decodedItems, hcount, hdecodes, hresult⟩ := hdecoded
            rw [hresult, OpackDecoded.loose, OpackValue.CarriedBy] at hcarried
            have hitems := readBack_items
              (fun item hmem forms rest objects decoded hforms hsmall =>
                ih (eachItem_iff.mp hfits item hmem) hforms hsmall)
              hfits hforms (by omega) hdecodes hcarried
            have hheight := hitems.height
            constructor
            · rw [OpackValue.height]
              omega
            · rw [OpackValue.align, if_neg hmem, hitems.aligned]
            · intro htracked
              rw [OpackValue.WellKeyed]
              exact hitems.keyed htracked
      | dict entries =>
          rw [OpackValue.written, writtenEntries_eq] at hsmall hdecoded
          rw [OpackValue.Fits, OpackValue.Each, eachEntry_iff] at hfits
          have hlength := internForm_length
            (containerForm .dict entries.length (writtenItems (flattenEntries entries) forms).1)
            (writtenItems (flattenEntries entries) forms).2
          obtain ⟨_, hindex, hform⟩ | ⟨hmem, hform⟩ := internForm_cases hsmall
          · rw [hform] at hdecoded
            obtain ⟨_, found, _, hvalue, _⟩ := referenced_of_remaining hindex hdecoded hremaining
            rw [hvalue, OpackValue.CarriedBy] at hcarried
            · exact hcarried.elim
            all_goals simp
          · rw [hform, unpackWith_dictForm, hremaining] at hdecoded
            obtain ⟨decodedItems, built, hcount, hdecodes, hbuild, hresult⟩ := hdecoded
            rw [hresult, OpackDecoded.loose, OpackValue.CarriedBy] at hcarried
            have hflat := flattenEntries_length entries
            have hitemLength := (leaves_container
              (fun item hmem forms rest objects decoded hforms hsmall =>
                unpackWith_leaves (eachItem_iff.mp hfits item hmem) hforms hsmall)
              hfits hforms (by omega) (by omega) hdecodes).1
            obtain ⟨hitemsCarried, hdifferent, hkeys⟩ :=
              buildEntries_carried hitemLength hbuild hcarried
            have hitems := readBack_items
              (fun item hmem forms rest objects decoded hforms hsmall =>
                ih (eachItem_iff.mp hfits item hmem) hforms hsmall)
              hfits hforms (by omega) hdecodes hitemsCarried
            have hheight := hitems.height
            constructor
            · rw [OpackValue.height, entriesHeight_eq]
              omega
            · rw [OpackValue.align, writtenEntries_eq, alignEntries_eq, if_neg hmem,
                hitems.aligned]
            · intro htracked
              have hafter := (trackedItems_of_align htracked hitems.aligned).nodup
              have hknown := (hdecodes.grows (unpackWith_decodes depth)).2
              rw [OpackValue.WellKeyed, entriesWellKeyed_iff]
              exact ⟨keysApart_of_different hitemsCarried hdifferent hkeys hknown hafter,
                hitems.keyed htracked⟩

end CompanionBridge
