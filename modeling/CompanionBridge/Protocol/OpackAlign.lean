import CompanionBridge.Protocol.OpackDecoding

/-!
# Alignment of the two numberings

The encoder numbers written forms, containers among them; the decoder numbers
the scalars it keeps. A value is aligned when each form that repeats is a scalar
with one number in both, and the number has at most sixteen bits.
-/

namespace CompanionBridge

/-- The decoder's table after a fresh scalar. -/
def keepObject (scalar : OpackScalar) (objects : List OpackScalar) : List OpackScalar :=
  if scalar.isKept && !objects.any fun other => other.pyEq scalar then objects ++ [scalar]
  else objects

/-- The decoder's table after an aligned scalar. -/
def alignScalar (scalar : OpackScalar) (forms : List OpackForm) (objects : List OpackScalar) :
    Option (List OpackScalar) :=
  let form : OpackForm := [.scalar scalar.received]
  if form ∈ forms then
    let number := forms.idxOf form
    match objects[number]? with
    | some other => if number ≤ 0xFFFF ∧ scalar.carriedBy other then some objects else none
    | none => none
  else if scalar.carriedBy scalar.received then some (keepObject scalar.received objects)
  else none

mutual

/-- The decoder's table after an aligned value. -/
def OpackValue.align : OpackValue → List OpackForm → List OpackScalar → Option (List OpackScalar)
  | .scalar scalar, forms, objects => alignScalar scalar forms objects
  | .list items, forms, objects =>
      if containerForm .list items.length (writtenItems items forms).1 ∈
          (writtenItems items forms).2 then none
      else alignItems items forms objects
  | .dict entries, forms, objects =>
      if containerForm .dict entries.length (writtenEntries entries forms).1 ∈
          (writtenEntries entries forms).2 then none
      else alignEntries entries forms objects

def alignItems : List OpackValue → List OpackForm → List OpackScalar → Option (List OpackScalar)
  | [], _, objects => some objects
  | first :: rest, forms, objects =>
      (first.align forms objects).bind fun objects =>
        alignItems rest (first.written forms).2 objects

def alignEntries : List (OpackValue × OpackValue) → List OpackForm → List OpackScalar →
    Option (List OpackScalar)
  | [], _, objects => some objects
  | (key, value) :: rest, forms, objects =>
      (key.align forms objects).bind fun objects =>
        (value.align (key.written forms).2 objects).bind fun objects =>
          alignEntries rest (value.written (key.written forms).2).2 objects

end

/-- The repeated forms of a value have one number in both tables. -/
def OpackValue.Aligned (value : OpackValue) : Prop :=
  (value.align [] []).isSome

/-- What a number keeps apart from its width. -/
def OpackScalar.contents : OpackScalar → OpackScalar
  | int value _ => int value none
  | other => other

mutual

/-- The second value is the first, with the widths its integers were read at. -/
def OpackValue.CarriedBy : OpackValue → OpackValue → Prop
  | .scalar first, .scalar second => first.carriedBy second
  | .list first, .list second => ItemsCarriedBy first second
  | .dict first, .dict second => EntriesCarriedBy first second
  | _, _ => False

def ItemsCarriedBy : List OpackValue → List OpackValue → Prop
  | [], [] => True
  | first :: rest, second :: others => first.CarriedBy second ∧ ItemsCarriedBy rest others
  | _, _ => False

def EntriesCarriedBy : List (OpackValue × OpackValue) → List (OpackValue × OpackValue) → Prop
  | [], [] => True
  | (key, value) :: rest, (other, second) :: others =>
      (key.CarriedBy other ∧ value.CarriedBy second) ∧ EntriesCarriedBy rest others
  | _, _ => False

end

/-- Keys a dictionary holds side by side, told apart by their contents. -/
def ApartKeys (first second : OpackValue) : Prop :=
  match first, second with
  | .scalar key, .scalar other => key.pyEq other = false ∧ key.contents ≠ other.contents
  | _, _ => False

/-- The keys of a dictionary are scalars, pairwise apart. -/
def KeysApart (entries : List (OpackValue × OpackValue)) : Prop :=
  (∀ entry ∈ entries, ∃ key, entry.1 = .scalar key) ∧
    entries.Pairwise fun first second => ApartKeys first.1 second.1

mutual

/-- Every dictionary in a value has scalar keys, pairwise apart. -/
def OpackValue.WellKeyed : OpackValue → Prop
  | .scalar _ => True
  | .list items => ItemsWellKeyed items
  | .dict entries => KeysApart entries ∧ EntriesWellKeyed entries

def ItemsWellKeyed : List OpackValue → Prop
  | [] => True
  | first :: rest => first.WellKeyed ∧ ItemsWellKeyed rest

def EntriesWellKeyed : List (OpackValue × OpackValue) → Prop
  | [] => True
  | (key, value) :: rest => (key.WellKeyed ∧ value.WellKeyed) ∧ EntriesWellKeyed rest

end

/-! ## Dictionaries as their flattened items -/

/-- The entries of a dictionary are written as the list of their keys and values. -/
theorem alignEntries_eq (entries : List (OpackValue × OpackValue)) (forms : List OpackForm)
    (objects : List OpackScalar) :
    alignEntries entries forms objects = alignItems (flattenEntries entries) forms objects := by
  induction entries generalizing forms objects with
  | nil => rfl
  | cons entry rest ih =>
      obtain ⟨key, value⟩ := entry
      simp only [alignEntries, flattenEntries_cons, alignItems, ih]

/-- The conditions on entries are conditions on that list. -/
theorem entriesWellKeyed_iff (entries : List (OpackValue × OpackValue)) :
    EntriesWellKeyed entries ↔ ItemsWellKeyed (flattenEntries entries) := by
  induction entries with
  | nil => exact Iff.rfl
  | cons entry rest ih =>
      obtain ⟨key, value⟩ := entry
      simp only [EntriesWellKeyed, flattenEntries_cons, ItemsWellKeyed, ih, and_assoc]

theorem entriesCarriedBy_iff (first second : List (OpackValue × OpackValue)) :
    EntriesCarriedBy first second ↔
      ItemsCarriedBy (flattenEntries first) (flattenEntries second) := by
  induction first generalizing second with
  | nil =>
      cases second with
      | nil => exact Iff.rfl
      | cons entry rest => exact Iff.rfl
  | cons entry rest ih =>
      cases second with
      | nil => exact Iff.rfl
      | cons other others =>
          obtain ⟨key, value⟩ := entry
          obtain ⟨otherKey, otherValue⟩ := other
          simp only [EntriesCarriedBy, flattenEntries_cons, ItemsCarriedBy, ih, and_assoc]

theorem flattenEntries_length (entries : List (OpackValue × OpackValue)) :
    (flattenEntries entries).length = 2 * entries.length := by
  induction entries with
  | nil => rfl
  | cons entry rest ih =>
      rw [flattenEntries_cons, List.length_cons, List.length_cons, ih, List.length_cons]
      omega

/-- What is carried has as many items as what it is carried by. -/
theorem itemsCarriedBy_length {first second : List OpackValue}
    (hcarried : ItemsCarriedBy first second) : first.length = second.length := by
  induction first generalizing second with
  | nil =>
      cases second with
      | nil => rfl
      | cons item rest => exact hcarried.elim
  | cons item rest ih =>
      cases second with
      | nil => exact hcarried.elim
      | cons other others => rw [List.length_cons, List.length_cons, ih hcarried.2]

/-! ## What a written form starts with -/

/-- An interned form begins with a token that ends nothing. -/
theorem internForm_head {form : OpackForm} {forms : List OpackForm} {token : OpackToken}
    {rest : OpackForm} (hform : form = token :: rest) (htoken : token ≠ .close) :
    ∃ token rest, (internForm form forms).1 = token :: rest ∧ token ≠ .close := by
  rw [internForm]
  split_ifs
  · exact ⟨_, _, rfl, by simp⟩
  · exact ⟨token, rest, hform, htoken⟩
  · exact ⟨token, rest, hform, htoken⟩
  · exact ⟨token, rest, hform, htoken⟩

/-- And so does any value that is written. -/
theorem written_head (value : OpackValue) (forms : List OpackForm) :
    ∃ token rest, (value.written forms).1 = token :: rest ∧ token ≠ .close := by
  cases value with
  | scalar scalar =>
      rw [OpackValue.written]
      exact internForm_head rfl (by simp)
  | list items =>
      rw [OpackValue.written]
      exact internForm_head rfl (by simp)
  | dict entries =>
      rw [OpackValue.written]
      exact internForm_head rfl (by simp)

/-- So no value is taken for the end of its container. -/
theorem written_not_end {value : OpackValue} {forms : List OpackForm} (hfits : value.Fits)
    (hforms : ValidForms forms) (rest remaining : Bytes) :
    formBytes (value.written forms).1 ++ rest ≠ 3 :: remaining := by
  intro heq
  obtain ⟨token, others, hform, htoken⟩ := written_head value forms
  have hvalid := (written_valid hfits hforms).1
  rw [hform] at hvalid heq
  have hread := OpackToken.read_bytes (hvalid token List.mem_cons_self) (formBytes others ++ rest)
  rw [← List.append_assoc, ← formBytes_cons, heq] at hread
  simp only [OpackToken.read, if_true, Option.some.injEq, Prod.mk.injEq] at hread
  exact htoken hread.1.symm

theorem internForm_length (form : OpackForm) (forms : List OpackForm) :
    forms.length ≤ (internForm form forms).2.length := by
  rw [internForm]
  split_ifs <;> simp

mutual

/-- Forms are only added. -/
theorem written_length : ∀ (value : OpackValue) (forms : List OpackForm),
    forms.length ≤ (value.written forms).2.length
  | .scalar scalar, forms => by
      rw [OpackValue.written]
      exact internForm_length _ _
  | .list items, forms => by
      have hitems := writtenItems_length items forms
      have hlength := internForm_length
        (containerForm .list items.length (writtenItems items forms).1)
        (writtenItems items forms).2
      rw [OpackValue.written]
      omega
  | .dict entries, forms => by
      have hentries := writtenEntries_length entries forms
      have hlength := internForm_length
        (containerForm .dict entries.length (writtenEntries entries forms).1)
        (writtenEntries entries forms).2
      rw [OpackValue.written]
      omega

theorem writtenItems_length : ∀ (items : List OpackValue) (forms : List OpackForm),
    forms.length ≤ (writtenItems items forms).2.length
  | [], forms => Nat.le_refl _
  | first :: rest, forms => by
      have hfirst := written_length first forms
      have hrest := writtenItems_length rest (first.written forms).2
      rw [writtenItems]
      dsimp only
      omega

theorem writtenEntries_length : ∀ (entries : List (OpackValue × OpackValue))
    (forms : List OpackForm), forms.length ≤ (writtenEntries entries forms).2.length
  | [], forms => Nat.le_refl _
  | (key, value) :: rest, forms => by
      have hkey := written_length key forms
      have hvalue := written_length value (key.written forms).2
      have hrest := writtenEntries_length rest (value.written (key.written forms).2).2
      rw [writtenEntries]
      dsimp only
      omega

end

/-! ## References and fresh forms -/

/-- A scalar that was written is read back as it is received. -/
theorem unpackWith_scalar (depth : Nat) {scalar : OpackScalar} (hfits : scalar.Fits)
    (rest : Bytes) (objects : List OpackScalar) :
    unpackWith (depth + 1) (formBytes [.scalar scalar.received] ++ rest) objects =
      some (.fresh scalar.received rest objects) := by
  obtain ⟨packed, hpack⟩ := OpackScalar.pack_of_fits hfits
  obtain ⟨tag, body, hsplit, htag, hread⟩ := (readsAs_pack hpack).split
  have hbytes : formBytes [.scalar scalar.received] = packed := by
    simp [formBytes, OpackToken.bytes, OpackScalar.pack_received, hpack]
  have hlow := htag.2.2
  rw [hbytes, hsplit, List.cons_append, unpackWith, if_neg (by omega), if_neg (by omega), hread]

/-- The tags of references are scalars of their own. -/
theorem unpackWith_tag (depth : Nat) {tag : Nat} (htag : 0xA0 ≤ tag ∧ tag ≤ 0xC4) (body : Bytes)
    (objects : List OpackScalar) :
    unpackWith (depth + 1) (UInt8.ofNat tag :: body) objects = unpackScalar tag body objects := by
  have hvalue := @OpackToken.toNat_ofNat tag (by omega)
  rw [unpackWith, hvalue, if_neg (by omega), if_neg (by omega)]

theorem unpackScalar_shortReference {index : Nat} (hindex : index < 0x21) (body : Bytes)
    (objects : List OpackScalar) :
    unpackScalar (0xA0 + index) body objects = OpackDecoded.referenced index body objects := by
  rw [unpackScalar, if_neg (by omega), if_neg (by omega), if_neg (by omega), if_neg (by omega),
    if_neg (by omega), if_neg (by omega), if_neg (by omega), if_neg (by omega),
    if_neg (by omega), if_neg (by omega), if_neg (by omega), if_neg (by omega),
    if_neg (by omega), if_pos (by omega), Nat.add_sub_cancel_left]

theorem unpackScalar_longReference {tag : Nat} (htag : 0xC1 ≤ tag ∧ tag ≤ 0xC4) (body : Bytes)
    (objects : List OpackScalar) :
    unpackScalar tag body objects =
      OpackDecoded.referenced (fromLittleEndian (body.take (tag - 0xC0)))
        (body.drop (tag - 0xC0)) objects := by
  rw [unpackScalar, if_neg (by omega), if_neg (by omega), if_neg (by omega), if_neg (by omega),
    if_neg (by omega), if_neg (by omega), if_neg (by omega), if_neg (by omega),
    if_neg (by omega), if_neg (by omega), if_neg (by omega), if_neg (by omega),
    if_neg (by omega), if_neg (by omega), if_pos htag]

theorem formBytes_reference (index : Nat) :
    formBytes [.reference index] = opackReference index [] := by
  simp [formBytes, OpackToken.bytes]

/-- A reference of at most sixteen bits is read as it was written. -/
theorem unpackWith_reference (depth : Nat) {index : Nat} (hindex : index ≤ 0xFFFF) (rest : Bytes)
    (objects : List OpackScalar) :
    unpackWith (depth + 1) (formBytes [.reference index] ++ rest) objects =
      OpackDecoded.referenced index rest objects := by
  rw [formBytes_reference]
  obtain ⟨hsmall, hbytes⟩ | ⟨tag, hlow, hhigh, hbound, hwide, _, hbytes⟩ :=
    opackReference_cases (show index < 2 ^ 64 by omega) []
  · rw [hbytes, List.singleton_append, unpackWith_tag depth (by omega),
      unpackScalar_shortReference hsmall]
  · have hwidth : 2 ^ (tag - 0xC1) = tag - 0xC0 := by
      obtain rfl | rfl : tag = 0xC1 ∨ tag = 0xC2 := by omega
      · rfl
      · rfl
    have hlength := littleEndian_length (tag - 0xC0) index
    rw [hwidth] at hbytes hbound
    rw [hbytes, List.cons_append, unpackWith_tag depth (by omega),
      unpackScalar_longReference ⟨hlow, hhigh⟩, take_append_of_length hlength,
      drop_append_of_length hlength, fromLittleEndian_littleEndian _ hbound]

/-- A wider reference leaves its last byte. -/
theorem unpackWith_wideReference {depth index : Nat} (hwide : 0xFFFF < index)
    (hindex : index < 2 ^ 24) {rest : Bytes} {objects : List OpackScalar} {decoded : OpackDecoded}
    (hdecoded :
      unpackWith (depth + 1) (formBytes [.reference index] ++ rest) objects = some decoded) :
    decoded.remaining = 0 :: rest := by
  have hbytes : formBytes [.reference index] =
      UInt8.ofNat 0xC3 :: (littleEndian 3 index ++ [0]) := by
    have hlast : index / 256 / 256 / 256 = 0 := by omega
    rw [formBytes_reference, opackReference, if_neg (by omega), if_neg (by omega),
      if_neg (by omega), if_pos (by omega)]
    simp only [littleEndian, hlast, List.cons_append, List.nil_append]
    rfl
  have hlength := littleEndian_length 3 index
  rw [hbytes, List.cons_append, unpackWith_tag depth (by omega),
    unpackScalar_longReference (by omega), List.append_assoc] at hdecoded
  rw [OpackDecoded.referenced_remaining hdecoded, drop_append_of_length hlength,
    List.singleton_append]

end CompanionBridge
