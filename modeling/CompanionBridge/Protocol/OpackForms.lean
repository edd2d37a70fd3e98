import CompanionBridge.Protocol.OpackScalars

/-!
# Written forms

The encoder compares packed bytes. A written form is the same packed value as a
list of tokens: two values have the same packed bytes when they have the same
form, and a form can be compared without its bytes.
-/

namespace CompanionBridge

inductive OpackToken where
  | scalar (value : OpackScalar)
  | reference (index : Nat)
  | list (count : Nat)
  | dict (count : Nat)
  | close
  deriving DecidableEq

namespace OpackToken

def bytes : OpackToken → Bytes
  | scalar value => value.pack.getD []
  | reference index => opackReference index []
  | list count => [UInt8.ofNat (0xD0 + count)]
  | dict count => [UInt8.ofNat (0xE0 + count)]
  | close => [3]

/-- It takes one byte. -/
def isByte : OpackToken → Bool
  | scalar value => value.isByte
  | reference index => index < 0x21
  | _ => true

/-- A token the encoder writes. -/
def Valid : OpackToken → Prop
  | scalar value => value.Fits ∧ value.received = value
  | reference index => index < 2 ^ 64
  | list count => count ≤ 0xF
  | dict count => count ≤ 0xF
  | close => True

/-- The first token of written bytes, with references at their written widths. -/
def read : Bytes → Option (OpackToken × Bytes)
  | [] => none
  | tag :: body =>
      if tag = 3 then some (close, body)
      else if tag.toNat < 0xA0 then
        (unpackScalar tag.toNat body []).bind fun decoded =>
          match decoded.value with
          | .scalar value => some (scalar value, decoded.remaining)
          | _ => none
      else if tag.toNat ≤ 0xC0 then some (reference (tag.toNat - 0xA0), body)
      else if tag.toNat ≤ 0xC4 then
        let width := 2 ^ (tag.toNat - 0xC1)
        some (reference (fromLittleEndian (body.take width)), body.drop width)
      else if tag.toNat / 16 = 0xD then some (list (tag.toNat % 16), body)
      else some (dict (tag.toNat % 16), body)

end OpackToken

@[simp] theorem OpackDecoded.fresh_value (scalar : OpackScalar) (remaining : Bytes)
    (objects : List OpackScalar) :
    (OpackDecoded.fresh scalar remaining objects).value = .scalar scalar := by
  simp only [fresh, kept]
  split_ifs <;> rfl

@[simp] theorem OpackDecoded.fresh_remaining (scalar : OpackScalar) (remaining : Bytes)
    (objects : List OpackScalar) :
    (OpackDecoded.fresh scalar remaining objects).remaining = remaining := by
  simp only [fresh, kept]
  split_ifs <;> rfl

/-- A scalar that fits can be written. -/
theorem OpackScalar.pack_of_fits {scalar : OpackScalar} (hfits : scalar.Fits) :
    ∃ packed, scalar.pack = some packed :=
  Option.isSome_iff_exists.mp (scalar.pack_isSome.mpr hfits)

/-- A reference is one byte, or a tag and its index. -/
theorem opackReference_cases {index : Nat} (hindex : index < 2 ^ 64) (packed : Bytes) :
    (index < 0x21 ∧ opackReference index packed = [UInt8.ofNat (0xA0 + index)]) ∨
      ∃ tag, 0xC1 ≤ tag ∧ tag ≤ 0xC4 ∧ index < 256 ^ 2 ^ (tag - 0xC1) ∧
        (index ≤ 0xFFFF ↔ tag ≤ 0xC2) ∧ 0x21 ≤ index ∧
        opackReference index packed =
          UInt8.ofNat tag :: littleEndian (2 ^ (tag - 0xC1)) index := by
  simp only [opackReference]
  split_ifs with hbyte hone htwo hfour height
  · exact .inl ⟨hbyte, rfl⟩
  · exact .inr ⟨0xC1, by omega, by omega, by omega, by omega, by omega, rfl⟩
  · exact .inr ⟨0xC2, by omega, by omega, by omega, by omega, by omega, rfl⟩
  · exact .inr ⟨0xC3, by omega, by omega, by omega, by omega, by omega, rfl⟩
  · exact .inr ⟨0xC4, by omega, by omega, by omega, by omega, by omega, rfl⟩
  · omega

namespace OpackToken

theorem toNat_ofNat {value : Nat} (hvalue : value < 256) : (UInt8.ofNat value).toNat = value := by
  rw [UInt8.toNat_ofNat']
  omega

theorem ofNat_ne_three {value : Nat} (hvalue : value < 256) (hthree : value ≠ 3) :
    UInt8.ofNat value ≠ 3 := by
  intro heq
  apply hthree
  rw [← toNat_ofNat hvalue, heq]
  rfl

/-- A token is read back from its bytes, whatever follows. -/
theorem read_scalar {value : OpackScalar} (hfits : value.Fits) (hreceived : value.received = value)
    (rest : Bytes) : read ((scalar value).bytes ++ rest) = some (scalar value, rest) := by
  obtain ⟨packed, hpack⟩ := OpackScalar.pack_of_fits hfits
  obtain ⟨tag, body, hsplit, htag, hread⟩ := (readsAs_pack hpack).split
  have hthree : tag ≠ 3 := fun heq => htag.2.1 (by rw [heq]; rfl)
  simp only [bytes, hpack, Option.getD_some, hsplit, List.cons_append, read, if_neg hthree,
    if_pos htag.2.2, hread, hreceived, Option.bind_some, OpackDecoded.fresh_value,
    OpackDecoded.fresh_remaining]

theorem read_reference {index : Nat} (hindex : index < 2 ^ 64) (rest : Bytes) :
    read ((reference index).bytes ++ rest) = some (reference index, rest) := by
  rw [bytes]
  obtain ⟨hsmall, hbytes⟩ | ⟨tag, hlow, hhigh, hbound, _, _, hbytes⟩ :=
    opackReference_cases hindex []
  · have hvalue := @toNat_ofNat (0xA0 + index) (by omega)
    rw [hbytes, List.cons_append, read, if_neg (ofNat_ne_three (by omega) (by omega)), hvalue,
      if_neg (by omega), if_pos (by omega), Nat.add_sub_cancel_left, List.nil_append]
  · have hvalue := @toNat_ofNat tag (by omega)
    have hlength := littleEndian_length (2 ^ (tag - 0xC1)) index
    rw [hbytes, List.cons_append, read, if_neg (ofNat_ne_three (by omega) (by omega)), hvalue,
      if_neg (by omega), if_neg (by omega), if_pos hhigh]
    simp only [take_append_of_length hlength, drop_append_of_length hlength,
      fromLittleEndian_littleEndian _ hbound]

/-- Written tokens can be told apart, whatever follows them. -/
theorem read_bytes {token : OpackToken} (hvalid : token.Valid) (rest : Bytes) :
    read (token.bytes ++ rest) = some (token, rest) := by
  cases token with
  | scalar value => exact read_scalar hvalid.1 hvalid.2 rest
  | reference index => exact read_reference hvalid rest
  | list count =>
      have hcount : count ≤ 0xF := hvalid
      have hvalue := @toNat_ofNat (0xD0 + count) (by omega)
      rw [bytes, List.cons_append, read, if_neg (ofNat_ne_three (by omega) (by omega)), hvalue,
        if_neg (by omega), if_neg (by omega), if_neg (by omega), if_pos (by omega)]
      have hlow : (0xD0 + count) % 16 = count := by omega
      rw [hlow, List.nil_append]
  | dict count =>
      have hcount : count ≤ 0xF := hvalid
      have hvalue := @toNat_ofNat (0xE0 + count) (by omega)
      rw [bytes, List.cons_append, read, if_neg (ofNat_ne_three (by omega) (by omega)), hvalue,
        if_neg (by omega), if_neg (by omega), if_neg (by omega), if_neg (by omega)]
      have hlow : (0xE0 + count) % 16 = count := by omega
      rw [hlow, List.nil_append]
  | close => rfl

theorem bytes_ne_nil {token : OpackToken} (hvalid : token.Valid) : token.bytes ≠ [] := by
  intro hempty
  have hread := read_bytes hvalid []
  rw [hempty] at hread
  cases hread

end OpackToken

/-! ## Forms -/

abbrev OpackForm := List OpackToken

instance : LawfulBEq OpackForm := inferInstanceAs (LawfulBEq (List OpackToken))

def formBytes (form : OpackForm) : Bytes :=
  form.flatMap OpackToken.bytes

@[simp] theorem formBytes_cons (token : OpackToken) (form : OpackForm) :
    formBytes (token :: form) = token.bytes ++ formBytes form :=
  List.flatMap_cons

@[simp] theorem formBytes_append (first second : OpackForm) :
    formBytes (first ++ second) = formBytes first ++ formBytes second :=
  List.flatMap_append

def ValidForm (form : OpackForm) : Prop :=
  ∀ token ∈ form, token.Valid

/-- Different forms have different bytes. -/
theorem formBytes_injective {first second : OpackForm} (hfirst : ValidForm first)
    (hsecond : ValidForm second) (hbytes : formBytes first = formBytes second) :
    first = second := by
  induction first generalizing second with
  | nil =>
      cases second with
      | nil => rfl
      | cons token rest =>
          have hempty := (List.append_eq_nil_iff.mp hbytes.symm).1
          exact absurd hempty (OpackToken.bytes_ne_nil (hsecond token List.mem_cons_self))
  | cons token rest ih =>
      have htoken := hfirst token List.mem_cons_self
      cases second with
      | nil => exact absurd (List.append_eq_nil_iff.mp hbytes).1 (OpackToken.bytes_ne_nil htoken)
      | cons other others =>
          have hother := hsecond other List.mem_cons_self
          rw [formBytes_cons, formBytes_cons] at hbytes
          have hread := OpackToken.read_bytes htoken (formBytes rest)
          rw [hbytes, OpackToken.read_bytes hother, Option.some.injEq, Prod.mk.injEq] at hread
          have hrest := ih (fun token hmem => hfirst token (List.mem_cons_of_mem _ hmem))
            (fun token hmem => hsecond token (List.mem_cons_of_mem _ hmem)) hread.2.symm
          rw [hread.1, hrest]

/-! ## Writing a value -/

/-- A form of one byte. -/
def isByteForm : OpackForm → Bool
  | [token] => token.isByte
  | _ => false

/-- Number a form, or replace it by the number of the same form before it. -/
def internForm (form : OpackForm) (forms : List OpackForm) : OpackForm × List OpackForm :=
  if form ∈ forms then
    (if forms.idxOf form < 2 ^ 64 then [.reference (forms.idxOf form)] else form, forms)
  else if isByteForm form then (form, forms)
  else (form, forms ++ [form])

/-- The form of a container of `count` items. -/
def containerForm (opening : Nat → OpackToken) (count : Nat) (body : OpackForm) : OpackForm :=
  opening (min count 0xF) :: body ++ if 0xF ≤ count then [.close] else []

mutual

/-- The written form of a value and the forms numbered after it. -/
def OpackValue.written : OpackValue → List OpackForm → OpackForm × List OpackForm
  | .scalar value, forms => internForm [.scalar value.received] forms
  | .list items, forms =>
      internForm (containerForm .list items.length (writtenItems items forms).1)
        (writtenItems items forms).2
  | .dict entries, forms =>
      internForm (containerForm .dict entries.length (writtenEntries entries forms).1)
        (writtenEntries entries forms).2

def writtenItems : List OpackValue → List OpackForm → OpackForm × List OpackForm
  | [], forms => ([], forms)
  | first :: rest, forms =>
      ((first.written forms).1 ++ (writtenItems rest (first.written forms).2).1,
        (writtenItems rest (first.written forms).2).2)

def writtenEntries : List (OpackValue × OpackValue) → List OpackForm →
    OpackForm × List OpackForm
  | [], forms => ([], forms)
  | (key, value) :: rest, forms =>
      let afterKey := (key.written forms).2
      let afterValue := (value.written afterKey).2
      ((key.written forms).1 ++ ((value.written afterKey).1 ++ (writtenEntries rest afterValue).1),
        (writtenEntries rest afterValue).2)

end

mutual

/-- The levels of nesting. -/
def OpackValue.height : OpackValue → Nat
  | .scalar _ => 1
  | .list items => itemsHeight items + 1
  | .dict entries => entriesHeight entries + 1

def itemsHeight : List OpackValue → Nat
  | [] => 0
  | first :: rest => max first.height (itemsHeight rest)

def entriesHeight : List (OpackValue × OpackValue) → Nat
  | [] => 0
  | (key, value) :: rest => max (max key.height value.height) (entriesHeight rest)

end

mutual

/-- A property of every scalar of a value, keys included. -/
def OpackValue.Each (property : OpackScalar → Prop) : OpackValue → Prop
  | .scalar value => property value
  | .list items => EachItem property items
  | .dict entries => EachEntry property entries

def EachItem (property : OpackScalar → Prop) : List OpackValue → Prop
  | [] => True
  | first :: rest => first.Each property ∧ EachItem property rest

def EachEntry (property : OpackScalar → Prop) : List (OpackValue × OpackValue) → Prop
  | [] => True
  | (key, value) :: rest =>
      (key.Each property ∧ value.Each property) ∧ EachEntry property rest

end

/-- Every scalar has a packed form. -/
def OpackValue.Fits (value : OpackValue) : Prop :=
  value.Each OpackScalar.Fits

@[simp] theorem flattenEntries_cons (key value : OpackValue)
    (rest : List (OpackValue × OpackValue)) :
    flattenEntries ((key, value) :: rest) = key :: value :: flattenEntries rest := rfl

/-- Entries are written as the list of their keys and values. -/
theorem writtenEntries_eq (entries : List (OpackValue × OpackValue)) (forms : List OpackForm) :
    writtenEntries entries forms = writtenItems (flattenEntries entries) forms := by
  induction entries generalizing forms with
  | nil => rfl
  | cons entry rest ih =>
      obtain ⟨key, value⟩ := entry
      simp only [writtenEntries, flattenEntries_cons, writtenItems, ih]

theorem entriesHeight_eq (entries : List (OpackValue × OpackValue)) :
    entriesHeight entries = itemsHeight (flattenEntries entries) := by
  induction entries with
  | nil => rfl
  | cons entry rest ih =>
      obtain ⟨key, value⟩ := entry
      simp only [entriesHeight, flattenEntries_cons, itemsHeight, ih, Nat.max_assoc]

theorem eachEntry_iff (property : OpackScalar → Prop)
    (entries : List (OpackValue × OpackValue)) :
    EachEntry property entries ↔ EachItem property (flattenEntries entries) := by
  induction entries with
  | nil => exact Iff.rfl
  | cons entry rest ih =>
      obtain ⟨key, value⟩ := entry
      simp only [EachEntry, flattenEntries_cons, EachItem, ih, and_assoc]

theorem itemsHeight_le {items : List OpackValue} {depth : Nat} :
    itemsHeight items ≤ depth ↔ ∀ item ∈ items, item.height ≤ depth := by
  induction items with
  | nil => simp [itemsHeight]
  | cons first rest ih => simp only [itemsHeight, Nat.max_le, ih, List.forall_mem_cons]

theorem eachItem_iff {property : OpackScalar → Prop} {items : List OpackValue} :
    EachItem property items ↔ ∀ item ∈ items, item.Each property := by
  induction items with
  | nil => simp [EachItem]
  | cons first rest ih => simp only [EachItem, ih, List.forall_mem_cons]

/-! ## The encoder writes the form -/

/-- Every form of the table is written. -/
def ValidForms (forms : List OpackForm) : Prop :=
  ∀ form ∈ forms, ValidForm form

theorem validForms_nil : ValidForms [] := by
  intro form hmem
  cases hmem

theorem ValidForm.append {first second : OpackForm} (hfirst : ValidForm first)
    (hsecond : ValidForm second) : ValidForm (first ++ second) := by
  intro token hmem
  obtain hmem | hmem := List.mem_append.mp hmem
  · exact hfirst token hmem
  · exact hsecond token hmem

theorem mem_map_formBytes {form : OpackForm} {forms : List OpackForm} (hform : ValidForm form)
    (hforms : ValidForms forms) : formBytes form ∈ forms.map formBytes ↔ form ∈ forms := by
  constructor
  · intro hmem
    obtain ⟨other, hother, hbytes⟩ := List.mem_map.mp hmem
    rwa [← formBytes_injective (hforms other hother) hform hbytes]
  · exact fun hmem => List.mem_map_of_mem hmem

theorem idxOf_map_formBytes {form : OpackForm} {forms : List OpackForm} (hform : ValidForm form)
    (hforms : ValidForms forms) :
    (forms.map formBytes).idxOf (formBytes form) = forms.idxOf form := by
  induction forms with
  | nil => rfl
  | cons first rest ih =>
      have hfirst := hforms first List.mem_cons_self
      have hrest := ih fun form hmem => hforms form (List.mem_cons_of_mem _ hmem)
      rw [List.map_cons, List.idxOf_cons, List.idxOf_cons, hrest]
      by_cases heq : first = form
      · simp only [heq, beq_self_eq_true, cond_true]
      · have hbytes : formBytes first ≠ formBytes form :=
          fun hbytes => heq (formBytes_injective hfirst hform hbytes)
        simp only [beq_false_of_ne heq, beq_false_of_ne hbytes, cond_false]

/-- The scalars of one byte are the ones that are not kept. -/
theorem OpackScalar.pack_length {scalar : OpackScalar} (hreceived : scalar.received = scalar)
    {packed : Bytes} (hpack : scalar.pack = some packed) :
    1 < packed.length ↔ scalar.isByte = false := by
  cases scalar with
  | null | bool value | float bits => cases hpack; simp [isByte]
  | uuid value =>
      cases hpack
      have hlength := value.length_eq
      simp [isByte, hlength]
  | int value size =>
      simp only [received, int.injEq, true_and] at hreceived
      rw [pack, packInt_eq, hreceived] at hpack
      cases size with
      | none => cases hpack; simp [isByte]
      | some width =>
          have hcases := writtenWidth_cases hreceived
          simp only [toBytes?] at hpack
          split at hpack
          · cases hpack
            simp only [List.length_cons, littleEndian_length, isByte, iff_true]
            omega
          · cases hpack
  | str text =>
      -- the empty text is the one text written in its tag alone
      have hempty : text = "" ↔ (utf8 text).length = 0 := by
        constructor
        · intro htext
          rw [htext]
          rfl
        · intro hlength
          have hdecode := decodeUtf8_utf8 text
          rw [List.length_eq_zero_iff.mp hlength] at hdecode
          exact (Option.some.inj hdecode).symm
      simp only [pack, packStr] at hpack
      simp only [isByte, decide_eq_false_iff_not, hempty]
      split_ifs at hpack <;> cases hpack <;>
        simp only [List.length_cons, List.length_append, littleEndian_length] <;> omega
  | bytes data =>
      simp only [pack, packBytes] at hpack
      simp only [isByte, decide_eq_false_iff_not, ← List.length_eq_zero_iff]
      split_ifs at hpack <;> cases hpack <;>
        simp only [List.length_cons, List.length_append, littleEndian_length] <;> omega

theorem bytes_length {token : OpackToken} (hvalid : token.Valid) :
    1 < token.bytes.length ↔ token.isByte = false := by
  cases token with
  | scalar value =>
      obtain ⟨packed, hpack⟩ := OpackScalar.pack_of_fits hvalid.1
      simp only [OpackToken.bytes, hpack, Option.getD_some, OpackToken.isByte]
      exact OpackScalar.pack_length hvalid.2 hpack
  | reference index =>
      simp only [OpackToken.bytes, OpackToken.isByte, decide_eq_false_iff_not]
      obtain ⟨hsmall, hbytes⟩ | ⟨tag, _, _, _, _, hlarge, hbytes⟩ :=
        opackReference_cases hvalid []
      · simp only [hbytes, List.length_singleton]
        omega
      · have hpos := Nat.two_pow_pos (tag - 0xC1)
        simp only [hbytes, List.length_cons, littleEndian_length]
        omega
  | list count | dict count | close => simp [OpackToken.bytes, OpackToken.isByte]

theorem formBytes_length {form : OpackForm} (hvalid : ValidForm form) (hne : form ≠ []) :
    1 < (formBytes form).length ↔ isByteForm form = false := by
  match form with
  | [] => exact absurd rfl hne
  | [token] =>
      rw [formBytes_cons, formBytes, List.flatMap_nil, List.append_nil]
      exact bytes_length (hvalid token List.mem_cons_self)
  | first :: second :: rest =>
      have hfirst := OpackToken.bytes_ne_nil (hvalid first (by simp))
      have hsecond := OpackToken.bytes_ne_nil (hvalid second (by simp))
      have hpos := List.length_pos_iff.mpr hfirst
      have hmore := List.length_pos_iff.mpr hsecond
      simp only [formBytes_cons, List.length_append, isByteForm, iff_true]
      omega

/-- Numbering forms is numbering packed bytes. -/
theorem intern_formBytes {form : OpackForm} {forms : List OpackForm} (hform : ValidForm form)
    (hne : form ≠ []) (hforms : ValidForms forms) :
    intern (formBytes form) (forms.map formBytes) =
      (formBytes (internForm form forms).1, (internForm form forms).2.map formBytes) := by
  simp only [intern, mem_map_formBytes hform hforms, idxOf_map_formBytes hform hforms,
    formBytes_length hform hne, internForm]
  by_cases hmem : form ∈ forms
  · rw [if_pos hmem, if_pos hmem]
    split_ifs with hindex
    · simp only [formBytes, List.flatMap_cons, List.flatMap_nil, List.append_nil,
        OpackToken.bytes, opackReference]
      split_ifs <;> first | rfl | omega
    · simp only [opackReference]
      split_ifs <;> first | rfl | omega
  · rw [if_neg hmem, if_neg hmem]
    cases hbyte : isByteForm form with
    | true => rfl
    | false =>
        rw [if_pos rfl, if_neg Bool.false_ne_true, List.map_append]
        rfl

/-- A form that is interned is written as itself or as a reference, both valid. -/
theorem internForm_valid {form : OpackForm} {forms : List OpackForm} (hform : ValidForm form)
    (hforms : ValidForms forms) :
    ValidForm (internForm form forms).1 ∧ ValidForms (internForm form forms).2 := by
  simp only [internForm]
  split_ifs with hmem hindex hbyte
  · refine ⟨?_, hforms⟩
    intro token htoken
    rw [List.mem_singleton.mp htoken]
    exact hindex
  · exact ⟨hform, hforms⟩
  · exact ⟨hform, hforms⟩
  · refine ⟨hform, ?_⟩
    intro other hother
    obtain hother | hother := List.mem_append.mp hother
    · exact hforms other hother
    · rwa [List.mem_singleton.mp hother]

/-- The encoder's state follows the form. -/
structure PacksAs (result : Option (Bytes × List Bytes)) (written : OpackForm × List OpackForm) :
    Prop where
  bytes : result = some (formBytes written.1, written.2.map formBytes)
  form : ValidForm written.1
  forms : ValidForms written.2

/-- Interning bytes is interning the form they stand for. -/
theorem PacksAs.intern {form : OpackForm} {forms : List OpackForm} (hform : ValidForm form)
    (hne : form ≠ []) (hforms : ValidForms forms) :
    PacksAs (some (intern (formBytes form) (forms.map formBytes))) (internForm form forms) where
  bytes := congrArg some (intern_formBytes hform hne hforms)
  form := (internForm_valid hform hforms).1
  forms := (internForm_valid hform hforms).2

/-- Items are packed as the forms they are written in, by induction on the list. -/
theorem packItems_written {item : OpackValue → List Bytes → Option (Bytes × List Bytes)}
    {items : List OpackValue} {forms : List OpackForm}
    (hitem : ∀ value ∈ items, ∀ forms, ValidForms forms →
      PacksAs (item value (forms.map formBytes)) (value.written forms))
    (hforms : ValidForms forms) :
    PacksAs (packItems item items (forms.map formBytes)) (writtenItems items forms) := by
  induction items generalizing forms with
  | nil => exact ⟨rfl, by simp [writtenItems, ValidForm], hforms⟩
  | cons first rest ih =>
      have hfirst := hitem first List.mem_cons_self forms hforms
      have hrest := ih (fun value hmem => hitem value (List.mem_cons_of_mem _ hmem)) hfirst.forms
      constructor
      · simp only [packItems, hfirst.bytes, hrest.bytes, Option.bind_eq_bind, Option.bind_some,
          writtenItems, formBytes_append]
        rfl
      · exact hfirst.form.append hrest.form
      · exact hrest.forms

/-- A container is its opening, its items and its end. -/
theorem containerForm_valid {opening : Nat → OpackToken} {count : Nat} {body : OpackForm}
    (hopening : (opening (min count 0xF)).Valid) (hbody : ValidForm body) :
    ValidForm (containerForm opening count body) := by
  intro token hmem
  simp only [containerForm, List.cons_append, List.mem_cons, List.mem_append] at hmem
  obtain rfl | hmem | hmem := hmem
  · exact hopening
  · exact hbody token hmem
  · split at hmem
    · rw [List.mem_singleton.mp hmem]
      trivial
    · cases hmem

/-- The bytes of a container are those of its form. -/
theorem containerBytes_eq {base count : Nat} {opening : Nat → OpackToken} {body : OpackForm}
    (hopening : (opening (min count 0xF)).bytes = [UInt8.ofNat (base + min count 0xF)]) :
    containerBytes base count (formBytes body) = formBytes (containerForm opening count body) := by
  simp only [containerBytes, containerForm, List.cons_append, formBytes_cons, hopening,
    formBytes_append, List.nil_append]
  split_ifs <;> rfl

/-- The encoder writes the form of a value, unless it is nested too deeply or a
scalar has no packed form. -/
theorem packWith_written {depth : Nat} {value : OpackValue} {forms : List OpackForm}
    (hheight : value.height ≤ depth) (hfits : value.Fits) (hforms : ValidForms forms) :
    PacksAs (packWith depth value (forms.map formBytes)) (value.written forms) := by
  induction depth generalizing value forms with
  | zero => cases value <;> simp [OpackValue.height] at hheight
  | succ depth ih =>
      have hcontainer : ∀ items, itemsHeight items ≤ depth → EachItem OpackScalar.Fits items →
          PacksAs (packItems (packWith depth) items (forms.map formBytes))
            (writtenItems items forms) := by
        intro items hheight hfits
        apply packItems_written _ hforms
        intro item hmem forms hforms
        exact ih (itemsHeight_le.mp hheight item hmem) (eachItem_iff.mp hfits item hmem) hforms
      cases value with
      | scalar scalar =>
          rw [OpackValue.Fits, OpackValue.Each] at hfits
          obtain ⟨packed, hpack⟩ := OpackScalar.pack_of_fits hfits
          have hreceived : scalar.received.pack = some packed := by
            rw [OpackScalar.pack_received, hpack]
          have hvalid : ValidForm [.scalar scalar.received] := by
            intro token htoken
            rw [List.mem_singleton.mp htoken]
            refine ⟨scalar.received.pack_isSome.mp ?_, scalar.received_received⟩
            rw [hreceived]
            rfl
          have hbytes : formBytes [.scalar scalar.received] = packed := by
            simp [formBytes, OpackToken.bytes, hreceived]
          rw [packWith, hpack, Option.map_some, OpackValue.written, ← hbytes]
          exact .intern hvalid (List.cons_ne_nil _ _) hforms
      | list items =>
          rw [OpackValue.height] at hheight
          rw [OpackValue.Fits, OpackValue.Each] at hfits
          have hitems := hcontainer items (by omega) hfits
          have hvalid : ValidForm (containerForm .list items.length (writtenItems items forms).1) :=
            containerForm_valid (Nat.min_le_right _ _) hitems.form
          rw [packWith, hitems.bytes, OpackValue.written]
          simp only [Option.bind_eq_bind, Option.bind_some]
          rw [@containerBytes_eq 0xD0 _ .list _ rfl]
          exact .intern hvalid (List.cons_ne_nil _ _) hitems.forms
      -- a dictionary is written as the list of its keys and values
      | dict entries =>
          rw [OpackValue.height, entriesHeight_eq] at hheight
          rw [OpackValue.Fits, OpackValue.Each, eachEntry_iff] at hfits
          have hitems := hcontainer (flattenEntries entries) (by omega) hfits
          have hvalid : ValidForm (containerForm .dict entries.length
              (writtenItems (flattenEntries entries) forms).1) :=
            containerForm_valid (Nat.min_le_right _ _) hitems.form
          rw [packWith, hitems.bytes, OpackValue.written, writtenEntries_eq]
          simp only [Option.bind_eq_bind, Option.bind_some]
          rw [@containerBytes_eq 0xE0 _ .dict _ rfl]
          exact .intern hvalid (List.cons_ne_nil _ _) hitems.forms

/-- A list that is packed has each of its items packed. -/
theorem packItems_isSome {item : OpackValue → List Bytes → Option (Bytes × List Bytes)}
    {items : List OpackValue} {objects : List Bytes}
    (hpacked : (packItems item items objects).isSome) :
    ∀ value ∈ items, ∃ objects, (item value objects).isSome := by
  induction items generalizing objects with
  | nil => simp
  | cons first rest ih =>
      rw [packItems] at hpacked
      cases hfirst : item first objects with
      | none =>
          rw [hfirst] at hpacked
          cases hpacked
      | some written =>
          rw [hfirst] at hpacked
          cases hrest : packItems item rest written.2 with
          | none =>
              simp only [Option.bind_eq_bind, Option.bind_some, hrest] at hpacked
              cases hpacked
          | some others =>
              have hsome := @ih written.2 (by rw [hrest]; rfl)
              intro value hmem
              obtain rfl | hmem := List.mem_cons.mp hmem
              · exact ⟨objects, by rw [hfirst]; rfl⟩
              · exact hsome value hmem

/-- Only a value within the depth whose scalars fit is packed. -/
theorem packWith_isSome {depth : Nat} {value : OpackValue} {objects : List Bytes}
    (hpacked : (packWith depth value objects).isSome) : value.height ≤ depth ∧ value.Fits := by
  induction depth generalizing value objects with
  | zero => cases hpacked
  | succ depth ih =>
      have hcontainer : ∀ items,
          (packItems (packWith depth) items objects).isSome →
            itemsHeight items ≤ depth ∧ EachItem OpackScalar.Fits items := by
        intro items hsome
        have hitems := packItems_isSome hsome
        constructor
        · rw [itemsHeight_le]
          intro item hmem
          obtain ⟨objects, hitem⟩ := hitems item hmem
          exact (ih hitem).1
        · rw [eachItem_iff]
          intro item hmem
          obtain ⟨objects, hitem⟩ := hitems item hmem
          exact (ih hitem).2
      cases value with
      | scalar scalar =>
          rw [packWith, Option.isSome_map] at hpacked
          rw [OpackValue.height, OpackValue.Fits, OpackValue.Each]
          exact ⟨by omega, scalar.pack_isSome.mp hpacked⟩
      | list items =>
          rw [packWith] at hpacked
          have hitems := hcontainer items (Option.isSome_of_isSome_bind hpacked)
          rw [OpackValue.height, OpackValue.Fits, OpackValue.Each]
          exact ⟨by omega, hitems.2⟩
      | dict entries =>
          rw [packWith] at hpacked
          have hitems := hcontainer _ (Option.isSome_of_isSome_bind hpacked)
          rw [OpackValue.height, OpackValue.Fits, OpackValue.Each, entriesHeight_eq, eachEntry_iff]
          exact ⟨by omega, hitems.2⟩

/-- What `pack` returns. -/
theorem pack_eq_some {depth : Nat} {value : OpackValue} {packed : Bytes} :
    pack depth value = some packed ↔
      value.height ≤ depth ∧ value.Fits ∧ packed = formBytes (value.written []).1 := by
  constructor
  · intro hpack
    rw [pack, Option.map_eq_some_iff] at hpack
    obtain ⟨result, hresult, hfst⟩ := hpack
    obtain ⟨hheight, hfits⟩ := packWith_isSome (by rw [hresult]; rfl)
    have hbytes := (packWith_written hheight hfits validForms_nil).bytes
    rw [List.map_nil, hresult, Option.some.injEq] at hbytes
    exact ⟨hheight, hfits, by rw [← hfst, hbytes]⟩
  · intro ⟨hheight, hfits, hbytes⟩
    have hpack := (packWith_written hheight hfits validForms_nil).bytes
    rw [List.map_nil] at hpack
    rw [pack, hpack, hbytes, Option.map_some]

theorem written_valid {value : OpackValue} {forms : List OpackForm} (hfits : value.Fits)
    (hforms : ValidForms forms) :
    ValidForm (value.written forms).1 ∧ ValidForms (value.written forms).2 :=
  have hpacks := packWith_written (Nat.le_refl value.height) hfits hforms
  ⟨hpacks.form, hpacks.forms⟩

end CompanionBridge
