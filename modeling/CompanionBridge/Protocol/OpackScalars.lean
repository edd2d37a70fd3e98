import CompanionBridge.Protocol.Opack

/-!
# Scalars on the wire

What the decoder returns for a packed scalar, and what of the scalar that keeps.
An integer of the program's own comes back with the width it was written with.
-/

namespace CompanionBridge

/-! ## Integers and texts -/

@[simp] theorem littleEndian_length (length value : Nat) :
    (littleEndian length value).length = length := by
  induction length generalizing value with
  | zero => rfl
  | succ length ih => rw [littleEndian, List.length_cons, ih]

/-- A number that fits its width is read back. -/
theorem fromLittleEndian_littleEndian (length : Nat) {value : Nat} (hvalue : value < 256 ^ length) :
    fromLittleEndian (littleEndian length value) = value := by
  induction length generalizing value with
  | zero =>
      rw [Nat.pow_zero] at hvalue
      rw [littleEndian, fromLittleEndian]
      omega
  | succ length ih =>
      have hrest : value / 256 < 256 ^ length := by
        apply Nat.div_lt_of_lt_mul
        rwa [Nat.mul_comm, ← Nat.pow_succ]
      rw [littleEndian, fromLittleEndian, ih hrest, UInt8.toNat_ofNat']
      omega

theorem fromLittleEndian_lt (data : Bytes) : fromLittleEndian data < 256 ^ data.length := by
  induction data with
  | nil => exact Nat.one_pos
  | cons byte rest ih =>
      have hbyte := byte.toNat_lt
      rw [fromLittleEndian, List.length_cons, Nat.pow_succ]
      omega

theorem decodeUtf8_utf8 (text : String) : decodeUtf8 (utf8 text) = some text := by
  have hbytes : (⟨(utf8 text).toArray⟩ : ByteArray) = text.toByteArray := by
    simp only [utf8, String.toUTF8_eq_toByteArray, Array.toArray_toList]
  simp only [decodeUtf8, hbytes, String.fromUTF8?, text.isValidUTF8, dif_pos]
  rfl

theorem utf8_of_decodeUtf8 {data : Bytes} {text : String} (hdecode : decodeUtf8 data = some text) :
    utf8 text = data := by
  simp only [decodeUtf8, String.fromUTF8?] at hdecode
  split at hdecode
  · cases hdecode
    rfl
  · cases hdecode

namespace OpackScalar

/-! ## What the decoder keeps -/

/-- The width an integer is written with; below forty it has none. -/
def writtenWidth (value : Nat) : Option Nat → Option Nat
  | none =>
      if value < 0x28 then none
      else if value ≤ 0xFF then some 1
      else if value ≤ 0xFFFF then some 2
      else if value ≤ 0xFFFFFFFF then some 4
      else some 8
  | some size => if size = 1 ∨ size = 2 ∨ size = 4 then some size else some 8

/-- A scalar as its packed bytes are decoded. -/
def received : OpackScalar → OpackScalar
  | int value size => int value (writtenWidth value size)
  | other => other

/-- Nothing of the first is lost in the second: an integer may gain a width. -/
def carriedBy : OpackScalar → OpackScalar → Bool
  | int value none, int other _ => value = other
  | first, second => first = second

/-- The decoder puts it in its table. -/
def isKept : OpackScalar → Bool
  | null | bool _ | int _ none => false
  | _ => true

/-- Its packed form is one byte, which the encoder does not put in its table. -/
def isByte : OpackScalar → Bool
  | null | bool _ | int _ none => true
  | str text => text = ""
  | bytes data => data = []
  | _ => false

/-- It has a packed form. -/
def Fits : OpackScalar → Prop
  | int value size =>
      match writtenWidth value size with
      | none => True
      | some width => value < 256 ^ width
  | str text => (utf8 text).length < 2 ^ 32
  | bytes data => data.length < 2 ^ 64
  | _ => True

/-! ## The packed bytes -/

/-- An integer is its tag and its bytes, or its tag alone. -/
theorem packInt_eq (value : Nat) (size : Option Nat) :
    packInt value size =
      match writtenWidth value size with
      | none => some [UInt8.ofNat (value + 8)]
      | some width => (toBytes? width value).map (UInt8.ofNat (0x30 + width.log2) :: ·) := by
  cases size with
  | none =>
      simp only [packInt, writtenWidth, reduceCtorEq, and_true, or_false]
      -- without a size the width is the smallest that holds the value
      by_cases hsmall : value < 0x28
      · simp only [if_pos hsmall]
      rw [if_neg hsmall, if_neg hsmall]
      by_cases hbyte : value ≤ 0xFF
      · simp only [if_pos hbyte]
        rfl
      rw [if_neg hbyte, if_neg hbyte]
      by_cases hshort : value ≤ 0xFFFF
      · simp only [if_pos hshort]
        rfl
      rw [if_neg hshort, if_neg hshort]
      by_cases hword : value ≤ 0xFFFFFFFF
      · simp only [if_pos hword]
        rfl
      rw [if_neg hword, if_neg hword]
      by_cases hlong : value ≤ 0xFFFFFFFFFFFFFFFF
      · simp only [if_pos hlong]
        rfl
      · have hbound : ¬value < 256 ^ 8 := by omega
        simp only [if_neg hlong, toBytes?, if_neg hbound, Option.map_none]
  | some width =>
      simp only [packInt, writtenWidth, reduceCtorEq, and_false, false_or, Option.some.injEq,
        if_false]
      by_cases hbyte : width = 1
      · subst hbyte
        rfl
      by_cases hshort : width = 2
      · subst hshort
        rfl
      by_cases hword : width = 4
      · subst hword
        rfl
      simp only [hbyte, hshort, hword, if_false, or_self]
      by_cases hlong : value ≤ 0xFFFFFFFFFFFFFFFF
      · simp only [if_pos hlong]
        rfl
      · have hbound : ¬value < 256 ^ 8 := by omega
        simp only [if_neg hlong, toBytes?, if_neg hbound, Option.map_none]

/-- The widths an integer is written with. -/
theorem writtenWidth_cases {value width : Nat} {size : Option Nat}
    (hwidth : writtenWidth value size = some width) :
    width = 1 ∨ width = 2 ∨ width = 4 ∨ width = 8 := by
  cases size with
  | none =>
      simp only [writtenWidth] at hwidth
      split_ifs at hwidth <;> simp only [Option.some.injEq] at hwidth <;> omega
  | some size =>
      simp only [writtenWidth] at hwidth
      split_ifs at hwidth with hsize <;> simp only [Option.some.injEq] at hwidth <;> omega

theorem writtenWidth_eq_none {value : Nat} {size : Option Nat} :
    writtenWidth value size = none ↔ size = none ∧ value < 0x28 := by
  cases size with
  | none =>
      simp only [writtenWidth, true_and]
      split_ifs <;> simp_all
  | some size =>
      simp only [writtenWidth, reduceCtorEq, false_and, iff_false]
      split_ifs <;> simp

theorem writtenWidth_writtenWidth (value : Nat) (size : Option Nat) :
    writtenWidth value (writtenWidth value size) = writtenWidth value size := by
  cases hwidth : writtenWidth value size with
  | none => exact writtenWidth_eq_none.mpr ⟨rfl, (writtenWidth_eq_none.mp hwidth).2⟩
  | some width =>
      obtain rfl | rfl | rfl | rfl := writtenWidth_cases hwidth <;> simp [writtenWidth]

theorem received_received (scalar : OpackScalar) : scalar.received.received = scalar.received := by
  cases scalar with
  | int value size => rw [received, received, writtenWidth_writtenWidth]
  | _ => rfl

theorem pack_received (scalar : OpackScalar) : scalar.received.pack = scalar.pack := by
  cases scalar with
  | int value size =>
      rw [received, pack, pack, packInt_eq, packInt_eq, writtenWidth_writtenWidth]
  | _ => rfl

theorem packStr_isSome (encoded : Bytes) :
    (packStr encoded).isSome ↔ encoded.length < 2 ^ 32 := by
  simp only [packStr]
  split_ifs <;> simp <;> omega

theorem packBytes_isSome (data : Bytes) : (packBytes data).isSome ↔ data.length < 2 ^ 64 := by
  simp only [packBytes]
  split_ifs <;> simp <;> omega

/-- A scalar can be written exactly when it fits. -/
theorem pack_isSome (scalar : OpackScalar) : scalar.pack.isSome ↔ scalar.Fits := by
  cases scalar with
  | int value size =>
      simp only [pack, packInt_eq, Fits]
      cases writtenWidth value size with
      | none => simp
      | some width =>
          simp only [toBytes?]
          split_ifs with hbound <;> simp [hbound]
  | str text => exact packStr_isSome (utf8 text)
  | bytes data => exact packBytes_isSome data
  | _ => simp [pack, Fits]

end OpackScalar

/-! ## Decoding the packed bytes -/

/-- A scalar just decoded, in the table where the decoder keeps it. -/
def OpackDecoded.fresh (scalar : OpackScalar) (remaining : Bytes) (objects : List OpackScalar) :
    OpackDecoded :=
  if scalar.isKept then kept scalar remaining objects
  else loose (.scalar scalar) remaining objects

theorem take_append_of_length {data rest : Bytes} {count : Nat} (hcount : data.length = count) :
    (data ++ rest).take count = data := by
  rw [← hcount, List.take_left]

theorem drop_append_of_length {data rest : Bytes} {count : Nat} (hcount : data.length = count) :
    (data ++ rest).drop count = rest := by
  rw [← hcount, List.drop_left]

theorem unpackScalar_small {value : Nat} (hvalue : value < 0x28) (body : Bytes)
    (objects : List OpackScalar) :
    unpackScalar (value + 8) body objects =
      some (.fresh (.int value none) body objects) := by
  rw [unpackScalar, if_neg (by omega), if_neg (by omega), if_neg (by omega), if_neg (by omega),
    if_neg (by omega), if_pos (by omega), Nat.add_sub_cancel]
  rfl

theorem unpackScalar_sized {width : Nat}
    (hwidth : width = 1 ∨ width = 2 ∨ width = 4 ∨ width = 8) {value : Nat}
    (hvalue : value < 256 ^ width) (rest : Bytes) (objects : List OpackScalar) :
    unpackScalar (0x30 + width.log2) (littleEndian width value ++ rest) objects =
      some (.fresh (.int value (some width)) rest objects) := by
  have hlog : 2 ^ width.log2 = width ∧ width.log2 ≤ 3 := by
    obtain rfl | rfl | rfl | rfl := hwidth <;> decide
  have htag : (0x30 + width.log2) / 16 = 3 := by omega
  have hlow : (0x30 + width.log2) % 16 = width.log2 := by omega
  have hlength := littleEndian_length width value
  rw [unpackScalar, if_neg (by omega), if_neg (by omega), if_neg (by omega), if_neg (by omega),
    if_neg (by omega), if_neg (by omega), if_neg (by omega), if_neg (by omega), if_pos htag]
  simp only [hlow, hlog.1, take_append_of_length hlength, drop_append_of_length hlength,
    fromLittleEndian_littleEndian width hvalue]
  rfl

theorem unpackScalar_float (bits : UInt64) (rest : Bytes) (objects : List OpackScalar) :
    unpackScalar 0x36 (littleEndian 8 bits.toNat ++ rest) objects =
      some (.fresh (.float bits) rest objects) := by
  have hlength := littleEndian_length 8 bits.toNat
  have hbits : bits.toNat < 256 ^ 8 := bits.toNat_lt
  rw [unpackScalar, if_neg (by omega), if_neg (by omega), if_neg (by omega), if_neg (by omega),
    if_neg (by omega), if_neg (by omega), if_neg (by omega), if_pos (by omega)]
  simp only [take_append_of_length hlength, drop_append_of_length hlength, hlength, if_true,
    fromLittleEndian_littleEndian 8 hbits, UInt64.ofNat_toNat]
  rfl

theorem unpackScalar_uuid (value : Uuid) (rest : Bytes) (objects : List OpackScalar) :
    unpackScalar 5 (value.bytes ++ rest) objects = some (.fresh (.uuid value) rest objects) := by
  have hlength := value.length_eq
  rw [unpackScalar, if_neg (by omega), if_neg (by omega), if_neg (by omega), if_pos rfl]
  simp only [take_append_of_length hlength, drop_append_of_length hlength, hlength, dif_pos]
  rfl

/-- A text whose length is in the tag. -/
theorem unpackScalar_shortStr {text : String} (hlength : (utf8 text).length ≤ 0x20) (rest : Bytes)
    (objects : List OpackScalar) :
    unpackScalar (0x40 + (utf8 text).length) (utf8 text ++ rest) objects =
      some (.fresh (.str text) rest objects) := by
  rw [unpackScalar, if_neg (by omega), if_neg (by omega), if_neg (by omega), if_neg (by omega),
    if_neg (by omega), if_neg (by omega), if_neg (by omega), if_neg (by omega),
    if_neg (by omega), if_pos (by omega)]
  simp only [Nat.add_sub_cancel_left, List.take_left, List.drop_left, decodeUtf8_utf8]
  rfl

/-- A text whose length follows the tag. -/
theorem unpackScalar_longStr {width : Nat} (hpos : 0 < width) (hwidth : width ≤ 4) {text : String}
    (hlength : (utf8 text).length < 256 ^ width) (rest : Bytes) (objects : List OpackScalar) :
    unpackScalar (0x60 + width)
        (littleEndian width (utf8 text).length ++ (utf8 text ++ rest)) objects =
      some (.fresh (.str text) rest objects) := by
  have hlow : (0x60 + width) % 16 = width := by omega
  have hheader := littleEndian_length width (utf8 text).length
  rw [unpackScalar, if_neg (by omega), if_neg (by omega), if_neg (by omega), if_neg (by omega),
    if_neg (by omega), if_neg (by omega), if_neg (by omega), if_neg (by omega),
    if_neg (by omega), if_neg (by omega), if_pos (by omega)]
  simp only [hlow, take_append_of_length hheader, ← List.drop_drop, drop_append_of_length hheader,
    fromLittleEndian_littleEndian width hlength, List.take_left, List.drop_left, decodeUtf8_utf8]
  rfl

/-- Bytes whose length is in the tag. -/
theorem unpackScalar_shortBytes {data : Bytes} (hlength : data.length ≤ 0x20) (rest : Bytes)
    (objects : List OpackScalar) :
    unpackScalar (0x70 + data.length) (data ++ rest) objects =
      some (.fresh (.bytes data) rest objects) := by
  rw [unpackScalar, if_neg (by omega), if_neg (by omega), if_neg (by omega), if_neg (by omega),
    if_neg (by omega), if_neg (by omega), if_neg (by omega), if_neg (by omega),
    if_neg (by omega), if_neg (by omega), if_neg (by omega), if_pos (by omega)]
  simp only [Nat.add_sub_cancel_left, List.take_left, List.drop_left]
  rfl

/-- Bytes whose length follows the tag. -/
theorem unpackScalar_longBytes {tag width : Nat} (htag : 0x91 ≤ tag ∧ tag ≤ 0x94)
    (hwidth : width = 2 ^ (tag % 16 - 1)) {data : Bytes} (hlength : data.length < 256 ^ width)
    (rest : Bytes) (objects : List OpackScalar) :
    unpackScalar tag (littleEndian width data.length ++ (data ++ rest)) objects =
      some (.fresh (.bytes data) rest objects) := by
  have hheader := littleEndian_length width data.length
  rw [unpackScalar, if_neg (by omega), if_neg (by omega), if_neg (by omega), if_neg (by omega),
    if_neg (by omega), if_neg (by omega), if_neg (by omega), if_neg (by omega),
    if_neg (by omega), if_neg (by omega), if_neg (by omega), if_neg (by omega), if_pos htag]
  simp only [← hwidth, take_append_of_length hheader, ← List.drop_drop,
    drop_append_of_length hheader, fromLittleEndian_littleEndian width hlength, List.take_left,
    List.drop_left]
  rfl

/-- The tags of scalars: below the references, and no terminator. -/
def IsScalarTag (tag : UInt8) : Prop :=
  0 < tag.toNat ∧ tag.toNat ≠ 3 ∧ tag.toNat < 0xA0

/-- What the bytes of a packed scalar say, whatever follows them. -/
structure ReadsAs (scalar : OpackScalar) (packed : Bytes) : Prop where
  split : ∃ tag body, packed = tag :: body ∧ IsScalarTag tag ∧ ∀ rest objects,
    unpackScalar tag.toNat (body ++ rest) objects = some (.fresh scalar rest objects)

/-- The tags below the references are scalars. -/
theorem ReadsAs.of_tag {scalar : OpackScalar} {tag : Nat} {body : Bytes}
    (htag : 0 < tag ∧ tag ≠ 3 ∧ tag < 0xA0)
    (hread : ∀ rest objects,
      unpackScalar tag (body ++ rest) objects = some (.fresh scalar rest objects)) :
    ReadsAs scalar (UInt8.ofNat tag :: body) := by
  have hvalue : (UInt8.ofNat tag).toNat = tag := by
    rw [UInt8.toNat_ofNat']
    omega
  refine ⟨UInt8.ofNat tag, body, rfl, ?_, ?_⟩
  · rwa [IsScalarTag, hvalue]
  · rwa [hvalue]

/-- An integer is read with the width it was written in. -/
theorem readsAs_int {value : Nat} {size : Option Nat} {packed : Bytes}
    (hpack : OpackScalar.packInt value size = some packed) :
    ReadsAs (.int value (OpackScalar.writtenWidth value size)) packed := by
  rw [OpackScalar.packInt_eq] at hpack
  cases hwidth : OpackScalar.writtenWidth value size with
  | none =>
      have hsmall := (OpackScalar.writtenWidth_eq_none.mp hwidth).2
      simp only [hwidth, Option.some.injEq] at hpack
      rw [← hpack]
      exact .of_tag (by omega) fun rest objects => unpackScalar_small hsmall rest objects
  | some width =>
      have hcases := OpackScalar.writtenWidth_cases hwidth
      have hlog : width.log2 ≤ 3 := by
        obtain rfl | rfl | rfl | rfl := hcases <;> decide
      simp only [hwidth, toBytes?] at hpack
      split at hpack
      next hvalue =>
        simp only [Option.map_some, Option.some.injEq] at hpack
        rw [← hpack]
        exact .of_tag (by omega) fun rest objects => unpackScalar_sized hcases hvalue rest objects
      next => cases hpack

theorem readsAs_longStr (width : Nat) (hpos : 0 < width) (hwidth : width ≤ 4) {text : String}
    (hlength : (utf8 text).length < 256 ^ width) :
    ReadsAs (.str text)
      (UInt8.ofNat (0x60 + width) :: (littleEndian width (utf8 text).length ++ utf8 text)) := by
  apply ReadsAs.of_tag (by omega)
  intro rest objects
  rw [List.append_assoc]
  exact unpackScalar_longStr hpos hwidth hlength rest objects

theorem readsAs_str {text : String} {packed : Bytes}
    (hpack : OpackScalar.packStr (utf8 text) = some packed) : ReadsAs (.str text) packed := by
  simp only [OpackScalar.packStr] at hpack
  split_ifs at hpack with hshort hone htwo hthree hfour <;>
    simp only [Option.some.injEq] at hpack <;> rw [← hpack]
  · exact .of_tag (by omega) fun rest objects => unpackScalar_shortStr hshort rest objects
  · exact readsAs_longStr 1 (by omega) (by omega) (by omega)
  · exact readsAs_longStr 2 (by omega) (by omega) (by omega)
  · exact readsAs_longStr 3 (by omega) (by omega) (by omega)
  · exact readsAs_longStr 4 (by omega) (by omega) (by omega)

theorem readsAs_longBytes {tag width : Nat} (htag : 0x91 ≤ tag ∧ tag ≤ 0x94)
    (hwidth : width = 2 ^ (tag % 16 - 1)) {data : Bytes} (hlength : data.length < 256 ^ width) :
    ReadsAs (.bytes data) (UInt8.ofNat tag :: (littleEndian width data.length ++ data)) := by
  apply ReadsAs.of_tag (by omega)
  intro rest objects
  rw [List.append_assoc]
  exact unpackScalar_longBytes htag hwidth hlength rest objects

theorem readsAs_bytes {data packed : Bytes} (hpack : OpackScalar.packBytes data = some packed) :
    ReadsAs (.bytes data) packed := by
  simp only [OpackScalar.packBytes] at hpack
  split_ifs at hpack with hshort hone htwo hfour height <;>
    simp only [Option.some.injEq] at hpack <;> rw [← hpack]
  · exact .of_tag (by omega) fun rest objects => unpackScalar_shortBytes hshort rest objects
  · exact @readsAs_longBytes 0x91 1 (by omega) rfl _ (by omega)
  · exact @readsAs_longBytes 0x92 2 (by omega) rfl _ (by omega)
  · exact @readsAs_longBytes 0x93 4 (by omega) rfl _ (by omega)
  · exact @readsAs_longBytes 0x94 8 (by omega) rfl _ (by omega)

/-- A packed scalar is decoded as it was received. -/
theorem readsAs_pack {scalar : OpackScalar} {packed : Bytes} (hpack : scalar.pack = some packed) :
    ReadsAs scalar.received packed := by
  cases scalar with
  | null =>
      cases hpack
      exact @ReadsAs.of_tag _ 4 _ (by omega) fun rest objects => rfl
  | bool value =>
      cases hpack
      cases value with
      | false => exact @ReadsAs.of_tag _ 2 _ (by omega) fun rest objects => rfl
      | true => exact @ReadsAs.of_tag _ 1 _ (by omega) fun rest objects => rfl
  | int value size => exact readsAs_int hpack
  | float bits =>
      cases hpack
      exact @ReadsAs.of_tag _ 0x36 _ (by omega) fun rest objects =>
        unpackScalar_float bits rest objects
  | str text => exact readsAs_str hpack
  | bytes data => exact readsAs_bytes hpack
  | uuid value =>
      cases hpack
      exact @ReadsAs.of_tag _ 5 _ (by omega) fun rest objects => unpackScalar_uuid value rest objects

end CompanionBridge
