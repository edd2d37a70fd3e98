import CompanionBridge.Library.PrefixCodes
import CompanionBridge.Protocol.OpackReadBack

/-!
# Whole items

The bytes an encoding is made of, said of the bytes alone: a tag and all the
payload it declares, or an opening and as many items as it counts. No whole item
starts another one.
-/

namespace CompanionBridge

open PrefixCodes

/-! ## The payload of a scalar -/

/-- How many bytes a tag declares to follow it. Where a length is declared first,
the payload counts both; a tag that opens a container has none. -/
def scalarPayload (tag : Nat) (body : Bytes) : Option Nat :=
  if tag = 0x01 then some 0
  else if tag = 0x02 then some 0
  else if tag = 0x04 then some 0
  else if tag = 0x05 then some 16
  else if tag = 0x06 then some 8
  else if 0x08 ≤ tag ∧ tag ≤ 0x2F then some 0
  else if tag = 0x35 then some 4
  else if tag = 0x36 then some 8
  else if tag / 16 = 3 then some (2 ^ (tag % 16))
  else if 0x40 ≤ tag ∧ tag ≤ 0x60 then some (tag - 0x40)
  -- the length field and the text it announces
  else if 0x60 < tag ∧ tag ≤ 0x64 then
    some (tag % 16 + fromLittleEndian (body.take (tag % 16)))
  else if 0x70 ≤ tag ∧ tag ≤ 0x90 then some (tag - 0x70)
  else if 0x91 ≤ tag ∧ tag ≤ 0x94 then
    some (2 ^ (tag % 16 - 1) + fromLittleEndian (body.take (2 ^ (tag % 16 - 1))))
  else if 0xA0 ≤ tag ∧ tag ≤ 0xC0 then some 0
  else if 0xC1 ≤ tag ∧ tag ≤ 0xC4 then some (tag - 0xC0)
  else none

/-- The same decoded value before other data. -/
def OpackDecoded.leaving (decoded : OpackDecoded) (rest : Bytes) : OpackDecoded :=
  { decoded with remaining := rest }

namespace OpackDecoded

@[simp] theorem leaving_value (decoded : OpackDecoded) (rest : Bytes) :
    (decoded.leaving rest).value = decoded.value := rfl

@[simp] theorem leaving_object (decoded : OpackDecoded) (rest : Bytes) :
    (decoded.leaving rest).object = decoded.object := rfl

@[simp] theorem leaving_remaining (decoded : OpackDecoded) (rest : Bytes) :
    (decoded.leaving rest).remaining = rest := rfl

@[simp] theorem leaving_objects (decoded : OpackDecoded) (rest : Bytes) :
    (decoded.leaving rest).objects = decoded.objects := rfl

@[simp] theorem leaving_loose (value : OpackValue) (remaining rest : Bytes)
    (objects : List OpackScalar) :
    (loose value remaining objects).leaving rest = loose value rest objects := rfl

@[simp] theorem leaving_kept (value : OpackScalar) (remaining rest : Bytes)
    (objects : List OpackScalar) :
    (kept value remaining objects).leaving rest = kept value rest objects := by
  rw [kept, kept]
  split_ifs <;> rfl

@[simp] theorem leaving_leaving (decoded : OpackDecoded) (first second : Bytes) :
    (decoded.leaving first).leaving second = decoded.leaving second := rfl

/-- What is left over does not matter to a reference. -/
theorem referenced_leaving (index : Nat) (remaining rest : Bytes) (objects : List OpackScalar) :
    (referenced index remaining objects).map (leaving · rest) = referenced index rest objects := by
  rw [referenced, referenced, Option.map_map]
  rfl

end OpackDecoded

/-- A scalar is read off its payload: the bytes after it are only handed on, and
what declares none is no scalar. -/
structure ReadOff (body : Bytes) (size : Option Nat) (read : Bytes → Option OpackDecoded) :
    Prop where
  payload : ∀ count, size = some count →
    read body = (read (body.take count)).map (·.leaving (body.drop count))
  missing : size = none → read body = none

section Payloads

variable {body : Bytes} {objects : List OpackScalar}

theorem readOff_none : ReadOff body none fun _ => none :=
  ⟨fun _ hsize => (by cases hsize), fun _ => rfl⟩

theorem readOff_ite {condition : Prop} [Decidable condition] {first second : Option Nat}
    {read other : Bytes → Option OpackDecoded} (hfirst : condition → ReadOff body first read)
    (hsecond : ¬condition → ReadOff body second other) :
    ReadOff body (if condition then first else second)
      fun data => if condition then read data else other data := by
  by_cases hcondition : condition
  · simp only [if_pos hcondition]
    exact hfirst hcondition
  · simp only [if_neg hcondition]
    exact hsecond hcondition

theorem readOff_loose (value : OpackScalar) :
    ReadOff body (some 0) fun data => some (.loose (.scalar value) data objects) := by
  refine ⟨?_, fun hsize => by cases hsize⟩
  intro count hsize
  cases hsize
  rfl

/-- What only the first bytes decide is read off them. -/
theorem readOff_take (count : Nat) (value : Bytes → Option OpackScalar) :
    ReadOff body (some count) fun data =>
      (value (data.take count)).map fun scalar => .kept scalar (data.drop count) objects := by
  refine ⟨?_, fun hsize => by cases hsize⟩
  intro other hsize
  cases hsize
  rw [List.take_take, Nat.min_self]
  cases value (body.take count) with
  | none => rfl
  | some scalar => simp

/-- A value whose length stands before it. -/
theorem readOff_wide (width : Nat) (value : Bytes → Option OpackScalar) :
    ReadOff body (some (width + fromLittleEndian (body.take width))) fun data =>
      (value ((data.drop width).take (fromLittleEndian (data.take width)))).map fun scalar =>
        .kept scalar (data.drop (width + fromLittleEndian (data.take width))) objects := by
  refine ⟨?_, fun hsize => by cases hsize⟩
  intro other hsize
  cases hsize
  generalize hlength : fromLittleEndian (body.take width) = length
  have htake : (body.take (width + length)).take width = body.take width := by
    rw [List.take_take, Nat.min_eq_left (by omega)]
  have hdrop : ((body.take (width + length)).drop width).take length =
      (body.drop width).take length := by
    rw [List.drop_take, List.take_take, Nat.add_sub_cancel_left, Nat.min_self]
  simp only [htake, hlength, hdrop]
  cases value ((body.drop width).take length) with
  | none => rfl
  | some scalar => simp

/-- A reference whose index stands in the bytes after its tag. -/
theorem readOff_referenced (count : Nat) (index : Bytes → Nat) :
    ReadOff body (some count) fun data =>
      OpackDecoded.referenced (index (data.take count)) (data.drop count) objects := by
  refine ⟨?_, fun hsize => by cases hsize⟩
  intro other hsize
  cases hsize
  rw [List.take_take, Nat.min_self, OpackDecoded.referenced_leaving]

theorem ReadOff.congr {size : Option Nat} {read other : Bytes → Option OpackDecoded}
    (hread : ReadOff body size read) (hsame : ∀ data, other data = read data) :
    ReadOff body size other := by
  rw [funext hsame]
  exact hread

/-- A payload of one length that is checked before it is used. -/
theorem readOff_checked (count : Nat) (value : Bytes → OpackScalar) :
    ReadOff body (some count) fun data =>
      if (data.take count).length = count then
        some (.kept (value (data.take count)) (data.drop count) objects)
      else none := by
  have hread := @readOff_take body objects count fun payload =>
    if payload.length = count then some (value payload) else none
  apply hread.congr
  intro data
  split_ifs <;> rfl

theorem readOff_uuid :
    ReadOff body (some 16) fun data =>
      if hlength : (data.take 16).length = 16 then
        some (.kept (.uuid ⟨data.take 16, hlength⟩) (data.drop 16) objects)
      else none := by
  have hread := @readOff_take body objects 16 fun payload =>
    if hlength : payload.length = 16 then some (.uuid ⟨payload, hlength⟩) else none
  apply hread.congr
  intro data
  split_ifs <;> rfl

theorem readOff_shortText (count : Nat) :
    ReadOff body (some count) fun data =>
      (decodeUtf8 (data.take count)).map fun text => .kept (.str text) (data.drop count) objects := by
  apply (readOff_take count fun payload => (decodeUtf8 payload).map .str).congr
  intro data
  rw [Option.map_map]
  rfl

theorem readOff_longText (width : Nat) :
    ReadOff body (some (width + fromLittleEndian (body.take width))) fun data =>
      (decodeUtf8 ((data.drop width).take (fromLittleEndian (data.take width)))).map fun text =>
        .kept (.str text) (data.drop (width + fromLittleEndian (data.take width))) objects := by
  apply (readOff_wide width fun payload => (decodeUtf8 payload).map .str).congr
  intro data
  rw [Option.map_map]
  rfl

/-- Every tag of a scalar reads off the payload it declares. -/
theorem unpackScalar_readOff (tag : Nat) :
    ReadOff body (scalarPayload tag body) fun data => unpackScalar tag data objects := by
  unfold scalarPayload unpackScalar
  dsimp only
  refine readOff_ite (fun _ => readOff_loose _) fun _ => ?_
  refine readOff_ite (fun _ => readOff_loose _) fun _ => ?_
  refine readOff_ite (fun _ => readOff_loose _) fun _ => ?_
  refine readOff_ite (fun _ => readOff_uuid) fun _ => ?_
  refine readOff_ite (fun _ => readOff_take 8 fun payload =>
    some (.int (fromLittleEndian payload) none)) fun _ => ?_
  refine readOff_ite (fun _ => readOff_loose _) fun _ => ?_
  refine readOff_ite (fun _ => readOff_checked 4 fun payload =>
    .float (UInt64.ofNat (widenFloat (fromLittleEndian payload)))) fun _ => ?_
  refine readOff_ite (fun _ => readOff_checked 8 fun payload =>
    .float (UInt64.ofNat (fromLittleEndian payload))) fun _ => ?_
  refine readOff_ite (fun _ => readOff_take _ fun payload =>
    some (.int (fromLittleEndian payload) (some (2 ^ (tag % 16))))) fun _ => ?_
  refine readOff_ite (fun _ => readOff_shortText _) fun _ => ?_
  refine readOff_ite (fun _ => readOff_longText _) fun _ => ?_
  refine readOff_ite (fun _ => readOff_take _ fun payload => some (.bytes payload)) fun _ => ?_
  refine readOff_ite (fun _ => readOff_wide _ fun payload => some (.bytes payload)) fun _ => ?_
  refine readOff_ite (fun _ => readOff_referenced 0 fun _ => tag - 0xA0) fun _ => ?_
  refine readOff_ite (fun _ => readOff_referenced _ fromLittleEndian) fun _ => ?_
  exact readOff_none

/-! ## A declared length -/

/-- What a payload declares stays declared when the data after it changes. -/
def Lasting (body : Bytes) (size : Bytes → Option Nat) : Prop :=
  ∀ count, size body = some count → count ≤ body.length →
    ∀ rest, size (body.take count ++ rest) = some count

theorem lasting_ite {condition : Prop} [Decidable condition] {first second : Bytes → Option Nat}
    (hfirst : Lasting body first) (hsecond : Lasting body second) :
    Lasting body fun data => if condition then first data else second data := by
  by_cases hcondition : condition
  · simp only [if_pos hcondition]
    exact hfirst
  · simp only [if_neg hcondition]
    exact hsecond

theorem lasting_const (size : Option Nat) : Lasting body fun _ => size :=
  fun _ hsize _ _ => hsize

/-- The length of a payload is known once its own bytes are there. -/
theorem lasting_wide (width : Nat) :
    Lasting body fun data => some (width + fromLittleEndian (data.take width)) := by
  intro count hcount hlength rest
  cases hcount
  have htake : (body.take (width + fromLittleEndian (body.take width)) ++ rest).take width =
      body.take width := by
    rw [List.take_append_of_le_length (by rw [List.length_take]; omega), List.take_take,
      Nat.min_eq_left (by omega)]
  dsimp only
  rw [htake]

theorem scalarPayload_lasting (tag : Nat) : Lasting body (scalarPayload tag) := by
  unfold scalarPayload
  repeat' apply lasting_ite
  all_goals
    first
    | exact lasting_const _
    | exact lasting_wide _

/-- A payload that is there is read the same whatever comes after it. -/
theorem unpackScalar_extent {tag size : Nat} {decoded : OpackDecoded}
    (hsize : scalarPayload tag body = some size) (hlength : size ≤ body.length)
    (hdecoded : unpackScalar tag body objects = some decoded) (rest : Bytes) :
    unpackScalar tag (body.take size ++ rest) objects = some (decoded.leaving rest) := by
  have hlasting := scalarPayload_lasting tag size hsize hlength rest
  have hwidth : (body.take size).length = size := by
    rw [List.length_take]
    omega
  rw [(unpackScalar_readOff tag).payload size hsize] at hdecoded
  obtain ⟨alone, halone, rfl⟩ := Option.map_eq_some_iff.mp hdecoded
  rw [(unpackScalar_readOff tag).payload size hlasting, take_append_of_length hwidth,
    drop_append_of_length hwidth, halone]
  rfl

/-- What a scalar leaves over is the rest after its payload. -/
theorem unpackScalar_remaining {tag : Nat} {decoded : OpackDecoded}
    (hdecoded : unpackScalar tag body objects = some decoded) :
    ∃ size, scalarPayload tag body = some size ∧ decoded.remaining = body.drop size := by
  have hread := @unpackScalar_readOff body objects tag
  cases hsize : scalarPayload tag body with
  | none =>
      rw [hread.missing hsize] at hdecoded
      cases hdecoded
  | some size =>
      rw [hread.payload size hsize] at hdecoded
      obtain ⟨alone, _, rfl⟩ := Option.map_eq_some_iff.mp hdecoded
      exact ⟨size, rfl, rfl⟩

end Payloads

/-! ## Whole items -/

/-- How many items follow an opening before its end: a list of them, or keys and
values by turns. -/
def Declares (tag items : Nat) : Prop :=
  tag / 16 = 0xD ∧ (tag % 16 = 0xF ∨ items = tag % 16) ∨
    tag / 32 = 7 ∧ (tag % 16 = 0xF ∧ items % 2 = 0 ∨ items = 2 * (tag % 16))

/-- Only the tags of containers declare items. -/
theorem Declares.opening {tag items : Nat} (hdeclares : Declares tag items) :
    tag / 16 = 0xD ∨ tag / 32 = 7 :=
  hdeclares.imp And.left And.left

theorem scalarPayload_opening {tag : Nat} (htag : tag / 16 = 0xD ∨ tag / 32 = 7) (body : Bytes) :
    scalarPayload tag body = none := by
  rw [scalarPayload, if_neg (by omega), if_neg (by omega), if_neg (by omega), if_neg (by omega),
    if_neg (by omega), if_neg (by omega), if_neg (by omega), if_neg (by omega),
    if_neg (by omega), if_neg (by omega), if_neg (by omega), if_neg (by omega),
    if_neg (by omega), if_neg (by omega), if_neg (by omega)]

/-- The bytes of one item with everything it declares. -/
inductive WholeItem : Bytes → Prop where
  | scalar {tag : UInt8} {body : Bytes} (hsize : scalarPayload tag.toNat body = some body.length) :
      WholeItem (tag :: body)
  | container {tag : UInt8} {items : List Bytes} (hcount : Declares tag.toNat items.length)
      (hitems : ∀ item ∈ items, WholeItem item) :
      WholeItem (tag :: (items.flatten ++ closing (tag.toNat % 16)))

/-- No item starts with the terminator. -/
theorem wholeItem_starts : StartsApart WholeItem 3 := by
  intro word hword
  cases hword with
  | @scalar tag body hsize =>
      refine ⟨tag, body, rfl, ?_⟩
      rintro rfl
      cases hsize
  | @container tag items hcount hitems =>
      refine ⟨tag, _, rfl, ?_⟩
      rintro rfl
      obtain ⟨htag, _⟩ | ⟨htag, _⟩ := hcount
      · cases htag
      · cases htag

/-- What a container holds is read in one way. -/
theorem containers_aligned {count : Nat} {items others : List Bytes} {rest tail : Bytes}
    (hapart : ∀ item ∈ items, SetApart WholeItem item) (hitems : ∀ item ∈ items, WholeItem item)
    (hothers : ∀ item ∈ others, WholeItem item)
    (hlength : count ≠ 0xF → items.length = others.length)
    (heq : items.flatten ++ closing count ++ rest = others.flatten ++ closing count ++ tail) :
    items = others := by
  rw [closing, List.append_assoc, List.append_assoc] at heq
  by_cases hcount : count = 0xF
  · rw [if_pos hcount] at heq
    exact flatten_stopped wholeItem_starts hapart hitems hothers heq
  · rw [if_neg hcount] at heq
    have hsame := hlength hcount
    obtain ⟨more, hmore, _⟩ := flatten_aligned hapart hothers (Nat.le_of_eq hsame) heq
    have hnone : more = [] := by
      rw [hmore, List.length_append] at hsame
      exact List.length_eq_zero_iff.mp (by omega)
    rw [hmore, hnone, List.append_nil]

/-- Two payloads after one tag that start the same bytes are the same. -/
theorem payloads_aligned {tag : Nat} {body other rest tail : Bytes}
    (hbody : scalarPayload tag body = some body.length)
    (hother : scalarPayload tag other = some other.length) (heq : body ++ rest = other ++ tail) :
    body = other := by
  have hfirst := scalarPayload_lasting tag _ hbody (Nat.le_refl _) rest
  have hsecond := scalarPayload_lasting tag _ hother (Nat.le_refl _) tail
  rw [List.take_length] at hfirst hsecond
  rw [heq, hsecond, Option.some.injEq] at hfirst
  exact (List.append_inj heq hfirst.symm).1

/-- No item starts another one. -/
theorem wholeItem_prefixCode : PrefixCode WholeItem := by
  intro word hword
  induction hword with
  | @scalar tag body hsize =>
      intro other rest others hother heq
      cases hother with
      | @scalar tag' body' hsize' =>
          obtain ⟨rfl, hbody⟩ := List.cons.inj heq
          rw [payloads_aligned hsize hsize' hbody]
      | @container tag' items' hcount' hitems' =>
          obtain rfl := (List.cons.inj heq).1
          rw [scalarPayload_opening hcount'.opening] at hsize
          cases hsize
  | @container tag items hcount hitems ih =>
      intro other rest others hother heq
      cases hother with
      | @scalar tag' body' hsize' =>
          obtain rfl := (List.cons.inj heq).1
          rw [scalarPayload_opening hcount.opening] at hsize'
          cases hsize'
      | @container tag' items' hcount' hitems' =>
          obtain ⟨rfl, hbody⟩ := List.cons.inj heq
          rw [containers_aligned ih hitems hitems' _ hbody]
          unfold Declares at hcount hcount'
          omega

end CompanionBridge
