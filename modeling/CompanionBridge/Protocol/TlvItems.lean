import CompanionBridge.Protocol.Tlv
import Mathlib.Data.List.Induction

/-!
# Well-formed TLV8

An item is a tag, a length and that many bytes. The reader keeps reading items
off the front of its data: of complete items it returns the values of each tag
joined in order, and what is left over decides how it ends.
-/

namespace CompanionBridge

/-- A complete item; its length fits its length byte. -/
structure TlvItem where
  tag : UInt8
  value : Bytes
  fits : value.length < 256

namespace TlvItem

def bytes (item : TlvItem) : Bytes :=
  item.tag :: UInt8.ofNat item.value.length :: item.value

theorem toNat_length (item : TlvItem) :
    (UInt8.ofNat item.value.length).toNat = item.value.length :=
  UInt8.toNat_ofNat_of_lt' item.fits

end TlvItem

def itemBytes (items : List TlvItem) : Bytes :=
  items.flatMap TlvItem.bytes

/-- The values of each tag joined in order, the tags in order of first occurrence. -/
def tagwise (items : List TlvItem) : TlvMap :=
  (items.map TlvItem.tag).eraseDups.map fun tag =>
    (tag, (items.filter fun item => item.tag = tag).flatMap TlvItem.value)

/-! ## Joining fragments -/

theorem TlvMap.extend_of_notMem {map : TlvMap} {tag : UInt8} (value : Bytes)
    (htag : tag ∉ map.map Prod.fst) : map.extend tag value = map ++ [(tag, value)] := by
  induction map with
  | nil => rfl
  | cons entry rest ih =>
      rw [List.map_cons, List.mem_cons, not_or] at htag
      rw [TlvMap.extend, if_neg (Ne.symm htag.1), ih htag.2, List.cons_append]

/-- A known tag has its value extended. -/
theorem TlvMap.extend_of_mem {map : TlvMap} {tag : UInt8} (value : Bytes)
    (hkeys : (map.map Prod.fst).Nodup) (htag : tag ∈ map.map Prod.fst) :
    map.extend tag value =
      map.map fun entry => if entry.1 = tag then (entry.1, entry.2 ++ value) else entry := by
  induction map with
  | nil => cases htag
  | cons entry rest ih =>
      obtain ⟨first, held⟩ := entry
      rw [List.map_cons, List.nodup_cons] at hkeys
      rw [List.map_cons, List.mem_cons] at htag
      by_cases hfirst : first = tag
      · have hrest : (rest.map fun entry =>
            if entry.1 = tag then (entry.1, entry.2 ++ value) else entry) = rest := by
          rw [List.map_congr_left, List.map_id]
          intro other hother
          have hne : other.1 ≠ tag := by
            intro hother'
            exact hkeys.1 (List.mem_map.mpr ⟨other, hother, hother'.trans hfirst.symm⟩)
          rw [if_neg hne]
          rfl
        rw [TlvMap.extend, if_pos hfirst, List.map_cons, if_pos hfirst, hrest]
      · rw [TlvMap.extend, if_neg hfirst, List.map_cons, if_neg hfirst,
          ih hkeys.2 (htag.resolve_left (Ne.symm hfirst))]

theorem eraseDups_snoc (tags : List UInt8) (tag : UInt8) :
    (tags ++ [tag]).eraseDups = tags.eraseDups ++ if tag ∈ tags then [] else [tag] := by
  rw [List.eraseDups_append]
  by_cases htag : tag ∈ tags
  · simp [List.removeAll, htag]
  · simp [List.removeAll, htag, List.eraseDups_cons]

theorem nodup_eraseDups (tags : List UInt8) : tags.eraseDups.Nodup := by
  induction tags using List.reverseRecOn with
  | nil => exact List.nodup_nil
  | append_singleton tags tag ih =>
      rw [eraseDups_snoc]
      by_cases htag : tag ∈ tags
      · rw [if_pos htag, List.append_nil]
        exact ih
      · rw [if_neg htag]
        refine ih.append (List.nodup_singleton tag) ?_
        rw [List.disjoint_singleton, List.mem_eraseDups]
        exact htag

/-- The tags of the map, in the order they first appear. -/
theorem tagwise_keys (items : List TlvItem) :
    (tagwise items).map Prod.fst = (items.map TlvItem.tag).eraseDups := by
  rw [tagwise, List.map_map]
  exact List.map_id _

/-- One more item extends the value of its tag. -/
theorem tagwise_snoc (items : List TlvItem) (item : TlvItem) :
    tagwise (items ++ [item]) = (tagwise items).extend item.tag item.value := by
  have hkeys : ((tagwise items).map Prod.fst).Nodup := by
    rw [tagwise_keys]
    exact nodup_eraseDups _
  by_cases htag : item.tag ∈ items.map TlvItem.tag
  · rw [TlvMap.extend_of_mem item.value hkeys (by rw [tagwise_keys]; simpa using htag), tagwise,
      tagwise, List.map_append, List.map_singleton, eraseDups_snoc, if_pos htag, List.append_nil,
      List.map_map]
    apply List.map_congr_left
    intro tag _
    by_cases hsame : tag = item.tag
    · simp [hsame]
    · simp [hsame, Ne.symm hsame]
  · rw [TlvMap.extend_of_notMem item.value (by rw [tagwise_keys]; simpa using htag), tagwise,
      tagwise, List.map_append, List.map_singleton, eraseDups_snoc, if_neg htag, List.map_append]
    congr 1
    · apply List.map_congr_left
      intro tag hmem
      have hne : item.tag ≠ tag := by
        rintro rfl
        exact htag (by simpa using hmem)
      simp [hne]
    · have hnone : (items.filter fun other => other.tag = item.tag) = [] := by
        rw [List.filter_eq_nil_iff]
        intro other hother hsame
        exact htag (of_decide_eq_true hsame ▸ List.mem_map_of_mem hother)
      simp [hnone]

/-! ## Reading items -/

theorem tagwise_append (items : List TlvItem) (late : List TlvItem) :
    tagwise (items ++ late) =
      late.foldl (fun map item => map.extend item.tag item.value) (tagwise items) := by
  induction late generalizing items with
  | nil => rw [List.append_nil, List.foldl_nil]
  | cons item rest ih =>
      rw [List.foldl_cons, ← tagwise_snoc, ← ih, List.append_assoc, List.singleton_append]

theorem parseTlv_cons (depth : Nat) (result : TlvMap) (item : TlvItem) (tail : Bytes) :
    parseTlv (depth + 1) result (item.bytes ++ tail) =
      parseTlv depth (result.extend item.tag item.value) tail := by
  rw [TlvItem.bytes, List.cons_append, List.cons_append, parseTlv, item.toNat_length,
    List.take_left, List.drop_left]

/-- Complete items are joined, one level of recursion for each. -/
theorem parseTlv_items (depth : Nat) (early items : List TlvItem) (tail : Bytes) :
    parseTlv depth (tagwise early) (itemBytes items ++ tail) =
      parseTlv (depth - items.length) (tagwise (early ++ items)) tail := by
  induction items generalizing depth early with
  | nil =>
      rw [List.append_nil]
      rfl
  | cons item rest ih =>
      cases depth with
      | zero =>
          rw [Nat.zero_sub, parseTlv, parseTlv]
      | succ depth =>
          rw [itemBytes, List.flatMap_cons, List.append_assoc, parseTlv_cons, ← tagwise_snoc]
          rw [List.length_cons, Nat.add_sub_add_right, ← List.singleton_append (l := rest),
            ← List.append_assoc]
          exact ih depth (early ++ [item])

theorem readTlv_items (depth : Nat) (items : List TlvItem) (tail : Bytes) :
    readTlv depth (itemBytes items ++ tail) =
      parseTlv (depth - items.length) (tagwise items) tail := by
  have hread := parseTlv_items depth [] items tail
  rw [List.nil_append] at hread
  exact hread

/-- Data made of complete items is read when there are fewer of them than levels. -/
theorem readTlv_itemBytes (depth : Nat) (items : List TlvItem) :
    readTlv depth (itemBytes items) =
      if items.length < depth then some (tagwise items) else none := by
  have hread := readTlv_items depth items []
  rw [List.append_nil] at hread
  rw [hread]
  by_cases hdepth : items.length < depth
  · obtain ⟨left, hleft⟩ := Nat.exists_eq_succ_of_ne_zero (Nat.sub_ne_zero_of_lt hdepth)
    rw [if_pos hdepth, hleft, parseTlv]
  · rw [if_neg hdepth, Nat.sub_eq_zero_of_le (Nat.le_of_not_lt hdepth), parseTlv]

/-- What complete items leave of some data: nothing, a lone tag, or a cut value. -/
inductive TlvTail : Bytes → Prop
  | nil : TlvTail []
  | loneTag (tag : UInt8) : TlvTail [tag]
  | cutValue (tag length : UInt8) (value : Bytes) (hcut : value.length < length.toNat) :
      TlvTail (tag :: length :: value)

/-- Any bytes are whole items and a tail that is none. -/
theorem exists_items_tail (data : Bytes) :
    ∃ items tail, data = itemBytes items ++ tail ∧ TlvTail tail := by
  induction hlength : data.length using Nat.strong_induction_on generalizing data with
  | _ size ih =>
      match data, hlength with
      | [], _ => exact ⟨[], [], rfl, .nil⟩
      | [tag], _ => exact ⟨[], [tag], rfl, .loneTag tag⟩
      | tag :: length :: rest, hlength =>
          by_cases hcut : rest.length < length.toNat
          · exact ⟨[], tag :: length :: rest, rfl, .cutValue tag length rest hcut⟩
          · have hvalue : (rest.take length.toNat).length = length.toNat :=
              List.length_take_of_le (Nat.le_of_not_lt hcut)
            have hsmaller : (rest.drop length.toNat).length < size := by
              rw [← hlength, List.length_drop, List.length_cons, List.length_cons]
              omega
            obtain ⟨items, tail, hsplit, htail⟩ :=
              ih _ hsmaller (rest.drop length.toNat) rfl
            refine ⟨⟨tag, rest.take length.toNat, by rw [hvalue]; exact length.toNat_lt⟩ :: items,
              tail, ?_, htail⟩
            have hlengthByte : UInt8.ofNat (rest.take length.toNat).length = length := by
              rw [hvalue, UInt8.ofNat_toNat]
            rw [itemBytes, List.flatMap_cons, TlvItem.bytes, hlengthByte, List.append_assoc,
              ← itemBytes, ← hsplit, List.cons_append, List.cons_append, List.take_append_drop]

/-- Data that ends inside a value is not made of complete items. -/
theorem itemBytes_ne_cut (items : List TlvItem) {others : List TlvItem} {tag length : UInt8}
    {value : Bytes} (hcut : value.length < length.toNat) :
    itemBytes items ≠ itemBytes others ++ tag :: length :: value := by
  induction others generalizing items with
  | nil =>
      cases items with
      | nil => exact fun hsame => by cases hsame
      | cons item rest =>
          intro hsame
          rw [itemBytes, List.flatMap_cons, TlvItem.bytes] at hsame
          simp only [List.cons_append, itemBytes, List.flatMap_nil, List.nil_append,
            List.cons.injEq] at hsame
          obtain ⟨-, hlength, hvalue⟩ := hsame
          have hshort := congrArg List.length hvalue
          rw [List.length_append] at hshort
          have hdeclared := item.toNat_length
          rw [hlength] at hdeclared
          omega
  | cons other others ih =>
      cases items with
      | nil => exact fun hsame => by cases hsame
      | cons item rest =>
          intro hsame
          simp only [itemBytes, List.flatMap_cons, TlvItem.bytes, List.cons_append,
            List.append_assoc, List.cons.injEq] at hsame
          obtain ⟨-, hlength, hvalue⟩ := hsame
          have hsize : item.value.length = other.value.length := by
            rw [← item.toNat_length, hlength, other.toNat_length]
          exact ih rest (List.append_inj_right hvalue hsize)

/-- The reader accepts this data exactly if it is made of complete items, and
joins their values. -/
structure ReadsItems (depth : Nat) (data : Bytes) : Prop where
  sound : ∀ map, readTlv depth data = some map →
    ∃ items, data = itemBytes items ∧ map = tagwise items
  complete : ∀ items, data = itemBytes items → readTlv depth data = some (tagwise items)

/-- Data with fewer items than levels of recursion, which does not end inside the
value of an item the reader gets to. -/
structure Readable (depth : Nat) (data : Bytes) : Prop where
  shallow : ∀ items, data = itemBytes items → items.length < depth
  uncut : ∀ items tag length value, data = itemBytes items ++ tag :: length :: value →
    value.length < length.toNat → depth ≤ items.length + 1

theorem parseTlv_cut (depth : Nat) (result : TlvMap) {tag length : UInt8} {value : Bytes}
    (hcut : value.length < length.toNat) :
    parseTlv (depth + 2) result (tag :: length :: value) = some (result.extend tag value) := by
  rw [parseTlv, List.take_of_length_le (Nat.le_of_lt hcut),
    List.drop_of_length_le (Nat.le_of_lt hcut), parseTlv]

/-- What is read of readable bytes is their items. -/
theorem Readable.sound {depth : Nat} {data : Bytes} (h : Readable depth data) {map : TlvMap}
    (hread : readTlv depth data = some map) :
    ∃ items, data = itemBytes items ∧ map = tagwise items := by
  obtain ⟨items, tail, rfl, htail⟩ := exists_items_tail data
  rw [readTlv_items] at hread
  cases htail with
  | nil =>
      refine ⟨items, List.append_nil _, ?_⟩
      cases hdepth : depth - items.length with
      | zero =>
          rw [hdepth, parseTlv] at hread
          cases hread
      | succ left =>
          rw [hdepth, parseTlv] at hread
          exact (Option.some.inj hread).symm
  | loneTag tag =>
      cases hdepth : depth - items.length with
      | zero =>
          rw [hdepth, parseTlv] at hread
          cases hread
      | succ left =>
          rw [hdepth, parseTlv] at hread
          cases hread
  | cutValue tag length value hcut =>
      have hdepth := h.uncut items tag length value rfl hcut
      have hleft : depth - items.length = 0 ∨ depth - items.length = 1 := by omega
      rcases hleft with hleft | hleft
      · rw [hleft, parseTlv] at hread
        cases hread
      · rw [hleft, parseTlv, parseTlv] at hread
        cases hread

theorem ReadsItems.readable {depth : Nat} {data : Bytes} (h : ReadsItems depth data) :
    Readable depth data where
  shallow := by
    intro items hitems
    by_contra hdeep
    have hread := h.complete items hitems
    rw [hitems, readTlv_itemBytes, if_neg hdeep] at hread
    cases hread
  uncut := by
    intro items tag length value hdata hcut
    by_contra hdepth
    obtain ⟨left, hleft⟩ : ∃ left, depth - items.length = left + 2 :=
      ⟨depth - items.length - 2, by omega⟩
    have hread : readTlv depth data = some ((tagwise items).extend tag value) := by
      rw [hdata, readTlv_items, hleft, parseTlv_cut left _ hcut]
    obtain ⟨complete, hcomplete, -⟩ := h.sound _ hread
    exact itemBytes_ne_cut complete hcut (hcomplete.symm.trans hdata)

theorem readTlv_wellFormed_iff (depth : Nat) (data : Bytes) :
    ReadsItems depth data ↔ Readable depth data := by
  refine ⟨ReadsItems.readable, fun h => ⟨fun map hread => h.sound hread, ?_⟩⟩
  rintro items rfl
  rw [readTlv_itemBytes, if_pos (h.shallow items rfl)]

/-- A declared length of five with one byte behind it is read as one byte. -/
theorem readTlv_wellFormed_fails : ¬ ReadsItems 1000 [1, 5, 0xAA] := by
  intro h
  obtain ⟨items, hitems, -⟩ := h.sound [(1, [0xAA])] rfl
  exact @itemBytes_ne_cut items [] _ _ _ (by decide : [(0xAA : UInt8)].length < 5)
    hitems.symm

end CompanionBridge
