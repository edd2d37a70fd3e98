import CompanionBridge.Protocol.TlvItems
import Mathlib.Algebra.GroupWithZero.Nat

/-!
# The TLV8 round trip

The writer cuts a value into fragments of 255 bytes and a last shorter one, and
writes nothing for an empty value. The reader joins them again as long as its
recursion reaches the last fragment.
-/

namespace CompanionBridge

/-- The fragments of one value, as items. -/
def valueItems (tag : UInt8) : Nat → Bytes → List TlvItem
  | 0, _ => []
  | _ + 1, [] => []
  | fuel + 1, byte :: rest =>
      { tag := tag
        value := (byte :: rest).take 255
        fits := Nat.lt_succ_of_le ((List.length_take_le 255 (byte :: rest))) } ::
      valueItems tag fuel ((byte :: rest).drop 255)

def mapItems (map : TlvMap) : List TlvItem :=
  map.flatMap fun (tag, value) => valueItems tag value.length value

/-- How many fragments a mapping is written in. -/
def fragmentCount (map : TlvMap) : Nat :=
  (map.map fun (_, value) => (value.length + 254) / 255).sum

/-- A mapping without its empty values. -/
def withoutEmpty (map : TlvMap) : TlvMap :=
  map.filter fun (_, value) => value ≠ []

theorem withoutEmpty_append (map late : TlvMap) :
    withoutEmpty (map ++ late) = withoutEmpty map ++ withoutEmpty late :=
  List.filter_append map late

theorem writeTlvValue_eq (tag : UInt8) (fuel : Nat) (value : Bytes) :
    writeTlvValue tag fuel value = itemBytes (valueItems tag fuel value) := by
  induction fuel generalizing value with
  | zero => rfl
  | succ fuel ih =>
      cases value with
      | nil => rfl
      | cons byte rest =>
          have hsize : (byte :: rest).take (min (byte :: rest).length 255) =
              (byte :: rest).take 255 := by
            rw [Nat.min_comm, ← List.take_take, List.take_length]
          have hdrop : (byte :: rest).drop (min (byte :: rest).length 255) =
              (byte :: rest).drop 255 := by
            by_cases hlong : 255 ≤ (byte :: rest).length
            · rw [Nat.min_eq_right hlong]
            · have hshort := Nat.le_of_not_le hlong
              rw [Nat.min_eq_left hshort, List.drop_length, List.drop_of_length_le hshort]
          rw [writeTlvValue, valueItems, itemBytes, List.flatMap_cons, ← itemBytes, ← ih,
            TlvItem.bytes, List.length_take, Nat.min_comm 255, hsize, hdrop]
          exact fun hnil => List.cons_ne_nil byte rest hnil

theorem writeTlv_eq (map : TlvMap) : writeTlv map = itemBytes (mapItems map) := by
  rw [writeTlv, mapItems, itemBytes, List.flatMap_assoc]
  apply List.flatMap_congr
  intro entry _
  exact writeTlvValue_eq entry.1 entry.2.length entry.2

theorem valueItems_tag {tag : UInt8} {fuel : Nat} {value : Bytes} {item : TlvItem}
    (hitem : item ∈ valueItems tag fuel value) : item.tag = tag := by
  induction fuel generalizing value with
  | zero => cases hitem
  | succ fuel ih =>
      cases value with
      | nil => cases hitem
      | cons byte rest =>
          rcases List.mem_cons.mp hitem with rfl | hrest
          · rfl
          · exact ih hrest

/-- The fragments of a value are the value. -/
theorem valueItems_value {tag : UInt8} {fuel : Nat} {value : Bytes} (hfuel : value.length ≤ fuel) :
    (valueItems tag fuel value).flatMap TlvItem.value = value := by
  induction fuel generalizing value with
  | zero =>
      rw [List.eq_nil_of_length_eq_zero (Nat.le_zero.mp hfuel)]
      rfl
  | succ fuel ih =>
      cases value with
      | nil => rfl
      | cons byte rest =>
          have hrest : ((byte :: rest).drop 255).length ≤ fuel := by
            rw [List.length_drop]
            rw [List.length_cons] at hfuel ⊢
            omega
          rw [valueItems, List.flatMap_cons, ih hrest, List.take_append_drop]

/-- One for each 255 bytes that are begun. -/
theorem valueItems_length {tag : UInt8} {fuel : Nat} {value : Bytes}
    (hfuel : value.length ≤ fuel) :
    (valueItems tag fuel value).length = (value.length + 254) / 255 := by
  induction fuel generalizing value with
  | zero =>
      rw [List.eq_nil_of_length_eq_zero (Nat.le_zero.mp hfuel)]
      rfl
  | succ fuel ih =>
      cases value with
      | nil => rfl
      | cons byte rest =>
          have hrest : ((byte :: rest).drop 255).length ≤ fuel := by
            rw [List.length_drop]
            rw [List.length_cons] at hfuel ⊢
            omega
          rw [valueItems, List.length_cons, ih hrest, List.length_drop, List.length_cons]
          omega

/-- The number of fragments is the number of calls that reading takes. -/
theorem mapItems_length (map : TlvMap) : (mapItems map).length = fragmentCount map := by
  rw [mapItems, List.length_flatMap, fragmentCount]
  apply congrArg List.sum
  apply List.map_congr_left
  intro entry _
  exact valueItems_length (le_refl _)

/-- The fragments of one tag are joined where they follow each other. -/
theorem TlvMap.extend_last {map : TlvMap} {tag : UInt8} (held value : Bytes)
    (htag : tag ∉ map.map Prod.fst) :
    TlvMap.extend (map ++ [(tag, held)]) tag value = map ++ [(tag, held ++ value)] := by
  induction map with
  | nil => exact if_pos rfl
  | cons entry rest ih =>
      rw [List.map_cons, List.mem_cons, not_or] at htag
      rw [List.cons_append, TlvMap.extend, if_neg (Ne.symm htag.1), ih htag.2, List.cons_append]

/-- Fragments of a new tag are joined into one new value. -/
theorem foldl_extend_fresh {map : TlvMap} {tag : UInt8} {items : List TlvItem}
    (hitems : ∀ item ∈ items, item.tag = tag) (htag : tag ∉ map.map Prod.fst) :
    items.foldl (fun map item => map.extend item.tag item.value) map =
      if items = [] then map else map ++ [(tag, items.flatMap TlvItem.value)] := by
  induction items using List.reverseRecOn with
  | nil => rfl
  | append_singleton items item ih =>
      have hitem := hitems item (List.mem_append_right items (List.mem_singleton_self item))
      rw [List.foldl_append, List.foldl_cons, List.foldl_nil,
        ih fun other hother => hitems other (List.mem_append_left _ hother),
        if_neg (List.append_ne_nil_of_right_ne_nil items (List.cons_ne_nil item [])), hitem]
      by_cases hnone : items = []
      · rw [if_pos hnone, TlvMap.extend_of_notMem item.value htag, hnone,
          List.nil_append, List.flatMap_singleton]
      · rw [if_neg hnone, TlvMap.extend_last _ item.value htag, List.flatMap_append,
          List.flatMap_singleton]

/-- What is joined from the fragments of a mapping. -/
theorem tagwise_mapItems {map : TlvMap} (hkeys : (map.map Prod.fst).Nodup) :
    tagwise (mapItems map) = withoutEmpty map := by
  induction map using List.reverseRecOn with
  | nil => rfl
  | append_singleton map entry ih =>
      obtain ⟨tag, value⟩ := entry
      rw [List.map_append, List.nodup_append] at hkeys
      have hfresh : tag ∉ map.map Prod.fst := fun htag =>
        hkeys.2.2 tag htag tag (List.mem_singleton_self tag) rfl
      have hleft : tag ∉ (withoutEmpty map).map Prod.fst := by
        intro htag
        obtain ⟨entry, hentry, hsame⟩ := List.mem_map.mp htag
        exact hfresh (List.mem_map.mpr ⟨entry, (List.mem_filter.mp hentry).1, hsame⟩)
      rw [mapItems, List.flatMap_append, List.flatMap_singleton, ← mapItems, tagwise_append,
        ih hkeys.1, foldl_extend_fresh (fun item hitem => valueItems_tag hitem) hleft,
        valueItems_value (le_refl _), withoutEmpty_append]
      cases value with
      | nil => exact (List.append_nil _).symm
      | cons byte rest => rfl

/-- A mapping is read back, without its empty values, exactly when it has fewer
fragments than the reader has levels of recursion. -/
theorem tlv_round_trip_iff (depth : Nat) {map : TlvMap} (hkeys : (map.map Prod.fst).Nodup) :
    readTlv depth (writeTlv map) = some (withoutEmpty map) ↔ fragmentCount map < depth := by
  rw [writeTlv_eq, readTlv_itemBytes, mapItems_length, tagwise_mapItems hkeys]
  by_cases hdepth : fragmentCount map < depth
  · simp [hdepth]
  · simp [hdepth]

theorem tlv_round_trip_fragments :
    readTlv 1000 (writeTlv [(6, List.replicate 510 7), (1, []), (3, [9])]) =
      some (withoutEmpty [(6, List.replicate 510 7), (1, []), (3, [9])]) ↔
        fragmentCount [(6, List.replicate 510 7), (1, []), (3, [9])] < 1000 :=
  tlv_round_trip_iff 1000 (by decide)

/-- More fragments than calls are not read. -/
theorem readTlv_writeTlv_deep {depth : Nat} {map : TlvMap} (hdepth : depth ≤ fragmentCount map) :
    readTlv depth (writeTlv map) = none := by
  rw [writeTlv_eq, readTlv_itemBytes, mapItems_length, if_neg (Nat.not_lt_of_le hdepth)]

theorem fragmentCount_full (tag : UInt8) (count : Nat) :
    fragmentCount [(tag, List.replicate (255 * count) 0)] = count := by
  show ((List.replicate (255 * count) (0 : UInt8)).length + 254) / 255 + 0 = count
  rw [List.length_replicate]
  omega

/-- A value of a thousand fragments takes the reader past a thousand levels. -/
theorem tlv_round_trip_fails :
    readTlv 1000 (writeTlv [(5, List.replicate (255 * 1000) 0)]) ≠
      some (withoutEmpty [(5, List.replicate (255 * 1000) 0)]) := by
  rw [readTlv_writeTlv_deep (Nat.le_of_eq (fragmentCount_full 5 1000).symm)]
  exact Option.some_ne_none _ ∘ Eq.symm

end CompanionBridge
