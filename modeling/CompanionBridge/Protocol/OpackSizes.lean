import CompanionBridge.Protocol.OpackScalars

/-!
# How long a packed value is

Upper bounds on what the packer writes: a scalar, a reference to an earlier
object, and a container whose items are bounded.
-/

namespace CompanionBridge

theorem utf8_length_le (text : String) : (utf8 text).length ≤ 4 * text.length := by
  have hencoded : (utf8 text).length = text.toList.utf8Encode.size := by
    rw [String.utf8Encode_toList]
    rfl
  rw [hencoded, ← String.length_toList]
  induction text.toList with
  | nil => simp
  | cons char rest ih =>
      have hsize := char.utf8Size_le_four
      rw [List.utf8Encode_cons, List.utf8Encode_singleton, ByteArray.size_append,
        List.size_toByteArray, String.length_utf8EncodeChar, List.length_cons]
      omega

theorem packStr_length_le {encoded packed : Bytes}
    (hpacked : OpackScalar.packStr encoded = some packed) : packed.length ≤ encoded.length + 5 := by
  unfold OpackScalar.packStr at hpacked
  dsimp only at hpacked
  repeat' split at hpacked
  all_goals simp at hpacked
  all_goals
    subst hpacked
    simp [littleEndian_length]
  all_goals omega

theorem packInt_length_le {value : Nat} {size : Option Nat} {packed : Bytes}
    (hpacked : OpackScalar.packInt value size = some packed) : packed.length ≤ 9 := by
  unfold OpackScalar.packInt toBytes? at hpacked
  repeat' split at hpacked
  all_goals simp at hpacked
  all_goals
    subst hpacked
    simp [littleEndian_length]

theorem intern_length_le (packed : Bytes) (objects : List Bytes) :
    (intern packed objects).1.length ≤ packed.length + 9 := by
  unfold intern opackReference
  repeat' split
  all_goals simp [littleEndian_length]

/-- A container is no longer than its items allow. -/
theorem packItems_length_le {item : OpackValue → List Bytes → Option (Bytes × List Bytes)}
    {bound : Nat} {items : List OpackValue}
    (hbound : ∀ value ∈ items, ∀ {objects packed after},
      item value objects = some (packed, after) → packed.length ≤ bound)
    {objects after : List Bytes} {body : Bytes}
    (hpacked : packItems item items objects = some (body, after)) :
    body.length ≤ bound * items.length := by
  induction items generalizing objects body after with
  | nil =>
      cases hpacked
      exact Nat.zero_le _
  | cons first rest ih =>
      unfold packItems at hpacked
      simp only [Option.bind_eq_bind, Option.bind_eq_some_iff] at hpacked
      obtain ⟨⟨packed, middle⟩, hfirst, ⟨others, final⟩, hrest, hbody⟩ := hpacked
      cases hbody
      have hhead : packed.length ≤ bound := hbound first List.mem_cons_self hfirst
      have htail : others.length ≤ bound * rest.length :=
        ih (fun value hmem => hbound value (List.mem_cons_of_mem first hmem)) hrest
      rw [List.length_cons, Nat.mul_succ, Nat.add_comm]
      show (packed ++ others).length ≤ bound + bound * rest.length
      rw [List.length_append]
      exact Nat.add_le_add hhead htail

/-- A scalar is no longer than its own bytes, with or without the reference. -/
theorem packWith_scalar_length_le {value : OpackScalar} {bound : Nat}
    (hbound : ∀ held, value.pack = some held → held.length ≤ bound) {depth : Nat}
    {objects after : List Bytes} {packed : Bytes}
    (hpacked : packWith depth (.scalar value) objects = some (packed, after)) :
    packed.length ≤ bound + 9 := by
  cases depth with
  | zero => exact absurd hpacked (by simp [packWith])
  | succ depth =>
      simp only [packWith, Option.map_eq_some_iff] at hpacked
      obtain ⟨held, hheld, hintern⟩ := hpacked
      have hlength := intern_length_le held objects
      rw [hintern] at hlength
      exact Nat.le_trans hlength (Nat.add_le_add_right (hbound held hheld) 9)

theorem packWith_dict_length_le {entries : List (OpackValue × OpackValue)} {bound depth : Nat}
    (hbound : ∀ value ∈ flattenEntries entries, ∀ {objects packed after},
      packWith depth value objects = some (packed, after) → packed.length ≤ bound)
    {objects after : List Bytes} {packed : Bytes}
    (hpacked : packWith (depth + 1) (.dict entries) objects = some (packed, after)) :
    packed.length ≤ bound * (flattenEntries entries).length + 11 := by
  simp only [packWith, Option.bind_eq_bind, Option.bind_eq_some_iff] at hpacked
  obtain ⟨⟨body, middle⟩, hbody, hintern⟩ := hpacked
  have hitems := packItems_length_le hbound hbody
  have hlength := intern_length_le (containerBytes 0xE0 entries.length body) middle
  have hcontainer : (containerBytes 0xE0 entries.length body).length ≤ body.length + 2 := by
    unfold containerBytes
    split <;> simp
  rw [Option.some.inj hintern] at hlength
  exact Nat.le_trans hlength (by omega)

end CompanionBridge
