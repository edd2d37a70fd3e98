import CompanionBridge.Protocol.OpackReadBack

/-!
# The OPACK round trip

The decoder reads back what the encoder wrote exactly for aligned values.
-/

namespace CompanionBridge

/-! ## Aligned values are read back -/

theorem internForm_fresh {form : OpackForm} {forms : List OpackForm} (hmem : form ∉ forms) :
    (internForm form forms).1 = form := by
  rw [internForm, if_neg hmem]
  split_ifs <;> rfl

/-- Items that are ready are read back, one after the other. -/
theorem reads_items {depth : Nat} {items : List OpackValue} {forms : List OpackForm} {tail : Bytes}
    {objects after : List OpackScalar}
    (hitem : ∀ item ∈ items, ∀ forms rest objects after, ValidForms forms → item.WellKeyed →
      item.align forms objects = some after →
        ∃ decoded, unpackWith depth (formBytes (item.written forms).1 ++ rest) objects =
          some decoded ∧ decoded.remaining = rest ∧ decoded.objects = after ∧
            item.CarriedBy decoded.value)
    (hfits : EachItem OpackScalar.Fits items) (hforms : ValidForms forms)
    (hkeyed : ItemsWellKeyed items) (halign : alignItems items forms objects = some after) :
    ∃ decoded, DecodesAll (unpackWith depth) decoded
        (formBytes (writtenItems items forms).1 ++ tail) objects tail after ∧
      ItemsCarriedBy items (decoded.map OpackDecoded.value) := by
  induction items generalizing forms objects with
  | nil =>
      cases halign
      exact ⟨[], ⟨rfl, rfl⟩, trivial⟩
  | cons item items ih =>
      obtain ⟨hfirstFits, hrestFits⟩ := hfits
      rw [alignItems, Option.bind_eq_some_iff] at halign
      obtain ⟨middle, hfirst, hrest⟩ := halign
      obtain ⟨first, hread, hremaining, hobjects, hcarried⟩ := hitem item List.mem_cons_self forms
        (formBytes (writtenItems items (item.written forms).2).1 ++ tail) objects middle hforms
        hkeyed.1 hfirst
      obtain ⟨rest, hdecodes, hrestCarried⟩ := ih
        (fun item hmem => hitem item (List.mem_cons_of_mem _ hmem)) hrestFits
        (written_valid hfirstFits hforms).2 hkeyed.2 hrest
      refine ⟨first :: rest, ⟨?_, ?_⟩, hcarried, hrestCarried⟩
      · rw [writtenItems]
        dsimp only
        rw [formBytes_append, List.append_assoc, hread]
      · rw [hremaining, hobjects]
        exact hdecodes

/-- Keys that are apart give the entries that were written. -/
theorem buildEntries_of_apart {entries : List (OpackValue × OpackValue)}
    {decoded : List OpackDecoded} {objects : List OpackScalar} (hapart : KeysApart entries)
    (hcarried : ItemsCarriedBy (flattenEntries entries) (decoded.map OpackDecoded.value))
    (hknown : ∀ value ∈ decoded, value.KnownIn objects) :
    ∃ built, buildEntries [] (pairUp decoded) = some built ∧
      EntriesCarriedBy entries (entryPairs built) := by
  have hread := keysReadAs hcarried hknown
  have hlength := itemsCarriedBy_length hcarried
  rw [flattenEntries_length, List.length_map] at hlength
  have hdifferent : AllDifferent (pairUp decoded) :=
    pairwise_of_forall₂ hread.flip
      (fun _ _ _ _ hfirst hsecond hapart => differentKeys_of_apart hfirst hsecond hapart) hapart.2
  have hkeys : ∀ pair ∈ pairUp decoded, ∃ key, pair.1.value = .scalar key := by
    refine forall_of_forall₂ hread.flip ?_ hapart.1
    rintro pair entry hentry ⟨key, hkey⟩
    have hscalar := hentry.carried
    rw [hkey] at hscalar
    obtain ⟨other, hother, _⟩ := scalar_of_carriedBy hscalar
    exact ⟨other, hother⟩
  obtain ⟨built, hbuild, hentries⟩ := @buildEntries_different [] [] _ .nil hdifferent hkeys
  refine ⟨built, hbuild, ?_⟩
  rw [entriesCarriedBy_iff, hentries.pairs, List.nil_append, flattenEntries_pairUp (by omega)]
  exact hcarried

/-- An aligned value is read back whole. -/
theorem reads_of_align {depth : Nat} {value : OpackValue} {forms : List OpackForm} {rest : Bytes}
    {objects after : List OpackScalar} (hfits : value.Fits) (hforms : ValidForms forms)
    (hkeyed : value.WellKeyed) (hheight : value.height ≤ depth)
    (halign : value.align forms objects = some after) :
    ∃ decoded, unpackWith depth (formBytes (value.written forms).1 ++ rest) objects = some decoded ∧
      decoded.remaining = rest ∧ decoded.objects = after ∧ value.CarriedBy decoded.value := by
  induction depth generalizing value forms rest objects after with
  | zero => cases value <;> simp [OpackValue.height] at hheight
  | succ depth ih =>
      cases value with
      | scalar scalar =>
          -- the reference must name an object that carries the scalar
          rw [OpackValue.align, alignScalar] at halign
          rw [OpackValue.written]
          by_cases hmem : [OpackToken.scalar scalar.received] ∈ forms
          · rw [if_pos hmem] at halign
            dsimp only at halign
            split at halign
            next other hother =>
              split at halign
              next hnarrow =>
                cases halign
                rw [internForm, if_pos hmem, if_pos (by omega)]
                refine ⟨_, by rw [unpackWith_reference depth hnarrow.1, OpackDecoded.referenced,
                  hother, Option.map_some], rfl, rfl, ?_⟩
                rw [OpackValue.CarriedBy]
                exact hnarrow.2
              next => cases halign
            next => cases halign
          · rw [if_neg hmem] at halign
            split at halign
            next hcarried =>
              cases halign
              rw [internForm_fresh hmem]
              refine ⟨_, unpackWith_scalar depth hfits rest objects, ?_, ?_, ?_⟩
              · exact OpackDecoded.fresh_remaining _ _ _
              · exact OpackDecoded.fresh_objects _ _ _
              · rw [OpackDecoded.fresh_value, OpackValue.CarriedBy]
                exact hcarried
            next => cases halign
      | list items =>
          rw [OpackValue.height] at hheight
          rw [OpackValue.Fits, OpackValue.Each] at hfits
          rw [OpackValue.WellKeyed] at hkeyed
          rw [OpackValue.align] at halign
          split at halign
          next => cases halign
          next hmem =>
            have hbound := itemsHeight_le.mp (Nat.le_of_succ_le_succ hheight)
            obtain ⟨decoded, hdecodes, hcarried⟩ := @reads_items depth items forms
              (closing (min items.length 0xF) ++ rest) objects after
              (fun item hmem forms rest objects after hforms hkeyed =>
                ih (eachItem_iff.mp hfits item hmem) hforms hkeyed (hbound item hmem))
              hfits hforms hkeyed halign
            have hlength := itemsCarriedBy_length hcarried
            rw [List.length_map] at hlength
            refine ⟨.loose (.list (decoded.map OpackDecoded.value)) rest after, ?_, rfl, rfl, ?_⟩
            · rw [OpackValue.written, internForm_fresh hmem, unpackWith_listForm]
              exact ⟨decoded, by omega, hdecodes, rfl⟩
            · rw [OpackDecoded.loose, OpackValue.CarriedBy]
              exact hcarried
      | dict entries =>
          rw [OpackValue.height, entriesHeight_eq] at hheight
          rw [OpackValue.Fits, OpackValue.Each, eachEntry_iff] at hfits
          rw [OpackValue.WellKeyed, entriesWellKeyed_iff] at hkeyed
          rw [OpackValue.align, writtenEntries_eq, alignEntries_eq] at halign
          split at halign
          next => cases halign
          next hmem =>
            have hbound := itemsHeight_le.mp (Nat.le_of_succ_le_succ hheight)
            obtain ⟨decoded, hdecodes, hcarried⟩ := @reads_items depth (flattenEntries entries)
              forms (closing (min entries.length 0xF) ++ rest) objects after
              (fun item hmem forms rest objects after hforms hkeyed =>
                ih (eachItem_iff.mp hfits item hmem) hforms hkeyed (hbound item hmem))
              hfits hforms hkeyed.2 halign
            obtain ⟨built, hbuild, hentries⟩ := buildEntries_of_apart hkeyed.1 hcarried
              (hdecodes.grows (unpackWith_decodes depth)).2
            have hlength := itemsCarriedBy_length hcarried
            rw [List.length_map, flattenEntries_length] at hlength
            refine ⟨.loose (.dict (entryPairs built)) rest after, ?_, rfl, rfl, ?_⟩
            · rw [OpackValue.written, writtenEntries_eq, internForm_fresh hmem,
                unpackWith_dictForm]
              exact ⟨decoded, built, by omega, hdecodes, hbuild, rfl⟩
            · rw [OpackDecoded.loose, OpackValue.CarriedBy]
              exact hentries

/-! ## The round trip -/

/-- `unpack(pack(value) + rest) = (value, rest)`. -/
def RoundTrips (packDepth unpackDepth : Nat) (value : OpackValue) (rest : Bytes) : Prop :=
  ∃ packed other, pack packDepth value = some packed ∧
    unpack unpackDepth (packed ++ rest) = some (other, rest) ∧ value.CarriedBy other

/-- What a value needs for its round trip: nesting within both recursion limits,
scalars with a packed form, keys apart and aligned repetitions. -/
structure RoundTripReady (packDepth unpackDepth : Nat) (value : OpackValue) : Prop where
  packHeight : value.height ≤ packDepth
  unpackHeight : value.height ≤ unpackDepth
  fits : value.Fits
  keyed : value.WellKeyed
  aligned : value.Aligned

theorem roundTrips_of_ready {packDepth unpackDepth : Nat} {value : OpackValue}
    (hready : RoundTripReady packDepth unpackDepth value) (rest : Bytes) :
    RoundTrips packDepth unpackDepth value rest := by
  obtain ⟨after, halign⟩ := Option.isSome_iff_exists.mp hready.aligned
  obtain ⟨decoded, hread, hremaining, _, hcarried⟩ := @reads_of_align unpackDepth value [] rest []
    after hready.fits validForms_nil hready.keyed hready.unpackHeight halign
  refine ⟨_, decoded.value, pack_eq_some.mpr ⟨hready.packHeight, hready.fits, rfl⟩, ?_, hcarried⟩
  rw [unpack, hread, Option.map_some, hremaining]

/-- Fewer than `2 ^ 24` objects are numbered. -/
def FewForms (value : OpackValue) : Prop :=
  (value.written []).2.length ≤ 2 ^ 24

theorem ready_of_roundTrips {packDepth unpackDepth : Nat} {value : OpackValue} {rest : Bytes}
    (hfew : FewForms value) (hround : RoundTrips packDepth unpackDepth value rest) :
    RoundTripReady packDepth unpackDepth value := by
  obtain ⟨packed, other, hpack, hunpack, hcarried⟩ := hround
  obtain ⟨hheight, hfits, rfl⟩ := pack_eq_some.mp hpack
  obtain ⟨decoded, hread, hresult⟩ := Option.map_eq_some_iff.mp hunpack
  cases hresult
  have hback := readBack_of_unpackWith hfits validForms_nil hfew hread rfl hcarried
  exact ⟨hheight, hback.height, hfits, hback.keyed tracked_nil,
    Option.isSome_iff_exists.mpr ⟨_, hback.aligned⟩⟩

end CompanionBridge
