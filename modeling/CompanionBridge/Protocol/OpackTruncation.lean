import CompanionBridge.Protocol.OpackPresence
import CompanionBridge.Protocol.OpackRoundTrip

/-!
# Truncated messages

A message that is cut inside the payload of its last item is accepted when the
containers around that item are counted. Where a packed value is read to
anything but its end, its last item is a wide reference, which is accepted when
it is cut as well.
-/

namespace CompanionBridge

open PrefixCodes

/-- What is consumed of an accepted message is one whole item. -/
def AcceptsOnlyWhole (depth : Nat) (data : Bytes) : Prop :=
  ∀ value remaining, unpack depth data = some (value, remaining) →
    ∃ item, WholeItem item ∧ data = item ++ remaining

/-- No start of a packed value but the whole of it is accepted. -/
def RefusesTruncated (depth : Nat) (packed : Bytes) : Prop :=
  ∀ start more, packed = start ++ more → more ≠ [] → unpack depth start = none

/-- Truncated anywhere, a packed value does not end inside an item that is
accepted without its end. -/
def NowhereCut (depth : Nat) (packed : Bytes) : Prop :=
  ∀ start more, packed = start ++ more → more ≠ [] → ¬CutItem depth start []

/-- A decoder accepts only whole data where no item is cut. -/
theorem acceptsOnlyWhole_iff (depth : Nat) (data : Bytes) :
    AcceptsOnlyWhole depth data ↔ ¬CutItem depth data [] := by
  constructor
  · intro haccepts hcut
    obtain ⟨decoded, hdecoded, hremaining⟩ := hcut.accepted
    have hunpack : unpack depth data = some (decoded.value, []) := by
      rw [unpack, hdecoded, Option.map_some, hremaining]
    obtain ⟨item, hwhole, rfl⟩ := haccepts _ _ hunpack
    rw [List.append_nil] at hcut
    exact hcut.not_wholeItem hwhole
  · intro hcut value remaining hunpack
    obtain ⟨decoded, hdecoded, hresult⟩ := Option.map_eq_some_iff.mp hunpack
    cases hresult
    obtain ⟨item, hwhole, hdata, _⟩ | ⟨_, hother⟩ := unpackWith_extent _ _ _ _ hdecoded
    · exact ⟨item, hwhole, hdata⟩
    · exact absurd hother hcut

/-! ## Wide references -/

/-- A start of the data ends inside an item that is accepted without its end. -/
def CutsInside (depth : Nat) (data : Bytes) (objects : List OpackScalar) : Prop :=
  ∃ start more, data = start ++ more ∧ more ≠ [] ∧ CutItem depth start objects

/-- A reference is cut where its shorter index is known. -/
theorem cutsInside_reference {depth index : Nat} (hindex : index < 2 ^ 24) {rest : Bytes}
    {objects : List OpackScalar} {decoded : OpackDecoded}
    (hdecoded :
      unpackWith (depth + 1) (formBytes [.reference index] ++ rest) objects = some decoded)
    (hremaining : decoded.remaining = 0 :: rest) :
    CutsInside (depth + 1) (formBytes [.reference index]) objects := by
  by_cases hnarrow : index ≤ 0xFFFF
  · rw [unpackWith_reference depth hnarrow] at hdecoded
    rw [OpackDecoded.referenced_remaining hdecoded] at hremaining
    exact absurd (congrArg List.length hremaining) (by simp)
  · have hbytes : formBytes [.reference index] = UInt8.ofNat 0xC3 :: littleEndian 4 index := by
      rw [formBytes_reference, opackReference, if_neg (by omega), if_neg (by omega),
        if_neg (by omega), if_pos (by omega)]
      rfl
    rw [hbytes, List.cons_append, unpackWith_tag depth (by omega),
      unpackScalar_longReference (by omega)] at hdecoded
    obtain ⟨scalar, hscalar, _⟩ := Option.map_eq_some_iff.mp hdecoded
    have hsome := (List.getElem?_eq_some_iff.mp hscalar).1
    rw [hbytes]
    refine ⟨[UInt8.ofNat 0xC3], littleEndian 4 index, rfl, List.cons_ne_nil _ _, ?_⟩
    have hread : CutPayload (UInt8.ofNat 0xC3).toNat [] objects := by
      show 0 < objects.length
      omega
    exact .payload (show scalarPayload _ _ = some 3 from rfl) (by decide) hread

/-- Items of which the last is read wider than it was written. -/
theorem cutsInside_items {depth : Nat} {items : List OpackValue} {forms : List OpackForm}
    {decoded : List OpackDecoded} {tail : Bytes} {objects after : List OpackScalar}
    (hitem : ∀ item ∈ items, ∀ forms rest objects decoded, ValidForms forms →
      (item.written forms).2.length ≤ 2 ^ 24 →
      unpackWith depth (formBytes (item.written forms).1 ++ rest) objects = some decoded →
      decoded.remaining = 0 :: rest →
        CutsInside depth (formBytes (item.written forms).1) objects)
    (hfits : EachItem OpackScalar.Fits items) (hforms : ValidForms forms)
    (hsmall : (writtenItems items forms).2.length ≤ 2 ^ 24)
    (hlength : decoded.length = items.length)
    (hdecodes : DecodesAll (unpackWith depth) decoded
      (formBytes (writtenItems items forms).1 ++ tail) objects (0 :: tail) after) :
    ∃ front last before data table start more, decoded = before ++ [last] ∧
      SameItems front before ∧ formBytes (writtenItems items forms).1 = start ++ more ∧
      more ≠ [] ∧ DecodesAll (unpackWith depth) front start objects data table ∧
      CutItem depth data table := by
  -- the first item that is cut is the last that is read
  induction items generalizing forms decoded objects with
  | nil =>
      obtain rfl := List.length_eq_zero_iff.mp hlength
      exact absurd (congrArg List.length hdecodes.1) (by simp [writtenItems, formBytes])
  | cons item items ih =>
      obtain ⟨hfirstFits, hrestFits⟩ := hfits
      have hvalid := (written_valid hfirstFits hforms).2
      have hwritten := writtenItems_length items (item.written forms).2
      rw [writtenItems] at hsmall hdecodes ⊢
      dsimp only at hsmall hdecodes ⊢
      rw [formBytes_append, List.append_assoc] at hdecodes
      rw [formBytes_append]
      cases decoded with
      | nil => cases hlength
      | cons first rest =>
          obtain ⟨hfirst, hrest⟩ := hdecodes
          obtain hremaining | hremaining := unpackWith_leaves hfirstFits hforms (by omega) hfirst
          · rw [hremaining] at hrest
            obtain ⟨front, last, before, data, table, start, more, rfl, hsame, hbytes, hmore,
              hdecodes, hcut⟩ := ih (fun item hmem => hitem item (List.mem_cons_of_mem _ hmem))
                hrestFits hvalid hsmall (Nat.succ.inj hlength) hrest
            obtain ⟨piece, _, hpiece, hread⟩ | ⟨hempty, _⟩ := unpackWith_extent _ _ _ _ hfirst
            · rw [hremaining] at hpiece
              have hwhole := List.append_cancel_right hpiece
              refine ⟨first.leaving start :: front, last, first :: before, data, table,
                piece ++ start, more, rfl, ?_, ?_, hmore, ⟨hread start, hdecodes⟩, hcut⟩
              · rw [SameItems, List.map_cons, List.map_cons, hsame, OpackDecoded.leaving_leaving]
              · rw [hwhole, hbytes, List.append_assoc]
            · rw [hremaining, hbytes] at hempty
              simp [hmore] at hempty
          · have hempty : rest = [] := by
              cases rest with
              | nil => rfl
              | cons second others =>
                  rw [hremaining] at hrest
                  obtain ⟨tag, body, hdata, htag, _⟩ := (unpackWith_decodes depth).reads hrest.1
                  exact absurd (List.cons.inj hdata).1.symm htag
            subst hempty
            obtain ⟨start, more, hbytes, hmore, hcut⟩ := hitem item List.mem_cons_self forms _ _ _
              hforms (by omega) hfirst hremaining
            refine ⟨[], first, [], start, objects, start,
              more ++ formBytes (writtenItems items (item.written forms).2).1, rfl, rfl, ?_, ?_,
              ⟨rfl, rfl⟩, hcut⟩
            · rw [hbytes, List.append_assoc]
            · simp [hmore]

/-- A container that leaves a zero is counted, and its last item left it. -/
theorem cutsInside_container {depth : Nat} {tag : UInt8} {items : List OpackValue}
    {forms : List OpackForm} {rest : Bytes} {objects : List OpackScalar} {decoded : OpackDecoded}
    (hitem : ∀ item ∈ items, ∀ forms rest objects decoded, ValidForms forms →
      (item.written forms).2.length ≤ 2 ^ 24 →
      unpackWith depth (formBytes (item.written forms).1 ++ rest) objects = some decoded →
      decoded.remaining = 0 :: rest →
        CutsInside depth (formBytes (item.written forms).1) objects)
    (hfits : EachItem OpackScalar.Fits items) (hforms : ValidForms forms)
    (hsmall : (writtenItems items forms).2.length ≤ 2 ^ 24)
    (hdeclares : Declares tag.toNat items.length)
    (hdecoded : unpackWith (depth + 1) (tag :: (formBytes (writtenItems items forms).1 ++
      (closing (tag.toNat % 16) ++ rest))) objects = some decoded)
    (hremaining : decoded.remaining = 0 :: rest) :
    CutsInside (depth + 1)
      (tag :: (formBytes (writtenItems items forms).1 ++ closing (tag.toNat % 16))) objects := by
  obtain ⟨others, value, remaining, after, hcount, hdecodes, hvalue, rfl⟩ :=
    (unpackWith_container hdeclares.opening).mp hdecoded
  obtain rfl : remaining = 0 :: rest := hremaining
  by_cases hclosed : tag.toNat % 16 = 0xF
  · have hclosing : closing (tag.toNat % 16) = [3] := by rw [closing, if_pos hclosed]
    rw [hclosing] at hdecodes
    have hleaves := (leaves_items
      (fun item hmem forms rest objects decoded hforms hsmall hdecoded =>
        unpackWith_leaves (eachItem_iff.mp hfits item hmem) hforms hsmall hdecoded)
      hfits hforms hsmall (.inl ⟨rest, 0 :: rest, rfl, rfl⟩) hdecodes).2
    obtain hsame | hzero := hleaves
    · exact absurd (congrArg List.length hsame) (by simp)
    · cases hzero
  · have hclosing : closing (tag.toNat % 16) = [] := by rw [closing, if_neg hclosed]
    rw [hclosing, List.nil_append, List.nil_append] at hdecodes
    obtain ⟨front, last, before, data, table, start, more, rfl, hsame, hbytes, hmore, hdecodes,
      hcut⟩ := cutsInside_items hitem hfits hforms hsmall
        (by unfold Declares at hdeclares hcount; omega) hdecodes
    refine ⟨tag :: start, more, ?_, hmore, ?_⟩
    · rw [hbytes, hclosing, List.append_nil, List.cons_append]
    · have hsnoc : SameItems (front ++ [last]) (before ++ [last]) := by
        rw [SameItems, List.map_append, List.map_append, hsame]
      have hsome : (containerValue tag.toNat (front ++ [last])).isSome := by
        rw [hsnoc.containerValue, hvalue]
        rfl
      have hfront : Declares tag.toNat (front.length + 1) := by
        rw [List.length_append, List.length_singleton] at hcount
        rwa [hsame.length]
      exact cutItem_last hclosing hfront hdecodes hsome hcut

theorem formBytes_opening {opening : Nat → OpackToken} {count : Nat} {tag : UInt8}
    (hbytes : (opening (min count 0xF)).bytes = [tag]) (hlow : tag.toNat % 16 = min count 0xF)
    (body : OpackForm) (rest : Bytes) :
    formBytes (containerForm opening count body) ++ rest =
      tag :: (formBytes body ++ (closing (tag.toNat % 16) ++ rest)) := by
  rw [formBytes_container, hbytes, hlow]
  rfl

/-- A written value that is read to anything but its end can be cut inside an item
that is accepted without its end. -/
theorem cutsInside_written {depth : Nat} {value : OpackValue} {forms : List OpackForm}
    {rest : Bytes} {objects : List OpackScalar} {decoded : OpackDecoded} (hfits : value.Fits)
    (hforms : ValidForms forms) (hsmall : (value.written forms).2.length ≤ 2 ^ 24)
    (hdecoded :
      unpackWith depth (formBytes (value.written forms).1 ++ rest) objects = some decoded)
    (hremaining : decoded.remaining = 0 :: rest) :
    CutsInside depth (formBytes (value.written forms).1) objects := by
  -- the cut is in a scalar or in the container's last item
  induction depth generalizing value forms rest objects decoded with
  | zero => cases hdecoded
  | succ depth ih =>
      cases value with
      | scalar scalar =>
          rw [OpackValue.written] at hsmall hdecoded ⊢
          obtain ⟨_, hindex, hform⟩ | ⟨_, hform⟩ := internForm_cases hsmall
          · rw [hform] at hdecoded ⊢
            exact cutsInside_reference hindex hdecoded hremaining
          · rw [hform, unpackWith_scalar depth hfits, Option.some.injEq] at hdecoded
            rw [← hdecoded, OpackDecoded.fresh_remaining] at hremaining
            exact absurd (congrArg List.length hremaining) (by simp)
      | list items =>
          rw [OpackValue.written] at hsmall hdecoded ⊢
          rw [OpackValue.Fits, OpackValue.Each] at hfits
          have hlength := internForm_length
            (containerForm .list items.length (writtenItems items forms).1)
            (writtenItems items forms).2
          obtain ⟨_, hindex, hform⟩ | ⟨_, hform⟩ := internForm_cases hsmall
          · rw [hform] at hdecoded ⊢
            exact cutsInside_reference hindex hdecoded hremaining
          · have htag := @OpackToken.toNat_ofNat (0xD0 + min items.length 0xF) (by omega)
            have hbytes := @formBytes_opening .list items.length
              (UInt8.ofNat (0xD0 + min items.length 0xF)) rfl (by omega) (writtenItems items forms).1
            rw [hform] at hdecoded ⊢
            rw [hbytes] at hdecoded
            have hwritten := hbytes []
            rw [List.append_nil, List.append_nil] at hwritten
            rw [hwritten]
            refine cutsInside_container ?_ hfits hforms (by omega) (by unfold Declares; omega)
              hdecoded hremaining
            intro item hmem forms rest objects decoded hforms hsmall hdecoded hremaining
            exact ih (eachItem_iff.mp hfits item hmem) hforms hsmall hdecoded hremaining
      | dict entries =>
          rw [OpackValue.written, writtenEntries_eq] at hsmall hdecoded ⊢
          rw [OpackValue.Fits, OpackValue.Each, eachEntry_iff] at hfits
          have hlength := internForm_length
            (containerForm .dict entries.length (writtenItems (flattenEntries entries) forms).1)
            (writtenItems (flattenEntries entries) forms).2
          obtain ⟨_, hindex, hform⟩ | ⟨_, hform⟩ := internForm_cases hsmall
          · rw [hform] at hdecoded ⊢
            exact cutsInside_reference hindex hdecoded hremaining
          · have hflat := flattenEntries_length entries
            have htag := @OpackToken.toNat_ofNat (0xE0 + min entries.length 0xF) (by omega)
            have hbytes := @formBytes_opening .dict entries.length
              (UInt8.ofNat (0xE0 + min entries.length 0xF)) rfl (by omega)
              (writtenItems (flattenEntries entries) forms).1
            rw [hform] at hdecoded ⊢
            rw [hbytes] at hdecoded
            have hwritten := hbytes []
            rw [List.append_nil, List.append_nil] at hwritten
            rw [hwritten]
            refine cutsInside_container ?_ hfits hforms (by omega) (by unfold Declares; omega)
              hdecoded hremaining
            intro item hmem forms rest objects decoded hforms hsmall hdecoded hremaining
            exact ih (eachItem_iff.mp hfits item hmem) hforms hsmall hdecoded hremaining

/-! ## Truncated messages -/

/-- The claim about truncation is one about every place where it may cut. -/
theorem refusesTruncated_iff {packDepth : Nat} {value : OpackValue} {packed : Bytes} (depth : Nat)
    (hpack : pack packDepth value = some packed) (hfew : FewForms value) :
    RefusesTruncated depth packed ↔ NowhereCut depth packed := by
  obtain ⟨_, hfits, rfl⟩ := pack_eq_some.mp hpack
  constructor
  · intro hrefuses start more hpacked hmore hcut
    obtain ⟨decoded, hdecoded, _⟩ := hcut.accepted
    have hnone := hrefuses start more hpacked hmore
    rw [unpack, hdecoded] at hnone
    cases hnone
  · intro hnowhere start more hpacked hmore
    rw [unpack, Option.map_eq_none_iff, Option.eq_none_iff_forall_ne_some]
    intro decoded hdecoded
    obtain ⟨item, _, hstart, hread⟩ | ⟨_, hcut⟩ := unpackWith_extent _ _ _ _ hdecoded
    · -- what follows the item in the packed value is the end of a wide reference
      have hwhole := hread (decoded.remaining ++ more)
      rw [← List.append_assoc, ← hstart, ← hpacked, ← List.append_nil (formBytes _)] at hwhole
      obtain hnothing | hzero := unpackWith_leaves hfits validForms_nil hfew hwhole
      · exact hmore (List.append_eq_nil_iff.mp hnothing).2
      · obtain ⟨other, rest, hother, hrest, hcut⟩ :=
          cutsInside_written hfits validForms_nil hfew hwhole hzero
        exact hnowhere other rest hother hrest hcut
    · exact hnowhere start more hpacked hmore hcut

/-- `unpack` accepts only what is there, in messages that do not end inside an
item that is accepted without its end; and it refuses every truncation of the
packed values that are nowhere cut like that. -/
theorem opack_presence (depth : Nat) :
    (∀ data, AcceptsOnlyWhole depth data ↔ ¬CutItem depth data []) ∧
      ∀ packDepth value packed, pack packDepth value = some packed → FewForms value →
        (RefusesTruncated depth packed ↔ NowhereCut depth packed) :=
  ⟨acceptsOnlyWhole_iff depth, fun _ _ _ hpack hfew => refusesTruncated_iff depth hpack hfew⟩

/-- What `RefusesTruncated` says of each length. -/
theorem refusesTruncated_of_take {depth : Nat} {packed : Bytes}
    (hnone : ∀ count < packed.length, (unpack depth (packed.take count)).isNone) :
    RefusesTruncated depth packed := by
  intro start more hpacked hmore
  have hlength : start.length < packed.length := by
    have hpos := List.length_pos_iff.mpr hmore
    rw [hpacked, List.length_append]
    omega
  have hstart := hnone start.length hlength
  rwa [hpacked, List.take_left, Option.isNone_iff_eq_none] at hstart

/-- Repeated bytes and an empty list after an integer. -/
def repeatedLast : OpackValue :=
  .list [.scalar (.int 300 none), .scalar (.bytes [1, 2]), .scalar (.bytes [1, 2]), .list []]

theorem opack_presence_repeated :
    pack 3 repeatedLast = some [0xD4, 0x31, 0x2C, 0x01, 0x72, 1, 2, 0xA1, 0xD0] ∧
      NowhereCut 3 [0xD4, 0x31, 0x2C, 0x01, 0x72, 1, 2, 0xA1, 0xD0] := by
  have hpack : pack 3 repeatedLast = some [0xD4, 0x31, 0x2C, 0x01, 0x72, 1, 2, 0xA1, 0xD0] := by
    decide +kernel
  have hfew : FewForms repeatedLast := by
    unfold FewForms
    decide +kernel
  refine ⟨hpack, ((opack_presence 3).2 3 repeatedLast _ hpack hfew).mp ?_⟩
  apply refusesTruncated_of_take
  decide +kernel

/-- The first bytes of a packed integer are accepted as a smaller one. -/
theorem opack_accepts_truncated :
    pack 2 (.scalar (.int 300 none)) = some ([0x31, 0x2C] ++ [0x01]) ∧
      unpack 2 [0x31, 0x2C] = some (.scalar (.int 44 (some 2)), []) ∧
      ¬AcceptsOnlyWhole 2 [0x31, 0x2C] ∧ ¬RefusesTruncated 2 ([0x31, 0x2C] ++ [0x01]) := by
  have hunpack : unpack 2 [0x31, 0x2C] = some (.scalar (.int 44 (some 2)), []) := rfl
  refine ⟨rfl, hunpack, ?_, ?_⟩
  · intro haccepts
    obtain ⟨item, hwhole, hitem⟩ := haccepts _ _ hunpack
    rw [List.append_nil] at hitem
    have hcut : CutItem 2 [0x31, 0x2C] [] := .payload rfl (show 1 < 2 by decide) trivial
    rw [hitem] at hcut
    exact hcut.not_wholeItem hwhole
  · intro hrefuses
    have hnone := hrefuses [0x31, 0x2C] [0x01] rfl (by simp)
    rw [hunpack] at hnone
    cases hnone

end CompanionBridge
