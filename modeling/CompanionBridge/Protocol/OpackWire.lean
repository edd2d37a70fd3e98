import CompanionBridge.Protocol.OpackRoundTrip

/-!
# Values of the program and of the wire

The round trip holds exactly for aligned values: of those the program builds, and
of those it has decoded and echoes.
-/

namespace CompanionBridge

/-! ## Values the program builds -/

/-- An integer without a width, of at most sixty-four bits. -/
def OpackScalar.Own : OpackScalar → Prop
  | int value size => value ≤ 0xFFFFFFFFFFFFFFFF ∧ size = none
  | _ => True

/-- A text or byte string whose length has a tag. -/
def OpackScalar.TextFits : OpackScalar → Prop
  | str text => (utf8 text).length < 2 ^ 32
  | bytes data => data.length < 2 ^ 64
  | _ => True

/-- A scalar of the program's own values fits if its text does. -/
theorem OpackScalar.fits_of_own {scalar : OpackScalar} (hown : scalar.Own) :
    scalar.Fits ↔ scalar.TextFits := by
  cases scalar with
  | int value size =>
      obtain ⟨hvalue, rfl⟩ := hown
      simp only [Fits, TextFits, iff_true, writtenWidth]
      split_ifs <;> first | trivial | (show value < 256 ^ _; omega)
  | _ => exact Iff.rfl

mutual

/-- A property of every scalar follows from two others. -/
theorem OpackValue.Each.imp {first second third : OpackScalar → Prop}
    (himp : ∀ scalar, first scalar → second scalar → third scalar) :
    ∀ {value : OpackValue}, value.Each first → value.Each second → value.Each third
  | .scalar _, hfirst, hsecond => by
      rw [OpackValue.Each] at hfirst hsecond ⊢
      exact himp _ hfirst hsecond
  | .list _, hfirst, hsecond => by
      rw [OpackValue.Each] at hfirst hsecond ⊢
      exact EachItem.imp himp hfirst hsecond
  | .dict _, hfirst, hsecond => by
      rw [OpackValue.Each] at hfirst hsecond ⊢
      exact EachEntry.imp himp hfirst hsecond

theorem EachItem.imp {first second third : OpackScalar → Prop}
    (himp : ∀ scalar, first scalar → second scalar → third scalar) :
    ∀ {items : List OpackValue}, EachItem first items → EachItem second items →
      EachItem third items
  | [], _, _ => trivial
  | _ :: _, ⟨hitem, hrest⟩, ⟨hitem', hrest'⟩ =>
      ⟨hitem.imp himp hitem', hrest.imp himp hrest'⟩

theorem EachEntry.imp {first second third : OpackScalar → Prop}
    (himp : ∀ scalar, first scalar → second scalar → third scalar) :
    ∀ {entries : List (OpackValue × OpackValue)}, EachEntry first entries →
      EachEntry second entries → EachEntry third entries
  | [], _, _ => trivial
  | (_, _) :: _, ⟨⟨hkey, hvalue⟩, hrest⟩, ⟨⟨hkey', hvalue'⟩, hrest'⟩ =>
      ⟨⟨hkey.imp himp hkey', hvalue.imp himp hvalue'⟩, hrest.imp himp hrest'⟩

end

/-- When a value of the program survives the round trip. -/
structure OwnRoundTrip (packDepth unpackDepth : Nat) (value : OpackValue) : Prop where
  packHeight : value.height ≤ packDepth
  unpackHeight : value.height ≤ unpackDepth
  texts : value.Each OpackScalar.TextFits
  aligned : value.Aligned

/-- The round trip of a value of the program: nested within the recursion limits
and aligned is enough, and needed as far as references have twenty-four bits. -/
theorem opack_round_trip (packDepth unpackDepth : Nat) (value : OpackValue)
    (hown : value.Each OpackScalar.Own) (hkeyed : value.WellKeyed) :
    (OwnRoundTrip packDepth unpackDepth value →
        ∀ rest, RoundTrips packDepth unpackDepth value rest) ∧
      (FewForms value → (∀ rest, RoundTrips packDepth unpackDepth value rest) →
        OwnRoundTrip packDepth unpackDepth value) := by
  constructor
  · intro hready
    exact roundTrips_of_ready
      ⟨hready.packHeight, hready.unpackHeight,
        hown.imp (fun _ hscalar => (OpackScalar.fits_of_own hscalar).mpr) hready.texts, hkeyed,
        hready.aligned⟩
  · intro hfew hround
    have hready := ready_of_roundTrips hfew (hround [])
    exact ⟨hready.packHeight, hready.unpackHeight,
      hown.imp (fun _ hscalar => (OpackScalar.fits_of_own hscalar).mp) hready.fits, hready.aligned⟩

/-- A text repeated inside and outside a list. -/
def repeatedTexts : OpackValue :=
  .dict [(.scalar (.str "keys"), .list [.scalar (.str "ab"), .scalar (.str "ab")]),
    (.scalar (.int 300 none), .scalar (.bytes [1, 2]))]

theorem opack_round_trip_repeated :
    OwnRoundTrip 1000 1000 repeatedTexts ∧ RoundTrips 1000 1000 repeatedTexts [7] := by
  have hown : repeatedTexts.Each OpackScalar.Own := by
    simp [repeatedTexts, OpackValue.Each, EachEntry, EachItem, OpackScalar.Own]
  have hkeyed : repeatedTexts.WellKeyed := by
    refine ⟨⟨?_, ?_⟩, ?_⟩
    · simp
    · rw [List.pairwise_pair]
      exact ⟨by decide, by decide⟩
    · simp [EntriesWellKeyed, OpackValue.WellKeyed, ItemsWellKeyed]
  have hready : OwnRoundTrip 1000 1000 repeatedTexts := by
    refine ⟨by decide, by decide, ?_, by unfold OpackValue.Aligned; decide +kernel⟩
    simp [repeatedTexts, OpackValue.Each, EachEntry, EachItem, OpackScalar.TextFits]
    decide
  exact ⟨hready, (opack_round_trip 1000 1000 repeatedTexts hown hkeyed).1 hready [7]⟩

/-- The encoder numbers the inner list too, so its reference to the second text
names an object the decoder does not have. -/
def repeatedAfterList : OpackValue :=
  .list [.list [.scalar (.str "ab")], .scalar (.str "cd"), .scalar (.str "cd")]

theorem opack_round_trip_fails :
    repeatedAfterList.Each OpackScalar.Own ∧ repeatedAfterList.WellKeyed ∧
      pack 1000 repeatedAfterList =
        some [0xD3, 0xD1, 0x42, 0x61, 0x62, 0x42, 0x63, 0x64, 0xA2] ∧
      ¬RoundTrips 1000 1000 repeatedAfterList [] := by
  refine ⟨?_, ?_, by decide +kernel, ?_⟩
  · simp [repeatedAfterList, OpackValue.Each, EachItem, OpackScalar.Own]
  · simp [repeatedAfterList, OpackValue.WellKeyed, ItemsWellKeyed]
  · rintro ⟨packed, other, hpack, hunpack, _⟩
    have hnone : ((pack 1000 repeatedAfterList).bind fun packed =>
        unpack 1000 (packed ++ [])).isNone := by
      decide +kernel
    rw [hpack, Option.bind_some, hunpack] at hnone
    cases hnone

/-! ## Values of the wire -/

/-- A scalar the decoder makes: an integer within the bytes it was read from. -/
def OpackScalar.OfWire : OpackScalar → Prop
  | int value none => value < 2 ^ 64
  | int value (some width) => value < 256 ^ width
  | other => other.TextFits

/-- A result whose scalars, and those of its table, are of the wire. -/
def OfWire (result : Option OpackDecoded) : Prop :=
  ∀ decoded, result = some decoded →
    decoded.value.Each OpackScalar.OfWire ∧ ∀ scalar ∈ decoded.objects, scalar.OfWire

section Wire

variable {body : Bytes} {objects : List OpackScalar}

theorem ofWire_none : OfWire none := by
  intro decoded hdecoded
  cases hdecoded

/-- A scalar of the wire leaves the objects as they were. -/
theorem ofWire_loose (hobjects : ∀ scalar ∈ objects, scalar.OfWire) {value : OpackScalar}
    (hvalue : value.OfWire) (remaining : Bytes) :
    OfWire (some (.loose (.scalar value) remaining objects)) := by
  intro decoded hdecoded
  cases hdecoded
  exact ⟨hvalue, hobjects⟩

theorem ofWire_kept (hobjects : ∀ scalar ∈ objects, scalar.OfWire) {value : OpackScalar}
    (hvalue : value.OfWire) (remaining : Bytes) :
    OfWire (some (.kept value remaining objects)) := by
  intro decoded hdecoded
  cases hdecoded
  rw [OpackDecoded.kept]
  split_ifs
  · exact ⟨hvalue, hobjects⟩
  · refine ⟨hvalue, ?_⟩
    intro scalar hmem
    obtain hmem | hmem := List.mem_append.mp hmem
    · exact hobjects scalar hmem
    · rwa [List.mem_singleton.mp hmem]

theorem ofWire_referenced (hobjects : ∀ scalar ∈ objects, scalar.OfWire) (index : Nat)
    (remaining : Bytes) : OfWire (OpackDecoded.referenced index remaining objects) := by
  intro decoded hdecoded
  obtain ⟨value, hvalue, rfl⟩ := Option.map_eq_some_iff.mp hdecoded
  exact ⟨hobjects value (List.mem_of_getElem? hvalue), hobjects⟩

/-- A text that was read is short enough to be written. -/
theorem ofWire_text (hobjects : ∀ scalar ∈ objects, scalar.OfWire) {data : Bytes}
    (hlength : data.length < 2 ^ 32) (remaining : Bytes) :
    OfWire ((decodeUtf8 data).map fun text => .kept (.str text) remaining objects) := by
  cases htext : decodeUtf8 data with
  | none => exact ofWire_none
  | some text =>
      apply ofWire_kept hobjects
      rw [OpackScalar.OfWire, OpackScalar.TextFits, utf8_of_decodeUtf8 htext]
      · exact hlength
      all_goals simp

theorem ofWire_ite {condition : Prop} [Decidable condition] {first second : Option OpackDecoded}
    (hfirst : condition → OfWire first) (hsecond : OfWire second) :
    OfWire (if condition then first else second) := by
  by_cases hcondition : condition
  · rw [if_pos hcondition]
    exact hfirst hcondition
  · rwa [if_neg hcondition]

theorem fromLittleEndian_take_lt (data : Bytes) (count : Nat) :
    fromLittleEndian (data.take count) < 256 ^ count :=
  Nat.lt_of_lt_of_le (fromLittleEndian_lt _)
    (Nat.pow_le_pow_right (by omega) (List.length_take_le count data))

theorem take_length_lt (data : Bytes) {count bound : Nat} (hcount : count < bound) :
    (data.take count).length < bound :=
  Nat.lt_of_le_of_lt (List.length_take_le count data) hcount

/-- Whatever a scalar tag reads has a width that the wire has. -/
theorem unpackScalar_ofWire (hobjects : ∀ scalar ∈ objects, scalar.OfWire) (tag : Nat) :
    OfWire (unpackScalar tag body objects) := by
  unfold unpackScalar
  dsimp only
  refine ofWire_ite (fun _ => ofWire_loose hobjects (by trivial) _) ?_
  refine ofWire_ite (fun _ => ofWire_loose hobjects (by trivial) _) ?_
  refine ofWire_ite (fun _ => ofWire_loose hobjects (by trivial) _) ?_
  refine ofWire_ite (fun _ => ?_) ?_
  · split
    · exact ofWire_kept hobjects (by trivial) _
    · exact ofWire_none
  refine ofWire_ite (fun _ => ?_) ?_
  · exact ofWire_kept hobjects (by exact fromLittleEndian_take_lt body 8) _
  refine ofWire_ite (fun htag => ?_) ?_
  · apply ofWire_loose hobjects
    show tag - 8 < 2 ^ 64
    omega
  refine ofWire_ite (fun _ => ofWire_ite (fun _ => ofWire_kept hobjects (by trivial) _) ofWire_none) ?_
  refine ofWire_ite (fun _ => ofWire_ite (fun _ => ofWire_kept hobjects (by trivial) _) ofWire_none) ?_
  refine ofWire_ite (fun _ => ?_) ?_
  · exact ofWire_kept hobjects (by exact fromLittleEndian_take_lt body (2 ^ (tag % 16))) _
  -- the length of a text is in the tag or in a field of at most four bytes
  refine ofWire_ite (fun htag => ofWire_text hobjects (take_length_lt _ (by omega)) _) ?_
  refine ofWire_ite (fun htag => ?_) ?_
  · apply ofWire_text hobjects
    apply take_length_lt
    have hbound := fromLittleEndian_take_lt body (tag % 16)
    have hwidth : 256 ^ (tag % 16) ≤ 256 ^ 4 := Nat.pow_le_pow_right (by omega) (by omega)
    omega
  refine ofWire_ite (fun htag => ofWire_kept hobjects ?_ _) ?_
  · exact take_length_lt body (show tag - 0x70 < 2 ^ 64 by omega)
  refine ofWire_ite (fun htag => ofWire_kept hobjects ?_ _) ?_
  · apply take_length_lt
    have hbound := fromLittleEndian_take_lt body (2 ^ (tag % 16 - 1))
    have hexponent : 2 ^ (tag % 16 - 1) ≤ 2 ^ 3 := Nat.pow_le_pow_right (by omega) (by omega)
    have hwidth : 256 ^ 2 ^ (tag % 16 - 1) ≤ 256 ^ 8 := Nat.pow_le_pow_right (by omega) hexponent
    omega
  refine ofWire_ite (fun _ => ofWire_referenced hobjects _ _) ?_
  exact ofWire_ite (fun _ => ofWire_referenced hobjects _ _) ofWire_none

end Wire

/-- Items read one after the other are all of the wire. -/
theorem decodesAll_ofWire {item : Bytes → List OpackScalar → Option OpackDecoded}
    (hitem : ∀ data objects, (∀ scalar ∈ objects, scalar.OfWire) → OfWire (item data objects))
    {decoded : List OpackDecoded} {data : Bytes} {objects : List OpackScalar} {remaining : Bytes}
    {after : List OpackScalar} (hobjects : ∀ scalar ∈ objects, scalar.OfWire)
    (hdecodes : DecodesAll item decoded data objects remaining after) :
    EachItem OpackScalar.OfWire (decoded.map OpackDecoded.value) ∧
      ∀ scalar ∈ after, scalar.OfWire := by
  induction decoded generalizing data objects with
  | nil =>
      rw [hdecodes.2]
      exact ⟨trivial, hobjects⟩
  | cons first rest ih =>
      have hfirst := hitem data objects hobjects first hdecodes.1
      have hrest := ih hfirst.2 hdecodes.2
      exact ⟨⟨hfirst.1, hrest.1⟩, hrest.2⟩

/-- An entry of the changed dictionary is the new one or an old one. -/
theorem setEntry_mem {entries : OpackEntries} {key : OpackScalar} {object : Option Nat}
    {value : OpackValue} {entry : OpackScalar × Option Nat × OpackValue}
    (hmem : entry ∈ setEntry entries key object value) :
    (entry.1 = key ∨ ∃ other ∈ entries, entry.1 = other.1) ∧
      (entry.2.2 = value ∨ ∃ other ∈ entries, entry.2.2 = other.2.2) := by
  induction entries with
  | nil =>
      rw [setEntry, List.mem_singleton] at hmem
      rw [hmem]
      exact ⟨.inl rfl, .inl rfl⟩
  | cons held rest ih =>
      obtain ⟨heldKey, heldObject, old⟩ := held
      rw [setEntry] at hmem
      split at hmem
      · obtain rfl | hmem := List.mem_cons.mp hmem
        · exact ⟨.inr ⟨_, List.mem_cons_self, rfl⟩, .inl rfl⟩
        · have hother := List.mem_cons_of_mem (heldKey, heldObject, old) hmem
          exact ⟨.inr ⟨entry, hother, rfl⟩, .inr ⟨entry, hother, rfl⟩⟩
      · obtain rfl | hmem := List.mem_cons.mp hmem
        · exact ⟨.inr ⟨_, List.mem_cons_self, rfl⟩, .inr ⟨_, List.mem_cons_self, rfl⟩⟩
        · obtain ⟨hkey, hvalue⟩ := ih hmem
          refine ⟨hkey.imp_right ?_, hvalue.imp_right ?_⟩
          · rintro ⟨other, hother, heq⟩
            exact ⟨other, List.mem_cons_of_mem _ hother, heq⟩
          · rintro ⟨other, hother, heq⟩
            exact ⟨other, List.mem_cons_of_mem _ hother, heq⟩

/-- A property of all items is one of all entries. -/
theorem buildEntries_each {property : OpackScalar → Prop} {entries built : OpackEntries}
    {decoded : List OpackDecoded}
    (hentries : ∀ entry ∈ entries, property entry.1 ∧ entry.2.2.Each property)
    (hdecoded : EachItem property (decoded.map OpackDecoded.value))
    (hbuild : buildEntries entries (pairUp decoded) = some built) :
    ∀ entry ∈ built, property entry.1 ∧ entry.2.2.Each property := by
  match decoded with
  | [] | [_] =>
      cases hbuild
      exact hentries
  | key :: value :: rest =>
      obtain ⟨hkeyEach, hvalueEach, hrest⟩ := hdecoded
      rw [pairUp_cons, buildEntries] at hbuild
      cases hkey : key.value with
      | scalar scalar =>
          rw [hkey] at hbuild hkeyEach
          rw [OpackValue.Each] at hkeyEach
          refine buildEntries_each ?_ hrest hbuild
          intro entry hmem
          obtain ⟨hentryKey, hentryValue⟩ := setEntry_mem hmem
          constructor
          · obtain heq | ⟨other, hother, heq⟩ := hentryKey
            · rwa [heq]
            · rw [heq]
              exact (hentries other hother).1
          · obtain heq | ⟨other, hother, heq⟩ := hentryValue
            · rwa [heq]
            · rw [heq]
              exact (hentries other hother).2
      | list items =>
          rw [hkey] at hbuild
          cases hbuild
      | dict entries =>
          rw [hkey] at hbuild
          cases hbuild

theorem eachEntry_entryPairs {property : OpackScalar → Prop} {entries : OpackEntries}
    (hentries : ∀ entry ∈ entries, property entry.1 ∧ entry.2.2.Each property) :
    EachEntry property (entryPairs entries) := by
  induction entries with
  | nil => trivial
  | cons entry rest ih =>
      rw [List.forall_mem_cons] at hentries
      exact ⟨⟨by rw [OpackValue.Each]; exact hentries.1.1, hentries.1.2⟩, ih hentries.2⟩

/-- What the decoder returns has only scalars of the wire. -/
theorem unpackWith_ofWire (depth : Nat) (data : Bytes) {objects : List OpackScalar}
    (hobjects : ∀ scalar ∈ objects, scalar.OfWire) : OfWire (unpackWith depth data objects) := by
  induction depth generalizing data objects with
  | zero => exact ofWire_none
  | succ depth ih =>
      match data with
      | [] => exact ofWire_none
      | tag :: body =>
          have hitem : ∀ data objects, (∀ scalar ∈ objects, scalar.OfWire) →
              OfWire (unpackWith depth data objects) :=
            fun data objects hobjects => ih data hobjects
          have hdecodes := unpackWith_decodes depth
          rw [unpackWith]
          refine ofWire_ite (fun _ => ?_) (ofWire_ite (fun _ => ?_) ?_)
          · intro decoded hdecoded
            simp only [Option.bind_eq_bind, Option.bind_eq_some_iff] at hdecoded
            obtain ⟨⟨values, remaining, after⟩, hsteps, hresult⟩ := hdecoded
            cases hresult
            obtain ⟨items, _, rfl, hall⟩ := (containerSteps_values hdecodes).mp hsteps
            have heach := decodesAll_ofWire hitem hobjects hall
            rw [OpackDecoded.loose, OpackValue.Each]
            exact heach
          · intro decoded hdecoded
            simp only [Option.bind_eq_bind, Option.bind_eq_some_iff] at hdecoded
            obtain ⟨⟨pairs, remaining, after⟩, hsteps, entries, hbuild, hresult⟩ := hdecoded
            cases hresult
            obtain ⟨items, _, rfl, hall⟩ := (containerSteps_entries hdecodes).mp hsteps
            have heach := decodesAll_ofWire hitem hobjects hall
            rw [OpackDecoded.loose, OpackValue.Each]
            refine ⟨eachEntry_entryPairs ?_, heach.2⟩
            exact buildEntries_each (fun _ hmem => by cases hmem) heach.1 hbuild
          · exact unpackScalar_ofWire hobjects tag.toNat

/-! ## Echoed values -/

/-- An integer whose width the encoder knows, or any other scalar. -/
def OpackScalar.PackWidth : OpackScalar → Prop
  | int _ (some width) => width = 1 ∨ width = 2 ∨ width = 4 ∨ width = 8
  | _ => True

/-- A scalar that carries what was received has a width that `pack` writes. -/
theorem OpackScalar.packWidth_of_carriedBy {scalar other : OpackScalar}
    (hcarried : scalar.carriedBy other = true) (hreceived : other.received = other) :
    scalar.PackWidth := by
  cases scalar with
  | int value size =>
      cases size with
      | none => trivial
      | some width =>
          cases other with
          | int otherValue otherSize =>
              simp only [carriedBy, int.injEq, decide_eq_true_eq] at hcarried
              obtain ⟨rfl, rfl⟩ := hcarried
              simp only [received, int.injEq, true_and] at hreceived
              exact writtenWidth_cases hreceived
          | _ => simp [carriedBy] at hcarried
  | _ => trivial

theorem OpackScalar.fits_of_packWidth {scalar : OpackScalar} (hwire : scalar.OfWire)
    (hwidth : scalar.PackWidth) : scalar.Fits := by
  cases scalar with
  | int value size =>
      cases size with
      | none =>
          have hvalue : value < 2 ^ 64 := hwire
          exact (@fits_of_own (.int value none) ⟨by omega, rfl⟩).mpr trivial
      | some width =>
          have hvalue : value < 256 ^ width := hwire
          obtain rfl | rfl | rfl | rfl : width = 1 ∨ width = 2 ∨ width = 4 ∨ width = 8 := hwidth
          all_goals exact hvalue
  | _ => exact hwire

theorem packWidth_of_alignScalar {scalar : OpackScalar} {forms : List OpackForm}
    {objects after : List OpackScalar} (htracked : Tracked forms objects)
    (halign : alignScalar scalar forms objects = some after) : scalar.PackWidth := by
  rw [alignScalar] at halign
  dsimp only at halign
  split at halign
  · split at halign
    next other hother =>
      split at halign
      next hcarried =>
        have hreceived := htracked.received other (List.mem_of_getElem? hother)
        exact OpackScalar.packWidth_of_carriedBy hcarried.2 hreceived
      next => cases halign
    next => cases halign
  · split at halign
    next hcarried =>
      exact OpackScalar.packWidth_of_carriedBy hcarried scalar.received_received
    next => cases halign

mutual

/-- Only integers of the encoder's widths are aligned. -/
theorem packWidth_of_align : ∀ {value : OpackValue} {forms : List OpackForm}
    {objects after : List OpackScalar}, Tracked forms objects →
    value.align forms objects = some after → value.Each OpackScalar.PackWidth
  | .scalar _, _, _, _, htracked, halign => by
      rw [OpackValue.align] at halign
      rw [OpackValue.Each]
      exact packWidth_of_alignScalar htracked halign
  | .list _, _, _, _, htracked, halign => by
      rw [OpackValue.align] at halign
      rw [OpackValue.Each]
      split at halign
      · cases halign
      · exact packWidthItems_of_align htracked halign
  | .dict _, _, _, _, htracked, halign => by
      rw [OpackValue.align] at halign
      rw [OpackValue.Each]
      split at halign
      · cases halign
      · exact packWidthEntries_of_align htracked halign

theorem packWidthItems_of_align : ∀ {items : List OpackValue} {forms : List OpackForm}
    {objects after : List OpackScalar}, Tracked forms objects →
    alignItems items forms objects = some after → EachItem OpackScalar.PackWidth items
  | [], _, _, _, _, _ => trivial
  | _ :: _, _, _, _, htracked, halign => by
      rw [alignItems, Option.bind_eq_some_iff] at halign
      obtain ⟨_, hfirst, hrest⟩ := halign
      exact ⟨packWidth_of_align htracked hfirst,
        packWidthItems_of_align (tracked_of_align htracked hfirst) hrest⟩

theorem packWidthEntries_of_align : ∀ {entries : List (OpackValue × OpackValue)}
    {forms : List OpackForm} {objects after : List OpackScalar}, Tracked forms objects →
    alignEntries entries forms objects = some after → EachEntry OpackScalar.PackWidth entries
  | [], _, _, _, _, _ => trivial
  | (_, _) :: _, _, _, _, htracked, halign => by
      rw [alignEntries, Option.bind_eq_some_iff] at halign
      obtain ⟨_, hkey, halign⟩ := halign
      rw [Option.bind_eq_some_iff] at halign
      obtain ⟨_, hvalue, hrest⟩ := halign
      have hafterKey := tracked_of_align htracked hkey
      exact ⟨⟨packWidth_of_align htracked hkey, packWidth_of_align hafterKey hvalue⟩,
        packWidthEntries_of_align (tracked_of_align hafterKey hvalue) hrest⟩

end

/-- When a decoded value survives being echoed. Its keys are apart unless two of
them are the same NaN. -/
structure EchoRoundTrip (packDepth unpackDepth : Nat) (value : OpackValue) : Prop where
  packHeight : value.height ≤ packDepth
  unpackHeight : value.height ≤ unpackDepth
  widths : value.Each OpackScalar.PackWidth
  keyed : value.WellKeyed
  aligned : value.Aligned

/-- A decoded value is packed, read back and keeps its widths when it is nested
within the recursion limits, its integers have the encoder's widths and it is
aligned; and only then, as far as references have twenty-four bits. -/
theorem opack_echo (wireDepth packDepth unpackDepth : Nat) (data rest : Bytes)
    (value : OpackValue) (hunpack : unpack wireDepth data = some (value, rest)) :
    (EchoRoundTrip packDepth unpackDepth value → RoundTrips packDepth unpackDepth value []) ∧
      (FewForms value → RoundTrips packDepth unpackDepth value [] →
        EchoRoundTrip packDepth unpackDepth value) := by
  obtain ⟨decoded, hdecoded, hresult⟩ := Option.map_eq_some_iff.mp hunpack
  cases hresult
  have hwire := (unpackWith_ofWire wireDepth data (fun _ hmem => by cases hmem) decoded
    hdecoded).1
  constructor
  · intro hready
    have hfits : decoded.value.Fits :=
      hwire.imp (fun _ hscalar => OpackScalar.fits_of_packWidth hscalar) hready.widths
    exact roundTrips_of_ready ⟨hready.packHeight, hready.unpackHeight, hfits, hready.keyed,
      hready.aligned⟩ []
  · intro hfew hround
    have hready := ready_of_roundTrips hfew hround
    obtain ⟨after, halign⟩ := Option.isSome_iff_exists.mp hready.aligned
    exact ⟨hready.packHeight, hready.unpackHeight, packWidth_of_align tracked_nil halign,
      hready.keyed, hready.aligned⟩

/-- A list of one byte-wide integer twice. -/
def sizedIntegers : OpackValue :=
  .list [.scalar (.int 5 (some 1)), .scalar (.int 5 (some 1))]

theorem opack_echo_sized :
    unpack 2 [0xD2, 0x30, 5, 0x30, 5, 9] = some (sizedIntegers, [9]) ∧
      EchoRoundTrip 1000 1000 sizedIntegers ∧ RoundTrips 1000 1000 sizedIntegers [] := by
  have hunpack : unpack 2 [0xD2, 0x30, 5, 0x30, 5, 9] = some (sizedIntegers, [9]) := by
    have hbyte : ∀ rest : Bytes, fromLittleEndian ((5 :: rest).take 1) = 5 := fun _ => rfl
    simp [unpack, unpackWith, containerSteps, repeatStep, valueStep, unpackScalar,
      OpackDecoded.kept, OpackDecoded.loose, hbyte, OpackScalar.pyEq, OpackScalar.number?,
      sizedIntegers, -List.take_succ_cons]
  have hready : EchoRoundTrip 1000 1000 sizedIntegers := by
    refine ⟨by decide, by decide, ?_, ?_, by unfold OpackValue.Aligned; decide +kernel⟩
    · simp [sizedIntegers, OpackValue.Each, EachItem, OpackScalar.PackWidth]
    · simp [sizedIntegers, OpackValue.WellKeyed, ItemsWellKeyed]
  exact ⟨hunpack, hready, (opack_echo 2 1000 1000 _ [9] sizedIntegers hunpack).1 hready⟩

/-- An integer of sixteen bytes is decoded, but has no packed form. -/
theorem opack_echo_fails :
    ∃ value, unpack 1000 (0x34 :: List.replicate 16 0xFF) = some (value, []) ∧
      pack 1000 value = none ∧ ¬RoundTrips 1000 1000 value [] := by
  have hremaining : (unpack 1000 (0x34 :: List.replicate 16 0xFF)).map Prod.snd = some [] := by
    decide +kernel
  have hpack : (unpack 1000 (0x34 :: List.replicate 16 0xFF)).map
      (fun result => pack 1000 result.1) = some none := by
    decide +kernel
  obtain ⟨⟨value, rest⟩, hunpack, hrest⟩ := Option.map_eq_some_iff.mp hremaining
  cases hrest
  rw [hunpack, Option.map_some, Option.some.injEq] at hpack
  refine ⟨value, hunpack, hpack, ?_⟩
  rintro ⟨packed, other, hpacked, _⟩
  rw [hpack] at hpacked
  cases hpacked

end CompanionBridge
