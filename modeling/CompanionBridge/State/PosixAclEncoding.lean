import CompanionBridge.Protocol.OpackScalars
import CompanionBridge.State.PosixAcl

/-!
# The encoding of POSIX access lists

A list is its entries, encoded one after another behind a version. What the
parser returns are the entries of a well-formed list, and the check of an
ancestor lets pass exactly those lists that give nobody but the owner write or
search permission.
-/

namespace CompanionBridge

open LinuxAcl

/-! ## Lists and their encoding -/

structure AclEntry where
  tag : UInt16
  permissions : UInt16
  id : UInt32
  deriving DecidableEq

namespace AclEntry

def encode (entry : AclEntry) : Bytes :=
  littleEndian 2 entry.tag.toNat ++ littleEndian 2 entry.permissions.toNat ++
    littleEndian 4 entry.id.toNat

/-- What a mask leaves of the permissions; the owner and others are not masked. -/
def effective (entry : AclEntry) (masked : Option Nat) : Nat :=
  if entry.tag.toNat ∈ maskedTags then
    masked.elim entry.permissions.toNat (entry.permissions.toNat &&& ·)
  else entry.permissions.toNat

end AclEntry

def encodeAcl (entries : List AclEntry) : Bytes :=
  littleEndian 4 xattrVersion ++ entries.flatMap AclEntry.encode

/-- Entries of known kinds and permissions, the three base entries among them. -/
structure WellFormedAcl (entries : List AclEntry) : Prop where
  tags : ∀ entry ∈ entries, entry.tag.toNat ∈ knownTags
  permissions : ∀ entry ∈ entries, entry.permissions.toNat ≤ 7
  required : ∀ tag ∈ requiredTags, ∃ entry ∈ entries, entry.tag.toNat = tag

/-- The permissions of the mask of a list, if it has one. -/
def maskOf (entries : List AclEntry) : Option Nat :=
  (entries.find? fun entry => entry.tag.toNat = mask).map fun entry => entry.permissions.toNat

/-- A well-formed list that lets nobody but the owner write or search. -/
def HarmlessAcl (acl : Bytes) : Prop :=
  ∃ entries, acl = encodeAcl entries ∧ WellFormedAcl entries ∧
    ∀ entry ∈ entries, entry.tag.toNat ∈ nonownerTags → entry.effective (maskOf entries) &&& 3 = 0

/-! ## Parsing -/

/-- Bytes are the encoding of the number they decode to. -/
theorem littleEndian_fromLittleEndian (data : Bytes) :
    littleEndian data.length (fromLittleEndian data) = data := by
  induction data with
  | nil => rfl
  | cons byte rest ih =>
      have hbyte := byte.toNat_lt
      have hlow : UInt8.ofNat (byte.toNat + 256 * fromLittleEndian rest) = byte := by
        apply UInt8.toNat_inj.mp
        rw [UInt8.toNat_ofNat']
        omega
      have hhigh : (byte.toNat + 256 * fromLittleEndian rest) / 256 = fromLittleEndian rest := by
        omega
      rw [List.length_cons, fromLittleEndian, littleEndian, hlow, hhigh, ih]

/-- The tag and the permissions of an entry, as they are parsed. -/
def AclEntry.parsed (entry : AclEntry) : Nat × Nat :=
  (entry.tag.toNat, entry.permissions.toNat)

/-- Two bytes decode to a number below `2 ^ 16`. -/
theorem fromLittleEndian_pair (first second : UInt8) :
    fromLittleEndian [first, second] < 2 ^ 16 := by
  have hbound : fromLittleEndian [first, second] < 256 ^ 2 := fromLittleEndian_lt _
  exact Nat.lt_of_lt_of_eq hbound (by decide)

/-- Any eight bytes are an entry. -/
theorem exists_encode (first second third fourth fifth sixth seventh eighth : UInt8) :
    ∃ entry : AclEntry,
      entry.encode = [first, second, third, fourth, fifth, sixth, seventh, eighth] ∧
      entry.parsed = (fromLittleEndian [first, second], fromLittleEndian [third, fourth]) := by
  have htag := fromLittleEndian_pair first second
  have hpermissions := fromLittleEndian_pair third fourth
  have hid : fromLittleEndian [fifth, sixth, seventh, eighth] < 2 ^ 32 := by
    have hbound : fromLittleEndian [fifth, sixth, seventh, eighth] < 256 ^ 4 :=
      fromLittleEndian_lt _
    exact Nat.lt_of_lt_of_eq hbound (by decide)
  refine ⟨⟨.ofNat (fromLittleEndian [first, second]), .ofNat (fromLittleEndian [third, fourth]),
    .ofNat (fromLittleEndian [fifth, sixth, seventh, eighth])⟩, ?_, ?_⟩
  · have hfirst := littleEndian_fromLittleEndian [first, second]
    have hsecond := littleEndian_fromLittleEndian [third, fourth]
    have hthird := littleEndian_fromLittleEndian [fifth, sixth, seventh, eighth]
    simp only [AclEntry.encode, UInt16.toNat_ofNat', UInt32.toNat_ofNat', Nat.mod_eq_of_lt htag,
      Nat.mod_eq_of_lt hpermissions, Nat.mod_eq_of_lt hid]
    simp only [List.length_cons, List.length_nil] at hfirst hsecond hthird
    rw [hfirst, hsecond, hthird]
    rfl
  · simp only [AclEntry.parsed, UInt16.toNat_ofNat', Nat.mod_eq_of_lt htag,
      Nat.mod_eq_of_lt hpermissions]

/-- An entry is encoded in eight bytes, the first four of which are its tag and permissions.
-/
theorem encode_eq (entry : AclEntry) :
    ∃ first second third fourth fifth sixth seventh eighth : UInt8,
      entry.encode = [first, second, third, fourth, fifth, sixth, seventh, eighth] ∧
      entry.parsed = (fromLittleEndian [first, second], fromLittleEndian [third, fourth]) := by
  have htag : fromLittleEndian (littleEndian 2 entry.tag.toNat) = entry.tag.toNat := by
    apply fromLittleEndian_littleEndian
    exact Nat.lt_of_lt_of_eq entry.tag.toNat_lt (by decide)
  have hpermissions : fromLittleEndian (littleEndian 2 entry.permissions.toNat) =
      entry.permissions.toNat := by
    apply fromLittleEndian_littleEndian
    exact Nat.lt_of_lt_of_eq entry.permissions.toNat_lt (by decide)
  exact ⟨_, _, _, _, _, _, _, _, rfl, Prod.ext htag.symm hpermissions.symm⟩

/-- An encoded entry is parsed back if its tag is known and its permissions fit. -/
theorem parseEntries_encode (entry : AclEntry) (rest : Bytes) :
    parseEntries (entry.encode ++ rest) =
      if entry.tag.toNat ∉ knownTags then none
      else if 7 < entry.permissions.toNat then none
      else (parseEntries rest).map (entry.parsed :: ·) := by
  obtain ⟨_, _, _, _, _, _, _, _, hencode, hparsed⟩ := encode_eq entry
  obtain ⟨htag, hpermissions⟩ := Prod.ext_iff.mp hparsed
  dsimp only [AclEntry.parsed] at htag hpermissions
  rw [hencode]
  simp only [List.cons_append, List.nil_append, parseEntries]
  rw [← htag, ← hpermissions, hparsed, ← htag, ← hpermissions]

/-- Encoded entries are parsed back exactly when each of them passes both checks. -/
theorem parseEntries_entries {entries : List AclEntry} {pairs : List (Nat × Nat)} :
    parseEntries (entries.flatMap AclEntry.encode) = some pairs ↔
      (∀ entry ∈ entries, entry.tag.toNat ∈ knownTags) ∧
        (∀ entry ∈ entries, entry.permissions.toNat ≤ 7) ∧
        pairs = entries.map AclEntry.parsed := by
  induction entries generalizing pairs with
  | nil => simp [parseEntries, eq_comm]
  | cons entry rest ih =>
      rw [List.flatMap_cons, parseEntries_encode, List.forall_mem_cons, List.forall_mem_cons]
      by_cases htag : entry.tag.toNat ∈ knownTags
      · by_cases hpermissions : entry.permissions.toNat ≤ 7
        · rw [if_neg (not_not_intro htag), if_neg (Nat.not_lt_of_le hpermissions),
            Option.map_eq_some_iff]
          constructor
          · rintro ⟨others, hothers, rfl⟩
            obtain ⟨htags, hrest, rfl⟩ := ih.mp hothers
            exact ⟨⟨htag, htags⟩, ⟨hpermissions, hrest⟩, rfl⟩
          · rintro ⟨⟨-, htags⟩, ⟨-, hrest⟩, rfl⟩
            exact ⟨_, ih.mpr ⟨htags, hrest, rfl⟩, rfl⟩
        · rw [if_neg (not_not_intro htag), if_pos (Nat.lt_of_not_le hpermissions)]
          exact ⟨nofun, fun h => absurd h.2.1.1 hpermissions⟩
      · rw [if_pos htag]
        exact ⟨nofun, fun h => absurd h.1.1 htag⟩

/-- A payload of whole entries is the encoding of some. -/
theorem exists_entries {payload : Bytes} {count : Nat} (hlength : payload.length = 8 * count) :
    ∃ entries : List AclEntry, payload = entries.flatMap AclEntry.encode := by
  induction count generalizing payload with
  | zero =>
      obtain rfl := List.length_eq_zero_iff.mp hlength
      exact ⟨[], rfl⟩
  | succ count ih =>
      match payload with
      | [] | [_] | [_, _] | [_, _, _] | [_, _, _, _] | [_, _, _, _, _] | [_, _, _, _, _, _]
      | [_, _, _, _, _, _, _] =>
          simp only [List.length_cons, List.length_nil] at hlength
          omega
      | first :: second :: third :: fourth :: fifth :: sixth :: seventh :: eighth :: rest =>
          simp only [List.length_cons] at hlength
          have hrest : rest.length = 8 * count := by omega
          obtain ⟨entries, rfl⟩ := ih hrest
          obtain ⟨entry, hentry, -⟩ :=
            exists_encode first second third fourth fifth sixth seventh eighth
          refine ⟨entry :: entries, ?_⟩
          rw [List.flatMap_cons, hentry]
          rfl

theorem entries_length (entries : List AclEntry) :
    (entries.flatMap AclEntry.encode).length = 8 * entries.length := by
  induction entries with
  | nil => rfl
  | cons entry rest ih =>
      rw [List.flatMap_cons, List.length_append, ih, List.length_cons]
      simp only [AclEntry.encode, List.length_append, littleEndian_length]
      omega

/-- What is parsed is the encoding of a well-formed list. -/
theorem parsePosixAcl_eq_some {acl : Bytes} {pairs : List (Nat × Nat)} :
    parsePosixAcl acl = some pairs ↔
      ∃ entries, acl = encodeAcl entries ∧ WellFormedAcl entries ∧
        pairs = entries.map AclEntry.parsed := by
  have hrequired : ∀ entries : List AclEntry,
      (requiredTags.all fun tag => tag ∈ (entries.map AclEntry.parsed).map Prod.fst) = true ↔
        ∀ tag ∈ requiredTags, ∃ entry ∈ entries, entry.tag.toNat = tag := by
    intro entries
    simp [AclEntry.parsed]
  unfold parsePosixAcl
  dsimp only
  constructor
  · intro hparsed
    split_ifs at hparsed with hshort hversion hwhole
    rw [Option.filter_eq_some_iff] at hparsed
    -- the payload has a whole number of entries, so it is their encoding
    obtain ⟨count, hcount⟩ := Nat.dvd_of_mod_eq_zero (not_not.mp hwhole)
    obtain ⟨entries, hentries⟩ := exists_entries hcount
    rw [hentries, parseEntries_entries] at hparsed
    obtain ⟨⟨htags, hpermissions, rfl⟩, hbase⟩ := hparsed
    refine ⟨entries, ?_, ⟨htags, hpermissions, (hrequired entries).mp hbase⟩, rfl⟩
    have hheader : (acl.take 4).length = 4 := by
      rw [List.length_take]
      omega
    have hencoded := littleEndian_fromLittleEndian (acl.take 4)
    rw [hheader, not_not.mp hversion] at hencoded
    rw [encodeAcl, hencoded, ← hentries, List.take_append_drop]
  · rintro ⟨entries, rfl, hwell, rfl⟩
    have hheader : (littleEndian 4 xattrVersion).length = 4 := littleEndian_length 4 _
    have hlength : (encodeAcl entries).length = 4 + 8 * entries.length := by
      rw [encodeAcl, List.length_append, hheader, entries_length]
    have hversion : (encodeAcl entries).take 4 = littleEndian 4 xattrVersion :=
      List.take_left' hheader
    have hpayload : (encodeAcl entries).drop 4 = entries.flatMap AclEntry.encode :=
      List.drop_left' hheader
    rw [if_neg (by omega), hversion, if_neg (by decide), hpayload, entries_length,
      if_neg (by omega), Option.filter_eq_some_iff]
    exact ⟨parseEntries_entries.mpr ⟨hwell.tags, hwell.permissions, rfl⟩,
      (hrequired entries).mpr hwell.required⟩

/-- The mask of the parsed entries is the mask of the entries. -/
theorem maskOf_parsed (entries : List AclEntry) :
    ((entries.map AclEntry.parsed).find? fun entry => entry.1 = mask).map Prod.snd =
      maskOf entries := by
  rw [List.find?_map, Option.map_map]
  rfl

/-- The check of an ancestor lets pass the harmless lists and no others. -/
theorem ancestorAclIsUnsafe_access (acl : Bytes) :
    ancestorAclIsUnsafe [(.access, acl)] = false ↔ HarmlessAcl acl := by
  have hlookup : ([(.access, acl)] : List (AclAttribute × Bytes)).lookup .access = some acl := rfl
  unfold ancestorAclIsUnsafe
  rw [if_neg (by simp), hlookup]
  dsimp only
  -- a list that is not well formed counts as unsafe
  cases hparsed : parsePosixAcl acl with
  | none =>
      refine ⟨nofun, ?_⟩
      rintro ⟨entries, hacl, hwell, -⟩
      rw [parsePosixAcl_eq_some.mpr ⟨entries, hacl, hwell, rfl⟩] at hparsed
      cases hparsed
  | some pairs =>
      have hpairs : ∀ entries, acl = encodeAcl entries → WellFormedAcl entries →
          pairs = entries.map AclEntry.parsed := by
        intro entries hacl hwell
        have hsame := parsePosixAcl_eq_some.mpr ⟨entries, hacl, hwell, rfl⟩
        exact Option.some.inj (hparsed.symm.trans hsame)
      have hharmless : ∀ entries : List AclEntry, pairs = entries.map AclEntry.parsed →
          ((pairs.any fun pair => pair.1 ∈ nonownerTags &&
            (if pair.1 ∈ maskedTags then
              ((pairs.find? fun entry => entry.1 = mask).map Prod.snd).elim pair.2 (pair.2 &&& ·)
              else pair.2) &&& 0o3 ≠ 0) = false ↔
            ∀ entry ∈ entries, entry.tag.toNat ∈ nonownerTags →
              entry.effective (maskOf entries) &&& 3 = 0) := by
        rintro entries rfl
        rw [maskOf_parsed, List.any_map, List.any_eq_false]
        simp only [AclEntry.parsed, AclEntry.effective, Function.comp_apply, Bool.and_eq_true,
          ne_eq, not_and]
        constructor
        · intro h entry hentry hnonowner
          have hneither := h entry hentry (decide_eq_true hnonowner)
          exact not_not.mp fun hwrites => hneither (decide_eq_true hwrites)
        · intro h entry hentry hnonowner hwrites
          exact of_decide_eq_true hwrites (h entry hentry (of_decide_eq_true hnonowner))
      obtain ⟨entries, hacl, hwell, hsame⟩ := parsePosixAcl_eq_some.mp hparsed
      refine (hharmless entries hsame).trans ?_
      constructor
      · exact fun h => ⟨entries, hacl, hwell, h⟩
      · rintro ⟨others, hothers, hwellOthers, h⟩
        have hpassed := (hharmless others (hpairs others hothers hwellOthers)).mpr h
        exact (hharmless entries hsame).mp hpassed

end CompanionBridge
