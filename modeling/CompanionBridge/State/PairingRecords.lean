import CompanionBridge.Library.JsonWriting
import CompanionBridge.State.WindowRecord

/-!
# The records of the pairing state

What the identity, the recovery marker and the paired clients are written as, and
what is made of any content that is found in their place. A record that was written
is read back as it was.
-/

namespace CompanionBridge

/-- The number of nested values that the interpreter reads. -/
structure Nesting where
  depth : Nat
  positive : 0 < depth

/-! ## Texts -/

/-- A text as the bytes of a file. -/
def encodeText (text : List Char) : Bytes :=
  utf8 (String.ofList text)

/-- Printable text has no line end to translate. -/
theorem universalNewlines_plain {text : List Char} (hplain : text.all Json.isPrintable = true) :
    universalNewlines text = text := by
  induction text with
  | nil => rfl
  | cons char rest ih =>
      obtain ⟨hchar, hrest⟩ := Bool.and_eq_true_iff.mp (List.all_cons ▸ hplain)
      have hreturn : char ≠ '\r' := by
        rintro rfl
        exact absurd hchar (by decide)
      rw [universalNewlines.eq_def]
      split
      · rename_i heq
        exact absurd (List.cons.inj heq).1 hreturn
      · rename_i heq
        exact absurd (List.cons.inj heq).1 hreturn
      · rename_i heq
        obtain ⟨rfl, rfl⟩ := List.cons.inj heq
        rw [ih hrest]
      · rename_i heq
        exact absurd heq (by simp)

/-- A `dict` is read back from the file it was written to. -/
theorem loadRecord_dumps (nesting : Nesting) {space : List Char} (hspace : space.all (· = ' ') = true)
    {members : List (PyString × Json.Written)}
    (hlegible : ∀ member ∈ members, Json.Joined member.1 ∧ member.2.Legible) :
    loadRecord nesting.depth (encodeText (Json.dumps space members)) =
      .ok (Json.ofWritten members) := by
  have hblank : ∀ char ∈ space, char = ' ' := by simpa using List.all_eq_true.mp hspace
  have hspaces : space.all Json.isSpace = true :=
    List.all_eq_true.mpr fun char hchar => hblank char hchar ▸ by decide
  have hprintable : space.all Json.isPrintable = true :=
    List.all_eq_true.mpr fun char hchar => hblank char hchar ▸ by decide
  have hplain : (Json.dumps space members).all Json.isPrintable = true :=
    Json.dumps_printable hprintable fun member hmember => (hlegible member hmember).2.printable
  have hread : ∀ member ∈ members, Json.Joined member.1 ∧
      ∀ depth, member.2.ReadBy (Json.scanValue depth) :=
    fun member hmember => (hlegible member hmember).imp_right fun h => h.readBy
  rw [loadRecord, encodeText, decodeUtf8_utf8]
  dsimp only
  rw [String.toList_ofList, universalNewlines_plain hplain, loadText,
    Json.loads_dumps hspaces hread nesting.positive]

/-- A text of characters has no surrogates at all. -/
theorem joined_ofString (text : String) : Json.Joined (PyString.ofString text) := by
  have hvalid : ∀ point ∈ PyString.ofString text,
      point < 0xd800 ∨ 0xdfff < point ∧ point < 0x110000 := by
    intro point hpoint
    obtain ⟨char, -, rfl⟩ := List.mem_map.mp hpoint
    exact char.valid
  refine ⟨fun point hpoint => ?_, ?_⟩
  · rcases hvalid point hpoint with hlow | ⟨-, hbound⟩
    · exact hlow.trans (by decide)
    · exact hbound
  · apply List.isChain_iff_forall_rel_of_append_cons_cons.mpr
    rintro first second before after hsplit ⟨hhigh, -⟩
    simp only [Json.isHighSurrogate, Bool.and_eq_true, decide_eq_true_eq] at hhigh
    have hpoint := hvalid first (hsplit ▸ by simp)
    omega

theorem joined_of_lower {text : PyString} (hlower : text.all isLowerHexDigit = true) :
    Json.Joined text := by
  refine Json.joined_of_plain fun point hpoint => ?_
  have hdigit := List.all_eq_true.mp hlower point hpoint
  simp only [isLowerHexDigit, Bool.or_eq_true, Bool.and_eq_true, decide_eq_true_eq] at hdigit
  omega

theorem joined_of_generation {generation : PyString} (hvalid : isGeneration generation = true) :
    Json.Joined generation := by
  simp only [isGeneration, Bool.and_eq_true] at hvalid
  exact joined_of_lower hvalid.2

/-- What is written in hexadecimal is read back. -/
theorem fromHex_hex (bytes : Bytes) : Bytes.fromHex (PyString.ofString bytes.hex) = some bytes := by
  have hdigit : ∀ value < 16, Json.hexValue (Nat.digitChar value).toNat = some value := by decide
  rw [hex_toList]
  induction bytes with
  | nil => rfl
  | cons byte rest ih =>
      have hbyte := byte.toNat_lt
      have hhigh := hdigit (byte.toNat / 16) (by omega)
      have hlow := hdigit (byte.toNat % 16) (by omega)
      have hspace : isAsciiSpace (Nat.digitChar (byte.toNat / 16)).toNat = false :=
        not_space_of_lower (digitChar_lower (by omega))
      have hvalue : 16 * (byte.toNat / 16) + byte.toNat % 16 = byte.toNat := by omega
      rw [List.flatMap_cons, List.cons_append, List.cons_append, List.nil_append, Bytes.fromHex,
        if_neg (by simp [hspace]), hhigh, hlow, ih]
      simp only [bind, Option.bind, pure]
      rw [hvalue, UInt8.ofNat_toNat]

/-! ## The server identity -/

/-- The identity that an enrollment window is bound to. -/
structure ServerIdentity where
  identifier : PyString
  privateKey : Bytes
  generation : PyString
  deriving DecidableEq, Repr

/-- What `_load_identity` requires, of strings that a file can hold. -/
structure ServerIdentity.Valid (identity : ServerIdentity) : Prop where
  identifier : identity.identifier ≠ []
  joined : Json.Joined identity.identifier
  privateKey : identity.privateKey.length = 32
  generation : isGeneration identity.generation = true

/-- What `_write_identity` writes. -/
def identityRecord (identity : ServerIdentity) : Bytes :=
  encodeText (Json.dumps [] [
    (PyString.ofString "generation", .string identity.generation),
    (PyString.ofString "private_key", .string (PyString.ofString identity.privateKey.hex)),
    (PyString.ofString "uuid", .string identity.identifier)])

/-- An identity as it is found: one of an older version has no generation. -/
structure StoredIdentity where
  identifier : PyString
  privateKey : Bytes
  generation : Option PyString
  deriving DecidableEq, Repr

/-- What an identity that is found may raise. -/
inductive IdentityError where
  | serverIdentity
  | recursion
  deriving DecidableEq, Repr

/-- The generation of an identity: absent, which only some callers allow, or valid. -/
def storedGeneration (allowLegacy : Bool) : Option Json → Option (Option PyString)
  | none => if allowLegacy then some none else none
  | some .null => if allowLegacy then some none else none
  | some (.string generation) => if isGeneration generation then some (some generation) else none
  | some _ => none

/-- The fields of an identity. `none` is a `ServerIdentityError`. -/
def identityFields (allowLegacy : Bool) : Json → Option StoredIdentity
  | .object members =>
      match Json.get members (PyString.ofString "uuid"),
          Json.get members (PyString.ofString "private_key") with
      | some (.string identifier), some (.string encoded) => do
          let privateKey ← Bytes.fromHex encoded
          guard (identifier ≠ [] ∧ privateKey.length = 32)
          let generation ← storedGeneration allowLegacy
            (Json.get members (PyString.ofString "generation"))
          return { identifier, privateKey, generation }
      | _, _ => none
  | _ => none

/-- `_load_identity` of a content. -/
def loadIdentity (nesting : Nesting) (allowLegacy : Bool) (content : Bytes) :
    Except IdentityError StoredIdentity :=
  match loadRecord nesting.depth content with
  | .error .recursionError => .error .recursion
  | .error _ => .error .serverIdentity
  | .ok value =>
      match identityFields allowLegacy value with
      | some identity => .ok identity
      | none => .error .serverIdentity

def ServerIdentity.stored (identity : ServerIdentity) : StoredIdentity where
  identifier := identity.identifier
  privateKey := identity.privateKey
  generation := some identity.generation

/-- `_load_identity` reads back what `_write_identity` wrote. -/
theorem loadIdentity_record (nesting : Nesting) (allowLegacy : Bool) {identity : ServerIdentity}
    (hvalid : identity.Valid) :
    loadIdentity nesting allowLegacy (identityRecord identity) = .ok identity.stored := by
  have hgeneration := joined_of_generation hvalid.generation
  have hloaded := @loadRecord_dumps nesting [] rfl [
    (PyString.ofString "generation", .string identity.generation),
    (PyString.ofString "private_key", .string (PyString.ofString identity.privateKey.hex)),
    (PyString.ofString "uuid", .string identity.identifier)] (by
      simp only [List.forall_mem_cons, List.not_mem_nil, false_implies, implies_true, and_true]
      exact ⟨⟨joined_ofString _, .string hgeneration⟩,
        ⟨joined_ofString _, .string (joined_of_lower (hex_lower _))⟩,
        joined_ofString _, .string hvalid.joined⟩)
  have huuid : ∀ first second third : Json, Json.get [(PyString.ofString "generation", first),
      (PyString.ofString "private_key", second), (PyString.ofString "uuid", third)]
      (PyString.ofString "uuid") = some third := fun _ _ _ => rfl
  have hkey : ∀ first second third : Json, Json.get [(PyString.ofString "generation", first),
      (PyString.ofString "private_key", second), (PyString.ofString "uuid", third)]
      (PyString.ofString "private_key") = some second := fun _ _ _ => rfl
  have hfirst : ∀ first second third : Json, Json.get [(PyString.ofString "generation", first),
      (PyString.ofString "private_key", second), (PyString.ofString "uuid", third)]
      (PyString.ofString "generation") = some first := fun _ _ _ => rfl
  rw [loadIdentity, identityRecord, hloaded]
  simp only [Json.ofWritten, Json.Written.string, List.map_cons, List.map_nil, identityFields,
    huuid, hkey, hfirst, fromHex_hex, storedGeneration, hvalid.generation, if_true]
  simp [hvalid.identifier, hvalid.privateKey, ServerIdentity.stored]

/-- The strings of a loaded record are joined. -/
theorem loadRecord_joined {depth : Nat} {content : Bytes} {value : Json}
    (hload : loadRecord depth content = .ok value) : Json.StringsJoined value := by
  unfold loadRecord at hload
  split at hload
  · exact absurd hload (by simp)
  · unfold loadText at hload
    split at hload
    · rename_i hloads
      cases hload
      exact Json.loads_joined hloads
    · exact absurd hload (by simp)
    · exact absurd hload (by simp)

/-- A stored generation is absent only where a legacy record is allowed, and well formed
otherwise. -/
theorem storedGeneration_eq_some {allowLegacy : Bool} {value : Option Json}
    {generation : Option PyString} (h : storedGeneration allowLegacy value = some generation) :
    (generation = none → allowLegacy = true) ∧
      ∀ text, generation = some text → isGeneration text = true := by
  unfold storedGeneration at h
  split at h
  · split_ifs at h with hlegacy
    cases h
    exact ⟨fun _ => hlegacy, nofun⟩
  · split_ifs at h with hlegacy
    cases h
    exact ⟨fun _ => hlegacy, nofun⟩
  · split_ifs at h with hvalid
    cases h
    refine ⟨nofun, fun text htext => ?_⟩
    cases htext
    exact hvalid
  · cases h

/-- What `_load_identity` accepts, whoever wrote it. -/
structure StoredIdentity.Accepted (allowLegacy : Bool) (identity : StoredIdentity) : Prop where
  identifier : identity.identifier ≠ []
  joined : Json.Joined identity.identifier
  privateKey : identity.privateKey.length = 32
  legacy : identity.generation = none → allowLegacy = true
  generation : ∀ generation, identity.generation = some generation → isGeneration generation = true

/-- An identity whose fields are read has passed the reader's checks. -/
theorem accepted_of_identityFields {allowLegacy : Bool} {value : Json} {identity : StoredIdentity}
    (hjoined : Json.StringsJoined value) (hfields : identityFields allowLegacy value = some identity) :
    identity.Accepted allowLegacy := by
  unfold identityFields at hfields
  split at hfields
  · split at hfields
    · rename_i huuid hkey
      simp only [Option.bind_eq_bind, Option.bind_eq_some_iff, Option.guard_eq_some'] at hfields
      obtain ⟨privateKey, -, _, ⟨hidentifier, hlength⟩, generation, hgeneration, hsame⟩ := hfields
      cases hsame
      obtain ⟨hlegacy, hvalid⟩ := storedGeneration_eq_some hgeneration
      cases hjoined.get huuid with
      | string htext => exact ⟨hidentifier, htext, hlength, hlegacy, hvalid⟩
    · cases hfields
  · cases hfields

/-- What the identity loader returns has passed the loader's checks. -/
theorem accepted_of_loadIdentity {nesting : Nesting} {allowLegacy : Bool} {content : Bytes}
    {identity : StoredIdentity} (hload : loadIdentity nesting allowLegacy content = .ok identity) :
    identity.Accepted allowLegacy := by
  unfold loadIdentity at hload
  split at hload
  · cases hload
  · cases hload
  · rename_i value hvalue
    cases hfields : identityFields allowLegacy value with
    | none =>
        rw [hfields] at hload
        cases hload
    | some found =>
        rw [hfields] at hload
        cases hload
        exact accepted_of_identityFields (loadRecord_joined hvalue) hfields

/-! ## The recovery marker -/

/-- What a recovery is to do. -/
inductive ResetOperation where
  | identityReset
  | clearAll
  deriving DecidableEq, Repr

def ResetOperation.word : ResetOperation → PyString
  | .identityReset => PyString.ofString "identity-reset"
  | .clearAll => PyString.ofString "clear-all"

/-- What `_write_tombstone` writes. -/
def tombstoneRecord (operation : ResetOperation) (generation : PyString) : Bytes :=
  encodeText (Json.dumps [] [
    (PyString.ofString "generation", .string generation),
    (PyString.ofString "operation", .string operation.word)])

/-- The exact shape of a marker that lets the identity stand. -/
def isClearAll : Json → Bool
  | .object members =>
      match Json.get members (PyString.ofString "operation"),
          Json.get members (PyString.ofString "generation") with
      | some (.string operation), some (.string generation) =>
          operation = ResetOperation.clearAll.word && isGeneration generation
      | _, _ => false
  | _ => false

/-- The operation that a marker asks for: a damaged one asks for a reset. `none` is a
`RecursionError`. -/
def recordedOperation (nesting : Nesting) (content : Bytes) : Option ResetOperation :=
  match loadRecord nesting.depth content with
  | .error .recursionError => none
  | .error _ => some .identityReset
  | .ok value => some (if isClearAll value then .clearAll else .identityReset)

/-- A marker that was written asks for the operation it was written for. -/
theorem recordedOperation_tombstone (nesting : Nesting) (operation : ResetOperation)
    {generation : PyString} (hgeneration : isGeneration generation = true) :
    recordedOperation nesting (tombstoneRecord operation generation) = some operation := by
  have hjoined := joined_of_generation hgeneration
  have hword : Json.Joined operation.word := by
    cases operation
    · exact joined_ofString _
    · exact joined_ofString _
  have hloaded := @loadRecord_dumps nesting [] rfl [
    (PyString.ofString "generation", .string generation),
    (PyString.ofString "operation", .string operation.word)] (by
      simp only [List.forall_mem_cons, List.not_mem_nil, false_implies, implies_true, and_true]
      exact ⟨⟨joined_ofString _, .string hjoined⟩,
        joined_ofString _, .string hword⟩)
  have hoperation : ∀ first second : Json, Json.get [(PyString.ofString "generation", first),
      (PyString.ofString "operation", second)] (PyString.ofString "operation") = some second :=
    fun _ _ => rfl
  have hfirst : ∀ first second : Json, Json.get [(PyString.ofString "generation", first),
      (PyString.ofString "operation", second)] (PyString.ofString "generation") = some first :=
    fun _ _ => rfl
  rw [recordedOperation, tombstoneRecord, hloaded]
  simp only [Json.ofWritten, Json.Written.string, List.map_cons, List.map_nil, isClearAll,
    hoperation, hfirst, hgeneration, Bool.and_true]
  cases operation
  · rfl
  · rfl

end CompanionBridge
