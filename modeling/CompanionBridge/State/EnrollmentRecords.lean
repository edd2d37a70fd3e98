import CompanionBridge.State.PairingRecords
import CompanionBridge.State.WindowReader

/-!
# The records of enrollment

The paired clients are a `dict` from identifiers to keys, which a store reads, changes
and writes as a whole. The enrollment window is a record beside it.
-/

namespace CompanionBridge

/-! ## Paired clients -/

/-- A `dict` from identifiers to keys in hexadecimal. -/
abbrev PairedMap : Type := List (PyString × PyString)

namespace PairedMap

/-- What a store may hold. -/
structure Valid (clients : PairedMap) : Prop where
  nodup : (clients.map Prod.fst).Nodup
  capacity : clients.length ≤ maxPairedClients
  identifiers : ∀ entry ∈ clients, entry.1 ≠ [] ∧ Json.Joined entry.1
  keys : ∀ entry ∈ clients, Json.Joined entry.2 ∧
    ∃ key, Bytes.fromHex entry.2 = some key ∧ key.length = ltpkBytes

theorem valid_nil : Valid [] := ⟨.nil, Nat.zero_le _, nofun, nofun⟩

/-- `updated[identifier] = key`. -/
def assign (clients : PairedMap) (identifier key : PyString) : PairedMap :=
  if identifier ∈ clients.map Prod.fst then
    clients.map fun entry => if entry.1 = identifier then (identifier, key) else entry
  else clients ++ [(identifier, key)]

/-- `del updated[identifier]`. -/
def drop (clients : PairedMap) (identifier : PyString) : PairedMap :=
  clients.filter fun entry => entry.1 ≠ identifier

variable {clients : PairedMap} {identifier key : PyString}

theorem lookup_eq_none :
    clients.lookup identifier = none ↔ identifier ∉ clients.map Prod.fst := by
  rw [List.lookup_eq_none_iff, List.mem_map]
  constructor
  · rintro hnone ⟨entry, hentry, rfl⟩
    exact absurd (hnone entry hentry) (by simp)
  · intro habsent entry hentry
    apply bne_iff_ne.mpr
    rintro rfl
    exact habsent ⟨entry, hentry, rfl⟩

/-- An entry after an assignment is the new one or another's. -/
theorem mem_assign {entry : PyString × PyString} (h : entry ∈ clients.assign identifier key) :
    entry = (identifier, key) ∨ entry ∈ clients ∧ entry.1 ≠ identifier := by
  unfold assign at h
  split_ifs at h with hmem
  · obtain ⟨old, hold, rfl⟩ := List.mem_map.mp h
    split_ifs with hsame
    · exact .inl rfl
    · exact .inr ⟨hold, hsame⟩
  · rcases List.mem_append.mp h with hold | hnew
    · refine .inr ⟨hold, ?_⟩
      rintro rfl
      exact hmem (List.mem_map_of_mem hold)
    · exact .inl (List.mem_singleton.mp hnew)

/-- Assigning keeps the order of the identifiers. -/
theorem keys_assign (clients : PairedMap) (identifier key : PyString) :
    (clients.assign identifier key).map Prod.fst =
      if identifier ∈ clients.map Prod.fst then clients.map Prod.fst
      else clients.map Prod.fst ++ [identifier] := by
  unfold assign
  split_ifs with hmem
  · rw [List.map_map]
    apply List.map_congr_left
    intro entry _
    by_cases hsame : entry.1 = identifier
    · simp [hsame]
    · simp [hsame]
  · rw [List.map_append]
    rfl

theorem lookup_assign (clients : PairedMap) (identifier key : PyString) :
    (clients.assign identifier key).lookup identifier = some key := by
  unfold assign
  split_ifs with hmem
  · induction clients with
    | nil => exact absurd hmem List.not_mem_nil
    | cons entry rest ih =>
        by_cases hsame : entry.1 = identifier
        · simp [hsame]
        · have hrest : identifier ∈ rest.map Prod.fst := by
            rcases List.mem_cons.mp hmem with hfirst | hrest
            · exact absurd hfirst.symm hsame
            · exact hrest
          rw [List.map_cons, if_neg hsame, List.lookup_cons, beq_eq_false_iff_ne.mpr (Ne.symm hsame)]
          exact ih hrest
  · rw [List.lookup_append, lookup_eq_none.mpr hmem]
    simp

/-- A key that is there already is not written again. -/
theorem assign_fixed (hnodup : (clients.map Prod.fst).Nodup)
    (hlookup : clients.lookup identifier = some key) :
    clients.assign identifier key = clients := by
  obtain ⟨before, after, rfl, hbefore⟩ := List.lookup_eq_some_iff.mp hlookup
  have hmem : identifier ∈ (before ++ (identifier, key) :: after).map Prod.fst := by simp
  rw [assign, if_pos hmem]
  have hsame (entry : PyString × PyString) (hentry : entry ∈ before ++ (identifier, key) :: after) :
      (if entry.1 = identifier then (identifier, key) else entry) = entry := by
    split_ifs with heq
    · exact (List.inj_on_of_nodup_map hnodup (by simp) hentry heq.symm)
    · rfl
  rw [List.map_congr_left hsame, List.map_id']

theorem drop_fixed (hlookup : clients.lookup identifier = none) :
    clients.drop identifier = clients := by
  apply List.filter_eq_self.mpr
  intro entry hentry
  apply decide_eq_true
  rintro rfl
  exact lookup_eq_none.mp hlookup (List.mem_map_of_mem hentry)

theorem lookup_drop (clients : PairedMap) (identifier : PyString) :
    (clients.drop identifier).lookup identifier = none := by
  rw [lookup_eq_none, List.mem_map]
  rintro ⟨entry, hentry, rfl⟩
  exact of_decide_eq_true (List.mem_filter.mp hentry).2 rfl

/-- A valid key for a new identifier, while there is room. -/
theorem Valid.assign (hvalid : clients.Valid) (hidentifier : identifier ≠ [])
    (hjoined : Json.Joined identifier) {bytes : Bytes} (hlength : bytes.length = ltpkBytes)
    (hcapacity : clients.lookup identifier = none → clients.length < maxPairedClients) :
    (clients.assign identifier (PyString.ofString bytes.hex)).Valid where
  nodup := by
    rw [keys_assign]
    split_ifs with hmem
    · exact hvalid.nodup
    · exact List.nodup_append.mpr ⟨hvalid.nodup, List.nodup_singleton _, by
        rintro other hother held hheld rfl
        exact hmem (List.mem_singleton.mp hheld ▸ hother)⟩
  capacity := by
    have hlength := congrArg List.length (keys_assign clients identifier
      (PyString.ofString bytes.hex))
    rw [List.length_map] at hlength
    rw [hlength]
    split_ifs with hmem
    · exact (List.length_map _).trans_le hvalid.capacity
    · rw [List.length_append, List.length_map, List.length_singleton]
      exact hcapacity (lookup_eq_none.mpr hmem)
  identifiers := by
    intro entry hentry
    rcases mem_assign hentry with rfl | ⟨hold, -⟩
    · exact ⟨hidentifier, hjoined⟩
    · exact hvalid.identifiers entry hold
  keys := by
    intro entry hentry
    rcases mem_assign hentry with rfl | ⟨hold, -⟩
    · exact ⟨joined_ofString _, bytes, fromHex_hex bytes, hlength⟩
    · exact hvalid.keys entry hold

theorem Valid.drop (hvalid : clients.Valid) (identifier : PyString) :
    (clients.drop identifier).Valid where
  nodup := hvalid.nodup.sublist (List.filter_sublist.map Prod.fst)
  capacity := (List.length_filter_le _ _).trans hvalid.capacity
  identifiers := fun entry hentry => hvalid.identifiers entry (List.mem_of_mem_filter hentry)
  keys := fun entry hentry => hvalid.keys entry (List.mem_of_mem_filter hentry)

end PairedMap

/-- What `_save` writes. -/
def clientsRecord (clients : PairedMap) : Bytes :=
  encodeText (Json.dumps [' '] (clients.map fun entry => (entry.1, .string entry.2)))

/-- The clients of an object, once it is known to be valid. -/
def clientEntries (members : List (PyString × Json)) : PairedMap :=
  (Json.dict members).filterMap fun
    | (identifier, .string key) => some (identifier, key)
    | _ => none

/-- What a store that is found may raise. -/
inductive ClientsError where
  | pairedClients
  | recursion
  deriving DecidableEq, Repr

/-- `_read` of a content. -/
def readClients (nesting : Nesting) (content : Bytes) : Except ClientsError PairedMap :=
  match loadRecord nesting.depth content with
  | .error .recursionError => .error .recursion
  | .error _ => .error .pairedClients
  | .ok (.object members) =>
      if isValidStore (.object members) then .ok (clientEntries members) else .error .pairedClients
  | .ok _ => .error .pairedClients

/-- Members without equal names are a `dict` as they are. -/
theorem dict_of_nodup {members : List (PyString × Json)} (hnodup : (members.map Prod.fst).Nodup) :
    Json.dict members = members := by
  induction members with
  | nil => rfl
  | cons member rest ih =>
      obtain ⟨name, value⟩ := member
      obtain ⟨hfresh, hrest⟩ := List.nodup_cons.mp hnodup
      rw [Json.dict, if_neg hfresh, ih hrest]

theorem nodup_dict (members : List (PyString × Json)) : ((Json.dict members).map Prod.fst).Nodup := by
  induction members with
  | nil => exact .nil
  | cons member rest ih =>
      obtain ⟨name, value⟩ := member
      rw [Json.dict]
      split_ifs with hmem
      · exact ih
      · refine List.nodup_cons.mpr ⟨fun hname => hmem ?_, ih⟩
        exact List.map_subset Prod.fst (Json.dict_subset rest) hname

theorem clientEntries_strings {clients : PairedMap} (hnodup : (clients.map Prod.fst).Nodup) :
    clientEntries (clients.map fun entry => (entry.1, Json.string entry.2)) = clients := by
  have hnames : ((clients.map fun entry => (entry.1, Json.string entry.2)).map Prod.fst).Nodup := by
    rw [List.map_map]
    exact hnodup
  rw [clientEntries, dict_of_nodup hnames, List.filterMap_map]
  exact List.filterMap_some

/-- `_read` reads back what `_save` wrote. -/
theorem readClients_record (nesting : Nesting) {clients : PairedMap} (hvalid : clients.Valid) :
    readClients nesting (clientsRecord clients) = .ok clients := by
  have hlegible : ∀ member ∈ clients.map fun entry => (entry.1, Json.Written.string entry.2),
      Json.Joined member.1 ∧ member.2.Legible := by
    intro member hmember
    obtain ⟨entry, hentry, rfl⟩ := List.mem_map.mp hmember
    exact ⟨(hvalid.identifiers entry hentry).2, .string (hvalid.keys entry hentry).1⟩
  have hloaded := @loadRecord_dumps nesting [' '] (by decide) _ hlegible
  have hmembers : (clients.map fun entry => (entry.1, Json.Written.string entry.2)).map
      (fun member => (member.1, member.2.value)) =
      clients.map fun entry => (entry.1, Json.string entry.2) := by
    rw [List.map_map]
    rfl
  have hnames : ((clients.map fun entry => (entry.1, Json.string entry.2)).map Prod.fst).Nodup := by
    rw [List.map_map]
    exact hvalid.nodup
  have hstore : isValidStore
      (.object (clients.map fun entry => (entry.1, Json.string entry.2))) = true := by
    simp only [isValidStore, dict_of_nodup hnames, List.length_map, hvalid.capacity,
      decide_true, Bool.true_and, List.all_eq_true, List.mem_map]
    rintro member ⟨entry, hentry, rfl⟩
    obtain ⟨-, key, hkey, hlength⟩ := hvalid.keys entry hentry
    simp [isValidEntry, (hvalid.identifiers entry hentry).1, hkey, hlength]
  rw [readClients, clientsRecord, hloaded, Json.ofWritten, hmembers]
  dsimp only
  rw [if_pos hstore, clientEntries_strings hvalid.nodup]

/-- An entry that is read is a member that is a string. -/
theorem mem_clientEntries {members : List (PyString × Json)} {entry : PyString × PyString}
    (hentry : entry ∈ clientEntries members) :
    (entry.1, Json.string entry.2) ∈ Json.dict members := by
  obtain ⟨⟨name, value⟩, hmember, hsome⟩ := List.mem_filterMap.mp hentry
  cases value with
  | string key =>
      obtain rfl := Option.some.inj hsome
      exact hmember
  | _ => cases hsome

theorem names_clientEntries (members : List (PyString × Json)) :
    ((clientEntries members).map Prod.fst).Sublist ((Json.dict members).map Prod.fst) := by
  rw [clientEntries, List.map_filterMap]
  induction Json.dict members with
  | nil => exact .slnil
  | cons member rest ih =>
      obtain ⟨name, value⟩ := member
      cases value with
      | string key => exact ih.cons_cons name
      | _ => exact ih.cons name

/-- A store that is read is valid, whoever wrote it. -/
theorem valid_of_readClients {nesting : Nesting} {content : Bytes} {clients : PairedMap}
    (hread : readClients nesting content = .ok clients) : clients.Valid := by
  unfold readClients at hread
  split at hread
  · cases hread
  · cases hread
  · rename_i members hload
    split_ifs at hread with hstore
    cases hread
    simp only [isValidStore, Bool.and_eq_true, decide_eq_true_eq, List.all_eq_true] at hstore
    obtain ⟨hcapacity, hentries⟩ := hstore
    have hjoined : ∀ entry ∈ clientEntries members,
        Json.Joined entry.1 ∧ Json.Joined entry.2 := by
      intro entry hentry
      have hmember := Json.dict_subset members (mem_clientEntries hentry)
      cases loadRecord_joined hload with
      | object hnames hvalues =>
          refine ⟨hnames _ hmember, ?_⟩
          cases hvalues _ hmember with
          | string htext => exact htext
    have hvalid : ∀ entry ∈ clientEntries members, entry.1 ≠ [] ∧
        ∃ key, Bytes.fromHex entry.2 = some key ∧ key.length = ltpkBytes := by
      intro entry hentry
      simpa [isValidEntry, Option.any_eq_true] using hentries _ (mem_clientEntries hentry)
    refine ⟨(nodup_dict members).sublist (names_clientEntries members), ?_, ?_, ?_⟩
    · exact (List.length_filterMap_le _ _).trans hcapacity
    · exact fun entry hentry => ⟨(hvalid entry hentry).1, (hjoined entry hentry).1⟩
    · exact fun entry hentry => ⟨(hjoined entry hentry).2, (hvalid entry hentry).2⟩
  · cases hread

/-! ## The enrollment window -/

/-- A number of seconds as `float.__repr__` writes it, which is read back as it is. -/
structure Expiry where
  value : ℚ
  text : List Char
  starts : ∃ first rest, text = first :: rest ∧ first.isDigit = true
  printable : text.all Json.isPrintable = true
  reads : ∀ mark rest, mark = ',' ∨ mark = '\x7d' →
    Json.scanNumber (text ++ mark :: rest) = .ok (.float (.finite value), mark :: rest)
  deriving DecidableEq

namespace Expiry

def written (expiry : Expiry) : Json.Written where
  value := .float (.finite expiry.value)
  text := expiry.text

theorem legible (expiry : Expiry) : expiry.written.Legible where
  readBy := by
    obtain ⟨first, rest, htext, hfirst⟩ := expiry.starts
    exact fun depth => Json.Written.number_readBy htext hfirst expiry.reads depth
  printable := expiry.printable

/-- A number as `float.__repr__` writes it without an exponent. -/
def fixed (first : Char) (digits fraction : List Char) (value : ℚ)
    (hfirst : first.isDigit = true) (hnonzero : first ≠ '0')
    (hdigits : digits.all Char.isDigit = true) (hfraction : fraction.all Char.isDigit = true)
    (hsome : fraction ≠ [])
    (hvalue : Doubles.nearest (Json.decimal false (first :: digits) ('.' :: fraction) []) =
      .finite value) : Expiry where
  value := value
  text := first :: digits ++ '.' :: fraction
  starts := ⟨first, _, rfl, hfirst⟩
  printable := by
    -- digits and a point are printable, so the text is written as it is
    have hprintable {text : List Char} (htext : text.all Char.isDigit = true) :
        text.all Json.isPrintable = true :=
      List.all_eq_true.mpr fun char hchar =>
        Json.isPrintable_digit (List.all_eq_true.mp htext char hchar)
    rw [List.cons_append, List.all_cons, List.all_append, List.all_cons,
      Json.isPrintable_digit hfirst, hprintable hdigits, hprintable hfraction]
    rfl
  reads := by
    intro mark rest hmark
    rw [Json.scanNumber_fixed rest hfirst hnonzero hdigits hfraction hsome hmark, hvalue]

end Expiry

/-- A `PairingWindow` that was opened. -/
structure OpenedWindow where
  pin : PyString
  expiry : Expiry
  generation : PyString
  serverIdentifier : PyString
  serverGeneration : PyString
  deriving DecidableEq

namespace OpenedWindow

/-- What `open_locked` writes. -/
def record (window : OpenedWindow) : Bytes :=
  encodeText (Json.dumps [] [
    (PyString.ofString "expires_at", window.expiry.written),
    (PyString.ofString "generation", .string window.generation),
    (PyString.ofString "pin", .string window.pin),
    (PyString.ofString "server_generation", .string window.serverGeneration),
    (PyString.ofString "server_identifier", .string window.serverIdentifier)])

def stored (window : OpenedWindow) : StoredWindow where
  pin := window.pin
  expiresAt := window.expiry.value
  generation := window.generation
  serverIdentifier := window.serverIdentifier
  serverGeneration := window.serverGeneration

/-- What `open_locked` makes sure of. -/
structure Valid (digits : DigitTable) (window : OpenedWindow) : Prop where
  stored : window.stored.Valid digits
  pin : Json.Joined window.pin
  identifier : Json.Joined window.serverIdentifier

end OpenedWindow

/-- What a window is in the content of its record. -/
def readWindow (digits : DigitTable) (nesting : Nesting) (content : Bytes) :
    Except RecordError StoredWindow :=
  loadRecord nesting.depth content >>= parseWindow digits

/-- The members of a window record, in the order they are written in. -/
def windowMembers (expiresAt generation pin serverGeneration serverIdentifier : Json) :
    List (PyString × Json) :=
  [(PyString.ofString "expires_at", expiresAt), (PyString.ofString "generation", generation),
    (PyString.ofString "pin", pin), (PyString.ofString "server_generation", serverGeneration),
    (PyString.ofString "server_identifier", serverIdentifier)]

/-- `_parse_window` reads back what `open_locked` wrote. -/
theorem readWindow_record {digits : DigitTable} (nesting : Nesting) {window : OpenedWindow}
    (hvalid : window.Valid digits) :
    readWindow digits nesting window.record = .ok window.stored := by
  have hserver : isGeneration window.serverGeneration = true := by
    have h := hvalid.stored.binding
    simp only [isValidBinding, Bool.and_eq_true] at h
    exact h.2
  have hloaded := @loadRecord_dumps nesting [] rfl [
    (PyString.ofString "expires_at", window.expiry.written),
    (PyString.ofString "generation", .string window.generation),
    (PyString.ofString "pin", .string window.pin),
    (PyString.ofString "server_generation", .string window.serverGeneration),
    (PyString.ofString "server_identifier", .string window.serverIdentifier)] (by
      simp only [List.forall_mem_cons, List.not_mem_nil, false_implies, implies_true, and_true]
      exact ⟨⟨joined_ofString _, window.expiry.legible⟩,
        ⟨joined_ofString _, .string (joined_of_generation hvalid.stored.generation)⟩,
        ⟨joined_ofString _, .string hvalid.pin⟩,
        ⟨joined_ofString _, .string (joined_of_generation hserver)⟩,
        joined_ofString _, .string hvalid.identifier⟩)
  -- the members are looked up by name, in whatever order they stand
  have hexpiry : ∀ first second third fourth fifth : Json, Json.get
      (windowMembers first second third fourth fifth) (PyString.ofString "expires_at") =
        some first := fun _ _ _ _ _ => rfl
  have hgeneration : ∀ first second third fourth fifth : Json, Json.get
      (windowMembers first second third fourth fifth) (PyString.ofString "generation") =
        some second := fun _ _ _ _ _ => rfl
  have hpin : ∀ first second third fourth fifth : Json, Json.get
      (windowMembers first second third fourth fifth) (PyString.ofString "pin") =
        some third := fun _ _ _ _ _ => rfl
  have hbound : ∀ first second third fourth fifth : Json, Json.get
      (windowMembers first second third fourth fifth) (PyString.ofString "server_generation") =
        some fourth := fun _ _ _ _ _ => rfl
  have hidentifier : ∀ first second third fourth fifth : Json, Json.get
      (windowMembers first second third fourth fifth) (PyString.ofString "server_identifier") =
        some fifth := fun _ _ _ _ _ => rfl
  have hstrong := hvalid.stored.pin
  have htoken := hvalid.stored.generation
  have hbinding := hvalid.stored.binding
  simp only [OpenedWindow.stored] at hstrong htoken hbinding
  rw [readWindow, OpenedWindow.record, hloaded, Json.ofWritten]
  change parseWindow digits (.object (windowMembers (.float (.finite window.expiry.value))
    (.string window.generation) (.string window.pin) (.string window.serverGeneration)
    (.string window.serverIdentifier))) = _
  simp only [parseWindow, textField, expiryField, hexpiry, hgeneration, hpin, hbound, hidentifier,
    require, bind, Except.bind, hstrong, htoken, hbinding, decide_true, if_true]
  rfl

end CompanionBridge
