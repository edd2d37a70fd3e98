import CompanionBridge.Deploy.BundleNames
import Mathlib.Logic.Function.Basic

/-!
# Image metadata

The file that says which image is deployed and which one was before, as the
manager writes it and as it reads it back.
-/

namespace CompanionBridge

/-! ## Reading -/

inductive MetadataKey where
  | image
  | sourceCommit
  | uid
  | gid
  | previousImage
  | previousSourceCommit
  deriving DecidableEq, Repr

namespace MetadataKey

def all : List MetadataKey :=
  [.image, .sourceCommit, .uid, .gid, .previousImage, .previousSourceCommit]

def name : MetadataKey → Text
  | .image => "ATVR4SAMSUNG_IMAGE".toList
  | .sourceCommit => "ATVR4SAMSUNG_SOURCE_COMMIT".toList
  | .uid => "ATVR4SAMSUNG_UID".toList
  | .gid => "ATVR4SAMSUNG_GID".toList
  | .previousImage => "ATVR4SAMSUNG_PREVIOUS_IMAGE".toList
  | .previousSourceCommit => "ATVR4SAMSUNG_PREVIOUS_SOURCE_COMMIT".toList

def named? (name : Text) : Option MetadataKey :=
  all.find? fun key => key.name = name

end MetadataKey

/-- The values of the keys that were seen so far. -/
abbrev MetadataFields : Type := MetadataKey → Option Text

/-- The `METADATA_` variables. Without a previous image the last two are empty. -/
structure ImageMetadata where
  image : Text
  sourceCommit : Text
  uid : Text
  gid : Text
  previousImage : Text
  previousSourceCommit : Text
  deriving DecidableEq, Repr

/-- The lines of a file as `read` finds them: without zero bytes, and with a last
line that may lack its end. -/
def fileLines (content : Text) : List Text :=
  let lines := (content.filter (· ≠ '\x00')).splitOn '\n'
  if lines.getLast? = some [] then lines.dropLast else lines

/-- One line of `load_image_metadata`. -/
def readMetadataLine (fields : MetadataFields) (line : Text) : Option MetadataFields := do
  guard (line ≠ [] ∧ '=' ∈ line)
  guard (¬ containsControlChars line)
  let value := (line.dropWhile (· ≠ '=')).tail
  guard (value ≠ [])
  let key ← MetadataKey.named? (line.takeWhile (· ≠ '='))
  guard (fields key = none)
  return Function.update fields key (some value)

def isLowerHex (char : Char) : Bool :=
  ('0' ≤ char && char ≤ '9') || ('a' ≤ char && char ≤ 'f')

def isHexDigest (length : Nat) (text : Text) : Bool :=
  text.length = length && text.all isLowerHex

def imagePrefix : Text := "ghcr.io/vb3/atvr4samsung@sha256:".toList

def isImageDigest (text : Text) : Bool :=
  imagePrefix.isPrefixOf text && isHexDigest 64 (text.drop imagePrefix.length)

def isSourceCommit (text : Text) : Bool :=
  isHexDigest 40 text

def isUserId (text : Text) : Bool :=
  isVersionNumber (fun char => '0' ≤ char ∧ char ≤ '9') text

/-- `load_image_metadata` of the content of a file. -/
def loadImageMetadata (content : Text) : Option ImageMetadata := do
  let fields ← (fileLines content).foldlM readMetadataLine fun _ => none
  let image ← fields .image
  let sourceCommit ← fields .sourceCommit
  let uid ← fields .uid
  let gid ← fields .gid
  -- the previous image and its commit are given together or not at all
  guard ((fields .previousImage).isSome = (fields .previousSourceCommit).isSome)
  guard (isImageDigest image)
  guard (isSourceCommit sourceCommit)
  guard (isUserId uid)
  guard (isUserId gid)
  guard ((fields .previousImage).all isImageDigest)
  guard ((fields .previousSourceCommit).all isSourceCommit)
  return {
    image := image
    sourceCommit := sourceCommit
    uid := uid
    gid := gid
    previousImage := (fields .previousImage).getD []
    previousSourceCommit := (fields .previousSourceCommit).getD [] }

/-! ## Writing -/

namespace ImageMetadata

def lines (metadata : ImageMetadata) : List (MetadataKey × Text) :=
  [(.image, metadata.image), (.sourceCommit, metadata.sourceCommit), (.uid, metadata.uid),
    (.gid, metadata.gid)] ++
    if metadata.previousImage ≠ [] then
      [(.previousImage, metadata.previousImage),
        (.previousSourceCommit, metadata.previousSourceCommit)]
    else []

end ImageMetadata

/-- `render_image_env`. -/
def renderImageEnv (metadata : ImageMetadata) : Text :=
  metadata.lines.flatMap fun (key, value) => key.name ++ '=' :: value ++ ['\n']

/-! ## What is read is what was written -/

section Lines

variable {rest : Text}

/-- Lines that were written with their ends are the lines that are read. -/
theorem fileLines_flatMap {lines : List Text}
    (h : ∀ line ∈ lines, '\n' ∉ line ∧ '\x00' ∉ line) :
    fileLines (lines.flatMap fun line => line ++ ['\n']) = lines := by
  have hkept : (lines.flatMap fun line => line ++ ['\n']).filter (· ≠ '\x00') =
      lines.flatMap fun line => line ++ ['\n'] := by
    refine List.filter_eq_self.mpr fun char hchar => ?_
    obtain ⟨line, hline, hchar⟩ := List.mem_flatMap.mp hchar
    rcases List.mem_append.mp hchar with hmem | hmem
    · exact decide_eq_true fun heq => (h line hline).2 (heq ▸ hmem)
    · obtain rfl := List.mem_singleton.mp hmem
      decide
  have hsplit : (lines.flatMap fun line => line ++ ['\n']).splitOn '\n' = lines ++ [[]] := by
    clear hkept
    induction lines with
    | nil => rfl
    | cons line rest ih =>
        obtain ⟨hline, hrest⟩ := List.forall_mem_cons.mp h
        rw [List.flatMap_cons, List.append_assoc, List.singleton_append,
          List.splitOn_append_cons_self_of_not_mem hline.1, ih hrest, List.cons_append]
  rw [fileLines, hkept, hsplit]
  simp

/-- A line that was written sets its own key. -/
theorem readMetadataLine_written {fields : MetadataFields} {key : MetadataKey} {value : Text}
    (hvalue : value ≠ []) (hcontrol : containsControlChars value = false)
    (hnew : fields key = none) :
    readMetadataLine fields (key.name ++ '=' :: value) =
      some (Function.update fields key (some value)) := by
  have hname : key.name.all (· ≠ '=') = true := by cases key <;> decide
  have htake : (key.name ++ '=' :: value).takeWhile (· ≠ '=') = key.name := by
    rw [List.takeWhile_append_of_pos (List.all_eq_true.mp hname)]
    simp
  have hdrop : (key.name ++ '=' :: value).dropWhile (· ≠ '=') = '=' :: value := by
    rw [List.dropWhile_append_of_pos (List.all_eq_true.mp hname)]
    simp
  have hnamed : MetadataKey.named? key.name = some key := by cases key <;> decide
  have hline : containsControlChars (key.name ++ '=' :: value) = false := by
    have hkey : containsControlChars key.name = false := by cases key <;> decide
    unfold containsControlChars at hkey hcontrol ⊢
    rw [List.any_append, List.any_cons, hkey, hcontrol]
    decide
  unfold readMetadataLine
  rw [htake, hdrop, hline]
  simp [hvalue, hnamed, hnew]

end Lines

namespace ImageMetadata

/-- What `load_image_metadata` requires of the values. -/
structure Valid (metadata : ImageMetadata) : Prop where
  image : isImageDigest metadata.image
  sourceCommit : isSourceCommit metadata.sourceCommit
  uid : isUserId metadata.uid
  gid : isUserId metadata.gid
  previous : (metadata.previousImage = [] ∧ metadata.previousSourceCommit = []) ∨
    (isImageDigest metadata.previousImage ∧ isSourceCommit metadata.previousSourceCommit)

end ImageMetadata

section Values

variable {text : Text}

/-- A value without control characters that is not empty. -/
def IsPlainValue (text : Text) : Prop :=
  text ≠ [] ∧ containsControlChars text = false

/-- Printable characters are no control characters. -/
theorem containsControlChars_of_forall (h : ∀ char ∈ text, 32 ≤ char.toNat ∧ char.toNat < 127) :
    containsControlChars text = false := by
  refine List.any_eq_false.mpr fun char hchar => ?_
  obtain ⟨hlow, hhigh⟩ := h char hchar
  simp only [Bool.or_eq_true, decide_eq_true_eq]
  omega

theorem toNat_of_lowerHex {char : Char} (h : isLowerHex char) :
    32 ≤ char.toNat ∧ char.toNat < 127 := by
  simp only [isLowerHex, Bool.or_eq_true, Bool.and_eq_true, decide_eq_true_eq] at h
  rcases h with ⟨hlow, hhigh⟩ | ⟨hlow, hhigh⟩
  · have hlow' : 0x30 ≤ char.toNat := hlow
    have hhigh' : char.toNat ≤ 0x39 := hhigh
    omega
  · have hlow' : 0x61 ≤ char.toNat := hlow
    have hhigh' : char.toNat ≤ 0x66 := hhigh
    omega

/-- A digest has its length and nothing to escape. -/
theorem hexDigest_plain {length : Nat} (h : isHexDigest length text) :
    text.length = length ∧ containsControlChars text = false := by
  simp only [isHexDigest, Bool.and_eq_true, decide_eq_true_eq, List.all_eq_true] at h
  exact ⟨h.1, containsControlChars_of_forall fun char hchar => toNat_of_lowerHex (h.2 char hchar)⟩

theorem sourceCommit_plain (h : isSourceCommit text) : IsPlainValue text := by
  obtain ⟨hlength, hplain⟩ := hexDigest_plain h
  exact ⟨by rintro rfl; simp at hlength, hplain⟩

theorem imageDigest_plain (h : isImageDigest text) : IsPlainValue text := by
  simp only [isImageDigest, Bool.and_eq_true] at h
  obtain ⟨rest, rfl⟩ := List.isPrefixOf_iff_prefix.mp h.1
  obtain ⟨-, hplain⟩ := hexDigest_plain h.2
  rw [List.drop_left] at hplain
  have himage : containsControlChars imagePrefix = false := by decide
  have hlong : imagePrefix ≠ [] := by decide
  refine ⟨List.append_ne_nil_of_left_ne_nil hlong rest, ?_⟩
  unfold containsControlChars at himage hplain ⊢
  rw [List.any_append, himage, hplain]
  rfl

theorem userId_plain (h : isUserId text) : IsPlainValue text := by
  refine ⟨by rintro rfl; simp [isUserId, isVersionNumber] at h, ?_⟩
  refine containsControlChars_of_forall fun char hchar => ?_
  have hdigit : '0' ≤ char ∧ char ≤ '9' := by
    simpa using digit_of_isVersionNumber h hchar
  have hlow : 0x30 ≤ char.toNat := hdigit.1
  have hhigh : char.toNat ≤ 0x39 := hdigit.2
  omega

end Values

/-- What `load_image_metadata` accepts is valid. -/
theorem valid_of_loadImageMetadata {content : Text} {metadata : ImageMetadata}
    (h : loadImageMetadata content = some metadata) : metadata.Valid := by
  simp only [loadImageMetadata, Option.bind_eq_bind, Option.bind_eq_some_iff,
    Option.guard_eq_some'] at h
  obtain ⟨fields, -, image, -, sourceCommit, -, uid, -, gid, -, _, hboth, _, himage, _, hsource, _,
    huid, _, hgid, _, hpreviousImage, _, hpreviousSource, hmetadata⟩ := h
  obtain rfl := Option.some.inj hmetadata
  refine ⟨himage, hsource, huid, hgid, ?_⟩
  cases hprevious : fields .previousImage with
  | none =>
      cases hcommit : fields .previousSourceCommit with
      | none => exact .inl ⟨rfl, rfl⟩
      | some commit => simp [hprevious, hcommit] at hboth
  | some previousImage =>
      cases hcommit : fields .previousSourceCommit with
      | none => simp [hprevious, hcommit] at hboth
      | some commit =>
          rw [hprevious] at hpreviousImage
          rw [hcommit] at hpreviousSource
          exact .inr ⟨hpreviousImage, hpreviousSource⟩

/-- A line of the file. -/
def writtenLine (entry : MetadataKey × Text) : Text :=
  entry.1.name ++ '=' :: entry.2

theorem writtenLine_plain {entry : MetadataKey × Text} (h : IsPlainValue entry.2) :
    '\n' ∉ writtenLine entry ∧ '\x00' ∉ writtenLine entry := by
  have hline : containsControlChars (writtenLine entry) = false := by
    have hkey : containsControlChars entry.1.name = false := by cases entry.1 <;> decide
    have hvalue := h.2
    unfold containsControlChars at hkey hvalue ⊢
    rw [writtenLine, List.any_append, List.any_cons, hkey, hvalue]
    decide
  rw [containsControlChars, List.any_eq_false] at hline
  exact ⟨fun hmem => hline _ hmem (by decide), fun hmem => hline _ hmem (by decide)⟩

/-- Lines for different keys are read one after the other. -/
theorem foldlM_written {entries : List (MetadataKey × Text)} {fields : MetadataFields}
    (hkeys : (entries.map Prod.fst).Nodup) (hnew : ∀ entry ∈ entries, fields entry.1 = none)
    (hplain : ∀ entry ∈ entries, IsPlainValue entry.2) :
    (entries.map writtenLine).foldlM readMetadataLine fields =
      some fun key => (entries.lookup key).or (fields key) := by
  induction entries generalizing fields with
  | nil => simp
  | cons entry rest ih =>
      obtain ⟨key, value⟩ := entry
      obtain ⟨hhead, hkeys⟩ := List.nodup_cons.mp hkeys
      obtain ⟨hkey, hnew⟩ := List.forall_mem_cons.mp hnew
      obtain ⟨hvalue, hplain⟩ := List.forall_mem_cons.mp hplain
      have hlater : ∀ entry ∈ rest, Function.update fields key (some value) entry.1 = none := by
        intro entry hentry
        have hmem : entry.1 ∈ rest.map Prod.fst := List.mem_map_of_mem hentry
        have hne : entry.1 ≠ key := fun hsame => hhead (hsame ▸ hmem)
        rw [Function.update_of_ne hne, hnew entry hentry]
      rw [List.map_cons, List.foldlM_cons, writtenLine,
        readMetadataLine_written hvalue.1 hvalue.2 hkey]
      refine (ih hkeys hlater hplain).trans ?_
      congr 1
      funext other
      by_cases hsame : other = key
      · subst hsame
        have habsent : rest.lookup other = none := by
          refine List.lookup_eq_none_iff.mpr fun entry hentry => bne_iff_ne.mpr fun hsame => ?_
          have hmem : entry.1 ∈ rest.map Prod.fst := List.mem_map_of_mem hentry
          exact hhead (hsame ▸ hmem)
        simp [habsent]
      · have hbeq : (other == key) = false := beq_eq_false_iff_ne.mpr hsame
        rw [Function.update_of_ne hsame, List.lookup_cons, hbeq]

/-- Every value of valid metadata can be written on a line. -/
theorem lines_plain {metadata : ImageMetadata} (h : metadata.Valid) :
    ∀ entry ∈ metadata.lines, IsPlainValue entry.2 := by
  have hrequired : ∀ entry ∈ ([(.image, metadata.image), (.sourceCommit, metadata.sourceCommit),
      (.uid, metadata.uid), (.gid, metadata.gid)] : List (MetadataKey × Text)),
      IsPlainValue entry.2 := by
    simp only [List.forall_mem_cons, List.not_mem_nil, false_implies, implies_true, and_true]
    exact ⟨imageDigest_plain h.image, sourceCommit_plain h.sourceCommit, userId_plain h.uid,
      userId_plain h.gid⟩
  unfold ImageMetadata.lines
  rcases h.previous with ⟨hnone, -⟩ | ⟨himage, hsource⟩
  · simpa [hnone] using hrequired
  · have hplain := imageDigest_plain himage
    rw [if_pos hplain.1]
    refine List.forall_mem_append.mpr ⟨hrequired, ?_⟩
    simp only [List.forall_mem_cons, List.not_mem_nil, false_implies, implies_true, and_true]
    exact ⟨hplain, sourceCommit_plain hsource⟩

/-- No key is written twice, so none is refused when it is read back. -/
theorem lines_keys (metadata : ImageMetadata) : (metadata.lines.map Prod.fst).Nodup := by
  have hall : MetadataKey.all.Nodup := by decide
  have hrequired : (MetadataKey.all.take 4).Nodup := by decide
  unfold ImageMetadata.lines
  split_ifs
  · exact hall
  · exact hrequired

/-- The previous image is written only where there is one. -/
theorem lookup_previousImage (metadata : ImageMetadata) :
    metadata.lines.lookup .previousImage =
      if metadata.previousImage ≠ [] then some metadata.previousImage else none := by
  unfold ImageMetadata.lines
  split_ifs <;> rfl

theorem lookup_previousSourceCommit (metadata : ImageMetadata) :
    metadata.lines.lookup .previousSourceCommit =
      if metadata.previousImage ≠ [] then some metadata.previousSourceCommit else none := by
  unfold ImageMetadata.lines
  split_ifs <;> rfl

/-- `load_image_metadata` undoes `render_image_env`. -/
theorem loadImageMetadata_render {metadata : ImageMetadata} (h : metadata.Valid) :
    loadImageMetadata (renderImageEnv metadata) = some metadata := by
  have hplain := lines_plain h
  have hlines : fileLines (renderImageEnv metadata) = metadata.lines.map writtenLine := by
    have hwritten := @fileLines_flatMap (metadata.lines.map writtenLine) fun line hline => by
      obtain ⟨entry, hentry, rfl⟩ := List.mem_map.mp hline
      exact writtenLine_plain (hplain entry hentry)
    rwa [List.flatMap_map] at hwritten
  have hfields : (metadata.lines.map writtenLine).foldlM readMetadataLine (fun _ => none) =
      some fun key => metadata.lines.lookup key := by
    have hfold := @foldlM_written metadata.lines (fun _ => none) (lines_keys metadata)
      (fun _ _ => rfl) hplain
    simpa only [Option.or_none] using hfold
  have himage : metadata.lines.lookup .image = some metadata.image := rfl
  have hsource : metadata.lines.lookup .sourceCommit = some metadata.sourceCommit := rfl
  have huid : metadata.lines.lookup .uid = some metadata.uid := rfl
  have hgid : metadata.lines.lookup .gid = some metadata.gid := rfl
  rw [loadImageMetadata, hlines, hfields]
  simp only [Option.bind_eq_bind, Option.bind_some, himage, hsource, huid, hgid,
    lookup_previousImage, lookup_previousSourceCommit]
  rcases h.previous with ⟨hnone, hcommit⟩ | ⟨hprevious, hcommit⟩
  · cases metadata
    subst hnone hcommit
    simp [h.image, h.sourceCommit, h.uid, h.gid]
  · have hne := (imageDigest_plain hprevious).1
    simp [hne, hprevious, hcommit, h.image, h.sourceCommit, h.uid, h.gid]

end CompanionBridge
