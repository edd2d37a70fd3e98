import CompanionBridge.State.PosixAclEncoding

/-!
# What the access-list checks let pass

An object is checked as what it is to the state directory: an existing project
object, one just created, or an ancestor. In each role the checks see all of its
lists unless one attribute is unsupported: then what the other one shows is
dropped, and the object passes for one without a list.
-/

namespace CompanionBridge

open Interruptible LinuxAcl

/-! ## The decision -/

/-- What the attributes of an object read as, and what they read as once one has
been removed. -/
structure AclObject where
  readings : AclAttribute → Except Nat Bytes
  removals : AclAttribute → Except Nat Unit
  cleared : AclAttribute → Except Nat Bytes

/-- What the checked object is to the state directory. -/
inductive AclRole where
  | existing
  | created
  | ancestor
  deriving DecidableEq, Repr

namespace AclObject

def calls : AclCalls AclObject where
  getxattr name object := (object.readings name, object)
  removexattr name object := (object.removals name, { object with readings := object.cleared })

/-- `_validate_linux_posix_acl_fd` on the descriptor of an object. -/
def check (object : AclObject) (role : AclRole) :
    Except (Interruption DirectoryError) Unit × AclObject :=
  (validatePosixAcl calls (role = .created) (role = .ancestor)).perform object

/-- What acceptance in a role is to mean, `after` being the object afterwards. -/
def Permitted (object after : AclObject) : AclRole → Prop
  | .existing => ∀ name acl, object.readings name ≠ .ok acl
  | .created => ∀ name acl, after.readings name ≠ .ok acl
  | .ancestor => (∀ acl, object.readings .default ≠ .ok acl) ∧
      ∀ acl, object.readings .access = .ok acl → HarmlessAcl acl

end AclObject

/-- One attribute is unsupported while another one is there. -/
def Overlooks (readings : AclAttribute → Except Nat Bytes) : Prop :=
  ∃ unsupported errno shown acl, readings unsupported = .error errno ∧
    errno ∈ unsupportedErrnos ∧ readings shown = .ok acl

namespace AclObject

/-- There is a list, and removing what is there succeeds. -/
structure Clears (object : AclObject) : Prop where
  shown : ∃ name acl, object.readings name = .ok acl
  absent : ∀ name errno, object.readings name = .error errno → errno ∈ absentErrnos
  removed : ∀ name acl, object.readings name = .ok acl →
    ∀ errno, object.removals name = .error errno → errno ∈ absentErrnos

/-- In its role, no list of the object is overlooked that matters there. -/
def Sees (object : AclObject) : AclRole → Prop
  | .existing => ¬ Overlooks object.readings
  | .created => ¬ Overlooks object.readings ∧ (object.Clears → ¬ Overlooks object.cleared)
  | .ancestor => Overlooks object.readings →
      ∃ acl, object.readings .access = .ok acl ∧ HarmlessAcl acl

end AclObject

/-- Those of the attributes that are readable. -/
def shownAmong (readings : AclAttribute → Except Nat Bytes) (names : List AclAttribute) :
    List (AclAttribute × Bytes) :=
  names.flatMap fun name =>
    match readings name with
    | .ok acl => [(name, acl)]
    | .error _ => []

/-- An attribute that is read is shown with its value. -/
theorem shownAmong_cons_ok {readings : AclAttribute → Except Nat Bytes} {name : AclAttribute}
    {acl : Bytes} (hread : readings name = .ok acl) (rest : List AclAttribute) :
    shownAmong readings (name :: rest) = (name, acl) :: shownAmong readings rest := by
  rw [shownAmong, List.flatMap_cons, hread]
  rfl

/-- An attribute that cannot be read is not shown. -/
theorem shownAmong_cons_error {readings : AclAttribute → Except Nat Bytes} {name : AclAttribute}
    {errno : Nat} (hread : readings name = .error errno) (rest : List AclAttribute) :
    shownAmong readings (name :: rest) = shownAmong readings rest := by
  rw [shownAmong, List.flatMap_cons, hread]
  rfl

def shown (readings : AclAttribute → Except Nat Bytes) : List (AclAttribute × Bytes) :=
  shownAmong readings posixAclXattrs

/-- Both attributes are among those the source asks for. -/
theorem mem_posixAclXattrs (name : AclAttribute) : name ∈ posixAclXattrs := by
  cases name with
  | access => decide
  | default => decide

/-- An attribute is shown with a value exactly when that value is read. -/
theorem mem_shown {readings : AclAttribute → Except Nat Bytes} {name : AclAttribute} {acl : Bytes} :
    (name, acl) ∈ shown readings ↔ readings name = .ok acl := by
  rw [shown, shownAmong, List.mem_flatMap]
  constructor
  · rintro ⟨other, -, hmem⟩
    split at hmem
    · rename_i hread
      cases List.mem_singleton.mp hmem
      exact hread
    · exact absurd hmem List.not_mem_nil
  · intro hread
    refine ⟨name, mem_posixAclXattrs name, ?_⟩
    rw [hread]
    exact List.mem_singleton_self _

/-- Nothing is shown exactly when no attribute can be read. -/
theorem shown_eq_nil {readings : AclAttribute → Except Nat Bytes} :
    shown readings = [] ↔ ∀ name acl, readings name ≠ .ok acl := by
  constructor
  · intro hnil name acl hread
    have hmem := mem_shown.mpr hread
    rw [hnil] at hmem
    exact List.not_mem_nil hmem
  · intro hnone
    apply List.eq_nil_iff_forall_not_mem.mpr
    rintro ⟨name, acl⟩ hmem
    exact hnone name acl (mem_shown.mp hmem)

/-- An object with an access list alone shows that list. -/
theorem shown_of_access {readings : AclAttribute → Except Nat Bytes} {acl : Bytes}
    (haccess : readings .access = .ok acl) (hdefault : ∀ acl, readings .default ≠ .ok acl) :
    shown readings = [(.access, acl)] := by
  rw [shown, posixAclXattrs, shownAmong_cons_ok haccess]
  cases hreading : readings .default with
  | ok other => exact absurd hreading (hdefault other)
  | error errno =>
      rw [shownAmong_cons_error hreading]
      rfl

namespace AclObject

/-- Reading takes the attributes one by one and stops at the first that is unsupported. -/
theorem perform_readAttributes (object : AclObject) (name : AclAttribute)
    (rest : List AclAttribute) (attributes : List (AclAttribute × Bytes)) :
    (readAttributes calls (name :: rest) attributes).perform object =
      match object.readings name with
      | .ok acl => (readAttributes calls rest (attributes ++ [(name, acl)])).perform object
      | .error errno =>
          if errno ∈ absentErrnos then (readAttributes calls rest attributes).perform object
          else if errno ∈ unsupportedErrnos then (.ok [], object)
          else (.error (.raised (.system errno)), object) := by
  rw [readAttributes, Handler.perform_bind]
  dsimp only [DirectoryCall.tried, Handler.perform, calls]
  cases object.readings name with
  | ok acl => rfl
  | error errno =>
      dsimp only
      split_ifs with habsent hunsupported
      · rfl
      · rfl
      · rfl

/-- With no attribute left the answer is what was collected. -/
theorem perform_readAttributes_nil (object : AclObject)
    (attributes : List (AclAttribute × Bytes)) :
    (readAttributes calls [] attributes).perform object = (.ok attributes, object) := rfl

/-- A reading that returns has collected every attribute or has given up with none. -/
theorem readAttributes_ok {object after : AclObject} {names : List AclAttribute}
    {before attributes : List (AclAttribute × Bytes)}
    (hread : (readAttributes calls names before).perform object = (.ok attributes, after)) :
    after = object ∧
      ((attributes = [] ∧ ∃ name errno, object.readings name = .error errno ∧
          errno ∈ unsupportedErrnos) ∨
        (attributes = before ++ shownAmong object.readings names ∧
          ∀ name ∈ names, ∀ errno, object.readings name = .error errno →
            errno ∈ absentErrnos)) := by
  -- the collected attributes grow with each name, so they are generalized
  induction names generalizing before with
  | nil =>
      rw [perform_readAttributes_nil] at hread
      cases hread
      exact ⟨rfl, .inr ⟨(List.append_nil _).symm, fun name hname => absurd hname List.not_mem_nil⟩⟩
  | cons name rest ih =>
      rw [perform_readAttributes] at hread
      cases hreading : object.readings name with
      | ok acl =>
          rw [hreading] at hread
          obtain ⟨hafter, hended | ⟨hattributes, habsent⟩⟩ := ih hread
          · exact ⟨hafter, .inl hended⟩
          · refine ⟨hafter, .inr ⟨?_, ?_⟩⟩
            · rw [hattributes, shownAmong_cons_ok hreading, List.append_assoc]
              rfl
            · rw [List.forall_mem_cons]
              exact ⟨fun errno herror => absurd (hreading.symm.trans herror) nofun, habsent⟩
      | error errno =>
          rw [hreading] at hread
          dsimp only at hread
          -- absent: go on; unsupported: the early return; otherwise the error is raised
          split_ifs at hread with herrno hunsupported
          · obtain ⟨hafter, hended | ⟨hattributes, habsent⟩⟩ := ih hread
            · exact ⟨hafter, .inl hended⟩
            · refine ⟨hafter, .inr ⟨?_, ?_⟩⟩
              · rw [hattributes, shownAmong_cons_error hreading]
              · rw [List.forall_mem_cons]
                refine ⟨fun other herror => ?_, habsent⟩
                cases hreading.symm.trans herror
                exact herrno
          · cases hread
            exact ⟨rfl, .inl ⟨rfl, name, errno, hreading, hunsupported⟩⟩
          · cases hread

/-- Reading the attributes ends with nothing at the first unsupported one. -/
theorem posixAclAttributes_ok {object after : AclObject} {attributes : List (AclAttribute × Bytes)}
    (hread : (posixAclAttributes calls).perform object = (.ok attributes, after)) :
    after = object ∧
      ((attributes = [] ∧ ∃ name errno, object.readings name = .error errno ∧
          errno ∈ unsupportedErrnos) ∨
        (attributes = shown object.readings ∧
          ∀ name errno, object.readings name = .error errno → errno ∈ absentErrnos)) := by
  obtain ⟨hafter, hended | ⟨hattributes, habsent⟩⟩ := readAttributes_ok hread
  · exact ⟨hafter, .inl hended⟩
  · exact ⟨hafter, .inr ⟨hattributes, fun name => habsent name (mem_posixAclXattrs name)⟩⟩

/-- A list beside an unsupported attribute is dropped. -/
theorem posixAclAttributes_of_overlooks {object : AclObject}
    (hoverlooks : Overlooks object.readings) :
    (posixAclAttributes calls).perform object = (.ok [], object) := by
  obtain ⟨unsupported, errno, name, acl, hunsupported, herrno, hshown⟩ := hoverlooks
  have habsent : errno ∉ absentErrnos := by
    rw [List.mem_singleton.mp herrno]
    decide
  have hends : ∀ rest before,
      (readAttributes calls (unsupported :: rest) before).perform object = (.ok [], object) := by
    intro rest before
    rw [perform_readAttributes, hunsupported]
    dsimp only
    rw [if_neg habsent, if_pos herrno]
  cases unsupported with
  | access => exact hends _ _
  | default =>
      cases name with
      | access =>
          unfold posixAclAttributes posixAclXattrs
          rw [perform_readAttributes, hshown]
          exact hends _ _
      | default => exact absurd (hunsupported.symm.trans hshown) nofun

/-- With every unreadable attribute absent, all that is there is read. -/
theorem posixAclAttributes_of_absent {object : AclObject}
    (habsent : ∀ name errno, object.readings name = .error errno → errno ∈ absentErrnos) :
    (posixAclAttributes calls).perform object = (.ok (shown object.readings), object) := by
  have hread : ∀ names before, (readAttributes calls names before).perform object =
      (.ok (before ++ shownAmong object.readings names), object) := by
    intro names
    induction names with
    | nil =>
        intro before
        rw [perform_readAttributes_nil, shownAmong, List.flatMap_nil, List.append_nil]
    | cons name rest ih =>
        intro before
        rw [perform_readAttributes]
        cases hreading : object.readings name with
        | ok acl =>
            dsimp only
            rw [ih, shownAmong_cons_ok hreading, List.append_assoc]
            rfl
        | error errno =>
            dsimp only
            rw [if_pos (habsent name errno hreading), ih, shownAmong_cons_error hreading]
  exact hread posixAclXattrs []

/-! ## Clearing -/

/-- Clearing removes the attributes one by one and goes on past an absent one. -/
theorem perform_clearAttributes (object : AclObject) (listed : AclAttribute × Bytes)
    (rest : List (AclAttribute × Bytes)) :
    (clearAttributes calls (listed :: rest)).perform object =
      match object.removals listed.1 with
      | .ok () => (clearAttributes calls rest).perform { object with readings := object.cleared }
      | .error errno =>
          if errno ∈ absentErrnos then
            (clearAttributes calls rest).perform { object with readings := object.cleared }
          else (.error (.raised (.system errno)), { object with readings := object.cleared }) := by
  rw [clearAttributes, Handler.perform_bind]
  dsimp only [DirectoryCall.tried, Handler.perform, calls]
  cases object.removals listed.1 with
  | ok _ => rfl
  | error errno =>
      dsimp only
      split_ifs with habsent
      · rfl
      · rfl

/-- Clearing succeeds if each removal does or finds nothing there. -/
theorem clearAttributes_ok {object after : AclObject} {attributes : List (AclAttribute × Bytes)} :
    (clearAttributes calls attributes).perform object = (.ok (), after) ↔
      (∀ listed ∈ attributes, ∀ errno, object.removals listed.1 = .error errno →
        errno ∈ absentErrnos) ∧
      after = if attributes = [] then object else { object with readings := object.cleared } := by
  -- every removal leaves the object cleared, so the object changes along the list
  induction attributes generalizing object with
  | nil =>
      rw [if_pos rfl]
      constructor
      · intro hcleared
        cases hcleared
        exact ⟨fun listed hlisted => absurd hlisted List.not_mem_nil, rfl⟩
      · rintro ⟨-, rfl⟩
        rfl
  | cons listed rest ih =>
      have hrest : (if rest = [] then { object with readings := object.cleared }
          else { object with readings := object.cleared } : AclObject) =
          { object with readings := object.cleared } := ite_self _
      rw [perform_clearAttributes, if_neg (List.cons_ne_nil _ _), List.forall_mem_cons]
      cases hremoval : object.removals listed.1 with
      | ok _ =>
          dsimp only
          rw [ih, hrest]
          constructor
          · rintro ⟨hothers, hafter⟩
            exact ⟨⟨nofun, hothers⟩, hafter⟩
          · rintro ⟨⟨-, hothers⟩, hafter⟩
            exact ⟨hothers, hafter⟩
      | error errno =>
          dsimp only
          by_cases herrno : errno ∈ absentErrnos
          · rw [if_pos herrno, ih, hrest]
            constructor
            · rintro ⟨hothers, hafter⟩
              refine ⟨⟨fun other hother => ?_, hothers⟩, hafter⟩
              cases hother
              exact herrno
            · rintro ⟨⟨-, hothers⟩, hafter⟩
              exact ⟨hothers, hafter⟩
          · rw [if_neg herrno]
            constructor
            · intro hraised
              cases hraised
            · rintro ⟨⟨hthis, -⟩, -⟩
              exact absurd (hthis errno rfl) herrno

/-! ## Acceptance in each role -/

/-- An object is accepted if its attributes can be read and what was read passes. -/
theorem check_ok {object after : AclObject} {role : AclRole} :
    object.check role = (.ok (), after) ↔
      ∃ attributes, (posixAclAttributes calls).perform object = (.ok attributes, object) ∧
        (judgeAttributes calls (role = .created) (role = .ancestor) attributes).perform object =
          (.ok (), after) := by
  have hcatches : ∀ attributes middle,
      (catching (posixAclAttributes calls) fun _ => raise .aclInspection).perform object =
          (.ok attributes, middle) ↔
        (posixAclAttributes calls).perform object = (.ok attributes, middle) :=
    fun _ _ => perform_catching_raise_eq_ok
  unfold check validatePosixAcl
  constructor
  · intro haccepted
    obtain ⟨attributes, middle, hread, hjudged⟩ := Handler.perform_bind_eq_ok haccepted
    rw [hcatches] at hread
    obtain ⟨rfl, -⟩ := posixAclAttributes_ok hread
    exact ⟨attributes, hread, hjudged⟩
  · rintro ⟨attributes, hread, hjudged⟩
    rw [Handler.perform_bind_of_ok ((hcatches attributes object).mpr hread)]
    exact hjudged

/-- An existing entry passes exactly when no attribute is reported on it. -/
theorem check_existing_ok {object after : AclObject} :
    object.check .existing = (.ok (), after) ↔
      (posixAclAttributes calls).perform object = (.ok [], object) ∧ after = object := by
  rw [check_ok]
  constructor
  · rintro ⟨attributes, hread, hjudged⟩
    cases attributes with
    | nil =>
        cases hjudged
        exact ⟨hread, rfl⟩
    | cons listed rest => cases hjudged
  · rintro ⟨hread, rfl⟩
    exact ⟨[], hread, rfl⟩

/-- An ancestor passes exactly when the attributes reported on it are safe. -/
theorem check_ancestor_ok {object after : AclObject} :
    object.check .ancestor = (.ok (), after) ↔
      ∃ attributes, (posixAclAttributes calls).perform object = (.ok attributes, object) ∧
        ancestorAclIsUnsafe attributes = false ∧ after = object := by
  have hjudge : ∀ attributes,
      (judgeAttributes calls (AclRole.ancestor = .created) (AclRole.ancestor = .ancestor)
        attributes).perform object = (.ok (), after) ↔
      ancestorAclIsUnsafe attributes = false ∧ after = object := by
    intro attributes
    unfold judgeAttributes
    by_cases hnil : attributes = []
    · rw [if_pos hnil, hnil]
      constructor
      · intro haccepted
        cases haccepted
        exact ⟨rfl, rfl⟩
      · rintro ⟨-, rfl⟩
        rfl
    · rw [if_neg hnil, if_pos (by decide)]
      cases ancestorAclIsUnsafe attributes with
      | true =>
          rw [if_pos rfl]
          exact ⟨nofun, nofun⟩
      | false =>
          rw [if_neg Bool.false_ne_true]
          constructor
          · intro haccepted
            cases haccepted
            exact ⟨rfl, rfl⟩
          · rintro ⟨-, rfl⟩
            rfl
  rw [check_ok]
  exact exists_congr fun attributes => and_congr_right fun _ => hjudge attributes

/-- A created entry passes exactly when it is read, cleared and read again with nothing
left. -/
theorem check_created_ok {object after : AclObject} :
    object.check .created = (.ok (), after) ↔
      ∃ attributes, (posixAclAttributes calls).perform object = (.ok attributes, object) ∧
        (clearAttributes calls attributes).perform object = (.ok (), after) ∧
        (posixAclAttributes calls).perform after = (.ok [], after) := by
  rw [check_ok]
  constructor
  · rintro ⟨attributes, hread, hjudged⟩
    refine ⟨attributes, hread, ?_⟩
    unfold judgeAttributes at hjudged
    -- an entry without attributes is not cleared at all
    by_cases hnil : attributes = []
    · subst hnil
      cases hjudged
      exact ⟨rfl, hread⟩
    · rw [if_neg hnil, if_neg (by decide), if_pos (by decide)] at hjudged
      obtain ⟨others, middle, hcaught, hlast⟩ := Handler.perform_bind_eq_ok hjudged
      rw [perform_catching_raise_eq_ok] at hcaught
      obtain ⟨_, cleared, hcleared, hagain⟩ := Handler.perform_bind_eq_ok hcaught
      obtain ⟨rfl, -⟩ := posixAclAttributes_ok hagain
      cases others with
      | nil =>
          cases hlast
          exact ⟨hcleared, hagain⟩
      | cons listed rest => cases hlast
  · rintro ⟨attributes, hread, hcleared, hagain⟩
    refine ⟨attributes, hread, ?_⟩
    unfold judgeAttributes
    by_cases hnil : attributes = []
    · subst hnil
      cases hcleared
      rfl
    · rw [if_neg hnil, if_neg (by decide), if_pos (by decide)]
      have hcaught : (catching
          (do
            clearAttributes calls attributes
            posixAclAttributes calls)
          fun _ => raise .aclClear).perform object = (.ok [], after) := by
        rw [perform_catching_raise_eq_ok, Handler.perform_bind_of_ok hcleared]
        exact hagain
      rw [Handler.perform_bind_of_ok hcaught]
      rfl

/-! ## What is overlooked -/

/-- Where no list is overlooked, nothing read means that nothing is there. -/
theorem unreadable_of_nil {object : AclObject}
    (hread : (posixAclAttributes calls).perform object = (.ok [], object))
    (hsees : ¬ Overlooks object.readings) : ∀ name acl, object.readings name ≠ .ok acl := by
  intro name acl hshown
  obtain ⟨-, ⟨-, unsupported, errno, herror, herrno⟩ | ⟨hnil, -⟩⟩ := posixAclAttributes_ok hread
  · exact hsees ⟨unsupported, errno, name, acl, herror, herrno, hshown⟩
  · exact shown_eq_nil.mp hnil.symm name acl hshown

/-- What is read is all there is, unless an unsupported attribute ended it. -/
theorem absent_of_shown {object : AclObject} {attributes : List (AclAttribute × Bytes)}
    (hread : (posixAclAttributes calls).perform object = (.ok attributes, object))
    (hsees : ¬ Overlooks object.readings) {name : AclAttribute} {acl : Bytes}
    (hshown : object.readings name = .ok acl) :
    attributes = shown object.readings ∧
      ∀ name errno, object.readings name = .error errno → errno ∈ absentErrnos := by
  obtain ⟨-, ⟨-, unsupported, errno, herror, herrno⟩ | hall⟩ := posixAclAttributes_ok hread
  · exact absurd ⟨unsupported, errno, name, acl, herror, herrno, hshown⟩ hsees
  · exact hall

/-- An accepted existing entry carries no list exactly when the reading overlooks none. -/
theorem existing_iff (object : AclObject) :
    (∀ after, object.check .existing = (.ok (), after) → object.Permitted after .existing) ↔
      object.Sees .existing := by
  constructor
  · intro hpermitted hoverlooks
    have haccepted := check_existing_ok.mpr ⟨posixAclAttributes_of_overlooks hoverlooks, rfl⟩
    obtain ⟨_, _, name, acl, -, -, hshown⟩ := hoverlooks
    exact hpermitted object haccepted name acl hshown
  · intro hsees after haccepted
    exact unreadable_of_nil (check_existing_ok.mp haccepted).1 hsees

/-- An accepted created entry carries no list exactly when neither reading overlooks one. -/
theorem created_iff (object : AclObject) :
    (∀ after, object.check .created = (.ok (), after) → object.Permitted after .created) ↔
      object.Sees .created := by
  constructor
  · intro hpermitted
    -- an overlooked list is accepted at the first reading or at the second
    refine ⟨fun hoverlooks => ?_, fun hclears hoverlooks => ?_⟩
    · have hread := posixAclAttributes_of_overlooks hoverlooks
      have haccepted : object.check .created = (.ok (), object) :=
        check_created_ok.mpr ⟨[], hread, rfl, hread⟩
      obtain ⟨_, _, name, acl, -, -, hshown⟩ := hoverlooks
      exact hpermitted object haccepted name acl hshown
    · obtain ⟨name, acl, hshown⟩ := hclears.shown
      have hnonempty : shown object.readings ≠ [] := fun hnil =>
        shown_eq_nil.mp hnil name acl hshown
      have hcleared : (clearAttributes calls (shown object.readings)).perform object =
          (.ok (), { object with readings := object.cleared }) := by
        rw [clearAttributes_ok, if_neg hnonempty]
        refine ⟨?_, rfl⟩
        rintro ⟨listed, value⟩ hlisted
        exact hclears.removed listed value (mem_shown.mp hlisted)
      have hagain := @posixAclAttributes_of_overlooks { object with readings := object.cleared }
        hoverlooks
      have haccepted := check_created_ok.mpr
        ⟨_, posixAclAttributes_of_absent hclears.absent, hcleared, hagain⟩
      obtain ⟨_, _, left, value, -, -, hleft⟩ := hoverlooks
      exact hpermitted _ haccepted left value hleft
  · rintro ⟨hsees, hseesCleared⟩ after haccepted
    obtain ⟨attributes, hread, hcleared, hagain⟩ := check_created_ok.mp haccepted
    obtain ⟨hremoved, hafter⟩ := clearAttributes_ok.mp hcleared
    apply unreadable_of_nil hagain
    by_cases hnil : attributes = []
    · rw [if_pos hnil] at hafter
      rw [hafter]
      exact hsees
    · rw [if_neg hnil] at hafter
      rw [hafter]
      obtain ⟨-, ⟨hempty, -⟩ | ⟨rfl, habsent⟩⟩ := posixAclAttributes_ok hread
      · exact absurd hempty hnil
      · apply hseesCleared
        refine ⟨?_, habsent, ?_⟩
        · by_contra hnone
          push Not at hnone
          exact hnil (shown_eq_nil.mpr hnone)
        · intro name acl hshown
          exact hremoved (name, acl) (mem_shown.mpr hshown)

/-- An accepted ancestor is safe exactly when an overlooked list is a harmless access list.
-/
theorem ancestor_iff (object : AclObject) :
    (∀ after, object.check .ancestor = (.ok (), after) → object.Permitted after .ancestor) ↔
      object.Sees .ancestor := by
  constructor
  · intro hpermitted hoverlooks
    have haccepted := check_ancestor_ok.mpr
      ⟨[], posixAclAttributes_of_overlooks hoverlooks, rfl, rfl⟩
    obtain ⟨hdefault, haccess⟩ := hpermitted object haccepted
    obtain ⟨_, _, name, acl, -, -, hshown⟩ := hoverlooks
    cases name with
    | access => exact ⟨acl, hshown, haccess acl hshown⟩
    | default => exact absurd hshown (hdefault acl)
  · intro hsees after haccepted
    obtain ⟨attributes, hread, hsafe, rfl⟩ := check_ancestor_ok.mp haccepted
    by_cases hoverlooks : Overlooks after.readings
    · obtain ⟨acl, haccess, hharmless⟩ := hsees hoverlooks
      obtain ⟨unsupported, errno, _, _, herror, -, -⟩ := hoverlooks
      -- the attribute that was unsupported is not the one that is shown
      cases unsupported with
      | access => exact absurd (herror.symm.trans haccess) nofun
      | default =>
          refine ⟨fun other hother => absurd (herror.symm.trans hother) nofun, ?_⟩
          intro other hother
          cases haccess.symm.trans hother
          exact hharmless
    · have hdefault : ∀ acl, after.readings .default ≠ .ok acl := by
        intro acl hshown
        obtain ⟨hall, -⟩ := absent_of_shown hread hoverlooks hshown
        have hmem : AclAttribute.default ∈ attributes.map Prod.fst := by
          rw [hall]
          exact List.mem_map_of_mem (mem_shown.mpr hshown)
        rw [ancestorAclIsUnsafe, if_pos hmem] at hsafe
        cases hsafe
      refine ⟨hdefault, ?_⟩
      intro acl hshown
      obtain ⟨hall, -⟩ := absent_of_shown hread hoverlooks hshown
      rw [hall, shown_of_access hshown hdefault] at hsafe
      exact (ancestorAclIsUnsafe_access acl).mp hsafe

end AclObject

/-- The checks let pass what they should exactly when no list is overlooked that
matters to the role. -/
theorem posix_acl_decision (object : AclObject) (role : AclRole) :
    (∀ after, object.check role = (.ok (), after) → object.Permitted after role) ↔
      object.Sees role := by
  cases role with
  | existing => exact object.existing_iff
  | created => exact object.created_iff
  | ancestor => exact object.ancestor_iff

/-- A directory whose filesystem knows access lists but no default ones. -/
def groupWritableObject : AclObject where
  readings
    | .access => .ok (encodeAcl [⟨1, 7, 0⟩, ⟨4, 7, 0⟩, ⟨32, 0, 0⟩])
    | .default => .error 95
  removals _ := .ok ()
  cleared _ := .error 61

/-- A group-writable list is accepted once the other attribute is unsupported. -/
theorem groupWritableObject_accepted :
    groupWritableObject.check .existing = (.ok (), groupWritableObject) ∧
      ¬ groupWritableObject.Permitted groupWritableObject .existing := by
  constructor
  · rfl
  · intro hpermitted
    exact hpermitted .access _ rfl

end CompanionBridge
