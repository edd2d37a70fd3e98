import CompanionBridge.Library.Agreement
import CompanionBridge.State.ClientCache
import CompanionBridge.State.DirectoryTree

/-!
# Walking the same path again

Objects with the metadata they had are as they were. A walk all of whose directories are
as they were ends with the same chain again.
-/

namespace CompanionBridge

open Interruptible

variable {World Result : Type} {first second : World}

/-! ## Checks -/

theorem run_agrees {call other : DirectoryCall World Result}
    (h : Agrees first second call.tried other.tried) : Agrees first second call.run other.run := by
  rw [run_eq_tried, run_eq_tried]
  refine h.bind fun outcome => ?_
  cases outcome with
  | ok result => exact .pure
  | error errno => exact .raise

namespace LinuxAcl

variable {acl other : AclCalls World}

theorem readAttributes_agrees
    (hget : ∀ name, Agrees first second (acl.getxattr name).tried (other.getxattr name).tried)
    (names : List AclAttribute) (attributes : List (AclAttribute × Bytes)) :
    Agrees first second (readAttributes acl names attributes)
      (readAttributes other names attributes) := by
  induction names generalizing attributes with
  | nil => exact .pure
  | cons name rest ih =>
      refine (hget name).bind fun outcome => ?_
      cases outcome with
      | ok value => exact ih _
      | error errno => exact .ite (fun _ => ih _) fun _ => .ite (fun _ => .pure) fun _ => .raise

theorem validatePosixAcl_agrees
    (hget : ∀ name, Agrees first second (acl.getxattr name).tried (other.getxattr name).tried)
    (ancestor : Bool) :
    Agrees first second (validatePosixAcl acl false ancestor)
      (validatePosixAcl other false ancestor) := by
  refine .bind ((readAttributes_agrees hget _ _).catching fun _ => .raise) fun attributes => ?_
  refine .ite (fun _ => .pure) fun _ => .ite (fun _ => .ite (fun _ => .raise) fun _ => .pure) ?_
  refine fun _ => .bind .pure fun _ => .ite (fun _ => .pure) fun _ => .raise

end LinuxAcl

namespace DarwinAcl

variable {acl other : DarwinAclCalls World}

/-- A reader of access lists answers alike where its calls do. -/
theorem extendedAclText_agrees (hget : Agrees first second acl.getFd.tried other.getFd.tried)
    (htext : Agrees first second acl.toText.tried other.toText.tried) :
    Agrees first second (extendedAclText acl) (extendedAclText other) := by
  refine hget.bind fun outcome => ?_
  cases outcome with
  | ok _ =>
      refine .map (htext.bind fun outcome => ?_)
      cases outcome with
      | ok text => exact .pure
      | error errno => exact .raise
  | error errno => exact .ite (fun _ => .pure) fun _ => .raise

theorem validateExtendedAcl_agrees (hget : Agrees first second acl.getFd.tried other.getFd.tried)
    (htext : Agrees first second acl.toText.tried other.toText.tried) (ancestor : Bool) :
    Agrees first second (validateExtendedAcl acl false ancestor)
      (validateExtendedAcl other false ancestor) := by
  refine .bind ((extendedAclText_agrees hget htext).catching fun _ => .raise) fun text => ?_
  refine .ite (fun _ => .pure) fun _ => .ite (fun _ => .ite (fun _ => .raise) fun _ => .pure) ?_
  refine fun _ => .bind .pure fun _ => .ite (fun _ => .pure) fun _ => .raise

end DarwinAcl

/-- Two descriptors that look the same, each in its world. -/
structure ObjectCalls.Agree (first second : World) (object other : ObjectCalls World) : Prop where
  fstat : Agrees first second object.fstat.tried other.fstat.tried
  getxattr : ∀ name, Agrees first second (object.posixAcl.getxattr name).tried
    (other.posixAcl.getxattr name).tried
  getFd : Agrees first second object.darwinAcl.getFd.tried other.darwinAcl.getFd.tried
  toText : Agrees first second object.darwinAcl.toText.tried other.darwinAcl.toText.tried

section Checks

variable {object other : ObjectCalls World}

theorem validateProjectAclFd_agrees (hagree : object.Agree first second other)
    (platform : Platform) :
    Agrees first second (validateProjectAclFd platform object false)
      (validateProjectAclFd platform other false) := by
  cases platform with
  | linux => exact LinuxAcl.validatePosixAcl_agrees hagree.getxattr false
  | darwin => exact DarwinAcl.validateExtendedAcl_agrees hagree.getFd hagree.toText false
  | other => exact .pure

theorem validateAncestorAclFd_agrees (hagree : object.Agree first second other)
    (platform : Platform) :
    Agrees first second (validateAncestorAclFd platform object)
      (validateAncestorAclFd platform other) := by
  cases platform with
  | linux => exact LinuxAcl.validatePosixAcl_agrees hagree.getxattr true
  | darwin => exact DarwinAcl.validateExtendedAcl_agrees hagree.getFd hagree.toText true
  | other => exact .pure

theorem validateDirectoryFd_agrees (hagree : object.Agree first second other)
    (effectiveUid : Nat) (final : Bool) :
    Agrees first second (validateDirectoryFd effectiveUid object final)
      (validateDirectoryFd effectiveUid other final) := by
  refine (run_agrees hagree.fstat).bind fun info => ?_
  cases validateDirectoryMetadata effectiveUid info final with
  | ok _ => exact .pure
  | error error => exact .raise

/-- A component that was there is checked by looking only. -/
theorem validateOpenedComponent_agrees (hagree : object.Agree first second other)
    (platform : Platform) (effectiveUid : Nat) (final : Bool) :
    Agrees first second (validateOpenedComponent platform effectiveUid object false final)
      (validateOpenedComponent platform effectiveUid other false final) := by
  refine .bind (validateDirectoryFd_agrees hagree effectiveUid final) fun _ => ?_
  exact .ite (fun _ => validateProjectAclFd_agrees hagree platform)
    fun _ => validateAncestorAclFd_agrees hagree platform

end Checks

/-! ## File systems with records -/

/-- A file system whose directories hold records, too. A name of one leads to an object,
which is there and may be opened. -/
structure RecordFileSystem (Tree Object : Type) extends FileSystem Tree Object where
  entry : Tree → Object → String → Except Nat Object
  openable : Tree → Object → Except Nat Unit
  size : Tree → Object → Nat
  content : Tree → Object → Except Nat Bytes
  stat_of_entry : ∀ tree directory name object, entry tree directory name = .ok object →
    stat tree object ≠ .error enoent

namespace FileSystem

variable {Tree Object : Type} (files : FileSystem Tree Object)

/-- The checks of an object in one tree see what those of another see in another tree. -/
structure SameAccess (before after : Tree) (object other : Object) : Prop where
  stat : files.stat before object = files.stat after other
  getxattr : ∀ name, files.getxattr before object name = files.getxattr after other name
  getFd : files.getFd before object = files.getFd after other
  toText : files.toText before object = files.toText after other

variable {files} {before after tree : Tree} {object other current : Object}

theorem tried_agrees {Result : Type} {answer answer' : Tree → Except Nat Result}
    (h : answer before = answer' after) :
    Agrees before after (DirectoryCall.tried fun tree => (answer tree, tree))
      (DirectoryCall.tried fun tree => (answer' tree, tree)) :=
  ⟨.ok (answer before), rfl, by rw [h]; rfl⟩

/-- The same access means the same answers of all calls. -/
theorem SameAccess.agree (h : files.SameAccess before after object other) :
    (files.objectCalls object).Agree before after (files.objectCalls other) where
  fstat := tried_agrees h.stat
  getxattr name := tried_agrees (h.getxattr name)
  getFd := tried_agrees h.getFd
  toText := tried_agrees h.toText

theorem SameAccess.refl (tree : Tree) (object : Object) :
    files.SameAccess tree tree object object :=
  ⟨rfl, fun _ => rfl, rfl, rfl⟩

/-- A check of an object that is there already changes nothing. -/
theorem perform_validateOpenedComponent (tree : Tree) (object : Object) (final : Bool) :
    ∃ outcome, (validateOpenedComponent files.platform files.effectiveUid (files.objectCalls object)
      false final).perform tree = (outcome, tree) := by
  obtain ⟨outcome, hperform, -⟩ := validateOpenedComponent_agrees
    (SameAccess.refl tree object).agree files.platform files.effectiveUid final
  exact ⟨outcome, hperform⟩

theorem perform_openComponentFd (tree : Tree) (parent : Object) (component : String) :
    (openComponentFd files.calls parent component false).perform tree =
      match files.lookup tree parent component with
      | .ok child => (.ok (child, false), tree)
      | .error errno => (.error (.raised (.system errno)), tree) := by
  unfold openComponentFd
  have htried : ((files.calls.openAt parent component).tried).perform tree =
      (.ok (files.lookup tree parent component), tree) := rfl
  rw [Handler.perform_bind_of_ok htried]
  cases files.lookup tree parent component with
  | ok child => rfl
  | error errno =>
      dsimp only
      rw [if_neg (by simp)]
      rfl

/-! ## The walk -/

variable (files)

/-- A component that is found and passes the checks. -/
structure Passes (tree : Tree) (parent child : Object) (component : String) (final : Bool)
    (info : DirectoryStat) : Prop where
  lookup : files.lookup tree parent component = .ok child
  admitted : (validateOpenedComponent files.platform files.effectiveUid (files.objectCalls child)
    false final).perform tree = (.ok (), tree)
  stat : files.stat tree child = .ok info

/-- The entries that a walk adds from an object on. -/
inductive Descends (tree : Tree) :
    Object → List String → List String → List (ChainEntry Object) → Prop
  | nil (current walked) : Descends tree current walked [] []
  | cons {current child walked component rest info more}
      (hpasses : files.Passes tree current child component rest.isEmpty info)
      (hrest : Descends tree child (walked ++ [component]) rest more) :
      Descends tree current walked (component :: rest)
        (⟨walked ++ [component], child, some component, info⟩ :: more)

/-- The root, opened and admitted. -/
structure RootPasses (tree : Tree) (components : List String) (root : Object)
    (info : DirectoryStat) : Prop where
  opened : files.root tree = .ok root
  validated : (validateDirectoryFd files.effectiveUid (files.objectCalls root)
    components.isEmpty).perform tree = (.ok (), tree)
  admitted : (if components = [] then validateProjectAclFd files.platform (files.objectCalls root)
    false else validateAncestorAclFd files.platform (files.objectCalls root)).perform tree =
      (.ok (), tree)
  stat : files.stat tree root = .ok info

/-- The chain that a walk ends with. -/
def Walks (tree : Tree) (components : List String) (chain : DurableDirectoryChain Object) : Prop :=
  ∃ root info more, files.RootPasses tree components root info ∧
    files.Descends tree root [] components more ∧
    chain = ⟨components, ⟨[], root, none, info⟩ :: more⟩

variable {files}

/-- Retaining a part of the chain stamps it and adds it. -/
theorem perform_retain (tree : Tree) (path : List String) (child : Object) (name : Option String)
    (entries : List (ChainEntry Object)) :
    (retain files.calls path child name).perform (tree, entries) =
      match files.stat tree child with
      | .ok info => (.ok (), tree, entries ++ [⟨path, child, name, info⟩])
      | .error errno => (.error (.raised (.system errno)), tree, entries) := by
  have hfstat : (inWorld (files.calls.object child).fstat.run :
      DirectoryM (Tree × List (ChainEntry Object)) DirectoryStat).perform (tree, entries) =
      match files.stat tree child with
      | .ok info => (.ok info, tree, entries)
      | .error errno => (.error (.raised (.system errno)), tree, entries) := by
    rw [StatePart.perform_lift]
    dsimp only [StatePart.outer, Handler.perform, DirectoryCall.run, FileSystem.calls,
      FileSystem.objectCalls]
    cases files.stat tree child with
    | ok info => rfl
    | error errno => rfl
  unfold retain
  rw [Handler.perform_bind, hfstat]
  cases files.stat tree child with
  | ok info => rfl
  | error errno => rfl

/-- The stamps of a walk are still the same when it has ended. -/
theorem perform_restampEntries {walked components : List String}
    {more : List (ChainEntry Object)}
    (hdescends : files.Descends tree current walked components more) :
    (restampEntries files.calls (some current) more).perform tree = (.ok more, tree) := by
  induction hdescends with
  | nil => rfl
  | @cons current child walked component rest info more hpasses _ ih =>
      have hfstat : ((files.calls.object child).fstat.run).perform tree = (.ok info, tree) := by
        dsimp only [Handler.perform, DirectoryCall.run, FileSystem.calls, FileSystem.objectCalls]
        rw [hpasses.stat]
      have hlinked : ((files.calls.statAt current (some component)).run).perform tree =
          (.ok info, tree) := by
        dsimp only [Handler.perform, DirectoryCall.run, FileSystem.calls]
        rw [files.statAt_lookup tree current component child hpasses.lookup, hpasses.stat]
      unfold restampEntries
      rw [Handler.perform_bind_of_ok hfstat]
      dsimp only
      rw [Handler.perform_bind_of_ok hlinked, if_neg (by simp), Handler.perform_bind_of_ok ih]
      rfl

/-- A root that passes is the first part of the chain. -/
theorem perform_retainRoot (tree : Tree) (components : List String) {root : Object}
    (hroot : files.root tree = .ok root) :
    (∃ info, files.RootPasses tree components root info ∧
      (retainRoot files.calls components root).perform (tree, []) =
        (.ok (), tree, [⟨[], root, none, info⟩])) ∨
    (∀ info, ¬ files.RootPasses tree components root info) ∧ ∃ interruption,
      (retainRoot files.calls components root).perform (tree, []) =
        (.error interruption, tree, []) := by
  have hagree := (@SameAccess.refl _ _ files tree root).agree
  obtain ⟨first, hvalidate, -⟩ :=
    validateDirectoryFd_agrees hagree files.effectiveUid components.isEmpty
  obtain ⟨second, hchecked, -⟩ := Agrees.ite
    (fun _ : components = [] => validateProjectAclFd_agrees hagree files.platform)
    (fun _ => validateAncestorAclFd_agrees hagree files.platform)
  have hlift {Result : Type} {handler : DirectoryM Tree Result}
      {outcome : Except (Interruption DirectoryError) Result}
      (hperform : handler.perform tree = (outcome, tree)) :
      (inWorld handler : DirectoryM (Tree × List (ChainEntry Object)) Result).perform (tree, []) =
        (outcome, tree, []) := by
    rw [StatePart.perform_lift]
    dsimp only [StatePart.outer]
    rw [hperform]
  -- the root is validated, then checked for access lists, then stamped
  cases first with
  | error interruption =>
      refine .inr ⟨fun info hpasses => ?_, interruption, perform_bind_of_error (hlift hvalidate)⟩
      have hvalidated := hpasses.validated
      rw [hvalidate] at hvalidated
      cases hvalidated
  | ok _ =>
      cases second with
      | error interruption =>
          refine .inr ⟨fun info hpasses => ?_, interruption,
            (Handler.perform_bind_of_ok (hlift hvalidate)).trans
              (perform_bind_of_error (hlift hchecked))⟩
          have hadmitted := hpasses.admitted
          rw [hchecked] at hadmitted
          cases hadmitted
      | ok _ =>
          have hretained : (retainRoot files.calls components root).perform (tree, []) =
              (retain files.calls [] root none).perform (tree, []) :=
            (Handler.perform_bind_of_ok (hlift hvalidate)).trans
              (Handler.perform_bind_of_ok (hlift hchecked))
          rw [perform_retain] at hretained
          cases hstat : files.stat tree root with
          | ok info =>
              rw [hstat] at hretained
              exact .inl ⟨info, ⟨hroot, hvalidate, hchecked, hstat⟩, hretained⟩
          | error errno =>
              rw [hstat] at hretained
              refine .inr ⟨fun info hpasses => ?_, _, hretained⟩
              have hfound := hpasses.stat
              rw [hstat] at hfound
              cases hfound

/-- Stamping a chain again is walking down it again. -/
theorem perform_restamp {components : List String} {root : Object} {info : DirectoryStat}
    {more : List (ChainEntry Object)} (hpasses : files.RootPasses tree components root info)
    (hdescends : files.Descends tree root [] components more) :
    (inWorld (restampDirectoryChain files.calls ([⟨[], root, none, info⟩] ++ more)) :
      DirectoryM (Tree × List (ChainEntry Object)) _).perform
        (tree, [⟨[], root, none, info⟩] ++ more) =
      (.ok (⟨[], root, none, info⟩ :: more), tree, [⟨[], root, none, info⟩] ++ more) := by
  have hfstat : ((files.calls.object root).fstat.run).perform tree = (.ok info, tree) := by
    dsimp only [Handler.perform, DirectoryCall.run, FileSystem.calls, FileSystem.objectCalls]
    rw [hpasses.stat]
  have hrestamp : (restampDirectoryChain files.calls
      ([⟨[], root, none, info⟩] ++ more)).perform tree =
        (.ok (⟨[], root, none, info⟩ :: more), tree) := by
    unfold restampDirectoryChain
    rw [List.singleton_append, restampEntries, Handler.perform_bind_of_ok hfstat]
    dsimp only
    rw [Handler.perform_bind_of_ok (perform_restampEntries hdescends)]
    rfl
  rw [StatePart.perform_lift]
  dsimp only [StatePart.outer]
  rw [hrestamp]

/-- Closing a chain changes nothing that a walk looks at. -/
theorem perform_closeEntries (tree : Tree) (entries : List (ChainEntry Object)) :
    (closeEntries files.calls entries).perform tree = (.ok (), tree) := by
  induction entries with
  | nil => rfl
  | cons entry rest ih =>
      unfold closeEntries
      rw [Handler.perform_bind_of_ok ih]
      rfl

section Walking

variable [DecidableEq Object]

theorem perform_closeUnretained (child : Object) (entries : List (ChainEntry Object)) :
    (closeUnretained files.calls child).perform (tree, entries) = (.ok (), tree, entries) := by
  have hread : (Handler.read Prod.snd : DirectoryM (Tree × List (ChainEntry Object)) _).perform
      (tree, entries) = (.ok entries, tree, entries) := rfl
  unfold closeUnretained
  rw [Handler.perform_bind_of_ok hread]
  split_ifs
  · rfl
  · rfl

/-- The part of the loop that checks and retains a component. -/
theorem perform_retaining {child : Object} {walked : List String} {component : String}
    {final : Bool} (entries : List (ChainEntry Object))
    (hlookup : files.lookup tree current component = .ok child) :
    let retaining := onError
      (do
        inWorld (validateOpenedComponent files.platform files.effectiveUid
          (files.calls.object child) false final)
        if false then inWorld (files.calls.object current).fsync.run
        retain files.calls (walked ++ [component]) child (some component))
      (closeUnretained files.calls child)
    (∃ info, files.Passes tree current child component final info ∧
      retaining.perform (tree, entries) =
        (.ok (), tree, entries ++ [⟨walked ++ [component], child, some component, info⟩])) ∨
    (∀ info, ¬ files.Passes tree current child component final info) ∧
      ∃ interruption, retaining.perform (tree, entries) = (.error interruption, tree, entries) := by
  intro retaining
  obtain ⟨outcome, hvalidate⟩ := @perform_validateOpenedComponent _ _ files tree child final
  have hbody : (inWorld (validateOpenedComponent files.platform files.effectiveUid
      (files.calls.object child) false final) :
        DirectoryM (Tree × List (ChainEntry Object)) Unit).perform (tree, entries) =
      (outcome, tree, entries) := by
    rw [StatePart.perform_lift]
    dsimp only [StatePart.outer]
    rw [show files.calls.object child = files.objectCalls child from rfl, hvalidate]
  -- a child that is refused is closed and the entries stay as they were
  have hcleanup (error : DirectoryError) : ((do
      closeUnretained files.calls child
      raise error : DirectoryM (Tree × List (ChainEntry Object)) Unit)).perform (tree, entries) =
      (.error (.raised error), tree, entries) := by
    rw [Handler.perform_bind_of_ok (perform_closeUnretained child entries)]
    rfl
  have hstart : retaining.perform (tree, entries) = _ :=
    perform_catching _ _ (tree, entries)
  rw [Handler.perform_bind, hbody] at hstart
  cases outcome with
  | error interruption =>
      refine .inr ⟨fun info hpasses => ?_, interruption, hstart.trans ?_⟩
      · have hadmitted := hpasses.admitted
        rw [hvalidate] at hadmitted
        cases hadmitted
      · cases interruption with
        | raised error => exact hcleanup error
        | crashed => rfl
  | ok _ =>
      dsimp only at hstart
      rw [if_neg (by simp), perform_retain] at hstart
      cases hstat : files.stat tree child with
      | ok info =>
          rw [hstat] at hstart
          exact .inl ⟨info, ⟨hlookup, hvalidate, hstat⟩, hstart⟩
      | error errno =>
          rw [hstat] at hstart
          refine .inr ⟨fun info hpasses => ?_, _, hstart.trans (hcleanup (.system errno))⟩
          have hfound := hpasses.stat
          rw [hstat] at hfound
          cases hfound

/-- The loop adds the entries of a walk, or it raises; the tree stays as it is. -/
theorem perform_descendRetaining (tree : Tree) (current : Object) (walked components : List String)
    (entries : List (ChainEntry Object)) :
    (∃ more, files.Descends tree current walked components more ∧
      (descendRetaining files.calls false current walked components).perform (tree, entries) =
        (.ok (), tree, entries ++ more)) ∨
    (∀ more, ¬ files.Descends tree current walked components more) ∧ ∃ interruption left,
      (descendRetaining files.calls false current walked components).perform (tree, entries) =
        (.error interruption, tree, left) := by
  -- the walk goes down a component at a time
  induction components generalizing current walked entries with
  | nil => exact .inl ⟨[], .nil current walked, by rw [List.append_nil]; rfl⟩
  | cons component rest ih =>
      have hopen : (inWorld (openComponentFd files.calls current component false) :
          DirectoryM (Tree × List (ChainEntry Object)) (Object × Bool)).perform (tree, entries) =
          match files.lookup tree current component with
          | .ok child => (.ok (child, false), tree, entries)
          | .error errno => (.error (.raised (.system errno)), tree, entries) := by
        rw [StatePart.perform_lift]
        dsimp only [StatePart.outer]
        rw [perform_openComponentFd]
        cases files.lookup tree current component with
        | ok child => rfl
        | error errno => rfl
      unfold descendRetaining
      rw [Handler.perform_bind, hopen]
      cases hlookup : files.lookup tree current component with
      | error errno =>
          refine .inr ⟨fun more hdescends => ?_, _, _, rfl⟩
          cases hdescends with
          | cons hpasses _ =>
              have hfound := hpasses.lookup
              rw [hlookup] at hfound
              cases hfound
      | ok child =>
          have hchild {info : DirectoryStat} {other : Object}
              (hpasses : files.Passes tree current other component rest.isEmpty info) :
              other = child := by
            have hfound := hpasses.lookup
            rw [hlookup] at hfound
            exact (Except.ok.inj hfound).symm
          dsimp only
          rcases @perform_retaining _ _ files tree current _ child walked component rest.isEmpty
            entries hlookup with
            ⟨info, hpasses, hretaining⟩ | ⟨hrefused, interruption, hretaining⟩
          · rcases ih child (walked ++ [component])
              (entries ++ [⟨walked ++ [component], child, some component, info⟩]) with
              ⟨more, hmore, hperform⟩ | ⟨hnone, interruption, left, hperform⟩
            · refine .inl ⟨_, .cons hpasses hmore,
                ((Handler.perform_bind_of_ok hretaining).trans hperform).trans ?_⟩
              rw [List.append_assoc]
              rfl
            · refine .inr ⟨fun more hdescends => ?_, interruption, left,
                (Handler.perform_bind_of_ok hretaining).trans hperform⟩
              cases hdescends with
              | cons hother hrest =>
                  obtain rfl := hchild hother
                  exact hnone _ hrest
          · refine .inr ⟨fun more hdescends => ?_, interruption, entries, ?_⟩
            · cases hdescends with
              | cons hother _ =>
                  obtain rfl := hchild hother
                  exact hrefused _ hother
            · exact perform_bind_of_error hretaining

/-- A walk that is not to create anything returns its chain, or it raises; the tree stays
as it is. -/
theorem perform_openChain (tree : Tree) (components : List String) :
    (∃ chain, files.Walks tree components chain ∧
      (openDurableDirectoryChain files.calls components false).perform tree = (.ok chain, tree)) ∨
    (∀ chain, ¬ files.Walks tree components chain) ∧ ∃ interruption,
      (openDurableDirectoryChain files.calls components false).perform tree =
        (.error interruption, tree) := by
  cases hroot : files.root tree with
  | error errno =>
      have hopen : (files.calls.openRoot.run).perform tree =
          (.error (.raised (.system errno)), tree) := by
        dsimp only [Handler.perform, DirectoryCall.run, FileSystem.calls]
        rw [hroot]
      refine .inr ⟨?_, _, perform_bind_of_error hopen⟩
      rintro chain ⟨root, info, more, hpasses, -, -⟩
      have hopened := hpasses.opened
      rw [hroot] at hopened
      cases hopened
  | ok root =>
      have hopen : (files.calls.openRoot.run).perform tree = (.ok root, tree) := by
        dsimp only [Handler.perform, DirectoryCall.run, FileSystem.calls]
        rw [hroot]
      have hwalk : (openDurableDirectoryChain files.calls components false).perform tree = _ :=
        (Handler.perform_bind_of_ok hopen).trans (perform_withLocals _ _ _ tree)
      -- an error closes what was retained on the way
      have hraises {interruption : Interruption DirectoryError}
          {left : List (ChainEntry Object)}
          (hbody : Handler.perform (do
            retainRoot files.calls components root
            descendRetaining files.calls false root [] components
            let entries ← Handler.read Prod.snd
            let refreshed ← inWorld (restampDirectoryChain files.calls entries)
            return (⟨components, refreshed⟩ : DurableDirectoryChain Object)) (tree, []) =
              (.error interruption, tree, left)) :
          (openDurableDirectoryChain files.calls components false).perform tree =
            (.error interruption, tree) := by
        rw [hwalk, hbody]
        cases interruption with
        | raised error => exact (Handler.perform_bind_of_ok (perform_closeEntries tree left)).trans rfl
        | crashed => rfl
      rcases @perform_retainRoot _ _ files tree components root hroot with
        ⟨info, hpasses, hretain⟩ | ⟨hrefused, interruption, hretain⟩
      · rcases @perform_descendRetaining _ _ files _ tree root [] components
          [⟨[], root, none, info⟩] with
          ⟨more, hdescends, hdescend⟩ | ⟨hnone, interruption, left, hdescend⟩
        · refine .inl ⟨_, ⟨root, info, more, hpasses, hdescends, rfl⟩, ?_⟩
          have hread : (Handler.read Prod.snd :
              DirectoryM (Tree × List (ChainEntry Object)) _).perform
                (tree, [⟨[], root, none, info⟩] ++ more) =
                (.ok ([⟨[], root, none, info⟩] ++ more), tree, [⟨[], root, none, info⟩] ++ more) :=
            rfl
          rw [hwalk, Handler.perform_bind_of_ok hretain, Handler.perform_bind_of_ok hdescend,
            Handler.perform_bind_of_ok hread,
            Handler.perform_bind_of_ok (perform_restamp hpasses hdescends)]
          rfl
        · refine .inr ⟨?_, interruption, hraises ((Handler.perform_bind_of_ok hretain).trans
            (perform_bind_of_error hdescend))⟩
          rintro chain ⟨other, _, more, hother, hdescends, -⟩
          obtain rfl := Except.ok.inj (hroot.symm.trans hother.opened)
          exact hnone more hdescends
      · refine .inr ⟨?_, interruption, hraises (perform_bind_of_error hretain)⟩
        rintro chain ⟨other, other', more, hother, -, -⟩
        obtain rfl := Except.ok.inj (hroot.symm.trans hother.opened)
        exact hrefused other' hother

end Walking

/-! ## The same directories -/

variable (files)

/-- A directory whose checks and names are what they were. -/
structure SameDirectory (before after : Tree) (directory : Object) : Prop extends
    files.SameAccess before after directory directory where
  lookup : ∀ name, files.lookup before directory name = files.lookup after directory name

variable {files}

/-- A part that passed passes again in the same directory. -/
theorem Passes.again {parent child : Object} {component : String} {final : Bool}
    {info : DirectoryStat} (hpasses : files.Passes before parent child component final info)
    (hparent : files.SameDirectory before after parent)
    (hchild : files.SameDirectory before after child) :
    files.Passes after parent child component final info where
  lookup := (hparent.lookup component).symm.trans hpasses.lookup
  admitted := ((validateOpenedComponent_agrees hchild.agree files.platform files.effectiveUid
    final).of_perform hpasses.admitted).2
  stat := hchild.stat.symm.trans hpasses.stat

theorem Descends.again {walked components : List String} {more : List (ChainEntry Object)}
    (hdescends : files.Descends before current walked components more)
    (hcurrent : files.SameDirectory before after current)
    (hsame : ∀ entry ∈ more, files.SameDirectory before after entry.fd) :
    files.Descends after current walked components more := by
  induction hdescends with
  | nil current walked => exact .nil current walked
  | cons hpasses _ ih =>
      have hchild := hsame _ List.mem_cons_self
      refine .cons (hpasses.again hcurrent hchild) (ih hchild fun entry hentry => ?_)
      exact hsame entry (List.mem_cons_of_mem _ hentry)

/-- Where all its directories are the same, a walk ends with the same chain. -/
theorem Walks.again {components : List String} {chain : DurableDirectoryChain Object}
    (hwalks : files.Walks before components chain) (hroot : files.root before = files.root after)
    (hsame : ∀ entry ∈ chain.entries, files.SameDirectory before after entry.fd) :
    files.Walks after components chain := by
  obtain ⟨root, info, more, hpasses, hdescends, rfl⟩ := hwalks
  have hsameRoot : files.SameDirectory before after root := hsame _ List.mem_cons_self
  have hagree := hsameRoot.agree
  refine ⟨root, info, more, ⟨hroot.symm.trans hpasses.opened, ?_, ?_, ?_⟩, ?_, rfl⟩
  · exact ((validateDirectoryFd_agrees hagree files.effectiveUid _).of_perform
      hpasses.validated).2
  · exact ((Agrees.ite (fun _ => validateProjectAclFd_agrees hagree files.platform)
      fun _ => validateAncestorAclFd_agrees hagree files.platform).of_perform hpasses.admitted).2
  · exact hsameRoot.stat.symm.trans hpasses.stat
  · exact hdescends.again hsameRoot fun entry hentry => hsame entry (List.mem_cons_of_mem _ hentry)

theorem Descends.stamped {walked components : List String} {more : List (ChainEntry Object)}
    (hdescends : files.Descends tree current walked components more) :
    ∀ entry ∈ more, files.stat tree entry.fd = .ok entry.stamp := by
  induction hdescends with
  | nil => exact nofun
  | cons hpasses _ ih =>
      intro entry hentry
      rcases List.mem_cons.mp hentry with rfl | hmore
      · exact hpasses.stat
      · exact ih entry hmore

/-- A walk stamps every entry with the metadata it has. -/
theorem Walks.stamped {components : List String} {chain : DurableDirectoryChain Object}
    (hwalks : files.Walks tree components chain) :
    ∀ entry ∈ chain.entries, files.stat tree entry.fd = .ok entry.stamp := by
  obtain ⟨root, info, more, hpasses, hdescends, rfl⟩ := hwalks
  intro entry hentry
  rcases List.mem_cons.mp hentry with rfl | hmore
  · exact hpasses.stat
  · exact hdescends.stamped entry hmore

/-- A walk ends with a directory, the root at least. -/
theorem Walks.ends {components : List String} {chain : DurableDirectoryChain Object}
    (hwalks : files.Walks tree components chain) : ∃ entry, chain.entries.getLast? = some entry := by
  obtain ⟨root, info, more, -, -, rfl⟩ := hwalks
  exact ⟨_, List.getLast?_eq_some_getLast (by simp)⟩

/-- There is one chain at most for a walk to end with. -/
theorem Descends.unique {walked components : List String} {more other : List (ChainEntry Object)}
    (hdescends : files.Descends tree current walked components more)
    (hother : files.Descends tree current walked components other) : more = other := by
  induction hdescends generalizing other with
  | nil =>
      cases hother
      rfl
  | cons hpasses _ ih =>
      cases hother with
      | cons hpasses' hrest =>
          obtain rfl := Except.ok.inj (hpasses.lookup.symm.trans hpasses'.lookup)
          obtain rfl := Except.ok.inj (hpasses.stat.symm.trans hpasses'.stat)
          rw [ih hrest]

theorem Walks.unique {components : List String} {chain other : DurableDirectoryChain Object}
    (hwalks : files.Walks tree components chain) (hother : files.Walks tree components other) :
    chain = other := by
  obtain ⟨root, info, more, hpasses, hdescends, rfl⟩ := hwalks
  obtain ⟨root', info', more', hpasses', hdescends', rfl⟩ := hother
  obtain rfl := Except.ok.inj (hpasses.opened.symm.trans hpasses'.opened)
  obtain rfl := Except.ok.inj (hpasses.stat.symm.trans hpasses'.stat)
  rw [hdescends.unique hdescends']

/-! ## Retained chains -/

/-- A chain is current where each part still has its stamp under its name. -/
theorem perform_entriesAreCurrent (tree : Tree) (parent : Option Object)
    (entries : List (ChainEntry Object)) :
    ∃ outcome, (entriesAreCurrent files.calls parent entries).perform tree = (outcome, tree) ∧
      outcome ≠ .error .crashed ∧
      (outcome = .ok true → ∀ entry ∈ entries, files.stat tree entry.fd = .ok entry.stamp) := by
  induction entries generalizing parent with
  | nil => exact ⟨.ok true, rfl, nofun, fun _ _ => nofun⟩
  | cons entry rest ih =>
      have hfstat : ((files.calls.object entry.fd).fstat.run).perform tree =
          match files.stat tree entry.fd with
          | .ok info => (.ok info, tree)
          | .error errno => (.error (.raised (.system errno)), tree) := by
        dsimp only [Handler.perform, DirectoryCall.run, FileSystem.calls, FileSystem.objectCalls]
        cases files.stat tree entry.fd with
        | ok info => rfl
        | error errno => rfl
      unfold entriesAreCurrent
      cases hstat : files.stat tree entry.fd with
      | error errno =>
          rw [hstat] at hfstat
          exact ⟨_, perform_bind_of_error hfstat, nofun, nofun⟩
      | ok info =>
          rw [hstat] at hfstat
          rw [Handler.perform_bind_of_ok hfstat]
          -- the first entry that changed ends the check
          by_cases hinfo : info ≠ entry.stamp
          · exact ⟨.ok false, by rw [if_pos hinfo]; rfl, nofun, nofun⟩
          · obtain rfl := not_not.mp hinfo
            rw [if_neg hinfo]
            have hfurther {outcome : Except (Interruption DirectoryError) Bool}
                (hcurrent : outcome = .ok true →
                  ∀ other ∈ rest, files.stat tree other.fd = .ok other.stamp) :
                outcome = .ok true →
                  ∀ other ∈ entry :: rest, files.stat tree other.fd = .ok other.stamp := by
              intro hok other hother
              rcases List.mem_cons.mp hother with rfl | hrest
              · exact hstat
              · exact hcurrent hok other hrest
            obtain ⟨outcome, hrest, halive, hcurrent⟩ := ih (some entry.fd)
            cases parent with
            | none => exact ⟨outcome, hrest, halive, hfurther hcurrent⟩
            | some parent =>
                dsimp only
                cases hlinked : files.statAt tree parent entry.childName with
                | error errno =>
                    have hrun : ((files.calls.statAt parent entry.childName).run).perform tree =
                        (.error (.raised (.system errno)), tree) := by
                      dsimp only [Handler.perform, DirectoryCall.run, FileSystem.calls]
                      rw [hlinked]
                    exact ⟨_, perform_bind_of_error hrun, nofun, nofun⟩
                | ok current =>
                    have hrun : ((files.calls.statAt parent entry.childName).run).perform tree =
                        (.ok current, tree) := by
                      dsimp only [Handler.perform, DirectoryCall.run, FileSystem.calls]
                      rw [hlinked]
                    rw [Handler.perform_bind_of_ok hrun]
                    split_ifs
                    · exact ⟨.ok false, rfl, nofun, nofun⟩
                    · exact ⟨outcome, hrest, halive, hfurther hcurrent⟩

/-- A chain that is current has the stamps that its directories have now. -/
theorem perform_retainedDirectoryChainIsCurrent (tree : Tree)
    (chain : DurableDirectoryChain Object) :
    ∃ current, (retainedDirectoryChainIsCurrent files.calls chain).perform tree =
        (.ok current, tree) ∧
      (current = true → ∀ entry ∈ chain.entries, files.stat tree entry.fd = .ok entry.stamp) := by
  obtain ⟨outcome, hperform, halive, hcurrent⟩ :=
    @perform_entriesAreCurrent _ _ files tree none chain.entries
  unfold retainedDirectoryChainIsCurrent
  rw [perform_catching, hperform]
  cases outcome with
  | ok current => exact ⟨current, rfl, fun htrue => hcurrent (by rw [htrue])⟩
  | error interruption =>
      cases interruption with
      | raised error => exact ⟨false, rfl, nofun⟩
      | crashed => exact absurd rfl halive

end FileSystem

end CompanionBridge
