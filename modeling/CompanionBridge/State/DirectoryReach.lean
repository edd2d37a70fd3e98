import CompanionBridge.State.DirectoryTree

/-!
# What the walk with one descriptor decides

The checks say of the tree what the walks rely on later: a component that has
been opened is found under its name, and one that has been admitted has a status.
Made through descriptors they follow the same checks made on the objects, and the
walk that keeps its last descriptor follows what a walk is to decide.
-/

namespace CompanionBridge

open Interruptible

namespace FileSystem

variable {Tree Object : Type} {files : FileSystem Tree Object}

/-! ## What a decision shows of the tree -/

/-- What was opened is what the name leads to. -/
theorem openComponentFd_lookup {parent child : Object} {component : String} {create created : Bool}
    {tree after : Tree}
    (hopened : (openComponentFd files.calls parent component create).perform tree =
      (.ok (child, created), after)) : files.lookup after parent component = .ok child := by
  -- the component is opened again after it was made
  have hreopen : ∀ made : Bool, Meets (fun _ : Tree => True)
      (do
        let child ← (files.calls.openAt parent component).run
        return (child, made))
      ⟨fun opened left => files.lookup left parent component = .ok opened.1, fun _ _ => True,
        fun _ => True⟩ := by
    intro made
    have hrun : Meets (fun _ : Tree => True) (files.calls.openAt parent component).run
        ⟨fun child left => files.lookup left parent component = .ok child, fun _ _ => True,
          fun _ => True⟩ := by
      intro left _
      unfold Handler.perform DirectoryCall.run FileSystem.calls
      dsimp only
      cases hlookup : files.lookup left parent component with
      | ok child => exact hlookup
      | error errno => trivial
    exact .bind hrun fun _ => .pure fun _ hlookup => hlookup
  have hmeets : Meets (fun _ : Tree => True) (openComponentFd files.calls parent component create)
      ⟨fun opened left => files.lookup left parent component = .ok opened.1, fun _ _ => True,
        fun _ => True⟩ := by
    have htried : Meets (fun _ : Tree => True) (files.calls.openAt parent component).tried
        ⟨fun outcome left => files.lookup left parent component = outcome, fun _ _ => True,
          fun _ => True⟩ := fun _ _ => rfl
    refine .bind htried fun outcome => ?_
    cases outcome with
    | ok child => exact .pure fun _ hlookup => hlookup
    | error errno =>
        dsimp only
        split_ifs
        · have hmade : Meets (fun left => files.lookup left parent component = .error errno)
              (files.calls.mkdirAt parent component).tried
              ⟨fun _ _ => True, fun _ _ => True, fun _ => True⟩ := fun _ _ => trivial
          refine .bind hmade fun made => ?_
          cases made with
          | ok _ => exact hreopen true
          | error errno =>
              dsimp only
              split_ifs
              · exact hreopen false
              · exact .raise fun _ _ => trivial
        · exact .raise fun _ _ => trivial
  have hends := hmeets tree trivial
  rw [hopened] at hends
  exact hends

theorem fstat_ok {object : Object} {tree after : Tree} {info : DirectoryStat}
    (hfstat : (files.objectCalls object).fstat.run.perform tree = (.ok info, after)) :
    files.stat tree object = .ok info := by
  unfold Handler.perform DirectoryCall.run FileSystem.objectCalls at hfstat
  dsimp only at hfstat
  cases hstat : files.stat tree object with
  | ok other =>
      rw [hstat] at hfstat
      cases hfstat
      rfl
  | error errno =>
      rw [hstat] at hfstat
      cases hfstat

/-- A component that is admitted has a status. -/
theorem stat_of_admitted {parent child : Object} {created final create : Bool} {tree after : Tree}
    (hadmitted : (files.admitComponent parent child created final create).perform tree =
      (.ok (), after)) : ∃ info, files.stat tree child = .ok info := by
  obtain ⟨_, middle, hvalidated, -⟩ := Handler.perform_bind_eq_ok hadmitted
  unfold validateOpenedComponent at hvalidated
  split_ifs at hvalidated
  · obtain ⟨info, _, hfstat, -⟩ := Handler.perform_bind_eq_ok hvalidated
    exact ⟨info, fstat_ok hfstat⟩
  · obtain ⟨_, _, hdirectory, -⟩ := Handler.perform_bind_eq_ok hvalidated
    obtain ⟨info, _, hfstat, -⟩ := Handler.perform_bind_eq_ok hdirectory
    exact ⟨info, fstat_ok hfstat⟩
  · obtain ⟨_, _, hdirectory, -⟩ := Handler.perform_bind_eq_ok hvalidated
    obtain ⟨info, _, hfstat, -⟩ := Handler.perform_bind_eq_ok hdirectory
    exact ⟨info, fstat_ok hfstat⟩

/-! ## The root as the state directory -/

/-- A directory that may be the last may be an ancestor. -/
theorem validateDirectoryMetadata_of_final {effectiveUid : Nat} {info : DirectoryStat}
    (hfinal : validateDirectoryMetadata effectiveUid info true = .ok ()) :
    validateDirectoryMetadata effectiveUid info false = .ok () := by
  unfold validateDirectoryMetadata validateProjectDirectoryMetadata at hfinal
  rw [if_pos rfl] at hfinal
  split_ifs at hfinal with hkind howner hmode
  have htrusted : info.uid ∈ [0, effectiveUid] := by
    rw [not_not.mp howner]
    exact List.mem_cons_of_mem _ List.mem_cons_self
  have hprotected : ¬ (permissionBits info.mode &&& 0o022 ≠ 0 ∧ info.mode &&& stickyBit = 0) := by
    rw [not_not.mp hmode]
    exact fun hwritable => hwritable.1 (by decide)
  unfold validateDirectoryMetadata
  rw [if_neg (not_not.mpr hkind), if_neg Bool.false_ne_true, if_neg (not_not.mpr htrusted),
    if_neg hprotected]

end FileSystem

theorem validatePosixAcl_of_project {World : Type} {acl : AclCalls World} {world after : World}
    (hproject : (LinuxAcl.validatePosixAcl acl false false).perform world = (.ok (), after)) :
    (LinuxAcl.validatePosixAcl acl false true).perform world = (.ok (), after) := by
  obtain ⟨attributes, middle, hread, hjudged⟩ := Handler.perform_bind_eq_ok hproject
  unfold LinuxAcl.validatePosixAcl
  rw [Handler.perform_bind_of_ok hread]
  cases attributes with
  | nil => exact hjudged
  | cons listed rest => cases hjudged

theorem validateExtendedAcl_of_project {World : Type} {acl : DarwinAclCalls World}
    {world after : World}
    (hproject : (DarwinAcl.validateExtendedAcl acl false false).perform world = (.ok (), after)) :
    (DarwinAcl.validateExtendedAcl acl false true).perform world = (.ok (), after) := by
  obtain ⟨text, middle, hread, hjudged⟩ := Handler.perform_bind_eq_ok hproject
  unfold DarwinAcl.validateExtendedAcl
  rw [Handler.perform_bind_of_ok hread]
  unfold DarwinAcl.judgeText at hjudged ⊢
  by_cases habsent : DarwinAcl.isAbsent text = true
  · rw [if_pos habsent] at hjudged ⊢
    exact hjudged
  · rw [if_neg habsent, if_neg Bool.false_ne_true, if_neg Bool.false_ne_true] at hjudged
    obtain ⟨other, _, hsame, hlast⟩ := Handler.perform_bind_eq_ok hjudged
    cases hsame
    dsimp only at hlast
    rw [if_neg habsent] at hlast
    cases hlast

/-- A directory without an access list is safe as an ancestor. -/
theorem validateAncestorAclFd_of_project {World : Type} {object : ObjectCalls World}
    {platform : Platform} {world after : World}
    (hproject : (validateProjectAclFd platform object false).perform world = (.ok (), after)) :
    (validateAncestorAclFd platform object).perform world = (.ok (), after) := by
  cases platform with
  | linux => exact validatePosixAcl_of_project hproject
  | darwin => exact validateExtendedAcl_of_project hproject
  | other => exact hproject

namespace FileSystem

variable {Tree Object : Type} {files : FileSystem Tree Object}

/-- A check that passes has changed nothing. -/
theorem validateDirectoryFd_ok {object : Object} {final : Bool} {tree after : Tree} :
    (validateDirectoryFd files.effectiveUid (files.objectCalls object) final).perform tree =
        (.ok (), after) ↔
      after = tree ∧ ∃ info, files.stat tree object = .ok info ∧
        validateDirectoryMetadata files.effectiveUid info final = .ok () := by
  unfold validateDirectoryFd
  rw [Handler.perform_bind]
  unfold Handler.perform DirectoryCall.run FileSystem.objectCalls
  dsimp only
  cases hstat : files.stat tree object with
  | error errno => exact ⟨nofun, fun ⟨_, _, hfalse, _⟩ => nomatch hfalse⟩
  | ok info =>
      dsimp only
      cases hverdict : validateDirectoryMetadata files.effectiveUid info final with
      | error error =>
          constructor
          · intro hraised
            cases hraised
          · rintro ⟨-, other, hother, haccepted⟩
            cases hother
            cases hverdict.symm.trans haccepted
      | ok _ =>
          constructor
          · intro haccepted
            cases haccepted
            exact ⟨rfl, info, rfl, hverdict⟩
          · rintro ⟨rfl, -⟩
            rfl

/-- The checks of the root as the state directory imply those of it as an ancestor. -/
theorem admitProjectRoot_follows (root : Object) :
    Follows (fun _ => True) id (files.admitProjectRoot root)
      (files.admitAncestorRoot root >>= fun _ => files.admitProjectRoot root)
      fun _ _ _ => True := by
  have hreads := @objectCalls_reads Tree Object files Eq _ root
  apply Follows.implied
  · exact .bind (validateDirectoryFd_keeps hreads _ _) fun _ => validateAncestorAclFd_keeps hreads _
  · exact .bind (validateDirectoryFd_keeps hreads _ _) fun _ =>
      validateProjectAclFd_keeps hreads (fun hfalse => absurd hfalse Bool.false_ne_true) _
  · intro tree hproject
    obtain ⟨_, middle, hdirectory, hacl⟩ := Handler.perform_bind_eq_ok hproject
    obtain ⟨rfl, info, hstat, hfinal⟩ := validateDirectoryFd_ok.mp hdirectory
    have hancestor := validateDirectoryFd_ok.mpr
      ⟨rfl, info, hstat, validateDirectoryMetadata_of_final hfinal⟩
    unfold admitAncestorRoot
    rw [Handler.perform_bind_of_ok hancestor]
    exact validateAncestorAclFd_of_project hacl

/-! ## Calls through descriptors -/

section Descriptors

variable {Result Other Locals : Type}

/-- A walk over the descriptors of a file system. -/
abbrev Table (Tree Object : Type) : Type :=
  FileTable (OpenFile Object) Tree

/-- What holds over trees holds over tables, which have a tree in them. -/
theorem table_follows {inner : DirectoryM Tree Result} {guide : DirectoryM Tree Other}
    {related : Result → Other → Prop}
    (hinner : Follows (fun _ => True) id inner guide fun result other _ => related result other) :
    Follows (fun _ : Table Tree Object => True) FileTable.kernel
      (FileTable.kernelPart.lift inner) guide fun result other _ => related result other := by
  have hlift : Follows (fun _ : Table Tree Object => True) FileTable.kernelPart.view
      (FileTable.kernelPart.lift inner) guide fun result other _ => related result other ∧ True :=
    hinner.lift fun _ _ _ => trivial
  exact hlift.weaken (fun _ _ => trivial) fun _ _ _ hboth => hboth.1

theorem lift_follows (handler : DirectoryM Tree Result) :
    Follows (fun _ : Table Tree Object => True) FileTable.kernel
      (FileTable.kernelPart.lift handler) handler fun result other _ => result = other :=
  table_follows (Follows.refl handler)

/-- In a walk with local variables, a step keeps what its guide keeps of the tree. -/
theorem inWorld_follows {handler : DirectoryM (Table Tree Object) Result}
    {guide : DirectoryM Tree Other} {related : Result → Other → Prop}
    (hfollows : Follows (fun _ => True) FileTable.kernel handler guide
      fun result other _ => related result other)
    {earlier : Tree → Locals → Prop} {later : Result → Other → Tree → Locals → Prop}
    (hkeeps : ∀ result other before after locals, earlier before locals →
      guide.perform before = (.ok other, after) → related result other →
      later result other after locals) :
    Follows (fun whole : Table Tree Object × Locals => earlier whole.1.kernel whole.2)
      (fun whole => whole.1.kernel) (inWorld handler) guide
      fun result other whole => later result other whole.1.kernel whole.2 := by
  apply Follows.outer
  intro locals
  have hstarted : Follows (fun table : Table Tree Object => earlier table.kernel locals)
      FileTable.kernel handler guide fun result other _ => related result other :=
    hfollows.weaken (fun _ _ => trivial) fun _ _ _ hrelated => hrelated
  refine hstarted.ran.weaken (fun _ hearlier => hearlier) ?_
  rintro result other table ⟨hrelated, before, hearlier, hperform⟩
  exact hkeeps result other before.kernel table.kernel locals hearlier hperform hrelated

/-- A program of the kernel follows its guide whatever the local variables are. -/
theorem inWorld_step {handler : DirectoryM (Table Tree Object) Result}
    {guide : DirectoryM Tree Other}
    (hfollows : Follows (fun _ => True) FileTable.kernel handler guide fun _ _ _ => True)
    (keeps : Locals → Prop) :
    Follows (fun whole : Table Tree Object × Locals => keeps whole.2)
      (fun whole => whole.1.kernel) (inWorld handler) guide fun _ _ whole => keeps whole.2 :=
  @inWorld_follows Tree Object _ _ _ _ _ (fun _ _ => True) hfollows (fun _ => keeps)
    (fun _ _ _ => keeps) fun _ _ _ _ _ hkeeps _ _ => hkeeps

/-- Opening adds a descriptor, which the tree does not see. -/
theorem opening_follows (outcome : Tree → Except Nat Object) :
    Follows (fun _ : Table Tree Object => True) FileTable.kernel
      (DirectoryCall.tried (DirectoryKernel.opening fun held tree =>
        ((outcome tree).map (files.describe held), tree)))
      (DirectoryCall.tried fun tree => (outcome tree, tree))
      fun opened object _ => opened.map OpenFile.object = object := by
  intro table _
  unfold Handler.perform DirectoryCall.tried DirectoryKernel.opening
  dsimp only
  cases outcome table.kernel with
  | ok object => exact .returned rfl
  | error errno => exact .returned rfl

theorem opening_run_follows (outcome : Tree → Except Nat Object) :
    Follows (fun _ : Table Tree Object => True) FileTable.kernel
      (DirectoryCall.run (DirectoryKernel.opening fun held tree =>
        ((outcome tree).map (files.describe held), tree)))
      (DirectoryCall.run fun tree => (outcome tree, tree))
      fun fd object _ => fd.object = object := by
  rw [run_eq_tried, run_eq_tried]
  refine (opening_follows outcome).bind fun opened object => .of_fact ?_
  rintro rfl
  cases opened with
  | ok fd => exact .pure fun _ _ => rfl
  | error errno => exact .raise

variable [DecidableEq Object]

/-- So opening a part follows looking it up. -/
theorem openComponentFd_follows (parent : OpenFile Object) (component : String) (create : Bool) :
    Follows (fun _ : Table Tree Object => True) FileTable.kernel
      (openComponentFd files.kernel.calls parent component create)
      (openComponentFd files.calls parent.object component create)
      fun opened found _ => opened.1.object = found.1 ∧ opened.2 = found.2 := by
  have htried := @opening_follows Tree Object files
    fun tree => files.lookup tree parent.object component
  have hrun := @opening_run_follows Tree Object files
    fun tree => files.lookup tree parent.object component
  have hmake := @lift_follows Tree Object _ (files.calls.mkdirAt parent.object component).tried
  have hreopen : ∀ created : Bool, Follows (fun _ : Table Tree Object => True) FileTable.kernel
      (do
        let child ← (files.kernel.calls.openAt parent component).run
        return (child, created))
      (do
        let child ← (files.calls.openAt parent.object component).run
        return (child, created))
      fun opened found _ => opened.1.object = found.1 ∧ opened.2 = found.2 :=
    fun created => hrun.bind fun _ _ => .pure fun _ hobject => ⟨hobject, rfl⟩
  refine htried.bind fun opened found => .of_fact ?_
  rintro rfl
  cases opened with
  | ok child => exact .pure fun _ _ => ⟨rfl, rfl⟩
  | error errno =>
      dsimp only [Except.map]
      split_ifs
      · refine hmake.bind fun made other => .of_fact ?_
        rintro rfl
        cases made with
        | ok _ => exact hreopen true
        | error errno =>
            dsimp only
            split_ifs
            · exact hreopen false
            · exact .raise
      · exact .raise

omit [DecidableEq Object] in
/-- Checks made on the kernel's tree follow the same checks made on a tree. -/
theorem lifted_follows {handler : DirectoryM (Table Tree Object) Result}
    {guide : DirectoryM Tree Result} (hlift : handler = FileTable.kernelPart.lift guide) :
    Follows (fun _ : Table Tree Object => True) FileTable.kernel handler guide
      fun _ _ _ => True := by
  rw [hlift]
  exact (lift_follows guide).weaken (fun _ _ => trivial) fun _ _ _ _ => trivial

theorem validateOpenedComponent_follows (child : OpenFile Object) (created final : Bool) :
    Follows (fun _ : Table Tree Object => True) FileTable.kernel
      (validateOpenedComponent files.kernel.calls.platform files.kernel.calls.effectiveUid
        (files.kernel.calls.object child) created final)
      (validateOpenedComponent files.platform files.effectiveUid (files.objectCalls child.object)
        created final)
      fun _ _ _ => True :=
  lifted_follows (validateOpenedComponent_within _ _ _ _ _ _)

theorem fsync_follows (fd : OpenFile Object) :
    Follows (fun _ : Table Tree Object => True) FileTable.kernel
      (files.kernel.calls.object fd).fsync.run (files.objectCalls fd.object).fsync.run
      fun _ _ _ => True :=
  lifted_follows (fsync_within _ _)

theorem validateDirectoryFd_follows (fd : OpenFile Object) (final : Bool) :
    Follows (fun _ : Table Tree Object => True) FileTable.kernel
      (validateDirectoryFd files.kernel.calls.effectiveUid (files.kernel.calls.object fd) final)
      (validateDirectoryFd files.effectiveUid (files.objectCalls fd.object) final)
      fun _ _ _ => True :=
  lifted_follows (validateDirectoryFd_within _ _ _ _)

theorem validateProjectAclFd_follows (fd : OpenFile Object) :
    Follows (fun _ : Table Tree Object => True) FileTable.kernel
      (validateProjectAclFd files.kernel.calls.platform (files.kernel.calls.object fd) false)
      (validateProjectAclFd files.platform (files.objectCalls fd.object) false)
      fun _ _ _ => True :=
  lifted_follows (validateProjectAclFd_within _ _ _ _)

theorem validateAncestorAclFd_follows (fd : OpenFile Object) :
    Follows (fun _ : Table Tree Object => True) FileTable.kernel
      (validateAncestorAclFd files.kernel.calls.platform (files.kernel.calls.object fd))
      (validateAncestorAclFd files.platform (files.objectCalls fd.object))
      fun _ _ _ => True :=
  lifted_follows (validateAncestorAclFd_within _ _ _)

/-! ## Closing -/

theorem closed_kernel (table : Table Tree Object) (fd : OpenFile Object) :
    (table.closed fd).kernel = table.kernel := by
  unfold FileTable.closed
  split_ifs
  · rfl
  · rfl

theorem perform_closeFdIgnoringErrors (fd : OpenFile Object) (table : Table Tree Object) :
    (closeFdIgnoringErrors files.kernel.calls fd).perform table = (.ok (), table.closed fd) := rfl

theorem closeFdIgnoringErrors_unseen (fd : OpenFile Object) :
    Unseen (FileTable.kernel : Table Tree Object → Tree)
      (closeFdIgnoringErrors files.kernel.calls fd) := by
  intro table
  rw [perform_closeFdIgnoringErrors]
  exact closed_kernel table fd

end Descriptors

/-! ## The walk that keeps one descriptor -/

section Walks

variable [DecidableEq Object]

/-- The checks of one component, with its descriptor closed if they fail. -/
theorem admitComponent_follows (current child : OpenFile Object) (created final create : Bool) :
    Follows (fun _ : Table Tree Object => True) FileTable.kernel
      (onError
        (do
          validateOpenedComponent files.kernel.calls.platform files.kernel.calls.effectiveUid
            (files.kernel.calls.object child) created final
          if create then (files.kernel.calls.object current).fsync.run)
        (closeFdIgnoringErrors files.kernel.calls child))
      (files.admitComponent current.object child.object created final create)
      fun _ _ _ => True := by
  refine Follows.onError ?_ (closeFdIgnoringErrors_unseen child)
  refine (validateOpenedComponent_follows child created final).bind fun _ _ => ?_
  split_ifs
  · exact fsync_follows current
  · exact .pure fun _ _ => trivial

/-- By induction on the parts that remain. -/
theorem descend_follows (create : Bool) (current : OpenFile Object) (components : List String) :
    Follows (fun whole : Table Tree Object × OpenFile Object => whole.2 = current)
      (fun whole => whole.1.kernel) (descend files.kernel.calls create components)
      (files.reachFrom create current.object components)
      fun _ reached whole => whole.2.object = reached := by
  induction components generalizing current with
  | nil =>
      apply Follows.pure
      rintro whole rfl
      rfl
  | cons component rest ih =>
      have hread : ∀ whole : Table Tree Object × OpenFile Object, whole.2 = current →
          ∃ after, (Handler.read Prod.snd : DirectoryM (Table Tree Object × OpenFile Object)
            (OpenFile Object)).perform whole = (.ok current, after) ∧ after.2 = current ∧
            after.1.kernel = whole.1.kernel := by
        rintro whole rfl
        exact ⟨whole, rfl, rfl, rfl⟩
      refine Follows.after_value hread ?_
      have hopen := @inWorld_follows Tree Object _ _ _ _ _ _
        (@openComponentFd_follows Tree Object files _ current component create)
        (fun _ locals => locals = current)
        (fun opened found _ _ => opened.1.object = found.1 ∧ opened.2 = found.2)
        (fun _ _ _ _ _ _ _ hrelated => hrelated)
      refine hopen.bind ?_
      rintro ⟨child, created⟩ ⟨found, made⟩
      refine .of_fact ?_
      rintro ⟨rfl, rfl⟩
      refine (inWorld_step (admitComponent_follows current child created rest.isEmpty create)
        fun _ : OpenFile Object => True).bind fun _ _ => ?_
      -- the parent is closed once the child is admitted
      have hclose : ∀ whole : Table Tree Object × OpenFile Object, True →
          ∃ after, (inWorld (onError (files.kernel.calls.close current).run
              (closeFdIgnoringErrors files.kernel.calls child))).perform whole =
            (.ok (), after) ∧ True ∧ after.1.kernel = whole.1.kernel :=
        fun whole _ => ⟨_, rfl, trivial, closed_kernel whole.1 current⟩
      refine Follows.after_value hclose ?_
      have hupdate : ∀ whole : Table Tree Object × OpenFile Object, True →
          ∃ after, (Handler.update fun whole : Table Tree Object × OpenFile Object =>
              (whole.1, child) : DirectoryM (Table Tree Object × OpenFile Object) Unit).perform
              whole = (.ok (), after) ∧ after.2 = child ∧ after.1.kernel = whole.1.kernel :=
        fun whole _ => ⟨_, rfl, rfl, rfl⟩
      refine Follows.after_value hupdate ?_
      exact ih child

/-- After an error, the walk closes its descriptor and raises again. -/
theorem closeCurrent_raises (error : DirectoryError) (current : OpenFile Object)
    (table : Table Tree Object) :
    (do
      closeFdIgnoringErrors files.kernel.calls current
      raise error : DirectoryM (Table Tree Object) (List String × OpenFile Object)).perform table =
      (.error (.raised error), table.closed current) := by
  rw [Handler.perform_bind_of_ok (perform_closeFdIgnoringErrors current table)]
  rfl

/-- The whole walk reaches what its path leads to. -/
theorem openDurableDirectory_follows (components : List String) (create : Bool) :
    Follows (fun _ : Table Tree Object => True) FileTable.kernel
      (openDurableDirectory files.kernel.calls components create) (files.reach components create)
      fun opened reached _ => opened.2.object = reached := by
  refine (opening_run_follows files.root).bind fun root object => .of_fact ?_
  rintro rfl
  have hreturn : ∀ reached : Object, ∀ whole : Table Tree Object × OpenFile Object,
      whole.2.object = reached → ∃ opened after,
        (do
          let current ← Handler.read Prod.snd
          return (components, current) : DirectoryM (Table Tree Object × OpenFile Object) _).perform
          whole = (.ok opened, after) ∧ opened.2.object = reached ∧
            after.1.kernel = whole.1.kernel :=
    fun _ whole hreached => ⟨(components, whole.2), whole, rfl, hreached, rfl⟩
  have hbody : Follows (fun whole : Table Tree Object × OpenFile Object => whole.2 = root)
      (fun whole => whole.1.kernel)
      (do
        inWorld (validateDirectoryFd files.kernel.calls.effectiveUid
          (files.kernel.calls.object root) false)
        inWorld (validateAncestorAclFd files.kernel.calls.platform (files.kernel.calls.object root))
        if components = [] then do
          inWorld (validateDirectoryFd files.kernel.calls.effectiveUid
            (files.kernel.calls.object root) true)
          inWorld (validateProjectAclFd files.kernel.calls.platform
            (files.kernel.calls.object root) false)
        else descend files.kernel.calls create components
        let current ← Handler.read Prod.snd
        return (components, current))
      (do
        files.admitAncestorRoot root.object
        if components = [] then files.admitProjectRoot root.object
        files.reachFrom create root.object components)
      fun opened reached _ => opened.2.object = reached := by
    unfold admitAncestorRoot admitProjectRoot
    rw [bind_assoc]
    refine (inWorld_step (validateDirectoryFd_follows root false) (· = root)).bind fun _ _ => ?_
    refine (inWorld_step (validateAncestorAclFd_follows root) (· = root)).bind fun _ _ => ?_
    -- an empty path ends at the root, which must then be private
    by_cases hempty : components = []
    · subst hempty
      rw [if_pos rfl, if_pos rfl, bind_assoc]
      refine (inWorld_step (validateDirectoryFd_follows root true) (· = root)).bind fun _ _ => ?_
      refine (inWorld_step (validateProjectAclFd_follows root) (· = root)).bind fun _ _ => ?_
      apply Follows.of_unseen
      rintro whole rfl
      exact hreturn whole.2.object whole rfl
    · rw [if_neg hempty, if_neg hempty]
      refine (descend_follows create root components).before ?_
      exact fun _ reached => hreturn reached
  refine Follows.withLocals ?_ ?_ ?_
  · exact hbody.weaken (fun _ hwhole => hwhole.2) fun _ _ _ hrelated => hrelated
  · intro error current table
    rw [closeCurrent_raises]
    exact closed_kernel table current
  · intro error current table
    rw [closeCurrent_raises]
    rfl

end Walks

end FileSystem

end CompanionBridge
