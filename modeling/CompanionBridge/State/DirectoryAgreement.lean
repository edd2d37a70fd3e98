import CompanionBridge.State.DirectoryReach

/-!
# The two walks agree

The walk that keeps all its descriptors follows what a walk is to decide, as the
other one does. It reads more of the tree, but nothing that was not read before:
each stamp is the status of an object that had one, and each name is looked up
where it was found.
-/

namespace CompanionBridge

open Interruptible

namespace FileSystem

section Walks

variable {Tree Object : Type} {files : FileSystem Tree Object} [DecidableEq Object]

/-! ## The walk that keeps all of them -/

/-- Every entry has a status, and is found under its name in the one before;
`parent` is the directory before the first. -/
def Linked (files : FileSystem Tree Object) (tree : Tree) :
    Option (OpenFile Object) → List (ChainEntry (OpenFile Object)) → Prop
  | _, [] => True
  | parent, entry :: rest =>
      (∃ info, files.stat tree entry.fd.object = .ok info) ∧
        (∀ above ∈ parent, ∃ name, entry.childName = some name ∧
          files.lookup tree above.object name = .ok entry.fd.object) ∧
        Linked files tree (some entry.fd) rest

omit [DecidableEq Object] in
theorem Linked.grows {before after : Tree} (hgrows : files.Grows before after)
    {parent : Option (OpenFile Object)} {entries : List (ChainEntry (OpenFile Object))}
    (hlinked : Linked files before parent entries) : Linked files after parent entries := by
  induction entries generalizing parent with
  | nil => trivial
  | cons entry rest ih =>
      obtain ⟨⟨info, hstat⟩, hfound, hrest⟩ := hlinked
      refine ⟨hgrows.stat _ _ hstat, fun above habove => ?_, ih hrest⟩
      obtain ⟨name, hname, hlookup⟩ := hfound above habove
      exact ⟨name, hname, hgrows.lookup _ _ _ hlookup⟩

omit [DecidableEq Object] in
/-- One more part of the chain. -/
theorem Linked.append {tree : Tree} {parent : Option (OpenFile Object)}
    {entries : List (ChainEntry (OpenFile Object))} {entry : ChainEntry (OpenFile Object)}
    (hlinked : Linked files tree parent entries)
    (hstat : ∃ info, files.stat tree entry.fd.object = .ok info)
    (hfound : ∀ above ∈ (entries.map ChainEntry.fd).getLast?.or parent,
      ∃ name, entry.childName = some name ∧
        files.lookup tree above.object name = .ok entry.fd.object) :
    Linked files tree parent (entries ++ [entry]) := by
  induction entries generalizing parent with
  | nil => exact ⟨hstat, hfound, trivial⟩
  | cons first rest ih =>
      obtain ⟨hfirst, hlink, hrest⟩ := hlinked
      refine ⟨hfirst, hlink, ih hrest ?_⟩
      intro above habove
      apply hfound above
      rw [List.map_cons, List.getLast?_cons]
      cases hlast : (rest.map ChainEntry.fd).getLast? with
      | none =>
          rw [hlast] at habove
          exact habove
      | some last =>
          rw [hlast] at habove
          exact habove

/-- The entries lead from the root to the current directory. -/
def Leads (files : FileSystem Tree Object) (current : OpenFile Object) (tree : Tree)
    (entries : List (ChainEntry (OpenFile Object))) : Prop :=
  Linked files tree none entries ∧ (entries.map ChainEntry.fd).getLast? = some current

theorem perform_fstat {fd : OpenFile Object} {table : Table Tree Object} {info : DirectoryStat}
    (hstat : files.stat table.kernel fd.object = .ok info) :
    (files.kernel.calls.object fd).fstat.run.perform table = (.ok info, table) := by
  unfold Handler.perform DirectoryCall.run DirectoryKernel.calls ObjectCalls.within
    DirectoryCall.within FileSystem.kernel FileSystem.objectCalls FileTable.kernelPart
  dsimp only
  rw [hstat]

theorem perform_statAt {parent : OpenFile Object} {name : Option String}
    {table : Table Tree Object} {info : DirectoryStat}
    (hstat : files.statAt table.kernel parent.object name = .ok info) :
    (files.kernel.calls.statAt parent name).run.perform table = (.ok info, table) := by
  unfold Handler.perform DirectoryCall.run DirectoryKernel.calls
    DirectoryCall.within FileSystem.kernel FileTable.kernelPart
  dsimp only
  rw [hstat]

/-- Restamping a chain that is linked succeeds, and changes no descriptor. -/
theorem restampEntries_returns {table : Table Tree Object} {parent : Option (OpenFile Object)}
    {entries : List (ChainEntry (OpenFile Object))}
    (hlinked : Linked files table.kernel parent entries) :
    ∃ refreshed, (restampEntries files.kernel.calls parent entries).perform table =
        (.ok refreshed, table) ∧
      refreshed.map ChainEntry.fd = entries.map ChainEntry.fd := by
  induction entries generalizing parent with
  | nil => exact ⟨[], rfl, rfl⟩
  | cons entry rest ih =>
      obtain ⟨⟨info, hstat⟩, hfound, hrest⟩ := hlinked
      obtain ⟨refreshed, hperform, hfds⟩ := ih hrest
      refine ⟨{ entry with stamp := info } :: refreshed, ?_, ?_⟩
      · unfold restampEntries
        rw [Handler.perform_bind_of_ok (perform_fstat hstat)]
        have hrefreshed : ((do
            let others ← restampEntries files.kernel.calls (some entry.fd) rest
            return { entry with stamp := info } :: others) :
              DirectoryM (Table Tree Object) _).perform table =
            (.ok ({ entry with stamp := info } :: refreshed), table) := by
          rw [Handler.perform_bind_of_ok hperform]
          rfl
        cases parent with
        | none => exact hrefreshed
        | some above =>
            obtain ⟨name, hname, hlookup⟩ := hfound above rfl
            have hlinkedStat : files.statAt table.kernel above.object entry.childName =
                .ok info := by
              rw [hname, files.statAt_lookup _ _ _ _ hlookup, hstat]
            dsimp only
            rw [Handler.perform_bind_of_ok (perform_statAt hlinkedStat), if_neg (not_not.mpr rfl)]
            exact hrefreshed
      · rw [List.map_cons, List.map_cons, hfds]

theorem closeEntries_returns (entries : List (ChainEntry (OpenFile Object)))
    (table : Table Tree Object) :
    ∃ after, (closeEntries files.kernel.calls entries).perform table = (.ok (), after) ∧
      after.kernel = table.kernel := by
  induction entries with
  | nil => exact ⟨table, rfl, rfl⟩
  | cons entry rest ih =>
      obtain ⟨after, hperform, hkernel⟩ := ih
      refine ⟨after.closed entry.fd, ?_, (closed_kernel after entry.fd).trans hkernel⟩
      unfold closeEntries
      rw [Handler.perform_bind_of_ok hperform]
      rfl

theorem closeUnretained_unseen (child : OpenFile Object) :
    Unseen (fun whole : Table Tree Object × List (ChainEntry (OpenFile Object)) => whole.1.kernel)
      (closeUnretained files.kernel.calls child) := by
  rintro ⟨table, entries⟩
  unfold closeUnretained
  rw [Handler.perform_bind, Handler.perform_read]
  dsimp only
  split_ifs
  · rfl
  · exact closed_kernel table child

/-- A directory that has a status, and is found in the last one, can be retained. -/
theorem retain_returns {child : OpenFile Object} {path : List String} {name : Option String}
    {table : Table Tree Object} {entries : List (ChainEntry (OpenFile Object))}
    (hlinked : Linked files table.kernel none entries)
    (hstat : ∃ info, files.stat table.kernel child.object = .ok info)
    (hfound : ∀ above ∈ (entries.map ChainEntry.fd).getLast?, ∃ component,
      name = some component ∧
        files.lookup table.kernel above.object component = .ok child.object) :
    ∃ whole, (retain files.kernel.calls path child name).perform (table, entries) =
        (.ok (), whole) ∧
      Leads files child whole.1.kernel whole.2 ∧ whole.1.kernel = table.kernel := by
  obtain ⟨info, hstat⟩ := hstat
  refine ⟨(table, entries ++ [⟨path, child, name, info⟩]), ?_, ⟨?_, ?_⟩, rfl⟩
  · unfold retain
    have hstamp : (inWorld (files.kernel.calls.object child).fstat.run).perform
        (table, entries) = (.ok info, (table, entries)) := by
      rw [StatePart.perform_lift]
      dsimp only [StatePart.outer]
      rw [perform_fstat hstat]
    rw [Handler.perform_bind_of_ok hstamp]
    rfl
  · refine hlinked.append ⟨info, hstat⟩ ?_
    rw [Option.or_none]
    exact hfound
  · rw [List.map_append]
    exact List.getLast?_concat

/-- The directory that has been opened is found in the last one of the chain. -/
def Found (files : FileSystem Tree Object) (current child : OpenFile Object) (component : String)
    (tree : Tree) (entries : List (ChainEntry (OpenFile Object))) : Prop :=
  Leads files current tree entries ∧ files.lookup tree current.object component = .ok child.object

omit [DecidableEq Object] in
/-- Two steps in the world, one of them optional, before a last one. -/
theorem inWorld_regroup {World Locals : Type} (first second : DirectoryM World Unit)
    (create : Bool) (last : DirectoryM (World × Locals) Unit) :
    (do
      inWorld first
      if create then inWorld second
      last) =
    inWorld (do
      first
      if create then second) >>= fun _ => last := by
  unfold inWorld
  rw [StatePart.lift_bind, bind_assoc]
  refine bind_congr fun _ => ?_
  cases create with
  | true => rfl
  | false =>
      rw [if_neg Bool.false_ne_true, if_neg Bool.false_ne_true, StatePart.lift_pure, pure_bind]

omit [DecidableEq Object] in
/-- The same of a guide, where the last step has a result. -/
theorem guide_regroup {World Result : Type} (first second : DirectoryM World Unit)
    (condition : Prop) [Decidable condition] (last : DirectoryM World Result) :
    (do
      first
      if condition then second
      last) =
    (do
      first
      if condition then second) >>= fun _ => last := by
  rw [bind_assoc]
  refine bind_congr fun _ => ?_
  split_ifs
  · rfl
  · rw [pure_bind]

/-- A part is checked as the other walker checks it. -/
theorem checkComponent_follows (current child : OpenFile Object) (component : String)
    (created final create : Bool) :
    Follows
      (fun whole : Table Tree Object × List (ChainEntry (OpenFile Object)) =>
        Found files current child component whole.1.kernel whole.2)
      (fun whole => whole.1.kernel)
      (inWorld (do
        validateOpenedComponent files.kernel.calls.platform files.kernel.calls.effectiveUid
          (files.kernel.calls.object child) created final
        if create then (files.kernel.calls.object current).fsync.run))
      (files.admitComponent current.object child.object created final create)
      fun _ _ whole => Found files current child component whole.1.kernel whole.2 ∧
        ∃ info, files.stat whole.1.kernel child.object = .ok info := by
  have hchecks : Follows (fun _ : Table Tree Object => True) FileTable.kernel
      (do
        validateOpenedComponent files.kernel.calls.platform files.kernel.calls.effectiveUid
          (files.kernel.calls.object child) created final
        if create then (files.kernel.calls.object current).fsync.run)
      (files.admitComponent current.object child.object created final create)
      fun _ _ _ => True := by
    refine (validateOpenedComponent_follows child created final).bind fun _ _ => ?_
    split_ifs
    · exact fsync_follows current
    · exact .pure fun _ _ => trivial
  refine @inWorld_follows Tree Object _ _ _ _ _ (fun _ _ => True) hchecks
    (Found files current child component)
    (fun _ _ tree entries => Found files current child component tree entries ∧
      ∃ info, files.stat tree child.object = .ok info) ?_
  rintro _ _ before after entries ⟨hleads, hlookup⟩ hperform -
  have hgrows := files.admitComponent_grows current.object child.object created final create before
  rw [hperform] at hgrows
  obtain ⟨info, hstat⟩ := stat_of_admitted hperform
  exact ⟨⟨⟨hleads.1.grows hgrows, hleads.2⟩, hgrows.lookup _ _ _ hlookup⟩,
    hgrows.stat _ _ hstat⟩

/-- By induction on the parts that remain. -/
theorem descendRetaining_follows (create : Bool) (current : OpenFile Object)
    (walked components : List String) :
    Follows
      (fun whole : Table Tree Object × List (ChainEntry (OpenFile Object)) =>
        Leads files current whole.1.kernel whole.2)
      (fun whole => whole.1.kernel)
      (descendRetaining files.kernel.calls create current walked components)
      (files.reachFrom create current.object components)
      fun _ reached whole => ∃ last : OpenFile Object, last.object = reached ∧
        Leads files last whole.1.kernel whole.2 := by
  -- both walkers stand on the same object before each component
  induction components generalizing current walked with
  | nil => exact .pure fun whole hleads => ⟨current, rfl, hleads⟩
  | cons component rest ih =>
      have hopen := @inWorld_follows Tree Object _ _ _ _ _ _
        (@openComponentFd_follows Tree Object files _ current component create)
        (Leads files current)
        (fun opened found tree entries => (opened.1.object = found.1 ∧ opened.2 = found.2) ∧
          Found files current opened.1 component tree entries)
        (by
          rintro ⟨child, created⟩ ⟨found, made⟩ before after entries hleads hperform ⟨rfl, rfl⟩
          have hgrows := files.openComponentFd_grows current.object component create before
          rw [hperform] at hgrows
          exact ⟨⟨rfl, rfl⟩, ⟨hleads.1.grows hgrows, hleads.2⟩, openComponentFd_lookup hperform⟩)
      refine hopen.bind ?_
      rintro ⟨child, created⟩ ⟨found, made⟩
      refine .knowing (fun _ hwhole => hwhole.1) ?_
      rintro ⟨rfl, rfl⟩
      have hretain : ∀ (_ _ : Unit)
          (whole : Table Tree Object × List (ChainEntry (OpenFile Object))),
          (Found files current child component whole.1.kernel whole.2 ∧
            ∃ info, files.stat whole.1.kernel child.object = .ok info) →
          ∃ (_ : Unit) (after : Table Tree Object × List (ChainEntry (OpenFile Object))),
            (retain files.kernel.calls (walked ++ [component]) child (some component)).perform
                whole = (.ok (), after) ∧
              Leads files child after.1.kernel after.2 ∧ after.1.kernel = whole.1.kernel := by
        rintro _ _ ⟨table, entries⟩ ⟨⟨hleads, hlookup⟩, hstat⟩
        have hfound : ∀ above ∈ (entries.map ChainEntry.fd).getLast?, ∃ name,
            some component = some name ∧
              files.lookup table.kernel above.object name = .ok child.object := by
          intro above habove
          cases hleads.2.symm.trans habove
          exact ⟨component, rfl, hlookup⟩
        obtain ⟨after, hperform, hafter, hkernel⟩ := retain_returns hleads.1 hstat hfound
        exact ⟨(), after, hperform, hafter, hkernel⟩
      have hchecked : Follows
          (fun whole : Table Tree Object × List (ChainEntry (OpenFile Object)) =>
            Found files current child component whole.1.kernel whole.2)
          (fun whole => whole.1.kernel)
          (do
            inWorld (validateOpenedComponent files.kernel.calls.platform
              files.kernel.calls.effectiveUid (files.kernel.calls.object child) created
              rest.isEmpty)
            if create then inWorld (files.kernel.calls.object current).fsync.run
            retain files.kernel.calls (walked ++ [component]) child (some component))
          (files.admitComponent current.object child.object created rest.isEmpty create)
          fun _ _ whole => Leads files child whole.1.kernel whole.2 := by
        rw [inWorld_regroup]
        exact (checkComponent_follows current child component created rest.isEmpty create).before
          hretain
      have hunseen := @closeUnretained_unseen Tree Object files _ child
      have hadmitted := hchecked.onError hunseen
      refine (hadmitted.weaken (fun _ hwhole => hwhole.2) fun _ _ _ hleads => hleads).bind ?_
      exact fun _ _ => ih child (walked ++ [component])

/-! ## The root of the chain -/

/-- What the retaining walk checks of the root. -/
def admitRoot (files : FileSystem Tree Object) (components : List String) (root : Object) :
    DirectoryM Tree Unit :=
  if components = [] then files.admitProjectRoot root else files.admitAncestorRoot root

omit [DecidableEq Object] in
/-- It decides what the checks of both kinds decide. -/
theorem admitRoot_follows (components : List String) (root : Object) :
    Follows (fun _ => True) id (files.admitRoot components root)
      (do
        files.admitAncestorRoot root
        if components = [] then files.admitProjectRoot root)
      fun _ _ _ => True := by
  unfold admitRoot
  by_cases hempty : components = []
  · rw [if_pos hempty, if_pos hempty]
    exact admitProjectRoot_follows root
  · rw [if_neg hempty, if_neg hempty]
    rw [bind_pure_unit]
    exact (Follows.refl (files.admitAncestorRoot root)).weaken (fun _ _ => trivial)
      fun _ _ _ _ => trivial

omit [DecidableEq Object] in
/-- A root that was admitted has metadata. -/
theorem stat_of_root {components : List String} {root : Object} {tree after : Tree}
    (hadmitted : (do
        files.admitAncestorRoot root
        if components = [] then files.admitProjectRoot root : DirectoryM Tree Unit).perform tree =
      (.ok (), after)) : ∃ info, files.stat after root = .ok info := by
  have hreads := @objectCalls_reads Tree Object files Eq _ root
  have hancestor : Handler.Keeps Eq (files.admitAncestorRoot root) :=
    .bind (validateDirectoryFd_keeps hreads _ _) fun _ => validateAncestorAclFd_keeps hreads _
  have hproject : Handler.Keeps Eq (files.admitProjectRoot root) :=
    .bind (validateDirectoryFd_keeps hreads _ _) fun _ =>
      validateProjectAclFd_keeps hreads (fun hfalse => absurd hfalse Bool.false_ne_true) _
  have hkeeps : Handler.Keeps Eq (do
      files.admitAncestorRoot root
      if components = [] then files.admitProjectRoot root : DirectoryM Tree Unit) := by
    refine .bind hancestor fun _ => ?_
    split_ifs
    · exact hproject
    · exact .pure _
  have hsame := hkeeps tree
  rw [hadmitted] at hsame
  obtain rfl : tree = after := hsame
  obtain ⟨_, _, hancestor, -⟩ := Handler.perform_bind_eq_ok hadmitted
  obtain ⟨_, _, hdirectory, -⟩ := Handler.perform_bind_eq_ok hancestor
  obtain ⟨-, info, hstat, -⟩ := validateDirectoryFd_ok.mp hdirectory
  exact ⟨info, hstat⟩

theorem retainRoot_regroup (components : List String) (root : OpenFile Object) :
    retainRoot files.kernel.calls components root =
      inWorld (FileTable.kernelPart.lift (files.admitRoot components root.object)) >>= fun _ =>
        retain files.kernel.calls [] root none := by
  have hobject : files.kernel.calls.object root =
      (files.objectCalls root.object).within FileTable.kernelPart := rfl
  unfold retainRoot admitRoot admitProjectRoot admitAncestorRoot
  rw [hobject, validateDirectoryFd_within, validateProjectAclFd_within,
    validateAncestorAclFd_within]
  by_cases hempty : components = []
  · subst hempty
    rw [if_pos rfl, if_pos rfl, StatePart.lift_bind]
    unfold inWorld
    rw [StatePart.lift_bind, bind_assoc]
    rfl
  · rw [if_neg hempty, if_neg hempty, StatePart.lift_bind]
    unfold inWorld
    rw [StatePart.lift_bind, bind_assoc, List.isEmpty_eq_false_iff.mpr hempty]
    rfl

theorem retainRoot_follows (components : List String) (root : OpenFile Object) :
    Follows
      (fun whole : Table Tree Object × List (ChainEntry (OpenFile Object)) => whole.2 = [])
      (fun whole => whole.1.kernel) (retainRoot files.kernel.calls components root)
      (do
        files.admitAncestorRoot root.object
        if components = [] then files.admitProjectRoot root.object)
      fun _ _ whole => Leads files root whole.1.kernel whole.2 := by
  have hadmitted := @inWorld_follows Tree Object _ _ _ _ _ (fun _ _ => True)
    (table_follows (admitRoot_follows components root.object))
    (fun _ (entries : List (ChainEntry (OpenFile Object))) => entries = [])
    (fun _ _ tree entries => entries = [] ∧ ∃ info, files.stat tree root.object = .ok info)
    fun _ _ _ _ _ hempty hperform _ => ⟨hempty, stat_of_root hperform⟩
  rw [retainRoot_regroup]
  refine hadmitted.before ?_
  rintro _ _ ⟨table, entries⟩ ⟨rfl, hstat⟩
  obtain ⟨after, hperform, hleads, hkernel⟩ :=
    @retain_returns Tree Object files _ root [] none table [] trivial hstat nofun
  exact ⟨(), after, hperform, hleads, hkernel⟩

/-! ## Agreement -/

/-- The descriptor of the last entry. -/
def lastOf (chain : DurableDirectoryChain (OpenFile Object)) : Option (OpenFile Object) :=
  (chain.entries.map ChainEntry.fd).getLast?

/-- And the rest of the walk below it. -/
theorem openedChain_follows (components : List String) (create : Bool) (root : OpenFile Object) :
    Follows (fun _ : Table Tree Object => True) FileTable.kernel
      (openedChain files.kernel.calls components create root)
      (do
        files.admitAncestorRoot root.object
        if components = [] then files.admitProjectRoot root.object
        files.reachFrom create root.object components)
      fun chain reached _ => (lastOf chain).map OpenFile.object = some reached := by
  have hfinish : ∀ (_ : Unit) (reached : Object)
      (whole : Table Tree Object × List (ChainEntry (OpenFile Object))),
      (∃ last : OpenFile Object, last.object = reached ∧
        Leads files last whole.1.kernel whole.2) →
      ∃ chain after,
        (do
          let entries ← Handler.read Prod.snd
          let refreshed ← inWorld (restampDirectoryChain files.kernel.calls entries)
          return (⟨components, refreshed⟩ : DurableDirectoryChain (OpenFile Object))).perform
            whole = (.ok chain, after) ∧
          (lastOf chain).map OpenFile.object = some reached ∧
            after.1.kernel = whole.1.kernel := by
    rintro _ _ ⟨table, entries⟩ ⟨last, rfl, hlinked, hlast⟩
    obtain ⟨refreshed, hperform, hfds⟩ := restampEntries_returns hlinked
    refine ⟨⟨components, refreshed⟩, (table, entries), ?_, ?_, rfl⟩
    · have hrestamp : (inWorld (restampDirectoryChain files.kernel.calls entries)).perform
          (table, entries) = (.ok refreshed, (table, entries)) := by
        rw [StatePart.perform_lift]
        dsimp only [StatePart.outer, restampDirectoryChain]
        rw [hperform]
      rw [Handler.perform_bind_of_ok (Handler.perform_read _ _),
        Handler.perform_bind_of_ok hrestamp]
      rfl
    · unfold lastOf
      rw [hfds, hlast]
      rfl
  -- the chain that failed is closed and the tree is left alone
  have hraises : ∀ (error : DirectoryError) (entries : List (ChainEntry (OpenFile Object)))
      (table : Table Tree Object), ∃ after,
      (do
        closeEntries files.kernel.calls entries
        raise error : DirectoryM (Table Tree Object)
          (DurableDirectoryChain (OpenFile Object))).perform table =
        (.error (.raised error), after) ∧ after.kernel = table.kernel := by
    intro error entries table
    obtain ⟨after, hperform, hkernel⟩ := @closeEntries_returns Tree Object files _ entries table
    refine ⟨after, ?_, hkernel⟩
    rw [Handler.perform_bind_of_ok hperform]
    rfl
  have hbody : Follows
      (fun whole : Table Tree Object × List (ChainEntry (OpenFile Object)) => whole.2 = [])
      (fun whole => whole.1.kernel)
      (do
        retainRoot files.kernel.calls components root
        descendRetaining files.kernel.calls create root [] components
        let entries ← Handler.read Prod.snd
        let refreshed ← inWorld (restampDirectoryChain files.kernel.calls entries)
        return (⟨components, refreshed⟩ : DurableDirectoryChain (OpenFile Object)))
      (do
        files.admitAncestorRoot root.object
        if components = [] then files.admitProjectRoot root.object
        files.reachFrom create root.object components)
      fun chain reached _ => (lastOf chain).map OpenFile.object = some reached := by
    rw [guide_regroup]
    refine (retainRoot_follows components root).bind fun _ _ => ?_
    exact (descendRetaining_follows create root [] components).before hfinish
  refine Follows.withLocals ?_ ?_ ?_
  · exact hbody.weaken (fun _ hwhole => hwhole.2) fun _ _ _ hrelated => hrelated
  · intro error entries table
    obtain ⟨after, hperform, hkernel⟩ := hraises error entries table
    rw [hperform]
    exact hkernel
  · intro error entries table
    obtain ⟨after, hperform, -⟩ := hraises error entries table
    rw [hperform]
    rfl

theorem openDurableDirectoryChain_follows (components : List String) (create : Bool) :
    Follows (fun _ : Table Tree Object => True) FileTable.kernel
      (openDurableDirectoryChain files.kernel.calls components create)
      (files.reach components create)
      fun chain reached _ => (lastOf chain).map OpenFile.object = some reached := by
  refine (opening_run_follows files.root).bind fun root object => .of_fact ?_
  rintro rfl
  exact openedChain_follows components create root

/-- Both walks refuse, or both accept and end at the same object. -/
def SameDecision :
    Except (Interruption DirectoryError) (List String × OpenFile Object) →
      Except (Interruption DirectoryError) (DurableDirectoryChain (OpenFile Object)) → Prop
  | .ok (_, fd), .ok chain => (lastOf chain).map OpenFile.object = some fd.object
  | .error _, .error _ => True
  | _, _ => False

/-- On a file system on which nobody else works, the two walks take the same
decision and make the same directories. -/
theorem directory_walks_agree (files : FileSystem Tree Object) (components : List String)
    (create : Bool) (tree : Tree) :
    SameDecision
        ((openDurableDirectory files.kernel.calls components create).perform ⟨tree, [], []⟩).1
        ((openDurableDirectoryChain files.kernel.calls components create).perform
          ⟨tree, [], []⟩).1 ∧
      ((openDurableDirectory files.kernel.calls components create).perform
          ⟨tree, [], []⟩).2.kernel =
        ((openDurableDirectoryChain files.kernel.calls components create).perform
          ⟨tree, [], []⟩).2.kernel := by
  have hplain := @openDurableDirectory_follows Tree Object files _ components create
    ⟨tree, [], []⟩ trivial
  have hchain := @openDurableDirectoryChain_follows Tree Object files _ components create
    ⟨tree, [], []⟩ trivial
  dsimp only at hplain hchain
  generalize (openDurableDirectory files.kernel.calls components create).perform
    ⟨tree, [], []⟩ = plain at hplain ⊢
  generalize (openDurableDirectoryChain files.kernel.calls components create).perform
    ⟨tree, [], []⟩ = chain at hchain ⊢
  generalize hreach : (files.reach components create).perform tree = reached at hplain hchain
  obtain ⟨outcome, left⟩ := reached
  cases outcome with
  | ok object =>
      obtain ⟨⟨path, fd⟩, table, rfl, rfl, hplainTree⟩ := hplain.of_ok
      obtain ⟨entries, other, rfl, hlast, hchainTree⟩ := hchain.of_ok
      exact ⟨hlast, hplainTree.trans hchainTree.symm⟩
  | error interruption =>
      obtain ⟨_, table, rfl, hplainTree⟩ := hplain.of_error
      obtain ⟨_, other, rfl, hchainTree⟩ := hchain.of_error
      exact ⟨trivial, hplainTree.trans hchainTree.symm⟩

end Walks

end FileSystem

/-! ## A state directory that is made -/

inductive Place where
  | root
  | library
  | bridge
  deriving DecidableEq, Repr

namespace Place

/-- The tree is whether `bridge` has been made in `library`. -/
def lookup (made : Bool) : Place → String → Except Nat Place
  | .root, name => if name = "library" then .ok .library else .error enoent
  | .library, name => if name = "bridge" ∧ made = true then .ok .bridge else .error enoent
  | .bridge, _ => .error enoent

def make (made : Bool) : Place → String → Except Nat Unit × Bool
  | .library, name => if name = "bridge" then (.ok (), true) else (.error eexist, made)
  | _, _ => (.error eexist, made)

/-- What is made is private to user 1000; its ancestors belong to the system. -/
def stat : Place → DirectoryStat
  | .root => ⟨1, 2, 0o040755, 0, 3, 0, 0⟩
  | .library => ⟨1, 3, 0o040755, 0, 3, 0, 0⟩
  | .bridge => ⟨1, 4, 0o040700, 1000, 2, 0, 0⟩

def statAt (made : Bool) (parent : Place) : Option String → Except Nat DirectoryStat
  | none => .ok parent.stat
  | some name => (lookup made parent name).map stat

/-- Making one part of the path leaves the others to be found. -/
theorem lookup_make {made : Bool} {parent other found : Place} {name component : String}
    (hfound : lookup made parent name = .ok found) :
    lookup (make made other component).2 parent name = .ok found := by
  cases made with
  | true =>
      have hstays : (make true other component).2 = true := by
        cases other with
        | root => rfl
        | library =>
            simp only [make]
            split_ifs <;> rfl
        | bridge => rfl
      rw [hstays]
      exact hfound
  | false =>
      -- before it is made nothing but `library` is found
      cases parent with
      | root => exact hfound
      | library => simp [lookup] at hfound
      | bridge => cases hfound

/-- A number above all that are held. -/
def number (held : List Nat) : Nat :=
  held.foldr max 0 + 1

/-- A fresh descriptor is larger than any that is held. -/
theorem number_fresh (held : List Nat) : number held ∉ held := by
  have hbound : ∀ fd ∈ held, fd < number held := by
    intro fd hmem
    unfold number
    induction held with
    | nil => cases hmem
    | cons first rest ih =>
        rw [List.foldr_cons]
        rcases List.mem_cons.mp hmem with rfl | hrest
        · omega
        · have hlater := ih hrest
          omega
  exact fun hmem => absurd (hbound _ hmem) (Nat.lt_irrefl _)

/-- A file system without access lists. -/
def files : FileSystem Bool Place where
  platform := .linux
  effectiveUid := 1000
  root _ := .ok .root
  lookup := lookup
  make := make
  stat _ place := .ok place.stat
  statAt := statAt
  sync _ _ := .ok ()
  getxattr _ _ _ := .error 61
  removexattr made _ _ := (.error 61, made)
  getFd _ _ := .ok ()
  toText _ _ := .error 61
  initAcl _ := .ok ()
  setFd made _ := (.ok (), made)
  statAt_lookup made parent name place hfound := by
    rw [statAt, hfound]
    rfl
  make_persists made parent name :=
    ⟨fun _ _ _ hfound => lookup_make hfound, fun place _ _ => ⟨place.stat, rfl⟩⟩
  removexattr_persists _ _ _ := ⟨fun _ _ _ => id, fun place _ _ => ⟨place.stat, rfl⟩⟩
  setFd_persists _ _ := ⟨fun _ _ _ => id, fun place _ _ => ⟨place.stat, rfl⟩⟩
  number := number
  number_fresh := number_fresh

end Place

/-- Both walks make the state directory and end at it. -/
theorem FileSystem.directory_walks_agree_made :
    ((openDurableDirectory Place.files.kernel.calls ["library", "bridge"] true).perform
        ⟨false, [], []⟩).1.toOption.map (fun opened => opened.2.object) = some .bridge ∧
      ((openDurableDirectory Place.files.kernel.calls ["library", "bridge"] true).perform
        ⟨false, [], []⟩).2.kernel = true ∧
      FileSystem.SameDecision
          ((openDurableDirectory Place.files.kernel.calls ["library", "bridge"] true).perform
            ⟨false, [], []⟩).1
          ((openDurableDirectoryChain Place.files.kernel.calls ["library", "bridge"] true).perform
            ⟨false, [], []⟩).1 ∧
        ((openDurableDirectory Place.files.kernel.calls ["library", "bridge"] true).perform
            ⟨false, [], []⟩).2.kernel =
          ((openDurableDirectoryChain Place.files.kernel.calls ["library", "bridge"] true).perform
            ⟨false, [], []⟩).2.kernel := by
  refine And.intro ?_ (And.intro ?_ ?_)
  · decide +kernel
  · decide +kernel
  · apply FileSystem.directory_walks_agree

end CompanionBridge
