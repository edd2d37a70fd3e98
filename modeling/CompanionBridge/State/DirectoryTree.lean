import CompanionBridge.Library.Following
import CompanionBridge.State.DirectoryChecks
import CompanionBridge.State.DirectoryDescriptors

/-!
# Walks over a directory tree

A file system on which nobody else works answers every call from its tree. What
a walk is to decide there says nothing of descriptors: which object a path leads
to, and what is made on the way.
-/

namespace CompanionBridge

open Interruptible

/-! ## File systems -/

/-- What was found stays where it was found, and what had a status keeps one. -/
structure Persists {Tree Object : Type} (lookup : Tree → Object → String → Except Nat Object)
    (stat : Tree → Object → Except Nat DirectoryStat) (before after : Tree) : Prop where
  lookup : ∀ parent name object, lookup before parent name = .ok object →
    lookup after parent name = .ok object
  stat : ∀ object info, stat before object = .ok info → ∃ later, stat after object = .ok later

/-- A file system, whose objects may have any owners, modes and access lists. A
name may lead to an object, or opening it is refused, with any error number: that
nothing is there, that it is a link or no directory, or any other. -/
structure FileSystem (Tree Object : Type) where
  platform : Platform
  effectiveUid : Nat
  root : Tree → Except Nat Object
  lookup : Tree → Object → String → Except Nat Object
  make : Tree → Object → String → Except Nat Unit × Tree
  stat : Tree → Object → Except Nat DirectoryStat
  statAt : Tree → Object → Option String → Except Nat DirectoryStat
  sync : Tree → Object → Except Nat Unit
  getxattr : Tree → Object → AclAttribute → Except Nat Bytes
  removexattr : Tree → Object → AclAttribute → Except Nat Unit × Tree
  getFd : Tree → Object → Except Nat Unit
  toText : Tree → Object → Except Nat Bytes
  initAcl : Tree → Except Nat Unit
  setFd : Tree → Object → Except Nat Unit × Tree
  statAt_lookup : ∀ tree parent name object, lookup tree parent name = .ok object →
    statAt tree parent (some name) = stat tree object
  make_persists : ∀ tree parent name, Persists lookup stat tree (make tree parent name).2
  removexattr_persists : ∀ tree object name,
    Persists lookup stat tree (removexattr tree object name).2
  setFd_persists : ∀ tree object, Persists lookup stat tree (setFd tree object).2
  /-- A number for a descriptor, when some are held. -/
  number : List Nat → Nat
  number_fresh : ∀ held, number held ∉ held

/-- A descriptor: its number, and the object it refers to. -/
structure OpenFile (Object : Type) where
  number : Nat
  object : Object
  deriving DecidableEq

namespace FileSystem

variable {Tree Object : Type} (files : FileSystem Tree Object)

def objectCalls (object : Object) : ObjectCalls Tree where
  fstat tree := (files.stat tree object, tree)
  fsync tree := (files.sync tree object, tree)
  posixAcl :=
    { getxattr := fun name tree => (files.getxattr tree object name, tree)
      removexattr := fun name tree => files.removexattr tree object name }
  darwinAcl :=
    { getFd := fun tree => (files.getFd tree object, tree)
      toText := fun tree => (files.toText tree object, tree)
      init := fun tree => (files.initAcl tree, tree)
      setFd := fun tree => files.setFd tree object }

/-- The calls with the objects themselves for descriptors. -/
def calls : DirectoryCalls Object Tree where
  platform := files.platform
  effectiveUid := files.effectiveUid
  openRoot tree := (files.root tree, tree)
  openAt parent name tree := (files.lookup tree parent name, tree)
  mkdirAt parent name tree := files.make tree parent name
  statAt parent name tree := (files.statAt tree parent name, tree)
  close _ tree := (.ok (), tree)
  object := files.objectCalls

/-- A descriptor for an object that has been opened. -/
def describe (held : List (OpenFile Object)) (object : Object) : OpenFile Object :=
  ⟨files.number (held.map OpenFile.number), object⟩

/-- A descriptor that is opened was not held. -/
theorem describe_fresh (held : List (OpenFile Object)) (object : Object) :
    files.describe held object ∉ held := fun hmem =>
  files.number_fresh (held.map OpenFile.number) (List.mem_map_of_mem hmem)

theorem fresh_of_map {held : List (OpenFile Object)} {outcome : Except Nat Object}
    {fd : OpenFile Object} (hopened : outcome.map (files.describe held) = .ok fd) :
    fd ∉ held := by
  cases outcome with
  | error errno => cases hopened
  | ok object =>
      cases hopened
      exact files.describe_fresh held object

/-- The kernel of the file system. -/
def kernel : DirectoryKernel (OpenFile Object) Tree where
  platform := files.platform
  effectiveUid := files.effectiveUid
  openRoot held tree := ((files.root tree).map (files.describe held), tree)
  openAt held parent name tree :=
    ((files.lookup tree parent.object name).map (files.describe held), tree)
  openRoot_fresh _ _ _ := files.fresh_of_map
  openAt_fresh _ _ _ _ _ := files.fresh_of_map
  mkdirAt parent name tree := files.make tree parent.object name
  statAt parent name tree := (files.statAt tree parent.object name, tree)
  close _ tree := (.ok (), tree)
  object fd := files.objectCalls fd.object

/-! ## What a walk is to decide -/

/-- One component, opened and found to be as it should. -/
def admitComponent (parent child : Object) (created final create : Bool) :
    DirectoryM Tree Unit := do
  validateOpenedComponent files.platform files.effectiveUid (files.objectCalls child) created final
  if create then (files.objectCalls parent).fsync.run

/-- The object that the components lead to from an object on. -/
def reachFrom (create : Bool) : Object → List String → DirectoryM Tree Object
  | object, [] => pure object
  | parent, component :: rest => do
      let (child, created) ← openComponentFd files.calls parent component create
      files.admitComponent parent child created rest.isEmpty create
      reachFrom create child rest

/-- The root as an ancestor. -/
def admitAncestorRoot (root : Object) : DirectoryM Tree Unit := do
  validateDirectoryFd files.effectiveUid (files.objectCalls root) false
  validateAncestorAclFd files.platform (files.objectCalls root)

/-- The root as the state directory itself. -/
def admitProjectRoot (root : Object) : DirectoryM Tree Unit := do
  validateDirectoryFd files.effectiveUid (files.objectCalls root) true
  validateProjectAclFd files.platform (files.objectCalls root) false

/-- The object that a path leads to, if each directory on the way is as it should
be. -/
def reach (components : List String) (create : Bool) : DirectoryM Tree Object := do
  let root ← files.calls.openRoot.run
  files.admitAncestorRoot root
  if components = [] then files.admitProjectRoot root
  files.reachFrom create root components

/-! ## What persists -/

/-- What was found in the tree persists. -/
abbrev Grows (before after : Tree) : Prop :=
  Persists files.lookup files.stat before after

instance : Std.Refl files.Grows where
  refl _ := ⟨fun _ _ _ hlookup => hlookup, fun _ info hstat => ⟨info, hstat⟩⟩

instance : IsTrans Tree files.Grows where
  trans _ _ _ hfirst hsecond := by
    refine ⟨fun parent name object hlookup => ?_, fun object info hstat => ?_⟩
    · exact hsecond.lookup parent name object (hfirst.lookup parent name object hlookup)
    · obtain ⟨later, hlater⟩ := hfirst.stat object info hstat
      exact hsecond.stat object later hlater

theorem objectCalls_reads {relation : Tree → Tree → Prop} [Std.Refl relation] (object : Object) :
    (files.objectCalls object).Reads relation :=
  ⟨fun tree => Std.Refl.refl tree, fun tree => Std.Refl.refl tree, fun _ tree => Std.Refl.refl tree,
    fun tree => Std.Refl.refl tree, fun tree => Std.Refl.refl tree⟩

/-- Removing an access list leaves every object where it is. -/
theorem objectCalls_removes (object : Object) : (files.objectCalls object).Removes files.Grows :=
  ⟨fun name tree => files.removexattr_persists tree object name,
    fun tree => Std.Refl.refl tree, fun tree => files.setFd_persists tree object⟩

/-- Opening may make a directory and takes none away. -/
theorem openComponentFd_grows (parent : Object) (component : String) (create : Bool) :
    Handler.Keeps files.Grows (openComponentFd files.calls parent component create) := by
  have hopen : ∀ tree, files.Grows tree (files.calls.openAt parent component tree).2 :=
    fun tree => Std.Refl.refl tree
  have hmake : ∀ tree, files.Grows tree (files.calls.mkdirAt parent component tree).2 :=
    fun tree => files.make_persists tree parent component
  refine .bind (tried_keeps hopen) fun outcome => ?_
  cases outcome with
  | ok child => exact .pure _
  | error errno =>
      dsimp only
      split_ifs
      · refine .bind (tried_keeps hmake) fun made => ?_
        have hreopen : ∀ created : Bool, Handler.Keeps files.Grows
            (do
              let child ← (files.calls.openAt parent component).run
              return (child, created)) :=
          fun created => .bind (run_keeps hopen) fun _ => .pure _
        cases made with
        | ok _ => exact hreopen true
        | error errno =>
            dsimp only
            split_ifs
            · exact hreopen false
            · exact keeps_raise _
      · exact keeps_raise _

theorem admitComponent_grows (parent child : Object) (created final create : Bool) :
    Handler.Keeps files.Grows (files.admitComponent parent child created final create) := by
  have hvalidate := validateOpenedComponent_keeps (files.objectCalls_reads child)
    (fun _ : created = true => files.objectCalls_removes child) files.platform
    files.effectiveUid final
  refine .bind hvalidate fun _ => ?_
  split_ifs
  · exact run_keeps (files.objectCalls_reads parent).fsync
  · exact .pure _

end FileSystem

end CompanionBridge
