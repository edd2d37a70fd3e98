import CompanionBridge.State.DirectoryParts

/-!
# The descriptors of the retaining walk

Whatever the system calls answer, the walk either raises with every descriptor it
opened closed once, or returns a chain that holds exactly those that are open. It
fails to only where the root has been opened and is then refused: it is recorded
after its checks, and what is not recorded is not closed.
-/

namespace CompanionBridge

open Interruptible

/-! ## Kernels and descriptor tables -/

/-- A kernel that answers each call as it likes, in any state, but opens no
descriptor under a number that is still held. -/
structure DirectoryKernel (Fd Kernel : Type) where
  platform : Platform
  effectiveUid : Nat
  openRoot : List Fd → DirectoryCall Kernel Fd
  openAt : List Fd → Fd → String → DirectoryCall Kernel Fd
  openRoot_fresh : ∀ held kernel fd, (openRoot held kernel).1 = .ok fd → fd ∉ held
  openAt_fresh : ∀ held parent name kernel fd, (openAt held parent name kernel).1 = .ok fd →
    fd ∉ held
  mkdirAt : Fd → String → DirectoryCall Kernel Unit
  statAt : Fd → Option String → DirectoryCall Kernel DirectoryStat
  close : Fd → DirectoryCall Kernel Unit
  object : Fd → ObjectCalls Kernel

/-- A kernel with the descriptors that the walk holds, the last opened first, and
those it has closed without holding them. -/
structure FileTable (Fd Kernel : Type) where
  kernel : Kernel
  held : List Fd
  strays : List Fd

namespace FileTable

variable {Fd Kernel : Type}

def kernelPart : StatePart (FileTable Fd Kernel) Kernel where
  view := kernel
  put kernel table := { table with kernel := kernel }
  view_put _ _ := rfl
  put_put _ _ _ := rfl
  put_view _ := rfl

/-- Enter a descriptor that has been opened. -/
def opened (table : FileTable Fd Kernel) (fd : Fd) : FileTable Fd Kernel :=
  { table with held := fd :: table.held }

/-- Take a descriptor out that is closed, whether the close reports an error or not. -/
def closed [DecidableEq Fd] (table : FileTable Fd Kernel) (fd : Fd) : FileTable Fd Kernel :=
  if fd ∈ table.held then { table with held := table.held.erase fd }
  else { table with strays := fd :: table.strays }

/-- The descriptors held, none having been closed that was not. -/
def Owns (table : FileTable Fd Kernel) (fds : List Fd) : Prop :=
  table.held = fds ∧ table.strays = []

end FileTable

namespace DirectoryKernel

variable {Fd Kernel : Type}

/-- An opening call on the table. -/
def opening (call : List Fd → DirectoryCall Kernel Fd) : DirectoryCall (FileTable Fd Kernel) Fd :=
  fun table =>
    match call table.held table.kernel with
    | (.ok fd, kernel) => (.ok fd, { table with kernel := kernel }.opened fd)
    | (.error errno, kernel) => (.error errno, { table with kernel := kernel })

/-- The calls of a walk on the table. -/
def calls [DecidableEq Fd] (kernel : DirectoryKernel Fd Kernel) :
    DirectoryCalls Fd (FileTable Fd Kernel) where
  platform := kernel.platform
  effectiveUid := kernel.effectiveUid
  openRoot := opening kernel.openRoot
  openAt parent name := opening fun held => kernel.openAt held parent name
  mkdirAt parent name := DirectoryCall.within FileTable.kernelPart (kernel.mkdirAt parent name)
  statAt parent name := DirectoryCall.within FileTable.kernelPart (kernel.statAt parent name)
  close fd := fun table =>
    let ended := kernel.close fd table.kernel
    (ended.1, { table with kernel := ended.2 }.closed fd)
  object fd := (kernel.object fd).within FileTable.kernelPart

end DirectoryKernel

/-! ## What a walk may end with -/

section Ends

variable {Fd Kernel : Type} [DecidableEq Fd]

/-- The descriptors held are those of the entries, and closing the chain closes
each of them. -/
structure Retains (kernel : DirectoryKernel Fd Kernel) (chain : DurableDirectoryChain Fd)
    (table : FileTable Fd Kernel) : Prop where
  held : table.held = (chain.entries.map ChainEntry.fd).reverse
  strays : table.strays = []
  closes : ∃ after : FileTable Fd Kernel,
    (closeDurableDirectoryChain kernel.calls chain).perform table = (.ok (), after) ∧ after.Owns []

/-- Nothing is leaked: the chain holds what is open, or nothing is open. A crash
closes every descriptor by itself. -/
def leakless (kernel : DirectoryKernel Fd Kernel) :
    Outcomes DirectoryError (FileTable Fd Kernel) (DurableDirectoryChain Fd) :=
  ⟨Retains kernel, fun _ table => table.Owns [], fun _ => True⟩

/-- The checks of the root up to its stamp, as the kernel sees them. -/
def checkRoot (kernel : DirectoryKernel Fd Kernel) (components : List String) (root : Fd) :
    DirectoryM Kernel DirectoryStat := do
  validateDirectoryFd kernel.effectiveUid (kernel.object root) components.isEmpty
  if components = [] then validateProjectAclFd kernel.platform (kernel.object root) false
  else validateAncestorAclFd kernel.platform (kernel.object root)
  (kernel.object root).fstat.run

/-- The root has been opened, and one of its own checks raises. -/
def RootRefused (kernel : DirectoryKernel Fd Kernel) (components : List String) (state : Kernel) :
    Prop :=
  ∃ root opened error after, kernel.openRoot [] state = (.ok root, opened) ∧
    (checkRoot kernel components root).perform opened = (.error (.raised error), after)

end Ends

/-! ## One call -/

/-- A call raises its error where the attempt of it returns the error. -/
theorem run_eq_tried {World Result : Type} (call : DirectoryCall World Result) :
    call.run = call.tried >>= fun outcome =>
      match outcome with
      | .ok result => pure result
      | .error errno => raise (.system errno) := by
  funext world
  change call.run world = (call.tried >>= _ : DirectoryM World Result).perform world
  rw [Handler.perform_bind]
  unfold Handler.perform DirectoryCall.run DirectoryCall.tried
  cases call world with
  | mk outcome after =>
      cases outcome with
      | ok result => rfl
      | error errno => rfl

section Opening

variable {Fd Kernel Result : Type}

/-- The outcomes of a handler after which the same descriptors are held. -/
abbrev owning (fds : List Fd) : Outcomes DirectoryError (FileTable Fd Kernel) Result :=
  ⟨fun _ table => table.Owns fds, fun _ table => table.Owns fds, fun _ => True⟩

/-- The outcomes of opening a descriptor. -/
abbrev owningNew (fds : List Fd) : Outcomes DirectoryError (FileTable Fd Kernel) Fd :=
  ⟨fun fd table => table.Owns (fd :: fds) ∧ fd ∉ fds, fun _ table => table.Owns fds, fun _ => True⟩

theorem kernel_meets (handler : DirectoryM Kernel Result) (fds : List Fd) :
    Meets (fun table : FileTable Fd Kernel => table.Owns fds)
      (FileTable.kernelPart.lift handler) (owning fds) := by
  have hframe : Meets (fun table : FileTable Fd Kernel => table.Owns fds)
      (FileTable.kernelPart.lift handler)
      ⟨fun _ table => table.Owns fds, fun _ table => table.Owns fds,
        fun table => table.Owns fds⟩ :=
    .lift fun _ _ howns => howns
  exact hframe.weaken (fun _ howns => howns) (fun _ _ howns => howns) (fun _ _ howns => howns)
    fun _ _ => trivial

variable {call : List Fd → DirectoryCall Kernel Fd}

theorem opening_tried_meets
    (hfresh : ∀ held kernel fd, (call held kernel).1 = .ok fd → fd ∉ held) (fds : List Fd) :
    Meets (fun table : FileTable Fd Kernel => table.Owns fds) (DirectoryKernel.opening call).tried
      ⟨fun outcome table => match outcome with
          | .ok fd => table.Owns (fd :: fds) ∧ fd ∉ fds
          | .error _ => table.Owns fds,
        fun _ table => table.Owns fds, fun _ => True⟩ := by
  rintro table ⟨rfl, hstrays⟩
  unfold Handler.perform DirectoryCall.tried DirectoryKernel.opening
  have hnew := hfresh table.held table.kernel
  cases hcall : call table.held table.kernel with
  | mk outcome after =>
      rw [hcall] at hnew
      cases outcome with
      | ok fd => exact ⟨⟨rfl, hstrays⟩, hnew fd rfl⟩
      | error errno => exact ⟨rfl, hstrays⟩

/-- A call that opens owns one descriptor more, if it succeeds. -/
theorem opening_meets
    (hfresh : ∀ held kernel fd, (call held kernel).1 = .ok fd → fd ∉ held) (fds : List Fd) :
    Meets (fun table : FileTable Fd Kernel => table.Owns fds) (DirectoryKernel.opening call).run
      (owningNew fds) := by
  rw [run_eq_tried]
  apply Meets.bind (opening_tried_meets hfresh fds)
  intro outcome
  cases outcome with
  | ok fd => exact .pure fun _ howns => howns
  | error errno => exact .raise fun _ howns => howns

end Opening

section Calls

variable {Fd Kernel Result : Type} [DecidableEq Fd] {kernel : DirectoryKernel Fd Kernel}

/-- A close takes its descriptor out, and its error is not raised. -/
theorem closeFdIgnoringErrors_meets (fd : Fd) (fds : List Fd) :
    Meets (fun table : FileTable Fd Kernel => table.Owns (fd :: fds))
      (closeFdIgnoringErrors kernel.calls fd)
      ⟨fun _ table => table.Owns fds, fun _ _ => False, fun _ => False⟩ := by
  rintro table ⟨hheld, hstrays⟩
  have hclosed : ∀ after : Kernel,
      ({ table with kernel := after }.closed fd : FileTable Fd Kernel).Owns fds := by
    intro after
    have hmem : fd ∈ table.held := by
      rw [hheld]
      exact List.mem_cons_self
    unfold FileTable.closed
    rw [if_pos hmem]
    refine ⟨?_, hstrays⟩
    dsimp only
    rw [hheld, List.erase_cons_head]
  unfold closeFdIgnoringErrors ignoring
  rw [perform_catching]
  unfold Handler.perform DirectoryCall.run DirectoryKernel.calls
  dsimp only
  cases hcall : kernel.close fd table.kernel with
  | mk outcome after =>
      cases outcome with
      | ok _ => exact hclosed after
      | error errno => exact hclosed after

/-- The entries are closed from the last one on, each whatever became of the others. -/
theorem closeEntries_meets (entries : List (ChainEntry Fd)) (below : List Fd) :
    Meets (fun table : FileTable Fd Kernel =>
        table.Owns ((entries.map ChainEntry.fd).reverse ++ below))
      (closeEntries kernel.calls entries)
      ⟨fun _ table => table.Owns below, fun _ _ => False, fun _ => False⟩ := by
  induction entries generalizing below with
  | nil => exact .pure fun _ howns => howns
  | cons entry rest ih =>
      rw [List.map_cons, List.reverse_cons, List.append_assoc, List.singleton_append]
      apply Meets.bind (ih (entry.fd :: below))
      intro _
      exact closeFdIgnoringErrors_meets entry.fd below

/-- Closing a chain closes what it owns, in the reverse order. -/
theorem closeEntries_ok {entries : List (ChainEntry Fd)} {table : FileTable Fd Kernel}
    (howns : table.Owns (entries.map ChainEntry.fd).reverse) :
    ∃ after, (closeEntries kernel.calls entries).perform table = (.ok (), after) ∧
      after.Owns [] := by
  have hends := @closeEntries_meets Fd Kernel _ kernel entries [] table
    (by rwa [List.append_nil])
  cases hclose : (closeEntries kernel.calls entries).perform table with
  | mk outcome after =>
      rw [hclose] at hends
      cases outcome with
      | ok _ => exact ⟨after, rfl, hends⟩
      | error interruption =>
          cases interruption with
          | raised error => exact hends.elim
          | crashed => exact hends.elim

/-- Opening a part of the path owns its descriptor. -/
theorem openComponentFd_meets (parent : Fd) (component : String) (create : Bool) (fds : List Fd) :
    Meets (fun table : FileTable Fd Kernel => table.Owns fds)
      (openComponentFd kernel.calls parent component create)
      ⟨fun child table => table.Owns (child.1 :: fds) ∧ child.1 ∉ fds,
        fun _ table => table.Owns fds, fun _ => True⟩ := by
  have hfresh := fun held => kernel.openAt_fresh held parent component
  apply Meets.bind (opening_tried_meets hfresh fds)
  intro outcome
  cases outcome with
  | ok child => exact .pure fun _ howns => howns
  | error errno =>
      dsimp only
      split_ifs
      · apply Meets.bind (kernel_meets (kernel.mkdirAt parent component).tried fds)
        intro made
        have hreopen : ∀ created : Bool, Meets (fun table : FileTable Fd Kernel => table.Owns fds)
            (do
              let child ← (kernel.calls.openAt parent component).run
              return (child, created))
            ⟨fun child table => table.Owns (child.1 :: fds) ∧ child.1 ∉ fds,
              fun _ table => table.Owns fds, fun _ => True⟩ := by
          intro created
          apply Meets.bind (opening_meets hfresh fds)
          intro child
          exact .pure fun _ howns => howns
        cases made with
        | ok _ => exact hreopen true
        | error errno =>
            dsimp only
            split_ifs
            · exact hreopen false
            · exact .raise fun _ howns => howns
      · exact .raise fun _ howns => howns

/-- The checks of a directory hold what was held. -/
theorem validateOpenedComponent_meets (fd : Fd) (created final : Bool) (fds : List Fd) :
    Meets (fun table : FileTable Fd Kernel => table.Owns fds)
      (validateOpenedComponent kernel.calls.platform kernel.calls.effectiveUid
        (kernel.calls.object fd) created final) (owning fds) := by
  have hmeets := kernel_meets (validateOpenedComponent kernel.platform kernel.effectiveUid
    (kernel.object fd) created final) fds
  rw [← validateOpenedComponent_within] at hmeets
  exact hmeets

theorem fstat_meets (fd : Fd) (fds : List Fd) :
    Meets (fun table : FileTable Fd Kernel => table.Owns fds) (kernel.calls.object fd).fstat.run
      (owning fds) := by
  have hmeets := kernel_meets (kernel.object fd).fstat.run fds
  rw [← fstat_within] at hmeets
  exact hmeets

theorem fsync_meets (fd : Fd) (fds : List Fd) :
    Meets (fun table : FileTable Fd Kernel => table.Owns fds) (kernel.calls.object fd).fsync.run
      (owning fds) := by
  have hmeets := kernel_meets (kernel.object fd).fsync.run fds
  rw [← fsync_within] at hmeets
  exact hmeets

theorem statAt_meets (parent : Fd) (name : Option String) (fds : List Fd) :
    Meets (fun table : FileTable Fd Kernel => table.Owns fds) (kernel.calls.statAt parent name).run
      (owning fds) := by
  have hmeets := kernel_meets (kernel.statAt parent name).run fds
  rw [← run_within] at hmeets
  exact hmeets

end Calls

/-! ## The walk -/

section Walk

variable {Fd Kernel : Type} [DecidableEq Fd] {kernel : DirectoryKernel Fd Kernel}

/-- What is held are the descriptors of the entries. -/
def Kept (whole : FileTable Fd Kernel × List (ChainEntry Fd)) : Prop :=
  whole.1.Owns (whole.2.map ChainEntry.fd).reverse

/-- One more descriptor is held than there are entries. -/
def KeptBut (child : Fd) (whole : FileTable Fd Kernel × List (ChainEntry Fd)) : Prop :=
  whole.1.Owns (child :: (whole.2.map ChainEntry.fd).reverse) ∧ child ∉ whole.2.map ChainEntry.fd

/-- In a walk that holds one more, a handler that keeps what is held. -/
theorem keptBut_meets {Result : Type} {handler : DirectoryM (FileTable Fd Kernel) Result}
    (hmeets : ∀ fds, Meets (fun table => table.Owns fds) handler (owning fds)) (child : Fd) :
    Meets (KeptBut child) (inWorld handler)
      ⟨fun _ => KeptBut child, fun _ => KeptBut child, fun _ => True⟩ := by
  apply Meets.outer
  intro entries
  by_cases hnew : child ∈ entries.map ChainEntry.fd
  · exact fun _ hkept => absurd hnew hkept.2
  · apply (hmeets (child :: (entries.map ChainEntry.fd).reverse)).weaken
    · exact fun _ hkept => hkept.1
    · exact fun _ _ howns => ⟨howns, hnew⟩
    · exact fun _ _ howns => ⟨howns, hnew⟩
    · exact fun _ _ => trivial

/-- A part that is retained is owned by the chain. -/
theorem retain_meets (path : List String) (child : Fd) (name : Option String) :
    Meets (KeptBut child) (retain kernel.calls path child name)
      ⟨fun _ => Kept, fun _ => KeptBut child, fun _ => True⟩ := by
  apply Meets.bind (keptBut_meets (fstat_meets child) child)
  rintro stamp ⟨table, entries⟩ ⟨howns, -⟩
  let retained : ChainEntry Fd := ⟨path, child, name, stamp⟩
  have hentries : ((entries ++ [retained]).map ChainEntry.fd).reverse =
      child :: (entries.map ChainEntry.fd).reverse := by
    rw [List.map_append, List.reverse_append]
    rfl
  exact ⟨howns.1.trans hentries.symm, howns.2⟩

/-- A component that is not retained is closed. -/
theorem closeUnretained_meets (child : Fd) :
    Meets (KeptBut child) (closeUnretained kernel.calls child)
      ⟨fun _ => Kept, fun _ => Kept, fun _ => True⟩ := by
  have hread : Meets (KeptBut child)
      (Handler.read Prod.snd : DirectoryM (FileTable Fd Kernel × List (ChainEntry Fd)) _)
      ⟨fun entries whole => KeptBut child whole ∧ whole.2 = entries,
        fun _ => Kept, fun _ => True⟩ :=
    .read fun _ hkept => ⟨hkept, rfl⟩
  apply Meets.bind hread
  intro entries
  split_ifs with hlast
  · rintro whole ⟨⟨-, hnew⟩, rfl⟩
    obtain ⟨entry, hentry, rfl⟩ := Option.map_eq_some_iff.mp hlast
    exact absurd (List.mem_map_of_mem (List.mem_of_getLast? hentry)) hnew
  · apply Meets.outer
    intro locals
    apply (closeFdIgnoringErrors_meets child (locals.map ChainEntry.fd).reverse).weaken
    · exact fun _ hkept => hkept.1.1
    · exact fun _ _ howns => howns
    · exact fun _ _ hfalse => hfalse.elim
    · exact fun _ hfalse => hfalse.elim

/-- One component: it is opened, checked and retained, or nothing more is held. -/
theorem descendRetaining_meets (create : Bool) (current : Fd) (walked components : List String) :
    Meets Kept (descendRetaining kernel.calls create current walked components)
      ⟨fun _ => Kept, fun _ => Kept, fun _ => True⟩ := by
  induction components generalizing current walked with
  | nil => exact .pure fun _ hkept => hkept
  | cons component rest ih =>
      have hopen : Meets Kept (inWorld (openComponentFd kernel.calls current component create))
          ⟨fun child => KeptBut child.1, fun _ => Kept, fun _ => True⟩ := by
        apply Meets.outer
        intro entries
        apply (openComponentFd_meets current component create
          (entries.map ChainEntry.fd).reverse).weaken
        · exact fun _ hkept => hkept
        · intro child table hchild
          exact ⟨hchild.1, fun hmem => hchild.2 (List.mem_reverse.mpr hmem)⟩
        · exact fun _ _ howns => howns
        · exact fun _ _ => trivial
      apply Meets.bind hopen
      rintro ⟨child, created⟩
      have hchecked : Meets (KeptBut child)
          (do
            inWorld (validateOpenedComponent kernel.calls.platform kernel.calls.effectiveUid
              (kernel.calls.object child) created rest.isEmpty)
            if create then inWorld (kernel.calls.object current).fsync.run
            retain kernel.calls (walked ++ [component]) child (some component))
          ⟨fun _ => Kept, fun _ => KeptBut child, fun _ => True⟩ := by
        apply Meets.bind (keptBut_meets (validateOpenedComponent_meets child created _) child)
        intro _
        split_ifs
        · apply Meets.bind (keptBut_meets (fsync_meets current) child)
          intro _
          exact retain_meets _ child _
        · exact retain_meets _ child _
      apply Meets.bind (Meets.onError hchecked fun _ => closeUnretained_meets child)
      intro _
      exact ih child (walked ++ [component])

/-! ## The stamps -/

/-- Restamping keeps the descriptors, and the entries theirs. -/
theorem restampEntries_meets (parent : Option Fd) (entries : List (ChainEntry Fd))
    (fds : List Fd) :
    Meets (fun table : FileTable Fd Kernel => table.Owns fds)
      (restampEntries kernel.calls parent entries)
      ⟨fun refreshed table => table.Owns fds ∧
          refreshed.map ChainEntry.fd = entries.map ChainEntry.fd,
        fun _ table => table.Owns fds, fun _ => True⟩ := by
  induction entries generalizing parent with
  | nil => exact .pure fun _ howns => ⟨howns, rfl⟩
  | cons entry rest ih =>
      apply Meets.bind (fstat_meets entry.fd fds)
      intro info
      have hrest : Meets (fun table : FileTable Fd Kernel => table.Owns fds)
          (do
            let refreshed ← restampEntries kernel.calls (some entry.fd) rest
            return { entry with stamp := info } :: refreshed)
          ⟨fun refreshed table => table.Owns fds ∧
              refreshed.map ChainEntry.fd = (entry :: rest).map ChainEntry.fd,
            fun _ table => table.Owns fds, fun _ => True⟩ := by
        apply Meets.bind (ih (some entry.fd))
        intro refreshed
        apply Meets.pure
        rintro table ⟨howns, hsame⟩
        exact ⟨howns, by rw [List.map_cons, hsame]; rfl⟩
      cases parent with
      | none => exact hrest
      | some parent =>
          apply Meets.bind (statAt_meets parent entry.childName fds)
          intro linked
          dsimp only
          split_ifs
          · exact .raise fun _ howns => howns
          · exact hrest

/-! ## The root -/

/-- The first call of a walk opens the root. -/
theorem perform_openRoot (state : Kernel) :
    kernel.calls.openRoot.run.perform ⟨state, [], []⟩ =
      match kernel.openRoot [] state with
      | (.ok root, opened) => (.ok root, ⟨opened, [root], []⟩)
      | (.error errno, opened) => (.error (.raised (.system errno)), ⟨opened, [], []⟩) := by
  unfold Handler.perform DirectoryCall.run DirectoryKernel.calls DirectoryKernel.opening
  dsimp only
  cases kernel.openRoot [] state with
  | mk outcome opened =>
      cases outcome with
      | ok root => rfl
      | error errno => rfl

/-- The root is checked before it is retained, which is where it may be lost. -/
theorem retainRoot_eq (components : List String) (root : Fd) :
    retainRoot kernel.calls components root =
      inWorld (FileTable.kernelPart.lift (checkRoot kernel components root)) >>= fun stamp =>
        Handler.update fun whole => (whole.1, whole.2 ++ [⟨[], root, none, stamp⟩]) := by
  have hobject : kernel.calls.object root =
      (kernel.object root).within FileTable.kernelPart := rfl
  unfold retainRoot retain checkRoot
  rw [hobject, validateDirectoryFd_within, validateProjectAclFd_within,
    validateAncestorAclFd_within, fstat_within]
  by_cases halone : components = []
  · simp only [if_pos halone, StatePart.lift_bind, bind_assoc]
    rfl
  · simp only [if_neg halone, StatePart.lift_bind, bind_assoc]
    rfl

/-- The root is retained, if it is not refused. -/
theorem retainRoot_meets {components : List String} {state opened : Kernel} {root : Fd}
    (hopen : kernel.openRoot [] state = (.ok root, opened))
    (hpasses : ¬ RootRefused kernel components state) :
    Meets (fun whole : FileTable Fd Kernel × List (ChainEntry Fd) =>
        whole.1 = ⟨opened, [root], []⟩ ∧ whole.2 = [])
      (retainRoot kernel.calls components root)
      ⟨fun _ => Kept, fun _ => Kept, fun _ => True⟩ := by
  rintro ⟨table, entries⟩ ⟨rfl, rfl⟩
  rw [retainRoot_eq, Handler.perform_bind, StatePart.perform_lift, StatePart.perform_lift]
  dsimp only [StatePart.outer, FileTable.kernelPart]
  cases hcheck : (checkRoot kernel components root).perform opened with
  | mk outcome after =>
      cases outcome with
      | ok stamp => exact ⟨rfl, rfl⟩
      | error interruption =>
          cases interruption with
          | raised error => exact absurd ⟨root, opened, error, after, hopen, hcheck⟩ hpasses
          | crashed => trivial

/-! ## The whole walk -/

/-- What is left to do once the root is retained. -/
theorem walkOn_meets (components : List String) (create : Bool) (root : Fd) :
    Meets Kept
      (do
        descendRetaining kernel.calls create root [] components
        let entries ← Handler.read Prod.snd
        let refreshed ← inWorld (restampDirectoryChain kernel.calls entries)
        return (⟨components, refreshed⟩ : DurableDirectoryChain Fd))
      ⟨fun chain whole => Retains kernel chain whole.1, fun _ => Kept, fun _ => True⟩ := by
  apply Meets.bind (descendRetaining_meets create root [] components)
  intro _
  have hread : Meets Kept
      (Handler.read Prod.snd : DirectoryM (FileTable Fd Kernel × List (ChainEntry Fd)) _)
      ⟨fun entries whole => Kept whole ∧ whole.2 = entries, fun _ => Kept, fun _ => True⟩ :=
    .read fun _ hkept => ⟨hkept, rfl⟩
  apply Meets.bind hread
  intro entries
  have hrestamp : Meets (fun whole => Kept whole ∧ whole.2 = entries)
      (inWorld (restampDirectoryChain kernel.calls entries))
      ⟨fun refreshed whole => whole.1.Owns (refreshed.map ChainEntry.fd).reverse,
        fun _ => Kept, fun _ => True⟩ := by
    apply Meets.outer
    intro locals
    by_cases hsame : locals = entries
    · subst hsame
      apply (restampEntries_meets none locals (locals.map ChainEntry.fd).reverse).weaken
      · exact fun _ hkept => hkept.1
      · rintro refreshed table ⟨howns, hfds⟩
        rw [← hfds] at howns
        exact howns
      · exact fun _ _ howns => howns
      · exact fun _ _ => trivial
    · exact fun _ hkept => absurd hkept.2 hsame
  apply Meets.bind hrestamp
  intro refreshed
  apply Meets.pure
  rintro ⟨table, locals⟩ howns
  exact ⟨howns.1, howns.2, closeEntries_ok howns⟩

/-- After an error, what is retained is closed. -/
theorem closeRetained_meets (error : DirectoryError) (entries : List (ChainEntry Fd)) :
    Meets (fun table : FileTable Fd Kernel => Kept (table, entries))
      (do
        closeEntries kernel.calls entries
        raise error)
      (leakless kernel) := by
  have hclose : Meets (fun table : FileTable Fd Kernel => Kept (table, entries))
      (closeEntries kernel.calls entries)
      ⟨fun _ table => table.Owns [], fun _ table => table.Owns [], fun _ => True⟩ := by
    apply (closeEntries_meets entries []).weaken
    · intro table hkept
      rw [List.append_nil]
      exact hkept
    · exact fun _ _ howns => howns
    · exact fun _ _ hfalse => hfalse.elim
    · exact fun _ hfalse => hfalse.elim
  apply Meets.bind hclose
  intro _
  exact .raise fun _ howns => howns

/-- With the root open, the rest of the walk leaks nothing if the root passes its
checks. -/
theorem walk_leakless_of_passes {components : List String} {state opened : Kernel} {root : Fd}
    (hopen : kernel.openRoot [] state = (.ok root, opened))
    (hpasses : ¬ RootRefused kernel components state) (create : Bool) :
    Meets (fun table : FileTable Fd Kernel => table = ⟨opened, [root], []⟩)
      (openedChain kernel.calls components create root) (leakless kernel) := by
  apply Meets.withLocals
  · apply Meets.bind (retainRoot_meets hopen hpasses)
    intro _
    exact walkOn_meets components create root
  · exact closeRetained_meets

/-- A root that is refused stays open. -/
theorem walk_leaks_of_refused {components : List String} {opened after : Kernel} {root : Fd}
    {error : DirectoryError}
    (hcheck : (checkRoot kernel components root).perform opened = (.error (.raised error), after))
    (create : Bool) :
    (openedChain kernel.calls components create root).perform ⟨opened, [root], []⟩ =
      (.error (.raised error), ⟨after, [root], []⟩) := by
  unfold openedChain
  rw [perform_withLocals, Handler.perform_bind, retainRoot_eq, Handler.perform_bind,
    StatePart.perform_lift, StatePart.perform_lift]
  dsimp only [StatePart.outer, FileTable.kernelPart]
  rw [hcheck]
  rfl

/-- Whatever the calls answer, the retaining walk leaks no descriptor exactly when
the root, once opened, is not refused. -/
theorem retaining_walk_leakless_iff (kernel : DirectoryKernel Fd Kernel)
    (components : List String) (create : Bool) (state : Kernel) :
    (leakless kernel).Holds
        ((openDurableDirectoryChain kernel.calls components create).perform ⟨state, [], []⟩) ↔
      ¬ RootRefused kernel components state := by
  unfold openDurableDirectoryChain
  rw [Handler.perform_bind, perform_openRoot]
  cases hopen : kernel.openRoot [] state with
  | mk outcome opened =>
      cases outcome with
      | error errno =>
          dsimp only
          constructor
          · rintro - ⟨root, _, _, _, hopened, -⟩
            cases hopen.symm.trans hopened
          · exact fun _ => ⟨rfl, rfl⟩
      | ok root =>
          dsimp only
          constructor
          · rintro hends ⟨other, _, error, after, hopened, hcheck⟩
            cases hopen.symm.trans hopened
            rw [walk_leaks_of_refused hcheck] at hends
            exact List.cons_ne_nil _ _ hends.1
          · intro hpasses
            exact walk_leakless_of_passes hopen hpasses create _ rfl

end Walk

/-! ## A root that is refused -/

theorem foldr_max_succ_not_mem (held : List Nat) : held.foldr max 0 + 1 ∉ held := by
  have hbound : ∀ fd ∈ held, fd ≤ held.foldr max 0 := by
    induction held with
    | nil => exact fun _ hfd => absurd hfd List.not_mem_nil
    | cons first rest ih =>
        rw [List.forall_mem_cons]
        refine ⟨le_max_left _ _, fun fd hfd => ?_⟩
        exact le_trans (ih fd hfd) (le_max_right _ _)
  intro hmem
  exact Nat.not_succ_le_self _ (hbound _ hmem)

/-- A kernel whose root anybody may write to, without the sticky bit. -/
def worldWritableRoot : DirectoryKernel Nat Unit where
  platform := .linux
  effectiveUid := 1000
  openRoot held _ := (.ok (held.foldr max 0 + 1), ())
  openAt held _ _ _ := (.ok (held.foldr max 0 + 1), ())
  openRoot_fresh held _ fd hopened := by
    cases hopened
    exact foldr_max_succ_not_mem held
  openAt_fresh held _ _ _ fd hopened := by
    cases hopened
    exact foldr_max_succ_not_mem held
  mkdirAt _ _ _ := (.error 17, ())
  statAt _ _ _ := (.error 2, ())
  close _ _ := (.ok (), ())
  object _ :=
    -- a root any user may write to is refused
    { fstat := fun _ => (.ok ⟨1, 2, 0o40777, 0, 20, 0, 0⟩, ())
      fsync := fun _ => (.ok (), ())
      posixAcl := ⟨fun _ _ => (.error 61, ()), fun _ _ => (.error 61, ())⟩
      darwinAcl := ⟨fun _ => (.error 2, ()), fun _ => (.error 2, ()), fun _ => (.error 2, ()),
        fun _ => (.error 2, ())⟩ }

/-- The walk raises, and the descriptor of the root is still open. -/
theorem worldWritableRoot_leaks :
    (openDurableDirectoryChain worldWritableRoot.calls ["var", "lib", "atvr4samsung"] false).perform
        ⟨(), [], []⟩ = (.error (.raised .unprotectedAncestor), ⟨(), [1], []⟩) ∧
      ¬ (leakless worldWritableRoot).Holds
        ((openDurableDirectoryChain worldWritableRoot.calls ["var", "lib", "atvr4samsung"]
          false).perform ⟨(), [], []⟩) := by
  have hraised : (openDurableDirectoryChain worldWritableRoot.calls
      ["var", "lib", "atvr4samsung"] false).perform ⟨(), [], []⟩ =
      (.error (.raised .unprotectedAncestor), ⟨(), [1], []⟩) := rfl
  refine ⟨hraised, ?_⟩
  rw [hraised]
  exact fun hends => List.cons_ne_nil _ _ hends.1

end CompanionBridge
