import CompanionBridge.State.DirectoryWalk

/-!
# Checks within a larger state

The checks of a directory make calls on one descriptor and nothing else. Made
within a larger state, they do there what they do on their own.
-/

namespace CompanionBridge

open Interruptible

variable {Whole Part Result : Type} (part : StatePart Whole Part)

/-! ## Calls -/

def DirectoryCall.within (call : DirectoryCall Part Result) : DirectoryCall Whole Result :=
  fun whole => ((call (part.view whole)).1, part.put (call (part.view whole)).2 whole)

def AclCalls.within (acl : AclCalls Part) : AclCalls Whole where
  getxattr name := DirectoryCall.within part (acl.getxattr name)
  removexattr name := DirectoryCall.within part (acl.removexattr name)

def DarwinAclCalls.within (acl : DarwinAclCalls Part) : DarwinAclCalls Whole where
  getFd := DirectoryCall.within part acl.getFd
  toText := DirectoryCall.within part acl.toText
  init := DirectoryCall.within part acl.init
  setFd := DirectoryCall.within part acl.setFd

def ObjectCalls.within (object : ObjectCalls Part) : ObjectCalls Whole where
  fstat := DirectoryCall.within part object.fstat
  fsync := DirectoryCall.within part object.fsync
  posixAcl := object.posixAcl.within part
  darwinAcl := object.darwinAcl.within part

/-- Running a call on a part is lifting it. -/
theorem run_within (call : DirectoryCall Part Result) :
    (DirectoryCall.within part call).run = part.lift call.run := by
  funext whole
  change (DirectoryCall.within part call).run whole =
    ((call.run (part.view whole)).1, part.put (call.run (part.view whole)).2 whole)
  unfold DirectoryCall.run DirectoryCall.within
  cases call (part.view whole) with
  | mk outcome after =>
      cases outcome with
      | ok result => rfl
      | error errno => rfl

/-! ## Access lists on Linux -/

namespace LinuxAcl

variable (acl : AclCalls Part)

theorem readAttributes_within (names : List AclAttribute)
    (attributes : List (AclAttribute × Bytes)) :
    readAttributes (acl.within part) names attributes =
      part.lift (readAttributes acl names attributes) := by
  induction names generalizing attributes with
  | nil => exact (part.lift_pure attributes).symm
  | cons name rest ih =>
      unfold readAttributes
      rw [part.lift_bind]
      refine bind_congr fun outcome => ?_
      cases outcome with
      | ok value => exact ih _
      | error errno =>
          dsimp only
          split_ifs with habsent hunsupported
          · exact ih _
          · exact (part.lift_pure _).symm
          · exact (part.lift_raise _).symm

theorem posixAclAttributes_within :
    posixAclAttributes (acl.within part) = part.lift (posixAclAttributes acl) :=
  readAttributes_within part acl posixAclXattrs []

theorem clearAttributes_within (attributes : List (AclAttribute × Bytes)) :
    clearAttributes (acl.within part) attributes = part.lift (clearAttributes acl attributes) := by
  induction attributes with
  | nil => exact (part.lift_pure ()).symm
  | cons listed rest ih =>
      unfold clearAttributes
      rw [part.lift_bind]
      refine bind_congr fun outcome => ?_
      cases outcome with
      | ok _ => exact ih
      | error errno =>
          dsimp only
          split_ifs with habsent
          · exact ih
          · exact (part.lift_raise _).symm

theorem judgeAttributes_within (created ancestor : Bool)
    (attributes : List (AclAttribute × Bytes)) :
    judgeAttributes (acl.within part) created ancestor attributes =
      part.lift (judgeAttributes acl created ancestor attributes) := by
  simp only [judgeAttributes, part.lift_ite, part.lift_bind, part.lift_catching, part.lift_raise,
    part.lift_pure, clearAttributes_within, posixAclAttributes_within]

/-- Nothing of the checks looks beyond the part. -/
theorem validatePosixAcl_within (created ancestor : Bool) :
    validatePosixAcl (acl.within part) created ancestor =
      part.lift (validatePosixAcl acl created ancestor) := by
  simp only [validatePosixAcl, part.lift_bind, part.lift_catching, part.lift_raise,
    posixAclAttributes_within, judgeAttributes_within]

end LinuxAcl

/-! ## Access lists on Darwin -/

namespace DarwinAcl

variable (acl : DarwinAclCalls Part)

theorem runLibrary_within (call : DirectoryCall Part Result) :
    runLibrary (DirectoryCall.within part call) = part.lift (runLibrary call) := by
  unfold runLibrary
  rw [part.lift_bind]
  refine bind_congr fun outcome => ?_
  cases outcome with
  | ok result => exact (part.lift_pure result).symm
  | error errno => exact (part.lift_raise _).symm

theorem extendedAclText_within :
    extendedAclText (acl.within part) = part.lift (extendedAclText acl) := by
  unfold extendedAclText
  rw [part.lift_bind]
  refine bind_congr fun outcome => ?_
  cases outcome with
  | ok _ =>
      rw [map_eq_pure_bind, map_eq_pure_bind, part.lift_bind]
      simp only [DarwinAclCalls.within, runLibrary_within, part.lift_pure]
  | error errno => simp only [part.lift_ite, part.lift_pure, part.lift_raise]

theorem clearExtendedAcl_within :
    clearExtendedAcl (acl.within part) = part.lift (clearExtendedAcl acl) := by
  simp only [clearExtendedAcl, DarwinAclCalls.within, runLibrary_within, part.lift_bind]

theorem judgeText_within (created ancestor : Bool) (text : Option Bytes) :
    judgeText (acl.within part) created ancestor text =
      part.lift (judgeText acl created ancestor text) := by
  simp only [judgeText, part.lift_ite, part.lift_bind, part.lift_catching, part.lift_raise,
    part.lift_pure, clearExtendedAcl_within, extendedAclText_within]

theorem validateExtendedAcl_within (created ancestor : Bool) :
    validateExtendedAcl (acl.within part) created ancestor =
      part.lift (validateExtendedAcl acl created ancestor) := by
  simp only [validateExtendedAcl, part.lift_bind, part.lift_catching, part.lift_raise,
    extendedAclText_within, judgeText_within]

end DarwinAcl

/-! ## Directories -/

section Directories

variable (object : ObjectCalls Part)

theorem heed_within (verdict : Except DirectoryError Unit) :
    (heed verdict : DirectoryM Whole Unit) = part.lift (heed verdict) := by
  cases verdict with
  | ok _ => exact (part.lift_pure ()).symm
  | error error => exact (part.lift_raise error).symm

theorem fstat_within : (object.within part).fstat.run = part.lift object.fstat.run :=
  run_within part object.fstat

theorem fsync_within : (object.within part).fsync.run = part.lift object.fsync.run :=
  run_within part object.fsync

theorem validateDirectoryFd_within (effectiveUid : Nat) (final : Bool) :
    validateDirectoryFd effectiveUid (object.within part) final =
      part.lift (validateDirectoryFd effectiveUid object final) := by
  simp only [validateDirectoryFd, part.lift_bind, fstat_within, ← heed_within]

theorem validateProjectAclFd_within (platform : Platform) (created : Bool) :
    validateProjectAclFd platform (object.within part) created =
      part.lift (validateProjectAclFd platform object created) := by
  cases platform with
  | linux => exact LinuxAcl.validatePosixAcl_within part object.posixAcl created false
  | darwin => exact DarwinAcl.validateExtendedAcl_within part object.darwinAcl created false
  | other => exact (part.lift_pure ()).symm

theorem validateAncestorAclFd_within (platform : Platform) :
    validateAncestorAclFd platform (object.within part) =
      part.lift (validateAncestorAclFd platform object) := by
  cases platform with
  | linux => exact LinuxAcl.validatePosixAcl_within part object.posixAcl false true
  | darwin => exact DarwinAcl.validateExtendedAcl_within part object.darwinAcl false true
  | other => exact (part.lift_pure ()).symm

theorem validateNewProjectDirectoryFd_within (platform : Platform) (effectiveUid : Nat) :
    validateNewProjectDirectoryFd platform effectiveUid (object.within part) =
      part.lift (validateNewProjectDirectoryFd platform effectiveUid object) := by
  simp only [validateNewProjectDirectoryFd, part.lift_bind, fstat_within, fsync_within,
    ← heed_within, validateProjectAclFd_within]

theorem validateOpenedComponent_within (platform : Platform) (effectiveUid : Nat)
    (created final : Bool) :
    validateOpenedComponent platform effectiveUid (object.within part) created final =
      part.lift (validateOpenedComponent platform effectiveUid object created final) := by
  simp only [validateOpenedComponent, part.lift_ite, part.lift_bind,
    validateNewProjectDirectoryFd_within, validateDirectoryFd_within, validateProjectAclFd_within,
    validateAncestorAclFd_within]

end Directories

end CompanionBridge
