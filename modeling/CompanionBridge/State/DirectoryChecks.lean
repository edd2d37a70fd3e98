import CompanionBridge.State.DirectoryWalk

/-!
# What the checks of a directory leave alone

The checks of an existing directory only read. Those of a new one may remove its
access list. What the removal and the reading preserve, the checks preserve.
-/

namespace CompanionBridge

open Interruptible

variable {World Result : Type} {relation : World → World → Prop}

/-! ## Calls -/

/-- A relation that every call keeps is kept by what is made of calls. -/
theorem run_keeps {call : DirectoryCall World Result}
    (hcall : ∀ world, relation world (call world).2) :
    Handler.Keeps relation call.run := by
  intro world
  have hafter := hcall world
  unfold Handler.perform DirectoryCall.run
  cases hended : call world with
  | mk outcome after =>
      rw [hended] at hafter
      cases outcome with
      | ok result => exact hafter
      | error errno => exact hafter

theorem tried_keeps {call : DirectoryCall World Result}
    (hcall : ∀ world, relation world (call world).2) : Handler.Keeps relation call.tried :=
  hcall

/-- The calls that read a descriptor are within the relation. -/
structure ObjectCalls.Reads (relation : World → World → Prop) (object : ObjectCalls World) :
    Prop where
  fstat : ∀ world, relation world (object.fstat world).2
  fsync : ∀ world, relation world (object.fsync world).2
  getxattr : ∀ name world, relation world (object.posixAcl.getxattr name world).2
  getFd : ∀ world, relation world (object.darwinAcl.getFd world).2
  toText : ∀ world, relation world (object.darwinAcl.toText world).2

/-- The calls that remove an access list are within the relation. -/
structure ObjectCalls.Removes (relation : World → World → Prop) (object : ObjectCalls World) :
    Prop where
  removexattr : ∀ name world, relation world (object.posixAcl.removexattr name world).2
  init : ∀ world, relation world (object.darwinAcl.init world).2
  setFd : ∀ world, relation world (object.darwinAcl.setFd world).2

variable [Std.Refl relation] [IsTrans World relation]

/-! ## Access lists on Linux -/

namespace LinuxAcl

variable {acl : AclCalls World}

theorem readAttributes_keeps
    (hget : ∀ name world, relation world (acl.getxattr name world).2) (names : List AclAttribute)
    (attributes : List (AclAttribute × Bytes)) :
    Handler.Keeps relation (readAttributes acl names attributes) := by
  induction names generalizing attributes with
  | nil => exact .pure _
  | cons name rest ih =>
      apply Handler.Keeps.bind (tried_keeps (hget name))
      intro outcome
      cases outcome with
      | ok value => exact ih _
      | error errno =>
          dsimp only
          split_ifs
          · exact ih _
          · exact .pure _
          · exact keeps_raise _

theorem posixAclAttributes_keeps
    (hget : ∀ name world, relation world (acl.getxattr name world).2) :
    Handler.Keeps relation (posixAclAttributes acl) :=
  readAttributes_keeps hget _ _

theorem clearAttributes_keeps
    (hremove : ∀ name world, relation world (acl.removexattr name world).2)
    (attributes : List (AclAttribute × Bytes)) :
    Handler.Keeps relation (clearAttributes acl attributes) := by
  induction attributes with
  | nil => exact .pure _
  | cons listed rest ih =>
      apply Handler.Keeps.bind (tried_keeps (hremove listed.1))
      intro outcome
      cases outcome with
      | ok _ => exact ih
      | error errno =>
          dsimp only
          split_ifs
          · exact ih
          · exact keeps_raise _

/-- Only a directory that was just made has attributes removed. -/
theorem judgeAttributes_keeps {created : Bool}
    (hget : ∀ name world, relation world (acl.getxattr name world).2)
    (hremove : created = true → ∀ name world, relation world (acl.removexattr name world).2)
    (ancestor : Bool) (attributes : List (AclAttribute × Bytes)) :
    Handler.Keeps relation (judgeAttributes acl created ancestor attributes) := by
  have hlast : ∀ left : List (AclAttribute × Bytes), Handler.Keeps relation
      (if left = [] then pure () else raise .unsafeAcl : DirectoryM World Unit) := by
    intro left
    split_ifs
    · exact .pure _
    · exact keeps_raise _
  unfold judgeAttributes
  split_ifs with hnone hancestor hunsafe hcreated
  · exact .pure _
  · exact keeps_raise _
  · exact .pure _
  · refine Handler.Keeps.bind (keeps_catching ?_ fun _ => keeps_raise _) hlast
    exact .bind (clearAttributes_keeps (hremove hcreated) attributes)
      fun _ => posixAclAttributes_keeps hget
  · exact .bind (.pure _) hlast

/-- So a check of what was there before changes nothing. -/
theorem validatePosixAcl_keeps {created : Bool}
    (hget : ∀ name world, relation world (acl.getxattr name world).2)
    (hremove : created = true → ∀ name world, relation world (acl.removexattr name world).2)
    (ancestor : Bool) : Handler.Keeps relation (validatePosixAcl acl created ancestor) :=
  .bind (keeps_catching (posixAclAttributes_keeps hget) fun _ => keeps_raise _)
    (judgeAttributes_keeps hget hremove ancestor)

end LinuxAcl

/-! ## Access lists on Darwin -/

namespace DarwinAcl

variable {acl : DarwinAclCalls World}

theorem runLibrary_keeps {call : DirectoryCall World Result}
    (hcall : ∀ world, relation world (call world).2) :
    Handler.Keeps relation (runLibrary call) := by
  apply Handler.Keeps.bind (tried_keeps hcall)
  intro outcome
  cases outcome with
  | ok result => exact .pure _
  | error errno => exact keeps_raise _

theorem extendedAclText_keeps (hget : ∀ world, relation world (acl.getFd world).2)
    (htext : ∀ world, relation world (acl.toText world).2) :
    Handler.Keeps relation (extendedAclText acl) := by
  apply Handler.Keeps.bind (tried_keeps hget)
  intro outcome
  cases outcome with
  | ok _ =>
      dsimp only
      rw [map_eq_pure_bind]
      exact .bind (runLibrary_keeps htext) fun _ => .pure _
  | error errno =>
      dsimp only
      split_ifs
      · exact .pure _
      · exact keeps_raise _

theorem judgeText_keeps {created : Bool} (hget : ∀ world, relation world (acl.getFd world).2)
    (htext : ∀ world, relation world (acl.toText world).2)
    (hclear : created = true → Handler.Keeps relation (clearExtendedAcl acl)) (ancestor : Bool)
    (text : Option Bytes) : Handler.Keeps relation (judgeText acl created ancestor text) := by
  have hlast : ∀ left : Option Bytes, Handler.Keeps relation
      (if isAbsent left then pure () else raise .unsafeAcl : DirectoryM World Unit) := by
    intro left
    split_ifs
    · exact .pure _
    · exact keeps_raise _
  unfold judgeText
  split_ifs with hnone hancestor hunsafe hcreated
  · exact .pure _
  · exact keeps_raise _
  · exact .pure _
  · refine Handler.Keeps.bind (keeps_catching ?_ fun _ => keeps_raise _) hlast
    exact .bind (hclear hcreated) fun _ => extendedAclText_keeps hget htext
  · exact .bind (.pure _) hlast

theorem validateExtendedAcl_keeps {created : Bool}
    (hget : ∀ world, relation world (acl.getFd world).2)
    (htext : ∀ world, relation world (acl.toText world).2)
    (hclear : created = true → Handler.Keeps relation (clearExtendedAcl acl)) (ancestor : Bool) :
    Handler.Keeps relation (validateExtendedAcl acl created ancestor) :=
  .bind (keeps_catching (extendedAclText_keeps hget htext) fun _ => keeps_raise _)
    (judgeText_keeps hget htext hclear ancestor)

end DarwinAcl

/-! ## Directories -/

section Directories

variable {object : ObjectCalls World}

omit [IsTrans World relation] in
theorem heed_keeps (verdict : Except DirectoryError Unit) :
    Handler.Keeps relation (heed verdict) := by
  cases verdict with
  | ok _ => exact .pure _
  | error error => exact keeps_raise _

/-- Metadata is only read. -/
theorem validateDirectoryFd_keeps (hreads : object.Reads relation) (effectiveUid : Nat)
    (final : Bool) : Handler.Keeps relation (validateDirectoryFd effectiveUid object final) :=
  .bind (run_keeps hreads.fstat) fun _ => heed_keeps _

theorem validateProjectAclFd_keeps {created : Bool} (hreads : object.Reads relation)
    (hremoves : created = true → object.Removes relation) (platform : Platform) :
    Handler.Keeps relation (validateProjectAclFd platform object created) := by
  cases platform with
  | linux =>
      exact LinuxAcl.validatePosixAcl_keeps hreads.getxattr
        (fun hcreated => (hremoves hcreated).removexattr) false
  | darwin =>
      apply DarwinAcl.validateExtendedAcl_keeps hreads.getFd hreads.toText
      intro hcreated
      exact .bind (DarwinAcl.runLibrary_keeps (hremoves hcreated).init)
        fun _ => DarwinAcl.runLibrary_keeps (hremoves hcreated).setFd
  | other => exact .pure _

theorem validateAncestorAclFd_keeps (hreads : object.Reads relation) (platform : Platform) :
    Handler.Keeps relation (validateAncestorAclFd platform object) := by
  cases platform with
  | linux =>
      exact LinuxAcl.validatePosixAcl_keeps hreads.getxattr
        (fun hcreated => absurd hcreated Bool.false_ne_true) true
  | darwin =>
      exact DarwinAcl.validateExtendedAcl_keeps hreads.getFd hreads.toText
        (fun hcreated => absurd hcreated Bool.false_ne_true) true
  | other => exact .pure _

theorem validateOpenedComponent_keeps {created : Bool} (hreads : object.Reads relation)
    (hremoves : created = true → object.Removes relation) (platform : Platform)
    (effectiveUid : Nat) (final : Bool) :
    Handler.Keeps relation
      (validateOpenedComponent platform effectiveUid object created final) := by
  unfold validateOpenedComponent
  split_ifs with hcreated hfinal
  · refine .bind (run_keeps hreads.fstat) fun _ => .bind (heed_keeps _) fun _ => ?_
    refine .bind (validateProjectAclFd_keeps hreads (fun _ => hremoves hcreated) platform) ?_
    intro _
    exact .bind (run_keeps hreads.fstat) fun _ =>
      .bind (heed_keeps _) fun _ => run_keeps hreads.fsync
  · refine .bind (validateDirectoryFd_keeps hreads effectiveUid final) fun _ => ?_
    exact validateProjectAclFd_keeps hreads
      (fun hfalse => absurd hfalse Bool.false_ne_true) platform
  · exact .bind (validateDirectoryFd_keeps hreads effectiveUid final)
      fun _ => validateAncestorAclFd_keeps hreads platform

end Directories

end CompanionBridge
