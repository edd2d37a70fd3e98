import CompanionBridge.Library.Interruption
import CompanionBridge.Protocol.Opack

/-!
# POSIX access lists

The checks of an open descriptor's access list on Linux. Each call on the
descriptor may fail with any error number; some of them say that there is no
list, or that the filesystem has none at all.
-/

namespace CompanionBridge

open Interruptible

/-- What the checks of a directory raise. -/
inductive DirectoryError where
  /-- The `OSError` of a system call. -/
  | system (errno : Nat)
  | notADirectory
  | untrustedOwner
  | unprotectedAncestor
  | foreignOwner
  | notPrivate
  | aclInspection
  | aclClear
  | unsafeAcl
  | changedDuringValidation
  deriving DecidableEq, Repr

abbrev DirectoryM (World Result : Type) : Type :=
  Interruptible DirectoryError World Result

/-- A system call: its result or its error number. -/
abbrev DirectoryCall (World Result : Type) : Type :=
  World → Except Nat Result × World

namespace DirectoryCall

variable {World Result : Type}

/-- The call, raising its error. -/
def run (call : DirectoryCall World Result) : DirectoryM World Result := fun world =>
  match call world with
  | (.ok result, after) => (.ok result, after)
  | (.error errno, after) => (.error (.raised (.system errno)), after)

/-- The call as the body of a `try`. -/
def tried (call : DirectoryCall World Result) : DirectoryM World (Except Nat Result) := fun world =>
  (.ok (call world).1, (call world).2)

end DirectoryCall

/-- The two extended attributes that hold a list. -/
inductive AclAttribute where
  | access
  | default
  deriving DecidableEq, Repr

/-- The calls on one descriptor. -/
structure AclCalls (World : Type) where
  getxattr : AclAttribute → DirectoryCall World Bytes
  removexattr : AclAttribute → DirectoryCall World Unit

namespace LinuxAcl

def posixAclXattrs : List AclAttribute := [.access, .default]

/-- `ENODATA`. -/
def absentErrnos : List Nat := [61]

/-- `EOPNOTSUPP` and `ENOTSUP`, which are one number. -/
def unsupportedErrnos : List Nat := [95]

/-! ## The encoding -/

def xattrVersion : Nat := 2

def userObj : Nat := 0x01
def user : Nat := 0x02
def groupObj : Nat := 0x04
def group : Nat := 0x08
def mask : Nat := 0x10
def other : Nat := 0x20

def knownTags : List Nat := [userObj, user, groupObj, group, mask, other]

def nonownerTags : List Nat := [user, groupObj, group, other]

def maskedTags : List Nat := [user, groupObj, group]

def requiredTags : List Nat := [userObj, groupObj, other]

/-- The tags and permissions of a payload, eight bytes an entry. -/
def parseEntries : Bytes → Option (List (Nat × Nat))
  | tag :: tagHigh :: permissions :: permissionsHigh :: _ :: _ :: _ :: _ :: rest =>
      let tag := fromLittleEndian [tag, tagHigh]
      let permissions := fromLittleEndian [permissions, permissionsHigh]
      if tag ∉ knownTags then none
      else if 7 < permissions then none
      else (parseEntries rest).map ((tag, permissions) :: ·)
  | _ => some []

/-- `_parse_linux_posix_acl`. `none` is its `ValueError`. -/
def parsePosixAcl (value : Bytes) : Option (List (Nat × Nat)) :=
  if value.length < 4 then none
  else if fromLittleEndian (value.take 4) ≠ xattrVersion then none
  else
    let payload := value.drop 4
    if payload.length % 8 ≠ 0 then none
    else (parseEntries payload).filter fun entries =>
      requiredTags.all fun tag => tag ∈ entries.map Prod.fst

/-! ## The checks -/

variable {World : Type}

/-- What reading the attributes from one on adds to those read before. An
unsupported attribute ends it with nothing. -/
def readAttributes (acl : AclCalls World) :
    List AclAttribute → List (AclAttribute × Bytes) → DirectoryM World (List (AclAttribute × Bytes))
  | [], attributes => pure attributes
  | name :: rest, attributes => do
      match ← (acl.getxattr name).tried with
      | .ok value => readAttributes acl rest (attributes ++ [(name, value)])
      | .error errno =>
          if errno ∈ absentErrnos then readAttributes acl rest attributes
          else if errno ∈ unsupportedErrnos then return []
          else raise (.system errno)

/-- `_linux_posix_acl_attributes`. -/
def posixAclAttributes (acl : AclCalls World) : DirectoryM World (List (AclAttribute × Bytes)) :=
  readAttributes acl posixAclXattrs []

/-- `_linux_ancestor_acl_is_unsafe`. -/
def ancestorAclIsUnsafe (attributes : List (AclAttribute × Bytes)) : Bool :=
  if .default ∈ attributes.map Prod.fst then true
  else
    match attributes.lookup .access with
    | none => false
    | some accessAcl =>
        match parsePosixAcl accessAcl with
        | none => true
        | some entries =>
            let masked := (entries.find? fun entry => entry.1 = mask).map Prod.snd
            entries.any fun (tag, permissions) =>
              tag ∈ nonownerTags &&
                (if tag ∈ maskedTags then masked.elim permissions (permissions &&& ·)
                  else permissions) &&& 0o3 ≠ 0

/-- `_clear_linux_posix_acl_attributes`. -/
def clearAttributes (acl : AclCalls World) : List (AclAttribute × Bytes) → DirectoryM World Unit
  | [] => pure ()
  | (name, _) :: rest => do
      match ← (acl.removexattr name).tried with
      | .ok () => clearAttributes acl rest
      | .error errno =>
          if errno ∈ absentErrnos then clearAttributes acl rest
          else raise (.system errno)

/-- What `_validate_linux_posix_acl_fd` makes of the attributes it has read. -/
def judgeAttributes (acl : AclCalls World) (created ancestor : Bool)
    (attributes : List (AclAttribute × Bytes)) : DirectoryM World Unit :=
  if attributes = [] then return ()
  else if ancestor then
    if ancestorAclIsUnsafe attributes then raise .unsafeAcl else return ()
  else do
    let attributes ←
      if created then
        catching
          (do
            clearAttributes acl attributes
            posixAclAttributes acl)
          fun _ => raise .aclClear
      else pure attributes
    if attributes = [] then return () else raise .unsafeAcl

/-- `_validate_linux_posix_acl_fd`. -/
def validatePosixAcl (acl : AclCalls World) (created ancestor : Bool) : DirectoryM World Unit := do
  let attributes ← catching (posixAclAttributes acl) fun _ => raise .aclInspection
  judgeAttributes acl created ancestor attributes

end LinuxAcl

end CompanionBridge
