import CompanionBridge.Protocol.Guardrails
import CompanionBridge.State.PosixAcl

/-!
# Extended access lists on Darwin

The checks of an open descriptor's extended access list, which the system library
gives as a text of one entry a line.
-/

namespace CompanionBridge

open Interruptible

/-- The calls on one descriptor: reading its list, writing the list out as a
text, and making and setting an empty one. -/
structure DarwinAclCalls (World : Type) where
  getFd : DirectoryCall World Unit
  toText : DirectoryCall World Bytes
  init : DirectoryCall World Unit
  setFd : DirectoryCall World Unit

namespace DarwinAcl

variable {World : Type}

/-- `_DARWIN_NO_ACL_ERRNOS`: `ENODATA`, `ENOATTR` and `ENOENT`. -/
def noAclErrnos : List Nat := [96, 93, 2]

/-- `EOPNOTSUPP` and `ENOTSUP`. -/
def unsupportedErrnos : List Nat := [102, 45]

def eio : Nat := 5

/-- The error of a call that may leave no error number. -/
def callError (errno : Nat) : DirectoryError :=
  .system (if errno = 0 then eio else errno)

/-- The call, raising what it left as its error number. -/
def runLibrary {Result : Type} (call : DirectoryCall World Result) : DirectoryM World Result := do
  match ← call.tried with
  | .ok result => pure result
  | .error errno => raise (callError errno)

/-- `_darwin_extended_acl_text`. -/
def extendedAclText (acl : DarwinAclCalls World) : DirectoryM World (Option Bytes) := do
  match ← acl.getFd.tried with
  | .ok () => some <$> runLibrary acl.toText
  | .error errno =>
      if errno ∈ noAclErrnos ∨ errno ∈ unsupportedErrnos then return none
      else raise (callError errno)

/-- `_clear_darwin_extended_acl`. -/
def clearExtendedAcl (acl : DarwinAclCalls World) : DirectoryM World Unit := do
  runLibrary acl.init
  runLibrary acl.setFd

/-! ## Ancestors -/

def safeAncestorAllowPermissions : List (List Char) :=
  ["read", "readattr", "readextattr", "readsecurity"].map String.toList

/-- The characters at which `str.splitlines` ends a line. -/
def isLineBreak (char : Char) : Bool :=
  let code := char.toNat
  (0x0A ≤ code && code ≤ 0x0D) || (0x1C ≤ code && code ≤ 0x1E) || code = 0x85 ||
    code = 0x2028 || code = 0x2029

/-- `str.splitlines`. -/
def splitLines : List Char → List (List Char)
  | [] => []
  | '\r' :: '\n' :: rest => [] :: splitLines rest
  | char :: rest =>
      if isLineBreak char then [] :: splitLines rest
      else
        match splitLines rest with
        | [] => [[char]]
        | line :: lines => (char :: line) :: lines

/-- `str.strip`. -/
def strip (text : List Char) : List Char :=
  (text.dropWhile isStripped).rdropWhile isStripped

/-- Whether a line of the text leaves an ancestor safe. -/
def lineIsSafe (line : List Char) : Bool :=
  let line := strip line
  if line = [] ∨ "!#acl".toList <+: line then true
  else
    let fields := line.splitOn ':'
    if "deny".toList ∈ fields ∧ "allow".toList ∉ fields then true
    else
      match fields.dropWhile (· ≠ "allow".toList) with
      | [] => false
      | _ :: granted =>
          let permissions :=
            (((List.intercalate [':'] granted).splitOn ',').map strip).filter (· ≠ [])
          permissions ≠ [] ∧ permissions ⊆ safeAncestorAllowPermissions

/-- `_darwin_ancestor_acl_is_unsafe`. -/
def ancestorAclIsUnsafe (text : Bytes) : Bool :=
  match decodeUtf8 text with
  | none => true
  | some decoded => ! (splitLines decoded.toList).all lineIsSafe

/-! ## The checks -/

/-- An empty text, or none, is no list. -/
def isAbsent (text : Option Bytes) : Bool :=
  text.getD [] = []

/-- What `_validate_darwin_extended_acl_fd` makes of the text it has read. -/
def judgeText (acl : DarwinAclCalls World) (created ancestor : Bool) (text : Option Bytes) :
    DirectoryM World Unit :=
  if isAbsent text then return ()
  else if ancestor then
    if ancestorAclIsUnsafe (text.getD []) then raise .unsafeAcl else return ()
  else do
    let text ←
      if created then
        catching
          (do
            clearExtendedAcl acl
            extendedAclText acl)
          fun _ => raise .aclClear
      else pure text
    if isAbsent text then return () else raise .unsafeAcl

/-- `_validate_darwin_extended_acl_fd`. -/
def validateExtendedAcl (acl : DarwinAclCalls World) (created ancestor : Bool) :
    DirectoryM World Unit := do
  let text ← catching (extendedAclText acl) fun _ => raise .aclInspection
  judgeText acl created ancestor text

end DarwinAcl

end CompanionBridge
