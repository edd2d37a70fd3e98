import CompanionBridge.Library.PythonText
import CompanionBridge.Protocol.Opack
import Mathlib.Algebra.Group.Int.Defs
import Mathlib.Algebra.Group.Nat.Defs
import Mathlib.Data.Char
import Mathlib.Data.List.DropRight
import Mathlib.Data.List.Lex
import Mathlib.Data.List.Sort
import Mathlib.Data.Rat.Defs

/-!
# The deployment bundle

Building the bundle of a release, and the check that a release makes of it. An
archive is the list of its members as they are stored. What a program takes a
member for, above all what it takes its name for, is up to the program: `tarfile`
is modelled, and GNU `tar` is a parameter with what its manual says of it.
-/

namespace CompanionBridge

abbrev Text : Type := List Char

/-! ## Archives -/

/-- The format a header is marked with. -/
inductive HeaderFormat where
  | v7
  | oldGnu
  | posix
  deriving DecidableEq, Repr

/-- A record that has the name of the member after it. -/
inductive NameRecord where
  | pax (path : Text)
  | gnuLong (path : Text)
  deriving DecidableEq, Repr

def NameRecord.path : NameRecord → Text
  | .pax path => path
  | .gnuLong path => path

/-- The types of the headers that are records about the member after them. -/
def recordTypes : List Char := ['L', 'K', 'x', 'g', 'X']

/-- The type of a member. -/
abbrev TypeFlag : Type := { flag : Char // flag ∉ recordTypes }

/-- A member of an archive, as it is stored: its header has a prefix field and a name
field, whatever its format, and may have records before it. -/
structure TarMember where
  format : HeaderFormat
  pre : Text
  field : Text
  records : List NameRecord
  typeflag : TypeFlag
  mode : Int
  uid : Int
  gid : Int
  mtime : ℚ
  uname : Text
  gname : Text
  contents : Bytes
  deriving DecidableEq

/-! ### Member types -/

def aregType : TypeFlag := ⟨'\x00', by decide⟩
def dirType : TypeFlag := ⟨'5', by decide⟩
def sparseType : TypeFlag := ⟨'S', by decide⟩

namespace TarMember

/-- The name in the header. Only a POSIX header has a part of it in the prefix field;
other formats keep other things there. -/
def headerPath (member : TarMember) : Text :=
  if member.pre = [] ∨ member.format ≠ .posix then member.field
  else member.pre ++ '/' :: member.field

/-- The whole name, where at most one record has it. -/
def stored (member : TarMember) : Text :=
  match member.records with
  | [] => member.headerPath
  | record :: _ => record.path

end TarMember

/-! ### Members as `tarfile` reads them -/

def endsWithSlash (name : Text) : Bool :=
  name.getLast? = some '/'

/-- `str.rstrip("/")`. -/
def rstripSlashes (name : Text) : Text :=
  name.rdropWhile (· = '/')

/-- `str.removesuffix("/")`. -/
def removeSlash (name : Text) : Text :=
  if endsWithSlash name then name.dropLast else name

/-- `tarfile.TarInfo`, as far as it is looked at. -/
structure TarInfo where
  name : Text
  type : TypeFlag
  mode : Int
  uid : Int
  gid : Int
  mtime : ℚ
  uname : Text
  gname : Text
  deriving DecidableEq

namespace TarInfo

end TarInfo

namespace TarMember

/-- An old header says that it is a directory with a slash after its name. -/
def readType (member : TarMember) : TypeFlag :=
  if member.typeflag = aregType ∧ endsWithSlash member.field then dirType else member.typeflag

/-- The name that is read from a header. The prefix is used in every format, unless the
member is sparse; slashes at the end are redundant in the name of a directory. -/
def readHeader (member : TarMember) : Text :=
  let name :=
    if member.pre = [] ∨ member.typeflag = sparseType then member.field
    else member.pre ++ '/' :: member.field
  if member.readType = dirType then rstripSlashes name else name

/-- The name that the outermost record has; a `path` record keeps no slash at its end. -/
def readName (member : TarMember) : Text :=
  match member.records with
  | [] => member.readHeader
  | .pax path :: _ => rstripSlashes path
  | .gnuLong path :: _ => if member.readType = dirType then removeSlash path else path

/-- A member of `archive.getmembers()`. -/
def info (member : TarMember) : TarInfo where
  name := member.readName
  type := member.readType
  mode := member.mode
  uid := member.uid
  gid := member.gid
  mtime := member.mtime
  uname := member.uname
  gname := member.gname

end TarMember

/-! ## The release -/

/-- `0|[1-9]\d*`. -/
def isVersionNumber (digits : Char → Bool) : Text → Bool
  | [] => false
  | first :: rest =>
      (first = '0' && rest = []) || ('1' ≤ first && first ≤ '9' && rest.all digits)

def containsControlChars (text : Text) : Bool :=
  text.any fun char => char.toNat < 32 || char.toNat = 127

/-- Names that have nothing to escape. -/
def Unescaped (name : Text) : Prop :=
  ∀ char ∈ name, 0x20 ≤ char.toNat ∧ char.toNat < 0x7F ∧ char ≠ '\\'

instance (name : Text) : Decidable (Unescaped name) :=
  List.decidableBAll _ name

end CompanionBridge
