import CompanionBridge.Protocol.Opack

/-!
# NSKeyedArchiver payloads

`read_archive_properties` follows the references of a keyed archive along a few
fixed paths. Decoding the property list itself is the library's.
-/

namespace CompanionBridge

/-- A decoded property list. `uid` is a reference into the table of objects. -/
inductive PlistValue where
  | null
  | bool (value : Bool)
  | int (value : Int)
  | real (bits : UInt64)
  | str (text : String)
  | data (bytes : Bytes)
  | date (seconds : Int)
  | uid (index : Nat)
  | array (items : List PlistValue)
  | dict (entries : List (PlistValue × PlistValue))

/-- Why a path could not be followed. -/
inductive ArchiveError where
  /-- An `IndexError` or a `KeyError`, which reads as an absent property. -/
  | absent
  | raised
  deriving DecidableEq, Repr

namespace PlistValue

def textKey (key : String) : List (PlistValue × PlistValue) → Option PlistValue
  | [] => none
  | (.str held, value) :: rest => if held = key then some value else textKey key rest
  | _ :: rest => textKey key rest

def uidKey (index : Nat) : List (PlistValue × PlistValue) → Option PlistValue
  | [] => none
  | (.uid held, value) :: rest => if held = index then some value else uidKey index rest
  | _ :: rest => uidKey index rest

/-- `element[key]`. -/
def getItem (element : PlistValue) (key : String) : Except ArchiveError PlistValue :=
  match element with
  | dict entries => (textKey key entries).elim (.error .absent) .ok
  | _ => .error .raised

/-- `objects[element]` of a reference, which counts as an index. -/
def dereference (objects : PlistValue) (index : Nat) : Except ArchiveError PlistValue :=
  match objects with
  | array items => (items[index]?).elim (.error .absent) .ok
  | str text => (text.toList[index]?).elim (.error .absent) fun char => .ok (.str char.toString)
  | data bytes => (bytes[index]?).elim (.error .absent) fun byte => .ok (.int byte.toNat)
  | dict entries => (uidKey index entries).elim (.error .absent) .ok
  | _ => .error .raised

/-- One key of a path, through a reference when there is one. -/
def follow (objects element : PlistValue) (key : String) : Except ArchiveError PlistValue :=
  match element.getItem key with
  | .ok (uid index) => dereference objects index
  | other => other

def followPath (objects : PlistValue) : PlistValue → List String → Except ArchiveError PlistValue
  | element, [] => .ok element
  | element, key :: rest =>
      match follow objects element key with
      | .ok next => followPath objects next rest
      | .error error => .error error

/-- The property at a path; `null` where there is none. -/
def property (objects top : PlistValue) (path : List String) : Option PlistValue :=
  match followPath objects top path with
  | .ok value => some value
  | .error .absent => some .null
  | .error .raised => none

def truthy : PlistValue → Bool
  | null => false
  | bool value => value
  | int value => value ≠ 0
  | real bits => floatNumber? bits ≠ some (.finite 0)
  | str text => text ≠ ""
  | data bytes => bytes ≠ []
  | date _ => true
  | uid _ => true
  | array items => !items.isEmpty
  | dict entries => !entries.isEmpty

end PlistValue

/-- `read_archive_properties` of a decoded archive; `none` is an exception. -/
def readArchiveProperties (archive : PlistValue) (paths : List (List String)) :
    Option (List PlistValue) := do
  let objects ← (archive.getItem "$objects").toOption
  let top ← (archive.getItem "$top").toOption
  paths.mapM (PlistValue.property objects top)

end CompanionBridge
