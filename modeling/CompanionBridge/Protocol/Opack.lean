import CompanionBridge.Protocol.Cipher

/-!
# OPACK

`pack` and `unpack` each keep a table of the objects they have seen, so that a
repeated object travels as a reference to its number. Both recurse once for each
level of nesting; `depth` is what the interpreter's recursion limit leaves.
Floats are the bit patterns of doubles and texts have no lone surrogates, which
UTF-8 cannot carry.
-/

namespace CompanionBridge

/-- The sixteen bytes of a UUID. -/
structure Uuid where
  bytes : Bytes
  length_eq : bytes.length = 16
  deriving DecidableEq

inductive OpackScalar where
  | null
  | bool (value : Bool)
  /-- An integer, with the width it was received with. -/
  | int (value : Nat) (size : Option Nat)
  | float (bits : UInt64)
  | str (text : String)
  | bytes (data : Bytes)
  | uuid (value : Uuid)
  deriving DecidableEq

inductive OpackValue where
  | scalar (value : OpackScalar)
  | list (items : List OpackValue)
  | dict (entries : List (OpackValue × OpackValue))

/-! ## Equality of objects -/

/-- A number; a finite one in units of the smallest double. -/
inductive PyNumber where
  | finite (units : Int)
  | infinite (negative : Bool)
  deriving DecidableEq

@[irreducible] def floatUnit : Nat := 2 ^ 1074

theorem floatUnit_pos : 0 < floatUnit := by
  unfold floatUnit
  generalize 1074 = exponent
  exact Nat.two_pow_pos exponent

/-- The number of a double; a NaN is none. -/
def floatNumber? (bits : UInt64) : Option PyNumber :=
  let negative := 2 ^ 63 ≤ bits.toNat
  let exponent := bits.toNat / 2 ^ 52 % 2 ^ 11
  let fraction := bits.toNat % 2 ^ 52
  if exponent = 2047 then if fraction = 0 then some (.infinite negative) else none
  else
    let magnitude : Nat :=
      if exponent = 0 then fraction else (2 ^ 52 + fraction) * 2 ^ (exponent - 1)
    some (.finite (if negative then -magnitude else magnitude))

namespace OpackScalar

def number? : OpackScalar → Option PyNumber
  | bool value => some (.finite (if value then floatUnit else 0))
  | int value _ => some (.finite (value * floatUnit))
  | float bits => floatNumber? bits
  | _ => none

def isFloat : OpackScalar → Bool
  | float _ => true
  | _ => false

/-- `==`: numbers of different types may be equal, and a NaN equals nothing. -/
def pyEq (first second : OpackScalar) : Bool :=
  match first.number?, second.number? with
  | some x, some y => x = y
  | none, none => !first.isFloat && first = second
  | _, _ => false

end OpackScalar

/-! ## Packing -/

/-- `int.to_bytes` in little-endian order; an integer that does not fit raises. -/
def toBytes? (length value : Nat) : Option Bytes :=
  if value < 256 ^ length then some (littleEndian length value) else none

def utf8 (text : String) : Bytes :=
  text.toUTF8.data.toList

namespace OpackScalar

def packInt (value : Nat) (size : Option Nat) : Option Bytes :=
  if value < 0x28 ∧ size = none then some [UInt8.ofNat (value + 8)]
  else if (value ≤ 0xFF ∧ size = none) ∨ size = some 1 then
    (toBytes? 1 value).map (0x30 :: ·)
  else if (value ≤ 0xFFFF ∧ size = none) ∨ size = some 2 then
    (toBytes? 2 value).map (0x31 :: ·)
  else if (value ≤ 0xFFFFFFFF ∧ size = none) ∨ size = some 4 then
    (toBytes? 4 value).map (0x32 :: ·)
  else if value ≤ 0xFFFFFFFFFFFFFFFF then (toBytes? 8 value).map (0x33 :: ·)
  else none

def packStr (encoded : Bytes) : Option Bytes :=
  let length := encoded.length
  if length ≤ 0x20 then some (UInt8.ofNat (0x40 + length) :: encoded)
  else if length ≤ 0xFF then some (0x61 :: littleEndian 1 length ++ encoded)
  else if length ≤ 0xFFFF then some (0x62 :: littleEndian 2 length ++ encoded)
  else if length ≤ 0xFFFFFF then some (0x63 :: littleEndian 3 length ++ encoded)
  else if length ≤ 0xFFFFFFFF then some (0x64 :: littleEndian 4 length ++ encoded)
  else none

def packBytes (data : Bytes) : Option Bytes :=
  let length := data.length
  if length ≤ 0x20 then some (UInt8.ofNat (0x70 + length) :: data)
  else if length ≤ 0xFF then some (0x91 :: littleEndian 1 length ++ data)
  else if length ≤ 0xFFFF then some (0x92 :: littleEndian 2 length ++ data)
  else if length ≤ 0xFFFFFFFF then some (0x93 :: littleEndian 4 length ++ data)
  else if length ≤ 0xFFFFFFFFFFFFFFFF then some (0x94 :: littleEndian 8 length ++ data)
  else none

/-- The bytes of a scalar; a value that no branch encodes raises afterwards. -/
def pack : OpackScalar → Option Bytes
  | null => some [4]
  | bool value => some [if value then 1 else 2]
  | uuid value => some (5 :: value.bytes)
  | int value size => packInt value size
  | float bits => some (0x36 :: littleEndian 8 bits.toNat)
  | str text => packStr (utf8 text)
  | bytes data => packBytes data

end OpackScalar

/-- The reference to an earlier object; beyond the last width it stays as it is. -/
def opackReference (index : Nat) (packed : Bytes) : Bytes :=
  if index < 0x21 then [UInt8.ofNat (0xA0 + index)]
  else if index ≤ 0xFF then 0xC1 :: littleEndian 1 index
  else if index ≤ 0xFFFF then 0xC2 :: littleEndian 2 index
  else if index ≤ 0xFFFFFFFF then 0xC3 :: littleEndian 4 index
  else if index ≤ 0xFFFFFFFFFFFFFFFF then 0xC4 :: littleEndian 8 index
  else packed

/-- Replace a known object by its reference, or add it to the table. -/
def intern (packed : Bytes) (objects : List Bytes) : Bytes × List Bytes :=
  if packed ∈ objects then (opackReference (objects.idxOf packed) packed, objects)
  else if 1 < packed.length then (packed, objects ++ [packed])
  else (packed, objects)

def packItems (item : OpackValue → List Bytes → Option (Bytes × List Bytes)) :
    List OpackValue → List Bytes → Option (Bytes × List Bytes)
  | [], objects => some ([], objects)
  | first :: rest, objects => do
      let (packed, objects) ← item first objects
      let (others, objects) ← packItems item rest objects
      return (packed ++ others, objects)

/-- A container of `count` items; from fifteen on it is terminated. -/
def containerBytes (base count : Nat) (body : Bytes) : Bytes :=
  UInt8.ofNat (base + min count 0xF) :: body ++ if 0xF ≤ count then [3] else []

/-- Keys and values in the order they are packed. -/
def flattenEntries (entries : List (OpackValue × OpackValue)) : List OpackValue :=
  entries.flatMap fun (key, value) => [key, value]

def packWith : Nat → OpackValue → List Bytes → Option (Bytes × List Bytes)
  | 0, _, _ => none
  | _ + 1, .scalar value, objects => value.pack.map fun packed => intern packed objects
  | depth + 1, .list items, objects => do
      let (body, objects) ← packItems (packWith depth) items objects
      return intern (containerBytes 0xD0 items.length body) objects
  | depth + 1, .dict entries, objects => do
      let (body, objects) ← packItems (packWith depth) (flattenEntries entries) objects
      return intern (containerBytes 0xE0 entries.length body) objects

def pack (depth : Nat) (value : OpackValue) : Option Bytes :=
  (packWith depth value []).map Prod.fst

/-! ## Unpacking -/

/-- `int.from_bytes` in little-endian order. -/
def fromLittleEndian : Bytes → Nat
  | [] => 0
  | byte :: rest => byte.toNat + 256 * fromLittleEndian rest

/-- `bytes.decode("utf-8")`. -/
def decodeUtf8 (data : Bytes) : Option String :=
  String.fromUTF8? ⟨data.toArray⟩

/-- The double of a single-precision pattern. -/
def widenFloat (bits : Nat) : Nat :=
  let sign := bits / 2 ^ 31 * 2 ^ 63
  let exponent := bits / 2 ^ 23 % 2 ^ 8
  let fraction := bits % 2 ^ 23
  if exponent = 255 then
    sign + 2047 * 2 ^ 52 +
      if fraction = 0 then 0 else 2 ^ 51 + fraction % 2 ^ 22 * 2 ^ 29
  else if exponent = 0 then
    if fraction = 0 then sign
    else
      -- a subnormal becomes normal: its leading bit turns into the exponent
      let high := fraction.log2
      sign + (high + 874) * 2 ^ 52 + (fraction - 2 ^ high) * 2 ^ (52 - high)
  else sign + (exponent + 896) * 2 ^ 52 + fraction * 2 ^ 29

/-- One decoded value. `object` is the place of the value's object in the table,
for the objects that are in it. -/
structure OpackDecoded where
  value : OpackValue
  object : Option Nat
  remaining : Bytes
  objects : List OpackScalar

namespace OpackDecoded

/-- A value that never enters the table. -/
def loose (value : OpackValue) (remaining : Bytes) (objects : List OpackScalar) : OpackDecoded :=
  { value := value, object := none, remaining := remaining, objects := objects }

/-- A value that enters the table unless an equal one is there. -/
def kept (value : OpackScalar) (remaining : Bytes) (objects : List OpackScalar) : OpackDecoded :=
  if objects.any fun other => other.pyEq value then loose (.scalar value) remaining objects
  else
    { value := .scalar value
      object := some objects.length
      remaining := remaining
      objects := objects ++ [value] }

/-- The object a reference names. -/
def referenced (index : Nat) (remaining : Bytes) (objects : List OpackScalar) :
    Option OpackDecoded :=
  objects[index]?.map fun value =>
    { value := .scalar value, object := some index, remaining := remaining, objects := objects }

end OpackDecoded

/-- A decoding step: a result, the remaining data and the object table. -/
abbrev OpackStep (Result : Type) :=
  Bytes → List OpackScalar → Option (Result × Bytes × List OpackScalar)

/-- Run a step a declared number of times. -/
def repeatStep {Result : Type} (step : OpackStep Result) :
    Nat → OpackStep (List Result)
  | 0, data, objects => some ([], data, objects)
  | count + 1, data, objects => do
      let (first, data, objects) ← step data objects
      let (rest, data, objects) ← repeatStep step count data objects
      return (first :: rest, data, objects)

/-- Run a step until the terminator. Each step takes a byte at least, so the
length of the data bounds their number. -/
def repeatUntil {Result : Type} (step : OpackStep Result) :
    Nat → OpackStep (List Result)
  | 0, _, _ => none
  | _ + 1, [], _ => none
  | fuel + 1, tag :: body, objects =>
      if tag = 3 then some ([], body, objects)
      else do
        let (first, data, objects) ← step (tag :: body) objects
        let (rest, data, objects) ← repeatUntil step fuel data objects
        return (first :: rest, data, objects)

/-- The steps of a container: counted below fifteen, terminated otherwise. -/
def containerSteps {Result : Type} (step : OpackStep Result) (count : Nat) :
    OpackStep (List Result) :=
  fun data objects =>
    if count = 0xF then repeatUntil step (data.length + 1) data objects
    else repeatStep step count data objects

/-- A dictionary under construction, with the objects of its keys. -/
abbrev OpackEntries := List (OpackScalar × Option Nat × OpackValue)

/-- Keys are the same when they are one object or equal. -/
def sameKey (first second : OpackScalar) (firstObject secondObject : Option Nat) : Bool :=
  first.pyEq second || (firstObject.isSome && firstObject = secondObject)

/-- `output[key] = value` of a hashable key. -/
def setEntry (entries : OpackEntries) (key : OpackScalar) (object : Option Nat)
    (value : OpackValue) : OpackEntries :=
  match entries with
  | [] => [(key, object, value)]
  | (held, heldObject, old) :: rest =>
      if sameKey held key heldObject object then (held, heldObject, value) :: rest
      else (held, heldObject, old) :: setEntry rest key object value

/-- The dictionary of decoded keys and values; a container as a key raises. -/
def buildEntries : OpackEntries → List (OpackDecoded × OpackValue) → Option OpackEntries
  | entries, [] => some entries
  | entries, (key, value) :: rest =>
      match key.value with
      | .scalar scalar => buildEntries (setEntry entries scalar key.object value) rest
      | _ => none

def entryPairs (entries : OpackEntries) : List (OpackValue × OpackValue) :=
  entries.map fun (key, _, value) => (.scalar key, value)

/-- Decode a scalar or a reference by its tag. -/
def unpackScalar (tag : Nat) (body : Bytes) (objects : List OpackScalar) : Option OpackDecoded :=
  if tag = 0x01 then some (.loose (.scalar (.bool true)) body objects)
  else if tag = 0x02 then some (.loose (.scalar (.bool false)) body objects)
  else if tag = 0x04 then some (.loose (.scalar .null) body objects)
  else if tag = 0x05 then
    if hlength : (body.take 16).length = 16 then
      some (.kept (.uuid ⟨body.take 16, hlength⟩) (body.drop 16) objects)
    else none
  else if tag = 0x06 then
    some (.kept (.int (fromLittleEndian (body.take 8)) none) (body.drop 8) objects)
  else if 0x08 ≤ tag ∧ tag ≤ 0x2F then
    some (.loose (.scalar (.int (tag - 8) none)) body objects)
  else if tag = 0x35 then
    -- `struct.unpack` needs all the bytes, which slicing does not
    if (body.take 4).length = 4 then
      some (.kept (.float (UInt64.ofNat (widenFloat (fromLittleEndian (body.take 4)))))
        (body.drop 4) objects)
    else none
  else if tag = 0x36 then
    if (body.take 8).length = 8 then
      some (.kept (.float (UInt64.ofNat (fromLittleEndian (body.take 8)))) (body.drop 8) objects)
    else none
  -- a truncated integer decodes to the bytes that are there
  else if tag / 16 = 3 then
    let size := 2 ^ (tag % 16)
    some (.kept (.int (fromLittleEndian (body.take size)) (some size)) (body.drop size) objects)
  else if 0x40 ≤ tag ∧ tag ≤ 0x60 then
    -- short strings have their length in the tag
    let length := tag - 0x40
    (decodeUtf8 (body.take length)).map fun text => .kept (.str text) (body.drop length) objects
  else if 0x60 < tag ∧ tag ≤ 0x64 then
    let width := tag % 16
    let length := fromLittleEndian (body.take width)
    (decodeUtf8 ((body.drop width).take length)).map fun text =>
      .kept (.str text) (body.drop (width + length)) objects
  else if 0x70 ≤ tag ∧ tag ≤ 0x90 then
    let length := tag - 0x70
    some (.kept (.bytes (body.take length)) (body.drop length) objects)
  else if 0x91 ≤ tag ∧ tag ≤ 0x94 then
    -- the width of a bytes length doubles with the tag
    let width := 2 ^ (tag % 16 - 1)
    let length := fromLittleEndian (body.take width)
    some (.kept (.bytes ((body.drop width).take length)) (body.drop (width + length)) objects)
  -- references count the objects kept so far
  else if 0xA0 ≤ tag ∧ tag ≤ 0xC0 then OpackDecoded.referenced (tag - 0xA0) body objects
  else if 0xC1 ≤ tag ∧ tag ≤ 0xC4 then
    let width := tag - 0xC0
    OpackDecoded.referenced (fromLittleEndian (body.take width)) (body.drop width) objects
  else none

/-- The value of a step, without its object. -/
def valueStep (item : Bytes → List OpackScalar → Option OpackDecoded) : OpackStep OpackValue :=
  fun data objects =>
    (item data objects).map fun decoded => (decoded.value, decoded.remaining, decoded.objects)

/-- A key and its value. -/
def entryStep (item : Bytes → List OpackScalar → Option OpackDecoded) :
    OpackStep (OpackDecoded × OpackValue) :=
  fun data objects => do
    let key ← item data objects
    let value ← item key.remaining key.objects
    return ((key, value.value), value.remaining, value.objects)

def unpackWith : Nat → Bytes → List OpackScalar → Option OpackDecoded
  | 0, _, _ => none
  | _ + 1, [], _ => none
  | depth + 1, tag :: body, objects =>
      if tag.toNat / 16 = 0xD then do
        let (items, data, objects) ←
          containerSteps (valueStep (unpackWith depth)) (tag.toNat % 16) body objects
        return .loose (.list items) data objects
      else if tag.toNat / 32 = 7 then do
        let (pairs, data, objects) ←
          containerSteps (entryStep (unpackWith depth)) (tag.toNat % 16) body objects
        let entries ← buildEntries [] pairs
        return .loose (.dict (entryPairs entries)) data objects
      else unpackScalar tag.toNat body objects

def unpack (depth : Nat) (data : Bytes) : Option (OpackValue × Bytes) :=
  (unpackWith depth data []).map fun decoded => (decoded.value, decoded.remaining)

end CompanionBridge
