import CompanionBridge.State.PairedStore

/-!
# TLV8

Values of repeated tags are concatenated, so a value longer than 255 bytes
travels in fragments. The reader recurses once for each item; it gives up when
the interpreter's recursion limit is reached, as on a lone tag byte.
-/

namespace CompanionBridge

namespace TlvValue

def method : UInt8 := 0
def identifier : UInt8 := 1
def salt : UInt8 := 2
def publicKey : UInt8 := 3
def proof : UInt8 := 4
def encryptedData : UInt8 := 5
def seqNo : UInt8 := 6
def error : UInt8 := 7
def backOff : UInt8 := 8
def signature : UInt8 := 10

end TlvValue

/-- A mapping from tags to values, in order of first insertion. -/
abbrev TlvMap := List (UInt8 × Bytes)

/-- Extend the value of a tag, or insert it at the end. -/
def TlvMap.extend (map : TlvMap) (tag : UInt8) (value : Bytes) : TlvMap :=
  match map with
  | [] => [(tag, value)]
  | (other, held) :: rest =>
      if other = tag then (other, held ++ value) :: rest
      else (other, held) :: TlvMap.extend rest tag value

/-- `_parse` with the recursion depth that is left. -/
def parseTlv : Nat → TlvMap → Bytes → Option TlvMap
  | 0, _, _ => none
  | _ + 1, result, [] => some result
  | _ + 1, _, [_] => none
  | depth + 1, result, tag :: length :: rest =>
      parseTlv depth (result.extend tag (rest.take length.toNat)) (rest.drop length.toNat)

def readTlv (depth : Nat) (data : Bytes) : Option TlvMap :=
  parseTlv depth [] data

/-- The fragments of one value. -/
def writeTlvValue (tag : UInt8) : Nat → Bytes → Bytes
  | 0, _ => []
  | _ + 1, [] => []
  | fuel + 1, value =>
      let size := min value.length 255
      tag :: UInt8.ofNat size :: value.take size ++ writeTlvValue tag fuel (value.drop size)

def writeTlv (map : TlvMap) : Bytes :=
  map.flatMap fun (tag, value) => writeTlvValue tag value.length value

end CompanionBridge
