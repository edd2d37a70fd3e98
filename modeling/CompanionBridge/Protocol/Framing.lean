import CompanionBridge.State.PairedStore

/-!
# Companion Link frames

A frame is one type byte, a three-byte payload length and the payload. The
parser buffers at most one incomplete frame and hands out complete ones one at a
time, so that the caller may stop in the middle of a chunk.
-/

namespace CompanionBridge

inductive FrameType where
  | unknown | noOp | psStart | psNext | pvStart | pvNext | uOpack | eOpack | pOpack
  | paReq | paRsp | sessionStartRequest | sessionStartResponse | sessionData
  | familyIdentityRequest | familyIdentityResponse | familyIdentityUpdate
  deriving DecidableEq, Repr

namespace FrameType

def code : FrameType → UInt8
  | unknown => 0
  | noOp => 1
  | psStart => 3
  | psNext => 4
  | pvStart => 5
  | pvNext => 6
  | uOpack => 7
  | eOpack => 8
  | pOpack => 9
  | paReq => 10
  | paRsp => 11
  | sessionStartRequest => 16
  | sessionStartResponse => 17
  | sessionData => 18
  | familyIdentityRequest => 32
  | familyIdentityResponse => 33
  | familyIdentityUpdate => 34

def all : List FrameType :=
  [unknown, noOp, psStart, psNext, pvStart, pvNext, uOpack, eOpack, pOpack, paReq, paRsp,
    sessionStartRequest, sessionStartResponse, sessionData, familyIdentityRequest,
    familyIdentityResponse, familyIdentityUpdate]

/-- `FrameType(code)`; an unlisted code raises. -/
def ofCode? (code : UInt8) : Option FrameType :=
  all.find? fun frameType => frameType.code = code

theorem ofCode?_code (frameType : FrameType) : ofCode? frameType.code = some frameType := by
  cases frameType <;> rfl

/-- `COMPANION_AUTH_FRAMES`. -/
def isAuth : FrameType → Bool
  | psStart | psNext | pvStart | pvNext => true
  | _ => false

end FrameType

def maxApplicationPayload : Nat := 1048576

def maxWirePayload : Nat := maxApplicationPayload + 16

def frameHeaderSize : Nat := 4

/-- The big-endian length in bytes one to three of a header. -/
def payloadSize (header : Bytes) : Nat :=
  (header.getD 1 0).toNat * 65536 + (header.getD 2 0).toNat * 256 + (header.getD 3 0).toNat

/-- The header of a frame; a length beyond three bytes raises in the source. -/
def frameHeader (frameType : FrameType) (size : Nat) : Bytes :=
  [frameType.code, UInt8.ofNat (size / 65536), UInt8.ofNat (size / 256), UInt8.ofNat size]

theorem payloadSize_frameHeader (frameType : FrameType) {size : Nat} (hsize : size < 16777216) :
    payloadSize (frameHeader frameType size) = size := by
  simp only [payloadSize, frameHeader, List.getD_cons_succ, List.getD_cons_zero,
    UInt8.toNat_ofNat']
  omega

/-- What the parser's generator does next. -/
inductive ParseResult where
  | needMore
  | tooLarge (declared : Nat)
  | frame (header payload rest : Bytes)

structure FrameParser where
  maxPayload : Nat := maxWirePayload
  buffer : Bytes := []
  frameSize : Option Nat := none
  deriving DecidableEq, Repr

namespace FrameParser

/-- Discard an incomplete frame. -/
def clear (parser : FrameParser) : FrameParser :=
  { parser with buffer := [], frameSize := none }

/-- The buffer filled up to a target size, and the bytes left over. -/
def take (parser : FrameParser) (incoming : Bytes) (target : Nat) : Bytes × Bytes :=
  let missing := target - parser.buffer.length
  (parser.buffer ++ incoming.take missing, incoming.drop missing)

/-- Complete a frame whose size is known. -/
def fill (parser : FrameParser) (size : Nat) (incoming : Bytes) : FrameParser × ParseResult :=
  let taken := parser.take incoming size
  if taken.1.length < size then
    ({ parser with buffer := taken.1, frameSize := some size }, .needMore)
  else
    (parser.clear, .frame (taken.1.take frameHeaderSize) (taken.1.drop frameHeaderSize) taken.2)

/-- Run `feed` to its next frame. -/
def next (parser : FrameParser) (incoming : Bytes) : FrameParser × ParseResult :=
  if incoming.isEmpty then (parser, .needMore)
  else
    match parser.frameSize with
    | some size => parser.fill size incoming
    | none =>
        let taken := parser.take incoming frameHeaderSize
        if taken.1.length < frameHeaderSize then ({ parser with buffer := taken.1 }, .needMore)
        else
          let declared := payloadSize taken.1
          if parser.maxPayload < declared then (parser.clear, .tooLarge declared)
          else { parser with buffer := taken.1 }.fill (frameHeaderSize + declared) taken.2

end FrameParser

end CompanionBridge
