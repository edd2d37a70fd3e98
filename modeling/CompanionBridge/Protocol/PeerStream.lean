import CompanionBridge.Protocol.Cipher
import CompanionBridge.Protocol.Framing
import Mathlib.Data.List.GetD
import Mathlib.Order.Basic

/-!
# The byte stream of a peer

What the frame parser makes of a stream of whole frames, whatever its chunks,
and the stream that a peer counting nonces by the server's rule writes.
-/

namespace CompanionBridge

theorem payloadSize_append {header : Bytes} (hlength : header.length = frameHeaderSize)
    (rest : Bytes) : payloadSize (header ++ rest) = payloadSize header := by
  have hget : ∀ index < 4, (header ++ rest).getD index 0 = header.getD index 0 := by
    intro index hindex
    apply List.getD_append
    rw [hlength]
    exact hindex
  simp only [payloadSize, hget 1 (by omega), hget 2 (by omega), hget 3 (by omega)]

namespace FrameParser

variable {parser : FrameParser} {incoming : Bytes}

/-- The parser holds a proper part of one frame. -/
def Partial (parser : FrameParser) : Prop :=
  match parser.frameSize with
  | none => parser.buffer.length < frameHeaderSize
  | some size =>
      frameHeaderSize ≤ parser.buffer.length ∧ parser.buffer.length < size ∧
        size = frameHeaderSize + payloadSize parser.buffer

/-- A cleared parser holds nothing. -/
theorem clear_holds (parser : FrameParser) : parser.clear.Partial := by
  show (0 : Nat) < 4
  decide

/-- `_take` fills the buffer up to its target and leaves the rest. -/
theorem take_eq {target : Nat} (htarget : parser.buffer.length ≤ target) :
    parser.take incoming target =
      ((parser.buffer ++ incoming).take target, (parser.buffer ++ incoming).drop target) := by
  rw [take, List.take_append, List.drop_append, List.take_of_length_le htarget,
    List.drop_eq_nil_of_le htarget, List.nil_append]

theorem fill_complete {size : Nat} {frame rest : Bytes} (hsize : parser.buffer.length ≤ size)
    (hstream : parser.buffer ++ incoming = frame ++ rest) (hframe : frame.length = size) :
    parser.fill size incoming =
      (parser.clear, .frame (frame.take frameHeaderSize) (frame.drop frameHeaderSize) rest) := by
  have htaken : parser.take incoming size = (frame, rest) := by
    rw [take_eq hsize, hstream, ← hframe, List.take_left, List.drop_left]
  rw [fill, htaken, if_neg (by rw [hframe]; exact lt_irrefl size)]

theorem fill_incomplete {size : Nat} (hsize : (parser.buffer ++ incoming).length < size) :
    parser.fill size incoming =
      ({ parser with buffer := parser.buffer ++ incoming, frameSize := some size }, .needMore) := by
  have hbuffer : parser.buffer.length ≤ size := by
    rw [List.length_append] at hsize
    omega
  have htaken : (parser.take incoming size).1 = parser.buffer ++ incoming := by
    rw [take_eq hbuffer, List.take_of_length_le hsize.le]
  rw [fill, htaken, if_pos hsize]

/-- A frame that is complete with this chunk is handed out with the bytes behind it. -/
theorem next_complete (hheld : parser.Partial) (hincoming : incoming ≠ [])
    {header payload rest : Bytes} (hheader : header.length = frameHeaderSize)
    (hpayload : payload.length = payloadSize header) (hsize : payload.length ≤ parser.maxPayload)
    (hstream : parser.buffer ++ incoming = header ++ payload ++ rest) :
    parser.next incoming = (parser.clear, .frame header payload rest) := by
  have hframe : (header ++ payload).take frameHeaderSize = header ∧
      (header ++ payload).drop frameHeaderSize = payload := by
    rw [← hheader, List.take_left, List.drop_left]
    exact ⟨rfl, rfl⟩
  have hlength : (header ++ payload).length = frameHeaderSize + payloadSize header := by
    rw [List.length_append, hheader, hpayload]
  unfold next
  rw [if_neg (by simpa using hincoming)]
  unfold Partial at hheld
  -- the header has been read already or is read from this chunk
  cases hframeSize : parser.frameSize with
  | some size =>
      rw [hframeSize] at hheld
      obtain ⟨hfour, hbelow, hdeclared⟩ := hheld
      have hwithin : header = parser.buffer.take frameHeaderSize := by
        have htake := congrArg (List.take frameHeaderSize) hstream
        rw [List.take_append_of_le_length hfour, List.append_assoc, ← hheader,
          List.take_left, hheader] at htake
        exact htake.symm
      have hsame : payloadSize parser.buffer = payloadSize header := by
        rw [← List.take_append_drop frameHeaderSize parser.buffer, ← hwithin]
        exact payloadSize_append hheader _
      have hwhole : (header ++ payload).length = size := by rw [hlength, hdeclared, hsame]
      dsimp only
      rw [fill_complete hbelow.le hstream hwhole, hframe.1, hframe.2]
  | none =>
      rw [hframeSize] at hheld
      have hfirst : parser.take incoming frameHeaderSize = (header, payload ++ rest) := by
        rw [take_eq hheld.le, hstream, List.append_assoc, ← hheader, List.take_left,
          List.drop_left]
      dsimp only
      rw [hfirst]
      dsimp only
      rw [if_neg (by rw [hheader]; exact lt_irrefl _), if_neg (by omega)]
      have hfill : ({ parser with buffer := header } : FrameParser).fill
          (frameHeaderSize + payloadSize header) (payload ++ rest) =
            (parser.clear, .frame ((header ++ payload).take frameHeaderSize)
              ((header ++ payload).drop frameHeaderSize) rest) :=
        fill_complete (by show header.length ≤ _; omega) (List.append_assoc _ _ _).symm hlength
      rw [hframeSize, hframe.1, hframe.2] at hfill
      exact hfill

/-- A chunk that does not complete its frame is kept. -/
theorem next_incomplete (hheld : parser.Partial) {header payload : Bytes}
    (hheader : header.length = frameHeaderSize) (hpayload : payload.length = payloadSize header)
    (hsize : payload.length ≤ parser.maxPayload)
    (hstream : parser.buffer ++ incoming <+: header ++ payload)
    (hshorter : (parser.buffer ++ incoming).length < (header ++ payload).length) :
    ∃ kept, parser.next incoming = (kept, .needMore) ∧ kept.Partial ∧
      kept.maxPayload = parser.maxPayload ∧ kept.buffer = parser.buffer ++ incoming := by
  have hlength : (header ++ payload).length = frameHeaderSize + payloadSize header := by
    rw [List.length_append, hheader, hpayload]
  unfold next
  by_cases hempty : incoming = []
  · subst hempty
    exact ⟨parser, rfl, hheld, rfl, (List.append_nil _).symm⟩
  rw [if_neg (by simpa using hempty)]
  -- a buffer that holds a whole header holds this one
  have hdeclared : ∀ held, held <+: header ++ payload → frameHeaderSize ≤ held.length →
      payloadSize held = payloadSize header := by
    intro held hheld hlong
    obtain ⟨tail, htail⟩ := hheld
    have htake := congrArg (List.take frameHeaderSize) htail
    rw [List.take_append_of_le_length hlong, ← hheader, List.take_left, hheader] at htake
    rw [← List.take_append_drop frameHeaderSize held, htake]
    exact payloadSize_append hheader _
  unfold Partial at hheld
  cases hframeSize : parser.frameSize with
  | some size =>
      rw [hframeSize] at hheld
      obtain ⟨hfour, hbelow, hsizeEq⟩ := hheld
      have hbuffer := hdeclared parser.buffer ((List.prefix_append _ _).trans hstream) hfour
      dsimp only
      rw [fill_incomplete (by omega)]
      refine ⟨_, rfl, ?_, rfl, rfl⟩
      show frameHeaderSize ≤ (parser.buffer ++ incoming).length ∧ _ ∧ _
      have hlonger : parser.buffer.length ≤ (parser.buffer ++ incoming).length := by
        rw [List.length_append]
        omega
      have hsame : size = frameHeaderSize + payloadSize (parser.buffer ++ incoming) := by
        rw [hdeclared _ hstream (hfour.trans hlonger), ← hbuffer]
        exact hsizeEq
      have hmissing : (parser.buffer ++ incoming).length < size := by omega
      exact ⟨hfour.trans hlonger, hmissing, hsame⟩
  | none =>
      rw [hframeSize] at hheld
      dsimp only
      rw [take_eq hheld.le]
      dsimp only
      by_cases hshort : (parser.buffer ++ incoming).length < frameHeaderSize
      · rw [List.take_of_length_le hshort.le, if_pos hshort]
        refine ⟨_, rfl, ?_, rfl, rfl⟩
        exact hshort
      · have hfirst : (parser.buffer ++ incoming).take frameHeaderSize = header := by
          obtain ⟨tail, htail⟩ := hstream
          have htake := congrArg (List.take frameHeaderSize) htail
          rw [List.take_append_of_le_length (by omega), ← hheader, List.take_left,
            hheader] at htake
          exact htake
        rw [hfirst, if_neg (by omega), if_neg (by omega)]
        have hjoin : header ++ (parser.buffer ++ incoming).drop frameHeaderSize =
            parser.buffer ++ incoming := by
          rw [← hfirst, List.take_append_drop]
        rw [fill_incomplete (by
          show (header ++ _).length < _
          rw [hjoin]
          omega)]
        refine ⟨_, rfl, ?_, rfl, hjoin⟩
        show frameHeaderSize ≤ (header ++ _).length ∧ _ ∧ _
        dsimp only
        rw [hjoin, hdeclared _ hstream (by omega)]
        exact ⟨by omega, by omega, rfl⟩

end FrameParser

/-- A frame of a peer after pair-verify: a keepalive outside the AEAD sequence,
or a sealed message. -/
inductive PeerFrame where
  | keepalive
  | message (frameType : FrameType) (data : Bytes)
  deriving DecidableEq, Repr

namespace PeerFrame

def header : PeerFrame → Bytes
  | keepalive => frameHeader .noOp 0
  | message frameType data => frameHeader frameType (data.length + 16)

/-- A frame that the server's own rules allow. -/
def Valid : PeerFrame → Prop
  | keepalive => True
  | message frameType data => frameType.isAuth = false ∧ data.length ≤ maxApplicationPayload

def isMessage : PeerFrame → Bool
  | keepalive => false
  | message _ _ => true

/-- The payload on the wire and the counter afterwards. -/
def sealFrame (aead : Aead) (key : Bytes) (counter : Nat) : PeerFrame → Option (Bytes × Nat)
  | keepalive => some ([], counter)
  | message frameType data =>
      (counterNonce counter).map fun nonce =>
        (aead.encrypt key nonce data (frameHeader frameType (data.length + 16)), counter + 1)

end PeerFrame

/-- The bytes of a peer that counts its sealed frames. -/
def peerStream (aead : Aead) (key : Bytes) : Nat → List PeerFrame → Option Bytes
  | _, [] => some []
  | counter, frame :: rest => do
      let (payload, later) ← frame.sealFrame aead key counter
      let stream ← peerStream aead key later rest
      return frame.header ++ payload ++ stream

/-- A peer opens the sealed frames it receives in the order of its own counter. -/
def peerReceive (aead : Aead) (key : Bytes) : Nat → List (Bytes × Bytes) → Option Nat
  | counter, [] => some counter
  | counter, (header, payload) :: rest =>
      if payload = [] then peerReceive aead key counter rest
      else do
        let nonce ← counterNonce counter
        let _ ← aead.decrypt key nonce payload header
        peerReceive aead key (counter + 1) rest

end CompanionBridge
