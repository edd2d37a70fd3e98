import CompanionBridge.Protocol.PeerStream

/-!
# Feeding a stream in chunks

`feed` run to its end, chunk after chunk. What it yields and retains depends on
the bytes received so far and not on where the chunks end: between two frames
the parser is determined by the bytes of the frame it has not completed.
-/

namespace CompanionBridge

/-- What consuming `feed` yields, the size that made it raise, and the parser afterwards. -/
structure Fed where
  frames : List (Bytes × Bytes) := []
  tooLarge : Option Nat := none
  parser : FrameParser

namespace Fed

/-- The yielded frames as they were on the wire. -/
def wire (fed : Fed) : Bytes :=
  fed.frames.flatMap fun frame => frame.1 ++ frame.2

end Fed

namespace FrameParser

/-- Consume the generator; each frame takes a byte, so their number is bounded. -/
def feedFrames : Nat → FrameParser → Bytes → Fed
  | 0, parser, _ => { parser := parser }
  | fuel + 1, parser, incoming =>
      match parser.next incoming with
      | (parser, .needMore) => { parser := parser }
      | (parser, .tooLarge declared) => { tooLarge := some declared, parser := parser }
      | (parser, .frame header payload rest) =>
          let fed := feedFrames fuel parser rest
          { fed with frames := (header, payload) :: fed.frames }

/-- `feed`, consumed to its end. -/
def feed (parser : FrameParser) (incoming : Bytes) : Fed :=
  feedFrames incoming.length parser incoming

/-- Consume `feed` on chunks in turn, until it raises. -/
def feedChunks (parser : FrameParser) : List Bytes → Fed
  | [] => { parser := parser }
  | chunk :: rest =>
      let fed := parser.feed chunk
      if fed.tooLarge.isSome then fed
      else
        let later := fed.parser.feedChunks rest
        { later with frames := fed.frames ++ later.frames }

/-! ## The parser between two frames -/

/-- The parser that holds the bytes of an incomplete frame. -/
def holding (maxPayload : Nat) (held : Bytes) : FrameParser where
  maxPayload := maxPayload
  buffer := held
  frameSize :=
    if held.length < frameHeaderSize then none else some (frameHeaderSize + payloadSize held)

/-- No more of a frame is held than a part of one that is not too large. -/
structure Incomplete (maxPayload : Nat) (held : Bytes) : Prop where
  bounded : frameHeaderSize ≤ held.length → payloadSize held ≤ maxPayload
  short : frameHeaderSize ≤ held.length → held.length < frameHeaderSize + payloadSize held

/-- What `feed` does next with the bytes of a stream. -/
def parseHead (maxPayload : Nat) (stream : Bytes) : FrameParser × ParseResult :=
  if stream.length < frameHeaderSize then (holding maxPayload stream, .needMore)
  else if maxPayload < payloadSize stream then
    (holding maxPayload [], .tooLarge (payloadSize stream))
  else if stream.length < frameHeaderSize + payloadSize stream then
    (holding maxPayload stream, .needMore)
  else
    (holding maxPayload [],
      .frame (stream.take frameHeaderSize)
        ((stream.take (frameHeaderSize + payloadSize stream)).drop frameHeaderSize)
        (stream.drop (frameHeaderSize + payloadSize stream)))

theorem payloadSize_take {stream : Bytes} (hlong : frameHeaderSize ≤ stream.length) :
    payloadSize (stream.take frameHeaderSize) = payloadSize stream := by
  have hlength : (stream.take frameHeaderSize).length = frameHeaderSize := by
    rw [List.length_take, Nat.min_eq_left hlong]
  have happend := payloadSize_append hlength (stream.drop frameHeaderSize)
  rw [List.take_append_drop] at happend
  exact happend.symm

theorem payloadSize_append_of_le {stream : Bytes} (hlong : frameHeaderSize ≤ stream.length)
    (more : Bytes) : payloadSize (stream ++ more) = payloadSize stream := by
  have hlonger : frameHeaderSize ≤ (stream ++ more).length := by
    rw [List.length_append]
    omega
  rw [← payloadSize_take hlonger, List.take_append_of_le_length hlong, payloadSize_take hlong]

/-- Filling a frame whose header is there. -/
theorem fill_eq {parser : FrameParser} {size : Nat} (incoming : Bytes)
    (hsize : parser.buffer.length ≤ size) :
    parser.fill size incoming =
      if (parser.buffer ++ incoming).length < size then
        ({ parser with buffer := parser.buffer ++ incoming, frameSize := some size }, .needMore)
      else
        (parser.clear, .frame (((parser.buffer ++ incoming).take size).take frameHeaderSize)
          (((parser.buffer ++ incoming).take size).drop frameHeaderSize)
          ((parser.buffer ++ incoming).drop size)) := by
  by_cases hshort : (parser.buffer ++ incoming).length < size
  · rw [if_pos hshort, fill_incomplete hshort]
  · have hlength : ((parser.buffer ++ incoming).take size).length = size := by
      rw [List.length_take]
      omega
    rw [if_neg hshort]
    exact fill_complete hsize (List.take_append_drop size _).symm hlength

/-- Filling the frame at the front of a stream. -/
theorem fill_parseHead {parser : FrameParser} {incoming stream : Bytes}
    (hstream : parser.buffer ++ incoming = stream) (hlong : frameHeaderSize ≤ stream.length)
    (hbuffer : parser.buffer.length ≤ frameHeaderSize + payloadSize stream)
    (hsize : payloadSize stream ≤ parser.maxPayload) :
    parser.fill (frameHeaderSize + payloadSize stream) incoming =
      parseHead parser.maxPayload stream := by
  rw [fill_eq incoming hbuffer, hstream, parseHead, if_neg (Nat.not_lt.mpr hlong),
    if_neg (Nat.not_lt.mpr hsize)]
  split
  · rw [holding, if_neg (Nat.not_lt.mpr hlong)]
  · rw [List.take_take, Nat.min_eq_left (Nat.le_add_right _ _)]
    rfl

/-- A step of `feed` sees the retained bytes and the new ones as one stream. -/
theorem next_holding {maxPayload : Nat} {held incoming : Bytes}
    (hheld : Incomplete maxPayload held) (hincoming : incoming ≠ []) :
    (holding maxPayload held).next incoming = parseHead maxPayload (held ++ incoming) := by
  have hlength : (held ++ incoming).length = held.length + incoming.length := List.length_append
  unfold next
  rw [if_neg (by simpa using hincoming)]
  -- the parser waits either for the header or for the payload it announced
  by_cases hshort : held.length < frameHeaderSize
  · have hnone : (holding maxPayload held).frameSize = none := if_pos hshort
    have htake : (holding maxPayload held).take incoming frameHeaderSize =
        ((held ++ incoming).take frameHeaderSize, (held ++ incoming).drop frameHeaderSize) :=
      take_eq hshort.le
    simp only [hnone, htake]
    by_cases hstream : (held ++ incoming).length < frameHeaderSize
    · rw [if_pos (by rw [List.length_take]; omega), List.take_of_length_le hstream.le, parseHead,
        if_pos hstream, holding, holding, if_pos hstream, if_pos hshort]
    · rw [if_neg (by rw [List.length_take]; omega), payloadSize_take (Nat.not_lt.mp hstream)]
      have hmax : (holding maxPayload held).maxPayload = maxPayload := rfl
      rw [hmax]
      by_cases hlarge : maxPayload < payloadSize (held ++ incoming)
      · rw [if_pos hlarge, parseHead, if_neg hstream, if_pos hlarge]
        rfl
      · rw [if_neg hlarge]
        apply fill_parseHead
        · exact List.take_append_drop frameHeaderSize _
        · exact Nat.not_lt.mp hstream
        · simp only [List.length_take]
          omega
        · exact Nat.not_lt.mp hlarge
  · have hheader := Nat.not_lt.mp hshort
    have hdeclared : payloadSize (held ++ incoming) = payloadSize held :=
      payloadSize_append_of_le hheader incoming
    have hsome : (holding maxPayload held).frameSize =
        some (frameHeaderSize + payloadSize (held ++ incoming)) := by
      rw [hdeclared]
      exact if_neg hshort
    simp only [hsome]
    have hbound := hheld.bounded hheader
    have hmissing := hheld.short hheader
    apply fill_parseHead
    · rfl
    · omega
    · simp only [holding]
      omega
    · simp only [holding]
      omega

/-! ## One step -/

section Steps

variable {maxPayload : Nat} {stream more : Bytes} {parser : FrameParser}

/-- The parser asks for more only while a frame is incomplete. -/
theorem parseHead_needMore (hhead : parseHead maxPayload stream = (parser, .needMore)) :
    parser = holding maxPayload stream ∧ Incomplete maxPayload stream := by
  unfold parseHead at hhead
  split at hhead
  · rename_i hshort
    exact ⟨(Prod.mk.inj hhead).1.symm, fun hlong => absurd hshort (Nat.not_lt.mpr hlong),
      fun hlong => absurd hshort (Nat.not_lt.mpr hlong)⟩
  · split at hhead
    · exact absurd hhead (by simp)
    · rename_i hsize
      split at hhead
      · rename_i hpart
        exact ⟨(Prod.mk.inj hhead).1.symm, fun _ => Nat.not_lt.mp hsize, fun _ => hpart⟩
      · exact absurd hhead (by simp)

/-- It refuses a frame as soon as its header is there. -/
theorem parseHead_tooLarge {declared : Nat}
    (hhead : parseHead maxPayload stream = (parser, .tooLarge declared)) :
    parser = holding maxPayload [] ∧ frameHeaderSize ≤ stream.length ∧
      declared = payloadSize stream ∧ maxPayload < declared := by
  unfold parseHead at hhead
  split at hhead
  · exact absurd hhead (by simp)
  · rename_i hlong
    split at hhead
    · rename_i hlarge
      simp only [Prod.mk.injEq, ParseResult.tooLarge.injEq] at hhead
      exact ⟨hhead.1.symm, Nat.not_lt.mp hlong, hhead.2.symm, hhead.2 ▸ hlarge⟩
    · split at hhead <;> exact absurd hhead (by simp)

/-- A frame that is taken is its header and all its payload. -/
theorem parseHead_frame {header payload rest : Bytes}
    (hhead : parseHead maxPayload stream = (parser, .frame header payload rest)) :
    parser = holding maxPayload [] ∧ stream = header ++ payload ++ rest ∧
      header.length = frameHeaderSize ∧ payload.length = payloadSize header ∧
      payload.length ≤ maxPayload := by
  unfold parseHead at hhead
  split at hhead
  · exact absurd hhead (by simp)
  · rename_i hlong
    split at hhead
    · exact absurd hhead (by simp)
    · rename_i hsize
      split at hhead
      · exact absurd hhead (by simp)
      · rename_i hcomplete
        simp only [Prod.mk.injEq, ParseResult.frame.injEq] at hhead
        obtain ⟨hparser, rfl, rfl, rfl⟩ := hhead
        have hheader := payloadSize_take (Nat.not_lt.mp hlong)
        refine ⟨hparser.symm, ?_, ?_, ?_, ?_⟩
        · have hfirst : stream.take frameHeaderSize =
              (stream.take (frameHeaderSize + payloadSize stream)).take frameHeaderSize := by
            rw [List.take_take, Nat.min_eq_left (Nat.le_add_right _ _)]
          rw [hfirst, List.take_append_drop, List.take_append_drop]
        · rw [List.length_take]
          omega
        · rw [hheader, List.length_drop, List.length_take]
          omega
        · rw [List.length_drop, List.length_take]
          omega

/-- More bytes behind a stream do not change the frame at its front. -/
theorem parseHead_append_frame {header payload rest : Bytes}
    (hhead : parseHead maxPayload stream = (parser, .frame header payload rest)) (more : Bytes) :
    parseHead maxPayload (stream ++ more) = (parser, .frame header payload (rest ++ more)) := by
  obtain ⟨rfl, rfl, hheader, hpayload, hsize⟩ := parseHead_frame hhead
  have hdeclared : payloadSize (header ++ payload ++ rest ++ more) = payload.length := by
    rw [List.append_assoc, List.append_assoc, payloadSize_append hheader, hpayload]
  have hlength : (header ++ payload).length = frameHeaderSize + payload.length := by
    rw [List.length_append, hheader]
  have hwhole : header ++ payload ++ rest ++ more = (header ++ payload) ++ (rest ++ more) := by
    simp only [List.append_assoc]
  have hlong : (header ++ payload).length ≤ (header ++ payload ++ rest ++ more).length := by
    simp only [List.length_append]
    omega
  rw [parseHead, hdeclared, if_neg (by omega), if_neg (by omega), if_neg (by omega), hwhole,
    ← hlength, List.take_left, List.drop_left, List.append_assoc, ← hheader, List.take_left,
    List.drop_left]

theorem parseHead_append_tooLarge {declared : Nat}
    (hhead : parseHead maxPayload stream = (parser, .tooLarge declared)) (more : Bytes) :
    parseHead maxPayload (stream ++ more) = (parser, .tooLarge declared) := by
  obtain ⟨rfl, hlong, rfl, hlarge⟩ := parseHead_tooLarge hhead
  have hdeclared := payloadSize_append_of_le hlong more
  have hlonger : frameHeaderSize ≤ (stream ++ more).length := by
    rw [List.length_append]
    omega
  rw [parseHead, hdeclared, if_neg (by omega), if_pos hlarge]

end Steps

/-! ## Whole streams -/

/-- The frames at the front of a stream, and the parser that holds what is left. -/
def parseFrames (maxPayload : Nat) : Nat → Bytes → Fed
  | 0, stream => { parser := holding maxPayload stream }
  | fuel + 1, stream =>
      match parseHead maxPayload stream with
      | (parser, .needMore) => { parser := parser }
      | (parser, .tooLarge declared) => { tooLarge := some declared, parser := parser }
      | (_, .frame header payload rest) =>
          let fed := parseFrames maxPayload fuel rest
          { fed with frames := (header, payload) :: fed.frames }

def parseStream (maxPayload : Nat) (stream : Bytes) : Fed :=
  parseFrames maxPayload stream.length stream

variable {maxPayload : Nat}

/-- Nothing is the beginning of any frame. -/
theorem incomplete_nil (maxPayload : Nat) : Incomplete maxPayload [] :=
  ⟨fun hlong => absurd hlong (by decide), fun hlong => absurd hlong (by decide)⟩

/-- The frame at the front of a stream reaches beyond the retained bytes. -/
theorem length_lt_of_frame {held incoming header payload rest : Bytes} {parser : FrameParser}
    (hheld : Incomplete maxPayload held)
    (hhead : parseHead maxPayload (held ++ incoming) = (parser, .frame header payload rest)) :
    rest.length < incoming.length := by
  obtain ⟨-, hstream, hheader, hpayload, -⟩ := parseHead_frame hhead
  have hlength := congrArg List.length hstream
  simp only [List.length_append] at hlength
  by_cases hlong : frameHeaderSize ≤ held.length
  · have hdeclared : payloadSize held = payload.length := by
      rw [← payloadSize_append_of_le hlong incoming, hstream, List.append_assoc,
        payloadSize_append hheader, hpayload]
    have hshort := hheld.short hlong
    omega
  · omega

/-- An incomplete frame by itself is retained as it is. -/
theorem parseFrames_incomplete {held : Bytes} (hheld : Incomplete maxPayload held) (fuel : Nat) :
    parseFrames maxPayload fuel held = { parser := holding maxPayload held } := by
  cases fuel with
  | zero => rfl
  | succ fuel =>
      have hhead : parseHead maxPayload held = (holding maxPayload held, .needMore) := by
        unfold parseHead
        split
        · rfl
        · rename_i hlong
          rw [if_neg (Nat.not_lt.mpr (hheld.bounded (Nat.not_lt.mp hlong))),
            if_pos (hheld.short (Nat.not_lt.mp hlong))]
      rw [parseFrames, hhead]

/-- `feed` on retained bytes and new ones finds the frames of their stream. -/
theorem feedFrames_eq {held incoming : Bytes} (hheld : Incomplete maxPayload held)
    {fuel more : Nat} (hfuel : incoming.length ≤ fuel) (hmore : (held ++ incoming).length ≤ more) :
    feedFrames fuel (holding maxPayload held) incoming =
      parseFrames maxPayload more (held ++ incoming) := by
  induction fuel generalizing held incoming more with
  | zero =>
      obtain rfl : incoming = [] := List.eq_nil_of_length_eq_zero (Nat.le_zero.mp hfuel)
      rw [feedFrames, List.append_nil, parseFrames_incomplete hheld]
  | succ fuel ih =>
      by_cases hempty : incoming = []
      · subst hempty
        rw [List.append_nil, parseFrames_incomplete hheld]
        rfl
      · have hpositive : 0 < incoming.length := List.length_pos_of_ne_nil hempty
        rw [List.length_append] at hmore
        obtain ⟨more, rfl⟩ := Nat.exists_eq_succ_of_ne_zero (by omega : more ≠ 0)
        rw [feedFrames, parseFrames, next_holding hheld hempty]
        cases hhead : parseHead maxPayload (held ++ incoming) with
        | mk parser result =>
            cases result with
            | needMore => rfl
            | tooLarge declared => rfl
            | frame header payload rest =>
                have hshorter := length_lt_of_frame hheld hhead
                obtain ⟨rfl, -⟩ := parseHead_frame hhead
                have hrest : feedFrames fuel (holding maxPayload []) rest =
                    parseFrames maxPayload more ([] ++ rest) :=
                  ih (incomplete_nil maxPayload) (by omega) (by rw [List.nil_append]; omega)
                rw [List.nil_append] at hrest
                simp only [hrest]

/-- What was held back and what comes in are read as one stream. -/
theorem feed_eq {held : Bytes} (hheld : Incomplete maxPayload held) (incoming : Bytes) :
    (holding maxPayload held).feed incoming = parseStream maxPayload (held ++ incoming) :=
  feedFrames_eq hheld le_rfl le_rfl

/-- With enough fuel for the stream, more of it changes nothing. -/
theorem parseFrames_eq_parseStream {fuel : Nat} {stream : Bytes} (hfuel : stream.length ≤ fuel) :
    parseFrames maxPayload fuel stream = parseStream maxPayload stream := by
  have hwith : ∀ fuel, stream.length ≤ fuel →
      (holding maxPayload []).feed stream = parseFrames maxPayload fuel ([] ++ stream) :=
    fun fuel hfuel => feedFrames_eq (incomplete_nil maxPayload) le_rfl hfuel
  rw [List.nil_append] at hwith
  rw [← hwith fuel hfuel, hwith stream.length le_rfl, parseStream]

/-- What a stream comes to: its frames, and an incomplete frame or one too large behind them. -/
structure Splits (maxPayload : Nat) (stream : Bytes) (fed : Fed) (tail : Bytes) : Prop where
  stream_eq : stream = fed.wire ++ tail
  frames : ∀ frame ∈ fed.frames, frame.1.length = frameHeaderSize ∧
    frame.2.length = payloadSize frame.1 ∧ frame.2.length ≤ maxPayload
  held : fed.tooLarge = none → Incomplete maxPayload tail ∧ fed.parser = holding maxPayload tail
  refused : ∀ declared, fed.tooLarge = some declared → frameHeaderSize ≤ tail.length ∧
    declared = payloadSize tail ∧ maxPayload < declared ∧ fed.parser = holding maxPayload []

/-- The frames and the rest are the stream, by induction on the fuel. -/
theorem parseFrames_splits {fuel : Nat} {stream : Bytes} (hfuel : stream.length ≤ fuel) :
    ∃ tail, Splits maxPayload stream (parseFrames maxPayload fuel stream) tail := by
  -- every frame takes at least a header, so the fuel lasts
  induction fuel generalizing stream with
  | zero =>
      obtain rfl : stream = [] := List.eq_nil_of_length_eq_zero (Nat.le_zero.mp hfuel)
      exact ⟨[], rfl, by simp [parseFrames], fun _ => ⟨incomplete_nil maxPayload, rfl⟩,
        fun _ hsome => absurd hsome (by simp [parseFrames])⟩
  | succ fuel ih =>
      rw [parseFrames]
      cases hhead : parseHead maxPayload stream with
      | mk parser result =>
          cases result with
          | needMore =>
              obtain ⟨rfl, hincomplete⟩ := parseHead_needMore hhead
              exact ⟨stream, rfl, by simp, fun _ => ⟨hincomplete, rfl⟩,
                fun _ hsome => absurd hsome (by simp)⟩
          | tooLarge declared =>
              obtain ⟨rfl, hlong, hdeclared, hlarge⟩ := parseHead_tooLarge hhead
              refine ⟨stream, rfl, by simp, fun hnone => absurd hnone (by simp), ?_⟩
              intro other hother
              cases hother
              exact ⟨hlong, hdeclared, hlarge, rfl⟩
          | frame header payload rest =>
              obtain ⟨rfl, hstream, hheader, hpayload, hsize⟩ := parseHead_frame hhead
              have hlength := congrArg List.length hstream
              simp only [List.length_append, hheader] at hlength
              have hpositive : 0 < frameHeaderSize := by decide
              obtain ⟨tail, hsplits⟩ := @ih rest (by omega)
              refine ⟨tail, ?_, ?_, hsplits.held, hsplits.refused⟩
              · calc stream = header ++ payload ++ rest := hstream
                  _ = header ++ payload ++ ((parseFrames maxPayload fuel rest).wire ++ tail) :=
                    congrArg (header ++ payload ++ ·) hsplits.stream_eq
                  _ = _ := by simp [Fed.wire]
              · intro frame hframe
                rcases List.mem_cons.mp hframe with rfl | hmem
                · exact ⟨hheader, hpayload, hsize⟩
                · exact hsplits.frames frame hmem

section Heads

variable {stream : Bytes} {parser : FrameParser}

theorem parseStream_of_needMore (hhead : parseHead maxPayload stream = (parser, .needMore)) :
    parseStream maxPayload stream = { parser := holding maxPayload stream } :=
  parseFrames_incomplete (parseHead_needMore hhead).2 stream.length

theorem parseStream_of_tooLarge {declared : Nat}
    (hhead : parseHead maxPayload stream = (parser, .tooLarge declared)) :
    parseStream maxPayload stream =
      { tooLarge := some declared, parser := holding maxPayload [] } := by
  obtain ⟨rfl, -⟩ := parseHead_tooLarge hhead
  rw [← parseFrames_eq_parseStream (Nat.le_succ stream.length), parseFrames, hhead]

/-- A stream that begins with a frame is that frame and what the rest is read as. -/
theorem parseStream_of_frame {header payload rest : Bytes}
    (hhead : parseHead maxPayload stream = (parser, .frame header payload rest)) :
    parseStream maxPayload stream =
      { parseStream maxPayload rest with
        frames := (header, payload) :: (parseStream maxPayload rest).frames } := by
  have hshorter : rest.length < stream.length :=
    length_lt_of_frame (incomplete_nil maxPayload) hhead
  rw [← parseFrames_eq_parseStream (Nat.le_succ stream.length), parseFrames, hhead,
    ← parseFrames_eq_parseStream hshorter.le]

end Heads

/-- More bytes behind a stream: a refusal stands, and otherwise the frames go on from what is
retained. -/
theorem parseStream_append (stream more : Bytes) :
    ((parseStream maxPayload stream).tooLarge.isSome = true →
      parseStream maxPayload (stream ++ more) = parseStream maxPayload stream) ∧
    ((parseStream maxPayload stream).tooLarge = none → ∀ tail,
      (parseStream maxPayload stream).parser = holding maxPayload tail →
      parseStream maxPayload (stream ++ more) =
        { parseStream maxPayload (tail ++ more) with
          frames := (parseStream maxPayload stream).frames ++
            (parseStream maxPayload (tail ++ more)).frames }) := by
  induction hlength : stream.length using Nat.strong_induction_on generalizing stream with
  | h length ih =>
      cases hhead : parseHead maxPayload stream with
      | mk parser result =>
          cases result with
          | needMore =>
              rw [parseStream_of_needMore hhead]
              refine ⟨fun hsome => absurd hsome (by simp), fun _ tail htail => ?_⟩
              obtain rfl : stream = tail := congrArg FrameParser.buffer htail
              rfl
          | tooLarge declared =>
              rw [parseStream_of_tooLarge hhead,
                parseStream_of_tooLarge (parseHead_append_tooLarge hhead more)]
              exact ⟨fun _ => rfl, fun hnone => absurd hnone (by simp)⟩
          | frame header payload rest =>
              have hshorter : rest.length < stream.length :=
                length_lt_of_frame (incomplete_nil maxPayload) hhead
              obtain ⟨hrefused, hgoesOn⟩ := ih rest.length (hlength ▸ hshorter) rest rfl
              rw [parseStream_of_frame hhead, parseStream_of_frame (parseHead_append_frame hhead more)]
              refine ⟨fun hsome => ?_, fun hnone tail htail => ?_⟩
              · rw [hrefused hsome]
              · rw [hgoesOn hnone tail htail]
                rfl

/-- Chunks fed in turn come to what their stream comes to. -/
theorem feedChunks_eq {held : Bytes} (hheld : Incomplete maxPayload held) (chunks : List Bytes) :
    (holding maxPayload held).feedChunks chunks =
      parseStream maxPayload (held ++ chunks.flatten) := by
  induction chunks generalizing held with
  | nil =>
      rw [List.flatten_nil, List.append_nil]
      exact (parseFrames_incomplete hheld held.length).symm
  | cons chunk rest ih =>
      obtain ⟨hrefused, hgoesOn⟩ := @parseStream_append maxPayload (held ++ chunk) rest.flatten
      rw [feedChunks, feed_eq hheld, List.flatten_cons, ← List.append_assoc]
      by_cases hsome : (parseStream maxPayload (held ++ chunk)).tooLarge.isSome = true
      · rw [if_pos hsome, hrefused hsome]
      · have hnone : (parseStream maxPayload (held ++ chunk)).tooLarge = none := by
          simpa using hsome
        obtain ⟨tail, hsplits⟩ := @parseFrames_splits maxPayload _ (held ++ chunk) le_rfl
        obtain ⟨htail, hparser⟩ := hsplits.held hnone
        rw [if_neg hsome, hgoesOn hnone tail hparser, ← ih htail]
        exact congrArg (fun parser : FrameParser =>
          { parser.feedChunks rest with
            frames := (parseStream maxPayload (held ++ chunk)).frames ++
              (parser.feedChunks rest).frames }) hparser

/-- What a parser retains is bounded, and an iteration of the loop consumes bytes. -/
structure Retains (parser : FrameParser) : Prop where
  bounded : parser.buffer.length ≤ frameHeaderSize + parser.maxPayload
  progress : ∀ incoming next header payload rest,
    parser.next incoming = (next, .frame header payload rest) → rest.length < incoming.length

/-- What is held back is less than one frame. -/
theorem Incomplete.retains {held : Bytes} (hheld : Incomplete maxPayload held) :
    (holding maxPayload held).Retains := by
  refine ⟨?_, ?_⟩
  · show held.length ≤ frameHeaderSize + maxPayload
    by_cases hlong : frameHeaderSize ≤ held.length
    · have hbounded := hheld.bounded hlong
      have hshort := hheld.short hlong
      omega
    · omega
  · intro incoming next header payload rest hnext
    by_cases hempty : incoming = []
    · subst hempty
      exact absurd hnext (by simp [FrameParser.next])
    · rw [next_holding hheld hempty] at hnext
      exact length_lt_of_frame hheld hnext

/-- Whatever the chunks of a stream, the parser yields the same frames, raises at the
same frame or not at all, and retains the same bytes; the frames and the retained
bytes are the stream. It never holds more than one frame, and always makes progress. -/
theorem feed_chunks (maxPayload : Nat) (chunks : List Bytes) :
    let parser : FrameParser := { maxPayload := maxPayload }
    let fed := parser.feedChunks chunks
    fed = parser.feed chunks.flatten ∧
    (fed.tooLarge = none → fed.wire ++ fed.parser.buffer = chunks.flatten) ∧
    (∀ declared, fed.tooLarge = some declared → ∃ tail, chunks.flatten = fed.wire ++ tail ∧
      frameHeaderSize ≤ tail.length ∧ declared = payloadSize tail ∧ maxPayload < declared) ∧
    (∀ frame ∈ fed.frames, frame.1.length = frameHeaderSize ∧
      frame.2.length = payloadSize frame.1 ∧ frame.2.length ≤ maxPayload) ∧
    fed.parser.Retains ∧ fed.parser.maxPayload = maxPayload := by
  intro parser fed
  have hparser : parser = holding maxPayload [] := rfl
  have hfed : fed = parseStream maxPayload chunks.flatten :=
    feedChunks_eq (incomplete_nil maxPayload) chunks
  have hwhole : parser.feed chunks.flatten = parseStream maxPayload chunks.flatten :=
    feed_eq (incomplete_nil maxPayload) chunks.flatten
  obtain ⟨tail, hsplits⟩ := @parseFrames_splits maxPayload _ chunks.flatten le_rfl
  have hsplits : Splits maxPayload chunks.flatten fed tail := by
    rw [hfed]
    exact hsplits
  refine ⟨hfed.trans hwhole.symm, fun hnone => ?_, fun declared hsome => ?_, hsplits.frames, ?_⟩
  · rw [(hsplits.held hnone).2]
    exact hsplits.stream_eq.symm
  · obtain ⟨hlong, hdeclared, hlarge, -⟩ := hsplits.refused declared hsome
    exact ⟨tail, hsplits.stream_eq, hlong, hdeclared, hlarge⟩
  · cases hended : fed.tooLarge with
    | none =>
        obtain ⟨htail, hheld⟩ := hsplits.held hended
        rw [hheld]
        exact ⟨htail.retains, rfl⟩
    | some declared =>
        obtain ⟨-, -, -, hheld⟩ := hsplits.refused declared hended
        rw [hheld]
        exact ⟨(incomplete_nil maxPayload).retains, rfl⟩

/-- The header of an empty payload that ends a chunk is a frame by itself. -/
example : (({ maxPayload := 4 } : FrameParser).feedChunks [[8, 0], [0, 0], [3]]).frames =
    [([8, 0, 0, 0], [])] := by decide

end FrameParser

end CompanionBridge
