import Orihsus.Segments
import Orihsus.Text
import Orihsus.Usage

/-!
# The incremental SSE parser

`SseUsageParser` of `src/gateway.rs` reads a response byte by byte, keeps the last
four bytes to recognise a delimiter that falls across chunks, buffers at most one
event up to a cap and discards an event that outgrows it. This module relates it
to a reference that sees the whole stream: the stream is cut after every blank
line, and each segment is read on its own.

Decoding bytes as text and parsing JSON are library functions and stay parameters.
The event counter is a natural number; no stream reaches the width of its type.
-/

namespace Orihsus.Gateway

/-- How the libraries read bytes: `String::from_utf8_lossy` and `serde_json`. -/
structure Reading where
  decode : List UInt8 → List Char
  parseJson : List UInt8 → Option Json

/-- The joined payload of an event's data lines, if it has one. -/
def payload (reading : Reading) (event : List UInt8) : Option (List Char) :=
  let data := ((Text.lines (reading.decode event)).filterMap
    (Text.stripStart "data:".toList)).map Text.trim
  if data.isEmpty then none else some (Text.join ['\n'] data)

/-- `SseUsageParser`. The four-byte ring of the source is the list of the bytes it
holds, oldest first. -/
structure SseUsageParser where
  eventBuf : List UInt8
  eventCap : Nat
  tail : List UInt8
  discarding : Bool
  usage : Option RequestUsage
  eventCount : Nat
  deriving DecidableEq, Repr

namespace SseUsageParser

/-- `SseUsageParser::new`. -/
def new (eventCap : Nat) : SseUsageParser where
  eventBuf := []
  eventCap := eventCap
  tail := []
  discarding := false
  usage := none
  eventCount := 0

/-- The ring after one more byte. -/
def shift (tail : List UInt8) (byte : UInt8) : List UInt8 :=
  if tail.length = 4 then tail.drop 1 ++ [byte] else tail ++ [byte]

/-- A blank line, with either line ending, ends these bytes. -/
def terminated (bytes : List UInt8) : Bool :=
  [10, 10].isSuffixOf bytes || [13, 10, 13, 10].isSuffixOf bytes

/-- `consume_event`: whether the event has a data line, and the usage after it. -/
def consumeEvent (reading : Reading) (parser : SseUsageParser) (event : List UInt8) :
    Bool × Option RequestUsage :=
  match payload reading event with
  | none => (false, parser.usage)
  | some text =>
      if text = "[DONE]".toList then (true, parser.usage)
      else if (reading.parseJson (Text.asBytes text)).isSome then
        (true, (extractUsage reading.parseJson (Text.asBytes text)).or parser.usage)
      else (true, parser.usage)

/-- One turn of the loop of `push`. -/
def pushByte (reading : Reading) (parser : SseUsageParser) (byte : UInt8) : SseUsageParser :=
  let tail := shift parser.tail byte
  if terminated tail then
    let (counted, usage) :=
      if parser.discarding then (false, parser.usage)
      else parser.consumeEvent reading parser.eventBuf
    { parser with
      eventBuf := []
      tail := []
      discarding := false
      usage := usage
      eventCount := if counted then parser.eventCount + 1 else parser.eventCount }
  else if parser.discarding then { parser with tail := tail }
  else if parser.eventBuf.length < parser.eventCap then
    { parser with tail := tail, eventBuf := parser.eventBuf ++ [byte] }
  else { parser with tail := tail, discarding := true }

/-- `SseUsageParser::push`, with the number of events it returns. -/
def push (reading : Reading) (parser : SseUsageParser) (chunk : List UInt8) :
    SseUsageParser × Nat :=
  let pushed := chunk.foldl (pushByte reading) parser
  (pushed, pushed.eventCount - parser.eventCount)

/-- Push every chunk of a stream, with the sum of the returned numbers. -/
def pushAll (reading : Reading) (parser : SseUsageParser) : List (List UInt8) → SseUsageParser × Nat
  | [] => (parser, 0)
  | chunk :: rest =>
      let (pushed, events) := parser.push reading chunk
      let (final, later) := pushAll reading pushed rest
      (final, events + later)

/-! ## The whole-stream reference -/

/-- An event has a line that starts with `data:`. -/
def hasData (reading : Reading) (event : List UInt8) : Bool :=
  (Text.lines (reading.decode event)).any
    (fun line => (Text.stripStart "data:".toList line).isSome)

/-- The content of a segment: all but the last byte of its delimiter. -/
def content (segment : List UInt8) : List UInt8 := segment.dropLast

/-- The segments that count: those that fit the cap and have a data line. -/
def counted (reading : Reading) (cap : Nat) (segments : List (List UInt8)) : List (List UInt8) :=
  segments.filter (fun segment =>
    (content segment).length ≤ cap && hasData reading (content segment))

/-- The complete events of a stream that have a data line, of whatever size. -/
def dataEvents (reading : Reading) (stream : List UInt8) : List (List UInt8) :=
  (Segments.cut terminated stream).done.filter fun segment => hasData reading (content segment)

/-- The usage in a segment's payload. -/
def usageIn (reading : Reading) (segment : List UInt8) : Option RequestUsage :=
  (payload reading (content segment)).bind
    (fun text => extractUsage reading.parseJson (Text.asBytes text))

/-- The usage of a stream: that of the last counting segment that has one. -/
def streamUsage (reading : Reading) (cap : Nat) (segments : List (List UInt8)) :
    Option RequestUsage :=
  ((counted reading cap segments).filterMap (usageIn reading)).getLast?

/-! ## Refinement -/

variable {reading : Reading} {cap : Nat}

/-- An event has a payload exactly when it has a data line. -/
theorem payload_isSome (event : List UInt8) :
    (payload reading event).isSome = hasData reading event := by
  unfold payload hasData
  generalize Text.lines (reading.decode event) = lines
  generalize Text.stripStart "data:".toList = strip
  dsimp only
  induction lines with
  | nil => rfl
  | cons line rest inductionHypothesis =>
    cases found : strip line with
    | none => simpa [found] using inductionHypothesis
    | some data => simp [found]

/-- The last four bytes, or all of them if they are fewer. -/
def lastFour (bytes : List UInt8) : List UInt8 := bytes.drop (bytes.length - 4)

/-- The window moves by a byte. -/
theorem shift_lastFour (bytes : List UInt8) (byte : UInt8) :
    shift (lastFour bytes) byte = lastFour (bytes ++ [byte]) := by
  unfold shift lastFour
  by_cases full : 4 ≤ bytes.length
  · have held : (bytes.drop (bytes.length - 4)).length = 4 := by
      rw [List.length_drop]
      omega
    rw [if_pos held, List.drop_drop, List.length_append, List.length_singleton,
      List.drop_append_of_le_length (by omega)]
    congr 2
    omega
  · have short : (bytes.drop (bytes.length - 4)).length ≠ 4 := by
      rw [List.length_drop]
      omega
    have whole : bytes.length - 4 = 0 := by omega
    have extended : bytes.length + 1 - 4 = 0 := by omega
    rw [if_neg short, List.length_append, List.length_singleton, whole, extended]
    rfl

/-- A delimiter of at most four bytes is seen in the last four. -/
theorem suffix_lastFour {delimiter : List UInt8} (small : delimiter.length ≤ 4)
    (bytes : List UInt8) : delimiter <:+ lastFour bytes ↔ delimiter <:+ bytes := by
  have inner : lastFour bytes <:+ bytes := List.drop_suffix _ _
  constructor
  · intro seen
    exact seen.trans inner
  · intro seen
    refine List.suffix_of_suffix_length_le seen inner ?_
    have fits := seen.length_le
    rw [lastFour, List.length_drop]
    omega

/-- The ring recognises exactly the delimiters of the stream. -/
theorem terminated_lastFour (bytes : List UInt8) :
    terminated (lastFour bytes) = terminated bytes := by
  have newlines : [10, 10] <:+ lastFour bytes ↔ [10, 10] <:+ bytes :=
    suffix_lastFour (by decide) bytes
  have returns : [13, 10, 13, 10] <:+ lastFour bytes ↔ [13, 10, 13, 10] <:+ bytes :=
    suffix_lastFour (by decide) bytes
  rw [← List.isSuffixOf_iff_suffix, ← List.isSuffixOf_iff_suffix] at newlines returns
  unfold terminated
  rw [Bool.eq_iff_iff, Bool.or_eq_true, Bool.or_eq_true, newlines, returns]

/-- The parser keeps step with the cut of the stream: the ring holds the end of
what is pending, the buffer its beginning, and it discards once the cap is passed.
None of this depends on the JSON library. -/
structure Tracks (reading : Reading) (cap : Nat) (parser : SseUsageParser)
    (cut : Segments.Cut UInt8) : Prop where
  eventCap : parser.eventCap = cap
  tail : parser.tail = lastFour cut.pending
  discarding : parser.discarding = decide (cap < cut.pending.length)
  eventBuf : parser.eventBuf = cut.pending.take cap
  eventCount : parser.eventCount = (counted reading cap cut.done).length

/-- It also has the usage of what was cut off. -/
structure Follows (reading : Reading) (cap : Nat) (parser : SseUsageParser)
    (cut : Segments.Cut UInt8) : Prop extends Tracks reading cap parser cut where
  usage : parser.usage = streamUsage reading cap cut.done

variable {event : List UInt8} {byte : UInt8} {segments : List (List UInt8)}

/-- A segment over the cap, or without a data line, does not count. -/
theorem counted_skip (skipped : cap < event.length ∨ hasData reading event = false) :
    counted reading cap (segments ++ [event ++ [byte]]) = counted reading cap segments := by
  have refused : ¬ (event.length ≤ cap ∧ hasData reading event = true) := by
    rcases skipped with long | silent
    · exact fun both => Nat.not_le_of_lt long both.1
    · exact fun both => by simp [silent] at both
  simpa [counted, content] using refused

/-- An event with data counts. -/
theorem counted_take (fits : event.length ≤ cap) (data : hasData reading event = true) :
    counted reading cap (segments ++ [event ++ [byte]]) =
      counted reading cap segments ++ [event ++ [byte]] := by
  simp [counted, content, fits, data]

/-- One without does not. -/
theorem streamUsage_skip (skipped : cap < event.length ∨ hasData reading event = false) :
    streamUsage reading cap (segments ++ [event ++ [byte]]) = streamUsage reading cap segments := by
  rw [streamUsage, counted_skip skipped]
  rfl

/-- The last usage wins; a segment without one keeps the previous usage. -/
theorem streamUsage_take (fits : event.length ≤ cap) (data : hasData reading event = true) :
    streamUsage reading cap (segments ++ [event ++ [byte]]) =
      (usageIn reading (event ++ [byte])).or (streamUsage reading cap segments) := by
  rw [streamUsage, counted_take fits data, List.filterMap_append, List.getLast?_append]
  cases found : usageIn reading (event ++ [byte]) with
  | none => simp [found, streamUsage]
  | some usage => simp [found]

/-- A completed event counts exactly when it has a data line. -/
theorem consumeEvent_counts (parser : SseUsageParser) (event : List UInt8) :
    (parser.consumeEvent reading event).1 = hasData reading event := by
  rw [← payload_isSome, consumeEvent]
  cases payload reading event with
  | none => rfl
  | some text =>
    dsimp only
    split
    · rfl
    · split <;> rfl

/-- A completed event updates the usage as its segment does. -/
theorem consumeEvent_usage {parser : SseUsageParser}
    (undone : reading.parseJson (Text.asBytes "[DONE]".toList) = none)
    (fits : event.length ≤ cap) (usage : parser.usage = streamUsage reading cap segments) :
    (parser.consumeEvent reading event).2 =
      streamUsage reading cap (segments ++ [event ++ [byte]]) := by
  have known : (payload reading event).isSome = hasData reading event := payload_isSome event
  unfold consumeEvent
  cases found : payload reading event with
  | none =>
    have silent : hasData reading event = false := by simpa [found] using known.symm
    exact usage.trans (streamUsage_skip (.inr silent)).symm
  | some text =>
    have data : hasData reading event = true := by simpa [found] using known.symm
    have inside : usageIn reading (event ++ [byte]) =
        extractUsage reading.parseJson (Text.asBytes text) := by
      simp [usageIn, content, found]
    rw [streamUsage_take fits data, inside, ← usage]
    dsimp only
    split
    · rename_i done
      rw [done, extractUsage, undone]
      rfl
    · split
      · rfl
      · rename_i unparsed
        rw [Bool.not_eq_true, Option.isSome_eq_false_iff, Option.isNone_iff_eq_none] at unparsed
        rw [extractUsage, unparsed]
        rfl

/-- A new parser stands at the beginning of the stream. -/
theorem new_tracks (reading : Reading) (cap : Nat) : Tracks reading cap (new cap) ⟨[], []⟩ :=
  ⟨rfl, rfl, by simp [new], by simp [new], rfl⟩

section

variable {parser : SseUsageParser} {cut : Segments.Cut UInt8}

/-- The ring recognises the end of the pending event. -/
theorem Tracks.recognises (tracks : Tracks reading cap parser cut) (byte : UInt8) :
    terminated (shift parser.tail byte) = terminated (cut.pending ++ [byte]) := by
  rw [tracks.tail, shift_lastFour, terminated_lastFour]

/-- An event that fits is buffered whole. -/
theorem Tracks.whole (tracks : Tracks reading cap parser cut) (fits : cut.pending.length ≤ cap) :
    parser.eventBuf = cut.pending ∧ ¬ parser.discarding = true := by
  refine ⟨?_, by simp [tracks.discarding, fits]⟩
  rw [tracks.eventBuf, List.take_of_length_le fits]

/-- One byte keeps the parser on the track of the cut. -/
theorem pushByte_tracks (byte : UInt8) (tracks : Tracks reading cap parser cut) :
    Tracks reading cap (parser.pushByte reading byte) (Segments.push terminated cut byte) := by
  have ring : shift parser.tail byte = lastFour (cut.pending ++ [byte]) := by
    rw [tracks.tail, shift_lastFour]
  unfold pushByte Segments.push
  dsimp only
  rw [tracks.recognises]
  by_cases long : cap < cut.pending.length
  · -- The pending event is being discarded.
    have discards : parser.discarding = true := by simp [tracks.discarding, long]
    rw [if_pos discards, if_pos discards]
    split
    · refine ⟨tracks.eventCap, rfl, by simp, by simp, ?_⟩
      rw [counted_skip (.inl long)]
      exact tracks.eventCount
    · refine ⟨tracks.eventCap, ring, ?_, ?_, tracks.eventCount⟩
      · rw [discards, List.length_append, List.length_singleton]
        exact (decide_eq_true (by omega)).symm
      · rw [List.take_append_of_le_length (Nat.le_of_lt long)]
        exact tracks.eventBuf
  · -- The buffer is the whole pending event.
    have fits : cut.pending.length ≤ cap := Nat.le_of_not_lt long
    obtain ⟨whole, keeps⟩ := tracks.whole fits
    rw [if_neg keeps, if_neg keeps, whole, tracks.eventCap]
    split
    · have counts := @consumeEvent_counts reading parser cut.pending
      refine ⟨rfl, rfl, by simp, by simp, ?_⟩
      cases data : hasData reading cut.pending with
      | true => simp [counts, data, counted_take fits data, tracks.eventCount]
      | false => simp [counts, data, counted_skip (.inr data), tracks.eventCount]
    · split
      · rename_i room
        refine ⟨rfl, ring, ?_, ?_, tracks.eventCount⟩
        · rw [tracks.discarding, List.length_append, List.length_singleton]
          simp only [decide_eq_decide]
          omega
        · rw [List.take_of_length_le]
          rw [List.length_append, List.length_singleton]
          exact room
      · rename_i full
        have brim : cut.pending.length = cap := by omega
        refine ⟨rfl, ring, ?_, ?_, tracks.eventCount⟩
        · rw [List.length_append, List.length_singleton]
          exact (decide_eq_true (by omega)).symm
        · rw [List.take_append_of_le_length (Nat.le_of_eq brim.symm), ← brim, List.take_length]

/-- The usage after one more byte is that of the segments completed by then. -/
theorem pushByte_usage (undone : reading.parseJson (Text.asBytes "[DONE]".toList) = none)
    (byte : UInt8) (follows : Follows reading cap parser cut) :
    (parser.pushByte reading byte).usage =
      streamUsage reading cap (Segments.push terminated cut byte).done := by
  unfold pushByte Segments.push
  dsimp only
  rw [follows.toTracks.recognises]
  split
  · by_cases long : cap < cut.pending.length
    · have discards : parser.discarding = true := by simp [follows.discarding, long]
      rw [if_pos discards, streamUsage_skip (.inl long)]
      exact follows.usage
    · have fits : cut.pending.length ≤ cap := Nat.le_of_not_lt long
      obtain ⟨whole, keeps⟩ := follows.toTracks.whole fits
      rw [if_neg keeps, whole]
      exact consumeEvent_usage undone fits follows.usage
  · split
    · exact follows.usage
    · split <;> exact follows.usage

/-- One byte keeps the parser in step with the cut. -/
theorem pushByte_follows (undone : reading.parseJson (Text.asBytes "[DONE]".toList) = none)
    (byte : UInt8) (follows : Follows reading cap parser cut) :
    Follows reading cap (parser.pushByte reading byte) (Segments.push terminated cut byte) :=
  ⟨pushByte_tracks byte follows.toTracks, pushByte_usage undone byte follows⟩

end

/-- A chunk keeps the parser on the track of the stream. -/
theorem Tracks.push {parser : SseUsageParser} {seen : List UInt8}
    (tracks : Tracks reading cap parser (Segments.cut terminated seen)) (chunk : List UInt8) :
    Tracks reading cap (parser.push reading chunk).1
      (Segments.cut terminated (seen ++ chunk)) := by
  rw [Segments.cut_append]
  exact Segments.fold_related (pushByte reading) (Tracks reading cap) tracks
    fun _ _ byte => pushByte_tracks byte

/-- Events that are complete stay so when the stream goes on. -/
theorem dataEvents_append_left (front back : List UInt8) :
    dataEvents reading front <+: dataEvents reading (front ++ back) :=
  (Segments.cut_done_append_left front back).filter _

/-- A beginning without a data event has none at any earlier point. -/
theorem dataEvents_nil_of_append {front stream : List UInt8} (part : front <+: stream)
    (nothing : dataEvents reading stream = []) : dataEvents reading front = [] := by
  obtain ⟨back, rfl⟩ := part
  have inside := @dataEvents_append_left reading front back
  rw [nothing] at inside
  exact List.prefix_nil.mp inside

/-- In a stream no longer than the cap every data event counts. -/
theorem counted_within {stream : List UInt8} (fits : stream.length ≤ cap) :
    counted reading cap (Segments.cut terminated stream).done = dataEvents reading stream := by
  refine List.filter_congr ?_
  intro segment member
  have short := Segments.segment_length_le member
  have kept : (content segment).length ≤ cap := by
    rw [content, List.length_dropLast]
    omega
  rw [decide_eq_true kept, Bool.true_and]

/-- The counter never goes back. -/
theorem eventCount_le (parser : SseUsageParser) (bytes : List UInt8) :
    parser.eventCount ≤ (bytes.foldl (pushByte reading) parser).eventCount := by
  induction bytes generalizing parser with
  | nil => exact Nat.le_refl _
  | cons byte rest inductionHypothesis =>
    refine Nat.le_trans ?_ (inductionHypothesis (parser.pushByte reading byte))
    unfold pushByte
    dsimp only
    split
    · split
      · exact Nat.le_refl _
      · split
        · exact Nat.le_succ _
        · exact Nat.le_refl _
    · split
      · exact Nat.le_refl _
      · split <;> exact Nat.le_refl _

/-- The chunks of a stream are pushed one after another: the parser ends where it
would on the whole stream, and the numbers add up to the counter. -/
theorem pushAll_eq (parser : SseUsageParser) (chunks : List (List UInt8)) :
    (parser.pushAll reading chunks).1 = chunks.flatten.foldl (pushByte reading) parser ∧
      (parser.pushAll reading chunks).2 + parser.eventCount =
        (parser.pushAll reading chunks).1.eventCount := by
  induction chunks generalizing parser with
  | nil => exact ⟨rfl, Nat.zero_add _⟩
  | cons chunk rest inductionHypothesis =>
    obtain ⟨whole, sum⟩ := inductionHypothesis (parser.push reading chunk).1
    refine ⟨?_, ?_⟩
    · simp only [pushAll, List.flatten_cons, List.foldl_append]
      exact whole
    · have grows : parser.eventCount ≤ (parser.push reading chunk).1.eventCount :=
        eventCount_le parser chunk
      simp only [pushAll]
      simp only [push] at sum grows ⊢
      omega

/-- The incremental parser refines the whole-stream reference. For every stream,
every way of cutting it into chunks and every cap, the numbers `push` returned add
up to the number of completed segments that fit the cap and have a data line, the
usage is that of the last of them that has one, and the buffer stays within the
cap. The JSON library does not accept `[DONE]`.

Proof: by induction on the bytes, the parser follows the cut of the stream. -/
theorem sse_parser_refines_reference
    (undone : reading.parseJson (Text.asBytes "[DONE]".toList) = none) (cap : Nat)
    (chunks : List (List UInt8)) :
    let segments := (Segments.cut terminated chunks.flatten).done
    let pushed := (new cap).pushAll reading chunks
    pushed.2 = (counted reading cap segments).length ∧
      pushed.1.eventCount = pushed.2 ∧
      pushed.1.usage = streamUsage reading cap segments ∧
      pushed.1.eventBuf.length ≤ cap := by
  have fresh : Follows reading cap (new cap) ⟨[], []⟩ := ⟨new_tracks reading cap, rfl⟩
  have follows : Follows reading cap (chunks.flatten.foldl (pushByte reading) (new cap))
      (Segments.cut terminated chunks.flatten) :=
    Segments.cut_related (pushByte reading) (Follows reading cap) fresh
      fun parser cut byte => pushByte_follows undone byte
  have whole : ((new cap).pushAll reading chunks).1 =
      chunks.flatten.foldl (pushByte reading) (new cap) := (pushAll_eq (new cap) chunks).1
  have total : ((new cap).pushAll reading chunks).2 =
      ((new cap).pushAll reading chunks).1.eventCount := (pushAll_eq (new cap) chunks).2
  rw [whole] at total
  dsimp only
  rw [whole, total]
  refine ⟨follows.eventCount, rfl, follows.usage, ?_⟩
  rw [follows.eventBuf, List.length_take]
  exact Nat.min_le_left _ _

/-- ASCII text and a library that accepts one document, written `u`. -/
def sampleReading : Reading where
  decode := fun bytes => bytes.map (fun byte => Char.ofNat byte.toNat)
  parseJson := fun bytes =>
    if bytes = Text.asBytes ['u'] then
      some (.object [("usage", .object [("prompt_tokens", .unsigned 7),
        ("completion_tokens", .unsigned 3)])])
    else none

/-- Two events, the first with a delimiter that falls across the chunks. -/
def sampleChunks : List (List UInt8) :=
  [Text.asBytes "data: u\r".toList, Text.asBytes "\n\r\ndata: [DONE]\n\n".toList]

/-- Both events are counted, and the usage is that of the first. -/
theorem sse_parser_refines_reference_sample :
    ((new 64).pushAll sampleReading sampleChunks).2 = 2 ∧
      ((new 64).pushAll sampleReading sampleChunks).1.usage =
        some ⟨7, 0, 7, none, 3, none⟩ ∧
      ((new 64).pushAll sampleReading sampleChunks).1.eventBuf.length ≤ 64 := by
  have undone : sampleReading.parseJson (Text.asBytes "[DONE]".toList) = none := by
    decide +kernel
  obtain ⟨events, _, usage, bounded⟩ := sse_parser_refines_reference undone 64 sampleChunks
  have two : (counted sampleReading 64
      (Segments.cut terminated sampleChunks.flatten).done).length = 2 := by decide +kernel
  have seven : streamUsage sampleReading 64 (Segments.cut terminated sampleChunks.flatten).done =
      some ⟨7, 0, 7, none, 3, none⟩ := by decide +kernel
  exact ⟨events.trans two, usage.trans seven, bounded⟩

end SseUsageParser

end Orihsus.Gateway
