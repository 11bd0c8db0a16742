import Orihsus.Upstream

/-!
# The pre-commit decision and the cutting of the stream

Before anything is sent to the client, `prepare_response` reads an event stream until the
first complete event with a data field, within a cap on what it buffers. It adds each chunk
to its total and compares the total with the cap before it looks into the chunk. So the cap
bounds the chunks and not the events: a chunk in which the awaited event ends within the cap,
but which itself runs past it, ends the attempt.

The module settles which cuttings of a stream lead to the decision that its bytes call for.
-/

namespace Orihsus.Gateway

open SseUsageParser (dataEvents Tracks)

/-- The chunks that a body carries before it ends or fails. -/
def bodyChunks : Body → List (List UInt8)
  | [] => []
  | arrival :: rest =>
      match arrival.event with
      | .chunk bytes => bytes :: bodyChunks rest
      | .failed | .ended => []

/-- The chunks make up the body. -/
theorem bodyChunks_flatten (body : Body) : (bodyChunks body).flatten = bodyBytes body := by
  induction body with
  | nil => rfl
  | cons arrival rest inductionHypothesis =>
    obtain ⟨time, event⟩ := arrival
    cases event with
    | chunk bytes =>
      rw [bodyChunks, bodyBytes, List.flatten_cons, inductionHypothesis]
    | failed | ended => rfl

variable {reading : Reading} {cap : Nat}

/-- Some first chunks stay within the cap and complete a data event. -/
def CompletesWithin (reading : Reading) (cap : Nat) (seen : List UInt8)
    (chunks : List (List UInt8)) : Prop :=
  ∃ front, front <+: chunks ∧ (seen ++ front.flatten).length ≤ cap ∧
    dataEvents reading (seen ++ front.flatten) ≠ []

/-- The first data event ends within the cap, in a chunk that runs past it. -/
def Straddles (reading : Reading) (cap : Nat) (seen : List UInt8)
    (chunks : List (List UInt8)) : Prop :=
  ∃ front chunk, front ++ [chunk] <+: chunks ∧ dataEvents reading (seen ++ front.flatten) = [] ∧
    dataEvents reading ((seen ++ front.flatten ++ chunk).take cap) ≠ [] ∧
    cap < (seen ++ front.flatten ++ chunk).length

/-! ## The prefetch of a cutting -/

/-- The prefetch has seen these bytes, within the cap and without a data event. -/
structure Searching (reading : Reading) (cap : Nat) (seen : List UInt8) (held : Prefetch) :
    Prop where
  total : held.total = seen.length
  within : seen.length ≤ cap
  detector : Tracks reading cap held.detector (Segments.cut SseUsageParser.terminated seen)
  nothing : dataEvents reading seen = []

variable {seen : List UInt8} {held : Prefetch} {attemptStart deadline now : Nat}

/-- The detector reports an event exactly when the chunk completes the first one. -/
theorem Searching.reports (searching : Searching reading cap seen held) {bytes : List UInt8}
    (fits : (seen ++ bytes).length ≤ cap) :
    0 < (held.detector.push reading bytes).2 ↔ dataEvents reading (seen ++ bytes) ≠ [] := by
  have before : held.detector.eventCount = 0 := by
    rw [searching.detector.eventCount, SseUsageParser.counted_within searching.within,
      searching.nothing]
    rfl
  have after : (held.detector.push reading bytes).1.eventCount =
      (dataEvents reading (seen ++ bytes)).length := by
    rw [(searching.detector.push bytes).eventCount, SseUsageParser.counted_within fits]
  have difference : (held.detector.push reading bytes).2 =
      (held.detector.push reading bytes).1.eventCount - held.detector.eventCount := rfl
  rw [difference, before, after, Nat.sub_zero]
  exact List.length_pos_iff

/-- A chunk that stays within the cap and completes nothing is searched. -/
theorem Searching.keep (searching : Searching reading cap seen held) {bytes : List UInt8}
    {elapsed : Nat} (fits : (seen ++ bytes).length ≤ cap)
    (nothing : dataEvents reading (seen ++ bytes) = []) :
    Searching reading cap (seen ++ bytes) ((held.count bytes elapsed).keep reading bytes) where
  total := by
    rw [List.length_append, ← searching.total]
    rfl
  within := fits
  detector := searching.detector.push bytes
  nothing := nothing

/-- A first chunk that completes nothing only adds to what was seen. -/
theorem completesWithin_cons {bytes : List UInt8} {rest : List (List UInt8)}
    (before : dataEvents reading seen = []) :
    CompletesWithin reading cap seen (bytes :: rest) ↔
      CompletesWithin reading cap (seen ++ bytes) rest := by
  constructor
  · rintro ⟨front, part, fits, completes⟩
    cases front with
    | nil =>
      rw [List.flatten_nil, List.append_nil] at completes
      exact absurd before completes
    | cons first others =>
      obtain ⟨rfl, shorter⟩ := List.cons_prefix_cons.mp part
      rw [List.flatten_cons, ← List.append_assoc] at fits completes
      exact ⟨others, shorter, fits, completes⟩
  · rintro ⟨front, part, fits, completes⟩
    refine ⟨bytes :: front, List.cons_prefix_cons.mpr ⟨rfl, part⟩, ?_, ?_⟩
    · rw [List.flatten_cons, ← List.append_assoc]
      exact fits
    · rw [List.flatten_cons, ← List.append_assoc]
      exact completes

/-- A prefetch that meets neither its deadline nor an error commits exactly when some first
chunks stay within the cap and complete a data event. -/
theorem prefetchLoop_commits_iff {body : Body} (searching : Searching reading cap seen held)
    (untroubled : ∀ reason,
      (prefetchLoop reading cap attemptStart deadline held now body).result = .error reason →
        reason = .endBeforeFirstEvent) :
    (∃ latency,
        (prefetchLoop reading cap attemptStart deadline held now body).result = .ok latency) ↔
      CompletesWithin reading cap seen (bodyChunks body) := by
  induction body generalizing seen held now with
  | nil => cases untroubled _ rfl
  | cons arrival rest inductionHypothesis =>
    obtain ⟨time, event⟩ := arrival
    unfold prefetchLoop at untroubled ⊢
    by_cases inTime : Arrival.inTime ⟨time, event⟩ now deadline = true
    · rw [if_pos inTime] at untroubled ⊢
      cases event with
      | failed => cases untroubled _ rfl
      | ended =>
        constructor
        · rintro ⟨latency, same⟩
          cases same
        · rintro ⟨front, part, _, completes⟩
          rw [bodyChunks] at part
          rw [List.prefix_nil.mp part, List.flatten_nil, List.append_nil] at completes
          exact absurd searching.nothing completes
      | chunk bytes =>
        dsimp only at untroubled ⊢
        have total : (held.count bytes (max now time - attemptStart)).total =
            (seen ++ bytes).length := by
          rw [List.length_append, ← searching.total]
          rfl
        rw [bodyChunks, completesWithin_cons searching.nothing]
        rw [total] at untroubled ⊢
        by_cases exceeds : cap < (seen ++ bytes).length
        · -- Everything from here on is past the cap.
          rw [if_pos exceeds]
          constructor
          · rintro ⟨latency, same⟩
            cases same
          · rintro ⟨front, _, fits, _⟩
            rw [List.length_append] at fits
            omega
        · have fits : (seen ++ bytes).length ≤ cap := Nat.le_of_not_lt exceeds
          rw [if_neg exceeds] at untroubled ⊢
          by_cases completes : dataEvents reading (seen ++ bytes) = []
          · have silent : ¬ 0 < (held.detector.push reading bytes).2 := by
              rw [searching.reports fits]
              exact fun some => some completes
            rw [if_neg silent] at untroubled ⊢
            exact inductionHypothesis (searching.keep fits completes) untroubled
          · rw [if_pos ((searching.reports fits).mpr completes)]
            refine iff_of_true ⟨_, rfl⟩ ⟨[], List.nil_prefix, ?_, ?_⟩
            · rw [List.flatten_nil, List.append_nil]
              exact fits
            · rw [List.flatten_nil, List.append_nil]
              exact completes
    · rw [if_neg inTime] at untroubled
      cases untroubled _ rfl

/-! ## Cuttings and bytes -/

/-- First chunks within the cap are a beginning of the bytes within the cap. -/
theorem completesWithin_bytes {chunks : List (List UInt8)}
    (within : CompletesWithin reading cap seen chunks) :
    dataEvents reading ((seen ++ chunks.flatten).take cap) ≠ [] := by
  obtain ⟨front, ⟨back, rfl⟩, fits, completes⟩ := within
  intro nothing
  refine completes (SseUsageParser.dataEvents_nil_of_append ?_ nothing)
  rw [List.flatten_append, ← List.append_assoc]
  exact List.prefix_take_iff.mpr ⟨List.prefix_append _ _, fits⟩

/-- A data event within the cap is completed by chunks within the cap, or in one that runs
past it. -/
theorem completesWithin_or_straddles {chunks : List (List UInt8)}
    (before : dataEvents reading seen = [])
    (completes : dataEvents reading ((seen ++ chunks.flatten).take cap) ≠ []) :
    CompletesWithin reading cap seen chunks ∨ Straddles reading cap seen chunks := by
  induction chunks generalizing seen with
  | nil =>
    rw [List.flatten_nil, List.append_nil] at completes
    exact absurd (SseUsageParser.dataEvents_nil_of_append (List.take_prefix _ _) before) completes
  | cons chunk rest inductionHypothesis =>
    rw [List.flatten_cons, ← List.append_assoc] at completes
    by_cases silent : dataEvents reading (seen ++ chunk) = []
    · rcases inductionHypothesis silent completes with within | ⟨front, last, part, rest_⟩
      · exact .inl ((completesWithin_cons before).mpr within)
      · refine .inr ⟨chunk :: front, last, ?_, ?_⟩
        · rw [List.cons_append]
          exact List.cons_prefix_cons.mpr ⟨rfl, part⟩
        · rw [List.flatten_cons, ← List.append_assoc]
          exact rest_
    · by_cases fits : (seen ++ chunk).length ≤ cap
      · refine .inl ⟨[chunk], List.cons_prefix_cons.mpr ⟨rfl, List.nil_prefix⟩, ?_, ?_⟩
        · rw [List.flatten_singleton]
          exact fits
        · rw [List.flatten_singleton]
          exact silent
      · have past : cap < (seen ++ chunk).length := Nat.lt_of_not_le fits
        rw [List.take_append_of_le_length (Nat.le_of_lt past)] at completes
        refine .inr ⟨[], chunk, List.cons_prefix_cons.mpr ⟨rfl, List.nil_prefix⟩, ?_, ?_, ?_⟩
        · rw [List.flatten_nil, List.append_nil]
          exact before
        · rw [List.flatten_nil, List.append_nil]
          exact completes
        · rw [List.flatten_nil, List.append_nil]
          exact past

/-- A cutting that straddles has the event within the cap, but no chunks within the cap that
complete it. -/
theorem Straddles.not_completesWithin {chunks : List (List UInt8)}
    (straddles : Straddles reading cap seen chunks) :
    dataEvents reading ((seen ++ chunks.flatten).take cap) ≠ [] ∧
      ¬ CompletesWithin reading cap seen chunks := by
  obtain ⟨front, chunk, part, before, completes, past⟩ := straddles
  constructor
  · obtain ⟨back, rfl⟩ := part
    rw [List.flatten_append, List.flatten_append, List.flatten_singleton, ← List.append_assoc,
      ← List.append_assoc, List.take_append_of_le_length (Nat.le_of_lt past)]
    exact completes
  · rintro ⟨other, otherPart, fits, event⟩
    rcases List.prefix_or_prefix_of_prefix part otherPart with longer | shorter
    · -- These chunks hold the one that runs past the cap.
      obtain ⟨more, rfl⟩ := longer
      rw [List.flatten_append, List.flatten_append, List.flatten_singleton, ← List.append_assoc,
        ← List.append_assoc, List.length_append] at fits
      omega
    · -- These chunks come before it, or end with it.
      rcases List.prefix_concat_iff.mp shorter with same | earlier
      · rw [same, List.flatten_append, List.flatten_singleton, ← List.append_assoc] at fits
        omega
      · obtain ⟨more, rfl⟩ := earlier
        rw [List.flatten_append, ← List.append_assoc] at before
        exact event (SseUsageParser.dataEvents_nil_of_append (List.prefix_append _ _) before)

/-! ## The decision -/

/-- `prepare_response` commits. -/
def Commits (reading : Reading) (response : Response) (timeouts : EventTimeouts)
    (cap attemptStart now : Nat) : Prop :=
  ∃ prepared, (prepareResponse reading response timeouts cap attemptStart now).2 = .ok prepared

/-- The prefetch meets neither a timeout nor a transport error. -/
def Untroubled (reading : Reading) (response : Response) (timeouts : EventTimeouts)
    (cap attemptStart now : Nat) : Prop :=
  ∀ reason, (prefetch reading response timeouts cap attemptStart now).result = .error reason →
    reason = .endBeforeFirstEvent

variable {response left right : Response} {timeouts : EventTimeouts}

/-- It commits once an event is complete. -/
theorem commits_iff (streaming : isStreaming response = true)
    (untroubled : Untroubled reading response timeouts cap attemptStart now) :
    Commits reading response timeouts cap attemptStart now ↔
      CompletesWithin reading cap [] (bodyChunks response.body) := by
  have fresh : Searching reading cap [] (Prefetch.start cap) :=
    ⟨rfl, Nat.zero_le cap, SseUsageParser.new_tracks reading cap, rfl⟩
  have ends : prefetchLoop reading cap attemptStart (now + timeouts.firstEventTimeout)
      (Prefetch.start cap) now response.body =
        prefetch reading response timeouts cap attemptStart now := rfl
  rw [← prefetchLoop_commits_iff fresh untroubled, ends, Commits, prepareResponse, streaming]
  rw [if_neg (by decide)]
  dsimp only
  cases (prefetch reading response timeouts cap attemptStart now).result with
  | ok latency => exact iff_of_true ⟨_, rfl⟩ ⟨latency, rfl⟩
  | error reason =>
    constructor
    · rintro ⟨prepared, same⟩
      cases same
    · rintro ⟨latency, same⟩
      cases same

/-- One cutting is decided by its bytes exactly if it does not straddle. -/
theorem decided_by_bytes_iff (streaming : isStreaming response = true)
    (untroubled : Untroubled reading response timeouts cap attemptStart now) :
    (Commits reading response timeouts cap attemptStart now ↔
        dataEvents reading ((bodyBytes response.body).take cap) ≠ []) ↔
      ¬ Straddles reading cap [] (bodyChunks response.body) := by
  rw [commits_iff streaming untroubled, ← bodyChunks_flatten]
  constructor
  · intro decided straddles
    obtain ⟨completes, missed⟩ := straddles.not_completesWithin
    exact missed (decided.mpr completes)
  · intro aligned
    constructor
    · exact completesWithin_bytes
    · intro completes
      exact (completesWithin_or_straddles rfl completes).resolve_right aligned

/-- When the pre-commit decision depends on the bytes alone. For every stream of bytes and
any two cuttings of it that are read without a timeout or an error, `prepare_response`
commits under both or under neither, namely when a data event is complete within the cap,
exactly if in neither cutting the chunk in which the first data event ends within the cap
runs past the cap.

Proof: the decision on each cutting is compared with the one by the bytes. -/
theorem precommit_chunking_iff (streamingLeft : isStreaming left = true)
    (streamingRight : isStreaming right = true)
    (sameBytes : bodyBytes left.body = bodyBytes right.body)
    (untroubledLeft : Untroubled reading left timeouts cap attemptStart now)
    (untroubledRight : Untroubled reading right timeouts cap attemptStart now) :
    ((Commits reading left timeouts cap attemptStart now ↔
        Commits reading right timeouts cap attemptStart now) ∧
      (Commits reading left timeouts cap attemptStart now ↔
        dataEvents reading ((bodyBytes left.body).take cap) ≠ [])) ↔
      ¬ Straddles reading cap [] (bodyChunks left.body) ∧
        ¬ Straddles reading cap [] (bodyChunks right.body) := by
  rw [← decided_by_bytes_iff streamingLeft untroubledLeft,
    ← decided_by_bytes_iff streamingRight untroubledRight, ← sameBytes]
  constructor
  · rintro ⟨agree, decided⟩
    exact ⟨decided, agree.symm.trans decided⟩
  · rintro ⟨decidedLeft, decidedRight⟩
    exact ⟨decidedLeft.trans decidedRight.symm, decidedLeft⟩

/-- Chunks that stay within the cap altogether straddle nothing. -/
theorem not_straddles_short {chunks : List (List UInt8)} (short : chunks.flatten.length ≤ cap) :
    ¬ Straddles reading cap [] chunks := by
  rintro ⟨front, chunk, ⟨back, rfl⟩, _, _, past⟩
  rw [List.flatten_append, List.flatten_append, List.flatten_singleton, List.length_append] at short
  rw [List.nil_append] at past
  omega

/-- An event stream in these chunks, all of them there at once. -/
def streamOf (chunks : List (List UInt8)) : Response where
  status := 200
  headers := [("content-type".toList, Text.asBytes "text/event-stream".toList)]
  body := chunks.map (fun bytes => ⟨0, .chunk bytes⟩) ++ [⟨0, .ended⟩]

/-- An event with a data field, nine bytes long. -/
def sampleEvent : List UInt8 := Text.asBytes "data: u\n\n".toList

/-- The same two events in two chunks, and in one. -/
def twoChunks : Response := streamOf [sampleEvent, sampleEvent]

def oneChunk : Response := streamOf [sampleEvent ++ sampleEvent]

open SseUsageParser (sampleReading)

/-- Under a cap of twelve bytes the first event is committed when it comes in a chunk of its
own, and the attempt is given up when both come in one chunk. -/
theorem chunk_past_cap_refused :
    bodyBytes twoChunks.body = bodyBytes oneChunk.body ∧
      dataEvents sampleReading ((bodyBytes oneChunk.body).take 12) ≠ [] ∧
      Untroubled sampleReading twoChunks ⟨5, 5⟩ 12 0 0 ∧
      Untroubled sampleReading oneChunk ⟨5, 5⟩ 12 0 0 ∧
      Commits sampleReading twoChunks ⟨5, 5⟩ 12 0 0 ∧
      ¬ Commits sampleReading oneChunk ⟨5, 5⟩ 12 0 0 := by
  have first : (prefetch sampleReading twoChunks ⟨5, 5⟩ 12 0 0).result.isOk = true := by
    decide +kernel
  have given : (prefetch sampleReading oneChunk ⟨5, 5⟩ 12 0 0).result =
      .error .endBeforeFirstEvent := by decide +kernel
  have untroubledTwo : Untroubled sampleReading twoChunks ⟨5, 5⟩ 12 0 0 := by
    intro reason failed
    rw [failed] at first
    cases first
  have untroubledOne : Untroubled sampleReading oneChunk ⟨5, 5⟩ 12 0 0 := by
    intro reason failed
    rw [given] at failed
    cases failed
    rfl
  refine ⟨by decide +kernel, by decide +kernel, untroubledTwo, untroubledOne, ?_, ?_⟩
  · rw [commits_iff (by decide +kernel) untroubledTwo]
    exact ⟨[sampleEvent], ⟨[sampleEvent], by decide +kernel⟩, by decide +kernel, by decide +kernel⟩
  · rintro ⟨prepared, committed⟩
    have refused : (prepareResponse sampleReading oneChunk ⟨5, 5⟩ 12 0 0).2.isOk = false := by
      decide +kernel
    rw [committed] at refused
    cases refused

/-- Under a cap that holds both events the two cuttings are decided alike. -/
theorem precommit_chunking_iff_wide :
    (Commits sampleReading twoChunks ⟨5, 5⟩ 18 0 0 ↔ Commits sampleReading oneChunk ⟨5, 5⟩ 18 0 0) ∧
      (Commits sampleReading twoChunks ⟨5, 5⟩ 18 0 0 ↔
        dataEvents sampleReading ((bodyBytes twoChunks.body).take 18) ≠ []) := by
  have untroubled {response : Response}
      (first : (prefetch sampleReading response ⟨5, 5⟩ 18 0 0).result.isOk = true) :
      Untroubled sampleReading response ⟨5, 5⟩ 18 0 0 := by
    intro reason failed
    rw [failed] at first
    cases first
  refine (precommit_chunking_iff (by decide +kernel) (by decide +kernel) (by decide +kernel)
    (untroubled (by decide +kernel)) (untroubled (by decide +kernel))).mpr ⟨?_, ?_⟩
  · exact not_straddles_short (by decide +kernel)
  · exact not_straddles_short (by decide +kernel)

end Orihsus.Gateway
