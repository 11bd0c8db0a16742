import Orihsus.Streaming

/-!
# The bounded collectors

Two readers of `src/gateway.rs` keep a body only while it fits a cap: the side-band parser
of a JSON response and the classification read of an error body. Both subtract the length
they hold from the cap and compare the next chunk with the rest. What they end with is a
function of the bytes alone: the whole body if it fits the cap and nothing of it otherwise,
however it was cut and wherever chunks were empty.

Along the way no buffer exceeds its cap, so the subtraction is exact and does not wrap.
-/

namespace Orihsus.Gateway

namespace JsonUsageParser

/-- The parser after a sequence of chunks. -/
def pushAll (parser : JsonUsageParser) (chunks : List (List UInt8)) : JsonUsageParser :=
  chunks.foldl push parser

/-- The parser holds what it has seen as long as that fits the cap, and has forgotten it
from then on. -/
structure Collects (cap : Nat) (seen : List UInt8) (parser : JsonUsageParser) : Prop where
  capped : parser.cap = cap
  overflowed : parser.overflowed = true ↔ cap < seen.length
  held : seen.length ≤ cap → parser.buf = seen
  forgotten : cap < seen.length → parser.buf = []

variable {cap : Nat} {seen : List UInt8} {parser : JsonUsageParser}

/-- A new parser has seen nothing. -/
theorem new_collects (cap : Nat) : Collects cap [] (new cap) where
  capped := rfl
  overflowed := iff_of_false Bool.false_ne_true (Nat.not_lt_zero cap)
  held _ := rfl
  forgotten _ := rfl

/-- The buffer is within the cap. -/
theorem Collects.bounded (collects : Collects cap seen parser) :
    parser.buf.length ≤ parser.cap := by
  rw [collects.capped]
  by_cases fits : seen.length ≤ cap
  · rw [collects.held fits]
    exact fits
  · rw [collects.forgotten (Nat.lt_of_not_le fits)]
    exact Nat.zero_le cap

/-- One more chunk, empty or not. -/
theorem Collects.push (collects : Collects cap seen parser) (chunk : List UInt8) :
    Collects cap (seen ++ chunk) (parser.push chunk) := by
  have longer : (seen ++ chunk).length = seen.length + chunk.length := List.length_append
  by_cases fitted : seen.length ≤ cap
  · have kept : ¬ parser.overflowed = true := by
      rw [collects.overflowed]
      omega
    unfold JsonUsageParser.push
    rw [if_neg kept, collects.held fitted, collects.capped]
    by_cases fits : chunk.length ≤ cap - seen.length
    · rw [if_pos fits]
      constructor
      · rfl
      · exact iff_of_false kept (by omega)
      · intro _
        rfl
      · intro over_
        omega
    · rw [if_neg fits]
      constructor
      · rfl
      · exact iff_of_true rfl (by omega)
      · intro within
        omega
      · intro _
        rfl
  · have over_ : cap < seen.length := Nat.lt_of_not_le fitted
    unfold JsonUsageParser.push
    rw [if_pos (collects.overflowed.mpr over_)]
    constructor
    · exact collects.capped
    · exact iff_of_true (collects.overflowed.mpr over_) (by omega)
    · intro within
      omega
    · intro _
      exact collects.forgotten over_

/-- Several chunks are seen in turn. -/
theorem Collects.pushAll (collects : Collects cap seen parser) (chunks : List (List UInt8)) :
    Collects cap (seen ++ chunks.flatten) (parser.pushAll chunks) := by
  induction chunks generalizing seen parser with
  | nil =>
    rw [List.flatten_nil, List.append_nil]
    exact collects
  | cons chunk rest inductionHypothesis =>
    rw [List.flatten_cons, ← List.append_assoc]
    exact inductionHypothesis (collects.push chunk)

/-- A body in any chunks. -/
theorem new_pushAll (cap : Nat) (chunks : List (List UInt8)) :
    Collects cap chunks.flatten ((new cap).pushAll chunks) := by
  simpa using (new_collects cap).pushAll chunks

/-- The usage is that of the whole body, if the body fits. -/
theorem Collects.usage (collects : Collects cap seen parser) (reading : Reading) :
    parser.usage reading =
      if seen.length ≤ cap then extractUsage reading.parseJson seen else none := by
  unfold JsonUsageParser.usage
  by_cases fits : seen.length ≤ cap
  · have kept : ¬ parser.overflowed = true := by
      rw [collects.overflowed]
      omega
    rw [if_neg kept, if_pos fits, collects.held fits]
  · rw [if_pos (collects.overflowed.mpr (Nat.lt_of_not_le fits)), if_neg fits]

end JsonUsageParser

/-! ## The classification read -/

/-- The body comes to its end by the deadline, without an error. -/
def Completes (deadline : Nat) : Body → Prop
  | [] => False
  | arrival :: rest =>
      arrival.time ≤ deadline ∧
        match arrival.event with
        | .chunk _ => Completes deadline rest
        | .failed => False
        | .ended => True

/-- A later deadline is met as well. -/
theorem completes_mono {body : Body} {deadline later : Nat} (completes : Completes deadline body)
    (ordered : deadline ≤ later) : Completes later body := by
  induction body with
  | nil => exact completes
  | cons arrival rest inductionHypothesis =>
    obtain ⟨time, event⟩ := arrival
    obtain ⟨early, onward⟩ := completes
    refine ⟨Nat.le_trans early ordered, ?_⟩
    cases event with
    | chunk bytes => exact inductionHypothesis onward
    | failed | ended => exact onward

/-- What is kept of an error body: all of it or nothing. -/
def collected (bytes : List UInt8) : ErrorBody :=
  if bytes.length ≤ errorClassifyCap then .buffered bytes else .oversized

variable {attemptStart requestStart deadline : Nat}

/-- A body that completes in time is read, and what is kept of it depends on its bytes
alone. The buffer never exceeds the cap on the way. -/
theorem consumeLoop_collects {body : Body} {read : ConsumedResponse} {buffered : List UInt8}
    {now : Nat} (completes : Completes deadline body)
    (bounded : buffered.length ≤ errorClassifyCap) :
    ∃ left, (consumeLoop attemptStart requestStart deadline read buffered now body).result =
        some left ∧
      left.body = collected (buffered ++ bodyBytes body) := by
  induction body generalizing read buffered now with
  | nil => exact completes.elim
  | cons arrival rest inductionHypothesis =>
    obtain ⟨time, event⟩ := arrival
    obtain ⟨early, onward⟩ := completes
    have inTime : Arrival.inTime ⟨time, event⟩ now deadline = true := by
      rw [Arrival.inTime, Bool.or_eq_true]
      exact .inr (decide_eq_true early)
    unfold consumeLoop
    rw [if_pos inTime]
    cases event with
    | failed => exact onward.elim
    | ended =>
      refine ⟨_, rfl, ?_⟩
      rw [bodyBytes, List.append_nil, collected, if_pos bounded]
    | chunk bytes =>
      dsimp only
      have longer : (buffered ++ bytes).length = buffered.length + bytes.length :=
        List.length_append
      split
      · rename_i fits
        rw [bodyBytes, ← List.append_assoc]
        exact inductionHypothesis onward (by omega)
      · rename_i exceeds
        refine ⟨_, rfl, ?_⟩
        rw [bodyBytes, ← List.append_assoc, collected, if_neg]
        rw [List.length_append]
        omega

/-- A body that is buffered was read to its end: it completed, and nothing of it is missing. -/
theorem consumeLoop_whole {body : Body} {read left : ConsumedResponse}
    {buffered bytes : List UInt8} {now : Nat}
    (done : (consumeLoop attemptStart requestStart deadline read buffered now body).result =
      some left)
    (kept : left.body = .buffered bytes) :
    bytes = buffered ++ bodyBytes body ∧ ∃ ends, Completes ends body := by
  induction body generalizing read buffered now with
  | nil => cases done
  | cons arrival rest inductionHypothesis =>
    obtain ⟨time, event⟩ := arrival
    unfold consumeLoop at done
    split at done
    · cases event with
      | failed => cases done
      | ended =>
        cases done
        cases kept
        rw [bodyBytes, List.append_nil]
        exact ⟨rfl, time, Nat.le_refl time, trivial⟩
      | chunk piece =>
        dsimp only at done
        split at done
        · obtain ⟨whole, ends, completes⟩ := inductionHypothesis done
          refine ⟨?_, max time ends, Nat.le_max_left _ _, ?_⟩
          · rw [bodyBytes, ← List.append_assoc]
            exact whole
          · exact completes_mono completes (Nat.le_max_right _ _)
        · cases done
          cases kept
    · cases done

/-- The collectors depend on the bytes alone. For every cap and every chunking of every body,
the JSON parser reports the usage of the whole body if it fits the cap and none otherwise,
and its buffer never exceeds the cap, before or after any chunk. For every error body that
completes in time, the classification read keeps the whole body if it fits and nothing
otherwise. So whatever is classified as a usage limit was seen to its end.

Proof: by induction on the chunks, the buffer is what was seen, up to the cap. -/
theorem collectors_see_bytes_only (reading : Reading) (cap : Nat) (chunks : List (List UInt8))
    (response : Response) (timeout attemptStart requestStart now : Nat) :
    ((JsonUsageParser.new cap).pushAll chunks).usage reading =
        (if chunks.flatten.length ≤ cap then extractUsage reading.parseJson chunks.flatten
          else none) ∧
      (∀ front, front <+: chunks →
        ((JsonUsageParser.new cap).pushAll front).buf.length ≤
            ((JsonUsageParser.new cap).pushAll front).cap ∧
          ((JsonUsageParser.new cap).pushAll front).cap = cap) ∧
      (Completes (now + timeout) response.body →
        ∃ read, (consumeClassifyBody response timeout attemptStart requestStart now).result =
            some read ∧
          read.body =
            if (bodyBytes response.body).length ≤ errorClassifyCap then
              .buffered (bodyBytes response.body)
            else .oversized) ∧
      ∀ read dimension cooldown,
        (consumeClassifyBody response timeout attemptStart requestStart now).result = some read →
        classifyErrorBody reading.parseJson read.body = .usageLimit dimension cooldown →
        read.body = .buffered (bodyBytes response.body) ∧ ∃ ends, Completes ends response.body := by
  refine ⟨(JsonUsageParser.new_pushAll cap chunks).usage reading, ?_, ?_, ?_⟩
  · intro front _
    have collects := JsonUsageParser.new_pushAll cap front
    exact ⟨collects.bounded, collects.capped⟩
  · intro completes
    exact consumeLoop_collects completes (Nat.zero_le _)
  · intro read dimension cooldown done limited
    cases kept : read.body with
    | oversized =>
      rw [kept] at limited
      cases limited
    | buffered bytes =>
      obtain ⟨whole, ended⟩ := consumeLoop_whole done kept
      rw [whole]
      exact ⟨rfl, ended⟩

/-- An error body of two bytes in three chunks, one of them empty. -/
def choppedError : Response where
  status := 429
  headers := []
  body := [⟨1, .chunk [123]⟩, ⟨2, .chunk []⟩, ⟨2, .chunk [125]⟩, ⟨3, .ended⟩]

/-- It is kept as its two bytes. -/
theorem collectors_see_bytes_only_chopped :
    Completes (0 + 5) choppedError.body ∧
      ∃ read, (consumeClassifyBody choppedError 5 0 0 0).result = some read ∧
        read.body = .buffered [123, 125] := by
  have completes : Completes (0 + 5) choppedError.body :=
    ⟨by decide, by decide, by decide, by decide, trivial⟩
  exact ⟨completes, (collectors_see_bytes_only ⟨fun _ => [], fun _ => none⟩ 4 [] choppedError 5 0 0
    0).2.2.1 completes⟩

end Orihsus.Gateway
