import Orihsus.Answers
import Orihsus.AuditLines

/-!
# The text of the audit log

`Serialize for AuditRecord` and `Serialize for AttemptSummary` of `src/audit.rs` fix the
names and the order of the fields, the names of the enumerations and the unit of the
durations. The text of such a document is left to `serde_json::to_vec`, which stays the
encoder of the writer; what a reader asks of it is stated record by record. The format of a
date is library code too and stays a parameter.

With any encoder the thread's files hold what they held when they were opened and then one
line for each record that was handed to them.
-/

namespace Orihsus.Audit

open Gateway (AttemptSummary AttemptTerminalReason AuditOutcome AuditRecord Json)

/-! ## Documents -/

/-- `Duration::as_millis`. -/
def asMillis (duration : Nat) : Nat := duration / 1000000

/-- An `Option` is its content or null. -/
def optional {Content : Type} (serialize : Content → Json) : Option Content → Json
  | some content => serialize content
  | none => .null

/-- The name of an `AuditOutcome` in the log. -/
def outcomeName : AuditOutcome → String
  | .completed => "completed"
  | .upstreamError => "upstream_error"
  | .clientCancel => "client_cancel"
  | .eventIdleTimeout => "event_idle_timeout"

/-- The name of an `AttemptTerminalReason` in the log. -/
def reasonName : AttemptTerminalReason → String
  | .completed => "completed"
  | .responseHeaderTimeout => "response_header_timeout"
  | .networkError => "network_error"
  | .retryableResponse => "retryable_response"
  | .forwarded => "forwarded"
  | .upstreamError => "upstream_error"
  | .clientCancel => "client_cancel"
  | .noFirstEvent => "no_first_event"
  | .eventIdleTimeout => "event_idle_timeout"
  | .endBeforeFirstEvent => "end_before_first_event"

/-- A duration in milliseconds. -/
def milliseconds (duration : Nat) : Json := .unsigned (asMillis duration)

/-- `Serialize for AttemptSummary`. -/
def summaryDocument (summary : AttemptSummary) : Json :=
  .object
    [("attempt_number", .unsigned summary.attemptNumber),
      ("key_fingerprint", .string summary.keyFingerprint),
      ("response_header_latency_ms", optional milliseconds summary.responseHeaderLatency),
      ("first_byte_latency_ms", optional milliseconds summary.firstByteLatency),
      ("first_event_latency_ms", optional milliseconds summary.firstEventLatency),
      ("upstream_bytes", .unsigned summary.upstreamBytes),
      ("upstream_chunks", .unsigned summary.upstreamChunks),
      ("upstream_events", .unsigned summary.upstreamEvents),
      ("last_activity_offset_ms", optional milliseconds summary.lastActivityOffset),
      ("precommit", .bool summary.precommit),
      ("committed", .bool summary.committed),
      ("terminal_reason", .string (reasonName summary.terminalReason)),
      ("failover_target", optional .string summary.failoverTarget)]

/-- `Serialize for AuditRecord`. -/
def recordDocument (toRfc3339 : Int → String) (record : AuditRecord) : Json :=
  .object
    [("timestamp", .string (toRfc3339 record.timestamp)),
      ("request_id", .string record.requestId),
      ("model", optional .string record.model),
      ("key_fingerprint", optional .string record.keyFingerprint),
      ("gateway_key", optional .string record.gatewayKey),
      ("input_tokens", optional .unsigned record.inputTokens),
      ("cached_tokens", optional .unsigned record.cachedTokens),
      ("uncached_tokens", optional .unsigned record.uncachedTokens),
      ("cache_write_tokens", optional .unsigned record.cacheWriteTokens),
      ("output_tokens", optional .unsigned record.outputTokens),
      ("reasoning_tokens", optional .unsigned record.reasoningTokens),
      ("status", .unsigned record.status),
      ("outcome", optional (fun outcome => .string (outcomeName outcome)) record.outcome),
      ("latency_ms", milliseconds record.latency),
      ("opencode_session_id", optional .string record.opencodeSessionId),
      ("opencode_project_id", optional .string record.opencodeProjectId),
      ("opencode_request_id", optional .string record.opencodeRequestId),
      ("attempts", .array (record.attempts.map summaryDocument))]

/-- What is asked of `serde_json::to_vec` and of a parser of JSON for one record: its document
is printed as a text without control characters, and the parser reads that text back. -/
structure Prints (encoder : Encoder AuditRecord) (parse : List Char → Option Json)
    (toRfc3339 : Int → String) (text : AuditRecord → List Char) (record : AuditRecord) : Prop where
  encoded : encoder.encode record = .ok (Text.asBytes (text record))
  printable : ∀ character ∈ text record, 32 ≤ character.toNat
  nonempty : text record ≠ []
  parsed : parse (text record) = some (recordDocument toRfc3339 record)

/-! ## What the files hold -/

namespace Service

section Files

variable {Record : Type} {encoder : Encoder Record} {first before after last : Service Record}
  {action : Action Record} {trace : List (Runs.Transition (Service Record) (Action Record))}

/-- The records that were handed to a file, in their order. -/
def writtenTo (file : Nat) (trace : List (Runs.Transition (Service Record) (Action Record))) :
    List Record :=
  ((writes trace).filter fun write => write.2.file = file).map Prod.fst

/-- The records that a step hands to a file. -/
def handed (service : Service Record) (file : Nat) (action : Action Record) : List Record :=
  ((((service.effect action).bind Effect.written).toList).filter
    fun write => write.2.file = file).map Prod.fst

/-- What is handed to a file, when one more step is taken. -/
theorem writtenTo_extend (file : Nat) (taken : Runs.Transition (Service Record) (Action Record)) :
    writtenTo file (trace ++ [taken]) =
      writtenTo file trace ++ taken.before.handed file taken.label := by
  have extended : writes (trace ++ [taken]) = writes trace ++
      ((taken.before.effect taken.label).bind Effect.written).toList := by
    rw [writes, writes, effects, effects, Runs.filterMap_extend, List.filterMap_append]
    cases taken.before.effect taken.label with
    | none => rfl
    | some effect =>
      cases written : effect.written with
      | none | some => simp [written]
  rw [writtenTo, extended, List.filter_append, List.map_append]
  rfl

/-- What a step finds in a file that it opens for the first time. -/
def found : Action Record → Option (List UInt8)
  | .openAppend (.fresh contents) => some contents
  | _ => none

/-- What the files held when they were opened, in the order of the first openings. -/
def openings (first : Service Record)
    (trace : List (Runs.Transition (Service Record) (Action Record))) : List (List UInt8) :=
  first.files ++ trace.filterMap fun taken => found taken.label

/-- What a file held when it was opened. -/
def opened (first : Service Record)
    (trace : List (Runs.Transition (Service Record) (Action Record))) (file : Nat) : List UInt8 :=
  ((openings first trace)[file]?).getD []

/-- The lines that an encoder makes of records. -/
def linesOf (encoder : Encoder Record) (records : List Record) : List UInt8 :=
  records.flatMap fun record =>
    match encoder.encode record with
    | .ok line => line ++ [newline]
    | .error _ => []

/-- Each file holds what it held when it was opened and the lines of the records that were
handed to it, and nothing is handed to a file that is not open. -/
structure Filled (encoder : Encoder Record) (first : Service Record)
    (trace : List (Runs.Transition (Service Record) (Action Record))) (service : Service Record) :
    Prop where
  placed : Placed encoder service
  known : service.files.length = (openings first trace).length
  unwritten : ∀ file, service.files.length ≤ file → writtenTo file trace = []
  held : ∀ file, service.contents file =
    opened first trace file ++ linesOf encoder (writtenTo file trace)

/-- One more step opens at most one more file. -/
theorem openings_extend (taken : Runs.Transition (Service Record) (Action Record)) :
    openings first (trace ++ [taken]) = openings first trace ++ (found taken.label).toList := by
  rw [openings, openings, Runs.filterMap_extend, List.append_assoc]

/-- A step that neither opens a file nor writes to one. -/
theorem Filled.still (filled : Filled encoder first trace before)
    (placed : Placed encoder after) (files : after.files = before.files)
    (unopened : found action = none) (idle : (before.effect action).bind Effect.written = none) :
    Filled encoder first (trace ++ [⟨before, action, after⟩]) after := by
  have handed (file : Nat) : writtenTo file (trace ++ [⟨before, action, after⟩]) =
      writtenTo file trace := by
    rw [writtenTo_extend, Service.handed, idle]
    exact List.append_nil _
  have same : openings first (trace ++ [⟨before, action, after⟩]) = openings first trace := by
    rw [openings_extend, unopened]
    exact List.append_nil _
  refine ⟨placed, ?_, ?_, ?_⟩
  · rw [same, files, filled.known]
  · intro file beyond
    rw [handed]
    rw [files] at beyond
    exact filled.unwritten file beyond
  · intro file
    rw [handed, opened, same, contents, files]
    exact filled.held file

/-- A file that is opened for the first time holds what it is found with. -/
theorem Filled.install (filled : Filled encoder first trace before) {old : List UInt8}
    (placed : Placed encoder after) (files : after.files = before.files ++ [old])
    (idle : (before.effect (.openAppend (.fresh old))).bind Effect.written = none) :
    Filled encoder first (trace ++ [⟨before, .openAppend (.fresh old), after⟩]) after := by
  have handed (file : Nat) : writtenTo file
      (trace ++ [⟨before, .openAppend (.fresh old), after⟩]) = writtenTo file trace := by
    rw [writtenTo_extend, Service.handed, idle]
    exact List.append_nil _
  have longer : openings first (trace ++ [⟨before, .openAppend (.fresh old), after⟩]) =
      openings first trace ++ [old] := openings_extend _
  refine ⟨placed, ?_, ?_, ?_⟩
  · rw [longer, files, List.length_append, List.length_append, filled.known]
  · intro file beyond
    rw [handed]
    rw [files, List.length_append] at beyond
    exact filled.unwritten file (by omega)
  · intro file
    rw [handed, opened, longer, contents, files]
    by_cases inside : file < before.files.length
    · rw [List.getElem?_append_left inside,
        List.getElem?_append_left (filled.known ▸ inside)]
      exact filled.held file
    · have beyond := Nat.le_of_not_lt inside
      rw [filled.unwritten file beyond, List.getElem?_append_right beyond,
        List.getElem?_append_right (filled.known ▸ beyond), filled.known]
      exact (List.append_nil _).symm

/-- A record that is written well adds its line to the thread's file. -/
theorem Filled.write (filled : Filled encoder first trace before) {record : Record}
    {line : List UInt8} (placed : Placed encoder after)
    (phase : before.thread.phase = .writing record line)
    (files : after.files = before.files.modify before.thread.sink.file (· ++ line)) :
    Filled encoder first (trace ++ [⟨before, .writeAll .done, after⟩]) after := by
  obtain ⟨encoded, text, rfl⟩ := filled.placed.text record line phase
  have handed (file : Nat) : writtenTo file (trace ++ [⟨before, .writeAll .done, after⟩]) =
      writtenTo file trace ++ if before.thread.sink.file = file then [record] else [] := by
    rw [writtenTo_extend]
    simp only [Service.handed, effect, phase, Option.bind_some, Effect.written, Option.toList_some,
      List.filter_cons, List.filter_nil, decide_eq_true_eq]
    split <;> rfl
  have same : openings first (trace ++ [⟨before, .writeAll .done, after⟩]) =
      openings first trace := (openings_extend _).trans (List.append_nil _)
  refine ⟨placed, ?_, ?_, ?_⟩
  · rw [same, files, List.length_modify, filled.known]
  · intro file beyond
    rw [files, List.length_modify] at beyond
    have open_ := filled.placed.known
    rw [handed, filled.unwritten file beyond, if_neg (by omega)]
    rfl
  · intro file
    have held := filled.held file
    rw [handed, opened, same, contents, files, List.getElem?_modify]
    by_cases mine : before.thread.sink.file = file
    · subst mine
      have present := List.getElem?_eq_getElem filled.placed.known
      rw [contents, present] at held
      rw [present, if_pos rfl, linesOf, List.flatMap_append, ← List.append_assoc]
      simp only [if_true, List.flatMap_singleton, text]
      rw [← opened, ← linesOf, ← held]
      rfl
    · rw [if_neg mine, List.append_nil, ← opened, ← held, contents]
      cases before.files[file]? with
      | none => rfl
      | some bytes => simp [mine]

/-- One step without a failure keeps the files filled. -/
theorem step_filled (moved : Moves encoder before action after)
    (filled : Filled encoder first trace before) (unfailed : failure action = none) :
    Filled encoder first (trace ++ [⟨before, action, after⟩]) after := by
  have placed := step_placed moved filled.placed
  cases moved with
  | wrote phase => exact filled.write placed phase rfl
  | failed phase => cases unfailed
  | installed phase =>
    refine filled.install placed rfl ?_
    simp only [effect, phase]
    rfl
  | reinstalled phase | kept phase =>
    refine filled.still placed rfl rfl ?_
    simp only [effect, phase]
    rfl
  | closed quiet serving =>
    rcases quiet with ⟨rfl, _⟩ | ⟨rfl, _⟩
    · exact filled.still placed rfl rfl rfl
    · exact filled.still placed rfl rfl rfl
  | _ => exact filled.still placed rfl rfl rfl

/-- In a run without a failed write or flush every file is filled. -/
theorem run_filled {old : List UInt8} {capacity : Nat} (started : spawn old capacity = .ok first)
    (run : Runs.Run (Step encoder) first trace last) (unfailed : failures trace = []) :
    Filled encoder first trace last := by
  induction run with
  | start =>
    refine ⟨(placed_started started).1, ?_, fun _ _ => rfl, ?_⟩
    · rw [openings, List.filterMap_nil, List.append_nil]
    · intro file
      rw [opened, openings, List.filterMap_nil, List.append_nil]
      exact (List.append_nil _).symm
  | @extend trace current next action earlier stepped inductionHypothesis =>
    rw [failures, Runs.filterMap_extend, List.append_eq_nil_iff] at unfailed
    refine step_filled (step_moves stepped) (inductionHypothesis unfailed.1) ?_
    cases failed : failure action with
    | none => rfl
    | some error =>
      rw [failed] at unfailed
      cases unfailed.2

/-- A writer whose shutdown returned well has failed nowhere and has written every accepted
record. -/
theorem returned_well (encodes : ∀ record, ∃ line, encoder.encode record = .ok line)
    {contents : List UInt8} {capacity : Nat} (started : spawn contents capacity = .ok first)
    (run : Runs.Run (Step encoder) first trace last)
    (returned : last.closing = .returned (.ok ())) :
    failures trace = [] ∧ (writes trace).map Prod.fst = last.accepted := by
  have books := run_books encodes started run
  have phase : last.thread.phase = .returned (.ok ()) :=
    (books.ended.returned _ returned).resolve_left nofun
  constructor
  · obtain ⟨counted, whole, _, head⟩ := books.tallied.tally
    have well := books.ended.result _ phase
    rw [phase] at whole
    rw [head] at well
    have all : failures trace = counted := whole.trans (List.append_nil _)
    rw [all]
    cases counted with
    | nil => rfl
    | cons error rest => cases well
  · have emptied := books.emptied (by rw [phase]; rfl)
    rw [writes, written_offered, emptied, books.accepted]

end Files

end Service

end Orihsus.Audit
