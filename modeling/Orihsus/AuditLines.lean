import Orihsus.AuditDelivery

/-!
# Lines of the audit file

Whether a record that was written well stands on a line of its own. The thread appends
each line where the file ends, so that depends on where the earlier writes left the file:
a write that failed in the middle of a line leaves it there, and the next record is
appended to the fragment. When every failed write has written nothing or its whole line,
and every file was empty or ended with a newline when it was opened, each record that was
written well keeps its line through the rest of the run.
-/

namespace Orihsus.Audit

variable {Record : Type}

/-- A line can start where these bytes end. -/
def LineStart (bytes : List UInt8) : Prop := bytes = [] ∨ bytes.getLast? = some newline

instance (bytes : List UInt8) : Decidable (LineStart bytes) :=
  inferInstanceAs (Decidable (_ ∨ _))

/-- The text is a complete line after the given bytes. -/
def OwnLineAt (contents before line : List UInt8) : Prop :=
  LineStart before ∧ before ++ line ++ [newline] <+: contents

/-- The text is a complete line somewhere. -/
def OwnLine (contents line : List UInt8) : Prop := ∃ before, OwnLineAt contents before line

/-- After a newline a line starts. -/
theorem lineStart_append {bytes : List UInt8} : LineStart (bytes ++ [newline]) :=
  .inr List.getLast?_concat

namespace Service

variable {encoder : Encoder Record} {first before after last service : Service Record}
  {action : Action Record} {record : Record} {sink : Sink} {file : Nat}
  {trace : List (Runs.Transition (Service Record) (Action Record))}
  {taken : Runs.Transition (Service Record) (Action Record)}

/-- What a file holds. -/
def contents (service : Service Record) (file : Nat) : List UInt8 :=
  (service.files[file]?).getD []

/-- The record that a step has written well, and where. -/
def completed (service : Service Record) : Action Record → Option (Record × Sink)
  | .writeAll .done =>
      match service.thread.phase with
      | .writing record _ => some (record, service.thread.sink)
      | _ => none
  | _ => none

/-- A step that leaves no fragment of a line: a write that fails has written nothing or
its whole line, and a file that is opened can be continued with a line. -/
def Whole (service : Service Record) : Action Record → Prop
  | .writeAll (.failed count _) =>
      ∀ record line, service.thread.phase = .writing record line → count = 0 ∨ line.length ≤ count
  | .openAppend (.fresh contents) => LineStart contents
  | _ => True

/-- What a step does to the files. -/
inductive Filed (service after : Service Record) : Action Record → Prop
  | same {action : Action Record} (files : after.files = service.files) : Filed service after action
  | opened {contents : List UInt8} (files : after.files = service.files ++ [contents]) :
      Filed service after (.openAppend (.fresh contents))
  | wrote {record : Record} {line : List UInt8}
      (phase : service.thread.phase = .writing record line)
      (files : after.files = service.files.modify service.thread.sink.file (· ++ line)) :
      Filed service after (.writeAll .done)
  | failed {record : Record} {line : List UInt8} {count : Nat} {error : IoError}
      (phase : service.thread.phase = .writing record line)
      (files : after.files = service.files.modify service.thread.sink.file (· ++ line.take count)) :
      Filed service after (.writeAll (.failed count error))

/-- What a step does to the files. -/
theorem step_filed (moved : Moves encoder before action after) : Filed before after action := by
  cases moved with
  | wrote phase => exact .wrote phase rfl
  | failed phase => exact .failed phase rfl
  | installed phase => exact .opened rfl
  | _ => exact .same rfl

/-- What a file holds after an append to a file. -/
theorem contents_modify (file : Nat) {written : Nat} {bytes : List UInt8}
    (files : after.files = before.files.modify written (· ++ bytes)) :
    after.contents file = before.contents file ∨
      file = written ∧ after.contents file = before.contents file ++ bytes := by
  rw [contents, contents, files, List.getElem?_modify]
  by_cases equal : written = file
  · subst equal
    cases before.files[written]? with
    | none => exact .inl rfl
    | some bytes => exact .inr ⟨rfl, by simp⟩
  · left
    cases before.files[file]? with
    | none => rfl
    | some bytes => simp [equal]

/-- A file that is open only grows. -/
theorem step_grows (moved : Moves encoder before action after)
    (known : file < before.files.length) :
    file < after.files.length ∧ before.contents file <+: after.contents file := by
  have grown : ∀ written bytes, after.files = before.files.modify written (· ++ bytes) →
      file < after.files.length ∧ before.contents file <+: after.contents file := by
    intro written bytes files
    refine ⟨by rw [files, List.length_modify]; exact known, ?_⟩
    rcases contents_modify file files with same | ⟨_, longer⟩
    · exact same.symm ▸ List.prefix_rfl
    · rw [longer]
      exact List.prefix_append _ _
  cases step_filed moved with
  | same files =>
    rw [contents, contents, files]
    exact ⟨known, List.prefix_rfl⟩
  | opened files =>
    rw [contents, contents, files, List.getElem?_append_left known, List.length_append]
    exact ⟨Nat.lt_add_right _ known, List.prefix_rfl⟩
  | wrote phase files | failed phase files => exact grown _ _ files

/-- The thread's file is open, and the line it is about to write is that of its record. -/
structure Placed (encoder : Encoder Record) (service : Service Record) : Prop where
  known : service.thread.sink.file < service.files.length
  text : ∀ record line, service.thread.phase = .writing record line →
    ∃ encoded, encoder.encode record = .ok encoded ∧ line = encoded ++ [newline]

/-- A step of another part. -/
theorem placed_still (placed : Placed encoder before)
    (sink : after.thread.sink = before.thread.sink)
    (files : before.files.length ≤ after.files.length)
    (idle : ∀ record line, after.thread.phase = .writing record line →
      before.thread.phase = .writing record line) : Placed encoder after := by
  constructor
  · rw [sink]
    exact Nat.lt_of_lt_of_le placed.known files
  · intro record line phase
    exact placed.text record line (idle record line phase)

/-- A phase that the thread is not writing in. -/
theorem placed_idle (placed : Placed encoder before)
    (sink : after.thread.sink = before.thread.sink)
    (files : before.files.length ≤ after.files.length)
    (idle : after.thread.phase.inHand = [] ∨
      ∃ path ticket, after.thread.phase = .opening path ticket) :
    Placed encoder after := by
  refine placed_still placed sink files ?_
  intro record line phase
  rcases idle with empty | ⟨path, ticket, turning⟩
  · rw [phase] at empty
    cases empty
  · rw [phase] at turning
    cases turning

/-- The thread's file exists. -/
theorem step_placed (moved : Moves encoder before action after) (placed : Placed encoder before) :
    Placed encoder after := by
  cases moved with
  | @encoded record channel line phase taken text =>
    constructor
    · exact placed.known
    · intro other written writing
      cases writing
      exact ⟨line, text, rfl⟩
  | skipped phase taken unencoded =>
    exact placed_still placed rfl (Nat.le_refl _) fun record line writing => writing
  | turned phase taken => exact placed_idle placed rfl (Nat.le_refl _) (.inr ⟨_, _, rfl⟩)
  | ended phase gone => exact placed_idle placed rfl (Nat.le_refl _) (.inl rfl)
  | wrote | failed =>
    exact placed_idle placed rfl (Nat.le_of_eq (List.length_modify _ _ _).symm) (.inl rfl)
  | reinstalled phase known =>
    refine ⟨known, ?_⟩
    intro record line writing
    cases writing
  | installed phase =>
    constructor
    · show before.files.length < (before.files ++ [_]).length
      rw [List.length_append]
      exact Nat.lt_succ_self _
    · intro record line writing
      cases writing
  | kept | flushed | unflushed | countedWrite | countedFlush =>
    exact placed_idle placed rfl (Nat.le_refl _) (.inl rfl)
  | _ => exact placed_still placed rfl (Nat.le_refl _) fun record line writing => writing

/-- Every file can be continued with a line. -/
def Clean (service : Service Record) : Prop := ∀ file, LineStart (service.contents file)

/-- A whole line keeps a file clean. -/
theorem clean_append {written : Nat} {bytes : List UInt8} (clean : before.Clean)
    (files : after.files = before.files.modify written (· ++ bytes))
    (whole : bytes = [] ∨ ∃ line, bytes = line ++ [newline]) : after.Clean := by
  intro file
  rcases contents_modify file files with same | ⟨_, longer⟩
  · rw [same]
    exact clean file
  · rw [longer]
    rcases whole with rfl | ⟨line, rfl⟩
    · rw [List.append_nil]
      exact clean file
    · rw [← List.append_assoc]
      exact lineStart_append

/-- A step that leaves no fragment keeps every file ready for a line. -/
theorem step_clean (moved : Moves encoder before action after) (placed : Placed encoder before)
    (whole : before.Whole action) (clean : before.Clean) : after.Clean := by
  cases step_filed moved with
  | same files =>
    intro file
    rw [contents, files]
    exact clean file
  | @opened bytes files =>
    intro file
    rw [contents, files]
    by_cases known : file < before.files.length
    · rw [List.getElem?_append_left known]
      exact clean file
    · rw [List.getElem?_append_right (Nat.le_of_not_lt known)]
      cases distance : file - before.files.length with
      | zero => exact whole
      | succ more => exact .inl rfl
  | wrote phase files =>
    obtain ⟨text, _, rfl⟩ := placed.text _ _ phase
    exact clean_append clean files (.inr ⟨text, rfl⟩)
  | failed phase files =>
    obtain ⟨text, _, rfl⟩ := placed.text _ _ phase
    refine clean_append clean files ?_
    rcases whole _ _ phase with rfl | all
    · exact .inl List.take_zero
    · exact .inr ⟨text, List.take_of_length_le all⟩

/-- The write that a step completed, and what it leaves in the file. -/
theorem completed_line (moved : Moves encoder before action after) (placed : Placed encoder before)
    (written : before.completed action = some (record, sink)) :
    sink = before.thread.sink ∧ ∃ line, encoder.encode record = .ok line ∧
      after.contents sink.file = before.contents sink.file ++ line ++ [newline] := by
  cases moved with
  | wrote phase =>
    simp only [completed, phase] at written
    cases written
    obtain ⟨line, text, rfl⟩ := placed.text _ _ phase
    refine ⟨rfl, line, text, ?_⟩
    obtain ⟨bytes, present⟩ : ∃ bytes, before.files[before.thread.sink.file]? = some bytes :=
      ⟨_, List.getElem?_eq_getElem placed.known⟩
    simp only [contents, withPhase, appendTo, List.getElem?_modify, present]
    simp
  | closed quiet serving =>
    rcases quiet with ⟨rfl, _⟩ | ⟨rfl, _⟩ <;> cases written
  | _ => cases written

/-- The first file is there. -/
theorem placed_started {contents : List UInt8} {capacity : Nat}
    (started : spawn contents capacity = .ok first) :
    Placed encoder first ∧ first.files = [contents] := by
  unfold spawn at started
  split at started
  · cases started
  · cases started
    refine ⟨⟨Nat.one_pos, ?_⟩, rfl⟩
    intro record line writing
    cases writing

/-- In every run that leaves no fragment of a line, over a file that could be continued
with one, every record that was written well stands on a line of its own, where it was
written.

Proof: every file stays clean, so a line starts on its own, and files only grow. -/
theorem written_record_on_own_line (encoder : Encoder Record) {contents : List UInt8}
    {capacity : Nat} {first last : Service Record}
    {trace : List (Runs.Transition (Service Record) (Action Record))}
    (started : spawn contents capacity = .ok first) (fresh : LineStart contents)
    (run : Runs.Run (Step encoder) first trace last)
    (whole : ∀ taken ∈ trace, taken.before.Whole taken.label) :
    ∀ taken ∈ trace, ∀ record sink, taken.before.completed taken.label = some (record, sink) →
      ∃ line, encoder.encode record = .ok line ∧ newline ∉ line ∧
        OwnLineAt (last.contents sink.file) (taken.before.contents sink.file) line := by
  intro taken member record sink written
  obtain ⟨placedFirst, files⟩ : Placed encoder first ∧ first.files = [contents] :=
    placed_started started
  obtain ⟨earlier, later, rfl⟩ := List.append_of_mem member
  obtain ⟨upTo, stepped, onward⟩ := run.split
  have placed : Placed encoder taken.before :=
    upTo.invariant (Placed encoder) placedFirst
      fun _ _ _ stepped => step_placed (step_moves stepped)
  have clean : Placed encoder taken.before ∧ taken.before.Clean := by
    refine upTo.preserved (fun service => Placed encoder service ∧ service.Clean)
      ⟨placedFirst, ?_⟩ ?_
    · intro file
      rw [Service.contents, files]
      cases file with
      | zero => exact fresh
      | succ more => exact .inl rfl
    · rintro step inside moved ⟨placed, clean⟩
      have left := whole step (List.mem_append_left _ inside)
      exact ⟨step_placed (step_moves moved) placed, step_clean (step_moves moved) placed left clean⟩
  obtain ⟨rfl, line, text, longer⟩ := completed_line (step_moves stepped) placed written
  have known := (step_grows (step_moves stepped) placed.known).1
  have grown := onward.invariant
    (fun service => taken.before.thread.sink.file < service.files.length ∧
      taken.after.contents taken.before.thread.sink.file <+:
        service.contents taken.before.thread.sink.file) ⟨known, List.prefix_rfl⟩
    fun _ _ _ moved kept =>
      ⟨(step_grows (step_moves moved) kept.1).1,
        kept.2.trans (step_grows (step_moves moved) kept.1).2⟩
  refine ⟨line, text, encoder.plain record line text, clean.2 _, ?_⟩
  rw [← longer]
  exact grown.2

/-- The first record fails after one byte, the second is written well. -/
def torn : List (Action Bool) :=
  [.tryRecord true, .tryRecord false, .receive, .writeAll (.failed 1 (.os 28)), .countFailure,
    .receive, .writeAll .done]

/-- A record that was written well without a line of its own: it is appended to what a
failed write left of another. -/
theorem torn_line_swallows_record : spawn [] 2 = .ok sampleWriter ∧
    (Runs.record (·.perform sampleEncoder) sampleWriter torn).isSome ∧
      (∃ taken ∈ Runs.steps (·.perform sampleEncoder) sampleWriter torn,
        taken.before.completed taken.label = some (false, ⟨none, 0⟩)) ∧
      sampleEncoder.encode false = .ok [123, 48, 125] ∧
      (Runs.reached (·.perform sampleEncoder) sampleWriter torn).contents 0 =
        [123, 123, 48, 125, 10] ∧
      ¬ OwnLine ((Runs.reached (·.perform sampleEncoder) sampleWriter torn).contents 0)
        [123, 48, 125] := by
  have contents : (Runs.reached (·.perform sampleEncoder) sampleWriter torn).contents 0 =
      [123, 123, 48, 125, 10] := by decide +kernel
  refine ⟨rfl, by decide +kernel, by decide +kernel, rfl, contents, ?_⟩
  rw [contents]
  rintro ⟨before, start, after, whole⟩
  cases before with
  | nil => simp at whole
  | cons byte rest =>
    have lengths := congrArg List.length whole
    simp only [List.length_append, List.length_cons, List.length_nil] at lengths
    obtain rfl : rest = [] := List.length_eq_zero_iff.mp (by omega)
    obtain rfl : byte = 123 := by simpa using congrArg List.head? whole
    exact absurd start (by decide)

/-- The same two records, where the failed write wrote nothing. -/
def unharmed : List (Action Bool) :=
  [.tryRecord true, .tryRecord false, .receive, .writeAll (.failed 0 (.os 28)), .countFailure,
    .receive, .writeAll .done]

/-- The record that was written is on a line of its own. -/
theorem unharmed_record_on_own_line : spawn [] 2 = .ok sampleWriter ∧ LineStart [] ∧
    (Runs.record (·.perform sampleEncoder) sampleWriter unharmed).isSome ∧
    ∀ taken ∈ Runs.steps (·.perform sampleEncoder) sampleWriter unharmed, ∀ record sink,
      taken.before.completed taken.label = some (record, sink) →
        ∃ line, sampleEncoder.encode record = .ok line ∧ newline ∉ line ∧
          OwnLineAt ((Runs.reached (·.perform sampleEncoder) sampleWriter unharmed).contents
            sink.file) (taken.before.contents sink.file) line := by
  have enabled : (Runs.record (·.perform sampleEncoder) sampleWriter unharmed).isSome := by
    decide +kernel
  refine ⟨rfl, .inl rfl, enabled, ?_⟩
  refine written_record_on_own_line sampleEncoder (show spawn [] 2 = .ok sampleWriter from rfl)
    (.inl rfl) (Runs.replay_run enabled) ?_
  intro taken member
  have label : taken.label ∈ unharmed := Runs.steps_label member
  simp only [unharmed, List.mem_cons, List.not_mem_nil, or_false] at label
  rcases label with same | same | same | same | same | same | same
  · rw [same]
    trivial
  · rw [same]
    trivial
  · rw [same]
    trivial
  · rw [same]
    exact fun _ _ _ => .inl rfl
  · rw [same]
    trivial
  · rw [same]
    trivial
  · rw [same]
    trivial

end Service

end Orihsus.Audit
