import Orihsus.AuditJson

/-!
# The report over the audit log

`tools/audit-usage-summary.mjs` reads a file of the audit log and adds up the requests and
the tokens of each gateway key and model. It is a program of its own in another language,
and what joins it to the gateway is the text of the log alone. Here it is put together with
the writer: the file of a run is read as the documents of the records that were handed to
it, and the totals of the report are those of the records.

Numbers of the report are doubles, so a sum is exact below 2^53 and is rounded from there
on; a token count that is no safe integer is left out, as the tool leaves it out. The decoder
of a file, `JSON.parse` and `Date` are library code and stay parameters; a parsed number is
rounded where the tool uses it. The collation of the rows is left out, and so are the command
line and the printing.
-/

namespace Orihsus.Audit

open Gateway (AuditRecord Json)

namespace Summary

/-! ## The tool -/

/-- The double nearest to a natural number, ties to even. -/
def toDouble (number : Nat) : Nat :=
  if number < 2 ^ 53 then number
  else
    let unit := 2 ^ (Nat.log2 number - 52)
    let low := number / unit
    let rest := number % unit
    if 2 * rest < unit ∨ (2 * rest = unit ∧ low % 2 = 0) then low * unit else (low + 1) * unit

/-- `a + b` for two doubles that are natural numbers. -/
def plus (first second : Nat) : Nat := toDouble (first + second)

/-- `Number.isSafeInteger` for a natural number. -/
def isSafeInteger (number : Nat) : Bool := number < 2 ^ 53

/-- A row of the report. -/
structure Group where
  gatewayKey : String
  model : String
  requests : Nat
  inputTokens : Nat
  cachedTokens : Nat
  uncachedTokens : Nat
  outputTokens : Nat
  deriving DecidableEq, Repr

/-- The rows by their keys, in the order of their first insertion. -/
abbrev Groups := List (String × Group)

/-- `Map.prototype.set`. -/
def Groups.set (groups : Groups) (key : String) (group : Group) : Groups :=
  match groups with
  | [] => [(key, group)]
  | (other, row) :: rest =>
      if other = key then (key, group) :: rest else (other, row) :: Groups.set rest key group

/-- The key of a row. -/
def groupKey (gatewayKey model : String) : String := gatewayKey ++ "\x00" ++ model

def Group.new (gatewayKey model : String) : Group := ⟨gatewayKey, model, 0, 0, 0, 0, 0⟩

/-- Add a double that is a natural number, if it is a safe integer. -/
def addNumber (number total : Nat) : Nat :=
  if isSafeInteger (toDouble number) then plus total (toDouble number) else total

/-- `group[field] += record[field]`, if the field is a safe integer and not negative. -/
def addField (record : Json) (field : String) (total : Nat) : Nat :=
  match record.get field with
  | some (.unsigned number) => addNumber number total
  | some (.float number) =>
      if number.den = 1 ∧ 0 ≤ number.num then addNumber number.num.toNat total else total
  | _ => total

/-- A record is added to its row. -/
def Group.add (group : Group) (record : Json) : Group :=
  { group with
    requests := plus group.requests 1
    inputTokens := addField record "input_tokens" group.inputTokens
    cachedTokens := addField record "cached_tokens" group.cachedTokens
    uncachedTokens := addField record "uncached_tokens" group.uncachedTokens
    outputTokens := addField record "output_tokens" group.outputTokens }

/-- What the report is asked for, and what the tool takes from its runtime: the decoder of a
file, which replaces what is not UTF-8, `JSON.parse`, and the constructor of `Date`, with the
milliseconds of what it is given or nothing for an invalid date. -/
structure Request where
  decode : List UInt8 → List Char
  decodes : ∀ text, decode (Text.asBytes text) = text
  parse : List Char → Option Json
  date : Option Json → Option Int
  from_ : Option Int
  to_ : Option Int

/-- A timestamp is valid and in the window. -/
def Request.covers (request : Request) (timestamp : Option Json) : Bool :=
  match request.date timestamp with
  | none => false
  | some instant => !request.from_.any (instant < ·) && !request.to_.any (· ≤ instant)

/-- The body of the loop for a parsed line. -/
def addRecord (request : Request) (groups : Groups) (record : Json) : Groups :=
  if request.covers (record.get "timestamp") then
    match record.get "gateway_key", record.get "model" with
    | some (.string gatewayKey), some (.string model) =>
        let key := groupKey gatewayKey model
        let group := (groups.lookup key).getD (.new gatewayKey model)
        groups.set key (group.add record)
    | _, _ => groups
  else groups

/-- How the tool ends without a report. Reading a field of null throws. -/
inductive Failure where
  | invalidJson (line : Nat)
  | typeError
  deriving DecidableEq, Repr

/-- `text.split(/\r?\n/)`, with the current part. -/
def splitFrom (current : List Char) : List Char → List (List Char)
  | [] => [current]
  | character :: rest =>
      if character = '\n' then Text.stripReturn current :: splitFrom [] rest
      else splitFrom (current ++ [character]) rest

/-- The loop over the lines. -/
def addLines (request : Request) (groups : Groups) (index : Nat) :
    List (List Char) → Except Failure Groups
  | [] => .ok groups
  | line :: rest =>
      if line.isEmpty then addLines request groups (index + 1) rest
      else
        match request.parse line with
        | none => .error (.invalidJson (index + 1))
        | some .null => .error .typeError
        | some record => addLines request (addRecord request groups record) (index + 1) rest

/-- The report over the bytes of a file. -/
def summarize (request : Request) (bytes : List UInt8) : Except Failure Groups :=
  addLines request [] 0 (splitFrom [] (request.decode bytes))

/-! ## The lines of a file -/

/-- The lines of a text that the tool looks at. -/
def linesFrom (current text : List Char) : List (List Char) :=
  (splitFrom current text).filter fun line => !line.isEmpty

/-- What a parser reads in the lines of a text. -/
def documents (parse : List Char → Option Json) (text : List Char) : Option (List Json) :=
  (linesFrom [] text).mapM parse

/-- A text ends where a line can start. -/
def Complete (text : List Char) : Prop := text = [] ∨ ∃ front, text = front ++ ['\n']

/-- What follows a newline is split on its own. -/
theorem linesFrom_newline (current front rest : List Char) :
    linesFrom current (front ++ '\n' :: rest) =
      linesFrom current (front ++ ['\n']) ++ linesFrom [] rest := by
  unfold linesFrom
  induction front generalizing current with
  | nil =>
    rw [List.nil_append, List.nil_append, splitFrom, if_pos rfl, splitFrom, if_pos rfl, splitFrom,
      List.filter_cons, List.filter_cons, List.filter_cons]
    split
    · rfl
    · rfl
  | cons character more inductionHypothesis =>
    rw [List.cons_append, List.cons_append, splitFrom, splitFrom]
    by_cases ends : character = '\n'
    · rw [if_pos ends, if_pos ends, List.filter_cons, List.filter_cons, inductionHypothesis]
      split
      · rfl
      · rfl
    · rw [if_neg ends, if_neg ends]
      exact inductionHypothesis _

/-- The lines after a complete text are lines of their own. -/
theorem linesFrom_complete {front : List Char} (complete : Complete front) (rest : List Char) :
    linesFrom [] (front ++ rest) = linesFrom [] front ++ linesFrom [] rest := by
  rcases complete with rfl | ⟨shorter, rfl⟩
  · rfl
  · rw [List.append_assoc, List.singleton_append, linesFrom_newline]

/-- A line without control characters is split off as it stands. -/
theorem linesFrom_line {line : List Char} (printable : ∀ character ∈ line, 32 ≤ character.toNat)
    (nonempty : line ≠ []) (rest : List Char) :
    linesFrom [] (line ++ '\n' :: rest) = line :: linesFrom [] rest := by
  have whole : '\n' ∉ line := fun member => absurd (printable _ member) (by decide)
  have split (current : List Char) {line : List Char} (whole : '\n' ∉ line) :
      splitFrom current (line ++ '\n' :: rest) =
        Text.stripReturn (current ++ line) :: splitFrom [] rest := by
    induction line generalizing current with
    | nil => rw [List.nil_append, splitFrom, if_pos rfl, List.append_nil]
    | cons character more inductionHypothesis =>
      have other : character ≠ '\n' := fun same => whole (same ▸ List.mem_cons_self)
      rw [List.cons_append, splitFrom, if_neg other,
        inductionHypothesis _ fun member => whole (List.mem_cons_of_mem _ member),
        List.append_assoc, List.singleton_append]
  have kept : Text.stripReturn line = line := by
    refine if_neg ?_
    intro ends
    exact absurd (printable _ (List.mem_of_getLast? ends)) (by decide)
  rw [linesFrom, split [] whole, List.nil_append, kept, List.filter_cons, if_pos]
  · rfl
  · cases line with
    | nil => exact absurd rfl nonempty
    | cons character more => rfl

variable {encoder : Encoder AuditRecord} {parse : List Char → Option Json}
  {toRfc3339 : Int → String} {text : AuditRecord → List Char} {records : List AuditRecord}

/-- The text of a file with a line for each record. -/
def fileText (text : AuditRecord → List Char) (records : List AuditRecord) : List Char :=
  records.flatMap fun record => text record ++ ['\n']

/-- The lines of records that are printed are their texts. -/
theorem linesFrom_file (prints : ∀ record ∈ records, Prints encoder parse toRfc3339 text record) :
    linesFrom [] (fileText text records) = records.map text := by
  induction records with
  | nil => rfl
  | cons record rest inductionHypothesis =>
    have printed := prints record List.mem_cons_self
    unfold fileText at inductionHypothesis ⊢
    rw [List.flatMap_cons, List.append_assoc, List.singleton_append,
      linesFrom_line printed.printable printed.nonempty,
      inductionHypothesis fun other member => prints other (List.mem_cons_of_mem _ member)]
    rfl

/-- The text of a file is made of complete lines. -/
theorem fileText_complete (records : List AuditRecord) : Complete (fileText text records) := by
  rcases List.eq_nil_or_concat records with rfl | ⟨init, last, rfl⟩
  · exact .inl rfl
  · refine .inr ⟨fileText text init ++ text last, ?_⟩
    simp [fileText]

/-- The bytes of a file with a line for each record. -/
theorem asBytes_file (prints : ∀ record ∈ records, Prints encoder parse toRfc3339 text record) :
    Text.asBytes (fileText text records) = Service.linesOf encoder records := by
  induction records with
  | nil => rfl
  | cons record rest inductionHypothesis =>
    have printed := prints record List.mem_cons_self
    have later := inductionHypothesis fun other member =>
      prints other (List.mem_cons_of_mem _ member)
    have first : Service.linesOf encoder (record :: rest) =
        Text.asBytes (text record) ++ [newline] ++ Service.linesOf encoder rest := by
      rw [Service.linesOf, List.flatMap_cons, printed.encoded]
      rfl
    rw [first, ← later]
    unfold fileText Text.asBytes
    rw [List.flatMap_cons, List.flatMap_append, List.flatMap_append]
    rfl

/-- The documents of printed records after a complete text. -/
theorem documents_append {older : List Char} {known : List Json} (complete : Complete older)
    (parsed : documents parse older = some known)
    (prints : ∀ record ∈ records, Prints encoder parse toRfc3339 text record) :
    documents parse (older ++ fileText text records) =
      some (known ++ records.map (recordDocument toRfc3339)) := by
  have own : (records.map text).mapM parse = some (records.map (recordDocument toRfc3339)) := by
    clear parsed
    induction records with
    | nil => rfl
    | cons record rest inductionHypothesis =>
      rw [List.map_cons, List.mapM_cons, (prints record List.mem_cons_self).parsed,
        inductionHypothesis fun other member => prints other (List.mem_cons_of_mem _ member)]
      rfl
  unfold documents at parsed ⊢
  rw [linesFrom_complete complete, linesFrom_file prints, List.mapM_append, parsed, own]
  rfl

/-! ## The totals -/

/-- The gateway key of a row does not hold the separator. -/
def Separable (gatewayKey : String) : Prop := '\x00' ∉ gatewayKey.toList

/-- The key of a group is both names, with a zero between. -/
theorem groupKey_toList (gatewayKey model : String) :
    (groupKey gatewayKey model).toList = gatewayKey.toList ++ '\x00' :: model.toList := by
  simp [groupKey]

/-- The zero separates them. -/
theorem takeWhile_separable {front back : List Char} (absent : '\x00' ∉ front) :
    (front ++ '\x00' :: back).takeWhile (· ≠ '\x00') = front := by
  rw [List.takeWhile_append_of_pos]
  · simp
  · intro character member
    refine decide_eq_true ?_
    rintro rfl
    exact absent member

/-- Rows with different gateway keys or models have different keys. -/
theorem groupKey_injective {gatewayKey other model another : String}
    (separable : Separable gatewayKey) (apart : Separable other)
    (same : groupKey gatewayKey model = groupKey other another) :
    gatewayKey = other ∧ model = another := by
  have texts := congrArg String.toList same
  rw [groupKey_toList, groupKey_toList] at texts
  have fronts := congrArg (List.takeWhile (· ≠ '\x00')) texts
  rw [takeWhile_separable separable, takeWhile_separable apart] at fronts
  rw [fronts] at texts
  have backs := List.append_cancel_left texts
  exact ⟨String.toList_inj.mp fronts, String.toList_inj.mp (List.cons.inj backs).2⟩

/-- The token count that a report takes from a field. -/
def counted (tokens : Option Nat) : Nat :=
  match tokens with
  | some number => if isSafeInteger number then number else 0
  | none => 0

/-- The sum of a token count over records. -/
def sumOf (tokens : AuditRecord → Option Nat) (records : List AuditRecord) : Nat :=
  (records.map fun record => counted (tokens record)).sum

/-- The row that a report owes to records. -/
def row (gatewayKey model : String) (records : List AuditRecord) : Group where
  gatewayKey := gatewayKey
  model := model
  requests := records.length
  inputTokens := sumOf AuditRecord.inputTokens records
  cachedTokens := sumOf AuditRecord.cachedTokens records
  uncachedTokens := sumOf AuditRecord.uncachedTokens records
  outputTokens := sumOf AuditRecord.outputTokens records

/-- The records that belong to a row. -/
def selected (toRfc3339 : Int → String) (request : Request) (gatewayKey model : String)
    (records : List AuditRecord) : List AuditRecord :=
  records.filter fun record =>
    request.covers (some (.string (toRfc3339 record.timestamp))) &&
      (record.gatewayKey = some gatewayKey && record.model = some model)

/-- The sums of these records are doubles without rounding. -/
structure Exact (records : List AuditRecord) : Prop where
  requests : records.length < 2 ^ 53
  inputTokens : sumOf AuditRecord.inputTokens records < 2 ^ 53
  cachedTokens : sumOf AuditRecord.cachedTokens records < 2 ^ 53
  uncachedTokens : sumOf AuditRecord.uncachedTokens records < 2 ^ 53
  outputTokens : sumOf AuditRecord.outputTokens records < 2 ^ 53

/-- A report has one row for each gateway key and model with records, with their sums, and no
other row. -/
structure Reports (toRfc3339 : Int → String) (request : Request) (records : List AuditRecord)
    (groups : Groups) : Prop where
  rows : ∀ gatewayKey model, Separable gatewayKey →
    groups.lookup (groupKey gatewayKey model) =
      if selected toRfc3339 request gatewayKey model records = [] then none
      else some (row gatewayKey model (selected toRfc3339 request gatewayKey model records))
  distinct : (groups.map Prod.fst).Nodup
  named : ∀ key ∈ groups.map Prod.fst, ∃ gatewayKey model,
    Separable gatewayKey ∧ key = groupKey gatewayKey model

/-- Small numbers are exact doubles. -/
theorem toDouble_exact {number : Nat} (small : number < 2 ^ 53) : toDouble number = number :=
  if_pos small

/-- Rounding does not make a number safe. -/
theorem toDouble_large {number : Nat} (large : 2 ^ 53 ≤ number) : 2 ^ 53 ≤ toDouble number := by
  have positive : number ≠ 0 := by
    rintro rfl
    revert large
    decide
  have digits : 53 ≤ Nat.log2 number := (Nat.le_log2 positive).mpr large
  have unit : 2 ^ 1 ≤ 2 ^ (Nat.log2 number - 52) :=
    Nat.pow_le_pow_right (by decide) (by omega)
  have low : 2 ^ 52 ≤ number / 2 ^ (Nat.log2 number - 52) := by
    rw [Nat.le_div_iff_mul_le (Nat.two_pow_pos _), ← Nat.pow_add]
    have whole : 52 + (Nat.log2 number - 52) = Nat.log2 number := by omega
    rw [whole]
    exact Nat.log2_self_le positive
  have least : 2 ^ 53 ≤ number / 2 ^ (Nat.log2 number - 52) * 2 ^ (Nat.log2 number - 52) :=
    calc 2 ^ 53 = 2 ^ 52 * 2 ^ 1 := by decide
      _ ≤ _ := Nat.mul_le_mul low unit
  rw [toDouble, if_neg (Nat.not_lt.mpr large)]
  dsimp only
  split
  · exact least
  · exact Nat.le_trans least (Nat.mul_le_mul_right _ (Nat.le_succ _))

/-- A number is safe exactly if its double is. -/
theorem isSafeInteger_toDouble (number : Nat) :
    isSafeInteger (toDouble number) = isSafeInteger number := by
  unfold isSafeInteger
  by_cases small : number < 2 ^ 53
  · rw [toDouble_exact small]
  · rw [decide_eq_false small,
      decide_eq_false (Nat.not_lt.mpr (toDouble_large (Nat.le_of_not_lt small)))]

/-- A field of a record's document is added as its count. -/
theorem addField_counted {record : Json} {field : String} {tokens : Option Nat} {total : Nat}
    (stated : record.get field = some (optional .unsigned tokens))
    (small : total + counted tokens < 2 ^ 53) :
    addField record field total = total + counted tokens := by
  unfold addField
  rw [stated]
  cases tokens with
  | none => rfl
  | some number =>
    simp only [optional, addNumber, isSafeInteger_toDouble]
    simp only [counted] at small ⊢
    split
    · rename_i safe
      have itself : number < 2 ^ 53 := of_decide_eq_true safe
      rw [if_pos safe] at small
      rw [toDouble_exact itself, plus, toDouble_exact small]
    · rfl

/-- One more record is one more summand. -/
theorem sumOf_concat (tokens : AuditRecord → Option Nat) (records : List AuditRecord)
    (record : AuditRecord) :
    sumOf tokens (records ++ [record]) = sumOf tokens records + counted (tokens record) := by
  simp [sumOf]

/-- One more record in a row. -/
theorem add_row {gatewayKey model : String} {records : List AuditRecord} {record : AuditRecord}
    (small : Exact (records ++ [record])) :
    (row gatewayKey model records).add (recordDocument toRfc3339 record) =
      row gatewayKey model (records ++ [record]) := by
  obtain ⟨requests, input, cached, uncached, output⟩ := small
  rw [sumOf_concat] at input cached uncached output
  rw [List.length_append, List.length_singleton] at requests
  unfold Group.add row
  rw [sumOf_concat, sumOf_concat, sumOf_concat, sumOf_concat]
  congr 1
  · rw [List.length_append, List.length_singleton]
    exact toDouble_exact requests
  · exact addField_counted rfl input
  · exact addField_counted rfl cached
  · exact addField_counted rfl uncached
  · exact addField_counted rfl output

/-- A row is found by its name. -/
theorem lookup_row (groups : Groups) (name other : String) (group : Group) :
    List.lookup other ((name, group) :: groups) =
      if other = name then some group else groups.lookup other := by
  by_cases same : other = name
  · rw [if_pos same, same, List.lookup_cons_self]
  · rw [if_neg same, List.lookup_cons, beq_false_of_ne same]

/-- A set group is found, and the others as before. -/
theorem lookup_set (groups : Groups) (key other : String) (group : Group) :
    (groups.set key group).lookup other =
      if other = key then some group else groups.lookup other := by
  induction groups with
  | nil => exact lookup_row [] key other group
  | cons first rest inductionHypothesis =>
    obtain ⟨name, row⟩ := first
    unfold Groups.set
    by_cases found : name = key
    · subst found
      rw [if_pos rfl, lookup_row, lookup_row]
      split
      · rfl
      · rfl
    · rw [if_neg found, lookup_row, lookup_row, inductionHypothesis]
      by_cases same : other = name
      · subst same
        rw [if_pos rfl, if_neg found, if_pos rfl]
      · rw [if_neg same, if_neg same]

/-- A set group keeps its place or comes last. -/
theorem keys_set (groups : Groups) (key : String) (group : Group) :
    (groups.set key group).map Prod.fst =
      if key ∈ groups.map Prod.fst then groups.map Prod.fst
      else groups.map Prod.fst ++ [key] := by
  induction groups with
  | nil => rfl
  | cons first rest inductionHypothesis =>
    obtain ⟨name, row⟩ := first
    unfold Groups.set
    by_cases found : name = key
    · subst found
      simp
    · rw [if_neg found, List.map_cons, List.map_cons, inductionHypothesis]
      simp only [List.mem_cons, Ne.symm found, false_or]
      split
      · rfl
      · rfl

/-- Fewer records do not sum to more. -/
theorem sumOf_sublist {tokens : AuditRecord → Option Nat} {part : List AuditRecord}
    (sublist : part.Sublist records) : sumOf tokens part ≤ sumOf tokens records := by
  unfold sumOf
  induction sublist with
  | slnil => exact Nat.le_refl _
  | cons record _ inductionHypothesis =>
    rw [List.map_cons, List.sum_cons]
    omega
  | cons_cons record _ inductionHypothesis =>
    rw [List.map_cons, List.map_cons, List.sum_cons, List.sum_cons]
    omega

/-- Fewer records are exact too. -/
theorem Exact.sublist {part : List AuditRecord} (small : Exact records)
    (sublist : part.Sublist records) : Exact part :=
  ⟨Nat.lt_of_le_of_lt sublist.length_le small.requests,
    Nat.lt_of_le_of_lt (sumOf_sublist sublist) small.inputTokens,
    Nat.lt_of_le_of_lt (sumOf_sublist sublist) small.cachedTokens,
    Nat.lt_of_le_of_lt (sumOf_sublist sublist) small.uncachedTokens,
    Nat.lt_of_le_of_lt (sumOf_sublist sublist) small.outputTokens⟩

variable {request : Request} {record : AuditRecord} {groups : Groups}

/-- One more record is selected by itself. -/
theorem selected_concat (gatewayKey model : String) (records : List AuditRecord)
    (record : AuditRecord) :
    selected toRfc3339 request gatewayKey model (records ++ [record]) =
      selected toRfc3339 request gatewayKey model records ++
        selected toRfc3339 request gatewayKey model [record] :=
  List.filter_append _ _

/-- A record that no row takes changes no report. -/
theorem reports_kept (reports : Reports toRfc3339 request records groups)
    (unselected : ∀ gatewayKey model, selected toRfc3339 request gatewayKey model [record] = []) :
    Reports toRfc3339 request (records ++ [record]) groups := by
  refine ⟨?_, reports.distinct, reports.named⟩
  intro gatewayKey model separable
  rw [selected_concat, unselected, List.append_nil]
  exact reports.rows gatewayKey model separable

/-- The row that the next record is added to. -/
theorem reports_row (reports : Reports toRfc3339 request records groups) {gatewayKey : String}
    (separable : Separable gatewayKey) (model : String) :
    (groups.lookup (groupKey gatewayKey model)).getD (.new gatewayKey model) =
      row gatewayKey model (selected toRfc3339 request gatewayKey model records) := by
  rw [reports.rows gatewayKey model separable]
  split
  · rename_i empty
    rw [empty]
    rfl
  · rfl

/-- A record of a row is added to it, and the other rows stay. -/
theorem reports_set (reports : Reports toRfc3339 request records groups) {mine wanted : String}
    (separable : Separable mine)
    (covered : request.covers (some (.string (toRfc3339 record.timestamp))) = true)
    (owner : record.gatewayKey = some mine) (asked : record.model = some wanted)
    (small : Exact (records ++ [record])) :
    Reports toRfc3339 request (records ++ [record])
      (groups.set (groupKey mine wanted)
        (((groups.lookup (groupKey mine wanted)).getD (.new mine wanted)).add
          (recordDocument toRfc3339 record))) := by
  have chosen (gatewayKey model : String) :
      selected toRfc3339 request gatewayKey model [record] =
        if mine = gatewayKey ∧ wanted = model then [record] else [] := by
    simp [selected, List.filter_cons, covered, owner, asked]
  rw [reports_row reports separable]
  constructor
  · intro gatewayKey model distinctKey
    rw [lookup_set, selected_concat, chosen]
    by_cases same : mine = gatewayKey ∧ wanted = model
    · rw [if_pos same]
      obtain ⟨rfl, rfl⟩ := same
      have sums : Exact (selected toRfc3339 request mine wanted records ++ [record]) :=
        small.sublist (List.filter_sublist.append (List.Sublist.refl _))
      rw [if_pos rfl, if_neg (List.append_ne_nil_of_right_ne_nil _ (List.cons_ne_nil _ _)),
        add_row sums]
    · have apart : groupKey gatewayKey model ≠ groupKey mine wanted := by
        intro equal
        obtain ⟨rfl, rfl⟩ := groupKey_injective distinctKey separable equal
        exact same ⟨rfl, rfl⟩
      rw [if_neg apart, if_neg same, List.append_nil]
      exact reports.rows gatewayKey model distinctKey
  · rw [keys_set]
    split
    · exact reports.distinct
    · rename_i absent
      exact List.nodup_append_comm.mp (List.nodup_cons.mpr ⟨absent, reports.distinct⟩)
  · intro key member
    rw [keys_set] at member
    split at member
    · exact reports.named key member
    · rcases List.mem_append.mp member with earlier | new
      · exact reports.named key earlier
      · exact ⟨mine, wanted, separable, List.mem_singleton.mp new⟩

/-- One more record in the report. -/
theorem reports_add (reports : Reports toRfc3339 request records groups)
    (named : ∀ gatewayKey, record.gatewayKey = some gatewayKey → Separable gatewayKey)
    (small : Exact (records ++ [record])) :
    Reports toRfc3339 request (records ++ [record])
      (addRecord request groups (recordDocument toRfc3339 record)) := by
  have timestamp : (recordDocument toRfc3339 record).get "timestamp" =
      some (.string (toRfc3339 record.timestamp)) := rfl
  have key : (recordDocument toRfc3339 record).get "gateway_key" =
      some (optional .string record.gatewayKey) := rfl
  have name : (recordDocument toRfc3339 record).get "model" =
      some (optional .string record.model) := rfl
  unfold addRecord
  rw [timestamp, key, name]
  cases covered : request.covers (some (.string (toRfc3339 record.timestamp))) with
  | false =>
    refine reports_kept reports ?_
    intro gatewayKey model
    simp [selected, covered]
  | true =>
    cases owner : record.gatewayKey with
    | none =>
      refine reports_kept reports ?_
      intro gatewayKey model
      simp [selected, owner]
    | some mine =>
      cases asked : record.model with
      | none =>
        refine reports_kept reports ?_
        intro gatewayKey model
        simp [selected, asked]
      | some wanted => exact reports_set reports (named mine owner) covered owner asked small

/-- A loop over lines that are documents adds them up. -/
theorem addLines_parsed {lines : List (List Char)} {parsed : List Json}
    (read : (lines.filter fun line => !line.isEmpty).mapM request.parse = some parsed)
    (objects : Json.null ∉ parsed) (groups : Groups) (index : Nat) :
    addLines request groups index lines = .ok (parsed.foldl (addRecord request) groups) := by
  induction lines generalizing parsed groups index with
  | nil =>
    cases read
    rfl
  | cons line rest inductionHypothesis =>
    rw [List.filter_cons] at read
    unfold addLines
    cases blank : line.isEmpty with
    | true =>
      rw [blank] at read
      exact inductionHypothesis read objects groups (index + 1)
    | false =>
      rw [blank, Bool.not_false, if_pos rfl, List.mapM_cons] at read
      obtain ⟨document, here, others⟩ := Option.bind_eq_some_iff.mp read
      obtain ⟨later, parsed, same⟩ := Option.bind_eq_some_iff.mp others
      cases same
      rw [here]
      have onward := inductionHypothesis parsed
        (fun member => objects (List.mem_cons_of_mem _ member))
        (addRecord request groups document) (index + 1)
      cases document with
      | null => exact absurd List.mem_cons_self objects
      | _ => exact onward

/-- Adding up records one after the other. -/
theorem reports_fold (rest : List AuditRecord) : ∀ {done : List AuditRecord} {groups : Groups},
    (∀ record ∈ rest, ∀ gatewayKey, record.gatewayKey = some gatewayKey → Separable gatewayKey) →
    Exact (done ++ rest) → Reports toRfc3339 request done groups →
      Reports toRfc3339 request (done ++ rest)
        ((rest.map (recordDocument toRfc3339)).foldl (addRecord request) groups) := by
  induction rest with
  | nil =>
    intro done groups _ _ reports
    rw [List.append_nil]
    exact reports
  | cons record rest inductionHypothesis =>
    intro done groups named small reports
    rw [List.append_cons done record rest] at small ⊢
    have front : Exact (done ++ [record]) := small.sublist (List.sublist_append_left _ _)
    have added := reports_add reports (named record List.mem_cons_self) front
    exact inductionHypothesis (fun other member => named other (List.mem_cons_of_mem _ member))
      small added

/-- The report over a file of lines. -/
theorem summarize_file
    (prints : ∀ record ∈ records, Prints encoder request.parse toRfc3339 text record)
    (named : ∀ record ∈ records, ∀ gatewayKey, record.gatewayKey = some gatewayKey →
      Separable gatewayKey) (small : Exact records) :
    ∃ groups, summarize request (Text.asBytes (fileText text records)) = .ok groups ∧
      Reports toRfc3339 request records groups := by
  have empty : Reports toRfc3339 request [] [] := ⟨fun _ _ _ => rfl, List.nodup_nil, nofun⟩
  have whole : Exact ([] ++ records) := small
  have parsed : documents request.parse (fileText text records) =
      some (records.map (recordDocument toRfc3339)) :=
    documents_append (.inl rfl) rfl prints
  have objects : Json.null ∉ records.map (recordDocument toRfc3339) := by
    intro member
    obtain ⟨record, _, same⟩ := List.mem_map.mp member
    cases same
  refine ⟨_, ?_, reports_fold records named whole empty⟩
  rw [summarize, request.decodes]
  exact addLines_parsed parsed objects [] 0

/-! ## The files of a run -/

section Runs

variable {old : List UInt8} {capacity : Nat} {first last : Service AuditRecord}
  {trace : List (Runs.Transition (Service AuditRecord) (Action AuditRecord))}

/-- What is handed to a file was accepted. -/
theorem writtenTo_accepted (all : (Service.writes trace).map Prod.fst = last.accepted)
    {file : Nat} {record : AuditRecord} (member : record ∈ Service.writtenTo file trace) :
    record ∈ last.accepted := by
  obtain ⟨write, inside, rfl⟩ := List.mem_map.mp member
  rw [← all]
  exact List.mem_map_of_mem (List.mem_of_mem_filter inside)

/-- If the shutdown of the writer returns well, then every accepted record was written once
and in order, and each file reads back, line by line, as what it held when it was opened and
then the documents of the records that were handed to it. What a file held may be any text of
complete lines that the parser reads.

Proof: a writer that returned well has failed nowhere, so every file is filled with the lines
of its records. These lines follow a complete text, and are split off and parsed one by one. -/
theorem log_reads_back (encodes : ∀ record, ∃ line, encoder.encode record = .ok line)
    (started : Service.spawn old capacity = .ok first)
    (run : Runs.Run (Service.Step encoder) first trace last)
    (returned : last.closing = .returned (.ok ()))
    (prints : ∀ record ∈ last.accepted, Prints encoder parse toRfc3339 text record) :
    (Service.writes trace).map Prod.fst = last.accepted ∧
      ∀ file older known, Service.opened first trace file = Text.asBytes older →
        Complete older → documents parse older = some known →
          ∃ contents, last.contents file = Text.asBytes contents ∧
            documents parse contents = some (known ++
              (Service.writtenTo file trace).map (recordDocument toRfc3339)) := by
  obtain ⟨unfailed, all⟩ := Service.returned_well encodes started run returned
  refine ⟨all, ?_⟩
  intro file older known held complete parsed
  have printed : ∀ record ∈ Service.writtenTo file trace,
      Prints encoder parse toRfc3339 text record :=
    fun record member => prints record (writtenTo_accepted all member)
  refine ⟨older ++ fileText text (Service.writtenTo file trace), ?_,
    documents_append complete parsed printed⟩
  rw [(Service.run_filled started run unfailed).held file, held, ← asBytes_file printed]
  unfold Text.asBytes
  rw [List.flatMap_append]

/-- A record of a request that used some tokens. -/
def sampleRecord (gatewayKey : String) (tokens : Nat) : AuditRecord where
  timestamp := 0
  requestId := "r"
  model := some "m"
  keyFingerprint := none
  gatewayKey := some gatewayKey
  inputTokens := some tokens
  cachedTokens := none
  uncachedTokens := none
  cacheWriteTokens := none
  outputTokens := some 1
  reasoningTokens := none
  status := 200
  outcome := some .completed
  latency := 1500000
  opencodeSessionId := none
  opencodeProjectId := none
  opencodeRequestId := none
  attempts := []

/-- Texts for three records. -/
def sampleText (record : AuditRecord) : List Char :=
  match record.inputTokens with
  | some 7 => ['7']
  | some 5 => ['5']
  | _ => ['3']

/-- A printer that is good for these. -/
def samplePrinter : Encoder AuditRecord where
  encode := fun record => .ok (Text.asBytes (sampleText record))
  plain := by
    rintro record line encoded
    cases encoded
    unfold sampleText
    split <;> decide

/-- And a parser of their texts. -/
def sampleParse (text : List Char) : Option Json :=
  if text = ['7'] then some (recordDocument (fun _ => "t") (sampleRecord "a" 7))
  else if text = ['5'] then some (recordDocument (fun _ => "t") (sampleRecord "a" 5))
  else some (recordDocument (fun _ => "t") (sampleRecord "b" 3))

/-- The three records are printed and parsed. -/
theorem sample_prints : ∀ record ∈ [sampleRecord "a" 7, sampleRecord "a" 5, sampleRecord "b" 3],
    Prints samplePrinter sampleParse (fun _ => "t") sampleText record := by
  intro record member
  simp only [List.mem_cons, List.not_mem_nil, or_false] at member
  have printable (digit : Char) (high : 32 ≤ digit.toNat) :
      ∀ character ∈ [digit], 32 ≤ character.toNat := by
    intro character inside
    rw [List.mem_singleton.mp inside]
    exact high
  rcases member with rfl | rfl | rfl
  · exact ⟨rfl, printable '7' (by decide), by decide, rfl⟩
  · exact ⟨rfl, printable '5' (by decide), by decide, rfl⟩
  · exact ⟨rfl, printable '3' (by decide), by decide, rfl⟩

/-- A log with a line from an earlier run, and a writer that appends to it. -/
def sampleLog : Service AuditRecord where
  writer := ⟨0, 0, false, false, true⟩
  channel := .new 2
  thread := ⟨.receiving, ⟨none, 0⟩, none, false⟩
  files := [Text.asBytes (fileText sampleText [sampleRecord "a" 7])]
  offers := []
  reopens := []
  closing := .serving
  clock := 0
  stderr := []

/-- Two records are written, the second one to another file that also has a line already. -/
def sampleActions : List (Action AuditRecord) :=
  [.tryRecord (sampleRecord "a" 5), .receive, .writeAll .done, .reopen "new", .receive,
    .openAppend (.fresh (Text.asBytes (fileText sampleText [sampleRecord "a" 7]))), .awaitReply 0,
    .tryRecord (sampleRecord "b" 3), .shutdown, .receive, .writeAll .done, .receive, .flush none,
    .join]

/-- The steps of these actions and what they lead to. -/
theorem sampleActions_replayed :
    let trace := Runs.steps (·.perform samplePrinter) sampleLog sampleActions
    (Runs.record (·.perform samplePrinter) sampleLog sampleActions).isSome ∧
      (Runs.reached (·.perform samplePrinter) sampleLog sampleActions).closing =
        .returned (.ok ()) ∧
      (Runs.reached (·.perform samplePrinter) sampleLog sampleActions).accepted =
        [sampleRecord "a" 5, sampleRecord "b" 3] ∧
      Service.writtenTo 1 trace = [sampleRecord "b" 3] ∧
      Service.opened sampleLog trace 1 =
        Text.asBytes (fileText sampleText [sampleRecord "a" 7]) := by
  refine ⟨?_, ?_, ?_, ?_, ?_⟩
  all_goals decide +kernel

/-- Both files of a log with older lines are read back. -/
theorem log_reads_back_rotation :
    (Service.writes (Runs.steps (·.perform samplePrinter) sampleLog sampleActions)).map Prod.fst =
      [sampleRecord "a" 5, sampleRecord "b" 3] ∧
    ∃ contents, (Runs.reached (·.perform samplePrinter) sampleLog sampleActions).contents 1 =
        Text.asBytes contents ∧
      documents sampleParse contents = some ([sampleRecord "a" 7, sampleRecord "b" 3].map
        (recordDocument fun _ => "t")) := by
  obtain ⟨enabled, returned, accepted, written, held⟩ := sampleActions_replayed
  obtain ⟨all, reads⟩ := log_reads_back (fun _ => ⟨_, rfl⟩)
    (show Service.spawn _ 2 = .ok sampleLog from rfl) (Runs.replay_run enabled) returned
    (by
      rw [accepted]
      exact fun record member => sample_prints record (List.mem_cons_of_mem _ member))
  rw [accepted] at all
  obtain ⟨contents, same, parsed⟩ := reads 1 _ _ held (fileText_complete _)
    (documents_append (.inl rfl) rfl fun record member =>
      sample_prints record (List.mem_cons.mpr (.inl (List.mem_singleton.mp member))))
  rw [written] at parsed
  exact ⟨all, contents, same, parsed⟩

/-- The report over a file of a writer whose shutdown returned well has a row for exactly the
gateway keys and models with records in the window, and its totals are theirs. The records are
those whose lines stood in the file when it was opened and those that were handed to it.

Proof: the file is a text with a line for each of these records, so the loop of the tool adds
up their documents, and each of them is added to the row of its gateway key and model. -/
theorem summary_totals (encodes : ∀ record, ∃ line, encoder.encode record = .ok line)
    (request : Request) (started : Service.spawn old capacity = .ok first)
    (run : Runs.Run (Service.Step encoder) first trace last)
    (returned : last.closing = .returned (.ok ())) (file : Nat) (older : List AuditRecord)
    (held : Service.opened first trace file = Text.asBytes (fileText text older))
    (prints : ∀ record ∈ older ++ last.accepted,
      Prints encoder request.parse toRfc3339 text record)
    (named : ∀ record ∈ older ++ Service.writtenTo file trace, ∀ gatewayKey,
      record.gatewayKey = some gatewayKey → Separable gatewayKey)
    (small : Exact (older ++ Service.writtenTo file trace)) :
    ∃ groups, summarize request (last.contents file) = .ok groups ∧
      Reports toRfc3339 request (older ++ Service.writtenTo file trace) groups := by
  obtain ⟨unfailed, all⟩ := Service.returned_well encodes started run returned
  have printed : ∀ record ∈ older ++ Service.writtenTo file trace,
      Prints encoder request.parse toRfc3339 text record := by
    intro record member
    rcases List.mem_append.mp member with earlier | own
    · exact prints record (List.mem_append_left _ earlier)
    · exact prints record (List.mem_append_right _ (writtenTo_accepted all own))
  have contents : last.contents file =
      Text.asBytes (fileText text (older ++ Service.writtenTo file trace)) := by
    rw [(Service.run_filled started run unfailed).held file, held, asBytes_file printed,
      asBytes_file fun record member => printed record (List.mem_append_left _ member),
      Service.linesOf, Service.linesOf, Service.linesOf, List.flatMap_append]
  rw [contents]
  exact summarize_file printed named small

/-- A report over all of a log, for a runtime that knows no date but one. -/
def sampleRequest : Request where
  decode := fun bytes => (Text.fromUtf8 bytes).getD []
  decodes := fun text => by rw [Text.fromUtf8_asBytes]; rfl
  parse := sampleParse
  date := fun _ => some 0
  from_ := some 0
  to_ := none

/-- The report over the second file has the totals of its two lines. -/
theorem summary_totals_rotation :
    row "b" "m" [sampleRecord "b" 3] = ⟨"b", "m", 1, 3, 0, 0, 1⟩ ∧
    ∃ groups, summarize sampleRequest
        ((Runs.reached (·.perform samplePrinter) sampleLog sampleActions).contents 1) = .ok groups ∧
      Reports (fun _ => "t") sampleRequest [sampleRecord "a" 7, sampleRecord "b" 3] groups := by
  obtain ⟨enabled, returned, accepted, written, held⟩ := sampleActions_replayed
  have totals := summary_totals (fun _ => ⟨_, rfl⟩) sampleRequest
    (show Service.spawn _ 2 = .ok sampleLog from rfl) (Runs.replay_run enabled) returned 1
    [sampleRecord "a" 7] held (by rw [accepted]; exact sample_prints)
  rw [written] at totals
  refine ⟨by decide, totals ?_ ?_⟩
  · intro record member gatewayKey owner
    have same : gatewayKey = "a" ∨ gatewayKey = "b" := by
      simp only [List.singleton_append, List.mem_cons, List.not_mem_nil, or_false] at member
      rcases member with rfl | rfl
      · exact .inl (Option.some.inj owner).symm
      · exact .inr (Option.some.inj owner).symm
    unfold Separable
    rcases same with rfl | rfl <;> decide
  · exact ⟨by decide, by decide, by decide, by decide, by decide⟩

end Runs

end Summary

end Orihsus.Audit
