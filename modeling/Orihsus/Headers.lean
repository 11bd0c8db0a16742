import Orihsus.Text

/-!
# Header maps

The header multimap of the HTTP library and the functions of `src/gateway.rs` that
decide which upstream headers reach the client. A name is kept in lower case, as
the library keeps it; the entries stand in iteration order, with the values of one
name in the order they were appended.
-/

namespace Orihsus.Gateway

/-- A header map in iteration order. -/
abbrev HeaderMap := List (List Char × List UInt8)

namespace HeaderMap

/-- `HeaderMap::get`: the first value of a name. -/
def get (headers : HeaderMap) (name : String) : Option (List UInt8) :=
  headers.lookup name.toList

/-- `HeaderMap::get_all`. -/
def getAll (headers : HeaderMap) (name : String) : List (List UInt8) :=
  (headers.filter (fun header => header.1 == name.toList)).map Prod.snd

/-- `HeaderMap::contains_key`. -/
def containsKey (headers : HeaderMap) (name : String) : Bool :=
  headers.any fun header => header.1 == name.toList

variable {headers : HeaderMap} {name : String}

/-- The first value of a name is the first of all its values. -/
theorem get_eq_head : headers.get name = (headers.getAll name).head? := by
  induction headers with
  | nil => rfl
  | cons header rest inductionHypothesis =>
    obtain ⟨own, value⟩ := header
    simp only [get, getAll, List.lookup_cons, List.filter_cons] at inductionHypothesis ⊢
    by_cases same : own = name.toList
    · simp [same]
    · have different : (name.toList == own) = false := by simpa using Ne.symm same
      have unmatched : (own == name.toList) = false := by simpa using same
      simp only [different, unmatched, inductionHypothesis]
      rfl

/-- A name that is not contained has no values. -/
theorem containsKey_iff : headers.containsKey name = true ↔ headers.getAll name ≠ [] := by
  simp [containsKey, getAll]

/-- A filter by names keeps all values of a name or none. -/
theorem getAll_filter (keep : List Char → Bool) :
    HeaderMap.getAll (headers.filter fun header => keep header.1) name =
      if keep name.toList then headers.getAll name else [] := by
  induction headers with
  | nil => simp [getAll]
  | cons header rest inductionHypothesis =>
    by_cases same : header.1 = name.toList
    · by_cases kept : keep name.toList = true
      · simp_all [getAll]
      · simp_all [getAll]
    · by_cases kept : keep header.1 = true
      · simp_all [getAll]
      · simp_all [getAll]

/-- `HeaderMap::into_iter` after a name: only the first value of a name comes with it. -/
def intoIterAfter (last : Option (List Char)) :
    HeaderMap → List (Option (List Char) × List UInt8)
  | [] => []
  | (name, value) :: rest =>
      (if last = some name then none else some name, value) :: intoIterAfter (some name) rest

/-- `HeaderMap::into_iter`. -/
def intoIter (headers : HeaderMap) : List (Option (List Char) × List UInt8) :=
  headers.intoIterAfter none

/-- The values in both parts. -/
theorem getAll_append (more : HeaderMap) :
    HeaderMap.getAll (headers ++ more) name = headers.getAll name ++ more.getAll name := by
  simp [getAll]

end HeaderMap

/-- `HeaderValue::to_str`: only visible ASCII, blanks and tabs are text. -/
def toStr (value : List UInt8) : Option (List Char) :=
  if value.all (fun byte => (32 ≤ byte && byte < 127) || byte = 9) then
    some (value.map (fun byte => Char.ofNat byte.toNat))
  else none

/-- `HOP_BY_HOP`. -/
def hopByHop : List String :=
  ["connection", "keep-alive", "proxy-authenticate", "proxy-authorization", "te", "trailer",
    "transfer-encoding", "upgrade"]

def isHopByHop (lowercased : List Char) : Bool :=
  (hopByHop.map String.toList).contains lowercased

/-- `connection_named_headers`: every part of every readable Connection value. -/
def connectionNamedHeaders (headers : HeaderMap) : List (List Char) :=
  ((headers.getAll "connection").filterMap toStr).flatMap fun value =>
    (value.splitOn ',').map fun part => Text.toAsciiLowercase (Text.trim part)

/-- `filter_response_headers`. -/
def filterResponseHeaders (headers : HeaderMap) : HeaderMap :=
  let connection := connectionNamedHeaders headers
  headers.filter fun header =>
    let name := Text.toAsciiLowercase header.1
    !(isHopByHop name || connection.contains name) &&
      !(name == "content-length".toList || name == "transfer-encoding".toList)

/-- The names that the filter lets through. -/
def Forwardable (headers : HeaderMap) (name : String) : Prop :=
  isHopByHop (Text.toAsciiLowercase name.toList) = false ∧
    Text.toAsciiLowercase name.toList ∉ connectionNamedHeaders headers ∧
    Text.toAsciiLowercase name.toList ≠ "content-length".toList

instance (headers : HeaderMap) (name : String) : Decidable (Forwardable headers name) :=
  inferInstanceAs (Decidable (_ ∧ _ ∧ _))

/-- An end-to-end name passes the filter unless the Connection header lists it. -/
theorem forwardable_iff {headers : HeaderMap} {name : String}
    (lowered : Text.toAsciiLowercase name.toList = name.toList)
    (own : isHopByHop name.toList = false) (unsized : name.toList ≠ "content-length".toList) :
    Forwardable headers name ↔ name.toList ∉ connectionNamedHeaders headers := by
  rw [Forwardable, lowered]
  constructor
  · intro passes
    exact passes.2.1
  · intro unnamed
    exact ⟨own, unnamed, unsized⟩

/-- The filter keeps all values of a name that it lets through, in order. That it also
asks for transfer-encoding by itself makes no difference, as this is a hop-by-hop name. -/
theorem filterResponseHeaders_getAll (headers : HeaderMap) (name : String) :
    HeaderMap.getAll (filterResponseHeaders headers) name =
      if Forwardable headers name then headers.getAll name else [] := by
  rw [filterResponseHeaders, HeaderMap.getAll_filter (fun name =>
    !(isHopByHop (Text.toAsciiLowercase name) ||
        (connectionNamedHeaders headers).contains (Text.toAsciiLowercase name)) &&
      !(Text.toAsciiLowercase name == "content-length".toList ||
        Text.toAsciiLowercase name == "transfer-encoding".toList))]
  generalize lowered : Text.toAsciiLowercase name.toList = lower
  have framing : lower = "transfer-encoding".toList → isHopByHop lower = true := by
    intro framed
    rw [framed]
    decide
  refine if_congr ?_ rfl rfl
  have listed : (connectionNamedHeaders headers).contains lower = false ↔
      lower ∉ connectionNamedHeaders headers := by
    rw [← Bool.not_eq_true, List.contains_iff_mem]
  simp only [Forwardable, lowered, Bool.and_eq_true, Bool.not_eq_true', Bool.or_eq_false_iff,
    listed, beq_eq_false_iff_ne]
  constructor
  · rintro ⟨⟨own, unnamed⟩, unsized, _⟩
    exact ⟨own, unnamed, unsized⟩
  · rintro ⟨own, unnamed, unsized⟩
    refine ⟨⟨own, unnamed⟩, unsized, fun framed => ?_⟩
    rw [framing framed] at own
    cases own

end Orihsus.Gateway
