import Mathlib.Data.Rat.Defs

/-!
# Token usage of a response

`extract_usage` of `src/gateway.rs` reads token counts from a JSON document. The
document is what the JSON library returns: its parser is a parameter, a number is
unsigned, negative or a float as that library tells them apart, and an object has
each name once.
-/

namespace Orihsus.Gateway

/-- A parsed JSON document. -/
inductive Json where
  | null
  | bool (value : Bool)
  | unsigned (value : Nat)
  | negative (value : Int)
  | float (value : Rat)
  | string (text : String)
  | array (items : List Json)
  | object (fields : List (String × Json))

namespace Json

/-- `value[name]`: null for a missing name and for anything but an object. -/
def index (value : Json) (name : String) : Json :=
  match value with
  | .object fields => (fields.lookup name).getD .null
  | _ => .null

/-- `Value::get` with a name. -/
def get (value : Json) (name : String) : Option Json :=
  match value with
  | .object fields => fields.lookup name
  | _ => none

/-- `Value::as_f64`, exactly. -/
def asF64 : Json → Option Rat
  | .unsigned value => some value
  | .negative value => some value
  | .float value => some value
  | _ => none

/-- `Value::as_u64`. -/
def asU64 : Json → Option Nat
  | .unsigned value => some value
  | _ => none

/-- `Value::as_str`. -/
def asStr : Json → Option String
  | .string text => some text
  | _ => none

end Json

/-- Token counts of one response. -/
structure RequestUsage where
  inputTokens : Nat
  cachedTokens : Nat
  uncachedTokens : Nat
  cacheWriteTokens : Option Nat
  outputTokens : Nat
  reasoningTokens : Option Nat
  deriving DecidableEq, Repr

/-- The counts in a document: the OpenAI names first, then the Anthropic ones. -/
def usageOf (document : Json) : Option RequestUsage := do
  let usage := document.index "usage"
  let inputTokens ← (usage.index "prompt_tokens").asU64.orElse
    fun _ => (usage.index "input_tokens").asU64
  let outputTokens ← (usage.index "completion_tokens").asU64.orElse
    fun _ => (usage.index "output_tokens").asU64
  let details := usage.index "prompt_tokens_details"
  let cached := ((details.index "cached_tokens").asU64.orElse
    fun _ => (usage.index "prompt_cache_hit_tokens").asU64.orElse
      fun _ => (usage.index "cache_read_input_tokens").asU64).getD 0
  let cachedTokens := min cached inputTokens
  let cacheWriteTokens := (details.index "cache_write_tokens").asU64.orElse
    fun _ => (usage.index "cache_write_tokens").asU64.orElse
      fun _ => (usage.index "cache_creation_input_tokens").asU64
  let reasoningTokens :=
    ((usage.index "completion_tokens_details").index "reasoning_tokens").asU64.orElse
      fun _ => ((usage.index "output_tokens_details").index "reasoning_tokens").asU64.orElse
        fun _ => (usage.index "reasoning_tokens").asU64
  pure {
    inputTokens, cachedTokens
    uncachedTokens := inputTokens - cachedTokens
    cacheWriteTokens, outputTokens, reasoningTokens }

/-- `extract_usage`. -/
def extractUsage (parseJson : List UInt8 → Option Json) (body : List UInt8) :
    Option RequestUsage :=
  (parseJson body).bind usageOf

end Orihsus.Gateway
