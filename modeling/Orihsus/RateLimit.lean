import Orihsus.Headers
import Orihsus.Pool
import Orihsus.Usage

/-!
# Rate limits

How `src/gateway.rs` reads a 429: the classification of its body and the
Retry-After header. The parsers of JSON and of HTTP dates belong to libraries and
are parameters; dates and the wall clock count nanoseconds from one epoch.
-/

namespace Orihsus.Gateway

open Pool (UsageDimension fromSecs)

/-- Result of classifying an upstream 429 error body. -/
inductive RateLimitKind where
  | usageLimit (dimension : UsageDimension) (cooldown : Nat)
  | generic
  deriving DecidableEq, Repr

/-- The seconds of a unit, in the singular. -/
def unitSeconds (unit : List Char) : Option Nat :=
  if unit = "second".toList then some 1
  else if unit = "minute".toList then some 60
  else if unit = "hour".toList then some 3600
  else if unit = "day".toList then some 86400
  else none

/-- `parse_resets_in`. The product is checked against the width of a `u64`. -/
def parseResetsIn (message : List Char) : Option Nat := do
  let found ← Text.afterFirst "resets in".toList (Text.toAsciiLowercase message)
  let rest := Text.trimStart found
  let digits := rest.takeWhile Char.isDigit
  let count ← Text.parseU64 digits
  guard (count ≠ 0)
  let unit := (Text.trimStart (rest.drop digits.length)).takeWhile Char.isAlpha
  let seconds ← unitSeconds (Text.trimEndMatches 's' unit)
  guard (count * seconds < 2 ^ 64)
  pure (fromSecs (count * seconds))

/-- The usage dimension a limit's name stands for. -/
def limitDimension : Option String → Option UsageDimension
  | some "weekly" => some .weekly
  | some "monthly" => some .monthly
  | some "5h" => some .fiveHour
  | _ => none

/-- The cooldown of a usage limit whose message states none. -/
def defaultCooldown : UsageDimension → Nat
  | .weekly => fromSecs (7 * 24 * 3600)
  | .monthly => fromSecs (31 * 24 * 3600)
  | .fiveHour => fromSecs (5 * 3600)

/-- The kind of rate limit a parsed document states. -/
def documentKind (value : Json) : RateLimitKind :=
  if ((value.index "error").index "type").asStr ≠ some "GoUsageLimitError" then .generic
  else
    match limitDimension ((value.index "metadata").index "limitName").asStr with
    | none => .generic
    | some dimension =>
        let message := (((value.index "error").index "message").asStr.getD "").toList
        .usageLimit dimension ((parseResetsIn message).getD (defaultCooldown dimension))

/-- `classify_429`. -/
def classify429 (parseJson : List UInt8 → Option Json) (body : List UInt8) (overflowed : Bool) :
    RateLimitKind :=
  if overflowed then .generic
  else if !(ByteArray.mk body.toArray).validateUTF8 then .generic
  else
    match parseJson body with
    | none => .generic
    | some value => documentKind value

/-- `parse_retry_after`: seconds, or a date of which the past is no wait at all. -/
def parseRetryAfter (parseHttpDate : List Char → Option Int) (value : List UInt8) (now : Int) :
    Option Nat := do
  let text ← (toStr value).map Text.trim
  match Text.parseU64 text with
  | some seconds => pure (fromSecs seconds)
  | none =>
      let retryAt ← parseHttpDate text
      pure (retryAt - now).toNat

end Orihsus.Gateway
