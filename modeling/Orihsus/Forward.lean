import Orihsus.Admission
import Orihsus.Config
import Orihsus.Failover

/-!
# The upstream request

`forward_request` of `src/gateway.rs` with its filter of client headers, the model that a
request names, and the identity that the audit line records of a client. A client may
write a header name in any case; the HTTP library keeps it in lower case.

The request builder refuses a value with control characters, and then nothing is sent. The
headers that the HTTP client adds by itself are not part of the list that is built here.
-/

namespace Orihsus.Gateway

open Pool (Secret Selection)

/-! ## The model of a request -/

/-- `extract_model`. -/
def extractModel (parseJson : List UInt8 → Option Json) (body : List UInt8) : Option String :=
  (parseJson body).bind fun document => (document.index "model").asStr

/-- The model is short enough and one of those that the snapshot allows. -/
def modelAllowed (snapshot : RuntimeState) (model : String) : Bool :=
  !(Configuration.maxModelBytes < Configuration.byteLen model || !snapshot.models.contains model)

/-! ## Which client headers are forwarded -/

/-- The names that `is_sensitive_request_header` lists. -/
def sensitiveRequestHeaders : List String :=
  ["authorization", "proxy-authorization", "cookie", "cookie2", "x-api-key", "api-key",
    "x-real-ip", "forwarded", "x-forwarded-for", "x-forwarded-host", "x-forwarded-proto",
    "x-forwarded-port", "baggage", "traceparent", "tracestate", "b3", "x-ot-span-context",
    "grpc-trace-bin"]

/-- `is_sensitive_request_header`. -/
def isSensitiveRequestHeader (lowercased : List Char) : Bool :=
  (sensitiveRequestHeaders.map String.toList).contains lowercased ||
    "-authorization".toList.isSuffixOf lowercased || "-api-key".toList.isSuffixOf lowercased ||
    "x-forwarded-".toList.isPrefixOf lowercased || "x-b3-".toList.isPrefixOf lowercased

/-- `should_forward_request_header`. -/
def shouldForwardRequestHeader (lowercased : List Char) (connection : List (List Char))
    (api : UpstreamApi) : Bool :=
  if isHopByHop lowercased || connection.contains lowercased ||
      isSensitiveRequestHeader lowercased then false
  else
    "x-opencode-".toList.isPrefixOf lowercased ||
      (["content-type", "accept", "user-agent"].map String.toList).contains lowercased ||
      (api = .messages &&
        (["anthropic-version", "anthropic-beta"].map String.toList).contains lowercased)

/-! ## The request -/

/-- `OPENCODE_SESSION_HEADER`. -/
def opencodeSessionHeader : String := "x-opencode-session"

/-- `upstream_api_url`. The base URL ends in a slash. -/
def upstreamApiUrl (base : String) : UpstreamApi → String
  | .chatCompletions => base ++ "v1/chat/completions"
  | .messages => base ++ "v1/messages"
  | .responses => base ++ "v1/responses"

/-- `HeaderValue::from_str`. -/
def headerValue (text : String) : Option (List UInt8) :=
  let bytes := Text.asBytes text.toList
  if bytes.all (fun byte => (32 ≤ byte && byte != 127) || byte = 9) then some bytes else none

/-- The header that carries the selected key, and its text. -/
def credentialHeader (api : UpstreamApi) (key : Secret) : String × String :=
  match api with
  | .messages => ("x-api-key", key.asStr)
  | _ => ("authorization", "Bearer " ++ key.asStr)

/-- What is sent to the upstream. -/
structure UpstreamRequest where
  url : String
  headers : HeaderMap
  body : List UInt8
  deriving DecidableEq, Repr

/-- `RequestBuilder::header` with a text of the gateway's own. -/
def appendText (headers : HeaderMap) (name text : String) : Option HeaderMap :=
  (headerValue text).map fun value => headers ++ [(name.toList, value)]

/-- The client headers that pass the filter. -/
def forwardedHeaders (api : UpstreamApi) (headers : HeaderMap) : HeaderMap :=
  let connection := connectionNamedHeaders headers
  headers.filter fun header =>
    shouldForwardRequestHeader (Text.toAsciiLowercase header.1) connection api

/-- The fallback session, where the client brings none. -/
def appendSession (headers forwarded : HeaderMap) (fallbackSessionId : String) :
    Option HeaderMap :=
  if headers.containsKey opencodeSessionHeader then some forwarded
  else appendText forwarded opencodeSessionHeader fallbackSessionId

/-- `forward_request`, up to the send. -/
def forwardRequest (selection : Selection) (headers : HeaderMap) (fallbackSessionId : String)
    (body : List UInt8) (baseUrl : String) (api : UpstreamApi) : Option UpstreamRequest := do
  let identified ← appendSession headers (forwardedHeaders api headers) fallbackSessionId
  let credential := credentialHeader api selection.key
  let complete ← appendText identified credential.1 credential.2
  pure { url := upstreamApiUrl baseUrl api, headers := complete, body := body }

/-! ## The identity in the audit line -/

/-- `MAX_AUDIT_ID_BYTES`. -/
def maxAuditIdBytes : Nat := 256

structure RequestAudit where
  gatewayKey : Option String
  opencodeSessionId : Option String
  opencodeProjectId : Option String
  opencodeRequestId : Option String
  attempts : List AttemptSummary
  deriving DecidableEq, Repr

/-- A readable value of bounded length. -/
def boundedValue (headers : HeaderMap) (name : String) : Option String :=
  (((headers.get name).bind toStr).filter fun text =>
    decide ((Text.asBytes text).length ≤ maxAuditIdBytes)).map String.ofList

/-- `RequestAudit::from_headers`. -/
def RequestAudit.fromHeaders (headers : HeaderMap) : RequestAudit where
  gatewayKey := none
  opencodeSessionId := boundedValue headers opencodeSessionHeader
  opencodeProjectId := boundedValue headers "x-opencode-project"
  opencodeRequestId := boundedValue headers "x-opencode-request"
  attempts := []

/-- A request that brings no session is recorded with the fallback. -/
def RequestAudit.withSession (audit : RequestAudit) (headers : HeaderMap)
    (fallbackSessionId : String) : RequestAudit :=
  if headers.containsKey opencodeSessionHeader then audit
  else { audit with opencodeSessionId := some fallbackSessionId }

/-! ## Credentials are isolated -/

/-- What a client sends, name by name in the case it chose. -/
abbrev SentHeaders := List (List Char × List UInt8)

/-- The map that the HTTP library makes of it. -/
def received (sent : SentHeaders) : HeaderMap :=
  sent.map fun header => (Text.toAsciiLowercase header.1, header.2)

/-- Some readable Connection value lists the name. -/
def ListedByConnection (sent : SentHeaders) (name : List Char) : Prop :=
  ∃ header ∈ sent, Text.toAsciiLowercase header.1 = "connection".toList ∧
    ∃ text, toStr header.2 = some text ∧
      name ∈ (text.splitOn ',').map fun part => Text.toAsciiLowercase (Text.trim part)

/-- The classes of names that a client may not send through. -/
inductive Denied (sent : SentHeaders) (name : List Char) : Prop
  | hopByHop (listed : name ∈ hopByHop.map String.toList)
  | connection (listed : ListedByConnection sent name)
  | sensitive (listed : name ∈ sensitiveRequestHeaders.map String.toList)
  | authorization (ends : "-authorization".toList <:+ name)
  | apiKey (ends : "-api-key".toList <:+ name)
  | forwarded (starts : "x-forwarded-".toList <+: name)
  | tracing (starts : "x-b3-".toList <+: name)

variable {sent : SentHeaders} {name : List Char} {api : UpstreamApi} {headers : HeaderMap}
  {selection : Selection} {fallbackSessionId baseUrl : String} {body : List UInt8}
  {request : UpstreamRequest}

/-- The names that Connection lists. -/
theorem mem_connectionNamedHeaders :
    name ∈ connectionNamedHeaders (received sent) ↔ ListedByConnection sent name := by
  simp only [connectionNamedHeaders, HeaderMap.getAll, received, List.mem_flatMap,
    List.mem_filterMap, List.mem_map, List.mem_filter, beq_iff_eq, ListedByConnection]
  constructor
  · rintro ⟨text, ⟨value, ⟨header, ⟨⟨original, member, rfl⟩, named⟩, rfl⟩, readable⟩, listed⟩
    exact ⟨original, member, named, text, readable, listed⟩
  · rintro ⟨original, member, named, text, readable, listed⟩
    exact ⟨text, ⟨original.2, ⟨_, ⟨⟨original, member, rfl⟩, named⟩, rfl⟩, readable⟩, listed⟩

/-- The filter refuses every denied name, whatever the allow rules say of it. -/
theorem denied_not_forwarded (denied : Denied sent name) :
    shouldForwardRequestHeader name (connectionNamedHeaders (received sent)) api = false := by
  have refused : (isHopByHop name || (connectionNamedHeaders (received sent)).contains name ||
      isSensitiveRequestHeader name) = true := by
    simp only [isHopByHop, isSensitiveRequestHeader, Bool.or_eq_true, List.contains_iff_mem,
      List.isSuffixOf_iff_suffix, List.isPrefixOf_iff_prefix, mem_connectionNamedHeaders]
    cases denied with
    | hopByHop listed => exact .inl (.inl listed)
    | connection listed => exact .inl (.inr listed)
    | sensitive listed => exact .inr (.inl (.inl (.inl (.inl listed))))
    | authorization ends => exact .inr (.inl (.inl (.inl (.inr ends))))
    | apiKey ends => exact .inr (.inl (.inl (.inr ends)))
    | forwarded starts => exact .inr (.inl (.inr starts))
    | tracing starts => exact .inr (.inr starts)
  rw [shouldForwardRequestHeader, if_pos refused]

/-- A name that is forwarded is not sensitive. -/
theorem forwarded_not_sensitive {connection : List (List Char)}
    (forwards : shouldForwardRequestHeader name connection api = true) :
    isSensitiveRequestHeader name = false := by
  unfold shouldForwardRequestHeader at forwards
  split at forwards
  · cases forwards
  · rename_i passed
    simp only [Bool.or_eq_true, not_or, Bool.not_eq_true] at passed
    exact passed.2

/-- The header that stands in for a missing session. -/
def sessionFallback (headers : HeaderMap) (fallbackSessionId : String) : HeaderMap :=
  if headers.containsKey opencodeSessionHeader then []
  else [(opencodeSessionHeader.toList, Text.asBytes fallbackSessionId.toList)]

/-- The header that carries the selected key. -/
def credential (api : UpstreamApi) (key : Secret) : List Char × List UInt8 :=
  ((credentialHeader api key).1.toList, Text.asBytes (credentialHeader api key).2.toList)

/-- An appended header comes last. -/
theorem appendText_some {complete : HeaderMap} {title text : String}
    (appended : appendText headers title text = some complete) :
    complete = headers ++ [(title.toList, Text.asBytes text.toList)] := by
  unfold appendText headerValue at appended
  dsimp only at appended
  split at appended
  · cases appended
    rfl
  · cases appended

/-- So does the session, if there was none. -/
theorem appendSession_some {forwarded identified : HeaderMap}
    (named : appendSession headers forwarded fallbackSessionId = some identified) :
    identified = forwarded ++ sessionFallback headers fallbackSessionId := by
  unfold appendSession at named
  unfold sessionFallback
  split at named
  · rename_i present
    cases named
    rw [if_pos present, List.append_nil]
  · rename_i missing
    rw [if_neg missing]
    exact appendText_some named

/-- The list that `forward_request` builds: what passes the filter, a session where the
client brings none, and the key. -/
theorem forwardRequest_headers
    (built : forwardRequest selection headers fallbackSessionId body baseUrl api = some request) :
    request.headers = forwardedHeaders api headers ++ sessionFallback headers fallbackSessionId ++
      [credential api selection.key] := by
  obtain ⟨identified, named, rest⟩ := Option.bind_eq_some_iff.mp built
  obtain ⟨complete, appended, done⟩ := Option.bind_eq_some_iff.mp rest
  cases done
  rw [appendText_some appended, appendSession_some named]
  rfl

/-- Received names are in lower case. -/
theorem received_lowercase {header : List Char × List UInt8} (member : header ∈ received sent) :
    Text.toAsciiLowercase header.1 = header.1 := by
  obtain ⟨original, _, rfl⟩ := List.mem_map.mp member
  exact Text.toAsciiLowercase_lowercase original.1

/-- On a map with lower-case names the filter looks at the names as they are. -/
theorem forwardedHeaders_received :
    forwardedHeaders api (received sent) = (received sent).filter fun header =>
      shouldForwardRequestHeader header.1 (connectionNamedHeaders (received sent)) api := by
  apply List.filter_congr
  intro header member
  rw [received_lowercase member]

/-- The credential is sensitive. -/
theorem credential_sensitive (key : Secret) :
    isSensitiveRequestHeader (credential api key).1 = true := by
  have apiKey : isSensitiveRequestHeader "x-api-key".toList = true := by decide
  have authorization : isSensitiveRequestHeader "authorization".toList = true := by decide
  cases api with
  | messages => simpa only [credential, credentialHeader] using apiKey
  | chatCompletions | responses => simpa only [credential, credentialHeader] using authorization

/-- The session is not. -/
theorem session_not_sensitive : isSensitiveRequestHeader opencodeSessionHeader.toList = false := by
  decide

/-- Upstream credentials are isolated: whatever the client sends, the request has exactly
one header with a sensitive name, made from the selected key, and every other header is a
client header of no denied class or the session of the gateway's own.

Proof: the headers are the client's that pass the filter, the session and the credential, in that
order. -/
theorem credentials_isolated
    (built : forwardRequest selection (received sent) fallbackSessionId body baseUrl api =
      some request) :
    (request.headers.filter fun header => isSensitiveRequestHeader header.1) =
        [credential api selection.key] ∧
      ∃ own added, request.headers = own ++ added ∧ own.Sublist (received sent) ∧
        (∀ header ∈ own, ¬ Denied sent header.1) ∧
        ∀ header ∈ added, header = credential api selection.key ∨
          header = (opencodeSessionHeader.toList, Text.asBytes fallbackSessionId.toList) := by
  have forwards : ∀ header ∈ forwardedHeaders api (received sent),
      shouldForwardRequestHeader header.1 (connectionNamedHeaders (received sent)) api = true := by
    intro header member
    rw [forwardedHeaders_received] at member
    exact (List.mem_filter.mp member).2
  rw [forwardRequest_headers built]
  constructor
  · have client : (forwardedHeaders api (received sent)).filter
        (fun header => isSensitiveRequestHeader header.1) = [] := by
      apply List.filter_eq_nil_iff.mpr
      intro header member
      rw [forwarded_not_sensitive (forwards header member)]
      exact Bool.false_ne_true
    have session : (sessionFallback (received sent) fallbackSessionId).filter
        (fun header => isSensitiveRequestHeader header.1) = [] := by
      apply List.filter_eq_nil_iff.mpr
      intro header member
      unfold sessionFallback at member
      split at member
      · cases member
      · rw [List.mem_singleton.mp member, session_not_sensitive]
        exact Bool.false_ne_true
    rw [List.filter_append, List.filter_append, client, session, List.nil_append, List.nil_append]
    exact List.filter_cons_of_pos (credential_sensitive selection.key)
  · refine ⟨_, _, List.append_assoc _ _ _, List.filter_sublist, ?_, ?_⟩
    · intro header member denied
      have refused : shouldForwardRequestHeader header.1
          (connectionNamedHeaders (received sent)) api = false := denied_not_forwarded denied
      rw [forwards header member] at refused
      cases refused
    · intro header member
      rcases List.mem_append.mp member with session | key
      · unfold sessionFallback at session
        split at session
        · cases session
        · exact .inr (List.mem_singleton.mp session)
      · exact .inl (List.mem_singleton.mp key)

/-- A client that names credentials in every way it can, one of them under the allowed
prefix and listed by its Connection header. -/
def hostileHeaders : SentHeaders :=
  [("Authorization".toList, Text.asBytes "Bearer client".toList),
    ("X-Api-Key".toList, Text.asBytes "client".toList),
    ("X-OpenCode-Api-Key".toList, Text.asBytes "client".toList),
    ("X-OpenCode-Project".toList, Text.asBytes "p".toList),
    ("X-Opencode-Trace".toList, Text.asBytes "t".toList),
    ("Connection".toList, Text.asBytes "close, X-OpenCode-Trace".toList)]

/-- The request that is made of it on the messages endpoint. -/
def hostileRequest : UpstreamRequest where
  url := "https://upstream/v1/messages"
  headers :=
    [("x-opencode-project".toList, Text.asBytes "p".toList),
      ("x-opencode-session".toList, Text.asBytes "orihsus-f".toList),
      ("x-api-key".toList, Text.asBytes "k".toList)]
  body := []

/-- The hostile request is built. -/
theorem hostileRequest_built :
    forwardRequest ⟨"f", ⟨"k"⟩, 0⟩ (received hostileHeaders) "orihsus-f" [] "https://upstream/"
      .messages = some hostileRequest := by
  decide +kernel

/-- The only credential in it is the key. -/
theorem credentials_isolated_hostile :
    (hostileRequest.headers.filter fun header => isSensitiveRequestHeader header.1) =
        [("x-api-key".toList, Text.asBytes "k".toList)] :=
  (credentials_isolated hostileRequest_built).1

/-! ## The session header -/

/-- The session values that a client sends. -/
def sessionValues (sent : SentHeaders) : List (List UInt8) :=
  (received sent).getAll opencodeSessionHeader

/-- The request carries the client's session where the filter lets it pass and the fallback
otherwise, and an audit line that records a session records the one that is sent. -/
structure SessionCarried (sent : SentHeaders) (api : UpstreamApi) (fallbackSessionId : String)
    (request : UpstreamRequest) : Prop where
  carried : request.headers.getAll opencodeSessionHeader =
    if sessionValues sent ≠ [] ∧ shouldForwardRequestHeader opencodeSessionHeader.toList
        (connectionNamedHeaders (received sent)) api = true then sessionValues sent
    else [Text.asBytes fallbackSessionId.toList]
  recorded : ∀ id, ((RequestAudit.fromHeaders (received sent)).withSession (received sent)
      fallbackSessionId).opencodeSessionId = some id →
    request.headers.get opencodeSessionHeader = some (Text.asBytes id.toList)

/-- A character of ASCII is encoded as the byte of its code. -/
theorem utf8EncodeChar_ascii : ∀ code : Fin 128,
    String.utf8EncodeChar (Char.ofNat code) = [UInt8.ofNat code] := by
  decide +kernel

/-- A readable value is the text that it is read as. -/
theorem toStr_asBytes {value : List UInt8} {text : List Char} (readable : toStr value = some text) :
    Text.asBytes text = value := by
  unfold toStr at readable
  split at readable
  · rename_i visible
    cases readable
    have encoded (byte : UInt8) (member : byte ∈ value) :
        String.utf8EncodeChar (Char.ofNat byte.toNat) = [byte] := by
      have small : byte.toNat < 128 := by
        have shown := List.all_eq_true.mp visible byte member
        simp only [Bool.or_eq_true, Bool.and_eq_true, decide_eq_true_eq,
          UInt8.lt_iff_toNat_lt] at shown
        rcases shown with ⟨_, bound⟩ | rfl
        · exact Nat.lt_trans bound (by decide)
        · decide
      rw [utf8EncodeChar_ascii ⟨byte.toNat, small⟩, UInt8.ofNat_toNat]
    rw [Text.asBytes, List.flatMap_map, List.flatMap_congr encoded, List.flatMap_singleton']
  · cases readable

/-- Only a Connection header keeps the session of a client from being forwarded. -/
theorem session_forwarded_iff :
    shouldForwardRequestHeader opencodeSessionHeader.toList
        (connectionNamedHeaders (received sent)) api = true ↔
      ¬ ListedByConnection sent opencodeSessionHeader.toList := by
  have own : isHopByHop opencodeSessionHeader.toList = false := by decide
  have allowed : "x-opencode-".toList.isPrefixOf opencodeSessionHeader.toList = true := by decide
  rw [← mem_connectionNamedHeaders, ← List.contains_iff_mem]
  unfold shouldForwardRequestHeader
  rw [own, session_not_sensitive, allowed]
  simp

/-- A session is contained exactly if a value was sent. -/
theorem containsKey_session :
    (received sent).containsKey opencodeSessionHeader = true ↔ sessionValues sent ≠ [] :=
  HeaderMap.containsKey_iff

/-- The session values of the request: those the filter lets pass, and the fallback for a
client that sent none. -/
theorem session_sent
    (built : forwardRequest selection (received sent) fallbackSessionId body baseUrl api =
      some request) :
    request.headers.getAll opencodeSessionHeader =
      (if shouldForwardRequestHeader opencodeSessionHeader.toList
          (connectionNamedHeaders (received sent)) api = true then sessionValues sent else []) ++
        if sessionValues sent = [] then [Text.asBytes fallbackSessionId.toList] else [] := by
  have client : (forwardedHeaders api (received sent)).getAll opencodeSessionHeader =
      if shouldForwardRequestHeader opencodeSessionHeader.toList
        (connectionNamedHeaders (received sent)) api = true then sessionValues sent else [] := by
    rw [forwardedHeaders_received]
    exact HeaderMap.getAll_filter fun name =>
      shouldForwardRequestHeader name (connectionNamedHeaders (received sent)) api
  have added : (sessionFallback (received sent) fallbackSessionId).getAll opencodeSessionHeader =
      if sessionValues sent = [] then [Text.asBytes fallbackSessionId.toList] else [] := by
    unfold sessionFallback
    by_cases present : sessionValues sent = []
    · rw [if_neg (by simp [containsKey_session, present]), if_pos present]
      simp [HeaderMap.getAll]
    · rw [if_pos (containsKey_session.mpr present), if_neg present]
      rfl
  have key : HeaderMap.getAll [credential api selection.key] opencodeSessionHeader = [] := by
    have other : isSensitiveRequestHeader (credential api selection.key).1 = true :=
      credential_sensitive selection.key
    have different : (credential api selection.key).1 ≠ opencodeSessionHeader.toList := by
      intro same
      rw [same, session_not_sensitive] at other
      cases other
    simp [HeaderMap.getAll, different]
  rw [forwardRequest_headers built, HeaderMap.getAll_append, HeaderMap.getAll_append, client, added,
    key, List.append_nil]

/-- The request carries a session, and the audit line records what is sent, exactly when
the client brings no session or no readable Connection value lists it.

Proof: by whether the client brings a session, and whether it is forwarded. -/
theorem session_carried_iff
    (built : forwardRequest selection (received sent) fallbackSessionId body baseUrl api =
      some request) :
    SessionCarried sent api fallbackSessionId request ↔
      sessionValues sent = [] ∨ ¬ ListedByConnection sent opencodeSessionHeader.toList := by
  have values := session_sent built
  constructor
  · intro holds
    by_contra neither
    obtain ⟨brings, listed⟩ := not_or.mp neither
    have carried := holds.carried
    have stopped : ¬ shouldForwardRequestHeader opencodeSessionHeader.toList
        (connectionNamedHeaders (received sent)) api = true := by
      intro forwards
      exact listed (session_forwarded_iff.mp forwards)
    rw [values, if_neg stopped, if_neg brings, if_neg (fun both => stopped both.2)] at carried
    cases carried
  · intro condition
    by_cases missing : sessionValues sent = []
    · have sentValues : request.headers.getAll opencodeSessionHeader =
          [Text.asBytes fallbackSessionId.toList] := by
        simp [values, missing]
      have absent : (received sent).containsKey opencodeSessionHeader ≠ true := by
        simp [containsKey_session, missing]
      constructor
      case carried => rw [sentValues, if_neg (fun both => both.1 missing)]
      case recorded =>
        intro id named
        rw [RequestAudit.withSession, if_neg absent, Option.some.injEq] at named
        rw [HeaderMap.get_eq_head, sentValues, ← named]
        rfl
    · have forwards : shouldForwardRequestHeader opencodeSessionHeader.toList
          (connectionNamedHeaders (received sent)) api = true :=
        session_forwarded_iff.mpr (condition.resolve_left missing)
      have sentValues : request.headers.getAll opencodeSessionHeader = sessionValues sent := by
        simp [values, missing, forwards]
      constructor
      case carried => rw [sentValues, if_pos ⟨missing, forwards⟩]
      case recorded =>
        intro id named
        rw [RequestAudit.withSession, if_pos (containsKey_session.mpr missing)] at named
        obtain ⟨text, readable, rfl⟩ := Option.map_eq_some_iff.mp named
        obtain ⟨value, first, shown⟩ :=
          Option.bind_eq_some_iff.mp (Option.filter_eq_some_iff.mp readable).1
        rw [HeaderMap.get_eq_head, sentValues, sessionValues, ← HeaderMap.get_eq_head, first,
          String.toList_ofList, toStr_asBytes shown]

/-- A client that names its own session in its Connection header. -/
def namedSession : SentHeaders :=
  [("X-OpenCode-Session".toList, Text.asBytes "s".toList),
    ("Connection".toList, Text.asBytes "x-opencode-session".toList)]

/-- The request is sent without any session, and the audit line records the client's. -/
theorem session_lost :
    ∃ request, forwardRequest ⟨"f", ⟨"k"⟩, 0⟩ (received namedSession) "orihsus-f" []
        "https://upstream/" .chatCompletions = some request ∧
      request.headers.getAll opencodeSessionHeader = [] ∧
      ((RequestAudit.fromHeaders (received namedSession)).withSession (received namedSession)
        "orihsus-f").opencodeSessionId = some "s" ∧
      ¬ SessionCarried namedSession .chatCompletions "orihsus-f" request := by
  have named : ((RequestAudit.fromHeaders (received namedSession)).withSession
      (received namedSession) "orihsus-f").opencodeSessionId = some "s" := by
    decide +kernel
  refine ⟨⟨"https://upstream/v1/chat/completions",
    [("authorization".toList, Text.asBytes "Bearer k".toList)], []⟩, by decide +kernel, by decide,
    named, ?_⟩
  intro holds
  have recorded := holds.recorded "s" named
  revert recorded
  decide +kernel

/-- The session is carried. -/
theorem session_carried_iff_hostile :
    SessionCarried hostileHeaders .messages "orihsus-f" hostileRequest :=
  (session_carried_iff hostileRequest_built).mpr (.inl (by decide +kernel))

end Orihsus.Gateway
