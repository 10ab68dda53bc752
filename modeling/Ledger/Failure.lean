import Ledger.Json.Basic
import Ledger.Text.Case
/-!
# Failures and HTTP statuses

A failure the service reports is *classified*: a kind, which fixes its wire code and HTTP
status, a message, and optionally its cause. A status's label is its number and its reason
phrase in upper case (`"418 IM_A_TEAPOT"`). The kind of a failure is that of the outermost
classified failure along its chain.
-/

/-! ## HTTP statuses -/

namespace Ledger.Http

/-- The reason phrase of a status code, or `""` for an unregistered one. -/
def reasonPhrase : Int → String
  | 100 => "Continue" | 101 => "Switching Protocols" | 102 => "Processing"
  | 103 => "Early Hints"
  | 200 => "OK" | 201 => "Created" | 202 => "Accepted"
  | 203 => "Non-Authoritative Information" | 204 => "No Content"
  | 205 => "Reset Content" | 206 => "Partial Content" | 207 => "Multi-Status"
  | 208 => "Already Reported" | 226 => "IM Used"
  | 300 => "Multiple Choices" | 301 => "Moved Permanently" | 302 => "Found"
  | 303 => "See Other" | 304 => "Not Modified" | 305 => "Use Proxy"
  | 307 => "Temporary Redirect" | 308 => "Permanent Redirect"
  | 400 => "Bad Request" | 401 => "Unauthorized" | 402 => "Payment Required"
  | 403 => "Forbidden" | 404 => "Not Found" | 405 => "Method Not Allowed"
  | 406 => "Not Acceptable" | 407 => "Proxy Authentication Required"
  | 408 => "Request Timeout" | 409 => "Conflict" | 410 => "Gone"
  | 411 => "Length Required" | 412 => "Precondition Failed"
  | 413 => "Request Entity Too Large" | 414 => "Request URI Too Long"
  | 415 => "Unsupported Media Type" | 416 => "Requested Range Not Satisfiable"
  | 417 => "Expectation Failed" | 418 => "I'm a teapot"
  | 421 => "Misdirected Request" | 422 => "Unprocessable Entity" | 423 => "Locked"
  | 424 => "Failed Dependency" | 425 => "Too Early" | 426 => "Upgrade Required"
  | 428 => "Precondition Required" | 429 => "Too Many Requests"
  | 431 => "Request Header Fields Too Large"
  | 451 => "Unavailable For Legal Reasons"
  | 500 => "Internal Server Error" | 501 => "Not Implemented" | 502 => "Bad Gateway"
  | 503 => "Service Unavailable" | 504 => "Gateway Timeout"
  | 505 => "HTTP Version Not Supported" | 506 => "Variant Also Negotiates"
  | 507 => "Insufficient Storage" | 508 => "Loop Detected" | 510 => "Not Extended"
  | 511 => "Network Authentication Required"
  | _ => ""

/-- The label of a status: its number and its phrase in upper snake case. -/
def errorCodeLabel (status : Int) : String :=
  let phrase := (reasonPhrase status).toList.map Text.toUpper
  let label := phrase.filterMap fun c =>
    if c = ' ' || c = '-' then some '_' else if c = '\'' then none else some c
  toString status ++ " " ++ String.ofList label

end Ledger.Http

/-! ## Failures -/

namespace Ledger

/-- The classes of failure, each with a name, a wire code and an HTTP status.
A number that names none of them is kept as `unlisted` and behaves as `unknown`. -/
inductive ErrorKind where
  | unknown
  | accountNotFound
  | transactionNotFound
  | rateLimitExceeded
  | insufficientBalance
  | invalidTransaction
  | persistence
  | validation
  | missingParameter
  | unsupportedMediaType
  | malformedJson
  | authGeneric
  | authMissingHeader
  | authTimestampExpired
  | authInvalidTimestamp
  | authSignatureInvalid
  | authInternal
  | unlisted (n : Int)
  deriving DecidableEq, Repr, Inhabited

namespace ErrorKind

/-- The kinds in numbering order, from 0 to 16. -/
def listed : List ErrorKind :=
  [unknown, accountNotFound, transactionNotFound, rateLimitExceeded, insufficientBalance,
    invalidTransaction, persistence, validation, missingParameter, unsupportedMediaType,
    malformedJson, authGeneric, authMissingHeader, authTimestampExpired,
    authInvalidTimestamp, authSignatureInvalid, authInternal]

/-- The number of a kind. -/
def toInt : ErrorKind → Int
  | unknown => 0 | accountNotFound => 1 | transactionNotFound => 2
  | rateLimitExceeded => 3 | insufficientBalance => 4 | invalidTransaction => 5
  | persistence => 6 | validation => 7 | missingParameter => 8
  | unsupportedMediaType => 9 | malformedJson => 10 | authGeneric => 11
  | authMissingHeader => 12 | authTimestampExpired => 13 | authInvalidTimestamp => 14
  | authSignatureInvalid => 15 | authInternal => 16 | unlisted n => n

/-- The kind of a number. -/
def ofInt (n : Int) : ErrorKind :=
  if 0 ≤ n then (listed[n.toNat]?).getD (unlisted n) else unlisted n

/-- Name, wire code and HTTP status of a kind. -/
def info : ErrorKind → String × String × Int
  | unknown => ("UnknownError", "XXX_999", 500)
  | accountNotFound => ("AccountNotFound", "ACC_001", 404)
  | transactionNotFound => ("TransactionNotFound", "TXN_005", 404)
  | rateLimitExceeded => ("RateLimitExceeded", "TXN_001", 429)
  | insufficientBalance => ("InsufficientBalance", "TXN_002", 409)
  | invalidTransaction => ("InvalidTransaction", "TXN_003", 400)
  | persistence => ("PersistenceFailure", "TXN_004", 500)
  | validation => ("ValidationFailure", "VAL_002", 400)
  | missingParameter => ("ValidationFailure", "VAL_004", 400)
  | unsupportedMediaType => ("ValidationFailure", "VAL_005", 415)
  | malformedJson => ("ValidationFailure", "VAL_006", 400)
  | authGeneric => ("AuthGeneric", "AUTH_001", 401)
  | authMissingHeader => ("AuthMissingHeader", "AUTH_002", 401)
  | authTimestampExpired => ("AuthTimestampExpired", "AUTH_003", 401)
  | authInvalidTimestamp => ("AuthInvalidTimestamp", "AUTH_004", 401)
  | authSignatureInvalid => ("AuthSignatureInvalid", "AUTH_005", 401)
  | authInternal => ("InternalAuthError", "XXX_999", 500)
  | unlisted _ => ("UnknownError", "XXX_999", 500)

/-- The taxonomy name of a kind. -/
def name (k : ErrorKind) : String := k.info.1

/-- The wire code of a kind. -/
def code (k : ErrorKind) : String := k.info.2.1

/-- The HTTP status a kind is reported with. -/
def status (k : ErrorKind) : Int := k.info.2.2

/-- Whether a kind is an authentication rejection (numbers 11 to 16). -/
def isAuth (k : ErrorKind) : Bool := 11 ≤ k.toInt && k.toInt ≤ 16

/-- Whether the details of a kind must be hidden from callers. -/
def isInternal : ErrorKind → Bool
  | unknown | authInternal => true
  | _ => false

end ErrorKind

/-- The refusals of a store that callers tell apart from other failures. -/
inductive Refusal where
  | notFound
  | versionConflict
  | invalidTransition
  deriving DecidableEq, Repr, Inhabited

/-- The text of a refusal. -/
def Refusal.text : Refusal → String
  | notFound => "not found"
  | versionConflict => "version conflict"
  | invalidTransition => "invalid status transition"

/-- A failure. -/
inductive Failure where
  /-- A classified failure with a message for callers and an optional cause. -/
  | classified (kind : ErrorKind) (message : Bytes) (cause : Option Failure)
  /-- A failure known only by its text. -/
  | plain (text : Bytes)
  /-- Context written in front of another failure, separated by a colon. -/
  | context (note : Bytes) (inner : Failure)
  /-- A refusal of a store. -/
  | refused (r : Refusal)
  deriving Repr, Inhabited

/-- The generic message shown in place of internal detail. -/
def genericMessage : String := "Internal unexpected error. Check server logs for more details"

namespace Failure

/-- A classified failure without a cause. -/
def make (kind : ErrorKind) (message : String) : Failure :=
  classified kind (Bytes.ofString message) none

/-- A classified failure with a cause. -/
def wrap (kind : ErrorKind) (cause : Failure) (message : String) : Failure :=
  classified kind (Bytes.ofString message) (some cause)

/-- A failure known by its text. -/
def ofString (s : String) : Failure := plain (Bytes.ofString s)

/-- Context in front of a failure. -/
def note (s : String) (inner : Failure) : Failure := context (Bytes.ofString s) inner

/-- The full text of a failure, with its causes. -/
def text : Failure → Bytes
  | classified k m none => Bytes.ofString k.name ++ Bytes.ofString ": " ++ m
  | classified k m (some c) =>
    Bytes.ofString k.name ++ Bytes.ofString ": " ++ m ++ Bytes.ofString ": " ++ text c
  | plain t => t
  | context n inner => n ++ Bytes.ofString ": " ++ text inner
  | refused r => Bytes.ofString r.text

/-- The outermost classified failure in the chain: its kind, message and cause. -/
def classification? : Failure → Option (ErrorKind × Bytes × Option Failure)
  | classified k m c => some (k, m, c)
  | context _ inner => classification? inner
  | _ => none

/-- The kind of a failure: that of its outermost classified failure, else unknown. -/
def kind (f : Failure) : ErrorKind :=
  match f.classification? with
  | some (k, _, _) => k
  | none => .unknown

/-- The message a caller may see. -/
def publicMessage (f : Failure) : Bytes :=
  match f.classification? with
  | some (k, m, _) => if k.isInternal then Bytes.ofString genericMessage else m
  | none => Bytes.ofString genericMessage

/-- Whether some classified failure along the chain has the given kind and, unless
`message` is empty, the given message. -/
def hasKind (kind : ErrorKind) (message : Bytes) : Failure → Bool
  | classified k m c =>
    (k == kind && (message.isEmpty || message == m)) ||
      match c with
      | some c => hasKind kind message c
      | none => false
  | context _ inner => hasKind kind message inner
  | _ => false

/-- Whether the failure is, or was caused by, the given refusal. -/
def isRefusal (r : Refusal) : Failure → Bool
  | classified _ _ (some c) => isRefusal r c
  | context _ inner => isRefusal r inner
  | refused r' => r' == r
  | _ => false

/-- The error body sent to an HTTP caller: label of the status, wire code and the
public message. -/
def body (f : Failure) : Json :=
  let k := f.kind
  .obj [("httpErrorCode", .text (Http.errorCodeLabel k.status)), ("errorCode", .text k.code),
    ("errorMessage", .str f.publicMessage)]

/-- A report of a failure: kind name, code, status, message and cause text for a
classified failure, else the text alone under the name `error`. -/
def report (f : Failure) : Json :=
  match f.classification? with
  | some (k, m, c) =>
    .obj ([("error", .text k.name), ("code", .text k.code), ("status", .int k.status),
      ("message", .str m)] ++ (match c with | some c => [("cause", .str c.text)] | none => []))
  | none => .obj [("error", .text "error"), ("message", .str f.text)]

end Failure
end Ledger
