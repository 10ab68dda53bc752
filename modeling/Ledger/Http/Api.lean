import Ledger.Engine.Service
import Ledger.Auth.Check
import Ledger.Http.Message
import Ledger.Http.Route
import Ledger.Http.Payload
import Ledger.Statement
import Ledger.Number.Integer
/-!
# The HTTP front of the service

Serving a request logs it, redirects a path that is not clean, routes it, reads and
authenticates the body of an `/api` request, and answers through the endpoint's handler.
Every failure is answered by the JSON error body of its kind and logged.
-/

namespace Ledger.Http

open Engine

/-- What the front needs besides the world: the clients, the allowed clock skew, the
largest amount it accepts, and the service's rate limit and balance rules. -/
structure Front where
  registry : Auth.Registry
  maxSkew : Int
  maxAmount : Decimal
  rateLimit : RateLimit
  rules : Rules
  deriving Repr, Inhabited

/-- The most bytes of a request body that are read. -/
def maxBodyBytes : Nat := 1048576

/-- A body as logged: line breaks as blanks, trimmed, `No body` when nothing is left. -/
def flatten (body : Bytes) : Bytes :=
  let t := Bytes.trimBlank (body.map fun b => if b == 10 || b == 13 then 32 else b)
  if t.isEmpty then Bytes.ofString "No body" else t

/-- Answers a failure with its error body, and logs it with `extra` fields. -/
def failureResponse (headers : Headers) (extra : List (String × Log.Value)) (f : Failure) :
    Engine Response := do
  let k := f.kind
  let fields := extra ++ [("error", .failure f.text), ("error_code", .text (Bytes.ofString k.code))]
  if k.status ≥ 500 then emit (.make .error "Request failed" fields)
  else emit (.make .warning "Request rejected" fields)
  return Response.json k.status headers f.body

/-- The JSON form of a record in responses; none when its time has no JSON text. -/
def recordJson (t : Transaction) : Option Json := do
  let stamp ← t.timestamp.jsonText?
  pure (.obj [("transactionId", .text t.id.toText), ("accountNumber", .str t.accountNumber),
    ("transactionType", .text t.type.text), ("amount", .number t.amount.toText),
    ("timestamp", .text stamp), ("status", .text t.status.text)])

/-- Runs an action of the service, answering its failure or passing on its value. -/
def withService (headers : Headers) (act : Action α) (k : α → Engine Response) : Engine Response := do
  match ← act.run with
  | .ok a => k a
  | .error f => failureResponse headers [] f

/-- Makes a transaction from the body of the request. -/
def createTransaction (front : Front) (req : Request) (headers : Headers) : Engine Response := do
  let body := req.body.getD []
  let contentType := req.headers.get "Content-Type"
  if mediaType? contentType != some "application/json" then
    return ← failureResponse headers []
      (.make .unsupportedMediaType ("Content type (" ++ contentType ++ ") not supported on request."))
  match TxnRequest.read body with
  | .error e => failureResponse headers [] (.wrap .malformedJson (.ofString e) TxnRequest.unreadableMessage)
  | .ok r =>
    match r.check front.maxAmount with
    | .error f => failureResponse headers [] f
    | .ok type =>
      withService headers
        (Service.createTransaction front.rateLimit front.rules r.accountNumber (r.amount.getD .zero) type)
        fun (t, _) => return Response.jsonOr 201 headers (recordJson t)

/-- Reads one record. -/
def getTransaction (vars : List (String × Bytes)) (headers : Headers) : Engine Response := do
  match Uuid.parse ((vars.lookup "transactionId").getD []) with
  | .error e => failureResponse headers [] (.wrap .validation (.ofString e.message) "Invalid transactionId")
  | .ok id => withService headers (Service.getTransaction id) fun t =>
      return Response.jsonOr 200 headers (recordJson t)

/-- The statement of an account, as XML when the caller accepts it, else as JSON. -/
def accountTransactions (req : Request) (vars : List (String × Bytes)) (headers : Headers) :
    Engine Response := do
  let raw := ((queryValues req.url.rawQuery "limit").headD [])
  let limit : Except Unit Int :=
    if raw.isEmpty then .ok 0
    else match Number.parseInt64 (Bytes.toText raw) with
      | .ok n => if n < 1 then .error () else .ok n
      | .error _ => .error ()
  match limit with
  | .error () => failureResponse headers [] (.make .validation "limit must be a positive integer")
  | .ok limit =>
    withService headers (Service.accountStatement ((vars.lookup "accountNumber").getD []) limit) fun st =>
      if (req.headers.get "Accept").contains "application/xml" then
        return ⟨200, headers.set "Content-Type" Statement.contentType,
          Bytes.ofString (Statement.document st.account st.records st.generatedAt)⟩
      else
        return Response.jsonOr 200 headers ((st.records.mapM recordJson).map fun records =>
          .obj [("accountNumber", .str st.account.number),
            ("balance", .number st.account.balance.toText), ("transactions", .arr records)])

/-- The health check. -/
def health (headers : Headers) : Engine Response := do
  match ← Service.ping.run with
  | .ok () => return Response.json 200 headers (Json.dict [("status", .text "UP")])
  | .error f =>
    emit (.make .error "Health check failed" [("error", .failure f.text)])
    return Response.json 503 headers (Json.dict [("status", .text "DOWN")])

/-- The refusal of a body longer than the limit. -/
def bodyTooLarge : Failure :=
  .wrap .validation (.ofString "http: request body too large")
    ("Request body exceeds " ++ toString maxBodyBytes ++ " bytes")

/-- What authentication reads of a request: its method, decoded path and raw query, the
body as read, and the three authentication headers. -/
def Request.toAuth (req : Request) (body : Bytes) : Auth.Request :=
  ⟨req.method, req.url.path, req.url.rawQuery, body, req.headers.get "X-API-KEY",
    req.headers.get "X-HMAC-SIGNATURE", req.headers.get "X-TIMESTAMP"⟩

/-- Authenticates a request whose body has been read, then answers it. -/
def authenticated (front : Front) (req : Request) (body : Bytes) (headers : Headers)
    (answer : Engine Response) : Engine Response := do
  match Auth.authenticate front.registry front.maxSkew (← now) (req.toAuth body) with
  | .error f =>
    failureResponse headers [("api_key", .text (Bytes.ofString (req.headers.get "X-API-KEY")))] f
  | .ok _ => answer

/-- The `/api` endpoints: read the body (at most 1 MiB), authenticate, then answer the
request, whose body now reads as the bytes read. -/
def guarded (front : Front) (req : Request) (headers : Headers)
    (answer : Request → Engine Response) : Engine Response :=
  match req.readBody maxBodyBytes with
  | none => failureResponse headers [] bodyTooLarge
  | some (body, req) => authenticated front req body headers (answer req)

/-- The handler of each endpoint. -/
def handle (front : Front) (headers : Headers) :
    Endpoint → List (String × Bytes) → Request → Engine Response
  | .health, _, _ => health headers
  | .createTransaction, _, req => createTransaction front req headers
  | .getTransaction, vars, _ => getTransaction vars headers
  | .accountTransactions, vars, req => accountTransactions req vars headers

/-- Answers a request that passed the path check; every endpoint but the health check is
guarded. -/
def dispatch (front : Front) (req : Request) (headers : Headers) : Engine Response :=
  match route req.method req.url.path with
  | .wrongMethod => return ⟨405, headers, []⟩
  | .noRoute => return ⟨404, (headers.set "Content-Type" "text/plain; charset=utf-8").set
      "X-Content-Type-Options" "nosniff", Bytes.ofString "404 page not found\n"⟩
  | .matched .health vars => handle front headers .health vars req
  | .matched e vars => guarded front req headers (handle front headers e vars)

/-- Serves one request. -/
def serve (front : Front) (req : Request) : Engine Response := do
  let trace := (← freshId).toText
  let traceField := ("trace_id", Log.Value.text (Bytes.ofString trace))
  let text (s : String) := Log.Value.text (Bytes.ofString s)
  let (peeked, req) := req.peekBody maxBodyBytes
  emit (.make .info "Transaction Server Request Log" [traceField, ("method", text req.method),
    ("uri", text req.url.requestUri), ("api_key", text (req.headers.get "X-API-KEY")),
    ("signature", text (req.headers.get "X-HMAC-SIGNATURE")),
    ("timestamp_header", text (req.headers.get "X-TIMESTAMP")),
    ("content_type", text (req.headers.get "Content-Type")),
    ("request_body", .text (flatten peeked))])
  let headers : Headers := ({} : Headers).set "X-Trace-Id" trace
  let clean := cleanPath req.url.path
  let resp ← if clean != req.url.path then
      pure ⟨301, headers.set "Location" ({ req.url with path := clean }).toText, []⟩
    else dispatch front req headers
  emit (.make .info "Transaction Server Response Log" [traceField, ("status", .int resp.status),
    ("content_type", text (resp.headers.get "Content-Type")), ("response_body", .text (flatten resp.body))])
  return resp

end Ledger.Http
