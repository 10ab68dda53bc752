import Ledger.Http.Api
import Ledger.Engine.Sweep
import Ledger.Mail.Delivery
/-!
# Scripted sessions

A session runs a script of steps against one service: its clock, store, fault plan, HTTP
front and reconciler. Each step answers with a view of what it read or wrote, or the
failure.
-/

namespace Ledger.Session

open Engine

/-- How a session is set up: the HTTP front (with the service's rules), how far the
first sweep looks back, whether sweeps deliver reports, the report's sender and
recipients, and the level of the log. -/
structure Setup where
  front : Http.Front
  lookback : Int
  notifier : Bool
  reportFrom : String
  reportTo : List String
  logLevel : Log.Level
  deriving Repr, Inhabited

/-- Signing of a request: the secret, and parts that replace the request's own in the
signature. -/
structure Signing where
  secret : String
  timestamp : Option String := none
  method : Option String := none
  path : Option String := none
  query : Option String := none
  body : Option Bytes := none
  deriving Repr, Inhabited

/-- A request of a script; the headers are set in the order given. -/
structure Call where
  method : String
  target : String
  headers : List (String × String)
  body : Option Bytes
  signing : Option Signing
  deriving Repr, Inhabited

/-- The steps of a script. -/
inductive Step where
  | setClock (t : Instant)
  | advance (ms : Int)
  | addAccount (number : Bytes) (balance : Decimal) (createdAt : Option Instant)
  | account (number : Bytes)
  | create (number : Bytes) (amount : Decimal) (type : TxnType)
  | fetch (id : Uuid)
  | statement (number : Bytes) (limit : Int) (xml : Bool)
  | ping
  | records (accountId : Int) (limit : Int)
  | addRecord (t : Transaction)
  | findRecord (id : Uuid)
  | updateStatus (id : Uuid) (status : TxnStatus) (version : Int)
  | updateBalance (accountId : Int) (balance : Decimal) (version : Int)
  | countSince (accountId : Int) (since : Instant)
  | listStatus (status : TxnStatus) (since : Instant)
  | addFault (rule : FaultRule)
  | clearFaults
  | reconcile (notifyError : Option String)
  | http (call : Call)
  deriving Repr, Inhabited

/-- The answer to a step the script got wrong. -/
def badInput (message : String) : Json :=
  .obj [("error", .text "bad_input"), ("message", .text message)]

/-- Text with its hexadecimal bytes next to it when it is not UTF-8. -/
def textFields (key : String) (b : Bytes) : List (String × Json) :=
  (key, .str b) :: (if b.isValid then [] else [(key ++ "_hex", .text b.toHex)])

/-- The JSON form of a report. -/
def reportJson (r : Report) : Json :=
  .obj ([("from", .text r.sender), ("to", .arr (r.recipients.map Json.text)),
    ("subject", .text r.subject)] ++ textFields "text" r.text)

/-- The JSON form of a response. -/
def responseJson (r : Http.Response) : Json :=
  .obj ([("status", .int r.status),
    ("headers", Json.dict (r.headers.entries.map fun (k, vs) => (k, .text (", ".intercalate vs))))] ++
    textFields "body" r.body)

/-- A version with the time of the change. -/
def changeJson (version : Int) (at_ : Instant) : Json :=
  .obj [("version", .int version), ("last_modified_at", .text at_.toText)]

/-- A list of records. -/
def recordsJson (ts : List Transaction) : Json := .obj [("transactions", .arr (ts.map Transaction.toJson))]

/-- Builds the request of a call at the given time, or says why the target cannot make
one. -/
def Call.request (c : Call) (now : Instant) : Except String Http.Request := do
  let req ← Http.Request.make c.method c.target c.body
  let headers := c.headers.foldl (fun h (k, v) => h.set k v) ({} : Http.Headers)
  let headers := match c.signing with
    | none => headers
    | some s =>
      let given := headers.has "X-TIMESTAMP"
      let stamp := s.timestamp.getD (if given then headers.get "X-TIMESTAMP" else toString now.toMillis)
      let headers := if given then headers else headers.set "X-TIMESTAMP" stamp
      let path := (s.path.map Bytes.ofString).getD req.url.path
      headers.set "X-HMAC-SIGNATURE" (Auth.sign s.secret (s.method.getD req.method) path
        (s.query.getD req.url.rawQuery) stamp (s.body.getD (req.body.getD [])))
  return { req with headers }

/-- Changes the store directly, past the fault plan. -/
def direct (act : Store → Except Failure (Store × α)) (k : α → Json) : Engine Json := do
  let w ← get
  match act w.store with
  | .ok (s, a) => set { w with store := s }; return k a
  | .error f => return f.report

/-- Runs a step. -/
def Step.run (setup : Setup) : Step → Engine Json
  | .setClock t => do
    modify fun w => { w with clock := t }
    return .obj [("now", .text t.toText)]
  | .advance ms => do
    modify fun w => { w with clock := w.clock.addNanos (ms * 1000000) }
    return .obj [("now", .text (← now).toText)]
  | .addAccount number balance createdAt => do
    let stamp ← now
    direct (·.createAccount ⟨0, number, balance, createdAt.getD Instant.zero, Instant.zero, 0⟩ stamp)
      Account.toJson
  | .account number => do
    match (← get).store.findByNumber number with
    | .ok a => return a.toJson
    | .error f => return f.report
  | .create number amount type => do
    let f := setup.front
    match ← (Service.createTransaction f.rateLimit f.rules number amount type).run with
    | .ok (t, a) => return .obj [("transaction", t.toJson), ("account", a.toJson)]
    | .error e => return e.report
  | .fetch id => do
    match ← (Service.getTransaction id).run with
    | .ok t => return t.toJson
    | .error e => return e.report
  | .statement number limit xml => do
    match ← (Service.accountStatement number limit).run with
    | .ok st =>
      return .obj ([("account", st.account.toJson), ("transactions", .arr (st.records.map Transaction.toJson)),
        ("generated_at", .text st.generatedAt.toText)] ++
        (if xml then [("xml", .text (Statement.document st.account st.records st.generatedAt))] else []))
    | .error e => return e.report
  | .ping => do
    match ← Service.ping.run with
    | .ok () => return .obj [("ok", .bool true)]
    | .error e => return e.report
  | .records accountId limit => do return recordsJson ((← get).store.listByAccount accountId limit)
  | .addRecord t => do
    let t ← if t.id == Uuid.nil then (do return { t with id := ← freshId }) else pure t
    let stamp ← now
    direct (·.createRecord t stamp) Transaction.toJson
  | .findRecord id => do
    match (← get).store.findRecord id with
    | .ok t => return t.toJson
    | .error f => return f.report
  | .updateStatus id status version => do
    let stamp ← now
    direct (·.updateStatus id status version stamp) fun (v, c) => changeJson v c
  | .updateBalance accountId balance version => do
    let stamp ← now
    direct (·.updateBalance accountId version balance stamp) fun (v, c) => changeJson v c
  | .countSince accountId since => do
    return .obj [("count", .int ((← get).store.countSince accountId since))]
  | .listStatus status since => do return recordsJson ((← get).store.listByStatus status since)
  | .addFault rule => do
    modify fun w => { w with faults := w.faults ++ [rule] }
    return .obj [("faults", .int (← get).faults.length)]
  | .clearFaults => do
    modify fun w => { w with faults := [] }
    return .obj [("faults", .int 0)]
  | .reconcile notifyError => do
    let notifier : Option Sweep.Notifier :=
      if setup.notifier then some fun _ => notifyError.map Failure.ofString else none
    let out ← Sweep.run setup.lookback notifier
    return .obj ([("found", .int out.found)] ++
      (match out.failure with | some f => [("error", .str f.text)] | none => []) ++
      (match out.delivered with
        | some d => [("notified", .obj [("transactions", .arr (d.records.map Transaction.toJson)),
            ("since", .text d.since.toText), ("until", .text d.upTo.toText),
            ("report", reportJson (Report.failedTransactions setup.reportFrom setup.reportTo
              d.records d.since d.upTo))])]
        | none => []))
  | .http call => do
    match call.request (← now) with
    | .error e => return badInput ("bad request target: invalid NewRequest arguments; " ++ e)
    | .ok req => return responseJson (← Http.serve setup.front req)

/-- A step of a script as given: the time to set first, whether to return the log
lines, and the step, or why it could not be read. The time is set even when the step
cannot be read. -/
structure Entry where
  at_ : Option Instant := none
  logs : Bool := false
  step : Except String Step
  deriving Repr, Inhabited

/-- Runs a step of a script, adding the log lines it wrote when asked. -/
def Entry.run (setup : Setup) (e : Entry) : Engine Json := do
  if let some t := e.at_ then modify fun w => { w with clock := t }
  match e.step with
  | .error msg => return badInput msg
  | .ok step =>
    let before := (← get).journal.length
    let answer ← step.run setup
    if !e.logs then return answer
    let journal := (← get).journal
    let fresh := (journal.take (journal.length - before)).reverse
    let lines := Json.arr ((Log.lines setup.logLevel fresh).map Json.text)
    match answer with
    | .obj fs => return .obj (fs ++ [("logs", lines)])
    | other => return other

/-- Runs a script from the given start time; one answer per step. -/
def run (setup : Setup) (start : Instant) (entries : List Entry) : List Json :=
  ((entries.mapM (Entry.run setup)).run { clock := start }).1

end Ledger.Session
