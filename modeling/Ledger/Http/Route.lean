import Ledger.Text.Bytes
/-!
# Routing

Four endpoints, tried in order by mount point, template and method. A path that fits with
the wrong method leaves a pending *wrong method*, which a later fit clears; otherwise the
answer is *no route*.
-/

namespace Ledger.Http

/-- The endpoints of the service. -/
inductive Endpoint where
  | health
  | createTransaction
  | getTransaction
  | accountTransactions
  deriving DecidableEq, Repr, Inhabited

/-- A segment of a path template. -/
inductive Segment where
  | literal (text : String)
  | variable (name : String)
  deriving Repr, Inhabited

/-- A route. -/
structure Route where
  endpoint : Endpoint
  mount : Option String
  template : List Segment
  method : String
  deriving Repr, Inhabited

/-- The outcome of routing a request. -/
inductive Routed where
  | matched (e : Endpoint) (vars : List (String × Bytes))
  | wrongMethod
  | noRoute
  deriving DecidableEq, Repr, Inhabited

/-- The routes of the service, in the order they are tried. -/
def routes : List Route := [
  ⟨.health, none, [.literal "health"], "GET"⟩,
  ⟨.createTransaction, some "/api", [.literal "api", .literal "transactions"], "POST"⟩,
  ⟨.getTransaction, some "/api", [.literal "api", .literal "transactions", .variable "transactionId"], "GET"⟩,
  ⟨.accountTransactions, some "/api",
    [.literal "api", .literal "accounts", .variable "accountNumber", .literal "transactions"], "GET"⟩]

/-- Splits a path after its leading slash into its segments. -/
def pathSegments (path : Bytes) : Option (List Bytes) :=
  match path with
  | 47 :: rest => some (rest.splitOn 47)
  | _ => none

/-- Matches segments against a template, giving the variables. -/
def matchSegments : List Segment → List Bytes → Option (List (String × Bytes))
  | [], [] => some []
  | .literal t :: ts, s :: ss => if Bytes.ofString t == s then matchSegments ts ss else none
  | .variable n :: ts, s :: ss =>
    if s.isEmpty then none else (matchSegments ts ss).map ((n, s) :: ·)
  | _, _ => none

/-- Matches a path against a template. -/
def matchTemplate (template : List Segment) (path : Bytes) : Option (List (String × Bytes)) :=
  (pathSegments path).bind (matchSegments template)

/-- Routes a request by method and decoded path. -/
def route (method : String) (path : Bytes) : Routed :=
  go routes false
where
  /-- Tries the routes in order with the pending wrong-method flag. -/
  go : List Route → Bool → Routed
    | [], pending => if pending then .wrongMethod else .noRoute
    | r :: rs, pending =>
      match r.mount with
      | some m =>
        if (Bytes.ofString m).isPrefixOf path then tryTemplate r (go rs) else go rs pending
      | none => match matchTemplate r.template path with
        | none => go rs pending
        | some vars => if method == r.method then .matched r.endpoint vars else go rs true
  /-- The rest of a route after its mount point fitted, which clears the flag; `next` tries
  the routes after it with the flag given. -/
  tryTemplate (r : Route) (next : Bool → Routed) : Routed :=
    match matchTemplate r.template path with
    | none => next false
    | some vars => if method == r.method then .matched r.endpoint vars else next true

end Ledger.Http
