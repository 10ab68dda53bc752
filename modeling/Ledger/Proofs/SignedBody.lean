import Ledger.Http.Api
/-!
# The handler reads the body that was signed

For a request routed to an `/api` endpoint, a body of at most 1 MiB is exactly the body
authenticated and the body the handler reads; a longer one is refused before authentication
(`api_handler_reads_signed_body`).
-/

namespace Ledger.Http

/-- The log reads at most `limit` bytes of the body, and putting them back in front of the
rest rebuilds the request as it was. -/
@[simp]
theorem peekBody_eq (limit : Nat) (req : Request) :
    req.peekBody limit = ((req.body.getD []).take limit, req) := by
  rcases req with ⟨method, url, headers, _ | b⟩
  · simp [Request.peekBody]
  · simp [Request.peekBody, List.take_append_drop]

/-- Reading one byte past the limit goes over it exactly when the whole body does. -/
theorem limit_lt_length_take_succ (b : Bytes) (limit : Nat) :
    limit < (b.take (limit + 1)).length ↔ limit < b.length := by
  rw [List.length_take]
  omega

/-- A body within the limit is read whole, and the request handed on reads it again. -/
theorem readBody_of_le {limit : Nat} {req : Request} (h : (req.body.getD []).length ≤ limit) :
    req.readBody limit = some (req.body.getD [], { req with body := some (req.body.getD []) }) := by
  have hwhole : (req.body.getD []).take (limit + 1) = req.body.getD [] :=
    List.take_of_length_le (by omega)
  have hwithin : ¬ limit < ((req.body.getD []).take (limit + 1)).length := by
    rw [limit_lt_length_take_succ]
    omega
  simp only [Request.readBody, gt_iff_lt, if_neg hwithin]
  rw [hwhole]

/-- A body over the limit is refused. -/
theorem readBody_of_lt {limit : Nat} {req : Request} (h : limit < (req.body.getD []).length) :
    req.readBody limit = none := by
  have hover : limit < ((req.body.getD []).take (limit + 1)).length :=
    (limit_lt_length_take_succ _ _).2 h
  simp only [Request.readBody, gt_iff_lt, hover, if_true]

/-- Authentication reads the method, the target and the headers of a request, never its
body stream: the body it checks is the one it is given. -/
theorem authenticated_with_body (front : Front) (req : Request) (o : Option Bytes)
    (body : Bytes) (headers : Headers) (answer : Engine Response) :
    authenticated front { req with body := o } body headers answer =
      authenticated front req body headers answer := rfl

/-- A guarded endpoint authenticates a body within the limit as it is and hands the handler a
request whose body reads as it; a longer body is refused before authentication. -/
theorem guarded_eq (front : Front) (req : Request) (headers : Headers)
    (answer : Request → Engine Response) :
    guarded front req headers answer =
      if (req.body.getD []).length ≤ maxBodyBytes then
        authenticated front req (req.body.getD []) headers
          (answer { req with body := some (req.body.getD []) })
      else failureResponse headers [] bodyTooLarge := by
  by_cases hsize : (req.body.getD []).length ≤ maxBodyBytes
  · rw [if_pos hsize, guarded, readBody_of_le hsize]
    exact authenticated_with_body _ _ _ _ _ _
  · rw [if_neg hsize, guarded, readBody_of_lt (by omega)]

/-- The refusal of an oversized body is a validation failure, `VAL_002`, with status 400. -/
theorem bodyTooLarge_kind :
    bodyTooLarge.kind = .validation ∧ bodyTooLarge.kind.code = "VAL_002" ∧
      bodyTooLarge.kind.status = 400 := by
  decide

/-- The signature covers exactly the body the handler processes: a body of at most 1 MiB is
the one authenticated and handed on, and a longer one is refused with `VAL_002` before
authentication. -/
theorem api_handler_reads_signed_body (front : Front) (req : Request) (headers : Headers)
    {e : Endpoint} {vars : List (String × Bytes)}
    (hroute : route req.method req.url.path = .matched e vars) (hapi : e ≠ .health) :
    dispatch front (req.peekBody maxBodyBytes).2 headers =
        (if (req.body.getD []).length ≤ maxBodyBytes then
          authenticated front req (req.body.getD []) headers
            (handle front headers e vars { req with body := some (req.body.getD []) })
        else failureResponse headers [] bodyTooLarge) ∧
      bodyTooLarge.kind = .validation ∧ bodyTooLarge.kind.code = "VAL_002" ∧
      bodyTooLarge.kind.status = 400 := by
  refine ⟨?_, bodyTooLarge_kind⟩
  rw [peekBody_eq, ← guarded_eq]
  -- every endpoint but the health check is guarded
  cases e with
  | health => exact absurd rfl hapi
  | createTransaction | getTransaction | accountTransactions => simp only [dispatch, hroute]

/-- A transaction request of two bytes, `{}`, routed to the endpoint that makes
transactions, at the front of the default settings. -/
theorem api_handler_reads_signed_body_of_small_post :
    let req : Request := ⟨"POST", { path := Bytes.ofString "/api/transactions" }, {},
      some (Bytes.ofString "{}")⟩
    route req.method req.url.path = .matched .createTransaction [] ∧
      Endpoint.createTransaction ≠ .health ∧
      (dispatch default (req.peekBody maxBodyBytes).2 {} =
          (if (req.body.getD []).length ≤ maxBodyBytes then
            authenticated default req (req.body.getD []) {}
              (handle default {} .createTransaction [] { req with body := some (req.body.getD []) })
          else failureResponse {} [] bodyTooLarge) ∧
        bodyTooLarge.kind = .validation ∧ bodyTooLarge.kind.code = "VAL_002" ∧
        bodyTooLarge.kind.status = 400) :=
  ⟨by decide +kernel, by decide,
    api_handler_reads_signed_body default _ {} (by decide +kernel) (by decide)⟩

end Ledger.Http
