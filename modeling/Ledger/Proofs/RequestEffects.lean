import Ledger.Proofs.RunAlone
import Ledger.Proofs.SignedBody
import Ledger.Proofs.SignerAgreement
/-!
# Which requests change the store

Serving a request changes the store only through an authenticated, well-formed `POST` to
`/api/transactions` that the front's checks admit. The proof carries a frame predicate
(`Within`) through the front's code.
-/

namespace Ledger

open Engine

namespace Engine

/-- A computation that leaves the store as it found it, from every world. -/
def KeepsStore {α : Type} (m : Engine α) : Prop := ∀ w, (m.run w).2.store = w.store

namespace KeepsStore

variable {α β : Type}

theorem pure (a : α) : KeepsStore (Pure.pure a : Engine α) := fun _ => rfl

theorem bind {m : Engine α} {k : α → Engine β} (hm : KeepsStore m) (hk : ∀ a, KeepsStore (k a)) :
    KeepsStore (m >>= k) := by
  intro w
  show ((k (m.run w).1).run (m.run w).2).2.store = w.store
  rw [hk, hm]

theorem now : KeepsStore Engine.now := fun _ => rfl

theorem emit (e : Log.Entry) : KeepsStore (Engine.emit e) := fun _ => rfl

theorem freshId : KeepsStore Engine.freshId := fun _ => rfl

/-- A read through the fault plan may consume a fault rule but never writes the store. -/
theorem storeRead (op : StoreOp) (act : Store → Except Failure α) :
    KeepsStore (Engine.storeRead op act) := by
  intro w
  rcases hplan : checkFaults op w.faults with ⟨rules, fault⟩
  rw [Interleaving.storeRead_run w hplan]

end KeepsStore

/-- A relation between the world a computation starts from and the one it ends in, that every
world bears to itself and that composes along a run. -/
structure Frame where
  rel : World → World → Prop
  refl : ∀ w, rel w w
  trans : ∀ {u v w}, rel u v → rel v w → rel u w

/-- The frame of computations that leave the store as they found it. -/
def Frame.sameStore : Frame :=
  ⟨fun w w' => w'.store = w.store, fun _ => rfl, fun h h' => h'.trans h⟩

/-- The frame that says nothing of the worlds. -/
def Frame.any : Frame := ⟨fun _ _ => True, fun _ => trivial, fun _ _ => trivial⟩

/-- An action that, from every world, ends in a world the frame relates to it, and fails, if it
fails, with a failure satisfying `F`. -/
def Within (fr : Frame) (F : Failure → Prop) {α : Type} (act : Action α) : Prop :=
  ∀ w, fr.rel w (act.run.run w).2 ∧ ∀ f, (act.run.run w).1 = .error f → F f

namespace Within

variable {fr : Frame} {F : Failure → Prop} {α β : Type}

theorem pure (a : α) : Within fr F (Pure.pure a : Action α) :=
  fun w => ⟨fr.refl w, fun _ h => by cases h⟩

theorem fail {f : Failure} (hf : F f) : Within fr F (Service.fail f : Action α) :=
  fun w => ⟨fr.refl w, fun _ h => by cases h; exact hf⟩

theorem lift {m : Engine α} (hm : ∀ w, fr.rel w (m.run w).2) : Within fr F (liftM m : Action α) :=
  fun w => ⟨hm w, fun _ h => by cases h⟩

/-- A store call made inside an action keeps its failure as a value, so the action does not
fail. -/
theorem attempt {m : Engine (Except Failure α)} (hm : ∀ w, fr.rel w (m.run w).2) :
    Within fr F (Service.attempt m) :=
  fun w => ⟨hm w, fun _ h => by cases h⟩

theorem bind {x : Action α} {g : α → Action β} (hx : Within fr F x) (hg : ∀ a, Within fr F (g a)) :
    Within fr F (x >>= g) := by
  intro w
  rw [Interleaving.run_bind]
  rcases hrun : x.run.run w with ⟨_ | a, w'⟩
  · -- the first action failed, and its failure is the whole action's
    have hxw := hx w
    rw [hrun] at hxw
    exact ⟨hxw.1, fun f h => hxw.2 f (by cases h; rfl)⟩
  · have hxw := (hx w).1
    rw [hrun] at hxw
    exact ⟨fr.trans hxw (hg a w').1, (hg a w').2⟩

/-- An action within the frame of the store keeps the store. -/
theorem keepsStore {act : Action α} (h : Within .sameStore F act) : KeepsStore act.run :=
  fun w => (h w).1

end Within

/-- Whatever follows a computation that keeps the store, the store at the end is the one the
first computation left. -/
theorem store_bind_of_keeps {α β : Type} (m : Engine α) {k : α → Engine β}
    (hk : ∀ a, KeepsStore (k a)) (w : World) :
    ((m >>= k).run w).2.store = (m.run w).2.store :=
  hk (m.run w).1 (m.run w).2

end Engine

/-! ## The service calls that only read -/

namespace Service

theorem findAccount_keepsStore (number : Bytes) :
    Within .sameStore (fun _ => True) (findAccount number) := by
  refine Within.bind (Within.attempt (KeepsStore.storeRead _ _)) fun r => ?_
  cases r with
  | ok a => exact Within.pure a
  | error f => exact Within.fail trivial

theorem getTransaction_keepsStore (id : Uuid) :
    Within .sameStore (fun _ => True) (getTransaction id) := by
  refine Within.bind (Within.attempt (KeepsStore.storeRead _ _)) fun r => ?_
  cases r with
  | ok t => exact Within.pure t
  | error f =>
    dsimp only
    split <;> exact Within.fail trivial

theorem accountStatement_keepsStore (number : Bytes) (limit : Int) :
    Within .sameStore (fun _ => True) (accountStatement number limit) := by
  refine Within.bind (findAccount_keepsStore number) fun a => ?_
  refine Within.bind (Within.attempt (KeepsStore.storeRead _ _)) fun r => ?_
  cases r with
  | ok ts => exact Within.bind (Within.lift KeepsStore.now) fun _ => Within.pure _
  | error f => exact Within.fail trivial

theorem ping_keepsStore : Within .sameStore (fun _ => True) ping := by
  refine Within.bind (Within.attempt (KeepsStore.storeRead _ _)) fun r => ?_
  cases r with
  | ok u => exact Within.pure u
  | error f => exact Within.fail trivial

end Service

/-! ## The front's answers that keep the store -/

namespace Http

theorem failureResponse_keepsStore (headers : Headers) (extra : List (String × Log.Value))
    (f : Failure) : KeepsStore (failureResponse headers extra f) := by
  unfold failureResponse
  dsimp only
  split <;> exact KeepsStore.bind (KeepsStore.emit _) fun _ => KeepsStore.pure _

/-- The front's answer to an outcome of the service leaves the store as the service left it. -/
theorem withService_continuation {α : Type} (headers : Headers) {k : α → Engine Response}
    (hk : ∀ a, KeepsStore (k a)) (r : Except Failure α) :
    KeepsStore (match r with
      | .ok a => k a
      | .error f => failureResponse headers [] f) := by
  cases r with
  | ok a => exact hk a
  | error f => exact failureResponse_keepsStore headers [] f

theorem withService_keepsStore {α : Type} (headers : Headers) {act : Action α}
    {k : α → Engine Response} (hact : KeepsStore act.run) (hk : ∀ a, KeepsStore (k a)) :
    KeepsStore (withService headers act k) :=
  KeepsStore.bind hact (withService_continuation headers hk)

/-- After a call of the service, the store is the one the call left. -/
theorem withService_store {α : Type} (headers : Headers) (act : Action α)
    {k : α → Engine Response} (hk : ∀ a, KeepsStore (k a)) (w : World) :
    ((withService headers act k).run w).2.store = (act.run.run w).2.store :=
  store_bind_of_keeps _ (withService_continuation headers hk) w

theorem health_keepsStore (headers : Headers) : KeepsStore (health headers) := by
  refine KeepsStore.bind Service.ping_keepsStore.keepsStore fun r => ?_
  cases r with
  | ok u => exact KeepsStore.pure _
  | error f => exact KeepsStore.bind (KeepsStore.emit _) fun _ => KeepsStore.pure _

theorem getTransaction_keepsStore (vars : List (String × Bytes)) (headers : Headers) :
    KeepsStore (getTransaction vars headers) := by
  unfold getTransaction
  split
  · exact failureResponse_keepsStore _ _ _
  · exact withService_keepsStore _ (Service.getTransaction_keepsStore _).keepsStore
      fun _ => KeepsStore.pure _

theorem accountTransactions_keepsStore (req : Request) (vars : List (String × Bytes))
    (headers : Headers) : KeepsStore (accountTransactions req vars headers) := by
  unfold accountTransactions
  dsimp only
  -- a refused limit is answered at once; any other reads the statement
  split
  · exact failureResponse_keepsStore _ _ _
  · refine withService_keepsStore _ (Service.accountStatement_keepsStore _ _).keepsStore fun _ => ?_
    split <;> exact KeepsStore.pure _

theorem authenticated_keepsStore (front : Front) (req : Request) (body : Bytes)
    (headers : Headers) {answer : Engine Response} (hanswer : KeepsStore answer) :
    KeepsStore (authenticated front req body headers answer) := by
  refine KeepsStore.bind KeepsStore.now fun _ => ?_
  split
  · exact failureResponse_keepsStore _ _ _
  · exact hanswer

/-- An authenticated request is answered as if authentication were not there. -/
theorem authenticated_run_of_ok {front : Front} {req : Request} {body : Bytes} {headers : Headers}
    {answer : Engine Response} {w : World} {p : Auth.Principal}
    (hauth : Auth.authenticate front.registry front.maxSkew w.clock (req.toAuth body) = .ok p) :
    (authenticated front req body headers answer).run w = answer.run w := by
  simp only [authenticated, Engine.now, bind, StateT.bind, get, getThe, MonadStateOf.get,
    StateT.get, pure, StateT.pure, StateT.run, hauth]

/-- A refused request is answered with its failure alone. -/
theorem authenticated_store_of_error {front : Front} {req : Request} {body : Bytes}
    {headers : Headers} {answer : Engine Response} {w : World} {f : Failure}
    (hauth : Auth.authenticate front.registry front.maxSkew w.clock (req.toAuth body) = .error f) :
    ((authenticated front req body headers answer).run w).2.store = w.store := by
  simp only [authenticated, Engine.now, bind, StateT.bind, get, getThe, MonadStateOf.get,
    StateT.get, pure, StateT.pure, StateT.run, hauth]
  exact failureResponse_keepsStore _ _ _ w

theorem guarded_keepsStore (front : Front) (req : Request) (headers : Headers)
    {answer : Request → Engine Response} (hanswer : ∀ r, KeepsStore (answer r)) :
    KeepsStore (guarded front req headers answer) := by
  rw [guarded_eq]
  split
  · exact authenticated_keepsStore _ _ _ _ (hanswer _)
  · exact failureResponse_keepsStore _ _ _

/-- Every handler but the one that makes transactions leaves the store as it is. -/
theorem handle_keepsStore (front : Front) (headers : Headers) {e : Endpoint}
    (he : e ≠ .createTransaction) (vars : List (String × Bytes)) (req : Request) :
    KeepsStore (handle front headers e vars req) := by
  cases e with
  | health => exact health_keepsStore headers
  | createTransaction => exact absurd rfl he
  | getTransaction => exact getTransaction_keepsStore vars headers
  | accountTransactions => exact accountTransactions_keepsStore req vars headers

/-! ## The handler that makes transactions -/

/-- A header set to a value reads back as that value under any spelling of its name. -/
theorem Headers.get_set (h : Headers) {name name' : String} (value : String)
    (hk : canonicalKey name' = canonicalKey name) : (h.set name value).get name' = value := by
  simp only [Headers.get, Headers.set, hk]
  by_cases hany : h.entries.any (·.1 == canonicalKey name)
  · -- the first entry under the name now holds the value
    rw [if_pos hany, List.find?_map]
    obtain ⟨e, he⟩ : ∃ e, h.entries.find? (·.1 == canonicalKey name) = some e :=
      Option.isSome_iff_exists.mp (List.find?_isSome.mpr (List.any_eq_true.mp hany))
    have hkey := List.find?_some he
    have hsame : (fun x : String × List String =>
        (if (x.1 == canonicalKey name) = true then (x.1, [value]) else (x.1, x.2)).1 ==
          canonicalKey name) = fun x => x.1 == canonicalKey name := by
      funext x
      split <;> rfl
    simp only [Function.comp_def, hsame, he, Option.map_some]
    simp [hkey]
  · -- the name is new, and its entry goes last
    have hnone : ∀ x ∈ h.entries, ¬(x.1 == canonicalKey name) = true :=
      fun x hx hx' => hany (List.any_eq_true.mpr ⟨x, hx, hx'⟩)
    rw [if_neg hany, List.find?_append, List.find?_eq_none.mpr hnone]
    simp

theorem isMediaTokenChar_eq_mem : isMediaTokenChar = fun c =>
    (decide (c.toNat < 127) && decide (c.toNat > 32) && !decide (c ∈ "()<>@,;:\\\"/[]?=".toList)) := by
  funext c
  simp [isMediaTokenChar, String.contains_char_eq]

/-- What the handler that makes transactions asks of a request before it calls the service:
JSON content, a body that decodes to `order`, and an order that passes the front's checks as
a transaction of type `type`. -/
structure Accepted (front : Front) (req : Request) (order : TxnRequest) (type : TxnType) : Prop where
  json : mediaType? (req.headers.get "Content-Type") = some "application/json"
  decoded : TxnRequest.read (req.body.getD []) = .ok order
  valid : order.check front.maxAmount = .ok type

/-- Acceptance reads the body's bytes, not how the body is held. -/
theorem Accepted.rebodied {front : Front} {req : Request} {order : TxnRequest} {type : TxnType}
    (h : Accepted front req order type) :
    Accepted front { req with body := some (req.body.getD []) } order type :=
  ⟨h.json, h.decoded, h.valid⟩

/-- An accepted request changes the store exactly as the service call it makes. -/
theorem createTransaction_store_of_accepted {front : Front} {req : Request} {order : TxnRequest}
    {type : TxnType} (h : Accepted front req order type) (headers : Headers) (w : World) :
    ((createTransaction front req headers).run w).2.store =
      ((Service.createTransaction front.rateLimit front.rules order.accountNumber
        (order.amount.getD .zero) type).run.run w).2.store := by
  have hjson : (mediaType? (req.headers.get "Content-Type") != some "application/json") = false := by
    simp [h.json]
  simp only [createTransaction, hjson, Bool.false_eq_true, if_false, h.decoded, h.valid]
  exact withService_store _ _ (fun _ => KeepsStore.pure _) w

/-- A request the handler does not accept leaves the store as it is. -/
theorem createTransaction_keepsStore_of_refused {front : Front} {req : Request}
    (h : ∀ order type, ¬ Accepted front req order type) (headers : Headers) :
    KeepsStore (createTransaction front req headers) := by
  unfold createTransaction
  dsimp only
  -- the content type, the decoding and the checks are tried in turn
  split
  · exact failureResponse_keepsStore _ _ _
  · rename_i hjson
    have hjson : mediaType? (req.headers.get "Content-Type") = some "application/json" := by
      simpa using hjson
    split
    · exact failureResponse_keepsStore _ _ _
    · rename_i order hdecoded
      split
      · exact failureResponse_keepsStore _ _ _
      · rename_i type hvalid
        exact absurd ⟨hjson, hdecoded, hvalid⟩ (h order type)

/-! ## Routing to the handler that makes transactions -/

/-- A route the router answers with was tried and fitted: its template matches the path and
its method is the request's. -/
theorem route_go_matched {method : String} {path : Bytes} {e : Endpoint}
    {vars : List (String × Bytes)} (rs : List Route) (pending : Bool)
    (h : route.go method path rs pending = .matched e vars) :
    ∃ r ∈ rs, r.endpoint = e ∧ matchTemplate r.template path = some vars ∧ method = r.method := by
  induction rs generalizing pending with
  | nil =>
    simp only [route.go] at h
    split at h <;> cases h
  | cons r rs ih =>
    -- an answer from the routes after `r` is an answer of the longer list
    have hrest : ∀ b, route.go method path rs b = .matched e vars →
        ∃ r' ∈ r :: rs, r'.endpoint = e ∧ matchTemplate r'.template path = some vars ∧
          method = r'.method := fun b hb =>
      let ⟨r', hr', hfit⟩ := ih b hb
      ⟨r', List.mem_cons_of_mem r hr', hfit⟩
    -- `r` itself answers when its template matches and its method is the request's
    have hhere : ∀ vars', matchTemplate r.template path = some vars' →
        (if method == r.method then Routed.matched r.endpoint vars'
          else route.go method path rs true) = .matched e vars →
        ∃ r' ∈ r :: rs, r'.endpoint = e ∧ matchTemplate r'.template path = some vars ∧
          method = r'.method := by
      intro vars' hmatch hr
      split at hr
      · rename_i hmethod
        cases hr
        exact ⟨r, List.mem_cons_self, rfl, hmatch, by simpa using hmethod⟩
      · exact hrest true hr
    simp only [route.go] at h
    split at h
    · split at h
      · simp only [route.tryTemplate] at h
        split at h
        · exact hrest false h
        · exact hhere _ ‹_› h
      · exact hrest pending h
    · split at h
      · exact hrest pending h
      · exact hhere _ ‹_› h

/-- Segments that match literal segments are those literals. -/
theorem matchSegments_literals {segs : List Bytes} {vars : List (String × Bytes)} :
    ∀ {ts : List String}, matchSegments (ts.map .literal) segs = some vars →
      segs = ts.map Bytes.ofString := by
  induction segs with
  | nil =>
    intro ts h
    cases ts with
    | nil => rfl
    | cons t ts => simp [matchSegments] at h
  | cons s segs ih =>
    intro ts h
    cases ts with
    | nil => simp [matchSegments] at h
    | cons t ts =>
      simp only [List.map_cons, matchSegments] at h
      split at h
      · rename_i hs
        have hlit : Bytes.ofString t = s := by simpa using hs
        rw [ih h, ← hlit]
        rfl
      · cases h

/-- A path that matches a template of literal segments is those segments, each after a
slash. -/
theorem matchTemplate_literals {ts : List String} {path : Bytes} {vars : List (String × Bytes)}
    (h : matchTemplate (ts.map .literal) path = some vars) :
    path = 47 :: ([47] : Bytes).intercalate (ts.map Bytes.ofString) := by
  obtain ⟨segs, hsegs, hmatch⟩ := Option.bind_eq_some_iff.1 h
  unfold pathSegments at hsegs
  split at hsegs
  · rename_i rest
    cases hsegs
    rw [← matchSegments_literals hmatch, List.intercalate_splitOn]
  · cases hsegs

/-- The router sends a request to the handler that makes transactions exactly when it is a
`POST` to `/api/transactions`. -/
theorem route_eq_createTransaction_iff (method : String) (path : Bytes) :
    (∃ vars, route method path = .matched .createTransaction vars) ↔
      method = "POST" ∧ path = Bytes.ofString "/api/transactions" := by
  constructor
  · rintro ⟨vars, h⟩
    obtain ⟨r, hr, he, hmatch, hmethod⟩ := route_go_matched routes false h
    -- of the routes, only the second makes transactions
    simp only [routes, List.mem_cons, List.not_mem_nil, or_false] at hr
    rcases hr with rfl | rfl | rfl | rfl
    · cases he
    · refine ⟨hmethod, ?_⟩
      have hpath : _ = 47 :: ([47] : Bytes).intercalate (["api", "transactions"].map Bytes.ofString) :=
        matchTemplate_literals hmatch
      rw [hpath]
      decide +kernel
    · cases he
    · cases he
  · rintro ⟨rfl, rfl⟩
    exact ⟨[], by decide +kernel⟩

/-! ## Serving a request -/

/-- A request the front hands to the service as a transaction, at the time `now`: a `POST` to
`/api/transactions` with a body of at most 1 MiB, authenticated over that body, with JSON
content that decodes to `order`, and an order that passes the front's checks as a transaction
of type `type`. -/
structure Admitted (front : Front) (now : Instant) (req : Request) (order : TxnRequest)
    (type : TxnType) : Prop where
  post : req.method = "POST"
  path : req.url.path = Bytes.ofString "/api/transactions"
  withinLimit : (req.body.getD []).length ≤ maxBodyBytes
  authentic : ∃ p, Auth.authenticate front.registry front.maxSkew now (req.toAuth (req.body.getD [])) = .ok p
  accepted : Accepted front req order type

/-- An admitted request changes the store exactly as its service call. -/
theorem dispatch_store_of_admitted {front : Front} {req : Request} {order : TxnRequest}
    {type : TxnType} {w : World} (h : Admitted front w.clock req order type) (headers : Headers) :
    ((dispatch front req headers).run w).2.store =
      ((Service.createTransaction front.rateLimit front.rules order.accountNumber
        (order.amount.getD .zero) type).run.run w).2.store := by
  have hroute : route req.method req.url.path = .matched .createTransaction [] := by
    rw [h.post, h.path]
    decide +kernel
  obtain ⟨p, hauth⟩ := h.authentic
  simp only [dispatch, hroute]
  rw [guarded_eq, if_pos h.withinLimit, authenticated_run_of_ok hauth]
  simp only [handle]
  exact createTransaction_store_of_accepted h.accepted.rebodied headers w

/-- A request that is not admitted leaves the store as it is. -/
theorem dispatch_store_of_refused {front : Front} {req : Request} {w : World}
    (h : ∀ order type, ¬ Admitted front w.clock req order type) (headers : Headers) :
    ((dispatch front req headers).run w).2.store = w.store := by
  cases hroute : route req.method req.url.path with
  | wrongMethod => simp only [dispatch, hroute]; exact KeepsStore.pure _ w
  | noRoute => simp only [dispatch, hroute]; exact KeepsStore.pure _ w
  | matched e vars =>
    by_cases hcreate : e = .createTransaction
    · subst hcreate
      obtain ⟨hpost, hpath⟩ := (route_eq_createTransaction_iff _ _).1 ⟨vars, hroute⟩
      simp only [dispatch, hroute]
      rw [guarded_eq]
      -- past the size check, authentication decides whether the handler runs
      split
      · rename_i hsize
        cases hauth : Auth.authenticate front.registry front.maxSkew w.clock
            (req.toAuth (req.body.getD [])) with
        | error f => exact authenticated_store_of_error hauth
        | ok p =>
          rw [authenticated_run_of_ok hauth]
          simp only [handle]
          refine createTransaction_keepsStore_of_refused (fun order type hacc => ?_) headers w
          exact h order type ⟨hpost, hpath, hsize, ⟨p, hauth⟩, ⟨hacc.json, hacc.decoded, hacc.valid⟩⟩
      · exact failureResponse_keepsStore _ _ _ w
    · cases e with
      | health => simp only [dispatch, hroute]; exact health_keepsStore headers w
      | createTransaction => exact absurd rfl hcreate
      | getTransaction | accountTransactions =>
        simp only [dispatch, hroute]
        exact guarded_keepsStore _ _ _ (handle_keepsStore _ _ hcreate _) w

/-- Serving changes the store only through dispatch, from the world with the trace id drawn
and the request logged, and only when the path is clean. -/
theorem serve_store (front : Front) (req : Request) (w : World) :
    ∃ headers journal, ((serve front req).run w).2.store =
      if cleanPath req.url.path = req.url.path then
        ((dispatch front req headers).run { w with issued := w.issued + 1, journal := journal }).2.store
      else w.store := by
  simp only [serve, peekBody_eq, Interleaving.engine_run_bind, Interleaving.freshId_run,
    Interleaving.emit_run]
  -- the response is logged after it is made, which leaves the store as it is
  have hlogged : ∀ resp : Response, KeepsStore (emit (.make .info "Transaction Server Response Log"
      [("trace_id", Log.Value.text (Bytes.ofString (Uuid.ofSequence (w.issued + 1)).toText)),
        ("status", .int resp.status),
        ("content_type", .text (Bytes.ofString (resp.headers.get "Content-Type"))),
        ("response_body", .text (flatten resp.body))]) >>= fun _ => pure resp) :=
    fun _ => KeepsStore.bind (KeepsStore.emit _) fun _ => KeepsStore.pure _
  by_cases hclean : cleanPath req.url.path = req.url.path
  · -- a clean path is dispatched
    simp only [hclean, bne_self_eq_false, Bool.false_eq_true, if_false, if_true]
    exact ⟨_, _, store_bind_of_keeps _ hlogged _⟩
  · -- any other is redirected to its clean form
    have hdirty : (cleanPath req.url.path != req.url.path) = true := by simpa using hclean
    simp only [hdirty, if_true, hclean, if_false]
    exact ⟨{}, [], (store_bind_of_keeps _ hlogged _).trans rfl⟩

/-- Serving a request changes the store only when the request is `Admitted`, and then exactly
as one call of the service making its order's transaction; every other request leaves the
store as it was. -/
theorem serve_changes_store_only_as_admitted_transaction (front : Front) (req : Request)
    (w : World) :
    (∀ order type, Admitted front w.clock req order type →
      ∃ journal, ((serve front req).run w).2.store =
        ((Service.createTransaction front.rateLimit front.rules order.accountNumber
          (order.amount.getD .zero) type).run.run
            { w with issued := w.issued + 1, journal := journal }).2.store) ∧
    ((∀ order type, ¬ Admitted front w.clock req order type) →
      ((serve front req).run w).2.store = w.store) := by
  obtain ⟨headers, journal, hserve⟩ := serve_store front req w
  refine ⟨fun order type h => ⟨journal, ?_⟩, fun h => ?_⟩
  · have hclean : cleanPath req.url.path = req.url.path := by
      rw [h.path]
      decide +kernel
    rw [hserve, if_pos hclean]
    exact dispatch_store_of_admitted (w := { w with issued := w.issued + 1, journal := journal })
      h headers
  · rw [hserve]
    split
    · exact dispatch_store_of_refused (w := { w with issued := w.issued + 1, journal := journal })
        h headers
    · rfl

/-- A signed deposit: a `POST` to `/api/transactions` from the one client of the front, with
the default skew in force, is admitted and changes the store as the service call it makes. -/
theorem serve_changes_store_only_as_admitted_transaction_of_signed_deposit :
    let client : Auth.Client := ⟨"ops", "key-1", "secret", some ["admin"]⟩
    let front : Front := ⟨⟨[client]⟩, 0, ⟨100000, 0⟩, default, default⟩
    let path := Bytes.ofString "/api/transactions"
    let body := Bytes.ofString
      "\x7b\"accountNumber\":\"ACC-1\",\"transactionType\":\"DEPOSIT\",\"amount\":10\x7d"
    let headers : Headers := (((({} : Headers).set "Content-Type" "application/json").set
      "X-API-Key" "key-1").set "X-Timestamp" "1000").set "X-HMAC-Signature"
      (Auth.sign "secret" "POST" path "" "1000" body)
    let req : Request := ⟨"POST", { path := path }, headers, some body⟩
    let w : World := { clock := ⟨5000000000, 0⟩ }
    let order : TxnRequest := ⟨Bytes.ofString "ACC-1", "DEPOSIT", some ⟨10, 0⟩⟩
    Admitted front w.clock req order .deposit ∧
      ∃ journal, ((serve front req).run w).2.store =
        ((Service.createTransaction front.rateLimit front.rules order.accountNumber
          (order.amount.getD .zero) .deposit).run.run
            { w with issued := w.issued + 1, journal := journal }).2.store := by
  intro client front path body headers req w order
  have hsig : (req.toAuth (req.body.getD [])).signature = Auth.sign "secret" "POST" path "" "1000" body :=
    Headers.get_set _ _ (by decide +kernel)
  have hts : (req.toAuth (req.body.getD [])).timestamp = "1000" := by decide +kernel
  have hsigned : Auth.Signed front.registry ((Auth.effectiveSkew front.maxSkew).tdiv 1000000)
      w.clock (req.toAuth (req.body.getD [])) client := by
    refine ⟨by decide +kernel, ?_, ⟨1000, by decide +kernel, by decide, by decide +kernel,
      by decide +kernel⟩, by decide +kernel, ?_⟩
    · rw [hsig]
      exact Auth.trimBlank_sign_ne_empty _ _ _ _ _ _
    · rw [hsig, hts]
      rfl
  have hjson : mediaType? (req.headers.get "Content-Type") = some "application/json" := by
    have hget : req.headers.get "Content-Type" = "application/json" := by decide +kernel
    rw [hget]
    simp only [mediaType?, validMediaType, splitToken, isMediaTokenChar_eq_mem]
    decide +kernel
  have hvalid : order.check front.maxAmount = .ok .deposit := by
    have hok : (match order.check front.maxAmount with
        | .ok .deposit => true
        | _ => false) = true := by decide +kernel
    split at hok
    · assumption
    · cases hok
  have hread : TxnRequest.read (req.body.getD []) = .ok order := by
    have hfields : (TxnRequest.read (req.body.getD [])).toOption.map (fun r =>
        (r.accountNumber, r.transactionType, r.amount.map fun d => (d.coef, d.exp))) =
        some (Bytes.ofString "ACC-1", "DEPOSIT", some (10, 0)) := by decide +kernel
    cases hr : TxnRequest.read (req.body.getD []) with
    | error e => simp [hr, Except.toOption] at hfields
    | ok r =>
      obtain ⟨a, t, am⟩ := r
      simp only [hr, Except.toOption, Option.map_some, Option.some.injEq, Prod.mk.injEq] at hfields
      obtain ⟨rfl, rfl, ham⟩ := hfields
      cases am with
      | none => cases ham
      | some d =>
        simp only [Option.map_some, Option.some.injEq, Prod.mk.injEq] at ham
        obtain ⟨c, x⟩ := d
        obtain ⟨rfl, rfl⟩ := ham
        rfl
  have hadmitted : Admitted front w.clock req order .deposit :=
    ⟨rfl, rfl, by decide +kernel, ⟨_, Auth.authenticate_of_signed _ _ _ _ hsigned⟩,
      ⟨hjson, hread, hvalid⟩⟩
  exact ⟨hadmitted, (serve_changes_store_only_as_admitted_transaction front req w).1 _ _ hadmitted⟩

end Http

end Ledger
