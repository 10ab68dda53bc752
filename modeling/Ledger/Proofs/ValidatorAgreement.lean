import Ledger.Proofs.CallEffect
import Ledger.Proofs.RequestEffects
import Ledger.Proofs.Authentication
/-!
# The front's checks and the engine's validation

With the front's largest amount the engine's, the front passes a request exactly when the
engine's validation accepts its type and amount, so the endpoint never answers with an
invalid transaction. `Avoids` tracks the kinds of failure an action cannot end with.
-/

namespace Ledger

namespace Failure

@[simp]
theorem kind_classified (k : ErrorKind) (m : Bytes) (c : Option Failure) :
    (Failure.classified k m c).kind = k := rfl

@[simp]
theorem kind_make (k : ErrorKind) (m : String) : (Failure.make k m).kind = k := rfl

@[simp]
theorem kind_wrap (k : ErrorKind) (c : Failure) (m : String) : (Failure.wrap k c m).kind = k := rfl

end Failure

namespace Service

open Engine

/-- An action that never fails with a failure of kind `k`, from any world. -/
abbrev Avoids {α : Type} (k : ErrorKind) (act : Action α) : Prop :=
  Within .any (fun f => f.kind ≠ k) act

/-! ## The failures of a call after validation -/

theorem storeBalance_avoids (a : Account) (amount : Decimal) (type : TxnType) (b : Decimal)
    (t : Transaction) : Avoids .invalidTransaction (storeBalance a amount type b t) := by
  refine Within.bind (Within.lift fun _ => trivial) fun stamp =>
    Within.bind (Within.attempt fun _ => trivial) fun r => ?_
  cases r with
  | error f =>
    refine Within.bind (Within.lift fun _ => trivial) fun _ =>
      Within.bind (Within.lift fun _ => trivial) fun _ => ?_
    exact Within.fail (by simp [updateFailure])
  | ok p => exact Within.bind (Within.lift fun _ => trivial) fun _ => Within.pure _

theorem storeRecord_avoids (number : Bytes) (a : Account) (amount : Decimal) (type : TxnType) :
    Avoids .invalidTransaction (storeRecord number a amount type) := by
  refine Within.bind (Within.lift fun _ => trivial) fun id =>
    Within.bind (Within.lift fun _ => trivial) fun stamp =>
      Within.bind (Within.attempt fun _ => trivial) fun r => ?_
  cases r with
  | ok t => exact Within.bind (Within.lift fun _ => trivial) fun _ => Within.pure _
  | error f =>
    exact Within.bind (Within.lift fun _ => trivial) fun _ => Within.fail (by simp [recordFailure])

theorem checkRulesAndStore_avoids (rules : Rules) (number : Bytes) (a : Account)
    (amount : Decimal) (type : TxnType) :
    Avoids .invalidTransaction (checkRulesAndStore rules number a amount type) := by
  have hrest (b : Decimal) : Avoids .invalidTransaction
      (storeRecord number a amount type >>= storeBalance a amount type b) :=
    Within.bind (storeRecord_avoids _ _ _ _) fun t => storeBalance_avoids _ _ _ _ _
  unfold checkRulesAndStore
  refine Within.bind (Within.lift fun _ => trivial) fun now => ?_
  dsimp only
  split
  · exact Within.bind (Within.pure _) hrest
  · -- the balance rules refuse with `InsufficientBalance`
    rename_i f h
    obtain ⟨m, rfl⟩ := applyRules_eq_error h
    exact Within.bind (Within.fail (by simp)) hrest

theorem allow_avoids (limit : RateLimit) (id : Int) :
    Avoids .invalidTransaction (allow limit id) := by
  unfold allow
  split
  · exact Within.pure _
  · refine Within.bind (Within.lift fun _ => trivial) fun now =>
      Within.bind (Within.attempt fun _ => trivial) fun r => ?_
    cases r with
    | ok n => exact Within.pure _
    | error f => exact Within.fail (by simp [countFailure])

theorem checkRateAndStore_avoids (limit : RateLimit) (rules : Rules) (number : Bytes)
    (a : Account) (amount : Decimal) (type : TxnType) :
    Avoids .invalidTransaction (checkRateAndStore limit rules number a amount type) := by
  unfold checkRateAndStore
  refine Within.bind (allow_avoids _ _) fun allowed => ?_
  dsimp only
  split
  · exact checkRulesAndStore_avoids _ _ _ _ _
  · exact Within.bind (Within.lift fun _ => trivial) fun _ =>
      Within.bind (Within.fail (by simp [rateFailure])) fun _ => checkRulesAndStore_avoids _ _ _ _ _

theorem findAccount_avoids (number : Bytes) :
    Avoids .invalidTransaction (findAccount number) := by
  refine Within.bind (Within.attempt fun _ => trivial) fun r => ?_
  cases r with
  | ok a => exact Within.pure a
  | error f =>
    refine Within.fail ?_
    unfold lookupFailure
    split <;> simp [failWith]

/-- A call whose type and amount pass the engine's validation is never refused as an invalid
transaction: every other check refuses with a kind of its own. -/
theorem createTransaction_avoids {limit : RateLimit} {rules : Rules} {number : Bytes}
    {amount : Decimal} {type : TxnType} (hvalid : validate rules amount type = .ok ()) :
    Avoids .invalidTransaction (createTransaction limit rules number amount type) := by
  simp only [createTransaction, hvalid, pure_bind]
  refine Within.bind (findAccount_avoids _) fun a => ?_
  split
  · exact Within.bind (findAccount_avoids _) fun _ => checkRateAndStore_avoids _ _ _ _ _ _
  · exact checkRateAndStore_avoids _ _ _ _ _ _

end Service
end Ledger

namespace Ledger.Http.TxnRequest

open Service

@[simp]
theorem except_map_error {ε α β : Type} (e : ε) (f : α → β) :
    (f <$> .error e : Except ε β) = .error e := rfl

theorem ofText_isValid_iff (s : String) :
    (TxnType.ofText s).isValid = true ↔ s = "DEPOSIT" ∨ s = "WITHDRAWAL" := by
  unfold TxnType.ofText
  split <;> simp_all [TxnType.isValid]

theorem validate_eq_ok_iff_checks {rules : Rules} {amount : Decimal} {type : TxnType} :
    validate rules amount type = .ok () ↔ type.isValid = true ∧ amount.isPositive = true ∧
      validScale amount = true ∧ amount.gt rules.maxAmount = false := by
  unfold validate
  split_ifs <;> simp_all [-Decimal.gt_eq_true_iff, -Decimal.isPositive_eq_true_iff]

/-- The type a passing check gives is the one the request names. -/
theorem check_eq_ok_type {m : Decimal} {r : TxnRequest} {t : TxnType} (h : r.check m = .ok t) :
    t = TxnType.ofText r.transactionType := by
  unfold check at h
  cases ha : r.amount <;> simp [ha] at h <;> split_ifs at h <;> simp_all [Pure.pure, Except.pure]

theorem check_eq_ok_iff {rules : Rules} {r : TxnRequest} {t : TxnType} :
    r.check rules.maxAmount = .ok t ↔
      t = TxnType.ofText r.transactionType ∧ (Bytes.trimBlank r.accountNumber).isEmpty = false ∧
        r.transactionType ≠ "" ∧ ∃ a, r.amount = some a ∧ validate rules a t = .ok () := by
  simp only [validate_eq_ok_iff_checks]
  constructor
  · intro h
    obtain rfl := check_eq_ok_type h
    refine ⟨rfl, ?_⟩
    unfold check at h
    cases ha : r.amount <;>
      simp [ha, -Decimal.gt_eq_true_iff, -Decimal.isPositive_eq_true_iff] at h <;>
      split_ifs at h <;> simp_all [-Decimal.gt_eq_true_iff, -Decimal.isPositive_eq_true_iff]
  · rintro ⟨rfl, hnumber, htype, a, ha, hvalid, hpos, hscale, hgt⟩
    simp [check, hnumber, htype, ha, hvalid, hpos, hscale, hgt, Pure.pure, Except.pure]

/-- A refused request is an unreadable body exactly when it names a type other than the two
the engine knows, and a schema failure otherwise. -/
theorem check_eq_error_kind {m : Decimal} {r : TxnRequest} {f : Failure}
    (h : r.check m = .error f) :
    f.kind = if r.transactionType ≠ "" ∧ r.transactionType ≠ "DEPOSIT" ∧
        r.transactionType ≠ "WITHDRAWAL" then .malformedJson else .validation := by
  have hknown := ofText_isValid_iff r.transactionType
  by_cases hunknown : r.transactionType ≠ "" ∧ r.transactionType ≠ "DEPOSIT" ∧
      r.transactionType ≠ "WITHDRAWAL"
  · -- an unknown type is refused on its own, before the fields are looked at
    have hinvalid : (TxnType.ofText r.transactionType).isValid = false := by simp_all
    rw [if_pos hunknown]
    simp [check, hunknown.1, hinvalid] at h
    cases h
    rfl
  · -- otherwise the only refusal is the list of the fields' problems
    rw [if_neg hunknown]
    unfold check at h
    cases ha : r.amount <;> simp [ha] at h <;> split_ifs at h <;> cases h <;> simp_all

-- a blank number and an unknown type: the unknown type is refused on its own
example : (match ({ transactionType := "TRANSFER" } : TxnRequest).check ⟨10000, 0⟩ with
    | .error f => some f.kind
    | .ok _ => none) = some .malformedJson := by decide

/-- A request that passes the front's checks passes the engine's validation, as the front hands
it to the service. -/
theorem check_validate {rules : Rules} {r : TxnRequest} {t : TxnType}
    (h : r.check rules.maxAmount = .ok t) : validate rules (r.amount.getD .zero) t = .ok () := by
  obtain ⟨-, -, -, a, ha, hvalid⟩ := check_eq_ok_iff.mp h
  rw [ha]
  exact hvalid

end Ledger.Http.TxnRequest

namespace Ledger.Http

open Engine Service

/-- Every answer of the endpoint that makes transactions is the failure answer of a failure of
another kind than an invalid transaction, or the record the call made. -/
theorem createTransaction_answers {front : Front} (hmax : front.maxAmount = front.rules.maxAmount)
    (req : Request) (headers : Headers) (w : World) :
    (∃ f w', f.kind ≠ .invalidTransaction ∧
      (createTransaction front req headers).run w = (failureResponse headers [] f).run w') ∨
    ∃ t w', (createTransaction front req headers).run w =
      (Response.jsonOr 201 headers (recordJson t), w') := by
  unfold createTransaction
  dsimp only
  split
  · exact .inl ⟨_, w, by simp, rfl⟩
  · split
    · exact .inl ⟨_, w, by simp, rfl⟩
    · rename_i r hread
      split
      · -- the front's own refusals: an unreadable body or a schema failure
        rename_i f hcheck
        refine .inl ⟨f, w, ?_, rfl⟩
        rw [TxnRequest.check_eq_error_kind hcheck]
        split <;> simp
      · -- the service validates the request again, and passes it
        rename_i type hcheck
        rw [hmax] at hcheck
        have havoids : Avoids .invalidTransaction (Service.createTransaction front.rateLimit
            front.rules r.accountNumber (r.amount.getD .zero) type) :=
          createTransaction_avoids (TxnRequest.check_validate hcheck)
        rw [withService, Interleaving.engine_run_bind]
        rcases hrun : (Service.createTransaction front.rateLimit front.rules r.accountNumber
            (r.amount.getD .zero) type).run.run w with
          ⟨_ | ⟨t, account⟩, w'⟩
        · exact .inl ⟨_, w', (havoids w).2 _ (by rw [hrun]), rfl⟩
        · exact .inr ⟨t, w', rfl⟩

/-- With the engine's largest amount, the front passes exactly the requests the engine's
validation accepts, refuses the others as an unreadable body or a schema failure, and never
answers with an invalid transaction. -/
theorem front_checks_agree_with_engine_validation (front : Front)
    (hmax : front.maxAmount = front.rules.maxAmount) :
    (∀ (r : TxnRequest) t, r.check front.maxAmount = .ok t ↔
      t = TxnType.ofText r.transactionType ∧ (Bytes.trimBlank r.accountNumber).isEmpty = false ∧
        r.transactionType ≠ "" ∧ ∃ a, r.amount = some a ∧ validate front.rules a t = .ok ()) ∧
    (∀ (r : TxnRequest) t, r.check front.maxAmount = .ok t →
      validate front.rules (r.amount.getD .zero) t = .ok ()) ∧
    (∀ (r : TxnRequest) f, r.check front.maxAmount = .error f →
      f.kind = if r.transactionType ≠ "" ∧ r.transactionType ≠ "DEPOSIT" ∧
        r.transactionType ≠ "WITHDRAWAL" then .malformedJson else .validation) ∧
    (∀ req headers w,
      (∃ f w', f.kind ≠ .invalidTransaction ∧
        (createTransaction front req headers).run w = (failureResponse headers [] f).run w') ∨
      ∃ t w', (createTransaction front req headers).run w =
        (Response.jsonOr 201 headers (recordJson t), w')) := by
  rw [hmax]
  exact ⟨fun _ _ => TxnRequest.check_eq_ok_iff, fun _ _ => TxnRequest.check_validate,
    fun _ _ => TxnRequest.check_eq_error_kind, createTransaction_answers hmax⟩

/-- A front with no client whose largest amount is the rules' default, 10000. -/
theorem front_checks_agree_with_engine_validation_of_default_rules :
    let front : Front := ⟨⟨[]⟩, 0, ⟨10000, 0⟩, {}, {}⟩
    front.maxAmount = front.rules.maxAmount ∧
    (∀ (r : TxnRequest) t, r.check front.maxAmount = .ok t ↔
      t = TxnType.ofText r.transactionType ∧ (Bytes.trimBlank r.accountNumber).isEmpty = false ∧
        r.transactionType ≠ "" ∧ ∃ a, r.amount = some a ∧ validate front.rules a t = .ok ()) ∧
    (∀ (r : TxnRequest) t, r.check front.maxAmount = .ok t →
      validate front.rules (r.amount.getD .zero) t = .ok ()) ∧
    (∀ (r : TxnRequest) f, r.check front.maxAmount = .error f →
      f.kind = if r.transactionType ≠ "" ∧ r.transactionType ≠ "DEPOSIT" ∧
        r.transactionType ≠ "WITHDRAWAL" then .malformedJson else .validation) ∧
    (∀ req headers w,
      (∃ f w', f.kind ≠ .invalidTransaction ∧
        (createTransaction front req headers).run w = (failureResponse headers [] f).run w') ∨
      ∃ t w', (createTransaction front req headers).run w =
        (Response.jsonOr 201 headers (recordJson t), w')) :=
  ⟨rfl, front_checks_agree_with_engine_validation _ rfl⟩

end Ledger.Http
