import Ledger.Proofs.CallEffect
/-!
# The rule a call decides by

With no store fault, a call of `Service.createTransaction` ends with the first refusal that
applies, in the order of its checks, or gives the new balance (`referenceVerdict`). Only the
account's age is not exact: it saturates past about 292 years.
-/

namespace Ledger

/-! ## Two decimal places -/

/-- Dividing by a divisor gives the truncated quotient exactly when the division is exact. -/
theorem div_eq_tdiv_iff {c p : ℤ} (hp : p ≠ 0) : (c : ℚ) / p = (c.tdiv p : ℚ) ↔ p ∣ c := by
  constructor
  · intro h
    have hp' : (p : ℚ) ≠ 0 := by exact_mod_cast hp
    have hc : (c : ℚ) = p * (c.tdiv p : ℚ) := by
      rw [← h]
      field_simp
    exact ⟨c.tdiv p, by exact_mod_cast hc⟩
  · intro hdvd
    rw [Int.tdiv_eq_ediv_of_dvd hdvd, Int.cast_div hdvd (by exact_mod_cast hp)]

/-- A decimal passes the scale check exactly when its value is a whole number of hundredths:
truncating to two places keeps the value only when the digits it drops are zeros. -/
theorem validScale_eq_true_iff (d : Decimal) : validScale d = true ↔ (d.toRat * 100).den = 1 := by
  have hvalue : validScale d = true ↔ d.toRat = (d.truncate 2).toRat := by
    simp [validScale, Decimal.hasScale, amountScale, Decimal.equals, Decimal.cmp_eq_compare]
  rw [hvalue]
  by_cases hexp : d.exp < -2
  · -- `k` digits past the second place are dropped
    obtain ⟨k, hk⟩ : ∃ k : ℕ, -2 - d.exp = k := ⟨(-2 - d.exp).toNat, by omega⟩
    have hp : ((10 : ℤ) ^ k) ≠ 0 := pow_ne_zero k (by norm_num)
    have hten : (10 : ℚ) ^ d.exp = (10 : ℚ) ^ (-2 : ℤ) / (10 : ℚ) ^ k := by
      rw [← zpow_natCast, ← hk, ← zpow_sub₀ (by norm_num)]
      ring_nf
    have htrunc : d.truncate 2 = ⟨d.coef.tdiv ((10 : ℤ) ^ k), -2⟩ := by
      have hk' : (-2 - d.exp).toNat = k := by omega
      simp [Decimal.truncate, Decimal.rescale, Decimal.coefAt, hexp, hk']
    have hvalues : d.toRat = (d.coef : ℚ) / ((10 : ℤ) ^ k : ℤ) * (10 : ℚ) ^ (-2 : ℤ) := by
      rw [Decimal.toRat, hten]
      push_cast
      ring
    have hscaled : d.toRat * 100 = (d.coef : ℚ) / ((10 : ℤ) ^ k : ℤ) := by
      rw [hvalues, zpow_neg, zpow_two]
      ring
    rw [htrunc, hscaled, Rat.den_div_intCast_eq_one_iff _ _ hp, ← div_eq_tdiv_iff hp, hvalues,
      Decimal.toRat, mul_left_inj' (zpow_ne_zero _ (by norm_num))]
  · -- at most two places: truncating keeps the decimal
    have htrunc : d.truncate 2 = d := by
      simp [Decimal.truncate]
      omega
    obtain ⟨k, hk⟩ : ∃ k : ℕ, d.exp + 2 = k := ⟨(d.exp + 2).toNat, by omega⟩
    have hwhole : d.toRat * 100 = ((d.coef * 10 ^ k : ℤ) : ℚ) := by
      rw [Decimal.toRat, Int.cast_mul, Int.cast_pow, ← zpow_natCast, ← hk, zpow_add₀ (by norm_num)]
      norm_num
      ring
    simp only [htrunc, hwhole, Rat.den_intCast]

namespace Service

open Engine Store Interleaving

/-! ## The reference rule -/

/-- What a call decides: a refusal of some kind, or the account's new balance. -/
inductive Verdict where
  | refused (kind : ErrorKind)
  | accepted (balance : ℚ)
  deriving DecidableEq, Repr

/-- The verdict an answer of the engine carries: the kind of its failure, or the value of
the balance it gives. -/
def Verdict.read {α : Type} (balance : α → Decimal) : Except Failure α → Verdict
  | .error f => .refused f.kind
  | .ok x => .accepted (balance x).toRat

@[simp]
theorem Verdict.read_map {α β : Type} (balance : β → Decimal) (g : α → β) (x : Except Failure α) :
    Verdict.read balance (x.map g) = Verdict.read (balance ∘ g) x := by
  cases x <;> rfl

/-- The balance rules on values: a withdrawal is refused when the balance does not cover the
amount, or when the account is more than `graceDays` days old and the balance left would be
below the minimum. -/
def rulesVerdict (rules : Rules) (a : Account) (amount : Decimal) (type : TxnType) (days : ℤ) :
    Verdict :=
  if type = .withdrawal ∧ (a.balance.toRat < amount.toRat ∨
      (a.balance.toRat - amount.toRat < rules.minimumBalance.toRat ∧ rules.graceDays < days))
  then .refused .insufficientBalance
  else .accepted (if type = .deposit then a.balance.toRat + amount.toRat
    else a.balance.toRat - amount.toRat)

/-- The reference rule: the first refusal that applies, else the new balance. `days a` is the
age of account `a` in whole days at the instant `now`. -/
def referenceVerdict (set : Setting) (req : Request) (s : Store) (now : Instant)
    (days : Account → ℤ) : Verdict :=
  if ¬((req.type = .deposit ∨ req.type = .withdrawal) ∧ 0 < req.amount.toRat ∧
      (req.amount.toRat * 100).den = 1 ∧ req.amount.toRat ≤ set.rules.maxAmount.toRat) then
    .refused .invalidTransaction
  else
    match s.findByNumber req.number with
    | .error _ => .refused .accountNotFound
    | .ok a =>
      if set.limit.enabled = true ∧
          set.limit.maxPerMinute ≤ (s.countSince a.id (now.addNanos (-rateWindow)) : ℤ) then
        .refused .rateLimitExceeded
      else rulesVerdict set.rules a req.amount req.type (days a)

/-- Whole days from `c` to `now`, computed exactly: the floor of the quotient. -/
def exactDays (c now : Instant) : ℤ := ⌊((now.ns - c.ns : ℤ) : ℚ) / (nsPerDay : ℚ)⌋

/-! ## The checks on values -/

theorem validate_eq_ok_iff {rules : Rules} {amount : Decimal} {type : TxnType} :
    validate rules amount type = .ok () ↔
      (type = .deposit ∨ type = .withdrawal) ∧ 0 < amount.toRat ∧
        (amount.toRat * 100).den = 1 ∧ amount.toRat ≤ rules.maxAmount.toRat := by
  have htype : type.isValid = true ↔ type = .deposit ∨ type = .withdrawal := by
    cases type <;> simp [TxnType.isValid]
  simp only [validate, ← htype, ← Decimal.isPositive_eq_true_iff, ← validScale_eq_true_iff,
    ← not_lt, ← Decimal.gt_eq_true_iff]
  split_ifs <;> simp_all

theorem applyRules_verdict {rules : Rules} {now : Instant} {a : Account} {amount : Decimal}
    {type : TxnType} (htype : type = .deposit ∨ type = .withdrawal) :
    Verdict.read id (applyRules rules now a amount type) =
      rulesVerdict rules a amount type (a.ageInDays now) := by
  rcases htype with rfl | rfl
  · simp [applyRules, rulesVerdict, Verdict.read]
  · -- a withdrawal: the balance must cover the amount, then keep the floor past the grace period
    have hkind (m : String) :
        (Failure.make .insufficientBalance m).kind = .insufficientBalance := rfl
    by_cases hcover : a.balance.toRat < amount.toRat
    · simp [applyRules, rulesVerdict, hcover, Verdict.read, hkind]
    · by_cases hfloor : rules.graceDays < a.ageInDays now ∧
          a.balance.toRat - amount.toRat < rules.minimumBalance.toRat
      · simp [applyRules, rulesVerdict, hcover, hfloor, Verdict.read, hkind]
      · have hfloor' : ¬(a.balance.toRat - amount.toRat < rules.minimumBalance.toRat ∧
            rules.graceDays < a.ageInDays now) := fun h => hfloor ⟨h.2, h.1⟩
        simp [applyRules, rulesVerdict, hcover, hfloor, hfloor', Verdict.read]

/-! ## A call with no fault -/

/-- A world where no store call fails by accident: no fault is planned, the accounts have
distinct ids, and no record has the next identifier. -/
structure Quiet (w : World) : Prop where
  faults : w.faults = []
  ids : (w.store.accounts.map (·.id)).Nodup
  fresh : ∀ q ∈ w.store.records, q.id ≠ Uuid.ofSequence (w.issued + 1)

/-- In a quiet world every store call gets through the fault plan, and the plan stays empty. -/
theorem Quiet.plan {w : World} (hq : Quiet w) (op : StoreOp) :
    Ledger.checkFaults op w.faults = ([], none) := by
  rw [hq.faults]
  rfl

/-- Under the next identifier, the call's record is stored as drafted. -/
theorem createRecord_callRecord_ok {req : Request} {w : World} {a : Account}
    (hfresh : ∀ q ∈ w.store.records, q.id ≠ Uuid.ofSequence (w.issued + 1)) :
    w.store.createRecord (callRecord req w a) w.clock =
      .ok ({ w.store with records := w.store.records ++ [callRecord req w a] },
        callRecord req w a) := by
  cases hz : w.clock.isZero <;> simp [Store.createRecord, callRecord, draftRecord, hz] <;>
    exact hfresh

theorem storeBalance_quiet {w : World} {a : Account} {amount b : Decimal} {type : TxnType}
    {t : Transaction} (hfaults : w.faults = []) (ha : a ∈ w.store.accounts)
    (hids : (w.store.accounts.map (·.id)).Nodup) :
    ((storeBalance a amount type b t).run.run w).1 = .ok (t, balanceUpdated a b w.clock) := by
  have hplan : Ledger.checkFaults .updateBalance w.faults = ([], none) := by rw [hfaults]; rfl
  simp only [storeBalance, run_lift_bind, run_attempt_bind, now_run, storeCall_run_through w hplan,
    updateBalance_of_mem ha hids, emit_run, run_pure]
  rfl

theorem checkRulesAndStore_quiet {set : Setting} {req : Request} {w : World} {a : Account}
    (hq : Quiet w) (ha : a ∈ w.store.accounts) :
    ((checkRulesAndStore set.rules req.number a req.amount req.type).run.run w).1 =
      (applyRules set.rules w.clock a req.amount req.type).map
        fun b => (callRecord req w a, balanceUpdated a b w.clock) := by
  cases hrules : applyRules set.rules w.clock a req.amount req.type with
  | error f =>
    simp only [checkRulesAndStore, run_lift_bind, now_run, hrules, run_fail_bind]
    rfl
  | ok b =>
    have hdraft : draftRecord (Uuid.ofSequence (w.issued + 1)) a req.amount req.type w.clock =
        callRecord req w a := rfl
    simp only [checkRulesAndStore, storeRecord, run_lift_bind, now_run, hrules, pure_bind,
      bind_assoc, freshId_run, run_attempt_bind, hdraft,
      storeCall_run_through { w with issued := w.issued + 1 } (hq.plan _),
      createRecord_callRecord_ok hq.fresh, emit_run]
    rw [storeBalance_quiet ?_ ?_ ?_]
    · rfl
    · rfl
    · exact ha
    · exact hq.ids

theorem checkRateAndStore_quiet {set : Setting} {req : Request} {w : World} {a : Account}
    (hq : Quiet w) (ha : a ∈ w.store.accounts) :
    ((checkRateAndStore set.limit set.rules req.number a req.amount req.type).run.run w).1 =
      if set.limit.enabled = true ∧ set.limit.maxPerMinute ≤
          (w.store.countSince a.id (w.clock.addNanos (-rateWindow)) : ℤ) then
        .error (rateFailure set.limit)
      else (applyRules set.rules w.clock a req.amount req.type).map
        fun b => (callRecord req w a, balanceUpdated a b w.clock) := by
  by_cases hon : set.limit.enabled = true
  · have hq' : Quiet { w with faults := [] } := ⟨rfl, hq.ids, hq.fresh⟩
    simp only [checkRateAndStore, allow, hon, Bool.not_true, Bool.false_eq_true, ↓reduceIte,
      bind_assoc, run_lift_bind, now_run, run_attempt_bind, storeRead_run w (hq.plan _),
      Shared.read, Shared.ofWorld, pure_bind, true_and]
    by_cases hlt : (w.store.countSince a.id (w.clock.addNanos (-rateWindow)) : ℤ) <
        set.limit.maxPerMinute
    · simp only [hlt, decide_true, ↓reduceIte, if_neg (not_le.mpr hlt)]
      exact checkRulesAndStore_quiet hq' ha
    · simp only [hlt, decide_false, Bool.false_eq_true, ↓reduceIte, run_lift_bind, emit_run,
        run_fail_bind, if_pos (not_lt.mp hlt)]
  · simp only [checkRateAndStore, allow, hon, Bool.not_false, ↓reduceIte, pure_bind]
    exact checkRulesAndStore_quiet hq ha

/-- Once the account is found, a call decides by the rate limit, then by the balance rules. -/
theorem checkRateAndStore_verdict {set : Setting} {req : Request} {w : World} {a : Account}
    (hq : Quiet w) (ha : a ∈ w.store.accounts)
    (htype : req.type = .deposit ∨ req.type = .withdrawal) :
    Verdict.read (·.2.balance)
        ((checkRateAndStore set.limit set.rules req.number a req.amount req.type).run.run w).1 =
      if set.limit.enabled = true ∧ set.limit.maxPerMinute ≤
          (w.store.countSince a.id (w.clock.addNanos (-rateWindow)) : ℤ) then
        .refused .rateLimitExceeded
      else rulesVerdict set.rules a req.amount req.type (a.ageInDays w.clock) := by
  rw [checkRateAndStore_quiet hq ha]
  split_ifs
  · rfl
  · rw [Verdict.read_map]
    exact applyRules_verdict htype

/-- The store refuses a lookup by number only when no account has the number. -/
theorem findByNumber_eq_error {s : Store} {number : Bytes} {e : Failure}
    (h : s.findByNumber number = .error e) : e = .refused .notFound := by
  unfold Store.findByNumber at h
  split at h
  · cases h
  · cases h
    rfl

/-- With no fault, a call decides by the reference rule, with the engine's count of days. -/
theorem createTransaction_verdict (set : Setting) (req : Request) {w : World} (hq : Quiet w) :
    Verdict.read (·.2.balance)
        ((createTransaction set.limit set.rules req.number req.amount req.type).run.run w).1 =
      referenceVerdict set req w.store w.clock (·.ageInDays w.clock) := by
  cases hvalid : validate set.rules req.amount req.type with
  | error f =>
    have hinvalid := validate_eq_ok_iff.not.mp (by rw [hvalid]; exact nofun)
    obtain ⟨m, rfl⟩ := validate_eq_error hvalid
    simp only [createTransaction, hvalid, run_fail_bind, referenceVerdict, if_pos hinvalid]
    rfl
  | ok u =>
    have hvalid' := validate_eq_ok_iff.mp hvalid
    simp only [createTransaction, hvalid, pure_bind, run_bind, findAccount_run (hq.plan _),
      Shared.read, Shared.ofWorld, referenceVerdict, if_neg (not_not.mpr hvalid')]
    cases hfind : w.store.findByNumber req.number with
    | error e =>
      obtain rfl := findByNumber_eq_error hfind
      rfl
    | ok a =>
      have ha := (findByNumber_eq_ok hfind).1
      have hq' : Quiet { w with faults := [] } := ⟨rfl, hq.ids, hq.fresh⟩
      by_cases hstrict : (set.limit.enabled && set.limit.strict) = true
      · -- under strict limiting the account is read again, and found again
        simp only [hstrict, ↓reduceIte, run_bind, findAccount_run (hq'.plan _), Shared.read,
          Shared.ofWorld, hfind]
        exact checkRateAndStore_verdict hq' ha hvalid'.1
      · simp only [hstrict, Bool.false_eq_true, ↓reduceIte]
        exact checkRateAndStore_verdict hq' ha hvalid'.1

/-! ## The count of days -/

/-- The exact count of days is the quotient rounded down. -/
theorem exactDays_eq (c now : Instant) : exactDays c now = (now.ns - c.ns) / nsPerDay := by
  have hday : (nsPerDay : ℚ) = ((86400000000000 : ℕ) : ℚ) := by norm_num [nsPerDay]
  rw [exactDays, hday, Rat.floor_intCast_div_natCast]
  rfl

/-- The longest duration holds 106751 whole days. -/
theorem maxDuration_tdiv : Instant.maxDuration.tdiv nsPerDay = 106751 := by decide

/-- The engine's count of days and the exact one agree on whether an account is past a grace
period of `g ≥ 0` days, unless the account is older than a duration can hold and the grace
period is at least 106751 days. -/
theorem ageInDays_gt_iff {a : Account} {now : Instant} {g : ℤ} (hg : 0 ≤ g)
    (hspan : now.ns - a.createdAt.ns ≤ Instant.maxDuration ∨ g < 106751) :
    g < a.ageInDays now ↔ g < exactDays a.createdAt now := by
  have hday : nsPerDay = 86400000000000 := rfl
  have hmax : Instant.maxDuration = 9223372036854775807 := rfl
  have hmin : Instant.minDuration = -9223372036854775808 := rfl
  rw [exactDays_eq, Account.ageInDays, Instant.since]
  rcases le_or_gt 0 (now.ns - a.createdAt.ns) with hpos | hneg
  · rcases le_or_gt (now.ns - a.createdAt.ns) Instant.maxDuration with hfits | hover
    · -- the difference fits in a duration: both count whole days, rounding down
      rw [min_eq_right hfits, max_eq_right (by omega), Int.tdiv_eq_ediv_of_nonneg hpos]
    · -- the difference saturates: the engine counts 106751 days, fewer than the exact count
      have hg' : g < 106751 := hspan.resolve_left (by omega)
      rw [min_eq_left hover.le, max_eq_right (by omega), maxDuration_tdiv, hday]
      omega
  · -- an account opened after `now`: neither count is positive
    have hsince :
        max Instant.minDuration (min Instant.maxDuration (now.ns - a.createdAt.ns)) ≤ 0 := by
      omega
    have hnonpos :
        (max Instant.minDuration (min Instant.maxDuration (now.ns - a.createdAt.ns))).tdiv
          nsPerDay ≤ 0 := by
      rw [← neg_neg (max _ _), Int.neg_tdiv, Int.tdiv_eq_ediv_of_nonneg (by omega), hday]
      omega
    rw [hday] at hnonpos ⊢
    omega

/-- The reference rule reads the count of days only through whether the account found is past
the grace period. -/
theorem referenceVerdict_congr_days {set : Setting} {req : Request} {s : Store} {now : Instant}
    {d₁ d₂ : Account → ℤ} (h : ∀ a, s.findByNumber req.number = .ok a →
      (set.rules.graceDays < d₁ a ↔ set.rules.graceDays < d₂ a)) :
    referenceVerdict set req s now d₁ = referenceVerdict set req s now d₂ := by
  unfold referenceVerdict rulesVerdict
  cases hfind : s.findByNumber req.number with
  | error e => rfl
  | ok a => simp only [h a hfind]

/-! ## The rule with the exact count of days -/

/-- With no fault, a call decides by the reference rule with the days counted exactly, as long
as every account was opened at most the longest duration before the clock, or the grace period
is shorter than 106751 days. -/
theorem createTransaction_follows_reference_rule (set : Setting) (req : Request) {w : World}
    (hq : Quiet w) (hg : 0 ≤ set.rules.graceDays)
    (hspan : ∀ a ∈ w.store.accounts,
      w.clock.ns - a.createdAt.ns ≤ Instant.maxDuration ∨ set.rules.graceDays < 106751) :
    Verdict.read (·.2.balance)
        ((createTransaction set.limit set.rules req.number req.amount req.type).run.run w).1 =
      referenceVerdict set req w.store w.clock (fun a => exactDays a.createdAt w.clock) := by
  rw [createTransaction_verdict set req hq]
  apply referenceVerdict_congr_days
  intro a hfind
  exact ageInDays_gt_iff hg (hspan a (findByNumber_eq_ok hfind).1)

/-- A withdrawal of 100 from an account holding 150, opened on 2025-01-01, on 2025-02-20 at noon
under the default rules. -/
theorem createTransaction_follows_reference_rule_of_recent_account :
    let set : Setting := ⟨{}, {}⟩
    let req : Request := ⟨[7], ⟨100, 0⟩, .withdrawal⟩
    let w : World :=
      { clock := ⟨1740052800000000000, 0⟩,
        store := ⟨1, [⟨1, [7], ⟨150, 0⟩, ⟨1735689600000000000, 0⟩, ⟨1735689600000000000, 0⟩, 0⟩], []⟩ }
    Quiet w ∧ 0 ≤ set.rules.graceDays ∧
      (∀ a ∈ w.store.accounts,
        w.clock.ns - a.createdAt.ns ≤ Instant.maxDuration ∨ set.rules.graceDays < 106751) ∧
      Verdict.read (·.2.balance)
          ((createTransaction set.limit set.rules req.number req.amount req.type).run.run w).1 =
        referenceVerdict set req w.store w.clock (fun a => exactDays a.createdAt w.clock) :=
  have hq : Quiet _ := ⟨rfl, by decide, by simp⟩
  have hspan : ∀ a ∈ _, _ := by decide
  ⟨hq, by decide, hspan, createTransaction_follows_reference_rule _ _ hq (by decide) hspan⟩

/-- An account opened in 1700 with a grace period of 110000 days: counted exactly it is past
its grace period and the withdrawal is refused, but the engine's saturated count of 106751 days
accepts it. -/
theorem engine_accepts_what_exact_days_refuse :
    let set : Setting := ⟨{}, { graceDays := 110000 }⟩
    let req : Request := ⟨[7], ⟨100, 0⟩, .withdrawal⟩
    let w : World :=
      { clock := ⟨1740052800000000000, 0⟩,
        store := ⟨1, [⟨1, [7], ⟨150, 0⟩, ⟨-8520336000000000000, 0⟩, ⟨1740052800000000000, 0⟩, 0⟩], []⟩ }
    Quiet w ∧ 0 ≤ set.rules.graceDays ∧
      Verdict.read (·.2.balance)
          ((createTransaction set.limit set.rules req.number req.amount req.type).run.run w).1 =
        .accepted 50 ∧
      referenceVerdict set req w.store w.clock (fun a => exactDays a.createdAt w.clock) =
        .refused .insufficientBalance := by
  intro set req w
  have hq : Quiet w := ⟨rfl, by decide, by simp [w]⟩
  refine ⟨hq, by decide, ?_, by decide +kernel⟩
  rw [createTransaction_verdict set req hq]
  decide +kernel

end Service
end Ledger
