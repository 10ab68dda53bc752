import Ledger.Proofs.StepLaws
import Ledger.Proofs.CanonicalBinding
/-!
# What one call of the service does to the store

Whatever store calls fail, a call of `Service.createTransaction` is refused before it stores
anything, or commits its record and the account's new balance, or stores its record and
marks it failed when the fault plan lets the compensation through (`Settles`).
-/

namespace Ledger

/-! ## Fault rules of one operation -/

/-- What the rules answer an operation depends on that operation's rules alone. -/
theorem checkFaults_snd_filter (op : StoreOp) (rs : List FaultRule) :
    (checkFaults op rs).2 = (checkFaults op (rs.filter (·.op == some op))).2 := by
  induction rs with
  | nil => rfl
  | cons r rs ih =>
    by_cases hr : r.op = some op
    · simp only [List.filter_cons, hr, beq_self_eq_true, if_true]
      simp only [checkFaults, hr, bne_self_eq_false, Bool.false_eq_true, if_false]
      split
      · exact ih
      · split
        · exact ih
        · rfl
    · have hr' : (r.op != some op) = true := by simpa using hr
      simp [hr, checkFaults, hr', ih]

/-- Checking the rules of one operation keeps the rules of every other, in order. -/
theorem filter_checkFaults_of_ne {op op' : StoreOp} (h : op ≠ op') (rs : List FaultRule) :
    (checkFaults op' rs).1.filter (·.op == some op) = rs.filter (·.op == some op) := by
  induction rs with
  | nil => rfl
  | cons r rs ih =>
    by_cases hr : r.op = some op'
    · -- the rule checked is not one of `op`, whatever its counts become
      have hne : (r.op == some op) = false := by simp [hr, Ne.symm h]
      simp only [checkFaults, hr, bne_self_eq_false, Bool.false_eq_true, if_false]
      split
      · simp [hr, Ne.symm h, ih]
      · split
        · simp [hne, ih]
        · simp [hr, Ne.symm h]
    · have hr' : (r.op != some op') = true := by simpa using hr
      simp [checkFaults, hr', List.filter_cons, ih]

/-- Checking the rules of one operation leaves what the rules answer another operation. -/
theorem checkFaults_snd_of_ne {op op' : StoreOp} (h : op ≠ op') (rs : List FaultRule) :
    (checkFaults op (checkFaults op' rs).1).2 = (checkFaults op rs).2 := by
  rw [checkFaults_snd_filter, filter_checkFaults_of_ne h, ← checkFaults_snd_filter]

/-- Whether the two store calls of a compensation, reading the record back and marking it
failed, get through the fault plan. -/
def compensates (faults : List FaultRule) : Bool :=
  (checkFaults .findRecord faults).2.isNone && (checkFaults .updateStatus faults).2.isNone

/-- A store call of another operation leaves whether a compensation gets through. -/
theorem compensates_checkFaults {op : StoreOp} (h₁ : op ≠ .findRecord) (h₂ : op ≠ .updateStatus)
    (rs : List FaultRule) : compensates (checkFaults op rs).1 = compensates rs := by
  simp only [compensates, checkFaults_snd_of_ne (Ne.symm h₁), checkFaults_snd_of_ne (Ne.symm h₂)]

/-! ## The store calls of one call -/

namespace Store

/-- A record stored last, under an id no earlier record has, is found by its id. -/
theorem find?_last {rs : List Transaction} {t : Transaction} (hfresh : ∀ q ∈ rs, q.id ≠ t.id) :
    (rs ++ [t]).find? (·.id == t.id) = some t := by
  rw [List.find?_append, List.find?_eq_none.mpr (fun q hq => by simpa using hfresh q hq)]
  simp

/-- The record stored last can be read back, at its version. -/
theorem findRecord_last {s : Store} {rs : List Transaction} {t : Transaction}
    (hrecords : s.records = rs ++ [t]) (hfresh : ∀ q ∈ rs, q.id ≠ t.id) :
    s.findRecord t.id = .ok (s.withNumber t) := by
  simp [findRecord, hrecords, find?_last hfresh]

@[simp]
theorem withNumber_version (s : Store) (t : Transaction) :
    (s.withNumber t).version = t.version := by
  unfold withNumber
  split <;> rfl

/-- The completed record stored last is marked failed, and no other record changes. -/
theorem updateStatus_last {s : Store} {rs : List Transaction} {t : Transaction} {now : Instant}
    (hrecords : s.records = rs ++ [t]) (hfresh : ∀ q ∈ rs, q.id ≠ t.id)
    (hstatus : t.status = .completed) :
    s.updateStatus t.id .failed t.version now =
      .ok ({ s with records := rs ++ [statusUpdated t .failed now] }, t.version + 1, now) := by
  simp only [updateStatus, hrecords, find?_last hfresh, hstatus, TxnStatus.canBecome, Bool.not_true,
    Bool.false_eq_true, if_false, bne_self_eq_false]
  -- the earlier records keep their ids, so the rewrite passes them over
  have hkeep : rs.map (fun r => if r.id == t.id then statusUpdated t .failed now else r) = rs := by
    rw [List.map_congr_left (g := id) fun r hr => by simp [hfresh r hr], List.map_id]
  simp [List.map_append, statusUpdated] at hkeep ⊢
  exact hkeep

/-- With distinct account ids, a stored account is updated at its own version. -/
theorem updateBalance_of_mem {s : Store} {a : Account} (ha : a ∈ s.accounts)
    (hids : (s.accounts.map (·.id)).Nodup) (balance : Decimal) (now : Instant) :
    s.updateBalance a.id a.version balance now =
      .ok ({ s with accounts := s.accounts.map fun x =>
        if x.id == a.id then balanceUpdated a balance now else x }, a.version + 1, now) := by
  have hfind : s.accounts.find? (·.id == a.id) = some a := find?_key_of_mem hids ha
  simp [updateBalance, hfind, balanceUpdated]

end Store

namespace Service

open Engine Store Interleaving

/-- The record a call for request `req` stores for account `a`, started in world `w`: the
next identifier, the clock as its time, `COMPLETED` at version 0. -/
def callRecord (req : Request) (w : World) (a : Account) : Transaction :=
  draftRecord (Uuid.ofSequence (w.issued + 1)) a req.amount req.type w.clock

/-- The failures a call can end with before it stores anything, one for each check that can
refuse it. -/
inductive EarlyFailure (set : Setting) (req : Request) : Failure → Prop
  /-- The request is not a valid transaction. -/
  | invalid {f : Failure} (h : validate set.rules req.amount req.type = .error f) :
      EarlyFailure set req f
  /-- The account is not found, or the store fails to look it up. -/
  | lookup (e : Failure) : EarlyFailure set req (lookupFailure req.number e)
  /-- The store fails to count the account's recent records. -/
  | count (e : Failure) : EarlyFailure set req (countFailure e)
  /-- The account has reached its rate limit. -/
  | rate : EarlyFailure set req (rateFailure set.limit)
  /-- The balance rules refuse the transaction. -/
  | rules {now : Instant} {a : Account} {f : Failure}
      (h : applyRules set.rules now a req.amount req.type = .error f) : EarlyFailure set req f
  /-- The store fails to keep the record. -/
  | insert (e : Failure) : EarlyFailure set req (recordFailure e)

/-- How a call for request `req`, started in world `w`, can end, with the store it leaves. -/
inductive Settles (set : Setting) (req : Request) (w : World) : Outcome → Store → Prop
  /-- Refused before anything is stored: the store is as it was. -/
  | refused {f : Failure} (hf : EarlyFailure set req f) : Settles set req w (.error f) w.store
  /-- Committed: the record is stored, and the account found gets the new balance. -/
  | committed {a : Account} {b : Decimal} (hfind : w.store.findByNumber req.number = .ok a)
      (hrules : applyRules set.rules w.clock a req.amount req.type = .ok b) :
      Settles set req w (.ok (callRecord req w a, balanceUpdated a b w.clock))
        { w.store with
          accounts := w.store.accounts.map fun x =>
            if x.id == a.id then balanceUpdated a b w.clock else x
          records := w.store.records ++ [callRecord req w a] }
  /-- Storing the balance failed: the record stays, marked failed if the compensation got
  through the fault plan. -/
  | unsettled {a : Account} {b : Decimal} {e : Failure}
      (hfind : w.store.findByNumber req.number = .ok a)
      (hrules : applyRules set.rules w.clock a req.amount req.type = .ok b) :
      Settles set req w (.error (updateFailure e))
        { w.store with
          records := w.store.records ++
            [if compensates w.faults then statusUpdated (callRecord req w a) .failed w.clock
              else callRecord req w a] }

/-! ## Running store calls through the fault plan -/

section Primitives

variable {α : Type} (w : World) {op : StoreOp} {rules : List FaultRule}

/-- A store call the fault plan lets through runs on the store. -/
theorem storeCall_run_through {act : Store → Except Failure (Store × α)}
    (hplan : checkFaults op w.faults = (rules, none)) :
    (storeCall op act).run w =
      match act w.store with
      | .ok (s, a) => (.ok a, { w with faults := rules, store := s })
      | .error f => (.error f, { w with faults := rules }) := by
  rw [storeCall_run w hplan]
  cases h : act w.store <;> simp [Shared.write, h, Except.map, Shared.ofWorld]

/-- A store call the fault plan fails never reaches the store. -/
theorem storeCall_run_fault {act : Store → Except Failure (Store × α)} {f : Failure}
    (hplan : checkFaults op w.faults = (rules, some f)) :
    (storeCall op act).run w = (.error f, { w with faults := rules }) := by
  rw [storeCall_run w hplan]
  rfl

end Primitives

/-- The record stored by a call, drafted with the clock as its time, is kept as drafted. -/
theorem createRecord_callRecord {req : Request} {w : World} {a : Account} {s' : Store}
    {t : Transaction} (h : w.store.createRecord (callRecord req w a) w.clock = .ok (s', t)) :
    t = callRecord req w a ∧ s' = { w.store with records := w.store.records ++ [t] } ∧
      ∀ q ∈ w.store.records, q.id ≠ (callRecord req w a).id := by
  obtain ⟨hfresh, rfl, rfl⟩ := createRecord_eq_ok h
  have hkept : { callRecord req w a with
      timestamp := if (callRecord req w a).timestamp.isZero then w.clock
        else (callRecord req w a).timestamp
      lastModifiedAt := if (callRecord req w a).timestamp.isZero then w.clock
        else (callRecord req w a).timestamp
      version := 0 } = callRecord req w a := by
    cases hz : w.clock.isZero <;> simp [callRecord, draftRecord, hz]
  exact ⟨hkept, rfl, hfresh⟩

/-! ## The stages of a call, from the last to the first -/

/-- Marking the record stored last failed: when the fault plan lets both calls through the
record is marked, and otherwise the store is untouched. -/
theorem markFailed_store {w : World} {rs : List Transaction} {t : Transaction}
    (hrecords : w.store.records = rs ++ [t]) (hfresh : ∀ q ∈ rs, q.id ≠ t.id)
    (hstatus : t.status = .completed) :
    ((markFailed t.id).run w).2.store =
      { w.store with
        records := rs ++ [if compensates w.faults then statusUpdated t .failed w.clock else t] } := by
  have hkept : { w.store with records := rs ++ [t] } = w.store := by
    rw [← hrecords]
  rcases hplan : checkFaults .findRecord w.faults with ⟨rules, _ | f⟩
  · rcases hplan₂ : checkFaults .updateStatus rules with ⟨rules₂, _ | f₂⟩
    · -- both calls get through: the record is read back and marked
      have hcomp : compensates w.faults = true := by
        have h₂ := checkFaults_snd_of_ne (by decide : StoreOp.updateStatus ≠ .findRecord) w.faults
        rw [hplan, hplan₂] at h₂
        simp [compensates, hplan, ← h₂]
      simp only [markFailed, engine_run_bind, storeRead_run w hplan, Shared.read, Shared.ofWorld,
        findRecord_last hrecords hfresh, now_run, withNumber_version,
        storeCall_run_through { w with faults := rules } hplan₂,
        updateStatus_last hrecords hfresh hstatus, emit_run, hcomp, if_true]
    · -- the mark is refused by the plan
      have hcomp : compensates w.faults = false := by
        have h₂ := checkFaults_snd_of_ne (by decide : StoreOp.updateStatus ≠ .findRecord) w.faults
        rw [hplan, hplan₂] at h₂
        simp [compensates, ← h₂]
      simp only [markFailed, engine_run_bind, storeRead_run w hplan, Shared.read, Shared.ofWorld,
        findRecord_last hrecords hfresh, now_run, withNumber_version,
        storeCall_run_fault { w with faults := rules } hplan₂, emit_run, hcomp]
      simpa using hkept.symm
  · -- the read is refused by the plan
    have hcomp : compensates w.faults = false := by simp [compensates, hplan]
    simp only [markFailed, engine_run_bind, storeRead_run w hplan, Shared.read, emit_run, hcomp]
    simpa using hkept.symm

/-- Storing the balance once the record is stored: the call commits when the fault plan lets
the update through, and otherwise compensates. -/
theorem storeBalance_settles {set : Setting} {req : Request} {w₀ w : World} {a : Account}
    {b : Decimal} (hfind : w₀.store.findByNumber req.number = .ok a)
    (hrules : applyRules set.rules w₀.clock a req.amount req.type = .ok b)
    (hids : (w₀.store.accounts.map (·.id)).Nodup)
    (hfresh : ∀ q ∈ w₀.store.records, q.id ≠ (callRecord req w₀ a).id)
    (hstore : w.store = { w₀.store with records := w₀.store.records ++ [callRecord req w₀ a] })
    (hclock : w.clock = w₀.clock) (hcomp : compensates w.faults = compensates w₀.faults) :
    Settles set req w₀
      ((storeBalance a req.amount req.type b (callRecord req w₀ a)).run.run w).1
      ((storeBalance a req.amount req.type b (callRecord req w₀ a)).run.run w).2.store := by
  have ha : a ∈ w.store.accounts := by
    rw [hstore]
    exact (findByNumber_eq_ok hfind).1
  have hids' : (w.store.accounts.map (·.id)).Nodup := by
    rw [hstore]
    exact hids
  rcases hplan : checkFaults .updateBalance w.faults with ⟨rules, _ | f⟩
  · -- the update gets through: the call commits
    simp only [storeBalance, run_lift_bind, run_attempt_bind, now_run,
      storeCall_run_through w hplan, updateBalance_of_mem ha hids', emit_run, run_pure]
    have hcommit : Settles set req w₀ _ _ := .committed hfind hrules
    rw [hstore, hclock]
    exact hcommit
  · -- the update is refused: the record is marked failed when the compensation gets through
    have hrecords : w.store.records = w₀.store.records ++ [callRecord req w₀ a] := by rw [hstore]
    have hcomp' : compensates rules = compensates w₀.faults := by
      have hkeep := compensates_checkFaults (by decide : StoreOp.updateBalance ≠ .findRecord)
        (by decide) w.faults
      rw [hplan] at hkeep
      exact hkeep.trans hcomp
    simp only [storeBalance, run_lift_bind, run_attempt_bind, now_run,
      storeCall_run_fault w hplan, emit_run, run_fail]
    rw [markFailed_store (w := { w with faults := rules, journal := _ }) hrecords hfresh rfl]
    have hunsettled : Settles set req w₀ _ _ := .unsettled (e := f) hfind hrules
    simp only [hcomp', hclock]
    rw [hstore]
    exact hunsettled

/-- A world a call started in `w₀` is in before it stores anything: the store, the clock and
the count of identifiers are `w₀`'s, and the fault plan lets a compensation through exactly
when `w₀`'s does. -/
structure Unwritten (w₀ w : World) : Prop where
  store : w.store = w₀.store
  clock : w.clock = w₀.clock
  issued : w.issued = w₀.issued
  compensates : compensates w.faults = compensates w₀.faults

theorem Unwritten.refl (w : World) : Unwritten w w := ⟨rfl, rfl, rfl, rfl⟩

/-- A store call of another operation than the compensation's keeps a world unwritten. -/
theorem Unwritten.checkFaults {w₀ w : World} (h : Unwritten w₀ w) {op : StoreOp}
    (h₁ : op ≠ .findRecord) (h₂ : op ≠ .updateStatus) {rules : List FaultRule}
    {fault : Option Failure} (hplan : Ledger.checkFaults op w.faults = (rules, fault)) :
    Unwritten w₀ { w with faults := rules } := by
  have hkeep := compensates_checkFaults h₁ h₂ w.faults
  rw [hplan] at hkeep
  exact ⟨h.store, h.clock, h.issued, hkeep.trans h.compensates⟩

theorem Unwritten.emit {w₀ w : World} (h : Unwritten w₀ w) (j : List Log.Entry) :
    Unwritten w₀ { w with journal := j } :=
  ⟨h.store, h.clock, h.issued, h.compensates⟩

/-- A refusal in an unwritten world is a refusal of the call. -/
theorem Unwritten.refused {set : Setting} {req : Request} {w₀ w : World} (h : Unwritten w₀ w)
    {f : Failure} (hf : EarlyFailure set req f) : Settles set req w₀ (.error f) w.store := by
  rw [h.store]
  exact .refused hf

/-- Applying the balance rules, then storing the record and the balance. -/
theorem checkRulesAndStore_settles {set : Setting} {req : Request} {w₀ w : World} {a : Account}
    (hfind : w₀.store.findByNumber req.number = .ok a)
    (hids : (w₀.store.accounts.map (·.id)).Nodup) (hw : Unwritten w₀ w) :
    Settles set req w₀
      ((checkRulesAndStore set.rules req.number a req.amount req.type).run.run w).1
      ((checkRulesAndStore set.rules req.number a req.amount req.type).run.run w).2.store := by
  cases hrules : applyRules set.rules w.clock a req.amount req.type with
  | error f =>
    simp only [checkRulesAndStore, run_lift_bind, now_run, hrules, run_fail_bind]
    exact hw.refused (.rules hrules)
  | ok b =>
    have hrules₀ : applyRules set.rules w₀.clock a req.amount req.type = .ok b := by
      rw [← hw.clock]
      exact hrules
    -- the record is drafted as the call's record, under the next identifier
    have hdraft : draftRecord (Uuid.ofSequence (w.issued + 1)) a req.amount req.type w.clock =
        callRecord req w₀ a := by
      rw [hw.issued, hw.clock]
      rfl
    rcases hplan : Ledger.checkFaults .createRecord w.faults with ⟨rules, _ | f⟩
    · have hw' := hw.checkFaults (by decide) (by decide) hplan
      cases hcreate : w.store.createRecord (callRecord req w₀ a) w.clock with
      | error e =>
        simp only [checkRulesAndStore, storeRecord, run_lift_bind, now_run, hrules, pure_bind,
          bind_assoc, freshId_run, run_attempt_bind, hdraft,
          storeCall_run_through { w with issued := w.issued + 1 } hplan, hcreate, emit_run,
          run_fail_bind]
        exact hw.refused (.insert e)
      | ok r =>
        obtain ⟨s', t⟩ := r
        simp only [checkRulesAndStore, storeRecord, run_lift_bind, now_run, hrules, pure_bind,
          bind_assoc, freshId_run, run_attempt_bind, hdraft,
          storeCall_run_through { w with issued := w.issued + 1 } hplan, hcreate, emit_run]
        rw [hw.store, hw.clock] at hcreate
        obtain ⟨rfl, rfl, hfresh⟩ := createRecord_callRecord hcreate
        exact storeBalance_settles hfind hrules₀ hids hfresh rfl hw.clock hw'.compensates
    · simp only [checkRulesAndStore, storeRecord, run_lift_bind, now_run, hrules, pure_bind,
        bind_assoc, freshId_run, run_attempt_bind, hdraft,
        storeCall_run_fault { w with issued := w.issued + 1 } hplan, emit_run, run_fail_bind]
      exact hw.refused (.insert f)

/-- Checking the rate limit, then going on with the balance rules. -/
theorem checkRateAndStore_settles {set : Setting} {req : Request} {w₀ w : World} {a : Account}
    (hfind : w₀.store.findByNumber req.number = .ok a)
    (hids : (w₀.store.accounts.map (·.id)).Nodup) (hw : Unwritten w₀ w) :
    Settles set req w₀
      ((checkRateAndStore set.limit set.rules req.number a req.amount req.type).run.run w).1
      ((checkRateAndStore set.limit set.rules req.number a req.amount
        req.type).run.run w).2.store := by
  by_cases hon : set.limit.enabled
  · rcases hplan : Ledger.checkFaults .countSince w.faults with ⟨rules, fault⟩
    have hw' := hw.checkFaults (by decide) (by decide) hplan
    simp only [checkRateAndStore, allow, hon, Bool.not_true, Bool.false_eq_true, ↓reduceIte,
      bind_assoc, run_lift_bind, now_run, run_attempt_bind, storeRead_run w hplan]
    cases hcount : (Shared.ofWorld w).read fault
        (fun s => .ok (s.countSince a.id (w.clock.addNanos (-rateWindow)))) with
    | ok n =>
      simp only [pure_bind]
      by_cases hlt : (n : Int) < set.limit.maxPerMinute
      · simp only [hlt, decide_true, ↓reduceIte]
        exact checkRulesAndStore_settles hfind hids hw'
      · simp only [hlt, decide_false, Bool.false_eq_true, ↓reduceIte, run_lift_bind, emit_run,
          run_fail_bind]
        exact hw.refused .rate
    | error e =>
      simp only [run_fail_bind]
      exact hw.refused (.count e)
  · simp only [checkRateAndStore, allow, hon, Bool.not_false, ↓reduceIte, pure_bind]
    exact checkRulesAndStore_settles hfind hids hw

/-- Every call of the service settles in one of the three ways, from any world whose accounts
have distinct ids. -/
theorem createTransaction_settles (set : Setting) (req : Request) {w : World}
    (hids : (w.store.accounts.map (·.id)).Nodup) :
    Settles set req w
      ((createTransaction set.limit set.rules req.number req.amount req.type).run.run w).1
      ((createTransaction set.limit set.rules req.number req.amount
        req.type).run.run w).2.store := by
  cases hvalid : validate set.rules req.amount req.type with
  | error f =>
    simp only [createTransaction, hvalid, run_fail_bind]
    exact .refused (.invalid hvalid)
  | ok u =>
    rcases hplan : Ledger.checkFaults .findAccount w.faults with ⟨rules, fault⟩
    have hw := (Unwritten.refl w).checkFaults (by decide) (by decide) hplan
    simp only [createTransaction, hvalid, pure_bind, run_bind, findAccount_run hplan]
    cases hread : (Shared.ofWorld w).read fault (·.findByNumber req.number) with
    | error e => exact hw.refused (.lookup e)
    | ok a =>
      by_cases hstrict : (set.limit.enabled && set.limit.strict) = true
      · -- under strict limiting the account is read again, and the second read is the one used
        rcases hplan₂ : Ledger.checkFaults .findAccount rules with ⟨rules₂, fault₂⟩
        have hw₂ := hw.checkFaults (by decide) (by decide) hplan₂
        simp only [hstrict, ↓reduceIte, run_bind,
          findAccount_run (w := { w with faults := rules }) hplan₂, ofWorld_faults]
        cases hread₂ : (Shared.ofWorld w).read fault₂ (·.findByNumber req.number) with
        | error e => exact hw₂.refused (.lookup e)
        | ok a' =>
          exact checkRateAndStore_settles (Shared.read_eq_ok _ _ hread₂).2 hids hw₂
      · simp only [hstrict, Bool.false_eq_true, ↓reduceIte]
        exact checkRateAndStore_settles (Shared.read_eq_ok _ _ hread).2 hids hw

/-! ## Failing to store the balance is not a refusal -/

theorem validate_eq_error {rules : Rules} {amount : Decimal} {type : TxnType} {f : Failure}
    (h : validate rules amount type = .error f) : ∃ m, f = .make .invalidTransaction m := by
  unfold validate at h
  split_ifs at h <;> cases h <;> exact ⟨_, rfl⟩

theorem applyRules_eq_error {rules : Rules} {now : Instant} {a : Account} {amount : Decimal}
    {type : TxnType} {f : Failure} (h : applyRules rules now a amount type = .error f) :
    ∃ m, f = .make .insufficientBalance m := by
  dsimp only [applyRules] at h
  split_ifs at h <;> cases h <;> exact ⟨_, rfl⟩

/-- A failure to store the balance is told apart from every refusal before it: by its kind,
or, among the failures of the store, by its message. -/
theorem EarlyFailure.ne_updateFailure {set : Setting} {req : Request} {f : Failure}
    (hf : EarlyFailure set req f) (e : Failure) : f ≠ updateFailure e := by
  cases hf with
  | invalid h =>
    obtain ⟨m, rfl⟩ := validate_eq_error h
    simp [Failure.make, updateFailure, Failure.wrap]
  | rules h =>
    obtain ⟨m, rfl⟩ := applyRules_eq_error h
    simp [Failure.make, updateFailure, Failure.wrap]
  | rate => simp [rateFailure, Failure.make, updateFailure, Failure.wrap]
  | lookup e' =>
    unfold lookupFailure
    split
    · simp [failWith, updateFailure, Failure.wrap]
    · simp [updateFailure, Failure.wrap, Bytes.ofString_injective.eq_iff]
  | count e' => simp [countFailure, updateFailure, Failure.wrap, Bytes.ofString_injective.eq_iff]
  | insert e' => simp [recordFailure, updateFailure, Failure.wrap, Bytes.ofString_injective.eq_iff]

/-! ## The effect of a call on the store -/

/-- What one call does to the store, by its outcome: a success commits its record and the new
balance, an early refusal changes nothing, and a failed balance update leaves the record,
failed when the compensation gets through. -/
theorem createTransaction_store_effect (set : Setting) (req : Request) (w : World)
    (hids : (w.store.accounts.map (·.id)).Nodup) :
    let r := (createTransaction set.limit set.rules req.number req.amount req.type).run.run w
    let record := fun a : Account =>
      ({ id := Uuid.ofSequence (w.issued + 1), accountId := a.id, accountNumber := a.number,
         type := req.type, amount := req.amount, timestamp := w.clock, status := .completed,
         version := 0, lastModifiedAt := w.clock } : Transaction)
    -- a success: one record added and one account changed, both returned
    (∀ t a', r.1 = .ok (t, a') →
      ∃ a b, w.store.findByNumber req.number = .ok a ∧
        applyRules set.rules w.clock a req.amount req.type = .ok b ∧
        t = record a ∧ a' = { a with balance := b, version := a.version + 1, lastModifiedAt := w.clock } ∧
        r.2.store = { w.store with
          accounts := w.store.accounts.map fun x => if x.id == a.id then a' else x
          records := w.store.records ++ [t] }) ∧
    -- a refusal: the store is as it was
    (∀ f, r.1 = .error f → (∀ e, f ≠ updateFailure e) →
      EarlyFailure set req f ∧ r.2.store = w.store) ∧
    -- the balance not stored: the accounts are as they were, and the record is kept
    (∀ e, r.1 = .error (updateFailure e) →
      ∃ a b, w.store.findByNumber req.number = .ok a ∧
        applyRules set.rules w.clock a req.amount req.type = .ok b ∧
        r.2.store = { w.store with
          records := w.store.records ++
            [if compensates w.faults then
              { record a with status := .failed, version := 1, lastModifiedAt := w.clock }
            else record a] }) := by
  intro r record
  have hsettles : Settles set req w r.1 r.2.store := createTransaction_settles set req hids
  clear_value r
  obtain ⟨o, w'⟩ := r
  dsimp only at hsettles ⊢
  generalize w'.store = s at hsettles ⊢
  cases hsettles with
  | refused hf =>
    refine ⟨?_, ?_, ?_⟩
    · intro t a' h
      cases h
    · intro f' h _
      cases h
      exact ⟨hf, rfl⟩
    · intro e h
      cases h
      exact absurd rfl (hf.ne_updateFailure e)
  | committed hfind hrules =>
    refine ⟨?_, ?_, ?_⟩
    · intro t a' h
      cases h
      exact ⟨_, _, hfind, hrules, rfl, rfl, rfl⟩
    · intro f h
      cases h
    · intro e h
      cases h
  | unsettled hfind hrules =>
    refine ⟨?_, ?_, ?_⟩
    · intro t a' h
      cases h
    · intro f h hne
      cases h
      exact absurd rfl (hne _)
    · intro e' _
      exact ⟨_, _, hfind, hrules, rfl⟩

/-- A withdrawal of 3 from the one account, holding 5, under a fault plan that fails the
balance update once. -/
theorem createTransaction_store_effect_of_failed_update :
    let set : Setting := ⟨{}, {}⟩
    let req : Request := ⟨[7], ⟨3, 0⟩, .withdrawal⟩
    let w : World :=
      { clock := ⟨0, 0⟩, store := ⟨1, [⟨1, [7], ⟨5, 0⟩, ⟨0, 0⟩, ⟨0, 0⟩, 0⟩], []⟩,
        faults := [⟨some .updateBalance, .ofString "down", 0, some 1⟩] }
    (w.store.accounts.map (·.id)).Nodup ∧
    let r := (createTransaction set.limit set.rules req.number req.amount req.type).run.run w
    let record := fun a : Account =>
      ({ id := Uuid.ofSequence (w.issued + 1), accountId := a.id, accountNumber := a.number,
         type := req.type, amount := req.amount, timestamp := w.clock, status := .completed,
         version := 0, lastModifiedAt := w.clock } : Transaction)
    (∀ t a', r.1 = .ok (t, a') →
      ∃ a b, w.store.findByNumber req.number = .ok a ∧
        applyRules set.rules w.clock a req.amount req.type = .ok b ∧
        t = record a ∧ a' = { a with balance := b, version := a.version + 1, lastModifiedAt := w.clock } ∧
        r.2.store = { w.store with
          accounts := w.store.accounts.map fun x => if x.id == a.id then a' else x
          records := w.store.records ++ [t] }) ∧
    (∀ f, r.1 = .error f → (∀ e, f ≠ updateFailure e) →
      EarlyFailure set req f ∧ r.2.store = w.store) ∧
    (∀ e, r.1 = .error (updateFailure e) →
      ∃ a b, w.store.findByNumber req.number = .ok a ∧
        applyRules set.rules w.clock a req.amount req.type = .ok b ∧
        r.2.store = { w.store with
          records := w.store.records ++
            [if compensates w.faults then
              { record a with status := .failed, version := 1, lastModifiedAt := w.clock }
            else record a] }) :=
  ⟨by decide, createTransaction_store_effect _ _ _ (by decide)⟩

-- the update fails once and the compensation gets through: the one record is left `FAILED`
example :
    let w : World :=
      { clock := ⟨0, 0⟩, store := ⟨1, [⟨1, [7], ⟨5, 0⟩, ⟨0, 0⟩, ⟨0, 0⟩, 0⟩], []⟩,
        faults := [⟨some .updateBalance, .ofString "down", 0, some 1⟩] }
    (((createTransaction {} {} [7] ⟨3, 0⟩ .withdrawal).run.run w).2.store.records.map
      (·.status)) = [.failed] := by decide

end Service
end Ledger
