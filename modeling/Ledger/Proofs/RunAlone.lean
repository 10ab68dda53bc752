import Ledger.Proofs.Interleaving
/-!
# A call running alone is `createTransaction`

Run alone on any world, with the faults the world's plan injects, the machine of
`Interleaving` returns what `Service.createTransaction` returns and leaves the world as it
leaves it. The proof follows the stages from the last to the first.
-/

namespace Ledger.Interleaving

open Service Engine

/-- The shared part of a world: its store, clock and count of identifiers issued. -/
def Shared.ofWorld (w : World) : Shared := ⟨w.store, w.clock, w.issued⟩

/-- A step of a call that runs alone: no lock is held, and any failure may be injected into
its store operation. -/
def AloneStep (set : Setting) (p q : Call × Shared) : Prop :=
  ∃ fault, p.1.step set (fun _ => false) fault p.2 = q

/-- The states a call running alone can reach. -/
def RunsAlone (set : Setting) : Call × Shared → Call × Shared → Prop :=
  Relation.ReflTransGen (AloneStep set)

/-! ## Running the engine's primitives -/

section Primitives

variable {α β : Type} (w : World)

theorem run_lift_bind (m : Engine α) (k : α → Action β) :
    ((liftM m : Action α) >>= k).run.run w = (k (m.run w).1).run.run (m.run w).2 := rfl

theorem run_attempt_bind (m : Engine (Except Failure α)) (k : Except Failure α → Action β) :
    ((attempt m : Action (Except Failure α)) >>= k).run.run w =
      (k (m.run w).1).run.run (m.run w).2 := rfl

theorem run_fail (f : Failure) : (fail f : Action β).run.run w = (.error f, w) := rfl

theorem run_fail_bind (f : Failure) (k : α → Action β) :
    ((fail f : Action α) >>= k).run.run w = (.error f, w) := rfl

theorem run_bind (x : Action α) (k : α → Action β) :
    (x >>= k).run.run w =
      match x.run.run w with
      | (.ok a, w') => (k a).run.run w'
      | (.error e, w') => (.error e, w') := by
  simp only [ExceptT.run_bind, StateT.run_bind]
  rcases x.run.run w with ⟨_ | a, w'⟩ <;> rfl

theorem run_pure (b : β) : (pure b : Action β).run.run w = (.ok b, w) := rfl

theorem engine_run_bind (m : Engine α) (k : α → Engine β) :
    (m >>= k).run w = (k (m.run w).1).run (m.run w).2 := rfl

theorem now_run : now.run w = (w.clock, w) := rfl

theorem emit_run (e : Log.Entry) : (emit e).run w = ((), { w with journal := e :: w.journal }) :=
  rfl

theorem freshId_run :
    freshId.run w = (Uuid.ofSequence (w.issued + 1), { w with issued := w.issued + 1 }) := rfl

/-- A write that succeeds ran the operation on the store, and changed nothing else. -/
theorem Shared.write_eq_ok {sh sh' : Shared} {fault : Option Failure}
    {act : Store → Except Failure (Store × α)} {a : α} (h : sh.write fault act = .ok (a, sh')) :
    fault = none ∧ act sh.store = .ok (sh'.store, a) ∧ sh' = { sh with store := sh'.store } := by
  unfold Shared.write at h
  rcases fault with _ | f
  · cases hact : act sh.store with
    | ok p =>
      simp only [hact, Except.map, Except.ok.injEq, Prod.mk.injEq] at h
      obtain ⟨rfl, rfl⟩ := h
      exact ⟨rfl, rfl, rfl⟩
    | error e => simp [hact, Except.map] at h
  · cases h

/-- A store call made through the fault plan is a `Shared.write` with the failure the plan
injects. -/
theorem storeCall_run {op : StoreOp} {act : Store → Except Failure (Store × α)}
    {rules : List FaultRule} {fault : Option Failure}
    (hplan : checkFaults op w.faults = (rules, fault)) :
    (storeCall op act).run w =
      match (Shared.ofWorld w).write fault act with
      | .ok (a, sh) => (.ok a, { w with faults := rules, store := sh.store })
      | .error f => (.error f, { w with faults := rules }) := by
  unfold storeCall Shared.write
  rcases fault with _ | f
  · cases hact : act w.store with
    | ok p => simp [hplan, hact, Shared.ofWorld, Except.map]; rfl
    | error f => simp [hplan, hact, Shared.ofWorld, Except.map]; rfl
  · simp [hplan]; rfl

/-- A store read made through the fault plan is a `Shared.read` with the failure the plan
injects; it leaves the store as it is. -/
theorem storeRead_run {op : StoreOp} {act : Store → Except Failure α}
    {rules : List FaultRule} {fault : Option Failure}
    (hplan : checkFaults op w.faults = (rules, fault)) :
    (storeRead op act).run w = ((Shared.ofWorld w).read fault act, { w with faults := rules }) := by
  unfold storeRead
  rw [storeCall_run w hplan]
  rcases fault with _ | f
  · cases hact : act w.store <;> simp [Shared.write, Shared.read, hact, Except.map, Shared.ofWorld]
  · rfl

end Primitives

@[simp]
theorem ofWorld_clock (w : World) : (Shared.ofWorld w).clock = w.clock := rfl

@[simp]
theorem ofWorld_issued (w : World) : (Shared.ofWorld w).issued = w.issued := rfl

@[simp]
theorem ofWorld_faults (w : World) (rules : List FaultRule) :
    Shared.ofWorld { w with faults := rules } = Shared.ofWorld w := rfl

@[simp]
theorem ofWorld_journal (w : World) (j : List Log.Entry) :
    Shared.ofWorld { w with journal := j } = Shared.ofWorld w := rfl

@[simp]
theorem ofWorld_store (w : World) (s : Store) :
    Shared.ofWorld { w with store := s } = { Shared.ofWorld w with store := s } := rfl

@[simp]
theorem finish_with_phase (c : Call) (p : Phase) (o : Outcome) :
    ({ c with phase := p } : Call).finish o = c.finish o := rfl

/-! ## The stages of `createTransaction`, from the last to the first -/

/-- Marking a record failed: the call reads the record back and marks it, with the failures
the fault plan injects, and returns the failure of the balance update. -/
theorem markFailed_runsAlone (set : Setting) {c : Call} {id : Uuid} {f : Failure}
    (hc : c.phase = .compensating id f) (w : World) :
    RunsAlone set (c, Shared.ofWorld w)
      (c.finish (.error (updateFailure f)), Shared.ofWorld ((markFailed id).run w).2) := by
  rcases hplan : checkFaults .findRecord w.faults with ⟨rules, fault⟩
  have hread : (storeRead .findRecord (·.findRecord id)).run w = _ := storeRead_run w hplan
  cases hfound : (Shared.ofWorld w).read fault (·.findRecord id) with
  | error e =>
    have hstep : AloneStep set (c, Shared.ofWorld w)
        (c.finish (.error (updateFailure f)), Shared.ofWorld w) :=
      ⟨fault, by simp [Call.step, hc, hfound]⟩
    simp only [markFailed, engine_run_bind, hread, hfound]
    exact Relation.ReflTransGen.single hstep
  | ok t =>
    let w₁ : World := { w with faults := rules }
    rcases hplan₂ : checkFaults .updateStatus rules with ⟨rules₂, fault₂⟩
    have hcall : (storeCall .updateStatus (·.updateStatus id .failed t.version w.clock)).run w₁ =
        _ := storeCall_run w₁ hplan₂
    have hstep₁ : AloneStep set (c, Shared.ofWorld w)
        ({ c with phase := .marking id f t.version }, Shared.ofWorld w) :=
      ⟨fault, by simp [Call.step, hc, hfound]⟩
    cases hmark : (Shared.ofWorld w).write fault₂ (·.updateStatus id .failed t.version w.clock) with
    | ok p =>
      obtain ⟨v, sh'⟩ := p
      have hstep₂ : AloneStep set ({ c with phase := .marking id f t.version }, Shared.ofWorld w)
          (c.finish (.error (updateFailure f)), sh') :=
        ⟨fault₂, by simp [Call.step, hmark]⟩
      have hfinal : Shared.ofWorld ((markFailed id).run w).2 = sh' := by
        simp only [w₁] at hcall
        simp only [markFailed, engine_run_bind, hread, hfound, now_run, hcall, ofWorld_faults, hmark,
          emit_run]
        rw [(Shared.write_eq_ok hmark).2.2]
        rfl
      rw [hfinal]
      exact .head hstep₁ (.single hstep₂)
    | error e =>
      have hstep₂ : AloneStep set ({ c with phase := .marking id f t.version }, Shared.ofWorld w)
          (c.finish (.error (updateFailure f)), Shared.ofWorld w) :=
        ⟨fault₂, by simp [Call.step, hmark]⟩
      have hfinal : Shared.ofWorld ((markFailed id).run w).2 = Shared.ofWorld w := by
        simp only [w₁] at hcall
        simp only [markFailed, engine_run_bind, hread, hfound, now_run, hcall, ofWorld_faults, hmark,
          emit_run]
        rfl
      rw [hfinal]
      exact .head hstep₁ (.single hstep₂)

/-- Storing the balance: on success the call returns the record and the updated account;
otherwise it marks the record failed. -/
theorem storeBalance_runsAlone (set : Setting) {c : Call} {a : Account} {b : Decimal}
    {at_ : Instant} {t : Transaction} (hc : c.phase = .stored a b at_ t) (w : World) :
    RunsAlone set (c, Shared.ofWorld w)
      (c.finish ((storeBalance a c.request.amount c.request.type b t).run.run w).1,
        Shared.ofWorld ((storeBalance a c.request.amount c.request.type b t).run.run w).2) := by
  rcases hplan : checkFaults .updateBalance w.faults with ⟨rules, fault⟩
  have hcall : (storeCall .updateBalance (·.updateBalance a.id a.version b w.clock)).run w = _ :=
    storeCall_run w hplan
  cases hw : (Shared.ofWorld w).write fault (·.updateBalance a.id a.version b w.clock) with
  | ok p =>
    obtain ⟨⟨v, changed⟩, sh'⟩ := p
    have hstep : AloneStep set (c, Shared.ofWorld w)
        (c.finish (.ok (t, { a with balance := b, version := v, lastModifiedAt := changed })), sh') :=
      ⟨fault, by simp [Call.step, hc, hw]⟩
    simp only [storeBalance, run_lift_bind, run_attempt_bind, now_run, hcall, hw, emit_run, run_pure]
    rw [(Shared.write_eq_ok hw).2.2] at hstep ⊢
    exact .single hstep
  | error e =>
    have hstep : AloneStep set (c, Shared.ofWorld w)
        ({ c with phase := .compensating t.id e }, Shared.ofWorld w) :=
      ⟨fault, by simp [Call.step, hc, hw]⟩
    simp only [storeBalance, run_lift_bind, run_attempt_bind, now_run, hcall, hw, emit_run, run_fail]
    exact .head hstep (markFailed_runsAlone set (c := { c with phase := .compensating t.id e }) rfl
      { w with faults := rules, journal := _ })

/-- Applying the balance rules, then drafting, storing and settling the record. -/
theorem checkRulesAndStore_runsAlone (set : Setting) {c : Call} {a : Account}
    (hc : c.phase = .allowed a) (w : World) :
    RunsAlone set (c, Shared.ofWorld w)
      (c.finish ((checkRulesAndStore set.rules c.request.number a c.request.amount
          c.request.type).run.run w).1,
        Shared.ofWorld ((checkRulesAndStore set.rules c.request.number a c.request.amount
          c.request.type).run.run w).2) := by
  cases hrules : applyRules set.rules w.clock a c.request.amount c.request.type with
  | error f =>
    have hstep : AloneStep set (c, Shared.ofWorld w) (c.finish (.error f), Shared.ofWorld w) :=
      ⟨none, by simp [Call.step, hc, hrules]⟩
    simp only [checkRulesAndStore, run_lift_bind, now_run, hrules]
    exact .single hstep
  | ok b =>
    rcases hplan : checkFaults .createRecord w.faults with ⟨rules, fault⟩
    simp only [checkRulesAndStore, storeRecord, run_lift_bind, now_run, hrules, pure_bind,
      bind_assoc, freshId_run, run_attempt_bind, storeCall_run { w with issued := w.issued + 1 } hplan]
    -- the record is drafted under the next identifier and stamped with the clock
    set draft := draftRecord (Uuid.ofSequence (w.issued + 1)) a c.request.amount c.request.type
      w.clock
    have hcheck : AloneStep set (c, Shared.ofWorld w)
        ({ c with phase := .checked a b w.clock }, Shared.ofWorld w) :=
      ⟨none, by simp [Call.step, hc, hrules]⟩
    have hdraft : AloneStep set ({ c with phase := .checked a b w.clock }, Shared.ofWorld w)
        ({ c with phase := .drafted a b w.clock draft },
          Shared.ofWorld { w with issued := w.issued + 1 }) :=
      ⟨none, rfl⟩
    cases hw : (Shared.ofWorld { w with issued := w.issued + 1 }).write fault
        (·.createRecord draft w.clock) with
    | ok p =>
      obtain ⟨t, sh'⟩ := p
      have hinsert : AloneStep set ({ c with phase := .drafted a b w.clock draft },
          Shared.ofWorld { w with issued := w.issued + 1 })
          ({ c with phase := .stored a b w.clock t }, sh') :=
        ⟨fault, by simp [Call.step, hw]⟩
      rw [(Shared.write_eq_ok hw).2.2] at hinsert
      simp only [emit_run, run_lift_bind, bind_assoc, pure_bind]
      exact .head hcheck (.head hdraft (.head hinsert
        (storeBalance_runsAlone set (c := { c with phase := .stored a b w.clock t }) rfl
          { w with store := sh'.store, faults := rules, issued := w.issued + 1, journal := _ })))
    | error f =>
      have hinsert : AloneStep set ({ c with phase := .drafted a b w.clock draft },
          Shared.ofWorld { w with issued := w.issued + 1 })
          (c.finish (.error (recordFailure f)), Shared.ofWorld { w with issued := w.issued + 1 }) :=
        ⟨fault, by simp [Call.step, hw]⟩
      simp only [emit_run, run_lift_bind, bind_assoc, run_fail_bind]
      exact .head hcheck (.head hdraft (.single hinsert))

/-- Checking the rate limit, then going on with the balance rules. -/
theorem checkRateAndStore_runsAlone (set : Setting) {c : Call} {a : Account}
    (hc : c.phase = .ready a) (w : World) :
    RunsAlone set (c, Shared.ofWorld w)
      (c.finish ((checkRateAndStore set.limit set.rules c.request.number a c.request.amount
          c.request.type).run.run w).1,
        Shared.ofWorld ((checkRateAndStore set.limit set.rules c.request.number a c.request.amount
          c.request.type).run.run w).2) := by
  by_cases hon : set.limit.enabled
  · rcases hplan : checkFaults .countSince w.faults with ⟨rules, fault⟩
    simp only [checkRateAndStore, allow, hon, Bool.not_true, Bool.false_eq_true, ↓reduceIte,
      bind_assoc, run_lift_bind, now_run, run_attempt_bind, storeRead_run w hplan]
    cases hcount : (Shared.ofWorld w).read fault
        (fun s => .ok (s.countSince a.id (w.clock.addNanos (-rateWindow)))) with
    | ok n =>
      simp only [pure_bind]
      by_cases hlt : (n : Int) < set.limit.maxPerMinute
      · have hstep : AloneStep set (c, Shared.ofWorld w)
            ({ c with phase := .allowed a }, Shared.ofWorld w) :=
          ⟨fault, by simp [Call.step, hc, hon, hcount, hlt]⟩
        simp only [hlt, decide_true, ↓reduceIte]
        exact .head hstep
          (checkRulesAndStore_runsAlone set (c := { c with phase := .allowed a }) rfl
            { w with faults := rules })
      · have hstep : AloneStep set (c, Shared.ofWorld w)
            (c.finish (.error (rateFailure set.limit)), Shared.ofWorld w) :=
          ⟨fault, by simp [Call.step, hc, hon, hcount, hlt]⟩
        simp only [hlt, decide_false, Bool.false_eq_true, ↓reduceIte, run_lift_bind, emit_run,
          run_fail_bind]
        exact .single hstep
    | error f =>
      have hstep : AloneStep set (c, Shared.ofWorld w)
          (c.finish (.error (countFailure f)), Shared.ofWorld w) :=
        ⟨fault, by simp [Call.step, hc, hon, hcount]⟩
      simp only [run_fail_bind]
      exact .single hstep
  · have hstep : AloneStep set (c, Shared.ofWorld w)
        ({ c with phase := .allowed a }, Shared.ofWorld w) :=
      ⟨none, by simp [Call.step, hc, hon]⟩
    simp only [checkRateAndStore, allow, hon, Bool.not_false, ↓reduceIte, pure_bind]
    exact .head hstep (checkRulesAndStore_runsAlone set (c := { c with phase := .allowed a }) rfl w)

/-- Looking an account up through the fault plan. -/
theorem findAccount_run {number : Bytes} {w : World} {rules : List FaultRule}
    {fault : Option Failure} (hplan : checkFaults .findAccount w.faults = (rules, fault)) :
    (findAccount number).run.run w =
      match (Shared.ofWorld w).read fault (·.findByNumber number) with
      | .ok a => (.ok a, { w with faults := rules })
      | .error e => (.error (lookupFailure number e), { w with faults := rules }) := by
  simp only [findAccount, run_attempt_bind, storeRead_run w hplan]
  cases (Shared.ofWorld w).read fault (·.findByNumber number) <;> rfl

/-- A call that runs alone computes exactly `createTransaction`: from the shared part of any
world, with the failures the world's fault plan injects, the machine reaches the outcome
`createTransaction` returns, with the shared state it leaves, and holds no lock. -/
theorem createTransaction_runsAlone (set : Setting) (req : Request) (w : World) :
    RunsAlone set (⟨req, .start, none⟩, Shared.ofWorld w)
      (⟨req, .done ((createTransaction set.limit set.rules req.number req.amount
          req.type).run.run w).1, none⟩,
        Shared.ofWorld ((createTransaction set.limit set.rules req.number req.amount
          req.type).run.run w).2) := by
  cases hvalid : validate set.rules req.amount req.type with
  | error f =>
    have hstep : AloneStep set (⟨req, .start, none⟩, Shared.ofWorld w)
        (⟨req, .done (.error f), none⟩, Shared.ofWorld w) :=
      ⟨none, by simp [Call.step, hvalid]⟩
    simp only [createTransaction, hvalid, run_fail_bind]
    exact .single hstep
  | ok u =>
    rcases hplan : checkFaults .findAccount w.faults with ⟨rules, fault⟩
    simp only [createTransaction, hvalid, pure_bind, run_bind, findAccount_run hplan]
    cases hread : (Shared.ofWorld w).read fault (·.findByNumber req.number) with
    | error e =>
      have hstep : AloneStep set (⟨req, .start, none⟩, Shared.ofWorld w)
          (⟨req, .done (.error (lookupFailure req.number e)), none⟩, Shared.ofWorld w) :=
        ⟨fault, by simp [Call.step, hvalid, hread]⟩
      exact .single hstep
    | ok a =>
      by_cases hstrict : set.strict = true
      · -- the call locks the account, reads it again, and releases the lock when it returns
        have hon : (set.limit.enabled && set.limit.strict) = true := hstrict
        have hfound : AloneStep set (⟨req, .start, none⟩, Shared.ofWorld w)
            (⟨req, .found a, none⟩, Shared.ofWorld w) :=
          ⟨fault, by simp [Call.step, hvalid, hread, hstrict]⟩
        have hlock : AloneStep set (⟨req, .found a, none⟩, Shared.ofWorld w)
            (⟨req, .locked, some a.id⟩, Shared.ofWorld w) :=
          ⟨none, rfl⟩
        rcases hplan₂ : checkFaults .findAccount rules with ⟨rules₂, fault₂⟩
        simp only [hon, ↓reduceIte, run_bind, findAccount_run (w := { w with faults := rules }) hplan₂]
        cases hread₂ : (Shared.ofWorld w).read fault₂ (·.findByNumber req.number) with
        | error e =>
          have hreread : AloneStep set (⟨req, .locked, some a.id⟩, Shared.ofWorld w)
              (⟨req, .exiting (.error (lookupFailure req.number e)), some a.id⟩, Shared.ofWorld w) :=
            ⟨fault₂, by simp [Call.step, hread₂, Call.finish]⟩
          have hrelease : AloneStep set
              (⟨req, .exiting (.error (lookupFailure req.number e)), some a.id⟩, Shared.ofWorld w)
              (⟨req, .done (.error (lookupFailure req.number e)), none⟩, Shared.ofWorld w) :=
            ⟨none, rfl⟩
          simp only [ofWorld_faults, hread₂]
          exact .head hfound (.head hlock (.head hreread (.single hrelease)))
        | ok a' =>
          have hreread : AloneStep set (⟨req, .locked, some a.id⟩, Shared.ofWorld w)
              (⟨req, .ready a', some a.id⟩, Shared.ofWorld w) :=
            ⟨fault₂, by simp [Call.step, hread₂]⟩
          simp only [ofWorld_faults, hread₂]
          exact .head hfound (.head hlock (.head hreread
            ((checkRateAndStore_runsAlone set (c := ⟨req, .ready a', some a.id⟩) rfl
              { w with faults := rules₂ }).tail ⟨none, rfl⟩)))
      · have hready : AloneStep set (⟨req, .start, none⟩, Shared.ofWorld w)
            (⟨req, .ready a, none⟩, Shared.ofWorld w) :=
          ⟨fault, by simp [Call.step, hvalid, hread, hstrict]⟩
        have hoff : (set.limit.enabled && set.limit.strict) = false := by
          simpa [Setting.strict] using hstrict
        simp only [hoff, Bool.false_eq_true, ↓reduceIte]
        exact .head hready (checkRateAndStore_runsAlone set (c := ⟨req, .ready a, none⟩) rfl
          { w with faults := rules })

end Ledger.Interleaving
