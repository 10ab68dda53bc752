import Ledger.Proofs.RecordLife
import Ledger.Engine.Sweep
/-!
# Every failed record is reported once

Over any history of sweeps, no record is reported twice, and every failed record changed in
a successful sweep's window is in exactly one report up to that sweep
(`each_failed_record_reported_once`); a sweep begun at the unset instant breaks this.
-/

namespace Ledger.Sweep

open Engine Store

/-! ## One sweep -/

/-- The records a sweep beginning in `w` reports when its listing goes through: the failed
records changed in its window, new to the reporter and changed before the sweep began. -/
def due (lookback : Int) (w : World) : List Transaction :=
  fresh w.sweep w.clock (w.store.listByStatus .failed (windowStart w.sweep lookback w.clock))

/-- Logging the records of a sweep one by one writes their entries, newest first. -/
theorem emitAll_run (ts : List Transaction) (w : World) :
    (List.foldlM (fun (_ : PUnit) t =>
      (modify fun w : World => { w with journal := leftFailed t :: w.journal } : Engine PUnit))
      PUnit.unit ts).run w =
      (PUnit.unit, { w with journal := (ts.map leftFailed).reverse ++ w.journal }) := by
  induction ts generalizing w with
  | nil => rfl
  | cons t ts ih =>
    simp only [List.foldlM_cons, StateT.run_bind]
    simp [ih]

/-- What a sweep beginning in `w` does: it fails, leaving what the reporter remembers, the
store and the clock as they were; or it reports the records due, logging each of them and
then its end, and remembers them. -/
inductive Swept (lookback : Int) (w : World) : Outcome → World → Prop
  | failed {o : Outcome} {w' : World} (hfail : o.failure ≠ none) (hsweep : w'.sweep = w.sweep)
      (hstore : w'.store = w.store) (hclock : w'.clock = w.clock)
      (hfaults : w'.faults = (checkFaults .listByStatus w.faults).1) : Swept lookback w o w'
  | reported {o : Outcome} {w' : World} (hok : o.failure = none)
      (hfound : o.found = (due lookback w).length)
      (hlogged : ∃ e, w'.journal = e :: ((due lookback w).map leftFailed).reverse ++ w.journal)
      (hsweep : w'.sweep = remember w.sweep w.clock (due lookback w))
      (hstore : w'.store = w.store) (hclock : w'.clock = w.clock)
      (hfaults : w'.faults = (checkFaults .listByStatus w.faults).1) : Swept lookback w o w'

theorem run_swept (lookback : Int) (n : Option Notifier) (w : World) :
    Swept lookback w ((run lookback n).run w).1 ((run lookback n).run w).2 := by
  have hdue : fresh w.sweep w.clock (w.store.listByStatus .failed
      (windowStart w.sweep lookback w.clock)) = due lookback w := rfl
  rcases hplan : checkFaults .listByStatus w.faults with ⟨rules, _ | f⟩
  · -- the listing goes through: the records due are logged, then the notifier decides
    let delivered : Option Delivery := if due lookback w = [] then none
      else n.map fun _ => ⟨due lookback w, windowStart w.sweep lookback w.clock, w.clock⟩
    let logged : World := { w with faults := rules
                                   journal := ((due lookback w).map leftFailed).reverse ++ w.journal }
    cases hnote : n.bind fun a => if due lookback w = [] then none
        else a ⟨due lookback w, windowStart w.sweep lookback w.clock, w.clock⟩ with
    | some f =>
      have hrun : (run lookback n).run w = (⟨(due lookback w).length,
          some (.note "failed to send report" f), delivered⟩, logged) := by
        simp [run, now, storeRead, storeCall, hplan, emit, Except.map, emitAll_run, hdue, hnote,
          delivered, logged]
        -- what is left is `map` in the identity monad
        rfl
      rw [hrun]
      exact .failed (by simp) rfl rfl rfl (by rw [hplan])
    | none =>
      let finished := Log.Entry.make .info "Reconciliation finished" [
        ("since", .instant (windowStart w.sweep lookback w.clock)), ("until", .instant w.clock),
        ("failed", .int (due lookback w).length)]
      have hrun : (run lookback n).run w = (⟨(due lookback w).length, none, delivered⟩,
          { logged with journal := finished :: logged.journal
                        sweep := remember w.sweep w.clock (due lookback w) }) := by
        simp [run, now, storeRead, storeCall, hplan, emit, Except.map, emitAll_run, hdue, hnote,
          delivered, logged, finished]
        rfl
      rw [hrun]
      exact .reported rfl rfl ⟨finished, rfl⟩ rfl rfl rfl (by rw [hplan])
  · -- the listing fails, and nothing else happens
    have hrun : (run lookback n).run w =
        (⟨0, some (.note "failed to list failed transactions" f), none⟩, { w with faults := rules }) := by
      simp [run, now, storeRead, storeCall, hplan]
      rfl
    rw [hrun]
    exact .failed (by simp) rfl rfl rfl (by rw [hplan])

/-- A sweep without a notifier, whose listing the fault plan lets through, succeeds. -/
theorem run_ok_of_listed (lookback : Int) (w : World)
    (hplan : (checkFaults .listByStatus w.faults).2 = none) :
    ((run lookback none).run w).1.failure = none := by
  rcases hcheck : checkFaults .listByStatus w.faults with ⟨rules, fault⟩
  rw [hcheck] at hplan
  subst hplan
  simp [run, now, storeRead, storeCall, hcheck, emit, Except.map, emitAll_run]
  rfl

/-- A sweep that fails leaves what the reporter remembers, the store and the clock as they
were. -/
theorem run_failed {lookback : Int} {n : Option Notifier} {w : World}
    (hfail : ((run lookback n).run w).1.failure ≠ none) :
    ((run lookback n).run w).2.sweep = w.sweep ∧ ((run lookback n).run w).2.store = w.store ∧
      ((run lookback n).run w).2.clock = w.clock := by
  cases run_swept lookback n w with
  | failed _ hsweep hstore hclock => exact ⟨hsweep, hstore, hclock⟩
  | reported hok => exact absurd hok hfail

/-- A sweep that succeeds leaves the store and the clock as they were, and remembers the
records it reported. -/
theorem run_reported {lookback : Int} {n : Option Notifier} {w : World}
    (hok : ((run lookback n).run w).1.failure = none) :
    ((run lookback n).run w).2.sweep = remember w.sweep w.clock (due lookback w) ∧
      ((run lookback n).run w).2.store = w.store ∧ ((run lookback n).run w).2.clock = w.clock := by
  cases run_swept lookback n w with
  | failed hfail => exact absurd hok hfail
  | reported _ _ _ hsweep hstore hclock => exact ⟨hsweep, hstore, hclock⟩

/-- Every sweep asks the fault plan about its listing once. -/
theorem run_faults (lookback : Int) (n : Option Notifier) (w : World) :
    ((run lookback n).run w).2.faults = (checkFaults .listByStatus w.faults).1 := by
  cases run_swept lookback n w with
  | failed _ _ _ _ hfaults => exact hfaults
  | reported _ _ _ _ _ _ hfaults => exact hfaults

/-! ## What a sweep reads and remembers -/

@[simp]
theorem withNumber_id (s : Store) (t : Transaction) : (s.withNumber t).id = t.id := by
  unfold Store.withNumber
  split <;> rfl

@[simp]
theorem withNumber_lastModifiedAt (s : Store) (t : Transaction) :
    (s.withNumber t).lastModifiedAt = t.lastModifiedAt := by
  unfold Store.withNumber
  split <;> rfl

theorem mem_listByStatus {s : Store} {status : TxnStatus} {since : Instant} {t : Transaction} :
    t ∈ s.listByStatus status since ↔
      ∃ r ∈ s.records, r.status = status ∧ since ≤ r.lastModifiedAt ∧ s.withNumber r = t := by
  simp [Store.listByStatus, List.mem_mergeSort, and_assoc]

/-- A listing by status holds each stored record at most once. -/
theorem listByStatus_ids_nodup {s : Store} (hdistinct : (s.records.map (·.id)).Nodup)
    (status : TxnStatus) (since : Instant) :
    ((s.listByStatus status since).map (·.id)).Nodup := by
  unfold Store.listByStatus
  rw [((List.mergeSort_perm _ _).map _).nodup_iff, List.map_map]
  have hids : ((·.id) ∘ s.withNumber) = fun t : Transaction => t.id := by
    funext t
    simp
  rw [hids]
  exact hdistinct.sublist (List.filter_sublist.map _)

theorem mem_fresh {memory : SweepMemory} {upTo : Instant} {found : List Transaction}
    {t : Transaction} :
    t ∈ fresh memory upTo found ↔
      t ∈ found ∧ (∀ p ∈ memory.reported, p.1 ≠ t.id) ∧ t.lastModifiedAt < upTo := by
  simp [fresh]

theorem mem_remember {memory : SweepMemory} {upTo : Instant} {failed : List Transaction}
    {p : Uuid × Instant} :
    p ∈ (remember memory upTo failed).reported ↔
      (p ∈ memory.reported ∨ ∃ t ∈ failed, (t.id, t.lastModifiedAt) = p) ∧
        ¬ p.2 < upTo.addNanos (-settleMargin) := by
  simp [remember, or_and_right]

@[simp]
theorem remember_lastRun (memory : SweepMemory) (upTo : Instant) (failed : List Transaction) :
    (remember memory upTo failed).lastRun = some upTo := rfl

/-- A record due is a stored failed record changed in the window, new to the reporter and
changed before the sweep began. -/
theorem mem_due {lookback : Int} {w : World} {t : Transaction} :
    t ∈ due lookback w ↔ ∃ r ∈ w.store.records, r.status = .failed ∧
      windowStart w.sweep lookback w.clock ≤ r.lastModifiedAt ∧
      (∀ p ∈ w.sweep.reported, p.1 ≠ r.id) ∧ r.lastModifiedAt < w.clock ∧
      w.store.withNumber r = t := by
  unfold due
  rw [mem_fresh, mem_listByStatus]
  constructor
  · rintro ⟨⟨r, hr, hstatus, hsince, rfl⟩, hnew, hbefore⟩
    exact ⟨r, hr, hstatus, hsince, by simpa using hnew, by simpa using hbefore, rfl⟩
  · rintro ⟨r, hr, hstatus, hsince, hnew, hbefore, rfl⟩
    exact ⟨⟨r, hr, hstatus, hsince, rfl⟩, by simpa using hnew, by simpa using hbefore⟩

theorem due_ids_nodup {lookback : Int} {w : World}
    (hdistinct : (w.store.records.map (·.id)).Nodup) : ((due lookback w).map (·.id)).Nodup :=
  (listByStatus_ids_nodup hdistinct _ _).sublist (List.filter_sublist.map _)

/-- With a last sweep that did not end at the unset instant, the window starts a settle margin
before its end. -/
theorem windowStart_of_lastRun {memory : SweepMemory} {lookback : Int} {upTo u : Instant}
    (hlast : memory.lastRun = some u) (hset : u.isZero = false) :
    windowStart memory lookback upTo = u.addNanos (-settleMargin) := by
  simp [windowStart, hlast, hset]

/-! ## Histories of sweeps -/

/-- A history of the reporter from `w₀`: sweeps that succeed, sweeps that fail at the listing
or at the notifier, and in between the clock moving forward, the store changing by its calls
(stamped by any clock) and the fault plan changing. `runs` lists the worlds in which the
successful sweeps began, in order. -/
inductive History (lookback : Int) (w₀ : World) : List World → World → Prop
  | start : History lookback w₀ [] w₀
  | sweep {runs : List World} {w : World} (n : Option Notifier) :
      History lookback w₀ runs w → ((run lookback n).run w).1.failure = none →
      History lookback w₀ (runs ++ [w]) ((run lookback n).run w).2
  | fail {runs : List World} {w : World} (n : Option Notifier) :
      History lookback w₀ runs w → ((run lookback n).run w).1.failure ≠ none →
      History lookback w₀ runs ((run lookback n).run w).2
  | tick {runs : List World} {w : World} (t : Instant) :
      History lookback w₀ runs w → w.clock ≤ t → History lookback w₀ runs { w with clock := t }
  | call {runs : List World} {w : World} (now : Instant) (c : Call) :
      History lookback w₀ runs w → History lookback w₀ runs { w with store := c.apply w.store now }
  | plan {runs : List World} {w : World} (faults : List FaultRule) :
      History lookback w₀ runs w → History lookback w₀ runs { w with faults := faults }

/-- The ids of the records the successful sweeps `runs` reported, in order. -/
def reportedIds (lookback : Int) (runs : List World) : List Uuid :=
  runs.flatMap fun v => (due lookback v).map (·.id)

theorem reportedIds_append (lookback : Int) (runs : List World) (w : World) :
    reportedIds lookback (runs ++ [w]) = reportedIds lookback runs ++ (due lookback w).map (·.id) := by
  simp [reportedIds]

/-- Where the window of the successful sweep beginning in `v` starts, `pre` being the
successful sweeps before it: a lookback before `v`'s clock for the first, a settle margin
before the previous sweep's clock for the others. -/
def windowAfter (lookback : Int) (pre : List World) (v : World) : Instant :=
  match pre.getLast? with
  | none => v.clock.addNanos (-lookback)
  | some u => u.clock.addNanos (-settleMargin)

/-- The invariant of a history of sweeps: what is reported is failed, reported once, and
remembered or out of the next window; and each failed record of a window is reported once. -/
structure ReportsOnce (lookback : Int) (runs : List World) (w : World) : Prop where
  distinct : (w.store.records.map (·.id)).Nodup
  once : (reportedIds lookback runs).Nodup
  settled : ∀ x ∈ reportedIds lookback runs, ∃ r ∈ w.store.records, r.id = x ∧
    r.status = .failed ∧ ((x, r.lastModifiedAt) ∈ w.sweep.reported ∨
      ∃ u, w.sweep.lastRun = some u ∧ r.lastModifiedAt < u.addNanos (-settleMargin))
  remembered : ∀ p ∈ w.sweep.reported, p.1 ∈ reportedIds lookback runs
  last : w.sweep.lastRun = runs.getLast?.map (·.clock)
  behind : ∀ u ∈ runs.getLast?, u.clock ≤ w.clock
  covered : ∀ pre v, pre ++ [v] <+: runs → ∀ r ∈ v.store.records, r.status = .failed →
    windowAfter lookback pre v ≤ r.lastModifiedAt → r.lastModifiedAt < v.clock →
    (reportedIds lookback (pre ++ [v])).count r.id = 1

section Steps

variable {lookback : Int} {runs : List World} {w w' : World}

theorem ReportsOnce.start (hstart : w.sweep = {}) (hdistinct : (w.store.records.map (·.id)).Nodup) :
    ReportsOnce lookback [] w := by
  refine ⟨hdistinct, by simp [reportedIds], by simp [reportedIds], ?_, by simp [hstart], by simp, ?_⟩
  · intro p hp
    simp [hstart] at hp
  · intro pre v hpre
    simpa using hpre.length_le

/-- A step that keeps the store and what the reporter remembers, and does not move the clock
back, keeps the invariant. -/
theorem ReportsOnce.frame (hs : ReportsOnce lookback runs w) (hstore : w'.store = w.store)
    (hsweep : w'.sweep = w.sweep) (hclock : w.clock ≤ w'.clock) : ReportsOnce lookback runs w' := by
  refine ⟨hstore ▸ hs.distinct, hs.once, hstore ▸ hsweep ▸ hs.settled, hsweep ▸ hs.remembered,
    hsweep ▸ hs.last,
    fun u hu => show u.clock.ns ≤ w'.clock.ns from Int.le_trans (hs.behind u hu) hclock, hs.covered⟩

/-- A store call keeps the invariant: ids stay distinct and failed records stay. -/
theorem ReportsOnce.call (hs : ReportsOnce lookback runs w) (now : Instant) (c : Call) :
    ReportsOnce lookback runs { w with store := c.apply w.store now } := by
  refine { hs with distinct := Call.apply_distinct hs.distinct now c, settled := ?_ }
  intro x hx
  obtain ⟨r, hr, hid, hfailed, hkept⟩ := hs.settled x hx
  exact ⟨r, Call.apply_keeps_failed hs.distinct now c hr hfailed, hid, hfailed, hkept⟩

theorem lt_addNanos_of_le {a u v : Instant} {d : Int} (ha : a < u.addNanos d) (huv : u ≤ v) :
    a < v.addNanos d := by
  have ha : a.ns < u.ns + d := ha
  have huv : u.ns ≤ v.ns := huv
  show a.ns < v.ns + d
  omega

/-- The last sweep ended no later than the clock reads now. -/
theorem ReportsOnce.lastRun_le (hs : ReportsOnce lookback runs w) {u : Instant}
    (hlast : w.sweep.lastRun = some u) : u ≤ w.clock := by
  rw [hs.last, Option.map_eq_some_iff] at hlast
  obtain ⟨v, hv, rfl⟩ := hlast
  exact hs.behind v hv

/-- A record reported up to a sweep is, after it, remembered with its change time, or due in
it, or changed more than a settle margin before the sweep began. -/
theorem ReportsOnce.kept_after (hs : ReportsOnce lookback runs w) {x : Uuid}
    (hx : x ∈ reportedIds lookback (runs ++ [w])) :
    ∃ r ∈ w.store.records, r.id = x ∧ r.status = .failed ∧
      ((x, r.lastModifiedAt) ∈ w.sweep.reported ∨
        (∃ t ∈ due lookback w, (t.id, t.lastModifiedAt) = (x, r.lastModifiedAt)) ∨
        r.lastModifiedAt < w.clock.addNanos (-settleMargin)) := by
  rw [reportedIds_append, List.mem_append] at hx
  rcases hx with hold | hnew
  · obtain ⟨r, hr, hid, hfailed, hkept⟩ := hs.settled x hold
    refine ⟨r, hr, hid, hfailed, ?_⟩
    rcases hkept with hrem | ⟨u, hlast, hbefore⟩
    · exact .inl hrem
    · exact .inr (.inr (lt_addNanos_of_le hbefore (hs.lastRun_le hlast)))
  · obtain ⟨t, ht, rfl⟩ := List.mem_map.1 hnew
    obtain ⟨r, hr, hfailed, -, -, -, rfl⟩ := mem_due.1 ht
    exact ⟨r, hr, by simp, hfailed, .inr (.inl ⟨_, ht, by simp⟩)⟩

section Set

variable (hset : ∀ u ∈ runs, u.clock.isZero = false)
include hset

theorem ReportsOnce.lastRun_set (hs : ReportsOnce lookback runs w) {u : Instant}
    (hlast : w.sweep.lastRun = some u) : u.isZero = false := by
  rw [hs.last, Option.map_eq_some_iff] at hlast
  obtain ⟨v, hv, rfl⟩ := hlast
  exact hset v (List.mem_of_getLast? hv)

/-- The next sweep's window starts where `windowAfter` says. -/
theorem ReportsOnce.windowStart_eq (hs : ReportsOnce lookback runs w) :
    windowStart w.sweep lookback w.clock = windowAfter lookback runs w := by
  unfold windowAfter
  rcases hlast : runs.getLast? with _ | v
  · simp [windowStart, hs.last, hlast]
  · have hv : v.clock.isZero = false := hset v (List.mem_of_getLast? hlast)
    simp [windowStart, hs.last, hlast, hv]

/-- A record reported before is not due again: it is either remembered, or changed before
the window. -/
theorem ReportsOnce.not_due_of_reported (hs : ReportsOnce lookback runs w) {x : Uuid}
    (hx : x ∈ reportedIds lookback runs) : x ∉ (due lookback w).map (·.id) := by
  intro hdue
  obtain ⟨t, ht, htx⟩ := List.mem_map.1 hdue
  obtain ⟨r, hr, hid, -, hkept⟩ := hs.settled x hx
  obtain ⟨r', hr', -, hsince, hnew, -, rfl⟩ := mem_due.1 ht
  -- ids being distinct, the record due is the one reported before
  have hsame : r' = r := List.inj_on_of_nodup_map hs.distinct hr' hr (by simp at htx; simp [htx, hid])
  subst hsame
  rcases hkept with hrem | ⟨u, hlast, hbefore⟩
  · exact hnew _ hrem hid.symm
  · rw [windowStart_of_lastRun hlast (hs.lastRun_set hset hlast)] at hsince
    exact Int.lt_irrefl _ (Int.lt_of_lt_of_le hbefore hsince)

theorem ReportsOnce.once_after (hs : ReportsOnce lookback runs w) :
    (reportedIds lookback (runs ++ [w])).Nodup := by
  rw [reportedIds_append, List.nodup_append]
  refine ⟨hs.once, due_ids_nodup hs.distinct, ?_⟩
  rintro x hx y hy rfl
  exact hs.not_due_of_reported hset hx hy

/-- The records in the window of the sweep that just ran were each reported once, by it or
before it. -/
theorem ReportsOnce.covered_last (hs : ReportsOnce lookback runs w) {r : Transaction}
    (hr : r ∈ w.store.records) (hfailed : r.status = .failed)
    (hsince : windowAfter lookback runs w ≤ r.lastModifiedAt) (hbefore : r.lastModifiedAt < w.clock) :
    (reportedIds lookback (runs ++ [w])).count r.id = 1 := by
  apply List.count_eq_one_of_mem (hs.once_after hset)
  rw [reportedIds_append, List.mem_append]
  by_cases hx : r.id ∈ reportedIds lookback runs
  · exact .inl hx
  · -- not reported before, so not remembered: the record is due now
    have hnew : ∀ p ∈ w.sweep.reported, p.1 ≠ r.id := fun p hp hpx => hx (hpx ▸ hs.remembered p hp)
    have hdue : w.store.withNumber r ∈ due lookback w :=
      mem_due.2 ⟨r, hr, hfailed, by rwa [hs.windowStart_eq hset], hnew, hbefore, rfl⟩
    exact .inr (List.mem_map.2 ⟨_, hdue, by simp⟩)

/-- A successful sweep keeps the invariant: after it the store and the clock are as they
were, and the reporter remembers what the sweep reported. -/
theorem ReportsOnce.reported (hs : ReportsOnce lookback runs w)
    (hsweep : w'.sweep = remember w.sweep w.clock (due lookback w))
    (hstore : w'.store = w.store) (hclock : w'.clock = w.clock) :
    ReportsOnce lookback (runs ++ [w]) w' where
  distinct := hstore ▸ hs.distinct
  once := hs.once_after hset
  settled := by
    intro x hx
    obtain ⟨r, hr, hid, hfailed, hkept⟩ := hs.kept_after hx
    refine ⟨r, hstore ▸ hr, hid, hfailed, ?_⟩
    rw [hsweep]
    by_cases hlate : r.lastModifiedAt < w.clock.addNanos (-settleMargin)
    · exact .inr ⟨w.clock, rfl, hlate⟩
    · refine .inl (mem_remember.2 ⟨?_, hlate⟩)
      rcases hkept with hrem | hdue | hbefore
      · exact .inl hrem
      · exact .inr hdue
      · exact absurd hbefore hlate
  remembered := by
    intro p hp
    rw [hsweep, mem_remember] at hp
    rw [reportedIds_append, List.mem_append]
    rcases hp.1 with hold | ⟨t, ht, rfl⟩
    · exact .inl (hs.remembered p hold)
    · exact .inr (List.mem_map_of_mem ht)
  last := by simp [hsweep]
  behind := by
    intro u hu
    simp only [List.getLast?_concat, Option.mem_def, Option.some.injEq] at hu
    subst hu
    rw [hclock]
    exact Int.le_refl _
  covered := by
    intro pre v hpre r hr hfailed hsince hbefore
    rcases List.prefix_concat_iff.1 hpre with heq | hold
    · obtain ⟨rfl, rfl⟩ := List.append_singleton_inj.1 heq
      exact hs.covered_last hset hr hfailed hsince hbefore
    · exact hs.covered pre v hold r hr hfailed hsince hbefore

end Set

end Steps

/-- The invariant holds after every history from a world whose reporter remembers nothing and
whose record ids are distinct, as long as no successful sweep begins at the unset instant. -/
theorem History.reportsOnce {lookback : Int} {w₀ : World} {runs : List World} {w : World}
    (hstart : w₀.sweep = {}) (hdistinct : (w₀.store.records.map (·.id)).Nodup)
    (hh : History lookback w₀ runs w) (hset : ∀ u ∈ runs, u.clock.isZero = false) :
    ReportsOnce lookback runs w := by
  induction hh with
  | start => exact .start hstart hdistinct
  | @sweep runs v n _ hok ih =>
    have hset' : ∀ u ∈ runs, u.clock.isZero = false := fun u hu => hset u (List.mem_append_left _ hu)
    obtain ⟨hsweep, hstore, hclock⟩ := run_reported hok
    exact (ih hset').reported hset' hsweep hstore hclock
  | fail n _ hfail ih =>
    obtain ⟨hsweep, hstore, hclock⟩ := run_failed hfail
    exact (ih hset).frame hstore hsweep (by rw [hclock]; exact Int.le_refl _)
  | tick t _ hle ih => exact (ih hset).frame rfl rfl hle
  | call now c _ ih => exact (ih hset).call now c
  | plan faults _ ih => exact (ih hset).frame rfl rfl (Int.le_refl _)

/-- Over any history with no sweep begun at the unset instant, no record is reported twice and
each failed record of a successful sweep's window is reported exactly once up to it. -/
theorem each_failed_record_reported_once {lookback : Int} {w₀ : World} {runs : List World}
    {w : World} (hstart : w₀.sweep = {}) (hdistinct : (w₀.store.records.map (·.id)).Nodup)
    (hh : History lookback w₀ runs w) (hset : ∀ u ∈ runs, u.clock.isZero = false) :
    (∀ (n : Option Notifier) (v : World), ((run lookback n).run v).1.failure ≠ none →
        ((run lookback n).run v).2.sweep = v.sweep) ∧
      (reportedIds lookback runs).Nodup ∧
      ∀ pre v post, runs = pre ++ v :: post → ∀ r ∈ v.store.records, r.status = .failed →
        windowAfter lookback pre v ≤ r.lastModifiedAt → r.lastModifiedAt < v.clock →
        (reportedIds lookback (pre ++ [v])).count r.id = 1 := by
  have hinv := hh.reportsOnce hstart hdistinct hset
  refine ⟨fun n v hfail => (run_failed hfail).1, hinv.once, ?_⟩
  intro pre v post hruns r hr hfailed hsince hbefore
  exact hinv.covered pre v ⟨post, by simp [hruns]⟩ r hr hfailed hsince hbefore

/-- One sweep a second after the epoch over a store holding one failed deposit. -/
theorem each_failed_record_reported_once_after_one_sweep :
    let r : Transaction := ⟨Uuid.ofSequence 1, 1, [], .deposit, Decimal.ofInt 5,
      Instant.ofMillis 500, .failed, 0, Instant.ofMillis 500⟩
    let w₀ : World := { clock := Instant.ofMillis 1000, store := { records := [r] } }
    let lookback : Int := 86400 * nsPerSecond
    (w₀.sweep = {} ∧ (w₀.store.records.map (·.id)).Nodup ∧
      History lookback w₀ [w₀] ((run lookback none).run w₀).2 ∧
      ∀ u ∈ [w₀], u.clock.isZero = false) ∧
    ((∀ (n : Option Notifier) (v : World), ((run lookback n).run v).1.failure ≠ none →
        ((run lookback n).run v).2.sweep = v.sweep) ∧
      (reportedIds lookback [w₀]).Nodup ∧
      ∀ pre v post, [w₀] = pre ++ v :: post → ∀ r ∈ v.store.records, r.status = .failed →
        windowAfter lookback pre v ≤ r.lastModifiedAt → r.lastModifiedAt < v.clock →
        (reportedIds lookback (pre ++ [v])).count r.id = 1) := by
  intro r w₀ lookback
  have hstart : w₀.sweep = {} := rfl
  have hdistinct : (w₀.store.records.map (·.id)).Nodup := List.nodup_singleton _
  have hh : History lookback w₀ [w₀] ((run lookback none).run w₀).2 :=
    .sweep none .start (run_ok_of_listed lookback w₀ rfl)
  have hset : ∀ u ∈ [w₀], u.clock.isZero = false := by
    intro u hu
    rw [List.mem_singleton] at hu
    subst hu
    decide
  exact ⟨⟨hstart, hdistinct, hh, hset⟩,
    each_failed_record_reported_once hstart hdistinct hh hset⟩

/-- A sweep that begins at the unset instant reads, to the next sweep, as no sweep at all:
a failed record changed an hour before it is reported again by a second sweep at the same
instant. -/
theorem sweep_at_unset_instant_reports_twice :
    let t₀ := Instant.zero.addNanos (-3600 * nsPerSecond)
    let r : Transaction := ⟨Uuid.ofSequence 1, 1, [], .deposit, Decimal.ofInt 1, t₀, .failed,
      0, t₀⟩
    let w₀ : World := { clock := Instant.zero, store := { records := [r] } }
    let lookback : Int := 86400 * nsPerSecond
    let w₁ := ((run lookback none).run w₀).2
    w₀.sweep = {} ∧ (w₀.store.records.map (·.id)).Nodup ∧
      History lookback w₀ [w₀, w₁] ((run lookback none).run w₁).2 ∧
      ¬ (reportedIds lookback [w₀, w₁]).Nodup := by
  intro t₀ r w₀ lookback w₁
  have hok₀ := run_ok_of_listed lookback w₀ rfl
  obtain ⟨hsweep, hstore, hclock⟩ := run_reported hok₀
  have hok₁ : ((run lookback none).run w₁).1.failure = none :=
    run_ok_of_listed lookback w₁ (by rw [run_faults]; rfl)
  -- the first sweep reports the record, and forgets it at once: it changed before the margin
  have hdue₀ : w₀.store.withNumber r ∈ due lookback w₀ :=
    mem_due.2 ⟨r, List.mem_singleton_self _, rfl, by decide, by simp [w₀], by decide, rfl⟩
  have hforgot : ∀ p ∈ w₁.sweep.reported, p.1 ≠ r.id := by
    intro p hp
    rw [hsweep, mem_remember] at hp
    obtain ⟨hin | ⟨t, ht, rfl⟩, hlate⟩ := hp
    · simp [w₀] at hin
    · obtain ⟨r', hr', -, -, -, -, rfl⟩ := mem_due.1 ht
      rw [List.mem_singleton] at hr'
      subst hr'
      exact absurd (by decide) hlate
  -- the second sweep takes the unset instant for no sweep, and reports it again
  have hdue₁ : w₁.store.withNumber r ∈ due lookback w₁ := by
    refine mem_due.2 ⟨r, by rw [hstore]; exact List.mem_singleton_self _, rfl, ?_, hforgot,
      by rw [hclock]; decide, rfl⟩
    rw [hsweep, hclock]
    decide
  refine ⟨rfl, List.nodup_singleton _, .sweep none (.sweep none .start hok₀) hok₁, ?_⟩
  intro hnodup
  rw [show reportedIds lookback [w₀, w₁] = reportedIds lookback ([] ++ [w₀]) ++
      (due lookback w₁).map (·.id) from by simp [reportedIds], reportedIds_append,
    List.nodup_append] at hnodup
  exact hnodup.2.2 r.id (List.mem_append_right _ (List.mem_map.2 ⟨_, hdue₀, by simp⟩))
    r.id (List.mem_map.2 ⟨_, hdue₁, by simp⟩) rfl

end Ledger.Sweep
