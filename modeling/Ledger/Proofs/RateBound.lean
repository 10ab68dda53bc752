import Ledger.Proofs.Coherence
/-!
# The rate limit bounds the records of every window

A call stores a record only after counting fewer than the limit in the window before it, so
a window holds at most the limit as long as no other record of the account is stored in
between: under the lock, or when calls take turns, but not under best-effort limiting.
-/

namespace Ledger.Interleaving

open Service Store

variable {set : Setting}

/-! ## Counting by window -/

theorem Instant.le_iff (a b : Instant) : a ≤ b ↔ a.ns ≤ b.ns := Iff.rfl

/-- The records of an account stamped within the rate window that ends at `t`. -/
def windowCount (s : Store) (x : Int) (t : Instant) : Nat :=
  (s.records.filter fun q => q.accountId == x && decide (t.addNanos (-rateWindow) ≤ q.timestamp) &&
    decide (q.timestamp ≤ t)).length

theorem windowCount_eq_stamps (s : Store) (x : Int) (t : Instant) :
    windowCount s x t = (s.stamps.filter fun p => p.1 == x &&
      decide (t.addNanos (-rateWindow) ≤ p.2) && decide (p.2 ≤ t)).length := by
  simp only [windowCount, stamps, List.filter_map, List.length_map]
  rfl

/-- A window ending no earlier than `c₁` holds at most the records counted back from `c₁`. -/
theorem windowCount_le_countSince (s : Store) (x : Int) {c₁ t : Instant} (h : c₁ ≤ t) :
    windowCount s x t ≤ s.countSince x (c₁.addNanos (-rateWindow)) := by
  refine (List.monotone_filter_right _ fun q hq => ?_).length_le
  simp only [Bool.and_eq_true, beq_iff_eq, decide_eq_true_eq] at hq ⊢
  obtain ⟨⟨hx, hsince⟩, -⟩ := hq
  refine ⟨hx, ?_⟩
  change c₁.ns + -rateWindow ≤ q.timestamp.ns
  change t.ns + -rateWindow ≤ q.timestamp.ns at hsince
  change c₁.ns ≤ t.ns at h
  omega

/-- Storing one more record adds at most that record to any window, and nothing to a window
that does not hold it. -/
theorem windowCount_append (s : Store) (q : Transaction) (x : Int) (t : Instant) :
    windowCount { s with records := s.records ++ [q] } x t =
      windowCount s x t + if q.accountId = x ∧ t.addNanos (-rateWindow) ≤ q.timestamp ∧
        q.timestamp ≤ t then 1 else 0 := by
  simp only [windowCount, List.filter_append, List.length_append]
  congr 1
  by_cases hq : q.accountId = x ∧ t.addNanos (-rateWindow) ≤ q.timestamp ∧ q.timestamp ≤ t
  · simp [hq]
  · simp only [List.filter_cons, List.filter_nil]
    rw [if_neg (by simpa [and_assoc] using hq), if_neg hq]
    rfl

theorem countSince_append_of_ne (s : Store) {q : Transaction} {x : Int} (hx : q.accountId ≠ x)
    (since : Instant) :
    ({ s with records := s.records ++ [q] } : Store).countSince x since = s.countSince x since := by
  simp [countSince, List.filter_append, hx]

theorem windowCount_congr {s s' : Store} (h : s'.stamps = s.stamps) (x : Int) (t : Instant) :
    windowCount s' x t = windowCount s x t := by
  rw [windowCount_eq_stamps, windowCount_eq_stamps, h]

theorem countSince_congr {s s' : Store} (h : s'.stamps = s.stamps) (x : Int) (since : Instant) :
    s'.countSince x since = s.countSince x since := by
  rw [countSince_eq_stamps, countSince_eq_stamps, h]

/-- Every account has at most `limit` records stamped within any rate window. -/
def WithinLimit (limit : Int) (s : Store) : Prop := ∀ x t, (windowCount s x t : Int) ≤ limit

/-! ## What a passed rate check still guarantees -/

/-- The account of a call that has passed its rate check and not yet stored its record. -/
def Phase.counted : Phase → Option Account
  | .allowed a | .checked a _ _ | .drafted a _ _ _ => some a
  | _ => none

/-- What the rate check of a call that passed it, and has not yet stored its record, still
guarantees: at an instant `c₁` no later than the clock, nor than the stamp of the call's
draft, the account had fewer than `limit` records stamped within the window ending then. -/
def Call.Counted (limit : Int) (sh : Shared) (c : Call) : Prop :=
  match c.phase with
  | .allowed a | .checked a _ _ =>
    ∃ c₁ ≤ sh.clock, (sh.store.countSince a.id (c₁.addNanos (-rateWindow)) : Int) < limit
  | .drafted a _ _ d => ∃ c₁ ≤ sh.clock, c₁ ≤ d.timestamp ∧
    (sh.store.countSince a.id (c₁.addNanos (-rateWindow)) : Int) < limit
  | _ => True

theorem Call.counted_finish (limit : Int) (sh : Shared) (c : Call) (o : Outcome) :
    (c.finish o).Counted limit sh := by
  unfold Call.finish
  by_cases hlock : c.lock.isSome <;> simp [hlock, Call.Counted]

/-- A call's rate guarantee survives a later clock and a store that keeps the count of its
account's records. -/
theorem Call.Counted.mono {limit : Int} {sh sh' : Shared} {c : Call} (hc : c.Counted limit sh)
    (hclock : sh.clock ≤ sh'.clock)
    (hcount : ∀ a, c.phase.counted = some a → ∀ since,
      sh'.store.countSince a.id since = sh.store.countSince a.id since) :
    c.Counted limit sh' := by
  have hle : ∀ c₁ : Instant, c₁ ≤ sh.clock → c₁ ≤ sh'.clock := fun c₁ h =>
    (Instant.le_iff _ _).2 (Int.le_trans h hclock)
  unfold Call.Counted at hc ⊢
  unfold Phase.counted at hcount
  split <;> rename_i hp <;> simp only [hp] at hc hcount
  · obtain ⟨c₁, hc₁, hlt⟩ := hc
    exact ⟨c₁, hle c₁ hc₁, by rw [hcount _ rfl]; exact hlt⟩
  · obtain ⟨c₁, hc₁, hlt⟩ := hc
    exact ⟨c₁, hle c₁ hc₁, by rw [hcount _ rfl]; exact hlt⟩
  · obtain ⟨c₁, hc₁, hstamp, hlt⟩ := hc
    exact ⟨c₁, hle c₁ hc₁, hstamp, by rw [hcount _ rfl]; exact hlt⟩
  · trivial

/-- A call's own step under enabled limiting: counting its account's records and finding
fewer than the limit gives the guarantee, and its later steps before storing keep it. -/
theorem Call.Counted.step {busy : Int → Bool} {fault : Option Failure} {c : Call} {sh : Shared}
    (hc : c.Counted set.limit.maxPerMinute sh) (hon : set.limit.enabled = true) :
    (c.step set busy fault sh).1.Counted set.limit.maxPerMinute (c.step set busy fault sh).2 := by
  rcases c with ⟨r, p, l⟩
  cases p with
  | ready a =>
    dsimp only [Call.step]
    rw [if_neg (by simp [hon])]
    split
    · -- the count, read at the clock, was below the limit
      rename_i n hread
      obtain ⟨-, hcount⟩ := Shared.read_eq_ok _ _ hread
      cases hcount
      split
      · exact ⟨sh.clock, Int.le_refl _, by assumption⟩
      · exact Call.counted_finish _ _ _ _
    · exact Call.counted_finish _ _ _ _
  | allowed a =>
    dsimp only [Call.step]
    split
    · exact hc
    · exact Call.counted_finish _ _ _ _
  | checked a b at_ =>
    -- the draft is stamped with the clock, no earlier than the count
    obtain ⟨c₁, hc₁, hlt⟩ := hc
    exact ⟨c₁, hc₁, hc₁, hlt⟩
  | start =>
    dsimp only [Call.step]
    split
    · trivial
    · split
      · split <;> trivial
      · trivial
  | found a =>
    dsimp only [Call.step]
    split <;> trivial
  | locked =>
    dsimp only [Call.step]
    split
    · trivial
    · exact Call.counted_finish _ _ _ _
  | drafted a b at_ d =>
    dsimp only [Call.step]
    split
    · trivial
    · exact Call.counted_finish _ _ _ _
  | stored a b at_ t =>
    dsimp only [Call.step]
    split
    · exact Call.counted_finish _ _ _ _
    · trivial
  | compensating id f =>
    dsimp only [Call.step]
    split
    · trivial
    · exact Call.counted_finish _ _ _ _
  | marking id f v =>
    dsimp only [Call.step]
    split <;> exact Call.counted_finish _ _ _ _
  | exiting o => trivial
  | done o => trivial

/-- A step keeps every record's account and stamp, unless it stores the call's draft. -/
theorem Effect.stamps_or_insert {fault : Option Failure} {now : Instant} {c c' : Call}
    {s s' : Store} (heff : Effect fault now c s c' s') (hnodup : (s.records.map (·.id)).Nodup) :
    s'.stamps = s.stamps ∨ ∃ a b at_ d t, c.phase = .drafted a b at_ d ∧
      s.createRecord d now = .ok (s', t) := by
  cases heff with
  | keep => exact .inl rfl
  | lostRead => exact .inl rfl
  | lostMark => exact .inl rfl
  | insert hc hcreate => exact .inr ⟨_, _, _, _, _, hc, hcreate⟩
  | commit _ hupdate => exact .inl (by rw [stamps, updateBalance_records hupdate]; rfl)
  | mark _ hupdate => exact .inl (updateStatus_stamps hnodup hupdate)

/-! ## No two calls count one account at once -/

/-- No two calls are between the rate check and the insert on the same account. -/
def Exclusive (sys : System n) : Prop :=
  ∀ i j a a', (sys.calls i).phase.counted = some a → (sys.calls j).phase.counted = some a' →
    a.id = a'.id → i = j

/-- A call past its rate check holds its account's lock under strict limiting, and none
otherwise. -/
theorem Call.Coherent.lock_of_counted {s : Store} {c : Call} {a : Account}
    (hc : c.Coherent set s) (ha : c.phase.counted = some a) :
    c.lock = if set.strict then some a.id else none := by
  rcases c with ⟨r, p, l⟩
  cases p <;> simp only [Phase.counted, Option.some.injEq, reduceCtorEq] at ha
  all_goals subst ha
  case allowed => exact hc.lock
  case checked => exact hc.1.lock
  case drafted => exact hc.1.lock

/-- Under strict limiting the locks make the rate check and the insert exclusive. -/
theorem Coherent.exclusive {sys : System n} (hco : Coherent set sys) (hstrict : set.strict = true) :
    Exclusive sys := by
  intro i j a a' hi hj hid
  have hlocki := (hco.calls i).lock_of_counted hi
  have hlockj := (hco.calls j).lock_of_counted hj
  rw [hstrict, if_pos rfl] at hlocki hlockj
  rw [← hid] at hlockj
  exact hco.locks i j a.id hlocki hlockj

theorem Phase.isIdle_of_counted {p : Phase} {a : Account} (h : p.counted = some a) :
    p.isIdle = false := by
  cases p <;> first | rfl | cases h

/-- All calls but at most one are idle. -/
def OneAtATime (sys : System n) : Prop :=
  ∀ i j, i ≠ j → (sys.calls i).phase.isIdle = true ∨ (sys.calls j).phase.isIdle = true

theorem OneAtATime.exclusive {sys : System n} (h : OneAtATime sys) : Exclusive sys := by
  intro i j a a' hi hj _
  by_contra hne
  rcases h i j hne with hidle | hidle
  · rw [Phase.isIdle_of_counted hi] at hidle
    cases hidle
  · rw [Phase.isIdle_of_counted hj] at hidle
    cases hidle

/-- When a call steps only while all others are idle, at most one call is ever running. -/
theorem OneAtATime.reachable {env : Env} {sh : Shared} {reqs : Fin n → Request} {sys : System n}
    (hserial : env.serial) (hrun : Reachable set env (System.start sh reqs) sys) :
    OneAtATime sys := by
  induction hrun with
  | refl => exact fun i _ _ => .inl rfl
  | tail _ hstep ih =>
    cases hstep with
    | call i fault _ hturn =>
      -- every call but the one that stepped was idle, and is unchanged
      intro j k hjk
      dsimp only [System.advance]
      by_cases hj : j = i
      · subst hj
        rw [Function.update_of_ne (Ne.symm hjk)]
        exact .inr (hturn hserial k (Ne.symm hjk))
      · rw [Function.update_of_ne hj]
        exact .inl (hturn hserial j hj)
    | tick => exact ih

/-! ## The bound is invariant -/

/-- The rate bound with what keeps it: every window within the limit, and the guarantee
of every call past its rate check. -/
structure RateBounded (set : Setting) (sys : System n) : Prop where
  within : WithinLimit set.limit.maxPerMinute sys.shared.store
  counted : ∀ i, (sys.calls i).Counted set.limit.maxPerMinute sys.shared

/-- One step of one call keeps the rate bound when no other call is past its rate check on
the same account. Storing a draft adds one record to the windows holding its stamp, which
lie within the window the call counted. -/
theorem RateBounded.advance {sys : System n} (hco : Coherent set sys) (h : RateBounded set sys)
    (hexcl : Exclusive sys) (hon : set.limit.enabled = true) (i : Fin n)
    (fault : Option Failure) : RateBounded set (sys.advance set i fault) := by
  have hown : ((sys.calls i).step set sys.busy fault sys.shared).1.Counted
      set.limit.maxPerMinute ((sys.calls i).step set sys.busy fault sys.shared).2 :=
    (h.counted i).step hon
  have heff := Call.step_effect set sys.busy fault (sys.calls i) sys.shared
  have hclock := Call.step_clock set sys.busy fault (sys.calls i) sys.shared
  unfold System.advance
  generalize (sys.calls i).step set sys.busy fault sys.shared = res at hown heff hclock ⊢
  obtain ⟨c', s', clock', issued'⟩ := res
  dsimp only at hown heff hclock ⊢
  subst hclock
  -- call `i` has its own guarantee; every other call keeps the one it had
  have hcalls : (∀ j, j ≠ i → (sys.calls j).Counted set.limit.maxPerMinute
      ⟨s', sys.shared.clock, issued'⟩) → ∀ j, (Function.update sys.calls i c' j).Counted
        set.limit.maxPerMinute ⟨s', sys.shared.clock, issued'⟩ := fun hother =>
    (Function.forall_update_iff sys.calls fun _ c =>
      c.Counted set.limit.maxPerMinute ⟨s', sys.shared.clock, issued'⟩).2 ⟨hown, hother⟩
  rcases heff.stamps_or_insert hco.records with hkeep | ⟨a, b, at_, d, t, hc, hcreate⟩
  · -- no record stored: every count is as it was
    refine ⟨fun x t => (windowCount_congr hkeep x t).symm ▸ h.within x t, hcalls fun j _ => ?_⟩
    exact (h.counted j).mono (Int.le_refl _) fun a _ since => countSince_congr hkeep a.id since
  -- call `i` stored its draft, on the account it counted
  obtain ⟨-, rfl, rfl⟩ := createRecord_eq_ok hcreate
  have hdraft : Drafts (sys.calls i).request a d := by
    have hcall := hco.calls i
    simp only [Call.Coherent, hc] at hcall
    exact hcall.2.2
  obtain ⟨c₁, hc₁, hstamp, hlt⟩ : ∃ c₁ ≤ sys.shared.clock, c₁ ≤ d.timestamp ∧
      (sys.shared.store.countSince a.id (c₁.addNanos (-rateWindow)) : Int) <
        set.limit.maxPerMinute := by
    have hcount := h.counted i
    simp only [Call.Counted, hc] at hcount
    exact hcount
  have hτ : c₁ ≤ if d.timestamp.isZero then sys.shared.clock else d.timestamp := by
    split <;> assumption
  refine ⟨fun x t' => ?_, hcalls fun j hj => ?_⟩
  · rw [windowCount_append]
    dsimp only
    generalize (if d.timestamp.isZero then sys.shared.clock else d.timestamp) = τ at hτ ⊢
    split
    · -- a window holding the new record ends after the count began
      rename_i hin
      obtain ⟨hx, -, hhi⟩ := hin
      rw [hdraft.account] at hx
      subst hx
      have hle := windowCount_le_countSince sys.shared.store a.id
        ((Instant.le_iff _ _).2 (Int.le_trans hτ hhi))
      omega
    · simpa using h.within x t'
  · refine (h.counted j).mono (Int.le_refl _) fun a' ha' since => ?_
    -- no other call is past its rate check on the account the record went to
    have hne : a.id ≠ a'.id := fun hid =>
      hj (hexcl j i a' a ha' (by simp [Phase.counted, hc]) hid.symm)
    exact countSince_append_of_ne _ (by simpa [hdraft.account] using hne) since

/-- The rate bound holds in every run that starts with no records, whose clock never goes
back, and in which no two calls are ever past the rate check on one account at once. -/
theorem RateBounded.reachable {env : Env} {sh : Shared} {reqs : Fin n → Request}
    {sys : System n} (hopen : Opened sh.store) (hon : set.limit.enabled = true)
    (hlimit : 0 ≤ set.limit.maxPerMinute) (hclock : ∀ c t, env.clockMoves c t → c ≤ t)
    (hexcl : ∀ sys', Reachable set env (System.start sh reqs) sys' → Exclusive sys')
    (hrun : Reachable set env (System.start sh reqs) sys) : RateBounded set sys := by
  induction hrun with
  | refl =>
    refine ⟨fun x t => ?_, fun i => trivial⟩
    have hnone : (System.start sh reqs).shared.store.records = [] := hopen.facts.1
    simp [windowCount, hnone, hlimit]
  | tail hprev hstep ih =>
    cases hstep with
    | call i fault _ _ =>
      exact ih.advance (Coherent.reachable hopen hprev) (hexcl _ hprev) hon i fault
    | tick t hmove =>
      exact ⟨ih.within, fun i => (ih.counted i).mono (hclock _ _ hmove) fun _ _ _ => rfl⟩

/-- The rate bound under strict limiting, and under any enabled limiting when calls take
turns. -/
theorem WithinLimit.reachable {env : Env} {sh : Shared} {reqs : Fin n → Request}
    {sys : System n} (hmode : set.strict = true ∨ set.limit.enabled = true ∧ env.serial)
    (hlimit : 0 ≤ set.limit.maxPerMinute) (hopen : Opened sh.store)
    (hclock : ∀ c t, env.clockMoves c t → c ≤ t)
    (hrun : Reachable set env (System.start sh reqs) sys) :
    WithinLimit set.limit.maxPerMinute sys.shared.store := by
  have hon : set.limit.enabled = true := by
    rcases hmode with hstrict | ⟨hon, -⟩
    · exact (Bool.and_eq_true _ _).mp hstrict |>.1
    · exact hon
  refine (RateBounded.reachable hopen hon hlimit hclock (fun sys' hrun' => ?_) hrun).within
  rcases hmode with hstrict | ⟨-, hserial⟩
  · exact (Coherent.reachable hopen hrun').exclusive hstrict
  · exact (OneAtATime.reachable hserial hrun').exclusive

/-! ## Best-effort limiting with interleaved calls -/

/-- Best-effort limiting of one record a minute. -/
def bestEffortSetting : Setting := ⟨{ maxPerMinute := 1 }, {}⟩

/-- One account, number 7 with id 1, opened with a balance of 5 at instant 0. -/
def oneAccount : Shared := ⟨⟨1, [⟨1, [7], ⟨5, 0⟩, ⟨0, 0⟩, ⟨0, 0⟩, 0⟩], []⟩, ⟨0, 0⟩, 0⟩

theorem oneAccount_opened : Opened oneAccount.store :=
  .create .empty (show ({} : Store).createAccount ⟨0, [7], ⟨5, 0⟩, ⟨0, 0⟩, ⟨0, 0⟩, 0⟩ ⟨0, 0⟩ =
    .ok (_, _) from rfl)

/-- Two deposits of 1 to the account, both counting its records before either stores one. -/
def racingDeposits (set : Setting) : System 2 :=
  (System.start oneAccount fun _ => ⟨[7], ⟨1, 0⟩, .deposit⟩).run set
    [0, 1, 0, 1, 0, 0, 0, 1, 1, 1]

/-- Both deposits pass the check and are stored: the window ending at instant 0 holds two
records of the account. -/
theorem racingDeposits_overrun :
    1 < windowCount (racingDeposits bestEffortSetting).shared.store 1 ⟨0, 0⟩ := by
  decide +kernel

/-- Every window holds at most `maxPerMinute` records of an account under strict limiting, or
when calls take turns; two interleaved calls under best-effort limiting overrun it by one. -/
theorem window_holds_at_most_limit :
    (∀ (n : Nat) (set : Setting) (env : Env) (sh : Shared) (reqs : Fin n → Request)
      (sys : System n), (set.strict = true ∨ set.limit.enabled = true ∧ env.serial) →
      0 ≤ set.limit.maxPerMinute → Opened sh.store → (∀ c t, env.clockMoves c t → c ≤ t) →
      Reachable set env (System.start sh reqs) sys →
      ∀ x t, (windowCount sys.shared.store x t : Int) ≤ set.limit.maxPerMinute) ∧
    ∃ (set : Setting) (env : Env) (sh : Shared) (reqs : Fin 2 → Request) (sys : System 2),
      set.limit.enabled = true ∧ set.strict = false ∧ ¬env.serial ∧
      0 ≤ set.limit.maxPerMinute ∧ Opened sh.store ∧ (∀ c t, env.clockMoves c t → c ≤ t) ∧
      Reachable set env (System.start sh reqs) sys ∧
      ∃ x t, set.limit.maxPerMinute < (windowCount sys.shared.store x t : Int) := by
  refine ⟨fun _ _ _ _ _ _ hmode hlimit hopen hclock hrun =>
    WithinLimit.reachable hmode hlimit hopen hclock hrun, ?_⟩
  have hrun : Reachable bestEffortSetting ⟨fun _ => False, fun c t => c ≤ t, False⟩
      (System.start oneAccount fun _ => ⟨[7], ⟨1, 0⟩, .deposit⟩)
      (racingDeposits bestEffortSetting) :=
    System.reachable_run _ not_false _ _
  refine ⟨_, _, _, _, _, rfl, rfl, not_false, by decide, oneAccount_opened, fun _ _ h => h, hrun,
    1, ⟨0, 0⟩, ?_⟩
  show (1 : Int) < _
  exact_mod_cast racingDeposits_overrun

/-- The same two deposits under strict limiting: the window holds at most one record. -/
theorem window_holds_at_most_limit_of_strict_deposits :
    ∀ x t, (windowCount (racingDeposits ⟨{ maxPerMinute := 1, strict := true }, {}⟩).shared.store
      x t : Int) ≤ 1 :=
  window_holds_at_most_limit.1 2 ⟨{ maxPerMinute := 1, strict := true }, {}⟩
    ⟨fun _ => False, fun c t => c ≤ t, False⟩ oneAccount _ _ (.inl rfl) (by decide)
    oneAccount_opened (fun _ _ h => h) (System.reachable_run _ not_false _ _)

end Ledger.Interleaving
