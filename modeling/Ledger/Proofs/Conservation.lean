import Ledger.Proofs.Coherence
/-!
# Conservation: a balance is what its settled records add up to

Over any interleaving of calls, with store calls failing anywhere but in the compensation,
every balance is its opening balance plus its settled deposits minus its settled withdrawals,
and its version counts its settled records. No update is lost.
-/

namespace Ledger.Interleaving

open Service Store

/-! ## Sums over records -/

/-- The sum of the amounts of the records of one type. -/
def total (rs : List Transaction) (type : TxnType) : ℚ :=
  ((rs.filter (·.type == type)).map (·.amount.toRat)).sum

/-- What a record moves its account's balance by: a deposit adds its amount, a withdrawal
takes it away. -/
def signed (t : Transaction) : ℚ :=
  match t.type with
  | .deposit => t.amount.toRat
  | .withdrawal => -t.amount.toRat
  | .other _ => 0

theorem sum_signed (rs : List Transaction) :
    (rs.map signed).sum = total rs .deposit - total rs .withdrawal := by
  induction rs with
  | nil => simp [total]
  | cons t rs ih =>
    rw [List.map_cons, List.sum_cons, ih]
    rcases ht : t.type with _ | _ | s <;> simp [total, signed, ht] <;> ring

/-- The balance the rules give a validated request is the snapshot's balance moved by a
record drafted for the request. -/
theorem applyRules_signed {rules : Rules} {now : Instant} {r : Request} {a : Account}
    {b : Decimal} {t : Transaction} (hvalid : validate rules r.amount r.type = .ok ())
    (hrules : applyRules rules now a r.amount r.type = .ok b) (hdraft : Drafts r a t) :
    b.toRat = a.balance.toRat + signed t := by
  obtain ⟨htype, -⟩ := validate_eq_ok hvalid
  rcases applyRules_eq_ok hrules with ⟨hdeposit, rfl⟩ | ⟨hdeposit, rfl, -⟩
  · simp [signed, hdraft.type, hdeposit, hdraft.amount, Decimal.toRat_add]
  · have hwithdrawal : r.type = .withdrawal := htype.resolve_left hdeposit
    simp [signed, hdraft.type, hwithdrawal, hdraft.amount, Decimal.toRat_sub, sub_eq_add_neg]

/-- Letting one more record of a list with distinct ids through a filter adds exactly that
record. -/
theorem filter_perm_admit {rs : List Transaction} {P Q : Transaction → Bool} {t : Transaction}
    (hnodup : (rs.map (·.id)).Nodup) (ht : t ∈ rs) (hP : P t = false) (hQ : Q t = true)
    (hagree : ∀ q ∈ rs, q.id ≠ t.id → Q q = P q) : (rs.filter Q).Perm (t :: rs.filter P) := by
  induction rs with
  | nil => cases ht
  | cons q rs ih =>
    rw [List.map_cons, List.nodup_cons] at hnodup
    have hfresh : ∀ q' ∈ rs, q'.id ≠ q.id :=
      fun q' hq' h => hnodup.1 (List.mem_map.mpr ⟨q', hq', h⟩)
    rcases List.mem_cons.mp ht with rfl | hrest
    · -- the record let through is the head; the others have other ids
      have hsame : rs.filter Q = rs.filter P :=
        List.filter_congr fun q' hq' => hagree q' (.tail _ hq') (hfresh q' hq')
      rw [List.filter_cons_of_pos hQ, List.filter_cons_of_neg (by simp [hP]), hsame]
    · have hq : Q q = P q := hagree q (.head _) fun h => hfresh t hrest h.symm
      have ih' := ih hnodup.2 hrest fun q' hq' => hagree q' (.tail _ hq')
      by_cases hPq : P q = true
      · rw [List.filter_cons_of_pos (hq ▸ hPq), List.filter_cons_of_pos hPq]
        exact (ih'.cons q).trans (.swap t q _)
      · rw [List.filter_cons_of_neg (by rwa [hq]), List.filter_cons_of_neg hPq]
        exact ih'

/-! ## Settled records -/

/-- The completed records of an account that `held` does not hold. -/
def settledIn (rs : List Transaction) (held : Uuid → Bool) (x : Int) : List Transaction :=
  rs.filter fun q => q.accountId == x && q.status == .completed && !held q.id

/-- Whether some call holds a record unsettled. -/
def System.holds (sys : System n) (id : Uuid) : Bool :=
  decide (∃ j, (sys.calls j).phase.pending = some id)

/-- The records settled on an account: completed, and held by no call. -/
def System.settled (sys : System n) (x : Int) : List Transaction :=
  settledIn sys.shared.store.records sys.holds x

/-- An account's settled records depend only on which of its records are held. -/
theorem settledIn_congr {rs : List Transaction} {held held' : Uuid → Bool} (x : Int)
    (h : ∀ q ∈ rs, q.accountId = x → held' q.id = held q.id) :
    settledIn rs held' x = settledIn rs held x :=
  List.filter_congr fun q hq => by
    by_cases hx : q.accountId = x
    · rw [h q hq hx]
    · have hx' : (q.accountId == x) = false := by simpa using hx
      simp [hx']

/-- A record stored held joins no account's settled records. -/
theorem settledIn_append_held {rs : List Transaction} {held : Uuid → Bool} {t : Transaction}
    (x : Int) (ht : held t.id = true) : settledIn (rs ++ [t]) held x = settledIn rs held x := by
  simp [settledIn, List.filter_append, ht]

/-- Marking a held record failed changes no account's settled records. -/
theorem settledIn_mark {rs : List Transaction} {held held' : Uuid → Bool} {id : Uuid}
    {q : Transaction} {now : Instant} (x : Int) (hheld : held id = true)
    (hagree : ∀ y, y ≠ id → held' y = held y) :
    settledIn (rs.map fun r => if r.id == id then statusUpdated q .failed now else r) held' x =
      settledIn rs held x := by
  unfold settledIn
  rw [List.filter_map]
  rw [List.filter_congr (q := fun r => r.accountId == x && r.status == .completed && !held r.id)
    fun r _ => by
      by_cases hr : r.id = id
      · simp [hr, statusUpdated, hheld]
      · simp [hr, hagree r.id hr]]
  -- the records that stay settled are not the marked one, which is held
  refine (List.map_congr_left fun r hr => ?_).trans (List.map_id _)
  have hne : r.id ≠ id := by
    rintro rfl
    simp [hheld] at hr
  simp [hne]

variable {set : Setting}

/-! ## Which calls hold which records after a step -/

section Holds

variable {sys : System n} {i : Fin n} {c' : Call} {sh' : Shared}

theorem holds_update (y : Uuid) :
    (⟨sh', Function.update sys.calls i c'⟩ : System n).holds y = true ↔
      c'.phase.pending = some y ∨ ∃ j, j ≠ i ∧ (sys.calls j).phase.pending = some y := by
  simp only [System.holds, decide_eq_true_eq]
  constructor
  · rintro ⟨j, hj⟩
    by_cases hji : j = i
    · subst hji
      exact .inl (by simpa using hj)
    · exact .inr ⟨j, hji, by simpa [Function.update_of_ne hji] using hj⟩
  · rintro (hi | ⟨j, hji, hj⟩)
    · exact ⟨i, by simpa using hi⟩
    · exact ⟨j, by simpa [Function.update_of_ne hji] using hj⟩

/-- A record that the stepping call held neither before nor after its step is held as it
was. -/
theorem holds_update_of_ne {y : Uuid} (hbefore : (sys.calls i).phase.pending ≠ some y)
    (hafter : c'.phase.pending ≠ some y) :
    (⟨sh', Function.update sys.calls i c'⟩ : System n).holds y = sys.holds y := by
  rw [Bool.eq_iff_iff, holds_update, System.holds, decide_eq_true_eq]
  constructor
  · rintro (h | ⟨j, -, hj⟩)
    · exact absurd h hafter
    · exact ⟨j, hj⟩
  · rintro ⟨j, hj⟩
    have hji : j ≠ i := by
      rintro rfl
      exact hbefore hj
    exact .inr ⟨j, hji, hj⟩

/-- A record the stepping call let go of is held by no call, since no two calls hold the
same record. -/
theorem holds_update_released {y : Uuid}
    (hunique : ∀ j, (sys.calls j).phase.pending = some y → j = i)
    (hafter : c'.phase.pending ≠ some y) :
    (⟨sh', Function.update sys.calls i c'⟩ : System n).holds y = false := by
  rw [Bool.eq_false_iff, ne_eq, holds_update]
  rintro (h | ⟨j, hji, hj⟩)
  · exact hafter h
  · exact hji (hunique j hj)

end Holds

/-! ## The ledger invariant -/

/-- Every account's balance is its opening balance moved by its settled records, and its
version counts them. -/
def Balanced (s₀ : Store) (sys : System n) : Prop :=
  ∀ A ∈ sys.shared.store.accounts, ∃ A₀ ∈ s₀.accounts, A₀.id = A.id ∧
    A.balance.toRat = A₀.balance.toRat + ((sys.settled A.id).map signed).sum ∧
    A.version = (sys.settled A.id).length

theorem Balanced.of_settled {s₀ : Store} {sys sys' : System n} (hbal : Balanced s₀ sys)
    (hacc : sys'.shared.store.accounts = sys.shared.store.accounts)
    (hsettled : ∀ x, sys'.settled x = sys.settled x) : Balanced s₀ sys' := by
  intro A hA
  rw [hacc] at hA
  rw [hsettled]
  exact hbal A hA

theorem holds_update_of_pending {sys : System n} {i : Fin n} {c' : Call} {sh' : Shared}
    (hpending : c'.phase.pending = (sys.calls i).phase.pending) :
    (⟨sh', Function.update sys.calls i c'⟩ : System n).holds = sys.holds := by
  funext y
  by_cases hy : (sys.calls i).phase.pending = some y
  · rw [(holds_update y).mpr (.inl (hpending.trans hy))]
    exact (decide_eq_true ⟨i, hy⟩).symm
  · exact holds_update_of_ne hy (hpending ▸ hy)

/-- A commit moves its account's balance and version by the committed record, which it
lets go of and so settles; every other account keeps its balance and its settled
records. -/
theorem Balanced.commit {s₀ : Store} {sys : System n} (hco : Coherent set sys)
    (hbal : Balanced s₀ sys) {i : Fin n} {a : Account} {b : Decimal} {at_ : Instant}
    {t : Transaction} {s' : Store} {v : Int} {changed : Instant} {c' : Call} {clock' : Instant}
    {issued' : Nat} (hc : (sys.calls i).phase = .stored a b at_ t)
    (hupdate : sys.shared.store.updateBalance a.id a.version b sys.shared.clock =
      .ok (s', v, changed))
    (hfree : c'.phase.pending = none) :
    Balanced s₀ ⟨⟨s', clock', issued'⟩, Function.update sys.calls i c'⟩ := by
  set sys' : System n := ⟨⟨s', clock', issued'⟩, Function.update sys.calls i c'⟩
  -- the commit writes to the account whose balance the call's snapshot holds
  obtain ⟨B, hB, hBid, -, hBbal, -, hs'⟩ := hco.commit_current hc hupdate
  have hrecords : s'.records = sys.shared.store.records := updateBalance_records hupdate
  obtain ⟨hsnap, hrules, hdraft, ht⟩ := hco.stored hc
  have hheld : sys.holds t.id = true := decide_eq_true ⟨i, by rw [hc]; rfl⟩
  have hreleased : sys'.holds t.id = false :=
    holds_update_released (fun j hj => hco.pending j i t.id hj (by rw [hc]; rfl)) (by simp [hfree])
  have hagree : ∀ q ∈ sys.shared.store.records, q.id ≠ t.id → sys'.holds q.id = sys.holds q.id :=
    fun q _ hq =>
      holds_update_of_ne (by rw [hc]; simpa [Phase.pending] using Ne.symm hq) (by simp [hfree])
  intro A' hA'
  have hmem : A' ∈ s'.accounts := hA'
  rw [hs'] at hmem
  obtain ⟨A, hA, rfl⟩ := List.mem_map.mp hmem
  obtain ⟨A₀, hA₀, hid₀, hbalance, hcount⟩ := hbal A hA
  by_cases hAid : A.id = a.id
  · -- the account committed to: the committed record joins its settled records
    have hAB : A = B := List.inj_on_of_nodup_map hco.ids hA hB (hAid.trans hBid.symm)
    subst hAB
    have hperm : (sys'.settled a.id).Perm (t :: sys.settled a.id) := by
      unfold System.settled
      rw [hrecords, ← hdraft.account]
      exact filter_perm_admit hco.records ht (by simp [hheld])
        (by simp [hdraft.status, hreleased]) fun q hq hne => by rw [hagree q hq hne]
    have hsum := (hperm.map signed).sum_eq
    have hlen := hperm.length_eq
    have hb := applyRules_signed hsnap.valid hrules hdraft
    simp only [hAid, beq_self_eq_true, if_true, balanceUpdated] at hbalance hcount hid₀ ⊢
    refine ⟨A₀, hA₀, hid₀, ?_, ?_⟩
    · rw [hsum, List.map_cons, List.sum_cons, hb, ← hBbal, hbalance]
      ring
    · rw [hlen, List.length_cons, hcount]
      push_cast
      rfl
  · -- another account: the committed record is not one of its records
    have hsame : sys'.settled A.id = sys.settled A.id := by
      unfold System.settled
      rw [hrecords]
      refine settledIn_congr _ fun q hq hqA => hagree q hq fun hqt => hAid ?_
      have hqt' : q = t := List.inj_on_of_nodup_map hco.records hq ht hqt
      rw [← hqA, hqt', hdraft.account]
    have hif : (A.id == a.id) = false := by simpa using hAid
    simp only [hif, Bool.false_eq_true, if_false]
    exact ⟨A₀, hA₀, hid₀, hsame ▸ hbalance, hsame ▸ hcount⟩

/-- One step of one call keeps the ledger, when the compensation's store calls are not made
to fail. -/
theorem Balanced.advance {s₀ : Store} {sys : System n} (hco : Coherent set sys)
    (hbal : Balanced s₀ sys) (i : Fin n) (fault : Option Failure)
    (hfix : ∀ f ∈ fault, ∃ op, (sys.calls i).phase.storeOp set = some op ∧
      op ≠ .findRecord ∧ op ≠ .updateStatus) :
    Balanced s₀ (sys.advance set i fault) := by
  have heff := Call.step_effect set sys.busy fault (sys.calls i) sys.shared
  unfold System.advance
  generalize (sys.calls i).step set sys.busy fault sys.shared = res at heff ⊢
  obtain ⟨c', s', clock', issued'⟩ := res
  dsimp only at heff
  cases heff with
  | keep hpending =>
    -- the same records, held by the same calls
    exact hbal.of_settled rfl fun x => by
      simp only [System.settled, holds_update_of_pending hpending]
  | lostRead hc hfail =>
    -- the compensation's read is not made to fail, and the record it reads is stored
    exfalso
    rcases hfail with hsome | ⟨e, herr⟩
    · obtain ⟨f, hf⟩ := Option.isSome_iff_exists.mp hsome
      obtain ⟨op, hop, hne, -⟩ := hfix f hf
      simp only [hc, Phase.storeOp, Option.some.injEq] at hop
      exact hne hop.symm
    · have hcall := hco.calls i
      simp only [Call.Coherent, hc] at hcall
      obtain ⟨q, hq, rfl, -⟩ := hcall
      obtain ⟨t, ht⟩ := findRecord_ok_of_mem hq rfl
      rw [ht] at herr
      cases herr
  | lostMark hc hfail =>
    -- the compensation's mark is not made to fail, and the record it marks is completed
    exfalso
    rcases hfail with hsome | ⟨e, herr⟩
    · obtain ⟨f, hf⟩ := Option.isSome_iff_exists.mp hsome
      obtain ⟨op, hop, -, hne⟩ := hfix f hf
      simp only [hc, Phase.storeOp, Option.some.injEq] at hop
      exact hne hop.symm
    · have hcall := hco.calls i
      simp only [Call.Coherent, hc] at hcall
      obtain ⟨q, hq, rfl, hstatus, rfl⟩ := hcall
      obtain ⟨r, hr⟩ : ∃ r, sys.shared.store.updateStatus q.id .failed q.version
          sys.shared.clock = .ok r :=
        updateStatus_failed_ok (find?_id_of_mem hco.records hq) hstatus
      rw [hr] at herr
      cases herr
  | insert hc hcreate =>
    obtain ⟨hfresh, rfl, rfl⟩ := createRecord_eq_ok hcreate
    refine hbal.of_settled rfl fun x => ?_
    -- the stored record is held by its call; every other record keeps its side
    unfold System.settled
    rw [settledIn_append_held x ((holds_update _).mpr (.inl rfl))]
    exact settledIn_congr x fun q hq _ => holds_update_of_ne (by simp [hc, Phase.pending])
      (by simpa [Phase.pending] using (hfresh q hq).symm)
  | commit hc hupdate => exact hbal.commit hco hc hupdate (by simp)
  | @mark id f v s'' r hc hupdate =>
    obtain ⟨q, -, -, -, rfl⟩ := updateStatus_eq_ok hupdate
    refine hbal.of_settled rfl fun x => ?_
    have hheld : sys.holds id = true := decide_eq_true ⟨i, by rw [hc]; rfl⟩
    exact settledIn_mark x hheld fun y hy =>
      holds_update_of_ne (by simpa [hc, Phase.pending] using Ne.symm hy) (by simp)

/-- Before any call starts, over opened accounts, the ledger holds: no records, version 0. -/
theorem Balanced.start {sh : Shared} (reqs : Fin n → Request) (hopen : Opened sh.store) :
    Balanced sh.store (System.start sh reqs) := by
  obtain ⟨hrecords, hversions, -⟩ := hopen.facts
  intro A hA
  refine ⟨A, hA, rfl, ?_, ?_⟩
  · simp [System.settled, settledIn, System.start, hrecords]
  · simp [System.settled, settledIn, System.start, hrecords, (hversions A hA).1]

/-- The ledger holds in every run from calls not yet started over opened accounts, as long
as the compensation's store calls are not made to fail. -/
theorem Balanced.reachable {env : Env} {sh : Shared} {reqs : Fin n → Request} {sys : System n}
    (hopen : Opened sh.store)
    (hsafe : ∀ op, env.mayFail op → op ≠ .findRecord ∧ op ≠ .updateStatus)
    (hrun : Reachable set env (System.start sh reqs) sys) : Balanced sh.store sys := by
  induction hrun with
  | refl => exact .start reqs hopen
  | tail hprev hstep ih =>
    have hco := Coherent.reachable hopen hprev
    cases hstep with
    | call i fault hfault _ =>
      exact ih.advance hco i fault fun f hf => by
        obtain ⟨op, hop, hmay⟩ := hfault f hf
        exact ⟨op, hop, hsafe op hmay⟩
    | tick => exact ih.of_settled rfl fun x => rfl

/-- In every run of interleaved calls, each balance is its opening balance plus its settled
deposits minus its settled withdrawals, and its version counts its settled records. -/
theorem balance_eq_opening_add_settled {env : Env} {sh : Shared} {reqs : Fin n → Request}
    {sys : System n} (hopen : Opened sh.store)
    (hsafe : ∀ op, env.mayFail op → op ≠ .findRecord ∧ op ≠ .updateStatus)
    (hrun : Reachable set env (System.start sh reqs) sys) :
    ∀ A ∈ sys.shared.store.accounts, ∃ A₀ ∈ sh.store.accounts, A₀.id = A.id ∧
      A.balance.toRat = A₀.balance.toRat + total (sys.settled A.id) .deposit -
        total (sys.settled A.id) .withdrawal ∧
      A.version = (sys.settled A.id).length := by
  intro A hA
  obtain ⟨A₀, hA₀, hid, hbalance, hversion⟩ := Balanced.reachable hopen hsafe hrun A hA
  refine ⟨A₀, hA₀, hid, ?_, hversion⟩
  rw [hbalance, sum_signed]
  ring

/-- Two withdrawals of 3 from an account opened with 5, their steps interleaved one by one:
the ledger holds when both have returned. -/
theorem balance_eq_opening_add_settled_of_two_withdrawals :
    let opened : Account := ⟨1, [7], ⟨5, 0⟩, ⟨0, 0⟩, ⟨0, 0⟩, 0⟩
    let sys := (System.start ⟨⟨1, [opened], []⟩, ⟨0, 0⟩, 0⟩
      fun _ : Fin 2 => ⟨[7], ⟨3, 0⟩, .withdrawal⟩).run ⟨{}, {}⟩
        [0, 1, 0, 1, 0, 1, 0, 1, 0, 1, 0, 1, 0, 1]
    ∀ A ∈ sys.shared.store.accounts, ∃ A₀ ∈ [opened], A₀.id = A.id ∧
      A.balance.toRat = A₀.balance.toRat + total (sys.settled A.id) .deposit -
        total (sys.settled A.id) .withdrawal ∧
      A.version = (sys.settled A.id).length :=
  balance_eq_opening_add_settled
    (.create .empty (show ({} : Store).createAccount ⟨0, [7], ⟨5, 0⟩, ⟨0, 0⟩, ⟨0, 0⟩, 0⟩ ⟨0, 0⟩ =
      .ok (_, _) from rfl))
    (fun _ hfail => False.elim hfail)
    (System.reachable_run _ (show ¬(⟨fun _ => False, fun _ _ => True, False⟩ : Env).serial from
      not_false) _ _)

end Ledger.Interleaving
