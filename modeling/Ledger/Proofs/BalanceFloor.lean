import Ledger.Proofs.Coherence
/-!
# The balance floor holds across interleavings

Over accounts opened at zero or more, no interleaving makes a balance negative, and a
withdrawal commits only on the balance it checked: one checked against a changed balance
fails its compare-and-set.
-/

namespace Ledger.Interleaving

open Service Store

variable {set : Setting}

/-- The rules never give a negative balance to an account whose balance is not negative. -/
theorem applyRules_nonneg {rules : Rules} {now : Instant} {r : Request} {a : Account}
    {b : Decimal} (hvalid : validate rules r.amount r.type = .ok ())
    (hrules : applyRules rules now a r.amount r.type = .ok b) (hfloor : 0 ≤ a.balance.toRat) :
    0 ≤ b.toRat := by
  obtain ⟨-, hpos⟩ := validate_eq_ok hvalid
  rcases applyRules_eq_ok hrules with ⟨-, rfl⟩ | ⟨-, rfl, hcovers, -⟩
  · rw [Decimal.toRat_add]
    linarith
  · rw [Decimal.toRat_sub]
    linarith

/-- An account's age depends only on when it was opened. -/
theorem ageInDays_congr {a A : Account} (h : A.createdAt = a.createdAt) (now : Instant) :
    A.ageInDays now = a.ageInDays now := by
  simp only [Account.ageInDays, h]

theorem Phase.pending_of_outcome {p : Phase} {o : Outcome} (h : p.outcome = some o) :
    p.pending = none := by
  cases p <;> first | rfl | cases h

/-! ## No balance is negative -/

/-- No account's balance is negative. -/
def Floored (sys : System n) : Prop := ∀ A ∈ sys.shared.store.accounts, 0 ≤ A.balance.toRat

/-- One step of one call keeps every balance at least zero: a commit writes what the rules
gave the snapshot, whose balance was the stored one. -/
theorem Floored.advance {sys : System n} (hco : Coherent set sys) (hfl : Floored sys) (i : Fin n)
    (fault : Option Failure) : Floored (sys.advance set i fault) := by
  have heff := Call.step_effect set sys.busy fault (sys.calls i) sys.shared
  unfold System.advance
  generalize (sys.calls i).step set sys.busy fault sys.shared = res at heff ⊢
  obtain ⟨c', s', clock', issued'⟩ := res
  dsimp only at heff
  intro A' hA'
  change A' ∈ s'.accounts at hA'
  cases heff with
  | @commit a b at_ t _ v changed hc hupdate =>
    obtain ⟨B, hB, -, -, hBbal, -, hs'⟩ := hco.commit_current hc hupdate
    obtain ⟨hsnap, hrules, -⟩ := hco.stored hc
    rw [hs'] at hA'
    obtain ⟨A, hA, rfl⟩ := List.mem_map.mp hA'
    by_cases hAid : A.id = a.id
    · simp only [hAid, beq_self_eq_true, if_true, balanceUpdated]
      exact applyRules_nonneg hsnap.valid hrules (hBbal ▸ hfl B hB)
    · have hif : (A.id == a.id) = false := by simpa using hAid
      simp only [hif, Bool.false_eq_true, if_false]
      exact hfl A hA
  | insert _ hcreate =>
    rw [createRecord_accounts hcreate] at hA'
    exact hfl A' hA'
  | mark _ hupdate =>
    rw [updateStatus_accounts hupdate] at hA'
    exact hfl A' hA'
  | _ => exact hfl A' hA'

/-- No balance becomes negative in a run over accounts opened with balances of at least
zero. -/
theorem Floored.reachable {env : Env} {sh : Shared} {reqs : Fin n → Request} {sys : System n}
    (hopen : Opened sh.store) (hfloor : ∀ A ∈ sh.store.accounts, 0 ≤ A.balance.toRat)
    (hrun : Reachable set env (System.start sh reqs) sys) : Floored sys := by
  induction hrun with
  | refl => exact hfloor
  | tail hprev hstep ih =>
    cases hstep with
    | call i fault _ _ => exact ih.advance (Coherent.reachable hopen hprev) i fault
    | tick => exact ih

/-! ## A withdrawal commits only on the balance it checked -/

/-- The step of a withdrawal that commits: the stored account had the snapshot's version and
balance, the balance written is that balance less the amount, and the rules' floor holds of
it as of the check. -/
theorem Coherent.withdrawal_commit {sys : System n} (hco : Coherent set sys) {i : Fin n}
    {fault : Option Failure} {a : Account} {b : Decimal} {at_ : Instant} {t : Transaction}
    {o : Transaction × Account} (hc : (sys.calls i).phase = .stored a b at_ t)
    (htype : (sys.calls i).request.type = .withdrawal)
    (hcommit : ((sys.advance set i fault).calls i).phase.outcome = some (.ok o)) :
    ∃ A ∈ sys.shared.store.accounts, A.id = a.id ∧ A.version = a.version ∧
      A.balance = a.balance ∧ b = a.balance.sub (sys.calls i).request.amount ∧
      (∀ A' ∈ (sys.advance set i fault).shared.store.accounts, A'.id = a.id → A'.balance = b) ∧
      0 ≤ b.toRat ∧
      (set.rules.graceDays < A.ageInDays at_ → set.rules.minimumBalance.toRat ≤ b.toRat) := by
  have heff := Call.step_effect set sys.busy fault (sys.calls i) sys.shared
  simp only [System.advance, Function.update_self] at hcommit ⊢
  generalize (sys.calls i).step set sys.busy fault sys.shared = res at heff hcommit ⊢
  obtain ⟨c', s', clock', issued'⟩ := res
  dsimp only at heff hcommit ⊢
  -- only a commit gives the call an outcome while it holds its record
  cases heff with
  | keep hpending =>
    rw [Phase.pending_of_outcome hcommit, hc] at hpending
    cases hpending
  | lostRead hc' => rw [hc] at hc'; cases hc'
  | lostMark hc' => rw [hc] at hc'; cases hc'
  | insert hc' => rw [hc] at hc'; cases hc'
  | mark hc' => rw [hc] at hc'; cases hc'
  | commit hc' hupdate =>
    rw [hc, Phase.stored.injEq] at hc'
    obtain ⟨rfl, rfl, rfl, rfl⟩ := hc'
    obtain ⟨B, hB, hBid, hversion, hBbal, hcreated, hs'⟩ := hco.commit_current hc hupdate
    obtain ⟨-, hrules, -⟩ := hco.stored hc
    rcases applyRules_eq_ok hrules with ⟨hdeposit, -⟩ | ⟨-, hb, hcovers, hmin⟩
    · rw [htype] at hdeposit
      cases hdeposit
    refine ⟨B, hB, hBid, hversion, hBbal, hb, ?_, ?_, ?_⟩
    · -- the account written is the one found, now with the new balance
      intro A' hA' hid'
      rw [hs'] at hA'
      obtain ⟨A, hA, rfl⟩ := List.mem_map.mp hA'
      by_cases hAid : A.id = a.id
      · simp [hAid, balanceUpdated]
      · have hif : (A.id == a.id) = false := by simpa using hAid
        simp only [hif, Bool.false_eq_true, if_false] at hid'
        exact absurd hid' hAid
    · rw [hb, Decimal.toRat_sub]
      linarith
    · rw [ageInDays_congr hcreated]
      exact hmin

/-- No run of interleaved calls makes a balance negative, and a withdrawal commits only on the
balance its rules were applied to. -/
theorem withdrawal_commits_on_checked_balance {env : Env} {sh : Shared}
    {reqs : Fin n → Request} {sys : System n} (hopen : Opened sh.store)
    (hfloor : ∀ A ∈ sh.store.accounts, 0 ≤ A.balance.toRat)
    (hrun : Reachable set env (System.start sh reqs) sys) :
    (∀ A ∈ sys.shared.store.accounts, 0 ≤ A.balance.toRat) ∧
      ∀ (i : Fin n) (fault : Option Failure) (a : Account) (b : Decimal) (at_ : Instant)
        (t : Transaction) (o : Transaction × Account),
        (sys.calls i).phase = .stored a b at_ t → (sys.calls i).request.type = .withdrawal →
        ((sys.advance set i fault).calls i).phase.outcome = some (.ok o) →
        ∃ A ∈ sys.shared.store.accounts, A.id = a.id ∧ A.version = a.version ∧
          A.balance = a.balance ∧ b = a.balance.sub (sys.calls i).request.amount ∧
          (∀ A' ∈ (sys.advance set i fault).shared.store.accounts, A'.id = a.id →
            A'.balance = b) ∧
          0 ≤ b.toRat ∧
          (set.rules.graceDays < A.ageInDays at_ → set.rules.minimumBalance.toRat ≤ b.toRat) :=
  ⟨Floored.reachable hopen hfloor hrun, fun _ _ _ _ _ _ _ hc htype hcommit =>
    (Coherent.reachable hopen hrun).withdrawal_commit hc htype hcommit⟩

/-- Two withdrawals of 3 from an account opened with 5, their steps interleaved one by one:
the floor holds when both have returned. -/
theorem withdrawal_commits_on_checked_balance_of_two_withdrawals :
    let set : Setting := ⟨{}, {}⟩
    let sys := (System.start ⟨⟨1, [⟨1, [7], ⟨5, 0⟩, ⟨0, 0⟩, ⟨0, 0⟩, 0⟩], []⟩, ⟨0, 0⟩, 0⟩
      fun _ : Fin 2 => ⟨[7], ⟨3, 0⟩, .withdrawal⟩).run set
        [0, 1, 0, 1, 0, 1, 0, 1, 0, 1, 0, 1, 0, 1]
    (∀ A ∈ sys.shared.store.accounts, 0 ≤ A.balance.toRat) ∧
      ∀ (i : Fin 2) (fault : Option Failure) (a : Account) (b : Decimal) (at_ : Instant)
        (t : Transaction) (o : Transaction × Account),
        (sys.calls i).phase = .stored a b at_ t → (sys.calls i).request.type = .withdrawal →
        ((sys.advance set i fault).calls i).phase.outcome = some (.ok o) →
        ∃ A ∈ sys.shared.store.accounts, A.id = a.id ∧ A.version = a.version ∧
          A.balance = a.balance ∧ b = a.balance.sub (sys.calls i).request.amount ∧
          (∀ A' ∈ (sys.advance set i fault).shared.store.accounts, A'.id = a.id →
            A'.balance = b) ∧
          0 ≤ b.toRat ∧
          (set.rules.graceDays < A.ageInDays at_ → set.rules.minimumBalance.toRat ≤ b.toRat) :=
  withdrawal_commits_on_checked_balance
    (.create .empty (show ({} : Store).createAccount ⟨0, [7], ⟨5, 0⟩, ⟨0, 0⟩, ⟨0, 0⟩, 0⟩ ⟨0, 0⟩ =
      .ok (_, _) from rfl))
    (by simp [Decimal.toRat])
    (System.reachable_run _ (show ¬(⟨fun _ => False, fun _ _ => True, False⟩ : Env).serial from
      not_false) _ _)

end Ledger.Interleaving
